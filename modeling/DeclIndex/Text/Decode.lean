/-!
# Decoding files

Source files are UTF-8. Octets that are none are replaced, one replacement for each longest piece that could have begun a
character. All line ends become line feeds.
-/

namespace DeclIndex.Text

/-- What stands for octets that are no UTF-8. -/
def replacement : Char := Char.ofNat 0xFFFD

/-- A character that has begun: its code so far, how many octets it still needs, and the bounds of the next one. -/
structure Begun where
  code : Nat
  needed : Nat
  low : Nat := 0x80
  high : Nat := 0xBF

/-- What an octet begins, if it begins a character of more than one octet. -/
def begin? (octet : Nat) : Option Begun :=
  if 0xC2 ≤ octet && octet ≤ 0xDF then some { code := octet - 0xC0, needed := 1 }
  else if octet = 0xE0 then some { code := 0, needed := 2, low := 0xA0 }
  else if octet = 0xED then some { code := 13, needed := 2, high := 0x9F }
  else if 0xE1 ≤ octet && octet ≤ 0xEF then some { code := octet - 0xE0, needed := 2 }
  else if octet = 0xF0 then some { code := 0, needed := 3, low := 0x90 }
  else if octet = 0xF4 then some { code := 4, needed := 3, high := 0x8F }
  else if 0xF1 ≤ octet && octet ≤ 0xF3 then some { code := octet - 0xF0, needed := 3 }
  else none

/-- The characters read so far, last first, and the character that has begun. -/
structure Decoder where
  done : List Char := []
  begun : Option Begun := none

/-- Reads an octet between characters. -/
def Decoder.start (done : List Char) (octet : Nat) : Decoder :=
  if octet < 0x80 then ⟨Char.ofNat octet :: done, none⟩
  else
    match begin? octet with
    | some begun => ⟨done, some begun⟩
    | none => ⟨replacement :: done, none⟩

/-- Reads an octet. One that cannot go on with what has begun ends it and is read again. -/
def Decoder.read (decoder : Decoder) (octet : Nat) : Decoder :=
  match decoder.begun with
  | none => Decoder.start decoder.done octet
  | some begun =>
    if begun.low ≤ octet && octet ≤ begun.high then
      let code := begun.code * 64 + (octet - 0x80)
      if begun.needed = 1 then ⟨Char.ofNat code :: decoder.done, none⟩
      else ⟨decoder.done, some { code := code, needed := begun.needed - 1 }⟩
    else Decoder.start (replacement :: decoder.done) octet

/-- The characters of a sequence of octets. -/
def decode (octets : List UInt8) : List Char :=
  let decoder : Decoder := octets.foldl (fun decoder octet => decoder.read octet.toNat) {}
  let done := if decoder.begun.isSome then replacement :: decoder.done else decoder.done
  done.reverse

/-- The text with line feeds at the end of lines, put behind what was read so far, which is given last first. -/
def lineFeedsFrom (done : List Char) : List Char → List Char
  | [] => done.reverse
  | '\r' :: '\n' :: rest => lineFeedsFrom ('\n' :: done) rest
  | c :: rest => lineFeedsFrom ((if c = '\r' then '\n' else c) :: done) rest

/-- A text in which every line ends with a line feed: carriage returns become line feeds, or vanish before one. -/
def lineFeeds (text : List Char) : List Char :=
  lineFeedsFrom [] text

/-- The text of a source file. -/
def sourceText (bytes : ByteArray) : String :=
  String.ofList (lineFeeds (decode bytes.toList))

end DeclIndex.Text
