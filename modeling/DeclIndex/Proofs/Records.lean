import DeclIndex.Library.Store

/-!
# Records read back

Every record that is written is complete and is read back as it was. So a stored library loads as its modules, the packages
that have counters and its time, and nothing else in the file counts.
-/

namespace DeclIndex

/-! ## Lists of records -/

/-- Records that are read back one by one are read back in an array. -/
theorem mapM_read {α : Type} {write : α → Json} {read : Json → Option α} (inverse : ∀ value, read (write value) = some value)
    (list : List α) : list.mapM (read ∘ write) = some list := by
  induction list with
  | nil => rfl
  | cons value rest ih =>
    rw [List.mapM_cons, Function.comp_apply, inverse, ih]
    rfl

/-- Records that are completed one by one are completed in an array. -/
theorem mapM_complete {α : Type} {write whole : α → Json} {complete : Json → Except LoadError Json}
    (completed : ∀ value, complete (write value) = .ok (whole value)) (list : List α) :
    list.mapM (complete ∘ write) = .ok (list.map whole) := by
  induction list with
  | nil => rfl
  | cons value rest ih =>
    rw [List.mapM_cons, Function.comp_apply, completed, ih]
    rfl

@[simp] theorem mapM_asText?_str (texts : List String) : texts.mapM (Json.asText? ∘ Json.str) = some texts :=
  @mapM_read String Json.str Json.asText? (fun _ => rfl) texts

/-! ## Reading fields back -/

attribute [local simp] Json.text? Json.flag? Json.nat? Json.list? Json.optionalText? Json.get? valueAt? Json.strings
  Json.optional Json.nat records

theorem Parameter.ofJson?_toJson (p : Parameter) : Parameter.ofJson? p.toJson = some p := by
  simp [Parameter.ofJson?, Parameter.toJson]

theorem Import.ofJson?_toJson (i : Import) : Import.ofJson? i.toJson = some i := by
  obtain ⟨_, _, renamed, _, _, _⟩ := i
  cases renamed <;> simp [Import.ofJson?, Import.toJson]

theorem Function.ofJson?_fields (f : Function) : Function.ofJson? (.obj f.fields) = some f := by
  obtain ⟨_, _, parameters, _, _, _, _, _, documentation, implementation, _, _⟩ := f
  have back := mapM_read Parameter.ofJson?_toJson parameters
  cases documentation <;> cases implementation <;> simp [Function.ofJson?, Function.fields, back]

theorem TypeDef.ofJson?_fields (t : TypeDef) : TypeDef.ofJson? (.obj t.fields) = some t := by
  simp [TypeDef.ofJson?, TypeDef.fields]

theorem Constant.ofJson?_fields (c : Constant) : Constant.ofJson? (.obj c.fields) = some c := by
  simp [Constant.ofJson?, Constant.fields]

theorem Module.ofJson?_fields (m : Module) : Module.ofJson? (.obj m.fields) = some m := by
  simp [Module.ofJson?, Module.fields, mapM_read Import.ofJson?_toJson, mapM_read Function.ofJson?_fields,
    mapM_read TypeDef.ofJson?_fields, mapM_read Constant.ofJson?_fields]

/-! ## Completing records -/

namespace Stored

private theorem mapError_ok {α : Type} (change : AccessError → LoadError) (value : α) :
    (Except.ok value).mapError change = .ok value := rfl

private theorem toText_str (text : String) : (Json.str text).toText = text := rfl

attribute [local simp] need list each Json.field Json.fieldD Json.members Json.members? mapError_ok bind Except.bind pure
  Except.pure

theorem parameterRecord_toJson (p : Parameter) : parameterRecord p.toJson = .ok p.toJson := by
  simp [parameterRecord, Parameter.toJson]

theorem importRecord_toJson (i : Import) : importRecord i.toJson = .ok i.toJson := by
  simp [importRecord, Import.toJson]

theorem functionRecord_fields (f : Function) : functionRecord (.obj f.fields) = .ok (.obj f.fields) := by
  simp [functionRecord, Function.fields, mapM_complete parameterRecord_toJson]

theorem typeRecord_fields (t : TypeDef) : typeRecord (.obj t.fields) = .ok (.obj t.fields) := by
  simp [typeRecord, TypeDef.fields]

theorem constantRecord_fields (c : Constant) : constantRecord (.obj c.fields) = .ok (.obj c.fields) := by
  simp [constantRecord, Constant.fields]

theorem moduleRecord_fields (key : String) (m : Module) :
    moduleRecord (.obj (("key", .str key) :: m.fields)) = .ok (.obj m.fields) := by
  simp [moduleRecord, Module.fields, mapM_complete importRecord_toJson, mapM_complete functionRecord_fields,
    mapM_complete typeRecord_fields, mapM_complete constantRecord_fields]

/-- Of a stored library its modules, the ids of the packages with counters and its time are looked at. -/
theorem content_document (library : Library) :
    content library.document =
      .ok ⟨library.modules.values.map fun m => .obj m.fields, library.sourceStats.keys, library.lastUpdated⟩ := by
  have modules := mapM_complete (fun entry : String × Module => moduleRecord_fields entry.1 entry.2)
    library.modules.entries
  simp [content, Library.document, Library.fields, keyed, modules, Table.values, Table.keys, toText_str]

end Stored

/-! ## Loading -/

/-- The library that the modules of a library give when they are added again one after the other. -/
def Library.rebuild (includePrivate : Bool) (library : Library) : Library :=
  (Library.blank library.lastUpdated library.sourceStats.keys).addModules includePrivate library.modules.values

/-- Loading what was saved builds the library again from its modules. -/
theorem Library.ofDocument_document (includePrivate : Bool) (library : Library) :
    Library.ofDocument includePrivate library.document = .ok (.library (library.rebuild includePrivate)) := by
  have modules := mapM_read Module.ofJson?_fields library.modules.values
  unfold Library.ofDocument
  rw [Stored.content_document]
  simp [bind, Except.bind, pure, Except.pure, modules, Library.rebuild]

end DeclIndex
