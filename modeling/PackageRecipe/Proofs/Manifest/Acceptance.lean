import PackageRecipe.Proofs.Manifest.Frame

/-!
Which documents can be normalized. Each field asks for its section and for a value of its
shape there, and what is filled in for other fields changes neither. So a document is refused
exactly if it fails a field, over the first such field of the schema.
-/

namespace PackageRecipe

/-! ## Values -/

/-- A boolean, a number or a text, under any tags. -/
inductive Yaml.Value.IsScalar : Yaml.Value → Prop
  | boolean (value : Bool) : IsScalar (.boolean value)
  | number (value : Yaml.Number) : IsScalar (.number value)
  | string (value : String) : IsScalar (.string value)
  | tagged (tag : String) {value : Yaml.Value} (scalar : IsScalar value) :
      IsScalar (.tagged tag value)

/-- What a field of a shape accepts: nothing, a scalar, and for a list a sequence of scalars,
under any tags. -/
inductive Manifest.Shape.Accepts : Manifest.Shape → Yaml.Value → Prop
  | null (shape : Manifest.Shape) : Accepts shape .null
  | scalar (shape : Manifest.Shape) {value : Yaml.Value} (scalar : value.IsScalar) :
      Accepts shape value
  | sequence {items : List Yaml.Value} (scalars : ∀ item ∈ items, item.IsScalar) :
      Accepts .list (.sequence items)
  | tagged (tag : String) {shape : Manifest.Shape} {value : Yaml.Value}
      (accepted : Accepts shape value) : Accepts shape (.tagged tag value)

namespace Yaml.Value

variable {value : Value}

theorem isScalar_untagged_iff : value.untagged.IsScalar ↔ value.IsScalar := by
  fun_induction untagged value with
  | case1 tag value induction =>
      rw [induction]
      constructor
      · exact .tagged tag
      · intro scalar
        cases scalar with
        | tagged _ scalar => exact scalar
  | case2 => rfl

theorem isScalar_iff : value.IsScalar ↔
    (∃ text, value.scalarText? = some text) ∧ value.isNull = false := by
  have plain := value.isTagged_untagged
  rw [← isScalar_untagged_iff, scalarText?, isNull]
  cases found : value.untagged with
  | null => simpa using fun scalar => by cases scalar
  | boolean value => simpa using .boolean value
  | number value => simpa using .number value
  | string value => simpa using .string value
  | sequence items => simpa using fun scalar => by cases scalar
  | mapping entries => simpa using fun scalar => by cases scalar
  | tagged tag value => simp [found, isTagged] at plain

end Yaml.Value

namespace Manifest

theorem Shape.accepts_untagged_iff {shape : Shape} {value : Yaml.Value} :
    shape.Accepts value.untagged ↔ shape.Accepts value := by
  fun_induction Yaml.Value.untagged value with
  | case1 tag value induction =>
      rw [induction]
      constructor
      · exact .tagged tag
      · intro accepted
        cases accepted with
        | scalar _ scalar =>
            cases scalar with
            | tagged _ scalar => exact .scalar shape scalar
        | tagged _ accepted => exact accepted
  | case2 => rfl

theorem isNull_iff {value : Yaml.Value} : value.isNull ↔ value.untagged = .null := by
  rw [Yaml.Value.isNull]
  cases value.untagged <;> simp

/-- Where there is no null and no sequence, only scalars are accepted. -/
theorem Shape.accepts_iff_isScalar {shape : Shape} {value : Yaml.Value}
    (notNull : value.untagged ≠ .null) (notSequence : ∀ items, value.untagged ≠ .sequence items) :
    shape.Accepts value ↔ value.IsScalar := by
  have plain := value.isTagged_untagged
  rw [← accepts_untagged_iff, ← Yaml.Value.isScalar_untagged_iff]
  generalize value.untagged = inner at notNull notSequence plain
  constructor
  · intro accepted
    cases accepted with
    | null => exact absurd rfl notNull
    | scalar _ scalar => exact scalar
    | sequence => exact absurd rfl (notSequence _)
    | tagged => cases plain
  · exact .scalar shape

theorem Shape.accepts_list_iff {value : Yaml.Value} :
    Shape.list.Accepts value ↔ ∀ element ∈ value.elements, element.IsScalar := by
  rw [Yaml.Value.elements]
  split
  next found =>
    rw [← accepts_untagged_iff, found]
    exact ⟨fun _ => List.forall_mem_nil _, fun _ => .null .list⟩
  next items found =>
    rw [← accepts_untagged_iff, found]
    constructor
    · intro accepted
      cases accepted with
      | scalar _ scalar => cases scalar
      | sequence scalars => exact scalars
    · exact .sequence
  next notNull notSequence =>
    rw [accepts_iff_isScalar notNull notSequence, List.forall_mem_singleton,
      Yaml.Value.isScalar_untagged_iff]

theorem Shape.accepts_text_iff {value : Yaml.Value} :
    Shape.text.Accepts value ↔ ∃ text, value.scalarText? = some text := by
  by_cases null : value.untagged = .null
  · rw [← accepts_untagged_iff, null, Yaml.Value.scalarText?, null]
    exact ⟨fun _ => ⟨"", rfl⟩, fun _ => .null .text⟩
  by_cases sequence : ∃ items, value.untagged = .sequence items
  · rcases sequence with ⟨items, found⟩
    rw [← accepts_untagged_iff, found, Yaml.Value.scalarText?, found]
    constructor
    · intro accepted
      cases accepted with
      | scalar _ scalar => cases scalar
    · intro impossible
      rcases impossible with ⟨text, equal⟩
      cases equal
  have notNull : value.isNull = false := by
    rwa [← Bool.not_eq_true, isNull_iff]
  rw [accepts_iff_isScalar null (fun items found => sequence ⟨items, found⟩),
    Yaml.Value.isScalar_iff, and_iff_left notNull]

/-! ## Shapes -/

section Shapes

variable {field : Field} {value : Yaml.Value} {fault : Fault}

/-- Why a field does not get its shape from a value that it does not accept. -/
inductive Field.Refuses (field : Field) (value : Yaml.Value) : Fault → Prop
  | notText (text : field.shape = .text) (refused : ¬Shape.text.Accepts value) :
      Refuses field value (.notText field.path value.kind)
  | notItem (list : field.shape = .list) {before after : List Yaml.Value} {item : Yaml.Value}
      (elements : value.elements = before ++ item :: after)
      (earlier : ∀ other ∈ before, other.IsScalar) (refused : ¬item.IsScalar) :
      Refuses field value (.notItem field.path item.kind)

theorem Field.exists_item_iff : (∃ item, field.item value = .ok item) ↔ value.IsScalar := by
  rw [Yaml.Value.isScalar_iff, item]
  cases value.scalarText? <;> cases value.isNull <;> simp

theorem Field.item_eq_error_iff :
    field.item value = .error fault ↔
      ¬value.IsScalar ∧ fault = .notItem field.path value.kind := by
  rw [Yaml.Value.isScalar_iff, item]
  cases value.scalarText? <;> cases value.isNull <;> simp [eq_comm]

theorem Field.items_eq_error_iff :
    field.items value = .error fault ↔
      ∃ before item after, value.elements = before ++ item :: after ∧
        (∀ other ∈ before, other.IsScalar) ∧ ¬item.IsScalar ∧
          fault = .notItem field.path item.kind := by
  rw [items_eq_mapM_elements, mapM_eq_error_iff]
  simp only [exists_item_iff, item_eq_error_iff]

theorem Field.exists_items_iff :
    (∃ items, field.items value = .ok items) ↔ Shape.list.Accepts value := by
  rw [items_eq_mapM_elements, exists_mapM_eq_ok_iff, Shape.accepts_list_iff]
  simp only [exists_item_iff]

theorem Field.exists_shaped_iff :
    (∃ shaped, field.shaped value = .ok shaped) ↔ field.shape.Accepts value := by
  rw [Field.shaped]
  cases field.shape with
  | list =>
      rw [← field.exists_items_iff]
      cases field.items value <;> simp
  | text =>
      rw [Shape.accepts_text_iff]
      cases value.scalarText? <;> simp

theorem Field.shaped_eq_error_iff :
    field.shaped value = .error fault ↔ field.Refuses value fault := by
  rw [Field.shaped]
  cases shape : field.shape with
  | list =>
      have ofItems : ∀ result : Except Fault (List Yaml.Value),
          (do return Yaml.Value.sequence (← result)) = Except.error fault ↔
            result = .error fault := by
        intro result
        cases result <;> simp
      rw [ofItems, items_eq_error_iff]
      constructor
      · intro found
        rcases found with ⟨before, item, after, elements, earlier, refused, rfl⟩
        exact .notItem shape elements earlier refused
      · intro refuses
        cases refuses with
        | notText text => simp [shape] at text
        | notItem _ elements earlier refused =>
            exact ⟨_, _, _, elements, earlier, refused, rfl⟩
  | text =>
      have refuses_iff : field.Refuses value fault ↔
          ¬Shape.text.Accepts value ∧ fault = .notText field.path value.kind := by
        constructor
        · intro refuses
          cases refuses with
          | notText _ refused => exact ⟨refused, rfl⟩
          | notItem list => simp [shape] at list
        · intro refuses
          rcases refuses with ⟨refused, rfl⟩
          exact .notText shape refused
      rw [refuses_iff, Shape.accepts_text_iff]
      cases value.scalarText? <;> simp [eq_comm]

end Shapes

/-! ## One field -/

section Fields

variable {document filled : Yaml.Mapping} {field other : Field} {fault : Fault} {name : String}

theorem contents_eq_ok_iff {entries : Yaml.Mapping} :
    contents document name = .ok entries ↔ HasEntries document name entries := by
  refine ⟨hasEntries_of_contents, ?_⟩
  intro has
  rcases has with found | ⟨rfl, null⟩
  · exact contents_mapping found
  · rw [contents]
    cases found : document.get? name with
    | none => rfl
    | some value => exact if_pos (null value found)

theorem contents_eq_error_iff :
    contents document name = .error fault ↔
      ∃ value, document.get? name = some value ∧ value.isNull = false ∧
        (∀ entries, value ≠ .mapping entries) ∧ fault = .notSection name value.kind := by
  rw [contents]
  cases found : document.get? name with
  | none => simp
  | some value =>
      cases null : value.isNull with
      | true => simp [null]
      | false =>
          simp only [null, Bool.false_eq_true, if_false]
          cases value <;> simp [null, eq_comm (b := fault)]

/-- The value that a document gives to a field. -/
def Field.valueIn (document : Yaml.Mapping) (field : Field) : Except Fault Yaml.Value := do
  let entries ← contents document field.sectionName
  field.shaped ((entries.get? field.key).getD .null)

/-- A document has what a field asks for: the section, and in it a value that the field accepts
or none. -/
def Field.IsSound (document : Yaml.Mapping) (field : Field) : Prop :=
  ∃ entries, HasEntries document field.sectionName entries ∧
    field.shape.Accepts ((entries.get? field.key).getD .null)

/-- Why a document does not have what a field asks for. -/
inductive Field.Fails (document : Yaml.Mapping) (field : Field) : Fault → Prop
  | notSection {value : Yaml.Value} (found : document.get? field.sectionName = some value)
      (notNull : value.isNull = false) (notMapping : ∀ entries, value ≠ .mapping entries) :
      Fails document field (.notSection field.sectionName value.kind)
  | refuses {entries : Yaml.Mapping} {fault : Fault}
      (has : HasEntries document field.sectionName entries)
      (refused : field.Refuses ((entries.get? field.key).getD .null) fault) :
      Fails document field fault

theorem Field.exists_valueIn_iff :
    (∃ value, field.valueIn document = .ok value) ↔ field.IsSound document := by
  constructor
  · intro found
    rcases found with ⟨value, equal⟩
    rcases exists_of_bind_eq_ok equal with ⟨entries, has, shaped⟩
    exact ⟨entries, contents_eq_ok_iff.mp has, exists_shaped_iff.mp ⟨value, shaped⟩⟩
  · intro sound
    rcases sound with ⟨entries, has, accepted⟩
    rcases exists_shaped_iff.mpr accepted with ⟨value, shaped⟩
    refine ⟨value, ?_⟩
    rw [valueIn, contents_eq_ok_iff.mpr has, ok_bind, shaped]

theorem Field.valueIn_eq_error_iff :
    field.valueIn document = .error fault ↔ field.Fails document fault := by
  constructor
  · intro fails
    rcases eq_error_or_of_bind_eq_error fails with noSection | ⟨entries, has, refused⟩
    · rcases contents_eq_error_iff.mp noSection with ⟨value, found, notNull, notMapping, rfl⟩
      exact .notSection found notNull notMapping
    · exact .refuses (contents_eq_ok_iff.mp has) (shaped_eq_error_iff.mp refused)
  · intro fails
    cases fails with
    | notSection found notNull notMapping =>
        have noSection := contents_eq_error_iff.mpr ⟨_, found, notNull, notMapping, rfl⟩
        rw [valueIn, noSection, error_bind]
    | refuses has refused =>
        rw [valueIn, contents_eq_ok_iff.mpr has, ok_bind, shaped_eq_error_iff.mpr refused]

theorem Field.exists_fails_iff :
    (∃ fault, field.Fails document fault) ↔ ¬field.IsSound document := by
  rw [← exists_valueIn_iff, exists_eq_ok_iff]
  simp [valueIn_eq_error_iff]

/-! ## Filling fields one after the other -/

theorem fill_eq_error_iff :
    fill document field = .error fault ↔ field.valueIn document = .error fault := by
  rw [fill, Field.valueIn]
  cases contents document field.sectionName with
  | error cause => simp
  | ok entries =>
      rw [ok_bind, ok_bind]
      cases field.shaped ((entries.get? field.key).getD .null) <;> simp

/-- What is filled in for one field is not seen by a field in another place. -/
theorem valueIn_of_fill_of_apart (apart : other.Apart field)
    (equal : fill document field = .ok filled) :
    other.valueIn filled = other.valueIn document := by
  rcases exists_of_fill_eq_ok equal with ⟨entries, value, has, _, rfl⟩
  by_cases same : other.sectionName = field.sectionName
  · have different : other.key ≠ field.key := fun keys => apart ⟨same, keys⟩
    rw [Field.valueIn, Field.valueIn, same, contents_put, has, ok_bind, ok_bind,
      Yaml.Mapping.get?_put_of_ne _ _ different]
  · rw [Field.valueIn, Field.valueIn, contents_put_of_ne _ _ same]

/-- Filling fields fails as does looking at each of them in the first document: what has been
filled in up to a field leaves the value of the field as it was. -/
theorem foldlM_fill_eq_error_iff {fields : List Field} (apart : fields.Pairwise Field.Apart)
    (same : ∀ field ∈ fields, field.valueIn filled = field.valueIn document) :
    fields.foldlM fill filled = .error fault ↔
      fields.mapM (Field.valueIn document) = .error fault := by
  induction fields generalizing filled with
  | nil =>
      constructor
      · intro impossible
        cases impossible
      · intro impossible
        cases impossible
  | cons head tail induction =>
      -- The rest starts from a document in which the head is filled, too.
      rw [List.pairwise_cons] at apart
      rw [List.forall_mem_cons] at same
      rw [List.foldlM_cons]
      cases filledEqual : fill filled head with
      | error cause =>
          have headFails := fill_eq_error_iff.mp filledEqual
          rw [same.1] at headFails
          rw [mapM_cons_of_error headFails, error_bind]
          simp
      | ok next =>
          have headSound : ∃ value, head.valueIn document = .ok value := by
            rw [← same.1, exists_eq_ok_iff]
            intro cause fails
            rw [fill_eq_error_iff.mpr fails] at filledEqual
            cases filledEqual
          rcases headSound with ⟨value, valueEqual⟩
          have tailSame : ∀ field ∈ tail, field.valueIn next = field.valueIn document := by
            intro field member
            have tailApart : field.Apart head :=
              fun places => apart.1 field member ⟨places.1.symm, places.2.symm⟩
            rw [valueIn_of_fill_of_apart tailApart filledEqual, same.2 field member]
          rw [ok_bind, induction apart.2 tailSame, List.mapM_cons, valueEqual, ok_bind]
          cases tail.mapM (Field.valueIn document) <;> simp

end Fields

/-! ## All fields of the schema -/

section Documents

variable {document : Yaml.Mapping}

theorem normalize_eq_error_iff {fault : Fault} :
    normalize document = .error fault ↔
      schema.mapM (Field.valueIn document) = .error fault := by
  rw [← foldlM_fill_eq_error_iff pairwise_apart_schema fun _ _ => rfl, normalize]
  cases schema.foldlM fill document <;> simp [Except.map]

theorem exists_normalize_iff :
    (∃ manifest, normalize document = .ok manifest) ↔
      ∀ field ∈ schema, ∃ value, field.valueIn document = .ok value := by
  rw [← exists_mapM_eq_ok_iff, exists_eq_ok_iff, exists_eq_ok_iff]
  simp only [ne_eq, normalize_eq_error_iff]

end Documents

/-- A document can be normalized exactly if it is sound in every field of the schema. Otherwise
it is refused for how it fails the first field in which it is not sound. -/
theorem normalize_refuses_first_failure (document : Yaml.Mapping) :
    ((∃ manifest, normalize document = .ok manifest) ↔
        ∀ field ∈ schema, field.IsSound document) ∧
      (∀ fault, normalize document = .error fault ↔
        ∃ before field after, schema = before ++ field :: after ∧
          (∀ other ∈ before, other.IsSound document) ∧ field.Fails document fault) ∧
      ∀ field : Field, (∃ fault, field.Fails document fault) ↔ ¬field.IsSound document := by
  refine ⟨?_, ?_, fun field => field.exists_fails_iff⟩
  · rw [exists_normalize_iff]
    simp only [Field.exists_valueIn_iff]
  · intro fault
    rw [normalize_eq_error_iff, mapM_eq_error_iff]
    simp only [Field.exists_valueIn_iff, Field.valueIn_eq_error_iff]

/-- Of a text that is a list and a section under a tag, the section is asked for first. -/
example : normalize [(.string "package", .mapping [(.string "version", .sequence [])]),
    (.string "build", .tagged "t" (.mapping []))] =
      .error (.notSection "build" .tagged) := by rfl

end Manifest

end PackageRecipe
