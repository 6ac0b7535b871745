import Mathlib.Logic.Relation
import PackageRecipe.Proofs.Manifest.Acceptance

/-!
Tags on the values of fields. A field looks through the tags on its value and on the items of
a list, so one more tag there changes neither whether a document can be normalized nor what
the fields are filled with. Only in messages a tag is seen.
-/

namespace PackageRecipe

namespace Manifest

/-! ## One more tag -/

/-- One more tag in the value of a field of a shape: on the value or, in a list, on an item,
inside the tags that are there. -/
inductive Shape.AddsTag (shape : Shape) : Yaml.Value → Yaml.Value → Prop
  | whole (tag : String) (value : Yaml.Value) : AddsTag shape value (.tagged tag value)
  | item (list : shape = .list) (tag : String) (before : List Yaml.Value) (item : Yaml.Value)
      (after : List Yaml.Value) :
      AddsTag shape (.sequence (before ++ item :: after))
        (.sequence (before ++ .tagged tag item :: after))
  | inside (tag : String) {value wrapped : Yaml.Value} (added : AddsTag shape value wrapped) :
      AddsTag shape (.tagged tag value) (.tagged tag wrapped)

/-- One more tag in the value that a section has for a field, whatever tags the section has. -/
inductive Field.AddsTag (field : Field) : Yaml.Value → Yaml.Value → Prop
  | entry {entries : Yaml.Mapping} {value wrapped : Yaml.Value}
      (found : entries.get? field.key = some value) (added : field.shape.AddsTag value wrapped) :
      AddsTag field (.mapping entries) (.mapping (entries.put field.key wrapped))
  | inside (tag : String) {value wrapped : Yaml.Value} (added : AddsTag field value wrapped) :
      AddsTag field (.tagged tag value) (.tagged tag wrapped)

/-- The name of a package and the number of its build. The schema does not shape them, so they are
read as they stand. -/
def unshaped : List Field :=
  [⟨"package", "name", .text⟩, ⟨"build", "number", .text⟩]

/-- One more tag in the value of a field of a recipe. -/
inductive AddsTag (document : Yaml.Mapping) : Yaml.Mapping → Prop
  | field (field : Field) (member : field ∈ schema ++ unshaped) {value wrapped : Yaml.Value}
      (found : document.get? field.sectionName = some value)
      (added : field.AddsTag value wrapped) :
      AddsTag document (document.put field.sectionName wrapped)

/-- A document has the same values as another, with any number of tags more on them. -/
def IsTagging : Yaml.Mapping → Yaml.Mapping → Prop :=
  Relation.ReflTransGen AddsTag

/-! ## Values -/

section Values

variable {shape : Shape} {field : Field} {value wrapped shaped : Yaml.Value}

theorem Shape.AddsTag.untagged_eq (added : shape.AddsTag value wrapped)
    (text : shape = .text) : wrapped.untagged = value.untagged := by
  induction added with
  | whole tag value => rfl
  | item list => simp [text] at list
  | inside tag added induction => exact induction

theorem Field.item_tagged_eq_ok_iff (tag : String) :
    field.item (.tagged tag value) = .ok shaped ↔ field.item value = .ok shaped := by
  have text : (Yaml.Value.tagged tag value).scalarText? = value.scalarText? := rfl
  have null : (Yaml.Value.tagged tag value).isNull = value.isNull := rfl
  rw [item, item, text, null]
  cases value.scalarText? <;> cases value.isNull <;> simp

theorem Shape.AddsTag.items_eq_ok_iff (added : shape.AddsTag value wrapped)
    {items : List Yaml.Value} :
    field.items wrapped = .ok items ↔ field.items value = .ok items := by
  induction added with
  | whole tag value => rfl
  | item list tag before item after =>
      apply mapM_eq_ok_iff_of_forall₂
      apply List.rel_append
      · exact List.forall₂_same.mpr fun _ _ _ => Iff.rfl
      · refine .cons (fun _ => field.item_tagged_eq_ok_iff tag) ?_
        exact List.forall₂_same.mpr fun _ _ _ => Iff.rfl
  | inside tag added induction => exact induction

theorem Shape.AddsTag.shaped_eq_ok_iff (added : field.shape.AddsTag value wrapped) :
    field.shaped wrapped = .ok shaped ↔ field.shaped value = .ok shaped := by
  rw [Field.shaped, Field.shaped]
  cases shape : field.shape with
  | list => exact bind_eq_ok_congr fun _ => added.items_eq_ok_iff
  | text =>
      have text : wrapped.scalarText? = value.scalarText? := by
        rw [Yaml.Value.scalarText?, added.untagged_eq shape, Yaml.Value.scalarText?]
      rw [text]
      cases value.scalarText? <;> simp

end Values

/-! ## Sections -/

section Sections

variable {field other : Field} {value wrapped : Yaml.Value}

/-- The section is a mapping, plain before and after or under tags before and after. -/
theorem Field.AddsTag.exists_entries (added : field.AddsTag value wrapped) :
    ∃ (entries : Yaml.Mapping) (former tagged : Yaml.Value),
      entries.get? field.key = some former ∧ field.shape.AddsTag former tagged ∧
        value.mapping? = some entries ∧
        wrapped.mapping? = some (entries.put field.key tagged) ∧
        (value = .mapping entries ∧ wrapped = .mapping (entries.put field.key tagged) ∨
          value.isTagged ∧ wrapped.isTagged) := by
  induction added with
  | entry found added => exact ⟨_, _, _, found, added, rfl, rfl, .inl ⟨rfl, rfl⟩⟩
  | inside tag added induction =>
      rcases induction with ⟨entries, former, tagged, found, added, before, after, _⟩
      exact ⟨entries, former, tagged, found, added, before, after, .inr ⟨rfl, rfl⟩⟩

/-- A section under tags is none, whatever is in it. -/
theorem contents_of_isTagged {document entries : Yaml.Mapping} {name : String}
    (found : document.get? name = some value) (tagged : value.isTagged)
    (mapping : value.mapping? = some entries) :
    contents document name = .error (.notSection name .tagged) := by
  have notNull : value.isNull = false := by
    rw [← Bool.not_eq_true]
    intro null
    rw [mapping?_of_isNull null] at mapping
    cases mapping
  rw [contents_eq_error_iff]
  cases value with
  | tagged tag inner => exact ⟨_, found, notNull, nofun, rfl⟩
  | _ => cases tagged

end Sections

/-! ## Documents -/

/-- Documents that give the same to every field. Where a field is not shaped, an absent value is
the same as a null, and tags are not seen. -/
structure Alike (first second : Yaml.Mapping) : Prop where
  values : ∀ field ∈ schema, ∀ value,
    field.valueIn second = .ok value ↔ field.valueIn first = .ok value
  sources : ∀ field ∈ unshaped,
    (field.source second).untagged = (field.source first).untagged

section Documents

variable {document wrapped : Yaml.Mapping} {field other : Field}

theorem eq_of_places : ∀ left ∈ schema ++ unshaped, ∀ right ∈ schema ++ unshaped,
    left.sectionName = right.sectionName → left.key = right.key → left = right := by
  decide +kernel

theorem AddsTag.valueIn_eq_ok_iff (added : AddsTag document wrapped)
    (member : other ∈ schema) (value : Yaml.Value) :
    other.valueIn wrapped = .ok value ↔ other.valueIn document = .ok value := by
  rcases added with @⟨field, fieldMember, before, after, found, added⟩
  by_cases sameSection : other.sectionName = field.sectionName
  · rcases added.exists_entries with
      ⟨entries, former, tagged, formerFound, valueAdded, beforeEntries, afterEntries, plain | both⟩
    · rcases plain with ⟨rfl, rfl⟩
      rw [Field.valueIn, Field.valueIn, sameSection, contents_put, contents_mapping found,
        ok_bind, ok_bind]
      by_cases sameKey : other.key = field.key
      · have same := eq_of_places other (List.mem_append_left _ member) field fieldMember
          sameSection sameKey
        rw [same, Yaml.Mapping.get?_put, formerFound]
        exact valueAdded.shaped_eq_ok_iff
      · rw [Yaml.Mapping.get?_put_of_ne _ _ sameKey]
    · -- Tags on a section are not looked through, so it is refused before and after.
      have beforeFails := contents_of_isTagged found both.1 beforeEntries
      have afterFound := Yaml.Mapping.get?_put document field.sectionName after
      have afterFails := contents_of_isTagged afterFound both.2 afterEntries
      rw [Field.valueIn, Field.valueIn, sameSection, beforeFails, afterFails]
  · rw [Field.valueIn, Field.valueIn, contents_put_of_ne _ _ sameSection]

theorem AddsTag.source_untagged_eq (added : AddsTag document wrapped)
    (member : other ∈ unshaped) :
    (other.source wrapped).untagged = (other.source document).untagged := by
  rcases added with @⟨field, fieldMember, before, after, found, added⟩
  by_cases sameSection : other.sectionName = field.sectionName
  · -- Here tags on the section are looked through.
    rcases added.exists_entries with
      ⟨entries, former, tagged, formerFound, valueAdded, beforeEntries, afterEntries, _⟩
    rw [Field.source, Field.source, sameSection, Yaml.Mapping.get?_put, found, Option.bind_some,
      Option.bind_some, beforeEntries, afterEntries, Option.bind_some, Option.bind_some]
    by_cases sameKey : other.key = field.key
    · have same := eq_of_places other (List.mem_append_right _ member) field fieldMember
        sameSection sameKey
      have text : ∀ field ∈ unshaped, field.shape = .text := by decide
      rw [same, Yaml.Mapping.get?_put, formerFound]
      exact valueAdded.untagged_eq (same ▸ text other member)
    · rw [Yaml.Mapping.get?_put_of_ne _ _ sameKey]
  · rw [Field.source, Field.source, Yaml.Mapping.get?_put_of_ne _ _ sameSection]

theorem IsTagging.alike (tagging : IsTagging document wrapped) : Alike document wrapped := by
  induction tagging with
  | refl => exact ⟨fun _ _ _ => Iff.rfl, fun _ _ => rfl⟩
  | tail _ added induction =>
      constructor
      · intro field member value
        rw [added.valueIn_eq_ok_iff member, induction.values field member]
      · intro field member
        rw [added.source_untagged_eq member, induction.sources field member]

end Documents

/-! ## Manifests -/

section Manifests

variable {document final : Yaml.Mapping} {field : Field} {manifest : Manifest}

theorem source_of_foldlM_of_apart {fields : List Field}
    (apart : ∀ other ∈ fields, field.Apart other)
    (equal : fields.foldlM fill document = .ok final) :
    field.source final = field.source document := by
  induction fields generalizing document with
  | nil =>
      cases equal
      rfl
  | cons head tail induction =>
      rw [List.forall_mem_cons] at apart
      rcases exists_of_bind_eq_ok equal with ⟨between, filled, tailEqual⟩
      rw [induction apart.2 tailEqual, source_of_fill_of_apart apart.1 filled]

/-- What normalization does not shape is in the manifest what it was in the document. -/
theorem source_of_normalize (normalized : normalize document = .ok manifest)
    (member : field ∈ unshaped) : field.source manifest.document = field.source document := by
  have apart : ∀ field ∈ unshaped, ∀ other ∈ schema, field.Apart other := by
    unfold Field.Apart
    decide
  exact source_of_foldlM_of_apart (apart field member) (foldlM_of_normalize normalized)

/-- A field that normalization shapes has in the manifest what the document gives to it. -/
theorem get?_of_normalize (normalized : normalize document = .ok manifest)
    (member : field ∈ schema) {value : Yaml.Value} (given : field.valueIn document = .ok value) :
    manifest.get? field.path = some value := by
  rcases isFilled_of_foldlM pairwise_apart_schema (foldlM_of_normalize normalized) field member
    with ⟨filling, shaped, isFilled⟩
  rcases exists_of_bind_eq_ok given with ⟨entries, has, givenShaped⟩
  rw [Field.source, get?_of_contents has, givenShaped] at shaped
  cases shaped
  exact get?_path (noSlash_of_mem_schema field member) isFilled

theorem getD_get?_path (noSlash : '/' ∉ field.sectionName.toList) :
    (manifest.get? field.path).getD .null = field.source manifest.document := by
  have path : field.path.toList = field.sectionName.toList ++ '/' :: field.key.toList := by
    simp [Field.path]
  rw [get?, path, Text.splitFirst?_append noSlash]
  simp [Field.source, sectionOf?]

theorem Alike.exists_normalize_iff {wrapped : Yaml.Mapping} (alike : Alike document wrapped) :
    (∃ manifest, normalize document = .ok manifest) ↔
      ∃ manifest, normalize wrapped = .ok manifest := by
  rw [Manifest.exists_normalize_iff, Manifest.exists_normalize_iff]
  constructor
  · intro given field member
    rcases given field member with ⟨value, valueEqual⟩
    exact ⟨value, (alike.values field member value).mpr valueEqual⟩
  · intro given field member
    rcases given field member with ⟨value, valueEqual⟩
    exact ⟨value, (alike.values field member value).mp valueEqual⟩

section Pairs

variable {wrapped : Yaml.Mapping} {first second : Manifest}

theorem Alike.get?_eq (alike : Alike document wrapped)
    (firstNormalized : normalize document = .ok first)
    (secondNormalized : normalize wrapped = .ok second) (member : field ∈ schema) :
    second.get? field.path = first.get? field.path := by
  rcases Manifest.exists_normalize_iff.mp ⟨first, firstNormalized⟩ field member with
    ⟨value, given⟩
  rw [get?_of_normalize firstNormalized member given]
  exact get?_of_normalize secondNormalized member ((alike.values field member value).mpr given)

theorem Alike.untagged_eq (alike : Alike document wrapped)
    (firstNormalized : normalize document = .ok first)
    (secondNormalized : normalize wrapped = .ok second) (member : field ∈ unshaped) :
    ((second.get? field.path).getD .null).untagged =
      ((first.get? field.path).getD .null).untagged := by
  have noSlash : ∀ field ∈ unshaped, '/' ∉ field.sectionName.toList := by decide
  rw [getD_get?_path (noSlash field member), getD_get?_path (noSlash field member),
    source_of_normalize firstNormalized member, source_of_normalize secondNormalized member,
    alike.sources field member]

end Pairs

end Manifests

end Manifest

end PackageRecipe
