import PackageRecipe.Manifest
import PackageRecipe.Proofs.Outcome
import PackageRecipe.Proofs.Text
import PackageRecipe.Proofs.Yaml.Mapping

/-!
What normalization makes of a document. Each field is filled from what the document
had in its place, and stays as it is while the others are filled; a document whose
fields are all filled is not changed.
-/

namespace PackageRecipe

/-- What a value gives to a list: the items of a sequence, a scalar alone, and nothing
where there is a null. Tags make no difference. -/
def Yaml.Value.elements (value : Yaml.Value) : List Yaml.Value :=
  match value.untagged with
  | .null => []
  | .sequence items => items
  | other => [other]

namespace Manifest

namespace Field

/-! ## Shapes -/

theorem exists_texts_of_mapM_item (field : Field) {values shaped : List Yaml.Value}
    (equal : values.mapM field.item = .ok shaped) :
    ∃ texts : List String, shaped = texts.map .string ∧
      values.map Yaml.Value.scalarText? = texts.map some := by
  induction values generalizing shaped with
  | nil =>
      cases equal
      exact ⟨[], rfl, rfl⟩
  | cons head tail induction =>
      rw [List.mapM_cons] at equal
      rcases exists_of_bind_eq_ok equal with ⟨item, headItem, rest⟩
      rcases exists_of_bind_eq_ok rest with ⟨others, tailItems, equal⟩
      cases equal
      rcases induction tailItems with ⟨texts, rfl, renderings⟩
      revert headItem
      fun_cases field.item head <;> rintro ⟨⟩
      rename_i text rendering notNull
      exact ⟨text :: texts, rfl, by simp [rendering, renderings]⟩

theorem mapM_item_texts (field : Field) (texts : List String) :
    (texts.map Yaml.Value.string).mapM field.item = .ok (texts.map .string) := by
  induction texts with
  | nil => rfl
  | cons head tail induction =>
      rw [List.map_cons, List.mapM_cons, induction]
      rfl

theorem items_eq_mapM_elements (field : Field) (value : Yaml.Value) :
    field.items value = value.elements.mapM field.item := by
  rw [items, Yaml.Value.elements]
  cases value.untagged <;> rfl

/-- A list field is made into the renderings of its elements. -/
theorem exists_texts_of_shaped {field : Field} {value shaped : Yaml.Value}
    (list : field.shape = .list) (equal : field.shaped value = .ok shaped) :
    ∃ texts : List String, shaped = .sequence (texts.map .string) ∧
      value.elements.map Yaml.Value.scalarText? = texts.map some := by
  rw [Field.shaped, list] at equal
  rcases exists_of_bind_eq_ok equal with ⟨items, itemsEqual, equal⟩
  cases equal
  rw [items_eq_mapM_elements] at itemsEqual
  rcases field.exists_texts_of_mapM_item itemsEqual with ⟨texts, rfl, renderings⟩
  exact ⟨texts, rfl, renderings⟩

/-- A text field is made into the rendering of its value. -/
theorem exists_text_of_shaped {field : Field} {value shaped : Yaml.Value}
    (single : field.shape = .text) (equal : field.shaped value = .ok shaped) :
    ∃ text, shaped = .string text ∧ value.scalarText? = some text := by
  rw [Field.shaped, single] at equal
  cases rendering : value.scalarText? with
  | none => simp [rendering] at equal
  | some text =>
      simp only [rendering] at equal
      cases equal
      exact ⟨text, rfl, rfl⟩

/-- What has the shape of a field keeps it. -/
theorem shaped_shaped {field : Field} {value shaped : Yaml.Value}
    (equal : field.shaped value = .ok shaped) : field.shaped shaped = .ok shaped := by
  cases shape : field.shape with
  | list =>
      rcases exists_texts_of_shaped shape equal with ⟨texts, rfl, _⟩
      have items : field.items (.sequence (texts.map .string)) =
          .ok (texts.map .string) := field.mapM_item_texts texts
      rw [Field.shaped, shape]
      simp only [items]
      rfl
  | text =>
      rcases exists_text_of_shaped shape equal with ⟨text, rfl, _⟩
      rw [Field.shaped, shape]
      rfl

/-! ## Places -/

/-- What a document has in the place of a field: a null if there is nothing. -/
def source (document : Yaml.Mapping) (field : Field) : Yaml.Value :=
  (((document.get? field.sectionName).bind Yaml.Value.mapping?).bind
    (Yaml.Mapping.get? · field.key)).getD .null

/-- The field stands in its section with the given value, and no tag on the section. -/
def IsFilled (document : Yaml.Mapping) (field : Field) (value : Yaml.Value) : Prop :=
  ∃ entries : Yaml.Mapping,
    document.get? field.sectionName = some (.mapping entries) ∧
      entries.get? field.key = some value

/-- Two fields have different places. -/
def Apart (left right : Field) : Prop :=
  ¬(left.sectionName = right.sectionName ∧ left.key = right.key)

end Field

theorem contents_mapping {document entries : Yaml.Mapping} {name : String}
    (found : document.get? name = some (.mapping entries)) :
    contents document name = .ok entries := by
  rw [contents, found]
  rfl

theorem mapping?_of_isNull {value : Yaml.Value} (null : value.isNull) :
    value.mapping? = none := by
  revert null
  rw [Yaml.Value.isNull, Yaml.Value.mapping?]
  cases value.untagged <;> simp

/-- A section of a document has the given entries: those of its mapping, and none if it
is absent or null. -/
def HasEntries (document : Yaml.Mapping) (name : String) (entries : Yaml.Mapping) : Prop :=
  document.get? name = some (.mapping entries) ∨
    entries = [] ∧ ∀ value, document.get? name = some value → value.isNull

theorem hasEntries_of_contents {document entries : Yaml.Mapping} {name : String}
    (equal : contents document name = .ok entries) : HasEntries document name entries := by
  rw [contents] at equal
  cases found : document.get? name with
  | none =>
      simp only [found] at equal
      cases equal
      exact .inr ⟨rfl, by simp [found]⟩
  | some value =>
      simp only [found] at equal
      by_cases null : value.isNull
      · rw [if_pos null] at equal
        cases equal
        refine .inr ⟨rfl, fun other otherFound => ?_⟩
        cases found.symm.trans otherFound
        exact null
      · rw [if_neg null] at equal
        cases value with
        | mapping others =>
            cases equal
            exact .inl found
        | _ => cases equal

theorem get?_of_contents {document entries : Yaml.Mapping} {name : String}
    (equal : contents document name = .ok entries) (key : String) :
    ((document.get? name).bind Yaml.Value.mapping?).bind (Yaml.Mapping.get? · key) =
      entries.get? key := by
  rcases hasEntries_of_contents equal with found | ⟨rfl, null⟩
  · rw [found]
    rfl
  · cases found : document.get? name with
    | none => rfl
    | some value =>
        rw [Option.bind_some, mapping?_of_isNull (null value found)]
        rfl

/-! ## One field -/

theorem exists_of_fill_eq_ok {document filled : Yaml.Mapping} {field : Field}
    (equal : fill document field = .ok filled) :
    ∃ (entries : Yaml.Mapping) (value : Yaml.Value),
      contents document field.sectionName = .ok entries ∧
        field.shaped ((entries.get? field.key).getD .null) = .ok value ∧
        filled =
          document.put field.sectionName (.mapping (entries.put field.key value)) := by
  rcases exists_of_bind_eq_ok equal with ⟨entries, entriesEqual, equal⟩
  rcases exists_of_bind_eq_ok equal with ⟨value, valueEqual, equal⟩
  cases equal
  exact ⟨entries, value, entriesEqual, valueEqual, rfl⟩

section Fill

variable {document filled : Yaml.Mapping} {field other : Field}

theorem isFilled_of_fill (equal : fill document field = .ok filled) :
    ∃ value, field.shaped (field.source document) = .ok value ∧
      field.IsFilled filled value := by
  rcases exists_of_fill_eq_ok equal with ⟨entries, value, entriesEqual, shaped, rfl⟩
  refine ⟨value, ?_, entries.put field.key value, ?_, ?_⟩
  · rw [Field.source, get?_of_contents entriesEqual]
    exact shaped
  · rw [Yaml.Mapping.get?_put]
  · rw [Yaml.Mapping.get?_put]

/-- The other fields of a section are kept when it is put in its place again. -/
theorem isFilled_of_fill_of_apart {value : Yaml.Value} (apart : other.Apart field)
    (equal : fill document field = .ok filled) (before : other.IsFilled document value) :
    other.IsFilled filled value := by
  rcases exists_of_fill_eq_ok equal with ⟨entries, added, entriesEqual, _, rfl⟩
  rcases before with ⟨others, found, valueFound⟩
  by_cases same : other.sectionName = field.sectionName
  · rw [← same, contents_mapping found] at entriesEqual
    cases entriesEqual
    have different : other.key ≠ field.key := fun keys => apart ⟨same, keys⟩
    refine ⟨entries.put field.key added, ?_, ?_⟩
    · rw [same, Yaml.Mapping.get?_put]
    · rw [Yaml.Mapping.get?_put_of_ne _ _ different, valueFound]
  · refine ⟨others, ?_, valueFound⟩
    rw [Yaml.Mapping.get?_put_of_ne _ _ same, found]

theorem source_of_fill_of_apart (apart : other.Apart field)
    (equal : fill document field = .ok filled) :
    other.source filled = other.source document := by
  rcases exists_of_fill_eq_ok equal with ⟨entries, added, entriesEqual, _, rfl⟩
  by_cases same : other.sectionName = field.sectionName
  · have different : other.key ≠ field.key := fun keys => apart ⟨same, keys⟩
    rw [Field.source, Field.source, same, get?_of_contents entriesEqual,
      Yaml.Mapping.get?_put, Option.bind_some]
    change ((entries.put field.key added).get? other.key).getD .null = _
    rw [Yaml.Mapping.get?_put_of_ne _ _ different]
  · rw [Field.source, Field.source, Yaml.Mapping.get?_put_of_ne _ _ same]

theorem fill_of_isFilled {value : Yaml.Value} (isFilled : field.IsFilled document value)
    (shaped : field.shaped value = .ok value) : fill document field = .ok document := by
  rcases isFilled with ⟨entries, found, valueFound⟩
  rw [fill, contents_mapping found, ok_bind, valueFound, Option.getD_some, shaped,
    ok_bind, Yaml.Mapping.put_of_get?_eq_some valueFound, Yaml.Mapping.put_of_get?_eq_some found]
  rfl

end Fill

/-! ## All fields -/

section Fields

variable {document final : Yaml.Mapping} {fields : List Field}

theorem isFilled_of_foldlM_of_apart {field : Field} {value : Yaml.Value}
    (apart : ∀ other ∈ fields, field.Apart other)
    (equal : fields.foldlM fill document = .ok final)
    (before : field.IsFilled document value) : field.IsFilled final value := by
  induction fields generalizing document with
  | nil =>
      cases equal
      exact before
  | cons head tail induction =>
      rw [List.forall_mem_cons] at apart
      rcases exists_of_bind_eq_ok equal with ⟨between, filled, tailEqual⟩
      exact induction apart.2 tailEqual (isFilled_of_fill_of_apart apart.1 filled before)

/-- Every field is filled from the first document, not from one in which the fields
before it are filled. -/
theorem isFilled_of_foldlM (apart : fields.Pairwise Field.Apart)
    (equal : fields.foldlM fill document = .ok final) :
    ∀ field ∈ fields, ∃ value, field.shaped (field.source document) = .ok value ∧
      field.IsFilled final value := by
  induction fields generalizing document with
  | nil => simp
  | cons head tail induction =>
      rw [List.pairwise_cons] at apart
      rcases exists_of_bind_eq_ok equal with ⟨between, filled, tailEqual⟩
      intro field member
      rcases List.mem_cons.mp member with rfl | member
      · rcases isFilled_of_fill filled with ⟨value, shaped, isFilled⟩
        exact ⟨value, shaped, isFilled_of_foldlM_of_apart apart.1 tailEqual isFilled⟩
      · rcases induction apart.2 tailEqual field member with ⟨value, shaped, isFilled⟩
        have tailApart : field.Apart head :=
          fun same => apart.1 field member ⟨same.1.symm, same.2.symm⟩
        rw [source_of_fill_of_apart tailApart filled] at shaped
        exact ⟨value, shaped, isFilled⟩

theorem foldlM_of_isFilled (filled : ∀ field ∈ fields, ∃ value,
    field.shaped value = .ok value ∧ field.IsFilled document value) :
    fields.foldlM fill document = .ok document := by
  induction fields with
  | nil => rfl
  | cons head tail induction =>
      rw [List.forall_mem_cons] at filled
      rcases filled.1 with ⟨value, shaped, isFilled⟩
      rw [List.foldlM_cons, fill_of_isFilled isFilled shaped, ok_bind]
      exact induction filled.2

end Fields

theorem pairwise_apart_schema : schema.Pairwise Field.Apart := by
  unfold Field.Apart
  decide

theorem foldlM_of_normalize {document : Yaml.Mapping} {manifest : Manifest}
    (equal : normalize document = .ok manifest) :
    schema.foldlM fill document = .ok manifest.document := by
  rw [normalize] at equal
  cases folded : schema.foldlM fill document with
  | error fault => rw [folded] at equal; cases equal
  | ok final => rw [folded] at equal; cases equal; rfl

/-! ## Manifests -/

theorem get?_path {manifest : Manifest} {field : Field} {value : Yaml.Value}
    (noSlash : '/' ∉ field.sectionName.toList)
    (filled : field.IsFilled manifest.document value) :
    manifest.get? field.path = some value := by
  rcases filled with ⟨entries, found, valueFound⟩
  have parts : Text.splitFirst? '/' field.path.toList =
      some (field.sectionName.toList, field.key.toList) := by
    have path : field.path.toList =
        field.sectionName.toList ++ '/' :: field.key.toList := by
      simp [Field.path]
    rw [path, Text.splitFirst?_append noSlash]
  have entriesFound : manifest.sectionOf? field.sectionName = some entries := by
    rw [sectionOf?, found]
    rfl
  rw [get?, parts]
  simp [entriesFound, valueFound]

theorem filterMap_string? (texts : List String) :
    (texts.map Yaml.Value.string).filterMap Yaml.Value.string? = texts := by
  rw [List.filterMap_map]
  exact List.filterMap_some

theorem noSlash_of_mem_schema : ∀ field ∈ schema, '/' ∉ field.sectionName.toList := by
  decide

/-- A normalized document has every field of the schema in its shape: in a list the
renderings of all elements that were in its place, and in a text the rendering of its
value. Normalizing it again changes nothing. -/
theorem normalize_fills {document : Yaml.Mapping} {manifest : Manifest}
    (normalized : normalize document = .ok manifest) :
    (∀ field ∈ schema, field.shape = .list → ∃ texts : List String,
      (field.source document).elements.map Yaml.Value.scalarText? = texts.map some ∧
        manifest.get? field.path = some (.sequence (texts.map .string)) ∧
        manifest.texts field.path = texts) ∧
    (∀ field ∈ schema, field.shape = .text → ∃ text,
      (field.source document).scalarText? = some text ∧
        manifest.get? field.path = some (.string text) ∧
        manifest.text field.path = text) ∧
    normalize manifest.document = .ok manifest := by
  have folded := foldlM_of_normalize normalized
  have filled := isFilled_of_foldlM pairwise_apart_schema folded
  refine ⟨?lists, ?texts, ?again⟩
  case lists =>
    intro field member list
    rcases filled field member with ⟨value, shaped, isFilled⟩
    have found := get?_path (noSlash_of_mem_schema field member) isFilled
    rcases Field.exists_texts_of_shaped list shaped with ⟨texts, rfl, renderings⟩
    refine ⟨texts, renderings, found, ?_⟩
    rw [Manifest.texts, found]
    exact filterMap_string? texts
  case texts =>
    intro field member single
    rcases filled field member with ⟨value, shaped, isFilled⟩
    have found := get?_path (noSlash_of_mem_schema field member) isFilled
    rcases Field.exists_text_of_shaped single shaped with ⟨text, rfl, rendering⟩
    refine ⟨text, rendering, found, ?_⟩
    rw [Manifest.text, found]
    rfl
  case again =>
    have stays : schema.foldlM fill manifest.document = .ok manifest.document := by
      apply foldlM_of_isFilled
      intro field member
      rcases filled field member with ⟨value, shaped, isFilled⟩
      exact ⟨value, Field.shaped_shaped shaped, isFilled⟩
    rw [normalize, stays]
    rfl

/-- A list under a tag with a tagged item, and a text that is written as a number. -/
def taggedDocument : Yaml.Mapping :=
  [(.string "build", .mapping [(.string "features", .tagged "t" (.sequence
      [.boolean true, .tagged "t" (.string "a")]))]),
    (.string "package", .mapping [(.string "version", .number (.integer 1))])]

theorem normalize_fills_tagged :
    ∃ manifest, normalize taggedDocument = .ok manifest ∧
      manifest.texts "build/features" = ["true", "a"] ∧
      manifest.text "package/version" = "1" ∧
      normalize manifest.document = .ok manifest := by
  have normalized : normalize taggedDocument = .ok _ := rfl
  refine ⟨_, normalized, ?_⟩
  rcases normalize_fills normalized with ⟨lists, texts, again⟩
  rcases lists ⟨"build", "features", .list⟩ (by decide) rfl with
    ⟨features, equal, _, found⟩
  rcases texts ⟨"package", "version", .text⟩ (by decide) rfl with ⟨version, same, _, held⟩
  have featuresEqual : ["true", "a"].map some = features.map some := equal
  have versionEqual : some "1" = some version := same
  refine ⟨?_, ?_, again⟩
  · rw [List.map_inj_right fun _ _ => Option.some.inj] at featuresEqual
    exact featuresEqual ▸ found
  · exact Option.some.inj versionEqual ▸ held

end Manifest

end PackageRecipe
