import PackageRecipe.Proofs.Manifest.Normalization

/-!
What normalization leaves alone. Every step puts one field into one section, so all
other entries keep their values and all keys keep their order; what was missing
follows in the order of the schema.
-/

namespace PackageRecipe.Manifest

/-- The keys of the fields in a section, in order. -/
def keysIn (fields : List Field) (name : String) : List String :=
  (fields.filter fun field => field.sectionName = name).map Field.key

theorem keysIn_cons_of_eq (field : Field) (fields : List Field) :
    keysIn (field :: fields) field.sectionName =
      field.key :: keysIn fields field.sectionName := by
  simp [keysIn]

theorem keysIn_cons_of_ne {field : Field} {name : String}
    (different : name ≠ field.sectionName) (fields : List Field) :
    keysIn (field :: fields) name = keysIn fields name := by
  simp [keysIn, different.symm]

theorem contents_put (document entries : Yaml.Mapping) (name : String) :
    contents (document.put name (.mapping entries)) name = .ok entries :=
  contents_mapping (Yaml.Mapping.get?_put _ _ _)

theorem contents_put_of_ne (document : Yaml.Mapping) {name other : String}
    (value : Yaml.Value) (different : other ≠ name) :
    contents (document.put name value) other = contents document other := by
  rw [contents, contents, Yaml.Mapping.get?_put_of_ne _ _ different]

/-! ## All fields -/

section Fields

variable {document final : Yaml.Mapping} {fields : List Field}

theorem exists_contents_of_foldlM (equal : fields.foldlM fill document = .ok final)
    {field : Field} (member : field ∈ fields) :
    ∃ entries, contents document field.sectionName = .ok entries := by
  induction fields generalizing document with
  | nil => cases member
  | cons head tail induction =>
      rcases exists_of_bind_eq_ok equal with ⟨between, filled, tailEqual⟩
      rcases exists_of_fill_eq_ok filled with ⟨entries, value, headEqual, _, rfl⟩
      -- The head has found the contents of its own section and leaves all others alone.
      by_cases same : field.sectionName = head.sectionName
      · exact ⟨entries, same ▸ headEqual⟩
      · rcases List.mem_cons.mp member with rfl | member
        · exact absurd rfl same
        · have found := induction tailEqual member
          rwa [contents_put_of_ne _ _ same] at found

theorem extends_of_foldlM (equal : fields.foldlM fill document = .ok final) :
    document.Extends (fields.map Field.sectionName)
      (document.missing (fields.map Field.sectionName)) final := by
  induction fields generalizing document with
  | nil =>
      cases equal
      exact .refl _
  | cons head tail induction =>
      rcases exists_of_bind_eq_ok equal with ⟨between, filled, tailEqual⟩
      rcases exists_of_fill_eq_ok filled with ⟨entries, value, _, _, rfl⟩
      rw [List.map_cons, Yaml.Mapping.missing_cons]
      exact (document.extends_put _ _).trans (induction tailEqual)

/-- A section changes only in the fields that are in it, wherever the others stand. -/
theorem extends_contents_of_foldlM (equal : fields.foldlM fill document = .ok final)
    {name : String} {before : Yaml.Mapping} (found : contents document name = .ok before) :
    ∃ after, contents final name = .ok after ∧
      before.Extends (keysIn fields name) (before.missing (keysIn fields name)) after := by
  induction fields generalizing document before with
  | nil =>
      cases equal
      exact ⟨before, found, .refl before⟩
  | cons head tail induction =>
      rcases exists_of_bind_eq_ok equal with ⟨between, filled, tailEqual⟩
      rcases exists_of_fill_eq_ok filled with ⟨entries, value, headEqual, _, rfl⟩
      by_cases same : name = head.sectionName
      · subst same
        cases headEqual.symm.trans found
        rcases induction tailEqual (contents_put _ _ _) with ⟨after, afterEqual, tailExtends⟩
        refine ⟨after, afterEqual, ?_⟩
        rw [keysIn_cons_of_eq, Yaml.Mapping.missing_cons]
        exact (before.extends_put _ _).trans tailExtends
      · rw [← contents_put_of_ne _ _ same] at found
        rw [keysIn_cons_of_ne same]
        exact induction tailEqual found

end Fields

/-- Normalization changes a document only in its fields. In the document and in each
section, all other entries keep their values, and all keys their order; the sections
and the fields that were missing follow them in the order of the schema. -/
theorem normalize_extends {document : Yaml.Mapping} {manifest : Manifest}
    (normalized : normalize document = .ok manifest) :
    document.Extends (schema.map Field.sectionName)
        (document.missing (schema.map Field.sectionName)) manifest.document ∧
      ∀ name ∈ schema.map Field.sectionName, ∃ before after : Yaml.Mapping,
        HasEntries document name before ∧
          manifest.document.get? name = some (.mapping after) ∧
          before.Extends (keysIn schema name) (before.missing (keysIn schema name))
            after := by
  have folded := foldlM_of_normalize normalized
  refine ⟨extends_of_foldlM folded, ?_⟩
  intro name member
  rcases List.mem_map.mp member with ⟨field, fieldMember, rfl⟩
  rcases exists_contents_of_foldlM folded fieldMember with ⟨before, beforeEqual⟩
  rcases extends_contents_of_foldlM folded beforeEqual with ⟨after, afterEqual, extension⟩
  rcases isFilled_of_foldlM pairwise_apart_schema folded field fieldMember with
    ⟨_, _, entries, found, _⟩
  rw [contents_mapping found] at afterEqual
  cases afterEqual
  exact ⟨before, after, hasEntries_of_contents beforeEqual, found, extension⟩

/-- A document with a section that is null, one that has a field and another entry, and
entries under keys of other kinds. -/
def partialDocument : Yaml.Mapping :=
  [(.string "test", .null),
    (.string "about", .tagged "t" (.string "home")),
    (.string "build", .mapping [(.string "number", .number (.integer 3)),
      (.string "features", .null), (.boolean true, .null)]),
    (.tagged "t" (.string "source"), .null)]

theorem normalize_extends_partial :
    ∃ manifest, normalize partialDocument = .ok manifest ∧
      (.string "about", .tagged "t" (.string "home")) ∈ manifest.document ∧
      manifest.document.map Prod.fst =
        [.string "test", .string "about", .string "build", .tagged "t" (.string "source"),
          .string "source", .string "requirements", .string "package"] ∧
      ∃ entries, manifest.document.get? "build" = some (.mapping entries) ∧
        (.string "number", .number (.integer 3)) ∈ entries ∧
        entries.map Prod.fst = [.string "number", .string "features", .boolean true,
          .string "entry_points", .string "track_features"] := by
  obtain ⟨manifest, normalized⟩ : ∃ manifest, normalize partialDocument = .ok manifest :=
    ⟨_, rfl⟩
  refine ⟨manifest, normalized, ?_⟩
  rcases normalize_extends normalized with ⟨document, sections⟩
  rcases sections "build" (by decide) with ⟨before, after, has, found, extension⟩
  have beforeEqual : before = [(.string "number", .number (.integer 3)),
      (.string "features", .null), (.boolean true, .null)] := by
    rcases has with equal | ⟨_, null⟩
    · cases equal
      rfl
    · cases null _ rfl
  subst beforeEqual
  refine ⟨document.kept _ (by simp [partialDocument]) (by simp [schema]), document.keys,
    after, found, extension.kept _ (by simp) (by simp [keysIn, schema]), extension.keys⟩

end PackageRecipe.Manifest
