import PackageRecipe.Document
import PackageRecipe.Proofs.Outcome
import PackageRecipe.Proofs.Yaml.Mapping

/-!
Integers in documents. Whatever a YAML text says, an integer in its value has at most 64
bits, with or without a sign: larger ones are refused or become floats.
-/

namespace PackageRecipe

namespace Yaml

/-- Every integer in a value, among keys and under tags too, has 64 bits, of which one may be
the sign. -/
inductive Value.HasShortIntegers : Value → Prop
  | null : HasShortIntegers .null
  | boolean (value : Bool) : HasShortIntegers (.boolean value)
  | integer {value : Int} (low : -0x8000000000000000 ≤ value)
      (high : value < 0x10000000000000000) : HasShortIntegers (.number (.integer value))
  | float (value : Binary64) : HasShortIntegers (.number (.float value))
  | string (value : String) : HasShortIntegers (.string value)
  | sequence {items : List Value} (each : ∀ item ∈ items, HasShortIntegers item) :
      HasShortIntegers (.sequence items)
  | mapping {entries : List (Value × Value)}
      (keys : ∀ entry ∈ entries, HasShortIntegers entry.1)
      (values : ∀ entry ∈ entries, HasShortIntegers entry.2) :
      HasShortIntegers (.mapping entries)
  | tagged (tag : String) {value : Value} (inner : HasShortIntegers value) :
      HasShortIntegers (.tagged tag value)

open Value (HasShortIntegers)

namespace Value.HasShortIntegers

variable {value : Value} (short : value.HasShortIntegers)
include short

theorem underTag (tag : Option Tag) : (Value.underTag tag value).HasShortIntegers := by
  fun_cases Value.underTag tag value with
  | case1 name => exact .tagged name short
  | case2 => exact short

theorem untagged : value.untagged.HasShortIntegers := by
  fun_induction Value.untagged value with
  | case1 _ _ induction =>
      cases short with
      | tagged _ inner => exact induction inner
  | case2 => exact short

omit short in
theorem of_get? {entries : Mapping} {key : String}
    (short : (Value.mapping entries).HasShortIntegers) (found : entries.get? key = some value) :
    value.HasShortIntegers := by
  cases short with
  | mapping _ values => exact values _ (Mapping.mem_of_get?_eq_some found)

theorem of_mapping? {entries : Mapping} (found : value.mapping? = some entries) :
    (Value.mapping entries).HasShortIntegers := by
  have plain := short.untagged
  rw [Value.mapping?] at found
  split at found
  next equal =>
    cases found
    exact equal ▸ plain
  · cases found

end Value.HasShortIntegers

/-! ## Scalars -/

namespace Scalar

variable {text : String} {value : Value}

theorem hasShortIntegers_of_checkedInteger {integer : Int}
    (checked : checkedInteger integer = some (.ok value)) : value.HasShortIntegers := by
  rw [checkedInteger] at checked
  split at checked
  next bounds =>
    cases checked
    exact .integer bounds.1 bounds.2
  · split at checked <;> cases checked

theorem hasShortIntegers_of_resolve (resolved : resolve text = .ok value) :
    value.HasShortIntegers := by
  revert resolved
  fun_cases resolve text with
  | case1 =>
      rintro ⟨⟩
      exact .null
  | case2 _ flag =>
      rintro ⟨⟩
      exact .boolean flag
  | case3 _ _ result found =>
      rintro rfl
      rcases Option.bind_eq_some_iff.mp found with ⟨integer, _, checked⟩
      exact hasShortIntegers_of_checkedInteger checked
  | case4 | case6 =>
      rintro ⟨⟩
      exact .string text
  | case5 _ _ _ _ float =>
      rintro ⟨⟩
      exact .float float

theorem eq_some_of_getD_eq_ok {result : Option (Except Error Value)} {error : Error}
    (equal : result.getD (.error error) = .ok value) : result = some (.ok value) := by
  cases result with
  | none => cases equal
  | some result => exact congrArg some equal

theorem hasShortIntegers_of_ofStandard {standard : Standard}
    (resolved : ofStandard standard text = .ok value) : value.HasShortIntegers := by
  have found := eq_some_of_getD_eq_ok resolved
  cases standard with
  | boolean =>
      rcases Option.map_eq_some_iff.mp found with ⟨flag, _, equal⟩
      cases equal
      exact .boolean flag
  | integer =>
      rcases Option.bind_eq_some_iff.mp found with ⟨integer, _, checked⟩
      exact hasShortIntegers_of_checkedInteger checked
  | float =>
      rcases Option.map_eq_some_iff.mp found with ⟨float, _, equal⟩
      cases equal
      exact .float float
  | null =>
      rcases Option.ite_none_right_eq_some.mp found with ⟨_, equal⟩
      cases equal
      exact .null

theorem hasShortIntegers_of_ofNode {tag : Option Tag} {plain : Bool}
    (resolved : ofNode tag plain text = .ok value) : value.HasShortIntegers := by
  have untagged : ∀ {value},
      (if plain then resolve text else .ok (.string text)) = .ok value →
        value.HasShortIntegers := by
    intro value equal
    split at equal
    · exact hasShortIntegers_of_resolve equal
    · cases equal
      exact .string text
  simp only [ofNode] at resolved
  cases tag with
  | none => exact untagged resolved
  | some tag =>
      cases tag with
      | own name =>
          rcases exists_of_map_eq_ok resolved with ⟨inner, equal, rfl⟩
          exact .tagged name (untagged equal)
      | standard standard => exact hasShortIntegers_of_ofStandard resolved
      | other =>
          cases resolved
          exact .string text

end Scalar

/-! ## Trees -/

theorem Node.ensures_value (anchored : List (String × Node)) (depth : Nat) (node : Node) :
    Ensures HasShortIntegers (node.value anchored depth) := by
  have scalar : ∀ (properties : Properties) plain text, Ensures HasShortIntegers
      (liftM (Scalar.ofNode (properties.tag.bind Tag.ofBytes?) plain text) : Following Value) :=
    fun _ _ _ => .lift fun _ => Scalar.hasShortIntegers_of_ofNode
  -- Every collection lowers the depth for what is in it.
  induction depth generalizing node with
  | zero =>
      rw [Node.value]
      refine (Ensures.anything (follow anchored node)).bind fun node _ => ?_
      cases node with
      | scalar properties plain text => exact scalar properties plain text
      | _ => exact .fail _
  | succ depth induction =>
      rw [Node.value]
      refine (Ensures.anything (follow anchored node)).bind fun node _ => ?_
      cases node with
      | scalar properties plain text => exact scalar properties plain text
      | sequence properties items =>
          refine (Ensures.mapM induction).bind fun values each => ?_
          exact .pure (HasShortIntegers.underTag (.sequence each) _)
      | mapping properties entries =>
          have entry : ∀ entry : Node × Node, Ensures
              (fun entry : Value × Value => entry.1.HasShortIntegers ∧ entry.2.HasShortIntegers)
              (do return (← value anchored depth entry.1, ← value anchored depth entry.2)) := by
            intro entry
            refine (induction entry.1).bind fun key keyShort => ?_
            refine (induction entry.2).bind fun content contentShort => ?_
            exact .pure ⟨keyShort, contentShort⟩
          refine (Ensures.mapM entry).bind fun entries each => ?_
          have mapping : (Value.mapping entries).HasShortIntegers :=
            .mapping (fun entry member => (each entry member).1)
              fun entry member => (each entry member).2
          split
          · exact .fail _
          · exact .pure (mapping.underTag _)
      | _ => exact .fail _

theorem hasShortIntegers_of_parse {text : String} {value : Value}
    (parsed : parse text = .ok value) : value.HasShortIntegers := by
  rcases exists_of_bind_eq_ok parsed with ⟨lexed, _, parsed⟩
  rcases exists_of_bind_eq_ok parsed with ⟨tokens, _, parsed⟩
  rcases exists_of_bind_eq_ok parsed with ⟨node, _, parsed⟩
  rcases exists_of_bind_eq_ok parsed with ⟨⟨result, left⟩, found, equal⟩
  cases equal
  exact node.ensures_value _ _ _ _ _ found

end Yaml

/-! ## Documents -/

theorem Document.hasShortIntegers_of_parse {text : String} {document : Yaml.Mapping}
    (parsed : Document.parse text = .ok document) :
    (Yaml.Value.mapping document).HasShortIntegers := by
  have empty : (Yaml.Value.mapping []).HasShortIntegers :=
    .mapping (List.forall_mem_nil _) (List.forall_mem_nil _)
  rw [Document.parse] at parsed
  split at parsed
  · cases parsed
    exact empty
  · split at parsed
    · cases parsed
    · cases parsed
      exact empty
    next entries found =>
      cases parsed
      exact Yaml.hasShortIntegers_of_parse found
    · cases parsed

end PackageRecipe
