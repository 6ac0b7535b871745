import PackageRecipe.Yaml.Value

/-!
Entries that are put into a mapping. One that is put where it already is changes
nothing; any other leaves all else in its place, and follows it if its key is new.
-/

namespace PackageRecipe.Yaml.Mapping

theorem get?_cons_of_not_string {entry : Value × Value}
    (notString : ∀ name value, entry = (.string name, value) → False) (rest : Mapping)
    (key : String) : get? (entry :: rest) key = get? rest key := by
  rcases entry with ⟨other, value⟩
  cases other with
  | string name => exact absurd rfl (notString name value)
  | _ => rfl

theorem mem_of_get?_eq_some {entries : Mapping} {key : String} {value : Value}
    (found : entries.get? key = some value) : (.string key, value) ∈ entries := by
  fun_induction get? entries key with
  | case1 => cases found
  | case2 former rest =>
      cases found
      exact List.mem_cons_self
  | case3 _ _ _ _ induction => exact List.mem_cons_of_mem _ (induction found)
  | case4 _ _ _ induction => exact List.mem_cons_of_mem _ (induction found)

theorem put_of_get?_eq_some {entries : Mapping} {key : String} {value : Value}
    (found : entries.get? key = some value) : entries.put key value = entries := by
  fun_induction put entries key value with
  | case1 => cases found
  | case2 former rest =>
      rw [get?, if_pos rfl] at found
      rw [Option.some.inj found]
  | case3 name former rest different induction =>
      rw [get?, if_neg different] at found
      rw [induction found]
  | case4 entry rest notString induction =>
      rw [get?_cons_of_not_string notString] at found
      rw [induction found]

/-! ## Extensions -/

/-- A mapping that differs from the one before only in the values under the changed
keys and in the added keys, which follow all others. -/
structure Extends (changed added : List String) (before after : Mapping) : Prop where
  kept : ∀ entry ∈ before, (∀ key ∈ changed, entry.1 ≠ .string key) → entry ∈ after
  keys : after.map Prod.fst = before.map Prod.fst ++ added.map .string

theorem Extends.refl (entries : Mapping) : Extends [] [] entries entries where
  kept := fun _ member _ => member
  keys := (List.append_nil _).symm

theorem Extends.trans {changed laterChanged added laterAdded : List String}
    {before between after : Mapping} (first : Extends changed added before between)
    (later : Extends laterChanged laterAdded between after) :
    Extends (changed ++ laterChanged) (added ++ laterAdded) before after where
  kept := by
    intro entry member unchanged
    rw [List.forall_mem_append] at unchanged
    exact later.kept entry (first.kept entry member unchanged.1) unchanged.2
  keys := by
    rw [later.keys, first.keys, List.map_append, List.append_assoc]

/-- The keys that a mapping lacks, each once, in the order in which they are first
named. -/
def missing (entries : Mapping) (keys : List String) : List String :=
  (keys.filter fun key => (entries.get? key).isNone).eraseDups

example : missing [(.string "b", .null)] ["c", "b", "a", "c"] = ["c", "a"] := by decide

/-- A key that was put is not missed by what comes after it. -/
theorem missing_cons (entries : Mapping) (key : String) (value : Value)
    (keys : List String) :
    entries.missing (key :: keys) =
      entries.missing [key] ++ (entries.put key value).missing keys := by
  cases found : entries.get? key with
  | some former =>
      have same : ∀ other, ((entries.put key value).get? other).isNone =
          (entries.get? other).isNone := by
        intro other
        by_cases equal : other = key
        · rw [equal, get?_put, found]
          rfl
        · rw [get?_put_of_ne _ _ equal]
      simp [missing, found, same]
  | none =>
      have others : ∀ other, ((entries.put key value).get? other).isNone =
          ((!other == key) && (entries.get? other).isNone) := by
        intro other
        by_cases equal : other = key
        · simp [equal]
        · simp [get?_put_of_ne _ _ equal, equal]
      simp [missing, found, others, List.eraseDups_cons]

theorem missing_singleton (entries : Mapping) (key : String) :
    entries.missing [key] = if (entries.get? key).isNone then [key] else [] := by
  cases found : entries.get? key <;> simp [missing, found, List.eraseDups_cons]

theorem Extends.cons {changed added : List String} {before after : Mapping}
    (entry : Value × Value) (rest : Extends changed added before after) :
    Extends changed added (entry :: before) (entry :: after) where
  kept := by
    intro other member unchanged
    rcases List.mem_cons.mp member with rfl | member
    · exact List.mem_cons_self
    · exact List.mem_cons_of_mem entry (rest.kept other member unchanged)
  keys := by rw [List.map_cons, rest.keys, List.map_cons, List.cons_append]

theorem extends_put (entries : Mapping) (key : String) (value : Value) :
    Extends [key] (entries.missing [key]) entries (entries.put key value) := by
  rw [missing_singleton]
  fun_induction put entries key value with
  | case1 => exact ⟨by simp, rfl⟩
  | case2 former rest =>
      rw [get?, if_pos rfl]
      refine ⟨?_, (List.append_nil _).symm⟩
      intro entry member unchanged
      rcases List.mem_cons.mp member with rfl | member
      · exact absurd rfl (unchanged key List.mem_cons_self)
      · exact List.mem_cons_of_mem _ member
  | case3 name former rest different induction =>
      rw [get?, if_neg different]
      exact induction.cons (.string name, former)
  | case4 entry rest notString induction =>
      rw [get?_cons_of_not_string notString]
      exact induction.cons entry

end PackageRecipe.Yaml.Mapping
