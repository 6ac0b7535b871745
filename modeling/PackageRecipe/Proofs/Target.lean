import PackageRecipe.Target

/-!
Names of facts. Targets differ in the facts themselves and never in their names.
-/

namespace PackageRecipe

/-- The same names have a fact, whatever it is. -/
def Facts.SameNames (first second : Facts) : Prop :=
  ∀ word, (first.lookup word).isNone = (second.lookup word).isNone

theorem Facts.SameNames.symm {first second : Facts} (same : first.SameNames second) :
    second.SameNames first :=
  fun word => (same word).symm

namespace Target

theorem isSome_lookup_facts_iff (target : Target) (word : String) :
    (target.facts.lookup word).isSome ↔ word ∈ Facts.names := by
  rw [List.lookup_isSome_iff, ← target.map_fst_facts, List.mem_map]
  exact exists_congr fun entry => and_congr_right fun _ => beq_iff_eq.trans eq_comm

theorem sameNames_facts (first second : Target) : first.facts.SameNames second.facts := by
  intro word
  rw [← Option.not_isSome, ← Option.not_isSome]
  exact congrArg not (Bool.eq_iff_iff.mpr
    ((first.isSome_lookup_facts_iff word).trans (second.isSome_lookup_facts_iff word).symm))

end Target

end PackageRecipe
