import Mathlib.Data.List.DropRight
import PackageRecipe.Proofs.Document.Transparency

/-!
What a cache holds. Its queue and its entries always have the same keys, and what is
resident after a run of loads are the texts that the run added last, as many as there is
room for.
-/

namespace PackageRecipe.Document.Cache

/-! ## The newest items of a list -/

section Newest

variable {α : Type}

theorem rtake_of_length_le {items : List α} {count : Nat} (short : items.length ≤ count) :
    items.rtake count = items := by
  rw [List.rtake, Nat.sub_eq_zero_of_le short, List.drop_zero]

theorem length_rtake (items : List α) (count : Nat) :
    (items.rtake count).length = min count items.length := by
  rw [List.rtake, List.length_drop]
  omega

theorem rtake_isSuffix (items : List α) (count : Nat) : items.rtake count <:+ items :=
  List.drop_suffix _ items

/-- The newest items after others were added, of which some may be among them. -/
theorem rtake_append (items others : List α) {count : Nat} (few : others.length ≤ count) :
    (items ++ others).rtake count = items.rtake (count - others.length) ++ others := by
  have excess : (items ++ others).length - count = items.length - (count - others.length) := by
    rw [List.length_append]
    omega
  rw [List.rtake, excess, List.drop_append_of_le_length (by omega), List.rtake]

/-- Items that are pushed out need not have been there. -/
theorem rtake_rtake_append (items others : List α) (count : Nat) :
    (items.rtake count ++ others).rtake count = (items ++ others).rtake count := by
  rcases Nat.le_total items.length count with short | long
  · rw [rtake_of_length_le short]
  · have kept : (items.rtake count).length = count := by
      rw [length_rtake, Nat.min_eq_left long]
    have split : items.rtake count ++ others = (items ++ others).drop (items.length - count) := by
      rw [List.rtake, List.drop_append_of_le_length (by omega)]
    rw [List.rtake, List.length_append, kept, split, List.drop_drop, List.rtake,
      List.length_append]
    congr 1
    omega

end Newest

/-! ## Consistency -/

section Consistent

variable {Key : Type} {cache : Cache Key}

/-- The queue has no key twice and no more keys than there is room for, and they are the
keys of the entries. -/
structure Consistent (cache : Cache Key) : Prop where
  nodup : cache.order.Nodup
  keys : (cache.entries.map Prod.fst).Perm cache.order
  bounded : cache.order.length ≤ cache.capacity

theorem consistent_empty (digest : String → Key) (capacity : Nat) :
    (empty digest capacity).Consistent where
  nodup := .nil
  keys := .nil
  bounded := Nat.zero_le _

theorem Consistent.size_eq (consistent : cache.Consistent) :
    cache.size = cache.order.length := by
  rw [size, ← consistent.keys.length_eq, List.length_map]

variable [DecidableEq Key]

theorem Consistent.isSome_lookup_iff (consistent : cache.Consistent) (key : Key) :
    (cache.entries.lookup key).isSome ↔ key ∈ cache.order := by
  rw [List.lookup_isSome_iff, ← consistent.keys.mem_iff, List.mem_map]
  exact exists_congr fun entry => and_congr_right fun _ => beq_iff_eq.trans eq_comm

@[simp] theorem capacity_makeRoom (cache : Cache Key) :
    cache.makeRoom.capacity = cache.capacity := by
  fun_cases makeRoom cache <;> rfl

/-- Only the oldest key goes, and only if it has to. -/
theorem Consistent.order_makeRoom (consistent : cache.Consistent) :
    cache.makeRoom.order = cache.order.rtake (cache.capacity - 1) := by
  have bounded := consistent.bounded
  have positive := cache.positive
  fun_cases makeRoom cache with
  | case1 order => rw [order, List.rtake_nil]
  | case2 oldest others order full =>
      rw [order, List.length_cons] at bounded full
      have excess : others.length + 1 - (cache.capacity - 1) = 1 := by omega
      rw [order, List.rtake, List.length_cons, excess, List.drop_one, List.tail_cons]
  | case3 oldest others order notFull => rw [rtake_of_length_le (by omega)]

theorem Consistent.keys_makeRoom (consistent : cache.Consistent) :
    (cache.makeRoom.entries.map Prod.fst).Perm cache.makeRoom.order := by
  have nodup := consistent.nodup
  have keys := consistent.keys
  fun_cases makeRoom cache with
  | case2 oldest others order full =>
      rw [order, List.nodup_cons] at nodup
      change ((cache.entries.filter fun entry => entry.1 ≠ oldest).map Prod.fst).Perm others
      have different : ∀ key ∈ others, decide (key ≠ oldest) := by
        intro key member
        rw [decide_eq_true_iff]
        rintro rfl
        exact nodup.1 member
      have kept := keys.filter fun key => decide (key ≠ oldest)
      rw [order, List.filter_map, List.filter_cons_of_neg (by simp),
        List.filter_eq_self.mpr different] at kept
      exact kept
  | _ => exact keys

theorem Consistent.insert {key : Key} {document : Yaml.Mapping} (consistent : cache.Consistent)
    (absent : cache.entries.lookup key = none) :
    (cache.insert key document).Consistent ∧
      (cache.insert key document).capacity = cache.capacity ∧
      (cache.insert key document).order = (cache.order ++ [key]).rtake cache.capacity := by
  have positive := cache.positive
  have newest : (cache.order ++ [key]).rtake cache.capacity =
      cache.makeRoom.order ++ [key] := by
    rw [consistent.order_makeRoom]
    exact rtake_append _ _ positive
  have inserted : cache.insert key document =
      { cache.makeRoom with
        order := (cache.order ++ [key]).rtake cache.capacity
        entries := (key, document) :: cache.makeRoom.entries } := by
    rw [Cache.insert, absent, newest]
    rfl
  have fresh : key ∉ cache.order := by
    rw [← consistent.isSome_lookup_iff, absent]
    exact Bool.false_ne_true
  rw [inserted]
  refine ⟨⟨?nodup, ?keys, ?bounded⟩, capacity_makeRoom cache, rfl⟩
  case nodup =>
    have nodup : (cache.order ++ [key]).Nodup :=
      (List.perm_append_singleton key cache.order).nodup_iff.mpr
        (List.nodup_cons.mpr ⟨fresh, consistent.nodup⟩)
    exact nodup.sublist (rtake_isSuffix _ _).sublist
  case keys =>
    change (key :: cache.makeRoom.entries.map Prod.fst).Perm
      ((cache.order ++ [key]).rtake cache.capacity)
    rw [newest]
    exact (consistent.keys_makeRoom.cons key).trans (List.perm_append_singleton _ _).symm
  case bounded =>
    change ((cache.order ++ [key]).rtake cache.capacity).length ≤ cache.makeRoom.capacity
    rw [length_rtake, capacity_makeRoom]
    exact Nat.min_le_left _ _

end Consistent

/-! ## Insertions -/

section Insertions

variable {Key : Type} [DecidableEq Key] {cache : Cache Key}

/-- A text is resident if there is a document under its digest. -/
def Holds (cache : Cache Key) (text : String) : Prop :=
  (cache.entries.lookup (cache.digest text)).isSome

instance (cache : Cache Key) (text : String) : Decidable (cache.Holds text) :=
  inferInstanceAs (Decidable ((cache.entries.lookup (cache.digest text)).isSome = true))

/-- A text that is not resident is added when it is loaded, if it is a document. -/
def Adds (cache : Cache Key) (text : String) : Prop :=
  ¬cache.Holds text ∧ (parse text).isOk

instance (cache : Cache Key) (text : String) : Decidable (cache.Adds text) :=
  inferInstanceAs (Decidable (¬cache.Holds text ∧ (parse text).isOk = true))

def insertions (cache : Cache Key) : List String → List String
  | [] => []
  | text :: rest =>
      let later := (cache.load text).2.insertions rest
      if cache.Adds text then text :: later else later

theorem Consistent.holds_iff (consistent : cache.Consistent) (text : String) :
    cache.Holds text ↔ cache.digest text ∈ cache.order :=
  consistent.isSome_lookup_iff (cache.digest text)

/-- Hits and failing loads change nothing. -/
theorem load_of_not_adds {text : String} (notAdded : ¬cache.Adds text) :
    (cache.load text).2 = cache := by
  fun_cases Cache.load cache text with
  | case2 key absent document parsed =>
      refine absurd ⟨?_, ?_⟩ notAdded
      · rw [Holds, show cache.entries.lookup (cache.digest text) = none from absent]
        exact Bool.false_ne_true
      · rw [parsed]
        rfl
  | _ => rfl

theorem load_of_adds {text : String} (added : cache.Adds text) :
    ∃ document, cache.entries.lookup (cache.digest text) = none ∧
      (cache.load text).2 = cache.insert (cache.digest text) document := by
  rcases added with ⟨notHeld, isDocument⟩
  rw [Holds, Option.not_isSome_iff_eq_none] at notHeld
  cases parsed : parse text with
  | error error =>
      rw [parsed] at isDocument
      cases isDocument
  | ok document => exact ⟨document, notHeld, by rw [load, notHeld, parsed]⟩

@[simp] theorem digest_load (cache : Cache Key) (text : String) :
    (cache.load text).2.digest = cache.digest := by
  fun_cases Cache.load cache text with
  | case2 key absent document parsed => exact digest_insert cache key document
  | _ => rfl

theorem Consistent.load (consistent : cache.Consistent) (text : String) :
    (cache.load text).2.Consistent ∧ (cache.load text).2.capacity = cache.capacity ∧
      (cache.load text).2.order =
        (cache.order ++ if cache.Adds text then [cache.digest text] else []).rtake
          cache.capacity := by
  by_cases added : cache.Adds text
  · rcases load_of_adds added with ⟨document, absent, loaded⟩
    rw [if_pos added, loaded]
    exact consistent.insert absent
  · rw [if_neg added, load_of_not_adds added, List.append_nil,
      rtake_of_length_le consistent.bounded]
    exact ⟨consistent, rfl, rfl⟩

/-- What a run adds pushes out what was there before it. -/
theorem Consistent.loadAll (consistent : cache.Consistent) (loads : List String) :
    (cache.loadAll loads).2.Consistent ∧ (cache.loadAll loads).2.capacity = cache.capacity ∧
      (cache.loadAll loads).2.digest = cache.digest ∧
      (cache.loadAll loads).2.order =
        (cache.order ++ (cache.insertions loads).map cache.digest).rtake cache.capacity := by
  induction loads generalizing cache with
  | nil =>
      refine ⟨consistent, rfl, rfl, ?_⟩
      rw [insertions, List.map_nil, List.append_nil, rtake_of_length_le consistent.bounded]
      rfl
  | cons text rest induction =>
      rcases consistent.load text with ⟨loaded, capacity, order⟩
      rcases induction loaded with ⟨final, finalCapacity, finalDigest, finalOrder⟩
      refine ⟨final, finalCapacity.trans capacity, finalDigest.trans (digest_load cache text), ?_⟩
      refine finalOrder.trans ?_
      rw [order, capacity, digest_load, rtake_rtake_append, List.append_assoc, insertions]
      congr 2
      split <;> rfl

theorem exists_of_insertions_eq {loads earlier later : List String} {text : String}
    (equal : cache.insertions loads = earlier ++ text :: later) :
    ∃ before, cache.insertions before = earlier ∧ (cache.loadAll before).2.Adds text := by
  induction loads generalizing cache earlier with
  | nil =>
      rw [insertions] at equal
      simp at equal
  | cons head rest induction =>
      rw [insertions] at equal
      by_cases added : cache.Adds head
      · rw [if_pos added] at equal
        cases earlier with
        | nil =>
            cases equal
            exact ⟨[], rfl, added⟩
        | cons first others =>
            rcases List.cons.inj equal with ⟨rfl, rest⟩
            rcases induction rest with ⟨before, inserted, adds⟩
            refine ⟨head :: before, ?_, adds⟩
            rw [insertions, if_pos added, inserted]
      · rw [if_neg added] at equal
        rcases induction equal with ⟨before, inserted, adds⟩
        refine ⟨head :: before, ?_, adds⟩
        rw [insertions, if_neg added, inserted]

theorem mem_of_mem_insertions {loads : List String} {text : String}
    (member : text ∈ cache.insertions loads) : text ∈ loads := by
  induction loads generalizing cache with
  | nil => exact member
  | cons head rest induction =>
      rw [insertions] at member
      split at member
      · rcases List.mem_cons.mp member with rfl | member
        · exact List.mem_cons_self
        · exact List.mem_cons_of_mem head (induction member)
      · exact List.mem_cons_of_mem head (induction member)

/-! ## Residents -/

section Added

variable {text : String} (consistent : cache.Consistent) (added : cache.Adds text)
include consistent added

theorem Consistent.order_loadAll_of_adds (after : List String) :
    ((cache.load text).2.loadAll after).2.order =
      (cache.order ++ cache.digest text ::
        ((cache.load text).2.insertions after).map cache.digest).rtake cache.capacity := by
  rcases consistent.load text with ⟨loaded, capacity, order⟩
  rcases loaded.loadAll after with ⟨_, _, _, finalOrder⟩
  rw [finalOrder, order, capacity, digest_load, if_pos added, rtake_rtake_append,
    List.append_assoc, List.singleton_append]

/-- A text stays as long as there is room for it and for what was added after it. -/
theorem Consistent.holds_of_few {after : List String}
    (few : ((cache.load text).2.insertions after).length < cache.capacity) :
    ((cache.load text).2.loadAll after).2.Holds text := by
  rcases (consistent.load text).1.loadAll after with ⟨final, _, digest, _⟩
  rw [final.holds_iff, digest, digest_load, consistent.order_loadAll_of_adds added,
    rtake_append _ _ (by rwa [List.length_cons, List.length_map])]
  exact List.mem_append_right _ List.mem_cons_self

/-- A text is gone when what was added after it takes all the room. It cannot be among
those texts itself: it was resident up to the last of them. -/
theorem Consistent.not_holds_of_full {after : List String}
    (full : ((cache.load text).2.insertions after).length = cache.capacity) :
    ¬((cache.load text).2.loadAll after).2.Holds text := by
  rcases (consistent.load text).1.loadAll after with ⟨final, _, digest, _⟩
  rw [final.holds_iff, digest, digest_load, consistent.order_loadAll_of_adds added,
    List.append_cons, rtake_append _ _ (by simp [full]), List.length_map, full, Nat.sub_self,
    List.rtake_zero, List.nil_append, List.mem_map]
  intro resident
  rcases resident with ⟨other, member, sameDigest⟩
  rcases List.append_of_mem member with ⟨earlier, later, equal⟩
  rcases exists_of_insertions_eq equal with ⟨before, inserted, adds, _⟩
  have few : ((cache.load text).2.insertions before).length < cache.capacity := by
    rw [inserted, ← full, equal, List.length_append, List.length_cons]
    omega
  have held := consistent.holds_of_few added few
  rcases (consistent.load text).1.loadAll before with ⟨_, _, digest, _⟩
  rw [Holds, digest, digest_load] at adds held
  rw [sameDigest] at adds
  exact adds held

end Added

theorem Consistent.size_le_size_load (consistent : cache.Consistent) (text : String) :
    cache.size ≤ (cache.load text).2.size := by
  rcases consistent.load text with ⟨loaded, _, order⟩
  have bounded := consistent.bounded
  rw [consistent.size_eq, loaded.size_eq, order, length_rtake, List.length_append]
  omega

/-- After any run of loads, the queue and the entries have the same keys, each once, and no
more than there is room for: those of the texts that the run added last, in the order in
which it did. So a load that adds nothing changes nothing, and an added text stays until as
many others were added after it as there is room for. If the digest tells the texts of the
run apart, these last texts are the resident ones. -/
theorem keeps_last_insertions {Key : Type} [DecidableEq Key] (digest : String → Key)
    (capacity : Nat) (loads : List String) :
    let start := empty digest capacity
    let final := (start.loadAll loads).2
    let added := start.insertions loads
    let room := max capacity 1
    (final.order.Nodup ∧ (final.entries.map Prod.fst).Perm final.order ∧
      final.order.length ≤ room) ∧
    (final.order <:+ added.map digest ∧ final.order.length = min room added.length) ∧
    (Set.InjOn digest {text | text ∈ loads} →
      ∀ text ∈ loads, final.Holds text ↔ text ∈ added.rtake room) ∧
    ∀ text,
      let next := (final.load text).2
      (¬final.Adds text → next = final) ∧
      (final.Adds text → ∀ after,
        ((next.insertions after).length < room → (next.loadAll after).2.Holds text) ∧
        ((next.insertions after).length = room → ¬(next.loadAll after).2.Holds text)) ∧
      final.size ≤ next.size := by
  intro start final added room
  rcases (consistent_empty digest capacity).loadAll loads with
    ⟨consistent, sameRoom, sameDigest, order⟩
  change final.Consistent at consistent
  change final.capacity = room at sameRoom
  change final.digest = digest at sameDigest
  change final.order = (added.map digest).rtake room at order
  refine ⟨⟨consistent.nodup, consistent.keys, sameRoom ▸ consistent.bounded⟩,
    ⟨?last, ?count⟩, ?residents, ?next⟩
  case last =>
    rw [order]
    exact rtake_isSuffix _ _
  case count => rw [order, length_rtake, List.length_map]
  case residents =>
    intro distinct text loaded
    rw [consistent.holds_iff, sameDigest, order, List.rtake, List.length_map, ← List.map_drop,
      List.mem_map]
    constructor
    · intro resident
      rcases resident with ⟨other, member, same⟩
      have otherLoaded := mem_of_mem_insertions (List.mem_of_mem_drop member)
      rwa [distinct otherLoaded loaded same] at member
    · intro member
      exact ⟨text, member, rfl⟩
  case next =>
    intro text next
    refine ⟨load_of_not_adds, ?_, consistent.size_le_size_load text⟩
    intro adds after
    rw [← sameRoom]
    exact ⟨consistent.holds_of_few adds, consistent.not_holds_of_full adds⟩

/-- Room for two. Of the texts that are added, one of them twice, the last two are there;
the text that is no document was not added, and one that is gone can be added again. -/
theorem keeps_last_insertions_again :
    let loads := ["# a", "[]", "# bc", "# a", "# def", "# a"]
    let final := ((empty String.length 2).loadAll loads).2
    let next := (final.load "# bc").2
    Set.InjOn String.length {text | text ∈ loads} ∧ final.order = [5, 3] ∧
      final.Holds "# def" ∧ ¬final.Holds "# bc" ∧
      ¬final.Adds "# def" ∧ (final.load "# def").2 = final ∧
      final.Adds "# bc" ∧ (next.loadAll ["# def"]).2.Holds "# bc" ∧
      ¬(next.loadAll ["# def", "# a"]).2.Holds "# bc" := by
  intro loads final next
  rcases keeps_last_insertions String.length 2 loads with ⟨_, ⟨last, count⟩, residents, rest⟩
  have added : (empty String.length 2).insertions loads =
      ["# a", "# bc", "# def", "# a"] := by decide +kernel
  have distinct : Set.InjOn String.length {text | text ∈ loads} := by
    have apart : ∀ left ∈ loads, ∀ right ∈ loads, left.length = right.length →
        left = right := by decide
    exact fun left member right rightMember => apart left member right rightMember
  rw [added] at last count residents
  have order : final.order = [5, 3] := by
    have suffix := List.suffix_iff_eq_drop.mp last
    rwa [count] at suffix
  have held : final.Holds "# def" := (residents distinct _ (by decide)).mpr (by decide)
  have notHeld : ¬final.Holds "# bc" := by
    rw [residents distinct _ (by decide)]
    decide
  have adds : final.Adds "# bc" := ⟨notHeld, rfl⟩
  have notAdds : ¬final.Adds "# def" := fun adds => adds.1 held
  have one : (next.insertions ["# def"]).length = 1 := by decide +kernel
  have two : (next.insertions ["# def", "# a"]).length = 2 := by decide +kernel
  rcases rest "# bc" with ⟨_, stays, _⟩
  exact ⟨distinct, order, held, notHeld, notAdds, (rest "# def").1 notAdds, adds,
    (stays adds ["# def"]).1 (one ▸ by decide), (stays adds ["# def", "# a"]).2 two⟩

end Insertions

end PackageRecipe.Document.Cache
