import Mathlib.Data.List.Infix
import Mathlib.Data.Set.Finite.Basic
import PackageRecipe.Path
import PackageRecipe.Proofs.Text

/-!
Where paths lead. A path seen from a directory leads to a place inside of it, wherever the
directory is, exactly if it is relative, at no point climbs more often than it has descended,
and descends more often than it climbs in the end.
-/

namespace PackageRecipe.Path

def IsAbsolute (path : String) : Prop :=
  path.toList.head? = some '/'

instance : DecidablePred IsAbsolute :=
  fun path => inferInstanceAs (Decidable (path.toList.head? = some '/'))

def IsName (name : String) : Prop :=
  name ≠ "" ∧ name ≠ "." ∧ name ≠ ".."

instance : DecidablePred IsName :=
  fun name => inferInstanceAs (Decidable (name ≠ "" ∧ name ≠ "." ∧ name ≠ ".."))

/-- The place of a path for a program that runs in a directory: the names that lead to it from
the root, the innermost first. The directory is given by the names that lead to it. -/
def place (around : List String) (path : String) : List String :=
  (names path).foldl step (if IsAbsolute path then [] else around)

/-- The names that lead down to a directory, with no slashes in them. -/
def IsPlace (around : List String) : Prop :=
  ∀ name ∈ around, IsName name ∧ '/' ∉ name.toList

/-- A path leads strictly inside of a directory. -/
def IsInside (around : List String) (directory path : String) : Prop :=
  ∃ inner ≠ [], place around path = inner ++ place around directory

/-! How often names lead up, and how often down. -/

def climbs (found : List String) : Nat :=
  found.count ".."

def descents (found : List String) : Nat :=
  found.countP fun name => decide (IsName name)

/-- At no point do names lead up more often than they have led down. -/
def StaysWithin (found : List String) : Prop :=
  ∀ front, front <+: found → climbs front ≤ descents front

/-- A relative path that does not leave the directory it is seen from, not even for a while, and
does not end there. -/
structure IsInner (path : String) : Prop where
  relative : ¬IsAbsolute path
  within : StaysWithin (names path)
  ends : climbs (names path) < descents (names path)

instance : DecidablePred StaysWithin :=
  fun found => decidable_of_iff (∀ front ∈ found.inits, climbs front ≤ descents front) <| by
    simp only [StaysWithin, List.mem_inits]

instance : DecidablePred IsInner :=
  fun path => decidable_of_iff
    (¬IsAbsolute path ∧ StaysWithin (names path) ∧ climbs (names path) < descents (names path))
    ⟨fun parts => ⟨parts.1, parts.2.1, parts.2.2⟩,
      fun isInner => ⟨isInner.relative, isInner.within, isInner.ends⟩⟩

example : IsInner "art/../icon.png" ∧ ¬IsInner "../r/icon.png" ∧ ¬IsInner "art/.." := by
  decide +kernel

/-! ## Names one after the other -/

section Steps

variable {start outer found : List String} {name fresh : String}

theorem step_cases (place : List String) (name : String) :
    ¬IsName name ∧ name ≠ ".." ∧ step place name = place ∨
      ¬IsName name ∧ name = ".." ∧ step place name = place.tail ∨
      IsName name ∧ name ≠ ".." ∧ step place name = name :: place := by
  rw [step, IsName]
  by_cases up : name = ".."
  · subst up
    exact .inr (.inl ⟨by decide, rfl, rfl⟩)
  by_cases stays : name = "" ∨ name = "."
  · rw [if_pos stays]
    refine .inl ⟨?_, up, rfl⟩
    intro isName
    exact stays.elim isName.1 isName.2.1
  · rw [if_neg stays, if_neg up]
    rw [not_or] at stays
    exact .inr (.inr ⟨⟨stays.1, stays.2, up⟩, up, rfl⟩)

theorem climbs_concat (found : List String) (name : String) :
    climbs (found ++ [name]) = climbs found + if name = ".." then 1 else 0 := by
  rw [climbs, climbs, List.count_append, List.count_singleton]
  simp only [beq_iff_eq]

theorem descents_concat (found : List String) (name : String) :
    descents (found ++ [name]) = descents found + if IsName name then 1 else 0 := by
  rw [descents, descents, List.countP_append, List.countP_singleton]
  simp only [decide_eq_true_eq]

theorem staysWithin_concat_iff :
    StaysWithin (found ++ [name]) ↔
      StaysWithin found ∧ climbs (found ++ [name]) ≤ descents (found ++ [name]) := by
  constructor
  · intro within
    refine ⟨fun front isFront => within front ?_, within _ List.prefix_rfl⟩
    exact isFront.trans (List.prefix_append _ _)
  · intro within front isFront
    rcases List.prefix_concat_iff.mp isFront with rfl | isFront
    · exact within.2
    · exact within.1 front isFront

/-- Names that stay within the start end inside of it, as deep as they have led down. -/
theorem exists_inner_of_staysWithin (start : List String) (within : StaysWithin found) :
    ∃ inner, found.foldl step start = inner ++ start ∧
      inner.length + climbs found = descents found := by
  induction found using List.reverseRecOn with
  | nil => exact ⟨[], rfl, rfl⟩
  | append_singleton front name induction =>
      rw [staysWithin_concat_iff] at within
      rcases induction within.1 with ⟨inner, placed, counted⟩
      have whole := within.2
      rw [climbs_concat, descents_concat] at whole ⊢
      rw [List.foldl_append, placed, List.foldl_cons, List.foldl_nil]
      rcases step_cases (inner ++ start) name with
        ⟨notName, notUp, stepped⟩ | ⟨notName, up, stepped⟩ | ⟨isName, notUp, stepped⟩
      · rw [if_neg notName, if_neg notUp]
        exact ⟨inner, stepped, counted⟩
      · rw [if_neg notName, if_pos up] at whole ⊢
        cases inner with
        | nil =>
            rw [List.length_nil] at counted
            omega
        | cons last others =>
            rw [List.length_cons] at counted
            exact ⟨others, stepped, by omega⟩
      · rw [if_pos isName, if_neg notUp]
        exact ⟨name :: inner, stepped, by rw [List.length_cons]; omega⟩

theorem mem_of_mem_step (member : fresh ∈ step start name) : fresh = name ∨ fresh ∈ start := by
  rcases step_cases start name with ⟨_, _, stepped⟩ | ⟨_, _, stepped⟩ | ⟨_, _, stepped⟩
  · exact .inr (stepped ▸ member)
  · exact .inr (List.mem_of_mem_tail (stepped ▸ member))
  · exact List.mem_cons.mp (stepped ▸ member)

/-- Names that do not stay within the start leave its innermost name behind for good, unless it
is one of them. -/
theorem not_mem_foldl_step (leaves : ¬StaysWithin found) (notFound : fresh ∉ found)
    (notOuter : fresh ∉ outer) : fresh ∉ found.foldl step (fresh :: outer) := by
  induction found using List.reverseRecOn with
  | nil =>
      refine absurd ?_ leaves
      intro front isFront
      rw [List.prefix_nil.mp isFront]
      exact le_rfl
  | append_singleton front name induction =>
      rw [List.mem_append, List.mem_singleton, not_or] at notFound
      rw [List.foldl_append, List.foldl_cons, List.foldl_nil]
      by_cases within : StaysWithin front
      · -- The last name is the one that leads out.
        rcases exists_inner_of_staysWithin (fresh :: outer) within with ⟨inner, placed, counted⟩
        rw [staysWithin_concat_iff, not_and, not_le, climbs_concat, descents_concat] at leaves
        have last := leaves within
        rw [placed]
        rcases step_cases (inner ++ fresh :: outer) name with
          ⟨notName, notUp, _⟩ | ⟨notName, up, stepped⟩ | ⟨isName, notUp, _⟩
        · rw [if_neg notName, if_neg notUp] at last
          omega
        · rw [if_neg notName, if_pos up] at last
          have empty : inner = [] := List.length_eq_zero_iff.mp (by omega)
          rw [stepped, empty]
          exact notOuter
        · rw [if_pos isName, if_neg notUp] at last
          omega
      · intro member
        rcases mem_of_mem_step member with same | member
        · exact notFound.2 same
        · exact induction within notFound.1 member

end Steps

/-! ## Joined paths -/

theorem names_append_slash (directory path : String) :
    names (directory ++ "/" ++ path) = names directory ++ names path := by
  have text : (directory ++ "/" ++ path).toList =
      directory.toList ++ '/' :: path.toList := by simp
  rw [names, names, names, text, Text.pieces_append_cons rfl, List.map_append]

/-- What ends with a slash is a directory in which the other names are looked for. -/
theorem foldl_step_names_append {directory : String} (path : String) (start : List String)
    (slash : directory.toList.getLast? = some '/') :
    (names (directory ++ path)).foldl step start =
      (names path).foldl step ((names directory).foldl step start) := by
  rcases List.getLast?_eq_some_iff.mp slash with ⟨front, text⟩
  have parted : directory = String.ofList front ++ "/" ++ "" := by
    apply String.ext
    simp [text]
  have whole : directory ++ path = String.ofList front ++ "/" ++ path := by
    apply String.ext
    simp [text]
  rw [whole, names_append_slash, parted, names_append_slash, List.foldl_append,
    List.foldl_append]
  rfl

theorem isAbsolute_append_iff {directory : String} (notEmpty : directory ≠ "") (path : String) :
    IsAbsolute (directory ++ path) ↔ IsAbsolute directory := by
  rw [IsAbsolute, IsAbsolute, String.toList_append]
  cases text : directory.toList with
  | nil => exact absurd (String.ext text) notEmpty
  | cons first rest => simp

/-- A relative path leads on from the place of the directory that it is seen from. -/
theorem place_join (around : List String) (directory : String) {path : String}
    (relative : ¬IsAbsolute path) :
    place around (join directory path) = (names path).foldl step (place around directory) := by
  rw [join]
  by_cases empty : directory = ""
  · subst empty
    rw [if_pos (.inr rfl), place, place, if_neg relative]
    rfl
  · have seen : ¬(path.toList.head? = some '/' ∨ directory = "") := by
      rw [not_or]
      exact ⟨relative, empty⟩
    rw [if_neg seen]
    by_cases slash : directory.toList.getLast? = some '/'
    · rw [if_pos slash, place, place, foldl_step_names_append path _ slash]
      simp only [isAbsolute_append_iff empty]
    · rw [if_neg slash, place, place, names_append_slash, List.foldl_append,
        String.append_assoc]
      simp only [isAbsolute_append_iff empty]

theorem place_join_of_isAbsolute (around : List String) (directory : String) {path : String}
    (absolute : IsAbsolute path) : place around (join directory path) = place [] path := by
  rw [join, if_pos (.inl absolute), place, place, if_pos absolute, if_pos absolute]

/-! ## Paths inside of directories -/

theorem exists_isPlace_not_mem (found : List String) :
    ∃ name, IsPlace [name] ∧ name ∉ found := by
  have isPlace : ∀ count, IsPlace [String.ofList (List.replicate (count + 1) 'd')] := by
    intro count
    rw [IsPlace, List.forall_mem_singleton, String.toList_ofList]
    refine ⟨⟨?_, ?_, ?_⟩, by simp [List.mem_replicate]⟩
    all_goals
      intro same
      have text := congrArg String.toList same
      simp [List.replicate_succ] at text
  have injective : Function.Injective
      fun count => String.ofList (List.replicate (count + 1) 'd') := by
    intro count other same
    have lengths := congrArg (List.length ∘ String.toList) same
    simpa using lengths
  rcases (Set.infinite_range_of_injective injective).exists_notMem_finset found.toFinset with
    ⟨name, ⟨count, rfl⟩, absent⟩
  exact ⟨_, isPlace count, fun member => absent (List.mem_toFinset.mpr member)⟩

theorem IsInner.isInside {path : String} (isInner : IsInner path) (around : List String)
    (directory : String) : IsInside around directory (join directory path) := by
  rcases exists_inner_of_staysWithin (place around directory) isInner.within with
    ⟨inner, placed, counted⟩
  refine ⟨inner, ?_, (place_join around directory isInner.relative).trans placed⟩
  intro empty
  rw [empty, List.length_nil] at counted
  have ends := isInner.ends
  omega

theorem IsInside.length_lt {around : List String} {directory path : String}
    (inside : IsInside around directory path) :
    (place around directory).length < (place around path).length := by
  rcases inside with ⟨inner, notEmpty, placed⟩
  rw [placed, List.length_append]
  have deeper := List.length_pos_iff.mpr notEmpty
  omega

theorem place_dot (around : List String) : place around "." = around := rfl

/-- An inner path leads inside of every directory, and there is no other path that does, wherever
the current directory is. -/
theorem isInner_iff {path : String} :
    IsInner path ↔ ∀ around, IsPlace around → ∀ directory,
      IsInside around directory (join directory path) := by
  constructor
  · intro isInner around _ directory
    exact isInner.isInside around directory
  · intro inside
    have relative : ¬IsAbsolute path := by
      intro absolute
      -- An absolute path leads to one place, and the current directory can be as deep.
      have isPlace : IsPlace (List.replicate (place [] path).length "d") := by
        intro name member
        rw [List.eq_of_mem_replicate member]
        decide
      have deeper := (inside _ isPlace ".").length_lt
      rw [place_join_of_isAbsolute _ _ absolute, place_dot, List.length_replicate] at deeper
      exact lt_irrefl _ deeper
    rcases exists_isPlace_not_mem (names path) with ⟨fresh, isPlace, notFound⟩
    have here := inside [fresh] isPlace "."
    have placed : place [fresh] (join "." path) = (names path).foldl step [fresh] :=
      place_join [fresh] "." relative
    have within : StaysWithin (names path) := by
      by_contra leaves
      have gone := not_mem_foldl_step leaves notFound (@List.not_mem_nil _ fresh)
      rcases here with ⟨inner, _, equal⟩
      rw [← placed, equal] at gone
      exact gone (List.mem_append_right inner List.mem_cons_self)
    rcases exists_inner_of_staysWithin [fresh] within with ⟨inner, equal, counted⟩
    have deeper := here.length_lt
    rw [placed, equal, place_dot, List.length_append] at deeper
    exact ⟨relative, within, by omega⟩

end PackageRecipe.Path
