import PackageRecipe.Proofs.Target.Platform

/-!
Facts about platforms. What conditions can know of a well-formed subdir agrees with the
platform and the architecture that are read off it, but for one case: a suffix that is the
name of an architecture is reported as it is, and is no word size to conditions.
-/

namespace PackageRecipe.Target

/-- A word stands for a fact of a target that is true. -/
def Holds (target : Target) (word : String) : Prop :=
  target.facts.lookup word = some (.boolean true)

instance (target : Target) : DecidablePred target.Holds := fun _ =>
  inferInstanceAs (Decidable (_ = _))

variable {target : Target} {subdir family suffix word : String} {before after : List Char}

theorem holds_iff {value : Bool} (found : target.facts.lookup word = some (.boolean value)) :
    target.Holds word ↔ value = true := by
  rw [Holds, found, Option.some.injEq, Fact.boolean.injEq]

/-! ## Parts -/

theorem eq_append_iff_of_parts? (noHyphen : '-' ∉ family.toList)
    (parts : parts? subdir = some (before, after)) :
    subdir = family ++ "-" ++ suffix ↔ before = family.toList ∧ after = suffix.toList := by
  have joined : parts? (family ++ "-" ++ suffix) = some (family.toList, suffix.toList) :=
    parts?_eq_some_iff.mpr ⟨noHyphen, by simp⟩
  constructor
  · intro equal
    rw [equal, joined] at parts
    cases parts
    exact ⟨rfl, rfl⟩
  · intro same
    rcases same with ⟨rfl, rfl⟩
    apply String.toList_injective
    rw [(parts?_eq_some_iff.mp parts).2]
    simp

theorem isFamily_iff_of_parts? (noHyphen : '-' ∉ family.toList)
    (parts : parts? target.subdir = some (before, after)) :
    target.isFamily family ↔ before = family.toList := by
  have equal := (parts?_eq_some_iff.mp parts).2
  rw [isFamily, List.isPrefixOf_iff_prefix]
  constructor
  · intro isPrefix
    rcases isPrefix with ⟨rest, joined⟩
    rw [List.append_assoc, List.singleton_append] at joined
    have again := parts?_eq_some_iff.mpr ⟨noHyphen, joined.symm⟩
    rw [parts] at again
    cases again
    rfl
  · intro same
    rw [equal, same]
    exact ⟨after, by rw [List.append_assoc, List.singleton_append]⟩

theorem platform_eq_iff_of_parts? (parts : parts? target.subdir = some (before, after)) :
    target.platform = family ↔ before = family.toList := by
  rw [platform, parts, ← String.toList_inj, String.toList_ofList]

/-! ## Architectures -/

def wordSizes : List (String × String) :=
  [("64", "x86_64"), ("32", "x86")]

theorem architecture_eq_iff_of_parts? (parts : parts? target.subdir = some (before, after)) :
    target.architecture = word ↔
      (String.ofList after, word) ∈ wordSizes ∨
        String.ofList after ∉ wordSizes.map Prod.fst ∧ String.ofList after = word := by
  rw [architecture, parts]
  split
  next found =>
    cases found
    simp [wordSizes, eq_comm]
  next found =>
    cases found
    simp [wordSizes, eq_comm]
  next not64 not32 found =>
    cases found
    have notSize : String.ofList after ∉ wordSizes.map Prod.fst := by
      simp only [wordSizes, List.map_cons, List.map_nil, List.mem_cons, List.not_mem_nil, or_false,
        ← String.toList_inj, String.toList_ofList]
      intro isSize
      rcases isSize with rfl | rfl
      · exact not64 rfl
      · exact not32 rfl
    have notNamed : (String.ofList after, word) ∉ wordSizes := fun member =>
      notSize (List.mem_map_of_mem member)
    simp [notSize, notNamed]
  next impossible => cases impossible

/-- An architecture with the name of a word size is written as the size or as the name. -/
theorem architecture_eq_name_iff {size name : String} (named : (size, name) ∈ wordSizes)
    (parts : parts? target.subdir = some (before, after)) :
    target.architecture = name ↔ after = size.toList ∨ after = name.toList := by
  have ofSize : ∀ text, (text, name) ∈ wordSizes ↔ text = size := by
    revert named
    simp only [wordSizes, List.mem_cons, Prod.mk.injEq, List.not_mem_nil, or_false]
    intro either
    rcases either with ⟨rfl, rfl⟩ | ⟨rfl, rfl⟩ <;> simp
  have notSize : name ∉ wordSizes.map Prod.fst := by
    have all : ∀ entry ∈ wordSizes, entry.2 ∉ wordSizes.map Prod.fst := by decide
    exact all (size, name) named
  rw [architecture_eq_iff_of_parts? parts, ofSize, ← String.toList_inj, ← String.toList_inj,
    String.toList_ofList]
  constructor
  · intro reported
    rcases reported with isSize | ⟨_, isName⟩
    · exact .inl isSize
    · exact .inr isName
  · intro written
    rcases written with isSize | rfl
    · exact .inl isSize
    · exact .inr ⟨by rwa [String.ofList_toList], rfl⟩

theorem architecture_eq_iff_of_plain (plain : ∀ entry ∈ wordSizes, word ≠ entry.1 ∧ word ≠ entry.2)
    (parts : parts? target.subdir = some (before, after)) :
    target.architecture = word ↔ after = word.toList := by
  have notNamed : ∀ text, (text, word) ∉ wordSizes := fun text member =>
    (plain (text, word) member).2 rfl
  have notSize : word ∉ wordSizes.map Prod.fst := by
    intro member
    rcases List.mem_map.mp member with ⟨entry, entryMember, rfl⟩
    exact (plain entry entryMember).1 rfl
  rw [architecture_eq_iff_of_parts? parts, ← String.toList_inj, String.toList_ofList]
  constructor
  · intro reported
    rcases reported with named | ⟨_, equal⟩
    · exact absurd named (notNamed _)
    · exact equal
  · intro equal
    subst equal
    exact .inr ⟨by rwa [String.ofList_toList], rfl⟩

/-! ## Facts -/

def families : List String :=
  ["linux", "osx", "win"]

theorem lookup_family (member : family ∈ families) :
    target.facts.lookup family = some (.boolean (target.isFamily family)) := by
  simp only [families, List.mem_cons, List.not_mem_nil, or_false] at member
  rcases member with rfl | rfl | rfl <;> rfl

theorem noHyphen_of_mem_families : ∀ family ∈ families, '-' ∉ family.toList := by
  decide

theorem holds_family_iff (member : family ∈ families)
    (parts : parts? target.subdir = some (before, after)) :
    target.Holds family ↔ target.platform = family := by
  rw [holds_iff (lookup_family member), platform_eq_iff_of_parts? parts]
  exact isFamily_iff_of_parts? (noHyphen_of_mem_families family member) parts

/-- A fact about one subdir is one about its platform and its suffix. -/
theorem holds_subdir_iff (member : family ∈ families)
    (found : target.facts.lookup word =
      some (.boolean (target.subdir == family ++ "-" ++ suffix)))
    (parts : parts? target.subdir = some (before, after)) :
    target.Holds word ↔ target.Holds family ∧ after = suffix.toList := by
  rw [holds_iff found, beq_iff_eq,
    eq_append_iff_of_parts? (noHyphen_of_mem_families family member) parts,
    holds_family_iff member parts, platform_eq_iff_of_parts? parts]

/-- A word size holds where the architecture has its name, unless the subdir spells the name
out. -/
theorem holds_wordSize_iff {size name : String} (member : family ∈ families)
    (named : (size, name) ∈ wordSizes)
    (found : target.facts.lookup word = some (.boolean (target.subdir == family ++ "-" ++ size)))
    (parts : parts? target.subdir = some (before, after)) :
    target.Holds word ↔
      target.Holds family ∧ target.architecture = name ∧
        target.subdir ≠ family ++ "-" ++ name := by
  have different : size ≠ name := by
    have all : ∀ entry ∈ wordSizes, entry.1 ≠ entry.2 := by decide
    exact all (size, name) named
  rw [holds_subdir_iff member found parts, architecture_eq_name_iff named parts, ne_eq,
    eq_append_iff_of_parts? (noHyphen_of_mem_families family member) parts,
    holds_family_iff member parts, platform_eq_iff_of_parts? parts]
  constructor
  · intro parts
    rcases parts with ⟨platform, rfl⟩
    exact ⟨platform, .inl rfl, fun spelled => different (String.toList_injective spelled.2)⟩
  · intro reported
    rcases reported with ⟨platform, isSize | isName, notSpelled⟩
    · exact ⟨platform, isSize⟩
    · exact absurd ⟨platform, isName⟩ notSpelled

/-- The facts about the platform of a well-formed subdir agree with the platform and the
architecture that are reported for it: a family holds exactly if it is the platform, and a
word size or an architecture exactly if it is the one reported for its family. Only a subdir
that spells out the name of a word size has none to conditions. -/
theorem facts_agree_with_platform (wellFormed : isWellFormed target.subdir) :
    (∀ family ∈ families, target.Holds family ↔ target.platform = family) ∧
      (∀ first ∈ families, ∀ second ∈ families,
        target.Holds first → target.Holds second → first = second) ∧
      (target.Holds "unix" ↔ target.Holds "linux" ∨ target.Holds "osx") ∧
      (target.Holds "linux64" ↔ target.Holds "linux" ∧ target.architecture = "x86_64" ∧
        target.subdir ≠ "linux-x86_64") ∧
      (target.Holds "linux32" ↔ target.Holds "linux" ∧ target.architecture = "x86" ∧
        target.subdir ≠ "linux-x86") ∧
      (target.Holds "armv6" ↔ target.Holds "linux" ∧ target.architecture = "armv6l") ∧
      (target.Holds "win64" ↔ target.Holds "win" ∧ target.architecture = "x86_64" ∧
        target.subdir ≠ "win-x86_64") ∧
      (target.Holds "win32" ↔ target.Holds "win" ∧ target.architecture = "x86" ∧
        target.subdir ≠ "win-x86") := by
  rcases isWellFormed_iff.mp wellFormed with ⟨before, after, _, _, absent, equal⟩
  have parts := parts?_eq_some_iff.mpr ⟨absent, equal⟩
  have platforms : ∀ family ∈ families, target.Holds family ↔ target.platform = family :=
    fun family member => holds_family_iff member parts
  have linux : "linux" ∈ families := by decide
  have win : "win" ∈ families := by decide
  have wide : ("64", "x86_64") ∈ wordSizes := by decide
  have narrow : ("32", "x86") ∈ wordSizes := by decide
  refine ⟨platforms, ?single, ?unix, holds_wordSize_iff linux wide rfl parts,
    holds_wordSize_iff linux narrow rfl parts, ?arm, holds_wordSize_iff win wide rfl parts,
    holds_wordSize_iff win narrow rfl parts⟩
  case single =>
    intro first firstMember second secondMember firstHolds secondHolds
    rw [platforms first firstMember] at firstHolds
    rw [platforms second secondMember] at secondHolds
    exact firstHolds.symm.trans secondHolds
  case unix =>
    have both : target.facts.lookup "unix" =
        some (.boolean (target.isFamily "linux" || target.isFamily "osx")) := rfl
    rw [holds_iff both, Bool.or_eq_true, holds_iff (lookup_family linux),
      holds_iff (lookup_family (by decide))]
  case arm =>
    have arm : target.facts.lookup "armv6" =
        some (.boolean (target.subdir == "linux" ++ "-" ++ "armv6l")) := rfl
    rw [holds_subdir_iff linux arm parts, architecture_eq_iff_of_plain (by decide) parts]

/-- The architecture of the one subdir is a fact, and that of the other is not: it spells out
the name of its word size. -/
theorem facts_agree_with_platform_sizes :
    isWellFormed "linux-armv6l" ∧ Holds ⟨"linux-armv6l", 27, 19⟩ "armv6" ∧
      isWellFormed "win-x86" ∧ Holds ⟨"win-x86", 27, 19⟩ "win" ∧
      ¬Holds ⟨"win-x86", 27, 19⟩ "win32" ∧ ¬Holds ⟨"win-x86", 27, 19⟩ "linux" := by
  have arm : isWellFormed "linux-armv6l" := by decide +kernel
  have spelled : isWellFormed "win-x86" := by decide +kernel
  rcases @facts_agree_with_platform ⟨"linux-armv6l", 27, 19⟩ arm with
    ⟨armFamilies, _, _, _, _, armv6, _⟩
  rcases @facts_agree_with_platform ⟨"win-x86", 27, 19⟩ spelled with
    ⟨families, single, _, _, _, _, _, win32⟩
  have linux : Holds ⟨"linux-armv6l", 27, 19⟩ "linux" :=
    (armFamilies "linux" (by decide)).mpr (by decide +kernel)
  have win : Holds ⟨"win-x86", 27, 19⟩ "win" :=
    (families "win" (by decide)).mpr (by decide +kernel)
  refine ⟨arm, armv6.mpr ⟨linux, by decide +kernel⟩, spelled, win, ?_, ?_⟩
  · intro holds
    exact (win32.mp holds).2.2 rfl
  · intro other
    exact absurd (single "linux" (by decide) "win" (by decide) other win) (by decide)

/-- A subdir that spells out the name of its word size has the platform and the architecture
of one that does not, and other facts. -/
theorem wordSize_of_spelled :
    (isWellFormed "linux-x86_64" ∧ Holds ⟨"linux-x86_64", 27, 19⟩ "linux" ∧
      architecture ⟨"linux-x86_64", 27, 19⟩ = "x86_64" ∧
      ¬Holds ⟨"linux-x86_64", 27, 19⟩ "linux64") ∧
    isWellFormed "win-x86" ∧ Holds ⟨"win-x86", 27, 19⟩ "win" ∧
      architecture ⟨"win-x86", 27, 19⟩ = "x86" ∧ ¬Holds ⟨"win-x86", 27, 19⟩ "win32" := by
  decide +kernel

end PackageRecipe.Target
