import Mathlib.Data.Set.Function
import PackageRecipe.Manifest

/-!
Caches make no difference. What a cache holds under a digest is what parsing a text with
that digest gives, and stays so while documents come and go; so if no two texts have one
digest, every answer is the one that an empty cache would give.
-/

namespace PackageRecipe

namespace Document.Cache

variable {Key : Type} [DecidableEq Key]

/-! ## Entries -/

theorem lookup_filter {α : Type} (keeps : Key → Bool) (entries : List (Key × α))
    (key : Key) :
    (entries.filter fun entry => keeps entry.1).lookup key =
      if keeps key then entries.lookup key else none := by
  induction entries with
  | nil => simp
  | cons head tail induction =>
      rcases head with ⟨other, value⟩
      rw [List.filter_cons]
      by_cases same : key = other
      · subst same
        cases kept : keeps key <;> simp [induction, kept]
      · have differs : (key == other) = false := beq_eq_false_iff_ne.mpr same
        cases keeps other <;> simp [List.lookup_cons, differs, induction]

/-- Making room takes documents away and changes none. -/
theorem lookup_of_makeRoom {cache : Cache Key} {key : Key} {document : Yaml.Mapping}
    (found : cache.makeRoom.entries.lookup key = some document) :
    cache.entries.lookup key = some document := by
  revert found
  fun_cases makeRoom cache with
  | case2 oldest others order full =>
      change (cache.entries.filter fun entry => entry.1 ≠ oldest).lookup key = _ → _
      rw [lookup_filter (fun other => decide (other ≠ oldest))]
      split
      · exact id
      · rintro ⟨⟩
  | _ => exact id

@[simp] theorem digest_makeRoom (cache : Cache Key) :
    cache.makeRoom.digest = cache.digest := by
  fun_cases makeRoom cache <;> rfl

@[simp] theorem digest_insert (cache : Cache Key) (key : Key) (document : Yaml.Mapping) :
    (cache.insert key document).digest = cache.digest := by
  fun_cases insert cache key document with
  | case1 => rfl
  | case2 => exact digest_makeRoom cache

theorem lookup_of_insert {cache : Cache Key} {key other : Key}
    {added document : Yaml.Mapping}
    (found : (cache.insert key added).entries.lookup other = some document) :
    (other = key ∧ document = added) ∨ cache.entries.lookup other = some document := by
  revert found
  fun_cases insert cache key added with
  | case1 => exact .inr
  | case2 =>
      change List.lookup other ((key, added) :: cache.makeRoom.entries) = _ → _
      rw [List.lookup_cons]
      by_cases same : other = key
      · rw [beq_iff_eq.mpr same]
        rintro ⟨⟩
        exact .inl ⟨same, rfl⟩
      · rw [beq_eq_false_iff_ne.mpr same]
        exact fun found => .inr (lookup_of_makeRoom found)

/-- A text that was just loaded is answered the same again, and nothing changes: its
document is there now, or its error is found once more. -/
theorem load_load (cache : Cache Key) (text : String) :
    (cache.load text).2.load text = cache.load text := by
  fun_cases Cache.load cache text with
  | case1 key document found => rw [load, found]
  | case2 key absent document parsed =>
      have there : (cache.insert key document).entries.lookup
          ((cache.insert key document).digest text) = some document := by
        rw [digest_insert, insert, absent]
        exact List.lookup_cons_self
      rw [load, there]
  | case3 key absent error failed => rw [load, absent, failed]

/-! ## Runs of loads -/

/-- The digest tells the given texts apart, and what is in the cache is the document of
one of them. -/
structure Sound (texts : Set String) (cache : Cache Key) : Prop where
  distinct : Set.InjOn cache.digest texts
  parsed : ∀ key document, cache.entries.lookup key = some document →
    ∃ text ∈ texts, cache.digest text = key ∧ parse text = .ok document

theorem sound_empty {digest : String → Key} {texts : Set String}
    (distinct : Set.InjOn digest texts) (capacity : Nat) :
    (empty digest capacity).Sound texts where
  distinct := distinct
  parsed := by
    intro key document found
    cases found

section Sound

variable {texts : Set String} {cache : Cache Key}

theorem Sound.insert {text : String} {document : Yaml.Mapping} (sound : cache.Sound texts)
    (member : text ∈ texts) (parsed : parse text = .ok document) :
    (cache.insert (cache.digest text) document).Sound texts where
  distinct := by
    rw [digest_insert]
    exact sound.distinct
  parsed := by
    intro key other found
    rw [digest_insert]
    rcases lookup_of_insert found with ⟨rfl, rfl⟩ | found
    · exact ⟨text, member, rfl, parsed⟩
    · exact sound.parsed key other found

/-- A load answers as the parser does, and leaves the cache sound. -/
theorem Sound.load {text : String} (sound : cache.Sound texts) (member : text ∈ texts) :
    (cache.load text).1 = parse text ∧ (cache.load text).2.Sound texts := by
  fun_cases Cache.load cache text with
  -- A document that is found was parsed from a text with the digest of this one, and no
  -- other text has it.
  | case1 key document found =>
      rcases sound.parsed key document found with ⟨other, otherMember, same, parsed⟩
      rw [sound.distinct otherMember member same] at parsed
      exact ⟨parsed.symm, sound⟩
  | case2 key absent document parsed =>
      exact ⟨parsed.symm, sound.insert member parsed⟩
  | case3 key absent error failed => exact ⟨failed.symm, sound⟩

theorem Sound.loadAll {loads : List String} (sound : cache.Sound texts)
    (members : ∀ text ∈ loads, text ∈ texts) :
    (cache.loadAll loads).1 = loads.map parse := by
  induction loads generalizing cache with
  | nil => rfl
  | cons head tail induction =>
      rw [List.forall_mem_cons] at members
      rcases sound.load members.1 with ⟨answer, headSound⟩
      rw [List.map_cons, ← induction headSound members.2, ← answer]
      rfl

end Sound

end Document.Cache

/-! ## Runs of requests -/

namespace Manifest

/-- What a cache is used for: the document of a text, or the manifest of a text for a
target. -/
inductive Request where
  | document (text : String)
  | manifest (facts : Facts) (text : String)

inductive Answer where
  | document (result : Except Document.Error Yaml.Mapping)
  | manifest (result : Except Error Manifest)

namespace Request

/-- The texts whose documents a request asks for: none if its selectors have an error. -/
def texts : Request → List String
  | .document text => [text]
  | .manifest facts text =>
      match Selector.select facts text with
      | .error _ => []
      | .ok kept => [kept]

theorem subsingleton_texts (request : Request) :
    {text | text ∈ request.texts}.Subsingleton := by
  fun_cases texts request <;> simp

variable {Key : Type} [DecidableEq Key]

def answer (cache : Document.Cache Key) : Request → Answer × Document.Cache Key
  | .document text =>
      let (result, cache) := cache.load text
      (.document result, cache)
  | .manifest facts text =>
      let (result, cache) := readWith cache facts text
      (.manifest result, cache)

def answerAll (cache : Document.Cache Key) :
    List Request → List Answer × Document.Cache Key
  | [] => ([], cache)
  | request :: rest =>
      let (result, cache) := request.answer cache
      let (results, cache) := answerAll cache rest
      (result :: results, cache)

/-- The answer without a cache at hand. -/
def direct : Request → Answer
  | .document text => .document (Document.parse text)
  | .manifest facts text => .manifest (read facts text)

end Request

section Sound

variable {Key : Type} [DecidableEq Key] {texts : Set String} {cache : Document.Cache Key}

theorem Request.answer_of_sound (request : Request) (sound : cache.Sound texts)
    (members : ∀ text ∈ request.texts, text ∈ texts) :
    (request.answer cache).1 = request.direct ∧
      (request.answer cache).2.Sound texts := by
  cases request with
  | document text =>
      rcases sound.load (members text List.mem_cons_self) with ⟨equal, loaded⟩
      exact ⟨congrArg Answer.document equal, loaded⟩
  | manifest facts text =>
      rw [Request.answer, Request.direct, Manifest.read, readWith]
      cases selected : Selector.select facts text with
      | error error => exact ⟨rfl, sound⟩
      | ok kept =>
          have member : kept ∈ texts := members kept (by simp [Request.texts, selected])
          rcases sound.load member with ⟨equal, loaded⟩
          refine ⟨?_, loaded⟩
          simp only [equal]
          rfl

theorem Request.answerAll_of_sound {requests : List Request} (sound : cache.Sound texts)
    (members : ∀ request ∈ requests, ∀ text ∈ request.texts, text ∈ texts) :
    (answerAll cache requests).1 = requests.map Request.direct := by
  induction requests generalizing cache with
  | nil => rfl
  | cons head tail induction =>
      rw [List.forall_mem_cons] at members
      rcases head.answer_of_sound sound members.1 with ⟨equal, headSound⟩
      rw [List.map_cons, ← induction headSound members.2, ← equal]
      rfl

end Sound

/-- Runs that start with an empty cache of any capacity: if its digest tells the texts of
the run apart, loads answer as the parser does, and all requests as they would with an
empty cache, whatever the cache holds by then. With an empty cache a manifest is read as
without one. -/
theorem answers_independent_of_cache {Key : Type} [DecidableEq Key]
    (digest : String → Key) (capacity : Nat) :
    (∀ loads : List String, Set.InjOn digest {text | text ∈ loads} →
      ((Document.Cache.empty digest capacity).loadAll loads).1 =
        loads.map Document.parse) ∧
    (∀ requests : List Request,
      Set.InjOn digest {text | ∃ request ∈ requests, text ∈ request.texts} →
        (Request.answerAll (.empty digest capacity) requests).1 =
          requests.map fun request => (request.answer (.empty digest capacity)).1) ∧
    ∀ (facts : Facts) (text : String),
      (readWith (.empty digest capacity) facts text).1 = read facts text := by
  have alone : ∀ request : Request,
      (request.answer (.empty digest capacity)).1 = request.direct := by
    intro request
    have distinct : Set.InjOn digest {text | text ∈ request.texts} :=
      request.subsingleton_texts.injOn digest
    exact (request.answer_of_sound (Document.Cache.sound_empty distinct capacity)
      fun text member => member).1
  refine ⟨?loads, ?requests, ?manifests⟩
  case loads =>
    intro loads distinct
    exact (Document.Cache.sound_empty distinct capacity).loadAll fun text member => member
  case requests =>
    intro requests distinct
    have sound := Document.Cache.sound_empty distinct capacity
    rw [Request.answerAll_of_sound sound fun request member text asked =>
      ⟨request, member, asked⟩]
    exact List.map_congr_left fun request _ => (alone request).symm
  case manifests =>
    intro facts text
    exact Answer.manifest.inj (alone (.manifest facts text))

/-- Room for one document: the second one takes the place of the first, which is asked
for again. A text that is no document is not kept. -/
theorem answers_independent_of_cache_evicted :
    ((Document.Cache.empty String.length 0).loadAll ["# a", "- b\n", "# abc", "# a"]).1 =
        [.ok [], .error (.notMapping .sequence), .ok [], .ok []] ∧
      (Request.answerAll (.empty String.length 0)
          [.manifest [] "# a ", .document "# abc", .manifest [] "# a "]).1 =
        [.manifest (read [] "# a "), .document (.ok []), .manifest (read [] "# a ")] := by
  let loads := ["# a", "- b\n", "# abc", "# a"]
  have first : Document.parse "# a" = .ok [] := rfl
  have second : Document.parse "- b\n" = .error (.notMapping .sequence) := rfl
  have third : Document.parse "# abc" = .ok [] := rfl
  rcases answers_independent_of_cache String.length 0 with ⟨loaded, answered, manifests⟩
  constructor
  · have apart : ∀ left ∈ loads, ∀ right ∈ loads, left.length = right.length →
        left = right := by decide
    have answers := loaded loads fun left member right rightMember =>
      apart left member right rightMember
    simp only [loads, List.map_cons, List.map_nil, first, second, third] at answers
    exact answers
  · let requests : List Request := [.manifest [] "# a ", .document "# abc", .manifest [] "# a "]
    have selected : Selector.select [] "# a " = .ok "# a\n" := by decide
    have texts : requests.flatMap Request.texts = ["# a\n", "# abc", "# a\n"] := by
      simp only [requests, List.flatMap_cons, List.flatMap_nil, Request.texts, selected]
      rfl
    have apart : ∀ left ∈ ["# a\n", "# abc", "# a\n"],
        ∀ right ∈ ["# a\n", "# abc", "# a\n"], left.length = right.length →
          left = right := by decide
    rw [← texts] at apart
    have answers := answered requests fun left member right rightMember =>
      apart left (List.mem_flatMap.mpr member) right (List.mem_flatMap.mpr rightMember)
    have sound := Document.Cache.sound_empty (Set.injOn_singleton String.length "# abc") 0
    have alone := (sound.load rfl).1
    simp only [requests, List.map_cons, List.map_nil, Request.answer, manifests, alone,
      third] at answers
    exact answers

end Manifest

end PackageRecipe
