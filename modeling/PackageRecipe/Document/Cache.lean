import PackageRecipe.Document

/-!
A memory of documents that were parsed before. A digest of a text stands for the text
in it. When it is full, the document that has been in it for longest makes room for the
next one.
-/

namespace PackageRecipe.Document

/-- Parsed documents under the digests of their texts, and the digests in the order in
which they came, the oldest first. -/
structure Cache (Key : Type) where
  digest : String → Key
  capacity : Nat
  order : List Key
  entries : List (Key × Yaml.Mapping)
  positive : 0 < capacity

namespace Cache

variable {Key : Type} [DecidableEq Key]

/-- There is room for one document at least. -/
def empty (digest : String → Key) (capacity : Nat) : Cache Key :=
  ⟨digest, max capacity 1, [], [], by omega⟩

/-- A cache in which every text stands for itself. -/
def ofCapacity (capacity : Nat) : Cache String :=
  empty id capacity

def usualCapacity : Nat := 256

def size (cache : Cache Key) : Nat :=
  cache.entries.length

def makeRoom (cache : Cache Key) : Cache Key :=
  match cache.order with
  | [] => cache
  | oldest :: others =>
      if cache.capacity ≤ cache.order.length then
        { cache with
          order := others
          entries := cache.entries.filter fun entry => entry.1 ≠ oldest }
      else cache

def insert (cache : Cache Key) (key : Key) (document : Yaml.Mapping) : Cache Key :=
  if (cache.entries.lookup key).isSome then cache
  else
    let cache := cache.makeRoom
    { cache with
      order := cache.order ++ [key]
      entries := (key, document) :: cache.entries }

def load (cache : Cache Key) (text : String) : Except Error Yaml.Mapping × Cache Key :=
  let key := cache.digest text
  match cache.entries.lookup key with
  | some document => (.ok document, cache)
  | none =>
      match parse text with
      | .ok document => (.ok document, cache.insert key document)
      | .error error => (.error error, cache)

def loadAll (cache : Cache Key) : List String → List (Except Error Yaml.Mapping) × Cache Key
  | [] => ([], cache)
  | text :: rest =>
      let (result, cache) := cache.load text
      let (results, cache) := cache.loadAll rest
      (result :: results, cache)

end Cache

end PackageRecipe.Document
