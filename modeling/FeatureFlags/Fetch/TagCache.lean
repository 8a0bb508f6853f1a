import FeatureFlags.Dictionary

/-!
# Remembered entity tags

A bounded map from request URLs to entity tags.  Each entry carries the count of accesses at its
last use; when room is needed, the entry with the smallest count goes.  Reading an entry counts as
a use, asking whether there is one does not.
-/

namespace FeatureFlags

structure TagEntry where
  tag : String
  lastUsed : Nat
deriving DecidableEq, Repr

structure TagCache where
  maxSize : Nat := 100
  entries : Dictionary TagEntry := []
  /-- The number of accesses so far. -/
  accesses : Nat := 0

namespace TagCache

def size (cache : TagCache) : Nat := cache.entries.length

def contains (cache : TagCache) (url : String) : Bool := Dictionary.contains cache.entries url

/-- The tag of a URL, without counting as a use. -/
def tag? (cache : TagCache) (url : String) : Option String :=
  (Dictionary.get? cache.entries url).map (·.tag)

/-- Stores an entry that is used just now. -/
def store (cache : TagCache) (url tag : String) : TagCache :=
  let now := cache.accesses + 1
  { cache with entries := Dictionary.insert url ⟨tag, now⟩ cache.entries, accesses := now }

/-- The tag of a URL, which becomes the most recently used one. -/
def get (cache : TagCache) (url : String) : Option String × TagCache :=
  match cache.tag? url with
  | some tag => (some tag, cache.store url tag)
  | none => (none, { cache with accesses := cache.accesses + 1 })

/-- Forgets the tag of a URL and returns it. -/
def remove (cache : TagCache) (url : String) : Option String × TagCache :=
  (cache.tag? url, { cache with entries := Dictionary.erase url cache.entries })

def clear (cache : TagCache) : TagCache := { cache with entries := [] }

/-- The entry that was used least recently. -/
def oldest? (entries : Dictionary TagEntry) : Option (String × TagEntry) :=
  entries.foldl (fun found entry =>
    match found with
    | some best => if entry.2.lastUsed < best.2.lastUsed then some entry else some best
    | none => some entry) none

/-- Makes room for one more entry if the cache is full. -/
def makeRoom (cache : TagCache) : TagCache :=
  if cache.maxSize ≤ cache.size then
    match oldest? cache.entries with
    | some entry => { cache with entries := Dictionary.erase entry.1 cache.entries }
    | none => cache
  else cache

/-- Remembers the tag of a URL, or forgets it if there is none. -/
def put (cache : TagCache) (url : String) (tag : Option String) : TagCache :=
  match tag with
  | none => (cache.remove url).2
  | some tag =>
    if cache.maxSize = 0 then cache
    else if cache.contains url then cache.store url tag
    else cache.makeRoom.store url tag

end TagCache

end FeatureFlags
