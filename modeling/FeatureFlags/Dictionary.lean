/-!
# Dictionaries keyed by text

A dictionary is a list of entries in ascending order of their keys, each key once.  The order of
keys is the order of their code points, which is also the order of their UTF-8 bytes.  Two
dictionaries with the same content are therefore the same list, and writing one out needs no
sorting.

`insert` keeps the order and replaces an earlier entry of the same key; `ofList` lets the last of
several entries of one key win.
-/

namespace FeatureFlags

/-- Entries sorted by key. -/
abbrev Dictionary (α : Type) := List (String × α)

namespace Dictionary

variable {α β : Type}

/-- The value stored under `key`. -/
def get? : Dictionary α → String → Option α
  | [], _ => none
  | (k, value) :: rest, key => if k = key then some value else get? rest key

def contains (entries : Dictionary α) (key : String) : Bool :=
  (get? entries key).isSome

/-- Stores `value` under `key` at its place in the order, replacing what was there. -/
def insert (key : String) (value : α) : Dictionary α → Dictionary α
  | [] => [(key, value)]
  | (k, old) :: rest =>
    if key < k then (key, value) :: (k, old) :: rest
    else if key = k then (key, value) :: rest
    else (k, old) :: insert key value rest

/-- Removes the entry of `key`, if there is one. -/
def erase (key : String) (entries : Dictionary α) : Dictionary α :=
  entries.filter fun entry => entry.1 ≠ key

/-- The dictionary of a list of entries, of which later ones replace earlier ones. -/
def ofList (entries : List (String × α)) : Dictionary α :=
  entries.foldl (fun dictionary entry => insert entry.1 entry.2 dictionary) []

/-- Overlays `base` with every entry of `overlay`. -/
def extend (base overlay : Dictionary α) : Dictionary α :=
  overlay.foldl (fun dictionary entry => insert entry.1 entry.2 dictionary) base

def keys (entries : Dictionary α) : List String :=
  entries.map (·.1)

/-- Applies `f` to every value. -/
def mapValues (f : α → β) (entries : Dictionary α) : Dictionary β :=
  entries.map fun entry => (entry.1, f entry.2)

@[simp]
theorem get?_nil (key : String) : get? ([] : Dictionary α) key = none := rfl

theorem get?_cons (entry : String × α) (rest : Dictionary α) (key : String) :
    get? (entry :: rest) key = if entry.1 = key then some entry.2 else get? rest key := rfl

/-- Looking a key up after an insertion finds the new value under its key and the old ones
elsewhere. -/
theorem get?_insert (entries : Dictionary α) (key other : String) (value : α) :
    get? (insert key value entries) other =
      if key = other then some value else get? entries other := by
  induction entries with
  | nil => rfl
  | cons entry rest ih =>
    obtain ⟨k, old⟩ := entry
    simp only [insert]
    split
    · simp only [get?_cons]
    · split
      · rename_i hk
        subst hk
        simp only [get?_cons]
        split <;> rfl
      · rename_i hk
        simp only [get?_cons, ih]
        by_cases hother : k = other
        · subst hother
          simp [hk]
        · simp [hother]

end Dictionary

end FeatureFlags
