import FeatureFlags.Dictionary
import FeatureFlags.Error
import FeatureFlags.Json

/-!
# Document storage

A store of JSON documents by key.  Saving replaces the document under a key; a store that cannot
be written to answers every save with its failure and keeps its content.
-/

namespace FeatureFlags

structure Persistence where
  documents : Dictionary Json := []
  /-- The failure of every save, if saves fail. -/
  saveFailure : Option String := none

namespace Persistence

def load (store : Persistence) (key : String) : Option Json := Dictionary.get? store.documents key

/-- Replaces the document under `key`. -/
def save (store : Persistence) (key : String) (document : Json) : Except Error Persistence :=
  match store.saveFailure with
  | some detail => .error (.persistence detail)
  | none => .ok { store with documents := Dictionary.insert key document store.documents }

end Persistence

end FeatureFlags
