import FeatureFlags.Context

/-!
# Publishing contexts

A store publishes one context at a time.  Readers get the context as a whole; an update is applied
to a copy that then takes its place, and an update that fails publishes nothing.
-/

namespace FeatureFlags

structure ContextStore where
  current : Context

namespace ContextStore

/-- Publishes a context and returns the one it replaces. -/
def replace (store : ContextStore) (context : Context) : Context × ContextStore :=
  (store.current, ⟨context⟩)

/-- Publishes a changed copy of the current context. -/
def update (store : ContextStore) (change : Context → Context) : ContextStore :=
  ⟨change store.current⟩

/-- Publishes a changed copy of the current context unless the change fails. -/
def tryUpdate (store : ContextStore) (change : Context → Option Context) : ContextStore :=
  match change store.current with
  | some context => ⟨context⟩
  | none => store

/-- Replaces features and saved groups. -/
def setDefinitions (store : ContextStore) (features : Dictionary Feature)
    (savedGroups : SavedGroups) : ContextStore :=
  store.update fun context => context.withDefinitions features savedGroups

end ContextStore

end FeatureFlags
