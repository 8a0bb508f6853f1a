import FeatureFlags.ContextStore
import FeatureFlags.Fetch.Features
import FeatureFlags.Payload
import FeatureFlags.Stream.Backoff
import FeatureFlags.Stream.Connection
import FeatureFlags.Stream.Event

/-!
# Refreshing definitions

A refresher replaces the features and saved groups of a published context by those of payloads that
it fetches, receives on a stream, or kept from an earlier run.  A payload that cannot be applied
changes nothing.  A payload from the server that was applied is kept as a snapshot, if there is a
place to keep it; that the snapshot cannot be kept is not an error.

What a refresher does besides changing its own state, it does as a list of activities.
-/

namespace FeatureFlags

/-! ## Endpoints

The features of a context are fetched from `{host}/api/features/{key}` and streamed from
`{host}/sub/{key}`.
-/

namespace Context

/-- The URL with the given segments behind the path of the host. -/
def endpoint (context : Context) (segments : List String) : Except Error Url :=
  let url := (Url.read context.hostUrl.toList).bind fun host =>
    host.extend (segments.map (·.toList))
  url.mapError .invalidHostUrl

def featuresUrl (context : Context) : Except Error Url :=
  context.endpoint ["api", "features", context.apiKey]

def streamUrl (context : Context) : Except Error Url :=
  context.endpoint ["sub", context.apiKey]

end Context

/-! ## Refreshers -/

/-- The limits of a refresher. Delays are in nanoseconds. -/
structure RefreshConfig where
  maxRetries : UInt32 := 10
  initialDelay : Nat := 1000000000
  maxDelay : Nat := 30000000000
  /-- The number of entity tags that are remembered. -/
  tagCacheSize : Nat := 100
deriving DecidableEq, Repr

/-- What a refresher does that others can see. -/
inductive Activity
  | requested (request : Request)
  /-- An attempt to open the stream at a URL. -/
  | opened (url : String)
  /-- The outcome of an attempt to apply definitions is reported to the host. -/
  | reported (outcome : Except Error Unit) (isRemote : Bool)
  /-- A pause before the next attempt, in nanoseconds. -/
  | pausing (delay : Nat)

structure Refresher where
  contexts : ContextStore
  tags : TagCache := {}
  /-- Where the snapshot is kept, if anywhere. -/
  persistence : Option Persistence := none
  decryptor : Option Decryptor := none
  connection : Connection := {}
  backoff : Backoff := {}

/-- The result of something a refresher does, its state afterwards, and its activities. -/
structure Progress (α : Type) where
  result : α
  refresher : Refresher
  activities : List Activity

namespace Refresher

/-- The key under which the snapshot is kept. -/
def snapshotKey : String := "FeatureCache"

def ofConfig (contexts : ContextStore) (config : RefreshConfig) : Refresher :=
  { contexts
    tags := { maxSize := config.tagCacheSize }
    backoff :=
      { maxRetries := config.maxRetries
        initialDelay := config.initialDelay
        maxDelay := config.maxDelay } }

/-! ## Applying payloads -/

/-- The definitions of a payload. -/
def definitionsOf (refresher : Refresher) (body : Text.Utf8.Bytes) : Except Error Definitions :=
  match Payload.ofBytes body with
  | .ok payload => payload.definitions refresher.decryptor
  | .error error => .error error

/-- Publishes definitions. -/
def publish (refresher : Refresher) (definitions : Definitions) : Refresher :=
  { refresher with
    contexts := refresher.contexts.setDefinitions definitions.features definitions.savedGroups }

/-- Keeps a payload as the snapshot, as far as that is possible. -/
def keepSnapshot (refresher : Refresher) (body : Text.Utf8.Bytes) : Refresher :=
  match refresher.persistence, Json.ofBytes? body with
  | some persistence, some json =>
    match persistence.save snapshotKey json with
    | .ok saved => { refresher with persistence := some saved }
    | .error _ => refresher
  | _, _ => refresher

/-- Applies a payload. -/
def apply (refresher : Refresher) (body : Text.Utf8.Bytes) (isRemote : Bool) :
    Progress (Except Error Unit) :=
  match refresher.definitionsOf body with
  | .ok definitions =>
    let published := refresher.publish definitions
    ⟨.ok (), if isRemote then published.keepSnapshot body else published,
      [.reported (.ok ()) isRemote]⟩
  | .error error => ⟨.error error, refresher, [.reported (.error error) isRemote]⟩

/-- Applies the snapshot and tells whether there is one. -/
def loadCached (refresher : Refresher) : Progress (Except Error Bool) :=
  match refresher.persistence.bind (·.load snapshotKey) with
  | none => ⟨.ok false, refresher, []⟩
  | some json =>
    let applied := refresher.apply (Text.Utf8.encode json.text.toList) false
    ⟨applied.result.map fun _ => true, applied.refresher, applied.activities⟩

/-! ## Fetching once -/

/-- Makes the request for the features of the present context. -/
def beginRefresh (refresher : Refresher) : Progress (Except Error (Url × Request)) :=
  match refresher.contexts.current.featuresUrl with
  | .error error => ⟨.error error, refresher, []⟩
  | .ok url =>
    let (request, tags) := refresher.tags.requestFor url
    ⟨.ok (url, request), { refresher with tags }, [.requested request]⟩

/-- Takes in the answer to a request for the features at a URL. -/
def endRefresh (refresher : Refresher) (url : Url) (answer : Except Error Response) :
    Progress (Except Error Unit) :=
  match answer.bind (FetchOutcome.ofResponse url) with
  | .ok (.fetched body tag) =>
    let applied := refresher.apply body true
    match applied.result with
    | .ok () =>
      { applied with
        refresher := { applied.refresher with tags := applied.refresher.tags.remember url tag } }
    | .error _ => applied
  | .ok .notModified => ⟨.ok (), refresher, []⟩
  | .error error => ⟨.error error, refresher, [.reported (.error error) true]⟩

/-- Fetches features once from a server that answers at once. -/
def refresh (refresher : Refresher) (server : Request → Except Error Response) :
    Progress (Except Error Unit) :=
  let begun := refresher.beginRefresh
  match begun.result with
  | .error error => { begun with result := .error error }
  | .ok (url, request) =>
    let ended := begun.refresher.endRefresh url (server request)
    { ended with activities := begun.activities ++ ended.activities }

/-! ## Stream events -/

/-- Whether an event brings features: it has no name or the name `features`. -/
def bringsFeatures (event : StreamEvent) : Bool :=
  event.name = none || event.name = some "features"

/-- Applies the payload of an event that brings features, and ignores any other event. -/
def receive (refresher : Refresher) (event : StreamEvent) : Progress Unit :=
  if bringsFeatures event then
    let applied := refresher.apply (Text.Utf8.encode event.data.toList) true
    ⟨(), applied.refresher, applied.activities⟩
  else ⟨(), refresher, []⟩

/-- Receives events in order. -/
def receiveAll (refresher : Refresher) : List StreamEvent → Progress Unit
  | [] => ⟨(), refresher, []⟩
  | event :: rest =>
    let first := refresher.receive event
    let later := first.refresher.receiveAll rest
    ⟨(), later.refresher, first.activities ++ later.activities⟩

end Refresher

end FeatureFlags
