import FeatureFlags.Refresher.Supervisor

/-!
# Overlapping fetches

The host may ask for the features again before an earlier request has been answered, while
streams deliver payloads and the context changes.  A client advances by single actions: a fetch
is one action that makes a request and, if the request is ever answered, another one that takes
in the answer.  Answers come in any order, and each action is done as a whole.  When nothing comes
between the two, they make up one refresh (`Client.refresh_of_fetch`).
-/

namespace FeatureFlags

/-- A refresher with its streams and the requests in flight. -/
structure Client where
  supervisor : Supervisor
  /-- The requests that have not been answered, and the URLs they were made for. -/
  requests : List (Nat × Url) := []
  /-- The number of the next request. -/
  nextRequest : Nat := 0

/-- What can happen next. -/
inductive ClientAction
  /-- The host fetches features. -/
  | beginFetch
  /-- A request is answered, or fails. -/
  | endFetch (request : Nat) (answer : Except Error Response)
  | loadCached
  /-- The host publishes a changed context. -/
  | updateContext (change : Context → Context)
  /-- A stream, or a call that starts or stops one, makes a move. -/
  | move (move : Move)

namespace Client

def refresher (client : Client) : Refresher := client.supervisor.refresher

def setRefresher (client : Client) (refresher : Refresher) : Client :=
  { client with supervisor := { client.supervisor with refresher } }

/-- Makes a request, unless the context has no endpoint. -/
def beginFetch (client : Client) : Client × List Activity :=
  let begun := client.refresher.beginRefresh
  let next := client.setRefresher begun.refresher
  match begun.result with
  | .ok (url, _) =>
    ({ next with
        requests := (client.nextRequest, url) :: client.requests
        nextRequest := client.nextRequest + 1 }, begun.activities)
  | .error _ => (next, begun.activities)

/-- Takes in the answer to a request in flight. -/
def endFetch (client : Client) (request : Nat) (answer : Except Error Response) :
    Client × List Activity :=
  match client.requests.lookup request with
  | some url =>
    let ended := client.refresher.endRefresh url answer
    ({ client.setRefresher ended.refresher with
        requests := client.requests.filter (·.1 ≠ request) }, ended.activities)
  | none => (client, [])

/-- The client after an action, and the activities of the action. An action that is not possible
changes nothing. -/
def step (client : Client) : ClientAction → Client × List Activity
  | .beginFetch => client.beginFetch
  | .endFetch request answer => client.endFetch request answer
  | .loadCached =>
    let loaded := client.refresher.loadCached
    (client.setRefresher loaded.refresher, loaded.activities)
  | .updateContext change =>
    (client.setRefresher
      { client.refresher with contexts := client.refresher.contexts.update change }, [])
  | .move move =>
    let (supervisor, activities) := client.supervisor.step move
    ({ client with supervisor }, activities)

/-- The client after some actions. -/
def after (client : Client) : List ClientAction → Client
  | [] => client
  | action :: rest => (client.step action).1.after rest

/-- A fetch that is answered at once, before anything else happens, is a whole refresh. -/
theorem refresh_of_fetch {client : Client} {url : Url} {request : Request}
    (hrequest : client.refresher.beginRefresh.result = .ok (url, request))
    (server : Request → Except Error Response) :
    let begun := client.step .beginFetch
    let ended := begun.1.step (.endFetch client.nextRequest (server request))
    ended.1.refresher = (client.refresher.refresh server).refresher ∧
      begun.2 ++ ended.2 = (client.refresher.refresh server).activities := by
  intro begun ended
  have hbegun : begun =
      ({ client.setRefresher client.refresher.beginRefresh.refresher with
          requests := (client.nextRequest, url) :: client.requests
          nextRequest := client.nextRequest + 1 },
        client.refresher.beginRefresh.activities) := by
    change client.beginFetch = _
    simp only [beginFetch, hrequest]
  have hlookup : begun.1.requests.lookup client.nextRequest = some url := by
    rw [hbegun]
    exact List.lookup_cons_self
  have hended : ended = begun.1.endFetch client.nextRequest (server request) := rfl
  rw [hended, endFetch, hlookup, hbegun, Refresher.refresh, hrequest]
  exact ⟨rfl, rfl⟩

end Client

end FeatureFlags
