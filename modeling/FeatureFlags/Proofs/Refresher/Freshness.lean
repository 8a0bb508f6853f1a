import FeatureFlags.Proofs.Refresher.Outcome
import FeatureFlags.Proofs.Refresher.Validators
import Mathlib.Control.Monad.Basic

/-!
# Are the definitions in effect those of the server?

A server has a body and a tag for every URL.  It answers "not modified" if a request
offers the tag it has, and otherwise sends the body with the tag.  After a refresh that
succeeds, the definitions in effect ought to be those of the body that the server has for
the URL of the context.

After an answer with a body they are.  After "not modified" they are those of the response
that was applied last, which need not have come from the same URL: a refresher remembers
the tags of many URLs but the definitions of one.  So the definitions are the right ones
exactly if the request did not offer the tag the server has, or the body applied last
defines the same as the body the server has (`Deployment.fresh_after_refresh_iff`).  The
latter is the case whenever the last response came from the present URL.  It is not when
the context has gone to another URL and come back in the meantime
(`Deployment.stale_after_return`).

While a deployment runs, three things are kept (`Deployment.Traced`): the tags are those of
the history of applied responses, every tag in the history stands for a body with
definitions, and the definitions in effect are those of the body applied last, which is
the one that the newest tag of its URL stands for.
-/

namespace FeatureFlags

open Text.Utf8 (Bytes)

/-- Remembering the tag of a response makes it the last one of its URL. -/
theorem TagIncident.lastApplied?_incidents (cache : TagCache) (url : Url) (tag : Option String)
    (history : List TagIncident) (other : String) :
    lastApplied? other (cache.incidents url tag ++ history) =
      if url.text = other then some tag else lastApplied? other history := by
  unfold TagCache.incidents
  rw [List.cons_append, lastApplied?]
  split
  · rfl
  · generalize (if FetchOutcome.isCacheable url.write then _ else none) = displaced
    cases displaced <;> rfl

theorem Refresher.definitionsOf_taking (refresher : Refresher) (url : Url) (body : Bytes)
    (tag : Option String) (definitions : Definitions) (other : Bytes) :
    (refresher.taking url body tag definitions).definitionsOf other =
      refresher.definitionsOf other := by
  rw [definitionsOf, decryptor_taking]
  rfl

/-- A request is for its URL. -/
theorem Refresher.url_requestFor (refresher : Refresher) (url : Url) :
    (refresher.requestFor url).url = url.text := by
  unfold requestFor TagCache.requestFor
  split
  · split <;> rfl
  · rfl

/-- An answer that brings no payload is not applied. -/
theorem Refresher.applied?_eq_none_of_bind {refresher : Refresher} {url : Url}
    {answer : Except Error Response} {outcome : Except Error FetchOutcome}
    (hanswer : answer.bind (FetchOutcome.ofResponse url) = outcome)
    (hbody : ∀ body tag, outcome ≠ .ok (.fetched body tag)) :
    refresher.applied? answer = none := by
  cases answer with
  | error error => rfl
  | ok response =>
      cases hsuccess : response.isSuccess with
      | true =>
          have hfetched := FetchOutcome.ofResponse_of_isSuccess hsuccess url
          exact absurd (hanswer.symm.trans hfetched) (hbody _ _)
      | false => simp [applied?, hsuccess]

/-! ## Servers -/

/-- A server of payloads. -/
structure Origin where
  /-- The body that a tag stands for at a URL. -/
  content : String → String → Bytes
  /-- The tag that a URL has. -/
  tag : String → String

namespace Origin

/-- The body that a URL has. -/
def body (origin : Origin) (url : String) : Bytes := origin.content url (origin.tag url)

/-- A server answers from an origin: "not modified" exactly to a request that offers the tag of
its URL, and otherwise the body and the tag.  It need not answer at all. -/
def IsServedBy (origin : Origin) (server : Request → Except Error Response) : Prop :=
  ∀ request response, server request = .ok response →
    if request.validator = some (origin.tag request.url) then response.status = 304
    else response.status = 200 ∧ response.body = origin.body request.url ∧
      response.header "etag" = some (origin.tag request.url)

/-- The plain server of an origin. -/
def answer (origin : Origin) (request : Request) : Except Error Response :=
  if request.validator = some (origin.tag request.url) then .ok ⟨304, [], []⟩
  else .ok ⟨200, [("etag", origin.tag request.url)], origin.body request.url⟩

theorem isServedBy_answer (origin : Origin) : origin.IsServedBy origin.answer := by
  intro request response hresponse
  rw [answer] at hresponse
  split
  · rename_i hvalidator
    rw [if_pos hvalidator] at hresponse
    cases hresponse
    rfl
  · rename_i hvalidator
    rw [if_neg hvalidator] at hresponse
    cases hresponse
    exact ⟨rfl, rfl, rfl⟩

section Served

variable {origin : Origin} {server : Request → Except Error Response} {request : Request}
  {response : Response} (hserved : origin.IsServedBy server)
  (hresponse : server request = .ok response)
include hserved hresponse

/-- A response with a body brings the present one, with its tag. -/
theorem IsServedBy.of_isSuccess (hsuccess : response.isSuccess = true) :
    request.validator ≠ some (origin.tag request.url) ∧
      response.body = origin.body request.url ∧
      response.header "etag" = some (origin.tag request.url) := by
  have hrule := hserved request response hresponse
  split at hrule
  · exact absurd hrule (Response.status_ne_of_isSuccess hsuccess)
  · rename_i hvalidator
    exact ⟨hvalidator, hrule.2⟩

theorem IsServedBy.of_notModified (hstatus : response.status = 304) :
    request.validator = some (origin.tag request.url) := by
  have hrule := hserved request response hresponse
  split at hrule
  · assumption
  · rw [hstatus] at hrule
    exact absurd hrule.1 (by decide)

end Served

end Origin

/-! ## Deployments -/

/-- A refresher and the server it fetches from. -/
structure Deployment where
  refresher : Refresher
  origin : Origin

/-- What happens to a deployment. -/
inductive Happening
  /-- A refresh is carried out from begin to end. -/
  | refresh (server : Request → Except Error Response)
  /-- The server changes its bodies, and with them their tags. -/
  | revise (tag : String → String)
  /-- The host points the context elsewhere. -/
  | redirect (apiKey hostUrl : String)

namespace Deployment

def step (deployment : Deployment) : Happening → Deployment
  | .refresh server =>
    { deployment with refresher := (deployment.refresher.refresh server).refresher }
  | .revise tag => { deployment with origin := { deployment.origin with tag } }
  | .redirect apiKey hostUrl =>
    { deployment with
      refresher :=
        { deployment.refresher with
          contexts := deployment.refresher.contexts.update fun context =>
            { context with apiKey, hostUrl } } }

def after (deployment : Deployment) : List Happening → Deployment
  | [] => deployment
  | happening :: rest => (deployment.step happening).after rest

/-- Every refresh is answered from what the server has at the time. -/
def IsServed (deployment : Deployment) : List Happening → Prop
  | [] => True
  | .refresh server :: rest =>
    deployment.origin.IsServedBy server ∧ (deployment.step (.refresh server)).IsServed rest
  | happening :: rest => (deployment.step happening).IsServed rest

/-- The URL and the body of the response that is applied, if one is. -/
def applied? (deployment : Deployment) : Happening → Option (String × Bytes)
  | .refresh server =>
    match deployment.refresher.contexts.current.featuresUrl with
    | .ok url =>
      (deployment.refresher.applied? (server (deployment.refresher.requestFor url))).map
        fun response => (url.text, response.body)
    | .error _ => none
  | _ => none

/-- The URL and the body of the response that has been applied last; `earlier` is that of the
past. -/
def lastApplied? (deployment : Deployment) (earlier : Option (String × Bytes)) :
    List Happening → Option (String × Bytes)
  | [] => earlier
  | happening :: rest =>
    (deployment.step happening).lastApplied? ((deployment.applied? happening).or earlier) rest

/-- What a refresh does to a deployment: it applies no response and leaves everything but the use of
the tags as it is, or it applies a response of the present URL. -/
theorem refresh_cases (deployment : Deployment) (server : Request → Except Error Response) :
    (deployment.applied? (.refresh server) = none ∧
      ∃ tags, (deployment.step (.refresh server)).refresher = { deployment.refresher with tags } ∧
        ∀ history, deployment.refresher.tags.Recalls history → tags.Recalls history) ∨
    ∃ url response definitions,
      server (deployment.refresher.requestFor url) = .ok response ∧
      response.isSuccess = true ∧
      deployment.refresher.definitionsOf response.body = .ok definitions ∧
      deployment.applied? (.refresh server) = some (url.text, response.body) ∧
      (deployment.step (.refresh server)).refresher =
        (deployment.refresher.asking url).taking url response.body (response.header "etag")
          definitions := by
  have hdone := deployment.refresher.refreshed server
  dsimp only [applied?, step]
  -- a refresh ends in one of five ways, and only the last one applies a response
  generalize deployment.refresher.refresh server = done at hdone
  cases hdone with
  | nowhere hurl =>
      simp only [hurl]
      exact Or.inl ⟨trivial, _, rfl, fun _ => id⟩
  | @refused url error hurl hanswer =>
      have hnone : deployment.refresher.applied? _ = none :=
        Refresher.applied?_eq_none_of_bind hanswer nofun
      simp only [hurl, hnone]
      exact Or.inl ⟨rfl, _, rfl, fun _ h => h.requestFor url⟩
  | @unmodified url hurl hanswer =>
      have hnone : deployment.refresher.applied? _ = none :=
        Refresher.applied?_eq_none_of_bind hanswer nofun
      simp only [hurl, hnone]
      exact Or.inl ⟨rfl, _, rfl, fun _ h => h.requestFor url⟩
  | @rejected url response error hurl hanswer hsuccess hbody =>
      have hnone : deployment.refresher.applied? (.ok response) = none := by
        simp [Refresher.applied?, hbody, Except.isOk, Except.toBool]
      simp only [hurl, hanswer, hnone]
      exact Or.inl ⟨rfl, _, rfl, fun _ h => h.requestFor url⟩
  | @applied url response definitions hurl hanswer hsuccess hbody =>
      have hsome : deployment.refresher.applied? (.ok response) = some response := by
        simp [Refresher.applied?, hsuccess, hbody, Except.isOk, Except.toBool]
      simp only [hurl, hanswer, hsome]
      exact Or.inr ⟨url, response, definitions, hanswer, hsuccess, hbody, rfl, rfl⟩

/-- What the past of a deployment has left behind. -/
structure Traced (deployment : Deployment) (history : List TagIncident)
    (last : Option (String × Bytes)) : Prop where
  recalls : deployment.refresher.tags.Recalls history
  /-- A tag of an applied response stands for a body with definitions, and there has been a
  last one. -/
  defined : ∀ url tag, TagIncident.lastApplied? url history = some (some tag) →
    last.isSome ∧ ∃ definitions,
      deployment.refresher.definitionsOf (deployment.origin.content url tag) = .ok definitions
  /-- The body applied last is in effect, and it is what the newest tag of its URL stands for. -/
  inEffect : ∀ url body, last = some (url, body) →
    (∃ tag, TagIncident.lastApplied? url history = some (some tag) ∧
      body = deployment.origin.content url tag) ∧
    ∃ definitions, deployment.refresher.definitionsOf body = .ok definitions ∧
      definitions.InEffect deployment.refresher.contexts.current

namespace Traced

variable {deployment : Deployment} {history : List TagIncident} {last : Option (String × Bytes)}

theorem start (hnew : deployment.refresher.tags.entries = []) : deployment.Traced [] none where
  recalls := .of_nothing hnew
  defined := nofun
  inEffect := nofun

/-- Only the use of the tags has changed. -/
theorem of_tags (h : deployment.Traced history last) {tags : TagCache}
    (htags : tags.Recalls history) :
    Traced { deployment with refresher := { deployment.refresher with tags } } history last where
  recalls := htags
  defined := h.defined
  inEffect := h.inEffect

/-- A response has been applied that brought the present body of a URL, with its tag. -/
theorem apply (h : deployment.Traced history last) {url : Url} {definitions : Definitions}
    (hbody : deployment.refresher.definitionsOf (deployment.origin.body url.text) =
      .ok definitions) :
    ∃ history, Traced
      { deployment with
        refresher := (deployment.refresher.asking url).taking url (deployment.origin.body url.text)
          (some (deployment.origin.tag url.text)) definitions }
      history (some (url.text, deployment.origin.body url.text)) := by
  have hasked := h.recalls.requestFor url
  have hnewest (other : String) := TagIncident.lastApplied?_incidents
    (deployment.refresher.asking url).tags url (some (deployment.origin.tag url.text)) history other
  have hdecryptor (body : Bytes) :
      ((deployment.refresher.asking url).taking url (deployment.origin.body url.text)
        (some (deployment.origin.tag url.text)) definitions).definitionsOf body =
          deployment.refresher.definitionsOf body :=
    Refresher.definitionsOf_taking ..
  refine ⟨(deployment.refresher.asking url).tags.incidents url
    (some (deployment.origin.tag url.text)) ++ history, ?_, ?_, ?_⟩
  · rw [Refresher.tags_taking]
    exact hasked.remember url _
  · -- the newest tag of the URL stands for the body just applied, the others are as before
    intro other tag htag
    refine ⟨rfl, ?_⟩
    rw [hnewest other] at htag
    rw [hdecryptor]
    split at htag
    · rename_i hsame
      cases htag
      exact ⟨definitions, hsame ▸ hbody⟩
    · exact (h.defined other tag htag).2
  · intro other body hlast
    cases hlast
    refine ⟨⟨deployment.origin.tag url.text, ?_, rfl⟩, definitions, ?_, ?_⟩
    · rw [hnewest, if_pos rfl]
    · rw [hdecryptor]
      exact hbody
    · rw [Refresher.current_taking]
      exact ⟨rfl, rfl⟩

/-- **One happening.** -/
theorem step (h : deployment.Traced history last) {happening : Happening}
    (hserved : deployment.IsServed [happening]) :
    ∃ history, (deployment.step happening).Traced history
      ((deployment.applied? happening).or last) := by
  cases happening with
  | refresh server =>
      obtain ⟨hnone, tags, hstep, hrecalls⟩ |
          ⟨url, response, definitions, hresponse, hsuccess, hbody, hsome, hstep⟩ :=
        deployment.refresh_cases server
      · -- no body was applied: the tags may have changed, what is in effect has not
        have hafter : deployment.step (.refresh server) =
            { deployment with refresher := { deployment.refresher with tags } } :=
          congrArg (fun refresher => { deployment with refresher }) hstep
        rw [hnone, hafter]
        exact ⟨history, h.of_tags (hrecalls history h.recalls)⟩
      · obtain ⟨-, hpresent, htag⟩ := hserved.1.of_isSuccess hresponse hsuccess
        rw [Refresher.url_requestFor] at hpresent htag
        rw [hpresent] at hbody hsome
        -- the origin answered with the body it has now and with that body's tag
        rw [hpresent, htag] at hstep
        have hafter : deployment.step (.refresh server) =
            { deployment with
              refresher := (deployment.refresher.asking url).taking url
                (deployment.origin.body url.text) (some (deployment.origin.tag url.text))
                definitions } :=
          congrArg (fun refresher => { deployment with refresher }) hstep
        rw [hsome, hafter]
        exact h.apply hbody
  | revise tag => exact ⟨history, h.recalls, h.defined, h.inEffect⟩
  | redirect apiKey hostUrl => exact ⟨history, h.recalls, h.defined, h.inEffect⟩

/-- **A run.** -/
theorem after (h : deployment.Traced history last) {happenings : List Happening}
    (hserved : deployment.IsServed happenings) :
    ∃ history, (deployment.after happenings).Traced history
      (deployment.lastApplied? last happenings) := by
  induction happenings generalizing deployment history last with
  | nil => exact ⟨history, h⟩
  | cons happening rest ih =>
      have hfirst : deployment.IsServed [happening] ∧
          (deployment.step happening).IsServed rest := by
        cases happening with
        | refresh server => exact ⟨⟨hserved.1, trivial⟩, hserved.2⟩
        | revise tag => exact ⟨trivial, hserved⟩
        | redirect apiKey hostUrl => exact ⟨trivial, hserved⟩
      obtain ⟨later, hlater⟩ := h.step hfirst.1
      exact ih hlater hfirst.2

/-- If the tag that the server has for a URL is remembered, its body has definitions, some body is
in effect, and that is the same body if it came from the same URL. -/
theorem of_validator (h : deployment.Traced history last) {url : Url}
    (hvalidator : (deployment.refresher.requestFor url).validator =
      some (deployment.origin.tag url.text)) :
    ∃ definitions source body other,
      deployment.refresher.definitionsOf (deployment.origin.body url.text) = .ok definitions ∧
      last = some (source, body) ∧ deployment.refresher.definitionsOf body = .ok other ∧
      other.InEffect deployment.refresher.contexts.current ∧
      (source = url.text → other = definitions) := by
  rw [Refresher.requestFor, TagCache.validator_requestFor] at hvalidator
  split at hvalidator
  case isFalse => cases hvalidator
  have hnewest : TagIncident.lastApplied? url.text history =
      some (some (deployment.origin.tag url.text)) :=
    TagIncident.lastApplied?_of_recalled? ((h.recalls url.text).symm.trans hvalidator)
  obtain ⟨hlast, definitions, hdefinitions⟩ := h.defined _ _ hnewest
  obtain ⟨⟨source, body⟩, rfl⟩ := Option.isSome_iff_exists.mp hlast
  obtain ⟨⟨tag, htag, hbody⟩, other, hother, heffect⟩ := h.inEffect source body rfl
  refine ⟨definitions, source, body, other, hdefinitions, rfl, hother, heffect, ?_⟩
  rintro rfl
  -- the newest tag of the URL is the one that the server has, so the body is the server's
  cases hnewest.symm.trans htag
  rw [hbody] at hother
  exact Except.ok.inj (hother.symm.trans hdefinitions)

end Traced

/-- **When the definitions in effect are those of the server.**  A refresher that remembers no tags
at the start has been through refreshes, revisions of the server's bodies and redirections of its
context, and one more refresh succeeds.  Then the body that the server has for the URL of the
context has definitions.  They are in effect exactly if the request did not offer the tag that
the server has, or the body applied last before defines the same; and they are in effect if that
body came from the same URL. -/
theorem fresh_after_refresh_iff {start : Deployment} (hnew : start.refresher.tags.entries = [])
    {happenings : List Happening} (hserved : start.IsServed happenings)
    {server : Request → Except Error Response}
    (hserver : (start.after happenings).origin.IsServedBy server)
    (hok : ((start.after happenings).refresher.refresh server).result = .ok ()) :
    let before := start.after happenings
    let context := (before.refresher.refresh server).refresher.contexts.current
    ∃ url definitions, context.featuresUrl = .ok url ∧
      before.refresher.definitionsOf (before.origin.body url.text) = .ok definitions ∧
      (definitions.InEffect context ↔
        (before.refresher.requestFor url).validator ≠ some (before.origin.tag url.text) ∨
          ∃ source body other, start.lastApplied? none happenings = some (source, body) ∧
            before.refresher.definitionsOf body = .ok other ∧ other.Agree definitions) ∧
      ∀ body, start.lastApplied? none happenings = some (url.text, body) →
        definitions.InEffect context := by
  obtain ⟨history, htraced⟩ := (Traced.start hnew).after hserved
  generalize start.after happenings = before at htraced hserver hok
  generalize start.lastApplied? none happenings = last at htraced
  have hdone := before.refresher.refreshed server
  dsimp only
  generalize before.refresher.refresh server = done at hdone hok
  cases hdone with
  | nowhere => cases hok
  | refused => cases hok
  | rejected => cases hok
  | @unmodified url hurl hanswer =>
      -- the request has offered the tag of the server, so the tag is remembered
      obtain ⟨response, hresponse, hstatus⟩ := FetchOutcome.response_of_notModified hanswer
      have hvalidator := hserver.of_notModified hresponse hstatus
      rw [Refresher.url_requestFor] at hvalidator
      obtain ⟨definitions, source, body, other, hdefinitions, rfl, hother, heffect, hsame⟩ :=
        htraced.of_validator hvalidator
      refine ⟨url, definitions, hurl, hdefinitions, ?_, ?_⟩
      · refine heffect.agree_iff.trans ?_
        constructor
        · intro hagree
          exact Or.inr ⟨source, body, other, rfl, hother, hagree⟩
        · rintro (hne | ⟨_, _, last, heq, hlast, hagree⟩)
          · exact absurd hvalidator hne
          · cases heq
            cases hother.symm.trans hlast
            exact hagree
      · intro present heq
        cases heq
        exact hsame rfl ▸ heffect
  | @applied url response definitions hurl hresponse hsuccess hbody =>
      -- a body has come, so the request has not offered the tag of the server
      obtain ⟨hvalidator, hpresent, -⟩ := hserver.of_isSuccess hresponse hsuccess
      rw [Refresher.url_requestFor] at hvalidator hpresent
      rw [hpresent] at hbody
      have heffect : definitions.InEffect
          ((before.refresher.asking url).taking url response.body (response.header "etag")
            definitions).contexts.current := by
        rw [Refresher.current_taking]
        exact ⟨rfl, rfl⟩
      refine ⟨url, definitions, ?_, hbody, iff_of_true heffect (Or.inl hvalidator),
        fun _ _ => heffect⟩
      rw [Refresher.current_taking]
      exact hurl

/-! ## Going away and coming back -/

/-- The URL of the context at first. -/
def home : String := "http://[::1]/api/features/k"

/-- A refresher that has not fetched anything yet, and a server that has a feature at the URL of its
context and none elsewhere. -/
def trial : Deployment where
  refresher := { contexts := ⟨{ apiKey := "k", hostUrl := "http://[::1]" }⟩ }
  origin :=
    { content _ tag :=
        Text.Utf8.encode (if tag = "v1" then "\x7b\"features\":\x7b\"f\":\x7b\x7d\x7d\x7d"
          else "\x7b\x7d").toList
      tag url := if url = home then "v1" else "v2" }

/-- A refresh that is answered by the server of the trial. -/
def refreshing : Happening := .refresh trial.origin.answer

/-- The context goes to another URL, where it is refreshed, and comes back. -/
def busyReturn : List Happening :=
  [refreshing, .redirect "l" "http://[::1]", refreshing, .redirect "k" "http://[::1]"]

/-- The context goes to another URL and comes back at once. -/
def idleReturn : List Happening :=
  [refreshing, .redirect "l" "http://[::1]", .redirect "k" "http://[::1]"]

/-- After a refresh elsewhere, the tag of the first URL is still remembered: the refresh succeeds
without a body, and the definitions of the other URL stay in effect. -/
theorem stale_after_return :
    let before := trial.after busyReturn
    let done := before.refresher.refresh trial.origin.answer
    (trial.IsServed busyReturn ∧ before.origin.IsServedBy trial.origin.answer) ∧
      done.result = .ok () ∧
      done.refresher.contexts.current.featuresUrl.toOption.map (·.text) = some home ∧
      (before.refresher.definitionsOf (before.origin.body home)).toOption.map (·.features.keys) =
        some ["f"] ∧
      done.refresher.contexts.current.features.keys = [] := by
  intro before done
  have hserver := trial.origin.isServedBy_answer
  refine ⟨⟨⟨hserver, hserver, trivial⟩, hserver⟩, ?_⟩
  decide +kernel

/-- If nothing is fetched elsewhere, the refresh that is answered "not modified" leaves the right
definitions in effect. -/
theorem fresh_after_idle_return :
    (trial.refresher.tags.entries = [] ∧ trial.IsServed idleReturn ∧
      (trial.after idleReturn).origin.IsServedBy trial.origin.answer) ∧
    ((trial.after idleReturn).refresher.refresh trial.origin.answer).result = .ok () ∧
    ∃ (url : Url) (definitions : Definitions), url.text = home ∧
      (trial.after idleReturn).refresher.definitionsOf
        ((trial.after idleReturn).origin.body url.text) = .ok definitions ∧
      definitions.InEffect ((trial.after idleReturn).refresher.refresh
        trial.origin.answer).refresher.contexts.current := by
  have hserver := trial.origin.isServedBy_answer
  have hserved : trial.IsServed idleReturn := ⟨hserver, trivial⟩
  have hok : ((trial.after idleReturn).refresher.refresh trial.origin.answer).result = .ok () := by
    decide +kernel
  have hhome : ((trial.after idleReturn).refresher.refresh
      trial.origin.answer).refresher.contexts.current.featuresUrl.toOption.map (·.text) =
        some home := by
    decide +kernel
  have hlast : trial.lastApplied? none idleReturn = some (home, trial.origin.body home) := by
    decide +kernel
  obtain ⟨url, definitions, hurl, hbody, -, hsame⟩ :=
    fresh_after_refresh_iff rfl hserved hserver hok
  rw [hurl] at hhome
  have htext : url.text = home := Option.some.inj hhome
  rw [← htext] at hlast
  exact ⟨⟨rfl, hserved, hserver⟩, hok, url, definitions, htext, hbody, hsame _ hlast⟩

end Deployment

end FeatureFlags
