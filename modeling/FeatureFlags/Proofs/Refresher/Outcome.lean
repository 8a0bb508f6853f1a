import FeatureFlags.Proofs.Refresher.Frame

/-!
# What a refresh comes to

A refresh can end in five ways, and `Refresher.Refreshed` has one rule for each: the
context has no endpoint, the request is refused, the definitions in effect are current,
the payload has no definitions, or its definitions are applied.  Each rule gives the
result, the refresher and the activities in full, and there is no other way
(`Refresher.refreshed`).  Whatever is to be said about refreshes is said by going through
the rules.

The first such statement is what the host gets to know.  A refresh reports its outcome
once, except where it finds no endpoint or is told that nothing has changed: there it
reports nothing at all (`Refresher.reports_refresh_iff`).
-/

namespace FeatureFlags

/-! ## Definitions -/

namespace Definitions

/-- The features and the saved groups of a context are those of some definitions. -/
def InEffect (definitions : Definitions) (context : Context) : Prop :=
  context.features = definitions.features ∧ context.savedGroups = definitions.savedGroups

/-- Two payloads define the same features and the same groups. -/
def Agree (first second : Definitions) : Prop :=
  first.features = second.features ∧ first.savedGroups = second.savedGroups

theorem InEffect.agree_iff {first second : Definitions} {context : Context}
    (hfirst : first.InEffect context) : second.InEffect context ↔ first.Agree second := by
  rw [InEffect, Agree, hfirst.1, hfirst.2]

end Definitions

/-! ## Answers -/

/-- Only a success brings a payload. -/
theorem FetchOutcome.success_of_fetched {answer : Except Error Response} {url : Url}
    {body : Text.Utf8.Bytes} {tag : Option String}
    (hfetched : answer.bind (ofResponse url) = .ok (.fetched body tag)) :
    ∃ response, answer = .ok response ∧ response.isSuccess = true := by
  cases answer with
  | error error => cases hfetched
  | ok response =>
      cases hsuccess : response.isSuccess with
      | true => exact ⟨response, rfl, hsuccess⟩
      | false =>
          rcases ofResponse_of_not_isSuccess hsuccess url with hnot | ⟨error, herror⟩
          · cases hnot.symm.trans hfetched
          · cases herror.symm.trans hfetched

theorem FetchOutcome.ofResponse_eq_notModified_iff {url : Url} {response : Response} :
    ofResponse url response = .ok .notModified ↔ response.status = 304 := by
  constructor
  · intro h
    unfold ofResponse at h
    split at h
    · cases h
    · split at h
      · assumption
      · split at h <;> cases h
  · intro h
    have hrange : ¬(200 ≤ response.status && response.status ≤ 299) = true := by simp [h]
    rw [ofResponse, if_neg hrange, if_pos h]

theorem FetchOutcome.response_of_notModified {answer : Except Error Response} {url : Url}
    (hanswer : answer.bind (ofResponse url) = .ok .notModified) :
    ∃ response, answer = .ok response ∧ response.status = 304 := by
  cases answer with
  | error error => cases hanswer
  | ok response => exact ⟨response, rfl, ofResponse_eq_notModified_iff.mp hanswer⟩

theorem Response.status_ne_of_isSuccess {response : Response}
    (hsuccess : response.isSuccess = true) : response.status ≠ 304 := by
  intro hstatus
  simp [isSuccess, hstatus] at hsuccess

namespace Refresher

variable (refresher : Refresher)

/-! ## Applying a payload -/

section Apply

variable {refresher} {body : Text.Utf8.Bytes} (isRemote : Bool)

theorem apply_of_error {error : Error} (herror : refresher.definitionsOf body = .error error) :
    refresher.apply body isRemote =
      ⟨.error error, refresher, [.reported (.error error) isRemote]⟩ := by
  rw [apply, herror]

theorem apply_of_ok {definitions : Definitions}
    (hok : refresher.definitionsOf body = .ok definitions) :
    refresher.apply body isRemote =
      ⟨.ok (),
        if isRemote then (refresher.publish definitions).keepSnapshot body
        else refresher.publish definitions,
        [.reported (.ok ()) isRemote]⟩ := by
  rw [apply, hok]

end Apply

/-- Keeping a snapshot changes the persistence and nothing else. -/
theorem keepSnapshot_frame (body : Text.Utf8.Bytes) :
    ∃ persistence, refresher.keepSnapshot body = { refresher with persistence } := by
  unfold keepSnapshot
  split
  · split
    · exact ⟨_, rfl⟩
    · exact ⟨refresher.persistence, rfl⟩
  · exact ⟨refresher.persistence, rfl⟩

theorem contexts_keepSnapshot (body : Text.Utf8.Bytes) :
    (refresher.keepSnapshot body).contexts = refresher.contexts := by
  obtain ⟨persistence, h⟩ := refresher.keepSnapshot_frame body
  rw [h]

theorem decryptor_keepSnapshot (body : Text.Utf8.Bytes) :
    (refresher.keepSnapshot body).decryptor = refresher.decryptor := by
  obtain ⟨persistence, h⟩ := refresher.keepSnapshot_frame body
  rw [h]

/-! ## The rules -/

/-- The request for the features at a URL. -/
def requestFor (url : Url) : Request := (refresher.tags.requestFor url).1

/-- The refresher that has asked for the features at a URL. -/
def asking (url : Url) : Refresher := { refresher with tags := (refresher.tags.requestFor url).2 }

/-- The refresher that has put the definitions of a response into effect, kept its body and
remembered its tag. -/
def taking (url : Url) (body : Text.Utf8.Bytes) (tag : Option String) (definitions : Definitions) :
    Refresher :=
  let kept := (refresher.publish definitions).keepSnapshot body
  { kept with tags := kept.tags.remember url tag }

section Taking

variable (url : Url) (body : Text.Utf8.Bytes) (tag : Option String) (definitions : Definitions)

theorem tags_taking :
    (refresher.taking url body tag definitions).tags = refresher.tags.remember url tag := by
  rw [taking, tags_keepSnapshot]
  rfl

theorem current_taking :
    (refresher.taking url body tag definitions).contexts.current =
      refresher.contexts.current.withDefinitions definitions.features definitions.savedGroups :=
  congrArg ContextStore.current (contexts_keepSnapshot _ body)

theorem decryptor_taking :
    (refresher.taking url body tag definitions).decryptor = refresher.decryptor :=
  decryptor_keepSnapshot _ body

end Taking

/-- What a refresh comes to. -/
inductive Refreshed (server : Request → Except Error Response) :
    Progress (Except Error Unit) → Prop
  /-- The context has no endpoint. -/
  | nowhere {error : Error} (hurl : refresher.contexts.current.featuresUrl = .error error) :
      Refreshed server ⟨.error error, refresher, []⟩
  /-- The request fails, or the response is neither a success nor "not modified". -/
  | refused {url : Url} {error : Error} (hurl : refresher.contexts.current.featuresUrl = .ok url)
      (hanswer : (server (refresher.requestFor url)).bind (FetchOutcome.ofResponse url) =
        .error error) :
      Refreshed server ⟨.error error, refresher.asking url,
        [.requested (refresher.requestFor url), .reported (.error error) true]⟩
  /-- The definitions in effect are said to be current. -/
  | unmodified {url : Url} (hurl : refresher.contexts.current.featuresUrl = .ok url)
      (hanswer : (server (refresher.requestFor url)).bind (FetchOutcome.ofResponse url) =
        .ok .notModified) :
      Refreshed server ⟨.ok (), refresher.asking url, [.requested (refresher.requestFor url)]⟩
  /-- The body of a success has no definitions. -/
  | rejected {url : Url} {response : Response} {error : Error}
      (hurl : refresher.contexts.current.featuresUrl = .ok url)
      (hanswer : server (refresher.requestFor url) = .ok response)
      (hsuccess : response.isSuccess = true)
      (hbody : refresher.definitionsOf response.body = .error error) :
      Refreshed server ⟨.error error, refresher.asking url,
        [.requested (refresher.requestFor url), .reported (.error error) true]⟩
  /-- The definitions of a success are put into effect. -/
  | applied {url : Url} {response : Response} {definitions : Definitions}
      (hurl : refresher.contexts.current.featuresUrl = .ok url)
      (hanswer : server (refresher.requestFor url) = .ok response)
      (hsuccess : response.isSuccess = true)
      (hbody : refresher.definitionsOf response.body = .ok definitions) :
      Refreshed server
        ⟨.ok (),
          (refresher.asking url).taking url response.body (response.header "etag") definitions,
          [.requested (refresher.requestFor url), .reported (.ok ()) true]⟩

theorem beginRefresh_of_error {error : Error}
    (hurl : refresher.contexts.current.featuresUrl = .error error) :
    refresher.beginRefresh = ⟨.error error, refresher, []⟩ := by
  rw [beginRefresh, hurl]

theorem beginRefresh_of_ok {url : Url} (hurl : refresher.contexts.current.featuresUrl = .ok url) :
    refresher.beginRefresh =
      ⟨.ok (url, refresher.requestFor url), refresher.asking url,
        [.requested (refresher.requestFor url)]⟩ := by
  rw [beginRefresh, hurl]
  rfl

theorem refresh_of_ok {url : Url} (hurl : refresher.contexts.current.featuresUrl = .ok url)
    (server : Request → Except Error Response) :
    refresher.refresh server =
      let ended := (refresher.asking url).endRefresh url (server (refresher.requestFor url))
      { ended with activities := .requested (refresher.requestFor url) :: ended.activities } := by
  rw [refresh, refresher.beginRefresh_of_ok hurl]
  rfl

theorem endRefresh_of_error {url : Url} {answer : Except Error Response} {error : Error}
    (hanswer : answer.bind (FetchOutcome.ofResponse url) = .error error) :
    refresher.endRefresh url answer =
      ⟨.error error, refresher, [.reported (.error error) true]⟩ := by
  rw [endRefresh, hanswer]

theorem endRefresh_of_notModified {url : Url} {answer : Except Error Response}
    (hanswer : answer.bind (FetchOutcome.ofResponse url) = .ok .notModified) :
    refresher.endRefresh url answer = ⟨.ok (), refresher, []⟩ := by
  rw [endRefresh, hanswer]

/-- Taking in a success is applying its body and, if that works, remembering its tag. -/
theorem endRefresh_of_isSuccess {response : Response} (hsuccess : response.isSuccess = true)
    (url : Url) :
    refresher.endRefresh url (.ok response) =
      match refresher.definitionsOf response.body with
      | .ok definitions =>
        ⟨.ok (), refresher.taking url response.body (response.header "etag") definitions,
          [.reported (.ok ()) true]⟩
      | .error error => ⟨.error error, refresher, [.reported (.error error) true]⟩ := by
  have hanswer := FetchOutcome.ofResponse_of_isSuccess hsuccess url
  rw [endRefresh, Except.bind, hanswer]
  cases hbody : refresher.definitionsOf response.body with
  | ok definitions =>
      simp only [apply_of_ok true hbody, if_true, taking, TagCache.remember_of_cacheable]
  | error error => simp only [apply_of_error true hbody]

/-- Taking in an answer changes the refresher only if the answer is applied. -/
theorem refresher_endRefresh (url : Url) (answer : Except Error Response) :
    (refresher.applied? answer = none ∧
      (refresher.endRefresh url answer).refresher = refresher) ∨
    ∃ response definitions, refresher.applied? answer = some response ∧
      refresher.definitionsOf response.body = .ok definitions ∧
      (refresher.endRefresh url answer).refresher =
        refresher.taking url response.body (response.header "etag") definitions := by
  cases answer with
  | error error => exact Or.inl ⟨rfl, rfl⟩
  | ok response =>
      cases hsuccess : response.isSuccess with
      | true =>
          rw [endRefresh_of_isSuccess _ hsuccess]
          -- a body that is fetched but does not decode leaves everything as it was
          cases hbody : refresher.definitionsOf response.body with
          | ok definitions =>
              refine Or.inr ⟨response, definitions, ?_, hbody, rfl⟩
              simp [applied?, hsuccess, hbody, Except.isOk, Except.toBool]
          | error error =>
              refine Or.inl ⟨?_, rfl⟩
              simp [applied?, hbody, Except.isOk, Except.toBool]
      | false =>
          refine Or.inl ⟨by simp [applied?, hsuccess], ?_⟩
          have hanswer : (Except.ok response : Except Error Response).bind
              (FetchOutcome.ofResponse url) = FetchOutcome.ofResponse url response := rfl
          rcases FetchOutcome.ofResponse_of_not_isSuccess hsuccess url with hnot | ⟨error, herror⟩
          · rw [refresher.endRefresh_of_notModified (hanswer.trans hnot)]
          · rw [refresher.endRefresh_of_error (hanswer.trans herror)]

/-- **Every refresh follows one of the rules.** -/
theorem refreshed (server : Request → Except Error Response) :
    refresher.Refreshed server (refresher.refresh server) := by
  cases hurl : refresher.contexts.current.featuresUrl with
  | error error =>
      rw [refresh, refresher.beginRefresh_of_error hurl]
      exact .nowhere hurl
  | ok url =>
      rw [refresher.refresh_of_ok hurl server]
      dsimp only
      cases houtcome : (server (refresher.requestFor url)).bind (FetchOutcome.ofResponse url) with
      | error error =>
          rw [endRefresh_of_error _ houtcome]
          exact .refused hurl houtcome
      | ok outcome =>
          cases outcome with
          | notModified =>
              rw [endRefresh_of_notModified _ houtcome]
              exact .unmodified hurl houtcome
          | fetched body tag =>
              obtain ⟨response, hanswer, hsuccess⟩ := FetchOutcome.success_of_fetched houtcome
              -- asking for the tag does not change how a body is read
              have hdefinitions : (refresher.asking url).definitionsOf response.body =
                  refresher.definitionsOf response.body := rfl
              rw [hanswer, endRefresh_of_isSuccess _ hsuccess, hdefinitions]
              cases hbody : refresher.definitionsOf response.body with
              | ok definitions => exact .applied hurl hanswer hsuccess hbody
              | error error => exact .rejected hurl hanswer hsuccess hbody

/-! ## What the host is told -/

/-- What an activity reports to the host, and whether that is about something remote. -/
def report? : Activity → Option (Except Error Unit × Bool)
  | .reported outcome isRemote => some (outcome, isRemote)
  | _ => none

/-- The reports among some activities. -/
def reports (activities : List Activity) : List (Except Error Unit × Bool) :=
  activities.filterMap report?

/-- **When a refresh reports its outcome.**  A refresh makes a single report, which tells its own
result as that of something remote, exactly if the context has an endpoint and the server does
not answer "not modified"; otherwise it makes no report at all. -/
theorem reports_refresh_iff (server : Request → Except Error Response) :
    (reports (refresher.refresh server).activities = [((refresher.refresh server).result, true)] ↔
      ∃ url, refresher.contexts.current.featuresUrl = .ok url ∧
        ∀ response, server (refresher.requestFor url) = .ok response → response.status ≠ 304) ∧
    (reports (refresher.refresh server).activities = [((refresher.refresh server).result, true)] ∨
      reports (refresher.refresh server).activities = []) := by
  have hdone := refresher.refreshed server
  -- without an endpoint or a change there is nothing to report; all other endings report
  generalize refresher.refresh server = done at hdone
  cases hdone with
  | nowhere hurl =>
      refine ⟨iff_of_false nofun ?_, Or.inr rfl⟩
      rintro ⟨url, hok, -⟩
      cases hurl.symm.trans hok
  | @refused url error hurl hanswer =>
      refine ⟨iff_of_true rfl ⟨url, hurl, ?_⟩, Or.inl rfl⟩
      intro response hresponse hstatus
      rw [hresponse] at hanswer
      cases (FetchOutcome.ofResponse_eq_notModified_iff.mpr hstatus).symm.trans hanswer
  | unmodified hurl hanswer =>
      refine ⟨iff_of_false nofun ?_, Or.inr rfl⟩
      rintro ⟨other, hother, hne⟩
      cases hurl.symm.trans hother
      obtain ⟨response, hresponse, hstatus⟩ := FetchOutcome.response_of_notModified hanswer
      exact hne response hresponse hstatus
  | @rejected url response error hurl hanswer hsuccess hbody =>
      refine ⟨iff_of_true rfl ⟨url, hurl, ?_⟩, Or.inl rfl⟩
      intro other hother
      cases hanswer.symm.trans hother
      exact Response.status_ne_of_isSuccess hsuccess
  | @applied url response definitions hurl hanswer hsuccess hbody =>
      refine ⟨iff_of_true rfl ⟨url, hurl, ?_⟩, Or.inl rfl⟩
      intro other hother
      cases hanswer.symm.trans hother
      exact Response.status_ne_of_isSuccess hsuccess

/-- Without a host there is no endpoint, and that failure is not reported; nor is the success of
a refresh that is answered "not modified". -/
theorem unreported_refreshes :
    let server : Request → Except Error Response := fun _ => .ok ⟨304, [], []⟩
    let astray : Refresher := { contexts := ⟨{ apiKey := "k", hostUrl := "" }⟩ }
    let current : Refresher := { contexts := ⟨{ apiKey := "k", hostUrl := "http://[::1]" }⟩ }
    ((astray.refresh server).result = .error (.invalidHostUrl .relativeWithoutBase) ∧
      reports (astray.refresh server).activities = []) ∧
    ((current.refresh server).result = .ok () ∧
      reports (current.refresh server).activities = []) := by
  intro server astray current
  have hok : (current.refresh server).result.toBool = true := by decide +kernel
  refine ⟨⟨rfl, by decide +kernel⟩, ?_, by decide +kernel⟩
  cases hresult : (current.refresh server).result with
  | ok _ => rfl
  | error _ =>
      rw [hresult] at hok
      cases hok

end Refresher

end FeatureFlags
