import FeatureFlags.Proofs.Refresher.Moves

/-!
# What leaves the remembered tags alone

Only two things touch the cache of tags: making a request, which reads it, and taking in
a response whose definitions have been applied (`Refresher.tags_endRefresh`).  Applying a
payload by itself, from whatever source, leaves the cache as it is, and so does every
move of a stream (`Supervisor.tags_step`).
-/

namespace FeatureFlags

/-- The tag of a URL that is not cacheable makes no difference. -/
theorem TagCache.remember_of_cacheable (cache : TagCache) (url : Url) (tag : Option String) :
    cache.remember url (if FetchOutcome.isCacheable url.write then tag else none) =
      cache.remember url tag := by
  unfold remember
  split <;> rfl

/-- The server has carried a request out. -/
def Response.isSuccess (response : Response) : Bool :=
  200 ≤ response.status && response.status ≤ 299

theorem FetchOutcome.ofResponse_of_isSuccess {response : Response}
    (hsuccess : response.isSuccess = true) (url : Url) :
    ofResponse url response =
      .ok (.fetched response.body
        (if isCacheable url.write then response.header "etag" else none)) :=
  if_pos hsuccess

theorem FetchOutcome.ofResponse_of_not_isSuccess {response : Response}
    (hsuccess : response.isSuccess = false) (url : Url) :
    ofResponse url response = .ok .notModified ∨
      ∃ error, ofResponse url response = .error error := by
  rw [ofResponse]
  rw [Response.isSuccess] at hsuccess
  rw [if_neg (Bool.eq_false_iff.mp hsuccess)]
  split
  · exact Or.inl rfl
  · split <;> exact Or.inr ⟨_, rfl⟩

namespace Refresher

variable (refresher : Refresher)

theorem tags_keepSnapshot (body : Text.Utf8.Bytes) :
    (refresher.keepSnapshot body).tags = refresher.tags := by
  unfold keepSnapshot
  split
  · split <;> rfl
  · rfl

theorem tags_apply (body : Text.Utf8.Bytes) (isRemote : Bool) :
    (refresher.apply body isRemote).refresher.tags = refresher.tags := by
  unfold apply
  split
  · cases isRemote with
    | false => rfl
    | true => exact tags_keepSnapshot _ body
  · rfl

/-- Applying a payload succeeds if and only if it has definitions. -/
theorem result_apply (body : Text.Utf8.Bytes) (isRemote : Bool) :
    (refresher.apply body isRemote).result = (refresher.definitionsOf body).map fun _ => () := by
  unfold apply
  cases refresher.definitionsOf body <;> rfl

theorem tags_loadCached : refresher.loadCached.refresher.tags = refresher.tags := by
  unfold loadCached
  split
  · rfl
  · exact refresher.tags_apply _ false

theorem tags_receive (event : StreamEvent) :
    (refresher.receive event).refresher.tags = refresher.tags := by
  unfold receive
  split
  · exact refresher.tags_apply _ true
  · rfl

theorem tags_receiveAll (events : List StreamEvent) :
    (refresher.receiveAll events).refresher.tags = refresher.tags := by
  induction events generalizing refresher with
  | nil => rfl
  | cons event rest ih => exact (ih _).trans (refresher.tags_receive event)

/-- The response whose definitions an answer puts into effect, if it does: a success whose
body can be decoded and, where that is needed, decrypted. -/
def applied? : Except Error Response → Option Response
  | .ok response =>
    if response.isSuccess && (refresher.definitionsOf response.body).isOk then some response
    else none
  | .error _ => none

/-- Taking in an answer remembers the tag of the response that it applies, if any. -/
theorem tags_endRefresh (url : Url) (answer : Except Error Response) :
    (refresher.endRefresh url answer).refresher.tags =
      match refresher.applied? answer with
      | some response => refresher.tags.remember url (response.header "etag")
      | none => refresher.tags := by
  cases answer with
  | error error => rfl
  | ok response =>
      unfold endRefresh applied?
      dsimp only [Except.bind]
      cases hsuccess : response.isSuccess with
      | true =>
          rw [FetchOutcome.ofResponse_of_isSuccess hsuccess]
          -- the tag is kept only once the body has been applied
          have hresult := refresher.result_apply response.body true
          dsimp only
          rw [hresult]
          cases refresher.definitionsOf response.body with
          | ok definitions =>
              change (refresher.apply response.body true).refresher.tags.remember url _ = _
              rw [refresher.tags_apply]
              exact refresher.tags.remember_of_cacheable url _
          | error error => exact refresher.tags_apply response.body true
      | false =>
          rcases FetchOutcome.ofResponse_of_not_isSuccess hsuccess url with h | ⟨error, h⟩ <;>
            rw [h] <;> rfl

end Refresher

namespace StreamTask

variable (task : StreamTask) (refresher : Refresher)

theorem tags_retry : (task.retry refresher).refresher.tags = refresher.tags := by
  unfold retry
  split <;> rfl

theorem tags_fail (error : Error) :
    (task.fail refresher error).refresher.tags = refresher.tags := by
  unfold fail
  split
  · rfl
  · exact task.tags_retry refresher

theorem tags_begin : (task.begin refresher).refresher.tags = refresher.tags := by
  unfold begin
  split <;> rfl

theorem tags_resume (signal : StreamSignal) :
    (task.resume refresher signal).refresher.tags = refresher.tags := by
  unfold resume
  split
  · rfl
  · exact task.tags_begin refresher
  · exact task.tags_begin refresher
  · rfl
  · exact task.tags_fail refresher _
  · exact task.tags_fail refresher _
  · exact refresher.tags_receiveAll _
  · exact (task.tags_fail _ .streamClosed).trans (refresher.tags_receiveAll _)
  · rfl

end StreamTask

namespace Supervisor

variable (supervisor : Supervisor)

/-- No move of a stream, or of a call that starts or stops one, touches the tags. -/
theorem tags_step (move : Move) :
    (supervisor.step move).1.refresher.tags = supervisor.refresher.tags := by
  have hstep := supervisor.stepped move
  generalize (supervisor.step move).1 = next, (supervisor.step move).2 = activities at hstep ⊢
  cases hstep with
  | @continued _ signal task => exact task.tags_resume supervisor.refresher signal
  | @ended _ signal task => exact task.tags_resume supervisor.refresher signal
  | _ => rfl

end Supervisor

end FeatureFlags
