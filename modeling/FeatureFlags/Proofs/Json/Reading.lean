import FeatureFlags.Proofs.Dictionary.Traversal
import FeatureFlags.Proofs.Json.Numerals

/-!
# What is kept while a text is read

The reader puts drafts together from the inside out: a container is closed when everything in it
has been read.  So a property of drafts that a container has as soon as everything in it has it
(`Invariant`) is one of everything on the reader's stack, and of the draft that is left at the
end, provided that every token has it (`Invariant.holds_of_run`).  Since containers are refused
at some depth, the property may speak of the number of containers around a draft; what stands on
the stack above `depth` frames is inside that many.

Where something is malformed the reader goes on.  A property that malformed drafts do not have is
kept by the texts in which no string is malformed and which keep to the limit on nesting.  How
deeply a text is nested is said about its tokens: at no point have more than a number of
containers been opened that are not closed yet (`Token.NestsWithin`).
-/

namespace FeatureFlags.Json

open Text.Utf8 (Bytes)

/-! ## Depth -/

namespace Token

def isOpening : Token → Bool
  | openArray => true
  | openObject => true
  | _ => false

def isClosing : Token → Bool
  | closeArray => true
  | closeObject => true
  | _ => false

/-- At no point have more than `limit` containers been opened that are not closed yet. -/
def NestsWithin (limit : Nat) (tokens : List Token) : Prop :=
  ∀ front ∈ tokens.inits, front.countP isOpening ≤ front.countP isClosing + limit

instance (limit : Nat) (tokens : List Token) : Decidable (NestsWithin limit tokens) :=
  inferInstanceAs (Decidable (∀ front ∈ tokens.inits, _))

/-- Behind a token there are as many containers open as before, one more, or one less. -/
theorem nestsWithin_of_cons {depth after limit : Nat} {token : Token} {rest : List Token}
    (hnests : ∀ front ∈ (token :: rest).inits,
      depth + front.countP isOpening ≤ front.countP isClosing + limit)
    (hafter : after + (if isClosing token then 1 else 0) =
      depth + (if isOpening token then 1 else 0)) :
    ∀ front ∈ rest.inits, after + front.countP isOpening ≤ front.countP isClosing + limit := by
  intro front hfront
  have hmem : token :: front ∈ (token :: rest).inits := by
    rw [List.mem_inits] at hfront ⊢
    exact List.cons_prefix_cons.mpr ⟨rfl, hfront⟩
  have hwhole := hnests _ hmem
  rw [List.countP_cons, List.countP_cons] at hwhole
  omega

end Token

/-- The text keeps to a limit on nesting. -/
def Nests (limit : Nat) (text : Bytes) : Prop :=
  ∃ tokens ∈ Token.ofBytes? text, Token.NestsWithin limit tokens

instance (limit : Nat) (text : Bytes) : Decidable (Nests limit text) :=
  inferInstanceAs (Decidable (∃ tokens ∈ Token.ofBytes? text, _))

namespace Progress

open Token (isOpening isClosing)

variable {stack : List Frame} {progress next : Progress} {token : Token}

/-- The number of containers that are open. -/
def depth : Progress → Nat
  | reading stack _ => stack.length
  | finished _ => 0

theorem depth_of_supply {draft : Draft} (h : supply stack draft = some next) :
    next.depth = stack.length := by
  unfold supply at h
  split at h <;> cases h <;> rfl

/-- A token opens a container, closes one, or leaves their number as it is. -/
theorem depth_of_step (h : progress.step token = some next) :
    next.depth + (if isClosing token then 1 else 0) =
      progress.depth + (if isOpening token then 1 else 0) := by
  -- whatever begins a value opens a container or supplies a draft where it stands
  have hbegin {stack : List Frame} {token : Token} (h : beginValue stack token = some next) :
      next.depth + (if isClosing token then 1 else 0) =
        stack.length + (if isOpening token then 1 else 0) := by
    unfold beginValue at h
    split at h
    · rw [depth_of_supply h]; rfl
    · rw [depth_of_supply h]; rfl
    · rw [depth_of_supply h]; rfl
    · cases h; rfl
    · cases h; rfl
    · cases h
  have hcloseArray {stack : List Frame} (h : closeArray stack = some next) :
      next.depth + 1 = stack.length := by
    unfold closeArray at h
    split at h
    · rw [depth_of_supply h]; rfl
    · cases h
  have hcloseObject {stack : List Frame} (h : closeObject stack = some next) :
      next.depth + 1 = stack.length := by
    unfold closeObject at h
    split at h
    · rw [depth_of_supply h]; rfl
    · cases h
  unfold step at h
  split at h
  · exact hbegin h
  · exact hcloseArray h
  · exact hbegin h
  · unfold beginMember at h
    split at h <;> cases h
    rfl
  · unfold beginMember at h
    split at h <;> cases h
    rfl
  · exact hcloseObject h
  · cases h; rfl
  · unfold afterComma at h
    split at h <;> cases h <;> rfl
  · exact hcloseArray h
  · exact hcloseObject h
  · cases h

end Progress

/-! ## Invariants -/

/-- A property of drafts inside so many containers that follows from that of their parts. -/
structure Invariant where
  Holds : Nat → Draft → Prop
  null : ∀ depth, Holds depth .null
  bool : ∀ depth b, Holds depth (.bool b)
  string : ∀ depth content, Holds depth (.string content)
  array : ∀ {depth items}, depth < depthLimit → (∀ item ∈ items, Holds (depth + 1) item) →
    Holds depth (.array items)
  object : ∀ {depth members}, depth < depthLimit →
    (∀ member ∈ members, Holds (depth + 1) member.2) → Holds depth (.object members)

namespace Invariant

variable (I : Invariant)

/-- Malformed drafts have the property too. -/
def ToleratesMalformed : Prop := ∀ depth, I.Holds depth .malformed

/-- The value of a token has the property anywhere. -/
def OfToken : Token → Prop
  | .scalar draft => ∀ depth, I.Holds depth draft
  | .string content => content = none → I.ToleratesMalformed
  | _ => True

def OfMember (depth : Nat) (member : Option String × Draft) : Prop :=
  (member.1 = none → I.ToleratesMalformed) ∧ I.Holds depth member.2

/-- What a container holds so far stands inside `depth` containers. -/
def OfFrame (depth : Nat) : Frame → Prop
  | .array items => ∀ item ∈ items, I.Holds depth item
  | .object members => ∀ member ∈ members, I.OfMember depth member
  | .member members name =>
    (name = none → I.ToleratesMalformed) ∧ ∀ member ∈ members, I.OfMember depth member

def OfStack : List Frame → Prop
  | [] => True
  | frame :: rest => I.OfFrame (rest.length + 1) frame ∧ OfStack rest

def OfProgress : Progress → Prop
  | .reading stack _ => I.OfStack stack
  | .finished draft => I.Holds 0 draft

variable {I} {stack : List Frame} {progress next : Progress} {token : Token}

/-! ### Steps -/

theorem ofProgress_of_supply (hstack : I.OfStack stack) {draft : Draft}
    (hdraft : I.Holds stack.length draft) (h : Progress.supply stack draft = some next) :
    I.OfProgress next := by
  cases stack with
  | nil => cases h; exact hdraft
  | cons frame rest =>
      obtain ⟨hframe, hrest⟩ := hstack
      cases frame with
      | array items => cases h; exact ⟨List.forall_mem_cons.mpr ⟨hdraft, hframe⟩, hrest⟩
      | member members name =>
          cases h
          obtain ⟨hname, hmembers⟩ := hframe
          exact ⟨List.forall_mem_cons.mpr ⟨⟨hname, hdraft⟩, hmembers⟩, hrest⟩
      | object members => cases h

theorem ofProgress_of_beginValue (hstack : I.OfStack stack) (htoken : I.OfToken token)
    (h : Progress.beginValue stack token = some next) : I.OfProgress next := by
  unfold Progress.beginValue at h
  split at h
  · exact ofProgress_of_supply hstack (htoken _) h
  · exact ofProgress_of_supply hstack (I.string ..) h
  · exact ofProgress_of_supply hstack (htoken rfl _) h
  · cases h; exact ⟨nofun, hstack⟩
  · cases h; exact ⟨nofun, hstack⟩
  · cases h

/-- A closed container has been checked for the number of containers around it. -/
theorem holds_limitDepth {depth : Nat} {draft : Draft}
    (hdepth : depth < depthLimit ∨ I.ToleratesMalformed)
    (hdraft : depth < depthLimit → I.Holds depth draft) :
    I.Holds depth (limitDepth depth draft) := by
  unfold limitDepth
  split
  · rename_i hlow
    exact hdraft hlow
  · rename_i hdeep
    exact hdepth.resolve_left hdeep depth

theorem holds_closeMembers {depth : Nat} (hdepth : depth < depthLimit)
    {members : List (Option String × Draft)}
    (hmembers : ∀ member ∈ members, I.OfMember (depth + 1) member) :
    I.Holds depth (closeMembers members) := by
  unfold closeMembers
  split
  · rename_i named hnamed
    refine I.object hdepth fun member hmember => ?_
    obtain ⟨read, hread, hname⟩ := List.exists_of_mem_mapM hnamed hmember
    obtain ⟨name, -, rfl⟩ := Option.map_eq_some_iff.mp hname
    exact (hmembers read (List.mem_reverse.mp hread)).2
  · rename_i hfailed
    obtain ⟨read, hread, hname⟩ := List.exists_of_mapM_eq_none hfailed
    exact (hmembers read (List.mem_reverse.mp hread)).1 (Option.map_eq_none_iff.mp hname) depth

theorem ofProgress_of_closeArray (hdepth : stack.length ≤ depthLimit ∨ I.ToleratesMalformed)
    (hstack : I.OfStack stack) (h : Progress.closeArray stack = some next) :
    I.OfProgress next := by
  unfold Progress.closeArray at h
  split at h
  · rename_i items rest
    obtain ⟨hitems, hrest⟩ := hstack
    have hclosed : rest.length < depthLimit → I.Holds rest.length (.array items.reverse) :=
      fun hlow => I.array hlow fun item hitem => hitems item (List.mem_reverse.mp hitem)
    exact ofProgress_of_supply hrest (holds_limitDepth hdepth hclosed) h
  · cases h

theorem ofProgress_of_closeObject (hdepth : stack.length ≤ depthLimit ∨ I.ToleratesMalformed)
    (hstack : I.OfStack stack) (h : Progress.closeObject stack = some next) :
    I.OfProgress next := by
  unfold Progress.closeObject at h
  split at h
  · obtain ⟨hmembers, hrest⟩ := hstack
    have hclosed := holds_limitDepth hdepth fun hlow => holds_closeMembers hlow hmembers
    exact ofProgress_of_supply hrest hclosed h
  · cases h

theorem ofProgress_of_beginMember (hstack : I.OfStack stack) {name : Option String}
    (hname : name = none → I.ToleratesMalformed)
    (h : Progress.beginMember stack name = some next) : I.OfProgress next := by
  unfold Progress.beginMember at h
  split at h <;> cases h
  obtain ⟨hmembers, hrest⟩ := hstack
  exact ⟨⟨hname, hmembers⟩, hrest⟩

theorem ofProgress_of_afterComma (hstack : I.OfStack stack)
    (h : Progress.afterComma stack = some next) : I.OfProgress next := by
  unfold Progress.afterComma at h
  split at h <;> cases h <;> exact hstack

/-- **A token that has the property leaves a state that has it.** -/
theorem ofProgress_of_step (hprogress : I.OfProgress progress) (htoken : I.OfToken token)
    (hdepth : progress.depth ≤ depthLimit ∨ I.ToleratesMalformed)
    (h : progress.step token = some next) : I.OfProgress next := by
  unfold Progress.step at h
  split at h
  · exact ofProgress_of_beginValue hprogress htoken h
  · exact ofProgress_of_closeArray hdepth hprogress h
  · exact ofProgress_of_beginValue hprogress htoken h
  · exact ofProgress_of_beginMember hprogress htoken h
  · exact ofProgress_of_beginMember hprogress htoken h
  · exact ofProgress_of_closeObject hdepth hprogress h
  · cases h; exact hprogress
  · exact ofProgress_of_afterComma hprogress h
  · exact ofProgress_of_closeArray hdepth hprogress h
  · exact ofProgress_of_closeObject hdepth hprogress h
  · cases h

theorem ofProgress_of_run {tokens : List Token} (hprogress : I.OfProgress progress)
    (htokens : ∀ token ∈ tokens, I.OfToken token)
    (hnests : (∀ front ∈ tokens.inits, progress.depth + front.countP Token.isOpening ≤
      front.countP Token.isClosing + depthLimit) ∨ I.ToleratesMalformed)
    (h : progress.run tokens = some next) : I.OfProgress next := by
  induction tokens generalizing progress with
  | nil => cases h; exact hprogress
  | cons token rest ih =>
      obtain ⟨between, hstep, hrest⟩ := Option.bind_eq_some_iff.mp h
      obtain ⟨htoken, hlater⟩ := List.forall_mem_cons.mp htokens
      have hdepth : progress.depth ≤ depthLimit ∨ I.ToleratesMalformed :=
        hnests.imp_left fun hopen => by simpa using hopen [] (by simp)
      have hbetween := ofProgress_of_step hprogress htoken hdepth hstep
      have hopen := hnests.imp_left fun hopen =>
        Token.nestsWithin_of_cons hopen (Progress.depth_of_step hstep)
      exact ih hbetween hlater hopen hrest

/-! ### Tokens -/

/-- The property holds of whatever stands for a number, in range or not. -/
def OfNumbers (I : Invariant) : Prop := ∀ numeral, I.OfToken (.ofNumeral numeral)

theorem ofNumbers_of (hmalformed : I.ToleratesMalformed)
    (hintegers : ∀ n, IsWord64 n → ∀ depth, I.Holds depth (.integer n))
    (hfloats : ∀ (numeral : Numeral) (x), numeral.toFloat? = some x →
      ∀ depth, I.Holds depth (.float x)) : I.OfNumbers := by
  intro numeral depth
  unfold Numeral.toJson?
  cases hinteger : numeral.toInteger? with
  | some n => exact hintegers n (numeral.isWord64_of_toInteger? hinteger) depth
  | none =>
      cases hfloat : numeral.toFloat? with
      | some x => exact hfloats numeral x hfloat depth
      | none => exact hmalformed depth

theorem ofToken_of_scanWord {word : String} {value : Draft} {text rest : Bytes}
    (hvalue : ∀ depth, I.Holds depth value)
    (h : Token.scanWord word value text = some (token, rest)) : I.OfToken token := by
  unfold Token.scanWord at h
  dsimp only at h
  split at h <;> cases h
  exact hvalue

theorem ofToken_of_scanNumeral (hnumbers : I.OfNumbers) {negative : Bool} {text rest : Bytes}
    (h : (Token.scanNumeral negative text).map
      (fun (numeral, after) => (Token.ofNumeral numeral, after)) = some (token, rest)) :
    I.OfToken token := by
  obtain ⟨⟨numeral, after⟩, -, heq⟩ := Option.map_eq_some_iff.mp h
  cases heq
  exact hnumbers numeral

theorem ofToken_of_scan (hmalformed : I.ToleratesMalformed) (hnumbers : I.OfNumbers) {b : UInt8}
    {text rest : Bytes} (h : Token.scan b text = some (token, rest)) : I.OfToken token := by
  unfold Token.scan at h
  split at h
  · cases h; exact trivial
  · cases h; exact trivial
  · cases h; exact trivial
  · cases h; exact trivial
  · cases h; exact trivial
  · cases h; exact trivial
  · obtain ⟨_, -, heq⟩ := Option.map_eq_some_iff.mp h
    cases heq
    exact fun _ => hmalformed
  · exact ofToken_of_scanWord I.null h
  · exact ofToken_of_scanWord (fun depth => I.bool depth true) h
  · exact ofToken_of_scanWord (fun depth => I.bool depth false) h
  · exact ofToken_of_scanNumeral hnumbers h
  · exact ofToken_of_scanNumeral hnumbers h

theorem ofToken_of_scanAll (hmalformed : I.ToleratesMalformed) (hnumbers : I.OfNumbers)
    {budget : Nat} {text : Bytes} {tokens : List Token}
    (h : Token.scanAll budget text = some tokens) : ∀ token ∈ tokens, I.OfToken token := by
  fun_induction Token.scanAll budget text generalizing tokens with
  | case1 => cases h; exact nofun
  | case2 => cases h
  | case3 budget b rest hspace ih => exact ih h
  | case4 budget b rest hspace token after hscan ih =>
      obtain ⟨later, hlater, rfl⟩ := Option.map_eq_some_iff.mp h
      have hfirst := ofToken_of_scan hmalformed hnumbers hscan
      exact List.forall_mem_cons.mpr ⟨hfirst, ih hlater⟩
  | case5 => cases h

end Invariant

/-! ## Texts -/

/-- The tokens of a text, and that they are those of a draft. -/
theorem Draft.ofBytes?_eq_some_iff {text : Bytes} {draft : Draft} :
    Draft.ofBytes? text = some draft ↔ ∃ tokens, Token.ofBytes? text = some tokens ∧
      Progress.start.run tokens = some (.finished draft) := by
  simp only [Draft.ofBytes?, Option.bind_eq_bind, Option.bind_eq_some_iff]
  constructor
  · rintro ⟨tokens, htokens, progress, hprogress, hresult⟩
    cases progress with
    | reading stack expectation => cases hresult
    | finished result =>
        cases hresult
        exact ⟨tokens, htokens, hprogress⟩
  · rintro ⟨tokens, htokens, hprogress⟩
    exact ⟨tokens, htokens, .finished draft, hprogress, rfl⟩

namespace Invariant

variable {I : Invariant} {draft : Draft}

/-- **What holds of the tokens of a text holds of its draft.** -/
theorem holds_of_run {tokens : List Token} (htokens : ∀ token ∈ tokens, I.OfToken token)
    (hnests : Token.NestsWithin depthLimit tokens ∨ I.ToleratesMalformed)
    (h : Progress.start.run tokens = some (.finished draft)) : I.Holds 0 draft := by
  have hstart : I.OfProgress Progress.start := trivial
  have hopen := hnests.imp_left fun hnests front hfront =>
    (Nat.zero_add (front.countP Token.isOpening)).le.trans (hnests front hfront)
  exact ofProgress_of_run hstart htokens hopen h

/-- **A property that malformed drafts have, and all numbers, holds of whatever is read.** -/
theorem holds_of_ofBytes? (hmalformed : I.ToleratesMalformed) (hnumbers : I.OfNumbers)
    {text : Bytes} (h : Draft.ofBytes? text = some draft) : I.Holds 0 draft := by
  obtain ⟨tokens, htokens, hrun⟩ := Draft.ofBytes?_eq_some_iff.mp h
  exact holds_of_run (ofToken_of_scanAll hmalformed hnumbers htokens) (.inr hmalformed) hrun

end Invariant

end FeatureFlags.Json
