import FeatureFlags.Proofs.Json.Settling

/-!
# Texts inside texts

Two things follow for a text that keeps to the limit on nesting.  If none of its strings and
numbers is malformed, then nothing of its draft is (`settles_of_ofBytes?`).  And the same
draft is read off the text when it stands inside another text: its tokens are the same
there (`Token.scanAll_append`), and with frames of the other text below it the reader does
what it does without them (`Progress.run_within`).  Frames below it are looked at in one
place only, where a container is closed and the frames below are counted, and the limit
on nesting is there to make this no difference.
-/

namespace FeatureFlags.Json

open Text Text.Utf8

/-! ## A reader with frames below it -/

namespace Progress

open Token (isOpening isClosing)

variable {stack base : List Frame} {expectation : Expectation} {next : Progress} {token : Token}

/-- What a state of the reader becomes where frames of another text are below it. -/
def within (base : List Frame) : Progress → Option Progress
  | reading stack expectation => some (reading (stack ++ base) expectation)
  | finished draft => supply base draft

theorem supply_append (base : List Frame) {draft : Draft} (h : supply stack draft = some next) :
    supply (stack ++ base) draft = next.within base := by
  cases stack with
  | nil => cases h; rfl
  | cons frame rest => cases frame <;> cases h <;> rfl

theorem limitDepth_append {stack : List Frame} {frame : Frame}
    (hdepth : (frame :: stack).length + base.length ≤ depthLimit) (draft : Draft) :
    limitDepth (stack ++ base).length draft = limitDepth stack.length draft := by
  rw [List.length_cons] at hdepth
  have hinner : stack.length < depthLimit := by omega
  have houter : (stack ++ base).length < depthLimit := by
    rw [List.length_append]
    omega
  rw [limitDepth, limitDepth, if_pos hinner, if_pos houter]

theorem closeArray_append (hdepth : stack.length + base.length ≤ depthLimit)
    (h : closeArray stack = some next) : closeArray (stack ++ base) = next.within base := by
  unfold closeArray at h
  split at h
  · rw [List.cons_append, closeArray, limitDepth_append hdepth]
    exact supply_append base h
  · cases h

theorem closeObject_append (hdepth : stack.length + base.length ≤ depthLimit)
    (h : closeObject stack = some next) : closeObject (stack ++ base) = next.within base := by
  unfold closeObject at h
  split at h
  · rw [List.cons_append, closeObject, limitDepth_append hdepth]
    exact supply_append base h
  · cases h

theorem beginValue_append (base : List Frame) (h : beginValue stack token = some next) :
    beginValue (stack ++ base) token = next.within base := by
  unfold beginValue at h
  split at h
  · exact supply_append base h
  · exact supply_append base h
  · exact supply_append base h
  · cases h; rfl
  · cases h; rfl
  · cases h

theorem beginMember_append (base : List Frame) {name : Option String}
    (h : beginMember stack name = some next) :
    beginMember (stack ++ base) name = next.within base := by
  unfold beginMember at h
  split at h <;> cases h
  rfl

theorem afterComma_append (base : List Frame) (h : afterComma stack = some next) :
    afterComma (stack ++ base) = next.within base := by
  unfold afterComma at h
  split at h <;> cases h <;> rfl

/-- **A token does with frames below it what it does without them.** -/
theorem step_append (hdepth : stack.length + base.length ≤ depthLimit)
    (h : (reading stack expectation).step token = some next) :
    (reading (stack ++ base) expectation).step token = next.within base := by
  cases expectation with
  | value => exact beginValue_append base h
  | valueOrEnd =>
      -- the array just opened is closed at once, or a value begins
      by_cases htoken : token = .closeArray
      · subst htoken
        exact closeArray_append hdepth h
      · rw [step_valueOrEnd htoken] at h ⊢
        exact beginValue_append base h
  | name =>
      cases token with
      | string name => exact beginMember_append base h
      | _ => cases h
  | nameOrEnd =>
      cases token with
      | string name => exact beginMember_append base h
      | closeObject => exact closeObject_append hdepth h
      | _ => cases h
  | colon =>
      cases token with
      | colon => cases h; rfl
      | _ => cases h
  | separator =>
      cases token with
      | comma => exact afterComma_append base h
      | closeArray => exact closeArray_append hdepth h
      | closeObject => exact closeObject_append hdepth h
      | _ => cases h

/-- Nothing comes behind a complete text. -/
theorem eq_nil_of_run_finished {draft : Draft} {tokens : List Token}
    (h : (finished draft).run tokens = some next) : tokens = [] ∧ next = finished draft := by
  cases tokens with
  | nil => cases h; exact ⟨rfl, rfl⟩
  | cons token rest =>
      rw [run_cons] at h
      cases h

/-- **A text that is complete by itself is one value where it stands inside another.** -/
theorem run_within {tokens : List Token} {draft : Draft}
    (hrun : (reading stack expectation).run tokens = some (finished draft))
    (hnests : ∀ front ∈ tokens.inits, stack.length + base.length + front.countP isOpening ≤
      front.countP isClosing + depthLimit) (more : List Token) :
    (reading (stack ++ base) expectation).run (tokens ++ more) =
      (supply base draft).bind fun next => next.run more := by
  induction tokens generalizing stack expectation with
  | nil => cases hrun
  | cons token rest ih =>
      rw [run_cons] at hrun
      obtain ⟨next, hstep, hrest⟩ := Option.bind_eq_some_iff.mp hrun
      have hdepth : stack.length + base.length ≤ depthLimit := by
        have hnow := hnests [] (by simp)
        simpa using hnow
      rw [List.cons_append, run_cons, step_append hdepth hstep]
      cases next with
      | finished result =>
          -- the token was the last one
          obtain ⟨rfl, hresult⟩ := eq_nil_of_run_finished hrest
          cases hresult
          rfl
      | reading after expectation =>
          have hlength := depth_of_step hstep
          dsimp only [depth] at hlength
          have hafter : after.length + base.length + (if isClosing token then 1 else 0) =
              stack.length + base.length + (if isOpening token then 1 else 0) := by omega
          have hlater := Token.nestsWithin_of_cons hnests hafter
          exact ih hrest hlater

/-- **A member of an object, read off a text of its own.** -/
theorem run_member {tokens : List Token} {draft : Draft}
    (hrun : start.run tokens = some (finished draft)) {e : Expectation}
    (he : e = .name ∨ e = .nameOrEnd) (read : List (Option String × Draft)) (stack : List Frame)
    (hnests : Token.NestsWithin (depthLimit - (stack.length + 1)) tokens)
    (hdepth : stack.length < depthLimit) (name : String) (more : List Token) :
    (reading (.object read :: stack) e).run (.string (some name) :: .colon :: (tokens ++ more)) =
      (reading (.object ((some name, draft) :: read) :: stack) .separator).run more := by
  have hlimit : ∀ front ∈ tokens.inits,
      0 + (Frame.member read (some name) :: stack).length + front.countP Token.isOpening ≤
        front.countP Token.isClosing + depthLimit := by
    intro front hfront
    have hopen := hnests front hfront
    rw [List.length_cons]
    omega
  have hvalue := run_within hrun hlimit more
  rw [run_name he]
  exact hvalue

end Progress

/-! ## The tokens of a text inside another -/

namespace Token

/-- A larger budget is as good. -/
theorem scanAll_of_le {budget more : Nat} {text : Bytes} {tokens : List Token}
    (h : scanAll budget text = some tokens) (hle : budget ≤ more) :
    scanAll more text = some tokens := by
  fun_induction scanAll budget text generalizing tokens more with
  | case1 => cases more <;> exact h
  | case2 => cases h
  | case3 budget b rest hspace ih =>
      obtain ⟨more, rfl⟩ : ∃ n, more = n + 1 := ⟨more - 1, by omega⟩
      rw [scanAll, if_pos hspace]
      exact ih h (by omega)
  | case4 budget b rest hspace token after hscan ih =>
      obtain ⟨more, rfl⟩ : ∃ n, more = n + 1 := ⟨more - 1, by omega⟩
      obtain ⟨later, hlater, rfl⟩ := Option.map_eq_some_iff.mp h
      rw [scanAll, if_neg hspace, hscan]
      simp only [ih hlater (show budget ≤ more by omega), Option.map_some]
  | case5 => cases h

theorem scanString_append {text raw after : Bytes} (more : Bytes)
    (h : scanString text = some (raw, after)) :
    scanString (text ++ more) = some (raw, after ++ more) := by
  -- 2 is the closing quote, 3 and 6 are escapes, 10 is an ordinary byte; else nothing is read
  fun_induction scanString text generalizing raw after with
  | case2 rest =>
      cases h
      rw [List.cons_append, scanString.eq_def]
      simp
  | case3 h₁ h₂ h₃ h₄ rest hhex hquote ih =>
      obtain ⟨⟨inner, behind⟩, hinner, heq⟩ := Option.map_eq_some_iff.mp h
      cases heq
      simp only [List.cons_append]
      rw [scanString.eq_def]
      simp only [if_neg hquote, if_pos, if_pos hhex, ih hinner, Option.map_some]
  | case6 e rest hletter hescape hquote ih =>
      obtain ⟨⟨inner, behind⟩, hinner, heq⟩ := Option.map_eq_some_iff.mp h
      cases heq
      simp only [List.cons_append]
      rw [scanString.eq_def]
      simp only [if_neg hquote, if_pos, if_neg hletter, if_pos hescape, ih hinner, Option.map_some]
  | case10 b rest hquote hbackslash hcontrol ih =>
      obtain ⟨⟨inner, behind⟩, hinner, heq⟩ := Option.map_eq_some_iff.mp h
      cases heq
      rw [List.cons_append, scanString.eq_def]
      simp only [if_neg hquote, if_neg hbackslash, if_neg hcontrol, ih hinner, Option.map_some]
  | _ => cases h

theorem scanWord_append {word : String} {value : Draft} {text after : Bytes} {token : Token}
    (more : Bytes) (h : scanWord word value text = some (token, after)) :
    scanWord word value (text ++ more) = some (token, after ++ more) := by
  unfold scanWord at h ⊢
  dsimp only at h ⊢
  split at h
  · rename_i hword
    cases h
    obtain ⟨rest, rfl⟩ := List.isPrefixOf_iff_prefix.mp hword
    have hlonger := List.isPrefixOf_iff_prefix.mpr
      (List.prefix_append ((word.toList.drop 1).map ascii) (rest ++ more))
    rw [List.append_assoc, if_pos hlonger, List.drop_left, List.drop_left]
  · cases h

/-- A token is read the same whatever follows it, unless that goes on a numeral. -/
theorem scan_followed {b : UInt8} {rest after more : Bytes} {token : Token}
    (h : scan b rest = some (token, after)) (hmore : EndsNumeral more) :
    scan b (rest ++ more) = some (token, after ++ more) := by
  unfold scan at h ⊢
  split at h
  · cases h; rfl
  · cases h; rfl
  · cases h; rfl
  · cases h; rfl
  · cases h; rfl
  · cases h; rfl
  · obtain ⟨⟨raw, behind⟩, hstring, heq⟩ := Option.map_eq_some_iff.mp h
    cases heq
    rw [scanString_append more hstring, Option.map_some]
  · exact scanWord_append more h
  · exact scanWord_append more h
  · exact scanWord_append more h
  · obtain ⟨⟨numeral, behind⟩, hnumeral, heq⟩ := Option.map_eq_some_iff.mp h
    cases heq
    -- only a numeral could go on into what follows
    rw [scanNumeral_append hmore hnumeral, Option.map_some]
  · obtain ⟨⟨numeral, behind⟩, hnumeral, heq⟩ := Option.map_eq_some_iff.mp h
    cases heq
    have hlonger := scanNumeral_append hmore hnumeral
    rw [List.cons_append] at hlonger
    rw [hlonger, Option.map_some]

/-- **The tokens of a text are the same in front of another text.** -/
theorem scanAll_append {budget larger : Nat} {text more : Bytes} {tokens later : List Token}
    (htext : scanAll budget text = some tokens) (hends : EndsNumeral more)
    (hmore : ofBytes? more = some later) (hlarger : budget + more.length ≤ larger) :
    scanAll larger (text ++ more) = some (tokens ++ later) := by
  fun_induction scanAll budget text generalizing tokens larger with
  | case1 =>
      cases htext
      exact scanAll_of_le hmore (by omega)
  | case2 => cases htext
  | case3 budget b rest hspace ih =>
      obtain ⟨larger, rfl⟩ : ∃ n, larger = n + 1 := ⟨larger - 1, by omega⟩
      rw [List.cons_append, scanAll, if_pos hspace]
      exact ih htext (by omega)
  | case4 budget b rest hspace token after hscan ih =>
      obtain ⟨larger, rfl⟩ : ∃ n, larger = n + 1 := ⟨larger - 1, by omega⟩
      obtain ⟨others, hothers, rfl⟩ := Option.map_eq_some_iff.mp htext
      have hrest := ih hothers (show budget + more.length ≤ larger by omega)
      rw [List.cons_append, scanAll, if_neg hspace, scan_followed hscan hends]
      simp only [hrest, Option.map_some, List.cons_append]
  | case5 => cases htext

theorem ofBytes?_append {text more : Bytes} {tokens later : List Token}
    (htext : ofBytes? text = some tokens) (hends : EndsNumeral more)
    (hmore : ofBytes? more = some later) : ofBytes? (text ++ more) = some (tokens ++ later) :=
  scanAll_append htext hends hmore (by rw [List.length_append])

/-- A piece that is read as a token is cut off the text. -/
theorem ofBytes?_of_scan {piece more : Bytes} {token : Token} {later : List Token}
    (hpiece : ∃ b rest, piece = b :: rest ∧ scan b (rest ++ more) = some (token, more))
    (hmore : ofBytes? more = some later) : ofBytes? (piece ++ more) = some (token :: later) := by
  obtain ⟨b, rest, rfl, hscan⟩ := hpiece
  have hlater : scanAll (rest ++ more).length more = some later := by
    refine scanAll_of_le hmore ?_
    rw [List.length_append]
    omega
  rw [ofBytes?, List.cons_append, List.length_cons, scanAll, isSpace_of_scan hscan]
  simp only [Bool.false_eq_true, if_false, hscan, hlater, Option.map_some]

theorem ofBytes?_mark (c : Char) {token : Token} {more : Bytes} {later : List Token}
    (hmark : ∀ rest, scan (ascii c) rest = some (token, rest)) (hascii : c.toNat < 0x80)
    (hmore : ofBytes? more = some later) :
    ofBytes? (encode [c] ++ more) = some (token :: later) := by
  refine ofBytes?_of_scan ⟨ascii c, [], ?_, hmark more⟩ hmore
  rw [encode_cons, encodeChar_of_ascii hascii]
  rfl

theorem ofBytes?_writeString (s : String) {more : Bytes} {later : List Token}
    (hmore : ofBytes? more = some later) :
    ofBytes? (encode (writeString s) ++ more) = some (.string (some s) :: later) := by
  obtain ⟨rest, hbytes, hscan⟩ := scan_writeString s more
  exact ofBytes?_of_scan ⟨_, rest, hbytes, hscan⟩ hmore

/-- A name, a colon and a text in front of more. -/
theorem ofBytes?_member (name : String) {text more : Bytes} {tokens later : List Token}
    (htext : ofBytes? text = some tokens) (hends : EndsNumeral more)
    (hmore : ofBytes? more = some later) :
    ofBytes? (encode (writeString name) ++ (encode [':'] ++ (text ++ more))) =
      some (.string (some name) :: .colon :: (tokens ++ later)) := by
  have hvalue := ofBytes?_append htext hends hmore
  exact ofBytes?_writeString name (ofBytes?_mark ':' (fun _ => rfl) (by decide) hvalue)

end Token

/-! ## Drafts without malformed parts -/

/-- The content of a string is acceptable, and a number is within range. -/
def Token.isProper : Token → Bool
  | string content => content.isSome
  | scalar draft => draft.toJson?.isSome
  | _ => true

/-- The strings and numbers of a text are acceptable. -/
def Proper (text : Bytes) : Prop :=
  ∃ tokens ∈ Token.ofBytes? text, ∀ token ∈ tokens, token.isProper = true

instance (text : Bytes) : Decidable (Proper text) :=
  inferInstanceAs (Decidable (∃ tokens ∈ Token.ofBytes? text, _))

/-- Having nothing malformed, wherever a draft stands. -/
def Invariant.settles : Invariant where
  Holds _ := Draft.Settles
  null _ := ⟨_, rfl⟩
  bool _ _ := ⟨_, rfl⟩
  string _ _ := ⟨_, rfl⟩
  array _ := Draft.settles_array_iff.mpr
  object _ := Draft.settles_object_iff.mpr

theorem Invariant.settles_ofToken {token : Token} (hproper : token.isProper = true) :
    Invariant.settles.OfToken token := by
  cases token with
  | scalar draft => exact fun _ => Option.isSome_iff_exists.mp hproper
  | string content =>
      intro hmalformed
      subst hmalformed
      cases hproper
  | _ => exact trivial

/-- **A text within the limit, whose strings and numbers are acceptable, has a tree.** -/
theorem settles_of_ofBytes? {text : Bytes} {draft : Draft} (hnests : Nests depthLimit text)
    (hproper : Proper text) (hdraft : Draft.ofBytes? text = some draft) : draft.Settles := by
  obtain ⟨tokens, htokens, hrun⟩ := Draft.ofBytes?_eq_some_iff.mp hdraft
  obtain ⟨nested, hnested, hlimit⟩ := hnests
  obtain ⟨acceptable, hacceptable, hall⟩ := hproper
  cases htokens.symm.trans hnested
  cases htokens.symm.trans hacceptable
  have hsettles : ∀ token ∈ tokens, Invariant.settles.OfToken token :=
    fun token htoken => Invariant.settles_ofToken (hall token htoken)
  exact Invariant.holds_of_run hsettles (.inl hlimit) hrun

end FeatureFlags.Json
