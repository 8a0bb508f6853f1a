import FeatureFlags.Proofs.Json.Numbers
import FeatureFlags.Proofs.Json.Strings

/-!
# Written trees are read back

Writing a tree and reading the text gives the tree again, provided the tree is `Legible`:
its integers have 64 bits, its floats are read back from their texts, and it is not
nested too deeply.  Nothing is asked of strings and of names.

The proof goes along the two stages of reading.  The text is cut into the tokens of the
tree, one piece after the other (`tokenized_write`), and from these tokens the reader
builds the tree (`run_tokens`).  Inside a text that is being read, the tree ends up where
the reader expects a value.
-/

namespace FeatureFlags.Json

open Text Text.Utf8

/-! ## Legible trees -/

mutual

/-- A tree inside `depth` containers that is read back from its text. -/
def Legible : Nat → Json → Prop
  | _, null => True
  | _, bool _ => True
  | _, integer n => IsWord64 n
  | _, float x => x.ReadsBack
  | _, string _ => True
  | depth, array items => depth < depthLimit ∧ LegibleItems (depth + 1) items
  | depth, object members => depth < depthLimit ∧ LegibleMembers (depth + 1) members

def LegibleItems : Nat → List Json → Prop
  | _, [] => True
  | depth, item :: rest => Legible depth item ∧ LegibleItems depth rest

def LegibleMembers : Nat → List (String × Json) → Prop
  | _, [] => True
  | depth, (_, member) :: rest => Legible depth member ∧ LegibleMembers depth rest

end

theorem legibleItems_iff {depth : Nat} {items : List Json} :
    LegibleItems depth items ↔ ∀ item ∈ items, Legible depth item := by
  induction items with
  | nil => simp [LegibleItems]
  | cons item rest ih => simp [LegibleItems, ih]

theorem legibleMembers_iff {depth : Nat} {members : List (String × Json)} :
    LegibleMembers depth members ↔ ∀ entry ∈ members, Legible depth entry.2 := by
  induction members with
  | nil => simp [LegibleMembers]
  | cons entry rest ih => simp [LegibleMembers, ih]

/-! ## The tokens of a tree -/

mutual

/-- The tokens of the text of a tree. -/
def tokens : Json → List Token
  | null => [.scalar .null]
  | bool b => [.scalar (.bool b)]
  | integer n => [.scalar (.integer n)]
  | float x => [.scalar (.float x)]
  | string s => [.string (some s)]
  | array items => .openArray :: (itemTokens items ++ [.closeArray])
  | object members => .openObject :: (memberTokens members ++ [.closeObject])

def itemTokens : List Json → List Token
  | [] => []
  | [item] => tokens item
  | item :: next :: rest => tokens item ++ .comma :: itemTokens (next :: rest)

def memberTokens : List (String × Json) → List Token
  | [] => []
  | [(name, member)] => .string (some name) :: .colon :: tokens member
  | (name, member) :: next :: rest =>
    .string (some name) :: .colon :: (tokens member ++ .comma :: memberTokens (next :: rest))

end

namespace Token

/-- A text consists of some tokens, without spaces between them. -/
inductive Tokenized : Bytes → List Token → Prop
  | nil : Tokenized [] []
  | cons {b : UInt8} {rest after : Bytes} {token : Token} {tokens : List Token}
      (hscan : scan b rest = some (token, after)) (hlength : after.length ≤ rest.length)
      (hafter : Tokenized after tokens) : Tokenized (b :: rest) (token :: tokens)

/-- No token begins with a space. -/
theorem isSpace_of_scan {b : UInt8} {rest after : Bytes} {token : Token}
    (hscan : scan b rest = some (token, after)) : isSpace b = false := by
  cases hspace : isSpace b with
  | false => rfl
  | true =>
      simp only [isSpace, Bool.or_eq_true, decide_eq_true_eq] at hspace
      rcases hspace with ((rfl | rfl) | rfl) | rfl <;> cases hscan

theorem Tokenized.scanAll {text : Bytes} {tokens : List Token} (h : Tokenized text tokens)
    {budget : Nat} (hbudget : text.length ≤ budget) :
    scanAll budget text = some tokens := by
  induction h generalizing budget with
  | nil => cases budget <;> rfl
  | cons hscan hlength hafter ih =>
      rw [List.length_cons] at hbudget
      obtain ⟨budget, rfl⟩ : ∃ n, budget = n + 1 := ⟨budget - 1, by omega⟩
      simp only [Token.scanAll, isSpace_of_scan hscan, Bool.false_eq_true, if_false, hscan,
        ih (show _ ≤ budget by omega), Option.map_some]

theorem Tokenized.ofBytes? {text : Bytes} {tokens : List Token} (h : Tokenized text tokens) :
    ofBytes? text = some tokens :=
  h.scanAll (Nat.le_refl _)

/-- A piece that is read as a token is cut off. -/
theorem Tokenized.of_scan {piece more : Bytes} {token : Token} {tokens : List Token}
    (hpiece : ∃ b rest, piece = b :: rest ∧ scan b (rest ++ more) = some (token, more))
    (hmore : Tokenized more tokens) : Tokenized (piece ++ more) (token :: tokens) := by
  obtain ⟨b, rest, rfl, hscan⟩ := hpiece
  have hlength : more.length ≤ (rest ++ more).length := by
    rw [List.length_append]
    omega
  exact .cons hscan hlength hmore

end Token

open Token

/-- A mark is a token of one byte. -/
theorem tokenized_mark (c : Char) {token : Token} {more : Bytes} {ts : List Token}
    (hmark : ∀ rest, scan (ascii c) rest = some (token, rest)) (hascii : c.toNat < 0x80)
    (hmore : Tokenized more ts) : Tokenized (encode [c] ++ more) (token :: ts) := by
  refine .of_scan ⟨ascii c, [], ?_, hmark more⟩ hmore
  rw [encode_cons, encodeChar_of_ascii hascii]
  rfl

theorem tokenized_writeString (s : String) {more : Bytes} {ts : List Token}
    (hmore : Tokenized more ts) :
    Tokenized (encode (writeString s) ++ more) (.string (some s) :: ts) := by
  obtain ⟨rest, hbytes, hscan⟩ := scan_writeString s more
  exact .of_scan ⟨_, rest, hbytes, hscan⟩ hmore

theorem endsNumeral_encode {c : Char} (hascii : c.toNat < 0x80) (hc : isNumeralChar c = false)
    (text : List Char) (more : Bytes) : EndsNumeral (encode (c :: text) ++ more) := by
  rw [encode_cons, encodeChar_of_ascii hascii, List.append_assoc, List.singleton_append,
    endsNumeral_cons]
  exact (congrArg isNumeralChar (charOf_ascii hascii)).trans hc

mutual

/-- **The text of a legible tree consists of the tokens of the tree.** -/
theorem tokenized_write {depth : Nat} : ∀ (json : Json), json.Legible depth →
    ∀ {more : Bytes} {ts : List Token}, EndsNumeral more → Tokenized more ts →
      Tokenized (encode json.write ++ more) (json.tokens ++ ts)
  | .null, _, _, _, _, hmore => .of_scan ⟨_, _, rfl, rfl⟩ hmore
  | .bool true, _, _, _, _, hmore => .of_scan ⟨_, _, rfl, rfl⟩ hmore
  | .bool false, _, _, _, _, hmore => .of_scan ⟨_, _, rfl, rfl⟩ hmore
  | .integer n, hlegible, _, _, hends, hmore =>
      .of_scan (scan_writeInt hlegible hends) hmore
  | .float x, hlegible, _, _, hends, hmore => .of_scan (scan_of_readsBack hlegible hends) hmore
  | .string s, _, _, _, _, hmore => tokenized_writeString s hmore
  | .array items, hlegible, more, ts, _, hmore => by
      have hclose := tokenized_mark ']' (fun _ => rfl) (by decide) hmore
      have hitems := tokenized_items items hlegible.2
        (endsNumeral_encode (by decide) rfl [] more) hclose
      have hopen := tokenized_mark '[' (fun _ => rfl) (by decide) hitems
      simpa [write, tokens, encode_cons, encode_nil, encode_append] using hopen
  | .object members, hlegible, more, ts, _, hmore => by
      have hclose := tokenized_mark '\x7d' (fun _ => rfl) (by decide) hmore
      have hmembers := tokenized_members members hlegible.2
        (endsNumeral_encode (by decide) rfl [] more) hclose
      have hopen := tokenized_mark '\x7b' (fun _ => rfl) (by decide) hmembers
      simpa [write, tokens, encode_cons, encode_nil, encode_append] using hopen

theorem tokenized_items {depth : Nat} : ∀ (items : List Json), LegibleItems depth items →
    ∀ {more : Bytes} {ts : List Token}, EndsNumeral more → Tokenized more ts →
      Tokenized (encode (writeItems items) ++ more) (itemTokens items ++ ts)
  | [], _, _, _, _, hmore => hmore
  | [item], hlegible, _, _, hends, hmore => tokenized_write item hlegible.1 hends hmore
  | item :: next :: rest, hlegible, more, ts, hends, hmore => by
      have hrest := tokenized_items (next :: rest) hlegible.2 hends hmore
      have hcomma := tokenized_mark ',' (fun _ => rfl) (by decide) hrest
      have hitem := tokenized_write item hlegible.1
        (endsNumeral_encode (by decide) rfl [] _) hcomma
      simpa [writeItems, itemTokens, encode_cons, encode_nil, encode_append] using hitem

theorem tokenized_members {depth : Nat} : ∀ (members : List (String × Json)),
    LegibleMembers depth members →
    ∀ {more : Bytes} {ts : List Token}, EndsNumeral more → Tokenized more ts →
      Tokenized (encode (writeMembers members) ++ more) (memberTokens members ++ ts)
  | [], _, _, _, _, hmore => hmore
  | [(name, member)], hlegible, _, _, hends, hmore => by
      have hmember := tokenized_write member hlegible.1 hends hmore
      have hcolon := tokenized_mark ':' (fun _ => rfl) (by decide) hmember
      have hname := tokenized_writeString name hcolon
      simpa [writeMembers, memberTokens, encode_cons, encode_nil, encode_append] using hname
  | (name, member) :: next :: rest, hlegible, more, ts, hends, hmore => by
      have hrest := tokenized_members (next :: rest) hlegible.2 hends hmore
      have hcomma := tokenized_mark ',' (fun _ => rfl) (by decide) hrest
      have hmember := tokenized_write member hlegible.1
        (endsNumeral_encode (by decide) rfl [] _) hcomma
      have hcolon := tokenized_mark ':' (fun _ => rfl) (by decide) hmember
      have hname := tokenized_writeString name hcolon
      simpa [writeMembers, memberTokens, encode_cons, encode_nil, encode_append] using hname

end

/-! ## Building the tree -/

namespace Progress

theorem run_cons (progress : Progress) (token : Token) (ts : List Token) :
    progress.run (token :: ts) = (progress.step token).bind fun next => next.run ts := rfl

/-- A tree begins with a token that begins a value. -/
theorem tokens_ne_closeArray (json : Json) :
    ∃ token rest, json.tokens = token :: rest ∧ token ≠ .closeArray := by
  cases json <;> exact ⟨_, _, rfl, nofun⟩

/-- The first item of an array is read like any other. -/
theorem step_valueOrEnd {token : Token} (htoken : token ≠ .closeArray) (stack : List Frame) :
    (reading stack .valueOrEnd).step token = (reading stack .value).step token := by
  cases token with
  | closeArray => exact absurd rfl htoken
  | _ => rfl

theorem run_valueOrEnd (stack : List Frame) (json : Json) (ts : List Token) :
    (reading stack .valueOrEnd).run (json.tokens ++ ts) =
      (reading stack .value).run (json.tokens ++ ts) := by
  obtain ⟨token, rest, htokens, htoken⟩ := tokens_ne_closeArray json
  rw [htokens, List.cons_append, run_cons, run_cons, step_valueOrEnd htoken]

theorem itemTokens_cons (item : Json) (rest : List Json) :
    ∃ more, itemTokens (item :: rest) = item.tokens ++ more := by
  cases rest with
  | nil => exact ⟨[], (List.append_nil _).symm⟩
  | cons next rest => exact ⟨_, rfl⟩

/-- The name of a member and the colon make way for its value. -/
theorem run_name {e : Expectation} (he : e = .name ∨ e = .nameOrEnd)
    (read : List (Option String × Draft)) (stack : List Frame) (name : String) (ts : List Token) :
    (reading (.object read :: stack) e).run (.string (some name) :: .colon :: ts) =
      (reading (.member read (some name) :: stack) .value).run ts := by
  rcases he with rfl | rfl <;> rfl

/-- The members of an object whose names are acceptable. -/
def named (members : List (String × Draft)) : List (Option String × Draft) :=
  members.map fun member => (some member.1, member.2)

theorem closeMembers_named (members : List (String × Draft)) :
    closeMembers (named members).reverse = .object members := by
  have hnamed : (named members).mapM (fun member => member.1.map (·, member.2)) = some members := by
    induction members with
    | nil => rfl
    | cons member rest ih => simp_all [named]
  rw [closeMembers, List.reverse_reverse, hnamed]

mutual

/-- **From the tokens of a tree the reader builds the tree.** -/
theorem run_tokens : ∀ (json : Json) (stack : List Frame), json.Legible stack.length →
    ∀ ts, (reading stack .value).run (json.tokens ++ ts) =
      (supply stack (.ofJson json)).bind fun next => next.run ts
  | .null, _, _, _ => rfl
  | .bool _, _, _, _ => rfl
  | .integer _, _, _, _ => rfl
  | .float _, _, _, _ => rfl
  | .string _, _, _, _ => rfl
  | .array items, stack, hlegible, ts => by
      have hopen : (reading stack .value).step .openArray =
        some (reading (.array [] :: stack) .valueOrEnd) := rfl
      have hclose (e : Expectation) (he : e = .valueOrEnd ∨ e = .separator) :
          (reading (.array (Draft.ofItems items).reverse :: stack) e).run (.closeArray :: ts) =
            (supply stack (.ofJson (.array items))).bind fun next => next.run ts := by
        rcases he with rfl | rfl <;>
          simp [run_cons, step, closeArray, limitDepth, hlegible.1, Draft.ofJson]
      rw [tokens, List.cons_append, run_cons, hopen, Option.bind_some, List.append_assoc]
      cases items with
      | nil => exact hclose _ (Or.inl rfl)
      | cons item rest =>
          -- the first item is read where the array might have ended
          obtain ⟨more, hmore⟩ := itemTokens_cons item rest
          have hitems := run_items (item :: rest) [] stack nofun hlegible.2 (.closeArray :: ts)
          rw [hmore, List.append_assoc] at hitems ⊢
          rw [run_valueOrEnd, List.singleton_append, hitems, List.append_nil]
          exact hclose _ (Or.inr rfl)
  | .object members, stack, hlegible, ts => by
      have hopen : (reading stack .value).step .openObject =
        some (reading (.object [] :: stack) .nameOrEnd) := rfl
      have hclose (e : Expectation) (he : e = .nameOrEnd ∨ e = .separator) :
          (reading (.object (named (Draft.ofMembers members)).reverse :: stack) e).run
              (.closeObject :: ts) =
            (supply stack (.ofJson (.object members))).bind fun next => next.run ts := by
        rcases he with rfl | rfl <;>
          simp [run_cons, step, closeObject, limitDepth, hlegible.1, Draft.ofJson,
            closeMembers_named]
      rw [tokens, List.cons_append, run_cons, hopen, Option.bind_some, List.append_assoc]
      cases members with
      | nil => exact hclose _ (Or.inl rfl)
      | cons member rest =>
          have hmembers := run_members (member :: rest) [] stack (Or.inr rfl) nofun hlegible.2
            (.closeObject :: ts)
          rw [List.append_nil] at hmembers
          exact hmembers.trans (hclose _ (Or.inr rfl))

theorem run_items : ∀ (items : List Json) (read : List Draft) (stack : List Frame), items ≠ [] →
    LegibleItems (stack.length + 1) items → ∀ ts,
      (reading (.array read :: stack) .value).run (itemTokens items ++ ts) =
        (reading (.array ((Draft.ofItems items).reverse ++ read) :: stack) .separator).run ts
  | [], _, _, hne, _, _ => absurd rfl hne
  | [item], read, stack, _, hlegible, ts => run_tokens item (.array read :: stack) hlegible.1 ts
  | item :: next :: rest, read, stack, _, hlegible, ts => by
      have hitem := run_tokens item (.array read :: stack) hlegible.1
      have hcomma : (reading (.array (.ofJson item :: read) :: stack) .separator).step .comma =
        some (reading (.array (.ofJson item :: read) :: stack) .value) := rfl
      have hrest := run_items (next :: rest) (.ofJson item :: read) stack nofun hlegible.2 ts
      rw [itemTokens, List.append_assoc, hitem, supply, Option.bind_some, List.cons_append,
        run_cons, hcomma, Option.bind_some, hrest]
      simp [Draft.ofItems]

theorem run_members : ∀ (members : List (String × Json)) (read : List (Option String × Draft))
    (stack : List Frame) {e : Expectation}, e = .name ∨ e = .nameOrEnd → members ≠ [] →
    LegibleMembers (stack.length + 1) members → ∀ ts,
      (reading (.object read :: stack) e).run (memberTokens members ++ ts) =
        (reading (.object ((named (Draft.ofMembers members)).reverse ++ read) :: stack)
          .separator).run ts
  | [], _, _, _, _, hne, _, _ => absurd rfl hne
  | [(name, json)], read, stack, e, he, _, hlegible, ts => by
      have hjson := run_tokens json (.member read (some name) :: stack) hlegible.1 ts
      rw [memberTokens, List.cons_append, List.cons_append, run_name he, hjson]
      rfl
  | (name, json) :: next :: rest, read, stack, e, he, _, hlegible, ts => by
      have hjson := run_tokens json (.member read (some name) :: stack) hlegible.1
      have hcomma (read : List (Option String × Draft)) :
        (reading (.object read :: stack) .separator).step .comma =
          some (reading (.object read :: stack) .name) := rfl
      have hrest := run_members (next :: rest) ((some name, .ofJson json) :: read) stack
        (e := .name) (Or.inl rfl) nofun hlegible.2 ts
      rw [memberTokens, List.cons_append, List.cons_append, run_name he, List.append_assoc, hjson,
        supply, Option.bind_some, List.cons_append, run_cons, hcomma, Option.bind_some, hrest]
      simp [Draft.ofMembers, named]

end

end Progress

/-- **A legible tree is read back from its text.** -/
theorem ofBytes?_bytes {json : Json} (hlegible : json.Legible 0) :
    Draft.ofBytes? json.bytes = some (.ofJson json) := by
  have htokens : Token.ofBytes? json.bytes = some json.tokens := by
    have htokenized := tokenized_write json hlegible endsNumeral_nil .nil
    rw [List.append_nil, List.append_nil] at htokenized
    exact htokenized.ofBytes?
  have hrun : Progress.start.run json.tokens = some (.finished (.ofJson json)) := by
    have htree := Progress.run_tokens json [] hlegible []
    rwa [List.append_nil] at htree
  rw [Draft.ofBytes?, htokens, Option.bind_eq_bind, Option.bind_some, hrun]
  rfl

end FeatureFlags.Json
