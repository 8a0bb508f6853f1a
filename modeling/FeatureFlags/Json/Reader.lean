import FeatureFlags.Json.Token

/-!
# Reading JSON text

The tokens of a text are consumed one by one.  The state of the reader is the stack of containers
that are still open together with what may come next; a complete text leaves exactly one draft.
A container opened inside `depthLimit` others is read like any other, but the draft it leaves is
malformed.

Since the reader is a fold over the tokens, reading a text inside another one does to the state
what reading it alone does to an empty stack.
-/

namespace FeatureFlags.Json

open Text.Utf8 (Bytes)

/-- Containers may be nested this deeply. -/
def depthLimit : Nat := 127

/-- A container whose end has not been read; what it holds so far is in reverse order. -/
inductive Frame
  | array (items : List Draft)
  | object (members : List (Option String × Draft))
  /-- An object in which the value of the member `name` is to come. -/
  | member (members : List (Option String × Draft)) (name : Option String)

/-- What the reader expects next. -/
inductive Expectation
  /-- A value. -/
  | value
  /-- A value, or the end of the array just opened. -/
  | valueOrEnd
  /-- The name of a member. -/
  | name
  /-- The name of a member, or the end of the object just opened. -/
  | nameOrEnd
  /-- The colon behind a name. -/
  | colon
  /-- A comma, or the end of the innermost container. -/
  | separator
deriving DecidableEq

/-- The state of the reader. -/
inductive Progress
  | reading (stack : List Frame) (expectation : Expectation)
  | finished (draft : Draft)

/-- The draft of an object: malformed if one of its names is. -/
def closeMembers (members : List (Option String × Draft)) : Draft :=
  match members.reverse.mapM fun member => member.1.map (·, member.2) with
  | some named => .object named
  | none => .malformed

/-- The draft of a closed container that was opened inside `depth` others. -/
def limitDepth (depth : Nat) (draft : Draft) : Draft :=
  if depth < depthLimit then draft else .malformed

namespace Progress

/-- Puts a complete draft where the innermost open container expects it. -/
def supply (stack : List Frame) (draft : Draft) : Option Progress :=
  match stack with
  | [] => some (finished draft)
  | .array items :: rest => some (reading (.array (draft :: items) :: rest) .separator)
  | .member members name :: rest =>
    some (reading (.object ((name, draft) :: members) :: rest) .separator)
  | .object _ :: _ => none

/-- Consumes a token that may begin a value. -/
def beginValue (stack : List Frame) : Token → Option Progress
  | .scalar draft => supply stack draft
  | .string (some content) => supply stack (.string content)
  | .string none => supply stack .malformed
  | .openArray => some (reading (.array [] :: stack) .valueOrEnd)
  | .openObject => some (reading (.object [] :: stack) .nameOrEnd)
  | _ => none

/-- Closes the innermost container with a bracket. -/
def closeArray : List Frame → Option Progress
  | .array items :: rest => supply rest (limitDepth rest.length (.array items.reverse))
  | _ => none

/-- Closes the innermost container with a brace. -/
def closeObject : List Frame → Option Progress
  | .object members :: rest => supply rest (limitDepth rest.length (closeMembers members))
  | _ => none

/-- Reads the name of a member of the innermost container. -/
def beginMember : List Frame → Option String → Option Progress
  | .object members :: rest, name => some (reading (.member members name :: rest) .colon)
  | _, _ => none

/-- What a comma inside the innermost container calls for. -/
def afterComma : List Frame → Option Progress
  | .array items :: rest => some (reading (.array items :: rest) .value)
  | .object members :: rest => some (reading (.object members :: rest) .name)
  | _ => none

/-- Consumes one token. -/
def step : Progress → Token → Option Progress
  | reading stack .value, token => beginValue stack token
  | reading stack .valueOrEnd, .closeArray => closeArray stack
  | reading stack .valueOrEnd, token => beginValue stack token
  | reading stack .name, .string name => beginMember stack name
  | reading stack .nameOrEnd, .string name => beginMember stack name
  | reading stack .nameOrEnd, .closeObject => closeObject stack
  | reading stack .colon, .colon => some (reading stack .value)
  | reading stack .separator, .comma => afterComma stack
  | reading stack .separator, .closeArray => closeArray stack
  | reading stack .separator, .closeObject => closeObject stack
  | _, _ => none

/-- Consumes tokens from the left. -/
def run (progress : Progress) (tokens : List Token) : Option Progress :=
  tokens.foldlM step progress

/-- The state before the first token. -/
def start : Progress := reading [] .value

/-- The draft of a finished text. -/
def result? : Progress → Option Draft
  | finished draft => some draft
  | reading _ _ => none

end Progress

/-- The draft of a text that holds one JSON value and nothing else. -/
def Draft.ofBytes? (text : Bytes) : Option Draft := do
  let tokens ← Token.ofBytes? text
  let progress ← Progress.start.run tokens
  progress.result?

/-- The tree of a text; nothing in it may be malformed. -/
def ofBytes? (text : Bytes) : Option Json := (Draft.ofBytes? text).bind Draft.toJson?

end FeatureFlags.Json
