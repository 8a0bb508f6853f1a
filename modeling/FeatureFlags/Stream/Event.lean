import FeatureFlags.Text.Blank
import FeatureFlags.Text.Split
import FeatureFlags.Text.Utf8

/-!
# Decoding event streams

An event stream is a sequence of lines.  A line `event: name` names the event being received, a line
`data: text` adds a line of data to it, and a blank line ends it; lines that begin with a colon and
fields of other names are ignored.  An event without data is dropped together with its name.

Bytes arrive in chunks that may end anywhere.  The decoder keeps the unfinished line as bytes, so
that a character cut in two is put together again before it is read.
-/

namespace FeatureFlags

open Text (trim)
open Text.Utf8 (Bytes)

/-- A complete event. -/
structure StreamEvent where
  name : Option String
  /-- The lines of data, joined by line feeds. -/
  data : String
deriving DecidableEq, Repr

/-- The event being received: its name and its lines of data, the last one first. -/
structure PendingEvent where
  name : Option String := none
  data : List (List Char) := []
deriving DecidableEq, Repr

namespace PendingEvent

/-- Ends the pending event. Without data there is no event. -/
def dispatch (pending : PendingEvent) : Option StreamEvent :=
  if pending.data.isEmpty then none
  else some ⟨pending.name, String.ofList (Text.join '\n' pending.data.reverse)⟩

/-- Sets a field of the pending event. An empty name is no name, and empty data is no line. -/
def setField (pending : PendingEvent) (field value : List Char) : PendingEvent :=
  if field = ['d', 'a', 't', 'a'] then
    if value.isEmpty then pending else { pending with data := value :: pending.data }
  else if field = ['e', 'v', 'e', 'n', 't'] then
    { pending with name := if value.isEmpty then none else some (String.ofList value) }
  else pending

/-- The name and the value of the field on a line. -/
def fieldOf (line : List Char) : List Char × List Char :=
  match Text.splitOnce? (· = ':') line with
  | some (field, value) => (trim field, trim value)
  | none => (trim line, [])

/-- Reads one line, which may complete the event. -/
def readLine (pending : PendingEvent) (line : List Char) : Option StreamEvent × PendingEvent :=
  if (trim line).isEmpty then (pending.dispatch, {})
  else if line.head? = some ':' then (none, pending)
  else
    let (field, value) := fieldOf line
    (none, pending.setField field value)

/-- Reads lines in order and collects the events they complete. -/
def readLines (pending : PendingEvent) : List (List Char) → List StreamEvent × PendingEvent
  | [] => ([], pending)
  | line :: rest =>
    let (event, next) := pending.readLine line
    let (events, last) := readLines next rest
    (event.toList ++ events, last)

end PendingEvent

/-! ## Lines of bytes -/

def lineFeed : UInt8 := 10

def carriageReturn : UInt8 := 13

/-- The complete lines of some bytes, without their line feeds, and the unfinished rest. -/
def cutLines : Bytes → List Bytes × Bytes
  | [] => ([], [])
  | b :: rest =>
    let (lines, unfinished) := cutLines rest
    if b = lineFeed then ([] :: lines, unfinished)
    else
      match lines with
      | line :: later => ((b :: line) :: later, unfinished)
      | [] => ([], b :: unfinished)

/-- The text of a complete line, without one carriage return at its end. -/
def lineText (line : Bytes) : List Char :=
  Text.Utf8.decodeLossy <|
    if line.getLast? = some carriageReturn then line.dropLast else line

/-! ## The decoder -/

structure EventDecoder where
  /-- The bytes of the unfinished line. -/
  buffer : Bytes := []
  pending : PendingEvent := {}
deriving DecidableEq, Repr

namespace EventDecoder

/-- Takes in a chunk and returns the events it completes. -/
def push (decoder : EventDecoder) (chunk : Bytes) : List StreamEvent × EventDecoder :=
  let (lines, unfinished) := cutLines (decoder.buffer ++ chunk)
  let (events, pending) := decoder.pending.readLines (lines.map lineText)
  (events, ⟨unfinished, pending⟩)

/-- Ends the stream: reads the unfinished line and then ends the pending event. An event that the
unfinished line itself completes is lost. -/
def finish (decoder : EventDecoder) : Option StreamEvent × EventDecoder :=
  let pending :=
    if decoder.buffer.isEmpty then decoder.pending
    else (decoder.pending.readLine (Text.Utf8.decodeLossy decoder.buffer)).2
  (pending.dispatch, {})

end EventDecoder

end FeatureFlags
