import FeatureFlags.Proofs.Stream.Closing
import FeatureFlags.Proofs.Text.Encoding
import FeatureFlags.Proofs.Text.Split
import FeatureFlags.Proofs.Text.Trim

/-!
# Framed events are decoded again

There are many ways to write a list of events as a stream.  The writer is free in how each
line ends, in the blanks behind a colon, and in the lines it puts in between: blank lines
between events, and lines that mean nothing anywhere.  `StreamPart.write` has all of these
choices, and the decoder gives the same events for each of them
(`EventDecoder.push_written`).

The types of this file hold only what can be written.  A `FieldText` is on one line and
survives trimming; a `PassedLine` is neither blank nor a field of an event.  So there is no
text to exclude later on: the values may contain colons and carriage returns, and may
themselves look like a field or like a comment.

The proof follows the stream line by line.  `PendingEvent.Reads` says what a decoder that
stands at the beginning of a line does with some text; it composes along the text
(`Reads.append`), and one line is `PendingEvent.reads_line`.
-/

namespace FeatureFlags

open Text (trim isBlank)
open Text.Utf8 (encode)

/-! ## Lines that are written -/

/-- How a line ends. -/
inductive LineEnd
  | lineFeed
  | returnAndLineFeed

def LineEnd.text : LineEnd → List Char
  | lineFeed => ['\n']
  | returnAndLineFeed => ['\r', '\n']

/-- Blanks on one line. -/
structure Blanks where
  text : List Char
  blank : ∀ c ∈ text, isBlank c = true
  oneLine : '\n' ∉ text

def Blanks.spaces (n : ℕ) : Blanks where
  text := List.replicate n ' '
  blank := fun _ hc => List.eq_of_mem_replicate hc ▸ rfl
  oneLine := fun hc => absurd (List.eq_of_mem_replicate hc) (by decide)

/-- The text of a field: it is on one line, and it neither begins nor ends with a blank. -/
structure FieldText where
  text : List Char
  ne_nil : text ≠ []
  head_not_blank : isBlank (text.head ne_nil) = false
  getLast_not_blank : isBlank (text.getLast ne_nil) = false
  oneLine : '\n' ∉ text

theorem FieldText.trim_text (value : FieldText) : trim value.text = value.text :=
  Text.trim_of_not_blank value.ne_nil value.head_not_blank value.getLast_not_blank

/-- The fields of an event. -/
inductive EventField
  | event
  | data

def EventField.label : EventField → List Char
  | event => ['e', 'v', 'e', 'n', 't']
  | data => ['d', 'a', 't', 'a']

/-- A line that means nothing: there is something on it, and what stands in front of its first
colon is not the label of a field.  In a comment nothing stands there (`PassedLine.comment`); fields
of other names, such as `id` and `retry`, are lines of this kind as well. -/
structure PassedLine where
  text : List Char
  oneLine : '\n' ∉ text
  visible : ∃ c ∈ text, isBlank c = false
  label_ne : ∀ field : EventField, trim (text.takeWhile (· ≠ ':')) ≠ field.label
  lineEnd : LineEnd

def PassedLine.comment (text : List Char) (oneLine : '\n' ∉ text) (lineEnd : LineEnd) :
    PassedLine where
  text := ':' :: text
  oneLine := List.not_mem_cons_of_ne_of_not_mem (by decide) oneLine
  visible := ⟨':', List.mem_cons_self, rfl⟩
  label_ne := by rintro (_ | _) <;> exact nofun
  lineEnd := lineEnd

def PassedLine.write (line : PassedLine) : List Char := line.text ++ line.lineEnd.text

structure BlankLine where
  blanks : Blanks
  lineEnd : LineEnd

def BlankLine.write (line : BlankLine) : List Char := line.blanks.text ++ line.lineEnd.text

/-- A line with a field of an event, and the lines without meaning in front of it. -/
structure FieldLine where
  passed : List PassedLine
  /-- What stands between the colon and the value. -/
  gap : Blanks
  value : FieldText
  lineEnd : LineEnd

namespace FieldLine

/-- The line itself, without its end. -/
def text (field : EventField) (line : FieldLine) : List Char :=
  field.label ++ ':' :: (line.gap.text ++ line.value.text)

def write (field : EventField) (line : FieldLine) : List Char :=
  line.passed.flatMap PassedLine.write ++ (line.text field ++ line.lineEnd.text)

end FieldLine

/-! ## Events that are written -/

/-- An event with all that its writer chooses. -/
structure EventFrame where
  name : Option FieldLine
  data : List FieldLine
  data_ne_nil : data ≠ []
  /-- The lines without meaning behind the data. -/
  passed : List PassedLine
  closing : BlankLine

namespace EventFrame

/-- The event that is framed: its lines of data are joined by line feeds. -/
def event (frame : EventFrame) : StreamEvent where
  name := frame.name.map (String.ofList ·.value.text)
  data := String.ofList (Text.join '\n' (frame.data.map (·.value.text)))

def write (frame : EventFrame) : List Char :=
  frame.name.toList.flatMap (FieldLine.write .event) ++
    (frame.data.flatMap (FieldLine.write .data) ++
      (frame.passed.flatMap PassedLine.write ++ frame.closing.write))

end EventFrame

/-- What a stream is made of: events, and lines between them. -/
inductive StreamPart
  | event (frame : EventFrame)
  | passed (line : PassedLine)
  | blank (line : BlankLine)

namespace StreamPart

def event? : StreamPart → Option StreamEvent
  | event frame => some frame.event
  | passed _ => none
  | blank _ => none

def write : StreamPart → List Char
  | event frame => frame.write
  | passed line => line.write
  | blank line => line.write

end StreamPart

/-! ## Reading a line -/

namespace PendingEvent

theorem ne_colon_of_notMem {text : List Char} (hcolon : ':' ∉ text) :
    ∀ c ∈ text, decide (c = ':') = false := fun _ hc =>
  decide_eq_false fun heq => hcolon (heq ▸ hc)

/-- The name of a field stands in front of the first colon. -/
theorem fieldOf_fst (line : List Char) : (fieldOf line).1 = trim (line.takeWhile (· ≠ ':')) := by
  by_cases hcolon : ':' ∈ line
  · obtain ⟨label, value, rfl, hlabel⟩ := List.eq_append_cons_of_mem hcolon
    have hother := ne_colon_of_notMem hlabel
    rw [fieldOf, Text.splitOnce?_append hother (decide_eq_true rfl),
      List.takeWhile_append_of_pos (by simpa using hother)]
    simp
  · have hother := ne_colon_of_notMem hcolon
    rw [fieldOf, Text.splitOnce?_of_forall hother,
      List.takeWhile_eq_self_iff.mpr (by simpa using hother)]

theorem setField_of_ne_label (pending : PendingEvent) {label : List Char}
    (hlabel : ∀ field : EventField, label ≠ field.label) (value : List Char) :
    pending.setField label value = pending := by
  have hdata : label ≠ ['d', 'a', 't', 'a'] := hlabel .data
  have hevent : label ≠ ['e', 'v', 'e', 'n', 't'] := hlabel .event
  rw [setField, if_neg hdata, if_neg hevent]

theorem setField_event (pending : PendingEvent) (value : FieldText) :
    pending.setField EventField.event.label value.text =
      { pending with name := some (String.ofList value.text) } := by
  simp [setField, EventField.label, value.ne_nil]

theorem setField_data (pending : PendingEvent) (value : FieldText) :
    pending.setField EventField.data.label value.text =
      { pending with data := value.text :: pending.data } := by
  simp [setField, EventField.label, value.ne_nil]

theorem readLine_passedLine (pending : PendingEvent) (line : PassedLine) :
    pending.readLine line.text = (none, pending) := by
  have hlabel : ∀ field : EventField, (fieldOf line.text).1 ≠ field.label := by
    rw [fieldOf_fst]
    exact line.label_ne
  unfold readLine
  rw [Text.isEmpty_trim_of_visible line.visible, if_neg Bool.false_ne_true]
  split
  · rfl
  · exact congrArg (Prod.mk none) (pending.setField_of_ne_label hlabel _)

theorem readLine_blankLine (pending : PendingEvent) (line : BlankLine) :
    pending.readLine line.blanks.text = (pending.dispatch, {}) :=
  pending.readLine_of_blank (List.isEmpty_iff.mpr (Text.trim_eq_nil_iff.mpr line.blanks.blank))

theorem fieldOf_fieldLine (field : EventField) (line : FieldLine) :
    fieldOf (line.text field) = (field.label, line.value.text) := by
  have hcolon : ':' ∉ field.label := by
    cases field <;> decide
  have htrim : trim field.label = field.label := by
    cases field <;> rfl
  rw [fieldOf, FieldLine.text,
    Text.splitOnce?_append (ne_colon_of_notMem hcolon) (decide_eq_true rfl)]
  simp only [htrim, Text.trim_append line.gap.blank, line.value.trim_text]

theorem readLine_fieldLine (pending : PendingEvent) (field : EventField) (line : FieldLine) :
    pending.readLine (line.text field) = (none, pending.setField field.label line.value.text) := by
  have hvisible : ∃ c ∈ line.text field, isBlank c = false :=
    ⟨':', by simp [FieldLine.text], by decide⟩
  have hhead : (line.text field).head? ≠ some ':' := by
    cases field <;> simp [FieldLine.text, EventField.label]
  rw [readLine, Text.isEmpty_trim_of_visible hvisible, if_neg Bool.false_ne_true, if_neg hhead,
    fieldOf_fieldLine]

/-! ## Reading a text -/

/-- At the beginning of a line and with the event `pending`, a decoder reads the text, gives the
events, and is at the beginning of a line again with the event `next`. -/
def Reads (pending : PendingEvent) (text : List Char) (events : List StreamEvent)
    (next : PendingEvent) : Prop :=
  EventDecoder.push ⟨[], pending⟩ (encode text) = (events, ⟨[], next⟩)

variable {pending next last : PendingEvent}

theorem Reads.nil : pending.Reads [] [] pending := EventDecoder.push_nil List.not_mem_nil

theorem Reads.append {text more : List Char} {events later : List StreamEvent}
    (first : pending.Reads text events next) (second : next.Reads more later last) :
    pending.Reads (text ++ more) (events ++ later) last := by
  unfold Reads at first second ⊢
  rw [Text.Utf8.encode_append, EventDecoder.push_append, first, second]

theorem reads_lineFeed (pending : PendingEvent) {text : List Char} (hline : '\n' ∉ text) :
    pending.Reads (text ++ ['\n']) (pending.readLine text).1.toList (pending.readLine text).2 := by
  have hbytes : lineFeed ∉ encode text :=
    mt (Text.Utf8.mem_of_toUInt8_mem_encode (c := '\n') (by decide)) hline
  have hcut : cutLines (encode (text ++ ['\n'])) = ([encode text], []) := by
    rw [Text.Utf8.encode_append]
    exact cutLines_line hbytes []
  simp only [Reads, EventDecoder.push, List.nil_append, hcut, List.map_cons, List.map_nil,
    readLines, readLine_lineText, Text.Utf8.decodeLossy_encode, List.append_nil]

/-- One line is read, however it ends: a carriage return is a blank at its end. -/
theorem reads_line (pending : PendingEvent) {text : List Char} (hline : '\n' ∉ text)
    (lineEnd : LineEnd) :
    pending.Reads (text ++ lineEnd.text) (pending.readLine text).1.toList
      (pending.readLine text).2 := by
  cases lineEnd with
  | lineFeed => exact pending.reads_lineFeed hline
  | returnAndLineFeed =>
      have hreturn : '\n' ∉ text ++ ['\r'] := by simp [hline]
      have hread := pending.reads_lineFeed hreturn
      rwa [pending.readLine_concat (by decide), List.append_assoc] at hread

/-! ## Reading the parts of a stream -/

theorem reads_passedLine (pending : PendingEvent) (line : PassedLine) :
    pending.Reads line.write [] pending := by
  have hread := pending.reads_line line.oneLine line.lineEnd
  rwa [readLine_passedLine] at hread

theorem reads_passedLines (pending : PendingEvent) (lines : List PassedLine) :
    pending.Reads (lines.flatMap PassedLine.write) [] pending := by
  induction lines with
  | nil => exact Reads.nil
  | cons line rest ih => exact (pending.reads_passedLine line).append ih

theorem reads_blankLine (pending : PendingEvent) (line : BlankLine) :
    pending.Reads line.write pending.dispatch.toList {} := by
  have hread := pending.reads_line line.blanks.oneLine line.lineEnd
  rwa [readLine_blankLine] at hread

theorem reads_fieldLine (pending : PendingEvent) (field : EventField) (line : FieldLine) :
    pending.Reads (line.write field) [] (pending.setField field.label line.value.text) := by
  have hlabel : '\n' ∉ field.label := by
    cases field <;> decide
  have hline : '\n' ∉ line.text field := by
    simp [FieldLine.text, hlabel, line.gap.oneLine, line.value.oneLine]
  have hread := pending.reads_line hline line.lineEnd
  rw [readLine_fieldLine] at hread
  exact (pending.reads_passedLines line.passed).append hread

/-- The name of an event, if there is one, is read before its data. -/
theorem reads_name (name : Option FieldLine) :
    Reads {} (name.toList.flatMap (FieldLine.write .event)) []
      { name := name.map (String.ofList ·.value.text) } := by
  cases name with
  | none => exact Reads.nil
  | some line =>
      have hread := reads_fieldLine {} .event line
      rw [setField_event] at hread
      simpa using hread

/-- Lines of data are kept with the last one first. -/
theorem reads_data (pending : PendingEvent) (lines : List FieldLine) :
    pending.Reads (lines.flatMap (FieldLine.write .data)) []
      { pending with data := (lines.map (·.value.text)).reverse ++ pending.data } := by
  induction lines generalizing pending with
  | nil => exact Reads.nil
  | cons line rest ih =>
      have hread := pending.reads_fieldLine .data line
      rw [setField_data] at hread
      have hrest := ih { pending with data := line.value.text :: pending.data }
      rw [List.map_cons, List.reverse_cons, List.append_assoc, List.singleton_append]
      exact hread.append hrest

/-- A framed event is read, and nothing of it is carried over to the next one. -/
theorem reads_frame (frame : EventFrame) : Reads {} frame.write [frame.event] {} := by
  let received : PendingEvent :=
    { name := frame.name.map (String.ofList ·.value.text)
      data := (frame.data.map (·.value.text)).reverse }
  have hdata : Reads { name := received.name } (frame.data.flatMap (FieldLine.write .data)) []
      received := by
    have hread := reads_data { name := received.name } frame.data
    rwa [List.append_nil] at hread
  have hdispatch : received.dispatch = some frame.event := by
    simp [received, dispatch, frame.data_ne_nil, EventFrame.event]
  have hclosing := received.reads_blankLine frame.closing
  rw [hdispatch] at hclosing
  exact (reads_name frame.name).append <| hdata.append <|
    (received.reads_passedLines frame.passed).append hclosing

theorem reads_part (part : StreamPart) : Reads {} part.write part.event?.toList {} := by
  cases part with
  | event frame => exact reads_frame frame
  | passed line => exact reads_passedLine {} line
  | blank line => exact reads_blankLine {} line

theorem reads_parts (parts : List StreamPart) :
    Reads {} (parts.flatMap StreamPart.write) (parts.filterMap StreamPart.event?) {} := by
  induction parts with
  | nil => exact Reads.nil
  | cons part rest ih =>
      have hread := (reads_part part).append ih
      rw [List.filterMap_cons]
      cases hevent : part.event? with
      | none => simpa [hevent] using hread
      | some event => simpa [hevent] using hread

end PendingEvent

namespace EventDecoder

/-- **Decoding undoes framing.**  A stream in which events have been written, with any line
ends, any blanks behind the colons, and any blank lines and lines without meaning in between,
gives these events in order, and nothing is left for its end. -/
theorem push_written (parts : List StreamPart) :
    let (events, last) := push {} (encode (parts.flatMap StreamPart.write))
    events = parts.filterMap StreamPart.event? ∧ last = {} ∧ last.finish.1 = none := by
  have hread : push {} (encode (parts.flatMap StreamPart.write)) =
      (parts.filterMap StreamPart.event?, {}) := PendingEvent.reads_parts parts
  rw [hread]
  exact ⟨rfl, rfl, rfl⟩

/-- A value that looks like a field, behind a comment and in front of a field of another name. -/
example :
    let comment : PassedLine := .comment " data: 0".toList (by decide) .lineFeed
    let retry : PassedLine :=
      ⟨"retry:5".toList, by decide, ⟨'5', by decide, rfl⟩, by rintro (_ | _) <;> decide,
        .returnAndLineFeed⟩
    let first : FieldText := ⟨"event: x".toList, by decide, rfl, rfl, by decide⟩
    let second : FieldText := ⟨":".toList, by decide, rfl, rfl, by decide⟩
    let frame : EventFrame :=
      { name := none
        data := [⟨[comment], .spaces 1, first, .returnAndLineFeed⟩,
          ⟨[], .spaces 0, second, .lineFeed⟩]
        data_ne_nil := by decide
        passed := [retry]
        closing := ⟨.spaces 0, .returnAndLineFeed⟩ }
    let parts : List StreamPart := [.blank ⟨.spaces 0, .lineFeed⟩, .event frame]
    String.ofList (parts.flatMap StreamPart.write) =
        "\n: data: 0\ndata: event: x\r\ndata::\nretry:5\r\n\r\n" ∧
      parts.filterMap StreamPart.event? = [⟨none, "event: x\n:"⟩] := by
  decide +kernel

end EventDecoder

end FeatureFlags
