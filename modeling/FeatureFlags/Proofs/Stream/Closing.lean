import FeatureFlags.Proofs.Stream.Chunks
import FeatureFlags.Proofs.Text.Utf8

/-!
# The end of an event stream

A blank line ends an event, and so should the end of the stream.  To compare the two,
let a stream be closed by two line feeds: the first one completes the unfinished line,
the second one is a blank line.

Ending a stream reads the unfinished line as it is, with a carriage return that a
complete line would lose; that makes no difference (`PendingEvent.readLine_lineText`).
But it keeps no event that the unfinished line itself completes, which happens when the
line is blank without being empty.  So the end of a stream acts like a blank line except
after blanks at the beginning of a line (`EventDecoder.finish_closes_iff`): there the
pending event is lost, as it is when a stream is cut between the two bytes of the line
end that completes it (`EventDecoder.event_lost_in_line_end`).
-/

namespace FeatureFlags

open Text (trim isBlank)
open Text.Utf8 (Bytes decodeLossy)

/-! ## Blanks at the end of a line -/

namespace PendingEvent

/-- Reading a line takes no notice of a blank character at its end. -/
theorem readLine_concat (pending : PendingEvent) {c : Char} (hblank : isBlank c = true)
    (text : List Char) : pending.readLine (text ++ [c]) = pending.readLine text := by
  have hcolon : decide (c = ':') = false := by
    refine decide_eq_false fun heq => ?_
    rw [heq] at hblank
    exact absurd hblank (by decide)
  have hfield : fieldOf (text ++ [c]) = fieldOf text := by
    unfold fieldOf
    rw [Text.splitOnce?_concat hcolon]
    cases Text.splitOnce? (· = ':') text with
    | none => simp only [Option.map_none, Text.trim_concat hblank]
    | some parts => simp only [Option.map_some, Text.trim_concat hblank]
  unfold readLine
  rw [Text.trim_concat hblank, hfield]
  cases text with
  | nil => rfl
  | cons first rest => rfl

/-- A line reads the same with the carriage return at its end as without. -/
theorem readLine_lineText (pending : PendingEvent) (line : Bytes) :
    pending.readLine (lineText line) = pending.readLine (decodeLossy line) := by
  unfold lineText
  split
  · rename_i hlast
    obtain ⟨front, hline⟩ := List.getLast?_eq_some_iff.mp hlast
    have hreturn : decodeLossy [carriageReturn] = ['\r'] := by
      rw [@Text.Utf8.decodeLossy_of_char carriageReturn [] [] '\r' rfl, decodeLossy]
    rw [hline, List.dropLast_concat, Text.Utf8.decodeLossy_append (by decide), hreturn,
      pending.readLine_concat (by decide)]
  · rfl

/-- A line that is not blank completes no event. -/
theorem readLine_of_not_blank (pending : PendingEvent) {line : List Char}
    (hline : (trim line).isEmpty = false) : (pending.readLine line).1 = none := by
  unfold readLine
  rw [hline]
  simp only [Bool.false_eq_true, if_false]
  split <;> rfl

theorem readLine_of_blank (pending : PendingEvent) {line : List Char}
    (hline : (trim line).isEmpty = true) : pending.readLine line = (pending.dispatch, {}) :=
  if_pos hline

theorem dispatch_eq_none_iff {pending : PendingEvent} :
    pending.dispatch = none ↔ pending.data = [] := by
  simp [dispatch]

end PendingEvent

/-! ## Closing a stream -/

namespace EventDecoder

/-- The unfinished line is blank without being empty, and an event is pending. -/
def IsBlankBehindData (decoder : EventDecoder) : Prop :=
  decoder.buffer ≠ [] ∧ (trim (decodeLossy decoder.buffer)).isEmpty = true ∧
    decoder.pending.data ≠ []

/-- Two line feeds complete the unfinished line and then end the pending event. -/
theorem push_lineFeeds {decoder : EventDecoder} (hbuffer : lineFeed ∉ decoder.buffer) :
    (decoder.push [lineFeed, lineFeed]).1 =
      (decoder.pending.readLine (decodeLossy decoder.buffer)).1.toList ++
        (decoder.pending.readLine (decodeLossy decoder.buffer)).2.dispatch.toList := by
  have hblank : cutLines [lineFeed] = ([[]], []) := cutLines_line List.not_mem_nil []
  have hempty : lineText [] = [] := by simp [lineText, decodeLossy]
  have hread (pending : PendingEvent) : pending.readLine [] = (pending.dispatch, {}) :=
    pending.readLine_of_blank rfl
  simp only [push, cutLines_line hbuffer, hblank, List.map_cons, List.map_nil, hempty,
    PendingEvent.readLines, PendingEvent.readLine_lineText, hread, List.append_nil]

theorem finish_of_empty {decoder : EventDecoder} (hempty : decoder.buffer = []) :
    decoder.finish = (decoder.pending.dispatch, {}) := by
  simp only [finish, hempty, List.isEmpty_nil, if_true]

theorem finish_of_unfinished {decoder : EventDecoder} (hunfinished : decoder.buffer ≠ []) :
    decoder.finish =
      ((decoder.pending.readLine (decodeLossy decoder.buffer)).2.dispatch, {}) := by
  have hisEmpty : decoder.buffer.isEmpty = false := List.isEmpty_eq_false_iff.mpr hunfinished
  simp only [finish, hisEmpty, Bool.false_eq_true, if_false]

/-- Without blanks behind an event, the end of a stream gives what line feeds give. -/
theorem push_lineFeeds_eq_finish {decoder : EventDecoder} (hbuffer : lineFeed ∉ decoder.buffer)
    (hkept : ¬decoder.IsBlankBehindData) :
    (decoder.push [lineFeed, lineFeed]).1 = decoder.finish.1.toList := by
  rw [push_lineFeeds hbuffer]
  by_cases hempty : decoder.buffer = []
  · rw [finish_of_empty hempty, hempty, decodeLossy, PendingEvent.readLine_of_blank _ rfl]
    exact List.append_nil _
  · rw [finish_of_unfinished hempty]
    cases hblank : (trim (decodeLossy decoder.buffer)).isEmpty with
    | true =>
        -- a blank line that completes nothing
        have hdata : decoder.pending.data = [] :=
          Decidable.byContradiction fun hdata => hkept ⟨hempty, hblank, hdata⟩
        rw [PendingEvent.readLine_of_blank _ hblank, PendingEvent.dispatch_eq_none_iff.mpr hdata]
        rfl
    | false => rw [PendingEvent.readLine_of_not_blank _ hblank, Option.toList_none, List.nil_append]

/-- Blanks behind an event: line feeds give the event, and the end of the stream drops it. -/
theorem push_lineFeeds_of_lost {decoder : EventDecoder} (hbuffer : lineFeed ∉ decoder.buffer)
    (hlost : decoder.IsBlankBehindData) :
    (decoder.push [lineFeed, lineFeed]).1 = decoder.pending.dispatch.toList ∧
      decoder.pending.dispatch ≠ none ∧ decoder.finish.1 = none := by
  obtain ⟨hunfinished, hblank, hdata⟩ := hlost
  have hread := decoder.pending.readLine_of_blank hblank
  refine ⟨?_, mt PendingEvent.dispatch_eq_none_iff.mp hdata, ?_⟩
  · rw [push_lineFeeds hbuffer, hread]
    exact List.append_nil _
  · rw [finish_of_unfinished hunfinished, hread]
    rfl

/-- **The end of a stream acts like a closing blank line, except after blanks.**  Ending a
stream gives the events that closing it by two line feeds gives if and only if it does not
end in a line of nothing but blanks behind data; such blanks lose the event they follow,
and only that one.  Nothing comes after the end. -/
theorem finish_closes_iff (bytes : Bytes) :
    let last := (push {} bytes).2
    ((push {} bytes).1 ++ last.finish.1.toList = (push {} (bytes ++ [lineFeed, lineFeed])).1 ↔
        ¬last.IsBlankBehindData) ∧
      (last.IsBlankBehindData →
        last.finish.1 = none ∧
          (push {} (bytes ++ [lineFeed, lineFeed])).1 =
            (push {} bytes).1 ++ last.pending.dispatch.toList) ∧
      last.finish.2.finish.1 = none := by
  intro last
  have hbuffer : lineFeed ∉ last.buffer := lineFeed_notMem_push_buffer {} bytes
  have hclosed : (push {} (bytes ++ [lineFeed, lineFeed])).1 =
      (push {} bytes).1 ++ (last.push [lineFeed, lineFeed]).1 :=
    congrArg (·.1) (push_append {} bytes [lineFeed, lineFeed])
  rw [hclosed, List.append_cancel_left_eq]
  refine ⟨⟨fun hsame hlost => ?_, fun hkept => (push_lineFeeds_eq_finish hbuffer hkept).symm⟩,
    fun hlost => ?_, rfl⟩
  · obtain ⟨hgiven, hevent, hdropped⟩ := push_lineFeeds_of_lost hbuffer hlost
    rw [hgiven, hdropped] at hsame
    exact hevent (Option.toList_eq_nil_iff.mp hsame.symm)
  · obtain ⟨hgiven, -, hdropped⟩ := push_lineFeeds_of_lost hbuffer hlost
    exact ⟨hdropped, by rw [hgiven]⟩

/-- The stream `data: x`, carriage return, line feed, carriage return: it ends inside the line
end that would complete the event, and the event is lost. -/
theorem event_lost_in_line_end :
    let bytes : Bytes := [100, 97, 116, 97, 58, 32, 120, 13, 10, 13]
    (push {} bytes).1 ++ (push {} bytes).2.finish.1.toList = [] ∧
      (push {} (bytes ++ [lineFeed, lineFeed])).1 = [⟨none, "x"⟩] := by
  decide +kernel

end EventDecoder

end FeatureFlags
