import FeatureFlags.Stream.Event

/-!
# Chunks of an event stream

Where a stream is cut into chunks has no bearing on the events decoded from it.

A decoder keeps of the past only the event being received and the bytes behind the
last line feed.  `cutLines_append` is what makes that enough: the lines of a longer
stream are the lines so far, followed by those of the unfinished line together with
what comes after it.  Text is only ever decoded one complete line at a time, so it
does not matter either that a cut may lie inside a character.

It follows that taking in two chunks is taking in one (`EventDecoder.push_append`), and
that a decoder between two chunks takes in any number of chunks like their
concatenation (`EventDecoder.pushAll_eq_push`).
-/

namespace FeatureFlags

open Text.Utf8 (Bytes)

/-! ## Complete lines -/

/-- Bytes without a line feed are an unfinished line. -/
theorem cutLines_of_notMem {bytes : Bytes} (hbytes : lineFeed ∉ bytes) :
    cutLines bytes = ([], bytes) := by
  induction bytes with
  | nil => rfl
  | cons b rest ih =>
      obtain ⟨hb, hrest⟩ := List.ne_and_not_mem_of_not_mem_cons hbytes
      simp only [cutLines, ih hrest, if_neg hb.symm]

/-- What is left unfinished has no line feed. -/
theorem lineFeed_notMem_unfinished (bytes : Bytes) : lineFeed ∉ (cutLines bytes).2 := by
  induction bytes with
  | nil => exact List.not_mem_nil
  | cons b rest ih =>
      simp only [cutLines]
      split
      · exact ih
      · rename_i hb
        split
        · exact ih
        · exact List.not_mem_cons_of_ne_of_not_mem (Ne.symm hb) ih

/-- The lines of a stream that goes on: those so far, and those of the unfinished line with
what comes behind it. -/
theorem cutLines_append (bytes more : Bytes) :
    cutLines (bytes ++ more) =
      ((cutLines bytes).1 ++ (cutLines ((cutLines bytes).2 ++ more)).1,
        (cutLines ((cutLines bytes).2 ++ more)).2) := by
  induction bytes with
  | nil => rfl
  | cons b rest ih =>
      by_cases hb : b = lineFeed
      · simp only [List.cons_append, cutLines, ih, if_pos hb]
      · cases hlines : (cutLines rest).1 with
        | nil =>
            -- the byte belongs to the unfinished line, on either side
            simp only [List.cons_append, cutLines, ih, if_neg hb, hlines, List.nil_append]
        | cons line later => simp only [List.cons_append, cutLines, ih, if_neg hb, hlines]

/-- A line feed completes the line in front of it. -/
theorem cutLines_line {line : Bytes} (hline : lineFeed ∉ line) (rest : Bytes) :
    cutLines (line ++ lineFeed :: rest) = (line :: (cutLines rest).1, (cutLines rest).2) := by
  induction line with
  | nil => simp only [List.nil_append, cutLines, if_pos]
  | cons b more ih =>
      obtain ⟨hb, hmore⟩ := List.ne_and_not_mem_of_not_mem_cons hline
      simp only [List.cons_append, cutLines, ih hmore, if_neg hb.symm]

theorem PendingEvent.readLines_append (pending : PendingEvent) (lines more : List (List Char)) :
    pending.readLines (lines ++ more) =
      ((pending.readLines lines).1 ++ ((pending.readLines lines).2.readLines more).1,
        ((pending.readLines lines).2.readLines more).2) := by
  induction lines generalizing pending with
  | nil => rfl
  | cons line rest ih =>
      simp only [List.cons_append, readLines, ih, List.append_assoc]

/-! ## Taking in chunks -/

namespace EventDecoder

/-- Takes in chunks in order. -/
def pushAll (decoder : EventDecoder) : List Bytes → List StreamEvent × EventDecoder
  | [] => ([], decoder)
  | chunk :: rest =>
    let (events, next) := decoder.push chunk
    let (later, last) := pushAll next rest
    (events ++ later, last)

/-- The buffer holds no line feed from one chunk to the next. -/
theorem lineFeed_notMem_push_buffer (decoder : EventDecoder) (chunk : Bytes) :
    lineFeed ∉ (decoder.push chunk).2.buffer :=
  lineFeed_notMem_unfinished (decoder.buffer ++ chunk)

/-- An empty chunk changes nothing. -/
theorem push_nil {decoder : EventDecoder} (hbuffer : lineFeed ∉ decoder.buffer) :
    decoder.push [] = ([], decoder) := by
  simp only [push, List.append_nil, cutLines_of_notMem hbuffer, List.map_nil,
    PendingEvent.readLines]

/-- Two chunks in a row are taken in like one. -/
theorem push_append (decoder : EventDecoder) (chunk more : Bytes) :
    decoder.push (chunk ++ more) =
      ((decoder.push chunk).1 ++ ((decoder.push chunk).2.push more).1,
        ((decoder.push chunk).2.push more).2) := by
  simp only [push, ← List.append_assoc, cutLines_append (decoder.buffer ++ chunk) more,
    List.map_append, PendingEvent.readLines_append]

/-- Chunks are taken in like their concatenation. -/
theorem pushAll_eq_push {decoder : EventDecoder} (hbuffer : lineFeed ∉ decoder.buffer)
    (chunks : List Bytes) : decoder.pushAll chunks = decoder.push chunks.flatten := by
  induction chunks generalizing decoder with
  | nil => exact (push_nil hbuffer).symm
  | cons chunk rest ih =>
      rw [List.flatten_cons, push_append]
      simp only [pushAll, ih (decoder.lineFeed_notMem_push_buffer chunk)]

/-- **Chunking does not matter.**  Two ways of cutting a stream into chunks, wherever the
cuts lie and however many chunks are empty, give the same events and the same end. -/
theorem events_of_rechunking {chunks others : List Bytes}
    (hbytes : chunks.flatten = others.flatten) :
    (pushAll {} chunks).1 = (pushAll {} others).1 ∧
      (pushAll {} chunks).2.finish = (pushAll {} others).2.finish := by
  have hchunks : pushAll {} chunks = pushAll {} others := by
    rw [pushAll_eq_push List.not_mem_nil, pushAll_eq_push List.not_mem_nil, hbytes]
  exact ⟨congrArg (·.1) hchunks, congrArg (·.2.finish) hchunks⟩

/-- Cuts inside a character and inside both line ends, and an empty chunk: the event is the
one of the whole stream. -/
theorem events_of_cut_character :
    let whole : List Bytes := [[100, 97, 116, 97, 58, 32, 0xC3, 0xA9, 13, 10, 13, 10]]
    let pieces : List Bytes :=
      [[100, 97, 116, 97, 58, 32, 0xC3], [], [0xA9, 13], [10, 13], [10]]
    pieces.flatten = whole.flatten ∧
      (pushAll {} pieces).1 = [⟨none, "é"⟩] ∧
      (pushAll {} pieces).1 = (pushAll {} whole).1 ∧
      (pushAll {} pieces).2.finish = (pushAll {} whole).2.finish := by
  intro whole pieces
  have hbytes : pieces.flatten = whole.flatten := by decide
  exact ⟨hbytes, by decide +kernel, events_of_rechunking hbytes⟩

end EventDecoder

end FeatureFlags
