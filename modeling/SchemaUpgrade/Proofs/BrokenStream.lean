import SchemaUpgrade.Proofs.Segments
/-!
# Scripts on a stream that breaks

A stream breaks because it fails after its last byte or because a line of it is no UTF-8.  Of the
lines then only those before the break count that a line feed ends (`ByteStream.completeLines`), and
of their segments only those that a terminator ends: the splitter yields the batches of these
segments, then the error, and then nothing for ever.  An unterminated line is lost, and the batch
that is being collected at the break is lost with it, even if the end of the stream would have
completed it.

Complete lines and finished batches can only become more when bytes are added behind
(`Text.dropLast_splitOn_isPrefix_append` at both levels).  So whatever a stream yields before a
failure after any number of bytes is the beginning of what it yields without the failure, and no
truncated batch is ever seen (`Script.broken_stream_yields_finished`).
-/

namespace SchemaUpgrade

namespace Text

/-! ## Pieces that a separator ends -/

/-- The pieces that a separator ends are not changed by what follows. -/
theorem dropLast_splitOn_isPrefix_append {α : Type} [DecidableEq α] (separator : α)
    (front rest : List α) :
    (front.splitOn separator).dropLast <+: ((front ++ rest).splitOn separator).dropLast := by
  induction front using piece_induction separator with
  | unended last hlast =>
    rw [List.splitOn_eq_singleton hlast]
    exact List.nil_prefix
  | ended piece more hpiece ih =>
    have hmore : more.splitOn separator ≠ [] := List.splitOn_ne_nil _ _
    have hrest : (more ++ rest).splitOn separator ≠ [] := List.splitOn_ne_nil _ _
    rw [List.append_assoc, List.cons_append, List.splitOn_append_cons_self_of_not_mem hpiece,
      List.splitOn_append_cons_self_of_not_mem hpiece, List.dropLast_cons_of_ne_nil hmore,
      List.dropLast_cons_of_ne_nil hrest]
    exact (List.prefix_cons_inj piece).2 ih

/-! ## Complete lines -/

/-- The bytes of the lines that a line feed ends, without the carriage return just before it. -/
def endedLines (bytes : List UInt8) : List (List UInt8) :=
  (bytes.splitOn lineFeed).dropLast.map dropReturn

/-- The texts of lines before the first that is no UTF-8. -/
def readableLines (lines : List (List UInt8)) : List String :=
  (lines.takeWhile fun line => (decodeUtf8 line).isSome).filterMap decodeUtf8

namespace ByteStream

/-- Whether the stream fails, or a line of it is no UTF-8. -/
def Breaks (stream : ByteStream) : Prop :=
  stream.failure ≠ none ∨ ∃ line ∈ rawLines stream.bytes, decodeUtf8 line = none

/-- The lines that are read completely, line feed included, before a break. -/
def completeLines (stream : ByteStream) : List String :=
  readableLines (endedLines stream.bytes)

/-- The cause of a break: the failure of the stream, unless a line before it is no UTF-8. -/
def breakCause (stream : ByteStream) : ReadError :=
  if (endedLines stream.bytes).all fun line => (decodeUtf8 line).isSome then
    stream.failure.getD .notUtf8
  else .notUtf8

end ByteStream

theorem endedLines_of_not_mem {bytes : List UInt8} (h : lineFeed ∉ bytes) :
    endedLines bytes = [] := by
  rw [endedLines, List.splitOn_eq_singleton h]
  rfl

theorem endedLines_append_cons {line : List UInt8} (h : lineFeed ∉ line) (rest : List UInt8) :
    endedLines (line ++ lineFeed :: rest) = dropReturn line :: endedLines rest := by
  have hne : rest.splitOn lineFeed ≠ [] := List.splitOn_ne_nil _ _
  rw [endedLines, List.splitOn_append_cons_self_of_not_mem h, List.dropLast_cons_of_ne_nil hne]
  rfl

theorem readableLines_cons_of_some {line : List UInt8} {text : String}
    (h : decodeUtf8 line = some text) (lines : List (List UInt8)) :
    readableLines (line :: lines) = text :: readableLines lines := by
  simp [readableLines, h]

theorem readableLines_cons_of_none {line : List UInt8} (h : decodeUtf8 line = none)
    (lines : List (List UInt8)) : readableLines (line :: lines) = [] := by
  simp [readableLines, h]

/-- Further bytes do not change the lines that are complete already. -/
theorem readableLines_isPrefix_append (front rest : List UInt8) :
    readableLines (endedLines front) <+: readableLines (endedLines (front ++ rest)) := by
  obtain ⟨more, hmore⟩ := (dropLast_splitOn_isPrefix_append lineFeed front rest).map dropReturn
  rw [endedLines, endedLines, ← hmore]
  generalize (front.splitOn lineFeed).dropLast.map dropReturn = lines
  induction lines with
  | nil => exact List.nil_prefix
  | cons line lines ih =>
    cases hdecode : decodeUtf8 line with
    | none =>
      rw [readableLines_cons_of_none hdecode]
      exact List.nil_prefix
    | some text =>
      rw [List.cons_append, readableLines_cons_of_some hdecode, readableLines_cons_of_some hdecode]
      exact (List.prefix_cons_inj text).2 ih

/-! ## Reading -/

/-- The complete lines are read first, whatever comes behind them. -/
theorem ByteStream.completeLines_isPrefix_read (stream : ByteStream) :
    stream.completeLines <+: stream.read.lines := by
  rw [completeLines, read]
  induction stream.bytes using piece_induction lineFeed with
  | unended last hlast =>
    rw [endedLines_of_not_mem hlast]
    exact List.nil_prefix
  | ended line rest hline ih =>
    rw [endedLines_append_cons hline, readLines_append_cons hline, readThen]
    cases hdecode : decodeUtf8 (dropReturn line) with
    | none => simp [readableLines_cons_of_none hdecode]
    | some text =>
      rw [readableLines_cons_of_some hdecode]
      exact (List.prefix_cons_inj text).2 ih

/-- Nothing but the complete lines is read of a stream that breaks. -/
theorem ByteStream.read_of_breaks {stream : ByteStream} (h : stream.Breaks) :
    stream.read = ⟨stream.completeLines, some stream.breakCause⟩ := by
  obtain ⟨bytes, failure⟩ := stream
  simp only [Breaks, read, completeLines, breakCause] at h ⊢
  induction bytes using piece_induction lineFeed with
  | unended last hlast =>
    rw [rawLines_of_not_mem hlast] at h
    rw [readLines_of_not_mem hlast, endedLines_of_not_mem hlast]
    cases failure with
    | some error => rfl
    | none =>
      obtain ⟨line, hline, hdecode⟩ : ∃ line ∈ [last].filter (· ≠ []), decodeUtf8 line = none := by
        simpa using h
      obtain ⟨rfl, hne⟩ : line = last ∧ line ≠ [] := by
        simpa using hline
      simp [readLast, hdecode, hne, readableLines]
  | ended line rest hline ih =>
    rw [readLines_append_cons hline, endedLines_append_cons hline, readThen, List.all_cons]
    cases hdecode : decodeUtf8 (dropReturn line) with
    | none =>
      rw [readableLines_cons_of_none hdecode]
      rfl
    | some text =>
      have hlater : failure ≠ none ∨ ∃ line ∈ rawLines rest, decodeUtf8 line = none := by
        simpa [rawLines_append_cons hline, hdecode] using h
      rw [readableLines_cons_of_some hdecode]
      simp only [ih hlater, Reading.cons, Option.isSome_some, Bool.true_and]

end Text

namespace Script

open Text

/-! ## Finished batches -/

/-- The batches of the segments that a terminator ends. -/
def finishedOf (lines : List String) : List String :=
  batchesOfSegments (lines.splitOn terminator).dropLast

theorem finishedAfter_no_lines (lines : List String) :
    finishedAfter [] lines = finishedOf lines := by
  rw [finishedAfter, finishedOf]
  cases lines.splitOn terminator <;> rfl

/-- Further lines do not change the batches that are finished already. -/
theorem finishedOf_isPrefix_of_isPrefix {front lines : List String} (h : front <+: lines) :
    finishedOf front <+: finishedOf lines := by
  obtain ⟨rest, rfl⟩ := h
  exact (((dropLast_splitOn_isPrefix_append terminator front rest).map _).filter _).map _

/-- The finished batches are the first items, whether the reading broke or not. -/
theorem finishedOf_isPrefix_due (reading : Reading) :
    (finishedOf reading.lines).map .ok <+: (Splitter.ofReading reading).due := by
  show _ <+: itemsAfter reading.broken [] reading.lines
  cases reading.broken with
  | none =>
    rw [itemsAfter, batchesAfter_no_lines]
    have hfinished := List.dropLast_prefix (reading.lines.splitOn terminator)
    exact (((hfinished.map _).filter _).map _).map _
  | some error =>
    rw [itemsAfter, finishedAfter_no_lines]
    exact List.prefix_append _ _

theorem due_of_breaks {stream : ByteStream} (h : stream.Breaks) :
    (Splitter.ofReading stream.read).due
      = (finishedOf stream.completeLines).map .ok ++ [.error stream.breakCause] := by
  rw [ByteStream.read_of_breaks h]
  show itemsAfter (some stream.breakCause) [] stream.completeLines = _
  rw [itemsAfter, finishedAfter_no_lines]

/-- A stream that breaks yields the finished batches of its complete lines, then the cause of the
break, and nothing more at any later request.  A stream that fails after any number of its bytes
therefore yields batches, and then an error, of which the batches begin what the stream yields
without this failure. -/
theorem broken_stream_yields_finished (stream : ByteStream) :
    (stream.Breaks →
      items stream = (finishedOf stream.completeLines).map .ok ++ [.error stream.breakCause] ∧
      ∀ n, (Splitter.ofReading stream.read).answer n
        = ((finishedOf stream.completeLines).map .ok ++ [.error stream.breakCause])[n]?) ∧
    ∀ (n : Nat) (error : ReadError), ∃ (batches : List String) (cause : ReadError),
      items (stream.failingAfter n error) = batches.map .ok ++ [.error cause] ∧
        batches.map .ok <+: items stream := by
  constructor
  · intro h
    constructor
    · rw [items, Splitter.drain_due, due_of_breaks h]
    · intro n
      rw [Splitter.answer_due, due_of_breaks h]
  · intro n error
    let failing := stream.failingAfter n error
    have hbreaks : failing.Breaks := .inl (Option.some_ne_none error)
    -- the other stream may have an unterminated line or break as well, so only the complete lines
    -- of the two can be compared byte by byte
    have hcomplete : failing.completeLines <+: stream.completeLines := by
      have hgrown := readableLines_isPrefix_append (stream.bytes.take n) (stream.bytes.drop n)
      rwa [List.take_append_drop] at hgrown
    have hread : failing.completeLines <+: stream.read.lines :=
      hcomplete.trans stream.completeLines_isPrefix_read
    refine ⟨finishedOf failing.completeLines, failing.breakCause, ?_, ?_⟩
    · rw [items, Splitter.drain_due, due_of_breaks hbreaks]
    · rw [items, Splitter.drain_due]
      exact ((finishedOf_isPrefix_of_isPrefix hread).map Except.ok).trans
        (finishedOf_isPrefix_due stream.read)

/-- A stream that fails behind a terminator whose line feed is missing. -/
def cutShort : ByteStream where
  bytes := (ByteStream.ofString "A\n;\nB\n;").bytes
  failure := some (.other "read failed")

/-- The batch before the unfinished terminator is not yielded, although the end of the stream would
have completed it. -/
theorem broken_stream_yields_finished_cutShort :
    cutShort.Breaks ∧ items cutShort = [.ok "A", .error (.other "read failed")] ∧
      (∀ n, (Splitter.ofReading cutShort.read).answer (n + 2) = none) ∧
      items { cutShort with failure := none } = [.ok "A", .ok "B"] := by
  have hbreaks : cutShort.Breaks := .inl (by decide)
  obtain ⟨hitems, hanswers⟩ := (broken_stream_yields_finished cutShort).1 hbreaks
  have hdue : (finishedOf cutShort.completeLines).map Except.ok ++ [.error cutShort.breakCause]
      = [.ok "A", .error (.other "read failed")] := by decide +kernel
  rw [hdue] at hitems hanswers
  refine ⟨hbreaks, hitems, ?_, ?_⟩
  · intro n
    exact hanswers (n + 2)
  · rw [items, Splitter.drain_due]
    decide +kernel

end Script

end SchemaUpgrade
