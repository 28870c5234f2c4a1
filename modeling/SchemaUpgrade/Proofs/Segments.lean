import Mathlib.Data.List.TakeWhile
import SchemaUpgrade.Script
/-!
# Scripts, segment by segment

A splitter collects lines one after another and decides at each of them.  What it yields can be said
of the lines as a whole: cut them at every line that is exactly `;`, drop the blank lines and the
comments that a segment starts with, leave out the segments of which nothing remains, and join the
lines of the others (`Script.batchesOf`).  A splitter on a stream that can be read to its end yields
exactly these batches, and then nothing for ever (`Script.answer_eq_batchesOf`).

The link between the two is what a splitter has still to yield (`Splitter.due`): a request takes the
first of it and leaves the rest (`Splitter.next_due`), on a broken stream as well.  While it
collects, the batch is the text of the lines of the segment that were kept so far, and it is blank
only if there are none (`Script.isBlank_joined`), because the first line that is kept has text in
it.

The lines of a stream are described in the same way (`Text.rawLines`): its bytes are cut at every
line feed.  Facts about them go piece by piece (`Text.piece_induction`), and so does the reading of
them (`Text.readLines_append_cons`).

## Main definitions

* `Text.rawLines`: the lines of a stream's bytes, before they are decoded.
* `Script.batchesOf`: the batches of lines, segment by segment.
* `Splitter.answer`: what a splitter answers to its requests, one after another.
-/

namespace SchemaUpgrade

/-! ## The lines of a stream -/

namespace Text

/-- The bytes of the lines: what a line feed ends is a line, without the carriage return just before
it, and what stands behind the last line feed is a line as it is, unless it is empty. -/
def rawLines (bytes : List UInt8) : List (List UInt8) :=
  let pieces := bytes.splitOn lineFeed
  pieces.dropLast.map dropReturn ++ pieces.getLast?.toList.filter (· ≠ [])

theorem rawLines_of_not_mem {bytes : List UInt8} (h : lineFeed ∉ bytes) :
    rawLines bytes = [bytes].filter (· ≠ []) := by
  rw [rawLines, List.splitOn_eq_singleton h]
  rfl

theorem rawLines_append_cons {line : List UInt8} (h : lineFeed ∉ line) (rest : List UInt8) :
    rawLines (line ++ lineFeed :: rest) = dropReturn line :: rawLines rest := by
  have hne : rest.splitOn lineFeed ≠ [] := List.splitOn_ne_nil _ _
  rw [rawLines, List.splitOn_append_cons_self_of_not_mem h]
  simp only [List.dropLast_cons_of_ne_nil hne, List.map_cons, List.cons_append,
    List.getLast?_cons_of_ne_nil hne]
  rfl

/-- A list is cut at its first separator, and what follows it in the same way, until a piece without
any is left. -/
@[elab_as_elim]
theorem piece_induction {α : Type} [DecidableEq α] (separator : α) {motive : List α → Prop}
    (unended : ∀ last, separator ∉ last → motive last)
    (ended : ∀ piece rest, separator ∉ piece → motive rest → motive (piece ++ separator :: rest))
    (list : List α) : motive list := by
  by_cases h : separator ∈ list
  · obtain ⟨piece, rest, hlist, hpiece⟩ := List.eq_append_cons_of_mem h
    have hshorter : rest.length < list.length := by
      rw [hlist, List.length_append, List.length_cons]
      omega
    rw [hlist]
    exact ended piece rest hpiece (piece_induction separator unended ended rest)
  · exact unended list h
termination_by list.length

/-- The reading that a line starts and another reading goes on with. -/
def readThen (line : List UInt8) (reading : Reading) : Reading :=
  match decodeUtf8 line with
  | some text => reading.cons text
  | none => ⟨[], some .notUtf8⟩

variable {failure : Option ReadError}

theorem readLines_of_not_mem {bytes : List UInt8} (h : lineFeed ∉ bytes) :
    readLines failure bytes = readLast failure bytes := by
  have hnone : bytes.dropWhile (· != lineFeed) = [] := by
    rw [List.dropWhile_eq_nil_iff]
    intro byte hbyte
    simpa using ne_of_mem_of_not_mem hbyte h
  rw [readLines]
  split
  · rfl
  · rename_i hsome
    rw [hnone] at hsome
    exact absurd hsome (by simp)

theorem readLines_append_cons {line : List UInt8} (h : lineFeed ∉ line) (rest : List UInt8) :
    readLines failure (line ++ lineFeed :: rest)
      = readThen (dropReturn line) (readLines failure rest) := by
  have hplain : ∀ byte ∈ line, (byte != lineFeed) = true := by
    intro byte hbyte
    simpa using ne_of_mem_of_not_mem hbyte h
  have hdrop : (line ++ lineFeed :: rest).dropWhile (· != lineFeed) = lineFeed :: rest := by
    rw [List.dropWhile_append_of_pos hplain, List.dropWhile_cons_of_neg (by simp)]
  have htake : (line ++ lineFeed :: rest).takeWhile (· != lineFeed) = line := by
    rw [List.takeWhile_append_of_pos hplain, List.takeWhile_cons_of_neg (by simp), List.append_nil]
  rw [readLines]
  split
  · rename_i hnone
    rw [hdrop] at hnone
    exact absurd hnone (by simp)
  · rename_i hsome
    rw [hdrop] at hsome
    obtain ⟨-, rfl⟩ := List.cons.inj hsome
    rw [htake]
    rfl

/-- A stream that ends and whose lines are all UTF-8 is read to its end, line by line. -/
theorem readLines_eq {bytes : List UInt8} {lines : List String}
    (h : (rawLines bytes).map decodeUtf8 = lines.map some) :
    readLines none bytes = ⟨lines, none⟩ := by
  induction bytes using piece_induction lineFeed generalizing lines with
  | unended last hlast =>
    rw [rawLines_of_not_mem hlast] at h
    rw [readLines_of_not_mem hlast, readLast]
    cases last with
    | nil =>
      obtain rfl : lines = [] := by simpa using h.symm
      rfl
    | cons byte bytes =>
      have hone : lines.map some = [decodeUtf8 (byte :: bytes)] := by simpa using h.symm
      obtain ⟨line, more, rfl, hdecode, hmore⟩ := List.map_eq_cons_iff.1 hone
      obtain rfl := List.map_eq_nil_iff.1 hmore
      simp [← hdecode]
  | ended line rest hline ih =>
    rw [rawLines_append_cons hline, List.map_cons] at h
    obtain ⟨first, more, rfl, hfirst, hmore⟩ := List.map_eq_cons_iff.1 h.symm
    rw [readLines_append_cons hline, ih hmore.symm, readThen, ← hfirst]
    rfl

theorem ByteStream.read_eq {stream : ByteStream} {lines : List String}
    (hends : stream.failure = none)
    (hlines : (rawLines stream.bytes).map decodeUtf8 = lines.map some) :
    stream.read = ⟨lines, none⟩ := by
  rw [read, hends, readLines_eq hlines]

end Text

namespace Script

open Text

/-! ## Batches, segment by segment -/

/-- The batches of segments: of each the lines from the first on that is neither blank nor a
comment, unless nothing remains, joined by line feeds. -/
def batchesOfSegments (segments : List (List String)) : List String :=
  ((segments.map fun segment => segment.dropWhile isSkipped).filter (· ≠ [])).map
    (String.intercalate "\n")

/-- The batches of lines that are cut at every terminator. -/
def batchesOf (lines : List String) : List String :=
  batchesOfSegments (lines.splitOn terminator)

theorem batchesOfSegments_cons (segment : List String) (segments : List (List String)) :
    batchesOfSegments (segment :: segments)
      = batchesOfSegments [segment] ++ batchesOfSegments segments := by
  by_cases h : segment.dropWhile isSkipped = [] <;> simp [batchesOfSegments, h]

/-! ## The batch that is being collected -/

/-- The lines of a segment that were kept: the first of them is neither blank nor a comment. -/
def Kept (lines : List String) : Prop :=
  ∀ first, lines.head? = some first → isSkipped first = false

theorem kept_nil : Kept [] := by
  intro first hfirst
  exact absurd hfirst (by simp)

theorem Kept.dropWhile {lines : List String} (h : Kept lines) :
    lines.dropWhile isSkipped = lines := by
  cases lines with
  | nil => rfl
  | cons first rest =>
    have hfirst := h first rfl
    exact List.dropWhile_cons_of_neg (by simp [hfirst])

/-- The batch of kept lines is blank only if there are none. -/
theorem isBlank_joined {lines : List String} (h : Kept lines) :
    isBlank (String.intercalate "\n" lines) = lines.isEmpty := by
  cases lines with
  | nil => exact isBlank_empty
  | cons first rest =>
    have hfirst := h first rfl
    rw [isSkipped, Bool.or_eq_false_iff] at hfirst
    cases rest with
    | nil => simpa using hfirst.1
    | cons second rest =>
      rw [String.intercalate_cons_cons, isBlank_append, isBlank_append, hfirst.1]
      rfl

theorem isEmpty_joined {lines : List String} (h : Kept lines) :
    (String.intercalate "\n" lines).isEmpty = lines.isEmpty := by
  cases lines with
  | nil => rfl
  | cons first rest =>
    have hblank := isBlank_joined h
    rw [List.isEmpty_cons] at hblank ⊢
    rw [Bool.eq_false_iff]
    intro hempty
    rw [String.isEmpty_iff.1 hempty, isBlank_empty] at hblank
    exact absurd hblank (by decide)

/-- One more line of a segment is dropped, if nothing was kept before, or joins what was kept. -/
theorem extend_joined {kept : List String} (h : Kept kept) (line : String) :
    ∃ kept', Kept kept' ∧
      extend (String.intercalate "\n" kept) line = String.intercalate "\n" kept' ∧
      ∀ rest, (kept ++ line :: rest).dropWhile isSkipped
        = (kept' ++ rest).dropWhile isSkipped := by
  cases kept with
  | nil =>
    cases hskipped : isSkipped line with
    | true =>
      refine ⟨[], kept_nil, ?_, ?_⟩
      · rw [extend, if_pos (by rfl), if_pos hskipped]
      · intro rest
        exact List.dropWhile_cons_of_pos hskipped
    | false =>
      refine ⟨[line], ?_, ?_, ?_⟩
      · intro first hfirst
        rw [← Option.some.inj hfirst]
        exact hskipped
      · rw [extend, if_pos (by rfl), if_neg (by simp [hskipped]), String.intercalate_singleton]
      · intro rest
        rfl
  | cons first more =>
    have hne : first :: more ≠ [] := List.cons_ne_nil _ _
    have hfull : (String.intercalate "\n" (first :: more)).isEmpty = false := isEmpty_joined h
    refine ⟨first :: more ++ [line], ?_, ?_, ?_⟩
    · intro other hother
      exact h other hother
    · rw [extend, if_neg (by simp [hfull]),
        String.intercalate_append_of_ne_nil hne (List.cons_ne_nil _ _),
        String.intercalate_singleton]
    · intro rest
      rw [List.append_assoc, List.singleton_append]

/-- A segment of kept lines is a batch, unless it has none. -/
theorem batchesOfSegments_kept {kept : List String} (h : Kept kept) :
    batchesOfSegments [kept]
      = if kept.isEmpty then [] else [String.intercalate "\n" kept] := by
  rw [batchesOfSegments, List.map_singleton, h.dropWhile]
  cases kept <;> rfl

/-- The batches of lines that follow the kept lines of the same segment. -/
def batchesAfter (kept lines : List String) : List String :=
  batchesOfSegments ((lines.splitOn terminator).modifyHead (kept ++ ·))

/-- These batches without that of the segment that no terminator ends. -/
def finishedAfter (kept lines : List String) : List String :=
  batchesOfSegments ((lines.splitOn terminator).modifyHead (kept ++ ·)).dropLast

/-- The items of lines that follow the kept lines of the same segment.  If the stream broke behind
them, its error stands in place of the segment that no terminator ends. -/
def itemsAfter (broken : Option ReadError) (kept lines : List String) : List Item :=
  match broken with
  | none => (batchesAfter kept lines).map .ok
  | some error => (finishedAfter kept lines).map .ok ++ [.error error]

theorem batchesAfter_no_lines (lines : List String) : batchesAfter [] lines = batchesOf lines := by
  rw [batchesAfter, batchesOf]
  cases lines.splitOn terminator <;> rfl

/-- The kept lines of a segment that a terminator ends. -/
theorem modifyHead_splitOn_terminator (kept rest : List String) :
    ((terminator :: rest).splitOn terminator).modifyHead (kept ++ ·)
      = kept :: rest.splitOn terminator := by
  rw [List.splitOn_cons_eq_if_modifyHead, if_pos (by simp), List.modifyHead_cons, List.append_nil]

/-- Whatever comes of a segment depends on what remains of it alone. -/
theorem itemsAfter_line {kept kept' : List String} {line : String} (hline : line ≠ terminator)
    (hsame : ∀ rest, (kept ++ line :: rest).dropWhile isSkipped
      = (kept' ++ rest).dropWhile isSkipped) (broken : Option ReadError) (rest : List String) :
    itemsAfter broken kept (line :: rest) = itemsAfter broken kept' rest := by
  obtain ⟨segment, segments, hsegments⟩ :=
    List.exists_cons_of_ne_nil (List.splitOn_ne_nil terminator rest)
  have hcut : (line :: rest).splitOn terminator = (line :: segment) :: segments := by
    rw [List.splitOn_cons_eq_if_modifyHead, if_neg (by simpa using hline), hsegments,
      List.modifyHead_cons]
  cases broken with
  | none =>
    simp only [itemsAfter, batchesAfter, hcut, hsegments, List.modifyHead_cons, batchesOfSegments,
      List.map_cons, hsame]
  | some error =>
    cases segments <;>
      simp [itemsAfter, finishedAfter, hcut, hsegments, batchesOfSegments, hsame]

/-- What the kept lines come to when nothing follows them. -/
theorem itemsAfter_nil {kept : List String} (h : Kept kept) (broken : Option ReadError) :
    itemsAfter broken kept [] = match broken with
      | none => if kept.isEmpty then [] else [.ok (String.intercalate "\n" kept)]
      | some error => [.error error] := by
  cases broken with
  | none =>
    have hwhole : batchesAfter kept [] = batchesOfSegments [kept] := by
      rw [batchesAfter, List.splitOn_nil, List.modifyHead_cons, List.append_nil]
    rw [itemsAfter, hwhole, batchesOfSegments_kept h]
    cases kept <;> rfl
  | some error => rfl

/-- A terminator ends the batch of the kept lines, if they are one. -/
theorem itemsAfter_terminator {kept : List String} (h : Kept kept) (broken : Option ReadError)
    (rest : List String) :
    itemsAfter broken kept (terminator :: rest)
      = (if kept.isEmpty then [] else [.ok (String.intercalate "\n" kept)])
        ++ itemsAfter broken [] rest := by
  have hne : rest.splitOn terminator ≠ [] := List.splitOn_ne_nil terminator rest
  have hsame : (rest.splitOn terminator).modifyHead ([] ++ ·) = rest.splitOn terminator := by
    cases rest.splitOn terminator <;> rfl
  cases broken with
  | none =>
    rw [itemsAfter, itemsAfter, batchesAfter, batchesAfter, modifyHead_splitOn_terminator, hsame,
      batchesOfSegments_cons, batchesOfSegments_kept h, List.map_append]
    cases kept <;> rfl
  | some error =>
    rw [itemsAfter, itemsAfter, finishedAfter, finishedAfter, modifyHead_splitOn_terminator, hsame,
      List.dropLast_cons_of_ne_nil hne, batchesOfSegments_cons, batchesOfSegments_kept h,
      List.map_append, List.append_assoc]
    cases kept <;> rfl

/-- Items are batches, and an error comes last if there is one. -/
theorem exists_batches (broken : Option ReadError) (kept lines : List String) :
    ∃ batches : List String,
      itemsAfter broken kept lines = batches.map .ok ++ broken.toList.map .error := by
  cases broken with
  | none => exact ⟨batchesAfter kept lines, by simp [itemsAfter]⟩
  | some error => exact ⟨finishedAfter kept lines, rfl⟩

/-! ## What a splitter yields -/

namespace Splitter

/-- What a splitter has still to yield. -/
def due (splitter : Splitter) : List Item :=
  if splitter.finished then [] else itemsAfter splitter.broken [] splitter.lines

/-- A splitter that has collected the kept lines yields the first of the items that follow, and
the others remain due. -/
theorem gather_joined {kept : List String} (h : Kept kept) (broken : Option ReadError)
    (lines : List String) :
    let gathered := gather broken (String.intercalate "\n" kept) lines
    gathered.1 = (itemsAfter broken kept lines).head? ∧
      gathered.2.due = (itemsAfter broken kept lines).tail := by
  induction lines generalizing kept with
  | nil =>
    rw [itemsAfter_nil h]
    cases broken with
    | none =>
      simp only [gather, isBlank_joined h]
      cases kept.isEmpty <;> exact ⟨rfl, rfl⟩
    | some error => exact ⟨rfl, rfl⟩
  | cons line rest ih =>
    by_cases hline : line = terminator
    · subst hline
      rw [gather, if_pos rfl, isBlank_joined h, itemsAfter_terminator h]
      cases kept.isEmpty with
      | true => exact ih kept_nil
      | false => exact ⟨rfl, rfl⟩
    · obtain ⟨kept', hkept', hextend, hsame⟩ := extend_joined h line
      rw [gather, if_neg hline, hextend, itemsAfter_line hline hsame]
      exact ih hkept'

/-- A request is answered by the first item that is due, and leaves the others. -/
theorem next_due (splitter : Splitter) :
    splitter.next.1 = splitter.due.head? ∧ splitter.next.2.due = splitter.due.tail := by
  rw [next, due]
  cases hfinished : splitter.finished with
  | true =>
    refine ⟨rfl, ?_⟩
    exact if_pos hfinished
  | false => exact gather_joined kept_nil splitter.broken splitter.lines

/-- The splitter after so many requests. -/
def after (splitter : Splitter) : Nat → Splitter
  | 0 => splitter
  | n + 1 => splitter.next.2.after n

/-- What a splitter answers to request number `n`, counted from zero. -/
def answer (splitter : Splitter) (n : Nat) : Option Item := (splitter.after n).next.1

theorem answer_due (splitter : Splitter) (n : Nat) : splitter.answer n = splitter.due[n]? := by
  induction n generalizing splitter with
  | zero =>
    rw [← List.head?_eq_getElem?]
    exact splitter.next_due.1
  | succ n ih =>
    rw [← List.getElem?_tail, ← splitter.next_due.2]
    exact ih splitter.next.2

/-- Nothing is due behind an error. -/
theorem due_eq_of_error {splitter : Splitter} {error : ReadError}
    (h : splitter.due.head? = some (.error error)) : splitter.due = [.error error] := by
  rw [due] at h ⊢
  cases hfinished : splitter.finished with
  | true => simp [hfinished] at h
  | false =>
    obtain ⟨batches, hitems⟩ := exists_batches splitter.broken [] splitter.lines
    rw [hfinished] at h
    simp only [hitems] at h ⊢
    cases batches with
    | nil =>
      cases hbroken : splitter.broken with
      | none => simp [hbroken] at h
      | some cause => simpa [hbroken] using h
    | cons batch rest => simp at h

theorem drain_due (splitter : Splitter) : splitter.drain.1 = splitter.due := by
  fun_induction drain splitter with
  | case1 splitter rest hnext =>
    have hfirst := splitter.next_due.1
    rw [hnext] at hfirst
    exact (List.head?_eq_none_iff.1 hfirst.symm).symm
  | case2 splitter error rest hnext =>
    have hfirst := splitter.next_due.1
    rw [hnext] at hfirst
    exact (due_eq_of_error hfirst.symm).symm
  | case3 splitter batch rest hnext items last hrest ih =>
    obtain ⟨hfirst, hlater⟩ := splitter.next_due
    rw [hnext] at hfirst hlater
    obtain ⟨later, hdue⟩ := List.head?_eq_some_iff.1 hfirst.symm
    rw [hrest, hlater, hdue] at ih
    rw [hdue]
    exact congrArg (.ok batch :: ·) ih

/-- The batches that a splitter on an unbroken reading has still to yield. -/
def remaining (splitter : Splitter) : List String :=
  if splitter.finished then [] else batchesOf splitter.lines

theorem due_eq_remaining {splitter : Splitter} (h : splitter.broken = none) :
    splitter.due = splitter.remaining.map .ok := by
  rw [due, remaining, h, itemsAfter, batchesAfter_no_lines]
  cases splitter.finished <;> rfl

theorem answer_eq {splitter : Splitter} (h : splitter.broken = none) (n : Nat) :
    splitter.answer n = splitter.remaining[n]?.map .ok := by
  rw [answer_due, due_eq_remaining h, List.getElem?_map]

theorem drain_eq {splitter : Splitter} (h : splitter.broken = none) :
    splitter.drain.1 = splitter.remaining.map .ok := by
  rw [drain_due, due_eq_remaining h]

end Splitter

theorem items_of_read {stream : ByteStream} {lines : List String}
    (h : stream.read = ⟨lines, none⟩) : items stream = (batchesOf lines).map .ok := by
  rw [items, h, Splitter.drain_eq rfl]
  rfl

/-- A splitter on a stream that can be read to its end yields the batches of the stream's lines, one
at each request, and nothing at any request after the last. -/
theorem answer_eq_batchesOf (stream : ByteStream) (lines : List String)
    (hends : stream.failure = none)
    (hlines : (rawLines stream.bytes).map decodeUtf8 = lines.map some) :
    items stream = (batchesOf lines).map .ok ∧
      ∀ n, (Splitter.ofReading stream.read).answer n = (batchesOf lines)[n]?.map .ok := by
  have hread : stream.read = ⟨lines, none⟩ := ByteStream.read_eq hends hlines
  have hbroken : (Splitter.ofReading stream.read).broken = none := by
    rw [hread]
    rfl
  have hremaining : (Splitter.ofReading stream.read).remaining = batchesOf lines := by
    rw [hread]
    rfl
  constructor
  · rw [items, Splitter.drain_eq hbroken, hremaining]
  · intro n
    rw [Splitter.answer_eq hbroken, hremaining]

/-- A stream with comments inside and outside of batches, both kinds of line endings, an empty and a
blank segment, and text behind the last terminator. -/
def mixed : ByteStream :=
  ByteStream.ofString "-- tables\n\n;\r\nA\n\n-- kept\n;\n;\n\u00a0\n;\nB"

/-- The lines of the mixed stream. -/
def mixedLines : List String :=
  ["-- tables", "", ";", "A", "", "-- kept", ";", ";", "\u00a0", ";", "B"]

theorem answer_eq_batchesOf_mixed :
    mixed.failure = none ∧ (rawLines mixed.bytes).map decodeUtf8 = mixedLines.map some ∧
      items mixed = [.ok "A\n\n-- kept", .ok "B"] ∧
      ∀ n, (Splitter.ofReading mixed.read).answer (n + 2) = none := by
  have hends : mixed.failure = none := rfl
  have hlines : (rawLines mixed.bytes).map decodeUtf8 = mixedLines.map some := by decide +kernel
  have hbatches : batchesOf mixedLines = ["A\n\n-- kept", "B"] := by decide +kernel
  obtain ⟨hitems, hanswers⟩ := answer_eq_batchesOf mixed mixedLines hends hlines
  rw [hbatches] at hitems hanswers
  refine ⟨hends, hlines, hitems, ?_⟩
  intro n
  exact hanswers (n + 2)

end Script

end SchemaUpgrade
