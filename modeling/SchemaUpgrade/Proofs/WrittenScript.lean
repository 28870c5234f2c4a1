import SchemaUpgrade.Proofs.LineEndings
import SchemaUpgrade.Proofs.Utf8
/-!
# Writing batches out

Batches are written out as a script, each followed by a line feed, the terminator and a line feed
(`Script.writeOut`).  A batch survives this if it is *normal*: it is made of lines of which the
first is neither blank nor a comment, none is the terminator, and none ends in a carriage return
(`Script.IsNormal`).  Each of the conditions is needed, since a batch that violates it is dropped in
part, cut, or read without the carriage return.

The two directions meet in the lines.  What is written out is read as the lines of the batches with
a terminator behind each (`Script.read_writeOut`), and a segment of lines that are kept is a batch.
Back, a batch that was split off consists of lines of one segment, so it is normal unless a line of
the script ends in a carriage return (`Script.isNormalBatch_of_mem_batchesOf`).
-/

namespace SchemaUpgrade

namespace Text

/-! ## Pieces between separators -/

/-- What lies between separators is made of the other elements of the list. -/
theorem mem_of_mem_splitOn {α : Type} [DecidableEq α] {separator : α} {list piece : List α}
    (h : piece ∈ list.splitOn separator) :
    ∀ element ∈ piece, element ≠ separator ∧ element ∈ list := by
  induction list using piece_induction separator with
  | unended last hlast =>
    rw [List.splitOn_eq_singleton hlast, List.mem_singleton] at h
    intro element helement
    rw [h] at helement
    exact ⟨ne_of_mem_of_not_mem helement hlast, helement⟩
  | ended first rest hfirst ih =>
    rw [List.splitOn_append_cons_self_of_not_mem hfirst, List.mem_cons] at h
    intro element helement
    rcases h with rfl | h
    · exact ⟨ne_of_mem_of_not_mem helement hfirst, List.mem_append_left _ helement⟩
    · obtain ⟨hne, hmem⟩ := ih h element helement
      exact ⟨hne, List.mem_append_right _ (List.mem_cons_of_mem _ hmem)⟩

/-- No line holds a line feed. -/
theorem not_mem_of_mem_rawLines {bytes line : List UInt8} (h : line ∈ rawLines bytes) :
    lineFeed ∉ line := by
  induction bytes using piece_induction lineFeed with
  | unended last hlast =>
    rw [rawLines_of_not_mem hlast] at h
    obtain ⟨rfl, -⟩ : line = last ∧ line ≠ [] := by simpa using h
    exact hlast
  | ended first rest hfirst ih =>
    rw [rawLines_append_cons hfirst, List.mem_cons] at h
    rcases h with rfl | h
    · intro hmem
      have hsub : dropReturn first ⊆ first := by
        rw [dropReturn]
        split
        · exact List.dropLast_subset first
        · exact List.Subset.refl first
      exact hfirst (hsub hmem)
    · exact ih h

/-! ## Texts made of lines -/

/-- Whether a line of text can be told apart from a line feed behind it. -/
def IsTextLine (line : String) : Prop :=
  '\n' ∉ line.toList ∧ line.toList.getLast? ≠ some '\r'

instance (line : String) : Decidable (IsTextLine line) :=
  inferInstanceAs (Decidable (_ ∧ _))

theorem IsTextLine.isLine_encode {line : String} (h : IsTextLine line) : IsLine (encode line) := by
  obtain ⟨hfeed, hreturn⟩ := h
  constructor
  · intro hmem
    exact hfeed ((mem_encode_iff (c := '\n') (by decide)).1 hmem)
  · intro hlast
    exact hreturn (getLast?_of_encode (c := '\r') (by decide) hlast)

/-- Texts of lines, read back as they were. -/
theorem foldr_readThen_encode (lines : List String) :
    (lines.map encode).foldr readThen ⟨[], none⟩ = ⟨lines, none⟩ := by
  induction lines with
  | nil => rfl
  | cons line rest ih =>
    have hdecode : decodeUtf8 (encode line) = some line := decodeUtf8_eq_some_iff.2 rfl
    rw [List.map_cons, List.foldr_cons, ih, readThen, hdecode]
    rfl

/-- A text of lines that are ended by line feeds is read as these lines. -/
theorem read_ofString {lines : List String} (h : ∀ line ∈ lines, IsTextLine line) {text : String}
    (htext : text.toList = lines.flatMap fun line => line.toList ++ ['\n']) :
    (ByteStream.ofString text).read = ⟨lines, none⟩ := by
  let ended := lines.map fun line => (encode line, LineEnding.lineFeed)
  have hended : ended.map Prod.fst = lines.map encode := by
    simp [ended, List.map_map, Function.comp_def]
  have hbytes : (ByteStream.ofString text).bytes = withEndings ended ++ [] := by
    show encode text = _
    rw [encode_eq, htext, List.flatMap_assoc, List.append_nil, withEndings, List.flatMap_map]
    simp only [List.flatMap_append, ← encode_eq]
    rfl
  have hlines : ∀ line ∈ ended.map Prod.fst, IsLine line := by
    rw [hended, List.forall_mem_map]
    intro line hline
    exact (h line hline).isLine_encode
  have hlast : readLines none [] = ⟨[], none⟩ := readLines_of_not_mem List.not_mem_nil
  rw [ByteStream.read, hbytes, readLines_withEndings hlines, hended, ByteStream.ofString, hlast]
  exact foldr_readThen_encode lines

end Text

namespace Script

open Text

/-- A batch and what ends it. -/
def writeBatch (batch : String) : String :=
  batch ++ "\n" ++ terminator ++ "\n"

/-- The script of batches, each with its end. -/
def writeOut (batches : List String) : String :=
  String.join (batches.map writeBatch)

/-- The lines of a batch that is read back as it was written. -/
structure IsNormal (lines : List String) : Prop where
  nonempty : lines ≠ []
  /-- The first line is not dropped. -/
  starts : ∀ first, lines.head? = some first → isBlank first = false ∧ isComment first = false
  /-- No line ends the batch, and each can be told apart from the line feed behind it. -/
  plain : ∀ line ∈ lines, line ≠ terminator ∧ IsTextLine line

/-- A batch that is made of such lines. -/
def IsNormalBatch (batch : String) : Prop :=
  ∃ lines, IsNormal lines ∧ batch = String.intercalate "\n" lines

/-! ## From batches to a script and back -/

theorem IsNormal.kept {lines : List String} (h : IsNormal lines) : Kept lines := by
  intro first hfirst
  obtain ⟨hblank, hcomment⟩ := h.starts first hfirst
  rw [isSkipped, hblank, hcomment]
  rfl

/-- Normal batches are made of normal lines. -/
theorem exists_lines {batches : List String} (h : ∀ batch ∈ batches, IsNormalBatch batch) :
    ∃ pieces : List (List String), (∀ lines ∈ pieces, IsNormal lines) ∧
      batches = pieces.map (String.intercalate "\n") := by
  induction batches with
  | nil => exact ⟨[], by simp, rfl⟩
  | cons batch rest ih =>
    rw [List.forall_mem_cons] at h
    obtain ⟨lines, hlines, rfl⟩ := h.1
    obtain ⟨pieces, hpieces, rfl⟩ := ih h.2
    exact ⟨lines :: pieces, List.forall_mem_cons.2 ⟨hlines, hpieces⟩, rfl⟩

/-- The lines of batches that are written out. -/
def writtenLines (pieces : List (List String)) : List String :=
  pieces.flatMap (· ++ [terminator])

theorem toList_intercalate_append {lines : List String} (h : lines ≠ []) :
    (String.intercalate "\n" lines).toList ++ ['\n']
      = lines.flatMap fun line => line.toList ++ ['\n'] := by
  induction lines with
  | nil => exact absurd rfl h
  | cons first rest ih =>
    cases rest with
    | nil => simp
    | cons second rest =>
      have hrest := ih (List.cons_ne_nil _ _)
      rw [List.flatMap_cons, ← hrest, String.intercalate_cons_cons]
      simp

theorem toList_writeOut {pieces : List (List String)} (h : ∀ lines ∈ pieces, IsNormal lines) :
    (writeOut (pieces.map (String.intercalate "\n"))).toList
      = (writtenLines pieces).flatMap fun line => line.toList ++ ['\n'] := by
  induction pieces with
  | nil => rfl
  | cons lines rest ih =>
    rw [List.forall_mem_cons] at h
    have hlines := toList_intercalate_append h.1.nonempty
    have hrest := ih h.2
    rw [writeOut] at hrest ⊢
    rw [writtenLines, List.flatMap_cons, List.flatMap_append, List.flatMap_append, ← hlines,
      ← writtenLines, ← hrest]
    simp [writeBatch]

/-- Batches that are written out are read as their lines, with a terminator behind each batch. -/
theorem read_writeOut {pieces : List (List String)} (h : ∀ lines ∈ pieces, IsNormal lines) :
    (ByteStream.ofString (writeOut (pieces.map (String.intercalate "\n")))).read
      = ⟨writtenLines pieces, none⟩ := by
  refine read_ofString ?_ (toList_writeOut h)
  intro line hline
  rw [writtenLines, List.mem_flatMap] at hline
  obtain ⟨lines, hlines, hmem⟩ := hline
  rw [List.mem_append, List.mem_singleton] at hmem
  rcases hmem with hmem | rfl
  · exact ((h lines hlines).plain line hmem).2
  · exact ⟨by decide, by decide⟩

theorem batchesOf_writtenLines {pieces : List (List String)}
    (h : ∀ lines ∈ pieces, IsNormal lines) :
    batchesOf (writtenLines pieces) = pieces.map (String.intercalate "\n") := by
  induction pieces with
  | nil => rfl
  | cons lines rest ih =>
    rw [List.forall_mem_cons] at h
    have hplain : terminator ∉ lines := fun hmem => (h.1.plain _ hmem).1 rfl
    have hcut : writtenLines (lines :: rest) = lines ++ terminator :: writtenLines rest := by
      simp [writtenLines]
    have hrest := ih h.2
    rw [batchesOf] at hrest ⊢
    rw [hcut, List.splitOn_append_cons_self_of_not_mem hplain, batchesOfSegments_cons,
      batchesOfSegments_kept h.1.kept, hrest]
    simp [h.1.nonempty]

/-- Normal batches are read back as they were written. -/
theorem items_writeOut {batches : List String} (h : ∀ batch ∈ batches, IsNormalBatch batch) :
    items (ByteStream.ofString (writeOut batches)) = batches.map .ok := by
  obtain ⟨pieces, hpieces, rfl⟩ := exists_lines h
  rw [items_of_read (read_writeOut hpieces), batchesOf_writtenLines hpieces]

/-! ## From a script to batches -/

/-- A batch of lines that can be told apart from their endings is normal. -/
theorem isNormalBatch_of_mem_batchesOf {lines : List String} (h : ∀ line ∈ lines, IsTextLine line)
    {batch : String} (hbatch : batch ∈ batchesOf lines) : IsNormalBatch batch := by
  rw [batchesOf, batchesOfSegments, List.mem_map] at hbatch
  obtain ⟨kept, hkept, rfl⟩ := hbatch
  rw [List.mem_filter, List.mem_map] at hkept
  obtain ⟨⟨segment, hsegment, rfl⟩, hne⟩ := hkept
  have hnonempty : segment.dropWhile isSkipped ≠ [] := by simpa using hne
  refine ⟨_, ⟨hnonempty, ?_, ?_⟩, rfl⟩
  · intro first hfirst
    have hstart := List.head_dropWhile_not isSkipped hnonempty
    rw [List.head?_eq_some_head hnonempty, Option.some.injEq] at hfirst
    rw [hfirst, isSkipped, Bool.or_eq_false_iff] at hstart
    exact hstart
  · intro line hline
    obtain ⟨hother, hmem⟩ :=
      mem_of_mem_splitOn hsegment line ((List.dropWhile_sublist _).subset hline)
    exact ⟨hother, h line hmem⟩

/-- The lines of a script are texts without line feeds. -/
theorem not_mem_of_decoded {bytes : List UInt8} {lines : List String}
    (h : (rawLines bytes).map decodeUtf8 = lines.map some) {line : String} (hline : line ∈ lines) :
    '\n' ∉ line.toList := by
  have hmem : some line ∈ (rawLines bytes).map decodeUtf8 := by
    rw [h]
    exact List.mem_map_of_mem hline
  obtain ⟨raw, hraw, hdecode⟩ := List.mem_map.1 hmem
  have hencode : encode line = raw := decodeUtf8_eq_some_iff.1 hdecode
  intro hfeed
  apply not_mem_of_mem_rawLines hraw
  rw [← hencode]
  exact (mem_encode_iff (c := '\n') (by decide)).2 hfeed

/-- Normal batches are read back as they were written, and a script that can be read and of which no
line ends in a carriage return splits into normal batches, so these are what the batches written out
split into again. -/
theorem split_of_written :
    (∀ batches, (∀ batch ∈ batches, IsNormalBatch batch) →
      items (ByteStream.ofString (writeOut batches)) = batches.map .ok) ∧
    ∀ (stream : ByteStream) (lines : List String), stream.failure = none →
      (rawLines stream.bytes).map decodeUtf8 = lines.map some →
      (∀ line ∈ lines, line.toList.getLast? ≠ some '\r') →
      ∃ batches : List String, items stream = batches.map .ok ∧
        (∀ batch ∈ batches, IsNormalBatch batch) ∧
        items (ByteStream.ofString (writeOut batches)) = items stream := by
  refine ⟨fun batches h => items_writeOut h, ?_⟩
  intro stream lines hends hlines hreturns
  have hitems : items stream = (batchesOf lines).map .ok :=
    items_of_read (ByteStream.read_eq hends hlines)
  have htext : ∀ line ∈ lines, IsTextLine line := fun line hline =>
    ⟨not_mem_of_decoded hlines hline, hreturns line hline⟩
  have hnormal : ∀ batch ∈ batchesOf lines, IsNormalBatch batch := fun batch hbatch =>
    isNormalBatch_of_mem_batchesOf htext hbatch
  refine ⟨batchesOf lines, hitems, hnormal, ?_⟩
  rw [items_writeOut hnormal, hitems]

/-- Two normal batches, the first with a comment and a semicolon inside and the second with a blank
line at its end, and a script with all that is lost when it is split. -/
theorem split_of_written_mixed :
    (∀ batch ∈ ["A\n\n-- kept;", "B\n"], IsNormalBatch batch) ∧
      items (ByteStream.ofString (writeOut ["A\n\n-- kept;", "B\n"]))
        = [.ok "A\n\n-- kept;", .ok "B\n"] ∧
      mixed.failure = none ∧ (rawLines mixed.bytes).map decodeUtf8 = mixedLines.map some ∧
      (∀ line ∈ mixedLines, line.toList.getLast? ≠ some '\r') ∧
      ∃ batches : List String, items mixed = batches.map .ok ∧
        (∀ batch ∈ batches, IsNormalBatch batch) ∧
        items (ByteStream.ofString (writeOut batches)) = items mixed := by
  have hnormal : ∀ batch ∈ ["A\n\n-- kept;", "B\n"], IsNormalBatch batch := by
    rw [List.forall_mem_cons, List.forall_mem_singleton]
    refine ⟨⟨["A", "", "-- kept;"], ⟨by simp, ?_, by decide +kernel⟩, by decide +kernel⟩,
      ⟨["B", ""], ⟨by simp, ?_, by decide +kernel⟩, by decide +kernel⟩⟩
    all_goals
      intro first hfirst
      rw [← Option.some.inj hfirst]
      decide +kernel
  have hends : mixed.failure = none := rfl
  have hlines : (rawLines mixed.bytes).map decodeUtf8 = mixedLines.map some := by decide +kernel
  have hreturns : ∀ line ∈ mixedLines, line.toList.getLast? ≠ some '\r' := by decide +kernel
  obtain ⟨hwritten, hsplit⟩ := split_of_written
  exact ⟨hnormal, hwritten _ hnormal, hends, hlines, hreturns,
    hsplit mixed mixedLines hends hlines hreturns⟩

end Script

end SchemaUpgrade
