import Mathlib.Data.List.DropRight
import SchemaUpgrade.Cli.Commands
/-!
# Tables are aligned and can be read back

In the table of any rows there is one width at which the first column ends, in the heading, in the
rule below it and in every row; and from the lines alone the rows can be read again, in order
(`Cli.printed_table_is_legible`).  Only spaces at the end of a key cannot be told from those that
fill it up, so two rows look alike exactly if they differ in nothing else
(`Cli.Table.Shows.alike_iff`).

The column is measured in bytes and filled up by characters.  Its lines end up aligned because a
text never has more characters than bytes (`Text.length_le_utf8ByteSize`), so that no key is wider
than the column.

## Main definitions

* `Cli.Table.Shows`: a line with two cells in columns.
* `Cli.Table.Aligned`: the lines of a table.
* `Cli.Table.read`: the rows that can be read from the lines of a table.
-/

namespace SchemaUpgrade

theorem Text.length_le_utf8ByteSize (text : String) : text.length ≤ text.utf8ByteSize := by
  rw [← text.ofList_toList]
  induction text.toList with
  | nil => simp
  | cons c rest ih =>
    have hpos : 0 < c.utf8Size := c.utf8Size_pos
    rw [String.length_ofList] at ih ⊢
    rw [String.ofList_cons, String.utf8ByteSize_append, String.utf8ByteSize_singleton,
      List.length_cons]
    omega

namespace Cli

/-! ## The width of the first column -/

namespace Table

theorem le_foldl_max (start : Nat) (rows : List Row) :
    start ≤ rows.foldl (fun width row => max width row.key.utf8ByteSize) start ∧
      ∀ row ∈ rows, row.key.utf8ByteSize
        ≤ rows.foldl (fun width row => max width row.key.utf8ByteSize) start := by
  induction rows generalizing start with
  | nil => exact ⟨Nat.le_refl start, fun row hmem => absurd hmem List.not_mem_nil⟩
  | cons first rest ih =>
    obtain ⟨hstart, hrest⟩ := ih (max start first.key.utf8ByteSize)
    refine ⟨Nat.le_trans (Nat.le_max_left _ _) hstart, fun row hmem => ?_⟩
    rcases List.mem_cons.1 hmem with rfl | hmem
    · exact Nat.le_trans (Nat.le_max_right _ _) hstart
    · exact hrest row hmem

theorem three_le_keyWidth (rows : List Row) : 3 ≤ keyWidth rows :=
  (le_foldl_max 3 rows).1

/-- No key is wider than the column. -/
theorem length_le_keyWidth {rows : List Row} {row : Row} (h : row ∈ rows) :
    row.key.length ≤ keyWidth rows :=
  Nat.le_trans (Text.length_le_utf8ByteSize row.key) ((le_foldl_max 3 rows).2 row h)

/-! ## Lines with two cells -/

/-- The line shows the first cell, filled up with spaces to a width, then two spaces, and then, from
the character `width + 2` on, the second cell. -/
structure Shows (width : Nat) (first second line : String) : Prop where
  first : line.toList.take width = first.toList ++ List.replicate (width - first.length) ' '
  gap : (line.toList.drop width).take 2 = [' ', ' ']
  second : line.toList.drop (width + 2) = second.toList

variable {width : Nat}

theorem shows_line {first : String} (second : String) (h : first.length ≤ width) :
    Shows width first second (line width first second) := by
  let cell := first.toList ++ List.replicate (width - first.length) ' '
  have hlength : cell.length = width := by
    rw [List.length_append, List.length_replicate, String.length_toList]
    omega
  have hline : (line width first second).toList = cell ++ ([' ', ' '] ++ second.toList) := by
    simp [line, fillUp, run, gap, cell]
  have hrest : (line width first second).toList.drop width = [' ', ' '] ++ second.toList := by
    rw [hline, List.drop_left' hlength]
  refine ⟨?_, ?_, ?_⟩
  · rw [hline, List.take_left' hlength]
  · rw [hrest]
    rfl
  · rw [← List.drop_drop, hrest]
    rfl

/-- A line that shows two cells has three parts. -/
theorem Shows.toList_eq {first second line : String} (h : Shows width first second line) :
    line.toList = line.toList.take width ++ ([' ', ' '] ++ second.toList) := by
  rw [← h.gap, ← h.second, ← List.drop_drop, List.take_append_drop, List.take_append_drop]

theorem Shows.length_take {first second line : String} (h : Shows width first second line) :
    (line.toList.take width).length = width := by
  have hgap : ((line.toList.drop width).take 2).length = 2 := congrArg List.length h.gap
  rw [List.length_take, List.length_drop] at hgap
  rw [List.length_take]
  omega

/-! ## Reading a line -/

/-- A text without the spaces at its end. -/
def trimmed (text : List Char) : List Char := text.rdropWhile (· = ' ')

theorem trimmed_append_spaces (text : List Char) (n : Nat) :
    trimmed (text ++ List.replicate n ' ') = trimmed text := by
  rw [trimmed, List.rdropWhile, List.reverse_append, List.reverse_replicate,
    List.dropWhile_append_of_pos (by simp), trimmed, List.rdropWhile]

theorem trimmed_append_replicate (text : List Char) :
    trimmed text ++ List.replicate (text.length - (trimmed text).length) ' ' = text := by
  have hparts : trimmed text ++ text.rtakeWhile (· = ' ') = text :=
    List.rdropWhile_append_rtakeWhile
  have hspaces : text.rtakeWhile (· = ' ')
      = List.replicate (text.rtakeWhile (· = ' ')).length ' ' :=
    List.eq_replicate_of_mem fun c hmem => by simpa using List.mem_rtakeWhile_imp hmem
  have hcount : (text.rtakeWhile (· = ' ')).length = text.length - (trimmed text).length := by
    have hlength := congrArg List.length hparts
    rw [List.length_append] at hlength
    omega
  rw [← hcount, ← hspaces, hparts]

/-- A text of known length can be told from what is left of it without the spaces at its end. -/
theorem eq_of_trimmed_eq {text other : List Char} (hlength : text.length = other.length)
    (h : trimmed text = trimmed other) : text = other := by
  rw [← trimmed_append_replicate text, ← trimmed_append_replicate other, h, hlength]

/-- The row that a line of a table shows. -/
def readLine (width : Nat) (line : String) : Row where
  key := String.ofList (trimmed (line.toList.take width))
  status := String.ofList (line.toList.drop (width + 2))

end Table

/-- A row as far as it can be read: spaces at the end of its key are taken for those that fill it
up. -/
def Row.legible (row : Row) : Row :=
  { row with key := String.ofList (Table.trimmed row.key.toList) }

namespace Table

variable {width : Nat}

theorem Shows.readLine_eq {row : Row} {line : String}
    (h : Shows width row.key row.status line) : readLine width line = row.legible := by
  rw [readLine, h.first, h.second, trimmed_append_spaces, String.ofList_toList, Row.legible]

/-- Two lines are alike exactly if the rows that they show differ at most in spaces at the end of
their keys. -/
theorem Shows.alike_iff {row other : Row} {line line' : String}
    (h : Shows width row.key row.status line) (h' : Shows width other.key other.status line') :
    line = line' ↔ row.legible = other.legible := by
  constructor
  · rintro rfl
    rw [← h.readLine_eq, ← h'.readLine_eq]
  · intro hsame
    have hread : readLine width line = readLine width line' := by
      rw [h.readLine_eq, h'.readLine_eq, hsame]
    have hkeys : trimmed (line.toList.take width) = trimmed (line'.toList.take width) :=
      String.ofList_injective (congrArg Row.key hread)
    have hstatuses : row.status = other.status := by
      simpa only [Row.legible] using congrArg Row.status hsame
    -- The first parts have one length, so they end with equally many spaces.
    have hfirst := eq_of_trimmed_eq (h.length_take.trans h'.length_take.symm) hkeys
    apply String.toList_injective
    rw [h.toList_eq, h'.toList_eq, hfirst, hstatuses]

/-! ## Whole tables -/

/-- The lines are a table of the rows with a first column of this width. -/
structure Aligned (width : Nat) (rows : List Row) (footer : String) (lines : List String) :
    Prop where
  three_le : 3 ≤ width
  fits : ∀ row ∈ rows, row.key.length ≤ width
  /-- The heading, the rule and one line for each row, in order, then an empty line and the footer.
  Rows look alike only if they have the same status and keys that differ at most in spaces at their
  end. -/
  lines : ∃ (heading rule : String) (print : Row → String),
    lines = heading :: rule :: rows.map print ++ ["", footer] ∧
    Shows width "KEY" "STATUS" heading ∧
    Shows width (run '-' width) (run '-' 8) rule ∧
    (∀ row ∈ rows, Shows width row.key row.status (print row)) ∧
    ∀ row ∈ rows, ∀ other ∈ rows, print row = print other ↔ row.legible = other.legible

theorem aligned_lines (rows : List Row) (footer : String) :
    Aligned (keyWidth rows) rows footer (lines rows footer) := by
  let width := keyWidth rows
  have hrows : ∀ row ∈ rows, Shows width row.key row.status (line width row.key row.status) :=
    fun row hmem => shows_line row.status (length_le_keyWidth hmem)
  have hrule : (run '-' width).length ≤ width := by simp [run]
  refine ⟨three_le_keyWidth rows, fun row => length_le_keyWidth, ?_⟩
  exact ⟨line width "KEY" "STATUS", line width (run '-' width) (run '-' 8),
    fun row => line width row.key row.status, rfl,
    shows_line "STATUS" (three_le_keyWidth rows), shows_line (run '-' 8) hrule, hrows,
    fun row hrow other hother => (hrows row hrow).alike_iff (hrows other hother)⟩

/-- The width of the first column, as the rule shows it. -/
def readWidth (lines : List String) : Nat :=
  ((lines[1]?.getD "").toList.takeWhile (· = '-')).length

/-- The rows of a table, read from its lines. -/
def read (lines : List String) : List Row :=
  (lines.drop 2).dropLast.dropLast.map (readLine (readWidth lines))

theorem Shows.takeWhile_rule {text line : String} (h : Shows width (run '-' width) text line) :
    line.toList.takeWhile (· = '-') = List.replicate width '-' := by
  have hfront : line.toList.take width = List.replicate width '-' := by
    rw [h.first]
    simp [run]
  rw [h.toList_eq, hfront, List.takeWhile_append_of_pos (by simp)]
  simp

theorem Aligned.read_eq {rows : List Row} {footer : String} {lines : List String}
    (h : Aligned width rows footer lines) :
    readWidth lines = width ∧ read lines = rows.map Row.legible := by
  obtain ⟨heading, rule, print, rfl, -, hrule, hrows, -⟩ := h.lines
  have hwidth : readWidth (heading :: rule :: rows.map print ++ ["", footer]) = width := by
    have hsecond : readWidth (heading :: rule :: rows.map print ++ ["", footer])
        = (rule.toList.takeWhile (· = '-')).length := rfl
    rw [hsecond, hrule.takeWhile_rule, List.length_replicate]
  refine ⟨hwidth, ?_⟩
  have hbody : ((heading :: rule :: rows.map print ++ ["", footer]).drop 2).dropLast.dropLast
      = rows.map print := by
    simp
  rw [read, hwidth, hbody, List.map_map]
  exact List.map_congr_left fun row hmem => (hrows row hmem).readLine_eq

/-! ## The printed text -/

/-- The text of printed lines. -/
def textOf (lines : List String) : String := String.join (lines.map (· ++ "\n"))

/-- The text is all on one line. -/
def Unbroken (text : String) : Prop := '\n' ∉ text.toList

theorem splitOn_textOf {lines : List String} (h : ∀ line ∈ lines, Unbroken line) :
    (textOf lines).toList.splitOn '\n' = lines.map String.toList ++ [[]] := by
  induction lines with
  | nil => rfl
  | cons first rest ih =>
    have hcut : (textOf (first :: rest)).toList = first.toList ++ '\n' :: (textOf rest).toList := by
      simp [textOf]
    rw [hcut, List.splitOn_append_cons_self_of_not_mem (h first List.mem_cons_self),
      ih fun line hmem => h line (List.mem_cons_of_mem _ hmem)]
    rfl

theorem unbroken_line {first second : String} (h : Unbroken first) (h' : Unbroken second) :
    Unbroken (line width first second) := by
  unfold Unbroken at h h' ⊢
  simp [line, fillUp, run, gap, h, h']

theorem unbroken_lines {rows : List Row} {footer : String}
    (hrows : ∀ row ∈ rows, Unbroken row.key ∧ Unbroken row.status) (hfooter : Unbroken footer) :
    ∀ line ∈ lines rows footer, Unbroken line := by
  have hdashes (n : Nat) : Unbroken (run '-' n) := by simp [Unbroken, run]
  simp only [lines, List.cons_append, List.mem_cons, List.mem_append, List.mem_map,
    List.not_mem_nil, or_false]
  rintro line (rfl | rfl | ⟨row, hmem, rfl⟩ | rfl | rfl)
  · exact unbroken_line (by simp [Unbroken, keyHeading]) (by simp [Unbroken, statusHeading])
  · exact unbroken_line (hdashes _) (hdashes _)
  · exact unbroken_line (hrows row hmem).1 (hrows row hmem).2
  · simp [Unbroken]
  · exact hfooter

end Table

/-- The table of any rows is printed in columns, and the rows can be read back from it.  If no cell
holds a line feed, the lines can be told from the text that is printed. -/
theorem printed_table_is_legible (rows : List Row) (footer : String) (host : Host) :
    (printTable rows footer host).state.console.out
      = host.console.out ++ Table.lines rows footer ∧
    (∃ width, Table.Aligned width rows footer (Table.lines rows footer)) ∧
    Table.read (Table.lines rows footer) = rows.map Row.legible ∧
    ((∀ row ∈ rows, Table.Unbroken row.key ∧ Table.Unbroken row.status) → Table.Unbroken footer →
      (Table.textOf (Table.lines rows footer)).toList.splitOn '\n'
        = (Table.lines rows footer).map String.toList ++ [[]]) := by
  have haligned := Table.aligned_lines rows footer
  exact ⟨rfl, ⟨_, haligned⟩, haligned.read_eq.2, fun hrows hfooter =>
    Table.splitOn_textOf (Table.unbroken_lines hrows hfooter)⟩

/-- A key with more bytes than characters, and one that ends with a space. -/
theorem printed_table_is_legible_umlauts :
    let rows : List Row := [⟨"01_größe", "applied"⟩, ⟨"02 ", "pending"⟩]
    let footer := "1 applied, 1 pending"
    let lines := ["KEY         STATUS", "----------  --------", "01_größe    applied",
      "02          pending", "", footer]
    (∀ row ∈ rows, Table.Unbroken row.key ∧ Table.Unbroken row.status) ∧ Table.Unbroken footer ∧
      Table.lines rows footer = lines ∧ (∃ width, Table.Aligned width rows footer lines) ∧
      Table.read lines = [⟨"01_größe", "applied"⟩, ⟨"02", "pending"⟩] ∧
      (Table.textOf lines).toList.splitOn '\n' = lines.map String.toList ++ [[]] := by
  intro rows footer lines
  have hrows : ∀ row ∈ rows, Table.Unbroken row.key ∧ Table.Unbroken row.status := by
    simp [rows, Table.Unbroken]
  have hfooter : Table.Unbroken footer := by simp [footer, Table.Unbroken]
  have hlines : Table.lines rows footer = lines := by decide +kernel
  obtain ⟨-, haligned, hread, htext⟩ := printed_table_is_legible rows footer {}
  rw [hlines] at haligned hread htext
  have hlegible : rows.map Row.legible = [⟨"01_größe", "applied"⟩, ⟨"02", "pending"⟩] := by
    decide +kernel
  exact ⟨hrows, hfooter, hlines, haligned, hread.trans hlegible, htext hrows hfooter⟩

end Cli

end SchemaUpgrade
