import SchemaUpgrade.Text.Blank
import SchemaUpgrade.Text.Lines
/-!
# Scripts and their batches

A script is a sequence of lines, cut into batches.  A line that is exactly `;` ends a batch; what
follows the last such line is a batch of its own.  A semicolon at the end of a longer line ends
nothing, since procedural blocks contain their own.  Lines that are blank or start with `--` are
dropped as long as the batch is empty, because some engines reject a leading comment; inside a
batch they are kept.  A batch is the text of its lines joined by line feeds, and a batch without
any text is skipped.

A `Splitter` yields the batches one after another.  When the stream under it broke, it yields the
error in place of the batch it was collecting and then nothing more.

## Main definitions

* `Splitter.next`: the next batch, and the splitter that yields the rest.
* `Splitter.drain`: everything a splitter yields, and the exhausted splitter.
* `items`: the items that a byte stream splits into.
-/

namespace SchemaUpgrade.Script

open Text

/-- The line that ends a batch. -/
def terminator : String := ";"

/-- The first characters of a comment line. -/
def commentMark : List Char := ['-', '-']

/-- Whether a line is a comment as far as the start of a batch is concerned. -/
def isComment (line : String) : Bool :=
  commentMark.isPrefixOf line.toList

/-- Whether a line is dropped at the start of a batch. -/
def isSkipped (line : String) : Bool :=
  isBlank line || isComment line

/-- The batch collected so far with one more line. -/
def extend (batch line : String) : String :=
  if batch.isEmpty then
    if isSkipped line then batch else line
  else batch ++ "\n" ++ line

/-- An item of a split script: a batch, or the error that broke the stream. -/
abbrev Item := Except ReadError String

/-- The lines still to be split, and what comes after them. -/
structure Splitter where
  lines : List String
  broken : Option ReadError
  finished : Bool := false
  deriving DecidableEq, Repr, Inhabited

namespace Splitter

/-- A splitter at the start of a reading. -/
def ofReading (reading : Reading) : Splitter where
  lines := reading.lines
  broken := reading.broken

/-- A splitter that yields nothing more. -/
def done (broken : Option ReadError) : Splitter where
  lines := []
  broken := broken
  finished := true

/-- Collects lines onto `batch` until a batch with text in it is complete. -/
def gather (broken : Option ReadError) (batch : String) : List String → Option Item × Splitter
  | [] =>
    match broken with
    | some error => (some (.error error), done broken)
    | none => (if isBlank batch then none else some (.ok batch), done broken)
  | line :: rest =>
    if line = terminator then
      if isBlank batch then gather broken "" rest
      else (some (.ok batch), { lines := rest, broken := broken })
    else gather broken (extend batch line) rest

/-- The next item, if there is one, and the splitter that yields the items after it. -/
def next (splitter : Splitter) : Option Item × Splitter :=
  if splitter.finished then (none, splitter)
  else gather splitter.broken "" splitter.lines

/-- An upper bound on the number of items still to come. -/
def size (splitter : Splitter) : Nat :=
  if splitter.finished then 0 else splitter.lines.length + 1

theorem size_gather_le (broken : Option ReadError) (batch : String) (lines : List String) :
    (gather broken batch lines).2.size ≤ lines.length := by
  induction lines generalizing batch with
  | nil => cases broken <;> simp [gather, done, size]
  | cons line rest ih =>
    simp only [gather]
    split
    · split
      · exact Nat.le_succ_of_le (ih "")
      · simp [size]
    · exact Nat.le_succ_of_le (ih _)

theorem size_next_lt {splitter : Splitter} {item : Item} {rest : Splitter}
    (h : splitter.next = (some item, rest)) : rest.size < splitter.size := by
  unfold next at h
  split at h
  · simp at h
  · rename_i hopen
    have := size_gather_le splitter.broken "" splitter.lines
    rw [h] at this
    simp only [size, hopen] at this ⊢
    simpa using Nat.lt_succ_of_le this

/-- Everything that a splitter yields up to its first error or its end, and what it is then. -/
def drain (splitter : Splitter) : List Item × Splitter :=
  match _h : splitter.next with
  | (none, rest) => ([], rest)
  | (some (.error error), rest) => ([.error error], rest)
  | (some (.ok batch), rest) =>
    let (items, last) := rest.drain
    (.ok batch :: items, last)
termination_by splitter.size
decreasing_by exact size_next_lt _h

end Splitter

/-- The items that a byte stream splits into. -/
def items (stream : ByteStream) : List Item :=
  (Splitter.ofReading stream.read).drain.1

end SchemaUpgrade.Script
