import SchemaUpgrade.Migration
import SchemaUpgrade.Proofs.Segments
/-!
# Line endings

A line is ended by a line feed, or by a carriage return and a line feed, and a script may mix the
two.  Reading takes the ending off: it goes on from line to line in the same way whichever of them
stands there (`Text.readLines_withEndings`, whose right side speaks of the lines alone).  Two
streams that differ in the endings only are therefore the same script, and executing them is the
same work (`Script.endings_are_indifferent`).

That a line does not itself end in a carriage return is needed: of two carriage returns before a
line feed one belongs to the line.  Carriage returns elsewhere in a line do no harm, and an
unterminated last line keeps those it ends with in both streams.
-/

namespace SchemaUpgrade

namespace Text

/-- What stands at the end of a line. -/
inductive LineEnding where
  | lineFeed
  | returnLineFeed
  deriving DecidableEq, Repr, Inhabited

/-- The bytes of an ending. -/
def LineEnding.bytes : LineEnding → List UInt8
  | .lineFeed => [Text.lineFeed]
  | .returnLineFeed => [carriageReturn, Text.lineFeed]

/-- Whether bytes can be told apart from the ending behind them: they hold no line feed and do not
end in a carriage return. -/
def IsLine (line : List UInt8) : Prop :=
  lineFeed ∉ line ∧ line.getLast? ≠ some carriageReturn

instance (line : List UInt8) : Decidable (IsLine line) :=
  inferInstanceAs (Decidable (_ ∧ _))

/-- The bytes of lines, each with its ending. -/
def withEndings (lines : List (List UInt8 × LineEnding)) : List UInt8 :=
  lines.flatMap fun line => line.1 ++ line.2.bytes

variable {failure : Option ReadError}

/-- An ending is taken off its line, and reading goes on behind it. -/
theorem readLines_ending {line : List UInt8} (h : IsLine line) (ending : LineEnding)
    (rest : List UInt8) :
    readLines failure (line ++ ending.bytes ++ rest) = readThen line (readLines failure rest) := by
  obtain ⟨hfeed, hreturn⟩ := h
  cases ending with
  | lineFeed =>
    have hdrop : dropReturn line = line := if_neg hreturn
    rw [LineEnding.bytes, List.append_assoc, List.singleton_append, readLines_append_cons hfeed,
      hdrop]
  | returnLineFeed =>
    have hdrop : dropReturn (line ++ [carriageReturn]) = line := by
      simp [dropReturn]
    have hfeed' : lineFeed ∉ line ++ [carriageReturn] := by
      simp [hfeed, show lineFeed ≠ carriageReturn by decide]
    have hbytes : line ++ LineEnding.bytes .returnLineFeed ++ rest
        = (line ++ [carriageReturn]) ++ lineFeed :: rest := by
      simp [LineEnding.bytes]
    rw [hbytes, readLines_append_cons hfeed', hdrop]

/-- Lines are read one after another, whatever their endings are, and then what stands behind the
last of them. -/
theorem readLines_withEndings {lines : List (List UInt8 × LineEnding)}
    (h : ∀ line ∈ lines.map Prod.fst, IsLine line) (last : List UInt8) :
    readLines failure (withEndings lines ++ last)
      = (lines.map Prod.fst).foldr readThen (readLines failure last) := by
  induction lines with
  | nil => rfl
  | cons line rest ih =>
    rw [List.map_cons, List.forall_mem_cons] at h
    have hbytes : withEndings (line :: rest) ++ last
        = line.1 ++ line.2.bytes ++ (withEndings rest ++ last) := by
      simp [withEndings]
    rw [hbytes, readLines_ending h.1, ih h.2, List.map_cons, List.foldr_cons]

end Text

namespace Script

open Text

/-- Two streams of the same lines, each with endings of its own, and with the same bytes behind the
last ending: they are read alike, line by line, they yield the same items at the same requests, and
to execute one of them is to execute the other, at every site. -/
theorem endings_are_indifferent (first second : List (List UInt8 × LineEnding)) (last : List UInt8)
    (failure : Option ReadError) (hsame : first.map Prod.fst = second.map Prod.fst)
    (hlines : ∀ line ∈ first.map Prod.fst, IsLine line) :
    let stream : ByteStream := ⟨withEndings first ++ last, failure⟩
    let other : ByteStream := ⟨withEndings second ++ last, failure⟩
    stream.read = (first.map Prod.fst).foldr readThen (readLines failure last) ∧
      items stream = items other ∧
      (∀ n, (Splitter.ofReading stream.read).answer n = (Splitter.ofReading other.read).answer n) ∧
      ∀ key route site, execute stream key route site = execute other key route site := by
  intro stream other
  have hread : stream.read = (first.map Prod.fst).foldr readThen (readLines failure last) :=
    readLines_withEndings hlines last
  have hother : other.read = (second.map Prod.fst).foldr readThen (readLines failure last) :=
    readLines_withEndings (hsame ▸ hlines) last
  have halike : stream.read = other.read := by
    rw [hread, hother, hsame]
  have hitems : items stream = items other := by
    rw [items, items, halike]
  refine ⟨hread, hitems, ?_, ?_⟩
  · intro n
    rw [halike]
  · intro key route site
    rw [execute, execute, hitems]

/-- A batch, its terminator, a line that is no UTF-8, and an unterminated line: with the endings one
way round, and the other way round. -/
theorem endings_are_indifferent_mixed :
    let first := [([65], LineEnding.lineFeed), ([59], .returnLineFeed), ([255], .lineFeed)]
    let second := [([65], LineEnding.returnLineFeed), ([59], .lineFeed), ([255], .returnLineFeed)]
    first.map Prod.fst = second.map Prod.fst ∧ (∀ line ∈ first.map Prod.fst, IsLine line) ∧
      items ⟨withEndings first ++ [66], none⟩ = items ⟨withEndings second ++ [66], none⟩ ∧
      items ⟨withEndings first ++ [66], none⟩ = [.ok "A", .error .notUtf8] := by
  intro first second
  have hsame : first.map Prod.fst = second.map Prod.fst := rfl
  have hlines : ∀ line ∈ first.map Prod.fst, IsLine line := by decide
  obtain ⟨hread, hitems, -, -⟩ := endings_are_indifferent first second [66] none hsame hlines
  refine ⟨hsame, hlines, hitems, ?_⟩
  rw [items, hread, Splitter.drain_due]
  decide +kernel

end Script

end SchemaUpgrade
