import SchemaUpgrade.Proofs.Templates
/-!
# Substitution is exact

A template is a list of texts with the placeholder between them, and rendering it puts the name of
the table in the place of each placeholder and touches nothing else
(`Dialect.substitution_is_exact`).  The texts may hold braces, and a text may even end with the
beginning of a placeholder, or start with the end of one: the placeholder has only one opening
brace, its first character, so no occurrence of it overlaps another (`Dialect.not_prefix_append`).

So a template that has a placeholder tells different names apart, whatever their lengths are.  And
since only letters, digits and underscores are allowed in a name, no name that is allowed changes
what is left of the statement without those characters: its quotes, blanks and semicolons.

## Main definitions

* `Dialect.pieces`: the texts between the placeholders of a template.
* `Dialect.skeleton`: a text without the characters that are allowed in names.
-/

namespace SchemaUpgrade.Dialect

/-! ## Lists with a separator between them -/

section Intercalate

variable {α : Type}

theorem prefix_intercalate (separator first : List α) (more : List (List α)) :
    first <+: separator.intercalate (first :: more) := by
  cases more with
  | nil => exact ⟨[], by rw [List.intercalate_singleton, List.append_nil]⟩
  | cons second more =>
    rw [List.intercalate_cons_cons, List.append_assoc]
    exact List.prefix_append first _

theorem length_intercalate_cons (separator first : List α) (more : List (List α)) :
    (separator.intercalate (first :: more)).length
      = (first :: more).flatten.length + more.length * separator.length := by
  induction more generalizing first with
  | nil => simp
  | cons second more ih =>
    rw [List.intercalate_cons_cons, List.length_append, List.length_append, ih]
    simp only [List.flatten_cons, List.length_append, List.length_cons, Nat.succ_mul]
    omega

/-- With two texts or more, the separator can be told from the whole. -/
theorem intercalate_injective (first second : List α) (more : List (List α)) :
    Function.Injective fun separator => List.intercalate separator (first :: second :: more) := by
  intro one other heq
  have hwhole : one.intercalate (first :: second :: more)
      = other.intercalate (first :: second :: more) := heq
  have hlengths := congrArg List.length hwhole
  rw [length_intercalate_cons, length_intercalate_cons] at hlengths
  have hlength : one.length = other.length :=
    Nat.eq_of_mul_eq_mul_left (Nat.succ_pos more.length) (Nat.add_left_cancel hlengths)
  rw [List.intercalate_cons_cons, List.intercalate_cons_cons, List.append_assoc,
    List.append_assoc] at hwhole
  exact List.append_inj_left (List.append_cancel_left hwhole) hlength

/-- A separator of which nothing is kept leaves nothing. -/
theorem filter_intercalate {keep : α → Bool} {separator : List α}
    (h : separator.filter keep = []) (segments : List (List α)) :
    (separator.intercalate segments).filter keep = segments.flatten.filter keep := by
  induction segments with
  | nil => rfl
  | cons first rest ih =>
    cases rest with
    | nil => simp
    | cons second more =>
      have hflatten : (first :: second :: more).flatten = first ++ (second :: more).flatten := rfl
      rw [List.intercalate_cons_cons, List.filter_append, List.filter_append, h, List.append_nil,
        ih, hflatten, List.filter_append]

end Intercalate

/-! ## Placeholders do not overlap -/

variable {name front rest segment : List Char}

/-- A text that does not start with a placeholder does not do so before a placeholder either. -/
theorem not_prefix_append (hfront : front ≠ []) (hnone : ¬ placeholder <+: front) :
    ¬ placeholder <+: front ++ (placeholder ++ rest) := by
  intro hwhole
  rcases List.prefix_or_prefix_of_prefix hwhole (List.prefix_append front _) with
    hstart | ⟨back, hback⟩
  · exact hnone hstart
  · -- The placeholder would reach over from `front`, and go on with the one behind it.
    have hreach : front ++ back <+: front ++ (placeholder ++ rest) := by
      rw [hback]
      exact hwhole
    rw [List.prefix_append_right_inj] at hreach
    cases back with
    | nil =>
      rw [List.append_nil] at hback
      exact hnone (hback ▸ List.prefix_rfl)
    | cons c back =>
      obtain ⟨f, fs, rfl⟩ := List.exists_cons_of_ne_nil hfront
      have hbrace : c = '\x7b' := (List.cons_prefix_cons.1 hreach).1
      have htail : placeholder.tail = fs ++ c :: back := by
        rw [← hback]
        rfl
      have honce : '\x7b' ∉ placeholder.tail := by decide
      rw [htail, hbrace] at honce
      exact honce (by simp)

theorem substitute_cons_of_not_isPrefix {c : Char} (h : ¬ placeholder <+: c :: rest) :
    substitute name (c :: rest) = c :: substitute name rest := by
  rw [substitute]
  rintro tail rfl rfl
  exact h ⟨tail, rfl⟩

/-- A text without a placeholder is left as it is. -/
theorem substitute_of_not_infix (h : ¬ placeholder <:+: segment) :
    substitute name segment = segment := by
  induction segment with
  | nil => rfl
  | cons c segment ih =>
    rw [List.infix_cons_iff, not_or] at h
    rw [substitute_cons_of_not_isPrefix h.1, ih h.2]

/-- A text without a placeholder, with one behind it. -/
theorem substitute_segment (h : ¬ placeholder <:+: segment) :
    substitute name (segment ++ (placeholder ++ rest))
      = segment ++ (name ++ substitute name rest) := by
  induction segment with
  | nil => exact substitute_placeholder name rest
  | cons c segment ih =>
    rw [List.infix_cons_iff, not_or] at h
    have hfirst : ¬ placeholder <+: c :: segment ++ (placeholder ++ rest) :=
      not_prefix_append (List.cons_ne_nil c segment) h.1
    rw [List.cons_append] at hfirst
    rw [List.cons_append, substitute_cons_of_not_isPrefix hfirst, ih h.2, List.cons_append]

theorem substitute_intercalate {segments : List (List Char)}
    (h : ∀ segment ∈ segments, ¬ placeholder <:+: segment) :
    substitute name (placeholder.intercalate segments) = name.intercalate segments := by
  induction segments with
  | nil => rfl
  | cons first more ih =>
    rw [List.forall_mem_cons] at h
    cases more with
    | nil =>
      rw [List.intercalate_singleton, List.intercalate_singleton]
      exact substitute_of_not_infix h.1
    | cons second more =>
      rw [List.intercalate_cons_cons, List.append_assoc, substitute_segment h.1, ih h.2,
        List.intercalate_cons_cons, List.append_assoc]

/-! ## The pieces of a template -/

/-- The texts between the placeholders of a text, found from the left. -/
def cut : List Char → List (List Char)
  | '\x7b' :: 't' :: 'a' :: 'b' :: 'l' :: 'e' :: '\x7d' :: rest => [] :: cut rest
  | c :: rest => (cut rest).modifyHead (c :: ·)
  | [] => [[]]

/-- The placeholder as a text. -/
def mark : String := "{table}"

theorem toList_mark : mark.toList = placeholder := by decide

/-- The texts between the placeholders of a template. -/
def pieces (template : String) : List String :=
  (cut template.toList).map String.ofList

/-- What is left of a text without the characters that are allowed in the name of a table. -/
def skeleton (text : String) : List Char :=
  text.toList.filter fun c => !TableName.allows c

theorem exists_cut (text : List Char) : ∃ first more, cut text = first :: more := by
  fun_induction cut text with
  | case1 rest => exact ⟨_, _, rfl⟩
  | case2 c rest _ ih =>
    obtain ⟨first, more, hcut⟩ := ih
    rw [hcut]
    exact ⟨_, _, rfl⟩
  | case3 => exact ⟨_, _, rfl⟩

theorem intercalate_cut (text : List Char) : placeholder.intercalate (cut text) = text := by
  fun_induction cut text with
  | case1 rest ih =>
    obtain ⟨first, more, hcut⟩ := exists_cut rest
    rw [hcut] at ih ⊢
    rw [List.intercalate_cons_cons, ih]
    rfl
  | case2 c rest _ ih =>
    obtain ⟨first, more, hcut⟩ := exists_cut rest
    rw [hcut] at ih ⊢
    rw [← ih]
    cases more <;> simp
  | case3 => rfl

/-- No placeholder is left in the pieces. -/
theorem not_infix_of_mem_cut (text : List Char) :
    ∀ piece ∈ cut text, ¬ placeholder <:+: piece := by
  fun_induction cut text with
  | case1 rest ih => exact List.forall_mem_cons.2 ⟨by decide, ih⟩
  | case2 c rest hfirst ih =>
    obtain ⟨first, more, hcut⟩ := exists_cut rest
    have hrest : first <+: rest := by
      rw [← intercalate_cut rest, hcut]
      exact prefix_intercalate placeholder first more
    rw [hcut, List.forall_mem_cons] at ih
    rw [hcut, List.modifyHead_cons, List.forall_mem_cons, List.infix_cons_iff]
    refine ⟨?_, ih.2⟩
    rintro (hstart | hinside)
    · obtain ⟨tail, htail⟩ := hstart.trans (List.cons_prefix_cons.2 ⟨rfl, hrest⟩)
      obtain ⟨hc, hmatch⟩ := List.cons.inj htail
      exact hfirst tail hc.symm hmatch.symm
    · exact ih.1 hinside
  | case3 => exact List.forall_mem_singleton.2 (by decide)

theorem substitute_eq_intercalate_cut (name text : List Char) :
    substitute name text = name.intercalate (cut text) := by
  have hrendered : substitute name (placeholder.intercalate (cut text))
      = name.intercalate (cut text) := substitute_intercalate (not_infix_of_mem_cut text)
  rwa [intercalate_cut] at hrendered

/-- A text with a placeholder has two pieces or more. -/
theorem exists_cut_of_infix {text : List Char} (h : placeholder <:+: text) :
    ∃ first second more, cut text = first :: second :: more := by
  obtain ⟨first, rest, hcut⟩ := exists_cut text
  cases rest with
  | nil =>
    have hwhole := intercalate_cut text
    rw [hcut, List.intercalate_singleton] at hwhole
    have hnone := not_infix_of_mem_cut text first (by simp [hcut])
    exact absurd (hwhole ▸ h) hnone
  | cons second more => exact ⟨first, second, more, hcut⟩

/-! ## Templates as texts -/

theorem not_infix_of_not_occursIn {text : String} (h : Text.occursIn mark text = false) :
    ¬ placeholder <:+: text.toList := by
  intro hinside
  rw [← toList_mark, ← Text.occursIn_iff, h] at hinside
  exact absurd hinside (by simp)

theorem intercalate_pieces (template : String) :
    mark.intercalate (pieces template) = template := by
  have hpieces : (pieces template).map String.toList = cut template.toList := by
    simp [pieces, Function.comp_def]
  rw [← String.toList_inj, String.toList_intercalate, hpieces, toList_mark, intercalate_cut]

theorem not_occursIn_of_mem_pieces {template : String} :
    ∀ piece ∈ pieces template, Text.occursIn mark piece = false := by
  intro piece hmem
  obtain ⟨text, htext, rfl⟩ := List.mem_map.1 hmem
  have hnone := not_infix_of_mem_cut template.toList text htext
  rwa [Bool.eq_false_iff, ne_eq, Text.occursIn_iff, toList_mark, String.toList_ofList]

theorem render_intercalate {segments : List String} (name : String)
    (h : ∀ segment ∈ segments, Text.occursIn mark segment = false) :
    render (mark.intercalate segments) name = name.intercalate segments := by
  have hnone : ∀ segment ∈ segments.map String.toList, ¬ placeholder <:+: segment := by
    intro segment hmem
    obtain ⟨text, htext, rfl⟩ := List.mem_map.1 hmem
    exact not_infix_of_not_occursIn (h text htext)
  rw [render, String.toList_intercalate, toList_mark, substitute_intercalate hnone,
    ← String.toList_intercalate, String.ofList_toList]

theorem render_injective {template : String} (h : Text.occursIn mark template = true) :
    Function.Injective (render template) := by
  rw [Text.occursIn_iff, toList_mark] at h
  obtain ⟨first, second, more, hcut⟩ := exists_cut_of_infix h
  intro one other heq
  have hlists := String.ofList_injective heq
  rw [substitute_eq_intercalate_cut, substitute_eq_intercalate_cut, hcut] at hlists
  exact String.toList_injective (intercalate_injective first second more hlists)

theorem skeleton_of_check {name : String} (h : TableName.check name = .ok ()) :
    skeleton name = [] := by
  rw [skeleton, List.filter_eq_nil_iff]
  intro c hc
  simp [(TableName.check_eq_ok_iff.1 h).2 c hc]

theorem skeleton_render {name : String} (template : String)
    (h : TableName.check name = .ok ()) :
    skeleton (render template name) = skeleton (String.join (pieces template)) := by
  rw [skeleton, render, String.toList_ofList, substitute_eq_intercalate_cut,
    filter_intercalate (skeleton_of_check h), skeleton, String.toList_join, pieces]
  simp [List.flatMap_map, List.flatMap_id']

/-- Rendering a template is putting the name in the place of its placeholders, and nothing else.
The texts around the placeholders may hold any braces. -/
theorem substitution_is_exact :
    (∀ (segments : List String) (name : String),
      (∀ segment ∈ segments, Text.occursIn mark segment = false) →
        render (mark.intercalate segments) name = name.intercalate segments) ∧
    (∀ template, Text.occursIn mark template = true → Function.Injective (render template)) ∧
    (∀ template name, TableName.check name = .ok () →
      skeleton (render template name) = skeleton (String.join (pieces template))) ∧
    (∀ template, mark.intercalate (pieces template) = template ∧
      ∀ piece ∈ pieces template, Text.occursIn mark piece = false) :=
  ⟨fun _ name h => render_intercalate name h, fun _ => render_injective,
    fun template _ => skeleton_render template, fun template =>
      ⟨intercalate_pieces template, not_occursIn_of_mem_pieces⟩⟩

/-- The first text ends with all of a placeholder but its last character, which starts the next. -/
theorem substitution_is_exact_braces :
    let segments := ["CREATE \"\x7btable", "\x7d_\x7bt\"; ", "\x7b\x7d"]
    let template := "CREATE \"\x7btable{table}\x7d_\x7bt\"; {table}\x7b\x7d"
    mark.intercalate segments = template ∧
      (∀ segment ∈ segments, Text.occursIn mark segment = false) ∧
      render template "log_1" = "CREATE \"\x7btablelog_1\x7d_\x7bt\"; log_1\x7b\x7d" ∧
      Text.occursIn mark template = true ∧ Function.Injective (render template) ∧
      TableName.check "log_1" = .ok () ∧ pieces template = segments ∧
      skeleton (render template "log_1") = " \"\x7b\x7d\x7b\"; \x7b\x7d".toList := by
  intro segments template
  obtain ⟨hrender, hinjective, hskeleton, -⟩ := substitution_is_exact
  have htemplate : mark.intercalate segments = template := by decide +kernel
  have hsegments : ∀ segment ∈ segments, Text.occursIn mark segment = false := by decide +kernel
  have hmark : Text.occursIn mark template = true := by decide +kernel
  have hname : TableName.check "log_1" = .ok () := by rfl
  have hpieces : pieces template = segments := by decide +kernel
  refine ⟨htemplate, hsegments, ?_, hmark, hinjective template hmark, hname, hpieces, ?_⟩
  · rw [← htemplate, hrender segments "log_1" hsegments]
    decide +kernel
  · rw [hskeleton template "log_1" hname, hpieces]
    decide +kernel

end SchemaUpgrade.Dialect
