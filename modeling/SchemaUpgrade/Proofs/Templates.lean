import SchemaUpgrade.Dialect.Vendor
import SchemaUpgrade.TableName
/-!
# The statements of the built-in dialects

A template whose table stands between quote marks, before a space, names exactly the table that it
is rendered for, as long as the name is one that may be written into SQL
(`Dialect.tableWord_render`).  So every vendor lists and fills the same table, the one it was asked
for (`Vendor.queriedTable_applied`, `Vendor.insertedTable_register`), and none of them creates it by
a control statement (`Vendor.isControl_create`).

## Main definitions

* `Dialect.NamesTable`: a template names its table as the word after a marker.
-/

namespace SchemaUpgrade

open Engine

/-! ## Table words -/

theorem TableName.not_ends_of_allows {c : Char} (h : TableName.allows c = true) :
    endsTableWord c = false := by
  rw [Bool.eq_false_iff]
  intro hends
  simp only [endsTableWord, Bool.or_eq_true, decide_eq_true_eq] at hends
  rcases hends with (rfl | rfl) | rfl <;> exact absurd h (by decide)

theorem TableName.not_quote_of_allows {c : Char} (h : TableName.allows c = true) :
    isQuoteMark c = false := by
  rw [Bool.eq_false_iff]
  intro hquote
  simp only [isQuoteMark, Bool.or_eq_true, decide_eq_true_eq] at hquote
  rcases hquote with ((rfl | rfl) | rfl) | rfl <;> exact absurd h (by decide)

theorem not_ends_of_isQuoteMark {c : Char} (h : isQuoteMark c = true) :
    endsTableWord c = false := by
  simp only [isQuoteMark, Bool.or_eq_true, decide_eq_true_eq] at h
  rcases h with ((rfl | rfl) | rfl) | rfl <;> decide

/-- The table word of a name between quote marks, before a space, is the name. -/
theorem tableWordOf_quoted {name : String} (hname : TableName.check name = .ok ())
    {opening closing : List Char} (hopening : ∀ c ∈ opening, isQuoteMark c = true)
    (hclosing : ∀ c ∈ closing, isQuoteMark c = true) (rest : List Char) :
    tableWordOf (opening ++ name.toList ++ closing ++ ' ' :: rest) = name := by
  have hallowed := (TableName.check_eq_ok_iff.1 hname).2
  have hword : ∀ c ∈ opening ++ name.toList ++ closing, (!endsTableWord c) = true := by
    intro c hc
    rw [List.mem_append, List.mem_append] at hc
    rcases hc with (hc | hc) | hc
    · rw [not_ends_of_isQuoteMark (hopening c hc)]
      rfl
    · rw [TableName.not_ends_of_allows (hallowed c hc)]
      rfl
    · rw [not_ends_of_isQuoteMark (hclosing c hc)]
      rfl
  have hstop : (' ' :: rest).takeWhile (fun c => !endsTableWord c) = [] := rfl
  rw [tableWordOf, List.takeWhile_append_of_pos hword, hstop, List.append_nil, List.filter_append,
    List.filter_append, List.filter_eq_nil_iff.2, List.filter_eq_self.2, List.filter_eq_nil_iff.2,
    List.nil_append, List.append_nil, String.ofList_toList]
  · intro c hc
    simp [hclosing c hc]
  · intro c hc
    simp [TableName.not_quote_of_allows (hallowed c hc)]
  · intro c hc
    simp [hopening c hc]

/-! ## Templates -/

namespace Dialect

/-- Text without an opening brace is left as it is. -/
theorem substitute_append {front : List Char} (hfront : '\x7b' ∉ front) (table rest : List Char) :
    substitute table (front ++ rest) = front ++ substitute table rest := by
  induction front with
  | nil => rfl
  | cons c front ih =>
    rw [List.mem_cons, not_or] at hfront
    rw [List.cons_append, List.cons_append, ← ih hfront.2]
    rw [substitute]
    intro _ hc
    exact absurd hc.symm hfront.1

theorem substitute_placeholder (table rest : List Char) :
    substitute table (placeholder ++ rest) = table ++ substitute table rest := rfl

theorem front_append {front : List Char} {first second : String} (h : front <+: first.toList) :
    front <+: (first ++ second).toList := by
  rw [String.toList_append]
  exact h.trans (List.prefix_append _ _)

/-- A template with the placeholder between quote marks, after a front without any placeholder, and
with a space behind. -/
def Quotes (template : String) (front opening closing rest : List Char) : Prop :=
  template.toList = front ++ opening ++ (placeholder ++ (closing ++ ' ' :: rest)) ∧
    '\x7b' ∉ front ++ opening ∧ '\x7b' ∉ closing ++ [' '] ∧
    opening.all isQuoteMark = true ∧ closing.all isQuoteMark = true

instance (template : String) (front opening closing rest : List Char) :
    Decidable (Quotes template front opening closing rest) :=
  inferInstanceAs (Decidable (_ ∧ _ ∧ _ ∧ _ ∧ _))

/-- A template names its table as the word after a marker: the placeholder stands between quote
marks, right after the first marker. -/
def NamesTable (marker template : String) : Prop :=
  ∃ front opening closing rest : List Char, Quotes template front opening closing rest ∧
    ∀ text, Text.afterFirst? marker.toList (front ++ text) = some text

/-- Such a template, rendered for a table, names that table. -/
theorem tableWord_render {marker template name : String} (h : NamesTable marker template)
    (hname : TableName.check name = .ok ()) : tableWord marker (render template name) = name := by
  obtain ⟨front, opening, closing, rest, hquotes, hmarker⟩ := h
  obtain ⟨htemplate, hbefore, hafter, hopening, hclosing⟩ := hquotes
  rw [List.all_eq_true] at hopening hclosing
  have hrest : closing ++ ' ' :: rest = (closing ++ [' ']) ++ rest := by simp
  rw [tableWord, render, String.toList_ofList, htemplate, substitute_append hbefore,
    substitute_placeholder, hrest, substitute_append hafter]
  simp only [List.append_assoc, List.cons_append, List.nil_append, hmarker]
  simpa only [List.append_assoc] using tableWordOf_quoted hname hopening hclosing _

end Dialect

/-! ## Vendors -/

namespace Vendor

theorem namesTable_register (vendor : Vendor) :
    Dialect.NamesTable "INTO " vendor.dialect.register := by
  let front := "INSERT INTO ".toList
  have hmarker : ∀ text, Text.afterFirst? "INTO ".toList (front ++ text) = some text :=
    fun _ => rfl
  cases vendor with
  | duckDb | db2 =>
    exact ⟨front, ['"'], ['"'], "(id) VALUES (?)".toList, by decide +kernel, hmarker⟩
  | sqlite => exact ⟨front, ['"'], ['"'], "(id) VALUES (?1)".toList, by decide +kernel, hmarker⟩
  | postgres => exact ⟨front, ['"'], ['"'], "(id) VALUES ($1)".toList, by decide +kernel, hmarker⟩
  | mysql =>
    exact ⟨front, ['\x60'], ['\x60'], "(id) VALUES (?)".toList, by decide +kernel, hmarker⟩
  | mssql => exact ⟨front, ['['], [']'], "(id) VALUES (@p1)".toList, by decide +kernel, hmarker⟩
  | oracle => exact ⟨front, ['"'], ['"'], "(id) VALUES (:1)".toList, by decide +kernel, hmarker⟩
  | csvq =>
    exact ⟨front, [], [], "(id, create_ts) VALUES (?, NOW())".toList, by decide +kernel, hmarker⟩

theorem namesTable_applied (vendor : Vendor) :
    Dialect.NamesTable "FROM " vendor.dialect.applied := by
  let front := "SELECT id FROM ".toList
  have hmarker : ∀ text, Text.afterFirst? "FROM ".toList (front ++ text) = some text :=
    fun _ => rfl
  let byTime := "ORDER BY create_ts ASC".toList
  cases vendor with
  | duckDb =>
    exact ⟨front, ['"'], ['"'], byTime ++ ", seq ASC".toList, by decide +kernel, hmarker⟩
  | sqlite | postgres | oracle | db2 =>
    exact ⟨front, ['"'], ['"'], byTime, by decide +kernel, hmarker⟩
  | mysql => exact ⟨front, ['\x60'], ['\x60'], byTime, by decide +kernel, hmarker⟩
  | mssql => exact ⟨front, ['['], [']'], byTime, by decide +kernel, hmarker⟩
  | csvq => exact ⟨front, [], [], byTime, by decide +kernel, hmarker⟩

/-- The beginning of a creating template, which no control statement has. -/
theorem exists_front_create (vendor : Vendor) :
    ∃ front : List Char, front <+: vendor.dialect.create.toList ∧ '\x7b' ∉ front ∧
      ¬ front <+: beginText.toList ∧ ¬ front <+: commitText.toList ∧
      ¬ front <+: rollbackText.toList := by
  -- The templates are long, so only their first pieces are looked at.
  cases vendor with
  | duckDb =>
    refine ⟨"CREATE ".toList, ?_, by decide +kernel⟩
    iterate 5 apply Dialect.front_append
    decide +kernel
  | sqlite | postgres | mysql =>
    refine ⟨"CREATE ".toList, ?_, by decide +kernel⟩
    iterate 3 apply Dialect.front_append
    decide +kernel
  | mssql =>
    refine ⟨"IF NOT ".toList, ?_, by decide +kernel⟩
    iterate 6 apply Dialect.front_append
    decide +kernel
  | oracle =>
    refine ⟨"BEGIN\n".toList, ?_, by decide +kernel⟩
    iterate 12 apply Dialect.front_append
    decide +kernel
  | db2 =>
    refine ⟨"BEGIN\n".toList, ?_, by decide +kernel⟩
    iterate 10 apply Dialect.front_append
    decide +kernel
  | csvq => exact ⟨"CREATE ".toList, by decide +kernel⟩

variable {table : String}

/-- Every vendor records keys in the table it was asked for. -/
theorem insertedTable_register (vendor : Vendor) (htable : TableName.check table = .ok ()) :
    insertedTable (Dialect.render vendor.dialect.register table) = table :=
  Dialect.tableWord_render vendor.namesTable_register htable

/-- Every vendor lists the keys of the table it was asked for. -/
theorem queriedTable_applied (vendor : Vendor) (htable : TableName.check table = .ok ()) :
    queriedTable (Dialect.render vendor.dialect.applied table) = table :=
  Dialect.tableWord_render vendor.namesTable_applied htable

/-- No vendor creates its table by a control statement. -/
theorem isControl_create (vendor : Vendor) (table : String) :
    isControl (Dialect.render vendor.dialect.create table) = false := by
  obtain ⟨front, ⟨rest, htemplate⟩, hbrace, hbegin, hcommit, hrollback⟩ :=
    vendor.exists_front_create
  have hfront : front <+: (Dialect.render vendor.dialect.create table).toList := by
    rw [Dialect.render, String.toList_ofList, ← htemplate, Dialect.substitute_append hbrace]
    exact List.prefix_append _ _
  have hne : ∀ text : String, ¬ front <+: text.toList →
      Dialect.render vendor.dialect.create table ≠ text :=
    fun text hnot heq => hnot (heq ▸ hfront)
  simp [isControl, hne _ hbegin, hne _ hcommit, hne _ hrollback]

end Vendor

end SchemaUpgrade
