import SchemaUpgrade.UpgradeError
/-!
# Names of bookkeeping tables

The name of the bookkeeping table is written into SQL as it is.  So it must not be empty, and only
ASCII letters, ASCII digits and underscores are allowed in it.
-/

namespace SchemaUpgrade.TableName

/-- Whether a character is allowed in the name of a bookkeeping table. -/
def allows (c : Char) : Bool :=
  c.isAlphanum || c = '_'

/-- The name used when none is given. -/
def default : String := "migrations"

/-- Accepts a name, or says what is wrong with it. -/
def check (name : String) : Except UpgradeError Unit :=
  if name.isEmpty then .error .emptyTableName
  else if name.toList.all allows then .ok ()
  else .error (.invalidTableName name)

theorem check_eq_ok_iff {name : String} :
    check name = .ok () ↔ name ≠ "" ∧ ∀ c ∈ name.toList, allows c = true := by
  rw [← List.all_eq_true]
  by_cases hempty : name = ""
  · simp [check, hempty]
  · cases hall : name.toList.all allows <;> simp [check, hempty, hall]

theorem check_default : check default = .ok () := by
  refine check_eq_ok_iff.2 ⟨by decide, ?_⟩
  simp [default, allows]

end SchemaUpgrade.TableName
