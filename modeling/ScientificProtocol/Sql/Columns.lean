import Mathlib.Data.List.Basic

/-!
# The columns a query names

Before a query reads a row, the database looks up the columns it names among those of the
table, and one that is not there fails the query whatever the rows are. So whether a
query answers at all depends on the columns only (`Sql.resolveColumns_eq_ok_iff`).
-/

namespace Sql

/-- How a query fails before it reads a row: `undefined_column`, SQLSTATE 42703. -/
structure UndefinedColumn where
  column : String
  deriving DecidableEq

/-- The columns a query names are looked up, in the order of the query. -/
def resolveColumns (columns : List String) : List String → Except UndefinedColumn Unit
  | [] => .ok ()
  | column :: rest =>
    if column ∈ columns then resolveColumns columns rest else .error ⟨column⟩

variable {columns named : List String}

/-- **A query is answered** exactly if every column it names is there. -/
theorem resolveColumns_eq_ok_iff :
    resolveColumns columns named = .ok () ↔ ∀ column ∈ named, column ∈ columns := by
  induction named with
  | nil => simp [resolveColumns]
  | cons column rest ih =>
    rw [resolveColumns, List.forall_mem_cons]
    split
    next hmem => rw [ih, and_iff_right hmem]
    next hmem => simp [hmem]

/-- What is missing is named, if it is one column and the query names it. -/
theorem resolveColumns_eq_error {missing : String} (hnamed : missing ∈ named)
    (hmissing : missing ∉ columns) (hothers : ∀ column ∈ named, column = missing ∨ column ∈ columns) :
    resolveColumns columns named = .error ⟨missing⟩ := by
  induction named with
  | nil => exact absurd hnamed List.not_mem_nil
  | cons column rest ih =>
    rw [resolveColumns]
    rcases hothers column List.mem_cons_self with rfl | hmem
    · rw [if_neg hmissing]
    · rw [if_pos hmem]
      refine ih ?_ fun other hother => hothers other (List.mem_cons_of_mem _ hother)
      exact (List.mem_cons.mp hnamed).resolve_left fun heq => hmissing (heq ▸ hmem)

end Sql
