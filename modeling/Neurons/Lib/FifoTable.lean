import Mathlib.Data.List.Basic

/-! # Tables of bounded size

A table of rows in the order of their row ids, with one row for each key. A row that is put in or
replaced becomes the newest one, and only the newest rows are kept.
-/

namespace Neurons.Lib.FifoTable

section Rows

variable {κ α : Type*}

/-- `DELETE … WHERE rowid IN (SELECT rowid … ORDER BY rowid DESC LIMIT -1 OFFSET ?)` -/
def evict (kept : ℕ) (rows : List (κ × α)) : List (κ × α) := rows.drop (rows.length - kept)

/-- Every row of the table has the property. -/
def Holds (p : κ → α → Prop) (rows : List (κ × α)) : Prop := ∀ key row, (key, row) ∈ rows → p key row

variable {p q : κ → α → Prop} {key : κ} {row : α} {rows more : List (κ × α)}

theorem holds_nil : Holds p [] := nofun

theorem holds_singleton : Holds p [(key, row)] ↔ p key row := by
  simp [Holds]

theorem Holds.append (first : Holds p rows) (second : Holds p more) : Holds p (rows ++ more) := by
  intro key row mem
  rcases List.mem_append.mp mem with mem | mem
  · exact first key row mem
  · exact second key row mem

theorem Holds.evict (all : Holds p rows) (kept : ℕ) : Holds p (evict kept rows) := by
  intro key row mem
  exact all key row (List.mem_of_mem_drop mem)

end Rows

section Keys

variable {κ α : Type*} [DecidableEq κ]

/-- `INSERT OR IGNORE` -/
def insertOrIgnore (key : κ) (row : α) (rows : List (κ × α)) : List (κ × α) :=
  if key ∈ rows.map Prod.fst then rows else rows ++ [(key, row)]

/-- `INSERT OR REPLACE` -/
def insertOrReplace (key : κ) (row : α) (rows : List (κ × α)) : List (κ × α) :=
  rows.filter (fun other => other.1 ≠ key) ++ [(key, row)]

variable {p : κ → α → Prop} {key : κ} {row : α} {rows : List (κ × α)}

theorem Holds.insertOrIgnore (all : Holds p rows) (new : p key row) : Holds p (insertOrIgnore key row rows) := by
  unfold FifoTable.insertOrIgnore
  split
  · exact all
  · exact all.append (holds_singleton.mpr new)

theorem Holds.insertOrReplace (all : Holds p rows) (new : p key row) : Holds p (insertOrReplace key row rows) := by
  have others : Holds p (rows.filter (fun other => other.1 ≠ key)) := by
    intro key' row' mem
    exact all key' row' (List.mem_of_mem_filter mem)
  exact others.append (holds_singleton.mpr new)

theorem Holds.lookup (all : Holds p rows) (found : rows.lookup key = some row) : p key row := by
  rw [List.lookup_eq_some_iff] at found
  obtain ⟨before, after, rfl, -⟩ := found
  exact all key row (by simp)

end Keys

end Neurons.Lib.FifoTable
