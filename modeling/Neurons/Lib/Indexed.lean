import Neurons.Lib.Dict

/-! # Tables with a second unique key

A row is stored under its primary key, and no two rows agree on a further column. An
insertion that would break either rule is refused, so a value of this type is a table
whose two indexes are sound.
-/

namespace Neurons.Lib

structure Indexed (K I V : Type) [DecidableEq K] (index : V → I) where
  rows : Table K V
  unique : ∀ {k k' v v'}, rows.get? k = some v → rows.get? k' = some v' → index v = index v' → k = k'

namespace Indexed

variable {K I V : Type} [DecidableEq K] {index : V → I}

def empty : Indexed K I V index := ⟨∅, by simp⟩

instance : EmptyCollection (Indexed K I V index) := ⟨empty⟩

instance [DecidableEq V] : DecidableEq (Indexed K I V index) := fun a b =>
  decidable_of_iff (a.rows.entries = b.rows.entries) (by
    obtain ⟨⟨entries, _⟩, _⟩ := a
    obtain ⟨⟨entries', _⟩, _⟩ := b
    simp)

def get? (t : Indexed K I V index) (k : K) : Option V := t.rows.get? k

@[simp] theorem get?_empty (k : K) : (∅ : Indexed K I V index).get? k = none := rfl

/-- Rewrite a row in place; an absent row stays absent. -/
def update (t : Indexed K I V index) (k : K) (f : V → V) (keeps : ∀ v, index (f v) = index v) :
    Indexed K I V index :=
  match found : t.get? k with
  | none => t
  | some old => ⟨t.rows.set k (f old), by
      intro k₁ k₂ v₁ v₂ first second same
      rw [Table.get?_set] at first second
      split at first <;> split at second
      · simp_all
      · rename_i here _
        cases first
        rw [keeps] at same
        exact here.trans (t.unique found second same)
      · rename_i here
        cases second
        rw [keeps] at same
        exact (t.unique first found same).trans here.symm
      · exact t.unique first second same⟩

theorem get?_update (t : Indexed K I V index) (k : K) (f : V → V) (keeps : ∀ v, index (f v) = index v)
    (k' : K) : (t.update k f keeps).get? k' = if k' = k then (t.get? k).map f else t.get? k' := by
  unfold update
  split
  · rename_i missing
    split
    · rename_i same
      rw [same, missing]
      rfl
    · rfl
  · rename_i old found
    have mapped : (t.get? k).map f = some (f old) := congrArg _ found
    rw [mapped]
    exact Table.get?_set _ _ _ _

variable [DecidableEq I]

/-- The row with this value of the second key. -/
def find? (t : Indexed K I V index) (i : I) : Option (K × V) :=
  t.rows.entries.find? (fun entry => index entry.2 = i)

theorem find?_eq_some {t : Indexed K I V index} {i : I} {k : K} {v : V} :
    t.find? i = some (k, v) ↔ t.get? k = some v ∧ index v = i := by
  constructor
  · intro found
    exact ⟨Table.mem_entries_iff.mp (List.mem_of_find?_eq_some found), by simpa using List.find?_some found⟩
  · rintro ⟨stored, indexed⟩
    cases found : t.find? i with
    | none =>
        have refused := List.find?_eq_none.mp found (k, v) (Table.mem_entries_iff.mpr stored)
        simp [indexed] at refused
    | some entry =>
        obtain ⟨k', v'⟩ := entry
        have stored' := Table.mem_entries_iff.mp (List.mem_of_find?_eq_some found)
        have indexed' : index v' = i := by simpa using List.find?_some found
        obtain rfl := t.unique stored stored' (by rw [indexed, indexed'])
        obtain rfl : v = v' := by simpa using stored.symm.trans stored'
        rfl

theorem find?_eq_none {t : Indexed K I V index} {i : I} :
    t.find? i = none ↔ ∀ k v, t.get? k = some v → index v ≠ i := by
  constructor
  · intro missing k v stored indexed
    simp [find?_eq_some.mpr ⟨stored, indexed⟩] at missing
  · intro apart
    cases found : t.find? i with
    | none => rfl
    | some entry => exact absurd (find?_eq_some.mp found).2 (apart _ _ (find?_eq_some.mp found).1)

/-- Store a new row, unless one of its keys is taken. -/
def insert? (t : Indexed K I V index) (k : K) (v : V) : Option (Indexed K I V index) :=
  if taken : t.get? k = none ∧ t.find? (index v) = none then
    some ⟨t.rows.set k v, by
      intro k₁ k₂ v₁ v₂ first second same
      rw [Table.get?_set] at first second
      split at first <;> split at second
      · simp_all
      · cases first
        exact absurd same.symm (find?_eq_none.mp taken.2 _ _ second)
      · cases second
        exact absurd same (find?_eq_none.mp taken.2 _ _ first)
      · exact t.unique first second same⟩
  else none

theorem insert?_eq_none {t : Indexed K I V index} {k : K} {v : V} :
    t.insert? k v = none ↔ t.get? k ≠ none ∨ t.find? (index v) ≠ none := by
  by_cases taken : t.get? k = none ∧ t.find? (index v) = none
  · simp [insert?, taken]
  · simp only [insert?, taken, dite_false, true_iff]
    by_cases absent : t.get? k = none
    · exact .inr fun none => taken ⟨absent, none⟩
    · exact .inl absent

theorem insert?_fresh {t t' : Indexed K I V index} {k : K} {v : V} (done : t.insert? k v = some t') :
    t.get? k = none ∧ t.find? (index v) = none := by
  by_contra taken
  rw [not_and_or] at taken
  simp [insert?_eq_none.mpr taken] at done

theorem get?_insert {t t' : Indexed K I V index} {k : K} {v : V} (done : t.insert? k v = some t') (k' : K) :
    t'.get? k' = if k' = k then some v else t.get? k' := by
  have fresh := insert?_fresh done
  simp only [insert?, fresh, and_self, dite_true, Option.some.injEq] at done
  rw [← done]
  exact Table.get?_set _ _ _ _

theorem find?_insert {t t' : Indexed K I V index} {k : K} {v : V} (done : t.insert? k v = some t') (i : I) :
    t'.find? i = if i = index v then some (k, v) else t.find? i := by
  have fresh := insert?_fresh done
  split
  · rename_i same
    exact find?_eq_some.mpr ⟨by simp [get?_insert done], same.symm⟩
  · rename_i other
    cases found : t.find? i with
    | none =>
        refine find?_eq_none.mpr fun k' v' stored indexed => ?_
        rw [get?_insert done] at stored
        split at stored
        · cases stored
          exact other indexed.symm
        · exact find?_eq_none.mp found _ _ stored indexed
    | some entry =>
        obtain ⟨k', v'⟩ := entry
        obtain ⟨stored, indexed⟩ := find?_eq_some.mp found
        have apart : k' ≠ k := by
          rintro rfl
          simp [fresh.1] at stored
        exact find?_eq_some.mpr ⟨by rw [get?_insert done, if_neg apart, stored], indexed⟩

/-- The rows with this value of the second key. -/
def matching (t : Indexed K I V index) (i : I) : List V :=
  (t.rows.entries.filter (fun entry => index entry.2 = i)).map Prod.snd

theorem matching_eq {t : Indexed K I V index} {i : I} {k : K} {v : V} (found : t.find? i = some (k, v)) :
    t.matching i = [v] := by
  obtain ⟨stored, indexed⟩ := find?_eq_some.mp found
  have only : t.rows.entries.filter (fun entry => index entry.2 = i) = [(k, v)] := by
    refine List.perm_singleton.mp ((List.perm_ext_iff_of_nodup (t.rows.nodup.of_map.filter _)
      (List.nodup_singleton _)).mpr ?_)
    rintro ⟨k', v'⟩
    rw [List.mem_filter, List.mem_singleton, Table.mem_entries_iff]
    constructor
    · rintro ⟨stored', indexed'⟩
      have again := find?_eq_some.mpr ⟨stored', of_decide_eq_true indexed'⟩
      exact Option.some.inj (again.symm.trans found)
    · rintro same
      cases same
      exact ⟨stored, decide_eq_true indexed⟩
  rw [matching, only]
  rfl

theorem find?_of_matching {t : Indexed K I V index} {i : I} {v : V} (only : t.matching i = [v]) :
    ∃ k, t.find? i = some (k, v) := by
  have mem : v ∈ t.matching i := by simp [only]
  simp only [matching, List.mem_map, List.mem_filter, decide_eq_true_eq] at mem
  obtain ⟨⟨k, v'⟩, ⟨stored, indexed⟩, rfl⟩ := mem
  exact ⟨k, find?_eq_some.mpr ⟨Table.mem_entries_iff.mp stored, indexed⟩⟩

end Indexed

end Neurons.Lib
