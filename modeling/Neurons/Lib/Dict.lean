import Mathlib.Data.List.Pairwise
import Mathlib.Data.List.Sort
import Mathlib.Order.Defs.LinearOrder
import Neurons.Lib.Sorting

/-! # Dictionaries

Two finite maps. A `Dict` lists its bindings in key order, so two dictionaries
with the same bindings are the same value and can be compared, hashed and
printed without choosing an order. A `Table` keeps the order in which keys were
first assigned, which is what iterating over a store observes.
-/

namespace Neurons.Lib

section Lookup

variable {K V : Type} [DecidableEq K]

/-- The first binding of a key in a list of bindings. -/
def lookup (k : K) : List (K × V) → Option V
  | [] => none
  | (k', v) :: rest => if k' = k then some v else lookup k rest

theorem lookup_eq_none_iff {k : K} {l : List (K × V)} :
    lookup k l = none ↔ ∀ v, (k, v) ∉ l := by
  induction l with
  | nil => simp [lookup]
  | cons entry rest ih =>
      obtain ⟨k', v'⟩ := entry
      by_cases same : k' = k
      · simp only [lookup, same, if_true, reduceCtorEq, false_iff, not_forall, not_not]
        exact ⟨v', by simp⟩
      · simp [lookup, same, ih, Ne.symm same]

theorem mem_of_lookup {k : K} {v : V} {l : List (K × V)} (found : lookup k l = some v) :
    (k, v) ∈ l := by
  induction l with
  | nil => simp [lookup] at found
  | cons entry rest ih =>
      obtain ⟨k', v'⟩ := entry
      by_cases same : k' = k
      · simp_all [lookup]
      · simp only [lookup, same, if_false] at found
        exact List.mem_cons_of_mem _ (ih found)

theorem lookup_of_mem {k : K} {v : V} {l : List (K × V)} (nodup : (l.map Prod.fst).Nodup)
    (mem : (k, v) ∈ l) : lookup k l = some v := by
  induction l with
  | nil => simp at mem
  | cons entry rest ih =>
      obtain ⟨k', v'⟩ := entry
      simp only [List.map_cons, List.nodup_cons] at nodup
      rcases List.mem_cons.mp mem with head | tail
      · simp_all [lookup]
      · have other : k' ≠ k := by
          rintro rfl
          exact nodup.1 (List.mem_map.mpr ⟨_, tail, rfl⟩)
        simpa [lookup, other] using ih nodup.2 tail

/-- Bindings of the same distinct keys are told apart by their lookups. -/
theorem eq_of_lookup {l l' : List (K × V)} (keys : l.map Prod.fst = l'.map Prod.fst)
    (nodup : (l.map Prod.fst).Nodup) (same : ∀ k, lookup k l = lookup k l') : l = l' := by
  induction l generalizing l' with
  | nil => exact (List.map_eq_nil_iff.mp keys.symm).symm
  | cons entry rest ih =>
      obtain ⟨k, v⟩ := entry
      cases l' with
      | nil => cases keys
      | cons entry' rest' =>
          obtain ⟨k', v'⟩ := entry'
          obtain ⟨rfl, others⟩ := List.cons.inj keys
          obtain ⟨fresh, distinct⟩ := List.nodup_cons.mp nodup
          have value : v = v' := by simpa [lookup] using same k
          rw [value, ih others distinct fun j => ?_]
          by_cases here : k = j
          · subst here
            have missing {l : List (K × V)} (fresh : k ∉ l.map Prod.fst) : lookup k l = none :=
              lookup_eq_none_iff.mpr fun v mem => fresh (List.mem_map.mpr ⟨_, mem, rfl⟩)
            rw [missing fresh, missing (others ▸ fresh)]
          · simpa [lookup, here] using same j

theorem lookup_filter (p : K → Bool) (k : K) (l : List (K × V)) :
    lookup k (l.filter (fun entry => p entry.1)) = if p k then lookup k l else none := by
  induction l with
  | nil => simp [lookup]
  | cons entry rest ih =>
      obtain ⟨k', v'⟩ := entry
      by_cases keep : p k' <;> by_cases same : k' = k <;> simp_all [lookup]

end Lookup

/-! ## Dictionaries in key order -/

/-- A finite map listed in strictly increasing key order. -/
structure Dict (K V : Type) [LinearOrder K] where
  entries : List (K × V)
  sorted : entries.Pairwise (fun a b => a.1 < b.1)

namespace Dict

variable {K V : Type} [LinearOrder K]

instance [DecidableEq V] : DecidableEq (Dict K V) := fun a b =>
  decidable_of_iff (a.entries = b.entries) (by cases a; cases b; simp)

def empty : Dict K V := ⟨[], .nil⟩

instance : EmptyCollection (Dict K V) := ⟨empty⟩

def get? (d : Dict K V) (k : K) : Option V := lookup k d.entries

def contains (d : Dict K V) (k : K) : Bool := (d.get? k).isSome

def insertEntry (k : K) (v : V) : List (K × V) → List (K × V)
  | [] => [(k, v)]
  | (k', v') :: rest =>
      if k < k' then (k, v) :: (k', v') :: rest
      else if k = k' then (k, v) :: rest
      else (k', v') :: insertEntry k v rest

theorem mem_insertEntry {k : K} {v : V} {l : List (K × V)} {entry : K × V}
    (mem : entry ∈ insertEntry k v l) : entry = (k, v) ∨ entry ∈ l := by
  induction l with
  | nil => simpa [insertEntry] using mem
  | cons head rest ih =>
      obtain ⟨k', v'⟩ := head
      simp only [insertEntry] at mem
      split at mem
      · simpa using mem
      · split at mem
        · rcases List.mem_cons.mp mem with here | there <;> simp_all
        · rcases List.mem_cons.mp mem with here | there
          · simp [here]
          · rcases ih there with here | there <;> simp [*]

theorem insertEntry_sorted (k : K) (v : V) {l : List (K × V)}
    (sorted : l.Pairwise (fun a b => a.1 < b.1)) :
    (insertEntry k v l).Pairwise (fun a b => a.1 < b.1) := by
  induction l with
  | nil => simp [insertEntry]
  | cons head rest ih =>
      obtain ⟨k', v'⟩ := head
      obtain ⟨above, tail⟩ := List.pairwise_cons.mp sorted
      simp only [insertEntry]
      split
      · rename_i before
        refine List.pairwise_cons.mpr ⟨fun entry mem => ?_, sorted⟩
        rcases List.mem_cons.mp mem with rfl | mem
        · exact before
        · exact before.trans (above entry mem)
      · split
        · rename_i same
          exact List.pairwise_cons.mpr ⟨fun entry mem => same ▸ above entry mem, tail⟩
        · rename_i notBefore notSame
          refine List.pairwise_cons.mpr ⟨fun entry mem => ?_, ih tail⟩
          rcases mem_insertEntry mem with rfl | mem
          · exact lt_of_le_of_ne (not_lt.mp notBefore) (Ne.symm notSame)
          · exact above entry mem

/-- Bind a key, replacing an earlier binding. -/
def insert (d : Dict K V) (k : K) (v : V) : Dict K V :=
  ⟨insertEntry k v d.entries, insertEntry_sorted k v d.sorted⟩

/-- The bindings whose key satisfies `p`. -/
def filter (d : Dict K V) (p : K → Bool) : Dict K V :=
  ⟨d.entries.filter (fun entry => p entry.1), d.sorted.filter _⟩

def erase (d : Dict K V) (k : K) : Dict K V := d.filter (fun k' => decide (k' ≠ k))

/-- Bind the listed keys one after another. -/
def insertAll (d : Dict K V) (bindings : List (K × V)) : Dict K V :=
  bindings.foldl (fun acc entry => acc.insert entry.1 entry.2) d

def keys (d : Dict K V) : List K := d.entries.map Prod.fst

theorem lookup_insertEntry (k k' : K) (v : V) (l : List (K × V)) :
    lookup k' (insertEntry k v l) = if k' = k then some v else lookup k' l := by
  induction l with
  | nil => by_cases same : k = k' <;> simp [insertEntry, lookup, same, eq_comm]
  | cons head rest ih =>
      obtain ⟨key, value⟩ := head
      simp only [insertEntry]
      split
      · by_cases same : k = k' <;> simp [lookup, same, eq_comm]
      · split
        · rename_i same
          subst same
          by_cases here : k = k' <;> simp [lookup, here, eq_comm]
        · rename_i other
          by_cases here : key = k'
          · subst here
            simp [lookup, Ne.symm other]
          · simp [lookup, here, ih]

@[simp] theorem get?_empty (k : K) : (∅ : Dict K V).get? k = none := rfl

theorem get?_insert (d : Dict K V) (k k' : K) (v : V) :
    (d.insert k v).get? k' = if k' = k then some v else d.get? k' :=
  lookup_insertEntry k k' v d.entries

@[simp] theorem get?_insert_self (d : Dict K V) (k : K) (v : V) :
    (d.insert k v).get? k = some v := by
  simp [get?_insert]

theorem get?_filter (d : Dict K V) (p : K → Bool) (k : K) :
    (d.filter p).get? k = if p k then d.get? k else none :=
  lookup_filter p k d.entries

theorem get?_erase (d : Dict K V) (k k' : K) :
    (d.erase k).get? k' = if k' = k then none else d.get? k' := by
  by_cases same : k' = k <;> simp [erase, get?_filter, same]

theorem nodup (d : Dict K V) : (d.entries.map Prod.fst).Nodup :=
  (List.pairwise_map.mpr d.sorted).imp ne_of_lt

theorem mem_entries_iff {d : Dict K V} {k : K} {v : V} :
    (k, v) ∈ d.entries ↔ d.get? k = some v :=
  ⟨lookup_of_mem d.nodup, mem_of_lookup⟩

theorem get?_insertAll (d : Dict K V) {bindings : List (K × V)}
    (distinct : (bindings.map Prod.fst).Nodup) (k : K) :
    (d.insertAll bindings).get? k = (lookup k bindings).or (d.get? k) := by
  induction bindings generalizing d with
  | nil => rfl
  | cons entry rest ih =>
      obtain ⟨k', v⟩ := entry
      simp only [List.map_cons, List.nodup_cons] at distinct
      have step : d.insertAll ((k', v) :: rest) = (d.insert k' v).insertAll rest := rfl
      rw [step, ih _ distinct.2, get?_insert]
      by_cases same : k' = k
      · subst same
        have missing : lookup k' rest = none := lookup_eq_none_iff.mpr fun v' mem =>
          distinct.1 (List.mem_map.mpr ⟨_, mem, rfl⟩)
        simp [lookup, missing]
      · simp [lookup, same, Ne.symm same]

/-- `d.update(e)`: the bindings of the other dictionary win. -/
theorem get?_insertAll_entries (d e : Dict K V) (k : K) :
    (d.insertAll e.entries).get? k = (e.get? k).or (d.get? k) :=
  get?_insertAll d e.nodup k

/-- A key that was listed or there before is there afterwards. -/
theorem isSome_get?_insertAll {d : Dict K V} {bindings : List (K × V)} {k : K}
    (bound : (d.get? k).isSome ∨ ∃ v, (k, v) ∈ bindings) : ((d.insertAll bindings).get? k).isSome := by
  induction bindings generalizing d with
  | nil => simpa [insertAll] using bound
  | cons entry rest ih =>
      refine ih ?_
      rw [get?_insert]
      rcases bound with held | ⟨v, mem⟩
      · left
        split
        · rfl
        · exact held
      · rcases List.mem_cons.mp mem with rfl | later
        · simp
        · exact .inr ⟨v, later⟩

/-- Every binding of the result was listed or there before. -/
theorem mem_of_get?_insertAll {d : Dict K V} {bindings : List (K × V)} {k : K} {v : V}
    (found : (d.insertAll bindings).get? k = some v) : (k, v) ∈ bindings ∨ d.get? k = some v := by
  induction bindings generalizing d with
  | nil => exact .inr found
  | cons entry rest ih =>
      rcases ih found with later | early
      · exact .inl (List.mem_cons_of_mem _ later)
      · rw [get?_insert] at early
        split at early
        · rename_i same
          cases early
          exact .inl (by simp [same])
        · exact .inr early

/-- Dictionaries with the same bindings are equal. -/
theorem ext {d e : Dict K V} (same : ∀ k, d.get? k = e.get? k) : d = e := by
  have perm : d.entries.Perm e.entries := by
    refine (List.perm_ext_iff_of_nodup d.nodup.of_map e.nodup.of_map).mpr ?_
    rintro ⟨k, v⟩
    rw [mem_entries_iff, mem_entries_iff, same]
  have listed : d.entries = e.entries :=
    perm.eq_of_pairwise (fun a b _ _ before after => absurd before (not_lt.mpr after.le))
      d.sorted e.sorted
  cases d
  cases e
  simpa using listed

/-- Dictionaries that bind the same keys list them alike. -/
theorem entries_forall₂ {d e : Dict K V} (same : ∀ k, (d.get? k).isSome = (e.get? k).isSome) :
    List.Forall₂ (fun a b => a.1 = b.1) d.entries e.entries := by
  have bound {d : Dict K V} {k : K} : k ∈ d.entries.map Prod.fst ↔ (d.get? k).isSome := by
    rw [List.mem_map, Option.isSome_iff_exists]
    constructor
    · rintro ⟨entry, mem, rfl⟩
      exact ⟨entry.2, mem_entries_iff.mp mem⟩
    · rintro ⟨v, found⟩
      exact ⟨(k, v), mem_entries_iff.mpr found, rfl⟩
  have perm : (d.entries.map Prod.fst).Perm (e.entries.map Prod.fst) :=
    (List.perm_ext_iff_of_nodup d.nodup e.nodup).mpr fun k => by rw [bound, bound, same]
  have increasing (d : Dict K V) : (d.entries.map Prod.fst).Pairwise (· < ·) :=
    List.pairwise_map.mpr d.sorted
  have keys : d.entries.map Prod.fst = e.entries.map Prod.fst :=
    perm.eq_of_pairwise (fun a b _ _ before after => absurd before (not_lt.mpr after.le))
      (increasing d) (increasing e)
  have related : List.Forall₂ Eq (d.entries.map Prod.fst) (e.entries.map Prod.fst) := by
    rw [List.forall₂_eq_eq_eq, keys]
  rwa [List.forall₂_map_left_iff, List.forall₂_map_right_iff] at related

/-- A dictionary is rebuilt from its listing. -/
theorem insertAll_entries (d : Dict K V) : (∅ : Dict K V).insertAll d.entries = d := by
  refine ext fun k => ?_
  rw [get?_insertAll_entries, get?_empty, Option.or_none]

end Dict

/-! ## Tables in insertion order -/

/-- A finite map in the order its keys were first assigned. -/
structure Table (K V : Type) where
  entries : List (K × V)
  nodup : (entries.map Prod.fst).Nodup

namespace Table

variable {K V : Type} [DecidableEq K]

def empty : Table K V := ⟨[], List.nodup_nil⟩

instance : EmptyCollection (Table K V) := ⟨empty⟩

def get? (t : Table K V) (k : K) : Option V := lookup k t.entries

/-- Assignment: an existing key keeps its place, a new one comes last. -/
def setEntry (k : K) (v : V) : List (K × V) → List (K × V)
  | [] => [(k, v)]
  | (k', v') :: rest => if k' = k then (k, v) :: rest else (k', v') :: setEntry k v rest

theorem map_fst_setEntry (k : K) (v : V) (l : List (K × V)) :
    (setEntry k v l).map Prod.fst =
      if k ∈ l.map Prod.fst then l.map Prod.fst else l.map Prod.fst ++ [k] := by
  induction l with
  | nil => simp [setEntry]
  | cons head rest ih =>
      obtain ⟨k', v'⟩ := head
      by_cases same : k' = k
      · simp [setEntry, same]
      · simp only [setEntry, same, if_false, List.map_cons, ih, List.mem_cons, Ne.symm same,
          false_or]
        split <;> simp

theorem setEntry_nodup (k : K) (v : V) {l : List (K × V)} (nodup : (l.map Prod.fst).Nodup) :
    ((setEntry k v l).map Prod.fst).Nodup := by
  rw [map_fst_setEntry]
  split
  · exact nodup
  · rename_i absent
    exact List.nodup_append.mpr ⟨nodup, List.nodup_singleton k, by
      rintro a mem b same rfl
      exact absent (List.mem_singleton.mp same ▸ mem)⟩

def set (t : Table K V) (k : K) (v : V) : Table K V :=
  ⟨setEntry k v t.entries, setEntry_nodup k v t.nodup⟩

def erase (t : Table K V) (k : K) : Table K V :=
  ⟨t.entries.filter (fun entry => decide (entry.1 ≠ k)),
    t.nodup.sublist (List.filter_sublist.map Prod.fst)⟩

def values (t : Table K V) : List V := t.entries.map Prod.snd

theorem lookup_setEntry (k k' : K) (v : V) (l : List (K × V)) :
    lookup k' (setEntry k v l) = if k' = k then some v else lookup k' l := by
  induction l with
  | nil => by_cases same : k = k' <;> simp [setEntry, lookup, same, eq_comm]
  | cons head rest ih =>
      obtain ⟨key, value⟩ := head
      by_cases here : key = k
      · subst here
        by_cases same : key = k'
        · simp [setEntry, lookup, same]
        · simp [setEntry, lookup, same, Ne.symm same]
      · by_cases same : key = k'
        · subst same
          simp [setEntry, lookup, here]
        · simp [setEntry, lookup, here, same, ih]

@[simp] theorem get?_empty (k : K) : (∅ : Table K V).get? k = none := rfl

theorem get?_set (t : Table K V) (k k' : K) (v : V) :
    (t.set k v).get? k' = if k' = k then some v else t.get? k' :=
  lookup_setEntry k k' v t.entries

@[simp] theorem get?_set_self (t : Table K V) (k : K) (v : V) : (t.set k v).get? k = some v := by
  simp [get?_set]

/-- Writing what is there already changes nothing. -/
theorem set_of_get? {t : Table K V} {k : K} {v : V} (found : t.get? k = some v) : t.set k v = t := by
  have entries : ∀ l : List (K × V), lookup k l = some v → setEntry k v l = l := by
    intro l found
    induction l with
    | nil => cases found
    | cons head rest ih =>
        obtain ⟨key, value⟩ := head
        rw [lookup] at found
        split at found
        · rename_i same
          cases found
          rw [setEntry, if_pos same, same]
        · rename_i other
          rw [setEntry, if_neg other, ih found]
  cases t with
  | mk l nodup => simp only [set, entries l found]

/-- Writing over a key leaves absent keys absent. -/
theorem get?_set_none {t : Table K V} {k k' : K} {old new : V} (found : t.get? k = some old)
    (gone : t.get? k' = none) : (t.set k new).get? k' = none := by
  have other : k' ≠ k := by
    rintro rfl
    simp [found] at gone
  rw [get?_set, if_neg other, gone]

theorem get?_erase (t : Table K V) (k k' : K) :
    (t.erase k).get? k' = if k' = k then none else t.get? k' := by
  have filtered := lookup_filter (fun key => decide (key ≠ k)) k' t.entries
  by_cases same : k' = k <;> simp_all [erase, get?]

theorem mem_entries_iff {t : Table K V} {k : K} {v : V} :
    (k, v) ∈ t.entries ↔ t.get? k = some v :=
  ⟨lookup_of_mem t.nodup, mem_of_lookup⟩

theorem mem_values_iff {t : Table K V} {v : V} : v ∈ t.values ↔ ∃ k, t.get? k = some v := by
  simp [values, ← mem_entries_iff]

/-- Rewrite every value in place. -/
def mapValues (t : Table K V) (f : V → V) : Table K V :=
  ⟨t.entries.map (fun entry => (entry.1, f entry.2)), by simpa [Function.comp_def] using t.nodup⟩

@[simp] theorem get?_mapValues (t : Table K V) (f : V → V) (k : K) :
    (t.mapValues f).get? k = (t.get? k).map f := by
  simp only [get?, mapValues]
  induction t.entries with
  | nil => rfl
  | cons head rest ih =>
      simp only [List.map_cons, lookup, ih]
      split <;> rfl

/-- Rewrite the values of some keys in place. -/
def rewrite (t : Table K V) (keys : List K) (f : V → V) : Table K V :=
  ⟨t.entries.map (fun entry => (entry.1, if entry.1 ∈ keys then f entry.2 else entry.2)), by
    simpa [Function.comp_def] using t.nodup⟩

theorem get?_rewrite (t : Table K V) (keys : List K) (f : V → V) (k : K) :
    (t.rewrite keys f).get? k = (t.get? k).map (fun v => if k ∈ keys then f v else v) := by
  simp only [get?, rewrite]
  induction t.entries with
  | nil => rfl
  | cons head rest ih =>
      obtain ⟨key, value⟩ := head
      by_cases same : key = k
      · subst same
        simp [lookup]
      · simp only [List.map_cons, lookup, same, if_false, ih]

end Table

namespace Table

variable {V : Type}

/-- A key past every key in use. -/
def freshKey (t : Table ℕ V) : ℕ := (t.entries.map Prod.fst).foldr max 0 + 1

theorem le_foldr_max {l : List ℕ} {n : ℕ} (mem : n ∈ l) : n ≤ l.foldr max 0 := by
  induction l with
  | nil => simp at mem
  | cons head rest ih =>
      rw [List.foldr_cons]
      rcases List.mem_cons.mp mem with rfl | later
      · exact le_max_left _ _
      · exact le_max_of_le_right (ih later)

theorem get?_freshKey (t : Table ℕ V) : t.get? t.freshKey = none := by
  refine lookup_eq_none_iff.mpr fun v mem => ?_
  have bound := le_foldr_max (List.mem_map_of_mem mem : t.freshKey ∈ t.entries.map Prod.fst)
  simp only [freshKey] at bound
  omega

/-- The value with the least key among those that pass. -/
def firstWhere (t : Table ℕ V) (p : V → Bool) : Option (ℕ × V) :=
  (sortOn Prod.fst t.entries).find? (fun entry => p entry.2)

theorem firstWhere_eq_some {t : Table ℕ V} {p : V → Bool} {k : ℕ} {v : V}
    (found : t.firstWhere p = some (k, v)) : t.get? k = some v ∧ p v = true := by
  refine ⟨mem_entries_iff.mp ((mem_sortOn _).mp (List.mem_of_find?_eq_some found)), ?_⟩
  simpa using List.find?_some found

theorem firstWhere_eq_none {t : Table ℕ V} {p : V → Bool} (found : t.firstWhere p = none)
    {k : ℕ} {v : V} (stored : t.get? k = some v) : p v = false := by
  have refused := List.find?_eq_none.mp found (k, v)
    ((mem_sortOn _).mpr (mem_entries_iff.mpr stored))
  simpa using refused

end Table

end Neurons.Lib
