import Mathlib.Data.List.Nodup

/-! # Joining an untrusted index to an authority

An index claims keys with digests; the authority holds the record of a key. A claim is borne out
where the authority has a record of that key with that digest. The join keeps the records of the
claims that are borne out, each once and in the order of the claims, and notes whether another
claim was refuted. Claims that are ranked are rechecked: each keeps its place where it is borne out.
-/

namespace Neurons.Lib

section Join

variable {K H R : Type} [DecidableEq K] [DecidableEq H]
variable (find : K → Option R) (digest : R → H)

/-- The authority bears out a claim of the index. -/
def BornOut (claim : K × H) : Prop := ∃ r, find claim.1 = some r ∧ digest r = claim.2

structure Join (K R : Type) where
  records : List (K × R)
  refuted : Bool

def Join.keys (j : Join K R) : List K := j.records.map Prod.fst

/-- One claim more. -/
def Join.add (j : Join K R) (claim : K × H) : Join K R :=
  match find claim.1 with
  | none => { j with refuted := true }
  | some r =>
      if digest r ≠ claim.2 then { j with refuted := true }
      else if claim.1 ∈ j.keys then j
      else { j with records := j.records ++ [(claim.1, r)] }

def verifiedJoin (claims : List (K × H)) : Join K R := claims.foldl (Join.add find digest) ⟨[], false⟩

variable {find digest}

/-- What a join is after some of the claims. -/
structure Join.Joins (find : K → Option R) (digest : R → H) (claims : List (K × H)) (j : Join K R) : Prop where
  distinct : j.keys.Nodup
  mem_iff : ∀ k r, (k, r) ∈ j.records ↔ find k = some r ∧ (k, digest r) ∈ claims
  refuted_iff : j.refuted = true ↔ ∃ claim ∈ claims, ¬ BornOut find digest claim

omit [DecidableEq K] [DecidableEq H] in
theorem Join.Joins.nil : Join.Joins find digest [] (⟨[], false⟩ : Join K R) :=
  ⟨List.nodup_nil, by simp, by simp⟩

theorem Join.Joins.add {claims : List (K × H)} {j : Join K R} (joins : j.Joins find digest claims) (claim : K × H) :
    (j.add find digest claim).Joins find digest (claims ++ [claim]) := by
  obtain ⟨k, h⟩ := claim
  have refuted (false_ : ¬ BornOut find digest (k, h)) :
      ({ j with refuted := true } : Join K R).Joins find digest (claims ++ [(k, h)]) := by
    refine ⟨joins.distinct, fun k' r => ?_, ?_⟩
    · rw [joins.mem_iff, List.mem_append, List.mem_singleton]
      constructor
      · exact fun own => ⟨own.1, .inl own.2⟩
      · rintro ⟨found, own | same⟩
        · exact ⟨found, own⟩
        · cases same
          exact absurd ⟨r, found, rfl⟩ false_
    · simp only [true_iff]
      exact ⟨(k, h), by simp, false_⟩
  have borne (r : R) (found : find k = some r) (same : digest r = h) :
      (∃ claim ∈ claims ++ [(k, h)], ¬ BornOut find digest claim) ↔ ∃ claim ∈ claims, ¬ BornOut find digest claim := by
    have true_ : BornOut find digest (k, h) := ⟨r, found, same⟩
    simp [true_]
  unfold Join.add
  cases found : find k with
  | none =>
      apply refuted
      rintro ⟨r, known, -⟩
      simp [found] at known
  | some r =>
      dsimp only
      split
      · next differ =>
          apply refuted
          rintro ⟨r', known, same⟩
          rw [found] at known
          cases known
          exact differ same
      · next same =>
          rw [not_not] at same
          split
          · next known =>
              refine ⟨joins.distinct, fun k' r' => ?_, ?_⟩
              · rw [joins.mem_iff, List.mem_append, List.mem_singleton]
                constructor
                · exact fun own => ⟨own.1, .inl own.2⟩
                · rintro ⟨found', own | again⟩
                  · exact ⟨found', own⟩
                  · cases again
                    obtain ⟨⟨k'', r''⟩, mem, rfl⟩ := List.mem_map.mp known
                    have own := (joins.mem_iff k'' r'').mp mem
                    rw [found'] at own
                    cases own.1
                    exact ⟨found', own.2⟩
              · rw [joins.refuted_iff, borne r found same]
          · next fresh =>
              refine ⟨?_, fun k' r' => ?_, ?_⟩
              · simp only [Join.keys, List.map_append, List.map_cons, List.map_nil, List.nodup_append] at fresh ⊢
                refine ⟨joins.distinct, List.nodup_singleton _, ?_⟩
                intro k' mem k'' single
                rw [List.mem_singleton] at single
                subst single
                rintro rfl
                exact fresh mem
              · rw [List.mem_append, List.mem_singleton, joins.mem_iff, List.mem_append, List.mem_singleton]
                constructor
                · rintro (own | new)
                  · exact ⟨own.1, .inl own.2⟩
                  · cases new
                    exact ⟨found, .inr (by rw [same])⟩
                · rintro ⟨found', own | again⟩
                  · exact .inl ⟨found', own⟩
                  · cases again
                    rw [found] at found'
                    cases found'
                    exact .inr rfl
              · rw [joins.refuted_iff, borne r found same]

variable (find digest)

/-- The join keeps exactly the records of the claims that are borne out, each once. -/
theorem verifiedJoin_joins (claims : List (K × H)) : (verifiedJoin find digest claims).Joins find digest claims := by
  suffices general : ∀ (rest first : List (K × H)) (j : Join K R), j.Joins find digest first →
      (rest.foldl (Join.add find digest) j).Joins find digest (first ++ rest) from general claims [] _ .nil
  intro rest
  induction rest with
  | nil =>
      intro first j joins
      rwa [List.append_nil]
  | cons claim rest ih =>
      intro first j joins
      have next := ih (first ++ [claim]) (j.add find digest claim) (joins.add claim)
      rwa [List.append_assoc] at next

end Join

/-! ## Ranked claims -/

section EraseDups

variable {α : Type} [BEq α] [LawfulBEq α]

omit [LawfulBEq α] in
theorem eraseDups_sublist (l : List α) : l.eraseDups.Sublist l := by
  induction n : l.length using Nat.strongRecOn generalizing l with
  | ind n ih =>
      cases l with
      | nil => exact List.nil_sublist _
      | cons a rest =>
          rw [List.eraseDups_cons]
          have shorter := List.length_filter_le (fun b => !b == a) rest
          rw [List.length_cons] at n
          exact ((ih _ (by omega) _ rfl).trans List.filter_sublist).cons_cons a

theorem nodup_eraseDups (l : List α) : l.eraseDups.Nodup := by
  induction n : l.length using Nat.strongRecOn generalizing l with
  | ind n ih =>
      cases l with
      | nil => exact List.nodup_nil
      | cons a rest =>
          have shorter := List.length_filter_le (fun b => !b == a) rest
          rw [List.length_cons] at n
          rw [List.eraseDups_cons, List.nodup_cons]
          refine ⟨fun again => ?_, ih _ (by omega) _ rfl⟩
          simpa using (eraseDups_sublist _).mem again

end EraseDups

section Recheck

variable {K H R : Type} [DecidableEq H] (find : K → Option R) (digest : R → H)

/-- The record that bears a claim out. -/
def recheckOne (claim : K × H) : Option R := (find claim.1).filter fun r => digest r = claim.2

/-- The records of the claims that are borne out, in the order of the claims. -/
def recheck (claims : List (K × H)) : List R := claims.filterMap (recheckOne find digest)

variable {find digest} {claims : List (K × H)}

theorem recheckOne_eq_some {claim : K × H} {r : R} :
    recheckOne find digest claim = some r ↔ find claim.1 = some r ∧ digest r = claim.2 := by
  rw [recheckOne, Option.filter_eq_some_iff, decide_eq_true_eq]

theorem mem_recheck {r : R} : r ∈ recheck find digest claims ↔ ∃ k, find k = some r ∧ (k, digest r) ∈ claims := by
  rw [recheck, List.mem_filterMap]
  constructor
  · rintro ⟨⟨k, h⟩, mem, kept⟩
    obtain ⟨found, rfl⟩ := recheckOne_eq_some.mp kept
    exact ⟨k, found, mem⟩
  · rintro ⟨k, found, mem⟩
    exact ⟨(k, digest r), mem, recheckOne_eq_some.mpr ⟨found, rfl⟩⟩

/-- Where a record tells its key, no key is answered with twice. -/
theorem recheck_distinct {key : R → K} (told : ∀ k r, find k = some r → key r = k) (nodup : claims.Nodup) :
    ((recheck find digest claims).map key).Nodup := by
  induction claims with
  | nil => exact List.nodup_nil
  | cons claim rest ih =>
      rw [List.nodup_cons] at nodup
      cases kept : recheckOne find digest claim with
      | none =>
          rw [recheck, List.filterMap_cons_none kept]
          exact ih nodup.2
      | some r =>
          obtain ⟨found, same⟩ := recheckOne_eq_some.mp kept
          rw [recheck, List.filterMap_cons_some kept, List.map_cons, List.nodup_cons]
          refine ⟨fun again => ?_, ih nodup.2⟩
          obtain ⟨other, mem, equal⟩ := List.mem_map.mp again
          obtain ⟨k, found', claimed⟩ := mem_recheck.mp mem
          have one : k = claim.1 := by rw [← told k other found', equal, told _ r found]
          subst one
          rw [found] at found'
          cases found'
          rw [same] at claimed
          exact nodup.1 claimed

/-- As many records as claims: each claim is borne out. -/
theorem bornOut_of_length_recheck (all : (recheck find digest claims).length = claims.length) {claim : K × H}
    (mem : claim ∈ claims) : BornOut find digest claim := by
  have kept := List.filterMap_length_eq_length.mp all claim mem
  obtain ⟨r, found⟩ := Option.isSome_iff_exists.mp kept
  exact ⟨r, recheckOne_eq_some.mp found⟩

theorem length_recheck_le (claims : List (K × H)) : (recheck find digest claims).length ≤ claims.length :=
  List.length_filterMap_le ..

end Recheck

end Neurons.Lib
