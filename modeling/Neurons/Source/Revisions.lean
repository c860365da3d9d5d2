import Neurons.Source.StoreParity

/-! # Revision numbers

Whatever is stored was stored by the store, which numbers the revisions of a document in
ascending order. A revision that was read names the stored document only as long as nobody has
written it since.
-/

namespace Neurons.Source

open Neurons.Lib

/-- Every stored document carries a number of the store. -/
def Store.Numbered (s : Store) : Prop := ∀ docId d, s.get docId = some d → ∃ n, Source.Numbered d n

/-- The store with the document under its next number. -/
def Revised (s : Store) (d : Doc) (s' : Store) : Prop :=
  ∃ (n : ℕ) (hash : String), s' = s.assign (Store.stamp d (d.text .id) (revText n hash) hash) ∧ IsNext s (d.text .id) n

section Writes

variable {py : Platform} {s s' : Store} {d : Doc} {r : StoredRevision}

theorem numbered_stamp (d : Doc) (docId : String) (n : ℕ) (hash : String) :
    Source.Numbered (Store.stamp d docId (revText n hash) hash) n :=
  ⟨hash, Doc.text_of_str (by simp [Store.stamp, Doc.get?_set])⟩

theorem Store.Numbered.assign (numbered : s.Numbered) {d : Doc} {n : ℕ} (own : Source.Numbered d n) :
    (s.assign d).Numbered := by
  intro docId stored found
  rw [Store.get_assign] at found
  split at found
  · cases found
    exact ⟨n, own⟩
  · exact numbered docId stored found

theorem Revised.numbered (revised : Revised s d s') (numbered : s.Numbered) : s'.Numbered := by
  obtain ⟨n, hash, rfl, -⟩ := revised
  exact numbered.assign (numbered_stamp _ _ _ _)

theorem Revised.get (revised : Revised s d s') {docId : String} (other : docId ≠ d.text .id) :
    s'.get docId = s.get docId := by
  obtain ⟨n, hash, rfl, -⟩ := revised
  rw [Store.get_assign, Doc.text_congr (Store.get?_stamp d _ _ _ (by decide)), if_neg other]

theorem putIfAbsent_revised (done : putIfAbsent py d s = .ok (r, s')) : s' = s ∨ Revised s d s' := by
  unfold putIfAbsent at done
  simp only [bind_eq_ok] at done
  obtain ⟨⟨⟩, -, hash, -, done⟩ := done
  split at done
  · simp only [bind_eq_ok] at done
    obtain ⟨decision, -, done⟩ := done
    split at done
    · cases done
      exact .inl rfl
    · simp only [bind_eq_ok, reduceCtorEq, and_false, exists_false] at done
  · rename_i absent
    simp only [bind_eq_ok] at done
    obtain ⟨⟨⟩, -, done⟩ := done
    cases done
    exact .inr ⟨1, hash, rfl, isNext_of_missing absent 1⟩

theorem put_revised (numbered : s.Numbered) (done : put py d s = .ok (r, s')) : s' = s ∨ Revised s d s' := by
  unfold put at done
  simp only [bind_eq_ok] at done
  obtain ⟨⟨⟩, -, done⟩ := done
  split at done
  · exact putIfAbsent_revised done
  · simp only [bind_eq_ok] at done
    obtain ⟨hash, -, decision, -, done⟩ := done
    split at done
    · rename_i existing found
      split at done
      · cases done
        exact .inl rfl
      · simp only [bind_eq_ok, refuseIf_eq_ok] at done
        obtain ⟨⟨⟩, -, ⟨⟩, -, number, next, done⟩ := done
        obtain ⟨n, own, rev⟩ := numbered _ _ found
        rw [rev, nextRevNumber_revText] at next
        cases next
        cases done
        exact .inr ⟨n + 1, hash, rfl, isNext_of_found py found ⟨own, rev⟩⟩
    · rename_i absent
      simp only [bind_eq_ok] at done
      obtain ⟨⟨⟩, -, done⟩ := done
      cases done
      exact .inr ⟨1, hash, rfl, isNext_of_missing absent 1⟩

/-- A conditional write that changes the store has found the revision it expected. -/
theorem putIfRevision_revised {expectedRev : String} (numbered : s.Numbered)
    (done : putIfRevision py d expectedRev s = .ok (r, s')) :
    s' = s ∨ Revised s d s' ∧ ((s.get (d.text .id)).map (·.text .rev)).getD "" = expectedRev := by
  unfold putIfRevision at done
  simp only [bind_eq_ok, refuseIf_eq_ok, not_not] at done
  obtain ⟨⟨⟩, -, ⟨⟩, -, ⟨⟩, expected, hash, -, decision, -, done⟩ := done
  split at done
  · cases done
    exact .inl rfl
  · split at done
    · simp only [bind_eq_ok, reduceCtorEq, and_false, exists_false] at done
    · rw [bind_eq_ok] at done
      obtain ⟨⟨⟩, -, done⟩ := done
      refine .inr ⟨?_, expected⟩
      cases found : s.get (d.text .id) with
      | none =>
          rw [found] at done
          cases done
          exact ⟨1, hash, rfl, isNext_of_missing found 1⟩
      | some existing =>
          obtain ⟨n, own, rev⟩ := numbered _ _ found
          simp only [found, Option.map_some, Option.getD_some, rev, revText_ne_empty, if_false,
            nextRevNumber_revText, ok_bind] at done
          cases done
          exact ⟨n + 1, hash, rfl, isNext_of_found py found ⟨own, rev⟩⟩

theorem Patch.write_numbered {p : Patch} {current : Doc} (numbered : s.Numbered)
    (found : s.get p.docId = some current) (done : p.write py current s = .ok (r, s')) : s'.Numbered := by
  have ordinary (done : put py (p.updated current) s = .ok (r, s')) : s'.Numbered := by
    rcases put_revised numbered done with rfl | revised
    · exact numbered
    · exact revised.numbered numbered
  unfold Patch.write at done
  split at done
  · exact ordinary done
  · split at done
    · exact ordinary done
    · simp only [bind_eq_ok] at done
      obtain ⟨⟨⟩, -, hash, -, number, next, done⟩ := done
      obtain ⟨n, own, rev⟩ := numbered _ _ found
      rw [rev, nextRevNumber_revText] at next
      cases next
      cases done
      exact numbered.assign (numbered_stamp _ _ (n + 1) hash)

theorem Op.exec_numbered (op : Op) (numbered : s.Numbered) : (op.exec py s).2.Numbered := by
  have of_put {d : Doc} {r : StoredRevision} {s' : Store} (done : Source.put py d s = .ok (r, s')) : s'.Numbered := by
    rcases put_revised numbered done with rfl | revised
    · exact numbered
    · exact revised.numbered numbered
  unfold Op.exec
  cases performed : op.perform py s with
  | error e => exact numbered
  | ok result =>
      obtain ⟨reply, s'⟩ := result
      cases op with
      | put d =>
          obtain ⟨⟨r, _⟩, done, same⟩ := except_map_eq_ok performed
          cases same
          exact of_put done
      | putIfAbsent d =>
          obtain ⟨⟨r, _⟩, done, same⟩ := except_map_eq_ok performed
          cases same
          rcases putIfAbsent_revised done with rfl | revised
          · exact numbered
          · exact revised.numbered numbered
      | putIfRevision d rev =>
          obtain ⟨⟨r, _⟩, done, same⟩ := except_map_eq_ok performed
          cases same
          rcases putIfRevision_revised numbered done with rfl | ⟨revised, -⟩
          · exact numbered
          · exact revised.numbered numbered
      | merge d attempts authoritative =>
          obtain ⟨⟨r, _⟩, done, same⟩ := except_map_eq_ok performed
          cases same
          unfold mergeTranscriptSessionAggregate at done
          simp only [bind_eq_ok] at done
          obtain ⟨⟨⟩, -, merged, -, done⟩ := done
          exact of_put done
      | patch p =>
          obtain ⟨⟨r, _⟩, done, same⟩ := except_map_eq_ok performed
          cases same
          unfold patchObservedTimeIfContentHash at done
          rw [bind_eq_ok] at done
          obtain ⟨⟨⟩, -, done⟩ := done
          cases found : s.get p.docId with
          | none =>
              rw [found] at done
              cases done
          | some current =>
              simp only [found, bind_eq_ok] at done
              obtain ⟨⟨⟩, -, done⟩ := done
              split at done
              · cases done
                exact numbered
              · simp only [bind_eq_ok] at done
                obtain ⟨⟨⟩, -, done⟩ := done
                exact Patch.write_numbered numbered found done
      | delete docId =>
          obtain ⟨⟨existed, _⟩, done, same⟩ := except_map_eq_ok performed
          cases same
          unfold Source.delete at done
          split at done
          · cases done
            exact numbered
          · simp only [bind_eq_ok] at done
            obtain ⟨⟨⟩, -, done⟩ := done
            cases done
            intro docId' d found
            change (s.remove docId).get docId' = some d at found
            rw [Store.get_remove] at found
            split at found
            · cases found
            · exact numbered docId' d found

/-- The documents of a store that was filled by operations are numbered. -/
theorem Store.run_numbered (ops : List Op) (numbered : s.Numbered) : (s.run py ops).Numbered := by
  induction ops generalizing s with
  | nil => exact numbered
  | cons op rest ih => exact ih (op.exec_numbered numbered)

theorem Store.empty_numbered : Store.empty.Numbered := by
  intro docId d found
  simp [Store.get, Store.empty] at found

end Writes

/-! ## What was read and what is there -/

/-- What is stored under an id at a later time: the same, or a later revision. -/
def Later (o o' : Option Doc) : Prop :=
  o' = o ∨ ∃ d n, o' = some d ∧ Numbered d n ∧ ∀ earlier m, o = some earlier → Numbered earlier m → m < n

theorem Later.trans {o o' o'' : Option Doc} (first : Later o o') (second : Later o' o'') : Later o o'' := by
  rcases second with rfl | ⟨d, n, rfl, own, above⟩
  · exact first
  · rcases first with rfl | ⟨d', n', rfl, own', above'⟩
    · exact .inr ⟨d, n, rfl, own, above⟩
    · refine .inr ⟨d, n, rfl, own, ?_⟩
      intro earlier m held numbered
      exact (above' earlier m held numbered).trans (above d' n' rfl own')

theorem Later.present {d : Doc} {o : Option Doc} (later : Later (some d) o) : o ≠ none := by
  rcases later with rfl | ⟨d', n, rfl, -, -⟩ <;> simp

/-- The document still has the revision that was read: nobody has written it. -/
theorem Later.same (py : Platform) {o o' : Option Doc} (later : Later o o')
    (numbered : ∀ d, o = some d → ∃ n, Numbered d n)
    (rev : (o'.map (·.text .rev)).getD "" = (o.map (·.text .rev)).getD "") : o' = o := by
  rcases later with same | ⟨d, n, rfl, ⟨hash, own⟩, above⟩
  · exact same
  · exfalso
    cases o with
    | none =>
        rw [Option.map_some, Option.getD_some, own] at rev
        exact revText_ne_empty n hash rev
    | some earlier =>
        obtain ⟨m, hash', own'⟩ := numbered earlier rfl
        simp only [Option.map_some, Option.getD_some, own, own'] at rev
        have below := above earlier m rfl ⟨hash', own'⟩
        exact revText_ne py below.ne' hash hash' rev

theorem Revised.later {s s' : Store} {d : Doc} (revised : Revised s d s') (docId : String) :
    Later (s.get docId) (s'.get docId) := by
  by_cases here : docId = d.text .id
  · obtain ⟨n, hash, rfl, next⟩ := revised
    subst here
    refine .inr ⟨Store.stamp d (d.text .id) (revText n hash) hash, n, ?_, numbered_stamp d _ n hash, ?_⟩
    · rw [Store.get_assign, Doc.text_congr (Store.get?_stamp d _ _ _ (by decide)), if_pos rfl]
    · intro earlier m held numbered
      exact next earlier m held numbered
  · exact .inl (revised.get here)

end Neurons.Source
