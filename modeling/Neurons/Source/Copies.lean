import Neurons.Source.ControlPlane
import Neurons.Source.SnapshotResolver
import Neurons.Source.Standing

/-! # Copies and their origins

A copy of a source document for a revision is the document itself but for its id, its bookkeeping
and the fields that say what it is a copy of.
-/

namespace Neurons.Source

open Neurons.Lib

/-- The fields in which a copy differs from its origin. -/
def copyFields : List Field :=
  .id :: bookkeepingFields ++ [.sourceSnapshotSchemaVersion, .sourceSnapshotScope, .sourceSnapshotOriginId]

/-- The id of the document that a source document is a copy of, or its own. -/
def sourceOriginId (d : Doc) : String :=
  if isRevisionSnapshotCopy d then d.text .sourceSnapshotOriginId else d.text .id

section Copies

variable {py : Platform} {sessionIdHash : String} {docs copies : List Doc} {d d' : Doc}

theorem scopedCopy_text {origin : Doc} {docId scope : String} {f : Field} {text : String}
    (marked : (f, Json.str text) ∈ scopeFields py origin scope .snapshot) :
    (scopedCopy py origin docId scope .snapshot).text f = text := by
  simp only [scopeFields, List.mem_cons, Prod.mk.injEq, Json.str.injEq, List.not_mem_nil, or_false] at marked
  rcases marked with ⟨rfl, rfl⟩ | ⟨rfl, rfl⟩ | ⟨rfl, rfl⟩ <;>
    exact Doc.text_of_str (by simp [scopedCopy, scopeFields, Doc.get?_set])

theorem scopedCopy_without (origin : Doc) (docId scope : String) :
    (scopedCopy py origin docId scope .snapshot).without copyFields = origin.without copyFields := by
  refine Dict.ext fun k => ?_
  simp only [Doc.without, Dict.get?_filter]
  by_cases listed : k ∈ copyFields.map Key.field
  · simp [listed]
  · have other {f : Field} (dropped : f ∈ copyFields) : k ≠ .field f := by
      rintro rfl
      exact listed (List.mem_map_of_mem dropped)
    have kept : (bookkeepingFields.map Key.field).contains k = false := by
      rw [List.contains_eq_mem, decide_eq_false_iff_not]
      intro mem
      exact listed (List.map_subset _ (by decide) mem)
    simp only [scopedCopy, scopeFields, Doc.update_cons, Doc.update_nil, Doc.set, Dict.get?_insert, Doc.without,
      Dict.get?_filter, other (by decide : Field.id ∈ copyFields),
      other (by decide : Field.sourceSnapshotSchemaVersion ∈ copyFields),
      other (by decide : Field.sourceSnapshotScope ∈ copyFields),
      other (by decide : Field.sourceSnapshotOriginId ∈ copyFields), kept, Bool.not_false, if_true, if_false]

end Copies

end Neurons.Source
