import Neurons.Lib.Program
import Neurons.Source.Resolution

/-! # Programs over the store

Activating a revision, bundling evidence or converging the coverage record takes many calls
to the store. Such an operation is a program that issues them one by one; alone, or with
other clients between any two of its calls.
-/

namespace Neurons.Source

open Neurons.Lib

/-! ## Calls -/

inductive StoreCall : Type → Type where
  | get (docId : String) : StoreCall (Option Doc)
  | findBySession (sessionIdHash : String) (docType : SourceDocType) : StoreCall (List Doc)
  | write (op : Op) : StoreCall (Except PyError Reply)

abbrev StoreProgram := Prog StoreCall PyError

def getDocument (docId : String) : StoreProgram (Option Doc) := Prog.request (.get docId)

/-- The reads of whatever the store is when each of them is made. -/
def storeReader : Reader StoreProgram where
  get := getDocument
  findBySession sessionIdHash docType := Prog.request (.findBySession sessionIdHash docType)

/-- An operation of the store, whose error is the program's. -/
def performOp (op : Op) : StoreProgram Reply := .call (.write op) Prog.ofExcept

/-- `try: program except caught: raise replacement`. -/
def rescuing {α : Type} (program : StoreProgram α) (caught : List ErrorClass) (replacement : PyError) :
    StoreProgram α :=
  program.tryCatch fun e => .fail (if caught.any e.isA then replacement else e)

section Exec

variable (py : Platform)

def StoreCall.exec {β : Type} (call : StoreCall β) (s : Store) : β × Store :=
  match call with
  | .get docId => (s.get docId, s)
  | .findBySession sessionIdHash docType => (s.findBySession sessionIdHash (some docType), s)
  | .write op => op.exec py s

/-- The program alone with the store. -/
def runStore {α : Type} (program : StoreProgram α) (s : Store) : Except PyError α × Store :=
  program.run (StoreCall.exec py) s

end Exec

/-! ## Runs -/

section Runs

variable {py : Platform} {s s' s'' : Store} {α β : Type}

theorem ofExcept_eq (x : Except PyError α) : (ofExcept x : StoreProgram α) = Prog.ofExcept x := by
  cases x <;> rfl

end Runs

/-! ## Resolution as a program -/

section Resolve

variable {py : Platform} {s : Store}

theorem observes_get (docId : String) :
    Prog.Observes (StoreCall.exec py) s (getDocument docId) (.ok (s.get docId)) := rfl

theorem observes_ofExcept {α : Type} (x : Except PyError α) :
    Prog.Observes (StoreCall.exec py) s (ofExcept x) x := by
  rw [ofExcept_eq]
  exact Prog.Observes.ofExcept s x

theorem observes_validateMemberAndSource (sessionIdHash sourceRevision : String) (membership : Doc) :
    Prog.Observes (StoreCall.exec py) s
      (validateMemberAndSource py getDocument sessionIdHash sourceRevision membership)
      (validateMemberAndSource py s.reader.get sessionIdHash sourceRevision membership) := by
  unfold validateMemberAndSource
  refine (observes_get _).bind fun member _ => ?_
  refine Prog.Observes.bind ?_ fun fields _ => ?_
  · rw [ofExcept_except]
    exact observes_ofExcept _
  refine (observes_get _).bind fun source _ => ?_
  cases source with
  | none => rfl
  | some source =>
      refine Prog.Observes.bind ?_ fun _ _ => rfl
      rw [ofExcept_except]
      exact observes_ofExcept _

theorem observes_resolvePinned (sessionIdHash : String) (pointer : Doc) :
    Prog.Observes (StoreCall.exec py) s (resolvePinned py getDocument sessionIdHash pointer)
      (resolvePinned py s.reader.get sessionIdHash pointer) := by
  unfold resolvePinned
  refine Prog.Observes.bind ?_ fun parsed _ => ?_
  · rw [ofExcept_except]
    exact observes_ofExcept _
  refine (observes_get _).bind fun manifest _ => ?_
  cases manifest with
  | none => rfl
  | some manifest =>
      refine Prog.Observes.bind ?_ fun members _ => ?_
      · rw [ofExcept_except]
        exact observes_ofExcept _
      refine Prog.Observes.bind ?_ fun documents _ => ?_
      · exact Prog.Observes.mapM fun membership _ => observes_validateMemberAndSource _ _ membership
      refine Prog.Observes.bind ?_ fun hash _ => ?_
      · rw [ofExcept_except]
        exact observes_ofExcept _
      split <;> rfl

theorem observes_loadLegacyDocuments (sessionIdHash : String) :
    Prog.Observes (StoreCall.exec py) s (loadLegacyDocuments storeReader sessionIdHash)
      (loadLegacyDocuments s.reader sessionIdHash) := rfl

/-- Alone, the program resolves the session in the store as it stands. -/
theorem observes_resolve (sessionIdHash : String) :
    Prog.Observes (StoreCall.exec py) s (resolveActiveSourceRevision py storeReader sessionIdHash)
      (s.resolve py sessionIdHash) := by
  unfold Store.resolve resolveActiveSourceRevision
  refine Prog.Observes.bind ?_ fun _ _ => ?_
  · rw [ofExcept_except]
    exact observes_ofExcept _
  refine (observes_get _).bind fun pointer _ => ?_
  cases pointer with
  | some pointer => exact observes_resolvePinned sessionIdHash pointer
  | none =>
      refine (observes_loadLegacyDocuments sessionIdHash).bind fun documents _ => ?_
      rw [ofExcept_except]
      exact observes_ofExcept _

end Resolve

end Neurons.Source
