import Mathlib.Data.List.Infix
import Neurons.Json

/-! # What the sources take from Python

Exceptions, text operations, and the library calls whose results the source code
only compares: `hashlib.sha256`, `re.search` over the leak patterns,
`datetime.fromisoformat` and `int`. The library calls are the fields of a
`Platform`, so every result holds whatever they answer, within what they document.
-/

namespace Neurons.Source

/-! ## Exceptions -/

inductive ErrorClass where
  | valueError | typeError | keyError | indexError | attributeError | overflowError
  | permissionError | runtimeError | databaseError
  | ownershipViolation | sourceRedactionLeak | secretLikeMetadataError
  | sourceStoreError | sourceStoreConflict | sourceStoreResponseTooLarge
  | sourceRevisionResolutionError | sourceRevisionCurrentnessLimitError
  | sourceRevisionSnapshotChangedError
  deriving DecidableEq, Repr

/-- The direct base class, where it is one of the classes above. -/
def ErrorClass.base : ErrorClass → Option ErrorClass
  | .ownershipViolation | .sourceRedactionLeak | .secretLikeMetadataError
  | .sourceStoreError => some .valueError
  | .sourceStoreConflict | .sourceStoreResponseTooLarge
  | .sourceRevisionResolutionError => some .sourceStoreError
  | .sourceRevisionCurrentnessLimitError
  | .sourceRevisionSnapshotChangedError => some .sourceRevisionResolutionError
  | .valueError | .typeError | .keyError | .indexError | .attributeError | .overflowError
  | .permissionError | .runtimeError | .databaseError => none

/-- Whether `except caught` stops an exception of class `raised`. The hierarchy is
    four classes deep. -/
def ErrorClass.isA (raised caught : ErrorClass) : Bool :=
  let up (c : Option ErrorClass) := c.bind ErrorClass.base
  let chain := [some raised, up (some raised), up (up (some raised)), up (up (up (some raised)))]
  chain.contains (some caught)

structure PyError where
  cls : ErrorClass
  message : String
  deriving DecidableEq, Repr

namespace PyError

def isA (e : PyError) (caught : ErrorClass) : Bool := e.cls.isA caught

def valueError (message : String) : PyError := ⟨.valueError, message⟩
def typeError (message : String) : PyError := ⟨.typeError, message⟩
def keyError (message : String) : PyError := ⟨.keyError, message⟩
def indexError (message : String) : PyError := ⟨.indexError, message⟩
def overflowError (message : String) : PyError := ⟨.overflowError, message⟩
def attributeError (message : String) : PyError := ⟨.attributeError, message⟩
def permissionError (message : String) : PyError := ⟨.permissionError, message⟩
def runtimeError (message : String) : PyError := ⟨.runtimeError, message⟩
def databaseError (message : String) : PyError := ⟨.databaseError, message⟩
def storeError (message : String) : PyError := ⟨.sourceStoreError, message⟩
def conflict (message : String) : PyError := ⟨.sourceStoreConflict, message⟩
def resolution (message : String) : PyError := ⟨.sourceRevisionResolutionError, message⟩

end PyError

/-- `try: x except caught: raise replacement`. -/
def rescue {α : Type} (x : Except PyError α) (caught : List ErrorClass) (replacement : PyError) :
    Except PyError α :=
  match x with
  | .ok value => .ok value
  | .error e => if caught.any e.isA then .error replacement else .error e

/-- `if condition: raise error`. -/
def refuseIf (condition : Prop) [Decidable condition] (error : PyError) : Except PyError Unit :=
  if condition then .error error else .ok ()

@[simp] theorem refuseIf_eq_ok {condition : Prop} [Decidable condition] {error : PyError}
    {u : Unit} : refuseIf condition error = .ok u ↔ ¬ condition := by
  by_cases holds : condition <;> simp [refuseIf, holds]

theorem rescue_eq_ok {α : Type} {x : Except PyError α} {caught : List ErrorClass}
    {replacement : PyError} {value : α} :
    rescue x caught replacement = .ok value ↔ x = .ok value := by
  cases x with
  | ok v => rfl
  | error e =>
      simp only [rescue]
      split <;> simp

@[simp] theorem ok_bind {ε α β : Type} (a : α) (f : α → Except ε β) :
    (Except.ok a >>= f) = f a := by
  simp [bind, Except.bind]

@[simp] theorem error_bind {ε α β : Type} (e : ε) (f : α → Except ε β) :
    (Except.error e >>= f) = .error e := by
  simp [bind, Except.bind]

@[simp] theorem pure_eq_ok {ε α : Type} (a : α) : (pure a : Except ε α) = .ok a := by
  simp [pure, Except.pure]

theorem except_map_eq_ok {ε α β : Type} {f : α → β} {x : Except ε α} {b : β}
    (done : x.map f = .ok b) : ∃ a, x = .ok a ∧ f a = b := by
  cases x with
  | ok a => exact ⟨a, rfl, Except.ok.inj done⟩
  | error e => cases done

/-- A sequence of statements succeeds exactly when each one does. -/
theorem bind_eq_ok {ε α β : Type} {x : Except ε α} {f : α → Except ε β} {b : β} :
    (x >>= f) = .ok b ↔ ∃ a, x = .ok a ∧ f a = .ok b := by
  cases x with
  | ok a => simp
  | error e => simp

/-- A loop succeeds exactly when each of its rounds does. -/
theorem mapM_eq_ok_iff {ε α β : Type} {f : α → Except ε β} {l : List α} {l' : List β} :
    l.mapM f = .ok l' ↔ List.Forall₂ (fun a b => f a = .ok b) l l' := by
  induction l generalizing l' with
  | nil => cases l' <;> simp [eq_comm]
  | cons a rest ih =>
      simp only [List.mapM_cons, bind_eq_ok, pure_eq_ok, Except.ok.injEq]
      constructor
      · rintro ⟨b, first, bs, others, rfl⟩
        exact .cons first (ih.mp others)
      · rintro (_ | ⟨first, others⟩)
        exact ⟨_, first, _, ih.mpr others, rfl⟩

theorem forM_eq_ok_iff {α : Type} {f : α → Except PyError Unit} {l : List α} :
    l.forM f = .ok () ↔ ∀ a ∈ l, f a = .ok () := by
  induction l with
  | nil => simp
  | cons a rest ih =>
      rw [show (a :: rest).forM f = (f a >>= fun _ => rest.forM f) from rfl]
      simp only [bind_eq_ok, ih, List.mem_cons, forall_eq_or_imp]
      exact ⟨fun ⟨_, first, others⟩ => ⟨first, others⟩, fun ⟨first, others⟩ => ⟨(), first, others⟩⟩

theorem forall₂_imp_of_mem {α β : Type} {R S : α → β → Prop} {l : List α} {l' : List β}
    (related : List.Forall₂ R l l') (imp : ∀ a ∈ l, ∀ b ∈ l', R a b → S a b) :
    List.Forall₂ S l l' := by
  induction related with
  | nil => exact .nil
  | cons first _ ih =>
      exact .cons (imp _ (by simp) _ (by simp) first)
        (ih fun a memA b memB => imp a (by simp [memA]) b (by simp [memB]))

section FilterM

variable {ε α β : Type} {p : α → Except ε Bool}

theorem filterAuxM_eq (l acc : List α) :
    List.filterAuxM p l acc = (return (← List.filterAuxM p l []) ++ acc) := by
  induction l generalizing acc with
  | nil => rfl
  | cons a l ih =>
      simp only [List.filterAuxM]
      cases p a with
      | error e => rfl
      | ok pass =>
          cases pass with
          | false => simpa using ih acc
          | true =>
              simp only [ok_bind, cond_true]
              rw [ih (a :: acc), ih [a]]
              simp [bind_assoc]

theorem filterM_cons (a : α) (l : List α) :
    (a :: l).filterM p = (do if ← p a then return a :: (← l.filterM p) else l.filterM p) := by
  simp only [List.filterM, List.filterAuxM]
  cases p a with
  | error e => rfl
  | ok pass =>
      cases pass with
      | false => rfl
      | true =>
          simp only [ok_bind, cond_true, if_true]
          rw [filterAuxM_eq l [a]]
          simp [bind_assoc]

/-- Filtering two lists of which each pair passes alike keeps the same keys. -/
theorem filterM_map_congr {key : α → β} {l l' : List α}
    (related : List.Forall₂ (fun a b => key a = key b ∧ p a = p b) l l') :
    (return (← l.filterM p).map key : Except ε (List β)) = (return (← l'.filterM p).map key) := by
  induction related with
  | nil => rfl
  | @cons a b l l' first _ ih =>
      simp only [filterM_cons, first.2]
      cases p b with
      | error e => rfl
      | ok pass =>
          cases pass with
          | false => simpa using ih
          | true =>
              have tail := congrArg (fun r => r >>= fun keys => pure (key b :: keys)) ih
              simpa [bind_assoc, first.1] using tail

theorem filterM_eq_nil_iff {l : List α} : l.filterM p = .ok [] ↔ ∀ a ∈ l, p a = .ok false := by
  induction l with
  | nil => simp [List.filterM, List.filterAuxM]
  | cons a l ih =>
      rw [filterM_cons, List.forall_mem_cons, ← ih]
      cases passed : p a with
      | error e => simp
      | ok pass =>
          cases pass with
          | false => simp
          | true =>
              cases l.filterM p <;> simp

/-- What is kept has passed. -/
theorem mem_of_filterM {l kept : List α} (done : l.filterM p = .ok kept) {a : α} (mem : a ∈ kept) :
    a ∈ l ∧ p a = .ok true := by
  induction l generalizing kept with
  | nil =>
      simp only [List.filterM, List.filterAuxM, ok_bind, pure_eq_ok, Except.ok.injEq] at done
      simp [← done] at mem
  | cons b l ih =>
      rw [filterM_cons, bind_eq_ok] at done
      obtain ⟨pass, passed, done⟩ := done
      cases pass with
      | false => exact (ih done mem).imp_left (List.mem_cons_of_mem b)
      | true =>
          simp only [if_true, bind_eq_ok, pure_eq_ok, Except.ok.injEq] at done
          obtain ⟨rest, tail, rfl⟩ := done
          cases List.mem_cons.mp mem with
          | inl here =>
              subst here
              exact ⟨List.mem_cons_self, passed⟩
          | inr there => exact (ih tail there).imp_left (List.mem_cons_of_mem b)

end FilterM

theorem forall₂_mem_right {α β : Type} {R : α → β → Prop} {l : List α} {l' : List β}
    (related : List.Forall₂ R l l') {b : β} (mem : b ∈ l') : ∃ a ∈ l, R a b := by
  induction related with
  | nil => simp at mem
  | cons first _ ih =>
      cases mem with
      | head => exact ⟨_, by simp, first⟩
      | tail _ mem =>
          obtain ⟨a, inTail, holds⟩ := ih mem
          exact ⟨a, by simp [inTail], holds⟩

/-! ## Texts -/

def hasPrefix (pre text : String) : Bool := pre.toList.isPrefixOf text.toList

/-- `text.removeprefix(pre)`. -/
def removeprefix (pre text : String) : String :=
  if hasPrefix pre text then String.ofList (text.toList.drop pre.length) else text

/-- `pattern in text`. -/
def contains (pattern text : String) : Bool :=
  text.toList.tails.any (fun suffix => pattern.toList.isPrefixOf suffix)

/-- `text.lower()` as far as it can produce ASCII letters: the Kelvin sign and the
    dotted capital I are the only letters outside ASCII that do. -/
def lower (text : String) : String :=
  String.ofList (text.toList.flatMap (fun c =>
    if c.toNat = 0x212a then ['k']
    else if c.toNat = 0x130 then ['i', Char.ofNat 0x307]
    else [c.toLower]))

/-- The characters `str.strip()` removes. -/
def isSpace (c : Char) : Bool :=
  let n := c.toNat
  (9 ≤ n && n ≤ 13) || (28 ≤ n && n ≤ 32) || n == 0x85 || n == 0xa0 || n == 0x1680
    || (0x2000 ≤ n && n ≤ 0x200a) || n == 0x2028 || n == 0x2029 || n == 0x202f || n == 0x205f
    || n == 0x3000

def strip (text : String) : String :=
  String.ofList ((text.toList.dropWhile isSpace).reverse.dropWhile isSpace).reverse

/-- `text.replace("Z", "+00:00")`. -/
def replaceZulu (text : String) : String :=
  String.ofList (text.toList.flatMap (fun c => if c = 'Z' then "+00:00".toList else [c]))

/-- `text.split(separator, 1)[0]`. -/
def beforeFirst (separator : Char) (text : String) : String :=
  String.ofList (text.toList.takeWhile (· != separator))

/-- `text.split(separator, 1)[-1]`. -/
def afterFirst (separator : Char) (text : String) : String :=
  match text.toList.dropWhile (· != separator) with
  | [] => text
  | _ :: rest => String.ofList rest

def isHexDigit (c : Char) : Bool := ('0' ≤ c && c ≤ '9') || ('a' ≤ c && c ≤ 'f')

/-- `re.fullmatch(r"[0-9a-f]{64}", text)`. -/
def isHexDigest (text : List Char) : Bool := text.length == 64 && text.all isHexDigit

/-- `re.fullmatch(r"sha256:[0-9a-f]{64}", text)`. -/
def hashLike (text : String) : Bool :=
  hasPrefix "sha256:" text && isHexDigest (text.toList.drop 7)

/-- `re.fullmatch(r"[A-Za-z0-9][A-Za-z0-9._:+-]{0,127}", text)`. -/
def safeProvenanceVersion (text : String) : Bool :=
  match text.toList with
  | [] => false
  | c :: rest =>
      c.isAlphanum && rest.length ≤ 127 &&
        rest.all (fun c => c.isAlphanum || c ∈ ['.', '_', ':', '+', '-'])

/-! ## Library calls -/

/-- What is handed to `sha256`: a text, the canonical JSON of a value, or the
    `repr` of a value's sorted items. -/
inductive Encoded where
  | text (s : String)
  | json (v : Json)
  | repr (v : Json)
  deriving DecidableEq, Repr

/-- The answers of the library calls. -/
structure Platform where
  /-- `hashlib.sha256(encoded).hexdigest()` -/
  hexdigest : Encoded → String
  hexdigest_hex : ∀ e, isHexDigest (hexdigest e).toList = true
  /-- the categories whose leak pattern is found in the encoded text -/
  leakPatterns : Encoded → List String
  /-- the instant of `datetime.fromisoformat(text)` in microseconds, naive times read as UTC -/
  fromisoformat : String → Option Int
  /-- `int(text)` -/
  int : String → Option Int
  int_repr : ∀ n : Nat, int (toString n) = some (n : Int)

/-- The years 1 to 9999 of UTC, in microseconds: the instants that `astimezone(timezone.utc)` does not raise on. -/
def InUtc (instant : Int) : Prop := -62135596800000000 ≤ instant ∧ instant < 253402300800000000

instance (instant : Int) : Decidable (InUtc instant) := inferInstanceAs (Decidable (_ ∧ _))

/-- `parsed.astimezone(timezone.utc)` -/
def astimezone (instant : Int) : Except PyError Int := do
  refuseIf (¬ InUtc instant) (.overflowError "date value out of range")
  return instant

theorem astimezone_eq_ok {instant i : Int} : astimezone instant = .ok i ↔ InUtc instant ∧ i = instant := by
  simp only [astimezone, bind_eq_ok, refuseIf_eq_ok, not_not, pure_eq_ok, Except.ok.injEq]
  constructor
  · rintro ⟨⟨⟩, inside, rfl⟩
    exact ⟨inside, rfl⟩
  · rintro ⟨inside, rfl⟩
    exact ⟨(), inside, rfl⟩

/-- `"sha256:" + hexdigest`. -/
def sha256Hash (py : Platform) (e : Encoded) : String := "sha256:" ++ py.hexdigest e

theorem hashLike_sha256Hash (py : Platform) (e : Encoded) : hashLike (sha256Hash py e) := by
  have digest := py.hexdigest_hex e
  simp [hashLike, sha256Hash, hasPrefix, digest]

/-- A hash-like text starts with a lower-case letter, so only a text field holds one. -/
theorem hashLike_shape {s : String} (like : hashLike s) :
    ∃ hex, s.toList = 's' :: 'h' :: 'a' :: '2' :: '5' :: '6' :: ':' :: hex ∧
      isHexDigest hex := by
  simp only [hashLike, hasPrefix, Bool.and_eq_true, List.isPrefixOf_iff_prefix] at like
  obtain ⟨⟨hex, shape⟩, digest⟩ := like
  refine ⟨hex, by simpa using shape.symm, ?_⟩
  rw [← shape] at digest
  simpa using digest

theorem hashLike_nonempty {s : String} (like : hashLike s) : s ≠ "" := by
  rintro rfl
  exact absurd like (by decide)

theorem hashLike_length {s : String} (like : hashLike s) : s.length = 71 := by
  obtain ⟨hex, shape, digest⟩ := hashLike_shape like
  simp only [isHexDigest, Bool.and_eq_true, beq_iff_eq] at digest
  rw [← String.length_toList, shape]
  simp [digest.1]

theorem text_eq_hash_iff {d : Doc} {f : Field} {s : String} (like : hashLike s) :
    d.text f = s ↔ d.get? f = some (.str s) := by
  obtain ⟨hex, shape, -⟩ := hashLike_shape like
  exact Doc.text_eq_iff shape (by decide)

end Neurons.Source
