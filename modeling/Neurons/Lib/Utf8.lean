import Mathlib.Data.List.Infix
import Mathlib.Order.Basic

/-! # Cutting a text at its bytes

A text is cut into pieces of at most so many bytes of its UTF-8 form. A cut that would fall inside
a character is moved back over the continuation bytes before it, to the last place where a character
starts.
-/

namespace Neurons.Lib.Utf8

/-! ## Bytes of a text -/

/-- `text.encode("utf-8")` -/
def encode (text : List Char) : List UInt8 := text.flatMap String.utf8EncodeChar

/-- `data.decode("utf-8")`; none where it raises -/
def decode (data : List UInt8) : Option (List Char) :=
  data.toByteArray.utf8Decode?.map Array.toList

/-- `byte & 0xC0 == 0x80` -/
def isContinuation (byte : UInt8) : Bool := byte &&& 0xC0 == 0x80

@[simp]
theorem encode_nil : encode [] = [] := rfl

@[simp]
theorem encode_cons (c : Char) (text : List Char) : encode (c :: text) = String.utf8EncodeChar c ++ encode text := rfl

@[simp]
theorem encode_append (text more : List Char) : encode (text ++ more) = encode text ++ encode more :=
  List.flatMap_append

theorem length_utf8EncodeChar_le (c : Char) : 0 < (String.utf8EncodeChar c).length ∧ (String.utf8EncodeChar c).length ≤ 4 := by
  rw [String.length_utf8EncodeChar]
  exact ⟨c.utf8Size_pos, c.utf8Size_le_four⟩

theorem encode_eq_nil {text : List Char} : encode text = [] ↔ text = [] := by
  cases text with
  | nil => simp
  | cons c text =>
      have some := (length_utf8EncodeChar_le c).1
      simp [List.length_pos_iff.mp some]

theorem decode_encode (text : List Char) : decode (encode text) = some text := by
  have bytes : (encode text).toByteArray = text.utf8Encode := rfl
  rw [decode, bytes, List.utf8Decode?_utf8Encode]
  rfl

theorem encode_injective : Function.Injective encode := by
  intro text text' same
  have read := congrArg decode same
  rw [decode_encode, decode_encode] at read
  exact Option.some.inj read

theorem isContinuation_tail : ∀ n < 64, isContinuation (UInt8.ofNat (n + 0x80)) = true := by
  decide

theorem isContinuation_ascii : ∀ n < 128, isContinuation (UInt8.ofNat n) = false := by
  decide

theorem isContinuation_lead : ∀ n < 64, isContinuation (UInt8.ofNat (n + 0xc0)) = false := by
  decide

/-- Every byte of a character but the first is a continuation byte. -/
theorem utf8EncodeChar_shape (c : Char) : ∃ lead tail, String.utf8EncodeChar c = lead :: tail ∧
    isContinuation lead = false ∧ ∀ byte ∈ tail, isContinuation byte = true := by
  have tail (n : ℕ) : isContinuation (UInt8.ofNat (n % 0x40 + 0x80)) = true :=
    isContinuation_tail _ (Nat.mod_lt _ (by decide))
  unfold String.utf8EncodeChar
  dsimp only
  split
  · next small => exact ⟨_, _, rfl, isContinuation_ascii _ (Nat.lt_succ_of_le small), nofun⟩
  · split
    · exact ⟨_, _, rfl, isContinuation_lead _ (Nat.lt_of_lt_of_le (Nat.mod_lt _ (by decide)) (by decide)),
        by simpa only [List.forall_mem_singleton] using tail _⟩
    · split
      · refine ⟨_, _, rfl, ?_, ?_⟩
        · exact isContinuation_lead (c.val.toNat / 4096 % 16 + 32) (by omega)
        · simp only [List.forall_mem_cons]
          exact ⟨tail _, tail _, nofun⟩
      · refine ⟨_, _, rfl, ?_, ?_⟩
        · exact isContinuation_lead (c.val.toNat / 262144 % 8 + 48) (by omega)
        · simp only [List.forall_mem_cons]
          exact ⟨tail _, tail _, tail _, nofun⟩

/-! ## Places where a character starts -/

/-- A character starts, or the text ends, at this byte. -/
def Boundary (text : List Char) (p : ℕ) : Prop :=
  ∃ front rest, text = front ++ rest ∧ (encode front).length = p

theorem Boundary.start (text : List Char) : Boundary text 0 := ⟨[], text, rfl, rfl⟩

theorem Boundary.stop (text : List Char) : Boundary text (encode text).length := ⟨text, [], by simp, rfl⟩

/-- Behind a place where a character starts, the next one is at most four bytes away. -/
theorem Boundary.next {text : List Char} {p : ℕ} (start : Boundary text p) (inside : p < (encode text).length) :
    ∃ q, Boundary text q ∧ p < q ∧ q ≤ p + 4 := by
  obtain ⟨front, rest, rfl, rfl⟩ := start
  cases rest with
  | nil =>
      rw [List.append_nil] at inside
      omega
  | cons c rest =>
      obtain ⟨some, four⟩ := length_utf8EncodeChar_le c
      refine ⟨_, ⟨front ++ [c], rest, by simp, rfl⟩, ?_, ?_⟩
      · simp only [encode_append, encode_cons, encode_nil, List.append_nil, List.length_append]
        omega
      · simp only [encode_append, encode_cons, encode_nil, List.append_nil, List.length_append]
        omega

theorem boundary_cons_of_lt {c : Char} {text : List Char} {p : ℕ} (inside : p < (String.utf8EncodeChar c).length) :
    Boundary (c :: text) p ↔ p = 0 := by
  constructor
  · rintro ⟨front, rest, split, rfl⟩
    cases front with
    | nil => rfl
    | cons d front =>
        cases split
        rw [encode_cons, List.length_append] at inside
        omega
  · rintro rfl
    exact .start _

theorem boundary_cons_of_le {c : Char} {text : List Char} {p : ℕ} (behind : (String.utf8EncodeChar c).length ≤ p) :
    Boundary (c :: text) p ↔ Boundary text (p - (String.utf8EncodeChar c).length) := by
  constructor
  · rintro ⟨front, rest, split, rfl⟩
    cases front with
    | nil =>
        have some := (length_utf8EncodeChar_le c).1
        rw [encode_nil, List.length_nil] at behind
        omega
    | cons d front =>
        cases split
        refine ⟨front, rest, rfl, ?_⟩
        rw [encode_cons, List.length_append]
        omega
  · rintro ⟨front, rest, rfl, size⟩
    refine ⟨c :: front, rest, rfl, ?_⟩
    rw [encode_cons, List.length_append, size]
    omega

/-- A byte of a text is a continuation byte exactly when no character starts there. -/
theorem isContinuation_encode {text : List Char} {p : ℕ} (inside : p < (encode text).length) :
    isContinuation (encode text)[p] = true ↔ ¬ Boundary text p := by
  induction text generalizing p with
  | nil => simp at inside
  | cons c text ih =>
      obtain ⟨lead, tail, shape, first, others⟩ := utf8EncodeChar_shape c
      by_cases within : p < (String.utf8EncodeChar c).length
      · have byte : (encode (c :: text))[p] = (String.utf8EncodeChar c)[p] := by
          simp only [encode_cons]
          exact List.getElem_append_left within
        rw [byte, boundary_cons_of_lt within]
        cases p with
        | zero => simp [shape, first]
        | succ p =>
            have mem : (String.utf8EncodeChar c)[p + 1] ∈ tail := by
              simp only [shape, List.getElem_cons_succ]
              exact List.getElem_mem _
            simp [others _ mem]
      · have behind : p - (String.utf8EncodeChar c).length < (encode text).length := by
          rw [encode_cons, List.length_append] at inside
          omega
        have byte : (encode (c :: text))[p] = (encode text)[p - (String.utf8EncodeChar c).length] := by
          simp only [encode_cons]
          exact List.getElem_append_right (by omega)
        rw [byte, boundary_cons_of_le (by omega)]
        exact ih _

/-! ## Moving a cut back -/

/-- `while end > offset and data[end] & 0xC0 == 0x80: end -= 1` -/
def backUp (data : List UInt8) (offset : ℕ) : ℕ → ℕ
  | 0 => 0
  | stop + 1 =>
      if offset < stop + 1 ∧ data[stop + 1]?.any isContinuation then backUp data offset stop else stop + 1

/-- A cut is moved back to the last place at or before it where a character starts. -/
theorem backUp_encode {text : List Char} {offset stop : ℕ} (start : Boundary text offset) (after : offset ≤ stop)
    (inside : stop < (encode text).length) :
    Boundary text (backUp (encode text) offset stop) ∧ offset ≤ backUp (encode text) offset stop ∧
      backUp (encode text) offset stop ≤ stop ∧
      ∀ q, Boundary text q → q ≤ stop → q ≤ backUp (encode text) offset stop := by
  induction stop with
  | zero =>
      rw [backUp]
      exact ⟨.start text, after, le_rfl, fun q _ early => early⟩
  | succ stop ih =>
      rw [backUp, List.getElem?_eq_getElem inside, Option.any_some]
      split
      · next back =>
          obtain ⟨found, above, below, last⟩ := ih (by omega) (by omega)
          refine ⟨found, above, by omega, fun q starts early => last q starts ?_⟩
          have unlike := (isContinuation_encode inside).mp back.2
          have apart : q ≠ stop + 1 := fun same => unlike (same ▸ starts)
          omega
      · next stay =>
          refine ⟨?_, after, le_rfl, fun q _ early => early⟩
          by_cases here : offset = stop + 1
          · exact here ▸ start
          · by_contra unlike
            exact stay ⟨by omega, (isContinuation_encode inside).mpr unlike⟩

/-- The bytes between two places where a character starts are those of a part of the text. -/
theorem encode_between {text : List Char} {p q : ℕ} (start : Boundary text p) (stop : Boundary text q) (ordered : p ≤ q) :
    ∃ part, ((encode text).drop p).take (q - p) = encode part ∧
      (encode text).drop p = encode part ++ (encode text).drop q := by
  obtain ⟨front, rest, split, rfl⟩ := start
  obtain ⟨front', rest', split', rfl⟩ := stop
  have longer : ∃ part, front' = front ++ part := by
    rcases List.prefix_or_prefix_of_prefix ⟨rest, split.symm⟩ ⟨rest', split'.symm⟩ with ⟨part, more⟩ | ⟨part, more⟩
    · exact ⟨part, more.symm⟩
    · rw [← more, encode_append, List.length_append] at ordered
      have none : part = [] := encode_eq_nil.mp (List.length_eq_zero_iff.mp (by omega))
      rw [none, List.append_nil] at more
      exact ⟨[], by rw [more, List.append_nil]⟩
  obtain ⟨part, rfl⟩ := longer
  have whole : encode text = encode front ++ (encode part ++ encode rest') := by
    rw [split', encode_append, encode_append, List.append_assoc]
  have behind : encode text = encode (front ++ part) ++ encode rest' := by rw [split', encode_append]
  refine ⟨part, ?_, ?_⟩
  · rw [whole, List.drop_left, encode_append, List.length_append, Nat.add_sub_cancel_left, List.take_left]
  · rw [behind, List.drop_left, ← behind, whole, List.drop_left]

end Neurons.Lib.Utf8
