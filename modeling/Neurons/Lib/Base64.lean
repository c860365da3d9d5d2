import Mathlib.Data.List.Basic
import Neurons.Lib.Utf8

/-! # Base64

Three bytes are written as four characters, and a rest of one or two bytes is filled up with `=`. The
decoder passes over characters that it does not know, and reads no further than the filling.
-/

namespace Neurons.Lib.Base64

def alphabet : List Char := "ABCDEFGHIJKLMNOPQRSTUVWXYZabcdefghijklmnopqrstuvwxyz0123456789+/".toList

def digit (n : ℕ) : Char := alphabet.getD n 'A'

/-- The value of a character of the alphabet. -/
def value? (c : Char) : Option ℕ := if alphabet.idxOf c < 64 then some (alphabet.idxOf c) else none

/-- `base64.b64encode` -/
def encode : List UInt8 → List Char
  | a :: b :: c :: rest =>
      digit (a.toNat / 4) :: digit (a.toNat % 4 * 16 + b.toNat / 16) :: digit (b.toNat % 16 * 4 + c.toNat / 64) ::
        digit (c.toNat % 64) :: encode rest
  | [a, b] => [digit (a.toNat / 4), digit (a.toNat % 4 * 16 + b.toNat / 16), digit (b.toNat % 16 * 4), '=']
  | [a] => [digit (a.toNat / 4), digit (a.toNat % 4 * 16), '=', '=']
  | [] => []

/-- The bytes of the rest of a text, from a place in a group of four on, with what is left over of the
    character before and the number of filling characters. -/
def decodeFrom (place left pads : ℕ) : List Char → Option (List UInt8)
  | [] => if place = 0 then some [] else none
  | c :: rest =>
      if c = '=' then
        if 2 ≤ place then if 4 ≤ place + pads + 1 then some [] else decodeFrom place left (pads + 1) rest
        else decodeFrom place left pads rest
      else
        match value? c with
        | none => decodeFrom place left pads rest
        | some n =>
            match place with
            | 0 => decodeFrom 1 n 0 rest
            | 1 => (decodeFrom 2 (n % 16) 0 rest).map (UInt8.ofNat (left * 4 + n / 16) :: ·)
            | 2 => (decodeFrom 3 (n % 4) 0 rest).map (UInt8.ofNat (left * 16 + n / 4) :: ·)
            | _ => (decodeFrom 0 0 0 rest).map (UInt8.ofNat (left * 64 + n) :: ·)

/-- `base64.b64decode` -/
def decode (text : List Char) : Option (List UInt8) := decodeFrom 0 0 0 text

theorem value_digit : ∀ n < 64, value? (digit n) = some n ∧ digit n ≠ '=' := by
  decide +kernel

theorem decodeFrom_digit {place left pads n : ℕ} {rest : List Char} (small : n < 64) :
    decodeFrom place left pads (digit n :: rest) =
      match place with
      | 0 => decodeFrom 1 n 0 rest
      | 1 => (decodeFrom 2 (n % 16) 0 rest).map (UInt8.ofNat (left * 4 + n / 16) :: ·)
      | 2 => (decodeFrom 3 (n % 4) 0 rest).map (UInt8.ofNat (left * 16 + n / 4) :: ·)
      | _ => (decodeFrom 0 0 0 rest).map (UInt8.ofNat (left * 64 + n) :: ·) := by
  obtain ⟨known, plain⟩ := value_digit n small
  simp only [decodeFrom, if_neg plain, known]

/-- The bytes of four characters. -/
theorem decode_four {w x y z : ℕ} {rest : List Char} (hw : w < 64) (hx : x < 64) (hy : y < 64) (hz : z < 64) :
    decodeFrom 0 0 0 (digit w :: digit x :: digit y :: digit z :: rest) = (decodeFrom 0 0 0 rest).map fun bytes =>
      UInt8.ofNat (w * 4 + x / 16) :: UInt8.ofNat (x % 16 * 16 + y / 4) :: UInt8.ofNat (y % 4 * 64 + z) :: bytes := by
  rw [decodeFrom_digit hw]
  simp only
  rw [decodeFrom_digit hx]
  simp only
  rw [decodeFrom_digit hy]
  simp only
  rw [decodeFrom_digit hz]
  cases decodeFrom 0 0 0 rest <;> rfl

theorem ofNat_of_eq {a : UInt8} {n : ℕ} (same : n = a.toNat) : UInt8.ofNat n = a := by
  rw [same, UInt8.ofNat_toNat]

/-- What was encoded is read back. -/
theorem decode_encode (bytes : List UInt8) : decode (encode bytes) = some bytes := by
  unfold decode
  fun_induction encode bytes with
  | case1 a b c rest ih =>
      have ha := a.toNat_lt
      have hb := b.toNat_lt
      have hc := c.toNat_lt
      rw [decode_four (by omega) (by omega) (by omega) (by omega), ih, Option.map_some, ofNat_of_eq (a := a) (by omega),
        ofNat_of_eq (a := b) (by omega), ofNat_of_eq (a := c) (by omega)]
  | case2 a b =>
      have ha := a.toNat_lt
      have hb := b.toNat_lt
      have tail : decodeFrom 3 (b.toNat % 16 * 4 % 4) 0 ['='] = some [] := rfl
      rw [decodeFrom_digit (by omega)]
      simp only
      rw [decodeFrom_digit (by omega)]
      simp only
      rw [decodeFrom_digit (by omega)]
      simp only
      rw [tail, Option.map_some, Option.map_some, ofNat_of_eq (a := a) (by omega), ofNat_of_eq (a := b) (by omega)]
  | case3 a =>
      have ha := a.toNat_lt
      have tail : decodeFrom 2 (a.toNat % 4 * 16 % 16) 0 ['=', '='] = some [] := rfl
      rw [decodeFrom_digit (by omega)]
      simp only
      rw [decodeFrom_digit (by omega)]
      simp only
      rw [tail, Option.map_some, ofNat_of_eq (a := a) (by omega)]
  | case4 => rfl

theorem length_encode (bytes : List UInt8) : (encode bytes).length = (bytes.length + 2) / 3 * 4 := by
  fun_induction encode bytes with
  | case1 a b c rest ih =>
      simp only [List.length_cons, ih]
      omega
  | case2 => simp
  | case3 => simp
  | case4 => rfl

/-- A character of an encoded text. -/
def IsDigit (c : Char) : Prop := c ∈ alphabet ∨ c = '='

theorem digit_mem (n : ℕ) : IsDigit (digit n) := by
  rw [digit, List.getD_eq_getElem?_getD]
  cases found : alphabet[n]? with
  | none => exact .inl (by decide)
  | some c => exact .inl (List.mem_of_getElem? found)

theorem isDigit_encode (bytes : List UInt8) : ∀ c ∈ encode bytes, IsDigit c := by
  fun_induction encode bytes with
  | case1 a b c rest ih =>
      simp only [List.forall_mem_cons]
      exact ⟨digit_mem _, digit_mem _, digit_mem _, digit_mem _, ih⟩
  | case2 =>
      simp only [List.forall_mem_cons]
      exact ⟨digit_mem _, digit_mem _, digit_mem _, .inr rfl, nofun⟩
  | case3 =>
      simp only [List.forall_mem_cons]
      exact ⟨digit_mem _, digit_mem _, .inr rfl, .inr rfl, nofun⟩
  | case4 => exact nofun

end Neurons.Lib.Base64
