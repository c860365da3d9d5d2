import Mathlib.Algebra.GroupWithZero.Nat
import Mathlib.Data.List.Forall2
import Neurons.Json

/-! # The bytes of a JSON text

`json.dumps` with `ensure_ascii=False` writes a value as UTF-8 text in which only quotes,
backslashes and control characters are escaped. A size is what a text costs where it is read:
on its own, or as a string inside another text.
-/

namespace Neurons.Json

/-- How a character is written inside a string. -/
def escaped (c : Char) : List Char :=
  if c = '"' ∨ c = '\\' then ['\\', c]
  else if c = '\n' then ['\\', 'n']
  else if c = '\r' then ['\\', 'r']
  else if c = '\t' then ['\\', 't']
  else if c.toNat = 8 then ['\\', 'b']
  else if c.toNat = 12 then ['\\', 'f']
  else if c.toNat < 32 then ['\\', 'u', '0', '0', Nat.digitChar (c.toNat / 16), Nat.digitChar (c.toNat % 16)]
  else [c]

/-- What the parts of a text cost. -/
structure Spelling where
  char : Char → ℕ
  quote : ℕ
  /-- between two items -/
  item : ℕ
  /-- between a key and its value -/
  key : ℕ

/-- The bytes of a character inside a string. -/
def charBytes (c : Char) : ℕ := ((escaped c).map Char.utf8Size).sum

/-- `separators=(",", ":")` -/
def compact : Spelling := ⟨charBytes, 1, 1, 1⟩

/-- The separators that `json.dumps` uses otherwise. -/
def spaced : Spelling := ⟨charBytes, 1, 2, 2⟩

/-- A compact text that is itself a string of a JSON text. -/
def nested : Spelling := ⟨fun c => ((escaped c).map charBytes).sum, 2, 1, 1⟩

section Size

variable (w : Spelling)

def textSize (text : String) : ℕ := 2 * w.quote + (text.toList.map w.char).sum

mutual

def size : Json → ℕ
  | .null => 4
  | .bool b => if b then 4 else 5
  | .num n => (toString n).length
  | .dec m scale => (decimalText m scale).length
  | .str s => textSize w s
  | .arr items => 2 + itemsSize items
  | .obj fields => 2 + fieldsSize fields

def itemsSize : List Json → ℕ
  | [] => 0
  | item :: rest => (if rest.isEmpty then 0 else w.item) + size item + itemsSize rest

def fieldsSize : List (Key × Json) → ℕ
  | [] => 0
  | (k, item) :: rest => (if rest.isEmpty then 0 else w.item) + textSize w k.name + w.key + size item + fieldsSize rest

end

/-! ## Larger and smaller values -/

variable {w}

theorem quotes_le_textSize (text : String) : textSize w "" ≤ textSize w text := by
  simp [textSize]

theorem itemsSize_eq (items : List Json) :
    itemsSize w items = (items.map (size w)).sum + w.item * (items.length - 1) := by
  induction items with
  | nil => rfl
  | cons item rest ih =>
      simp only [itemsSize, ih, List.map_cons, List.sum_cons, List.length_cons, Nat.add_sub_cancel]
      cases rest with
      | nil => simp
      | cons next others =>
          simp only [List.isEmpty_cons, Bool.false_eq_true, if_false, List.length_cons, Nat.add_sub_cancel]
          rw [Nat.mul_succ]
          omega

/-- Items that stand for some items of a longer list, each no larger, are no larger together. -/
theorem itemsSize_le {items items' : List Json}
    (related : List.SublistForall₂ (fun a b => size w a ≤ size w b) items items') :
    itemsSize w items ≤ itemsSize w items' := by
  have sums : (items.map (size w)).sum ≤ (items'.map (size w)).sum ∧ items.length ≤ items'.length := by
    induction related with
    | nil => simp
    | cons smaller _ ih =>
        simp only [List.map_cons, List.sum_cons, List.length_cons]
        omega
    | cons_right _ ih =>
        simp only [List.map_cons, List.sum_cons, List.length_cons]
        omega
  rw [itemsSize_eq, itemsSize_eq]
  have commas : w.item * (items.length - 1) ≤ w.item * (items'.length - 1) :=
    Nat.mul_le_mul_left _ (Nat.sub_le_sub_right sums.2 1)
  omega

/-- An object whose fields are no larger, name by name, is no larger. -/
theorem fieldsSize_le {fields fields' : List (Key × Json)}
    (related : List.Forall₂ (fun a b => a.1 = b.1 ∧ size w a.2 ≤ size w b.2) fields fields') :
    fieldsSize w fields ≤ fieldsSize w fields' := by
  induction related with
  | nil => exact le_rfl
  | @cons a b rest rest' first others ih =>
      obtain ⟨k, v⟩ := a
      obtain ⟨k', v'⟩ := b
      obtain ⟨rfl, smaller⟩ := first
      dsimp only at smaller
      have alike : rest.isEmpty = rest'.isEmpty := by
        cases others <;> rfl
      simp only [fieldsSize, alike]
      omega

end Size

end Neurons.Json
