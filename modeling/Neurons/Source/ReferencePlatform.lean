import Std.Data.String.ToInt
import Neurons.Lib.Sorting
import Neurons.Source.Platform

/-! # A platform that runs

The library calls as CPython answers them on the documents the concrete runs of
this development use: SHA-256 of the real encodings, `int` of a numeral, no leak
pattern in their texts, and no observed time to parse.
-/

namespace Neurons.Source

open Neurons.Lib

/-! ## SHA-256 -/

namespace Sha256

def roundConstants : List Nat :=
  [0x428a2f98, 0x71374491, 0xb5c0fbcf, 0xe9b5dba5, 0x3956c25b, 0x59f111f1, 0x923f82a4, 0xab1c5ed5,
    0xd807aa98, 0x12835b01, 0x243185be, 0x550c7dc3, 0x72be5d74, 0x80deb1fe, 0x9bdc06a7, 0xc19bf174,
    0xe49b69c1, 0xefbe4786, 0x0fc19dc6, 0x240ca1cc, 0x2de92c6f, 0x4a7484aa, 0x5cb0a9dc, 0x76f988da,
    0x983e5152, 0xa831c66d, 0xb00327c8, 0xbf597fc7, 0xc6e00bf3, 0xd5a79147, 0x06ca6351, 0x14292967,
    0x27b70a85, 0x2e1b2138, 0x4d2c6dfc, 0x53380d13, 0x650a7354, 0x766a0abb, 0x81c2c92e, 0x92722c85,
    0xa2bfe8a1, 0xa81a664b, 0xc24b8b70, 0xc76c51a3, 0xd192e819, 0xd6990624, 0xf40e3585, 0x106aa070,
    0x19a4c116, 0x1e376c08, 0x2748774c, 0x34b0bcb5, 0x391c0cb3, 0x4ed8aa4a, 0x5b9cca4f, 0x682e6ff3,
    0x748f82ee, 0x78a5636f, 0x84c87814, 0x8cc70208, 0x90befffa, 0xa4506ceb, 0xbef9a3f7, 0xc67178f2]

/-- The eight working variables. -/
structure Words where
  a : Nat
  b : Nat
  c : Nat
  d : Nat
  e : Nat
  f : Nat
  g : Nat
  h : Nat

def initial : Words :=
  ⟨0x6a09e667, 0xbb67ae85, 0x3c6ef372, 0xa54ff53a, 0x510e527f, 0x9b05688c, 0x1f83d9ab, 0x5be0cd19⟩

def rotateRight (x n : Nat) : Nat := ((x >>> n) ||| (x <<< (32 - n))) % 2 ^ 32

/-- The message schedule, latest word first. -/
def extend : Nat → List Nat → List Nat
  | 0, words => words
  | n + 1, words =>
      let w15 := words.getD 14 0
      let w2 := words.getD 1 0
      let s0 := rotateRight w15 7 ^^^ rotateRight w15 18 ^^^ (w15 >>> 3)
      let s1 := rotateRight w2 17 ^^^ rotateRight w2 19 ^^^ (w2 >>> 10)
      extend n ((words.getD 15 0 + s0 + words.getD 6 0 + s1) % 2 ^ 32 :: words)

def round (v : Words) (kw : Nat × Nat) : Words :=
  let s1 := rotateRight v.e 6 ^^^ rotateRight v.e 11 ^^^ rotateRight v.e 25
  let ch := (v.e &&& v.f) ^^^ ((2 ^ 32 - 1 - v.e) &&& v.g)
  let t1 := v.h + s1 + ch + kw.1 + kw.2
  let s0 := rotateRight v.a 2 ^^^ rotateRight v.a 13 ^^^ rotateRight v.a 22
  let maj := (v.a &&& v.b) ^^^ (v.a &&& v.c) ^^^ (v.b &&& v.c)
  ⟨(t1 + s0 + maj) % 2 ^ 32, v.a, v.b, v.c, (v.d + t1) % 2 ^ 32, v.e, v.f, v.g⟩

def add (v w : Words) : Words :=
  let plus (x y : Nat) := (x + y) % 2 ^ 32
  ⟨plus v.a w.a, plus v.b w.b, plus v.c w.c, plus v.d w.d,
    plus v.e w.e, plus v.f w.f, plus v.g w.g, plus v.h w.h⟩

def compress (v : Words) (block : List Nat) : Words :=
  let schedule := (extend 48 block.reverse).reverse
  add v ((roundConstants.zip schedule).foldl round v)

/-- Big-endian words of a byte string, four bytes each. -/
def wordsOf : List Nat → List Nat
  | a :: b :: c :: d :: rest => (((a * 256 + b) * 256 + c) * 256 + d) :: wordsOf rest
  | _ => []

def blocksOf : Nat → List Nat → List (List Nat)
  | 0, _ => []
  | n + 1, words => words.take 16 :: blocksOf n (words.drop 16)

def padded (bytes : List Nat) : List Nat :=
  let zeros := (119 - bytes.length % 64) % 64
  let bits := bytes.length * 8
  bytes ++ 128 :: List.replicate zeros 0 ++ (List.range 8).map (fun i => bits / 256 ^ (7 - i) % 256)

def digest (bytes : List Nat) : Words :=
  let words := wordsOf (padded bytes)
  (blocksOf (words.length / 16) words).foldl compress initial

def hexDigits (word : Nat) : List Char :=
  (List.range 8).map (fun i => Nat.digitChar (word / 16 ^ (7 - i) % 16))

def hexdigest (bytes : List Nat) : List Char :=
  let v := digest bytes
  [v.a, v.b, v.c, v.d, v.e, v.f, v.g, v.h].flatMap hexDigits

theorem isHexDigit_digitChar (n : Nat) : isHexDigit (Nat.digitChar (n % 16)) := by
  have all : ∀ digit < 16, isHexDigit (Nat.digitChar digit) := by decide
  exact all _ (Nat.mod_lt _ (by decide))

theorem isHexDigest_hexdigest (bytes : List Nat) : isHexDigest (hexdigest bytes) := by
  simp only [isHexDigest, Bool.and_eq_true, beq_iff_eq, List.all_eq_true]
  refine ⟨by simp [hexdigest, hexDigits], fun c mem => ?_⟩
  simp only [hexdigest, hexDigits, List.mem_flatMap, List.mem_map] at mem
  obtain ⟨word, -, i, -, rfl⟩ := mem
  exact isHexDigit_digitChar _

/-! ### Word by word

The same digest, with every word evaluated before the next one is computed. -/

/-- `f n`, with the number evaluated first. -/
def forced {α : Type} (n : Nat) (f : Nat → α) : α := Nat.rec (f 0) (fun k _ => f (Nat.succ k)) n

def forcedAll {α : Type} : List Nat → (List Nat → α) → α
  | [], f => f []
  | n :: rest, f => forced n fun n => forcedAll rest fun rest => f (n :: rest)

theorem forced_eq {α : Type} (n : Nat) (f : Nat → α) : forced n f = f n := by
  cases n <;> rfl

theorem forcedAll_eq {α : Type} (l : List Nat) (f : List Nat → α) : forcedAll l f = f l := by
  induction l generalizing f with
  | nil => rfl
  | cons n rest ih => rw [forcedAll, forced_eq, ih]

/-- `rotateRight x n`, with `m = 32 - n`. -/
def rotated (x n m : Nat) : Nat := Nat.mod (Nat.lor (Nat.shiftRight x n) (Nat.shiftLeft x m)) 4294967296

def place : List Nat → Nat → Nat
  | [], _ => 0
  | w :: _, 0 => w
  | _ :: rest, n + 1 => place rest n

def extendForced : Nat → List Nat → List Nat
  | 0, words => words
  | n + 1, words =>
      forced (place words 14) fun w15 =>
      forced (place words 1) fun w2 =>
      forced (Nat.mod (Nat.add (Nat.add (Nat.add (place words 15)
        (Nat.xor (Nat.xor (rotated w15 7 25) (rotated w15 18 14)) (Nat.shiftRight w15 3))) (place words 6))
        (Nat.xor (Nat.xor (rotated w2 17 15) (rotated w2 19 13)) (Nat.shiftRight w2 10))) 4294967296) fun w =>
      extendForced n (w :: words)

def rounds : List (Nat × Nat) → (a b c d e f g h : Nat) → Words
  | [], a, b, c, d, e, f, g, h => ⟨a, b, c, d, e, f, g, h⟩
  | kw :: rest, a, b, c, d, e, f, g, h =>
      forced (Nat.add (Nat.add (Nat.add (Nat.add h
        (Nat.xor (Nat.xor (rotated e 6 26) (rotated e 11 21)) (rotated e 25 7))) (Nat.xor (Nat.land e f) (Nat.land (Nat.sub 4294967295 e) g))) kw.1) kw.2) fun t1 =>
      forced (Nat.mod (Nat.add d t1) 4294967296) fun e' =>
      forced (Nat.mod (Nat.add (Nat.add t1 (Nat.xor (Nat.xor (rotated a 2 30) (rotated a 13 19)) (rotated a 22 10)))
        (Nat.xor (Nat.xor (Nat.land a b) (Nat.land a c)) (Nat.land b c))) 4294967296) fun a' =>
      rounds rest a' a b c e' e f g

def compressForced (v : Words) (block : List Nat) : Words :=
  forcedAll block fun block =>
  forcedAll [v.a, v.b, v.c, v.d, v.e, v.f, v.g, v.h] fun _ =>
    add v (rounds (roundConstants.zip (extendForced 48 block.reverse).reverse) v.a v.b v.c v.d v.e v.f v.g v.h)

def hexdigestForced (bytes : List Nat) : List Char :=
  let words := wordsOf (padded bytes)
  let v := (blocksOf (words.length / 16) words).foldl compressForced initial
  [v.a, v.b, v.c, v.d, v.e, v.f, v.g, v.h].flatMap hexDigits

theorem place_eq (words : List Nat) (n : Nat) : place words n = words.getD n 0 := by
  induction words generalizing n with
  | nil => rfl
  | cons w rest ih =>
      cases n with
      | zero => rfl
      | succ n => rw [place, ih, List.getD_cons_succ]

theorem extendForced_eq (n : Nat) (words : List Nat) : extendForced n words = extend n words := by
  induction n generalizing words with
  | zero => rfl
  | succ n ih =>
      simp only [extendForced, forced_eq, place_eq, ih]
      rfl

theorem rounds_eq (kws : List (Nat × Nat)) (a b c d e f g h : Nat) :
    rounds kws a b c d e f g h = kws.foldl round ⟨a, b, c, d, e, f, g, h⟩ := by
  induction kws generalizing a b c d e f g h with
  | nil => rfl
  | cons kw rest ih =>
      simp only [rounds, forced_eq, ih, List.foldl_cons]
      rfl

theorem hexdigest_eq_forced (bytes : List Nat) : hexdigest bytes = hexdigestForced bytes := by
  have same : compress = compressForced := by
    funext v block
    simp only [compressForced, forcedAll_eq, rounds_eq, extendForced_eq]
    rfl
  rw [hexdigest, digest, same]
  rfl

end Sha256

/-! ## Encodings -/

/-- A UTF-16 code unit as a JSON escape. -/
def jsonUnicodeEscape (unit : Nat) : List Char :=
  '\\' :: 'u' :: (List.range 4).map (fun i => Nat.digitChar (unit / 16 ^ (3 - i) % 16))

def jsonEscape (c : Char) : List Char :=
  let n := c.toNat
  if c = '"' then ['\\', '"']
  else if c = '\\' then ['\\', '\\']
  else if c = '\n' then ['\\', 'n']
  else if c = '\r' then ['\\', 'r']
  else if c = '\t' then ['\\', 't']
  else if n = 8 then ['\\', 'b']
  else if n = 12 then ['\\', 'f']
  else if 32 ≤ n ∧ n ≤ 126 then [c]
  else if n < 0x10000 then jsonUnicodeEscape n
  else jsonUnicodeEscape (0xd800 + (n - 0x10000) / 0x400) ++
    jsonUnicodeEscape (0xdc00 + (n - 0x10000) % 0x400)

def jsonText (s : String) : List Char := '"' :: s.toList.flatMap jsonEscape ++ ['"']

mutual

/-- `json.dumps(value, ensure_ascii=True, sort_keys=True, separators=(",", ":"))`. -/
def dumps : Json → List Char
  | .null => "null".toList
  | .bool true => "true".toList
  | .bool false => "false".toList
  | .num n => (toString n).toList
  | .dec m scale => (decimalText m scale).toList
  | .str s => jsonText s
  | .arr items => '[' :: [','].intercalate (dumpsItems items) ++ [']']
  | .obj fields =>
      '\x7b' :: [','].intercalate ((sortOn Prod.fst (dumpsFields fields)).map
        (fun entry => jsonText entry.1 ++ ':' :: entry.2)) ++ ['\x7d']

def dumpsItems : List Json → List (List Char)
  | [] => []
  | item :: rest => dumps item :: dumpsItems rest

def dumpsFields : List (Key × Json) → List (String × List Char)
  | [] => []
  | (k, item) :: rest => (k.name, dumps item) :: dumpsFields rest

end

/-- `repr(sorted(payload.items()))`. -/
def reprSortedItems : Json → List Char
  | .obj fields =>
      '[' :: [',', ' '].intercalate ((sortOn (fun entry : Key × Json => entry.1.name) fields).map
        (fun entry => '(' :: (reprText entry.1.name).toList ++ ',' :: ' ' ::
          entry.2.repr.toList ++ [')'])) ++ [']']
  | v => v.repr.toList

def Encoded.bytes (e : Encoded) : List Nat :=
  let text := match e with
    | .text s => s
    | .json v => String.ofList (dumps v)
    | .repr v => String.ofList (reprSortedItems v)
  text.toUTF8.toList.map UInt8.toNat

def referencePlatform : Platform where
  hexdigest e := String.ofList (Sha256.hexdigest e.bytes)
  hexdigest_hex e := by
    rw [String.toList_ofList]
    exact Sha256.isHexDigest_hexdigest _
  leakPatterns _ := []
  fromisoformat _ := none
  int := String.toInt?
  int_repr n := by
    rw [Nat.toString_eq_repr]
    exact String.toInt?_eq_some_of_toNat?_eq_some (Nat.toNat?_repr n)

/-! ## Character by character -/

theorem byteArray_loop_eq (bytes : ByteArray) (i : ℕ) (found : List UInt8) :
    ByteArray.toList.loop bytes i found = found.reverse ++ bytes.data.toList.drop i := by
  induction left : bytes.size - i generalizing i found with
  | zero =>
      rw [ByteArray.toList.loop, if_neg (by omega), List.drop_eq_nil_of_le (by simp; omega), List.append_nil]
  | succ n ih =>
      have inside : i < bytes.data.toList.length := by simp; omega
      have first : bytes.data.toList.drop i = bytes.get! i :: bytes.data.toList.drop (i + 1) := by
        rw [List.drop_eq_getElem_cons inside]
        cases bytes with
        | mk data =>
            have small : i < data.size := by simpa using inside
            simp [ByteArray.get!, small]
      rw [ByteArray.toList.loop, if_pos (by simpa using inside), ih (i + 1) _ (by omega), first]
      simp

theorem utf8_ofList (chars : List Char) :
    (String.ofList chars).toUTF8.toList = chars.flatMap String.utf8EncodeChar := by
  rw [ByteArray.toList, byteArray_loop_eq]
  simp [String.toUTF8, String.ofList, List.utf8Encode]

/-- The bytes of an encoding, without building its text. -/
def Encoded.charBytes (e : Encoded) : List Nat :=
  let chars := match e with
    | .text s => s.toList
    | .json v => dumps v
    | .repr v => reprSortedItems v
  (chars.flatMap String.utf8EncodeChar).map UInt8.toNat

/-- `int` of an unsigned numeral. -/
def decimal? (text : String) : Option Int :=
  let digits := text.toList
  if digits ≠ [] ∧ digits.all Char.isDigit then some (Nat.ofDigitChars 10 digits 0 : ℕ) else none

theorem decimal?_repr (n : Nat) : decimal? (toString n) = some (n : Int) := by
  have digits : (toString n).toList = Nat.toDigits 10 n := by rw [Nat.toString_eq_repr, Nat.toList_repr]
  have all : (Nat.toDigits 10 n).all Char.isDigit := by
    rw [List.all_eq_true]
    intro c mem
    exact Nat.isDigit_of_mem_toDigits (by decide) (by decide) mem
  rw [decimal?, digits, if_pos ⟨Nat.toDigits_ne_nil, all⟩, Nat.ofDigitChars_ten_toDigits]

/-- The reference platform for longer runs: it hashes the same bytes and counts revisions. -/
def countingPlatform : Platform where
  hexdigest e := String.ofList (Sha256.hexdigest e.charBytes)
  hexdigest_hex e := by
    rw [String.toList_ofList]
    exact Sha256.isHexDigest_hexdigest _
  leakPatterns _ := []
  fromisoformat _ := none
  int := decimal?
  int_repr := decimal?_repr

/-! ### Texts read off their bytes -/

theorem data_toList (s : String) : s.toByteArray.data.toList = s.toList.flatMap String.utf8EncodeChar := by
  have whole := utf8_ofList s.toList
  rw [String.ofList_toList, ByteArray.toList, byteArray_loop_eq] at whole
  simp only [List.reverse_nil, List.nil_append, List.drop_zero] at whole
  rw [← whole]
  rfl

/-- A character is one small byte, or has a byte that is not small. -/
theorem utf8EncodeChar_cases (c : Char) : c.toNat < 128 ∧ String.utf8EncodeChar c = [UInt8.ofNat c.toNat] ∨
    ∃ byte ∈ String.utf8EncodeChar c, 128 ≤ byte.toNat := by
  have tail (n : ℕ) : 128 ≤ (UInt8.ofNat (n % 64 + 128)).toNat := by
    rw [UInt8.toNat_ofNat']
    omega
  unfold String.utf8EncodeChar
  dsimp only
  split
  · next small => exact .inl ⟨Nat.lt_succ_of_le small, rfl⟩
  · split
    · exact .inr ⟨_, List.mem_cons_of_mem _ (List.mem_singleton_self _), tail _⟩
    · split
      · exact .inr ⟨_, List.mem_cons_of_mem _ (List.mem_cons_self ..), tail _⟩
      · exact .inr ⟨_, List.mem_cons_of_mem _ (List.mem_cons_self ..), tail _⟩

theorem map_ofNat_of_small {chars : List Char}
    (small : ∀ byte ∈ chars.flatMap String.utf8EncodeChar, byte.toNat < 128) :
    ((chars.flatMap String.utf8EncodeChar).map UInt8.toNat).map Char.ofNat = chars := by
  induction chars with
  | nil => rfl
  | cons c rest ih =>
      simp only [List.flatMap_cons, List.forall_mem_append] at small
      obtain ⟨ascii, single⟩ | ⟨byte, mem, large⟩ := utf8EncodeChar_cases c
      · have back : (UInt8.ofNat c.toNat).toNat = c.toNat := by
          rw [UInt8.toNat_ofNat']
          omega
        rw [List.flatMap_cons, single, List.map_append, List.map_append, ih small.2]
        simp only [List.map_cons, List.map_nil, back, Char.ofNat_toNat, List.singleton_append]
      · exact absurd (small.1 byte mem) (by omega)

/-- The characters of a text, read off its bytes where they are all ASCII. -/
def plainChars (s : String) : List Char :=
  let bytes := s.toByteArray.data.toList.map UInt8.toNat
  if bytes.all (Nat.blt · 128) then bytes.map Char.ofNat else s.toList

theorem plainChars_eq (s : String) : plainChars s = s.toList := by
  rw [plainChars]
  split
  · next small =>
      rw [data_toList] at small ⊢
      refine map_ofNat_of_small fun byte mem => ?_
      have below := List.all_eq_true.mp small _ (List.mem_map_of_mem mem)
      simpa [Nat.blt_eq] using below
  · rfl

/-- `hashLike`, with its text read off its bytes. -/
def plainHashLike (text : String) : Bool :=
  let chars := plainChars text
  ['s', 'h', 'a', '2', '5', '6', ':'].isPrefixOf chars && isHexDigest (chars.drop 7)

theorem hashLike_eq_plain : hashLike = plainHashLike := by
  funext text
  have start : "sha256:".toList = ['s', 'h', 'a', '2', '5', '6', ':'] := rfl
  rw [hashLike, hasPrefix, plainHashLike, plainChars_eq, start]

/-! ### `repr` -/

def reprEscape (quote c : Char) : List Char :=
  if c = '\\' then ['\\', '\\']
  else if c = quote then ['\\', c]
  else if c = '\n' then ['\\', 'n']
  else if c = '\r' then ['\\', 'r']
  else if c = '\t' then ['\\', 't']
  else if c.toNat < 32 ∨ c.toNat = 127 then
    ['\\', 'x', Nat.digitChar (c.toNat / 16), Nat.digitChar (c.toNat % 16)]
  else [c]

def reprTextChars (chars : List Char) : List Char :=
  let quote := if '\'' ∈ chars ∧ '"' ∉ chars then '"' else '\''
  quote :: chars.flatMap (reprEscape quote) ++ [quote]

theorem toList_reprText (s : String) : (reprText s).toList = reprTextChars (plainChars s) := by
  have escapes (quote c : Char) : (if c = '\\' then "\\\\"
      else if c = quote then String.ofList ['\\', c]
      else if c = '\n' then "\\n"
      else if c = '\r' then "\\r"
      else if c = '\t' then "\\t"
      else if c.toNat < 32 ∨ c.toNat = 127 then
        "\\x" ++ String.ofList [Nat.digitChar (c.toNat / 16), Nat.digitChar (c.toNat % 16)]
      else String.ofList [c]).toList = reprEscape quote c := by
    unfold reprEscape
    split_ifs <;> simp
  simp only [reprText, reprTextChars, plainChars_eq, String.toList_append, String.toList_ofList, String.toList_join,
    List.flatMap_map, escapes, List.cons_append, List.nil_append]

mutual

/-- `Json.repr` as the characters it consists of. -/
def reprChars : Json → List Char
  | .arr items => '[' :: [',', ' '].intercalate (reprItemsChars items) ++ [']']
  | .obj fields => '\x7b' :: [',', ' '].intercalate (reprFieldsChars fields) ++ ['\x7d']
  | .str s => reprTextChars (plainChars s)
  | .null => "None".toList
  | .bool true => "True".toList
  | .bool false => "False".toList
  | .num n => (toString n).toList
  | .dec m s => (decimalText m s).toList

def reprItemsChars : List Json → List (List Char)
  | [] => []
  | x :: xs => reprChars x :: reprItemsChars xs

def reprFieldsChars : List (Key × Json) → List (List Char)
  | [] => []
  | (k, x) :: xs => (reprTextChars (plainChars k.name) ++ ':' :: ' ' :: reprChars x) :: reprFieldsChars xs

end

mutual

theorem toList_repr (v : Json) : v.repr.toList = reprChars v := by
  cases v with
  | null | num | dec => rfl
  | bool b => cases b <;> rfl
  | str s => exact toList_reprText s
  | arr items => simp [Json.repr, reprChars, toList_reprItems]
  | obj fields => simp [Json.repr, reprChars, toList_reprFields]

theorem toList_reprItems (items : List Json) : (Json.reprItems items).map String.toList = reprItemsChars items := by
  cases items with
  | nil => rfl
  | cons x xs => simp [Json.reprItems, reprItemsChars, toList_repr x, toList_reprItems xs]

theorem toList_reprFields (fields : List (Key × Json)) :
    (Json.reprFields fields).map String.toList = reprFieldsChars fields := by
  cases fields with
  | nil => rfl
  | cons entry xs =>
      obtain ⟨k, x⟩ := entry
      simp [Json.reprFields, reprFieldsChars, toList_repr x, toList_reprFields xs, toList_reprText]

end

/-- `repr(sorted(payload.items()))` as the characters it consists of. -/
def sortedItemsChars (fields : List (Key × Json)) : List Char :=
  '[' :: [',', ' '].intercalate ((sortOn (fun entry : Key × Json => entry.1.name) fields).map
    (fun entry => '(' :: reprTextChars (plainChars entry.1.name) ++ ',' :: ' ' :: reprChars entry.2 ++ [')'])) ++ [']']

theorem hexdigest_repr (d : Doc) : countingPlatform.hexdigest (.repr d.json) =
    String.ofList
      (Sha256.hexdigestForced (((sortedItemsChars d.entries).flatMap String.utf8EncodeChar).map UInt8.toNat)) := by
  simp only [countingPlatform, Encoded.charBytes, reprSortedItems, Doc.json, toList_reprText, toList_repr,
    sortedItemsChars, Sha256.hexdigest_eq_forced]

theorem hexdigest_ofList (l : List Char) : countingPlatform.hexdigest (.text (String.ofList l)) =
    String.ofList (Sha256.hexdigestForced ((l.flatMap String.utf8EncodeChar).map UInt8.toNat)) := by
  simp [countingPlatform, Encoded.charBytes, Sha256.hexdigest_eq_forced]

/-! ### Word by word -/

def plainJsonText (s : String) : List Char := '"' :: (plainChars s).flatMap jsonEscape ++ ['"']

mutual

/-- `dumps`, with its texts read off their bytes. -/
def plainDumps : Json → List Char
  | .null => "null".toList
  | .bool true => "true".toList
  | .bool false => "false".toList
  | .num n => (toString n).toList
  | .dec m scale => (decimalText m scale).toList
  | .str s => plainJsonText s
  | .arr items => '[' :: [','].intercalate (plainDumpsItems items) ++ [']']
  | .obj fields =>
      '\x7b' :: [','].intercalate ((sortOn Prod.fst (plainDumpsFields fields)).map
        (fun entry => plainJsonText entry.1 ++ ':' :: entry.2)) ++ ['\x7d']

def plainDumpsItems : List Json → List (List Char)
  | [] => []
  | item :: rest => plainDumps item :: plainDumpsItems rest

def plainDumpsFields : List (Key × Json) → List (String × List Char)
  | [] => []
  | (k, item) :: rest => (k.name, plainDumps item) :: plainDumpsFields rest

end

theorem plainJsonText_eq (s : String) : plainJsonText s = jsonText s := by
  rw [plainJsonText, plainChars_eq, jsonText]

mutual

theorem plainDumps_eq (v : Json) : plainDumps v = dumps v := by
  cases v with
  | null | num | dec => rfl
  | bool b => cases b <;> rfl
  | str s => exact plainJsonText_eq s
  | arr items =>
      exact congrArg (fun texts => '[' :: [','].intercalate texts ++ [']']) (plainDumpsItems_eq items)
  | obj fields =>
      have texts : plainJsonText = jsonText := funext plainJsonText_eq
      change '\x7b' :: [','].intercalate ((sortOn Prod.fst (plainDumpsFields fields)).map
        (fun entry => plainJsonText entry.1 ++ ':' :: entry.2)) ++ ['\x7d'] = _
      rw [plainDumpsFields_eq fields, texts]
      rfl

theorem plainDumpsItems_eq (items : List Json) : plainDumpsItems items = dumpsItems items := by
  cases items with
  | nil => rfl
  | cons item rest =>
      change plainDumps item :: plainDumpsItems rest = dumps item :: dumpsItems rest
      rw [plainDumps_eq item, plainDumpsItems_eq rest]

theorem plainDumpsFields_eq (fields : List (Key × Json)) : plainDumpsFields fields = dumpsFields fields := by
  cases fields with
  | nil => rfl
  | cons entry rest =>
      obtain ⟨k, item⟩ := entry
      change (k.name, plainDumps item) :: plainDumpsFields rest = (k.name, dumps item) :: dumpsFields rest
      rw [plainDumps_eq item, plainDumpsFields_eq rest]

end

/-- The bytes of an encoding, without taking a text apart or building the texts in it. -/
def Encoded.plainBytes (e : Encoded) : List Nat :=
  let bytes := match e with
    | .text s => s.toByteArray.data.toList
    | .json v => (plainDumps v).flatMap String.utf8EncodeChar
    | .repr (.obj fields) => (sortedItemsChars fields).flatMap String.utf8EncodeChar
    | .repr v => (reprChars v).flatMap String.utf8EncodeChar
  bytes.map UInt8.toNat

theorem Encoded.plainBytes_eq (e : Encoded) : e.plainBytes = e.charBytes := by
  cases e with
  | text s =>
      simp only [plainBytes, charBytes, data_toList]
  | json v => simp only [plainBytes, charBytes, plainDumps_eq]
  | repr v =>
      cases v with
      | obj fields =>
          simp only [plainBytes, charBytes, reprSortedItems, sortedItemsChars, toList_reprText, toList_repr]
      | null | bool | num | dec | str | arr => simp only [plainBytes, charBytes, reprSortedItems, toList_repr]

/-- The counting platform, with every word of a digest evaluated before the next one. -/
def forcedPlatform : Platform where
  hexdigest e := String.ofList (Sha256.hexdigestForced e.plainBytes)
  hexdigest_hex e := by
    rw [String.toList_ofList, ← Sha256.hexdigest_eq_forced]
    exact Sha256.isHexDigest_hexdigest _
  leakPatterns _ := []
  fromisoformat _ := none
  int := decimal?
  int_repr := decimal?_repr

theorem countingPlatform_eq_forced : countingPlatform = forcedPlatform := by
  have same : countingPlatform.hexdigest = forcedPlatform.hexdigest := by
    funext e
    simp only [countingPlatform, forcedPlatform, Encoded.plainBytes_eq, Sha256.hexdigest_eq_forced]
  simp only [countingPlatform, forcedPlatform, Platform.mk.injEq, and_true] at same ⊢
  exact same

end Neurons.Source
