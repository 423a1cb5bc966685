import Mathlib

namespace Chiplog.Data

/-! JSON values and their canonical text.

`Json.dumps` is `json.dumps(value, sort_keys=True, separators=(",", ":"),
ensure_ascii=False)`: keys are sorted by code point, nothing is padded, and only
quotes, backslashes and control characters are escaped. -/

abbrev Bytes := List UInt8

/-- `str.encode()`. -/
def utf8 (text : String) : Bytes := text.toUTF8.data.toList

theorem utf8_eq_nil {text : String} : utf8 text = [] ↔ text = "" := by
  constructor
  · intro empty
    refine String.toByteArray_inj.mp (ByteArray.ext ?_)
    exact Array.toList_eq_nil_iff.mp empty
  · rintro rfl
    rfl

inductive Json where
  | null
  | bool (value : Bool)
  | int (value : Int)
  | str (value : String)
  | arr (items : List Json)
  | obj (fields : List (String × Json))

/-- A statement about the characters of a text is decided over its list, not over all
characters. -/
instance (priority := 2000) decidableForallMem (holds : Char → Prop) [DecidablePred holds]
    (chars : List Char) : Decidable (∀ char ∈ chars, holds char) :=
  List.decidableBAll holds chars

instance (priority := 2000) decidableExistsMem (holds : Char → Prop) [DecidablePred holds]
    (chars : List Char) : Decidable (∃ char ∈ chars, holds char) :=
  List.decidableBEx holds chars

def hexAlphabet : List Char := "0123456789abcdef".toList

def hexDigit (value : Nat) : Char := hexAlphabet.getD (value % 16) '0'

def hexByte (value : UInt8) : List Char :=
  [hexDigit (value.toNat / 16), hexDigit value.toNat]

/-- `bytes.hex()`. -/
def hex (raw : Bytes) : String := String.ofList (raw.flatMap hexByte)

def base64Alphabet : List Char :=
  "ABCDEFGHIJKLMNOPQRSTUVWXYZabcdefghijklmnopqrstuvwxyz0123456789-_".toList

def base64Digit (value : Nat) : Char := base64Alphabet.getD (value % 64) 'A'

/-- URL-safe padded base64, the wire form of a `bytes` field. -/
def base64Chars : Bytes → List Char
  | [] => []
  | [a] =>
      [base64Digit (a.toNat / 4), base64Digit (a.toNat % 4 * 16), '=', '=']
  | [a, b] =>
      [base64Digit (a.toNat / 4), base64Digit (a.toNat % 4 * 16 + b.toNat / 16),
        base64Digit (b.toNat % 16 * 4), '=']
  | a :: b :: c :: rest =>
      base64Digit (a.toNat / 4) :: base64Digit (a.toNat % 4 * 16 + b.toNat / 16) ::
        base64Digit (b.toNat % 16 * 4 + c.toNat / 64) :: base64Digit c.toNat ::
        base64Chars rest

def base64 (raw : Bytes) : String := String.ofList (base64Chars raw)

/-- `base64.b64encode`, which keeps the standard alphabet. -/
def b64encode (raw : Bytes) : String :=
  String.ofList ((base64Chars raw).map
    (fun char => if char = '-' then '+' else if char = '_' then '/' else char))

namespace Json

def escape (char : Char) : List Char :=
  match char with
  | '"' => ['\\', '"']
  | '\\' => ['\\', '\\']
  | '\n' => ['\\', 'n']
  | '\r' => ['\\', 'r']
  | '\t' => ['\\', 't']
  | '\x08' => ['\\', 'b']
  | '\x0c' => ['\\', 'f']
  | char =>
      if char.toNat < 32 then ['\\', 'u', '0', '0'] ++ hexByte (UInt8.ofNat char.toNat) else [char]

def quote (text : String) : String :=
  "\"" ++ String.ofList (text.toList.flatMap escape) ++ "\""

def sortKeys (fields : List (String × String)) : List (String × String) :=
  fields.insertionSort (fun left right => left.1 ≤ right.1)

mutual
def dumps : Json → String
  | .null => "null"
  | .bool value => if value then "true" else "false"
  | .int value => toString value
  | .str value => quote value
  | .arr items => "[" ++ ",".intercalate (dumpsItems items) ++ "]"
  | .obj fields =>
      "\x7b" ++ ",".intercalate ((sortKeys (dumpsFields fields)).map
        (fun field => quote field.1 ++ ":" ++ field.2)) ++ "\x7d"

def dumpsItems : List Json → List String
  | [] => []
  | item :: rest => dumps item :: dumpsItems rest

def dumpsFields : List (String × Json) → List (String × String)
  | [] => []
  | (key, value) :: rest => (key, dumps value) :: dumpsFields rest
end

/-- `str.encode()` of the canonical text. -/
def encode (value : Json) : Bytes := utf8 value.dumps

mutual
/-- `model_dump_json()`, which keeps the declaration order of the fields. -/
def dumpsInOrder : Json → String
  | .arr items => "[" ++ ",".intercalate (inOrderItems items) ++ "]"
  | .obj fields => "\x7b" ++ ",".intercalate (inOrderFields fields) ++ "\x7d"
  | scalar => scalar.dumps

def inOrderItems : List Json → List String
  | [] => []
  | item :: rest => dumpsInOrder item :: inOrderItems rest

def inOrderFields : List (String × Json) → List String
  | [] => []
  | (key, value) :: rest => (quote key ++ ":" ++ dumpsInOrder value) :: inOrderFields rest
end

/-- The key order of `_ordered`: the discriminant, then lexical. -/
def KindFirst (left right : String × Json) : Prop :=
  left.1 = "kind" ∨ right.1 ≠ "kind" ∧ left.1 ≤ right.1

instance : DecidableRel KindFirst := fun left right =>
  inferInstanceAs (Decidable (left.1 = "kind" ∨ right.1 ≠ "kind" ∧ left.1 ≤ right.1))

mutual
def ordered : Json → Json
  | .arr items => .arr (orderedItems items)
  | .obj fields => .obj ((orderedFields fields).insertionSort KindFirst)
  | scalar => scalar

def orderedItems : List Json → List Json
  | [] => []
  | item :: rest => ordered item :: orderedItems rest

def orderedFields : List (String × Json) → List (String × Json)
  | [] => []
  | (key, value) :: rest => (key, ordered value) :: orderedFields rest
end

/-- What `ensure_ascii=True` does to a character outside `' '..'~'`. -/
def asciiChar (char : Char) : List Char :=
  let unit (value : Nat) : List Char :=
    ['\\', 'u'] ++ hexByte (UInt8.ofNat (value / 256)) ++ hexByte (UInt8.ofNat value)
  if 32 ≤ char.toNat ∧ char.toNat < 127 then [char]
  else if char.toNat < 0x10000 then unit char.toNat
  else unit (0xd800 + (char.toNat - 0x10000) / 0x400) ++ unit (0xdc00 + char.toNat % 0x400)

/-- `json.dumps(value, sort_keys=True, separators=(",", ":"))`. -/
def dumpsAscii (value : Json) : String := String.ofList (value.dumps.toList.flatMap asciiChar)

def encodeAscii (value : Json) : Bytes := utf8 value.dumpsAscii

example : dumps (.obj [("b", .arr [.int 1, .null]), ("a", .str "x\"")]) =
    "\x7b\"a\":\"x\\\"\",\"b\":[1,null]\x7d" := by
  decide +kernel

/-- An object never has an empty wire form. -/
theorem encode_obj_ne_nil (fields : List (String × Json)) : (Json.obj fields).encode ≠ [] := by
  intro empty
  have first := congrArg String.length (utf8_eq_nil.mp empty)
  have brace : "\x7b".length = 1 := by decide
  simp only [dumps, String.length_append, brace] at first
  simp at first

end Json

end Chiplog.Data

namespace Chiplog.Data

/-! Base64 with the standard alphabet, read back. -/

/-- The standard alphabet in place of the URL-safe one. -/
def standard (char : Char) : Char :=
  if char = '-' then '+' else if char = '_' then '/' else char

def standardAlphabet : List Char := base64Alphabet.map standard

def sextet (char : Char) : Option Nat :=
  if char ∈ standardAlphabet then some (standardAlphabet.idxOf char) else none

/-- `base64.b64decode(text, validate=True)`; an error is none. -/
def b64decode : List Char → Option Bytes
  | [] => some []
  | [first, second, '=', '='] => do
      let a ← sextet first
      let b ← sextet second
      some [UInt8.ofNat (a * 4 + b / 16)]
  | [first, second, third, '='] => do
      let a ← sextet first
      let b ← sextet second
      let c ← sextet third
      some [UInt8.ofNat (a * 4 + b / 16), UInt8.ofNat (b % 16 * 16 + c / 4)]
  | first :: second :: third :: fourth :: rest => do
      let a ← sextet first
      let b ← sextet second
      let c ← sextet third
      let d ← sextet fourth
      let bytes ← b64decode rest
      some (UInt8.ofNat (a * 4 + b / 16) :: UInt8.ofNat (b % 16 * 16 + c / 4) ::
        UInt8.ofNat (c % 4 * 64 + d) :: bytes)
  | _ => none

theorem sextet_digit (value : Nat) :
    sextet (standard (base64Digit value)) = some (value % 64) ∧
      standard (base64Digit value) ≠ '=' := by
  have digits : ∀ place : Fin 64,
      sextet (standard (base64Alphabet.getD place 'A')) = some place.val ∧
        standard (base64Alphabet.getD place 'A') ≠ '=' := by
    decide +kernel
  exact digits ⟨value % 64, Nat.mod_lt _ (by decide)⟩

theorem byte_of_toNat {value : Nat} {byte : UInt8} (same : value = byte.toNat) :
    UInt8.ofNat value = byte := by
  rw [same, UInt8.ofNat_toNat]

theorem b64decode_b64encode (raw : Bytes) : b64decode (b64encode raw).toList = some raw := by
  rw [b64encode, String.toList_ofList]
  change b64decode ((base64Chars raw).map standard) = some raw
  have pad : standard '=' = '=' := by decide
  induction raw using base64Chars.induct with
  | case1 => rfl
  | case2 a =>
      have bound := a.toNat_lt
      obtain ⟨first, _⟩ := sextet_digit (a.toNat / 4)
      obtain ⟨second, _⟩ := sextet_digit (a.toNat % 4 * 16)
      have value : UInt8.ofNat (a.toNat / 4 % 64 * 4 + a.toNat % 4 * 16 % 64 / 16) = a :=
        byte_of_toNat (by omega)
      rw [base64Chars, List.map_cons, List.map_cons, List.map_cons, List.map_cons, List.map_nil,
        pad, b64decode, first, second]
      exact congrArg (fun byte => some [byte]) value
  | case3 a b =>
      have boundA := a.toNat_lt
      have boundB := b.toNat_lt
      obtain ⟨first, _⟩ := sextet_digit (a.toNat / 4)
      obtain ⟨second, _⟩ := sextet_digit (a.toNat % 4 * 16 + b.toNat / 16)
      obtain ⟨third, solid⟩ := sextet_digit (b.toNat % 16 * 4)
      have valueA : UInt8.ofNat
          (a.toNat / 4 % 64 * 4 + (a.toNat % 4 * 16 + b.toNat / 16) % 64 / 16) = a :=
        byte_of_toNat (by omega)
      have valueB : UInt8.ofNat ((a.toNat % 4 * 16 + b.toNat / 16) % 64 % 16 * 16 +
          b.toNat % 16 * 4 % 64 / 4) = b := byte_of_toNat (by omega)
      rw [base64Chars, List.map_cons, List.map_cons, List.map_cons, List.map_cons, List.map_nil,
        pad, b64decode, first, second, third]
      · exact congrArg some (List.cons_eq_cons.mpr ⟨valueA, List.cons_eq_cons.mpr ⟨valueB, rfl⟩⟩)
      · exact solid
  | case4 a b c rest ih =>
      have boundA := a.toNat_lt
      have boundB := b.toNat_lt
      have boundC := c.toNat_lt
      obtain ⟨first, _⟩ := sextet_digit (a.toNat / 4)
      obtain ⟨second, _⟩ := sextet_digit (a.toNat % 4 * 16 + b.toNat / 16)
      obtain ⟨third, _⟩ := sextet_digit (b.toNat % 16 * 4 + c.toNat / 64)
      obtain ⟨fourth, solid⟩ := sextet_digit c.toNat
      have valueA : UInt8.ofNat
          (a.toNat / 4 % 64 * 4 + (a.toNat % 4 * 16 + b.toNat / 16) % 64 / 16) = a :=
        byte_of_toNat (by omega)
      have valueB : UInt8.ofNat ((a.toNat % 4 * 16 + b.toNat / 16) % 64 % 16 * 16 +
          (b.toNat % 16 * 4 + c.toNat / 64) % 64 / 4) = b := byte_of_toNat (by omega)
      have valueC : UInt8.ofNat ((b.toNat % 16 * 4 + c.toNat / 64) % 64 % 4 * 64 + c.toNat % 64) =
          c := byte_of_toNat (by omega)
      rw [base64Chars, List.map_cons, List.map_cons, List.map_cons, List.map_cons, b64decode,
        first, second, third, fourth, ih]
      · exact congrArg some (List.cons_eq_cons.mpr ⟨valueA, List.cons_eq_cons.mpr
          ⟨valueB, List.cons_eq_cons.mpr ⟨valueC, rfl⟩⟩⟩)
      · intro _ same
        exact absurd same solid
      · intro same
        exact absurd same solid

end Chiplog.Data
