import Chiplog.Data.JsonReading
import Mathlib.Tactic.IntervalCases

namespace Chiplog.Data

/-! Lines of canonical records.

Canonical text has no control characters, so neither have its bytes: a body made of such
texts, a newline after each, splits into them again.  Decoders are taken as given and are only
asked to read back what the encoder writes. -/

/-! ### Bytes without control characters -/

theorem utf8_chars (text : String) : utf8 text = text.toList.flatMap String.utf8EncodeChar := by
  rw [utf8, String.toUTF8_eq_toByteArray, ← String.utf8Encode_toList, List.utf8Encode]
  simp

/-- A character below 128 is its own byte; the others have no byte below 128. -/
theorem mem_utf8EncodeChar {char : Char} {byte : UInt8}
    (member : byte ∈ String.utf8EncodeChar char) :
    byte.toNat = char.toNat ∨ 128 ≤ byte.toNat := by
  have value : char.val.toNat = char.toNat := rfl
  rw [String.utf8EncodeChar] at member
  simp only [value] at member
  split at member
  · left
    rw [List.mem_singleton.mp member, UInt8.toNat_ofNat']
    omega
  · right
    split at member
    · simp only [List.mem_cons, List.not_mem_nil, or_false] at member
      rcases member with rfl | rfl <;> rw [UInt8.toNat_ofNat'] <;> omega
    split at member
    · simp only [List.mem_cons, List.not_mem_nil, or_false] at member
      rcases member with rfl | rfl | rfl <;> rw [UInt8.toNat_ofNat'] <;> omega
    · simp only [List.mem_cons, List.not_mem_nil, or_false] at member
      rcases member with rfl | rfl | rfl | rfl <;> rw [UInt8.toNat_ofNat'] <;> omega

/-- No control characters, no control bytes. -/
theorem utf8_plain {text : String} (plain : ∀ char ∈ text.toList, 32 ≤ char.toNat) :
    ∀ byte ∈ utf8 text, 32 ≤ byte.toNat := by
  intro byte member
  rw [utf8_chars] at member
  obtain ⟨char, inside, member⟩ := List.mem_flatMap.mp member
  have low := plain char inside
  rcases mem_utf8EncodeChar member with same | high
  · rwa [same]
  · omega

namespace Json

/-- Without control characters. -/
def Plain (chars : List Char) : Prop := ∀ char ∈ chars, 32 ≤ char.toNat

theorem Plain.append {first second : List Char} (left : Plain first) (right : Plain second) :
    Plain (first ++ second) := by
  intro char member
  rcases List.mem_append.mp member with early | late
  · exact left char early
  · exact right char late

theorem Plain.cons {char : Char} {chars : List Char} (first : 32 ≤ char.toNat)
    (rest : Plain chars) : Plain (char :: chars) := by
  intro other member
  rcases List.mem_cons.mp member with rfl | later
  · exact first
  · exact rest other later

theorem Plain.of_decide {chars : List Char} (plain : chars.all (fun char => 32 ≤ char.toNat)) :
    Plain chars := by
  intro char member
  simpa using List.all_eq_true.mp plain char member

theorem Plain.flatMap {α : Type} {items : List α} {part : α → List Char}
    (plain : ∀ item ∈ items, Plain (part item)) : Plain (items.flatMap part) := by
  intro char member
  obtain ⟨item, inside, member⟩ := List.mem_flatMap.mp member
  exact plain item inside char member

theorem hexDigit_plain (value : Nat) : 32 ≤ (hexDigit value).toNat := by
  have low := Nat.mod_lt value (Nat.succ_pos 15)
  rw [hexDigit]
  generalize value % 16 = place at low
  interval_cases place <;> decide

theorem hexByte_plain (byte : UInt8) : Plain (hexByte byte) := by
  intro char member
  simp only [hexByte, List.mem_cons, List.not_mem_nil, or_false] at member
  rcases member with rfl | rfl
  · exact hexDigit_plain _
  · exact hexDigit_plain _

theorem escape_plain (char : Char) : Plain (escape char) := by
  rcases escape_cases char with ⟨letter, short, same⟩ | ⟨_, same⟩ | ⟨large, _, _, same⟩
  · rw [same]
    cases short <;> exact .of_decide (by decide)
  · rw [same]
    exact .append (.of_decide (by decide)) (hexByte_plain _)
  · rw [same]
    intro other member
    rwa [List.mem_singleton.mp member]

/-- The text of a value in UTF-8. -/
abbrev plainText (value : Json) : List Char := text (fun char => [char]) value

theorem quoted_plain (key : String) : Plain (quoted (fun char => [char]) key) := by
  refine .cons (by decide) (.append (.flatMap ?_) ?_)
  · intro char _
    rw [List.flatMap_singleton']
    exact escape_plain char
  · exact .of_decide (by decide)

theorem series_plain {parts : List (List Char)} (plain : ∀ part ∈ parts, Plain part) :
    Plain (series parts) := by
  cases parts with
  | nil => exact fun _ member => absurd member List.not_mem_nil
  | cons part rest =>
      refine .append (plain part List.mem_cons_self) (.flatMap ?_)
      intro other member
      exact .cons (by decide) (plain other (List.mem_cons_of_mem _ member))

theorem bracketed_plain {lead close : Char} (opens : 32 ≤ lead.toNat) (closes : 32 ≤ close.toNat)
    {inner : List Char} (plain : Plain inner) : Plain (lead :: (inner ++ [close])) :=
  .cons opens (.append plain (.cons closes (fun _ member => absurd member List.not_mem_nil)))

theorem int_plain (value : Int) : Plain (toString value).toList := by
  have digits (number : Nat) : Plain number.repr.toList := by
    intro char member
    have isDigit := repr_digits number char member
    have bounds : 48 ≤ char.toNat ∧ char.toNat ≤ 57 := by
      simpa [Char.isDigit, UInt32.le_iff_toNat_le] using isDigit
    omega
  rw [toList_toString_int]
  cases value with
  | ofNat value => exact digits value
  | negSucc value => exact .cons (by decide) (digits _)

mutual
theorem text_plain : ∀ value : Json, Plain (plainText value)
  | .null => by
      rw [plainText, coding_utf8.text_null]
      exact .of_decide (by decide)
  | .bool value => by
      rw [plainText, coding_utf8.text_bool]
      cases value <;> exact .of_decide (by decide)
  | .int value => by
      rw [plainText, coding_utf8.text_int]
      exact int_plain value
  | .str value => by
      rw [plainText, coding_utf8.text_str]
      exact quoted_plain value
  | .arr items => by
      rw [plainText, coding_utf8.text_arr]
      apply bracketed_plain (by decide) (by decide) (series_plain ?_)
      intro part member
      obtain ⟨item, inside, rfl⟩ := List.mem_map.mp member
      exact textItems_plain items item inside
  | .obj fields => by
      rw [plainText, coding_utf8.text_obj]
      apply bracketed_plain (by decide) (by decide) (series_plain ?_)
      intro part member
      obtain ⟨field, inside, rfl⟩ := List.mem_map.mp member
      exact .append (quoted_plain field.1)
        (.cons (by decide) (textFields_plain fields field (mem_sortFields.mp inside)))

theorem textItems_plain : ∀ items : List Json, ∀ item ∈ items, Plain (plainText item)
  | [], _, member => absurd member List.not_mem_nil
  | first :: rest, item, member =>
      (List.mem_cons.mp member).elim (fun same => same ▸ text_plain first)
        (textItems_plain rest item)

theorem textFields_plain : ∀ fields : List (String × Json), ∀ field ∈ fields,
    Plain (plainText field.2)
  | [], _, member => absurd member List.not_mem_nil
  | (_, value) :: rest, field, member =>
      (List.mem_cons.mp member).elim (fun same => same ▸ text_plain value)
        (textFields_plain rest field)
end

/-- Canonical bytes have no line break. -/
theorem encode_plain (value : Json) : ∀ byte ∈ value.encode, 32 ≤ byte.toNat := by
  apply utf8_plain
  have plain := text_plain value
  rwa [plainText, text, List.flatMap_singleton'] at plain

end Json

/-! ### Lines -/

/-- The lines from a point on, given what is already read of the first of them. -/
def linesFrom (line : Bytes) : Bytes → List Bytes
  | [] => if line = [] then [] else [line]
  | 13 :: 10 :: rest => line :: linesFrom [] rest
  | byte :: rest =>
      if byte = 10 ∨ byte = 13 then line :: linesFrom [] rest else linesFrom (line ++ [byte]) rest

/-- `bytes.splitlines()`. -/
def splitlines (body : Bytes) : List Bytes := linesFrom [] body

theorem linesFrom_framed {line front rest : Bytes} (plain : ∀ byte ∈ line, 32 ≤ byte.toNat) :
    linesFrom front (line ++ 10 :: rest) = (front ++ line) :: linesFrom [] rest := by
  induction line generalizing front with
  | nil =>
      rw [List.nil_append, List.append_nil]
      rfl
  | cons byte line ih =>
      have low := plain byte List.mem_cons_self
      have notFeed : byte ≠ 10 := fun same => absurd (same ▸ low) (by decide)
      have notReturn : byte ≠ 13 := fun same => absurd (same ▸ low) (by decide)
      rw [List.cons_append, linesFrom, if_neg (not_or.mpr ⟨notFeed, notReturn⟩),
        ih (fun other member => plain other (List.mem_cons_of_mem _ member)), List.append_assoc]
      · rfl
      · rintro _ rfl
        exact absurd rfl notReturn

/-- Lines without breaks of their own are read back. -/
theorem splitlines_framed {lines : List Bytes}
    (plain : ∀ line ∈ lines, ∀ byte ∈ line, 32 ≤ byte.toNat) :
    splitlines (lines.flatMap (fun line => line ++ [10])) = lines := by
  induction lines with
  | nil => rfl
  | cons line lines ih =>
      rw [splitlines, List.flatMap_cons, List.append_assoc, List.singleton_append,
        linesFrom_framed (plain line List.mem_cons_self)]
      congr 1
      exact ih (fun other member => plain other (List.mem_cons_of_mem _ member))

/-! ### Hexadecimal text -/

def nibble (char : Char) : Option Nat :=
  if '0' ≤ char ∧ char ≤ '9' then some (char.toNat - 48)
  else if 'a' ≤ char ∧ char ≤ 'f' then some (char.toNat - 87)
  else if 'A' ≤ char ∧ char ≤ 'F' then some (char.toNat - 55)
  else none

/-- The ASCII whitespace that `bytes.fromhex` skips between two bytes. -/
def isSpace (char : Char) : Bool := char ∈ [' ', '\t', '\n', '\r', '\x0b', '\x0c']

/-- `bytes.fromhex(text)`; a `ValueError` is none. -/
def fromhex : List Char → Option Bytes
  | [] => some []
  | [last] => if isSpace last then some [] else none
  | high :: low :: rest =>
      if isSpace high then fromhex (low :: rest)
      else do
        let first ← nibble high
        let second ← nibble low
        let bytes ← fromhex rest
        some (UInt8.ofNat (first * 16 + second) :: bytes)

theorem nibble_hexDigit (value : Nat) :
    isSpace (hexDigit value) = false ∧ nibble (hexDigit value) = some (value % 16) := by
  have low := Nat.mod_lt value (Nat.succ_pos 15)
  rw [hexDigit]
  generalize value % 16 = place at low
  interval_cases place <;> decide

theorem fromhex_hex (raw : Bytes) : fromhex (hex raw).toList = some raw := by
  rw [hex, String.toList_ofList]
  induction raw with
  | nil => rfl
  | cons byte raw ih =>
      obtain ⟨solid, high⟩ := nibble_hexDigit (byte.toNat / 16)
      obtain ⟨_, low⟩ := nibble_hexDigit byte.toNat
      have value : UInt8.ofNat (byte.toNat / 16 % 16 * 16 + byte.toNat % 16) = byte := by
        apply UInt8.toNat_inj.mp
        have bound := byte.toNat_lt
        rw [UInt8.toNat_ofNat']
        omega
      rw [List.flatMap_cons, hexByte, List.cons_append, List.cons_append, List.nil_append, fromhex,
        if_neg (by simp [solid]), high, low, ih]
      exact congrArg (fun first => some (first :: raw)) value

/-! ### Decoders -/

/-- A record of texts, with null for the absent ones. -/
def textRecord (fields : List (String × Option String)) : Json :=
  .obj (fields.map (fun field => (field.1, field.2.elim .null .str)))

/-- The decoder reads a canonical record of texts back. -/
def ReadsRecords (loads : Bytes → Option Json) : Prop :=
  ∀ fields : List (String × Option String), (fields.map Prod.fst).Pairwise (· < ·) →
    loads (textRecord fields).encode = some (textRecord fields)

namespace Json

theorem sorted_textRecord {fields : List (String × Option String)}
    (ascending : (fields.map Prod.fst).Pairwise (· < ·)) :
    sorted (textRecord fields) = textRecord fields := by
  rw [textRecord, sorted_obj, sortFields]
  have kept : (fields.map (fun field => (field.1, field.2.elim Json.null Json.str))).Pairwise
      (fun left right => left.1 ≤ right.1) := by
    rw [List.pairwise_map] at ascending ⊢
    refine ascending.imp ?_
    intro left right less
    exact Std.le_of_lt less
  rw [kept.insertionSort_eq, List.map_map]
  congr 1
  apply List.map_congr_left
  rintro ⟨key, value⟩ _
  cases value <;> rfl

end Json

open Classical in
/-- The decoder that knows the canonical records and nothing else. -/
noncomputable def recordLoads (raw : Bytes) : Option Json :=
  if known : ∃ fields : List (String × Option String),
      (fields.map Prod.fst).Pairwise (· < ·) ∧ (textRecord fields).encode = raw then
    some (textRecord known.choose)
  else none

theorem recordLoads_reads : ReadsRecords recordLoads := by
  intro fields ascending
  have known : ∃ others : List (String × Option String),
      (others.map Prod.fst).Pairwise (· < ·) ∧ (textRecord others).encode =
        (textRecord fields).encode := ⟨fields, ascending, rfl⟩
  rw [recordLoads, dif_pos known]
  obtain ⟨sorts, same⟩ := known.choose_spec
  have values := Json.encode_inj same
  rw [Json.sorted_textRecord sorts, Json.sorted_textRecord ascending] at values
  rw [values]

end Chiplog.Data
