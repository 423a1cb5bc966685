import Chiplog.Data.JsonText
import Chiplog.Data.Sha256
import Std.Data.String.ToInt

namespace Chiplog.Data.Json

variable {char : Char}

/-! Canonical text read back.

Every piece of a canonical text tells where it ends, so two values with one text differ in
the order of their fields at most. -/

/-! ### Characters -/

/-- The character that two UTF-16 units stand for. -/
def joinUnits (high low : Nat) : Char :=
  Char.ofNat (0x10000 + (high - 0xd800) * 0x400 + (low - 0xdc00))

def hexUnit (a b c d : Char) : Nat :=
  Hmac.hexValue a * 4096 + Hmac.hexValue b * 256 + Hmac.hexValue c * 16 + Hmac.hexValue d

def shortEscape : Char → Char
  | 'n' => '\n'
  | 'r' => '\r'
  | 't' => '\t'
  | 'b' => '\x08'
  | 'f' => '\x0c'
  | char => char

/-- The first character of a quoted text and what follows it. -/
def readChar : List Char → Option (Char × List Char)
  | '\\' :: 'u' :: a :: b :: c :: d :: rest =>
      let unit := hexUnit a b c d
      if 0xd800 ≤ unit ∧ unit < 0xdc00 then
        match rest with
        | '\\' :: 'u' :: e :: f :: g :: h :: rest => some (joinUnits unit (hexUnit e f g h), rest)
        | _ => none
      else some (Char.ofNat unit, rest)
  | '\\' :: char :: rest => some (shortEscape char, rest)
  | char :: rest => some (char, rest)
  | [] => none

theorem hexValue_hexDigit (value : Nat) : Hmac.hexValue (hexDigit value) = value % 16 := by
  have digits : ∀ digit : Fin 16, Hmac.hexValue (hexDigit digit) = digit := by decide
  have small := digits ⟨value % 16, Nat.mod_lt _ (by decide)⟩
  simpa [hexDigit] using small

/-- Four hexadecimal digits give their number back. -/
theorem hexUnit_hexByte {value : Nat} (small : value < 0x10000) :
    hexUnit (hexDigit ((UInt8.ofNat (value / 256)).toNat / 16))
      (hexDigit (UInt8.ofNat (value / 256)).toNat) (hexDigit ((UInt8.ofNat value).toNat / 16))
      (hexDigit (UInt8.ofNat value).toNat) = value := by
  simp only [hexUnit, hexValue_hexDigit, UInt8.toNat_ofNat']
  omega

theorem readChar_plain (backslash : char ≠ '\\') (rest : List Char) :
    readChar (char :: rest) = some (char, rest) := by
  unfold readChar
  split
  · rename_i same
    exact absurd (List.cons.inj same).1 backslash
  · rename_i same
    exact absurd (List.cons.inj same).1 backslash
  · rename_i same
    obtain ⟨rfl, rfl⟩ := List.cons.inj same
    rfl
  · rename_i same
    cases same

/-- The characters that are not escaped as themselves, with the letter of their escape. -/
inductive Short : Char → Char → Prop
  | quotation : Short '"' '"'
  | backslash : Short '\\' '\\'
  | newline : Short '\n' 'n'
  | carriage : Short '\r' 'r'
  | tab : Short '\t' 't'
  | backspace : Short '\x08' 'b'
  | formFeed : Short '\x0c' 'f'

theorem escape_cases (char : Char) :
    (∃ letter, Short char letter ∧ escape char = ['\\', letter]) ∨
      (char.toNat < 32 ∧
        escape char = ['\\', 'u', '0', '0'] ++ hexByte (UInt8.ofNat char.toNat)) ∨
      (32 ≤ char.toNat ∧ char ≠ '"' ∧ char ≠ '\\' ∧ escape char = [char]) := by
  unfold escape
  split
  · exact .inl ⟨_, .quotation, rfl⟩
  · exact .inl ⟨_, .backslash, rfl⟩
  · exact .inl ⟨_, .newline, rfl⟩
  · exact .inl ⟨_, .carriage, rfl⟩
  · exact .inl ⟨_, .tab, rfl⟩
  · exact .inl ⟨_, .backspace, rfl⟩
  · exact .inl ⟨_, .formFeed, rfl⟩
  · rename_i quotation backslash _ _ _ _ _
    split
    · rename_i small
      exact .inr (.inl ⟨small, rfl⟩)
    · rename_i large
      exact .inr (.inr ⟨Nat.le_of_not_lt large, quotation, backslash, rfl⟩)

theorem readChar_short {char letter : Char} (short : Short char letter) (rest : List Char) :
    readChar ('\\' :: letter :: rest) = some (char, rest) := by
  cases short <;> rfl

/-- A unit outside the surrogates. -/
theorem readChar_unit {a b c d : Char} (unit : hexUnit a b c d = char.toNat)
    (rest : List Char) : readChar ('\\' :: 'u' :: a :: b :: c :: d :: rest) = some (char, rest) := by
  have valid := char.valid
  have whole : ¬ (0xd800 ≤ char.toNat ∧ char.toNat < 0xdc00) := by
    rcases valid with low | high
    · exact fun inside => absurd low (Nat.not_lt.mpr inside.1)
    · have above : 0xdfff < char.toNat := high.1
      omega
  simp only [readChar, unit, if_neg whole, Char.ofNat_toNat]

theorem readChar_escape (char : Char) (rest : List Char) :
    readChar (escape char ++ rest) = some (char, rest) := by
  rcases escape_cases char with ⟨letter, short, same⟩ | ⟨small, same⟩ | ⟨_, _, backslash, same⟩
  · rw [same]
    exact readChar_short short rest
  · rw [same]
    apply readChar_unit
    have value := @hexUnit_hexByte char.toNat (by omega)
    have zero : char.toNat / 256 = 0 := by omega
    rw [zero] at value
    exact value
  · rw [same]
    exact readChar_plain backslash rest

theorem asciiChar_printable (low : 32 ≤ char.toNat) (high : char.toNat < 127) :
    asciiChar char = [char] :=
  if_pos ⟨low, high⟩

/-- The hexadecimal digits are printable. -/
theorem asciiChar_hexDigit (value : Nat) : asciiChar (hexDigit value) = [hexDigit value] := by
  have printable : ∀ digit : Fin 16, asciiChar (hexDigit digit) = [hexDigit digit] := by decide
  have same : hexDigit value = hexDigit (value % 16) := by simp [hexDigit]
  rw [same]
  exact printable ⟨value % 16, Nat.mod_lt _ (by decide)⟩

theorem joinUnits_of_large (large : 0x10000 ≤ char.toNat) :
    joinUnits (0xd800 + (char.toNat - 0x10000) / 0x400) (0xdc00 + char.toNat % 0x400) = char := by
  have value : 0x10000 + (0xd800 + (char.toNat - 0x10000) / 0x400 - 0xd800) * 0x400 +
      (0xdc00 + char.toNat % 0x400 - 0xdc00) = char.toNat := by
    omega
  rw [joinUnits, value, Char.ofNat_toNat]

theorem readChar_asciiChar (backslash : char ≠ '\\') (rest : List Char) :
    readChar (asciiChar char ++ rest) = some (char, rest) := by
  unfold asciiChar
  dsimp only
  split
  · exact readChar_plain backslash rest
  · split
    · rename_i small
      exact readChar_unit (hexUnit_hexByte small) rest
    · rename_i large
      have large : 0x10000 ≤ char.toNat := Nat.le_of_not_lt large
      have bound : char.toNat < 0x110000 := by
        rcases char.valid with low | high
        · exact Nat.lt_trans low (by decide)
        · exact high.2
      have high := @hexUnit_hexByte (0xd800 + (char.toNat - 0x10000) / 0x400) (by omega)
      have low := @hexUnit_hexByte (0xdc00 + char.toNat % 0x400) (by omega)
      simp only [hexByte, List.cons_append, List.nil_append, readChar, high, low]
      rw [if_pos (by omega), joinUnits_of_large large]

theorem readChar_ascii (char : Char) (rest : List Char) :
    readChar ((escape char).flatMap asciiChar ++ rest) = some (char, rest) := by
  rcases escape_cases char with ⟨letter, short, same⟩ | ⟨small, same⟩ | ⟨_, _, backslash, same⟩
  · have printable : ['\\', letter].flatMap asciiChar = ['\\', letter] := by
      cases short <;> rfl
    rw [same, printable]
    exact readChar_short short rest
  · have printable : (escape char).flatMap asciiChar = escape char := by
      have lead : asciiChar '\\' = ['\\'] ∧ asciiChar 'u' = ['u'] ∧ asciiChar '0' = ['0'] := by
        decide
      simp only [same, hexByte, List.cons_append, List.nil_append, List.flatMap_cons,
        List.flatMap_nil, lead, asciiChar_hexDigit]
    rw [printable]
    exact readChar_escape char rest
  · rw [same, List.flatMap_singleton]
    exact readChar_asciiChar backslash rest

/-- A way to write canonical text that can be read back. -/
structure Coding (code : Char → List Char) : Prop where
  read : ∀ char rest, readChar ((escape char).flatMap code ++ rest) = some (char, rest)
  plain : ∀ char : Char, 32 ≤ char.toNat → char.toNat < 127 → code char = [char]

theorem coding_utf8 : Coding (fun char => [char]) where
  read := by
    intro char rest
    rw [List.flatMap_singleton']
    exact readChar_escape char rest
  plain := fun _ _ _ => rfl

theorem coding_ascii : Coding asciiChar where
  read := readChar_ascii
  plain := fun _ => asciiChar_printable

variable {code : Char → List Char}

/-- The text of a value. -/
def text (code : Char → List Char) (value : Json) : List Char := value.dumps.toList.flatMap code

def quoted (code : Char → List Char) (key : String) : List Char :=
  '"' :: (key.toList.flatMap (fun char => (escape char).flatMap code) ++ ['"'])

/-- Parts separated by commas. -/
def series : List (List Char) → List Char
  | [] => []
  | part :: rest => part ++ rest.flatMap (',' :: ·)

theorem series_eq_intercalate (parts : List (List Char)) : [','].intercalate parts = series parts := by
  induction parts with
  | nil => rfl
  | cons part rest ih =>
      cases rest with
      | nil => simp [series]
      | cons second rest =>
          rw [List.intercalate_cons_cons, ih]
          simp [series]

namespace Coding

variable (coding : Coding code)

include coding

theorem flatMap_printable {chars : List Char}
    (printable : ∀ char ∈ chars, 32 ≤ char.toNat ∧ char.toNat < 127) :
    chars.flatMap code = chars := by
  induction chars with
  | nil => rfl
  | cons char rest ih =>
      have first := printable char List.mem_cons_self
      rw [List.flatMap_cons, coding.plain char first.1 first.2,
        ih (fun other member => printable other (List.mem_cons_of_mem _ member))]
      rfl

theorem quote (key : String) : (Json.quote key).toList.flatMap code = quoted code key := by
  have mark : code '"' = ['"'] := coding.plain '"' (by decide) (by decide)
  have quotation : "\"".toList = ['"'] := rfl
  simp only [Json.quote, String.toList_append, String.toList_ofList, quotation,
    List.flatMap_append, List.flatMap_singleton, mark, List.flatMap_assoc, quoted]
  rfl

/-- A quoted text ends at its quotation mark. -/
theorem cut {first second : List Char} {rest other : List Char}
    (same : first.flatMap (fun char => (escape char).flatMap code) ++ '"' :: rest =
      second.flatMap (fun char => (escape char).flatMap code) ++ '"' :: other) :
    first = second ∧ rest = other := by
  have escaped : (escape '"').flatMap code = ['\\', '"'] :=
    coding.flatMap_printable (show ∀ char ∈ ['\\', '"'], _ from by decide)
  -- a quotation mark of the text itself is escaped
  have inside (char : Char) (more after : List Char) :
      (escape char).flatMap code ++ more ≠ '"' :: after := by
    intro same
    have read := congrArg readChar same
    rw [coding.read, readChar_plain (by decide)] at read
    obtain ⟨rfl, rfl⟩ := Prod.mk.inj (Option.some.inj read)
    rw [escaped] at same
    exact absurd (List.cons.inj same).1 (by decide)
  induction first generalizing second with
  | nil =>
      cases second with
      | nil => exact ⟨rfl, (List.cons.inj same).2⟩
      | cons char chars =>
          rw [List.flatMap_cons, List.append_assoc] at same
          exact absurd same.symm (inside char _ _)
  | cons char chars ih =>
      cases second with
      | nil =>
          rw [List.flatMap_cons, List.append_assoc] at same
          exact absurd same (inside char _ _)
      | cons char' chars' =>
          rw [List.flatMap_cons, List.flatMap_cons, List.append_assoc, List.append_assoc] at same
          have read := congrArg readChar same
          rw [coding.read, coding.read] at read
          obtain ⟨rfl, rests⟩ := Prod.mk.inj (Option.some.inj read)
          obtain ⟨rfl, rfl⟩ := ih rests
          exact ⟨rfl, rfl⟩

theorem quoted_cut {key wanted : String} {rest other : List Char}
    (same : quoted code key ++ rest = quoted code wanted ++ other) : key = wanted ∧ rest = other := by
  simp only [quoted, List.cons_append, List.append_assoc, List.nil_append] at same
  obtain ⟨keys, rests⟩ := coding.cut (List.cons.inj same).2
  exact ⟨String.toList_inj.mp keys, rests⟩

end Coding

/-! ### Values -/

/-- A number is over where the digits are. -/
def Stops (rest : List Char) : Prop := ∀ char ∈ rest.head?, ¬ char.isDigit

theorem digits_cut {first second rest other : List Char} (firstDigits : ∀ char ∈ first, char.isDigit)
    (secondDigits : ∀ char ∈ second, char.isDigit) (stops : Stops rest) (stops' : Stops other)
    (same : first ++ rest = second ++ other) : first = second ∧ rest = other := by
  induction first generalizing second with
  | nil =>
      cases second with
      | nil => exact ⟨rfl, same⟩
      | cons char chars =>
          have digit := secondDigits char List.mem_cons_self
          exact absurd digit (stops char (by rw [List.nil_append] at same; rw [same]; rfl))
  | cons char chars ih =>
      cases second with
      | nil =>
          have digit := firstDigits char List.mem_cons_self
          exact absurd digit (stops' char (by rw [List.nil_append] at same; rw [← same]; rfl))
      | cons char' chars' =>
          obtain ⟨rfl, rests⟩ := List.cons.inj same
          obtain ⟨rfl, rfl⟩ := ih (fun other member => firstDigits other (List.mem_cons_of_mem _ member))
            (fun other member => secondDigits other (List.mem_cons_of_mem _ member)) rests
          exact ⟨rfl, rfl⟩

theorem repr_digits (value : Nat) : ∀ char ∈ value.repr.toList, char.isDigit := by
  intro char member
  rw [Nat.toList_repr] at member
  exact Nat.isDigit_of_mem_toDigits (by decide) (by decide) member

theorem repr_ne_nil (value : Nat) : value.repr.toList ≠ [] := by
  rw [Nat.toList_repr]
  exact Nat.toDigits_ne_nil

theorem toList_toString_int (value : Int) : (toString value).toList =
    match value with
    | .ofNat value => value.repr.toList
    | .negSucc value => '-' :: (value + 1).repr.toList := by
  cases value with
  | ofNat value => rfl
  | negSucc value =>
      have sign : "-".toList = ['-'] := rfl
      have shown : toString (Int.negSucc value) = "-" ++ (value + 1).repr := rfl
      rw [shown, String.toList_append, sign]
      rfl

theorem int_cut {first second : Int} {rest other : List Char} (stops : Stops rest)
    (stops' : Stops other)
    (same : (toString first).toList ++ rest = (toString second).toList ++ other) :
    first = second ∧ rest = other := by
  have sign (value : Nat) (more after : List Char) : value.repr.toList ++ more ≠ '-' :: after := by
    intro same
    obtain ⟨digit, digits, parts⟩ := List.exists_cons_of_ne_nil (repr_ne_nil value)
    have isDigit := repr_digits value digit (by rw [parts]; exact List.mem_cons_self)
    rw [parts] at same
    rw [(List.cons.inj same).1] at isDigit
    cases isDigit
  rw [toList_toString_int, toList_toString_int] at same
  cases first with
  | ofNat first =>
      cases second with
      | ofNat second =>
          obtain ⟨shown, rests⟩ := digits_cut (repr_digits first) (repr_digits second) stops stops' same
          exact ⟨congrArg Int.ofNat (Nat.repr_injective (String.toList_inj.mp shown)), rests⟩
      | negSucc second => exact absurd same (sign first _ _)
  | negSucc first =>
      cases second with
      | ofNat second => exact absurd same.symm (sign second _ _)
      | negSucc second =>
          obtain ⟨shown, rests⟩ := digits_cut (repr_digits (first + 1)) (repr_digits (second + 1))
            stops stops' (List.cons.inj same).2
          have successors := Nat.repr_injective (String.toList_inj.mp shown)
          exact ⟨congrArg Int.negSucc (Nat.succ.inj successors), rests⟩

/-- The constructor of a value, as its first character shows it. -/
inductive Kind where
  | null
  | bool
  | int
  | str
  | arr
  | obj
  | mark
deriving DecidableEq

def kind : Json → Kind
  | null => .null
  | bool _ => .bool
  | int _ => .int
  | str _ => .str
  | arr _ => .arr
  | obj _ => .obj

def leadKind (char : Char) : Kind :=
  if char = 'n' then .null
  else if char = 't' ∨ char = 'f' then .bool
  else if char = '-' ∨ char.isDigit then .int
  else if char = '"' then .str
  else if char = '[' then .arr
  else if char = '\x7b' then .obj
  else .mark

/-- Fields in the order of their keys. -/
def sortFields (fields : List (String × Json)) : List (String × Json) :=
  fields.insertionSort (fun left right => left.1 ≤ right.1)

mutual
/-- The value with its fields in order, throughout. -/
def sorted : Json → Json
  | .arr items => .arr (sortedItems items)
  | .obj fields => .obj (sortFields (sortedFields fields))
  | scalar => scalar

def sortedItems : List Json → List Json
  | [] => []
  | item :: rest => sorted item :: sortedItems rest

def sortedFields : List (String × Json) → List (String × Json)
  | [] => []
  | (key, value) :: rest => (key, sorted value) :: sortedFields rest
end

theorem sortedItems_eq_map (items : List Json) : sortedItems items = items.map sorted := by
  induction items with
  | nil => rfl
  | cons item rest ih => rw [sortedItems, ih, List.map_cons]

theorem sortedFields_eq_map (fields : List (String × Json)) :
    sortedFields fields = fields.map (fun field => (field.1, sorted field.2)) := by
  induction fields with
  | nil => rfl
  | cons field rest ih => rw [sortedFields, ih, List.map_cons]

theorem dumpsItems_eq_map (items : List Json) : dumpsItems items = items.map dumps := by
  induction items with
  | nil => rfl
  | cons item rest ih => rw [dumpsItems, ih, List.map_cons]

theorem dumpsFields_eq_map (fields : List (String × Json)) :
    dumpsFields fields = fields.map (fun field => (field.1, dumps field.2)) := by
  induction fields with
  | nil => rfl
  | cons field rest ih => rw [dumpsFields, ih, List.map_cons]

theorem mem_sortFields {fields : List (String × Json)} {field : String × Json} :
    field ∈ sortFields fields ↔ field ∈ fields :=
  List.mem_insertionSort _

theorem sorted_obj (fields : List (String × Json)) : sorted (.obj fields) =
    .obj ((sortFields fields).map (fun field => (field.1, sorted field.2))) := by
  rw [sorted, sortedFields_eq_map, sortFields, sortFields]
  congr 1
  symm
  apply List.map_insertionSort
  intro left _ right _
  exact Iff.rfl

theorem sortKeys_dumpsFields (fields : List (String × Json)) : sortKeys (dumpsFields fields) =
    (sortFields fields).map (fun field => (field.1, dumps field.2)) := by
  rw [sortKeys, dumpsFields_eq_map, sortFields]
  symm
  apply List.map_insertionSort
  intro left _ right _
  exact Iff.rfl

/-- The text of a field. -/
def fieldText (code : Char → List Char) (field : String × Json) : List Char :=
  quoted code field.1 ++ ':' :: text code field.2

/-! ### Series -/

/-- Parts that can be told apart, whatever follows them, with what they say. -/
def Told {α γ : Type} (part : α → List Char) (value : α → γ) (item : α) : Prop :=
  ∀ other rest after, Stops rest → Stops after →
    part item ++ rest = part other ++ after → value item = value other ∧ rest = after

section

variable {α γ : Type} {part : α → List Char} {value : α → γ} {close : Char}
  {first second : List α} {rest after : List Char}

/-- The parts after the first, a comma before each of them. -/
theorem tail_cut (stops : ∀ chars, Stops (close :: chars)) (apart : close ≠ ',')
    (told : ∀ item ∈ first, Told part value item)
    (same : (first.map part).flatMap (',' :: ·) ++ close :: rest =
      (second.map part).flatMap (',' :: ·) ++ close :: after) :
    first.map value = second.map value ∧ rest = after := by
  have next (items : List α) (chars : List Char) :
      Stops ((items.map part).flatMap (',' :: ·) ++ close :: chars) := by
    cases items with
    | nil => exact stops chars
    | cons item items =>
        rintro char ⟨⟩
        decide
  induction first generalizing second with
  | nil =>
      cases second with
      | nil => exact ⟨rfl, (List.cons.inj same).2⟩
      | cons other others => exact absurd (List.cons.inj same).1 apart
  | cons item items ih =>
      cases second with
      | nil => exact absurd (List.cons.inj same).1.symm apart
      | cons other others =>
          simp only [List.map_cons, List.flatMap_cons, List.cons_append, List.append_assoc] at same
          obtain ⟨values, tails⟩ := told item List.mem_cons_self other _ _ (next items rest)
            (next others after) (List.cons.inj same).2
          obtain ⟨more, rests⟩ :=
            ih (fun inside member => told inside (List.mem_cons_of_mem _ member)) tails
          exact ⟨by rw [List.map_cons, List.map_cons, values, more], rests⟩

/-- A series ends where its bracket closes. -/
theorem series_cut (stops : ∀ chars, Stops (close :: chars)) (apart : close ≠ ',')
    (opens : ∀ item chars more, part item ++ chars ≠ close :: more)
    (told : ∀ item ∈ first, Told part value item)
    (same : series (first.map part) ++ close :: rest =
      series (second.map part) ++ close :: after) :
    first.map value = second.map value ∧ rest = after := by
  cases first with
  | nil =>
      cases second with
      | nil => exact ⟨rfl, (List.cons.inj same).2⟩
      | cons other others =>
          rw [List.map_cons, series, List.append_assoc] at same
          exact absurd same.symm (opens other _ _)
  | cons item items =>
      cases second with
      | nil =>
          rw [List.map_cons, series, List.append_assoc] at same
          exact absurd same (opens item _ _)
      | cons other others =>
          have commas : ',' :: (series ((item :: items).map part) ++ close :: rest) =
              ',' :: (series ((other :: others).map part) ++ close :: after) := by
            rw [same]
          apply tail_cut stops apart told
          simpa [series] using commas

end

namespace Coding

variable (coding : Coding code)

include coding

theorem text_null : text code .null = ['n', 'u', 'l', 'l'] :=
  coding.flatMap_printable (show ∀ char ∈ ['n', 'u', 'l', 'l'], _ from by decide)

theorem text_bool (value : Bool) : text code (.bool value) =
    if value then ['t', 'r', 'u', 'e'] else ['f', 'a', 'l', 's', 'e'] := by
  cases value with
  | false => exact coding.flatMap_printable (show ∀ char ∈ ['f', 'a', 'l', 's', 'e'], _ from by decide)
  | true => exact coding.flatMap_printable (show ∀ char ∈ ['t', 'r', 'u', 'e'], _ from by decide)

theorem text_int (value : Int) : text code (.int value) = (toString value).toList := by
  have digit {char : Char} (isDigit : char.isDigit) : 32 ≤ char.toNat ∧ char.toNat < 127 := by
    have bounds : 48 ≤ char.toNat ∧ char.toNat ≤ 57 := by
      simpa [Char.isDigit, UInt32.le_iff_toNat_le] using isDigit
    omega
  apply coding.flatMap_printable
  intro char member
  change char ∈ (toString value).toList at member
  rw [toList_toString_int] at member
  cases value with
  | ofNat value => exact digit (repr_digits value char member)
  | negSucc value =>
      rcases List.mem_cons.mp member with rfl | member
      · decide
      · exact digit (repr_digits _ char member)

theorem text_str (value : String) : text code (.str value) = quoted code value := coding.quote value

theorem text_series (lead close : String) (parts : List String)
    (printable : ∀ char ∈ lead.toList ++ close.toList, 32 ≤ char.toNat ∧ char.toNat < 127) :
    (lead ++ ",".intercalate parts ++ close).toList.flatMap code =
      lead.toList ++ series (parts.map (fun part => part.toList.flatMap code)) ++ close.toList := by
  have comma : ",".toList = [','] := rfl
  have mark : code ',' = [','] := coding.plain ',' (by decide) (by decide)
  have joined : ([','].intercalate (parts.map String.toList)).flatMap code =
      series (parts.map (fun part => part.toList.flatMap code)) := by
    rw [series_eq_intercalate]
    cases parts with
    | nil => rfl
    | cons part rest =>
        simp only [series, List.map_cons, List.flatMap_append, List.flatMap_map, List.flatMap_assoc,
          List.flatMap_cons, mark]
        rfl
  rw [String.toList_append, String.toList_append, String.toList_intercalate, comma,
    List.flatMap_append, List.flatMap_append, joined,
    coding.flatMap_printable (fun char member => printable char (List.mem_append_left _ member)),
    coding.flatMap_printable (fun char member => printable char (List.mem_append_right _ member))]

theorem text_arr (items : List Json) :
    text code (.arr items) = '[' :: (series (items.map (text code)) ++ [']']) := by
  have pieces := coding.text_series "[" "]" (dumpsItems items) (by decide)
  rw [dumpsItems_eq_map, List.map_map] at pieces
  rw [text, dumps, dumpsItems_eq_map]
  exact pieces

theorem text_obj (fields : List (String × Json)) : text code (.obj fields) =
    '\x7b' :: (series ((sortFields fields).map (fieldText code)) ++ ['\x7d']) := by
  have mark : code ':' = [':'] := coding.plain ':' (by decide) (by decide)
  have colon : ":".toList = [':'] := rfl
  have each (field : String × Json) :
      (Json.quote field.1 ++ ":" ++ dumps field.2).toList.flatMap code = fieldText code field := by
    rw [String.toList_append, String.toList_append, List.flatMap_append, List.flatMap_append,
      coding.quote, colon, List.flatMap_singleton, mark, List.append_assoc]
    rfl
  have pieces := coding.text_series "\x7b" "\x7d" ((sortKeys (dumpsFields fields)).map
    (fun field => Json.quote field.1 ++ ":" ++ field.2)) (by decide)
  have opening : "\x7b".toList = ['\x7b'] := rfl
  have closing : "\x7d".toList = ['\x7d'] := rfl
  rw [sortKeys_dumpsFields, List.map_map, List.map_map, opening, closing] at pieces
  rw [text, dumps, sortKeys_dumpsFields, List.map_map]
  refine pieces.trans ?_
  simp only [Function.comp_def, each, List.singleton_append]
  rfl

/-- The first character shows the constructor. -/
theorem text_lead (value : Json) :
    ∃ lead rest, text code value = lead :: rest ∧ leadKind lead = kind value := by
  cases value with
  | null => exact ⟨_, _, coding.text_null, rfl⟩
  | bool value =>
      rw [coding.text_bool]
      cases value with
      | false => exact ⟨_, _, rfl, rfl⟩
      | true => exact ⟨_, _, rfl, rfl⟩
  | int value =>
      rw [coding.text_int, toList_toString_int]
      cases value with
      | ofNat value =>
          obtain ⟨digit, digits, parts⟩ := List.exists_cons_of_ne_nil (repr_ne_nil value)
          have isDigit := repr_digits value digit (by rw [parts]; exact List.mem_cons_self)
          refine ⟨digit, digits, parts, ?_⟩
          have letter {char : Char} (other : char.isDigit = false) : digit ≠ char := by
            rintro rfl
            rw [isDigit] at other
            cases other
          rw [leadKind, if_neg (letter (by decide)), if_neg, if_pos (.inr isDigit)]
          · rfl
          · exact fun either => either.elim (letter (by decide)) (letter (by decide))
      | negSucc value => exact ⟨_, _, rfl, rfl⟩
  | str value => exact ⟨_, _, coding.text_str value, rfl⟩
  | arr items => exact ⟨_, _, coding.text_arr items, rfl⟩
  | obj fields => exact ⟨_, _, coding.text_obj fields, rfl⟩

theorem kind_of_text {first second : Json} {rest other : List Char}
    (same : text code first ++ rest = text code second ++ other) : kind first = kind second := by
  obtain ⟨lead, tail, firstText, firstKind⟩ := coding.text_lead first
  obtain ⟨lead', tail', secondText, secondKind⟩ := coding.text_lead second
  rw [firstText, secondText] at same
  rw [← firstKind, ← secondKind, (List.cons.inj same).1]

theorem text_ne_close {close : Char} (mark : leadKind close = .mark) (value : Json)
    (chars more : List Char) : text code value ++ chars ≠ close :: more := by
  intro same
  obtain ⟨lead, tail, shown, isKind⟩ := coding.text_lead value
  rw [shown] at same
  rw [(List.cons.inj same).1, mark] at isKind
  cases value <;> cases isKind

theorem told_field {field : String × Json} (told : Told (text code) sorted field.2) :
    Told (fieldText code) (fun field => (field.1, sorted field.2)) field := by
  intro other rest after stops stops' same
  rw [fieldText, fieldText, List.append_assoc, List.append_assoc] at same
  obtain ⟨keys, values⟩ := coding.quoted_cut same
  obtain ⟨equal, rests⟩ := told other.2 rest after stops stops' (List.cons.inj values).2
  exact ⟨Prod.ext keys equal, rests⟩

theorem told_arr {items : List Json} (told : ∀ item ∈ items, Told (text code) sorted item) :
    Told (text code) sorted (.arr items) := by
  intro other rest after _ _ same
  cases other with
  | arr others =>
      rw [coding.text_arr, coding.text_arr] at same
      simp only [List.cons_append, List.append_assoc, List.nil_append] at same
      obtain ⟨values, rests⟩ := series_cut (by rintro _ _ ⟨⟩; decide) (by decide)
        (coding.text_ne_close rfl) told (List.cons.inj same).2
      exact ⟨by rw [sorted, sorted, sortedItems_eq_map, sortedItems_eq_map, values], rests⟩
  | _ => cases coding.kind_of_text same

theorem told_obj {fields : List (String × Json)}
    (told : ∀ field ∈ fields, Told (text code) sorted field.2) :
    Told (text code) sorted (.obj fields) := by
  intro other rest after _ _ same
  cases other with
  | obj others =>
      rw [coding.text_obj, coding.text_obj] at same
      simp only [List.cons_append, List.append_assoc, List.nil_append] at same
      have parts : ∀ field ∈ sortFields fields, Told (fieldText code)
          (fun field => (field.1, sorted field.2)) field :=
        fun field member => coding.told_field (told field (mem_sortFields.mp member))
      obtain ⟨values, rests⟩ := series_cut (by rintro _ _ ⟨⟩; decide) (by decide)
        (by intro _ _ _ same; cases same) parts (List.cons.inj same).2
      exact ⟨by rw [sorted_obj, sorted_obj, values], rests⟩
  | _ => cases coding.kind_of_text same

theorem told_scalar {value : Json}
    (scalar : kind value ≠ .arr ∧ kind value ≠ .obj) : Told (text code) sorted value := by
  intro other rest after stops stops' same
  have kinds := coding.kind_of_text same
  cases value with
  | null =>
      cases other with
      | null => exact ⟨rfl, List.append_cancel_left same⟩
      | _ => cases kinds
  | bool value =>
      cases other with
      | bool other =>
          rw [coding.text_bool, coding.text_bool] at same
          cases value <;> cases other <;> cases same <;> exact ⟨rfl, rfl⟩
      | _ => cases kinds
  | int value =>
      cases other with
      | int other =>
          rw [coding.text_int, coding.text_int] at same
          obtain ⟨rfl, rfl⟩ := int_cut stops stops' same
          exact ⟨rfl, rfl⟩
      | _ => cases kinds
  | str value =>
      cases other with
      | str other =>
          rw [coding.text_str, coding.text_str] at same
          obtain ⟨rfl, rfl⟩ := coding.quoted_cut same
          exact ⟨rfl, rfl⟩
      | _ => cases kinds
  | arr items => exact absurd rfl scalar.1
  | obj fields => exact absurd rfl scalar.2

end Coding

mutual
theorem told (coding : Coding code) : ∀ value : Json, Told (text code) sorted value
  | .null => coding.told_scalar (by decide)
  | .bool _ => coding.told_scalar ⟨nofun, nofun⟩
  | .int _ => coding.told_scalar ⟨nofun, nofun⟩
  | .str _ => coding.told_scalar ⟨nofun, nofun⟩
  | .arr items => coding.told_arr (toldItems coding items)
  | .obj fields => coding.told_obj (toldFields coding fields)

theorem toldItems (coding : Coding code) :
    ∀ items : List Json, ∀ item ∈ items, Told (text code) sorted item
  | [], _, member => absurd member List.not_mem_nil
  | first :: rest, item, member =>
      (List.mem_cons.mp member).elim (fun same => same ▸ told coding first)
        (toldItems coding rest item)

theorem toldFields (coding : Coding code) : ∀ fields : List (String × Json),
    ∀ field ∈ fields, Told (text code) sorted field.2
  | [], _, member => absurd member List.not_mem_nil
  | (_, value) :: rest, field, member =>
      (List.mem_cons.mp member).elim (fun same => same ▸ told coding value)
        (toldFields coding rest field)
end

/-- One text, one value up to the order of the fields. -/
theorem Coding.text_inj (coding : Coding code) {first second : Json}
    (same : text code first = text code second) : sorted first = sorted second :=
  (told coding first second [] [] nofun nofun (by rw [same])).1

theorem encode_inj {first second : Json} (same : first.encode = second.encode) :
    sorted first = sorted second := by
  apply coding_utf8.text_inj
  rw [text, text, utf8_inj same]

theorem encodeAscii_inj {first second : Json} (same : first.encodeAscii = second.encodeAscii) :
    sorted first = sorted second := by
  apply coding_ascii.text_inj
  have texts := congrArg String.toList (utf8_inj same)
  rw [dumpsAscii, dumpsAscii, String.toList_ofList, String.toList_ofList] at texts
  exact texts

/-! ### Records -/

/-- Permuted pairs with the same distinct keys in the same places are the same pairs. -/
theorem eq_of_perm_keys {α : Type} {first second : List (String × α)}
    (permuted : first.Perm second) (keys : first.map Prod.fst = second.map Prod.fst)
    (distinct : (first.map Prod.fst).Nodup) : first = second := by
  induction first generalizing second with
  | nil => exact permuted.nil_eq
  | cons pair pairs ih =>
      cases second with
      | nil => cases keys
      | cons other others =>
          obtain ⟨_, rest⟩ := List.cons.inj keys
          have member : pair ∈ other :: others := permuted.subset List.mem_cons_self
          have fresh : pair ∉ others := by
            intro inside
            apply (List.nodup_cons.mp distinct).1
            rw [rest]
            exact List.mem_map_of_mem inside
          obtain rfl : pair = other := (List.mem_cons.mp member).resolve_right fresh
          rw [ih permuted.cons_inv rest (List.nodup_cons.mp distinct).2]

/-- Objects with the same distinct keys agree field by field. -/
theorem sorted_obj_inj {fields others : List (String × Json)} (keys : List String)
    (fieldKeys : fields.map Prod.fst = keys) (otherKeys : others.map Prod.fst = keys)
    (distinct : keys.Nodup) (same : sorted (.obj fields) = sorted (.obj others)) :
    fields.map (fun field => sorted field.2) = others.map (fun field => sorted field.2) := by
  rw [sorted, sorted, sortedFields_eq_map, sortedFields_eq_map] at same
  have permuted : (fields.map (fun field => (field.1, sorted field.2))).Perm
      (others.map (fun field => (field.1, sorted field.2))) := by
    have sorts := List.perm_insertionSort (fun left right : String × Json => left.1 ≤ right.1)
    refine (sorts _).symm.trans ?_
    rw [show List.insertionSort _ _ = List.insertionSort _ _ from Json.obj.inj same]
    exact sorts _
  have names (list : List (String × Json)) :
      (list.map (fun field => (field.1, sorted field.2))).map Prod.fst = list.map Prod.fst := by
    rw [List.map_map]
    rfl
  have equal : fields.map (fun field => (field.1, sorted field.2)) =
      others.map (fun field => (field.1, sorted field.2)) := by
    apply eq_of_perm_keys permuted
    · rw [names, names, fieldKeys, otherKeys]
    · rw [names, fieldKeys]
      exact distinct
  have values := congrArg (List.map Prod.snd) equal
  rw [List.map_map, List.map_map] at values
  exact values

/-- A type whose canonical text determines its values. -/
class Legible (α : Type) [Jsonable α] : Prop where
  read : ∀ first second : α, sorted (toJson first) = sorted (toJson second) → first = second

export Legible (read)

theorem sorted_eq {α : Type} [Jsonable α] [Legible α] {first second : α} :
    sorted (toJson first) = sorted (toJson second) ↔ first = second :=
  ⟨Legible.read first second, fun same => same ▸ rfl⟩

instance : Legible String := ⟨fun _ _ same => Json.str.inj same⟩
instance : Legible Bool := ⟨fun _ _ same => Json.bool.inj same⟩
instance : Legible Int := ⟨fun _ _ same => Json.int.inj same⟩
instance : Legible Nat := ⟨fun _ _ same => Int.ofNat_inj.mp (Json.int.inj same)⟩
instance : Legible Identity := ⟨fun _ _ same => Identity.ext_iff_text.mpr (Json.str.inj same)⟩
instance : Legible Digest := ⟨fun _ _ same => Digest.ext_text (Json.str.inj same)⟩
instance : Legible UInt64 :=
  ⟨fun _ _ same => UInt64.toNat_inj.mp (Int.ofNat_inj.mp (Json.int.inj same))⟩
instance : Legible ℕ+ := ⟨fun _ _ same => PNat.eq (Int.ofNat_inj.mp (Json.int.inj same))⟩

instance {α : Type} [Jsonable α] [Legible α] : Legible (List α) where
  read := by
    intro first second same
    have items := Json.arr.inj same
    rw [sortedItems_eq_map, sortedItems_eq_map, List.map_map, List.map_map] at items
    exact List.map_injective_iff.mpr (fun left right equal => Legible.read left right equal) items

instance {α β : Type} [Jsonable α] [Jsonable β] [Legible α] [Legible β] : Legible (α × β) where
  read := by
    intro first second same
    obtain ⟨left, rest⟩ := List.cons.inj (Json.arr.inj same)
    exact Prod.ext (Legible.read _ _ left) (Legible.read _ _ (List.cons.inj rest).1)

theorem encodeAscii_read {α : Type} [Jsonable α] [Legible α] {first second : α}
    (same : (toJson first).encodeAscii = (toJson second).encodeAscii) : first = second :=
  Legible.read first second (encodeAscii_inj same)

/-- Two different texts with one digest. -/
def CollisionAmong [Hashlib] (texts : List Bytes) : Prop :=
  ∃ first ∈ texts, ∃ second ∈ texts, first ≠ second ∧ sha256 first = sha256 second

theorem CollisionAmong.mono [Hashlib] {texts more : List Bytes} (collision : CollisionAmong texts)
    (subset : texts ⊆ more) : CollisionAmong more := by
  obtain ⟨first, member, second, other, differs, same⟩ := collision
  exact ⟨first, subset member, second, subset other, differs, same⟩

/-- A digest gives the value away, unless two texts collide. -/
theorem digest_read [Hashlib] {α : Type} [Jsonable α] [Legible α] {first second : α}
    (same : (sha256 (toJson first).encodeAscii).text = (sha256 (toJson second).encodeAscii).text) :
    first = second ∨
      CollisionAmong [(toJson first).encodeAscii, (toJson second).encodeAscii] := by
  by_cases equal : (toJson first).encodeAscii = (toJson second).encodeAscii
  · exact .inl (encodeAscii_read equal)
  · exact .inr ⟨_, by simp, _, by simp, equal, Digest.ext_text same⟩

end Chiplog.Data.Json
