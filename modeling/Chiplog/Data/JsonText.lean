import Chiplog.Data.Model

namespace Chiplog.Data

/-! Canonical text in pieces.

A hash or a size may be computed one array element at a time; these lemmas say that the
pieces make up the canonical text of the whole value. -/

theorem utf8_append (left right : String) : utf8 (left ++ right) = utf8 left ++ utf8 right := by
  simp [utf8, String.toUTF8_eq_toByteArray, String.toByteArray_append]

theorem utf8_length (text : String) : (utf8 text).length = text.utf8ByteSize := by
  simp [utf8]

theorem utf8_inj {left right : String} (same : utf8 left = utf8 right) : left = right := by
  apply String.toByteArray_inj.mp
  rw [← String.toUTF8_eq_toByteArray, ← String.toUTF8_eq_toByteArray]
  exact ByteArray.ext (Array.ext' same)

namespace Json

theorem dumpsItems_append (front rest : List Json) :
    dumpsItems (front ++ rest) = dumpsItems front ++ dumpsItems rest := by
  induction front with
  | nil => rfl
  | cons item items ih => rw [List.cons_append, dumpsItems, dumpsItems, ih, List.cons_append]

theorem dumpsItems_eq_nil {items : List Json} : dumpsItems items = [] ↔ items = [] := by
  cases items <;> simp [dumpsItems]

/-- The elements of an array between its brackets. -/
def inner (items : List Json) : Bytes := utf8 (",".intercalate (dumpsItems items))

theorem encode_arr (items : List Json) :
    (Json.arr items).encode = utf8 "[" ++ inner items ++ utf8 "]" := by
  simp only [encode, dumps, inner, utf8_append]

@[simp] theorem inner_nil : inner [] = [] := rfl

theorem inner_singleton (item : Json) : inner [item] = item.encode := by
  simp [inner, dumpsItems, encode]

/-- One more element adds a comma, unless it is the first. -/
theorem inner_snoc {items : List Json} (nonempty : items ≠ []) (item : Json) :
    inner (items ++ [item]) = inner items ++ utf8 "," ++ item.encode := by
  rw [inner, dumpsItems_append, String.intercalate_append_of_ne_nil, utf8_append, utf8_append]
  · rw [inner, encode]
    simp [dumpsItems]
  · simpa [dumpsItems_eq_nil] using nonempty
  · simp [dumpsItems]

mutual
/-- No object inside uses the discriminant key. -/
def untagged : Json → Bool
  | .arr items => untaggedItems items
  | .obj fields => untaggedFields fields
  | _ => true

def untaggedItems : List Json → Bool
  | [] => true
  | item :: rest => untagged item && untaggedItems rest

def untaggedFields : List (String × Json) → Bool
  | [] => true
  | (key, value) :: rest => key ≠ "kind" && untagged value && untaggedFields rest
end

theorem untaggedItems_forall {items : List Json} (all : ∀ item ∈ items, item.untagged = true) :
    untaggedItems items = true := by
  induction items with
  | nil => rfl
  | cons item rest ih =>
      simp only [untaggedItems, Bool.and_eq_true]
      exact ⟨all item List.mem_cons_self,
        ih (fun other member => all other (List.mem_cons_of_mem _ member))⟩

theorem inOrderFields_eq_map (fields : List (String × Json)) :
    inOrderFields fields =
      fields.map (fun field => quote field.1 ++ ":" ++ dumpsInOrder field.2) := by
  induction fields with
  | nil => rfl
  | cons field rest ih => rw [inOrderFields, ih, List.map_cons]

theorem untaggedFields_key {fields : List (String × Json)}
    (plain : untaggedFields fields = true) : ∀ field ∈ orderedFields fields, field.1 ≠ "kind" := by
  induction fields with
  | nil => simp [orderedFields]
  | cons field rest ih =>
      simp only [untaggedFields, Bool.and_eq_true, decide_eq_true_eq] at plain
      intro other member
      rcases List.mem_cons.mp member with rfl | later
      · exact plain.1.1
      · exact ih plain.2 other later

mutual
theorem dumpsInOrder_ordered : ∀ value : Json, value.untagged = true →
    value.ordered.dumpsInOrder = value.dumps
  | .null, _ => rfl
  | .bool _, _ => rfl
  | .int _, _ => rfl
  | .str _, _ => rfl
  | .arr items, plain => by
      rw [ordered, dumpsInOrder, dumps, inOrderItems_ordered items plain]
  | .obj fields, plain => by
      have rendered := inOrderFields_ordered fields plain
      have keys := untaggedFields_key plain
      have sorted : ((orderedFields fields).insertionSort KindFirst).map
          (fun field => (field.1, dumpsInOrder field.2)) = sortKeys (dumpsFields fields) := by
        rw [sortKeys, ← rendered]
        apply List.map_insertionSort
        intro left leftMember right rightMember
        simp [KindFirst, keys left leftMember, keys right rightMember]
      rw [ordered, dumpsInOrder, dumps, inOrderFields_eq_map, ← sorted, List.map_map]
      rfl

theorem inOrderItems_ordered : ∀ items : List Json, untaggedItems items = true →
    inOrderItems (orderedItems items) = dumpsItems items
  | [], _ => rfl
  | item :: rest, plain => by
      simp only [untaggedItems, Bool.and_eq_true] at plain
      rw [orderedItems, inOrderItems, dumpsItems, dumpsInOrder_ordered item plain.1,
        inOrderItems_ordered rest plain.2]

theorem inOrderFields_ordered : ∀ fields : List (String × Json), untaggedFields fields = true →
    (orderedFields fields).map (fun field => (field.1, dumpsInOrder field.2)) = dumpsFields fields
  | [], _ => rfl
  | (key, value) :: rest, plain => by
      simp only [untaggedFields, Bool.and_eq_true] at plain
      rw [orderedFields, List.map_cons, dumpsFields, dumpsInOrder_ordered value plain.1.2,
        inOrderFields_ordered rest plain.2]
end

/-- Text over the hexadecimal alphabet is quoted as it is, one byte a character. -/
theorem encode_hex_length {text : String} (hexadecimal : ∀ char ∈ text.toList, char ∈ hexAlphabet) :
    (Json.str text).encode.length = text.length + 2 := by
  have plain : ∀ char ∈ hexAlphabet, escape char = [char] ∧ char.utf8Size = 1 := by decide
  have escaped : ∀ chars : List Char, (∀ char ∈ chars, char ∈ hexAlphabet) →
      chars.flatMap escape = chars ∧ (String.ofList chars).utf8ByteSize = chars.length := by
    intro chars
    induction chars with
    | nil => simp
    | cons char rest ih =>
        intro all
        obtain ⟨same, size⟩ := ih (fun other member => all other (List.mem_cons_of_mem _ member))
        obtain ⟨single, one⟩ := plain char (all char List.mem_cons_self)
        refine ⟨by rw [List.flatMap_cons, single, same]; rfl, ?_⟩
        have split : String.ofList (char :: rest) = String.ofList [char] ++ String.ofList rest := by
          rw [← String.ofList_append]
          rfl
        rw [split, String.utf8ByteSize_append, size, List.length_cons,
          ← String.singleton_eq_ofList, String.utf8ByteSize_singleton, one, Nat.add_comm]
  obtain ⟨same, size⟩ := escaped text.toList hexadecimal
  rw [encode, dumps, quote, same, utf8_length, String.utf8ByteSize_append,
    String.utf8ByteSize_append, size]
  have quotation : "\"".utf8ByteSize = 1 := by decide
  rw [quotation, String.length_toList]
  omega

theorem escape_length (char : Char) : (escape char).length ≤ 6 := by
  unfold escape
  split <;> try simp
  split <;> simp [hexByte]

/-- Escaping makes a text at most six times as long. -/
theorem quote_length (text : String) : (quote text).length ≤ 6 * text.length + 2 := by
  have escaped : ∀ chars : List Char, (chars.flatMap escape).length ≤ 6 * chars.length := by
    intro chars
    induction chars with
    | nil => simp
    | cons char rest ih =>
        have first := escape_length char
        rw [List.flatMap_cons, List.length_append, List.length_cons]
        omega
  have bound := escaped text.toList
  rw [String.length_toList] at bound
  have quotation : "\"".length = 1 := by decide
  simp only [quote, String.length_append, String.length_ofList, quotation]
  omega

theorem asciiChar_length (char : Char) : (asciiChar char).length ≤ 12 := by
  unfold asciiChar
  split
  · simp
  · split <;> simp [hexByte]

/-- A crude bound on the size of the ASCII text of a value. -/
theorem dumpsAscii_size (value : Json) :
    (utf8 value.dumpsAscii).length ≤ 48 * value.dumps.length := by
  have wide : ∀ chars : List Char, (String.ofList chars).utf8ByteSize ≤ 4 * chars.length := by
    intro chars
    induction chars with
    | nil => simp
    | cons char rest ih =>
        have split : String.ofList (char :: rest) = String.singleton char ++ String.ofList rest := by
          rw [String.singleton_eq_ofList, ← String.ofList_append]
          rfl
        have small := Char.utf8Size_le_four char
        rw [split, String.utf8ByteSize_append, String.utf8ByteSize_singleton, List.length_cons]
        omega
  have escaped : ∀ chars : List Char, (chars.flatMap asciiChar).length ≤ 12 * chars.length := by
    intro chars
    induction chars with
    | nil => simp
    | cons char rest ih =>
        have first := asciiChar_length char
        rw [List.flatMap_cons, List.length_append, List.length_cons]
        omega
  have size := wide (value.dumps.toList.flatMap asciiChar)
  have length := escaped value.dumps.toList
  rw [String.length_toList] at length
  rw [utf8_length, dumpsAscii]
  omega

end Json

end Chiplog.Data
