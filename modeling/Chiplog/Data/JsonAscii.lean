import Chiplog.Data.JsonDecoding

namespace Chiplog.Data

/-! Canonical ASCII text.

The text of a value does not depend on the order of its fields, has neither control characters
nor line breaks, and is as long as its parts are. -/

namespace Json

/-! ### Order of the fields -/

theorem sortFields_sorted (fields : List (String × Json)) :
    (sortFields fields).Pairwise (fun left right => left.1 ≤ right.1) :=
  List.pairwise_insertionSort _ fields

theorem sortFields_map (fields : List (String × Json)) (change : Json → Json) :
    sortFields ((sortFields fields).map (fun field => (field.1, change field.2))) =
      (sortFields fields).map (fun field => (field.1, change field.2)) := by
  have kept : ((sortFields fields).map (fun field => (field.1, change field.2))).Pairwise
      (fun left right => left.1 ≤ right.1) :=
    List.pairwise_map.mpr (sortFields_sorted fields)
  exact kept.insertionSort_eq

mutual
theorem dumps_sorted : ∀ value : Json, (sorted value).dumps = value.dumps
  | .null | .bool _ | .int _ | .str _ => rfl
  | .arr items => by
      rw [sorted, sortedItems_eq_map, dumps, dumps, dumpsItems_eq_map, dumpsItems_eq_map,
        List.map_map]
      congr 3
      exact List.map_congr_left (dumps_sortedItems items)
  | .obj fields => by
      have each : ((sortFields fields).map (fun field => (field.1, sorted field.2))).map
          (fun field => (field.1, field.2.dumps)) =
            (sortFields fields).map (fun field => (field.1, field.2.dumps)) := by
        rw [List.map_map]
        apply List.map_congr_left
        intro field member
        exact congrArg (Prod.mk field.1)
          (dumps_sortedFields fields field (mem_sortFields.mp member))
      rw [sorted_obj, dumps, dumps, sortKeys_dumpsFields, sortKeys_dumpsFields, sortFields_map,
        each]

theorem dumps_sortedItems : ∀ items : List Json, ∀ item ∈ items,
    (sorted item).dumps = item.dumps
  | [], _, member => absurd member List.not_mem_nil
  | first :: rest, item, member =>
      (List.mem_cons.mp member).elim (fun same => same ▸ dumps_sorted first)
        (dumps_sortedItems rest item)

theorem dumps_sortedFields : ∀ fields : List (String × Json), ∀ field ∈ fields,
    (sorted field.2).dumps = field.2.dumps
  | [], _, member => absurd member List.not_mem_nil
  | (_, value) :: rest, field, member =>
      (List.mem_cons.mp member).elim (fun same => same ▸ dumps_sorted value)
        (dumps_sortedFields rest field)
end

theorem encodeAscii_sorted (value : Json) : (sorted value).encodeAscii = value.encodeAscii := by
  rw [encodeAscii, encodeAscii, dumpsAscii, dumpsAscii, dumps_sorted]

/-- Values that are the same up to the order of their fields. -/
theorem encodeAscii_eq_iff {first second : Json} :
    first.encodeAscii = second.encodeAscii ↔ sorted first = sorted second := by
  refine ⟨encodeAscii_inj, fun same => ?_⟩
  rw [← encodeAscii_sorted first, same, encodeAscii_sorted]

/-! ### Characters -/

theorem hexByte_printable (byte : UInt8) :
    ∀ char ∈ hexByte byte, 32 ≤ char.toNat ∧ char.toNat < 127 := by
  have digit (value : Nat) : 32 ≤ (hexDigit value).toNat ∧ (hexDigit value).toNat < 127 := by
    have low := Nat.mod_lt value (Nat.succ_pos 15)
    rw [hexDigit]
    generalize value % 16 = place at low
    interval_cases place <;> decide
  intro char member
  simp only [hexByte, List.mem_cons, List.not_mem_nil, or_false] at member
  rcases member with rfl | rfl
  · exact digit _
  · exact digit _

theorem asciiChar_ascii (char : Char) :
    ∀ other ∈ asciiChar char, 32 ≤ other.toNat ∧ other.toNat < 127 := by
  have unit (first second : UInt8) :
      ∀ other ∈ ['\\', 'u'] ++ hexByte first ++ hexByte second,
        32 ≤ other.toNat ∧ other.toNat < 127 := by
    intro other member
    rcases List.mem_append.mp member with member | member
    · rcases List.mem_append.mp member with member | member
      · simp only [List.mem_cons, List.not_mem_nil, or_false] at member
        rcases member with rfl | rfl <;> decide
      · exact hexByte_printable _ other member
    · exact hexByte_printable _ other member
  unfold asciiChar
  dsimp only
  split
  · rename_i printable
    intro other member
    rwa [List.mem_singleton.mp member]
  · split
    · exact unit _ _
    · intro other member
      rcases List.mem_append.mp member with member | member
      · exact unit _ _ other member
      · exact unit _ _ other member

/-- The text in ASCII. -/
abbrev asciiText (value : Json) : List Char := text asciiChar value

theorem asciiText_ascii (value : Json) :
    ∀ char ∈ asciiText value, 32 ≤ char.toNat ∧ char.toNat < 127 := by
  intro char member
  obtain ⟨own, _, inside⟩ := List.mem_flatMap.mp member
  exact asciiChar_ascii own char inside

/-- ASCII text has one byte for each character. -/
theorem encodeAscii_length (value : Json) :
    value.encodeAscii.length = (asciiText value).length := by
  have ascii := asciiText_ascii value
  rw [encodeAscii, dumpsAscii, utf8_chars, String.toList_ofList]
  change (List.flatMap String.utf8EncodeChar (asciiText value)).length = _
  generalize asciiText value = chars at ascii
  induction chars with
  | nil => rfl
  | cons char chars ih =>
      have low := (ascii char List.mem_cons_self).2
      have small : char.val.toNat ≤ 127 := Nat.le_of_lt low
      have single : (String.utf8EncodeChar char).length = 1 := by
        rw [String.utf8EncodeChar, if_pos small]
        rfl
      rw [List.flatMap_cons, List.length_append, single, List.length_cons,
        ih (fun other member => ascii other (List.mem_cons_of_mem _ member)), Nat.add_comm]

/-! ### Length -/

theorem series_length {parts : List (List Char)} (nonempty : parts ≠ []) :
    (series parts).length + 1 = (parts.map (fun part => part.length + 1)).sum := by
  cases parts with
  | nil => exact absurd rfl nonempty
  | cons part rest =>
      have tail : (rest.flatMap (',' :: ·)).length =
          (rest.map (fun part => part.length + 1)).sum := by
        rw [List.length_flatMap]
        rfl
      rw [series, List.length_append, tail, List.map_cons, List.sum_cons]
      omega

/-- The length of a quoted text. -/
def quotedSize (value : String) : Nat := (quoted asciiChar value).length

/-- An object is as long as its fields, each with a colon and a comma, and one bracket. -/
theorem encodeAscii_obj_length {fields : List (String × Json)} (nonempty : fields ≠ []) :
    (Json.obj fields).encodeAscii.length =
      (fields.map (fun field => quotedSize field.1 + field.2.encodeAscii.length + 2)).sum + 1 := by
  have kept : (sortFields fields).map (fieldText asciiChar) ≠ [] := by
    intro empty
    apply nonempty
    have size := congrArg List.length (List.map_eq_nil_iff.mp empty)
    rw [sortFields, List.length_insertionSort] at size
    exact List.length_eq_zero_iff.mp size
  have parts := series_length kept
  have each : ((sortFields fields).map (fieldText asciiChar)).map (fun part => part.length + 1) =
      (sortFields fields).map
        (fun field => quotedSize field.1 + field.2.encodeAscii.length + 2) := by
    rw [List.map_map]
    apply List.map_congr_left
    intro field _
    rw [Function.comp_apply, fieldText, List.length_append, List.length_cons,
      encodeAscii_length, quotedSize, asciiText]
    omega
  have sums := ((List.perm_insertionSort (fun left right : String × Json => left.1 ≤ right.1)
    fields).map (fun field => quotedSize field.1 + field.2.encodeAscii.length + 2)).sum_nat
  rw [each] at parts
  rw [encodeAscii_length, asciiText, coding_ascii.text_obj, List.length_cons, List.length_append,
    List.length_singleton, ← sums]
  exact congrArg (· + 1) parts

theorem encodeAscii_arr_length {items : List Json} (nonempty : items ≠ []) :
    (Json.arr items).encodeAscii.length =
      (items.map (fun item => item.encodeAscii.length + 1)).sum + 1 := by
  have parts :=
    series_length (List.map_eq_nil_iff.not.mpr nonempty : items.map (text asciiChar) ≠ [])
  have each : (items.map (text asciiChar)).map (fun part => part.length + 1) =
      items.map (fun item => item.encodeAscii.length + 1) := by
    rw [List.map_map]
    apply List.map_congr_left
    intro item _
    rw [Function.comp_apply, encodeAscii_length]
  rw [each] at parts
  rw [encodeAscii_length, asciiText, coding_ascii.text_arr, List.length_cons, List.length_append,
    List.length_singleton]
  exact congrArg (· + 1) parts

theorem encodeAscii_str_length (value : String) :
    (Json.str value).encodeAscii.length = quotedSize value := by
  rw [encodeAscii_length, asciiText, coding_ascii.text_str, quotedSize]

theorem encodeAscii_int_length (value : Int) :
    (Json.int value).encodeAscii.length = (toString value).length := by
  rw [encodeAscii_length, asciiText, coding_ascii.text_int, String.length_toList]

mutual
/-- A size that the ASCII text of a value does not exceed. -/
def extent : Json → Nat
  | .null => 4
  | .bool _ => 5
  | .int value => (toString value).length
  | .str value => 72 * value.length + 2
  | .arr items => extentItems items + 2
  | .obj fields => extentFields fields + 2

def extentItems : List Json → Nat
  | [] => 0
  | item :: rest => extent item + 1 + extentItems rest

def extentFields : List (String × Json) → Nat
  | [] => 0
  | (key, value) :: rest => 72 * key.length + 2 + extent value + 2 + extentFields rest
end

theorem quotedSize_le (value : String) : quotedSize value ≤ 72 * value.length + 2 := by
  have chars : ∀ chars : List Char,
      (chars.flatMap (fun char => (escape char).flatMap asciiChar)).length ≤ 72 * chars.length := by
    intro chars
    induction chars with
    | nil => exact Nat.le_refl 0
    | cons char chars ih =>
        have escaped : ∀ text : List Char, (text.flatMap asciiChar).length ≤ 12 * text.length := by
          intro text
          induction text with
          | nil => exact Nat.le_refl 0
          | cons first text ih =>
              have single := asciiChar_length first
              rw [List.flatMap_cons, List.length_append, List.length_cons]
              omega
        have own := escaped (escape char)
        have short := escape_length char
        rw [List.flatMap_cons, List.length_append, List.length_cons]
        omega
  have whole := chars value.toList
  rw [String.length_toList] at whole
  rw [quotedSize, quoted, List.length_cons, List.length_append, List.length_singleton]
  omega

mutual
theorem encodeAscii_le_extent : ∀ value : Json, value.encodeAscii.length ≤ value.extent
  | .null => by decide +kernel
  | .bool true => by decide +kernel
  | .bool false => by decide +kernel
  | .int value => Nat.le_of_eq (encodeAscii_int_length value)
  | .str value => by
      rw [encodeAscii_str_length]
      exact quotedSize_le value
  | .arr [] => by decide +kernel
  | .arr (item :: rest) => by
      have each := extentItems_sum (item :: rest)
      rw [encodeAscii_arr_length (List.cons_ne_nil _ _), extent]
      omega
  | .obj [] => by decide +kernel
  | .obj (field :: rest) => by
      have each := extentFields_sum (field :: rest)
      rw [encodeAscii_obj_length (List.cons_ne_nil _ _), extent]
      omega

theorem extentItems_sum : ∀ items : List Json,
    (items.map (fun item => item.encodeAscii.length + 1)).sum ≤ extentItems items
  | [] => Nat.le_refl 0
  | item :: rest => by
      have first := encodeAscii_le_extent item
      have others := extentItems_sum rest
      rw [List.map_cons, List.sum_cons, extentItems]
      omega

theorem extentFields_sum : ∀ fields : List (String × Json),
    (fields.map (fun field => quotedSize field.1 + field.2.encodeAscii.length + 2)).sum ≤
      extentFields fields
  | [] => Nat.le_refl 0
  | (key, value) :: rest => by
      have first := encodeAscii_le_extent value
      have name := quotedSize_le key
      have others := extentFields_sum rest
      rw [List.map_cons, List.sum_cons, extentFields]
      dsimp only
      omega
end

/-! ### Distinct names -/

mutual
/-- No object inside has two fields of one name. -/
def Distinct : Json → Prop
  | .arr items => DistinctItems items
  | .obj fields => (fields.map Prod.fst).Nodup ∧ DistinctFields fields
  | _ => True

def DistinctItems : List Json → Prop
  | [] => True
  | item :: rest => Distinct item ∧ DistinctItems rest

def DistinctFields : List (String × Json) → Prop
  | [] => True
  | (_, value) :: rest => Distinct value ∧ DistinctFields rest
end

end Json

/-- The decoder gives back what the ASCII encoder has written. -/
def ReadsJson (loads : Bytes → Option Json) : Prop :=
  ∀ value : Json, value.Distinct → loads value.encodeAscii = some (Json.sorted value)

open Classical in
/-- The decoder that knows the canonical ASCII texts and nothing else. -/
noncomputable def jsonLoads (raw : Bytes) : Option Json :=
  if known : ∃ value : Json, value.Distinct ∧ value.encodeAscii = raw then
    some (Json.sorted known.choose)
  else none

theorem jsonLoads_reads : ReadsJson jsonLoads := by
  intro value distinct
  have known : ∃ other : Json, other.Distinct ∧ other.encodeAscii = value.encodeAscii :=
    ⟨value, distinct, rfl⟩
  rw [jsonLoads, dif_pos known]
  exact congrArg some (Json.encodeAscii_inj known.choose_spec.2)

/-- Looking a field up in what was decoded. -/
theorem Json.lookup_sorted {fields : List (String × Json)} (distinct : (fields.map Prod.fst).Nodup)
    {key : String} {value : Json} (member : (key, value) ∈ fields) :
    (Json.sortFields (Json.sortedFields fields)).lookup key = some (Json.sorted value) := by
  rw [Json.sortedFields_eq_map]
  apply Json.lookup_sortFields
  · rw [List.map_map]
    exact distinct
  · exact List.mem_map.mpr ⟨(key, value), member, rfl⟩

end Chiplog.Data

namespace Chiplog.Data

/-! Decoded objects.

A decoder gives the fields of an object in the order of their names, each value ordered in the
same way.  Two values are the same for a reader when their canonical texts are. -/

namespace Json

/-- The fields that a decoder gives for these. -/
def readFields (fields : List (String × Json)) : List (String × Json) :=
  sortFields (sortedFields fields)

theorem lookup_readFields {fields : List (String × Json)} (distinct : (fields.map Prod.fst).Nodup)
    {key : String} {value : Json} (member : (key, value) ∈ fields) :
    (readFields fields).lookup key = some (sorted value) :=
  lookup_sorted distinct member

theorem sorted_sorted (value : Json) : sorted (sorted value) = sorted value :=
  encodeAscii_eq_iff.mp (encodeAscii_sorted value)

/-! ### Equality -/

/-- Equality of decoded values, where the order of the fields of an object does not count. -/
def Same (first second : Json) : Prop := first.encode = second.encode

instance (first second : Json) : Decidable (Same first second) :=
  inferInstanceAs (Decidable (_ = _))

theorem same_iff {first second : Json} : Same first second ↔ sorted first = sorted second := by
  refine ⟨encode_inj, fun equal => ?_⟩
  rw [Same, encode, encode, ← dumps_sorted first, equal, dumps_sorted]

theorem Same.refl (value : Json) : Same value value := rfl

theorem same_sorted (value : Json) : Same (sorted value) value := same_iff.mpr (sorted_sorted value)

theorem sorted_obj_congr {first second : List (String × Json)}
    (equal : first.map (fun field => (field.1, sorted field.2)) =
      second.map (fun field => (field.1, sorted field.2))) :
    sorted (.obj first) = sorted (.obj second) := by
  rw [sorted, sorted, sortedFields_eq_map, sortedFields_eq_map, equal]

/-- Fields that are the same by name, in any order, make the same object. -/
theorem same_obj {first second : List (String × Json)} (distinct : (first.map Prod.fst).Nodup)
    (permuted : (first.map (fun field => (field.1, sorted field.2))).Perm
      (second.map (fun field => (field.1, sorted field.2)))) :
    Same (.obj first) (.obj second) := by
  have names : (first.map (fun field => (field.1, sorted field.2))).map Prod.fst =
      first.map Prod.fst := by
    rw [List.map_map]
    rfl
  rw [same_iff, sorted, sorted, sortedFields_eq_map, sortedFields_eq_map]
  congr 1
  generalize first.map (fun field => (field.1, sorted field.2)) = left at permuted names
  generalize second.map (fun field => (field.1, sorted field.2)) = right at permuted
  rw [← names] at distinct
  clear names
  have sorts := List.perm_insertionSort (fun left right : String × Json => left.1 ≤ right.1)
  have keys (list : List (String × Json)) :
      ((sortFields list).map Prod.fst).Pairwise (· ≤ ·) :=
    List.pairwise_map.mpr (sortFields_sorted list)
  have whole : (sortFields left).Perm (sortFields right) :=
    ((sorts left).trans permuted).trans (sorts right).symm
  apply eq_of_perm_keys whole
  · exact (whole.map Prod.fst).eq_of_pairwise' (keys left) (keys right)
  · exact sortFields_nodup distinct

end Json

/-- The decoder gives back what the encoder has written. -/
def ReadsUtf8 (loads : Bytes → Option Json) : Prop :=
  ∀ value : Json, value.Distinct → loads value.encode = some (Json.sorted value)

open Classical in
/-- The decoder that knows the canonical texts and nothing else. -/
noncomputable def utf8Loads (raw : Bytes) : Option Json :=
  if known : ∃ value : Json, value.Distinct ∧ value.encode = raw then
    some (Json.sorted known.choose)
  else none

theorem utf8Loads_reads : ReadsUtf8 utf8Loads := by
  intro value distinct
  have known : ∃ other : Json, other.Distinct ∧ other.encode = value.encode :=
    ⟨value, distinct, rfl⟩
  rw [utf8Loads, dif_pos known]
  exact congrArg some (Json.encode_inj known.choose_spec.2)

end Chiplog.Data
