import Chiplog.Data.JsonAscii
import Mathlib.Data.Rat.Defs

namespace Chiplog.Data

/-! JSON values with floating-point numbers.

A decoder gives such values for any text.  Those without floats are the values of `Json`, and have
the same text. -/

/-- The floating-point numbers: which are finite, the number that a finite one is, and how it is
written. -/
class Floats (φ : Type) where
  isfinite : φ → Bool
  exact : φ → ℚ
  repr : φ → String

inductive Value (φ : Type) where
  | null
  | bool (value : Bool)
  | int (value : Int)
  | float (value : φ)
  | str (value : String)
  | arr (items : List (Value φ))
  | obj (fields : List (String × Value φ))

namespace Value

variable {φ : Type}

section

variable [Floats φ]

mutual
def dumps : Value φ → String
  | .null => "null"
  | .bool value => if value then "true" else "false"
  | .int value => toString value
  | .float value => Floats.repr value
  | .str value => Json.quote value
  | .arr items => "[" ++ ",".intercalate (dumpsItems items) ++ "]"
  | .obj fields =>
      "\x7b" ++ ",".intercalate ((Json.sortKeys (dumpsFields fields)).map
        (fun field => Json.quote field.1 ++ ":" ++ field.2)) ++ "\x7d"

def dumpsItems : List (Value φ) → List String
  | [] => []
  | item :: rest => dumps item :: dumpsItems rest

def dumpsFields : List (String × Value φ) → List (String × String)
  | [] => []
  | (key, value) :: rest => (key, dumps value) :: dumpsFields rest
end

/-- `json.dumps(value, sort_keys=True, separators=(",", ":")).encode()`. -/
def encodeAscii (value : Value φ) : Bytes :=
  utf8 (String.ofList (value.dumps.toList.flatMap Json.asciiChar))

end

mutual
/-- `_unique_object` as the `object_pairs_hook` of every object inside. -/
def unique : Value φ → Bool
  | .arr items => uniqueItems items
  | .obj fields => (fields.map Prod.fst).Nodup && uniqueFields fields
  | _ => true

def uniqueItems : List (Value φ) → Bool
  | [] => true
  | item :: rest => unique item && uniqueItems rest

def uniqueFields : List (String × Value φ) → Bool
  | [] => true
  | (_, value) :: rest => unique value && uniqueFields rest
end

mutual
/-- The values without floats. -/
def ofJson : Json → Value φ
  | .null => .null
  | .bool value => .bool value
  | .int value => .int value
  | .str value => .str value
  | .arr items => .arr (ofItems items)
  | .obj fields => .obj (ofFields fields)

def ofItems : List Json → List (Value φ)
  | [] => []
  | item :: rest => ofJson item :: ofItems rest

def ofFields : List (String × Json) → List (String × Value φ)
  | [] => []
  | (key, value) :: rest => (key, ofJson value) :: ofFields rest
end

theorem ofItems_eq_map (items : List Json) :
    (ofItems items : List (Value φ)) = items.map ofJson := by
  induction items with
  | nil => rfl
  | cons item rest ih => rw [ofItems, ih, List.map_cons]

theorem ofFields_keys (fields : List (String × Json)) :
    ((ofFields fields : List (String × Value φ)).map Prod.fst) = fields.map Prod.fst := by
  induction fields with
  | nil => rfl
  | cons field rest ih => rw [ofFields, List.map_cons, ih, List.map_cons]

theorem dumpsItems_eq_map [Floats φ] (items : List (Value φ)) :
    dumpsItems items = items.map dumps := by
  induction items with
  | nil => rfl
  | cons item rest ih => rw [dumpsItems, ih, List.map_cons]

theorem dumpsFields_eq_map [Floats φ] (fields : List (String × Value φ)) :
    dumpsFields fields = fields.map (fun field => (field.1, dumps field.2)) := by
  induction fields with
  | nil => rfl
  | cons field rest ih => rw [dumpsFields, ih, List.map_cons]

mutual
theorem dumps_ofJson [Floats φ] : ∀ value : Json, (ofJson value : Value φ).dumps = value.dumps
  | .null | .bool _ | .int _ | .str _ => rfl
  | .arr items => by rw [ofJson, dumps, Json.dumps, dumpsItems_ofItems items]
  | .obj fields => by rw [ofJson, dumps, Json.dumps, dumpsFields_ofFields fields]

theorem dumpsItems_ofItems [Floats φ] : ∀ items : List Json,
    dumpsItems (ofItems items : List (Value φ)) = Json.dumpsItems items
  | [] => rfl
  | item :: rest => by
      rw [ofItems, dumpsItems, Json.dumpsItems, dumps_ofJson item, dumpsItems_ofItems rest]

theorem dumpsFields_ofFields [Floats φ] : ∀ fields : List (String × Json),
    dumpsFields (ofFields fields : List (String × Value φ)) = Json.dumpsFields fields
  | [] => rfl
  | (_, value) :: rest => by
      rw [ofFields, dumpsFields, Json.dumpsFields, dumps_ofJson value, dumpsFields_ofFields rest]
end

theorem encodeAscii_ofJson [Floats φ] (value : Json) :
    (ofJson value : Value φ).encodeAscii = value.encodeAscii := by
  rw [encodeAscii, Json.encodeAscii, Json.dumpsAscii, dumps_ofJson]

theorem encodeAscii_arr_congr [Floats φ] {items others : List (Value φ)}
    (texts : items.map dumps = others.map dumps) :
    (Value.arr items).encodeAscii = (Value.arr others).encodeAscii := by
  rw [encodeAscii, encodeAscii, dumps, dumps, dumpsItems_eq_map, dumpsItems_eq_map, texts]

mutual
theorem unique_ofJson : ∀ value : Json, value.Distinct → (ofJson value : Value φ).unique = true
  | .null, _ | .bool _, _ | .int _, _ | .str _, _ => rfl
  | .arr items, distinct => uniqueItems_ofItems items distinct
  | .obj fields, distinct => by
      rw [ofJson, unique, uniqueFields_ofFields fields distinct.2, ofFields_keys,
        decide_eq_true distinct.1]
      rfl

theorem uniqueItems_ofItems : ∀ items : List Json, Json.DistinctItems items →
    uniqueItems (ofItems items : List (Value φ)) = true
  | [], _ => rfl
  | item :: rest, distinct => by
      rw [ofItems, uniqueItems, unique_ofJson item distinct.1, uniqueItems_ofItems rest distinct.2]
      rfl

theorem uniqueFields_ofFields : ∀ fields : List (String × Json), Json.DistinctFields fields →
    uniqueFields (ofFields fields : List (String × Value φ)) = true
  | [], _ => rfl
  | (_, value) :: rest, distinct => by
      rw [ofFields, uniqueFields, unique_ofJson value distinct.1,
        uniqueFields_ofFields rest distinct.2]
      rfl
end

/-- The text of an object does not depend on the order of its fields. -/
theorem dumps_obj_perm [Floats φ] {fields others : List (String × Value φ)}
    (permuted : fields.Perm others) (distinct : (fields.map Prod.fst).Nodup) :
    (Value.obj fields).dumps = (Value.obj others).dumps := by
  have sorts := List.perm_insertionSort (fun left right : String × String => left.1 ≤ right.1)
  have texts : (dumpsFields fields).Perm (dumpsFields others) := by
    rw [dumpsFields_eq_map, dumpsFields_eq_map]
    exact permuted.map _
  have keys (list : List (String × String)) :
      ((Json.sortKeys list).map Prod.fst).Pairwise (· ≤ ·) :=
    List.pairwise_map.mpr (List.pairwise_insertionSort _ list)
  have whole : (Json.sortKeys (dumpsFields fields)).Perm (Json.sortKeys (dumpsFields others)) :=
    ((sorts _).trans texts).trans (sorts _).symm
  have same : Json.sortKeys (dumpsFields fields) = Json.sortKeys (dumpsFields others) := by
    apply Json.eq_of_perm_keys whole
    · exact (whole.map Prod.fst).eq_of_pairwise' (keys _) (keys _)
    · refine ((sorts _).map Prod.fst).nodup_iff.mpr ?_
      rw [dumpsFields_eq_map, List.map_map]
      exact distinct
  rw [dumps, dumps, same]

end Value

/-! ### Decoding -/

/-- `sys.get_int_max_str_digits()`. -/
def intMaxStrDigits : Nat := 4300

mutual
/-- The numbers have no more digits than `int` and `str` convert. -/
def Json.Convertible : Json → Prop
  | .int value => value.natAbs < 10 ^ intMaxStrDigits
  | .arr items => ConvertibleItems items
  | .obj fields => ConvertibleFields fields
  | _ => True

def Json.ConvertibleItems : List Json → Prop
  | [] => True
  | item :: rest => Convertible item ∧ ConvertibleItems rest

def Json.ConvertibleFields : List (String × Json) → Prop
  | [] => True
  | (_, value) :: rest => Convertible value ∧ ConvertibleFields rest
end

/-- `json.loads`: what it gives for a text, and that it gives a value without floats for the
canonical text of that value. -/
class JsonLoads (φ : Type) where
  loads : Bytes → Except String (Value φ)
  loads_encode (value : Json) : value.Distinct → value.Convertible →
    loads value.encodeAscii = .ok (Value.ofJson (Json.sorted value))

open Classical in
/-- The decoder that knows the canonical texts without floats and nothing else. -/
@[reducible] noncomputable def jsonValues (φ : Type) : JsonLoads φ where
  loads raw :=
    if known : ∃ value : Json, value.Distinct ∧ value.encodeAscii = raw then
      .ok (Value.ofJson (Json.sorted known.choose))
    else .error "Expecting value"
  loads_encode value distinct _ := by
    have known : ∃ other : Json, other.Distinct ∧ other.encodeAscii = value.encodeAscii :=
      ⟨value, distinct, rfl⟩
    rw [dif_pos known, Json.encodeAscii_inj known.choose_spec.2]

end Chiplog.Data
