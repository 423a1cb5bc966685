import Chiplog.Data.Json
import Mathlib.Data.PNat.Defs

namespace Chiplog.Data

/-! Validated field types and their wire form.

A field declared with `min_length=1`, `gt=0` or a digest pattern can only hold a
value that passed its check, so the check travels with the value.  `Model` is a
record that dumps to a JSON object, `Jsonable` anything that may be its field. -/

/-- A `str` field with `min_length=1`. -/
structure Identity where
  text : String
  nonempty : text ≠ ""
deriving DecidableEq

/-- What a literal shows of itself by evaluation: a text written out is not empty. -/
def Written (text : String) : Prop := if text = "" then False else True

theorem written (text : String) (holds : Written text) : text ≠ "" := by
  intro empty
  rw [Written, if_pos empty] at holds
  exact holds

theorem zeroByte_ne_nil : ([0] : List UInt8) ≠ [] := List.cons_ne_nil _ _

theorem oneByte_ne_nil : ([1] : List UInt8) ≠ [] := List.cons_ne_nil _ _

theorem eight_pos : 0 < 8 := Nat.succ_pos 7

theorem ten_pos : 0 < 10 := Nat.succ_pos 9

theorem pageBytes_pos : 0 < 65536 := Nat.succ_pos 65535

namespace Identity

def before (identity : Identity) (suffix : String) : Identity :=
  ⟨identity.text ++ suffix, by simp [identity.nonempty]⟩

def after (lead : String) (identity : Identity) : Identity :=
  ⟨lead ++ identity.text, by simp [identity.nonempty]⟩

@[simp] theorem text_before (identity : Identity) (suffix : String) :
    (identity.before suffix).text = identity.text ++ suffix := rfl

@[simp] theorem text_after (lead : String) (identity : Identity) :
    (after lead identity).text = lead ++ identity.text := rfl

theorem ext_iff_text {left right : Identity} : left = right ↔ left.text = right.text := by
  constructor
  · exact congrArg text
  · intro same
    cases left
    cases right
    cases same
    rfl

theorem before_inj {left right : Identity} {suffix : String} :
    left.before suffix = right.before suffix ↔ left = right := by
  simp only [ext_iff_text, text_before, String.append_left_inj]

theorem after_inj {lead : String} {left right : Identity} :
    after lead left = after lead right ↔ left = right := by
  simp only [ext_iff_text, text_after, String.append_right_inj]

end Identity

/-- A tuple field with `min_length=1`. -/
structure NonemptyTuple (α : Type) where
  items : List α
  nonempty : items ≠ []
deriving DecidableEq

/-- A `bytes` field with `min_length=1`. -/
abbrev NonemptyBytes := NonemptyTuple UInt8

namespace NonemptyTuple

/-- Validation of a plain tuple. -/
def ofList? (items : List α) : Option (NonemptyTuple α) :=
  if nonempty : items ≠ [] then some ⟨items, nonempty⟩ else none

theorem ofList?_eq_some {items : List α} {tuple : NonemptyTuple α} :
    ofList? items = some tuple ↔ tuple.items = items := by
  unfold ofList?
  obtain ⟨kept, nonempty⟩ := tuple
  split
  · simp [eq_comm]
  · rename_i empty
    constructor
    · intro impossible
      cases impossible
    · rintro rfl
      exact absurd nonempty empty

end NonemptyTuple

/-- The pattern `^[0-9a-f]{64}$`. -/
structure Digest where
  text : String
  hex : text.length = 64 ∧ ∀ char ∈ text.toList, char ∈ hexAlphabet
deriving DecidableEq

theorem Digest.text_ne_empty (digest : Digest) : digest.text ≠ "" := by
  intro empty
  have length := digest.hex.1
  rw [empty] at length
  simp at length

/-- A digest is in particular a nonempty string. -/
def Digest.identity (digest : Digest) : Identity := ⟨digest.text, digest.text_ne_empty⟩

theorem Digest.ext_text {left right : Digest} (same : left.text = right.text) : left = right := by
  cases left
  cases right
  cases same
  rfl

/-- `hashlib.sha256(raw).hexdigest()`.  The development never depends on which
function this is, only on the shape of its result. -/
class Hashlib where
  sha256 : Bytes → Digest

export Hashlib (sha256)

class Jsonable (α : Type) where
  toJson : α → Json

export Jsonable (toJson)

/-- `model_dump(mode="json")` of a record. -/
class Model (α : Type) where
  modelDump : α → List (String × Json)

export Model (modelDump)

instance [Model α] : Jsonable α := ⟨fun value => .obj (modelDump value)⟩

instance : Jsonable String := ⟨.str⟩
instance : Jsonable Identity := ⟨fun value => .str value.text⟩
instance : Jsonable Digest := ⟨fun value => .str value.text⟩
instance : Jsonable Nat := ⟨fun value => .int value⟩
instance : Jsonable Int := ⟨.int⟩
instance : Jsonable ℕ+ := ⟨fun value => .int value.val⟩
instance : Jsonable UInt64 := ⟨fun value => .int value.toNat⟩
instance : Jsonable Bool := ⟨.bool⟩
instance [Jsonable α] : Jsonable (Option α) := ⟨fun value => value.elim .null toJson⟩
instance [Jsonable α] : Jsonable (List α) := ⟨fun items => .arr (items.map toJson)⟩
instance [Jsonable α] : Jsonable (NonemptyTuple α) := ⟨fun tuple => toJson tuple.items⟩
instance [Jsonable α] [Jsonable β] : Jsonable (α × β) :=
  ⟨fun pair => .arr [toJson pair.1, toJson pair.2]⟩

/-- A `bytes` field of a model with `ser_json_bytes="base64"`. -/
instance : Jsonable Bytes := ⟨fun raw => .str (base64 raw)⟩
instance : Jsonable NonemptyBytes := ⟨fun raw => .str (base64 raw.items)⟩

/-- `canonical_bytes()` of a record. -/
def canonicalBytes [Model α] (value : α) : NonemptyBytes :=
  ⟨(toJson value).encode, Json.encode_obj_ne_nil _⟩

/-- `canonical_bytes()` of a recovery record: tagged JSON with the discriminant first. -/
def recoveryBytes [Model α] (value : α) : Bytes :=
  utf8 (toJson value).ordered.dumpsInOrder

/-- `del data[key]`. -/
def dropKey (key : String) (fields : List (String × Json)) : List (String × Json) :=
  fields.filter (fun field => field.1 ≠ key)

end Chiplog.Data
