import Chiplog.Data.Checked
import Chiplog.Data.Json
import Chiplog.Data.JsonValues
import Mathlib.Algebra.Order.Ring.Rat
import Mathlib.Data.List.Lex
import Mathlib.Data.Prod.Lex
import Mathlib.Data.Rat.Cast.Order

namespace Chiplog.Platform.AuthorityCheckpoint

open Chiplog.Data

/-! The full-authority preimage.

The encoder writes the rows as the database orders them.  The decoder orders the decoded values by
a key of its own and writes them again. -/

def maxAuthorityPreimageBytes : Nat := 16 * 1024 * 1024

structure StorageMember where
  table : String
  columns : List String
  authorityBearing : Bool

def authorityStorageMembers : List StorageMember := [
  ⟨"deletion_fences", ["tenant_id", "generation", "frontier"], true⟩,
  ⟨"derivatives", ["tenant_id", "sink", "derivative_id", "source_record_ids", "source_epoch",
    "provenance_fingerprint"], false⟩,
  ⟨"evidence_inbox", ["tenant_id", "source_id", "evidence_id", "fingerprint", "canonical_bytes",
    "followup_kind", "state", "attempt_id", "transport_version", "cursor"], true⟩,
  ⟨"publications", ["tenant_id", "operation_kind", "idempotency_key", "request_fingerprint",
    "commit_sequence", "record_ids"], true⟩,
  ⟨"records", ["tenant_id", "record_id", "owner", "schema_id", "canonical_bytes",
    "commit_sequence"], true⟩,
  ⟨"store_metadata", ["singleton", "store_version"], true⟩,
  ⟨"tenant_heads", ["tenant_id", "head"], true⟩]

def primaryKeyColumns : List (String × List String) := [
  ("deletion_fences", ["tenant_id"]),
  ("evidence_inbox", ["tenant_id", "source_id", "evidence_id"]),
  ("publications", ["tenant_id", "operation_kind", "idempotency_key"]),
  ("records", ["tenant_id", "record_id"]),
  ("store_metadata", ["singleton"]),
  ("tenant_heads", ["tenant_id"])]

/-- The members of the preimage. -/
def expectedMembers : List StorageMember :=
  authorityStorageMembers.filter (·.authorityBearing)

def keyIndexes (member : StorageMember) : List Nat :=
  ((primaryKeyColumns.lookup member.table).getD []).map (fun column => member.columns.idxOf column)

/-- Bytes as they compare. -/
def ordinals (raw : Bytes) : List Nat := raw.map UInt8.toNat

variable {φ : Type}

/-! ### Database -/

/-- A value of a column. -/
inductive Scalar (φ : Type) where
  | null
  | integer (value : Int)
  | real (value : φ)
  | text (value : String)
  | blob (raw : Bytes)

/-- The rows of each table, in any order. -/
abbrev Content (φ : Type) := String → List (List (Scalar φ))

namespace Scalar

def storageClass : Scalar φ → Nat
  | .null => 0
  | .integer _ | .real _ => 1
  | .text _ => 2
  | .blob _ => 3

variable [Floats φ]

/-- The order of the database: null, numbers, text by its UTF-8 bytes, blobs. -/
def before : Scalar φ → Scalar φ → Prop
  | .integer first, .integer second => first < second
  | .integer first, .real second => (first : ℚ) < Floats.exact second
  | .real first, .integer second => Floats.exact first < (second : ℚ)
  | .real first, .real second => Floats.exact first < Floats.exact second
  | .text first, .text second => ordinals (utf8 first) < ordinals (utf8 second)
  | .blob first, .blob second => ordinals first < ordinals second
  | first, second => first.storageClass < second.storageClass

instance (first second : Scalar φ) : Decidable (before first second) := by
  unfold before
  split <;> infer_instance

/-- Values that the database does not tell apart. -/
def Same (first second : Scalar φ) : Prop := ¬ before first second ∧ ¬ before second first

end Scalar

section

variable [Floats φ]

/-- The order by the first column that differs. -/
def rowBefore : List (Scalar φ) → List (Scalar φ) → Prop
  | [], rest => rest ≠ []
  | _, [] => False
  | first :: row, second :: other =>
      first.before second ∨ ¬ second.before first ∧ rowBefore row other

instance decideRowBefore : (row other : List (Scalar φ)) → Decidable (rowBefore row other)
  | [], [] => .isFalse (fun different => different rfl)
  | [], _ :: _ => .isTrue (List.cons_ne_nil _ _)
  | _ :: _, [] => .isFalse id
  | first :: row, second :: other =>
      have := decideRowBefore row other
      inferInstanceAs
        (Decidable (first.before second ∨ ¬ second.before first ∧ rowBefore row other))

/-- `SELECT … ORDER BY 1, 2, …`. -/
def select (content : Content φ) (member : StorageMember) : List (List (Scalar φ)) :=
  (content member.table).insertionSort (fun row other => ¬ rowBefore other row)

end

/-! ### Encoder -/

def canonicalScalar : Scalar φ → Value φ
  | .null => .null
  | .integer value => .int value
  | .real value => .float value
  | .text value => .str value
  | .blob raw => .obj [("base64", .str (b64encode raw))]

def tableValue (member : StorageMember) (rows : List (List (Value φ))) : Value φ :=
  .obj [("columns", .arr (member.columns.map .str)), ("rows", .arr (rows.map .arr)),
    ("table", .str member.table)]

def authoritySnapshotBytes [Floats φ] (content : Content φ) : Bytes :=
  (Value.arr (expectedMembers.map (fun member =>
    tableValue member ((select content member).map (·.map canonicalScalar))))).encodeAscii

/-! ### Decoder -/

structure AuthoritySnapshotTable (φ : Type) where
  table : String
  columns : List String
  rows : List (List (Value φ))

/-- `==` of two values that `_validate_scalar` accepts. -/
def equalScalars [Floats φ] : Value φ → Value φ → Bool
  | .null, .null => true
  | .int first, .int second => first = second
  | .int first, .float second => (first : ℚ) = Floats.exact second
  | .float first, .int second => Floats.exact first = (second : ℚ)
  | .float first, .float second => Floats.exact first = Floats.exact second
  | .str first, .str second => first = second
  | .obj [(key, .str first)], .obj [(name, .str second)] => key = name ∧ first = second
  | _, _ => false

def equalRows [Floats φ] : List (Value φ) → List (Value φ) → Bool := List.all₂ equalScalars

def validateScalar [Floats φ] : Value φ → Except String Unit
  | .null => .ok ()
  | .str _ => .ok ()
  | .int _ => .ok ()
  | .float value => raiseIf (¬ Floats.isfinite value) "non-finite scalar"
  | .obj [(key, .str encoded)] => do
      raiseIf (key ≠ "base64") "invalid bytes scalar"
      match b64decode encoded.toList with
      | none => .error "Non-base64 digit found"
      | some decoded => raiseIf (b64encode decoded ≠ encoded) "noncanonical bytes scalar"
  | .obj _ => .error "invalid bytes scalar"
  | _ => .error "unsupported scalar"

/-- The rank of a type, and a number or bytes to compare within it. -/
abbrev SortKey := ℕ ×ₗ ℚ ×ₗ List ℕ

def sqliteSortKey [Floats φ] : Value φ → Except String SortKey
  | .null => .ok (toLex (0, toLex (0, [])))
  | .int value => .ok (toLex (1, toLex ((value : ℚ), [])))
  | .float value => .ok (toLex (1, toLex (Floats.exact value, [])))
  | .str value => .ok (toLex (2, toLex (0, ordinals (utf8 value))))
  | .obj [(_, .str encoded)] =>
      match b64decode encoded.toList with
      | none => .error "Non-base64 digit found"
      | some raw => .ok (toLex (3, toLex (0, ordinals raw)))
  | _ => .error "unsupported scalar"

def sqliteRowSortKey [Floats φ] (row : List (Value φ)) : Except String (List SortKey) :=
  row.mapM sqliteSortKey

/-- `sorted(rows, key=_sqlite_row_sort_key)`. -/
def sortRows [Floats φ] (rows : List (List (Value φ))) : Except String (List (List (Value φ))) := do
  let keyed ← rows.mapM (fun row => do
    let key ← sqliteRowSortKey row
    pure (key, row))
  pure ((keyed.insertionSort (fun first second => first.1 ≤ second.1)).map Prod.snd)

/-- A key of a row as a member of a set, which a dict cannot be. -/
def hashed (indexes : List Nat) (row : List (Value φ)) : Except String (List (Value φ)) :=
  indexes.mapM (fun index =>
    match (row[index]? : Option (Value φ)) with
    | some (.obj _) => .error "unhashable type: 'dict'"
    | some value => .ok value
    | none => .error "list index out of range")

def parseRow [Floats φ] (member : StorageMember) : Value φ → Except String (List (Value φ))
  | .arr row => do
      raiseIf (row.length ≠ member.columns.length) "authority preimage row differs"
      forEach validateScalar row
      pure row
  | _ => .error "authority preimage row differs"

def parseRows [Floats φ] (member : StorageMember) (rows : List (Value φ)) :
    Except String (List (List (Value φ))) := do
  let parsedRows ← rows.mapM (parseRow member)
  let ordered ← sortRows parsedRows
  raiseIf (¬ List.all₂ equalRows parsedRows ordered) "authority preimage rows are reordered"
  let keys ← parsedRows.mapM (hashed (keyIndexes member))
  raiseIf ((keys.pwFilter (fun key other => ¬ equalRows key other)).length ≠ parsedRows.length)
    "authority preimage has duplicate primary row"
  pure parsedRows

def isTexts (texts : List String) : Value φ → Bool
  | .arr items => List.all₂ (fun item text =>
      match item with
      | .str value => decide (value = text)
      | _ => false) items texts
  | _ => false

def isText (text : String) : Value φ → Bool
  | .str value => value = text
  | _ => false

def decodeTable [Floats φ] (item : Value φ) (member : StorageMember) :
    Except String (AuthoritySnapshotTable φ) := do
  match item with
  | .obj fields =>
      raiseIf ((fields.map Prod.fst).insertionSort (· ≤ ·) ≠ ["columns", "rows", "table"])
        "authority preimage table envelope differs"
      raiseIf (¬ ((fields.lookup "table").any (isText member.table) ∧
          (fields.lookup "columns").any (isTexts member.columns)))
        "authority preimage manifest differs"
      match fields.lookup "rows" with
      | some (.arr rows) =>
          let parsedRows ← parseRows member rows
          pure ⟨member.table, member.columns, parsedRows⟩
      | _ => .error "authority preimage rows differ"
  | _ => .error "authority preimage table envelope differs"

def decodePreimage [Floats φ] [JsonLoads φ] (raw : Bytes) :
    Except String (List (AuthoritySnapshotTable φ)) := do
  raiseIf (raw = [] ∨ maxAuthorityPreimageBytes < raw.length)
    "authority preimage length is invalid"
  let decoded ← JsonLoads.loads raw
  raiseIf (¬ decoded.unique) "duplicate JSON key"
  match decoded with
  | .arr items =>
      raiseIf (items.length ≠ expectedMembers.length) "authority preimage table count differs"
      let tables ← (items.zip expectedMembers).mapM (fun pair => decodeTable pair.1 pair.2)
      raiseIf (decoded.encodeAscii ≠ raw) "authority preimage is noncanonical"
      pure tables
  | _ => .error "authority preimage table count differs"

end Chiplog.Platform.AuthorityCheckpoint

namespace Chiplog.Platform.AuthorityCheckpoint

open Chiplog.Data

/-! One order.

The sort key of the decoder orders the values as the database does, and values with one key are the
values that compare equal on either side. -/

variable {φ : Type} [Floats φ]

/-- The sort key of what the encoder writes. -/
def Scalar.key : Scalar φ → SortKey
  | .null => toLex (0, toLex (0, []))
  | .integer value => toLex (1, toLex ((value : ℚ), []))
  | .real value => toLex (1, toLex (Floats.exact value, []))
  | .text value => toLex (2, toLex (0, ordinals (utf8 value)))
  | .blob raw => toLex (3, toLex (0, ordinals raw))

def rowKeys (row : List (Scalar φ)) : List SortKey := row.map Scalar.key

theorem sqliteSortKey_canonical (scalar : Scalar φ) :
    sqliteSortKey (canonicalScalar scalar) = .ok scalar.key := by
  cases scalar with
  | blob raw => simp only [canonicalScalar, sqliteSortKey, b64decode_b64encode, Scalar.key]
  | null | integer | real | text => rfl

theorem sqliteRowSortKey_canonical (row : List (Scalar φ)) :
    sqliteRowSortKey (row.map canonicalScalar) = .ok (rowKeys row) :=
  mapM_map_ok (fun scalar _ => sqliteSortKey_canonical scalar)

/-! ### Values -/

theorem ordinals_inj {first second : Bytes} (same : ordinals first = ordinals second) :
    first = second :=
  List.map_injective_iff.mpr (fun _ _ => UInt8.toNat_inj.mp) same

theorem b64encode_inj {first second : Bytes} (same : b64encode first = b64encode second) :
    first = second := by
  have decoded := b64decode_b64encode first
  rw [same, b64decode_b64encode] at decoded
  exact (Option.some.inj decoded).symm

theorem before_iff (first second : Scalar φ) : first.before second ↔ first.key < second.key := by
  cases first <;> cases second <;>
    simp [Scalar.before, Scalar.key, Scalar.storageClass, Prod.Lex.toLex_lt_toLex]

theorem Scalar.same_iff (first second : Scalar φ) : Same first second ↔ first.key = second.key := by
  rw [Same, before_iff, before_iff]
  exact ⟨fun neither => le_antisymm (not_lt.mp neither.2) (not_lt.mp neither.1),
    fun same => ⟨same ▸ lt_irrefl _, same ▸ lt_irrefl _⟩⟩

theorem equalScalars_canonical (first second : Scalar φ) :
    equalScalars (canonicalScalar first) (canonicalScalar second) = true ↔
      first.key = second.key := by
  have text {value other : String} :
      ordinals (utf8 value) = ordinals (utf8 other) ↔ value = other :=
    ⟨fun same => utf8_inj (ordinals_inj same), fun same => same ▸ rfl⟩
  have blob {raw other : Bytes} : b64encode raw = b64encode other ↔ ordinals raw = ordinals other :=
    ⟨fun same => congrArg _ (b64encode_inj same), fun same => congrArg _ (ordinals_inj same)⟩
  cases first <;> cases second <;>
    simp [canonicalScalar, equalScalars, Scalar.key, text, blob]

/-! ### Rows -/

theorem rowBefore_iff (row other : List (Scalar φ)) :
    rowBefore row other ↔ rowKeys row < rowKeys other := by
  induction row generalizing other with
  | nil =>
      cases other with
      | nil => simp [rowBefore, rowKeys]
      | cons second other => simp [rowBefore, rowKeys]
  | cons first row ih =>
      cases other with
      | nil => simp [rowBefore, rowKeys]
      | cons second other =>
          change first.before second ∨ ¬ second.before first ∧ rowBefore row other ↔
            first.key :: rowKeys row < second.key :: rowKeys other
          rw [List.cons_lt_cons_iff, before_iff, before_iff, ih, not_lt, le_iff_lt_or_eq]
          constructor
          · intro earlier
            rcases earlier with before | ⟨before | same, rest⟩
            · exact .inl before
            · exact .inl before
            · exact .inr ⟨same, rest⟩
          · intro earlier
            rcases earlier with before | ⟨same, rest⟩
            · exact .inl before
            · exact .inr ⟨.inr same, rest⟩

/-- Rows in the order of the database. -/
def Ordered (rows : List (List (Scalar φ))) : Prop :=
  rows.Pairwise (fun row other => ¬ rowBefore other row)

theorem ordered_iff {rows : List (List (Scalar φ))} :
    Ordered rows ↔ (rows.map rowKeys).Pairwise (· ≤ ·) := by
  rw [Ordered, List.pairwise_map]
  constructor
  · exact List.Pairwise.imp
      (fun after => not_lt.mp (fun before => after ((rowBefore_iff _ _).mpr before)))
  · exact List.Pairwise.imp (fun before after => not_lt.mpr before ((rowBefore_iff _ _).mp after))

theorem select_ordered (content : Content φ) (member : StorageMember) :
    Ordered (select content member) := by
  have keys : (select content member).map rowKeys =
      ((content member.table).map rowKeys).insertionSort (· ≤ ·) := by
    apply List.map_insertionSort
    intro row _ other _
    rw [rowBefore_iff, not_lt]
  rw [ordered_iff, keys]
  exact List.pairwise_insertionSort _ _

theorem select_of_ordered {content : Content φ} {member : StorageMember}
    (ordered : Ordered (content member.table)) :
    select content member = content member.table :=
  List.Pairwise.insertionSort_eq ordered

theorem equalRows_canonical (row other : List (Scalar φ)) :
    equalRows (row.map canonicalScalar) (other.map canonicalScalar) = true ↔
      rowKeys row = rowKeys other := by
  rw [equalRows, List.all₂_eq_true, List.forall₂_map_left_iff, List.forall₂_map_right_iff, rowKeys,
    rowKeys, ← List.forall₂_eq_eq_eq, List.forall₂_map_left_iff, List.forall₂_map_right_iff]
  simp only [equalScalars_canonical]

theorem sortRows_canonical (rows : List (List (Scalar φ))) :
    ∃ ordered : List (List (Scalar φ)), sortRows (rows.map (·.map canonicalScalar)) =
        .ok (ordered.map (·.map canonicalScalar)) ∧
      ordered.map rowKeys = (rows.map rowKeys).insertionSort (· ≤ ·) := by
  have keyed : (rows.map (·.map canonicalScalar)).mapM (fun row => do
      let key ← sqliteRowSortKey row
      pure (key, row)) = .ok (rows.map (fun row => (rowKeys row, row.map canonicalScalar))) := by
    apply mapM_map_ok
    intro row _
    rw [sqliteRowSortKey_canonical]
    rfl
  let ordered := rows.insertionSort (fun row other => rowKeys row ≤ rowKeys other)
  have pairs : ordered.map (fun row => (rowKeys row, row.map canonicalScalar)) =
      (rows.map (fun row => (rowKeys row, row.map canonicalScalar))).insertionSort
        (fun first second => first.1 ≤ second.1) :=
    List.map_insertionSort _ _ _ _ (fun _ _ _ _ => Iff.rfl)
  refine ⟨ordered, ?_, List.map_insertionSort _ _ _ _ (fun _ _ _ _ => Iff.rfl)⟩
  rw [sortRows, keyed, ok_bind, ← pairs, List.map_map]
  rfl

/-- The decoder sees rows in order exactly when the database gives them in this order. -/
theorem reordered_iff {rows ordered : List (List (Scalar φ))}
    (keys : ordered.map rowKeys = (rows.map rowKeys).insertionSort (· ≤ ·)) :
    List.all₂ equalRows (rows.map (·.map canonicalScalar)) (ordered.map (·.map canonicalScalar)) =
      true ↔ Ordered rows := by
  have same : List.all₂ equalRows (rows.map (·.map canonicalScalar))
      (ordered.map (·.map canonicalScalar)) = true ↔ rows.map rowKeys = ordered.map rowKeys := by
    rw [List.all₂_eq_true, List.forall₂_map_left_iff, List.forall₂_map_right_iff,
      ← List.forall₂_eq_eq_eq, List.forall₂_map_left_iff, List.forall₂_map_right_iff]
    simp only [equalRows_canonical]
  rw [same, keys, ordered_iff]
  constructor
  · intro sorted
    rw [sorted]
    exact List.pairwise_insertionSort _ _
  · intro sorted
    exact sorted.insertionSort_eq.symm

end Chiplog.Platform.AuthorityCheckpoint
