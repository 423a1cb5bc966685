import Chiplog.Platform.AuthorityCheckpoint

namespace Chiplog.Platform.AuthorityCheckpoint

open Chiplog.Data

/-! The preimage and the content of the tables.

The decoder accepts exactly the texts of contents with distinct primary keys, and returns the rows
of the content in the order of the database. -/

variable {φ : Type} [Floats φ] {member : StorageMember} {value : Value φ}

def Scalar.Finite : Scalar φ → Prop
  | .real value => Floats.isfinite value = true
  | _ => True

/-- The columns of the primary key. -/
def primaryKey (member : StorageMember) (row : List (Scalar φ)) : List (Scalar φ) :=
  (keyIndexes member).filterMap (fun index => row[index]?)

/-- Rows that a table can hold: as wide as the table, with primary keys that the database tells
apart and no blob among them. -/
structure Stored (member : StorageMember) (rows : List (List (Scalar φ))) : Prop where
  width : ∀ row ∈ rows, row.length = member.columns.length
  finite : ∀ row ∈ rows, ∀ scalar ∈ row, scalar.Finite
  hashable : ∀ row ∈ rows, ∀ scalar ∈ primaryKey member row, ∀ raw, scalar ≠ .blob raw
  distinct : rows.Pairwise (fun row other =>
    ¬ List.Forall₂ Scalar.Same (primaryKey member row) (primaryKey member other))

/-! ### Scalars -/

theorem validateScalar_canonical {scalar : Scalar φ} (finite : scalar.Finite) :
    validateScalar (canonicalScalar scalar) = .ok () := by
  cases scalar with
  | null | integer | text => rfl
  | real value =>
      have finite : Floats.isfinite value = true := finite
      exact raiseIf_neg (not_not.mpr finite)
  | blob raw =>
      simp [canonicalScalar, validateScalar, b64decode_b64encode]

theorem validateScalar_ok {result : Unit} (valid : validateScalar value = .ok result) :
    ∃ scalar : Scalar φ, scalar.Finite ∧ canonicalScalar scalar = value := by
  unfold validateScalar at valid
  split at valid
  · exact ⟨.null, trivial, rfl⟩
  · exact ⟨.text _, trivial, rfl⟩
  · exact ⟨.integer _, trivial, rfl⟩
  · have finite := not_not.mp (raiseIf_ok.mp valid)
    exact ⟨.real _, finite, rfl⟩
  · rename_i key encoded
    obtain ⟨_, named, valid⟩ := bind_ok.mp valid
    obtain rfl : key = "base64" := not_not.mp (raiseIf_ok.mp named)
    split at valid
    · cases valid
    · rename_i decoded read
      have same : b64encode decoded = encoded := not_not.mp (raiseIf_ok.mp valid)
      refine ⟨.blob decoded, trivial, ?_⟩
      rw [canonicalScalar, same]
  · cases valid
  · cases valid

theorem validateRow_ok {row : List (Value φ)} {result : Unit}
    (valid : forEach validateScalar row = .ok result) :
    ∃ scalars : List (Scalar φ), (∀ scalar ∈ scalars, scalar.Finite) ∧
      scalars.map canonicalScalar = row := by
  have each := forEach_ok.mp valid
  clear valid
  induction row with
  | nil => exact ⟨[], fun _ member => absurd member List.not_mem_nil, rfl⟩
  | cons value row ih =>
      obtain ⟨scalar, finite, rfl⟩ := validateScalar_ok (each value List.mem_cons_self)
      obtain ⟨scalars, rest, rfl⟩ :=
        ih (fun other member => each other (List.mem_cons_of_mem _ member))
      exact ⟨scalar :: scalars, List.forall_mem_cons.mpr ⟨finite, rest⟩, rfl⟩

/-! ### Rows -/

theorem parseRow_canonical {row : List (Scalar φ)}
    (width : row.length = member.columns.length) (finite : ∀ scalar ∈ row, scalar.Finite) :
    parseRow member (.arr (row.map canonicalScalar)) = .ok (row.map canonicalScalar) := by
  have valid : forEach validateScalar (row.map canonicalScalar) = .ok () := by
    refine forEach_ok.mpr ?_
    intro value member
    obtain ⟨scalar, inside, rfl⟩ := List.mem_map.mp member
    exact validateScalar_canonical (finite scalar inside)
  rw [parseRow, raiseIf_neg (by simpa using width), ok_bind, valid]
  rfl

theorem parseRow_ok {row : List (Value φ)}
    (parsed : parseRow member value = .ok row) :
    ∃ scalars : List (Scalar φ), scalars.length = member.columns.length ∧
      (∀ scalar ∈ scalars, scalar.Finite) ∧ row = scalars.map canonicalScalar ∧
      value = .arr (scalars.map canonicalScalar) := by
  unfold parseRow at parsed
  split at parsed
  · simp only [bind_ok, pure_ok, raiseIf_ok] at parsed
    obtain ⟨_, width, _, valid, rfl⟩ := parsed
    obtain ⟨scalars, finite, rfl⟩ := validateRow_ok valid
    refine ⟨scalars, ?_, finite, rfl, rfl⟩
    simpa using width
  · cases parsed

theorem parsedRows_ok {values : List (Value φ)}
    {rows : List (List (Value φ))} (parsed : values.mapM (parseRow member) = .ok rows) :
    ∃ scalars : List (List (Scalar φ)),
      (∀ row ∈ scalars, row.length = member.columns.length ∧ ∀ scalar ∈ row, scalar.Finite) ∧
      rows = scalars.map (·.map canonicalScalar) ∧
      values = scalars.map (fun row => .arr (row.map canonicalScalar)) := by
  induction values generalizing rows with
  | nil =>
      cases pure_ok.mp parsed
      exact ⟨[], fun _ member => absurd member List.not_mem_nil, rfl, rfl⟩
  | cons value values ih =>
      simp only [List.mapM_cons, bind_ok, pure_ok] at parsed
      obtain ⟨row, first, others, rest, rfl⟩ := parsed
      obtain ⟨scalars, width, finite, rfl, rfl⟩ := parseRow_ok first
      obtain ⟨more, all, rfl, rfl⟩ := ih rest
      exact ⟨scalars :: more, List.forall_mem_cons.mpr ⟨⟨width, finite⟩, all⟩, rfl, rfl⟩

/-! ### Primary keys -/

omit [Floats φ] in
theorem hashed_ok {indexes : List Nat} {row : List (Scalar φ)} {keys : List (Value φ)}
    (returned : hashed indexes (row.map canonicalScalar) = .ok keys) :
    (∀ scalar ∈ indexes.filterMap (fun index => row[index]?), ∀ raw, scalar ≠ .blob raw) ∧
      keys = (indexes.filterMap (fun index => row[index]?)).map canonicalScalar := by
  unfold hashed at returned
  induction indexes generalizing keys with
  | nil =>
      cases pure_ok.mp returned
      exact ⟨fun _ member => absurd member List.not_mem_nil, rfl⟩
  | cons index indexes ih =>
      simp only [List.mapM_cons, bind_ok, pure_ok] at returned
      obtain ⟨key, first, others, rest, rfl⟩ := returned
      obtain ⟨plain, rfl⟩ := ih rest
      rw [List.getElem?_map] at first
      cases found : row[index]? with
      | none =>
          rw [found] at first
          cases first
      | some scalar =>
          rw [found] at first
          rw [List.filterMap_cons, found]
          cases scalar with
          | blob raw => cases first
          | null | integer | real | text =>
              cases first
              refine ⟨List.forall_mem_cons.mpr ⟨fun raw same => ?_, plain⟩, rfl⟩
              cases same

omit [Floats φ] in
theorem hashed_canonical {indexes : List Nat} {row : List (Scalar φ)}
    (within : ∀ index ∈ indexes, index < row.length)
    (plain : ∀ scalar ∈ indexes.filterMap (fun index => row[index]?), ∀ raw, scalar ≠ .blob raw) :
    hashed indexes (row.map canonicalScalar) =
      .ok ((indexes.filterMap (fun index => row[index]?)).map canonicalScalar) := by
  unfold hashed
  induction indexes with
  | nil => rfl
  | cons index indexes ih =>
      have bound := within index List.mem_cons_self
      have found : row[index]? = some row[index] := List.getElem?_eq_getElem bound
      rw [List.filterMap_cons, found] at plain
      obtain ⟨first, others⟩ := List.forall_mem_cons.mp plain
      have rest := ih (fun other member => within other (List.mem_cons_of_mem _ member)) others
      rw [List.mapM_cons, rest, List.filterMap_cons, List.getElem?_map, found]
      generalize row[index] = scalar at first
      cases scalar with
      | blob raw => exact absurd rfl (first raw)
      | null | integer | real | text => rfl

/-- A set of keys is as large as the list when no two of them are equal. -/
theorem distinctKeys_iff {keys : List (List (Scalar φ))} :
    ((keys.map (·.map canonicalScalar)).pwFilter
        (fun key other => ¬ equalRows key other)).length = keys.length ↔
      keys.Pairwise (fun key other => ¬ List.Forall₂ Scalar.Same key other) := by
  have equal (key other : List (Scalar φ)) :
      equalRows (key.map canonicalScalar) (other.map canonicalScalar) = true ↔
        List.Forall₂ Scalar.Same key other := by
    have same : (Scalar.Same : Scalar φ → Scalar φ → Prop) =
        fun first second => first.key = second.key := by
      funext first second
      exact propext (Scalar.same_iff first second)
    rw [equalRows, List.all₂_eq_true, List.forall₂_map_left_iff, List.forall₂_map_right_iff, same]
    simp only [equalScalars_canonical]
  have pairs : (keys.map (·.map canonicalScalar)).Pairwise
      (fun key other => ¬ equalRows key other) ↔
        keys.Pairwise (fun key other => ¬ List.Forall₂ Scalar.Same key other) := by
    rw [List.pairwise_map]
    simp only [equal]
  rw [← pairs, ← List.pwFilter_eq_self]
  constructor
  · intro size
    refine (List.pwFilter_sublist _).eq_of_length ?_
    rw [size, List.length_map]
  · intro whole
    rw [whole, List.length_map]

/-! ### Tables -/

theorem parseRows_ok {values : List (Value φ)}
    {rows : List (List (Value φ))} (parsed : parseRows member values = .ok rows) :
    ∃ scalars : List (List (Scalar φ)), Stored member scalars ∧ Ordered scalars ∧
      rows = scalars.map (·.map canonicalScalar) ∧
      values = scalars.map (fun row => .arr (row.map canonicalScalar)) := by
  simp only [parseRows, bind_ok, pure_ok, raiseIf_ok] at parsed
  obtain ⟨parsedRows, each, ordered, sorted, _, order, keys, hashes, _, unique, rfl⟩ := parsed
  obtain ⟨scalars, valid, rfl, rfl⟩ := parsedRows_ok each
  obtain ⟨places, placed, moved⟩ := sortRows_canonical scalars
  obtain rfl := Except.ok.inj (sorted.symm.trans placed)
  have own : ∀ row ∈ scalars, (∀ scalar ∈ primaryKey member row, ∀ raw, scalar ≠ .blob raw) ∧
      hashed (keyIndexes member) (row.map canonicalScalar) =
        .ok ((primaryKey member row).map canonicalScalar) := by
    intro row inside
    obtain ⟨key, _, hash⟩ := result_of_mapM_ok hashes (List.mem_map_of_mem inside)
    obtain ⟨plain, rfl⟩ := hashed_ok hash
    exact ⟨plain, hash⟩
  have collected : (scalars.map (·.map canonicalScalar)).mapM (hashed (keyIndexes member)) =
      .ok (scalars.map (fun row => (primaryKey member row).map canonicalScalar)) :=
    mapM_map_ok (fun row inside => (own row inside).2)
  obtain rfl := Except.ok.inj (hashes.symm.trans collected)
  have size := not_not.mp unique
  have shape : scalars.map (fun row => (primaryKey member row).map canonicalScalar) =
      (scalars.map (primaryKey member)).map (·.map canonicalScalar) := by
    rw [List.map_map]
    rfl
  rw [shape, List.length_map, ← List.length_map (primaryKey member), distinctKeys_iff,
    List.pairwise_map] at size
  refine ⟨scalars, ⟨?_, ?_, ?_, size⟩, (reordered_iff moved).mp (not_not.mp order), rfl, rfl⟩
  · exact fun row inside => (valid row inside).1
  · exact fun row inside => (valid row inside).2
  · exact fun row inside => (own row inside).1

theorem parseRows_canonical {rows : List (List (Scalar φ))}
    (keyed : ∀ index ∈ keyIndexes member, index < member.columns.length)
    (stored : Stored member rows) (ordered : Ordered rows) :
    parseRows member (rows.map (fun row => .arr (row.map canonicalScalar))) =
      .ok (rows.map (·.map canonicalScalar)) := by
  have each : (rows.map (fun row => Value.arr (row.map canonicalScalar))).mapM (parseRow member) =
      .ok (rows.map (·.map canonicalScalar)) :=
    mapM_map_ok (fun row inside => parseRow_canonical (stored.width row inside)
      (stored.finite row inside))
  obtain ⟨places, placed, moved⟩ := sortRows_canonical rows
  have collected : (rows.map (·.map canonicalScalar)).mapM (hashed (keyIndexes member)) =
      .ok (rows.map (fun row => (primaryKey member row).map canonicalScalar)) := by
    apply mapM_map_ok
    intro row inside
    apply hashed_canonical
    · intro index among
      rw [stored.width row inside]
      exact keyed index among
    · exact stored.hashable row inside
  have shape : rows.map (fun row => (primaryKey member row).map canonicalScalar) =
      (rows.map (primaryKey member)).map (·.map canonicalScalar) := by
    rw [List.map_map]
    rfl
  have size : ((rows.map (fun row => (primaryKey member row).map canonicalScalar)).pwFilter
      (fun key other => ¬ equalRows key other)).length =
        (rows.map (·.map canonicalScalar)).length := by
    rw [shape, List.length_map, ← List.length_map (primaryKey member), distinctKeys_iff,
      List.pairwise_map]
    exact stored.distinct
  rw [parseRows, each, ok_bind, placed, ok_bind,
    raiseIf_neg (not_not.mpr ((reordered_iff moved).mpr ordered)), ok_bind, collected, ok_bind,
    raiseIf_neg (not_not.mpr size), ok_bind]
  rfl

omit [Floats φ] in
theorem isTexts_iff {texts : List String} :
    isTexts texts value = true ↔ value = .arr (texts.map .str) := by
  cases value with
  | arr items =>
      rw [isTexts, List.all₂_eq_true, Value.arr.injEq]
      induction items generalizing texts with
      | nil => cases texts <;> simp
      | cons item items ih =>
          cases texts with
          | nil => simp
          | cons text texts =>
              rw [List.forall₂_cons, ih, List.map_cons, List.cons.injEq]
              cases item <;> simp
  | null | bool | int | float | str | obj => simp [isTexts]

omit [Floats φ] in
theorem isText_iff {text : String} :
    isText text value = true ↔ value = .str text := by
  cases value <;> simp [isText]

omit [Floats φ] in
/-- The fields of an envelope, in any order. -/
theorem envelope_perm {fields : List (String × Value φ)} {columns rows table : Value φ}
    (names : (fields.map Prod.fst).insertionSort (· ≤ ·) = ["columns", "rows", "table"])
    (first : fields.lookup "columns" = some columns) (second : fields.lookup "rows" = some rows)
    (third : fields.lookup "table" = some table) :
    fields.Perm [("columns", columns), ("rows", rows), ("table", table)] ∧
      (fields.map Prod.fst).Nodup := by
  have permuted := (List.perm_insertionSort (· ≤ ·) (fields.map Prod.fst)).symm
  rw [names] at permuted
  have distinct : (fields.map Prod.fst).Nodup := permuted.nodup_iff.mpr (by decide)
  have size : fields.length = 3 := by
    rw [← List.length_map Prod.fst, permuted.length_eq]
    rfl
  have present {key : String} {value : Value φ} (found : fields.lookup key = some value) :
      (key, value) ∈ fields :=
    (@Dict.get?_eq_some_iff _ _ _ ⟨fields, distinct⟩ key value).mp found
  refine ⟨(List.Subperm.perm_of_length_le (List.subperm_of_subset ?_ ?_) ?_).symm, distinct⟩
  · simp
  · intro field member
    simp only [List.mem_cons, List.not_mem_nil, or_false] at member
    rcases member with rfl | rfl | rfl
    · exact present first
    · exact present second
    · exact present third
  · rw [size]
    rfl

theorem decodeTable_ok {item : Value φ}
    {table : AuthoritySnapshotTable φ} (decoded : decodeTable item member = .ok table) :
    ∃ rows : List (List (Scalar φ)), Stored member rows ∧ Ordered rows ∧
      table = ⟨member.table, member.columns, rows.map (·.map canonicalScalar)⟩ ∧
      item.dumps = (tableValue member (rows.map (·.map canonicalScalar))).dumps := by
  unfold decodeTable at decoded
  split at decoded
  · rename_i fields
    simp only [bind_ok, raiseIf_ok] at decoded
    obtain ⟨_, names, _, manifest, decoded⟩ := decoded
    obtain ⟨named, listed⟩ := not_not.mp manifest
    obtain ⟨name, third, text⟩ := (Option.any_eq_true _ _).mp named
    obtain ⟨columns, first, texts⟩ := (Option.any_eq_true _ _).mp listed
    obtain rfl := isText_iff.mp text
    obtain rfl := isTexts_iff.mp texts
    split at decoded
    · rename_i values second
      simp only [bind_ok, pure_ok] at decoded
      obtain ⟨parsed, parses, rfl⟩ := decoded
      obtain ⟨rows, stored, ordered, rfl, rfl⟩ := parseRows_ok parses
      obtain ⟨permuted, distinct⟩ := envelope_perm (not_not.mp names) first second third
      refine ⟨rows, stored, ordered, rfl, ?_⟩
      rw [Value.dumps_obj_perm permuted distinct, tableValue, List.map_map]
      rfl
    · cases decoded
  · cases decoded

theorem decodeTable_canonical {rows : List (List (Scalar φ))}
    (keyed : ∀ index ∈ keyIndexes member, index < member.columns.length)
    (stored : Stored member rows) (ordered : Ordered rows) :
    decodeTable (tableValue member (rows.map (·.map canonicalScalar))) member =
      .ok ⟨member.table, member.columns, rows.map (·.map canonicalScalar)⟩ := by
  have parsed := parseRows_canonical keyed stored ordered
  have shape : (rows.map (·.map canonicalScalar)).map Value.arr =
      rows.map (fun row => .arr (row.map canonicalScalar)) := by
    rw [List.map_map]
    rfl
  have names : ["columns", "rows", "table"].insertionSort (· ≤ ·) =
      ["columns", "rows", "table"] := by
    decide
  have columns : isTexts member.columns (.arr (member.columns.map .str) : Value φ) = true :=
    isTexts_iff.mpr rfl
  have text : isText member.table (.str member.table : Value φ) = true := isText_iff.mpr rfl
  rw [tableValue, shape, decodeTable]
  simp only [List.map_cons, List.map_nil, names, ne_eq, not_true_eq_false, not_false_eq_true,
    raiseIf_neg, ok_bind, List.lookup_cons, List.lookup_nil]
  simp [columns, text, parsed]

/-! ### Documents -/

theorem expectedMembers_keyed : ∀ member ∈ expectedMembers,
    ∀ index ∈ keyIndexes member, index < member.columns.length := by
  decide

theorem expectedMembers_distinct : (expectedMembers.map (·.table)).Nodup := by
  decide

/-- What the decoder returns for a content. -/
def snapshotTables (content : Content φ) : List (AuthoritySnapshotTable φ) :=
  expectedMembers.map (fun member =>
    ⟨member.table, member.columns, (select content member).map (·.map canonicalScalar)⟩)

/-- A content that the database can hold. -/
def Kept (content : Content φ) : Prop :=
  ∀ member ∈ expectedMembers, Stored member (content member.table)

/-- Null, an integer of 64 bits, text or a blob. -/
def Scalar.Plain : Scalar φ → Prop
  | .integer value => -2 ^ 63 ≤ value ∧ value < 2 ^ 63
  | .real _ => False
  | _ => True

def PlainContent (content : Content φ) : Prop :=
  ∀ member ∈ expectedMembers, ∀ row ∈ content member.table, ∀ scalar ∈ row, scalar.Plain

/-- The document, with its floats left out. -/
def Scalar.json : Scalar φ → Json
  | .null => .null
  | .integer value => .int value
  | .real _ => .null
  | .text value => .str value
  | .blob raw => .obj [("base64", .str (b64encode raw))]

def tableJson (member : StorageMember) (rows : List (List (Scalar φ))) : Json :=
  .obj [("columns", .arr (member.columns.map .str)),
    ("rows", .arr (rows.map (fun row => .arr (row.map Scalar.json)))), ("table", .str member.table)]

def document (content : Content φ) : Json :=
  .arr (expectedMembers.map (fun member => tableJson member (select content member)))

omit [Floats φ] in
theorem ofJson_scalar {scalar : Scalar φ} (plain : scalar.Plain) :
    Value.ofJson scalar.json = canonicalScalar scalar := by
  cases scalar with
  | real value => cases plain
  | null | integer | text | blob => rfl

omit [Floats φ] in
theorem ofJson_table {rows : List (List (Scalar φ))}
    (plain : ∀ row ∈ rows, ∀ scalar ∈ row, scalar.Plain) :
    Value.ofJson (tableJson member rows) =
      tableValue member (rows.map (·.map canonicalScalar)) := by
  have columns : (Value.ofItems (member.columns.map .str) : List (Value φ)) =
      member.columns.map .str := by
    rw [Value.ofItems_eq_map, List.map_map]
    rfl
  have listed : (Value.ofItems (rows.map (fun row => .arr (row.map Scalar.json))) :
      List (Value φ)) = (rows.map (·.map canonicalScalar)).map .arr := by
    rw [Value.ofItems_eq_map, List.map_map, List.map_map]
    apply List.map_congr_left
    intro row member
    rw [Function.comp_apply, Function.comp_apply, Value.ofJson, Value.ofItems_eq_map, List.map_map]
    congr 1
    apply List.map_congr_left
    intro scalar inside
    exact ofJson_scalar (plain row member scalar inside)
  simp only [tableJson, Value.ofJson, Value.ofFields, columns, listed, tableValue]

omit [Floats φ] in
theorem sorted_scalar (scalar : Scalar φ) : Json.sorted scalar.json = scalar.json := by
  cases scalar <;> rfl

omit [Floats φ] in
theorem sorted_table (member : StorageMember) (rows : List (List (Scalar φ))) :
    Json.sorted (tableJson member rows) = tableJson member rows := by
  have columns : Json.sorted (.arr (member.columns.map .str)) = .arr (member.columns.map .str) := by
    rw [Json.sorted, Json.sortedItems_eq_map, List.map_map]
    rfl
  have listed : Json.sorted (.arr (rows.map (fun row => .arr (row.map Scalar.json)))) =
      .arr (rows.map (fun row => .arr (row.map Scalar.json))) := by
    rw [Json.sorted, Json.sortedItems_eq_map, List.map_map]
    congr 1
    apply List.map_congr_left
    intro row _
    rw [Function.comp_apply, Json.sorted, Json.sortedItems_eq_map, List.map_map]
    congr 1
    exact List.map_congr_left (fun scalar _ => sorted_scalar scalar)
  have order : (["columns", "rows", "table"] : List String).Pairwise (· ≤ ·) := by decide
  rw [tableJson, Json.sorted_obj, Json.sortFields]
  rw [List.Pairwise.insertionSort_eq (List.pairwise_map.mp order)]
  simp only [List.map_cons, List.map_nil, columns, listed]
  rfl

theorem distinctItems_of {items : List Json} (each : ∀ item ∈ items, item.Distinct) :
    Json.DistinctItems items := by
  induction items with
  | nil => trivial
  | cons item items ih =>
      obtain ⟨first, rest⟩ := List.forall_mem_cons.mp each
      exact ⟨first, ih rest⟩

theorem convertibleItems_of {items : List Json} (each : ∀ item ∈ items, item.Convertible) :
    Json.ConvertibleItems items := by
  induction items with
  | nil => trivial
  | cons item items ih =>
      obtain ⟨first, rest⟩ := List.forall_mem_cons.mp each
      exact ⟨first, ih rest⟩

omit [Floats φ] in
theorem distinct_table (member : StorageMember) (rows : List (List (Scalar φ))) :
    (tableJson member rows).Distinct := by
  have columns : Json.DistinctItems (member.columns.map .str) := by
    apply distinctItems_of
    intro item inside
    obtain ⟨column, _, rfl⟩ := List.mem_map.mp inside
    trivial
  have listed : Json.DistinctItems (rows.map (fun row => .arr (row.map Scalar.json))) := by
    apply distinctItems_of
    intro item inside
    obtain ⟨row, _, rfl⟩ := List.mem_map.mp inside
    apply distinctItems_of
    intro value among
    obtain ⟨scalar, _, rfl⟩ := List.mem_map.mp among
    cases scalar with
    | null | integer | real | text => trivial
    | blob raw => exact ⟨by simp, trivial, trivial⟩
  exact ⟨by simp, columns, listed, trivial, trivial⟩

omit [Floats φ] in
theorem convertible_scalar {scalar : Scalar φ} (plain : scalar.Plain) :
    scalar.json.Convertible := by
  cases scalar with
  | integer value =>
      have bounds : -2 ^ 63 ≤ value ∧ value < 2 ^ 63 := plain
      have small : value.natAbs < 10 ^ 20 := by omega
      exact Nat.lt_of_lt_of_le small (Nat.pow_le_pow_right (by decide) (by decide))
  | real value => cases plain
  | null | text => trivial
  | blob raw => exact ⟨trivial, trivial⟩

omit [Floats φ] in
theorem convertible_table {rows : List (List (Scalar φ))}
    (plain : ∀ row ∈ rows, ∀ scalar ∈ row, scalar.Plain) :
    (tableJson member rows).Convertible := by
  have columns : Json.ConvertibleItems (member.columns.map .str) := by
    apply convertibleItems_of
    intro item inside
    obtain ⟨column, _, rfl⟩ := List.mem_map.mp inside
    trivial
  have listed : Json.ConvertibleItems (rows.map (fun row => .arr (row.map Scalar.json))) := by
    apply convertibleItems_of
    intro item inside
    obtain ⟨row, stored, rfl⟩ := List.mem_map.mp inside
    apply convertibleItems_of
    intro value among
    obtain ⟨scalar, held, rfl⟩ := List.mem_map.mp among
    exact convertible_scalar (plain row stored scalar held)
  exact ⟨columns, listed, trivial, trivial⟩

omit [Floats φ] in
theorem distinct_rows {members : List StorageMember}
    (rows : StorageMember → List (List (Scalar φ))) :
    (Json.arr (members.map (fun member => tableJson member (rows member)))).Distinct := by
  apply distinctItems_of
  intro item inside
  obtain ⟨member, _, rfl⟩ := List.mem_map.mp inside
  exact distinct_table member _

theorem distinct_document (content : Content φ) : (document content).Distinct :=
  distinct_rows (select content)

theorem mem_select {content : Content φ} {row : List (Scalar φ)} :
    row ∈ select content member ↔ row ∈ content member.table :=
  List.mem_insertionSort _

/-- The order of the rows does not matter to the database. -/
theorem Stored.select {content : Content φ}
    (stored : Stored member (content member.table)) : Stored member (select content member) := by
  refine ⟨fun row inside => stored.width row (mem_select.mp inside),
    fun row inside => stored.finite row (mem_select.mp inside),
    fun row inside => stored.hashable row (mem_select.mp inside), ?_⟩
  refine (List.Perm.pairwise_iff ?_ (List.perm_insertionSort _ _)).mpr stored.distinct
  intro row other apart same
  exact apart (same.flip.imp (fun _ _ equal => ⟨equal.2, equal.1⟩))

section

variable {content : Content φ}

/-- The values that the encoder writes. -/
theorem ofJson_document (plain : PlainContent content) :
    Value.ofJson (document content) = .arr (expectedMembers.map (fun member => tableValue member
      ((AuthorityCheckpoint.select content member).map (·.map canonicalScalar)))) := by
  rw [document, Value.ofJson, Value.ofItems_eq_map, List.map_map]
  exact congrArg Value.arr (List.map_congr_left (fun member inside =>
    ofJson_table (fun row held => plain member inside row (mem_select.mp held))))

theorem document_text (plain : PlainContent content) :
    (document content).encodeAscii = authoritySnapshotBytes content := by
  rw [← @Value.encodeAscii_ofJson φ, ofJson_document plain, authoritySnapshotBytes]

theorem document_loads [JsonLoads φ] (plain : PlainContent content) :
    (JsonLoads.loads (authoritySnapshotBytes content) : Except String (Value φ)) =
      .ok (Value.ofJson (document content)) := by
  have convertible : (document content).Convertible := by
    apply convertibleItems_of
    intro item inside
    obtain ⟨member, among, rfl⟩ := List.mem_map.mp inside
    exact convertible_table (fun row held => plain member among row (mem_select.mp held))
  have sorted : Json.sorted (document content) = document content := by
    rw [document, Json.sorted, Json.sortedItems_eq_map, List.map_map]
    congr 1
    exact List.map_congr_left (fun member _ => sorted_table member _)
  rw [← document_text plain, JsonLoads.loads_encode _ (distinct_document content) convertible,
    sorted]

theorem authoritySnapshotBytes_ne_nil : authoritySnapshotBytes content ≠ [] := by
  intro empty
  have open_bracket := utf8_eq_nil.mp empty
  rw [Value.dumps, String.toList_append, String.toList_append] at open_bracket
  have first := congrArg String.toList open_bracket
  rw [String.toList_ofList, List.append_assoc, List.flatMap_append] at first
  cases first

end

theorem tables_canonical {content : Content φ} (kept : Kept content) :
    ((expectedMembers.map (fun member => tableValue member
        ((select content member).map (·.map canonicalScalar)))).zip expectedMembers).mapM
      (fun pair => decodeTable pair.1 pair.2) = .ok (snapshotTables content) := by
  have pairs (members : List StorageMember) (value : StorageMember → Value φ) :
      (members.map value).zip members = members.map (fun member => (value member, member)) := by
    induction members with
    | nil => rfl
    | cons member members ih => rw [List.map_cons, List.zip_cons_cons, ih, List.map_cons]
  rw [pairs]
  apply mapM_map_ok
  intro member inside
  exact decodeTable_canonical (expectedMembers_keyed member inside) (kept member inside).select
    (select_ordered content member)

/-- What the decoder has read is a content in the order of the database. -/
theorem tables_ok {members : List StorageMember} {items : List (Value φ)}
    {tables : List (AuthoritySnapshotTable φ)} (distinct : (members.map (·.table)).Nodup)
    (size : items.length = members.length)
    (decoded : (items.zip members).mapM (fun pair => decodeTable pair.1 pair.2) = .ok tables) :
    ∃ content : Content φ,
      (∀ member ∈ members, Stored member (content member.table) ∧
        Ordered (content member.table)) ∧
      tables = members.map (fun member => ⟨member.table, member.columns,
        (content member.table).map (·.map canonicalScalar)⟩) ∧
      items.map Value.dumps = members.map (fun member =>
        (tableValue member ((content member.table).map (·.map canonicalScalar))).dumps) := by
  induction members generalizing items tables with
  | nil =>
      obtain rfl := List.length_eq_zero_iff.mp size
      cases pure_ok.mp decoded
      exact ⟨fun _ => [], fun _ member => absurd member List.not_mem_nil, rfl, rfl⟩
  | cons member members ih =>
      cases items with
      | nil => cases size
      | cons item items =>
          simp only [List.zip_cons_cons, List.mapM_cons, bind_ok, pure_ok] at decoded
          obtain ⟨table, first, others, rest, rfl⟩ := decoded
          obtain ⟨fresh, distinct⟩ := List.nodup_cons.mp distinct
          obtain ⟨content, kept, rfl, texts⟩ := ih distinct (Nat.succ.inj size) rest
          obtain ⟨rows, stored, ordered, rfl, text⟩ := decodeTable_ok first
          have own : Function.update content member.table rows member.table = rows :=
            Function.update_self ..
          have other : ∀ later ∈ members,
              Function.update content member.table rows later.table = content later.table := by
            intro later inside
            apply Function.update_of_ne
            intro same
            exact fresh (List.mem_map.mpr ⟨later, inside, same⟩)
          refine ⟨Function.update content member.table rows, ?_, ?_, ?_⟩
          · refine List.forall_mem_cons.mpr ⟨?_, ?_⟩
            · rw [own]
              exact ⟨stored, ordered⟩
            · intro later inside
              rw [other later inside]
              exact kept later inside
          · rw [List.map_cons, own]
            congr 1
            apply List.map_congr_left
            intro later inside
            rw [other later inside]
          · rw [List.map_cons, List.map_cons, own, text, texts]
            congr 1
            apply List.map_congr_left
            intro later inside
            rw [other later inside]

theorem decodePreimage_of [JsonLoads φ] {raw : Bytes} {items : List (Value φ)}
    {tables : List (AuthoritySnapshotTable φ)} (nonempty : raw ≠ [])
    (small : raw.length ≤ maxAuthorityPreimageBytes)
    (loaded : JsonLoads.loads raw = .ok (.arr items))
    (unique : (Value.arr items).unique = true) (size : items.length = expectedMembers.length)
    (decoded :
      (items.zip expectedMembers).mapM (fun pair => decodeTable pair.1 pair.2) = .ok tables)
    (canonical : (Value.arr items).encodeAscii = raw) : decodePreimage raw = .ok tables := by
  have length : ¬ (raw = [] ∨ maxAuthorityPreimageBytes < raw.length) := by
    intro wrong
    rcases wrong with empty | large
    · exact nonempty empty
    · exact Nat.not_lt.mpr small large
  rw [decodePreimage, raiseIf_neg length, ok_bind, loaded, ok_bind,
    raiseIf_neg (not_not.mpr unique), ok_bind]
  dsimp only
  rw [raiseIf_neg (not_not.mpr size), ok_bind, decoded, ok_bind,
    raiseIf_neg (not_not.mpr canonical), ok_bind]
  rfl

theorem decodePreimage_canonical [JsonLoads φ] {content : Content φ} (kept : Kept content)
    (plain : PlainContent content)
    (small : (authoritySnapshotBytes content).length ≤ maxAuthorityPreimageBytes) :
    decodePreimage (authoritySnapshotBytes content) = .ok (snapshotTables content) := by
  have loaded := document_loads plain
  have unique : (Value.ofJson (document content) : Value φ).unique = true :=
    Value.unique_ofJson _ (distinct_document content)
  rw [ofJson_document plain] at loaded unique
  exact decodePreimage_of authoritySnapshotBytes_ne_nil small loaded unique (List.length_map _)
    (tables_canonical kept) (by rw [authoritySnapshotBytes])

theorem decodePreimage_ok [JsonLoads φ] {raw : Bytes} {tables : List (AuthoritySnapshotTable φ)}
    (decoded : decodePreimage raw = .ok tables) :
    ∃ content : Content φ, Kept content ∧ tables = snapshotTables content ∧
      raw = authoritySnapshotBytes content := by
  simp only [decodePreimage, bind_ok, raiseIf_ok] at decoded
  obtain ⟨_, _, value, _, _, _, decoded⟩ := decoded
  split at decoded
  · rename_i items
    simp only [bind_ok, pure_ok, raiseIf_ok] at decoded
    obtain ⟨_, size, returned, each, _, canonical, rfl⟩ := decoded
    obtain ⟨content, kept, rfl, texts⟩ :=
      tables_ok expectedMembers_distinct (not_not.mp size) each
    have chosen : ∀ member ∈ expectedMembers, select content member = content member.table :=
      fun member inside => select_of_ordered (kept member inside).2
    refine ⟨content, fun member inside => (kept member inside).1, ?_, ?_⟩
    · refine List.map_congr_left (fun member inside => ?_)
      rw [chosen member inside]
    · rw [← not_not.mp canonical, authoritySnapshotBytes]
      apply Value.encodeAscii_arr_congr
      rw [texts, List.map_map]
      refine List.map_congr_left (fun member inside => ?_)
      rw [Function.comp_apply, chosen member inside]
  · cases decoded

/-- The text depends on what the decoder returns only. -/
theorem authoritySnapshotBytes_congr {content other : Content φ}
    (same : snapshotTables content = snapshotTables other) :
    authoritySnapshotBytes content = authoritySnapshotBytes other := by
  rw [snapshotTables, snapshotTables] at same
  have each (member : StorageMember) (inside : member ∈ expectedMembers) :
      (select content member).map (·.map canonicalScalar) =
        (select other member).map (·.map canonicalScalar) := by
    have tables := List.map_inj_left.mp same member inside
    exact (AuthoritySnapshotTable.mk.inj tables).2.2
  exact congrArg (fun values => (Value.arr values).encodeAscii)
    (List.map_congr_left (fun member inside => congrArg (tableValue member) (each member inside)))

/-- The decoder returns what the encoder has written in the order of the database, what it accepts
is the text of the content that it returns, and different texts have different contents. -/
theorem preimage_roundTrip [JsonLoads φ] :
    (∀ content : Content φ, Kept content → PlainContent content →
      (authoritySnapshotBytes content).length ≤ maxAuthorityPreimageBytes →
        decodePreimage (authoritySnapshotBytes content) = .ok (snapshotTables content)) ∧
    (∀ (raw : Bytes) (tables : List (AuthoritySnapshotTable φ)),
      decodePreimage raw = .ok tables →
        ∃ content : Content φ, Kept content ∧ tables = snapshotTables content ∧
          raw = authoritySnapshotBytes content) ∧
    (∀ (raw other : Bytes) (tables others : List (AuthoritySnapshotTable φ)),
      decodePreimage raw = .ok tables → decodePreimage other = .ok others →
        (raw = other ↔ tables = others)) := by
  refine ⟨fun _ => decodePreimage_canonical, fun _ _ => decodePreimage_ok, ?_⟩
  intro raw other tables others first second
  constructor
  · intro same
    rw [same] at first
    exact Except.ok.inj (first.symm.trans second)
  · intro same
    obtain ⟨content, _, returned, written⟩ := decodePreimage_ok first
    obtain ⟨copy, _, copied, rewritten⟩ := decodePreimage_ok second
    rw [written, rewritten]
    apply authoritySnapshotBytes_congr
    rw [← returned, ← copied, same]

/-- The numbers halfway between two digits, as floats. -/
@[reducible] def halves : Floats (Fin 10) where
  isfinite _ := true
  exact value := (value.val : ℚ) + 1 / 2
  repr value := toString value.val ++ ".5"

/-- A store with one record. -/
def firstContent (table : String) : List (List (Scalar (Fin 10))) :=
  match table with
  | "records" =>
      [[.text "tenant", .text "record", .text "owner", .null, .blob [0, 255], .integer 1]]
  | "tenant_heads" => [[.text "ténant", .integer (-1)], [.text "tenant", .integer 1]]
  | _ => []

theorem preimage_roundTrip_first : let _ := halves; let _ := jsonValues (Fin 10);
    decodePreimage (authoritySnapshotBytes firstContent) = .ok (snapshotTables firstContent) := by
  intro _ _
  have empty (member : StorageMember) : Stored member ([] : List (List (Scalar (Fin 10)))) :=
    ⟨by simp, by simp, by simp, List.Pairwise.nil⟩
  have kept : Kept firstContent := by
    intro member inside
    simp only [expectedMembers, authorityStorageMembers, List.filter_cons, List.filter_nil,
      Bool.false_eq_true, if_true, if_false, List.mem_cons, List.not_mem_nil, or_false] at inside
    rcases inside with rfl | rfl | rfl | rfl | rfl | rfl
    · exact empty _
    · exact empty _
    · exact empty _
    · have keys : ∀ row ∈ firstContent "records", primaryKey ⟨"records", ["tenant_id", "record_id",
          "owner", "schema_id", "canonical_bytes", "commit_sequence"], true⟩ row =
            [.text "tenant", .text "record"] := by
        intro row inside
        rw [List.mem_singleton.mp inside]
        rfl
      refine ⟨by simp [firstContent], by simp [firstContent, Scalar.Finite], ?_,
        List.pairwise_singleton _ _⟩
      intro row inside
      rw [keys row inside]
      simp
    · exact empty _
    · have apart : ¬ List.Forall₂ Scalar.Same [Scalar.text "ténant"]
          [(Scalar.text "tenant" : Scalar (Fin 10))] := by
        have keys : (Scalar.text "ténant" : Scalar (Fin 10)).key ≠
            (Scalar.text "tenant" : Scalar (Fin 10)).key := by
          decide +kernel
        intro same
        exact keys ((Scalar.same_iff _ _).mp (List.forall₂_cons.mp same).1)
      refine ⟨by simp [firstContent], by simp [firstContent, Scalar.Finite], ?_, ?_⟩
      · intro row inside
        rcases List.mem_pair.mp inside with rfl | rfl
        · change ∀ scalar ∈ [Scalar.text "ténant"], _
          simp
        · change ∀ scalar ∈ [Scalar.text "tenant"], _
          simp
      · exact List.pairwise_pair.mpr apart
  have plain : PlainContent firstContent := by
    simp [PlainContent, expectedMembers, authorityStorageMembers, firstContent, Scalar.Plain]
  refine (preimage_roundTrip).1 firstContent kept plain ?_
  have size := Json.encodeAscii_le_extent (document firstContent)
  have small : (document firstContent).extent ≤ 200000 := by decide +kernel
  rw [document_text plain] at size
  exact (size.trans small).trans (by decide)

end Chiplog.Platform.AuthorityCheckpoint
