import Chiplog.Data.Dict
import Chiplog.Platform.Postgres

namespace Chiplog.Platform

open Chiplog.Data

/-! The tables behind a user's publication log.

Rows are kept in the order of their insertion.  A statement that meets a taken unique key
fails, and with it the transaction; the lock on `user_state` lets one writing transaction in
at a time. -/

variable {β : Type}

structure PublicationRow where
  operation : String
  idempotencyKey : String
  fingerprint : String
  sequence : Nat
  recordIds : List String
deriving DecidableEq

structure RecordRow (β : Type) where
  record : Record β
  sequence : Nat
deriving DecidableEq

/-- `user_state.head`, `publications` and `records`. -/
structure Tables (β : Type) where
  head : Nat
  publications : List PublicationRow
  records : List (RecordRow β)

namespace Tables

/-- A provisioned user database. -/
def empty : Tables β := ⟨0, [], []⟩

/-- The records by their identity, with the sequence each is stored under. -/
def physical (tables : Tables β) : Dict String (RecordRow β) :=
  .ofRows (fun row => row.record.recordId) id tables.records

/-- The loop state of `_snapshot`. -/
structure Reading (β : Type) where
  seen : List String
  batches : List (Batch β)

/-- One publication of `_snapshot`. -/
def readPublication (physical : Dict String (RecordRow β)) (reading : Reading β)
    (row : PublicationRow) : Transaction (Reading β) := do
  require (row.recordIds ≠ [] ∧ row.recordIds.Nodup ∧ ∀ recordId ∈ row.recordIds,
      recordId ∉ reading.seen ∧
        (physical.get? recordId).map RecordRow.sequence = some row.sequence)
    (.corrupt "incomplete publication membership")
  return ⟨reading.seen ++ row.recordIds, reading.batches ++
    [⟨row.operation, row.idempotencyKey, row.fingerprint, row.sequence,
      (row.recordIds.filterMap physical.get?).map RecordRow.record⟩]⟩

/-- `publications ORDER BY sequence`. -/
def ordered (tables : Tables β) : List PublicationRow :=
  tables.publications.mergeSort (fun left right => left.sequence ≤ right.sequence)

/-- `_snapshot`. -/
def snapshot (tables : Tables β) : Transaction (Snapshot β) := do
  let reading ← tables.ordered.foldlM (readPublication tables.physical) ⟨[], []⟩
  require ((∀ recordId ∈ reading.seen, (tables.physical.get? recordId).isSome) ∧
      (∀ recordId ∈ tables.records.map (fun row : RecordRow β => row.record.recordId),
        recordId ∈ reading.seen) ∧
      reading.batches.map Batch.sequence = List.range' 1 tables.head)
    (.corrupt "publication sequence or orphan record mismatch")
  return ⟨tables.head, reading.batches⟩

/-- `INSERT INTO publications`. -/
def insertPublication (tables : Tables β) (row : PublicationRow) : Transaction (Tables β) := do
  require (∀ other ∈ tables.publications,
      (other.operation, other.idempotencyKey) ≠ (row.operation, row.idempotencyKey))
    (.uniqueViolation "publications_pkey")
  require (∀ other ∈ tables.publications, other.sequence ≠ row.sequence)
    (.uniqueViolation "publications_sequence_key")
  return { tables with publications := tables.publications ++ [row] }

/-- `INSERT INTO records`. -/
def insertRecord (sequence : Nat) (tables : Tables β) (record : Record β) :
    Transaction (Tables β) := do
  require (∀ other ∈ tables.records, other.record.recordId ≠ record.recordId)
    (.uniqueViolation "records_pkey")
  return { tables with records := tables.records ++ [⟨record, sequence⟩] }

/-- `append` on the caller's locked transaction. -/
def append (tables : Tables β) (operation key fingerprint : String) (records : List (Record β))
    (expectedHead : Nat) : Transaction (Tables β) := do
  let sequence := expectedHead + 1
  let tables ← tables.insertPublication
    ⟨operation, key, fingerprint, sequence, records.map Record.recordId⟩
  let tables ← records.foldlM (insertRecord sequence) tables
  return { tables with head := sequence }

/-- `if guard is not None: guard(self._snapshot(connection))`. -/
def guarded (tables : Tables β) : Option (Snapshot β → Transaction Unit) → Transaction Unit
  | none => .ok ()
  | some guard => tables.snapshot >>= guard

/-- `publish`; an expected head below zero is the head of no log. -/
def publish [DecidableEq β] (tables : Tables β) (operation key fingerprint : String)
    (records : List (Record β)) (expectedHead : Int)
    (guard : Option (Snapshot β → Transaction Unit)) :
    Transaction (Tables β × PublicationResult) := do
  require (records ≠ [] ∧ (records.map Record.recordId).Nodup)
    (.value "batch records must be nonempty and unique")
  match tables.publications.find? (fun row =>
      (row.operation, row.idempotencyKey) = (operation, key)) with
  | some previous => do
      let current ← tables.snapshot
      match current.batches.find? (fun batch => batch.sequence = previous.sequence) with
      | none => .error (.unexpected "StopIteration")
      | some batch =>
          let same := batch.fingerprint = fingerprint ∧ batch.records = records
          return (tables, ⟨if same then .replay else .conflict, some batch.sequence⟩)
  | none =>
      if (tables.head : Int) ≠ expectedHead then return (tables, ⟨.stale, none⟩)
      else do
        tables.guarded guard
        let appended ← tables.append operation key fingerprint records tables.head
        return (appended, ⟨.committed, some (tables.head + 1)⟩)

end Tables

/-- A user database with the working state of the transaction that holds the lock. -/
structure LogStore (β : Type) where
  committed : Tables β
  locked : Option (Tables β)

def LogStore.initial : LogStore β := ⟨.empty, none⟩

/-- A publication is one transaction; a larger one takes the lock, appends any number of
times at a head it has read, and commits or is rolled back as a whole. -/
inductive LogStore.Step [DecidableEq β] : LogStore β → LogStore β → Prop
  | publish {committed after : Tables β} {operation key fingerprint : String}
      {records : List (Record β)} {expectedHead : Int}
      {guard : Option (Snapshot β → Transaction Unit)} {result : PublicationResult}
      (returned : committed.publish operation key fingerprint records expectedHead guard =
        .ok (after, result)) : Step ⟨committed, none⟩ ⟨after, none⟩
  | lock {committed : Tables β} : Step ⟨committed, none⟩ ⟨committed, some committed⟩
  | append {committed working after : Tables β} {operation key fingerprint : String}
      {records : List (Record β)} {readHead : Nat} (nonempty : records ≠ [])
      (read : committed.head ≤ readHead ∧ readHead ≤ working.head)
      (appended : working.append operation key fingerprint records readHead = .ok after) :
      Step ⟨committed, some working⟩ ⟨committed, some after⟩
  | commit {committed working : Tables β} : Step ⟨committed, some working⟩ ⟨working, none⟩
  | rollback {committed working : Tables β} : Step ⟨committed, some working⟩ ⟨committed, none⟩

inductive LogStore.Run [DecidableEq β] (start : LogStore β) : LogStore β → Prop
  | start : Run start start
  | step {before after : LogStore β} (run : Run start before) (step : LogStore.Step before after) :
      Run start after

end Chiplog.Platform

namespace Chiplog.Platform

open Chiplog.Data

/-! The publication log as its reader sees it.

Every committed state of the tables is the image of a valid snapshot: each appended batch
adds its publication row and its record rows together, so the reader's membership, order and
sequence checks hold of whatever the two write paths leave behind. -/

variable {β : Type} {snapshot : Snapshot β}

def Batch.row (batch : Batch β) : PublicationRow :=
  ⟨batch.operation, batch.idempotencyKey, batch.fingerprint, batch.sequence, batch.recordIds⟩

def Batch.rows (batch : Batch β) : List (RecordRow β) :=
  batch.records.map (fun record => ⟨record, batch.sequence⟩)

/-- The tables that store a snapshot. -/
def Tables.of (snapshot : Snapshot β) : Tables β :=
  ⟨snapshot.head, snapshot.batches.map Batch.row, snapshot.batches.flatMap Batch.rows⟩

/-- A snapshot that the two write paths can leave behind. -/
structure Snapshot.Stored (snapshot : Snapshot β) : Prop where
  valid : snapshot.Valid
  full : ∀ batch ∈ snapshot.batches, batch.records ≠ []

theorem rows_recordIds (batches : List (Batch β)) :
    (batches.flatMap Batch.rows).map (fun row : RecordRow β => row.record.recordId) =
      batches.flatMap Batch.recordIds := by
  induction batches with
  | nil => rfl
  | cons batch rest ih =>
      rw [List.flatMap_cons, List.map_append, ih, List.flatMap_cons, Batch.rows, Batch.recordIds,
        List.map_map]
      rfl

/-! Reading the tables back. -/

theorem ordered_of (valid : snapshot.Valid) :
    (Tables.of snapshot).ordered = snapshot.batches.map Batch.row := by
  unfold Tables.ordered
  apply List.mergeSort_of_pairwise
  have increasing : (snapshot.batches.map Batch.sequence).Pairwise (· < ·) := by
    rw [valid.numbered]
    exact List.pairwise_lt_range' ..
  rw [List.pairwise_map] at increasing
  change (snapshot.batches.map Batch.row).Pairwise _
  rw [List.pairwise_map]
  apply increasing.imp
  intro left right before
  exact decide_eq_true (Nat.le_of_lt before)

/-- Each record of the log is found under its identity. -/
theorem physical_of (valid : snapshot.Valid) {batch : Batch β}
    {record : Record β} (member : batch ∈ snapshot.batches) (inside : record ∈ batch.records) :
    (Tables.of snapshot).physical.get? record.recordId = some ⟨record, batch.sequence⟩ := by
  have row : (⟨record, batch.sequence⟩ : RecordRow β) ∈ snapshot.batches.flatMap Batch.rows :=
    List.mem_flatMap.mpr ⟨batch, member, List.mem_map_of_mem inside⟩
  have distinct : ((snapshot.batches.flatMap Batch.rows).map
      (fun row : RecordRow β => row.record.recordId)).Nodup := by
    rw [rows_recordIds]
    exact valid.distinct
  exact Dict.get?_ofRows_of_nodup (fun row : RecordRow β => row.record.recordId) id distinct row

theorem physical_batch (valid : snapshot.Valid) {batch : Batch β}
    (member : batch ∈ snapshot.batches) :
    (batch.recordIds.filterMap (Tables.of snapshot).physical.get?).map RecordRow.record =
      batch.records := by
  have found (records : List (Record β)) (inside : ∀ record ∈ records, record ∈ batch.records) :
      ((records.map Record.recordId).filterMap (Tables.of snapshot).physical.get?).map
        RecordRow.record = records := by
    induction records with
    | nil => rfl
    | cons record rest ih =>
        rw [List.map_cons, List.filterMap_cons_some
          (physical_of valid member (inside record List.mem_cons_self)), List.map_cons,
          ih (fun other later => inside other (List.mem_cons_of_mem _ later))]
  exact found batch.records (fun _ inside => inside)

/-- One publication of the reader, with the batches before it read already. -/
theorem readPublication_of (stored : snapshot.Stored)
    {front rest : List (Batch β)} {batch : Batch β}
    (split : snapshot.batches = front ++ batch :: rest) :
    Tables.readPublication (Tables.of snapshot).physical
        ⟨front.flatMap Batch.recordIds, front⟩ batch.row =
      .ok ⟨(front ++ [batch]).flatMap Batch.recordIds, front ++ [batch]⟩ := by
  have member : batch ∈ snapshot.batches := by simp [split]
  have distinct := stored.valid.distinct
  rw [Snapshot.recordIds, split, List.flatMap_append, List.flatMap_cons] at distinct
  obtain ⟨_, later, apart⟩ := List.nodup_append.mp distinct
  have checks : batch.row.recordIds ≠ [] ∧ batch.row.recordIds.Nodup ∧
      ∀ recordId ∈ batch.row.recordIds, recordId ∉ front.flatMap Batch.recordIds ∧
        ((Tables.of snapshot).physical.get? recordId).map RecordRow.sequence =
          some batch.row.sequence := by
    refine ⟨?_, (List.nodup_append.mp later).1, ?_⟩
    · intro none
      exact stored.full batch member (List.map_eq_nil_iff.mp none)
    · intro recordId inside
      refine ⟨fun seen => apart _ seen _ (List.mem_append_left _ inside) rfl, ?_⟩
      obtain ⟨record, isRecord, rfl⟩ := List.mem_map.mp inside
      rw [physical_of stored.valid member isRecord]
      rfl
  unfold Tables.readPublication
  rw [require_pos checks, ok_bind]
  have records := physical_batch stored.valid member
  simp only [Batch.row, records, List.flatMap_append, List.flatMap_cons, List.flatMap_nil,
    List.append_nil]
  rfl

theorem readPublications_of (stored : snapshot.Stored)
    (front rest : List (Batch β)) (split : snapshot.batches = front ++ rest) :
    (rest.map Batch.row).foldlM (Tables.readPublication (Tables.of snapshot).physical)
        ⟨front.flatMap Batch.recordIds, front⟩ =
      .ok ⟨snapshot.recordIds, snapshot.batches⟩ := by
  induction rest generalizing front with
  | nil =>
      rw [List.append_nil] at split
      subst split
      rfl
  | cons batch rest ih =>
      rw [List.map_cons, List.foldlM_cons, readPublication_of stored split, ok_bind]
      exact ih (front ++ [batch]) (by simp [split])

/-- The reader returns the snapshot that is stored. -/
theorem snapshot_of (stored : snapshot.Stored) :
    (Tables.of snapshot).snapshot = .ok snapshot := by
  have looped := readPublications_of stored [] snapshot.batches rfl
  have known : ∀ recordId ∈ snapshot.recordIds,
      ((Tables.of snapshot).physical.get? recordId).isSome := by
    intro recordId inside
    obtain ⟨batch, member, inside⟩ := List.mem_flatMap.mp inside
    obtain ⟨record, isRecord, rfl⟩ := List.mem_map.mp inside
    rw [physical_of stored.valid member isRecord]
    rfl
  have seen : ∀ recordId ∈ (Tables.of snapshot).records.map
      (fun row : RecordRow β => row.record.recordId), recordId ∈ snapshot.recordIds := by
    intro recordId inside
    rw [Tables.of, rows_recordIds] at inside
    exact inside
  unfold Tables.snapshot
  rw [ordered_of stored.valid]
  change ((snapshot.batches.map Batch.row).foldlM
    (Tables.readPublication (Tables.of snapshot).physical)
      ⟨([] : List (Batch β)).flatMap Batch.recordIds, []⟩ >>= _) = _
  rw [looped, ok_bind, require_pos ⟨known, seen, stored.valid.numbered⟩]
  rfl

/-! The two write paths. -/

theorem insertRecord_ok {tables after : Tables β} {sequence : Nat} {record : Record β}
    (inserted : Tables.insertRecord sequence tables record = .ok after) :
    record.recordId ∉ tables.records.map (fun row : RecordRow β => row.record.recordId) ∧
      after = { tables with records := tables.records ++ [⟨record, sequence⟩] } := by
  simp only [Tables.insertRecord, bind_ok, require_ok, pure_ok] at inserted
  obtain ⟨_, fresh, rfl⟩ := inserted
  refine ⟨?_, rfl⟩
  intro member
  obtain ⟨row, inside, same⟩ := List.mem_map.mp member
  exact fresh row inside same

theorem insertRecords_ok {tables after : Tables β} {sequence : Nat} {records : List (Record β)}
    (distinct : (tables.records.map (fun row : RecordRow β => row.record.recordId)).Nodup)
    (inserted : records.foldlM (Tables.insertRecord sequence) tables = .ok after) :
    after = { tables with
        records := tables.records ++ records.map (fun record => ⟨record, sequence⟩) } ∧
      (tables.records.map (fun row : RecordRow β => row.record.recordId) ++
        records.map Record.recordId).Nodup := by
  induction records generalizing tables with
  | nil =>
      cases inserted
      simpa using distinct
  | cons record rest ih =>
      rw [List.foldlM_cons] at inserted
      obtain ⟨between, first, inserted⟩ := bind_ok.mp inserted
      obtain ⟨fresh, rfl⟩ := insertRecord_ok first
      have longer : ((tables.records ++ [(⟨record, sequence⟩ : RecordRow β)]).map
          (fun row : RecordRow β => row.record.recordId)).Nodup := by
        rw [List.map_append, List.map_singleton]
        apply List.nodup_append.mpr ⟨distinct, List.nodup_singleton _, ?_⟩
        intro id earlier other last same
        rw [same, List.mem_singleton.mp last] at earlier
        exact fresh earlier
      obtain ⟨rfl, all⟩ := ih longer inserted
      refine ⟨by simp, ?_⟩
      simpa using all

/-- An append to a stored snapshot is the append of the snapshot. -/
theorem append_of {after : Tables β} {operation key fingerprint : String}
    {records : List (Record β)} {expectedHead : Nat} (stored : snapshot.Stored)
    (nonempty : records ≠ [])
    (appended : (Tables.of snapshot).append operation key fingerprint records expectedHead =
      .ok after) (read : expectedHead ≤ snapshot.head) :
    expectedHead = snapshot.head ∧ ∃ grown, grown.Stored ∧ after = Tables.of grown ∧
      snapshot.append operation key fingerprint records snapshot.head = .ok grown := by
  obtain ⟨between, published, appended⟩ := bind_ok.mp appended
  simp only [Tables.insertPublication, bind_ok, require_ok, pure_ok] at published
  obtain ⟨_, newKey, _, newSequence, rfl⟩ := published
  obtain ⟨written, inserted, appended⟩ := bind_ok.mp appended
  have distinct : ((Tables.of snapshot).records.map
      (fun row : RecordRow β => row.record.recordId)).Nodup := by
    rw [Tables.of, rows_recordIds]
    exact stored.valid.distinct
  obtain ⟨rfl, all⟩ := insertRecords_ok (by exact distinct) inserted
  cases appended
  have fresh : (operation, key) ∉ snapshot.batches.map Batch.identity := by
    intro member
    obtain ⟨batch, inside, same⟩ := List.mem_map.mp member
    exact newKey batch.row (List.mem_map_of_mem inside) same
  have unused : expectedHead + 1 ∉ snapshot.batches.map Batch.sequence := by
    intro member
    obtain ⟨batch, inside, same⟩ := List.mem_map.mp member
    exact newSequence batch.row (List.mem_map_of_mem inside) same
  have current : expectedHead = snapshot.head := by
    rw [stored.valid.numbered, List.mem_range'_1] at unused
    omega
  subst current
  rw [Tables.of, rows_recordIds] at all
  change (snapshot.recordIds ++ _).Nodup at all
  have result : snapshot.append operation key fingerprint records snapshot.head =
      .ok ⟨snapshot.head + 1, snapshot.batches ++
        [⟨operation, key, fingerprint, snapshot.head + 1, records⟩]⟩ := by
    unfold Snapshot.append
    rw [require_pos fresh, ok_bind, require_pos unused, ok_bind, require_pos all]
    rfl
  refine ⟨rfl, _, ⟨Snapshot.append_valid stored.valid result, ?_⟩, ?_, result⟩
  · intro batch member
    rcases List.mem_append.mp member with earlier | last
    · exact stored.full batch earlier
    · rw [List.mem_singleton.mp last]
      exact nonempty
  · simp [Tables.of, Batch.row, Batch.rows, Batch.recordIds]

section Publish

variable [DecidableEq β] {snapshot : Snapshot β} {operation key fingerprint : String}
  {records : List (Record β)} {expectedHead : Int} {guard : Option (Snapshot β → Transaction Unit)}
  {result : PublicationResult}

/-- What `publish` asks of the records before it connects. -/
abbrev Admissible (records : List (Record β)) : Prop :=
  records ≠ [] ∧ (records.map Record.recordId).Nodup

omit [DecidableEq β] in
theorem find_of (snapshot : Snapshot β) (operation key : String) :
    (Tables.of snapshot).publications.find? (fun row =>
      (row.operation, row.idempotencyKey) = (operation, key)) =
        (snapshot.published operation key).map Batch.row := by
  change (snapshot.batches.map Batch.row).find? _ = _
  rw [List.find?_map]
  rfl

/-- A known key answers with the disposition of its batch. -/
theorem publish_known {batch : Batch β} (stored : snapshot.Stored)
    (admissible : Admissible records)
    (known : snapshot.published operation key = some batch) :
    (Tables.of snapshot).publish operation key fingerprint records expectedHead guard =
      .ok (Tables.of snapshot,
        ⟨if batch.fingerprint = fingerprint ∧ batch.records = records then .replay
          else .conflict, some batch.sequence⟩) := by
  have member := List.mem_of_find?_eq_some known
  have numbered : (snapshot.batches.map Batch.sequence).Nodup := by
    rw [stored.valid.numbered]
    exact List.nodup_range'
  have found : snapshot.batches.find? (fun other => other.sequence = batch.row.sequence) =
      some batch := by
    cases other : snapshot.batches.find? (fun other => other.sequence = batch.row.sequence) with
    | none =>
        have absent := List.find?_eq_none.mp other batch member
        exact absurd (decide_eq_true rfl) absent
    | some first =>
        have inside := List.mem_of_find?_eq_some other
        have same := List.find?_some other
        rw [List.inj_on_of_nodup_map numbered inside member (of_decide_eq_true same)]
  unfold Tables.publish
  rw [require_pos admissible, ok_bind, find_of, known, Option.map_some]
  dsimp only
  rw [snapshot_of stored, ok_bind, found]
  rfl

theorem publish_stale (admissible : Admissible records)
    (fresh : snapshot.published operation key = none)
    (moved : (snapshot.head : Int) ≠ expectedHead) :
    (Tables.of snapshot).publish operation key fingerprint records expectedHead guard =
      .ok (Tables.of snapshot, ⟨.stale, none⟩) := by
  have moved : ((Tables.of snapshot).head : Int) ≠ expectedHead := moved
  unfold Tables.publish
  rw [require_pos admissible, ok_bind, find_of, fresh, Option.map_none]
  dsimp only
  rw [if_pos moved]
  rfl

/-- A fresh key at the current head is committed, or the call raises. -/
theorem publish_current {after : Tables β}
    (stored : snapshot.Stored) (fresh : snapshot.published operation key = none)
    (current : (snapshot.head : Int) = expectedHead)
    (returned : (Tables.of snapshot).publish operation key fingerprint records expectedHead
      guard = .ok (after, result)) :
    result.disposition = .committed ∧ ∃ grown, grown.Stored ∧ after = Tables.of grown ∧
      snapshot.append operation key fingerprint records snapshot.head = .ok grown := by
  obtain ⟨_, admissible, returned⟩ := bind_ok.mp returned
  have admissible := require_ok.mp admissible
  have current : ¬ ((Tables.of snapshot).head : Int) ≠ expectedHead := not_not.mpr current
  rw [find_of, fresh, Option.map_none] at returned
  dsimp only at returned
  rw [if_neg current] at returned
  obtain ⟨_, _, returned⟩ := bind_ok.mp returned
  obtain ⟨appended, added, returned⟩ := bind_ok.mp returned
  cases returned
  exact ⟨rfl, (append_of stored admissible.1 added (Nat.le_refl _)).2⟩

theorem publish_admissible {tables after : Tables β}
    (returned : tables.publish operation key fingerprint records expectedHead guard =
      .ok (after, result)) : Admissible records := by
  obtain ⟨_, admissible, _⟩ := bind_ok.mp returned
  exact require_ok.mp admissible

/-- A publication that returned left the log as it was or appended its batch. -/
theorem publish_stored {after : Tables β} (stored : snapshot.Stored)
    (returned : (Tables.of snapshot).publish operation key fingerprint records expectedHead
      guard = .ok (after, result)) :
    ∃ grown, grown.Stored ∧ after = Tables.of grown ∧ snapshot.Extends grown ∧
      (result.disposition ≠ .committed → grown = snapshot) := by
  have admissible := publish_admissible returned
  cases known : snapshot.published operation key with
  | some batch =>
      rw [publish_known stored admissible known] at returned
      cases returned
      exact ⟨snapshot, stored, rfl, .refl _, fun _ => rfl⟩
  | none =>
      by_cases current : (snapshot.head : Int) = expectedHead
      · obtain ⟨committed, grown, later, rfl, appended⟩ :=
          publish_current stored known current returned
        exact ⟨grown, later, rfl, Snapshot.append_extends appended,
          fun other => absurd committed other⟩
      · rw [publish_stale admissible known current] at returned
        cases returned
        exact ⟨snapshot, stored, rfl, .refl _, fun _ => rfl⟩

omit [DecidableEq β] in
/-- The batch that was committed under a key. -/
theorem published_iff {batch : Batch β} (valid : snapshot.Valid) :
    snapshot.published operation key = some batch ↔
      batch ∈ snapshot.batches ∧ batch.identity = (operation, key) := by
  constructor
  · intro known
    have identity := List.find?_some known
    exact ⟨List.mem_of_find?_eq_some known, of_decide_eq_true identity⟩
  · rintro ⟨member, identity⟩
    cases known : snapshot.published operation key with
    | none =>
        exact absurd (List.mem_map.mpr ⟨batch, member, identity⟩)
          (Snapshot.published_none.mp known)
    | some first =>
        have found := List.find?_some known
        have same := (of_decide_eq_true found).trans identity.symm
        rw [List.inj_on_of_nodup_map valid.identified (List.mem_of_find?_eq_some known) member
          same]

/-- A replay answers for the very batch that was committed. -/
theorem publish_replay_iff {sequence : Option Nat} (stored : snapshot.Stored) :
    (∃ after, (Tables.of snapshot).publish operation key fingerprint records expectedHead guard =
        .ok (after, ⟨.replay, sequence⟩)) ↔
      ∃ batch ∈ snapshot.batches, batch.identity = (operation, key) ∧
        batch.fingerprint = fingerprint ∧ batch.records = records ∧
          sequence = some batch.sequence := by
  constructor
  · rintro ⟨after, returned⟩
    have admissible := publish_admissible returned
    cases known : snapshot.published operation key with
    | some batch =>
        rw [publish_known stored admissible known] at returned
        by_cases same : batch.fingerprint = fingerprint ∧ batch.records = records
        · rw [if_pos same] at returned
          cases returned
          obtain ⟨member, identity⟩ := (published_iff stored.valid).mp known
          exact ⟨batch, member, identity, same.1, same.2, rfl⟩
        · rw [if_neg same] at returned
          cases returned
    | none =>
        by_cases current : (snapshot.head : Int) = expectedHead
        · obtain ⟨committed, _⟩ := publish_current stored known current returned
          cases committed
        · rw [publish_stale admissible known current] at returned
          cases returned
  · rintro ⟨batch, member, identity, rfl, rfl, rfl⟩
    have admissible : Admissible batch.records := by
      refine ⟨stored.full batch member, ?_⟩
      obtain ⟨front, rest, split⟩ := List.append_of_mem member
      have distinct := stored.valid.distinct
      rw [Snapshot.recordIds, split, List.flatMap_append, List.flatMap_cons] at distinct
      exact (List.nodup_append.mp (List.nodup_append.mp distinct).2.1).1
    have known := (published_iff stored.valid).mpr ⟨member, identity⟩
    exact ⟨_, (publish_known stored admissible known).trans (by rw [if_pos ⟨rfl, rfl⟩])⟩

theorem publish_conflict_iff (stored : snapshot.Stored) (admissible : Admissible records) :
    (∃ after sequence, (Tables.of snapshot).publish operation key fingerprint records
        expectedHead guard = .ok (after, ⟨.conflict, sequence⟩)) ↔
      ∃ batch ∈ snapshot.batches, batch.identity = (operation, key) ∧
        ¬(batch.fingerprint = fingerprint ∧ batch.records = records) := by
  constructor
  · rintro ⟨after, sequence, returned⟩
    cases known : snapshot.published operation key with
    | some batch =>
        rw [publish_known stored admissible known] at returned
        by_cases same : batch.fingerprint = fingerprint ∧ batch.records = records
        · rw [if_pos same] at returned
          cases returned
        · obtain ⟨member, identity⟩ := (published_iff stored.valid).mp known
          exact ⟨batch, member, identity, same⟩
    | none =>
        by_cases current : (snapshot.head : Int) = expectedHead
        · obtain ⟨committed, _⟩ := publish_current stored known current returned
          cases committed
        · rw [publish_stale admissible known current] at returned
          cases returned
  · rintro ⟨batch, member, identity, differs⟩
    have known := (published_iff stored.valid).mpr ⟨member, identity⟩
    exact ⟨_, _, (publish_known stored admissible known).trans (by rw [if_neg differs])⟩

theorem publish_stale_iff (stored : snapshot.Stored) (admissible : Admissible records) :
    (∃ after sequence, (Tables.of snapshot).publish operation key fingerprint records
        expectedHead guard = .ok (after, ⟨.stale, sequence⟩)) ↔
      (operation, key) ∉ snapshot.batches.map Batch.identity ∧
        (snapshot.head : Int) ≠ expectedHead := by
  constructor
  · rintro ⟨after, sequence, returned⟩
    cases known : snapshot.published operation key with
    | some batch =>
        rw [publish_known stored admissible known] at returned
        by_cases same : batch.fingerprint = fingerprint ∧ batch.records = records
        · rw [if_pos same] at returned
          cases returned
        · rw [if_neg same] at returned
          cases returned
    | none =>
        refine ⟨Snapshot.published_none.mp known, fun current => ?_⟩
        obtain ⟨committed, _⟩ := publish_current stored known current returned
        cases committed
  · rintro ⟨fresh, moved⟩
    exact ⟨_, _, publish_stale admissible (Snapshot.published_none.mpr fresh) moved⟩

end Publish

/-! Runs of both write paths. -/

/-- Every committed state stores a snapshot, and so does the state of the transaction that
holds the lock, whose snapshot extends it. -/
def LogStore.Sound (store : LogStore β) (snapshot : Snapshot β) : Prop :=
  snapshot.Stored ∧ store.committed = Tables.of snapshot ∧
    ∀ working, store.locked = some working →
      ∃ grown, grown.Stored ∧ working = Tables.of grown ∧ snapshot.Extends grown

theorem initial_sound : (LogStore.initial : LogStore β).Sound .empty := by
  refine ⟨⟨Snapshot.valid_empty, ?_⟩, rfl, ?_⟩
  · intro batch member
    cases member
  · intro working locked
    cases locked

variable [DecidableEq β]

theorem LogStore.Step.sound {before after : LogStore β} {snapshot : Snapshot β}
    (step : LogStore.Step before after) (sound : before.Sound snapshot) :
    ∃ later, after.Sound later ∧ snapshot.Extends later := by
  obtain ⟨stored, committed, working⟩ := sound
  cases step with
  | publish returned =>
      obtain rfl := committed
      obtain ⟨grown, later, rfl, extended, _⟩ := publish_stored stored returned
      refine ⟨grown, ⟨later, rfl, ?_⟩, extended⟩
      intro other locked
      cases locked
  | lock =>
      refine ⟨snapshot, ⟨stored, committed, ?_⟩, .refl _⟩
      intro other locked
      cases locked
      exact ⟨snapshot, stored, committed, .refl _⟩
  | @append _ _ _ _ _ _ _ readHead nonempty read appended =>
      obtain ⟨grown, later, rfl, extended⟩ := working _ rfl
      obtain ⟨_, next, nextStored, rfl, added⟩ := append_of later nonempty appended read.2
      refine ⟨snapshot, ⟨stored, committed, ?_⟩, .refl _⟩
      intro other locked
      cases locked
      exact ⟨next, nextStored, rfl, extended.trans (Snapshot.append_extends added)⟩
  | commit =>
      obtain ⟨grown, later, rfl, extended⟩ := working _ rfl
      refine ⟨grown, ⟨later, rfl, ?_⟩, extended⟩
      intro other locked
      cases locked
  | rollback =>
      refine ⟨snapshot, ⟨stored, committed, ?_⟩, .refl _⟩
      intro other locked
      cases locked

theorem LogStore.Run.sound {start store : LogStore β} {snapshot : Snapshot β}
    (run : LogStore.Run start store) (sound : start.Sound snapshot) :
    ∃ later, store.Sound later ∧ snapshot.Extends later := by
  induction run with
  | start => exact ⟨snapshot, sound, .refl _⟩
  | step _ step ih =>
      obtain ⟨between, reached, extended⟩ := ih
      obtain ⟨later, next, further⟩ := step.sound reached
      exact ⟨later, next, extended.trans further⟩

/-- Whatever the two write paths commit reads as a numbered log that only grows, and a
publication answers from what was committed under its key. -/
theorem log_store_sound {store later : LogStore β} (run : LogStore.Run .initial store)
    (rest : LogStore.Run store later) :
    ∃ snapshot grown, store.committed.snapshot = .ok snapshot ∧
      later.committed.snapshot = .ok grown ∧
      snapshot.batches.map Batch.sequence = List.range' 1 snapshot.head ∧
      snapshot.batches <+: grown.batches ∧
      ∀ (operation key fingerprint : String) (records : List (Record β)) (expectedHead : Int)
        (guard : Option (Snapshot β → Transaction Unit)),
        (∀ after result, store.committed.publish operation key fingerprint records expectedHead
            guard = .ok (after, result) → result.disposition ≠ .committed →
          after = store.committed) ∧
        (∀ sequence, (∃ after, store.committed.publish operation key fingerprint records
            expectedHead guard = .ok (after, ⟨.replay, sequence⟩)) ↔
          ∃ batch ∈ snapshot.batches, batch.identity = (operation, key) ∧
            batch.fingerprint = fingerprint ∧ batch.records = records ∧
              sequence = some batch.sequence) ∧
        (Admissible records →
          ((∃ after sequence, store.committed.publish operation key fingerprint records
              expectedHead guard = .ok (after, ⟨.conflict, sequence⟩)) ↔
            ∃ batch ∈ snapshot.batches, batch.identity = (operation, key) ∧
              ¬(batch.fingerprint = fingerprint ∧ batch.records = records)) ∧
          ((∃ after sequence, store.committed.publish operation key fingerprint records
              expectedHead guard = .ok (after, ⟨.stale, sequence⟩)) ↔
            (operation, key) ∉ snapshot.batches.map Batch.identity ∧
              (snapshot.head : Int) ≠ expectedHead)) := by
  obtain ⟨snapshot, ⟨stored, committed, working⟩, _⟩ := run.sound initial_sound
  obtain ⟨grown, ⟨later, laterCommitted, _⟩, extended⟩ :=
    rest.sound ⟨stored, committed, working⟩
  refine ⟨snapshot, grown, ?_, ?_, stored.valid.numbered, extended, ?_⟩
  · rw [committed, snapshot_of stored]
  · rw [laterCommitted, snapshot_of later]
  · intro operation key fingerprint records expectedHead guard
    rw [committed]
    refine ⟨?_, fun sequence => publish_replay_iff stored, fun admissible =>
      ⟨publish_conflict_iff stored admissible, publish_stale_iff stored admissible⟩⟩
    intro after result returned other
    obtain ⟨_, _, rfl, _, same⟩ := publish_stored stored returned
    rw [same other]

def sampleLog : Snapshot Bytes :=
  ⟨1, [⟨"write", "key-1", "print-1", 1, [⟨"record-1", "owner", [7]⟩]⟩]⟩

/-- One publication, and the same command again. -/
theorem log_store_sound_published :
    ∃ (store : LogStore Bytes) (after : Tables Bytes), LogStore.Run .initial store ∧
      store.committed.publish "write" "key-1" "print-1" [⟨"record-1", "owner", [7]⟩] 0 none =
        .ok (after, ⟨.replay, some 1⟩) := by
  have published : (Tables.empty : Tables Bytes).publish "write" "key-1" "print-1"
      [⟨"record-1", "owner", [7]⟩] 0 none = .ok (Tables.of sampleLog, ⟨.committed, some 1⟩) := by
    rfl
  have begin : LogStore.Run .initial (.initial : LogStore Bytes) := .start
  have run := begin.step (.publish published)
  obtain ⟨snapshot, _, read, _, _, _, answers⟩ := log_store_sound run .start
  have stored : sampleLog.Stored := by
    refine ⟨⟨rfl, by decide, by decide⟩, ?_⟩
    intro batch member
    rw [List.mem_singleton.mp member]
    nofun
  have known : sampleLog = snapshot := Except.ok.inj ((snapshot_of stored).symm.trans read)
  obtain ⟨after, replayed⟩ := ((answers "write" "key-1" "print-1"
    [⟨"record-1", "owner", [7]⟩] 0 none).2.1 (some 1)).mpr (by
      rw [← known]
      exact ⟨_, List.mem_cons_self, rfl, rfl, rfl, rfl⟩)
  exact ⟨_, after, run, replayed⟩

end Chiplog.Platform
