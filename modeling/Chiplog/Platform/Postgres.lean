import Chiplog.Data.Checked
import Chiplog.Data.Json

namespace Chiplog.Platform

open Chiplog.Data

/-! One user's publication log.

A transaction holds the row lock on `user_state`, so it reads the whole log, appends at
most one batch at the head it read, and is rolled back as a whole when a unique key is
taken.  `β` is what a record stores. -/

/-- Schema identifier and canonical bytes of stored contents. -/
class Content (β : Type) where
  schemaId : β → String
  bytes : β → Bytes
  raw : String → Bytes → β
  schemaId_raw : ∀ schema stored, schemaId (raw schema stored) = schema
  bytes_raw : ∀ schema stored, bytes (raw schema stored) = stored

structure Record (β : Type) where
  recordId : String
  owner : String
  content : β
deriving DecidableEq

def Record.schemaId [Content β] (record : Record β) : String :=
  Content.schemaId record.content

structure Batch (β : Type) where
  operation : String
  idempotencyKey : String
  fingerprint : String
  sequence : Nat
  records : List (Record β)
deriving DecidableEq

/-- The primary key of `publications`. -/
def Batch.identity (batch : Batch β) : String × String :=
  (batch.operation, batch.idempotencyKey)

def Batch.recordIds (batch : Batch β) : List String :=
  batch.records.map Record.recordId

structure Snapshot (β : Type) where
  head : Nat
  batches : List (Batch β)
deriving DecidableEq

inductive Disposition where
  | committed
  | replay
  | conflict
  | stale
deriving DecidableEq

structure PublicationResult where
  disposition : Disposition
  sequence : Option Nat
deriving DecidableEq

/-- Everything that ends a transaction without committing it. -/
inductive Failure where
  | loopRejected (reason : String)
  | loopHold (reason : String)
  | permission (reason : String)
  | value (reason : String)
  | missing (key : String)
  | integrity (operation tenant recordId : String)
  | corrupt (reason : String)
  | uniqueViolation (constraint : String)
  | unexpected (error : String)
deriving DecidableEq

abbrev Transaction (α : Type) := Except Failure α

def require (condition : Prop) [Decidable condition] (failure : Failure) : Transaction Unit :=
  raiseIf (¬ condition) failure

theorem require_ok {condition : Prop} [Decidable condition] {failure : Failure} {value : Unit} :
    require condition failure = .ok value ↔ condition := by
  rw [require, raiseIf_ok, not_not]

theorem require_pos {condition : Prop} [Decidable condition] {failure : Failure}
    (holds : condition) : require condition failure = .ok () :=
  require_ok.mpr holds

namespace Snapshot

variable {β : Type}

def empty : Snapshot β := ⟨0, []⟩

/-- Every stored record in commit order. -/
def records (snapshot : Snapshot β) : List (Record β) :=
  snapshot.batches.flatMap Batch.records

def recordIds (snapshot : Snapshot β) : List String :=
  snapshot.batches.flatMap Batch.recordIds

theorem recordIds_map (snapshot : Snapshot β) :
    snapshot.recordIds = snapshot.records.map Record.recordId := by
  rw [recordIds, records, List.map_flatMap]
  rfl

def published (snapshot : Snapshot β) (operation key : String) : Option (Batch β) :=
  snapshot.batches.find? (fun batch => batch.identity = (operation, key))

/-- Append on the caller's locked, validated user transaction. -/
def append (snapshot : Snapshot β) (operation key fingerprint : String)
    (records : List (Record β)) (expectedHead : Nat) : Transaction (Snapshot β) := do
  let sequence := expectedHead + 1
  require ((operation, key) ∉ snapshot.batches.map Batch.identity)
    (.uniqueViolation "publications_pkey")
  require (sequence ∉ snapshot.batches.map Batch.sequence)
    (.uniqueViolation "publications_sequence_key")
  require ((snapshot.recordIds ++ records.map Record.recordId).Nodup)
    (.uniqueViolation "records_pkey")
  return ⟨sequence, snapshot.batches ++ [⟨operation, key, fingerprint, sequence, records⟩]⟩

/-- What `_snapshot` checks of the committed tables. -/
structure Valid (snapshot : Snapshot β) : Prop where
  numbered : snapshot.batches.map Batch.sequence = List.range' 1 snapshot.head
  identified : (snapshot.batches.map Batch.identity).Nodup
  distinct : snapshot.recordIds.Nodup

theorem append_ok {snapshot after : Snapshot β} {operation key fingerprint : String}
    {records : List (Record β)} {expectedHead : Nat}
    (appended : snapshot.append operation key fingerprint records expectedHead = .ok after) :
    (operation, key) ∉ snapshot.batches.map Batch.identity ∧
      (snapshot.recordIds ++ records.map Record.recordId).Nodup ∧
      after = ⟨expectedHead + 1, snapshot.batches ++
        [⟨operation, key, fingerprint, expectedHead + 1, records⟩]⟩ := by
  simp only [append, bind_ok, require_ok, pure_ok] at appended
  obtain ⟨_, fresh, _, _, _, distinct, rfl⟩ := appended
  exact ⟨fresh, distinct, rfl⟩

theorem valid_empty : (empty : Snapshot β).Valid :=
  ⟨rfl, .nil, .nil⟩

theorem append_valid {snapshot after : Snapshot β} {operation key fingerprint : String}
    {records : List (Record β)} (valid : snapshot.Valid)
    (appended : snapshot.append operation key fingerprint records snapshot.head = .ok after) :
    after.Valid := by
  obtain ⟨fresh, distinct, rfl⟩ := append_ok appended
  refine ⟨?_, ?_, ?_⟩
  · simp only [List.map_append, List.map_cons, List.map_nil, valid.numbered]
    rw [List.range'_concat, Nat.one_mul, Nat.add_comm]
  · rw [List.map_append, List.nodup_append]
    refine ⟨valid.identified, by simp, ?_⟩
    intro identity earlier last member same
    obtain rfl := List.mem_singleton.mp member
    rw [same] at earlier
    exact fresh earlier
  · simpa [recordIds, Batch.recordIds, List.flatMap_append] using distinct

/-- Batches are only ever added at the end. -/
def Extends (earlier later : Snapshot β) : Prop :=
  earlier.batches <+: later.batches

theorem Extends.refl (snapshot : Snapshot β) : snapshot.Extends snapshot :=
  List.prefix_refl _

theorem Extends.trans {first second third : Snapshot β} (left : first.Extends second)
    (right : second.Extends third) : first.Extends third :=
  List.IsPrefix.trans left right

theorem Valid.head_eq_length {snapshot : Snapshot β} (valid : snapshot.Valid) :
    snapshot.head = snapshot.batches.length := by
  have counted := congrArg List.length valid.numbered
  rw [List.length_map, List.length_range'] at counted
  exact counted.symm

theorem append_extends {snapshot after : Snapshot β} {operation key fingerprint : String}
    {records : List (Record β)} {expectedHead : Nat}
    (appended : snapshot.append operation key fingerprint records expectedHead = .ok after) :
    snapshot.Extends after := by
  obtain ⟨_, _, rfl⟩ := append_ok appended
  exact List.prefix_append _ _

theorem append_records {snapshot after : Snapshot β} {operation key fingerprint : String}
    {records : List (Record β)} {expectedHead : Nat}
    (appended : snapshot.append operation key fingerprint records expectedHead = .ok after) :
    after.records = snapshot.records ++ records := by
  obtain ⟨_, _, rfl⟩ := append_ok appended
  simp [Snapshot.records, List.flatMap_append]

theorem published_none {snapshot : Snapshot β} {operation key : String} :
    snapshot.published operation key = none ↔
      (operation, key) ∉ snapshot.batches.map Batch.identity := by
  simp [published, List.find?_eq_none]

end Snapshot

end Chiplog.Platform
