import Chiplog.Data.Model
import Chiplog.Platform.Postgres

namespace Chiplog.Composition

open Chiplog.Data Chiplog.Platform

/-! The execution runtime over one user's log.

Every entry point runs in transactions that first authenticate the peer and compare the
runtime's token with the worker column, so at most one opened runtime may commit at a
time.  `Stores` says that values of a model are kept in the log and can be read back. -/

/-- The `schema_id` default and the `canonical_bytes` of a stored model. -/
class Schema (α : Type) where
  schemaId : String
  wire : α → Bytes

/-- `model_validate_json` reads back what `canonical_bytes` wrote. -/
class Stores (β α : Type) [Content β] [Schema α] where
  read : β → Option α
  write : α → β
  schemaId_write : ∀ value, Content.schemaId (write value) = Schema.schemaId α
  bytes_write : ∀ value, Content.bytes (write value) = Schema.wire value
  read_write : ∀ value, read (write value) = some value

section Rows

variable {β : Type} [Content β] (α : Type) [Schema α] [Stores β α]

/-- The values of one schema among some records, without any check. -/
def storedIn (records : List (Record β)) : List α :=
  (records.filter (fun record => record.schemaId = Schema.schemaId α)).filterMap
    (fun record => Stores.read record.content)

def readRow (operation tenant : String) (valid : Record β → α → Prop)
    [∀ record value, Decidable (valid record value)] (record : Record β) : Transaction α :=
  match Stores.read record.content with
  | none => .error (.integrity operation tenant record.recordId)
  | some value => do
      require (valid record value) (.integrity operation tenant record.recordId)
      return value

/-- Decode and check every record of one schema. -/
def readRows (operation tenant : String) (valid : Record β → α → Prop)
    [∀ record value, Decidable (valid record value)] (snapshot : Snapshot β) :
    Transaction (List α) :=
  (snapshot.records.filter (fun record => record.schemaId = Schema.schemaId α)).mapM
    (readRow α operation tenant valid)

variable {α}

theorem storedIn_append (front rest : List (Record β)) :
    storedIn α (front ++ rest) = storedIn α front ++ storedIn α rest := by
  simp [storedIn]

theorem storedIn_written (recordId owner : String) (value : α) :
    storedIn α [(⟨recordId, owner, Stores.write value⟩ : Record β)] = [value] := by
  simp [storedIn, Record.schemaId, Stores.schemaId_write, Stores.read_write]

theorem storedIn_foreign {records : List (Record β)}
    (foreign : ∀ record ∈ records, record.schemaId ≠ Schema.schemaId α) :
    storedIn α records = [] := by
  have none : records.filter (fun record => record.schemaId = Schema.schemaId α) = [] := by
    simpa [List.filter_eq_nil_iff] using foreign
  simp [storedIn, none]

variable {operation tenant : String} {valid : Record β → α → Prop}
  [∀ record value, Decidable (valid record value)]

theorem readRow_ok {record : Record β} {value : α} :
    readRow α operation tenant valid record = .ok value ↔
      Stores.read record.content = some value ∧ valid record value := by
  unfold readRow
  split
  · rename_i undecodable
    simp [undecodable]
  · rename_i found decodes
    simp only [bind_ok, require_ok, pure_ok, decodes, Option.some.injEq]
    constructor
    · rintro ⟨_, holds, rfl⟩
      exact ⟨rfl, holds⟩
    · rintro ⟨rfl, holds⟩
      exact ⟨(), holds, rfl⟩

theorem mapM_readRow_ok {records : List (Record β)} {values : List α}
    (returned : records.mapM (readRow α operation tenant valid) = .ok values) :
    values = records.filterMap (fun record => Stores.read record.content) := by
  induction records generalizing values with
  | nil =>
      rw [List.mapM_nil, pure_ok] at returned
      exact returned.symm
  | cons record rest ih =>
      simp only [List.mapM_cons, bind_ok, pure_ok] at returned
      obtain ⟨value, first, values, later, rfl⟩ := returned
      rw [List.filterMap_cons, (readRow_ok.mp first).1, ih later]

theorem readRows_ok {snapshot : Snapshot β} {values : List α}
    (returned : readRows α operation tenant valid snapshot = .ok values) :
    values = storedIn α snapshot.records :=
  mapM_readRow_ok returned

theorem mapM_readRow_returns {records : List (Record β)}
    (valid : ∀ record ∈ records, ∃ value, readRow α operation tenant valid record = .ok value) :
    ∃ values, records.mapM (readRow α operation tenant ‹_›) = .ok values := by
  induction records with
  | nil => exact ⟨[], rfl⟩
  | cons record rest ih =>
      obtain ⟨value, first⟩ := valid record List.mem_cons_self
      obtain ⟨values, later⟩ := ih (fun other member => valid other (List.mem_cons_of_mem _ member))
      refine ⟨value :: values, ?_⟩
      simp only [List.mapM_cons, first, later, ok_bind]
      rfl

/-- The reader succeeds as soon as every record of the schema passes its check. -/
theorem readRows_returns {snapshot : Snapshot β}
    (sound : ∀ record ∈ snapshot.records, record.schemaId = Schema.schemaId α →
      ∃ value, Stores.read record.content = some value ∧ valid record value) :
    readRows α operation tenant valid snapshot = .ok (storedIn α snapshot.records) := by
  have rows : ∀ record ∈ snapshot.records.filter
      (fun record => record.schemaId = Schema.schemaId α),
      ∃ value, readRow α operation tenant valid record = .ok value := by
    intro record member
    simp only [List.mem_filter, decide_eq_true_eq] at member
    obtain ⟨value, decodes, holds⟩ := sound record member.1 member.2
    exact ⟨value, readRow_ok.mpr ⟨decodes, holds⟩⟩
  obtain ⟨values, returned⟩ := mapM_readRow_returns rows
  rw [readRows, returned, mapM_readRow_ok returned]
  rfl

end Rows

/-- The row of `user_state` together with the log it heads. -/
structure UserState (β : Type) where
  snapshot : Snapshot β
  worker : Option String

structure Runtime where
  databaseName : String
  tenantId : String
  principalId : String
  credentialId : String
  sessionId : String
  peer : String
  token : String
deriving DecidableEq

namespace Runtime

def worker (runtime : Runtime) : String :=
  "postgres:" ++ runtime.principalId ++ ":" ++ runtime.credentialId ++ ":" ++ runtime.sessionId

variable {β : Type}

/-- `context` is the outcome of authenticating the principal's credential and session. -/
def actor (runtime : Runtime) (context : Transaction Unit) (peer : String)
    (user : UserState β) : Transaction Unit := do
  require (peer = runtime.peer)
    (.permission "execution peer does not match authenticated endpoint")
  context
  require (user.worker = some runtime.token)
    (.loopHold "stale execution worker; open the current client")

def currentWorker (runtime : Runtime) (context : Transaction Unit) (user : UserState β) :
    Transaction String := do
  runtime.actor context runtime.peer user
  return runtime.worker

def snapshotForPeer (runtime : Runtime) (context : Transaction Unit) (peer : String)
    (user : UserState β) : Transaction (Snapshot β) := do
  runtime.actor context peer user
  return user.snapshot

/-- A new runtime replaces whichever one was current. -/
def opened (runtime : Runtime) (user : UserState β) : UserState β :=
  { user with worker := some runtime.token }

end Runtime

section Publication

variable {β : Type} [Content β] [DecidableEq β] [Hashlib] {context : Transaction Unit}
  {operation key : String}

def batchFingerprint (records : List (Record β)) : String :=
  (sha256 (Json.encodeAscii (.arr (records.map (fun record => .arr
    [.str record.recordId, .str record.owner, .str record.schemaId,
      .str (sha256 (Content.bytes record.content)).text]))))).text

/-- `validate` is the caller's guard; `admits` stands for the checks on the Run and call
records of the batch against the same snapshot. -/
def publishExecutionBatch (runtime : Runtime) (context : Transaction Unit) (peer : String)
    (operation key : String) (expectedHead : Nat) (records : List (Record β))
    (validate admits : Snapshot β → Transaction Unit) (user : UserState β) :
    Transaction (UserState β × PublicationResult) := do
  require (records ≠ [] ∧ (records.map Record.recordId).Nodup)
    (.value "execution batch must be nonempty and unique")
  let fingerprint := batchFingerprint records
  runtime.actor context peer user
  match user.snapshot.published operation key with
  | some previous =>
      require (previous.fingerprint = fingerprint ∧ previous.records = records)
        (.loopRejected "execution batch identity conflict")
      return (user, ⟨.replay, some previous.sequence⟩)
  | none =>
      require (user.snapshot.head = expectedHead) (.loopRejected "stale execution tenant head")
      validate user.snapshot
      admits user.snapshot
      let appended ← user.snapshot.append operation key fingerprint records user.snapshot.head
      return (⟨appended, user.worker⟩, ⟨.committed, some appended.head⟩)

/-- What a batch that was appended has passed. -/
structure Published (runtime : Runtime) (context : Transaction Unit) (peer : String)
    (operation key : String) (expectedHead : Nat) (records : List (Record β))
    (validate admits : Snapshot β → Transaction Unit) (user after : UserState β) : Prop where
  actor : runtime.actor context peer user = .ok ()
  head : user.snapshot.head = expectedHead
  validated : validate user.snapshot = .ok ()
  admitted : admits user.snapshot = .ok ()
  appended : user.snapshot.append operation key (batchFingerprint records) records expectedHead =
    .ok after.snapshot
  worker : after.worker = user.worker

/-- A batch is either a replay of the same records or appended after all its checks. -/
theorem publishExecutionBatch_cases {runtime : Runtime}
    {peer : String} {expectedHead : Nat} {records : List (Record β)}
    {validate admits : Snapshot β → Transaction Unit} {user after : UserState β}
    {result : PublicationResult}
    (published : publishExecutionBatch runtime context peer operation key expectedHead records
      validate admits user = .ok (after, result)) :
    (after = user ∧ ∃ previous ∈ user.snapshot.batches, previous.records = records) ∨
      Published runtime context peer operation key expectedHead records validate admits
        user after := by
  simp only [publishExecutionBatch, bind_ok, require_ok] at published
  obtain ⟨_, _, _, actor, published⟩ := published
  split at published
  · rename_i previous found
    simp only [bind_ok, require_ok, pure_ok, Prod.mk.injEq] at published
    obtain ⟨_, same, rfl, _⟩ := published
    exact .inl ⟨rfl, previous, List.mem_of_find?_eq_some found, same.2⟩
  · simp only [bind_ok, require_ok, pure_ok, Prod.mk.injEq] at published
    obtain ⟨_, same, _, guarded, _, admitted, appended, added, rfl, _⟩ := published
    exact .inr ⟨actor, same, guarded, admitted, by rw [← same]; exact added, rfl⟩

/-- A batch is either replayed or appended after all its checks. -/
theorem publishExecutionBatch_published {runtime : Runtime}
    {peer : String} {expectedHead : Nat} {records : List (Record β)}
    {validate admits : Snapshot β → Transaction Unit} {user after : UserState β}
    {result : PublicationResult}
    (published : publishExecutionBatch runtime context peer operation key expectedHead records
      validate admits user = .ok (after, result)) :
    after = user ∨ Published runtime context peer operation key expectedHead records validate admits
      user after := by
  rcases publishExecutionBatch_cases published with ⟨same, _⟩ | batch
  · exact .inl same
  · exact .inr batch

/-- A batch is either replayed or appended at exactly the head its caller expected. -/
theorem publishExecutionBatch_ok {runtime : Runtime} {peer : String}
    {expectedHead : Nat} {records : List (Record β)}
    {validate admits : Snapshot β → Transaction Unit} {user after : UserState β}
    {result : PublicationResult}
    (published : publishExecutionBatch runtime context peer operation key expectedHead records
      validate admits user = .ok (after, result)) :
    after = user ∨
      user.snapshot.head = expectedHead ∧ validate user.snapshot = .ok () ∧
        user.snapshot.append operation key (batchFingerprint records) records expectedHead =
          .ok after.snapshot ∧ after.worker = user.worker := by
  rcases publishExecutionBatch_published published with same | batch
  · exact .inl same
  · exact .inr ⟨batch.head, batch.validated, batch.appended, batch.worker⟩

end Publication

end Chiplog.Composition
