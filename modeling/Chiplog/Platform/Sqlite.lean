import Chiplog.Data.Checked
import Chiplog.Data.Dict
import Chiplog.Data.Lines
import Chiplog.Data.Model

namespace Chiplog.Platform.Sqlite

open Chiplog.Data

/-! The physical publication of the SQLite materializer.

One transaction reads the publication of the key, asks up to five guards and the mounted
resolver, and writes the records, their manifest and the tenant head.  Until the commit
every way out rolls it back; after it only the acknowledgement can be lost. -/

inductive SqliteError where
  | admission (message : String)
  | value (message : String)
  | runtime (message : String)
  | integrity (message : String)
  | raised (message : String)
  | lostAcknowledgement
deriving DecidableEq

structure PhysicalRecord where
  recordId : String
  owner : String
  schemaId : String
  canonicalBytes : Bytes
  fingerprint : String
deriving DecidableEq

inductive Disposition where
  | committed
  | replay
  | conflict
  | stale
  | denied
  | indeterminate
deriving DecidableEq

/-- What a guard may answer instead of nothing. -/
inductive Refusal where
  | denied
  | stale
  | indeterminate
deriving DecidableEq

def Refusal.disposition : Refusal → Disposition
  | denied => .denied
  | stale => .stale
  | indeterminate => .indeterminate

structure PublicationResult where
  disposition : Disposition
  commitSequence : Option Nat
  recordIds : List String
deriving DecidableEq

inductive Fault where
  | none
  | beforeCommit
  | afterCommit
deriving DecidableEq

/-- The command fields whose bytes are authorized at the physical cut. -/
structure PhysicalPublicationProjection where
  tenantId : String
  operationKind : String
  idempotencyKey : String
  requestFingerprint : String
  expectedHead : Int
  fenceGeneration : String
  expectedFenceFrontier : Int
  minimumFenceFrontier : Int
  records : List PhysicalRecord
deriving DecidableEq

/-- A guard is a callable: it may raise, refuse or return. -/
structure PhysicalPublicationCommand extends PhysicalPublicationProjection where
  expectedPreimageCommitment : Option String
  fault : Fault
  admissionGuard : Option (Except SqliteError (Option Refusal))
  decisionGuard : Option (String → Except SqliteError (Option Refusal))
  authorityCheckpointGuard : Option (String → Bytes → Except SqliteError Unit)

def PhysicalPublicationProjection.recordIds (command : PhysicalPublicationProjection) :
    List String :=
  command.records.map PhysicalRecord.recordId

inductive VerificationMode where
  | absent
  | replay
  | preselect
  | precommit
deriving DecidableEq

inductive Applicability where
  | h1
  | nonH1
deriving DecidableEq

structure VerifiedOwnerPublication where
  projection : PhysicalPublicationProjection
  applicability : Applicability
  bindingFingerprint : Option String
  selectedIdentity : Option String
  selectedFingerprint : Option String
  expectedResulting : Option String
  expectedCommitSequence : Option Int
deriving DecidableEq

structure PublicationRow where
  tenantId : String
  operationKind : String
  idempotencyKey : String
  requestFingerprint : String
  commitSequence : Nat
  recordIds : String
deriving DecidableEq

structure RecordRow where
  tenantId : String
  recordId : String
  owner : String
  schemaId : String
  canonicalBytes : Bytes
  commitSequence : Nat
deriving DecidableEq

/-- The tables a publication reads and writes, with their rows in insertion order. -/
structure Tables where
  heads : Dict String Nat
  publications : List PublicationRow
  records : List RecordRow
  fences : Dict String (String × Int)

/-- An admitted store with the fences that were installed in it. -/
def Tables.fenced (fences : Dict String (String × Int)) : Tables := ⟨.empty, [], [], fences⟩

/-- What surrounds a call: the writer's ownership, the registered contracts, the mounted
resolver, the admission of the bundle and the capture of the authority snapshot. -/
structure Surroundings where
  writer : Except SqliteError Unit
  recordPairs : List (String × String)
  resolver : Option (PhysicalPublicationCommand → VerificationMode → Tables →
    Except SqliteError VerifiedOwnerPublication)
  readyBundle : Except SqliteError Unit
  authoritySnapshot : Tables → Except SqliteError Bytes

def completeAcceptanceV2 : String := "agent_loop.complete_acceptance.v2"
def deliveryWorkSchema : String := "chiplog.delivery-work.subject.v1"
def deliveryWorkOwner : String := "agent_loop"
def deliveryWorkRecordPrefix : String := "delivery-work:"
def deliveryWorkOperations : List String :=
  ["agent_loop.delivery_work.genesis.v1", "agent_loop.delivery_work.claim.v1"]
def h1LocalIntentPair : String × String :=
  ("effects", "chiplog.effects.h1-local-prepared-commentary-intent.v1")
def h1ScopedIntentPair : String × String :=
  ("effects", "chiplog.effects.external-action-intent.v3")
def nativeExecutionPublicationOperations : List String :=
  ["scheduler.native-execution-policy-publication.v1",
    "scheduler.native-lease-publication.v1"]

def requiresOwnerPublicationResolver (operationKind : String) : Bool :=
  operationKind = completeAcceptanceV2 || operationKind ∈ deliveryWorkOperations ||
    operationKind ∈ nativeExecutionPublicationOperations

/-- `record_id.startswith("delivery-work:")`. -/
def PhysicalRecord.reserved (record : PhysicalRecord) : Bool :=
  deliveryWorkRecordPrefix.toList.isPrefixOf record.recordId.toList

def requireClosedDeliveryWorkPublication (command : PhysicalPublicationProjection) :
    Except SqliteError Unit := do
  let relevant := command.records.filter (fun record =>
    record.schemaId = deliveryWorkSchema || record.reserved)
  if relevant = [] ∧ command.operationKind ∉ deliveryWorkOperations then .ok ()
  else do
    raiseIf (relevant = []) (.admission "delivery-work operation has no reserved record")
    raiseIf (relevant.length ≠ command.records.length)
      (.admission "delivery-work operation has unrelated record")
    raiseIf (command.operationKind ∉ deliveryWorkOperations)
      (.admission "delivery-work record submitted under alternate operation")
    raiseIf (∃ record ∈ relevant, record.owner ≠ deliveryWorkOwner ∨
        record.schemaId ≠ deliveryWorkSchema ∨ record.reserved = false)
      (.admission "delivery-work record owner, schema, or reserved ID differs")

/-- `require_fence`. -/
def Tables.requireFence (tables : Tables) (tenantId generation : String)
    (minimumFrontier exactFrontier : Int) : Except SqliteError Unit :=
  match tables.fences.get? tenantId with
  | none => .error (.value "deletion fence absent")
  | some (current, frontier) => do
      raiseIf (current ≠ generation) (.value "deletion fence generation mismatch")
      raiseIf (frontier < minimumFrontier) (.value "deletion fence lags required frontier")
      raiseIf (frontier ≠ exactFrontier) (.value "deletion fence frontier mismatch")

/-- `None` or the empty text. -/
def missingText : Option String → Bool
  | none => true
  | some text => text = ""

section

-- Which owner writes which schema is listed as pairs of texts.
local instance lawfulPairs : LawfulBEq (String × String) := inferInstance

variable [Hashlib]

/-- The checks of one record before the transaction. -/
def checkRecord (recordPairs : List (String × String)) (record : PhysicalRecord) :
    Except SqliteError Unit := do
  raiseIf ((record.owner, record.schemaId) ∉ recordPairs)
    (.value "owner/schema contract mismatch")
  raiseIf (record.fingerprint ≠ (sha256 record.canonicalBytes).text)
    (.value "canonical record fingerprint mismatch")

/-- `_publish` up to its transaction; `false` is the answer without a resolver. -/
def prepare (surroundings : Surroundings) (tables : Tables)
    (command : PhysicalPublicationCommand) : Except SqliteError Bool := do
  surroundings.writer
  requireClosedDeliveryWorkPublication command.toPhysicalPublicationProjection
  raiseIf ((∃ record ∈ command.records,
      (record.owner, record.schemaId) ∈ [h1LocalIntentPair, h1ScopedIntentPair]) ∧
      command.operationKind ≠ completeAcceptanceV2)
    (.admission "H1-only record submitted under alternate operation")
  if requiresOwnerPublicationResolver command.operationKind && surroundings.resolver.isNone then
    .ok false
  else do
    raiseIf (command.recordIds = [] ∨ ¬ command.recordIds.Nodup)
      (.value "publication records must be a non-empty unique set")
    forEach (checkRecord surroundings.recordPairs) command.records
    tables.requireFence command.tenantId command.fenceGeneration command.minimumFenceFrontier
      command.expectedFenceFrontier
    .ok true

/-- `_verify_owner_publication`. -/
def verifyOwnerPublication (surroundings : Surroundings) (tables : Tables)
    (command : PhysicalPublicationCommand) (mode : VerificationMode) :
    Except SqliteError VerifiedOwnerPublication :=
  match surroundings.resolver with
  | none => .error (.admission "H1 publication resolver is not mounted")
  | some resolver => do
      let verified ← resolver command mode tables
      raiseIf (verified.projection ≠ command.toPhysicalPublicationProjection)
        (.admission "owner publication proof command projection mismatch")
      raiseIf (verified.applicability = .h1 ∧ missingText verified.bindingFingerprint)
        (.admission "H1 publication proof has no binding")
      .ok verified

/-- `_verify_replay_membership`. -/
def verifyReplayMembership (tables : Tables) (command : PhysicalPublicationCommand)
    (verified : VerifiedOwnerPublication) (sequence : Nat) (persistedIds : List String) :
    Except SqliteError Unit := do
  raiseIf (missingText verified.selectedIdentity ∨ missingText verified.selectedFingerprint)
    (.admission "H1 replay selected proof is incomplete")
  raiseIf (persistedIds ≠ verified.projection.recordIds)
    (.admission "H1 replay publication membership mismatch")
  match verified.expectedCommitSequence with
  | none => .error (.admission "H1 replay selected sequence is absent")
  | some expected => do
      raiseIf ((sequence : Int) ≠ expected)
        (.admission "H1 replay selected sequence mismatch")
      let observed := tables.records.filter (fun row =>
        row.tenantId = command.tenantId && row.commitSequence = sequence)
      let wanted := verified.projection.records.map (fun record : PhysicalRecord =>
        (⟨command.tenantId, record.recordId, record.owner, record.schemaId,
          record.canonicalBytes, sequence⟩ : RecordRow))
      raiseIf (observed ≠ wanted) (.admission "H1 replay record membership mismatch")

/-- `_verify_precommit`. -/
def verifyPrecommit (preselected precommitted : VerifiedOwnerPublication) (resulting : String)
    (commitSequence : Nat) : Except SqliteError Unit := do
  raiseIf (precommitted.bindingFingerprint ≠ preselected.bindingFingerprint ∨
      precommitted.applicability ≠ preselected.applicability)
    (.admission "H1 precommit binding mismatch")
  raiseIf (missingText precommitted.selectedIdentity ∨
      missingText precommitted.selectedFingerprint ∨ precommitted.expectedResulting = none ∨
      precommitted.expectedCommitSequence = none)
    (.admission "H1 precommit selected proof is incomplete")
  raiseIf (precommitted.expectedResulting ≠ some resulting)
    (.admission "H1 precommit resulting commitment mismatch")
  raiseIf (precommitted.expectedCommitSequence ≠ some (commitSequence : Int))
    (.admission "H1 precommit selected sequence mismatch")
  raiseIf (preselected.selectedIdentity ≠ none ∧
      (precommitted.selectedIdentity ≠ preselected.selectedIdentity ∨
        precommitted.selectedFingerprint ≠ preselected.selectedFingerprint))
    (.admission "H1 precommit selected identity mismatch")

end

/-- `INSERT INTO records`. -/
def insertRecord (tenantId : String) (commitSequence : Nat) (tables : Tables)
    (record : PhysicalRecord) : Except SqliteError Tables := do
  raiseIf (∃ row ∈ tables.records, (row.tenantId, row.recordId) = (tenantId, record.recordId))
    (.integrity "UNIQUE constraint failed: records.tenant_id, records.record_id")
  .ok { tables with
    records := tables.records ++ [⟨tenantId, record.recordId, record.owner, record.schemaId,
      record.canonicalBytes, commitSequence⟩] }

/-- `INSERT INTO publications`. -/
def insertPublication (tables : Tables) (row : PublicationRow) : Except SqliteError Tables := do
  raiseIf (∃ other ∈ tables.publications,
      (other.tenantId, other.operationKind, other.idempotencyKey) =
        (row.tenantId, row.operationKind, row.idempotencyKey))
    (.integrity "UNIQUE constraint failed: publications")
  .ok { tables with publications := tables.publications ++ [row] }

/-- The head of a tenant, zero before its first commit. -/
def Tables.head (tables : Tables) (tenantId : String) : Nat :=
  (tables.heads.get? tenantId).getD 0

/-- The three writes of a publication. -/
def Tables.write (tables : Tables) (command : PhysicalPublicationProjection)
    (commitSequence : Nat) : Except SqliteError Tables := do
  let tables ← command.records.foldlM (insertRecord command.tenantId commitSequence) tables
  let tables ← insertPublication tables
    ⟨command.tenantId, command.operationKind, command.idempotencyKey,
      command.requestFingerprint, commitSequence, joinLines command.recordIds⟩
  .ok { tables with heads := tables.heads.set command.tenantId commitSequence }

def Tables.published (tables : Tables) (command : PhysicalPublicationProjection) :
    Option PublicationRow :=
  tables.publications.find? (fun row =>
    (row.tenantId, row.operationKind, row.idempotencyKey) =
      (command.tenantId, command.operationKind, command.idempotencyKey))

/-- How a transaction ends when nothing raised. -/
inductive Ending where
  | rollback (result : PublicationResult)
  | commit (tables : Tables) (commitSequence : Nat)

def refuse (disposition : Disposition) : Ending := .rollback ⟨disposition, none, []⟩

section

variable [Hashlib]

/-- The key was published before. -/
def replay (surroundings : Surroundings) (tables : Tables)
    (command : PhysicalPublicationCommand) (existing : PublicationRow) :
    Except SqliteError Ending := do
  checkIf (requiresOwnerPublicationResolver command.operationKind = true) do
    let verified ← verifyOwnerPublication surroundings tables command .replay
    verifyReplayMembership tables command verified existing.commitSequence
      (splitLines existing.recordIds)
  if existing.requestFingerprint ≠ command.requestFingerprint then
    .ok (.rollback ⟨.conflict, some existing.commitSequence, []⟩)
  else .ok (.rollback ⟨.replay, some existing.commitSequence, splitLines existing.recordIds⟩)

/-- The preimage and the admission guard, which see the tables as they were. -/
def admission (surroundings : Surroundings) (tables : Tables)
    (command : PhysicalPublicationCommand) : Except SqliteError (Option Refusal) := do
  match command.expectedPreimageCommitment with
  | none => answer
  | some expected => do
      let preimage ← surroundings.authoritySnapshot tables
      if (sha256 preimage).text ≠ expected then return some .stale
      answer
where
  answer : Except SqliteError (Option Refusal) := command.admissionGuard.getD (.ok none)

/-- The guards over the written tables, between the writes and the commit. -/
def decision (surroundings : Surroundings) (written : Tables)
    (command : PhysicalPublicationCommand) (commitSequence : Nat) :
    Except SqliteError (Option Refusal) := do
  if requiresOwnerPublicationResolver command.operationKind then do
    let preselected ← verifyOwnerPublication surroundings written command .preselect
    let snapshot ← surroundings.authoritySnapshot written
    let resulting := (sha256 snapshot).text
    checkpoint resulting snapshot
    match command.decisionGuard with
    | none => return some .denied
    | some guard => do
        match ← guard resulting with
        | some refusal => return some refusal
        | none => do
            let precommitted ← verifyOwnerPublication surroundings written command .precommit
            verifyPrecommit preselected precommitted resulting commitSequence
            return none
  else if command.authorityCheckpointGuard.isSome || command.decisionGuard.isSome then do
    let snapshot ← surroundings.authoritySnapshot written
    let resulting := (sha256 snapshot).text
    checkpoint resulting snapshot
    match command.decisionGuard with
    | none => return none
    | some guard => guard resulting
  else return none
where
  checkpoint (resulting : String) (snapshot : Bytes) : Except SqliteError Unit :=
    match command.authorityCheckpointGuard with
    | none => .ok ()
    | some guard => guard resulting snapshot

/-- The key is new. -/
def commit (surroundings : Surroundings) (tables : Tables)
    (command : PhysicalPublicationCommand) : Except SqliteError Ending := do
  checkIf (requiresOwnerPublicationResolver command.operationKind = true) do
    let _ ← verifyOwnerPublication surroundings tables command .absent
    .ok ()
  surroundings.readyBundle
  let currentHead := tables.head command.tenantId
  if (currentHead : Int) ≠ command.expectedHead then .ok (refuse .stale)
  else do
    match ← admission surroundings tables command with
    | some refusal => .ok (refuse refusal.disposition)
    | none => do
        let commitSequence := currentHead + 1
        let written ← tables.write command.toPhysicalPublicationProjection commitSequence
        match ← decision surroundings written command commitSequence with
        | some refusal => .ok (refuse refusal.disposition)
        | none => do
            raiseIf (command.fault = .beforeCommit) (.runtime "injected fault before commit")
            .ok (.commit written commitSequence)

/-- From `BEGIN IMMEDIATE` on. -/
def transaction (surroundings : Surroundings) (tables : Tables)
    (command : PhysicalPublicationCommand) : Except SqliteError Ending :=
  match tables.published command.toPhysicalPublicationProjection with
  | some existing => replay surroundings tables command existing
  | none => commit surroundings tables command

/-- `_publish`: what the caller observes, and the tables it leaves. -/
def publish (surroundings : Surroundings) (tables : Tables)
    (command : PhysicalPublicationCommand) : Except SqliteError PublicationResult × Tables :=
  match prepare surroundings tables command with
  | .error error => (.error error, tables)
  | .ok false => (.ok ⟨.denied, none, []⟩, tables)
  | .ok true =>
      match transaction surroundings tables command with
      | .error error => (.error error, tables)
      | .ok (.rollback result) => (.ok result, tables)
      | .ok (.commit after commitSequence) =>
          if command.fault = .afterCommit then (.error .lostAcknowledgement, after)
          else (.ok ⟨.committed, some commitSequence, command.recordIds⟩, after)

/-- The tables after any calls, each in its own surroundings. -/
inductive Run (start : Tables) : Tables → Prop
  | start : Run start start
  | publish {tables : Tables} (run : Run start tables) (surroundings : Surroundings)
      (command : PhysicalPublicationCommand) :
      Run start (Sqlite.publish surroundings tables command).2

end

end Chiplog.Platform.Sqlite
