import Chiplog.Data.Checked
import Chiplog.Data.Dict
import Chiplog.Data.Model
import Mathlib.Data.List.Sort

namespace Chiplog.Platform

open Chiplog.Data

/-! Durable broker epochs and the ledger of issued operations.

Every call is one transaction on the ledger, except that a restart reads the pending
operations first and finishes them one by one. -/

inductive TokenMode where
  | oneShot
  | idempotentExact
deriving DecidableEq

instance : Jsonable TokenMode := ⟨fun
  | .oneShot => .str "ONE_SHOT"
  | .idempotentExact => .str "IDEMPOTENT_EXACT"⟩

structure OperationToken where
  mode : TokenMode
  tenantId : String
  brokerEpoch : Int
  ownerId : String
  generationId : String
  sessionId : String
  targetId : String
  capabilityId : String
  operationKind : String
  payloadFingerprint : String
  nonce : String
  expiryNs : Int
deriving DecidableEq

instance : Model OperationToken := ⟨fun token =>
  [("schema_id", .str "chiplog.broker.operation-token.v1"), ("mode", toJson token.mode),
    ("tenant_id", toJson token.tenantId), ("broker_epoch", toJson token.brokerEpoch),
    ("owner_id", toJson token.ownerId), ("generation_id", toJson token.generationId),
    ("session_id", toJson token.sessionId), ("target_id", toJson token.targetId),
    ("capability_id", toJson token.capabilityId),
    ("operation_kind", toJson token.operationKind),
    ("payload_fingerprint", toJson token.payloadFingerprint), ("nonce", toJson token.nonce),
    ("expiry_ns", toJson token.expiryNs)]⟩

inductive OperationState where
  | issued
  | definite
  | outcomeUnknown
deriving DecidableEq

structure OperationDisposition where
  tenantId : String
  operationId : String
  responseSlotId : String
  state : OperationState
  resultDigest : Option String
  resultBytes : Option Bytes
  recoveryObligationId : Option String
deriving DecidableEq

inductive RuntimeMode where
  | development
  | release
deriving DecidableEq

structure RuntimeGenerationIdentity where
  generationId : Identity
  mode : RuntimeMode
  sourceSnapshotDigest : Digest
  selectedManifestFingerprint : Digest
deriving DecidableEq

def OperationToken.commandFingerprint [Hashlib] (token : OperationToken) : String :=
  (sha256 (toJson token).encodeAscii).text

/-- Everything that ends a call of the ledger without an effect. -/
inductive AuthorityLedgerError where
  | conflict (reason : String)
  | denied (reason : String)
  | value (reason : String)
  | uniqueViolation (constraint : String)
  | overflow (reason : String)
deriving DecidableEq

/-- A row of `broker_epochs`. -/
structure EpochRow where
  tenantId : String
  epoch : Nat
  endpointId : String
  keyDigest : String
  current : Bool
  epochbindingRequired : Bool
deriving DecidableEq

/-- A row of `issued_operations` without its primary key. -/
structure IssuedRow where
  mode : TokenMode
  commandFingerprint : String
  nonce : String
  brokerEpoch : Int
  ownerId : String
  generationId : String
  sessionId : String
  targetId : String
  capabilityId : String
  operationKind : String
  payloadFingerprint : String
  expiryNs : Int
  responseSlotId : String
  state : OperationState
  resultDigest : Option String
  resultBytes : Option Bytes
  recoveryObligationId : Option String
deriving DecidableEq

/-- Epochs in the order of their insertion, generation identities by tenant and epoch, and
issued operations by tenant and operation. -/
structure AuthorityLedger where
  epochs : List EpochRow
  generations : Dict (String × Nat) RuntimeGenerationIdentity
  operations : Dict (String × String) IssuedRow

/-- What a stored row says of its operation. -/
def IssuedRow.disposition (row : IssuedRow) (tenantId operationId : String) :
    OperationDisposition :=
  ⟨tenantId, operationId, row.responseSlotId, row.state, row.resultDigest, row.resultBytes,
    row.recoveryObligationId⟩

/-- The update that `finish` makes. -/
def IssuedRow.finished (row : IssuedRow) (disposition : OperationDisposition) : IssuedRow :=
  { row with
    state := disposition.state
    resultDigest := disposition.resultDigest
    resultBytes := disposition.resultBytes
    recoveryObligationId := disposition.recoveryObligationId }

namespace AuthorityLedger

def empty : AuthorityLedger := ⟨[], .empty, .empty⟩

/-- The epochs of one tenant. -/
def epochsOf (ledger : AuthorityLedger) (tenantId : String) : List EpochRow :=
  ledger.epochs.filter (fun row => row.tenantId = tenantId)

/-- `COALESCE(MAX(epoch), 0)`. -/
def lastEpoch (ledger : AuthorityLedger) (tenantId : String) : Nat :=
  ((ledger.epochsOf tenantId).map EpochRow.epoch).foldl max 0

/-- `UPDATE broker_epochs SET current = 0`. -/
def retired (tenantId : String) (row : EpochRow) : EpochRow :=
  if row.tenantId = tenantId then { row with current := false } else row

def insertEpoch (epochs : List EpochRow) (row : EpochRow) :
    Except AuthorityLedgerError (List EpochRow) := do
  raiseIf (∃ other ∈ epochs, other.tenantId = row.tenantId ∧ other.epoch = row.epoch)
    (.uniqueViolation "broker_epochs")
  raiseIf (row.current ∧ ∃ other ∈ epochs, other.tenantId = row.tenantId ∧ other.current)
    (.uniqueViolation "one_current_broker_epoch")
  .ok (epochs ++ [row])

def insertGeneration (ledger : AuthorityLedger) (tenantId : String) (epoch : Nat) :
    Option RuntimeGenerationIdentity →
      Except AuthorityLedgerError (Dict (String × Nat) RuntimeGenerationIdentity)
  | none => .ok ledger.generations
  | some identity => do
      raiseIf (ledger.generations.get? (tenantId, epoch)).isSome
        (.uniqueViolation "broker_generation_identities")
      .ok (ledger.generations.set (tenantId, epoch) identity)

def allocateEpoch (ledger : AuthorityLedger) (tenantId endpointId keyDigest : String)
    (generationIdentity : Option RuntimeGenerationIdentity) :
    Except AuthorityLedgerError (Nat × AuthorityLedger) := do
  let epoch := ledger.lastEpoch tenantId + 1
  let epochs ← insertEpoch (ledger.epochs.map (retired tenantId))
    ⟨tenantId, epoch, endpointId, keyDigest, true, generationIdentity.isSome⟩
  let generations ← ledger.insertGeneration tenantId epoch generationIdentity
  .ok (epoch, { ledger with epochs := epochs, generations := generations })

def currentEpoch (ledger : AuthorityLedger) (tenantId : String) : Option Nat :=
  ((ledger.epochsOf tenantId).find? EpochRow.current).map EpochRow.epoch

def putOperation (ledger : AuthorityLedger) (key : String × String) (row : IssuedRow) :
    AuthorityLedger :=
  { ledger with operations := ledger.operations.set key row }

/-- `UNIQUE (tenant_id, nonce)` and `UNIQUE (tenant_id, response_slot_id)`. -/
def Consumed (ledger : AuthorityLedger) (tenantId nonce responseSlotId : String) : Prop :=
  ∃ entry ∈ ledger.operations.entries, entry.1.1 = tenantId ∧
    (entry.2.nonce = nonce ∨ entry.2.responseSlotId = responseSlotId)

instance (ledger : AuthorityLedger) (tenantId nonce responseSlotId : String) :
    Decidable (ledger.Consumed tenantId nonce responseSlotId) :=
  inferInstanceAs (Decidable (∃ entry ∈ ledger.operations.entries, _ ∧ _))

def lookup (ledger : AuthorityLedger) (tenantId operationId : String) :
    Option OperationDisposition :=
  (ledger.operations.get? (tenantId, operationId)).map
    (fun row => row.disposition tenantId operationId)

end AuthorityLedger

section Operations

variable [Hashlib]

/-- The row that an admission inserts. -/
def OperationToken.issued (token : OperationToken) (responseSlotId : String) : IssuedRow where
  mode := token.mode
  commandFingerprint := token.commandFingerprint
  nonce := token.nonce
  brokerEpoch := token.brokerEpoch
  ownerId := token.ownerId
  generationId := token.generationId
  sessionId := token.sessionId
  targetId := token.targetId
  capabilityId := token.capabilityId
  operationKind := token.operationKind
  payloadFingerprint := token.payloadFingerprint
  expiryNs := token.expiryNs
  responseSlotId := responseSlotId
  state := .issued
  resultDigest := none
  resultBytes := none
  recoveryObligationId := none

namespace AuthorityLedger

def admitWithNovelty (ledger : AuthorityLedger) (operationId responseSlotId : String)
    (token : OperationToken) (nowNs : Int) :
    Except AuthorityLedgerError ((OperationDisposition × Bool) × AuthorityLedger) := do
  raiseIf (token.expiryNs ≤ nowNs) (.denied "operation token expired before durable admission")
  raiseIf ((ledger.currentEpoch token.tenantId).map Nat.cast ≠ some token.brokerEpoch)
    (.denied "operation token broker epoch is stale")
  match ledger.operations.get? (token.tenantId, operationId) with
  | some existing => do
      raiseIf (existing.commandFingerprint ≠ token.commandFingerprint ∨
          existing.mode ≠ token.mode ∨ existing.responseSlotId ≠ responseSlotId)
        (.conflict "changed replay of issued operation")
      .ok ((existing.disposition token.tenantId operationId, false), ledger)
  | none => do
      -- The insert binds the expiry before the unique constraints are looked at.
      raiseIf (2 ^ 63 ≤ token.expiryNs)
        (.overflow "Python int too large to convert to SQLite INTEGER")
      raiseIf (ledger.Consumed token.tenantId token.nonce responseSlotId)
        (.conflict "nonce or response slot already consumed")
      .ok ((⟨token.tenantId, operationId, responseSlotId, .issued, none, none, none⟩, true),
        ledger.putOperation (token.tenantId, operationId) (token.issued responseSlotId))

/-- The checks that `finish` makes on its argument. -/
def checkTerminal (disposition : OperationDisposition) : Except AuthorityLedgerError Unit :=
  match disposition.state with
  | .issued => .error (.value "finish requires a terminal disposition")
  | .definite =>
      match disposition.resultBytes with
      | none => .error (.value "definite disposition requires bytes and no recovery obligation")
      | some bytes => do
          raiseIf disposition.recoveryObligationId.isSome
            (.value "definite disposition requires bytes and no recovery obligation")
          raiseIf (disposition.resultDigest ≠ some (sha256 bytes).text)
            (.value "definite result digest mismatch")
  | .outcomeUnknown =>
      raiseIf (disposition.recoveryObligationId = none ∨ disposition.resultBytes ≠ none)
        (.value "unknown disposition requires only a recovery obligation")

def finish (ledger : AuthorityLedger) (disposition : OperationDisposition) :
    Except AuthorityLedgerError (OperationDisposition × AuthorityLedger) := do
  checkTerminal disposition
  let key := (disposition.tenantId, disposition.operationId)
  match ledger.operations.get? key with
  | none => .error (.conflict "issued operation or response slot is absent")
  | some row => do
      raiseIf (row.responseSlotId ≠ disposition.responseSlotId)
        (.conflict "issued operation or response slot is absent")
      if row.state ≠ .issued then do
        let recorded := row.disposition disposition.tenantId disposition.operationId
        raiseIf (recorded ≠ disposition) (.conflict "rival terminal operation disposition")
        .ok (recorded, ledger)
      else .ok (disposition, ledger.putOperation key (row.finished disposition))

/-- The rows of a tenant that are still issued, `ORDER BY operation_id`. -/
def pending (ledger : AuthorityLedger) (tenantId : String) : List OperationDisposition :=
  let rows := ledger.operations.entries.filter (fun entry =>
    entry.1.1 = tenantId ∧ entry.2.state = .issued)
  (rows.insertionSort (fun left right => left.1.2 ≤ right.1.2)).map (fun entry =>
    ⟨tenantId, entry.1.2, entry.2.responseSlotId, .issued, none, none, none⟩)

/-- What a restart makes of a pending operation. -/
def unknown (brokerEpoch : Int) (disposition : OperationDisposition) : OperationDisposition :=
  { disposition with
    state := .outcomeUnknown
    recoveryObligationId := some ("broker-restart:" ++ toString brokerEpoch ++ ":" ++
      disposition.operationId) }

/-- One round of `reconcile_pending`. -/
def reconcileOne (brokerEpoch : Int) (progress : List String × AuthorityLedger)
    (disposition : OperationDisposition) :
    Except AuthorityLedgerError (List String × AuthorityLedger) := do
  let (_, after) ← progress.2.finish (unknown brokerEpoch disposition)
  .ok (progress.1 ++ [disposition.operationId], after)

/-- `reconcile_pending` with nobody else at work. -/
def reconcilePending (ledger : AuthorityLedger) (tenantId : String) (brokerEpoch : Int) :
    Except AuthorityLedgerError (List String × AuthorityLedger) :=
  (ledger.pending tenantId).foldlM (reconcileOne brokerEpoch) ([], ledger)

end AuthorityLedger

end Operations

end Chiplog.Platform
