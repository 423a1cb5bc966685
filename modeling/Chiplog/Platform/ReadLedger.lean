import Chiplog.Data.Checked
import Chiplog.Data.Dict
import Chiplog.Data.JsonReading
import Chiplog.Data.Traces

namespace Chiplog.Platform

open Chiplog.Data

/-! Durable total order for read invalidators and response-slot release.

A read attempt is begun with the authority state its caller holds and is released only while
the stored state still has that fingerprint.  Invalidators replace the state by compare and
swap on its fingerprint, after having read it in a transaction of their own. -/

structure BrokerReadState where
  tenantId : String
  brokerEpoch : Int
  credentialSessionHead : String
  endpointChannelHead : String
  fileWalObservation : String
  journalHead : String
  materializationCommitment : String
  ownerGeneration : String
  ownerDraining : Bool
  principalContourHead : String
  storageMutationGeneration : Int
  trustTransitionHead : String
  authoritySurfaceDigest : String
  amrFingerprint : String
deriving DecidableEq

instance : Model BrokerReadState := ⟨fun state =>
  [("tenant_id", toJson state.tenantId), ("broker_epoch", toJson state.brokerEpoch),
    ("credential_session_head", toJson state.credentialSessionHead),
    ("endpoint_channel_head", toJson state.endpointChannelHead),
    ("file_wal_observation", toJson state.fileWalObservation),
    ("journal_head", toJson state.journalHead),
    ("materialization_commitment", toJson state.materializationCommitment),
    ("owner_generation", toJson state.ownerGeneration),
    ("owner_draining", toJson state.ownerDraining),
    ("principal_contour_head", toJson state.principalContourHead),
    ("storage_mutation_generation", toJson state.storageMutationGeneration),
    ("trust_transition_head", toJson state.trustTransitionHead),
    ("authority_surface_digest", toJson state.authoritySurfaceDigest),
    ("amr_fingerprint", toJson state.amrFingerprint)]⟩

/-- What `model_validate_json` demands beyond the types; `model_copy` does not. -/
def BrokerReadState.Valid (state : BrokerReadState) : Prop :=
  0 < state.brokerEpoch ∧ 0 ≤ state.storageMutationGeneration

instance (state : BrokerReadState) : Decidable state.Valid :=
  inferInstanceAs (Decidable (_ ∧ _))

def BrokerReadState.canonicalBytes (state : BrokerReadState) : Bytes :=
  (toJson state).encodeAscii

inductive ReadVariant where
  | planningPublications
  | planningPublicationsR13
deriving DecidableEq

instance : Jsonable ReadVariant := ⟨fun
  | .planningPublications => .str "PLANNING_PUBLICATIONS"
  | .planningPublicationsR13 => .str "PLANNING_PUBLICATIONS_R13"⟩

structure ReadOperation where
  variant : ReadVariant
  requestId : String
  readAttemptId : String
  tenantId : String
  brokerEpoch : Int
  ownerId : String
  generationId : String
  sessionId : String
  afterCommitSequence : Int
  afterOperationKind : String
  afterIdempotencyKey : String
  maxRows : Int
  responseSlotId : String
deriving DecidableEq

instance : Model ReadOperation := ⟨fun operation =>
  [("variant", toJson operation.variant), ("request_id", toJson operation.requestId),
    ("read_attempt_id", toJson operation.readAttemptId),
    ("tenant_id", toJson operation.tenantId), ("broker_epoch", toJson operation.brokerEpoch),
    ("owner_id", toJson operation.ownerId), ("generation_id", toJson operation.generationId),
    ("session_id", toJson operation.sessionId), ("capability_id", .str "planning.read"),
    ("target_id", .str "planning-store"),
    ("after_commit_sequence", toJson operation.afterCommitSequence),
    ("after_operation_kind", toJson operation.afterOperationKind),
    ("after_idempotency_key", toJson operation.afterIdempotencyKey),
    ("max_rows", toJson operation.maxRows),
    ("response_slot_id", toJson operation.responseSlotId)]⟩

def ReadOperation.canonicalBytes (operation : ReadOperation) : Bytes :=
  (toJson operation).encodeAscii

/-- The payload of `recipient_fingerprint`. -/
def ReadOperation.recipientBytes (operation : ReadOperation) : Bytes :=
  Json.encodeAscii (.obj
    [("broker_epoch", toJson operation.brokerEpoch),
      ("generation_id", toJson operation.generationId), ("owner_id", toJson operation.ownerId),
      ("response_slot_id", toJson operation.responseSlotId),
      ("session_id", toJson operation.sessionId), ("tenant_id", toJson operation.tenantId)])

/-- The primary key of a read attempt. -/
def ReadOperation.key (operation : ReadOperation) : String × String :=
  (operation.tenantId, operation.readAttemptId)

inductive ReadDisposition where
  | pending
  | released
  | staleOrIndeterminateRead
deriving DecidableEq

structure ReadRelease where
  tenantId : String
  readAttemptId : String
  state : ReadDisposition
  resultDigest : Option String
  recipientFingerprint : String
  proofFingerprint : Option String
  enqueued : Bool
  dequeued : Bool
deriving DecidableEq

/-- Everything that ends a call of the ledger without an effect. -/
inductive ReadLedgerError where
  | conflict (reason : String)
  | invalidState
  | noBytes
deriving DecidableEq

/-- A row of `authority_read_state`; the state is what its canonical bytes hold. -/
structure StateRow where
  canonicalState : BrokerReadState
  stateFingerprint : String
deriving DecidableEq

/-- A row of `authority_read_releases`. -/
structure ReleaseRow where
  requestFingerprint : String
  initialStateFingerprint : String
  state : ReadDisposition
  resultDigest : Option String
  resultBytes : Option Bytes
  recipientFingerprint : String
  proofFingerprint : Option String
  enqueued : Bool
  dequeued : Bool
deriving DecidableEq

/-- Fenced by a restart. -/
def ReleaseRow.fence (row : ReleaseRow) : ReleaseRow :=
  { row with
    state := .staleOrIndeterminateRead
    resultDigest := none
    resultBytes := none
    enqueued := false }

/-- Found outdated by its release. -/
def ReleaseRow.stale (row : ReleaseRow) (proofFingerprint : String) : ReleaseRow :=
  { row with
    state := .staleOrIndeterminateRead
    proofFingerprint := some proofFingerprint }

structure ReadLedger where
  states : Dict String StateRow
  releases : Dict (String × String) ReleaseRow

def ReadLedger.empty : ReadLedger := ⟨.empty, .empty⟩

def ReadLedger.putRelease (ledger : ReadLedger) (key : String × String) (row : ReleaseRow) :
    ReadLedger :=
  { ledger with releases := ledger.releases.set key row }

section Operations

variable [Hashlib]

def BrokerReadState.fingerprint (state : BrokerReadState) : String :=
  (sha256 state.canonicalBytes).text

def BrokerReadState.row (state : BrokerReadState) : StateRow := ⟨state, state.fingerprint⟩

def ReadOperation.fingerprint (operation : ReadOperation) : String :=
  (sha256 operation.canonicalBytes).text

def ReadOperation.recipientFingerprint (operation : ReadOperation) : String :=
  (sha256 operation.recipientBytes).text

def ReleaseRow.release (row : ReleaseRow) (proofFingerprint : String) (resultBytes : Bytes) :
    ReleaseRow :=
  { row with
    state := .released
    resultDigest := some (sha256 resultBytes).text
    resultBytes := some resultBytes
    proofFingerprint := some proofFingerprint
    enqueued := true }

/-- The row of a read attempt that begins with the given state. -/
def ReadOperation.prepared (operation : ReadOperation) (state : BrokerReadState) : ReleaseRow where
  requestFingerprint := operation.fingerprint
  initialStateFingerprint := state.fingerprint
  state := .pending
  resultDigest := none
  resultBytes := none
  recipientFingerprint := operation.recipientFingerprint
  proofFingerprint := none
  enqueued := false
  dequeued := false

namespace ReadLedger

def publishInitialState (ledger : ReadLedger) (state : BrokerReadState) :
    Except ReadLedgerError ReadLedger := do
  raiseIf (ledger.states.get? state.tenantId).isSome
    (.conflict "authority read state already exists")
  .ok { ledger with states := ledger.states.set state.tenantId state.row }

/-- The update of `reconcile_generation` on one row. -/
def fenced (tenantId : String) (key : String × String) (row : ReleaseRow) : ReleaseRow :=
  if key.1 = tenantId ∧ row.state = .pending then row.fence else row

/-- Fence every old read attempt before publishing a restarted generation. -/
def reconcileGeneration (ledger : ReadLedger) (state : BrokerReadState) : ReadLedger :=
  ⟨ledger.states.set state.tenantId state.row,
    ledger.releases.mapValues (fenced state.tenantId)⟩

def currentStateOrNone (ledger : ReadLedger) (tenantId : String) :
    Except ReadLedgerError (Option BrokerReadState) :=
  match ledger.states.get? tenantId with
  | none => .ok none
  | some row => do
      raiseIf (¬ row.canonicalState.Valid) .invalidState
      raiseIf (row.canonicalState.fingerprint ≠ row.stateFingerprint)
        (.conflict "authority read state fingerprint mismatch")
      .ok (some row.canonicalState)

def currentState (ledger : ReadLedger) (tenantId : String) :
    Except ReadLedgerError BrokerReadState := do
  match ← ledger.currentStateOrNone tenantId with
  | none => .error (.conflict "authority read state is absent")
  | some state => .ok state

/-- `_replace_state`, on a state read before. -/
def replaceState (ledger : ReadLedger) (state : BrokerReadState) (expectedFingerprint : String)
    (changes : BrokerReadState → BrokerReadState) :
    Except ReadLedgerError (BrokerReadState × ReadLedger) := do
  raiseIf (state.fingerprint ≠ expectedFingerprint)
    (.conflict "stale authority read state predecessor")
  let successor := changes state
  raiseIf ((ledger.states.get? state.tenantId).map StateRow.stateFingerprint ≠
      some expectedFingerprint)
    (.conflict "rival authority read invalidator won")
  .ok (successor, { ledger with states := ledger.states.set state.tenantId successor.row })

/-! The invalidators: `reading` is the ledger when the state is read, `ledger` the one of the
compare and swap. -/

def invalidateStorageMutation (reading ledger : ReadLedger)
    (tenantId expectedFingerprint commitment observation : String) :
    Except ReadLedgerError (BrokerReadState × ReadLedger) := do
  let state ← reading.currentState tenantId
  ledger.replaceState state expectedFingerprint (fun state =>
    { state with
      fileWalObservation := observation
      materializationCommitment := commitment
      storageMutationGeneration := state.storageMutationGeneration + 1 })

def invalidateOwnerGeneration (reading ledger : ReadLedger)
    (tenantId expectedFingerprint generation : String) :
    Except ReadLedgerError (BrokerReadState × ReadLedger) := do
  let state ← reading.currentState tenantId
  ledger.replaceState state expectedFingerprint (fun state =>
    { state with ownerDraining := false, ownerGeneration := generation })

def startOwnerDrain (reading ledger : ReadLedger) (tenantId expectedFingerprint : String) :
    Except ReadLedgerError (BrokerReadState × ReadLedger) := do
  let state ← reading.currentState tenantId
  ledger.replaceState state expectedFingerprint (fun state => { state with ownerDraining := true })

def invalidateBrokerEpoch (reading ledger : ReadLedger) (tenantId expectedFingerprint : String)
    (epoch : Int) : Except ReadLedgerError (BrokerReadState × ReadLedger) := do
  let state ← reading.currentState tenantId
  ledger.replaceState state expectedFingerprint (fun state => { state with brokerEpoch := epoch })

def invalidateCredentialSession (reading ledger : ReadLedger)
    (tenantId expectedFingerprint head : String) :
    Except ReadLedgerError (BrokerReadState × ReadLedger) := do
  let state ← reading.currentState tenantId
  ledger.replaceState state expectedFingerprint (fun state =>
    { state with credentialSessionHead := head })

def invalidateEndpointChannel (reading ledger : ReadLedger)
    (tenantId expectedFingerprint head : String) :
    Except ReadLedgerError (BrokerReadState × ReadLedger) := do
  let state ← reading.currentState tenantId
  ledger.replaceState state expectedFingerprint (fun state =>
    { state with endpointChannelHead := head })

def invalidateFileWal (reading ledger : ReadLedger)
    (tenantId expectedFingerprint observation : String) :
    Except ReadLedgerError (BrokerReadState × ReadLedger) := do
  let state ← reading.currentState tenantId
  ledger.replaceState state expectedFingerprint (fun state =>
    { state with fileWalObservation := observation })

def invalidateJournalDecision (reading ledger : ReadLedger)
    (tenantId expectedFingerprint head : String) :
    Except ReadLedgerError (BrokerReadState × ReadLedger) := do
  let state ← reading.currentState tenantId
  ledger.replaceState state expectedFingerprint (fun state => { state with journalHead := head })

def invalidateMaterialization (reading ledger : ReadLedger)
    (tenantId expectedFingerprint commitment : String) :
    Except ReadLedgerError (BrokerReadState × ReadLedger) := do
  let state ← reading.currentState tenantId
  ledger.replaceState state expectedFingerprint (fun state =>
    { state with materializationCommitment := commitment })

def invalidatePrincipalContour (reading ledger : ReadLedger)
    (tenantId expectedFingerprint head : String) :
    Except ReadLedgerError (BrokerReadState × ReadLedger) := do
  let state ← reading.currentState tenantId
  ledger.replaceState state expectedFingerprint (fun state =>
    { state with principalContourHead := head })

def invalidateTrustTransition (reading ledger : ReadLedger)
    (tenantId expectedFingerprint head : String) :
    Except ReadLedgerError (BrokerReadState × ReadLedger) := do
  let state ← reading.currentState tenantId
  ledger.replaceState state expectedFingerprint (fun state =>
    { state with trustTransitionHead := head })

def begin (ledger : ReadLedger) (operation : ReadOperation) (state : BrokerReadState) :
    Except ReadLedgerError (ReadRelease × ReadLedger) := do
  raiseIf (operation.tenantId ≠ state.tenantId)
    (.conflict "read tenant differs from authority state")
  raiseIf (ledger.releases.get? operation.key).isSome
    (.conflict "read attempt identity already exists")
  .ok (⟨operation.tenantId, operation.readAttemptId, .pending, none,
    operation.recipientFingerprint, none, false, false⟩,
    ledger.putRelease operation.key (operation.prepared state))

/-- `current_matches`. -/
def CurrentMatches (ledger : ReadLedger) (row : ReleaseRow) (operation : ReadOperation)
    (expectedState : BrokerReadState) : Prop :=
  (ledger.states.get? operation.tenantId).map StateRow.stateFingerprint =
      some expectedState.fingerprint ∧
    row.initialStateFingerprint = expectedState.fingerprint ∧
    expectedState.ownerDraining = false ∧ operation.brokerEpoch = expectedState.brokerEpoch ∧
    operation.generationId = expectedState.ownerGeneration

instance (ledger : ReadLedger) (row : ReleaseRow) (operation : ReadOperation)
    (expectedState : BrokerReadState) :
    Decidable (ledger.CurrentMatches row operation expectedState) :=
  inferInstanceAs (Decidable (_ ∧ _ ∧ _ ∧ _ ∧ _))

/-- `_release_from_row`. -/
def releaseFromRow (operation : ReadOperation) (row : ReleaseRow) : ReadRelease :=
  ⟨operation.tenantId, operation.readAttemptId, row.state, row.resultDigest,
    row.recipientFingerprint, row.proofFingerprint, row.enqueued, row.dequeued⟩

def release (ledger : ReadLedger) (operation : ReadOperation) (expectedState : BrokerReadState)
    (proofFingerprint : String) (resultBytes : Bytes) :
    Except ReadLedgerError (ReadRelease × ReadLedger) :=
  match ledger.releases.get? operation.key with
  | none => .error (.conflict "read attempt was not prepared")
  | some row => do
      raiseIf (row.requestFingerprint ≠ operation.fingerprint)
        (.conflict "changed read attempt replay")
      if row.state ≠ .pending then .ok (releaseFromRow operation row, ledger)
      else if ledger.CurrentMatches row operation expectedState then
        .ok (⟨operation.tenantId, operation.readAttemptId, .released,
          some (sha256 resultBytes).text, operation.recipientFingerprint, some proofFingerprint,
          true, false⟩,
          ledger.putRelease operation.key (row.release proofFingerprint resultBytes))
      else
        .ok (⟨operation.tenantId, operation.readAttemptId, .staleOrIndeterminateRead, none,
          operation.recipientFingerprint, some proofFingerprint, false, false⟩,
          ledger.putRelease operation.key (row.stale proofFingerprint))

def dequeue (ledger : ReadLedger) (operation : ReadOperation) :
    Except ReadLedgerError (Option Bytes × ReadLedger) :=
  match ledger.releases.get? operation.key with
  | none => .ok (none, ledger)
  | some row =>
      if row.recipientFingerprint ≠ operation.recipientFingerprint ∨ row.state ≠ .released ∨
          row.enqueued = false ∨ row.dequeued = true then .ok (none, ledger)
      else
        match row.resultBytes with
        | none => .error .noBytes
        | some bytes =>
            .ok (some bytes, ledger.putRelease operation.key { row with dequeued := true })

end ReadLedger

end Operations

end Chiplog.Platform
