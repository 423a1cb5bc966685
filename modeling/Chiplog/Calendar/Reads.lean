import Chiplog.Calendar.Observations
import Chiplog.Platform.ReadLedger

namespace Chiplog.Calendar

open Chiplog.Data
open Chiplog.Platform (BrokerReadState ReleaseRow ReadRelease ReadDisposition)

/-! Snapshot acquisition and release to the recipient.

A broker keeps its snapshots, cursors, slots and released reads in memory; the ledger is a file
that others write too.  Between two transactions of one read they may change it, so a read meets
the ledger as it is at each of them. -/

/-! ### Wire records -/

/-- `model_validate_json`, which reads back what `model_dump_json` has written. -/
class Wire (α : Type) [Jsonable α] where
  modelValidateJson : Bytes → Option α
  validate_dump (value : α) : modelValidateJson (utf8 (modelDumpJson value)) = some value

export Wire (modelValidateJson)

structure WorkspaceReadContext where
  tenantId : Identity
  databaseInstanceId : Identity
  principalId : Identity
  principalContourHead : Identity
  channelId : Identity
  endpointBindingHead : Identity
  brokerEpoch : ℕ+
  ownerId : Identity
  generationId : Identity
  sessionId : Identity
  snapshotId : Identity
  snapshotFrontier : Nat
  verifiedSnapshotBytes : NonemptyBytes
  invalidatorRegistryDigest : Identity
  policyHead : Identity
  deletionFenceHead : Identity
  observedAtNs : Nat
deriving DecidableEq

instance : Model WorkspaceReadContext := ⟨fun value =>
  [("tenant_id", toJson value.tenantId),
    ("database_instance_id", toJson value.databaseInstanceId),
    ("principal_id", toJson value.principalId),
    ("principal_contour_head", toJson value.principalContourHead),
    ("channel_id", toJson value.channelId),
    ("endpoint_binding_head", toJson value.endpointBindingHead),
    ("broker_epoch", toJson value.brokerEpoch), ("owner_id", toJson value.ownerId),
    ("generation_id", toJson value.generationId), ("session_id", toJson value.sessionId),
    ("snapshot_id", toJson value.snapshotId),
    ("snapshot_frontier", toJson value.snapshotFrontier),
    ("verified_snapshot_bytes", toJson value.verifiedSnapshotBytes),
    ("invalidator_registry_digest", toJson value.invalidatorRegistryDigest),
    ("policy_head", toJson value.policyHead),
    ("deletion_fence_head", toJson value.deletionFenceHead),
    ("observed_at_ns", toJson value.observedAtNs)]⟩

inductive WorkspaceQuery where
  | conversationHistory
  | planningView
  | journalClaims
  | calendarAgenda
  | calendarDetail
deriving DecidableEq

def WorkspaceQuery.wire : WorkspaceQuery → String
  | .conversationHistory => "CONVERSATION_HISTORY"
  | .planningView => "PLANNING_VIEW"
  | .journalClaims => "JOURNAL_CLAIMS"
  | .calendarAgenda => "CALENDAR_AGENDA"
  | .calendarDetail => "CALENDAR_DETAIL"

instance : Jsonable WorkspaceQuery := ⟨fun query => .str query.wire⟩

structure WorkspaceReadRequest where
  context : WorkspaceReadContext
  query : WorkspaceQuery
  requestId : Identity
  readAttemptId : Identity
  responseSlotId : Identity
  maxRows : Nat
  afterCursor : Option String
  detailId : Option String
  rangeStartNs : Option Int
  rangeEndNs : Option Int
  bounded : 0 < maxRows ∧ maxRows ≤ 1000
deriving DecidableEq

instance : Model WorkspaceReadRequest := ⟨fun value =>
  [("context", toJson value.context), ("query", toJson value.query),
    ("request_id", toJson value.requestId), ("read_attempt_id", toJson value.readAttemptId),
    ("response_slot_id", toJson value.responseSlotId), ("max_rows", toJson value.maxRows),
    ("after_cursor", toJson value.afterCursor), ("detail_id", toJson value.detailId),
    ("range_start_ns", toJson value.rangeStartNs), ("range_end_ns", toJson value.rangeEndNs)]⟩

inductive Disposition where
  | current
  | lagging
  | staleOrIndeterminateRead
  | denied
  | notFound
deriving DecidableEq

instance : Jsonable Disposition := ⟨fun
  | .current => .str "CURRENT"
  | .lagging => .str "LAGGING"
  | .staleOrIndeterminateRead => .str "STALE_OR_INDETERMINATE_READ"
  | .denied => .str "DENIED"
  | .notFound => .str "NOT_FOUND"⟩

structure WorkspaceReadResult where
  disposition : Disposition
  context : WorkspaceReadContext
  requestId : Identity
  readAttemptId : Identity
  rows : List WorkspaceRow
  nextCursor : Option String
  reason : Option String
deriving DecidableEq

instance : Model WorkspaceReadResult := ⟨fun value =>
  [("disposition", toJson value.disposition), ("context", toJson value.context),
    ("request_id", toJson value.requestId), ("read_attempt_id", toJson value.readAttemptId),
    ("rows", toJson value.rows), ("next_cursor", toJson value.nextCursor),
    ("reason", toJson value.reason)]⟩

/-! ### States and operations -/

structure CalendarReadState extends BrokerReadState where
  databaseInstanceId : String
  principalId : String
  channelId : String
  policyHead : String
  deletionFenceHead : String
  providerRevision : String
  sourceHeadsDigest : String
deriving DecidableEq

instance : Model CalendarReadState := ⟨fun value =>
  modelDump value.toBrokerReadState ++
    [("database_instance_id", toJson value.databaseInstanceId),
      ("principal_id", toJson value.principalId), ("channel_id", toJson value.channelId),
      ("policy_head", toJson value.policyHead),
      ("deletion_fence_head", toJson value.deletionFenceHead),
      ("provider_revision", toJson value.providerRevision),
      ("source_heads_digest", toJson value.sourceHeadsDigest)]⟩

inductive CalendarVariant where
  | agenda
  | detail
deriving DecidableEq

instance : Jsonable CalendarVariant := ⟨fun
  | .agenda => .str "CALENDAR_AGENDA"
  | .detail => .str "CALENDAR_DETAIL"⟩

structure CalendarReadOperation where
  variant : CalendarVariant
  requestId : String
  readAttemptId : String
  tenantId : String
  brokerEpoch : Int
  generationId : String
  sessionId : String
  responseSlotId : String
  -- `request_bytes` is this text
  requestText : String
deriving DecidableEq

/-- The fields before the request. -/
def CalendarReadOperation.fields (operation : CalendarReadOperation) : List (String × Json) :=
  [("variant", toJson operation.variant), ("owner_id", .str "calendar_observations"),
    ("capability_id", .str "calendar.read"), ("target_id", .str "calendar-observations"),
    ("request_id", toJson operation.requestId),
    ("read_attempt_id", toJson operation.readAttemptId),
    ("tenant_id", toJson operation.tenantId), ("broker_epoch", toJson operation.brokerEpoch),
    ("generation_id", toJson operation.generationId),
    ("session_id", toJson operation.sessionId),
    ("response_slot_id", toJson operation.responseSlotId)]

instance : Model CalendarReadOperation := ⟨fun operation =>
  operation.fields ++ [("request_bytes", toJson operation.requestText)]⟩

/-- The primary key of a read attempt. -/
def CalendarReadOperation.key (operation : CalendarReadOperation) : String × String :=
  (operation.tenantId, operation.readAttemptId)

/-- `CALENDAR_QUERY_MANIFEST`. -/
def queryManifest : List (List String) :=
  [["CALENDAR_AGENDA", "calendar_observations", "calendar.read", "calendar-observations"],
    ["CALENDAR_DETAIL", "calendar_observations", "calendar.read", "calendar-observations"]]

/-- `CALENDAR_INVALIDATORS`. -/
def calendarInvalidators : List String :=
  ["tenant_id", "broker_epoch", "credential_session_head", "endpoint_channel_head",
    "file_wal_observation", "journal_head", "materialization_commitment", "owner_generation",
    "owner_draining", "principal_contour_head", "storage_mutation_generation",
    "trust_transition_head", "authority_surface_digest", "amr_fingerprint",
    "database_instance_id", "principal_id", "channel_id", "policy_head", "deletion_fence_head",
    "provider_revision", "source_heads_digest"]

inductive CalendarFailure where
  | value (reason : String)
  | conflict (reason : String)
  -- `CalendarReadIntegrityError`
  | integrity
  -- `CalendarResponseIntegrityError`
  | response
  | typeError
deriving DecidableEq

structure CalendarStateRow where
  canonicalState : CalendarReadState
  stateFingerprint : String

/-- The ledger's file; its path and inode say whether it is still the same. -/
structure CalendarReadLedger where
  physicalIdentity : String × Nat × Nat
  states : Dict String CalendarStateRow
  releases : Dict (String × String) ReleaseRow

namespace CalendarReadLedger

def putRelease (ledger : CalendarReadLedger) (key : String × String) (row : ReleaseRow) :
    CalendarReadLedger :=
  { ledger with releases := ledger.releases.set key row }

end CalendarReadLedger

section

variable [Hashlib]

/-- `CALENDAR_REGISTRY_DIGEST`. -/
def calendarRegistryDigest : Digest :=
  sha256 (encodeSpaced (.arr [toJson queryManifest, toJson calendarInvalidators]))

def CalendarReadState.canonicalBytes (state : CalendarReadState) : Bytes :=
  (toJson state).encodeAscii

def CalendarReadState.fingerprint (state : CalendarReadState) : String :=
  (sha256 state.canonicalBytes).text

def CalendarReadOperation.fingerprint (operation : CalendarReadOperation) : String :=
  (sha256 (encodeSpaced (.obj
    (operation.fields ++ [("request_hex", .str (hex (utf8 operation.requestText)))])))).text

def CalendarReadOperation.recipientFingerprint (operation : CalendarReadOperation) : String :=
  (sha256 (encodeSpaced (.arr [toJson operation.tenantId, toJson operation.brokerEpoch,
    .str "calendar_observations", toJson operation.generationId, toJson operation.sessionId,
    toJson operation.responseSlotId]))).text

namespace CalendarReadLedger

def currentState (ledger : CalendarReadLedger) (tenantId : String) :
    Except CalendarFailure CalendarReadState :=
  match ledger.states.get? tenantId with
  | none => .error (.conflict "calendar read state is absent")
  | some row => do
      raiseIf (¬ row.canonicalState.Valid) .integrity
      raiseIf (row.canonicalState.fingerprint ≠ row.stateFingerprint ∨
        row.canonicalState.tenantId ≠ tenantId) .integrity
      .ok row.canonicalState

/-- The row of a read attempt that begins with the given state. -/
def prepared (operation : CalendarReadOperation) (state : CalendarReadState) : ReleaseRow where
  requestFingerprint := operation.fingerprint
  initialStateFingerprint := state.fingerprint
  state := .pending
  resultDigest := none
  resultBytes := none
  recipientFingerprint := operation.recipientFingerprint
  proofFingerprint := none
  enqueued := false
  dequeued := false

def begin (ledger : CalendarReadLedger) (operation : CalendarReadOperation)
    (state : CalendarReadState) : Except CalendarFailure CalendarReadLedger := do
  raiseIf (operation.tenantId ≠ state.tenantId)
    (.conflict "read tenant differs from authority state")
  raiseIf (ledger.releases.get? operation.key).isSome
    (.conflict "read attempt identity already exists")
  .ok (ledger.putRelease operation.key (prepared operation state))

/-- `current_matches`. -/
def CurrentMatches (ledger : CalendarReadLedger) (row : ReleaseRow)
    (operation : CalendarReadOperation) (expectedState : CalendarReadState) : Prop :=
  (ledger.states.get? operation.tenantId).map CalendarStateRow.stateFingerprint =
      some expectedState.fingerprint ∧
    row.initialStateFingerprint = expectedState.fingerprint ∧
    expectedState.ownerDraining = false ∧ operation.brokerEpoch = expectedState.brokerEpoch ∧
    operation.generationId = expectedState.ownerGeneration

instance (ledger : CalendarReadLedger) (row : ReleaseRow) (operation : CalendarReadOperation)
    (expectedState : CalendarReadState) :
    Decidable (ledger.CurrentMatches row operation expectedState) :=
  inferInstanceAs (Decidable (_ ∧ _ ∧ _ ∧ _ ∧ _))

/-- `release`, of whose result a read looks at the state only. -/
def release (ledger : CalendarReadLedger) (operation : CalendarReadOperation)
    (expectedState : CalendarReadState) (proofFingerprint : String) (resultBytes : Bytes) :
    Except CalendarFailure (ReadDisposition × CalendarReadLedger) :=
  match ledger.releases.get? operation.key with
  | none => .error (.conflict "read attempt was not prepared")
  | some row => do
      raiseIf (row.requestFingerprint ≠ operation.fingerprint)
        (.conflict "changed read attempt replay")
      if row.state ≠ .pending then .ok (row.state, ledger)
      else if ledger.CurrentMatches row operation expectedState then
        .ok (.released,
          ledger.putRelease operation.key (row.release proofFingerprint resultBytes))
      else
        .ok (.staleOrIndeterminateRead,
          ledger.putRelease operation.key (row.stale proofFingerprint))

def dequeue (ledger : CalendarReadLedger) (operation : CalendarReadOperation) :
    Except CalendarFailure (Option Bytes × CalendarReadLedger) :=
  match ledger.releases.get? operation.key with
  | none => .ok (none, ledger)
  | some row =>
      if row.recipientFingerprint ≠ operation.recipientFingerprint ∨ row.state ≠ .released ∨
          row.enqueued = false ∨ row.dequeued = true then .ok (none, ledger)
      else
        match row.resultBytes with
        | none => .error .typeError
        | some bytes =>
            .ok (some bytes, ledger.putRelease operation.key { row with dequeued := true })

/-- The receipt of an exact released and dequeued read. -/
def receipt (operation : CalendarReadOperation) (proofFingerprint : String)
    (resultBytes : Bytes) : ReadRelease where
  tenantId := operation.tenantId
  readAttemptId := operation.readAttemptId
  state := .released
  resultDigest := some (sha256 resultBytes).text
  recipientFingerprint := operation.recipientFingerprint
  proofFingerprint := some proofFingerprint
  enqueued := true
  dequeued := true

/-- `_released_dequeued_receipt`. -/
def releasedDequeuedReceipt (ledger : CalendarReadLedger) (operation : CalendarReadOperation)
    (expectedState : CalendarReadState) (proofFingerprint : String) (resultBytes : Bytes) :
    Except CalendarFailure ReadRelease :=
  match ledger.releases.get? operation.key with
  | none => .error .integrity
  | some row => do
      raiseIf (row.requestFingerprint ≠ operation.fingerprint ∨
          row.initialStateFingerprint ≠ expectedState.fingerprint ∨ row.state ≠ .released ∨
          row.resultDigest ≠ some (sha256 resultBytes).text ∨
          row.recipientFingerprint ≠ operation.recipientFingerprint ∨
          row.proofFingerprint ≠ some proofFingerprint ∨ row.enqueued = false ∨
          row.dequeued = false ∨ row.resultBytes ≠ some resultBytes)
        .integrity
      .ok (receipt operation proofFingerprint resultBytes)

/-- `_historical_released_dequeued_receipt`. -/
def historicalReceipt (operation : CalendarReadOperation) (state : CalendarReadState)
    (proofFingerprint : String) (resultBytes : Bytes)
    (resultDigest recipientFingerprint : String) : Except CalendarFailure ReadRelease := do
  raiseIf (operation.tenantId ≠ state.tenantId ∨ (sha256 resultBytes).text ≠ resultDigest ∨
      operation.recipientFingerprint ≠ recipientFingerprint ∨ proofFingerprint = "")
    .integrity
  .ok {
    tenantId := operation.tenantId
    readAttemptId := operation.readAttemptId
    state := .released
    resultDigest := some resultDigest
    recipientFingerprint
    proofFingerprint := some proofFingerprint
    enqueued := true
    dequeued := true }

end CalendarReadLedger

end

/-! ### Brokers -/

abbrev Peer := Nat

structure Snapshot where
  context : WorkspaceReadContext
  state : CalendarReadState
  peer : Peer
  providerBatch : CalendarBatch
  rows : List WorkspaceRow
  freshness : Freshness
deriving DecidableEq

structure CalendarCursorBinding where
  token : String
  snapshotId : String
  queryBinding : Bytes
  lastOrderKey : String
deriving DecidableEq

structure OriginalCalendarRead where
  providerBatch : CalendarBatch
  state : CalendarReadState
  operation : CalendarReadOperation
  result : WorkspaceReadResult
  receipt : ReadRelease
  cursorBinding : Option CalendarCursorBinding
deriving DecidableEq

structure CalendarReadBroker where
  identity : String × Nat × Nat
  peers : Dict Peer (String × String × String)
  snapshots : Dict Identity Snapshot
  cursors : Dict String (Identity × Bytes × String)
  originalReads : Dict (Peer × Identity × String) OriginalCalendarRead
  slots : List (Identity × Identity × Identity)

/-- What a call leaves behind, whether it returns or raises. -/
structure Answer where
  result : Except CalendarFailure WorkspaceReadResult
  broker : CalendarReadBroker
  ledger : CalendarReadLedger

/-- `_freshness`. -/
def freshnessOf (batch : CalendarBatch) : Freshness :=
  if .unknown ∈ batch.observations.map CalendarObservation.freshness then .unknown
  else if .lagging ∈ batch.observations.map CalendarObservation.freshness then .lagging
  else .current

/-- A freshness as a disposition; the model has no `UNKNOWN` one. -/
def Freshness.disposition? : Freshness → Option Disposition
  | .current => some .current
  | .lagging => some .lagging
  | .unknown => none

def queryBinding (request : WorkspaceReadRequest) : Bytes :=
  encodeSpaced (.arr [toJson request.query, toJson request.detailId,
    toJson request.rangeStartNs, toJson request.rangeEndNs])

/-- `_result` of a disposition that the model has. -/
def resultOf (request : WorkspaceReadRequest) (disposition : Disposition)
    (rows : List WorkspaceRow) (nextCursor reason : Option String) : WorkspaceReadResult where
  disposition
  context := request.context
  requestId := request.requestId
  readAttemptId := request.readAttemptId
  rows
  nextCursor
  reason

/-- The result of a page. -/
def pageResult (request : WorkspaceReadRequest) (freshness : Freshness)
    (page : List WorkspaceRow) (nextCursor : Option String) :
    Except CalendarFailure WorkspaceReadResult :=
  if page ≠ [] ∨ request.query = .calendarAgenda then
    match freshness.disposition? with
    | none => .error (.value "validation error")
    | some disposition => .ok (resultOf request disposition page nextCursor none)
  else .ok (resultOf request .notFound page nextCursor none)

def refused (request : WorkspaceReadRequest) (disposition : Disposition) (reason : String) :
    WorkspaceReadResult :=
  resultOf request disposition [] none (some reason)

/-- `except (ValueError, OSError, ReadLedgerConflict)`. -/
def caught (request : WorkspaceReadRequest) :
    CalendarFailure → Except CalendarFailure WorkspaceReadResult
  | .value reason => .ok (refused request .staleOrIndeterminateRead reason)
  | .conflict reason => .ok (refused request .staleOrIndeterminateRead reason)
  | failure => .error failure

def variantOf? : WorkspaceQuery → Option CalendarVariant
  | .calendarAgenda => some .agenda
  | .calendarDetail => some .detail
  | _ => none

/-- `_operation`, with the variant of the request's query. -/
def operationOf (context : WorkspaceReadContext) (request : WorkspaceReadRequest)
    (variant : CalendarVariant) : CalendarReadOperation where
  variant
  requestId := request.requestId.text
  readAttemptId := request.readAttemptId.text
  tenantId := context.tenantId.text
  brokerEpoch := context.brokerEpoch
  generationId := context.generationId.text
  sessionId := context.sessionId.text
  responseSlotId := request.responseSlotId.text
  requestText := modelDumpJson request

/-- The interval in the payload of a row. -/
def interval? (loads : Bytes → Option Json) (payload : Bytes) : Option (Int × Int) :=
  match loads payload with
  | some (.obj fields) =>
      match fields.lookup "start_ns", fields.lookup "end_ns" with
      | some (.int start), some (.int stop) => some (start, stop)
      | _, _ => none
  | _ => none

/-- The loop of `_select`: the rows after a key whose events overlap the range. -/
def overlapping (loads : Bytes → Option Json) (after : String) (rangeStart rangeEnd : Int) :
    List WorkspaceRow → Except CalendarFailure (List WorkspaceRow)
  | [] => .ok []
  | row :: rows =>
      match interval? loads row.canonicalPayload with
      | none => .error .typeError
      | some (start, stop) => do
          let result ← overlapping loads after rangeStart rangeEnd rows
          .ok (if after < row.orderKey ∧ start < rangeEnd ∧ rangeStart < stop then row :: result
            else result)

/-- `_select`. -/
def select (loads : Bytes → Option Json) (broker : CalendarReadBroker) (snapshot : Snapshot)
    (request : WorkspaceReadRequest) : Except CalendarFailure (List WorkspaceRow) :=
  if request.query = .calendarDetail then do
    raiseIf (request.detailId.getD "" = "" ∨ request.afterCursor.isSome ∨
        request.rangeStartNs.isSome ∨ request.rangeEndNs.isSome)
      (.value "detail requires only exact detail identity")
    .ok (snapshot.rows.filter (fun row => some row.rowId = request.detailId))
  else
    match request.detailId, request.rangeStartNs, request.rangeEndNs with
    | none, some rangeStart, some rangeEnd => do
        raiseIf (rangeStart < 0 ∨ rangeEnd ≤ rangeStart)
          (.value "agenda requires an ordered nonempty range")
        match request.afterCursor with
        | none => overlapping loads "" rangeStart rangeEnd snapshot.rows
        | some token =>
            match broker.cursors.get? token with
            | none => .error (.value "unknown, foreign or changed-query cursor")
            | some (snapshotId, binding, after) => do
                raiseIf ((snapshotId, binding) ≠
                    (snapshot.context.snapshotId, queryBinding request))
                  (.value "unknown, foreign or changed-query cursor")
                overlapping loads after rangeStart rangeEnd snapshot.rows
    | _, _, _ => .error (.value "agenda requires an ordered nonempty range")

section

variable [Hashlib]

/-- `CalendarReadState` as the heads and the channel of `prepare_rows`. -/
def preparationOf (tenant channel : String) (state : CalendarReadState) : Preparation where
  tenant
  policy := state.policyHead
  contour := state.principalContourHead
  fence := state.deletionFenceHead
  endpoint := channel

def identity? (text : String) : Except CalendarFailure Identity :=
  if nonempty : text ≠ "" then .ok ⟨text, nonempty⟩ else .error (.value "validation error")

def positive? (value : Int) : Except CalendarFailure ℕ+ :=
  if positive : 0 < value.toNat then .ok ⟨value.toNat, positive⟩
  else .error (.value "validation error")

def natural? (value : Int) : Except CalendarFailure Nat :=
  if value < 0 then .error (.value "validation error") else .ok value.toNat

/-- What `secrets` gives an acquisition. -/
structure Tokens where
  snapshotId : Identity
  sessionId : Identity
  verifiedSnapshotBytes : NonemptyBytes

/-- The context of `acquire`. -/
def contextOf (tokens : Tokens) (tenant principal channel : String) (state : CalendarReadState)
    (observedAtNs : Nat) : Except CalendarFailure WorkspaceReadContext := do
  .ok {
    tenantId := ← identity? tenant
    databaseInstanceId := ← identity? state.databaseInstanceId
    principalId := ← identity? principal
    principalContourHead := ← identity? state.principalContourHead
    channelId := ← identity? channel
    endpointBindingHead := ← identity? state.endpointChannelHead
    brokerEpoch := ← positive? state.brokerEpoch
    ownerId := ⟨"calendar_observations", by decide⟩
    generationId := ← identity? state.ownerGeneration
    sessionId := tokens.sessionId
    snapshotId := tokens.snapshotId
    snapshotFrontier := ← natural? state.storageMutationGeneration
    verifiedSnapshotBytes := tokens.verifiedSnapshotBytes
    invalidatorRegistryDigest := calendarRegistryDigest.identity
    policyHead := ← identity? state.policyHead
    deletionFenceHead := ← identity? state.deletionFenceHead
    observedAtNs }

/-- A failure of `prepare_rows` is a `ValueError`. -/
def rowsOf (batch : CalendarBatch) (preparation : Preparation) :
    Except CalendarFailure (List WorkspaceRow) :=
  (prepareRows batch preparation).mapError .value

/-- `acquire`; the ledger may have changed while the provider observed. -/
def acquire [Wire CalendarBatch] (broker : CalendarReadBroker) (peer : Peer)
    (tokens : Tokens) (observedAtNs : Nat) (first second : CalendarReadLedger)
    (observed : CalendarBatch) :
    Except CalendarFailure (WorkspaceReadContext × CalendarReadBroker) :=
  match broker.peers.get? peer with
  | none => .error (.value "transport peer is not authenticated")
  | some (tenant, principal, channel) => do
      let state ← first.currentState tenant
      raiseIf (first.physicalIdentity ≠ broker.identity ∨ state.ownerDraining = true ∨
          state.principalId ≠ principal ∨ state.channelId ≠ channel)
        (.value "physical identity or authenticated recipient changed")
      match modelValidateJson (utf8 (modelDumpJson observed)) with
      | none => .error (.value "validation error")
      | some (batch : CalendarBatch) => do
          raiseIf (batch.revision.text ≠ state.providerRevision ∨
              sourceHeadsDigest batch ≠ state.sourceHeadsDigest)
            (.value "provider revision or current source heads differ")
          let rows ← rowsOf batch (preparationOf tenant channel state)
          raiseIf (∃ observation ∈ batch.observations, observedAtNs < observation.observedAtNs)
            (.value "provider observation is from the future")
          let current ← second.currentState tenant
          raiseIf (current ≠ state) (.value "invalidator changed during acquisition")
          let context ← contextOf tokens tenant principal channel state observedAtNs
          .ok (context, { broker with
            snapshots := broker.snapshots.set context.snapshotId
              ⟨context, state, peer, batch, rows, freshnessOf batch⟩ })

/-- The proof of a release. -/
def proofOf (context : WorkspaceReadContext) (state : CalendarReadState)
    (operation : CalendarReadOperation) : Digest :=
  sha256 (context.verifiedSnapshotBytes.items ++ state.canonicalBytes ++
    utf8 operation.fingerprint)

/-- What others do to the ledger between two transactions of a read. -/
structure Interference where
  beforeBegin : CalendarReadLedger → CalendarReadLedger
  beforeRelease : CalendarReadLedger → CalendarReadLedger
  beforeDequeue : CalendarReadLedger → CalendarReadLedger
  beforeReceipt : CalendarReadLedger → CalendarReadLedger

/-- The end of a read: nothing when its release was fenced. -/
abbrev Delivered := Except CalendarFailure (Option (Bytes × ReadRelease))

/-- From the release to the receipt. -/
def deliver [Wire WorkspaceReadResult] (others : Interference) (identity : String × Nat × Nat)
    (ledger : CalendarReadLedger) (operation : CalendarReadOperation) (state : CalendarReadState)
    (proof : String) (preparedBytes : Bytes) : Delivered × CalendarReadLedger :=
  let ledger := others.beforeRelease ledger
  if ledger.physicalIdentity ≠ identity then
    (.error (.value "physical identity changed before release"), ledger)
  else
    match ledger.release operation state proof preparedBytes with
    | .error failure => (.error failure, ledger)
    | .ok (disposition, ledger) =>
        let ledger := others.beforeDequeue ledger
        if ledger.physicalIdentity ≠ identity then
          (.error (.value "physical ledger changed during release"), ledger)
        else if disposition ≠ .released then (.ok none, ledger)
        else
          match ledger.dequeue operation with
          | .error failure => (.error failure, ledger)
          | .ok (emitted, ledger) =>
              let ledger := others.beforeReceipt ledger
              if ledger.physicalIdentity ≠ identity then
                (.error (.value "physical ledger changed during response dequeue"), ledger)
              else
                match emitted with
                | none => (.error (.value "recipient release slot unavailable"), ledger)
                | some emitted =>
                    if emitted ≠ preparedBytes then (.error .response, ledger)
                    else
                      match (modelValidateJson emitted : Option WorkspaceReadResult) with
                      | none => (.error (.value "validation error"), ledger)
                      | some _ =>
                          match ledger.releasedDequeuedReceipt operation state proof emitted with
                          | .error failure => (.error failure, ledger)
                          | .ok receipt => (.ok (some (emitted, receipt)), ledger)

/-- The rows that a read selects; none where its heads are stale. -/
def admission (loads : Bytes → Option Json) (broker : CalendarReadBroker)
    (ledger : CalendarReadLedger) (snapshot : Snapshot) (request : WorkspaceReadRequest) :
    Except CalendarFailure (Option (List WorkspaceRow)) :=
  if ledger.physicalIdentity ≠ broker.identity then .ok none
  else do
    let state ← ledger.currentState snapshot.context.tenantId.text
    if state ≠ snapshot.state ∨ snapshot.freshness = .unknown then .ok none
    else do
      let rows ← select loads broker snapshot request
      .ok (some rows)

/-- The cursor of a read that leaves rows behind. -/
def cursorBinding? (token : String) (snapshot : Snapshot) (request : WorkspaceReadRequest)
    (selected : List WorkspaceRow) : Option CalendarCursorBinding :=
  if request.maxRows < selected.length then
    (selected.take request.maxRows).getLast?.map (fun last =>
      ⟨token, snapshot.context.snapshotId.text, queryBinding request, last.orderKey⟩)
  else none

/-- `self._cursors[cursor] = …`. -/
def CalendarReadBroker.keepCursor (broker : CalendarReadBroker) (snapshot : Snapshot) :
    Option CalendarCursorBinding → CalendarReadBroker
  | none => broker
  | some binding => { broker with
      cursors := broker.cursors.set binding.token
        (snapshot.context.snapshotId, binding.queryBinding, binding.lastOrderKey) }

/-- A read of the rows it has selected. -/
def readRows [Wire WorkspaceReadResult] (others : Interference) (token : String)
    (broker : CalendarReadBroker) (ledger : CalendarReadLedger) (peer : Peer)
    (snapshot : Snapshot) (request : WorkspaceReadRequest) (variant : CalendarVariant)
    (selected : List WorkspaceRow) : Answer :=
  let context := snapshot.context
  let slot := (context.tenantId, context.sessionId, request.responseSlotId)
  let stale (reason : String) := refused request .staleOrIndeterminateRead reason
  if slot ∈ broker.slots then ⟨.ok (stale "response slot was already consumed"), broker, ledger⟩
  else
    let broker := { broker with slots := slot :: broker.slots }
    let operation := operationOf context request variant
    let page := selected.take request.maxRows
    -- each row's envelope is inseparable: the bound counts the sources
    if request.maxRows < (page.map (fun row => row.envelope.sources.items.length)).sum then
      ⟨.ok (stale "complete source closure cannot fit requested bound"), broker, ledger⟩
    else
      match (others.beforeBegin ledger).begin operation snapshot.state with
      | .error failure => ⟨caught request failure, broker, others.beforeBegin ledger⟩
      | .ok ledger =>
          let binding := cursorBinding? token snapshot request selected
          let broker := broker.keepCursor snapshot binding
          match pageResult request snapshot.freshness page
              (binding.map CalendarCursorBinding.token) with
          | .error failure => ⟨caught request failure, broker, ledger⟩
          | .ok result =>
              let proof := (proofOf context snapshot.state operation).text
              match deliver others broker.identity ledger operation snapshot.state proof
                  (utf8 (modelDumpJson result)) with
              | (.error failure, ledger) => ⟨caught request failure, broker, ledger⟩
              | (.ok none, ledger) => ⟨.ok (stale "release fenced"), broker, ledger⟩
              | (.ok (some (emitted, receipt)), ledger) =>
                  match (modelValidateJson emitted : Option WorkspaceReadResult) with
                  | none => ⟨caught request (.value "validation error"), broker, ledger⟩
                  | some emittedResult =>
                      ⟨.ok emittedResult, { broker with
                        originalReads := broker.originalReads.set
                          (peer, context.snapshotId, operation.fingerprint)
                          ⟨snapshot.providerBatch, snapshot.state, operation, emittedResult,
                            receipt, binding⟩ }, ledger⟩

/-- `_read`. -/
def read [Wire WorkspaceReadRequest] [Wire WorkspaceReadResult] (loads : Bytes → Option Json)
    (others : Interference) (token : String) (broker : CalendarReadBroker)
    (ledger : CalendarReadLedger) (peer : Peer) (sent : WorkspaceReadRequest) : Answer :=
  match (modelValidateJson (utf8 (modelDumpJson sent)) : Option WorkspaceReadRequest) with
  | none => ⟨.ok (refused sent .denied "invalid wire request"), broker, ledger⟩
  | some request =>
      match broker.snapshots.get? request.context.snapshotId with
      | none =>
          ⟨.ok (refused request .denied "unissued or foreign snapshot/context"), broker, ledger⟩
      | some snapshot =>
          if snapshot.peer ≠ peer ∨ request.context ≠ snapshot.context ∨
              broker.peers.get? peer ≠ some (request.context.tenantId.text,
                request.context.principalId.text, request.context.channelId.text) then
            ⟨.ok (refused request .denied "unissued or foreign snapshot/context"), broker, ledger⟩
          else
            match variantOf? request.query with
            | none => ⟨.ok (refused request .denied "query owner manifest mismatch"), broker, ledger⟩
            | some variant =>
                if [request.query.wire, snapshot.context.ownerId.text, "calendar.read",
                    "calendar-observations"] ∉ queryManifest then
                  ⟨.ok (refused request .denied "query owner manifest mismatch"), broker, ledger⟩
                else
                  match admission loads broker ledger snapshot request with
                  | .error failure => ⟨caught request failure, broker, ledger⟩
                  | .ok none =>
                      ⟨.ok (refused request .staleOrIndeterminateRead "stale heads"), broker,
                        ledger⟩
                  | .ok (some selected) =>
                      readRows others token broker ledger peer snapshot request variant selected

end

end Chiplog.Calendar
