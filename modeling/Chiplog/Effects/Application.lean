import Chiplog.Data.KeyedLog
import Chiplog.Effects.Domain
import Mathlib.Data.Finset.Dedup

namespace Chiplog.Effects

open Chiplog.Data

/-! Owner preparation: one command, the complete store snapshot and the broker's
current observation give one successor record or a refusal. -/

section Preparation

variable [Hashlib]

def digestOf (value : Json) : Digest := sha256 value.encode

/-- `_ref`. -/
def ref (identity : Identity) (value : Json) : ExactHead :=
  let digest := digestOf value
  { subjectId := identity, head := identity.before ("/" ++ digest.text),
    fingerprint := digest.identity }

@[simp] theorem ref_subjectId (identity : Identity) (value : Json) :
    (ref identity value).subjectId = identity := rfl

/-- The exact reference of an immutable intent. -/
def ExternalActionIntent.exactHead (intent : ExternalActionIntent) : ExactHead :=
  { subjectId := intent.intentId, head := intent.intentId.before ("/" ++ intent.fingerprint.text),
    fingerprint := intent.fingerprint }

def EffectPurpose.previewAdoption? : EffectPurpose → Option AdoptedAuthorityAct
  | .compensation purpose => some purpose.previewAdoption
  | .duplicateRisk purpose => some purpose.previewAdoption
  | .ordinary | .delivery _ => none

def initial (intent : ExternalActionIntent) : Checked EffectSnapshot := do
  let data := Json.obj (dropKey "fingerprint" (modelDump intent))
  deny (intent.fingerprint ≠ (digestOf data).identity) .denied
    "intent fingerprint does not bind complete owner bytes"
  deny (∃ preview ∈ intent.purpose.previewAdoption?, intent.authority.act ≠ .adopted preview)
    .denied "recovery intent authority does not bind its exact adopted preview"
  return {
    intent
    attempt := ref (intent.intentId.before "/attempt") data
    state := .intentRecorded
    authorizations := []
    transmissions := []
    evidence := []
    unresolvedObligations := []
    evidenceRecords := []
    recoveryObligation := none }

abbrev EffectRecord.intentId (record : EffectRecord) : Identity := record.snapshot.intent.intentId

/-- The latest snapshot of each intent, in order of first appearance. -/
def latestSnapshots (records : List EffectRecord) : Dict Identity EffectSnapshot :=
  Dict.ofRows EffectRecord.intentId EffectRecord.snapshot records

/-- Broker-listed blockers must be current unresolved work. -/
def collectBlockers (byHead : Dict ExactHead EffectSnapshot) :
    List ExactHead → Dict ExactHead EffectSnapshot → Checked (Dict ExactHead EffectSnapshot)
  | [], blockers => .ok blockers
  | head :: rest, blockers =>
      match byHead.get? head with
      | none => .error (.violation .stale "blocking effect head is not current unresolved work")
      | some snapshot => do
          deny (snapshot.state ∉ AttemptState.partialConfirmed :: crossedStates) .stale
            "blocking effect head is not current unresolved work"
          collectBlockers byHead rest (blockers.set head snapshot)

/-- The elementary identity-reset case, caught even if broker scope omitted it. -/
def Conflicts (snapshot : EffectSnapshot) (intent : ExternalActionIntent) : Prop :=
  snapshot.state ∈ crossedStates ∧
    snapshot.intent.authority.recipient = intent.authority.recipient ∧
    (snapshot.intent.effectFingerprint = intent.effectFingerprint ∨
      snapshot.intent.payload = intent.payload)

instance (snapshot : EffectSnapshot) (intent : ExternalActionIntent) :
    Decidable (Conflicts snapshot intent) :=
  inferInstanceAs (Decidable (_ ∧ _ ∧ _))

/-- Add every conflicting snapshot to the listed blockers. -/
def addConflicting (intent : ExternalActionIntent) (snapshots : List EffectSnapshot)
    (listed : Dict ExactHead EffectSnapshot) : Dict ExactHead EffectSnapshot :=
  snapshots.foldl (fun blockers snapshot =>
    if Conflicts snapshot intent then blockers.set snapshot.attempt snapshot else blockers) listed

/-- The head under which an unresolved effect is currently ambiguous. -/
def EffectSnapshot.ambiguity (snapshot : EffectSnapshot) : ExactHead :=
  match snapshot.recoveryObligation with
  | some obligation => obligation.obligation
  | none => snapshot.attempt

def matchOriginals (intent : ExternalActionIntent) (originals : List OriginalAmbiguity) :
    List EffectSnapshot → List OriginalAmbiguity → Checked (List OriginalAmbiguity)
  | [], matched => .ok matched
  | snapshot :: rest, matched =>
      -- Same-attempt retransmission still requires its separate proof.
      if snapshot.intent.intentId = intent.intentId then
        matchOriginals intent originals rest matched
      else
        match originals.filter (fun original =>
            original.originalIntent = snapshot.intent.exactHead ∧
              original.originalBinding = snapshot.intent.semantics ∧
              original.ambiguityReconciliationHead = snapshot.ambiguity) with
        | [original] => matchOriginals intent originals rest (matched.insert original)
        | _ => .error (.violation .recoveryHold "unresolved effect blocks replacement action")

/-- Corroborate broker scope; identities and previews cannot erase crossed work. -/
def requireNoReplacement (intent : ExternalActionIntent) (expected : EffectStoreSnapshot)
    (current : CurrentEffectInputs) : Checked Unit := do
  let latest := latestSnapshots expected.records
  let byHead := Dict.ofRows EffectSnapshot.attempt id latest.values
  deny (¬ current.blockingEffectHeads.Nodup) .stale "duplicate blocking effect heads"
  let listed ← collectBlockers byHead current.blockingEffectHeads Dict.empty
  let blockers := addConflicting intent latest.values listed
  let originals := intent.purpose.originals
  checkIf (originals ≠ [])
    (requireFreshRecoveryOriginals intent current.currentOriginalAmbiguityHeads)
  let matched ← matchOriginals intent originals blockers.values []
  deny (originals ≠ [] ∧ originals.toFinset ≠ matched.toFinset) .stale
    "recovery preview does not match current blocking effects"

/-- What `_bind_record` reads of a command. -/
structure RecordSource where
  identity : CommandIdentity
  canonicalBytes : NonemptyBytes

def EffectCommand.source (command : EffectCommand) : RecordSource :=
  ⟨command.identity, canonicalBytes command⟩

def closureStates : List AttemptState := [.confirmed, .failedNoEffect, .partialConfirmed]

def ambiguousStates : List AttemptState := [.outcomeUnknown, .partialOutcome]

def openObligation (command : RecordSource) (previous : EffectRecord) (snapshot : EffectSnapshot)
    (originalChildren : NonemptyTuple ExactHead) : OpenEffectObligation where
  obligation := ref (snapshot.intent.intentId.before "/reconciliation") (.obj
    [("intent", toJson snapshot.intent.exactHead),
      ("original_attempt", toJson previous.snapshot.attempt),
      ("children", toJson originalChildren),
      ("semantics", toJson snapshot.intent.semantics),
      ("command_id", toJson command.identity.commandId)])
  intent := snapshot.intent.exactHead
  originalAttempt := previous.snapshot.attempt
  originalCrossedChildren := originalChildren
  semantics := snapshot.intent.semantics
  safeActions := [.authenticatedProviderRead, .boundReconciliation, .explicitRecoveryAuthorization]
  deniedActions := [.blindRetry, .conflictingReplacement, .dependentContinuation]

/-- `ClosedEffectObligation.model_validate`: the evidence and children must be
nonempty and the state one of the closure literals. -/
def closeObligation (opening : OpenEffectObligation) (snapshot : EffectSnapshot) :
    Checked ClosedEffectObligation :=
  let children := snapshot.transmissions.map (·.transmission)
  let closure := ref opening.obligation.subjectId (.obj
    [("opening", toJson opening), ("evidence", toJson snapshot.evidence),
      ("children", toJson children), ("outcome", toJson snapshot.state)])
  match NonemptyTuple.ofList? snapshot.evidence, NonemptyTuple.ofList? children,
      ClosureOutcome.ofState? snapshot.state with
  | some closureEvidence, some completeChildren, some outcome => .ok {
      obligation := closure, opening, closureEvidence, completeChildren, outcome,
      semantics := snapshot.intent.semantics }
  | _, _, _ => .error (.validation "ClosedEffectObligation")

/-- The obligation part of `_bind_record`. -/
def bindObligation (command : RecordSource) (previous : Option EffectRecord)
    (snapshot : EffectSnapshot) : Checked (Option EffectRecoveryObligation) :=
  match snapshot.recoveryObligation with
  | none =>
      if snapshot.state ∈ ambiguousStates then
        match previous, NonemptyTuple.ofList? (snapshot.transmissions.map (·.transmission)) with
        | some previous, some originalChildren =>
            .ok (some (.opened (openObligation command previous snapshot originalChildren)))
        | _, _ => .error (.violation .recoveryHold "unknown outcome lacks original crossed lineage")
      else .ok none
  | some (.opened opening) =>
      if snapshot.state ∈ closureStates then do
        let closed ← closeObligation opening snapshot
        return some (.closed closed)
      else .ok (some (.opened opening))
  | some (.closed obligation) => .ok (some (.closed obligation))

def unresolved : Option EffectRecoveryObligation → List ExactHead
  | some (.opened obligation) => [obligation.obligation]
  | _ => []

/-- The record that commits to a finished snapshot, its command and its predecessor. -/
def sealRecord (command : RecordSource) (previous : Option EffectRecord)
    (snapshot : EffectSnapshot) (kind : RecordKind) : EffectRecord :=
  let predecessor := previous.map (·.record)
  let attempt := ref (snapshot.intent.intentId.before "/attempt") (.obj
    [("command", toJson command.identity), ("predecessor", toJson predecessor),
      ("snapshot", .obj (dropKey "attempt" (modelDump snapshot)))])
  let sealed := { snapshot with attempt }
  { record := ref (.after "effects/" command.identity.commandId) (.obj
      [("command", toJson command.identity), ("predecessor", toJson predecessor),
        ("kind", toJson kind), ("snapshot", toJson sealed),
        ("source_command", .str (hex command.canonicalBytes.items))])
    command := command.identity
    predecessor
    kind
    snapshot := sealed
    sourceCommand := command.canonicalBytes }

def bindRecord (command : RecordSource) (expected : EffectStoreSnapshot)
    (previous : Option EffectRecord) (snapshot : EffectSnapshot) (kind : RecordKind)
    (companions : List ExactHead) : Checked PreparedEffectPublication := do
  let recoveryObligation ← bindObligation command previous snapshot
  let bound := { snapshot with
    recoveryObligation, unresolvedObligations := unresolved recoveryObligation }
  return {
    record := sealRecord command previous bound kind
    exactCompanionManifest := companions
    expectedStore := expected }

/-- The subject a command addresses: intent identity, expected attempt and, where
the command carries one, the exact intent reference it supplies. -/
def addressed (command : EffectCommand) (expected : EffectStoreSnapshot) :
    Checked (Identity × ExactHead × Option ExactHead) :=
  match command with
  | .commitSend command =>
      .ok (command.authorization.intent.subjectId, command.expectedAttempt,
        some command.authorization.intent)
  | .recordEvidence command =>
      match expected.records.filter (fun row => row.snapshot.attempt = command.expectedAttempt ∧
          ∃ child ∈ row.snapshot.transmissions,
            child.transmission = command.authentication.transmission) with
      | [row] => .ok (row.intentId, command.expectedAttempt,
          match command.authentication with
          | .provider binding => some binding.intent
          | .transport _ => none)
      | _ => .error (.violation .stale "evidence lacks exact attempt/transmission subject")
  | .authorize command =>
      .ok (command.intent.subjectId, command.expectedAttempt, some command.intent)
  | .beforeSend command =>
      .ok (command.intent.subjectId, command.expectedAttempt, some command.intent)
  | .reconcile command =>
      .ok (command.intent.subjectId, command.expectedAttempt, some command.intent)
  | .accept _ | .publishPlan _ | .publishDelivery _ | .publishRecovery _ =>
      .error (.violation .denied "initial operation cannot read existing attempt")

/-- `_previous`. -/
def previousRecord (command : EffectCommand) (expected : EffectStoreSnapshot) :
    Checked EffectRecord := do
  let (intentId, attempt, suppliedIntent) ← addressed command expected
  match latest? EffectRecord.intentId expected.records intentId with
  | none => .error (.violation .stale "exact current logical attempt head missing")
  | some previous => do
      deny (previous.snapshot.attempt ≠ attempt) .stale
        "exact current logical attempt head missing"
      deny (∃ supplied ∈ suppliedIntent, supplied ≠ previous.snapshot.intent.exactHead) .stale
        "logical intent aliases different immutable bytes"
      return previous

/-- The observations one retained evidence event makes about a child. -/
def eventObservations (event : RecordEvidenceCommand) (members : List ExactHead)
    (child : ExactHead) : List ChildMemberEvidence :=
  let evidence := ref event.evidenceId (toJson event)
  members.flatMap (fun member =>
    (if member ∈ event.occurredMembers then [⟨evidence, child, member, .occurred⟩] else []) ++
    (if member ∈ event.permanentlyIncapableMembers
      then [⟨evidence, child, member, .permanentlyIncapable⟩] else []) ++
    (if member ∉ event.occurredMembers ∧ member ∉ event.permanentlyIncapableMembers
      then [⟨evidence, child, member, .possible⟩] else []))

/-- Supplied members are distinct and drawn from the allowed ones. -/
def Drawn (supplied allowed : List ExactHead) : Prop :=
  supplied.Nodup ∧ ∀ item ∈ supplied, item ∈ allowed

instance (supplied allowed : List ExactHead) : Decidable (Drawn supplied allowed) :=
  inferInstanceAs (Decidable (_ ∧ _))

/-- The event loop of `_evidence_state`. -/
def collectObservations (children members : List ExactHead) :
    List RecordEvidenceCommand → Checked (List ChildMemberEvidence)
  | [] => .ok []
  | event :: rest => do
      deny (¬ Drawn event.coveredChildren children ∨ ¬ Drawn event.occurredMembers members ∨
        ¬ Drawn event.permanentlyIncapableMembers members) .conflict
        "evidence contains unknown or duplicate exact member"
      let later ← collectObservations children members rest
      return event.coveredChildren.flatMap (eventObservations event members) ++ later

def evidenceState (snapshot : EffectSnapshot) : Checked AttemptState := do
  let members := snapshot.intent.inseparableBundleMembers.items
  let observations ← collectObservations (snapshot.transmissions.map (·.transmission)) members
    snapshot.evidenceRecords
  reduceChildEvidence snapshot.state snapshot.transmissions members observations

def dispatchAuthorization (command : AuthorizeDispatchCommand) (current : CurrentEffectInputs) :
    DispatchAuthorization where
  authorization := ref (.after "authorization/" command.identity.commandId) (toJson command)
  intent := command.intent
  expectedAttempt := command.expectedAttempt
  semantics := command.semantics
  currentAuthority := current.authority
  fence := current.fence

def authorizeDispatch (command : AuthorizeDispatchCommand) (snapshot : EffectSnapshot)
    (current : CurrentEffectInputs) : Checked (EffectSnapshot × RecordKind) := do
  requireSemantics snapshot.intent.semantics current.supportedSemantics true
  requireSemantics command.semantics (some snapshot.intent.semantics) true
  requireCurrentAuthority snapshot.intent current.authority current.observedTimeNs
  deny (command.currentAuthority ≠ current.authority ∨ command.fence ≠ current.fence) .stale
    "authorization current inputs differ"
  requireTransition snapshot.state .dispatchAuthorized .sendAdapter false
  return ({ snapshot with
    state := .dispatchAuthorized
    authorizations := snapshot.authorizations ++ [dispatchAuthorization command current] },
    .dispatchAuthorized)

def disposeBeforeSend (command : BeforeSendDispositionCommand) (snapshot : EffectSnapshot)
    (current : CurrentEffectInputs) : Checked (EffectSnapshot × RecordKind) := do
  deny (command.fence ≠ current.fence ∨ command.currentAuthority ≠ current.authority ∨
    command.decisionEvidence ≠ current.authorityDecision) .stale "disposition inputs differ"
  requireTransition snapshot.state command.disposition.state .sendAdapter false
  return ({ snapshot with state := command.disposition.state }, .beforeSendDisposition)

/-- The state, coverage proof and record kind of the transmission a send requests. -/
def admitTransmission (command : CommitSendCommand) (snapshot : EffectSnapshot)
    (current : CurrentEffectInputs) : Checked (AttemptState × Option ExactHead × RecordKind) :=
  match command.transmission with
  | .first => do
      deny (command.authorization.fence ≠ command.fence) .stale
        "first send authorization belongs to another fence"
      deny (snapshot.transmissions ≠ []) .conflict "first transmission already allocated"
      requireTransition snapshot.state .sendCommitted .sendAdapter true
      return (.sendCommitted, none, .sendCommitted)
  | .safeRetransmission request => do
      requireSafeRetransmission snapshot.state snapshot.intent snapshot.transmissions request
        current.independentlyVerifiedSafeProof current.authority current.supportedSemantics
        current.observedTimeNs
      return (snapshot.state, some request.proof, .transmissionAllocated)

def allocateChild (command : CommitSendCommand) (snapshot : EffectSnapshot)
    (current : CurrentEffectInputs) (coverageProof : Option ExactHead) : TransmissionAttempt where
  transmission := ref (snapshot.intent.intentId.before
    ("/transmission/" ++ toString command.transmission.ordinal.toNat)) (toJson command)
  intent := command.authorization.intent
  ordinal := command.transmission.ordinal
  semantics := command.authorization.semantics
  dispatchTimeNs := current.observedTimeNs
  payloadFingerprint := snapshot.intent.effectFingerprint
  recipient := snapshot.intent.authority.recipient
  idempotencyFenceKey := snapshot.intent.idempotencyFenceKey
  sendCommit := ref (.after "send/" command.identity.commandId) (toJson command)
  coverageProof

def commitSend (command : CommitSendCommand) (snapshot : EffectSnapshot)
    (current : CurrentEffectInputs) : Checked (EffectSnapshot × RecordKind) := do
  let authorization := command.authorization
  deny (snapshot.authorizations.getLast? ≠ some authorization) .stale
    "send authorization is stale or retired"
  deny (command.fence ≠ current.fence ∨ command.currentTimeNs ≠ current.observedTimeNs) .stale
    "send fence or trusted time differs"
  requireSemantics authorization.semantics current.supportedSemantics true
  requireSemantics snapshot.intent.semantics (some authorization.semantics) true
  requireCurrentAuthority snapshot.intent current.authority current.observedTimeNs
  checkIf (snapshot.intent.purpose.isRecovery = true)
    (requireFreshRecoveryOriginals snapshot.intent current.currentOriginalAmbiguityHeads)
  let (state, proof, kind) ← admitTransmission command snapshot current
  return ({ snapshot with
    state
    transmissions := snapshot.transmissions ++ [allocateChild command snapshot current proof] },
    kind)

/-- A local transport observation cannot claim a provider outcome. -/
def ClaimsOutcome (command : RecordEvidenceCommand) (snapshot : EffectSnapshot) : Prop :=
  match command.authentication with
  | .provider _ => False
  | .transport binding =>
      command.observation ∉ [Observation.transportSent, .timeout, .connectionLost,
        .malformedResponse] ∨
      command.occurredMembers ≠ [] ∨ command.permanentlyIncapableMembers ≠ [] ∨
      binding.exactRecipient ≠ snapshot.intent.authority.recipient ∨
      binding.adapterContractVersion ≠ snapshot.intent.semantics.adapterContractVersion

instance (command : RecordEvidenceCommand) (snapshot : EffectSnapshot) :
    Decidable (ClaimsOutcome command snapshot) :=
  match command with
  | ⟨_, _, _, _, .provider _, _, _, _, _, _⟩ => inferInstanceAs (Decidable False)
  | ⟨_, _, _, _, .transport _, _, _, _, _, _⟩ => inferInstanceAs (Decidable (_ ∨ _))

/-- The state the bound reducer gives to a retained event. -/
def reducedState (command : RecordEvidenceCommand) (snapshot : EffectSnapshot) :
    Checked AttemptState :=
  if command.observation = .transportSent ∧ snapshot.state = .sendCommitted then .ok .sent
  else evidenceState snapshot

/-- The state after the event was retained. A terminal state is immutable, and a
missing bound reducer does not prevent evidence from being stored. -/
def reduceEvidence (command : RecordEvidenceCommand) (snapshot : EffectSnapshot)
    (current : CurrentEffectInputs) : Checked AttemptState :=
  if snapshot.state ∉ terminalStates ∧
      current.originalReducerSemantics = some command.semantics then do
    let state ← reducedState command snapshot
    checkIf (state ≠ snapshot.state)
      (requireTransition snapshot.state state .authenticatedEvidence false)
    return state
  else .ok snapshot.state

/-- The snapshot once the event is part of its history. -/
def retainEvidence (command : RecordEvidenceCommand) (snapshot : EffectSnapshot) :
    EffectSnapshot :=
  { snapshot with
    evidence := snapshot.evidence ++ [ref command.evidenceId (toJson command)]
    evidenceRecords := snapshot.evidenceRecords ++ [command] }

def recordEvidence (command : RecordEvidenceCommand) (expected : EffectStoreSnapshot)
    (snapshot : EffectSnapshot) (current : CurrentEffectInputs) :
    Checked (EffectSnapshot × RecordKind) := do
  deny (current.authenticatedEvidence ≠ some command) .denied
    "evidence not independently authenticated for exact command"
  deny ((sha256 command.rawBytes.items).identity ≠ command.authentication.rawDigest) .denied
    "observation raw bytes do not match authentication"
  deny (command.authentication.tenantId ≠ expected.tenantId) .denied "foreign tenant evidence"
  deny (ClaimsOutcome command snapshot) .denied
    "local transport observation cannot claim provider outcome"
  deny (command.semantics ≠ snapshot.intent.semantics) .dispatchVersionHold
    "evidence binds another original reducer"
  deny (∃ item ∈ snapshot.evidence, item.subjectId = command.evidenceId) .conflict
    "existing evidence requires exact journal replay"
  let state ← reduceEvidence command (retainEvidence command snapshot) current
  return ({ retainEvidence command snapshot with state }, .evidenceRecorded)

def reconcileEffect (command : ReconcileEffectCommand) (snapshot : EffectSnapshot)
    (current : CurrentEffectInputs) : Checked (EffectSnapshot × RecordKind) := do
  deny (current.authorizedReconciler ≠ some command.authorizedReconciler ∨
      command.fence ≠ current.fence ∨
      command.completeChildren.items ≠ snapshot.transmissions.map (·.transmission) ∨
      command.durableEvidence.items ≠ snapshot.evidence) .stale
    "reconciliation lacks exact complete current inputs"
  requireSemantics command.semantics (some snapshot.intent.semantics) true
  requireSemantics command.semantics current.originalReducerSemantics true
  let state ← evidenceState snapshot
  checkIf (state ≠ snapshot.state)
    (requireTransition snapshot.state state .authorizedReconciler false)
  return ({ snapshot with state }, .reconciled)

/-- The four operations that create an intent share these checks; `specific` adds
each operation's own and selects the companions and the record kind. -/
def publishIntent (command : EffectCommand) (intent : ExternalActionIntent) (fence : WorkerFence)
    (expected : EffectStoreSnapshot) (current : CurrentEffectInputs)
    (specific : Checked (List ExactHead × RecordKind)) : Checked PreparedEffectPublication := do
  deny (∃ row ∈ expected.records, row.intentId = intent.intentId) .conflict
    "intent identity already exists"
  deny (fence ≠ current.fence) .stale "initial publication fence differs"
  requireSemantics intent.semantics current.supportedSemantics false
  requireCurrentAuthority intent current.authority current.observedTimeNs
  deny (intent.authority.tenantId ≠ expected.tenantId) .denied "foreign tenant intent"
  let snapshot ← initial intent
  requireNoReplacement intent expected current
  let (companions, kind) ← specific
  bindRecord command.source expected none snapshot kind companions

def acceptSpecific (command : AcceptEffectCommand) (current : CurrentEffectInputs) :
    Checked (List ExactHead × RecordKind) := do
  deny (current.initializedCall ≠ some command.initializedCall ∨ current.activeRunHead = none ∨
      command.fence.runHead?.map Identity.text ≠ current.activeRunHead) .stale
    "acceptance requires exact initialized call and ACTIVE Run"
  return (command.completeAcceptanceManifest.items, .intentAccepted)

/-- `intent.purpose.binding.acceptance` of a delivery. -/
def EffectPurpose.acceptance? : EffectPurpose → Option ExactHead
  | .delivery binding => some binding.acceptance
  | .ordinary | .compensation _ | .duplicateRisk _ => none

def deliverySpecific (command : PublishDeliveryIntentCommand) :
    Checked (List ExactHead × RecordKind) := do
  deny (command.intent.purpose.acceptance? ≠ some command.completeAcceptance) .denied
    "delivery requires exact CompleteAcceptance companion"
  return (command.completeDeliveryManifest.items, .deliveryPrepared)

def recoverySpecific (command : PublishRecoveryIntentCommand) (current : CurrentEffectInputs) :
    Checked (List ExactHead × RecordKind) := do
  requireFreshRecoveryOriginals command.intent current.currentOriginalAmbiguityHeads
  deny (command.originalHeads.items ≠ current.currentOriginalAmbiguityHeads) .stale
    "recovery creation uses stale original heads"
  return ([], .recoveryIntentPublished)

/-- What a command does to the snapshot of an existing attempt. -/
def advance (command : EffectCommand) (expected : EffectStoreSnapshot) (snapshot : EffectSnapshot)
    (current : CurrentEffectInputs) : Checked (EffectSnapshot × RecordKind) :=
  match command with
  | .authorize command => do
      requireNoReplacement snapshot.intent expected current
      authorizeDispatch command snapshot current
  | .commitSend command => do
      requireNoReplacement snapshot.intent expected current
      commitSend command snapshot current
  | .beforeSend command => disposeBeforeSend command snapshot current
  | .recordEvidence command => recordEvidence command expected snapshot current
  | .reconcile command => reconcileEffect command snapshot current
  | .accept _ | .publishPlan _ | .publishDelivery _ | .publishRecovery _ =>
      .error (.violation .denied "unregistered effect operation")

/-- Produce the exact owner candidate; the broker authenticates every input again. -/
def prepareTransition (command : EffectCommand) (expected : EffectStoreSnapshot)
    (current : CurrentEffectInputs) : Checked PreparedEffectPublication := do
  let identity := command.identity
  deny (current.commandId ≠ identity.commandId ∨ current.commandFingerprint ≠ identity.fingerprint ∨
      current.storeFrontier ≠ expected.tenantHead ∨
      identity.expectedTenantHead ≠ expected.tenantHead) .stale
    "command/current snapshot temporal cut differs"
  deny (∃ row ∈ expected.records, row.command.commandId = identity.commandId) .conflict
    "existing identity requires authenticated broker replay"
  match command with
  | .accept published =>
      publishIntent command published.intent published.fence expected current
        (acceptSpecific published current)
  | .publishPlan published =>
      publishIntent command published.intent published.fence expected current
        (.ok (published.completePublicationManifest.items, .planEffectPublished))
  | .publishDelivery published =>
      publishIntent command published.intent published.fence expected current
        (deliverySpecific published)
  | .publishRecovery published =>
      publishIntent command published.intent published.fence expected current
        (recoverySpecific published current)
  | .authorize _ | .beforeSend _ | .commitSend _ | .recordEvidence _ | .reconcile _ => do
      let previous ← previousRecord command expected
      let (snapshot, kind) ← advance command expected previous.snapshot current
      bindRecord command.source expected (some previous) snapshot kind []

end Preparation

end Chiplog.Effects

namespace Chiplog.Effects

open Chiplog.Data

/-! Owner preparation for independently authorized before-send dispositions. -/

/-- Claimed capture description, not a successful authorization verdict. -/
structure CapturedSource where
  sourceId : Identity
  sourceVersion : Identity
  ownerId : Identity
  readerId : Identity
  invalidationManifest : ExactHead
  head : ExactHead
  canonicalValue : NonemptyBytes
  clockContract : Identity
  clockEpoch : Identity
  validUntilNs : Nat
deriving DecidableEq

instance : Model CapturedSource := ⟨fun value =>
  [("kind", .str "CAPTURED"), ("source_id", toJson value.sourceId),
    ("source_version", toJson value.sourceVersion), ("owner_id", toJson value.ownerId),
    ("reader_id", toJson value.readerId),
    ("invalidation_manifest", toJson value.invalidationManifest), ("head", toJson value.head),
    ("canonical_value", toJson value.canonicalValue),
    ("clock_contract", toJson value.clockContract), ("clock_epoch", toJson value.clockEpoch),
    ("valid_until_ns", toJson value.validUntilNs)]⟩

inductive DenyingDecision where
  | hold (evidence : ExactHead)
  | cancel (evidence directAct : ExactHead)
  | supersede (evidence successorIntent successorAdoption : ExactHead)
deriving DecidableEq

instance : Model DenyingDecision := ⟨fun
  | .hold evidence => [("kind", .str "HELD_BEFORE_SEND"), ("evidence", toJson evidence)]
  | .cancel evidence directAct =>
      [("kind", .str "CANCELLED_BEFORE_SEND"), ("evidence", toJson evidence),
        ("direct_act", toJson directAct)]
  | .supersede evidence successorIntent successorAdoption =>
      [("kind", .str "SUPERSEDED_BEFORE_SEND"), ("evidence", toJson evidence),
        ("successor_intent", toJson successorIntent),
        ("successor_adoption", toJson successorAdoption)]⟩

/-- The disposition a decision's `kind` names. -/
def DenyingDecision.kind : DenyingDecision → Disposition
  | .hold _ => .heldBeforeSend
  | .cancel _ _ => .cancelledBeforeSend
  | .supersede _ _ _ => .supersededBeforeSend

def DenyingDecision.successorIntent? : DenyingDecision → Option ExactHead
  | .supersede _ successorIntent _ => some successorIntent
  | .hold _ | .cancel _ _ => none

/-- All sources are required; missing acquisition cannot prepare a disposition. -/
structure DenyingSources where
  invocation : CapturedSource
  principalRights : CapturedSource
  operationRegistry : CapturedSource
  effectsHistory : CapturedSource
  runtimeFence : CapturedSource
  clock : CapturedSource
  decision : CapturedSource
deriving DecidableEq

instance : Model DenyingSources := ⟨fun value =>
  [("invocation", toJson value.invocation), ("principal_rights", toJson value.principalRights),
    ("operation_registry", toJson value.operationRegistry),
    ("effects_history", toJson value.effectsHistory),
    ("runtime_fence", toJson value.runtimeFence), ("clock", toJson value.clock),
    ("decision", toJson value.decision)]⟩

/-- The sources in the order of the declared fields. -/
def DenyingSources.all (sources : DenyingSources) : List CapturedSource :=
  [sources.invocation, sources.principalRights, sources.operationRegistry, sources.effectsHistory,
    sources.runtimeFence, sources.clock, sources.decision]

structure DenyingAuthority where
  tenantId : Identity
  principalId : Identity
  actorId : Identity
  authenticatedSession : ExactHead
  operationProfile : ExactHead
  intent : ExactHead
  expectedAttempt : ExactHead
  decision : DenyingDecision
  fence : WorkerFence
  clockContract : Identity
  clockEpoch : Identity
  validUntilNs : Nat
  sources : DenyingSources
deriving DecidableEq

instance : Model DenyingAuthority := ⟨fun value =>
  [("schema_id", .str "chiplog.effects.denying-authority.v1"),
    ("tenant_id", toJson value.tenantId), ("principal_id", toJson value.principalId),
    ("actor_id", toJson value.actorId),
    ("authenticated_session", toJson value.authenticatedSession),
    ("operation_profile", toJson value.operationProfile), ("intent", toJson value.intent),
    ("expected_attempt", toJson value.expectedAttempt), ("decision", toJson value.decision),
    ("fence", toJson value.fence), ("clock_contract", toJson value.clockContract),
    ("clock_epoch", toJson value.clockEpoch), ("valid_until_ns", toJson value.validUntilNs),
    ("sources", toJson value.sources)]⟩

structure BeforeSendDispositionV2Command where
  identity : CommandIdentity
  intent : ExactHead
  expectedAttempt : ExactHead
  authority : DenyingAuthority
  authorizationToRetire : Option DispatchAuthorization
deriving DecidableEq

instance : Model BeforeSendDispositionV2Command := ⟨fun value =>
  [("schema_id", .str "chiplog.effects.before-send-command.v2"),
    ("identity", toJson value.identity), ("intent", toJson value.intent),
    ("expected_attempt", toJson value.expectedAttempt), ("authority", toJson value.authority),
    ("authorization_to_retire", toJson value.authorizationToRetire)]⟩

/-- Independently captured inputs, not caller-selected authorization flags. -/
structure CurrentDenialInputs where
  commandId : Identity
  commandFingerprint : Identity
  storeFrontier : Nat
  authority : DenyingAuthority
  supportedSemantics : Option DispatchSemanticBinding
  fence : WorkerFence
  clockContract : Identity
  clockEpoch : Identity
  observedTimeNs : Nat
deriving DecidableEq

structure DenialPreparationRequest where
  command : BeforeSendDispositionV2Command
  expected : EffectStoreSnapshot
  current : CurrentDenialInputs
deriving DecidableEq

section Denial

variable [Hashlib]

def BeforeSendDispositionV2Command.source (command : BeforeSendDispositionV2Command) :
    RecordSource :=
  ⟨command.identity, canonicalBytes command⟩

/-- The command, the reproduced observation and the store name one cut. -/
def requireSameCut (command : BeforeSendDispositionV2Command) (expected : EffectStoreSnapshot)
    (current : CurrentDenialInputs) : Checked Unit :=
  deny (current.commandId ≠ command.identity.commandId ∨
      current.commandFingerprint ≠ command.identity.fingerprint ∨
      current.storeFrontier ≠ expected.tenantHead ∨
      command.identity.expectedTenantHead ≠ expected.tenantHead ∨
      command.authority ≠ current.authority ∨ command.authority.fence ≠ current.fence ∨
      command.authority.tenantId ≠ expected.tenantId ∨ command.authority.intent ≠ command.intent ∨
      command.authority.expectedAttempt ≠ command.expectedAttempt) .stale
    "denying operation or current observation differs"

def requireLiveLeases (authority : DenyingAuthority) (current : CurrentDenialInputs) :
    Checked Unit := do
  deny (authority.clockContract ≠ current.clockContract ∨
      authority.clockEpoch ≠ current.clockEpoch ∨
      authority.validUntilNs ≤ current.observedTimeNs) .stale
    "denying clock or authority lease is not current"
  forEach (fun source =>
    deny (source.clockContract ≠ current.clockContract ∨ source.clockEpoch ≠ current.clockEpoch ∨
        source.validUntilNs ≤ current.observedTimeNs) .stale
      "denying source lease or clock is not current") authority.sources.all

/-- The denied intent's latest record, after the history itself was checked. -/
def deniedRecord (command : BeforeSendDispositionV2Command) (expected : EffectStoreSnapshot) :
    Checked EffectRecord := do
  deny (¬ (expected.records.map (·.command.commandId)).Nodup ∨
      ¬ (expected.records.map (·.record)).Nodup) .stale "duplicate effects history identity"
  deny (command.identity.commandId ∈ expected.records.map (·.command.commandId)) .conflict
    "existing identity requires authenticated replay"
  match latest? EffectRecord.intentId expected.records command.intent.subjectId with
  | none => .error (.violation .stale "denying subject is absent")
  | some previous => .ok previous

/-- An authorized dispatch names exactly the authorization that the denial retires. -/
def requireRetirement (command : BeforeSendDispositionV2Command) (snapshot : EffectSnapshot) :
    Checked Unit :=
  if snapshot.state = .dispatchAuthorized then
    deny (snapshot.authorizations.getLast? = none ∨
        command.authorizationToRetire ≠ snapshot.authorizations.getLast? ∨
        ∃ live ∈ snapshot.authorizations.getLast?, live.intent ≠ snapshot.intent.exactHead ∨
          live.semantics ≠ snapshot.intent.semantics) .stale
      "exact latest authorization retirement required"
  else
    deny (command.authorizationToRetire ≠ none) .stale
      "no live authorization to retire in this state"

/-- A new denial lease is independent of the historical SEND acquisition lease, so the
original authority is compared only by tenant and principal. -/
def prepareDenial (request : DenialPreparationRequest) : Checked PreparedEffectPublication := do
  let command := request.command
  let expected := request.expected
  let current := request.current
  let authority := command.authority
  requireSameCut command expected current
  requireLiveLeases authority current
  let previous ← deniedRecord command expected
  let snapshot := previous.snapshot
  let original := snapshot.intent
  deny (command.intent ≠ original.exactHead ∨ command.expectedAttempt ≠ snapshot.attempt ∨
      authority.tenantId ≠ original.authority.tenantId ∨
      authority.principalId ≠ original.authority.principalId) .stale
    "denying authority targets another immutable subject"
  requireSemantics original.semantics current.supportedSemantics true
  deny (snapshot.transmissions ≠ []) .denied "a crossed transmission cannot become local no-send"
  requireRetirement command snapshot
  deny (∃ successor ∈ authority.decision.successorIntent?,
      successor.subjectId = original.intentId) .denied
    "supersession requires a distinct adopted successor"
  requireTransition snapshot.state authority.decision.kind.state .sendAdapter false
  bindRecord command.source expected (some previous)
    { snapshot with state := authority.decision.kind.state } .beforeSendDisposition []

end Denial

end Chiplog.Effects
