import Chiplog.AgentLoop.SchedulerMaterialization

namespace Chiplog.AgentLoop

open Chiplog.Data Chiplog.Effects

/-! Serialized owner preparation of scheduler intervals.

The caller submits its manifest, in full or as a streamed digest; preparation enumerates the
definition again, holds what exceeds the registered bound and compiles the rest. -/

/-! ### Commands -/

structure DecisionMaterializationRef where
  decisionId : Identity
  decisionHead : Identity
  decisionFingerprint : Digest
  commandFingerprint : Digest
  expectedCompleteCommitment : Digest
  predecessorCommitment : Digest
  journalAuthorityHead : Identity
deriving DecidableEq

instance : Model DecisionMaterializationRef := ⟨fun value =>
  [("decision_id", toJson value.decisionId), ("decision_head", toJson value.decisionHead),
    ("decision_fingerprint", toJson value.decisionFingerprint),
    ("command_fingerprint", toJson value.commandFingerprint),
    ("expected_complete_commitment", toJson value.expectedCompleteCommitment),
    ("predecessor_commitment", toJson value.predecessorCommitment),
    ("journal_authority_head", toJson value.journalAuthorityHead)]⟩

inductive PreRootDisposition where
  | firstPublication (expectedCanonicalAbsenceManifest : Identity)
  | materializeExactDecision (decision : DecisionMaterializationRef)
      (exactPrefixManifest : Identity)
  | returnExactReplay (decision : DecisionMaterializationRef)
      (completeMaterializationManifest : Identity)
deriving DecidableEq

instance : Model PreRootDisposition := ⟨fun
  | .firstPublication expectedCanonicalAbsenceManifest =>
      [("kind", .str "FIRST_PUBLICATION"), ("decision", toJson Marker.absent),
        ("expected_canonical_absence_manifest", toJson expectedCanonicalAbsenceManifest)]
  | .materializeExactDecision decision exactPrefixManifest =>
      [("kind", .str "MATERIALIZE_EXACT_DECISION"), ("decision", toJson decision),
        ("exact_prefix_manifest", toJson exactPrefixManifest)]
  | .returnExactReplay decision completeMaterializationManifest =>
      [("kind", .str "RETURN_EXACT_REPLAY"), ("decision", toJson decision),
        ("complete_materialization_manifest", toJson completeMaterializationManifest)]⟩

def PreRootDisposition.isFirst : PreRootDisposition → Bool
  | .firstPublication _ => true
  | _ => false

structure PreRootDecisionFence where
  commandId : Identity
  disposition : PreRootDisposition
  schedulerAuthorityHead : Identity
  brokerGeneration : Identity
  runtimeGeneration : Identity
deriving DecidableEq

instance : Model PreRootDecisionFence := ⟨fun value =>
  [("kind", .str "PRE_ROOT_SCHEDULER_DECISION"), ("command_id", toJson value.commandId),
    ("disposition", toJson value.disposition),
    ("scheduler_authority_head", toJson value.schedulerAuthorityHead),
    ("broker_generation", toJson value.brokerGeneration),
    ("runtime_generation", toJson value.runtimeGeneration)]⟩

/-- A field typed `SchedulerEligibilityManifest | StreamingEligibilityEvidence`. -/
inductive SubmittedManifest where
  | full (manifest : SchedulerEligibilityManifest)
  | streaming (evidence : StreamingEligibilityEvidence)
deriving DecidableEq

instance : Model SubmittedManifest := ⟨fun
  | .full manifest => modelDump manifest
  | .streaming evidence => modelDump evidence⟩

structure DecideIntervalCommand where
  identity : SchedulerCommandIdentity
  boundary : SchedulerEligibilityBoundary
  boundHead : SchedulerIntervalBoundHead
  manifest : SubmittedManifest
  publicationFence : PreRootDecisionFence
deriving DecidableEq

instance : Model DecideIntervalCommand := ⟨fun value =>
  [("identity", toJson value.identity), ("boundary", toJson value.boundary),
    ("bound_head", toJson value.boundHead), ("manifest", toJson value.manifest),
    ("publication_fence", toJson value.publicationFence)]⟩

structure ResolveIntervalCommand where
  identity : SchedulerCommandIdentity
  activeHold : SchedulerOverflowHold
  successorBound : SchedulerIntervalBoundHead
  boundary : SchedulerEligibilityBoundary
  completeManifest : SchedulerEligibilityManifest
  operatorProof : PresentHead
  publicationFence : PreRootDecisionFence
deriving DecidableEq

instance : Model ResolveIntervalCommand := ⟨fun value =>
  [("identity", toJson value.identity), ("active_hold", toJson value.activeHold),
    ("successor_bound", toJson value.successorBound), ("boundary", toJson value.boundary),
    ("complete_manifest", toJson value.completeManifest),
    ("operator_proof", toJson value.operatorProof),
    ("publication_fence", toJson value.publicationFence)]⟩

def SchedulerOverflowHold.isActive (hold : SchedulerOverflowHold) : Bool :=
  match hold.state with
  | .active => true
  | .resolvedByOperator _ => false

section Preparation

variable [Hashlib]

/-! ### Candidates -/

/-- `_overflow_candidate`. -/
def overflowCandidate (command : DecideIntervalCommand) (currentBound : SchedulerIntervalBoundHead)
    (evidence : EligibilityEvidence) (dimension : OverflowDimension) (actual : Nat) (limit : ℕ+)
    (operatorRecoveryOwner : Identity) : IntervalCandidate :=
  let holdRef := taggedReference "scheduler-overflow-hold-v1" (.obj
    [("command", toJson command.identity), ("boundary", toJson command.boundary),
      ("bound_head", toJson currentBound), ("dimension", toJson dimension),
      ("actual", toJson actual), ("limit", toJson limit), ("evidence", toJson evidence),
      ("operator", toJson operatorRecoveryOwner)])
  let hold : SchedulerOverflowHold :=
    { hold := holdRef
      command := command.identity
      boundary := command.boundary
      boundHead := currentBound
      exceededDimension := dimension
      actualValue := actual
      limit := limit
      evidence := evidence
      operatorRecoveryOwner := operatorRecoveryOwner
      state := .active }
  let records := [canonicalMember ⟨"overflow-hold", written _ trivial⟩ holdRef.head (toJson hold)]
  { parentPrimitive := none
    result := .held hold
    occurrences := []
    records := records
    batchFingerprint := taggedHash "scheduler-overflow-envelope-v1" (toJson hold)
    serializedBatchBytes := serializedBytes records }

/-- A reference to a member at an end of the manifest. -/
def endReference : Option UndisposedOccurrence → Marker
  | none => .absent
  | some member => memberReference member

/-- The evidence of an overflow: the manifest itself where it fits the registered budget. -/
def overflowEvidence (manifest : SchedulerEligibilityManifest) (bound : SchedulerIntervalBound)
    (enumerationProof : PresentHead) : EligibilityEvidence :=
  if (recoveryBytes manifest).length ≤ bound.maxManifestBytes then
    .full manifest
  else
    .streaming
      { manifestDigest := manifest.fingerprint
        memberCount := manifest.members.length
        firstMember := endReference manifest.members.head?
        lastMember := endReference manifest.members.getLast?
        orderContractVersion := ⟨"chiplog.scheduler.numeric-due.v1", written _ trivial⟩
        enumerationCompletenessProof := enumerationProof }

/-- The parent of an ordinary interval. -/
def ordinaryParent (command : DecideIntervalCommand) (currentBound : SchedulerIntervalBoundHead)
    (manifest : SchedulerEligibilityManifest) (runInputs : SchedulerRunInputs) :
    IntervalParentPrimitive :=
  { kind := .ordinary
    command := command.identity
    boundary := command.boundary
    currentBound := currentBound
    originalBound := currentBound
    originalHold := .absent
    operatorProof := .absent
    manifest := manifest
    branch := policyBranch command.boundary.missedOccurrencePolicyHead.kind manifest.members.length
    runInputs := runInputs }

def prepareInterval [Pydantic] (command : DecideIntervalCommand)
    (currentBound : SchedulerIntervalBoundHead) (source : List UndisposedOccurrence)
    (runInputs : SchedulerRunInputs) (enumerationProof : PresentHead)
    (activeHold : Option SchedulerOverflowHold) : Materializing IntervalCandidate := do
  match command.manifest with
  | .streaming _ => .error (.domain ⟨"full interval materialization requires full manifest"⟩)
  | .full submitted => do
      raiseIf (activeHold.any (·.isActive) = true)
        (.domain ⟨"active overflow hold blocks ordinary interval and amendment"⟩)
      raiseIf (command.boundHead ≠ currentBound)
        (.domain ⟨"current interval bound head changed"⟩)
      let manifest ← ofDomain (verifyManifest command.boundary submitted source)
      let evidence := overflowEvidence manifest currentBound.bound enumerationProof
      match eligibilityOverflows manifest currentBound.bound with
      | exceeded :: _ =>
          return overflowCandidate command currentBound evidence exceeded.dimension exceeded.actual
            exceeded.limit runInputs.principal
      | [] => do
          let candidate ← compileInterval
            (ordinaryParent command currentBound manifest runInputs) source
          if candidate.serializedBatchBytes ≤ currentBound.bound.maxSerializedBatchBytes then
            return candidate
          else
            return overflowCandidate command currentBound evidence .serializedBatchBytes
              candidate.serializedBatchBytes currentBound.bound.maxSerializedBatchBytes
              runInputs.principal

def EligibilityEvidence.isFull : EligibilityEvidence → Bool
  | .full _ => true
  | .streaming _ => false

/-- Complete source-derived evidence only; not an arithmetic placeholder. -/
def prepareStreamedOverflow (command : DecideIntervalCommand)
    (currentBound : SchedulerIntervalBoundHead) (evidence : EligibilityEvidence)
    (memberCount manifestBytes : Nat) (operatorRecoveryOwner : Identity) :
    Scheduling IntervalCandidate := do
  let bound := currentBound.bound
  raiseIf (command.boundHead ≠ currentBound) ⟨"streamed overflow bound head changed"⟩
  let exceeded ←
    if memberCount > bound.maxMemberCount then
      .ok (OverflowDimension.memberCount, memberCount, bound.maxMemberCount)
    else if manifestBytes > bound.maxManifestBytes then
      .ok (OverflowDimension.manifestBytes, manifestBytes, bound.maxManifestBytes)
    else
      .error ⟨"streamed evidence is within bounds; ordinary branch required"⟩
  raiseIf (decide (manifestBytes ≤ bound.maxManifestBytes) ≠ evidence.isFull)
    ⟨"overflow evidence form does not match exact manifest bound"⟩
  return overflowCandidate command currentBound evidence exceeded.1 exceeded.2.1 exceeded.2.2
    operatorRecoveryOwner

/-- The digest of the manifest that an evidence speaks of. -/
def EligibilityEvidence.fingerprint : EligibilityEvidence → Digest
  | .full manifest => manifest.fingerprint
  | .streaming evidence => evidence.manifestDigest

def prepareResolution [Pydantic] (command : ResolveIntervalCommand)
    (currentBound : SchedulerIntervalBoundHead) (source : List UndisposedOccurrence)
    (runInputs : SchedulerRunInputs) : Materializing IntervalCandidate := do
  let hold := command.activeHold
  raiseIf (hold.isActive = false ∨ command.boundary ≠ hold.boundary)
    (.domain ⟨"resolution requires exact active hold and unchanged boundary"⟩)
  raiseIf (command.successorBound ≠ currentBound ∨
      currentBound.generation ≤ hold.boundHead.generation ∨
      currentBound.headId = hold.boundHead.headId)
    (.domain ⟨"resolution requires exact current successor bound"⟩)
  let manifest ← ofDomain (verifyManifest command.boundary command.completeManifest source)
  raiseIf (manifest.fingerprint ≠ hold.evidence.fingerprint)
    (.domain ⟨"held eligible membership changed"⟩)
  let candidate ← compileInterval
    { kind := .resolution
      command := command.identity
      boundary := command.boundary
      currentBound := currentBound
      originalBound := hold.boundHead
      originalHold := .present hold.hold
      operatorProof := .present command.operatorProof
      manifest := manifest
      branch :=
        policyBranch command.boundary.missedOccurrencePolicyHead.kind manifest.members.length
      runInputs := runInputs } source
  raiseIf (eligibilityOverflows manifest currentBound.bound ≠ [] ∨
      candidate.serializedBatchBytes > currentBound.bound.maxSerializedBatchBytes)
    (.domain ⟨"successor bound does not admit complete resolution"⟩)
  return candidate

end Preparation

/-! ### Requests -/

/-- Reproduced exclusively by broker authority at the writer's exact source cut. -/
structure BatchPreparationCut where
  tenantId : Identity
  tenantFrontier : UInt64
  materializationCommitment : Digest
  registryHead : Identity
  registryFingerprint : Digest
  submissionId : Identity
  authorizedContext : SchedulerContextRef
  authorizedCommandFingerprint : Digest
  authorityProof : PresentHead
deriving DecidableEq

instance : Model BatchPreparationCut := ⟨fun value =>
  [("tenant_id", toJson value.tenantId), ("tenant_frontier", toJson value.tenantFrontier),
    ("materialization_commitment", toJson value.materializationCommitment),
    ("registry_head", toJson value.registryHead),
    ("registry_fingerprint", toJson value.registryFingerprint),
    ("submission_id", toJson value.submissionId),
    ("authorized_context", toJson value.authorizedContext),
    ("authorized_command_fingerprint", toJson value.authorizedCommandFingerprint),
    ("authority_proof", toJson value.authorityProof)]⟩

instance : Model ConfigurationSnapshot := ⟨fun value =>
  [("schedule", toJson value.schedule), ("policy", toJson value.policy),
    ("bound", toJson value.bound), ("active_hold", toJson value.activeHold)]⟩

instance : Model DisposedOccurrence := ⟨fun value =>
  [("occurrence_id", toJson value.occurrenceId), ("due_coordinate", toJson value.dueCoordinate),
    ("disposition", toJson value.disposition)]⟩

structure IntervalPreparationSnapshot where
  cut : BatchPreparationCut
  configuration : ConfigurationSnapshot
  disposed : List DisposedOccurrence
  previousDueBoundary : DueCoordinate
  predecessorInterval : Marker
  enumerationFrontier : Identity
  enumerationProof : PresentHead
  activeHold : Option SchedulerOverflowHold
  publicationFence : PreRootDecisionFence
  operatorProof : Option PresentHead
deriving DecidableEq

instance : Model IntervalPreparationSnapshot := ⟨fun value =>
  [("cut", toJson value.cut), ("configuration", toJson value.configuration),
    ("disposed", toJson value.disposed),
    ("previous_due_boundary", toJson value.previousDueBoundary),
    ("predecessor_interval", toJson value.predecessorInterval),
    ("enumeration_frontier", toJson value.enumerationFrontier),
    ("enumeration_proof", toJson value.enumerationProof),
    ("active_hold", toJson value.activeHold),
    ("publication_fence", toJson value.publicationFence),
    ("operator_proof", toJson value.operatorProof)]⟩

inductive IntervalOperation where
  | decideInterval
  | resolveInterval
deriving DecidableEq

instance : Jsonable IntervalOperation := ⟨fun
  | .decideInterval => .str "scheduler.decide_interval"
  | .resolveInterval => .str "scheduler.resolve_interval"⟩

structure IntervalPreparationRequest where
  operation : IntervalOperation
  context : SchedulerContextRef
  snapshot : IntervalPreparationSnapshot
  commandBytes : NonemptyBytes
deriving DecidableEq

instance : Model IntervalPreparationRequest := ⟨fun value =>
  [("operation", toJson value.operation), ("context", toJson value.context),
    ("snapshot", toJson value.snapshot), ("command_bytes", toJson value.commandBytes)]⟩

/-- What `validate_json` makes of the bytes of a command, built by pydantic. -/
class CommandJson where
  /-- `DecideIntervalCommand.model_validate_json(raw)`. -/
  validateDecide : Bytes → Option DecideIntervalCommand
  /-- `ResolveIntervalCommand.model_validate_json(raw)`. -/
  validateResolve : Bytes → Option ResolveIntervalCommand

inductive IntervalCommand where
  | decide (command : DecideIntervalCommand)
  | resolve (command : ResolveIntervalCommand)
deriving DecidableEq

namespace IntervalCommand

def identity : IntervalCommand → SchedulerCommandIdentity
  | .decide command => command.identity
  | .resolve command => command.identity

def boundary : IntervalCommand → SchedulerEligibilityBoundary
  | .decide command => command.boundary
  | .resolve command => command.boundary

def publicationFence : IntervalCommand → PreRootDecisionFence
  | .decide command => command.publicationFence
  | .resolve command => command.publicationFence

/-- The bound that the command observed. -/
def observedBound : IntervalCommand → SchedulerIntervalBoundHead
  | .decide command => command.boundHead
  | .resolve command => command.successorBound

def submitted : IntervalCommand → SubmittedManifest
  | .decide command => command.manifest
  | .resolve command => .full command.completeManifest

def bytes : IntervalCommand → Bytes
  | .decide command => recoveryBytes command
  | .resolve command => recoveryBytes command

end IntervalCommand

structure PreparedSchedulerBatch where
  sourceRequestFingerprint : Digest
  cut : BatchPreparationCut
  records : List SchedulerCanonicalMember
  result : IntervalCandidate
deriving DecidableEq

inductive PreparationError where
  | validation
  | materialization (error : MaterializationError)
deriving DecidableEq

abbrev Preparing (α : Type) := Except PreparationError α

/-- A scheduler domain function inside a preparation. -/
def inDomain (result : Scheduling α) : Preparing α :=
  result.mapError (fun error => .materialization (.domain error))

section Request

variable [Hashlib]

/-- `_verify_cut`. -/
def verifyCut (context : SchedulerContextRef) (commandBytes : Bytes) (cut : BatchPreparationCut) :
    Scheduling Unit :=
  raiseIf (context ≠ cut.authorizedContext ∨ context.tenantId ≠ cut.tenantId ∨
      sha256 commandBytes ≠ cut.authorizedCommandFingerprint)
    ⟨"command or context differs from exact broker-authorized cut"⟩

/-- `_batch`. -/
def preparedBatch (request : IntervalPreparationRequest) (result : IntervalCandidate)
    (records : List SchedulerCanonicalMember) : PreparedSchedulerBatch :=
  { sourceRequestFingerprint := sha256 (recoveryBytes request)
    cut := request.snapshot.cut
    records := records
    result := result }

/-- The command of a request. -/
def readCommand [CommandJson] (request : IntervalPreparationRequest) : Option IntervalCommand :=
  match request.operation with
  | .decideInterval => (CommandJson.validateDecide request.commandBytes.items).map .decide
  | .resolveInterval => (CommandJson.validateResolve request.commandBytes.items).map .resolve

/-- The hold that the snapshot and the configuration have to agree on. -/
def expectedHold (snapshot : IntervalPreparationSnapshot) : Marker :=
  match snapshot.activeHold with
  | some hold => if hold.isActive then .present hold.hold else .absent
  | none => .absent

/-- What a command says about the active hold. -/
def holdGuard (snapshot : IntervalPreparationSnapshot) : IntervalCommand → Scheduling Unit
  | .decide _ =>
      raiseIf (snapshot.activeHold.any (·.isActive) = true)
        ⟨"ordinary interval cannot bypass active hold"⟩
  | .resolve command =>
      raiseIf (snapshot.activeHold ≠ some command.activeHold ∨
          snapshot.operatorProof ≠ some command.operatorProof)
        ⟨"resolution active hold or operator proof differs"⟩

/-- The checks before the enumeration; they hand on the Run inputs and the current bound. -/
def intervalGuards (request : IntervalPreparationRequest) (command : IntervalCommand) :
    Scheduling (SchedulerRunInputs × SchedulerIntervalBoundHead) := do
  let snapshot := request.snapshot
  let boundary := command.boundary
  raiseIf (command.bytes ≠ request.commandBytes.items) ⟨"noncanonical interval command"⟩
  raiseIf (command.publicationFence.commandId ≠ command.identity.commandId ∨
      command.publicationFence.disposition.isFirst = false)
    ⟨"fresh preparation requires exact first-publication command; journal replay owns decided bytes"⟩
  raiseIf (boundary.previousDueBoundary ≠ snapshot.previousDueBoundary ∨
      boundary.predecessorInterval ≠ snapshot.predecessorInterval ∨
      boundary.enumerationFrontier ≠ snapshot.enumerationFrontier ∨
      command.publicationFence ≠ snapshot.publicationFence)
    ⟨"interval boundary or publication fence changed"⟩
  match snapshot.configuration.schedule, snapshot.configuration.bound with
  | some schedule, some bound => do
      let inputs := schedule.revised.runInputs
      raiseIf (inputs.tenant ≠ snapshot.cut.tenantId)
        ⟨"interval definition tenant differs from source cut"⟩
      raiseIf (snapshot.configuration.activeHold ≠ expectedHold snapshot)
        ⟨"configuration and current hold inventory differ"⟩
      holdGuard snapshot command
      raiseIf (command.observedBound ≠ bound) ⟨"interval current bound changed"⟩
      return (inputs, bound)
  | _, _ => .error ⟨"interval configuration incomplete"⟩

/-- The submission that the evidence calls for. -/
def expectedSubmission : EligibilityEvidence → SubmittedManifest
  | .full manifest => .full manifest
  | .streaming evidence => .streaming evidence

/-- An enumeration that exceeds the bound. -/
def heldCandidate (command : IntervalCommand) (bound : SchedulerIntervalBoundHead)
    (measured : StreamedEligibility) (inputs : SchedulerRunInputs) :
    Scheduling IntervalCandidate :=
  match command with
  | .resolve _ => .error ⟨"successor bound does not admit complete resolution"⟩
  | .decide command =>
      prepareStreamedOverflow command bound measured.evidence measured.memberCount
        measured.manifestBytes inputs.principal

/-- An enumeration inside the bound. -/
def admittedCandidate [Pydantic] (request : IntervalPreparationRequest) (command : IntervalCommand)
    (bound : SchedulerIntervalBoundHead) (evidence : EligibilityEvidence)
    (inputs : SchedulerRunInputs) : Materializing IntervalCandidate :=
  match evidence with
  | .streaming _ => .error (.domain ⟨"ordinary admission requires full canonical manifest"⟩)
  | .full enumerated =>
      match command with
      | .decide command =>
          prepareInterval command bound enumerated.members inputs request.snapshot.enumerationProof
            request.snapshot.activeHold
      | .resolve command => prepareResolution command bound enumerated.members inputs

/-- The candidate of an enumeration, ordinary or held. -/
def measuredCandidate [Pydantic] (request : IntervalPreparationRequest) (command : IntervalCommand)
    (bound : SchedulerIntervalBoundHead) (measured : StreamedEligibility)
    (inputs : SchedulerRunInputs) : Materializing IntervalCandidate :=
  if measured.memberCount > bound.bound.maxMemberCount ∨
      measured.manifestBytes > bound.bound.maxManifestBytes then
    ofDomain (heldCandidate command bound measured inputs)
  else
    admittedCandidate request command bound measured.evidence inputs

def prepareIntervalRequest [Pydantic] [CommandJson] (request : IntervalPreparationRequest) :
    Preparing PreparedSchedulerBatch := do
  let snapshot := request.snapshot
  inDomain (verifyCut request.context request.commandBytes.items snapshot.cut)
  match readCommand request with
  | none => .error .validation
  | some command => do
      let (inputs, bound) ← inDomain (intervalGuards request command)
      let measured ← inDomain (streamDefinition snapshot.configuration command.boundary
        snapshot.disposed snapshot.enumerationProof)
      raiseIf (command.submitted ≠ expectedSubmission measured.evidence)
        (.materialization (.domain
          ⟨"submitted membership differs from complete definition enumeration"⟩))
      let candidate ← (measuredCandidate request command bound measured inputs).mapError
        .materialization
      return preparedBatch request candidate candidate.records

end Request

end Chiplog.AgentLoop
