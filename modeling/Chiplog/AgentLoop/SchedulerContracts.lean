import Chiplog.Effects.Fences

namespace Chiplog.AgentLoop

open Chiplog.Data Chiplog.Effects

/-! Scheduler and recovery values of the agent loop.

Constructing one of them grants nothing; the domain functions and the native runtime
compare and store them.  Their wire form puts `kind` first, then the other keys. -/

/-- `Present`. -/
instance : Model PresentHead := ⟨fun value =>
  [("kind", .str "PRESENT"), ("head", toJson value.head),
    ("fingerprint", toJson value.fingerprint)]⟩

/-- A field typed `Absent | Present`. -/
inductive Marker where
  | absent
  | present (value : PresentHead)
deriving DecidableEq

instance : Model Marker := ⟨fun
  | .absent => [("kind", .str "ABSENT")]
  | .present value => modelDump value⟩

structure RolloverPredecessor where
  decision : PresentHead
  edge : PresentHead
deriving DecidableEq

/-- A field typed `Absent | RolloverPredecessor`. -/
inductive RolloverMarker where
  | absent
  | present (value : RolloverPredecessor)
deriving DecidableEq

instance : Model RolloverMarker := ⟨fun
  | .absent => [("kind", .str "ABSENT")]
  | .present value =>
      [("kind", .str "PRESENT"), ("decision", toJson value.decision),
        ("edge", toJson value.edge)]⟩

structure RolloverAuthorityRef where
  proofId : Identity
  proofFingerprint : Digest
  authorityHead : Identity
  commandId : Identity
  commandPayloadFingerprint : Digest
  predecessorRollover : RolloverMarker
deriving DecidableEq

instance : Model RolloverAuthorityRef := ⟨fun value =>
  [("proof_id", toJson value.proofId), ("proof_fingerprint", toJson value.proofFingerprint),
    ("authority_head", toJson value.authorityHead), ("command_id", toJson value.commandId),
    ("command_payload_fingerprint", toJson value.commandPayloadFingerprint),
    ("predecessor_rollover", toJson value.predecessorRollover)]⟩

structure ExhaustionBinding where
  holdHead : Identity
  exhaustedCommandId : Identity
  lease : LeaseBinding
  authorityEpoch : Identity
deriving DecidableEq

instance : Model ExhaustionBinding := ⟨fun value =>
  [("hold_head", toJson value.holdHead),
    ("exhausted_command_id", toJson value.exhaustedCommandId), ("lease", toJson value.lease),
    ("authority_epoch", toJson value.authorityEpoch)]⟩

structure PhysicalRootRolloverFence where
  lineage : ExecutionLineageBinding
  physicalRoot : PhysicalRootBinding
  exhaustion : ExhaustionBinding
  authority : RolloverAuthorityRef
deriving DecidableEq

instance : Model PhysicalRootRolloverFence := ⟨fun value =>
  [("kind", .str "PHYSICAL_ROOT_ROLLOVER"), ("lineage", toJson value.lineage),
    ("physical_root", toJson value.physicalRoot), ("exhaustion", toJson value.exhaustion),
    ("authority", toJson value.authority)]⟩

structure ScheduleDefinitionHead where
  scheduleId : Identity
  scheduleRevision : Identity
  head : Identity
  fingerprint : Digest
deriving DecidableEq

instance : Model ScheduleDefinitionHead := ⟨fun value =>
  [("schedule_id", toJson value.scheduleId),
    ("schedule_revision", toJson value.scheduleRevision), ("head", toJson value.head),
    ("fingerprint", toJson value.fingerprint)]⟩

inductive MissedPolicy where
  | skip
  | coalesce
  | materializeEach
deriving DecidableEq

instance : Jsonable MissedPolicy := ⟨fun
  | .skip => .str "SKIP"
  | .coalesce => .str "COALESCE"
  | .materializeEach => .str "MATERIALIZE_EACH"⟩

structure MissedOccurrencePolicyHead where
  policyId : Identity
  policyRevision : Identity
  head : Identity
  fingerprint : Digest
  kind : MissedPolicy
deriving DecidableEq

instance : Model MissedOccurrencePolicyHead := ⟨fun value =>
  [("policy_id", toJson value.policyId), ("policy_revision", toJson value.policyRevision),
    ("head", toJson value.head), ("fingerprint", toJson value.fingerprint),
    ("kind", toJson value.kind)]⟩

/-- Opaque canonical coordinate under the exact schedule coordinate policy. -/
structure DueCoordinate where
  coordinatePolicyVersion : Identity
  canonicalCoordinate : Identity
deriving DecidableEq

instance : Model DueCoordinate := ⟨fun value =>
  [("coordinate_policy_version", toJson value.coordinatePolicyVersion),
    ("canonical_coordinate", toJson value.canonicalCoordinate)]⟩

structure SchedulerEligibilityBoundary where
  scheduleDefinitionHead : ScheduleDefinitionHead
  missedOccurrencePolicyHead : MissedOccurrencePolicyHead
  previousDueBoundary : DueCoordinate
  cutoffDueCoordinate : DueCoordinate
  enumerationFrontier : Identity
  predecessorInterval : Marker
  canonicalizationVersion : Identity
deriving DecidableEq

instance : Model SchedulerEligibilityBoundary := ⟨fun value =>
  [("schedule_definition_head", toJson value.scheduleDefinitionHead),
    ("missed_occurrence_policy_head", toJson value.missedOccurrencePolicyHead),
    ("previous_due_boundary", toJson value.previousDueBoundary),
    ("cutoff_due_coordinate", toJson value.cutoffDueCoordinate),
    ("enumeration_frontier", toJson value.enumerationFrontier),
    ("predecessor_interval", toJson value.predecessorInterval),
    ("canonicalization_version", toJson value.canonicalizationVersion)]⟩

structure UndisposedOccurrence where
  occurrenceId : Identity
  scheduleId : Identity
  scheduleRevision : Identity
  dueCoordinate : DueCoordinate
  undisposedHead : Identity
  undisposedFingerprint : Digest
deriving DecidableEq

instance : Model UndisposedOccurrence := ⟨fun value =>
  [("occurrence_id", toJson value.occurrenceId), ("schedule_id", toJson value.scheduleId),
    ("schedule_revision", toJson value.scheduleRevision),
    ("due_coordinate", toJson value.dueCoordinate),
    ("undisposed_head", toJson value.undisposedHead),
    ("undisposed_fingerprint", toJson value.undisposedFingerprint)]⟩

structure SchedulerEligibilityManifest where
  members : List UndisposedOccurrence
  fingerprint : Digest
deriving DecidableEq

instance : Model SchedulerEligibilityManifest := ⟨fun value =>
  [("members", toJson value.members), ("fingerprint", toJson value.fingerprint)]⟩

structure SchedulerIntervalBound where
  maxMemberCount : ℕ+
  maxManifestBytes : ℕ+
  maxSerializedBatchBytes : ℕ+
deriving DecidableEq

instance : Model SchedulerIntervalBound := ⟨fun value =>
  [("max_member_count", toJson value.maxMemberCount),
    ("max_manifest_bytes", toJson value.maxManifestBytes),
    ("max_serialized_batch_bytes", toJson value.maxSerializedBatchBytes)]⟩

structure SchedulerIntervalBoundHead where
  headId : Identity
  predecessor : Marker
  generation : UInt64
  bound : SchedulerIntervalBound
  ownerId : Identity
  authorityEpoch : Identity
  brokerGeneration : Identity
  runtimeGraphGeneration : Identity
  canonicalizationVersion : Identity
deriving DecidableEq

instance : Model SchedulerIntervalBoundHead := ⟨fun value =>
  [("head_id", toJson value.headId), ("predecessor", toJson value.predecessor),
    ("generation", toJson value.generation), ("bound", toJson value.bound),
    ("owner_id", toJson value.ownerId), ("authority_epoch", toJson value.authorityEpoch),
    ("broker_generation", toJson value.brokerGeneration),
    ("runtime_graph_generation", toJson value.runtimeGraphGeneration),
    ("canonicalization_version", toJson value.canonicalizationVersion)]⟩

structure SchedulerCommandIdentity where
  commandId : Identity
  schemaVersion : Identity
  canonicalizationVersion : Identity
deriving DecidableEq

instance : Model SchedulerCommandIdentity := ⟨fun value =>
  [("command_id", toJson value.commandId), ("schema_version", toJson value.schemaVersion),
    ("canonicalization_version", toJson value.canonicalizationVersion)]⟩

structure StreamingEligibilityEvidence where
  manifestDigest : Digest
  memberCount : Nat
  firstMember : Marker
  lastMember : Marker
  orderContractVersion : Identity
  enumerationCompletenessProof : PresentHead
deriving DecidableEq

instance : Model StreamingEligibilityEvidence := ⟨fun value =>
  [("kind", .str "STREAMING_MANIFEST"), ("manifest_digest", toJson value.manifestDigest),
    ("member_count", toJson value.memberCount), ("first_member", toJson value.firstMember),
    ("last_member", toJson value.lastMember),
    ("order_contract_version", toJson value.orderContractVersion),
    ("enumeration_completeness_proof", toJson value.enumerationCompletenessProof)]⟩

inductive EligibilityEvidence where
  | full (manifest : SchedulerEligibilityManifest)
  | streaming (evidence : StreamingEligibilityEvidence)
deriving DecidableEq

instance : Model EligibilityEvidence := ⟨fun
  | .full manifest => [("kind", .str "FULL_MANIFEST"), ("manifest", toJson manifest)]
  | .streaming evidence => modelDump evidence⟩

inductive OverflowState where
  | active
  | resolvedByOperator (resolutionDecision : PresentHead)
deriving DecidableEq

instance : Model OverflowState := ⟨fun
  | .active => [("kind", .str "ACTIVE")]
  | .resolvedByOperator decision =>
      [("kind", .str "RESOLVED_BY_OPERATOR"), ("resolution_decision", toJson decision)]⟩

inductive OverflowDimension where
  | memberCount
  | manifestBytes
  | serializedBatchBytes
deriving DecidableEq

instance : Jsonable OverflowDimension := ⟨fun
  | .memberCount => .str "MEMBER_COUNT"
  | .manifestBytes => .str "MANIFEST_BYTES"
  | .serializedBatchBytes => .str "SERIALIZED_BATCH_BYTES"⟩

structure SchedulerOverflowHold where
  hold : PresentHead
  command : SchedulerCommandIdentity
  boundary : SchedulerEligibilityBoundary
  boundHead : SchedulerIntervalBoundHead
  exceededDimension : OverflowDimension
  actualValue : Nat
  limit : ℕ+
  evidence : EligibilityEvidence
  operatorRecoveryOwner : Identity
  state : OverflowState
deriving DecidableEq

instance : Model SchedulerOverflowHold := ⟨fun value =>
  [("hold", toJson value.hold), ("command", toJson value.command),
    ("boundary", toJson value.boundary), ("bound_head", toJson value.boundHead),
    ("exceeded_dimension", toJson value.exceededDimension),
    ("actual_value", toJson value.actualValue), ("limit", toJson value.limit),
    ("evidence", toJson value.evidence),
    ("operator_recovery_owner", toJson value.operatorRecoveryOwner), ("state", toJson value.state)]⟩

structure MaterializationIdentity where
  materializationId : Identity
  primitiveDomainFingerprint : Digest
deriving DecidableEq

instance : Model MaterializationIdentity := ⟨fun value =>
  [("materialization_id", toJson value.materializationId),
    ("primitive_domain_fingerprint", toJson value.primitiveDomainFingerprint)]⟩

inductive OccurrenceDisposition where
  | claimedIndividually (occurrence : UndisposedOccurrence)
      (materialization : MaterializationIdentity)
  | coalescedInto (occurrence : UndisposedOccurrence) (aggregateId : Identity)
      (manifestFingerprint : Digest) (materialization : MaterializationIdentity)
  | skipped (occurrence : UndisposedOccurrence) (policyDecision : PresentHead)
deriving DecidableEq

instance : Model OccurrenceDisposition := ⟨fun
  | .claimedIndividually occurrence materialization =>
      [("kind", .str "CLAIMED_INDIVIDUALLY"), ("occurrence", toJson occurrence),
        ("materialization", toJson materialization)]
  | .coalescedInto occurrence aggregateId manifestFingerprint materialization =>
      [("kind", .str "COALESCED_INTO"), ("occurrence", toJson occurrence),
        ("aggregate_id", toJson aggregateId),
        ("manifest_fingerprint", toJson manifestFingerprint),
        ("materialization", toJson materialization)]
  | .skipped occurrence policyDecision =>
      [("kind", .str "SKIPPED"), ("occurrence", toJson occurrence),
        ("policy_decision", toJson policyDecision)]⟩

def OccurrenceDisposition.occurrence : OccurrenceDisposition → UndisposedOccurrence
  | .claimedIndividually occurrence _ => occurrence
  | .coalescedInto occurrence _ _ _ => occurrence
  | .skipped occurrence _ => occurrence

/-- `2**64 - 1`. -/
def uint64Max : Nat := 2 ^ 64 - 1

structure GenesisLease where
  leaseHead : Identity
deriving DecidableEq

instance : Model GenesisLease := ⟨fun value =>
  [("kind", .str "UNLEASED"), ("lease_head", toJson value.leaseHead), ("generation", .int 0)]⟩

structure ExhaustedLease where
  leaseHead : Identity
  exhaustedCommandId : Identity
  trustedExpiry : UInt64
  authorityEpoch : Identity
  precedingHeldLease : LeaseBinding
deriving DecidableEq

instance : Model ExhaustedLease := ⟨fun value =>
  [("kind", .str "GENERATION_EXHAUSTED_HOLD"), ("lease_head", toJson value.leaseHead),
    ("generation", .int uint64Max), ("exhausted_command_id", toJson value.exhaustedCommandId),
    ("trusted_expiry", toJson value.trustedExpiry),
    ("authority_epoch", toJson value.authorityEpoch),
    ("preceding_held_lease", toJson value.precedingHeldLease)]⟩

inductive ExecutionRootLeaseState where
  | unleased (genesis : GenesisLease)
  | held (binding : LeaseBinding)
  | exhausted (hold : ExhaustedLease)
deriving DecidableEq

instance : Model ExecutionRootLeaseState := ⟨fun
  | .unleased genesis => modelDump genesis
  | .held binding => [("kind", .str "HELD"), ("binding", toJson binding)]
  | .exhausted hold => modelDump hold⟩

/-- The `generation` of each lease state; the two literals are part of their types. -/
def ExecutionRootLeaseState.generation : ExecutionRootLeaseState → Nat
  | .unleased _ => 0
  | .held binding => binding.generation.toNat
  | .exhausted _ => uint64Max

inductive LeaseTransitionKind where
  | acquire
  | renew
  | takeover
deriving DecidableEq

instance : Jsonable LeaseTransitionKind := ⟨fun
  | .acquire => .str "ACQUIRE"
  | .renew => .str "RENEW"
  | .takeover => .str "TAKEOVER"⟩

structure LeaseTransitionCommand where
  identity : SchedulerCommandIdentity
  kind : LeaseTransitionKind
  lineage : ExecutionLineageBinding
  physicalRoot : PhysicalRootBinding
  observedLease : ExecutionRootLeaseState
  proposedHolderId : Identity
  proposedHolderSessionId : Identity
  proposedLeaseId : Identity
  proposedExpiry : UInt64
  proposedGeneration : UInt64
  clockProof : TrustedClockProofRef
deriving DecidableEq

instance : Model LeaseTransitionCommand := ⟨fun value =>
  [("identity", toJson value.identity), ("kind", toJson value.kind),
    ("lineage", toJson value.lineage), ("physical_root", toJson value.physicalRoot),
    ("observed_lease", toJson value.observedLease),
    ("proposed_holder_id", toJson value.proposedHolderId),
    ("proposed_holder_session_id", toJson value.proposedHolderSessionId),
    ("proposed_lease_id", toJson value.proposedLeaseId),
    ("proposed_expiry", toJson value.proposedExpiry),
    ("proposed_generation", toJson value.proposedGeneration),
    ("clock_proof", toJson value.clockProof)]⟩

structure PhysicalRootRolloverCommand where
  identity : SchedulerCommandIdentity
  fence : PhysicalRootRolloverFence
deriving DecidableEq

instance : Model PhysicalRootRolloverCommand := ⟨fun value =>
  [("identity", toJson value.identity), ("fence", toJson value.fence)]⟩

structure SchedulerLineageView where
  lineage : ExecutionLineageBinding
  physicalRoot : PhysicalRootBinding
  lease : ExecutionRootLeaseState
  predecessorRollover : RolloverMarker
deriving DecidableEq

instance : Model SchedulerLineageView := ⟨fun value =>
  [("lineage", toJson value.lineage), ("physical_root", toJson value.physicalRoot),
    ("lease", toJson value.lease), ("predecessor_rollover", toJson value.predecessorRollover)]⟩

end Chiplog.AgentLoop
