import Chiplog.Data.Model

namespace Chiplog.Effects

open Chiplog.Data

/-! Worker fences: the frozen recovery wire the effects owner compares byte for byte. -/

inductive HeadMarker where
  | absent
  | notApplicable
  | present (head : Identity) (fingerprint : Digest)
deriving DecidableEq

instance : Model HeadMarker := ⟨fun
  | .absent => [("kind", .str "ABSENT")]
  | .notApplicable => [("kind", .str "NOT_APPLICABLE")]
  | .present head fingerprint =>
      [("kind", .str "PRESENT"), ("head", toJson head), ("fingerprint", toJson fingerprint)]⟩

/-- The marker of a field typed `NotApplicable`. -/
def notApplicableJson : Json := toJson HeadMarker.notApplicable

inductive ExecutionLineageSubject where
  | individual (occurrenceId : Identity)
  | coalesced (aggregateId : Identity) (manifestFingerprint : Digest)
deriving DecidableEq

instance : Model ExecutionLineageSubject := ⟨fun
  | .individual occurrenceId =>
      [("kind", .str "INDIVIDUAL"), ("identity_domain", .str "chiplog.scheduler.individual.v1"),
        ("occurrence_id", toJson occurrenceId)]
  | .coalesced aggregateId manifestFingerprint =>
      [("kind", .str "COALESCED"), ("identity_domain", .str "chiplog.scheduler.coalesced.v1"),
        ("aggregate_id", toJson aggregateId),
        ("manifest_fingerprint", toJson manifestFingerprint)]⟩

structure ExecutionLineageBinding where
  rootId : Identity
  subject : ExecutionLineageSubject
  rootFingerprint : Digest
  lineageHead : Identity
  initialRunId : Identity
  currentRunId : Identity
  scheduleId : Identity
  scheduleRevision : Identity
  policyRevision : Identity
deriving DecidableEq

instance : Model ExecutionLineageBinding := ⟨fun value =>
  [("root_id", toJson value.rootId), ("subject", toJson value.subject),
    ("root_fingerprint", toJson value.rootFingerprint),
    ("lineage_head", toJson value.lineageHead), ("initial_run_id", toJson value.initialRunId),
    ("current_run_id", toJson value.currentRunId), ("schedule_id", toJson value.scheduleId),
    ("schedule_revision", toJson value.scheduleRevision),
    ("policy_revision", toJson value.policyRevision)]⟩

structure PhysicalRootBinding where
  selectorId : Identity
  selectorHead : Identity
  selectorVersion : UInt64
  currentEpochId : Identity
  currentEpochHead : Identity
deriving DecidableEq

instance : Model PhysicalRootBinding := ⟨fun value =>
  [("selector_id", toJson value.selectorId), ("selector_head", toJson value.selectorHead),
    ("selector_version", toJson value.selectorVersion),
    ("current_epoch_id", toJson value.currentEpochId),
    ("current_epoch_head", toJson value.currentEpochHead)]⟩

structure LeaseBinding where
  leaseHead : Identity
  holderId : Identity
  holderSessionId : Identity
  leaseId : Identity
  generation : UInt64
  trustedExpiry : UInt64
  clockContractVersion : Identity
deriving DecidableEq

instance : Model LeaseBinding := ⟨fun value =>
  [("lease_head", toJson value.leaseHead), ("holder_id", toJson value.holderId),
    ("holder_session_id", toJson value.holderSessionId), ("lease_id", toJson value.leaseId),
    ("generation", toJson value.generation), ("trusted_expiry", toJson value.trustedExpiry),
    ("clock_contract_version", toJson value.clockContractVersion)]⟩

/-- Reference to broker-issued proof; submitted values alone prove nothing. -/
structure TrustedClockProofRef where
  proofId : Identity
  proofFingerprint : Digest
  proofVersion : Identity
  clockContractVersion : Identity
  fenceFingerprint : Digest
  commandId : Identity
  commandPayloadFingerprint : Digest
  submissionId : Identity
deriving DecidableEq

instance : Model TrustedClockProofRef := ⟨fun value =>
  [("proof_id", toJson value.proofId), ("proof_fingerprint", toJson value.proofFingerprint),
    ("proof_version", toJson value.proofVersion),
    ("clock_contract_version", toJson value.clockContractVersion),
    ("fence_fingerprint", toJson value.fenceFingerprint), ("command_id", toJson value.commandId),
    ("command_payload_fingerprint", toJson value.commandPayloadFingerprint),
    ("submission_id", toJson value.submissionId)]⟩

/-- Its lineage, physical root, lease and clock proof are `NOT_APPLICABLE` markers. -/
structure NonSchedulerFence where
  runId : Identity
  runHead : Identity
  workerSessionId : Identity
  runtimeGeneration : Identity
deriving DecidableEq

instance : Model NonSchedulerFence := ⟨fun value =>
  [("kind", .str "NON_SCHEDULER_NOT_APPLICABLE"), ("lineage", notApplicableJson),
    ("physical_root", notApplicableJson), ("lease", notApplicableJson),
    ("clock_proof", notApplicableJson), ("run_id", toJson value.runId),
    ("run_head", toJson value.runHead), ("worker_session_id", toJson value.workerSessionId),
    ("runtime_generation", toJson value.runtimeGeneration)]⟩

structure SchedulerExecutionFence where
  runHead : Identity
  lineage : ExecutionLineageBinding
  physicalRoot : PhysicalRootBinding
  lease : LeaseBinding
  clockProof : TrustedClockProofRef
deriving DecidableEq

instance : Model SchedulerExecutionFence := ⟨fun value =>
  [("kind", .str "EXECUTION_ROOT_LIVE_LEASE"), ("run_head", toJson value.runHead),
    ("lineage", toJson value.lineage), ("physical_root", toJson value.physicalRoot),
    ("lease", toJson value.lease), ("clock_proof", toJson value.clockProof)]⟩

/-- An evidence head that is either absent or present; `none` is `ABSENT`. -/
structure PresentHead where
  head : Identity
  fingerprint : Digest
deriving DecidableEq

def presentOrAbsentJson (head : Option PresentHead) : Json :=
  match head with
  | none => toJson HeadMarker.absent
  | some head => toJson (HeadMarker.present head.head head.fingerprint)

structure OriginalObligationBinding where
  originalRunId : Identity
  originalCallId : Identity
  obligationId : Identity
  obligationStreamId : Identity
  obligationHead : Identity
  closurePredicateId : Identity
  closurePredicateVersion : Identity
  resolverId : Identity
  resolverVersion : Identity
  reducerId : Identity
  reducerVersion : Identity
  evidenceStreamId : Identity
  evidenceHead : Option PresentHead
deriving DecidableEq

instance : Model OriginalObligationBinding := ⟨fun value =>
  [("original_run_id", toJson value.originalRunId),
    ("original_call_id", toJson value.originalCallId),
    ("obligation_id", toJson value.obligationId),
    ("obligation_stream_id", toJson value.obligationStreamId),
    ("obligation_head", toJson value.obligationHead),
    ("closure_predicate_id", toJson value.closurePredicateId),
    ("closure_predicate_version", toJson value.closurePredicateVersion),
    ("resolver_id", toJson value.resolverId), ("resolver_version", toJson value.resolverVersion),
    ("reducer_id", toJson value.reducerId), ("reducer_version", toJson value.reducerVersion),
    ("evidence_stream_id", toJson value.evidenceStreamId),
    ("evidence_head", presentOrAbsentJson value.evidenceHead)]⟩

structure WorkSubjectBinding where
  workId : Identity
  workSubjectHead : Identity
  workSubjectFingerprint : Digest
  terminalManifestHead : Identity
  terminalManifestMemberFingerprint : Digest
  originalObligation : OriginalObligationBinding
deriving DecidableEq

instance : Model WorkSubjectBinding := ⟨fun value =>
  [("work_id", toJson value.workId), ("work_subject_head", toJson value.workSubjectHead),
    ("work_subject_fingerprint", toJson value.workSubjectFingerprint),
    ("terminal_manifest_head", toJson value.terminalManifestHead),
    ("terminal_manifest_member_fingerprint", toJson value.terminalManifestMemberFingerprint),
    ("original_obligation", toJson value.originalObligation)]⟩

structure WorkEpochBinding where
  selectorId : Identity
  selectorHead : Identity
  selectorVersion : UInt64
  currentEpochId : Identity
  currentEpochHead : Identity
deriving DecidableEq

instance : Model WorkEpochBinding := ⟨fun value =>
  [("selector_id", toJson value.selectorId), ("selector_head", toJson value.selectorHead),
    ("selector_version", toJson value.selectorVersion),
    ("current_epoch_id", toJson value.currentEpochId),
    ("current_epoch_head", toJson value.currentEpochHead)]⟩

structure PostTerminalWorkFence where
  subject : WorkSubjectBinding
  workEpoch : WorkEpochBinding
  lease : LeaseBinding
  clockProof : TrustedClockProofRef
  workCommandId : Identity
deriving DecidableEq

instance : Model PostTerminalWorkFence := ⟨fun value =>
  [("kind", .str "POST_TERMINAL_RECOVERY_WORK"), ("subject", toJson value.subject),
    ("work_epoch", toJson value.workEpoch), ("lease", toJson value.lease),
    ("clock_proof", toJson value.clockProof), ("work_command_id", toJson value.workCommandId)]⟩

inductive WorkerFence where
  | nonScheduler (fence : NonSchedulerFence)
  | schedulerExecution (fence : SchedulerExecutionFence)
  | postTerminalWork (fence : PostTerminalWorkFence)
deriving DecidableEq

instance : Model WorkerFence := ⟨fun
  | .nonScheduler fence => modelDump fence
  | .schedulerExecution fence => modelDump fence
  | .postTerminalWork fence => modelDump fence⟩

/-- `fence.run_head`; post-terminal recovery work has none. -/
def WorkerFence.runHead? : WorkerFence → Option Identity
  | .nonScheduler fence => some fence.runHead
  | .schedulerExecution fence => some fence.runHead
  | .postTerminalWork _ => none

end Chiplog.Effects
