import Chiplog.AgentLoop.SchedulerDomain

namespace Chiplog.AgentLoop

open Chiplog.Data Chiplog.Effects

/-! Lease transitions and rollovers of a physical epoch.

Both functions derive one unpublished candidate from the exact current view, a command
and what the broker issued for it. -/

section Leases

variable [Hashlib]

inductive LeaseRuleCode where
  | integrityHold
  | staleHead
  | clockUnverifiable
  | authorityDenied
  | leaseNotLive
  | generationExhausted
deriving DecidableEq

structure LeaseRuleViolation where
  code : LeaseRuleCode
  reason : String
deriving DecidableEq

/-- Broker-reproduced proof record and current authenticated session observation. -/
structure IssuedLeaseObservation where
  proof : TrustedClockProofRef
  now : UInt64
  maxLeaseDuration : ℕ+
  horizon : (maxLeaseDuration : Nat) ≤ uint64Max
  holderId : Identity
  holderSessionId : Identity
  authorityEpoch : Identity
  usedLeaseIds : List Identity

structure LeaseCandidate where
  transitionId : Identity
  commandFingerprint : Digest
  observedFenceFingerprint : Digest
  state : ExecutionRootLeaseState

def leaseFenceFingerprint (view : SchedulerLineageView) : Digest :=
  domainDigest "scheduler-lease-fence-v1" (.obj
    [("lineage", toJson view.lineage), ("physical_root", toJson view.physicalRoot),
      ("lease", toJson view.lease)])

def leasePayloadFingerprint (command : LeaseTransitionCommand) : Digest :=
  domainDigest "scheduler-lease-transition-payload-v1"
    (.obj (dropKey "clock_proof" (modelDump command)))

/-- The issued observation, if it carries the exact proof of this command and cut. -/
def exactObservation (current : SchedulerLineageView) (command : LeaseTransitionCommand)
    (issued : Option IssuedLeaseObservation) (submissionId : String) :
    Except LeaseRuleViolation IssuedLeaseObservation :=
  let unverifiable : LeaseRuleViolation :=
    ⟨.clockUnverifiable, "exact issued command/fence/cut proof absent"⟩
  match issued with
  | none => .error unverifiable
  | some observation => do
      let proof := command.clockProof
      raiseIf (observation.proof ≠ proof ∨ proof.commandId ≠ command.identity.commandId ∨
          proof.commandPayloadFingerprint ≠ leasePayloadFingerprint command ∨
          proof.fenceFingerprint ≠ leaseFenceFingerprint current ∨
          proof.submissionId.text ≠ submissionId) unverifiable
      return observation

/-- What must hold of the observed lease before any transition. -/
def observedLease (command : LeaseTransitionCommand) (issued : IssuedLeaseObservation) :
    ExecutionRootLeaseState → Except LeaseRuleViolation Unit
  | .exhausted _ =>
      .error ⟨.generationExhausted, "only physical rollover can leave exhaustion"⟩
  | .held lease => do
      raiseIf (lease.generation.toNat = 0 ∨ lease.leaseId ∉ issued.usedLeaseIds)
        ⟨.integrityHold, "held lease absent from generation/history"⟩
      raiseIf (lease.clockContractVersion ≠ command.clockProof.clockContractVersion)
        ⟨.clockUnverifiable, "clock contract differs from held epoch"⟩
  | .unleased _ => .ok ()

/-- A lease granted to the authenticated holder. -/
def grantedLease (command : LeaseTransitionCommand) (issued : IssuedLeaseObservation)
    (head : Identity) (generation : UInt64) : LeaseBinding :=
  { leaseHead := head
    holderId := issued.holderId
    holderSessionId := issued.holderSessionId
    leaseId := command.proposedLeaseId
    generation := generation
    trustedExpiry := command.proposedExpiry
    clockContractVersion := command.clockProof.clockContractVersion }

def acquireLease (command : LeaseTransitionCommand) (issued : IssuedLeaseObservation)
    (head : Identity) (observed : ExecutionRootLeaseState) :
    Except LeaseRuleViolation ExecutionRootLeaseState :=
  let stale : LeaseRuleViolation := ⟨.staleHead, "acquire requires exact genesis and generation one"⟩
  match observed with
  | .unleased _ => do
      raiseIf (command.proposedGeneration.toNat ≠ 1) stale
      raiseIf (command.proposedLeaseId ∈ issued.usedLeaseIds)
        ⟨.staleHead, "acquire lease identity is not fresh"⟩
      return .held (grantedLease command issued head 1)
  | _ => .error stale

def renewLease (command : LeaseTransitionCommand) (issued : IssuedLeaseObservation)
    (head : Identity) (observed : ExecutionRootLeaseState) :
    Except LeaseRuleViolation ExecutionRootLeaseState :=
  match observed with
  | .held old => do
      raiseIf (old.trustedExpiry.toNat ≤ issued.now.toNat ∨ issued.holderId ≠ old.holderId ∨
          issued.holderSessionId ≠ old.holderSessionId ∨
          command.proposedLeaseId ≠ old.leaseId ∨
          command.proposedGeneration ≠ old.generation ∨
          command.proposedExpiry.toNat ≤ old.trustedExpiry.toNat)
        ⟨.leaseNotLive, "renew holder/id/generation/expiry mismatch"⟩
      return .held { old with leaseHead := head, trustedExpiry := command.proposedExpiry }
  | _ => .error ⟨.staleHead, "renew requires exact held lease"⟩

def takeoverLease (command : LeaseTransitionCommand) (issued : IssuedLeaseObservation)
    (head : Identity) (observed : ExecutionRootLeaseState) :
    Except LeaseRuleViolation ExecutionRootLeaseState :=
  let alive : LeaseRuleViolation := ⟨.leaseNotLive, "takeover lacks positive expiry proof"⟩
  match observed with
  | .held old => do
      raiseIf (issued.now.toNat < old.trustedExpiry.toNat) alive
      raiseIf (command.proposedLeaseId ∈ issued.usedLeaseIds)
        ⟨.staleHead, "takeover lease identity is not fresh"⟩
      if old.generation.toNat = uint64Max then
        raiseIf (command.proposedGeneration.toNat ≠ uint64Max)
          ⟨.generationExhausted, "exhaustion cannot reset generation"⟩
        return .exhausted
          { leaseHead := head
            exhaustedCommandId := command.identity.commandId
            trustedExpiry := old.trustedExpiry
            authorityEpoch := issued.authorityEpoch
            precedingHeldLease := old }
      else
        raiseIf (command.proposedGeneration.toNat ≠ old.generation.toNat + 1)
          ⟨.staleHead, "takeover must advance generation exactly once"⟩
        return .held (grantedLease command issued head command.proposedGeneration)
  | _ => .error alive

def nextLease (command : LeaseTransitionCommand) (issued : IssuedLeaseObservation)
    (head : Identity) (observed : ExecutionRootLeaseState) :
    Except LeaseRuleViolation ExecutionRootLeaseState :=
  match command.kind with
  | .acquire => acquireLease command issued head observed
  | .renew => renewLease command issued head observed
  | .takeover => takeoverLease command issued head observed

/-- Validate exact immutable inputs and derive one candidate, without publishing. -/
def evaluateLease (current : SchedulerLineageView) (command : LeaseTransitionCommand)
    (issued : Option IssuedLeaseObservation) (submissionId : String) :
    Except LeaseRuleViolation LeaseCandidate := do
  raiseIf (command.lineage ≠ current.lineage ∨ command.physicalRoot ≠ current.physicalRoot ∨
      command.observedLease ≠ current.lease)
    ⟨.staleHead, "lineage, selector, epoch or lease changed"⟩
  let issued ← exactObservation current command issued submissionId
  raiseIf (command.proposedHolderId ≠ issued.holderId ∨
      command.proposedHolderSessionId ≠ issued.holderSessionId)
    ⟨.authorityDenied, "proposed holder/session was not authenticated"⟩
  raiseIf (¬ issued.usedLeaseIds.Nodup)
    ⟨.integrityHold, "duplicate lease identity in authoritative history"⟩
  raiseIf (¬ (issued.now.toNat < command.proposedExpiry.toNat ∧
      command.proposedExpiry.toNat ≤ issued.now.toNat + issued.maxLeaseDuration))
    ⟨.leaseNotLive, "proposed expiry outside registered future horizon"⟩
  observedLease command issued current.lease
  let commandFingerprint := domainDigest "scheduler-lease-transition-v1" (toJson command)
  let head := Identity.after "scheduler-lease-head-v1:" commandFingerprint.identity
  let state ← nextLease command issued head current.lease
  return {
    transitionId := Identity.after "scheduler-lease-transition-v1:" commandFingerprint.identity
    commandFingerprint := commandFingerprint
    observedFenceFingerprint := leaseFenceFingerprint current
    state := state }

/-- Only the proof's self-covering slots stay out of the payload. -/
def rolloverPayloadFingerprint (command : PhysicalRootRolloverCommand) : Digest :=
  let authority := dropKey "proof_id" (dropKey "proof_fingerprint"
    (dropKey "command_payload_fingerprint" (modelDump command.fence.authority)))
  let fence := dropKey "authority" (modelDump command.fence) ++ [("authority", .obj authority)]
  domainDigest "chiplog.scheduler.rollover-payload.v1"
    (.obj [("identity", toJson command.identity), ("fence", .obj fence)])

def rolloverSnapshotFingerprint (current : SchedulerLineageView) : Digest :=
  sha256 (recoveryBytes current)

/-- Exact broker-issued proof and reproduced history; construction grants nothing. -/
structure IssuedRolloverObservation where
  authority : RolloverAuthorityRef
  snapshotFingerprint : Digest
  submissionId : Identity
  authorityEpoch : Identity
  usedEpochIds : List Identity
  usedLeaseHeads : List Identity

/-- The bytes stand for their base64 text. -/
structure SchedulerCanonicalMember where
  recordKind : Identity
  recordId : Identity
  schemaId : Identity
  canonical : Bytes
  fingerprint : Digest
deriving DecidableEq

instance : Model SchedulerCanonicalMember := ⟨fun value =>
  [("record_kind", toJson value.recordKind), ("record_id", toJson value.recordId),
    ("schema_id", toJson value.schemaId), ("canonical_base64", .str (b64encode value.canonical)),
    ("fingerprint", toJson value.fingerprint)]⟩

structure RolloverCandidate where
  commandFingerprint : Digest
  decision : PresentHead
  edge : PresentHead
  view : SchedulerLineageView
  records : List SchedulerCanonicalMember
  completeCommitment : Digest

def rolloverRecord (kind : Identity) (identity : Identity) (value : List (String × Json)) :
    SchedulerCanonicalMember :=
  let raw := (Json.obj value).encode
  { recordKind := Identity.after "scheduler." kind
    recordId := identity
    schemaId := (Identity.after "chiplog.scheduler." kind).before ".v1"
    canonical := raw
    fingerprint := sha256 raw }

def SchedulerCanonicalMember.ref (record : SchedulerCanonicalMember) : PresentHead :=
  ⟨record.recordId, record.fingerprint⟩

/-- The complete batch a rollover proposes, without any check. -/
def rolloverCandidate (current : SchedulerLineageView) (command : PhysicalRootRolloverCommand)
    (lease : ExhaustedLease) (nextVersion : UInt64) (epochId genesisHead decisionId : Identity)
    (primitive : Json) : RolloverCandidate :=
  let physical := current.physicalRoot
  let edgeId := decisionId.before "/edge"
  let genesis : GenesisLease := ⟨genesisHead⟩
  let decision := rolloverRecord ⟨"rollover-decision", by decide⟩ decisionId
    [("primitive", primitive), ("primitive_fingerprint", toJson (sha256 primitive.encode)),
      ("successor_epoch_id", toJson epochId), ("genesis_lease_head", toJson genesisHead),
      ("reciprocal_edge_id", toJson edgeId)]
  let common : List (String × Json) :=
    [("lineage", toJson current.lineage), ("decision", toJson decision.ref)]
  let old := rolloverRecord ⟨"physical-epoch-terminal", by decide⟩
    (decisionId.before "/old-terminal") (common ++
      [("old_physical_root", toJson physical), ("exhaustion", toJson lease),
        ("state", .str "TERMINALLY_FENCED"), ("successor_epoch_id", toJson epochId),
        ("edge_id", toJson edgeId)])
  let newEpoch := rolloverRecord ⟨"rollover-physical-root", by decide⟩ epochId (common ++
    [("epoch_id", toJson epochId), ("predecessor_epoch_id", toJson physical.currentEpochId),
      ("genesis", toJson genesis), ("edge_id", toJson edgeId)])
  let genesisRecord := rolloverRecord ⟨"rollover-root-lease-genesis", by decide⟩ genesisHead
    (common ++ [("epoch", toJson newEpoch.ref), ("lease", toJson genesis)])
  let edge := rolloverRecord ⟨"rollover-edge", by decide⟩ edgeId (common ++
    [("old_epoch_id", toJson physical.currentEpochId), ("old_terminal", toJson old.ref),
      ("new_epoch", toJson newEpoch.ref), ("genesis", toJson genesisRecord.ref),
      ("predecessor_rollover", toJson current.predecessorRollover)])
  let pair : RolloverPredecessor := ⟨decision.ref, edge.ref⟩
  let selector := rolloverRecord ⟨"rollover-physical-selector", by decide⟩
    (decisionId.before "/selector") (common ++
      [("selector_id", toJson physical.selectorId), ("previous", toJson physical),
        ("selector_version", toJson nextVersion), ("selected_epoch", toJson newEpoch.ref),
        ("rollover", toJson (RolloverMarker.present pair))])
  let records := [decision, old, newEpoch, genesisRecord, edge, selector]
  { commandFingerprint := sha256 (recoveryBytes command)
    decision := decision.ref
    edge := edge.ref
    view :=
      { lineage := current.lineage
        physicalRoot :=
          { selectorId := physical.selectorId
            selectorHead := selector.recordId
            selectorVersion := nextVersion
            currentEpochId := epochId
            currentEpochHead := newEpoch.recordId }
        lease := .unleased genesis
        predecessorRollover := .present pair }
    records := records
    completeCommitment := sha256 (toJson records).encode }

/-- The hold a rollover leaves. -/
def exhaustedLease (current : SchedulerLineageView) (command : PhysicalRootRolloverCommand) :
    Except SchedulerDomainError ExhaustedLease :=
  let inexact : SchedulerDomainError :=
    ⟨"rollover requires exact exhausted lineage/physical snapshot"⟩
  match current.lease with
  | .exhausted lease => do
      raiseIf (command.fence.lineage ≠ current.lineage ∨
        command.fence.physicalRoot ≠ current.physicalRoot) inexact
      return lease
  | _ => .error inexact

def exactRollover (current : SchedulerLineageView) (command : PhysicalRootRolloverCommand)
    (lease : ExhaustedLease) (issued : Option IssuedRolloverObservation)
    (submissionId : String) : Except SchedulerDomainError IssuedRolloverObservation :=
  let differs : SchedulerDomainError :=
    ⟨"rollover authority proof/snapshot/chain/submission differs"⟩
  match issued with
  | none => .error differs
  | some observation => do
      let authority := command.fence.authority
      raiseIf (observation.authority ≠ authority ∨
        observation.snapshotFingerprint ≠ rolloverSnapshotFingerprint current ∨
        observation.submissionId.text ≠ submissionId ∨
        observation.authorityEpoch ≠ lease.authorityEpoch ∨
        authority.commandId ≠ command.identity.commandId ∨
        authority.commandPayloadFingerprint ≠ rolloverPayloadFingerprint command ∨
        authority.predecessorRollover ≠ current.predecessorRollover) differs
      return observation

/-- One proposal for the exact exhausted snapshot; the writer owns re-read, CAS and replay. -/
def prepareRollover (current : SchedulerLineageView) (command : PhysicalRootRolloverCommand)
    (issued : Option IssuedRolloverObservation) (submissionId : String) :
    Except SchedulerDomainError RolloverCandidate := do
  let lease ← exhaustedLease current command
  let exhaustion := command.fence.exhaustion
  raiseIf (exhaustion.holdHead ≠ lease.leaseHead ∨
      exhaustion.exhaustedCommandId ≠ lease.exhaustedCommandId ∨
      exhaustion.lease ≠ lease.precedingHeldLease ∨
      exhaustion.authorityEpoch ≠ lease.authorityEpoch ∨
      lease.precedingHeldLease.generation.toNat ≠ uint64Max ∨
      lease.trustedExpiry ≠ lease.precedingHeldLease.trustedExpiry)
    ⟨"exhaustion tuple differs from exact hold"⟩
  let issued ← exactRollover current command lease issued submissionId
  let physical := current.physicalRoot
  raiseIf (physical.selectorVersion.toNat = uint64Max) ⟨"physical selector version exhausted"⟩
  raiseIf (¬ issued.usedEpochIds.Nodup ∨ ¬ issued.usedLeaseHeads.Nodup ∨
      physical.currentEpochId ∉ issued.usedEpochIds ∨ lease.leaseHead ∉ issued.usedLeaseHeads ∨
      lease.precedingHeldLease.leaseHead ∉ issued.usedLeaseHeads)
    ⟨"incomplete or duplicate epoch/lease history"⟩
  let primitive := Json.obj [("schema", .str "chiplog.scheduler.rollover-primitive.v1"),
    ("command", toJson command), ("current", toJson current)]
  let fingerprint := sha256 primitive.encode
  let epochId := Identity.after "scheduler-physical-epoch-v1:"
    (sha256 (Json.arr [toJson fingerprint, .str "epoch"]).encode).identity
  let genesisHead := Identity.after "scheduler-genesis-v1:"
    (sha256 (Json.arr [toJson fingerprint, .str "UNLEASED", .int 0]).encode).identity
  raiseIf (epochId ∈ issued.usedEpochIds ∨ genesisHead ∈ issued.usedLeaseHeads)
    ⟨"rollover epoch or genesis aliases authoritative history"⟩
  -- The version was compared with its maximum above, so the successor fits.
  return rolloverCandidate current command lease (physical.selectorVersion + 1) epochId
    genesisHead (Identity.after "scheduler-rollover-v1:" fingerprint.identity) primitive

end Leases

end Chiplog.AgentLoop
