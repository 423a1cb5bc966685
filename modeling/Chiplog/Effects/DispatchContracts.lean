import Chiplog.Effects.Application

namespace Chiplog.Effects

open Chiplog.Data

/-! The second dispatch contract: mandate, intent, commands and records, with the checks
that bind an intent to its mandate, adoption and precursor. -/

inductive UnavailableReason where
  | unimplemented
  | unregisteredVersion
  | unverifiable
  | stale
  | unreachable
deriving DecidableEq

def UnavailableReason.wire : UnavailableReason → String
  | .unimplemented => "UNIMPLEMENTED"
  | .unregisteredVersion => "UNREGISTERED_VERSION"
  | .unverifiable => "UNVERIFIABLE"
  | .stale => "STALE"
  | .unreachable => "UNREACHABLE"

instance : Jsonable UnavailableReason := ⟨fun reason => .str reason.wire⟩

structure UnavailableSource where
  reason : UnavailableReason
  detail : Identity
deriving DecidableEq

instance : Model UnavailableSource := ⟨fun value =>
  [("kind", .str "UNAVAILABLE"), ("reason", toJson value.reason),
    ("detail", toJson value.detail)]⟩

inductive SourceObservation where
  | captured (source : CapturedSource)
  | unavailable (source : UnavailableSource)
deriving DecidableEq

instance : Model SourceObservation := ⟨fun
  | .captured source => modelDump source
  | .unavailable source => modelDump source⟩

/-- Every required group is explicit, even when it has no available issuer. -/
structure DispatchSourceInventory where
  trust : SourceObservation
  planning : SourceObservation
  semanticRegistry : SourceObservation
  originalAdoption : SourceObservation
  runtimeAndFence : SourceObservation
  endpoint : SourceObservation
  credentialLifecycle : SourceObservation
  deploymentEntitlement : SourceObservation
  clock : SourceObservation
  effectsHistory : SourceObservation
  normativeConflictGeneration : SourceObservation
deriving DecidableEq

instance : Model DispatchSourceInventory := ⟨fun value =>
  [("trust", toJson value.trust), ("planning", toJson value.planning),
    ("semantic_registry", toJson value.semanticRegistry),
    ("original_adoption", toJson value.originalAdoption),
    ("runtime_and_fence", toJson value.runtimeAndFence), ("endpoint", toJson value.endpoint),
    ("credential_lifecycle", toJson value.credentialLifecycle),
    ("deployment_entitlement", toJson value.deploymentEntitlement), ("clock", toJson value.clock),
    ("effects_history", toJson value.effectsHistory),
    ("normative_conflict_generation", toJson value.normativeConflictGeneration)]⟩

structure InitializedCallOrigin where
  originalRunId : Identity
  originalCallId : Identity
  initializationRunHead : ExactHead
  initializedHead : ExactHead
  toolName : Identity
  toolSchema : Identity
  toolPolicy : ExactHead
  sealedArguments : NonemptyBytes
deriving DecidableEq

instance : Model InitializedCallOrigin := ⟨fun value =>
  [("kind", .str "INITIALIZED_CONSEQUENTIAL_CALL"),
    ("original_run_id", toJson value.originalRunId),
    ("original_call_id", toJson value.originalCallId),
    ("initialization_run_head", toJson value.initializationRunHead),
    ("initialized_head", toJson value.initializedHead), ("tool_name", toJson value.toolName),
    ("tool_schema", toJson value.toolSchema), ("tool_policy", toJson value.toolPolicy),
    ("sealed_arguments", toJson value.sealedArguments)]⟩

structure PlanEffectOrigin where
  proposal : ExactHead
  planningPredecessor : ExactHead
  proposedPlanningRevision : ExactHead
  originalPlanningRequest : NonemptyBytes
  originalPlanningResult : NonemptyBytes
deriving DecidableEq

instance : Model PlanEffectOrigin := ⟨fun value =>
  [("kind", .str "PLAN_EFFECT_PUBLICATION"), ("proposal", toJson value.proposal),
    ("planning_predecessor", toJson value.planningPredecessor),
    ("proposed_planning_revision", toJson value.proposedPlanningRevision),
    ("original_planning_request", toJson value.originalPlanningRequest),
    ("original_planning_result", toJson value.originalPlanningResult)]⟩

inductive DispatchOrigin where
  | initializedCall (origin : InitializedCallOrigin)
  | planEffect (origin : PlanEffectOrigin)
deriving DecidableEq

instance : Model DispatchOrigin := ⟨fun
  | .initializedCall origin => modelDump origin
  | .planEffect origin => modelDump origin⟩

/-- Original adopted upper bound; cross-epoch continuity needs independent proof. -/
structure MandateHorizon where
  clockContract : Identity
  clockEpoch : Identity
  notBeforeNs : Nat
  expiresAtNs : ℕ+
  continuityPolicy : ExactHead
deriving DecidableEq

instance : Model MandateHorizon := ⟨fun value =>
  [("clock_contract", toJson value.clockContract), ("clock_epoch", toJson value.clockEpoch),
    ("not_before_ns", toJson value.notBeforeNs), ("expires_at_ns", toJson value.expiresAtNs),
    ("continuity_policy", toJson value.continuityPolicy)]⟩

structure DispatchMandateV2 where
  mandateId : Identity
  tenantId : Identity
  principalId : Identity
  actorId : Identity
  operationProfile : ExactHead
  origin : DispatchOrigin
  planningRevision : ExactHead
  preexistingAuthorityBasis : ExactHead
  authoritySources : NonemptyTuple ExactHead
  affectedPartyConstraints : List ExactHead
  normativeConflictGeneration : ExactHead
  dependencies : List ExactHead
  factualAssertionEvidence : List ExactHead
  verificationContradiction : List ExactHead
  authorityApplicability : List ExactHead
  consequenceScope : ExactHead
  communicationMandate : ExactHead
  disclosureProjection : ExactHead
  channelClass : Identity
  interactionContext : ExactHead
  recipient : ProviderRecipient
  payload : NonemptyBytes
  effectFingerprint : Digest
  bundleMembers : NonemptyTuple ExactHead
  idempotencyFenceKey : Identity
  horizon : MandateHorizon
  semantics : DispatchSemanticBinding
deriving DecidableEq

instance : Model DispatchMandateV2 := ⟨fun value =>
  [("schema_id", .str "chiplog.effects.dispatch-mandate.v2"),
    ("mandate_id", toJson value.mandateId), ("tenant_id", toJson value.tenantId),
    ("principal_id", toJson value.principalId), ("actor_id", toJson value.actorId),
    ("operation_profile", toJson value.operationProfile), ("origin", toJson value.origin),
    ("planning_revision", toJson value.planningRevision),
    ("preexisting_authority_basis", toJson value.preexistingAuthorityBasis),
    ("authority_sources", toJson value.authoritySources),
    ("affected_party_constraints", toJson value.affectedPartyConstraints),
    ("normative_conflict_generation", toJson value.normativeConflictGeneration),
    ("dependencies", toJson value.dependencies),
    ("factual_assertion_evidence", toJson value.factualAssertionEvidence),
    ("verification_contradiction", toJson value.verificationContradiction),
    ("authority_applicability", toJson value.authorityApplicability),
    ("consequence_scope", toJson value.consequenceScope),
    ("communication_mandate", toJson value.communicationMandate),
    ("disclosure_projection", toJson value.disclosureProjection),
    ("channel_class", toJson value.channelClass),
    ("interaction_context", toJson value.interactionContext),
    ("recipient", toJson value.recipient), ("payload", toJson value.payload),
    ("effect_fingerprint", toJson value.effectFingerprint),
    ("bundle_members", toJson value.bundleMembers),
    ("idempotency_fence_key", toJson value.idempotencyFenceKey),
    ("horizon", toJson value.horizon), ("semantics", toJson value.semantics)]⟩

/-- Exact submitted adoption, authenticated only by a later private issuer. -/
structure DispatchAdoptionV2 where
  adoptionActId : Identity
  display : ExactHead
  displayBytes : NonemptyBytes
  mandateBytes : NonemptyBytes
  ingress : ExactHead
  ingressBytes : NonemptyBytes
deriving DecidableEq

instance : Model DispatchAdoptionV2 := ⟨fun value =>
  [("schema_id", .str "chiplog.effects.dispatch-adoption.v2"),
    ("adoption_act_id", toJson value.adoptionActId), ("display", toJson value.display),
    ("display_bytes", toJson value.displayBytes), ("mandate_bytes", toJson value.mandateBytes),
    ("ingress", toJson value.ingress), ("ingress_bytes", toJson value.ingressBytes)]⟩

structure DispatchPrecursorRequestV2 where
  requestId : Identity
  mandateDigest : Digest
  interpretationPolicy : ExactHead
  preexistingSourceHeads : NonemptyTuple ExactHead
deriving DecidableEq

instance : Model DispatchPrecursorRequestV2 := ⟨fun value =>
  [("schema_id", .str "chiplog.effects.dispatch-precursor-request.v2"),
    ("request_id", toJson value.requestId), ("mandate_digest", toJson value.mandateDigest),
    ("interpretation_policy", toJson value.interpretationPolicy),
    ("preexisting_source_heads", toJson value.preexistingSourceHeads)]⟩

structure DispatchPrecursorResultV2 where
  requestDigest : Digest
  mandateDigest : Digest
  interpretationPolicy : ExactHead
  evaluationEvidence : NonemptyTuple ExactHead
deriving DecidableEq

instance : Model DispatchPrecursorResultV2 := ⟨fun value =>
  [("schema_id", .str "chiplog.effects.dispatch-precursor-result.v2"),
    ("request_digest", toJson value.requestDigest),
    ("mandate_digest", toJson value.mandateDigest),
    ("interpretation_policy", toJson value.interpretationPolicy),
    ("evaluation_evidence", toJson value.evaluationEvidence)]⟩

/-- Original evidence, retained unchanged even after its observation leases expire. -/
structure DispatchAcquisitionV2 where
  adoption : DispatchAdoptionV2
  authenticatedInvocation : NonemptyBytes
  precursorRequest : DispatchPrecursorRequestV2
  precursorResult : DispatchPrecursorResultV2
  originalSources : DispatchSourceInventory
deriving DecidableEq

instance : Model DispatchAcquisitionV2 := ⟨fun value =>
  [("schema_id", .str "chiplog.effects.dispatch-acquisition.v2"),
    ("adoption", toJson value.adoption),
    ("authenticated_invocation", toJson value.authenticatedInvocation),
    ("precursor_request", toJson value.precursorRequest),
    ("precursor_result", toJson value.precursorResult),
    ("original_sources", toJson value.originalSources)]⟩

structure ExternalActionIntentV2 where
  intentId : Identity
  fingerprint : Digest
  mandate : DispatchMandateV2
  acquisition : DispatchAcquisitionV2
deriving DecidableEq

instance : Model ExternalActionIntentV2 := ⟨fun value =>
  [("schema_id", .str "chiplog.effects.external-action-intent.v2"),
    ("intent_id", toJson value.intentId), ("fingerprint", toJson value.fingerprint),
    ("mandate", toJson value.mandate), ("acquisition", toJson value.acquisition)]⟩

structure PublishDispatchIntentV2 where
  identity : CommandIdentity
  intent : ExternalActionIntentV2
  completePublicationManifest : NonemptyTuple ExactHead
  fence : WorkerFence
deriving DecidableEq

instance : Model PublishDispatchIntentV2 := ⟨fun value =>
  [("schema_id", .str "chiplog.effects.publish-dispatch-intent.v2"),
    ("identity", toJson value.identity), ("intent", toJson value.intent),
    ("complete_publication_manifest", toJson value.completePublicationManifest),
    ("fence", toJson value.fence)]⟩

structure AuthorizeDispatchV2 where
  identity : CommandIdentity
  intent : ExactHead
  expectedAttempt : ExactHead
  immutableMandate : ExactHead
  semantics : DispatchSemanticBinding
  fence : WorkerFence
deriving DecidableEq

instance : Model AuthorizeDispatchV2 := ⟨fun value =>
  [("schema_id", .str "chiplog.effects.authorize-dispatch.v2"),
    ("identity", toJson value.identity), ("intent", toJson value.intent),
    ("expected_attempt", toJson value.expectedAttempt),
    ("immutable_mandate", toJson value.immutableMandate), ("semantics", toJson value.semantics),
    ("fence", toJson value.fence)]⟩

/-- First child only; its `ordinal` can only be zero. -/
structure CommitFirstSendV2 where
  identity : CommandIdentity
  intent : ExactHead
  expectedAttempt : ExactHead
  authorization : ExactHead
  immutableMandate : ExactHead
  semantics : DispatchSemanticBinding
  fence : WorkerFence
deriving DecidableEq

instance : Model CommitFirstSendV2 := ⟨fun value =>
  [("schema_id", .str "chiplog.effects.commit-first-send.v2"),
    ("identity", toJson value.identity), ("intent", toJson value.intent),
    ("expected_attempt", toJson value.expectedAttempt),
    ("authorization", toJson value.authorization),
    ("immutable_mandate", toJson value.immutableMandate), ("semantics", toJson value.semantics),
    ("fence", toJson value.fence), ("ordinal", .int 0)]⟩

inductive DispatchCommandV2 where
  | publish (command : PublishDispatchIntentV2)
  | authorize (command : AuthorizeDispatchV2)
  | commitFirstSend (command : CommitFirstSendV2)
deriving DecidableEq

instance : Model DispatchCommandV2 := ⟨fun
  | .publish command => modelDump command
  | .authorize command => modelDump command
  | .commitFirstSend command => modelDump command⟩

structure DispatchAuthorizationV2 where
  authorization : ExactHead
  intent : ExactHead
  expectedAttempt : ExactHead
  mandate : ExactHead
  semantics : DispatchSemanticBinding
  fence : WorkerFence
  observationFingerprint : Identity
deriving DecidableEq

instance : Model DispatchAuthorizationV2 := ⟨fun value =>
  [("authorization", toJson value.authorization), ("intent", toJson value.intent),
    ("expected_attempt", toJson value.expectedAttempt), ("mandate", toJson value.mandate),
    ("semantics", toJson value.semantics), ("fence", toJson value.fence),
    ("observation_fingerprint", toJson value.observationFingerprint)]⟩

/-- The states of an attempt before any outcome was recorded. -/
inductive DispatchStateV2 where
  | intentRecorded
  | dispatchAuthorized
  | sendCommitted
deriving DecidableEq

def DispatchStateV2.wire : DispatchStateV2 → String
  | .intentRecorded => "INTENT_RECORDED"
  | .dispatchAuthorized => "DISPATCH_AUTHORIZED"
  | .sendCommitted => "SEND_COMMITTED"

instance : Jsonable DispatchStateV2 := ⟨fun state => .str state.wire⟩

structure DispatchAttemptV2 where
  intent : ExternalActionIntentV2
  attempt : ExactHead
  state : DispatchStateV2
  authorizations : List DispatchAuthorizationV2
  transmissions : List TransmissionAttempt
deriving DecidableEq

instance : Model DispatchAttemptV2 := ⟨fun value =>
  [("intent", toJson value.intent), ("attempt", toJson value.attempt),
    ("state", toJson value.state), ("authorizations", toJson value.authorizations),
    ("transmissions", toJson value.transmissions)]⟩

inductive DispatchKindV2 where
  | planEffectPublished
  | intentAccepted
  | dispatchAuthorized
  | sendCommitted
deriving DecidableEq

def DispatchKindV2.wire : DispatchKindV2 → String
  | .planEffectPublished => "PLAN_EFFECT_PUBLISHED"
  | .intentAccepted => "INTENT_ACCEPTED"
  | .dispatchAuthorized => "DISPATCH_AUTHORIZED"
  | .sendCommitted => "SEND_COMMITTED"

instance : Jsonable DispatchKindV2 := ⟨fun kind => .str kind.wire⟩

structure DispatchRecordV2 where
  record : ExactHead
  predecessor : Option ExactHead
  kind : DispatchKindV2
  command : DispatchCommandV2
  snapshot : DispatchAttemptV2
deriving DecidableEq

instance : Model DispatchRecordV2 := ⟨fun value =>
  [("schema_id", .str "chiplog.effects.dispatch-record.v2"), ("record", toJson value.record),
    ("predecessor", toJson value.predecessor), ("kind", toJson value.kind),
    ("command", toJson value.command), ("snapshot", toJson value.snapshot)]⟩

section Dispatch

variable [Hashlib]

/-- `reference`: the exact head of a subject under the digest of its bytes. -/
def reference (subject : Identity) (raw : Bytes) : ExactHead :=
  let fingerprint := sha256 raw
  { subjectId := subject
    head := subject.before ("/" ++ fingerprint.text)
    fingerprint := fingerprint.identity }

def intentFingerprint (intent : ExternalActionIntentV2) : Digest :=
  let body := Json.obj (dropKey "fingerprint" (modelDump intent))
  sha256 (utf8 "chiplog.effects.intent.v2\x00" ++ body.encode)

def requireMandate (mandate : DispatchMandateV2) : Checked Unit := do
  deny (sha256 mandate.payload.items ≠ mandate.effectFingerprint) .denied
    "mandate payload fingerprint differs"
  deny (mandate.horizon.expiresAtNs.val ≤ mandate.horizon.notBeforeNs) .denied
    "empty or reversed adopted horizon"
  deny (¬ mandate.bundleMembers.items.Nodup) .denied "duplicate inseparable bundle member"
  match mandate.origin with
  | .planEffect _ => return
  | .initializedCall origin =>
      deny (origin.initializedHead.subjectId ≠ origin.originalCallId ∨
          origin.initializationRunHead.subjectId ≠ origin.originalRunId) .denied
        "original subject and initialized revision differ"

def evaluatePrecursor (request : DispatchPrecursorRequestV2) (mandate : DispatchMandateV2) :
    Checked DispatchPrecursorResultV2 := do
  requireMandate mandate
  deny (request.mandateDigest ≠ sha256 (canonicalBytes mandate).items ∨
      request.interpretationPolicy ≠ mandate.operationProfile ∨
      mandate.preexistingAuthorityBasis ∉ request.preexistingSourceHeads.items) .denied
    "precursor substitutes mandate or authority basis"
  return {
    requestDigest := sha256 (canonicalBytes request).items
    mandateDigest := request.mandateDigest
    interpretationPolicy := request.interpretationPolicy
    evaluationEvidence := request.preexistingSourceHeads }

/-- The digest comparisons come first; only if they pass is the precursor evaluated. -/
def requireIntent (intent : ExternalActionIntentV2) : Checked Unit := do
  requireMandate intent.mandate
  let acquisition := intent.acquisition
  let adoption := acquisition.adoption
  deny (intentFingerprint intent ≠ intent.fingerprint ∨
      adoption.mandateBytes ≠ canonicalBytes intent.mandate ∨
      adoption.display.fingerprint ≠ (sha256 adoption.displayBytes.items).identity ∨
      adoption.ingress.fingerprint ≠ (sha256 adoption.ingressBytes.items).identity) .denied
    "intent/adoption/precursor digest graph differs"
  let result ← evaluatePrecursor acquisition.precursorRequest intent.mandate
  deny (acquisition.precursorResult ≠ result) .denied
    "intent/adoption/precursor digest graph differs"

theorem requireMandate_distinct {mandate : DispatchMandateV2} {value : Unit}
    (accepted : requireMandate mandate = .ok value) : mandate.bundleMembers.items.Nodup := by
  simp only [requireMandate, bind_ok, deny_ok] at accepted
  obtain ⟨_, _, _, _, _, distinct, _⟩ := accepted
  exact not_not.mp distinct

theorem requireIntent_distinct {intent : ExternalActionIntentV2} {value : Unit}
    (accepted : requireIntent intent = .ok value) :
    intent.mandate.bundleMembers.items.Nodup := by
  simp only [requireIntent, bind_ok] at accepted
  obtain ⟨_, mandate, _⟩ := accepted
  exact requireMandate_distinct mandate

end Dispatch

end Chiplog.Effects
