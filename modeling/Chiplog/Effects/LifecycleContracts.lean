import Chiplog.Effects.Outcomes

namespace Chiplog.Effects

open Chiplog.Data

/-! The lifecycle contract of a retransmission: scoped intents of the third contract, the
observed lineage of one intent, the coverage of its children and what a preparation returns.

`σ` is the inventory of original sources that a scoped acquisition retains.  No owner of this
development opens it. -/

/-! ### Scoped intents -/

structure CompensationOriginV3 where
  original : OriginalAmbiguity
  consequenceAddressed : ExactHead
  proposedCompensation : ExactHead
deriving DecidableEq

instance : Model CompensationOriginV3 := ⟨fun value =>
  [("kind", .str "COMPENSATION"), ("original", toJson value.original),
    ("consequence_addressed", toJson value.consequenceAddressed),
    ("proposed_compensation", toJson value.proposedCompensation)]⟩

structure DuplicateRiskOriginV3 where
  unresolvedAttempts : NonemptyTuple OriginalAmbiguity
  possibleDuplicateEffects : NonemptyTuple ExactHead
  affectedPartiesResources : NonemptyTuple ExactHead
  commitmentConsequences : NonemptyTuple ExactHead
  saferAlternatives : NonemptyTuple ExactHead
deriving DecidableEq

instance : Model DuplicateRiskOriginV3 := ⟨fun value =>
  [("kind", .str "AUTHORIZE_DUPLICATE_RISK"),
    ("unresolved_attempts", toJson value.unresolvedAttempts),
    ("possible_duplicate_effects", toJson value.possibleDuplicateEffects),
    ("affected_parties_resources", toJson value.affectedPartiesResources),
    ("commitment_consequences", toJson value.commitmentConsequences),
    ("safer_alternatives", toJson value.saferAlternatives)]⟩

structure PreparedDeliveryOriginV3 where
  originalRun : ExactHead
  capturedAttempt : ExactHead
  binding : DeliverySendBinding
  preparationBasis : ExactHead
deriving DecidableEq

instance : Model PreparedDeliveryOriginV3 := ⟨fun value =>
  [("kind", .str "PREPARED_DELIVERY"), ("original_run", toJson value.originalRun),
    ("captured_attempt", toJson value.capturedAttempt), ("binding", toJson value.binding),
    ("preparation_basis", toJson value.preparationBasis)]⟩

inductive ScopedDispatchOrigin where
  | initializedCall (origin : InitializedCallOrigin)
  | planEffect (origin : PlanEffectOrigin)
  | compensation (origin : CompensationOriginV3)
  | duplicateRisk (origin : DuplicateRiskOriginV3)
  | preparedDelivery (origin : PreparedDeliveryOriginV3)
deriving DecidableEq

instance : Model ScopedDispatchOrigin := ⟨fun
  | .initializedCall origin => modelDump origin
  | .planEffect origin => modelDump origin
  | .compensation origin => modelDump origin
  | .duplicateRisk origin => modelDump origin
  | .preparedDelivery origin => modelDump origin⟩

structure DispatchMandateV3 where
  mandateId : Identity
  tenantId : Identity
  principalId : Identity
  actorId : Identity
  operationProfile : ExactHead
  origin : ScopedDispatchOrigin
  planningRevision : ExactHead
  preexistingAuthorityBasis : ExactHead
  authoritySources : NonemptyTuple ExactHead
  affectedPartyConstraints : List ExactHead
  normativeConflictGeneration : ExactHead
  dependencies : List ExactHead
  factualAssertionEvidence : List ExactHead
  verificationContradiction : List ExactHead
  authorityApplicability : List ExactHead
  consequenceScope : ExactHead
  communicationMandate : ExactHead
  disclosureProjection : ExactHead
  channelClass : Identity
  interactionContext : ExactHead
  recipient : ProviderRecipient
  payload : NonemptyBytes
  effectFingerprint : Digest
  bundleMembers : NonemptyTuple ExactHead
  idempotencyFenceKey : Identity
  horizon : MandateHorizon
  semantics : DispatchSemanticBinding
deriving DecidableEq

instance : Model DispatchMandateV3 := ⟨fun value =>
  [("schema_id", .str "chiplog.effects.dispatch-mandate.v3"),
    ("mandate_id", toJson value.mandateId), ("tenant_id", toJson value.tenantId),
    ("principal_id", toJson value.principalId), ("actor_id", toJson value.actorId),
    ("operation_profile", toJson value.operationProfile), ("origin", toJson value.origin),
    ("planning_revision", toJson value.planningRevision),
    ("preexisting_authority_basis", toJson value.preexistingAuthorityBasis),
    ("authority_sources", toJson value.authoritySources),
    ("affected_party_constraints", toJson value.affectedPartyConstraints),
    ("normative_conflict_generation", toJson value.normativeConflictGeneration),
    ("dependencies", toJson value.dependencies),
    ("factual_assertion_evidence", toJson value.factualAssertionEvidence),
    ("verification_contradiction", toJson value.verificationContradiction),
    ("authority_applicability", toJson value.authorityApplicability),
    ("consequence_scope", toJson value.consequenceScope),
    ("communication_mandate", toJson value.communicationMandate),
    ("disclosure_projection", toJson value.disclosureProjection),
    ("channel_class", toJson value.channelClass),
    ("interaction_context", toJson value.interactionContext),
    ("recipient", toJson value.recipient), ("payload", toJson value.payload),
    ("effect_fingerprint", toJson value.effectFingerprint),
    ("bundle_members", toJson value.bundleMembers),
    ("idempotency_fence_key", toJson value.idempotencyFenceKey),
    ("horizon", toJson value.horizon), ("semantics", toJson value.semantics)]⟩

structure ScopedAuthorityRecord where
  owner : Identity
  head : ExactHead
  schemaId : Identity
  canonicalRecordBytes : NonemptyBytes
  selectedDecision : ExactHead
deriving DecidableEq

instance : Model ScopedAuthorityRecord := ⟨fun value =>
  [("owner", toJson value.owner), ("head", toJson value.head), ("schema_id", toJson value.schemaId),
    ("canonical_record_bytes", toJson value.canonicalRecordBytes),
    ("selected_decision", toJson value.selectedDecision)]⟩

structure ScopedPrecursorRequest where
  requestId : Identity
  mandate : DispatchMandateV3
  interpretationPolicy : ScopedAuthorityRecord
  preexistingSources : NonemptyTuple ScopedAuthorityRecord
deriving DecidableEq

instance : Model ScopedPrecursorRequest := ⟨fun value =>
  [("kind", .str "SCOPED_PRECURSOR_REQUEST_V3"), ("request_id", toJson value.requestId),
    ("mandate", toJson value.mandate), ("interpretation_policy", toJson value.interpretationPolicy),
    ("preexisting_sources", toJson value.preexistingSources)]⟩

structure ScopedPrecursorResult where
  sourceRequestFingerprint : Digest
  mandateFingerprint : Digest
  interpretationPolicy : ExactHead
  completeEvaluationEvidence : NonemptyTuple ExactHead
deriving DecidableEq

instance : Model ScopedPrecursorResult := ⟨fun value =>
  [("kind", .str "SCOPED_PRECURSOR_RESULT_V3"),
    ("source_request_fingerprint", toJson value.sourceRequestFingerprint),
    ("mandate_fingerprint", toJson value.mandateFingerprint),
    ("interpretation_policy", toJson value.interpretationPolicy),
    ("complete_evaluation_evidence", toJson value.completeEvaluationEvidence)]⟩

structure HumanScopedAdoption where
  adoptionAct : ScopedAuthorityRecord
  display : ExactHead
  exactDisplayBytes : NonemptyBytes
  exactMandateBytes : NonemptyBytes
  authenticatedInvocation : ScopedAuthorityRecord
deriving DecidableEq

instance : Model HumanScopedAdoption := ⟨fun value =>
  [("kind", .str "HUMAN_ADOPTION"), ("adoption_act", toJson value.adoptionAct),
    ("display", toJson value.display), ("exact_display_bytes", toJson value.exactDisplayBytes),
    ("exact_mandate_bytes", toJson value.exactMandateBytes),
    ("authenticated_invocation", toJson value.authenticatedInvocation)]⟩

structure RegisteredCompensationAuthority where
  authorityOrBoundedMandate : ScopedAuthorityRecord
  currentApplicability : ScopedAuthorityRecord
  adoptionRequirement : ScopedAuthorityRecord
  exactMandateBytes : NonemptyBytes
deriving DecidableEq

instance : Model RegisteredCompensationAuthority := ⟨fun value =>
  [("kind", .str "REGISTERED_COMPENSATION_AUTHORITY"),
    ("authority_or_bounded_mandate", toJson value.authorityOrBoundedMandate),
    ("current_applicability", toJson value.currentApplicability),
    ("adoption_requirement", toJson value.adoptionRequirement),
    ("exact_mandate_bytes", toJson value.exactMandateBytes)]⟩

structure PreparedDeliveryBasisV3 where
  sourceCut : ExactHead
  acceptance : ExactHead
  completionCommandBytes : NonemptyBytes
  deliveryObservationBytes : NonemptyBytes
  loopProposalBytes : NonemptyBytes
deriving DecidableEq

instance : Model PreparedDeliveryBasisV3 := ⟨fun value =>
  [("schema_id", .str "chiplog.loop.delivery-preparation-basis.v1"), ("owner", .str "agent_loop"),
    ("source_cut", toJson value.sourceCut), ("acceptance", toJson value.acceptance),
    ("completion_command_bytes", toJson value.completionCommandBytes),
    ("delivery_observation_bytes", toJson value.deliveryObservationBytes),
    ("loop_proposal_bytes", toJson value.loopProposalBytes)]⟩

structure PreparedDeliveryAuthority where
  basis : PreparedDeliveryBasisV3
  preexistingCommunicationAuthority : ScopedAuthorityRecord
  currentDisclosureAuthority : ScopedAuthorityRecord
  exactMandateBytes : NonemptyBytes
deriving DecidableEq

instance : Model PreparedDeliveryAuthority := ⟨fun value =>
  [("kind", .str "DELIVERY_PREPARATION"), ("basis", toJson value.basis),
    ("preexisting_communication_authority", toJson value.preexistingCommunicationAuthority),
    ("current_disclosure_authority", toJson value.currentDisclosureAuthority),
    ("exact_mandate_bytes", toJson value.exactMandateBytes)]⟩

inductive ScopedAcquisitionAuthority where
  | human (authority : HumanScopedAdoption)
  | compensation (authority : RegisteredCompensationAuthority)
  | delivery (authority : PreparedDeliveryAuthority)
deriving DecidableEq

instance : Model ScopedAcquisitionAuthority := ⟨fun
  | .human authority => modelDump authority
  | .compensation authority => modelDump authority
  | .delivery authority => modelDump authority⟩

structure ScopedDispatchAcquisition (σ : Type) where
  authority : ScopedAcquisitionAuthority
  precursorRequest : ScopedPrecursorRequest
  precursorResult : ScopedPrecursorResult
  originalSources : σ
deriving DecidableEq

instance [Model σ] : Model (ScopedDispatchAcquisition σ) := ⟨fun value =>
  [("authority", toJson value.authority), ("precursor_request", toJson value.precursorRequest),
    ("precursor_result", toJson value.precursorResult),
    ("original_sources", toJson value.originalSources)]⟩

structure ExternalActionIntentV3 (σ : Type) where
  intentId : Identity
  fingerprint : Digest
  mandate : DispatchMandateV3
  acquisition : ScopedDispatchAcquisition σ
deriving DecidableEq

instance [Model σ] : Model (ExternalActionIntentV3 σ) := ⟨fun value =>
  [("schema_id", .str "chiplog.effects.external-action-intent.v3"),
    ("intent_id", toJson value.intentId), ("fingerprint", toJson value.fingerprint),
    ("mandate", toJson value.mandate), ("acquisition", toJson value.acquisition)]⟩

structure ScopedDispatchAuthorizationRecord where
  authorizationId : Identity
  command : CommandIdentity
  originalIntent : ExactHead
  expectedParent : ExactHead
  immutableMandate : ExactHead
  semantics : DispatchSemanticBinding
  completeCurrentOriginSources : List ScopedAuthorityRecord
  currentInputsFingerprint : Digest
  fence : WorkerFence
deriving DecidableEq

instance : Model ScopedDispatchAuthorizationRecord := ⟨fun value =>
  [("schema_id", .str "chiplog.effects.scoped-authorization.v3"),
    ("authorization_id", toJson value.authorizationId), ("command", toJson value.command),
    ("original_intent", toJson value.originalIntent),
    ("expected_parent", toJson value.expectedParent),
    ("immutable_mandate", toJson value.immutableMandate), ("semantics", toJson value.semantics),
    ("complete_current_origin_sources", toJson value.completeCurrentOriginSources),
    ("current_inputs_fingerprint", toJson value.currentInputsFingerprint),
    ("fence", toJson value.fence)]⟩

inductive LifecycleIntent (σ : Type) where
  | v2 (intent : ExternalActionIntentV2)
  | v3 (intent : ExternalActionIntentV3 σ)
deriving DecidableEq

instance [Model σ] : Model (LifecycleIntent σ) := ⟨fun
  | .v2 intent => modelDump intent
  | .v3 intent => modelDump intent⟩

inductive OriginalAuthorization where
  | v2 (authorization : DispatchAuthorizationV2)
  | scoped (authorization : ScopedDispatchAuthorizationRecord)
deriving DecidableEq

instance : Model OriginalAuthorization := ⟨fun
  | .v2 authorization => modelDump authorization
  | .scoped authorization => modelDump authorization⟩

/-! ### Current observations -/

structure SelectedEffectHistoryMember where
  kind : RecordKind
  selectedDecision : ExactHead
  publicationOrdinal : Nat
  originalSelectedCut : ExactHead
  record : ExactHead
  predecessor : Option ExactHead
  intent : ExactHead
  semantics : DispatchSemanticBinding
  commandBytes : NonemptyBytes
  recordBytes : NonemptyBytes
deriving DecidableEq

instance : Model SelectedEffectHistoryMember := ⟨fun value =>
  [("kind", toJson value.kind), ("selected_decision", toJson value.selectedDecision),
    ("publication_ordinal", toJson value.publicationOrdinal),
    ("original_selected_cut", toJson value.originalSelectedCut), ("record", toJson value.record),
    ("predecessor", toJson value.predecessor), ("intent", toJson value.intent),
    ("semantics", toJson value.semantics), ("command_bytes", toJson value.commandBytes),
    ("record_bytes", toJson value.recordBytes)]⟩

structure DispatchObservationCut where
  tenantId : Identity
  databaseIdentity : ExactHead
  selectedJournalHead : ExactHead
  materializationCommitment : Digest
  tenantFrontier : Nat
  sourceRoleRegistry : ExactHead
  captureId : Identity
deriving DecidableEq

instance : Model DispatchObservationCut := ⟨fun value =>
  [("tenant_id", toJson value.tenantId), ("database_identity", toJson value.databaseIdentity),
    ("selected_journal_head", toJson value.selectedJournalHead),
    ("materialization_commitment", toJson value.materializationCommitment),
    ("tenant_frontier", toJson value.tenantFrontier),
    ("source_role_registry", toJson value.sourceRoleRegistry),
    ("capture_id", toJson value.captureId)]⟩

structure DispatchAuthorityObservation where
  queryFingerprint : Digest
  cut : DispatchObservationCut
  sources : DispatchSourceInventory
  completeEffectHistory : List SelectedEffectHistoryMember
  completeHistoryFingerprint : Digest
deriving DecidableEq

instance : Model DispatchAuthorityObservation := ⟨fun value =>
  [("schema_id", .str "chiplog.effects.dispatch-observation.v2"),
    ("query_fingerprint", toJson value.queryFingerprint), ("cut", toJson value.cut),
    ("sources", toJson value.sources),
    ("complete_effect_history", toJson value.completeEffectHistory),
    ("complete_history_fingerprint", toJson value.completeHistoryFingerprint)]⟩

/-- Independent fresh observations, not a reconstructed or renewed mandate. -/
structure CurrentDispatchInputsV2 where
  commandFingerprint : Digest
  immutableMandate : ExactHead
  observation : DispatchAuthorityObservation
  supportedSemantics : Option DispatchSemanticBinding
  clockContract : Identity
  clockEpoch : Identity
  observedTimeNs : Nat
  leaseExpiresAtNs : ℕ+
deriving DecidableEq

instance : Model CurrentDispatchInputsV2 := ⟨fun value =>
  [("schema_id", .str "chiplog.effects.current-dispatch-inputs.v2"),
    ("command_fingerprint", toJson value.commandFingerprint),
    ("immutable_mandate", toJson value.immutableMandate),
    ("observation", toJson value.observation),
    ("supported_semantics", toJson value.supportedSemantics),
    ("clock_contract", toJson value.clockContract), ("clock_epoch", toJson value.clockEpoch),
    ("observed_time_ns", toJson value.observedTimeNs),
    ("lease_expires_at_ns", toJson value.leaseExpiresAtNs)]⟩

/-! ### The observed lineage -/

structure EffectsObligationRevision where
  obligation : ExactHead
  predecessor : Option ExactHead
  originalIntent : ExactHead
  originalSend : ExactHead
  completeOrderedChildren : NonemptyTuple ExactHead
  state : ObligationState
  closurePredicate : ExactHead
  resolverBinding : ExactHead
  closureEvidence : List ExactHead
deriving DecidableEq

/-- A field typed `ExactHead | Absent`. -/
def headOrAbsent (head : Option ExactHead) : Json :=
  head.elim (toJson HeadMarker.absent) toJson

instance : Model EffectsObligationRevision := ⟨fun value =>
  [("schema_id", .str "chiplog.effects.all-child-obligation.v1"),
    ("obligation", toJson value.obligation), ("predecessor", headOrAbsent value.predecessor),
    ("original_intent", toJson value.originalIntent), ("original_send", toJson value.originalSend),
    ("complete_ordered_children", toJson value.completeOrderedChildren),
    ("state", toJson value.state), ("closure_predicate", toJson value.closurePredicate),
    ("resolver_binding", toJson value.resolverBinding),
    ("closure_evidence", toJson value.closureEvidence)]⟩

inductive OriginalObligation where
  | absent
  | dispatch (obligation : DispatchObligationV2)
  | revision (obligation : EffectsObligationRevision)
deriving DecidableEq

instance : Model OriginalObligation := ⟨fun
  | .absent => modelDump HeadMarker.absent
  | .dispatch obligation => modelDump obligation
  | .revision obligation => modelDump obligation⟩

structure SelectedEffectsSource where
  owner : Identity
  subject : ExactHead
  schemaId : Identity
  canonicalRecordBytes : NonemptyBytes
  selectedDecision : ExactHead
  physicalRecord : ExactHead
deriving DecidableEq

instance : Model SelectedEffectsSource := ⟨fun value =>
  [("owner", toJson value.owner), ("subject", toJson value.subject),
    ("schema_id", toJson value.schemaId),
    ("canonical_record_bytes", toJson value.canonicalRecordBytes),
    ("selected_decision", toJson value.selectedDecision),
    ("physical_record", toJson value.physicalRecord)]⟩

structure EffectsLineageCut (σ : Type) where
  tenantId : Identity
  databaseId : Identity
  tenantCommitSequence : UInt64
  materializationCommitment : Digest
  originalIntent : LifecycleIntent σ
  originalAuthorization : OriginalAuthorization
  currentParent : ExactHead
  state : AttemptState
  completeOrderedChildren : NonemptyTuple TransmissionAttempt
  completeChildSources : NonemptyTuple SelectedEffectsSource
  completeOrderedEvidence : List SelectedEffectsSource
  originalObligation : OriginalObligation
  completeInventoryFingerprint : Digest
deriving DecidableEq

instance [Model σ] : Model (EffectsLineageCut σ) := ⟨fun value =>
  [("tenant_id", toJson value.tenantId), ("database_id", toJson value.databaseId),
    ("tenant_commit_sequence", toJson value.tenantCommitSequence),
    ("materialization_commitment", toJson value.materializationCommitment),
    ("original_intent", toJson value.originalIntent),
    ("original_authorization", toJson value.originalAuthorization),
    ("current_parent", toJson value.currentParent), ("state", toJson value.state),
    ("complete_ordered_children", toJson value.completeOrderedChildren),
    ("complete_child_sources", toJson value.completeChildSources),
    ("complete_ordered_evidence", toJson value.completeOrderedEvidence),
    ("original_obligation", toJson value.originalObligation),
    ("complete_inventory_fingerprint", toJson value.completeInventoryFingerprint)]⟩

/-! ### Coverage -/

structure RetryCoverageSubject where
  originalIntent : ExactHead
  exactEffectFingerprint : Digest
  exactPayloadFingerprint : Digest
  recipient : ProviderRecipient
  idempotencyFenceKey : Identity
  completePriorChildren : NonemptyTuple ExactHead
  nextTransmissionId : Identity
  nextOrdinal : UInt64
  clockContract : Identity
  clockEpoch : Identity
  coverageStartsNs : UInt64
  coverageExpiresNs : UInt64
  later : 0 < nextOrdinal

instance : DecidableEq RetryCoverageSubject := fun left right =>
  decidable_of_iff
    (left.originalIntent = right.originalIntent ∧
      left.exactEffectFingerprint = right.exactEffectFingerprint ∧
      left.exactPayloadFingerprint = right.exactPayloadFingerprint ∧
      left.recipient = right.recipient ∧
      left.idempotencyFenceKey = right.idempotencyFenceKey ∧
      left.completePriorChildren = right.completePriorChildren ∧
      left.nextTransmissionId = right.nextTransmissionId ∧
      left.nextOrdinal = right.nextOrdinal ∧
      left.clockContract = right.clockContract ∧
      left.clockEpoch = right.clockEpoch ∧
      left.coverageStartsNs = right.coverageStartsNs ∧
      left.coverageExpiresNs = right.coverageExpiresNs)
    (by cases left; cases right; simp only [RetryCoverageSubject.mk.injEq])

instance : Model RetryCoverageSubject := ⟨fun value =>
  [("original_intent", toJson value.originalIntent),
    ("exact_effect_fingerprint", toJson value.exactEffectFingerprint),
    ("exact_payload_fingerprint", toJson value.exactPayloadFingerprint),
    ("recipient", toJson value.recipient),
    ("idempotency_fence_key", toJson value.idempotencyFenceKey),
    ("complete_prior_children", toJson value.completePriorChildren),
    ("next_transmission_id", toJson value.nextTransmissionId),
    ("next_ordinal", toJson value.nextOrdinal), ("clock_contract", toJson value.clockContract),
    ("clock_epoch", toJson value.clockEpoch),
    ("coverage_starts_ns", toJson value.coverageStartsNs),
    ("coverage_expires_ns", toJson value.coverageExpiresNs)]⟩

inductive IncapacityReason where
  | terminalProviderRejection
  | terminalProviderCancellation
  | enforcedLeaseExpired
  | winningProviderFence
deriving DecidableEq

def IncapacityReason.wire : IncapacityReason → String
  | .terminalProviderRejection => "TERMINAL_PROVIDER_REJECTION"
  | .terminalProviderCancellation => "TERMINAL_PROVIDER_CANCELLATION"
  | .enforcedLeaseExpired => "ENFORCED_LEASE_EXPIRED"
  | .winningProviderFence => "WINNING_PROVIDER_FENCE"

instance : Jsonable IncapacityReason := ⟨fun reason => .str reason.wire⟩

structure ChildPermanentIncapacity where
  child : ExactHead
  reason : IncapacityReason
  registeredProtocol : ExactHead
  evidence : SelectedEffectsSource
deriving DecidableEq

instance : Model ChildPermanentIncapacity := ⟨fun value =>
  [("child", toJson value.child), ("reason", toJson value.reason),
    ("registered_protocol", toJson value.registeredProtocol),
    ("evidence", toJson value.evidence)]⟩

structure ProviderIdempotencyCoverage where
  subject : RetryCoverageSubject
  providerContract : SelectedEffectsSource
  completeCoverageProof : SelectedEffectsSource
deriving DecidableEq

instance : Model ProviderIdempotencyCoverage := ⟨fun value =>
  [("kind", .str "PROVIDER_IDEMPOTENCY_COVERS_ALL"), ("subject", toJson value.subject),
    ("provider_contract", toJson value.providerContract),
    ("complete_coverage_proof", toJson value.completeCoverageProof)]⟩

structure AllPriorChildrenIncapable where
  subject : RetryCoverageSubject
  completeOrderedProofs : NonemptyTuple ChildPermanentIncapacity
deriving DecidableEq

instance : Model AllPriorChildrenIncapable := ⟨fun value =>
  [("kind", .str "ALL_PRIOR_PERMANENTLY_INCAPABLE"), ("subject", toJson value.subject),
    ("complete_ordered_proofs", toJson value.completeOrderedProofs)]⟩

inductive SafeRetryCoverage where
  | provider (coverage : ProviderIdempotencyCoverage)
  | incapable (coverage : AllPriorChildrenIncapable)
deriving DecidableEq

instance : Model SafeRetryCoverage := ⟨fun
  | .provider coverage => modelDump coverage
  | .incapable coverage => modelDump coverage⟩

def SafeRetryCoverage.subject : SafeRetryCoverage → RetryCoverageSubject
  | .provider coverage => coverage.subject
  | .incapable coverage => coverage.subject

/-! ### Request and result -/

/-- The states a retransmission may continue. -/
inductive RetriedState where
  | sendCommitted
  | sent
  | outcomeUnknown
deriving DecidableEq

def RetriedState.attempt : RetriedState → AttemptState
  | .sendCommitted => .sendCommitted
  | .sent => .sent
  | .outcomeUnknown => .outcomeUnknown

instance : Jsonable RetriedState := ⟨fun state => toJson state.attempt⟩

structure PrepareSafeRetransmission (σ : Type) where
  identity : CommandIdentity
  observed : EffectsLineageCut σ
  expectedParentState : RetriedState
  coverage : SafeRetryCoverage
  current : CurrentDispatchInputsV2
  completeCurrentOriginSources : List ScopedAuthorityRecord
  fence : WorkerFence
deriving DecidableEq

instance [Model σ] : Model (PrepareSafeRetransmission σ) := ⟨fun value =>
  [("kind", .str "PREPARE_SAFE_RETRANSMISSION_V1"), ("identity", toJson value.identity),
    ("observed", toJson value.observed),
    ("expected_parent_state", toJson value.expectedParentState),
    ("coverage", toJson value.coverage), ("current", toJson value.current),
    ("complete_current_origin_sources", toJson value.completeCurrentOriginSources),
    ("fence", toJson value.fence)]⟩

/-- The primitive commitment of a retransmission: the child points here, not to its parent. -/
structure RetransmissionDecisionRecord where
  identity : CommandIdentity
  sourceRequestFingerprint : Digest
  originalIntent : ExactHead
  originalAuthorization : ExactHead
  priorParent : ExactHead
  coverage : SafeRetryCoverage
  currentInputsFingerprint : Digest
  completeCurrentOriginSources : List ScopedAuthorityRecord
  fence : WorkerFence
deriving DecidableEq

instance : Model RetransmissionDecisionRecord := ⟨fun value =>
  [("identity", toJson value.identity),
    ("source_request_fingerprint", toJson value.sourceRequestFingerprint),
    ("original_intent", toJson value.originalIntent),
    ("original_authorization", toJson value.originalAuthorization),
    ("prior_parent", toJson value.priorParent), ("coverage", toJson value.coverage),
    ("current_inputs_fingerprint", toJson value.currentInputsFingerprint),
    ("complete_current_origin_sources", toJson value.completeCurrentOriginSources),
    ("fence", toJson value.fence)]⟩

structure RetriedParentRevision where
  originalIntent : ExactHead
  originalAuthorization : ExactHead
  sendDecision : ExactHead
  predecessor : ExactHead
  state : RetriedState
  completeOrderedChildren : List ExactHead
  retainedEvidence : List ExactHead
  retainedObligation : Option ExactHead
  coverage : SafeRetryCoverage
  currentCommandFingerprint : Digest
  fence : WorkerFence
  several : 2 ≤ completeOrderedChildren.length
deriving DecidableEq

instance : Model RetriedParentRevision := ⟨fun value =>
  [("schema_id", .str "chiplog.effects.retried-parent.v1"),
    ("original_intent", toJson value.originalIntent),
    ("original_authorization", toJson value.originalAuthorization),
    ("send_decision", toJson value.sendDecision), ("predecessor", toJson value.predecessor),
    ("state", toJson value.state),
    ("complete_ordered_children", toJson value.completeOrderedChildren),
    ("retained_evidence", toJson value.retainedEvidence),
    ("retained_obligation", headOrAbsent value.retainedObligation),
    ("coverage", toJson value.coverage),
    ("current_command_fingerprint", toJson value.currentCommandFingerprint),
    ("fence", toJson value.fence)]⟩

structure PreparedSafeRetransmission where
  sourceRequestFingerprint : Digest
  decision : RetransmissionDecisionRecord
  parent : RetriedParentRevision
  child : TransmissionAttempt
  completeBatchFingerprint : Digest
deriving DecidableEq

/-- `_reject`: the boundary failure of a preparation; its kind is `DENIED` and it names no
source role. -/
structure DispatchBoundaryFailureV2 where
  reason : Identity
deriving DecidableEq

end Chiplog.Effects
