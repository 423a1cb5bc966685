import Chiplog.Effects.Fences

namespace Chiplog.Effects

open Chiplog.Data

/-! The owner-local external-effect boundary.

Every record mirrors the declared model: a field that is validated at construction
has a type whose values passed that validation, and a discriminated union is an
inductive type.  `modelDump` gives the JSON form that digests commit to. -/

structure ExactHead where
  subjectId : Identity
  head : Identity
  fingerprint : Identity
deriving DecidableEq

instance : Model ExactHead := ⟨fun value =>
  [("subject_id", toJson value.subjectId), ("head", toJson value.head),
    ("fingerprint", toJson value.fingerprint)]⟩

structure DispatchSemanticBinding where
  normativeManifest : Identity
  reducerVersion : Identity
  transitionRegistryVersion : Identity
  canonicalizationFingerprintVersion : Identity
  adapterContractVersion : Identity
deriving DecidableEq

instance : Model DispatchSemanticBinding := ⟨fun value =>
  [("normative_manifest", toJson value.normativeManifest),
    ("reducer_version", toJson value.reducerVersion),
    ("transition_registry_version", toJson value.transitionRegistryVersion),
    ("canonicalization_fingerprint_version", toJson value.canonicalizationFingerprintVersion),
    ("adapter_contract_version", toJson value.adapterContractVersion)]⟩

inductive AttemptState where
  | intentRecorded
  | heldBeforeSend
  | cancelledBeforeSend
  | supersededBeforeSend
  | dispatchAuthorized
  | sendCommitted
  | sent
  | confirmed
  | failedNoEffect
  | outcomeUnknown
  | partialOutcome
  | partialConfirmed
deriving DecidableEq

def AttemptState.wire : AttemptState → String
  | .intentRecorded => "INTENT_RECORDED"
  | .heldBeforeSend => "HELD_BEFORE_SEND"
  | .cancelledBeforeSend => "CANCELLED_BEFORE_SEND"
  | .supersededBeforeSend => "SUPERSEDED_BEFORE_SEND"
  | .dispatchAuthorized => "DISPATCH_AUTHORIZED"
  | .sendCommitted => "SEND_COMMITTED"
  | .sent => "SENT"
  | .confirmed => "CONFIRMED"
  | .failedNoEffect => "FAILED_NO_EFFECT"
  | .outcomeUnknown => "OUTCOME_UNKNOWN"
  | .partialOutcome => "PARTIAL"
  | .partialConfirmed => "PARTIAL_CONFIRMED"

instance : Jsonable AttemptState := ⟨fun value => .str value.wire⟩

structure ProviderRecipient where
  provider : Identity
  account : Identity
  recipient : Identity
  endpoint : ExactHead
  canonicalAddress : NonemptyBytes
  credentialBinding : ExactHead
deriving DecidableEq

instance : Model ProviderRecipient := ⟨fun value =>
  [("provider", toJson value.provider), ("account", toJson value.account),
    ("recipient", toJson value.recipient), ("endpoint", toJson value.endpoint),
    ("canonical_address", toJson value.canonicalAddress),
    ("credential_binding", toJson value.credentialBinding)]⟩

structure AdoptedAuthorityAct where
  proposal : ExactHead
  displayDigest : Identity
  adoption : ExactHead
  ingress : ExactHead
  interpretation : ExactHead
deriving DecidableEq

instance : Model AdoptedAuthorityAct := ⟨fun value =>
  [("kind", .str "EXACT_PROPOSAL_ADOPTION"), ("proposal", toJson value.proposal),
    ("display_digest", toJson value.displayDigest), ("adoption", toJson value.adoption),
    ("ingress", toJson value.ingress), ("interpretation", toJson value.interpretation)]⟩

inductive AuthorityAct where
  | direct (act ingress : ExactHead)
  | adopted (act : AdoptedAuthorityAct)
  | boundedMandate (mandate : ExactHead) (operation resultManifestDigest : Identity)
deriving DecidableEq

instance : Model AuthorityAct := ⟨fun
  | .direct act ingress =>
      [("kind", .str "DIRECT_AUTHENTICATED_ACT"), ("act", toJson act), ("ingress", toJson ingress)]
  | .adopted act => modelDump act
  | .boundedMandate mandate operation resultManifestDigest =>
      [("kind", .str "BOUNDED_MANDATE"), ("mandate", toJson mandate),
        ("operation", toJson operation), ("result_manifest_digest", toJson resultManifestDigest)]⟩

structure AuthorityRead where
  sourceId : Identity
  sourceVersion : Identity
  head : ExactHead
  generation : Identity
  frontier : Identity
  validUntilNs : ℕ+
  canonicalValue : Bytes
deriving DecidableEq

instance : Model AuthorityRead := ⟨fun value =>
  [("source_id", toJson value.sourceId), ("source_version", toJson value.sourceVersion),
    ("head", toJson value.head), ("generation", toJson value.generation),
    ("frontier", toJson value.frontier), ("valid_until_ns", toJson value.validUntilNs),
    ("canonical_value", toJson value.canonicalValue)]⟩

structure AuthorityBinding where
  tenantId : Identity
  principalId : Identity
  actorId : Identity
  authenticatedSession : ExactHead
  act : AuthorityAct
  planningRevision : ExactHead
  authorizationEvidence : ExactHead
  authoritySources : NonemptyTuple ExactHead
  affectedPartyConstraints : List ExactHead
  holdConflictOrder : ExactHead
  dependencies : List ExactHead
  factualAssertionEvidence : List ExactHead
  verificationContradiction : List ExactHead
  authorityApplicability : List ExactHead
  consequenceScope : ExactHead
  communicationMandate : ExactHead
  disclosureProjection : ExactHead
  channelClass : Identity
  interactionContext : ExactHead
  recipient : ProviderRecipient
  reads : NonemptyTuple AuthorityRead
  registryInputs : List (String × String)
  validUntilNs : ℕ+
deriving DecidableEq

instance : Model AuthorityBinding := ⟨fun value =>
  [("tenant_id", toJson value.tenantId), ("principal_id", toJson value.principalId),
    ("actor_id", toJson value.actorId),
    ("authenticated_session", toJson value.authenticatedSession), ("act", toJson value.act),
    ("planning_revision", toJson value.planningRevision),
    ("authorization_evidence", toJson value.authorizationEvidence),
    ("authority_sources", toJson value.authoritySources),
    ("affected_party_constraints", toJson value.affectedPartyConstraints),
    ("hold_conflict_order", toJson value.holdConflictOrder),
    ("dependencies", toJson value.dependencies),
    ("factual_assertion_evidence", toJson value.factualAssertionEvidence),
    ("verification_contradiction", toJson value.verificationContradiction),
    ("authority_applicability", toJson value.authorityApplicability),
    ("consequence_scope", toJson value.consequenceScope),
    ("communication_mandate", toJson value.communicationMandate),
    ("disclosure_projection", toJson value.disclosureProjection),
    ("channel_class", toJson value.channelClass),
    ("interaction_context", toJson value.interactionContext),
    ("recipient", toJson value.recipient), ("reads", toJson value.reads),
    ("registry_inputs", toJson value.registryInputs),
    ("valid_until_ns", toJson value.validUntilNs)]⟩

inductive DeliverySelection where
  | originExact (ingressBinding : ExactHead) (recipient : ProviderRecipient)
  | modelSelectedExact (recipient : ProviderRecipient)
deriving DecidableEq

instance : Model DeliverySelection := ⟨fun
  | .originExact ingressBinding recipient =>
      [("kind", .str "ORIGIN_EXACT"), ("ingress_binding", toJson ingressBinding),
        ("recipient", toJson recipient)]
  | .modelSelectedExact recipient =>
      [("kind", .str "MODEL_SELECTED_EXACT"), ("recipient", toJson recipient)]⟩

structure DeliverySendBinding where
  deliveryId : Identity
  acceptance : ExactHead
  renderDigest : Identity
  manifestDigest : Identity
  selection : DeliverySelection
  visibility : NonemptyTuple ExactHead
  provenance : List ExactHead
  disclosure : NonemptyTuple ExactHead
  narrowing : List ExactHead
  policy : ExactHead
deriving DecidableEq

instance : Model DeliverySendBinding := ⟨fun value =>
  [("delivery_id", toJson value.deliveryId), ("acceptance", toJson value.acceptance),
    ("render_digest", toJson value.renderDigest),
    ("manifest_digest", toJson value.manifestDigest), ("selection", toJson value.selection),
    ("visibility", toJson value.visibility), ("provenance", toJson value.provenance),
    ("disclosure", toJson value.disclosure), ("narrowing", toJson value.narrowing),
    ("policy", toJson value.policy)]⟩

structure OriginalAmbiguity where
  originalIntent : ExactHead
  originalBinding : DispatchSemanticBinding
  ambiguityReconciliationHead : ExactHead
deriving DecidableEq

instance : Model OriginalAmbiguity := ⟨fun value =>
  [("original_intent", toJson value.originalIntent),
    ("original_binding", toJson value.originalBinding),
    ("ambiguity_reconciliation_head", toJson value.ambiguityReconciliationHead)]⟩

structure CompensationPurpose where
  original : OriginalAmbiguity
  consequenceAddressed : ExactHead
  previewAdoption : AdoptedAuthorityAct
deriving DecidableEq

instance : Model CompensationPurpose := ⟨fun value =>
  [("kind", .str "COMPENSATION"), ("original", toJson value.original),
    ("consequence_addressed", toJson value.consequenceAddressed),
    ("preview_adoption", toJson value.previewAdoption)]⟩

structure DuplicateRiskPurpose where
  unresolvedAttempts : NonemptyTuple OriginalAmbiguity
  possibleDuplicateEffects : NonemptyTuple ExactHead
  affectedPartiesResources : NonemptyTuple ExactHead
  commitmentConsequences : NonemptyTuple ExactHead
  saferAlternatives : NonemptyTuple ExactHead
  previewAdoption : AdoptedAuthorityAct
deriving DecidableEq

instance : Model DuplicateRiskPurpose := ⟨fun value =>
  [("kind", .str "AUTHORIZE_DUPLICATE_RISK"),
    ("unresolved_attempts", toJson value.unresolvedAttempts),
    ("possible_duplicate_effects", toJson value.possibleDuplicateEffects),
    ("affected_parties_resources", toJson value.affectedPartiesResources),
    ("commitment_consequences", toJson value.commitmentConsequences),
    ("safer_alternatives", toJson value.saferAlternatives),
    ("preview_adoption", toJson value.previewAdoption)]⟩

inductive EffectPurpose where
  | ordinary
  | delivery (binding : DeliverySendBinding)
  | compensation (purpose : CompensationPurpose)
  | duplicateRisk (purpose : DuplicateRiskPurpose)
deriving DecidableEq

instance : Model EffectPurpose := ⟨fun
  | .ordinary => [("kind", .str "ORDINARY_EFFECT")]
  | .delivery binding => [("kind", .str "DELIVERY"), ("binding", toJson binding)]
  | .compensation purpose => modelDump purpose
  | .duplicateRisk purpose => modelDump purpose⟩

structure ExternalActionIntent where
  intentId : Identity
  fingerprint : Identity
  authority : AuthorityBinding
  semantics : DispatchSemanticBinding
  payload : NonemptyBytes
  effectFingerprint : Identity
  idempotencyFenceKey : Identity
  inseparableBundleMembers : NonemptyTuple ExactHead
  purpose : EffectPurpose
deriving DecidableEq

instance : Model ExternalActionIntent := ⟨fun value =>
  [("intent_id", toJson value.intentId), ("fingerprint", toJson value.fingerprint),
    ("authority", toJson value.authority), ("semantics", toJson value.semantics),
    ("payload", toJson value.payload), ("effect_fingerprint", toJson value.effectFingerprint),
    ("idempotency_fence_key", toJson value.idempotencyFenceKey),
    ("inseparable_bundle_members", toJson value.inseparableBundleMembers),
    ("purpose", toJson value.purpose)]⟩

structure CommandIdentity where
  commandId : Identity
  fingerprint : Identity
  expectedTenantHead : Nat
deriving DecidableEq

instance : Model CommandIdentity := ⟨fun value =>
  [("command_id", toJson value.commandId), ("fingerprint", toJson value.fingerprint),
    ("expected_tenant_head", toJson value.expectedTenantHead)]⟩

structure AcceptEffectCommand where
  identity : CommandIdentity
  initializedCall : ExactHead
  callId : Identity
  toolSchemaPolicy : NonemptyTuple ExactHead
  fence : WorkerFence
  intent : ExternalActionIntent
  executionIntent : ExactHead
  completeAcceptanceManifest : NonemptyTuple ExactHead
deriving DecidableEq

instance : Model AcceptEffectCommand := ⟨fun value =>
  [("identity", toJson value.identity), ("initialized_call", toJson value.initializedCall),
    ("call_id", toJson value.callId), ("tool_schema_policy", toJson value.toolSchemaPolicy),
    ("fence", toJson value.fence), ("intent", toJson value.intent),
    ("execution_intent", toJson value.executionIntent),
    ("complete_acceptance_manifest", toJson value.completeAcceptanceManifest)]⟩

structure PublishPlanEffectCommand where
  identity : CommandIdentity
  intent : ExternalActionIntent
  planningPublication : ExactHead
  planningOwnerBytes : NonemptyBytes
  completePublicationManifest : NonemptyTuple ExactHead
  fence : WorkerFence
deriving DecidableEq

instance : Model PublishPlanEffectCommand := ⟨fun value =>
  [("identity", toJson value.identity), ("intent", toJson value.intent),
    ("planning_publication", toJson value.planningPublication),
    ("planning_owner_bytes", toJson value.planningOwnerBytes),
    ("complete_publication_manifest", toJson value.completePublicationManifest),
    ("fence", toJson value.fence)]⟩

/-- Prepare effects bytes for the one CompleteAcceptance invariant batch. -/
structure PublishDeliveryIntentCommand where
  identity : CommandIdentity
  intent : ExternalActionIntent
  completeAcceptance : ExactHead
  completeDeliveryManifest : NonemptyTuple ExactHead
  fence : WorkerFence
deriving DecidableEq

instance : Model PublishDeliveryIntentCommand := ⟨fun value =>
  [("identity", toJson value.identity), ("intent", toJson value.intent),
    ("complete_acceptance", toJson value.completeAcceptance),
    ("complete_delivery_manifest", toJson value.completeDeliveryManifest),
    ("fence", toJson value.fence)]⟩

structure DispatchAuthorization where
  authorization : ExactHead
  intent : ExactHead
  expectedAttempt : ExactHead
  semantics : DispatchSemanticBinding
  currentAuthority : AuthorityBinding
  fence : WorkerFence
deriving DecidableEq

instance : Model DispatchAuthorization := ⟨fun value =>
  [("authorization", toJson value.authorization), ("intent", toJson value.intent),
    ("expected_attempt", toJson value.expectedAttempt), ("semantics", toJson value.semantics),
    ("current_authority", toJson value.currentAuthority), ("fence", toJson value.fence)]⟩

structure AuthorizeDispatchCommand where
  identity : CommandIdentity
  intent : ExactHead
  expectedAttempt : ExactHead
  currentAuthority : AuthorityBinding
  semantics : DispatchSemanticBinding
  fence : WorkerFence
deriving DecidableEq

instance : Model AuthorizeDispatchCommand := ⟨fun value =>
  [("identity", toJson value.identity), ("intent", toJson value.intent),
    ("expected_attempt", toJson value.expectedAttempt),
    ("current_authority", toJson value.currentAuthority), ("semantics", toJson value.semantics),
    ("fence", toJson value.fence)]⟩

/-- The three local no-send states a before-send disposition may select. -/
inductive Disposition where
  | heldBeforeSend
  | cancelledBeforeSend
  | supersededBeforeSend
deriving DecidableEq

def Disposition.wire : Disposition → String
  | .heldBeforeSend => "HELD_BEFORE_SEND"
  | .cancelledBeforeSend => "CANCELLED_BEFORE_SEND"
  | .supersededBeforeSend => "SUPERSEDED_BEFORE_SEND"

instance : Jsonable Disposition := ⟨fun value => .str value.wire⟩

def Disposition.state : Disposition → AttemptState
  | .heldBeforeSend => .heldBeforeSend
  | .cancelledBeforeSend => .cancelledBeforeSend
  | .supersededBeforeSend => .supersededBeforeSend

structure BeforeSendDispositionCommand where
  identity : CommandIdentity
  intent : ExactHead
  expectedAttempt : ExactHead
  disposition : Disposition
  currentAuthority : AuthorityBinding
  decisionEvidence : ExactHead
  fence : WorkerFence
deriving DecidableEq

instance : Model BeforeSendDispositionCommand := ⟨fun value =>
  [("identity", toJson value.identity), ("intent", toJson value.intent),
    ("expected_attempt", toJson value.expectedAttempt), ("disposition", toJson value.disposition),
    ("current_authority", toJson value.currentAuthority),
    ("decision_evidence", toJson value.decisionEvidence), ("fence", toJson value.fence)]⟩

structure PublishRecoveryIntentCommand where
  identity : CommandIdentity
  intent : ExternalActionIntent
  originalHeads : NonemptyTuple ExactHead
  currentAuthority : AuthorityBinding
  fence : WorkerFence
deriving DecidableEq

instance : Model PublishRecoveryIntentCommand := ⟨fun value =>
  [("identity", toJson value.identity), ("intent", toJson value.intent),
    ("original_heads", toJson value.originalHeads),
    ("current_authority", toJson value.currentAuthority), ("fence", toJson value.fence)]⟩

inductive RetransmissionProof where
  | providerIdempotencyCoversAll
  | allPriorPermanentlyIncapable
deriving DecidableEq

def RetransmissionProof.wire : RetransmissionProof → String
  | .providerIdempotencyCoversAll => "PROVIDER_IDEMPOTENCY_COVERS_ALL"
  | .allPriorPermanentlyIncapable => "ALL_PRIOR_PERMANENTLY_INCAPABLE"

instance : Jsonable RetransmissionProof := ⟨fun value => .str value.wire⟩

structure SafeRetransmission where
  ordinal : UInt64
  priorChildren : NonemptyTuple ExactHead
  proofKind : RetransmissionProof
  proof : ExactHead
  coveredEffectFingerprint : Identity
  coverageStartsNs : Nat
  coverageExpiresNs : ℕ+
  later : 0 < ordinal
deriving DecidableEq

instance : Model SafeRetransmission := ⟨fun value =>
  [("kind", .str "SAFE_RETRANSMISSION"), ("ordinal", toJson value.ordinal),
    ("prior_children", toJson value.priorChildren), ("proof_kind", toJson value.proofKind),
    ("proof", toJson value.proof),
    ("covered_effect_fingerprint", toJson value.coveredEffectFingerprint),
    ("coverage_starts_ns", toJson value.coverageStartsNs),
    ("coverage_expires_ns", toJson value.coverageExpiresNs)]⟩

inductive TransmissionRequest where
  | first
  | safeRetransmission (request : SafeRetransmission)
deriving DecidableEq

instance : Model TransmissionRequest := ⟨fun
  | .first => [("kind", .str "FIRST_TRANSMISSION"), ("ordinal", .int 0)]
  | .safeRetransmission request => modelDump request⟩

def TransmissionRequest.ordinal : TransmissionRequest → UInt64
  | .first => 0
  | .safeRetransmission request => request.ordinal

/-- A safe later child keeps its original authorization and proves the current fence. -/
structure CommitSendCommand where
  identity : CommandIdentity
  expectedAttempt : ExactHead
  authorization : DispatchAuthorization
  fence : WorkerFence
  transmission : TransmissionRequest
  currentTimeNs : Nat
deriving DecidableEq

instance : Model CommitSendCommand := ⟨fun value =>
  [("identity", toJson value.identity), ("expected_attempt", toJson value.expectedAttempt),
    ("authorization", toJson value.authorization), ("fence", toJson value.fence),
    ("transmission", toJson value.transmission), ("current_time_ns", toJson value.currentTimeNs)]⟩

structure TransmissionAttempt where
  transmission : ExactHead
  intent : ExactHead
  ordinal : UInt64
  semantics : DispatchSemanticBinding
  dispatchTimeNs : Nat
  payloadFingerprint : Identity
  recipient : ProviderRecipient
  idempotencyFenceKey : Identity
  sendCommit : ExactHead
  coverageProof : Option ExactHead
deriving DecidableEq

instance : Model TransmissionAttempt := ⟨fun value =>
  [("transmission", toJson value.transmission), ("intent", toJson value.intent),
    ("ordinal", toJson value.ordinal), ("semantics", toJson value.semantics),
    ("dispatch_time_ns", toJson value.dispatchTimeNs),
    ("payload_fingerprint", toJson value.payloadFingerprint),
    ("recipient", toJson value.recipient),
    ("idempotency_fence_key", toJson value.idempotencyFenceKey),
    ("send_commit", toJson value.sendCommit), ("coverage_proof", toJson value.coverageProof)]⟩

structure EvidenceAuthentication where
  brokerCustody : ExactHead
  ingressSurface : Identity
  sourceContractVersion : Identity
  tenantId : Identity
  sourceIdentity : Identity
  providerAccount : Identity
  endpoint : ExactHead
  credentialKey : ExactHead
  audience : Identity
  rawDigest : Identity
  sourceReplayIdentity : Identity
  intent : ExactHead
  transmission : ExactHead
  freshness : ExactHead
deriving DecidableEq

instance : Model EvidenceAuthentication := ⟨fun value =>
  [("kind", .str "AUTHENTICATED_PROVIDER_EVIDENCE"),
    ("broker_custody", toJson value.brokerCustody),
    ("ingress_surface", toJson value.ingressSurface),
    ("source_contract_version", toJson value.sourceContractVersion),
    ("tenant_id", toJson value.tenantId), ("source_identity", toJson value.sourceIdentity),
    ("provider_account", toJson value.providerAccount), ("endpoint", toJson value.endpoint),
    ("credential_key", toJson value.credentialKey), ("audience", toJson value.audience),
    ("raw_digest", toJson value.rawDigest),
    ("source_replay_identity", toJson value.sourceReplayIdentity),
    ("intent", toJson value.intent), ("transmission", toJson value.transmission),
    ("freshness", toJson value.freshness)]⟩

structure TransportObservationBinding where
  tenantId : Identity
  brokerEpoch : ExactHead
  issuedOperation : ExactHead
  transmission : ExactHead
  exactRecipient : ProviderRecipient
  adapterContractVersion : Identity
  rawDigest : Identity
deriving DecidableEq

instance : Model TransportObservationBinding := ⟨fun value =>
  [("kind", .str "BROKER_TRANSPORT_OBSERVATION"), ("tenant_id", toJson value.tenantId),
    ("broker_epoch", toJson value.brokerEpoch),
    ("issued_operation", toJson value.issuedOperation),
    ("transmission", toJson value.transmission), ("exact_recipient", toJson value.exactRecipient),
    ("adapter_contract_version", toJson value.adapterContractVersion),
    ("raw_digest", toJson value.rawDigest)]⟩

inductive Authentication where
  | provider (binding : EvidenceAuthentication)
  | transport (binding : TransportObservationBinding)
deriving DecidableEq

instance : Model Authentication := ⟨fun
  | .provider binding => modelDump binding
  | .transport binding => modelDump binding⟩

namespace Authentication

def transmission : Authentication → ExactHead
  | .provider binding => binding.transmission
  | .transport binding => binding.transmission

def tenantId : Authentication → Identity
  | .provider binding => binding.tenantId
  | .transport binding => binding.tenantId

def rawDigest : Authentication → Identity
  | .provider binding => binding.rawDigest
  | .transport binding => binding.rawDigest

end Authentication

inductive Observation where
  | transportSent
  | exactEffectConfirmed
  | permanentlyIncapable
  | absenceObserved
  | timeout
  | connectionLost
  | malformedResponse
  | conflictingEvidence
  | incompleteEvidence
  | mixedBundle
deriving DecidableEq

def Observation.wire : Observation → String
  | .transportSent => "TRANSPORT_SENT"
  | .exactEffectConfirmed => "EXACT_EFFECT_CONFIRMED"
  | .permanentlyIncapable => "PERMANENTLY_INCAPABLE"
  | .absenceObserved => "ABSENCE_OBSERVED"
  | .timeout => "TIMEOUT"
  | .connectionLost => "CONNECTION_LOST"
  | .malformedResponse => "MALFORMED_RESPONSE"
  | .conflictingEvidence => "CONFLICTING_EVIDENCE"
  | .incompleteEvidence => "INCOMPLETE_EVIDENCE"
  | .mixedBundle => "MIXED_BUNDLE"

instance : Jsonable Observation := ⟨fun value => .str value.wire⟩

structure RecordEvidenceCommand where
  identity : CommandIdentity
  expectedAttempt : ExactHead
  evidenceId : Identity
  rawBytes : NonemptyBytes
  authentication : Authentication
  semantics : DispatchSemanticBinding
  observation : Observation
  coveredChildren : List ExactHead
  occurredMembers : List ExactHead
  permanentlyIncapableMembers : List ExactHead
deriving DecidableEq

instance : Model RecordEvidenceCommand := ⟨fun value =>
  [("identity", toJson value.identity), ("expected_attempt", toJson value.expectedAttempt),
    ("evidence_id", toJson value.evidenceId), ("raw_bytes", toJson value.rawBytes),
    ("authentication", toJson value.authentication), ("semantics", toJson value.semantics),
    ("observation", toJson value.observation), ("covered_children", toJson value.coveredChildren),
    ("occurred_members", toJson value.occurredMembers),
    ("permanently_incapable_members", toJson value.permanentlyIncapableMembers)]⟩

structure ReconcileEffectCommand where
  identity : CommandIdentity
  intent : ExactHead
  expectedAttempt : ExactHead
  completeChildren : NonemptyTuple ExactHead
  durableEvidence : NonemptyTuple ExactHead
  semantics : DispatchSemanticBinding
  authorizedReconciler : ExactHead
  fence : WorkerFence
deriving DecidableEq

instance : Model ReconcileEffectCommand := ⟨fun value =>
  [("identity", toJson value.identity), ("intent", toJson value.intent),
    ("expected_attempt", toJson value.expectedAttempt),
    ("complete_children", toJson value.completeChildren),
    ("durable_evidence", toJson value.durableEvidence), ("semantics", toJson value.semantics),
    ("authorized_reconciler", toJson value.authorizedReconciler), ("fence", toJson value.fence)]⟩

inductive SafeAction where
  | authenticatedProviderRead
  | boundReconciliation
  | explicitRecoveryAuthorization
deriving DecidableEq

def SafeAction.wire : SafeAction → String
  | .authenticatedProviderRead => "AUTHENTICATED_PROVIDER_READ"
  | .boundReconciliation => "BOUND_RECONCILIATION"
  | .explicitRecoveryAuthorization => "EXPLICIT_RECOVERY_AUTHORIZATION"

instance : Jsonable SafeAction := ⟨fun value => .str value.wire⟩

inductive DeniedAction where
  | blindRetry
  | conflictingReplacement
  | dependentContinuation
deriving DecidableEq

def DeniedAction.wire : DeniedAction → String
  | .blindRetry => "BLIND_RETRY"
  | .conflictingReplacement => "CONFLICTING_REPLACEMENT"
  | .dependentContinuation => "DEPENDENT_CONTINUATION"

instance : Jsonable DeniedAction := ⟨fun value => .str value.wire⟩

structure OpenEffectObligation where
  obligation : ExactHead
  intent : ExactHead
  originalAttempt : ExactHead
  originalCrossedChildren : NonemptyTuple ExactHead
  semantics : DispatchSemanticBinding
  safeActions : List SafeAction
  deniedActions : List DeniedAction
deriving DecidableEq

instance : Model OpenEffectObligation := ⟨fun value =>
  [("kind", .str "OPEN"), ("owner", .str "effects"),
    ("closure_predicate", .str "ALL_CHILDREN_TERMINAL_REDUCED_V1"),
    ("obligation", toJson value.obligation), ("intent", toJson value.intent),
    ("original_attempt", toJson value.originalAttempt),
    ("original_crossed_children", toJson value.originalCrossedChildren),
    ("semantics", toJson value.semantics), ("safe_actions", toJson value.safeActions),
    ("denied_actions", toJson value.deniedActions)]⟩

/-- The outcomes that may close a recovery obligation. -/
inductive ClosureOutcome where
  | confirmed
  | failedNoEffect
  | partialConfirmed
deriving DecidableEq

def ClosureOutcome.wire : ClosureOutcome → String
  | .confirmed => "CONFIRMED"
  | .failedNoEffect => "FAILED_NO_EFFECT"
  | .partialConfirmed => "PARTIAL_CONFIRMED"

instance : Jsonable ClosureOutcome := ⟨fun value => .str value.wire⟩

def ClosureOutcome.state : ClosureOutcome → AttemptState
  | .confirmed => .confirmed
  | .failedNoEffect => .failedNoEffect
  | .partialConfirmed => .partialConfirmed

/-- Validation of an attempt state against the closure literal. -/
def ClosureOutcome.ofState? : AttemptState → Option ClosureOutcome
  | .confirmed => some .confirmed
  | .failedNoEffect => some .failedNoEffect
  | .partialConfirmed => some .partialConfirmed
  | _ => none

structure ClosedEffectObligation where
  obligation : ExactHead
  opening : OpenEffectObligation
  closureEvidence : NonemptyTuple ExactHead
  completeChildren : NonemptyTuple ExactHead
  outcome : ClosureOutcome
  semantics : DispatchSemanticBinding
deriving DecidableEq

instance : Model ClosedEffectObligation := ⟨fun value =>
  [("kind", .str "CLOSED"), ("obligation", toJson value.obligation),
    ("opening", toJson value.opening), ("closure_evidence", toJson value.closureEvidence),
    ("complete_children", toJson value.completeChildren), ("outcome", toJson value.outcome),
    ("semantics", toJson value.semantics)]⟩

inductive EffectRecoveryObligation where
  | opened (obligation : OpenEffectObligation)
  | closed (obligation : ClosedEffectObligation)
deriving DecidableEq

instance : Model EffectRecoveryObligation := ⟨fun
  | .opened obligation => modelDump obligation
  | .closed obligation => modelDump obligation⟩

/-- The head that currently names the obligation. -/
def EffectRecoveryObligation.obligation : EffectRecoveryObligation → ExactHead
  | .opened value => value.obligation
  | .closed value => value.obligation

structure EffectSnapshot where
  intent : ExternalActionIntent
  attempt : ExactHead
  state : AttemptState
  authorizations : List DispatchAuthorization
  transmissions : List TransmissionAttempt
  evidence : List ExactHead
  unresolvedObligations : List ExactHead
  evidenceRecords : List RecordEvidenceCommand
  recoveryObligation : Option EffectRecoveryObligation
deriving DecidableEq

instance : Model EffectSnapshot := ⟨fun value =>
  [("intent", toJson value.intent), ("attempt", toJson value.attempt),
    ("state", toJson value.state), ("authorizations", toJson value.authorizations),
    ("transmissions", toJson value.transmissions), ("evidence", toJson value.evidence),
    ("unresolved_obligations", toJson value.unresolvedObligations),
    ("evidence_records", toJson value.evidenceRecords),
    ("recovery_obligation", toJson value.recoveryObligation)]⟩

inductive RecordKind where
  | intentAccepted
  | planEffectPublished
  | deliveryPrepared
  | recoveryIntentPublished
  | dispatchAuthorized
  | beforeSendDisposition
  | sendCommitted
  | transmissionAllocated
  | evidenceRecorded
  | reconciled
deriving DecidableEq

def RecordKind.wire : RecordKind → String
  | .intentAccepted => "INTENT_ACCEPTED"
  | .planEffectPublished => "PLAN_EFFECT_PUBLISHED"
  | .deliveryPrepared => "DELIVERY_PREPARED"
  | .recoveryIntentPublished => "RECOVERY_INTENT_PUBLISHED"
  | .dispatchAuthorized => "DISPATCH_AUTHORIZED"
  | .beforeSendDisposition => "BEFORE_SEND_DISPOSITION"
  | .sendCommitted => "SEND_COMMITTED"
  | .transmissionAllocated => "TRANSMISSION_ALLOCATED"
  | .evidenceRecorded => "EVIDENCE_RECORDED"
  | .reconciled => "RECONCILED"

instance : Jsonable RecordKind := ⟨fun value => .str value.wire⟩

structure EffectRecord where
  record : ExactHead
  command : CommandIdentity
  predecessor : Option ExactHead
  kind : RecordKind
  snapshot : EffectSnapshot
  sourceCommand : NonemptyBytes
deriving DecidableEq

instance : Model EffectRecord := ⟨fun value =>
  [("record", toJson value.record), ("command", toJson value.command),
    ("predecessor", toJson value.predecessor), ("kind", toJson value.kind),
    ("snapshot", toJson value.snapshot), ("source_command", toJson value.sourceCommand)]⟩

structure EffectStoreSnapshot where
  tenantId : Identity
  tenantHead : Nat
  records : List EffectRecord
deriving DecidableEq

/-- Owner bytes for a registered broker batch; construction grants no authority. -/
structure PreparedEffectPublication where
  record : EffectRecord
  exactCompanionManifest : List ExactHead
  expectedStore : EffectStoreSnapshot
deriving DecidableEq

/-- Broker-reproduced observation, never authority because a caller constructs it. -/
structure CurrentEffectInputs where
  commandId : Identity
  commandFingerprint : Identity
  storeFrontier : Nat
  observedTimeNs : Nat
  authority : AuthorityBinding
  supportedSemantics : Option DispatchSemanticBinding
  fence : WorkerFence
  authorityDecision : ExactHead
  blockingEffectHeads : List ExactHead
  currentOriginalAmbiguityHeads : List ExactHead
  initializedCall : Option ExactHead
  activeRunHead : Option String
  independentlyVerifiedSafeProof : Option SafeRetransmission
  authenticatedEvidence : Option RecordEvidenceCommand
  originalReducerSemantics : Option DispatchSemanticBinding
  authorizedReconciler : Option ExactHead
deriving DecidableEq

inductive EffectCommand where
  | accept (command : AcceptEffectCommand)
  | publishPlan (command : PublishPlanEffectCommand)
  | publishDelivery (command : PublishDeliveryIntentCommand)
  | authorize (command : AuthorizeDispatchCommand)
  | beforeSend (command : BeforeSendDispositionCommand)
  | publishRecovery (command : PublishRecoveryIntentCommand)
  | commitSend (command : CommitSendCommand)
  | recordEvidence (command : RecordEvidenceCommand)
  | reconcile (command : ReconcileEffectCommand)
deriving DecidableEq

instance : Model EffectCommand := ⟨fun
  | .accept command => modelDump command
  | .publishPlan command => modelDump command
  | .publishDelivery command => modelDump command
  | .authorize command => modelDump command
  | .beforeSend command => modelDump command
  | .publishRecovery command => modelDump command
  | .commitSend command => modelDump command
  | .recordEvidence command => modelDump command
  | .reconcile command => modelDump command⟩

def EffectCommand.identity : EffectCommand → CommandIdentity
  | .accept command => command.identity
  | .publishPlan command => command.identity
  | .publishDelivery command => command.identity
  | .authorize command => command.identity
  | .beforeSend command => command.identity
  | .publishRecovery command => command.identity
  | .commitSend command => command.identity
  | .recordEvidence command => command.identity
  | .reconcile command => command.identity

end Chiplog.Effects
