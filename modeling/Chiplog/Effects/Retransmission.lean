import Chiplog.Effects.LifecycleContracts

namespace Chiplog.Effects

open Chiplog.Data

/-! Pure all-child retransmission preparation.

The leaf checks only that retained fields agree with one another.  It has no selected-source
reader, registry, writer, clock, provider or SEND. -/

section Preparation

variable [Hashlib] {σ : Type} [Model σ]

def safeRetransmissionBatchDomain : Bytes := utf8 "chiplog.effects.safe-retransmission-batch.v1\x00"

def safeRetransmissionDomain : Bytes :=
  utf8 "chiplog.effects.safe-retransmission-transmission.v1\x00"

/-- What the preparation reads of either mandate. -/
structure OriginalMandate where
  mandateId : Identity
  semantics : DispatchSemanticBinding
  recipient : ProviderRecipient
  payload : NonemptyBytes
  effectFingerprint : Digest
  idempotencyFenceKey : Identity
  bytes : NonemptyBytes

def LifecycleIntent.mandate : LifecycleIntent σ → OriginalMandate
  | .v2 intent =>
      ⟨intent.mandate.mandateId, intent.mandate.semantics, intent.mandate.recipient,
        intent.mandate.payload, intent.mandate.effectFingerprint,
        intent.mandate.idempotencyFenceKey, canonicalBytes intent.mandate⟩
  | .v3 intent =>
      ⟨intent.mandate.mandateId, intent.mandate.semantics, intent.mandate.recipient,
        intent.mandate.payload, intent.mandate.effectFingerprint,
        intent.mandate.idempotencyFenceKey, canonicalBytes intent.mandate⟩

def LifecycleIntent.intentId : LifecycleIntent σ → Identity
  | .v2 intent => intent.intentId
  | .v3 intent => intent.intentId

/-- The reference of the original intent to its own bytes. -/
def LifecycleIntent.head (intent : LifecycleIntent σ) : ExactHead :=
  reference intent.intentId (canonicalBytes intent).items

def OriginalMandate.head (mandate : OriginalMandate) : ExactHead :=
  reference mandate.mandateId mandate.bytes.items

def OriginalAuthorization.head : OriginalAuthorization → ExactHead
  | .v2 authorization => authorization.authorization
  | .scoped authorization =>
      reference authorization.authorizationId (canonicalBytes authorization).items

/-- The three comparisons that both contracts make of an authorization. -/
def requireAuthorized (intent mandate : ExactHead) (semantics : DispatchSemanticBinding)
    (original : LifecycleIntent σ) : Checked Unit := do
  deny (intent ≠ original.head) .denied "authorization intent differs"
  deny (mandate ≠ original.mandate.head) .denied "authorization mandate differs"
  deny (semantics ≠ original.mandate.semantics) .denied "authorization semantics differs"

/-- The original authorization is of the original intent's contract and agrees with it. -/
def requireOriginalAuthorization (original : LifecycleIntent σ) :
    OriginalAuthorization → Checked Unit
  | .scoped authorization =>
      match original with
      | .v3 _ =>
          requireAuthorized authorization.originalIntent authorization.immutableMandate
            authorization.semantics original
      | .v2 _ => throw (.violation .denied "v2 authorization differs")
  | .v2 authorization =>
      match original with
      | .v3 _ => throw (.violation .denied "v3 authorization differs")
      | .v2 intent => do
          requireIntent intent
          requireAuthorized authorization.intent authorization.mandate authorization.semantics
            original

def intentAndAuthorization (request : PrepareSafeRetransmission σ) :
    Checked (ExactHead × ExactHead) := do
  requireOriginalAuthorization request.observed.originalIntent request.observed.originalAuthorization
  pure (request.observed.originalIntent.head, request.observed.originalAuthorization.head)

def EffectsLineageCut.transmissions (cut : EffectsLineageCut σ) : List ExactHead :=
  cut.completeOrderedChildren.items.map (·.transmission)

/-- The terms of the original mandate that each child repeats. -/
def ChildRepeats (mandate : OriginalMandate) (intentHead : ExactHead)
    (child : TransmissionAttempt) : Prop :=
  child.intent = intentHead ∧ child.semantics = mandate.semantics ∧
    child.payloadFingerprint = mandate.effectFingerprint.identity ∧
    child.recipient = mandate.recipient ∧
    child.idempotencyFenceKey = mandate.idempotencyFenceKey

instance (mandate : OriginalMandate) (intentHead : ExactHead) (child : TransmissionAttempt) :
    Decidable (ChildRepeats mandate intentHead child) :=
  inferInstanceAs (Decidable (_ ∧ _))

def requireChildren (cut : EffectsLineageCut σ) (intentHead : ExactHead) : Checked Unit := do
  let children := cut.completeOrderedChildren.items
  deny (children.map (·.ordinal.toNat) ≠ List.range children.length) .denied
    "child ordinals differ"
  deny (¬ cut.transmissions.Nodup) .denied "duplicate child transmission"
  deny (cut.completeChildSources.items.length ≠ children.length) .denied
    "child source count differs"
  forEach (fun pair : TransmissionAttempt × SelectedEffectsSource => do
      deny (pair.2.subject ≠ pair.1.transmission) .denied "child source differs"
      deny (¬ ChildRepeats cut.originalIntent.mandate intentHead pair.1) .denied
        "child differs from original mandate")
    (children.zip cut.completeChildSources.items)

def retainedObligation (cut : EffectsLineageCut σ) (intentHead : ExactHead) :
    Checked (Option ExactHead) :=
  match cut.originalObligation with
  | .absent => pure none
  | .dispatch obligation => do
      deny (¬ (obligation.originalIntent = intentHead ∧
          obligation.originalChildren.items = cut.transmissions)) .denied
        "original obligation differs"
      pure (some obligation.obligation)
  | .revision obligation => do
      deny (¬ (obligation.originalIntent = intentHead ∧
          obligation.completeOrderedChildren.items = cut.transmissions)) .denied
        "original obligation differs"
      pure (some obligation.obligation)

def requireCoverage (request : PrepareSafeRetransmission σ) (intentHead : ExactHead) :
    Checked Unit := do
  let subject := request.coverage.subject
  let mandate := request.observed.originalIntent.mandate
  let children := request.observed.completeOrderedChildren.items
  deny (subject.originalIntent ≠ intentHead) .denied "coverage intent differs"
  deny (¬ (subject.exactEffectFingerprint = mandate.effectFingerprint ∧
      subject.exactPayloadFingerprint = sha256 mandate.payload.items ∧
      subject.recipient = mandate.recipient ∧
      subject.idempotencyFenceKey = mandate.idempotencyFenceKey)) .denied
    "coverage mandate differs"
  deny (subject.completePriorChildren.items ≠ request.observed.transmissions) .denied
    "coverage children differ"
  deny (subject.nextOrdinal.toNat ≠ children.length) .denied "coverage next ordinal differs"
  deny (subject.nextTransmissionId ∈ children.map (·.transmission.subjectId)) .denied
    "coverage transmission id is not fresh"
  deny (¬ (subject.clockContract = request.current.clockContract ∧
      subject.clockEpoch = request.current.clockEpoch ∧
      subject.coverageStartsNs.toNat ≤ request.current.observedTimeNs ∧
      request.current.observedTimeNs < subject.coverageExpiresNs.toNat)) .denied
    "coverage interval or clock differs"
  match request.coverage with
  | .provider _ => pure ()
  | .incapable coverage => do
      deny (coverage.completeOrderedProofs.items.length ≠ children.length) .denied
        "incapacity proof count differs"
      deny (coverage.completeOrderedProofs.items.map (·.child) ≠ request.observed.transmissions)
        .denied "incapacity proof children differ"

/-! ### The records of an accepted request -/

def PrepareSafeRetransmission.fingerprint (request : PrepareSafeRetransmission σ) : Digest :=
  sha256 (canonicalBytes request).items

def retransmissionDecision (request : PrepareSafeRetransmission σ)
    (intentHead authorizationHead : ExactHead) : RetransmissionDecisionRecord where
  identity := request.identity
  sourceRequestFingerprint := request.fingerprint
  originalIntent := intentHead
  originalAuthorization := authorizationHead
  priorParent := request.observed.currentParent
  coverage := request.coverage
  currentInputsFingerprint := sha256 (canonicalBytes request.current).items
  completeCurrentOriginSources := request.completeCurrentOriginSources
  fence := request.fence

def decisionHead (decision : RetransmissionDecisionRecord) : ExactHead :=
  reference (.after "retry-decision/" decision.identity.commandId) (canonicalBytes decision).items

def retransmissionChild (request : PrepareSafeRetransmission σ) (intentHead : ExactHead)
    (decision : ExactHead) : TransmissionAttempt where
  transmission := reference request.coverage.subject.nextTransmissionId
    (safeRetransmissionDomain ++ utf8 request.fingerprint.text)
  intent := intentHead
  ordinal := request.coverage.subject.nextOrdinal
  semantics := request.observed.originalIntent.mandate.semantics
  dispatchTimeNs := request.current.observedTimeNs
  payloadFingerprint := request.observed.originalIntent.mandate.effectFingerprint.identity
  recipient := request.observed.originalIntent.mandate.recipient
  idempotencyFenceKey := request.observed.originalIntent.mandate.idempotencyFenceKey
  sendCommit := decision
  coverageProof := some decision

/-- The reference of a child to its own record. -/
def childRecordHead (child : TransmissionAttempt) : ExactHead :=
  reference child.transmission.subjectId (canonicalBytes child).items

def retriedParent (request : PrepareSafeRetransmission σ) (obligation : Option ExactHead)
    (decision : RetransmissionDecisionRecord) (child : TransmissionAttempt) :
    RetriedParentRevision where
  originalIntent := decision.originalIntent
  originalAuthorization := decision.originalAuthorization
  sendDecision := decisionHead decision
  predecessor := request.observed.currentParent
  state := request.expectedParentState
  completeOrderedChildren :=
    request.coverage.subject.completePriorChildren.items ++ [childRecordHead child]
  retainedEvidence := request.observed.completeOrderedEvidence.map (·.subject)
  retainedObligation := obligation
  coverage := request.coverage
  currentCommandFingerprint := request.current.commandFingerprint
  fence := request.fence
  several := by
    have prior := List.length_pos_of_ne_nil request.coverage.subject.completePriorChildren.nonempty
    simp only [List.length_append, List.length_singleton]
    omega

/-- Decision, child and parent of a request whose checks passed. -/
def preparedRetransmission (request : PrepareSafeRetransmission σ) (obligation : Option ExactHead)
    (intentHead authorizationHead : ExactHead) : PreparedSafeRetransmission :=
  let decision := retransmissionDecision request intentHead authorizationHead
  let child := retransmissionChild request intentHead (decisionHead decision)
  let parent := retriedParent request obligation decision child
  { sourceRequestFingerprint := request.fingerprint
    decision := decision
    parent := parent
    child := child
    completeBatchFingerprint := sha256 (safeRetransmissionBatchDomain ++
      (canonicalBytes decision).items ++ (canonicalBytes child).items ++
      (canonicalBytes parent).items) }

/-- The body of `prepareSafeRetransmission`: every exception in it becomes a failure. -/
def safeRetransmission (request : PrepareSafeRetransmission σ) :
    Checked PreparedSafeRetransmission := do
  deny (request.observed.state ≠ request.expectedParentState.attempt) .denied
    "parent state differs"
  let heads ← intentAndAuthorization request
  requireChildren request.observed heads.1
  let obligation ← retainedObligation request.observed heads.1
  requireCoverage request heads.1
  pure (preparedRetransmission request obligation heads.1 heads.2)

def EffectFailure.text : EffectFailure → String
  | .violation _ reason => reason
  | .validation model => model

def rejectRetransmission (failure : EffectFailure) : DispatchBoundaryFailureV2 :=
  if nonempty : failure.text ≠ "" then ⟨⟨failure.text, nonempty⟩⟩
  else ⟨⟨"inconsistent safe retransmission input", by decide⟩⟩

/-- Derive decision, child and parent records, or reject before publication. -/
def prepareSafeRetransmission (request : PrepareSafeRetransmission σ) :
    Except DispatchBoundaryFailureV2 PreparedSafeRetransmission :=
  (safeRetransmission request).mapError rejectRetransmission

/-! ### What an accepted request passed -/

/-- The children of a cut agree with their order, their sources and the original mandate. -/
structure LineageAgrees (cut : EffectsLineageCut σ) : Prop where
  ordinals : cut.completeOrderedChildren.items.map (·.ordinal.toNat) =
    List.range cut.completeOrderedChildren.items.length
  distinct : cut.transmissions.Nodup
  sources : cut.completeChildSources.items.map (·.subject) = cut.transmissions
  terms : ∀ child ∈ cut.completeOrderedChildren.items,
    ChildRepeats cut.originalIntent.mandate cut.originalIntent.head child

/-- The coverage names exactly the retained lineage and the next child of it. -/
structure CoverageAgrees (request : PrepareSafeRetransmission σ) : Prop where
  intent : request.coverage.subject.originalIntent = request.observed.originalIntent.head
  mandate : request.coverage.subject.exactEffectFingerprint =
        request.observed.originalIntent.mandate.effectFingerprint ∧
      request.coverage.subject.exactPayloadFingerprint =
        sha256 request.observed.originalIntent.mandate.payload.items ∧
      request.coverage.subject.recipient = request.observed.originalIntent.mandate.recipient ∧
      request.coverage.subject.idempotencyFenceKey =
        request.observed.originalIntent.mandate.idempotencyFenceKey
  prior : request.coverage.subject.completePriorChildren.items = request.observed.transmissions
  ordinal : request.coverage.subject.nextOrdinal.toNat =
    request.observed.completeOrderedChildren.items.length
  fresh : request.coverage.subject.nextTransmissionId ∉
    request.observed.completeOrderedChildren.items.map (·.transmission.subjectId)
  clock : request.coverage.subject.clockContract = request.current.clockContract ∧
    request.coverage.subject.clockEpoch = request.current.clockEpoch
  starts : request.coverage.subject.coverageStartsNs.toNat ≤ request.current.observedTimeNs
  expires : request.current.observedTimeNs < request.coverage.subject.coverageExpiresNs.toNat
  proofs : ∀ coverage, request.coverage = .incapable coverage →
    coverage.completeOrderedProofs.items.map (·.child) = request.observed.transmissions

/-- The checks of a request whose retained obligation is `obligation`. -/
structure Retransmittable (request : PrepareSafeRetransmission σ) (obligation : Option ExactHead) :
    Prop where
  state : request.observed.state = request.expectedParentState.attempt
  authorized : requireOriginalAuthorization request.observed.originalIntent
    request.observed.originalAuthorization = .ok ()
  lineage : LineageAgrees request.observed
  obligation : retainedObligation request.observed request.observed.originalIntent.head =
    .ok obligation
  coverage : CoverageAgrees request

variable {request : PrepareSafeRetransmission σ} {cut : EffectsLineageCut σ}

theorem intentAndAuthorization_ok {heads : ExactHead × ExactHead} :
    intentAndAuthorization request = .ok heads ↔
      requireOriginalAuthorization request.observed.originalIntent
          request.observed.originalAuthorization = .ok () ∧
        heads =
          (request.observed.originalIntent.head, request.observed.originalAuthorization.head) := by
  simp only [intentAndAuthorization, bind_ok, pure_ok]
  constructor
  · intro ⟨_, authorized, same⟩
    exact ⟨authorized, same.symm⟩
  · intro ⟨authorized, same⟩
    exact ⟨(), authorized, same.symm⟩

omit [Hashlib] in
/-- A strict walk over two lists of one length, as facts about each of them. -/
theorem zip_agrees {lefts : List α} {rights : List β} {own : α → γ} {other : β → γ}
    {holds : α → Prop} (count : rights.length = lefts.length) :
    (∀ pair ∈ lefts.zip rights, other pair.2 = own pair.1 ∧ holds pair.1) ↔
      rights.map other = lefts.map own ∧ ∀ left ∈ lefts, holds left := by
  induction lefts generalizing rights with
  | nil => simp [List.length_eq_zero_iff.mp count]
  | cons left lefts ih =>
      cases rights with
      | nil => simp at count
      | cons right rights =>
          have rest := @ih rights (by simpa using count)
          simp only [List.zip_cons_cons, List.forall_mem_cons, List.map_cons, List.cons.injEq, rest]
          tauto

theorem requireChildren_ok {value : Unit} :
    requireChildren cut cut.originalIntent.head = .ok value ↔ LineageAgrees cut := by
  simp only [requireChildren, bind_ok, deny_ok, forEach_ok, not_not, exists_const]
  constructor
  · rintro ⟨ordinals, distinct, count, each⟩
    obtain ⟨sources, terms⟩ := (zip_agrees count).mp each
    exact ⟨ordinals, distinct, sources, terms⟩
  · intro agrees
    have count : cut.completeChildSources.items.length =
        cut.completeOrderedChildren.items.length := by
      simpa [EffectsLineageCut.transmissions] using congrArg List.length agrees.sources
    exact ⟨agrees.ordinals, agrees.distinct, count,
      (zip_agrees count).mpr ⟨agrees.sources, agrees.terms⟩⟩

theorem requireCoverage_ok {value : Unit} :
    requireCoverage request request.observed.originalIntent.head = .ok value ↔
      CoverageAgrees request := by
  simp only [requireCoverage, bind_ok, deny_ok, not_not, exists_const]
  constructor
  · rintro ⟨intent, mandate, prior, ordinal, fresh, ⟨contract, epoch, starts, expires⟩, proofs⟩
    refine ⟨intent, mandate, prior, ordinal, fresh, ⟨contract, epoch⟩, starts, expires, ?_⟩
    intro coverage kind
    rw [kind] at proofs
    simp only [bind_ok, deny_ok, not_not, exists_const] at proofs
    exact proofs.2
  · intro agrees
    refine ⟨agrees.intent, agrees.mandate, agrees.prior, agrees.ordinal, agrees.fresh,
      ⟨agrees.clock.1, agrees.clock.2, agrees.starts, agrees.expires⟩, ?_⟩
    cases kind : request.coverage with
    | provider coverage => rfl
    | incapable coverage =>
        have proofs := agrees.proofs coverage kind
        have count := congrArg List.length proofs
        simp only [EffectsLineageCut.transmissions, List.length_map] at count
        simp only [bind_ok, deny_ok, not_not, exists_const]
        exact ⟨count, proofs⟩

/-- What the preparation accepts, and the batch it returns then. -/
theorem prepareSafeRetransmission_ok {prepared : PreparedSafeRetransmission} :
    prepareSafeRetransmission request = .ok prepared ↔
      ∃ obligation, Retransmittable request obligation ∧
        prepared = preparedRetransmission request obligation request.observed.originalIntent.head
          request.observed.originalAuthorization.head := by
  have body : prepareSafeRetransmission request = .ok prepared ↔
      safeRetransmission request = .ok prepared := by
    unfold prepareSafeRetransmission
    cases safeRetransmission request <;> simp [Except.mapError]
  rw [body]
  simp only [safeRetransmission, bind_ok, deny_ok, not_not, exists_const, pure_ok]
  constructor
  · rintro ⟨state, heads, authorized, _, children, obligation, retained, _, coverage, same⟩
    obtain ⟨authorized, named⟩ := intentAndAuthorization_ok.mp authorized
    rw [named] at children retained coverage same
    exact ⟨obligation, ⟨state, authorized, requireChildren_ok.mp children, retained,
      requireCoverage_ok.mp coverage⟩, same.symm⟩
  · rintro ⟨obligation, checked, same⟩
    exact ⟨checked.state, _, intentAndAuthorization_ok.mpr ⟨checked.authorized, rfl⟩,
      (), requireChildren_ok.mpr checked.lineage, obligation, checked.obligation,
      (), requireCoverage_ok.mpr checked.coverage, same.symm⟩

end Preparation

end Chiplog.Effects
