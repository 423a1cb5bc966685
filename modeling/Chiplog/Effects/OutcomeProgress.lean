import Chiplog.Effects.Outcomes
import Chiplog.Effects.Progress

namespace Chiplog.Effects

open Chiplog.Data

/-! Progress of the outcome interpreter: on the current record of a committed SEND, every
well-formed item of evidence is appended. -/

section Progress

variable [Hashlib] {send : DispatchRecordV2} {child : TransmissionAttempt}
  {previous : OutcomePredecessor} {item : DispatchEvidenceV2}

/-- A committed SEND with its single original child. -/
structure CommittedSend (send : DispatchRecordV2) (child : TransmissionAttempt) : Prop where
  kind : send.kind = .sendCommitted
  state : send.snapshot.state = .sendCommitted
  transmissions : send.snapshot.transmissions = [child]
  ordinal : child.ordinal = 0
  intent : requireIntent send.snapshot.intent = .ok ()

/-- A record from which outcomes of `send` continue. -/
structure CurrentOutcome (send : DispatchRecordV2) (previous : OutcomePredecessor) : Prop where
  intent : previous.intent = send.snapshot.intent
  transmissions : previous.transmissions = send.snapshot.transmissions
  authorizations : previous.authorizations = send.snapshot.authorizations
  start : previous.old? = none → previous = .send send
  inventory : ∀ snapshot ∈ previous.old?, snapshot.evidenceHeads = snapshot.evidence.map evidenceHead
  partitions : ∀ item ∈ previous.retained, Partitions (bundleSubjects send.snapshot.intent) item

theorem CurrentOutcome.atSend (send : DispatchRecordV2) : CurrentOutcome send (.send send) where
  intent := rfl
  transmissions := rfl
  authorizations := rfl
  start := fun _ => rfl
  inventory := by simp [OutcomePredecessor.old?]
  partitions := by simp [OutcomePredecessor.retained, OutcomePredecessor.old?]

theorem requireOriginal_ok {request : DispatchOutcomePreparationV2} {value : Unit}
    (accepted : requireOriginal request = .ok value) :
    request.previous.intent = request.originalSend.snapshot.intent ∧
      request.previous.transmissions = request.originalSend.snapshot.transmissions ∧
      request.previous.authorizations = request.originalSend.snapshot.authorizations ∧
      request.originalSend.children.length = 1 ∧
      (∀ child ∈ request.originalSend.snapshot.transmissions.head?, child.ordinal = 0) ∧
      (request.previous.old? = none → request.previous = .send request.originalSend) := by
  simp only [requireOriginal, deny_ok] at accepted
  push Not at accepted
  obtain ⟨_, _, single, first, intent, transmissions, authorizations, _, _, _, _, sent⟩ := accepted
  exact ⟨intent, transmissions, authorizations, single, first, sent⟩

theorem Outcome.current {request : DispatchOutcomePreparationV2} {record : DispatchOutcomeRecordV2}
    (outcome : Outcome request record) (current : CurrentOutcome send request.previous) :
    CurrentOutcome send (.outcome record) := by
  obtain ⟨intent, transmissions, authorizations, _⟩ := requireOriginal_ok outcome.original
  have same : record.snapshot.intent = send.snapshot.intent :=
    outcome.intent.trans (intent.symm.trans current.intent)
  refine ⟨same, outcome.transmissions.trans (transmissions.symm.trans current.transmissions),
    outcome.authorizations.trans (authorizations.symm.trans current.authorizations), ?_, ?_, ?_⟩
  · intro impossible
    cases impossible
  · intro snapshot member
    cases member
    exact outcome.inventory
  · rw [← same]
    exact outcome.partitions

/-- Evidence that fits the retained history of `previous`. -/
structure Appendable (members : Finset Identity) (child : TransmissionAttempt)
    (retained : List DispatchEvidenceV2) (item : DispatchEvidenceV2) : Prop where
  transmission : item.transmission = child.transmission
  digest : item.rawDigest = sha256 item.rawBytes.items
  fresh : ∀ prior ∈ retained, item.evidenceId ≠ prior.evidenceId
  observation : item.observation = .providerReceipt
  partitions : Partitions members item

def appendCommand (send : DispatchRecordV2) (child : TransmissionAttempt)
    (previous : OutcomePredecessor) (identity : CommandIdentity) (item : DispatchEvidenceV2) :
    DispatchOutcomeCommandV2 where
  identity
  operation := .appendEvidence
  intent := send.snapshot.intent.exactHead
  originalSend := send.record
  expectedAttempt := previous.attempt
  completeChildren := ⟨[child.transmission], by simp⟩
  priorEvidence := previous.retained.map evidenceHead
  evidence := some item
  resolver := none

theorem requireOriginal_current {command : DispatchOutcomeCommandV2}
    (sent : CommittedSend send child) (current : CurrentOutcome send previous)
    (original : command.originalSend = send.record)
    (intent : command.intent = send.snapshot.intent.exactHead)
    (attempt : command.expectedAttempt = previous.attempt)
    (children : command.completeChildren.items = [child.transmission]) :
    requireOriginal ⟨send, previous, command⟩ = .ok () := by
  refine deny_neg ?_
  have sole : send.children = [child.transmission] := by
    rw [DispatchRecordV2.children, sent.transmissions]
    rfl
  simp only [not_or, not_not, not_and, not_exists]
  refine ⟨sent.kind, sent.state, by simp [sole], ?_, current.intent, current.transmissions,
    current.authorizations, original, intent, attempt, children.trans sole.symm, current.start⟩
  simp [sent.transmissions, sent.ordinal]

theorem currentObligation_total (sent : CommittedSend send child)
    (old : Option DispatchOutcomeSnapshotV2) :
    ∃ obligation, currentObligation send old = .ok obligation := by
  cases old with
  | some snapshot => exact ⟨snapshot.obligation, rfl⟩
  | none =>
      simp only [currentObligation, openDispatchObligation, DispatchRecordV2.children,
        sent.transmissions, NonemptyTuple.ofList?]
      exact ⟨_, rfl⟩

theorem append_accepted (sent : CommittedSend send child) (current : CurrentOutcome send previous)
    (identity : CommandIdentity)
    (appendable : Appendable (bundleSubjects send.snapshot.intent) child previous.retained item) :
    ∃ record, prepareOutcome ⟨send, previous, appendCommand send child previous identity item⟩ =
      .ok record := by
  let command := appendCommand send child previous identity item
  have original : requireOriginal ⟨send, previous, command⟩ = .ok () :=
    requireOriginal_current sent current rfl rfl rfl rfl
  have inventory : requireInventory command previous.old? (previous.retained.map evidenceHead) =
      .ok () := by
    refine deny_neg ?_
    rintro (differs | ⟨snapshot, member, differs⟩)
    · exact differs rfl
    · refine differs ((current.inventory snapshot member).trans ?_)
      rw [OutcomePredecessor.retained, Option.mem_def.mp member]
      rfl
  obtain ⟨obligation, opened⟩ := currentObligation_total sent previous.old?
  have admitted : admitEvidence command send.children obligation previous.retained =
      .ok (previous.retained ++ [item], .evidenceRecorded) := by
    have valid : ¬ (item.transmission ∉ send.children ∨
        item.rawDigest ≠ sha256 item.rawBytes.items ∨
        (∃ prior ∈ previous.retained, item.evidenceId = prior.evidenceId) ∨
        item.observation ≠ .providerReceipt ∧
          (item.occurredMembers ≠ [] ∨ item.permanentlyIncapableMembers ≠ [])) := by
      push Not
      refine ⟨?_, appendable.digest, appendable.fresh, fun other => ?_⟩
      · rw [DispatchRecordV2.children, sent.transmissions, appendable.transmission]
        simp
      · exact absurd appendable.observation other
    simp only [admitEvidence, command, appendCommand, deny_neg (not_not.mpr rfl), ok_bind,
      deny_neg valid]
    rfl
  have partitions : ∀ other ∈ previous.retained ++ [item],
      Partitions (bundleSubjects send.snapshot.intent) other := by
    intro other member
    rcases List.mem_append.mp member with earlier | last
    · exact current.partitions other earlier
    · rw [List.mem_singleton.mp last]
      exact appendable.partitions
  have classified := classify_total partitions (∅, ∅)
  simp only [prepareOutcome, bind_ok, pure_ok]
  exact ⟨_, _, sent.intent, _, original, _, inventory, _, opened, _, admitted, _, classified, _, rfl,
    rfl⟩

/-- The intent with its own fingerprint in place. -/
def bindIntent (draft : ExternalActionIntentV2) : ExternalActionIntentV2 :=
  { draft with fingerprint := intentFingerprint draft }

theorem intentFingerprint_bindIntent (draft : ExternalActionIntentV2) :
    intentFingerprint (bindIntent draft) = (bindIntent draft).fingerprint := rfl

def sampleBytes : NonemptyBytes := ⟨[0], zeroByte_ne_nil⟩

def sampleMandate (members : NonemptyTuple ExactHead) : DispatchMandateV2 where
  mandateId := sampleId
  tenantId := sampleId
  principalId := sampleId
  actorId := sampleId
  operationProfile := sampleHead
  origin := .planEffect ⟨sampleHead, sampleHead, sampleHead, sampleBytes, sampleBytes⟩
  planningRevision := sampleHead
  preexistingAuthorityBasis := sampleHead
  authoritySources := ⟨[sampleHead], sampleHead_ne_nil⟩
  affectedPartyConstraints := []
  normativeConflictGeneration := sampleHead
  dependencies := []
  factualAssertionEvidence := []
  verificationContradiction := []
  authorityApplicability := []
  consequenceScope := sampleHead
  communicationMandate := sampleHead
  disclosureProjection := sampleHead
  channelClass := sampleId
  interactionContext := sampleHead
  recipient := ⟨sampleId, sampleId, sampleId, sampleHead, sampleBytes, sampleHead⟩
  payload := sampleBytes
  effectFingerprint := sha256 sampleBytes.items
  bundleMembers := members
  idempotencyFenceKey := sampleId
  horizon := ⟨sampleId, sampleId, 0, ⟨1, Nat.one_pos⟩, sampleHead⟩
  semantics := sampleSemantics

def sampleRequest (mandate : DispatchMandateV2) : DispatchPrecursorRequestV2 :=
  ⟨sampleId, sha256 (canonicalBytes mandate).items, mandate.operationProfile,
    ⟨[mandate.preexistingAuthorityBasis], by simp⟩⟩

def sampleAcquisition (mandate : DispatchMandateV2) : DispatchAcquisitionV2 where
  adoption := {
    adoptionActId := sampleId
    display := ⟨sampleId, sampleId, (sha256 sampleBytes.items).identity⟩
    displayBytes := sampleBytes
    mandateBytes := canonicalBytes mandate
    ingress := ⟨sampleId, sampleId, (sha256 sampleBytes.items).identity⟩
    ingressBytes := sampleBytes }
  authenticatedInvocation := sampleBytes
  precursorRequest := sampleRequest mandate
  precursorResult := {
    requestDigest := sha256 (canonicalBytes (sampleRequest mandate)).items
    mandateDigest := (sampleRequest mandate).mandateDigest
    interpretationPolicy := (sampleRequest mandate).interpretationPolicy
    evaluationEvidence := (sampleRequest mandate).preexistingSourceHeads }
  originalSources :=
    let missing := SourceObservation.unavailable ⟨.unimplemented, sampleId⟩
    ⟨missing, missing, missing, missing, missing, missing, missing, missing, missing, missing,
      missing⟩

/-- An intent of the second contract with the given bundle members. -/
def sampleDispatch (members : NonemptyTuple ExactHead) : ExternalActionIntentV2 :=
  bindIntent ⟨sampleId, sha256 sampleBytes.items, sampleMandate members,
    sampleAcquisition (sampleMandate members)⟩

theorem sampleMandate_accepted {members : NonemptyTuple ExactHead} (distinct : members.items.Nodup) :
    requireMandate (sampleMandate members) = .ok () := by
  have payload : ¬ sha256 (sampleMandate members).payload.items ≠
      (sampleMandate members).effectFingerprint := not_not.mpr rfl
  have horizon : ¬ (sampleMandate members).horizon.expiresAtNs.val ≤
      (sampleMandate members).horizon.notBeforeNs := Nat.not_succ_le_zero 0
  have members_ : ¬ ¬ (sampleMandate members).bundleMembers.items.Nodup := not_not.mpr distinct
  unfold requireMandate
  rw [deny_neg payload, ok_bind, deny_neg horizon, ok_bind, deny_neg members_]
  rfl

theorem sampleDispatch_accepted {members : NonemptyTuple ExactHead}
    (distinct : members.items.Nodup) : requireIntent (sampleDispatch members) = .ok () := by
  have mandate : requireMandate (sampleDispatch members).mandate = .ok () :=
    sampleMandate_accepted distinct
  unfold requireIntent
  rw [mandate, ok_bind]
  simp only []
  rw [deny_neg, ok_bind]
  · unfold evaluatePrecursor
    rw [mandate, ok_bind, deny_neg, ok_bind]
    · exact deny_neg (not_not.mpr rfl)
    · simp [sampleDispatch, bindIntent, sampleAcquisition, sampleRequest]
  · have bound : intentFingerprint (sampleDispatch members) = (sampleDispatch members).fingerprint :=
      intentFingerprint_bindIntent _
    rw [bound]
    simp [sampleDispatch, bindIntent, sampleAcquisition]

def sampleChild : TransmissionAttempt where
  transmission := sampleHead
  intent := sampleHead
  ordinal := 0
  semantics := sampleSemantics
  dispatchTimeNs := 0
  payloadFingerprint := sampleId
  recipient := ⟨sampleId, sampleId, sampleId, sampleHead, sampleBytes, sampleHead⟩
  idempotencyFenceKey := sampleId
  sendCommit := sampleHead
  coverageProof := none

def sampleSend (members : NonemptyTuple ExactHead) : DispatchRecordV2 where
  record := sampleHead
  predecessor := some sampleHead
  kind := .sendCommitted
  command := .commitFirstSend ⟨⟨sampleId, sampleId, 0⟩, sampleHead, sampleHead, sampleHead,
    sampleHead, sampleSemantics, sampleFence⟩
  snapshot := {
    intent := sampleDispatch members
    attempt := sampleHead
    state := .sendCommitted
    authorizations := []
    transmissions := [sampleChild] }

theorem sampleSend_committed {members : NonemptyTuple ExactHead} (distinct : members.items.Nodup) :
    CommittedSend (sampleSend members) sampleChild :=
  ⟨rfl, rfl, rfl, rfl, sampleDispatch_accepted distinct⟩

/-- A provider receipt for the sample child. -/
def sampleReceipt (evidenceId : Identity) (occurred incapable : List Identity) :
    DispatchEvidenceV2 :=
  ⟨evidenceId, sampleHead, sampleId, sampleBytes, sha256 sampleBytes.items, .providerReceipt,
    occurred, incapable⟩

end Progress

end Chiplog.Effects
