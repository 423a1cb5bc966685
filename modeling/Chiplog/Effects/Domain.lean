import Chiplog.Data.Checked
import Chiplog.Data.Dict
import Chiplog.Effects.Contracts

namespace Chiplog.Effects

open Chiplog.Data

/-! The dispatch algebra: the transition registry, the authority guards and the
conservative reducer of per-child, per-member evidence. -/

inductive ViolationCode where
  | conflict
  | stale
  | denied
  | recoveryHold
  | dispatchVersionDenied
  | dispatchVersionHold
deriving DecidableEq

/-- An `EffectRuleViolation`, or a model whose construction was refused. -/
inductive EffectFailure where
  | violation (code : ViolationCode) (reason : String)
  | validation (model : String)
deriving DecidableEq

abbrev Checked := Except EffectFailure

def deny (condition : Prop) [Decidable condition] (code : ViolationCode) (reason : String) :
    Checked Unit :=
  raiseIf condition (.violation code reason)

theorem deny_ok {condition : Prop} [Decidable condition] {code : ViolationCode} {reason : String}
    {value : Unit} : deny condition code reason = .ok value ↔ ¬ condition :=
  raiseIf_ok

theorem deny_error {condition : Prop} [Decidable condition] {code : ViolationCode} {reason : String}
    {failure : EffectFailure} :
    deny condition code reason = .error failure ↔ condition ∧ .violation code reason = failure :=
  raiseIf_error

@[simp] theorem deny_neg {condition : Prop} [Decidable condition] {code : ViolationCode}
    {reason : String} (fails : ¬ condition) : deny condition code reason = .ok () :=
  raiseIf_neg fails

def terminalStates : List AttemptState :=
  [.confirmed, .failedNoEffect, .partialConfirmed, .cancelledBeforeSend, .supersededBeforeSend]

def preSendStates : List AttemptState := [.intentRecorded, .heldBeforeSend, .dispatchAuthorized]

def retransmissionStates : List AttemptState := [.sendCommitted, .sent, .outcomeUnknown]

/-- The exact registry of parent transitions. -/
def transitions : AttemptState → List AttemptState
  | .intentRecorded =>
      [.heldBeforeSend, .cancelledBeforeSend, .supersededBeforeSend, .dispatchAuthorized]
  | .heldBeforeSend => [.dispatchAuthorized, .cancelledBeforeSend, .supersededBeforeSend]
  | .dispatchAuthorized =>
      [.heldBeforeSend, .cancelledBeforeSend, .supersededBeforeSend, .sendCommitted]
  | .sendCommitted => [.sent, .confirmed, .failedNoEffect, .outcomeUnknown, .partialOutcome]
  | .sent => [.confirmed, .failedNoEffect, .outcomeUnknown, .partialOutcome]
  | .outcomeUnknown => [.confirmed, .failedNoEffect, .partialConfirmed]
  | .partialOutcome => [.confirmed, .failedNoEffect, .partialConfirmed]
  | .confirmed | .failedNoEffect | .partialConfirmed | .cancelledBeforeSend
  | .supersededBeforeSend => []

inductive Writer where
  | sendAdapter
  | authenticatedEvidence
  | authorizedReconciler
deriving DecidableEq

def requireSemantics (actual : DispatchSemanticBinding) (supported : Option DispatchSemanticBinding)
    (durable : Bool) : Checked Unit :=
  deny (supported ≠ some actual)
    (if durable then .dispatchVersionHold else .dispatchVersionDenied)
    "complete bound dispatch semantics unavailable or unequal"

theorem requireSemantics_ok {actual : DispatchSemanticBinding}
    {supported : Option DispatchSemanticBinding} {durable : Bool} {value : Unit} :
    requireSemantics actual supported durable = .ok value ↔ supported = some actual := by
  simp [requireSemantics, deny_ok]

/-- Compare the complete independently reproduced value at the writer cut. -/
def requireCurrentAuthority [Hashlib] (intent : ExternalActionIntent) (current : AuthorityBinding)
    (nowNs : Nat) : Checked Unit := do
  deny (intent.authority ≠ current) .stale "complete intent/current authority binding differs"
  deny (current.validUntilNs.val ≤ nowNs ∨ ∃ row ∈ current.reads.items, row.validUntilNs.val ≤ nowNs)
    .stale "authority or an authority read expired at boundary"
  deny ((sha256 intent.payload.items).identity ≠ intent.effectFingerprint)
    .denied "payload differs from exact effect fingerprint"

/-- The two membership tests on writer roles and state names are excluded by the types. -/
def requireTransition (prior proposed : AttemptState) (writer : Writer) (newChild : Bool) :
    Checked Unit := do
  deny (prior ∈ terminalStates) .conflict "original attempt is terminal"
  if newChild ∧ proposed = prior then
    deny (prior ∉ retransmissionStates ∨ writer ≠ .sendAdapter) .denied
      "child allocation outside safe retransmission branch"
  else
    deny (proposed ∉ transitions prior) .denied "transition absent from exact VISION registry"
    if prior ∈ preSendStates then
      deny (writer ≠ .sendAdapter) .denied "only send adapter owns pre-send transitions"
      deny (newChild ≠ decide (proposed = .sendCommitted)) .denied
        "first child and SEND_COMMITTED must be atomic"
    else
      deny (writer = .sendAdapter ∨ newChild) .denied
        "outcome transition requires evidence-driven successor"

/-- A registered edge, or a new child in a state that admits retransmission. -/
theorem requireTransition_ok {prior proposed : AttemptState} {writer : Writer} {newChild : Bool}
    {value : Unit} (accepted : requireTransition prior proposed writer newChild = .ok value) :
    prior ∉ terminalStates ∧
      (proposed ∈ transitions prior ∧ (newChild = true → proposed = .sendCommitted) ∨
        newChild = true ∧ proposed = prior ∧ prior ∈ retransmissionStates) := by
  simp only [requireTransition, bind_ok, deny_ok] at accepted
  obtain ⟨_, nonterminal, accepted⟩ := accepted
  refine ⟨nonterminal, ?_⟩
  split at accepted
  · rename_i allocation
    rw [deny_ok] at accepted
    exact .inr ⟨allocation.1, allocation.2, by simpa using fun absent => accepted (.inl absent)⟩
  · simp only [bind_ok, deny_ok] at accepted
    obtain ⟨_, registered, accepted⟩ := accepted
    refine .inl ⟨by simpa using registered, fun child => ?_⟩
    split at accepted
    · simp only [bind_ok, deny_ok] at accepted
      obtain ⟨_, _, atomic⟩ := accepted
      simpa [child] using atomic
    · rw [deny_ok] at accepted
      exact absurd (.inr child) accepted

/-- Already authenticated durable observation, consumed under its bound reducer. -/
inductive ChildOutcome where
  | occurred
  | permanentlyIncapable
  | possible
  | absenceObserved
deriving DecidableEq

structure ChildMemberEvidence where
  evidence : ExactHead
  child : ExactHead
  member : ExactHead
  outcome : ChildOutcome
deriving DecidableEq

/-- What has been observed of each (child, member) pair. -/
abbrev Observed := Dict (ExactHead × ExactHead) (List ChildOutcome)

def Observed.of (observed : Observed) (child member : ExactHead) : List ChildOutcome :=
  (observed.get? (child, member)).getD []

/-- The observation loop: `evidenceIds` is filled by `setdefault`, `observed` by
adding to the set of the pair. -/
def observe (childRefs members : List ExactHead) :
    List ChildMemberEvidence → Dict Identity ExactHead → Observed → Checked Observed
  | [], _, observed => .ok observed
  | row :: rest, evidenceIds, observed => do
      deny (row.child ∉ childRefs ∨ row.member ∉ members) .conflict
        "evidence substitutes unknown child or effect member"
      let previous := (evidenceIds.get? row.evidence.subjectId).getD row.evidence
      deny (previous ≠ row.evidence) .conflict "rival evidence identity"
      observe childRefs members rest (evidenceIds.set row.evidence.subjectId previous)
        (observed.set (row.child, row.member)
          ((observed.of row.child row.member).insert row.outcome))

/-- The loop collects exactly the outcomes of the rows it was given. -/
theorem mem_observe {childRefs members : List ExactHead} {rows : List ChildMemberEvidence}
    {evidenceIds : Dict Identity ExactHead} {observed result : Observed}
    (accepted : observe childRefs members rows evidenceIds observed = .ok result)
    (child member : ExactHead) (outcome : ChildOutcome) :
    outcome ∈ result.of child member ↔ outcome ∈ observed.of child member ∨
      ∃ row ∈ rows, row.child = child ∧ row.member = member ∧ row.outcome = outcome := by
  induction rows generalizing evidenceIds observed with
  | nil =>
      cases accepted
      simp
  | cons row rest ih =>
      simp only [observe, bind_ok] at accepted
      obtain ⟨_, _, _, _, accepted⟩ := accepted
      rw [ih accepted, Observed.of, Dict.get?_set]
      by_cases same : (child, member) = (row.child, row.member)
      · obtain ⟨rfl, rfl⟩ := Prod.mk.inj same
        simp only [if_true, Option.getD_some, List.mem_insert_iff, List.exists_mem_cons_iff,
          true_and, eq_comm]
        tauto
      · rw [if_neg same]
        have other : ¬ (row.child = child ∧ row.member = member ∧ row.outcome = outcome) := by
          rintro ⟨rfl, rfl, _⟩
          exact same rfl
        simp only [List.exists_mem_cons_iff, other, false_or]
        rfl

structure Tally where
  occurred : Nat
  incapable : Nat
  uncertain : Bool
deriving DecidableEq

/-- One round of the member loop. Every child must have a positive terminal
observation: a confirmed child never hides another that may still produce a duplicate. -/
def tallyMember (childRefs : List ExactHead) (observed : Observed) (tally : Tally)
    (member : ExactHead) : Tally :=
  let childStates := childRefs.map (fun child => observed.of child member)
  if ∃ states ∈ childStates, ChildOutcome.occurred ∈ states ∧ .permanentlyIncapable ∈ states then
    { tally with uncertain := true }
  else if ∃ states ∈ childStates,
      ChildOutcome.occurred ∉ states ∧ ChildOutcome.permanentlyIncapable ∉ states then
    { tally with
      uncertain := true
      occurred := if ∃ states ∈ childStates, ChildOutcome.occurred ∈ states
        then tally.occurred + 1 else tally.occurred }
  else if ∃ states ∈ childStates, ChildOutcome.occurred ∈ states then
    { tally with occurred := tally.occurred + 1 }
  else
    { tally with incapable := tally.incapable + 1 }

/-- The verdict drawn from the complete tally. `PARTIAL_CONFIRMED` is reached only
from a denying unknown or partial state. -/
def verdict (prior : AttemptState) (memberCount : Nat) (tally : Tally) : AttemptState :=
  if tally.uncertain then
    if prior ∈ [AttemptState.outcomeUnknown, .partialOutcome] then prior
    else if tally.occurred ≠ 0 ∧ memberCount > 1 then .partialOutcome else .outcomeUnknown
  else if tally.occurred = memberCount then .confirmed
  else if tally.incapable = memberCount then .failedNoEffect
  else if prior ∈ [AttemptState.outcomeUnknown, .partialOutcome] then .partialConfirmed
  else .partialOutcome

def crossedStates : List AttemptState :=
  [.sendCommitted, .sent, .outcomeUnknown, .partialOutcome]

/-- Two children of one logical attempt name the same intent, binding and target. -/
def SameTarget (child first : TransmissionAttempt) : Prop :=
  child.intent = first.intent ∧ child.semantics = first.semantics ∧
    child.payloadFingerprint = first.payloadFingerprint ∧ child.recipient = first.recipient ∧
    child.idempotencyFenceKey = first.idempotencyFenceKey

instance (child first : TransmissionAttempt) : Decidable (SameTarget child first) :=
  inferInstanceAs (Decidable (_ ∧ _ ∧ _ ∧ _ ∧ _))

/-- Conservative complete-child/member reduction; absence never proves no effect. -/
def reduceChildEvidence (prior : AttemptState) (children : List TransmissionAttempt)
    (members : List ExactHead) (observations : List ChildMemberEvidence) :
    Checked AttemptState := do
  deny (prior ∉ crossedStates) .denied "evidence reducer requires a crossed nonterminal attempt"
  deny (children = [] ∨ members = []) .recoveryHold "empty child or inseparable effect manifest"
  let childRefs := children.map (·.transmission)
  deny (¬ childRefs.Nodup ∨ ¬ members.Nodup) .conflict "duplicate child or effect member"
  deny (children.map (·.ordinal.toNat) ≠ List.range children.length) .recoveryHold
    "incomplete or reordered retained child ordinals"
  deny (∃ first ∈ children.head?, ∃ child ∈ children, ¬ SameTarget child first) .conflict
    "child intent/binding/target differs within logical attempt"
  let observed ← observe childRefs members observations Dict.empty Dict.empty
  let tally := members.foldl (tallyMember childRefs observed) ⟨0, 0, false⟩
  return verdict prior members.length tally

/-- The reduction of a well-formed manifest whose observations were all admitted. -/
theorem reduceChildEvidence_eq {prior : AttemptState} {children : List TransmissionAttempt}
    {members : List ExactHead} {observations : List ChildMemberEvidence} {observed : Observed}
    (crossed : prior ∈ crossedStates) (sent : children ≠ []) (nonempty : members ≠ [])
    (childrenDistinct : (children.map (·.transmission)).Nodup) (membersDistinct : members.Nodup)
    (ordinals : children.map (·.ordinal.toNat) = List.range children.length)
    (targets : ∀ first ∈ children.head?, ∀ child ∈ children, SameTarget child first)
    (admitted : observe (children.map (·.transmission)) members observations Dict.empty Dict.empty =
      .ok observed) :
    reduceChildEvidence prior children members observations = .ok (verdict prior members.length
      (members.foldl (tallyMember (children.map (·.transmission)) observed) ⟨0, 0, false⟩)) := by
  have sameTarget : ¬ ∃ first ∈ children.head?, ∃ child ∈ children, ¬ SameTarget child first := by
    rintro ⟨first, head, child, member, differs⟩
    exact differs (targets first head child member)
  simp only [reduceChildEvidence]
  rw [deny_neg (not_not.mpr crossed), deny_neg (not_or.mpr ⟨sent, nonempty⟩),
    deny_neg (not_or.mpr ⟨not_not.mpr childrenDistinct, not_not.mpr membersDistinct⟩),
    deny_neg (not_not.mpr ordinals), deny_neg sameTarget, admitted]
  rfl

def requireSafeRetransmission [Hashlib] (state : AttemptState) (intent : ExternalActionIntent)
    (children : List TransmissionAttempt) (request : SafeRetransmission)
    (independentlyVerifiedProof : Option SafeRetransmission) (currentAuthority : AuthorityBinding)
    (supportedSemantics : Option DispatchSemanticBinding) (nowNs : Nat) : Checked Unit := do
  requireTransition state state .sendAdapter true
  requireSemantics intent.semantics supportedSemantics true
  requireCurrentAuthority intent currentAuthority nowNs
  deny (independentlyVerifiedProof ≠ some request) .recoveryHold
    "no independently issued exact safe-retransmission proof"
  deny (children = [] ∨ children.map (·.ordinal.toNat) ≠ List.range children.length) .recoveryHold
    "complete retained ordinal lineage required"
  deny (request.ordinal.toNat ≠ children.length ∨
      request.priorChildren.items ≠ children.map (·.transmission)) .stale
    "safe proof omits, reorders, or substitutes a prior child"
  deny (request.coveredEffectFingerprint ≠ intent.effectFingerprint ∨
      ¬ (request.coverageStartsNs ≤ nowNs ∧ nowNs < request.coverageExpiresNs.val) ∨
      ∃ child ∈ children, child.semantics ≠ intent.semantics ∨
        child.intent.subjectId ≠ intent.intentId ∨
        child.intent.fingerprint ≠ intent.fingerprint ∨
        child.payloadFingerprint ≠ intent.effectFingerprint ∨
        child.recipient ≠ intent.authority.recipient ∨
        child.idempotencyFenceKey ≠ intent.idempotencyFenceKey) .recoveryHold
    "proof does not cover current exact effect and interval"
  deny (∃ child ∈ children, nowNs < child.dispatchTimeNs) .recoveryHold
    "child dispatch lies beyond current proof cut"
  deny (request.proofKind = .providerIdempotencyCoversAll ∧
      ∃ child ∈ children, ¬ (request.coverageStartsNs ≤ child.dispatchTimeNs ∧
        child.dispatchTimeNs < request.coverageExpiresNs.val)) .recoveryHold
    "provider coverage excludes an earlier transmission"

theorem requireSafeRetransmission_ok [Hashlib] {state : AttemptState}
    {intent : ExternalActionIntent} {children : List TransmissionAttempt}
    {request : SafeRetransmission} {proof : Option SafeRetransmission} {authority : AuthorityBinding}
    {supported : Option DispatchSemanticBinding} {nowNs : Nat} {value : Unit}
    (accepted : requireSafeRetransmission state intent children request proof authority supported
      nowNs = .ok value) :
    state ∉ terminalStates ∧ state ∈ retransmissionStates ∧ children ≠ [] ∧
      children.map (·.ordinal.toNat) = List.range children.length ∧
      request.ordinal.toNat = children.length := by
  simp only [requireSafeRetransmission, bind_ok, deny_ok] at accepted
  obtain ⟨_, allocation, _, _, _, _, _, _, _, lineage, _, exactly, _⟩ := accepted
  obtain ⟨nonterminal, edge⟩ := requireTransition_ok allocation
  push Not at lineage exactly
  refine ⟨nonterminal, ?_, lineage.1, lineage.2, exactly.1⟩
  rcases edge with ⟨_, sends⟩ | ⟨_, _, retransmits⟩
  · rw [sends rfl]
    decide
  · exact retransmits

/-- The original ambiguities a recovery purpose names; ordinary work names none. -/
def EffectPurpose.originals : EffectPurpose → List OriginalAmbiguity
  | .compensation purpose => [purpose.original]
  | .duplicateRisk purpose => purpose.unresolvedAttempts.items
  | .ordinary | .delivery _ => []

def EffectPurpose.isRecovery : EffectPurpose → Bool
  | .compensation _ | .duplicateRisk _ => true
  | .ordinary | .delivery _ => false

def requireFreshRecoveryOriginals (intent : ExternalActionIntent)
    (currentOriginals : List ExactHead) : Checked Unit := do
  deny (intent.purpose.isRecovery = false) .denied
    "ordinary intent cannot borrow recovery authorization"
  let expected := intent.purpose.originals.map (·.ambiguityReconciliationHead)
  deny (expected = [] ∨ expected ≠ currentOriginals ∨ ¬ expected.Nodup) .stale
    "original ambiguity resolved, changed, duplicated or omitted"

end Chiplog.Effects
