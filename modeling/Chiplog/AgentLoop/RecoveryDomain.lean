import Chiplog.Data.Checked
import Chiplog.Data.Dict
import Chiplog.Effects.Fences
import Mathlib.Data.Finset.Dedup

namespace Chiplog.AgentLoop

open Chiplog.Data Chiplog.Effects

/-! Owner-local recovery joins over immutable authoritative observations. -/

inductive RecoveryError where
  /-- Immutable subject, branch or lineage facts contradict their contract. -/
  | integrityFault (reason : String)
  /-- Complete accountable or consumable evidence is not currently available. -/
  | hold (reason : String)
deriving DecidableEq

abbrev Recovering (α : Type) := Except RecoveryError α

structure ReadOnlyRetryLineage where
  lineageId : Identity
  originalCallId : Identity
  maxAttempts : ℕ+
  budgetVersion : Identity
  reducerId : Identity
  reducerVersion : Identity
deriving DecidableEq

structure ReadOnlyAttemptMember where
  ordinal : Nat
  attemptId : Identity
  initialized : PresentHead
  accepted : PresentHead
  outcome : HeadMarker
  resultOrObligation : HeadMarker
  predecessor : Option PresentHead
deriving DecidableEq

structure ConsequentialAcceptedCall where
  initialized : PresentHead
  accepted : PresentHead
  executionIntent : PresentHead
  externalEffectIntent : Option PresentHead
  completeAcceptanceManifest : List PresentHead
  filled : 2 ≤ completeAcceptanceManifest.length
deriving DecidableEq

structure ReadOnlyAcceptedCall where
  initialized : PresentHead
  accepted : PresentHead
  lineageId : Identity
  ordinal : Nat
  readonlyProof : PresentHead
  snapshotBinding : PresentHead
  lineage : ReadOnlyRetryLineage
  completeOrderedAttempts : NonemptyTuple ReadOnlyAttemptMember
  sharedCounter : PresentHead
  attemptsConsumed : Nat
  callLevelOutcome : PresentHead
  completeLineageReducerBatch : PresentHead
deriving DecidableEq

inductive AcceptanceBranch where
  | initialized (initialized : PresentHead)
  | consequentialAccepted (call : ConsequentialAcceptedCall)
  | readOnlyAccepted (call : ReadOnlyAcceptedCall)
deriving DecidableEq

structure RecoveredOutcomeSubject where
  originalCallId : Identity
  recoveryObligationId : Identity
  outcome : Option PresentHead
deriving DecidableEq

structure RecoveryRequiredResult where
  terminal : PresentHead
  obligation : OriginalObligationBinding
  recoveredOutcome : RecoveredOutcomeSubject
deriving DecidableEq

inductive TerminalResult where
  | succeeded (terminal result : PresentHead)
  | failedDefinite (terminal result : PresentHead)
  | outcomeUnknown (terminal result noRetryBoundary : PresentHead)
  | cancelledBeforeAccept (terminal notExecutedResult initializedPredecessor : PresentHead)
  | recoveryRequired (required : RecoveryRequiredResult)
deriving DecidableEq

structure TerminalCallFrontier where
  originalCallId : Identity
  responseId : Identity
  acceptance : AcceptanceBranch
  disposition : TerminalResult
deriving DecidableEq

/-- What the join reads of a call that is still retried. -/
structure PendingCallFrontier where
  originalCallId : Identity
  responseId : Identity
  pending : PresentHead
deriving DecidableEq

inductive CallRecoveryFrontier where
  | terminal (call : TerminalCallFrontier)
  | pending (call : PendingCallFrontier)
deriving DecidableEq

def CallRecoveryFrontier.originalCallId : CallRecoveryFrontier → Identity
  | .terminal call => call.originalCallId
  | .pending call => call.originalCallId

/-- The text of `original_call_id`. -/
def CallRecoveryFrontier.callId (frontier : CallRecoveryFrontier) : String :=
  frontier.originalCallId.text

def CallRecoveryFrontier.responseId : CallRecoveryFrontier → Identity
  | .terminal call => call.responseId
  | .pending call => call.responseId

inductive Consumability where
  | consumable
  | hold
deriving DecidableEq

structure EvidenceReduction where
  streamId : Identity
  reductionId : Identity
  reducerId : Identity
  reducerVersion : Identity
  currentReduction : PresentHead
  orderedConsumedEvidence : NonemptyTuple PresentHead
  acceptedWitness : PresentHead
  acceptedOutcome : PresentHead
  obligationClosure : PresentHead
  resolverBatch : PresentHead
  semanticClass : Identity
  consumability : Consumability
deriving DecidableEq

structure SealedAccounting where
  responseId : String
  sealedManifestFingerprint : String
  calls : List TerminalCallFrontier
deriving DecidableEq

structure RecoveredClosure where
  originalCallId : String
  obligationId : String
  originalObligationHead : String
  terminalDisposition : PresentHead
  outcome : PresentHead
  acceptedEvidence : PresentHead
  closure : PresentHead
  resolverBatch : PresentHead
  resolverId : String
  resolverVersion : String
  reducerId : String
  reducerVersion : String
  reductionId : String
  acceptedSemanticClass : String
deriving DecidableEq

structure ContinuationReady where
  accounting : SealedAccounting
  recovered : List (RecoveredClosure × EvidenceReduction)
deriving DecidableEq

def isPresent : HeadMarker → Bool
  | .present .. => true
  | _ => false

/-- The loop over the attempts of a lineage. -/
def attemptChain : Option ReadOnlyAttemptMember → Nat → List ReadOnlyAttemptMember →
    Recovering Unit
  | _, _, [] => .ok ()
  | previous, ordinal, member :: rest => do
      raiseIf (member.ordinal ≠ ordinal)
        (.integrityFault "read-only attempt order or cardinality mismatch")
      match previous with
      | none =>
          raiseIf (member.predecessor ≠ none)
            (.integrityFault "read-only genesis has a predecessor")
      | some earlier =>
          raiseIf (member.predecessor ≠ some earlier.accepted)
            (.integrityFault "read-only predecessor is not exact prior accepted head")
      raiseIf (¬ isPresent member.outcome ∨
          ¬ isPresent member.resultOrObligation)
        (.hold "read-only terminal has an unaccounted attempt")
      attemptChain (some member) (ordinal + 1) rest

/-- `_readonly_lineage`. -/
def readonlyLineage (acceptance : ReadOnlyAcceptedCall) (callId : Identity) : Recovering Unit := do
  let lineage := acceptance.lineage
  let members := acceptance.completeOrderedAttempts.items
  raiseIf (acceptance.lineageId ≠ lineage.lineageId ∨ lineage.originalCallId ≠ callId ∨
      acceptance.attemptsConsumed ≠ members.length ∨ lineage.maxAttempts < members.length ∨
      acceptance.ordinal ≠ members.length - 1 ∨
      ¬ (members.map ReadOnlyAttemptMember.attemptId).Nodup)
    (.integrityFault "read-only terminal lost original bounded lineage")
  attemptChain none 0 members
  raiseIf (some acceptance.accepted ≠ members.getLast?.map ReadOnlyAttemptMember.accepted)
    (.integrityFault "read-only terminal selected a different accepted attempt")

/-- `disposition.result`, where there is one. -/
def TerminalResult.result? : TerminalResult → Option PresentHead
  | .succeeded _ result | .failedDefinite _ result | .outcomeUnknown _ result _ => some result
  | _ => none

def acceptanceBranch (acceptance : AcceptanceBranch) (disposition : TerminalResult) :
    Recovering Unit :=
  match disposition, acceptance with
  | .cancelledBeforeAccept _ _ predecessor, .initialized initialized =>
      raiseIf (predecessor ≠ initialized)
        (.integrityFault "accepted call cannot be cancelled before acceptance")
  | .cancelledBeforeAccept .., _ =>
      .error (.integrityFault "accepted call cannot be cancelled before acceptance")
  | _, .initialized _ => .error (.integrityFault "result has no registered acceptance branch")
  | _, _ => .ok ()

/-- This exact owner-local batch has one accepted head and its intents; initialized is the
predecessor, not a newly published batch member. -/
def ConsequentialAcceptedCall.required (acceptance : ConsequentialAcceptedCall) :
    List PresentHead :=
  [acceptance.accepted, acceptance.executionIntent] ++ acceptance.externalEffectIntent.toList

def acceptedMembers (call : TerminalCallFrontier) : Recovering Unit :=
  match call.acceptance with
  | .initialized _ => .ok ()
  | .consequentialAccepted acceptance =>
      raiseIf (acceptance.required ≠ acceptance.completeAcceptanceManifest)
        (.integrityFault "acceptance batch missing, extra or reordered members")
  | .readOnlyAccepted acceptance => do
      readonlyLineage acceptance call.originalCallId
      match call.disposition with
      | .recoveryRequired _ => .ok ()
      | .cancelledBeforeAccept .. =>
          .error (.integrityFault "read-only accepted call has pre-accept result")
      | disposition =>
          raiseIf (disposition.result? ≠ some acceptance.callLevelOutcome)
            (.integrityFault "attempt result substituted for call-level outcome")

def recoveryIdentity (call : TerminalCallFrontier) : Recovering Unit :=
  match call.disposition with
  | .recoveryRequired required =>
      raiseIf (required.obligation.originalCallId ≠ call.originalCallId ∨
          required.recoveredOutcome.originalCallId ≠ call.originalCallId ∨
          required.recoveredOutcome.recoveryObligationId ≠ required.obligation.obligationId)
        (.integrityFault "recovery obligation/outcome identity mismatch")
  | _ => .ok ()

/-- One round of the loop over the frontiers. -/
def accountedCall (responseId : String) (frontier : CallRecoveryFrontier) :
    Recovering TerminalCallFrontier := do
  raiseIf (frontier.responseId.text ≠ responseId)
    (.integrityFault "call belongs to a different sealed response")
  match frontier with
  | .pending _ => .error (.hold "pending call is not terminal-accountable")
  | .terminal call => do
      acceptanceBranch call.acceptance call.disposition
      acceptedMembers call
      recoveryIdentity call
      return call

/-- Weak exhaustive join: an exact open recovery obligation is accountable. -/
def sealedCallAccounting (responseId sealedManifestFingerprint : String)
    (orderedSealedCallIds : List String) (currentFrontiers : List CallRecoveryFrontier) :
    Recovering SealedAccounting := do
  raiseIf (¬ orderedSealedCallIds.Nodup)
    (.integrityFault "sealed manifest contains duplicate logical call")
  raiseIf (currentFrontiers.map CallRecoveryFrontier.callId ≠ orderedSealedCallIds)
    (.hold "frontier membership does not equal complete ordered sealed manifest")
  let terminals ← currentFrontiers.mapM (accountedCall responseId)
  return ⟨responseId, sealedManifestFingerprint, terminals⟩

/-- The text of `original_call_id`, a key of the closures. -/
def TerminalCallFrontier.callId (call : TerminalCallFrontier) : String := call.originalCallId.text

/-- The text of `reduction_id`, a key of the reductions. -/
def EvidenceReduction.key (reduction : EvidenceReduction) : String := reduction.reductionId.text

/-- The disposition of a call that needs recovery. -/
def TerminalCallFrontier.required? (call : TerminalCallFrontier) : Option RecoveryRequiredResult :=
  match call.disposition with
  | .recoveryRequired required => some required
  | _ => none

/-- A recovered pair that fits its call. -/
structure Bound (required : RecoveryRequiredResult) (outcome : PresentHead)
    (closure : RecoveredClosure) (reduction : EvidenceReduction) : Prop where
  obligationId : closure.obligationId = required.obligation.obligationId.text
  obligationHead : closure.originalObligationHead = required.obligation.obligationHead.text
  terminal : closure.terminalDisposition = required.terminal
  outcome : closure.outcome = outcome
  resolver : (closure.resolverId, closure.resolverVersion) =
    (required.obligation.resolverId.text, required.obligation.resolverVersion.text)
  reducer : (closure.reducerId, closure.reducerVersion) =
    (required.obligation.reducerId.text, required.obligation.reducerVersion.text)
  reducedBy : (reduction.reducerId.text, reduction.reducerVersion.text) =
    (closure.reducerId, closure.reducerVersion)
  stream : reduction.streamId = required.obligation.evidenceStreamId
  witness : reduction.acceptedWitness = closure.acceptedEvidence
  acceptedOutcome : reduction.acceptedOutcome = closure.outcome
  closes : reduction.obligationClosure = closure.closure
  resolverBatch : reduction.resolverBatch = closure.resolverBatch
  semanticClass : reduction.semanticClass.text = closure.acceptedSemanticClass
  consumed : reduction.acceptedWitness ∈ reduction.orderedConsumedEvidence.items
  distinct : (reduction.orderedConsumedEvidence.items.map PresentHead.head).Nodup

instance (required : RecoveryRequiredResult) (outcome : PresentHead) (closure : RecoveredClosure)
    (reduction : EvidenceReduction) : Decidable (Bound required outcome closure reduction) :=
  decidable_of_iff
    (closure.obligationId = required.obligation.obligationId.text ∧
      closure.originalObligationHead = required.obligation.obligationHead.text ∧
      closure.terminalDisposition = required.terminal ∧ closure.outcome = outcome ∧
      (closure.resolverId, closure.resolverVersion) =
        (required.obligation.resolverId.text, required.obligation.resolverVersion.text) ∧
      (closure.reducerId, closure.reducerVersion) =
        (required.obligation.reducerId.text, required.obligation.reducerVersion.text) ∧
      (reduction.reducerId.text, reduction.reducerVersion.text) =
        (closure.reducerId, closure.reducerVersion) ∧
      reduction.streamId = required.obligation.evidenceStreamId ∧
      reduction.acceptedWitness = closure.acceptedEvidence ∧
      reduction.acceptedOutcome = closure.outcome ∧
      reduction.obligationClosure = closure.closure ∧
      reduction.resolverBatch = closure.resolverBatch ∧
      reduction.semanticClass.text = closure.acceptedSemanticClass ∧
      reduction.acceptedWitness ∈ reduction.orderedConsumedEvidence.items ∧
      (reduction.orderedConsumedEvidence.items.map PresentHead.head).Nodup)
    ⟨fun ⟨a, b, c, d, e, f, g, h, i, j, k, l, m, n, o⟩ =>
        ⟨a, b, c, d, e, f, g, h, i, j, k, l, m, n, o⟩,
      fun ⟨a, b, c, d, e, f, g, h, i, j, k, l, m, n, o⟩ =>
        ⟨a, b, c, d, e, f, g, h, i, j, k, l, m, n, o⟩⟩

/-- One round of the loop over the accounted calls; nothing is joined for a call that needs
no recovery. -/
def joinCall (closureMap : Dict String RecoveredClosure)
    (reductionMap : Dict String EvidenceReduction) (call : TerminalCallFrontier) :
    Recovering (Option (RecoveredClosure × EvidenceReduction)) :=
  match call.required? with
  | none => .ok none
  | some required =>
      match required.recoveredOutcome.outcome with
      | none => .error (.hold "terminal recovery obligation has no immutable recovered outcome")
      | some outcome =>
          match closureMap.get? call.callId with
          -- The keys were compared before the loop.
          | none => .error (.hold
              "recovered closure membership is incomplete or contains extra subjects")
          | some closure =>
              match reductionMap.get? closure.reductionId with
              | none => .error (.hold "current semantic reduction absent or non-consumable")
              | some reduction => do
                  raiseIf (reduction.consumability ≠ .consumable)
                    (.hold "current semantic reduction absent or non-consumable")
                  raiseIf (¬ Bound required outcome closure reduction)
                    (.hold "recovered pair, closure, witness or reducer binding differs")
                  return some (closure, reduction)

def SealedAccounting.requiredCalls (accounting : SealedAccounting) : List TerminalCallFrontier :=
  accounting.calls.filter (fun call => call.required?.isSome)

/-- Strong join binds immutable closure/witness and the current reduction. -/
def modelContinuationReady (accounting : SealedAccounting) (closures : List RecoveredClosure)
    (currentReductions : List EvidenceReduction) : Recovering ContinuationReady := do
  let closureMap := Dict.ofRows RecoveredClosure.originalCallId id closures
  let reductionMap := Dict.ofRows EvidenceReduction.key id currentReductions
  raiseIf (closureMap.entries.length ≠ closures.length ∨
      reductionMap.entries.length ≠ currentReductions.length)
    (.integrityFault "duplicate recovery closure or semantic reduction")
  raiseIf ((closureMap.entries.map Prod.fst).toFinset ≠
      (accounting.requiredCalls.map TerminalCallFrontier.callId).toFinset)
    (.hold "recovered closure membership is incomplete or contains extra subjects")
  let rounds ← accounting.calls.mapM (joinCall closureMap reductionMap)
  let joined := rounds.filterMap id
  raiseIf ((reductionMap.entries.map Prod.fst).toFinset ≠
      (joined.map (fun pair => pair.1.reductionId)).toFinset)
    (.hold "extra current semantic reduction")
  return ⟨accounting, joined⟩

end Chiplog.AgentLoop
