import Chiplog.Effects.DispatchContracts
import Mathlib.Data.Finset.Lattice.Lemmas

namespace Chiplog.Effects

open Chiplog.Data

/-! Outcomes of a second-contract dispatch.

Every outcome record recomputes its state from the whole retained evidence.  The reducer
works on the sets of subject identities that the evidence lists as occurred or as
permanently incapable. -/

inductive DispatchObservationKind where
  | providerReceipt
  | boundaryCrossed
  | timeout
  | absenceObserved
  | malformedResponse
deriving DecidableEq

def DispatchObservationKind.wire : DispatchObservationKind → String
  | .providerReceipt => "PROVIDER_RECEIPT"
  | .boundaryCrossed => "BOUNDARY_CROSSED"
  | .timeout => "TIMEOUT"
  | .absenceObserved => "ABSENCE_OBSERVED"
  | .malformedResponse => "MALFORMED_RESPONSE"

instance : Jsonable DispatchObservationKind := ⟨fun observation => .str observation.wire⟩

/-- Broker-authenticated original child observation; raw bytes remain addressable. -/
structure DispatchEvidenceV2 where
  evidenceId : Identity
  transmission : ExactHead
  sourceIdentity : Identity
  rawBytes : NonemptyBytes
  rawDigest : Digest
  observation : DispatchObservationKind
  occurredMembers : List Identity
  permanentlyIncapableMembers : List Identity
deriving DecidableEq

instance : Model DispatchEvidenceV2 := ⟨fun value =>
  [("evidence_id", toJson value.evidenceId), ("transmission", toJson value.transmission),
    ("source_identity", toJson value.sourceIdentity), ("raw_bytes", toJson value.rawBytes),
    ("raw_digest", toJson value.rawDigest), ("observation", toJson value.observation),
    ("occurred_members", toJson value.occurredMembers),
    ("permanently_incapable_members", toJson value.permanentlyIncapableMembers)]⟩

inductive OutcomeOperation where
  | appendEvidence
  | resolveObligation
deriving DecidableEq

def OutcomeOperation.wire : OutcomeOperation → String
  | .appendEvidence => "APPEND_EVIDENCE"
  | .resolveObligation => "RESOLVE_OBLIGATION"

instance : Jsonable OutcomeOperation := ⟨fun operation => .str operation.wire⟩

structure DispatchOutcomeCommandV2 where
  identity : CommandIdentity
  operation : OutcomeOperation
  intent : ExactHead
  originalSend : ExactHead
  expectedAttempt : ExactHead
  completeChildren : NonemptyTuple ExactHead
  priorEvidence : List ExactHead
  evidence : Option DispatchEvidenceV2
  resolver : Option ExactHead
deriving DecidableEq

instance : Model DispatchOutcomeCommandV2 := ⟨fun value =>
  [("schema_id", .str "chiplog.effects.dispatch-outcome-command.v2"),
    ("identity", toJson value.identity), ("operation", toJson value.operation),
    ("intent", toJson value.intent), ("original_send", toJson value.originalSend),
    ("expected_attempt", toJson value.expectedAttempt),
    ("complete_children", toJson value.completeChildren),
    ("prior_evidence", toJson value.priorEvidence), ("evidence", toJson value.evidence),
    ("resolver", toJson value.resolver)]⟩

inductive ObligationState where
  | opened
  | closed
deriving DecidableEq

def ObligationState.wire : ObligationState → String
  | .opened => "OPEN"
  | .closed => "CLOSED"

instance : Jsonable ObligationState := ⟨fun state => .str state.wire⟩

/-- Original effects stream; call recovery must separately consume its exact head. -/
structure DispatchObligationV2 where
  obligation : ExactHead
  originalSend : ExactHead
  originalIntent : ExactHead
  originalChildren : NonemptyTuple ExactHead
  state : ObligationState
  closureEvidence : List ExactHead
deriving DecidableEq

instance : Model DispatchObligationV2 := ⟨fun value =>
  [("closure_predicate", .str "ALL_ORIGINAL_CHILDREN_TERMINAL_V2"),
    ("resolver_binding", .str "AUTHENTICATED_ORIGINAL_PRINCIPAL_V2"),
    ("obligation", toJson value.obligation), ("original_send", toJson value.originalSend),
    ("original_intent", toJson value.originalIntent),
    ("original_children", toJson value.originalChildren), ("state", toJson value.state),
    ("closure_evidence", toJson value.closureEvidence)]⟩

inductive OutcomeState where
  | outcomeUnknown
  | partialOutcome
  | confirmed
  | failedNoEffect
  | partialConfirmed
deriving DecidableEq

/-- The state of the common registry that an outcome state names. -/
def OutcomeState.attempt : OutcomeState → AttemptState
  | .outcomeUnknown => .outcomeUnknown
  | .partialOutcome => .partialOutcome
  | .confirmed => .confirmed
  | .failedNoEffect => .failedNoEffect
  | .partialConfirmed => .partialConfirmed

instance : Jsonable OutcomeState := ⟨fun state => toJson state.attempt⟩

structure DispatchOutcomeSnapshotV2 where
  intent : ExternalActionIntentV2
  attempt : ExactHead
  state : OutcomeState
  authorizations : List DispatchAuthorizationV2
  transmissions : List TransmissionAttempt
  evidence : List DispatchEvidenceV2
  evidenceHeads : List ExactHead
  obligation : DispatchObligationV2
  conflictingEvidence : Bool
deriving DecidableEq

instance : Model DispatchOutcomeSnapshotV2 := ⟨fun value =>
  [("intent", toJson value.intent), ("attempt", toJson value.attempt),
    ("state", toJson value.state), ("authorizations", toJson value.authorizations),
    ("transmissions", toJson value.transmissions), ("evidence", toJson value.evidence),
    ("evidence_heads", toJson value.evidenceHeads), ("obligation", toJson value.obligation),
    ("conflicting_evidence", toJson value.conflictingEvidence)]⟩

inductive OutcomeKind where
  | evidenceRecorded
  | reconciled
deriving DecidableEq

def OutcomeKind.wire : OutcomeKind → String
  | .evidenceRecorded => "EVIDENCE_RECORDED"
  | .reconciled => "RECONCILED"

instance : Jsonable OutcomeKind := ⟨fun kind => .str kind.wire⟩

structure DispatchOutcomeRecordV2 where
  record : ExactHead
  predecessor : ExactHead
  kind : OutcomeKind
  command : DispatchOutcomeCommandV2
  snapshot : DispatchOutcomeSnapshotV2
deriving DecidableEq

/-- The record an outcome continues: the SEND itself or an earlier outcome. -/
inductive OutcomePredecessor where
  | send (record : DispatchRecordV2)
  | outcome (record : DispatchOutcomeRecordV2)
deriving DecidableEq

namespace OutcomePredecessor

def record : OutcomePredecessor → ExactHead
  | .send record => record.record
  | .outcome record => record.record

def intent : OutcomePredecessor → ExternalActionIntentV2
  | .send record => record.snapshot.intent
  | .outcome record => record.snapshot.intent

def attempt : OutcomePredecessor → ExactHead
  | .send record => record.snapshot.attempt
  | .outcome record => record.snapshot.attempt

def authorizations : OutcomePredecessor → List DispatchAuthorizationV2
  | .send record => record.snapshot.authorizations
  | .outcome record => record.snapshot.authorizations

def transmissions : OutcomePredecessor → List TransmissionAttempt
  | .send record => record.snapshot.transmissions
  | .outcome record => record.snapshot.transmissions

/-- `old`: the snapshot of an earlier outcome. -/
def old? : OutcomePredecessor → Option DispatchOutcomeSnapshotV2
  | .send _ => none
  | .outcome record => some record.snapshot

end OutcomePredecessor

structure DispatchOutcomePreparationV2 where
  originalSend : DispatchRecordV2
  previous : OutcomePredecessor
  command : DispatchOutcomeCommandV2
deriving DecidableEq

/-- `TERMINAL`. -/
def terminalOutcomes : List OutcomeState := [.confirmed, .failedNoEffect, .partialConfirmed]

/-- The subject identities that some retained item lists as occurred. -/
def occurredIn (evidence : List DispatchEvidenceV2) : Finset Identity :=
  (evidence.flatMap (·.occurredMembers)).toFinset

def incapableIn (evidence : List DispatchEvidenceV2) : Finset Identity :=
  (evidence.flatMap (·.permanentlyIncapableMembers)).toFinset

def bundleSubjects (intent : ExternalActionIntentV2) : Finset Identity :=
  (intent.mandate.bundleMembers.items.map (·.subjectId)).toFinset

/-- One item lists distinct members of the bundle, none of them both ways. -/
structure Partitions (members : Finset Identity) (item : DispatchEvidenceV2) : Prop where
  occurred : item.occurredMembers.Nodup
  incapable : item.permanentlyIncapableMembers.Nodup
  separate : ∀ member ∈ item.occurredMembers, member ∉ item.permanentlyIncapableMembers
  drawn : ∀ member ∈ item.occurredMembers ++ item.permanentlyIncapableMembers, member ∈ members

instance (members : Finset Identity) (item : DispatchEvidenceV2) :
    Decidable (Partitions members item) :=
  decidable_of_iff (item.occurredMembers.Nodup ∧ item.permanentlyIncapableMembers.Nodup ∧
      (∀ member ∈ item.occurredMembers, member ∉ item.permanentlyIncapableMembers) ∧
      ∀ member ∈ item.occurredMembers ++ item.permanentlyIncapableMembers, member ∈ members)
    ⟨fun ⟨occurred, incapable, separate, drawn⟩ => ⟨occurred, incapable, separate, drawn⟩,
      fun partitions =>
        ⟨partitions.occurred, partitions.incapable, partitions.separate, partitions.drawn⟩⟩

/-- The classification loop over the retained evidence. -/
def classify (members : Finset Identity) :
    List DispatchEvidenceV2 → Finset Identity × Finset Identity →
      Checked (Finset Identity × Finset Identity)
  | [], sets => .ok sets
  | item :: rest, (occurred, incapable) => do
      deny (¬ Partitions members item) .denied "evidence partition is malformed"
      classify members rest (occurred ∪ item.occurredMembers.toFinset,
        incapable ∪ item.permanentlyIncapableMembers.toFinset)

/-- What the classified sets say about the bundle before any earlier claim is considered. -/
def reducedOutcome (complete conflict : Bool) (occurred incapable : Finset Identity) :
    OutcomeState :=
  if complete then
    if incapable = ∅ then .confirmed
    else if occurred = ∅ then .failedNoEffect
    else .partialConfirmed
  else if occurred ≠ ∅ ∧ conflict = false then .partialOutcome
  else .outcomeUnknown

/-- Late rival evidence holds consumers without rewriting a terminal claim. -/
def retainedOutcome (old : Option DispatchOutcomeSnapshotV2) (reduced : OutcomeState) :
    OutcomeState :=
  match old with
  | some snapshot => if snapshot.state ∈ terminalOutcomes then snapshot.state else reduced
  | none => reduced

/-- Whether the retained evidence contradicts itself now or did so before. -/
def conflictOf (old : Option DispatchOutcomeSnapshotV2) (occurred incapable : Finset Identity) :
    Bool :=
  decide (occurred ∩ incapable ≠ ∅) || old.any (·.conflictingEvidence)

def completeOf (members occurred incapable : Finset Identity) (conflict : Bool) : Bool :=
  !conflict && decide (occurred ∪ incapable = members)

theorem occurredIn_append (front back : List DispatchEvidenceV2) :
    occurredIn (front ++ back) = occurredIn front ∪ occurredIn back := by
  simp [occurredIn]

theorem incapableIn_append (front back : List DispatchEvidenceV2) :
    incapableIn (front ++ back) = incapableIn front ∪ incapableIn back := by
  simp [incapableIn]

/-- The loop accepts exactly the evidence whose every item partitions its members. -/
theorem classify_ok {members : Finset Identity} {evidence : List DispatchEvidenceV2}
    {start result : Finset Identity × Finset Identity}
    (accepted : classify members evidence start = .ok result) :
    (∀ item ∈ evidence, Partitions members item) ∧
      result = (start.1 ∪ occurredIn evidence, start.2 ∪ incapableIn evidence) := by
  induction evidence generalizing start with
  | nil =>
      cases accepted
      simp [occurredIn, incapableIn]
  | cons item rest ih =>
      simp only [classify, bind_ok, deny_ok] at accepted
      obtain ⟨_, partitions, accepted⟩ := accepted
      obtain ⟨later, same⟩ := ih accepted
      constructor
      · simp only [List.forall_mem_cons]
        exact ⟨not_not.mp partitions, later⟩
      · rw [same]
        simp [occurredIn, incapableIn, Finset.union_assoc]

theorem classify_total {members : Finset Identity} {evidence : List DispatchEvidenceV2}
    (partitions : ∀ item ∈ evidence, Partitions members item)
    (start : Finset Identity × Finset Identity) :
    classify members evidence start =
      .ok (start.1 ∪ occurredIn evidence, start.2 ∪ incapableIn evidence) := by
  induction evidence generalizing start with
  | nil => simp [classify, occurredIn, incapableIn]
  | cons item rest ih =>
      obtain ⟨first, later⟩ := List.forall_mem_cons.mp partitions
      simp only [classify, deny_neg (not_not.mpr first), ok_bind, ih later]
      simp [occurredIn, incapableIn, Finset.union_assoc]

/-- The flags and the state that the whole evidence determines after `old`. -/
def conflictAfter (old : Option DispatchOutcomeSnapshotV2) (evidence : List DispatchEvidenceV2) :
    Bool :=
  conflictOf old (occurredIn evidence) (incapableIn evidence)

def completeAfter (members : Finset Identity) (old : Option DispatchOutcomeSnapshotV2)
    (evidence : List DispatchEvidenceV2) : Bool :=
  completeOf members (occurredIn evidence) (incapableIn evidence) (conflictAfter old evidence)

def reducedAfter (members : Finset Identity) (old : Option DispatchOutcomeSnapshotV2)
    (evidence : List DispatchEvidenceV2) : OutcomeState :=
  retainedOutcome old (reducedOutcome (completeAfter members old evidence)
    (conflictAfter old evidence) (occurredIn evidence) (incapableIn evidence))

/-- The evidence a predecessor has retained. -/
def OutcomePredecessor.retained (previous : OutcomePredecessor) : List DispatchEvidenceV2 :=
  previous.old?.elim [] (·.evidence)

section Preparation

variable [Hashlib]

def evidenceHead (evidence : DispatchEvidenceV2) : ExactHead :=
  reference evidence.evidenceId (canonicalBytes evidence).items

def ExternalActionIntentV2.exactHead (intent : ExternalActionIntentV2) : ExactHead :=
  reference intent.intentId (canonicalBytes intent).items

abbrev DispatchRecordV2.children (send : DispatchRecordV2) : List ExactHead :=
  send.snapshot.transmissions.map (·.transmission)

/-- The command, its predecessor and the SEND name one original child. -/
def requireOriginal (request : DispatchOutcomePreparationV2) : Checked Unit :=
  let send := request.originalSend
  let original := send.snapshot
  let previous := request.previous
  let command := request.command
  deny (send.kind ≠ .sendCommitted ∨ original.state ≠ .sendCommitted ∨
      send.children.length ≠ 1 ∨ (∃ child ∈ original.transmissions.head?, child.ordinal ≠ 0) ∨
      previous.intent ≠ original.intent ∨ previous.transmissions ≠ original.transmissions ∨
      previous.authorizations ≠ original.authorizations ∨ command.originalSend ≠ send.record ∨
      command.intent ≠ original.intent.exactHead ∨ command.expectedAttempt ≠ previous.attempt ∨
      command.completeChildren.items ≠ send.children ∨
      previous.old? = none ∧ previous ≠ .send send) .stale
    "outcome original SEND/intent/current child differs"

def requireInventory (command : DispatchOutcomeCommandV2) (old : Option DispatchOutcomeSnapshotV2)
    (heads : List ExactHead) : Checked Unit :=
  deny (command.priorEvidence ≠ heads ∨ ∃ snapshot ∈ old, snapshot.evidenceHeads ≠ heads) .stale
    "complete ordered evidence inventory differs"

/-- The obligation that the first outcome of a SEND opens. -/
def openDispatchObligation (send : DispatchRecordV2) : Checked DispatchObligationV2 :=
  match NonemptyTuple.ofList? send.children with
  | none => .error (.validation "DispatchObligationV2")
  | some children => .ok {
      obligation := reference (send.snapshot.intent.intentId.before "/reconciliation")
        (canonicalBytes send).items
      originalSend := send.record
      originalIntent := send.snapshot.intent.exactHead
      originalChildren := children
      state := .opened
      closureEvidence := [] }

def currentObligation (send : DispatchRecordV2) :
    Option DispatchOutcomeSnapshotV2 → Checked DispatchObligationV2
  | some snapshot => .ok snapshot.obligation
  | none => openDispatchObligation send

/-- The evidence after the operation, and the kind of its record. -/
def admitEvidence (command : DispatchOutcomeCommandV2) (children : List ExactHead)
    (obligation : DispatchObligationV2) (evidence : List DispatchEvidenceV2) :
    Checked (List DispatchEvidenceV2 × OutcomeKind) :=
  match command.operation with
  | .appendEvidence =>
      match command.evidence with
      | none => .error (.violation .denied "evidence append has wrong operation fields")
      | some item => do
          deny (command.resolver ≠ none) .denied "evidence append has wrong operation fields"
          deny (item.transmission ∉ children ∨ item.rawDigest ≠ sha256 item.rawBytes.items ∨
              (∃ prior ∈ evidence, item.evidenceId = prior.evidenceId) ∨
              item.observation ≠ .providerReceipt ∧
                (item.occurredMembers ≠ [] ∨ item.permanentlyIncapableMembers ≠ [])) .conflict
            "evidence identity, raw digest or child differs"
          return (evidence ++ [item], .evidenceRecorded)
  | .resolveObligation => do
      deny (command.evidence ≠ none ∨ command.resolver = none ∨ obligation.state ≠ .opened)
        .conflict "resolver needs exact still-open obligation"
      return (evidence, .reconciled)

/-- The obligation and state that the operation leaves. -/
def settleOutcome (command : DispatchOutcomeCommandV2) (old : Option DispatchOutcomeSnapshotV2)
    (obligation : DispatchObligationV2) (evidence : List DispatchEvidenceV2) (complete : Bool)
    (state : OutcomeState) : Checked (DispatchObligationV2 × OutcomeState) :=
  match command.operation with
  | .resolveObligation => do
      deny (complete = false) .recoveryHold "not every original child is terminal"
      return ({ obligation with
        state := .closed
        closureEvidence := evidence.map evidenceHead }, state)
  | .appendEvidence =>
      -- Evidence directly at SEND, before an explicit opening, takes PARTIAL.
      .ok (obligation, if old = none ∧ state = .partialConfirmed then .partialOutcome else state)

/-- The record that commits to a finished outcome snapshot. -/
def sealOutcome (command : DispatchOutcomeCommandV2) (predecessor : ExactHead) (kind : OutcomeKind)
    (snapshot : DispatchOutcomeSnapshotV2) : DispatchOutcomeRecordV2 where
  record := reference (.after "effect-record/" command.identity.commandId) (Json.obj
    [("command", toJson command), ("snapshot", toJson snapshot), ("kind", toJson kind),
      ("predecessor", toJson predecessor)]).encode
  predecessor
  kind
  command
  snapshot

def prepareOutcome (request : DispatchOutcomePreparationV2) : Checked DispatchOutcomeRecordV2 := do
  let send := request.originalSend
  let command := request.command
  let original := send.snapshot
  let intent := original.intent
  requireIntent intent
  requireOriginal request
  let old := request.previous.old?
  let retained := old.elim [] (·.evidence)
  requireInventory command old (retained.map evidenceHead)
  let opened ← currentObligation send old
  let (evidence, kind) ← admitEvidence command send.children opened retained
  let (occurred, incapable) ← classify (bundleSubjects intent) evidence (∅, ∅)
  let conflict := conflictOf old occurred incapable
  let complete := completeOf (bundleSubjects intent) occurred incapable conflict
  let reduced := retainedOutcome old (reducedOutcome complete conflict occurred incapable)
  let (obligation, state) ← settleOutcome command old opened evidence complete reduced
  return sealOutcome command request.previous.record kind {
    intent
    attempt := reference (intent.intentId.before "/attempt") (canonicalBytes command).items
    state
    authorizations := original.authorizations
    transmissions := original.transmissions
    evidence
    evidenceHeads := evidence.map evidenceHead
    obligation
    conflictingEvidence := conflict }

/-- What the operation of a command did to the retained evidence and the obligation. -/
inductive Operated (members : Finset Identity) (previous : OutcomePredecessor)
    (opened : DispatchObligationV2) (command : DispatchOutcomeCommandV2)
    (snapshot : DispatchOutcomeSnapshotV2) : Prop
  | appended (item : DispatchEvidenceV2) (operation : command.operation = .appendEvidence)
      (supplied : command.evidence = some item)
      (evidence : snapshot.evidence = previous.retained ++ [item])
      (fresh : ∀ prior ∈ previous.retained, item.evidenceId ≠ prior.evidenceId)
      (obligation : snapshot.obligation = opened)
      (state : snapshot.state = if previous.old? = none ∧
          reducedAfter members previous.old? snapshot.evidence = .partialConfirmed
        then .partialOutcome else reducedAfter members previous.old? snapshot.evidence)
  | resolved (operation : command.operation = .resolveObligation)
      (unsupplied : command.evidence = none)
      (evidence : snapshot.evidence = previous.retained) (waiting : opened.state = .opened)
      (complete : completeAfter members previous.old? snapshot.evidence = true)
      (obligation : snapshot.obligation = { opened with
        state := .closed
        closureEvidence := snapshot.evidence.map evidenceHead })
      (state : snapshot.state = reducedAfter members previous.old? snapshot.evidence)

/-- Everything a successful preparation has established about its record. -/
structure Outcome (request : DispatchOutcomePreparationV2) (record : DispatchOutcomeRecordV2) :
    Prop where
  intentAccepted : requireIntent request.originalSend.snapshot.intent = .ok ()
  original : requireOriginal request = .ok ()
  command : record.command = request.command
  intent : record.snapshot.intent = request.originalSend.snapshot.intent
  transmissions : record.snapshot.transmissions = request.originalSend.snapshot.transmissions
  authorizations : record.snapshot.authorizations = request.originalSend.snapshot.authorizations
  inventory : record.snapshot.evidenceHeads = record.snapshot.evidence.map evidenceHead
  partitions : ∀ item ∈ record.snapshot.evidence,
    Partitions (bundleSubjects record.snapshot.intent) item
  conflict : record.snapshot.conflictingEvidence =
    conflictAfter request.previous.old? record.snapshot.evidence
  operated : ∃ opened, currentObligation request.originalSend request.previous.old? = .ok opened ∧
    Operated (bundleSubjects record.snapshot.intent) request.previous opened request.command
      record.snapshot

theorem operated_of_settled {members : Finset Identity} {previous : OutcomePredecessor}
    {opened : DispatchObligationV2} {command : DispatchOutcomeCommandV2} {children : List ExactHead}
    {kind : OutcomeKind} {snapshot : DispatchOutcomeSnapshotV2}
    (admitted : admitEvidence command children opened previous.retained =
      .ok (snapshot.evidence, kind))
    (settled : settleOutcome command previous.old? opened snapshot.evidence
      (completeAfter members previous.old? snapshot.evidence)
      (reducedAfter members previous.old? snapshot.evidence) =
        .ok (snapshot.obligation, snapshot.state)) :
    Operated members previous opened command snapshot := by
  unfold admitEvidence at admitted
  unfold settleOutcome at settled
  cases operation : command.operation with
  | appendEvidence =>
      simp only [operation] at admitted settled
      cases supplied : command.evidence with
      | none => simp [supplied] at admitted
      | some item =>
          simp only [supplied, bind_ok, deny_ok, pure_ok, Prod.mk.injEq] at admitted
          obtain ⟨_, _, _, valid, evidence, _⟩ := admitted
          push Not at valid
          simp only [Except.ok.injEq, Prod.mk.injEq] at settled
          exact .appended item operation supplied evidence.symm valid.2.2.1 settled.1.symm
            settled.2.symm
  | resolveObligation =>
      simp only [operation, bind_ok, deny_ok, pure_ok, Prod.mk.injEq] at admitted settled
      obtain ⟨_, valid, evidence, _⟩ := admitted
      obtain ⟨_, complete, obligation, state⟩ := settled
      push Not at valid
      exact .resolved operation valid.1 evidence.symm valid.2.2 (by simpa using complete)
        obligation.symm state.symm

/-- Inversion of a successful preparation. -/
theorem prepareOutcome_ok {request : DispatchOutcomePreparationV2}
    {record : DispatchOutcomeRecordV2} (accepted : prepareOutcome request = .ok record) :
    Outcome request record := by
  simp only [prepareOutcome, bind_ok, pure_ok] at accepted
  obtain ⟨_, intentAccepted, _, original, _, _, opened, obligation, ⟨evidence, kind⟩, admitted,
    ⟨occurred, incapable⟩, classified, ⟨closed, state⟩, settled, rfl⟩ := accepted
  obtain ⟨partitions, sets⟩ := classify_ok classified
  simp only [Finset.empty_union, Prod.mk.injEq] at sets
  obtain ⟨rfl, rfl⟩ := sets
  exact ⟨intentAccepted, original, rfl, rfl, rfl, rfl, rfl, partitions, rfl, opened, obligation,
    operated_of_settled admitted settled⟩

end Preparation

end Chiplog.Effects
