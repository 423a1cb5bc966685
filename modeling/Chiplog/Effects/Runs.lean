import Chiplog.Effects.Application

namespace Chiplog.Effects

variable {store : EffectStoreSnapshot} {companions : List ExactHead}

open Chiplog.Data

/-! Runs of the effects owner.

`EffectCall.prepare_ok` says once what a successful preparation has checked and what
record it produced.  Every invariant of a run is derived from that inversion. -/

/-- The records of one intent in commit order. -/
abbrev EffectStoreSnapshot.stream (store : EffectStoreSnapshot) (intentId : Identity) :
    List EffectRecord :=
  streamOf EffectRecord.intentId store.records intentId

abbrev EffectStoreSnapshot.latest? (store : EffectStoreSnapshot) (intentId : Identity) :
    Option EffectRecord :=
  Data.latest? EffectRecord.intentId store.records intentId

/-- The store once a prepared record is appended at some later tenant head. -/
def EffectStoreSnapshot.commit (store : EffectStoreSnapshot) (record : EffectRecord)
    (tenantHead : Nat) : EffectStoreSnapshot :=
  { store with tenantHead, records := store.records ++ [record] }

theorem latest?_commit_other {record : EffectRecord}
    {intentId : Identity} (other : record.intentId ≠ intentId) (tenantHead : Nat) :
    (store.commit record tenantHead).latest? intentId = store.latest? intentId :=
  latest?_append_other store.records other

theorem latest?_commit_self (store : EffectStoreSnapshot) (record : EffectRecord)
    (tenantHead : Nat) : (store.commit record tenantHead).latest? record.intentId = some record :=
  latest?_append_self _ store.records record

/-- The state either stays or takes a registered edge out of a crossed state. -/
def Reduced (before after : AttemptState) : Prop :=
  after = before ∨ before ∈ crossedStates ∧ after ∈ transitions before

/-- Kinds of the records that create an intent. -/
def acceptingKinds : List RecordKind :=
  [.intentAccepted, .planEffectPublished, .deliveryPrepared, .recoveryIntentPublished]

theorem reduced_of_registered {before after : AttemptState} {writer : Writer} {value : Unit}
    (crossed : before ∈ crossedStates)
    (registered : checkIf (after ≠ before) (requireTransition before after writer false) =
      .ok value) : Reduced before after := by
  rw [checkIf_ok] at registered
  by_cases same : after = before
  · exact .inl same
  · rcases (requireTransition_ok (registered same)).2 with ⟨edge, _⟩ | ⟨impossible, _⟩
    · exact .inr ⟨crossed, edge⟩
    · cases impossible

theorem addressed_target {command : EffectCommand}
    {intentId : Identity} {attempt : ExactHead} {supplied : Option ExactHead}
    (accepted : addressed command store = .ok (intentId, attempt, supplied)) :
    (∀ send, command = .commitSend send → supplied = some send.authorization.intent) ∧
      (∀ authorize, command = .authorize authorize → supplied = some authorize.intent) := by
  cases command <;> simp_all [addressed]

theorem previousRecord_ok {command : EffectCommand}
    {previous : EffectRecord} (accepted : previousRecord command store = .ok previous) :
    store.latest? previous.intentId = some previous ∧
      (∀ send, command = .commitSend send →
        send.authorization.intent = previous.snapshot.intent.exactHead) ∧
      (∀ authorize, command = .authorize authorize →
        authorize.intent = previous.snapshot.intent.exactHead) := by
  simp only [previousRecord, bind_ok] at accepted
  obtain ⟨⟨intentId, attempt, supplied⟩, subject, accepted⟩ := accepted
  obtain ⟨sends, authorizes⟩ := addressed_target subject
  split at accepted
  · cases accepted
  · rename_i found latest
    simp only [bind_ok, deny_ok, pure_ok] at accepted
    obtain ⟨_, _, _, exactIntent, rfl⟩ := accepted
    have same : found.intentId = intentId := (latest?_mem latest).2
    push Not at exactIntent
    refine ⟨by rw [EffectStoreSnapshot.latest?, same]; exact latest, ?_, ?_⟩
    · exact fun send isSend => exactIntent _ (sends send isSend)
    · exact fun authorize isAuthorize => exactIntent _ (authorizes authorize isAuthorize)

theorem acceptSpecific_kind {command : AcceptEffectCommand} {current : CurrentEffectInputs}
    {kind : RecordKind} (accepted : acceptSpecific command current = .ok (companions, kind)) :
    kind = .intentAccepted := by
  simp only [acceptSpecific, bind_ok, pure_ok, Prod.mk.injEq] at accepted
  obtain ⟨_, _, _, rfl⟩ := accepted
  rfl

theorem deliverySpecific_kind {command : PublishDeliveryIntentCommand} {kind : RecordKind}
    (accepted : deliverySpecific command = .ok (companions, kind)) : kind = .deliveryPrepared := by
  simp only [deliverySpecific, bind_ok, pure_ok, Prod.mk.injEq] at accepted
  obtain ⟨_, _, _, rfl⟩ := accepted
  rfl

theorem recoverySpecific_kind {command : PublishRecoveryIntentCommand}
    {current : CurrentEffectInputs} {kind : RecordKind}
    (accepted : recoverySpecific command current = .ok (companions, kind)) :
    kind = .recoveryIntentPublished := by
  simp only [recoverySpecific, bind_ok, pure_ok, Prod.mk.injEq] at accepted
  obtain ⟨_, _, _, _, _, rfl⟩ := accepted
  rfl

theorem deniedRecord_ok {command : BeforeSendDispositionV2Command}
    {previous : EffectRecord} (accepted : deniedRecord command store = .ok previous) :
    (∀ row ∈ store.records, row.command.commandId ≠ command.identity.commandId) ∧
      store.latest? previous.intentId = some previous := by
  simp only [deniedRecord, bind_ok, deny_ok] at accepted
  obtain ⟨_, _, _, unseen, accepted⟩ := accepted
  split at accepted
  · cases accepted
  · rename_i found latest
    cases accepted
    refine ⟨fun row member same => unseen (List.mem_map.mpr ⟨row, member, same⟩), ?_⟩
    rw [EffectStoreSnapshot.latest?, (latest?_mem latest).2]
    exact latest

/-- One request to the owner together with the broker's observation. -/
inductive EffectCall where
  | transition (command : EffectCommand) (current : CurrentEffectInputs)
  | denial (command : BeforeSendDispositionV2Command) (current : CurrentDenialInputs)

def EffectCall.source : EffectCall → RecordSource
  | .transition command _ => command.source
  | .denial command _ => command.source

@[simp] theorem EffectCall.source_transition (command : EffectCommand)
    (current : CurrentEffectInputs) :
    (EffectCall.transition command current).source = command.source := by
  simp only [EffectCall.source]

@[simp] theorem EffectCall.source_denial (command : BeforeSendDispositionV2Command)
    (current : CurrentDenialInputs) :
    (EffectCall.denial command current).source = command.source := by
  simp only [EffectCall.source]

/-- The record a call continues. -/
def EffectCall.previous (store : EffectStoreSnapshot) : EffectCall → Checked EffectRecord
  | .transition command _ => previousRecord command store
  | .denial command _ => deniedRecord command store

/-- A command observed at the very store it was written for. -/
structure AtCut (store : EffectStoreSnapshot) (command : EffectCommand)
    (current : CurrentEffectInputs) : Prop where
  commandId : current.commandId = command.identity.commandId
  fingerprint : current.commandFingerprint = command.identity.fingerprint
  frontier : current.storeFrontier = store.tenantHead
  head : command.identity.expectedTenantHead = store.tenantHead
  fresh : ∀ row ∈ store.records, row.command.commandId ≠ command.identity.commandId

theorem AtCut.same {command : EffectCommand}
    {current : CurrentEffectInputs} (cut : AtCut store command current) :
    ¬ (current.commandId ≠ command.identity.commandId ∨
      current.commandFingerprint ≠ command.identity.fingerprint ∨
      current.storeFrontier ≠ store.tenantHead ∨
      command.identity.expectedTenantHead ≠ store.tenantHead) := by
  simp [cut.commandId, cut.fingerprint, cut.frontier, cut.head]

theorem AtCut.unseen {command : EffectCommand}
    {current : CurrentEffectInputs} (cut : AtCut store command current) :
    ¬ ∃ row ∈ store.records, row.command.commandId = command.identity.commandId := by
  rintro ⟨row, member, same⟩
  exact cut.fresh row member same

section Runs

variable [Hashlib]

def EffectCall.prepare (store : EffectStoreSnapshot) :
    EffectCall → Checked PreparedEffectPublication
  | .transition command current => prepareTransition command store current
  | .denial command current => prepareDenial ⟨command, store, current⟩

/-- Stores reached from an empty one by successful calls that `admits` lets through. -/
inductive ReachableBy (admits : EffectStoreSnapshot → EffectCall → Prop) :
    EffectStoreSnapshot → Prop
  | empty (tenantId : Identity) (tenantHead : Nat) : ReachableBy admits ⟨tenantId, tenantHead, []⟩
  | commit {store : EffectStoreSnapshot} {call : EffectCall} {prepared : PreparedEffectPublication}
      (reachable : ReachableBy admits store) (admitted : admits store call)
      (accepted : call.prepare store = .ok prepared) (tenantHead : Nat) :
      ReachableBy admits (store.commit prepared.record tenantHead)

/-- Stores reached by any successful calls. -/
abbrev Reachable : EffectStoreSnapshot → Prop := ReachableBy (fun _ _ => True)

theorem ReachableBy.reachable {admits : EffectStoreSnapshot → EffectCall → Prop}
    {store : EffectStoreSnapshot} (reachable : ReachableBy admits store) : Reachable store := by
  induction reachable with
  | empty tenantId tenantHead => exact .empty tenantId tenantHead
  | commit _ _ accepted tenantHead ih => exact .commit ih trivial accepted tenantHead

/-- `record` seals `draft` after its obligation was bound. -/
def Bound (source : RecordSource) (previous : Option EffectRecord) (draft : EffectSnapshot)
    (kind : RecordKind) (record : EffectRecord) : Prop :=
  ∃ obligation, bindObligation source previous draft = .ok obligation ∧
    record = sealRecord source previous { draft with
      recoveryObligation := obligation
      unresolvedObligations := unresolved obligation } kind

theorem bindRecord_ok {source : RecordSource} {store : EffectStoreSnapshot}
    {previous : Option EffectRecord} {draft : EffectSnapshot} {kind : RecordKind}
    {companions : List ExactHead} {prepared : PreparedEffectPublication}
    (accepted : bindRecord source store previous draft kind companions = .ok prepared) :
    Bound source previous draft kind prepared.record := by
  simp only [bindRecord, bind_ok, pure_ok] at accepted
  obtain ⟨obligation, bound, rfl⟩ := accepted
  exact ⟨obligation, bound, rfl⟩

namespace Bound

variable {source : RecordSource} {previous : Option EffectRecord} {draft : EffectSnapshot}
  {kind : RecordKind} {record : EffectRecord}

theorem intent (bound : Bound source previous draft kind record) :
    record.snapshot.intent = draft.intent := by
  obtain ⟨_, _, rfl⟩ := bound
  rfl

theorem state (bound : Bound source previous draft kind record) :
    record.snapshot.state = draft.state := by
  obtain ⟨_, _, rfl⟩ := bound
  rfl

theorem authorizations (bound : Bound source previous draft kind record) :
    record.snapshot.authorizations = draft.authorizations := by
  obtain ⟨_, _, rfl⟩ := bound
  rfl

theorem transmissions (bound : Bound source previous draft kind record) :
    record.snapshot.transmissions = draft.transmissions := by
  obtain ⟨_, _, rfl⟩ := bound
  rfl

theorem evidence (bound : Bound source previous draft kind record) :
    record.snapshot.evidence = draft.evidence := by
  obtain ⟨_, _, rfl⟩ := bound
  rfl

theorem evidenceRecords (bound : Bound source previous draft kind record) :
    record.snapshot.evidenceRecords = draft.evidenceRecords := by
  obtain ⟨_, _, rfl⟩ := bound
  rfl

theorem obligation (bound : Bound source previous draft kind record) :
    bindObligation source previous draft = .ok record.snapshot.recoveryObligation ∧
      record.snapshot.unresolvedObligations = unresolved record.snapshot.recoveryObligation := by
  obtain ⟨_, accepted, rfl⟩ := bound
  exact ⟨accepted, rfl⟩

theorem predecessor (bound : Bound source previous draft kind record) :
    record.predecessor = previous.map (·.record) := by
  obtain ⟨_, _, rfl⟩ := bound
  rfl

theorem command (bound : Bound source previous draft kind record) :
    record.command = source.identity := by
  obtain ⟨_, _, rfl⟩ := bound
  rfl

theorem recordKind (bound : Bound source previous draft kind record) : record.kind = kind := by
  obtain ⟨_, _, rfl⟩ := bound
  rfl

theorem attempt_subjectId (bound : Bound source previous draft kind record) :
    record.snapshot.attempt.subjectId = record.intentId.before "/attempt" := by
  obtain ⟨_, _, rfl⟩ := bound
  rfl

end Bound

/-- A child allocated for `intent` names the intent's own target. -/
structure ChildOf (intent : ExternalActionIntent) (child : TransmissionAttempt) : Prop where
  subject : child.transmission.subjectId =
    intent.intentId.before ("/transmission/" ++ toString child.ordinal.toNat)
  reference : child.intent = intent.exactHead
  semantics : child.semantics = intent.semantics
  payload : child.payloadFingerprint = intent.effectFingerprint
  recipient : child.recipient = intent.authority.recipient
  fenceKey : child.idempotencyFenceKey = intent.idempotencyFenceKey

/-- What an accepted call makes of the snapshot of an existing attempt. -/
inductive Advanced (store : EffectStoreSnapshot) (before : EffectSnapshot) :
    EffectCall → EffectSnapshot → RecordKind → Prop
  | authorized {command : AuthorizeDispatchCommand} {current : CurrentEffectInputs}
      (authorization : DispatchAuthorization)
      (target : authorization.intent = before.intent.exactHead)
      (semantics : authorization.semantics = before.intent.semantics)
      (edge : .dispatchAuthorized ∈ transitions before.state) :
      Advanced store before (.transition (.authorize command) current)
        { before with
          state := .dispatchAuthorized
          authorizations := before.authorizations ++ [authorization] } .dispatchAuthorized
  | disposed {command : BeforeSendDispositionCommand} {current : CurrentEffectInputs}
      (edge : command.disposition.state ∈ transitions before.state) :
      Advanced store before (.transition (.beforeSend command) current)
        { before with state := command.disposition.state } .beforeSendDisposition
  | denied {command : BeforeSendDispositionV2Command} {current : CurrentDenialInputs}
      (edge : command.authority.decision.kind.state ∈ transitions before.state) :
      Advanced store before (.denial command current)
        { before with state := command.authority.decision.kind.state } .beforeSendDisposition
  | sent {command : CommitSendCommand} {current : CurrentEffectInputs}
      (child : TransmissionAttempt) (target : ChildOf before.intent child)
      (unreplaced : requireNoReplacement before.intent store current = .ok ())
      (unsent : before.transmissions = []) (first : child.ordinal = 0)
      (edge : before.state = .sendCommitted ∨ .sendCommitted ∈ transitions before.state) :
      Advanced store before (.transition (.commitSend command) current)
        { before with
          state := .sendCommitted
          transmissions := before.transmissions ++ [child] } .sendCommitted
  | retransmitted {command : CommitSendCommand} {current : CurrentEffectInputs}
      (child : TransmissionAttempt) (target : ChildOf before.intent child)
      (crossed : before.state ∈ retransmissionStates)
      (later : child.ordinal.toNat = before.transmissions.length)
      (lineage : before.transmissions ≠ []) :
      Advanced store before (.transition (.commitSend command) current)
        { before with transmissions := before.transmissions ++ [child] } .transmissionAllocated
  | evidenced {command : RecordEvidenceCommand} {current : CurrentEffectInputs}
      (state : AttemptState) (reduced : Reduced before.state state)
      (unseen : ∀ item ∈ before.evidence, item.subjectId ≠ command.evidenceId) :
      Advanced store before (.transition (.recordEvidence command) current)
        { before with
          state
          evidence := before.evidence ++ [ref command.evidenceId (toJson command)]
          evidenceRecords := before.evidenceRecords ++ [command] } .evidenceRecorded
  | reconciled {command : ReconcileEffectCommand} {current : CurrentEffectInputs}
      (state : AttemptState) (reduced : Reduced before.state state)
      (observed : before.evidence ≠ []) :
      Advanced store before (.transition (.reconcile command) current)
        { before with state } .reconciled

/-- The first record of an intent. -/
structure Begun (store : EffectStoreSnapshot) (call : EffectCall) (record : EffectRecord) :
    Prop where
  fresh : ∀ row ∈ store.records, row.intentId ≠ record.intentId
  tenant : record.snapshot.intent.authority.tenantId = store.tenantId
  accepting : record.kind ∈ acceptingKinds
  bound : ∃ intent snapshot kind, initial intent = .ok snapshot ∧
    Bound call.source none snapshot kind record

/-- A record that continues the attempt whose latest record is `previous`. -/
structure Continued (store : EffectStoreSnapshot) (call : EffectCall)
    (previous record : EffectRecord) : Prop where
  found : call.previous store = .ok previous
  latest : store.latest? previous.intentId = some previous
  advanced : ∃ draft kind, Advanced store previous.snapshot call draft kind ∧
    Bound call.source (some previous) draft kind record

/-- Everything a successful call has established about its record. -/
structure Recorded (store : EffectStoreSnapshot) (call : EffectCall) (record : EffectRecord) :
    Prop where
  cut : call.source.identity.expectedTenantHead = store.tenantHead
  unseen : ∀ row ∈ store.records, row.command.commandId ≠ call.source.identity.commandId
  shape : Begun store call record ∨ ∃ previous, Continued store call previous record

theorem initial_ok {intent : ExternalActionIntent} {snapshot : EffectSnapshot}
    (accepted : initial intent = .ok snapshot) :
    snapshot.intent = intent ∧ snapshot.state = .intentRecorded ∧ snapshot.authorizations = [] ∧
      snapshot.transmissions = [] ∧ snapshot.evidence = [] ∧ snapshot.evidenceRecords = [] ∧
      snapshot.unresolvedObligations = [] ∧ snapshot.recoveryObligation = none := by
  simp only [initial, bind_ok, deny_ok, pure_ok] at accepted
  obtain ⟨_, _, _, _, rfl⟩ := accepted
  simp

variable {store : EffectStoreSnapshot} {command : EffectCommand} {current : CurrentEffectInputs}
  {before after : EffectSnapshot} {previous : EffectRecord} {prepared : PreparedEffectPublication}
  {kind : RecordKind}

theorem publishIntent_ok {intent : ExternalActionIntent}
    {fence : WorkerFence} {specific : Checked (List ExactHead × RecordKind)}
    (kinds : ∀ companions kind, specific = .ok (companions, kind) → kind ∈ acceptingKinds)
    (accepted : publishIntent command intent fence store current specific = .ok prepared) :
    Begun store (.transition command current) prepared.record := by
  simp only [publishIntent, bind_ok, deny_ok] at accepted
  obtain ⟨_, fresh, _, _, _, _, _, _, _, tenant, snapshot, created, _, _, ⟨companions, kind⟩,
    selected, accepted⟩ := accepted
  have bound := bindRecord_ok accepted
  have same : prepared.record.snapshot.intent = intent :=
    bound.intent.trans (initial_ok created).1
  refine ⟨?_, ?_, ?_, intent, snapshot, kind, created, bound⟩
  · intro row member equal
    exact fresh ⟨row, member, by rw [equal, EffectRecord.intentId, same]⟩
  · rw [same]
    exact not_not.mp tenant
  · rw [bound.recordKind]
    exact kinds companions kind selected

theorem authorizeDispatch_ok {command : AuthorizeDispatchCommand}
    (target : command.intent = before.intent.exactHead)
    (accepted : authorizeDispatch command before current = .ok (after, kind)) :
    Advanced store before (.transition (.authorize command) current) after kind := by
  simp only [authorizeDispatch, bind_ok, pure_ok, requireSemantics_ok] at accepted
  obtain ⟨_, _, _, semantics, _, _, _, _, _, registered, accepted⟩ := accepted
  cases accepted
  rcases (requireTransition_ok registered).2 with ⟨edge, _⟩ | ⟨impossible, _⟩
  · exact .authorized _ target (Option.some.inj semantics).symm edge
  · cases impossible

theorem disposeBeforeSend_ok {command : BeforeSendDispositionCommand}
    (accepted : disposeBeforeSend command before current = .ok (after, kind)) :
    Advanced store before (.transition (.beforeSend command) current) after kind := by
  simp only [disposeBeforeSend, bind_ok, pure_ok] at accepted
  obtain ⟨_, _, _, registered, accepted⟩ := accepted
  cases accepted
  rcases (requireTransition_ok registered).2 with ⟨edge, _⟩ | ⟨impossible, _⟩
  · exact .disposed edge
  · cases impossible

theorem allocateChild_childOf {command : CommitSendCommand} {before : EffectSnapshot}
    {proof : Option ExactHead} (target : command.authorization.intent = before.intent.exactHead)
    (semantics : command.authorization.semantics = before.intent.semantics) :
    ChildOf before.intent (allocateChild command before current proof) :=
  ⟨rfl, target, semantics, rfl, rfl, rfl⟩

theorem commitSend_ok {command : CommitSendCommand}
    (target : command.authorization.intent = before.intent.exactHead)
    (unreplaced : requireNoReplacement before.intent store current = .ok ())
    (accepted : commitSend command before current = .ok (after, kind)) :
    Advanced store before (.transition (.commitSend command) current) after kind := by
  simp only [commitSend, bind_ok, pure_ok, requireSemantics_ok] at accepted
  obtain ⟨_, _, _, _, _, _, _, semantics, _, _, _, _, ⟨state, proof, _⟩, admitted, accepted⟩ :=
    accepted
  cases accepted
  have child : ChildOf before.intent (allocateChild command before current proof) :=
    allocateChild_childOf target (Option.some.inj semantics)
  unfold admitTransmission at admitted
  split at admitted
  · rename_i first
    simp only [bind_ok, deny_ok, pure_ok, Prod.mk.injEq] at admitted
    obtain ⟨_, _, _, unsent, _, registered, rfl, rfl, rfl⟩ := admitted
    -- `SEND_COMMITTED` without children would pass the guard's retransmission branch.
    have edge : before.state = .sendCommitted ∨ .sendCommitted ∈ transitions before.state := by
      rcases (requireTransition_ok registered).2 with ⟨edge, _⟩ | ⟨_, same, _⟩
      · exact .inr edge
      · exact .inl same.symm
    exact .sent _ child unreplaced (not_not.mp unsent)
      (by simp [allocateChild, first, TransmissionRequest.ordinal]) edge
  · rename_i request later
    simp only [bind_ok, pure_ok, Prod.mk.injEq] at admitted
    obtain ⟨_, safe, rfl, rfl, rfl⟩ := admitted
    obtain ⟨_, crossed, lineage, _, ordinal⟩ := requireSafeRetransmission_ok safe
    exact .retransmitted _ child crossed
      (by simpa [allocateChild, later, TransmissionRequest.ordinal] using ordinal) lineage

theorem evidenceState_crossed {snapshot : EffectSnapshot} {state : AttemptState}
    (accepted : evidenceState snapshot = .ok state) : snapshot.state ∈ crossedStates := by
  simp only [evidenceState, reduceChildEvidence, bind_ok, deny_ok] at accepted
  obtain ⟨_, _, _, crossed, _⟩ := accepted
  exact not_not.mp crossed

theorem reduceEvidence_reduced {command : RecordEvidenceCommand} {snapshot : EffectSnapshot}
    {state : AttemptState} (accepted : reduceEvidence command snapshot current = .ok state) :
    Reduced snapshot.state state := by
  unfold reduceEvidence at accepted
  split at accepted
  · simp only [bind_ok, pure_ok] at accepted
    obtain ⟨reached, computed, _, registered, rfl⟩ := accepted
    refine reduced_of_registered ?_ registered
    unfold reducedState at computed
    split at computed
    · rename_i shortcut
      rw [shortcut.2]
      decide
    · exact evidenceState_crossed computed
  · cases accepted
    exact .inl rfl

theorem recordEvidence_ok {command : RecordEvidenceCommand}
    (accepted : recordEvidence command store before current = .ok (after, kind)) :
    Advanced store before (.transition (.recordEvidence command) current) after kind := by
  simp only [recordEvidence, bind_ok, deny_ok, pure_ok] at accepted
  obtain ⟨_, _, _, _, _, _, _, _, _, _, _, unseen, state, reduced, accepted⟩ := accepted
  cases accepted
  have registered := reduceEvidence_reduced reduced
  exact .evidenced state registered (fun item member same => unseen ⟨item, member, same⟩)

theorem reconcileEffect_ok {command : ReconcileEffectCommand}
    (accepted : reconcileEffect command before current = .ok (after, kind)) :
    Advanced store before (.transition (.reconcile command) current) after kind := by
  simp only [reconcileEffect, bind_ok, deny_ok, pure_ok] at accepted
  obtain ⟨_, complete, _, _, _, _, state, computed, _, registered, accepted⟩ := accepted
  cases accepted
  push Not at complete
  refine .reconciled state (reduced_of_registered (evidenceState_crossed computed) registered) ?_
  rw [← complete.2.2.2]
  exact command.durableEvidence.nonempty

theorem advance_ok {after : EffectSnapshot} (found : previousRecord command store = .ok previous)
    (accepted : advance command store previous.snapshot current = .ok (after, kind)) :
    Advanced store previous.snapshot (.transition command current) after kind := by
  obtain ⟨_, sends, authorizes⟩ := previousRecord_ok found
  cases command with
  | authorize command =>
      simp only [advance, bind_ok] at accepted
      obtain ⟨_, _, accepted⟩ := accepted
      exact authorizeDispatch_ok (authorizes command rfl) accepted
  | commitSend command =>
      simp only [advance, bind_ok] at accepted
      obtain ⟨_, unreplaced, accepted⟩ := accepted
      exact commitSend_ok (sends command rfl) unreplaced accepted
  | beforeSend command => exact disposeBeforeSend_ok accepted
  | recordEvidence command => exact recordEvidence_ok accepted
  | reconcile command => exact reconcileEffect_ok accepted
  | accept _ | publishPlan _ | publishDelivery _ | publishRecovery _ => cases accepted

theorem continued_ok {draft : EffectSnapshot} (found : previousRecord command store = .ok previous)
    (advanced : advance command store previous.snapshot current = .ok (draft, kind))
    (accepted : bindRecord command.source store (some previous) draft kind [] = .ok prepared) :
    Continued store (.transition command current) previous prepared.record :=
  ⟨found, (previousRecord_ok found).1, draft, kind, advance_ok found advanced,
    bindRecord_ok accepted⟩

theorem prepareTransition_ok (accepted : prepareTransition command store current = .ok prepared) :
    Recorded store (.transition command current) prepared.record := by
  simp only [prepareTransition, bind_ok, deny_ok] at accepted
  obtain ⟨_, cut, _, unseen, accepted⟩ := accepted
  push Not at cut unseen
  refine ⟨cut.2.2.2, unseen, ?_⟩
  cases command with
  | accept command =>
      refine .inl (publishIntent_ok (fun _ kind selected => ?_) accepted)
      rw [acceptSpecific_kind selected]
      decide
  | publishPlan command =>
      refine .inl (publishIntent_ok (fun _ kind selected => ?_) accepted)
      cases selected
      decide
  | publishDelivery command =>
      refine .inl (publishIntent_ok (fun _ kind selected => ?_) accepted)
      rw [deliverySpecific_kind selected]
      decide
  | publishRecovery command =>
      refine .inl (publishIntent_ok (fun _ kind selected => ?_) accepted)
      rw [recoverySpecific_kind selected]
      decide
  | authorize _ | beforeSend _ | commitSend _ | recordEvidence _ | reconcile _ =>
      simp only [bind_ok] at accepted
      obtain ⟨previous, found, ⟨draft, kind⟩, advanced, accepted⟩ := accepted
      exact .inr ⟨previous, continued_ok found advanced accepted⟩

theorem denied_of_registered {before : EffectSnapshot}
    {command : BeforeSendDispositionV2Command} {current : CurrentDenialInputs} {value : Unit}
    (registered : requireTransition before.state command.authority.decision.kind.state .sendAdapter
      false = .ok value) :
    Advanced store before (.denial command current)
      { before with state := command.authority.decision.kind.state } .beforeSendDisposition := by
  rcases (requireTransition_ok registered).2 with ⟨edge, _⟩ | ⟨impossible, _⟩
  · exact .denied edge
  · cases impossible

theorem prepareDenial_ok {command : BeforeSendDispositionV2Command} {current : CurrentDenialInputs}
    (accepted : prepareDenial ⟨command, store, current⟩ = .ok prepared) :
    Recorded store (.denial command current) prepared.record := by
  simp only [prepareDenial, bind_ok] at accepted
  obtain ⟨_, cut, _, _, previous, found, _, _, _, _, _, _, _, _, _, _, _, registered, accepted⟩ :=
    accepted
  obtain ⟨unseen, latest⟩ := deniedRecord_ok found
  rw [requireSameCut, deny_ok] at cut
  push Not at cut
  exact ⟨cut.2.2.2.1, unseen, .inr ⟨previous, found, latest, _, _,
    denied_of_registered registered, bindRecord_ok accepted⟩⟩

/-- Inversion of a successful call. -/
theorem EffectCall.prepare_ok {call : EffectCall} (accepted : call.prepare store = .ok prepared) :
    Recorded store call prepared.record := by
  cases call with
  | transition command current => exact prepareTransition_ok accepted
  | denial command current => exact prepareDenial_ok accepted

/-- Conversely, an operation that passes its own checks is committed once its obligation
can be bound. -/
theorem prepareTransition_continues {draft : EffectSnapshot}
    {obligation : Option EffectRecoveryObligation}
    (cut : AtCut store command current) (found : previousRecord command store = .ok previous)
    (advanced : advance command store previous.snapshot current = .ok (draft, kind))
    (bound : bindObligation command.source (some previous) draft = .ok obligation) :
    ∃ prepared, prepareTransition command store current = .ok prepared ∧
      Bound command.source (some previous) draft kind prepared.record := by
  have bindable : ∃ prepared,
      bindRecord command.source store (some previous) draft kind [] = .ok prepared := by
    simp only [bindRecord, bound, ok_bind]
    exact ⟨_, rfl⟩
  obtain ⟨prepared, accepted⟩ := bindable
  refine ⟨prepared, ?_, bindRecord_ok accepted⟩
  unfold prepareTransition
  simp only [deny_neg cut.same, deny_neg cut.unseen, ok_bind]
  cases command with
  | authorize | beforeSend | commitSend | recordEvidence | reconcile =>
      simp only [found, ok_bind, advanced, accepted]
  | accept | publishPlan | publishDelivery | publishRecovery =>
      simp [previousRecord, addressed, bind, Except.bind] at found

theorem prepareTransition_publishPlan {command : PublishPlanEffectCommand}
    (cut : AtCut store (.publishPlan command) current) :
    prepareTransition (.publishPlan command) store current =
      publishIntent (.publishPlan command) command.intent command.fence store current
        (.ok (command.completePublicationManifest.items, .planEffectPublished)) := by
  unfold prepareTransition
  simp only [deny_neg cut.same, deny_neg cut.unseen, ok_bind]

theorem publishIntent_accepts {intent : ExternalActionIntent}
    {companions : List ExactHead} {snapshot : EffectSnapshot}
    (new : ∀ row ∈ store.records, row.intentId ≠ intent.intentId)
    (supported : current.supportedSemantics = some intent.semantics)
    (live : requireCurrentAuthority intent current.authority current.observedTimeNs = .ok ())
    (tenant : intent.authority.tenantId = store.tenantId) (created : initial intent = .ok snapshot)
    (unreplaced : requireNoReplacement intent store current = .ok ()) :
    publishIntent command intent current.fence store current (.ok (companions, kind)) =
      bindRecord command.source store none snapshot kind companions := by
  have absent : ¬ ∃ row ∈ store.records, row.intentId = intent.intentId := by
    rintro ⟨row, member, equal⟩
    exact new row member equal
  have bound : requireSemantics intent.semantics current.supportedSemantics false = .ok () :=
    requireSemantics_ok.mpr supported
  simp only [publishIntent, live, created, unreplaced, bound, ok_bind]
  rw [deny_neg absent, deny_neg (not_not.mpr rfl), deny_neg (not_not.mpr tenant)]
  rfl

end Runs

end Chiplog.Effects
