import Chiplog.Composition.SingleEmission
import Chiplog.Effects.EvidenceReduction

namespace Chiplog.Composition

open Chiplog.Data Chiplog.Platform Chiplog.Effects

/-! Closing an original effect, and what later evidence can do to its closure.

The closure of a stream is written once and never changed, while receipts keep arriving.  A
verdict that has been recorded can be withdrawn by further evidence, never replaced. -/

structure EffectInvocation (family : Family) where
  head : String
  tenantId : String
  principalId : String
  streamId : String
  sendHead : String
  credentialId : String
  sessionId : String
  trustMaterializationHead : String
  completeEvidenceHeads : List String
deriving DecidableEq

def Family.invocationSchema : Family → String
  | .tool => "chiplog.effects.native-resolver-invocation.v1"
  | .action => "chiplog.effects.action-invocation.v1"

instance : Model (EffectInvocation family) := ⟨fun value =>
  family.common family.invocationSchema value.head value.tenantId value.principalId
    value.streamId ++
  [("send_head", toJson value.sendHead), ("credential_id", toJson value.credentialId),
    ("session_id", toJson value.sessionId),
    ("trust_materialization_head", toJson value.trustMaterializationHead),
    ("complete_evidence_heads", toJson value.completeEvidenceHeads)]⟩

instance : CustodyRow (EffectInvocation family) where
  schemaId := family.invocationSchema
  head := (·.head)
  withHead text value := { value with head := text }
  scope value := (value.tenantId, value.principalId)
  stream := (·.streamId)
  head_withHead _ _ := rfl
  withHead_withHead _ _ _ := rfl

/-- What a resolution asks of the runtime besides the effect services: the trust materialization
it authenticates against, and the terminal successor of a tool's call state, absent when the
call state already is that successor. -/
structure ResolutionServices (β : Type) where
  effects : EffectServices β
  trustMaterializationHead : Transaction String
  terminalCall : Snapshot β → String → ClosureOutcome → Transaction (Option (String × Bytes))

section Resolution

variable {β : Type} [Content β] [Hashlib] [EffectStores β]

def reductionRows (runtime : Runtime) (snapshot : Snapshot β) (streamId : String) :
    Transaction (List (Retained EffectReduction)) :=
  familyRows EffectReduction runtime snapshot streamId

/-- Nothing is resolved again for an inventory that the last reduction already covers. -/
def resolvedAlready (previous : List (Retained EffectClosure))
    (reductions : List (Retained EffectReduction)) (inventory : List String) :
    Option (Retained EffectClosure) :=
  match previous, reductions.getLast? with
  | closure :: _, some reduction =>
      if reduction.2.completeEvidenceHeads = inventory ∧
          reduction.2.closureHead = some closure.2.head then some closure else none
  | _, _ => none

def preparedInvocation (runtime : Runtime) (intent : EffectSubject) (sendHead trustHead : String)
    (inventory : List String) : EffectInvocation intent.family :=
  effectHead
    { head := "pending"
      tenantId := intent.scope.1
      principalId := intent.scope.2
      streamId := intent.streamId
      sendHead := sendHead
      credentialId := runtime.credentialId
      sessionId := runtime.sessionId
      trustMaterializationHead := trustHead
      completeEvidenceHeads := inventory }

def preparedClosure (intent : EffectSubject) (sendHead invocationHead : String)
    (inventory : List String) (outcome : ClosureOutcome) : EffectClosure intent.family :=
  effectHead
    { head := "pending"
      tenantId := intent.scope.1
      principalId := intent.scope.2
      streamId := intent.streamId
      obligationId := intent.intentId.text ++ "/obligation"
      sendHead := sendHead
      invocationHead := invocationHead
      completeEvidenceHeads := inventory
      outcome := outcome }

@[simp] theorem preparedClosure_streamId {intent : EffectSubject} {sendHead invocationHead : String}
    {inventory : List String} {outcome : ClosureOutcome} :
    (preparedClosure intent sendHead invocationHead inventory outcome).streamId =
      intent.streamId := rfl

@[simp] theorem preparedClosure_outcome {intent : EffectSubject} {sendHead invocationHead : String}
    {inventory : List String} {outcome : ClosureOutcome} :
    (preparedClosure intent sendHead invocationHead inventory outcome).outcome = outcome := rfl

def preparedReduction (intent : EffectSubject) (sendHead closureHead : String)
    (inventory : List String) (outcome : ClosureOutcome) : EffectReduction intent.family :=
  effectHead
    { head := "pending"
      tenantId := intent.scope.1
      principalId := intent.scope.2
      streamId := intent.streamId
      sendHead := sendHead
      closureHead := some closureHead
      completeEvidenceHeads := inventory
      outcome := outcome.state }

/-- A closed tool effect ends its call. -/
def callCompanion (services : ResolutionServices β) (snapshot : Snapshot β) (callId : String)
    (intent : EffectSubject) (outcome : ClosureOutcome) : Transaction (List (Record β)) :=
  match intent.tool with
  | none => .ok []
  | some _ => do
      match ← services.terminalCall snapshot callId outcome with
      | none => return []
      | some (head, bytes) =>
          return [⟨head, "agent_loop", Content.raw "chiplog.agent-loop.native-call-state.v1" bytes⟩]

def resolveOriginalEffect (services : ResolutionServices β) (runtime : Runtime)
    (binding : PostgresEffectsBinding) (peer callId : String) (user : UserState β) :
    Transaction (UserState β × Retained EffectClosure) := do
  runtime.actor services.effects.context peer user
  let snapshot := user.snapshot
  let intent ← subject runtime snapshot callId
  let send ← only (← sendRows runtime snapshot callId)
  let (state, inventory) ← evidenceOutcome services.effects runtime binding snapshot callId []
  match ClosureOutcome.ofState? state with
  | none => .error (.loopHold "original effect evidence does not close every original member")
  | some outcome =>
      let previous ← closureRows runtime snapshot callId
      let reductions ← reductionRows runtime snapshot callId
      match resolvedAlready previous reductions inventory with
      | some closure => return (user, closure)
      | none =>
          let trustHead ← services.trustMaterializationHead
          let invocation := preparedInvocation runtime intent send.2.head trustHead inventory
          let fresh : Retained EffectClosure := ⟨intent.family,
            preparedClosure intent send.2.head invocation.head inventory outcome⟩
          let closure := previous.head?.getD fresh
          let reduction := preparedReduction intent send.2.head closure.2.head inventory outcome
          let companion ← callCompanion services snapshot callId intent outcome
          let records := [⟨invocation.head, "effects", Content.raw
              (Schema.schemaId (EffectInvocation intent.family)) (Schema.wire invocation)⟩] ++
            (if previous = [] then [record fresh.2] else []) ++ [record reduction] ++ companion
          let appended ← snapshot.append "effects.resolve" reduction.head
            (digest (canonicalBytes reduction).items).text records snapshot.head
          return (⟨appended, user.worker⟩, closure)

end Resolution

/-! ### Evidence of a growing log -/

theorem only_grown {values more : List α} {value other : α} (grows : values ⊆ more)
    (selected : only values = .ok value) (again : only more = .ok other) : other = value := by
  rw [only_ok selected, only_ok again] at grows
  exact (List.mem_singleton.mp (grows (List.mem_singleton_self value))).symm

theorem append_grown {front rest more other : List α} (left : front ⊆ more) (right : rest ⊆ other) :
    front ++ rest ⊆ more ++ other :=
  List.append_subset.mpr ⟨List.subset_append_of_subset_left _ left,
    List.subset_append_of_subset_right _ right⟩

section Growth

variable {β : Type} [Content β]

theorem streamIn_grown [CustodyRow α] [Stores β α] {records more : List (Record β)}
    (grows : records <+: more) (streamId : String) :
    streamIn α records streamId ⊆ streamIn α more streamId := by
  obtain ⟨rest, rfl⟩ := grows
  rw [streamIn_append]
  exact List.subset_append_left _ _

theorem familyIn_grown {ρ : Family → Type} [∀ family, CustodyRow (ρ family)]
    [∀ family, Stores β (ρ family)] {records more : List (Record β)} (grows : records <+: more)
    (streamId : String) : familyIn ρ records streamId ⊆ familyIn ρ more streamId :=
  append_grown (List.map_subset _ (streamIn_grown grows streamId))
    (List.map_subset _ (streamIn_grown grows streamId))

variable [Hashlib] [EffectStores β] {runtime other : Runtime}

/-- The subject of a stream is read from records that stay the only ones. -/
theorem actionSubject_grown {snapshot later : Snapshot β}
    {streamId : String} {original : EffectOriginal} {proposal : ActionProposalValue}
    {adopted : ExactHead} {value again : EffectSubject} (grows : snapshot.records <+: later.records)
    (selected : actionSubject runtime snapshot streamId original proposal adopted = .ok value)
    (reread : actionSubject other later streamId original proposal adopted = .ok again) :
    again = value := by
  simp only [actionSubject, bind_ok, pure_ok] at selected reread
  obtain ⟨_, read, preview, single, _, _, rfl⟩ := selected
  obtain ⟨_, readAgain, current, only, _, _, rfl⟩ := reread
  rw [rows_ok read] at single
  rw [rows_ok readAgain] at only
  rw [only_grown (List.filter_subset _ (streamIn_grown grows streamId)) single only]

theorem subject_grown {snapshot later : Snapshot β} {streamId : String}
    {value again : EffectSubject} (grows : snapshot.records <+: later.records)
    (selected : subject runtime snapshot streamId = .ok value)
    (reread : subject other later streamId = .ok again) : again = value := by
  simp only [subject, bind_ok] at selected reread
  obtain ⟨_, tools, _, plans, _, compensations, original, single, selected⟩ := selected
  obtain ⟨_, toolsAgain, _, plansAgain, _, compensationsAgain, current, only, reread⟩ := reread
  rw [rows_ok tools, rows_ok plans, rows_ok compensations] at single
  rw [rows_ok toolsAgain, rows_ok plansAgain, rows_ok compensationsAgain] at only
  have more := fun (α : Type) [CustodyRow α] [Stores β α] =>
    streamIn_grown (α := α) grows streamId
  obtain rfl := only_grown (append_grown (append_grown (List.map_subset _ (more _))
    (List.map_subset _ (more _))) (List.map_subset _ (more _))) single only
  cases current with
  | tool intent =>
      rw [pure_ok] at selected reread
      rw [← reread, selected]
  | plan intent => exact actionSubject_grown grows selected reread
  | compensation intent => exact actionSubject_grown grows selected reread

/-- The observations of one retained receipt. -/
def receiptRows (verify : IssuedEffectSendTicket → Bytes → Transaction ReceiptObservation)
    (send : Retained EffectSend) (members : List ExactHead) (retained : Retained EffectEvidence) :
    Transaction (List ChildMemberEvidence) := do
  let parsed ← verify send.2.ticket retained.2.rawReceipt
  let child := send.2.transmission.transmission
  let occurred ← parsed.occurredMembers.mapM (memberObservation child members retained .occurred)
  let incapable ← parsed.permanentlyIncapableMembers.mapM
    (memberObservation child members retained .permanentlyIncapable)
  return occurred ++ incapable

omit [Content β] [EffectStores β] in
/-- A receipt gives the same observations wherever it stands in the evidence. -/
theorem receiptObservations_mem {services : EffectServices β} {runtime : Runtime}
    {send : Retained EffectSend} {members : List ExactHead} {previous : Option String}
    {evidence : List (Retained EffectEvidence)} {observations : List ChildMemberEvidence}
    (returned : receiptObservations services runtime send members previous evidence =
      .ok observations) (row : ChildMemberEvidence) :
    row ∈ observations ↔ ∃ retained ∈ evidence, ∃ rows,
      receiptRows services.verifyReceipt send members retained = .ok rows ∧ row ∈ rows := by
  induction evidence generalizing previous observations with
  | nil =>
      cases returned
      simp
  | cons retained rest ih =>
      simp only [receiptObservations, bind_ok, pure_ok] at returned
      obtain ⟨_, _, parsed, verified, occurred, occurs, incapable, incapables, later, continued,
        rfl⟩ := returned
      have own : receiptRows services.verifyReceipt send members retained =
          .ok (occurred ++ incapable) := by
        simp only [receiptRows, verified, occurs, incapables, ok_bind]
        rfl
      rw [List.mem_append, ih continued, List.exists_mem_cons_iff, own]
      simp only [Except.ok.injEq, exists_eq_left']

omit [Hashlib] in
theorem ofChecked_ok {computation : Checked α} {value : α} :
    ofChecked computation = .ok value ↔ computation = .ok value := by
  unfold ofChecked
  split <;> simp

/-- What an outcome was reduced from. -/
theorem evidenceOutcome_ok {services : EffectServices β} {runtime : Runtime}
    {binding : PostgresEffectsBinding} {snapshot : Snapshot β} {callId : String}
    {state : AttemptState} {inventory : List String}
    (returned : evidenceOutcome services runtime binding snapshot callId [] =
      .ok (state, inventory)) :
    ∃ intent send members observations,
      subject runtime snapshot callId = .ok intent ∧
      only (familyIn EffectSend snapshot.records callId) = .ok send ∧
      intent.preview.bundleMembers.mapM (fun member => do
        return exactHead (← identity member) (utf8 member)) = (.ok members : Transaction _) ∧
      (∀ row, row ∈ observations ↔
        ∃ retained ∈ familyIn EffectEvidence snapshot.records callId, ∃ rows,
          receiptRows services.verifyReceipt send members retained = .ok rows ∧ row ∈ rows) ∧
      reduceChildEvidence .outcomeUnknown [send.2.transmission] members observations =
        .ok state := by
  simp only [evidenceOutcome, bind_ok, pure_ok, ofChecked_ok, Prod.mk.injEq,
    List.append_nil] at returned
  obtain ⟨intent, selected, _, sends, send, single, _, _, _, _, _, _, _, read, members, named,
    observations, observed, _, reduced, rfl, _⟩ := returned
  rw [familyRows_ok sends] at single
  rw [familyRows_ok read] at observed
  exact ⟨intent, send, members, observations, selected, single, named,
    receiptObservations_mem observed, reduced⟩

/-- On a longer log a terminal outcome stays what it was or becomes unknown. -/
theorem evidenceOutcome_grown {services others : EffectServices β}
    {binding rebound : PostgresEffectsBinding} {snapshot later : Snapshot β} {callId : String}
    {state outcome : AttemptState} {inventory complete : List String}
    (grows : snapshot.records <+: later.records)
    (verifies : others.verifyReceipt = services.verifyReceipt)
    (returned : evidenceOutcome services runtime binding snapshot callId [] =
      .ok (state, inventory))
    (terminal : state ∈ terminalStates)
    (again : evidenceOutcome others other rebound later callId [] = .ok (outcome, complete)) :
    outcome = state ∨ outcome = .outcomeUnknown := by
  obtain ⟨intent, send, members, observations, selected, single, named, observed, reduced⟩ :=
    evidenceOutcome_ok returned
  obtain ⟨intentAgain, sendAgain, membersAgain, observationsAgain, reread, only, renamed,
    reobserved, rereduced⟩ := evidenceOutcome_ok again
  obtain rfl := subject_grown grows selected reread
  obtain rfl := only_grown (familyIn_grown grows callId) single only
  obtain rfl : membersAgain = members := Except.ok.inj (renamed.symm.trans named)
  have subset : observations ⊆ observationsAgain := by
    intro row member
    obtain ⟨retained, inside, found⟩ := (observed row).mp member
    rw [reobserved, verifies]
    exact ⟨retained, familyIn_grown grows callId inside, found⟩
  exact reduceChildEvidence_stable subset reduced terminal rereduced

end Growth

/-! ### Recorded closures -/

section Recorded

variable {β : Type} [Content β] [Hashlib] [EffectStores β]

/-- The closure repeats an outcome that the evidence of its stream has on these records. -/
def Closing (verify : IssuedEffectSendTicket → Bytes → Transaction ReceiptObservation)
    (snapshot : Snapshot β) (closure : EffectClosure family) : Prop :=
  ∃ (services : EffectServices β) (runtime : Runtime) (binding : PostgresEffectsBinding)
    (inventory : List String), services.verifyReceipt = verify ∧
      evidenceOutcome services runtime binding snapshot closure.streamId [] =
        .ok (closure.outcome.state, inventory)

omit [Hashlib] in
theorem ofState?_state {state : AttemptState} {outcome : ClosureOutcome}
    (closes : ClosureOutcome.ofState? state = some outcome) : outcome.state = state := by
  cases state <;> cases closes <;> rfl

omit [Hashlib] [EffectStores β] in
theorem callCompanion_ok {services : ResolutionServices β} {snapshot : Snapshot β}
    {callId : String} {intent : EffectSubject} {outcome : ClosureOutcome}
    {companion : List (Record β)}
    (prepared : callCompanion services snapshot callId intent outcome = .ok companion) :
    ∀ item ∈ companion, item.schemaId = "chiplog.agent-loop.native-call-state.v1" := by
  unfold callCompanion at prepared
  split at prepared
  · cases prepared
    simp
  · simp only [bind_ok] at prepared
    obtain ⟨found, _, prepared⟩ := prepared
    cases found with
    | none =>
        cases pure_ok.mp prepared
        simp
    | some successor =>
        cases pure_ok.mp prepared
        simp [Record.schemaId, Content.schemaId_raw]

omit [Hashlib] in
/-- A closure is stored under the schema of its own family. -/
theorem storedIn_closure {family wanted : Family} (value : EffectClosure family)
    {stored : EffectClosure wanted}
    (inside : stored ∈ storedIn (EffectClosure wanted) [(record value : Record β)]) :
    ∃ same : family = wanted, stored = same ▸ value := by
  by_cases same : family = wanted
  · subst same
    rw [record, storedIn_written, List.mem_singleton] at inside
    exact ⟨rfl, inside⟩
  · rw [storedIn_foreign] at inside
    · cases inside
    · intro item member
      rw [List.mem_singleton.mp member, record_schemaId]
      revert same
      cases family <;> cases wanted <;> decide

/-- A resolution that records a closure has reduced the evidence of its stream to it. -/
theorem resolveOriginalEffect_ok {services : ResolutionServices β} {runtime : Runtime}
    {binding : PostgresEffectsBinding} {peer callId : String} {user after : UserState β}
    {closure : Retained EffectClosure}
    (resolved : resolveOriginalEffect services runtime binding peer callId user =
      .ok (after, closure)) :
    after = user ∨ ∃ records key fingerprint,
      user.snapshot.append "effects.resolve" key fingerprint records user.snapshot.head =
        .ok after.snapshot ∧
      ∀ family, ∀ recorded ∈ storedIn (EffectClosure family) records,
        Closing services.effects.verifyReceipt user.snapshot recorded := by
  simp only [resolveOriginalEffect, bind_ok] at resolved
  obtain ⟨_, _, intent, selected, _, _, send, _, ⟨state, inventory⟩, reduced, resolved⟩ := resolved
  cases closes : ClosureOutcome.ofState? state with
  | none =>
      rw [closes] at resolved
      cases resolved
  | some outcome =>
      simp only [closes, bind_ok] at resolved
      obtain ⟨previous, _, reductions, _, resolved⟩ := resolved
      cases already : resolvedAlready previous reductions inventory with
      | some existing =>
          simp only [already, pure_ok, Prod.mk.injEq] at resolved
          exact .inl resolved.1.symm
      | none =>
          simp only [already, bind_ok, pure_ok, Prod.mk.injEq] at resolved
          obtain ⟨trustHead, _, companion, ended, appended, added, rfl, _⟩ := resolved
          refine .inr ⟨_, _, _, added, fun family recorded inside => ?_⟩
          have invocation (value : EffectInvocation intent.family) :
              storedIn (EffectClosure family) [(⟨value.head, "effects", Content.raw
                (Schema.schemaId (EffectInvocation intent.family)) (Schema.wire value)⟩ :
                  Record β)] = [] :=
            storedIn_foreign (by
              simp only [List.mem_singleton, forall_eq, Record.schemaId, Content.schemaId_raw]
              cases family <;> cases intent.family <;> decide)
          have reduction (value : EffectReduction intent.family) :
              storedIn (EffectClosure family) [(record value : Record β)] = [] :=
            storedIn_foreign (by
              simp only [List.mem_singleton, forall_eq, record_schemaId]
              cases family <;> cases intent.family <;> decide)
          have ending : storedIn (EffectClosure family) companion = [] :=
            storedIn_foreign (fun item member => by
              rw [callCompanion_ok ended item member]
              cases family <;> decide)
          rw [storedIn_append, storedIn_append, storedIn_append, invocation, reduction, ending,
            List.nil_append, List.append_nil, List.append_nil] at inside
          split at inside
          · obtain ⟨rfl, rfl⟩ := storedIn_closure _ inside
            refine ⟨services.effects, runtime, binding, inventory, rfl, ?_⟩
            rw [preparedClosure_streamId, preparedClosure_outcome, subject_streamId selected,
              ofState?_state closes]
            exact reduced
          · cases inside

/-- One user's log while originals are resolved; everything else that is appended to it is
left open, except that it holds no closure. -/
inductive ResolutionRun (verify : IssuedEffectSendTicket → Bytes → Transaction ReceiptObservation) :
    UserState β → Prop
  | opened (worker : Option String) : ResolutionRun verify ⟨Snapshot.empty, worker⟩
  | resolved {services : ResolutionServices β} {runtime : Runtime}
      {binding : PostgresEffectsBinding} {peer callId : String} {user after : UserState β}
      {closure : Retained EffectClosure} (run : ResolutionRun verify user)
      (verifies : services.effects.verifyReceipt = verify)
      (returned : resolveOriginalEffect services runtime binding peer callId user =
        .ok (after, closure)) : ResolutionRun verify after
  | appended {user after : UserState β} {operation key fingerprint : String}
      {records : List (Record β)} (run : ResolutionRun verify user)
      (elsewhere : ∀ item ∈ records, ∀ family : Family, item.schemaId ≠ family.closureSchema)
      (added : user.snapshot.append operation key fingerprint records user.snapshot.head =
        .ok after.snapshot) : ResolutionRun verify after
  | replaced {user : UserState β} (run : ResolutionRun verify user) (worker : Option String) :
      ResolutionRun verify ⟨user.snapshot, worker⟩

variable {verify : IssuedEffectSendTicket → Bytes → Transaction ReceiptObservation}

/-- Every recorded closure was the outcome of the evidence retained at that moment. -/
theorem ResolutionRun.closing {user : UserState β} (run : ResolutionRun verify user)
    {family : Family} {closure : EffectClosure family}
    (inside : closure ∈ storedIn (EffectClosure family) user.snapshot.records) :
    ∃ earlier : Snapshot β, earlier.records <+: user.snapshot.records ∧
      Closing verify earlier closure := by
  induction run with
  | opened worker => simp [storedIn, Snapshot.empty, Snapshot.records] at inside
  | @resolved services _ _ _ _ user after _ _ verifies returned ih =>
      rcases resolveOriginalEffect_ok returned with rfl | ⟨records, _, _, added, recorded⟩
      · exact ih inside
      · have grown := Snapshot.append_records added
        have prefix_ : user.snapshot.records <+: after.snapshot.records := by
          rw [grown]
          exact List.prefix_append _ _
        rw [grown, storedIn_append, List.mem_append] at inside
        rcases inside with old | new
        · obtain ⟨earlier, grows, closing⟩ := ih old
          exact ⟨earlier, grows.trans prefix_, closing⟩
        · exact ⟨user.snapshot, prefix_, verifies ▸ recorded family closure new⟩
  | @appended user after _ _ _ records _ elsewhere added ih =>
      have grown := Snapshot.append_records added
      have none : storedIn (EffectClosure family) records = [] :=
        storedIn_foreign (fun item member => elsewhere item member family)
      rw [grown, storedIn_append, none, List.append_nil] at inside
      obtain ⟨earlier, grows, closing⟩ := ih inside
      rw [grown]
      exact ⟨earlier, grows.trans (List.prefix_append _ _), closing⟩
  | replaced _ worker ih => exact ih inside

omit [Hashlib] in
theorem outcome_terminal (outcome : ClosureOutcome) : outcome.state ∈ terminalStates :=
  closing_terminal (closureOutcome_closing outcome)

/-- Arrival order and repetition of evidence change no verdict, a rejection names the first row
with a defect, more evidence confirms a terminal verdict or withdraws it, and so a recorded
closure is never contradicted. -/
theorem evidence_order_and_stability :
    (∀ prior children members (rows others : List ChildMemberEvidence),
      (∀ row, row ∈ rows ↔ row ∈ others) →
        SameVerdict (reduceChildEvidence prior children members rows)
          (reduceChildEvidence prior children members others)) ∧
    (∀ prior children members (rows : List ChildMemberEvidence) failure, prior ∈ crossedStates →
      CompleteManifest children members →
        (reduceChildEvidence prior children members rows = .error failure ↔
          ∃ front row back reason, rows = front ++ row :: back ∧
            Consistent (children.map (·.transmission)) members front ∧
            defect (children.map (·.transmission)) members front row = some reason ∧
            failure = .violation .conflict reason)) ∧
    (∀ children members (rows others : List ChildMemberEvidence) result later, rows ⊆ others →
      reduceChildEvidence .outcomeUnknown children members rows = .ok result →
      result ∈ terminalStates →
      reduceChildEvidence .outcomeUnknown children members others = .ok later →
        later = result ∨ later = .outcomeUnknown) ∧
    ∀ (verify : IssuedEffectSendTicket → Bytes → Transaction ReceiptObservation)
      (user : UserState β), ResolutionRun verify user →
      ∀ (family : Family),
        ∀ closure ∈ storedIn (EffectClosure family) user.snapshot.records,
      ∀ (services : EffectServices β) (runtime : Runtime) (binding : PostgresEffectsBinding)
        (outcome : AttemptState) (inventory : List String), services.verifyReceipt = verify →
        evidenceOutcome services runtime binding user.snapshot closure.streamId [] =
          .ok (outcome, inventory) →
        outcome = closure.outcome.state ∨ outcome = .outcomeUnknown := by
  refine ⟨fun _ _ _ _ _ same => reduceChildEvidence_order same,
    fun _ _ _ _ _ crossed manifest => reduceChildEvidence_error_iff crossed manifest,
    fun _ _ _ _ _ _ subset accepted terminal grown =>
      reduceChildEvidence_stable subset accepted terminal grown, ?_⟩
  intro verify user run family closure inside services runtime binding outcome inventory verifies
    returned
  obtain ⟨earlier, grows, others, other, rebound, complete, verified, closed⟩ := run.closing inside
  exact evidenceOutcome_grown grows (verifies.trans verified.symm) closed (outcome_terminal _)
    returned

end Recorded

/-! ### A call that is closed -/

section Returns

variable {β : Type} [Content β] [Hashlib] [EffectStores β] {runtime : Runtime}
  {binding : PostgresEffectsBinding} {peer callId : String} {intent : EffectSubject}
  {send : Retained EffectSend}

omit [Hashlib] [EffectStores β] in
theorem record_stored [CustodyRow α] [Stores β α] {value : α} {records : List (Record β)}
    (inside : record value ∈ records) : value ∈ storedIn α records := by
  obtain ⟨front, rest, rfl⟩ := List.append_of_mem inside
  rw [storedIn_append, ← List.singleton_append, storedIn_append, record, storedIn_written]
  simp

theorem evidenceOutcome_returns {services : EffectServices β} {snapshot : Snapshot β}
    {claim : Retained EffectClaim} {evidence : List (Retained EffectEvidence)}
    {members : List ExactHead} {observations : List ChildMemberEvidence} {state : AttemptState}
    (selected : subject runtime snapshot callId = .ok intent)
    (sent : sendRows runtime snapshot callId = .ok [send])
    (claimed : claimRows runtime snapshot callId = .ok [claim])
    (registered : bindingMatches services.now runtime binding intent false = .ok ())
    (retained : evidenceRows runtime snapshot callId = .ok evidence)
    (named : intent.preview.bundleMembers.mapM (fun member => do
      return exactHead (← identity member) (utf8 member)) = (.ok members : Transaction _))
    (observed : receiptObservations services runtime send members none evidence = .ok observations)
    (reduced : reduceChildEvidence .outcomeUnknown [send.2.transmission] members observations =
      .ok state) :
    evidenceOutcome services runtime binding snapshot callId [] =
      .ok (state, evidence.map (fun item => item.2.head)) := by
  simp only [evidenceOutcome, selected, sent, claimed, only, registered, retained, named, observed,
    ofChecked, reduced, List.append_nil, ok_bind]
  rfl

theorem resolveOriginalEffect_closes {services : ResolutionServices β} {user : UserState β}
    {state : AttemptState} {outcome : ClosureOutcome} {inventory : List String}
    {reductions : List (Retained EffectReduction)} {trustHead : String}
    {companion : List (Record β)} {after : Snapshot β} {invocation : EffectInvocation intent.family}
    {closure : EffectClosure intent.family} {reduction : EffectReduction intent.family}
    (current : runtime.actor services.effects.context peer user = .ok ())
    (selected : subject runtime user.snapshot callId = .ok intent)
    (sent : sendRows runtime user.snapshot callId = .ok [send])
    (reduced : evidenceOutcome services.effects runtime binding user.snapshot callId [] =
      .ok (state, inventory))
    (closes : ClosureOutcome.ofState? state = some outcome)
    (unclosed : closureRows runtime user.snapshot callId = .ok [])
    (earlier : reductionRows runtime user.snapshot callId = .ok reductions)
    (trusted : services.trustMaterializationHead = .ok trustHead)
    (invoked : preparedInvocation runtime intent send.2.head trustHead inventory = invocation)
    (closed : preparedClosure intent send.2.head invocation.head inventory outcome = closure)
    (rereduced : preparedReduction intent send.2.head closure.head inventory outcome = reduction)
    (ended : callCompanion services user.snapshot callId intent outcome = .ok companion)
    (appended : user.snapshot.append "effects.resolve" reduction.head
      (digest (canonicalBytes reduction).items).text
      (⟨invocation.head, "effects", Content.raw (Schema.schemaId (EffectInvocation intent.family))
        (Schema.wire invocation)⟩ :: record closure :: record reduction :: companion)
      user.snapshot.head = .ok after) :
    resolveOriginalEffect services runtime binding peer callId user =
      .ok (⟨after, user.worker⟩, ⟨intent.family, closure⟩) := by
  subst invoked closed rereduced
  have first : resolvedAlready [] reductions inventory = none := rfl
  simp only [resolveOriginalEffect, current, selected, sent, only, reduced, closes, unclosed, earlier,
    first, trusted, ended, List.head?_nil, Option.getD_none, if_true, List.cons_append,
    List.nil_append, appended, ok_bind]
  rfl

end Returns

section Sample

variable [Hashlib]

/-- The first receipt of the sample call, and what it was reduced to. -/
def sampleEvidence : EffectEvidence .tool :=
  effectHead
    { head := "pending"
      tenantId := "tenant"
      principalId := "hermetic-principal"
      streamId := "call"
      sendHead := (sampleSend sampleCall).head
      predecessorEvidence := none
      rawReceipt := [1] }

def sampleUnclosed : EffectReduction .tool :=
  effectHead
    { head := "pending"
      tenantId := "tenant"
      principalId := "hermetic-principal"
      streamId := "call"
      sendHead := (sampleSend sampleCall).head
      closureHead := none
      completeEvidenceHeads := [sampleEvidence.head]
      outcome := .confirmed }

def sampleInvocation : EffectInvocation .tool :=
  preparedInvocation sampleRuntime (sampleSubject sampleCall) (sampleSend sampleCall).head "trust-1"
    [sampleEvidence.head]

def sampleClosure : EffectClosure .tool :=
  preparedClosure (sampleSubject sampleCall) (sampleSend sampleCall).head sampleInvocation.head
    [sampleEvidence.head] .confirmed

def sampleReduction : EffectReduction .tool :=
  preparedReduction (sampleSubject sampleCall) (sampleSend sampleCall).head sampleClosure.head
    [sampleEvidence.head] .confirmed

def sampleResolution : ResolutionServices ClientValue :=
  { effects := sampleEffects sampleCall
    trustMaterializationHead := .ok "trust-1"
    terminalCall _ _ _ := .ok (some ("call/terminal", [0])) }

def receiptBatch (sequence : Nat) : Batch ClientValue :=
  ⟨"effects.receipt", sampleEvidence.head, "fingerprint", sequence,
    [record sampleEvidence, record sampleUnclosed]⟩

/-- The records of the resolution, in the order of their batch. -/
def closingRecords : List (Record ClientValue) :=
  [⟨sampleInvocation.head, "effects", .raw (Schema.schemaId (EffectInvocation .tool))
    (Schema.wire sampleInvocation)⟩, record sampleClosure, record sampleReduction,
    callStateRecord "call/terminal"]

def resolveBatch (sequence : Nat) : Batch ClientValue :=
  ⟨"effects.resolve", sampleReduction.head, (digest (canonicalBytes sampleReduction).items).text,
    sequence, closingRecords⟩

def retainedUser : UserState ClientValue :=
  sampleUser [adoptionBatch sampleCall 1, sendBatch sampleCall 2, claimBatch sampleCall 3,
    receiptBatch 4]

def resolvedUser : UserState ClientValue :=
  sampleUser [adoptionBatch sampleCall 1, sendBatch sampleCall 2, claimBatch sampleCall 3,
    receiptBatch 4, resolveBatch 5]

theorem sampleEvidence_self : effectHead sampleEvidence = sampleEvidence := headed_idem _ _

theorem sampleUnclosed_self : effectHead sampleUnclosed = sampleUnclosed := headed_idem _ _

theorem sampleInvocation_self : effectHead sampleInvocation = sampleInvocation := headed_idem _ _

theorem sampleClosure_self : effectHead sampleClosure = sampleClosure := headed_idem _ _

theorem sampleReduction_self : effectHead sampleReduction = sampleReduction := headed_idem _ _

omit [Hashlib] in
theorem sampleUser_records (batches more : List (Batch ClientValue)) :
    (sampleUser (batches ++ more)).snapshot.records =
      (sampleUser batches).snapshot.records ++ more.flatMap Batch.records :=
  List.flatMap_append

theorem retainedUser_records : retainedUser.snapshot.records =
    claimedUser.snapshot.records ++ (receiptBatch 4).records :=
  sampleUser_records [adoptionBatch sampleCall 1, sendBatch sampleCall 2, claimBatch sampleCall 3]
    [receiptBatch 4]

theorem closingRecords_schemas : closingRecords.map Record.schemaId =
    [Schema.schemaId (EffectInvocation .tool), Schema.schemaId (EffectClosure .tool),
      Schema.schemaId (EffectReduction .tool), "chiplog.agent-loop.native-call-state.v1"] := rfl

theorem resolvedUser_records : resolvedUser.snapshot.records =
    retainedUser.snapshot.records ++ closingRecords :=
  sampleUser_records [adoptionBatch sampleCall 1, sendBatch sampleCall 2, claimBatch sampleCall 3,
    receiptBatch 4] [resolveBatch 5]

/-- What an outcome of the sample call is read from. -/
structure ReadsSample (snapshot : Snapshot ClientValue) : Prop where
  tools : Reads NativeEffectIntentV1 sampleRuntime snapshot.records [sampleIntent sampleCall]
  plans : Reads PlanEffectIntent sampleRuntime snapshot.records []
  compensations : Reads CompensationEffectIntent sampleRuntime snapshot.records []
  sends : Reads (EffectSend .tool) sampleRuntime snapshot.records [sampleSend sampleCall]
  actionSends : Reads (EffectSend .action) sampleRuntime snapshot.records []
  claims : Reads (EffectClaim .tool) sampleRuntime snapshot.records [sampleClaim sampleCall]
  actionClaims : Reads (EffectClaim .action) sampleRuntime snapshot.records []
  evidence : Reads (EffectEvidence .tool) sampleRuntime snapshot.records [sampleEvidence]
  actionEvidence : Reads (EffectEvidence .action) sampleRuntime snapshot.records []

theorem retainedUser_schemas : retainedUser.snapshot.records.map Record.schemaId =
    ["chiplog.agent-loop.native-call-state.v1", Schema.schemaId NativeEffectIntentV1,
      Schema.schemaId (EffectSend .tool), Schema.schemaId (EffectClaim .tool),
      "chiplog.agent-loop.native-call-state.v1", AgentLoop.RunVersion.v2.schemaId,
      Schema.schemaId (EffectEvidence .tool), Schema.schemaId (EffectReduction .tool)] := rfl

theorem retainedUser_reads : ReadsSample retainedUser.snapshot := by
  have receipts : (receiptBatch 4).records.map Record.schemaId =
        [Schema.schemaId (EffectEvidence .tool), Schema.schemaId (EffectReduction .tool)] := rfl
  have intents : Reads NativeEffectIntentV1 sampleRuntime claimedUser.snapshot.records
      [sampleIntent sampleCall] := by
    rw [claimedUser_records]
    exact .foreign (by decide) (.own (sampleIntent_self _) rfl (.other (by decide)
      (.other (by decide) (.foreign (by decide) (.foreign (by decide) .nil)))))
  have sends : Reads (EffectSend .tool) sampleRuntime claimedUser.snapshot.records
      [sampleSend sampleCall] := by
    rw [claimedUser_records]
    exact .foreign (by decide) (.other (by decide) (.own (sampleSend_self _) rfl
      (.other (by decide) (.foreign (by decide) (.foreign (by decide) .nil)))))
  have evidence : Reads (EffectEvidence .tool) sampleRuntime retainedUser.snapshot.records
      [sampleEvidence] := by
    rw [retainedUser_records]
    exact (Reads.none (by rw [claimedUser_schemas]; decide)).append
      (.own sampleEvidence_self rfl (.other (by decide) .nil))
  refine ⟨?_, .none ?_, .none ?_, ?_, .none ?_, ?_, .none ?_, evidence, .none ?_⟩
  · rw [retainedUser_records]
    exact intents.apart (by rw [receipts]; decide)
  · rw [retainedUser_schemas]
    decide
  · rw [retainedUser_schemas]
    decide
  · rw [retainedUser_records]
    exact sends.apart (by rw [receipts]; decide)
  · rw [retainedUser_schemas]
    decide
  · rw [retainedUser_records]
    exact claimedUser_claims.apart (by rw [receipts]; decide)
  · rw [retainedUser_schemas]
    decide
  · rw [retainedUser_schemas]
    decide

theorem resolvedUser_reads : ReadsSample resolvedUser.snapshot := by
  obtain ⟨tools, plans, compensations, sends, actionSends, claims, actionClaims, evidence,
    actionEvidence⟩ := retainedUser_reads
  constructor
  all_goals rw [resolvedUser_records]
  · exact tools.apart (by rw [closingRecords_schemas]; decide)
  · exact plans.apart (by rw [closingRecords_schemas]; decide)
  · exact compensations.apart (by rw [closingRecords_schemas]; decide)
  · exact sends.apart (by rw [closingRecords_schemas]; decide)
  · exact actionSends.apart (by rw [closingRecords_schemas]; decide)
  · exact claims.apart (by rw [closingRecords_schemas]; decide)
  · exact actionClaims.apart (by rw [closingRecords_schemas]; decide)
  · exact evidence.apart (by rw [closingRecords_schemas]; decide)
  · exact actionEvidence.apart (by rw [closingRecords_schemas]; decide)

/-- The receipt names the one member of the call. -/
def sampleMember : ExactHead := exactHead ⟨"member", written _ trivial⟩ (utf8 "member")

theorem sampleRow_named : sampleEvidence.head ++ "/member/OCCURRED" ≠ "" := by
  intro empty
  have long : (sampleEvidence.head ++ "/member/OCCURRED").length = 0 := by rw [empty]; rfl
  rw [String.length_append] at long
  exact absurd (Nat.add_eq_zero_iff.mp long).2 (by decide)

def sampleRow : ChildMemberEvidence :=
  ⟨exactHead ⟨sampleEvidence.head ++ "/member/OCCURRED", sampleRow_named⟩
      ([1] ++ utf8 "member" ++ utf8 "OCCURRED"),
    (sampleSend sampleCall).transmission.transmission, sampleMember, .occurred⟩

theorem sampleMember_observed :
    memberObservation (sampleSend sampleCall).transmission.transmission [sampleMember]
      ⟨.tool, sampleEvidence⟩ .occurred "member" = .ok sampleRow := by
  have text : sampleEvidence.head ++ "/" ++ "member" ++ "/" ++ outcomeWire .occurred =
      sampleEvidence.head ++ "/member/OCCURRED" := by
    rw [String.append_assoc, String.append_assoc, String.append_assoc]
    rfl
  have named : identity (sampleEvidence.head ++ "/" ++ "member" ++ "/" ++ outcomeWire .occurred) =
      .ok ⟨sampleEvidence.head ++ "/member/OCCURRED", sampleRow_named⟩ := by
    rw [text]
    exact dif_pos sampleRow_named
  simp only [memberObservation, named, ok_bind]
  rfl

theorem sampleEvidence_observed (services : EffectServices ClientValue)
    (verifies : services.verifyReceipt = (sampleEffects sampleCall).verifyReceipt) :
    receiptObservations services sampleRuntime ⟨.tool, sampleSend sampleCall⟩ [sampleMember] none
      [⟨.tool, sampleEvidence⟩] = .ok [sampleRow] := by
  have verified : services.verifyReceipt (sampleSend sampleCall).ticket sampleEvidence.rawReceipt =
      .ok ⟨["member"], []⟩ := by
    rw [verifies]
    rfl
  have continues : sampleEvidence.sendHead = (sampleSend sampleCall).head ∧
      sampleEvidence.predecessorEvidence = none := ⟨rfl, rfl⟩
  have occurred : ["member"].mapM (memberObservation
      (sampleSend sampleCall).transmission.transmission [sampleMember] ⟨.tool, sampleEvidence⟩
        .occurred) = .ok [sampleRow] := by
    rw [List.mapM_cons, sampleMember_observed]
    rfl
  simp only [receiptObservations, require_pos continues, verified, occurred, ok_bind]
  rfl

omit [Hashlib] in
theorem manifest_single {child : TransmissionAttempt} {member : ExactHead}
    (first : child.ordinal.toNat = 0) : CompleteManifest [child] [member] := by
  refine ⟨List.cons_ne_nil _ _, List.cons_ne_nil _ _, List.nodup_singleton _,
    List.nodup_singleton _, ?_, ?_⟩
  · rw [List.map_singleton, first]
    rfl
  · intro head same other inside
    rw [List.mem_singleton.mp inside, ← Option.some.inj same]
    exact ⟨rfl, rfl, rfl, rfl, rfl⟩

omit [Hashlib] in
/-- One observation of the one pair decides the attempt. -/
theorem reduceChildEvidence_single {child : TransmissionAttempt} {member evidence : ExactHead}
    (first : child.ordinal.toNat = 0) :
    reduceChildEvidence .outcomeUnknown [child] [member]
      [⟨evidence, child.transmission, member, .occurred⟩] = .ok .confirmed := by
  have consistent : Consistent ([child].map (·.transmission)) [member]
      [⟨evidence, child.transmission, member, .occurred⟩] := ⟨by simp, by simp⟩
  obtain ⟨observed, observes⟩ := observe_consistent.mpr consistent
  have seen := observed_seen observes
  refine reduceChildEvidence_ok.mpr ⟨by decide, manifest_single first, observed, observes,
    drawn_confirmed.mpr ⟨?_, ?_⟩⟩
  · simp [Settled, Decided, seen, Seen]
  · simp [Happened, seen, Seen]

theorem sampleOutcome {services : EffectServices ClientValue} {snapshot : Snapshot ClientValue}
    (reads : ReadsSample snapshot)
    (verifies : services.verifyReceipt = (sampleEffects sampleCall).verifyReceipt) :
    evidenceOutcome services sampleRuntime sampleBinding snapshot "call" [] =
      .ok (.confirmed, [sampleEvidence.head]) := by
  have selected : subject sampleRuntime snapshot "call" = .ok (sampleSubject sampleCall) :=
    sampleSubject_reads sampleCall reads.tools (rfl : [sampleIntent sampleCall].filter _ = _)
      reads.plans reads.compensations
  have sent : sendRows sampleRuntime snapshot "call" = .ok [⟨.tool, sampleSend sampleCall⟩] :=
    familyRows_reads reads.sends reads.actionSends "call"
  have claimed : claimRows sampleRuntime snapshot "call" = .ok [⟨.tool, sampleClaim sampleCall⟩] :=
    familyRows_reads reads.claims reads.actionClaims "call"
  have retained : evidenceRows sampleRuntime snapshot "call" = .ok [⟨.tool, sampleEvidence⟩] :=
    familyRows_reads reads.evidence reads.actionEvidence "call"
  have registered : bindingMatches services.now sampleRuntime sampleBinding
      (sampleSubject sampleCall) false = .ok () :=
    sampleBinding_matches sampleCall (fun live => absurd live Bool.false_ne_true)
  exact evidenceOutcome_returns selected sent claimed registered retained rfl
    (sampleEvidence_observed services verifies) (reduceChildEvidence_single rfl)

theorem retainedUser_unclosed : closureRows sampleRuntime retainedUser.snapshot "call" = .ok [] :=
  familyRows_reads (.none (by rw [retainedUser_schemas]; decide))
    (.none (by rw [retainedUser_schemas]; decide)) "call"

theorem retainedUser_reductions : reductionRows sampleRuntime retainedUser.snapshot "call" =
    .ok [⟨.tool, sampleUnclosed⟩] := by
  have tools : Reads (EffectReduction .tool) sampleRuntime retainedUser.snapshot.records
      [sampleUnclosed] := by
    rw [retainedUser_records]
    exact (Reads.none (by rw [claimedUser_schemas]; decide)).append
      (.other (by decide) (.own sampleUnclosed_self rfl .nil))
  exact familyRows_reads tools (.none (by rw [retainedUser_schemas]; decide)) "call"

end Sample

section Edges

attribute [local instance] edgeHash

/-- A record id stands for what the edges of its record show, and any other id for itself. -/
def idMark (shows : Bytes → γ) (id : String) : String ⊕ γ :=
  if id.toList.take 7 = "effect:".toList then .inr (shows ((fromhex (id.toList.drop 7)).getD []))
  else .inl id

theorem idMark_head [CustodyRow α] {value : α} (self : effectHead value = value)
    (shows : Bytes → γ) : idMark shows (CustodyRow.head value) =
      .inr (shows (edgeBytes (Schema.wire (CustodyRow.withHead "pending" value)))) := by
  have read : (fromhex ((CustodyRow.head value).toList.drop 7)).getD [] =
      edgeBytes (Schema.wire (CustodyRow.withHead "pending" value)) := by
    conv_lhs => rw [← self, effectHead, headed, CustodyRow.head_withHead, String.toList_append]
    exact congrArg (Option.getD · [])
      (fromhex_hex (edgeBytes (Schema.wire (CustodyRow.withHead "pending" value))))
  have led : (CustodyRow.head value).toList.take 7 = "effect:".toList := by
    rw [← self]
    exact effectHead_led value
  rw [idMark, if_pos led, read]

/-- The bytes that tell the records of the sample call apart. -/
def kindMark (edges : Bytes) : UInt8 × UInt8 :=
  if edges.getD 2 0 = 104 then (104, edges.getD 21 0)
  else if edges.getD 2 0 = 99 then
    (99, if edges.getD 3 0 = 108 then edges.getD 16 0 else edges.getD 21 0)
  else (edges.getD 2 0, 0)

/-- The bytes by which the records of a closed call differ. -/
structure ClosingLiterals : Prop where
  tenant : (utf8 (Json.quote "tenant_id" ++ ":" ++ Json.dumps (.str "tenant") ++
    "\x7d")).reverse[2]? = some 116
  worker : (utf8 (Json.quote "worker" ++ ":" ++ Json.dumps
    (.str "postgres:hermetic-principal:credential:session") ++ "\x7d")).reverse[2]? = some 110
  trust : (utf8 (Json.quote "trust_materialization_head" ++ ":" ++ Json.dumps (.str "trust-1") ++
    "\x7d")).reverse[2]? = some 49
  complete : (utf8 ("\x7b" ++ Json.quote "complete_evidence_heads"))[2]? = some 99
  completeNext : (utf8 ("\x7b" ++ Json.quote "complete_evidence_heads"))[3]? = some 111
  closure : (utf8 ("\x7b" ++ Json.quote "closure_head"))[2]? = some 99
  closureNext : (utf8 ("\x7b" ++ Json.quote "closure_head"))[3]? = some 108
  unclosed : (utf8 ("\x7b" ++ (Json.quote "closure_head" ++ ":" ++ Json.dumps .null)))[16]? =
    some 110
  closed : (utf8 ("\x7b" ++ Json.quote "closure_head" ++ ":\""))[16]? = some 34

theorem closingLiterals : ClosingLiterals := by
  constructor <;> decide +kernel

theorem evidence_edge (literals : EmissionLiterals) (value : EffectEvidence .tool) :
    headEdge value 2 = 104 := by
  have least : Json.Extreme (· ≤ ·) (modelDump (CustodyRow.withHead "pending" value))
      ["schema_id", "head", "tenant_id", "principal_id", "original_call_id", "send_head",
        "predecessor_evidence", "raw_receipt"] "head" (.str "pending") :=
    ⟨by simp [modelDump, CustodyRow.withHead, Family.common], rfl, by decide, by decide⟩
  exact edge_key least literals.claim (by decide)

theorem evidence_back (literals : ClosingLiterals) (value : EffectEvidence .tool)
    (tenant : value.tenantId = "tenant") : headEdge value 21 = 116 := by
  have greatest : Json.Extreme (· ≥ ·) (modelDump (CustodyRow.withHead "pending" value))
      ["schema_id", "head", "tenant_id", "principal_id", "original_call_id", "send_head",
        "predecessor_evidence", "raw_receipt"] "tenant_id" (.str value.tenantId) :=
    ⟨by simp [modelDump, CustodyRow.withHead, Family.common], rfl, by decide, by decide⟩
  rw [tenant] at greatest
  exact @edge_last 2 _ _ _ _ _ greatest literals.tenant (by decide)

theorem claim_back (literals : ClosingLiterals) (value : EffectClaim .tool)
    (worker : value.worker = "postgres:hermetic-principal:credential:session") :
    headEdge value 21 = 110 := by
  have greatest : Json.Extreme (· ≥ ·) (modelDump (CustodyRow.withHead "pending" value))
      ["schema_id", "head", "tenant_id", "principal_id", "original_call_id", "send_head", "worker"]
      "worker" (toJson value.worker) :=
    ⟨by simp [modelDump, CustodyRow.withHead], rfl, by decide, by decide⟩
  rw [worker] at greatest
  exact @edge_last 2 _ _ _ _ _ greatest literals.worker (by decide)

theorem invocation_edge (literals : ClosingLiterals) (value : EffectInvocation .tool) :
    headEdge value 2 = 99 ∧ headEdge value 3 = 111 := by
  have least : Json.Extreme (· ≤ ·) (modelDump (CustodyRow.withHead "pending" value))
      ["schema_id", "head", "tenant_id", "principal_id", "original_call_id", "send_head",
        "credential_id", "session_id", "trust_materialization_head", "complete_evidence_heads"]
      "complete_evidence_heads" (toJson value.completeEvidenceHeads) :=
    ⟨by simp [modelDump, CustodyRow.withHead], rfl, by decide, by decide⟩
  exact ⟨edge_key least literals.complete (by decide),
    edge_key least literals.completeNext (by decide)⟩

theorem invocation_back (literals : ClosingLiterals) (value : EffectInvocation .tool)
    (trust : value.trustMaterializationHead = "trust-1") : headEdge value 21 = 49 := by
  have greatest : Json.Extreme (· ≥ ·) (modelDump (CustodyRow.withHead "pending" value))
      ["schema_id", "head", "tenant_id", "principal_id", "original_call_id", "send_head",
        "credential_id", "session_id", "trust_materialization_head", "complete_evidence_heads"]
      "trust_materialization_head" (toJson value.trustMaterializationHead) :=
    ⟨by simp [modelDump, CustodyRow.withHead], rfl, by decide, by decide⟩
  rw [trust] at greatest
  exact @edge_last 2 _ _ _ _ _ greatest literals.trust (by decide)

theorem closure_edge (literals : ClosingLiterals) (value : EffectClosure .tool) :
    headEdge value 2 = 99 ∧ headEdge value 3 = 111 := by
  have least : Json.Extreme (· ≤ ·) (modelDump (CustodyRow.withHead "pending" value))
      ["schema_id", "head", "tenant_id", "principal_id", "original_call_id", "obligation_id",
        "send_head", "invocation_head", "complete_evidence_heads", "outcome"]
      "complete_evidence_heads" (toJson value.completeEvidenceHeads) :=
    ⟨by simp [modelDump, CustodyRow.withHead], rfl, by decide, by decide⟩
  exact ⟨edge_key least literals.complete (by decide),
    edge_key least literals.completeNext (by decide)⟩

theorem closure_back (literals : ClosingLiterals) (value : EffectClosure .tool)
    (tenant : value.tenantId = "tenant") : headEdge value 21 = 116 := by
  have greatest : Json.Extreme (· ≥ ·) (modelDump (CustodyRow.withHead "pending" value))
      ["schema_id", "head", "tenant_id", "principal_id", "original_call_id", "obligation_id",
        "send_head", "invocation_head", "complete_evidence_heads", "outcome"]
      "tenant_id" (.str value.tenantId) :=
    ⟨by simp [modelDump, CustodyRow.withHead, Family.common], rfl, by decide, by decide⟩
  rw [tenant] at greatest
  exact @edge_last 2 _ _ _ _ _ greatest literals.tenant (by decide)

theorem reduction_least (value : EffectReduction .tool) :
    Json.Extreme (· ≤ ·) (modelDump (CustodyRow.withHead "pending" value))
      ["schema_id", "head", "tenant_id", "principal_id", "original_call_id", "send_head",
        "closure_head", "complete_evidence_heads", "outcome"] "closure_head"
      (toJson value.closureHead) :=
  ⟨by simp [modelDump, CustodyRow.withHead], rfl, by decide, by decide⟩

theorem reduction_edge (literals : ClosingLiterals) (value : EffectReduction .tool) :
    headEdge value 2 = 99 ∧ headEdge value 3 = 108 :=
  ⟨edge_key (reduction_least value) literals.closure (by decide),
    edge_key (reduction_least value) literals.closureNext (by decide)⟩

theorem reduction_unclosed (literals : ClosingLiterals) (value : EffectReduction .tool)
    (unclosed : value.closureHead = none) : headEdge value 16 = 110 := by
  have least := reduction_least value
  rw [unclosed] at least
  exact edge_first least literals.unclosed (by decide)

theorem reduction_closed (literals : ClosingLiterals) (value : EffectReduction .tool)
    {head : String} (closed : value.closureHead = some head) : headEdge value 16 = 34 := by
  have least := reduction_least value
  rw [closed] at least
  exact edge_text least literals.closed (by decide)

/-- The ids of the log that the resolution leaves. -/
theorem resolvedUser_distinct : (["call/accepted", CustodyRow.head (sampleIntent sampleCall),
    CustodyRow.head (sampleSend sampleCall), CustodyRow.head (sampleClaim sampleCall),
    "call/unknown", "call/run", CustodyRow.head sampleEvidence, CustodyRow.head sampleUnclosed,
    CustodyRow.head sampleInvocation, CustodyRow.head sampleClosure,
    CustodyRow.head sampleReduction, "call/terminal"] : List String).Nodup := by
  have intent : idMark kindMark (CustodyRow.head (sampleIntent sampleCall)) = .inr (97, 0) := by
    have edge := nativeIntent_edge emissionLiterals (sampleIntent sampleCall)
    rw [headEdge] at edge
    rw [idMark_head (sampleIntent_self _), kindMark, edge]
    rfl
  have send : idMark kindMark (CustodyRow.head (sampleSend sampleCall)) = .inr (103, 0) := by
    have edge := send_edge emissionLiterals (sampleSend sampleCall)
    rw [headEdge] at edge
    rw [idMark_head (sampleSend_self _), kindMark, edge]
    rfl
  have claim : idMark kindMark (CustodyRow.head (sampleClaim sampleCall)) = .inr (104, 110) := by
    have edge := claim_edge emissionLiterals (sampleClaim sampleCall)
    have back := claim_back closingLiterals (sampleClaim sampleCall) rfl
    rw [headEdge] at edge back
    rw [idMark_head (sampleClaim_self _), kindMark, edge, back]
    rfl
  have evidence : idMark kindMark (CustodyRow.head sampleEvidence) = .inr (104, 116) := by
    have edge := evidence_edge emissionLiterals sampleEvidence
    have back := evidence_back closingLiterals sampleEvidence rfl
    rw [headEdge] at edge back
    rw [idMark_head sampleEvidence_self, kindMark, edge, back]
    rfl
  have unclosed : idMark kindMark (CustodyRow.head sampleUnclosed) = .inr (99, 110) := by
    obtain ⟨edge, next⟩ := reduction_edge closingLiterals sampleUnclosed
    have null := reduction_unclosed closingLiterals sampleUnclosed rfl
    rw [headEdge] at edge next null
    rw [idMark_head sampleUnclosed_self, kindMark, edge, next, null]
    rfl
  have invocation : idMark kindMark (CustodyRow.head sampleInvocation) = .inr (99, 49) := by
    obtain ⟨edge, next⟩ := invocation_edge closingLiterals sampleInvocation
    have back := invocation_back closingLiterals sampleInvocation rfl
    rw [headEdge] at edge next back
    rw [idMark_head sampleInvocation_self, kindMark, edge, next, back]
    rfl
  have closure : idMark kindMark (CustodyRow.head sampleClosure) = .inr (99, 116) := by
    obtain ⟨edge, next⟩ := closure_edge closingLiterals sampleClosure
    have back := closure_back closingLiterals sampleClosure rfl
    rw [headEdge] at edge next back
    rw [idMark_head sampleClosure_self, kindMark, edge, next, back]
    rfl
  have reduction : idMark kindMark (CustodyRow.head sampleReduction) = .inr (99, 34) := by
    obtain ⟨edge, next⟩ := reduction_edge closingLiterals sampleReduction
    have text := reduction_closed closingLiterals sampleReduction rfl
    rw [headEdge] at edge next text
    rw [idMark_head sampleReduction_self, kindMark, edge, next, text]
    rfl
  have outside : ∀ text ∈ ["call/accepted", "call/unknown", "call/run", "call/terminal"],
      idMark kindMark text = .inl text := fun text inside => if_neg (by revert text; decide)
  simp only [List.forall_mem_cons, List.not_mem_nil, false_implies, implies_true,
    and_true] at outside
  apply List.Nodup.of_map (idMark kindMark)
  simp only [List.map_cons, List.map_nil, intent, send, claim, evidence, unclosed, invocation,
    closure, reduction, outside]
  decide

theorem unused_operation {snapshot : Snapshot ClientValue} {operation key : String}
    (unused : operation ∉ snapshot.batches.map Batch.operation) :
    (operation, key) ∉ snapshot.batches.map Batch.identity := by
  intro inside
  obtain ⟨batch, member, same⟩ := List.mem_map.mp inside
  exact unused (List.mem_map.mpr ⟨batch, member, congrArg Prod.fst same⟩)

theorem retainedUser_appended : claimedUser.snapshot.append "effects.receipt" sampleEvidence.head
    "fingerprint" (receiptBatch 4).records claimedUser.snapshot.head =
      .ok retainedUser.snapshot := by
  have ids : claimedUser.snapshot.recordIds ++ (receiptBatch 4).records.map Record.recordId =
      ["call/accepted", CustodyRow.head (sampleIntent sampleCall),
        CustodyRow.head (sampleSend sampleCall), CustodyRow.head (sampleClaim sampleCall),
        "call/unknown", "call/run", CustodyRow.head sampleEvidence,
        CustodyRow.head sampleUnclosed] := rfl
  have operations : claimedUser.snapshot.batches.map Batch.operation =
      ["effects.adopt", "effects.first-send", "effects.emit-claim"] := rfl
  have sequences : claimedUser.snapshot.batches.map Batch.sequence = [1, 2, 3] := rfl
  refine append_returns (unused_operation ?_) ?_ ?_
  · rw [operations]
    decide
  · rw [sequences]
    decide
  · rw [ids]
    exact (List.nodup_append.mp resolvedUser_distinct).1

theorem resolvedUser_appended : retainedUser.snapshot.append "effects.resolve" sampleReduction.head
    (digest (canonicalBytes sampleReduction).items).text closingRecords retainedUser.snapshot.head =
      .ok resolvedUser.snapshot := by
  have ids : retainedUser.snapshot.recordIds ++ closingRecords.map Record.recordId =
      ["call/accepted", CustodyRow.head (sampleIntent sampleCall),
        CustodyRow.head (sampleSend sampleCall), CustodyRow.head (sampleClaim sampleCall),
        "call/unknown", "call/run", CustodyRow.head sampleEvidence, CustodyRow.head sampleUnclosed,
        CustodyRow.head sampleInvocation, CustodyRow.head sampleClosure,
        CustodyRow.head sampleReduction, "call/terminal"] := rfl
  have operations : retainedUser.snapshot.batches.map Batch.operation =
      ["effects.adopt", "effects.first-send", "effects.emit-claim", "effects.receipt"] := rfl
  have sequences : retainedUser.snapshot.batches.map Batch.sequence = [1, 2, 3, 4] := rfl
  refine append_returns (unused_operation ?_) ?_ ?_
  · rw [operations]
    decide
  · rw [sequences]
    decide
  · rw [ids]
    exact resolvedUser_distinct

theorem resolves : resolveOriginalEffect sampleResolution sampleRuntime sampleBinding "local-cli"
    "call" retainedUser = .ok (resolvedUser, ⟨.tool, sampleClosure⟩) := by
  have reads := retainedUser_reads
  have selected : subject sampleRuntime retainedUser.snapshot "call" =
      .ok (sampleSubject sampleCall) :=
    sampleSubject_reads sampleCall reads.tools (rfl : [sampleIntent sampleCall].filter _ = _)
      reads.plans reads.compensations
  have sent : sendRows sampleRuntime retainedUser.snapshot "call" =
      .ok [⟨.tool, sampleSend sampleCall⟩] := familyRows_reads reads.sends reads.actionSends "call"
  have current : sampleRuntime.actor sampleResolution.effects.context "local-cli" retainedUser =
      .ok () := rfl
  have closes : ClosureOutcome.ofState? .confirmed = some .confirmed := rfl
  have trusted : sampleResolution.trustMaterializationHead = .ok "trust-1" := rfl
  have ended : callCompanion sampleResolution retainedUser.snapshot "call"
      (sampleSubject sampleCall) .confirmed = .ok [callStateRecord "call/terminal"] := rfl
  have invoked : preparedInvocation sampleRuntime (sampleSubject sampleCall)
      (sampleSend sampleCall).head "trust-1" [sampleEvidence.head] = sampleInvocation := rfl
  have closed : preparedClosure (sampleSubject sampleCall) (sampleSend sampleCall).head
      sampleInvocation.head [sampleEvidence.head] .confirmed = sampleClosure := rfl
  have rereduced : preparedReduction (sampleSubject sampleCall) (sampleSend sampleCall).head
      sampleClosure.head [sampleEvidence.head] .confirmed = sampleReduction := rfl
  exact resolveOriginalEffect_closes current selected sent (sampleOutcome reads rfl) closes
    retainedUser_unclosed retainedUser_reductions trusted invoked closed rereduced ended
    resolvedUser_appended

theorem holds_no_closure {records : List (Record ClientValue)} (schemas : List String)
    (read : records.map Record.schemaId = schemas)
    (apart : ∀ schema ∈ [Family.tool.closureSchema, Family.action.closureSchema],
      schema ∉ schemas) :
    ∀ item ∈ records, ∀ family : Family, item.schemaId ≠ family.closureSchema := by
  subst read
  intro item inside family same
  refine apart family.closureSchema ?_ (List.mem_map.mpr ⟨item, inside, same⟩)
  cases family <;> decide

theorem resolvedUser_run :
    ResolutionRun (sampleEffects sampleCall).verifyReceipt resolvedUser := by
  have opened : ResolutionRun (sampleEffects sampleCall).verifyReceipt
      (⟨Snapshot.empty, some "token"⟩ : UserState ClientValue) := .opened _
  have adopted : ResolutionRun _ adoptedUser := opened.appended
    (holds_no_closure ["chiplog.agent-loop.native-call-state.v1",
      Schema.schemaId NativeEffectIntentV1] rfl (by decide)) adopts
  have sent : ResolutionRun _ sentUser := adopted.appended
    (holds_no_closure [Schema.schemaId (EffectSend .tool)] rfl (by decide))
    sentUser_appended
  have claimed : ResolutionRun _ claimedUser := sent.appended
    (holds_no_closure [Schema.schemaId (EffectClaim .tool),
      "chiplog.agent-loop.native-call-state.v1", AgentLoop.RunVersion.v2.schemaId] rfl (by decide))
    claimedUser_appended
  have retained : ResolutionRun _ retainedUser := claimed.appended
    (holds_no_closure [Schema.schemaId (EffectEvidence .tool),
      Schema.schemaId (EffectReduction .tool)] rfl (by decide)) retainedUser_appended
  exact retained.resolved rfl resolves

/-- Repeated observations, the text of the first of two defects, and the closure of a call whose
receipt is read again. -/
theorem evidence_order_and_stability_sample :
    reduceChildEvidence .sent [sampleChild, repeatedChild] [firstMember, secondMember]
        (decidedRows.reverse ++ decidedRows) = .ok .confirmed ∧
      reduceChildEvidence .outcomeUnknown [sampleChild] [firstMember]
        [ownRow, rivalRow, strayRow] =
          .error (.violation .conflict "rival evidence identity") ∧
      (∀ later, reduceChildEvidence .outcomeUnknown [sampleChild] [firstMember] [ownRow, ownRow] =
        .ok later → later = .confirmed ∨ later = .outcomeUnknown) ∧
      ∃ closure ∈ storedIn (EffectClosure .tool) resolvedUser.snapshot.records,
        ∃ outcome inventory, evidenceOutcome (sampleEffects sampleCall) sampleRuntime sampleBinding
            resolvedUser.snapshot closure.streamId [] = .ok (outcome, inventory) ∧
          (outcome = closure.outcome.state ∨ outcome = .outcomeUnknown) := by
  obtain ⟨ordered, first, stable, recorded⟩ := @evidence_order_and_stability ClientValue _ _ _
  refine ⟨?_, ?_, ?_, ?_⟩
  · have same := ordered .sent [sampleChild, repeatedChild] [firstMember, secondMember]
      (decidedRows.reverse ++ decidedRows) decidedRows (by simp)
    rcases same with equal | ⟨_, _, _, rejected⟩
    · exact equal
    · cases rejected
  · exact (first _ _ _ _ _ (by decide) (manifest_single rfl)).mpr ⟨[ownRow], rivalRow, [strayRow], _,
      rfl, ⟨by decide, by decide⟩, rfl, rfl⟩
  · exact fun later => stable [sampleChild] [firstMember] [ownRow] [ownRow, ownRow] .confirmed later
      (by decide) rfl (by decide)
  · have inside : sampleClosure ∈ storedIn (EffectClosure .tool) resolvedUser.snapshot.records := by
      rw [resolvedUser_records]
      exact record_stored (List.mem_append_right _ (List.mem_cons_of_mem _ List.mem_cons_self))
    have returned := @sampleOutcome _ (sampleEffects sampleCall) _ resolvedUser_reads rfl
    exact ⟨sampleClosure, inside, _, _, returned,
      recorded _ _ resolvedUser_run .tool _ inside _ _ _ _ _ rfl returned⟩

end Edges

end Chiplog.Composition
