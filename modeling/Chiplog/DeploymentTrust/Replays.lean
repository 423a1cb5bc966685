import Chiplog.DeploymentTrust.EmergencyRecovery
import Chiplog.DeploymentTrust.PollCursors

namespace Chiplog.DeploymentTrust

open Chiplog.Data

/-! Commands that answer again.

Each of the five commands recognizes its own repetition by another part of the authority.
`Retained` names that part for a command that was answered; decisions keep it, and from it
the answer to the repeated command follows. -/

inductive Command where
  | bootstrap (request : BootstrapRequest)
  | issueTransportWitness (request : WitnessRequest)
  | recordPollResponsePage (report : PageReport)
  | authorizePollCursor (sourceId cursor pageId : String) (cursorSequence : Int)
  | applyPollCursor (sourceId cursor : String)

inductive Answer where
  | decision (id : String)
  | witness (issued : TransportOriginWitness)
deriving DecidableEq

def Outcome.map {α β : Type} (change : α → β) : Outcome α → Outcome β
  | .returned value => .returned (change value)
  | .decides kind payload settle =>
      .decides kind payload fun decision service =>
        ((settle decision service).1, change (settle decision service).2)

def Command.operation : Command → Operation
  | .bootstrap request => .bootstrap request
  | .issueTransportWitness request => .issueTransportWitness request
  | .recordPollResponsePage report => .recordPollResponsePage report
  | .authorizePollCursor sourceId cursor pageId cursorSequence =>
      .authorizePollCursor sourceId cursor pageId cursorSequence
  | .applyPollCursor sourceId cursor => .applyPollCursor sourceId cursor

section

variable [Hashlib] [PageReader] {service : Service} {request : WitnessRequest}
  {cursorSequence : Int}

def Command.plan (service : Service) : Command → Except TrustError (Outcome Answer)
  | .bootstrap request => (DeploymentTrust.bootstrap service request).map (.map .decision)
  | .issueTransportWitness request =>
      (DeploymentTrust.issueTransportWitness service request).map (.map .witness)
  | .recordPollResponsePage report =>
      (DeploymentTrust.recordPollResponsePage service report).map (.map .decision)
  | .authorizePollCursor sourceId cursor pageId cursorSequence =>
      (DeploymentTrust.authorizePollCursor service sourceId cursor pageId cursorSequence).map
        (.map .decision)
  | .applyPollCursor sourceId cursor =>
      (DeploymentTrust.applyPollCursor service sourceId cursor).map (.map .decision)

/-- The command with its answer. -/
def Command.answered (command : Command) (service : Service) (ports : Ports) :
    Except TrustError (Answer × Service × Ports) := do
  let outcome ← command.plan service
  outcome.perform service ports

/-- The command raises `TrustInvariantError`, or answers so and changes nothing. -/
def Command.Repeats (command : Command) (service : Service) (ports : Ports)
    (same : Answer → Prop) : Prop :=
  (∃ reason, command.answered service ports = .error (.invariant reason)) ∨
    ∃ answer, command.answered service ports = .ok (answer, service, ports) ∧ same answer

theorem Command.plan_operation (command : Command) (service : Service) (journal : List Entry) :
    command.operation.plan service journal = (command.plan service).map Outcome.void := by
  have twice {α : Type} (plan : Except TrustError (Outcome α)) (change : α → Answer) :
      plan.map Outcome.void = (plan.map (Outcome.map change)).map Outcome.void := by
    rcases plan with _ | outcome
    · rfl
    · cases outcome <;> rfl
  cases command <;> exact twice _ _

/-! The authority of a journal. -/

omit [Hashlib] [PageReader] in
theorem envelope_inj {first second : Kind} {left right : List (String × Json)}
    {before after : Option String}
    (same : envelope first.text left before = envelope second.text right after) :
    first = second ∧ left = right := by
  simp only [envelope, Json.obj.injEq, List.cons.injEq, Prod.mk.injEq, true_and, and_true,
    Json.str.injEq] at same
  refine ⟨?_, same.2.1⟩
  have text := congrArg Kind.ofText? same.1
  rw [Kind.ofText?_text, Kind.ofText?_text] at text
  exact Option.some.inj text

/-- A journal amounts to one authority, however it came about. -/
theorem Decided.unique {journal : List Entry} {rows others : List Row}
    {authority other : Authority} (history : Decided journal rows authority)
    (again : Decided journal others other) : other = authority := by
  induction history generalizing others other with
  | empty => exact again.authority_initial.2
  | @decide journal rows service operation kind payload settle before planned ih =>
      generalize whole : journal ++ [decisionEntry journal kind payload] = extended at again
      cases again with
      | empty => simp at whole
      | @decide earlier _ another repeated otherKind otherPayload otherSettle past isPlan =>
          obtain ⟨rfl, last⟩ := List.append_inj' whole rfl
          have bodies := congrArg HashChain.Entry.body (List.cons.inj last).1
          obtain ⟨rfl, rfl⟩ := envelope_inj bodies
          have reached := (Operation.plan_sound planned).2 (decisionEntry journal kind payload).id
          have arrived := (Operation.plan_sound isPlan).2 (decisionEntry journal kind payload).id
          have first := reached.rebuilt ""
          have second := arrived.rebuilt ""
          rw [ih past] at second
          exact Except.ok.inj (second.symm.trans first)

/-- The journal of the world amounts to an authority of which `kept` holds. -/
def World.Holds (kept : Authority → Prop) (world : World) : Prop :=
  ∃ rows authority, Decided world.ports.journal rows authority ∧ kept authority

/-- Allowed decisions keep a fact about the authority. -/
def KeptBy (allowed : World → Event → Prop) (kept : Authority → Prop) : Prop :=
  ∀ (world : World) (service : Service) (operation : Operation) (kind : Kind)
    (payload : List (String × Json)) (settle : String → Service → Service × Unit)
    (decision : String), (allowed world (.call operation) ∨ allowed world (.interrupt operation)) →
    operation.plan service world.ports.journal = .ok (.decides kind payload settle) →
    kept service.toAuthority →
    kept (settle decision (service.materializedAt decision)).1.toAuthority

theorem Step.holds {allowed : World → Event → Prop} {kept : Authority → Prop}
    {before after : World} {event : Event} (step : Step before event after)
    (allows : allowed before event) (keeps : KeptBy allowed kept)
    (consistent : before.Consistent) (holds : before.Holds kept) : after.Holds kept := by
  obtain ⟨rows, authority, history, known⟩ := holds
  rcases step.journal_cases with same |
    ⟨service, operation, kind, payload, settle, live, isEvent, planned, grown⟩
  · exact ⟨rows, authority, same ▸ history, known⟩
  · obtain ⟨others, other, again, _, agrees⟩ := consistent
    have stands : service.toAuthority = authority :=
      (agrees service live).authority_eq.trans (history.unique again)
    obtain rfl := stands
    refine ⟨_, _, grown ▸ history.decide planned, keeps before service operation kind payload
      settle _ ?_ planned known⟩
    rcases isEvent with rfl | rfl
    · exact .inl allows
    · exact .inr allows

theorem Run.holds {allowed : World → Event → Prop} {kept : Authority → Prop}
    {start world : World} (run : Run allowed start world) (keeps : KeptBy allowed kept)
    (begin : start.Consistent) (free : CollisionFree world.ports.journal)
    (holds : start.Holds kept) : world.Holds kept := by
  induction run with
  | start => exact holds
  | @step before after event run allows step ih =>
      obtain ⟨more, extended⟩ := step.journal_prefix
      have earlier : CollisionFree before.ports.journal := CollisionFree.left (extended ▸ free)
      exact step.holds allows keeps (run.consistent begin earlier) (ih earlier)

/-- What holds of a world holds of the service that runs there. -/
theorem World.Holds.live {kept : Authority → Prop} {ports : Ports}
    (holds : World.Holds kept ⟨some service, ports⟩)
    (consistent : World.Consistent ⟨some service, ports⟩) :
    kept service.toAuthority ∧ service.Grounded := by
  obtain ⟨rows, authority, history, known⟩ := holds
  obtain ⟨others, other, again, _, agrees⟩ := consistent
  have current := agrees service rfl
  have same := current.authority_eq.trans (history.unique again)
  refine ⟨same ▸ known, ?_⟩
  intro unset
  have empty : ports.journal = [] := current.unset unset
  rw [empty] at history
  exact same.trans history.authority_initial.2

/-! Witnesses and their replay identities. -/

omit [PageReader] in
theorem issueTransportWitness_decides {kind : Kind}
    {payload : List (String × Json)} {settle : String → Service → Service × TransportOriginWitness}
    (planned : issueTransportWitness service request = .ok (.decides kind payload settle)) :
    service.credential ≠ none ∧ request.replayIdentity ∉ service.consumedReplays ∧
    service.witnesses.get? request.witnessId = none ∧
    ∃ witness, witness.replayIdentity = request.replayIdentity ∧
      ∀ decision, (settle decision (service.materializedAt decision)).2 = witness ∧
        (settle decision (service.materializedAt decision)).1.witnesses =
          service.witnesses.set request.witnessId witness ∧
        (settle decision (service.materializedAt decision)).1.consumedReplays =
          insert request.replayIdentity service.consumedReplays := by
  obtain ⟨state, _, planned⟩ := bind_ok.mp planned
  obtain ⟨credential, held, planned⟩ := bind_ok.mp planned
  have held := asserted_ok.mp held
  dsimp only at planned
  split at planned
  · split at planned
    · cases planned
    · split at planned <;> cases planned
  · rename_i fresh
    obtain ⟨_, unknown, planned⟩ := bind_ok.mp planned
    have unknown := raiseIf_ok.mp unknown
    rw [Option.not_isSome_iff_eq_none] at unknown
    cases planned
    refine ⟨?_, fresh, unknown, _, ?_, fun _ => ⟨rfl, rfl, rfl⟩⟩
    · rw [held]
      exact Option.some_ne_none credential
    · rfl

/-- What a decision other than a witness leaves of the witnesses; a credential stays one. -/
structure LeavesWitnesses (kind : Kind) (before after : Authority) : Prop where
  witnesses : kind ≠ .transportWitness → after.witnesses = before.witnesses ∧
    after.consumedReplays = before.consumedReplays
  credential : before.credential ≠ none → after.credential ≠ none

omit [Hashlib] [PageReader] in
theorem rebuildDecision_witnesses {authority after : Authority} {decision recordType : String}
    {kind : Kind} {payload : List (String × Json)}
    (rebuilt : rebuildDecision authority decision (record decision kind.text recordType payload) =
      .ok after) : LeavesWitnesses kind authority after := by
  unfold rebuildDecision at rebuilt
  have named : textAt (record decision kind.text recordType payload) "operation_kind" =
      .ok kind.text := by simp [record]
  rw [named, ok_bind, Kind.ofText?_text] at rebuilt
  cases kind
  all_goals
    dsimp only at rebuilt
    repeat obtain ⟨_, _, rebuilt⟩ := bind_ok.mp rebuilt
    try split at rebuilt
  all_goals
    cases rebuilt
    constructor <;> simp_all

/-- The replay identity of every witness is used up. -/
def Consumed (authority : Authority) : Prop :=
  ∀ witness ∈ authority.witnesses.values, witness.replayIdentity ∈ authority.consumedReplays

omit [Hashlib] [PageReader] in
theorem values_set_absent {κ β : Type} [DecidableEq κ] {dict : Dict κ β} {key : κ}
    (absent : dict.get? key = none) (value : β) :
    (dict.set key value).values = dict.values ++ [value] := by
  rw [Dict.values, Dict.entries_set_absent (Dict.get?_eq_none_iff.mp absent), List.map_append]
  rfl

theorem Decided.consumed {journal : List Entry} {rows : List Row} {authority : Authority}
    (history : Decided journal rows authority) : Consumed authority := by
  induction history with
  | empty =>
      intro witness impossible
      cases impossible
  | @decide journal rows service operation kind payload settle before planned ih =>
      obtain ⟨isKind, settles⟩ := Operation.plan_sound planned
      have leaves := rebuildDecision_witnesses
        ((settles (decisionEntry journal kind payload).id).rebuilt "")
      by_cases other : kind = .transportWitness
      · subst other
        cases operation with
        | issueTransportWitness request =>
            obtain ⟨settle, isPlan, rfl⟩ := void_decides planned
            obtain ⟨_, _, unknown, witness, own, settled⟩ := issueTransportWitness_decides isPlan
            intro held member
            obtain ⟨_, witnesses, replays⟩ := settled
              (decisionEntry journal .transportWitness payload).id
            change held ∈ (settle _ _).1.witnesses.values at member
            change held.replayIdentity ∈ (settle _ _).1.consumedReplays
            rw [witnesses, values_set_absent unknown] at member
            rw [replays, Finset.mem_insert]
            rcases List.mem_append.mp member with old | new
            · exact .inr (ih held old)
            · rw [List.mem_singleton.mp new]
              exact .inl own
        | _ => cases isKind
      · rw [Consumed, (leaves.witnesses other).1, (leaves.witnesses other).2]
        exact ih

/-! What an answered command leaves behind. -/

/-- The part of the authority by which the command knows that it was answered. -/
def Command.Retained (answer : Answer) : Command → Authority → Prop
  | .bootstrap request, authority =>
      authority.bootstrapFingerprint = some request.tokenFingerprint
  | .issueTransportWitness request, authority =>
      authority.credential ≠ none ∧ request.replayIdentity ∈ authority.consumedReplays ∧
        (authority.witnesses.values.find? (fun item =>
          item.replayIdentity = request.replayIdentity)).map Answer.witness = some answer
  | .recordPollResponsePage report, authority =>
      (authority.pollPages.get? (report.sourceId, report.pageId)).map (fun page =>
        Answer.decision page.decisionId) = some answer
  | .authorizePollCursor sourceId _ _ cursorSequence, authority =>
      cursorSequence ≤ (polled authority sourceId).authorizedSequence ∧
        ((polled authority sourceId).authorizedSequence = cursorSequence →
          (polled authority sourceId).authorizationDecisionId.map Answer.decision = some answer)
  | .applyPollCursor sourceId cursor, authority =>
      (polled authority sourceId).appliedCursor = some cursor ∧
        (polled authority sourceId).applicationDecisionId.map Answer.decision = some answer

/-- Nothing but a cursor applied to the same source makes a command new. -/
def Command.Undisturbed : Command → World → Event → Prop
  | .applyPollCursor sourceId cursor, _, event => ∀ other,
      event = .call (.applyPollCursor sourceId other) ∨
        event = .interrupt (.applyPollCursor sourceId other) → other = cursor
  | _, _, _ => True

theorem bootstrap_kept {answer : Answer} (request : BootstrapRequest) :
    KeptBy anyEvent (Command.Retained answer (.bootstrap request)) := by
  intro world service operation kind payload settle decision _ planned known
  obtain ⟨isKind, settles⟩ := Operation.plan_sound planned
  have leaves := (settles decision).leaves
  by_cases own : kind = .bootstrap
  · subst own
    cases operation with
    | bootstrap other =>
        obtain ⟨settle, isPlan, rfl⟩ := void_decides planned
        rw [Command.Retained, (bootstrap_decides isPlan).1] at known
        cases known
    | _ => cases isKind
  · exact (leaves.bootstrapped own).2.trans known

theorem witness_kept {answer : Answer} (request : WitnessRequest) :
    KeptBy anyEvent (Command.Retained answer (.issueTransportWitness request)) := by
  intro world service operation kind payload settle decision _ planned known
  obtain ⟨isKind, settles⟩ := Operation.plan_sound planned
  have leaves := rebuildDecision_witnesses ((settles decision).rebuilt "")
  obtain ⟨held, used, issued⟩ := known
  refine ⟨leaves.credential held, ?_⟩
  by_cases own : kind = .transportWitness
  · subst own
    cases operation with
    | issueTransportWitness other =>
        obtain ⟨settle, isPlan, rfl⟩ := void_decides planned
        obtain ⟨_, fresh, unknown, witness, own, settled⟩ := issueTransportWitness_decides isPlan
        obtain ⟨_, witnesses, replays⟩ := settled decision
        change request.replayIdentity ∈ (settle _ _).1.consumedReplays ∧
          ((settle _ _).1.witnesses.values.find? _).map _ = _
        rw [witnesses, replays, values_set_absent unknown, List.find?_append]
        refine ⟨Finset.mem_insert_of_mem used, ?_⟩
        obtain ⟨existing, found, rfl⟩ := Option.map_eq_some_iff.mp issued
        rw [found]
        rfl
    | _ => cases isKind
  · rw [(leaves.witnesses own).1, (leaves.witnesses own).2]
    exact ⟨used, issued⟩

theorem recordPollResponsePage_fresh {report : PageReport} {kind : Kind}
    {payload : List (String × Json)} {settle : String → Service → Service × String}
    (planned : recordPollResponsePage service report = .ok (.decides kind payload settle)) :
    service.pollPages.get? (report.sourceId, report.pageId) = none := by
  iterate 4 obtain ⟨_, _, planned⟩ := bind_ok.mp planned
  split at planned
  · cases planned
  · obtain ⟨_, _, planned⟩ := bind_ok.mp planned
    obtain ⟨_, _, planned⟩ := bind_ok.mp planned
    split at planned
    · split at planned <;> cases planned
    · assumption

theorem page_kept {answer : Answer} (report : PageReport) :
    KeptBy anyEvent (Command.Retained answer (.recordPollResponsePage report)) := by
  intro world service operation kind payload settle decision _ planned known
  obtain ⟨isKind, settles⟩ := Operation.plan_sound planned
  have leaves := (settles decision).leaves
  by_cases own : kind = .pollResponsePage
  · subst own
    cases operation with
    | recordPollResponsePage other =>
        obtain ⟨settle, isPlan, rfl⟩ := void_decides planned
        have fresh := recordPollResponsePage_fresh isPlan
        obtain ⟨_, changed⟩ := (recordPollResponsePage_decides isPlan).2 decision
          (service.materializedAt decision)
        change ((settle _ _).1.pollPages.get? _).map _ = _
        rw [changed, Dict.get?_set, if_neg]
        · exact known
        · intro same
          obtain ⟨page, held, _⟩ := Option.map_eq_some_iff.mp known
          rw [same, fresh] at held
          cases held
    | _ => cases isKind
  · rw [Command.Retained, leaves.pollPages own]
    exact known

theorem authorization_kept {answer : Answer} (sourceId cursor pageId : String)
    (cursorSequence : Int) : KeptBy anyEvent
      (Command.Retained answer (.authorizePollCursor sourceId cursor pageId cursorSequence)) := by
  intro world service operation kind payload settle decision _ planned known
  obtain ⟨isKind, settles⟩ := Operation.plan_sound planned
  have leaves := (settles decision).leaves
  obtain ⟨reached, authorized⟩ := known
  cases operation with
  | authorizePollCursor other newCursor newPage newSequence =>
      obtain ⟨settle, isPlan, rfl⟩ := void_decides planned
      obtain ⟨_, advanced⟩ := authorizePollCursor_decides isPlan
      obtain ⟨_, monotonic, _, changed⟩ := advance_decides advanced
      have moved := polled_set (changed decision (service.materializedAt decision)).2 sourceId
      change _ ≤ (polled (settle _ _).1.toAuthority sourceId).authorizedSequence ∧
        ((polled (settle _ _).1.toAuthority sourceId).authorizedSequence = _ → _)
      rw [moved]
      by_cases own : sourceId = other
      · subst own
        rw [if_pos rfl]
        dsimp only
        refine ⟨by omega, ?_⟩
        intro repeated
        omega
      · rw [if_neg own]
        exact ⟨reached, authorized⟩
  | applyPollCursor other newCursor =>
      obtain ⟨settle, isPlan, rfl⟩ := void_decides planned
      obtain ⟨_, _, changed⟩ := applyPollCursor_decides isPlan
      have moved := polled_set (changed decision (service.materializedAt decision)).2 sourceId
      change _ ≤ (polled (settle _ _).1.toAuthority sourceId).authorizedSequence ∧
        ((polled (settle _ _).1.toAuthority sourceId).authorizedSequence = _ →
          (polled (settle _ _).1.toAuthority sourceId).authorizationDecisionId.map _ = _)
      rw [moved]
      by_cases own : sourceId = other
      · subst own
        rw [if_pos rfl]
        exact ⟨reached, authorized⟩
      · rw [if_neg own]
        exact ⟨reached, authorized⟩
  | _ =>
      cases isKind
      rw [Command.Retained, polled, leaves.poll (by simp [Operation.kind]) (by simp [Operation.kind])]
      exact ⟨reached, authorized⟩

omit [Hashlib] [PageReader] in
/-- A cursor that stands applied is not applied again. -/
theorem applyPollCursor_fresh {sourceId cursor : String} {kind : Kind}
    {payload : List (String × Json)} {settle : String → Service → Service × String}
    (planned : applyPollCursor service sourceId cursor = .ok (.decides kind payload settle)) :
    (polled service.toAuthority sourceId).applicationDecisionId = none ∨
      (polled service.toAuthority sourceId).appliedCursor ≠ some cursor := by
  unfold applyPollCursor at planned
  unfold polled
  split at planned
  · cases planned
  · rename_i state known
    rw [known, Option.getD_some]
    obtain ⟨_, _, planned⟩ := bind_ok.mp planned
    split at planned
    · split at planned
      · cases planned
      · rename_i other
        exact .inr other
    · rename_i unset
      exact .inl unset

theorem application_kept {answer : Answer} (sourceId cursor : String) :
    KeptBy (Command.Undisturbed (.applyPollCursor sourceId cursor))
      (Command.Retained answer (.applyPollCursor sourceId cursor)) := by
  intro world service operation kind payload settle decision allows planned known
  obtain ⟨isKind, settles⟩ := Operation.plan_sound planned
  have leaves := (settles decision).leaves
  obtain ⟨applied, decided⟩ := known
  cases operation with
  | authorizePollCursor other newCursor newPage newSequence =>
      obtain ⟨settle, isPlan, rfl⟩ := void_decides planned
      obtain ⟨_, advanced⟩ := authorizePollCursor_decides isPlan
      obtain ⟨_, _, _, changed⟩ := advance_decides advanced
      have moved := polled_set (changed decision (service.materializedAt decision)).2 sourceId
      change (polled (settle _ _).1.toAuthority sourceId).appliedCursor = _ ∧
        (polled (settle _ _).1.toAuthority sourceId).applicationDecisionId.map _ = _
      rw [moved]
      by_cases own : sourceId = other
      · subst own
        rw [if_pos rfl]
        exact ⟨applied, decided⟩
      · rw [if_neg own]
        exact ⟨applied, decided⟩
  | applyPollCursor other newCursor =>
      obtain ⟨settle, isPlan, rfl⟩ := void_decides planned
      have moved := polled_set ((applyPollCursor_decides isPlan).2.2 decision
        (service.materializedAt decision)).2 sourceId
      change (polled (settle _ _).1.toAuthority sourceId).appliedCursor = _ ∧
        (polled (settle _ _).1.toAuthority sourceId).applicationDecisionId.map _ = _
      rw [moved]
      by_cases own : sourceId = other
      · -- The cursor is the applied one, so it would have been answered.
        subst own
        have repeated : newCursor = cursor :=
          allows.elim (fun called => called newCursor (.inl rfl))
            (fun interrupted => interrupted newCursor (.inr rfl))
        subst repeated
        rcases applyPollCursor_fresh isPlan with unset | other
        · rw [unset] at decided
          cases decided
        · exact absurd applied other
      · rw [if_neg own]
        exact ⟨applied, decided⟩
  | _ =>
      cases isKind
      rw [Command.Retained, polled, leaves.poll (by simp [Operation.kind]) (by simp [Operation.kind])]
      exact ⟨applied, decided⟩

theorem Command.retained_kept (command : Command) (answer : Answer) :
    KeptBy command.Undisturbed (command.Retained answer) := by
  have always {kept : Authority → Prop} (keeps : KeptBy anyEvent kept)
      {allowed : World → Event → Prop} : KeptBy allowed kept := by
    intro world service operation kind payload settle decision _ planned known
    exact keeps world service operation kind payload settle decision (.inl trivial) planned known
  cases command with
  | bootstrap request => exact always (bootstrap_kept request)
  | issueTransportWitness request => exact always (witness_kept request)
  | recordPollResponsePage report => exact always (page_kept report)
  | authorizePollCursor sourceId cursor pageId cursorSequence =>
      exact always (authorization_kept sourceId cursor pageId cursorSequence)
  | applyPollCursor sourceId cursor => exact application_kept sourceId cursor

/-! The first answer. -/

omit [Hashlib] [PageReader] in
theorem map_ok {α : Type} {plan : Except TrustError (Outcome α)} {change : α → Answer}
    {outcome : Outcome Answer} (planned : plan.map (Outcome.map change) = .ok outcome) :
    ∃ original, plan = .ok original ∧ outcome = original.map change := by
  cases plan with
  | error => cases planned
  | ok original =>
      cases planned
      exact ⟨original, rfl, rfl⟩

/-- A performed command answers from the plan, with the authority that settles it. -/
theorem Command.answered_cases {command : Command} {service after : Service}
    {ports written : Ports} {answer : Answer}
    (answered : command.answered service ports = .ok (answer, after, written)) :
    (command.plan service = .ok (.returned answer) ∧ after = service ∧ written = ports) ∨
      ∃ kind payload settle decision, command.plan service = .ok (.decides kind payload settle) ∧
        after = (settle decision (service.materializedAt decision)).1 ∧
        answer = (settle decision (service.materializedAt decision)).2 := by
  obtain ⟨outcome, planned, performed⟩ := bind_ok.mp answered
  cases outcome with
  | returned value =>
      cases performed
      exact .inl ⟨planned, rfl, rfl⟩
  | decides kind payload settle =>
      obtain ⟨⟨decision, between⟩, _, performed⟩ := bind_ok.mp performed
      cases performed
      exact .inr ⟨kind, payload, settle, decision, planned, rfl, rfl⟩

omit [Hashlib] [PageReader] in
theorem bootstrap_returns {request : BootstrapRequest} {value : String}
    (planned : bootstrap service request = .ok (.returned value)) :
    service.bootstrapFingerprint = some request.tokenFingerprint := by
  unfold bootstrap at planned
  split at planned
  · rename_i fingerprint known
    split at planned
    · rename_i same
      rw [known, same]
    · cases planned
  · obtain ⟨_, _, planned⟩ := bind_ok.mp planned
    iterate 3 obtain ⟨_, _, planned⟩ := bind_ok.mp planned
    cases planned

omit [PageReader] in
theorem issueTransportWitness_returns {existing : TransportOriginWitness}
    (planned : issueTransportWitness service request = .ok (.returned existing)) :
    service.credential ≠ none ∧ request.replayIdentity ∈ service.consumedReplays ∧
      service.witnesses.values.find? (fun item =>
        item.replayIdentity = request.replayIdentity) = some existing := by
  obtain ⟨state, _, planned⟩ := bind_ok.mp planned
  obtain ⟨credential, held, planned⟩ := bind_ok.mp planned
  have held := asserted_ok.mp held
  dsimp only at planned
  split at planned
  · rename_i used
    split at planned
    · cases planned
    · rename_i found
      split at planned
      · cases planned
        refine ⟨?_, used, found⟩
        rw [held]
        exact Option.some_ne_none credential
      · cases planned
  · obtain ⟨_, _, planned⟩ := bind_ok.mp planned
    cases planned

theorem recordPollResponsePage_returns {report : PageReport} {value : String}
    (planned : recordPollResponsePage service report = .ok (.returned value)) :
    (service.pollPages.get? (report.sourceId, report.pageId)).map PollPage.decisionId =
      some value := by
  iterate 4 obtain ⟨_, _, planned⟩ := bind_ok.mp planned
  split at planned
  · cases planned
  · obtain ⟨_, _, planned⟩ := bind_ok.mp planned
    obtain ⟨_, _, planned⟩ := bind_ok.mp planned
    split at planned
    · rename_i existing known
      split at planned
      · cases planned
        rw [known]
        rfl
      · cases planned
    · cases planned

omit [Hashlib] [PageReader] in
theorem authorizePollCursor_returns {sourceId cursor pageId value : String}
    (planned : authorizePollCursor service sourceId cursor pageId cursorSequence =
      .ok (.returned value)) :
    (polled service.toAuthority sourceId).authorizedSequence = cursorSequence ∧
      (polled service.toAuthority sourceId).authorizationDecisionId = some value := by
  have advances {state : PollCursorState}
      (planned : authorizePollCursor.advance sourceId cursor pageId cursorSequence state =
        .ok (.returned value)) : False := by
    obtain ⟨_, _, planned⟩ := bind_ok.mp planned
    obtain ⟨_, _, planned⟩ := bind_ok.mp planned
    cases planned
  obtain ⟨_, _, planned⟩ := bind_ok.mp planned
  obtain ⟨_, _, planned⟩ := bind_ok.mp planned
  split at planned
  · cases planned
  · obtain ⟨_, _, planned⟩ := bind_ok.mp planned
    dsimp only at planned
    split at planned
    · rename_i decision known
      split at planned
      · rename_i same
        cases planned
        exact ⟨same.2.2, known⟩
      · exact (advances planned).elim
    · exact (advances planned).elim

omit [Hashlib] [PageReader] in
theorem applyPollCursor_returns {sourceId cursor value : String}
    (planned : applyPollCursor service sourceId cursor = .ok (.returned value)) :
    (polled service.toAuthority sourceId).appliedCursor = some cursor ∧
      (polled service.toAuthority sourceId).applicationDecisionId = some value := by
  unfold applyPollCursor at planned
  unfold polled
  split at planned
  · cases planned
  · rename_i state known
    rw [known, Option.getD_some]
    obtain ⟨_, _, planned⟩ := bind_ok.mp planned
    split at planned
    · rename_i decision decided
      split at planned
      · rename_i applied
        cases planned
        exact ⟨applied, decided⟩
      · cases planned
    · cases planned

/-- An answer that needed no decision. -/
theorem Command.returned_retained {command : Command} {answer : Answer}
    (planned : command.plan service = .ok (.returned answer)) :
    command.Retained answer service.toAuthority := by
  have original {α : Type} {plan : Except TrustError (Outcome α)} {change : α → Answer}
      (planned : plan.map (Outcome.map change) = .ok (.returned answer)) :
      ∃ value, plan = .ok (.returned value) ∧ answer = change value := by
    obtain ⟨outcome, isPlan, same⟩ := map_ok planned
    cases outcome with
    | returned value =>
        cases same
        exact ⟨value, isPlan, rfl⟩
    | decides => cases same
  cases command with
  | bootstrap request =>
      obtain ⟨value, isPlan, rfl⟩ := original planned
      exact bootstrap_returns isPlan
  | issueTransportWitness request =>
      obtain ⟨value, isPlan, rfl⟩ := original planned
      obtain ⟨held, used, found⟩ := issueTransportWitness_returns isPlan
      exact ⟨held, used, congrArg (Option.map Answer.witness) found⟩
  | recordPollResponsePage report =>
      obtain ⟨value, isPlan, rfl⟩ := original planned
      have recorded := congrArg (Option.map Answer.decision) (recordPollResponsePage_returns isPlan)
      rw [Option.map_map] at recorded
      exact recorded
  | authorizePollCursor sourceId cursor pageId cursorSequence =>
      obtain ⟨value, isPlan, rfl⟩ := original planned
      obtain ⟨reached, decided⟩ := authorizePollCursor_returns isPlan
      exact ⟨reached.ge, fun _ => congrArg (Option.map Answer.decision) decided⟩
  | applyPollCursor sourceId cursor =>
      obtain ⟨value, isPlan, rfl⟩ := original planned
      obtain ⟨applied, decided⟩ := applyPollCursor_returns isPlan
      exact ⟨applied, congrArg (Option.map Answer.decision) decided⟩

/-- An answer by a decision. -/
theorem Command.decided_retained {command : Command} {kind : Kind}
    {payload : List (String × Json)} {settle : String → Service → Service × Answer}
    (consumed : Consumed service.toAuthority)
    (planned : command.plan service = .ok (.decides kind payload settle)) (decision : String) :
    command.Retained (settle decision (service.materializedAt decision)).2
      (settle decision (service.materializedAt decision)).1.toAuthority := by
  have original {α : Type} {plan : Except TrustError (Outcome α)} {change : α → Answer}
      (planned : plan.map (Outcome.map change) = .ok (.decides kind payload settle)) :
      ∃ own : String → Service → Service × α, plan = .ok (.decides kind payload own) ∧
        settle = fun decision service =>
          ((own decision service).1, change (own decision service).2) := by
    obtain ⟨outcome, isPlan, same⟩ := map_ok planned
    cases outcome with
    | returned => cases same
    | decides kind payload own =>
        cases same
        exact ⟨own, isPlan, rfl⟩
  cases command with
  | bootstrap request =>
      obtain ⟨own, isPlan, rfl⟩ := original planned
      exact ((bootstrap_decides isPlan).2.2 _ _).2
  | issueTransportWitness request =>
      obtain ⟨own, isPlan, rfl⟩ := original planned
      obtain ⟨held, fresh, unknown, witness, same, settled⟩ := issueTransportWitness_decides isPlan
      obtain ⟨value, witnesses, replays⟩ := settled decision
      obtain ⟨_, settles⟩ := issueTransportWitness_sound isPlan
      have leaves := rebuildDecision_witnesses ((settles decision).rebuilt "")
      have nobody : service.witnesses.values.find? (fun item =>
          item.replayIdentity = request.replayIdentity) = none := by
        rw [List.find?_eq_none]
        intro item member
        have used := consumed item member
        simp only [decide_eq_true_eq]
        intro replays
        exact fresh (replays ▸ used)
      refine ⟨leaves.credential held, ?_⟩
      dsimp only
      rw [witnesses, replays, values_set_absent unknown, List.find?_append, nobody, value]
      exact ⟨Finset.mem_insert_self _ _, by simp [same]⟩
  | recordPollResponsePage report =>
      obtain ⟨own, isPlan, rfl⟩ := original planned
      obtain ⟨value, changed⟩ := (recordPollResponsePage_decides isPlan).2 decision
        (service.materializedAt decision)
      rw [Command.Retained, changed, Dict.get?_set, if_pos rfl]
      exact congrArg (some ∘ Answer.decision) value.symm
  | authorizePollCursor sourceId cursor pageId cursorSequence =>
      obtain ⟨own, isPlan, rfl⟩ := original planned
      obtain ⟨_, advanced⟩ := authorizePollCursor_decides isPlan
      obtain ⟨_, _, _, settled⟩ := advance_decides advanced
      obtain ⟨value, changed⟩ := settled decision (service.materializedAt decision)
      rw [Command.Retained, polled_set changed, if_pos rfl]
      exact ⟨le_rfl, fun _ => congrArg (some ∘ Answer.decision) value.symm⟩
  | applyPollCursor sourceId cursor =>
      obtain ⟨own, isPlan, rfl⟩ := original planned
      obtain ⟨_, _, settled⟩ := applyPollCursor_decides isPlan
      obtain ⟨value, changed⟩ := settled decision (service.materializedAt decision)
      rw [Command.Retained, polled_set changed, if_pos rfl]
      exact ⟨rfl, congrArg (some ∘ Answer.decision) value.symm⟩

/-! The repeated command. -/

/-- The answer to the repeated command; which decision a repeated bootstrap names is open. -/
def Command.SameAnswer (answer : Answer) : Command → Answer → Prop
  | .bootstrap _, _ => True
  | _, again => again = answer

/-- A plan that raises `TrustInvariantError` or returns such an answer without a decision. -/
def Quiet {α : Type} (plan : Except TrustError (Outcome α)) (same : α → Prop) : Prop :=
  (∃ reason, plan = .error (.invariant reason)) ∨ ∃ value, plan = .ok (.returned value) ∧ same value

omit [Hashlib] [PageReader] in
theorem Quiet.raiseIf {α : Type} {condition : Prop} [Decidable condition] {reason : String}
    {rest : Except TrustError (Outcome α)} {same : α → Prop}
    (quiet : ¬ condition → Quiet rest same) :
    Quiet (Data.raiseIf condition (.invariant reason) >>= fun _ => rest) same := by
  by_cases holds : condition
  · rw [raiseIf_pos holds]
    exact .inl ⟨reason, rfl⟩
  · rw [raiseIf_neg holds]
    exact quiet holds

omit [Hashlib] [PageReader] in
theorem Quiet.active {α : Type}
    {rest : CurrentDatabaseState → Except TrustError (Outcome α)} {same : α → Prop}
    (quiet : ∀ state, service.state = some state → Quiet (rest state) same) :
    Quiet (service.requireActive >>= rest) same := by
  unfold Service.requireActive
  cases known : service.state with
  | none => exact .inl ⟨_, rfl⟩
  | some state =>
      dsimp only
      split
      · exact quiet state known
      · exact .inl ⟨_, rfl⟩

omit [Hashlib] [PageReader] in
theorem Quiet.map {α : Type} {plan : Except TrustError (Outcome α)} {change : α → Answer}
    {same : Answer → Prop} (quiet : Quiet plan (same ∘ change)) :
    Quiet (plan.map (Outcome.map change)) same := by
  rcases quiet with ⟨reason, rfl⟩ | ⟨value, rfl, kept⟩
  · exact .inl ⟨reason, rfl⟩
  · exact .inr ⟨change value, rfl, kept⟩

omit [Hashlib] [PageReader] in
/-- A repeated bootstrap returns the current materialization head. -/
theorem bootstrap_again {request : BootstrapRequest} {state : CurrentDatabaseState}
    (known : service.bootstrapFingerprint = some request.tokenFingerprint)
    (live : service.state = some state) :
    bootstrap service request = .ok (.returned state.materializationHead) := by
  simp [bootstrap, known, live, asserted]

omit [PageReader] in
theorem issueTransportWitness_quiet
    {existing : TransportOriginWitness} (held : service.credential ≠ none)
    (used : request.replayIdentity ∈ service.consumedReplays)
    (found : service.witnesses.values.find? (fun item =>
      item.replayIdentity = request.replayIdentity) = some existing) :
    Quiet (issueTransportWitness service request) (· = existing) := by
  obtain ⟨credential, current⟩ := Option.ne_none_iff_exists'.mp held
  apply Quiet.active
  intro state _
  rw [asserted_ok.mpr current, ok_bind]
  dsimp only
  rw [if_pos used]
  simp only [found]
  split
  · exact .inr ⟨existing, rfl, rfl⟩
  · exact .inl ⟨_, rfl⟩

theorem recordPollResponsePage_quiet {report : PageReport} {page : PollPage}
    (recorded : service.pollPages.get? (report.sourceId, report.pageId) = some page) :
    Quiet (recordPollResponsePage service report) (· = page.decisionId) := by
  apply Quiet.active
  intro _ _
  apply Quiet.raiseIf
  intro _
  apply Quiet.raiseIf
  intro _
  apply Quiet.raiseIf
  intro _
  split
  · exact .inl ⟨_, rfl⟩
  · apply Quiet.raiseIf
    intro _
    apply Quiet.raiseIf
    intro _
    rw [recorded]
    dsimp only
    split
    · exact .inr ⟨_, rfl, rfl⟩
    · exact .inl ⟨_, rfl⟩

omit [Hashlib] [PageReader] in
theorem advance_quiet {sourceId cursor pageId : String}
    {state : PollCursorState} {same : String → Prop}
    (reached : cursorSequence ≤ state.authorizedSequence) :
    Quiet (authorizePollCursor.advance sourceId cursor pageId cursorSequence state) same := by
  apply Quiet.raiseIf
  intro _
  apply Quiet.raiseIf
  intro monotonic
  omega

omit [Hashlib] [PageReader] in
theorem authorizePollCursor_quiet {sourceId cursor pageId : String} {same : String → Prop}
    (reached : cursorSequence ≤ (polled service.toAuthority sourceId).authorizedSequence)
    (authorized : (polled service.toAuthority sourceId).authorizedSequence = cursorSequence →
      ∀ decision ∈ (polled service.toAuthority sourceId).authorizationDecisionId, same decision) :
    Quiet (authorizePollCursor service sourceId cursor pageId cursorSequence) same := by
  apply Quiet.active
  intro _ _
  apply Quiet.raiseIf
  intro _
  split
  · exact .inl ⟨_, rfl⟩
  · apply Quiet.raiseIf
    intro _
    dsimp only
    split
    · rename_i decision known
      split
      · rename_i repeated
        exact .inr ⟨decision, rfl, authorized repeated.2.2 decision known⟩
      · exact advance_quiet reached
    · exact advance_quiet reached

omit [Hashlib] [PageReader] in
theorem applyPollCursor_quiet {sourceId cursor decision : String}
    (applied : (polled service.toAuthority sourceId).appliedCursor = some cursor)
    (decided : (polled service.toAuthority sourceId).applicationDecisionId = some decision) :
    Quiet (applyPollCursor service sourceId cursor) (· = decision) := by
  unfold polled at applied decided
  unfold applyPollCursor
  split
  · exact .inl ⟨_, rfl⟩
  · rename_i state known
    rw [known, Option.getD_some] at applied decided
    apply Quiet.raiseIf
    intro _
    rw [decided]
    dsimp only
    rw [if_pos applied]
    exact .inr ⟨decision, rfl, rfl⟩

theorem Command.quiet {command : Command} {answer : Answer}
    (retained : command.Retained answer service.toAuthority) (grounded : service.Grounded) :
    Quiet (command.plan service) (command.SameAnswer answer) := by
  cases command with
  | bootstrap request =>
      cases live : service.state with
      | none =>
          rw [Command.Retained, grounded live] at retained
          cases retained
      | some state =>
          exact Quiet.map (.inr ⟨_, bootstrap_again retained live, trivial⟩)
  | issueTransportWitness request =>
      obtain ⟨held, used, issued⟩ := retained
      obtain ⟨existing, found, rfl⟩ := Option.map_eq_some_iff.mp issued
      apply Quiet.map
      rcases issueTransportWitness_quiet held used found with raised | ⟨value, planned, rfl⟩
      · exact .inl raised
      · exact .inr ⟨value, planned, rfl⟩
  | recordPollResponsePage report =>
      obtain ⟨page, recorded, rfl⟩ := Option.map_eq_some_iff.mp retained
      apply Quiet.map
      rcases recordPollResponsePage_quiet recorded with raised | ⟨value, planned, rfl⟩
      · exact .inl raised
      · exact .inr ⟨_, planned, rfl⟩
  | authorizePollCursor sourceId cursor pageId cursorSequence =>
      obtain ⟨reached, authorized⟩ := retained
      refine (authorizePollCursor_quiet reached ?_).map
      intro repeated decision known
      have answered := authorized repeated
      rw [Option.mem_def.mp known] at answered
      exact Option.some.inj answered
  | applyPollCursor sourceId cursor =>
      obtain ⟨applied, decided⟩ := retained
      obtain ⟨decision, known, rfl⟩ := Option.map_eq_some_iff.mp decided
      apply Quiet.map
      rcases applyPollCursor_quiet applied known with raised | ⟨value, planned, rfl⟩
      · exact .inl raised
      · exact .inr ⟨_, planned, rfl⟩

theorem Command.repeats_of_quiet {command : Command} {ports : Ports}
    {same : Answer → Prop} (quiet : Quiet (command.plan service) same) :
    command.Repeats service ports same := by
  unfold Command.Repeats Command.answered
  rcases quiet with ⟨reason, raised⟩ | ⟨value, planned, kept⟩
  · exact .inl ⟨reason, by rw [raised]; rfl⟩
  · exact .inr ⟨value, by rw [planned]; rfl, kept⟩

/-- An answered command is a step of the run. -/
theorem Command.answered_step {command : Command} {service after : Service}
    {ports written : Ports} {answer : Answer}
    (answered : command.answered service ports = .ok (answer, after, written)) :
    Step ⟨some service, ports⟩ (.call command.operation) ⟨some after, written⟩ := by
  obtain ⟨outcome, planned, performed⟩ := bind_ok.mp answered
  have isPlan := command.plan_operation service ports.journal
  rw [planned] at isPlan
  refine .call isPlan ?_
  cases outcome with
  | returned =>
      cases performed
      rfl
  | decides kind payload settle =>
      obtain ⟨between, decided, performed⟩ := bind_ok.mp performed
      cases performed
      exact bind_ok.mpr ⟨between, decided, rfl⟩

/-- A planned decision is performed. -/
theorem Command.answered_decides {command : Command} {kind : Kind}
    {payload : List (String × Json)} {settle : String → Service → Service × Answer} (ports : Ports)
    (planned : command.plan service = .ok (.decides kind payload settle)) :
    ∃ decision written, written.journal = ports.journal ++ [decisionEntry ports.journal kind payload] ∧
      command.answered service ports = .ok
        ((settle decision (service.materializedAt decision)).2,
          (settle decision (service.materializedAt decision)).1, written) := by
  have performed : (Outcome.decides kind payload settle).perform service ports = _ :=
    bind_ok.mpr ⟨_, decide_eq ports kind payload, rfl⟩
  exact ⟨_, _, materialize_journal _ _ _, bind_ok.mpr ⟨_, planned, performed⟩⟩

/-- An authorized cursor that does not stand applied is applied by a decision. -/
theorem applies {sourceId cursor : String} (ports : Ports)
    (authorized : (polled service.toAuthority sourceId).authorizedCursor = some cursor)
    (fresh : (polled service.toAuthority sourceId).appliedCursor ≠ some cursor) :
    ∃ after written decision payload,
      (Command.applyPollCursor sourceId cursor).answered service ports =
        .ok (.decision decision, after, written) ∧
      written.journal = ports.journal ++ [decisionEntry ports.journal .pollCursorApplied payload] ∧
      after.state.map CurrentDatabaseState.phase =
        service.state.map CurrentDatabaseState.phase ∧
      after.toAuthority = { service.toAuthority with
        poll := service.poll.set sourceId { polled service.toAuthority sourceId with
          appliedCursor := some cursor, applicationDecisionId := some decision } } := by
  cases known : service.poll.get? sourceId with
  | none =>
      rw [polled, known] at authorized
      cases authorized
  | some state =>
      have same : polled service.toAuthority sourceId = state := by
        rw [polled, known, Option.getD_some]
      rw [same] at authorized fresh ⊢
      have planned : applyPollCursor service sourceId cursor =
          applyPollCursor.settle sourceId cursor state := by
        unfold applyPollCursor
        simp only [known, authorized, ne_eq, not_true_eq_false, not_false_eq_true, raiseIf_neg,
          ok_bind]
        split
        · rw [if_neg fresh]
        · rfl
      have isPlan : (Command.applyPollCursor sourceId cursor).plan service = _ :=
        congrArg (Except.map (Outcome.map Answer.decision)) planned
      obtain ⟨decision, written, grown, answered⟩ := Command.answered_decides ports isPlan
      exact ⟨_, written, decision, _, answered, grown, materializedAt_phase _ _, rfl⟩

/-- A repeated command raises `TrustInvariantError` or gives its first answer, and appends
nothing, however the run went on in between; a cursor that is authorized once another one was
applied to its source is applied anew, by a new decision. -/
theorem commands_repeat {configuration : Configuration} {service after current : Service}
    {ports written now : Ports} {command : Command} {answer : Answer}
    (run : Run anyEvent (.initial configuration) ⟨some service, ports⟩)
    (answered : command.answered service ports = .ok (answer, after, written))
    (later : Run command.Undisturbed ⟨some after, written⟩ ⟨some current, now⟩) :
    (command.Repeats current now (command.SameAnswer answer) ∨ ¬ CollisionFree now.journal) ∧
    ∀ sourceId cursor, (polled current.toAuthority sourceId).authorizedCursor = some cursor →
      (polled current.toAuthority sourceId).appliedCursor ≠ some cursor →
      ∃ applied grown decision payload,
        (Command.applyPollCursor sourceId cursor).answered current now =
          .ok (.decision decision, applied, grown) ∧
        grown.journal = now.journal ++ [decisionEntry now.journal .pollCursorApplied payload] := by
  constructor
  · by_cases free : CollisionFree now.journal
    · refine .inl (Command.repeats_of_quiet ?_)
      obtain ⟨more, extended⟩ := later.journal_prefix
      have earlier : CollisionFree written.journal := CollisionFree.left (extended ▸ free)
      have step := Command.answered_step answered
      have begin : World.Consistent ⟨some after, written⟩ :=
        (run.step trivial step).consistent (initial_consistent configuration) earlier
      obtain ⟨rows, authority, history, _, agrees⟩ := id begin
      have stands := (agrees after rfl).authority_eq
      have retained : command.Retained answer after.toAuthority := by
        rcases Command.answered_cases answered with ⟨planned, rfl, _⟩ |
          ⟨kind, payload, settle, decision, planned, rfl, rfl⟩
        · exact Command.returned_retained planned
        · obtain ⟨before, grown⟩ := step.journal_prefix
          obtain ⟨_, _, first, _, agreed⟩ := run.consistent (initial_consistent configuration)
            (CollisionFree.left (grown ▸ earlier))
          exact Command.decided_retained ((agreed service rfl).authority_eq ▸ first.consumed)
            planned decision
      have holds := later.holds (command.retained_kept answer) begin free
        ⟨rows, authority, history, stands ▸ retained⟩
      obtain ⟨kept, grounded⟩ := holds.live (later.consistent begin free)
      exact Command.quiet kept grounded
    · exact .inr free
  · intro sourceId cursor authorized fresh
    obtain ⟨applied, grown, decision, payload, answered, extended, _⟩ :=
      applies now authorized fresh
    exact ⟨applied, grown, decision, payload, answered, extended⟩

/-! A cursor that is authorized and applied again. -/

/-- Two pages take turns, and a third one authorizes the cursor of the first, which is applied
again. -/
theorem cursor_reapplies {raws : List Bytes} {first second third : String}
    (read : ∀ raw ∈ raws, ∃ member, PageReader.members? raw = some [member])
    (ids : (raws.map fun raw => (sha256 raw).text) = [first, second, third])
    (distinct : [first, second, third].Nodup) :
    ∃ service after current ports written now answer,
      Run anyEvent (.initial trustedTenant) ⟨some service, ports⟩ ∧
      (Command.applyPollCursor "mail" "1").answered service ports =
        .ok (answer, after, written) ∧
      Run anyEvent ⟨some after, written⟩ ⟨some current, now⟩ ∧
      ¬ (Command.applyPollCursor "mail" "1").Repeats current now (· = answer) := by
  obtain ⟨_, _, run, polls, unpolled, _⟩ := exists_polls 
    (fun world operation _ => anyEvent_holds world (.call operation)) read (ids ▸ distinct)
  rw [ids] at polls
  obtain ⟨service₁, ports₁, _, run, polls, one, _⟩ :=
    run.authorizes "1" polls (show first ∈ _ by simp)
      (by simp [polled, unpolled, PollCursorState.unpolled]) (fun _ => anyEvent_holds _ _)
  have unapplied : (polled service₁.toAuthority "mail").appliedCursor = none := by
    rw [one]
    simp [polled, unpolled, PollCursorState.unpolled]
  obtain ⟨service₂, ports₂, decision, _, answered, _, phase, changed⟩ :=
    @applies _ _ service₁ "mail" "1" ports₁ (by rw [one]) (by simp [unapplied])
  obtain ⟨polls, applied⟩ := polls.moved (phase.trans polls.active) changed
  have later : Run anyEvent ⟨some service₂, ports₂⟩ ⟨some service₂, ports₂⟩ := .start
  obtain ⟨service₃, ports₃, _, later, polls, two, _⟩ :=
    later.authorizes "2" polls (show second ∈ _ by simp)
      (by simp at distinct; simp [applied, one, distinct]) (fun _ => anyEvent_holds _ _)
  obtain ⟨_, _, _, _, answered₄, _, phase, changed⟩ :=
    @applies _ _ service₃ "mail" "2" ports₃ (by rw [two]) (by simp [two, applied])
  obtain ⟨polls, applied₄⟩ := polls.moved (phase.trans polls.active) changed
  have later := later.step (anyEvent_holds _ _) (Command.answered_step answered₄)
  obtain ⟨service₅, ports₅, _, later, _, three, _⟩ :=
    later.authorizes "1" polls (show third ∈ _ by simp)
      (by simp at distinct; simp [applied₄, two, distinct]) (fun _ => anyEvent_holds _ _)
  obtain ⟨_, _, _, _, answered₆, grown, _⟩ :=
    @applies _ _ service₅ "mail" "1" ports₅ (by rw [three]) (by simp [three, applied₄])
  refine ⟨service₁, service₂, service₅, ports₁, ports₂, ports₅, .decision decision, run, answered,
    later, ?_⟩
  intro repeats
  unfold Command.Repeats at repeats
  rw [answered₆] at repeats
  rcases repeats with ⟨_, impossible⟩ | ⟨_, unchanged, _⟩
  · cases impossible
  · have same := congrArg (fun result => result.2.2.journal) (Except.ok.inj unchanged)
    exact absurd (grown.symm.trans same) (by simp)

end

/-- A cursor that is authorized again after another one was applied is applied anew. -/
theorem cursor_applied_anew :
    letI := Sha256.hashlib
    letI := sampleReader
    ¬ ∀ (configuration : Configuration) (service after current : Service)
      (ports written now : Ports) (command : Command) (answer : Answer),
      Run anyEvent (.initial configuration) ⟨some service, ports⟩ →
      command.answered service ports = .ok (answer, after, written) →
      Run anyEvent ⟨some after, written⟩ ⟨some current, now⟩ →
      command.Repeats current now (· = answer) := by
  let _ := Sha256.hashlib
  let _ := sampleReader
  have distinct : [(sha256 (samplePage "a")).text, (sha256 (samplePage "b")).text,
      (sha256 (samplePage "c")).text].Nodup := by
    decide +kernel
  obtain ⟨service, after, current, ports, written, now, answer, run, answered, later, differs⟩ :=
    cursor_reapplies sampleReader_reads rfl distinct
  intro claimed
  exact differs (claimed _ service after current ports written now _ answer run answered later)

def firstWitness : WitnessRequest :=
  ⟨"witness-1", .telegramPolling, "candidate-1", "bot-1", "endpoint-1", [1, 2], "replay-1"⟩

/-- A witness that is issued once and asked for again, under a hash that counts. -/
theorem commands_repeat_witness :
    letI := countingHash
    letI : PageReader := ⟨fun _ => none⟩
    ∃ service after ports written witness,
      (Command.issueTransportWitness firstWitness).answered service ports =
        .ok (.witness witness, after, written) ∧
      (Command.issueTransportWitness firstWitness).Repeats after written (· = .witness witness) := by
  let _ := countingHash
  let _ : PageReader := ⟨fun _ => none⟩
  obtain ⟨service, ports, _, run, authority, _, _, _, state, _, journal⟩ :=
    exists_bootstrapped _ trustedTenant "tenant-1" "database-1" (bootstrapWith "recovery")
      (fun world => anyEvent_holds world _) (fun world => anyEvent_holds world _) rfl rfl
  have held : service.credential = some (bootstrapWith "recovery").credential :=
    congrArg Authority.credential authority
  have unused : service.consumedReplays = ∅ := congrArg Authority.consumedReplays authority
  have unknown : service.witnesses = .empty := congrArg Authority.witnesses authority
  obtain ⟨kind, payload, settle, issued, planned⟩ : ∃ kind payload,
      ∃ settle : String → Service → Service, ∃ issued,
      (Command.issueTransportWitness firstWitness).plan service =
        .ok (.decides kind payload fun decision before =>
          (settle decision before, Answer.witness issued)) := by
    simp only [Command.plan, issueTransportWitness, Service.requireActive, state, held, asserted,
      ok_bind, unused, unknown, Finset.notMem_empty, if_true, if_false]
    exact ⟨_, _, _, _, rfl⟩
  obtain ⟨decision, written, grown, answered⟩ := Command.answered_decides ports planned
  have chained := (run.step (anyEvent_holds _ _) (Command.answered_step answered)).chained
  have free : CollisionFree written.journal :=
    counting_free chained (by rw [grown, journal]; exact Nat.le_add_left 3 13)
  exact ⟨service, _, ports, written, issued, answered,
    (commands_repeat run answered .start).1.resolve_right (not_not_intro free)⟩

end Chiplog.DeploymentTrust
