import Chiplog.Effects.Refusals
import Chiplog.Effects.Replacement

namespace Chiplog.Effects

open Chiplog.Data

/-! The lifecycle of recovery obligations.

An obligation is derived in one place from state changes made in many.  `Obliged` is
what each record keeps about its own obligation; `bindObligation_total` shows that the
derivation never fails on a transition that the operations allow. -/

def EffectSnapshot.isOpen (snapshot : EffectSnapshot) : Prop :=
  ∃ opening, snapshot.recoveryObligation = some (.opened opening)

def EffectSnapshot.isClosed (snapshot : EffectSnapshot) : Prop :=
  ∃ closed, snapshot.recoveryObligation = some (.closed closed)

abbrev EffectSnapshot.children (snapshot : EffectSnapshot) : List ExactHead :=
  snapshot.transmissions.map (·.transmission)

/-- What a closed obligation says about the snapshot that carries it. -/
structure Closure (snapshot : EffectSnapshot) (closed : ClosedEffectObligation) : Prop where
  outcome : closed.outcome.state = snapshot.state
  lineage : closed.opening.originalCrossedChildren.items <+: closed.completeChildren.items
  children : closed.completeChildren.items = snapshot.children
  evidence : closed.closureEvidence.items <+: snapshot.evidence

/-- An obligation that fits the state, children and evidence of a snapshot. -/
def Obliged (snapshot : EffectSnapshot) : Option EffectRecoveryObligation → Prop
  | none => snapshot.state ∉ ambiguousStates
  | some (.opened opening) =>
      snapshot.state ∈ ambiguousStates ∧
        opening.originalCrossedChildren.items <+: snapshot.children
  | some (.closed closed) => Closure snapshot closed

theorem Obliged.congr {left right : EffectSnapshot} {obligation : Option EffectRecoveryObligation}
    (obliged : Obliged left obligation) (state : right.state = left.state)
    (transmissions : right.transmissions = left.transmissions)
    (evidence : right.evidence = left.evidence) : Obliged right obligation := by
  have children : right.children = left.children := by
    rw [EffectSnapshot.children, transmissions]
  match obligation with
  | none =>
      simp only [Obliged] at *
      rwa [state]
  | some (.opened opening) =>
      simp only [Obliged] at *
      rwa [state, children]
  | some (.closed closed) =>
      exact ⟨state ▸ obliged.outcome, obliged.lineage, children ▸ obliged.children,
        evidence ▸ obliged.evidence⟩

theorem ofState?_isSome {state : AttemptState} (closing : state ∈ closureStates) :
    ∃ outcome, ClosureOutcome.ofState? state = some outcome ∧ outcome.state = state := by
  cases state <;> simp_all [closureStates, ClosureOutcome.ofState?, ClosureOutcome.state]

theorem closureOutcome_closing (outcome : ClosureOutcome) : outcome.state ∈ closureStates := by
  cases outcome <;> decide

theorem closing_terminal {state : AttemptState} (closing : state ∈ closureStates) :
    state ∈ terminalStates := by
  cases state <;> simp_all [closureStates, terminalStates]

theorem closing_not_ambiguous {state : AttemptState} (closing : state ∈ closureStates) :
    state ∉ ambiguousStates := by
  cases state <;> simp_all [closureStates, ambiguousStates]

/-- An ambiguous state is left only for one that closes the obligation. -/
theorem transitions_ambiguous {before after : AttemptState} (ambiguous : before ∈ ambiguousStates)
    (edge : after ∈ transitions before) : after ∈ closureStates := by
  cases before <;> simp_all [ambiguousStates, transitions, closureStates]

theorem ambiguous_beforeSend {state : AttemptState} (ambiguous : state ∈ ambiguousStates) :
    state ∉ beforeSendStates := by
  cases state <;> simp_all [ambiguousStates, beforeSendStates]

theorem closing_beforeSend {state : AttemptState} (closing : state ∈ closureStates) :
    state ∉ beforeSendStates := by
  cases state <;> simp_all [closureStates, beforeSendStates]

theorem retransmission_not_terminal {state : AttemptState} (crossed : state ∈ retransmissionStates) :
    state ∉ terminalStates := by
  cases state <;> simp_all [retransmissionStates, terminalStates]

/-- The ways an obligation may change from one record to the next. -/
inductive ObligationStep : Option EffectRecoveryObligation → Option EffectRecoveryObligation → Prop
  | clear : ObligationStep none none
  | open_ (opening : OpenEffectObligation) : ObligationStep none (some (.opened opening))
  | hold (opening : OpenEffectObligation) :
      ObligationStep (some (.opened opening)) (some (.opened opening))
  | close (closed : ClosedEffectObligation) :
      ObligationStep (some (.opened closed.opening)) (some (.closed closed))
  | keep (closed : ClosedEffectObligation) :
      ObligationStep (some (.closed closed)) (some (.closed closed))

/-- The draft of an accepted operation against an obliged snapshot. -/
structure Transition (before draft : EffectSnapshot) : Prop where
  obligation : draft.recoveryObligation = before.recoveryObligation
  state : draft.state = before.state ∨ draft.state ∈ transitions before.state
  grown : Extends before draft
  sent : draft.transmissions ≠ [] ↔ draft.state ∉ beforeSendStates
  settled : before.state ∈ terminalStates → draft.transmissions = before.transmissions
  observed : draft.state ≠ before.state → before.state ∈ ambiguousStates → draft.evidence ≠ []

theorem Transition.children {before draft : EffectSnapshot} (transition : Transition before draft) :
    before.children <+: draft.children :=
  transition.grown.transmissions.map _

/-- A closed obligation is carried along unchanged: its state is terminal, so neither
the state nor the children can change any more. -/
theorem Closure.carried {before draft : EffectSnapshot} {closed : ClosedEffectObligation}
    (closure : Closure before closed) (transition : Transition before draft) :
    Closure draft closed := by
  have terminal : before.state ∈ terminalStates :=
    closure.outcome ▸ closing_terminal (closureOutcome_closing closed.outcome)
  have same : draft.state = before.state := by
    rcases transition.state with same | edge
    · exact same
    · rw [transitions_terminal terminal] at edge
      cases edge
  refine ⟨closure.outcome.trans same.symm, closure.lineage, ?_,
    closure.evidence.trans transition.grown.evidence⟩
  rw [closure.children, EffectSnapshot.children, EffectSnapshot.children,
    transition.settled terminal]

/-- From an earlier to a later record an open obligation stays or closes, and a closed
one stays. -/
structure Carried (earlier later : Option EffectRecoveryObligation) : Prop where
  opened : ∀ opening, earlier = some (.opened opening) →
    later = some (.opened opening) ∨
      ∃ closed, later = some (.closed closed) ∧ closed.opening = opening
  closed : ∀ closed, earlier = some (.closed closed) → later = some (.closed closed)

theorem Carried.trans {first second third : Option EffectRecoveryObligation}
    (left : Carried first second) (right : Carried second third) : Carried first third := by
  refine ⟨fun opening stored => ?_, fun closed stored => right.closed closed (left.closed closed stored)⟩
  rcases left.opened opening stored with held | ⟨closed, stored, same⟩
  · exact right.opened opening held
  · exact .inr ⟨closed, right.closed closed stored, same⟩

theorem ObligationStep.carried {before after : Option EffectRecoveryObligation}
    (step : ObligationStep before after) : Carried before after := by
  cases step with
  | clear => exact ⟨by simp, by simp⟩
  | open_ opening => exact ⟨by simp, by simp⟩
  | hold opening => exact ⟨fun _ same => .inl same, by simp⟩
  | close closed =>
      refine ⟨fun opening same => .inr ⟨closed, rfl, ?_⟩, by simp⟩
      simpa using same
  | keep closed => exact ⟨by simp, fun _ same => same⟩

/-- What a record keeps about its own obligation. -/
def KeepsObligation (record : EffectRecord) : Prop :=
  (record.snapshot.transmissions ≠ [] ↔ record.snapshot.state ∉ beforeSendStates) ∧
    Obliged record.snapshot record.snapshot.recoveryObligation

section Obligations

variable [Hashlib] {store : EffectStoreSnapshot}

theorem closeObligation_ok {opening : OpenEffectObligation} {snapshot : EffectSnapshot}
    {closed : ClosedEffectObligation} (accepted : closeObligation opening snapshot = .ok closed) :
    closed.opening = opening ∧ closed.completeChildren.items = snapshot.children ∧
      closed.closureEvidence.items = snapshot.evidence ∧
      ClosureOutcome.ofState? snapshot.state = some closed.outcome := by
  simp only [closeObligation] at accepted
  split at accepted
  · rename_i closureEvidence completeChildren outcome evidence children state
    cases accepted
    exact ⟨rfl, NonemptyTuple.ofList?_eq_some.mp children, NonemptyTuple.ofList?_eq_some.mp evidence,
      state⟩
  · cases accepted

theorem closeObligation_total {snapshot : EffectSnapshot} (opening : OpenEffectObligation)
    (observed : snapshot.evidence ≠ []) (sent : snapshot.transmissions ≠ [])
    (closing : snapshot.state ∈ closureStates) :
    ∃ closed, closeObligation opening snapshot = .ok closed := by
  obtain ⟨outcome, state, _⟩ := ofState?_isSome closing
  have sentChildren : snapshot.transmissions.map (·.transmission) ≠ [] := by simpa using sent
  have evidence := NonemptyTuple.ofList?_eq_some.mpr (rfl : (⟨_, observed⟩ : NonemptyTuple _).items = _)
  have children :=
    NonemptyTuple.ofList?_eq_some.mpr (rfl : (⟨_, sentChildren⟩ : NonemptyTuple _).items = _)
  simp only [closeObligation, evidence, children, state]
  exact ⟨_, rfl⟩

theorem Advanced.transition {before draft : EffectSnapshot}
    {call : EffectCall} {kind : RecordKind} (advanced : Advanced store before call draft kind)
    (crossing : before.transmissions ≠ [] ↔ before.state ∉ beforeSendStates) :
    Transition before draft where
  obligation := by cases advanced <;> rfl
  state := advanced.state
  grown := advanced.extends_before
  sent := advanced.crossing crossing
  settled := by
    intro terminal
    cases advanced with
    | sent _ _ _ _ _ edge =>
        rw [transitions_terminal terminal] at edge
        rcases edge with same | none
        · simp [same, terminalStates] at terminal
        · cases none
    | retransmitted _ _ crossed =>
        exact absurd terminal (retransmission_not_terminal crossed)
    | authorized => rfl
    | disposed => rfl
    | denied => rfl
    | evidenced => rfl
    | reconciled => rfl
  observed := by
    intro changed ambiguous
    have closing := transitions_ambiguous ambiguous (advanced.state.resolve_left changed)
    cases advanced with
    | evidenced => simp
    | reconciled _ _ observed => exact observed
    | authorized => simp [closureStates] at closing
    | disposed => exact absurd (Disposition.state_beforeSend _) (closing_beforeSend closing)
    | denied => exact absurd (Disposition.state_beforeSend _) (closing_beforeSend closing)
    | sent => simp [closureStates] at closing
    | retransmitted => exact absurd rfl changed

theorem bindObligation_total {source : RecordSource} {previous : EffectRecord}
    {before draft : EffectSnapshot} (obliged : Obliged before before.recoveryObligation)
    (transition : Transition before draft) :
    ∃ obligation, bindObligation source (some previous) draft = .ok obligation := by
  unfold bindObligation
  split
  · split
    · rename_i ambiguous
      have sent := transition.sent.mpr (ambiguous_beforeSend ambiguous)
      have children : draft.transmissions.map (·.transmission) ≠ [] := by simpa using sent
      simp only [NonemptyTuple.ofList?, dif_pos children]
      exact ⟨_, rfl⟩
    · exact ⟨_, rfl⟩
  · rename_i opening stored
    split
    · rename_i closing
      rw [← transition.obligation, stored] at obliged
      have changed : draft.state ≠ before.state := fun same =>
        closing_not_ambiguous closing (same ▸ obliged.1)
      have sent := transition.sent.mpr (closing_beforeSend closing)
      obtain ⟨closed, accepted⟩ :=
        closeObligation_total opening (transition.observed changed obliged.1) sent closing
      rw [accepted]
      exact ⟨_, rfl⟩
    · exact ⟨_, rfl⟩
  · exact ⟨_, rfl⟩

theorem closeObligation_closure {opening : OpenEffectObligation} {before draft : EffectSnapshot}
    {closed : ClosedEffectObligation}
    (lineage : opening.originalCrossedChildren.items <+: before.children)
    (transition : Transition before draft) (closing : draft.state ∈ closureStates)
    (accepted : closeObligation opening draft = .ok closed) : Closure draft closed := by
  obtain ⟨opened, children, evidence, outcome⟩ := closeObligation_ok accepted
  obtain ⟨expected, found, state⟩ := ofState?_isSome closing
  rw [found, Option.some.injEq] at outcome
  refine ⟨outcome ▸ state, ?_, children, evidence ▸ List.prefix_rfl⟩
  rw [opened, children]
  exact lineage.trans transition.children

/-- Binding the obligation of a draft, seen from the snapshot before it. -/
theorem bindObligation_ok {source : RecordSource} {previous : EffectRecord}
    {before draft : EffectSnapshot} {obligation : Option EffectRecoveryObligation}
    (obliged : Obliged before before.recoveryObligation) (transition : Transition before draft)
    (accepted : bindObligation source (some previous) draft = .ok obligation) :
    Obliged draft obligation ∧ ObligationStep before.recoveryObligation obligation := by
  rw [← transition.obligation] at obliged ⊢
  unfold bindObligation at accepted
  split at accepted
  · rename_i stored
    rw [stored] at obliged ⊢
    split at accepted
    · rename_i ambiguous
      split at accepted
      · rename_i original found children
        cases accepted
        refine ⟨⟨ambiguous, ?_⟩, .open_ _⟩
        exact (NonemptyTuple.ofList?_eq_some.mp children) ▸ List.prefix_rfl
      · cases accepted
    · rename_i clear
      cases accepted
      exact ⟨clear, .clear⟩
  · rename_i opening stored
    rw [stored] at obliged ⊢
    split at accepted
    · rename_i closing
      simp only [bind_ok, pure_ok] at accepted
      obtain ⟨closed, accepted, rfl⟩ := accepted
      obtain rfl := (closeObligation_ok accepted).1
      exact ⟨closeObligation_closure obliged.2 transition closing accepted, .close closed⟩
    · rename_i unclosed
      cases accepted
      have same : draft.state = before.state := by
        rcases transition.state with same | edge
        · exact same
        · exact absurd (transitions_ambiguous obliged.1 edge) unclosed
      refine ⟨⟨?_, obliged.2.trans transition.children⟩, .hold opening⟩
      exact same.symm ▸ obliged.1
  · rename_i closed stored
    rw [stored] at obliged ⊢
    cases accepted
    exact ⟨Closure.carried obliged transition, .keep closed⟩

namespace Follows

variable {previous record : EffectRecord}

theorem obliged (follows : Follows previous record) (kept : KeepsObligation previous) :
    Obliged record.snapshot record.snapshot.recoveryObligation ∧
      ObligationStep previous.snapshot.recoveryObligation record.snapshot.recoveryObligation := by
  obtain ⟨_, _, _, _, draft, kind, advanced, bound⟩ := follows
  obtain ⟨fits, step⟩ :=
    bindObligation_ok kept.2 (advanced.transition kept.1) bound.obligation.1
  exact ⟨fits.congr bound.state bound.transmissions bound.evidence, step⟩

theorem kept (follows : Follows previous record) (kept : KeepsObligation previous) : KeepsObligation record :=
  ⟨follows.crossing kept.1, (follows.obliged kept).1⟩

theorem unresolved (follows : Follows previous record) :
    record.snapshot.unresolvedObligations = unresolved record.snapshot.recoveryObligation := by
  obtain ⟨_, _, _, _, draft, kind, _, bound⟩ := follows
  exact bound.obligation.2

end Follows

variable {stream : List EffectRecord} {draft : EffectSnapshot}

theorem Starts.obligation {record : EffectRecord} (starts : Starts record) :
    record.snapshot.recoveryObligation = none ∧
      record.snapshot.unresolvedObligations = unresolved record.snapshot.recoveryObligation := by
  obtain ⟨_, _, begun⟩ := starts
  obtain ⟨intent, snapshot, kind, created, bound⟩ := begun.bound
  obtain ⟨_, state, _, _, _, _, _, none⟩ := initial_ok created
  obtain ⟨accepted, resolved⟩ := bound.obligation
  refine ⟨?_, resolved⟩
  unfold bindObligation at accepted
  simp only [none, state] at accepted
  rw [if_neg (by decide)] at accepted
  exact (Except.ok.inj accepted).symm

theorem Starts.kept {record : EffectRecord} (starts : Starts record) : KeepsObligation record := by
  refine ⟨by simp [starts.initial.1, starts.initial.2.1, beforeSendStates], ?_⟩
  rw [starts.obligation.1]
  simp [Obliged, starts.initial.1, ambiguousStates]

/-- The obligation lifecycle along the records of one intent. -/
structure ObligationLifecycle (stream : List EffectRecord) : Prop where
  opened : ∀ record ∈ stream, record.snapshot.isOpen ↔ record.snapshot.state ∈ ambiguousStates
  unresolved : ∀ record ∈ stream,
    record.snapshot.unresolvedObligations = unresolved record.snapshot.recoveryObligation
  closed : ∀ front record rest, stream = front ++ record :: rest →
    (record.snapshot.isClosed ↔
      (∃ earlier ∈ front, earlier.snapshot.isOpen) ∧ record.snapshot.state ∈ closureStates)
  held : stream.Pairwise (fun earlier later => ∀ opening,
    earlier.snapshot.recoveryObligation = some (.opened opening) →
      later.snapshot.recoveryObligation = some (.opened opening) ∨
        ∃ closed, later.snapshot.recoveryObligation = some (.closed closed) ∧
          closed.opening = opening)
  final : stream.Pairwise (fun earlier later => ∀ closed,
    earlier.snapshot.recoveryObligation = some (.closed closed) →
      later.snapshot.recoveryObligation = some (.closed closed))
  closure : ∀ record ∈ stream, ∀ closed,
    record.snapshot.recoveryObligation = some (.closed closed) →
      closed.outcome.state = record.snapshot.state ∧ closed.closureEvidence.items ≠ [] ∧
        closed.opening.originalCrossedChildren.items <+: closed.completeChildren.items ∧
        closed.completeChildren.items = record.snapshot.children

theorem keepsObligation_of_linked
    (linked : Linked Starts Follows stream) : ∀ record ∈ stream, KeepsObligation record :=
  linked.forall_mem _ (fun _ starts => starts.kept) (fun _ _ kept follows => follows.kept kept)

theorem carried_of_linked (linked : Linked Starts Follows stream) :
    stream.Pairwise (fun earlier later =>
      Carried earlier.snapshot.recoveryObligation later.snapshot.recoveryObligation) :=
  (linked.strengthen _ (fun _ starts => starts.kept)
    (fun _ _ kept follows => follows.kept kept)).ordered _ Carried.trans
    (fun _ _ kept => (kept.2.obliged kept.1).2.carried)

/-- A closed obligation was open in some earlier record. -/
theorem opened_before_of_linked (linked : Linked Starts Follows stream) :
    ∀ front record, stream = front ++ [record] → record.snapshot.isClosed →
      ∃ earlier ∈ front, earlier.snapshot.isOpen := by
  refine linked.induction
    (motive := fun stream => ∀ front record, stream = front ++ [record] →
      record.snapshot.isClosed → ∃ earlier ∈ front, earlier.snapshot.isOpen) ?_ ?_ ?_
  · intro front record split
    simp at split
  · rintro first starts front record split ⟨closed, stored⟩
    obtain ⟨rfl, rfl⟩ : front = [] ∧ record = first := by
      simpa [List.singleton_eq_append_iff] using split
    simp [starts.obligation.1] at stored
  · rintro stream previous next linked ih last follows front record split ⟨closed, stored⟩
    obtain ⟨rfl, same⟩ := List.append_inj' split rfl
    obtain rfl := List.singleton_inj.mp same
    have member := List.mem_of_getLast? last
    have step := (follows.obliged (keepsObligation_of_linked linked previous member)).2
    rw [stored] at step
    cases before : previous.snapshot.recoveryObligation with
    | none =>
        rw [before] at step
        cases step
    | some obligation =>
        cases obligation with
        | opened opening => exact ⟨previous, member, opening, before⟩
        | closed earlierClosed =>
            obtain ⟨shorter, rfl⟩ := List.getLast?_eq_some_iff.mp last
            obtain ⟨earlier, inside, opened⟩ := ih shorter previous rfl ⟨earlierClosed, before⟩
            exact ⟨earlier, List.mem_append_left _ inside, opened⟩

theorem ObligationLifecycle.of_linked
    (linked : Linked Starts Follows stream) : ObligationLifecycle stream where
  opened := by
    intro record member
    have fits := (keepsObligation_of_linked linked record member).2
    constructor
    · rintro ⟨opening, stored⟩
      rw [stored] at fits
      exact fits.1
    · intro ambiguous
      cases stored : record.snapshot.recoveryObligation with
      | none =>
          rw [stored] at fits
          exact absurd ambiguous fits
      | some obligation =>
          rw [stored] at fits
          cases obligation with
          | opened opening => exact ⟨opening, stored⟩
          | closed closed =>
              have closing := closureOutcome_closing closed.outcome
              rw [fits.outcome] at closing
              exact absurd ambiguous (closing_not_ambiguous closing)
  unresolved :=
    linked.forall_mem _ (fun _ starts => starts.obligation.2) (fun _ _ _ follows => follows.unresolved)
  closed := by
    rintro front record rest rfl
    have here : Linked Starts Follows (front ++ [record]) := by
      rw [List.append_cons] at linked
      exact linked.left
    have fits := (keepsObligation_of_linked here record (by simp)).2
    constructor
    · rintro ⟨closed, stored⟩
      refine ⟨opened_before_of_linked here front record rfl ⟨closed, stored⟩, ?_⟩
      rw [stored] at fits
      exact fits.outcome ▸ closureOutcome_closing closed.outcome
    · rintro ⟨⟨earlier, member, opening, opened⟩, closing⟩
      have carried := (List.pairwise_append.mp (carried_of_linked here)).2.2 earlier member record
        (by simp)
      rcases carried.opened opening opened with held | ⟨closed, stored, _⟩
      · rw [held] at fits
        exact absurd fits.1 (closing_not_ambiguous closing)
      · exact ⟨closed, stored⟩
  held := (carried_of_linked linked).imp (fun carried => carried.opened)
  final := (carried_of_linked linked).imp (fun carried => carried.closed)
  closure := by
    intro record member closed stored
    have fits := (keepsObligation_of_linked linked record member).2
    rw [stored] at fits
    exact ⟨fits.outcome, closed.closureEvidence.nonempty, fits.lineage, fits.children⟩

theorem bindRecord_refuses {source : RecordSource} {previous : Option EffectRecord}
    (store : EffectStoreSnapshot) (kind : RecordKind) (companions : List ExactHead)
    (total : ∃ obligation, bindObligation source previous draft = .ok obligation) :
    Refuses (bindRecord source store previous draft kind companions) := by
  obtain ⟨obligation, accepted⟩ := total
  simp only [bindRecord, accepted, ok_bind]
  exact .ok _

theorem Reachable.keepsObligation (reachable : Reachable store)
    {record : EffectRecord} (latest : store.latest? record.intentId = some record) :
    KeepsObligation record :=
  keepsObligation_of_linked (reachable.linked record.intentId) record (List.mem_of_getLast? latest)

/-- Binding the draft of an accepted operation succeeds. -/
theorem Reachable.bindObligation_total (reachable : Reachable store)
    {call : EffectCall} {previous : EffectRecord} {kind : RecordKind}
    (latest : store.latest? previous.intentId = some previous)
    (advanced : Advanced store previous.snapshot call draft kind) :
    ∃ obligation, bindObligation call.source (some previous) draft = .ok obligation :=
  have kept := reachable.keepsObligation latest
  Effects.bindObligation_total kept.2 (advanced.transition kept.1)

theorem publishIntent_refuses (command : EffectCommand) (intent : ExternalActionIntent)
    (fence : WorkerFence) (store : EffectStoreSnapshot) (current : CurrentEffectInputs)
    {specific : Checked (List ExactHead × RecordKind)} (refuses : Refuses specific) :
    Refuses (publishIntent command intent fence store current specific) := by
  refine (deny_refuses (by decide)).bind (fun _ _ => ?_)
  refine (deny_refuses (by decide)).bind (fun _ _ => ?_)
  refine (requireSemantics_refuses _ _ _).bind (fun _ _ => ?_)
  refine (requireCurrentAuthority_refuses _ _ _).bind (fun _ _ => ?_)
  refine (deny_refuses (by decide)).bind (fun _ _ => ?_)
  refine (initial_refuses _).bind (fun snapshot created => ?_)
  refine (requireNoReplacement_refuses _ _ _).bind (fun _ _ => ?_)
  refine refuses.bind (fun ⟨_, _⟩ _ => bindRecord_refuses _ _ _ ⟨none, ?_⟩)
  obtain ⟨_, state, _, _, _, _, _, unobliged⟩ := initial_ok created
  simp only [bindObligation, unobliged, state]
  rw [if_neg (by decide)]

theorem Reachable.bindAdvanced_refuses (reachable : Reachable store)
    {command : EffectCommand} {current : CurrentEffectInputs} {previous : EffectRecord}
    {kind : RecordKind} (found : previousRecord command store = .ok previous)
    (advanced : advance command store previous.snapshot current = .ok (draft, kind)) :
    Refuses (bindRecord command.source store (some previous) draft kind []) := by
  have total := reachable.bindObligation_total (previousRecord_ok found).1
    (advance_ok found advanced)
  rw [EffectCall.source_transition] at total
  exact bindRecord_refuses _ _ _ total

theorem Reachable.bindDenied_refuses (reachable : Reachable store)
    {command : BeforeSendDispositionV2Command} {previous : EffectRecord} {value : Unit}
    (current : CurrentDenialInputs) (found : deniedRecord command store = .ok previous)
    (registered : requireTransition previous.snapshot.state command.authority.decision.kind.state
      .sendAdapter false = .ok value) :
    Refuses (bindRecord command.source store (some previous)
      { previous.snapshot with state := command.authority.decision.kind.state }
      .beforeSendDisposition []) := by
  have advanced : Advanced store previous.snapshot (.denial command current)
      { previous.snapshot with state := command.authority.decision.kind.state }
      .beforeSendDisposition := denied_of_registered registered
  have total := reachable.bindObligation_total (deniedRecord_ok found).2 advanced
  rw [EffectCall.source_denial] at total
  exact bindRecord_refuses _ _ _ total

theorem Reachable.prepareTransition_refuses
    (reachable : Reachable store) (command : EffectCommand) (current : CurrentEffectInputs) :
    Refuses (prepareTransition command store current) := by
  refine (deny_refuses (by decide)).bind (fun _ _ => ?_)
  refine (deny_refuses (by decide)).bind (fun _ _ => ?_)
  cases command with
  | accept command => exact publishIntent_refuses _ _ _ _ _ (acceptSpecific_refuses _ _)
  | publishPlan command => exact publishIntent_refuses _ _ _ _ _ (.ok _)
  | publishDelivery command => exact publishIntent_refuses _ _ _ _ _ (deliverySpecific_refuses _)
  | publishRecovery command => exact publishIntent_refuses _ _ _ _ _ (recoverySpecific_refuses _ _)
  | authorize | beforeSend | commitSend | recordEvidence | reconcile =>
      refine (previousRecord_refuses _ _).bind (fun previous found => ?_)
      refine (advance_refuses _ _ _ _).bind (fun ⟨draft, kind⟩ advanced => ?_)
      exact reachable.bindAdvanced_refuses found advanced

theorem Reachable.prepareDenial_refuses (reachable : Reachable store)
    (command : BeforeSendDispositionV2Command) (current : CurrentDenialInputs) :
    Refuses (prepareDenial ⟨command, store, current⟩) := by
  refine (requireSameCut_refuses _ _ _).bind (fun _ _ => ?_)
  refine (requireLiveLeases_refuses _ _).bind (fun _ _ => ?_)
  refine (deniedRecord_refuses _ _).bind (fun previous found => ?_)
  refine (deny_refuses (by decide)).bind (fun _ _ => ?_)
  refine (requireSemantics_refuses _ _ _).bind (fun _ _ => ?_)
  refine (deny_refuses (by decide)).bind (fun _ _ => ?_)
  refine (requireRetirement_refuses _ _).bind (fun _ _ => ?_)
  refine (deny_refuses (by decide)).bind (fun _ _ => ?_)
  refine (requireTransition_refuses _ _ _ _).bind (fun _ registered => ?_)
  exact reachable.bindDenied_refuses current found registered

/-- In every reachable store obligations follow their lifecycle, and binding one never
fails: whatever a call is refused for, it is one of the owner's own checks. -/
theorem reachable_obligations {store : EffectStoreSnapshot} (reachable : Reachable store) :
    (∀ intentId, ObligationLifecycle (store.stream intentId)) ∧
      ∀ call : EffectCall, Refuses (call.prepare store) := by
  refine ⟨fun intentId => .of_linked (reachable.linked intentId), fun call => ?_⟩
  cases call with
  | transition command current => exact reachable.prepareTransition_refuses command current
  | denial command current => exact reachable.prepareDenial_refuses command current

end Obligations

theorem reachable_obligations_original :
    ∃ store : EffectStoreSnapshot, store.stream originalId ≠ [] ∧
      (∀ intentId, ObligationLifecycle (store.stream intentId)) ∧
      ∀ call : EffectCall, Refuses (@EffectCall.prepare Sha256.hashlib store call) := by
  obtain ⟨store, record, reachable, dispatched⟩ :=
    @original_dispatched Sha256.hashlib ⟨[sampleHead], by decide⟩
  refine ⟨store, ?_, @reachable_obligations Sha256.hashlib store reachable⟩
  have latest := dispatched.latest
  rw [EffectRecord.intentId, dispatched.own] at latest
  exact List.ne_nil_of_mem (List.mem_of_getLast? latest)

end Chiplog.Effects
