import Chiplog.AgentLoop.RunAgreement

namespace Chiplog.AgentLoop

open Chiplog.Data

/-! Disclosure along a Run.

The context member of each Turn carries the join of all earlier manifests, so the label of
a manifest permits nothing that an earlier one forbids. -/

/-- The labels of everything that was shown to the model in some Turns. -/
def shownLabels (turns : List Turn) : List DisclosureLabel :=
  turns.flatMap (fun turn => turn.attempts.flatMap (fun attempt =>
    attempt.manifest.members.map VisibilityMember.label))

theorem mem_shownLabels {turns : List Turn} {label : DisclosureLabel} :
    label ∈ shownLabels turns ↔ ∃ turn ∈ turns, ∃ attempt ∈ turn.attempts,
      ∃ member ∈ attempt.manifest.members, member.label = label := by
  simp [shownLabels]

/-- A later manifest permits no more than an earlier one. -/
def Turn.Tightens (earlier later : Turn) : Prop :=
  ∀ old ∈ earlier.attempts, ∀ new ∈ later.attempts, ∀ endpoint,
    new.manifest.joinedLabel.Permits endpoint → old.manifest.joinedLabel.Permits endpoint

/-- The manifests of a Turn show its accumulator under the join of its labels. -/
def Turn.Exact (turn : Turn) : Prop :=
  ∀ attempt ∈ turn.attempts, attempt.manifest.members = turn.accumulator ∧
    joinLabels (turn.accumulator.map VisibilityMember.label) = .ok attempt.manifest.joinedLabel

structure RunRecord.Disclosed (run : RunRecord) : Prop where
  exact : ∀ turn ∈ run.turns, turn.Exact
  tightens : run.turns.Pairwise Turn.Tightens
  undelivered : run.state ≠ .succeeded → run.deliveries = []
  permitted : ∀ delivery ∈ run.deliveries, ∃ endpoint, delivery.payload.endpoint = some endpoint ∧
    ∀ label ∈ shownLabels run.turns, label.Permits endpoint.endpointId.text

/-- The next version of a Turn shows nothing new. -/
def Turn.ShowsSame (turn next : Turn) : Prop :=
  next.accumulator = turn.accumulator ∧ ∀ new ∈ next.attempts, ∃ old ∈ turn.attempts,
    new.manifest.members = old.manifest.members ∧
      new.manifest.joinedLabel = old.manifest.joinedLabel

theorem Turn.ShowsSame.exact {turn next : Turn} (same : turn.ShowsSame next) (exact : turn.Exact) :
    next.Exact := by
  intro new member
  obtain ⟨old, found, members, label⟩ := same.2 new member
  obtain ⟨shown, joined⟩ := exact old found
  rw [members, label, same.1]
  exact ⟨shown, joined⟩

theorem Turn.ShowsSame.tightens {turn next earlier : Turn} (same : turn.ShowsSame next)
    (tightens : earlier.Tightens turn) : earlier.Tightens next := by
  intro old earlierMember new member endpoint permits
  obtain ⟨before, found, _, label⟩ := same.2 new member
  exact tightens old earlierMember before found endpoint (label ▸ permits)

theorem Turn.ShowsSame.shownLabels {turn next : Turn} (same : turn.ShowsSame next)
    {front : List Turn} {label : DisclosureLabel}
    (shown : label ∈ shownLabels (front ++ [next])) : label ∈ shownLabels (front ++ [turn]) := by
  rw [mem_shownLabels] at shown ⊢
  obtain ⟨other, member, attempt, attemptMember, shown⟩ := shown
  rcases List.mem_append.mp member with before | last
  · exact ⟨other, List.mem_append_left _ before, attempt, attemptMember, shown⟩
  · rw [List.mem_singleton.mp last] at attemptMember
    obtain ⟨old, found, members, _⟩ := same.2 attempt attemptMember
    rw [members] at shown
    exact ⟨turn, List.mem_concat_self, old, found, shown⟩

/-- The selected attempt changed without its manifest. -/
theorem Turn.Selects.showsSame {turn next : Turn} {early : List ModelAttempt}
    {attempt changed : ModelAttempt} {state : ModelAttemptState}
    (selects : turn.Selects early attempt state) (accumulator : next.accumulator = turn.accumulator)
    (attempts : next.attempts = early ++ [changed]) (manifest : changed.manifest = attempt.manifest) :
    turn.ShowsSame next := by
  refine ⟨accumulator, ?_⟩
  intro new member
  rw [attempts] at member
  rcases List.mem_append.mp member with before | last
  · exact ⟨new, by rw [selects.attempts]; exact List.mem_append_left _ before, rfl, rfl⟩
  · refine ⟨attempt, by rw [selects.attempts]; exact List.mem_concat_self, ?_⟩
    rw [List.mem_singleton.mp last, manifest]
    exact ⟨rfl, rfl⟩

/-- The context member of a prepared request forbids what any earlier manifest forbids. -/
theorem visibilityClosure_tightens [Hashlib] {run : RunRecord} {manifest : VisibilityManifest}
    (closed : visibilityClosure run manifest = .ok ())
    (joined : joinLabels (manifest.members.map VisibilityMember.label) = .ok manifest.joinedLabel) :
    ∀ turn ∈ run.turns.dropLast, ∀ old ∈ turn.attempts, ∀ endpoint,
      manifest.joinedLabel.Permits endpoint → old.manifest.joinedLabel.Permits endpoint := by
  intro turn turnMember old oldMember endpoint permits
  unfold visibilityClosure at closed
  split at closed
  · rename_i prompt schema context _ _ contexts
    simp only [bind_ok, raiseIf_ok, not_or, not_not] at closed
    obtain ⟨_, _, label, contextual, same, _⟩ := closed
    have shown : context ∈ manifest.members := by
      have member : context ∈ surface "context" manifest.members := by
        rw [contexts]
        exact List.mem_singleton_self _
      exact List.mem_of_mem_filter member
    have here : context.label.Permits endpoint :=
      ((joinLabels_ok.mp joined).2.2.2 endpoint).mp permits _ (List.mem_map_of_mem shown)
    rw [same] at here
    apply ((joinLabels_ok.mp contextual).2.2.2 endpoint).mp here
    apply List.mem_cons_of_mem
    exact List.mem_flatMap.mpr ⟨turn, turnMember, List.mem_map_of_mem oldMember⟩
  · cases closed

theorem RunRecord.Disclosed.changeLast {run record : RunRecord} {front : List Turn}
    {turn next : Turn} (disclosed : run.Disclosed) (turns : run.turns = front ++ [turn])
    (changed : record.turns = front ++ [next])
    (kept : next.Exact ∧ ∀ earlier ∈ front, earlier.Tightens next)
    (undelivered : record.state ≠ .succeeded → record.deliveries = [])
    (permitted : ∀ delivery ∈ record.deliveries, ∃ endpoint,
      delivery.payload.endpoint = some endpoint ∧
        ∀ label ∈ shownLabels record.turns, label.Permits endpoint.endpointId.text) :
    record.Disclosed := by
  refine ⟨?_, ?_, undelivered, permitted⟩
  · intro other member
    rw [changed] at member
    rcases List.mem_append.mp member with before | last
    · exact disclosed.exact other (turns ▸ List.mem_append_left _ before)
    · exact List.mem_singleton.mp last ▸ kept.1
  · have pairs := disclosed.tightens
    rw [turns] at pairs
    rw [changed]
    refine List.pairwise_append.mpr ⟨(List.pairwise_append.mp pairs).1, List.pairwise_singleton _ _, ?_⟩
    intro earlier member later last
    exact List.mem_singleton.mp last ▸ kept.2 earlier member

/-- A step that leaves the Turns alone delivers nothing. -/
theorem RunRecord.Disclosed.sameTurns {run record : RunRecord} (disclosed : run.Disclosed)
    (turns : record.turns = run.turns) (deliveries : record.deliveries = run.deliveries)
    (running : run.state ≠ .succeeded) : record.Disclosed := by
  have none := deliveries.trans (disclosed.undelivered running)
  refine ⟨turns ▸ disclosed.exact, turns ▸ disclosed.tightens, fun _ => none, ?_⟩
  simp [none]

/-- What a delivery was checked against. -/
theorem acceptDelivery_permits [Hashlib] {run : RunRecord} {attempt : ModelAttempt}
    {items : List Delivery} {final : Deliveries}
    (folded : items.foldlM (acceptDelivery run attempt) ⟨[], []⟩ = .ok final) :
    ∀ delivery ∈ final.accepted, ∃ endpoint, delivery.payload.endpoint = some endpoint ∧
      ∀ label ∈ shownLabels run.turns, label.Permits endpoint.endpointId.text := by
  apply foldlM_invariant (fun _ state => ∀ delivery ∈ state.accepted, ∃ endpoint,
    delivery.payload.endpoint = some endpoint ∧
      ∀ label ∈ shownLabels run.turns, label.Permits endpoint.endpointId.text) nofun ?_ folded
  intro done item state next sofar step delivery member
  simp only [acceptDelivery, bind_ok, raiseIf_ok, pure_ok, not_or, not_not] at step
  obtain ⟨_, _, label, historical, _, ⟨_, allowed, inside⟩, _, _, rendered, _, rfl⟩ := step
  rcases List.mem_append.mp member with earlier | last
  · exact sofar delivery earlier
  · rw [List.mem_singleton.mp last]
    refine ⟨item.endpoint.getD run.origin, rfl, ?_⟩
    have permits : label.Permits (item.endpoint.getD run.origin).endpointId.text := by
      cases value : label.value <;> simp_all [DisclosureLabel.Permits]
    exact ((joinLabels_ok.mp historical).2.2.2 _).mp permits

/-- The join of everything shown up to a Turn is the label of that Turn's manifest. -/
theorem RunRecord.Disclosed.joined {run : RunRecord} (disclosed : run.Disclosed)
    {front rest : List Turn} {turn : Turn} (turns : run.turns = front ++ turn :: rest)
    {attempt : ModelAttempt} (member : attempt ∈ turn.attempts) :
    joinLabels (shownLabels (front ++ [turn])) = .ok attempt.manifest.joinedLabel := by
  have listed : ∀ other ∈ front ++ [turn], other ∈ run.turns := by
    intro other found
    rw [turns]
    rcases List.mem_append.mp found with before | last
    · exact List.mem_append_left _ before
    · rw [List.mem_singleton.mp last]
      exact List.mem_append_right _ List.mem_cons_self
  have here : turn ∈ front ++ [turn] := List.mem_concat_self
  obtain ⟨shown, joined⟩ := disclosed.exact turn (listed turn here) attempt member
  obtain ⟨nonempty, _, formed, permits⟩ := joinLabels_ok.mp joined
  have pairs := disclosed.tightens
  rw [turns] at pairs
  -- An earlier manifest permits what this one does, so all its members do.
  have earlier : ∀ other ∈ front ++ [turn], ∀ old ∈ other.attempts, ∀ endpoint,
      attempt.manifest.joinedLabel.Permits endpoint →
        old.manifest.joinedLabel.Permits endpoint := by
    intro other found old oldMember endpoint allowed
    rcases List.mem_append.mp found with before | last
    · exact (List.pairwise_append.mp pairs).2.2 other before turn List.mem_cons_self old oldMember
        attempt member endpoint allowed
    · rw [List.mem_singleton.mp last] at oldMember
      have same := (disclosed.exact turn (listed turn here) old oldMember).2
      exact Except.ok.inj (joined.symm.trans same) ▸ allowed
  refine joinLabels_ok.mpr ⟨?_, ?_, formed, ?_⟩
  · obtain ⟨label, found⟩ := List.exists_mem_of_ne_nil _ nonempty
    obtain ⟨entry, entryMember, rfl⟩ := List.mem_map.mp found
    exact List.ne_nil_of_mem (mem_shownLabels.mpr
      ⟨turn, here, attempt, member, entry, shown ▸ entryMember, rfl⟩)
  · intro label found
    obtain ⟨other, otherMember, old, oldMember, entry, entryMember, rfl⟩ := mem_shownLabels.mp found
    obtain ⟨same, otherJoined⟩ := disclosed.exact other (listed other otherMember) old oldMember
    exact (joinLabels_ok.mp otherJoined).2.1 _ (List.mem_map_of_mem (same ▸ entryMember))
  · intro endpoint
    constructor
    · intro allowed label found
      obtain ⟨other, otherMember, old, oldMember, entry, entryMember, rfl⟩ :=
        mem_shownLabels.mp found
      obtain ⟨same, otherJoined⟩ := disclosed.exact other (listed other otherMember) old oldMember
      exact ((joinLabels_ok.mp otherJoined).2.2.2 endpoint).mp
        (earlier other otherMember old oldMember endpoint allowed) _
        (List.mem_map_of_mem (same ▸ entryMember))
    · intro all
      rw [permits]
      intro label found
      obtain ⟨entry, entryMember, rfl⟩ := List.mem_map.mp found
      exact all _ (mem_shownLabels.mpr ⟨turn, here, attempt, member, entry, shown ▸ entryMember, rfl⟩)

section Disclosure

variable [Hashlib] [pydantic : Pydantic]

/-- One operation on the last Turn keeps the labels exact and tightening. -/
theorem TurnMove.disclosed {run : RunRecord} {front : List Turn} {turn next : Turn}
    (move : TurnMove run turn next) (turns : run.turns = front ++ [turn]) (exact : turn.Exact)
    (tightens : ∀ earlier ∈ front, earlier.Tightens turn) :
    next.Exact ∧ ∀ earlier ∈ front, earlier.Tightens next := by
  have unchanged : turn.ShowsSame next → next.Exact ∧ ∀ earlier ∈ front, earlier.Tightens next :=
    fun same => ⟨same.exact exact, fun earlier member => same.tightens (tightens earlier member)⟩
  cases move with
  | accumulate unsent preparing folded =>
      refine ⟨?_, fun earlier _ old _ new member => ?_⟩
      · simp [Turn.Exact, unsent]
      · simp [unsent] at member
  | prepare unsent preparing members first joined closed =>
      refine ⟨?_, ?_⟩
      · intro attempt member
        rw [List.mem_singleton.mp member]
        exact ⟨members, joined⟩
      · intro earlier earlierMember old oldMember new member endpoint permits
        rw [List.mem_singleton.mp member] at permits
        rw [← members] at joined
        apply visibilityClosure_tightens closed joined earlier ?_ old oldMember endpoint permits
        rw [turns, List.dropLast_concat]
        exact earlierMember
  | emit selects => exact unchanged (selects.showsSame rfl rfl rfl)
  | replace selects retries =>
      have selected := selects.attempts ▸ List.mem_concat_self
      apply unchanged
      refine ⟨rfl, ?_⟩
      intro new member
      rcases List.mem_append.mp member with before | last
      · exact ⟨new, before, rfl, rfl⟩
      · rw [List.mem_singleton.mp last]
        exact ⟨_, selected, rfl, rfl⟩
  | capture selects => exact unchanged (selects.showsSame rfl rfl rfl)
  | reject selects => exact unchanged (selects.showsSame rfl rfl rfl)
  | accept selects captured parsed bounded => exact unchanged (selects.showsSame rfl rfl rfl)
  | terminalTool sealedCalls found initialized =>
      exact unchanged ⟨rfl, fun new member => ⟨new, member, rfl, rfl⟩⟩

theorem RunMove.disclosed {run record : RunRecord} (move : RunMove run record)
    (disclosed : run.Disclosed) : record.Disclosed := by
  cases move with
  | transition edge =>
      refine disclosed.sameTurns rfl rfl ?_
      cases state : run.state <;> simp_all [LoopRunState.edges]
  | suspend active => exact disclosed.sameTurns rfl rfl (by simp [active])
  | receipt active => exact disclosed.sameTurns rfl rfl (by simp [active])
  | start active continued within =>
      have none := disclosed.undelivered (by simp [active])
      refine ⟨?_, ?_, fun _ => none, ?_⟩
      · intro turn member
        rcases List.mem_append.mp member with before | last
        · exact disclosed.exact turn before
        · rw [List.mem_singleton.mp last]
          simp [Turn.Exact, openedTurn]
      · refine List.pairwise_append.mpr ⟨disclosed.tightens, List.pairwise_singleton _ _, ?_⟩
        intro earlier member later last old oldMember new newMember
        rw [List.mem_singleton.mp last] at newMember
        simp [openedTurn] at newMember
      · simp [none]
  | turn active turns move =>
      have none := disclosed.undelivered (by simp [active])
      have pairs := disclosed.tightens
      rw [turns] at pairs
      have kept := move.disclosed turns (disclosed.exact _ (turns ▸ List.mem_concat_self))
        (fun earlier member => (List.pairwise_append.mp pairs).2.2 earlier member _ (by simp))
      refine disclosed.changeLast turns rfl kept (fun _ => none) ?_
      simp [none]
  | complete active turns selects captured parsed folded =>
      have pairs := disclosed.tightens
      rw [turns] at pairs
      have last := fun earlier member =>
        (List.pairwise_append.mp pairs).2.2 earlier member _ (List.mem_singleton_self _)
      refine disclosed.changeLast turns rfl ⟨?_, ?_⟩ (fun state => absurd rfl state) ?_
      · refine Turn.ShowsSame.exact ?_ (disclosed.exact _ (turns ▸ List.mem_concat_self))
        exact selects.showsSame rfl rfl rfl
      · intro earlier member
        refine Turn.ShowsSame.tightens ?_ (last earlier member)
        exact selects.showsSame rfl rfl rfl
      · intro delivery member
        obtain ⟨endpoint, selected, permits⟩ := acceptDelivery_permits folded delivery member
        refine ⟨endpoint, selected, fun label shown => permits label ?_⟩
        rw [turns]
        refine Turn.ShowsSame.shownLabels ?_ shown
        exact selects.showsSame rfl rfl rfl

theorem OwnerRun.disclosed {steps : List RunStep} {run : RunRecord} (reached : OwnerRun steps run) :
    run.Disclosed := by
  induction reached with
  | genesis valid =>
      obtain ⟨turns, deliveries, _, _⟩ := validateRecord_none_ok valid
      exact ⟨by simp [turns], by simp [turns], fun _ => deliveries, by simp [deliveries]⟩
  | step before returned ih => exact (RunOp.apply_move returned).disclosed ih

/-- Labels only tighten along every run of the owner: the join of everything shown so far is the
label of the current manifest, and whatever is delivered goes where every member may go. -/
theorem disclosure_tightens {steps : List RunStep} {run : RunRecord}
    (reached : OwnerRun steps run) :
    (∀ front turn rest, run.turns = front ++ turn :: rest → ∀ attempt ∈ turn.attempts,
      joinLabels (shownLabels (front ++ [turn])) = .ok attempt.manifest.joinedLabel) ∧
    (∀ state attempt, currentAttempt run state = .ok attempt →
      historicalLabel run = .ok attempt.manifest.joinedLabel) ∧
    ∀ delivery ∈ run.deliveries, ∃ endpoint, delivery.payload.endpoint = some endpoint ∧
      ∀ turn ∈ run.turns, ∀ attempt ∈ turn.attempts, ∀ member ∈ attempt.manifest.members,
        member.label.Permits endpoint.endpointId.text := by
  have disclosed := reached.disclosed
  refine ⟨fun front turn rest turns attempt member => disclosed.joined turns member, ?_, ?_⟩
  · intro state attempt current
    obtain ⟨turn, early, last, selects⟩ := currentAttempt_ok.mp current
    obtain ⟨_, front, turns⟩ := currentTurn_ok.mp last
    have joined := disclosed.joined turns (selects.attempts ▸ List.mem_concat_self)
    rw [← turns] at joined
    exact joined
  · intro delivery member
    obtain ⟨endpoint, selected, permits⟩ := disclosed.permitted delivery member
    exact ⟨endpoint, selected, fun turn turnMember attempt attemptMember shown shownMember =>
      permits _ (mem_shownLabels.mpr
        ⟨turn, turnMember, attempt, attemptMember, shown, shownMember, rfl⟩)⟩

end Disclosure

def sampleComplete : Complete :=
  ⟨⟨[⟨.nonAuthoritativeText, some ⟨"done", written _ trivial⟩, none, none, none⟩],
    List.cons_ne_nil _ _⟩⟩

/-- A model that answers every request with the same completion. -/
@[reducible] def completingModel : Pydantic :=
  { silentModel with
    responseSchema := fun _ => "schema"
    validateResponse := fun _ _ => some (.inr sampleComplete)
    validateComplete := fun _ => some sampleComplete }

theorem sample_completed [Hashlib] (worker : Identity) :
    letI := completingModel
    ∃ emitted captured completed,
      RunOp.apply (samplePrepared worker) .emit = .ok emitted ∧
      RunOp.apply emitted (.capture [1] "receipt") = .ok captured ∧
      RunOp.apply captured (.complete sampleComplete) = .ok completed ∧
      completed.deliveries.length = 1 :=
  ⟨_, _, _, rfl, rfl, rfl, rfl⟩

/-- The prepared attempt under its label, and the delivery of what the model answered to it. -/
theorem disclosure_tightens_sample :
    letI := Sha256.hashlib
    letI := completingModel
    let run := samplePrepared ⟨"owner", by decide⟩
    historicalLabel run = .ok sampleLabel ∧
      ∃ steps completed, OwnerRun steps completed ∧ completed.deliveries.length = 1 ∧
        ∀ delivery ∈ completed.deliveries, ∃ endpoint, delivery.payload.endpoint = some endpoint ∧
          ∀ turn ∈ completed.turns, ∀ attempt ∈ turn.attempts, ∀ member ∈ attempt.manifest.members,
            member.label.Permits endpoint.endpointId.text := by
  let _ := Sha256.hashlib
  let _ := completingModel
  have reached := sample_run ⟨"owner", by decide⟩
  obtain ⟨emitted, captured, completed, emit, capture, complete, delivered⟩ :=
    sample_completed ⟨"owner", by decide⟩
  have finished := ((reached.step emit).step capture).step complete
  exact ⟨(disclosure_tightens reached).2.1 _ _ (sample_attempt _), _, completed, finished, delivered,
    (disclosure_tightens finished).2.2⟩

end Chiplog.AgentLoop
