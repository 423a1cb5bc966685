import Chiplog.Effects.EvidenceReduction

namespace Chiplog.Effects

open Chiplog.Data

/-! Which observation kinds decide outcomes.

The kind of an event and its member lists are independent fields, and the reducer reads only the
lists.  An event whose kind says nothing about the effect therefore decides its outcome as soon as
it lists a member; where no such event is recorded, only asserting kinds do. -/

/-- The kinds that say how the effect ended. -/
def outcomeObservations : List Observation :=
  [.exactEffectConfirmed, .permanentlyIncapable, .mixedBundle]

/-- An event that says of some child how a member ended. -/
def Decides (event : RecordEvidenceCommand) : Prop :=
  event.coveredChildren ≠ [] ∧
    (event.occurredMembers ≠ [] ∨ event.permanentlyIncapableMembers ≠ [])

/-- An event that decides under a kind that says so, or does not decide. -/
def Asserted (event : RecordEvidenceCommand) : Prop :=
  Decides event → event.observation ∈ outcomeObservations

/-- The events that a command records. -/
def EffectCommand.events : EffectCommand → List RecordEvidenceCommand
  | .recordEvidence event => [event]
  | _ => []

/-- A call that records no event but an asserted one. -/
def AssertedCall (_ : EffectStoreSnapshot) : EffectCall → Prop
  | .transition (.recordEvidence event) _ => Asserted event
  | _ => True

section Reduction

variable [Hashlib] {store : EffectStoreSnapshot}

/-- The observations one event contributes. -/
def eventRows (members : List ExactHead) (event : RecordEvidenceCommand) :
    List ChildMemberEvidence :=
  event.coveredChildren.flatMap (eventObservations event members)

/-- Every observation that counts comes from an event whose kind asserts an outcome. -/
def OutcomesAsserted (snapshot : EffectSnapshot) : Prop :=
  ∀ event ∈ snapshot.evidenceRecords,
    ∀ row ∈ eventRows snapshot.intent.inseparableBundleMembers.items event, Decisive row →
      event.observation ∈ outcomeObservations

/-- The state was reduced from the observations of the retained events. -/
def ReducedTo (before : AttemptState) (snapshot : EffectSnapshot) : Prop :=
  ∃ rows, collectObservations snapshot.children snapshot.intent.inseparableBundleMembers.items
      snapshot.evidenceRecords = .ok rows ∧
    rows = snapshot.evidenceRecords.flatMap
      (eventRows snapshot.intent.inseparableBundleMembers.items) ∧
    reduceChildEvidence before snapshot.transmissions
      snapshot.intent.inseparableBundleMembers.items rows = .ok snapshot.state

/-- An accepted evidence or reconcile command that moves its attempt to a verdict. -/
structure Concludes (store : EffectStoreSnapshot) (command : EffectCommand)
    (current : CurrentEffectInputs) (previous : EffectRecord)
    (prepared : PreparedEffectPublication) : Prop where
  accepted : prepareTransition command store current = .ok prepared
  addressed : previousRecord command store = .ok previous
  writer : (∃ event, command = .recordEvidence event) ∨
    ∃ reconciliation, command = .reconcile reconciliation
  verdict : prepared.record.snapshot.state ∈ closureStates
  moved : prepared.record.snapshot.state ≠ previous.snapshot.state

theorem collectObservations_eq {children members : List ExactHead}
    {events : List RecordEvidenceCommand} {rows : List ChildMemberEvidence}
    (collected : collectObservations children members events = .ok rows) :
    rows = events.flatMap (eventRows members) := by
  induction events generalizing rows with
  | nil =>
      cases collected
      rfl
  | cons event rest ih =>
      simp only [collectObservations, bind_ok, pure_ok] at collected
      obtain ⟨_, _, later, continued, rfl⟩ := collected
      rw [ih continued]
      rfl

theorem mem_eventObservations_of_occurred {event : RecordEvidenceCommand} {members : List ExactHead}
    {child member : ExactHead} (inside : member ∈ members)
    (occurred : member ∈ event.occurredMembers) :
    ⟨event.retainedHead, child, member, .occurred⟩ ∈ eventObservations event members child := by
  simp only [eventObservations, List.mem_flatMap, List.mem_append]
  exact ⟨member, inside, .inl (.inl (by rw [if_pos occurred]; exact List.mem_singleton_self _))⟩

theorem mem_eventObservations_of_incapable {event : RecordEvidenceCommand}
    {members : List ExactHead} {child member : ExactHead} (inside : member ∈ members)
    (incapable : member ∈ event.permanentlyIncapableMembers) :
    ⟨event.retainedHead, child, member, .permanentlyIncapable⟩ ∈
      eventObservations event members child := by
  simp only [eventObservations, List.mem_flatMap, List.mem_append]
  exact ⟨member, inside, .inl (.inr (by rw [if_pos incapable]; exact List.mem_singleton_self _))⟩

/-- An observation that counts was listed by its event. -/
theorem eventObservations_listed {event : RecordEvidenceCommand} {members : List ExactHead}
    {child : ExactHead} {row : ChildMemberEvidence}
    (observed : row ∈ eventObservations event members child) :
    (row.outcome = .occurred → row.member ∈ event.occurredMembers) ∧
      (row.outcome = .permanentlyIncapable → row.member ∈ event.permanentlyIncapableMembers) := by
  simp only [eventObservations, List.mem_flatMap, List.mem_append, List.mem_ite_nil_right,
    List.mem_singleton] at observed
  obtain ⟨member, _, (⟨occurred, rfl⟩ | ⟨incapable, rfl⟩) | ⟨_, rfl⟩⟩ := observed
  · exact ⟨fun _ => occurred, by simp⟩
  · exact ⟨by simp, fun _ => incapable⟩
  · exact ⟨by simp, by simp⟩

/-- The events that contribute to an outcome are those that decide. -/
theorem decides_iff {children members : List ExactHead} {event : RecordEvidenceCommand}
    (drawn : DrawnFrom children members event) :
    Decides event ↔ ∃ row ∈ eventRows members event, Decisive row := by
  constructor
  · rintro ⟨covers, lists⟩
    obtain ⟨child, covered⟩ := List.exists_mem_of_ne_nil _ covers
    rcases lists with occurs | incapables
    · obtain ⟨member, occurred⟩ := List.exists_mem_of_ne_nil _ occurs
      exact ⟨_, List.mem_flatMap.mpr ⟨child, covered, mem_eventObservations_of_occurred
        (drawn.occurred.2 member occurred) occurred⟩, .inl rfl⟩
    · obtain ⟨member, incapable⟩ := List.exists_mem_of_ne_nil _ incapables
      exact ⟨_, List.mem_flatMap.mpr ⟨child, covered, mem_eventObservations_of_incapable
        (drawn.incapable.2 member incapable) incapable⟩, .inr rfl⟩
  · rintro ⟨row, contributed, decisive⟩
    obtain ⟨child, covered, observed⟩ := List.mem_flatMap.mp contributed
    refine ⟨List.ne_nil_of_mem covered, ?_⟩
    have listed := eventObservations_listed observed
    rcases decisive with occurred | incapable
    · exact .inl (List.ne_nil_of_mem (listed.1 occurred))
    · exact .inr (List.ne_nil_of_mem (listed.2 incapable))

theorem evidenceState_reducedTo {snapshot : EffectSnapshot} {state : AttemptState}
    (reduced : evidenceState snapshot = .ok state) :
    ReducedTo snapshot.state { snapshot with state } := by
  simp only [evidenceState, bind_ok] at reduced
  obtain ⟨rows, collected, verdicts⟩ := reduced
  exact ⟨rows, collected, collectObservations_eq collected, verdicts⟩

theorem Bound.reducedTo {source : RecordSource} {previous : Option EffectRecord}
    {draft : EffectSnapshot} {kind : RecordKind} {record : EffectRecord} {before : AttemptState}
    (bound : Bound source previous draft kind record) (reduced : ReducedTo before draft) :
    ReducedTo before record.snapshot := by
  obtain ⟨_, _, rfl⟩ := bound
  exact reduced

theorem recordEvidence_reducedTo {event : RecordEvidenceCommand}
    {before after : EffectSnapshot} {current : CurrentEffectInputs} {kind : RecordKind}
    (recorded : recordEvidence event store before current = .ok (after, kind))
    (verdict : after.state ∈ closureStates) (moved : after.state ≠ before.state) :
    ReducedTo before.state after ∧
      after.evidenceRecords = before.evidenceRecords ++ [event] := by
  simp only [recordEvidence, bind_ok, pure_ok, Prod.mk.injEq] at recorded
  obtain ⟨_, _, _, _, _, _, _, _, _, _, _, _, state, reduced, rfl, _⟩ := recorded
  refine ⟨?_, rfl⟩
  unfold reduceEvidence at reduced
  split at reduced
  · simp only [bind_ok, pure_ok] at reduced
    obtain ⟨_, computed, _, _, rfl⟩ := reduced
    unfold reducedState at computed
    split at computed
    · cases computed
      simp [closureStates] at verdict
    · exact evidenceState_reducedTo computed
  · cases reduced
    exact absurd rfl moved

theorem reconcileEffect_reducedTo {command : ReconcileEffectCommand}
    {before after : EffectSnapshot} {current : CurrentEffectInputs} {kind : RecordKind}
    (reconciled : reconcileEffect command before current = .ok (after, kind)) :
    ReducedTo before.state after ∧ after.evidenceRecords = before.evidenceRecords := by
  simp only [reconcileEffect, bind_ok, pure_ok, Prod.mk.injEq] at reconciled
  obtain ⟨_, _, _, _, _, _, state, computed, _, _, rfl, _⟩ := reconciled
  exact ⟨evidenceState_reducedTo computed, rfl⟩

/-- A command that concludes reduced the whole history, with its own event at the end. -/
theorem Concludes.reduced {command : EffectCommand}
    {current : CurrentEffectInputs} {previous : EffectRecord} {prepared : PreparedEffectPublication}
    (concludes : Concludes store command current previous prepared) :
    ReducedTo previous.snapshot.state prepared.record.snapshot ∧
      prepared.record.snapshot.evidenceRecords =
        previous.snapshot.evidenceRecords ++ command.events := by
  have accepted := concludes.accepted
  have verdict := concludes.verdict
  rcases concludes.writer with ⟨event, rfl⟩ | ⟨reconciliation, rfl⟩
  · simp only [prepareTransition, bind_ok, concludes.addressed, Except.ok.injEq] at accepted
    obtain ⟨_, _, _, _, _, rfl, ⟨draft, kind⟩, advanced, accepted⟩ := accepted
    have bound := bindRecord_ok accepted
    rw [bound.state] at verdict
    obtain ⟨reduced, grown⟩ :=
      recordEvidence_reducedTo advanced verdict (bound.state ▸ concludes.moved)
    exact ⟨bound.reducedTo reduced, bound.evidenceRecords.trans grown⟩
  · simp only [prepareTransition, bind_ok, concludes.addressed, Except.ok.injEq] at accepted
    obtain ⟨_, _, _, _, _, rfl, ⟨draft, kind⟩, advanced, accepted⟩ := accepted
    have bound := bindRecord_ok accepted
    obtain ⟨reduced, kept⟩ := reconcileEffect_reducedTo advanced
    exact ⟨bound.reducedTo reduced,
      bound.evidenceRecords.trans (kept.trans (List.append_nil _).symm)⟩

/-- The condition is exact at every step. -/
theorem outcomesAsserted_iff {before : AttemptState} {snapshot : EffectSnapshot}
    (reduced : ReducedTo before snapshot) :
    OutcomesAsserted snapshot ↔ ∀ event ∈ snapshot.evidenceRecords, Asserted event := by
  obtain ⟨_, collected, _, _⟩ := reduced
  have drawn := collectObservations_drawn collected
  constructor
  · intro asserted event retained decides
    obtain ⟨row, contributed, decisive⟩ := (decides_iff (drawn event retained)).mp decides
    exact asserted event retained row contributed decisive
  · intro asserted event retained row contributed decisive
    exact asserted event retained
      ((decides_iff (drawn event retained)).mpr ⟨row, contributed, decisive⟩)

/-- What a step retains, it retained before or has just recorded. -/
theorem Advanced.retained {before after : EffectSnapshot}
    {call : EffectCall} {kind : RecordKind} (advanced : Advanced store before call after kind) :
    ∀ event ∈ after.evidenceRecords, event ∈ before.evidenceRecords ∨
      ∃ current, call = .transition (.recordEvidence event) current := by
  cases advanced with
  | evidenced state _ _ =>
      intro event inside
      rcases List.mem_append.mp inside with earlier | new
      · exact .inl earlier
      · obtain rfl := List.mem_singleton.mp new
        exact .inr ⟨_, rfl⟩
  | authorized | disposed | denied | sent | retransmitted | reconciled =>
      exact fun event inside => .inl inside

/-- Events enter a store only as its recorded calls. -/
theorem Recorded.retained {call : EffectCall} {record : EffectRecord}
    (recorded : Recorded store call record) :
    ∀ event ∈ record.snapshot.evidenceRecords,
      (∃ earlier ∈ store.records, event ∈ earlier.snapshot.evidenceRecords) ∨
        ∃ current, call = .transition (.recordEvidence event) current := by
  rcases recorded.shape with begun | ⟨previous, continued⟩
  · obtain ⟨_, _, _, created, bound⟩ := begun.bound
    rw [bound.evidenceRecords, (initial_ok created).2.2.2.2.2.1]
    simp
  · obtain ⟨draft, _, advanced, bound⟩ := continued.advanced
    rw [bound.evidenceRecords]
    intro event inside
    rcases advanced.retained event inside with earlier | called
    · exact .inl ⟨previous, (latest?_mem continued.latest).1, earlier⟩
    · exact .inr called

/-- A property of every recorded event is a property of every retained one. -/
theorem ReachableBy.retains {admits : EffectStoreSnapshot → EffectCall → Prop}
    {property : RecordEvidenceCommand → Prop} (reachable : ReachableBy admits store)
    (recorded : ∀ store event current,
      admits store (.transition (.recordEvidence event) current) → property event) :
    ∀ record ∈ store.records, ∀ event ∈ record.snapshot.evidenceRecords, property event := by
  induction reachable with
  | empty => simp
  | @commit store call prepared _ admitted accepted tenantHead ih =>
      intro record member event inside
      rcases List.mem_append.mp member with earlier | new
      · exact ih record earlier event inside
      · rw [List.mem_singleton.mp new] at inside
        rcases (EffectCall.prepare_ok accepted).retained event inside with
          ⟨before, among, retained⟩ | ⟨current, rfl⟩
        · exact ih before among event retained
        · exact recorded store event current admitted

/-- Where only asserted events are recorded, only asserting kinds decide outcomes; at a single
step this holds exactly when the events of the record before it and the command's own event are
asserted. -/
theorem asserted_outcomes :
    (∀ store command current previous prepared,
      Concludes store command current previous prepared →
        ReducedTo previous.snapshot.state prepared.record.snapshot ∧
        (OutcomesAsserted prepared.record.snapshot ↔
          ∀ event ∈ previous.snapshot.evidenceRecords ++ command.events, Asserted event)) ∧
    ∀ store command current previous prepared, ReachableBy AssertedCall store →
      AssertedCall store (.transition command current) →
      Concludes store command current previous prepared →
        OutcomesAsserted prepared.record.snapshot := by
  constructor
  · intro store command current previous prepared concludes
    obtain ⟨reduced, events⟩ := concludes.reduced
    exact ⟨reduced, events ▸ outcomesAsserted_iff reduced⟩
  · intro store command current previous prepared reachable admitted concludes
    refine (outcomesAsserted_iff concludes.reduced.1).mpr (fun event inside => ?_)
    rcases (prepareTransition_ok concludes.accepted).retained event inside with
      ⟨earlier, among, retained⟩ | ⟨_, same⟩
    · exact reachable.retains (fun _ _ _ asserted => asserted) earlier among event retained
    · cases same
      exact admitted

theorem ReachableBy.mono {admits allows : EffectStoreSnapshot → EffectCall → Prop}
    (reachable : ReachableBy admits store)
    (weaker : ∀ store call, admits store call → allows store call) : ReachableBy allows store := by
  induction reachable with
  | empty tenantId tenantHead => exact .empty tenantId tenantHead
  | commit _ admitted accepted tenantHead ih =>
      exact .commit ih (weaker _ _ admitted) accepted tenantHead

/-- A clean call that records no event. -/
def QuietCall (store : EffectStoreSnapshot) (call : EffectCall) : Prop :=
  CleanCall store call ∧ ∀ event current, call ≠ .transition (.recordEvidence event) current

/-- A provider's answer of kind `observation` that lists the whole bundle as incapable. -/
def incapableEvent (observation : Observation) (record : EffectRecord) (child : ExactHead)
    (tenantHead : Nat) : RecordEvidenceCommand where
  identity := ⟨⟨"evidence", by decide⟩, ⟨"evidence", by decide⟩, tenantHead⟩
  expectedAttempt := record.snapshot.attempt
  evidenceId := sampleId
  rawBytes := ⟨[1], oneByte_ne_nil⟩
  authentication := .provider
    { brokerCustody := sampleHead
      ingressSurface := sampleId
      sourceContractVersion := sampleId
      tenantId := sampleId
      sourceIdentity := sampleId
      providerAccount := sampleId
      endpoint := sampleHead
      credentialKey := sampleHead
      audience := sampleId
      rawDigest := (sha256 [1]).identity
      sourceReplayIdentity := sampleId
      intent := record.snapshot.intent.exactHead
      transmission := child
      freshness := sampleHead }
  semantics := record.snapshot.intent.semantics
  observation
  coveredChildren := record.snapshot.children
  occurredMembers := []
  permanentlyIncapableMembers := record.snapshot.intent.inseparableBundleMembers.items

omit [Hashlib] in
theorem quiet_unsent {command : EffectCommand}
    {current : CurrentEffectInputs} (silent : ∀ event, command ≠ .recordEvidence event)
    (clean : CleanCall store (.transition command current)) :
    QuietCall store (.transition command current) := by
  refine ⟨clean, fun event _ same => ?_⟩
  cases same
  exact silent event rfl

/-- Before any event a sent original waits in three records, of which only the last has a child. -/
theorem original_waiting : ∃ store record child, ReachableBy QuietCall store ∧
    Dispatched emptyStore store (originalIntent ⟨[sampleHead], by decide⟩) originalCommands record ∧
    child ∈ record.snapshot.transmissions ∧ record.snapshot.evidenceRecords = [] ∧
    store.records.filter (fun row => row.snapshot.attempt = record.snapshot.attempt ∧
      ∃ sent ∈ row.snapshot.transmissions, sent.transmission = child.transmission) = [record] := by
  let intent := originalIntent ⟨[sampleHead], by decide⟩
  obtain ⟨published, authorized, record, store, grown, reachable, first, second, dispatched⟩ :
      ∃ published authorized sent : EffectRecord, ∃ later,
        later = ((emptyStore.commit published 1).commit authorized 2).commit sent 3 ∧
        ReachableBy QuietCall later ∧ Unsent intent .intentRecorded published ∧
        Unsent intent .dispatchAuthorized authorized ∧
        Dispatched emptyStore later intent originalCommands sent :=
    dispatch_records sampleFence (.empty sampleId 0)
      ⟨fun _ _ _ => quiet_unsent (fun _ same => nomatch same) (fun _ _ => trivial),
        fun _ _ _ => quiet_unsent (fun _ same => nomatch same) (fun _ _ => trivial),
        fun _ _ _ own => quiet_unsent (fun _ same => nomatch same) (fun previous found _ => by
          rw [own previous found]
          exact List.nodup_singleton sampleHead)⟩ (by decide)
      (by simp [emptyStore]) (originalIntent_dispatchable ⟨[sampleHead], by decide⟩)
  have records : store.records = [published, authorized, record] := by
    rw [grown]
    rfl
  have member : record ∈ store.records := by simp [records]
  have sent : record.snapshot.transmissions ≠ [] :=
    (reachable.reachable.crossing member).mpr (by rw [dispatched.state]; decide)
  obtain ⟨child, inside⟩ := List.exists_mem_of_ne_nil _ sent
  have silent : record.snapshot.evidenceRecords = [] := by
    refine List.eq_nil_iff_forall_not_mem.mpr (fun event retained => ?_)
    have nothing : ∀ store event current,
        QuietCall store (.transition (.recordEvidence event) current) → False :=
      fun _ event current quiet => quiet.2 event current rfl
    exact reachable.retains nothing record member event retained
  refine ⟨store, record, child, reachable, dispatched, inside, silent, ?_⟩
  have own : ∃ sent ∈ record.snapshot.transmissions, sent.transmission = child.transmission :=
    ⟨child, inside, rfl⟩
  simp [records, first.unsent, second.unsent, own]

/-- An event that lists every member as incapable on every child settles a failure. -/
theorem incapable_failed {before state : AttemptState} {children : List TransmissionAttempt}
    {members : List ExactHead} {event : RecordEvidenceCommand} {rows : List ChildMemberEvidence}
    (contributed : eventRows members event = rows) (nothing : event.occurredMembers = [])
    (incapable : ∀ member ∈ members, member ∈ event.permanentlyIncapableMembers)
    (covered : ∀ child ∈ children, child.transmission ∈ event.coveredChildren)
    (reduced : reduceChildEvidence before children members rows = .ok state) :
    state = .failedNoEffect := by
  obtain ⟨_, manifest, observed, observes, rfl⟩ := reduceChildEvidence_ok.mp reduced
  have absent : ∀ child member, ¬ Seen rows child member .occurred := by
    rintro child member ⟨row, inside, _, _, occurred⟩
    rw [← contributed] at inside
    obtain ⟨_, _, listed⟩ := List.mem_flatMap.mp inside
    have listing := (eventObservations_listed listed).1 occurred
    rw [nothing] at listing
    cases listing
  have settled : ∀ child ∈ children, ∀ member ∈ members,
      Seen rows child.transmission member .permanentlyIncapable := by
    intro child among member inside
    rw [← contributed]
    exact ⟨_, List.mem_flatMap.mpr ⟨_, covered child among,
      mem_eventObservations_of_incapable inside (incapable member inside)⟩, rfl, rfl, rfl⟩
  rw [drawn_failed manifest.nonempty, settled_all_iff observes]
  simp only [happened_iff observes, absent, and_false, exists_false, not_false_eq_true,
    implies_true, and_true]
  intro child among member inside
  exact iff_of_false (absent _ _) (not_not.mpr (settled child among member inside))

/-- From a sent original, one such answer of any kind concludes that nothing happened. -/
theorem incapableEvent_concludes {observation : Observation}
    (unsent : observation ≠ .transportSent) :
    ∃ store record child current prepared, ReachableBy QuietCall store ∧
      Concludes store (.recordEvidence (incapableEvent observation record child store.tenantHead))
        current record prepared ∧
      Decides (incapableEvent observation record child store.tenantHead) ∧
      prepared.record.snapshot.evidenceRecords =
        [incapableEvent observation record child store.tenantHead] := by
  obtain ⟨store, record, child, reachable, dispatched, inside, silent, only⟩ := original_waiting
  have clean := reachable.mono (fun _ _ quiet => quiet.1)
  have member := (latest?_mem dispatched.latest).1
  have crossed : record.snapshot.state ∈ crossedStates := by
    rw [dispatched.state]
    decide
  have history := clean.cleanHistory record member
  have reducible := clean.reducible member crossed
  have noted : record.snapshot.evidence = [] := by
    rw [history.retained, silent]
    rfl
  let command := incapableEvent observation record child.transmission store.tenantHead
  let current : CurrentEffectInputs :=
    { reproduced store command.identity record.snapshot.intent sampleFence 0 [] with
      authenticatedEvidence := some command }
  have addressed : previousRecord (.recordEvidence command) store = .ok record := by
    apply previousRecord_latest dispatched.latest
    simp only [addressed, command, incapableEvent, Authentication.transmission, only]
  have fresh : FreshIdentity store ⟨⟨"evidence", by decide⟩, ⟨"evidence", by decide⟩, store.tenantHead⟩ :=
    dispatched.progressed.fresh (by simp [emptyStore]) (by decide)
  have formed : WellFormedEvidence store record command current :=
    { addressed
      cut := ⟨rfl, rfl, rfl, rfl, fresh.unseen⟩
      authenticated := rfl
      raw := rfl
      tenant := dispatched.progressed.tenant.symm
      local_ := id
      semantics := rfl
      reducer := rfl
      unique := by simp [noted]
      drawn := ⟨⟨children_nodup reducible.ordinals reducible.targets, fun _ among => among⟩,
        ⟨List.nodup_nil, by simp [command, incapableEvent]⟩,
        ⟨reducible.distinct, fun _ among => among⟩⟩ }
  obtain ⟨prepared, accepted, retained, reduced⟩ :=
    (clean_run_reducible clean dispatched.latest crossed).2 command current formed
  rw [silent, List.nil_append] at retained
  have verdict : prepared.record.snapshot.state = .failedNoEffect := by
    rw [reducedState, if_neg (fun shortcut => unsent shortcut.1)] at reduced
    obtain ⟨rows, _, contributed, verdicts⟩ := evidenceState_reducedTo reduced
    simp only [retainEvidence, silent, List.nil_append, List.flatMap_cons, List.flatMap_nil,
      List.append_nil] at contributed
    exact incapable_failed contributed.symm rfl (fun _ among => among)
      (fun _ among => List.mem_map_of_mem among) verdicts
  have decides : Decides command :=
    ⟨List.ne_nil_of_mem (List.mem_map_of_mem inside),
      .inr record.snapshot.intent.inseparableBundleMembers.nonempty⟩
  refine ⟨store, record, child.transmission, current, prepared, reachable, ?_, decides, retained⟩
  exact
    { accepted
      addressed
      writer := .inl ⟨command, rfl⟩
      verdict := by rw [verdict]; decide
      moved := by rw [verdict, dispatched.state]; decide }

end Reduction

/-- An answer that reports an absence, and lists the bundle as incapable, fails the effect. -/
theorem absence_concludes :
    ¬ ∀ store command current previous prepared, @Reachable Sha256.hashlib store →
      @Concludes Sha256.hashlib store command current previous prepared →
        @OutcomesAsserted Sha256.hashlib prepared.record.snapshot := by
  intro asserts
  let _ := Sha256.hashlib
  obtain ⟨store, record, child, current, prepared, reachable, concludes, decides, retained⟩ :=
    @incapableEvent_concludes _ .absenceObserved (by decide)
  have asserted := (outcomesAsserted_iff concludes.reduced.1).mp
    (asserts _ _ _ _ _ reachable.reachable concludes)
  rw [retained] at asserted
  have kind := asserted _ (List.mem_singleton_self _) decides
  exact absurd kind (by simp [incapableEvent, outcomeObservations])

theorem asserted_outcomes_sample :
    letI := Sha256.hashlib
    ∃ store command current previous prepared, ReachableBy AssertedCall store ∧
      Concludes store command current previous prepared ∧
      OutcomesAsserted prepared.record.snapshot := by
  let _ := Sha256.hashlib
  obtain ⟨store, record, child, current, prepared, reachable, concludes, decides, retained⟩ :=
    @incapableEvent_concludes _ .permanentlyIncapable (by decide)
  have quiet : ReachableBy AssertedCall store := by
    refine reachable.mono (fun _ call quiet => ?_)
    cases call with
    | transition command _ =>
        cases command with
        | recordEvidence event => exact absurd rfl (quiet.2 event _)
        | _ => trivial
    | denial => trivial
  have admitted : AssertedCall store (.transition (.recordEvidence (incapableEvent
      .permanentlyIncapable record child store.tenantHead)) current) := by
    intro _
    simp [incapableEvent, outcomeObservations]
  exact ⟨store, _, current, record, prepared, quiet, concludes,
    asserted_outcomes.2 store _ current record prepared quiet admitted concludes⟩

end Chiplog.Effects
