import Chiplog.Effects.Obligations

namespace Chiplog.Effects

open Chiplog.Data

/-! Retained evidence and its reducer.

The reducer reads the whole retained history again at every evidence or reconcile
command.  `Reducible` is what a history must satisfy for that to succeed; a run keeps
it as long as every first send has distinct bundle members and every event recorded on
an open attempt draws its children and members from the attempt. -/

theorem toString_nat_inj {left right : Nat} (same : toString left = toString right) :
    left = right := by
  have digits := congrArg String.toList same
  simp only [Nat.toString_eq_repr, Nat.toList_repr] at digits
  rw [← @Nat.ofDigitChars_ten_toDigits left, digits, Nat.ofDigitChars_ten_toDigits]

theorem Drawn.mono {supplied allowed wider : List ExactHead} (drawn : Drawn supplied allowed)
    (subset : ∀ item ∈ allowed, item ∈ wider) : Drawn supplied wider :=
  ⟨drawn.1, fun item member => subset item (drawn.2 item member)⟩

/-- An event that draws its children and members from the attempt's own. -/
structure DrawnFrom (children members : List ExactHead) (event : RecordEvidenceCommand) : Prop where
  children : Drawn event.coveredChildren children
  occurred : Drawn event.occurredMembers members
  incapable : Drawn event.permanentlyIncapableMembers members

/-- Observations that name known pairs and give each evidence identity one exact head. -/
structure Consistent (children members : List ExactHead) (rows : List ChildMemberEvidence) :
    Prop where
  known : ∀ row ∈ rows, row.child ∈ children ∧ row.member ∈ members
  unrivalled : ∀ row ∈ rows, ∀ other ∈ rows,
    row.evidence.subjectId = other.evidence.subjectId → row.evidence = other.evidence

theorem observe_total {children members : List ExactHead} {rows : List ChildMemberEvidence}
    {evidenceIds : Dict Identity ExactHead} {observed : Observed}
    (consistent : Consistent children members rows)
    (retained : ∀ row ∈ rows, ∀ head ∈ evidenceIds.get? row.evidence.subjectId,
      head = row.evidence) :
    ∃ result, observe children members rows evidenceIds observed = .ok result := by
  induction rows generalizing evidenceIds observed with
  | nil => exact ⟨observed, rfl⟩
  | cons row rest ih =>
      have known := consistent.known row (by simp)
      have same : (evidenceIds.get? row.evidence.subjectId).getD row.evidence = row.evidence := by
        cases stored : evidenceIds.get? row.evidence.subjectId with
        | none => rfl
        | some head => exact retained row (by simp) head stored
      simp only [observe, same, known.1, known.2, not_true_eq_false, or_self, ne_eq,
        not_false_eq_true, deny_neg, ok_bind]
      refine ih ⟨fun other member => consistent.known other (by simp [member]),
        fun other member third inside =>
          consistent.unrivalled other (by simp [member]) third (by simp [inside])⟩ ?_
      intro other member head stored
      rw [Dict.get?_set] at stored
      split at stored
      · rename_i shared
        rw [← Option.some.inj stored]
        exact consistent.unrivalled row (by simp) other (by simp [member]) shared.symm
      · exact retained other (by simp [member]) head stored

/-- Children with different ordinals have different references. -/
theorem children_nodup {snapshot : EffectSnapshot}
    (ordinals : OrdinalsComplete snapshot.transmissions)
    (targets : ∀ child ∈ snapshot.transmissions, ChildOf snapshot.intent child) :
    snapshot.children.Nodup := by
  have numbered : (snapshot.transmissions.map (·.ordinal.toNat)).Nodup := by
    rw [ordinals]
    exact List.nodup_range
  simp only [EffectSnapshot.children, List.Nodup, List.pairwise_map] at numbered ⊢
  refine numbered.imp_of_mem (fun {child other} member inside different same => different ?_)
  have subjects := congrArg ExactHead.subjectId same
  rw [(targets child member).subject, (targets other inside).subject, Identity.ext_iff_text,
    Identity.text_before, Identity.text_before, String.append_right_inj,
    String.append_right_inj] at subjects
  exact toString_nat_inj subjects

theorem sameTarget_of_childOf {intent : ExternalActionIntent} {child first : TransmissionAttempt}
    (own : ChildOf intent child) (other : ChildOf intent first) : SameTarget child first :=
  ⟨own.reference.trans other.reference.symm, own.semantics.trans other.semantics.symm,
    own.payload.trans other.payload.symm, own.recipient.trans other.recipient.symm,
    own.fenceKey.trans other.fenceKey.symm⟩

theorem open_before {before after : AttemptState}
    (moved : after = before ∨ after ∈ transitions before) (unfinished : after ∉ terminalStates) :
    before ∉ terminalStates := by
  intro terminal
  rw [transitions_terminal terminal] at moved
  rcases moved with rfl | none
  · exact unfinished terminal
  · cases none

/-- Every verdict on a crossed state is that state or a registered successor. -/
theorem verdict_registered {prior : AttemptState} (crossed : prior ∈ crossedStates)
    (memberCount : Nat) (tally : Tally) :
    verdict prior memberCount tally = prior ∨
      verdict prior memberCount tally ∈ transitions prior := by
  unfold verdict
  cases prior <;> split_ifs <;> simp_all [crossedStates, transitions]

theorem requireTransition_evidence {prior proposed : AttemptState}
    (crossed : prior ∈ crossedStates) (edge : proposed ∈ transitions prior) :
    requireTransition prior proposed .authenticatedEvidence false = .ok () := by
  cases prior <;> simp [crossedStates] at crossed <;>
    cases proposed <;> first | rfl | simp [transitions] at edge

section Reduction

variable [Hashlib] {store : EffectStoreSnapshot} {snapshot : EffectSnapshot}

/-- The exact head under which an event is retained. -/
def RecordEvidenceCommand.retainedHead (event : RecordEvidenceCommand) : ExactHead :=
  ref event.evidenceId (toJson event)

theorem mem_eventObservations {event : RecordEvidenceCommand} {members : List ExactHead}
    {child : ExactHead} {row : ChildMemberEvidence}
    (member : row ∈ eventObservations event members child) :
    row.child = child ∧ row.member ∈ members ∧ row.evidence = event.retainedHead := by
  simp only [eventObservations, List.mem_flatMap, List.mem_append, List.mem_ite_nil_right,
    List.mem_singleton] at member
  obtain ⟨own, inside, (⟨_, rfl⟩ | ⟨_, rfl⟩) | ⟨_, rfl⟩⟩ := member <;>
    exact ⟨rfl, inside, rfl⟩

theorem collectObservations_total {children members : List ExactHead}
    {events : List RecordEvidenceCommand}
    (drawn : ∀ event ∈ events, DrawnFrom children members event) :
    ∃ rows, collectObservations children members events = .ok rows ∧
      ∀ row ∈ rows, row.child ∈ children ∧ row.member ∈ members ∧
        ∃ event ∈ events, row.evidence = event.retainedHead := by
  induction events with
  | nil => exact ⟨[], rfl, by simp⟩
  | cons event rest ih =>
      obtain ⟨later, collected, known⟩ := ih (fun other member => drawn other (by simp [member]))
      have own := drawn event (by simp)
      refine ⟨event.coveredChildren.flatMap (eventObservations event members) ++ later, ?_, ?_⟩
      · simp only [collectObservations, own.children, own.occurred, own.incapable,
          not_true_eq_false, or_self, not_false_eq_true, deny_neg, ok_bind, collected]
        rfl
      · intro row member
        rcases List.mem_append.mp member with first | second
        · obtain ⟨child, covered, observed⟩ := List.mem_flatMap.mp first
          obtain ⟨sameChild, inside, sameEvidence⟩ := mem_eventObservations observed
          exact ⟨sameChild ▸ own.children.2 child covered, inside, event, by simp, sameEvidence⟩
        · obtain ⟨child, inside, source, retained, same⟩ := known row second
          exact ⟨child, inside, source, by simp [retained], same⟩

theorem collectObservations_drawn {children members : List ExactHead}
    {events : List RecordEvidenceCommand} {rows : List ChildMemberEvidence}
    (accepted : collectObservations children members events = .ok rows) :
    ∀ event ∈ events, DrawnFrom children members event := by
  induction events generalizing rows with
  | nil => simp
  | cons event rest ih =>
      simp only [collectObservations, bind_ok, deny_ok] at accepted
      obtain ⟨_, drawn, later, collected, _⟩ := accepted
      push Not at drawn
      intro other member
      rcases List.mem_cons.mp member with rfl | inside
      · exact ⟨drawn.1, drawn.2.1, drawn.2.2⟩
      · exact ih collected other inside

/-- A crossed snapshot whose whole history the reducer accepts. -/
structure Reducible (snapshot : EffectSnapshot) : Prop where
  crossed : snapshot.state ∈ crossedStates
  sent : snapshot.transmissions ≠ []
  distinct : snapshot.intent.inseparableBundleMembers.items.Nodup
  ordinals : OrdinalsComplete snapshot.transmissions
  targets : ∀ child ∈ snapshot.transmissions, ChildOf snapshot.intent child
  drawn : ∀ event ∈ snapshot.evidenceRecords,
    DrawnFrom snapshot.children snapshot.intent.inseparableBundleMembers.items event
  unrivalled : (snapshot.evidenceRecords.map (·.evidenceId)).Nodup

theorem Reducible.consistent (reducible : Reducible snapshot) {rows : List ChildMemberEvidence}
    (sourced : ∀ row ∈ rows, row.child ∈ snapshot.children ∧
      row.member ∈ snapshot.intent.inseparableBundleMembers.items ∧
      ∃ event ∈ snapshot.evidenceRecords, row.evidence = event.retainedHead) :
    Consistent snapshot.children snapshot.intent.inseparableBundleMembers.items rows := by
  refine ⟨fun row member => ⟨(sourced row member).1, (sourced row member).2.1⟩, ?_⟩
  intro row member other inside same
  obtain ⟨_, _, event, retained, evidence⟩ := sourced row member
  obtain ⟨_, _, rival, rivalRetained, rivalEvidence⟩ := sourced other inside
  rw [evidence, rivalEvidence] at same ⊢
  have equal : event = rival :=
    List.inj_on_of_nodup_map reducible.unrivalled retained rivalRetained same
  rw [equal]

theorem Reducible.evidenceState_total (reducible : Reducible snapshot) :
    ∃ state, evidenceState snapshot = .ok state := by
  obtain ⟨rows, collected, sourced⟩ := collectObservations_total reducible.drawn
  have admitted : ∃ observed, observe snapshot.children
      snapshot.intent.inseparableBundleMembers.items rows Dict.empty Dict.empty = .ok observed :=
    observe_total (reducible.consistent sourced) (by simp)
  obtain ⟨observed, admitted⟩ := admitted
  have reduced := reduceChildEvidence_eq reducible.crossed reducible.sent
    snapshot.intent.inseparableBundleMembers.nonempty
    (children_nodup reducible.ordinals reducible.targets) reducible.distinct reducible.ordinals
    (fun first head child member => sameTarget_of_childOf (reducible.targets child member)
      (reducible.targets first (List.mem_of_mem_head? head))) admitted
  simp only [evidenceState, collected, ok_bind]
  exact ⟨_, reduced⟩

/-- A first transmission needs distinct bundle members, and an event on an open attempt
draws from the attempt's own children and members. -/
def CleanStep (before : EffectSnapshot) : EffectCall → Prop
  | .transition (.commitSend _) _ =>
      before.transmissions = [] → before.intent.inseparableBundleMembers.items.Nodup
  | .transition (.recordEvidence command) _ =>
      before.state ∉ terminalStates →
        DrawnFrom before.children before.intent.inseparableBundleMembers.items command
  | _ => True

/-- The condition of a call in terms of the record it continues. -/
def CleanCall (store : EffectStoreSnapshot) (call : EffectCall) : Prop :=
  ∀ previous, call.previous store = .ok previous → CleanStep previous.snapshot call

/-- What a clean run keeps about every snapshot. -/
structure CleanHistory (snapshot : EffectSnapshot) : Prop where
  targets : ∀ child ∈ snapshot.transmissions, ChildOf snapshot.intent child
  distinct : snapshot.transmissions ≠ [] →
    snapshot.intent.inseparableBundleMembers.items.Nodup
  drawn : snapshot.state ∉ terminalStates → ∀ event ∈ snapshot.evidenceRecords,
    DrawnFrom snapshot.children snapshot.intent.inseparableBundleMembers.items event
  retained : snapshot.evidence = snapshot.evidenceRecords.map (·.retainedHead)
  unrivalled : (snapshot.evidenceRecords.map (·.evidenceId)).Nodup

/-- A step that touches neither children nor evidence. -/
theorem CleanHistory.restate {before : EffectSnapshot} {state : AttemptState}
    {authorizations : List DispatchAuthorization} (clean : CleanHistory before)
    (moved : state = before.state ∨ state ∈ transitions before.state) :
    CleanHistory { before with state, authorizations } :=
  ⟨clean.targets, clean.distinct, fun unfinished => clean.drawn (open_before moved unfinished),
    clean.retained, clean.unrivalled⟩

/-- A step that allocates one more child. -/
theorem CleanHistory.allocate {before : EffectSnapshot} {state : AttemptState}
    {child : TransmissionAttempt} (clean : CleanHistory before)
    (target : ChildOf before.intent child)
    (distinct : before.intent.inseparableBundleMembers.items.Nodup)
    (unfinished : before.state ∉ terminalStates) :
    CleanHistory { before with state, transmissions := before.transmissions ++ [child] } := by
  refine ⟨?_, fun _ => distinct, fun _ event member => ?_, clean.retained, clean.unrivalled⟩
  · intro other member
    rcases List.mem_append.mp member with earlier | new
    · exact clean.targets other earlier
    · rw [List.mem_singleton.mp new]
      exact target
  · have drawn := clean.drawn unfinished event member
    refine ⟨drawn.children.mono (fun item inside => ?_), drawn.occurred, drawn.incapable⟩
    simp only [EffectSnapshot.children, List.map_append, List.mem_append]
    exact .inl inside

/-- A step that retains one more event. -/
theorem CleanHistory.retain {before : EffectSnapshot} {state : AttemptState}
    {command : RecordEvidenceCommand} (clean : CleanHistory before)
    (moved : state = before.state ∨ state ∈ transitions before.state)
    (unseen : ∀ item ∈ before.evidence, item.subjectId ≠ command.evidenceId)
    (drawn : before.state ∉ terminalStates → DrawnFrom before.children
      before.intent.inseparableBundleMembers.items command) :
    CleanHistory { before with
      state
      evidence := before.evidence ++ [ref command.evidenceId (toJson command)]
      evidenceRecords := before.evidenceRecords ++ [command] } := by
  refine ⟨clean.targets, clean.distinct, fun unfinished event member => ?_, ?_, ?_⟩
  · have open_ := open_before moved unfinished
    rcases List.mem_append.mp member with earlier | new
    · exact clean.drawn open_ event earlier
    · rw [List.mem_singleton.mp new]
      exact drawn open_
  · simp only [clean.retained, List.map_append, List.map_cons, List.map_nil]
    rfl
  · have fresh : command.evidenceId ∉ before.evidenceRecords.map (·.evidenceId) := by
      intro member
      obtain ⟨event, inside, same⟩ := List.mem_map.mp member
      refine unseen event.retainedHead ?_ same
      rw [clean.retained]
      exact List.mem_map_of_mem inside
    simp only [List.map_append, List.map_cons, List.map_nil]
    exact clean.unrivalled.append (List.nodup_singleton _) (by simpa using fresh)

theorem Advanced.cleanHistory {before after : EffectSnapshot}
    {call : EffectCall} {kind : RecordKind} (advanced : Advanced store before call after kind)
    (clean : CleanHistory before) (admitted : CleanStep before call) : CleanHistory after := by
  have moved := advanced.state
  cases advanced with
  | authorized => exact clean.restate moved
  | disposed => exact clean.restate moved
  | denied => exact clean.restate moved
  | sent child target _ unsent _ edge =>
      exact clean.allocate target (admitted unsent) (open_before moved (by simp [terminalStates]))
  | retransmitted child target crossed _ lineage =>
      exact clean.allocate target (clean.distinct lineage) (retransmission_not_terminal crossed)
  | evidenced state _ unseen => exact clean.retain moved unseen admitted
  | reconciled => exact clean.restate moved

theorem Bound.cleanHistory {source : RecordSource} {previous : Option EffectRecord}
    {draft : EffectSnapshot} {kind : RecordKind} {record : EffectRecord}
    (bound : Bound source previous draft kind record) (clean : CleanHistory draft) :
    CleanHistory record.snapshot := by
  obtain ⟨_, _, rfl⟩ := bound
  exact ⟨clean.targets, clean.distinct, clean.drawn, clean.retained, clean.unrivalled⟩

theorem Begun.cleanHistory {call : EffectCall} {record : EffectRecord}
    (begun : Begun store call record) : CleanHistory record.snapshot := by
  obtain ⟨intent, snapshot, kind, created, bound⟩ := begun.bound
  obtain ⟨_, _, _, transmissions, evidence, evidenceRecords, _⟩ := initial_ok created
  refine bound.cleanHistory ⟨?_, ?_, ?_, ?_, ?_⟩ <;> simp [transmissions, evidence, evidenceRecords]

theorem ReachableBy.cleanHistory (reachable : ReachableBy CleanCall store) :
    ∀ record ∈ store.records, CleanHistory record.snapshot := by
  induction reachable with
  | empty => simp
  | @commit store call prepared _ admitted accepted tenantHead ih =>
      intro record member
      rcases List.mem_append.mp member with earlier | new
      · exact ih record earlier
      · rw [List.mem_singleton.mp new]
        rcases (EffectCall.prepare_ok accepted).shape with begun | ⟨previous, continued⟩
        · exact begun.cleanHistory
        · obtain ⟨draft, kind, advanced, bound⟩ := continued.advanced
          have clean := ih previous (latest?_mem continued.latest).1
          exact bound.cleanHistory (advanced.cleanHistory clean (admitted previous continued.found))

theorem Reachable.ordinals (reachable : Reachable store)
    {record : EffectRecord} (member : record ∈ store.records) :
    OrdinalsComplete record.snapshot.transmissions :=
  (Lifecycle.of_linked (reachable.linked record.intentId)).ordinals record
    (mem_streamOf.mpr ⟨member, rfl⟩)

/-- In a clean run every crossed record is reducible. -/
theorem ReachableBy.reducible (reachable : ReachableBy CleanCall store) {record : EffectRecord}
    (member : record ∈ store.records) (crossed : record.snapshot.state ∈ crossedStates) :
    Reducible record.snapshot := by
  have clean := reachable.cleanHistory record member
  have sent := (reachable.reachable.crossing member).mpr (crossed_beforeSend crossed)
  exact ⟨crossed, sent, clean.distinct sent, reachable.reachable.ordinals member, clean.targets,
    clean.drawn (crossed_not_terminal crossed), clean.unrivalled⟩

theorem evidenceState_registered {state : AttemptState}
    (accepted : evidenceState snapshot = .ok state) :
    state = snapshot.state ∨ state ∈ transitions snapshot.state := by
  have crossed := evidenceState_crossed accepted
  simp only [evidenceState, reduceChildEvidence, bind_ok, pure_ok] at accepted
  obtain ⟨_, _, _, _, _, _, _, _, _, _, _, _, _, _, rfl⟩ := accepted
  exact verdict_registered crossed _ _

/-- An authenticated event for the attempt whose latest record is `previous`, with an
identity of its own and children and members drawn from the attempt. -/
structure WellFormedEvidence (store : EffectStoreSnapshot) (previous : EffectRecord)
    (command : RecordEvidenceCommand) (current : CurrentEffectInputs) : Prop where
  addressed : previousRecord (.recordEvidence command) store = .ok previous
  cut : AtCut store (.recordEvidence command) current
  authenticated : current.authenticatedEvidence = some command
  raw : (sha256 command.rawBytes.items).identity = command.authentication.rawDigest
  tenant : command.authentication.tenantId = store.tenantId
  local_ : ¬ ClaimsOutcome command previous.snapshot
  semantics : command.semantics = previous.snapshot.intent.semantics
  reducer : current.originalReducerSemantics = some command.semantics
  unique : ∀ item ∈ previous.snapshot.evidence, item.subjectId ≠ command.evidenceId
  drawn : DrawnFrom previous.snapshot.children
    previous.snapshot.intent.inseparableBundleMembers.items command

theorem Reducible.retain {command : RecordEvidenceCommand}
    (reducible : Reducible snapshot) (clean : CleanHistory snapshot)
    (unique : ∀ item ∈ snapshot.evidence, item.subjectId ≠ command.evidenceId)
    (drawn : DrawnFrom snapshot.children snapshot.intent.inseparableBundleMembers.items command) :
    Reducible (retainEvidence command snapshot) := by
  have retained : CleanHistory (retainEvidence command snapshot) :=
    clean.retain (.inl rfl) unique (fun _ => drawn)
  exact ⟨reducible.crossed, reducible.sent, reducible.distinct, reducible.ordinals,
    reducible.targets, retained.drawn (crossed_not_terminal reducible.crossed),
    retained.unrivalled⟩

theorem Reducible.reducedState_total (command : RecordEvidenceCommand)
    (reducible : Reducible snapshot) :
    ∃ state, reducedState command snapshot = .ok state ∧
      (state = snapshot.state ∨ state ∈ transitions snapshot.state) := by
  unfold reducedState
  split
  · rename_i shortcut
    exact ⟨.sent, rfl, .inr (by rw [shortcut.2]; decide)⟩
  · obtain ⟨state, computed⟩ := reducible.evidenceState_total
    exact ⟨state, computed, evidenceState_registered computed⟩

/-- A well-formed event is recorded under the state its reduction gives. -/
theorem WellFormedEvidence.recorded {previous : EffectRecord}
    {command : RecordEvidenceCommand} {current : CurrentEffectInputs}
    (formed : WellFormedEvidence store previous command current)
    (reducible : Reducible previous.snapshot) (clean : CleanHistory previous.snapshot) :
    ∃ state, reducedState command (retainEvidence command previous.snapshot) = .ok state ∧
      recordEvidence command store previous.snapshot current =
        .ok ({ retainEvidence command previous.snapshot with state }, .evidenceRecorded) := by
  have retained := reducible.retain clean formed.unique formed.drawn
  obtain ⟨state, computed, moved⟩ := retained.reducedState_total command
  have registered : checkIf (state ≠ (retainEvidence command previous.snapshot).state)
      (requireTransition (retainEvidence command previous.snapshot).state state
        .authenticatedEvidence false) = .ok () :=
    checkIf_ok.mpr (fun changed =>
      requireTransition_evidence retained.crossed (moved.resolve_left changed))
  have reduced : reduceEvidence command (retainEvidence command previous.snapshot) current =
      .ok state := by
    unfold reduceEvidence
    rw [if_pos ⟨crossed_not_terminal retained.crossed, formed.reducer⟩, computed, ok_bind,
      registered]
    rfl
  refine ⟨state, computed, ?_⟩
  have seen : ¬ ∃ item ∈ previous.snapshot.evidence, item.subjectId = command.evidenceId := by
    rintro ⟨item, member, same⟩
    exact formed.unique item member same
  simp only [recordEvidence]
  rw [deny_neg (not_not.mpr formed.authenticated), deny_neg (not_not.mpr formed.raw),
    deny_neg (not_not.mpr formed.tenant), deny_neg formed.local_,
    deny_neg (not_not.mpr formed.semantics), deny_neg seen]
  simp only [ok_bind, reduced]
  rfl

/-- Unless a call stores an unchecked value, the evidence of every crossed attempt
reduces, and further well-formed evidence is recorded and reduced. -/
theorem clean_run_reducible {store : EffectStoreSnapshot}
    (reachable : ReachableBy CleanCall store) {previous : EffectRecord}
    (latest : store.latest? previous.intentId = some previous)
    (crossed : previous.snapshot.state ∈ crossedStates) :
    (∃ state, evidenceState previous.snapshot = .ok state) ∧
      ∀ command current, WellFormedEvidence store previous command current →
        ∃ prepared, prepareTransition (.recordEvidence command) store current = .ok prepared ∧
          prepared.record.snapshot.evidenceRecords =
            previous.snapshot.evidenceRecords ++ [command] ∧
          reducedState command (retainEvidence command previous.snapshot) =
            .ok prepared.record.snapshot.state := by
  have member := (latest?_mem latest).1
  have reducible := reachable.reducible member crossed
  refine ⟨reducible.evidenceState_total, fun command current formed => ?_⟩
  obtain ⟨state, computed, recorded⟩ := formed.recorded reducible (reachable.cleanHistory _ member)
  have total := reachable.reachable.bindObligation_total latest
    (advance_ok formed.addressed recorded)
  rw [EffectCall.source_transition] at total
  obtain ⟨obligation, obliged⟩ := total
  obtain ⟨prepared, accepted, bound⟩ :=
    prepareTransition_continues formed.cut formed.addressed recorded obliged
  refine ⟨prepared, accepted, bound.evidenceRecords, ?_⟩
  rw [bound.state]
  exact computed

/-- The condition is needed: a reduction that succeeds has checked the bundle members and
every retained event. -/
theorem evidenceState_clean {state : AttemptState} (accepted : evidenceState snapshot = .ok state) :
    snapshot.intent.inseparableBundleMembers.items.Nodup ∧
      ∀ event ∈ snapshot.evidenceRecords,
        DrawnFrom snapshot.children snapshot.intent.inseparableBundleMembers.items event := by
  simp only [evidenceState, reduceChildEvidence, bind_ok, deny_ok] at accepted
  obtain ⟨rows, collected, _, _, _, _, _, distinct, _⟩ := accepted
  push Not at distinct
  refine ⟨distinct.2, collectObservations_drawn collected⟩

end Reduction

/-- An intent whose bundle names one member twice. -/
def duplicatedMembers : NonemptyTuple ExactHead := ⟨[sampleHead, sampleHead], by decide⟩

/-- Accepting and sending a duplicated bundle leaves a crossed attempt that no evidence
can ever reduce. -/
theorem duplicated_bundle_poisons :
    ¬ ∀ (store : EffectStoreSnapshot) (previous : EffectRecord), @Reachable Sha256.hashlib store →
      store.latest? previous.intentId = some previous →
      previous.snapshot.state ∈ crossedStates →
      ∃ state, @evidenceState Sha256.hashlib previous.snapshot = .ok state := by
  intro reducible
  obtain ⟨store, record, reachable, dispatched⟩ :=
    @original_dispatched Sha256.hashlib duplicatedMembers
  have crossed : record.snapshot.state ∈ crossedStates := by
    rw [dispatched.state]
    decide
  obtain ⟨state, accepted⟩ := reducible store record reachable dispatched.latest crossed
  have distinct := (@evidenceState_clean Sha256.hashlib _ _ accepted).1
  rw [dispatched.own] at distinct
  exact absurd distinct (by simp [originalIntent, sampleIntent, bindFingerprint, duplicatedMembers])

/-- With distinct members the original intent is dispatched by clean calls. -/
theorem original_dispatched_clean [Hashlib] :
    ∃ store record, ReachableBy CleanCall store ∧ Dispatched emptyStore store
      (originalIntent ⟨[sampleHead], by decide⟩) originalCommands record := by
  refine dispatch_reachable sampleFence (.empty sampleId 0) ⟨fun _ _ _ _ _ => trivial,
    fun _ _ _ _ _ => trivial, fun _ _ _ own previous found _ => ?_⟩ (by decide)
    (by simp [emptyStore]) (originalIntent_dispatchable _)
  rw [own previous found]
  exact List.nodup_singleton sampleHead

theorem clean_run_reducible_original :
    ∃ (store : EffectStoreSnapshot) (previous : EffectRecord),
      previous.snapshot.state ∈ crossedStates ∧
      (∃ state, @evidenceState Sha256.hashlib previous.snapshot = .ok state) ∧
      ∀ command current, @WellFormedEvidence Sha256.hashlib store previous command current →
        ∃ prepared, @prepareTransition Sha256.hashlib (.recordEvidence command) store current =
            .ok prepared ∧
          prepared.record.snapshot.evidenceRecords =
            previous.snapshot.evidenceRecords ++ [command] ∧
          @reducedState Sha256.hashlib command
              (@retainEvidence Sha256.hashlib command previous.snapshot) =
            .ok prepared.record.snapshot.state := by
  obtain ⟨store, record, reachable, dispatched⟩ := @original_dispatched_clean Sha256.hashlib
  have crossed : record.snapshot.state ∈ crossedStates := by
    rw [dispatched.state]
    decide
  exact ⟨store, record, crossed,
    @clean_run_reducible Sha256.hashlib store reachable record dispatched.latest crossed⟩

end Chiplog.Effects
