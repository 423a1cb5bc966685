import Chiplog.Data.KeyedLog
import Chiplog.Data.Sha256
import Chiplog.Effects.OutcomeProgress
import Mathlib.Data.Finset.Disjoint

namespace Chiplog.Effects

variable {old : DispatchOutcomeSnapshotV2}

open Chiplog.Data

/-! Streams of outcome records.

An outcome run starts at a SEND and continues each time from the record just prepared.
The flags of a record interact, so what a step keeps is stated once, for all of them. -/

theorem conflictAfter_some {evidence : List DispatchEvidenceV2} :
    conflictAfter (some old) evidence = false ↔
      occurredIn evidence ∩ incapableIn evidence = ∅ ∧ old.conflictingEvidence = false := by
  simp [conflictAfter, conflictOf]

theorem conflictAfter_none {evidence : List DispatchEvidenceV2} :
    conflictAfter none evidence = false ↔ occurredIn evidence ∩ incapableIn evidence = ∅ := by
  simp [conflictAfter, conflictOf]

theorem conflictAfter_disjoint {old : Option DispatchOutcomeSnapshotV2}
    {evidence : List DispatchEvidenceV2} (clear : conflictAfter old evidence = false) :
    occurredIn evidence ∩ incapableIn evidence = ∅ := by
  cases old with
  | none => exact conflictAfter_none.mp clear
  | some old => exact (conflictAfter_some.mp clear).1

theorem completeAfter_ok {members : Finset Identity} {old : Option DispatchOutcomeSnapshotV2}
    {evidence : List DispatchEvidenceV2} :
    completeAfter members old evidence = true ↔
      conflictAfter old evidence = false ∧ occurredIn evidence ∪ incapableIn evidence = members := by
  simp [completeAfter, completeOf]

/-- A terminal claim is never rewritten. -/
theorem reducedAfter_terminal {members : Finset Identity}
    (evidence : List DispatchEvidenceV2) (terminal : old.state ∈ terminalOutcomes) :
    reducedAfter members (some old) evidence = old.state := by
  simp [reducedAfter, retainedOutcome, terminal]

theorem reducedAfter_live {members : Finset Identity}
    (evidence : List DispatchEvidenceV2) (live : old.state ∉ terminalOutcomes) :
    reducedAfter members (some old) evidence =
      reducedOutcome (completeAfter members (some old) evidence)
        (conflictAfter (some old) evidence) (occurredIn evidence) (incapableIn evidence) := by
  simp [reducedAfter, retainedOutcome, live]

theorem bundleSubjects_nonempty (intent : ExternalActionIntentV2) : bundleSubjects intent ≠ ∅ := by
  simp [bundleSubjects, intent.mandate.bundleMembers.nonempty]

/-- What later outcomes keep of an earlier one. -/
structure Retained (earlier later : DispatchOutcomeSnapshotV2) : Prop where
  evidence : earlier.evidence <+: later.evidence
  conflict : earlier.conflictingEvidence = true → later.conflictingEvidence = true
  terminal : earlier.state ∈ terminalOutcomes → later.state = earlier.state
  closed : earlier.obligation.state = .closed → later.obligation = earlier.obligation

theorem Retained.trans {first second third : DispatchOutcomeSnapshotV2}
    (early : Retained first second) (late : Retained second third) : Retained first third where
  evidence := early.evidence.trans late.evidence
  conflict := fun known => late.conflict (early.conflict known)
  terminal := by
    intro ended
    have same := early.terminal ended
    rw [← same]
    exact late.terminal (same ▸ ended)
  closed := by
    intro ended
    have same := early.closed ended
    rw [← same]
    exact late.closed (same ▸ ended)

/-- Every bundle member is classified exactly one way. -/
def Classified (members : Finset Identity) (evidence : List DispatchEvidenceV2) : Prop :=
  ∀ member ∈ members, (member ∈ occurredIn evidence ↔ member ∉ incapableIn evidence)

theorem completeAfter_classified {members : Finset Identity}
    {old : Option DispatchOutcomeSnapshotV2} {evidence : List DispatchEvidenceV2}
    (complete : completeAfter members old evidence = true) : Classified members evidence := by
  obtain ⟨clear, union⟩ := completeAfter_ok.mp complete
  have disjoint := Finset.disjoint_iff_inter_eq_empty.mpr (conflictAfter_disjoint clear)
  intro member inside
  constructor
  · intro occurred
    exact Finset.disjoint_left.mp disjoint occurred
  · intro capable
    rw [← union] at inside
    cases Finset.mem_union.mp inside with
    | inl occurred => exact occurred
    | inr incapable => exact absurd incapable capable

section Stream

variable [Hashlib] {send : DispatchRecordV2} {previous record : DispatchOutcomeRecordV2}
  {stream : List DispatchOutcomeRecordV2}

/-- The first outcome of a SEND. -/
def OpensOutcome (send : DispatchRecordV2) (record : DispatchOutcomeRecordV2) : Prop :=
  ∃ request : DispatchOutcomePreparationV2,
    request.previous = .send send ∧ prepareOutcome request = .ok record

/-- An outcome prepared from the one before it. -/
def ContinuesOutcome (previous record : DispatchOutcomeRecordV2) : Prop :=
  ∃ request : DispatchOutcomePreparationV2,
    request.previous = .outcome previous ∧ prepareOutcome request = .ok record

/-- Runs of successful preparations, each taking the previous result. -/
abbrev OutcomeRun (send : DispatchRecordV2) : List DispatchOutcomeRecordV2 → Prop :=
  Linked (OpensOutcome send) ContinuesOutcome

/-- The obligation names the SEND, its intent and its children. -/
structure OriginalLinks (send : DispatchRecordV2) (obligation : DispatchObligationV2) : Prop where
  originalSend : obligation.originalSend = send.record
  originalIntent : obligation.originalIntent = send.snapshot.intent.exactHead
  originalChildren : obligation.originalChildren.items = send.children

theorem openDispatchObligation_ok {obligation : DispatchObligationV2}
    (accepted : openDispatchObligation send = .ok obligation) :
    OriginalLinks send obligation ∧ obligation.state = .opened := by
  unfold openDispatchObligation at accepted
  split at accepted
  · cases accepted
  · rename_i children found
    cases accepted
    exact ⟨⟨rfl, rfl, NonemptyTuple.ofList?_eq_some.mp found⟩, rfl⟩

/-- What a first outcome establishes. -/
structure Opening (send : DispatchRecordV2) (record : DispatchOutcomeRecordV2) : Prop where
  intent : record.snapshot.intent = send.snapshot.intent
  waiting : record.snapshot.obligation.state = .opened
  links : OriginalLinks send record.snapshot.obligation
  single : ∃ item, record.snapshot.evidence = [item]
  partitions : ∀ item ∈ record.snapshot.evidence,
    Partitions (bundleSubjects record.snapshot.intent) item
  conflict : record.snapshot.conflictingEvidence = conflictAfter none record.snapshot.evidence
  state : record.snapshot.state =
    if reducedAfter (bundleSubjects send.snapshot.intent) none record.snapshot.evidence =
      .partialConfirmed then .partialOutcome
    else reducedAfter (bundleSubjects send.snapshot.intent) none record.snapshot.evidence

theorem OpensOutcome.opening (opens : OpensOutcome send record) : Opening send record := by
  obtain ⟨request, start, accepted⟩ := opens
  obtain ⟨_, original, _, intent, _, _, _, partitions, conflict, opened, obligation, operated⟩ :=
    prepareOutcome_ok accepted
  obtain ⟨_, _, _, _, _, sent⟩ := requireOriginal_ok original
  have same : request.originalSend = send := by
    have equal := sent (by rw [start]; rfl)
    rw [start] at equal
    cases equal
    rfl
  rw [same] at intent obligation
  rw [start] at conflict obligation operated
  obtain ⟨links, waiting⟩ := openDispatchObligation_ok obligation
  rw [intent] at operated
  cases operated with
  | appended item _ _ evidence _ kept state =>
      refine ⟨intent, kept ▸ waiting, kept ▸ links, ⟨item, evidence⟩, partitions, conflict, ?_⟩
      simpa [OutcomePredecessor.old?] using state
  | resolved _ _ evidence _ complete _ _ =>
      -- Without evidence the bundle would have to be empty.
      have empty : record.snapshot.evidence = [] := evidence
      rw [empty] at complete
      have union := (completeAfter_ok.mp complete).2
      exact absurd union.symm (bundleSubjects_nonempty _)

/-- How the obligation may change in one step. -/
inductive ObligationChange (previous record : DispatchOutcomeSnapshotV2) : Prop
  | kept (same : record.obligation = previous.obligation)
  | closed (waiting : previous.obligation.state = .opened)
      (resolved : record.obligation = { previous.obligation with
        state := .closed
        closureEvidence := record.evidence.map evidenceHead })
      (clear : record.conflictingEvidence = false)
      (classified : Classified (bundleSubjects record.intent) record.evidence)

/-- What one further outcome establishes. -/
structure Continuation (previous record : DispatchOutcomeRecordV2) : Prop where
  intent : record.snapshot.intent = previous.snapshot.intent
  grown : (∃ item, record.command.evidence = some item ∧
      record.snapshot.evidence = previous.snapshot.evidence ++ [item]) ∨
    record.command.evidence = none ∧ record.snapshot.evidence = previous.snapshot.evidence ∧
      completeAfter (bundleSubjects record.snapshot.intent) (some previous.snapshot)
        record.snapshot.evidence = true
  partitions : ∀ item ∈ record.snapshot.evidence,
    Partitions (bundleSubjects record.snapshot.intent) item
  fresh : (previous.snapshot.evidence.map (·.evidenceId)).Nodup →
    (record.snapshot.evidence.map (·.evidenceId)).Nodup
  conflict : record.snapshot.conflictingEvidence =
    conflictAfter (some previous.snapshot) record.snapshot.evidence
  state : record.snapshot.state = reducedAfter (bundleSubjects record.snapshot.intent)
    (some previous.snapshot) record.snapshot.evidence
  obligation : ObligationChange previous.snapshot record.snapshot

theorem ContinuesOutcome.continuation (continues : ContinuesOutcome previous record) :
    Continuation previous record := by
  obtain ⟨request, start, accepted⟩ := continues
  obtain ⟨_, original, command, intent, _, _, _, partitions, conflict, opened, obligation,
    operated⟩ := prepareOutcome_ok accepted
  obtain ⟨sameIntent, _⟩ := requireOriginal_ok original
  rw [start] at sameIntent conflict obligation operated
  have kept : previous.snapshot.obligation = opened := Except.ok.inj obligation
  have inherited : record.snapshot.intent = previous.snapshot.intent := intent.trans sameIntent.symm
  cases operated with
  | appended item _ supplied evidence fresh unchanged state =>
      have grown : record.snapshot.evidence = previous.snapshot.evidence ++ [item] := evidence
      refine ⟨inherited, .inl ⟨item, command ▸ supplied, grown⟩, partitions, ?_, conflict, ?_,
        .kept (unchanged.trans kept.symm)⟩
      · intro distinct
        rw [grown, List.map_append, List.nodup_append]
        refine ⟨distinct, List.nodup_singleton _, ?_⟩
        intro earlier member last inside
        obtain ⟨prior, known, rfl⟩ := List.mem_map.mp member
        obtain rfl := List.mem_singleton.mp inside
        exact (fresh prior known).symm
      · simpa [OutcomePredecessor.old?] using state
  | resolved _ unsupplied evidence waiting complete closed state =>
      have same : record.snapshot.evidence = previous.snapshot.evidence := evidence
      have clear : record.snapshot.conflictingEvidence = false :=
        conflict.trans (completeAfter_ok.mp complete).1
      exact ⟨inherited, .inr ⟨command ▸ unsupplied, same, complete⟩, partitions,
        fun distinct => same ▸ distinct, conflict, state,
        .closed (kept ▸ waiting) (kept ▸ closed) clear (completeAfter_classified complete)⟩

theorem Continuation.retained (continuation : Continuation previous record) :
    Retained previous.snapshot record.snapshot where
  evidence := by
    rcases continuation.grown with ⟨item, _, grown⟩ | ⟨_, same, _⟩
    · exact grown ▸ List.prefix_append _ _
    · exact same ▸ List.prefix_rfl
  conflict := by
    intro known
    cases outcome : record.snapshot.conflictingEvidence with
    | true => rfl
    | false =>
        rw [continuation.conflict] at outcome
        simp [known, conflictAfter_some] at outcome
  terminal := by
    intro ended
    rw [continuation.state]
    exact reducedAfter_terminal _ ended
  closed := by
    intro ended
    cases continuation.obligation with
    | kept same => exact same
    | closed waiting _ _ _ => simp [waiting] at ended

theorem Continuation.links (continuation : Continuation previous record)
    (links : OriginalLinks send previous.snapshot.obligation) :
    OriginalLinks send record.snapshot.obligation := by
  cases continuation.obligation with
  | kept same => exact same ▸ links
  | closed _ resolved _ _ =>
      rw [resolved]
      exact ⟨links.originalSend, links.originalIntent, links.originalChildren⟩

/-- The invariants of the outcome stream of one SEND. -/
structure OutcomeInvariants (send : DispatchRecordV2) (stream : List DispatchOutcomeRecordV2) :
    Prop where
  growing : stream.Pairwise (fun earlier later =>
    earlier.snapshot.evidence <+: later.snapshot.evidence)
  distinct : ∀ record ∈ stream, (record.snapshot.evidence.map (·.evidenceId)).Nodup
  sticky : stream.Pairwise (fun earlier later =>
    earlier.snapshot.conflictingEvidence = true → later.snapshot.conflictingEvidence = true)
  terminal : stream.Pairwise (fun earlier later =>
    earlier.snapshot.state ∈ terminalOutcomes → later.snapshot.state = earlier.snapshot.state)
  opened : ∀ record ∈ stream.head?, record.snapshot.obligation.state = .opened
  closed : stream.Pairwise (fun earlier later => earlier.snapshot.obligation.state = .closed →
    later.snapshot.obligation = earlier.snapshot.obligation)
  closing : ∀ front record rest, stream = front ++ record :: rest →
    (∀ earlier ∈ front, earlier.snapshot.obligation.state = .opened) →
    record.snapshot.obligation.state = .closed →
    Classified (bundleSubjects send.snapshot.intent) record.snapshot.evidence ∧
      record.snapshot.conflictingEvidence = false ∧
      ∀ earlier ∈ front, earlier.snapshot.conflictingEvidence = false
  links : ∀ record ∈ stream, OriginalLinks send record.snapshot.obligation

theorem OutcomeRun.retained (run : OutcomeRun send stream) :
    stream.Pairwise (fun earlier later => Retained earlier.snapshot later.snapshot) :=
  Linked.ordered run (fun earlier later => Retained earlier.snapshot later.snapshot)
    Retained.trans (fun _ _ continues => continues.continuation.retained)

theorem OutcomeRun.intent (run : OutcomeRun send stream) :
    ∀ record ∈ stream, record.snapshot.intent = send.snapshot.intent :=
  Linked.forall_mem run _ (fun _ opens => opens.opening.intent)
    (fun _ _ known continues => continues.continuation.intent.trans known)

theorem OutcomeRun.opened (run : OutcomeRun send stream) :
    ∀ record ∈ stream.head?, record.snapshot.obligation.state = .opened :=
  fun record first => (run.start record first).opening.waiting

theorem OutcomeRun.distinct (run : OutcomeRun send stream) :
    ∀ record ∈ stream, (record.snapshot.evidence.map (·.evidenceId)).Nodup := by
  refine Linked.forall_mem run _ ?_
    (fun _ _ distinct continues => continues.continuation.fresh distinct)
  intro record opens
  obtain ⟨item, single⟩ := opens.opening.single
  simp [single]

/-- The step that closes the obligation has classified every member. -/
theorem OutcomeRun.closing {front rest : List DispatchOutcomeRecordV2}
    (run : OutcomeRun send (front ++ record :: rest))
    (waiting : ∀ earlier ∈ front, earlier.snapshot.obligation.state = .opened)
    (ended : record.snapshot.obligation.state = .closed) :
    Classified (bundleSubjects send.snapshot.intent) record.snapshot.evidence ∧
      record.snapshot.conflictingEvidence = false := by
  have known := OutcomeRun.intent run record (by simp)
  cases last : front.getLast? with
  | none =>
      obtain rfl := List.getLast?_eq_none_iff.mp last
      have first := OutcomeRun.opened run record (by simp)
      simp [first] at ended
  | some previous =>
      have step : ContinuesOutcome previous record :=
        (List.isChain_append.mp run.chain).2.2 previous last record (by simp)
      have open_ := waiting previous (List.mem_of_getLast? last)
      cases step.continuation.obligation with
      | kept same =>
          rw [same, open_] at ended
          cases ended
      | closed _ _ clear classified => exact ⟨known ▸ classified, clear⟩

theorem outcome_stream_invariants (run : OutcomeRun send stream) : OutcomeInvariants send stream where
  growing := (OutcomeRun.retained run).imp (fun retained => retained.evidence)
  distinct := OutcomeRun.distinct run
  sticky := (OutcomeRun.retained run).imp (fun retained => retained.conflict)
  terminal := (OutcomeRun.retained run).imp (fun retained => retained.terminal)
  opened := OutcomeRun.opened run
  closed := (OutcomeRun.retained run).imp (fun retained => retained.closed)
  closing := by
    rintro front record rest rfl waiting ended
    obtain ⟨classified, clear⟩ := OutcomeRun.closing run waiting ended
    refine ⟨classified, clear, ?_⟩
    intro earlier member
    have pairs := List.pairwise_append.mp (OutcomeRun.retained run)
    have retained := pairs.2.2 earlier member record (by simp)
    cases flag : earlier.snapshot.conflictingEvidence with
    | false => rfl
    | true => rw [retained.conflict flag] at clear; cases clear
  links := Linked.forall_mem run _ (fun _ opens => opens.opening.links)
    (fun _ _ links continues => continues.continuation.links links)

/-- The record from which the next outcome continues. -/
def latestOutcome (send : DispatchRecordV2) (stream : List DispatchOutcomeRecordV2) :
    OutcomePredecessor :=
  stream.getLast?.elim (.send send) .outcome

theorem OutcomeRun.extend (run : OutcomeRun send stream) {request : DispatchOutcomePreparationV2}
    (current : request.previous = latestOutcome send stream)
    (accepted : prepareOutcome request = .ok record) : OutcomeRun send (stream ++ [record]) := by
  cases last : stream.getLast? with
  | none =>
      obtain rfl := List.getLast?_eq_none_iff.mp last
      exact .singleton ⟨request, current, accepted⟩
  | some previous =>
      rw [latestOutcome, last] at current
      exact Linked.snoc run last ⟨request, current, accepted⟩

theorem OutcomeRun.current (run : OutcomeRun send stream) :
    CurrentOutcome send (latestOutcome send stream) := by
  have all : ∀ record ∈ stream, CurrentOutcome send (.outcome record) := by
    refine Linked.forall_mem run _ ?_ ?_
    · rintro record ⟨request, start, accepted⟩
      exact (prepareOutcome_ok accepted).current (start ▸ .atSend send)
    · rintro previous record known ⟨request, start, accepted⟩
      exact (prepareOutcome_ok accepted).current (start ▸ known)
  unfold latestOutcome
  cases last : stream.getLast? with
  | none => exact .atSend send
  | some record => exact all record (List.mem_of_getLast? last)

/-- A run of a committed SEND continues with any evidence that fits its history. -/
theorem OutcomeRun.append {child : TransmissionAttempt} {item : DispatchEvidenceV2}
    (sent : CommittedSend send child) (run : OutcomeRun send stream)
    (appendable : Appendable (bundleSubjects send.snapshot.intent) child
      (latestOutcome send stream).retained item) :
    ∃ record, OutcomeRun send (stream ++ [record]) ∧ record.command.evidence = some item ∧
      record.snapshot.evidence = (latestOutcome send stream).retained ++ [item] := by
  obtain ⟨record, accepted⟩ :=
    append_accepted sent (OutcomeRun.current run) ⟨sampleId, sampleId, 0⟩ appendable
  have outcome := prepareOutcome_ok accepted
  refine ⟨record, OutcomeRun.extend run rfl accepted, by rw [outcome.command]; rfl, ?_⟩
  obtain ⟨opened, _, operated⟩ := outcome.operated
  cases operated with
  | appended other _ supplied evidence _ _ _ =>
      obtain rfl : item = other := Option.some.inj supplied
      exact evidence
  | resolved operation _ _ _ _ _ _ => cases operation

end Stream

def firstMember : ExactHead := ⟨⟨"first", by decide⟩, sampleId, sampleId⟩

def secondMember : ExactHead := ⟨⟨"second", by decide⟩, sampleId, sampleId⟩

def sampleMembers : NonemptyTuple ExactHead := ⟨[firstMember, secondMember], by decide⟩

/-- Two receipts in a row, each listing occurred and incapable members. -/
theorem sample_run [Hashlib] (first second : List Identity × List Identity)
    (firstParts : Partitions {firstMember.subjectId, secondMember.subjectId}
      (sampleReceipt firstMember.subjectId first.1 first.2))
    (secondParts : Partitions {firstMember.subjectId, secondMember.subjectId}
      (sampleReceipt secondMember.subjectId second.1 second.2)) :
    ∃ earlier later, OutcomeRun (sampleSend sampleMembers) [earlier, later] ∧
      earlier.snapshot.evidence = [sampleReceipt firstMember.subjectId first.1 first.2] ∧
      later.command.evidence = some (sampleReceipt secondMember.subjectId second.1 second.2) ∧
      later.snapshot.evidence = [sampleReceipt firstMember.subjectId first.1 first.2,
        sampleReceipt secondMember.subjectId second.1 second.2] := by
  have sent : CommittedSend (sampleSend sampleMembers) sampleChild :=
    sampleSend_committed (by decide)
  obtain ⟨earlier, run, _, evidence⟩ := OutcomeRun.append sent .nil
    ⟨rfl, rfl, by simp [latestOutcome, OutcomePredecessor.retained, OutcomePredecessor.old?], rfl,
      firstParts⟩
  have retained : (latestOutcome (sampleSend sampleMembers) [earlier]).retained =
      [sampleReceipt firstMember.subjectId first.1 first.2] := evidence
  obtain ⟨later, longer, supplied, inventory⟩ := OutcomeRun.append sent run
    ⟨rfl, rfl, by rw [List.nil_append, retained]; simp [sampleReceipt, firstMember, secondMember],
      rfl, secondParts⟩
  rw [List.nil_append, retained] at inventory
  exact ⟨earlier, later, longer, evidence, supplied, inventory⟩

/-- The second receipt reports that a member occurred which the first one ruled out. -/
theorem outcome_stream_invariants_sample :
    ∃ send earlier later, @OutcomeRun Sha256.hashlib send [earlier, later] ∧
      earlier.snapshot.conflictingEvidence = false ∧
      later.snapshot.conflictingEvidence = true ∧
      @OutcomeInvariants Sha256.hashlib send [earlier, later] := by
  let _ := Sha256.hashlib
  obtain ⟨earlier, later, run, evidence, _, inventory⟩ :=
    sample_run ([firstMember.subjectId], [secondMember.subjectId]) ([secondMember.subjectId], [])
      (by decide) (by decide)
  have opening := (run.start earlier rfl).opening
  have continuation := (List.isChain_pair.mp run.chain).continuation
  refine ⟨_, earlier, later, run, ?_, ?_, outcome_stream_invariants run⟩
  · rw [opening.conflict, evidence]
    decide
  · rw [continuation.conflict, ← Bool.not_eq_false, conflictAfter_some, opening.conflict, evidence,
      inventory]
    decide

end Chiplog.Effects
