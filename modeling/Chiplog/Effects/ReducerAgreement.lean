import Chiplog.Effects.EvidenceReduction
import Chiplog.Effects.OutcomeRegistry

namespace Chiplog.Effects

open Chiplog.Data

/-! The two reducers agree.

The first contract tallies observations per child and exact member, the second keeps sets
of subject identities and one sticky conflict flag.  Translated to observations of the
single original child, accepted evidence gets the same terminal verdict from both. -/

section Single

variable {observed : Observed} {child member : ExactHead}

theorem settled_single : Settled observed [child] member ↔ Decided observed child member := by
  simp [Settled]

theorem happened_single : Happened observed [child] member ↔ .occurred ∈ observed.of child member := by
  simp [Happened]

end Single

theorem decided_iff_classified {intent : ExternalActionIntentV2}
    {evidence : List DispatchEvidenceV2} {observed : Observed} {child : ExactHead}
    (sees : ∀ member ∈ intent.mandate.bundleMembers.items,
      (.occurred ∈ observed.of child member ↔ member.subjectId ∈ occurredIn evidence) ∧
      (.permanentlyIncapable ∈ observed.of child member ↔
        member.subjectId ∈ incapableIn evidence)) :
    (∀ member ∈ intent.mandate.bundleMembers.items, Decided observed child member) ↔
      Classified (bundleSubjects intent) evidence := by
  simp only [Classified, bundleSubjects, List.mem_toFinset, List.mem_map, forall_exists_index,
    and_imp, forall_apply_eq_imp_iff₂]
  refine forall₂_congr (fun member inside => ?_)
  rw [Decided, (sees member inside).1, (sees member inside).2]

theorem reduce_single {child : TransmissionAttempt} {members : List ExactHead}
    {rows : List ChildMemberEvidence} {observed : Observed} (ordinal : child.ordinal = 0)
    (nonempty : members ≠ []) (distinct : members.Nodup)
    (accepted : observe [child.transmission] members rows Dict.empty Dict.empty = .ok observed) :
    reduceChildEvidence .outcomeUnknown [child] members rows =
      .ok (drawn .outcomeUnknown [child.transmission] members observed) := by
  refine reduceChildEvidence_eq (by decide) (by simp) nonempty (by simp) distinct ?_ ?_ accepted
  · simp [ordinal, List.range_succ]
  · intro first head other member
    cases head
    obtain rfl := List.mem_singleton.mp member
    exact ⟨rfl, rfl, rfl, rfl, rfl⟩

theorem mem_bundleSubjects {intent : ExternalActionIntentV2} {subject : Identity} :
    subject ∈ bundleSubjects intent ↔
      ∃ member ∈ intent.mandate.bundleMembers.items, member.subjectId = subject := by
  simp [bundleSubjects]

theorem occurs_all_iff {intent : ExternalActionIntentV2} {evidence : List DispatchEvidenceV2}
    (subset : incapableIn evidence ⊆ bundleSubjects intent)
    (classified : Classified (bundleSubjects intent) evidence) :
    (∀ member ∈ intent.mandate.bundleMembers.items, member.subjectId ∈ occurredIn evidence) ↔
      incapableIn evidence = ∅ := by
  constructor
  · intro occurs
    apply Finset.eq_empty_of_forall_notMem
    intro subject incapable
    obtain ⟨member, inside, rfl⟩ := mem_bundleSubjects.mp (subset incapable)
    exact (classified _ (subset incapable)).mp (occurs member inside) incapable
  · intro empty member inside
    apply (classified _ (mem_bundleSubjects.mpr ⟨member, inside, rfl⟩)).mpr
    simp [empty]

theorem occurs_none_iff {intent : ExternalActionIntentV2} {evidence : List DispatchEvidenceV2}
    (subset : occurredIn evidence ⊆ bundleSubjects intent) :
    (∀ member ∈ intent.mandate.bundleMembers.items, member.subjectId ∉ occurredIn evidence) ↔
      occurredIn evidence = ∅ := by
  constructor
  · intro absent
    apply Finset.eq_empty_of_forall_notMem
    intro subject occurs
    obtain ⟨member, inside, rfl⟩ := mem_bundleSubjects.mp (subset occurs)
    exact absent member inside occurs
  · intro empty member _
    simp [empty]

/-- Evidence that covers the bundle and was never found to contradict itself. -/
def DispatchOutcomeSnapshotV2.Complete (snapshot : DispatchOutcomeSnapshotV2) : Prop :=
  snapshot.conflictingEvidence = false ∧
    occurredIn snapshot.evidence ∪ incapableIn snapshot.evidence = bundleSubjects snapshot.intent

theorem reducedOutcome_terminal {complete conflict : Bool} {occurred incapable : Finset Identity}
    (terminal : reducedOutcome complete conflict occurred incapable ∈ terminalOutcomes) :
    complete = true := by
  cases complete with
  | true => rfl
  | false =>
      rw [reducedOutcome_incomplete] at terminal
      split at terminal <;> exact absurd terminal (by decide)

/-- Later evidence cannot change a complete classification without contradicting it. -/
theorem classification_final {members : Finset Identity} {front more : List DispatchEvidenceV2}
    (union : occurredIn front ∪ incapableIn front = members)
    (laterUnion : occurredIn (front ++ more) ∪ incapableIn (front ++ more) = members)
    (clear : occurredIn (front ++ more) ∩ incapableIn (front ++ more) = ∅) :
    occurredIn (front ++ more) = occurredIn front ∧
      incapableIn (front ++ more) = incapableIn front := by
  have disjoint := Finset.disjoint_iff_inter_eq_empty.mpr clear
  have occurs : occurredIn front ⊆ occurredIn (front ++ more) := by
    rw [occurredIn_append]
    exact Finset.subset_union_left
  have incapable : incapableIn front ⊆ incapableIn (front ++ more) := by
    rw [incapableIn_append]
    exact Finset.subset_union_left
  constructor
  · refine Finset.Subset.antisymm (fun subject late => ?_) occurs
    have inside : subject ∈ members := laterUnion ▸ Finset.mem_union_left _ late
    rw [← union] at inside
    cases Finset.mem_union.mp inside with
    | inl early => exact early
    | inr rival => exact absurd (incapable rival) (Finset.disjoint_left.mp disjoint late)
  · refine Finset.Subset.antisymm (fun subject late => ?_) incapable
    have inside : subject ∈ members := laterUnion ▸ Finset.mem_union_right _ late
    rw [← union] at inside
    cases Finset.mem_union.mp inside with
    | inl rival => exact absurd late (Finset.disjoint_left.mp disjoint (occurs rival))
    | inr early => exact early

section Agreement

variable [Hashlib] {send : DispatchRecordV2} {previous record last : DispatchOutcomeRecordV2}
  {stream : List DispatchOutcomeRecordV2}
variable {evidence : List DispatchEvidenceV2}


/-- The observations of one item, member by member. -/
def translateItem (members : List ExactHead) (child : ExactHead) (item : DispatchEvidenceV2) :
    List ChildMemberEvidence :=
  members.flatMap (fun member =>
    (if member.subjectId ∈ item.occurredMembers
      then [⟨evidenceHead item, child, member, .occurred⟩] else []) ++
    (if member.subjectId ∈ item.permanentlyIncapableMembers
      then [⟨evidenceHead item, child, member, .permanentlyIncapable⟩] else []) ++
    (if member.subjectId ∉ item.occurredMembers ∧
        member.subjectId ∉ item.permanentlyIncapableMembers
      then [⟨evidenceHead item, child, member, .possible⟩] else []))

/-- Evidence of the second contract as observations of the first. -/
def translateEvidence (members : List ExactHead) (child : ExactHead)
    (evidence : List DispatchEvidenceV2) : List ChildMemberEvidence :=
  evidence.flatMap (translateItem members child)

theorem mem_translateItem {members : List ExactHead} {child : ExactHead}
    {item : DispatchEvidenceV2} {row : ChildMemberEvidence}
    (member : row ∈ translateItem members child item) :
    row.child = child ∧ row.member ∈ members ∧ row.evidence = evidenceHead item := by
  simp only [translateItem, List.mem_flatMap, List.mem_append, List.mem_ite_nil_right,
    List.mem_singleton] at member
  obtain ⟨own, inside, (⟨_, rfl⟩ | ⟨_, rfl⟩) | ⟨_, rfl⟩⟩ := member <;>
    exact ⟨rfl, inside, rfl⟩

theorem occurred_mem_translate {members : List ExactHead} {child member : ExactHead}
    (inside : member ∈ members) :
    (∃ row ∈ translateEvidence members child evidence,
        row.child = child ∧ row.member = member ∧ row.outcome = .occurred) ↔
      member.subjectId ∈ occurredIn evidence := by
  simp only [translateEvidence, translateItem, occurredIn, List.mem_flatMap, List.mem_append,
    List.mem_ite_nil_right, List.mem_singleton, List.mem_toFinset]
  constructor
  · rintro ⟨row, ⟨item, known, own, _, (⟨listed, rfl⟩ | ⟨_, rfl⟩) | ⟨_, rfl⟩⟩, _, rfl, outcome⟩
    · exact ⟨item, known, listed⟩
    · cases outcome
    · cases outcome
  · rintro ⟨item, known, listed⟩
    exact ⟨_, ⟨item, known, member, inside, .inl (.inl ⟨listed, rfl⟩)⟩, rfl, rfl, rfl⟩

theorem incapable_mem_translate {members : List ExactHead} {child member : ExactHead}
    (inside : member ∈ members) :
    (∃ row ∈ translateEvidence members child evidence,
        row.child = child ∧ row.member = member ∧ row.outcome = .permanentlyIncapable) ↔
      member.subjectId ∈ incapableIn evidence := by
  simp only [translateEvidence, translateItem, incapableIn, List.mem_flatMap, List.mem_append,
    List.mem_ite_nil_right, List.mem_singleton, List.mem_toFinset]
  constructor
  · rintro ⟨row, ⟨item, known, own, _, (⟨_, rfl⟩ | ⟨listed, rfl⟩) | ⟨_, rfl⟩⟩, _, rfl, outcome⟩
    · cases outcome
    · exact ⟨item, known, listed⟩
    · cases outcome
  · rintro ⟨item, known, listed⟩
    exact ⟨_, ⟨item, known, member, inside, .inl (.inr ⟨listed, rfl⟩)⟩, rfl, rfl, rfl⟩

/-- Evidence with distinct identities has no rival heads. -/
theorem translateEvidence_consistent {members : List ExactHead} {child : ExactHead}
    (distinct : (evidence.map (·.evidenceId)).Nodup) :
    Consistent [child] members (translateEvidence members child evidence) := by
  constructor
  · intro row member
    obtain ⟨item, _, observed⟩ := List.mem_flatMap.mp member
    obtain ⟨rfl, inside, _⟩ := mem_translateItem observed
    exact ⟨by simp, inside⟩
  · intro row member other inside same
    obtain ⟨item, known, observed⟩ := List.mem_flatMap.mp member
    obtain ⟨source, retained, reported⟩ := List.mem_flatMap.mp inside
    obtain ⟨_, _, head⟩ := mem_translateItem observed
    obtain ⟨_, _, rival⟩ := mem_translateItem reported
    rw [head, rival] at same ⊢
    rw [List.inj_on_of_nodup_map distinct known retained same]

/-- Observing translated evidence tells of each member what the sets tell of its subject. -/
theorem observe_translated {members : List ExactHead} {child : ExactHead}
    (distinct : (evidence.map (·.evidenceId)).Nodup) :
    ∃ observed, observe [child] members (translateEvidence members child evidence) Dict.empty
        Dict.empty = .ok observed ∧
      ∀ member ∈ members,
        (.occurred ∈ observed.of child member ↔ member.subjectId ∈ occurredIn evidence) ∧
        (.permanentlyIncapable ∈ observed.of child member ↔
          member.subjectId ∈ incapableIn evidence) := by
  have consistent : Consistent [child] members (translateEvidence members child evidence) :=
    translateEvidence_consistent distinct
  have fresh : ∀ row ∈ translateEvidence members child evidence,
      ∀ head ∈ (Dict.empty : Dict Identity ExactHead).get? row.evidence.subjectId,
        head = row.evidence := by
    simp
  obtain ⟨observed, accepted⟩ : ∃ observed, observe [child] members
      (translateEvidence members child evidence) Dict.empty Dict.empty = .ok observed :=
    observe_total consistent fresh
  refine ⟨observed, accepted, ?_⟩
  intro member inside
  have unseen : Observed.of Dict.empty child member = [] := rfl
  constructor
  · rw [mem_observe accepted, unseen]
    simpa using occurred_mem_translate inside
  · rw [mem_observe accepted, unseen]
    simpa using incapable_mem_translate inside

/-- Both reducers draw the same verdict from classified evidence. -/
theorem reduce_translated_classified {intent : ExternalActionIntentV2} {child : TransmissionAttempt}
    (ordinal : child.ordinal = 0) (membersDistinct : intent.mandate.bundleMembers.items.Nodup)
    (distinct : (evidence.map (·.evidenceId)).Nodup)
    (partitions : ∀ item ∈ evidence, Partitions (bundleSubjects intent) item)
    (classified : Classified (bundleSubjects intent) evidence) :
    reduceChildEvidence .outcomeUnknown [child] intent.mandate.bundleMembers.items
        (translateEvidence intent.mandate.bundleMembers.items child.transmission evidence) =
      .ok (reducedOutcome true false (occurredIn evidence) (incapableIn evidence)).attempt := by
  obtain ⟨observed, accepted, sees⟩ := observe_translated distinct
  have settled : ∀ member ∈ intent.mandate.bundleMembers.items,
      Settled observed [child.transmission] member :=
    fun member inside => settled_single.mpr ((decided_iff_classified sees).mpr classified member inside)
  have subset := classified_subset partitions
  rw [reduce_single ordinal intent.mandate.bundleMembers.nonempty membersDistinct accepted,
    drawn_settled settled]
  have all : (∀ member ∈ intent.mandate.bundleMembers.items,
      .occurred ∈ observed.of child.transmission member) ↔ incapableIn evidence = ∅ := by
    rw [← occurs_all_iff (Finset.union_subset_right subset) classified]
    exact forall₂_congr (fun member inside => (sees member inside).1)
  have nothing : (∀ member ∈ intent.mandate.bundleMembers.items,
      .occurred ∉ observed.of child.transmission member) ↔ occurredIn evidence = ∅ := by
    rw [← occurs_none_iff (Finset.union_subset_left subset)]
    exact forall₂_congr (fun member inside => not_congr (sees member inside).1)
  simp only [happened_single, all, nothing, reducedOutcome, if_true]
  split
  · rfl
  · split
    · rfl
    · rfl

theorem reduce_translated_unclassified {intent : ExternalActionIntentV2}
    {child : TransmissionAttempt} (ordinal : child.ordinal = 0)
    (membersDistinct : intent.mandate.bundleMembers.items.Nodup)
    (distinct : (evidence.map (·.evidenceId)).Nodup)
    (unclassified : ¬ Classified (bundleSubjects intent) evidence) :
    reduceChildEvidence .outcomeUnknown [child] intent.mandate.bundleMembers.items
        (translateEvidence intent.mandate.bundleMembers.items child.transmission evidence) =
      .ok .outcomeUnknown := by
  obtain ⟨observed, accepted, sees⟩ := observe_translated distinct
  rw [← decided_iff_classified sees] at unclassified
  push Not at unclassified
  obtain ⟨member, inside, undecided⟩ := unclassified
  have open_ : ¬ ∀ member ∈ intent.mandate.bundleMembers.items,
      Settled observed [child.transmission] member :=
    fun settled => undecided (settled_single.mp (settled member inside))
  rw [reduce_single ordinal intent.mandate.bundleMembers.nonempty membersDistinct accepted,
    (drawn_unsettled open_).1 (by decide)]

/-- The sticky flag tells whether the retained evidence contradicts itself. -/
theorem OutcomeRun.conflict_iff (run : OutcomeRun send stream) :
    ∀ record ∈ stream, (record.snapshot.conflictingEvidence = false ↔
      occurredIn record.snapshot.evidence ∩ incapableIn record.snapshot.evidence = ∅) := by
  refine Linked.forall_mem run _ ?_ ?_
  · intro record opens
    rw [opens.opening.conflict]
    exact conflictAfter_none
  · intro previous record known continues
    rw [continues.continuation.conflict, conflictAfter_some, known]
    refine and_iff_left_of_imp (fun clear => ?_)
    obtain ⟨more, grown⟩ := continues.continuation.retained.evidence
    rw [← grown, occurredIn_append, incapableIn_append] at clear
    rw [← Finset.subset_empty, ← clear]
    exact Finset.inter_subset_inter Finset.subset_union_left Finset.subset_union_left

theorem OutcomeRun.partitions (run : OutcomeRun send stream) :
    ∀ record ∈ stream, ∀ item ∈ record.snapshot.evidence,
      Partitions (bundleSubjects record.snapshot.intent) item :=
  Linked.forall_mem run _ (fun _ opens => opens.opening.partitions)
    (fun _ _ _ continues => continues.continuation.partitions)

theorem OutcomeRun.complete_iff (run : OutcomeRun send stream) (member : record ∈ stream) :
    record.snapshot.Complete ↔
      Classified (bundleSubjects record.snapshot.intent) record.snapshot.evidence := by
  have flag := OutcomeRun.conflict_iff run record member
  have partitions := OutcomeRun.partitions run record member
  constructor
  · rintro ⟨clear, union⟩
    exact completeAfter_classified
      (completeAfter_ok.mpr ⟨conflictAfter_none.mpr (flag.mp clear), union⟩)
  · intro classified
    refine ⟨flag.mpr ?_, ?_⟩
    · apply Finset.eq_empty_of_forall_notMem
      intro subject both
      obtain ⟨occurs, incapable⟩ := Finset.mem_inter.mp both
      have inside := classified_subset partitions (Finset.mem_union_left _ occurs)
      exact (classified subject inside).mp occurs incapable
    · by_contra incomplete
      obtain ⟨subject, inside, absent, capable⟩ :=
        (unclassified_of_incomplete partitions).mp incomplete
      exact absent ((classified subject inside).mpr capable)

theorem Opening.complete_of_terminal (opening : Opening send record)
    (terminal : record.snapshot.state ∈ terminalOutcomes) : record.snapshot.Complete := by
  rw [opening.state] at terminal
  split at terminal
  · exact absurd terminal (by decide)
  · have complete := completeAfter_ok.mp (reducedOutcome_terminal terminal)
    rw [← opening.conflict, ← opening.intent] at complete
    exact complete

theorem Continuation.complete_of_terminal (continuation : Continuation previous record)
    (live : previous.snapshot.state ∉ terminalOutcomes)
    (terminal : record.snapshot.state ∈ terminalOutcomes) : record.snapshot.Complete := by
  rw [continuation.state, reducedAfter_live _ live] at terminal
  have complete := completeAfter_ok.mp (reducedOutcome_terminal terminal)
  rw [← continuation.conflict] at complete
  exact complete

/-- A terminal state is only reached through complete evidence. -/
theorem OutcomeRun.complete_of_terminal (run : OutcomeRun send stream) :
    ∀ record ∈ stream, record.snapshot.state ∈ terminalOutcomes →
      ∃ earlier ∈ stream, earlier.snapshot.Complete := by
  refine Linked.induction (motive := fun stream => ∀ record ∈ stream,
    record.snapshot.state ∈ terminalOutcomes → ∃ earlier ∈ stream, earlier.snapshot.Complete)
    (by simp) ?_ ?_ run
  · intro first opens record member terminal
    obtain rfl := List.mem_singleton.mp member
    exact ⟨record, member, opens.opening.complete_of_terminal terminal⟩
  · intro stream previous next _ ih latest continues record member terminal
    rcases List.mem_append.mp member with inside | final
    · obtain ⟨earlier, known, complete⟩ := ih record inside terminal
      exact ⟨earlier, List.mem_append_left _ known, complete⟩
    · obtain rfl := List.mem_singleton.mp final
      by_cases ended : previous.snapshot.state ∈ terminalOutcomes
      · obtain ⟨earlier, known, complete⟩ := ih previous (List.mem_of_getLast? latest) ended
        exact ⟨earlier, List.mem_append_left _ known, complete⟩
      · exact ⟨record, member, continues.continuation.complete_of_terminal ended terminal⟩

/-- The state computed where the evidence first becomes complete, past the first outcome. -/
theorem OutcomeRun.state_of_first_complete {front rest : List DispatchOutcomeRecordV2}
    (run : OutcomeRun send (front ++ record :: rest)) (past : front ≠ [])
    (incomplete : ∀ earlier ∈ front, ¬ earlier.snapshot.Complete)
    (complete : record.snapshot.Complete) :
    record.snapshot.state = reducedOutcome true false (occurredIn record.snapshot.evidence)
      (incapableIn record.snapshot.evidence) := by
  obtain ⟨previous, latest⟩ := Option.ne_none_iff_exists'.mp
    (fun none => past (List.getLast?_eq_none_iff.mp none))
  have continues : ContinuesOutcome previous record :=
    (List.isChain_append.mp run.chain).2.2 previous latest record (by simp)
  have live : previous.snapshot.state ∉ terminalOutcomes := by
    intro ended
    have earlierRun : OutcomeRun send front := Linked.left run
    obtain ⟨earlier, known, early⟩ :=
      OutcomeRun.complete_of_terminal earlierRun previous (List.mem_of_getLast? latest) ended
    exact incomplete earlier known early
  have continuation := continues.continuation
  obtain ⟨clear, union⟩ := complete
  rw [continuation.conflict] at clear
  rw [continuation.state, reducedAfter_live _ live, completeAfter_ok.mpr ⟨clear, union⟩, clear]

/-- What the first accepted outcome has checked about its SEND. -/
theorem OutcomeRun.send_checked (run : OutcomeRun send stream) (nonempty : stream ≠ []) :
    requireIntent send.snapshot.intent = .ok () ∧
      ∃ child, send.snapshot.transmissions = [child] ∧ child.ordinal = 0 := by
  obtain ⟨first, rest, rfl⟩ := List.exists_cons_of_ne_nil nonempty
  obtain ⟨request, start, accepted⟩ := run.start first rfl
  have outcome := prepareOutcome_ok accepted
  obtain ⟨_, _, _, single, ordinal, sent⟩ := requireOriginal_ok outcome.original
  have same := sent (by rw [start]; rfl)
  rw [start] at same
  cases same
  obtain ⟨child, only⟩ := List.length_eq_one_iff.mp (by simpa using single)
  exact ⟨outcome.intentAccepted, child, only, ordinal child (by rw [only]; rfl)⟩

/-- On the single child of the SEND the first reducer gives the translated evidence a
terminal verdict exactly when the second found it complete and never contradictory, and
then the two verdicts are the same. -/
theorem reducers_agree (run : OutcomeRun send stream) (latest : stream.getLast? = some last) :
    ∃ child, send.snapshot.transmissions = [child] ∧
      let members := send.snapshot.intent.mandate.bundleMembers.items
      let reduced := reduceChildEvidence .outcomeUnknown [child] members
        (translateEvidence members child.transmission last.snapshot.evidence)
      ((∃ verdict ∈ terminalOutcomes, reduced = .ok verdict.attempt) ↔ last.snapshot.Complete) ∧
      (last.snapshot.Complete → ∀ front record rest, stream = front ++ record :: rest →
        front ≠ [] → (∀ earlier ∈ front, ¬ earlier.snapshot.Complete) →
        record.snapshot.Complete → reduced = .ok record.snapshot.state.attempt) := by
  have member := List.mem_of_getLast? latest
  obtain ⟨accepted, child, only, ordinal⟩ :=
    OutcomeRun.send_checked run (List.ne_nil_of_mem member)
  have intent := OutcomeRun.intent run last member
  have membersDistinct := requireIntent_distinct accepted
  have distinct := OutcomeRun.distinct run last member
  have partitions := OutcomeRun.partitions run last member
  have complete_iff := OutcomeRun.complete_iff run member
  rw [intent] at partitions complete_iff
  refine ⟨child, only, ?_, ?_⟩
  · constructor
    · rintro ⟨verdict, terminal, reduced⟩
      by_contra incomplete
      rw [complete_iff] at incomplete
      rw [reduce_translated_unclassified ordinal membersDistinct distinct incomplete] at reduced
      have unknown := Except.ok.inj reduced
      cases verdict with
      | outcomeUnknown => exact absurd terminal (by decide)
      | partialOutcome | confirmed | failedNoEffect | partialConfirmed => cases unknown
    · intro complete
      exact ⟨_, reducedOutcome_complete false _ _, reduce_translated_classified ordinal
        membersDistinct distinct partitions (complete_iff.mp complete)⟩
  · rintro complete front record rest rfl past incomplete first
    have grown : record.snapshot.evidence <+: last.snapshot.evidence :=
      Linked.toLast run (fun earlier later => earlier.snapshot.evidence <+: later.snapshot.evidence)
        (fun _ => List.prefix_rfl) List.IsPrefix.trans
        (fun _ _ continues => continues.continuation.retained.evidence) latest record (by simp)
    obtain ⟨more, same⟩ := grown
    have clear := (OutcomeRun.conflict_iff run last member).mp complete.1
    have union := complete.2
    have sameIntent := OutcomeRun.intent run record (by simp)
    have covered := first.2
    rw [intent, ← same] at union
    rw [sameIntent] at covered
    rw [← same] at clear
    obtain ⟨occurred, incapable⟩ := classification_final covered union clear
    rw [OutcomeRun.state_of_first_complete run past incomplete first, ← occurred, ← incapable, same]
    exact reduce_translated_classified ordinal membersDistinct distinct partitions
      (complete_iff.mp complete)

end Agreement

/-- A silent receipt and then a divided one: both reducers say `PARTIAL_CONFIRMED`. -/
theorem reducers_agree_sample :
    ∃ send stream last, @OutcomeRun Sha256.hashlib send stream ∧
      stream.getLast? = some last ∧ last.snapshot.state = .partialConfirmed ∧
      ∃ child, send.snapshot.transmissions = [child] ∧
        reduceChildEvidence .outcomeUnknown [child] send.snapshot.intent.mandate.bundleMembers.items
          (@translateEvidence Sha256.hashlib send.snapshot.intent.mandate.bundleMembers.items
            child.transmission last.snapshot.evidence) = .ok .partialConfirmed := by
  let _ := Sha256.hashlib
  obtain ⟨earlier, later, run, evidence, _, inventory⟩ :=
    sample_run ([], []) ([firstMember.subjectId], [secondMember.subjectId]) (by decide) (by decide)
  have opening := (run.start earlier rfl).opening
  have continuation := (List.isChain_pair.mp run.chain).continuation
  have incomplete : ¬ earlier.snapshot.Complete := by
    rw [DispatchOutcomeSnapshotV2.Complete, evidence, opening.intent]
    exact fun complete => absurd complete.2 (by decide)
  have complete : later.snapshot.Complete := by
    refine ⟨(OutcomeRun.conflict_iff run later (by simp)).mpr ?_, ?_⟩
    · rw [inventory]
      decide
    · rw [inventory, continuation.intent, opening.intent]
      decide
  have state : later.snapshot.state = .partialConfirmed := by
    have run' : OutcomeRun _ ([earlier] ++ later :: []) := run
    rw [OutcomeRun.state_of_first_complete run' (by simp) (by simpa using incomplete) complete,
      inventory]
    decide
  obtain ⟨child, only, _, same⟩ := reducers_agree run rfl
  refine ⟨_, _, later, run, rfl, state, child, only, ?_⟩
  have agreed := same complete [earlier] later [] rfl (by simp) (by simpa using incomplete) complete
  rw [state] at agreed
  exact agreed

end Chiplog.Effects
