import Chiplog.Effects.OutcomeStream

namespace Chiplog.Effects

variable {occurred incapable : Finset Identity}

open Chiplog.Data

/-! Outcome streams and the transition registry.

A record's state is recomputed from the whole evidence, not stepped.  Exactly two kinds of
appended evidence take it off the registry: a first occurred member after
`OUTCOME_UNKNOWN` that leaves the bundle incomplete, and a contradiction after `PARTIAL`. -/

/-- An equal state or an edge of the registry. -/
def Registered (before after : AttemptState) : Prop :=
  after = before ∨ after ∈ transitions before

instance (before after : AttemptState) : Decidable (Registered before after) :=
  inferInstanceAs (Decidable (_ ∨ _))

/-- The item lists a member the other way than the retained evidence does. -/
def Contradicts (retained : List DispatchEvidenceV2) (item : DispatchEvidenceV2) : Prop :=
  (∃ member ∈ item.occurredMembers, member ∈ incapableIn retained) ∨
    ∃ member ∈ item.permanentlyIncapableMembers, member ∈ occurredIn retained

/-- Appending the item after `old` moves the attempt along no registered edge. -/
def Reclassifies (members : Finset Identity) (old : DispatchOutcomeSnapshotV2)
    (item : DispatchEvidenceV2) : Prop :=
  (old.state = .outcomeUnknown ∧ old.conflictingEvidence = false ∧ item.occurredMembers ≠ [] ∧
      ¬ Contradicts old.evidence item ∧
      ∃ member ∈ members, member ∉ occurredIn (old.evidence ++ [item]) ∧
        member ∉ incapableIn (old.evidence ++ [item])) ∨
    (old.state = .partialOutcome ∧ Contradicts old.evidence item)

theorem occurredIn_singleton (item : DispatchEvidenceV2) :
    occurredIn [item] = item.occurredMembers.toFinset := by
  simp [occurredIn]

theorem incapableIn_singleton (item : DispatchEvidenceV2) :
    incapableIn [item] = item.permanentlyIncapableMembers.toFinset := by
  simp [incapableIn]

/-- Evidence without contradiction gets one exactly when the new item contradicts it. -/
theorem contradiction_of_append {members : Finset Identity} {retained : List DispatchEvidenceV2}
    {item : DispatchEvidenceV2} (clear : occurredIn retained ∩ incapableIn retained = ∅)
    (partitions : Partitions members item) :
    occurredIn (retained ++ [item]) ∩ incapableIn (retained ++ [item]) = ∅ ↔
      ¬ Contradicts retained item := by
  have separate : item.occurredMembers.toFinset ∩ item.permanentlyIncapableMembers.toFinset = ∅ := by
    apply Finset.disjoint_iff_inter_eq_empty.mp
    rw [Finset.disjoint_left]
    intro member occurred
    simpa using partitions.separate member (by simpa using occurred)
  rw [occurredIn_append, incapableIn_append, occurredIn_singleton, incapableIn_singleton,
    Finset.union_inter_distrib_right, Finset.inter_union_distrib_left,
    Finset.inter_union_distrib_left, clear, separate, Finset.empty_union, Finset.union_empty,
    Finset.union_eq_empty, ← Finset.disjoint_iff_inter_eq_empty,
    ← Finset.disjoint_iff_inter_eq_empty, Finset.disjoint_right, Finset.disjoint_left]
  simp only [List.mem_toFinset, Contradicts]
  constructor
  · rintro ⟨incapable, occurred⟩ (⟨member, listed, known⟩ | ⟨member, listed, known⟩)
    · exact occurred listed known
    · exact incapable listed known
  · intro consistent
    constructor
    · intro member listed known
      exact consistent (.inr ⟨member, listed, known⟩)
    · intro member listed known
      exact consistent (.inl ⟨member, listed, known⟩)

theorem classified_subset {members : Finset Identity} {evidence : List DispatchEvidenceV2}
    (partitions : ∀ item ∈ evidence, Partitions members item) :
    occurredIn evidence ∪ incapableIn evidence ⊆ members := by
  intro member inside
  simp only [occurredIn, incapableIn, Finset.mem_union, List.mem_toFinset, List.mem_flatMap] at inside
  cases inside with
  | inl occurred =>
      obtain ⟨item, known, listed⟩ := occurred
      exact (partitions item known).drawn member (List.mem_append_left _ listed)
  | inr incapable =>
      obtain ⟨item, known, listed⟩ := incapable
      exact (partitions item known).drawn member (List.mem_append_right _ listed)

/-- Evidence that does not cover the bundle leaves some member unclassified. -/
theorem unclassified_of_incomplete {members : Finset Identity} {evidence : List DispatchEvidenceV2}
    (partitions : ∀ item ∈ evidence, Partitions members item) :
    occurredIn evidence ∪ incapableIn evidence ≠ members ↔
      ∃ member ∈ members, member ∉ occurredIn evidence ∧ member ∉ incapableIn evidence := by
  constructor
  · intro incomplete
    by_contra covered
    push Not at covered
    apply incomplete
    apply Finset.Subset.antisymm (classified_subset partitions)
    intro member inside
    by_cases occurred : member ∈ occurredIn evidence
    · exact Finset.mem_union_left _ occurred
    · exact Finset.mem_union_right _ (covered member inside occurred)
  · rintro ⟨member, inside, occurred, incapable⟩ union
    rw [← union] at inside
    cases Finset.mem_union.mp inside with
    | inl listed => exact occurred listed
    | inr listed => exact incapable listed

/-- How the state of a record reflects its evidence. -/
structure StateFits (snapshot : DispatchOutcomeSnapshotV2) : Prop where
  clear : snapshot.conflictingEvidence = false →
    occurredIn snapshot.evidence ∩ incapableIn snapshot.evidence = ∅
  unknown : snapshot.state = .outcomeUnknown → snapshot.conflictingEvidence = false →
    occurredIn snapshot.evidence = ∅
  started : snapshot.state = .partialOutcome →
    snapshot.conflictingEvidence = false ∧ occurredIn snapshot.evidence ≠ ∅

theorem reducedOutcome_complete (conflict : Bool) (occurred incapable : Finset Identity) :
    reducedOutcome true conflict occurred incapable ∈ terminalOutcomes := by
  unfold reducedOutcome
  rw [if_pos rfl]
  split
  · decide
  · split <;> decide

theorem reducedOutcome_incomplete (conflict : Bool) (occurred incapable : Finset Identity) :
    reducedOutcome false conflict occurred incapable =
      if occurred ≠ ∅ ∧ conflict = false then .partialOutcome else .outcomeUnknown := by
  simp [reducedOutcome]

theorem reducedOutcome_unknown {complete conflict : Bool}
    (unknown : reducedOutcome complete conflict occurred incapable = .outcomeUnknown)
    (clear : conflict = false) : occurred = ∅ := by
  cases complete with
  | true =>
      have terminal := reducedOutcome_complete conflict occurred incapable
      rw [unknown] at terminal
      exact absurd terminal (by decide)
  | false =>
      rw [reducedOutcome_incomplete] at unknown
      split at unknown
      · cases unknown
      · rename_i unmarked
        by_contra nonempty
        exact unmarked ⟨nonempty, clear⟩

theorem reducedOutcome_started {complete conflict : Bool}
    (started : reducedOutcome complete conflict occurred incapable = .partialOutcome) :
    conflict = false ∧ occurred ≠ ∅ := by
  cases complete with
  | true =>
      have terminal := reducedOutcome_complete conflict occurred incapable
      rw [started] at terminal
      exact absurd terminal (by decide)
  | false =>
      rw [reducedOutcome_incomplete] at started
      split at started
      · rename_i marked
        exact ⟨marked.2, marked.1⟩
      · cases started

theorem reducedOutcome_divided {complete conflict : Bool}
    (divided : reducedOutcome complete conflict occurred incapable = .partialConfirmed) :
    complete = true ∧ occurred ≠ ∅ := by
  cases complete with
  | true =>
      refine ⟨rfl, ?_⟩
      unfold reducedOutcome at divided
      rw [if_pos rfl] at divided
      split at divided
      · cases divided
      · split at divided
        · cases divided
        · assumption
  | false =>
      rw [reducedOutcome_incomplete] at divided
      split at divided <;> cases divided

theorem terminalOutcomes_cases (state : OutcomeState) :
    state ∈ terminalOutcomes ∨ state = .outcomeUnknown ∨ state = .partialOutcome := by
  cases state <;> simp [terminalOutcomes]

/-- Every terminal outcome is a registered successor of the two open states. -/
theorem registered_terminal {before after : OutcomeState}
    (live : before = .outcomeUnknown ∨ before = .partialOutcome)
    (terminal : after ∈ terminalOutcomes) : Registered before.attempt after.attempt := by
  rcases live with rfl | rfl <;> cases after <;> revert terminal <;> decide

/-- From `OUTCOME_UNKNOWN` only a first, incomplete and consistent occurrence is unregistered. -/
theorem registered_unknown_iff {complete conflict : Bool} :
    Registered .outcomeUnknown (reducedOutcome complete conflict occurred incapable).attempt ↔
      ¬ (complete = false ∧ conflict = false ∧ occurred ≠ ∅) := by
  cases complete with
  | true =>
      have registered := registered_terminal (.inl rfl)
        (reducedOutcome_complete conflict occurred incapable)
      exact iff_of_true registered (by simp)
  | false =>
      rw [reducedOutcome_incomplete]
      split
      · rename_i marked
        refine iff_of_false (by decide) ?_
        exact not_not.mpr ⟨rfl, marked.2, marked.1⟩
      · rename_i unmarked
        refine iff_of_true (by decide) ?_
        exact fun marked => unmarked ⟨marked.2.2, marked.2.1⟩

/-- From `PARTIAL` only a conflict is unregistered. -/
theorem registered_started_iff {complete conflict : Bool}
    (occurs : occurred ≠ ∅) (settled : complete = true → conflict = false) :
    Registered .partialOutcome (reducedOutcome complete conflict occurred incapable).attempt ↔
      conflict = false := by
  cases complete with
  | true =>
      have registered := registered_terminal (.inr rfl)
        (reducedOutcome_complete conflict occurred incapable)
      exact iff_of_true registered (settled rfl)
  | false =>
      rw [reducedOutcome_incomplete]
      split
      · rename_i marked
        exact iff_of_true (by decide) marked.2
      · rename_i unmarked
        exact iff_of_false (by decide) (fun clear => unmarked ⟨occurs, clear⟩)

section Append

variable {members : Finset Identity} {old : DispatchOutcomeSnapshotV2} {item : DispatchEvidenceV2}

theorem registered_append_unknown (fits : StateFits old) (unknown : old.state = .outcomeUnknown)
    (partitions : ∀ other ∈ old.evidence ++ [item], Partitions members other) :
    Registered .outcomeUnknown (reducedOutcome
        (completeAfter members (some old) (old.evidence ++ [item]))
        (conflictAfter (some old) (old.evidence ++ [item]))
        (occurredIn (old.evidence ++ [item])) (incapableIn (old.evidence ++ [item]))).attempt ↔
      ¬ Reclassifies members old item := by
  have last : Partitions members item := partitions item (by simp)
  rw [registered_unknown_iff, not_iff_not]
  constructor
  · rintro ⟨incomplete, clear, occurs⟩
    obtain ⟨consistent, unmarked⟩ := conflictAfter_some.mp clear
    have absent := fits.unknown unknown unmarked
    refine .inl ⟨unknown, unmarked, ?_, ?_, ?_⟩
    · intro empty
      apply occurs
      rw [occurredIn_append, absent, occurredIn_singleton, empty]
      rfl
    · exact (contradiction_of_append (fits.clear unmarked) last).mp consistent
    · apply (unclassified_of_incomplete partitions).mp
      intro union
      rw [completeAfter_ok.mpr ⟨clear, union⟩] at incomplete
      cases incomplete
  · rintro (⟨_, unmarked, occurs, consistent, unclassified⟩ | ⟨started, _⟩)
    · have clear : conflictAfter (some old) (old.evidence ++ [item]) = false :=
        conflictAfter_some.mpr
          ⟨(contradiction_of_append (fits.clear unmarked) last).mpr consistent, unmarked⟩
      refine ⟨?_, clear, ?_⟩
      · rw [Bool.eq_false_iff]
        intro complete
        exact (unclassified_of_incomplete partitions).mpr unclassified
          (completeAfter_ok.mp complete).2
      · rw [occurredIn_append, occurredIn_singleton]
        intro empty
        have none := (Finset.union_eq_empty.mp empty).2
        exact occurs (List.toFinset_eq_empty_iff _ |>.mp none)
    · rw [unknown] at started
      cases started

theorem registered_append_started (fits : StateFits old) (started : old.state = .partialOutcome)
    (partitions : ∀ other ∈ old.evidence ++ [item], Partitions members other) :
    Registered .partialOutcome (reducedOutcome
        (completeAfter members (some old) (old.evidence ++ [item]))
        (conflictAfter (some old) (old.evidence ++ [item]))
        (occurredIn (old.evidence ++ [item])) (incapableIn (old.evidence ++ [item]))).attempt ↔
      ¬ Reclassifies members old item := by
  obtain ⟨unmarked, occurs⟩ := fits.started started
  have more : occurredIn (old.evidence ++ [item]) ≠ ∅ := by
    rw [occurredIn_append]
    intro empty
    exact occurs (Finset.union_eq_empty.mp empty).1
  rw [registered_started_iff more (fun complete => (completeAfter_ok.mp complete).1),
    conflictAfter_some,
    contradiction_of_append (fits.clear unmarked) (partitions item (by simp))]
  constructor
  · rintro ⟨consistent, _⟩ (⟨unknown, _⟩ | ⟨_, contradicts⟩)
    · rw [started] at unknown
      cases unknown
    · exact consistent contradicts
  · intro kept
    exact ⟨fun contradicts => kept (.inr ⟨started, contradicts⟩), unmarked⟩

end Append

section Registry

variable [Hashlib] {send : DispatchRecordV2} {previous record : DispatchOutcomeRecordV2}
  {stream : List DispatchOutcomeRecordV2}

theorem Opening.stateFits (opening : Opening send record) : StateFits record.snapshot where
  clear := by
    intro clear
    rw [opening.conflict] at clear
    exact conflictAfter_disjoint clear
  unknown := by
    intro unknown clear
    rw [opening.conflict] at clear
    rw [opening.state] at unknown
    split at unknown
    · cases unknown
    · exact reducedOutcome_unknown unknown clear
  started := by
    intro started
    rw [opening.state] at started
    rw [opening.conflict]
    split at started
    · rename_i divided
      obtain ⟨complete, occurred⟩ := reducedOutcome_divided divided
      exact ⟨(completeAfter_ok.mp complete).1, occurred⟩
    · exact reducedOutcome_started started

theorem Continuation.stateFits (continuation : Continuation previous record) :
    StateFits record.snapshot := by
  have state := continuation.state
  refine ⟨?_, ?_, ?_⟩
  · intro clear
    rw [continuation.conflict] at clear
    exact conflictAfter_disjoint clear
  · intro unknown clear
    rw [continuation.conflict] at clear
    rw [unknown] at state
    by_cases terminal : previous.snapshot.state ∈ terminalOutcomes
    · rw [reducedAfter_terminal _ terminal] at state
      rw [← state] at terminal
      exact absurd terminal (by decide)
    · rw [reducedAfter_live _ terminal] at state
      exact reducedOutcome_unknown state.symm clear
  · intro started
    rw [continuation.conflict]
    rw [started] at state
    by_cases terminal : previous.snapshot.state ∈ terminalOutcomes
    · rw [reducedAfter_terminal _ terminal] at state
      rw [← state] at terminal
      exact absurd terminal (by decide)
    · rw [reducedAfter_live _ terminal] at state
      exact reducedOutcome_started state.symm

/-- One step is registered exactly when its item does not reclassify the attempt. -/
theorem Continuation.registered_iff (continuation : Continuation previous record)
    (fits : StateFits previous.snapshot) :
    Registered previous.snapshot.state.attempt record.snapshot.state.attempt ↔
      ∀ item ∈ record.command.evidence,
        ¬ Reclassifies (bundleSubjects record.snapshot.intent) previous.snapshot item := by
  have state := continuation.state
  have partitions := continuation.partitions
  rcases terminalOutcomes_cases previous.snapshot.state with terminal | live
  · rw [reducedAfter_terminal _ terminal] at state
    refine iff_of_true (.inl (by rw [state])) ?_
    rintro item _ (⟨unknown, _⟩ | ⟨started, _⟩)
    · rw [unknown] at terminal
      exact absurd terminal (by decide)
    · rw [started] at terminal
      exact absurd terminal (by decide)
  · have open_ : previous.snapshot.state ∉ terminalOutcomes := by
      rcases live with unknown | started
      · rw [unknown]
        decide
      · rw [started]
        decide
    rw [reducedAfter_live _ open_] at state
    rw [state]
    rcases continuation.grown with ⟨item, supplied, grown⟩ | ⟨unsupplied, same, complete⟩
    · rw [grown] at partitions ⊢
      have only : (∀ other ∈ record.command.evidence,
          ¬ Reclassifies (bundleSubjects record.snapshot.intent) previous.snapshot other) ↔
          ¬ Reclassifies (bundleSubjects record.snapshot.intent) previous.snapshot item := by
        rw [supplied]
        simp
      rw [only]
      rcases live with unknown | started
      · rw [unknown]
        exact registered_append_unknown fits unknown partitions
      · rw [started]
        exact registered_append_started fits started partitions
    · rw [complete]
      refine iff_of_true (registered_terminal live (reducedOutcome_complete _ _ _)) ?_
      rw [unsupplied]
      simp

/-- The first outcome always takes a registered edge out of `SEND_COMMITTED`. -/
theorem Opening.registered (opening : Opening send record) :
    Registered .sendCommitted record.snapshot.state.attempt := by
  rw [opening.state]
  split
  · decide
  · rename_i undivided
    revert undivided
    cases reducedAfter (bundleSubjects send.snapshot.intent) none record.snapshot.evidence <;> decide

theorem OutcomeRun.stateFits (run : OutcomeRun send stream) :
    ∀ record ∈ stream, StateFits record.snapshot :=
  Linked.forall_mem run _ (fun _ opens => opens.opening.stateFits)
    (fun _ _ _ continues => continues.continuation.stateFits)

/-- A run follows the registry exactly when none of its items reclassifies the attempt. -/
theorem outcome_run_registered_iff (run : OutcomeRun send stream) :
    (AttemptState.sendCommitted :: stream.map (·.snapshot.state.attempt)).IsChain Registered ↔
      stream.IsChain (fun previous record => ∀ item ∈ record.command.evidence,
        ¬ Reclassifies (bundleSubjects send.snapshot.intent) previous.snapshot item) := by
  have steps : (stream.map (·.snapshot.state.attempt)).IsChain Registered ↔
      stream.IsChain (fun previous record => ∀ item ∈ record.command.evidence,
        ¬ Reclassifies (bundleSubjects send.snapshot.intent) previous.snapshot item) := by
    rw [List.isChain_map, List.isChain_iff_forall_rel_of_append_cons_cons,
      List.isChain_iff_forall_rel_of_append_cons_cons]
    have step : ∀ previous record front rest, stream = front ++ previous :: record :: rest →
        (Registered previous.snapshot.state.attempt record.snapshot.state.attempt ↔
          ∀ item ∈ record.command.evidence,
            ¬ Reclassifies (bundleSubjects send.snapshot.intent) previous.snapshot item) := by
      intro previous record front rest split
      have continues := List.isChain_iff_forall_rel_of_append_cons_cons.mp run.chain split
      rw [← OutcomeRun.intent run record (by simp [split])]
      exact continues.continuation.registered_iff
        (OutcomeRun.stateFits run previous (by simp [split]))
    constructor
    · intro registered previous record front rest split
      exact (step previous record front rest split).mp (registered split)
    · intro kept previous record front rest split
      exact (step previous record front rest split).mpr (kept split)
  rw [List.isChain_cons, steps]
  refine and_iff_right ?_
  intro state first
  rw [List.head?_map, Option.mem_map] at first
  obtain ⟨record, member, rfl⟩ := first
  exact (run.start record member).opening.registered

end Registry

/-- A silent receipt and then one occurred member of two: `OUTCOME_UNKNOWN` is followed by
`PARTIAL`, which the registry does not allow. -/
theorem unknown_then_partial_unregistered :
    ¬ ∀ (send : DispatchRecordV2) (stream : List DispatchOutcomeRecordV2),
      @OutcomeRun Sha256.hashlib send stream →
        (AttemptState.sendCommitted :: stream.map (·.snapshot.state.attempt)).IsChain
          Registered := by
  let _ := Sha256.hashlib
  intro registered
  obtain ⟨earlier, later, run, evidence, _, inventory⟩ :=
    sample_run ([], []) ([firstMember.subjectId], []) (by decide) (by decide)
  have opening := (run.start earlier rfl).opening
  have unknown : earlier.snapshot.state = .outcomeUnknown := by
    rw [opening.state, evidence]
    decide
  have continuation := (List.isChain_pair.mp run.chain).continuation
  have reached : later.snapshot.state = .partialOutcome := by
    have clear : conflictAfter (some earlier.snapshot) later.snapshot.evidence = false := by
      rw [conflictAfter_some, opening.conflict, evidence, inventory]
      decide
    rw [continuation.state, reducedAfter_live _ (by rw [unknown]; decide), completeAfter, clear,
      inventory, continuation.intent, opening.intent]
    decide
  have chain := registered _ _ run
  rw [List.map_cons, List.map_cons, List.map_nil, unknown, reached] at chain
  exact absurd chain (by decide)

theorem outcome_run_registered_iff_sample :
    ∃ send stream, @OutcomeRun Sha256.hashlib send stream ∧ stream.length = 2 ∧
      (AttemptState.sendCommitted :: stream.map (·.snapshot.state.attempt)).IsChain Registered := by
  obtain ⟨earlier, later, run, evidence, supplied, inventory⟩ :=
    @sample_run Sha256.hashlib ([], []) ([], []) (by decide) (by decide)
  refine ⟨_, _, run, rfl, (@outcome_run_registered_iff Sha256.hashlib _ _ run).mpr ?_⟩
  rw [List.isChain_pair, supplied]
  rintro item ⟨⟩ (⟨_, _, occurs, _⟩ | ⟨_, contradicts⟩)
  · exact occurs rfl
  · rcases contradicts with ⟨member, listed, _⟩ | ⟨member, listed, _⟩ <;> cases listed

end Chiplog.Effects
