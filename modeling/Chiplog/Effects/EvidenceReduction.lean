import Chiplog.Effects.Evidence
import Chiplog.Effects.OutcomeStream

namespace Chiplog.Effects

open Chiplog.Data

/-! What the evidence reducer decides.

Only two outcomes count.  A pair of a child and a member is decided when exactly one of them was
observed, a member is settled when all its pairs are, and it happened when it occurred on some
child.  The tally is a function of these facts, whatever the order of the observations. -/

/-- A member is terminal when it was observed exactly one way. -/
def Decided (observed : Observed) (child member : ExactHead) : Prop :=
  .occurred ∈ observed.of child member ↔ .permanentlyIncapable ∉ observed.of child member

/-- Every child has decided a member. -/
def Settled (observed : Observed) (children : List ExactHead) (member : ExactHead) : Prop :=
  ∀ child ∈ children, Decided observed child member

/-- A member occurred on some child. -/
def Happened (observed : Observed) (children : List ExactHead) (member : ExactHead) : Prop :=
  ∃ child ∈ children, .occurred ∈ observed.of child member

instance (observed : Observed) (child member : ExactHead) :
    Decidable (Decided observed child member) :=
  inferInstanceAs (Decidable (_ ↔ _))

instance (observed : Observed) (children : List ExactHead) (member : ExactHead) :
    Decidable (Settled observed children member) :=
  inferInstanceAs (Decidable (∀ child ∈ children, Decided observed child member))

instance (observed : Observed) (children : List ExactHead) (member : ExactHead) :
    Decidable (Happened observed children member) :=
  inferInstanceAs (Decidable (∃ child ∈ children, _))

section Tally

variable {observed : Observed} {children members : List ExactHead} {member : ExactHead}

/-- One round of the loop, by what is known of the member. -/
theorem tallyMember_settled (settled : Settled observed children member) (tally : Tally) :
    tallyMember children observed tally member =
      if Happened observed children member then { tally with occurred := tally.occurred + 1 }
      else { tally with incapable := tally.incapable + 1 } := by
  have clear : ¬ ∃ states ∈ children.map (fun child => observed.of child member),
      ChildOutcome.occurred ∈ states ∧ .permanentlyIncapable ∈ states := by
    rintro ⟨states, listed, occurs, incapable⟩
    obtain ⟨child, among, rfl⟩ := List.mem_map.mp listed
    exact (settled child among).mp occurs incapable
  have complete : ¬ ∃ states ∈ children.map (fun child => observed.of child member),
      ChildOutcome.occurred ∉ states ∧ ChildOutcome.permanentlyIncapable ∉ states := by
    rintro ⟨states, listed, absent, capable⟩
    obtain ⟨child, among, rfl⟩ := List.mem_map.mp listed
    exact absent ((settled child among).mpr capable)
  have happened : (∃ states ∈ children.map (fun child => observed.of child member),
      ChildOutcome.occurred ∈ states) ↔ Happened observed children member := by
    simp [Happened]
  simp only [tallyMember, if_neg clear, if_neg complete, happened]

theorem tallyMember_unsettled (unsettled : ¬ Settled observed children member) (tally : Tally) :
    (tallyMember children observed tally member).uncertain = true := by
  unfold Settled at unsettled
  push Not at unsettled
  obtain ⟨child, among, undecided⟩ := unsettled
  have listed : observed.of child member ∈
      children.map (fun child => observed.of child member) :=
    List.mem_map_of_mem among
  by_cases occurs : .occurred ∈ observed.of child member
  · have incapable : .permanentlyIncapable ∈ observed.of child member := by
      by_contra missing
      exact undecided (iff_of_true occurs missing)
    have conflict : ∃ states ∈ children.map (fun child => observed.of child member),
        ChildOutcome.occurred ∈ states ∧ .permanentlyIncapable ∈ states :=
      ⟨_, listed, occurs, incapable⟩
    simp only [tallyMember, if_pos conflict]
  · have capable : .permanentlyIncapable ∉ observed.of child member := by
      intro incapable
      exact undecided (iff_of_false occurs (not_not.mpr incapable))
    have missing : ∃ states ∈ children.map (fun child => observed.of child member),
        ChildOutcome.occurred ∉ states ∧ ChildOutcome.permanentlyIncapable ∉ states :=
      ⟨_, listed, occurs, capable⟩
    simp only [tallyMember, if_pos missing]
    split
    · rfl
    · rfl

theorem tallyMember_keeps_uncertain {tally : Tally} (uncertain : tally.uncertain = true)
    (member : ExactHead) : (tallyMember children observed tally member).uncertain = true := by
  unfold tallyMember
  simp only []
  split_ifs <;> simp [uncertain]

theorem foldl_tally_uncertain {tally : Tally} (uncertain : tally.uncertain = true) :
    (members.foldl (tallyMember children observed) tally).uncertain = true := by
  induction members generalizing tally with
  | nil => exact uncertain
  | cons member rest ih => exact ih (tallyMember_keeps_uncertain uncertain member)

/-- One unsettled member makes the whole tally uncertain. -/
theorem foldl_tally_unsettled (inside : member ∈ members)
    (unsettled : ¬ Settled observed children member) (tally : Tally) :
    (members.foldl (tallyMember children observed) tally).uncertain = true := by
  induction members generalizing tally with
  | nil => cases inside
  | cons first rest ih =>
      rw [List.foldl_cons]
      cases List.mem_cons.mp inside with
      | inl same =>
          subst same
          exact foldl_tally_uncertain (tallyMember_unsettled unsettled tally)
      | inr later => exact ih later (tallyMember children observed tally first)

/-- Settled members are counted on one side or the other. -/
theorem foldl_tally_settled (settled : ∀ member ∈ members, Settled observed children member)
    (tally : Tally) :
    members.foldl (tallyMember children observed) tally =
      ⟨tally.occurred + members.countP (Happened observed children ·),
        tally.incapable + members.countP (¬ Happened observed children ·), tally.uncertain⟩ := by
  induction members generalizing tally with
  | nil => simp
  | cons member rest ih =>
      obtain ⟨own, later⟩ := List.forall_mem_cons.mp settled
      rw [List.foldl_cons, ih later, tallyMember_settled own]
      by_cases happened : Happened observed children member
      · simp only [List.countP_cons, happened, decide_true, if_true, not_true_eq_false,
          decide_false, Tally.mk.injEq]
        simp
        omega
      · simp only [List.countP_cons, happened, decide_true, if_false, not_false_eq_true,
          decide_false, Tally.mk.injEq]
        simp
        omega

/-- The tally looks at nothing but the two outcomes that count. -/
theorem tallyMember_congr {other : Observed} {tally : Tally}
    (occurs : ∀ child, .occurred ∈ observed.of child member ↔ .occurred ∈ other.of child member)
    (incapable : ∀ child, .permanentlyIncapable ∈ observed.of child member ↔
      .permanentlyIncapable ∈ other.of child member) :
    tallyMember children observed tally member = tallyMember children other tally member := by
  simp only [tallyMember, List.mem_map, exists_exists_and_eq_and, occurs, incapable]

end Tally

/-- The verdict on settled members. -/
theorem verdict_settled {prior : AttemptState} {members : List ExactHead}
    {happened : ExactHead → Prop} [DecidablePred happened] :
    verdict prior members.length
        ⟨members.countP (happened ·), members.countP (¬ happened ·), false⟩ =
      if ∀ member ∈ members, happened member then .confirmed
      else if ∀ member ∈ members, ¬ happened member then .failedNoEffect
      else if prior ∈ [AttemptState.outcomeUnknown, .partialOutcome] then .partialConfirmed
      else .partialOutcome := by
  have all : members.countP (happened ·) = members.length ↔
      ∀ member ∈ members, happened member := by
    simp [List.countP_eq_length]
  have nothing : members.countP (¬ happened ·) = members.length ↔
      ∀ member ∈ members, ¬ happened member := by
    simp [List.countP_eq_length]
  simp only [verdict, all, nothing, Bool.false_eq_true, if_false]

/-- The reducer's verdict on what was observed. -/
def drawn (prior : AttemptState) (children members : List ExactHead) (observed : Observed) :
    AttemptState :=
  verdict prior members.length (members.foldl (tallyMember children observed) ⟨0, 0, false⟩)

section Drawn

variable {prior : AttemptState} {children members : List ExactHead} {observed : Observed}

theorem drawn_settled (settled : ∀ member ∈ members, Settled observed children member) :
    drawn prior children members observed =
      if ∀ member ∈ members, Happened observed children member then .confirmed
      else if ∀ member ∈ members, ¬ Happened observed children member then .failedNoEffect
      else if prior ∈ [AttemptState.outcomeUnknown, .partialOutcome] then .partialConfirmed
      else .partialOutcome := by
  rw [drawn, foldl_tally_settled settled, Nat.zero_add, Nat.zero_add]
  exact verdict_settled

/-- While a member is open the attempt stays denied. -/
theorem drawn_unsettled (unsettled : ¬ ∀ member ∈ members, Settled observed children member) :
    (prior ∈ [AttemptState.outcomeUnknown, .partialOutcome] →
      drawn prior children members observed = prior) ∧
    (prior ∉ [AttemptState.outcomeUnknown, .partialOutcome] →
      drawn prior children members observed = .outcomeUnknown ∨
        drawn prior children members observed = .partialOutcome) := by
  push Not at unsettled
  obtain ⟨member, inside, open_⟩ := unsettled
  have uncertain := foldl_tally_unsettled inside open_ ⟨0, 0, false⟩
  constructor
  · intro denied
    rw [drawn, verdict, if_pos uncertain, if_pos denied]
  · intro fresh
    rw [drawn, verdict, if_pos uncertain, if_neg fresh]
    split
    · exact .inr rfl
    · exact .inl rfl

theorem drawn_congr {other : Observed}
    (occurs : ∀ child member, .occurred ∈ observed.of child member ↔
      .occurred ∈ other.of child member)
    (incapable : ∀ child member, .permanentlyIncapable ∈ observed.of child member ↔
      .permanentlyIncapable ∈ other.of child member) :
    drawn prior children members observed = drawn prior children members other := by
  have rounds : tallyMember children observed = tallyMember children other := by
    funext tally member
    exact tallyMember_congr (fun child => occurs child member) (fun child => incapable child member)
  rw [drawn, rounds, drawn]

theorem drawn_open (unsettled : ¬ ∀ member ∈ members, Settled observed children member) :
    drawn prior children members observed = .outcomeUnknown ∨
      drawn prior children members observed = .partialOutcome := by
  obtain ⟨denied, fresh⟩ := @drawn_unsettled prior children members observed unsettled
  by_cases waits : prior ∈ [AttemptState.outcomeUnknown, .partialOutcome]
  · rw [denied waits]
    simpa using waits
  · exact fresh waits

theorem drawn_confirmed : drawn prior children members observed = .confirmed ↔
    (∀ member ∈ members, Settled observed children member) ∧
      ∀ member ∈ members, Happened observed children member := by
  by_cases settled : ∀ member ∈ members, Settled observed children member
  · rw [drawn_settled settled]
    by_cases all : ∀ member ∈ members, Happened observed children member
    · rw [if_pos all]
      exact ⟨fun _ => ⟨settled, all⟩, fun _ => rfl⟩
    · rw [if_neg all]
      constructor
      · intro confirmed
        split_ifs at confirmed
      · exact fun both => absurd both.2 all
  · constructor
    · intro confirmed
      rcases @drawn_open prior children members observed settled with same | same
      · rw [same] at confirmed
        cases confirmed
      · rw [same] at confirmed
        cases confirmed
    · exact fun both => absurd both.1 settled

theorem drawn_failed (nonempty : members ≠ []) :
    drawn prior children members observed = .failedNoEffect ↔
      (∀ member ∈ members, Settled observed children member) ∧
        ∀ member ∈ members, ¬ Happened observed children member := by
  by_cases settled : ∀ member ∈ members, Settled observed children member
  · rw [drawn_settled settled]
    by_cases nothing : ∀ member ∈ members, ¬ Happened observed children member
    · have some : ¬ ∀ member ∈ members, Happened observed children member := by
        intro all
        obtain ⟨first, inside⟩ := List.exists_mem_of_ne_nil members nonempty
        exact nothing first inside (all first inside)
      rw [if_neg some, if_pos nothing]
      exact ⟨fun _ => ⟨settled, nothing⟩, fun _ => rfl⟩
    · rw [if_neg nothing]
      constructor
      · intro failed
        split_ifs at failed
      · exact fun both => absurd both.2 nothing
  · constructor
    · intro failed
      rcases @drawn_open prior children members observed settled with same | same
      · rw [same] at failed
        cases failed
      · rw [same] at failed
        cases failed
    · exact fun both => absurd both.1 settled

theorem drawn_partialConfirmed : drawn prior children members observed = .partialConfirmed ↔
    (∀ member ∈ members, Settled observed children member) ∧
      (∃ member ∈ members, Happened observed children member) ∧
      (∃ member ∈ members, ¬ Happened observed children member) ∧
      (prior = .outcomeUnknown ∨ prior = .partialOutcome) := by
  by_cases settled : ∀ member ∈ members, Settled observed children member
  · rw [drawn_settled settled]
    by_cases all : ∀ member ∈ members, Happened observed children member
    · rw [if_pos all]
      constructor
      · intro confirmed
        cases confirmed
      · rintro ⟨_, _, ⟨member, inside, absent⟩, _⟩
        exact absurd (all member inside) absent
    · rw [if_neg all]
      by_cases nothing : ∀ member ∈ members, ¬ Happened observed children member
      · rw [if_pos nothing]
        constructor
        · intro failed
          cases failed
        · rintro ⟨_, ⟨member, inside, happened⟩, _⟩
          exact absurd happened (nothing member inside)
      · rw [if_neg nothing]
        push Not at all nothing
        constructor
        · intro divided
          split_ifs at divided with waits
          exact ⟨settled, nothing, all, by simpa using waits⟩
        · rintro ⟨_, _, _, waits⟩
          rw [if_pos (by simpa using waits)]
  · constructor
    · intro divided
      rcases @drawn_open prior children members observed settled with same | same
      · rw [same] at divided
        cases divided
      · rw [same] at divided
        cases divided
    · exact fun both => absurd both.1 settled

end Drawn

/-! ### Accepted observations -/

/-- An outcome was observed of a pair. -/
def Seen (rows : List ChildMemberEvidence) (child member : ExactHead) (outcome : ChildOutcome) :
    Prop :=
  ∃ row ∈ rows, row.child = child ∧ row.member = member ∧ row.outcome = outcome

instance (rows : List ChildMemberEvidence) (child member : ExactHead) (outcome : ChildOutcome) :
    Decidable (Seen rows child member outcome) :=
  inferInstanceAs (Decidable (∃ row ∈ rows, _))

theorem Seen.mono {rows more : List ChildMemberEvidence} {child member : ExactHead}
    {outcome : ChildOutcome} (seen : Seen rows child member outcome) (subset : rows ⊆ more) :
    Seen more child member outcome := by
  obtain ⟨row, inside, same⟩ := seen
  exact ⟨row, subset inside, same⟩

section Accepted

variable {children members : List ExactHead} {rows : List ChildMemberEvidence}

theorem observed_seen {observed : Observed}
    (accepted : observe children members rows Dict.empty Dict.empty = .ok observed)
    (child member : ExactHead) (outcome : ChildOutcome) :
    outcome ∈ observed.of child member ↔ Seen rows child member outcome := by
  have unseen : Observed.of Dict.empty child member = [] := rfl
  rw [mem_observe accepted, unseen]
  simp [Seen]

/-- The loop accepts known pairs without rival evidence identities, and no others. -/
theorem observe_checks {evidenceIds : Dict Identity ExactHead} {observed result : Observed}
    (accepted : observe children members rows evidenceIds observed = .ok result) :
    Consistent children members rows ∧ ∀ row ∈ rows,
      ∀ head ∈ evidenceIds.get? row.evidence.subjectId, head = row.evidence := by
  induction rows generalizing evidenceIds observed with
  | nil => exact ⟨⟨by simp, by simp⟩, by simp⟩
  | cons row rest ih =>
      simp only [observe, bind_ok, deny_ok, not_or, not_not] at accepted
      obtain ⟨_, known, _, same, accepted⟩ := accepted
      obtain ⟨consistent, retained⟩ := ih accepted
      have own : ∀ head ∈ evidenceIds.get? row.evidence.subjectId, head = row.evidence := by
        intro head stored
        rw [Option.mem_def.mp stored] at same
        exact same
      have later : ∀ other ∈ rest, row.evidence.subjectId = other.evidence.subjectId →
          row.evidence = other.evidence := by
        intro other inside shared
        apply retained other inside
        rw [same, Dict.get?_set, if_pos shared.symm]
        rfl
      refine ⟨⟨?_, ?_⟩, ?_⟩
      · intro other member
        rcases List.mem_cons.mp member with rfl | inside
        · exact known
        · exact consistent.known other inside
      · intro other member third among shared
        rcases List.mem_cons.mp member with rfl | inside
        · rcases List.mem_cons.mp among with rfl | last
          · rfl
          · exact later third last shared
        · rcases List.mem_cons.mp among with rfl | last
          · exact (later other inside shared.symm).symm
          · exact consistent.unrivalled other inside third last shared
      · intro other member head stored
        rcases List.mem_cons.mp member with rfl | inside
        · exact own head stored
        · by_cases shared : other.evidence.subjectId = row.evidence.subjectId
          · rw [shared] at stored
            rw [own head stored]
            exact later other inside shared.symm
          · apply retained other inside
            rw [Dict.get?_set, if_neg shared]
            exact stored

theorem observe_consistent :
    (∃ observed, observe children members rows Dict.empty Dict.empty = .ok observed) ↔
      Consistent children members rows := by
  constructor
  · rintro ⟨observed, accepted⟩
    exact (observe_checks accepted).1
  · intro consistent
    exact observe_total consistent (by simp)

theorem Consistent.congr {others : List ChildMemberEvidence}
    (same : ∀ row, row ∈ rows ↔ row ∈ others) :
    Consistent children members rows ↔ Consistent children members others := by
  constructor
  · intro consistent
    exact ⟨fun row member => consistent.known row ((same row).mpr member),
      fun row member other among =>
        consistent.unrivalled row ((same row).mpr member) other ((same other).mpr among)⟩
  · intro consistent
    exact ⟨fun row member => consistent.known row ((same row).mp member),
      fun row member other among =>
        consistent.unrivalled row ((same row).mp member) other ((same other).mp among)⟩

theorem observe_error {evidenceIds : Dict Identity ExactHead} {observed : Observed}
    {failure : EffectFailure}
    (failed : observe children members rows evidenceIds observed = .error failure) :
    ∃ reason, failure = .violation .conflict reason := by
  induction rows generalizing evidenceIds observed with
  | nil => cases failed
  | cons row rest ih =>
      simp only [observe, bind_error, deny_error] at failed
      rcases failed with ⟨_, rfl⟩ | ⟨_, _, ⟨_, rfl⟩ | ⟨_, _, later⟩⟩
      · exact ⟨_, rfl⟩
      · exact ⟨_, rfl⟩
      · exact ih later

end Accepted

/-! ### The first bad row -/

/-- What the loop has against a row that follows others. -/
def defect (children members : List ExactHead) (before : List ChildMemberEvidence)
    (row : ChildMemberEvidence) : Option String :=
  if row.child ∉ children ∨ row.member ∉ members then
    some "evidence substitutes unknown child or effect member"
  else if ∃ earlier ∈ before, earlier.evidence.subjectId = row.evidence.subjectId ∧
      earlier.evidence ≠ row.evidence then
    some "rival evidence identity"
  else none

section FirstDefect

variable {children members : List ExactHead} {before rows : List ChildMemberEvidence}
  {row : ChildMemberEvidence} {evidenceIds : Dict Identity ExactHead} {observed : Observed}

theorem defect_none : defect children members before row = none ↔
    (row.child ∈ children ∧ row.member ∈ members) ∧
      ∀ earlier ∈ before, earlier.evidence.subjectId = row.evidence.subjectId →
        earlier.evidence = row.evidence := by
  by_cases unknown : row.child ∉ children ∨ row.member ∉ members
  · rw [defect, if_pos unknown]
    simp only [reduceCtorEq, false_iff]
    exact fun ⟨known, _⟩ => unknown.elim (absurd known.1) (absurd known.2)
  · rw [defect, if_neg unknown, ite_eq_right_iff]
    simp only [not_or, not_not] at unknown
    simp [unknown]

theorem Consistent.subset {fewer : List ChildMemberEvidence}
    (consistent : Consistent children members rows) (subset : fewer ⊆ rows) :
    Consistent children members fewer :=
  ⟨fun row inside => consistent.known row (subset inside),
    fun row inside other among => consistent.unrivalled row (subset inside) other (subset among)⟩

/-- A row keeps a list consistent exactly when nothing is held against it. -/
theorem Consistent.snoc : Consistent children members (before ++ [row]) ↔
    Consistent children members before ∧ defect children members before row = none := by
  rw [defect_none]
  constructor
  · rintro ⟨known, unrivalled⟩
    have last : row ∈ before ++ [row] := List.mem_append_right _ List.mem_cons_self
    exact ⟨Consistent.subset ⟨known, unrivalled⟩ (List.subset_append_left _ _), known row last,
      fun other inside => unrivalled other (List.mem_append_left _ inside) row last⟩
  · rintro ⟨⟨known, unrivalled⟩, own, agrees⟩
    refine ⟨?_, ?_⟩
    · intro other inside
      rcases List.mem_append.mp inside with old | new
      · exact known other old
      · rw [List.mem_singleton.mp new]
        exact own
    · intro other inside third among shared
      rcases List.mem_append.mp inside with old | new <;>
        rcases List.mem_append.mp among with oldThird | newThird
      · exact unrivalled other old third oldThird shared
      · rw [List.mem_singleton.mp newThird] at shared ⊢
        exact agrees other old shared
      · rw [List.mem_singleton.mp new] at shared ⊢
        exact (agrees third oldThird shared.symm).symm
      · rw [List.mem_singleton.mp new, List.mem_singleton.mp newThird]

/-- The evidence identities that the loop has noted are those of the rows it has read. -/
def Noted (evidenceIds : Dict Identity ExactHead) (before : List ChildMemberEvidence) : Prop :=
  ∀ identity head, evidenceIds.get? identity = some head ↔
    ∃ earlier ∈ before, earlier.evidence.subjectId = identity ∧ earlier.evidence = head

theorem noted_nil : Noted Dict.empty [] := by
  intro identity head
  simp

theorem Noted.previous (noted : Noted evidenceIds before)
    (consistent : Consistent children members before) :
    (evidenceIds.get? row.evidence.subjectId).getD row.evidence ≠ row.evidence ↔
      ∃ earlier ∈ before, earlier.evidence.subjectId = row.evidence.subjectId ∧
        earlier.evidence ≠ row.evidence := by
  cases found : evidenceIds.get? row.evidence.subjectId with
  | none =>
      simp only [Option.getD_none, ne_eq, not_true_eq_false, false_iff]
      rintro ⟨earlier, inside, shared, _⟩
      have kept := (noted _ _).mpr ⟨earlier, inside, shared, rfl⟩
      rw [found] at kept
      cases kept
  | some head =>
      obtain ⟨first, inside, shared, rfl⟩ := (noted _ _).mp found
      simp only [Option.getD_some]
      constructor
      · exact fun differs => ⟨first, inside, shared, differs⟩
      · rintro ⟨earlier, among, same, differs⟩
        rw [consistent.unrivalled first inside earlier among (shared.trans same.symm)]
        exact differs

theorem Noted.snoc (noted : Noted evidenceIds before)
    (clear : defect children members before row = none) :
    Noted (evidenceIds.set row.evidence.subjectId row.evidence) (before ++ [row]) := by
  intro identity head
  rw [Dict.get?_set]
  simp only [List.mem_append, List.mem_singleton, or_and_right, exists_or, exists_eq_left,
    ← noted identity head]
  by_cases own : identity = row.evidence.subjectId
  · rw [if_pos own]
    subst own
    constructor
    · intro same
      exact .inr ⟨rfl, Option.some.inj same⟩
    · rintro (kept | ⟨_, rfl⟩)
      · obtain ⟨earlier, inside, shared, rfl⟩ := (noted _ _).mp kept
        rw [(defect_none.mp clear).2 earlier inside shared]
      · rfl
  · rw [if_neg own]
    exact ⟨.inl, fun found => found.resolve_right (fun last => own last.1.symm)⟩

/-- The loop stops at a bad row with the text of its defect, and goes on after any other. -/
theorem observe_cons (noted : Noted evidenceIds before)
    (consistent : Consistent children members before) :
    observe children members (row :: rows) evidenceIds observed =
      match defect children members before row with
      | some reason => .error (.violation .conflict reason)
      | none => observe children members rows
          (evidenceIds.set row.evidence.subjectId row.evidence)
          (observed.set (row.child, row.member)
            ((observed.of row.child row.member).insert row.outcome)) := by
  have rival := @Noted.previous _ _ _ row _ noted consistent
  by_cases unknown : row.child ∉ children ∨ row.member ∉ members
  · rw [defect, if_pos unknown, observe, deny, raiseIf_pos unknown]
    rfl
  · rw [defect, if_neg unknown, observe, deny_neg unknown]
    by_cases rivals : ∃ earlier ∈ before,
        earlier.evidence.subjectId = row.evidence.subjectId ∧ earlier.evidence ≠ row.evidence
    · rw [if_pos rivals]
      simp only [ok_bind, deny, raiseIf_pos (rival.mpr rivals)]
      rfl
    · have own := not_not.mp (mt rival.mp rivals)
      rw [if_neg rivals]
      simp only [ok_bind, own, ne_eq, not_true_eq_false, not_false_eq_true, deny_neg]

/-- A rejection names the first bad row. -/
theorem observe_error_iff {failure : EffectFailure} (noted : Noted evidenceIds before)
    (consistent : Consistent children members before) :
    observe children members rows evidenceIds observed = .error failure ↔
      ∃ front row back reason, rows = front ++ row :: back ∧
        Consistent children members (before ++ front) ∧
        defect children members (before ++ front) row = some reason ∧
        failure = .violation .conflict reason := by
  induction rows generalizing before evidenceIds observed with
  | nil =>
      constructor
      · intro failed
        cases failed
      · rintro ⟨front, row, back, _, impossible, _⟩
        simp at impossible
  | cons row rest ih =>
      rw [observe_cons noted consistent]
      cases found : defect children members before row with
      | some reason =>
          constructor
          · intro failed
            exact ⟨[], row, rest, reason, rfl, by simpa using consistent, by simpa using found,
              (Except.error.inj failed).symm⟩
          · rintro ⟨front, other, back, text, split, kept, bad, rfl⟩
            cases front with
            | nil =>
                obtain ⟨rfl, rfl⟩ := List.cons.inj split
                rw [List.append_nil, found] at bad
                rw [Option.some.inj bad]
            | cons first front =>
                -- A bad row in front would leave nothing consistent behind it.
                obtain ⟨rfl, _⟩ := List.cons.inj split
                have own : Consistent children members (before ++ [row]) :=
                  kept.subset (fun item inside => by grind)
                rw [(Consistent.snoc.mp own).2] at found
                cases found
      | none =>
          have grown := Consistent.snoc.mpr ⟨consistent, found⟩
          simp only []
          rw [ih (noted.snoc found) grown]
          constructor
          · rintro ⟨front, other, back, reason, rfl, kept, bad, same⟩
            rw [List.append_assoc] at kept bad
            exact ⟨row :: front, other, back, reason, rfl, kept, bad, same⟩
          · rintro ⟨front, other, back, reason, split, kept, bad, same⟩
            cases front with
            | nil =>
                obtain ⟨rfl, rfl⟩ := List.cons.inj split
                rw [List.append_nil, found] at bad
                cases bad
            | cons first front =>
                obtain ⟨rfl, rfl⟩ := List.cons.inj split
                refine ⟨front, other, back, reason, rfl, ?_, ?_, same⟩
                · rwa [List.append_assoc]
                · rwa [List.append_assoc]

end FirstDefect

/-! ### The reducer -/

/-- The manifest of one attempt: its retained children and its inseparable members. -/
structure CompleteManifest (children : List TransmissionAttempt) (members : List ExactHead) :
    Prop where
  sent : children ≠ []
  nonempty : members ≠ []
  childrenDistinct : (children.map (·.transmission)).Nodup
  membersDistinct : members.Nodup
  ordinals : children.map (·.ordinal.toNat) = List.range children.length
  targets : ∀ first ∈ children.head?, ∀ child ∈ children, SameTarget child first

section Reducer

variable {prior result : AttemptState} {children : List TransmissionAttempt}
  {members : List ExactHead} {rows others : List ChildMemberEvidence}

theorem reduceChildEvidence_ok :
    reduceChildEvidence prior children members rows = .ok result ↔
      prior ∈ crossedStates ∧ CompleteManifest children members ∧
        ∃ observed, observe (children.map (·.transmission)) members rows Dict.empty Dict.empty =
          .ok observed ∧ drawn prior (children.map (·.transmission)) members observed = result := by
  constructor
  · intro accepted
    simp only [reduceChildEvidence, bind_ok, deny_ok, pure_ok, not_or, not_not] at accepted
    obtain ⟨_, crossed, _, ⟨sent, nonempty⟩, _, ⟨childrenDistinct, membersDistinct⟩, _, ordinals, _,
      targets, observed, observes, verdicts⟩ := accepted
    push Not at targets
    exact ⟨crossed, ⟨sent, nonempty, childrenDistinct, membersDistinct, ordinals, targets⟩,
      observed, observes, verdicts⟩
  · rintro ⟨crossed, manifest, observed, observes, rfl⟩
    exact reduceChildEvidence_eq crossed manifest.sent manifest.nonempty manifest.childrenDistinct
      manifest.membersDistinct manifest.ordinals manifest.targets observes

/-- An observation that says of a pair how it ended. -/
def Decisive (row : ChildMemberEvidence) : Prop :=
  row.outcome = .occurred ∨ row.outcome = .permanentlyIncapable

instance (row : ChildMemberEvidence) : Decidable (Decisive row) :=
  inferInstanceAs (Decidable (_ ∨ _))

/-- A pair of which exactly one ending was observed. -/
def DecidedPair (rows : List ChildMemberEvidence) (child member : ExactHead) : Prop :=
  Seen rows child member .occurred ↔ ¬ Seen rows child member .permanentlyIncapable

instance (rows : List ChildMemberEvidence) (child member : ExactHead) :
    Decidable (DecidedPair rows child member) :=
  inferInstanceAs (Decidable (_ ↔ _))

section Observed

variable {observed : Observed}
  (observes : observe (children.map (·.transmission)) members rows Dict.empty Dict.empty =
    .ok observed)

include observes

theorem settled_all_iff :
    (∀ member ∈ members, Settled observed (children.map (·.transmission)) member) ↔
      ∀ child ∈ children, ∀ member ∈ members, DecidedPair rows child.transmission member := by
  simp only [Settled, Decided, List.forall_mem_map, observed_seen observes, DecidedPair]
  exact ⟨fun all child among member inside => all member inside child among,
    fun all member inside child among => all child among member inside⟩

theorem happened_iff (member : ExactHead) :
    Happened observed (children.map (·.transmission)) member ↔
      ∃ child ∈ children, Seen rows child.transmission member .occurred := by
  simp [Happened, observed_seen observes]

end Observed

/-- Observations of other outcomes change nothing. -/
theorem reduceChildEvidence_decisive {observed : Observed} (crossed : prior ∈ crossedStates)
    (manifest : CompleteManifest children members)
    (observes : observe (children.map (·.transmission)) members rows Dict.empty Dict.empty =
      .ok observed) :
    reduceChildEvidence prior children members (rows.filter (Decisive ·)) =
      .ok (drawn prior (children.map (·.transmission)) members observed) := by
  have consistent := (observe_checks observes).1
  have kept : Consistent (children.map (·.transmission)) members (rows.filter (Decisive ·)) :=
    ⟨fun row member => consistent.known row (List.mem_of_mem_filter member),
      fun row member other among => consistent.unrivalled row (List.mem_of_mem_filter member)
        other (List.mem_of_mem_filter among)⟩
  obtain ⟨decisive, observesDecisive⟩ := observe_consistent.mpr kept
  have same : ∀ child member outcome, (outcome = .occurred ∨ outcome = .permanentlyIncapable) →
      (outcome ∈ decisive.of child member ↔ outcome ∈ observed.of child member) := by
    intro child member outcome counts
    rw [observed_seen observesDecisive, observed_seen observes]
    constructor
    · exact fun seen => seen.mono (List.filter_subset_self _)
    · rintro ⟨row, inside, rfl, rfl, rfl⟩
      exact ⟨row, List.mem_filter.mpr ⟨inside, decide_eq_true counts⟩, rfl, rfl, rfl⟩
  refine reduceChildEvidence_ok.mpr ⟨crossed, manifest, decisive, observesDecisive, ?_⟩
  exact drawn_congr (fun child member => same child member _ (.inl rfl))
    (fun child member => same child member _ (.inr rfl))

/-- The evidence reducer decides what its observations decide, and nothing else. -/
theorem evidence_reduction (crossed : prior ∈ crossedStates)
    (manifest : CompleteManifest children members)
    (consistent : Consistent (children.map (·.transmission)) members rows) :
    ∃ result, reduceChildEvidence prior children members rows = .ok result ∧
      (result = .confirmed ↔
        (∀ child ∈ children, ∀ member ∈ members, DecidedPair rows child.transmission member) ∧
          ∀ member ∈ members, ∃ child ∈ children, Seen rows child.transmission member .occurred) ∧
      (result = .failedNoEffect ↔ ∀ child ∈ children, ∀ member ∈ members,
        Seen rows child.transmission member .permanentlyIncapable ∧
          ¬ Seen rows child.transmission member .occurred) ∧
      (result = .partialConfirmed ↔
        (∀ child ∈ children, ∀ member ∈ members, DecidedPair rows child.transmission member) ∧
          (∃ member ∈ members, ∃ child ∈ children,
            Seen rows child.transmission member .occurred) ∧
          (∃ member ∈ members, ∀ child ∈ children,
            ¬ Seen rows child.transmission member .occurred) ∧
          (prior = .outcomeUnknown ∨ prior = .partialOutcome)) ∧
      (result ∉ [AttemptState.confirmed, .failedNoEffect, .partialConfirmed] →
        if prior = .outcomeUnknown ∨ prior = .partialOutcome then result = prior
        else result = .outcomeUnknown ∨ result = .partialOutcome) ∧
      reduceChildEvidence prior children members (rows.filter (Decisive ·)) = .ok result ∧
      (result = prior ∨ result ∈ transitions prior) := by
  obtain ⟨observed, observes⟩ := observe_consistent.mpr consistent
  have settled := settled_all_iff observes
  have happened := happened_iff observes
  refine ⟨_, reduceChildEvidence_ok.mpr ⟨crossed, manifest, observed, observes, rfl⟩, ?_, ?_, ?_,
    ?_, reduceChildEvidence_decisive crossed manifest observes, verdict_registered crossed _ _⟩
  · rw [← settled]
    simp only [← happened]
    exact drawn_confirmed
  · rw [drawn_failed manifest.nonempty, settled]
    simp only [happened, not_exists, not_and]
    constructor
    · rintro ⟨decided, nothing⟩ child among member inside
      have absent := nothing member inside child among
      exact ⟨not_not.mp (fun missing => absent ((decided child among member inside).mpr missing)),
        absent⟩
    · intro failed
      refine ⟨fun child among member inside => ?_, fun member inside child among =>
        (failed child among member inside).2⟩
      obtain ⟨incapable, absent⟩ := failed child among member inside
      exact iff_of_false absent (not_not.mpr incapable)
  · rw [drawn_partialConfirmed, settled]
    simp only [happened, not_exists, not_and]
  · intro open_
    simp only [List.mem_cons, List.not_mem_nil, or_false, not_or] at open_
    obtain ⟨unconfirmed, unfailed, undivided⟩ := open_
    by_cases all : ∀ member ∈ members, Settled observed (children.map (·.transmission)) member
    · rw [drawn_settled all] at unconfirmed unfailed undivided ⊢
      split_ifs at unconfirmed unfailed undivided ⊢ <;> simp_all
    · obtain ⟨denied, fresh⟩ := @drawn_unsettled prior _ members observed all
      split_ifs with waits
      · exact denied (by simpa using waits)
      · exact fresh (by simpa using waits)

/-- The second transmission of an attempt. -/
def repeatedChild : TransmissionAttempt :=
  { sampleChild with transmission := firstMember, ordinal := 1 }

/-- Both members happened on the first child and are impossible on the second. -/
def decidedRows : List ChildMemberEvidence :=
  [⟨firstMember, sampleHead, firstMember, .occurred⟩,
    ⟨firstMember, sampleHead, secondMember, .occurred⟩,
    ⟨secondMember, firstMember, firstMember, .permanentlyIncapable⟩,
    ⟨secondMember, firstMember, secondMember, .permanentlyIncapable⟩]

theorem sample_manifest :
    CompleteManifest [sampleChild, repeatedChild] [firstMember, secondMember] := by
  refine ⟨by decide, by decide, by decide, by decide, by decide, ?_⟩
  intro first head child member
  obtain rfl : sampleChild = first := Option.some.inj head
  rcases List.mem_cons.mp member with rfl | last
  · exact ⟨rfl, rfl, rfl, rfl, rfl⟩
  · obtain rfl := List.mem_singleton.mp last
    exact ⟨rfl, rfl, rfl, rfl, rfl⟩

theorem evidence_reduction_sample :
    reduceChildEvidence .sent [sampleChild, repeatedChild] [firstMember, secondMember] decidedRows =
      .ok .confirmed := by
  have consistent : Consistent ([sampleChild, repeatedChild].map (·.transmission))
      [firstMember, secondMember] decidedRows := ⟨by decide, by decide⟩
  obtain ⟨result, returned, confirmed, _⟩ :=
    @evidence_reduction .sent _ _ _ (by decide) sample_manifest consistent
  rw [returned, confirmed.mpr ⟨by decide, by decide⟩]

/-- Two reductions with one result, or with one rejection up to its text. -/
def SameVerdict (first second : Checked AttemptState) : Prop :=
  first = second ∨ ∃ reason other, first = .error (.violation .conflict reason) ∧
    second = .error (.violation .conflict other)

/-- What a reduction returns depends on the set of its observations. -/
theorem reduceChildEvidence_set (same : ∀ row, row ∈ rows ↔ row ∈ others)
    (accepted : reduceChildEvidence prior children members rows = .ok result) :
    reduceChildEvidence prior children members others = .ok result := by
  obtain ⟨crossed, manifest, observed, observes, rfl⟩ := reduceChildEvidence_ok.mp accepted
  obtain ⟨again, observesAgain⟩ := observe_consistent.mpr
    ((Consistent.congr same).mp (observe_checks observes).1)
  have seen : ∀ child member outcome,
      outcome ∈ again.of child member ↔ outcome ∈ observed.of child member := by
    intro child member outcome
    rw [observed_seen observesAgain, observed_seen observes]
    constructor
    · exact fun found => found.mono (fun row inside => (same row).mpr inside)
    · exact fun found => found.mono (fun row inside => (same row).mp inside)
  exact reduceChildEvidence_ok.mpr ⟨crossed, manifest, again, observesAgain,
    drawn_congr (fun child member => seen child member _) (fun child member => seen child member _)⟩

/-- A rejection is about the manifest, or a conflict that the observations raise. -/
theorem reduceChildEvidence_error {failure : EffectFailure}
    (failed : reduceChildEvidence prior children members rows = .error failure) :
    reduceChildEvidence prior children members others = .error failure ∨
      ∃ reason, failure = .violation .conflict reason := by
  simp only [reduceChildEvidence, bind_error] at failed
  rcases failed with failed | ⟨_, crossed, failed | ⟨_, sent, failed | ⟨_, distinct, failed |
    ⟨_, ordinals, failed | ⟨_, targets, failed | ⟨_, _, impossible⟩⟩⟩⟩⟩⟩
  · left
    simp only [reduceChildEvidence, failed]
    rfl
  · left
    simp only [reduceChildEvidence, crossed, failed, ok_bind]
    rfl
  · left
    simp only [reduceChildEvidence, crossed, sent, failed, ok_bind]
    rfl
  · left
    simp only [reduceChildEvidence, crossed, sent, distinct, failed, ok_bind]
    rfl
  · left
    simp only [reduceChildEvidence, crossed, sent, distinct, ordinals, failed, ok_bind]
    rfl
  · exact .inr (observe_error failed)
  · cases impossible

/-- Of a complete manifest, a rejection is that of the first row with a defect. -/
theorem reduceChildEvidence_error_iff {failure : EffectFailure} (crossed : prior ∈ crossedStates)
    (manifest : CompleteManifest children members) :
    reduceChildEvidence prior children members rows = .error failure ↔
      ∃ front row back reason, rows = front ++ row :: back ∧
        Consistent (children.map (·.transmission)) members front ∧
        defect (children.map (·.transmission)) members front row = some reason ∧
        failure = .violation .conflict reason := by
  have noRows : Consistent (children.map (·.transmission)) members [] := ⟨by simp, by simp⟩
  have loop := @observe_error_iff _ _ _ rows _ Dict.empty failure noted_nil noRows
  simp only [List.nil_append] at loop
  rw [← loop]
  cases observes : observe (children.map (·.transmission)) members rows Dict.empty Dict.empty with
  | ok observed =>
      rw [reduceChildEvidence_ok.mpr ⟨crossed, manifest, observed, observes, rfl⟩]
      simp
  | error other =>
      obtain ⟨sent, nonempty, childrenDistinct, membersDistinct, ordinals, targets⟩ := manifest
      have sameTarget : ¬ ∃ first ∈ children.head?, ∃ child ∈ children, ¬ SameTarget child first := by
        rintro ⟨first, head, child, member, differs⟩
        exact differs (targets first head child member)
      simp only [reduceChildEvidence, deny_neg (not_not.mpr crossed),
        deny_neg (not_or.mpr ⟨sent, nonempty⟩), deny_neg (not_not.mpr ordinals),
        deny_neg (not_or.mpr ⟨not_not.mpr childrenDistinct, not_not.mpr membersDistinct⟩),
        deny_neg sameTarget, observes, ok_bind]
      constructor
      · intro failed
        rw [Except.error.inj failed]
      · intro failed
        rw [Except.error.inj failed]
        rfl

/-- The order and the number of times an observation arrives change neither the result nor whether
it is rejected; the text of a conflict names the defect that comes first. -/
theorem reduceChildEvidence_order (same : ∀ row, row ∈ rows ↔ row ∈ others) :
    SameVerdict (reduceChildEvidence prior children members rows)
      (reduceChildEvidence prior children members others) := by
  cases first : reduceChildEvidence prior children members rows with
  | ok result => exact .inl (reduceChildEvidence_set same first).symm
  | error failure =>
      cases second : reduceChildEvidence prior children members others with
      | ok result =>
          rw [reduceChildEvidence_set (fun row => (same row).symm) second] at first
          cases first
      | error other =>
          rcases @reduceChildEvidence_error _ _ _ _ others _ first with again | ⟨reason, rfl⟩
          · rw [second] at again
            exact .inl again.symm
          · rcases @reduceChildEvidence_error _ _ _ _ rows _ second with again | ⟨text, rfl⟩
            · rw [first] at again
              exact .inl again
            · exact .inr ⟨reason, text, rfl, rfl⟩

/-- A row of an unknown child, and two rival rows of one evidence identity. -/
def strayRow : ChildMemberEvidence := ⟨firstMember, secondMember, firstMember, .occurred⟩

def ownRow : ChildMemberEvidence := ⟨sampleHead, sampleHead, firstMember, .occurred⟩

def rivalRow : ChildMemberEvidence :=
  ⟨{ sampleHead with head := ⟨"rival", by decide⟩ }, sampleHead, firstMember, .occurred⟩

/-- The text of a rejection is that of the first defect, so it does depend on the order. -/
theorem rejection_text_ordered :
    ¬ ∀ prior children members (rows others : List ChildMemberEvidence), rows.Perm others →
      reduceChildEvidence prior children members rows =
        reduceChildEvidence prior children members others := by
  intro same
  have stray : reduceChildEvidence .outcomeUnknown [sampleChild] [firstMember]
      [strayRow, ownRow, rivalRow] = .error (.violation .conflict
        "evidence substitutes unknown child or effect member") := rfl
  have rival : reduceChildEvidence .outcomeUnknown [sampleChild] [firstMember]
      [ownRow, rivalRow, strayRow] = .error (.violation .conflict "rival evidence identity") := rfl
  have equal := same .outcomeUnknown [sampleChild] [firstMember] [strayRow, ownRow, rivalRow]
    [ownRow, rivalRow, strayRow] (by decide)
  rw [stray, rival] at equal
  exact absurd equal (by decide)

/-- A settled member stays settled the same way, or turns into a conflict. -/
theorem happened_final {observed grown : Observed} {refs : List ExactHead} {member : ExactHead}
    (settled : Settled observed refs member) (settledGrown : Settled grown refs member)
    (grows : ∀ child outcome, outcome ∈ observed.of child member → outcome ∈ grown.of child member) :
    Happened grown refs member ↔ Happened observed refs member := by
  constructor
  · rintro ⟨child, among, occurs⟩
    refine ⟨child, among, ?_⟩
    by_contra absent
    have incapable : .permanentlyIncapable ∈ observed.of child member :=
      not_not.mp (fun missing => absent ((settled child among).mpr missing))
    exact (settledGrown child among).mp occurs (grows child _ incapable)
  · rintro ⟨child, among, occurs⟩
    exact ⟨child, among, grows child _ occurs⟩

/-- From `OUTCOME_UNKNOWN`, further observations confirm a terminal verdict or withdraw it; they
never put another one in its place. -/
theorem reduceChildEvidence_stable {later : AttemptState} (subset : rows ⊆ others)
    (accepted : reduceChildEvidence .outcomeUnknown children members rows = .ok result)
    (terminal : result ∈ terminalStates)
    (grown : reduceChildEvidence .outcomeUnknown children members others = .ok later) :
    later = result ∨ later = .outcomeUnknown := by
  obtain ⟨_, _, observed, observes, rfl⟩ := reduceChildEvidence_ok.mp accepted
  obtain ⟨_, _, again, observesAgain, rfl⟩ := reduceChildEvidence_ok.mp grown
  have waits : AttemptState.outcomeUnknown ∈ [AttemptState.outcomeUnknown, .partialOutcome] := by
    decide
  by_cases settled : ∀ member ∈ members, Settled observed (children.map (·.transmission)) member
  · by_cases settledAgain : ∀ member ∈ members,
        Settled again (children.map (·.transmission)) member
    · left
      have happened : ∀ member ∈ members,
          (Happened again (children.map (·.transmission)) member ↔
            Happened observed (children.map (·.transmission)) member) := by
        intro member inside
        apply happened_final (settled member inside) (settledAgain member inside)
        intro child outcome found
        rw [observed_seen observes] at found
        exact (observed_seen observesAgain child member outcome).mpr (found.mono subset)
      have all := forall₂_congr happened
      have nothing := forall₂_congr (fun member inside => not_congr (happened member inside))
      rw [drawn_settled settled, drawn_settled settledAgain]
      simp only [all, nothing]
    · exact .inr ((drawn_unsettled settledAgain).1 waits)
  · rw [(drawn_unsettled settled).1 waits] at terminal
    exact absurd terminal (by decide)

end Reducer

end Chiplog.Effects
