import Chiplog.AgentLoop.SchedulerDomain
import Chiplog.Data.TaggedReading

namespace Chiplog.AgentLoop

open Chiplog.Data Chiplog.Effects

/-! What an accepted manifest lists.

An accepted manifest lists the recognized occurrences of its window in the order of their
instants, and it is the manifest of its own members. -/

instance : Json.Legible DueCoordinate where
  read := by
    intro first second same
    have values := Json.sorted_obj_inj ["coordinate_policy_version", "canonical_coordinate"]
      rfl rfl (by decide) same
    cases first
    cases second
    simp only [modelDump, List.map_cons, List.cons.injEq, Json.sorted_eq] at values
    rw [DueCoordinate.mk.injEq]
    simp [values]

instance : Json.Legible UndisposedOccurrence where
  read := by
    intro first second same
    have values := Json.sorted_obj_inj ["occurrence_id", "schedule_id", "schedule_revision",
      "due_coordinate", "undisposed_head", "undisposed_fingerprint"] rfl rfl (by decide) same
    cases first
    cases second
    simp only [modelDump, List.map_cons, List.cons.injEq, Json.sorted_eq] at values
    rw [UndisposedOccurrence.mk.injEq]
    simp [values]

instance : Json.Legible SchedulerEligibilityManifest where
  read := by
    intro first second same
    have values := Json.sorted_obj_inj ["members", "fingerprint"] rfl rfl (by decide) same
    cases first
    cases second
    simp only [modelDump, List.map_cons, List.cons.injEq, Json.sorted_eq] at values
    rw [SchedulerEligibilityManifest.mk.injEq]
    simp [values]

theorem recoveryBytes_read {α : Type} [Model α] [Json.Legible α] {first second : α}
    (same : recoveryBytes first = recoveryBytes second) : first = second :=
  Json.read first second (Json.tagged_inj same)

section Eligibility

variable [Hashlib] {source : List UndisposedOccurrence} {schedule : ScheduleDefinitionHead}
  {manifest : SchedulerEligibilityManifest}

/-- An occurrence with its instant, as the schedule names it. -/
structure Recognized (schedule : ScheduleDefinitionHead) (entry : Nat × UndisposedOccurrence) :
    Prop where
  due : entry.2.dueCoordinate = coordinate entry.1
  named : undisposedOccurrence schedule entry.2.dueCoordinate entry.2.undisposedHead =
    .ok entry.2

def InWindow (start cutoff : Nat) (entry : Nat × UndisposedOccurrence) : Bool :=
  start ≤ entry.1 ∧ entry.1 < cutoff

def Eligibility.extend (start cutoff : Nat) (seen : Eligibility)
    (entries : List (Nat × UndisposedOccurrence)) : Eligibility :=
  { identities := seen.identities ++ entries.map (·.2.occurrenceId)
    coordinates := seen.coordinates ++ entries.map Prod.fst
    eligible := seen.eligible ++ entries.filter (InWindow start cutoff) }

theorem eligibleMember_ok {start cutoff : Nat}
    {seen next : Eligibility} {member : UndisposedOccurrence} :
    eligibleMember schedule start cutoff seen member = .ok next ↔
      ∃ due, Recognized schedule (due, member) ∧ member.occurrenceId ∉ seen.identities ∧
        due ∉ seen.coordinates ∧ next = seen.extend start cutoff [(due, member)] := by
  have window (due : Nat) :
      (if start ≤ due ∧ due < cutoff then seen.eligible ++ [(due, member)] else seen.eligible) =
        seen.eligible ++ [(due, member)].filter (InWindow start cutoff) := by
    by_cases inside : start ≤ due ∧ due < cutoff
    · simp [InWindow, inside]
    · have outside : InWindow start cutoff (due, member) = false := by simpa [InWindow] using inside
      rw [if_neg inside, List.filter_cons_of_neg (by simp [outside])]
      simp
  simp only [eligibleMember, bind_ok, raiseIf_ok, not_not, not_or, pure_ok]
  constructor
  · rintro ⟨expected, named, _, same, due, valued, _, fresh, added⟩
    have at_due := coordinateValue_ok.mp valued
    refine ⟨due, ⟨at_due, ?_⟩, fresh.1, fresh.2, ?_⟩
    · rw [named, ← same]
    · rw [← added, window]
      rfl
  · rintro ⟨due, recognized, identity, instant, added⟩
    refine ⟨member, recognized.named, (), rfl, due, coordinateValue_ok.mpr recognized.due, (),
      ⟨identity, instant⟩, ?_⟩
    rw [added, window]
    rfl

/-- Recognized occurrences that share neither an identity nor an instant. -/
structure Listed (schedule : ScheduleDefinitionHead) (entries : List (Nat × UndisposedOccurrence)) :
    Prop where
  recognized : ∀ entry ∈ entries, Recognized schedule entry
  identities : (entries.map (·.2.occurrenceId)).Nodup
  coordinates : (entries.map Prod.fst).Nodup

theorem Listed.perm
    {entries others : List (Nat × UndisposedOccurrence)} (listed : Listed schedule entries)
    (permuted : others.Perm entries) : Listed schedule others where
  recognized := fun entry member => listed.recognized entry (permuted.subset member)
  identities := ((permuted.map _).nodup_iff).mpr listed.identities
  coordinates := ((permuted.map _).nodup_iff).mpr listed.coordinates

theorem Listed.filter
    {entries : List (Nat × UndisposedOccurrence)} (listed : Listed schedule entries)
    (keep : Nat × UndisposedOccurrence → Bool) : Listed schedule (entries.filter keep) where
  recognized := fun entry member => listed.recognized entry (List.mem_of_mem_filter member)
  identities := listed.identities.sublist (List.filter_sublist.map _)
  coordinates := listed.coordinates.sublist (List.filter_sublist.map _)

theorem eligibleMembers_ok {start cutoff : Nat} {seen next : Eligibility} :
    source.foldlM (eligibleMember schedule start cutoff) seen = .ok next ↔
      ∃ entries, entries.map Prod.snd = source ∧ Listed schedule entries ∧
        (∀ entry ∈ entries, entry.2.occurrenceId ∉ seen.identities ∧
          entry.1 ∉ seen.coordinates) ∧
        next = seen.extend start cutoff entries := by
  induction source generalizing seen with
  | nil =>
      rw [List.foldlM_nil, pure_ok]
      constructor
      · intro same
        refine ⟨[], rfl, ⟨nofun, .nil, .nil⟩, nofun, ?_⟩
        simp [Eligibility.extend, ← same]
      · intro ⟨entries, empty, _, _, added⟩
        rw [List.map_eq_nil_iff] at empty
        simp [added, empty, Eligibility.extend]
  | cons member rest ih =>
      rw [List.foldlM_cons]
      simp only [bind_ok, eligibleMember_ok, ih]
      constructor
      · intro ⟨_, ⟨due, recognized, identity, instant, admitted⟩, entries, others, listed, fresh,
          added⟩
        rw [admitted] at fresh added
        have apart (entry) (inside : entry ∈ entries) :
            entry.2.occurrenceId ≠ member.occurrenceId ∧ entry.1 ≠ due := by
          have unseen := fresh entry inside
          simp only [Eligibility.extend, List.map_cons, List.map_nil, List.mem_append,
            List.mem_singleton, not_or] at unseen
          exact ⟨unseen.1.2, unseen.2.2⟩
        refine ⟨(due, member) :: entries, ?_, ⟨?_, ?_, ?_⟩, ?_, ?_⟩
        · rw [List.map_cons, others]
        · exact List.forall_mem_cons.mpr ⟨recognized, listed.recognized⟩
        · refine List.nodup_cons.mpr ⟨?_, listed.identities⟩
          intro known
          obtain ⟨entry, inside, same⟩ := List.mem_map.mp known
          exact (apart entry inside).1 same
        · refine List.nodup_cons.mpr ⟨?_, listed.coordinates⟩
          intro known
          obtain ⟨entry, inside, same⟩ := List.mem_map.mp known
          exact (apart entry inside).2 same
        · refine List.forall_mem_cons.mpr ⟨⟨identity, instant⟩, ?_⟩
          intro entry inside
          have unseen := fresh entry inside
          simp only [Eligibility.extend, List.mem_append, not_or] at unseen
          exact ⟨unseen.1.1, unseen.2.1⟩
        · rw [added]
          simp [Eligibility.extend, List.filter_cons]
          split <;> simp
      · intro ⟨entries, others, listed, fresh, added⟩
        cases entries with
        | nil => cases others
        | cons entry entries =>
            obtain ⟨due, occurrence⟩ := entry
            obtain ⟨head, tail⟩ := List.cons.inj others
            dsimp only at head
            subst head
            have unseen := fresh (due, occurrence) List.mem_cons_self
            refine ⟨_, ⟨due, listed.recognized _ List.mem_cons_self, unseen.1, unseen.2, rfl⟩,
              entries, tail, ⟨fun entry inside => listed.recognized entry (.tail _ inside),
                (List.nodup_cons.mp listed.identities).2,
                (List.nodup_cons.mp listed.coordinates).2⟩, ?_, ?_⟩
            · intro entry inside
              have others := fresh entry (.tail _ inside)
              have identity := (List.nodup_cons.mp listed.identities).1
              have instant := (List.nodup_cons.mp listed.coordinates).1
              simp only [Eligibility.extend, List.map_cons, List.map_nil, List.mem_append,
                List.mem_singleton, not_or]
              refine ⟨⟨others.1, ?_⟩, others.2, ?_⟩
              · intro same
                exact identity (List.mem_map.mpr ⟨entry, inside, same⟩)
              · intro same
                exact instant (List.mem_map.mpr ⟨entry, inside, same⟩)
            · rw [added]
              simp [Eligibility.extend, List.filter_cons]
              split <;> simp

/-- The manifest of a window: its recognized occurrences by instant. -/
structure Eligible (boundary : SchedulerEligibilityBoundary) (start cutoff : Nat)
    (source : List UndisposedOccurrence) (entries : List (Nat × UndisposedOccurrence)) : Prop where
  version : boundary.canonicalizationVersion.text = canonicalVersion
  previous : boundary.previousDueBoundary = coordinate start
  limit : boundary.cutoffDueCoordinate = coordinate cutoff
  forward : start ≤ cutoff
  source : entries.map Prod.snd = source
  listed : Listed boundary.scheduleDefinitionHead entries

theorem eligibleManifest_ok {boundary : SchedulerEligibilityBoundary}
    :
    eligibleManifest boundary source = .ok manifest ↔
      ∃ start cutoff entries, Eligible boundary start cutoff source entries ∧
        manifest.members = sortedByDue (entries.filter (InWindow start cutoff)) ∧
        manifest.fingerprint = manifestFingerprint boundary manifest.members := by
  simp only [eligibleManifest, bind_ok, raiseIf_ok, not_not, pure_ok, coordinateValue_ok,
    eligibleMembers_ok, Nat.not_lt]
  constructor
  · rintro ⟨_, version, start, previous, cutoff, limit, _, forward, _, ⟨entries, same, listed, _,
      added⟩, made⟩
    refine ⟨start, cutoff, entries, ⟨version, previous, limit, forward, same, listed⟩, ?_⟩
    rw [← made, added]
    exact ⟨rfl, rfl⟩
  · rintro ⟨start, cutoff, entries, eligible, members, fingerprint⟩
    refine ⟨(), eligible.version, start, eligible.previous, cutoff, eligible.limit, (),
      eligible.forward, _, ⟨entries, eligible.source, eligible.listed,
        fun _ _ => ⟨List.not_mem_nil, List.not_mem_nil⟩, rfl⟩, ?_⟩
    change (⟨sortedByDue (entries.filter (InWindow start cutoff)), manifestFingerprint boundary
      (sortedByDue (entries.filter (InWindow start cutoff)))⟩ : SchedulerEligibilityManifest) = _
    rw [← members, ← fingerprint]

omit [Hashlib] in
theorem filter_sorted (keep : Nat × UndisposedOccurrence → Bool)
    (entries : List (Nat × UndisposedOccurrence)) :
    ((entries.filter keep).insertionSort (fun left right => left.1 ≤ right.1)).filter keep =
      (entries.filter keep).insertionSort (fun left right => left.1 ≤ right.1) := by
  rw [List.filter_eq_self]
  intro entry member
  have kept := (List.perm_insertionSort _ _).subset member
  exact List.of_mem_filter kept

/-- A manifest lists its own members. -/
theorem eligibleManifest_members {boundary : SchedulerEligibilityBoundary}
    (accepted : eligibleManifest boundary source = .ok manifest) :
    eligibleManifest boundary manifest.members = .ok manifest := by
  obtain ⟨start, cutoff, entries, eligible, members, fingerprint⟩ := eligibleManifest_ok.mp accepted
  have sorts := List.perm_insertionSort (fun left right : Nat × UndisposedOccurrence =>
    left.1 ≤ right.1) (entries.filter (InWindow start cutoff))
  refine eligibleManifest_ok.mpr ⟨start, cutoff, _, ⟨eligible.version, eligible.previous,
    eligible.limit, eligible.forward, members.symm,
    (eligible.listed.filter _).perm sorts⟩, ?_, fingerprint⟩
  have ordered := List.pairwise_insertionSort (fun left right : Nat × UndisposedOccurrence =>
    left.1 ≤ right.1) (entries.filter (InWindow start cutoff))
  rw [members, filter_sorted, sortedByDue, sortedByDue, List.Pairwise.insertionSort_eq ordered]

theorem eligibleManifest_identities {boundary : SchedulerEligibilityBoundary}
    (accepted : eligibleManifest boundary source = .ok manifest) :
    (manifest.members.map (·.occurrenceId)).Nodup := by
  obtain ⟨start, cutoff, entries, eligible, members, _⟩ := eligibleManifest_ok.mp accepted
  have sorts := List.perm_insertionSort (fun left right : Nat × UndisposedOccurrence =>
    left.1 ≤ right.1) (entries.filter (InWindow start cutoff))
  have listed := (eligible.listed.filter (InWindow start cutoff)).perm sorts
  rw [members, sortedByDue, List.map_map]
  exact listed.identities

/-- A submitted manifest is accepted only as it was enumerated. -/
theorem verifyManifest_ok {boundary : SchedulerEligibilityBoundary}
    {submitted verified : SchedulerEligibilityManifest} :
    verifyManifest boundary submitted source = .ok verified ↔
      eligibleManifest boundary source = .ok submitted ∧ verified = submitted := by
  simp only [verifyManifest, bind_ok, raiseIf_ok, not_not, pure_ok]
  constructor
  · rintro ⟨expected, enumerated, _, same, returned⟩
    obtain rfl := recoveryBytes_read same
    exact ⟨enumerated, returned.symm⟩
  · rintro ⟨enumerated, same⟩
    exact ⟨submitted, enumerated, (), rfl, same.symm⟩

/-! ### Subjects -/

/-- The aggregate of a manifest. -/
def aggregateOf (boundary : SchedulerEligibilityBoundary)
    (manifest : SchedulerEligibilityManifest) : Identity :=
  Identity.after "scheduler-aggregate-v1:" (domainDigest "scheduler-coalesced-aggregate-v1"
    (.arr [toJson boundary, toJson manifest])).identity

/-- The execution subjects of a branch. -/
def branchSubjects (boundary : SchedulerEligibilityBoundary)
    (manifest : SchedulerEligibilityManifest) : IntervalBranch → List ExecutionLineageSubject
  | .boundaryOnlyNoWork | .skipAll => []
  | .coalesceMulti => [.coalesced (aggregateOf boundary manifest) manifest.fingerprint]
  | .coalesceSingle | .materializeEachSingle | .materializeEachMulti =>
      manifest.members.map (fun member => .individual member.occurrenceId)

def policySubjects (boundary : SchedulerEligibilityBoundary)
    (manifest : SchedulerEligibilityManifest) : List ExecutionLineageSubject :=
  branchSubjects boundary manifest
    (policyBranch boundary.missedOccurrencePolicyHead.kind manifest.members.length)

theorem executionSubjects_ok {boundary : SchedulerEligibilityBoundary}
    {manifest verified : SchedulerEligibilityManifest}
    (accepted : verifyManifest boundary manifest source = .ok verified) :
    executionSubjects boundary manifest source = .ok (policySubjects boundary manifest) := by
  obtain ⟨_, same⟩ := verifyManifest_ok.mp accepted
  rw [executionSubjects, accepted, ok_bind, same, policySubjects]
  cases policyBranch boundary.missedOccurrencePolicyHead.kind manifest.members.length <;> rfl

theorem policySubjects_nodup {boundary : SchedulerEligibilityBoundary}
    (accepted : eligibleManifest boundary source = .ok manifest) :
    (policySubjects boundary manifest).Nodup := by
  have identities := eligibleManifest_identities accepted
  have individuals : (manifest.members.map
      (fun member => ExecutionLineageSubject.individual member.occurrenceId)).Nodup := by
    have injective : Function.Injective ExecutionLineageSubject.individual :=
      fun _ _ same => ExecutionLineageSubject.individual.inj same
    have mapped := identities.map injective
    rwa [List.map_map] at mapped
  rw [policySubjects]
  cases policyBranch boundary.missedOccurrencePolicyHead.kind manifest.members.length with
  | boundaryOnlyNoWork => exact .nil
  | skipAll => exact .nil
  | coalesceMulti => exact List.nodup_singleton _
  | coalesceSingle => exact individuals
  | materializeEachSingle => exact individuals
  | materializeEachMulti => exact individuals

end Eligibility

end Chiplog.AgentLoop
