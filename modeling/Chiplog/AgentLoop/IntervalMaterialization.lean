import Chiplog.AgentLoop.MaterializationCoverage
import Chiplog.AgentLoop.RunAgreement
import Chiplog.AgentLoop.SchedulerStreaming

namespace Chiplog.AgentLoop

open Chiplog.Data Chiplog.Effects

/-! Compiled intervals.

A prepared parent compiles: its dispositions, Runs, roots, lineages and leases are those of the
manifest, one for each subject, and no two records share a name. -/

/-- The names of the records of a kind. -/
def namesOfKind (kind : String) (records : List SchedulerCanonicalMember) : List Identity :=
  (records.filter (fun record => record.recordKind.text = kind)).map (·.recordId)

theorem namesOfKind_append (kind : String) (front rest : List SchedulerCanonicalMember) :
    namesOfKind kind (front ++ rest) = namesOfKind kind front ++ namesOfKind kind rest := by
  rw [namesOfKind, List.filter_append, List.map_append]
  rfl

theorem namesOfKind_none {kind : String} {records : List SchedulerCanonicalMember}
    (none : ∀ record ∈ records, record.recordKind.text ≠ kind) : namesOfKind kind records = [] := by
  rw [namesOfKind, List.filter_eq_nil_iff.mpr]
  · rfl
  · intro record member
    simpa using none record member

theorem decisionOf_ok {parent : IntervalParentPrimitive} (outcome : IntervalOutcome)
    (hold : parent.kind = .resolution → parent.originalHold ≠ .absent) :
    ∃ decision, decisionOf parent outcome = .ok decision ∧ decision.outcome = outcome := by
  unfold decisionOf
  cases kind : parent.kind with
  | ordinary => exact ⟨_, rfl, rfl⟩
  | resolution =>
      cases held : parent.originalHold with
      | absent => exact absurd held (hold kind)
      | present originalHold => exact ⟨_, rfl, rfl⟩

section Compiled

variable [Hashlib]

theorem namesOfKind_dispositions {kind : String} (other : kind ≠ "occurrence-disposition")
    (items : List OccurrenceDisposition) : namesOfKind kind (items.map dispositionMember) = [] := by
  apply namesOfKind_none
  intro record member
  obtain ⟨item, _, same⟩ := List.mem_map.mp member
  rw [← same]
  exact other.symm

/-- The kinds of records that are not a subject's own. -/
def SharedKind (kind : String) : Prop :=
  kind ∈ ["occurrence-disposition", "coalesced-aggregate", "epoch-companion", "interval-parent",
    "overflow-resolution", "interval-result"]

instance (kind : String) : Decidable (SharedKind kind) :=
  inferInstanceAs (Decidable (kind ∈ _))

section Kind

variable {kind : String} (own : ¬ SharedKind kind) (parent : IntervalParentPrimitive)
  (parentRef : PresentHead)
include own

theorem namesOfKind_occurrence (subject : ExecutionLineageSubject) :
    namesOfKind kind (occurrenceOf parent parentRef subject).members =
      namesOfKind kind (coreMembersOf parent parentRef subject (runOf parent parentRef subject)) := by
  simp only [SharedKind, List.mem_cons, List.not_mem_nil, or_false, not_or] at own
  obtain ⟨disposition, aggregate, companion, _⟩ := own
  have aggregates : namesOfKind kind (aggregateMembers parent subject) = [] := by
    apply namesOfKind_none
    cases subject with
    | individual occurrenceId => nofun
    | coalesced aggregateId fingerprint =>
        intro record member
        rw [List.mem_singleton.mp member]
        exact Ne.symm aggregate
  have last (value : Json) (name : Identity) :
      namesOfKind kind [canonicalMember ⟨"epoch-companion", by decide⟩ name value] = [] := by
    apply namesOfKind_none
    intro record member
    rw [List.mem_singleton.mp member]
    exact Ne.symm companion
  rw [occurrenceOf, finalizeOccurrence]
  dsimp only
  rw [namesOfKind_append, last, subjectMembersOf, namesOfKind_append, namesOfKind_append, aggregates,
    namesOfKind_dispositions disposition, List.append_nil, List.append_nil, List.append_nil]

/-- The records of a subject's own kind are its own, in the order of the subjects. -/
theorem namesOfKind_batch (subjects : List ExecutionLineageSubject)
    (dispositions : List OccurrenceDisposition) (result : Json) :
    namesOfKind kind (intervalMembers parent parentRef
          (subjects.map (occurrenceOf parent parentRef)) dispositions ++
        [canonicalMember ⟨"interval-result", by decide⟩ (parentSuffix parentRef ":result") result]) =
      subjects.flatMap (fun subject => namesOfKind kind
        (coreMembersOf parent parentRef subject (runOf parent parentRef subject))) := by
  have each := namesOfKind_occurrence own parent parentRef
  simp only [SharedKind, List.mem_cons, List.not_mem_nil, or_false, not_or] at own
  obtain ⟨disposition, _, _, first, resolution, last⟩ := own
  have single (other : Identity) (differs : ¬ kind = other.text) (name : Identity) (value : Json) :
      namesOfKind kind [canonicalMember other name value] = [] := by
    apply namesOfKind_none
    intro record member
    rw [List.mem_singleton.mp member]
    exact Ne.symm differs
  have resolved : namesOfKind kind (resolutionMembers parent parentRef) = [] := by
    rw [resolutionMembers]
    cases parent.kind with
    | ordinary => rfl
    | resolution => exact single ⟨"overflow-resolution", by decide⟩ resolution _ _
  have flattened : namesOfKind kind
      ((subjects.map (occurrenceOf parent parentRef)).flatMap (·.members)) =
        subjects.flatMap (fun subject => namesOfKind kind
          (coreMembersOf parent parentRef subject (runOf parent parentRef subject))) := by
    induction subjects with
    | nil => rfl
    | cons subject rest ih =>
        rw [List.map_cons, List.flatMap_cons, namesOfKind_append, ih, each, List.flatMap_cons]
  rw [namesOfKind_append, single ⟨"interval-result", by decide⟩ last, intervalMembers, namesOfKind_append, namesOfKind_append,
    ← List.singleton_append, namesOfKind_append, single ⟨"interval-parent", by decide⟩ first, flattened, resolved,
    namesOfKind_dispositions disposition, List.append_nil, List.append_nil, List.append_nil,
    List.nil_append]

/-- Each subject has one record of such a kind. -/
theorem namesOfKind_each {nameOf : MaterializedOccurrence → Identity}
    (subjects : List ExecutionLineageSubject) (dispositions : List OccurrenceDisposition)
    (result : Json)
    (one : ∀ subject, namesOfKind kind
      (coreMembersOf parent parentRef subject (runOf parent parentRef subject)) =
        [nameOf (occurrenceOf parent parentRef subject)]) :
    namesOfKind kind (intervalMembers parent parentRef
          (subjects.map (occurrenceOf parent parentRef)) dispositions ++
        [canonicalMember ⟨"interval-result", by decide⟩ (parentSuffix parentRef ":result") result]) =
      (subjects.map (occurrenceOf parent parentRef)).map nameOf := by
  rw [namesOfKind_batch own, List.map_map, List.map_eq_flatMap]
  exact List.flatMap_congr (fun subject _ => one subject)

end Kind

/-- The candidate of a parent covers its manifest exactly. -/
structure Covers (parent : IntervalParentPrimitive) (source : List UndisposedOccurrence)
    (candidate : IntervalCandidate) : Prop where
  /-- Each member is disposed of once, in order, by the kind that the branch prescribes. -/
  decided : ∃ decision commitment, candidate.result = .decided decision commitment ∧
    decision.outcome.dispositions =
      parent.manifest.members.map (prescribed parent (parentReference parent)) ∧
    decision.outcome.resultingBoundary = parent.boundary.cutoffDueCoordinate
  once : (parent.manifest.members.map (·.occurrenceId)).Nodup
  subjects : executionSubjects parent.boundary parent.manifest source =
    .ok (candidate.occurrences.map (·.commitment.subject))
  runs : namesOfKind "agent_loop.run" candidate.records =
    candidate.occurrences.map (·.commitment.initialRun.head)
  roots : namesOfKind "physical-root" candidate.records =
    candidate.occurrences.map (·.commitment.physicalEpoch.head)
  lineages : namesOfKind "stable-lineage" candidate.records =
    candidate.occurrences.map (·.commitment.lineage.lineageHead)
  leases : namesOfKind "root-lease-genesis" candidate.records =
    candidate.occurrences.map (·.commitment.genesisLease.leaseHead)
  runIds : (candidate.occurrences.map (·.run.runId)).Nodup
  rootIds : (candidate.occurrences.map (·.commitment.lineage.rootId)).Nodup
  recordIds : (candidate.records.map (·.recordId)).Nodup

/-- A prepared parent compiles, unless two of its texts collide. -/
theorem Prepared.compiles [Pydantic] {parent : IntervalParentPrimitive}
    {source : List UndisposedOccurrence} (prepared : Prepared parent source)
    (apart : ¬ Json.CollisionAmong (materializationTexts parent)) :
    ∃ candidate, compileInterval parent source = .ok candidate ∧ Covers parent source candidate := by
  have accepted : verifyManifest parent.boundary parent.manifest source = .ok parent.manifest :=
    verifyManifest_ok.mpr ⟨prepared.accepted, rfl⟩
  have dispositions := prepared.dispositions (parentReference parent)
  obtain ⟨decision, decided, outcome⟩ := decisionOf_ok (outcomeOf parent (parentReference parent)
    ((parentSubjects parent).map (occurrenceOf parent (parentReference parent)))) prepared.hold
  have distinct (result : Json) := (prepared.names (parentReference parent) result).nodup_iff.mpr
    (prepared.names_nodup apart)
  have telling (subject) (member : subject ∈ parentSubjects parent) (other)
      (among : other ∈ parentSubjects parent) := Prepared.legibly apart member among
  have nodup := policySubjects_nodup prepared.accepted
  unfold compileInterval
  rw [validateSchemaDag_registered, accepted, executionSubjects_ok accepted]
  change ∃ candidate, ((parentSubjects parent).mapM
    (materializeOccurrence parent (parentReference parent)) >>= _) = _ ∧ _
  rw [prepared.occurrences_ok, ok_bind]
  dsimp only
  rw [decided, dispositions]
  change ∃ candidate, (raiseIf _ _ >>= _) = _ ∧ _
  rw [raiseIf_neg (not_not.mpr (distinct _)), ok_bind]
  refine ⟨_, rfl, ?_⟩
  constructor
  · exact ⟨decision, _, rfl, by rw [outcome, dispositions], by rw [outcome]; rfl⟩
  · exact eligibleManifest_identities prepared.accepted
  · rw [executionSubjects_ok accepted, List.map_map]
    exact congrArg Except.ok (List.map_id _).symm
  · exact namesOfKind_each (by decide) _ _ _ _ _ (fun _ => rfl)
  · exact namesOfKind_each (by decide) _ _ _ _ _ (fun _ => rfl)
  · exact namesOfKind_each (by decide) _ _ _ _ _ (fun _ => rfl)
  · exact namesOfKind_each (by decide) _ _ _ _ _ (fun _ => rfl)
  · rw [List.map_map]
    exact List.Nodup.map_on (fun subject member other among same =>
      (telling subject member other among).runId (Identity.ext_iff_text.mpr same)) nodup
  · rw [List.map_map]
    exact List.Nodup.map_on (fun subject member other among same =>
      (telling subject member other among).rootId same) nodup
  · exact distinct _

/-- Materialization covers the manifest exactly, unless two of the texts that name its records
collide. -/
theorem materialization_covers [Pydantic] {parent : IntervalParentPrimitive}
    {source : List UndisposedOccurrence} {verified : SchedulerEligibilityManifest}
    (accepted : verifyManifest parent.boundary parent.manifest source = .ok verified)
    (branch : parent.branch = policyBranch parent.boundary.missedOccurrencePolicyHead.kind
      parent.manifest.members.length)
    (hold : parent.kind = .resolution → parent.originalHold ≠ .absent) :
    Json.CollisionAmong (materializationTexts parent) ∨
      ∃ candidate, compileInterval parent source = .ok candidate ∧
        Covers parent source candidate := by
  by_cases collision : Json.CollisionAmong (materializationTexts parent)
  · exact .inl collision
  · have prepared : Prepared parent source := ⟨(verifyManifest_ok.mp accepted).1, branch, hold⟩
    exact .inr (prepared.compiles collision)

/-- The text whose digest an occurrence is named by. -/
def occurrenceText (schedule : ScheduleDefinitionHead) (due : Nat) : Bytes :=
  (Json.arr [.str "scheduler-occurrence-v1", .arr [toJson schedule.scheduleId,
    toJson schedule.scheduleRevision, toJson (coordinate due)]]).encode

omit [Hashlib] in
theorem occurrenceText_inj {schedule : ScheduleDefinitionHead} {left right : Nat}
    (same : occurrenceText schedule left = occurrenceText schedule right) : left = right := by
  have outer := Json.arr.inj (Json.encode_inj same)
  have fields := Json.arr.inj (List.cons.inj (List.cons.inj outer).2).1
  have due := (List.cons.inj (List.cons.inj (List.cons.inj fields).2).2).1
  exact coordinate_injective (Json.read _ _ due)

theorem occurrenceId_inj {schedule : ScheduleDefinitionHead} {left right : Nat}
    (same : (occurrenceAt schedule left).occurrenceId = (occurrenceAt schedule right).occurrenceId) :
    sha256 (occurrenceText schedule left) = sha256 (occurrenceText schedule right) :=
  Digest.ext_text (congrArg Identity.text (Identity.after_inj.mp same))

/-- Instants of one schedule have different identities, unless two of their texts collide. -/
theorem occurrenceIds_nodup (schedule : ScheduleDefinitionHead) {dues : List Nat}
    (ascending : dues.Pairwise (· < ·)) :
    ((dues.map (occurrenceAt schedule)).map UndisposedOccurrence.occurrenceId).Nodup ∨
      Json.CollisionAmong (dues.map (occurrenceText schedule)) := by
  by_cases collision : Json.CollisionAmong (dues.map (occurrenceText schedule))
  · exact .inr collision
  · refine .inl ?_
    rw [List.map_map]
    refine List.Nodup.map_on ?_ (ascending.imp Nat.ne_of_lt)
    intro left member right among same
    by_contra differs
    exact collision ⟨_, List.mem_map_of_mem member, _, List.mem_map_of_mem among,
      fun equal => differs (occurrenceText_inj equal), occurrenceId_inj same⟩

/-- The boundary of a window of two instants, each of which becomes a run of its own. -/
def everyTenEach : SchedulerEligibilityBoundary :=
  { everyTenBoundary 15 with
    missedOccurrencePolicyHead := { policyHead everyTenCurrent.policy with kind := .materializeEach } }

def everyTenMembers : List UndisposedOccurrence :=
  [0, 10].map (occurrenceAt everyTenEach.scheduleDefinitionHead)

def everyTenParent : IntervalParentPrimitive :=
  { kind := .ordinary
    command := ⟨⟨"command", written _ trivial⟩, ⟨"schema", written _ trivial⟩,
      ⟨canonicalVersion, written _ trivial⟩⟩
    boundary := everyTenEach
    currentBound := everyTenCurrent.bound
    originalBound := everyTenCurrent.bound
    originalHold := .absent
    operatorProof := .absent
    manifest := ⟨everyTenMembers, manifestFingerprint everyTenEach everyTenMembers⟩
    branch := .materializeEachMulti
    runInputs := everyTen.runInputs }

theorem everyTenParent_eligible
    (distinct : (everyTenMembers.map UndisposedOccurrence.occurrenceId).Nodup) :
    eligibleManifest everyTenEach everyTenMembers = .ok everyTenParent.manifest := by
  have window := @eligibleManifest_window _ everyTenEach 0 15 [0, 10] rfl rfl rfl (by decide)
    (by decide) (by decide)
  exact window.trans (if_pos distinct)

end Compiled

/-- Both occurrences of the window, each with its own run. -/
theorem materialization_covers_sample :
    letI := Sha256.hashlib
    letI := silentModel
    Json.CollisionAmong ([0, 10].map (occurrenceText everyTenEach.scheduleDefinitionHead)) ∨
      Json.CollisionAmong (materializationTexts everyTenParent) ∨
      ∃ candidate, compileInterval everyTenParent everyTenMembers = .ok candidate ∧
        Covers everyTenParent everyTenMembers candidate := by
  let _ := Sha256.hashlib
  let _ := silentModel
  have ascending : [0, 10].Pairwise (· < ·) := by decide
  rcases occurrenceIds_nodup everyTenEach.scheduleDefinitionHead ascending with
    distinct | collision
  · have accepted : verifyManifest everyTenParent.boundary everyTenParent.manifest
        everyTenMembers = .ok everyTenParent.manifest :=
      verifyManifest_ok.mpr ⟨everyTenParent_eligible distinct, rfl⟩
    exact .inr (materialization_covers accepted rfl nofun)
  · exact .inl collision

end Chiplog.AgentLoop
