import Chiplog.AgentLoop.MaterializationNames

namespace Chiplog.AgentLoop

open Chiplog.Data Chiplog.Effects

/-! A compiled interval covers its manifest.

Every subject of an accepted manifest is materialized, and the records of the batch fall into four
groups with domains of their own: those of the subjects, the dispositions, the aggregate and the
parent with its outcome. -/

theorem validateSchemaDag_registered : validateSchemaDag schemaDag = .ok () := by
  decide

section Coverage

variable [Hashlib]

/-! ### Occurrences -/

section Subject

variable (parent : IntervalParentPrimitive) (parentRef : PresentHead)
  (subject : ExecutionLineageSubject)

/-- The Run of a subject. -/
def runOf : RunRecord :=
  { pendingRun parent.runInputs (lineageOf parent parentRef subject) with
    head := (runHeadOf parent parentRef subject).text }

/-- The dispositions of the members that a subject stands for. -/
def subjectDispositions : List OccurrenceDisposition :=
  let materialization := materializationOf parent parentRef subject
  match subject with
  | .individual occurrenceId =>
      (parent.manifest.members.filter (fun item => item.occurrenceId = occurrenceId)).map
        (fun item => .claimedIndividually item materialization)
  | .coalesced aggregateId _ =>
      parent.manifest.members.map (fun item =>
        .coalescedInto item aggregateId parent.manifest.fingerprint materialization)

theorem subjectDispositions_claimed {item : OccurrenceDisposition}
    (member : item ∈ subjectDispositions parent parentRef subject) : isSkipped item = false := by
  cases subject with
  | individual occurrenceId =>
      obtain ⟨_, _, same⟩ := List.mem_map.mp member
      rw [← same]
      rfl
  | coalesced aggregateId manifestFingerprint =>
      obtain ⟨_, _, same⟩ := List.mem_map.mp member
      rw [← same]
      rfl

def occurrenceOf : MaterializedOccurrence :=
  finalizeOccurrence parent parentRef subject (runOf parent parentRef subject)
    (subjectDispositions parent parentRef subject)

/-- The disposition that the branch of a parent prescribes; without members none is made. -/
def prescribed (occurrence : UndisposedOccurrence) : OccurrenceDisposition :=
  match parent.branch with
  | .boundaryOnlyNoWork | .skipAll => .skipped occurrence parentRef
  | .coalesceMulti =>
      let aggregate := aggregateOf parent.boundary parent.manifest
      .coalescedInto occurrence aggregate parent.manifest.fingerprint
        (materializationOf parent parentRef (.coalesced aggregate parent.manifest.fingerprint))
  | .coalesceSingle | .materializeEachSingle | .materializeEachMulti =>
      .claimedIndividually occurrence
        (materializationOf parent parentRef (.individual occurrence.occurrenceId))

theorem prescribed_occurrence (occurrence : UndisposedOccurrence) :
    (prescribed parent parentRef occurrence).occurrence = occurrence := by
  rw [prescribed]
  cases parent.branch <;> rfl

theorem genesisRun_ok [Pydantic] :
    genesisRun parent.runInputs (lineageOf parent parentRef subject) =
      .ok (runOf parent parentRef subject) := by
  have head : ¬ (runOf parent parentRef subject).head ≠
      contentHead (runOf parent parentRef subject) := not_not.mpr rfl
  have valid : validateRecord none (runOf parent parentRef subject) none = .ok () := by
    simp only [validateRecord, raiseIf_neg head, ok_bind]
    rfl
  have made : genesisRun parent.runInputs (lineageOf parent parentRef subject) =
      ((validateRecord none (runOf parent parentRef subject) none).mapError
        MaterializationError.loop >>= fun _ => .ok (runOf parent parentRef subject)) := rfl
  rw [made, valid]
  rfl

end Subject

omit [Hashlib] in
/-- A key that no other member has selects its member alone. -/
theorem filter_key {α κ : Type} [DecidableEq κ] (key : α → κ) {items : List α} {item : α}
    (distinct : (items.map key).Nodup) (member : item ∈ items) :
    items.filter (fun other => key other = key item) = [item] := by
  induction items with
  | nil => cases member
  | cons first rest ih =>
      obtain ⟨fresh, others⟩ := List.nodup_cons.mp distinct
      rcases List.mem_cons.mp member with same | inside
      · subst same
        rw [List.filter_cons_of_pos (by simp), List.filter_eq_nil_iff.mpr]
        intro other among
        have differs : key other ≠ key item :=
          fun same => fresh (same ▸ List.mem_map_of_mem among)
        simpa using differs
      · have differs : key first ≠ key item :=
          fun same => fresh (same ▸ List.mem_map_of_mem inside)
        rw [List.filter_cons_of_neg (by simpa using differs), ih others inside]

def parentSubjects (parent : IntervalParentPrimitive) : List ExecutionLineageSubject :=
  policySubjects parent.boundary parent.manifest

/-- A parent over an accepted manifest, as the preparations build it. -/
structure Prepared (parent : IntervalParentPrimitive) (source : List UndisposedOccurrence) :
    Prop where
  accepted : eligibleManifest parent.boundary source = .ok parent.manifest
  branch : parent.branch = policyBranch parent.boundary.missedOccurrencePolicyHead.kind
    parent.manifest.members.length
  hold : parent.kind = .resolution → parent.originalHold ≠ .absent

namespace Prepared

variable {parent : IntervalParentPrimitive} {source : List UndisposedOccurrence}
  {subject : ExecutionLineageSubject}

theorem subjects (prepared : Prepared parent source) :
    parentSubjects parent = branchSubjects parent.boundary parent.manifest parent.branch := by
  rw [parentSubjects, policySubjects, prepared.branch]

/-- The members of a coalesced branch are several. -/
theorem several (prepared : Prepared parent source) (coalesced : parent.branch = .coalesceMulti) :
    2 ≤ parent.manifest.members.length := by
  have branch := prepared.branch
  rw [coalesced] at branch
  unfold policyBranch at branch
  by_contra few
  have size : parent.manifest.members.length = 0 ∨ parent.manifest.members.length = 1 := by omega
  rcases size with none | one
  · rw [if_pos none] at branch
    cases branch
  · rw [if_neg (by omega), one] at branch
    cases kind : parent.boundary.missedOccurrencePolicyHead.kind <;> rw [kind] at branch <;>
      cases branch

theorem empty (prepared : Prepared parent source) (noWork : parent.branch = .boundaryOnlyNoWork) :
    parent.manifest.members = [] := by
  have branch := prepared.branch
  rw [noWork] at branch
  unfold policyBranch at branch
  by_contra some
  rw [if_neg (fun none => some (List.length_eq_zero_iff.mp none))] at branch
  cases kind : parent.boundary.missedOccurrencePolicyHead.kind <;> rw [kind] at branch
  · cases branch
  all_goals
    dsimp only at branch
    split at branch <;> cases branch

theorem dispositions_ok (prepared : Prepared parent source) (parentRef : PresentHead)
    (member : subject ∈ parentSubjects parent) :
    dispositionsOf parent parentRef subject = .ok (subjectDispositions parent parentRef subject) := by
  have identities := eligibleManifest_identities prepared.accepted
  rw [prepared.subjects] at member
  have individual (inside : subject ∈ parent.manifest.members.map
      (fun item => ExecutionLineageSubject.individual item.occurrenceId)) :
      dispositionsOf parent parentRef subject =
        .ok (subjectDispositions parent parentRef subject) := by
    obtain ⟨item, among, same⟩ := List.mem_map.mp inside
    have alone := filter_key UndisposedOccurrence.occurrenceId identities among
    subst same
    simp only [dispositionsOf, subjectDispositions, alone]
    rfl
  cases branch : parent.branch with
  | boundaryOnlyNoWork => rw [branch] at member; cases member
  | skipAll => rw [branch] at member; cases member
  | coalesceSingle => rw [branch] at member; exact individual member
  | coalesceMulti =>
      rw [branch] at member
      obtain rfl := List.mem_singleton.mp member
      have several := prepared.several branch
      have whole : ¬ (parent.manifest.members.length < 2 ∨
          parent.manifest.fingerprint ≠ parent.manifest.fingerprint) :=
        not_or.mpr ⟨Nat.not_lt.mpr several, not_not.mpr rfl⟩
      rw [dispositionsOf, raiseIf_neg whole]
      rfl
  | materializeEachSingle => rw [branch] at member; exact individual member
  | materializeEachMulti => rw [branch] at member; exact individual member

theorem materialized [Pydantic] (prepared : Prepared parent source)
    (member : subject ∈ parentSubjects parent) :
    materializeOccurrence parent (parentReference parent) subject =
      .ok (occurrenceOf parent (parentReference parent) subject) := by
  have accepted : verifyManifest parent.boundary parent.manifest parent.manifest.members =
      .ok parent.manifest := verifyManifest_ok.mpr ⟨eligibleManifest_members prepared.accepted, rfl⟩
  have fits : ¬ (parent.branch ≠ policyBranch parent.boundary.missedOccurrencePolicyHead.kind
      parent.manifest.members.length ∨
      subject ∉ policySubjects parent.boundary parent.manifest) := by
    rw [not_or, not_not, not_not]
    exact ⟨prepared.branch, member⟩
  rw [materializeOccurrence, raiseIf_neg (not_not.mpr rfl), ok_bind,
    executionSubjects_ok accepted]
  change (raiseIf _ _ >>= fun _ => _) = _
  rw [raiseIf_neg fits, ok_bind, genesisRun_ok, ok_bind, prepared.dispositions_ok _ member]
  rfl

theorem occurrences_ok [Pydantic] (prepared : Prepared parent source) :
    (parentSubjects parent).mapM (materializeOccurrence parent (parentReference parent)) =
      .ok ((parentSubjects parent).map (occurrenceOf parent (parentReference parent))) := by
  have all : ((parentSubjects parent).map id).mapM
      (materializeOccurrence parent (parentReference parent)) = _ :=
    mapM_map_ok (fun subject member => prepared.materialized member)
  rwa [List.map_id] at all

/-- The dispositions of a batch are the prescribed ones, in the order of the manifest. -/
theorem dispositions (prepared : Prepared parent source) (parentRef : PresentHead) :
    (outcomeOf parent parentRef
        ((parentSubjects parent).map (occurrenceOf parent parentRef))).dispositions =
      parent.manifest.members.map (prescribed parent parentRef) := by
  have identities := eligibleManifest_identities prepared.accepted
  have flattened : ((parentSubjects parent).map (occurrenceOf parent parentRef)).flatMap
      (·.commitment.dispositions) =
        (parentSubjects parent).flatMap (subjectDispositions parent parentRef) := by
    rw [List.flatMap_map]
    rfl
  have individual (same : parentSubjects parent = parent.manifest.members.map
        (fun item => ExecutionLineageSubject.individual item.occurrenceId)) :
      (parentSubjects parent).flatMap (subjectDispositions parent parentRef) =
        parent.manifest.members.map (fun item => OccurrenceDisposition.claimedIndividually item
          (materializationOf parent parentRef (.individual item.occurrenceId))) := by
    rw [same, List.flatMap_map, List.map_eq_flatMap]
    apply List.flatMap_congr
    intro item member
    rw [subjectDispositions, filter_key UndisposedOccurrence.occurrenceId identities member]
    rfl
  have subjects := prepared.subjects
  rw [outcomeOf]
  dsimp only
  rw [flattened]
  unfold prescribed
  cases branch : parent.branch with
  | boundaryOnlyNoWork =>
      rw [branch] at subjects
      rw [subjects, prepared.empty branch]
      rfl
  | skipAll => rfl
  | coalesceSingle =>
      rw [branch] at subjects
      exact individual subjects
  | coalesceMulti =>
      rw [branch] at subjects
      rw [subjects, branchSubjects, List.flatMap_singleton]
      rfl
  | materializeEachSingle =>
      rw [branch] at subjects
      exact individual subjects
  | materializeEachMulti =>
      rw [branch] at subjects
      exact individual subjects

/-- A branch that skips has no subjects; the others skip nothing. -/
theorem dispositions_split (prepared : Prepared parent source) (parentRef : PresentHead) :
    (parentSubjects parent).flatMap (subjectDispositions parent parentRef) ++
        (parent.manifest.members.map (prescribed parent parentRef)).filter
          (fun item => isSkipped item) =
      parent.manifest.members.map (prescribed parent parentRef) := by
  have made := prepared.dispositions parentRef
  rw [outcomeOf] at made
  dsimp only at made
  by_cases skips : parent.branch = .skipAll
  · have none : parentSubjects parent = [] := by rw [prepared.subjects, skips]; rfl
    rw [none, List.flatMap_nil, List.nil_append, List.filter_eq_self]
    intro item member
    obtain ⟨occurrence, _, same⟩ := List.mem_map.mp member
    rw [← same, prescribed, skips]
    rfl
  · rw [if_neg skips, List.flatMap_map] at made
    change (parentSubjects parent).flatMap (subjectDispositions parent parentRef) = _ at made
    rw [← made, List.filter_eq_nil_iff.mpr, List.append_nil]
    intro item member
    obtain ⟨subject, _, inside⟩ := List.mem_flatMap.mp member
    rw [subjectDispositions_claimed _ _ _ inside]
    decide

end Prepared

/-! ### Names -/

@[simp] theorem canonicalMember_recordKind (kind reference : Identity) (value : Json) :
    (canonicalMember kind reference value).recordKind = kind := rfl

@[simp] theorem canonicalMember_recordId (kind reference : Identity) (value : Json) :
    (canonicalMember kind reference value).recordId = reference := rfl

/-- The name of the record of a disposition. -/
def dispositionName (item : OccurrenceDisposition) : Identity :=
  domainId "occurrence-disposition-v1" (sha256 (toJson item).tagged)

omit [Hashlib] in
theorem disposition_occurrence {first second : OccurrenceDisposition}
    (same : Json.sorted (toJson first) = Json.sorted (toJson second)) :
    first.occurrence = second.occurrence := by
  refine Json.sorted_obj_field "occurrence" _ _ same ?_ ?_
  · cases first <;> simp [modelDump, OccurrenceDisposition.occurrence]
  · cases second <;> simp [modelDump, OccurrenceDisposition.occurrence]

def aggregateNames : ExecutionLineageSubject → List Identity
  | .individual _ => []
  | .coalesced aggregateId _ => [aggregateId]

omit [Hashlib] in
theorem perm_last_forward {α : Type} (front middle rest : List α) (last : α) :
    (front ++ middle ++ rest ++ [last]).Perm (front ++ [last] ++ (middle ++ rest)) := by
  rw [List.append_assoc front, List.append_assoc front, List.append_assoc front]
  exact List.perm_append_comm.append_left front

/-- The names of the parent, of what it resolves and of the result. -/
def edgeNames (parent : IntervalParentPrimitive) (parentRef : PresentHead) : List Identity :=
  parentRef.head :: ((resolutionMembers parent parentRef).map (·.recordId) ++
    [parentSuffix parentRef ":result"])

section Batch

variable (parent : IntervalParentPrimitive) (parentRef : PresentHead)
  (subject : ExecutionLineageSubject)

theorem companion_listed : companionData (subjectMembersOf parent parentRef subject
      (runOf parent parentRef subject) (subjectDispositions parent parentRef subject)) =
    toJson (companionMembers parent parentRef subject) := by
  have dispositions : ((subjectDispositions parent parentRef subject).map dispositionMember).filter
      (fun item => item.recordKind.text ∈ ["physical-root", "physical-selector", "root-lease-genesis"]) =
        [] := by
    rw [List.filter_eq_nil_iff]
    intro record member
    obtain ⟨item, _, same⟩ := List.mem_map.mp member
    simp [← same, dispositionMember]
  have aggregates : (aggregateMembers parent subject).filter
      (fun item => item.recordKind.text ∈ ["physical-root", "physical-selector", "root-lease-genesis"]) =
        [] := by
    cases subject <;> simp [aggregateMembers]
  rw [companionData, subjectMembersOf]
  rw [List.filter_append, List.filter_append, dispositions, aggregates, List.append_nil,
    List.append_nil]
  simp [coreMembersOf, runMember, companionMembers]

theorem occurrence_names : ((occurrenceOf parent parentRef subject).members.map (·.recordId)).Perm
    (familyNames (subjectFamilies parent parentRef) subject ++
      ((subjectDispositions parent parentRef subject).map dispositionName ++
        aggregateNames subject)) := by
  have aggregates : (aggregateMembers parent subject).map (·.recordId) = aggregateNames subject := by
    cases subject <;> rfl
  have companion : (taggedReference "scheduler-epoch-companion-v1"
      (companionData (subjectMembersOf parent parentRef subject (runOf parent parentRef subject)
        (subjectDispositions parent parentRef subject)))).head =
      domainId "scheduler-epoch-companion-v1" (sha256 (companionText parent parentRef subject)) := by
    rw [companion_listed]
    rfl
  rw [occurrenceOf, finalizeOccurrence]
  dsimp only
  rw [List.map_append, List.map_singleton, canonicalMember_recordId, companion, subjectMembersOf]
  rw [List.map_append, List.map_append, aggregates, List.map_map]
  exact perm_last_forward _ _ _ _

end Batch

omit [Hashlib] in
/-- The blocks of a batch, gathered by their domains. -/
theorem perm_gather {α : Type} [DecidableEq α] {flat front middle last skipped resolution : List α}
    (head result : α) (blocks : flat.Perm (front ++ (middle ++ last))) :
    (head :: flat ++ skipped ++ resolution ++ [result]).Perm
      (front ++ (middle ++ skipped ++ (last ++ head :: (resolution ++ [result])))) := by
  rw [List.perm_iff_count] at blocks ⊢
  intro item
  have counts := blocks item
  simp only [List.count_append, List.count_cons, List.count_nil] at counts ⊢
  omega

/-- The domains of the records of a subject. -/
def subjectDomains : List (List Char) :=
  ["scheduled-batch-primitive-v1".toList, "execution-lineage-head-v1".toList,
    "physical-root-head-v1".toList, "physical-root-selector-head-v1".toList,
    "execution-root-lease-genesis-v1".toList, "loop".toList,
    "scheduler-run-initialization-v1".toList, "scheduler-root-run-reciprocal-v1".toList,
    "scheduler-epoch-companion-v1".toList]

theorem edgeNames_domain (parent : IntervalParentPrimitive) :
    ∀ name ∈ edgeNames parent (parentReference parent),
      domainOf name = "scheduler-parent-v1".toList := by
  have isPlain : PlainDomain "scheduler-parent-v1" := by decide
  have suffixed (suffix : String) :
      domainOf (parentSuffix (parentReference parent) suffix) = "scheduler-parent-v1".toList :=
    domainOf_before isPlain _ suffix
  have itself : domainOf (parentReference parent).head = "scheduler-parent-v1".toList :=
    domainOf_domainId isPlain _
  intro name member
  cases kind : parent.kind with
  | ordinary =>
      simp only [edgeNames, resolutionMembers, kind, List.map_nil, List.nil_append, List.mem_cons,
        List.not_mem_nil, or_false] at member
      rcases member with same | same
      · rw [same, itself]
      · rw [same, suffixed]
  | resolution =>
      simp only [edgeNames, resolutionMembers, kind, List.map_cons, List.map_nil,
        canonicalMember_recordId, List.cons_append, List.nil_append, List.mem_cons,
        List.not_mem_nil, or_false] at member
      rcases member with same | same | same
      · rw [same, itself]
      · rw [same, suffixed]
      · rw [same, suffixed]

omit [Hashlib] in
theorem ne_before (name : Identity) (suffix : String) (some : suffix ≠ "") :
    name ≠ name.before suffix := by
  intro same
  have texts := congrArg (fun name : Identity => name.text.length) same
  simp only [Identity.text_before, String.length_append] at texts
  exact some (String.length_eq_zero_iff.mp (by omega))

theorem edgeNames_nodup (parent : IntervalParentPrimitive) (parentRef : PresentHead) :
    (edgeNames parent parentRef).Nodup := by
  have result := ne_before parentRef.head ":result" (by decide)
  have hold := ne_before parentRef.head ":hold-resolution" (by decide)
  have differ : parentRef.head.before ":hold-resolution" ≠ parentRef.head.before ":result" := by
    intro same
    have suffixes := String.append_right_inj _ |>.mp (congrArg Identity.text same)
    exact absurd suffixes (by decide)
  cases kind : parent.kind with
  | ordinary =>
      simp [edgeNames, resolutionMembers, kind, parentSuffix, result]
  | resolution =>
      simp [edgeNames, resolutionMembers, kind, parentSuffix, result, hold, differ]

/-- The texts whose digests name the records of a batch. -/
def materializationTexts (parent : IntervalParentPrimitive) : List Bytes :=
  (parentSubjects parent).flatMap (subjectTexts parent (parentReference parent)) ++
    (parent.manifest.members.map (prescribed parent (parentReference parent))).map
      (fun item => (toJson item).tagged)

namespace Prepared

variable {parent : IntervalParentPrimitive} {source : List UndisposedOccurrence}

theorem names (prepared : Prepared parent source) (parentRef : PresentHead) (result : Json) :
    ((intervalMembers parent parentRef
          ((parentSubjects parent).map (occurrenceOf parent parentRef))
          (parent.manifest.members.map (prescribed parent parentRef)) ++
        [canonicalMember ⟨"interval-result", by decide⟩ (parentSuffix parentRef ":result") result]).map
          (·.recordId)).Perm
      ((parentSubjects parent).flatMap (familyNames (subjectFamilies parent parentRef)) ++
        ((parent.manifest.members.map (prescribed parent parentRef)).map dispositionName ++
          ((parentSubjects parent).flatMap aggregateNames ++ edgeNames parent parentRef))) := by
  have blocks : (((parentSubjects parent).map (occurrenceOf parent parentRef)).flatMap
      (·.members)).map (·.recordId) |>.Perm
        ((parentSubjects parent).flatMap (familyNames (subjectFamilies parent parentRef)) ++
          (((parentSubjects parent).flatMap (subjectDispositions parent parentRef)).map
            dispositionName ++ (parentSubjects parent).flatMap aggregateNames)) := by
    rw [List.flatMap_map, List.map_flatMap, List.map_flatMap]
    refine (List.Perm.flatMap_left _ (fun subject _ =>
      occurrence_names parent parentRef subject)).trans ?_
    refine (List.flatMap_append_perm _ _ _).symm.trans ?_
    exact (List.flatMap_append_perm _ _ _).symm.append_left _
  have skipped : ((parent.manifest.members.map (prescribed parent parentRef)).map dispositionName) =
      ((parentSubjects parent).flatMap (subjectDispositions parent parentRef)).map dispositionName ++
        ((parent.manifest.members.map (prescribed parent parentRef)).filter
          (fun item => isSkipped item)).map dispositionName := by
    rw [← List.map_append, prepared.dispositions_split]
  rw [skipped, intervalMembers, List.map_append, List.map_append, List.map_append, List.map_cons,
    List.map_map]
  exact perm_gather parentRef.head (parentSuffix parentRef ":result") blocks

variable {subject other : ExecutionLineageSubject}

theorem legibly (apart : ¬ Json.CollisionAmong (materializationTexts parent))
    (member : subject ∈ parentSubjects parent) (among : other ∈ parentSubjects parent) :
    Legibly parent (parentReference parent) (materializationTexts parent) subject other where
  apart := apart
  left := fun _ inside => List.mem_append_left _ (List.mem_flatMap.mpr ⟨subject, member, inside⟩)
  right := fun _ inside => List.mem_append_left _ (List.mem_flatMap.mpr ⟨other, among, inside⟩)

theorem dispositions_nodup (prepared : Prepared parent source)
    (apart : ¬ Json.CollisionAmong (materializationTexts parent)) :
    ((parent.manifest.members.map (prescribed parent (parentReference parent))).map
      dispositionName).Nodup := by
  have identities := eligibleManifest_identities prepared.accepted
  rw [List.map_map]
  refine List.Nodup.map_on ?_ identities.of_map
  intro first member second among same
  have texts := text_of_digest apart
    (List.mem_append_right _ (List.mem_map_of_mem (List.mem_map_of_mem member)))
    (List.mem_append_right _ (List.mem_map_of_mem (List.mem_map_of_mem among))) (domainId_inj same)
  have occurrences := disposition_occurrence (Json.tagged_inj texts)
  rwa [prescribed_occurrence, prescribed_occurrence] at occurrences

theorem aggregate_domain (prepared : Prepared parent source) :
    (parentSubjects parent).flatMap aggregateNames = [] ∨
      (parentSubjects parent).flatMap aggregateNames =
        [aggregateOf parent.boundary parent.manifest] := by
  have individual : (parent.manifest.members.map
      (fun member => ExecutionLineageSubject.individual member.occurrenceId)).flatMap
        aggregateNames = [] := by
    rw [List.flatMap_map]
    simp [aggregateNames]
  rw [prepared.subjects]
  cases parent.branch with
  | boundaryOnlyNoWork => exact .inl rfl
  | skipAll => exact .inl rfl
  | coalesceSingle => exact .inl individual
  | coalesceMulti => exact .inr rfl
  | materializeEachSingle => exact .inl individual
  | materializeEachMulti => exact .inl individual

/-- The names of a batch differ. -/
theorem names_nodup (prepared : Prepared parent source)
    (apart : ¬ Json.CollisionAmong (materializationTexts parent)) :
    ((parentSubjects parent).flatMap
          (familyNames (subjectFamilies parent (parentReference parent))) ++
        ((parent.manifest.members.map (prescribed parent (parentReference parent))).map
          dispositionName ++ ((parentSubjects parent).flatMap aggregateNames ++
            edgeNames parent (parentReference parent)))).Nodup := by
  have arePlain := subjectFamilies_plain parent (parentReference parent)
  have families := flatMap_familyNames_nodup arePlain (subjectFamilies_distinct _ _)
    (policySubjects_nodup prepared.accepted)
    (fun family member subject inside other among =>
      (legibly apart inside among).families family member)
  have aggregates : ∀ name ∈ (parentSubjects parent).flatMap aggregateNames,
      domainOf name = "scheduler-aggregate-v1".toList := by
    intro name member
    rcases prepared.aggregate_domain with none | one
    · rw [none] at member
      cases member
    · rw [one] at member
      obtain rfl := List.mem_singleton.mp member
      exact domainOf_domainId (show PlainDomain "scheduler-aggregate-v1" by decide) _
  have aggregatesNodup : ((parentSubjects parent).flatMap aggregateNames).Nodup := by
    rcases prepared.aggregate_domain with none | one
    · rw [none]
      exact .nil
    · rw [one]
      exact List.nodup_singleton _
  have dispositions : ∀ name ∈ (parent.manifest.members.map
      (prescribed parent (parentReference parent))).map dispositionName,
        domainOf name = "occurrence-disposition-v1".toList := by
    intro name member
    obtain ⟨item, _, same⟩ := List.mem_map.mp member
    rw [← same]
    exact domainOf_domainId (by decide) _
  have subjects : ∀ name ∈ (parentSubjects parent).flatMap
      (familyNames (subjectFamilies parent (parentReference parent))),
        domainOf name ∈ subjectDomains := by
    intro name member
    obtain ⟨subject, _, inside⟩ := List.mem_flatMap.mp member
    have domain := List.mem_map_of_mem (f := domainOf) inside
    rwa [domainOf_familyNames arePlain] at domain
  have edges := edgeNames_domain parent
  refine List.nodup_append'.mpr ⟨families, List.nodup_append'.mpr
    ⟨prepared.dispositions_nodup apart, List.nodup_append'.mpr
      ⟨aggregatesNodup, edgeNames_nodup parent _, ?_⟩, ?_⟩, ?_⟩
  · apply disjoint_of_domains
    intro name member other among
    rw [aggregates name member, edges other among]
    decide
  · apply disjoint_of_domains
    intro name member other among
    rw [dispositions name member]
    rcases List.mem_append.mp among with inside | inside
    · rw [aggregates other inside]
      decide
    · rw [edges other inside]
      decide
  · apply disjoint_of_domains
    intro name member other among same
    have domain := subjects name member
    rw [same] at domain
    rcases List.mem_append.mp among with inside | inside
    · rw [dispositions other inside] at domain
      exact absurd domain (by decide)
    · rcases List.mem_append.mp inside with inside | inside
      · rw [aggregates other inside] at domain
        exact absurd domain (by decide)
      · rw [edges other inside] at domain
        exact absurd domain (by decide)

end Prepared

end Coverage

end Chiplog.AgentLoop
