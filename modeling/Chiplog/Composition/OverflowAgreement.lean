import Chiplog.AgentLoop.IntervalMaterialization
import Chiplog.AgentLoop.ManifestAgreement
import Chiplog.AgentLoop.SchedulerPreparation
import Chiplog.AgentLoop.SchedulerStreaming
import Chiplog.Composition.SchedulerRecords

namespace Chiplog.Composition

open Chiplog.Data Chiplog.Effects Chiplog.AgentLoop

/-! Occurrences as a set of instants.

Both enumerations work on indices between two ceiling divisions.  They list the instants
`start + index * period` of the window that were not disposed of, in order. -/

section Enumeration

variable [Hashlib]

/-- A disposed occurrence names an instant of the definition, and its index. -/
theorem disposedIndex_ok {definition : FixedIntervalDefinition} {schedule : ScheduleDefinitionHead}
    {row : DisposedOccurrence} {index : Nat}
    (accepted : disposedIndex definition schedule row = .ok index) :
    row.dueCoordinate = coordinate (definition.startNs + index * definition.periodNs) := by
  simp only [disposedIndex, bind_ok, raiseIf_ok, pure_ok, not_or, not_not] at accepted
  obtain ⟨due, valued, identity, _, _, ⟨later, whole, _, _⟩, rfl⟩ := accepted
  rw [coordinateValue_ok.mp valued]
  -- The offset is a whole number of periods, and not negative.
  have positive : (0 : Int) < definition.periodNs := by exact_mod_cast definition.periodNs.pos
  have quotient : 0 ≤ ((due : Int) - definition.startNs) / definition.periodNs :=
    Int.ediv_nonneg (Int.not_lt.mp later) positive.le
  have product := Int.ediv_mul_cancel (Int.dvd_of_emod_eq_zero whole)
  congr 1
  apply Int.ofNat_inj.mp
  rw [Int.natCast_add, Int.natCast_mul, Int.toNat_of_nonneg quotient, product]
  omega

variable {snapshot : ConfigurationSnapshot} {boundary : SchedulerEligibilityBoundary}
  {disposed : List DisposedOccurrence} {plan : DefinitionEnumeration} {start cutoff : Nat}

/-- What an accepted enumeration computed from its inputs. -/
structure Enumerated (snapshot : ConfigurationSnapshot) (boundary : SchedulerEligibilityBoundary)
    (disposed : List DisposedOccurrence) (plan : DefinitionEnumeration) (start cutoff : Nat) :
    Prop where
  planned : plan.Planned boundary start cutoff
  definition : ∃ current, snapshot.current = .ok current ∧
    plan.definition = current.schedule.revised
  first : plan.firstIndex = firstIndex plan.definition.startNs plan.definition.periodNs start
  last : plan.endIndex = lastIndex plan.definition.startNs plan.definition.periodNs start
    (plan.definition.endExclusiveNs.clamp cutoff)
  excluded : ∀ index ∈ indexRange plan.firstIndex plan.endIndex,
    index ∈ plan.excludedIndices ↔ ∃ row ∈ disposed, row.dueCoordinate = coordinate (plan.due index)

theorem definitionEnumeration_enumerated
    (accepted : definitionEnumeration snapshot boundary disposed = .ok plan) :
    ∃ start cutoff, Enumerated snapshot boundary disposed plan start cutoff := by
  obtain ⟨_, start, cutoff, planned⟩ := definitionEnumeration_ok accepted
  refine ⟨start, cutoff, ?_⟩
  simp only [definitionEnumeration, bind_ok, raiseIf_ok, pure_ok] at accepted
  obtain ⟨current, found, _, _, _, _, previous, starts, limit, cuts, _, _, indices, mapped, _, _,
    rfl⟩ := accepted
  obtain rfl : start = previous :=
    coordinate_injective (planned.previous.symm.trans (coordinateValue_ok.mp starts))
  obtain rfl : cutoff = limit :=
    coordinate_injective (planned.limit.symm.trans (coordinateValue_ok.mp cuts))
  refine ⟨planned, ⟨current, found, rfl⟩, rfl, rfl, ?_⟩
  intro index inside
  have bounds := (mem_indexRange (firstIndex_nonneg _ _ _)).mp inside
  simp only [List.mem_insertionSort, List.mem_filter, decide_eq_true_eq]
  constructor
  · rintro ⟨member, _⟩
    obtain ⟨row, among, indexed⟩ := mem_of_mapM_ok mapped member
    exact ⟨row, among, disposedIndex_ok indexed⟩
  · rintro ⟨row, among, named⟩
    obtain ⟨other, member, indexed⟩ := result_of_mapM_ok mapped among
    have same := coordinate_injective (named.symm.trans (disposedIndex_ok indexed))
    have equal : index = other :=
      Nat.eq_of_mul_eq_mul_right current.schedule.revised.periodNs.pos (Nat.add_left_cancel same)
    rw [equal]
    exact ⟨member, equal ▸ bounds⟩

/-- The instants that a plan lists. -/
def plannedDues (plan : DefinitionEnumeration) : List Nat :=
  plan.indices.map plan.due

namespace Enumerated

omit [Hashlib] in
theorem ascending (enumerated : Enumerated snapshot boundary disposed plan start cutoff) :
    (plannedDues plan).Pairwise (· < ·) :=
  terms_ascending plan.definition.startNs plan.definition.periodNs enumerated.planned.ascending

omit [Hashlib] in
/-- A plan lists the instants of its definition inside the clamped window, less the disposed. -/
theorem mem_dues (enumerated : Enumerated snapshot boundary disposed plan start cutoff) {due : Nat} :
    due ∈ plannedDues plan ↔
      (∃ index : Nat, due = plan.definition.startNs + index * plan.definition.periodNs) ∧
        start ≤ due ∧ (due : Int) < plan.definition.endExclusiveNs.clamp cutoff ∧
        coordinate due ∉ disposed.map (·.dueCoordinate) := by
  have inside (index : Nat) : index ∈ indexRange plan.firstIndex plan.endIndex ↔
      start ≤ plan.due index ∧
        (plan.due index : Int) < plan.definition.endExclusiveNs.clamp cutoff := by
    rw [enumerated.first, enumerated.last, mem_window, DefinitionEnumeration.due, Int.ofNat_le]
  have dropped (index : Nat) (within : index ∈ indexRange plan.firstIndex plan.endIndex) :
      index ∈ plan.excludedIndices ↔ coordinate (plan.due index) ∈ disposed.map (·.dueCoordinate) := by
    rw [enumerated.excluded index within, List.mem_map]
  rw [plannedDues, List.mem_map]
  constructor
  · rintro ⟨index, member, same⟩
    obtain ⟨within, kept⟩ := enumerated.planned.mem_indices member
    rw [dropped index within, same] at kept
    have bounds := (inside index).mp within
    rw [same] at bounds
    exact ⟨⟨index, same.symm⟩, bounds.1, bounds.2, kept⟩
  · rintro ⟨⟨index, same⟩, begins, before, kept⟩
    have named : plan.due index = due := same.symm
    have within : index ∈ indexRange plan.firstIndex plan.endIndex := by
      rw [inside, named]
      exact ⟨begins, before⟩
    refine ⟨index, ?_, named⟩
    rw [enumerated.planned.indices_eq, List.mem_filter, decide_eq_true_eq, dropped index within,
      named]
    exact ⟨within, kept⟩

omit [Hashlib] in
theorem count (enumerated : Enumerated snapshot boundary disposed plan start cutoff) :
    plan.eligibleCount = (plannedDues plan).length := by
  rw [← enumerated.planned.count, plannedDues, List.length_map]

theorem members (enumerated : Enumerated snapshot boundary disposed plan start cutoff) :
    definitionMembers plan =
      .ok ((plannedDues plan).map (occurrenceAt boundary.scheduleDefinitionHead)) := by
  rw [definitionMembers_ok, plannedDues, List.map_map,
    ← enumerated.planned.bounded]
  rfl

end Enumerated

variable {config : Configuration}

/-! ### The native enumeration -/

/-- `prepare_members` hands the occurrences of its window to `eligible_manifest`. -/
theorem prepareMembers_eq (previous : boundary.previousDueBoundary = coordinate start)
    (limit : boundary.cutoffDueCoordinate = coordinate cutoff) :
    prepareMembers config boundary = scheduling (eligibleManifest boundary
      ((config.draft.dueWithin start cutoff).map (occurrenceAt config.schedule))) := by
  simp only [prepareMembers, previous, limit, coordinateInt_coordinate, ok_bind,
    mapM_eq_ok (preparedMember_eq config)]
  rw [NativeScheduleDraft.dueWithin, windowTerms, List.map_map]
  rfl

/-- A native configuration and boundary over the window and the instants of a definition.  The
heads differ, since either side names its records under its own domain; `eligible_manifest`
reads the identity and the revision of the schedule only. -/
structure Native (config : Configuration) (native boundary : SchedulerEligibilityBoundary)
    (definition : FixedIntervalDefinition) : Prop where
  scheduleId : native.scheduleDefinitionHead.scheduleId = config.schedule.scheduleId
  scheduleRevision :
    native.scheduleDefinitionHead.scheduleRevision = config.schedule.scheduleRevision
  previous : native.previousDueBoundary = boundary.previousDueBoundary
  limit : native.cutoffDueCoordinate = boundary.cutoffDueCoordinate
  version : native.canonicalizationVersion = boundary.canonicalizationVersion
  start : config.draft.startNs.toNat = definition.startNs
  period : config.draft.periodNs = definition.periodNs

/-- Nothing is disposed of and the window closes before the definition ends. -/
structure Unclamped (disposed : List DisposedOccurrence) (definition : FixedIntervalDefinition)
    (cutoff : Nat) : Prop where
  undisposed : disposed = []
  within : ∀ value, definition.endExclusiveNs = .instant value → (cutoff : Int) ≤ value

omit [Hashlib] in
theorem Unclamped.clamp {definition : FixedIntervalDefinition}
    (unclamped : Unclamped disposed definition cutoff) :
    definition.endExclusiveNs.clamp cutoff = cutoff := by
  cases limit : definition.endExclusiveNs with
  | instant value => exact min_eq_left (unclamped.within value limit)
  | noEnd => rfl

omit [Hashlib] in
theorem Enumerated.dueWithin (enumerated : Enumerated snapshot boundary disposed plan start cutoff)
    {manifested : SchedulerEligibilityBoundary}
    (native : Native config manifested boundary plan.definition)
    (unclamped : Unclamped disposed plan.definition cutoff) :
    config.draft.dueWithin start cutoff = plannedDues plan := by
  refine List.Pairwise.eq_of_mem_iff (windowTerms_ascending _ _ _ _) enumerated.ascending ?_
  intro due
  rw [NativeScheduleDraft.dueWithin, mem_windowTerms, enumerated.mem_dues, unclamped.clamp,
    unclamped.undisposed, native.start, native.period, Int.ofNat_le]
  simp only [List.map_nil, List.not_mem_nil, not_false_eq_true, and_true]
  exact ⟨fun ⟨begins, before, index⟩ => ⟨index, begins, before⟩,
    fun ⟨index, begins, before⟩ => ⟨begins, before, index⟩⟩

omit [Hashlib] in
theorem Enumerated.within (enumerated : Enumerated snapshot boundary disposed plan start cutoff)
    {due : Nat} (member : due ∈ plannedDues plan) : start ≤ due ∧ due < cutoff := by
  obtain ⟨index, among, same⟩ := List.mem_map.mp member
  rw [← same]
  exact enumerated.planned.window index (enumerated.planned.mem_indices among).1

theorem Enumerated.eligible (enumerated : Enumerated snapshot boundary disposed plan start cutoff) :
    eligibleManifest boundary ((plannedDues plan).map (occurrenceAt boundary.scheduleDefinitionHead)) =
      let members := (plannedDues plan).map (occurrenceAt boundary.scheduleDefinitionHead)
      if (members.map UndisposedOccurrence.occurrenceId).Nodup then
        .ok ⟨members, manifestFingerprint boundary members⟩
      else .error ⟨"duplicate authoritative occurrence"⟩ :=
  eligibleManifest_window enumerated.planned.version enumerated.planned.previous
    enumerated.planned.limit enumerated.planned.forward enumerated.ascending
    (fun _ => enumerated.within)

/-- An occurrence carries the identity and the revision of its schedule, not its head. -/
theorem occurrenceAt_schedule {left right : ScheduleDefinitionHead}
    (sameId : left.scheduleId = right.scheduleId)
    (sameRevision : left.scheduleRevision = right.scheduleRevision) :
    occurrenceAt left = occurrenceAt right := by
  funext due
  simp only [occurrenceAt, sameId, sameRevision]

/-- What `eligible_manifest` makes of the planned instants under a native boundary. -/
theorem Native.eligible {native : SchedulerEligibilityBoundary}
    (same : Native config native boundary plan.definition)
    (enumerated : Enumerated snapshot boundary disposed plan start cutoff) :
    eligibleManifest native ((plannedDues plan).map (occurrenceAt config.schedule)) =
      let members := (plannedDues plan).map (occurrenceAt config.schedule)
      if (members.map UndisposedOccurrence.occurrenceId).Nodup then
        .ok ⟨members, manifestFingerprint native members⟩
      else .error ⟨"duplicate authoritative occurrence"⟩ := by
  have planned := enumerated.planned
  rw [← occurrenceAt_schedule same.scheduleId same.scheduleRevision]
  exact eligibleManifest_window (same.version ▸ planned.version)
    (same.previous.trans planned.previous) (same.limit.trans planned.limit) planned.forward
    enumerated.ascending (fun _ => enumerated.within)

/-- The members of an accepted enumeration are exactly the undisposed occurrences of its window,
in order and in the number it counted.  The native enumeration of the same window hands the same
coordinates to `eligible_manifest`, which keeps all of them. -/
theorem occurrence_arithmetic
    (accepted : definitionEnumeration snapshot boundary disposed = .ok plan) :
    ∃ (start cutoff : Nat) (dues : List Nat),
      (∃ current, snapshot.current = .ok current ∧
        plan.definition = current.schedule.revised) ∧
      boundary.previousDueBoundary = coordinate start ∧
      boundary.cutoffDueCoordinate = coordinate cutoff ∧
      definitionMembers plan = .ok (dues.map (occurrenceAt boundary.scheduleDefinitionHead)) ∧
      dues.Pairwise (· < ·) ∧
      (∀ due, due ∈ dues ↔
        (∃ index : Nat, due = plan.definition.startNs + index * plan.definition.periodNs) ∧
          start ≤ due ∧ (due : Int) < plan.definition.endExclusiveNs.clamp cutoff ∧
          coordinate due ∉ disposed.map (·.dueCoordinate)) ∧
      plan.eligibleCount = dues.length ∧
      ∀ config native, Native config native boundary plan.definition →
        Unclamped disposed plan.definition cutoff →
        let handed := dues.map (occurrenceAt config.schedule)
        prepareMembers config native = scheduling (eligibleManifest native handed) ∧
          (∀ manifest, prepareMembers config native = .ok manifest →
            manifest.members = handed ∧
              manifest.members.map (·.dueCoordinate) = dues.map coordinate) ∧
          ((∃ manifest, prepareMembers config native = .ok manifest) ∨
            Json.CollisionAmong (dues.map (occurrenceText config.schedule))) := by
  obtain ⟨start, cutoff, enumerated⟩ := definitionEnumeration_enumerated accepted
  refine ⟨start, cutoff, plannedDues plan, enumerated.definition, enumerated.planned.previous,
    enumerated.planned.limit, enumerated.members, enumerated.ascending,
    fun due => enumerated.mem_dues, enumerated.count, ?_⟩
  intro config native same unclamped
  have kept := same.eligible enumerated
  have handed : prepareMembers config native = scheduling (eligibleManifest native
      ((plannedDues plan).map (occurrenceAt config.schedule))) := by
    rw [prepareMembers_eq (same.previous.trans enumerated.planned.previous)
      (same.limit.trans enumerated.planned.limit), enumerated.dueWithin same unclamped]
  refine ⟨handed, ?_, ?_⟩
  · intro manifest prepared
    rw [handed, scheduling_ok, kept] at prepared
    simp only [] at prepared
    split at prepared
    · rw [← Except.ok.inj prepared]
      exact ⟨rfl, List.map_map⟩
    · cases prepared
  · rcases occurrenceIds_nodup config.schedule enumerated.ascending with distinct | collision
    · simp only [if_pos distinct] at kept
      exact .inl ⟨_, handed.trans (scheduling_ok.mpr kept)⟩
    · exact .inr collision

end Enumeration

/-- The native schedule of the same instants, until the last nanosecond that it can name. -/
def everyTenDraft : NativeScheduleDraft :=
  { actId := ⟨"act", written _ trivial⟩
    scheduleId := ⟨"schedule", written _ trivial⟩
    startNs := 0
    periodNs := ⟨10, ten_pos⟩
    endExclusiveNs := 0xffffffffffffffff
    prompt := ⟨"prompt", written _ trivial⟩
    budget := everyTen.runInputs.policy
    missedPolicy := .coalesce
    bound := ⟨⟨8, eight_pos⟩, ⟨65536, pageBytes_pos⟩, ⟨65536, pageBytes_pos⟩⟩ }

section EveryTen

attribute [local instance] Sha256.hashlib

def everyTenEndpoint : DeliveryHead :=
  ⟨⟨"endpoint", written _ trivial⟩, ⟨"endpoint", written _ trivial⟩, sha256 []⟩

def everyTenNative : Configuration :=
  configuration "tenant" ⟨"principal", written _ trivial⟩ everyTenDraft
    { ingressBinding := everyTenEndpoint
      recipient :=
        { providerId := ⟨"LOCAL_CLI", written _ trivial⟩
          accountId := ⟨"account", written _ trivial⟩
          recipientId := ⟨"recipient", written _ trivial⟩
          endpoint := everyTenEndpoint
          canonicalAddress := [0]
          credentialBinding := everyTenEndpoint } } ⟨10, ten_pos⟩

/-- The boundary that the native runtime builds over the same window. -/
def everyTenNativeBoundary : SchedulerEligibilityBoundary :=
  { everyTenBoundary 15 with
    scheduleDefinitionHead := everyTenNative.schedule
    missedOccurrencePolicyHead := everyTenNative.policy }

/-- Both sides name the same two instants under heads of their own, and neither lists the
third. -/
theorem occurrence_arithmetic_sample :
    ∃ dues : List Nat,
      definitionMembers ⟨everyTen, everyTenBoundary 15, 0, 2, [], 2⟩ =
        .ok (dues.map (occurrenceAt (everyTenBoundary 15).scheduleDefinitionHead)) ∧
      (0 ∈ dues ∧ 10 ∈ dues ∧ 20 ∉ dues) ∧
      (∀ manifest, prepareMembers everyTenNative everyTenNativeBoundary = .ok manifest →
        manifest.members.map (·.dueCoordinate) = dues.map coordinate) ∧
      ((∃ manifest, prepareMembers everyTenNative everyTenNativeBoundary = .ok manifest) ∨
        Json.CollisionAmong (dues.map (occurrenceText everyTenNative.schedule))) := by
  obtain ⟨start, cutoff, dues, _, previous, limit, members, _, listed, _, prepared⟩ :=
    occurrence_arithmetic everyTen_enumeration
  have begins : start = 0 := coordinate_injective previous.symm
  have closes : cutoff = 15 := coordinate_injective limit.symm
  rw [begins, closes] at listed
  have term (index : Nat) :
      ∃ other : Nat, index * 10 = everyTen.startNs + other * everyTen.periodNs :=
    ⟨index, (Nat.zero_add _).symm⟩
  have native : Native everyTenNative everyTenNativeBoundary (everyTenBoundary 15) everyTen :=
    ⟨rfl, rfl, rfl, rfl, rfl, rfl, rfl⟩
  have unclamped : Unclamped [] everyTen cutoff := by
    refine ⟨rfl, ?_⟩
    intro value ends
    cases ends
  obtain ⟨_, kept, returns⟩ := prepared _ _ native unclamped
  refine ⟨dues, members, ⟨?_, ?_, ?_⟩, fun manifest found => (kept manifest found).2, returns⟩
  · exact (listed 0).mpr ⟨term 0, Nat.zero_le _, by decide, List.not_mem_nil⟩
  · exact (listed 10).mpr ⟨term 1, Nat.zero_le _, by decide, List.not_mem_nil⟩
  · intro late
    exact absurd ((listed 20).mp late).2.2.1 (by decide)

end EveryTen

end Chiplog.Composition

namespace Chiplog.Composition

open Chiplog.Data Chiplog.Effects Chiplog.AgentLoop

/-! One hold from two overflow paths.

The request path measures a stream and the interval path a full manifest.  Both hold the same
dimension of the same evidence, and inside the bound the request is the interval. -/

section Overflow

variable [Hashlib] {bound : SchedulerIntervalBound} {manifest : SchedulerEligibilityManifest}

/-- What both paths measure against the registered bound. -/
def Exceeds (manifest : SchedulerEligibilityManifest) (bound : SchedulerIntervalBound) : Prop :=
  manifest.members.length > bound.maxMemberCount ∨
    (recoveryBytes manifest).length > bound.maxManifestBytes

instance (manifest : SchedulerEligibilityManifest) (bound : SchedulerIntervalBound) :
    Decidable (Exceeds manifest bound) := inferInstanceAs (Decidable (_ ∨ _))

/-- The number of members is checked first. -/
def firstOverflow (manifest : SchedulerEligibilityManifest) (bound : SchedulerIntervalBound) :
    EligibilityOverflow :=
  if manifest.members.length > bound.maxMemberCount then
    ⟨.memberCount, manifest.members.length, bound.maxMemberCount⟩
  else ⟨.manifestBytes, (recoveryBytes manifest).length, bound.maxManifestBytes⟩

omit [Hashlib] in
theorem eligibilityOverflows_exceeds (exceeds : Exceeds manifest bound) :
    ∃ rest, eligibilityOverflows manifest bound = firstOverflow manifest bound :: rest := by
  by_cases many : manifest.members.length > bound.maxMemberCount
  · exact ⟨_, by rw [eligibilityOverflows, firstOverflow, if_pos many, if_pos many]; rfl⟩
  · have large := exceeds.resolve_left many
    exact ⟨[], by rw [eligibilityOverflows, firstOverflow, if_neg many, if_neg many, if_pos large];
                  rfl⟩

omit [Hashlib] in
theorem eligibilityOverflows_within (within : ¬ Exceeds manifest bound) :
    eligibilityOverflows manifest bound = [] := by
  rw [Exceeds, not_or] at within
  rw [eligibilityOverflows, if_neg within.1, if_neg within.2]
  rfl

/-- A streamed evidence is under the registered order contract and the supplied proof. -/
theorem streamDefinition_contract {snapshot : ConfigurationSnapshot}
    {boundary : SchedulerEligibilityBoundary} {disposed : List DisposedOccurrence}
    {enumerationProof : PresentHead} {result : StreamedEligibility}
    (streamed : streamDefinition snapshot boundary disposed enumerationProof = .ok result)
    {evidence : StreamingEligibilityEvidence} (found : result.evidence = .streaming evidence) :
    evidence.orderContractVersion = ⟨"chiplog.scheduler.numeric-due.v1", by decide⟩ ∧
      evidence.enumerationCompletenessProof = enumerationProof := by
  simp only [streamDefinition, bind_ok, raiseIf_ok, pure_ok] at streamed
  obtain ⟨_, _, _, _, _, _, stream, _, _, _, made, evident, rfl⟩ := streamed
  dsimp only at found
  rw [found, streamedEvidence] at evident
  split at evident
  · simp only [bind_ok, pure_ok] at evident
    obtain ⟨_, _, same⟩ := evident
    cases same
  · rw [pure_ok] at evident
    cases evident
    exact ⟨rfl, rfl⟩

/-- The evidence of a stream is the one that the full manifest calls for. -/
theorem streamed_evidence {snapshot : ConfigurationSnapshot}
    {boundary : SchedulerEligibilityBoundary} {disposed : List DisposedOccurrence}
    {enumerationProof : PresentHead} {result : StreamedEligibility}
    (streamed : streamDefinition snapshot boundary disposed enumerationProof = .ok result)
    (agrees : result.Agrees bound.maxManifestBytes manifest) :
    result.evidence = overflowEvidence manifest bound enumerationProof := by
  rw [overflowEvidence, ← agrees.manifestBytes]
  by_cases fits : result.manifestBytes ≤ bound.maxManifestBytes
  · rw [if_pos fits, agrees.full.mpr fits]
  · obtain ⟨evidence, found, first, last, count, digest⟩ := agrees.streaming fits
    obtain ⟨contract, proved⟩ := streamDefinition_contract streamed found
    have ends (member : Option UndisposedOccurrence) : endReference member = endMarker member := by
      cases member <;> rfl
    rw [if_neg fits, found, ends, ends, ← first, ← last, ← count, ← digest, ← contract, ← proved]

omit [Hashlib] in
theorem current_bound {snapshot : ConfigurationSnapshot} {current : CurrentConfiguration}
    (found : snapshot.current = .ok current) : snapshot.bound = some current.bound := by
  rw [ConfigurationSnapshot.current] at found
  split at found
  · rename_i schedule policy bound _ _ configured
    simp only [bind_ok, pure_ok] at found
    obtain ⟨_, _, same⟩ := found
    rw [configured, ← same]
  · cases found

/-! ### The two paths -/

/-- The command with the full manifest in place of what was submitted. -/
def fullCommand (command : DecideIntervalCommand) (manifest : SchedulerEligibilityManifest) :
    DecideIntervalCommand :=
  { command with manifest := .full manifest }

/-- A manifest that both paths are about, under the current bound and without an active hold. -/
structure Admitted (command : DecideIntervalCommand) (bound : SchedulerIntervalBoundHead)
    (hold : Option SchedulerOverflowHold) (source : List UndisposedOccurrence)
    (manifest : SchedulerEligibilityManifest) : Prop where
  inactive : ¬ hold.any (·.isActive) = true
  current : command.boundHead = bound
  accepted : eligibleManifest command.boundary source = .ok manifest

/-- The hold of a manifest that exceeds the bound. -/
def manifestHold (command : DecideIntervalCommand) (bound : SchedulerIntervalBoundHead)
    (manifest : SchedulerEligibilityManifest) (enumerationProof : PresentHead)
    (inputs : SchedulerRunInputs) : IntervalCandidate :=
  let exceeded := firstOverflow manifest bound.bound
  overflowCandidate command bound (overflowEvidence manifest bound.bound enumerationProof)
    exceeded.dimension exceeded.actual exceeded.limit inputs.principal

/-- What becomes of a compiled batch: itself, or the hold of its bytes. -/
def batchCandidate (command : DecideIntervalCommand) (bound : SchedulerIntervalBoundHead)
    (manifest : SchedulerEligibilityManifest) (enumerationProof : PresentHead)
    (inputs : SchedulerRunInputs) (compiled : IntervalCandidate) : IntervalCandidate :=
  if compiled.serializedBatchBytes ≤ bound.bound.maxSerializedBatchBytes then compiled
  else overflowCandidate command bound (overflowEvidence manifest bound.bound enumerationProof)
    .serializedBatchBytes compiled.serializedBatchBytes bound.bound.maxSerializedBatchBytes
    inputs.principal

section Paths

variable [Pydantic] {command : DecideIntervalCommand} {bound : SchedulerIntervalBoundHead}
  {hold : Option SchedulerOverflowHold} {source : List UndisposedOccurrence}
  {manifest : SchedulerEligibilityManifest}

theorem prepareInterval_admitted (admitted : Admitted command bound hold source manifest)
    (inputs : SchedulerRunInputs) (enumerationProof : PresentHead) :
    AgentLoop.prepareInterval (fullCommand command manifest) bound source inputs enumerationProof hold =
      if Exceeds manifest bound.bound then
        .ok (manifestHold command bound manifest enumerationProof inputs)
      else (compileInterval (ordinaryParent command bound manifest inputs) source).map
        (batchCandidate command bound manifest enumerationProof inputs) := by
  have accepted : verifyManifest command.boundary manifest source = .ok manifest :=
    verifyManifest_ok.mpr ⟨admitted.accepted, rfl⟩
  have current : ¬ (fullCommand command manifest).boundHead ≠ bound := not_not.mpr admitted.current
  have parent : ordinaryParent (fullCommand command manifest) bound manifest inputs =
      ordinaryParent command bound manifest inputs := rfl
  have boundary : (fullCommand command manifest).boundary = command.boundary := rfl
  have submitted : (fullCommand command manifest).manifest = .full manifest := rfl
  rw [AgentLoop.prepareInterval, submitted]
  dsimp only
  rw [raiseIf_neg admitted.inactive, ok_bind, raiseIf_neg current, ok_bind, boundary, accepted,
    show ofDomain (.ok manifest) = .ok manifest from rfl, ok_bind]
  by_cases exceeds : Exceeds manifest bound.bound
  · obtain ⟨rest, overflows⟩ := eligibilityOverflows_exceeds exceeds
    rw [if_pos exceeds]
    rw [overflows]
    rfl
  · rw [if_neg exceeds]
    rw [eligibilityOverflows_within exceeds]
    dsimp only
    rw [parent]
    cases compileInterval (ordinaryParent command bound manifest inputs) source with
    | error reason => rfl
    | ok compiled =>
        rw [ok_bind, Except.map, batchCandidate]
        split <;> rfl

omit [Pydantic] in
theorem prepareStreamedOverflow_exceeds (current : command.boundHead = bound)
    {measured : StreamedEligibility} (agrees : measured.Agrees bound.bound.maxManifestBytes manifest)
    {enumerationProof : PresentHead}
    (evidence : measured.evidence = overflowEvidence manifest bound.bound enumerationProof)
    (exceeds : Exceeds manifest bound.bound) (inputs : SchedulerRunInputs) :
    prepareStreamedOverflow command bound measured.evidence measured.memberCount
        measured.manifestBytes inputs.principal =
      .ok (manifestHold command bound manifest enumerationProof inputs) := by
  have form : ¬ decide ((recoveryBytes manifest).length ≤ bound.bound.maxManifestBytes) ≠
      (overflowEvidence manifest bound.bound enumerationProof).isFull := by
    rw [not_not, overflowEvidence]
    by_cases fits : (recoveryBytes manifest).length ≤ bound.bound.maxManifestBytes
    · rw [if_pos fits, decide_eq_true fits]
      rfl
    · rw [if_neg fits, decide_eq_false fits]
      rfl
  rw [prepareStreamedOverflow, raiseIf_neg (not_not.mpr current), ok_bind, evidence,
    agrees.memberCount, agrees.manifestBytes]
  by_cases many : manifest.members.length > bound.bound.maxMemberCount
  · rw [if_pos many, ok_bind]
    dsimp only
    rw [raiseIf_neg form, manifestHold, firstOverflow, if_pos many]
    rfl
  · rw [if_neg many, if_pos (exceeds.resolve_left many), ok_bind]
    dsimp only
    rw [raiseIf_neg form, manifestHold, firstOverflow, if_neg many]
    rfl

/-- Inside the bound the request prepares the interval, and outside it the same hold. -/
theorem measuredCandidate_admitted {request : IntervalPreparationRequest}
    (admitted : Admitted command bound request.snapshot.activeHold manifest.members manifest)
    {measured : StreamedEligibility} (agrees : measured.Agrees bound.bound.maxManifestBytes manifest)
    (evidence : measured.evidence =
      overflowEvidence manifest bound.bound request.snapshot.enumerationProof)
    (submitted : command.manifest = expectedSubmission measured.evidence)
    (inputs : SchedulerRunInputs) :
    measuredCandidate request (.decide command) bound measured inputs =
      AgentLoop.prepareInterval (fullCommand command manifest) bound manifest.members inputs
        request.snapshot.enumerationProof request.snapshot.activeHold := by
  have measures : (measured.memberCount > bound.bound.maxMemberCount ∨
      measured.manifestBytes > bound.bound.maxManifestBytes) = Exceeds manifest bound.bound := by
    rw [agrees.memberCount, agrees.manifestBytes]
    rfl
  rw [measuredCandidate]
  by_cases exceeds : Exceeds manifest bound.bound
  · rw [if_pos (measures ▸ exceeds), prepareInterval_admitted admitted, if_pos exceeds, heldCandidate,
      prepareStreamedOverflow_exceeds admitted.current agrees evidence exceeds]
    rfl
  · have fits : (recoveryBytes manifest).length ≤ bound.bound.maxManifestBytes :=
      Nat.le_of_not_gt (fun large => exceeds (.inr large))
    have full : measured.evidence = .full manifest := by rw [evidence, overflowEvidence, if_pos fits]
    have same : fullCommand command manifest = command := by
      rw [fullCommand]
      rw [full] at submitted
      cases command
      cases submitted
      rfl
    rw [if_neg (measures ▸ exceeds), full, same]
    rfl

end Paths

omit [Hashlib] in
theorem intervalGuards_decide {request : IntervalPreparationRequest}
    {command : DecideIntervalCommand} {inputs : SchedulerRunInputs}
    {bound : SchedulerIntervalBoundHead}
    (guarded : intervalGuards request (.decide command) = .ok (inputs, bound)) :
    request.snapshot.configuration.bound = some bound ∧
      ¬ request.snapshot.activeHold.any (·.isActive) = true ∧ command.boundHead = bound := by
  simp only [intervalGuards, bind_ok, raiseIf_ok] at guarded
  obtain ⟨_, _, _, _, _, _, rest⟩ := guarded
  split at rest
  · rename_i schedule current found configured
    simp only [bind_ok, raiseIf_ok, pure_ok, holdGuard, not_not] at rest
    obtain ⟨_, _, _, _, _, inactive, _, observed, same⟩ := rest
    obtain ⟨_, isBound⟩ := Prod.mk.inj same
    rw [isBound] at configured observed
    exact ⟨configured, inactive, observed⟩
  · cases rest

/-- What a request over an enumerated manifest prepares, beside the interval of the full manifest. -/
structure PathsAgree [Pydantic] [CommandJson] (request : IntervalPreparationRequest)
    (command : DecideIntervalCommand) (inputs : SchedulerRunInputs)
    (bound : SchedulerIntervalBoundHead) (manifest : SchedulerEligibilityManifest) : Prop where
  /-- Submitted in the form of the registered bound, the request prepares the interval. -/
  same : command.manifest = expectedSubmission
      (overflowEvidence manifest bound.bound request.snapshot.enumerationProof) →
    prepareIntervalRequest request =
      ((AgentLoop.prepareInterval (fullCommand command manifest) bound manifest.members inputs
          request.snapshot.enumerationProof request.snapshot.activeHold).mapError
            .materialization).map
        (fun candidate => preparedBatch request candidate candidate.records)
  refused : command.manifest ≠ expectedSubmission
      (overflowEvidence manifest bound.bound request.snapshot.enumerationProof) →
    prepareIntervalRequest request = .error (.materialization (.domain
      ⟨"submitted membership differs from complete definition enumeration"⟩))
  held : Exceeds manifest bound.bound →
    AgentLoop.prepareInterval (fullCommand command manifest) bound manifest.members inputs
        request.snapshot.enumerationProof request.snapshot.activeHold =
      .ok (manifestHold command bound manifest request.snapshot.enumerationProof inputs)
  /-- In the remaining cases the batch is compiled, and held only for its own bytes. -/
  compiled : ¬ Exceeds manifest bound.bound →
    Json.CollisionAmong (materializationTexts (ordinaryParent command bound manifest inputs)) ∨
      ∃ batch decision commitment,
        compileInterval (ordinaryParent command bound manifest inputs) manifest.members =
          .ok batch ∧
        batch.result = .decided decision commitment ∧
        AgentLoop.prepareInterval (fullCommand command manifest) bound manifest.members inputs
            request.snapshot.enumerationProof request.snapshot.activeHold =
          .ok (batchCandidate command bound manifest request.snapshot.enumerationProof inputs batch)

section Agreement

variable [Pydantic] [CommandJson] {request : IntervalPreparationRequest}
  {command : DecideIntervalCommand} {inputs : SchedulerRunInputs}
  {bound : SchedulerIntervalBoundHead} {manifest : SchedulerEligibilityManifest}

theorem prepareIntervalRequest_measured
    (cut : verifyCut request.context request.commandBytes.items request.snapshot.cut = .ok ())
    (read : readCommand request = some (.decide command))
    (guarded : intervalGuards request (.decide command) = .ok (inputs, bound))
    {measured : StreamedEligibility}
    (streamed : streamDefinition request.snapshot.configuration command.boundary
      request.snapshot.disposed request.snapshot.enumerationProof = .ok measured) :
    prepareIntervalRequest request =
      if command.manifest ≠ expectedSubmission measured.evidence then
        .error (.materialization (.domain
          ⟨"submitted membership differs from complete definition enumeration"⟩))
      else
        ((measuredCandidate request (.decide command) bound measured inputs).mapError
          .materialization).map
            (fun candidate => preparedBatch request candidate candidate.records) := by
  have submitted : (IntervalCommand.decide command).submitted = command.manifest := rfl
  have boundary : (IntervalCommand.decide command).boundary = command.boundary := rfl
  rw [prepareIntervalRequest]
  dsimp only
  rw [cut, read]
  dsimp only
  rw [guarded, boundary, streamed, submitted]
  by_cases differs : command.manifest ≠ expectedSubmission measured.evidence
  · rw [if_pos differs]
    change (raiseIf _ _ >>= _) = _
    rw [raiseIf_pos differs]
    rfl
  · rw [if_neg differs]
    change (raiseIf _ _ >>= _) = _
    rw [raiseIf_neg differs, ok_bind]
    cases (measuredCandidate request (.decide command) bound measured inputs).mapError
      PreparationError.materialization <;> rfl

/-- A request whose stream agrees with a manifest. -/
theorem pathsAgree
    (cut : verifyCut request.context request.commandBytes.items request.snapshot.cut = .ok ())
    (read : readCommand request = some (.decide command))
    (guarded : intervalGuards request (.decide command) = .ok (inputs, bound))
    {measured : StreamedEligibility}
    (streamed : streamDefinition request.snapshot.configuration command.boundary
      request.snapshot.disposed request.snapshot.enumerationProof = .ok measured)
    (agrees : measured.Agrees bound.bound.maxManifestBytes manifest)
    (eligible : eligibleManifest command.boundary manifest.members = .ok manifest) :
    PathsAgree request command inputs bound manifest := by
  obtain ⟨_, inactive, observed⟩ := intervalGuards_decide guarded
  have evidence := streamed_evidence streamed agrees
  have admitted : Admitted command bound request.snapshot.activeHold manifest.members manifest :=
    ⟨inactive, observed, eligible⟩
  have measuredRequest := prepareIntervalRequest_measured cut read guarded streamed
  rw [evidence] at measuredRequest
  constructor
  · intro submitted
    rw [measuredRequest, if_neg (not_not.mpr submitted),
      measuredCandidate_admitted admitted agrees evidence (evidence ▸ submitted)]
  · intro differs
    rw [measuredRequest, if_pos differs]
  · intro exceeds
    rw [prepareInterval_admitted admitted, if_pos exceeds]
  · intro within
    by_cases collision : Json.CollisionAmong (materializationTexts
        (ordinaryParent command bound manifest inputs))
    · exact .inl collision
    · have prepared : AgentLoop.Prepared (ordinaryParent command bound manifest inputs) manifest.members :=
        ⟨eligible, rfl, nofun⟩
      obtain ⟨batch, compiles, covers⟩ := prepared.compiles collision
      obtain ⟨decision, commitment, decided, _⟩ := covers.decided
      refine .inr ⟨batch, decision, commitment, compiles, decided, ?_⟩
      rw [prepareInterval_admitted admitted, if_neg within, compiles]
      rfl

/-- Two overflow paths, one hold. -/
theorem overflow_paths_agree {plan : DefinitionEnumeration}
    (cut : verifyCut request.context request.commandBytes.items request.snapshot.cut = .ok ())
    (read : readCommand request = some (.decide command))
    (guarded : intervalGuards request (.decide command) = .ok (inputs, bound))
    (enumerated : definitionEnumeration request.snapshot.configuration command.boundary
      request.snapshot.disposed = .ok plan) :
    Json.CollisionAmong
        ((plannedDues plan).map (occurrenceText command.boundary.scheduleDefinitionHead)) ∨
      ∃ manifest, definitionMembers plan = .ok manifest.members ∧
        eligibleManifest command.boundary manifest.members = .ok manifest ∧
        PathsAgree request command inputs bound manifest := by
  obtain ⟨configured, _, _⟩ := intervalGuards_decide guarded
  obtain ⟨_, _, listed⟩ := definitionEnumeration_enumerated enumerated
  rcases occurrenceIds_nodup command.boundary.scheduleDefinitionHead listed.ascending with
    distinct | collision
  swap
  · exact .inl collision
  have window := listed.eligible
  simp only [if_pos distinct] at window
  obtain ⟨manifest, eligible, sameMembers⟩ : ∃ manifest : SchedulerEligibilityManifest,
      eligibleManifest command.boundary ((plannedDues plan).map
        (occurrenceAt command.boundary.scheduleDefinitionHead)) = .ok manifest ∧
      (plannedDues plan).map (occurrenceAt command.boundary.scheduleDefinitionHead) =
        manifest.members := ⟨_, window, rfl⟩
  obtain ⟨current, members, measured, found, enumeratedMembers, streamed, _, agreement⟩ :=
    streamDefinition_eligibleManifest enumerated request.snapshot.enumerationProof
  have isBound : current.bound = bound := by
    have registered := current_bound found
    rw [configured] at registered
    exact (Option.some.inj registered).symm
  have listedMembers : definitionMembers plan = .ok manifest.members := by
    rw [listed.members, sameMembers]
  have same : members = manifest.members :=
    Except.ok.inj (enumeratedMembers.symm.trans listedMembers)
  rw [sameMembers] at eligible
  have agrees := agreement manifest (by rw [same, eligible])
  rw [isBound] at agrees
  exact .inr ⟨manifest, listedMembers, eligible,
    pathsAgree cut read guarded streamed agrees eligible⟩

end Agreement

/-! ### A request -/

omit [Hashlib] in
theorem recoveryBytes_ne_nil {α : Type} [Model α] (value : α) : recoveryBytes value ≠ [] := by
  intro empty
  have nothing : utf8 "" = [] := rfl
  have texts := congrArg String.toList (utf8_inj (empty.trans nothing.symm))
  have shown := Json.inOrder_obj (Json.orderedFields (modelDump value) |>.insertionSort Json.KindFirst)
  rw [Json.inOrder] at shown
  cases shown.symm.trans texts

def everyTenDecide : DecideIntervalCommand :=
  let members := [0, 10].map (occurrenceAt (everyTenBoundary 15).scheduleDefinitionHead)
  { identity := ⟨⟨"command", written _ trivial⟩, ⟨"schema", written _ trivial⟩,
      ⟨canonicalVersion, written _ trivial⟩⟩
    boundary := everyTenBoundary 15
    boundHead := everyTenCurrent.bound
    manifest := .full ⟨members, manifestFingerprint (everyTenBoundary 15) members⟩
    publicationFence :=
      { commandId := ⟨"command", written _ trivial⟩
        disposition := .firstPublication ⟨"absence", written _ trivial⟩
        schedulerAuthorityHead := ⟨"authority", written _ trivial⟩
        brokerGeneration := ⟨"broker", written _ trivial⟩
        runtimeGeneration := ⟨"runtime", written _ trivial⟩ } }

def everyTenRequest : IntervalPreparationRequest :=
  { operation := .decideInterval
    context := everyTenContext
    snapshot :=
      { cut :=
          { tenantId := ⟨"tenant", written _ trivial⟩
            tenantFrontier := 0
            materializationCommitment := sha256 []
            registryHead := ⟨"registry", written _ trivial⟩
            registryFingerprint := sha256 []
            submissionId := ⟨"submission", written _ trivial⟩
            authorizedContext := everyTenContext
            authorizedCommandFingerprint := sha256 (recoveryBytes everyTenDecide)
            authorityProof := ⟨⟨"authority", written _ trivial⟩, sha256 []⟩ }
        configuration := everyTenSnapshot
        disposed := []
        previousDueBoundary := coordinate 0
        predecessorInterval := .absent
        enumerationFrontier := ⟨"frontier", written _ trivial⟩
        enumerationProof := ⟨⟨"proof", written _ trivial⟩, sha256 []⟩
        activeHold := none
        publicationFence := everyTenDecide.publicationFence
        operatorProof := none }
    commandBytes := ⟨recoveryBytes everyTenDecide, recoveryBytes_ne_nil _⟩ }

/-- The bytes of the sample command are read as the command. -/
@[reducible] def everyTenJson : CommandJson where
  validateDecide := fun raw =>
    if raw = recoveryBytes everyTenDecide then some everyTenDecide else none
  validateResolve := fun _ => none

theorem everyTenRequest_cut : verifyCut everyTenRequest.context everyTenRequest.commandBytes.items
    everyTenRequest.snapshot.cut = .ok () := by
  rw [verifyCut, raiseIf_neg]
  intro differs
  rcases differs with differs | differs | differs <;> exact differs rfl

theorem everyTenRequest_read :
    letI := everyTenJson
    readCommand everyTenRequest = some (.decide everyTenDecide) := by
  have same : everyTenRequest.commandBytes.items = recoveryBytes everyTenDecide := rfl
  have operation : everyTenRequest.operation = .decideInterval := rfl
  have found : everyTenJson.validateDecide (recoveryBytes everyTenDecide) = some everyTenDecide :=
    if_pos rfl
  unfold readCommand
  rw [operation]
  dsimp only
  rw [same, found]
  rfl

theorem everyTenRequest_guards : intervalGuards everyTenRequest (.decide everyTenDecide) =
    .ok (everyTen.runInputs, everyTenCurrent.bound) := by
  have canonical : ¬ (IntervalCommand.decide everyTenDecide).bytes ≠
      everyTenRequest.commandBytes.items := not_not.mpr rfl
  have first : ¬ ((IntervalCommand.decide everyTenDecide).publicationFence.commandId ≠
        (IntervalCommand.decide everyTenDecide).identity.commandId ∨
      (IntervalCommand.decide everyTenDecide).publicationFence.disposition.isFirst = false) := by
    intro differs
    rcases differs with differs | differs
    · exact differs rfl
    · cases differs
  have window : ¬ ((IntervalCommand.decide everyTenDecide).boundary.previousDueBoundary ≠
        everyTenRequest.snapshot.previousDueBoundary ∨
      (IntervalCommand.decide everyTenDecide).boundary.predecessorInterval ≠
        everyTenRequest.snapshot.predecessorInterval ∨
      (IntervalCommand.decide everyTenDecide).boundary.enumerationFrontier ≠
        everyTenRequest.snapshot.enumerationFrontier ∨
      (IntervalCommand.decide everyTenDecide).publicationFence ≠
        everyTenRequest.snapshot.publicationFence) := by
    intro differs
    rcases differs with differs | differs | differs | differs <;> exact differs rfl
  have tenant : ¬ everyTen.runInputs.tenant ≠ everyTenRequest.snapshot.cut.tenantId :=
    not_not.mpr rfl
  have inventory : ¬ everyTenRequest.snapshot.configuration.activeHold ≠
      expectedHold everyTenRequest.snapshot := not_not.mpr rfl
  have observed : ¬ (IntervalCommand.decide everyTenDecide).observedBound ≠ everyTenCurrent.bound :=
    not_not.mpr rfl
  have schedule : everyTenRequest.snapshot.configuration.schedule = some everyTenCurrent.schedule :=
    rfl
  have bound : everyTenRequest.snapshot.configuration.bound = some everyTenCurrent.bound := rfl
  have revised : everyTenCurrent.schedule.revised = everyTen := rfl
  rw [intervalGuards]
  simp only [raiseIf_neg canonical, raiseIf_neg first, raiseIf_neg window, ok_bind, schedule, bound,
    revised, raiseIf_neg tenant, raiseIf_neg inventory, raiseIf_neg observed]
  rfl

theorem everyTenRequest_enumeration :
    definitionEnumeration everyTenRequest.snapshot.configuration everyTenDecide.boundary
      everyTenRequest.snapshot.disposed = .ok ⟨everyTen, everyTenDecide.boundary, 0, 2, [], 2⟩ :=
  everyTen_enumeration

end Overflow

/-- Two members under a bound of one. -/
theorem overflow_paths_agree_sample :
    letI := Sha256.hashlib
    letI := silentModel
    letI := everyTenJson
    Json.CollisionAmong ((plannedDues ⟨everyTen, everyTenDecide.boundary, 0, 2, [], 2⟩).map
        (occurrenceText everyTenDecide.boundary.scheduleDefinitionHead)) ∨
      ∃ manifest, definitionMembers ⟨everyTen, everyTenDecide.boundary, 0, 2, [], 2⟩ =
          .ok manifest.members ∧
        eligibleManifest everyTenDecide.boundary manifest.members = .ok manifest ∧
        Exceeds manifest everyTenCurrent.bound.bound ∧
        PathsAgree everyTenRequest everyTenDecide everyTen.runInputs everyTenCurrent.bound
          manifest := by
  let _ := Sha256.hashlib
  let _ := silentModel
  let _ := everyTenJson
  rcases overflow_paths_agree everyTenRequest_cut everyTenRequest_read everyTenRequest_guards
    everyTenRequest_enumeration with collision | ⟨manifest, members, eligible, agree⟩
  · exact .inl collision
  · refine .inr ⟨manifest, members, eligible, .inl ?_, agree⟩
    rw [← Except.ok.inj ((definitionMembers_ok _).symm.trans members), List.length_map]
    decide

end Chiplog.Composition
