import Chiplog.AgentLoop.SchedulerContracts
import Chiplog.Data.Checked
import Mathlib.Data.List.Sort

namespace Chiplog.AgentLoop

open Chiplog.Data Chiplog.Effects

/-! Scheduler identity and eligibility algebra.

The caller supplies the complete list of occurrences; these functions check every member,
cut the list at a half-open window and derive what the policy makes of it. -/

/-- Invalid, stale, aliased or unsupported scheduler proposal. -/
structure SchedulerDomainError where
  reason : String
deriving DecidableEq

abbrev Scheduling (α : Type) := Except SchedulerDomainError α

def coordinateVersion : String := "chiplog.scheduler.unix-ns.v1"

def canonicalVersion : String := "chiplog.scheduler.canonical.v1"

/-- The value of a decimal numeral, if the text has the form `0|[1-9][0-9]*`. -/
def canonicalNat? (text : String) : Option Nat :=
  let value := Nat.ofDigitChars 10 text.toList 0
  if value.repr = text then some value else none

theorem canonicalNat?_repr (value : Nat) : canonicalNat? value.repr = some value := by
  simp [canonicalNat?, Nat.toList_repr]

theorem repr_injective {left right : Nat} (same : left.repr = right.repr) : left = right := by
  have parsed := canonicalNat?_repr left
  rw [same, canonicalNat?_repr] at parsed
  exact (Option.some.inj parsed).symm

def coordinateValue (coordinate : DueCoordinate) : Scheduling Nat := do
  raiseIf (coordinate.coordinatePolicyVersion.text ≠ coordinateVersion)
    ⟨"unsupported scheduler coordinate policy"⟩
  match canonicalNat? coordinate.canonicalCoordinate.text with
  | some value => return value
  | none => .error ⟨"non-canonical nanosecond coordinate"⟩

/-- The canonical coordinate of an instant. -/
def coordinate (value : Nat) : DueCoordinate :=
  ⟨⟨coordinateVersion, by decide⟩, ⟨value.repr, Nat.repr_ne_empty⟩⟩

@[simp] theorem coordinateValue_coordinate (value : Nat) :
    coordinateValue (coordinate value) = .ok value := by
  simp only [coordinateValue, coordinate, ne_eq, not_true_eq_false, not_false_eq_true, raiseIf_neg,
    ok_bind, canonicalNat?_repr]
  rfl

theorem coordinate_injective {left right : Nat} (same : coordinate left = coordinate right) :
    left = right := by
  have text := congrArg (fun value => value.canonicalCoordinate.text) same
  exact repr_injective text

/-- Only canonical coordinates have a value. -/
theorem coordinateValue_ok {due : DueCoordinate} {value : Nat} :
    coordinateValue due = .ok value ↔ due = coordinate value := by
  constructor
  · intro parsed
    obtain ⟨version, text⟩ := due
    simp only [coordinateValue, bind_ok, raiseIf_ok, not_not] at parsed
    obtain ⟨_, sameVersion, parsed⟩ := parsed
    split at parsed
    · rename_i found decimal
      rw [pure_ok] at parsed
      subst parsed
      simp only [canonicalNat?, Option.ite_none_right_eq_some, Option.some.injEq] at decimal
      have versions : version = ⟨coordinateVersion, by decide⟩ := Identity.ext_iff_text.mpr sameVersion
      have texts : text = ⟨found.repr, Nat.repr_ne_empty⟩ :=
        Identity.ext_iff_text.mpr (decimal.2 ▸ decimal.1.symm)
      rw [versions, texts]
      rfl
    · cases parsed
  · rintro rfl
    exact coordinateValue_coordinate value

section Domain

variable [Hashlib]

/-- Explicit tuple framing prevents aliases between fields and domains. -/
def domainDigest (domain : String) (value : Json) : Digest :=
  sha256 (Json.arr [.str domain, value]).encode

def occurrenceIdentity (schedule : ScheduleDefinitionHead) (due : DueCoordinate) :
    Scheduling Identity := do
  let _ ← coordinateValue due
  return Identity.after "scheduler-occurrence-v1:" (domainDigest "scheduler-occurrence-v1"
    (.arr [toJson schedule.scheduleId, toJson schedule.scheduleRevision, toJson due])).identity

def undisposedOccurrence (schedule : ScheduleDefinitionHead) (due : DueCoordinate)
    (undisposedHead : Identity) : Scheduling UndisposedOccurrence := do
  let identity ← occurrenceIdentity schedule due
  return {
    occurrenceId := identity
    scheduleId := schedule.scheduleId
    scheduleRevision := schedule.scheduleRevision
    dueCoordinate := due
    undisposedHead := undisposedHead
    undisposedFingerprint := domainDigest "scheduler-undisposed-v1" (.obj
      [("occurrence_id", toJson identity), ("schedule_id", toJson schedule.scheduleId),
        ("schedule_revision", toJson schedule.scheduleRevision), ("due_coordinate", toJson due),
        ("undisposed_head", toJson undisposedHead)]) }

/-- What `eligible_manifest` has seen of the supplied occurrences. -/
structure Eligibility where
  identities : List Identity
  coordinates : List Nat
  eligible : List (Nat × UndisposedOccurrence)

def eligibleMember (schedule : ScheduleDefinitionHead) (start cutoff : Nat) (seen : Eligibility)
    (member : UndisposedOccurrence) : Scheduling Eligibility := do
  let expected ← undisposedOccurrence schedule member.dueCoordinate member.undisposedHead
  raiseIf (member ≠ expected) ⟨"occurrence identity, revision or head fingerprint mismatch"⟩
  let due ← coordinateValue member.dueCoordinate
  raiseIf (member.occurrenceId ∈ seen.identities ∨ due ∈ seen.coordinates)
    ⟨"duplicate authoritative occurrence"⟩
  return {
    identities := seen.identities ++ [member.occurrenceId]
    coordinates := seen.coordinates ++ [due]
    eligible := if start ≤ due ∧ due < cutoff then seen.eligible ++ [(due, member)]
      else seen.eligible }

def manifestFingerprint (boundary : SchedulerEligibilityBoundary)
    (members : List UndisposedOccurrence) : Digest :=
  domainDigest "scheduler-eligibility-manifest-v1" (.arr [toJson boundary, toJson members])

/-- `sorted(..., key=...)`, which is stable. -/
def sortedByDue (members : List (Nat × UndisposedOccurrence)) : List UndisposedOccurrence :=
  (members.insertionSort (fun left right => left.1 ≤ right.1)).map Prod.snd

/-- Enumerate the supplied writer snapshot, including half-open cut semantics. -/
def eligibleManifest (boundary : SchedulerEligibilityBoundary)
    (authoritative : List UndisposedOccurrence) : Scheduling SchedulerEligibilityManifest := do
  raiseIf (boundary.canonicalizationVersion.text ≠ canonicalVersion)
    ⟨"unsupported scheduler canonicalization version"⟩
  let start ← coordinateValue boundary.previousDueBoundary
  let cutoff ← coordinateValue boundary.cutoffDueCoordinate
  raiseIf (cutoff < start) ⟨"interval cutoff precedes durable boundary"⟩
  let seen ← authoritative.foldlM (eligibleMember boundary.scheduleDefinitionHead start cutoff)
    ⟨[], [], []⟩
  let members := sortedByDue seen.eligible
  return ⟨members, manifestFingerprint boundary members⟩

def verifyManifest (boundary : SchedulerEligibilityBoundary)
    (submitted : SchedulerEligibilityManifest) (authoritative : List UndisposedOccurrence) :
    Scheduling SchedulerEligibilityManifest := do
  let expected ← eligibleManifest boundary authoritative
  raiseIf (recoveryBytes submitted ≠ recoveryBytes expected)
    ⟨"submitted manifest differs from complete canonical enumeration"⟩
  return expected

inductive IntervalBranch where
  | boundaryOnlyNoWork
  | skipAll
  | coalesceSingle
  | coalesceMulti
  | materializeEachSingle
  | materializeEachMulti
deriving DecidableEq

def policyBranch (policy : MissedPolicy) (memberCount : Nat) : IntervalBranch :=
  if memberCount = 0 then .boundaryOnlyNoWork
  else
    match policy with
    | .skip => .skipAll
    | .coalesce => if memberCount = 1 then .coalesceSingle else .coalesceMulti
    | .materializeEach => if memberCount = 1 then .materializeEachSingle else .materializeEachMulti

structure EligibilityOverflow where
  dimension : OverflowDimension
  actual : Nat
  limit : ℕ+
deriving DecidableEq

def eligibilityOverflows (manifest : SchedulerEligibilityManifest)
    (bound : SchedulerIntervalBound) : List EligibilityOverflow :=
  let memberCount := manifest.members.length
  let manifestBytes := (recoveryBytes manifest).length
  (if memberCount > bound.maxMemberCount then
    [⟨.memberCount, memberCount, bound.maxMemberCount⟩] else []) ++
  (if manifestBytes > bound.maxManifestBytes then
    [⟨.manifestBytes, manifestBytes, bound.maxManifestBytes⟩] else [])

def executionSubjects (boundary : SchedulerEligibilityBoundary)
    (manifest : SchedulerEligibilityManifest) (authoritative : List UndisposedOccurrence) :
    Scheduling (List ExecutionLineageSubject) := do
  let verified ← verifyManifest boundary manifest authoritative
  match policyBranch boundary.missedOccurrencePolicyHead.kind verified.members.length with
  | .boundaryOnlyNoWork | .skipAll => return []
  | .coalesceMulti =>
      let aggregate := domainDigest "scheduler-coalesced-aggregate-v1"
        (.arr [toJson boundary, toJson verified])
      return [.coalesced (Identity.after "scheduler-aggregate-v1:" aggregate.identity)
        verified.fingerprint]
  | _ => return verified.members.map (fun member => .individual member.occurrenceId)

/-- The occurrence of a schedule at an instant. -/
def occurrenceAt (schedule : ScheduleDefinitionHead) (due : Nat) : UndisposedOccurrence :=
  let identity := Identity.after "scheduler-occurrence-v1:"
    (domainDigest "scheduler-occurrence-v1" (.arr [toJson schedule.scheduleId,
      toJson schedule.scheduleRevision, toJson (coordinate due)])).identity
  let undisposedHead := identity.before "/UNDISPOSED"
  { occurrenceId := identity
    scheduleId := schedule.scheduleId
    scheduleRevision := schedule.scheduleRevision
    dueCoordinate := coordinate due
    undisposedHead := undisposedHead
    undisposedFingerprint := domainDigest "scheduler-undisposed-v1" (.obj
      [("occurrence_id", toJson identity), ("schedule_id", toJson schedule.scheduleId),
        ("schedule_revision", toJson schedule.scheduleRevision),
        ("due_coordinate", toJson (coordinate due)),
        ("undisposed_head", toJson undisposedHead)]) }

theorem occurrenceIdentity_coordinate (schedule : ScheduleDefinitionHead) (due : Nat) :
    occurrenceIdentity schedule (coordinate due) =
      .ok (occurrenceAt schedule due).occurrenceId := by
  simp only [occurrenceIdentity, coordinateValue_coordinate, ok_bind]
  rfl

theorem undisposedOccurrence_coordinate (schedule : ScheduleDefinitionHead) (due : Nat) :
    undisposedOccurrence schedule (coordinate due) (occurrenceAt schedule due).undisposedHead =
      .ok (occurrenceAt schedule due) := by
  simp only [undisposedOccurrence, occurrenceIdentity_coordinate, ok_bind]
  rfl

theorem eligibleMember_occurrence (schedule : ScheduleDefinitionHead) {start cutoff due : Nat}
    (seen : Eligibility) (inside : start ≤ due ∧ due < cutoff) (later : due ∉ seen.coordinates) :
    eligibleMember schedule start cutoff seen (occurrenceAt schedule due) =
      if (occurrenceAt schedule due).occurrenceId ∈ seen.identities then
        .error ⟨"duplicate authoritative occurrence"⟩
      else .ok {
        identities := seen.identities ++ [(occurrenceAt schedule due).occurrenceId]
        coordinates := seen.coordinates ++ [due]
        eligible := seen.eligible ++ [(due, occurrenceAt schedule due)] } := by
  have found := undisposedOccurrence_coordinate schedule due
  have same : (occurrenceAt schedule due).dueCoordinate = coordinate due := rfl
  simp only [eligibleMember, same, found, coordinateValue_coordinate, ok_bind, ne_eq,
    not_true_eq_false, raiseIf_neg, not_false_eq_true, later, or_false, if_pos inside]
  by_cases known : (occurrenceAt schedule due).occurrenceId ∈ seen.identities
  · rw [raiseIf_pos known, if_pos known]
    rfl
  · rw [raiseIf_neg known, if_neg known]
    rfl

/-- The loop over an ascending list of instants inside the window. -/
theorem eligibleMember_loop (schedule : ScheduleDefinitionHead) {start cutoff : Nat}
    {dues : List Nat} (seen : Eligibility)
    (ascending : (seen.coordinates ++ dues).Pairwise (· < ·))
    (inside : ∀ due ∈ dues, start ≤ due ∧ due < cutoff) :
    (dues.map (occurrenceAt schedule)).foldlM (eligibleMember schedule start cutoff) seen =
      if (∀ due ∈ dues, (occurrenceAt schedule due).occurrenceId ∉ seen.identities) ∧
          (dues.map (fun due => (occurrenceAt schedule due).occurrenceId)).Nodup then
        .ok {
          identities := seen.identities ++
            dues.map (fun due => (occurrenceAt schedule due).occurrenceId)
          coordinates := seen.coordinates ++ dues
          eligible := seen.eligible ++ dues.map (fun due => (due, occurrenceAt schedule due)) }
      else .error ⟨"duplicate authoritative occurrence"⟩ := by
  induction dues generalizing seen with
  | nil => simp [pure, Except.pure]
  | cons due rest ih =>
      have later : due ∉ seen.coordinates := by
        intro member
        have order := (List.pairwise_append.mp ascending).2.2 due member due List.mem_cons_self
        exact Nat.lt_irrefl _ order
      rw [List.map_cons, List.foldlM_cons,
        eligibleMember_occurrence schedule seen (inside due List.mem_cons_self) later]
      by_cases known : (occurrenceAt schedule due).occurrenceId ∈ seen.identities
      · rw [if_pos known, if_neg (by simp [known])]
        rfl
      · rw [if_neg known, ok_bind, ih _ (by simpa using ascending)
          (fun other member => inside other (List.mem_cons_of_mem _ member))]
        have equivalent : ((∀ other ∈ rest, (occurrenceAt schedule other).occurrenceId ∉
              seen.identities ++ [(occurrenceAt schedule due).occurrenceId]) ∧
            (rest.map (fun due => (occurrenceAt schedule due).occurrenceId)).Nodup) ↔
            ((∀ other ∈ due :: rest, (occurrenceAt schedule other).occurrenceId ∉
              seen.identities) ∧
            ((due :: rest).map (fun due => (occurrenceAt schedule due).occurrenceId)).Nodup) := by
          simp only [List.mem_append, List.mem_singleton, not_or, List.forall_mem_cons,
            List.map_cons, List.nodup_cons, List.mem_map, not_exists, not_and]
          constructor
          · rintro ⟨fresh, distinct⟩
            exact ⟨⟨known, fun other member => (fresh other member).1⟩,
              fun other member => (fresh other member).2, distinct⟩
          · rintro ⟨⟨_, fresh⟩, apart, distinct⟩
            exact ⟨fun other member => ⟨fresh other member, apart other member⟩, distinct⟩
        simp only [equivalent, List.map_cons, List.append_assoc, List.singleton_append]

/-- The occurrences at an ascending list of instants inside the window are the manifest,
unless two of them share an identity. -/
theorem eligibleManifest_window {boundary : SchedulerEligibilityBoundary} {start cutoff : Nat}
    {dues : List Nat} (version : boundary.canonicalizationVersion.text = canonicalVersion)
    (previous : boundary.previousDueBoundary = coordinate start)
    (limit : boundary.cutoffDueCoordinate = coordinate cutoff) (forward : start ≤ cutoff)
    (ascending : dues.Pairwise (· < ·)) (inside : ∀ due ∈ dues, start ≤ due ∧ due < cutoff) :
    eligibleManifest boundary (dues.map (occurrenceAt boundary.scheduleDefinitionHead)) =
      let members := dues.map (occurrenceAt boundary.scheduleDefinitionHead)
      if (members.map UndisposedOccurrence.occurrenceId).Nodup then
        .ok ⟨members, manifestFingerprint boundary members⟩
      else .error ⟨"duplicate authoritative occurrence"⟩ := by
  have sorted : sortedByDue (dues.map
      (fun due => (due, occurrenceAt boundary.scheduleDefinitionHead due))) =
        dues.map (occurrenceAt boundary.scheduleDefinitionHead) := by
    rw [sortedByDue, List.Pairwise.insertionSort_eq, List.map_map]
    · rfl
    · rw [List.pairwise_map]
      exact ascending.imp (fun order => Nat.le_of_lt order)
  simp only [eligibleManifest, previous, limit, coordinateValue_coordinate, ok_bind, version,
    ne_eq, not_true_eq_false, not_false_eq_true, raiseIf_neg, Nat.not_lt.mpr forward,
    eligibleMember_loop boundary.scheduleDefinitionHead ⟨[], [], []⟩ (by simpa using ascending)
      inside]
  simp only [List.not_mem_nil, not_false_eq_true, implies_true, true_and, List.nil_append,
    List.map_map]
  split
  · rename_i distinct
    rw [if_pos (by simpa [Function.comp_def] using distinct), ok_bind, sorted]
    rfl
  · rename_i collides
    rw [if_neg (by simpa [Function.comp_def] using collides)]
    rfl

end Domain

end Chiplog.AgentLoop
