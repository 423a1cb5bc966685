import Chiplog.AgentLoop.SchedulerDomain
import Chiplog.Composition.ExecutionLog
import Chiplog.Data.Progression
import Mathlib.Logic.Function.Basic

namespace Chiplog.Composition

open Chiplog.Data Chiplog.Platform Chiplog.Effects Chiplog.AgentLoop

/-! Native scheduler records and pure occurrence preparation.

No function of this module reads the log or grants authority; the runtime publishes what
they prepare. -/

structure NativeScheduleDraft where
  actId : Identity
  scheduleId : Identity
  startNs : UInt64
  periodNs : ℕ+
  endExclusiveNs : UInt64
  prompt : Identity
  budget : BudgetPolicy
  missedPolicy : MissedPolicy
  bound : SchedulerIntervalBound
deriving DecidableEq

instance : Model NativeScheduleDraft := ⟨fun value =>
  [("act_id", toJson value.actId), ("schedule_id", toJson value.scheduleId),
    ("start_ns", toJson value.startNs), ("period_ns", toJson value.periodNs),
    ("end_exclusive_ns", toJson value.endExclusiveNs), ("prompt", toJson value.prompt),
    ("budget", toJson value.budget), ("missed_policy", toJson value.missedPolicy),
    ("bound", toJson value.bound)]⟩

structure Configuration where
  tenant : String
  principal : String
  draft : NativeScheduleDraft
  origin : OriginSelection
  leaseDurationNs : ℕ+
  schedule : ScheduleDefinitionHead
  policy : MissedOccurrencePolicyHead
  bound : SchedulerIntervalBoundHead
deriving DecidableEq

instance : Model Configuration := ⟨fun value =>
  [("schema_id", .str "chiplog.scheduler.native-configuration.v1"),
    ("tenant", toJson value.tenant), ("principal", toJson value.principal),
    ("draft", toJson value.draft), ("origin", toJson value.origin),
    ("lease_duration_ns", toJson value.leaseDurationNs), ("schedule", toJson value.schedule),
    ("policy", toJson value.policy), ("bound", toJson value.bound)]⟩

/-- A `SchedulerDomainError` is a `ValueError`. -/
def scheduling : Scheduling α → Transaction α
  | .ok value => .ok value
  | .error error => .error (.value error.reason)

theorem scheduling_ok {computation : Scheduling α} {value : α} :
    scheduling computation = .ok value ↔ computation = .ok value := by
  cases computation <;> simp [scheduling]

/-- `int(due.canonical_coordinate)`.  A text that is not canonical is refused here instead of
by `eligible_manifest`, with the same effect on every caller. -/
def coordinateInt (due : DueCoordinate) : Transaction Nat :=
  match canonicalNat? due.canonicalCoordinate.text with
  | some value => .ok value
  | none => .error (.value "invalid literal for int()")

@[simp] theorem coordinateInt_coordinate (value : Nat) :
    coordinateInt (coordinate value) = .ok value := by
  simp only [coordinateInt, coordinate, canonicalNat?_repr]

section Preparation

variable [Hashlib]

/-- `reference`: the head of a value under its own domain. -/
def nativeReference (domain : String) (value : Json) : PresentHead :=
  let digest := domainDigest domain value
  ⟨Identity.after (domain ++ ":") digest.identity, digest⟩

/-- A principal that owns the bound has a name; `Configuration` refuses an empty one. -/
def configuration (tenant : String) (principal : Identity) (draft : NativeScheduleDraft)
    (origin : OriginSelection) (leaseDurationNs : ℕ+) : Configuration :=
  let scheduleRef := nativeReference "native-scheduler-definition-v1" (toJson draft)
  let policyRef := nativeReference "native-scheduler-policy-v1"
    (.arr [toJson draft.scheduleId, toJson draft.missedPolicy])
  let boundRef := nativeReference "native-scheduler-bound-v1"
    (.arr [toJson draft.scheduleId, toJson draft.bound])
  { tenant, principal := principal.text, draft, origin, leaseDurationNs
    schedule := ⟨draft.scheduleId, ⟨"0", written _ trivial⟩, scheduleRef.head,
      scheduleRef.fingerprint⟩
    policy := ⟨draft.scheduleId.before "/missed-policy", ⟨"0", written _ trivial⟩,
      policyRef.head, policyRef.fingerprint, draft.missedPolicy⟩
    bound :=
      { headId := boundRef.head
        predecessor := .absent
        generation := 0
        bound := draft.bound
        ownerId := principal
        authorityEpoch := Identity.before ⟨"native-pg:", written _ trivial⟩ tenant
        brokerGeneration := ⟨"native-pg-scheduler.v1", written _ trivial⟩
        runtimeGraphGeneration := ⟨"native-pg.v1", written _ trivial⟩
        canonicalizationVersion := ⟨canonicalVersion, written _ trivial⟩ } }

/-- The occurrence of one index of the schedule. -/
def preparedMember (config : Configuration) (index : Nat) : Transaction UndisposedOccurrence := do
  let due := coordinate (config.draft.startNs.toNat + index * config.draft.periodNs)
  let identity ← scheduling (occurrenceIdentity config.schedule due)
  scheduling (undisposedOccurrence config.schedule due (identity.before "/UNDISPOSED"))

/-- Finite half-open fixed interval; identities and manifests use existing pure contracts. -/
def prepareMembers (config : Configuration) (boundary : SchedulerEligibilityBoundary) :
    Transaction SchedulerEligibilityManifest := do
  let start ← coordinateInt boundary.previousDueBoundary
  let cutoff ← coordinateInt boundary.cutoffDueCoordinate
  let origin := config.draft.startNs.toNat
  let period := config.draft.periodNs
  let first := firstIndex origin period start
  let last := lastIndex origin period start cutoff
  let members ← (indexRange first last).mapM (preparedMember config)
  scheduling (eligibleManifest boundary members)

namespace NativeScheduleDraft

/-- The due times of a draft inside a window. -/
def dueWithin (draft : NativeScheduleDraft) (start cutoff : Nat) : List Nat :=
  windowTerms draft.startNs.toNat draft.periodNs start cutoff

end NativeScheduleDraft

theorem preparedMember_eq (config : Configuration) (index : Nat) :
    preparedMember config index = .ok (occurrenceAt config.schedule
      (config.draft.startNs.toNat + index * config.draft.periodNs)) := by
  simp only [preparedMember, occurrenceIdentity_coordinate, scheduling, ok_bind]
  exact scheduling_ok.mpr (undisposedOccurrence_coordinate _ _)

end Preparation

end Chiplog.Composition
