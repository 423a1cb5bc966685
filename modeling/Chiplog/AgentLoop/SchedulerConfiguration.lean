import Chiplog.AgentLoop.Contracts
import Chiplog.AgentLoop.SchedulerDomain
import Chiplog.Data.JsonText
import Chiplog.Data.Progression

namespace Chiplog.AgentLoop

open Chiplog.Data Chiplog.Effects

/-! Scheduler revision streams and the enumeration of a definition.

`stream_definition` hashes and measures the canonical manifest one member at a time and
drops its buffer as soon as the registered budget is exceeded. -/

structure SchedulerContextRef where
  tenantId : Identity
  serviceIdentity : Identity
  sessionId : Identity
  mandateHead : Identity
  issuanceId : Identity
  issuanceFingerprint : Digest
deriving DecidableEq

instance : Model SchedulerContextRef := ⟨fun value =>
  [("tenant_id", toJson value.tenantId), ("service_identity", toJson value.serviceIdentity),
    ("session_id", toJson value.sessionId), ("mandate_head", toJson value.mandateHead),
    ("issuance_id", toJson value.issuanceId),
    ("issuance_fingerprint", toJson value.issuanceFingerprint)]⟩

structure SchedulerRunInputs where
  tenant : Identity
  principal : Identity
  prompt : Identity
  policy : BudgetPolicy
  origin : EndpointSelection
  contourHead : Identity
  policyHead : Identity
  workerSession : Identity
  authorityEpoch : Identity
deriving DecidableEq

instance : Model SchedulerRunInputs := ⟨fun value =>
  [("tenant", toJson value.tenant), ("principal", toJson value.principal),
    ("prompt", toJson value.prompt), ("policy", toJson value.policy),
    ("origin", toJson value.origin), ("contour_head", toJson value.contourHead),
    ("policy_head", toJson value.policyHead), ("worker_session", toJson value.workerSession),
    ("authority_epoch", toJson value.authorityEpoch)]⟩

/-- A field typed `int | "NO_END"`. -/
inductive EndExclusive where
  | instant (value : Int)
  | noEnd
deriving DecidableEq

instance : Jsonable EndExclusive := ⟨fun
  | .instant value => .int value
  | .noEnd => .str "NO_END"⟩

structure FixedIntervalDefinition where
  startNs : Nat
  periodNs : ℕ+
  endExclusiveNs : EndExclusive
  runInputs : SchedulerRunInputs
deriving DecidableEq

instance : Model FixedIntervalDefinition := ⟨fun value =>
  [("kind", .str "FIXED_INTERVAL_V1"), ("start_ns", toJson value.startNs),
    ("period_ns", toJson value.periodNs), ("end_exclusive_ns", toJson value.endExclusiveNs),
    ("run_inputs", toJson value.runInputs)]⟩

/-- What a schedule revision and a policy revision share, over the revised value. -/
structure Revision (ρ : Type) where
  scheduleId : Identity
  revision : Nat
  previous : Marker
  revised : ρ
  context : SchedulerContextRef
  commandId : Identity
deriving DecidableEq

abbrev ScheduleRevision := Revision FixedIntervalDefinition

abbrev PolicyRevision := Revision MissedPolicy

def Revision.fields [Jsonable ρ] (name : String) (value : Revision ρ) : List (String × Json) :=
  [("schedule_id", toJson value.scheduleId), ("revision", toJson value.revision),
    ("previous", toJson value.previous), (name, toJson value.revised),
    ("context", toJson value.context), ("command_id", toJson value.commandId)]

instance : Model ScheduleRevision := ⟨Revision.fields "definition"⟩
instance : Model PolicyRevision := ⟨Revision.fields "policy"⟩

structure ConfigurationSnapshot where
  schedule : Option ScheduleRevision
  policy : Option PolicyRevision
  bound : Option SchedulerIntervalBoundHead
  activeHold : Marker
deriving DecidableEq

structure DisposedOccurrence where
  occurrenceId : Identity
  dueCoordinate : DueCoordinate
  disposition : PresentHead
deriving DecidableEq

structure DefinitionEnumeration where
  definition : FixedIntervalDefinition
  boundary : SchedulerEligibilityBoundary
  firstIndex : Int
  endIndex : Int
  excludedIndices : List Nat
  eligibleCount : Int

/-- What the configuration streams hold once all three are initialised. -/
structure CurrentConfiguration where
  schedule : ScheduleRevision
  policy : PolicyRevision
  bound : SchedulerIntervalBoundHead

def ConfigurationSnapshot.current (snapshot : ConfigurationSnapshot) :
    Scheduling CurrentConfiguration :=
  match snapshot.schedule, snapshot.policy, snapshot.bound with
  | some schedule, some policy, some bound => do
      raiseIf (schedule.scheduleId ≠ policy.scheduleId)
        ⟨"configuration streams belong to different schedules"⟩
      return ⟨schedule, policy, bound⟩
  | _, _, _ => .error ⟨"configuration is absent or incompletely initialized"⟩

def validateDefinition (definition : FixedIntervalDefinition) (context : SchedulerContextRef) :
    Scheduling Unit := do
  raiseIf (definition.runInputs.tenant ≠ context.tenantId)
    ⟨"definition belongs to another tenant"⟩
  match definition.endExclusiveNs with
  | .instant value =>
      raiseIf (value ≤ definition.startNs) ⟨"exclusive end must follow start"⟩
  | .noEnd => .ok ()

/-- The cutoff of an interval, never past the end of the schedule. -/
def EndExclusive.clamp (limit : EndExclusive) (cutoff : Nat) : Int :=
  match limit with
  | .instant value => min (cutoff : Int) value
  | .noEnd => cutoff

def EndExclusive.reached (limit : EndExclusive) (due : Nat) : Prop :=
  match limit with
  | .instant value => value ≤ (due : Int)
  | .noEnd => False

instance (limit : EndExclusive) (due : Nat) : Decidable (limit.reached due) := by
  unfold EndExclusive.reached
  cases limit <;> infer_instance

section Enumeration

variable [Hashlib]

def recordRef [Model α] (record : α) (domain : Identity) : PresentHead :=
  let fingerprint := sha256 (recoveryBytes record)
  ⟨domain.before (":" ++ fingerprint.text), fingerprint⟩

def scheduleHead (record : ScheduleRevision) : ScheduleDefinitionHead :=
  let ref := recordRef record ⟨"scheduler-definition-v1", by decide⟩
  ⟨record.scheduleId, ⟨record.revision.repr, Nat.repr_ne_empty⟩, ref.head, ref.fingerprint⟩

def policyHead (record : PolicyRevision) : MissedOccurrencePolicyHead :=
  let ref := recordRef record ⟨"scheduler-policy-v1", by decide⟩
  ⟨record.scheduleId.before "/missed-policy", ⟨record.revision.repr, Nat.repr_ne_empty⟩, ref.head,
    ref.fingerprint, record.revised⟩

/-- The index of an occurrence that was disposed of under this very definition. -/
def disposedIndex (definition : FixedIntervalDefinition) (schedule : ScheduleDefinitionHead)
    (row : DisposedOccurrence) : Scheduling Nat := do
  let due ← coordinateValue row.dueCoordinate
  let offset := (due : Int) - definition.startNs
  let identity ← occurrenceIdentity schedule row.dueCoordinate
  raiseIf (offset < 0 ∨ offset % definition.periodNs ≠ 0 ∨ definition.endExclusiveNs.reached due ∨
      row.occurrenceId ≠ identity) ⟨"disposed identity is not in exact definition revision"⟩
  return (offset / definition.periodNs).toNat

/-- Broker supplies complete exact dispositions; caller supplies no eligible list. -/
def definitionEnumeration (snapshot : ConfigurationSnapshot)
    (boundary : SchedulerEligibilityBoundary) (disposed : List DisposedOccurrence) :
    Scheduling DefinitionEnumeration := do
  let current ← snapshot.current
  raiseIf (boundary.scheduleDefinitionHead ≠ scheduleHead current.schedule ∨
      boundary.missedOccurrencePolicyHead ≠ policyHead current.policy)
    ⟨"boundary does not bind actual configuration records"⟩
  let definition := current.schedule.revised
  validateDefinition definition current.schedule.context
  let start ← coordinateValue boundary.previousDueBoundary
  let cutoff ← coordinateValue boundary.cutoffDueCoordinate
  raiseIf (cutoff < start ∨ boundary.canonicalizationVersion.text ≠ canonicalVersion)
    ⟨"invalid finite interval boundary"⟩
  let limit := definition.endExclusiveNs.clamp cutoff
  let first := firstIndex definition.startNs definition.periodNs start
  let last := lastIndex definition.startNs definition.periodNs start limit
  let indices ← disposed.mapM (disposedIndex definition boundary.scheduleDefinitionHead)
  raiseIf (¬ indices.Nodup) ⟨"disposed identities contain duplicate indices"⟩
  let excluded := (indices.filter (fun index : Nat => first ≤ (index : Int) ∧ (index : Int) < last))
    |>.insertionSort (· ≤ ·)
  return ⟨definition, boundary, first, last, excluded, last - first - excluded.length⟩

def DefinitionEnumeration.indices (plan : DefinitionEnumeration) : List Nat :=
  skipping plan.excludedIndices (indexRange plan.firstIndex plan.endIndex)

def DefinitionEnumeration.due (plan : DefinitionEnumeration) (index : Nat) : Nat :=
  plan.definition.startNs + index * plan.definition.periodNs

def definitionMember (plan : DefinitionEnumeration) (index : Nat) :
    Scheduling UndisposedOccurrence := do
  let due := coordinate (plan.due index)
  let identity ← occurrenceIdentity plan.boundary.scheduleDefinitionHead due
  undisposedOccurrence plan.boundary.scheduleDefinitionHead due (identity.before "/UNDISPOSED")

def definitionMembers (plan : DefinitionEnumeration) : Scheduling (List UndisposedOccurrence) :=
  plan.indices.mapM (definitionMember plan)

structure StreamedEligibility where
  memberCount : Nat
  manifestBytes : Nat
  manifestFingerprint : Digest
  evidence : EligibilityEvidence

/-- The running state of the one-pass digest. -/
structure MemberStream where
  hashed : Bytes
  measured : Nat
  retained : Option (List UndisposedOccurrence)
  first : Marker
  last : Marker
  count : Nat
  previousIndex : Int

def memberReference (member : UndisposedOccurrence) : Marker :=
  .present ⟨member.undisposedHead, member.undisposedFingerprint⟩

def streamMember (plan : DefinitionEnumeration) (limit : Nat) (stream : MemberStream)
    (member : UndisposedOccurrence) : Scheduling MemberStream := do
  let schedule := plan.boundary.scheduleDefinitionHead
  let due ← coordinateValue member.dueCoordinate
  let offset := (due : Int) - plan.definition.startNs
  let index := offset / plan.definition.periodNs
  let expectedId ← occurrenceIdentity schedule member.dueCoordinate
  let expected ← undisposedOccurrence schedule member.dueCoordinate
    (expectedId.before "/UNDISPOSED")
  raiseIf (offset % plan.definition.periodNs ≠ 0 ∨
      ¬ (plan.firstIndex ≤ index ∧ index < plan.endIndex) ∨ index ≤ stream.previousIndex ∨
      index ∈ plan.excludedIndices.map Int.ofNat ∨ member ≠ expected)
    ⟨"stream member is noncanonical, duplicate or out of definition order"⟩
  let raw := (toJson member).encode
  let comma := if stream.count = 0 then [] else utf8 ","
  let measured := stream.measured + comma.length + raw.length
  return {
    hashed := stream.hashed ++ comma ++ raw
    measured := measured
    retained := match stream.retained with
      | some members => if measured ≤ limit then some (members ++ [member]) else none
      | none => none
    first := if stream.count = 0 then memberReference member else stream.first
    last := memberReference member
    count := stream.count + 1
    previousIndex := index }

/-- The fixed-length digest slot has exactly the canonical size of the final digest. -/
def emptyManifest : Json :=
  .obj [("fingerprint", .str (String.ofList (List.replicate 64 '0'))), ("members", .arr [])]

def MemberStream.start (plan : DefinitionEnumeration) (limit : Nat) : MemberStream :=
  let measured := emptyManifest.encode.length
  { hashed := utf8 "[\"scheduler-eligibility-manifest-v1\",[" ++ (toJson plan.boundary).encode ++
      utf8 ",["
    measured := measured
    retained := if measured ≤ limit then some [] else none
    first := .absent
    last := .absent
    count := 0
    previousIndex := plan.firstIndex - 1 }

def streamedEvidence (stream : MemberStream) (fingerprint : Digest) (proof : PresentHead) :
    Scheduling EligibilityEvidence :=
  match stream.retained with
  | some members => do
      let manifest : SchedulerEligibilityManifest := ⟨members, fingerprint⟩
      raiseIf ((recoveryBytes manifest).length ≠ stream.measured)
        ⟨"stream canonical manifest byte domain differs"⟩
      return .full manifest
  | none =>
      return .streaming
        { manifestDigest := fingerprint
          memberCount := stream.count
          firstMember := stream.first
          lastMember := stream.last
          orderContractVersion := ⟨"chiplog.scheduler.numeric-due.v1", by decide⟩
          enumerationCompletenessProof := proof }

/-- Exact one-pass digest, retaining at most the registered full-manifest budget. -/
def streamDefinition (snapshot : ConfigurationSnapshot) (boundary : SchedulerEligibilityBoundary)
    (disposed : List DisposedOccurrence) (enumerationProof : PresentHead) :
    Scheduling StreamedEligibility := do
  let plan ← definitionEnumeration snapshot boundary disposed
  let current ← snapshot.current
  let limit : Nat := current.bound.bound.maxManifestBytes
  let members ← definitionMembers plan
  let stream ← members.foldlM (streamMember plan limit) (.start plan limit)
  raiseIf ((stream.count : Int) ≠ plan.eligibleCount)
    ⟨"stream differs from exact arithmetic membership"⟩
  let fingerprint := sha256 (stream.hashed ++ utf8 "]]]")
  let evidence ← streamedEvidence stream fingerprint enumerationProof
  return ⟨stream.count, stream.measured, fingerprint, evidence⟩

end Enumeration

end Chiplog.AgentLoop
