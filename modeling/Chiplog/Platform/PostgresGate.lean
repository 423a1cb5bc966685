import Chiplog.Data.JsonReading
import Chiplog.Data.Model
import Chiplog.Platform.Postgres

namespace Chiplog.Platform

open Chiplog.Data

/-! Public operation-gate contracts; entitlement issuance is outside this port. -/

structure DeploymentGateGeneration where
  tenantId : String
  epoch : String
  sequence : Nat
deriving DecidableEq

instance : Model DeploymentGateGeneration := ⟨fun value =>
  [("tenant_id", toJson value.tenantId), ("epoch", toJson value.epoch),
    ("sequence", toJson value.sequence)]⟩

structure ExposureBounds where
  capabilityId : String
  cohortId : String
  purpose : String
  cap : ℕ+
  startsNs : Nat
  expiresNs : ℕ+
  instrumentation : List String
  stopRules : List String
deriving DecidableEq

instance : Model ExposureBounds := ⟨fun value =>
  [("capability_id", toJson value.capabilityId), ("cohort_id", toJson value.cohortId),
    ("purpose", toJson value.purpose), ("cap", toJson value.cap),
    ("starts_ns", toJson value.startsNs), ("expires_ns", toJson value.expiresNs),
    ("instrumentation", toJson value.instrumentation), ("stop_rules", toJson value.stopRules)]⟩

inductive DeploymentMode where
  | evaluation
  | production
deriving DecidableEq

instance : Jsonable DeploymentMode := ⟨fun
  | .evaluation => .str "EVALUATION"
  | .production => .str "PRODUCTION"⟩

structure DeploymentGateRequest where
  operationId : String
  surfaceId : String
  payloadDigest : String
  mode : DeploymentMode
  generation : DeploymentGateGeneration
  readinessHead : String
  entitlementHead : String
  evidenceCursors : List (String × String)
  freshnessLeases : List (String × Int)
  bounds : ExposureBounds
deriving DecidableEq

instance : Model DeploymentGateRequest := ⟨fun value =>
  [("operation_id", toJson value.operationId), ("surface_id", toJson value.surfaceId),
    ("payload_digest", toJson value.payloadDigest), ("mode", toJson value.mode),
    ("generation", toJson value.generation), ("readiness_head", toJson value.readinessHead),
    ("entitlement_head", toJson value.entitlementHead),
    ("evidence_cursors", toJson value.evidenceCursors),
    ("freshness_leases", toJson value.freshnessLeases), ("bounds", toJson value.bounds)]⟩

/-- `canonical(request.model_dump(mode="json"))`. -/
def DeploymentGateRequest.encoded (request : DeploymentGateRequest) : Bytes :=
  (toJson request).encodeAscii

end Chiplog.Platform

namespace Chiplog.Platform

open Chiplog.Data

/-! Exact deployment eligibility ordered in the user's transaction.

`require` judges a request against the imported entitlement and the recorded handoffs, and
`crossed` records one.  They are separate calls, and a live request for a recorded handoff
passes `require` as well: what keeps the cap then is the primary key of the handoffs. -/

inductive Readiness where
  | ready
  | hold
deriving DecidableEq

instance : Jsonable Readiness := ⟨fun
  | .ready => .str "READY"
  | .hold => .str "HOLD"⟩

inductive EntitlementStatus where
  | active
  | hold
  | revoked
  | superseded
  | breached
deriving DecidableEq

instance : Jsonable EntitlementStatus := ⟨fun
  | .active => .str "ACTIVE"
  | .hold => .str "HOLD"
  | .revoked => .str "REVOKED"
  | .superseded => .str "SUPERSEDED"
  | .breached => .str "BREACHED"⟩

/-- A view read from an independent authority, never authority by construction. -/
structure CurrentEntitlement where
  generation : DeploymentGateGeneration
  mode : DeploymentMode
  readinessHead : String
  readiness : Readiness
  entitlementHead : String
  status : EntitlementStatus
  evidenceCursors : List (String × String)
  freshnessLeases : List (String × Int)
  bounds : ExposureBounds
  livePredicates : List (String × Bool)
  openCauses : List String
deriving DecidableEq

instance : Model CurrentEntitlement := ⟨fun value =>
  [("generation", toJson value.generation), ("mode", toJson value.mode),
    ("readiness_head", toJson value.readinessHead), ("readiness", toJson value.readiness),
    ("entitlement_head", toJson value.entitlementHead), ("status", toJson value.status),
    ("evidence_cursors", toJson value.evidenceCursors),
    ("freshness_leases", toJson value.freshnessLeases), ("bounds", toJson value.bounds),
    ("live_predicates", toJson value.livePredicates), ("open_causes", toJson value.openCauses)]⟩

/-- `canonical(current.model_dump(mode="json"))`. -/
def CurrentEntitlement.encoded (current : CurrentEntitlement) : Bytes :=
  (toJson current).encodeAscii

instance : Json.Legible DeploymentMode where
  read := by
    intro first second same
    cases first <;> cases second <;> first | rfl | exact absurd (Json.str.inj same) (by decide)

instance : Json.Legible DeploymentGateGeneration where
  read := by
    intro first second same
    have values := Json.sorted_obj_inj ["tenant_id", "epoch", "sequence"] rfl rfl (by decide) same
    cases first
    cases second
    simp only [modelDump, List.map_cons, List.cons.injEq, Json.sorted_eq] at values
    rw [DeploymentGateGeneration.mk.injEq]
    simp [values]

instance : Json.Legible ExposureBounds where
  read := by
    intro first second same
    have values := Json.sorted_obj_inj ["capability_id", "cohort_id", "purpose", "cap",
      "starts_ns", "expires_ns", "instrumentation", "stop_rules"] rfl rfl (by decide) same
    cases first
    cases second
    simp only [modelDump, List.map_cons, List.cons.injEq, Json.sorted_eq] at values
    rw [ExposureBounds.mk.injEq]
    simp [values]

instance : Json.Legible DeploymentGateRequest where
  read := by
    intro first second same
    have values := Json.sorted_obj_inj ["operation_id", "surface_id", "payload_digest", "mode",
      "generation", "readiness_head", "entitlement_head", "evidence_cursors", "freshness_leases",
      "bounds"] rfl rfl (by decide) same
    cases first
    cases second
    simp only [modelDump, List.map_cons, List.cons.injEq, Json.sorted_eq] at values
    rw [DeploymentGateRequest.mk.injEq]
    simp [values]

/-- The encoded request gives the request away. -/
theorem DeploymentGateRequest.encoded_inj {first second : DeploymentGateRequest}
    (same : first.encoded = second.encoded) : first = second :=
  Json.encodeAscii_read same

/-- A row of `gate_handoffs`. -/
structure Handoff where
  operation : String
  request : Bytes
  payload : Bytes
  entitlement : String
  mode : DeploymentMode
deriving DecidableEq

/-- `gate_current`, with the view its bytes hold and their proof, and `gate_handoffs`. -/
structure GateTables where
  current : Option (CurrentEntitlement × Bytes)
  handoffs : List Handoff
deriving DecidableEq

/-- How many handoffs an entitlement has in a mode. -/
def GateTables.used (tables : GateTables) (entitlement : String) (mode : DeploymentMode) : Nat :=
  (tables.handoffs.filter (fun handoff =>
    handoff.entitlement = entitlement ∧ handoff.mode = mode)).length

/-- `sorted(set(keys))`. -/
def sortedSet (keys : List String) : List String := keys.dedup.insertionSort (· ≤ ·)

/-- `not keys or keys != sorted(set(keys))`. -/
def notClosed (keys : List String) : Prop := keys = [] ∨ keys ≠ sortedSet keys

instance (keys : List String) : Decidable (notClosed keys) :=
  inferInstanceAs (Decidable (_ ∨ _))

def capabilityOf : String → Option String
  | "planning.create" => some "planning.create_intention_line"
  | "cli.render" => some "planning.read"
  | "effects.first_send" => some "effects.first_send"
  | "delivery.first_send" => some "delivery.first_send"
  | _ => none

structure PostgresDeploymentGate where
  tenant : String
  authenticate : Option (Bytes → Bytes → Bool)

namespace PostgresDeploymentGate

/-- `self.authenticate is not None and self.authenticate(payload, proof)`. -/
def verifies (gate : PostgresDeploymentGate) (payload proof : Bytes) : Bool :=
  match gate.authenticate with
  | none => false
  | some authenticate => authenticate payload proof

def importCurrent (gate : PostgresDeploymentGate) (tables : GateTables)
    (current : CurrentEntitlement) (proof : Bytes) (previous : Option Bytes) :
    Transaction GateTables := do
  raiseIf (gate.verifies current.encoded proof = false ∨
      current.generation.tenantId ≠ gate.tenant)
    (.permission "independent entitlement proof rejected")
  raiseIf (tables.current.map (fun row => row.1.encoded) ≠ previous)
    (.value "stale entitlement predecessor")
  .ok { tables with current := some (current, proof) }

section

variable [Hashlib]

/-- The comparison of a request with the entitlement it names. -/
def requireExact (gate : PostgresDeploymentGate) (current : CurrentEntitlement)
    (request : DeploymentGateRequest) (surface : String) (payload : Bytes) : Transaction Unit :=
  raiseIf (request.surfaceId ≠ surface ∨
      capabilityOf surface ≠ some request.bounds.capabilityId ∨
      request.payloadDigest ≠ (sha256 payload).text ∨
      request.generation.tenantId ≠ gate.tenant ∨ request.generation ≠ current.generation ∨
      request.mode ≠ current.mode ∨ request.readinessHead ≠ current.readinessHead ∨
      request.entitlementHead ≠ current.entitlementHead ∨
      request.evidenceCursors ≠ current.evidenceCursors ∨
      request.freshnessLeases ≠ current.freshnessLeases ∨ request.bounds ≠ current.bounds)
    (.permission "HOLD: exact deployment eligibility changed")

/-- The conditions on the moment and on the completeness of the inputs. -/
def requireLive (current : CurrentEntitlement) (request : DeploymentGateRequest) (now : Int) :
    Transaction Unit := do
  let bounds := current.bounds
  raiseIf (¬ ((bounds.startsNs : Int) ≤ now ∧ now < (bounds.expiresNs : Nat)) ∨
      current.readiness ≠ .ready ∨ current.status ≠ .active ∨ current.openCauses ≠ [] ∨
      current.livePredicates = [] ∨ (∃ row ∈ current.livePredicates, row.2 = false) ∨
      ∃ row ∈ current.freshnessLeases, row.2 ≤ now)
    (.permission "HOLD: readiness, duration or freshness held")
  raiseIf (notClosed (current.livePredicates.map Prod.fst) ∨
      notClosed (current.evidenceCursors.map Prod.fst) ∨
      notClosed (current.freshnessLeases.map Prod.fst))
    (.permission "HOLD: incomplete eligibility inputs")
  raiseIf (notClosed bounds.instrumentation ∨ notClosed bounds.stopRules)
    (.permission "HOLD: instrumentation or stop rules missing")
  raiseIf ("" ∈ [request.operationId, request.payloadDigest, request.readinessHead,
      request.entitlementHead, bounds.capabilityId, bounds.cohortId, bounds.purpose])
    (.permission "HOLD: required identity missing")

/-- The recorded handoff of an operation. -/
def previous (tables : GateTables) (operation : String) : Option Handoff :=
  tables.handoffs.find? (fun handoff => handoff.operation = operation)

/-- Whether the handoff is new. -/
def require (gate : PostgresDeploymentGate) (now : Int) (tables : GateTables)
    (request : DeploymentGateRequest) (surface : String) (payload : Bytes) (live : Bool) :
    Transaction Bool :=
  match tables.current with
  | none => .error (.permission "HOLD: independent readiness and entitlement absent")
  | some (current, proof) => do
      raiseIf (gate.verifies current.encoded proof = false)
        (.permission "HOLD: independent readiness and entitlement absent")
      gate.requireExact current request surface payload
      match previous tables request.operationId with
      | some recorded => do
          raiseIf ((recorded.request, recorded.payload) ≠ (request.encoded, payload))
            (.value "deployment handoff identity conflict")
          if live then do
            requireLive current request now
            .ok false
          else .ok false
      | none => do
          requireLive current request now
          raiseIf ((current.bounds.cap : Nat) ≤
              tables.used current.entitlementHead current.mode)
            (.permission "HOLD: entitlement cap exhausted")
          .ok true

end

end PostgresDeploymentGate

/-- `crossed`. -/
def GateTables.crossed (tables : GateTables) (request : DeploymentGateRequest)
    (payload : Bytes) : Transaction GateTables := do
  raiseIf (request.operationId ∈ tables.handoffs.map Handoff.operation)
    (.uniqueViolation "gate_handoffs_pkey")
  .ok { tables with
    handoffs := tables.handoffs ++ [⟨request.operationId, request.encoded, payload,
      request.entitlementHead, request.mode⟩] }

/-! ### What the two calls guarantee together -/

theorem crossed_ok {tables after : GateTables} {request : DeploymentGateRequest} {payload : Bytes}
    (crossed : tables.crossed request payload = .ok after) :
    request.operationId ∉ tables.handoffs.map Handoff.operation ∧
      after = { tables with
        handoffs := tables.handoffs ++ [⟨request.operationId, request.encoded, payload,
          request.entitlementHead, request.mode⟩] } := by
  obtain ⟨_, fresh, crossed⟩ := bind_ok.mp crossed
  cases crossed
  exact ⟨raiseIf_ok.mp fresh, rfl⟩

namespace PostgresDeploymentGate

theorem previous_eq_none {tables : GateTables} {operation : String} :
    previous tables operation = none ↔ operation ∉ tables.handoffs.map Handoff.operation := by
  simp [previous, List.find?_eq_none]

/-- Distinct operations find their own handoff. -/
theorem previous_of_mem {tables : GateTables}
    (distinct : (tables.handoffs.map Handoff.operation).Nodup) {handoff : Handoff}
    (member : handoff ∈ tables.handoffs) : previous tables handoff.operation = some handoff := by
  have found : ∃ other, previous tables handoff.operation = some other := by
    rw [← Option.isSome_iff_exists, Option.isSome_iff_ne_none, Ne, previous_eq_none, not_not]
    exact List.mem_map_of_mem member
  obtain ⟨other, isFound⟩ := found
  have same : other.operation = handoff.operation := by
    simpa using List.find?_some isFound
  rw [isFound, List.inj_on_of_nodup_map distinct (List.mem_of_find?_eq_some isFound) member same]

variable [Hashlib] {gate : PostgresDeploymentGate} {request : DeploymentGateRequest}

/-- A required handoff that is new finds the cap not yet used up. -/
theorem require_fresh {now : Int} {tables : GateTables}
    {surface : String} {payload : Bytes} {live answer : Bool}
    (required : gate.require now tables request surface payload live = .ok answer)
    (fresh : request.operationId ∉ tables.handoffs.map Handoff.operation) :
    answer = true ∧ ∃ current proof, tables.current = some (current, proof) ∧
      request.entitlementHead = current.entitlementHead ∧ request.mode = current.mode ∧
      tables.used current.entitlementHead current.mode < (current.bounds.cap : Nat) := by
  unfold require at required
  cases imported : tables.current with
  | none =>
      rw [imported] at required
      cases required
  | some row =>
      obtain ⟨current, proof⟩ := row
      rw [imported] at required
      obtain ⟨_, _, required⟩ := bind_ok.mp required
      obtain ⟨_, exactly, required⟩ := bind_ok.mp required
      rw [previous_eq_none.mpr fresh] at required
      obtain ⟨_, _, required⟩ := bind_ok.mp required
      obtain ⟨_, free, required⟩ := bind_ok.mp required
      cases required
      have bindings := raiseIf_ok.mp exactly
      simp only [not_or, not_not] at bindings
      exact ⟨rfl, current, proof, rfl, bindings.2.2.2.2.2.2.2.1, bindings.2.2.2.2.2.1,
        Nat.lt_of_not_le (raiseIf_ok.mp free)⟩

/-- A required handoff that is recorded is the recorded one. -/
theorem require_recorded {now : Int} {tables : GateTables}
    {surface : String} {payload : Bytes} {live answer : Bool}
    {recorded : Handoff} (known : previous tables request.operationId = some recorded)
    (required : gate.require now tables request surface payload live = .ok answer) :
    answer = false ∧ recorded.request = request.encoded ∧ recorded.payload = payload := by
  unfold require at required
  cases imported : tables.current with
  | none =>
      rw [imported] at required
      cases required
  | some row =>
      rw [imported] at required
      obtain ⟨_, _, required⟩ := bind_ok.mp required
      obtain ⟨_, _, required⟩ := bind_ok.mp required
      rw [known] at required
      obtain ⟨_, same, required⟩ := bind_ok.mp required
      have pair := not_not.mp (raiseIf_ok.mp same)
      obtain ⟨requests, payloads⟩ := Prod.mk.inj pair
      refine ⟨?_, requests, payloads⟩
      split at required
      · obtain ⟨_, _, required⟩ := bind_ok.mp required
        cases required
        rfl
      · cases required
        rfl

/-- A crossing in the transaction of its check: the cap in force holds before and after. -/
theorem cap_holds {now : Int} {tables after : GateTables}
    {surface : String} {payload : Bytes} {live answer : Bool}
    (required : gate.require now tables request surface payload live = .ok answer)
    (crossed : tables.crossed request payload = .ok after) :
    ∃ current proof, after.current = some (current, proof) ∧
      request.entitlementHead = current.entitlementHead ∧ request.mode = current.mode ∧
      tables.used current.entitlementHead current.mode < (current.bounds.cap : Nat) ∧
      after.used current.entitlementHead current.mode ≤ (current.bounds.cap : Nat) := by
  obtain ⟨fresh, rfl⟩ := crossed_ok crossed
  obtain ⟨_, current, proof, imported, head, mode, below⟩ := require_fresh required fresh
  refine ⟨current, proof, imported, head, mode, below, ?_⟩
  have grown : GateTables.used
      { tables with handoffs := tables.handoffs ++ [⟨request.operationId, request.encoded,
        payload, request.entitlementHead, request.mode⟩] }
      current.entitlementHead current.mode =
        tables.used current.entitlementHead current.mode + 1 := by
    simp [GateTables.used, List.filter_append, head, mode]
  rw [grown]
  exact below

end PostgresDeploymentGate

end Chiplog.Platform
