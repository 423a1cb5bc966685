import Chiplog.Data.Dict
import Chiplog.Data.HashChain
import Chiplog.Platform.PostgresGate

namespace Chiplog.Platform

open Chiplog.Data

/-! Broker-owned durable ordering of entitlement invalidation and exact handoff.

An independent journal decides; the tables are rebuilt from it at the start of every
transaction.  An append may take effect and still fail, and the transaction around it may be
rolled back after the decision, so the reply is judged by what the journal says. -/

/-- A decided event; its tenant is that of the gate. -/
inductive GateEvent where
  | current (value : CurrentEntitlement) (proof : Bytes)
  | handoff (request : DeploymentGateRequest) (payload execution : Bytes)
  | materialized (operation : String)
deriving DecidableEq

structure Decision where
  tenant : String
  event : GateEvent
deriving DecidableEq

def GateEvent.fields : GateEvent → List (String × Json)
  | .current value proof =>
      [("kind", .str "CURRENT"), ("payload", .str (hex value.encoded)), ("proof", .str (hex proof))]
  | .handoff request payload execution =>
      [("kind", .str "HANDOFF"), ("request", .str (hex request.encoded)),
        ("payload", .str (hex payload)), ("execution", .str (hex execution))]
  | .materialized operation => [("kind", .str "MATERIALIZED"), ("operation", .str operation)]

/-- The bytes that the journal keeps of a decision. -/
def Decision.encoded (decision : Decision) : Bytes :=
  Json.encodeAscii (.obj (decision.event.fields ++ [("tenant", .str decision.tenant)]))

/-- The entries of the journal: head, prior head and decision. -/
abbrev GateJournal := List (HashChain.Entry String Decision)

/-- Everything that a call of the gate may raise. -/
inductive GateFailure where
  | integrity (reason : String)
  | indeterminate (reason : String)
  | sqlite (constraint : String)
deriving DecidableEq

inductive HandoffDisposition where
  | pending
  | materialized
deriving DecidableEq

/-- A row of `gate_handoffs`. -/
structure HandoffRow where
  operation : String
  request : Bytes
  payload : Bytes
  entitlement : String
  mode : DeploymentMode
  execution : Bytes
  disposition : HandoffDisposition
deriving DecidableEq

/-- `gate_current`, with the view its bytes hold and their proof, and `gate_handoffs`. -/
structure BrokerTables where
  current : Option (CurrentEntitlement × Bytes)
  handoffs : List HandoffRow
deriving DecidableEq

namespace BrokerTables

def empty : BrokerTables := ⟨none, []⟩

def crossed (tables : BrokerTables) (operation : String) : Option HandoffRow :=
  tables.handoffs.find? (fun row => row.operation = operation)

def used (tables : BrokerTables) (entitlement : String) (mode : DeploymentMode) : Nat :=
  (tables.handoffs.filter (fun row => row.entitlement = entitlement ∧ row.mode = mode)).length

/-- `INSERT INTO gate_handoffs`. -/
def insertHandoff (tables : BrokerTables) (request : DeploymentGateRequest)
    (payload execution : Bytes) : Except GateFailure BrokerTables := do
  raiseIf (request.operationId ∈ tables.handoffs.map HandoffRow.operation)
    (.sqlite "gate_handoffs")
  .ok { tables with
    handoffs := tables.handoffs ++ [⟨request.operationId, request.encoded, payload,
      request.entitlementHead, request.mode, execution, .pending⟩] }

/-- The update of one row when its operation is materialized. -/
def settled (operation : String) (row : HandoffRow) : HandoffRow :=
  if row.operation = operation then { row with disposition := .materialized } else row

def materialize (tables : BrokerTables) (operation : String) : BrokerTables :=
  { tables with handoffs := tables.handoffs.map (settled operation) }

/-- One entry of the journal in `_synchronize`. -/
def replay (tenantId : String) (tables : BrokerTables)
    (entry : HashChain.Entry String Decision) : Except GateFailure BrokerTables := do
  raiseIf (entry.body.tenant ≠ tenantId) (.integrity "foreign tenant in gate decision journal")
  match entry.body.event with
  | .current value proof => .ok { tables with current := some (value, proof) }
  | .handoff request payload execution => tables.insertHandoff request payload execution
  | .materialized operation => do
      raiseIf ((tables.handoffs.filter (fun row =>
          row.operation = operation ∧ row.disposition = .pending)).length ≠ 1)
        (.integrity "orphan or duplicate materialization decision")
      .ok (tables.materialize operation)

end BrokerTables

/-- What an append of the journal does and answers. -/
inductive AppendOutcome where
  | succeeds (head : String)
  | failsAfter (head : String)
  | fails
deriving DecidableEq

namespace GateJournal

/-- The journal takes a decision that names its head under a new one; without an answer the
append has raised. -/
def append (journal : GateJournal) (decision : Decision) (predecessor : Option String) :
    AppendOutcome → GateJournal × Option String
  | .succeeds head =>
      if predecessor = HashChain.head journal ∧ head ∉ journal.map HashChain.Entry.id then
        (journal ++ [⟨head, predecessor, decision⟩], some head)
      else (journal, none)
  | .failsAfter head =>
      if predecessor = HashChain.head journal ∧ head ∉ journal.map HashChain.Entry.id then
        (journal ++ [⟨head, predecessor, decision⟩], none)
      else (journal, none)
  | .fails => (journal, none)

/-- The entries that are exactly this decision after this predecessor. -/
def exact (journal : GateJournal) (decision : Decision) (predecessor : Option String) :
    GateJournal :=
  journal.filter (fun entry =>
    entry.predecessor = predecessor ∧ entry.body.encoded = decision.encoded)

/-- `_decide`: a failed append is judged by what the journal shows, if it can be read. -/
def decide (journal : GateJournal) (decision : Decision) (predecessor : Option String)
    (outcome : AppendOutcome) (observable : Bool) : GateJournal × Except GateFailure Unit :=
  match journal.append decision predecessor outcome with
  | (after, some _) => (after, .ok ())
  | (after, none) =>
      if observable = false then
        (after, .error (.indeterminate "gate decision requires journal reconciliation"))
      else if (exact after decision predecessor).length = 1 then (after, .ok ())
      else (after, .error (.integrity "authenticated journal proves no exact gate decision"))

end GateJournal

structure BrokerDeploymentGate where
  tenantId : String
  surfaces : Dict String String
  authenticate : Option (Bytes → Bytes → Bool)

inductive PermitDisposition where
  | permitExactEvaluation
  | permitExactProduction
  | hold
deriving DecidableEq

structure DeploymentGateResult where
  disposition : PermitDisposition
  requestDigest : String
  reason : String
deriving DecidableEq

/-- How a transaction ends once its body is done: it commits, it is rolled back with an error,
or the process is gone. -/
inductive Ending where
  | commits
  | rollsBack
  | crashes
deriving DecidableEq

/-- What a call meets on its way. -/
structure Circumstances where
  readable : Bool
  now : Int
  append : AppendOutcome
  observable : Bool
  ending : Ending

/-- What the instances of a tenant's gate share. -/
structure GateWorld where
  journal : GateJournal
  tables : BrokerTables

def GateWorld.initial : GateWorld := ⟨[], .empty⟩

/-- A call's reply, or none if the process is gone. -/
abbrev GateReply (α : Type) := Option (Except GateFailure α)

namespace BrokerDeploymentGate

/-- `self._authenticate is not None and self._authenticate(payload, proof)`. -/
def verifies (gate : BrokerDeploymentGate) (payload proof : Bytes) : Bool :=
  match gate.authenticate with
  | none => false
  | some authenticate => authenticate payload proof

/-- `_synchronize`, on the tables of the last committed transaction. -/
def synchronize (gate : BrokerDeploymentGate) (readable : Bool) (world : GateWorld) :
    Except GateFailure BrokerTables := do
  raiseIf (readable = false) (.integrity "gate decision history is unverifiable")
  raiseIf (world.journal = [] ∧ (world.tables.current ≠ none ∨ world.tables.handoffs ≠ []))
    (.integrity "populated gate cache has no independent decision history")
  world.journal.foldlM (BrokerTables.replay gate.tenantId) .empty

/-- `_current`. -/
def currentEntitlement (gate : BrokerDeploymentGate) (tables : BrokerTables) :
    Except GateFailure (Option CurrentEntitlement) :=
  match tables.current with
  | none => .ok none
  | some (value, proof) => do
      raiseIf (gate.verifies value.encoded proof = false)
        (.integrity "deployment gate current entitlement is unverifiable")
      .ok (some value)

section

variable [Hashlib]

def requestDigest (request : DeploymentGateRequest) : String := (sha256 request.encoded).text

def hold (request : DeploymentGateRequest) (reason : String) : DeploymentGateResult :=
  ⟨.hold, requestDigest request, reason⟩

/-- The checks of `_evaluate` in their order; the first that fails gives the reason. -/
def eligible (gate : BrokerDeploymentGate) (tables : BrokerTables)
    (request : DeploymentGateRequest) (current : CurrentEntitlement) (now : Int) :
    Except String Unit := do
  raiseIf (gate.surfaces.get? request.surfaceId ≠ some request.bounds.capabilityId)
    "surface is absent or has another capability"
  raiseIf (request.generation.tenantId ≠ gate.tenantId ∨ request.generation ≠ current.generation)
    "generation or tenant changed"
  raiseIf (request.mode ≠ current.mode ∨ request.readinessHead ≠ current.readinessHead ∨
      request.entitlementHead ≠ current.entitlementHead ∨
      request.evidenceCursors ≠ current.evidenceCursors ∨
      request.freshnessLeases ≠ current.freshnessLeases ∨ request.bounds ≠ current.bounds)
    "complete eligibility binding changed"
  raiseIf (now < 0) "trusted clock is unavailable"
  let bounds := current.bounds
  raiseIf (¬ ((bounds.startsNs : Int) ≤ now ∧ now < (bounds.expiresNs : Nat)))
    "entitlement is outside its duration"
  raiseIf (current.readiness ≠ .ready ∨ current.status ≠ .active ∨ current.openCauses ≠ [])
    "readiness or entitlement is held"
  raiseIf (current.livePredicates = [] ∨ ∃ row ∈ current.livePredicates, row.2 = false)
    "live eligibility predicates are missing or false"
  raiseIf (notClosed (current.livePredicates.map Prod.fst) ∨
      notClosed (current.evidenceCursors.map Prod.fst) ∨
      notClosed (current.freshnessLeases.map Prod.fst))
    "eligibility input keys are missing, duplicate or unordered"
  raiseIf (∃ row ∈ current.freshnessLeases, row.2 ≤ now) "freshness lease expired"
  raiseIf (notClosed bounds.instrumentation ∨ notClosed bounds.stopRules)
    "instrumentation or stop rules are not closed"
  raiseIf ("" ∈ [request.operationId, request.payloadDigest, request.readinessHead,
      request.entitlementHead, bounds.capabilityId, bounds.cohortId, bounds.purpose])
    "required identity is missing"
  raiseIf (tables.crossed request.operationId).isSome
    "operation already crossed its boundary; inspect recorded disposition"
  raiseIf ((bounds.cap : Nat) ≤ tables.used request.entitlementHead request.mode)
    "entitlement cap exhausted"

def permit (request : DeploymentGateRequest) : DeploymentGateResult :=
  ⟨match request.mode with
    | .evaluation => .permitExactEvaluation
    | .production => .permitExactProduction, requestDigest request, "exact current entitlement"⟩

/-- `_evaluate`. -/
def evaluate (gate : BrokerDeploymentGate) (tables : BrokerTables)
    (request : DeploymentGateRequest) (now : Int) : Except GateFailure DeploymentGateResult := do
  match ← gate.currentEntitlement tables with
  | none => .ok (hold request "independent readiness and entitlement are absent")
  | some current =>
      match gate.eligible tables request current now with
      | .error reason => .ok (hold request reason)
      | .ok () => .ok (permit request)

end

/-- What the end of a transaction that decided nothing leaves and answers. -/
def finish (world : GateWorld) (tables : BrokerTables) (ending : Ending) (value : α)
    (failure : Except GateFailure α) : GateWorld × GateReply α :=
  match ending with
  | .commits => ({ world with tables := tables }, some (.ok value))
  | .rollsBack => (world, some failure)
  | .crashes => (world, none)

/-- A call that only reads, such as `observe` or `crossed`. -/
def read (gate : BrokerDeploymentGate) (circumstances : Circumstances) (world : GateWorld) :
    GateWorld × GateReply BrokerTables :=
  match gate.synchronize circumstances.readable world with
  | .error failure => (world, some (.error failure))
  | .ok tables => finish world tables circumstances.ending tables
      (.error (.integrity "deployment authority source unavailable or replaced"))

/-- The comparison of an import with the current entitlement. -/
def Succeeds (value : CurrentEntitlement) : Option CurrentEntitlement → Prop
  | none => value.generation.sequence = 0
  | some current => value.generation.epoch = current.generation.epoch ∧
      value.generation.sequence = current.generation.sequence + 1

instance (value : CurrentEntitlement) (current : Option CurrentEntitlement) :
    Decidable (Succeeds value current) :=
  match current with
  | none => inferInstanceAs (Decidable (_ = _))
  | some _ => inferInstanceAs (Decidable (_ ∧ _))

def importCurrent (gate : BrokerDeploymentGate) (value : CurrentEntitlement) (proof : Bytes)
    (expected : Option CurrentEntitlement) (circumstances : Circumstances) (world : GateWorld) :
    GateWorld × GateReply Bool :=
  let failed : Except GateFailure Bool :=
    .error (.integrity "deployment authority source unavailable or replaced")
  if gate.verifies value.encoded proof = false ∨ value.generation.tenantId ≠ gate.tenantId then
    (world, some (.ok false))
  else
    match gate.synchronize circumstances.readable world with
    | .error failure => (world, some (.error failure))
    | .ok tables =>
        match gate.currentEntitlement tables with
        | .error failure => (world, some (.error failure))
        | .ok current =>
            if current ≠ expected ∨ ¬ Succeeds value current then
              finish world tables circumstances.ending false failed
            else
              match GateJournal.decide world.journal ⟨gate.tenantId, .current value proof⟩
                  (HashChain.head world.journal) circumstances.append circumstances.observable with
              | (journal, .error failure) => ({ world with journal := journal }, some (.error failure))
              | (journal, .ok ()) =>
                  finish { world with journal := journal }
                    { tables with current := some (value, proof) } circumstances.ending true failed

section

variable [Hashlib]

def commitHandoff (gate : BrokerDeploymentGate) (request : DeploymentGateRequest)
    (payload execution : Bytes) (circumstances : Circumstances) (world : GateWorld) :
    GateWorld × GateReply DeploymentGateResult :=
  let unauthorized := some (.ok (hold request "handoff not authorized"))
  if (sha256 payload).text ≠ request.payloadDigest then
    (world, some (.ok (hold request "handoff payload substitution")))
  else
    match gate.synchronize circumstances.readable world with
    | .error _ => (world, unauthorized)
    | .ok tables =>
        match gate.evaluate tables request circumstances.now with
        | .error _ => (world, unauthorized)
        | .ok result =>
            if result.disposition = .hold then
              finish world tables circumstances.ending result
                (.ok (hold request "handoff not authorized"))
            else
              match GateJournal.decide world.journal
                  ⟨gate.tenantId, .handoff request payload execution⟩
                  (HashChain.head world.journal) circumstances.append circumstances.observable with
              -- an error that leaves the decision open is not answered with a hold
              | (journal, .error (.indeterminate reason)) =>
                  ({ world with journal := journal }, some (.error (.indeterminate reason)))
              | (journal, .error _) => ({ world with journal := journal }, unauthorized)
              | (journal, .ok ()) =>
                  let undecided : Except GateFailure DeploymentGateResult :=
                    .error (.indeterminate "handoff may be decided; acknowledgement unavailable")
                  match tables.insertHandoff request payload execution with
                  | .error _ => ({ world with journal := journal }, some undecided)
                  | .ok inserted =>
                      finish { world with journal := journal } inserted circumstances.ending result
                        undecided

end

def materialized (gate : BrokerDeploymentGate) (operationId : String)
    (circumstances : Circumstances) (world : GateWorld) : GateWorld × GateReply Unit :=
  let failed : Except GateFailure Unit :=
    .error (.integrity "deployment authority source unavailable or replaced")
  match gate.synchronize circumstances.readable world with
  | .error failure => (world, some (.error failure))
  | .ok tables =>
      match tables.crossed operationId with
      | none => (world, some (.error (.integrity "materialization has no prior decision")))
      | some row =>
          if row.disposition = .materialized then
            finish world tables circumstances.ending () failed
          else
            match GateJournal.decide world.journal ⟨gate.tenantId, .materialized operationId⟩
                (HashChain.head world.journal) circumstances.append circumstances.observable with
            | (journal, .error failure) => ({ world with journal := journal }, some (.error failure))
            | (journal, .ok ()) =>
                finish { world with journal := journal } (tables.materialize operationId)
                  circumstances.ending () failed

end BrokerDeploymentGate

end Chiplog.Platform
