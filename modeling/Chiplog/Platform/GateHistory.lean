import Chiplog.Platform.BrokerGate
import Mathlib.Tactic.Common

namespace Chiplog.Platform

open Chiplog.Data Chiplog.Data.HashChain

/-! What the decided events amount to.

The fold of the events is stated on its own: the last import is current, every handoff has its
row, and a row is materialized once its operation is.  An event is allowed after those before
it exactly as the gate checks; then the replay of the journal never fails and yields the fold. -/

namespace GateEvent

def imported : GateEvent → Option (CurrentEntitlement × Bytes)
  | .current value proof => some (value, proof)
  | _ => none

def generation : GateEvent → Option (String × Nat)
  | .current value _ => some (value.generation.epoch, value.generation.sequence)
  | _ => none

def handedOperation : GateEvent → Option String
  | .handoff request _ _ => some request.operationId
  | _ => none

def materializedOperation : GateEvent → Option String
  | .materialized operation => some operation
  | _ => none

/-- A handoff under an entitlement and a mode. -/
def handsUnder (entitlement : String) (mode : DeploymentMode) : GateEvent → Bool
  | .handoff request _ _ => request.entitlementHead = entitlement ∧ request.mode = mode
  | _ => false

/-- The row of a handoff among the events. -/
def row (events : List GateEvent) : GateEvent → Option HandoffRow
  | .handoff request payload execution =>
      some ⟨request.operationId, request.encoded, payload, request.entitlementHead, request.mode,
        execution,
        if request.operationId ∈ events.filterMap materializedOperation then .materialized
        else .pending⟩
  | _ => none

end GateEvent

def decidedCurrent (events : List GateEvent) : Option (CurrentEntitlement × Bytes) :=
  (events.filterMap GateEvent.imported).getLast?

def decidedHandoffs (events : List GateEvent) : List HandoffRow :=
  events.filterMap (GateEvent.row events)

/-- The fold of the decided events. -/
def decidedTables (events : List GateEvent) : BrokerTables :=
  ⟨decidedCurrent events, decidedHandoffs events⟩

/-- What the gate demands of an event after those decided before. -/
def Allowed (events : List GateEvent) : GateEvent → Prop
  | .current value _ =>
      BrokerDeploymentGate.Succeeds value ((decidedCurrent events).map Prod.fst)
  | .handoff request _ _ =>
      request.operationId ∉ events.filterMap GateEvent.handedOperation ∧
        ∃ current proof, decidedCurrent events = some (current, proof) ∧
          request.entitlementHead = current.entitlementHead ∧ request.mode = current.mode ∧
          (decidedTables events).used request.entitlementHead request.mode < current.bounds.cap
  | .materialized operation =>
      operation ∈ events.filterMap GateEvent.handedOperation ∧
        operation ∉ events.filterMap GateEvent.materializedOperation

inductive Decided : List GateEvent → Prop
  | nil : Decided []
  | snoc {events : List GateEvent} {event : GateEvent} (history : Decided events)
      (allowed : Allowed events event) : Decided (events ++ [event])

/-! ### The fold, one event at a time -/

theorem row_operation {events : List GateEvent} :
    (decidedHandoffs events).map HandoffRow.operation =
      events.filterMap GateEvent.handedOperation := by
  rw [decidedHandoffs, List.map_filterMap]
  apply List.filterMap_congr
  intro event _
  cases event <;> rfl

theorem used_count {events : List GateEvent} {entitlement : String} {mode : DeploymentMode} :
    (decidedTables events).used entitlement mode =
      events.countP (GateEvent.handsUnder entitlement mode) := by
  rw [BrokerTables.used, ← List.countP_eq_length_filter, decidedTables, decidedHandoffs,
    List.countP_filterMap]
  apply List.countP_congr
  intro event _
  cases event <;> simp [GateEvent.row, GateEvent.handsUnder]

/-- Only a materialization changes the rows of the handoffs before it. -/
theorem row_snoc {events : List GateEvent} {event : GateEvent}
    (other : event.materializedOperation = none) :
    GateEvent.row (events ++ [event]) = GateEvent.row events := by
  funext earlier
  cases earlier with
  | handoff request payload execution =>
      simp only [GateEvent.row, List.filterMap_append, List.filterMap_cons_none other,
        List.filterMap_nil, List.append_nil]
  | current => rfl
  | materialized => rfl

theorem decidedCurrent_snoc {events : List GateEvent} {event : GateEvent}
    (other : event.imported = none) : decidedCurrent (events ++ [event]) = decidedCurrent events := by
  rw [decidedCurrent, List.filterMap_append, List.filterMap_cons_none other, List.filterMap_nil,
    List.append_nil, decidedCurrent]

theorem decidedCurrent_generation {events : List GateEvent} :
    (decidedCurrent events).map (fun current =>
        (current.1.generation.epoch, current.1.generation.sequence)) =
      (events.filterMap GateEvent.generation).getLast? := by
  rw [decidedCurrent, ← List.getLast?_map, List.map_filterMap]
  congr 1
  apply List.filterMap_congr
  intro event _
  cases event <;> rfl

theorem decidedTables_current (events : List GateEvent) (value : CurrentEntitlement)
    (proof : Bytes) : decidedTables (events ++ [.current value proof]) =
      { decidedTables events with current := some (value, proof) } := by
  have current : decidedCurrent (events ++ [.current value proof]) = some (value, proof) := by
    rw [decidedCurrent, List.filterMap_append]
    exact List.getLast?_concat
  have handoffs : decidedHandoffs (events ++ [.current value proof]) = decidedHandoffs events := by
    rw [decidedHandoffs, row_snoc rfl, List.filterMap_append]
    exact List.append_nil _
  rw [decidedTables, current, handoffs, decidedTables]

theorem decidedTables_handoff (events : List GateEvent) (request : DeploymentGateRequest)
    (payload execution : Bytes)
    (fresh : request.operationId ∉ events.filterMap GateEvent.materializedOperation) :
    decidedTables (events ++ [.handoff request payload execution]) =
      { decidedTables events with
        handoffs := (decidedTables events).handoffs ++ [⟨request.operationId, request.encoded,
          payload, request.entitlementHead, request.mode, execution, .pending⟩] } := by
  have row : GateEvent.row events (.handoff request payload execution) =
      some ⟨request.operationId, request.encoded, payload, request.entitlementHead, request.mode,
        execution, .pending⟩ := by
    rw [GateEvent.row, if_neg fresh]
  have handoffs : decidedHandoffs (events ++ [.handoff request payload execution]) =
      decidedHandoffs events ++ [⟨request.operationId, request.encoded, payload,
        request.entitlementHead, request.mode, execution, .pending⟩] := by
    rw [decidedHandoffs, row_snoc rfl, List.filterMap_append, List.filterMap_cons_some row]
    rfl
  rw [decidedTables, decidedCurrent_snoc rfl, handoffs, decidedTables]

theorem decidedTables_materialized (events : List GateEvent) (operation : String) :
    decidedTables (events ++ [.materialized operation]) =
      (decidedTables events).materialize operation := by
  have rows : ∀ event, GateEvent.row (events ++ [.materialized operation]) event =
      (GateEvent.row events event).map (BrokerTables.settled operation) := by
    intro event
    cases event with
    | handoff request payload execution =>
        simp only [GateEvent.row, List.filterMap_append, List.mem_append, Option.map_some,
          BrokerTables.settled]
        by_cases same : request.operationId = operation
        · simp [GateEvent.materializedOperation, same]
        · simp [GateEvent.materializedOperation, same]
    | current => rfl
    | materialized => rfl
  have mapped : decidedHandoffs (events ++ [.materialized operation]) =
      (decidedHandoffs events).map (BrokerTables.settled operation) := by
    rw [decidedHandoffs, decidedHandoffs, List.filterMap_append, List.map_filterMap]
    rw [List.filterMap_congr (fun event _ => rows event)]
    simp [GateEvent.row]
  rw [decidedTables, mapped]
  simp [decidedCurrent, GateEvent.imported, BrokerTables.materialize, decidedTables]

/-! ### What a history excludes -/

namespace Decided

variable {events : List GateEvent}

theorem each (decided : Decided events) : AtEach Allowed events := by
  induction decided with
  | nil => exact AtEach.nil
  | snoc _ allowed ih => exact ih.snoc allowed

theorem front {event : GateEvent} (decided : Decided (events ++ [event])) :
    Decided events ∧ Allowed events event := by
  generalize whole : events ++ [event] = history at decided
  cases decided with
  | nil => simp at whole
  | snoc before allowed =>
      obtain ⟨rfl, same⟩ := List.append_inj' whole rfl
      obtain rfl := List.singleton_inj.mp same
      exact ⟨before, allowed⟩

theorem handed_nodup (decided : Decided events) :
    (events.filterMap GateEvent.handedOperation).Nodup := by
  induction decided with
  | nil => exact List.nodup_nil
  | @snoc events event _ allowed ih =>
      rw [List.filterMap_append]
      cases event with
      | handoff => exact List.concat_eq_append ▸ ih.concat allowed.1
      | current => exact (List.append_nil _).symm ▸ ih
      | materialized => exact (List.append_nil _).symm ▸ ih

theorem materialized_nodup (decided : Decided events) :
    (events.filterMap GateEvent.materializedOperation).Nodup := by
  induction decided with
  | nil => exact List.nodup_nil
  | @snoc events event _ allowed ih =>
      rw [List.filterMap_append]
      cases event with
      | materialized => exact List.concat_eq_append ▸ ih.concat allowed.2
      | current => exact (List.append_nil _).symm ▸ ih
      | handoff => exact (List.append_nil _).symm ▸ ih

theorem materialized_handed (decided : Decided events) :
    events.filterMap GateEvent.materializedOperation ⊆
      events.filterMap GateEvent.handedOperation := by
  intro operation member
  obtain ⟨event, settled, names⟩ := List.mem_filterMap.mp member
  obtain ⟨front, rest, rfl⟩ := List.append_of_mem settled
  cases event with
  | materialized operation =>
      obtain rfl := Option.some.inj names
      rw [List.filterMap_append]
      exact List.mem_append_left _ (decided.each front _ rest rfl).1
  | current => simp [GateEvent.materializedOperation] at names
  | handoff => simp [GateEvent.materializedOperation] at names

/-- The generations of the imports count up from zero within one epoch. -/
theorem generations_counted (decided : Decided events) :
    ∃ epoch, events.filterMap GateEvent.generation =
      (List.range (events.filterMap GateEvent.generation).length).map (fun count =>
        (epoch, count)) := by
  induction decided with
  | nil => exact ⟨"", rfl⟩
  | @snoc events event _ allowed ih =>
      obtain ⟨epoch, counted⟩ := ih
      cases event with
      | handoff => exact ⟨epoch, by rwa [List.filterMap_append, List.filterMap_cons_none rfl,
          List.filterMap_nil, List.append_nil]⟩
      | materialized => exact ⟨epoch, by rwa [List.filterMap_append, List.filterMap_cons_none rfl,
          List.filterMap_nil, List.append_nil]⟩
      | current value proof =>
          have last := @decidedCurrent_generation events
          rw [counted] at last
          have grown : (events ++ [GateEvent.current value proof]).filterMap GateEvent.generation =
              events.filterMap GateEvent.generation ++
                [(value.generation.epoch, value.generation.sequence)] := by
            rw [List.filterMap_append]
            rfl
          rw [grown, List.length_append, List.length_singleton, List.range_succ]
          generalize (events.filterMap GateEvent.generation).length = count at counted last ⊢
          cases current : decidedCurrent events with
          | none =>
              rw [Allowed, current] at allowed
              have empty : count = 0 := by simpa [current] using last
              have first : value.generation.sequence = 0 := allowed
              exact ⟨value.generation.epoch, by rw [counted, empty, first]; rfl⟩
          | some before =>
              rw [Allowed, current] at allowed
              obtain ⟨sameEpoch, following⟩ := allowed
              cases count with
              | zero => simp [current] at last
              | succ count =>
                  obtain ⟨own, number⟩ : before.1.generation.epoch = epoch ∧
                      before.1.generation.sequence = count := by
                    simpa [current, List.range_succ] using last
                  refine ⟨epoch, ?_⟩
                  rw [counted, sameEpoch, following, own, number, List.map_append]
                  rfl

end Decided

/-! ### The replay of a history -/

theorem crossed_pending {events : List GateEvent} (decided : Decided events) {operation : String}
    (handed : operation ∈ events.filterMap GateEvent.handedOperation)
    (open_ : operation ∉ events.filterMap GateEvent.materializedOperation) :
    ((decidedTables events).handoffs.filter (fun row =>
      row.operation = operation ∧ row.disposition = .pending)).length = 1 := by
  have own : ∀ row ∈ decidedHandoffs events, (decide (row.operation = operation ∧
      row.disposition = .pending) = true ↔ (row.operation == operation) = true) := by
    intro row member
    obtain ⟨event, _, shape⟩ := List.mem_filterMap.mp member
    cases event with
    | handoff request payload execution =>
        obtain rfl := (Option.some.inj shape).symm
        simp only [decide_eq_true_eq, beq_iff_eq, and_iff_left_iff_imp]
        intro same
        exact if_neg (same ▸ open_)
    | current => simp [GateEvent.row] at shape
    | materialized => simp [GateEvent.row] at shape
  rw [← List.countP_eq_length_filter]
  calc (decidedHandoffs events).countP _
      = (decidedHandoffs events).countP (fun row => row.operation == operation) :=
        List.countP_congr own
    _ = ((decidedHandoffs events).map HandoffRow.operation).count operation := by
        rw [List.count, List.countP_map]; rfl
    _ = 1 := by
        rw [row_operation]
        exact List.count_eq_one_of_mem decided.handed_nodup handed

theorem replay_decided {events : List GateEvent} (decided : Decided events) {event : GateEvent}
    (allowed : Allowed events event) {tenant : String}
    {entry : Entry String Decision} (body : entry.body = ⟨tenant, event⟩) :
    BrokerTables.replay tenant (decidedTables events) entry =
      .ok (decidedTables (events ++ [event])) := by
  rw [BrokerTables.replay, body]
  dsimp only
  rw [raiseIf_neg (not_not.mpr rfl)]
  cases event with
  | current value proof =>
      rw [decidedTables_current]
      rfl
  | handoff request payload execution =>
      have fresh : request.operationId ∉ (decidedTables events).handoffs.map HandoffRow.operation := by
        rw [decidedTables, row_operation]
        exact allowed.1
      rw [decidedTables_handoff events request payload execution
        (fun known => allowed.1 (decided.materialized_handed known))]
      change BrokerTables.insertHandoff _ _ _ _ = _
      rw [BrokerTables.insertHandoff, raiseIf_neg fresh]
      rfl
  | materialized operation =>
      have one := crossed_pending decided allowed.1 allowed.2
      rw [decidedTables_materialized]
      change (do raiseIf _ _; _) = _
      rw [raiseIf_neg (not_not.mpr one)]
      rfl

/-- The decided events of a journal. -/
def GateJournal.events (journal : GateJournal) : List GateEvent :=
  journal.map (fun entry => entry.body.event)

/-- The journal of a tenant replays to the fold of its events. -/
theorem replay_journal {tenant : String} {journal : GateJournal}
    (own : ∀ entry ∈ journal, entry.body.tenant = tenant) (decided : Decided journal.events) :
    journal.foldlM (BrokerTables.replay tenant) .empty = .ok (decidedTables journal.events) := by
  induction journal using List.reverseRecOn with
  | nil => rfl
  | append_singleton journal entry ih =>
      rw [GateJournal.events, List.map_append, List.map_singleton] at decided ⊢
      obtain ⟨before, allowed⟩ := decided.front
      have front := ih (fun entry member => own entry (List.mem_append_left _ member)) before
      have last : entry.body = ⟨tenant, entry.body.event⟩ := by
        rw [← own entry (by simp)]
      rw [List.foldlM_append, front]
      exact (bind_pure _).trans (replay_decided before allowed last)

end Chiplog.Platform
