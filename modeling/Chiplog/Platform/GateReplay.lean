import Chiplog.Platform.GateHistory
import Mathlib.Logic.Relation

namespace Chiplog.Platform

open Chiplog.Data Chiplog.Data.HashChain

/-! The replay of the gate's journal against the live gate.

Whatever an append answers, the journal after a decision is the one before or has that decision
as its last entry, and then the reply is no hold.  Every call therefore keeps the journal a
linked history of allowed events, which any gate of its tenant replays. -/

/-- What every call of a gate leaves behind. -/
structure GateWorld.Sound (world : GateWorld) : Prop where
  linked : AtEach (fun front entry => entry.predecessor = head front) world.journal
  distinct : (world.journal.map Entry.id).Nodup
  decided : Decided world.journal.events
  cached : world.journal = [] → world.tables = .empty

theorem GateWorld.Sound.initial : GateWorld.initial.Sound :=
  ⟨AtEach.nil, List.nodup_nil, .nil, fun _ => rfl⟩

/-! ### A decision -/

namespace GateJournal

variable {journal : GateJournal}

/-- What a decision leaves in the journal and answers: an entry of its own is never answered
with an integrity error. -/
inductive Resolved (journal : GateJournal) (decision : Decision) :
    GateJournal × Except GateFailure Unit → Prop
  | refused (failure : GateFailure) : Resolved journal decision (journal, .error failure)
  | taken {id : String} (fresh : id ∉ journal.map Entry.id) {verdict : Except GateFailure Unit}
      (honest : verdict = .ok () ∨ ∃ reason, verdict = .error (.indeterminate reason)) :
      Resolved journal decision (journal ++ [⟨id, head journal, decision⟩], verdict)

theorem exact_none (decision : Decision)
    (linked : AtEach (fun front entry => entry.predecessor = head front) journal)
    (distinct : (journal.map Entry.id).Nodup) : exact journal decision (head journal) = [] := by
  apply List.filter_eq_nil_iff.mpr
  intro entry member accepted
  have names := (of_decide_eq_true accepted).1
  exact predecessor_ne_head linked distinct member names

theorem exact_taken (decision : Decision) (id : String)
    (linked : AtEach (fun front entry => entry.predecessor = head front) journal)
    (distinct : (journal.map Entry.id).Nodup) :
    exact (journal ++ [⟨id, head journal, decision⟩]) decision (head journal) =
      [⟨id, head journal, decision⟩] := by
  have before := exact_none decision linked distinct
  rw [exact] at before ⊢
  rw [List.filter_append, before, List.nil_append, List.filter_cons_of_pos (by simp)]
  rfl

theorem decide_resolved (decision : Decision) (outcome : AppendOutcome) (observable : Bool)
    (linked : AtEach (fun front entry => entry.predecessor = head front) journal)
    (distinct : (journal.map Entry.id).Nodup) :
    Resolved journal decision (journal.decide decision (head journal) outcome observable) := by
  have unchanged : Resolved journal decision
      (if observable = false then
        (journal, .error (.indeterminate "gate decision requires journal reconciliation"))
      else if (exact journal decision (head journal)).length = 1 then (journal, .ok ())
      else (journal, .error (.integrity "authenticated journal proves no exact gate decision"))) := by
    rw [exact_none decision linked distinct]
    split
    · exact .refused _
    · exact .refused _
  cases outcome with
  | succeeds id =>
      rw [decide, append]
      by_cases guards : head journal = head journal ∧ id ∉ journal.map Entry.id
      · rw [if_pos guards]
        exact .taken guards.2 (Or.inl rfl)
      · rw [if_neg guards]
        exact unchanged
  | failsAfter id =>
      rw [decide, append]
      by_cases guards : head journal = head journal ∧ id ∉ journal.map Entry.id
      · rw [if_pos guards]
        dsimp only
        rw [exact_taken decision id linked distinct]
        split
        · exact .taken guards.2 (Or.inr ⟨_, rfl⟩)
        · exact .taken guards.2 (Or.inl rfl)
      · rw [if_neg guards]
        exact unchanged
  | fails => exact unchanged

end GateJournal

/-! ### A call -/

/-- What a call of a gate does to the journal: nothing, or one allowed decision of its own. -/
inductive GateWorld.Advances (tenant : String) (world : GateWorld) : GateWorld → Prop
  | kept {tables : BrokerTables}
      (cached : tables = world.tables ∨ tables = decidedTables world.journal.events) :
      Advances tenant world ⟨world.journal, tables⟩
  | took {id : String} {event : GateEvent} (tables : BrokerTables)
      (own : ∀ entry ∈ world.journal, entry.body.tenant = tenant)
      (fresh : id ∉ world.journal.map Entry.id) (allowed : Allowed world.journal.events event) :
      Advances tenant world
        ⟨world.journal ++ [⟨id, head world.journal, ⟨tenant, event⟩⟩], tables⟩

theorem GateWorld.Advances.unchanged {tenant : String} {world : GateWorld} :
    world.Advances tenant world := .kept (Or.inl rfl)

namespace GateWorld.Sound

variable {world after : GateWorld}

theorem advances {tenant : String} (sound : world.Sound) (advances : world.Advances tenant after) :
    after.Sound := by
  cases advances with
  | kept cached =>
      refine ⟨sound.linked, sound.distinct, sound.decided, fun empty => ?_⟩
      rcases cached with rfl | rfl
      · exact sound.cached empty
      · change world.journal = [] at empty
        rw [empty]
        rfl
  | took tables own fresh allowed =>
      refine ⟨sound.linked.snoc rfl, ?_, ?_, fun empty => by simp at empty⟩
      · rw [List.map_append]
        exact List.concat_eq_append ▸ sound.distinct.concat fresh
      · change Decided (GateJournal.events (_ ++ _))
        rw [GateJournal.events, List.map_append]
        exact sound.decided.snoc allowed

theorem synchronize (sound : world.Sound) {gate : BrokerDeploymentGate}
    (own : ∀ entry ∈ world.journal, entry.body.tenant = gate.tenantId) :
    gate.synchronize true world = .ok (decidedTables world.journal.events) := by
  have populated : ¬ (world.journal = [] ∧
      (world.tables.current ≠ none ∨ world.tables.handoffs ≠ [])) := by
    rintro ⟨empty, cached⟩
    rw [sound.cached empty] at cached
    simp [BrokerTables.empty] at cached
  rw [BrokerDeploymentGate.synchronize, raiseIf_neg (by simp)]
  change (do raiseIf _ _; _) = _
  rw [raiseIf_neg populated]
  exact replay_journal own sound.decided

/-- A gate that could synchronize is one of the journal's tenant. -/
theorem synchronized (sound : world.Sound) {gate : BrokerDeploymentGate} {readable : Bool}
    {tables : BrokerTables} (done : gate.synchronize readable world = .ok tables) :
    (∀ entry ∈ world.journal, entry.body.tenant = gate.tenantId) ∧
      tables = decidedTables world.journal.events := by
  obtain ⟨_, _, done⟩ := bind_ok.mp done
  obtain ⟨_, _, replayed⟩ := bind_ok.mp done
  have own : ∀ entry ∈ world.journal, entry.body.tenant = gate.tenantId := by
    intro entry member
    obtain ⟨_, _, round⟩ := foldlM_mem_ok replayed member
    obtain ⟨_, checked, _⟩ := bind_ok.mp round
    exact not_not.mp (raiseIf_ok.mp checked)
  rw [replay_journal own sound.decided] at replayed
  exact ⟨own, (Except.ok.inj replayed).symm⟩

end GateWorld.Sound

namespace BrokerDeploymentGate

variable {gate : BrokerDeploymentGate} {world : GateWorld} {circumstances : Circumstances}

theorem finish_advances {tenant : String} {journal : GateJournal} {tables : BrokerTables}
    {ending : Ending} {value : α} {failure : Except GateFailure α}
    (every : ∀ left, left = world.tables ∨ left = tables → world.Advances tenant ⟨journal, left⟩) :
    world.Advances tenant
      (finish { world with journal := journal } tables ending value failure).1 := by
  cases ending with
  | commits => exact every tables (Or.inr rfl)
  | rollsBack => exact every world.tables (Or.inl rfl)
  | crashes => exact every world.tables (Or.inl rfl)

theorem read_advances (sound : world.Sound) :
    world.Advances gate.tenantId (gate.read circumstances world).1 := by
  rw [read]
  split
  · exact .unchanged
  · rename_i tables synced
    obtain ⟨_, rfl⟩ := sound.synchronized synced
    exact finish_advances (fun left cached => .kept cached)

theorem currentEntitlement_ok {tables : BrokerTables} {current : Option CurrentEntitlement}
    (verified : gate.currentEntitlement tables = .ok current) :
    current = tables.current.map Prod.fst := by
  rw [currentEntitlement] at verified
  split at verified
  · rename_i absent
    rw [absent]
    exact (Except.ok.inj verified).symm
  · rename_i value proof stored
    obtain ⟨_, _, same⟩ := bind_ok.mp verified
    rw [stored]
    exact (Except.ok.inj same).symm

theorem importCurrent_advances (sound : world.Sound) (value : CurrentEntitlement) (proof : Bytes)
    (expected : Option CurrentEntitlement) : world.Advances gate.tenantId
      (gate.importCurrent value proof expected circumstances world).1 := by
  rw [importCurrent]
  split
  · exact .unchanged
  split
  · exact .unchanged
  rename_i tables synced
  obtain ⟨own, rfl⟩ := sound.synchronized synced
  split
  · exact .unchanged
  rename_i current verified
  split
  · exact finish_advances (fun left cached => .kept cached)
  rename_i guards
  have allowed : Allowed world.journal.events (.current value proof) := by
    have succeeds := not_not.mp (not_or.mp guards).2
    rw [currentEntitlement_ok verified] at succeeds
    exact succeeds
  have resolved := GateJournal.decide_resolved ⟨gate.tenantId, .current value proof⟩
    circumstances.append circumstances.observable sound.linked sound.distinct
  generalize GateJournal.decide _ _ _ _ _ = outcome at resolved ⊢
  cases resolved with
  | refused failure => exact .unchanged
  | taken fresh honest =>
      rcases honest with rfl | ⟨reason, rfl⟩
      · exact finish_advances (fun left _ => .took left own fresh allowed)
      · exact .took _ own fresh allowed

/-- A row that is not materialized is of an operation handed over but not materialized. -/
theorem crossed_allowed {events : List GateEvent} {operation : String} {row : HandoffRow}
    (crossed : (decidedTables events).crossed operation = some row)
    (unsettled : row.disposition ≠ .materialized) : Allowed events (.materialized operation) := by
  have member := List.mem_of_find?_eq_some crossed
  have names : row.operation = operation := by
    rw [BrokerTables.crossed] at crossed
    have found := List.find?_some crossed
    exact of_decide_eq_true found
  obtain ⟨event, source, shape⟩ := List.mem_filterMap.mp member
  refine ⟨?_, ?_⟩
  · rw [← names, ← row_operation]
    exact List.mem_map_of_mem member
  · intro settled
    apply unsettled
    cases event with
    | handoff request payload execution =>
        obtain rfl := Option.some.inj shape
        obtain rfl : request.operationId = operation := names
        exact if_pos settled
    | current => simp [GateEvent.row] at shape
    | materialized => simp [GateEvent.row] at shape

/-- How a handoff ends: held with the journal as it was, or decided and never held. -/
inductive Handed (gate : BrokerDeploymentGate) (world : GateWorld) (event : GateEvent) :
    GateWorld × GateReply DeploymentGateResult → Prop
  | held {tables : BrokerTables} {reply : GateReply DeploymentGateResult}
      (cached : tables = world.tables ∨ tables = decidedTables world.journal.events)
      (holds : ∀ result, reply = some (.ok result) → result.disposition = .hold) :
      Handed gate world event (⟨world.journal, tables⟩, reply)
  | decided {id : String} (tables : BrokerTables) {reply : GateReply DeploymentGateResult}
      (own : ∀ entry ∈ world.journal, entry.body.tenant = gate.tenantId)
      (fresh : id ∉ world.journal.map Entry.id) (allowed : Allowed world.journal.events event)
      (permits : ∀ result, reply = some (.ok result) → result.disposition ≠ .hold) :
      Handed gate world event
        (⟨world.journal ++ [⟨id, head world.journal, ⟨gate.tenantId, event⟩⟩], tables⟩, reply)

theorem Handed.refused {event : GateEvent} {result : DeploymentGateResult}
    (holds : result.disposition = .hold) : Handed gate world event (world, some (.ok result)) := by
  apply Handed.held (Or.inl rfl)
  rintro _ ⟨⟩
  exact holds

theorem Handed.failed {event : GateEvent} {failure : GateFailure} :
    Handed gate world event (world, some (.error failure)) := by
  apply Handed.held (Or.inl rfl)
  rintro _ ⟨⟩

theorem Handed.advances {event : GateEvent} {outcome : GateWorld × GateReply DeploymentGateResult}
    (handed : Handed gate world event outcome) : world.Advances gate.tenantId outcome.1 := by
  cases handed with
  | held cached _ => exact .kept cached
  | decided tables own fresh allowed _ => exact .took tables own fresh allowed

section

variable [Hashlib]

/-- A decided handoff whose process is gone leaves its entry and the tables as they were. -/
theorem commitHandoff_crashes {request : DeploymentGateRequest} {payload execution : Bytes}
    {readable observable : Bool} {now : Int} {outcome : AppendOutcome} {tables : BrokerTables}
    {result : DeploymentGateResult} {journal : GateJournal}
    (exact : (sha256 payload).text = request.payloadDigest)
    (synced : gate.synchronize readable world = .ok tables)
    (evaluated : gate.evaluate tables request now = .ok result)
    (permitted : result.disposition ≠ .hold)
    (decided : world.journal.decide ⟨gate.tenantId, .handoff request payload execution⟩
      (head world.journal) outcome observable = (journal, .ok ())) :
    (gate.commitHandoff request payload execution ⟨readable, now, outcome, observable, .crashes⟩
      world).1 = { world with journal := journal } := by
  rw [commitHandoff, if_neg (not_not.mpr exact)]
  dsimp only
  rw [synced]
  dsimp only
  rw [evaluated]
  dsimp only
  rw [if_neg permitted, decided]
  dsimp only
  cases tables.insertHandoff request payload execution with
  | error => rfl
  | ok => rfl

/-- A permit is one for an operation not yet handed over, below the cap of the entitlement that
the request names exactly. -/
theorem evaluate_permits {events : List GateEvent} {request : DeploymentGateRequest} {now : Int}
    {result : DeploymentGateResult} (payload execution : Bytes)
    (evaluated : gate.evaluate (decidedTables events) request now = .ok result)
    (permitted : result.disposition ≠ .hold) : Allowed events (.handoff request payload execution) := by
  obtain ⟨current, verified, evaluated⟩ := bind_ok.mp evaluated
  have stored := currentEntitlement_ok verified
  cases current with
  | none =>
      obtain rfl := Except.ok.inj evaluated
      exact absurd rfl permitted
  | some current =>
      dsimp only at evaluated
      split at evaluated
      · obtain rfl := Except.ok.inj evaluated
        exact absurd rfl permitted
      rename_i eligible
      obtain ⟨⟨own, proof⟩, isCurrent, rfl⟩ := Option.map_eq_some_iff.mp stored.symm
      obtain ⟨_, _, eligible⟩ := bind_ok.mp eligible
      obtain ⟨_, _, eligible⟩ := bind_ok.mp eligible
      obtain ⟨_, binding, eligible⟩ := bind_ok.mp eligible
      iterate 8 obtain ⟨_, _, eligible⟩ := bind_ok.mp eligible
      obtain ⟨_, uncrossed, capped⟩ := bind_ok.mp eligible
      have same := raiseIf_ok.mp binding
      push Not at same
      have below := raiseIf_ok.mp capped
      refine ⟨?_, own, proof, isCurrent, same.2.2.1, same.1, Nat.not_le.mp below⟩
      rw [← row_operation]
      intro handed
      obtain ⟨row, member, names⟩ := List.mem_map.mp handed
      apply raiseIf_ok.mp uncrossed
      exact List.find?_isSome.mpr ⟨row, member, decide_eq_true names⟩

theorem commitHandoff_handed (sound : world.Sound) (request : DeploymentGateRequest)
    (payload execution : Bytes) : Handed gate world (.handoff request payload execution)
      (gate.commitHandoff request payload execution circumstances world) := by
  rw [commitHandoff]
  dsimp only
  split
  · exact .refused rfl
  split
  · exact .refused rfl
  rename_i tables synced
  obtain ⟨own, rfl⟩ := sound.synchronized synced
  split
  · exact .refused rfl
  rename_i result evaluated
  split
  · rename_i holds
    cases circumstances.ending with
    | commits =>
        apply Handed.held (Or.inr rfl)
        rintro _ ⟨⟩
        exact holds
    | rollsBack => exact .refused rfl
    | crashes => exact .held (Or.inl rfl) (fun _ absent => nomatch absent)
  rename_i permitted
  have allowed := evaluate_permits payload execution evaluated permitted
  have resolved := GateJournal.decide_resolved ⟨gate.tenantId, .handoff request payload execution⟩
    circumstances.append circumstances.observable sound.linked sound.distinct
  generalize GateJournal.decide _ _ _ _ _ = outcome at resolved ⊢
  cases resolved with
  | refused failure =>
      cases failure with
      | integrity reason => exact .refused rfl
      | indeterminate reason => exact .failed
      | sqlite constraint => exact .refused rfl
  | taken fresh honest =>
      rcases honest with rfl | ⟨reason, rfl⟩
      · dsimp only
        split
        · exact .decided _ own fresh allowed (fun _ failed => nomatch failed)
        · cases circumstances.ending with
          | commits =>
              apply Handed.decided _ own fresh allowed
              rintro _ ⟨⟩
              exact permitted
          | rollsBack => exact .decided _ own fresh allowed (fun _ failed => nomatch failed)
          | crashes => exact .decided _ own fresh allowed (fun _ absent => nomatch absent)
      · exact .decided _ own fresh allowed (fun _ failed => nomatch failed)

end

theorem materialized_advances (sound : world.Sound) (operationId : String) :
    world.Advances gate.tenantId (gate.materialized operationId circumstances world).1 := by
  rw [materialized]
  split
  · exact .unchanged
  rename_i tables synced
  obtain ⟨own, rfl⟩ := sound.synchronized synced
  split
  · exact .unchanged
  rename_i row crossed
  split
  · exact finish_advances (fun left cached => .kept cached)
  rename_i unsettled
  have allowed : Allowed world.journal.events (.materialized operationId) :=
    crossed_allowed crossed unsettled
  have resolved := GateJournal.decide_resolved ⟨gate.tenantId, .materialized operationId⟩
    circumstances.append circumstances.observable sound.linked sound.distinct
  generalize GateJournal.decide _ _ _ _ _ = outcome at resolved ⊢
  cases resolved with
  | refused failure => exact .unchanged
  | taken fresh honest =>
      rcases honest with rfl | ⟨reason, rfl⟩
      · exact finish_advances (fun left _ => .took left own fresh allowed)
      · exact .took _ own fresh allowed

end BrokerDeploymentGate

/-! ### Runs -/

section

variable [Hashlib]

/-- A call of one of the gates, whatever it meets on its way. -/
inductive GateStep (gates : Set BrokerDeploymentGate) (world : GateWorld) : GateWorld → Prop
  | read {gate : BrokerDeploymentGate} (member : gate ∈ gates) (circumstances : Circumstances) :
      GateStep gates world (gate.read circumstances world).1
  | importCurrent {gate : BrokerDeploymentGate} (member : gate ∈ gates)
      (circumstances : Circumstances) (value : CurrentEntitlement) (proof : Bytes)
      (expected : Option CurrentEntitlement) :
      GateStep gates world (gate.importCurrent value proof expected circumstances world).1
  | commitHandoff {gate : BrokerDeploymentGate} (member : gate ∈ gates)
      (circumstances : Circumstances) (request : DeploymentGateRequest)
      (payload execution : Bytes) :
      GateStep gates world (gate.commitHandoff request payload execution circumstances world).1
  | materialized {gate : BrokerDeploymentGate} (member : gate ∈ gates)
      (circumstances : Circumstances) (operationId : String) :
      GateStep gates world (gate.materialized operationId circumstances world).1

/-- A run of calls from the empty journal and database. -/
abbrev GateRun (gates : Set BrokerDeploymentGate) (world : GateWorld) : Prop :=
  Relation.ReflTransGen (GateStep gates) .initial world

variable {gates : Set BrokerDeploymentGate} {world after : GateWorld}

theorem GateStep.advances (sound : world.Sound) (step : GateStep gates world after) :
    ∃ gate ∈ gates, world.Advances gate.tenantId after := by
  cases step with
  | read member circumstances =>
      exact ⟨_, member, BrokerDeploymentGate.read_advances sound⟩
  | importCurrent member circumstances value proof expected =>
      exact ⟨_, member, BrokerDeploymentGate.importCurrent_advances sound value proof expected⟩
  | commitHandoff member circumstances request payload execution =>
      exact ⟨_, member,
        (BrokerDeploymentGate.commitHandoff_handed sound request payload execution).advances⟩
  | materialized member circumstances operationId =>
      exact ⟨_, member, BrokerDeploymentGate.materialized_advances sound operationId⟩

/-- Every world of a run is sound, and its journal is of the tenant of one of the gates. -/
theorem GateRun.sound (run : GateRun gates world) : world.Sound ∧ (world.journal = [] ∨
    ∃ gate ∈ gates, ∀ entry ∈ world.journal, entry.body.tenant = gate.tenantId) := by
  induction run with
  | refl => exact ⟨.initial, Or.inl rfl⟩
  | tail _ step ih =>
      obtain ⟨sound, owner⟩ := ih
      obtain ⟨gate, member, advances⟩ := step.advances sound
      refine ⟨sound.advances advances, ?_⟩
      cases advances with
      | kept cached => exact owner
      | took tables own fresh allowed =>
          refine Or.inr ⟨gate, member, fun entry later => ?_⟩
          rcases List.mem_append.mp later with before | last
          · exact own entry before
          · rw [List.mem_singleton.mp last]

/-- Whatever the appends answered and wherever the process went, the journal replays to the fold
of its events: no operation is handed over or materialized twice, no materialization precedes
its handoff, each handoff is within the cap of the entitlement current there, the imports count
up within one epoch, and a reply tells what the call has decided. -/
theorem gate_journal_replays (run : GateRun gates world) :
    let events := world.journal.events
    (world.journal = [] ∨
        ∃ gate ∈ gates, ∀ entry ∈ world.journal, entry.body.tenant = gate.tenantId) ∧
      (∀ gate : BrokerDeploymentGate,
        (∀ entry ∈ world.journal, entry.body.tenant = gate.tenantId) →
          gate.synchronize true world = .ok (decidedTables events)) ∧
      (events.filterMap GateEvent.handedOperation).Nodup ∧
      (events.filterMap GateEvent.materializedOperation).Nodup ∧
      AtEach (fun front event => ∀ operation, event = .materialized operation →
        operation ∈ front.filterMap GateEvent.handedOperation) events ∧
      AtEach (fun front event => ∀ request payload execution,
        event = .handoff request payload execution → ∃ current proof,
          decidedCurrent front = some (current, proof) ∧
            (front ++ [event]).countP
                (GateEvent.handsUnder request.entitlementHead request.mode) ≤
              current.bounds.cap) events ∧
      (∃ epoch, events.filterMap GateEvent.generation =
        (List.range (events.filterMap GateEvent.generation).length).map (fun count =>
          (epoch, count))) ∧
      ∀ gate : BrokerDeploymentGate, ∀ circumstances request payload execution after result,
        gate.commitHandoff request payload execution circumstances world =
            (after, some (.ok result)) →
          (result.disposition ≠ .hold → ∃ entry ∈ after.journal,
            entry.body = ⟨gate.tenantId, .handoff request payload execution⟩) ∧
          (result.disposition = .hold → after.journal = world.journal) := by
  obtain ⟨sound, owner⟩ := run.sound
  have decided := sound.decided
  refine ⟨owner, fun gate own => sound.synchronize own, decided.handed_nodup,
    decided.materialized_nodup, ?_, ?_, decided.generations_counted, ?_⟩
  · rintro front _ rest parts operation rfl
    exact (decided.each front _ rest parts).1
  · rintro front _ rest parts request payload execution rfl
    obtain ⟨_, current, proof, isCurrent, _, _, below⟩ := decided.each front _ rest parts
    refine ⟨current, proof, isCurrent, ?_⟩
    rw [used_count] at below
    rw [List.countP_append, List.countP_singleton, if_pos (by simp [GateEvent.handsUnder])]
    exact below
  · intro gate circumstances request payload execution after result answered
    have handed : BrokerDeploymentGate.Handed gate world _ (gate.commitHandoff request payload
        execution circumstances world) :=
      BrokerDeploymentGate.commitHandoff_handed sound request payload execution
    rw [answered] at handed
    cases handed with
    | held cached holds =>
        exact ⟨fun permitted => absurd (holds result rfl) permitted, fun _ => rfl⟩
    | decided tables own fresh allowed permits =>
        refine ⟨fun _ => ⟨_, List.mem_append_right _ (List.mem_singleton_self _), rfl⟩, ?_⟩
        exact fun holds => absurd holds (permits result rfl)

end

section Sample

def sampleBroker : BrokerDeploymentGate :=
  ⟨"tenant", Dict.empty.set "surface" "capability", some (fun _ _ => true)⟩

def sampleEntitlement : CurrentEntitlement :=
  { generation := ⟨"tenant", "epoch", 0⟩
    mode := .production
    readinessHead := "ready-head"
    readiness := .ready
    entitlementHead := "entitlement"
    status := .active
    evidenceCursors := [("evidence", "head")]
    freshnessLeases := [("lease", 10)]
    bounds := ⟨"capability", "cohort", "purpose", ⟨1, Nat.one_pos⟩, 0, ⟨10, ten_pos⟩,
      ["log"], ["stop"]⟩
    livePredicates := [("live", true)]
    openCauses := [] }

def sampleHandoff : DeploymentGateRequest :=
  { operationId := "operation"
    surfaceId := "surface"
    payloadDigest := "e3b0c44298fc1c149afbf4c8996fb92427ae41e4649b934ca495991b7852b855"
    mode := .production
    generation := sampleEntitlement.generation
    readinessHead := "ready-head"
    entitlementHead := "entitlement"
    evidenceCursors := sampleEntitlement.evidenceCursors
    freshnessLeases := sampleEntitlement.freshnessLeases
    bounds := sampleEntitlement.bounds }

def sampleImported : GateWorld :=
  ⟨[⟨"first", none, ⟨"tenant", .current sampleEntitlement []⟩⟩], .empty⟩

theorem sampleImported_run [Hashlib] : GateRun {sampleBroker} sampleImported := by
  have decided : (sampleBroker.importCurrent sampleEntitlement [] none
      ⟨true, 5, .succeeds "first", true, .crashes⟩ .initial).1 = sampleImported := rfl
  exact decided ▸ Relation.ReflTransGen.single (.importCurrent (Set.mem_singleton _) _ _ _ _)

def sampleHanded : GateWorld :=
  ⟨sampleImported.journal ++ [⟨"second", some "first", ⟨"tenant", .handoff sampleHandoff [] []⟩⟩],
    .empty⟩

theorem sampleHanded_decided :
    sampleImported.journal.decide ⟨"tenant", .handoff sampleHandoff [] []⟩
      (head sampleImported.journal) (.failsAfter "second") true = (sampleHanded.journal, .ok ()) := by
  let _ := Sha256.hashlib
  have sound := sampleImported_run.sound.1
  rw [GateJournal.decide, GateJournal.append, if_pos (by decide)]
  dsimp only
  rw [GateJournal.exact_taken _ "second" sound.linked sound.distinct]
  rfl

theorem sampleHandoff_eligible :
    sampleBroker.eligible (decidedTables sampleImported.journal.events) sampleHandoff
      sampleEntitlement 5 = .ok () := by
  decide +kernel

theorem sampleHandoff_permitted [Hashlib] :
    sampleBroker.evaluate (decidedTables sampleImported.journal.events) sampleHandoff 5 =
      .ok (BrokerDeploymentGate.permit sampleHandoff) := by
  have current : sampleBroker.currentEntitlement (decidedTables sampleImported.journal.events) =
      .ok (some sampleEntitlement) := rfl
  rw [BrokerDeploymentGate.evaluate, current, ok_bind]
  dsimp only
  rw [sampleHandoff_eligible]

theorem sampleHanded_run [Hashlib] (exact : (sha256 []).text = sampleHandoff.payloadDigest) :
    GateRun {sampleBroker} sampleHanded := by
  have synced : sampleBroker.synchronize true sampleImported =
      .ok (decidedTables sampleImported.journal.events) :=
    sampleImported_run.sound.1.synchronize (by simp [sampleImported, sampleBroker])
  have crossed : (sampleBroker.commitHandoff sampleHandoff [] []
      ⟨true, 5, .failsAfter "second", true, .crashes⟩ sampleImported).1 = sampleHanded :=
    BrokerDeploymentGate.commitHandoff_crashes exact synced sampleHandoff_permitted
      (fun held => nomatch held) sampleHanded_decided
  have step : GateStep {sampleBroker} sampleImported sampleHanded := by
    rw [← crossed]
    exact .commitHandoff (Set.mem_singleton _) _ _ _ _
  exact sampleImported_run.tail step

/-- The import is decided just before a crash, the handoff by an append that then fails. -/
theorem gate_journal_replays_sample :
    letI := Sha256.hashlib
    sampleBroker.synchronize true sampleHanded =
      .ok (decidedTables [.current sampleEntitlement [], .handoff sampleHandoff [] []]) := by
  let _ := Sha256.hashlib
  have same : (sha256 []).text = sampleHandoff.payloadDigest := by decide +kernel
  exact (gate_journal_replays (sampleHanded_run same)).2.1 sampleBroker
    (by simp [sampleHanded, sampleImported, sampleBroker])

end Sample

end Chiplog.Platform
