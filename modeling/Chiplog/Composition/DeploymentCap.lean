import Chiplog.Composition.SingleEmission
import Chiplog.Planning.UseCase
import Chiplog.Platform.PostgresGate

namespace Chiplog.Composition

open Chiplog.Data Chiplog.Platform

/-! The operations that cross the deployment gate.

Each is one transaction over the user's log and the gate's tables.  The sends require a live
entitlement and always cross when they write; planning and rendering cross only a handoff
that is new, and planning turns a refusal of the gate into a denied outcome. -/

/-- One user's database as the gated operations see it. -/
structure GatedStore (β : Type) where
  user : UserState β
  gate : GateTables

/-- A request is passed on by its bytes. -/
def requireEncoded (request : DeploymentGateRequest) (encoded : Bytes) : Transaction Unit :=
  raiseIf (encoded ≠ request.encoded) (.value "another deployment request")

section Sends

variable {β : Type} [Content β] [EffectStores β] [DeliveryStores β] [Hashlib]

/-- The services of a call whose gate is the given one. -/
def EffectServices.gated (services : EffectServices β) (gate : PostgresDeploymentGate)
    (tables : GateTables) (request : DeploymentGateRequest) : EffectServices β :=
  { services with
    gateRequire := fun encoded surface payload => do
      requireEncoded request encoded
      let _ ← gate.require services.now tables request surface payload true
      .ok ()
    gateCrossed := fun encoded payload => do
      requireEncoded request encoded
      let _ ← tables.crossed request payload
      .ok () }

def DeliveryServices.gated (services : DeliveryServices β) (gate : PostgresDeploymentGate)
    (now : Int) (tables : GateTables) (request : DeploymentGateRequest) : DeliveryServices β :=
  { services with
    gateRequire := fun encoded surface payload => do
      requireEncoded request encoded
      let _ ← gate.require now tables request surface payload true
      .ok ()
    gateCrossed := fun encoded payload => do
      requireEncoded request encoded
      let _ ← tables.crossed request payload
      .ok () }

/-- `commit_effect_send` with the handoff that its last statement inserts. -/
def gatedEffectSend (services : EffectServices β) (gate : PostgresDeploymentGate)
    (runtime : Runtime) (binding : PostgresEffectsBinding) (peer callId : String)
    (request : DeploymentGateRequest) (store : GatedStore β) :
    Transaction (GatedStore β × Retained EffectSend) := do
  let (user, send) ← commitEffectSend (services.gated gate store.gate request) runtime binding
    peer callId request store.user
  match ← sendRows runtime store.user.snapshot callId with
  | _ :: _ => return (⟨user, store.gate⟩, send)
  | [] =>
      let intent ← subject runtime store.user.snapshot callId
      let tables ← store.gate.crossed request intent.bytes
      return (⟨user, tables⟩, send)

/-- `commit_delivery_send` with the handoff that its last statement inserts. -/
def gatedDeliverySend (services : DeliveryServices β) (gate : PostgresDeploymentGate) (now : Int)
    (runtime : Runtime) (peer deliveryId : String) (request : DeploymentGateRequest)
    (store : GatedStore β) : Transaction (GatedStore β × NativeDeliverySendV1) := do
  let (user, send) ← commitDeliverySend (services.gated gate now store.gate request) runtime peer
    deliveryId request store.user
  match ← rows NativeDeliverySendV1 runtime store.user.snapshot (some deliveryId) with
  | _ :: _ => return (⟨user, store.gate⟩, send)
  | [] =>
      let (intent, _) ← selectedDelivery services runtime store.user.snapshot deliveryId
      let tables ← store.gate.crossed request (canonicalBytes intent).items
      return (⟨user, tables⟩, send)

end Sends

section Planning

variable {β : Type} [Content β] [Hashlib]

/-- `command_bytes`. -/
def commandBytes (command : Planning.CreateIntentionLine) : Bytes :=
  Json.encodeAscii (.obj
    [("command_id", toJson command.commandId.value),
      ("intention_line_id", toJson command.intentionLineId.value),
      ("revision_id", toJson command.revisionId.value), ("purpose", toJson command.purpose),
      ("authority_act_id", toJson command.authorityActId)])

/-- The batch that the repository appends for a publication of the use case. -/
structure PlanningBatch where
  commandId : String
  requestFingerprint : String
  records : List Planning.OwnedRecord

def PlanningBatch.stored (batch : PlanningBatch) : List (Record β) :=
  batch.records.map (fun record => ⟨record.recordId.value, "planning",
    Content.raw "chiplog.planning.record.v1" record.canonicalBytes⟩)

/-- What the planning transactions ask of trust, of the use case and of the projection. -/
structure PlanningServices (β : Type) where
  context : Transaction Unit
  execute : Snapshot β → Transaction (Planning.PlanningOutcome × Option PlanningBatch)
  lines : Snapshot β → Transaction (List String)

def heldPlan (reason : String) : Planning.PlanningOutcome := ⟨.denied, none, some reason⟩

/-- `PostgresPlanningRepository.transact`. -/
def transactPlan (services : PlanningServices β) (user : UserState β) :
    Transaction (UserState β × Planning.PlanningOutcome) := do
  let (outcome, batch) ← services.execute user.snapshot
  match batch with
  | none => .ok (user, outcome)
  | some batch => do
      let snapshot ← user.snapshot.append "planning.create_intention_line" batch.commandId
        batch.requestFingerprint batch.stored user.snapshot.head
      .ok (⟨snapshot, user.worker⟩, outcome)

def publishPlan (services : PlanningServices β) (gate : PostgresDeploymentGate) (now : Int)
    (command : Planning.CreateIntentionLine) (request : Option DeploymentGateRequest)
    (store : GatedStore β) : Transaction (GatedStore β × Planning.PlanningOutcome) := do
  services.context
  if ∃ item ∈ [command.commandId, command.intentionLineId, command.revisionId],
      item.tenantId ≠ gate.tenant then
    .ok (store, heldPlan "foreign tenant identifier")
  else
    match request with
    | none => .ok (store, heldPlan "HOLD: exact deployment entitlement required")
    | some request =>
        if request.operationId ≠ command.commandId.value then
          .ok (store, heldPlan "HOLD: exact deployment entitlement required")
        else
          match gate.require now store.gate request "planning.create" (commandBytes command)
              false with
          | .error (.permission reason) => .ok (store, heldPlan reason)
          | .error failure => .error failure
          | .ok fresh => do
              let (user, outcome) ← transactPlan services store.user
              if outcome.disposition = .committed then do
                raiseIf (fresh = false)
                  (.unexpected "recorded deployment handoff has no committed planning batch")
                let tables ← store.gate.crossed request (commandBytes command)
                .ok (⟨user, tables⟩, outcome)
              else .ok (⟨user, store.gate⟩, outcome)

def render (services : PlanningServices β) (gate : PostgresDeploymentGate) (now : Int)
    (request : Option DeploymentGateRequest) (store : GatedStore β) :
    Transaction (GatedStore β × List String) := do
  services.context
  match request with
  | none => .error (.permission "HOLD: exact deployment entitlement required for disclosure")
  | some request => do
      let lines ← services.lines store.user.snapshot
      let payload := (toJson lines).encodeAscii
      let fresh ← gate.require now store.gate request "cli.render" payload false
      if fresh then do
        let tables ← store.gate.crossed request payload
        .ok (⟨store.user, tables⟩, lines)
      else .ok (store, lines)

end Planning

section Runs

variable {β : Type} [Content β] [EffectStores β] [DeliveryStores β] [Hashlib]

/-- Records that hold no SEND. -/
def NoSend (records : List (Record β)) : Prop :=
  ∀ record ∈ records, record.schemaId ∉ [Schema.schemaId (EffectSend .tool),
    Schema.schemaId (EffectSend .action), Schema.schemaId NativeDeliverySendV1]

/-- One committed transaction.  A transaction that fails is rolled back as a whole. -/
inductive GatedStep : GatedStore β → GatedStore β → Prop
  | importCurrent (store : GatedStore β) {gate : PostgresDeploymentGate}
      {current : CurrentEntitlement} {proof : Bytes} {previous : Option Bytes}
      {after : GateTables}
      (imported : gate.importCurrent store.gate current proof previous = .ok after) :
      GatedStep store { store with gate := after }
  | effectSend {store after : GatedStore β} {services : EffectServices β}
      {gate : PostgresDeploymentGate} {runtime : Runtime} {binding : PostgresEffectsBinding}
      {peer callId : String} {request : DeploymentGateRequest} {send : Retained EffectSend}
      (sent : gatedEffectSend services gate runtime binding peer callId request store =
        .ok (after, send)) : GatedStep store after
  | deliverySend {store after : GatedStore β} {services : DeliveryServices β}
      {gate : PostgresDeploymentGate} {now : Int} {runtime : Runtime} {peer deliveryId : String}
      {request : DeploymentGateRequest} {send : NativeDeliverySendV1}
      (sent : gatedDeliverySend services gate now runtime peer deliveryId request store =
        .ok (after, send)) : GatedStep store after
  | publishPlan {store after : GatedStore β} {services : PlanningServices β}
      {gate : PostgresDeploymentGate} {now : Int} {command : Planning.CreateIntentionLine}
      {request : Option DeploymentGateRequest} {outcome : Planning.PlanningOutcome}
      (published : publishPlan services gate now command request store = .ok (after, outcome)) :
      GatedStep store after
  | render {store after : GatedStore β} {services : PlanningServices β}
      {gate : PostgresDeploymentGate} {now : Int} {request : Option DeploymentGateRequest}
      {lines : List String}
      (rendered : render services gate now request store = .ok (after, lines)) :
      GatedStep store after
  | opened (store : GatedStore β) (runtime : Runtime) :
      GatedStep store { store with user := runtime.opened store.user }
  -- any other transaction may append, but no SEND, and never touches the gate
  | append (store : GatedStore β) {operation key fingerprint : String}
      {records : List (Record β)} {after : Snapshot β} (unsent : NoSend records)
      (appended : store.user.snapshot.append operation key fingerprint records
        store.user.snapshot.head = .ok after) :
      GatedStep store { store with user := ⟨after, store.user.worker⟩ }

def GatedStore.initial (worker : Option String) : GatedStore β := ⟨⟨.empty, worker⟩, ⟨none, []⟩⟩

inductive GatedRun : GatedStore β → Prop
  | initial (worker : Option String) : GatedRun (.initial worker)
  | step {before after : GatedStore β} (earlier : GatedRun before)
      (next : GatedStep before after) : GatedRun after

end Runs

end Chiplog.Composition

namespace Chiplog.Composition

open Chiplog.Data Chiplog.Platform Chiplog.Effects

/-! The deployment cap over whole runs.

Every step leaves the handoffs alone or crosses in the transaction of its check.  That a
repeated send is the recorded one needs the log too: each retained SEND has its handoff, with
the request it repeats and the payload of the intent it sends. -/

/-- What a step does to the gate's handoffs. -/
inductive GateChange [Hashlib] (before after : GateTables) : Prop
  | same (handoffs : after.handoffs = before.handoffs)
  | crossed {gate : PostgresDeploymentGate} {now : Int} {request : DeploymentGateRequest}
      {surface : String} {payload : Bytes} {live answer : Bool}
      (required : gate.require now before request surface payload live = .ok answer)
      (crossing : before.crossed request payload = .ok after)

section Views

variable {β : Type} [Content β] [EffectStores β] [DeliveryStores β]

/-- The gate requests of every stored SEND of a target. -/
def gateRequestsIn (target : Target) (records : List (Record β)) : List Bytes :=
  entriesIn EffectSend NativeDeliverySendV1 (fun _ send => send.gateRequestBytes)
    (fun send => send.gateRequestBytes) target records

/-- The intents of one stream, whichever kind they are. -/
def originalsIn (records : List (Record β)) (streamId : String) : List EffectOriginal :=
  (streamIn NativeEffectIntentV1 records streamId).map .tool ++
    (streamIn PlanEffectIntent records streamId).map .plan ++
    (streamIn CompensationEffectIntent records streamId).map .compensation

def originalBytes : EffectOriginal → Bytes
  | .tool intent => (canonicalBytes intent).items
  | .plan intent => (canonicalBytes intent).items
  | .compensation intent => (canonicalBytes intent).items

/-- What a target's intents ask to send. -/
def payloadsIn (target : Target) (records : List (Record β)) : List Bytes :=
  match target.surface with
  | .effect => (originalsIn records target.id).map originalBytes
  | .delivery => (streamIn NativeDeliveryIntentV1 records target.id).map
      (fun intent => (canonicalBytes intent).items)

omit [EffectStores β] [DeliveryStores β] in
theorem mem_entriesIn_append {ρ : Family → Type} {δ ε : Type} [∀ family, CustodyRow (ρ family)]
    [∀ family, Stores β (ρ family)] [CustodyRow δ] [Stores β δ]
    {effect : ∀ family, ρ family → ε} {delivery : δ → ε} {target : Target}
    {front rest : List (Record β)} {entry : ε} :
    entry ∈ entriesIn ρ δ effect delivery target (front ++ rest) ↔
      entry ∈ entriesIn ρ δ effect delivery target front ∨
        entry ∈ entriesIn ρ δ effect delivery target rest := by
  obtain ⟨surface, id⟩ := target
  cases surface with
  | effect =>
      simp only [entriesIn, familyIn, streamIn_append, List.map_append, List.mem_append]
      tauto
  | delivery => simp only [entriesIn, streamIn_append, List.map_append, List.mem_append]

theorem payloadsIn_append_left {target : Target} {front rest : List (Record β)} {payload : Bytes}
    (member : payload ∈ payloadsIn target front) : payload ∈ payloadsIn target (front ++ rest) := by
  obtain ⟨surface, id⟩ := target
  cases surface with
  | effect =>
      simp only [payloadsIn, originalsIn, streamIn_append, List.map_append, List.mem_append]
        at member ⊢
      tauto
  | delivery =>
      simp only [payloadsIn, streamIn_append, List.map_append, List.mem_append] at member ⊢
      exact .inl member

theorem gateRequestsIn_noSend {records : List (Record β)} (unsent : NoSend records)
    (target : Target) : gateRequestsIn target records = [] := by
  have absent {schema : String} (isSend : schema ∈ [Schema.schemaId (EffectSend .tool),
      Schema.schemaId (EffectSend .action), Schema.schemaId NativeDeliverySendV1]) :
      ∀ item ∈ records, item.schemaId ≠ schema := by
    rintro item member rfl
    exact unsent item member isSend
  obtain ⟨surface, id⟩ := target
  cases surface with
  | effect =>
      rw [gateRequestsIn, entriesIn, List.map_eq_nil_iff, familyIn_eq_nil]
      exact ⟨streamIn_foreign (absent (by simp)) id, streamIn_foreign (absent (by simp)) id⟩
  | delivery =>
      rw [gateRequestsIn, entriesIn, List.map_eq_nil_iff]
      exact streamIn_foreign (absent (by simp)) id

theorem gateRequestsIn_effectSend {family : Family} (send : EffectSend family) (target : Target) :
    gateRequestsIn target [(record send : Record β)] =
      if target = ⟨.effect, send.streamId⟩ then [send.gateRequestBytes] else [] :=
  entriesIn_effect send (by decide) (by intro family; cases family <;> decide) target

theorem gateRequestsIn_deliverySend (send : NativeDeliverySendV1) (target : Target) :
    gateRequestsIn target [(record send : Record β)] =
      if target = ⟨.delivery, send.deliveryId⟩ then [send.gateRequestBytes] else [] :=
  entriesIn_delivery send (by intro family; cases family <;> decide) target

end Views

section Inversions

variable {β : Type} [Content β] [EffectStores β] [DeliveryStores β] [Hashlib]
  {gate : PostgresDeploymentGate} {runtime : Runtime} {request : DeploymentGateRequest}

/-- A selected intent is the only one of its stream. -/
theorem subject_payload {snapshot : Snapshot β} {streamId : String}
    {value : EffectSubject} (selected : subject runtime snapshot streamId = .ok value) :
    payloadsIn ⟨.effect, streamId⟩ snapshot.records = [value.bytes] := by
  simp only [subject, bind_ok] at selected
  obtain ⟨tools, readTools, plans, readPlans, compensations, readCompensations, original, single,
    selected⟩ := selected
  have kept : value.original = original := by
    cases original with
    | tool intent =>
        cases pure_ok.mp selected
        rfl
    | plan intent =>
        simp only [actionSubject, bind_ok, pure_ok] at selected
        obtain ⟨_, _, _, _, _, _, rfl⟩ := selected
        rfl
    | compensation intent =>
        simp only [actionSubject, bind_ok, pure_ok] at selected
        obtain ⟨_, _, _, _, _, _, rfl⟩ := selected
        rfl
  have bytes : value.bytes = originalBytes value.original := by
    unfold EffectSubject.bytes originalBytes
    cases value.original <;> rfl
  have only_ : originalsIn snapshot.records streamId = [original] := by
    rw [originalsIn, ← rows_ok readTools, ← rows_ok readPlans, ← rows_ok readCompensations]
    exact only_ok single
  rw [payloadsIn, only_, bytes, kept]
  rfl

/-- A selected delivery intent is the only one of its delivery. -/
theorem delivery_payload {services : DeliveryServices β}
    {snapshot : Snapshot β} {deliveryId : String} {intent : NativeDeliveryIntentV1}
    {accepted : NativeCompletionAcceptanceV1}
    (selected : selectedDelivery services runtime snapshot deliveryId = .ok (intent, accepted)) :
    payloadsIn ⟨.delivery, deliveryId⟩ snapshot.records = [(canonicalBytes intent).items] := by
  obtain ⟨intents, read, selected⟩ := bind_ok.mp selected
  split at selected
  · rename_i only_
    obtain ⟨acceptances, _, selected⟩ := bind_ok.mp selected
    split at selected
    · obtain ⟨_, _, selected⟩ := bind_ok.mp selected
      iterate 4 obtain ⟨_, _, selected⟩ := bind_ok.mp selected
      cases selected
      rw [payloadsIn, ← rows_ok read]
      rfl
    · cases selected
  · cases selected

omit [Content β] [EffectStores β] [DeliveryStores β] in
theorem gateRequire_ok {services : EffectServices β} {tables : GateTables} {encoded payload : Bytes}
    {surface : String} {value : Unit}
    (required : (services.gated gate tables request).gateRequire encoded surface payload =
      .ok value) :
    ∃ answer, gate.require services.now tables request surface payload true = .ok answer := by
  obtain ⟨_, _, required⟩ := bind_ok.mp required
  obtain ⟨answer, required, _⟩ := bind_ok.mp required
  exact ⟨answer, required⟩

omit [Content β] [EffectStores β] [DeliveryStores β] in
/-- Naming a SEND keeps the request it was gated with. -/
theorem headed_gateRequestBytes {family : Family} (lead : String) (send : EffectSend family) :
    (headed lead send).gateRequestBytes = send.gateRequestBytes := rfl

omit [Content β] [EffectStores β] [DeliveryStores β] in
theorem preparedSend_gateRequestBytes (now : Nat) (runtime : Runtime) (intent : EffectSubject)
    (request : DeploymentGateRequest) :
    (preparedSend now runtime intent request).gateRequestBytes = request.encoded := by
  rw [preparedSend, effectHead, headed_gateRequestBytes]

omit [Content β] [EffectStores β] [DeliveryStores β] in
theorem headed_delivery (lead : String) (send : NativeDeliverySendV1) :
    (headed lead send).gateRequestBytes = send.gateRequestBytes ∧
      (headed lead send).deliveryId = send.deliveryId :=
  ⟨rfl, rfl⟩

omit [Content β] [EffectStores β] [DeliveryStores β] in
theorem preparedDeliverySend_gate (runtime : Runtime) (transport : NativeDeliveryBinding)
    (target : ProviderRecipient) (intent : NativeDeliveryIntentV1) (deliveryId : String)
    (request : DeploymentGateRequest) :
    (preparedDeliverySend runtime transport target intent deliveryId request).gateRequestBytes =
        request.encoded ∧
      (preparedDeliverySend runtime transport target intent deliveryId request).deliveryId =
        deliveryId := by
  simp only [preparedDeliverySend, headed_delivery, and_self]

/-- A send that succeeds repeats a retained SEND, or writes the first one and crosses. -/
theorem gatedEffectSend_ok {services : EffectServices β}
    {binding : PostgresEffectsBinding} {peer callId : String}
    {store after : GatedStore β} {send : Retained EffectSend}
    (sent : gatedEffectSend services gate runtime binding peer callId request store =
      .ok (after, send)) :
    ∃ intent, subject runtime store.user.snapshot callId = .ok intent ∧
      (after = store ∧ request.encoded ∈
          gateRequestsIn ⟨.effect, callId⟩ store.user.snapshot.records ∨
        ∃ (now : Int) (answer : Bool) (written : Retained EffectSend) (rest : List (Record β)),
          gate.require now store.gate request "effects.first_send" intent.bytes true =
            .ok answer ∧
          store.gate.crossed request intent.bytes = .ok after.gate ∧
          written.2.streamId = callId ∧ written.2.gateRequestBytes = request.encoded ∧
          NoSend rest ∧
          after.user.snapshot.records = store.user.snapshot.records ++ record written.2 :: rest) := by
  simp only [gatedEffectSend, bind_ok] at sent
  obtain ⟨⟨user, retained⟩, committed, existing, read, sent⟩ := sent
  simp only [commitEffectSend, bind_ok] at committed
  obtain ⟨_, _, intent, selected, found, readAgain, committed⟩ := committed
  refine ⟨intent, selected, ?_⟩
  have same : existing = found := Except.ok.inj (read.symm.trans readAgain)
  subst same
  cases existing with
  | cons first others =>
      simp only [bind_ok, require_ok, pure_ok, Prod.mk.injEq] at committed sent
      obtain ⟨_, encoded, rfl, rfl⟩ := committed
      obtain ⟨rfl, rfl⟩ := sent
      refine .inl ⟨rfl, ?_⟩
      have member : first ∈ familyIn EffectSend store.user.snapshot.records callId := by
        rw [← familyRows_ok read]
        exact List.mem_cons_self
      rw [← encoded]
      exact List.mem_map_of_mem member
  | nil =>
      simp only [bind_ok, pure_ok, Prod.mk.injEq] at committed sent
      obtain ⟨_, _, _, _, _, _, _, required, fence, prepared, appended, added, _, _, rfl, rfl⟩ :=
        committed
      obtain ⟨again, selectedAgain, tables, crossed, rfl, rfl⟩ := sent
      obtain rfl : intent = again := Except.ok.inj (selected.symm.trans selectedAgain)
      obtain ⟨answer, required⟩ := gateRequire_ok required
      refine .inr ⟨services.now, answer, ⟨intent.family, preparedSend services.now runtime intent
        request⟩, fence, required, crossed, subject_streamId selected,
        preparedSend_gateRequestBytes _ _ _ _, ?_,
        Snapshot.append_records added⟩
      intro item member
      rw [sendFence_ok prepared item member]
      decide

theorem gatedDeliverySend_ok {services : DeliveryServices β} {now : Int} {peer deliveryId : String}
    {store after : GatedStore β} {send : NativeDeliverySendV1}
    (sent : gatedDeliverySend services gate now runtime peer deliveryId request store =
      .ok (after, send)) :
    ∃ intent accepted,
      selectedDelivery services runtime store.user.snapshot deliveryId = .ok (intent, accepted) ∧
      (after = store ∧ request.encoded ∈
          gateRequestsIn ⟨.delivery, deliveryId⟩ store.user.snapshot.records ∨
        ∃ (answer : Bool) (written : NativeDeliverySendV1),
          gate.require now store.gate request "delivery.first_send" (canonicalBytes intent).items
            true = .ok answer ∧
          store.gate.crossed request (canonicalBytes intent).items = .ok after.gate ∧
          written.deliveryId = deliveryId ∧ written.gateRequestBytes = request.encoded ∧
          after.user.snapshot.records = store.user.snapshot.records ++ [record written]) := by
  simp only [gatedDeliverySend, bind_ok] at sent
  obtain ⟨⟨user, retained⟩, committed, existing, read, sent⟩ := sent
  simp only [commitDeliverySend, bind_ok] at committed
  obtain ⟨_, _, ⟨intent, accepted⟩, selected, found, readAgain, committed⟩ := committed
  refine ⟨intent, accepted, selected, ?_⟩
  have same : existing = found := Except.ok.inj (read.symm.trans readAgain)
  subst same
  cases existing with
  | cons first others =>
      simp only [bind_ok, require_ok, pure_ok, Prod.mk.injEq] at committed sent
      obtain ⟨_, encoded, rfl, rfl⟩ := committed
      obtain ⟨rfl, rfl⟩ := sent
      refine .inl ⟨rfl, ?_⟩
      have member : first ∈ streamIn NativeDeliverySendV1 store.user.snapshot.records
          deliveryId := by
        rw [← rows_ok read]
        exact List.mem_cons_self
      rw [← encoded]
      exact List.mem_map_of_mem member
  | nil =>
      simp only [bind_ok, pure_ok, Prod.mk.injEq] at committed sent
      obtain ⟨_, _, _, _, _, required, transport, _, target, _, appended, added, _, _, rfl, rfl⟩ :=
        committed
      obtain ⟨⟨again, _⟩, selectedAgain, tables, crossed, rfl, rfl⟩ := sent
      obtain ⟨rfl, _⟩ : intent = again ∧ _ :=
        Prod.mk.inj (Except.ok.inj (selected.symm.trans selectedAgain))
      obtain ⟨_, _, required⟩ := bind_ok.mp required
      obtain ⟨answer, required, _⟩ := bind_ok.mp required
      exact .inr ⟨answer, preparedDeliverySend runtime transport target intent deliveryId request,
        required, crossed, (preparedDeliverySend_gate _ _ _ _ _ _).2,
        (preparedDeliverySend_gate _ _ _ _ _ _).1, Snapshot.append_records added⟩

omit [EffectStores β] [DeliveryStores β] in
/-- A plan is denied without a trace, or the gate let it pass: then it commits nothing new, or
crosses a handoff that was new. -/
theorem publishPlan_ok {services : PlanningServices β} {now : Int}
    {command : Planning.CreateIntentionLine} {request : Option DeploymentGateRequest}
    {store after : GatedStore β} {outcome : Planning.PlanningOutcome}
    (published : publishPlan services gate now command request store = .ok (after, outcome)) :
    (after = store ∧ outcome.disposition = .denied) ∨
      ∃ (selected : DeploymentGateRequest) (fresh : Bool) (rest : List (Record β)),
        request = some selected ∧ selected.operationId = command.commandId.value ∧
        gate.require now store.gate selected "planning.create" (commandBytes command) false =
          .ok fresh ∧
        (∀ item ∈ rest, item.schemaId = "chiplog.planning.record.v1") ∧
        after.user.snapshot.records = store.user.snapshot.records ++ rest ∧
        (after.gate = store.gate ∨
          fresh = true ∧ store.gate.crossed selected (commandBytes command) = .ok after.gate) := by
  obtain ⟨_, _, published⟩ := bind_ok.mp published
  dsimp only at published
  split at published
  · cases published
    exact .inl ⟨rfl, rfl⟩
  · cases request with
    | none =>
      cases published
      exact .inl ⟨rfl, rfl⟩
    | some selected =>
      dsimp only at published
      split at published
      · cases published
        exact .inl ⟨rfl, rfl⟩
      · rename_i identified
        split at published
        · cases published
          exact .inl ⟨rfl, rfl⟩
        · cases published
        · rename_i fresh required
          obtain ⟨⟨user, result⟩, executed, published⟩ := bind_ok.mp published
          right
          obtain ⟨rest, planned, grown⟩ : ∃ rest : List (Record β),
              (∀ item ∈ rest, item.schemaId = "chiplog.planning.record.v1") ∧
              user.snapshot.records = store.user.snapshot.records ++ rest := by
            obtain ⟨⟨result, batch⟩, _, executed⟩ := bind_ok.mp executed
            cases batch with
            | none =>
                cases executed
                exact ⟨[], nofun, (List.append_nil _).symm⟩
            | some batch =>
                obtain ⟨snapshot, appended, executed⟩ := bind_ok.mp executed
                cases executed
                refine ⟨batch.stored, ?_, Snapshot.append_records appended⟩
                intro item member
                obtain ⟨record, _, rfl⟩ := List.mem_map.mp member
                exact Content.schemaId_raw _ _
          dsimp only at published
          split at published
          · obtain ⟨_, isFresh, published⟩ := bind_ok.mp published
            obtain ⟨tables, crossed, published⟩ := bind_ok.mp published
            cases published
            refine ⟨selected, fresh, rest, rfl, not_not.mp identified, required, planned, grown,
              .inr ⟨?_, crossed⟩⟩
            simpa using raiseIf_ok.mp isFresh
          · cases published
            exact ⟨selected, fresh, rest, rfl, not_not.mp identified, required, planned, grown,
              .inl rfl⟩

omit [Content β] [EffectStores β] [DeliveryStores β] in
theorem render_ok {services : PlanningServices β} {now : Int}
    {request : Option DeploymentGateRequest} {store after : GatedStore β} {lines : List String}
    (rendered : render services gate now request store = .ok (after, lines)) :
    ∃ (selected : DeploymentGateRequest) (fresh : Bool), request = some selected ∧
      gate.require now store.gate selected "cli.render" (toJson lines).encodeAscii false =
        .ok fresh ∧ after.user = store.user ∧
      (fresh = false ∧ after = store ∨
        fresh = true ∧ store.gate.crossed selected (toJson lines).encodeAscii = .ok after.gate) := by
  obtain ⟨_, _, rendered⟩ := bind_ok.mp rendered
  cases request with
  | none => cases rendered
  | some selected =>
    obtain ⟨shown, _, rendered⟩ := bind_ok.mp rendered
    obtain ⟨fresh, required, rendered⟩ := bind_ok.mp rendered
    cases fresh with
    | false =>
        cases rendered
        exact ⟨selected, false, rfl, required, rfl, .inl ⟨rfl, rfl⟩⟩
    | true =>
        obtain ⟨tables, crossed, rendered⟩ := bind_ok.mp rendered
        cases rendered
        exact ⟨selected, true, rfl, required, rfl, .inr ⟨rfl, crossed⟩⟩

end Inversions

section Runs

variable {β : Type} [Content β] [EffectStores β] [DeliveryStores β] [Hashlib]
  {request : DeploymentGateRequest}

/-- A SEND of the target with these gate bytes has its handoff, for what an intent asks. -/
def HandedOff (store : GatedStore β) (target : Target) (encoded : Bytes) : Prop :=
  ∃ request : DeploymentGateRequest, ∃ handoff ∈ store.gate.handoffs,
    request.encoded = encoded ∧ handoff.operation = request.operationId ∧
      handoff.request = encoded ∧
      handoff.payload ∈ payloadsIn target store.user.snapshot.records

structure GatedStore.Sound (store : GatedStore β) : Prop where
  distinct : (store.gate.handoffs.map Handoff.operation).Nodup
  sends : ∀ target, ∀ encoded ∈ gateRequestsIn target store.user.snapshot.records,
    HandedOff store target encoded

omit [Hashlib] in
/-- A crossing records the handoff of a SEND it is for. -/
theorem handedOff_of_crossed {before : GateTables} {after : GatedStore β} {target : Target}
    {payload : Bytes} (crossed : before.crossed request payload = .ok after.gate)
    (asked : payload ∈ payloadsIn target after.user.snapshot.records) :
    HandedOff after target request.encoded := by
  have recorded : (⟨request.operationId, request.encoded, payload, request.entitlementHead,
      request.mode⟩ : Handoff) ∈ after.gate.handoffs := by
    rw [(crossed_ok crossed).2]
    exact List.mem_append_right _ List.mem_cons_self
  exact ⟨request, _, recorded, rfl, rfl, by dsimp only, asked⟩

/-- What a committed transaction does to the gate and to the log. -/
theorem GatedStep.change {before after : GatedStore β} (step : GatedStep before after) :
    GateChange before.gate after.gate ∧ ∃ rest, after.user.snapshot.records =
      before.user.snapshot.records ++ rest ∧
      ∀ target, ∀ encoded ∈ gateRequestsIn target rest, HandedOff after target encoded := by
  have nothing : ∀ target, ∀ encoded ∈ gateRequestsIn target ([] : List (Record β)),
      HandedOff after target encoded := by
    intro target encoded member
    rw [gateRequestsIn_noSend (List.forall_mem_nil _)] at member
    cases member
  cases step with
  | importCurrent imported =>
      obtain ⟨_, _, imported⟩ := bind_ok.mp imported
      obtain ⟨_, _, imported⟩ := bind_ok.mp imported
      cases imported
      exact ⟨.same rfl, [], (List.append_nil _).symm, nothing⟩
  | effectSend sent =>
      obtain ⟨intent, selected, ⟨rfl, _⟩ | ⟨now, answer, written, rest, required, crossed, stream,
        encoded, unsent, grown⟩⟩ := gatedEffectSend_ok sent
      · exact ⟨.same rfl, [], (List.append_nil _).symm, nothing⟩
      · refine ⟨.crossed required crossed, _, grown, ?_⟩
        intro target bytes member
        rw [← List.singleton_append, gateRequestsIn, mem_entriesIn_append] at member
        rcases member with own | other
        · rw [← gateRequestsIn, gateRequestsIn_effectSend, stream] at own
          split at own
          · rename_i isTarget
            rw [List.mem_singleton.mp own, encoded, isTarget]
            apply handedOff_of_crossed crossed
            rw [grown]
            apply payloadsIn_append_left
            rw [subject_payload selected]
            exact List.mem_cons_self
          · cases own
        · rw [← gateRequestsIn, gateRequestsIn_noSend unsent] at other
          cases other
  | deliverySend sent =>
      obtain ⟨intent, accepted, selected, ⟨rfl, _⟩ | ⟨answer, written, required, crossed, stream,
        encoded, grown⟩⟩ := gatedDeliverySend_ok sent
      · exact ⟨.same rfl, [], (List.append_nil _).symm, nothing⟩
      · refine ⟨.crossed required crossed, _, grown, ?_⟩
        intro target bytes member
        rw [gateRequestsIn_deliverySend, stream] at member
        split at member
        · rename_i isTarget
          rw [List.mem_singleton.mp member, encoded, isTarget]
          apply handedOff_of_crossed crossed
          rw [grown]
          apply payloadsIn_append_left
          rw [delivery_payload selected]
          exact List.mem_cons_self
        · cases member
  | publishPlan published =>
      rcases publishPlan_ok published with ⟨rfl, _⟩ | ⟨request, fresh, rest, _, _, required,
        planned, grown, gate⟩
      · exact ⟨.same rfl, [], (List.append_nil _).symm, nothing⟩
      · have unsent : NoSend rest := by
          intro item member
          rw [planned item member]
          decide
        refine ⟨?_, rest, grown, ?_⟩
        · rcases gate with same | ⟨_, crossed⟩
          · exact .same (by rw [same])
          · exact .crossed required crossed
        · intro target encoded member
          rw [gateRequestsIn_noSend unsent] at member
          cases member
  | render rendered =>
      obtain ⟨request, fresh, _, required, user, ⟨_, rfl⟩ | ⟨_, crossed⟩⟩ := render_ok rendered
      · exact ⟨.same rfl, [], (List.append_nil _).symm, nothing⟩
      · exact ⟨.crossed required crossed, [], by rw [user, List.append_nil], nothing⟩
  | opened runtime => exact ⟨.same rfl, [], (List.append_nil _).symm, nothing⟩
  | append unsent appended =>
      refine ⟨.same rfl, _, Snapshot.append_records appended, ?_⟩
      intro target encoded member
      rw [gateRequestsIn_noSend unsent] at member
      cases member

omit [Content β] [EffectStores β] [DeliveryStores β] in
theorem GateChange.kept {before after : GateTables} (change : GateChange before after)
    {handoff : Handoff} (member : handoff ∈ before.handoffs) : handoff ∈ after.handoffs := by
  cases change with
  | same handoffs => rwa [handoffs]
  | crossed _ crossing =>
      rw [(crossed_ok crossing).2]
      exact List.mem_append_left _ member

omit [Content β] [EffectStores β] [DeliveryStores β] in
theorem GateChange.distinct {before after : GateTables} (change : GateChange before after)
    (distinct : (before.handoffs.map Handoff.operation).Nodup) :
    (after.handoffs.map Handoff.operation).Nodup := by
  cases change with
  | same handoffs => rwa [handoffs]
  | crossed _ crossing =>
      obtain ⟨fresh, rfl⟩ := crossed_ok crossing
      rw [List.map_append, List.map_singleton]
      refine List.nodup_append.mpr ⟨distinct, List.nodup_singleton _, ?_⟩
      rintro operation earlier _ last rfl
      rw [List.mem_singleton.mp last] at earlier
      exact fresh earlier

theorem GatedStore.Sound.step {before after : GatedStore β} (sound : before.Sound)
    (step : GatedStep before after) : after.Sound := by
  obtain ⟨gate, rest, grown, sent⟩ := step.change
  refine ⟨gate.distinct sound.distinct, ?_⟩
  intro target encoded member
  rw [grown, gateRequestsIn, mem_entriesIn_append] at member
  rcases member with earlier | new
  · obtain ⟨request, handoff, recorded, same, operation, bytes, asked⟩ :=
      sound.sends target encoded earlier
    refine ⟨request, handoff, gate.kept recorded, same, operation, bytes, ?_⟩
    rw [grown]
    exact payloadsIn_append_left asked
  · exact sent target encoded new

theorem GatedRun.sound {store : GatedStore β} (run : GatedRun store) : store.Sound := by
  induction run with
  | initial worker =>
      refine ⟨List.nodup_nil, ?_⟩
      intro target encoded member
      have empty : (GatedStore.initial worker : GatedStore β).user.snapshot.records = [] := rfl
      rw [empty, gateRequestsIn_noSend (List.forall_mem_nil _)] at member
      cases member
  | step _ next ih => exact ih.step next

omit [Hashlib] in
/-- A retained SEND with the bytes of a recorded request is the recorded handoff's. -/
theorem GatedStore.Sound.recorded {store : GatedStore β} (sound : store.Sound) {target : Target}
    {payload : Bytes} {recorded : Handoff}
    (known : recorded ∈ store.gate.handoffs) (operation : request.operationId = recorded.operation)
    (retained : request.encoded ∈ gateRequestsIn target store.user.snapshot.records)
    (single : payloadsIn target store.user.snapshot.records = [payload]) :
    recorded.request = request.encoded ∧ recorded.payload = payload := by
  obtain ⟨original, handoff, member, encoded, own, bytes, asked⟩ := sound.sends _ _ retained
  obtain rfl := DeploymentGateRequest.encoded_inj encoded
  have same : handoff = recorded :=
    List.inj_on_of_nodup_map sound.distinct member known (own.trans operation)
  rw [single, List.mem_singleton] at asked
  rw [← same]
  exact ⟨bytes, asked⟩

omit [Hashlib] in
/-- A crossing of a recorded operation fails. -/
theorem not_crossed {tables after : GateTables}
    {payload : Bytes} {recorded : Handoff} (known : recorded ∈ tables.handoffs)
    (operation : request.operationId = recorded.operation) :
    tables.crossed request payload ≠ .ok after := by
  intro crossed
  apply (crossed_ok crossed).1
  rw [operation]
  exact List.mem_map_of_mem known

/-- At each crossing of any run the check of the same transaction saw fewer handoffs than the
cap in force, which holds right after it.  A recorded operation is never handed off again, and
no send, plan or rendering of it succeeds with another request or payload. -/
theorem deployment_cap {store : GatedStore β} (run : GatedRun store) :
    (∀ after, GatedStep store after → after.gate.handoffs = store.gate.handoffs ∨
      ∃ (gate : PostgresDeploymentGate) (now : Int) (request : DeploymentGateRequest)
        (surface : String) (payload : Bytes) (live : Bool) (current : CurrentEntitlement)
        (proof : Bytes),
        gate.require now store.gate request surface payload live = .ok true ∧
        store.gate.crossed request payload = .ok after.gate ∧
        after.gate.current = some (current, proof) ∧
        request.entitlementHead = current.entitlementHead ∧ request.mode = current.mode ∧
        store.gate.used current.entitlementHead current.mode < (current.bounds.cap : Nat) ∧
        after.gate.used current.entitlementHead current.mode ≤ (current.bounds.cap : Nat)) ∧
    ∀ recorded ∈ store.gate.handoffs, ∀ request : DeploymentGateRequest,
      request.operationId = recorded.operation →
      (∀ (services : EffectServices β) (gate : PostgresDeploymentGate) (runtime : Runtime)
        (binding : PostgresEffectsBinding) (peer callId : String) (after : GatedStore β)
        (send : Retained EffectSend),
        gatedEffectSend services gate runtime binding peer callId request store =
          .ok (after, send) →
        after = store ∧ recorded.request = request.encoded ∧
          ∃ intent, subject runtime store.user.snapshot callId = .ok intent ∧
            recorded.payload = intent.bytes) ∧
      (∀ (services : DeliveryServices β) (gate : PostgresDeploymentGate) (now : Int)
        (runtime : Runtime) (peer deliveryId : String) (after : GatedStore β)
        (send : NativeDeliverySendV1),
        gatedDeliverySend services gate now runtime peer deliveryId request store =
          .ok (after, send) →
        after = store ∧ recorded.request = request.encoded ∧ ∃ intent accepted,
          selectedDelivery services runtime store.user.snapshot deliveryId =
            .ok (intent, accepted) ∧ recorded.payload = (canonicalBytes intent).items) ∧
      (∀ (services : PlanningServices β) (gate : PostgresDeploymentGate) (now : Int)
        (command : Planning.CreateIntentionLine) (after : GatedStore β)
        (outcome : Planning.PlanningOutcome),
        publishPlan services gate now command (some request) store = .ok (after, outcome) →
        after.gate = store.gate ∧ (after = store ∧ outcome.disposition = .denied ∨
          recorded.request = request.encoded ∧ recorded.payload = commandBytes command)) ∧
      (∀ (services : PlanningServices β) (gate : PostgresDeploymentGate) (now : Int)
        (after : GatedStore β) (lines : List String),
        render services gate now (some request) store = .ok (after, lines) →
        after = store ∧ recorded.request = request.encoded ∧
          recorded.payload = (toJson lines).encodeAscii) := by
  have sound := run.sound
  constructor
  · intro after step
    cases step.change.1 with
    | same handoffs => exact .inl handoffs
    | crossed required crossing =>
        obtain ⟨current, proof, imported, head, mode, below, within⟩ :=
          PostgresDeploymentGate.cap_holds required crossing
        obtain ⟨isFresh, _⟩ :=
          PostgresDeploymentGate.require_fresh required (crossed_ok crossing).1
        rw [isFresh] at required
        exact .inr ⟨_, _, _, _, _, _, current, proof, required, crossing, imported, head, mode,
          below, within⟩
  · intro recorded known request operation
    have previous : PostgresDeploymentGate.previous store.gate request.operationId =
        some recorded := by
      rw [operation]
      exact PostgresDeploymentGate.previous_of_mem sound.distinct known
    refine ⟨?_, ?_, ?_, ?_⟩
    · intro services gate runtime binding peer callId after send sent
      obtain ⟨intent, selected, ⟨same, retained⟩ | ⟨_, _, _, _, _, crossed, _⟩⟩ :=
        gatedEffectSend_ok sent
      · obtain ⟨requests, payloads⟩ :=
          sound.recorded known operation retained (subject_payload selected)
        exact ⟨same, requests, intent, selected, payloads⟩
      · exact absurd crossed (not_crossed known operation)
    · intro services gate now runtime peer deliveryId after send sent
      obtain ⟨intent, accepted, selected, ⟨same, retained⟩ | ⟨_, _, _, crossed, _⟩⟩ :=
        gatedDeliverySend_ok sent
      · obtain ⟨requests, payloads⟩ :=
          sound.recorded known operation retained (delivery_payload selected)
        exact ⟨same, requests, intent, accepted, selected, payloads⟩
      · exact absurd crossed (not_crossed known operation)
    · intro services gate now command after outcome published
      rcases publishPlan_ok published with ⟨rfl, denied⟩ | ⟨_, fresh, _, same, _, required, _, _,
        gated⟩
      · exact ⟨rfl, .inl ⟨rfl, denied⟩⟩
      · cases same
        obtain ⟨_, requests, payloads⟩ :=
          PostgresDeploymentGate.require_recorded previous required
        refine ⟨?_, .inr ⟨requests, payloads⟩⟩
        rcases gated with kept | ⟨_, crossed⟩
        · exact kept
        · exact absurd crossed (not_crossed known operation)
    · intro services gate now after lines rendered
      obtain ⟨_, fresh, same, required, _, ⟨_, kept⟩ | ⟨_, crossed⟩⟩ := render_ok rendered
      · cases same
        obtain ⟨_, requests, payloads⟩ :=
          PostgresDeploymentGate.require_recorded previous required
        exact ⟨kept, requests, payloads⟩
      · cases same
        exact absurd crossed (not_crossed known operation)

end Runs

section Sample

def sampleGate : PostgresDeploymentGate := ⟨"tenant", some (fun _ _ => true)⟩

def sampleBounds : ExposureBounds :=
  { capabilityId := "planning.read"
    cohortId := "cohort"
    purpose := "cli"
    cap := ⟨1, Nat.one_pos⟩
    startsNs := 0
    expiresNs := ⟨10, ten_pos⟩
    instrumentation := ["log"]
    stopRules := ["stop"] }

/-- An entitlement that allows one handoff. -/
def sampleCurrent : CurrentEntitlement :=
  { generation := ⟨"tenant", "epoch", 0⟩
    mode := .production
    readinessHead := "ready-head"
    readiness := .ready
    entitlementHead := "entitlement"
    status := .active
    evidenceCursors := [("evidence", "head")]
    freshnessLeases := [("lease", 10)]
    bounds := sampleBounds
    livePredicates := [("live", true)]
    openCauses := [] }

def sampleRequest [Hashlib] : DeploymentGateRequest :=
  { operationId := "operation"
    surfaceId := "cli.render"
    payloadDigest := (sha256 (toJson ["line"]).encodeAscii).text
    mode := .production
    generation := sampleCurrent.generation
    readinessHead := "ready-head"
    entitlementHead := "entitlement"
    evidenceCursors := sampleCurrent.evidenceCursors
    freshnessLeases := sampleCurrent.freshnessLeases
    bounds := sampleBounds }

def sampleServices : PlanningServices ClientValue where
  context := .ok ()
  execute := fun _ => .ok (heldPlan "unused", none)
  lines := fun _ => .ok ["line"]

/-- The cap is used up after one rendering: no step adds a handoff. -/
theorem deployment_cap_sample :
    letI := Sha256.hashlib
    ∃ store : GatedStore ClientValue, GatedRun store ∧ store.gate.handoffs.length = 1 ∧
      ∀ after, GatedStep store after → after.gate.handoffs = store.gate.handoffs := by
  let _ := Sha256.hashlib
  let request : DeploymentGateRequest := sampleRequest
  let payload := (toJson ["line"]).encodeAscii
  let imported : GateTables := ⟨some (sampleCurrent, []), []⟩
  have accepted : sampleGate.importCurrent ⟨none, []⟩ sampleCurrent [] none = .ok imported := by
    rw [PostgresDeploymentGate.importCurrent, raiseIf_neg (by decide), raiseIf_neg (by decide)]
    rfl
  have entitled := (GatedRun.initial none : GatedRun (β := ClientValue) _).step
    (.importCurrent _ accepted)
  have live : PostgresDeploymentGate.requireLive sampleCurrent request 5 = .ok () := by
    decide +kernel
  have exactly : sampleGate.requireExact sampleCurrent request "cli.render" payload = .ok () := by
    refine raiseIf_neg ?_
    simp only [not_or, not_not, ne_eq]
    exact ⟨rfl, rfl, rfl, rfl, rfl, rfl, rfl, rfl, rfl, rfl, rfl⟩
  have required : sampleGate.require 5 imported request "cli.render" payload false =
      .ok true := by
    dsimp only [PostgresDeploymentGate.require, imported]
    rw [raiseIf_neg (by decide), ok_bind, exactly, ok_bind]
    dsimp only [PostgresDeploymentGate.previous, List.find?_nil]
    rw [live, ok_bind, raiseIf_neg (by decide), ok_bind]
  let crossed : GateTables :=
    ⟨some (sampleCurrent, []), [⟨"operation", request.encoded, payload, "entitlement",
      .production⟩]⟩
  have crossing : imported.crossed request payload = .ok crossed := by
    rw [GateTables.crossed, raiseIf_neg (by simp [imported]), ok_bind]
    rfl
  have rendered : render sampleServices sampleGate 5 (some request)
      ⟨(GatedStore.initial (β := ClientValue) none).user, imported⟩ =
        .ok (⟨(GatedStore.initial none).user, crossed⟩, ["line"]) := by
    dsimp only [render, sampleServices]
    rw [ok_bind, ok_bind, required, ok_bind, if_pos rfl, crossing, ok_bind]
  have run := entitled.step (.render rendered)
  refine ⟨_, run, rfl, ?_⟩
  intro after next
  rcases (deployment_cap run).1 after next with same |
    ⟨_, _, _, _, _, _, current, proof, _, crossing, kept, _, _, below, _⟩
  · exact same
  · rw [(crossed_ok crossing).2] at kept
    cases kept
    exact absurd below (by decide)

end Sample

end Chiplog.Composition
