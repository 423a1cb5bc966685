import Chiplog.Composition.PostgresCompletion
import Chiplog.Data.Custody

namespace Chiplog.Composition

open Chiplog.Data Chiplog.Platform Chiplog.Effects

/-! Physical emission across workers.

A world is the user's database, the calls in flight and the provider calls made so far.
Each transaction is one step; the provider call is a later step of the task that
committed the claim, and every task may vanish between any two of its steps. -/

inductive Surface where
  | effect
  | delivery
deriving DecidableEq

namespace Surface

def sendOperation : Surface → String
  | .effect => "effects.first-send"
  | .delivery => "delivery.first-send"

def claimOperation : Surface → String
  | .effect => "effects.emit-claim"
  | .delivery => "delivery.emit-claim"

def receiptOperation : Surface → String
  | .effect => "effects.receipt"
  | .delivery => "delivery.receipt"

end Surface

/-- A call identity or a delivery identity. -/
structure Target where
  surface : Surface
  id : String
deriving DecidableEq

/-- One invocation of `provider.emit_issued`. -/
structure Emission where
  target : Target
  ticket : IssuedEffectSendTicket
deriving DecidableEq

structure Call where
  runtime : Runtime
  peer : String
  target : Target
deriving DecidableEq

/-- Where an asynchronous call stands between two of its steps. -/
inductive Task (β : Type) where
  | working (runtime : Runtime) (peer : String) (work : EffectWork)
  | emit (call : Call)
  | reconcile (call : Call)
  | claimed (call : Call) (ticket : IssuedEffectSendTicket)
  | sending (call : Call) (ticket : IssuedEffectSendTicket)
  | received (call : Call) (raw : Bytes)
  | publishing (call : Call) (key : String) (expectedHead : Nat) (records : List (Record β))

namespace Task

/-- A client may start these at any time; the others only follow from them. -/
def Fresh : Task β → Prop
  | .working _ _ _ | .emit _ | .reconcile _ => True
  | _ => False

/-- A committed claim whose provider call is still ahead. -/
def permit : Task β → Option Target
  | .claimed call _ | .sending call _ => some call.target
  | _ => none

end Task

structure World (β : Type) where
  user : UserState β
  tasks : Multiset (Task β)
  emissions : List Emission

def World.initial (worker : Option String) : World β :=
  ⟨⟨Snapshot.empty, worker⟩, 0, []⟩

section Contents

variable {β : Type} [Content β] [EffectStores β] [DeliveryStores β]

/-- Schemas that only the custody transactions write. -/
def custodySchemas : List String :=
  [Schema.schemaId (EffectSend .tool), Schema.schemaId (EffectSend .action),
    Schema.schemaId (EffectClaim .tool), Schema.schemaId (EffectClaim .action),
    Schema.schemaId NativeDeliverySendV1, Schema.schemaId NativeDeliveryClaimV1]

def custodyOperations : List String :=
  [Surface.effect.sendOperation, Surface.effect.claimOperation,
    Surface.delivery.sendOperation, Surface.delivery.claimOperation]

def Foreign (records : List (Record β)) : Prop :=
  ∀ record ∈ records, record.schemaId ∉ custodySchemas

/-- A view of every stored record of a target, whichever schema its surface uses. -/
def entriesIn (ρ : Family → Type) (δ : Type) [∀ family, CustodyRow (ρ family)]
    [∀ family, Stores β (ρ family)] [CustodyRow δ] [Stores β δ] (effect : ∀ family, ρ family → ε)
    (delivery : δ → ε) (target : Target) (records : List (Record β)) : List ε :=
  match target.surface with
  | .effect => (familyIn ρ records target.id).map (fun item => effect item.1 item.2)
  | .delivery => (streamIn δ records target.id).map delivery

/-- Head and ticket of every stored SEND of a target. -/
def sendsIn (target : Target) (records : List (Record β)) :
    List (String × IssuedEffectSendTicket) :=
  entriesIn EffectSend NativeDeliverySendV1 (fun _ send => (send.head, send.ticket))
    (fun send => (send.head, send.ticket)) target records

/-- Head and SEND head of every stored claim of a target. -/
def claimsIn (target : Target) (records : List (Record β)) : List (String × String) :=
  entriesIn EffectClaim NativeDeliveryClaimV1 (fun _ claim => (claim.head, claim.sendHead))
    (fun claim => (claim.head, claim.sendHead)) target records

end Contents

section Steps

variable {β : Type} [Content β] [EffectStores β] [DeliveryStores β] [DecidableEq β] [Hashlib]

/-- What the provider answers, if its answer arrives at all. -/
def afterProvider (call : Call) (response : Option Bytes) (rest : Multiset (Task β)) :
    Multiset (Task β) :=
  match response with
  | some raw => .received call raw ::ₘ rest
  | none => rest

def afterRetention (call : Call) (retention : ReceiptRetention β) (rest : Multiset (Task β)) :
    Multiset (Task β) :=
  match retention with
  | .retained => rest
  | .publish key expectedHead records => .publishing call key expectedHead records ::ₘ rest

inductive Step : World β → World β → Prop
  | opened (world : World β) (runtime : Runtime) :
      Step world { world with user := runtime.opened world.user }
  | start (world : World β) (task : Task β) (fresh : task.Fresh) :
      Step world { world with tasks := task ::ₘ world.tasks }
  | vanish (user : UserState β) (task : Task β) (rest : Multiset (Task β))
      (emissions : List Emission) : Step ⟨user, task ::ₘ rest, emissions⟩ ⟨user, rest, emissions⟩
  | foreign (world : World β) {operation key fingerprint : String} {records : List (Record β)}
      {after : Snapshot β} (elsewhere : operation ∉ custodyOperations)
      (unrelated : Foreign records)
      (appended : world.user.snapshot.append operation key fingerprint records
        world.user.snapshot.head = .ok after) :
      Step world { world with user := ⟨after, world.user.worker⟩ }
  | commitEffectSend (world : World β) {services : EffectServices β} {runtime : Runtime}
      {binding : PostgresEffectsBinding} {peer callId : String} {request : DeploymentGateRequest}
      {after : UserState β} {send : Retained EffectSend}
      (committed : commitEffectSend services runtime binding peer callId request world.user =
        .ok (after, send)) : Step world { world with user := after }
  | commitDeliverySend (world : World β) {services : DeliveryServices β} {runtime : Runtime}
      {peer deliveryId : String} {request : DeploymentGateRequest} {after : UserState β}
      {send : NativeDeliverySendV1}
      (committed : commitDeliverySend services runtime peer deliveryId request world.user =
        .ok (after, send)) : Step world { world with user := after }
  | workEmit (user : UserState β) {runtime : Runtime} {peer : String} {work : EffectWork}
      (rest : Multiset (Task β)) (emissions : List Emission) {services : EffectServices β}
      (selected : stepEffectWork services runtime peer work user = .ok .emit) :
      Step ⟨user, .working runtime peer work ::ₘ rest, emissions⟩
        ⟨user, .emit ⟨runtime, peer, .effect, work.streamId.text⟩ ::ₘ rest, emissions⟩
  | workReconcile (user : UserState β) {runtime : Runtime} {peer : String} {work : EffectWork}
      (rest : Multiset (Task β)) (emissions : List Emission) {services : EffectServices β}
      (selected : stepEffectWork services runtime peer work user = .ok .reconcile) :
      Step ⟨user, .working runtime peer work ::ₘ rest, emissions⟩
        ⟨user, .reconcile ⟨runtime, peer, .effect, work.streamId.text⟩ ::ₘ rest, emissions⟩
  | effectClaimExists (user : UserState β) {runtime : Runtime} {peer callId : String}
      (rest : Multiset (Task β)) (emissions : List Emission) {services : EffectServices β}
      {binding : PostgresEffectsBinding} {after : UserState β} {claim : Retained EffectClaim}
      (emitted : emitEffect services runtime binding peer callId user =
        .ok (after, .existing claim)) :
      Step ⟨user, .emit ⟨runtime, peer, .effect, callId⟩ ::ₘ rest, emissions⟩
        ⟨after, rest, emissions⟩
  | effectClaimed (user : UserState β) {runtime : Runtime} {peer callId : String}
      (rest : Multiset (Task β)) (emissions : List Emission) {services : EffectServices β}
      {binding : PostgresEffectsBinding} {after : UserState β} {send : Retained EffectSend}
      {claim : Retained EffectClaim}
      (emitted : emitEffect services runtime binding peer callId user =
        .ok (after, .claimed send claim)) :
      Step ⟨user, .emit ⟨runtime, peer, .effect, callId⟩ ::ₘ rest, emissions⟩
        ⟨after, .claimed ⟨runtime, peer, .effect, callId⟩ send.2.ticket ::ₘ rest, emissions⟩
  | deliveryClaimExists (user : UserState β) {runtime : Runtime} {peer deliveryId : String}
      (rest : Multiset (Task β)) (emissions : List Emission) {services : DeliveryServices β}
      {after : UserState β} {claim : NativeDeliveryClaimV1}
      (emitted : emitDelivery services runtime peer deliveryId user =
        .ok (after, .existing claim)) :
      Step ⟨user, .emit ⟨runtime, peer, .delivery, deliveryId⟩ ::ₘ rest, emissions⟩
        ⟨after, rest, emissions⟩
  | deliveryClaimed (user : UserState β) {runtime : Runtime} {peer deliveryId : String}
      (rest : Multiset (Task β)) (emissions : List Emission) {services : DeliveryServices β}
      {after : UserState β} {send : NativeDeliverySendV1} {claim : NativeDeliveryClaimV1}
      (emitted : emitDelivery services runtime peer deliveryId user =
        .ok (after, .claimed send claim)) :
      Step ⟨user, .emit ⟨runtime, peer, .delivery, deliveryId⟩ ::ₘ rest, emissions⟩
        ⟨after, .claimed ⟨runtime, peer, .delivery, deliveryId⟩ send.ticket ::ₘ rest, emissions⟩
  | currentWorker (user : UserState β) (call : Call) (ticket : IssuedEffectSendTicket)
      (rest : Multiset (Task β)) (emissions : List Emission) {context : Transaction Unit}
      {worker : String} (current : call.runtime.currentWorker context user = .ok worker) :
      Step ⟨user, .claimed call ticket ::ₘ rest, emissions⟩
        ⟨user, .sending call ticket ::ₘ rest, emissions⟩
  | emitIssued (user : UserState β) (call : Call) (ticket : IssuedEffectSendTicket)
      (rest : Multiset (Task β)) (emissions : List Emission) (response : Option Bytes) :
      Step ⟨user, .sending call ticket ::ₘ rest, emissions⟩
        ⟨user, afterProvider call response rest, emissions ++ [⟨call.target, ticket⟩]⟩
  | reconcileEffect (user : UserState β) {runtime : Runtime} {peer callId : String}
      (rest : Multiset (Task β)) (emissions : List Emission) {services : EffectServices β}
      {transmissionId : String} (response : Option Bytes)
      (read : reconcileEffect services runtime peer callId user = .ok transmissionId) :
      Step ⟨user, .reconcile ⟨runtime, peer, .effect, callId⟩ ::ₘ rest, emissions⟩
        ⟨user, afterProvider ⟨runtime, peer, .effect, callId⟩ response rest, emissions⟩
  | reconcileDelivery (user : UserState β) {runtime : Runtime} {peer deliveryId : String}
      (rest : Multiset (Task β)) (emissions : List Emission) {services : DeliveryServices β}
      {transmissionId : String} (response : Option Bytes)
      (read : reconcileDelivery services runtime peer deliveryId user = .ok transmissionId) :
      Step ⟨user, .reconcile ⟨runtime, peer, .delivery, deliveryId⟩ ::ₘ rest, emissions⟩
        ⟨user, afterProvider ⟨runtime, peer, .delivery, deliveryId⟩ response rest, emissions⟩
  | retainEffect (user : UserState β) {runtime : Runtime} {peer callId : String} {raw : Bytes}
      (rest : Multiset (Task β)) (emissions : List Emission) {services : EffectServices β}
      {binding : PostgresEffectsBinding} {retention : ReceiptRetention β}
      (read : appendEffectReceipt services runtime binding peer callId raw user = .ok retention) :
      Step ⟨user, .received ⟨runtime, peer, .effect, callId⟩ raw ::ₘ rest, emissions⟩
        ⟨user, afterRetention ⟨runtime, peer, .effect, callId⟩ retention rest, emissions⟩
  | retainDelivery (user : UserState β) {runtime : Runtime} {peer deliveryId : String}
      {raw : Bytes} (rest : Multiset (Task β)) (emissions : List Emission)
      {services : DeliveryServices β} {retention : ReceiptRetention β}
      (read : retainDeliveryReceipt services runtime peer deliveryId raw user = .ok retention) :
      Step ⟨user, .received ⟨runtime, peer, .delivery, deliveryId⟩ raw ::ₘ rest, emissions⟩
        ⟨user, afterRetention ⟨runtime, peer, .delivery, deliveryId⟩ retention rest, emissions⟩
  | publish (user : UserState β) {call : Call} {key : String} {expectedHead : Nat}
      {records : List (Record β)} (rest : Multiset (Task β)) (emissions : List Emission)
      {context : Transaction Unit} {validate admits : Snapshot β → Transaction Unit}
      {after : UserState β} {result : PublicationResult}
      (published : publishExecutionBatch call.runtime context call.peer
        call.target.surface.receiptOperation key expectedHead records validate admits user =
          .ok (after, result)) :
      Step ⟨user, .publishing call key expectedHead records ::ₘ rest, emissions⟩
        ⟨after, rest, emissions⟩

/-- Any number of steps of any number of workers from an empty log. -/
inductive World.Reachable : World β → Prop
  | initial (worker : Option String) : Reachable (World.initial worker)
  | step {before after : World β} (earlier : Reachable before) (next : Step before after) :
      Reachable after

end Steps

end Chiplog.Composition
