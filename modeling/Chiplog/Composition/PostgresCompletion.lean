import Chiplog.Composition.PostgresEffects

namespace Chiplog.Composition

open Chiplog.Data Chiplog.Platform Chiplog.Effects

/-! Durable self delivery of an accepted completion.

A delivery follows the custody of an effect under its own schemas: SEND, claim, provider
call, receipt.  The accepted manifest is read again before every transition. -/

structure DeliveryHead where
  identity : Identity
  head : Identity
  fingerprint : Digest
deriving DecidableEq

instance : Model DeliveryHead := ⟨fun value =>
  [("identity", toJson value.identity), ("head", toJson value.head),
    ("fingerprint", toJson value.fingerprint)]⟩

structure DeliveryRecipient where
  providerId : Identity
  accountId : Identity
  recipientId : Identity
  endpoint : DeliveryHead
  canonicalAddress : Bytes
  credentialBinding : DeliveryHead
deriving DecidableEq

instance : Model DeliveryRecipient := ⟨fun value =>
  [("provider_id", toJson value.providerId), ("account_id", toJson value.accountId),
    ("recipient_id", toJson value.recipientId), ("endpoint", toJson value.endpoint),
    ("canonical_address", toJson value.canonicalAddress),
    ("credential_binding", toJson value.credentialBinding)]⟩

inductive EndpointSelection where
  | originExact (ingressBinding : DeliveryHead) (recipient : DeliveryRecipient)
  | modelSelectedExact (recipient : DeliveryRecipient)
deriving DecidableEq

instance : Model EndpointSelection := ⟨fun
  | .originExact ingressBinding recipient =>
      [("kind", .str "ORIGIN_EXACT"), ("ingress_binding", toJson ingressBinding),
        ("recipient", toJson recipient)]
  | .modelSelectedExact recipient =>
      [("kind", .str "MODEL_SELECTED_EXACT"), ("recipient", toJson recipient)]⟩

def EndpointSelection.recipient : EndpointSelection → DeliveryRecipient
  | .originExact _ recipient => recipient
  | .modelSelectedExact recipient => recipient

structure AcceptedDelivery where
  deliveryId : Identity
  acceptance : DeliveryHead
  selection : EndpointSelection
  renderedBytes : Bytes
  renderDigest : Digest
  manifestDigest : Digest
  visibility : NonemptyTuple DeliveryHead
  provenance : NonemptyTuple DeliveryHead
  disclosure : NonemptyTuple DeliveryHead
  narrowing : List DeliveryHead
  policy : DeliveryHead
deriving DecidableEq

instance : Model AcceptedDelivery := ⟨fun value =>
  [("delivery_id", toJson value.deliveryId), ("acceptance", toJson value.acceptance),
    ("selection", toJson value.selection), ("rendered_bytes", toJson value.renderedBytes),
    ("render_digest", toJson value.renderDigest),
    ("manifest_digest", toJson value.manifestDigest), ("visibility", toJson value.visibility),
    ("provenance", toJson value.provenance), ("disclosure", toJson value.disclosure),
    ("narrowing", toJson value.narrowing), ("policy", toJson value.policy)]⟩

structure DeliveryManifest where
  manifestId : Identity
  runId : Identity
  turnId : Identity
  completeAcceptance : DeliveryHead
  authenticatedWorkerFence : DeliveryHead
  orderedDeliveries : NonemptyTuple AcceptedDelivery
deriving DecidableEq

instance : Model DeliveryManifest := ⟨fun value =>
  [("manifest_id", toJson value.manifestId), ("run_id", toJson value.runId),
    ("turn_id", toJson value.turnId), ("complete_acceptance", toJson value.completeAcceptance),
    ("authenticated_worker_fence", toJson value.authenticatedWorkerFence),
    ("ordered_deliveries", toJson value.orderedDeliveries),
    ("canonicalization_version", .str "chiplog.delivery.v1")]⟩

structure DeliveryAcceptanceProposal where
  sourceCommandDigest : Digest
  sourceSnapshotDigest : Digest
  acceptance : DeliveryHead
  manifest : DeliveryManifest
  historyRenderedBytes : List Bytes
  proposalDigest : Digest
deriving DecidableEq

instance : Model DeliveryAcceptanceProposal := ⟨fun value =>
  [("source_command_digest", toJson value.sourceCommandDigest),
    ("source_snapshot_digest", toJson value.sourceSnapshotDigest),
    ("acceptance", toJson value.acceptance), ("manifest", toJson value.manifest),
    ("history_rendered_bytes", toJson value.historyRenderedBytes),
    ("proposal_digest", toJson value.proposalDigest)]⟩

structure NativeCompletionAcceptanceV1 where
  head : String
  tenantId : String
  principalId : String
  runId : String
  sourceRunHead : String
  workerAtAcceptance : DeliveryHead
  proposal : DeliveryAcceptanceProposal
deriving DecidableEq

/-- The fields every completion record starts with. -/
def completionFields (schema head tenantId principalId : String) : List (String × Json) :=
  [("schema_id", .str schema), ("head", .str head), ("tenant_id", .str tenantId),
    ("principal_id", .str principalId)]

instance : Model NativeCompletionAcceptanceV1 := ⟨fun value =>
  completionFields "chiplog.completion.native-acceptance.v1" value.head value.tenantId
    value.principalId ++
  [("run_id", toJson value.runId), ("source_run_head", toJson value.sourceRunHead),
    ("worker_at_acceptance", toJson value.workerAtAcceptance),
    ("proposal", toJson value.proposal)]⟩

structure NativeDeliveryIntentV1 where
  head : String
  tenantId : String
  principalId : String
  deliveryId : String
  acceptanceHead : String
  delivery : AcceptedDelivery
  receiptKeyFingerprint : String
deriving DecidableEq

instance : Model NativeDeliveryIntentV1 := ⟨fun value =>
  completionFields "chiplog.delivery.native-intent.v1" value.head value.tenantId
    value.principalId ++
  [("delivery_id", toJson value.deliveryId), ("acceptance_head", toJson value.acceptanceHead),
    ("delivery", toJson value.delivery),
    ("receipt_key_fingerprint", toJson value.receiptKeyFingerprint)]⟩

structure NativeDeliverySendV1 where
  head : String
  tenantId : String
  principalId : String
  deliveryId : String
  intentHead : String
  ticket : IssuedEffectSendTicket
  gateRequestBytes : Bytes
deriving DecidableEq

instance : Model NativeDeliverySendV1 := ⟨fun value =>
  completionFields "chiplog.delivery.native-send.v1" value.head value.tenantId
    value.principalId ++
  [("delivery_id", toJson value.deliveryId), ("intent_head", toJson value.intentHead),
    ("ticket_bytes", toJson value.ticket.encoded),
    ("gate_request_bytes", toJson value.gateRequestBytes)]⟩

structure NativeDeliveryClaimV1 where
  head : String
  tenantId : String
  principalId : String
  deliveryId : String
  sendHead : String
  worker : String
deriving DecidableEq

instance : Model NativeDeliveryClaimV1 := ⟨fun value =>
  completionFields "chiplog.delivery.native-claim.v1" value.head value.tenantId
    value.principalId ++
  [("delivery_id", toJson value.deliveryId), ("send_head", toJson value.sendHead),
    ("worker", toJson value.worker)]⟩

inductive DeliveryOutcome where
  | confirmed
  | failedNoEffect
deriving DecidableEq

instance : Jsonable DeliveryOutcome := ⟨fun
  | .confirmed => .str "CONFIRMED"
  | .failedNoEffect => .str "FAILED_NO_EFFECT"⟩

structure NativeDeliveryReceiptV1 where
  head : String
  tenantId : String
  principalId : String
  deliveryId : String
  sendHead : String
  rawReceipt : Bytes
  outcome : DeliveryOutcome
deriving DecidableEq

instance : Model NativeDeliveryReceiptV1 := ⟨fun value =>
  completionFields "chiplog.delivery.native-receipt.v1" value.head value.tenantId
    value.principalId ++
  [("delivery_id", toJson value.deliveryId), ("send_head", toJson value.sendHead),
    ("raw_receipt", toJson value.rawReceipt), ("outcome", toJson value.outcome)]⟩

instance : CustodyRow NativeCompletionAcceptanceV1 where
  schemaId := "chiplog.completion.native-acceptance.v1"
  operation := "completion.read"
  lead := "completion:"
  owner := "agent_loop"
  head := (·.head)
  withHead text value := { value with head := text }
  scope value := (value.tenantId, value.principalId)
  stream := (·.runId)
  head_withHead _ _ := rfl
  withHead_withHead _ _ _ := rfl

instance : CustodyRow NativeDeliveryIntentV1 where
  schemaId := "chiplog.delivery.native-intent.v1"
  operation := "completion.read"
  lead := "completion:"
  head := (·.head)
  withHead text value := { value with head := text }
  scope value := (value.tenantId, value.principalId)
  stream := (·.deliveryId)
  head_withHead _ _ := rfl
  withHead_withHead _ _ _ := rfl

instance : CustodyRow NativeDeliverySendV1 where
  schemaId := "chiplog.delivery.native-send.v1"
  operation := "completion.read"
  lead := "completion:"
  head := (·.head)
  withHead text value := { value with head := text }
  scope value := (value.tenantId, value.principalId)
  stream := (·.deliveryId)
  head_withHead _ _ := rfl
  withHead_withHead _ _ _ := rfl

instance : CustodyRow NativeDeliveryClaimV1 where
  schemaId := "chiplog.delivery.native-claim.v1"
  operation := "completion.read"
  lead := "completion:"
  head := (·.head)
  withHead text value := { value with head := text }
  scope value := (value.tenantId, value.principalId)
  stream := (·.deliveryId)
  head_withHead _ _ := rfl
  withHead_withHead _ _ _ := rfl

instance : CustodyRow NativeDeliveryReceiptV1 where
  schemaId := "chiplog.delivery.native-receipt.v1"
  operation := "completion.read"
  lead := "completion:"
  head := (·.head)
  withHead text value := { value with head := text }
  scope value := (value.tenantId, value.principalId)
  stream := (·.deliveryId)
  head_withHead _ _ := rfl
  withHead_withHead _ _ _ := rfl

/-- A log that also keeps the completion records. -/
class DeliveryStores (β : Type) [Content β] where
  acceptance : Stores β NativeCompletionAcceptanceV1
  intent : Stores β NativeDeliveryIntentV1
  send : Stores β NativeDeliverySendV1
  claim : Stores β NativeDeliveryClaimV1
  receipt : Stores β NativeDeliveryReceiptV1

section Instances

variable {β : Type} [Content β] [stores : DeliveryStores β]

instance : Stores β NativeCompletionAcceptanceV1 := stores.acceptance
instance : Stores β NativeDeliveryIntentV1 := stores.intent
instance : Stores β NativeDeliverySendV1 := stores.send
instance : Stores β NativeDeliveryClaimV1 := stores.claim
instance : Stores β NativeDeliveryReceiptV1 := stores.receipt

end Instances

/-- The registered transport: the hermetic provider or the local terminal. -/
structure NativeDeliveryBinding where
  receiptKey : NonemptyBytes
  adapterContractVersion : String
  targetForPrincipal : String → Transaction ProviderRecipient
  verifyReceipt : IssuedEffectSendTicket → Bytes → Transaction ReceiptObservation

/-- What a delivery transaction asks of the rest of the runtime at one moment. -/
structure DeliveryServices (β : Type) where
  context : Transaction Unit
  binding : Option NativeDeliveryBinding
  schedulerFence : Snapshot β → String → Transaction (Option Bytes)
  revalidate : Snapshot β → NativeCompletionAcceptanceV1 → Transaction Unit
  gateRequire : Bytes → String → Bytes → Transaction Unit
  gateCrossed : Bytes → Bytes → Transaction Unit

def DeliveryServices.transport (services : DeliveryServices β) :
    Transaction NativeDeliveryBinding :=
  match services.binding with
  | some binding => .ok binding
  | none => .error (.loopHold "registered durable delivery transport unavailable")

/-- The transport's target in the manifest's vocabulary. -/
def recipient (target : ProviderRecipient) : Transaction DeliveryRecipient := do
  let head (value : ExactHead) : Transaction DeliveryHead :=
    if hexadecimal : value.fingerprint.text.length = 64 ∧
        ∀ char ∈ value.fingerprint.text.toList, char ∈ hexAlphabet then
      .ok ⟨value.subjectId, value.head, ⟨value.fingerprint.text, hexadecimal⟩⟩
    else .error (.value "String should match pattern '^[0-9a-f]\x7b64\x7d$'")
  let endpoint ← head target.endpoint
  let credential ← head target.credentialBinding
  return ⟨target.provider, target.account, target.recipient, endpoint,
    target.canonicalAddress.items, credential⟩

/-- A delivery has one member, so a receipt closes it one way or the other. -/
def deliveryOutcome (observed : ReceiptObservation) (deliveryId : String) :
    Transaction DeliveryOutcome :=
  if observed.occurredMembers = [deliveryId] ∧ observed.permanentlyIncapableMembers = [] then
    .ok .confirmed
  else if observed.permanentlyIncapableMembers = [deliveryId] ∧ observed.occurredMembers = [] then
    .ok .failedNoEffect
  else .error (.loopHold "delivery receipt does not close the original delivery member")

section Deliveries

variable [Hashlib] {β : Type} [Content β] [DeliveryStores β] {peer deliveryId : String}
  {services : DeliveryServices β} {runtime : Runtime}

def selectedDelivery (services : DeliveryServices β) (runtime : Runtime) (snapshot : Snapshot β)
    (deliveryId : String) : Transaction (NativeDeliveryIntentV1 × NativeCompletionAcceptanceV1) := do
  match ← rows NativeDeliveryIntentV1 runtime snapshot (some deliveryId) with
  | [intent] =>
      let accepted ← rows NativeCompletionAcceptanceV1 runtime snapshot none
      match accepted.filter (fun value => value.head = intent.acceptanceHead) with
      | [acceptance] =>
          require (intent.delivery ∈ acceptance.proposal.manifest.orderedDeliveries.items)
            (.loopRejected "delivery intent differs from accepted manifest")
          let transport ← services.transport
          let current ← recipient (← transport.targetForPrincipal runtime.principalId)
          require (current = intent.delivery.selection.recipient ∧
              intent.receiptKeyFingerprint = (digest transport.receiptKey.items).text)
            (.permission "accepted delivery transport registration changed")
          return (intent, acceptance)
      | _ => .error (.loopRejected "delivery intent differs from accepted manifest")
  | _ => .error (.loopRejected "exact prepared delivery intent absent")

def preparedDeliverySend (runtime : Runtime) (transport : NativeDeliveryBinding)
    (target : ProviderRecipient) (intent : NativeDeliveryIntentV1) (deliveryId : String)
    (request : DeploymentGateRequest) : NativeDeliverySendV1 :=
  let intentBytes := (canonicalBytes intent).items
  headed "completion:"
    { head := "pending"
      tenantId := runtime.tenantId
      principalId := runtime.principalId
      deliveryId := deliveryId
      intentHead := intent.head
      ticket :=
        { tenantId := runtime.tenantId
          issuedOperationId := request.operationId
          journalDecisionId := "postgres:" ++ runtime.databaseName ++ ":" ++ request.operationId
          journalDecisionFingerprint := (digest intentBytes).text
          transmissionId := deliveryId ++ "/child/0"
          transmissionFingerprint := (digest intentBytes).text
          requestOrdinal := 0
          intentId := deliveryId
          intentFingerprint := (digest intentBytes).text
          provider := target.provider.text
          account := target.account.text
          recipient := target.recipient.text
          canonicalAddress := target.canonicalAddress.items
          endpointHead := target.endpoint.head.text
          credentialBindingHead := target.credentialBinding.head.text
          adapterContractVersion := transport.adapterContractVersion
          payload := intent.delivery.renderedBytes
          payloadFingerprint := (digest intent.delivery.renderedBytes).text
          idempotencyKey := deliveryId ++ "/first-send"
          bundleMembers := [deliveryId] }
      gateRequestBytes := request.encoded }

def commitDeliverySend (services : DeliveryServices β) (runtime : Runtime)
    (peer deliveryId : String) (request : DeploymentGateRequest) (user : UserState β) :
    Transaction (UserState β × NativeDeliverySendV1) := do
  runtime.actor services.context peer user
  let snapshot := user.snapshot
  let (intent, accepted) ← selectedDelivery services runtime snapshot deliveryId
  match ← rows NativeDeliverySendV1 runtime snapshot (some deliveryId) with
  | previous :: _ =>
      require (previous.gateRequestBytes = request.encoded)
        (.loopRejected "delivery first-send request changed")
      return (user, previous)
  | [] =>
      let _ ← services.schedulerFence snapshot accepted.runId
      services.revalidate snapshot accepted
      services.gateRequire request.encoded "delivery.first_send" (canonicalBytes intent).items
      let transport ← services.transport
      let target ← transport.targetForPrincipal runtime.principalId
      let send := preparedDeliverySend runtime transport target intent deliveryId request
      let appended ← snapshot.append "delivery.first-send" deliveryId
        (digest (canonicalBytes send).items).text [record send] snapshot.head
      services.gateCrossed request.encoded (canonicalBytes intent).items
      return (⟨appended, user.worker⟩, send)

inductive EmitDelivery where
  | existing (claim : NativeDeliveryClaimV1)
  | claimed (send : NativeDeliverySendV1) (claim : NativeDeliveryClaimV1)

def preparedDeliveryClaim (runtime : Runtime) (deliveryId sendHead : String) :
    NativeDeliveryClaimV1 :=
  headed "completion:"
    { head := "pending"
      tenantId := runtime.tenantId
      principalId := runtime.principalId
      deliveryId := deliveryId
      sendHead := sendHead
      worker := runtime.worker }

def emitDelivery (services : DeliveryServices β) (runtime : Runtime) (peer deliveryId : String)
    (user : UserState β) : Transaction (UserState β × EmitDelivery) := do
  runtime.actor services.context peer user
  let snapshot := user.snapshot
  let (intent, accepted) ← selectedDelivery services runtime snapshot deliveryId
  match ← rows NativeDeliveryClaimV1 runtime snapshot (some deliveryId) with
  | previous :: _ => return (user, .existing previous)
  | [] =>
      match ← rows NativeDeliverySendV1 runtime snapshot (some deliveryId) with
      | [send] =>
          require (send.intentHead = intent.head)
            (.loopRejected "delivery requires exact first-send record")
          let _ ← services.schedulerFence snapshot accepted.runId
          services.revalidate snapshot accepted
          services.gateRequire send.gateRequestBytes "delivery.first_send"
            (canonicalBytes intent).items
          let claim := preparedDeliveryClaim runtime deliveryId send.head
          let appended ← snapshot.append "delivery.emit-claim" deliveryId
            (digest (canonicalBytes claim).items).text [record claim] snapshot.head
          return (⟨appended, user.worker⟩, .claimed send claim)
      | _ => .error (.loopRejected "delivery requires exact first-send record")

/-- The read that `retain_delivery_receipt` makes before it publishes. -/
def retainDeliveryReceipt (services : DeliveryServices β) (runtime : Runtime)
    (peer deliveryId : String) (raw : Bytes) (user : UserState β) :
    Transaction (ReceiptRetention β) := do
  let snapshot ← runtime.snapshotForPeer services.context peer user
  let _ ← selectedDelivery services runtime snapshot deliveryId
  let claims ← rows NativeDeliveryClaimV1 runtime snapshot (some deliveryId)
  let sends ← rows NativeDeliverySendV1 runtime snapshot (some deliveryId)
  match claims, sends with
  | [claim], [send] =>
      require (claim.sendHead = send.head)
        (.loopHold "delivery receipt lacks its original claimed transmission")
      let transport ← services.transport
      let observed ← transport.verifyReceipt send.ticket raw
      let outcome ← deliveryOutcome observed deliveryId
      match ← rows NativeDeliveryReceiptV1 runtime snapshot (some deliveryId) with
      | previous :: _ =>
          require (previous.rawReceipt = raw)
            (.loopHold "delivery already has a different retained observation")
          return .retained
      | [] =>
          let result : NativeDeliveryReceiptV1 := headed "completion:"
            { head := "pending"
              tenantId := runtime.tenantId
              principalId := runtime.principalId
              deliveryId := deliveryId
              sendHead := send.head
              rawReceipt := raw
              outcome := outcome }
          return .publish deliveryId snapshot.head [record result]
  | _, _ => .error (.loopHold "delivery receipt lacks its original claimed transmission")

/-- The read that `reconcile_delivery` makes: which transmission to ask the provider about. -/
def reconcileDelivery (services : DeliveryServices β) (runtime : Runtime)
    (peer deliveryId : String) (user : UserState β) : Transaction String := do
  let snapshot ← runtime.snapshotForPeer services.context peer user
  let _ ← selectedDelivery services runtime snapshot deliveryId
  match ← rows NativeDeliverySendV1 runtime snapshot (some deliveryId) with
  | [send] => return send.ticket.transmissionId
  | _ => .error (.loopHold "delivery original transmission absent")

/-- A first delivery send finds a retained SEND or appends the first one. -/
theorem commitDeliverySend_ok {request : DeploymentGateRequest} {user after : UserState β}
    {send : NativeDeliverySendV1}
    (committed : commitDeliverySend services runtime peer deliveryId request user =
      .ok (after, send)) :
    after = user ∨
      streamIn NativeDeliverySendV1 user.snapshot.records deliveryId = [] ∧
        send.deliveryId = deliveryId ∧
        ∃ fingerprint, user.snapshot.append "delivery.first-send" deliveryId fingerprint
          [record send] user.snapshot.head = .ok after.snapshot := by
  simp only [commitDeliverySend, bind_ok] at committed
  obtain ⟨_, _, ⟨intent, accepted⟩, _, existing, read, committed⟩ := committed
  cases existing with
  | cons previous others =>
      simp only [bind_ok, pure_ok, Prod.mk.injEq] at committed
      obtain ⟨_, _, rfl, _⟩ := committed
      exact .inl rfl
  | nil =>
      simp only [bind_ok, pure_ok, Prod.mk.injEq] at committed
      obtain ⟨_, _, _, _, _, _, transport, _, target, _, _, added, _, _, rfl, rfl⟩ := committed
      exact .inr ⟨(rows_ok read).symm, rfl, _, added⟩

/-- A claim transaction finds a retained claim and changes nothing, or claims the only
SEND of the delivery. -/
theorem emitDelivery_ok {user after : UserState β} {result : EmitDelivery}
    (emitted : emitDelivery services runtime peer deliveryId user = .ok (after, result)) :
    (after = user ∧ ∃ claim, result = .existing claim ∧
        (streamIn NativeDeliveryClaimV1 user.snapshot.records deliveryId).head? = some claim) ∨
      ∃ send claim, result = .claimed send claim ∧
        streamIn NativeDeliveryClaimV1 user.snapshot.records deliveryId = [] ∧
        streamIn NativeDeliverySendV1 user.snapshot.records deliveryId = [send] ∧
        claim.deliveryId = deliveryId ∧ claim.sendHead = send.head ∧
        headed "completion:" claim = claim ∧ ∃ fingerprint, user.snapshot.append "delivery.emit-claim" deliveryId fingerprint
          [record claim] user.snapshot.head = .ok after.snapshot := by
  simp only [emitDelivery, bind_ok] at emitted
  obtain ⟨_, _, ⟨intent, accepted⟩, _, existing, read, emitted⟩ := emitted
  cases existing with
  | cons previous others =>
      simp only [pure_ok, Prod.mk.injEq] at emitted
      obtain ⟨rfl, rfl⟩ := emitted
      exact .inl ⟨rfl, previous, rfl, by rw [← rows_ok read]; rfl⟩
  | nil =>
      simp only [bind_ok] at emitted
      obtain ⟨sends, readSends, emitted⟩ := emitted
      split at emitted
      · rename_i send
        simp only [bind_ok, pure_ok, Prod.mk.injEq] at emitted
        obtain ⟨_, _, _, _, _, _, _, _, _, added, rfl, rfl⟩ := emitted
        exact .inr ⟨send, _, rfl, (rows_ok read).symm, (rows_ok readSends).symm, rfl, rfl,
          headed_idem _ _, _, added⟩
      · cases emitted

theorem emitDelivery_existing {user after : UserState β} {claim : NativeDeliveryClaimV1}
    (emitted : emitDelivery services runtime peer deliveryId user =
      .ok (after, .existing claim)) : after = user := by
  rcases emitDelivery_ok emitted with ⟨same, _⟩ | ⟨_, _, impossible, _⟩
  · exact same
  · cases impossible

/-- With a retained claim, a current worker whose delivery is still selected gets it back. -/
theorem emitDelivery_returns {user : UserState β}
    {selected : NativeDeliveryIntentV1 × NativeCompletionAcceptanceV1}
    {claim : NativeDeliveryClaimV1} {others : List NativeDeliveryClaimV1}
    (current : runtime.actor services.context peer user = .ok ())
    (delivery : selectedDelivery services runtime user.snapshot deliveryId = .ok selected)
    (read : rows NativeDeliveryClaimV1 runtime user.snapshot (some deliveryId) =
      .ok (claim :: others)) :
    emitDelivery services runtime peer deliveryId user = .ok (user, .existing claim) := by
  simp only [emitDelivery, current, delivery, read, ok_bind]
  rfl

theorem retainDeliveryReceipt_ok {raw : Bytes} {user : UserState β} {key : String}
    {expectedHead : Nat} {records : List (Record β)}
    (read : retainDeliveryReceipt services runtime peer deliveryId raw user =
      .ok (.publish key expectedHead records)) :
    ∀ item ∈ records, item.schemaId = Schema.schemaId NativeDeliveryReceiptV1 := by
  simp only [retainDeliveryReceipt, bind_ok] at read
  obtain ⟨_, _, _, _, claims, _, sends, _, read⟩ := read
  split at read
  · simp only [bind_ok] at read
    obtain ⟨_, _, _, _, _, _, _, _, receipts, _, read⟩ := read
    cases receipts with
    | cons previous others =>
        simp only [bind_ok, pure_ok, reduceCtorEq, and_false, exists_false] at read
    | nil =>
        simp only [pure_ok, ReceiptRetention.publish.injEq] at read
        obtain ⟨_, _, rfl⟩ := read
        simp [record_schemaId]
  · cases read

end Deliveries

end Chiplog.Composition

namespace Chiplog.Composition

open Chiplog.Data Chiplog.Platform Chiplog.Effects

/-! Contents of the native client's log.

Every kind of record keeps its own constructor, so a stored value is read back as the
value that was written; anything else in the log is raw bytes under its schema. -/

/-- What one record of the native client's log may hold. -/
inductive ClientValue where
  | nativeIntent (value : NativeEffectIntentV1)
  | planIntent (value : PlanEffectIntent)
  | compensationIntent (value : CompensationEffectIntent)
  | actionPreview (value : NonToolEffectPreview)
  | send (family : Family) (value : EffectSend family)
  | claim (family : Family) (value : EffectClaim family)
  | evidence (family : Family) (value : EffectEvidence family)
  | closure (family : Family) (value : EffectClosure family)
  | reduction (family : Family) (value : EffectReduction family)
  | acceptance (value : NativeCompletionAcceptanceV1)
  | deliveryIntent (value : NativeDeliveryIntentV1)
  | deliverySend (value : NativeDeliverySendV1)
  | deliveryClaim (value : NativeDeliveryClaimV1)
  | deliveryReceipt (value : NativeDeliveryReceiptV1)
  | raw (schema : String) (stored : Bytes)
deriving DecidableEq

namespace ClientValue

def schemaId : ClientValue → String
  | .nativeIntent _ => Schema.schemaId NativeEffectIntentV1
  | .planIntent _ => Schema.schemaId PlanEffectIntent
  | .compensationIntent _ => Schema.schemaId CompensationEffectIntent
  | .actionPreview _ => Schema.schemaId NonToolEffectPreview
  | .send family _ => Schema.schemaId (EffectSend family)
  | .claim family _ => Schema.schemaId (EffectClaim family)
  | .evidence family _ => Schema.schemaId (EffectEvidence family)
  | .closure family _ => Schema.schemaId (EffectClosure family)
  | .reduction family _ => Schema.schemaId (EffectReduction family)
  | .acceptance _ => Schema.schemaId NativeCompletionAcceptanceV1
  | .deliveryIntent _ => Schema.schemaId NativeDeliveryIntentV1
  | .deliverySend _ => Schema.schemaId NativeDeliverySendV1
  | .deliveryClaim _ => Schema.schemaId NativeDeliveryClaimV1
  | .deliveryReceipt _ => Schema.schemaId NativeDeliveryReceiptV1
  | .raw schema _ => schema

def bytes : ClientValue → Bytes
  | .nativeIntent value => Schema.wire value
  | .planIntent value => Schema.wire value
  | .compensationIntent value => Schema.wire value
  | .actionPreview value => Schema.wire value
  | .send _ value => Schema.wire value
  | .claim _ value => Schema.wire value
  | .evidence _ value => Schema.wire value
  | .closure _ value => Schema.wire value
  | .reduction _ value => Schema.wire value
  | .acceptance value => Schema.wire value
  | .deliveryIntent value => Schema.wire value
  | .deliverySend value => Schema.wire value
  | .deliveryClaim value => Schema.wire value
  | .deliveryReceipt value => Schema.wire value
  | .raw _ stored => stored

end ClientValue

instance : Content ClientValue where
  schemaId := ClientValue.schemaId
  bytes := ClientValue.bytes
  raw := .raw
  schemaId_raw _ _ := rfl
  bytes_raw _ _ := rfl

/-- A kind of value is stored through its own constructor. -/
@[reducible] def storedAs [Schema α] (write : α → ClientValue) (read : ClientValue → Option α)
    (schemaId : ∀ value, (write value).schemaId = Schema.schemaId α)
    (bytes : ∀ value, (write value).bytes = Schema.wire value)
    (readBack : ∀ value, read (write value) = some value) : Stores ClientValue α :=
  ⟨read, write, schemaId, bytes, readBack⟩

/-- The member of one family, if the record is of that family. -/
def ofFamily (ρ : Family → Type) (wanted family : Family) (value : ρ family) :
    Option (ρ wanted) :=
  if same : family = wanted then some (same ▸ value) else none

instance : EffectStores ClientValue where
  nativeIntent := storedAs .nativeIntent (fun | .nativeIntent value => some value | _ => none)
    (fun _ => rfl) (fun _ => rfl) (fun _ => rfl)
  planIntent := storedAs .planIntent (fun | .planIntent value => some value | _ => none)
    (fun _ => rfl) (fun _ => rfl) (fun _ => rfl)
  compensationIntent := storedAs .compensationIntent
    (fun | .compensationIntent value => some value | _ => none)
    (fun _ => rfl) (fun _ => rfl) (fun _ => rfl)
  actionPreview := storedAs .actionPreview (fun | .actionPreview value => some value | _ => none)
    (fun _ => rfl) (fun _ => rfl) (fun _ => rfl)
  send wanted := storedAs (.send wanted)
    (fun | .send family value => ofFamily EffectSend wanted family value | _ => none)
    (fun _ => rfl) (fun _ => rfl) (fun _ => dif_pos rfl)
  claim wanted := storedAs (.claim wanted)
    (fun | .claim family value => ofFamily EffectClaim wanted family value | _ => none)
    (fun _ => rfl) (fun _ => rfl) (fun _ => dif_pos rfl)
  evidence wanted := storedAs (.evidence wanted)
    (fun | .evidence family value => ofFamily EffectEvidence wanted family value | _ => none)
    (fun _ => rfl) (fun _ => rfl) (fun _ => dif_pos rfl)
  closure wanted := storedAs (.closure wanted)
    (fun | .closure family value => ofFamily EffectClosure wanted family value | _ => none)
    (fun _ => rfl) (fun _ => rfl) (fun _ => dif_pos rfl)
  reduction wanted := storedAs (.reduction wanted)
    (fun | .reduction family value => ofFamily EffectReduction wanted family value | _ => none)
    (fun _ => rfl) (fun _ => rfl) (fun _ => dif_pos rfl)

instance : DeliveryStores ClientValue where
  acceptance := storedAs .acceptance (fun | .acceptance value => some value | _ => none)
    (fun _ => rfl) (fun _ => rfl) (fun _ => rfl)
  intent := storedAs .deliveryIntent (fun | .deliveryIntent value => some value | _ => none)
    (fun _ => rfl) (fun _ => rfl) (fun _ => rfl)
  send := storedAs .deliverySend (fun | .deliverySend value => some value | _ => none)
    (fun _ => rfl) (fun _ => rfl) (fun _ => rfl)
  claim := storedAs .deliveryClaim (fun | .deliveryClaim value => some value | _ => none)
    (fun _ => rfl) (fun _ => rfl) (fun _ => rfl)
  receipt := storedAs .deliveryReceipt (fun | .deliveryReceipt value => some value | _ => none)
    (fun _ => rfl) (fun _ => rfl) (fun _ => rfl)

end Chiplog.Composition
