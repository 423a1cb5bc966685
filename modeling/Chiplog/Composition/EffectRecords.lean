import Chiplog.Composition.Runtime
import Chiplog.Effects.Domain

namespace Chiplog.Composition

open Chiplog.Data Chiplog.Platform Chiplog.Effects

/-! Send custody and recovery records of the native client.

Tool calls and non-tool actions keep separate schemas with the same fields, so those
records are indexed by their `Family`. -/

structure IssuedEffectSendTicket where
  tenantId : String
  issuedOperationId : String
  journalDecisionId : String
  journalDecisionFingerprint : String
  transmissionId : String
  transmissionFingerprint : String
  requestOrdinal : Nat
  intentId : String
  intentFingerprint : String
  provider : String
  account : String
  recipient : String
  canonicalAddress : Bytes
  endpointHead : String
  credentialBindingHead : String
  adapterContractVersion : String
  payload : Bytes
  payloadFingerprint : String
  idempotencyKey : String
  bundleMembers : List String
deriving DecidableEq

/-- `ticket_bytes`: payload and address travel as hexadecimal text. -/
def IssuedEffectSendTicket.encoded (ticket : IssuedEffectSendTicket) : Bytes :=
  Json.encodeAscii (.obj
    [("tenant_id", toJson ticket.tenantId),
      ("issued_operation_id", toJson ticket.issuedOperationId),
      ("journal_decision_id", toJson ticket.journalDecisionId),
      ("journal_decision_fingerprint", toJson ticket.journalDecisionFingerprint),
      ("transmission_id", toJson ticket.transmissionId),
      ("transmission_fingerprint", toJson ticket.transmissionFingerprint),
      ("request_ordinal", toJson ticket.requestOrdinal), ("intent_id", toJson ticket.intentId),
      ("intent_fingerprint", toJson ticket.intentFingerprint),
      ("provider", toJson ticket.provider), ("account", toJson ticket.account),
      ("recipient", toJson ticket.recipient),
      ("canonical_address", .str (hex ticket.canonicalAddress)),
      ("endpoint_head", toJson ticket.endpointHead),
      ("credential_binding_head", toJson ticket.credentialBindingHead),
      ("adapter_contract_version", toJson ticket.adapterContractVersion),
      ("payload", .str (hex ticket.payload)),
      ("payload_fingerprint", toJson ticket.payloadFingerprint),
      ("idempotency_key", toJson ticket.idempotencyKey),
      ("bundle_members", toJson ticket.bundleMembers)])

structure NativeEffectPreviewV1 where
  head : String
  tenantId : String
  principalId : String
  originalCallId : String
  initializedHead : String
  payload : Bytes
  bundleMembers : List String
  target : ProviderRecipient
  expiresAtNs : Int
  receiptKeyFingerprint : String
deriving DecidableEq

instance : Model NativeEffectPreviewV1 := ⟨fun value =>
  [("schema_id", .str "chiplog.effects.native-preview.v1"), ("head", toJson value.head),
    ("tenant_id", toJson value.tenantId), ("principal_id", toJson value.principalId),
    ("original_call_id", toJson value.originalCallId),
    ("initialized_head", toJson value.initializedHead), ("payload", toJson value.payload),
    ("bundle_members", toJson value.bundleMembers), ("target", toJson value.target),
    ("expires_at_ns", toJson value.expiresAtNs),
    ("receipt_key_fingerprint", toJson value.receiptKeyFingerprint)]⟩

structure NativeEffectIntentV1 where
  head : String
  tenantId : String
  principalId : String
  originalCallId : String
  intentId : Identity
  runId : String
  acceptedHead : String
  authorityActId : String
  preview : NativeEffectPreviewV1
deriving DecidableEq

instance : Model NativeEffectIntentV1 := ⟨fun value =>
  [("schema_id", .str "chiplog.effects.native-intent.v1"), ("head", toJson value.head),
    ("tenant_id", toJson value.tenantId), ("principal_id", toJson value.principalId),
    ("original_call_id", toJson value.originalCallId), ("intent_id", toJson value.intentId),
    ("run_id", toJson value.runId), ("accepted_head", toJson value.acceptedHead),
    ("authority_act_id", toJson value.authorityActId), ("preview", toJson value.preview)]⟩

/-- What distinguishes a Plan action from its common part. -/
structure PlanAction where
  planningCommandSchema : Identity
  planningCommandBytes : NonemptyBytes
  expectedPlanningRevision : Option ExactHead
deriving DecidableEq

instance : Model PlanAction := ⟨fun value =>
  [("kind", .str "PLAN"), ("planning_command_schema", toJson value.planningCommandSchema),
    ("planning_command_bytes", toJson value.planningCommandBytes),
    ("expected_planning_revision", toJson value.expectedPlanningRevision)]⟩

structure CompensationAction where
  originalIntent : ExactHead
  originalStreamId : Identity
  originalEvidenceHead : ExactHead
deriving DecidableEq

instance : Model CompensationAction := ⟨fun value =>
  [("kind", .str "COMPENSATION"), ("original_intent", toJson value.originalIntent),
    ("original_stream_id", toJson value.originalStreamId),
    ("original_evidence_head", toJson value.originalEvidenceHead)]⟩

structure ActionProposal (π : Type) where
  tenantId : Identity
  principalId : Identity
  intentId : Identity
  payload : Bytes
  bundleMembers : NonemptyTuple Identity
  target : ProviderRecipient
  expiresAtNs : ℕ+
  purpose : π
deriving DecidableEq

instance [Model π] : Model (ActionProposal π) := ⟨fun value =>
  [("tenant_id", toJson value.tenantId), ("principal_id", toJson value.principalId),
    ("intent_id", toJson value.intentId), ("payload", toJson value.payload),
    ("bundle_members", toJson value.bundleMembers), ("target", toJson value.target),
    ("expires_at_ns", toJson value.expiresAtNs)] ++ modelDump value.purpose⟩

inductive ActionProposalValue where
  | plan (proposal : ActionProposal PlanAction)
  | compensation (proposal : ActionProposal CompensationAction)
deriving DecidableEq

instance : Jsonable ActionProposalValue := ⟨fun
  | .plan proposal => toJson proposal
  | .compensation proposal => toJson proposal⟩

namespace ActionProposalValue

def scope : ActionProposalValue → String × String
  | .plan proposal => (proposal.tenantId.text, proposal.principalId.text)
  | .compensation proposal => (proposal.tenantId.text, proposal.principalId.text)

def intentId : ActionProposalValue → Identity
  | .plan proposal => proposal.intentId
  | .compensation proposal => proposal.intentId

end ActionProposalValue

structure NonToolEffectPreview where
  head : String
  proposal : ActionProposalValue
  receiptKeyFingerprint : Identity
deriving DecidableEq

instance : Model NonToolEffectPreview := ⟨fun value =>
  [("schema_id", .str "chiplog.effects.action-preview.v1"), ("head", toJson value.head),
    ("proposal", toJson value.proposal),
    ("receipt_key_fingerprint", toJson value.receiptKeyFingerprint)]⟩

/-- An adopted proposal: its fields plus the preview and the act that adopted it. -/
structure EffectActionRequest (π : Type) where
  proposal : ActionProposal π
  adoptedPreview : ExactHead
  authorityActId : Identity
deriving DecidableEq

instance [Model π] : Model (EffectActionRequest π) := ⟨fun value =>
  modelDump value.proposal ++ [("adopted_preview", toJson value.adoptedPreview),
    ("authority_act_id", toJson value.authorityActId)]⟩

structure PlanEffectIntent where
  head : String
  request : EffectActionRequest PlanAction
  planningRevision : ExactHead
deriving DecidableEq

instance : Model PlanEffectIntent := ⟨fun value =>
  [("schema_id", .str "chiplog.effects.plan-intent.v1"), ("head", toJson value.head),
    ("request", toJson value.request), ("planning_revision", toJson value.planningRevision)]⟩

structure CompensationEffectIntent where
  head : String
  request : EffectActionRequest CompensationAction
deriving DecidableEq

instance : Model CompensationEffectIntent := ⟨fun value =>
  [("schema_id", .str "chiplog.effects.compensation-intent.v1"), ("head", toJson value.head),
    ("request", toJson value.request)]⟩

inductive Family where
  | tool
  | action
deriving DecidableEq

namespace Family

def schemaId (family : Family) (kind : String) : String :=
  match family with
  | .tool => "chiplog.effects.native-" ++ kind ++ ".v1"
  | .action => "chiplog.effects.action-" ++ kind ++ ".v1"

def streamField : Family → String
  | .tool => "original_call_id"
  | .action => "effect_stream_id"

/-- The fields every custody record starts with. -/
def common (family : Family) (schema head tenantId principalId streamId : String) :
    List (String × Json) :=
  [("schema_id", .str schema), ("head", .str head), ("tenant_id", .str tenantId),
    ("principal_id", .str principalId), (family.streamField, .str streamId)]

end Family

structure EffectSend (family : Family) where
  head : String
  tenantId : String
  principalId : String
  streamId : String
  intentHead : String
  transmission : TransmissionAttempt
  ticket : IssuedEffectSendTicket
  gateRequestBytes : Bytes
deriving DecidableEq

instance : Model (EffectSend family) := ⟨fun value =>
  family.common (family.schemaId "send") value.head value.tenantId value.principalId
    value.streamId ++
  [("intent_head", toJson value.intentHead), ("transmission", toJson value.transmission),
    ("ticket_bytes", toJson value.ticket.encoded),
    ("gate_request_bytes", toJson value.gateRequestBytes)]⟩

structure EffectClaim (family : Family) where
  head : String
  tenantId : String
  principalId : String
  streamId : String
  sendHead : String
  worker : String
deriving DecidableEq

instance : Model (EffectClaim family) := ⟨fun value =>
  family.common (family.schemaId "claim") value.head value.tenantId value.principalId
    value.streamId ++
  [("send_head", toJson value.sendHead), ("worker", toJson value.worker)]⟩

structure EffectEvidence (family : Family) where
  head : String
  tenantId : String
  principalId : String
  streamId : String
  sendHead : String
  predecessorEvidence : Option String
  rawReceipt : Bytes
deriving DecidableEq

instance : Model (EffectEvidence family) := ⟨fun value =>
  family.common (family.schemaId "evidence") value.head value.tenantId value.principalId
    value.streamId ++
  [("send_head", toJson value.sendHead),
    ("predecessor_evidence", toJson value.predecessorEvidence),
    ("raw_receipt", toJson value.rawReceipt)]⟩

def Family.closureSchema : Family → String
  | .tool => "chiplog.effects.native-original-closure.v1"
  | .action => "chiplog.effects.action-closure.v1"

def Family.reductionSchema : Family → String
  | .tool => "chiplog.effects.native-semantic-reduction.v1"
  | .action => "chiplog.effects.action-reduction.v1"

structure EffectClosure (family : Family) where
  head : String
  tenantId : String
  principalId : String
  streamId : String
  obligationId : String
  sendHead : String
  invocationHead : String
  completeEvidenceHeads : List String
  outcome : ClosureOutcome
deriving DecidableEq

instance : Model (EffectClosure family) := ⟨fun value =>
  family.common family.closureSchema value.head value.tenantId value.principalId
    value.streamId ++
  [("obligation_id", toJson value.obligationId), ("send_head", toJson value.sendHead),
    ("invocation_head", toJson value.invocationHead),
    ("complete_evidence_heads", toJson value.completeEvidenceHeads),
    ("outcome", .str value.outcome.wire)]⟩

structure EffectReduction (family : Family) where
  head : String
  tenantId : String
  principalId : String
  streamId : String
  sendHead : String
  closureHead : Option String
  completeEvidenceHeads : List String
  outcome : AttemptState
deriving DecidableEq

instance : Model (EffectReduction family) := ⟨fun value =>
  family.common family.reductionSchema value.head value.tenantId value.principalId
    value.streamId ++
  [("send_head", toJson value.sendHead), ("closure_head", toJson value.closureHead),
    ("complete_evidence_heads", toJson value.completeEvidenceHeads),
    ("outcome", .str value.outcome.wire)]⟩

/-- A stored record that carries the digest of its own bytes in its head. -/
class CustodyRow (α : Type) extends Model α, Schema α where
  wire := fun value => (canonicalBytes value).items
  operation : String := "effects.read"
  lead : String := "effect:"
  owner : String := "effects"
  head : α → String
  withHead : String → α → α
  scope : α → String × String
  stream : α → String
  head_withHead : ∀ text value, head (withHead text value) = text
  withHead_withHead : ∀ text other value, withHead text (withHead other value) = withHead text value

instance : CustodyRow NativeEffectIntentV1 where
  schemaId := "chiplog.effects.native-intent.v1"
  head := (·.head)
  withHead text value := { value with head := text }
  scope value := (value.tenantId, value.principalId)
  stream := (·.originalCallId)
  head_withHead _ _ := rfl
  withHead_withHead _ _ _ := rfl

instance : CustodyRow PlanEffectIntent where
  schemaId := "chiplog.effects.plan-intent.v1"
  head := (·.head)
  withHead text value := { value with head := text }
  scope value := (value.request.proposal.tenantId.text, value.request.proposal.principalId.text)
  stream value := value.request.proposal.intentId.text
  head_withHead _ _ := rfl
  withHead_withHead _ _ _ := rfl

instance : CustodyRow CompensationEffectIntent where
  schemaId := "chiplog.effects.compensation-intent.v1"
  head := (·.head)
  withHead text value := { value with head := text }
  scope value := (value.request.proposal.tenantId.text, value.request.proposal.principalId.text)
  stream value := value.request.proposal.intentId.text
  head_withHead _ _ := rfl
  withHead_withHead _ _ _ := rfl

instance : CustodyRow NonToolEffectPreview where
  schemaId := "chiplog.effects.action-preview.v1"
  head := (·.head)
  withHead text value := { value with head := text }
  scope value := value.proposal.scope
  stream value := value.proposal.intentId.text
  head_withHead _ _ := rfl
  withHead_withHead _ _ _ := rfl

instance : CustodyRow (EffectSend family) where
  schemaId := family.schemaId "send"
  head := (·.head)
  withHead text value := { value with head := text }
  scope value := (value.tenantId, value.principalId)
  stream := (·.streamId)
  head_withHead _ _ := rfl
  withHead_withHead _ _ _ := rfl

instance : CustodyRow (EffectClaim family) where
  schemaId := family.schemaId "claim"
  head := (·.head)
  withHead text value := { value with head := text }
  scope value := (value.tenantId, value.principalId)
  stream := (·.streamId)
  head_withHead _ _ := rfl
  withHead_withHead _ _ _ := rfl

instance : CustodyRow (EffectEvidence family) where
  schemaId := family.schemaId "evidence"
  head := (·.head)
  withHead text value := { value with head := text }
  scope value := (value.tenantId, value.principalId)
  stream := (·.streamId)
  head_withHead _ _ := rfl
  withHead_withHead _ _ _ := rfl

instance : CustodyRow (EffectClosure family) where
  schemaId := family.closureSchema
  head := (·.head)
  withHead text value := { value with head := text }
  scope value := (value.tenantId, value.principalId)
  stream := (·.streamId)
  head_withHead _ _ := rfl
  withHead_withHead _ _ _ := rfl

instance : CustodyRow (EffectReduction family) where
  schemaId := family.reductionSchema
  head := (·.head)
  withHead text value := { value with head := text }
  scope value := (value.tenantId, value.principalId)
  stream := (·.streamId)
  head_withHead _ _ := rfl
  withHead_withHead _ _ _ := rfl

/-- A log that keeps every record of this module. -/
class EffectStores (β : Type) [Content β] where
  nativeIntent : Stores β NativeEffectIntentV1
  planIntent : Stores β PlanEffectIntent
  compensationIntent : Stores β CompensationEffectIntent
  actionPreview : Stores β NonToolEffectPreview
  send : ∀ family, Stores β (EffectSend family)
  claim : ∀ family, Stores β (EffectClaim family)
  evidence : ∀ family, Stores β (EffectEvidence family)
  closure : ∀ family, Stores β (EffectClosure family)
  reduction : ∀ family, Stores β (EffectReduction family)

section Instances

variable {β : Type} [Content β] [stores : EffectStores β]

instance : Stores β NativeEffectIntentV1 := stores.nativeIntent
instance : Stores β PlanEffectIntent := stores.planIntent
instance : Stores β CompensationEffectIntent := stores.compensationIntent
instance : Stores β NonToolEffectPreview := stores.actionPreview
instance : Stores β (EffectSend family) := stores.send family
instance : Stores β (EffectClaim family) := stores.claim family
instance : Stores β (EffectEvidence family) := stores.evidence family
instance : Stores β (EffectClosure family) := stores.closure family
instance : Stores β (EffectReduction family) := stores.reduction family

end Instances

def only (values : List α) : Transaction α :=
  match values with
  | [value] => .ok value
  | _ => .error (.loopHold "effect requires exactly one selected record")

theorem only_ok {values : List α} {value : α} (selected : only values = .ok value) :
    values = [value] := by
  unfold only at selected
  split at selected
  · cases selected
    rfl
  · cases selected

section Heads

variable {β : Type} [Content β]

def record [CustodyRow α] [Stores β α] (value : α) : Record β :=
  ⟨CustodyRow.head value, CustodyRow.owner α, Stores.write value⟩

theorem record_schemaId [CustodyRow α] [Stores β α] (value : α) :
    (record value : Record β).schemaId = Schema.schemaId α :=
  Stores.schemaId_write value

variable [Hashlib]

def digest (raw : Bytes) : Digest := sha256 raw

/-- `exact`: the head of a subject under the digest of its bytes. -/
def exactHead (subject : Identity) (raw : Bytes) : ExactHead :=
  { subjectId := subject
    head := subject.before (":" ++ (digest raw).text)
    fingerprint := (digest raw).identity }

/-- The head commits to the record with the text `pending` in its place. -/
def headed [CustodyRow α] (lead : String) (value : α) : α :=
  let pending := CustodyRow.withHead "pending" value
  CustodyRow.withHead (lead ++ (digest (Schema.wire pending)).text) pending

def effectHead [CustodyRow α] (value : α) : α := headed "effect:" value

theorem headed_idem [CustodyRow α] (lead : String) (value : α) :
    headed lead (headed lead value) = headed lead value := by
  simp only [headed, CustodyRow.withHead_withHead]

/-- What the reader requires of a stored record and the value it holds. -/
def Recorded [CustodyRow α] (runtime : Runtime) (item : Record β) (value : α) : Prop :=
  item.owner = CustodyRow.owner α ∧ item.recordId = CustodyRow.head value ∧
    CustodyRow.head (headed (CustodyRow.lead α) value) = CustodyRow.head value ∧
    Schema.wire value = Content.bytes item.content ∧
    CustodyRow.scope value = (runtime.tenantId, runtime.principalId)

instance [CustodyRow α] (runtime : Runtime) (item : Record β) (value : α) :
    Decidable (Recorded runtime item value) :=
  inferInstanceAs (Decidable (_ ∧ _ ∧ _ ∧ _ ∧ _))

/-- A record written with its own head is read back by every runtime of its scope. -/
theorem recorded_record [CustodyRow α] [Stores β α] {runtime : Runtime} {value : α}
    (selfHeaded : headed (CustodyRow.lead α) value = value)
    (inScope : CustodyRow.scope value = (runtime.tenantId, runtime.principalId)) :
    Recorded runtime (record value : Record β) value :=
  ⟨rfl, rfl, congrArg CustodyRow.head selfHeaded, (Stores.bytes_write _).symm, inScope⟩

/-- The records of one schema, all checked on the way, then those of one stream. -/
def rows (α : Type) [CustodyRow α] [Stores β α] (runtime : Runtime) (snapshot : Snapshot β)
    (streamId : Option String) : Transaction (List α) := do
  let values ← readRows α (CustodyRow.operation α) runtime.tenantId (Recorded runtime) snapshot
  return values.filter (fun value => ∀ wanted ∈ streamId, CustodyRow.stream value = wanted)

/-- The stored records of one stream, without any check. -/
def streamIn (α : Type) [CustodyRow α] [Stores β α] (records : List (Record β))
    (streamId : String) : List α :=
  (storedIn α records).filter (fun value => CustodyRow.stream value = streamId)

theorem rows_ok [CustodyRow α] [Stores β α] {runtime : Runtime} {snapshot : Snapshot β}
    {streamId : String} {values : List α}
    (returned : rows α runtime snapshot (some streamId) = .ok values) :
    values = streamIn α snapshot.records streamId := by
  simp only [rows, bind_ok, pure_ok] at returned
  obtain ⟨stored, read, rfl⟩ := returned
  rw [readRows_ok read]
  simp [streamIn]

theorem rows_returns [CustodyRow α] [Stores β α] {runtime : Runtime} {snapshot : Snapshot β}
    {streamId : String}
    (readable : ∀ item ∈ snapshot.records, item.schemaId = Schema.schemaId α →
      ∃ value : α, Stores.read item.content = some value ∧ Recorded runtime item value) :
    rows α runtime snapshot (some streamId) = .ok (streamIn α snapshot.records streamId) := by
  simp only [rows, readRows_returns readable, ok_bind, streamIn, Option.mem_def,
    Option.some.injEq, forall_eq']
  rfl

end Heads

end Chiplog.Composition
