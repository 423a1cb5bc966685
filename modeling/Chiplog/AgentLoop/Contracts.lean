import Chiplog.Effects.Fences

namespace Chiplog.AgentLoop

open Chiplog.Data Chiplog.Effects

/-! Immutable records of the agent loop: Run, Turn, model attempt and their parts. -/

inductive Effort where
  | none
  | low
  | medium
  | high
  | xhigh
  | max
deriving DecidableEq

instance : Jsonable Effort := ⟨fun
  | .none => .str "none"
  | .low => .str "low"
  | .medium => .str "medium"
  | .high => .str "high"
  | .xhigh => .str "xhigh"
  | .max => .str "max"⟩

def liveRecipient : String := "openai-codex"

structure LiveModelBinding where
  model : Identity
  effort : Effort
  credentialIdentity : Identity
deriving DecidableEq

instance : Model LiveModelBinding := ⟨fun value =>
  [("provider", .str "codex-oauth.v1"), ("recipient", .str "openai-codex"),
    ("model", toJson value.model), ("effort", toJson value.effort),
    ("credential_identity", toJson value.credentialIdentity)]⟩

inductive BudgetKind where
  | maxTurns
  | noPolicy
deriving DecidableEq

instance : Jsonable BudgetKind := ⟨fun
  | .maxTurns => .str "MAX_TURNS"
  | .noPolicy => .str "NO_POLICY"⟩

structure BudgetPolicy where
  liveModel : Option LiveModelBinding
  kind : BudgetKind
  maxTurns : ℕ+
  maxRequestBytes : ℕ+
  maxResponseBytes : ℕ+
  maxToolCalls : ℕ+
  maxModelRetries : Option Nat
deriving DecidableEq

/-- An absent live model is left out of the dump. -/
instance : Model BudgetPolicy := ⟨fun value =>
  (value.liveModel.elim [] (fun live => [("live_model", toJson live)])) ++
  [("kind", toJson value.kind), ("max_turns", toJson value.maxTurns),
    ("max_request_bytes", toJson value.maxRequestBytes),
    ("max_response_bytes", toJson value.maxResponseBytes),
    ("max_tool_calls", toJson value.maxToolCalls),
    ("max_model_retries", toJson value.maxModelRetries)]⟩

inductive ToolName where
  | proposePlanning
  | proposeIntent
deriving DecidableEq

instance : Jsonable ToolName := ⟨fun
  | .proposePlanning => .str "propose_planning"
  | .proposeIntent => .str "propose_intent"⟩

structure ToolSpec where
  name : ToolName
  schemaId : Identity
deriving DecidableEq

instance : Model ToolSpec := ⟨fun value =>
  [("version", .str "1"), ("name", toJson value.name), ("schema_id", toJson value.schemaId)]⟩

structure ToolCall where
  callId : Identity
  tool : ToolName
  text : Identity
deriving DecidableEq

instance : Model ToolCall := ⟨fun value =>
  [("call_id", toJson value.callId), ("tool", toJson value.tool), ("text", toJson value.text)]⟩

structure Continue where
  toolCalls : NonemptyTuple ToolCall
deriving DecidableEq

instance : Model Continue := ⟨fun value =>
  [("kind", .str "Continue"), ("tool_calls", toJson value.toolCalls)]⟩

inductive EndpointKind where
  | originExact
  | modelSelectedExact
deriving DecidableEq

instance : Jsonable EndpointKind := ⟨fun
  | .originExact => .str "ORIGIN_EXACT"
  | .modelSelectedExact => .str "MODEL_SELECTED_EXACT"⟩

inductive EndpointProvider where
  | hermeticLocal
  | localCli
deriving DecidableEq

instance : Jsonable EndpointProvider := ⟨fun
  | .hermeticLocal => .str "hermetic-local"
  | .localCli => .str "local-cli"⟩

structure EndpointSelection where
  kind : EndpointKind
  ingressBindingHead : Identity
  endpointHead : Identity
  endpointId : Identity
  provider : EndpointProvider
  recipient : Identity
  canonicalAddress : Identity
  credentialBindingHead : Identity
deriving DecidableEq

instance : Model EndpointSelection := ⟨fun value =>
  [("kind", toJson value.kind), ("ingress_binding_head", toJson value.ingressBindingHead),
    ("endpoint_head", toJson value.endpointHead), ("endpoint_id", toJson value.endpointId),
    ("provider", toJson value.provider), ("recipient", toJson value.recipient),
    ("canonical_address", toJson value.canonicalAddress),
    ("credential_binding_head", toJson value.credentialBindingHead)]⟩

inductive DeliveryKind where
  | nonAuthoritativeText
  | deliveryAssertion
deriving DecidableEq

instance : Jsonable DeliveryKind := ⟨fun
  | .nonAuthoritativeText => .str "NonAuthoritativeText"
  | .deliveryAssertion => .str "DeliveryAssertion"⟩

inductive AssertionCode where
  | localPlanningCommitted
deriving DecidableEq

instance : Jsonable AssertionCode := ⟨fun
  | .localPlanningCommitted => .str "LOCAL_PLANNING_COMMITTED"⟩

structure Delivery where
  kind : DeliveryKind
  text : Option Identity
  endpoint : Option EndpointSelection
  assertionCode : Option AssertionCode
  evidenceId : Option String
deriving DecidableEq

instance : Model Delivery := ⟨fun value =>
  [("kind", toJson value.kind), ("text", toJson value.text), ("endpoint", toJson value.endpoint),
    ("assertion_code", toJson value.assertionCode), ("evidence_id", toJson value.evidenceId)]⟩

structure Complete where
  deliveries : NonemptyTuple Delivery
deriving DecidableEq

inductive LabelValue where
  | unrestricted
  | endpointRestricted
  | denyAll
deriving DecidableEq

instance : Jsonable LabelValue := ⟨fun
  | .unrestricted => .str "UNRESTRICTED"
  | .endpointRestricted => .str "ENDPOINT_RESTRICTED"
  | .denyAll => .str "DENY_ALL"⟩

structure DisclosureLabel where
  value : LabelValue
  allowedEndpoints : List String
deriving DecidableEq

instance : Model DisclosureLabel := ⟨fun value =>
  [("lattice_version", .str "chiplog.disclosure.v1"), ("value", toJson value.value),
    ("allowed_endpoints", toJson value.allowedEndpoints)]⟩

structure VisibilityMember where
  recordId : Identity
  revisionHead : Identity
  content : String
  provenanceHead : Identity
  labelHead : Identity
  label : DisclosureLabel
  producer : Identity
  surface : Identity
deriving DecidableEq

instance : Model VisibilityMember := ⟨fun value =>
  [("schema_version", .str "1"), ("record_id", toJson value.recordId),
    ("revision_head", toJson value.revisionHead), ("content", toJson value.content),
    ("provenance_head", toJson value.provenanceHead), ("label_head", toJson value.labelHead),
    ("label", toJson value.label), ("producer", toJson value.producer),
    ("surface", toJson value.surface)]⟩

inductive GeneratorVersion where
  | turnSchema
  | deliverySchema
deriving DecidableEq

instance : Jsonable GeneratorVersion := ⟨fun
  | .turnSchema => .str "chiplog.turn-schema.v1"
  | .deliverySchema => .str "chiplog.turn-schema.delivery.v1"⟩

structure PromptArtifact where
  contentHash : String
  libraryVersion : String
  generatorVersion : GeneratorVersion
  tools : List ToolSpec
  responseSchemaJson : String
  rendered : String
deriving DecidableEq

instance : Model PromptArtifact := ⟨fun value =>
  [("prompt_id", .str "chiplog.agent-loop"), ("version", .str "1"),
    ("content_hash", toJson value.contentHash), ("library_version", toJson value.libraryVersion),
    ("generator_version", toJson value.generatorVersion), ("tools", toJson value.tools),
    ("response_schema_json", toJson value.responseSchemaJson), ("rendered", toJson value.rendered)]⟩

structure VisibilityManifest where
  tenant : String
  principal : String
  contourHead : String
  runId : String
  turnId : String
  generation : Nat
  workerSession : Identity
  members : List VisibilityMember
  joinedLabel : DisclosureLabel
  artifact : PromptArtifact
deriving DecidableEq

instance : Model VisibilityManifest := ⟨fun value =>
  [("tenant", toJson value.tenant), ("principal", toJson value.principal),
    ("contour_head", toJson value.contourHead), ("run_id", toJson value.runId),
    ("turn_id", toJson value.turnId), ("call_slot", .int 0),
    ("generation", toJson value.generation), ("worker_session", toJson value.workerSession),
    ("members", toJson value.members), ("joined_label", toJson value.joinedLabel),
    ("artifact", toJson value.artifact)]⟩

inductive ModelAttemptState where
  | preparedNotEmitted
  | emittedOutcomeUnknown
  | responseCaptured
  | terminalRejected
  | terminalAccepted
deriving DecidableEq

instance : Jsonable ModelAttemptState := ⟨fun
  | .preparedNotEmitted => .str "PREPARED_NOT_EMITTED"
  | .emittedOutcomeUnknown => .str "EMITTED_OUTCOME_UNKNOWN"
  | .responseCaptured => .str "RESPONSE_CAPTURED"
  | .terminalRejected => .str "TERMINAL_REJECTED"
  | .terminalAccepted => .str "TERMINAL_ACCEPTED"⟩

inductive ProviderContract where
  | hermetic
  | codex
deriving DecidableEq

instance : Jsonable ProviderContract := ⟨fun
  | .hermetic => .str "hermetic-model.v1"
  | .codex => .str "codex-oauth.v1"⟩

inductive ModelRecipient where
  | hermetic
  | codex
deriving DecidableEq

instance : Jsonable ModelRecipient := ⟨fun
  | .hermetic => .str "hermetic-model"
  | .codex => .str "openai-codex"⟩

/-- The object whose text is sent to the model. -/
structure ModelRequest where
  prompt : String
  schema : String
  manifest : String
deriving DecidableEq

def ModelRequest.text (request : ModelRequest) : String :=
  (Json.obj [("prompt", .str request.prompt), ("schema", .str request.schema),
    ("manifest", .str request.manifest)]).dumpsAscii

instance : Jsonable ModelRequest := ⟨fun value => .str value.text⟩

/-- The request is kept as the object that `json.loads` reads back from its text. -/
structure ModelAttempt where
  attemptId : String
  lineageId : String
  generation : Nat
  state : ModelAttemptState
  head : String
  manifest : VisibilityManifest
  request : ModelRequest
  providerContract : ProviderContract
  recipient : ModelRecipient
  liveModel : Option LiveModelBinding
  workerSession : String
  response : Option Bytes
  receipt : Option String
  rejection : Option String
deriving DecidableEq

/-- The captured bytes travel as base64 text. -/
instance : Model ModelAttempt := ⟨fun value =>
  [("attempt_id", toJson value.attemptId), ("lineage_id", toJson value.lineageId),
    ("generation", toJson value.generation), ("state", toJson value.state),
    ("head", toJson value.head), ("manifest", toJson value.manifest),
    ("request", toJson value.request), ("provider_contract", toJson value.providerContract),
    ("recipient", toJson value.recipient)] ++
  (value.liveModel.elim [] (fun live => [("live_model", toJson live)])) ++
  [("worker_session", toJson value.workerSession),
    ("response_base64", toJson (value.response.map b64encode)),
    ("receipt", toJson value.receipt), ("rejection", toJson value.rejection)]⟩

/-- Its `provider_contract` is the literal of the hermetic model. -/
structure NoExposureProof where
  attemptId : String
  attemptHead : String
  runHead : String
  workerSession : String
deriving DecidableEq

inductive ToolOutcomeState where
  | initialized
  | terminal
  | recoveryRequired
deriving DecidableEq

instance : Jsonable ToolOutcomeState := ⟨fun
  | .initialized => .str "INITIALIZED"
  | .terminal => .str "TERMINAL"
  | .recoveryRequired => .str "RECOVERY_REQUIRED"⟩

structure ToolOutcome where
  call : ToolCall
  state : ToolOutcomeState
  result : Option String
  evidenceId : Option String
  proposalId : Option String
deriving DecidableEq

instance : Model ToolOutcome := ⟨fun value =>
  [("call", toJson value.call), ("state", toJson value.state), ("result", toJson value.result),
    ("evidence_id", toJson value.evidenceId), ("proposal_id", toJson value.proposalId)]⟩

structure LocalPlanningReceipt where
  evidenceId : String
  proposalId : String
  displayId : String
  commandId : String
  revisionId : String
  purpose : String
  canonicalResult : String
  resultDigest : String
deriving DecidableEq

instance : Model LocalPlanningReceipt := ⟨fun value =>
  [("evidence_id", toJson value.evidenceId), ("proposal_id", toJson value.proposalId),
    ("display_id", toJson value.displayId), ("command_id", toJson value.commandId),
    ("revision_id", toJson value.revisionId), ("purpose", toJson value.purpose),
    ("canonical_result", toJson value.canonicalResult),
    ("result_digest", toJson value.resultDigest)]⟩

inductive TurnState where
  | preparing
  | callActive
  | responseAvailable
  | accepted
  | rejected
deriving DecidableEq

instance : Jsonable TurnState := ⟨fun
  | .preparing => .str "PREPARING"
  | .callActive => .str "CALL_ACTIVE"
  | .responseAvailable => .str "RESPONSE_AVAILABLE"
  | .accepted => .str "ACCEPTED"
  | .rejected => .str "REJECTED"⟩

structure Turn where
  turnId : String
  ordinal : ℕ+
  head : String
  state : TurnState
  accumulator : List VisibilityMember
  attempts : List ModelAttempt
  selector : Nat
  sealedCalls : Option (List ToolOutcome)
deriving DecidableEq

instance : Model Turn := ⟨fun value =>
  [("turn_id", toJson value.turnId), ("ordinal", toJson value.ordinal),
    ("head", toJson value.head), ("state", toJson value.state),
    ("accumulator", toJson value.accumulator), ("attempts", toJson value.attempts),
    ("selector", toJson value.selector), ("sealed_calls", toJson value.sealedCalls)]⟩

structure AcceptedDelivery where
  deliveryId : String
  payload : Delivery
  rendered : String
  visibilityDigest : String
deriving DecidableEq

instance : Model AcceptedDelivery := ⟨fun value =>
  [("state", .str "PENDING_LOCAL"), ("delivery_id", toJson value.deliveryId),
    ("payload", toJson value.payload), ("rendered", toJson value.rendered),
    ("visibility_digest", toJson value.visibilityDigest)]⟩

/-- The canonical subject bytes stand for their base64 text. -/
structure SchedulerRootReference where
  rootId : Identity
  subject : ExecutionLineageSubject
  rootFingerprint : Digest
  initialRunId : Identity
deriving DecidableEq

instance : Model SchedulerRootReference := ⟨fun value =>
  [("kind", .str "SCHEDULER_LINEAGE"), ("root_id", toJson value.rootId),
    ("subject_canonical_base64", .str (b64encode (recoveryBytes value.subject))),
    ("subject_schema_version", .str "chiplog.execution-lineage-subject.v1"),
    ("root_fingerprint", toJson value.rootFingerprint),
    ("initial_run_id", toJson value.initialRunId)]⟩

/-- A field typed `"NOT_APPLICABLE" | SchedulerRootReference`. -/
inductive RootBinding where
  | notApplicable
  | scheduler (root : SchedulerRootReference)
deriving DecidableEq

instance : Jsonable RootBinding := ⟨fun
  | .notApplicable => .str "NOT_APPLICABLE"
  | .scheduler root => toJson root⟩

structure DeliveryAcceptanceReference where
  acceptanceIdentity : Identity
  acceptanceHead : Identity
  acceptanceFingerprint : Digest
  proposal : NonemptyBytes
deriving DecidableEq

instance : Model DeliveryAcceptanceReference := ⟨fun value =>
  [("kind", .str "R17_DELIVERY_ACCEPTANCE"),
    ("acceptance_identity", toJson value.acceptanceIdentity),
    ("acceptance_head", toJson value.acceptanceHead),
    ("acceptance_fingerprint", toJson value.acceptanceFingerprint),
    ("proposal_canonical_base64", .str (b64encode value.proposal.items)),
    ("schema_id", .str "chiplog.delivery-acceptance-proposal.v1")]⟩

/-- A field typed `"LEGACY_R13" | DeliveryAcceptanceReference`. -/
inductive DeliveryBinding where
  | legacyR13
  | accepted (reference : DeliveryAcceptanceReference)
deriving DecidableEq

/-- `RunState`. -/
inductive LoopRunState where
  | created
  | active
  | succeeded
  | suspended
  | superseded
  | aborted
  | cancelled
deriving DecidableEq

instance : Jsonable LoopRunState := ⟨fun
  | .created => .str "CREATED"
  | .active => .str "ACTIVE"
  | .succeeded => .str "SUCCEEDED"
  | .suspended => .str "SUSPENDED"
  | .superseded => .str "SUPERSEDED"
  | .aborted => .str "ABORTED"
  | .cancelled => .str "CANCELLED"⟩

structure RunRecord where
  tenant : String
  principal : String
  runId : String
  state : LoopRunState
  head : String
  predecessor : Option String
  prompt : String
  policy : BudgetPolicy
  origin : EndpointSelection
  contourHead : String
  policyHead : String
  workerSession : String
  rootBinding : RootBinding
  acceptedDeliveryBinding : DeliveryBinding
  turns : List Turn
  deliveries : List AcceptedDelivery
  acceptedText : List String
  planningReceipts : List LocalPlanningReceipt
  event : String
deriving DecidableEq

/-- The legacy delivery binding is left out of the dump. -/
instance : Model RunRecord := ⟨fun value =>
  [("tenant", toJson value.tenant), ("principal", toJson value.principal),
    ("run_id", toJson value.runId), ("state", toJson value.state), ("head", toJson value.head),
    ("predecessor", toJson value.predecessor), ("prompt", toJson value.prompt),
    ("policy", toJson value.policy), ("origin", toJson value.origin),
    ("contour_head", toJson value.contourHead), ("policy_head", toJson value.policyHead),
    ("worker_session", toJson value.workerSession),
    ("root_binding", toJson value.rootBinding)] ++
  (match value.acceptedDeliveryBinding with
    | .legacyR13 => []
    | .accepted reference => [("accepted_delivery_binding", toJson reference)]) ++
  [("turns", toJson value.turns), ("deliveries", toJson value.deliveries),
    ("accepted_text", toJson value.acceptedText),
    ("planning_receipts", toJson value.planningReceipts), ("event", toJson value.event)]⟩

end Chiplog.AgentLoop
