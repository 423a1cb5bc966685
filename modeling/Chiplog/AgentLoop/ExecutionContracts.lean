import Chiplog.AgentLoop.Contracts
import Chiplog.AgentLoop.SchedulerContracts

namespace Chiplog.AgentLoop

open Chiplog.Data Chiplog.Effects

/-! Executable Run records of the native client.

The two wire versions share their fields and differ in the tools an artifact may
register, so every record is indexed by its `RunVersion`. -/

inductive RunVersion where
  | v2
  | v3
deriving DecidableEq

def RunVersion.schemaId : RunVersion → String
  | .v2 => "chiplog.agent-loop.execution-record.v2"
  | .v3 => "chiplog.agent-loop.execution-record.v3"

/-- `CallSubjectHead`. -/
structure CallSubjectHead where
  subjectId : Identity
  revision : PresentHead
deriving DecidableEq

instance : Model CallSubjectHead := ⟨fun value =>
  [("subject_id", toJson value.subjectId), ("revision", toJson value.revision)]⟩

/-- The history tool exists only from the third version on. -/
inductive ExecutionToolSpec : RunVersion → Type where
  | tool (spec : ToolSpec) : ExecutionToolSpec version
  | requestSelfEffect : ExecutionToolSpec version
  | readConversationHistory : ExecutionToolSpec .v3
deriving DecidableEq

instance : Jsonable (ExecutionToolSpec version) := ⟨fun
  | .tool spec => toJson spec
  | .requestSelfEffect => .obj [("name", .str "request_self_effect"), ("version", .str "2"),
      ("schema_id", .str "chiplog.request-self-effect.v2")]
  | .readConversationHistory => .obj [("name", .str "read_conversation_history"),
      ("version", .str "1"), ("schema_id", .str "chiplog.read-conversation-history.v1")]⟩

structure ExecutionPromptArtifact (version : RunVersion) where
  contentHash : Digest
  libraryVersion : Identity
  tools : NonemptyTuple (ExecutionToolSpec version)
  responseSchemaJson : Identity
  rendered : Identity
deriving DecidableEq

/-- `version` of the artifact. -/
def RunVersion.number : RunVersion → String
  | .v2 => "2"
  | .v3 => "3"

/-- `generator_version` of the artifact. -/
def RunVersion.generator : RunVersion → String
  | .v2 => "chiplog.turn-schema.execution.v2"
  | .v3 => "chiplog.turn-schema.execution.v3"

instance : Model (ExecutionPromptArtifact version) := ⟨fun value =>
  [("prompt_id", .str "chiplog.agent-loop"), ("version", .str version.number),
    ("content_hash", toJson value.contentHash), ("library_version", toJson value.libraryVersion),
    ("generator_version", .str version.generator), ("tools", toJson value.tools),
    ("response_schema_json", toJson value.responseSchemaJson), ("rendered", toJson value.rendered)]⟩

structure ExecutionVisibilityManifest (version : RunVersion) where
  tenant : Identity
  principal : Identity
  contourHead : Identity
  runId : Identity
  turnId : Identity
  generation : Nat
  workerSession : Identity
  members : List VisibilityMember
  joinedLabel : DisclosureLabel
  artifact : ExecutionPromptArtifact version
deriving DecidableEq

instance : Model (ExecutionVisibilityManifest version) := ⟨fun value =>
  [("tenant", toJson value.tenant), ("principal", toJson value.principal),
    ("contour_head", toJson value.contourHead), ("run_id", toJson value.runId),
    ("turn_id", toJson value.turnId), ("call_slot", .int 0),
    ("generation", toJson value.generation), ("worker_session", toJson value.workerSession),
    ("members", toJson value.members), ("joined_label", toJson value.joinedLabel),
    ("artifact", toJson value.artifact)]⟩

/-- The request is kept as the object that `json.loads` reads back from its text and the
captured bytes stand for their base64 text. -/
structure ExecutionModelAttempt (version : RunVersion) where
  attemptId : Identity
  lineageId : Identity
  generation : Nat
  state : ModelAttemptState
  head : Identity
  manifest : ExecutionVisibilityManifest version
  request : ModelRequest
  providerContract : ProviderContract
  recipient : ModelRecipient
  liveModel : Option LiveModelBinding
  workerSession : Identity
  response : Option Bytes
  receipt : Option String
  rejection : Option String
deriving DecidableEq

instance : Model (ExecutionModelAttempt version) := ⟨fun value =>
  [("attempt_id", toJson value.attemptId), ("lineage_id", toJson value.lineageId),
    ("generation", toJson value.generation), ("state", toJson value.state),
    ("head", toJson value.head), ("manifest", toJson value.manifest),
    ("request", toJson value.request), ("provider_contract", toJson value.providerContract),
    ("recipient", toJson value.recipient), ("live_model", toJson value.liveModel),
    ("worker_session", toJson value.workerSession),
    ("response_base64", toJson (value.response.map b64encode)),
    ("receipt", toJson value.receipt), ("rejection", toJson value.rejection)]⟩

/-- Seal and calls are absent before the sealed publication; an empty tuple of calls is a
sealed response without calls. -/
structure ExecutionTurn (version : RunVersion) where
  turnId : Identity
  ordinal : ℕ+
  head : Identity
  state : TurnState
  accumulator : List VisibilityMember
  attempts : List (ExecutionModelAttempt version)
  selector : Nat
  responseSeal : Option CallSubjectHead
  initializedCalls : Option (List CallSubjectHead)
deriving DecidableEq

instance : Model (ExecutionTurn version) := ⟨fun value =>
  [("turn_id", toJson value.turnId), ("ordinal", toJson value.ordinal),
    ("head", toJson value.head), ("state", toJson value.state),
    ("accumulator", toJson value.accumulator), ("attempts", toJson value.attempts),
    ("selector", toJson value.selector), ("response_seal", toJson value.responseSeal),
    ("initialized_calls", toJson value.initializedCalls)]⟩

/-- `ExactHead` of the delivery contracts. -/
structure DeliveryHead where
  identity : Identity
  head : Identity
  fingerprint : Digest
deriving DecidableEq

instance : Model DeliveryHead := ⟨fun value =>
  [("identity", toJson value.identity), ("head", toJson value.head),
    ("fingerprint", toJson value.fingerprint)]⟩

/-- `ProviderRecipient` of the delivery contracts. -/
structure DeliveryRecipient where
  providerId : Identity
  accountId : Identity
  recipientId : Identity
  endpoint : DeliveryHead
  canonicalAddress : Bytes
  credentialBinding : DeliveryHead
deriving DecidableEq

instance : Model DeliveryRecipient := ⟨fun value =>
  [("provider_id", toJson value.providerId), ("account_id", toJson value.accountId),
    ("recipient_id", toJson value.recipientId), ("endpoint", toJson value.endpoint),
    ("canonical_address", toJson value.canonicalAddress),
    ("credential_binding", toJson value.credentialBinding)]⟩

structure OriginSelection where
  ingressBinding : DeliveryHead
  recipient : DeliveryRecipient
deriving DecidableEq

instance : Model OriginSelection := ⟨fun value =>
  [("kind", .str "ORIGIN_EXACT"), ("ingress_binding", toJson value.ingressBinding),
    ("recipient", toJson value.recipient)]⟩

/-- Schema-selected Run data; construction publishes nothing. -/
structure ExecutionRunRecord (version : RunVersion) where
  tenant : Identity
  principal : Identity
  runId : Identity
  state : LoopRunState
  head : Identity
  predecessor : Option Identity
  prompt : Identity
  policy : BudgetPolicy
  origin : OriginSelection
  contourHead : Identity
  policyHead : Identity
  workerSession : Identity
  rootBinding : RootBinding
  turns : List (ExecutionTurn version)
  deliveryAcceptance : Option DeliveryAcceptanceReference
  suspensionBaseline : Option CallSubjectHead
  originalObligations : List OriginalObligationBinding
  noRetryReferences : List CallSubjectHead
  event : Identity
deriving DecidableEq

instance : Model (ExecutionRunRecord version) := ⟨fun value =>
  [("schema_id", .str version.schemaId), ("tenant", toJson value.tenant),
    ("principal", toJson value.principal), ("run_id", toJson value.runId),
    ("state", toJson value.state), ("head", toJson value.head),
    ("predecessor", toJson value.predecessor), ("prompt", toJson value.prompt),
    ("policy", toJson value.policy), ("origin", toJson value.origin),
    ("contour_head", toJson value.contourHead), ("policy_head", toJson value.policyHead),
    ("worker_session", toJson value.workerSession), ("root_binding", toJson value.rootBinding),
    ("turns", toJson value.turns), ("delivery_acceptance", toJson value.deliveryAcceptance),
    ("suspension_baseline", toJson value.suspensionBaseline),
    ("original_obligations", toJson value.originalObligations),
    ("no_retry_references", toJson value.noRetryReferences), ("event", toJson value.event)]⟩

inductive ConversationRole where
  | principal
  | assistant
deriving DecidableEq

instance : Jsonable ConversationRole := ⟨fun
  | .principal => .str "principal"
  | .assistant => .str "assistant"⟩

structure ConversationEntryV1 where
  entryId : Identity
  tenant : Identity
  principal : Identity
  ordinal : ℕ+
  role : ConversationRole
  text : String
deriving DecidableEq

instance : Model ConversationEntryV1 := ⟨fun value =>
  [("schema_id", .str "chiplog.conversation.entry.pg.v1"), ("entry_id", toJson value.entryId),
    ("tenant", toJson value.tenant), ("principal", toJson value.principal),
    ("ordinal", toJson value.ordinal), ("role", toJson value.role), ("text", toJson value.text)]⟩

inductive NativeCallPhase where
  | initialized
  | accepted
  | cancelled
  | terminal
deriving DecidableEq

instance : Jsonable NativeCallPhase := ⟨fun
  | .initialized => .str "INITIALIZED"
  | .accepted => .str "ACCEPTED"
  | .cancelled => .str "CANCELLED"
  | .terminal => .str "TERMINAL"⟩

inductive NativeCallOutcome where
  | succeeded
  | failedDefinite
  | outcomeUnknown
deriving DecidableEq

instance : Jsonable NativeCallOutcome := ⟨fun
  | .succeeded => .str "SUCCEEDED"
  | .failedDefinite => .str "FAILED_DEFINITE"
  | .outcomeUnknown => .str "OUTCOME_UNKNOWN"⟩

/-- The result bytes stand for their base64 text. -/
structure NativeCallStateV1 where
  head : Identity
  predecessor : Option String
  originalCallId : Identity
  runId : Identity
  initialized : CallSubjectHead
  state : NativeCallPhase
  authorityActId : Option String
  externalIntentId : Option String
  result : Option Bytes
  outcome : Option NativeCallOutcome
deriving DecidableEq

instance : Model NativeCallStateV1 := ⟨fun value =>
  [("schema_id", .str "chiplog.agent-loop.native-call-state.v1"), ("head", toJson value.head),
    ("predecessor", toJson value.predecessor),
    ("original_call_id", toJson value.originalCallId), ("run_id", toJson value.runId),
    ("initialized", toJson value.initialized), ("state", toJson value.state),
    ("authority_act_id", toJson value.authorityActId),
    ("external_intent_id", toJson value.externalIntentId),
    ("result_base64", toJson (value.result.map b64encode)), ("outcome", toJson value.outcome)]⟩

end Chiplog.AgentLoop
