import Chiplog.AgentLoop.Disclosure
import Chiplog.Data.Dict

namespace Chiplog.AgentLoop

open Chiplog.Data

/-! Response parsers selected only by the immutable captured prompt artifact.

The validators that pydantic builds are parameters; what the parsers do with their
results is the code's own. -/

/-- A completion with provider recipients; only its canonical bytes matter here. -/
structure DeliveryCompletion where
  canonical : Bytes
deriving DecidableEq

/-- `Continue | Complete | DeliveryCompletion`. -/
inductive CapturedResponse where
  | continuation (response : Continue)
  | completion (response : Complete)
  | delivery (response : DeliveryCompletion)
deriving DecidableEq

/-- The validators of the response models, built by pydantic. -/
class Pydantic where
  /-- `json.dumps(response_adapter(tools).json_schema())`. -/
  responseSchema : List ToolSpec → String
  /-- `json.dumps(delivery_response_adapter(tools).json_schema())`. -/
  deliverySchema : List ToolSpec → String
  /-- `response_adapter(tools).validate_json(raw)`. -/
  validateResponse : List ToolSpec → Bytes → Option (Continue ⊕ Complete)
  /-- `delivery_response_adapter(tools).validate_json(raw)`. -/
  validateDelivery : List ToolSpec → Bytes → Option (Continue ⊕ DeliveryCompletion)
  /-- `Continue.model_validate_json(raw)`. -/
  validateContinue : Bytes → Option Continue
  /-- `Complete.model_validate_json(raw)`. -/
  validateComplete : Bytes → Option Complete

/-- A validator either returns its model or raises a validation error. -/
def validated (result : Option α) : Looping α :=
  match result with
  | some value => .ok value
  | none => .error .validationError

theorem validated_ok {result : Option α} {value : α} :
    validated result = .ok value ↔ result = some value := by
  cases result <;> simp [validated]

def registeredTools : List ToolSpec :=
  [⟨.proposePlanning, ⟨"chiplog.propose-planning.v1", by decide⟩⟩,
    ⟨.proposeIntent, ⟨"chiplog.propose-intent.v1", by decide⟩⟩]

section Parsing

variable [pydantic : Pydantic]

/-- What the adapters promise: the bound models narrow `Continue`, so a response they accept is
accepted by the base model with the same values, and canonical bytes are read back unchanged. -/
structure Pydantic.Lawful (pydantic : Pydantic) : Prop where
  bound : ∀ {tools raw response},
    pydantic.validateResponse tools raw = some (.inl response) →
      pydantic.validateContinue raw = some response
  complete : ∀ {tools raw response},
    pydantic.validateResponse tools raw = some (.inr response) →
      pydantic.validateComplete raw = some response
  canonical : ∀ {raw response}, pydantic.validateContinue raw = some response →
    pydantic.validateContinue (canonicalBytes response).items = some response

def parseResponse (raw : Bytes) (artifact : PromptArtifact) : Looping CapturedResponse := do
  raiseIf (artifact.generatorVersion ≠ .turnSchema)
    (.rejected "legacy parser rejects other response generators")
  raiseIf (artifact.tools = [] ∨ ¬ (artifact.tools.map ToolSpec.name).Nodup)
    (.rejected "empty or duplicate ToolSpec set")
  raiseIf (∃ tool ∈ artifact.tools, tool ∉ registeredTools)
    (.rejected "unknown ToolSpec identity/version")
  raiseIf (artifact.responseSchemaJson ≠ pydantic.responseSchema artifact.tools)
    (.rejected "schema bytes differ from exact versioned generator")
  let response ← validated (pydantic.validateResponse artifact.tools raw)
  match response with
  | .inl response => do
      raiseIf (∃ call ∈ response.toolCalls.items, call.tool ∉ artifact.tools.map ToolSpec.name)
        (.rejected "tool absent from exact Turn schema")
      raiseIf (¬ (response.toolCalls.items.map ToolCall.callId).Nodup)
        (.rejected "duplicate sealed call identity")
      let response ← validated (pydantic.validateContinue (canonicalBytes response).items)
      return .continuation response
  | .inr response => return .completion response

def parseDeliveryResponse (raw : Bytes) (artifact : PromptArtifact) : Looping CapturedResponse := do
  raiseIf (artifact.generatorVersion ≠ .deliverySchema)
    (.rejected "wrong captured delivery generator")
  raiseIf (artifact.tools = [] ∨ ¬ artifact.tools.Nodup)
    (.rejected "empty/duplicate delivery tools")
  raiseIf (artifact.tools ≠ registeredTools.filter (fun tool => tool ∈ artifact.tools))
    (.rejected "unknown or noncanonical delivery tool identities")
  raiseIf (artifact.responseSchemaJson ≠ pydantic.deliverySchema artifact.tools)
    (.rejected "wrong captured delivery response schema")
  let response ← validated (pydantic.validateDelivery artifact.tools raw)
  match response with
  | .inl response => do
      raiseIf ((canonicalBytes response).items ≠ raw)
        (.rejected "noncanonical delivery response bytes")
      raiseIf (¬ (response.toolCalls.items.map ToolCall.callId).Nodup)
        (.rejected "duplicate delivery tool call")
      let response ← validated (pydantic.validateContinue raw)
      return .continuation response
  | .inr response => do
      raiseIf (response.canonical ≠ raw) (.rejected "noncanonical delivery response bytes")
      return .delivery response

/-- The generator field has no third value. -/
def parseCapturedResponse (raw : Bytes) (artifact : PromptArtifact) : Looping CapturedResponse :=
  match artifact.generatorVersion with
  | .turnSchema => parseResponse raw artifact
  | .deliverySchema => parseDeliveryResponse raw artifact

/-- A parsed continuation is what the base model reads from the same bytes. -/
theorem parseCapturedResponse_continuation (lawful : pydantic.Lawful) {raw : Bytes}
    {artifact : PromptArtifact} {response : Continue}
    (parsed : parseCapturedResponse raw artifact = .ok (.continuation response)) :
    pydantic.validateContinue raw = some response := by
  unfold parseCapturedResponse at parsed
  split at parsed
  · simp only [parseResponse, bind_ok, raiseIf_ok, validated_ok] at parsed
    obtain ⟨_, _, _, _, _, _, _, _, found, accepted, parsed⟩ := parsed
    cases found with
    | inl first =>
        simp only [bind_ok, raiseIf_ok, validated_ok, pure_ok, CapturedResponse.continuation.injEq]
          at parsed
        obtain ⟨_, _, _, _, reread, again, rfl⟩ := parsed
        have base := lawful.bound accepted
        obtain rfl := Option.some.inj ((lawful.canonical base).symm.trans again)
        exact base
    | inr => cases parsed
  · simp only [parseDeliveryResponse, bind_ok, raiseIf_ok, validated_ok] at parsed
    obtain ⟨_, _, _, _, _, _, _, _, found, accepted, parsed⟩ := parsed
    cases found with
    | inl first =>
        simp only [bind_ok, raiseIf_ok, validated_ok, pure_ok, CapturedResponse.continuation.injEq]
          at parsed
        obtain ⟨_, _, _, _, reread, again, rfl⟩ := parsed
        exact again
    | inr =>
        simp only [bind_ok, pure_ok] at parsed
        obtain ⟨_, _, impossible⟩ := parsed
        cases impossible

/-- A parsed completion comes from the legacy generator and is what its model reads. -/
theorem parseCapturedResponse_completion (lawful : pydantic.Lawful) {raw : Bytes}
    {artifact : PromptArtifact} {response : Complete}
    (parsed : parseCapturedResponse raw artifact = .ok (.completion response)) :
    pydantic.validateComplete raw = some response := by
  unfold parseCapturedResponse at parsed
  split at parsed
  · simp only [parseResponse, bind_ok, raiseIf_ok, validated_ok] at parsed
    obtain ⟨_, _, _, _, _, _, _, _, found, accepted, parsed⟩ := parsed
    cases found with
    | inl first =>
        simp only [bind_ok, pure_ok] at parsed
        obtain ⟨_, _, _, _, _, _, impossible⟩ := parsed
        cases impossible
    | inr =>
        cases parsed
        exact lawful.complete accepted
  · simp only [parseDeliveryResponse, bind_ok, raiseIf_ok, validated_ok] at parsed
    obtain ⟨_, _, _, _, _, _, _, _, found, accepted, parsed⟩ := parsed
    cases found with
    | inl first =>
        simp only [bind_ok, pure_ok] at parsed
        obtain ⟨_, _, _, _, _, _, impossible⟩ := parsed
        cases impossible
    | inr =>
        simp only [bind_ok, pure_ok] at parsed
        obtain ⟨_, _, impossible⟩ := parsed
        cases impossible

end Parsing

end Chiplog.AgentLoop

namespace Chiplog.AgentLoop

open Chiplog.Data

/-! Owner decisions for durable Run, Turn, attempt and completion transitions.

Every operation derives the next record of a Run from the last one.  `validateRecord`
repeats the operation that the event of a stored record names. -/

inductive RunEvent where
  | planningReceiptObserved
  | turnStarted
  | runBudgetSuspended
  | turnVisibilityAccumulated
  | modelAttemptPrepared
  | modelAttemptEmitted
  | modelAttemptReplacedWithoutExposure
  | modelResponseCaptured
  | modelResponseRejected
  | modelResponseReceived
  | completeAcceptance
  | toolTerminal
  | runActive
  | runSuspended
  | runAborted
  | runCancelled
deriving DecidableEq

namespace RunEvent

def text : RunEvent → String
  | planningReceiptObserved => "PlanningReceiptObserved"
  | turnStarted => "TurnStarted"
  | runBudgetSuspended => "RunBudgetSuspended"
  | turnVisibilityAccumulated => "TurnVisibilityAccumulated"
  | modelAttemptPrepared => "ModelAttemptPrepared"
  | modelAttemptEmitted => "ModelAttemptEmitted"
  | modelAttemptReplacedWithoutExposure => "ModelAttemptReplacedWithoutExposure"
  | modelResponseCaptured => "ModelResponseCaptured"
  | modelResponseRejected => "ModelResponseRejected"
  | modelResponseReceived => "ModelResponseReceived"
  | completeAcceptance => "CompleteAcceptance"
  | toolTerminal => "ToolTerminal"
  | runActive => "RunActive"
  | runSuspended => "RunSuspended"
  | runAborted => "RunAborted"
  | runCancelled => "RunCancelled"

def all : List RunEvent :=
  [planningReceiptObserved, turnStarted, runBudgetSuspended, turnVisibilityAccumulated,
    modelAttemptPrepared, modelAttemptEmitted, modelAttemptReplacedWithoutExposure,
    modelResponseCaptured, modelResponseRejected, modelResponseReceived, completeAcceptance,
    toolTerminal, runActive, runSuspended, runAborted, runCancelled]

def ofText? (text : String) : Option RunEvent := all.find? (fun event => event.text = text)

@[simp] theorem ofText?_text (event : RunEvent) : ofText? event.text = some event := by
  cases event <;> decide

end RunEvent

/-- `str.title()` of the state. -/
def LoopRunState.title : LoopRunState → String
  | .created => "Created"
  | .active => "Active"
  | .succeeded => "Succeeded"
  | .suspended => "Suspended"
  | .superseded => "Superseded"
  | .aborted => "Aborted"
  | .cancelled => "Cancelled"

def LoopRunState.edges : LoopRunState → List LoopRunState
  | .created => [.active, .aborted, .cancelled]
  | .active => [.suspended, .aborted, .cancelled]
  | .suspended => [.aborted, .cancelled]
  | _ => []

/-- `part in text`. -/
def Occurs (part text : String) : Prop := part.toList <:+: text.toList

instance (part text : String) : Decidable (Occurs part text) :=
  inferInstanceAs (Decidable (part.toList <:+: text.toList))

def renderReceipt (receipt : LocalPlanningReceipt) : String :=
  "Committed local intention: " ++ receipt.purpose ++ "."

def currentTurn (run : RunRecord) : Looping Turn :=
  match run.state, run.turns.getLast? with
  | .active, some turn => .ok turn
  | _, _ => .error (.rejected "no active Turn")

/-- `turn.attempts[turn.selector]`. -/
def Turn.selected (turn : Turn) : Looping ModelAttempt :=
  match turn.attempts[turn.selector]? with
  | some attempt => .ok attempt
  | none => .error .indexError

def currentAttempt (run : RunRecord) (state : ModelAttemptState) : Looping ModelAttempt := do
  let turn ← currentTurn run
  raiseIf (turn.attempts = [] ∨ turn.selector ≠ turn.attempts.length - 1)
    (.rejected "missing or nonmonotone selected generation")
  let attempt ← turn.selected
  raiseIf (attempt.generation ≠ turn.selector ∨ attempt.state ≠ state)
    (.rejected "attempt transition out of order")
  return attempt

/-- The captured bytes, or the rejection of their absence. -/
def ModelAttempt.captured (attempt : ModelAttempt) (reason : String) : Looping Bytes :=
  match attempt.response with
  | some raw => .ok raw
  | none => .error (.rejected reason)

section Operations

variable [Hashlib] [pydantic : Pydantic]

/-- `digest()` of a record. -/
def digest [Model α] (value : α) : String := (sha256 (canonicalBytes value).items).text

/-- `successor(run, event, **changes)`, where the changes are already made. -/
def successor (run : RunRecord) (event : String) (changed : RunRecord) : RunRecord :=
  let candidate := { changed with
    predecessor := some run.head
    event := event
    head := "pending" }
  { candidate with head := "loop:" ++ digest candidate }

def withTurn (run : RunRecord) (turn : Turn) (event : RunEvent) : RunRecord :=
  let turn := { turn with head := event.text ++ ":" ++ digest turn }
  successor run event.text { run with turns := run.turns.dropLast ++ [turn] }

/-- The Turn that `with_attempt` hands to `with_turn`, before its head is derived. -/
def Turn.withAttempt (turn : Turn) (attempt : ModelAttempt) (event : RunEvent) : Turn :=
  let attempt := { attempt with head := event.text ++ ":" ++ digest attempt }
  { turn with attempts := turn.attempts.dropLast ++ [attempt] }

def withAttempt (run : RunRecord) (attempt : ModelAttempt) (event : RunEvent) :
    Looping RunRecord := do
  let turn ← currentTurn run
  return withTurn run (turn.withAttempt attempt event) event

/-- What an earlier Turn with an accepted response has to show. -/
def acceptedTurn (turn : Turn) (sealedCalls : List ToolOutcome) : Looping Unit := do
  raiseIf (turn.state ≠ .accepted ∨ turn.attempts = [])
    (.rejected "prior response is not accepted")
  let attempt ← turn.selected
  raiseIf (attempt.state ≠ .terminalAccepted) (.rejected "missing immutable accepted response")
  let raw ← attempt.captured "missing immutable accepted response"
  let response ← validated (pydantic.validateContinue raw)
  raiseIf (sealedCalls.map ToolOutcome.call ≠ response.toolCalls.items)
    (.rejected "partial, extra or reordered sealed calls")
  raiseIf (¬ (response.toolCalls.items.map ToolCall.callId).Nodup)
    (.rejected "duplicate call identity")
  forEach (fun outcome => raiseIf (outcome.state ≠ .terminal ∨ outcome.result = none)
    (.rejected "call not continuation-ready; recovery HOLD")) sealedCalls

def continuationTurn (turn : Turn) : Looping Unit :=
  if turn.state = .rejected ∧ turn.attempts ≠ [] then do
    let rejected ← turn.selected
    raiseIf (rejected.state ≠ .terminalRejected ∨ rejected.response = none ∨
        rejected.rejection.getD "" = "" ∨ turn.sealedCalls ≠ some [])
      (.rejected "incomplete immutable rejection disposition")
  else
    match turn.sealedCalls with
    | none => .error (.rejected "prior response is unsealed")
    | some sealedCalls => acceptedTurn turn sealedCalls

/-- Enumerate every earlier sealed response; no caller-supplied ancestry or Boolean. -/
def continuation (turns : List Turn) : Looping Unit := forEach continuationTurn turns

def transition (run : RunRecord) (target : LoopRunState) : Looping RunRecord := do
  raiseIf (target ∉ run.state.edges)
    (.rejected "illegal Run transition; recovery/success requires owned acceptance")
  checkIf (run.turns ≠ []) (continuation run.turns)
  return successor run ("Run" ++ target.title) { run with state := target }

def startTurn (run : RunRecord) : Looping RunRecord := do
  raiseIf (run.state ≠ .active) (.rejected "Run is not ACTIVE")
  continuation run.turns
  let ordinal := run.turns.length + 1
  if run.policy.kind = .maxTurns ∧ run.policy.maxTurns < ordinal then
    return successor run RunEvent.runBudgetSuspended.text { run with state := .suspended }
  else
    let turn : Turn :=
      { turnId := run.runId ++ "/turn/" ++ ordinal.repr
        ordinal := ⟨ordinal, Nat.succ_pos _⟩
        head := run.head ++ "/turn/" ++ ordinal.repr
        state := .preparing
        accumulator := []
        attempts := []
        selector := 0
        sealedCalls := none }
    return successor run RunEvent.turnStarted.text { run with turns := run.turns ++ [turn] }

/-- `previous` and `result` of the loop in `accumulate`. -/
structure Accumulation where
  previous : Dict Identity VisibilityMember
  result : List VisibilityMember

def accumulateMember (state : Accumulation) (member : VisibilityMember) :
    Looping Accumulation :=
  match state.previous.get? member.recordId with
  | some known => do
      raiseIf (known ≠ member) (.rejected "visibility identity rebound")
      return state
  | none => return ⟨state.previous.set member.recordId member, state.result ++ [member]⟩

def accumulate (run : RunRecord) (members : List VisibilityMember) : Looping RunRecord := do
  let turn ← currentTurn run
  raiseIf (turn.attempts ≠ [] ∨ turn.state ≠ .preparing)
    (.rejected "cannot rewrite a sealed historical accumulator")
  let start : Accumulation :=
    ⟨Dict.ofRows VisibilityMember.recordId id turn.accumulator, turn.accumulator⟩
  let final ← members.foldlM accumulateMember start
  return withTurn run { turn with accumulator := final.result } .turnVisibilityAccumulated

/-- The restriction every context carries: where the Run came from and the live model. -/
def originLabel (run : RunRecord) : DisclosureLabel :=
  ⟨.endpointRestricted,
    match run.policy.liveModel with
    | some _ => [run.origin.endpointId.text, liveRecipient].insertionSort (· ≤ ·)
    | none => [run.origin.endpointId.text]⟩

def contextLabel (run : RunRecord) : Looping DisclosureLabel :=
  joinLabels (originLabel run :: run.turns.dropLast.flatMap (fun turn =>
    turn.attempts.map (fun attempt => attempt.manifest.joinedLabel)))

def surface (name : String) (members : List VisibilityMember) : List VisibilityMember :=
  members.filter (fun member => member.surface.text = name)

/-- The exact prompt, schema and context members of a request. -/
def visibilityClosure (run : RunRecord) (manifest : VisibilityManifest) : Looping Unit :=
  let reason := LoopError.rejected "request lacks exact prompt/schema/context visibility closure"
  match surface "prompt" manifest.members, surface "schema" manifest.members,
    surface "context" manifest.members with
  | [prompt], [schema], [context] => do
      raiseIf (prompt.content ≠ manifest.artifact.rendered ∨
          prompt.revisionHead.text ≠ manifest.artifact.contentHash ∨
          schema.content ≠ manifest.artifact.responseSchemaJson ∨
          schema.revisionHead.text ≠ digest manifest.artifact ∨
          some context.provenanceHead.text ≠ run.predecessor ∨
          ¬ Occurs context.content manifest.artifact.rendered) reason
      let label ← contextLabel run
      raiseIf (context.label ≠ label ∨ prompt.label ≠ context.label) reason
  | _, _, _ => .error reason

def authorizesLive (run : RunRecord) (joined : DisclosureLabel) : Prop :=
  run.policy.liveModel ≠ none →
    run.origin.provider = .localCli ∧ joined.value ≠ .denyAll ∧
      (joined.value = .endpointRestricted → liveRecipient ∈ joined.allowedEndpoints)

instance (run : RunRecord) (joined : DisclosureLabel) : Decidable (authorizesLive run joined) := by
  unfold authorizesLive
  infer_instance

def preparedAttempt (run : RunRecord) (turn : Turn) (manifest : VisibilityManifest) :
    ModelAttempt :=
  let lineage := turn.turnId ++ "/slot/0"
  { attemptId := lineage ++ "/generation/0"
    lineageId := lineage
    generation := 0
    state := .preparedNotEmitted
    head := digest manifest
    manifest := manifest
    request :=
      { prompt := manifest.artifact.rendered
        schema := manifest.artifact.responseSchemaJson
        manifest := digest manifest }
    providerContract := if run.policy.liveModel ≠ none then .codex else .hermetic
    recipient := if run.policy.liveModel ≠ none then .codex else .hermetic
    liveModel := run.policy.liveModel
    workerSession := manifest.workerSession.text
    response := none
    receipt := none
    rejection := none }

def prepare (run : RunRecord) (manifest : VisibilityManifest) : Looping RunRecord := do
  let turn ← currentTurn run
  raiseIf (turn.state ≠ .preparing ∨ turn.attempts ≠ [] ∨ turn.accumulator = [])
    (.rejected "duplicate attempt lineage or missing accumulator")
  raiseIf (manifest.members ≠ turn.accumulator ∨ manifest.tenant ≠ run.tenant ∨
      manifest.principal ≠ run.principal ∨ manifest.contourHead ≠ run.contourHead ∨
      manifest.runId ≠ run.runId ∨ manifest.turnId ≠ turn.turnId ∨ manifest.generation ≠ 0)
    (.rejected "manifest is not exact current accumulated visibility")
  let joined ← joinLabels (turn.accumulator.map VisibilityMember.label)
  raiseIf (manifest.joinedLabel ≠ joined) (.rejected "missing or narrower manifest label")
  raiseIf (¬ authorizesLive run joined)
    (.rejected "context does not authorize the exact live model recipient")
  visibilityClosure run manifest
  let attempt := preparedAttempt run turn manifest
  raiseIf (run.policy.maxRequestBytes < (utf8 attempt.request.text).length)
    (.rejected "request exceeds physical transport bound")
  return withTurn run { turn with attempts := [attempt], state := .callActive }
    .modelAttemptPrepared

def emit (run : RunRecord) : Looping RunRecord := do
  let attempt ← currentAttempt run .preparedNotEmitted
  withAttempt run { attempt with state := .emittedOutcomeUnknown } .modelAttemptEmitted

/-- The next generation of an attempt that was never exposed. -/
def ModelAttempt.replacement (attempt : ModelAttempt) : ModelAttempt :=
  let generation := attempt.generation + 1
  let manifest := { attempt.manifest with generation := generation }
  { attempt with
    generation := generation
    attemptId := attempt.lineageId ++ "/generation/" ++ generation.repr
    manifest := manifest
    head := digest manifest
    request := { attempt.request with manifest := digest manifest } }

def replaceUnemitted (run : RunRecord) (proof : NoExposureProof) : Looping RunRecord := do
  let attempt ← currentAttempt run .preparedNotEmitted
  let turn ← currentTurn run
  raiseIf (proof.attemptId ≠ attempt.attemptId ∨ proof.attemptHead ≠ attempt.head ∨
      proof.runHead ≠ run.head ∨ proof.workerSession ≠ attempt.workerSession ∨
      attempt.providerContract ≠ .hermetic)
    (.rejected "no-exposure proof is not exact current pre-emission state")
  let generation := attempt.generation + 1
  raiseIf (∃ bound ∈ run.policy.maxModelRetries, bound < generation)
    (.rejected "durable model retry budget exhausted")
  return withTurn run
    { turn with attempts := turn.attempts ++ [attempt.replacement], selector := generation }
    .modelAttemptReplacedWithoutExposure

def capture (run : RunRecord) (raw : Bytes) (receipt : String) : Looping RunRecord := do
  let attempt ← currentAttempt run .emittedOutcomeUnknown
  raiseIf (run.policy.maxResponseBytes < raw.length ∨ receipt = "")
    (.rejected "response exceeds transport bound or receipt is missing")
  let attempt := { attempt with
    state := .responseCaptured
    response := some raw
    receipt := some receipt }
  let updated ← withAttempt run attempt .modelResponseCaptured
  let turn ← currentTurn updated
  return withTurn run { turn with state := .responseAvailable } .modelResponseCaptured

def reject (run : RunRecord) (reason : String) : Looping RunRecord := do
  let attempt ← currentAttempt run .responseCaptured
  let updated ← withAttempt run
    { attempt with state := .terminalRejected, rejection := some reason } .modelResponseRejected
  let turn ← currentTurn updated
  return withTurn run { turn with state := .rejected, sealedCalls := some [] }
    .modelResponseRejected

/-- `parse_captured_response(b64decode(attempt.response_base64), artifact) != response`. -/
def differsFromCaptured (attempt : ModelAttempt) (response : CapturedResponse) (reason : String) :
    Looping Unit := do
  let raw ← attempt.captured reason
  let parsed ← parseCapturedResponse raw attempt.manifest.artifact
  raiseIf (parsed ≠ response) (.rejected reason)

def initializedOutcome (turn : Turn) (call : ToolCall) : ToolOutcome :=
  { call := call
    state := .initialized
    result := none
    evidenceId := none
    proposalId := some (turn.turnId ++ "/proposal/" ++ call.callId.text) }

def acceptTools (run : RunRecord) (response : Continue) : Looping RunRecord := do
  let attempt ← currentAttempt run .responseCaptured
  differsFromCaptured attempt (.continuation response) "response differs from captured bytes"
  raiseIf (run.policy.maxToolCalls < response.toolCalls.items.length)
    (.rejected "sealed fan-out exceeds bound")
  raiseIf (¬ (response.toolCalls.items.map ToolCall.callId).Nodup)
    (.rejected "duplicate call identity")
  raiseIf (∃ call ∈ response.toolCalls.items,
      call.tool ∉ attempt.manifest.artifact.tools.map ToolSpec.name)
    (.rejected "call outside exact Turn schema")
  let updated ← withAttempt run { attempt with state := .terminalAccepted } .modelResponseReceived
  let turn ← currentTurn updated
  let original ← currentTurn run
  return withTurn run
    { turn with
      state := .accepted
      sealedCalls := some (response.toolCalls.items.map (initializedOutcome original)) }
    .modelResponseReceived

def terminalTool (run : RunRecord) (callId : String) (result : String) : Looping RunRecord := do
  let turn ← currentTurn run
  match turn.sealedCalls with
  | none => .error (.rejected "response is not sealed")
  | some calls =>
      let absent := LoopError.rejected "call is absent or already terminal"
      match calls.findIdxs (fun outcome => outcome.call.callId.text = callId) with
      | [index] =>
          match calls[index]? with
          | some outcome => do
              raiseIf (outcome.state ≠ .initialized) absent
              let calls := calls.set index { outcome with state := .terminal, result := some result }
              return withTurn run { turn with sealedCalls := some calls } .toolTerminal
          | none => .error .indexError
      | _ => .error absent

/-- The label of everything the model was ever shown in this Run. -/
def historicalLabel (run : RunRecord) : Looping DisclosureLabel :=
  joinLabels (run.turns.flatMap (fun turn => turn.attempts.flatMap (fun attempt =>
    attempt.manifest.members.map VisibilityMember.label)))

/-- `deliveries` and `recipients` of the loop in `complete`. -/
structure Deliveries where
  accepted : List AcceptedDelivery
  recipients : List (EndpointProvider × Identity × Identity)

def renderedDelivery (run : RunRecord) (delivery : Delivery) : Looping String :=
  match delivery.kind with
  | .deliveryAssertion =>
      let reason := LoopError.rejected "assertion lacks exact evidence or code entailment"
      match run.planningReceipts.filter
        (fun receipt => some receipt.evidenceId = delivery.evidenceId) with
      | [receipt] => do
          raiseIf (delivery.assertionCode ≠ some .localPlanningCommitted ∨ delivery.text ≠ none)
            reason
          return renderReceipt receipt
      | _ => .error reason
  | .nonAuthoritativeText =>
      let reason := LoopError.rejected
        "non-authoritative text missing or carrying assertion evidence"
      match delivery.text with
      | some text => do
          raiseIf (delivery.assertionCode ≠ none ∨ delivery.evidenceId ≠ none) reason
          return text.text
      | none => .error reason

def acceptDelivery (run : RunRecord) (attempt : ModelAttempt) (state : Deliveries)
    (delivery : Delivery) : Looping Deliveries := do
  let endpoint := delivery.endpoint.getD run.origin
  raiseIf (endpoint ≠ run.origin) (.rejected "unregistered/stale exact endpoint selection")
  let label ← historicalLabel run
  raiseIf (label ≠ attempt.manifest.joinedLabel ∨ label.value = .denyAll ∨
      label.value = .endpointRestricted ∧ endpoint.endpointId.text ∉ label.allowedEndpoints)
    (.rejected "delivery violates complete historical disclosure manifest")
  let recipient := (endpoint.provider, endpoint.recipient, endpoint.canonicalAddress)
  raiseIf (recipient ∈ state.recipients) (.rejected "duplicate exact delivery recipient")
  let rendered ← renderedDelivery run delivery
  return {
    recipients := state.recipients ++ [recipient]
    accepted := state.accepted ++ [
      { deliveryId := run.runId ++ "/delivery/" ++ state.accepted.length.repr
        payload := { delivery with endpoint := some endpoint }
        rendered := rendered
        visibilityDigest := digest attempt.manifest }] }

def complete (run : RunRecord) (response : Complete) : Looping RunRecord := do
  let attempt ← currentAttempt run .responseCaptured
  differsFromCaptured attempt (.completion response)
    "completion differs from selected captured bytes"
  continuation run.turns.dropLast
  let deliveries ← response.deliveries.items.foldlM (acceptDelivery run attempt) ⟨[], []⟩
  let updated ← withAttempt run { attempt with state := .terminalAccepted } .completeAcceptance
  let turn ← currentTurn updated
  return successor run RunEvent.completeAcceptance.text
    { run with
      state := .succeeded
      turns := updated.turns.dropLast ++ [{ turn with state := .accepted, sealedCalls := some [] }]
      deliveries := deliveries.accepted
      acceptedText := deliveries.accepted.map AcceptedDelivery.rendered }

/-- `outcome.proposal_id: outcome.call.text` of every planning call. -/
def planningProposals (run : RunRecord) : Dict (Option String) Identity :=
  Dict.ofRows ToolOutcome.proposalId (fun outcome => outcome.call.text)
    ((run.turns.flatMap (fun turn => turn.sealedCalls.getD [])).filter
      (fun outcome => outcome.call.tool = .proposePlanning))

def observeReceipt (run : RunRecord) (receipt : LocalPlanningReceipt) : Looping RunRecord := do
  raiseIf (run.state ≠ .active) (.rejected "receipt observation requires ACTIVE Run")
  continuation run.turns
  raiseIf ((planningProposals run).get? (some receipt.proposalId) = none ∨
      ((planningProposals run).get? (some receipt.proposalId)).map Identity.text ≠
        some receipt.purpose ∨
      receipt.evidenceId ≠ receipt.commandId ∨
      receipt.resultDigest ≠ (sha256 (utf8 receipt.canonicalResult)).text ∨
      ∃ old ∈ run.planningReceipts, old.evidenceId = receipt.evidenceId)
    (.rejected "foreign, duplicated or corrupt planning receipt")
  return successor run RunEvent.planningReceiptObserved.text
    { run with planningReceipts := run.planningReceipts ++ [receipt] }

/-- The head is derived from the rest of the record. -/
def contentHead (record : RunRecord) : String :=
  "loop:" ++ digest { record with head := "pending" }

def validateGenesis (record : RunRecord) : Looping Unit :=
  raiseIf (record.event ≠ "RunCreated" ∨ record.state ≠ .created ∨ record.predecessor ≠ none ∨
      record.turns ≠ [] ∨ record.deliveries ≠ [] ∨ record.acceptedText ≠ [] ∨
      record.planningReceipts ≠ [] ∨ record.acceptedDeliveryBinding ≠ .legacyR13)
    (.rejected "invalid Run genesis")

/-- The one call that a terminal publication advanced. -/
def advancedCall (previous record : RunRecord) : Looping (ToolOutcome × String) := do
  let old ← currentTurn previous
  let new ← currentTurn record
  match old.sealedCalls, new.sealedCalls with
  | some oldCalls, some newCalls => do
      raiseIf (oldCalls.length ≠ newCalls.length) (.rejected "sealed-call membership changed")
      let reason := LoopError.rejected "terminal publication must advance exactly one call"
      match (oldCalls.zip newCalls).filter (fun pair => pair.1 ≠ pair.2) with
      | [(_, changed)] =>
          match changed.result with
          | some result => return (changed, result)
          | none => .error reason
      | _ => .error reason
  | _, _ => .error (.rejected "sealed-call membership changed")

/-- Repeat the owner operation that the event names.  `expanded` completes a delivery observation,
when one was given. -/
def expectedRecord (previous record : RunRecord)
    (expanded : Option (RunRecord → Looping RunRecord)) : RunEvent → Looping RunRecord
  | .planningReceiptObserved =>
      match record.planningReceipts.getLast? with
      | some receipt => observeReceipt previous receipt
      | none => .error (.rejected "missing planning receipt")
  | .turnStarted | .runBudgetSuspended => startTurn previous
  | .turnVisibilityAccumulated => do
      let turn ← currentTurn record
      accumulate previous turn.accumulator
  | .modelAttemptPrepared => do
      let turn ← currentTurn record
      match turn.attempts.getLast? with
      | some attempt => prepare previous attempt.manifest
      | none => .error .indexError
  | .modelAttemptEmitted => emit previous
  | .modelAttemptReplacedWithoutExposure => do
      let attempt ← currentAttempt previous .preparedNotEmitted
      replaceUnemitted previous
        { attemptId := attempt.attemptId
          attemptHead := attempt.head
          runHead := previous.head
          workerSession := previous.workerSession }
  | .modelResponseCaptured => do
      let attempt ← currentAttempt record .responseCaptured
      match attempt.response, attempt.receipt with
      | some raw, some receipt => capture previous raw receipt
      | _, _ => .error (.rejected "missing captured bytes or receipt")
  | .modelResponseRejected => do
      let attempt ← currentAttempt record .terminalRejected
      match attempt.rejection with
      | some reason => reject previous reason
      | none => .error (.rejected "missing rejection reason")
  | .modelResponseReceived => do
      let attempt ← currentAttempt previous .responseCaptured
      let raw ← attempt.captured "missing immutable response"
      let response ← validated (pydantic.validateContinue raw)
      acceptTools previous response
  | .completeAcceptance => do
      let attempt ← currentAttempt previous .responseCaptured
      let raw ← attempt.captured "missing immutable response"
      if record.acceptedDeliveryBinding ≠ .legacyR13 then
        match expanded with
        | some completeDelivery => completeDelivery previous
        | none => .error (.rejected "expanded acceptance requires independent delivery observation")
      else do
        let response ← validated (pydantic.validateComplete raw)
        complete previous response
  | .toolTerminal => do
      let (changed, result) ← advancedCall previous record
      terminalTool previous changed.call.callId.text result
  | .runActive | .runSuspended | .runAborted | .runCancelled => transition previous record.state

/-- Verify immutable ancestry and the exact owner transition, not a cached status. -/
def validateRecord (previous : Option RunRecord) (record : RunRecord)
    (expanded : Option (RunRecord → Looping RunRecord)) : Looping Unit := do
  raiseIf (record.head ≠ contentHead record) (.rejected "content-derived Run head mismatch")
  match previous with
  | none => validateGenesis record
  | some previous => do
      raiseIf (previous.acceptedDeliveryBinding ≠ .legacyR13)
        (.rejected "accepted delivery Run is terminal and immutable")
      raiseIf (record.acceptedDeliveryBinding ≠ .legacyR13 ∧
          record.event ≠ RunEvent.completeAcceptance.text)
        (.rejected "delivery reference is only valid at CompleteAcceptance")
      match RunEvent.ofText? record.event with
      | some event => do
          let expected ← expectedRecord previous record expanded event
          raiseIf (expected ≠ record)
            (.rejected "changed immutable ancestry or invalid exact transition")
      | none => .error (.rejected "unknown orchestration event")

end Operations

end Chiplog.AgentLoop
