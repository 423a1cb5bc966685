import Chiplog.AgentLoop.RunDomain
import Chiplog.Data.JsonText

namespace Chiplog.AgentLoop

open Chiplog.Data

/-! What the operations of a Run can do.

`RunMove` lists every step with its guards and its result, up to the derived heads of the
last Turn and its attempt.  Invariants of a Run are case analyses over it. -/

theorem currentTurn_ok {run : RunRecord} {turn : Turn} :
    currentTurn run = .ok turn ↔ run.state = .active ∧ ∃ front, run.turns = front ++ [turn] := by
  rw [← List.getLast?_eq_some_iff]
  cases state : run.state <;> cases last : run.turns.getLast? <;>
    simp [currentTurn, state, last]

theorem selected_ok {turn : Turn} {attempt : ModelAttempt} :
    turn.selected = .ok attempt ↔ turn.attempts[turn.selector]? = some attempt := by
  unfold Turn.selected
  split <;> simp_all

theorem captured_ok {attempt : ModelAttempt} {reason : String} {raw : Bytes} :
    attempt.captured reason = .ok raw ↔ attempt.response = some raw := by
  unfold ModelAttempt.captured
  split <;> simp_all

/-- The last attempt of a Turn is the selected one, and its generation is its position. -/
structure Turn.Selects (turn : Turn) (early : List ModelAttempt) (attempt : ModelAttempt)
    (state : ModelAttemptState) : Prop where
  attempts : turn.attempts = early ++ [attempt]
  selector : turn.selector = early.length
  generation : attempt.generation = early.length
  state : attempt.state = state

theorem currentAttempt_ok {run : RunRecord} {state : ModelAttemptState} {attempt : ModelAttempt} :
    currentAttempt run state = .ok attempt ↔ ∃ turn early, currentTurn run = .ok turn ∧
      turn.Selects early attempt state := by
  simp only [currentAttempt, bind_ok, raiseIf_ok, selected_ok, pure_ok, not_or, not_not]
  constructor
  · rintro ⟨turn, current, _, ⟨nonempty, selector⟩, found, selected, _, ⟨generation, same⟩, rfl⟩
    obtain ⟨early, last, attempts⟩ := (List.eq_nil_or_concat' turn.attempts).resolve_left nonempty
    rw [attempts, List.length_append, List.length_singleton, Nat.add_sub_cancel] at selector
    rw [attempts, selector, List.getElem?_concat_length] at selected
    obtain rfl := Option.some.inj selected
    exact ⟨turn, early, current, attempts, selector, generation.trans selector, same⟩
  · rintro ⟨turn, early, current, attempts, selector, generation, same⟩
    refine ⟨turn, current, (), ⟨by simp [attempts], by simp [attempts, selector]⟩, attempt, ?_, (),
      ⟨generation.trans selector.symm, same⟩, rfl⟩
    rw [attempts, selector, List.getElem?_concat_length]

theorem differsFromCaptured_ok [Pydantic] {attempt : ModelAttempt} {response : CapturedResponse}
    {reason : String} {value : Unit} :
    differsFromCaptured attempt response reason = .ok value ↔ ∃ raw, attempt.response = some raw ∧
      parseCapturedResponse raw attempt.manifest.artifact = .ok response := by
  simp only [differsFromCaptured, bind_ok, captured_ok, raiseIf_ok, not_not]
  constructor
  · rintro ⟨raw, captured, _, parsed, rfl⟩
    exact ⟨raw, captured, parsed⟩
  · rintro ⟨raw, captured, parsed⟩
    exact ⟨raw, captured, response, parsed, rfl⟩

/-- The text of a request is not much longer than its parts. -/
theorem ModelRequest.text_size (request : ModelRequest) : (utf8 request.text).length ≤ 48 *
    (6 * (request.prompt.length + request.schema.length + request.manifest.length) + 140) := by
  have order : "manifest" ≤ "prompt" ∧ "prompt" ≤ "schema" ∧ ¬ "schema" ≤ "manifest" ∧
      ¬ "prompt" ≤ "manifest" := by decide
  have sorted : Json.sortKeys (Json.dumpsFields [("prompt", .str request.prompt),
      ("schema", .str request.schema), ("manifest", .str request.manifest)]) =
        [("manifest", Json.quote request.manifest), ("prompt", Json.quote request.prompt),
          ("schema", Json.quote request.schema)] := by
    simp [Json.dumpsFields, Json.sortKeys, Json.dumps, List.insertionSort_cons, List.orderedInsert,
      order]
  have size := Json.dumpsAscii_size (Json.obj [("prompt", .str request.prompt),
    ("schema", .str request.schema), ("manifest", .str request.manifest)])
  rw [Json.dumps, sorted] at size
  have keys : (Json.quote "manifest").length = 10 ∧ (Json.quote "prompt").length = 8 ∧
      (Json.quote "schema").length = 8 := by decide +kernel
  have marks : "\x7b".length = 1 ∧ "\x7d".length = 1 ∧ ":".length = 1 ∧ ",".length = 1 := by
    decide
  have first := Json.quote_length request.manifest
  have second := Json.quote_length request.prompt
  have third := Json.quote_length request.schema
  simp only [List.map_cons, List.map_nil, String.intercalate_cons_cons,
    String.intercalate_singleton, String.length_append, keys, marks] at size
  have whole : (utf8 request.text).length = (utf8 (Json.dumpsAscii (Json.obj
    [("prompt", .str request.prompt), ("schema", .str request.schema),
      ("manifest", .str request.manifest)]))).length := rfl
  omega

section Records

variable [Hashlib]

section Fields

variable (run changed : RunRecord) (event : String)

@[simp] theorem successor_state : (successor run event changed).state = changed.state := rfl
@[simp] theorem successor_turns : (successor run event changed).turns = changed.turns := rfl
@[simp] theorem successor_policy : (successor run event changed).policy = changed.policy := rfl
@[simp] theorem successor_origin : (successor run event changed).origin = changed.origin := rfl
@[simp] theorem successor_event : (successor run event changed).event = event := rfl
@[simp] theorem successor_workerSession :
    (successor run event changed).workerSession = changed.workerSession := rfl
@[simp] theorem successor_binding :
    (successor run event changed).acceptedDeliveryBinding = changed.acceptedDeliveryBinding := rfl
@[simp] theorem successor_deliveries :
    (successor run event changed).deliveries = changed.deliveries := rfl
@[simp] theorem successor_acceptedText :
    (successor run event changed).acceptedText = changed.acceptedText := rfl
@[simp] theorem successor_planningReceipts :
    (successor run event changed).planningReceipts = changed.planningReceipts := rfl

theorem contentHead_ne_empty (record : RunRecord) : contentHead record ≠ "" := by
  simp [contentHead]

theorem digest_ne_empty [Model α] (value : α) : digest value ≠ "" :=
  Digest.text_ne_empty _

/-- The derived head of a successor is the one the validator expects. -/
theorem successor_head :
    (successor run event changed).head = contentHead (successor run event changed) := rfl

end Fields

theorem withTurn_eq {run : RunRecord} {front : List Turn} {last : Turn}
    (turns : run.turns = front ++ [last]) (turn : Turn) (event : RunEvent) :
    withTurn run turn event = successor run event.text { run with
      turns := front ++ [{ turn with head := event.text ++ ":" ++ digest turn }] } := by
  rw [withTurn, turns, List.dropLast_concat]

theorem Turn.Selects.withAttempt {turn : Turn} {early : List ModelAttempt}
    {attempt : ModelAttempt} {state : ModelAttemptState} (selects : turn.Selects early attempt state)
    (changed : ModelAttempt) (event : RunEvent) :
    turn.withAttempt changed event = { turn with
      attempts := early ++ [{ changed with head := event.text ++ ":" ++ digest changed }] } := by
  rw [Turn.withAttempt, selects.attempts, List.dropLast_concat]

/-- The Turn of the intermediate record that `capture`, `reject`, `accept_tools` and `complete`
look at. -/
theorem withAttempt_ok {run updated : RunRecord} {turn next : Turn} {attempt : ModelAttempt}
    {event : RunEvent} (current : currentTurn run = .ok turn)
    (stepped : withAttempt run attempt event = .ok updated)
    (selected : currentTurn updated = .ok next) :
    updated.turns.dropLast = run.turns.dropLast ∧
      ∃ head, next = { turn.withAttempt attempt event with head := head } := by
  simp only [withAttempt, current, ok_bind, pure_ok] at stepped
  subst stepped
  obtain ⟨active, front, turns⟩ := currentTurn_ok.mp current
  have updatedTurns : (withTurn run (turn.withAttempt attempt event) event).turns =
      front ++ [{ turn.withAttempt attempt event with
        head := event.text ++ ":" ++ digest (turn.withAttempt attempt event) }] := by
    rw [withTurn_eq turns]
    rfl
  obtain ⟨_, other, same⟩ := currentTurn_ok.mp selected
  rw [updatedTurns] at same
  obtain ⟨_, last⟩ := List.append_inj' same rfl
  refine ⟨?_, _, (List.cons.inj last).1.symm⟩
  rw [updatedTurns, turns, List.dropLast_concat, List.dropLast_concat]

theorem terminalTool_ok {run record : RunRecord} {callId result : String} :
    terminalTool run callId result = .ok record ↔ ∃ turn calls index outcome,
      currentTurn run = .ok turn ∧ turn.sealedCalls = some calls ∧
      calls.findIdxs (fun outcome => outcome.call.callId.text = callId) = [index] ∧
      calls[index]? = some outcome ∧ outcome.state = .initialized ∧
      record = withTurn run { turn with sealedCalls := some (calls.set index
        { outcome with state := .terminal, result := some result }) } .toolTerminal := by
  simp only [terminalTool, bind_ok]
  constructor
  · rintro ⟨turn, current, returned⟩
    split at returned
    · cases returned
    · rename_i calls sealedCalls
      split at returned
      · rename_i index indices
        split at returned
        · rename_i outcome found
          simp only [bind_ok, raiseIf_ok, pure_ok, not_not] at returned
          obtain ⟨_, initialized, rfl⟩ := returned
          exact ⟨turn, calls, index, outcome, current, sealedCalls, indices, found, initialized, rfl⟩
        · cases returned
      · cases returned
  · rintro ⟨turn, calls, index, outcome, current, sealedCalls, indices, found, initialized, rfl⟩
    refine ⟨turn, current, ?_⟩
    simp only [sealedCalls, indices, found, raiseIf_neg (not_not.mpr initialized), ok_bind]
    rfl

theorem capture_record {run record : RunRecord} {raw : Bytes} {receipt : String}
    (returned : capture run raw receipt = .ok record) :
    ∃ front turn early attempt head attemptHead, run.state = .active ∧
      run.turns = front ++ [turn] ∧ turn.Selects early attempt .emittedOutcomeUnknown ∧
      record = successor run RunEvent.modelResponseCaptured.text { run with
        turns := front ++ [{ turn with
          attempts := early ++ [{ attempt with
            state := .responseCaptured, response := some raw, receipt := some receipt,
            head := attemptHead }],
          state := .responseAvailable,
          head := head }] } := by
  simp only [capture, bind_ok, raiseIf_ok, pure_ok, currentAttempt_ok] at returned
  obtain ⟨attempt, ⟨turn, early, current, selects⟩, _, _, updated, stepped, next, selected, rfl⟩ :=
    returned
  obtain ⟨_, head, rfl⟩ := withAttempt_ok current stepped selected
  obtain ⟨active, front, turns⟩ := currentTurn_ok.mp current
  rw [withTurn_eq turns, selects.withAttempt]
  exact ⟨front, turn, early, attempt, _, _, active, turns, selects, rfl⟩

theorem reject_record {run record : RunRecord} {reason : String}
    (returned : reject run reason = .ok record) :
    ∃ front turn early attempt head attemptHead, run.state = .active ∧
      run.turns = front ++ [turn] ∧ turn.Selects early attempt .responseCaptured ∧
      record = successor run RunEvent.modelResponseRejected.text { run with
        turns := front ++ [{ turn with
          attempts := early ++ [{ attempt with
            state := .terminalRejected, rejection := some reason, head := attemptHead }],
          state := .rejected,
          sealedCalls := some [],
          head := head }] } := by
  simp only [reject, bind_ok, pure_ok, currentAttempt_ok] at returned
  obtain ⟨attempt, ⟨turn, early, current, selects⟩, updated, stepped, next, selected, rfl⟩ :=
    returned
  obtain ⟨_, head, rfl⟩ := withAttempt_ok current stepped selected
  obtain ⟨active, front, turns⟩ := currentTurn_ok.mp current
  rw [withTurn_eq turns, selects.withAttempt]
  exact ⟨front, turn, early, attempt, _, _, active, turns, selects, rfl⟩

end Records

theorem opened_pos (run : RunRecord) : 0 < run.turns.length + 1 := Nat.succ_pos _

section Moves

variable [Hashlib] [pydantic : Pydantic] {run record : RunRecord}

/-- What an operation on the last Turn makes of it. -/
inductive TurnMove (run : RunRecord) (turn : Turn) : Turn → Prop where
  | accumulate {members : List VisibilityMember} {final : Accumulation} {head : String}
      (unsent : turn.attempts = []) (preparing : turn.state = .preparing)
      (folded : members.foldlM accumulateMember
        ⟨Dict.ofRows VisibilityMember.recordId id turn.accumulator, turn.accumulator⟩ = .ok final) :
      TurnMove run turn { turn with accumulator := final.result, head := head }
  | prepare {manifest : VisibilityManifest} {head : String} (unsent : turn.attempts = [])
      (preparing : turn.state = .preparing) (members : manifest.members = turn.accumulator)
      (first : manifest.generation = 0)
      (joined : joinLabels (turn.accumulator.map VisibilityMember.label) =
        .ok manifest.joinedLabel)
      (closed : visibilityClosure run manifest = .ok ()) :
      TurnMove run turn { turn with
        attempts := [preparedAttempt run turn manifest], state := .callActive, head := head }
  | emit {early : List ModelAttempt} {attempt : ModelAttempt} {head attemptHead : String}
      (selects : turn.Selects early attempt .preparedNotEmitted) :
      TurnMove run turn { turn with
        attempts := early ++
          [{ attempt with state := .emittedOutcomeUnknown, head := attemptHead }],
        head := head }
  | replace {early : List ModelAttempt} {attempt : ModelAttempt} {head : String}
      (selects : turn.Selects early attempt .preparedNotEmitted)
      (retries : ∀ bound ∈ run.policy.maxModelRetries, attempt.generation + 1 ≤ bound) :
      TurnMove run turn { turn with
        attempts := turn.attempts ++ [attempt.replacement],
        selector := attempt.generation + 1,
        head := head }
  | capture {early : List ModelAttempt} {attempt : ModelAttempt} {raw : Bytes}
      {receipt head attemptHead : String}
      (selects : turn.Selects early attempt .emittedOutcomeUnknown) :
      TurnMove run turn { turn with
        attempts := early ++ [{ attempt with
          state := .responseCaptured, response := some raw, receipt := some receipt,
          head := attemptHead }],
        state := .responseAvailable,
        head := head }
  | reject {early : List ModelAttempt} {attempt : ModelAttempt} {reason head attemptHead : String}
      (selects : turn.Selects early attempt .responseCaptured) :
      TurnMove run turn { turn with
        attempts := early ++ [{ attempt with
          state := .terminalRejected, rejection := some reason, head := attemptHead }],
        state := .rejected,
        sealedCalls := some [],
        head := head }
  | accept {early : List ModelAttempt} {attempt : ModelAttempt} {raw : Bytes}
      {response : Continue} {head attemptHead : String}
      (selects : turn.Selects early attempt .responseCaptured)
      (captured : attempt.response = some raw)
      (parsed : parseCapturedResponse raw attempt.manifest.artifact = .ok (.continuation response))
      (bounded : response.toolCalls.items.length ≤ run.policy.maxToolCalls) :
      TurnMove run turn { turn with
        attempts := early ++ [{ attempt with state := .terminalAccepted, head := attemptHead }],
        state := .accepted,
        sealedCalls := some (response.toolCalls.items.map (initializedOutcome turn)),
        head := head }
  | terminalTool {calls : List ToolOutcome} {index : Nat} {outcome : ToolOutcome}
      {result head : String} (sealedCalls : turn.sealedCalls = some calls)
      (found : calls[index]? = some outcome) (initialized : outcome.state = .initialized) :
      TurnMove run turn { turn with
        sealedCalls := some (calls.set index
          { outcome with state := .terminal, result := some result }),
        head := head }

/-- The Turn that `start_turn` opens. -/
def openedTurn (run : RunRecord) : Turn :=
  { turnId := run.runId ++ "/turn/" ++ (run.turns.length + 1).repr
    ordinal := ⟨run.turns.length + 1, opened_pos run⟩
    head := run.head ++ "/turn/" ++ (run.turns.length + 1).repr
    state := .preparing
    accumulator := []
    attempts := []
    selector := 0
    sealedCalls := none }

inductive RunMove (run : RunRecord) : RunRecord → Prop where
  | transition {target : LoopRunState} (edge : target ∈ run.state.edges) :
      RunMove run (successor run ("Run" ++ target.title) { run with state := target })
  | suspend (active : run.state = .active) :
      RunMove run (successor run RunEvent.runBudgetSuspended.text
        { run with state := .suspended })
  | start (active : run.state = .active) (continued : continuation run.turns = .ok ())
      (within : run.policy.kind = .maxTurns → run.turns.length + 1 ≤ run.policy.maxTurns) :
      RunMove run (successor run RunEvent.turnStarted.text
        { run with turns := run.turns ++ [openedTurn run] })
  | turn {front : List Turn} {turn next : Turn} {event : RunEvent} (active : run.state = .active)
      (turns : run.turns = front ++ [turn]) (move : TurnMove run turn next) :
      RunMove run (successor run event.text { run with turns := front ++ [next] })
  | complete {front : List Turn} {turn : Turn} {early : List ModelAttempt}
      {attempt : ModelAttempt} {raw : Bytes} {response : Complete} {deliveries : Deliveries}
      {head attemptHead : String} (active : run.state = .active)
      (turns : run.turns = front ++ [turn])
      (selects : turn.Selects early attempt .responseCaptured)
      (captured : attempt.response = some raw)
      (parsed : parseCapturedResponse raw attempt.manifest.artifact = .ok (.completion response))
      (folded : response.deliveries.items.foldlM (acceptDelivery run attempt) ⟨[], []⟩ =
        .ok deliveries) :
      RunMove run (successor run RunEvent.completeAcceptance.text { run with
        state := .succeeded,
        turns := front ++ [{ turn with
          attempts := early ++ [{ attempt with state := .terminalAccepted, head := attemptHead }],
          state := .accepted, sealedCalls := some [], head := head }],
        deliveries := deliveries.accepted,
        acceptedText := deliveries.accepted.map AcceptedDelivery.rendered })
  | receipt {receipt : LocalPlanningReceipt} (active : run.state = .active) :
      RunMove run (successor run RunEvent.planningReceiptObserved.text
        { run with planningReceipts := run.planningReceipts ++ [receipt] })

/-- The owner operations with their arguments. -/
inductive RunOp where
  | transition (target : LoopRunState)
  | startTurn
  | accumulate (members : List VisibilityMember)
  | prepare (manifest : VisibilityManifest)
  | emit
  | replaceUnemitted (proof : NoExposureProof)
  | capture (raw : Bytes) (receipt : String)
  | reject (reason : String)
  | acceptTools (response : Continue)
  | terminalTool (callId result : String)
  | complete (response : Complete)
  | observeReceipt (receipt : LocalPlanningReceipt)

def RunOp.apply (run : RunRecord) : RunOp → Looping RunRecord
  | .transition target => AgentLoop.transition run target
  | .startTurn => AgentLoop.startTurn run
  | .accumulate members => AgentLoop.accumulate run members
  | .prepare manifest => AgentLoop.prepare run manifest
  | .emit => AgentLoop.emit run
  | .replaceUnemitted proof => AgentLoop.replaceUnemitted run proof
  | .capture raw receipt => AgentLoop.capture run raw receipt
  | .reject reason => AgentLoop.reject run reason
  | .acceptTools response => AgentLoop.acceptTools run response
  | .terminalTool callId result => AgentLoop.terminalTool run callId result
  | .complete response => AgentLoop.complete run response
  | .observeReceipt receipt => AgentLoop.observeReceipt run receipt

theorem transition_move {target : LoopRunState}
    (returned : transition run target = .ok record) : RunMove run record := by
  simp only [transition, bind_ok, raiseIf_ok, pure_ok, not_not] at returned
  obtain ⟨_, edge, _, _, rfl⟩ := returned
  exact .transition edge

theorem startTurn_move (returned : startTurn run = .ok record) :
    RunMove run record := by
  simp only [startTurn, bind_ok, raiseIf_ok, not_not] at returned
  obtain ⟨_, active, _, continued, returned⟩ := returned
  split at returned
  · obtain rfl := pure_ok.mp returned
    exact .suspend active
  · rename_i within
    obtain rfl := pure_ok.mp returned
    exact .start active continued (fun kind => Nat.not_lt.mp (fun exceeded => within ⟨kind, exceeded⟩))

theorem accumulate_move {members : List VisibilityMember}
    (returned : accumulate run members = .ok record) : RunMove run record := by
  simp only [accumulate, bind_ok, raiseIf_ok, pure_ok, not_or, not_not] at returned
  obtain ⟨turn, current, _, ⟨unsent, preparing⟩, final, folded, rfl⟩ := returned
  obtain ⟨active, front, turns⟩ := currentTurn_ok.mp current
  rw [withTurn_eq turns]
  exact .turn active turns (.accumulate unsent preparing folded)

theorem prepare_move {manifest : VisibilityManifest}
    (returned : prepare run manifest = .ok record) : RunMove run record := by
  simp only [prepare, bind_ok, raiseIf_ok, pure_ok, not_or, not_not] at returned
  obtain ⟨turn, current, _, ⟨preparing, unsent, _⟩, _, ⟨members, _, _, _, _, _, first⟩, joined,
    join, _, same, _, _, _, closed, _, _, rfl⟩ := returned
  obtain ⟨active, front, turns⟩ := currentTurn_ok.mp current
  rw [withTurn_eq turns]
  exact .turn active turns (.prepare unsent preparing members first (same ▸ join) closed)

theorem emit_move (returned : emit run = .ok record) :
    RunMove run record := by
  simp only [emit, bind_ok, currentAttempt_ok] at returned
  obtain ⟨attempt, ⟨turn, early, current, selects⟩, returned⟩ := returned
  simp only [withAttempt, current, ok_bind, pure_ok, selects.withAttempt] at returned
  obtain ⟨active, front, turns⟩ := currentTurn_ok.mp current
  rw [← returned, withTurn_eq turns]
  refine .turn active turns ?_
  apply TurnMove.emit selects

theorem replaceUnemitted_move {proof : NoExposureProof}
    (returned : replaceUnemitted run proof = .ok record) : RunMove run record := by
  simp only [replaceUnemitted, bind_ok, raiseIf_ok, pure_ok, currentAttempt_ok, not_exists,
    not_and, Nat.not_lt] at returned
  obtain ⟨attempt, ⟨turn, early, current, selects⟩, _, again, _, _, _, retries, rfl⟩ := returned
  obtain rfl := Except.ok.inj (current.symm.trans again)
  obtain ⟨active, front, turns⟩ := currentTurn_ok.mp current
  rw [withTurn_eq turns]
  refine .turn active turns ?_
  apply TurnMove.replace selects retries

theorem capture_move {raw : Bytes} {receipt : String}
    (returned : capture run raw receipt = .ok record) : RunMove run record := by
  obtain ⟨front, turn, early, attempt, head, attemptHead, active, turns, selects, rfl⟩ :=
    capture_record returned
  exact .turn active turns (.capture selects)

theorem reject_move {reason : String}
    (returned : reject run reason = .ok record) : RunMove run record := by
  obtain ⟨front, turn, early, attempt, head, attemptHead, active, turns, selects, rfl⟩ :=
    reject_record returned
  exact .turn active turns (.reject selects)

theorem acceptTools_move {response : Continue}
    (returned : acceptTools run response = .ok record) : RunMove run record := by
  simp only [acceptTools, bind_ok, raiseIf_ok, pure_ok, currentAttempt_ok, differsFromCaptured_ok,
    Nat.not_lt] at returned
  obtain ⟨attempt, ⟨turn, early, current, selects⟩, _, ⟨raw, captured, parsed⟩, _, bounded, _, _, _,
    _, updated, stepped, next, selected, original, again, rfl⟩ := returned
  obtain rfl := Except.ok.inj (current.symm.trans again)
  obtain ⟨_, head, rfl⟩ := withAttempt_ok current stepped selected
  obtain ⟨active, front, turns⟩ := currentTurn_ok.mp current
  rw [withTurn_eq turns, selects.withAttempt]
  refine .turn active turns ?_
  apply TurnMove.accept selects captured parsed bounded

theorem terminalTool_move {callId result : String}
    (returned : terminalTool run callId result = .ok record) : RunMove run record := by
  obtain ⟨turn, calls, index, outcome, current, sealedCalls, _, found, initialized, rfl⟩ :=
    terminalTool_ok.mp returned
  obtain ⟨active, front, turns⟩ := currentTurn_ok.mp current
  rw [withTurn_eq turns]
  exact .turn active turns (.terminalTool sealedCalls found initialized)

theorem complete_move {response : Complete}
    (returned : complete run response = .ok record) : RunMove run record := by
  simp only [complete, bind_ok, pure_ok, currentAttempt_ok, differsFromCaptured_ok] at returned
  obtain ⟨attempt, ⟨turn, early, current, selects⟩, _, ⟨raw, captured, parsed⟩, _, _, deliveries,
    folded, updated, stepped, next, selected, rfl⟩ := returned
  obtain ⟨front', head, rfl⟩ := withAttempt_ok current stepped selected
  obtain ⟨active, front, turns⟩ := currentTurn_ok.mp current
  rw [front', turns, List.dropLast_concat, selects.withAttempt]
  apply RunMove.complete active turns selects captured parsed folded

theorem observeReceipt_move {receipt : LocalPlanningReceipt}
    (returned : observeReceipt run receipt = .ok record) : RunMove run record := by
  simp only [observeReceipt, bind_ok, raiseIf_ok, pure_ok, not_not] at returned
  obtain ⟨_, active, _, _, _, _, rfl⟩ := returned
  exact .receipt active

theorem RunOp.apply_move {op : RunOp}
    (returned : op.apply run = .ok record) : RunMove run record := by
  cases op with
  | transition => exact transition_move returned
  | startTurn => exact startTurn_move returned
  | accumulate => exact accumulate_move returned
  | prepare => exact prepare_move returned
  | emit => exact emit_move returned
  | replaceUnemitted => exact replaceUnemitted_move returned
  | capture => exact capture_move returned
  | reject => exact reject_move returned
  | acceptTools => exact acceptTools_move returned
  | terminalTool => exact terminalTool_move returned
  | complete => exact complete_move returned
  | observeReceipt => exact observeReceipt_move returned

/-- One successful call of an operation. -/
structure RunStep where
  previous : RunRecord
  op : RunOp
  record : RunRecord

/-- A valid genesis and successful operations after it, with arbitrary arguments. -/
inductive OwnerRun : List RunStep → RunRecord → Prop where
  | genesis {run : RunRecord} (valid : validateRecord none run none = .ok ()) : OwnerRun [] run
  | step {steps : List RunStep} {run record : RunRecord} {op : RunOp} (before : OwnerRun steps run)
      (returned : op.apply run = .ok record) : OwnerRun (steps ++ [⟨run, op, record⟩]) record

theorem validateRecord_none_ok {record : RunRecord}
    {expanded : Option (RunRecord → Looping RunRecord)} {value : Unit}
    (valid : validateRecord none record expanded = .ok value) : record.turns = [] ∧
      record.deliveries = [] ∧ record.acceptedText = [] ∧
      record.acceptedDeliveryBinding = .legacyR13 := by
  simp only [validateRecord, bind_ok, raiseIf_ok, validateGenesis, not_or, not_not] at valid
  obtain ⟨_, _, _, _, _, turns, deliveries, acceptedText, _, legacy⟩ := valid
  exact ⟨turns, deliveries, acceptedText, legacy⟩

end Moves

section Sample

variable [Hashlib]

/-- A small Run that is started, shown three members and prepared under a worker session. -/
def sampleGenesis : RunRecord :=
  let draft : RunRecord :=
    { tenant := "tenant"
      principal := "principal"
      runId := "run"
      state := .created
      head := "pending"
      predecessor := none
      prompt := "prompt"
      policy := ⟨none, .maxTurns, 16, 65536, 65536, 8, some 3⟩
      origin :=
        { kind := .originExact
          ingressBindingHead := ⟨"ingress", by decide⟩
          endpointHead := ⟨"endpoint", by decide⟩
          endpointId := ⟨"endpoint", by decide⟩
          provider := .localCli
          recipient := ⟨"recipient", by decide⟩
          canonicalAddress := ⟨"address", by decide⟩
          credentialBindingHead := ⟨"credential", by decide⟩ }
      contourHead := "contour"
      policyHead := "policy"
      workerSession := "owner"
      rootBinding := .notApplicable
      acceptedDeliveryBinding := .legacyR13
      turns := []
      deliveries := []
      acceptedText := []
      planningReceipts := []
      event := "RunCreated" }
  { draft with head := contentHead draft }

def sampleActive : RunRecord :=
  successor sampleGenesis "RunActive" { sampleGenesis with state := .active }

def sampleStarted : RunRecord :=
  successor sampleActive RunEvent.turnStarted.text
    { sampleActive with turns := [openedTurn sampleActive] }

def sampleArtifact : PromptArtifact :=
  { contentHash := "hash"
    libraryVersion := "1"
    generatorVersion := .turnSchema
    tools := registeredTools
    responseSchemaJson := "schema"
    rendered := "context" }

def sampleLabel : DisclosureLabel := ⟨.endpointRestricted, ["endpoint"]⟩

def sampleMember (identity : Identity) (revision provenance : Identity) (content : String)
    (label : DisclosureLabel) : VisibilityMember :=
  { recordId := identity
    revisionHead := revision
    content := content
    provenanceHead := provenance
    labelHead := ⟨"policy", by decide⟩
    label := label
    producer := ⟨"agent_loop", by decide⟩
    surface := identity }

def sampleMembers : List VisibilityMember :=
  [sampleMember ⟨"context", by decide⟩ ⟨"hash", by decide⟩
      ⟨contentHead sampleStarted, contentHead_ne_empty _⟩ "context" sampleLabel,
    sampleMember ⟨"prompt", by decide⟩ ⟨"hash", by decide⟩ ⟨"hash", by decide⟩ "context" sampleLabel,
    sampleMember ⟨"schema", by decide⟩ ⟨digest sampleArtifact, digest_ne_empty _⟩
      ⟨"hash", by decide⟩ "schema" ⟨.unrestricted, []⟩]

def sampleTurn : Turn := { openedTurn sampleActive with accumulator := sampleMembers }

def sampleAccumulated : RunRecord := withTurn sampleStarted sampleTurn .turnVisibilityAccumulated

def sampleManifest (worker : Identity) : VisibilityManifest :=
  { tenant := "tenant"
    principal := "principal"
    contourHead := "contour"
    runId := "run"
    turnId := sampleTurn.turnId
    generation := 0
    workerSession := worker
    members := sampleMembers
    joinedLabel := sampleLabel
    artifact := sampleArtifact }

theorem sample_genesis [Pydantic] : validateRecord none sampleGenesis none = .ok () := by
  have head : ¬ sampleGenesis.head ≠ contentHead sampleGenesis := not_not.mpr rfl
  simp only [validateRecord, raiseIf_neg head, ok_bind]
  rfl

theorem sample_active [Pydantic] :
    RunOp.apply sampleGenesis (.transition .active) = .ok sampleActive := rfl

theorem sample_started [Pydantic] : RunOp.apply sampleActive .startTurn = .ok sampleStarted := rfl

theorem sample_accumulated [Pydantic] :
    RunOp.apply sampleStarted (.accumulate sampleMembers) = .ok sampleAccumulated := by
  rfl

def samplePrepared (worker : Identity) : RunRecord :=
  let turn := { sampleTurn with
    head := RunEvent.turnVisibilityAccumulated.text ++ ":" ++ digest sampleTurn }
  withTurn sampleAccumulated
    { turn with
      attempts := [preparedAttempt sampleAccumulated turn (sampleManifest worker)]
      state := .callActive }
    .modelAttemptPrepared

theorem sample_closed (worker : Identity) :
    visibilityClosure sampleAccumulated (sampleManifest worker) = .ok () := by
  have prompt : surface "prompt" (sampleManifest worker).members = [sampleMember
    ⟨"prompt", by decide⟩ ⟨"hash", by decide⟩ ⟨"hash", by decide⟩ "context" sampleLabel] := rfl
  have schema : surface "schema" (sampleManifest worker).members = [sampleMember
    ⟨"schema", by decide⟩ ⟨digest sampleArtifact, digest_ne_empty _⟩ ⟨"hash", by decide⟩ "schema"
    ⟨.unrestricted, []⟩] := rfl
  have context : surface "context" (sampleManifest worker).members = [sampleMember
    ⟨"context", by decide⟩ ⟨"hash", by decide⟩
    ⟨contentHead sampleStarted, contentHead_ne_empty _⟩ "context" sampleLabel] := rfl
  have label : contextLabel sampleAccumulated = .ok sampleLabel := rfl
  have provenance : sampleAccumulated.predecessor = some (contentHead sampleStarted) := rfl
  have shown : Occurs "context" "context" := List.infix_refl _
  simp only [visibilityClosure, prompt, schema, context, label, ok_bind]
  rw [raiseIf_neg, ok_bind, raiseIf_neg]
  · simp [sampleMember]
  · simp [sampleMember, sampleManifest, sampleArtifact, provenance, shown]

theorem sample_prepared [Pydantic] (worker : Identity) :
    RunOp.apply sampleAccumulated (.prepare (sampleManifest worker)) =
      .ok (samplePrepared worker) := by
  have current : currentTurn sampleAccumulated = .ok { sampleTurn with
    head := RunEvent.turnVisibilityAccumulated.text ++ ":" ++ digest sampleTurn } := rfl
  have live : ¬ ¬ authorizesLive sampleAccumulated sampleLabel := by
    simp [authorizesLive, sampleAccumulated, sampleStarted, sampleActive, sampleGenesis, withTurn]
  have policy : (sampleAccumulated.policy.maxRequestBytes : Nat) = 65536 := rfl
  have lengths : sampleArtifact.rendered.length = 7 ∧
      sampleArtifact.responseSchemaJson.length = 6 := by decide
  have joined : joinLabels (sampleTurn.accumulator.map VisibilityMember.label) = .ok sampleLabel :=
    rfl
  have label : ¬ (sampleManifest worker).joinedLabel ≠ sampleLabel := not_not.mpr rfl
  simp only [RunOp.apply, prepare, current, ok_bind]
  rw [raiseIf_neg, ok_bind, raiseIf_neg, ok_bind, joined, ok_bind, raiseIf_neg label,
    ok_bind, raiseIf_neg live, ok_bind, sample_closed, ok_bind, raiseIf_neg]
  · rfl
  · have size := ModelRequest.text_size (preparedAttempt sampleAccumulated { sampleTurn with
      head := RunEvent.turnVisibilityAccumulated.text ++ ":" ++ digest sampleTurn }
      (sampleManifest worker)).request
    have hashed : (digest (sampleManifest worker)).length = 64 := (sha256 _).hex.1
    have rendered : (sampleManifest worker).artifact = sampleArtifact := rfl
    simp only [preparedAttempt, rendered, lengths, hashed] at size ⊢
    rw [policy]
    omega
  · rintro (differs | differs | differs | differs | differs | differs | differs) <;>
      exact differs rfl
  · rintro (differs | differs | empty)
    · exact differs rfl
    · exact differs rfl
    · cases empty

/-- The steps up to the prepared attempt. -/
def sampleSteps (worker : Identity) : List RunStep :=
  [⟨sampleGenesis, .transition .active, sampleActive⟩,
    ⟨sampleActive, .startTurn, sampleStarted⟩,
    ⟨sampleStarted, .accumulate sampleMembers, sampleAccumulated⟩,
    ⟨sampleAccumulated, .prepare (sampleManifest worker), samplePrepared worker⟩]

theorem sample_run [Pydantic] (worker : Identity) :
    OwnerRun (sampleSteps worker) (samplePrepared worker) :=
  ((((OwnerRun.genesis sample_genesis).step sample_active).step sample_started).step
    sample_accumulated).step (sample_prepared worker)

end Sample

end Chiplog.AgentLoop
