import Chiplog.AgentLoop.RunSteps
import Chiplog.Data.Sha256

namespace Chiplog.AgentLoop

open Chiplog.Data

/-! Producer and validator.

The validator sees only the stored record; for every operation but one the arguments it
rebuilds lead to the same record again. -/

namespace Accumulation

/-- The dictionary holds exactly the listed members, under distinct identities. -/
structure Valid (state : Accumulation) : Prop where
  stored : ∀ identity member, state.previous.get? identity = some member ↔
    member ∈ state.result ∧ member.recordId = identity
  distinct : (state.result.map VisibilityMember.recordId).Nodup

theorem Valid.fresh {state : Accumulation} (valid : state.Valid) {member : VisibilityMember} :
    state.previous.get? member.recordId = none ↔
      member.recordId ∉ state.result.map VisibilityMember.recordId := by
  constructor
  · intro absent found
    obtain ⟨other, listed, same⟩ := List.mem_map.mp found
    rw [(valid.stored _ _).mpr ⟨listed, same⟩] at absent
    cases absent
  · intro absent
    cases known : state.previous.get? member.recordId with
    | none => rfl
    | some other =>
        obtain ⟨listed, same⟩ := (valid.stored _ _).mp known
        exact absurd (List.mem_map.mpr ⟨other, listed, same⟩) absent

/-- A new member is appended. -/
theorem Valid.snoc {state : Accumulation} (valid : state.Valid) {member : VisibilityMember}
    (fresh : member.recordId ∉ state.result.map VisibilityMember.recordId) :
    Valid ⟨state.previous.set member.recordId member, state.result ++ [member]⟩ := by
  refine ⟨?_, ?_⟩
  · intro identity other
    rw [Dict.get?_set]
    by_cases same : identity = member.recordId
    · subst same
      rw [if_pos rfl, Option.some.injEq]
      constructor
      · rintro rfl
        exact ⟨by simp, rfl⟩
      · rintro ⟨listed, identical⟩
        rcases List.mem_append.mp listed with old | new
        · exact absurd (List.mem_map.mpr ⟨other, old, identical⟩) fresh
        · exact (List.mem_singleton.mp new).symm
    · rw [if_neg same, valid.stored]
      constructor
      · rintro ⟨listed, identical⟩
        exact ⟨List.mem_append_left _ listed, identical⟩
      · rintro ⟨listed, identical⟩
        rcases List.mem_append.mp listed with old | new
        · exact ⟨old, identical⟩
        · exact absurd (List.mem_singleton.mp new ▸ identical.symm) same
  · rw [List.map_append, List.map_singleton]
    exact valid.distinct.append (List.nodup_singleton _) (by simpa using fresh)

theorem valid_start {members : List VisibilityMember}
    (distinct : (members.map VisibilityMember.recordId).Nodup) :
    Valid ⟨Dict.ofRows VisibilityMember.recordId id members, members⟩ := by
  induction members using List.reverseRecOn with
  | nil => exact ⟨by simp [Dict.ofRows], .nil⟩
  | append_singleton members member ih =>
      rw [List.map_append, List.map_singleton] at distinct
      have earlier := ih (List.Nodup.of_append_left distinct)
      rw [Dict.ofRows_append_singleton]
      exact earlier.snoc (fun found => (List.disjoint_of_nodup_append distinct) found (by simp))

end Accumulation

/-- Accumulating extends the list and keeps the identities distinct. -/
theorem accumulateMember_fold {members : List VisibilityMember} {start final : Accumulation}
    (valid : start.Valid) (folded : members.foldlM accumulateMember start = .ok final) :
    final.Valid ∧ start.result <+: final.result := by
  apply foldlM_invariant (fun _ state => state.Valid ∧ start.result <+: state.result) ?_ ?_ folded
  · exact ⟨valid, List.prefix_refl _⟩
  · rintro _ member state next ⟨sofar, longer⟩ step
    unfold accumulateMember at step
    split at step
    · simp only [bind_ok, pure_ok] at step
      obtain ⟨_, _, rfl⟩ := step
      exact ⟨sofar, longer⟩
    · rename_i absent
      obtain rfl := pure_ok.mp step
      exact ⟨sofar.snoc (sofar.fresh.mp absent), longer.trans (List.prefix_append _ _)⟩

theorem accumulateMember_known {members : List VisibilityMember} {state : Accumulation}
    (valid : state.Valid) (known : ∀ member ∈ members, member ∈ state.result) :
    members.foldlM accumulateMember state = .ok state := by
  induction members with
  | nil => rfl
  | cons member rest ih =>
      have stored := (valid.stored _ member).mpr ⟨known member List.mem_cons_self, rfl⟩
      have step : accumulateMember state member = .ok state := by
        simp only [accumulateMember, stored, raiseIf_neg (not_not.mpr rfl), ok_bind]
        rfl
      rw [List.foldlM_cons, step, ok_bind]
      exact ih (fun other member => known other (List.mem_cons_of_mem _ member))

theorem accumulateMember_new {members : List VisibilityMember} {state : Accumulation}
    (valid : state.Valid)
    (distinct : ((state.result ++ members).map VisibilityMember.recordId).Nodup) :
    ∃ final, members.foldlM accumulateMember state = .ok final ∧
      final.result = state.result ++ members := by
  induction members generalizing state with
  | nil => exact ⟨state, rfl, (List.append_nil _).symm⟩
  | cons member rest ih =>
      have fresh : member.recordId ∉ state.result.map VisibilityMember.recordId := by
        intro found
        rw [List.map_append] at distinct
        exact (List.disjoint_of_nodup_append distinct) found (by simp)
      have step : accumulateMember state member =
          .ok ⟨state.previous.set member.recordId member, state.result ++ [member]⟩ := by
        simp only [accumulateMember, valid.fresh.mpr fresh]
        rfl
      rw [List.foldlM_cons, step, ok_bind]
      obtain ⟨final, run, same⟩ := ih (valid.snoc fresh) (by simpa using distinct)
      exact ⟨final, run, by simpa using same⟩

/-- Accumulating the whole result again gives the same result. -/
theorem accumulateMember_again {members : List VisibilityMember} {start final : Accumulation}
    (valid : start.Valid) (folded : members.foldlM accumulateMember start = .ok final) :
    ∃ again, final.result.foldlM accumulateMember start = .ok again ∧
      again.result = final.result := by
  obtain ⟨finalValid, added, whole⟩ := accumulateMember_fold valid folded
  rw [← whole, List.foldlM_append, accumulateMember_known valid (fun _ member => member), ok_bind]
  apply accumulateMember_new valid
  rw [whole]
  exact finalValid.distinct

/-- The invariant of the Runs that the owner produces. -/
structure RunRecord.Owned (run : RunRecord) : Prop where
  legacy : run.acceptedDeliveryBinding = .legacyR13
  distinct : ∀ turn ∈ run.turns, (turn.accumulator.map VisibilityMember.recordId).Nodup

/-- Only the changed position of a list differs from the list before. -/
theorem zip_set_changed [DecidableEq α] {items : List α} {index : Nat} {item next : α}
    (found : items[index]? = some item) (changed : item ≠ next) :
    (items.zip (items.set index next)).filter (fun pair => pair.1 ≠ pair.2) = [(item, next)] := by
  have same : ∀ rest : List α, (rest.zip rest).filter (fun pair => pair.1 ≠ pair.2) = [] := by
    intro rest
    induction rest with
    | nil => rfl
    | cons first rest ih => simpa using ih
  induction items generalizing index with
  | nil => cases found
  | cons first rest ih =>
      cases index with
      | zero =>
          obtain rfl : first = item := by simpa using found
          simpa [changed] using same rest
      | succ index => simpa using ih (by simpa using found)

theorem currentTurn_withTurn [Hashlib] {run : RunRecord} {last turn : Turn} {event : RunEvent}
    (current : currentTurn run = .ok last) : currentTurn (withTurn run turn event) =
      .ok { turn with head := event.text ++ ":" ++ digest turn } := by
  obtain ⟨active, front, turns⟩ := currentTurn_ok.mp current
  rw [withTurn_eq turns]
  exact currentTurn_ok.mpr ⟨active, front, rfl⟩

theorem advancedCall_ok {run record : RunRecord} {old new : Turn} {calls : List ToolOutcome}
    {index : Nat} {outcome : ToolOutcome} {result : String} (current : currentTurn run = .ok old)
    (next : currentTurn record = .ok new) (sealedCalls : old.sealedCalls = some calls)
    (found : calls[index]? = some outcome) (initialized : outcome.state = .initialized)
    (advanced : new.sealedCalls = some (calls.set index
      { outcome with state := .terminal, result := some result })) :
    advancedCall run record =
      .ok ({ outcome with state := .terminal, result := some result }, result) := by
  have changed : outcome ≠ { outcome with state := .terminal, result := some result } := by
    intro same
    have state := congrArg ToolOutcome.state same
    rw [initialized] at state
    cases state
  simp only [advancedCall, current, next, ok_bind, sealedCalls, advanced, List.length_set,
    raiseIf_neg (not_not.mpr rfl), zip_set_changed found changed]
  rfl

section Agreement

variable [Hashlib] [pydantic : Pydantic] {run record : RunRecord}

theorem TurnMove.distinct {run : RunRecord} {turn next : Turn} (move : TurnMove run turn next)
    (distinct : (turn.accumulator.map VisibilityMember.recordId).Nodup) :
    (next.accumulator.map VisibilityMember.recordId).Nodup := by
  cases move with
  | accumulate _ _ folded =>
      exact (accumulateMember_fold (Accumulation.valid_start distinct) folded).1.distinct
  | _ => exact distinct

theorem RunMove.owned (move : RunMove run record) (owned : run.Owned) :
    record.Owned := by
  have same : ∀ {front : List Turn} {turn next : Turn}, run.turns = front ++ [turn] →
      (next.accumulator.map VisibilityMember.recordId).Nodup → ∀ other ∈ front ++ [next],
        (other.accumulator.map VisibilityMember.recordId).Nodup := by
    intro front turn next turns distinct other member
    rcases List.mem_append.mp member with before | last
    · exact owned.distinct other (turns ▸ List.mem_append_left _ before)
    · exact List.mem_singleton.mp last ▸ distinct
  cases move with
  | transition => exact ⟨owned.legacy, owned.distinct⟩
  | suspend => exact ⟨owned.legacy, owned.distinct⟩
  | receipt => exact ⟨owned.legacy, owned.distinct⟩
  | start =>
      refine ⟨owned.legacy, ?_⟩
      intro turn member
      rcases List.mem_append.mp member with before | last
      · exact owned.distinct turn before
      · rw [List.mem_singleton.mp last]
        exact .nil
  | turn active turns move =>
      have last := owned.distinct _ (turns ▸ List.mem_concat_self)
      exact ⟨owned.legacy, same turns (move.distinct last)⟩
  | complete active turns =>
      have last := owned.distinct _ (turns ▸ List.mem_concat_self)
      exact ⟨owned.legacy, same turns last⟩

theorem RunMove.head (move : RunMove run record) :
    record.head = contentHead record := by
  cases move <;> exact successor_head _ _ _

/-- The validator accepts a record exactly when it derives the same one again. -/
theorem validateRecord_iff {event : RunEvent} (owned : run.Owned)
    (move : RunMove run record) (named : record.event = event.text) :
    validateRecord (some run) record none = .ok () ↔
      expectedRecord run record none event = .ok record := by
  have bound : ¬ (record.acceptedDeliveryBinding ≠ .legacyR13 ∧
      record.event ≠ RunEvent.completeAcceptance.text) :=
    fun both => both.1 (move.owned owned).legacy
  simp only [validateRecord, raiseIf_neg (not_not.mpr move.head), ok_bind,
    raiseIf_neg (not_not.mpr owned.legacy), raiseIf_neg bound]
  simp only [named, RunEvent.ofText?_text, bind_ok, raiseIf_ok, not_not]
  constructor
  · rintro ⟨expected, derived, rfl⟩
    exact derived
  · exact fun derived => ⟨record, derived, rfl⟩

/-- The validator derives the record again from what its event names. -/
def Rederived (run record : RunRecord) : Prop :=
  ∃ event : RunEvent, record.event = event.text ∧ expectedRecord run record none event = .ok record

/-- What the validator needs of the state before a step to rebuild the arguments of the step. -/
def RunOp.Recoverable (run : RunRecord) : RunOp → Prop
  | .replaceUnemitted _ => ∀ attempt, currentAttempt run .preparedNotEmitted = .ok attempt →
      attempt.workerSession = run.workerSession
  | _ => True

theorem transition_again {target : LoopRunState}
    (returned : transition run target = .ok record) : Rederived run record := by
  have again := returned
  simp only [transition, bind_ok, raiseIf_ok, pure_ok, not_not] at again
  obtain ⟨_, edge, _, _, rfl⟩ := again
  cases target with
  | active => exact ⟨.runActive, rfl, returned⟩
  | suspended => exact ⟨.runSuspended, rfl, returned⟩
  | aborted => exact ⟨.runAborted, rfl, returned⟩
  | cancelled => exact ⟨.runCancelled, rfl, returned⟩
  | _ => cases state : run.state <;> simp_all [LoopRunState.edges]

theorem startTurn_again (returned : startTurn run = .ok record) :
    Rederived run record := by
  have again := returned
  simp only [startTurn, bind_ok] at again
  obtain ⟨_, _, _, _, again⟩ := again
  split at again
  · obtain rfl := pure_ok.mp again
    exact ⟨.runBudgetSuspended, rfl, returned⟩
  · obtain rfl := pure_ok.mp again
    exact ⟨.turnStarted, rfl, returned⟩

theorem accumulate_again {members : List VisibilityMember}
    (owned : run.Owned) (returned : accumulate run members = .ok record) :
    Rederived run record := by
  simp only [accumulate, bind_ok, pure_ok] at returned
  obtain ⟨turn, current, _, guarded, final, folded, rfl⟩ := returned
  obtain ⟨active, front, turns⟩ := currentTurn_ok.mp current
  have valid := Accumulation.valid_start (owned.distinct turn (turns ▸ List.mem_concat_self))
  obtain ⟨again, refolded, same⟩ := accumulateMember_again valid folded
  refine ⟨.turnVisibilityAccumulated, rfl, ?_⟩
  simp only [expectedRecord, currentTurn_withTurn current, ok_bind, accumulate, current, guarded,
    refolded, same]
  rfl

theorem prepare_again {manifest : VisibilityManifest}
    (returned : prepare run manifest = .ok record) :
    Rederived run record := by
  have again := returned
  simp only [prepare, bind_ok, pure_ok] at again
  obtain ⟨turn, current, _, _, _, _, _, _, _, _, _, _, _, _, _, _, rfl⟩ := again
  refine ⟨.modelAttemptPrepared, rfl, ?_⟩
  simp only [expectedRecord, currentTurn_withTurn current, ok_bind]
  exact returned

theorem capture_again {raw : Bytes} {receipt : String}
    (returned : capture run raw receipt = .ok record) :
    Rederived run record := by
  obtain ⟨front, turn, early, attempt, head, attemptHead, active, turns, selects, rfl⟩ :=
    capture_record returned
  refine ⟨.modelResponseCaptured, rfl, ?_⟩
  refine bind_ok.mpr ⟨_, currentAttempt_ok.mpr ⟨_, early, currentTurn_ok.mpr ⟨active, front, rfl⟩,
    ⟨rfl, selects.selector, ?_, ?_⟩⟩, returned⟩
  · exact selects.generation
  · rfl

theorem reject_again {reason : String} (returned : reject run reason = .ok record) :
    Rederived run record := by
  obtain ⟨front, turn, early, attempt, head, attemptHead, active, turns, selects, rfl⟩ :=
    reject_record returned
  refine ⟨.modelResponseRejected, rfl, ?_⟩
  refine bind_ok.mpr ⟨_, currentAttempt_ok.mpr ⟨_, early, currentTurn_ok.mpr ⟨active, front, rfl⟩,
    ⟨rfl, selects.selector, ?_, ?_⟩⟩, returned⟩
  · exact selects.generation
  · rfl

theorem acceptTools_again (lawful : pydantic.Lawful) {response : Continue}
    (returned : acceptTools run response = .ok record) :
    Rederived run record := by
  have again := returned
  simp only [acceptTools, bind_ok, differsFromCaptured_ok] at again
  obtain ⟨attempt, current, _, ⟨raw, captured, parsed⟩, _, _, _, _, _, _, _, _, _, _, _, _, named⟩ :=
    again
  have read := parseCapturedResponse_continuation lawful parsed
  refine ⟨.modelResponseReceived, (congrArg RunRecord.event (pure_ok.mp named)).symm, ?_⟩
  simp only [expectedRecord, current, ok_bind, captured_ok.mpr captured, validated_ok.mpr read]
  exact returned

theorem complete_again (lawful : pydantic.Lawful) {response : Complete}
    (owned : run.Owned) (returned : complete run response = .ok record) :
    Rederived run record := by
  have legacy := ((complete_move returned).owned owned).legacy
  have again := returned
  simp only [complete, bind_ok, differsFromCaptured_ok] at again
  obtain ⟨attempt, current, _, ⟨raw, captured, parsed⟩, _, _, _, _, _, _, _, _, named⟩ := again
  have read := parseCapturedResponse_completion lawful parsed
  refine ⟨.completeAcceptance, (congrArg RunRecord.event (pure_ok.mp named)).symm, ?_⟩
  simp only [expectedRecord, current, ok_bind, captured_ok.mpr captured, legacy, ne_eq,
    not_true_eq_false, if_false, validated_ok.mpr read]
  exact returned

theorem terminalTool_again {callId result : String}
    (returned : terminalTool run callId result = .ok record) :
    Rederived run record := by
  obtain ⟨turn, calls, index, outcome, current, sealedCalls, indices, found, initialized, rfl⟩ :=
    terminalTool_ok.mp returned
  have identity : outcome.call.callId.text = callId := by
    have member : index ∈ calls.findIdxs (fun outcome => outcome.call.callId.text = callId) := by
      rw [indices]
      exact List.mem_singleton_self _
    obtain ⟨inside, same⟩ := List.getElem?_eq_some_iff.mp found
    rw [List.mem_findIdxs_iff_pos_getElem inside, same, decide_eq_true_eq] at member
    exact member
  refine ⟨.toolTerminal, rfl, ?_⟩
  refine bind_ok.mpr ⟨({ outcome with state := .terminal, result := some result }, result), ?_, ?_⟩
  · exact advancedCall_ok current (currentTurn_withTurn current) sealedCalls found initialized rfl
  simp only [identity]
  exact returned

theorem observeReceipt_again {receipt : LocalPlanningReceipt}
    (returned : observeReceipt run receipt = .ok record) :
    Rederived run record := by
  have again := returned
  simp only [observeReceipt, bind_ok, pure_ok] at again
  obtain ⟨_, _, _, _, _, _, rfl⟩ := again
  refine ⟨.planningReceiptObserved, rfl, ?_⟩
  simp only [expectedRecord, successor_planningReceipts, List.getLast?_concat]
  exact returned

/-- The proof is rebuilt from the session of the Run, not from that of the attempt. -/
theorem replaceUnemitted_again {proof : NoExposureProof}
    (returned : replaceUnemitted run proof = .ok record) :
    record.event = RunEvent.modelAttemptReplacedWithoutExposure.text ∧
      (expectedRecord run record none .modelAttemptReplacedWithoutExposure = .ok record ↔
        ∀ attempt, currentAttempt run .preparedNotEmitted = .ok attempt →
          attempt.workerSession = run.workerSession) := by
  have again := returned
  simp only [replaceUnemitted, bind_ok, raiseIf_ok, not_or, not_not, pure_ok] at again
  obtain ⟨attempt, current, turn, last, _, ⟨identity, head, runHead, session, hermetic⟩, _, retries,
    rfl⟩ := again
  refine ⟨rfl, ?_⟩
  simp only [expectedRecord, current, ok_bind, Except.ok.injEq, forall_eq']
  constructor
  · intro derived
    simp only [replaceUnemitted, current, ok_bind, bind_ok, raiseIf_ok, not_or, not_not] at derived
    obtain ⟨_, _, _, ⟨_, _, _, same, _⟩, _⟩ := derived
    exact same.symm
  · intro same
    simp only [replaceUnemitted, current, last, ok_bind, same, hermetic, ne_eq, not_true_eq_false,
      or_self, not_false_eq_true, raiseIf_neg, retries]
    rfl

theorem emit_again (returned : emit run = .ok record) :
    Rederived run record := by
  have again := returned
  simp only [emit, bind_ok, withAttempt, pure_ok] at again
  obtain ⟨_, _, _, _, rfl⟩ := again
  exact ⟨.modelAttemptEmitted, rfl, returned⟩

/-- The validator accepts what an operation produced exactly when it can recover the arguments. -/
theorem RunOp.apply_agrees (lawful : pydantic.Lawful) {op : RunOp}
    (owned : run.Owned) (returned : op.apply run = .ok record) :
    validateRecord (some run) record none = .ok () ↔ op.Recoverable run := by
  have move := RunOp.apply_move returned
  have accepted : Rederived run record →
      (validateRecord (some run) record none = .ok () ↔ True) := by
    rintro ⟨event, named, derived⟩
    exact iff_true_intro ((validateRecord_iff owned move named).mpr derived)
  cases op with
  | transition target => exact accepted (transition_again returned)
  | startTurn => exact accepted (startTurn_again returned)
  | accumulate members => exact accepted (accumulate_again owned returned)
  | prepare manifest => exact accepted (prepare_again returned)
  | emit => exact accepted (emit_again returned)
  | replaceUnemitted proof =>
      obtain ⟨named, derived⟩ := replaceUnemitted_again returned
      exact (validateRecord_iff owned move named).trans derived
  | capture raw receipt => exact accepted (capture_again returned)
  | reject reason => exact accepted (reject_again returned)
  | acceptTools response => exact accepted (acceptTools_again lawful returned)
  | terminalTool callId result => exact accepted (terminalTool_again returned)
  | complete response => exact accepted (complete_again lawful owned returned)
  | observeReceipt receipt => exact accepted (observeReceipt_again returned)

theorem OwnerRun.owned {steps : List RunStep} {run : RunRecord} (reached : OwnerRun steps run) :
    run.Owned := by
  induction reached with
  | genesis valid =>
      obtain ⟨turns, _, _, legacy⟩ := validateRecord_none_ok valid
      exact ⟨legacy, by simp [turns]⟩
  | step before returned ih => exact (RunOp.apply_move returned).owned ih

/-- In every run of the owner, the validator accepts all produced records exactly when every
replacement was of an attempt under the worker session of the Run. -/
theorem producer_validator_agree (lawful : pydantic.Lawful) {steps : List RunStep}
    {run : RunRecord} (reached : OwnerRun steps run) :
    (∀ step ∈ steps, validateRecord (some step.previous) step.record none = .ok ()) ↔
      ∀ step ∈ steps, step.op.Recoverable step.previous := by
  induction reached with
  | genesis valid => simp
  | step before returned ih =>
      have last := RunOp.apply_agrees lawful before.owned returned
      simp only [List.forall_mem_append, List.forall_mem_singleton, ih, last]

end Agreement

section Sample

variable [Hashlib]

/-- The attempt of the sample Run, prepared and not emitted. -/
def sampleAttempt (worker : Identity) : ModelAttempt :=
  preparedAttempt sampleAccumulated { sampleTurn with
    head := RunEvent.turnVisibilityAccumulated.text ++ ":" ++ digest sampleTurn }
    (sampleManifest worker)

def sampleNoExposure (worker : Identity) : NoExposureProof :=
  { attemptId := (sampleAttempt worker).attemptId
    attemptHead := (sampleAttempt worker).head
    runHead := (samplePrepared worker).head
    workerSession := worker.text }

theorem sample_attempt (worker : Identity) :
    currentAttempt (samplePrepared worker) .preparedNotEmitted = .ok (sampleAttempt worker) := rfl

theorem sample_replaced [Pydantic] (worker : Identity) : ∃ record,
    RunOp.apply (samplePrepared worker) (.replaceUnemitted (sampleNoExposure worker)) = .ok record := by
  have turn := currentAttempt_ok.mp (sample_attempt worker)
  obtain ⟨turn, _, current, _⟩ := turn
  have proven : ¬ ((sampleNoExposure worker).attemptId ≠ (sampleAttempt worker).attemptId ∨
      (sampleNoExposure worker).attemptHead ≠ (sampleAttempt worker).head ∨
      (sampleNoExposure worker).runHead ≠ (samplePrepared worker).head ∨
      (sampleNoExposure worker).workerSession ≠ (sampleAttempt worker).workerSession ∨
      (sampleAttempt worker).providerContract ≠ .hermetic) := by
    rintro (differs | differs | differs | differs | differs) <;> exact differs rfl
  have retries : ¬ ∃ bound ∈ (samplePrepared worker).policy.maxModelRetries,
      bound < (sampleAttempt worker).generation + 1 := by
    rintro ⟨bound, limit, exceeded⟩
    obtain rfl : 3 = bound := Option.some.inj limit
    exact absurd exceeded (by simp [sampleAttempt, preparedAttempt])
  simp only [RunOp.apply, replaceUnemitted, sample_attempt, current, ok_bind, raiseIf_neg proven,
    raiseIf_neg retries]
  exact ⟨_, rfl⟩

/-- The prepared attempt is emitted, answered and rejected. -/
theorem sample_rejected [Pydantic] (worker : Identity) : ∃ emitted captured rejected,
    RunOp.apply (samplePrepared worker) .emit = .ok emitted ∧
      RunOp.apply emitted (.capture [1] "receipt") = .ok captured ∧
      RunOp.apply captured (.reject "invalid") = .ok rejected ∧
      ∀ record ∈ [emitted, captured, rejected], record.acceptedDeliveryBinding = .legacyR13 := by
  refine ⟨_, _, _, rfl, rfl, rfl, ?_⟩
  simp only [List.mem_cons, List.not_mem_nil, or_false]
  rintro record (rfl | rfl | rfl) <;> rfl

/-- Every step of the sample is recoverable if the attempt is under the session of the Run. -/
theorem sample_recoverable (worker : Identity) (record : RunRecord)
    (same : worker.text = "owner") : ∀ step ∈ sampleSteps worker ++
      [⟨samplePrepared worker, .replaceUnemitted (sampleNoExposure worker), record⟩],
      step.op.Recoverable step.previous := by
  intro step member
  rcases List.mem_append.mp member with early | last
  · simp only [sampleSteps, List.mem_cons, List.not_mem_nil, or_false] at early
    rcases early with rfl | rfl | rfl | rfl <;> trivial
  · rw [List.mem_singleton.mp last]
    intro attempt current
    rw [sample_attempt] at current
    cases current
    exact same

end Sample

/-- A model that never answers; the sample runs end before any response is read. -/
@[reducible] def silentModel : Pydantic where
  responseSchema := fun _ => ""
  deliverySchema := fun _ => ""
  validateResponse := fun _ _ => none
  validateDelivery := fun _ _ => none
  validateContinue := fun _ => none
  validateComplete := fun _ => none

theorem silentModel_lawful : silentModel.Lawful := ⟨nofun, nofun, nofun⟩

theorem producer_validator_agree_sample :
    letI := Sha256.hashlib
    letI := silentModel
    ∃ steps run, OwnerRun steps run ∧ steps.length = 5 ∧
      ∀ step ∈ steps, validateRecord (some step.previous) step.record none = .ok () := by
  let _ := Sha256.hashlib
  let _ := silentModel
  obtain ⟨record, replaced⟩ := sample_replaced ⟨"owner", by decide⟩
  have reached := (sample_run ⟨"owner", by decide⟩).step replaced
  exact ⟨_, record, reached, rfl, (producer_validator_agree silentModel_lawful reached).mpr
    (sample_recoverable _ record rfl)⟩

/-- The attempt was prepared under another session than that of the Run, and the owner replaced
it; the validator rejects the replacement. -/
theorem replacement_rejected :
    letI := Sha256.hashlib
    letI := silentModel
    ∃ steps run, OwnerRun steps run ∧
      ¬ ∀ step ∈ steps, validateRecord (some step.previous) step.record none = .ok () := by
  let _ := Sha256.hashlib
  let _ := silentModel
  obtain ⟨record, replaced⟩ := sample_replaced ⟨"worker", by decide⟩
  have before := sample_run ⟨"worker", by decide⟩
  refine ⟨_, record, before.step replaced, ?_⟩
  intro accepted
  have recoverable := (RunOp.apply_agrees silentModel_lawful before.owned replaced).mp
    (accepted _ List.mem_concat_self)
  exact absurd (recoverable _ (sample_attempt _)) (by decide)

end Chiplog.AgentLoop
