import Chiplog.AgentLoop.ExecutionTransitions
import Chiplog.AgentLoop.RunAgreement

namespace Chiplog.AgentLoop

open Chiplog.Data Chiplog.Effects

/-! The Turn budget of the two runtimes.

The owner spends a budget only under `MAX_TURNS`; the executable client compares the same
number under every kind. -/

/-- What the owner does when a Turn would exceed the budget. -/
def BudgetPolicy.Exhausted (policy : BudgetPolicy) (turns : Nat) : Prop :=
  policy.kind = .maxTurns ∧ policy.maxTurns < turns + 1

/-- The same Run in both runtimes, each ready for its next Turn. -/
structure SameContinuation [Hashlib] [Pydantic] (run : ExecutionRunRecord version)
    (owner : RunRecord) : Prop where
  tenant : owner.tenant = run.tenant.text
  principal : owner.principal = run.principal.text
  runId : owner.runId = run.runId.text
  policy : owner.policy = run.policy
  turns : owner.turns.length = run.turns.length
  current : run.head = selfHead run
  continues : run.Continues
  active : owner.state = .active
  closed : continuation owner.turns = .ok ()

section Budget

variable [Hashlib] [Pydantic]

/-- The client refuses to continue because of the budget. -/
def RefusesForBudget (run : ExecutionRunRecord version) : Prop :=
  continueTurn run = .error budgetExhausted

/-- The owner suspends the Run instead of starting its next Turn. -/
def SuspendsForBudget (owner : RunRecord) : Prop :=
  ∃ suspended, startTurn owner = .ok suspended ∧ suspended.state = .suspended

omit [Pydantic] in
theorem refusesForBudget_iff {run : ExecutionRunRecord version} (self : run.head = selfHead run)
    (continues : run.Continues) : RefusesForBudget run ↔ run.policy.maxTurns ≤ run.turns.length := by
  have known : current run = .ok run := current_ok.mpr ⟨self, rfl⟩
  have allowed : ¬ ¬ run.Continues := not_not.mpr continues
  rw [RefusesForBudget, continueTurn, known, ok_bind, raiseIf_neg allowed, ok_bind]
  by_cases exhausted : run.policy.maxTurns ≤ run.turns.length
  · rw [raiseIf_pos exhausted]
    exact iff_of_true rfl exhausted
  · rw [raiseIf_neg exhausted, ok_bind]
    refine iff_of_false ?_ exhausted
    intro refused
    cases refused

theorem suspendsForBudget_iff {owner : RunRecord} (active : owner.state = .active)
    (closed : continuation owner.turns = .ok ()) :
    SuspendsForBudget owner ↔ owner.policy.Exhausted owner.turns.length := by
  have running : ¬ owner.state ≠ .active := not_not.mpr active
  rw [SuspendsForBudget, startTurn, raiseIf_neg running, ok_bind, closed, ok_bind]
  by_cases exhausted : owner.policy.kind = .maxTurns ∧
      owner.policy.maxTurns < owner.turns.length + 1
  · simp only [if_pos exhausted]
    exact iff_of_true ⟨_, rfl, rfl⟩ exhausted
  · simp only [if_neg exhausted]
    refine iff_of_false ?_ exhausted
    intro suspends
    obtain ⟨record, started, suspended⟩ := suspends
    obtain rfl := Except.ok.inj started
    -- The started record keeps the state of the Run.
    change owner.state = .suspended at suspended
    rw [active] at suspended
    cases suspended

/-- The client meets the owner's budget under `MAX_TURNS`, and under the other kind only while
its own bound is not reached. -/
theorem turn_budget {run : ExecutionRunRecord version} {owner : RunRecord}
    (same : SameContinuation run owner) :
    ((RefusesForBudget run ↔ SuspendsForBudget owner) ∧
        (RefusesForBudget run ↔ run.policy.Exhausted run.turns.length)) ↔
      run.policy.kind = .maxTurns ∨ run.turns.length < run.policy.maxTurns := by
  have refuses := refusesForBudget_iff same.current same.continues
  have suspends := suspendsForBudget_iff same.active same.closed
  rw [same.policy, same.turns] at suspends
  rw [suspends, and_self, refuses, BudgetPolicy.Exhausted]
  cases run.policy.kind with
  | maxTurns => simp
  | noPolicy => simp

end Budget

section Sample

variable [Hashlib]

def budgetCall : ToolCall :=
  ⟨⟨"call", written _ trivial⟩, .proposeIntent, ⟨"walk", written _ trivial⟩⟩

def budgetResponse : Continue := ⟨⟨[budgetCall], by decide⟩⟩

/-- A validator that knows one response. -/
@[reducible] def budgetModel : Pydantic where
  responseSchema := fun _ => ""
  deliverySchema := fun _ => ""
  validateResponse := fun _ _ => none
  validateDelivery := fun _ _ => none
  validateContinue := fun raw =>
    if raw = (canonicalBytes budgetResponse).items then some budgetResponse else none
  validateComplete := fun _ => none

def budgetAttempt : ModelAttempt :=
  { sampleAttempt ⟨"owner", written _ trivial⟩ with
    state := .terminalAccepted
    response := some (canonicalBytes budgetResponse).items }

def budgetOutcome : ToolOutcome := ⟨budgetCall, .terminal, some "done", none, none⟩

def budgetTurn : Turn :=
  { sampleTurn with
    state := .accepted
    attempts := [budgetAttempt]
    sealedCalls := some [budgetOutcome] }

/-- The owner's Run after one accepted response whose only call is terminal. -/
def budgetOwner (policy : BudgetPolicy) : RunRecord :=
  { sampleActive with
    policy := policy
    turns := [budgetTurn] }

theorem budgetTurn_closed :
    letI := budgetModel
    continuationTurn budgetTurn = .ok () := by
  let _ := budgetModel
  have answered : validated (budgetModel.validateContinue (canonicalBytes budgetResponse).items) =
      .ok budgetResponse := validated_ok.mpr (if_pos rfl)
  have accepted : ¬ (budgetTurn.state ≠ .accepted ∨ budgetTurn.attempts = []) :=
    not_or.mpr ⟨not_not.mpr rfl, List.cons_ne_nil _ _⟩
  have selected : budgetTurn.selected = .ok budgetAttempt := rfl
  have terminal : ¬ budgetAttempt.state ≠ .terminalAccepted := not_not.mpr rfl
  have captured : budgetAttempt.captured "missing immutable accepted response" =
      .ok (canonicalBytes budgetResponse).items := rfl
  change acceptedTurn budgetTurn [budgetOutcome] = .ok ()
  simp only [acceptedTurn, raiseIf_neg accepted, selected, raiseIf_neg terminal, captured, answered,
    ok_bind]
  decide

theorem budgetOwner_closed (policy : BudgetPolicy) :
    letI := budgetModel
    continuation (budgetOwner policy).turns = .ok () := by
  let _ := budgetModel
  refine forEach_ok.mpr ?_
  intro turn member
  rw [List.mem_singleton.mp member]
  exact budgetTurn_closed

def budgetHead : DeliveryHead :=
  ⟨⟨"origin", written _ trivial⟩, ⟨"origin-head", written _ trivial⟩, sha256 []⟩

def budgetSeal : CallSubjectHead :=
  ⟨⟨"seal", written _ trivial⟩, ⟨⟨"record", written _ trivial⟩, sha256 []⟩⟩

/-- The client's Run in the same state. -/
def budgetDraft (policy : BudgetPolicy) : ExecutionRunRecord .v3 :=
  { tenant := ⟨"tenant", written _ trivial⟩
    principal := ⟨"principal", written _ trivial⟩
    runId := ⟨"run", written _ trivial⟩
    state := .active
    head := pending
    predecessor := none
    prompt := ⟨"prompt", written _ trivial⟩
    policy := policy
    origin := ⟨budgetHead, ⟨⟨"provider", written _ trivial⟩, ⟨"account", written _ trivial⟩,
      ⟨"recipient", written _ trivial⟩, budgetHead, [], budgetHead⟩⟩
    contourHead := executionContour
    policyHead := executionPolicy
    workerSession := ⟨"owner", written _ trivial⟩
    rootBinding := .notApplicable
    turns := [headed { (nextTurn ⟨"run", written _ trivial⟩ 0) with
      state := .accepted
      responseSeal := some budgetSeal
      initializedCalls := some [budgetSeal] }]
    deliveryAcceptance := none
    suspensionBaseline := none
    originalObligations := []
    noRetryReferences := []
    event := ⟨"CallsInitialized", written _ trivial⟩ }

def budgetRun (policy : BudgetPolicy) : ExecutionRunRecord .v3 := headed (budgetDraft policy)

theorem budgetRun_head (policy : BudgetPolicy) :
    (budgetRun policy).head = selfHead (budgetRun policy) :=
  (headed_head (budgetDraft policy)).trans (selfHead_headed (budgetDraft policy)).symm

theorem budget_same (policy : BudgetPolicy) :
    letI := budgetModel
    SameContinuation (budgetRun policy) (budgetOwner policy) := by
  let _ := budgetModel
  exact
    { tenant := rfl
      principal := rfl
      runId := rfl
      policy := rfl
      turns := rfl
      current := budgetRun_head policy
      continues := ⟨rfl, _, rfl, ⟨rfl, Option.some_ne_none _, Option.some_ne_none _⟩⟩
      active := rfl
      closed := budgetOwner_closed policy }

end Sample

/-- The client stops after one Turn although the policy sets no budget, and the owner goes on. -/
theorem budget_kind_ignored :
    letI := Sha256.hashlib
    letI := budgetModel
    ¬ ∀ (run : ExecutionRunRecord .v3) (owner : RunRecord), SameContinuation run owner →
      ((RefusesForBudget run ↔ SuspendsForBudget owner) ∧
        (RefusesForBudget run ↔ run.policy.Exhausted run.turns.length)) := by
  let _ := Sha256.hashlib
  let _ := budgetModel
  intro agree
  have same := budget_same ⟨none, .noPolicy, 1, 65536, 65536, 8, some 3⟩
  have refused := (refusesForBudget_iff same.current same.continues).mpr (Nat.le_refl 1)
  have exhausted := (agree _ _ same).2.mp refused
  exact absurd exhausted.1 (by decide)

/-- After the only Turn that `MAX_TURNS` allows both runtimes stop. -/
theorem turn_budget_sample :
    letI := Sha256.hashlib
    letI := budgetModel
    RefusesForBudget (budgetRun ⟨none, .maxTurns, 1, 65536, 65536, 8, some 3⟩) ∧
      SuspendsForBudget (budgetOwner ⟨none, .maxTurns, 1, 65536, 65536, 8, some 3⟩) := by
  let _ := Sha256.hashlib
  let _ := budgetModel
  have same := budget_same ⟨none, .maxTurns, 1, 65536, 65536, 8, some 3⟩
  have refused := (refusesForBudget_iff same.current same.continues).mpr (Nat.le_refl 1)
  have agree := ((turn_budget same).mpr (.inl rfl)).1
  exact ⟨refused, agree.mp refused⟩

end Chiplog.AgentLoop
