import Chiplog.AgentLoop.RunAgreement

namespace Chiplog.AgentLoop

open Chiplog.Data

/-! Chains of validated Run records.

A validated record is the result of an owner operation on its predecessor, so what the
operations keep holds of every chain that starts at a valid genesis. -/

/-- The attempts of a Turn: one generation after the other, only the last one exposed. -/
structure Attempts (policy : BudgetPolicy) (selector : Nat) (attempts : List ModelAttempt) :
    Prop where
  generations : attempts.map ModelAttempt.generation = List.range attempts.length
  selector : selector = attempts.length - 1
  replaced : ∀ attempt ∈ attempts.dropLast, attempt.state = .preparedNotEmitted
  uncaptured : ∀ attempt ∈ attempts,
    attempt.state = .preparedNotEmitted ∨ attempt.state = .emittedOutcomeUnknown →
      attempt.response = none ∧ attempt.receipt = none
  retries : ∀ bound ∈ policy.maxModelRetries, ∀ attempt ∈ attempts, attempt.generation ≤ bound

/-- The selected attempt has not been disposed of. -/
def Turn.Undecided (turn : Turn) : Prop :=
  ∀ attempt ∈ turn.attempts.getLast?,
    attempt.state ≠ .terminalAccepted ∧ attempt.state ≠ .terminalRejected

/-- A call outcome is open or has its result. -/
def ToolOutcome.Settled (outcome : ToolOutcome) : Prop :=
  outcome.state = .initialized ∨ outcome.state = .terminal ∧ outcome.result ≠ none

structure Turn.Sound [Pydantic] (policy : BudgetPolicy) (turn : Turn) : Prop where
  attempts : Attempts policy turn.selector turn.attempts
  unsealed : turn.Undecided → turn.sealedCalls = none
  bounded : ∀ calls, turn.sealedCalls = some calls → calls.length ≤ policy.maxToolCalls
  outcomes : ∀ calls, turn.sealedCalls = some calls → ∀ outcome ∈ calls, outcome.Settled
  accepted : turn.state = .accepted → ∃ attempt raw calls, turn.attempts.getLast? = some attempt ∧
    attempt.response = some raw ∧ turn.sealedCalls = some calls ∧
    ∀ response, parseCapturedResponse raw attempt.manifest.artifact =
      .ok (.continuation response) → calls.map ToolOutcome.call = response.toolCalls.items

structure RunRecord.Sound [Pydantic] (run : RunRecord) : Prop where
  ordinals : run.turns.map (fun turn => (turn.ordinal : Nat)) = List.range' 1 run.turns.length
  turns : ∀ turn ∈ run.turns, turn.Sound run.policy
  bounded : run.policy.kind = .maxTurns → run.turns.length ≤ run.policy.maxTurns
  undelivered : run.state ≠ .succeeded → run.deliveries = [] ∧ run.acceptedText = []

/-- What a later record keeps of an attempt. -/
structure ModelAttempt.Later (old new : ModelAttempt) : Prop where
  generation : new.generation = old.generation
  exposed : old.state ≠ .preparedNotEmitted → new.state ≠ .preparedNotEmitted
  response : ∀ raw, old.response = some raw → new.response = some raw
  receipt : ∀ receipt, old.receipt = some receipt → new.receipt = some receipt

/-- A call keeps its place, and a terminal call keeps its result. -/
structure ToolOutcome.Later (old new : ToolOutcome) : Prop where
  call : new.call = old.call
  terminal : old.state = .terminal → new = old

/-- Position by position, a later list keeps every earlier entry. -/
def Keeps (relation : α → α → Prop) (old new : List α) : Prop :=
  ∀ (index : Nat) (item : α), old[index]? = some item →
    ∃ other, new[index]? = some other ∧ relation item other

structure Turn.Later (old new : Turn) : Prop where
  attempts : Keeps ModelAttempt.Later old.attempts new.attempts
  replaced : ∀ attempt, old.attempts.getLast? = some attempt →
    attempt.state ≠ .preparedNotEmitted → new.attempts.length = old.attempts.length
  calls : ∀ calls, old.sealedCalls = some calls → ∃ others, new.sealedCalls = some others ∧
    others.length = calls.length ∧ Keeps ToolOutcome.Later calls others

/-- How a Run record relates to a later one of its chain. -/
structure RunRecord.Precedes (earlier later : RunRecord) : Prop where
  continues : earlier.state ≠ .succeeded ∧ earlier.state ≠ .aborted ∧ earlier.state ≠ .cancelled
  suspended : earlier.state = .suspended → later.state = .aborted ∨ later.state = .cancelled
  policy : later.policy = earlier.policy
  unchanged : earlier.turns.dropLast <+: later.turns
  turns : Keeps Turn.Later earlier.turns later.turns

section Keeping

variable {relation : α → α → Prop}

theorem Keeps.refl (same : ∀ item, relation item item) (items : List α) : Keeps relation items items :=
  fun _ item found => ⟨item, found, same item⟩

theorem Keeps.trans (compose : ∀ {first second third}, relation first second →
    relation second third → relation first third) {first second third : List α}
    (left : Keeps relation first second) (right : Keeps relation second third) :
    Keeps relation first third := by
  intro index item found
  obtain ⟨middle, here, before⟩ := left index item found
  obtain ⟨last, there, after⟩ := right index middle here
  exact ⟨last, there, compose before after⟩

/-- Only the last entry changed, and more may follow. -/
theorem Keeps.changeLast (same : ∀ item, relation item item) {front : List α} {old new : α}
    (changed : relation old new) (rest : List α) :
    Keeps relation (front ++ [old]) (front ++ new :: rest) := by
  intro index item found
  rcases Nat.lt_trichotomy index front.length with before | here | after
  · rw [List.getElem?_append_left before] at found
    exact ⟨item, by rw [List.getElem?_append_left before, found], same item⟩
  · subst here
    rw [List.getElem?_concat_length] at found
    obtain rfl := Option.some.inj found
    exact ⟨new, by simp, changed⟩
  · rw [List.getElem?_eq_none (by simp; omega)] at found
    cases found

theorem Keeps.length_le {old new : List α} (keeps : Keeps relation old new) :
    old.length ≤ new.length := by
  by_contra shorter
  have inside : new.length < old.length := Nat.not_le.mp shorter
  obtain ⟨_, found, _⟩ := keeps new.length _ (List.getElem?_eq_getElem inside)
  exact Nat.lt_irrefl _ (List.getElem?_eq_some_iff.mp found).1

theorem Keeps.append (same : ∀ item, relation item item) (items rest : List α) :
    Keeps relation items (items ++ rest) := by
  intro index item found
  exact ⟨item, by rw [List.getElem?_append_left (List.getElem?_eq_some_iff.mp found).1, found],
    same item⟩

end Keeping

theorem ModelAttempt.Later.refl (attempt : ModelAttempt) : attempt.Later attempt :=
  ⟨rfl, id, fun _ => id, fun _ => id⟩

theorem ModelAttempt.Later.trans {first second third : ModelAttempt}
    (left : first.Later second) (right : second.Later third) : first.Later third :=
  ⟨right.generation.trans left.generation, fun exposed => right.exposed (left.exposed exposed),
    fun raw stored => right.response raw (left.response raw stored),
    fun receipt stored => right.receipt receipt (left.receipt receipt stored)⟩

theorem ToolOutcome.Later.refl (outcome : ToolOutcome) : outcome.Later outcome :=
  ⟨rfl, fun _ => rfl⟩

theorem ToolOutcome.Later.trans {first second third : ToolOutcome} (left : first.Later second)
    (right : second.Later third) : first.Later third := by
  refine ⟨right.call.trans left.call, fun terminal => ?_⟩
  have same := left.terminal terminal
  exact (right.terminal (same ▸ terminal)).trans same

theorem Turn.Later.refl (turn : Turn) : turn.Later turn :=
  ⟨.refl .refl _, fun _ _ _ => rfl, fun calls found => ⟨calls, found, rfl, .refl .refl _⟩⟩

theorem Turn.Later.trans {first second third : Turn} (left : first.Later second)
    (right : second.Later third) : first.Later third := by
  refine ⟨left.attempts.trans .trans right.attempts, ?_, ?_⟩
  · intro attempt last exposed
    have length := left.replaced attempt last exposed
    -- The selected attempt is still the last one, and still exposed.
    rw [List.getLast?_eq_getElem?] at last
    obtain ⟨middle, found, later⟩ := left.attempts _ attempt last
    rw [← length, ← List.getLast?_eq_getElem?] at found
    exact (right.replaced middle found (later.exposed exposed)).trans length
  · intro calls found
    obtain ⟨middle, here, size, before⟩ := left.calls calls found
    obtain ⟨last, there, same, after⟩ := right.calls middle here
    exact ⟨last, there, same.trans size, before.trans .trans after⟩

theorem RunRecord.Precedes.trans {first second third : RunRecord} (left : first.Precedes second)
    (right : second.Precedes third) : first.Precedes third := by
  refine ⟨left.continues, ?_, right.policy.trans left.policy, ?_, left.turns.trans .trans right.turns⟩
  · intro suspended
    -- Nothing follows the terminal record after a suspension.
    rcases left.suspended suspended with aborted | cancelled
    · exact absurd aborted right.continues.2.1
    · exact absurd cancelled right.continues.2.2
  · have longer := left.turns.length_le
    have inside : first.turns.dropLast <+: second.turns.dropLast := by
      apply List.prefix_of_prefix_length_le left.unchanged (List.dropLast_prefix _)
      rw [List.length_dropLast, List.length_dropLast]
      omega
    exact inside.trans right.unchanged

namespace Attempts

variable {policy : BudgetPolicy} {selector : Nat} {early : List ModelAttempt}
  {attempt : ModelAttempt}

theorem empty (policy : BudgetPolicy) : Attempts policy 0 [] :=
  ⟨rfl, rfl, by simp, by simp, by simp⟩

/-- The selected attempt moves on. -/
theorem changeLast (sound : Attempts policy selector (early ++ [attempt])) {next : ModelAttempt}
    (generation : next.generation = attempt.generation)
    (uncaptured : next.state = .preparedNotEmitted ∨ next.state = .emittedOutcomeUnknown →
      next.response = none ∧ next.receipt = none) : Attempts policy selector (early ++ [next]) where
  generations := by simpa [generation] using sound.generations
  selector := by simpa using sound.selector
  replaced := by simpa using sound.replaced
  uncaptured := by
    intro other member
    rcases List.mem_append.mp member with before | last
    · exact sound.uncaptured other (List.mem_append_left _ before)
    · exact List.mem_singleton.mp last ▸ uncaptured
  retries := by
    intro bound limit other member
    rcases List.mem_append.mp member with before | last
    · exact sound.retries bound limit other (List.mem_append_left _ before)
    · rw [List.mem_singleton.mp last, generation]
      exact sound.retries bound limit attempt (by simp)

/-- An attempt that was never exposed is replaced by the next generation. -/
theorem replace (sound : Attempts policy selector (early ++ [attempt])) {next : ModelAttempt}
    (prepared : attempt.state = .preparedNotEmitted)
    (generation : next.generation = attempt.generation + 1)
    (uncaptured : next.response = none ∧ next.receipt = none)
    (limit : ∀ bound ∈ policy.maxModelRetries, attempt.generation + 1 ≤ bound) :
    Attempts policy (attempt.generation + 1) (early ++ [attempt] ++ [next]) where
  generations := by
    have earlier := sound.generations
    simp only [List.map_append, List.map_cons, List.map_nil, List.length_append,
      List.length_singleton, List.range_succ] at earlier ⊢
    obtain ⟨same, last⟩ := List.append_inj' earlier rfl
    have position : attempt.generation = early.length := by simpa using last
    rw [same, generation, position]
  selector := by
    have earlier := sound.generations
    simp only [List.map_append, List.map_cons, List.map_nil, List.length_append,
      List.length_singleton, List.range_succ] at earlier
    have last := (List.append_inj' earlier rfl).2
    have position : attempt.generation = early.length := by simpa using last
    simp [position]
  replaced := by
    intro other member
    rw [List.dropLast_concat] at member
    rcases List.mem_append.mp member with before | last
    · exact sound.replaced other (by simpa using before)
    · exact List.mem_singleton.mp last ▸ prepared
  uncaptured := by
    intro other member
    rcases List.mem_append.mp member with before | last
    · exact sound.uncaptured other before
    · exact fun _ => List.mem_singleton.mp last ▸ uncaptured
  retries := by
    intro bound found other member
    rcases List.mem_append.mp member with before | last
    · exact sound.retries bound found other before
    · rw [List.mem_singleton.mp last, generation]
      exact limit bound found

end Attempts

theorem Turn.Selects.undecided {turn : Turn} {early : List ModelAttempt} {attempt : ModelAttempt}
    {state : ModelAttemptState} (selects : turn.Selects early attempt state)
    (undecided : state ≠ .terminalAccepted ∧ state ≠ .terminalRejected) : turn.Undecided := by
  intro other last
  rw [selects.attempts, List.getLast?_concat, Option.mem_some_iff] at last
  rw [← last, selects.state]
  exact undecided

/-- The last attempt of an unsealed Turn moved on, and may have been replaced if unexposed. -/
theorem Turn.Selects.later {turn next : Turn} {early rest : List ModelAttempt}
    {attempt changed : ModelAttempt} {state : ModelAttemptState}
    (selects : turn.Selects early attempt state)
    (attempts : next.attempts = early ++ changed :: rest) (later : attempt.Later changed)
    (replaced : state ≠ .preparedNotEmitted → rest = []) (unsealed : turn.sealedCalls = none) :
    turn.Later next := by
  refine ⟨?_, ?_, by simp [unsealed]⟩
  · rw [selects.attempts, attempts]
    exact .changeLast .refl later rest
  · intro other last exposed
    rw [selects.attempts, List.getLast?_concat, Option.some.injEq] at last
    have none := replaced (selects.state ▸ last ▸ exposed)
    rw [attempts, selects.attempts, none, List.length_append, List.length_append]
    rfl

theorem Turn.Sound.ofUnsealed [Pydantic] {policy : BudgetPolicy} {turn : Turn}
    (attempts : Attempts policy turn.selector turn.attempts) (unsealed : turn.sealedCalls = none)
    (state : turn.state ≠ .accepted) : turn.Sound policy where
  attempts := attempts
  unsealed := fun _ => unsealed
  bounded := by simp [unsealed]
  outcomes := by simp [unsealed]
  accepted := fun accepted => absurd accepted state

theorem Turn.Sound.open_of_unsealed [Pydantic] {policy : BudgetPolicy} {turn : Turn}
    (sound : turn.Sound policy) (unsealed : turn.sealedCalls = none) : turn.state ≠ .accepted := by
  intro accepted
  obtain ⟨_, _, calls, _, _, sealedCalls, _⟩ := sound.accepted accepted
  rw [unsealed] at sealedCalls
  cases sealedCalls

theorem map_set_same {f : α → β} {items : List α} {index : Nat} {item next : α}
    (found : items[index]? = some item) (same : f next = f item) :
    (items.set index next).map f = items.map f := by
  obtain ⟨inside, rfl⟩ := List.getElem?_eq_some_iff.mp found
  rw [List.map_set, same, ← List.map_set, List.set_getElem_self]

/-- One call became terminal; the others and its identity stay. -/
theorem Keeps.setCall {calls : List ToolOutcome} {index : Nat} {outcome next : ToolOutcome}
    (found : calls[index]? = some outcome) (call : next.call = outcome.call)
    (initialized : outcome.state = .initialized) :
    Keeps ToolOutcome.Later calls (calls.set index next) := by
  intro position item here
  by_cases same : position = index
  · subst same
    obtain rfl := Option.some.inj (found.symm.trans here)
    refine ⟨next, ?_, call, fun terminal => absurd (initialized.symm.trans terminal) nofun⟩
    rw [List.getElem?_set_self (List.getElem?_eq_some_iff.mp found).1]
  · exact ⟨item, by rw [List.getElem?_set_ne (Ne.symm same), here], .refl _⟩

/-- Replacing the last Turn keeps the chain invariants. -/
theorem RunRecord.Sound.changeLast [Pydantic] {run record : RunRecord} {front : List Turn} {turn next : Turn}
    (sound : run.Sound) (turns : run.turns = front ++ [turn]) (active : run.state = .active)
    (changed : record.turns = front ++ [next]) (policy : record.policy = run.policy)
    (ordinal : next.ordinal = turn.ordinal) (nextSound : next.Sound run.policy)
    (later : turn.Later next)
    (undelivered : record.state ≠ .succeeded → record.deliveries = [] ∧ record.acceptedText = []) :
    record.Sound ∧ run.Precedes record := by
  refine ⟨⟨?_, ?_, ?_, undelivered⟩, ?_, ?_, policy, ?_, ?_⟩
  · have ordinals := sound.ordinals
    rw [turns] at ordinals
    rw [changed]
    simpa [ordinal] using ordinals
  · intro other member
    rw [changed] at member
    rw [policy]
    rcases List.mem_append.mp member with before | last
    · exact sound.turns other (by rw [turns]; exact List.mem_append_left _ before)
    · exact List.mem_singleton.mp last ▸ nextSound
  · intro kind
    rw [policy] at kind ⊢
    have bounded := sound.bounded kind
    rw [turns] at bounded
    rw [changed]
    simpa using bounded
  · simp [active]
  · simp [active]
  · rw [turns, changed, List.dropLast_concat]
    exact List.prefix_append _ _
  · rw [turns, changed]
    exact .changeLast .refl later []

/-- A step that leaves the Turns alone. -/
theorem RunRecord.Sound.sameTurns [Pydantic] {run record : RunRecord} (sound : run.Sound)
    (turns : record.turns = run.turns) (policy : record.policy = run.policy)
    (deliveries : record.deliveries = run.deliveries)
    (acceptedText : record.acceptedText = run.acceptedText)
    (continues : run.state ≠ .succeeded ∧ run.state ≠ .aborted ∧ run.state ≠ .cancelled)
    (suspended : run.state = .suspended → record.state = .aborted ∨ record.state = .cancelled) :
    record.Sound ∧ run.Precedes record := by
  refine ⟨⟨?_, ?_, ?_, ?_⟩, continues, suspended, policy, ?_, ?_⟩
  · rw [turns]
    exact sound.ordinals
  · rw [turns, policy]
    exact sound.turns
  · rw [turns, policy]
    exact sound.bounded
  · rw [deliveries, acceptedText]
    exact fun _ => sound.undelivered continues.1
  · rw [turns]
    exact List.dropLast_prefix _
  · rw [turns]
    exact .refl .refl _

section Steps

variable [Hashlib] [pydantic : Pydantic] {expanded : Option (RunRecord → Looping RunRecord)}

/-- One operation on the last Turn keeps it sound and keeps what was captured and sealed. -/
theorem TurnMove.sound {run : RunRecord} {turn next : Turn} (move : TurnMove run turn next)
    (sound : turn.Sound run.policy) : next.Sound run.policy ∧ turn.Later next := by
  have attempts := sound.attempts
  cases move with
  | accumulate unsent preparing folded =>
      have unsealed := sound.unsealed (by simp [Turn.Undecided, unsent])
      exact ⟨.ofUnsealed attempts unsealed (sound.open_of_unsealed unsealed),
        .refl .refl _, fun _ _ _ => rfl, by simp [unsealed]⟩
  | prepare unsent preparing members first joined closed =>
      have unsealed := sound.unsealed (by simp [Turn.Undecided, unsent])
      have none := attempts.selector
      rw [unsent] at none
      refine ⟨.ofUnsealed ⟨rfl, none, by simp, ?_, ?_⟩ unsealed (by simp), ?_, ?_, by simp [unsealed]⟩
      · simp [preparedAttempt]
      · simp [preparedAttempt]
      · simp [Keeps, unsent]
      · simp [unsent]
  | emit selects =>
      have unsealed := sound.unsealed (selects.undecided (by simp))
      rw [selects.attempts] at attempts
      have fresh := attempts.uncaptured _ List.mem_concat_self (.inl selects.state)
      refine ⟨.ofUnsealed (attempts.changeLast rfl (fun _ => fresh)) unsealed
        (sound.open_of_unsealed unsealed), selects.later rfl ?_ (by simp) unsealed⟩
      exact ⟨rfl, by simp, fun _ => id, fun _ => id⟩
  | replace selects retries =>
      have unsealed := sound.unsealed (selects.undecided (by simp))
      rw [selects.attempts] at attempts
      have fresh := attempts.uncaptured _ List.mem_concat_self (.inl selects.state)
      have replaced := attempts.replace selects.state
        (show (ModelAttempt.replacement _).generation = _ from rfl) fresh retries
      refine ⟨.ofUnsealed (by simpa only [selects.attempts] using replaced) unsealed
        (sound.open_of_unsealed unsealed), ?_⟩
      exact selects.later (by simp [selects.attempts]; rfl) (.refl _) (by simp) unsealed
  | capture selects =>
      have unsealed := sound.unsealed (selects.undecided (by simp))
      rw [selects.attempts] at attempts
      have fresh := attempts.uncaptured _ List.mem_concat_self (.inr selects.state)
      refine ⟨.ofUnsealed (attempts.changeLast rfl (by simp)) unsealed (by simp),
        selects.later rfl ⟨rfl, by simp, ?_, ?_⟩ (by simp) unsealed⟩
      · simp [fresh]
      · simp [fresh]
  | reject selects =>
      have unsealed := sound.unsealed (selects.undecided (by simp))
      rw [selects.attempts] at attempts
      refine ⟨⟨attempts.changeLast rfl (by simp), ?_, by simp, by simp, by simp⟩,
        selects.later rfl ⟨rfl, by simp, fun _ => id, fun _ => id⟩ (by simp) unsealed⟩
      simp [Turn.Undecided]
  | accept selects captured parsed bounded =>
      have unsealed := sound.unsealed (selects.undecided (by simp))
      rw [selects.attempts] at attempts
      refine ⟨⟨attempts.changeLast rfl (by simp), ?_, ?_, ?_, ?_⟩,
        selects.later rfl ⟨rfl, by simp, fun _ => id, fun _ => id⟩ (by simp) unsealed⟩
      · simp [Turn.Undecided]
      · simpa using bounded
      · simp [ToolOutcome.Settled, initializedOutcome]
      · intro _
        refine ⟨_, _, _, List.getLast?_concat, captured, rfl, ?_⟩
        intro response again
        rw [parsed] at again
        cases again
        simp [initializedOutcome, Function.comp_def]
  | terminalTool sealedCalls found initialized =>
      refine ⟨⟨attempts, ?_, ?_, ?_, ?_⟩, .refl .refl _, fun _ _ _ => rfl, ?_⟩
      · intro undecided
        rw [sound.unsealed undecided] at sealedCalls
        cases sealedCalls
      · simpa using sound.bounded _ sealedCalls
      · intro calls same outcome member
        cases same
        rcases List.mem_or_eq_of_mem_set member with old | rfl
        · exact sound.outcomes _ sealedCalls outcome old
        · exact .inr ⟨rfl, by simp⟩
      · intro accepted
        obtain ⟨attempt, raw, calls, last, captured, same, exact⟩ := sound.accepted accepted
        obtain rfl := Option.some.inj (sealedCalls.symm.trans same)
        refine ⟨attempt, raw, _, last, captured, rfl, ?_⟩
        intro response parsed
        refine Eq.trans ?_ (exact response parsed)
        exact map_set_same found rfl
      · intro calls same
        obtain rfl := Option.some.inj (sealedCalls.symm.trans same)
        exact ⟨_, rfl, List.length_set, .setCall found rfl initialized⟩

theorem RunMove.sound {run record : RunRecord} (move : RunMove run record) (sound : run.Sound) :
    record.Sound ∧ run.Precedes record := by
  cases move with
  | transition edge =>
      refine sound.sameTurns rfl rfl rfl rfl ?_ ?_
      · cases state : run.state <;> simp_all [LoopRunState.edges]
      · cases state : run.state <;> simp_all [LoopRunState.edges]
  | suspend active => exact sound.sameTurns rfl rfl rfl rfl (by simp [active]) (by simp [active])
  | receipt active => exact sound.sameTurns rfl rfl rfl rfl (by simp [active]) (by simp [active])
  | start active continued within =>
      refine ⟨⟨?_, ?_, ?_, ?_⟩, by simp [active], by simp [active], rfl, ?_, ?_⟩
      · simp [sound.ordinals, openedTurn, List.range'_concat, Nat.add_comm]
      · intro turn member
        rcases List.mem_append.mp member with before | last
        · exact sound.turns turn before
        · rw [List.mem_singleton.mp last]
          exact .ofUnsealed (.empty _) rfl (by simp [openedTurn])
      · simpa using within
      · exact fun _ => sound.undelivered (by simp [active])
      · exact (List.dropLast_prefix _).trans (List.prefix_append _ _)
      · exact .append .refl _ _
  | turn active turns move =>
      obtain ⟨nextSound, later⟩ := move.sound (sound.turns _ (by simp [turns]))
      refine sound.changeLast turns active rfl rfl ?_ nextSound later ?_
      · cases move <;> rfl
      · exact fun _ => sound.undelivered (by simp [active])
  | complete active turns selects captured parsed folded =>
      have turnSound := sound.turns _ (by rw [turns]; exact List.mem_concat_self)
      have unsealed := turnSound.unsealed (selects.undecided (by simp))
      have attempts := turnSound.attempts
      rw [selects.attempts] at attempts
      refine sound.changeLast turns active rfl rfl rfl ?_ ?_ (fun state => absurd rfl state)
      · refine ⟨attempts.changeLast rfl (by simp), ?_, by simp, by simp, ?_⟩
        · simp [Turn.Undecided]
        · intro _
          refine ⟨_, _, _, List.getLast?_concat, captured, rfl, ?_⟩
          intro response again
          rw [parsed] at again
          cases again
      · exact selects.later rfl ⟨rfl, by simp, fun _ => id, fun _ => id⟩ (by simp) unsealed

/-- A validated record is the result of an owner operation. -/
theorem expectedRecord_op {previous record result : RunRecord} {event : RunEvent}
    (legacy : record.acceptedDeliveryBinding = .legacyR13)
    (expected : expectedRecord previous record expanded event = .ok result) :
    ∃ op : RunOp, op.apply previous = .ok result := by
  cases event with
  | planningReceiptObserved =>
      simp only [expectedRecord] at expected
      split at expected
      · exact ⟨.observeReceipt _, expected⟩
      · cases expected
  | turnStarted => exact ⟨.startTurn, expected⟩
  | runBudgetSuspended => exact ⟨.startTurn, expected⟩
  | turnVisibilityAccumulated =>
      obtain ⟨turn, _, expected⟩ := bind_ok.mp expected
      exact ⟨.accumulate _, expected⟩
  | modelAttemptPrepared =>
      obtain ⟨turn, _, expected⟩ := bind_ok.mp expected
      split at expected
      · exact ⟨.prepare _, expected⟩
      · cases expected
  | modelAttemptEmitted => exact ⟨.emit, expected⟩
  | modelAttemptReplacedWithoutExposure =>
      obtain ⟨attempt, _, expected⟩ := bind_ok.mp expected
      exact ⟨.replaceUnemitted _, expected⟩
  | modelResponseCaptured =>
      obtain ⟨attempt, _, expected⟩ := bind_ok.mp expected
      split at expected
      · exact ⟨.capture _ _, expected⟩
      · cases expected
  | modelResponseRejected =>
      obtain ⟨attempt, _, expected⟩ := bind_ok.mp expected
      split at expected
      · exact ⟨.reject _, expected⟩
      · cases expected
  | modelResponseReceived =>
      simp only [expectedRecord, bind_ok] at expected
      obtain ⟨_, _, _, _, response, _, expected⟩ := expected
      exact ⟨.acceptTools response, expected⟩
  | completeAcceptance =>
      simp only [expectedRecord, legacy, ne_eq, not_true_eq_false, if_false, bind_ok] at expected
      obtain ⟨_, _, _, _, response, _, expected⟩ := expected
      exact ⟨.complete response, expected⟩
  | toolTerminal =>
      obtain ⟨_, _, expected⟩ := bind_ok.mp expected
      exact ⟨.terminalTool _ _, expected⟩
  | runActive => exact ⟨.transition _, expected⟩
  | runSuspended => exact ⟨.transition _, expected⟩
  | runAborted => exact ⟨.transition _, expected⟩
  | runCancelled => exact ⟨.transition _, expected⟩

theorem validateRecord_op {previous record : RunRecord} {value : Unit}
    (legacy : record.acceptedDeliveryBinding = .legacyR13)
    (valid : validateRecord (some previous) record expanded = .ok value) :
    ∃ op : RunOp, op.apply previous = .ok record := by
  simp only [validateRecord, bind_ok, raiseIf_ok] at valid
  obtain ⟨_, _, _, _, _, _, valid⟩ := valid
  split at valid
  · simp only [bind_ok, raiseIf_ok, not_not] at valid
    obtain ⟨result, expected, rfl⟩ := valid
    exact expectedRecord_op legacy expected
  · cases valid

/-- Consecutive records `r0, r1, ..., rn` that the owner validated, with the legacy binding. -/
structure ValidChain (records : List RunRecord) : Prop where
  genesis : ∀ record ∈ records.head?, ∃ expanded, validateRecord none record expanded = .ok ()
  steps : records.IsChain (fun previous record =>
    ∃ expanded, validateRecord (some previous) record expanded = .ok ())
  legacy : ∀ record ∈ records, record.acceptedDeliveryBinding = .legacyR13

theorem validateRecord_genesis {record : RunRecord} {value : Unit}
    (valid : validateRecord none record expanded = .ok value) : record.Sound := by
  obtain ⟨turns, deliveries, acceptedText, _⟩ := validateRecord_none_ok valid
  exact ⟨by simp [turns], by simp [turns], by simp [turns], fun _ => ⟨deliveries, acceptedText⟩⟩

/-- Along a chain every record is sound and precedes all later ones. -/
theorem chain_sound {first : RunRecord} {rest : List RunRecord} (sound : first.Sound)
    (steps : (first :: rest).IsChain (fun previous record =>
      ∃ expanded, validateRecord (some previous) record expanded = .ok ()))
    (legacy : ∀ record ∈ rest, record.acceptedDeliveryBinding = .legacyR13) :
    (∀ record ∈ first :: rest, record.Sound) ∧
      (first :: rest).Pairwise RunRecord.Precedes := by
  induction rest generalizing first with
  | nil => simpa using sound
  | cons second rest ih =>
      obtain ⟨⟨expanded, valid⟩, tail⟩ := List.isChain_cons_cons.mp steps
      obtain ⟨op, returned⟩ := validateRecord_op (legacy second List.mem_cons_self) valid
      obtain ⟨secondSound, precedes⟩ := (RunOp.apply_move returned).sound sound
      obtain ⟨restSound, pairs⟩ := ih secondSound tail
        (fun record member => legacy record (List.mem_cons_of_mem _ member))
      refine ⟨List.forall_mem_cons.mpr ⟨sound, restSound⟩, List.pairwise_cons.mpr ⟨?_, pairs⟩⟩
      intro record member
      rcases List.mem_cons.mp member with rfl | later
      · exact precedes
      · exact precedes.trans ((List.pairwise_cons.mp pairs).1 record later)

/-- What holds of every chain of validated Run records. -/
theorem valid_chain {records : List RunRecord} (chain : ValidChain records) :
    (∀ record ∈ records, record.Sound) ∧ records.Pairwise RunRecord.Precedes := by
  cases records with
  | nil => simp
  | cons first rest =>
      obtain ⟨expanded, valid⟩ := chain.genesis first rfl
      exact chain_sound (validateRecord_genesis valid) chain.steps
        (fun record member => chain.legacy record (List.mem_cons_of_mem _ member))

end Steps

theorem valid_chain_sample :
    letI := Sha256.hashlib
    letI := silentModel
    ∃ emitted captured rejected,
      RunOp.apply captured (.reject "invalid") = .ok rejected ∧
      let records := [sampleGenesis, sampleActive, sampleStarted, sampleAccumulated,
        samplePrepared ⟨"owner", by decide⟩, emitted, captured, rejected]
      (∀ record ∈ records, record.Sound) ∧ records.Pairwise RunRecord.Precedes := by
  let _ := Sha256.hashlib
  let _ := silentModel
  have accepted : ∀ {steps : List RunStep} {run record : RunRecord} {op : RunOp},
      OwnerRun steps run → op.apply run = .ok record → op.Recoverable run →
        ∃ expanded, validateRecord (some run) record expanded = .ok () :=
    fun reached returned recoverable =>
      ⟨none, (RunOp.apply_agrees silentModel_lawful reached.owned returned).mpr recoverable⟩
  have first := OwnerRun.genesis sample_genesis
  have second := first.step sample_active
  have third := second.step sample_started
  have fourth := third.step sample_accumulated
  have fifth := fourth.step (sample_prepared ⟨"owner", by decide⟩)
  obtain ⟨emitted, captured, rejected, emit, capture, reject, legacy⟩ :=
    sample_rejected ⟨"owner", by decide⟩
  have sixth := fifth.step emit
  refine ⟨emitted, captured, rejected, reject,
    valid_chain ⟨fun record last => ?_, ?_, fun record member => ?_⟩⟩
  · cases last
    exact ⟨none, sample_genesis⟩
  · refine List.isChain_cons_cons.mpr ⟨accepted first sample_active trivial, ?_⟩
    refine List.isChain_cons_cons.mpr ⟨accepted second sample_started trivial, ?_⟩
    refine List.isChain_cons_cons.mpr ⟨accepted third sample_accumulated trivial, ?_⟩
    refine List.isChain_cons_cons.mpr ⟨accepted fourth (sample_prepared _) trivial, ?_⟩
    refine List.isChain_cons_cons.mpr ⟨accepted fifth emit trivial, ?_⟩
    refine List.isChain_cons_cons.mpr ⟨accepted sixth capture trivial, ?_⟩
    refine List.isChain_cons_cons.mpr ⟨accepted (sixth.step capture) reject trivial, ?_⟩
    exact .singleton _
  · simp only [List.mem_cons] at member legacy
    rcases member with rfl | rfl | rfl | rfl | rfl | late
    iterate 5 rfl
    exact legacy record late

end Chiplog.AgentLoop
