import Chiplog.AgentLoop.Disclosure
import Chiplog.AgentLoop.ExecutionContracts

namespace Chiplog.AgentLoop

open Chiplog.Data Chiplog.Effects

/-! Executable Run transitions, independent of the storage substrate.

A record names itself by the digest it has while its head is `"pending"`, so its head is
a function of its other fields. -/

def pending : Identity := ⟨"pending", by decide⟩

/-- A record whose head is the digest of its other fields after a fixed `lead`. -/
class Headed (α : Type) extends Model α where
  lead : String
  head : α → Identity
  withHead : Identity → α → α
  head_withHead : ∀ text value, head (withHead text value) = text
  withHead_withHead : ∀ text other value, withHead text (withHead other value) = withHead text value
  withHead_head : ∀ value, withHead (head value) value = value

instance : Headed (ExecutionRunRecord version) where
  lead := "loop:"
  head := ExecutionRunRecord.head
  withHead text value := { value with head := text }
  head_withHead _ _ := rfl
  withHead_withHead _ _ _ := rfl
  withHead_head _ := rfl

instance : Headed (ExecutionTurn version) where
  lead := "execution-turn:"
  head := ExecutionTurn.head
  withHead text value := { value with head := text }
  head_withHead _ _ := rfl
  withHead_withHead _ _ _ := rfl
  withHead_head _ := rfl

section Transitions

variable [Hashlib]

/-- `digest()` of a record. -/
def contentDigest [Model α] (value : α) : Digest := sha256 (canonicalBytes value).items

/-- The head a record must carry. -/
def selfHead [Headed α] (value : α) : Identity :=
  Identity.after (Headed.lead α) (contentDigest (Headed.withHead pending value)).identity

def headed [Headed α] (value : α) : α := Headed.withHead (selfHead value) value

theorem headed_head [Headed α] (value : α) : Headed.head (headed value) = selfHead value :=
  Headed.head_withHead _ _

theorem selfHead_withHead [Headed α] (text : Identity) (value : α) :
    selfHead (Headed.withHead text value) = selfHead value := by
  rw [selfHead, selfHead, Headed.withHead_withHead]

theorem selfHead_headed [Headed α] (value : α) : selfHead (headed value) = selfHead value :=
  selfHead_withHead _ value

/-- `current(run)`: the Run, if its head is its own digest. -/
def current (run : ExecutionRunRecord version) : Looping (ExecutionRunRecord version) := do
  raiseIf (run.head ≠ selfHead run) (.rejected "execution Run self head differs")
  return run

theorem current_ok {run found : ExecutionRunRecord version} :
    current run = .ok found ↔ run.head = selfHead run ∧ found = run := by
  simp only [current, bind_ok, raiseIf_ok, pure_ok, not_not]
  constructor
  · rintro ⟨_, self, rfl⟩
    exact ⟨self, rfl⟩
  · rintro ⟨self, rfl⟩
    exact ⟨(), self, rfl⟩

/-- `advance(run, event, **changes)`, where the changes are already made. -/
def advance (run : ExecutionRunRecord version) (event : Identity)
    (changed : ExecutionRunRecord version) : ExecutionRunRecord version :=
  headed { changed with head := pending, predecessor := some run.head, event := event }

def executionContour : Identity := ⟨"postgres-local.v1", by decide⟩

def executionPolicy : Identity := ⟨"explicit-execution.v1", by decide⟩

end Transitions

end Chiplog.AgentLoop

namespace Chiplog.AgentLoop

open Chiplog.Data Chiplog.Effects

/-! Turns that the executable client opens. -/

/-- The empty Turn after a number of earlier ones, before its head is derived. -/
def nextTurn (runId : Identity) (earlier : Nat) : ExecutionTurn version :=
  { turnId := runId.before ("/turn/" ++ (earlier + 1).repr)
    ordinal := ⟨earlier + 1, Nat.succ_pos _⟩
    head := pending
    state := .preparing
    accumulator := []
    attempts := []
    selector := 0
    responseSeal := none
    initializedCalls := none }

/-- A Turn whose response was accepted and sealed. -/
structure ExecutionTurn.Settled (turn : ExecutionTurn version) : Prop where
  accepted : turn.state = .accepted
  isSealed : turn.responseSeal ≠ none
  initialized : turn.initializedCalls ≠ none

instance (turn : ExecutionTurn version) : Decidable turn.Settled :=
  decidable_of_iff
    (turn.state = .accepted ∧ turn.responseSeal ≠ none ∧ turn.initializedCalls ≠ none)
    ⟨fun ⟨accepted, isSealed, initialized⟩ => ⟨accepted, isSealed, initialized⟩,
      fun ⟨accepted, isSealed, initialized⟩ => ⟨accepted, isSealed, initialized⟩⟩

/-- The Run waits for nothing but its next Turn. -/
def ExecutionRunRecord.Continues (run : ExecutionRunRecord version) : Prop :=
  run.state = .active ∧ ∃ turn ∈ run.turns.getLast?, turn.Settled

instance (run : ExecutionRunRecord version) : Decidable run.Continues :=
  inferInstanceAs (Decidable (_ ∧ _))

section Operations

variable [Hashlib]

def nextTurnStarted : Identity := ⟨"NextTurnStarted", by decide⟩

def budgetExhausted : LoopError := .rejected "execution Turn budget exhausted"

def continueTurn (run : ExecutionRunRecord version) : Looping (ExecutionRunRecord version) := do
  let run ← current run
  raiseIf (¬ run.Continues) (.rejected "continuation requires a sealed accepted Turn")
  raiseIf (run.policy.maxTurns ≤ run.turns.length) budgetExhausted
  let turn := headed (nextTurn run.runId run.turns.length)
  return advance run nextTurnStarted { run with turns := run.turns ++ [turn] }

end Operations

end Chiplog.AgentLoop
