import Chiplog.Data.Sha256
import Chiplog.Platform.IngressDomain

namespace Chiplog.Platform.Ingress

open Chiplog.Data

/-! Quarantine parsing over whole runs.

A run keeps the calls that moved the state; an exact replay leaves no trace.  Selections and
completions alternate, so what the state remembers is read off the moves. -/

abbrev ParserAttempt := String × String × String

inductive QuarantineCall where
  | select (expectedRetryHead : Head) (attemptId parserId parserVersion : String)
  | finish (attempt : ParserAttempt) (result : QuarantineResult)
deriving DecidableEq

def QuarantineCall.selection : QuarantineCall → Option ParserAttempt
  | .select _ attemptId parserId parserVersion => some (attemptId, parserId, parserVersion)
  | .finish .. => none

def QuarantineCall.completion : QuarantineCall → Option (ParserAttempt × QuarantineResult)
  | .select .. => none
  | .finish attempt result => some (attempt, result)

/-- The attempts a run of moves selected, in order. -/
def selections (moves : List QuarantineCall) : List ParserAttempt :=
  moves.filterMap QuarantineCall.selection

/-- The attempts a run of moves finished, with the results it recorded. -/
def completions (moves : List QuarantineCall) : List (ParserAttempt × QuarantineResult) :=
  moves.filterMap QuarantineCall.completion

@[simp] theorem selections_append_select (moves : List QuarantineCall) (head : Head)
    (attemptId parserId parserVersion : String) :
    selections (moves ++ [.select head attemptId parserId parserVersion]) =
      selections moves ++ [(attemptId, parserId, parserVersion)] := by
  simp [selections, QuarantineCall.selection]

@[simp] theorem selections_append_finish (moves : List QuarantineCall) (attempt : ParserAttempt)
    (result : QuarantineResult) :
    selections (moves ++ [.finish attempt result]) = selections moves := by
  simp [selections, QuarantineCall.selection]

@[simp] theorem completions_append_select (moves : List QuarantineCall) (head : Head)
    (attemptId parserId parserVersion : String) :
    completions (moves ++ [.select head attemptId parserId parserVersion]) =
      completions moves := by
  simp [completions, QuarantineCall.completion]

@[simp] theorem completions_append_finish (moves : List QuarantineCall) (attempt : ParserAttempt)
    (result : QuarantineResult) :
    completions (moves ++ [.finish attempt result]) = completions moves ++ [(attempt, result)] := by
  simp [completions, QuarantineCall.completion]

/-- A result that ends the parsing has been recorded. -/
def QuarantineState.Terminal (state : QuarantineState) : Prop :=
  ∃ result ∈ state.result, result.retries = false

/-- What a call that moves the state does to it. -/
inductive QuarantineState.Move (before after : QuarantineState) : QuarantineCall → Prop
  | selected (head : Head) (attemptId parserId parserVersion : String)
      (unsettled : ¬before.Terminal) (free : before.selectedAttempt = none)
      (fresh : attemptId ∉ before.completedAttemptIds)
      (attempt : after.selectedAttempt = some (attemptId, parserId, parserVersion))
      (retry : after.selectedRetryHead = some head)
      (named : attemptId ≠ "" ∧ parserId ≠ "" ∧ parserVersion ≠ "")
      (kept : after.completedAttemptIds = before.completedAttemptIds ∧
        after.result = before.result) :
      Move before after (.select head attemptId parserId parserVersion)
  | finished (attempt : ParserAttempt) (result : QuarantineResult)
      (selected : before.selectedAttempt = some attempt) (free : after.selectedAttempt = none)
      (recorded : after.result = some result) (last : after.lastCompletedAttempt = some attempt)
      (completed : after.completedAttemptIds = before.completedAttemptIds ++ [attempt.1]) :
      Move before after (.finish attempt result)

variable {before after state start : QuarantineState} {call : QuarantineCall}
  {moves : List QuarantineCall}

/-- What the state remembers of the moves that led to it. -/
structure QuarantineState.Decided (state : QuarantineState) (moves : List QuarantineCall) :
    Prop where
  alternating : selections moves =
    (completions moves).map Prod.fst ++ state.selectedAttempt.toList
  completed : state.completedAttemptIds = (completions moves).map (·.1.1)
  distinct : state.completedAttemptIds.Nodup
  unused : ∀ attempt ∈ state.selectedAttempt, attempt.1 ∉ state.completedAttemptIds
  result : state.result = (completions moves).getLast?.map Prod.snd
  idle : state.Terminal → state.selectedAttempt = none
  retried : ∀ completion ∈ (completions moves).dropLast, completion.2.retries = true

theorem QuarantineState.Move.decided (move : before.Move after call)
    (decided : before.Decided moves) : after.Decided (moves ++ [call]) := by
  cases move with
  | selected head attemptId parserId parserVersion unsettled free fresh attempt retry named kept =>
      refine ⟨?_, ?_, ?_, ?_, ?_, ?_, ?_⟩
      · simp [decided.alternating, free, attempt]
      · simpa [kept.1] using decided.completed
      · rw [kept.1]
        exact decided.distinct
      · intro other selected
        rw [attempt] at selected
        cases selected
        rw [kept.1]
        exact fresh
      · simpa [kept.2] using decided.result
      · intro terminal
        apply absurd terminal
        rw [QuarantineState.Terminal, kept.2]
        exact unsettled
      · simpa using decided.retried
  | finished attempt result selected free recorded last completed =>
      have unfinished : ¬before.Terminal := by
        intro terminal
        rw [decided.idle terminal] at selected
        cases selected
      refine ⟨?_, ?_, ?_, ?_, ?_, ?_, ?_⟩
      · simp [decided.alternating, free, selected]
      · simp [completed, decided.completed]
      · rw [completed]
        apply List.nodup_append'.mpr
        refine ⟨decided.distinct, List.nodup_singleton _, ?_⟩
        simpa using decided.unused attempt selected
      · simp [free]
      · simp [recorded]
      · intro _
        exact free
      · -- every earlier result allowed another attempt, or this one could not be selected
        intro completion member
        simp only [completions_append_finish, List.dropLast_concat] at member
        obtain empty | ⟨front, final, split⟩ := List.eq_nil_or_concat' (completions moves)
        · simp [empty] at member
        · have earlier := decided.retried
          have latest := decided.result
          rw [split] at member earlier latest
          simp only [List.dropLast_concat] at earlier
          cases List.mem_append.mp member with
          | inl before => exact earlier completion before
          | inr isFinal =>
              rw [List.mem_singleton.mp isFinal]
              by_contra terminal
              exact unfinished ⟨final.2, by simpa using latest, by simpa using terminal⟩

theorem QuarantineState.Decided.terminal_once (decided : state.Decided moves) :
    ((completions moves).filter (fun completion => completion.2.retries = false)).length ≤ 1 := by
  obtain empty | ⟨front, final, split⟩ := List.eq_nil_or_concat' (completions moves)
  · simp [empty]
  · have earlier := decided.retried
    rw [split] at earlier ⊢
    rw [List.dropLast_concat] at earlier
    have none : front.filter (fun completion => completion.2.retries = false) = [] := by
      apply List.filter_eq_nil_iff.mpr
      intro completion member
      simp [earlier completion member]
    rw [List.filter_append, none, List.nil_append]
    exact List.length_filter_le _ _

section

variable [Hashlib]

def QuarantineCall.apply (state : QuarantineState) :
    QuarantineCall → Except IngressError QuarantineState
  | .select expectedRetryHead attemptId parserId parserVersion =>
      selectQuarantineParser state expectedRetryHead attemptId parserId parserVersion
  | .finish attempt result => finishQuarantineParser state attempt result

/-- A run of successful calls and the moves it made. -/
inductive QuarantineRun (start : QuarantineState) : List QuarantineCall → QuarantineState → Prop
  | start : QuarantineRun start [] start
  | replayed {moves : List QuarantineCall} {state : QuarantineState} {call : QuarantineCall}
      (ran : QuarantineRun start moves state) (applied : call.apply state = .ok state) :
      QuarantineRun start moves state
  | moved {moves : List QuarantineCall} {before after : QuarantineState} {call : QuarantineCall}
      (ran : QuarantineRun start moves before) (applied : call.apply before = .ok after)
      (changed : after ≠ before) : QuarantineRun start (moves ++ [call]) after

/-- A successful call answers an exact replay or moves the state. -/
theorem QuarantineCall.effect (applied : call.apply before = .ok after) :
    after = before ∨ before.Move after call := by
  cases call with
  | select head attemptId parserId parserVersion =>
      obtain ⟨_, unsettled, applied⟩ := bind_ok.mp applied
      obtain ⟨_, named, applied⟩ := bind_ok.mp applied
      split at applied
      · split at applied
        · exact .inl (pure_ok.mp applied).symm
        · cases applied
      · rename_i free
        obtain ⟨_, -, applied⟩ := bind_ok.mp applied
        obtain ⟨_, fresh, applied⟩ := bind_ok.mp applied
        cases pure_ok.mp applied
        have unsettled := raiseIf_ok.mp unsettled
        have named := raiseIf_ok.mp named
        simp only [not_or] at named
        exact .inr (.selected head attemptId parserId parserVersion unsettled free
          (raiseIf_ok.mp fresh) rfl rfl named ⟨rfl, rfl⟩)
  | finish attempt result =>
      simp only [QuarantineCall.apply, finishQuarantineParser] at applied
      split at applied
      · split at applied
        · exact .inl (pure_ok.mp applied).symm
        · cases applied
      · rename_i selected held
        obtain ⟨_, matched, applied⟩ := bind_ok.mp applied
        obtain ⟨_, -, applied⟩ := bind_ok.mp applied
        cases pure_ok.mp applied
        have matched := raiseIf_ok.mp matched
        have same : selected = attempt := not_not.mp (fun other => matched (.inl other))
        subst same
        exact .inr (.finished selected result held rfl rfl rfl rfl)

theorem selectQuarantineParser_selected {head : Head} {attemptId parserId parserVersion : String}
    (applied : selectQuarantineParser before head attemptId parserId parserVersion = .ok after) :
    after.selectedAttempt = some (attemptId, parserId, parserVersion) := by
  obtain ⟨_, -, applied⟩ := bind_ok.mp applied
  obtain ⟨_, -, applied⟩ := bind_ok.mp applied
  split at applied
  · rename_i selected held
    split at applied
    · rename_i same
      cases pure_ok.mp applied
      rw [held, same.1]
    · cases applied
  · obtain ⟨_, -, applied⟩ := bind_ok.mp applied
    obtain ⟨_, -, applied⟩ := bind_ok.mp applied
    cases pure_ok.mp applied
    rfl

theorem QuarantineState.Move.replayed (move : before.Move after call) :
    call.apply after = .ok after := by
  cases move with
  | selected head attemptId parserId parserVersion unsettled free fresh attempt retry named kept =>
      apply bind_ok.mpr
      refine ⟨(), raiseIf_ok.mpr ?_, bind_ok.mpr ⟨(), raiseIf_ok.mpr (by simpa [not_or] using named),
        ?_⟩⟩
      · rw [kept.2]
        exact unsettled
      · simp only [attempt, retry, true_and, if_true]
        rfl
  | finished attempt result selected free recorded last completed =>
      simp only [QuarantineCall.apply, finishQuarantineParser, free, recorded, last, true_and,
        if_true]
      rfl

theorem QuarantineRun.decided (ran : QuarantineRun start moves state)
    (begin : start.Decided []) : state.Decided moves := by
  induction ran with
  | start => exact begin
  | replayed ran applied ih => exact ih
  | moved ran applied changed ih =>
      cases QuarantineCall.effect applied with
      | inl same => exact absurd same changed
      | inr move => exact move.decided ih

theorem genesis_decided {custodyHead : Head} {custody : QuarantineCustody}
    (created : quarantineGenesis custodyHead custody = .ok start) : start.Decided [] := by
  iterate 3 obtain ⟨_, -, created⟩ := bind_ok.mp created
  cases pure_ok.mp created
  refine ⟨rfl, rfl, .nil, nofun, rfl, fun _ => rfl, nofun⟩

/-- A decided state can neither select nor finish another attempt. -/
theorem QuarantineState.Decided.terminal_stays (decided : state.Decided moves)
    (terminal : state.Terminal) (applied : call.apply state = .ok after) : after = state := by
  cases QuarantineCall.effect applied with
  | inl same => exact same
  | inr move =>
      cases move with
      | selected _ _ _ _ unsettled => exact absurd terminal unsettled
      | finished attempt result selected =>
          rw [decided.idle terminal] at selected
          cases selected

theorem QuarantineState.Decided.terminal_run (decided : state.Decided moves)
    (terminal : state.Terminal) {more : List QuarantineCall}
    (ran : QuarantineRun state more after) : after = state := by
  induction ran with
  | start => rfl
  | replayed ran applied ih => exact ih
  | moved ran applied changed ih =>
      rw [ih] at applied
      exact decided.terminal_stays terminal applied

/-- Quarantine parsing decides once, over every run from a genesis: the state remembers
exactly the attempts that were finished, at most one of them ended the parsing, and nothing
moves after that one. -/
theorem quarantine_decides_once {custodyHead : Head} {custody : QuarantineCustody}
    (created : quarantineGenesis custodyHead custody = .ok start)
    (ran : QuarantineRun start moves state) :
    selections moves = (completions moves).map Prod.fst ++ state.selectedAttempt.toList ∧
      state.completedAttemptIds = (completions moves).map (·.1.1) ∧
      state.completedAttemptIds.Nodup ∧
      state.result = (completions moves).getLast?.map Prod.snd ∧
      ((completions moves).filter (fun completion => completion.2.retries = false)).length ≤ 1 ∧
      (state.Terminal → ∀ more later, QuarantineRun state more later →
        later.result = state.result ∧ later.currentHead = state.currentHead) ∧
      (∀ head attemptId parserId parserVersion after,
        selectQuarantineParser state head attemptId parserId parserVersion = .ok after →
          attemptId ∉ state.completedAttemptIds ∧
            (state.selectedAttempt = none ∨ after = state)) ∧
      (∀ (call : QuarantineCall) after, call.apply state = .ok after →
        call.apply after = .ok after) := by
  have decided := ran.decided (genesis_decided created)
  refine ⟨decided.alternating, decided.completed, decided.distinct, decided.result,
    decided.terminal_once, ?_, ?_, ?_⟩
  · intro terminal more later further
    rw [decided.terminal_run terminal further]
    exact ⟨rfl, rfl⟩
  · intro head attemptId parserId parserVersion after applied
    have attempt := selectQuarantineParser_selected applied
    have called : (QuarantineCall.select head attemptId parserId parserVersion).apply state =
        .ok after := applied
    cases QuarantineCall.effect called with
    | inl same =>
        rw [same] at attempt
        exact ⟨decided.unused _ attempt, .inr same⟩
    | inr move =>
        cases move with
        | selected _ _ _ _ _ free fresh => exact ⟨fresh, .inl free⟩
  · intro call after applied
    cases QuarantineCall.effect applied with
    | inl same => rw [same] at applied ⊢; exact applied
    | inr move => exact move.replayed

def quarantineHead (identity : Identity) : Head := ⟨identity, identity, sha256 []⟩

def quarantineSource : SourceBinding :=
  { manifestRow := quarantineHead ⟨"row", written _ trivial⟩
    sourceClass := .cli
    tenantId := ⟨"tenant", written _ trivial⟩
    databaseId := ⟨"database", written _ trivial⟩
    sourceIdentity := ⟨"source", written _ trivial⟩
    endpointAccountBinding := .unknownPreAuth
    brokerEpoch := ⟨"broker", written _ trivial⟩
    brokerSession := ⟨"session", written _ trivial⟩
    admissionEpoch := quarantineHead ⟨"epoch", written _ trivial⟩
    admissionFence := 1
    transportVersion := ⟨"1", written _ trivial⟩ }

def quarantineAuthentication : AuthenticationBinding :=
  .cliOsPeer
    { proof := quarantineHead ⟨"proof", written _ trivial⟩
      source := quarantineSource
      rawDigest := sha256 [7]
      principalContour := quarantineHead ⟨"contour", written _ trivial⟩
      freshness := quarantineHead ⟨"freshness", written _ trivial⟩
      replayIdentity := ⟨"replay", written _ trivial⟩
      originalSubject := ⟨"subject", written _ trivial⟩
      contractVersion := ⟨"1", written _ trivial⟩
      canonicalizationVersion := ⟨"1", written _ trivial⟩ }
    (quarantineHead ⟨"endpoint", written _ trivial⟩) (quarantineHead ⟨"peer", written _ trivial⟩)
    (quarantineHead ⟨"session", written _ trivial⟩)
    (quarantineHead ⟨"credential", written _ trivial⟩)
    (quarantineHead ⟨"policy", written _ trivial⟩)

def quarantinedSample : QuarantineCustody :=
  { token := quarantineHead ⟨"token", written _ trivial⟩
    rawBytes := [7]
    rawDigest := sha256 [7]
    authentication := quarantineAuthentication
    parserId := ⟨"parser", written _ trivial⟩
    parserVersion := ⟨"1", written _ trivial⟩
    errorType := ⟨"error", written _ trivial⟩
    inspectionRetryPolicy := quarantineHead ⟨"retry", written _ trivial⟩
    quarantineBudget := quarantineHead ⟨"budget", written _ trivial⟩ }

def quarantinedHead : Head := custodySuccessorHead (.quarantinedRawEvidence quarantinedSample)

def quarantinedProof : QuarantineResult :=
  .versionIndependentTerminalNonEvidence quarantinedHead ⟨"bytes", written _ trivial⟩
    ⟨"1", written _ trivial⟩
    (sha256 [])

theorem quarantined_sample_ran : ∃ start head state,
    quarantineGenesis quarantinedHead quarantinedSample = .ok start ∧
      QuarantineRun start [.select head "attempt" "parser" "2",
        .finish ("attempt", "parser", "2") quarantinedProof] state ∧ state.Terminal := by
  have created : ∃ start, quarantineGenesis quarantinedHead quarantinedSample = .ok start ∧
      start.result = none ∧ start.selectedAttempt = none ∧ start.completedAttemptIds = [] ∧
      start.custodyHead = quarantinedHead :=
    ⟨_, bind_ok.mpr ⟨(), raiseIf_ok.mpr (not_not.mpr rfl), bind_ok.mpr
      ⟨(), raiseIf_ok.mpr (not_not.mpr rfl), bind_ok.mpr
        ⟨(), raiseIf_ok.mpr (not_not.mpr rfl), rfl⟩⟩⟩, rfl, rfl, rfl, rfl⟩
  obtain ⟨start, created, unset, free, unused, custody⟩ := created
  have selected : ∃ state,
      selectQuarantineParser start start.currentHead "attempt" "parser" "2" = .ok state ∧
        state.custodyHead = quarantinedHead := by
    apply Exists.intro
    constructor
    · simp only [selectQuarantineParser, free]
      exact bind_ok.mpr ⟨(), raiseIf_ok.mpr (by simp [unset]), bind_ok.mpr
        ⟨(), raiseIf_ok.mpr (by decide), bind_ok.mpr ⟨(), raiseIf_ok.mpr (not_not.mpr rfl),
          bind_ok.mpr ⟨(), raiseIf_ok.mpr (by simp [unused]), rfl⟩⟩⟩⟩
    · exact custody
  obtain ⟨state, selected, custody⟩ := selected
  have attempt := selectQuarantineParser_selected selected
  have finished : ∃ after,
      finishQuarantineParser state ("attempt", "parser", "2") quarantinedProof = .ok after ∧
        after.result = some quarantinedProof ∧ after.selectedAttempt = none := by
    apply Exists.intro
    constructor
    · simp only [finishQuarantineParser, attempt]
      exact bind_ok.mpr ⟨(), raiseIf_ok.mpr (by simp [quarantinedProof, QuarantineResult.custody,
        custody]), bind_ok.mpr ⟨(), rfl, rfl⟩⟩
    · exact ⟨rfl, rfl⟩
  obtain ⟨after, finished, recorded, released⟩ := finished
  refine ⟨start, start.currentHead, after, created, ?_, quarantinedProof, recorded, rfl⟩
  have selecting : (QuarantineCall.select start.currentHead "attempt" "parser" "2").apply start =
      .ok state := selected
  have finishing : (QuarantineCall.finish ("attempt", "parser", "2") quarantinedProof).apply state =
      .ok after := finished
  have begun : QuarantineRun start [.select start.currentHead "attempt" "parser" "2"] state := by
    apply QuarantineRun.moved .start selecting
    intro same
    rw [same, free] at attempt
    cases attempt
  apply QuarantineRun.moved begun finishing
  intro same
  rw [same, attempt] at released
  cases released

end

/-- The sample evidence, refused for good by its first parser. -/
theorem quarantine_decides_once_refused :
    letI := Sha256.hashlib
    ∃ start head state, quarantineGenesis quarantinedHead quarantinedSample = .ok start ∧
      QuarantineRun start [.select head "attempt" "parser" "2",
        .finish ("attempt", "parser", "2") quarantinedProof] state ∧
      state.Terminal ∧ state.completedAttemptIds = ["attempt"] := by
  let _ := Sha256.hashlib
  obtain ⟨start, head, state, created, ran, terminal⟩ := quarantined_sample_ran
  obtain ⟨-, completed, -⟩ := quarantine_decides_once created ran
  exact ⟨start, head, state, created, ran, terminal, completed⟩

end Chiplog.Platform.Ingress
