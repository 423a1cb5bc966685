import Chiplog.AgentLoop.SchedulerLeases
import Chiplog.Data.Sha256
import Mathlib.Data.Prod.Lex
import Mathlib.Logic.Relation
import Mathlib.Order.Interval.Set.Disjoint

namespace Chiplog.AgentLoop

open Chiplog.Data Chiplog.Effects Relation

/-! Lease safety across takeovers and rollovers.

A history is the view of one lineage together with what the broker has recorded of it:
the last trusted time, the tenures so far and the epochs and lease heads in use. -/

/-- A lease held from its grant until the expiry it was last given. -/
structure Tenure where
  leaseId : Identity
  granted : Nat
  expiry : Nat
deriving DecidableEq

def Tenure.span (tenure : Tenure) : Set Nat := Set.Ico tenure.granted tenure.expiry

structure LeaseHistory where
  view : SchedulerLineageView
  clock : Nat
  tenures : List Tenure
  epochIds : List Identity
  leaseHeads : List Identity

namespace LeaseHistory

/-- A lineage starts unleased, with no tenure behind it. -/
def genesis (view : SchedulerLineageView) (clock : Nat) (lease : GenesisLease) : LeaseHistory :=
  ⟨{ view with lease := .unleased lease }, clock, [], [view.physicalRoot.currentEpochId],
    [lease.leaseHead]⟩

/-- A renewal moves the expiry of the running tenure; any other grant begins a new one. -/
def recordedTenures (kind : LeaseTransitionKind) (now : Nat) (tenures : List Tenure) :
    ExecutionRootLeaseState → List Tenure
  | .held binding =>
      match kind, tenures.getLast? with
      | .renew, some running =>
          tenures.dropLast ++ [{ running with expiry := binding.trustedExpiry.toNat }]
      | _, _ => tenures ++ [⟨binding.leaseId, now, binding.trustedExpiry.toNat⟩]
  | _ => tenures

def leaseHead : ExecutionRootLeaseState → Identity
  | .unleased lease => lease.leaseHead
  | .held binding => binding.leaseHead
  | .exhausted hold => hold.leaseHead

def moved (history : LeaseHistory) (kind : LeaseTransitionKind) (now : Nat)
    (state : ExecutionRootLeaseState) : LeaseHistory :=
  { history with
    view := { history.view with lease := state }
    clock := now
    tenures := recordedTenures kind now history.tenures state
    leaseHeads := history.leaseHeads ++ [leaseHead state] }

def rolledOver (history : LeaseHistory) (view : SchedulerLineageView) : LeaseHistory :=
  { history with
    view := view
    epochIds := history.epochIds ++ [view.physicalRoot.currentEpochId]
    leaseHeads := history.leaseHeads ++ [leaseHead view.lease] }

/-- Selector version first, then the lease generation. -/
def rank (history : LeaseHistory) : ℕ ×ₗ ℕ :=
  toLex (history.view.physicalRoot.selectorVersion.toNat, history.view.lease.generation)

end LeaseHistory

inductive LeaseEvent where
  | transition (kind : LeaseTransitionKind)
  | rollover
deriving DecidableEq

/-- Everything an accepted lease command can do to the lease. -/
inductive LeaseMove (command : LeaseTransitionCommand) (issued : IssuedLeaseObservation) :
    ExecutionRootLeaseState → ExecutionRootLeaseState → Prop
  | acquire {genesis : GenesisLease} {head : Identity} (kind : command.kind = .acquire)
      (fresh : command.proposedLeaseId ∉ issued.usedLeaseIds) :
      LeaseMove command issued (.unleased genesis) (.held (grantedLease command issued head 1))
  | renew {old : LeaseBinding} {head : Identity} (kind : command.kind = .renew) :
      LeaseMove command issued (.held old)
        (.held { old with leaseHead := head, trustedExpiry := command.proposedExpiry })
  | takeover {old : LeaseBinding} {head : Identity} (kind : command.kind = .takeover)
      (expired : old.trustedExpiry.toNat ≤ issued.now.toNat)
      (fresh : command.proposedLeaseId ∉ issued.usedLeaseIds)
      (advanced : command.proposedGeneration.toNat = old.generation.toNat + 1) :
      LeaseMove command issued (.held old)
        (.held (grantedLease command issued head command.proposedGeneration))
  | exhaust {old : LeaseBinding} {hold : ExhaustedLease} (kind : command.kind = .takeover)
      (expired : old.trustedExpiry.toNat ≤ issued.now.toNat)
      (last : old.generation.toNat = uint64Max) :
      LeaseMove command issued (.held old) (.exhausted hold)

theorem nextLease_move {command : LeaseTransitionCommand} {issued : IssuedLeaseObservation}
    {head : Identity} {observed state : ExecutionRootLeaseState}
    (derived : nextLease command issued head observed = .ok state) :
    LeaseMove command issued observed state := by
  unfold nextLease at derived
  split at derived
  · rename_i kind
    cases observed with
    | unleased genesis =>
        simp only [acquireLease, bind_ok, raiseIf_ok, pure_ok] at derived
        obtain ⟨_, _, _, fresh, rfl⟩ := derived
        exact .acquire kind fresh
    | held old => cases derived
    | exhausted hold => cases derived
  · rename_i kind
    cases observed with
    | held old =>
        simp only [renewLease, bind_ok, pure_ok] at derived
        obtain ⟨_, _, rfl⟩ := derived
        exact .renew kind
    | unleased genesis => cases derived
    | exhausted hold => cases derived
  · rename_i kind
    cases observed with
    | held old =>
        simp only [takeoverLease, bind_ok, raiseIf_ok] at derived
        obtain ⟨_, expired, _, fresh, derived⟩ := derived
        split at derived
        · rename_i last
          simp only [bind_ok, pure_ok] at derived
          obtain ⟨_, _, rfl⟩ := derived
          exact .exhaust kind (Nat.not_lt.mp expired) last
        · simp only [bind_ok, raiseIf_ok, pure_ok, not_not] at derived
          obtain ⟨_, advanced, rfl⟩ := derived
          exact .takeover kind (Nat.not_lt.mp expired) fresh advanced
    | unleased genesis => cases derived
    | exhausted hold => cases derived

section Steps

variable [Hashlib]

/-- One accepted candidate, published by a broker whose clock never goes back and whose
recorded history is exact. -/
inductive LeaseStep : LeaseEvent → LeaseHistory → LeaseHistory → Prop
  | transition (history : LeaseHistory) {command : LeaseTransitionCommand}
      {issued : IssuedLeaseObservation} {submissionId : String} {candidate : LeaseCandidate}
      (trusted : history.clock ≤ issued.now.toNat)
      (exactIds : ∀ id, id ∈ issued.usedLeaseIds ↔ id ∈ history.tenures.map Tenure.leaseId)
      (evaluated : evaluateLease history.view command (some issued) submissionId =
        .ok candidate) :
      LeaseStep (.transition command.kind) history
        (history.moved command.kind issued.now.toNat candidate.state)
  | rollover (history : LeaseHistory) {command : PhysicalRootRolloverCommand}
      {issued : IssuedRolloverObservation} {submissionId : String} {candidate : RolloverCandidate}
      (exactEpochs : ∀ id, id ∈ issued.usedEpochIds ↔ id ∈ history.epochIds)
      (exactHeads : ∀ head, head ∈ issued.usedLeaseHeads ↔ head ∈ history.leaseHeads)
      (prepared : prepareRollover history.view command (some issued) submissionId =
        .ok candidate) :
      LeaseStep .rollover history (history.rolledOver candidate.view)

/-- Any step, whatever its kind. -/
def LeaseHistory.Steps (before after : LeaseHistory) : Prop :=
  ∃ event, LeaseStep event before after

theorem evaluateLease_move {current : SchedulerLineageView} {command : LeaseTransitionCommand}
    {issued : IssuedLeaseObservation} {submissionId : String} {candidate : LeaseCandidate}
    (evaluated : evaluateLease current command (some issued) submissionId = .ok candidate) :
    LeaseMove command issued current.lease candidate.state := by
  simp only [evaluateLease, exactObservation, bind_ok, pure_ok] at evaluated
  obtain ⟨_, _, observation, ⟨_, _, rfl⟩, _, _, _, _, _, _, _, _, state, derived, rfl⟩ := evaluated
  exact nextLease_move derived

/-- A rollover leaves an exhausted lease for an unleased one under the next version. -/
theorem prepareRollover_ok {current : SchedulerLineageView}
    {command : PhysicalRootRolloverCommand} {issued : Option IssuedRolloverObservation}
    {submissionId : String} {candidate : RolloverCandidate}
    (prepared : prepareRollover current command issued submissionId = .ok candidate) :
    (∃ hold, current.lease = .exhausted hold) ∧
      (∃ genesis, candidate.view.lease = .unleased genesis) ∧
      candidate.view.physicalRoot.selectorVersion.toNat =
        current.physicalRoot.selectorVersion.toNat + 1 := by
  simp only [prepareRollover, bind_ok, raiseIf_ok, pure_ok] at prepared
  obtain ⟨lease, left, _, _, _, _, _, below, _, _, _, _, rfl⟩ := prepared
  have exhausted : current.lease = .exhausted lease := by
    unfold exhaustedLease at left
    split at left
    · rename_i hold found
      simp only [bind_ok, pure_ok] at left
      obtain ⟨_, _, rfl⟩ := left
      exact found
    · cases left
  refine ⟨⟨lease, exhausted⟩, ⟨_, rfl⟩, ?_⟩
  change (current.physicalRoot.selectorVersion + 1).toNat = _
  have bound := current.physicalRoot.selectorVersion.toNat_lt
  rw [UInt64.toNat_add]
  simp only [uint64Max] at below
  have one : (1 : UInt64).toNat = 1 := rfl
  omega

end Steps

/-- Every tenure is over by the time the next one is granted, and by now unless it runs. -/
structure LeaseHistory.Sound (history : LeaseHistory) : Prop where
  distinct : (history.tenures.map Tenure.leaseId).Nodup
  sequential : history.tenures.Pairwise (fun earlier later => earlier.expiry ≤ later.granted)
  granted : ∀ tenure ∈ history.tenures, tenure.granted ≤ history.clock
  running : ∀ binding, history.view.lease = .held binding → ∃ earlier granted,
    history.tenures = earlier ++ [⟨binding.leaseId, granted, binding.trustedExpiry.toNat⟩]
  ended : (∀ binding, history.view.lease ≠ .held binding) →
    ∀ tenure ∈ history.tenures, tenure.expiry ≤ history.clock

namespace LeaseHistory.Sound

theorem genesis (view : SchedulerLineageView) (clock : Nat) (lease : GenesisLease) :
    (LeaseHistory.genesis view clock lease).Sound :=
  ⟨.nil, .nil, by simp [LeaseHistory.genesis], by simp [LeaseHistory.genesis],
    by simp [LeaseHistory.genesis]⟩

/-- A fresh tenure may begin once every earlier one is over. -/
theorem grant {history : LeaseHistory} (sound : history.Sound) {now : Nat} {binding : LeaseBinding}
    {kind : LeaseTransitionKind} (other : kind ≠ .renew) (trusted : history.clock ≤ now)
    (fresh : binding.leaseId ∉ history.tenures.map Tenure.leaseId)
    (passed : ∀ tenure ∈ history.tenures, tenure.expiry ≤ now) :
    (history.moved kind now (.held binding)).Sound := by
  have tenures : (history.moved kind now (.held binding)).tenures =
      history.tenures ++ [⟨binding.leaseId, now, binding.trustedExpiry.toNat⟩] := by
    cases kind with
    | renew => exact absurd rfl other
    | acquire => rfl
    | takeover => rfl
  refine ⟨?_, ?_, ?_, ?_, ?_⟩
  · rw [tenures, List.map_append, List.nodup_append]
    refine ⟨sound.distinct, by simp, ?_⟩
    intro id earlier last member same
    rw [same, List.mem_singleton.mp member] at earlier
    exact fresh earlier
  · rw [tenures, List.pairwise_append]
    refine ⟨sound.sequential, by simp, ?_⟩
    intro earlier member last final
    obtain rfl := List.mem_singleton.mp final
    exact passed earlier member
  · rw [tenures]
    intro tenure member
    rcases List.mem_append.mp member with earlier | final
    · exact (sound.granted tenure earlier).trans trusted
    · obtain rfl := List.mem_singleton.mp final
      exact Nat.le_refl _
  · intro current same
    cases same
    exact ⟨history.tenures, now, tenures⟩
  · intro idle
    exact absurd rfl (idle binding)

/-- A renewal only moves the end of the running tenure. -/
theorem renew {history : LeaseHistory} (sound : history.Sound) {now : Nat}
    {old : LeaseBinding} {head : Identity} {expiry : UInt64}
    (held : history.view.lease = .held old) (trusted : history.clock ≤ now) :
    (history.moved .renew now
      (.held { old with leaseHead := head, trustedExpiry := expiry })).Sound := by
  obtain ⟨earlier, granted, shape⟩ := sound.running old held
  have tenures : (history.moved .renew now
      (.held { old with leaseHead := head, trustedExpiry := expiry })).tenures =
        earlier ++ [⟨old.leaseId, granted, expiry.toNat⟩] := by
    simp [LeaseHistory.moved, LeaseHistory.recordedTenures, shape]
  have distinct := sound.distinct
  have sequential := sound.sequential
  have started := sound.granted
  rw [shape] at distinct sequential started
  refine ⟨?_, ?_, ?_, ?_, ?_⟩
  · rw [tenures]
    simpa using distinct
  · rw [tenures]
    rw [List.pairwise_append] at sequential ⊢
    exact ⟨sequential.1, by simp, by simpa using sequential.2.2⟩
  · rw [tenures]
    intro tenure member
    rcases List.mem_append.mp member with before | final
    · exact (started tenure (List.mem_append_left _ before)).trans trusted
    · obtain rfl := List.mem_singleton.mp final
      have start := started _ (List.mem_append_right earlier (List.mem_singleton_self _))
      exact start.trans trusted
  · intro current same
    cases same
    exact ⟨earlier, granted, tenures⟩
  · intro idle
    exact absurd rfl (idle _)

/-- Once the running lease has expired, every tenure is over. -/
theorem expired {history : LeaseHistory} (sound : history.Sound) {now : Nat}
    {old : LeaseBinding} (held : history.view.lease = .held old) (trusted : history.clock ≤ now)
    (passed : old.trustedExpiry.toNat ≤ now) : ∀ tenure ∈ history.tenures, tenure.expiry ≤ now := by
  obtain ⟨earlier, granted, shape⟩ := sound.running old held
  have sequential := sound.sequential
  have started := sound.granted
  rw [shape] at sequential started ⊢
  intro tenure member
  rcases List.mem_append.mp member with before | final
  · have order := (List.pairwise_append.mp sequential).2.2 tenure before _ (List.mem_singleton_self _)
    have start := started _ (List.mem_append_right earlier (List.mem_singleton_self _))
    exact order.trans (start.trans trusted)
  · obtain rfl := List.mem_singleton.mp final
    exact passed

/-- A history whose lease is not held keeps its tenures. -/
theorem settle {history after : LeaseHistory} (sound : history.Sound)
    (tenures : after.tenures = history.tenures) (trusted : history.clock ≤ after.clock)
    (idle : ∀ binding, after.view.lease ≠ .held binding)
    (passed : ∀ tenure ∈ history.tenures, tenure.expiry ≤ after.clock) : after.Sound := by
  refine ⟨tenures ▸ sound.distinct, tenures ▸ sound.sequential, ?_, ?_, ?_⟩
  · rw [tenures]
    exact fun tenure member => (sound.granted tenure member).trans trusted
  · exact fun binding held => absurd held (idle binding)
  · rw [tenures]
    exact fun _ => passed

theorem disjoint {history : LeaseHistory} (sound : history.Sound) :
    history.tenures.Pairwise (fun left right => Disjoint left.span right.span) := by
  refine sound.sequential.imp ?_
  intro earlier later order
  rw [Set.disjoint_left]
  intro instant before after
  have ends : instant < earlier.expiry := before.2
  have starts : later.granted ≤ instant := after.1
  omega

end LeaseHistory.Sound

/-- What a step does to the selector version and the generation. -/
structure LeaseEvent.Ranked (event : LeaseEvent) (before after : LeaseHistory) : Prop where
  monotone : before.rank ≤ after.rank
  renewed : event = .transition .renew → after.rank = before.rank
  acquired : event = .transition .acquire → before.rank < after.rank
  takenOver : event = .transition .takeover →
    (∀ hold, after.view.lease ≠ .exhausted hold) → before.rank < after.rank
  rolledOver : event = .rollover → before.rank < after.rank
  exhausted : event = .transition .takeover → before.view.lease.generation = uint64Max →
    ∃ hold, after.view.lease = .exhausted hold
  left : ∀ hold, before.view.lease = .exhausted hold → event = .rollover

theorem moved_rank (history : LeaseHistory) (kind : LeaseTransitionKind) (now : Nat)
    (state : ExecutionRootLeaseState) :
    (history.moved kind now state).rank =
      toLex (history.view.physicalRoot.selectorVersion.toNat, state.generation) := rfl

theorem rank_lt {version generation later : Nat} (advanced : generation < later) :
    (toLex (version, generation) : ℕ ×ₗ ℕ) < toLex (version, later) :=
  Prod.Lex.toLex_lt_toLex.mpr (.inr ⟨rfl, advanced⟩)

theorem LeaseMove.ranked {command : LeaseTransitionCommand} {issued : IssuedLeaseObservation}
    {history : LeaseHistory} {observed state : ExecutionRootLeaseState}
    (move : LeaseMove command issued observed state) (current : history.view.lease = observed)
    (now : Nat) :
    LeaseEvent.Ranked (.transition command.kind) history
      (history.moved command.kind now state) := by
  have before : history.rank =
      toLex (history.view.physicalRoot.selectorVersion.toNat, observed.generation) := by
    rw [← current]
    rfl
  cases move with
  | @acquire genesis head kind fresh =>
      have less : history.rank < (history.moved command.kind now
          (.held (grantedLease command issued head 1))).rank := by
        rw [before]
        exact rank_lt Nat.zero_lt_one
      rw [kind] at less ⊢
      exact ⟨less.le, nofun, fun _ => less, nofun, nofun, nofun, by rw [current]; exact fun _ => nofun⟩
  | @renew old head kind =>
      have same : (history.moved command.kind now (.held { old with
          leaseHead := head, trustedExpiry := command.proposedExpiry })).rank = history.rank :=
        before.symm
      rw [kind] at same ⊢
      exact ⟨same.ge, fun _ => same, nofun, nofun, nofun, nofun, by rw [current]; exact fun _ => nofun⟩
  | @takeover old head kind passed fresh advanced =>
      have less : history.rank < (history.moved command.kind now
          (.held (grantedLease command issued head command.proposedGeneration))).rank := by
        rw [before]
        apply rank_lt
        change old.generation.toNat < command.proposedGeneration.toNat
        omega
      rw [kind] at less ⊢
      refine ⟨less.le, nofun, nofun, fun _ _ => less, nofun, ?_, by rw [current]; exact fun _ => nofun⟩
      intro _ last
      rw [current] at last
      have bound := command.proposedGeneration.toNat_lt
      change old.generation.toNat = 2 ^ 64 - 1 at last
      omega
  | @exhaust old hold kind passed last =>
      have same : (history.moved command.kind now (.exhausted hold)).rank = history.rank := by
        rw [before, moved_rank]
        exact congrArg toLex (Prod.ext rfl last.symm)
      rw [kind] at same ⊢
      exact ⟨same.ge, nofun, nofun, fun _ alive => absurd rfl (alive _), nofun,
        fun _ _ => ⟨_, rfl⟩, by rw [current]; exact fun _ => nofun⟩

section Runs

variable [Hashlib]

theorem LeaseStep.sound {event : LeaseEvent} {before after : LeaseHistory}
    (step : LeaseStep event before after) (sound : before.Sound) : after.Sound := by
  cases step with
  | transition history trusted exactIds evaluated =>
      rename_i command issued submissionId candidate
      have move := evaluateLease_move evaluated
      have unused : command.proposedLeaseId ∉ issued.usedLeaseIds →
          command.proposedLeaseId ∉ before.tenures.map Tenure.leaseId :=
        fun fresh known => fresh ((exactIds _).mpr known)
      generalize observed : before.view.lease = lease at move
      generalize candidate.state = state at move
      cases move with
      | acquire kind fresh =>
          rw [kind]
          apply sound.grant (by decide) trusted (unused fresh)
          intro tenure member
          have passed := sound.ended (by rw [observed]; exact fun _ => nofun) tenure member
          exact passed.trans trusted
      | renew kind =>
          rw [kind]
          exact sound.renew observed trusted
      | takeover kind passed fresh =>
          rw [kind]
          exact sound.grant (by decide) trusted (unused fresh)
            (sound.expired observed trusted passed)
      | exhaust kind passed =>
          exact sound.settle rfl trusted (fun _ => nofun) (sound.expired observed trusted passed)
  | rollover history _ _ prepared =>
      obtain ⟨⟨hold, exhausted⟩, ⟨genesis, unleased⟩, _⟩ := prepareRollover_ok prepared
      have idle : ∀ binding, before.view.lease ≠ .held binding := by
        rw [exhausted]
        exact fun _ => nofun
      refine sound.settle rfl (Nat.le_refl before.clock) ?_ (sound.ended idle)
      intro binding held
      rw [LeaseHistory.rolledOver, unleased] at held
      cases held

theorem LeaseStep.ranked {event : LeaseEvent} {before after : LeaseHistory}
    (step : LeaseStep event before after) : event.Ranked before after := by
  cases step with
  | transition history trusted exactIds evaluated =>
      exact (evaluateLease_move evaluated).ranked rfl _
  | rollover history _ _ prepared =>
      obtain ⟨_, _, advanced⟩ := prepareRollover_ok prepared
      have less : before.rank < (before.rolledOver _).rank :=
        Prod.Lex.toLex_lt_toLex.mpr (.inl (by
          rw [LeaseHistory.rolledOver, advanced]
          exact Nat.lt_succ_self _))
      exact ⟨less.le, nofun, nofun, nofun, fun _ => less, nofun, fun _ _ => rfl⟩

def sampleCommand (view : SchedulerLineageView) (kind : LeaseTransitionKind) (leaseId : Identity)
    (expiry generation : UInt64) (proof : TrustedClockProofRef) : LeaseTransitionCommand :=
  { identity := ⟨⟨"command", written _ trivial⟩, ⟨"1", written _ trivial⟩, ⟨"1", written _ trivial⟩⟩
    kind := kind
    lineage := view.lineage
    physicalRoot := view.physicalRoot
    observedLease := view.lease
    proposedHolderId := ⟨"holder", written _ trivial⟩
    proposedHolderSessionId := ⟨"session", written _ trivial⟩
    proposedLeaseId := leaseId
    proposedExpiry := expiry
    proposedGeneration := generation
    clockProof := proof }

end Runs

end Chiplog.AgentLoop
