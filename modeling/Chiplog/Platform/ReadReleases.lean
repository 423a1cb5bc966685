import Chiplog.Platform.ReadLedger

namespace Chiplog.Platform

open Chiplog.Data

/-! Runs of the read ledger.

Each call is one step, except that an invalidator may have read its state at any earlier
moment.  A step changes the row of a read attempt in one of five ways, and the facts about
whole runs follow from these. -/

section Runs

variable [Hashlib]

namespace ReadLedger

/-- The stored fingerprint of a tenant's state. -/
def fingerprintOf (ledger : ReadLedger) (tenantId : String) : Option String :=
  (ledger.states.get? tenantId).map StateRow.stateFingerprint

def dispositionOf (ledger : ReadLedger) (key : String × String) : Option ReadDisposition :=
  (ledger.releases.get? key).map ReleaseRow.state

/-- Every state is stored under its own tenant, with its own fingerprint. -/
def Sound (ledger : ReadLedger) : Prop :=
  ∀ tenantId row, ledger.states.get? tenantId = some row →
    row.canonicalState.tenantId = tenantId ∧ row = row.canonicalState.row

/-- One of the calls that replace a tenant's state by compare and swap. -/
inductive Invalidates (reading ledger : ReadLedger) (tenantId expected : String) :
    BrokerReadState → ReadLedger → Prop
  | storageMutation {commitment observation successor after}
      (returned : reading.invalidateStorageMutation ledger tenantId expected commitment
        observation = .ok (successor, after)) :
      Invalidates reading ledger tenantId expected successor after
  | ownerGeneration {generation successor after}
      (returned : reading.invalidateOwnerGeneration ledger tenantId expected generation =
        .ok (successor, after)) : Invalidates reading ledger tenantId expected successor after
  | ownerDrain {successor after}
      (returned : reading.startOwnerDrain ledger tenantId expected = .ok (successor, after)) :
      Invalidates reading ledger tenantId expected successor after
  | brokerEpoch {epoch successor after}
      (returned : reading.invalidateBrokerEpoch ledger tenantId expected epoch =
        .ok (successor, after)) : Invalidates reading ledger tenantId expected successor after
  | credentialSession {head successor after}
      (returned : reading.invalidateCredentialSession ledger tenantId expected head =
        .ok (successor, after)) : Invalidates reading ledger tenantId expected successor after
  | endpointChannel {head successor after}
      (returned : reading.invalidateEndpointChannel ledger tenantId expected head =
        .ok (successor, after)) : Invalidates reading ledger tenantId expected successor after
  | fileWal {observation successor after}
      (returned : reading.invalidateFileWal ledger tenantId expected observation =
        .ok (successor, after)) : Invalidates reading ledger tenantId expected successor after
  | journalDecision {head successor after}
      (returned : reading.invalidateJournalDecision ledger tenantId expected head =
        .ok (successor, after)) : Invalidates reading ledger tenantId expected successor after
  | materialization {commitment successor after}
      (returned : reading.invalidateMaterialization ledger tenantId expected commitment =
        .ok (successor, after)) : Invalidates reading ledger tenantId expected successor after
  | principalContour {head successor after}
      (returned : reading.invalidatePrincipalContour ledger tenantId expected head =
        .ok (successor, after)) : Invalidates reading ledger tenantId expected successor after
  | trustTransition {head successor after}
      (returned : reading.invalidateTrustTransition ledger tenantId expected head =
        .ok (successor, after)) : Invalidates reading ledger tenantId expected successor after

end ReadLedger

/-- What a step of the ledger was. -/
inductive ReadAction where
  | publishInitialState (state : BrokerReadState)
  | reconcileGeneration (state : BrokerReadState)
  | invalidate (tenantId expected : String) (successor : BrokerReadState)
  | begin (operation : ReadOperation) (state : BrokerReadState)
  | release (operation : ReadOperation) (expected : BrokerReadState) (proof : String)
      (bytes : Bytes)
  | dequeue (operation : ReadOperation) (answer : Option Bytes)

namespace ReadLedger

variable {operation : ReadOperation}

/-- One call that returned; a call that raised has changed nothing. -/
inductive Step : ReadLedger → ReadAction → ReadLedger → Prop
  | publishInitialState {ledger after state}
      (returned : ledger.publishInitialState state = .ok after) :
      Step ledger (.publishInitialState state) after
  | reconcileGeneration (ledger : ReadLedger) (state : BrokerReadState) :
      Step ledger (.reconcileGeneration state) (ledger.reconcileGeneration state)
  | invalidate {reading ledger after tenantId expected successor} (sound : reading.Sound)
      (invalidated : Invalidates reading ledger tenantId expected successor after) :
      Step ledger (.invalidate tenantId expected successor) after
  | begin {ledger after operation state reply}
      (returned : ledger.begin operation state = .ok (reply, after)) :
      Step ledger (.begin operation state) after
  | release {ledger after operation expected proof bytes reply}
      (returned : ledger.release operation expected proof bytes = .ok (reply, after)) :
      Step ledger (.release operation expected proof bytes) after
  | dequeue {ledger after operation answer}
      (returned : ledger.dequeue operation = .ok (answer, after)) :
      Step ledger (.dequeue operation answer) after

/-! ### What one call does -/

theorem currentState_ok {ledger : ReadLedger} {tenantId : String} {state : BrokerReadState}
    (read : ledger.currentState tenantId = .ok state) :
    ∃ row, ledger.states.get? tenantId = some row ∧ row.canonicalState = state := by
  obtain ⟨found, read, returned⟩ := bind_ok.mp read
  unfold currentStateOrNone at read
  cases stored : ledger.states.get? tenantId with
  | none =>
      rw [stored] at read
      cases read
      cases returned
  | some row =>
      rw [stored] at read
      obtain ⟨_, _, read⟩ := bind_ok.mp read
      obtain ⟨_, _, read⟩ := bind_ok.mp read
      cases read
      cases returned
      exact ⟨row, rfl, rfl⟩

/-- A compare and swap that succeeds replaced the state it names. -/
theorem replaceState_ok {ledger after : ReadLedger} {state successor : BrokerReadState}
    {expected : String} {changes : BrokerReadState → BrokerReadState}
    (replaced : ledger.replaceState state expected changes = .ok (successor, after)) :
    successor = changes state ∧ ledger.fingerprintOf state.tenantId = some expected ∧
      after = { ledger with states := ledger.states.set state.tenantId successor.row } := by
  obtain ⟨_, _, replaced⟩ := bind_ok.mp replaced
  obtain ⟨_, stored, replaced⟩ := bind_ok.mp replaced
  cases replaced
  exact ⟨rfl, not_not.mp (raiseIf_ok.mp stored), rfl⟩

/-- What every invalidator does. -/
theorem replaced_of_read {reading ledger after : ReadLedger} {tenantId expected : String}
    {successor : BrokerReadState} {changes : BrokerReadState → BrokerReadState}
    (sound : reading.Sound) (keeps : ∀ state, (changes state).tenantId = state.tenantId)
    (returned : (reading.currentState tenantId >>= fun state =>
      ledger.replaceState state expected changes) = .ok (successor, after)) :
    successor.tenantId = tenantId ∧ ledger.fingerprintOf tenantId = some expected ∧
      after = { ledger with states := ledger.states.set tenantId successor.row } := by
  obtain ⟨state, read, replaced⟩ := bind_ok.mp returned
  obtain ⟨row, stored, rfl⟩ := currentState_ok read
  obtain ⟨rfl, swapped, written⟩ := replaceState_ok replaced
  have own := (sound tenantId row stored).1
  rw [own] at swapped written
  exact ⟨(keeps _).trans own, swapped, written⟩

theorem Invalidates.replaced {reading ledger after : ReadLedger} {tenantId expected : String}
    {successor : BrokerReadState} (sound : reading.Sound)
    (invalidated : Invalidates reading ledger tenantId expected successor after) :
    successor.tenantId = tenantId ∧ ledger.fingerprintOf tenantId = some expected ∧
      after = { ledger with states := ledger.states.set tenantId successor.row } := by
  cases invalidated
  all_goals
    rename_i returned
    refine replaced_of_read sound ?_ returned
    intro state
    rfl

theorem publishInitialState_ok {ledger after : ReadLedger} {state : BrokerReadState}
    (returned : ledger.publishInitialState state = .ok after) :
    ledger.fingerprintOf state.tenantId = none ∧
      after = { ledger with states := ledger.states.set state.tenantId state.row } := by
  obtain ⟨_, absent, returned⟩ := bind_ok.mp returned
  cases returned
  have missing := raiseIf_ok.mp absent
  rw [Option.not_isSome_iff_eq_none] at missing
  exact ⟨by rw [fingerprintOf, missing, Option.map_none], rfl⟩

theorem begin_ok {ledger after : ReadLedger} {state : BrokerReadState}
    {reply : ReadRelease} (returned : ledger.begin operation state = .ok (reply, after)) :
    operation.tenantId = state.tenantId ∧ ledger.releases.get? operation.key = none ∧
      after = ledger.putRelease operation.key (operation.prepared state) := by
  obtain ⟨_, tenant, returned⟩ := bind_ok.mp returned
  obtain ⟨_, absent, returned⟩ := bind_ok.mp returned
  cases returned
  exact ⟨not_not.mp (raiseIf_ok.mp tenant),
    Option.not_isSome_iff_eq_none.mp (raiseIf_ok.mp absent), rfl⟩

/-- A release repeats a settled row, releases a current one or finds it outdated. -/
theorem release_ok {ledger after : ReadLedger}
    {expected : BrokerReadState} {proof : String} {bytes : Bytes} {reply : ReadRelease}
    (returned : ledger.release operation expected proof bytes = .ok (reply, after)) :
    ∃ row, ledger.releases.get? operation.key = some row ∧
      row.requestFingerprint = operation.fingerprint ∧
      (row.state ≠ .pending ∧ after = ledger ∨
        row.state = .pending ∧ ledger.CurrentMatches row operation expected ∧
          after = ledger.putRelease operation.key (row.release proof bytes) ∨
        row.state = .pending ∧ ¬ ledger.CurrentMatches row operation expected ∧
          after = ledger.putRelease operation.key (row.stale proof)) := by
  unfold release at returned
  cases found : ledger.releases.get? operation.key with
  | none =>
      rw [found] at returned
      cases returned
  | some row =>
      rw [found] at returned
      obtain ⟨_, same, returned⟩ := bind_ok.mp returned
      refine ⟨row, rfl, not_not.mp (raiseIf_ok.mp same), ?_⟩
      split at returned
      · rename_i settled
        cases returned
        exact .inl ⟨settled, rfl⟩
      · rename_i pending
        rw [not_not] at pending
        split at returned
        · rename_i current
          cases returned
          exact .inr (.inl ⟨pending, current, rfl⟩)
        · rename_i outdated
          cases returned
          exact .inr (.inr ⟨pending, outdated, rfl⟩)

/-- A dequeue returns nothing and changes nothing, or takes the bytes of a released row. -/
theorem dequeue_ok {ledger after : ReadLedger} {answer : Option Bytes}
    (returned : ledger.dequeue operation = .ok (answer, after)) :
    answer = none ∧ after = ledger ∨
      ∃ row bytes, answer = some bytes ∧ ledger.releases.get? operation.key = some row ∧
        row.recipientFingerprint = operation.recipientFingerprint ∧ row.state = .released ∧
        row.dequeued = false ∧ row.resultBytes = some bytes ∧
        after = ledger.putRelease operation.key { row with dequeued := true } := by
  unfold dequeue at returned
  split at returned
  · cases returned
    exact .inl ⟨rfl, rfl⟩
  · rename_i row found
    split at returned
    · cases returned
      exact .inl ⟨rfl, rfl⟩
    · rename_i open_
      simp only [not_or, not_not, ne_eq, Bool.not_eq_true] at open_
      obtain ⟨recipient, released, _, kept⟩ := open_
      split at returned
      · cases returned
      · rename_i bytes stored
        cases returned
        exact .inr ⟨row, bytes, rfl, found, recipient, released, kept, stored, rfl⟩

/-! ### What a step changes -/

/-- What a step may do to the row of one read attempt. -/
inductive RowChange (before : ReadLedger) (action : ReadAction) (key : String × String) :
    Option ReleaseRow → Option ReleaseRow → Prop
  | same (row : Option ReleaseRow) : RowChange before action key row row
  | begun {operation : ReadOperation} {state : BrokerReadState}
      (isBegin : action = .begin operation state) (own : operation.key = key) :
      RowChange before action key none (some (operation.prepared state))
  | fenced {state : BrokerReadState} {row : ReleaseRow}
      (isRestart : action = .reconcileGeneration state) (own : key.1 = state.tenantId)
      (pending : row.state = .pending) :
      RowChange before action key (some row) (some row.fence)
  | released {operation : ReadOperation} {expected : BrokerReadState} {proof : String}
      {bytes : Bytes} {row : ReleaseRow} (isRelease : action = .release operation expected proof bytes)
      (own : operation.key = key) (request : row.requestFingerprint = operation.fingerprint)
      (pending : row.state = .pending) (current : before.CurrentMatches row operation expected) :
      RowChange before action key (some row) (some (row.release proof bytes))
  | stale {operation : ReadOperation} {expected : BrokerReadState} {proof : String}
      {bytes : Bytes} {row : ReleaseRow} (isRelease : action = .release operation expected proof bytes)
      (own : operation.key = key) (pending : row.state = .pending)
      (outdated : ¬ before.CurrentMatches row operation expected) :
      RowChange before action key (some row) (some (row.stale proof))
  | delivered {operation : ReadOperation} {bytes : Bytes} {row : ReleaseRow}
      (isDequeue : action = .dequeue operation (some bytes)) (own : operation.key = key)
      (recipient : row.recipientFingerprint = operation.recipientFingerprint)
      (released : row.state = .released) (kept : row.dequeued = false)
      (stored : row.resultBytes = some bytes) :
      RowChange before action key (some row) (some { row with dequeued := true })

/-- A row that is put changes the row of its own key only. -/
theorem RowChange.put {before : ReadLedger} {action : ReadAction} {own key : String × String}
    {row : ReleaseRow}
    (changed : own = key → RowChange before action key (before.releases.get? key) (some row)) :
    RowChange before action key (before.releases.get? key)
      ((before.putRelease own row).releases.get? key) := by
  rw [putRelease, Dict.get?_set]
  by_cases same : key = own
  · rw [if_pos same]
    exact changed same.symm
  · rw [if_neg same]
    exact .same _

theorem Step.row {before after : ReadLedger} {action : ReadAction}
    (step : Step before action after) (key : String × String) :
    RowChange before action key (before.releases.get? key) (after.releases.get? key) := by
  cases step with
  | publishInitialState returned =>
      rw [(publishInitialState_ok returned).2]
      exact .same _
  | reconcileGeneration _ state =>
      rw [ReadLedger.reconcileGeneration, Dict.get?_mapValues]
      cases before.releases.get? key with
      | none => exact .same none
      | some row =>
          rw [Option.map_some, fenced]
          split
          · rename_i pending
            exact .fenced rfl pending.1 pending.2
          · exact .same (some row)
  | invalidate sound invalidated =>
      rw [(invalidated.replaced sound).2.2]
      exact .same _
  | begin returned =>
      obtain ⟨_, absent, rfl⟩ := begin_ok returned
      refine .put ?_
      rintro rfl
      rw [absent]
      exact .begun rfl rfl
  | release returned =>
      obtain ⟨row, found, request, ⟨_, rfl⟩ | ⟨pending, current, rfl⟩ | ⟨pending, outdated, rfl⟩⟩ :=
        release_ok returned
      · exact .same _
      · refine .put ?_
        rintro rfl
        rw [found]
        exact .released rfl rfl request pending current
      · refine .put ?_
        rintro rfl
        rw [found]
        exact .stale rfl rfl pending outdated
  | dequeue returned =>
      rcases dequeue_ok returned with ⟨_, rfl⟩ |
        ⟨row, bytes, rfl, found, recipient, released, kept, stored, rfl⟩
      · exact .same _
      · refine .put ?_
        rintro rfl
        rw [found]
        exact .delivered rfl rfl recipient released kept stored

end ReadLedger

/-- The state that a step publishes for a tenant. -/
def ReadAction.published (tenantId : String) : ReadAction → Option BrokerReadState
  | .publishInitialState state => if state.tenantId = tenantId then some state else none
  | .reconcileGeneration state => if state.tenantId = tenantId then some state else none
  | .invalidate tenant _ successor => if tenant = tenantId then some successor else none
  | _ => none

namespace ReadLedger

variable {key : String × String}

/-- A step stores what it publishes and keeps the states of every other tenant. -/
theorem Step.states {before after : ReadLedger} {action : ReadAction}
    (step : Step before action after) (tenantId : String) :
    after.states.get? tenantId =
      ((action.published tenantId).map BrokerReadState.row).or (before.states.get? tenantId) := by
  have written (tenant : String) (state : BrokerReadState) :
      (before.states.set tenant state.row).get? tenantId =
        ((if tenant = tenantId then some state else none).map BrokerReadState.row).or
          (before.states.get? tenantId) := by
    rw [Dict.get?_set]
    by_cases same : tenant = tenantId
    · rw [if_pos same, if_pos same.symm, Option.map_some, Option.some_or]
    · rw [if_neg same, if_neg (fun other => same other.symm), Option.map_none, Option.none_or]
  cases step with
  | publishInitialState returned =>
      rw [(publishInitialState_ok returned).2]
      exact written _ _
  | reconcileGeneration => exact written _ _
  | invalidate sound invalidated =>
      rw [(invalidated.replaced sound).2.2]
      exact written _ _
  | begin returned =>
      obtain ⟨_, _, rfl⟩ := begin_ok returned
      rfl
  | release returned =>
      obtain ⟨row, _, _, ⟨_, rfl⟩ | ⟨_, _, rfl⟩ | ⟨_, _, rfl⟩⟩ := release_ok returned <;> rfl
  | dequeue returned =>
      rcases dequeue_ok returned with ⟨_, rfl⟩ | ⟨_, _, _, _, _, _, _, _, rfl⟩ <;> rfl

theorem Step.sound {before after : ReadLedger} {action : ReadAction}
    (step : Step before action after) (sound : before.Sound) : after.Sound := by
  intro tenantId row stored
  rw [step.states tenantId] at stored
  cases published : action.published tenantId with
  | none =>
      rw [published, Option.map_none, Option.none_or] at stored
      exact sound tenantId row stored
  | some state =>
      rw [published, Option.map_some, Option.some_or, Option.some.injEq] at stored
      subst stored
      refine ⟨?_, rfl⟩
      cases step with
      | publishInitialState =>
          obtain ⟨own, same⟩ := Option.ite_none_right_eq_some.mp published
          cases same
          exact own
      | reconcileGeneration =>
          obtain ⟨own, same⟩ := Option.ite_none_right_eq_some.mp published
          cases same
          exact own
      | invalidate read invalidated =>
          obtain ⟨own, same⟩ := Option.ite_none_right_eq_some.mp published
          cases same
          exact (invalidated.replaced read).1.trans own
      | begin => cases published
      | release => cases published
      | dequeue => cases published

/-! ### Settled attempts -/

/-- A row that differs at most in whether its bytes were taken. -/
def Keeps (earlier later : ReleaseRow) : Prop :=
  later = { earlier with dequeued := later.dequeued }

/-- The ledger still holds a settled row. -/
def Holds (key : String × String) (row : ReleaseRow) (ledger : ReadLedger) : Prop :=
  ∃ kept, ledger.releases.get? key = some kept ∧ Keeps row kept

theorem RowChange.settled {before : ReadLedger} {action : ReadAction}
    {row : ReleaseRow} {now : Option ReleaseRow}
    (change : RowChange before action key (some row) now) (settled : row.state ≠ .pending) :
    ∃ later, now = some later ∧ Keeps row later := by
  cases change with
  | same => exact ⟨row, rfl, rfl⟩
  | fenced _ _ pending => exact absurd pending settled
  | released _ _ _ pending => exact absurd pending settled
  | stale _ _ pending => exact absurd pending settled
  | delivered => exact ⟨_, rfl, rfl⟩

omit [Hashlib] in
theorem Holds.dispositionOf {row : ReleaseRow} {ledger : ReadLedger}
    (held : Holds key row ledger) : ledger.dispositionOf key = some row.state := by
  obtain ⟨kept, found, same⟩ := held
  rw [ReadLedger.dispositionOf, found, Option.map_some, same]

/-- A settled row is held from then on. -/
theorem settled_held {ledger later : ReadLedger} {actions : List ReadAction}
    {row : ReleaseRow} (trace : Trace Step ledger actions later)
    (stored : ledger.releases.get? key = some row) (settled : row.state ≠ .pending) :
    Holds key row later := by
  refine trace.invariant ?_ ⟨row, stored, rfl⟩
  rintro before action after step ⟨kept, found, same⟩
  have change := step.row key
  rw [found] at change
  have unchanged : kept.state ≠ .pending := by
    rw [same]
    exact settled
  obtain ⟨next, stored, own⟩ := change.settled unchanged
  refine ⟨next, stored, ?_⟩
  rw [Keeps, own, same]

end ReadLedger

/-! ### Reads begun before an invalidation -/

/-- The step is a release of the read attempt. -/
def ReadAction.Releases (key : String × String) : ReadAction → Prop
  | .release operation _ _ _ => operation.key = key
  | _ => False

/-- The step is a restart, which fences the pending reads of its tenant. -/
def ReadAction.Fences (tenantId : String) : ReadAction → Prop
  | .reconcileGeneration state => state.tenantId = tenantId
  | _ => False

namespace ReadLedger

variable {ledger : ReadLedger} {waiting : List ReadAction}

theorem Step.fences {before after : ReadLedger} {action : ReadAction} {key : String × String}
    {row : ReleaseRow} (step : Step before action after) (fences : action.Fences key.1)
    (stored : before.releases.get? key = some row) (pending : row.state = .pending) :
    after.releases.get? key = some row.fence := by
  cases step with
  | reconcileGeneration _ state =>
      rw [ReadLedger.reconcileGeneration, Dict.get?_mapValues, stored, Option.map_some, fenced,
        if_pos ⟨Eq.symm fences, pending⟩]
  | publishInitialState => cases fences
  | invalidate => cases fences
  | begin => cases fences
  | release => cases fences
  | dequeue => cases fences

/-- Until its first release a pending row stays as it is or is fenced. -/
theorem waiting_row {opened later : ReadLedger}
    {key : String × String} {row : ReleaseRow} (waited : Trace Step opened waiting later)
    (unreleased : ∀ action ∈ waiting, ¬ action.Releases key)
    (stored : opened.releases.get? key = some row) (pending : row.state = .pending) :
    (∃ action ∈ waiting, action.Fences key.1) ∧ Holds key row.fence later ∨
      (∀ action ∈ waiting, ¬ action.Fences key.1) ∧ later.releases.get? key = some row := by
  induction waited with
  | nil => exact .inr ⟨List.forall_mem_nil _, stored⟩
  | @cons first next last action rest head tail ih =>
      obtain ⟨own, unreleased⟩ := List.forall_mem_cons.mp unreleased
      by_cases fences : action.Fences key.1
      · have fenced := head.fences fences stored pending
        exact .inl ⟨⟨action, List.mem_cons_self, fences⟩,
          settled_held tail fenced (by simp [ReleaseRow.fence])⟩
      · have change := head.row key
        rw [stored] at change
        have unchanged : next.releases.get? key = some row := by
          generalize next.releases.get? key = now at change
          cases change with
          | same => rfl
          | fenced isRestart sameTenant =>
              subst isRestart
              exact absurd (Eq.symm sameTenant) fences
          | released isRelease isOwn =>
              subst isRelease
              exact absurd isOwn own
          | stale isRelease isOwn =>
              subst isRelease
              exact absurd isOwn own
          | delivered _ _ _ released =>
              rw [pending] at released
              cases released
        rcases ih unreleased unchanged with ⟨⟨other, member, isFence⟩, found⟩ | ⟨free, found⟩
        · exact .inl ⟨⟨other, List.mem_cons_of_mem _ member, isFence⟩, found⟩
        · exact .inr ⟨List.forall_mem_cons.mpr ⟨fences, free⟩, found⟩

/-- The stored fingerprint is that of the last state published. -/
theorem fingerprint_avoids {opened later : ReadLedger}
    {tenantId fingerprint : String} (waited : Trace Step opened waiting later)
    (avoids : ∀ action ∈ waiting, ∀ state, action.published tenantId = some state →
      state.fingerprint ≠ fingerprint)
    (published : (∃ action ∈ waiting, (action.published tenantId).isSome) ∨
      opened.fingerprintOf tenantId ≠ some fingerprint) :
    later.fingerprintOf tenantId ≠ some fingerprint := by
  induction waited with
  | nil => exact published.resolve_left (by simp)
  | @cons first next last action rest head tail ih =>
      obtain ⟨own, avoids⟩ := List.forall_mem_cons.mp avoids
      apply ih avoids
      cases written : action.published tenantId with
      | some state =>
          right
          rw [fingerprintOf, head.states tenantId, written, Option.map_some, Option.some_or,
            Option.map_some]
          exact fun same => own state written (Option.some.inj same)
      | none =>
          have kept : next.fingerprintOf tenantId = first.fingerprintOf tenantId := by
            rw [fingerprintOf, head.states tenantId, written, Option.map_none, Option.none_or]
            rfl
          rw [kept]
          refine published.imp_left ?_
          rintro ⟨other, member, isSome⟩
          rcases List.mem_cons.mp member with rfl | later
          · rw [written] at isSome
            cases isSome
          · exact ⟨other, later, isSome⟩

/-- The release finds the state that the read was begun with although it was replaced: no
restart fenced the read, and the fingerprint stored now is the old one again. -/
def Revived (later : ReadLedger) (waiting : List ReadAction) (state : BrokerReadState)
    (again : ReadOperation) (expected : BrokerReadState) : Prop :=
  (∀ action ∈ waiting, ¬ action.Fences state.tenantId) ∧
    later.fingerprintOf state.tenantId = some state.fingerprint ∧
    expected.fingerprint = state.fingerprint ∧ expected.ownerDraining = false ∧
    again.brokerEpoch = expected.brokerEpoch ∧ again.generationId = expected.ownerGeneration

/-- What the first release makes of a read that has waited. -/
theorem first_release {before opened later next : ReadLedger}
    {operation again : ReadOperation} {state expected : BrokerReadState}
    {reply answer : ReadRelease} {proof : String} {bytes : Bytes}
    (begun : before.begin operation state = .ok (reply, opened))
    (waited : Trace Step opened waiting later)
    (unreleased : ∀ action ∈ waiting, ¬ action.Releases operation.key)
    (own : again.key = operation.key)
    (first : later.release again expected proof bytes = .ok (answer, next)) :
    later.dispositionOf operation.key ≠ some .released ∧
      ∃ row, Holds operation.key row next ∧ row.state ≠ .pending ∧
        (row.state = .released ↔ later.Revived waiting state again expected) := by
  obtain ⟨tenant, _, rfl⟩ := begin_ok begun
  have stored : (before.putRelease operation.key (operation.prepared state)).releases.get?
      operation.key = some (operation.prepared state) := by
    rw [putRelease, Dict.get?_set, if_pos rfl]
  have sameTenant : again.tenantId = state.tenantId := (Prod.ext_iff.mp own).1.trans tenant
  have ownTenant : operation.key.1 = state.tenantId := tenant
  obtain ⟨row, found, _, outcome⟩ := release_ok first
  rw [own] at found outcome
  rcases waiting_row waited unreleased stored rfl with ⟨⟨action, member, fences⟩, held⟩ |
    ⟨unfenced, waits⟩
  · have disposition := held.dispositionOf
    have settled : row.state ≠ .pending := by
      rw [dispositionOf, found, Option.map_some, Option.some.injEq] at disposition
      rw [disposition]
      simp [ReleaseRow.fence]
    rcases outcome with ⟨_, rfl⟩ | ⟨pending, _⟩ | ⟨pending, _⟩
    · refine ⟨?_, _, held, by simp [ReleaseRow.fence], ?_⟩
      · rw [disposition]
        simp [ReleaseRow.fence]
      · rw [ownTenant] at fences
        simp only [ReleaseRow.fence, reduceCtorEq, false_iff]
        exact fun revived => revived.1 action member fences
    · exact absurd pending settled
    · exact absurd pending settled
  · cases found.symm.trans waits
    have pending : later.dispositionOf operation.key ≠ some .released := by
      rw [dispositionOf, waits, Option.map_some]
      simp [ReadOperation.prepared]
    have put (settled : ReleaseRow) :
        Holds operation.key settled (later.putRelease operation.key settled) := by
      refine ⟨settled, ?_, rfl⟩
      rw [putRelease, Dict.get?_set, if_pos rfl]
    have current : later.CurrentMatches (operation.prepared state) again expected ↔
        later.Revived waiting state again expected := by
      rw [ownTenant] at unfenced
      unfold CurrentMatches Revived
      rw [sameTenant, ← fingerprintOf]
      constructor
      · rintro ⟨stored, initial, matches_⟩
        exact ⟨unfenced, by rw [stored]; exact congrArg some initial.symm, initial.symm, matches_⟩
      · rintro ⟨_, stored, initial, matches_⟩
        exact ⟨by rw [stored, initial], initial.symm, matches_⟩
    rcases outcome with ⟨settled, _⟩ | ⟨_, matches_, rfl⟩ | ⟨_, outdated, rfl⟩
    · exact absurd rfl settled
    · exact ⟨pending, _, put _, by simp [ReleaseRow.release],
        iff_of_true rfl (current.mp matches_)⟩
    · exact ⟨pending, _, put _, by simp [ReleaseRow.stale],
        iff_of_false (by simp [ReleaseRow.stale]) (fun revived => outdated (current.mpr revived))⟩

/-- A read begun before a replacement is never released, from its first release on, exactly
when that release does not find the old state revived.  No replacement that publishes another
fingerprint, and no restart, revives it. -/
theorem unreleased_iff_not_revived {before opened later next : ReadLedger}
    {operation again : ReadOperation} {state expected : BrokerReadState}
    {reply answer : ReadRelease} {proof : String} {bytes : Bytes} {waiting : List ReadAction}
    (begun : before.begin operation state = .ok (reply, opened))
    (waited : Trace Step opened waiting later)
    (replaced : ∃ action ∈ waiting, (action.published state.tenantId).isSome)
    (unreleased : ∀ action ∈ waiting, ¬ action.Releases operation.key)
    (own : again.key = operation.key)
    (first : later.release again expected proof bytes = .ok (answer, next)) :
    later.dispositionOf operation.key ≠ some .released ∧
    ((∀ actions final, Trace Step next actions final →
        final.dispositionOf operation.key ≠ some .released) ↔
      ¬ later.Revived waiting state again expected) ∧
    ((∀ action ∈ waiting, ∀ successor, action.published state.tenantId = some successor →
        action.Fences state.tenantId ∨ successor.fingerprint ≠ state.fingerprint) →
      ∀ actions final, Trace Step next actions final →
        final.dispositionOf operation.key ≠ some .released) := by
  obtain ⟨unreleased, row, held, settled, released⟩ :=
    first_release begun waited unreleased own first
  have stays : ∀ actions final, Trace Step next actions final →
      final.dispositionOf operation.key = some row.state := by
    intro actions final trace
    obtain ⟨kept, found, same⟩ := held
    have unchanged : kept.state = row.state := by rw [same]
    rw [← unchanged]
    exact (settled_held trace found (unchanged ▸ settled)).dispositionOf
  have exactly : (∀ actions final, Trace Step next actions final →
      final.dispositionOf operation.key ≠ some .released) ↔
        ¬ later.Revived waiting state again expected := by
    rw [← released]
    constructor
    · intro never isReleased
      exact never [] next (.nil next) ((stays [] next (.nil next)).trans (congrArg some isReleased))
    · intro other actions final trace isReleased
      exact other (Option.some.inj ((stays actions final trace).symm.trans isReleased))
  refine ⟨unreleased, exactly, ?_⟩
  intro other
  apply exactly.mpr
  rintro ⟨unfenced, stored, _⟩
  refine fingerprint_avoids waited ?_ (.inl replaced) stored
  intro action member successor published
  exact (other action member successor published).resolve_left (unfenced action member)

theorem release_pending {operation : ReadOperation} {row : ReleaseRow}
    (found : ledger.releases.get? operation.key = some row)
    (same : row.requestFingerprint = operation.fingerprint) (pending : row.state = .pending)
    (expected : BrokerReadState) (proof : String) (bytes : Bytes) :
    ledger.release operation expected proof bytes =
      if ledger.CurrentMatches row operation expected then
        .ok (⟨operation.tenantId, operation.readAttemptId, .released, some (sha256 bytes).text,
          operation.recipientFingerprint, some proof, true, false⟩,
          ledger.putRelease operation.key (row.release proof bytes))
      else
        .ok (⟨operation.tenantId, operation.readAttemptId, .staleOrIndeterminateRead, none,
          operation.recipientFingerprint, some proof, false, false⟩,
          ledger.putRelease operation.key (row.stale proof)) := by
  unfold release
  rw [found]
  dsimp only
  rw [raiseIf_neg (not_not.mpr same), ok_bind, if_neg (not_not.mpr pending)]

/-- A replay of a settled attempt answers with its row. -/
theorem release_settled {operation : ReadOperation} {row : ReleaseRow}
    (found : ledger.releases.get? operation.key = some row)
    (same : row.requestFingerprint = operation.fingerprint) (settled : row.state ≠ .pending)
    (expected : BrokerReadState) (proof : String) (bytes : Bytes) :
    ledger.release operation expected proof bytes =
      .ok (releaseFromRow operation row, ledger) := by
  unfold release
  rw [found]
  dsimp only
  rw [raiseIf_neg (not_not.mpr same), ok_bind, if_pos settled]

/-- A compare and swap on the state that is stored succeeds. -/
theorem replaceState_current {state : BrokerReadState}
    (stored : ledger.fingerprintOf state.tenantId = some state.fingerprint)
    (changes : BrokerReadState → BrokerReadState) :
    ledger.replaceState state state.fingerprint changes =
      .ok (changes state,
        { ledger with states := ledger.states.set state.tenantId (changes state).row }) := by
  rw [replaceState, raiseIf_neg (not_not.mpr rfl), ok_bind, ← fingerprintOf, stored,
    raiseIf_neg (not_not.mpr rfl), ok_bind]

theorem currentState_stored {tenantId : String} {state : BrokerReadState}
    (valid : state.Valid) (stored : ledger.states.get? tenantId = some state.row) :
    ledger.currentState tenantId = .ok state := by
  rw [currentState, currentStateOrNone, stored]
  dsimp only [BrokerReadState.row]
  rw [raiseIf_neg (not_not.mpr valid), ok_bind, raiseIf_neg (not_not.mpr rfl)]
  rfl

end ReadLedger

end Runs

/-! ### A sample -/

def sampleReadState : BrokerReadState where
  tenantId := "tenant-1"
  brokerEpoch := 1
  credentialSessionHead := "credential-session-1"
  endpointChannelHead := "endpoint-1"
  fileWalObservation := "file-1"
  journalHead := "journal-1"
  materializationCommitment := "commitment-1"
  ownerGeneration := "generation-1"
  ownerDraining := false
  principalContourHead := "contour-1"
  storageMutationGeneration := 0
  trustTransitionHead := "trust-1"
  authoritySurfaceDigest := "surface-1"
  amrFingerprint := "amr-1"

def sampleReadOperation : ReadOperation where
  variant := .planningPublications
  requestId := "request-1"
  readAttemptId := "attempt-1"
  tenantId := "tenant-1"
  brokerEpoch := 1
  ownerId := "projections"
  generationId := "generation-1"
  sessionId := "session-1"
  afterCommitSequence := 0
  afterOperationKind := ""
  afterIdempotencyKey := ""
  maxRows := 10
  responseSlotId := "slot-1"

def sampleDraining : BrokerReadState := { sampleReadState with ownerDraining := true }

namespace ReadLedger

/-- A ledger with the sample state. -/
def samplePublished [Hashlib] : ReadLedger :=
  { empty with states := empty.states.set "tenant-1" sampleReadState.row }

/-- The same ledger with an attempt begun with its state. -/
def sampleOpened [Hashlib] : ReadLedger :=
  samplePublished.putRelease sampleReadOperation.key (sampleReadOperation.prepared sampleReadState)

/-- A drain that is followed by the generation it drained: the read begun before both is
released. -/
theorem drained_and_restored_is_released :
    letI := Sha256.hashlib
    ∃ (published opened drained later next : ReadLedger) (reply answer : ReadRelease),
      empty.publishInitialState sampleReadState = .ok published ∧
      published.currentState "tenant-1" = .ok sampleReadState ∧
      published.begin sampleReadOperation sampleReadState = .ok (reply, opened) ∧
      opened.startOwnerDrain opened "tenant-1" sampleReadState.fingerprint =
        .ok (sampleDraining, drained) ∧
      drained.invalidateOwnerGeneration drained "tenant-1" sampleDraining.fingerprint
        "generation-1" = .ok (sampleReadState, later) ∧
      later.release sampleReadOperation sampleReadState "proof-1" [1] = .ok (answer, next) ∧
      next.dispositionOf sampleReadOperation.key = some .released := by
  let _ := Sha256.hashlib
  let drained : ReadLedger :=
    { sampleOpened with states := sampleOpened.states.set "tenant-1" sampleDraining.row }
  let later : ReadLedger :=
    { drained with states := drained.states.set "tenant-1" sampleReadState.row }
  have drain : sampleOpened.startOwnerDrain sampleOpened "tenant-1" sampleReadState.fingerprint =
      .ok (sampleDraining, drained) := by
    rw [startOwnerDrain, currentState_stored (by decide) rfl, ok_bind, replaceState_current rfl]
    rfl
  have restore : drained.invalidateOwnerGeneration drained "tenant-1" sampleDraining.fingerprint
      "generation-1" = .ok (sampleReadState, later) := by
    rw [invalidateOwnerGeneration, currentState_stored (by decide) rfl, ok_bind,
      replaceState_current rfl]
    rfl
  have current : later.CurrentMatches (sampleReadOperation.prepared sampleReadState)
      sampleReadOperation sampleReadState :=
    ⟨rfl, rfl, rfl, rfl, rfl⟩
  have stored : later.releases.get? sampleReadOperation.key =
      some (sampleReadOperation.prepared sampleReadState) := rfl
  have released : ∃ answer, later.release sampleReadOperation sampleReadState "proof-1" [1] =
      .ok (answer, later.putRelease sampleReadOperation.key
        ((sampleReadOperation.prepared sampleReadState).release "proof-1" [1])) := by
    rw [release_pending stored rfl rfl, if_pos current]
    exact ⟨_, rfl⟩
  obtain ⟨answer, released⟩ := released
  exact ⟨samplePublished, sampleOpened, drained, later, _, _, answer, rfl,
    currentState_stored (by decide) rfl, rfl, drain, restore, released, rfl⟩

/-- A restart fences the read, although the state it publishes is the old one. -/
theorem unreleased_iff_not_revived_sample :
    letI := Sha256.hashlib
    ∃ (next : ReadLedger) (reply answer : ReadRelease),
      samplePublished.begin sampleReadOperation sampleReadState = .ok (reply, sampleOpened) ∧
      (sampleOpened.reconcileGeneration sampleReadState).release sampleReadOperation
        sampleReadState "proof-1" [1] = .ok (answer, next) ∧
      ∀ actions final, Trace Step next actions final →
        final.dispositionOf sampleReadOperation.key ≠ some .released := by
  let _ := Sha256.hashlib
  let restarted := sampleOpened.reconcileGeneration sampleReadState
  have begun : ∃ reply, samplePublished.begin sampleReadOperation sampleReadState =
      .ok (reply, sampleOpened) :=
    ⟨_, rfl⟩
  obtain ⟨reply, begun⟩ := begun
  have stored : restarted.releases.get? sampleReadOperation.key =
      some (sampleReadOperation.prepared sampleReadState).fence := rfl
  have released := release_settled stored rfl (by decide) sampleReadState "proof-1" [1]
  have waited : Trace Step sampleOpened [.reconcileGeneration sampleReadState] restarted :=
    .single (.reconcileGeneration _ _)
  have facts := unreleased_iff_not_revived begun waited
    ⟨_, List.mem_singleton_self _, rfl⟩ (by simp [ReadAction.Releases]) rfl released
  refine ⟨_, reply, _, begun, released, facts.2.1.mpr ?_⟩
  exact fun revived => revived.1 _ (List.mem_singleton_self _) rfl

end ReadLedger

end Chiplog.Platform
