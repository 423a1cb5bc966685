import Chiplog.Platform.ReadReleases

namespace Chiplog.Platform

open Chiplog.Data

/-! A read is released and delivered exactly once.

The rows remember, by fingerprints, who began and who released them; the canonical texts then
tell the states and operations apart, unless two of them share a digest. -/

instance : Json.Legible BrokerReadState where
  read := by
    intro first second same
    have values := Json.sorted_obj_inj ["tenant_id", "broker_epoch", "credential_session_head",
      "endpoint_channel_head", "file_wal_observation", "journal_head",
      "materialization_commitment", "owner_generation", "owner_draining",
      "principal_contour_head", "storage_mutation_generation", "trust_transition_head",
      "authority_surface_digest", "amr_fingerprint"] rfl rfl (by decide) same
    cases first
    cases second
    simp only [modelDump, List.map_cons, List.cons.injEq, Json.sorted_eq] at values
    rw [BrokerReadState.mk.injEq]
    simp [values]

instance : Json.Legible ReadVariant where
  read := by
    intro first second same
    cases first <;> cases second <;> first | rfl | exact absurd (Json.str.inj same) (by decide)

instance : Json.Legible ReadOperation where
  read := by
    intro first second same
    have values := Json.sorted_obj_inj ["variant", "request_id", "read_attempt_id", "tenant_id",
      "broker_epoch", "owner_id", "generation_id", "session_id", "capability_id", "target_id",
      "after_commit_sequence", "after_operation_kind", "after_idempotency_key", "max_rows",
      "response_slot_id"] rfl rfl (by decide) same
    cases first
    cases second
    simp only [modelDump, List.map_cons, List.cons.injEq, Json.sorted_eq] at values
    rw [ReadOperation.mk.injEq]
    simp [values]

namespace ReadLedger

variable [Hashlib] {actions : List ReadAction}

/-- Who began the read of a row. -/
def BegunBy (actions : List ReadAction) (key : String × String) (row : ReleaseRow)
    (operation : ReadOperation) (state : BrokerReadState) : Prop :=
  .begin operation state ∈ actions ∧ operation.key = key ∧
    row.requestFingerprint = operation.fingerprint ∧
    row.initialStateFingerprint = state.fingerprint ∧
    row.recipientFingerprint = operation.recipientFingerprint

/-- Which release filled a row. -/
def FilledBy (actions : List ReadAction) (key : String × String) (row : ReleaseRow)
    (bytes : Bytes) : Prop :=
  (∃ operation expected proof, .release operation expected proof bytes ∈ actions ∧
    operation.key = key) ∧
    row.resultBytes = some bytes ∧ row.resultDigest = some (sha256 bytes).text

/-- What the rows remember of the run. -/
structure Recorded (actions : List ReadAction) (ledger : ReadLedger) : Prop where
  sound : ledger.Sound
  begun : ∀ key row, ledger.releases.get? key = some row →
    ∃ operation state, BegunBy actions key row operation state
  filled : ∀ key row, ledger.releases.get? key = some row → row.state = .released →
    ∃ bytes, FilledBy actions key row bytes

theorem Recorded.step {before after : ReadLedger}
    {action : ReadAction} (recorded : Recorded actions before) (step : Step before action after) :
    Recorded (actions ++ [action]) after := by
  have earlier {key : String × String} {row : ReleaseRow}
      (found : before.releases.get? key = some row) :
      ∃ operation state, BegunBy (actions ++ [action]) key row operation state := by
    obtain ⟨operation, state, member, facts⟩ := recorded.begun key row found
    exact ⟨operation, state, List.mem_append_left _ member, facts⟩
  have earlierFilled {key : String × String} {row : ReleaseRow}
      (found : before.releases.get? key = some row) (released : row.state = .released) :
      ∃ bytes, FilledBy (actions ++ [action]) key row bytes := by
    obtain ⟨bytes, ⟨operation, expected, proof, member, own⟩, facts⟩ :=
      recorded.filled key row found released
    exact ⟨bytes, ⟨operation, expected, proof, List.mem_append_left _ member, own⟩, facts⟩
  have last : action ∈ actions ++ [action] := by simp
  refine ⟨step.sound recorded.sound, ?_, ?_⟩
  · intro key row found
    have change := step.row key
    rw [found] at change
    generalize known : before.releases.get? key = earlierRow at change
    cases change with
    | same => exact earlier known
    | begun isBegin own =>
        subst isBegin
        exact ⟨_, _, last, own, rfl, rfl, rfl⟩
    | fenced =>
        have begun := earlier known
        exact begun
    | released =>
        have begun := earlier known
        exact begun
    | stale =>
        have begun := earlier known
        exact begun
    | delivered =>
        have begun := earlier known
        exact begun
  · intro key row found released
    have change := step.row key
    rw [found] at change
    generalize known : before.releases.get? key = earlierRow at change
    cases change with
    | same => exact earlierFilled known released
    | begun => cases released
    | fenced => cases released
    | released isRelease own =>
        subst isRelease
        exact ⟨_, ⟨_, _, _, last, own⟩, rfl, rfl⟩
    | stale => cases released
    | delivered _ _ _ wasReleased =>
        have filled := earlierFilled known wasReleased
        exact filled

theorem recorded {ledger : ReadLedger}
    (run : Trace Step .empty actions ledger) : Recorded actions ledger := by
  have start : Recorded [] .empty := by
    refine ⟨?_, ?_, ?_⟩ <;> intro key row found <;> cases found
  simpa using run.history (fun _ _ _ _ known step => known.step step) start

/-- A step that releases an attempt finds the state it was begun with, as its operation needs
it. -/
theorem Recorded.released {ledger after : ReadLedger}
    {action : ReadAction} {key : String × String} (recorded : Recorded actions ledger)
    (step : Step ledger action after) (unreleased : ledger.dispositionOf key ≠ some .released)
    (released : after.dispositionOf key = some .released) :
    ∃ operation expected proof bytes begun state stored,
      action = .release operation expected proof bytes ∧ operation.key = key ∧
      .begin begun state ∈ actions ∧ begun.key = key ∧
      ledger.states.get? operation.tenantId = some stored ∧
      (Json.CollisionAmong [operation.canonicalBytes, begun.canonicalBytes,
          expected.canonicalBytes, state.canonicalBytes, stored.canonicalState.canonicalBytes] ∨
        operation = begun ∧ stored.canonicalState = state ∧ state.ownerDraining = false ∧
          operation.brokerEpoch = state.brokerEpoch ∧
          operation.generationId = state.ownerGeneration) := by
  have change := step.row key
  rw [dispositionOf] at unreleased released
  generalize known : ledger.releases.get? key = row at change unreleased
  generalize after.releases.get? key = now at change released
  cases change with
  | same => exact absurd released unreleased
  | begun => cases released
  | fenced => cases released
  | stale => cases released
  | delivered _ _ _ wasReleased => exact absurd (congrArg some wasReleased) unreleased
  | @released operation expected proof bytes row isRelease own request pending current =>
      obtain ⟨begun, state, member, begunKey, begunRequest, initial, _⟩ :=
        recorded.begun key row known
      obtain ⟨stored, initialExpected, draining, epoch, generation⟩ := current
      obtain ⟨kept, found, sameStored⟩ := Option.map_eq_some_iff.mp stored
      refine ⟨operation, expected, proof, bytes, begun, state, kept, isRelease, own, member,
        begunKey, found, ?_⟩
      rw [(recorded.sound _ _ found).2] at sameStored
      rcases Json.digest_read (request.symm.trans begunRequest) with rfl | collision
      · rcases Json.digest_read (initialExpected.symm.trans initial) with rfl | collision
        · rcases Json.digest_read sameStored with same | collision
          · exact .inr ⟨rfl, same, draining, epoch, generation⟩
          · exact .inl (collision.mono (by simp [BrokerReadState.canonicalBytes]))
        · exact .inl (collision.mono (by simp [BrokerReadState.canonicalBytes]))
      · exact .inl (collision.mono (by simp [ReadOperation.canonicalBytes]))

end ReadLedger

/-- The read attempt whose bytes the step hands out. -/
def ReadAction.delivered : ReadAction → Option (String × String)
  | .dequeue operation (some _) => some operation.key
  | _ => none

namespace ReadLedger

/-- The bytes of the attempt were taken. -/
def Taken (ledger : ReadLedger) (key : String × String) : Prop :=
  ∃ row, ledger.releases.get? key = some row ∧ row.dequeued = true

section Deliveries

variable [Hashlib]

theorem Step.taken {before after : ReadLedger} {action : ReadAction} {key : String × String}
    (step : Step before action after) (taken : before.Taken key) : after.Taken key := by
  obtain ⟨row, found, dequeued⟩ := taken
  have change := step.row key
  rw [found] at change
  unfold Taken
  generalize after.releases.get? key = now at change
  cases change with
  | same => exact ⟨row, rfl, dequeued⟩
  | fenced => exact ⟨_, rfl, dequeued⟩
  | released => exact ⟨_, rfl, dequeued⟩
  | stale => exact ⟨_, rfl, dequeued⟩
  | delivered => exact ⟨_, rfl, rfl⟩

theorem Step.takes {before after : ReadLedger} {action : ReadAction} {key : String × String}
    (step : Step before action after) (delivers : action.delivered = some key) :
    ¬ before.Taken key ∧ after.Taken key := by
  cases step with
  | dequeue returned =>
      rcases dequeue_ok returned with ⟨rfl, _⟩ |
        ⟨row, bytes, rfl, found, _, _, kept, _, rfl⟩
      · cases delivers
      · cases delivers
        constructor
        · rintro ⟨other, same, dequeued⟩
          cases found.symm.trans same
          rw [kept] at dequeued
          cases dequeued
        · exact ⟨_, by rw [putRelease, Dict.get?_set, if_pos rfl], rfl⟩
  | publishInitialState => cases delivers
  | reconcileGeneration => cases delivers
  | invalidate => cases delivers
  | begin => cases delivers
  | release => cases delivers

/-- Two invalidators of one stored state: it was published again by one of the steps from the
first on. -/
theorem restored_between {ledger : ReadLedger} {front middle rest : List ReadAction}
    {tenantId expected : String} {first second : BrokerReadState}
    (run : Trace Step .empty (front ++ .invalidate tenantId expected first :: middle ++
      .invalidate tenantId expected second :: rest) ledger) :
    ∃ action ∈ .invalidate tenantId expected first :: middle, ∃ state,
      action.published tenantId = some state ∧ state.fingerprint = expected := by
  obtain ⟨late, run, tail⟩ := run.split
  obtain ⟨early, _, between⟩ := run.split
  have stored : late.fingerprintOf tenantId = some expected := by
    cases tail with
    | cons head _ =>
        cases head with
        | invalidate sound invalidated => exact (invalidated.replaced sound).2.1
  by_contra absent
  refine fingerprint_avoids between ?_ (.inl ⟨_, List.mem_cons_self, ?_⟩) stored
  · intro action member state published same
    exact absent ⟨action, member, state, published, same⟩
  · simp [ReadAction.published]

/-- In any run a settled attempt stays as it is, an attempt is released only while the state
it was begun with is stored and serves it, its bytes are handed out at most once and to the
recipient that began it, and an invalidator replaces the state that its caller named. -/
theorem read_release_exactly_once {actions : List ReadAction} {ledger : ReadLedger}
    (run : Trace Step .empty actions ledger) :
    (∀ key row, ledger.releases.get? key = some row → row.state ≠ .pending →
      ∀ more later, Trace Step ledger more later →
        ∃ kept, later.releases.get? key = some kept ∧ kept.state = row.state ∧
          kept.resultBytes = row.resultBytes ∧ kept.resultDigest = row.resultDigest) ∧
    (∀ action after key, Step ledger action after →
      ledger.dispositionOf key ≠ some .released → after.dispositionOf key = some .released →
      ∃ operation expected proof bytes begun state stored,
        action = .release operation expected proof bytes ∧ operation.key = key ∧
        .begin begun state ∈ actions ∧ begun.key = key ∧
        ledger.states.get? operation.tenantId = some stored ∧
        (Json.CollisionAmong [operation.canonicalBytes, begun.canonicalBytes,
            expected.canonicalBytes, state.canonicalBytes, stored.canonicalState.canonicalBytes] ∨
          operation = begun ∧ stored.canonicalState = state ∧ state.ownerDraining = false ∧
            operation.brokerEpoch = state.brokerEpoch ∧
            operation.generationId = state.ownerGeneration)) ∧
    (actions.filterMap ReadAction.delivered).Nodup ∧
    (∀ operation bytes after, Step ledger (.dequeue operation (some bytes)) after →
      ∃ row begun state, ledger.releases.get? operation.key = some row ∧ row.state = .released ∧
        BegunBy actions operation.key row begun state ∧
        operation.recipientFingerprint = begun.recipientFingerprint ∧
        FilledBy actions operation.key row bytes) ∧
    (∀ tenantId expected successor after,
      Step ledger (.invalidate tenantId expected successor) after →
      (∃ state : BrokerReadState, ledger.states.get? tenantId = some state.row ∧
          state.fingerprint = expected) ∧
        after.states.get? tenantId = some successor.row) ∧
    ∀ front middle rest tenantId expected first second,
      actions = front ++ .invalidate tenantId expected first :: middle ++
        .invalidate tenantId expected second :: rest →
      ∃ action ∈ .invalidate tenantId expected first :: middle, ∃ state,
        action.published tenantId = some state ∧ state.fingerprint = expected := by
  have known := recorded run
  refine ⟨?_, ?_, ?_, ?_, ?_, ?_⟩
  · intro key row found settled more later trace
    obtain ⟨kept, stored, same⟩ := settled_held trace found settled
    refine ⟨kept, stored, ?_⟩
    rw [same]
    exact ⟨rfl, rfl, rfl⟩
  · intro action after key step unreleased released
    exact known.released step unreleased released
  · have kept : ∀ before action after, Step before action after → ∀ key, before.Taken key →
        after.Taken key := fun _ _ _ step _ taken => step.taken taken
    exact (run.distinct kept (fun _ _ _ step _ delivers => step.takes delivers)).1
  · intro operation bytes after step
    cases step with
    | dequeue returned =>
        rcases dequeue_ok returned with ⟨impossible, _⟩ |
          ⟨row, other, same, found, recipient, released, _, stored, _⟩
        · cases impossible
        · cases same
          obtain ⟨begun, state, begunBy⟩ := known.begun _ row found
          obtain ⟨filled, filledBy⟩ := known.filled _ row found released
          cases stored.symm.trans filledBy.2.1
          exact ⟨row, begun, state, found, released, begunBy,
            recipient.symm.trans begunBy.2.2.2.2, filledBy⟩
  · intro tenantId expected successor after step
    cases step with
    | invalidate sound invalidated =>
        obtain ⟨_, stored, rfl⟩ := invalidated.replaced sound
        obtain ⟨row, found, fingerprint⟩ := Option.map_eq_some_iff.mp stored
        have own := (known.sound tenantId row found).2
        rw [own] at found fingerprint
        refine ⟨⟨row.canonicalState, found, fingerprint⟩, ?_⟩
        rw [Dict.get?_set, if_pos rfl]
  · rintro front middle rest tenantId expected first second rfl
    exact restored_between run

end Deliveries

/-- A read that is released and taken is never handed out again; the invalidator after it
succeeds a second time only if two states share a digest. -/
theorem read_release_exactly_once_sample :
    letI := Sha256.hashlib
    ∃ ledger, Trace Step .empty [.publishInitialState sampleReadState,
        .begin sampleReadOperation sampleReadState,
        .release sampleReadOperation sampleReadState "proof-1" [1],
        .dequeue sampleReadOperation (some [1]),
        .invalidate "tenant-1" sampleReadState.fingerprint sampleDraining] ledger ∧
      ∀ action after, Step ledger action after →
        action.delivered ≠ some sampleReadOperation.key ∧
        ∀ successor, action = .invalidate "tenant-1" sampleReadState.fingerprint successor →
          sampleDraining.fingerprint = sampleReadState.fingerprint := by
  let _ := Sha256.hashlib
  let row := (sampleReadOperation.prepared sampleReadState).release "proof-1" [1]
  let released := sampleOpened.putRelease sampleReadOperation.key row
  let taken := released.putRelease sampleReadOperation.key { row with dequeued := true }
  have publish : Step .empty (.publishInitialState sampleReadState) samplePublished :=
    .publishInitialState rfl
  have begin_ : Step samplePublished (.begin sampleReadOperation sampleReadState) sampleOpened :=
    .begin rfl
  have current : sampleOpened.CurrentMatches (sampleReadOperation.prepared sampleReadState)
      sampleReadOperation sampleReadState :=
    ⟨rfl, rfl, rfl, rfl, rfl⟩
  have release_ : Step sampleOpened
      (.release sampleReadOperation sampleReadState "proof-1" [1]) released :=
    .release ((release_pending rfl rfl rfl _ _ _).trans (if_pos current))
  have dequeue_ : Step released (.dequeue sampleReadOperation (some [1])) taken := by
    have found : released.releases.get? sampleReadOperation.key = some row := rfl
    have free : ¬ (row.recipientFingerprint ≠ sampleReadOperation.recipientFingerprint ∨
        row.state ≠ .released ∨ row.enqueued = false ∨ row.dequeued = true) := by
      simp [row, ReleaseRow.release, ReadOperation.prepared]
    refine .dequeue ?_
    unfold dequeue
    rw [found]
    dsimp only
    rw [if_neg free]
    rfl
  have run := (((Trace.single publish).snoc begin_).snoc release_).snoc dequeue_
  have drain : Step taken (.invalidate "tenant-1" sampleReadState.fingerprint sampleDraining)
      { taken with states := taken.states.set "tenant-1" sampleDraining.row } := by
    refine .invalidate (recorded run).sound (.ownerDrain ?_)
    rw [startOwnerDrain, currentState_stored (by decide) rfl, ok_bind, replaceState_current rfl]
    rfl
  have drained := run.snoc drain
  refine ⟨_, drained, fun action after next => ?_⟩
  have facts := read_release_exactly_once (drained.snoc next)
  constructor
  · intro delivers
    have distinct := facts.2.2.1
    rw [List.filterMap_append, List.filterMap_cons_some delivers] at distinct
    exact absurd distinct (by decide)
  · rintro successor rfl
    obtain ⟨between, member, state, published, same⟩ :=
      facts.2.2.2.2.2 _ [] [] _ _ _ _ rfl
    obtain rfl := List.mem_singleton.mp member
    obtain rfl : sampleDraining = state := Option.some.inj published
    exact same

end ReadLedger

end Chiplog.Platform
