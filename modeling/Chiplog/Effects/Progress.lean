import Chiplog.Effects.Runs

namespace Chiplog.Effects

variable {store : EffectStoreSnapshot}

open Chiplog.Data

/-! Progress of an unblocked intent.

Every intent whose fingerprint binds its bytes and whose authority is live can be
published, authorized and sent, provided that the replacement guard lets it through.
`dispatch_reachable` is the run that does so. -/

/-- The guard admits the intent whatever else the broker observed. -/
def Unblocked (intent : ExternalActionIntent) (store : EffectStoreSnapshot)
    (originals : List ExactHead) : Prop :=
  ∀ current : CurrentEffectInputs, current.blockingEffectHeads = [] →
    current.currentOriginalAmbiguityHeads = originals →
    requireNoReplacement intent store current = .ok ()

theorem matchOriginals_own {intent : ExternalActionIntent} {originals : List OriginalAmbiguity}
    {snapshots : List EffectSnapshot} (matched : List OriginalAmbiguity)
    (own : ∀ snapshot ∈ snapshots, snapshot.intent.intentId = intent.intentId) :
    matchOriginals intent originals snapshots matched = .ok matched := by
  induction snapshots with
  | nil => rfl
  | cons snapshot rest ih =>
      unfold matchOriginals
      rw [if_pos (own snapshot (by simp))]
      exact ih (fun other member => own other (by simp [member]))

theorem mem_addConflicting {intent : ExternalActionIntent} {snapshots : List EffectSnapshot}
    {listed : Dict ExactHead EffectSnapshot} {snapshot : EffectSnapshot}
    (member : snapshot ∈ (addConflicting intent snapshots listed).values) :
    snapshot ∈ listed.values ∨ snapshot ∈ snapshots ∧ Conflicts snapshot intent := by
  unfold addConflicting at member
  induction snapshots generalizing listed with
  | nil => exact .inl member
  | cons first rest ih =>
      rw [List.foldl_cons] at member
      rcases ih member with stored | ⟨inside, conflicts⟩
      · split at stored
        · rename_i conflicts
          obtain ⟨key, found⟩ := Dict.mem_values_iff.mp stored
          rw [Dict.get?_set] at found
          split at found
          · obtain rfl := Option.some.inj found
            exact .inr ⟨by simp, conflicts⟩
          · exact .inl (Dict.mem_values_iff.mpr ⟨key, found⟩)
        · exact .inl stored
      · exact .inr ⟨by simp [inside], conflicts⟩

theorem get?_latestSnapshots (store : EffectStoreSnapshot) (intentId : Identity) :
    (latestSnapshots store.records).get? intentId =
      (store.latest? intentId).map EffectRecord.snapshot :=
  Dict.get?_ofRows _ _ _ _

theorem mem_latestSnapshots {snapshot : EffectSnapshot} :
    snapshot ∈ (latestSnapshots store.records).values ↔
      ∃ record, store.latest? record.intentId = some record ∧ record.snapshot = snapshot := by
  simp only [Dict.mem_values_iff, get?_latestSnapshots, Option.map_eq_some_iff]
  constructor
  · rintro ⟨intentId, record, found, same⟩
    have owner : record.intentId = intentId := (latest?_mem found).2
    exact ⟨record, owner.symm ▸ found, same⟩
  · rintro ⟨record, found, same⟩
    exact ⟨record.intentId, record, found, same⟩

/-- Ordinary work is admitted when no other intent is crossed with the same effect. -/
theorem unblocked_ordinary {intent : ExternalActionIntent}
    (originals : List ExactHead) (ordinary : intent.purpose.originals = [])
    (clear : ∀ record, store.latest? record.intentId = some record →
      Conflicts record.snapshot intent → record.intentId = intent.intentId) :
    Unblocked intent store originals := by
  intro current unlisted _
  have own : ∀ snapshot ∈ (addConflicting intent (latestSnapshots store.records).values
      Dict.empty).values, snapshot.intent.intentId = intent.intentId := by
    intro snapshot member
    rcases mem_addConflicting member with impossible | ⟨present, conflicts⟩
    · simp [Dict.values, Dict.empty] at impossible
    · obtain ⟨record, latest, rfl⟩ := mem_latestSnapshots.mp present
      exact clear record latest conflicts
  simp only [requireNoReplacement, unlisted, List.nodup_nil, not_true_eq_false, not_false_eq_true,
    deny_neg, ok_bind, collectBlockers, ordinary, ne_eq, checkIf, if_false, false_and]
  rw [matchOriginals_own [] own]
  rfl

/-- The observation of a broker that reproduces exactly what a command expects. -/
def reproduced (store : EffectStoreSnapshot) (identity : CommandIdentity)
    (intent : ExternalActionIntent) (fence : WorkerFence) (nowNs : Nat)
    (originals : List ExactHead) : CurrentEffectInputs where
  commandId := identity.commandId
  commandFingerprint := identity.fingerprint
  storeFrontier := store.tenantHead
  observedTimeNs := nowNs
  authority := intent.authority
  supportedSemantics := some intent.semantics
  fence
  authorityDecision := intent.exactHead
  blockingEffectHeads := []
  currentOriginalAmbiguityHeads := originals
  initializedCall := none
  activeRunHead := none
  independentlyVerifiedSafeProof := none
  authenticatedEvidence := none
  originalReducerSemantics := some intent.semantics
  authorizedReconciler := none

def publishCommand (intent : ExternalActionIntent) (identity : CommandIdentity)
    (fence : WorkerFence) : PublishPlanEffectCommand where
  identity
  intent
  planningPublication := intent.exactHead
  planningOwnerBytes := intent.payload
  completePublicationManifest := ⟨[intent.exactHead], by simp⟩
  fence

def authorizeCommand (snapshot : EffectSnapshot) (identity : CommandIdentity)
    (fence : WorkerFence) : AuthorizeDispatchCommand where
  identity
  intent := snapshot.intent.exactHead
  expectedAttempt := snapshot.attempt
  currentAuthority := snapshot.intent.authority
  semantics := snapshot.intent.semantics
  fence

def sendCommand (snapshot : EffectSnapshot) (authorization : DispatchAuthorization)
    (identity : CommandIdentity) (fence : WorkerFence) (nowNs : Nat) : CommitSendCommand where
  identity
  expectedAttempt := snapshot.attempt
  authorization
  fence
  transmission := .first
  currentTimeNs := nowNs

/-- An identity that no record of the store carries, written for its head. -/
structure FreshIdentity (store : EffectStoreSnapshot) (identity : CommandIdentity) : Prop where
  head : identity.expectedTenantHead = store.tenantHead
  unseen : ∀ row ∈ store.records, row.command.commandId ≠ identity.commandId

/-- A record before its send: no child and no obligation yet. -/
structure Unsent (intent : ExternalActionIntent) (state : AttemptState) (record : EffectRecord) :
    Prop where
  intent : record.snapshot.intent = intent
  state : record.snapshot.state = state
  unsent : record.snapshot.transmissions = []
  unobliged : record.snapshot.recoveryObligation = none

theorem reproduced_atCut {command : EffectCommand}
    {intent : ExternalActionIntent} {fence : WorkerFence} {nowNs : Nat}
    {originals : List ExactHead} (fresh : FreshIdentity store command.identity) :
    AtCut store command (reproduced store command.identity intent fence nowNs originals) :=
  ⟨rfl, rfl, rfl, fresh.head, fresh.unseen⟩

/-- A command that names the latest record of its intent finds it. -/
theorem previousRecord_latest {previous : EffectRecord}
    {command : EffectCommand} (latest : store.latest? previous.intentId = some previous)
    (subject : addressed command store = .ok (previous.intentId, previous.snapshot.attempt,
      some previous.snapshot.intent.exactHead)) :
    previousRecord command store = .ok previous := by
  have known : ¬ ∃ supplied ∈ some previous.snapshot.intent.exactHead,
      supplied ≠ previous.snapshot.intent.exactHead := by simp
  unfold EffectStoreSnapshot.latest? at latest
  simp only [previousRecord, subject, ok_bind, latest]
  rw [deny_neg (not_not.mpr rfl), deny_neg known]
  rfl

/-- `later` extends `store` by records of `intent` under the given command identities. -/
structure Progressed (store later : EffectStoreSnapshot) (intent : ExternalActionIntent)
    (identities : List Identity) : Prop where
  tenant : later.tenantId = store.tenantId
  others : ∀ other, other ≠ intent.intentId → later.latest? other = store.latest? other
  rows : ∀ row ∈ later.records, row ∈ store.records ∨
    row.intentId = intent.intentId ∧ row.command.commandId ∈ identities

namespace Progressed

variable {store later : EffectStoreSnapshot} {intent : ExternalActionIntent}
  {identities : List Identity} {record : EffectRecord} {identity : CommandIdentity}

theorem refl (store : EffectStoreSnapshot) (intent : ExternalActionIntent) :
    Progressed store store intent [] :=
  ⟨rfl, fun _ _ => rfl, fun _ member => .inl member⟩

theorem commit (progressed : Progressed store later intent identities)
    (own : record.snapshot.intent = intent) (command : record.command = identity)
    (tenantHead : Nat) :
    Progressed store (later.commit record tenantHead) intent
      (identities ++ [identity.commandId]) := by
  refine ⟨progressed.tenant, fun other different => ?_, fun row member => ?_⟩
  · have apart : record.intentId ≠ other := by
      rw [EffectRecord.intentId, own]
      exact different.symm
    rw [latest?_commit_other apart]
    exact progressed.others other different
  · rcases List.mem_append.mp member with earlier | new
    · rcases progressed.rows row earlier with kept | ⟨same, inside⟩
      · exact .inl kept
      · exact .inr ⟨same, by simp [inside]⟩
    · rw [List.mem_singleton.mp new, EffectRecord.intentId, own, command]
      exact .inr ⟨rfl, by simp⟩

theorem fresh (progressed : Progressed store later intent identities) {next : Identity}
    (unseen : ∀ row ∈ store.records, row.command.commandId ≠ next) (other : next ∉ identities) :
    FreshIdentity later ⟨next, next, later.tenantHead⟩ := by
  refine ⟨rfl, fun row member same => ?_⟩
  rcases progressed.rows row member with kept | ⟨_, inside⟩
  · exact unseen row kept same
  · have equal : row.command.commandId = next := same
    exact other (equal ▸ inside)

end Progressed

theorem uncrossed_commit {store : EffectStoreSnapshot} {intent : ExternalActionIntent}
    {record : EffectRecord} {state : AttemptState} (waiting : Unsent intent state record)
    (uncrossed : state ∉ crossedStates) (tenantHead : Nat) :
    ∀ found, (store.commit record tenantHead).latest? intent.intentId = some found →
      found.snapshot.state ∉ crossedStates := by
  intro found latest
  rw [← waiting.intent] at latest
  have same := (latest?_commit_self store record tenantHead).symm.trans latest
  rw [← Option.some.inj same, waiting.state]
  exact uncrossed

/-- The store that a dispatch of `intent` leaves behind. -/
structure Dispatched (store later : EffectStoreSnapshot) (intent : ExternalActionIntent)
    (identities : List Identity) (record : EffectRecord) : Prop where
  progressed : Progressed store later intent identities
  latest : later.latest? record.intentId = some record
  own : record.snapshot.intent = intent
  state : record.snapshot.state = .sendCommitted

section Progress

variable [Hashlib] {store : EffectStoreSnapshot} {intent : ExternalActionIntent} {nowNs : Nat}
  {originals : List ExactHead} {draft : EffectSnapshot}

theorem bindObligation_unobliged {source : RecordSource} {previous : Option EffectRecord}
    (unobliged : draft.recoveryObligation = none)
    (decided : draft.state ∉ ambiguousStates) : bindObligation source previous draft = .ok none := by
  simp only [bindObligation, unobliged, if_neg decided]

theorem Bound.unobliged {source : RecordSource} {previous : Option EffectRecord}
    {kind : RecordKind} {record : EffectRecord}
    (bound : Bound source previous draft kind record) (unobliged : draft.recoveryObligation = none)
    (decided : draft.state ∉ ambiguousStates) : record.snapshot.recoveryObligation = none := by
  have accepted := bound.obligation.1
  rw [bindObligation_unobliged unobliged decided] at accepted
  exact (Except.ok.inj accepted).symm

theorem publish_accepted {snapshot : EffectSnapshot} {identity : CommandIdentity}
    (fence : WorkerFence) (fresh : FreshIdentity store identity)
    (new : ∀ row ∈ store.records, row.intentId ≠ intent.intentId)
    (tenant : intent.authority.tenantId = store.tenantId) (created : initial intent = .ok snapshot)
    (live : requireCurrentAuthority intent intent.authority nowNs = .ok ())
    (unblocked : Unblocked intent store originals) :
    ∃ prepared, prepareTransition (.publishPlan (publishCommand intent identity fence)) store
        (reproduced store identity intent fence nowNs originals) = .ok prepared ∧
      prepared.record.command = identity ∧ Unsent intent .intentRecorded prepared.record := by
  obtain ⟨same, state, _, unsent, _, _, _, unobliged⟩ := initial_ok created
  have decided : snapshot.state ∉ ambiguousStates := by
    rw [state]
    decide
  let command : EffectCommand := .publishPlan (publishCommand intent identity fence)
  let current := reproduced store identity intent fence nowNs originals
  have cut : AtCut store command current := reproduced_atCut fresh
  have published : publishIntent command intent current.fence store current
      (.ok ([intent.exactHead], .planEffectPublished)) =
      bindRecord command.source store none snapshot .planEffectPublished [intent.exactHead] :=
    publishIntent_accepts new rfl live tenant created (unblocked current rfl rfl)
  have bindable : ∃ prepared, bindRecord command.source store none snapshot .planEffectPublished
      [intent.exactHead] = .ok prepared := by
    simp only [bindRecord, bindObligation_unobliged unobliged decided, ok_bind]
    exact ⟨_, rfl⟩
  obtain ⟨prepared, accepted⟩ := bindable
  have bound := bindRecord_ok accepted
  refine ⟨prepared, ?_, bound.command, bound.intent.trans same, bound.state.trans state,
    bound.transmissions.trans unsent, bound.unobliged unobliged decided⟩
  exact (prepareTransition_publishPlan cut).trans (published.trans accepted)

theorem prepareTransition_unobliged {command : EffectCommand}
    {current : CurrentEffectInputs} {previous : EffectRecord}
    {kind : RecordKind} (cut : AtCut store command current)
    (found : previousRecord command store = .ok previous)
    (advanced : advance command store previous.snapshot current = .ok (draft, kind))
    (unobliged : draft.recoveryObligation = none) (decided : draft.state ∉ ambiguousStates) :
    ∃ prepared, prepareTransition command store current = .ok prepared ∧
      Bound command.source (some previous) draft kind prepared.record ∧
      prepared.record.snapshot.recoveryObligation = none := by
  obtain ⟨prepared, accepted, bound⟩ :=
    prepareTransition_continues cut found advanced (bindObligation_unobliged unobliged decided)
  exact ⟨prepared, accepted, bound, bound.unobliged unobliged decided⟩

theorem authorize_accepted {previous : EffectRecord} {identity : CommandIdentity}
    (fence : WorkerFence) (fresh : FreshIdentity store identity)
    (latest : store.latest? previous.intentId = some previous)
    (waiting : Unsent intent .intentRecorded previous)
    (live : requireCurrentAuthority intent intent.authority nowNs = .ok ())
    (unblocked : Unblocked intent store originals) :
    ∃ prepared, prepareTransition (.authorize (authorizeCommand previous.snapshot identity fence))
        store (reproduced store identity intent fence nowNs originals) = .ok prepared ∧
      prepared.record.command = identity ∧ Unsent intent .dispatchAuthorized prepared.record ∧
      ∃ authorization, prepared.record.snapshot.authorizations.getLast? = some authorization ∧
        authorization.intent = intent.exactHead ∧ authorization.semantics = intent.semantics ∧
        authorization.fence = fence := by
  obtain ⟨rfl, state, unsent, unobliged⟩ := waiting
  let command := authorizeCommand previous.snapshot identity fence
  let current := reproduced store identity previous.snapshot.intent fence nowNs originals
  have found : previousRecord (.authorize command) store = .ok previous :=
    previousRecord_latest latest rfl
  have registered : requireTransition previous.snapshot.state .dispatchAuthorized .sendAdapter false =
      .ok () := by
    rw [state]
    rfl
  have semantics : requireSemantics previous.snapshot.intent.semantics
      (some previous.snapshot.intent.semantics) true = .ok () := requireSemantics_ok.mpr rfl
  have advanced : advance (.authorize command) store previous.snapshot current =
      .ok ({ previous.snapshot with
        state := .dispatchAuthorized
        authorizations := previous.snapshot.authorizations ++
          [dispatchAuthorization command current] }, .dispatchAuthorized) := by
    simp only [advance]
    rw [unblocked _ rfl rfl]
    simp only [ok_bind, authorizeDispatch, command, current, authorizeCommand, reproduced, semantics,
      live, ne_eq, not_true_eq_false, or_self, not_false_eq_true, deny_neg, registered]
    rfl
  obtain ⟨prepared, accepted, bound, clear⟩ := prepareTransition_unobliged (reproduced_atCut fresh)
    found advanced unobliged (by simp [ambiguousStates])
  refine ⟨prepared, accepted, bound.command,
    ⟨bound.intent, bound.state, bound.transmissions.trans unsent, clear⟩,
    dispatchAuthorization command current, ?_, rfl, rfl, rfl⟩
  rw [bound.authorizations]
  simp

/-- The send of an authorized intent. -/
theorem send_accepted
    {previous : EffectRecord} {authorization : DispatchAuthorization} {identity : CommandIdentity}
    (fence : WorkerFence) (fresh : FreshIdentity store identity)
    (latest : store.latest? previous.intentId = some previous)
    (waiting : Unsent intent .dispatchAuthorized previous)
    (granted : previous.snapshot.authorizations.getLast? = some authorization)
    (target : authorization.intent = intent.exactHead)
    (semantics : authorization.semantics = intent.semantics) (fenced : authorization.fence = fence)
    (live : requireCurrentAuthority intent intent.authority nowNs = .ok ())
    (recovers : intent.purpose.isRecovery = true →
      requireFreshRecoveryOriginals intent originals = .ok ())
    (unblocked : Unblocked intent store originals) :
    previousRecord (.commitSend (sendCommand previous.snapshot authorization identity fence nowNs))
        store = .ok previous ∧
    ∃ prepared, prepareTransition (.commitSend (sendCommand previous.snapshot authorization identity
        fence nowNs)) store (reproduced store identity intent fence nowNs originals) = .ok prepared ∧
      prepared.record.command = identity ∧ prepared.record.snapshot.intent = intent ∧
      prepared.record.snapshot.state = .sendCommitted := by
  obtain ⟨rfl, state, unsent, unobliged⟩ := waiting
  let command := sendCommand previous.snapshot authorization identity fence nowNs
  let current := reproduced store identity previous.snapshot.intent fence nowNs originals
  have found : previousRecord (.commitSend command) store = .ok previous :=
    previousRecord_latest latest (by simp [addressed, command, sendCommand, target,
      ExternalActionIntent.exactHead])
  have bound : requireSemantics previous.snapshot.intent.semantics
      (some previous.snapshot.intent.semantics) true = .ok () := requireSemantics_ok.mpr rfl
  have fresh_ : checkIf (previous.snapshot.intent.purpose.isRecovery = true)
      (requireFreshRecoveryOriginals previous.snapshot.intent originals) = .ok () :=
    checkIf_ok.mpr recovers
  have registered : requireTransition previous.snapshot.state .sendCommitted .sendAdapter true =
      .ok () := by
    rw [state]
    rfl
  have admitted : admitTransmission command previous.snapshot current =
      .ok (.sendCommitted, none, .sendCommitted) := by
    simp only [admitTransmission, command, sendCommand, fenced, unsent, ne_eq, not_true_eq_false,
      not_false_eq_true, deny_neg, ok_bind, registered]
    rfl
  have advanced : advance (.commitSend command) store previous.snapshot current =
      .ok ({ previous.snapshot with
        state := .sendCommitted
        transmissions := previous.snapshot.transmissions ++
          [allocateChild command previous.snapshot current none] }, .sendCommitted) := by
    simp only [advance]
    rw [unblocked _ rfl rfl]
    simp only [ok_bind, commitSend, admitted]
    simp only [command, current, sendCommand, reproduced, granted, semantics, bound, live, fresh_,
      ne_eq, not_true_eq_false, or_self, not_false_eq_true, deny_neg, ok_bind]
    rfl
  obtain ⟨prepared, accepted, sealed_, _⟩ := prepareTransition_unobliged (reproduced_atCut fresh)
    found advanced unobliged (by simp [ambiguousStates])
  exact ⟨found, prepared, accepted, sealed_.command, sealed_.intent, sealed_.state⟩

/-- An intent that can be dispatched from a store at a given time. -/
structure Dispatchable (store : EffectStoreSnapshot) (intent : ExternalActionIntent)
    (originals : List ExactHead) (nowNs : Nat) : Prop where
  new : ∀ row ∈ store.records, row.intentId ≠ intent.intentId
  tenant : intent.authority.tenantId = store.tenantId
  created : ∃ snapshot, initial intent = .ok snapshot
  live : requireCurrentAuthority intent intent.authority nowNs = .ok ()
  recovers : intent.purpose.isRecovery = true →
    requireFreshRecoveryOriginals intent originals = .ok ()
  unblocked : ∀ later : EffectStoreSnapshot,
    (∀ other, other ≠ intent.intentId → later.latest? other = store.latest? other) →
    (∀ record, later.latest? intent.intentId = some record →
      record.snapshot.state ∉ crossedStates) → Unblocked intent later originals

/-- The three steps of a dispatch are admitted, whatever they find. -/
structure AdmitsDispatch (admits : EffectStoreSnapshot → EffectCall → Prop)
    (intent : ExternalActionIntent) : Prop where
  plan : ∀ store command current, admits store (.transition (.publishPlan command) current)
  authorize : ∀ store command current, admits store (.transition (.authorize command) current)
  send : ∀ store command current,
    (∀ previous, previousRecord (.commitSend command) store = .ok previous →
      previous.snapshot.intent = intent) →
    admits store (.transition (.commitSend command) current)

/-- Publish, authorize and send: every dispatchable intent reaches `SEND_COMMITTED` in three
records, of which only the last has a child. -/
theorem dispatch_records {admits : EffectStoreSnapshot → EffectCall → Prop}
    {first second third : Identity} (fence : WorkerFence)
    (reachable : ReachableBy admits store) (allows : AdmitsDispatch admits intent)
    (distinct : [first, second, third].Nodup)
    (unseen : ∀ row ∈ store.records, row.command.commandId ∉ [first, second, third])
    (dispatchable : Dispatchable store intent originals nowNs) :
    ∃ published authorized sent : EffectRecord, ∃ later,
      later = ((store.commit published (store.tenantHead + 1)).commit authorized
        (store.tenantHead + 2)).commit sent (store.tenantHead + 3) ∧ ReachableBy admits later ∧
      Unsent intent .intentRecorded published ∧ Unsent intent .dispatchAuthorized authorized ∧
      Dispatched store later intent [first, second, third] sent := by
  obtain ⟨new, tenant, ⟨snapshot, created⟩, live, recovers, unblocked⟩ := dispatchable
  simp only [List.nodup_cons, List.mem_cons, List.not_mem_nil, not_or, or_false] at distinct unseen
  have start := Progressed.refl store intent
  -- Publish.
  have empty : Unblocked intent store originals := unblocked store (fun _ _ => rfl)
    (fun record latest => absurd (latest?_mem latest).2 (new record (latest?_mem latest).1))
  obtain ⟨published, accepted₁, command₁, waiting₁⟩ := publish_accepted fence
    (start.fresh (fun row member => (unseen row member).1) (by simp)) new tenant created live empty
  let store₁ := store.commit published.record (store.tenantHead + 1)
  have prepared₁ : (EffectCall.transition _ _).prepare store = .ok published := accepted₁
  have reachable₁ : ReachableBy admits store₁ := .commit reachable (allows.plan _ _ _) prepared₁ _
  have progressed₁ := start.commit waiting₁.intent command₁ (store.tenantHead + 1)
  -- Authorize.
  obtain ⟨authorized, accepted₂, command₂, waiting₂, authorization, granted, target, semantics,
    fenced⟩ := authorize_accepted fence
      (progressed₁.fresh (fun row member => (unseen row member).2.1) (by simpa using Ne.symm distinct.1.1))
      (latest?_commit_self store published.record (store.tenantHead + 1)) waiting₁ live
      (unblocked store₁ progressed₁.others (uncrossed_commit waiting₁ (by decide) _))
  let store₂ := store₁.commit authorized.record (store.tenantHead + 2)
  have prepared₂ : (EffectCall.transition _ _).prepare store₁ = .ok authorized := accepted₂
  have reachable₂ : ReachableBy admits store₂ :=
    .commit reachable₁ (allows.authorize _ _ _) prepared₂ _
  have progressed₂ := progressed₁.commit waiting₂.intent command₂ (store.tenantHead + 2)
  have latest₂ := latest?_commit_self store₁ authorized.record (store.tenantHead + 2)
  -- Send.
  obtain ⟨addressed, sent, accepted₃, command₃, own, state⟩ := send_accepted fence
    (progressed₂.fresh (fun row member => (unseen row member).2.2)
      (by simpa using ⟨Ne.symm distinct.1.2, Ne.symm distinct.2.1⟩))
    latest₂ waiting₂ granted target semantics fenced live recovers
    (unblocked store₂ progressed₂.others (uncrossed_commit waiting₂ (by decide) _))
  have prepared₃ : (EffectCall.transition _ _).prepare store₂ = .ok sent := accepted₃
  have admitted := allows.send store₂ _
    (reproduced store₂ ⟨third, third, store₂.tenantHead⟩ intent fence nowNs originals)
    (fun previous found => by
      rw [← Except.ok.inj (addressed.symm.trans found)]
      exact waiting₂.intent)
  have reachable₃ := ReachableBy.commit reachable₂ admitted prepared₃ (store.tenantHead + 3)
  exact ⟨published.record, authorized.record, sent.record, _, rfl, reachable₃, waiting₁, waiting₂,
    progressed₂.commit own command₃ _, latest?_commit_self store₂ sent.record _, own, state⟩

/-- Every dispatchable intent reaches `SEND_COMMITTED`. -/
theorem dispatch_reachable {admits : EffectStoreSnapshot → EffectCall → Prop}
    {first second third : Identity} (fence : WorkerFence)
    (reachable : ReachableBy admits store) (allows : AdmitsDispatch admits intent)
    (distinct : [first, second, third].Nodup)
    (unseen : ∀ row ∈ store.records, row.command.commandId ∉ [first, second, third])
    (dispatchable : Dispatchable store intent originals nowNs) :
    ∃ later record, ReachableBy admits later ∧
      Dispatched store later intent [first, second, third] record := by
  obtain ⟨_, _, record, later, _, reached, _, _, dispatched⟩ := dispatch_records fence reachable
    allows distinct unseen dispatchable
  exact ⟨later, record, reached, dispatched⟩

/-- The intent whose fingerprint is computed from its own bytes. -/
def bindFingerprint (draft : ExternalActionIntent) : ExternalActionIntent :=
  { draft with
    fingerprint := (digestOf (Json.obj (dropKey "fingerprint" (modelDump draft)))).identity }

/-- The fingerprint is not part of the bytes it is computed from. -/
theorem dropKey_bindFingerprint (draft : ExternalActionIntent) :
    dropKey "fingerprint" (modelDump (bindFingerprint draft)) =
      dropKey "fingerprint" (modelDump draft) := by
  simp [dropKey, modelDump, bindFingerprint]

theorem initial_bindFingerprint {draft : ExternalActionIntent}
    (previewed : ∀ preview ∈ draft.purpose.previewAdoption?,
      draft.authority.act = .adopted preview) :
    ∃ snapshot, initial (bindFingerprint draft) = .ok snapshot := by
  have unpreviewed : ¬ ∃ preview ∈ (bindFingerprint draft).purpose.previewAdoption?,
      (bindFingerprint draft).authority.act ≠ .adopted preview := by
    rintro ⟨preview, member, differs⟩
    exact differs (previewed preview member)
  have bound : ¬ (bindFingerprint draft).fingerprint ≠
      (digestOf (Json.obj (dropKey "fingerprint" (modelDump draft)))).identity := not_not.mpr rfl
  simp only [initial, dropKey_bindFingerprint]
  rw [deny_neg bound, deny_neg unpreviewed]
  exact ⟨_, rfl⟩

/-- Authority is live before every deadline it carries. -/
theorem requireCurrentAuthority_live
    (payload : (sha256 intent.payload.items).identity = intent.effectFingerprint)
    (deadline : nowNs < intent.authority.validUntilNs.val)
    (reads : ∀ row ∈ intent.authority.reads.items, nowNs < row.validUntilNs.val) :
    requireCurrentAuthority intent intent.authority nowNs = .ok () := by
  have live : ¬ (intent.authority.validUntilNs.val ≤ nowNs ∨
      ∃ row ∈ intent.authority.reads.items, row.validUntilNs.val ≤ nowNs) := by
    rintro (expired | ⟨row, member, expired⟩)
    · omega
    · have := reads row member
      omega
  simp only [requireCurrentAuthority]
  rw [deny_neg (not_not.mpr rfl), deny_neg live, deny_neg (not_not.mpr payload)]
  rfl

end Progress

/-! One concrete intent, dispatched on an empty tenant. -/

def sampleId : Identity := ⟨"sample", by decide⟩

def sampleHead : ExactHead := ⟨sampleId, sampleId, sampleId⟩

theorem sampleHead_ne_nil : [sampleHead] ≠ [] := List.cons_ne_nil _ _

def sampleSemantics : DispatchSemanticBinding := ⟨sampleId, sampleId, sampleId, sampleId, sampleId⟩

def sampleAuthority (act : AuthorityAct) : AuthorityBinding where
  tenantId := sampleId
  principalId := sampleId
  actorId := sampleId
  authenticatedSession := sampleHead
  act
  planningRevision := sampleHead
  authorizationEvidence := sampleHead
  authoritySources := ⟨[sampleHead], by decide⟩
  affectedPartyConstraints := []
  holdConflictOrder := sampleHead
  dependencies := []
  factualAssertionEvidence := []
  verificationContradiction := []
  authorityApplicability := []
  consequenceScope := sampleHead
  communicationMandate := sampleHead
  disclosureProjection := sampleHead
  channelClass := sampleId
  interactionContext := sampleHead
  recipient := ⟨sampleId, sampleId, sampleId, sampleHead, ⟨[0], by decide⟩, sampleHead⟩
  reads := ⟨[⟨sampleId, sampleId, sampleHead, sampleId, sampleId, 1, []⟩], by decide⟩
  registryInputs := []
  validUntilNs := 1

def sampleFence : WorkerFence := .nonScheduler ⟨sampleId, sampleId, sampleId, sampleId⟩

def sampleIntent [Hashlib] (intentId : Identity) (act : AuthorityAct) (purpose : EffectPurpose)
    (members : NonemptyTuple ExactHead) : ExternalActionIntent :=
  bindFingerprint {
    intentId
    fingerprint := sampleId
    authority := sampleAuthority act
    semantics := sampleSemantics
    payload := ⟨[1], by decide⟩
    effectFingerprint := (sha256 [1]).identity
    idempotencyFenceKey := sampleId
    inseparableBundleMembers := members
    purpose }

def emptyStore : EffectStoreSnapshot := ⟨sampleId, 0, []⟩

def originalId : Identity := ⟨"original", by decide⟩

/-- An ordinary intent with the given bundle members. -/
def originalIntent [Hashlib] (members : NonemptyTuple ExactHead) : ExternalActionIntent :=
  sampleIntent originalId (.direct sampleHead sampleHead) .ordinary members

def originalCommands : List Identity :=
  [⟨"publish", by decide⟩, ⟨"authorize", by decide⟩, ⟨"send", by decide⟩]

theorem originalIntent_dispatchable [Hashlib] (members : NonemptyTuple ExactHead) :
    Dispatchable emptyStore (originalIntent members) [] 0 where
  new := by simp [emptyStore]
  tenant := rfl
  created := initial_bindFingerprint (by simp [EffectPurpose.previewAdoption?])
  live := requireCurrentAuthority_live rfl Nat.zero_lt_one (by
    intro row member
    obtain rfl := List.mem_singleton.mp member
    exact Nat.zero_lt_one)
  recovers := by
    intro impossible
    cases impossible
  unblocked := by
    intro later others _
    refine unblocked_ordinary [] rfl (fun record latest _ => ?_)
    by_contra different
    rw [others _ different] at latest
    cases latest

/-- The original intent reaches `SEND_COMMITTED`, whatever its bundle members. -/
theorem original_dispatched [Hashlib] (members : NonemptyTuple ExactHead) :
    ∃ store record, Reachable store ∧
      Dispatched emptyStore store (originalIntent members) originalCommands record :=
  dispatch_reachable sampleFence (.empty sampleId 0)
    ⟨fun _ _ _ => trivial, fun _ _ _ => trivial, fun _ _ _ _ => trivial⟩ (by decide)
    (by simp [emptyStore]) (originalIntent_dispatchable members)

end Chiplog.Effects
