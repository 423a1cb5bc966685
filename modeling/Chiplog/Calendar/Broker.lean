import Chiplog.Calendar.Reads
import Mathlib.Logic.Relation

namespace Chiplog.Calendar

open Chiplog.Data
open Chiplog.Platform (BrokerReadState ReleaseRow ReadRelease ReadDisposition)

/-! What a broker holds, in every run.

A snapshot stays as it was acquired: its rows are those of its batch, its context has the heads
of its state.  Peers, snapshots and cursors are never replaced, as their names are new. -/

section

variable [Hashlib]

/-! ### Snapshots -/

/-- The heads of a context are those of a state. -/
structure Bound (context : WorkspaceReadContext) (state : CalendarReadState) : Prop where
  tenant : context.tenantId.text = state.tenantId
  database : context.databaseInstanceId.text = state.databaseInstanceId
  principal : context.principalId.text = state.principalId
  contour : context.principalContourHead.text = state.principalContourHead
  channel : context.channelId.text = state.channelId
  endpoint : context.endpointBindingHead.text = state.endpointChannelHead
  epoch : (context.brokerEpoch : Int) = state.brokerEpoch
  owner : context.ownerId.text = "calendar_observations"
  generation : context.generationId.text = state.ownerGeneration
  frontier : (context.snapshotFrontier : Int) = state.storageMutationGeneration
  registry : context.invalidatorRegistryDigest.text = calendarRegistryDigest.text
  policy : context.policyHead.text = state.policyHead
  fence : context.deletionFenceHead.text = state.deletionFenceHead

/-- A snapshot as it was acquired. -/
structure Snapshot.Sound (snapshot : Snapshot) : Prop where
  bound : Bound snapshot.context snapshot.state
  draining : snapshot.state.ownerDraining = false
  revision : snapshot.providerBatch.revision.text = snapshot.state.providerRevision
  heads : sourceHeadsDigest snapshot.providerBatch = snapshot.state.sourceHeadsDigest
  past : ∀ observation ∈ snapshot.providerBatch.observations,
    observation.observedAtNs ≤ snapshot.context.observedAtNs
  rows : prepareRows snapshot.providerBatch (preparationOf snapshot.state.tenantId
    snapshot.state.channelId snapshot.state) = .ok snapshot.rows
  freshness : snapshot.freshness = freshnessOf snapshot.providerBatch

omit [Hashlib] in
theorem identity?_ok {text : String} {identity : Identity}
    (valid : identity? text = .ok identity) : identity.text = text := by
  rw [identity?] at valid
  split at valid
  · cases valid
    rfl
  · cases valid

omit [Hashlib] in
theorem positive?_ok {value : Int} {positive : ℕ+} (valid : positive? value = .ok positive) :
    (positive : Int) = value := by
  rw [positive?] at valid
  split at valid
  · cases valid
    change (value.toNat : Int) = value
    omega
  · cases valid

omit [Hashlib] in
theorem natural?_ok {value : Int} {natural : Nat} (valid : natural? value = .ok natural) :
    (natural : Int) = value := by
  rw [natural?] at valid
  split at valid
  · cases valid
  · cases valid
    omega

theorem currentState_ok {ledger : CalendarReadLedger} {tenant : String}
    {state : CalendarReadState} (current : ledger.currentState tenant = .ok state) :
    state.tenantId = tenant ∧ (ledger.states.get? tenant).map CalendarStateRow.stateFingerprint =
      some state.fingerprint := by
  rw [CalendarReadLedger.currentState] at current
  split at current
  · cases current
  · next row found =>
    obtain ⟨_, _, current⟩ := bind_ok.mp current
    obtain ⟨_, same, current⟩ := bind_ok.mp current
    cases current
    obtain ⟨print, tenant⟩ := not_or.mp (raiseIf_ok.mp same)
    refine ⟨not_not.mp tenant, ?_⟩
    rw [found, Option.map_some, ← not_not.mp print]

theorem contextOf_bound {tokens : Tokens} {tenant principal channel : String}
    {state : CalendarReadState} {observedAtNs : Nat} {context : WorkspaceReadContext}
    (built : contextOf tokens tenant principal channel state observedAtNs = .ok context)
    (ownTenant : state.tenantId = tenant) (ownPrincipal : state.principalId = principal)
    (ownChannel : state.channelId = channel) :
    Bound context state ∧ context.snapshotId = tokens.snapshotId ∧
      context.observedAtNs = observedAtNs := by
  rw [contextOf] at built
  obtain ⟨first, one, built⟩ := bind_ok.mp built
  obtain ⟨second, two, built⟩ := bind_ok.mp built
  obtain ⟨third, three, built⟩ := bind_ok.mp built
  obtain ⟨fourth, four, built⟩ := bind_ok.mp built
  obtain ⟨fifth, five, built⟩ := bind_ok.mp built
  obtain ⟨sixth, six, built⟩ := bind_ok.mp built
  obtain ⟨epoch, seven, built⟩ := bind_ok.mp built
  obtain ⟨generation, eight, built⟩ := bind_ok.mp built
  obtain ⟨frontier, nine, built⟩ := bind_ok.mp built
  obtain ⟨policy, ten, built⟩ := bind_ok.mp built
  obtain ⟨fence, eleven, built⟩ := bind_ok.mp built
  cases built
  exact ⟨{
    tenant := (identity?_ok one).trans ownTenant.symm
    database := identity?_ok two
    principal := (identity?_ok three).trans ownPrincipal.symm
    contour := identity?_ok four
    channel := (identity?_ok five).trans ownChannel.symm
    endpoint := identity?_ok six
    epoch := positive?_ok seven
    owner := rfl
    generation := identity?_ok eight
    frontier := natural?_ok nine
    registry := rfl
    policy := identity?_ok ten
    fence := identity?_ok eleven }, rfl, rfl⟩

/-- The peer of a snapshot is the recipient in its context. -/
def Owned (broker : CalendarReadBroker) (snapshot : Snapshot) : Prop :=
  broker.peers.get? snapshot.peer = some (snapshot.context.tenantId.text,
    snapshot.context.principalId.text, snapshot.context.channelId.text)

theorem acquire_ok [Wire CalendarBatch] {broker next : CalendarReadBroker} {peer : Peer}
    {tokens : Tokens} {observedAtNs : Nat} {first second : CalendarReadLedger}
    {observed : CalendarBatch} {context : WorkspaceReadContext}
    (acquired : acquire broker peer tokens observedAtNs first second observed =
      .ok (context, next)) :
    ∃ snapshot : Snapshot, snapshot.Sound ∧ Owned broker snapshot ∧
      snapshot.context.snapshotId = tokens.snapshotId ∧
      next = { broker with snapshots := broker.snapshots.set tokens.snapshotId snapshot } := by
  rw [acquire] at acquired
  split at acquired
  · cases acquired
  next tenant principal channel known =>
  obtain ⟨state, current, acquired⟩ := bind_ok.mp acquired
  obtain ⟨_, recipient, acquired⟩ := bind_ok.mp acquired
  have recipient := raiseIf_ok.mp recipient
  simp only [not_or, not_not] at recipient
  obtain ⟨_, draining, ownPrincipal, ownChannel⟩ := recipient
  split at acquired
  · cases acquired
  next batch _ =>
  obtain ⟨_, heads, acquired⟩ := bind_ok.mp acquired
  have heads := raiseIf_ok.mp heads
  simp only [not_or, not_not] at heads
  obtain ⟨rows, prepared, acquired⟩ := bind_ok.mp acquired
  obtain ⟨_, past, acquired⟩ := bind_ok.mp acquired
  have past := raiseIf_ok.mp past
  obtain ⟨_, _, acquired⟩ := bind_ok.mp acquired
  obtain ⟨_, _, acquired⟩ := bind_ok.mp acquired
  obtain ⟨own, built, acquired⟩ := bind_ok.mp acquired
  obtain ⟨ownTenant, _⟩ := currentState_ok current
  obtain ⟨bound, identity, moment⟩ := contextOf_bound built ownTenant ownPrincipal ownChannel
  cases acquired
  refine ⟨⟨context, state, peer, batch, rows, freshnessOf batch⟩,
    ⟨bound, Bool.eq_false_iff.mpr draining, heads.1, heads.2, ?_, ?_, rfl⟩, ?_, identity, ?_⟩
  · intro observation member
    dsimp only
    rw [moment]
    exact Nat.le_of_not_lt (fun late => past ⟨observation, member, late⟩)
  · rw [rowsOf] at prepared
    rw [ownTenant, ownChannel]
    cases listed : prepareRows batch (preparationOf tenant channel state) with
    | error reason =>
        rw [listed] at prepared
        cases prepared
    | ok listed' =>
        rw [listed] at prepared
        cases prepared
        rfl
  · rw [Owned, known, bound.tenant, bound.principal, bound.channel, ownTenant, ownPrincipal,
      ownChannel]
  · rw [identity]

/-! ### Reads -/

section

variable {loads : Bytes → Option Json} {others : Interference} {token : String} {broker : CalendarReadBroker}
  {ledger : CalendarReadLedger} {peer : Peer} {request : WorkspaceReadRequest}

/-- A read that was released to its recipient. -/
structure Released (loads : Bytes → Option Json) (token : String) (broker : CalendarReadBroker)
    (request : WorkspaceReadRequest) (snapshot : Snapshot) (variant : CalendarVariant)
    (selected : List WorkspaceRow) (result : WorkspaceReadResult) : Prop where
  held : broker.snapshots.get? request.context.snapshotId = some snapshot
  context : request.context = snapshot.context
  variant : variantOf? request.query = some variant
  freshness : snapshot.freshness ≠ .unknown
  chosen : select loads broker snapshot request = .ok selected
  fits : ((selected.take request.maxRows).map
    (fun row => row.envelope.sources.items.length)).sum ≤ request.maxRows
  paged : pageResult request snapshot.freshness (selected.take request.maxRows)
    ((cursorBinding? token snapshot request selected).map CalendarCursorBinding.token) = .ok result

/-- What is retained of a released read. -/
def retained (token : String) (request : WorkspaceReadRequest) (snapshot : Snapshot)
    (variant : CalendarVariant) (selected : List WorkspaceRow) (result : WorkspaceReadResult) :
    OriginalCalendarRead where
  providerBatch := snapshot.providerBatch
  state := snapshot.state
  operation := operationOf snapshot.context request variant
  result
  receipt := CalendarReadLedger.receipt (operationOf snapshot.context request variant)
    (proofOf snapshot.context snapshot.state (operationOf snapshot.context request variant)).text
    (utf8 (modelDumpJson result))
  cursorBinding := cursorBinding? token snapshot request selected

/-- What a read leaves of a broker. -/
inductive ReadLeaves (loads : Bytes → Option Json) (token : String)
    (broker : CalendarReadBroker) (request : WorkspaceReadRequest) :
    Except CalendarFailure WorkspaceReadResult → CalendarReadBroker → Prop
  | kept (answer : Except CalendarFailure WorkspaceReadResult)
      (slots : List (Identity × Identity × Identity))
      (cursors : Dict String (Identity × Bytes × String))
      (known : ∀ other, other ≠ token → cursors.get? other = broker.cursors.get? other) :
      ReadLeaves loads token broker request answer { broker with slots, cursors }
  | released (snapshot : Snapshot) (variant : CalendarVariant) (selected : List WorkspaceRow)
      (result : WorkspaceReadResult) (slots : List (Identity × Identity × Identity))
      (cursors : Dict String (Identity × Bytes × String))
      (known : ∀ other, other ≠ token → cursors.get? other = broker.cursors.get? other)
      (own : ∀ binding, cursorBinding? token snapshot request selected = some binding →
        cursors.get? token =
          some (snapshot.context.snapshotId, binding.queryBinding, binding.lastOrderKey))
      (released : Released loads token broker request snapshot variant selected result)
      (key : Peer × Identity × String) :
      ReadLeaves loads token broker request (.ok result)
        { broker with
          slots
          cursors
          originalReads := broker.originalReads.set key
            (retained token request snapshot variant selected result) }

/-- A delivery hands out what was prepared, under the receipt of the read. -/
theorem deliver_some [Wire WorkspaceReadResult] {identity : String × Nat × Nat}
    {operation : CalendarReadOperation} {state : CalendarReadState} {proof : String} {preparedBytes emitted : Bytes}
    {receipt : ReadRelease} {after : CalendarReadLedger}
    (delivered : deliver others identity ledger operation state proof preparedBytes =
      (.ok (some (emitted, receipt)), after)) :
    emitted = preparedBytes ∧
      receipt = CalendarReadLedger.receipt operation proof preparedBytes := by
  rw [deliver] at delivered
  split at delivered
  · cases delivered
  split at delivered
  · cases delivered
  dsimp only at delivered
  split at delivered
  · cases delivered
  split at delivered
  · cases delivered
  split at delivered
  · cases delivered
  split at delivered
  · cases delivered
  split at delivered
  · cases delivered
  split at delivered
  · cases delivered
  next exact =>
  split at delivered
  · cases delivered
  split at delivered
  · cases delivered
  next receipted =>
  cases delivered
  have exact := not_not.mp exact
  subst exact
  refine ⟨rfl, ?_⟩
  rw [CalendarReadLedger.releasedDequeuedReceipt] at receipted
  split at receipted
  · cases receipted
  obtain ⟨_, _, receipted⟩ := bind_ok.mp receipted
  exact (Except.ok.inj receipted).symm

theorem ReadLeaves.same (answer : Except CalendarFailure WorkspaceReadResult) :
    ReadLeaves loads token broker request answer broker :=
  .kept answer broker.slots broker.cursors (fun _ _ => rfl)

omit [Hashlib] in
/-- A cursor is kept under its own token. -/
theorem keepCursor_kept (token : String) (broker : CalendarReadBroker)
    (request : WorkspaceReadRequest) (snapshot : Snapshot) (selected : List WorkspaceRow) :
    ∃ cursors, broker.keepCursor snapshot (cursorBinding? token snapshot request selected) =
        { broker with cursors } ∧
      (∀ other, other ≠ token → cursors.get? other = broker.cursors.get? other) ∧
      ∀ binding, cursorBinding? token snapshot request selected = some binding →
        cursors.get? token =
          some (snapshot.context.snapshotId, binding.queryBinding, binding.lastOrderKey) := by
  cases kept : cursorBinding? token snapshot request selected with
  | none => exact ⟨broker.cursors, rfl, fun _ _ => rfl, fun _ impossible => by cases impossible⟩
  | some binding =>
      have own : binding.token = token := by
        rw [cursorBinding?] at kept
        split at kept
        · obtain ⟨last, _, same⟩ := Option.map_eq_some_iff.mp kept
          rw [← same]
        · cases kept
      refine ⟨_, rfl, ?_, ?_⟩
      · intro other differs
        rw [Dict.get?_set, own, if_neg differs]
      · intro other same
        cases same
        rw [Dict.get?_set, own, if_pos rfl]

theorem readRows_leaves [Wire WorkspaceReadResult] {snapshot : Snapshot} {variant : CalendarVariant}
    {selected : List WorkspaceRow}
    (held : broker.snapshots.get? request.context.snapshotId = some snapshot)
    (context : request.context = snapshot.context) (variantOf : variantOf? request.query = some variant)
    (freshness : snapshot.freshness ≠ .unknown)
    (chosen : select loads broker snapshot request = .ok selected) :
    ReadLeaves loads token broker request
      (readRows others token broker ledger peer snapshot request variant selected).result
      (readRows others token broker ledger peer snapshot request variant selected).broker := by
  rw [readRows]
  dsimp only
  split
  · exact .same _
  split
  · exact .kept _ _ broker.cursors (fun _ _ => rfl)
  next fits =>
  split
  · exact .kept _ _ broker.cursors (fun _ _ => rfl)
  next begun =>
  generalize ((snapshot.context.tenantId, snapshot.context.sessionId, request.responseSlotId) ::
    broker.slots) = slots
  obtain ⟨cursors, same, known, own⟩ := keepCursor_kept token { broker with slots } request snapshot
    selected
  split
  · rw [same]
    exact .kept _ slots cursors known
  next result paged =>
  split
  · rw [same]
    exact .kept _ slots cursors known
  · rw [same]
    exact .kept _ slots cursors known
  next emitted receipt _ delivered =>
  obtain ⟨exact, receipted⟩ := deliver_some delivered
  subst exact receipted
  rw [Wire.validate_dump, same]
  have known : ∀ other, other ≠ token → cursors.get? other = broker.cursors.get? other := known
  have outcome : ReadLeaves loads token broker request (.ok result) { broker with
      slots
      cursors
      originalReads := broker.originalReads.set (peer, snapshot.context.snapshotId,
        (operationOf snapshot.context request variant).fingerprint)
        (retained token request snapshot variant selected result) } :=
    .released snapshot variant selected result slots cursors known own
      ⟨held, context, variantOf, freshness, chosen, Nat.le_of_not_lt fits, paged⟩ _
  exact outcome

theorem read_leaves [Wire WorkspaceReadRequest] [Wire WorkspaceReadResult] :
    ReadLeaves loads token broker request
    (read loads others token broker ledger peer request).result
    (read loads others token broker ledger peer request).broker := by
  rw [read, Wire.validate_dump]
  dsimp only
  split
  · exact .same _
  next snapshot held =>
  split
  · exact .same _
  next recipient =>
  obtain ⟨_, recipient⟩ := not_or.mp recipient
  have context := not_not.mp (not_or.mp recipient).1
  split
  · exact .same _
  next variant variantOf =>
  split
  · exact .same _
  split
  · exact .same _
  · exact .same _
  next selected admitted =>
  rw [admission] at admitted
  split at admitted
  · cases admitted
  obtain ⟨state, _, admitted⟩ := bind_ok.mp admitted
  split at admitted
  · cases admitted
  next current =>
  obtain ⟨rows, chosen, admitted⟩ := bind_ok.mp admitted
  cases admitted
  exact readRows_leaves held context variantOf (not_or.mp current).2 chosen

end

end

/-! ### Runs -/

variable [Hashlib] [Wire CalendarBatch] [Wire WorkspaceReadRequest] [Wire WorkspaceReadResult]

structure World where
  broker : CalendarReadBroker
  ledger : CalendarReadLedger

/-- A broker that was just built over the ledger. -/
def World.initial (ledger : CalendarReadLedger) : World :=
  ⟨⟨ledger.physicalIdentity, .empty, .empty, .empty, .empty, []⟩, ledger⟩

/-- The steps of a broker, and whatever others do to its ledger. -/
inductive Step (loads : Bytes → Option Json) : World → World → Prop
  | authenticate (world : World) (peer : Peer) (tenant principal channel : String)
      (fresh : world.broker.peers.get? peer = none) :
      Step loads world { world with broker := { world.broker with
        peers := world.broker.peers.set peer (tenant, principal, channel) } }
  | acquire (world : World) (peer : Peer) (tokens : Tokens) (observedAtNs : Nat)
      (first : CalendarReadLedger) (observed : CalendarBatch) (context : WorkspaceReadContext)
      (broker : CalendarReadBroker)
      (fresh : world.broker.snapshots.get? tokens.snapshotId = none)
      (acquired : acquire world.broker peer tokens observedAtNs first world.ledger observed =
        .ok (context, broker)) : Step loads world ⟨broker, world.ledger⟩
  | read (world : World) (others : Interference) (token : String) (peer : Peer)
      (request : WorkspaceReadRequest) (fresh : world.broker.cursors.get? token = none) :
      Step loads world
        ⟨(Calendar.read loads others token world.broker world.ledger peer request).broker,
          (Calendar.read loads others token world.broker world.ledger peer request).ledger⟩
  | others (world : World) (ledger : CalendarReadLedger) : Step loads world { world with ledger }

/-- What a broker has issued it keeps. -/
structure Keeps (before after : CalendarReadBroker) : Prop where
  identity : after.identity = before.identity
  peers : ∀ peer recipient, before.peers.get? peer = some recipient →
    after.peers.get? peer = some recipient
  snapshots : ∀ id snapshot, before.snapshots.get? id = some snapshot →
    after.snapshots.get? id = some snapshot
  cursors : ∀ token cursor, before.cursors.get? token = some cursor →
    after.cursors.get? token = some cursor

omit [Hashlib] [Wire CalendarBatch] [Wire WorkspaceReadRequest] [Wire WorkspaceReadResult] in
theorem Keeps.refl (broker : CalendarReadBroker) : Keeps broker broker :=
  ⟨rfl, fun _ _ => id, fun _ _ => id, fun _ _ => id⟩

omit [Hashlib] [Wire CalendarBatch] [Wire WorkspaceReadRequest] [Wire WorkspaceReadResult] in
theorem Keeps.trans {first second third : CalendarReadBroker} (early : Keeps first second)
    (late : Keeps second third) : Keeps first third where
  identity := late.identity.trans early.identity
  peers := fun peer recipient known => late.peers peer recipient (early.peers peer recipient known)
  snapshots := fun id snapshot known => late.snapshots id snapshot (early.snapshots id snapshot known)
  cursors := fun token cursor known => late.cursors token cursor (early.cursors token cursor known)

omit [Hashlib] [Wire CalendarBatch] [Wire WorkspaceReadRequest] [Wire WorkspaceReadResult] in
/-- A new name replaces nothing. -/
theorem get?_set_fresh {κ β : Type} [DecidableEq κ] {dict : Dict κ β} {fresh key : κ}
    {value known : β} (absent : dict.get? fresh = none) (found : dict.get? key = some known) :
    (dict.set fresh value).get? key = some known := by
  have differs : key ≠ fresh := by
    intro same
    rw [same, absent] at found
    cases found
  rw [Dict.get?_set, if_neg differs]
  exact found

variable {loads : Bytes → Option Json} {world next : World}

theorem Step.keeps (step : Step loads world next) : Keeps world.broker next.broker := by
  cases step with
  | authenticate peer tenant principal channel fresh =>
      exact ⟨rfl, fun _ _ => get?_set_fresh fresh, fun _ _ => id, fun _ _ => id⟩
  | acquire peer tokens observedAtNs first observed context broker fresh acquired =>
      obtain ⟨snapshot, _, _, _, rfl⟩ := acquire_ok acquired
      exact ⟨rfl, fun _ _ => id, fun _ _ => get?_set_fresh fresh, fun _ _ => id⟩
  | read others token peer request fresh =>
      have known {cursors : Dict String (Identity × Bytes × String)}
          (kept : ∀ other, other ≠ token → cursors.get? other = world.broker.cursors.get? other)
          (other : String) (cursor : Identity × Bytes × String)
          (found : world.broker.cursors.get? other = some cursor) :
          cursors.get? other = some cursor := by
        have differs : other ≠ token := by
          intro same
          rw [same, fresh] at found
          cases found
        rw [kept other differs]
        exact found
      have leaves : ReadLeaves loads token world.broker request _ _ :=
        @read_leaves _ loads others token world.broker world.ledger peer request _ _
      dsimp only
      generalize (Calendar.read loads others token world.broker world.ledger peer request).result = answer
        at leaves
      generalize (Calendar.read loads others token world.broker world.ledger peer request).broker = broker
        at leaves
      cases leaves with
      | kept _ slots cursors kept => exact ⟨rfl, fun _ _ => id, fun _ _ => id, known kept⟩
      | released snapshot variant selected result slots cursors kept =>
          exact ⟨rfl, fun _ _ => id, fun _ _ => id, known kept⟩
  | others ledger => exact .refl _

/-- The broker of every run. -/
structure World.Sound (loads : Bytes → Option Json) (world : World) : Prop where
  snapshots : ∀ id snapshot, world.broker.snapshots.get? id = some snapshot →
    snapshot.Sound ∧ Owned world.broker snapshot ∧ snapshot.context.snapshotId = id
  originals : ∀ key original, world.broker.originalReads.get? key = some original →
    ∃ token broker request snapshot variant selected result, snapshot.Sound ∧
      Released loads token broker request snapshot variant selected result ∧
      original = retained token request snapshot variant selected result

omit [Wire CalendarBatch] [Wire WorkspaceReadRequest] [Wire WorkspaceReadResult] in
theorem World.initial_sound (ledger : CalendarReadLedger) :
    (World.initial ledger).Sound loads where
  snapshots := by
    intro id snapshot found
    cases found
  originals := by
    intro key original found
    cases found

omit [Hashlib] [Wire CalendarBatch] [Wire WorkspaceReadRequest] [Wire WorkspaceReadResult] in
theorem Owned.mono {before after : CalendarReadBroker} {snapshot : Snapshot}
    (owned : Owned before snapshot) (kept : Keeps before after) : Owned after snapshot :=
  kept.peers _ _ owned

theorem Step.sound (step : Step loads world next) (sound : world.Sound loads) :
    next.Sound loads := by
  have kept := step.keeps
  cases step with
  | authenticate peer tenant principal channel fresh =>
      refine ⟨?_, sound.originals⟩
      intro id snapshot found
      obtain ⟨own, owned, named⟩ := sound.snapshots id snapshot found
      exact ⟨own, owned.mono kept, named⟩
  | acquire peer tokens observedAtNs first observed context broker fresh acquired =>
      obtain ⟨snapshot, own, owned, named, rfl⟩ := acquire_ok acquired
      refine ⟨?_, sound.originals⟩
      intro id other found
      rw [Dict.get?_set] at found
      split at found
      · next same =>
        cases found
        exact ⟨own, owned, named.trans same.symm⟩
      · exact sound.snapshots id other found
  | read others token peer request fresh =>
      have leaves : ReadLeaves loads token world.broker request _ _ :=
        @read_leaves _ loads others token world.broker world.ledger peer request _ _
      clear kept
      generalize (Calendar.read loads others token world.broker world.ledger peer request).result = answer
        at leaves
      generalize (Calendar.read loads others token world.broker world.ledger peer request).broker = broker
        at leaves ⊢
      cases leaves with
      | kept _ slots cursors kept => exact ⟨sound.snapshots, sound.originals⟩
      | released snapshot variant selected result slots cursors known own released key =>
          refine ⟨sound.snapshots, ?_⟩
          intro other original found
          rw [Dict.get?_set] at found
          split at found
          · cases found
            exact ⟨token, world.broker, request, snapshot, variant, selected, result,
              (sound.snapshots _ _ released.held).1, released, rfl⟩
          · exact sound.originals other original found
  | others ledger => exact ⟨sound.snapshots, sound.originals⟩

/-- Everything that happens between two moments of a run. -/
abbrev Steps (loads : Bytes → Option Json) : World → World → Prop :=
  Relation.ReflTransGen (Step loads)

theorem Steps.keeps (steps : Steps loads world next) : Keeps world.broker next.broker := by
  induction steps with
  | refl => exact .refl _
  | tail _ last ih => exact ih.trans last.keeps

theorem Steps.sound (steps : Steps loads world next) (sound : world.Sound loads) :
    next.Sound loads := by
  induction steps with
  | refl => exact sound
  | tail _ last ih => exact last.sound ih

end Chiplog.Calendar
