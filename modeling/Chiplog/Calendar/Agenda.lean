import Chiplog.Calendar.Broker
import Chiplog.Data.JsonDecoding
import Chiplog.Data.Paging

namespace Chiplog.Calendar

open Chiplog.Data
open Chiplog.Platform (ReleaseRow ReadRelease ReadDisposition)

/-! Reads that nobody disturbs.

While the state of the snapshot is current and the attempt, the slot and the token are new, a
read of rows that fit is released to its recipient. -/

section

variable [Hashlib]

/-- A change of the ledger that leaves its file, the state of a tenant and one attempt alone. -/
structure Undisturbed (tenant : String) (key : String × String)
    (change : CalendarReadLedger → CalendarReadLedger) : Prop where
  identity : ∀ ledger, (change ledger).physicalIdentity = ledger.physicalIdentity
  state : ∀ ledger, (change ledger).currentState tenant = ledger.currentState tenant
  attempt : ∀ ledger, (change ledger).releases.get? key = ledger.releases.get? key

/-- Interference that does not concern a read. -/
structure Interference.Quiet (others : Interference) (tenant : String) (key : String × String) :
    Prop where
  begin : Undisturbed tenant key others.beforeBegin
  release : Undisturbed tenant key others.beforeRelease
  dequeue : Undisturbed tenant key others.beforeDequeue
  receipt : Undisturbed tenant key others.beforeReceipt

variable {others : Interference} {identity : String × Nat × Nat} {ledger : CalendarReadLedger}
  {operation : CalendarReadOperation} {state : CalendarReadState} {proof : String}
  {resultBytes : Bytes}

omit [Hashlib] in
theorem putRelease_get? (ledger : CalendarReadLedger) (key : String × String) (row : ReleaseRow) :
    (ledger.putRelease key row).releases.get? key = some row := by
  rw [CalendarReadLedger.putRelease, Dict.get?_set, if_pos rfl]

theorem putRelease_currentState (ledger : CalendarReadLedger) (key : String × String)
    (row : ReleaseRow) (tenant : String) :
    (ledger.putRelease key row).currentState tenant = ledger.currentState tenant := rfl

/-- A state that an operation may be released under. -/
structure Admits (operation : CalendarReadOperation) (state : CalendarReadState) : Prop where
  tenant : operation.tenantId = state.tenantId
  draining : state.ownerDraining = false
  epoch : operation.brokerEpoch = state.brokerEpoch
  generation : operation.generationId = state.ownerGeneration

theorem begin_fresh (admits : Admits operation state)
    (fresh : ledger.releases.get? operation.key = none) :
    ledger.begin operation state = .ok (ledger.putRelease operation.key
      (CalendarReadLedger.prepared operation state)) := by
  rw [CalendarReadLedger.begin, raiseIf_neg (not_not.mpr admits.tenant), ok_bind, fresh,
    raiseIf_neg (by simp), ok_bind]

theorem release_begun (proof : String) (resultBytes : Bytes) (admits : Admits operation state)
    (begun : ledger.releases.get? operation.key =
      some (CalendarReadLedger.prepared operation state))
    (current : ledger.currentState operation.tenantId = .ok state) :
    ledger.release operation state proof resultBytes = .ok (.released,
      ledger.putRelease operation.key
        ((CalendarReadLedger.prepared operation state).release proof resultBytes)) := by
  have matching : ledger.CurrentMatches (CalendarReadLedger.prepared operation state) operation
      state :=
    ⟨(currentState_ok current).2, rfl, admits.draining, admits.epoch, admits.generation⟩
  rw [CalendarReadLedger.release, begun]
  dsimp only
  rw [raiseIf_neg (by simp [CalendarReadLedger.prepared]), ok_bind,
    if_neg (by simp [CalendarReadLedger.prepared]), if_pos matching]

/-- The row of a read that was released and not yet taken. -/
abbrev releasedRow (operation : CalendarReadOperation) (state : CalendarReadState)
    (proof : String) (resultBytes : Bytes) : ReleaseRow :=
  (CalendarReadLedger.prepared operation state).release proof resultBytes

theorem dequeue_released
    (released : ledger.releases.get? operation.key =
      some (releasedRow operation state proof resultBytes)) :
    ledger.dequeue operation = .ok (some resultBytes, ledger.putRelease operation.key
      { releasedRow operation state proof resultBytes with dequeued := true }) := by
  have waiting : ¬ ((releasedRow operation state proof resultBytes).recipientFingerprint ≠
      operation.recipientFingerprint ∨
      (releasedRow operation state proof resultBytes).state ≠ .released ∨
      (releasedRow operation state proof resultBytes).enqueued = false ∨
      (releasedRow operation state proof resultBytes).dequeued = true) := by
    simp [ReleaseRow.release, CalendarReadLedger.prepared]
  rw [CalendarReadLedger.dequeue, released]
  dsimp only
  rw [if_neg waiting]
  rfl

theorem receipt_dequeued
    (dequeued : ledger.releases.get? operation.key =
      some { releasedRow operation state proof resultBytes with dequeued := true }) :
    ledger.releasedDequeuedReceipt operation state proof resultBytes =
      .ok (CalendarReadLedger.receipt operation proof resultBytes) := by
  rw [CalendarReadLedger.releasedDequeuedReceipt, dequeued]
  dsimp only
  rw [raiseIf_neg (by simp [ReleaseRow.release, CalendarReadLedger.prepared]), ok_bind]

/-- A begun read of the current state is delivered. -/
theorem deliver_begun [Wire WorkspaceReadResult]
    (quiet : others.Quiet operation.tenantId operation.key) (admits : Admits operation state)
    (same : ledger.physicalIdentity = identity)
    (begun : ledger.releases.get? operation.key =
      some (CalendarReadLedger.prepared operation state))
    (current : ledger.currentState operation.tenantId = .ok state) (proof : String)
    (result : WorkspaceReadResult) :
    ∃ after, deliver others identity ledger operation state proof (utf8 (modelDumpJson result)) =
      (.ok (some (utf8 (modelDumpJson result), CalendarReadLedger.receipt operation proof
        (utf8 (modelDumpJson result)))), after) := by
  have released := release_begun proof (utf8 (modelDumpJson result)) admits
    ((quiet.release.attempt ledger).trans begun) ((quiet.release.state ledger).trans current)
  generalize placed : (others.beforeRelease ledger).putRelease operation.key
    (releasedRow operation state proof (utf8 (modelDumpJson result))) = waiting at released
  have waits : waiting.releases.get? operation.key =
      some (releasedRow operation state proof (utf8 (modelDumpJson result))) := by
    rw [← placed]
    exact putRelease_get? _ _ _
  have home : waiting.physicalIdentity = identity := by
    rw [← placed]
    exact (quiet.release.identity ledger).trans same
  have dequeued := dequeue_released ((quiet.dequeue.attempt waiting).trans waits)
  generalize kept : (others.beforeDequeue waiting).putRelease operation.key
    { releasedRow operation state proof (utf8 (modelDumpJson result)) with dequeued := true } =
      taken at dequeued
  have takes : taken.releases.get? operation.key = some
      { releasedRow operation state proof (utf8 (modelDumpJson result)) with dequeued := true } := by
    rw [← kept]
    exact putRelease_get? _ _ _
  have stays : taken.physicalIdentity = identity := by
    rw [← kept]
    exact (quiet.dequeue.identity waiting).trans home
  have receipted := receipt_dequeued ((quiet.receipt.attempt taken).trans takes)
  refine ⟨others.beforeReceipt taken, ?_⟩
  rw [deliver]
  dsimp only
  rw [if_neg (not_not.mpr ((quiet.release.identity ledger).trans same)), released]
  dsimp only
  rw [if_neg (not_not.mpr ((quiet.dequeue.identity waiting).trans home)),
    if_neg (not_not.mpr rfl), dequeued]
  dsimp only
  rw [if_neg (not_not.mpr ((quiet.receipt.identity taken).trans stays)),
    if_neg (not_not.mpr rfl), Wire.validate_dump]
  dsimp only
  rw [receipted]

/-! ### Reads -/

/-- What a read needs of its surroundings: the state of the snapshot is current, the slot, the
attempt and the token are new, and what others do meanwhile does not concern the read. -/
structure Clear (world : World) (snapshot : Snapshot) (request : WorkspaceReadRequest)
    (others : Interference) : Prop where
  home : world.ledger.physicalIdentity = world.broker.identity
  current : world.ledger.currentState snapshot.context.tenantId.text = .ok snapshot.state
  slot : (snapshot.context.tenantId, snapshot.context.sessionId, request.responseSlotId) ∉
    world.broker.slots
  attempt : world.ledger.releases.get?
    (snapshot.context.tenantId.text, request.readAttemptId.text) = none
  quiet : others.Quiet snapshot.context.tenantId.text
    (snapshot.context.tenantId.text, request.readAttemptId.text)

theorem Snapshot.Sound.admits {snapshot : Snapshot} (sound : snapshot.Sound)
    (request : WorkspaceReadRequest) (variant : CalendarVariant) :
    Admits (operationOf snapshot.context request variant) snapshot.state where
  tenant := sound.bound.tenant
  draining := sound.draining
  epoch := sound.bound.epoch
  generation := sound.bound.generation

variable {loads : Bytes → Option Json} {token : String} {world : World} {snapshot : Snapshot}
  {request : WorkspaceReadRequest} {variant : CalendarVariant} {selected : List WorkspaceRow}
  {result : WorkspaceReadResult}

omit [Hashlib] in
theorem keepCursor_identity (broker : CalendarReadBroker) (snapshot : Snapshot)
    (binding : Option CalendarCursorBinding) :
    (broker.keepCursor snapshot binding).identity = broker.identity := by
  cases binding <;> rfl

omit [Hashlib] in
theorem keepCursor_cursors (broker : CalendarReadBroker)
    (slots : List (Identity × Identity × Identity)) (snapshot : Snapshot)
    (binding : Option CalendarCursorBinding) :
    (({ broker with slots } : CalendarReadBroker).keepCursor snapshot binding).cursors =
      (broker.keepCursor snapshot binding).cursors := by
  cases binding <;> rfl

/-- Rows that fit are released; the cursor behind them and the read itself are kept. -/
theorem readRows_released [Wire WorkspaceReadResult] (sound : snapshot.Sound)
    (clear : Clear world snapshot request others)
    (fits : ((selected.take request.maxRows).map
      (fun row => row.envelope.sources.items.length)).sum ≤ request.maxRows)
    (paged : pageResult request snapshot.freshness (selected.take request.maxRows)
      ((cursorBinding? token snapshot request selected).map CalendarCursorBinding.token) =
        .ok result) (peer : Peer) :
    (readRows others token world.broker world.ledger peer snapshot request variant
        selected).result = .ok result ∧
      (readRows others token world.broker world.ledger peer snapshot request variant
        selected).broker.cursors = (world.broker.keepCursor snapshot
          (cursorBinding? token snapshot request selected)).cursors ∧
      (readRows others token world.broker world.ledger peer snapshot request variant
        selected).broker.originalReads.get? (peer, snapshot.context.snapshotId,
          (operationOf snapshot.context request variant).fingerprint) =
        some (retained token request snapshot variant selected result) := by
  have admits := sound.admits request variant
  have quiet := clear.quiet
  have begun := begin_fresh admits ((quiet.begin.attempt world.ledger).trans clear.attempt)
  generalize placed : (others.beforeBegin world.ledger).putRelease
    (operationOf snapshot.context request variant).key
    (CalendarReadLedger.prepared (operationOf snapshot.context request variant) snapshot.state) =
      ledger at begun
  have home : ledger.physicalIdentity = world.broker.identity := by
    rw [← placed]
    exact (quiet.begin.identity world.ledger).trans clear.home
  have current : ledger.currentState (operationOf snapshot.context request variant).tenantId =
      .ok snapshot.state := by
    rw [← placed, putRelease_currentState]
    exact (quiet.begin.state world.ledger).trans clear.current
  have prepared : ledger.releases.get? (operationOf snapshot.context request variant).key =
      some (CalendarReadLedger.prepared (operationOf snapshot.context request variant)
        snapshot.state) := by
    rw [← placed]
    exact putRelease_get? _ _ _
  obtain ⟨after, delivered⟩ := deliver_begun quiet admits home prepared current
    (proofOf snapshot.context snapshot.state (operationOf snapshot.context request variant)).text
    result
  rw [readRows]
  dsimp only
  rw [if_neg clear.slot, if_neg (Nat.not_lt.mpr fits), begun]
  dsimp only
  rw [paged]
  dsimp only
  rw [keepCursor_identity, delivered]
  dsimp only
  rw [Wire.validate_dump]
  refine ⟨rfl, keepCursor_cursors _ _ _ _, ?_⟩
  rw [Dict.get?_set, if_pos rfl]
  rfl

/-- The calendar owner serves its two queries. -/
theorem Snapshot.Sound.served (sound : snapshot.Sound)
    (variantOf : variantOf? request.query = some variant) :
    [request.query.wire, snapshot.context.ownerId.text, "calendar.read",
      "calendar-observations"] ∈ queryManifest := by
  rw [sound.bound.owner]
  cases asked : request.query with
  | calendarAgenda => exact List.mem_cons_self
  | calendarDetail => exact List.mem_cons_of_mem _ List.mem_cons_self
  | conversationHistory => rw [asked] at variantOf; cases variantOf
  | planningView => rw [asked] at variantOf; cases variantOf
  | journalClaims => rw [asked] at variantOf; cases variantOf

/-- What a current snapshot admits is what is selected from it. -/
theorem Clear.admission (clear : Clear world snapshot request others)
    (freshness : snapshot.freshness ≠ .unknown) :
    admission loads world.broker world.ledger snapshot request =
      (select loads world.broker snapshot request).map some := by
  rw [Calendar.admission, if_neg (not_not.mpr clear.home), clear.current, ok_bind,
    if_neg (not_or.mpr ⟨not_not.mpr rfl, freshness⟩)]
  cases select loads world.broker snapshot request <;> rfl

section

variable [Wire WorkspaceReadRequest] [Wire WorkspaceReadResult]

/-- A read by the recipient of a snapshot goes on with the rows that are admitted. -/
theorem read_admitted (sound : snapshot.Sound) (owned : Owned world.broker snapshot)
    (held : world.broker.snapshots.get? request.context.snapshotId = some snapshot)
    (context : request.context = snapshot.context)
    (variantOf : variantOf? request.query = some variant) :
    read loads others token world.broker world.ledger snapshot.peer request =
      match admission loads world.broker world.ledger snapshot request with
      | .error failure => ⟨caught request failure, world.broker, world.ledger⟩
      | .ok none => ⟨.ok (refused request .staleOrIndeterminateRead "stale heads"), world.broker,
          world.ledger⟩
      | .ok (some selected) =>
          readRows others token world.broker world.ledger snapshot.peer snapshot request variant
            selected := by
  have recipient : ¬ (snapshot.peer ≠ snapshot.peer ∨ request.context ≠ snapshot.context ∨
      world.broker.peers.get? snapshot.peer ≠ some (request.context.tenantId.text,
        request.context.principalId.text, request.context.channelId.text)) := by
    rw [context]
    simp only [ne_eq, not_true_eq_false, false_or, not_not]
    exact owned
  rw [read, Wire.validate_dump]
  dsimp only
  rw [held]
  dsimp only
  rw [if_neg recipient, variantOf]
  dsimp only
  rewrite [if_neg (not_not.mpr (sound.served variantOf))]
  generalize admission loads world.broker world.ledger snapshot request = admitted
  rcases admitted with failure | _ | selected <;> rfl

/-- A read of a current snapshot hands out the page that it has selected. -/
theorem read_released (sound : snapshot.Sound) (owned : Owned world.broker snapshot)
    (held : world.broker.snapshots.get? request.context.snapshotId = some snapshot)
    (context : request.context = snapshot.context)
    (variantOf : variantOf? request.query = some variant)
    (freshness : snapshot.freshness ≠ .unknown) (clear : Clear world snapshot request others)
    (chosen : select loads world.broker snapshot request = .ok selected)
    (fits : ((selected.take request.maxRows).map
      (fun row => row.envelope.sources.items.length)).sum ≤ request.maxRows)
    (paged : pageResult request snapshot.freshness (selected.take request.maxRows)
      ((cursorBinding? token snapshot request selected).map CalendarCursorBinding.token) =
        .ok result) :
    (read loads others token world.broker world.ledger snapshot.peer request).result =
        .ok result ∧
      (read loads others token world.broker world.ledger snapshot.peer request).broker.cursors =
        (world.broker.keepCursor snapshot
          (cursorBinding? token snapshot request selected)).cursors ∧
      (read loads others token world.broker world.ledger snapshot.peer
          request).broker.originalReads.get? (snapshot.peer, snapshot.context.snapshotId,
          (operationOf snapshot.context request variant).fingerprint) =
        some (retained token request snapshot variant selected result) := by
  rw [read_admitted sound owned held context variantOf, clear.admission freshness, chosen]
  exact readRows_released sound clear fits paged snapshot.peer

/-- A page with more sources than rows are asked for is not released. -/
theorem read_crowded (sound : snapshot.Sound) (owned : Owned world.broker snapshot)
    (held : world.broker.snapshots.get? request.context.snapshotId = some snapshot)
    (context : request.context = snapshot.context)
    (variantOf : variantOf? request.query = some variant)
    (freshness : snapshot.freshness ≠ .unknown) (clear : Clear world snapshot request others)
    (chosen : select loads world.broker snapshot request = .ok selected)
    (crowded : request.maxRows < ((selected.take request.maxRows).map
      (fun row => row.envelope.sources.items.length)).sum) :
    (read loads others token world.broker world.ledger snapshot.peer request).result =
      .ok (refused request .staleOrIndeterminateRead
        "complete source closure cannot fit requested bound") := by
  rw [read_admitted sound owned held context variantOf, clear.admission freshness, chosen]
  change (readRows others token world.broker world.ledger snapshot.peer snapshot request variant
    selected).result = _
  rw [readRows]
  dsimp only
  rw [if_neg clear.slot, if_pos crowded]

/-- A request that selects nothing is answered with the failure. -/
theorem read_unselected (sound : snapshot.Sound) (owned : Owned world.broker snapshot)
    (held : world.broker.snapshots.get? request.context.snapshotId = some snapshot)
    (context : request.context = snapshot.context)
    (variantOf : variantOf? request.query = some variant)
    (freshness : snapshot.freshness ≠ .unknown) (clear : Clear world snapshot request others)
    {reason : String} (failed : select loads world.broker snapshot request =
      .error (.value reason)) :
    (read loads others token world.broker world.ledger snapshot.peer request).result =
      .ok (refused request .staleOrIndeterminateRead reason) := by
  rw [read_admitted sound owned held context variantOf, clear.admission freshness, failed]
  rfl

end

end

end Chiplog.Calendar

namespace Chiplog.Calendar

open Chiplog.Data

/-! Agenda reads, range by range and page by page.

Between two pages the broker and the ledger go on with whatever else they do; the cursor of a
page stands for the key of its last row. -/

/-! ### Ranges -/

/-- The ranges between consecutive bounds. -/
def consecutive {α : Type} (first : α) (rest : List α) : List (α × α) := (first :: rest).zip rest

theorem mem_consecutive {α : Type} [LinearOrder α] {first last value : α} {rest : List α}
    (above : first ≤ value) (member : last ∈ rest) (below : value < last) :
    ∃ range ∈ consecutive first rest, range.1 ≤ value ∧ value < range.2 := by
  induction rest generalizing first with
  | nil => cases member
  | cons second rest ih =>
      rcases lt_or_ge value second with inside | beyond
      · exact ⟨(first, second), List.mem_cons_self, above, inside⟩
      · have later : last ∈ rest := by
          rcases List.mem_cons.mp member with same | later
          · exact absurd (same ▸ below) (not_lt.mpr beyond)
          · exact later
        obtain ⟨range, among, between⟩ := ih beyond later
        exact ⟨range, List.mem_cons_of_mem _ among, between⟩

theorem consecutive_bounds {α : Type} {first : α} {rest : List α} {range : α × α}
    (member : range ∈ consecutive first rest) : range.1 ∈ first :: rest :=
  (List.of_mem_zip member).1

theorem consecutive_ordered {α : Type} [LinearOrder α] {first : α} {rest : List α}
    (increasing : (first :: rest).Pairwise (· < ·)) {range : α × α}
    (member : range ∈ consecutive first rest) : first ≤ range.1 ∧ range.1 < range.2 := by
  induction rest generalizing first with
  | nil => cases member
  | cons second rest ih =>
      obtain ⟨below, increasing⟩ := List.pairwise_cons.mp increasing
      have less := below second List.mem_cons_self
      rcases List.mem_cons.mp member with rfl | later
      · exact ⟨le_refl _, less⟩
      · obtain ⟨above, ordered⟩ := ih increasing later
        exact ⟨less.le.trans above, ordered⟩

/-! ### Events of a range -/

/-- The observations of a batch in the order of their rows. -/
def ordered (batch : CalendarBatch) : List CalendarObservation :=
  batch.observations.insertionSort (fun first second => orderKey first ≤ orderKey second)

theorem mem_ordered {batch : CalendarBatch} {observation : CalendarObservation} :
    observation ∈ ordered batch ↔ observation ∈ batch.observations :=
  (List.perm_insertionSort _ _).mem_iff

/-- The events that overlap a range, in the order of their rows. -/
def eventsOf (batch : CalendarBatch) (range : Int × Int) : List CalendarObservation :=
  (ordered batch).filter (fun observation =>
    (observation.startNs : Int) < range.2 ∧ range.1 < (observation.endNs : Int))

theorem mem_eventsOf {batch : CalendarBatch} {range : Int × Int}
    {observation : CalendarObservation} : observation ∈ eventsOf batch range ↔
      observation ∈ batch.observations ∧ (observation.startNs : Int) < range.2 ∧
        range.1 < (observation.endNs : Int) := by
  rw [eventsOf, List.mem_filter, mem_ordered, decide_eq_true_eq]

/-- The interval of a row is that of its event. -/
theorem interval?_payload {loads : Bytes → Option Json} (reads : ReadsFlat loads)
    (observation : CalendarObservation) : interval? loads (observationPayload observation) =
      some ((observation.startNs : Int), (observation.endNs : Int)) := by
  have distinct : ((payloadFields observation).map Prod.fst).Nodup := by
    simp [payloadFields]
  have flat : ∀ field ∈ payloadFields observation, Json.Flat field.2 := by
    have fresh : Json.Flat (toJson observation.freshness) := by
      cases observation.freshness <;> exact .str _
    simp only [payloadFields, List.forall_mem_cons, List.not_mem_nil, false_implies, implies_true]
    exact ⟨.str _, .int _, .str _, fresh, .int _, .str _, .int _, .str _, .str _, .str _, trivial⟩
  have start : (Json.sortFields (payloadFields observation)).lookup "start_ns" =
      some (.int observation.startNs) :=
    Json.lookup_sortFields distinct (by simp [payloadFields, toJson])
  have stop : (Json.sortFields (payloadFields observation)).lookup "end_ns" =
      some (.int observation.endNs) :=
    Json.lookup_sortFields distinct (by simp [payloadFields, toJson])
  rw [interval?, observationPayload, reads _ distinct flat]
  dsimp only
  rw [start, stop]

/-- The loop of `_select` keeps what overlaps after a key. -/
theorem overlapping_rowOf {loads : Bytes → Option Json} (reads : ReadsFlat loads)
    (after : String) (range : Int × Int) (observations : List CalendarObservation) :
    overlapping loads after range.1 range.2 (observations.map rowOf) =
      .ok ((observations.filter (fun observation => after < orderKey observation ∧
        (observation.startNs : Int) < range.2 ∧ range.1 < (observation.endNs : Int))).map
          rowOf) := by
  induction observations with
  | nil => rfl
  | cons observation rest ih =>
      rw [List.map_cons, overlapping]
      have payload : (rowOf observation).canonicalPayload = observationPayload observation := by
        rw [rowOf]
      have key : (rowOf observation).orderKey = orderKey observation := by
        rw [rowOf]
      rw [payload, interval?_payload reads, key]
      dsimp only
      rw [ih, ok_bind, List.filter_cons]
      -- the key's text is not looked into
      generalize orderKey observation = key
      by_cases chosen : after < key ∧
          (observation.startNs : Int) < range.2 ∧ range.1 < (observation.endNs : Int)
      · rw [if_pos chosen, if_pos (decide_eq_true chosen), List.map_cons]
      · rw [if_neg chosen, if_neg (by simpa using chosen)]

section

variable [Hashlib] {batch : CalendarBatch} {preparation : Preparation} {rows : List WorkspaceRow}

theorem prepareRows_ordered (prepared : prepareRows batch preparation = .ok rows) :
    rows = (ordered batch).map rowOf := by
  rw [(prepareRows_prepared prepared).2, ordered]
  exact (List.map_insertionSort _ _ rowOf _ (fun _ _ _ _ => Iff.rfl)).symm

/-- The events of a range are in strict order of their keys. -/
theorem eventsOf_sorted (prepared : prepareRows batch preparation = .ok rows)
    (range : Int × Int) : ((eventsOf batch range).map orderKey).Pairwise (· < ·) := by
  have sorted := prepareRows_sorted prepared
  rw [prepareRows_ordered prepared, List.map_map] at sorted
  have keys : WorkspaceRow.orderKey ∘ rowOf = orderKey := by
    funext observation
    rw [Function.comp_apply, rowOf]
  rw [keys] at sorted
  exact sorted.sublist (List.filter_sublist.map orderKey)

end

end Chiplog.Calendar
