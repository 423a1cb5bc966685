import Chiplog.Calendar.Agenda
import Chiplog.Calendar.WireRecords
import Chiplog.Data.Sha256

namespace Chiplog.Calendar

open Chiplog.Data
open Chiplog.AgentLoop (DisclosureLabel sortedSet)
open Chiplog.Platform (BrokerReadState)
open Chiplog.EvidenceJournal (SourceReference)

/-! Runs of agenda reads.

A reader follows the cursors of a range while anything else happens to the broker.  What is still
to be listed is what has a key above the last one of the page before. -/

section

variable [Hashlib]

/-- What one read of an agenda brings along. -/
structure Call where
  requestId : Identity
  readAttemptId : Identity
  responseSlotId : Identity
  -- what `secrets` gives, should the page need a cursor
  token : String
  others : Interference

omit [Hashlib] in
/-- The request for a page of a range. -/
def agendaRequest (snapshot : Snapshot) (range : Int × Int) {maxRows : Nat}
    (bounded : 0 < maxRows ∧ maxRows ≤ 1000) (call : Call) (cursor : Option String) :
    WorkspaceReadRequest where
  context := snapshot.context
  query := .calendarAgenda
  requestId := call.requestId
  readAttemptId := call.readAttemptId
  responseSlotId := call.responseSlotId
  maxRows
  afterCursor := cursor
  detailId := none
  rangeStartNs := some range.1
  rangeEndNs := some range.2
  bounded

/-- The binding of every request of a range. -/
def agendaBinding (range : Int × Int) : Bytes :=
  encodeSpaced (.arr [toJson WorkspaceQuery.calendarAgenda, toJson (none : Option String),
    toJson (some range.1), toJson (some range.2)])

/-- The cursor that an outcome hands out. -/
def nextOf : Except CalendarFailure WorkspaceReadResult → Option String
  | .ok result => result.nextCursor
  | .error _ => none

/-- The rows that outcomes hand out. -/
def listing (pages : List (Except CalendarFailure WorkspaceReadResult)) : List WorkspaceRow :=
  pages.flatMap (fun
    | .ok result => result.rows
    | .error _ => [])

/-- A call while the state of the snapshot is current, under names that are new. -/
structure Call.Free (world : World) (snapshot : Snapshot) (range : Int × Int) {maxRows : Nat}
    (bounded : 0 < maxRows ∧ maxRows ≤ 1000) (cursor : Option String) (call : Call) : Prop where
  clear : Clear world snapshot (agendaRequest snapshot range bounded call cursor) call.others
  token : world.broker.cursors.get? call.token = none

section

variable [Wire WorkspaceReadRequest] [Wire WorkspaceReadResult]

/-- The answer to a call. -/
def Call.answer (loads : Bytes → Option Json) (world : World) (snapshot : Snapshot)
    (range : Int × Int) {maxRows : Nat} (bounded : 0 < maxRows ∧ maxRows ≤ 1000)
    (cursor : Option String) (call : Call) : Answer :=
  read loads call.others call.token world.broker world.ledger snapshot.peer
    (agendaRequest snapshot range bounded call cursor)

def Answer.world (answer : Answer) : World := ⟨answer.broker, answer.ledger⟩

end

end

section

variable [Hashlib] [Wire CalendarBatch] [Wire WorkspaceReadRequest] [Wire WorkspaceReadResult]

/-- Reads of a range that follow its cursors, to the end or not. -/
inductive AgendaPages (loads : Bytes → Option Json) (snapshot : Snapshot) (range : Int × Int)
    {maxRows : Nat} (bounded : 0 < maxRows ∧ maxRows ≤ 1000) : World → Option String → Bool →
      List (Except CalendarFailure WorkspaceReadResult) → Prop
  | stopped (world : World) (cursor : Option String) :
      AgendaPages loads snapshot range bounded world cursor false []
  | last {world next : World} {cursor : Option String} {call : Call}
      (steps : Steps loads world next) (free : call.Free next snapshot range bounded cursor)
      (ends : nextOf (call.answer loads next snapshot range bounded cursor).result = none) :
      AgendaPages loads snapshot range bounded world cursor true
        [(call.answer loads next snapshot range bounded cursor).result]
  | more {world next : World} {cursor : Option String} {call : Call} {following : String}
      {complete : Bool} {pages : List (Except CalendarFailure WorkspaceReadResult)}
      (steps : Steps loads world next) (free : call.Free next snapshot range bounded cursor)
      (continued : nextOf (call.answer loads next snapshot range bounded cursor).result =
        some following)
      (rest : AgendaPages loads snapshot range bounded
        (call.answer loads next snapshot range bounded cursor).world (some following) complete
        pages) :
      AgendaPages loads snapshot range bounded world cursor complete
        ((call.answer loads next snapshot range bounded cursor).result :: pages)

/-! ### One page -/

omit [Wire CalendarBatch] [Wire WorkspaceReadRequest] [Wire WorkspaceReadResult]

omit [Hashlib] in
theorem queryBinding_agenda (snapshot : Snapshot) (range : Int × Int) {maxRows : Nat}
    (bounded : 0 < maxRows ∧ maxRows ≤ 1000) (call : Call) (cursor : Option String) :
    queryBinding (agendaRequest snapshot range bounded call cursor) = agendaBinding range := by
  rw [queryBinding, agendaBinding, agendaRequest]

/-- What is still to be listed, behind a cursor. -/
inductive Left (cursors : Dict String (Identity × Bytes × String)) (snapshot : Snapshot)
    (range : Int × Int) (maxRows : Nat) : Option String → List CalendarObservation → Prop
  | start : Left cursors snapshot range maxRows none (eventsOf snapshot.providerBatch range)
  | behind (token : String) (before left : List CalendarObservation) (last : CalendarObservation)
      (pages : Nat)
      (kept : cursors.get? token =
        some (snapshot.context.snapshotId, agendaBinding range, orderKey last))
      (split : eventsOf snapshot.providerBatch range = before ++ last :: left)
      (place : left = (eventsOf snapshot.providerBatch range).drop (pages * maxRows)) :
      Left cursors snapshot range maxRows (some token) left

/-- Every page of a range has no more sources than rows are asked for. -/
def Fits (batch : CalendarBatch) (range : Int × Int) (maxRows : Nat) : Prop :=
  ∀ pages, ((((eventsOf batch range).drop (pages * maxRows)).take maxRows).map
    (fun observation => observation.envelope.sources.items.length)).sum ≤ maxRows

variable {loads : Bytes → Option Json} {world : World} {snapshot : Snapshot}
  {range : Int × Int} {maxRows : Nat} {bounded : 0 < maxRows ∧ maxRows ≤ 1000} {call : Call}
  {cursor : Option String} {left : List CalendarObservation}
  {cursors : Dict String (Identity × Bytes × String)}

omit [Hashlib] in
theorem Left.mono (due : Left world.broker.cursors snapshot range maxRows cursor left)
    {next : World} (kept : Keeps world.broker next.broker) :
    Left next.broker.cursors snapshot range maxRows cursor left := by
  cases due with
  | start => exact .start
  | behind token before left last pages known split place =>
      exact .behind token before left last pages (kept.cursors _ _ known) split place

omit [Hashlib] in
theorem Left.place (due : Left cursors snapshot range maxRows cursor left) :
    ∃ pages, left = (eventsOf snapshot.providerBatch range).drop (pages * maxRows) := by
  cases due with
  | start => exact ⟨0, by rw [Nat.zero_mul, List.drop_zero]⟩
  | behind _ _ _ _ pages _ _ place => exact ⟨pages, place⟩

omit [Hashlib] in
/-- What is left after a page. -/
theorem Left.next (due : Left cursors snapshot range maxRows cursor left) (positive : 0 < maxRows)
    (remain : maxRows < left.length) : ∃ front last, left.take maxRows = front ++ [last] ∧
      ∀ {cursors : Dict String (Identity × Bytes × String)} {token : String},
        cursors.get? token =
          some (snapshot.context.snapshotId, agendaBinding range, orderKey last) →
        Left cursors snapshot range maxRows (some token) (left.drop maxRows) := by
  obtain ⟨pages, place⟩ := due.place
  have nonempty : left.take maxRows ≠ [] := by
    intro empty
    have length := congrArg List.length empty
    rw [List.length_take, List.length_nil] at length
    omega
  refine ⟨(left.take maxRows).dropLast, (left.take maxRows).getLast nonempty,
    (List.dropLast_append_getLast nonempty).symm, ?_⟩
  intro cursors token kept
  refine .behind token ((eventsOf snapshot.providerBatch range).take (pages * maxRows) ++
    (left.take maxRows).dropLast) _ _ (pages + 1) kept ?_ ?_
  · rw [List.append_assoc, List.append_cons, List.dropLast_append_getLast nonempty,
      List.take_append_drop, place, List.take_append_drop]
  · rw [place, List.drop_drop, Nat.succ_mul]

omit [Hashlib] in
theorem orderKey_nonempty (observation : CalendarObservation) : "" < orderKey observation := by
  rw [String.lt_iff_toList_lt, orderKey_toList]
  cases (padded observation.startNs).toList <;> exact List.Lex.nil

/-- A request selects what is left. -/
theorem select_agenda (reads : ReadsFlat loads) (sound : snapshot.Sound) (natural : 0 ≤ range.1)
    (ordered : range.1 < range.2)
    (due : Left world.broker.cursors snapshot range maxRows cursor left) :
    select loads world.broker snapshot (agendaRequest snapshot range bounded call cursor) =
      .ok (left.map rowOf) := by
  have rows := prepareRows_ordered sound.rows
  have valid : ¬ (range.1 < 0 ∨ range.2 ≤ range.1) := by omega
  rw [select, if_neg (by simp [agendaRequest]), queryBinding_agenda, agendaRequest]
  dsimp only
  rw [raiseIf_neg valid, ok_bind, rows]
  cases due with
  | start =>
      dsimp only
      rw [overlapping_rowOf reads]
      simp only [orderKey_nonempty, true_and]
      rfl
  | behind token before left last pages known split place =>
      have sorted := eventsOf_sorted sound.rows range
      have later := filter_after (split ▸ sorted)
      rw [← split, eventsOf, List.filter_filter] at later
      dsimp only
      rw [known]
      dsimp only
      rw [raiseIf_neg (not_not.mpr rfl), ok_bind, overlapping_rowOf reads, ← later]
      simp only [Bool.decide_and]

omit [Hashlib] in
theorem cursorBinding?_whole (token : String) (whole : left.length ≤ maxRows) :
    cursorBinding? token snapshot (agendaRequest snapshot range bounded call cursor)
      (left.map rowOf) = none := by
  rw [cursorBinding?, if_neg]
  rw [List.length_map]
  exact Nat.not_lt.mpr whole

omit [Hashlib] in
theorem cursorBinding?_last (token : String) (remain : maxRows < left.length)
    {front : List CalendarObservation} {last : CalendarObservation}
    (page : left.take maxRows = front ++ [last]) :
    cursorBinding? token snapshot (agendaRequest snapshot range bounded call cursor)
      (left.map rowOf) = some ⟨token, snapshot.context.snapshotId.text, agendaBinding range,
        orderKey last⟩ := by
  have rows : (left.map rowOf).take maxRows = front.map rowOf ++ [rowOf last] := by
    rw [← List.map_take, page, List.map_append, List.map_singleton]
  have more : maxRows < (left.map rowOf).length := by
    rw [List.length_map]
    exact remain
  rw [cursorBinding?, queryBinding_agenda, agendaRequest]
  dsimp only
  rw [if_pos more, rows, List.getLast?_concat, Option.map_some, rowOf]

/-- The page that an agenda read hands out. -/
structure PageOf (snapshot : Snapshot) (range : Int × Int) (maxRows : Nat) (token : String)
    (left : List CalendarObservation) (answer : Answer) : Prop where
  listed : ∃ result, answer.result = .ok result ∧
    (result.disposition = .current ∨ result.disposition = .lagging) ∧
    result.rows = (left.take maxRows).map rowOf
  next : (left.length ≤ maxRows ∧ nextOf answer.result = none) ∨
    (maxRows < left.length ∧ nextOf answer.result = some token ∧
      Left answer.broker.cursors snapshot range maxRows (some token) (left.drop maxRows))

theorem Call.Free.page [Wire WorkspaceReadRequest] [Wire WorkspaceReadResult]
    (free : call.Free world snapshot range bounded cursor) (reads : ReadsFlat loads)
    (sound : snapshot.Sound) (owned : Owned world.broker snapshot)
    (held : world.broker.snapshots.get? snapshot.context.snapshotId = some snapshot)
    (freshness : snapshot.freshness ≠ .unknown) (natural : 0 ≤ range.1)
    (ordered : range.1 < range.2) (fits : Fits snapshot.providerBatch range maxRows)
    (due : Left world.broker.cursors snapshot range maxRows cursor left) :
    PageOf snapshot range maxRows call.token left
      (call.answer loads world snapshot range bounded cursor) := by
  have chosen : select loads world.broker snapshot
      (agendaRequest snapshot range bounded call cursor) = _ :=
    select_agenda reads sound natural ordered due
  obtain ⟨pages, place⟩ := due.place
  have few : (((left.map rowOf).take maxRows).map
      (fun row => row.envelope.sources.items.length)).sum ≤ maxRows := by
    rw [← List.map_take, List.map_map, place]
    exact fits pages
  obtain ⟨disposition, known, fine⟩ : ∃ disposition,
      snapshot.freshness.disposition? = some disposition ∧
        (disposition = .current ∨ disposition = .lagging) := by
    cases state : snapshot.freshness with
    | current => exact ⟨.current, rfl, .inl rfl⟩
    | lagging => exact ⟨.lagging, rfl, .inr rfl⟩
    | unknown => exact absurd state freshness
  generalize bindingIs : cursorBinding? call.token snapshot
    (agendaRequest snapshot range bounded call cursor) (left.map rowOf) = binding
  have paged : pageResult (agendaRequest snapshot range bounded call cursor) snapshot.freshness
      ((left.map rowOf).take maxRows) (binding.map CalendarCursorBinding.token) =
        .ok (resultOf (agendaRequest snapshot range bounded call cursor) disposition
          ((left.map rowOf).take maxRows) (binding.map CalendarCursorBinding.token) none) := by
    rw [pageResult, if_pos (.inr rfl), known]
  have variant : variantOf? (agendaRequest snapshot range bounded call cursor).query =
      some .agenda := rfl
  obtain ⟨answered, after, _⟩ := read_released sound owned held rfl variant freshness free.clear
    chosen few (by rw [bindingIs]; exact paged)
  rw [Call.answer]
  refine ⟨⟨_, answered, fine, ?_⟩, ?_⟩
  · rw [resultOf]
    exact List.map_take.symm
  rw [answered, after, bindingIs]
  rcases Nat.lt_or_ge maxRows left.length with remain | whole
  · obtain ⟨front, last, page, later⟩ := due.next bounded.1 remain
    rw [cursorBinding?_last call.token remain page] at bindingIs
    cases bindingIs
    refine .inr ⟨remain, rfl, later ?_⟩
    rw [CalendarReadBroker.keepCursor, Dict.get?_set, if_pos rfl]
  · rw [cursorBinding?_whole call.token whole] at bindingIs
    cases bindingIs
    exact .inl ⟨whole, rfl⟩

/-! ### Runs -/

/-- What the pages of a range list. -/
structure Lists (left : List CalendarObservation) (complete : Bool)
    (pages : List (Except CalendarFailure WorkspaceReadResult)) : Prop where
  answered : ∀ page ∈ pages, ∃ result, page = .ok result ∧
    (result.disposition = .current ∨ result.disposition = .lagging)
  few : pages.length ≤ left.length + 1
  listed : listing pages <+: left.map rowOf
  whole : complete = true → listing pages = left.map rowOf

omit [Hashlib] in
theorem PageOf.lists {token : String} {answer : Answer}
    (page : PageOf snapshot range maxRows token left answer) :
    (∃ result, answer.result = .ok result ∧
      (result.disposition = .current ∨ result.disposition = .lagging)) ∧
    listing [answer.result] = (left.take maxRows).map rowOf := by
  obtain ⟨result, answered, fine, rows⟩ := page.listed
  refine ⟨⟨result, answered, fine⟩, ?_⟩
  rw [listing, answered, List.flatMap_cons, List.flatMap_nil, List.append_nil]
  exact rows

omit [Hashlib] in
theorem Lists.single {token : String} {answer : Answer}
    (page : PageOf snapshot range maxRows token left answer) (ends : nextOf answer.result = none) :
    Lists left true [answer.result] := by
  obtain ⟨answered, listed⟩ := page.lists
  have few : left.length ≤ maxRows := by
    rcases page.next with ⟨few, _⟩ | ⟨_, goes, _⟩
    · exact few
    · cases ends.symm.trans goes
  rw [List.take_of_length_le few] at listed
  refine ⟨?_, Nat.le_add_left _ _, ?_, fun _ => listed⟩
  · intro other member
    rw [List.mem_singleton.mp member]
    exact answered
  · rewrite [listed]
    exact List.prefix_rfl

omit [Hashlib] in
theorem Lists.cons {token : String} {answer : Answer} {complete : Bool}
    {pages : List (Except CalendarFailure WorkspaceReadResult)} (positive : 0 < maxRows)
    (page : PageOf snapshot range maxRows token left answer) (remain : maxRows < left.length)
    (rest : Lists (left.drop maxRows) complete pages) :
    Lists left complete (answer.result :: pages) := by
  obtain ⟨answered, listed⟩ := page.lists
  have split : left.map rowOf = (left.take maxRows).map rowOf ++ (left.drop maxRows).map rowOf := by
    rw [← List.map_append, List.take_append_drop]
  have lists : listing (answer.result :: pages) =
      (left.take maxRows).map rowOf ++ listing pages := by
    rw [← listed, listing, List.flatMap_cons, listing, listing, List.flatMap_cons,
      List.flatMap_nil, List.append_nil]
  refine ⟨?_, ?_, ?_, ?_⟩
  · intro other member
    rcases List.mem_cons.mp member with rfl | later
    · exact answered
    · exact rest.answered other later
  · have few := rest.few
    rw [List.length_drop] at few
    rw [List.length_cons]
    omega
  · rw [lists, split, List.prefix_append_right_inj]
    exact rest.listed
  · intro complete
    rw [lists, rest.whole complete, split]

/-- A range that a snapshot is read over: its pages fit, and the events are known to be fresh. -/
structure Readable (snapshot : Snapshot) (range : Int × Int) (maxRows : Nat) : Prop where
  freshness : snapshot.freshness ≠ .unknown
  natural : 0 ≤ range.1
  ordered : range.1 < range.2
  fits : Fits snapshot.providerBatch range maxRows

variable [Wire CalendarBatch] [Wire WorkspaceReadRequest] [Wire WorkspaceReadResult]

theorem AgendaPages.lists {complete : Bool}
    {pages : List (Except CalendarFailure WorkspaceReadResult)}
    (paged : AgendaPages loads snapshot range bounded world cursor complete pages)
    (reads : ReadsFlat loads) (sound : snapshot.Sound) (owned : Owned world.broker snapshot)
    (held : world.broker.snapshots.get? snapshot.context.snapshotId = some snapshot)
    (readable : Readable snapshot range maxRows)
    (due : Left world.broker.cursors snapshot range maxRows cursor left) :
    Lists left complete pages := by
  induction paged generalizing left with
  | stopped world cursor =>
      exact ⟨fun _ impossible => (by cases impossible), Nat.zero_le _, List.nil_prefix,
        fun impossible => (by cases impossible)⟩
  | @last world next cursor call steps free ends =>
      have kept := steps.keeps
      have page := free.page reads sound (owned.mono kept) (kept.snapshots _ _ held)
        readable.freshness readable.natural readable.ordered readable.fits (due.mono kept)
      exact .single page ends
  | @more world next cursor call following complete pages steps free continued rest ih =>
      have kept := steps.keeps
      have page := free.page reads sound (owned.mono kept) (kept.snapshots _ _ held)
        readable.freshness readable.natural readable.ordered readable.fits (due.mono kept)
      have read : Step loads next
          (call.answer loads next snapshot range bounded cursor).world :=
        .read next call.others call.token snapshot.peer
          (agendaRequest snapshot range bounded call cursor) free.token
      have after := kept.trans read.keeps
      rcases page.next with ⟨_, ends⟩ | ⟨remain, goes, later⟩
      · cases ends.symm.trans continued
      · cases goes.symm.trans continued
        exact .cons bounded.1 page remain
          (ih (owned.mono after) (after.snapshots _ _ held) later)

/-- Agenda reads of consecutive ranges lose no event. -/
theorem agenda_complete (reads : ReadsFlat loads) {ledger : CalendarReadLedger}
    (steps : Steps loads (World.initial ledger) world) {id : Identity}
    (held : world.broker.snapshots.get? id = some snapshot)
    (freshness : snapshot.freshness ≠ .unknown) {first : Int} {rest : List Int}
    (natural : 0 ≤ first) (increasing : (first :: rest).Pairwise (· < ·))
    (fits : ∀ range ∈ consecutive first rest, Fits snapshot.providerBatch range maxRows) :
    (∀ range ∈ consecutive first rest, ∃ events : List CalendarObservation,
      (events.map orderKey).Pairwise (· < ·) ∧
      (∀ observation, observation ∈ events ↔ observation ∈ snapshot.providerBatch.observations ∧
        (observation.startNs : Int) < range.2 ∧ range.1 < (observation.endNs : Int)) ∧
      ∀ later complete pages, Steps loads world later →
        AgendaPages loads snapshot range bounded later none complete pages →
        Lists events complete pages) ∧
    ∀ observation ∈ snapshot.providerBatch.observations, first ≤ (observation.startNs : Int) →
      (∃ last ∈ rest, (observation.startNs : Int) < last) →
      (observation.startNs < observation.endNs ∨ (observation.startNs : Int) ∉ first :: rest) →
      ∃ range ∈ consecutive first rest, ∀ later pages, Steps loads world later →
        AgendaPages loads snapshot range bounded later none true pages →
        rowOf observation ∈ listing pages := by
  obtain ⟨sound, owned, named⟩ := (steps.sound (World.initial_sound ledger)).snapshots id _ held
  rw [← named] at held
  have lists {range : Int × Int} (member : range ∈ consecutive first rest) {later : World}
      {complete : Bool} {pages : List (Except CalendarFailure WorkspaceReadResult)}
      (more : Steps loads world later)
      (paged : AgendaPages loads snapshot range bounded later none complete pages) :
      Lists (eventsOf snapshot.providerBatch range) complete pages := by
    obtain ⟨above, ordered⟩ := consecutive_ordered increasing member
    have kept := more.keeps
    exact paged.lists reads sound (owned.mono kept) (kept.snapshots _ _ held)
      ⟨freshness, natural.trans above, ordered, fits range member⟩ .start
  constructor
  · intro range member
    exact ⟨eventsOf snapshot.providerBatch range, eventsOf_sorted sound.rows range,
      fun observation => mem_eventsOf, fun _ _ _ more paged => lists member more paged⟩
  · intro observation among above below nonempty
    obtain ⟨last, later, less⟩ := below
    obtain ⟨range, member, after, before⟩ := mem_consecutive above later less
    refine ⟨range, member, ?_⟩
    intro later pages more paged
    have interval := (prepareRows_prepared sound.rows).1.ordered observation among
    have stop : range.1 < (observation.endNs : Int) := by
      rcases nonempty with longer | off
      · omega
      · have differs : range.1 ≠ (observation.startNs : Int) := by
          intro same
          exact off (same ▸ consecutive_bounds member)
        omega
    rw [(lists member more paged).whole rfl]
    exact List.mem_map_of_mem (mem_eventsOf.mpr ⟨among, before, stop⟩)

end

section

variable [Hashlib]

/-! ### A calendar of two events -/

def openLabel : DisclosureLabel := ⟨.unrestricted, []⟩

def harbour : Identity := ⟨"harbour", written _ trivial⟩

/-- A source of an event. -/
def eventSource (owner recordId digest : Identity) : SourceReference :=
  ⟨harbour, owner, recordId, ⟨"1", written _ trivial⟩, digest, ⟨"label", written _ trivial⟩,
    openLabel⟩

/-- An event before its content is known. -/
def plainEvent (eventId : Identity) (startNs endNs : Nat) : CalendarObservation where
  providerId := ⟨"tide", written _ trivial⟩
  calendarId := ⟨"quay", written _ trivial⟩
  eventId
  version := ⟨"1", written _ trivial⟩
  title := "mooring"
  startNs
  endNs
  observedAtNs := 3
  freshness := .current
  envelope := ⟨harbour, harbour, ⟨[eventSource harbour harbour harbour], by simp⟩, openLabel,
    harbour, harbour, harbour⟩

/-- An event with its content and with what else it was taken from. -/
def event (eventId : Identity) (startNs endNs : Nat) (others : List Identity) :
    CalendarObservation :=
  let plain := plainEvent eventId startNs endNs
  let digest := (sha256 (observationPayload plain)).identity
  { plain with
    envelope := {
      tenantId := harbour
      contentDigest := digest
      sources := ⟨others.map (fun owner => eventSource owner harbour digest) ++
        [eventSource ⟨"calendar_observations", written _ trivial⟩
          ⟨observationId plain, observationId_ne_empty plain⟩ digest], by simp⟩
      label := openLabel
      policyHead := harbour
      contourHead := harbour
      deletionFenceHead := harbour } }

theorem event_payload (eventId : Identity) (startNs endNs : Nat) (others : List Identity) :
    observationPayload (event eventId startNs endNs others) =
      observationPayload (plainEvent eventId startNs endNs) := by
  rw [observationPayload, observationPayload, payloadFields, payloadFields, event]

omit [Hashlib] in
theorem restrict_open (count : Nat) :
    (List.replicate count openLabel).foldlM restrict none = .ok none := by
  induction count with
  | zero => rfl
  | succ count ih =>
      have first : restrict none openLabel = .ok none := by
        simp [restrict, openLabel, AgentLoop.sortedSet, raiseIf, Except.bind, bind]
      rw [List.replicate_succ, List.foldlM_cons, first, ok_bind]
      exact ih

/-- A place that takes every event of the harbour. -/
def berth : Preparation := ⟨"harbour", "harbour", "harbour", "harbour", "slip"⟩

theorem event_checked (eventId : Identity) (startNs endNs : Nat) {others : List Identity}
    (ordered : (others.map Identity.text ++ ["calendar_observations"]).Pairwise (· < ·)) :
    checkObservation berth (event eventId startNs endNs others) = .ok () := by
  have context : ¬ ((event eventId startNs endNs others).envelope.tenantId.text ≠ berth.tenant ∨
      (event eventId startNs endNs others).envelope.policyHead.text ≠ berth.policy ∨
      (event eventId startNs endNs others).envelope.contourHead.text ≠ berth.contour ∨
      (event eventId startNs endNs others).envelope.deletionFenceHead.text ≠ berth.fence ∨
      (event eventId startNs endNs others).envelope.contentDigest.text ≠
        (sha256 (observationPayload (plainEvent eventId startNs endNs))).text) := by
    simp [event, berth, harbour, Digest.identity]
  generalize sourcesOf : (event eventId startNs endNs others).envelope.sources.items = sources
  have place : (eventSource ⟨"calendar_observations", by decide⟩
      ⟨observationId (plainEvent eventId startNs endNs), observationId_ne_empty _⟩
      (sha256 (observationPayload (plainEvent eventId startNs endNs))).identity) ∈ sources := by
    rw [← sourcesOf, event]
    exact List.mem_append_right _ (List.mem_singleton.mpr rfl)
  have members : ∀ source ∈ sources, source.tenantId = harbour ∧ source.label = openLabel := by
    intro source member
    rw [← sourcesOf, event] at member
    rcases List.mem_append.mp member with other | own
    · obtain ⟨owner, _, rfl⟩ := List.mem_map.mp other
      exact ⟨rfl, rfl⟩
    · rw [List.mem_singleton.mp own]
      exact ⟨rfl, rfl⟩
  have sorted : (sources.map sourceId).Pairwise (· < ·) := by
    have owners : sources.map (fun source => source.owner.text) =
        others.map Identity.text ++ ["calendar_observations"] := by
      rw [← sourcesOf, event]
      simp [eventSource]
    rw [← owners, List.pairwise_map] at ordered
    exact List.pairwise_map.mpr (ordered.imp (fun less => Prod.Lex.toLex_lt_toLex.mpr (.inl less)))
  rw [checkObservation, event_payload]
  dsimp only
  have provenance : ¬ (sources.map sourceId ≠ sortedIds (sources.map sourceId) ∨
      ∃ source ∈ sources, source.tenantId.text ≠ berth.tenant) := by
    rintro (differs | ⟨source, member, foreign⟩)
    · exact differs (sortedIds_sorted sorted)
    · rw [(members source member).1] at foreign
      exact foreign rfl
  have exact : ¬ ¬ ∃ source ∈ sources, source.owner.text = "calendar_observations" ∧
      source.recordId.text = observationId (event eventId startNs endNs others) ∧
      source.recordVersion = (event eventId startNs endNs others).version ∧
      source.contentDigest = (event eventId startNs endNs others).envelope.contentDigest :=
    not_not.mpr ⟨_, place, rfl, rfl, rfl, rfl⟩
  have labels : sources.map SourceReference.label = List.replicate sources.length openLabel :=
    List.map_eq_replicate_iff.mpr (fun source member => (members source member).2)
  rw [raiseIf_neg context, ok_bind, sourcesOf, raiseIf_neg provenance, ok_bind,
    raiseIf_neg exact, ok_bind, labels, restrict_open, ok_bind]
  exact raiseIf_neg (by simp [event, openLabel])

/-- A mooring that an archive knows too, and a moment without duration. -/
def mooring : CalendarObservation :=
  event ⟨"a", written _ trivial⟩ 1 2 [⟨"archive", written _ trivial⟩]

def moment : CalendarObservation := event ⟨"b", written _ trivial⟩ 5 5 []

theorem mooring_interval : mooring.startNs = 1 ∧ mooring.endNs = 2 := ⟨rfl, rfl⟩

theorem moment_interval : moment.startNs = 5 ∧ moment.endNs = 5 := ⟨rfl, rfl⟩

def moorings : CalendarBatch := ⟨harbour, [mooring, moment]⟩

theorem prepareRows_moorings :
    prepareRows moorings berth = .ok ((ordered moorings).map rowOf) := by
  have first : prepareRow berth [] mooring = .ok [rowOf mooring] := by
    have checked : checkObservation berth mooring = .ok () :=
      event_checked _ _ _ (List.pairwise_pair.mpr (by decide))
    have fresh : ¬ (observationId mooring ∈ ([] : List WorkspaceRow).map WorkspaceRow.rowId ∨
        mooring.endNs < mooring.startNs) := by
      simp [mooring, event, plainEvent]
    rw [prepareRow, raiseIf_neg fresh, ok_bind, checked, ok_bind, List.nil_append]
  have second : prepareRow berth [rowOf mooring] moment = .ok [rowOf mooring, rowOf moment] := by
    have checked : checkObservation berth moment = .ok () :=
      event_checked _ _ _ (List.pairwise_singleton _ _)
    have fresh : ¬ (observationId moment ∈ [rowOf mooring].map WorkspaceRow.rowId ∨
        moment.endNs < moment.startNs) := by
      rintro (seen | late)
      · have same := observationId_inj (List.mem_singleton.mp seen)
        exact absurd same (by simp [mooring, moment, event, plainEvent])
      · exact absurd late (by simp [moment, event, plainEvent])
    rw [prepareRow, raiseIf_neg fresh, ok_bind, checked, ok_bind]
    rfl
  have looped : moorings.observations.foldlM (prepareRow berth) [] =
      .ok (moorings.observations.map rowOf) := by
    change [mooring, moment].foldlM (prepareRow berth) [] = _
    rw [List.foldlM_cons, first, ok_bind, List.foldlM_cons, second, ok_bind]
    rfl
  rw [prepareRows, looped, ok_bind, ordered]
  exact congrArg Except.ok
    (List.map_insertionSort _ _ rowOf _ (fun _ _ _ _ => Iff.rfl)).symm

/-- The heads that the moorings are read under. -/
def berthState : CalendarReadState where
  tenantId := "harbour"
  brokerEpoch := 1
  credentialSessionHead := "credential"
  endpointChannelHead := "endpoint"
  fileWalObservation := "wal"
  journalHead := "journal"
  materializationCommitment := "commitment"
  ownerGeneration := "generation"
  ownerDraining := false
  principalContourHead := "harbour"
  storageMutationGeneration := 0
  trustTransitionHead := "trust"
  authoritySurfaceDigest := "surface"
  amrFingerprint := "amr"
  databaseInstanceId := "database"
  principalId := "keeper"
  channelId := "slip"
  policyHead := "harbour"
  deletionFenceHead := "harbour"
  providerRevision := "harbour"
  sourceHeadsDigest := sourceHeadsDigest moorings

def berthLedger : CalendarReadLedger where
  physicalIdentity := ("reads.sqlite3", 1, 1)
  states := Dict.empty.set "harbour" ⟨berthState, berthState.fingerprint⟩
  releases := .empty

def berthTokens : Tokens := ⟨harbour, harbour, ⟨[0], zeroByte_ne_nil⟩⟩

def berthContext : WorkspaceReadContext where
  tenantId := harbour
  databaseInstanceId := ⟨"database", written _ trivial⟩
  principalId := ⟨"keeper", written _ trivial⟩
  principalContourHead := harbour
  channelId := ⟨"slip", written _ trivial⟩
  endpointBindingHead := ⟨"endpoint", written _ trivial⟩
  brokerEpoch := ⟨1, Nat.one_pos⟩
  ownerId := ⟨"calendar_observations", written _ trivial⟩
  generationId := ⟨"generation", written _ trivial⟩
  sessionId := harbour
  snapshotId := harbour
  snapshotFrontier := 0
  verifiedSnapshotBytes := ⟨[0], zeroByte_ne_nil⟩
  invalidatorRegistryDigest := calendarRegistryDigest.identity
  policyHead := harbour
  deletionFenceHead := harbour
  observedAtNs := 4

theorem contextOf_berth :
    contextOf berthTokens "harbour" "keeper" "slip" berthState 4 = .ok berthContext := by
  rw [contextOf]
  simp [berthState, identity?, positive?, natural?, berthContext, berthTokens, harbour, bind,
    Except.bind]

/-- The snapshot that the keeper acquires. -/
def berthSnapshot : Snapshot :=
  ⟨berthContext, berthState, 0, moorings, (ordered moorings).map rowOf, .current⟩

/-- A broker that has issued it. -/
def berthWorld : World :=
  ⟨⟨berthLedger.physicalIdentity, Dict.empty.set 0 ("harbour", "keeper", "slip"),
    Dict.empty.set harbour berthSnapshot, .empty, .empty, []⟩, berthLedger⟩

theorem currentState_berth : berthLedger.currentState "harbour" = .ok berthState := by
  have valid : ¬ ¬ berthState.Valid := by
    simp [BrokerReadState.Valid, berthState]
  have own : ¬ (berthState.fingerprint ≠ berthState.fingerprint ∨
      berthState.tenantId ≠ "harbour") := by
    simp [berthState]
  have row : berthLedger.states.get? "harbour" = some ⟨berthState, berthState.fingerprint⟩ := by
    rw [berthLedger, Dict.get?_set, if_pos rfl]
  rw [CalendarReadLedger.currentState, row]
  dsimp only
  rw [raiseIf_neg valid, ok_bind, raiseIf_neg own, ok_bind]

theorem acquire_berth [Wire CalendarBatch] :
    acquire { berthWorld.broker with snapshots := .empty } 0 berthTokens 4 berthLedger berthLedger
      moorings = .ok (berthContext, berthWorld.broker) := by
  have peer : ({ berthWorld.broker with snapshots := .empty } : CalendarReadBroker).peers.get? 0 =
      some ("harbour", "keeper", "slip") := by
    rw [berthWorld, Dict.get?_set, if_pos rfl]
  rw [acquire, peer]
  dsimp only
  rw [currentState_berth, ok_bind, raiseIf_neg (by simp [berthState, berthWorld]), ok_bind,
    Wire.validate_dump]
  dsimp only
  have rows : rowsOf moorings (preparationOf "harbour" "slip" berthState) =
      .ok ((ordered moorings).map rowOf) := by
    have place : preparationOf "harbour" "slip" berthState = berth := rfl
    rw [rowsOf, place, prepareRows_moorings]
    rfl
  rw [raiseIf_neg (by simp [berthState, moorings, harbour]), ok_bind, rows, ok_bind,
    raiseIf_neg (by simp [moorings, mooring, moment, event, plainEvent]), ok_bind,
    ok_bind, raiseIf_neg (not_not.mpr rfl), ok_bind, contextOf_berth, ok_bind]
  rfl

/-- Nobody else is at the ledger. -/
def alone : Interference := ⟨id, id, id, id⟩

def berthCall : Call := ⟨harbour, harbour, harbour, "cursor", alone⟩

theorem alone_quiet (tenant : String) (key : String × String) : alone.Quiet tenant key := by
  have still : Undisturbed tenant key id := ⟨fun _ => rfl, fun _ => rfl, fun _ => rfl⟩
  exact ⟨still, still, still, still⟩

theorem berthCall_free (range : Int × Int) {maxRows : Nat}
    (bounded : 0 < maxRows ∧ maxRows ≤ 1000) :
    berthCall.Free berthWorld berthSnapshot range bounded none where
  clear := ⟨rfl, currentState_berth, List.not_mem_nil, rfl, alone_quiet _ _⟩
  token := rfl

/-- The events of the harbour in some order. -/
theorem ordered_moorings : (ordered moorings).Perm [mooring, moment] :=
  List.perm_insertionSort _ _

theorem mem_moorings {observation : CalendarObservation}
    (member : observation ∈ moorings.observations) :
    observation = mooring ∨ observation = moment := by
  rw [moorings] at member
  exact (List.mem_cons.mp member).imp_right List.mem_singleton.mp

theorem sources_moorings : ((ordered moorings).map
    (fun observation => observation.envelope.sources.items.length)).sum = 3 := by
  rw [(ordered_moorings.map _).sum_eq]
  rfl

theorem fits_moorings (range : Int × Int) : Fits moorings range 3 := by
  intro pages
  have parts : (((eventsOf moorings range).drop (pages * 3)).take 3).Sublist (ordered moorings) :=
    (List.take_sublist _ _).trans ((List.drop_sublist _ _).trans List.filter_sublist)
  have few := (parts.map (fun observation => observation.envelope.sources.items.length)).sum_le_sum
    (fun _ _ => Nat.zero_le _)
  rw [sources_moorings] at few
  exact few

/-- The sources do not fit a page of two rows. -/
theorem moorings_crowded : 2 < (((eventsOf moorings (0, 10)).take 2).map
    (fun observation => observation.envelope.sources.items.length)).sum := by
  have all : eventsOf moorings (0, 10) = ordered moorings := by
    apply List.filter_eq_self.mpr
    intro observation member
    apply decide_eq_true
    rcases mem_moorings (mem_ordered.mp member) with rfl | rfl
    · rw [mooring_interval.1, mooring_interval.2]
      decide
    · rw [moment_interval.1, moment_interval.2]
      decide
  have two : (ordered moorings).length ≤ 2 := ordered_moorings.length_eq.le
  rw [all, List.take_of_length_le two, sources_moorings]
  decide

/-- An event without duration is in neither of the ranges that meet there. -/
theorem moment_lost {range : Int × Int} (member : range ∈ consecutive (0 : Int) [5, 10]) :
    rowOf moment ∉ (eventsOf moorings range).map rowOf := by
  have outside : moment ∉ eventsOf moorings range := by
    intro inside
    obtain ⟨_, starts, stops⟩ := mem_eventsOf.mp inside
    rw [moment_interval.1] at starts
    rw [moment_interval.2] at stops
    simp only [consecutive, List.zip_cons_cons, List.zip_nil_right, List.mem_cons,
      List.not_mem_nil, or_false] at member
    rcases member with rfl | rfl
    · exact absurd starts (by decide)
    · exact absurd stops (by decide)
  intro listed
  obtain ⟨observation, inside, same⟩ := List.mem_map.mp listed
  have ids := congrArg WorkspaceRow.rowId same
  rw [rowOf_rowId, rowOf_rowId] at ids
  have names := observationId_inj ids
  rcases mem_moorings (mem_eventsOf.mp inside).1 with rfl | rfl
  · exact absurd names (by simp [mooring, moment, event, plainEvent])
  · exact outside inside

omit [Hashlib] in
theorem berthRows : 0 < 3 ∧ 3 ≤ 1000 := by decide

omit [Hashlib] in
theorem twoRows : 0 < 2 ∧ 2 ≤ 1000 := by decide

variable [Wire CalendarBatch] [Wire WorkspaceReadRequest] [Wire WorkspaceReadResult]

theorem berth_steps (loads : Bytes → Option Json) :
    Steps loads (World.initial berthLedger) berthWorld := by
  have authenticated : Step loads (World.initial berthLedger)
      ⟨{ berthWorld.broker with snapshots := .empty }, berthLedger⟩ :=
    .authenticate (World.initial berthLedger) 0 "harbour" "keeper" "slip" rfl
  have acquired : Step loads ⟨{ berthWorld.broker with snapshots := .empty }, berthLedger⟩
      berthWorld :=
    .acquire _ 0 berthTokens 4 berthLedger moorings berthContext berthWorld.broker rfl acquire_berth
  exact (Relation.ReflTransGen.single authenticated).tail acquired

theorem berthSnapshot_sound (loads : Bytes → Option Json) :
    berthSnapshot.Sound ∧ Owned berthWorld.broker berthSnapshot ∧
      berthWorld.broker.snapshots.get? harbour = some berthSnapshot := by
  have held : berthWorld.broker.snapshots.get? harbour = some berthSnapshot := by
    rw [berthWorld, Dict.get?_set, if_pos rfl]
  obtain ⟨sound, owned, _⟩ :=
    ((berth_steps loads).sound (World.initial_sound berthLedger)).snapshots _ _ held
  exact ⟨sound, owned, held⟩

/-- A page of three rows is the whole of a range. -/
theorem berth_pages {loads : Bytes → Option Json} (reads : ReadsFlat loads) {range : Int × Int}
    (natural : 0 ≤ range.1) (less : range.1 < range.2) :
    ∃ pages, AgendaPages loads berthSnapshot range berthRows berthWorld none true pages ∧
      listing pages = (eventsOf moorings range).map rowOf := by
  obtain ⟨sound, owned, held⟩ := berthSnapshot_sound loads
  have free := berthCall_free range berthRows
  have known : berthSnapshot.freshness ≠ .unknown := nofun
  have page := free.page reads sound owned held known natural less (fits_moorings range) .start
  have few : (eventsOf moorings range).length ≤ 3 := by
    have two : (ordered moorings).length = 2 := ordered_moorings.length_eq
    have part : (eventsOf moorings range).length ≤ (ordered moorings).length :=
      List.length_filter_le _ _
    omega
  have ends : nextOf (berthCall.answer loads berthWorld berthSnapshot range berthRows none).result =
      none := by
    rcases page.next with ⟨_, ends⟩ | ⟨more, _⟩
    · exact ends
    · exact absurd more (Nat.not_lt.mpr few)
  exact ⟨_, .last .refl free ends, (Lists.single page ends).whole rfl⟩

end

theorem agenda_complete_harbour :
    let _ := Sha256.hashlib
    let _ := dumpedText CalendarBatch
    let _ := dumpedText WorkspaceReadRequest
    let _ := dumpedText WorkspaceReadResult
    ∃ range ∈ consecutive (0 : Int) [5, 10], ∀ later pages, Steps flatLoads berthWorld later →
      AgendaPages flatLoads berthSnapshot range berthRows later none true pages →
      rowOf mooring ∈ listing pages := by
  intro _ _ _ _
  have known : berthSnapshot.freshness ≠ .unknown := nofun
  refine (agenda_complete flatLoads_reads (berth_steps flatLoads)
    (berthSnapshot_sound flatLoads).2.2 known (by decide) (by decide)
    (fun range _ => fits_moorings range)).2 mooring List.mem_cons_self ?_ ?_ ?_
  · rw [mooring_interval.1]
    decide
  · refine ⟨5, List.mem_cons_self, ?_⟩
    rw [mooring_interval.1]
    decide
  · left
    rw [mooring_interval.1, mooring_interval.2]
    decide

/-- What agenda reads of the harbour lose. -/
theorem agenda_loses :
    let _ := Sha256.hashlib
    let _ := dumpedText CalendarBatch
    let _ := dumpedText WorkspaceReadRequest
    let _ := dumpedText WorkspaceReadResult
    (Steps flatLoads (World.initial berthLedger) berthWorld ∧
      berthWorld.broker.snapshots.get? harbour = some berthSnapshot ∧
      berthSnapshot.freshness ≠ .unknown ∧
      ∀ row ∈ berthSnapshot.rows, row.envelope.sources.items.length ≤ 2) ∧
    (berthCall.Free berthWorld berthSnapshot (0, 10) twoRows none ∧
      (berthCall.answer flatLoads berthWorld berthSnapshot (0, 10) twoRows none).result =
        .ok (refused (agendaRequest berthSnapshot (0, 10) twoRows berthCall none)
          .staleOrIndeterminateRead "complete source closure cannot fit requested bound")) ∧
    (moment ∈ berthSnapshot.providerBatch.observations ∧ 0 ≤ moment.startNs ∧
      moment.startNs < 10 ∧
      ∀ range ∈ consecutive (0 : Int) [5, 10], ∃ pages,
        AgendaPages flatLoads berthSnapshot range berthRows berthWorld none true pages ∧
          rowOf moment ∉ listing pages) ∧
    berthCall.Free berthWorld berthSnapshot (-1, 10) berthRows none ∧
      (berthCall.answer flatLoads berthWorld berthSnapshot (-1, 10) berthRows none).result =
        .ok (refused (agendaRequest berthSnapshot (-1, 10) berthRows berthCall none)
          .staleOrIndeterminateRead "agenda requires an ordered nonempty range") := by
  intro _ _ _ _
  obtain ⟨sound, owned, held⟩ := berthSnapshot_sound flatLoads
  have known : berthSnapshot.freshness ≠ .unknown := nofun
  refine ⟨⟨berth_steps flatLoads, held, known, ?_⟩, ⟨berthCall_free _ _, ?_⟩,
    ⟨List.mem_cons_of_mem _ List.mem_cons_self, Nat.zero_le _, ?_, ?_⟩, berthCall_free _ _, ?_⟩
  · intro row member
    have rows : berthSnapshot.rows = (ordered moorings).map rowOf := by
      rw [berthSnapshot]
    rw [rows] at member
    obtain ⟨observation, inside, same⟩ := List.mem_map.mp member
    rw [← same, rowOf]
    rcases mem_moorings (mem_ordered.mp inside) with rfl | rfl
    · exact Nat.le_refl 2
    · exact Nat.le_succ 1
  · have chosen : select flatLoads berthWorld.broker berthSnapshot
        (agendaRequest berthSnapshot (0, 10) twoRows berthCall none) = _ :=
      select_agenda flatLoads_reads sound (by decide) (by decide) .start
    refine read_crowded sound owned held rfl rfl known (berthCall_free _ _).clear chosen ?_
    rw [← List.map_take, List.map_map]
    exact moorings_crowded
  · rw [moment_interval.1]
    decide
  · intro range member
    obtain ⟨above, less⟩ := consecutive_ordered (by decide) member
    obtain ⟨pages, paged, lists⟩ := berth_pages flatLoads_reads above less
    have lost := moment_lost member
    rw [← lists] at lost
    exact ⟨pages, paged, lost⟩
  · refine read_unselected sound owned held rfl rfl known (berthCall_free _ _).clear ?_
    rw [select, if_neg (by simp [agendaRequest]), agendaRequest]
    dsimp only
    rw [raiseIf, if_pos (by decide)]
    rfl

end Chiplog.Calendar
