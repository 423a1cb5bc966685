import Chiplog.Composition.HistoryReading
import Chiplog.Composition.NativeLog
import Chiplog.Data.JsonAscii
import Chiplog.Data.Paging
import Mathlib.Logic.Relation

namespace Chiplog.Composition

open Chiplog.Data Chiplog.Platform Chiplog.AgentLoop

/-! Following the cursors of the conversation while the log grows. -/

/-- One batch at the head. -/
def Appended {β : Type} (before after : Snapshot β) : Prop :=
  ∃ operation key fingerprint records,
    before.append operation key fingerprint records before.head = .ok after

/-- Appends keep a log valid and what it holds in place. -/
theorem appended_valid {β : Type} {before after : Snapshot β}
    (appended : Relation.ReflTransGen Appended before after) (valid : before.Valid) :
    after.Valid ∧ before.Extends after := by
  induction appended with
  | refl => exact ⟨valid, .refl _⟩
  | tail _ step ih =>
      obtain ⟨_, _, _, _, step⟩ := step
      exact ⟨Snapshot.append_valid ih.1 step, ih.2.trans (Snapshot.append_extends step)⟩

section

variable {β : Type} [Content β] [ExecutionStores β] {runtime : Runtime}

omit [Content β] [ExecutionStores β] in
/-- The batches up to a frontier are there from then on. -/
theorem filter_frontier {earlier later : Snapshot β} {frontier : Nat} (valid : earlier.Valid)
    (after : later.Valid) (grows : earlier.Extends later) (inside : frontier ≤ earlier.head) :
    later.batches.filter (fun batch => batch.sequence ≤ frontier) =
      earlier.batches.filter (fun batch => batch.sequence ≤ frontier) := by
  obtain ⟨more, whole⟩ := grows
  have numbered := after.numbered
  rw [← whole, List.map_append, valid.numbered] at numbered
  have longer : earlier.head ≤ later.head := by
    rw [valid.head_eq_length, after.head_eq_length, ← whole, List.length_append]
    exact Nat.le_add_right _ _
  have rest : more.map Batch.sequence =
      List.range' (1 + earlier.head) (later.head - earlier.head) := by
    have split : List.range' 1 later.head = List.range' 1 earlier.head ++
        List.range' (1 + earlier.head) (later.head - earlier.head) := by
      rw [List.range'_append_1, Nat.add_sub_cancel' longer]
    rw [split] at numbered
    exact List.append_cancel_left numbered
  have beyond : more.filter (fun batch => decide (batch.sequence ≤ frontier)) = [] := by
    rw [List.filter_eq_nil_iff]
    intro batch member
    have listed : batch.sequence ∈ more.map Batch.sequence := List.mem_map_of_mem member
    rw [rest, List.mem_range'_1] at listed
    rw [decide_eq_true_eq]
    omega
  rw [← whole, List.filter_append, beyond, List.append_nil]

/-- The history at a frontier does not change while the log grows. -/
theorem history_stable {earlier later : Snapshot β} {frontier : Nat} (principal : String)
    (valid : earlier.Valid) (after : later.Valid) (grows : earlier.Extends later)
    (inside : frontier ≤ earlier.head) :
    history runtime later frontier principal = history runtime earlier frontier principal := by
  have longer : earlier.head ≤ later.head := by
    rw [valid.head_eq_length, after.head_eq_length]
    exact grows.length_le
  unfold history
  simp only [filter_frontier valid after grows inside, inside, inside.trans longer, readRows,
    Snapshot.records]

theorem history_ok {snapshot : Snapshot β} {frontier : Nat} {principal : String}
    {rows : List ConversationEntryV1}
    (returned : history runtime snapshot frontier principal = .ok rows) :
    frontier ≤ snapshot.head ∧
      rows.map (fun row => (row.ordinal : Nat)) = List.range' 1 rows.length := by
  simp only [history, bind_ok, require_ok, pure_ok] at returned
  obtain ⟨_, inside, _, _, _, identified, rfl⟩ := returned
  exact ⟨inside.2, identified.2⟩

variable [Hashlib] {snapshot : Snapshot β} {frontier : Nat}
  {selection : HistorySnapshotSelectionV2}

/-- A selection stands for the entries up to its frontier. -/
structure Selects (runtime : Runtime) (snapshot : Snapshot β)
    (selection : HistorySnapshotSelectionV2) (rows : List ConversationEntryV1) : Prop where
  returned : history runtime snapshot selection.frontier runtime.principalId = .ok rows
  snapshotId : selection.snapshotId = Identity.after "history:"
    (sha256 (historyPayload runtime selection.frontier rows).encodeAscii).identity
  tenant : selection.tenantId.text = runtime.tenantId
  principal : selection.principalId.text = runtime.principalId

theorem historySelection_ok :
    historySelection runtime snapshot frontier = .ok selection ↔
      selection.frontier = frontier ∧ ∃ rows, Selects runtime snapshot selection rows := by
  constructor
  · intro selected
    obtain ⟨rows, returned, selected⟩ := bind_ok.mp selected
    obtain ⟨tenant, named, selected⟩ := bind_ok.mp selected
    obtain ⟨principal, owned, selected⟩ := bind_ok.mp selected
    have named := nonemptyText_ok.mp named
    have owned := nonemptyText_ok.mp owned
    obtain rfl := pure_ok.mp selected
    exact ⟨rfl, rows, returned, rfl, named, owned⟩
  · intro selected
    obtain ⟨rfl, rows, selects⟩ := selected
    refine bind_ok.mpr ⟨rows, selects.returned, bind_ok.mpr ⟨selection.tenantId,
      nonemptyText_ok.mpr selects.tenant, bind_ok.mpr ⟨selection.principalId,
        nonemptyText_ok.mpr selects.principal, pure_ok.mpr ?_⟩⟩⟩
    rw [← selects.snapshotId]

/-- A selection stays what it is while the log grows. -/
theorem Selects.stable {later : Snapshot β} {rows : List ConversationEntryV1}
    (selects : Selects runtime snapshot selection rows) (valid : snapshot.Valid)
    (appended : Relation.ReflTransGen Appended snapshot later) :
    Selects runtime later selection rows := by
  obtain ⟨after, grows⟩ := appended_valid appended valid
  have inside := (history_ok selects.returned).1
  refine { selects with returned := ?_ }
  rw [history_stable _ valid after grows inside]
  exact selects.returned

omit [Hashlib] in
/-- A cursor is read back as the frontier, the offset and the snapshot it was written for. -/
theorem historyCursor_cursorAfter {digest : Digest}
    (named : selection.snapshotId = Identity.after "history:" digest.identity) (last : Nat) :
    historyCursor (cursorAfter selection last).text =
      .ok (selection.frontier, last, selection.snapshotId.text) := by
  have removed : removeprefix selection.snapshotId.text "history:" = digest.text := by
    rw [named, removeprefix, Identity.text_after, String.toList_append, if_pos (List.prefix_append _ _),
      List.drop_left, Digest.identity, String.ofList_toList]
  have colonless : ∀ part ∈ ["pg-history".toList, selection.frontier.repr.toList, last.repr.toList,
      digest.text.toList], ':' ∉ part := by
    intro part member
    simp only [List.mem_cons, List.not_mem_nil, or_false] at member
    rcases member with rfl | rfl | rfl | rfl
    · decide
    · exact repr_not_mem rfl
    · exact repr_not_mem rfl
    · intro colon
      exact absurd (digest.hex.2 ':' colon) (by decide)
  have written : (cursorAfter selection last).text.toList =
      [':'].intercalate ["pg-history".toList, selection.frontier.repr.toList, last.repr.toList,
        digest.text.toList] := by
    have colon : ":".toList = [':'] := rfl
    simp only [cursorAfter, removed, Identity.text_before, String.toList_append, colon,
      List.intercalate, List.intersperse, List.flatten_cons, List.flatten_nil, List.append_nil,
      List.append_assoc]
  have parts := List.splitOn_intercalate ':' colonless (List.cons_ne_nil _ _)
  unfold historyCursor
  rw [written, parts]
  dsimp only
  rw [require_pos ⟨rfl, isdecimal_repr _, isdecimal_repr _, digest.hex.1, digest.hex.2⟩, ok_bind,
    int_repr, int_repr, String.ofList_toList, named, Identity.text_after]
  rfl

/-- Where a query starts: at the first entry, or after those its cursor names. -/
inductive Starts (selection : HistorySnapshotSelectionV2) : Option Identity → Nat → Prop
  | first : Starts selection none 0
  | after (last : Nat) : Starts selection (some (cursorAfter selection last)) last

/-- The page after the first `after` entries. -/
def pageAt (selection : HistorySnapshotSelectionV2) (rows : List ConversationEntryV1)
    (limit after : Nat) : HistoryPage :=
  let page := (rows.drop after).take limit
  ⟨selection.snapshotId, selection.frontier, page.map historyEntry,
    if rows.length ≤ after + page.length then none
    else some (cursorAfter selection (after + page.length))⟩

/-- A page of a selection that still stands. -/
theorem readHistoryPage_eq {context : Transaction Unit} {peer : String} {user : UserState β}
    {rows : List ConversationEntryV1} {query : ConversationHistoryQuery} {after : Nat}
    (actor : runtime.actor context peer user = .ok ())
    (selects : Selects runtime user.snapshot selection rows)
    (starts : Starts selection query.afterCursor after) (inside : after ≤ rows.length) :
    readHistoryPage runtime context peer selection query user =
      .ok (pageAt selection rows query.limit after) := by
  have snapshot : runtime.snapshotForPeer context peer user = .ok user.snapshot := by
    rw [Runtime.snapshotForPeer, actor]
    rfl
  have current : historySelection runtime user.snapshot selection.frontier = .ok selection :=
    historySelection_ok.mpr ⟨rfl, rows, selects⟩
  have skipped : shownBefore selection rows query = .ok after := by
    unfold shownBefore
    cases found : query.afterCursor with
    | none =>
        rw [found] at starts
        cases starts
        rfl
    | some cursor =>
        rw [found] at starts
        cases starts
        dsimp only
        rw [historyCursor_cursorAfter selects.snapshotId, ok_bind]
        dsimp only
        rw [require_pos ⟨rfl, rfl, inside⟩]
        rfl
  unfold readHistoryPage
  rw [snapshot, ok_bind, require_pos ⟨selects.tenant, selects.principal⟩, ok_bind, current, ok_bind,
    require_pos rfl, ok_bind, selects.returned, ok_bind, skipped]
  rfl

/-- The cursor of a page that was read. -/
def nextCursor : Transaction HistoryPage → Option Identity
  | .ok page => page.nextCursor
  | .error _ => none

/-- The entries of a page that was read. -/
def entriesOf : Transaction HistoryPage → List HistoryEntry
  | .ok page => page.entries
  | .error _ => []

/-- The entries that a cursor leaves to be shown. -/
def Unshown (selection : HistorySnapshotSelectionV2) (rows : List ConversationEntryV1) (_ : Nat)
    (cursor : Option Identity) (left : List HistoryEntry) : Prop :=
  ∃ after, after ≤ rows.length ∧ Starts selection cursor after ∧
    left = (rows.drop after).map historyEntry

/-- A reading: one selection and one limit, whatever state each call finds. -/
structure HistoryReading (β : Type) where
  runtime : Runtime
  peer : String
  selection : HistorySnapshotSelectionV2
  limit : ℕ+
  bounded : (limit : Nat) ≤ 2 ^ 64 - 1
  context : Nat → Transaction Unit
  users : Nat → UserState β

namespace HistoryReading

variable (reading : HistoryReading β)

def query (cursor : Option Identity) : ConversationHistoryQuery :=
  ⟨reading.limit, cursor, reading.bounded⟩

def call (time : Nat) (cursor : Option Identity) : Transaction HistoryPage :=
  readHistoryPage reading.runtime (reading.context time) reading.peer reading.selection
    (reading.query cursor) (reading.users time)

/-- Every call is authenticated, and between two calls the log only grows. -/
structure Goes (reading : HistoryReading β) : Prop where
  valid : (reading.users 0).snapshot.Valid
  appended : ∀ time, Relation.ReflTransGen Appended (reading.users time).snapshot
    (reading.users (time + 1)).snapshot
  actor : ∀ time, reading.runtime.actor (reading.context time) reading.peer (reading.users time) =
    .ok ()

variable {reading} {rows : List ConversationEntryV1}

omit [Content β] [ExecutionStores β] [Hashlib] in
theorem Goes.grown (goes : reading.Goes) (time : Nat) :
    Relation.ReflTransGen Appended (reading.users 0).snapshot (reading.users time).snapshot := by
  induction time with
  | zero => exact .refl
  | succ time ih => exact ih.trans (goes.appended time)

/-- Every call that starts at a cursor of the reading returns the page there. -/
theorem Goes.call_eq (goes : reading.Goes)
    (selects : Selects reading.runtime (reading.users 0).snapshot reading.selection rows)
    (time : Nat) {cursor : Option Identity} {after : Nat}
    (starts : Starts reading.selection cursor after) (inside : after ≤ rows.length) :
    reading.call time cursor = .ok (pageAt reading.selection rows reading.limit after) :=
  readHistoryPage_eq (goes.actor time) (selects.stable goes.valid (goes.grown time)) starts inside

theorem Goes.advances (goes : reading.Goes)
    (selects : Selects reading.runtime (reading.users 0).snapshot reading.selection rows) :
    Pages.Advances reading.call nextCursor entriesOf (Unshown reading.selection rows) := by
  intro time cursor left due
  obtain ⟨after, inside, starts, rfl⟩ := due
  rw [goes.call_eq selects time starts inside]
  have size : ((rows.drop after).take reading.limit).length =
      min (reading.limit : Nat) (rows.length - after) := by
    rw [List.length_take, List.length_drop]
  have positive := reading.limit.pos
  by_cases ends : rows.length ≤ after + ((rows.drop after).take reading.limit).length
  · refine .inl ⟨if_pos ends, ?_⟩
    have whole : (rows.drop after).length ≤ (reading.limit : Nat) := by
      rw [List.length_drop]
      omega
    change ((rows.drop after).take reading.limit).map historyEntry = _
    rw [List.take_of_length_le whole]
  · have full : ((rows.drop after).take reading.limit).length = reading.limit := by omega
    refine .inr ⟨cursorAfter reading.selection (after + reading.limit), _, ?_,
      ⟨after + reading.limit, by omega, .after _, rfl⟩, ?_, ?_⟩
    · change (if _ then none else some _) = _
      rw [if_neg ends, full]
    · intro none
      have empty := congrArg List.length none
      change (((rows.drop after).take reading.limit).map historyEntry).length = 0 at empty
      rw [List.length_map, full] at empty
      omega
    · change _ = ((rows.drop after).take reading.limit).map historyEntry ++ _
      rw [← List.map_append, ← List.drop_drop, List.take_append_drop]

end HistoryReading

variable {context : Transaction Unit} {foreign : HistorySnapshotSelectionV2}
  {elsewhere : Snapshot β}

/-- What a page was read with. -/
theorem readHistoryPage_ok {peer : String} {user : UserState β}
    {query : ConversationHistoryQuery} {page : HistoryPage}
    (returned : readHistoryPage runtime context peer selection query user = .ok page) :
    ∃ rows after, Selects runtime user.snapshot selection rows ∧
      shownBefore selection rows query = .ok after ∧
      page = pageAt selection rows query.limit after := by
  obtain ⟨snapshot, read, returned⟩ := bind_ok.mp returned
  obtain ⟨_, _, returned⟩ := bind_ok.mp returned
  obtain ⟨current, selected, returned⟩ := bind_ok.mp returned
  obtain ⟨_, same, returned⟩ := bind_ok.mp returned
  obtain ⟨rows, listed, returned⟩ := bind_ok.mp returned
  obtain ⟨after, skipped, shown⟩ := bind_ok.mp returned
  obtain ⟨_, _, read⟩ := bind_ok.mp read
  obtain rfl := pure_ok.mp read
  obtain rfl := require_ok.mp same
  obtain rfl := pure_ok.mp shown
  obtain ⟨_, others, selects⟩ := historySelection_ok.mp selected
  obtain rfl : others = rows := Except.ok.inj (selects.returned.symm.trans listed)
  exact ⟨others, after, selects, skipped, rfl⟩

/-- Selections of one digest belong to one user, unless two payloads collide. -/
theorem selects_same {other : Runtime} {rows others : List ConversationEntryV1}
    (selects : Selects runtime snapshot selection rows)
    (selected : Selects other elsewhere foreign others)
    (frontier : foreign.frontier = selection.frontier)
    (named : foreign.snapshotId.text = selection.snapshotId.text) :
    foreign = selection ∨
      Json.CollisionAmong [(historyPayload runtime selection.frontier rows).encodeAscii,
        (historyPayload other foreign.frontier others).encodeAscii] := by
  rw [selects.snapshotId, selected.snapshotId, Identity.text_after, Identity.text_after,
    String.append_right_inj] at named
  by_cases equal : (historyPayload runtime selection.frontier rows).encodeAscii =
      (historyPayload other foreign.frontier others).encodeAscii
  · left
    have sameId : foreign.snapshotId = selection.snapshotId := by
      rw [selects.snapshotId, selected.snapshotId, equal]
    have names : ["tenant", "principal", "frontier", "entries"].Nodup := by decide
    have keys (runtime : Runtime) (frontier : Nat) (rows : List ConversationEntryV1) :
        ([("tenant", Json.str runtime.tenantId), ("principal", Json.str runtime.principalId),
          ("frontier", toJson frontier), ("entries", toJson rows)].map Prod.fst).Nodup := names
    have same := Json.encodeAscii_inj equal
    simp only [historyPayload, Json.sorted, Json.obj.injEq] at same
    have tenant : Json.str runtime.tenantId = Json.str other.tenantId := by
      have found := congrArg (List.lookup "tenant") same
      rw [Json.lookup_sorted (keys _ _ _) List.mem_cons_self,
        Json.lookup_sorted (keys _ _ _) List.mem_cons_self] at found
      exact Option.some.inj found
    have principal : Json.str runtime.principalId = Json.str other.principalId := by
      have found := congrArg (List.lookup "principal") same
      rw [Json.lookup_sorted (keys _ _ _) (List.mem_cons_of_mem _ List.mem_cons_self),
        Json.lookup_sorted (keys _ _ _) (List.mem_cons_of_mem _ List.mem_cons_self)] at found
      exact Option.some.inj found
    have tenant : foreign.tenantId = selection.tenantId :=
      Identity.ext_iff_text.mpr (selected.tenant.trans
        ((Json.str.inj tenant).symm.trans selects.tenant.symm))
    have principal : foreign.principalId = selection.principalId :=
      Identity.ext_iff_text.mpr (selected.principal.trans
        ((Json.str.inj principal).symm.trans selects.principal.symm))
    cases foreign
    cases selection
    simp only at frontier sameId tenant principal
    rw [frontier, sameId, tenant, principal]
  · right
    exact ⟨_, List.mem_cons_self, _, List.mem_cons_of_mem _ List.mem_cons_self, equal,
      Digest.ext_text named.symm⟩

/-- A page read with the cursor of a selection is a page of that selection. -/
theorem readHistoryPage_own {other : Runtime} {rows others : List ConversationEntryV1}
    (selects : Selects runtime snapshot selection rows)
    (selected : Selects other elsewhere foreign others) {peer : String}
    {user : UserState β} {query : ConversationHistoryQuery} {page : HistoryPage} {last : Nat}
    (cursor : query.afterCursor = some (cursorAfter foreign last))
    (returned : readHistoryPage runtime context peer selection query user = .ok page) :
    foreign = selection ∨
      Json.CollisionAmong [(historyPayload runtime selection.frontier rows).encodeAscii,
        (historyPayload other foreign.frontier others).encodeAscii] := by
  obtain ⟨_, after, -, skipped, -⟩ := readHistoryPage_ok returned
  simp only [shownBefore, cursor, historyCursor_cursorAfter selected.snapshotId, ok_bind] at skipped
  obtain ⟨_, fits, -⟩ := bind_ok.mp skipped
  obtain ⟨frontier, named, -⟩ := require_ok.mp fits
  exact selects_same selects selected frontier named

/-- A cursor selects what it was written for. -/
theorem selectHistorySnapshot_own {other : Runtime} {others : List ConversationEntryV1}
    (selected : Selects other elsewhere foreign others) {peer : String}
    {user : UserState β} {query : ConversationHistoryQuery} {last : Nat}
    (cursor : query.afterCursor = some (cursorAfter foreign last))
    (returned : selectHistorySnapshot runtime context peer query user = .ok selection) :
    ∃ rows, Selects runtime user.snapshot selection rows ∧ (foreign = selection ∨
      Json.CollisionAmong [(historyPayload runtime selection.frontier rows).encodeAscii,
        (historyPayload other foreign.frontier others).encodeAscii]) := by
  obtain ⟨snapshot, read, returned⟩ := bind_ok.mp returned
  simp only [cursor, historyCursor_cursorAfter selected.snapshotId, ok_bind] at returned
  obtain ⟨found, again, returned⟩ := bind_ok.mp returned
  obtain ⟨_, named, last⟩ := bind_ok.mp returned
  obtain ⟨_, _, read⟩ := bind_ok.mp read
  obtain rfl := pure_ok.mp read
  obtain rfl := pure_ok.mp last
  obtain ⟨frontier, rows, selects⟩ := historySelection_ok.mp again
  exact ⟨rows, selects, selects_same selects selected frontier.symm (require_ok.mp named).symm⟩

/-- **Conversation paging is complete and stable.** Whatever is appended between the calls,
following the cursors from the first page shows each entry at the selected frontier once, in the
order of the ordinals; every cursor of a page is read back as what it was written from and selects
the same snapshot again; and a cursor of another selection reads no page and selects nothing but
its own snapshot, unless the two payloads collide. -/
theorem history_paging (reading : HistoryReading β) (goes : reading.Goes)
    (selected : historySelection reading.runtime (reading.users 0).snapshot
      reading.selection.frontier = .ok reading.selection) :
    ∃ rows, Selects reading.runtime (reading.users 0).snapshot reading.selection rows ∧
      rows.map (fun row => (row.ordinal : Nat)) = List.range' 1 rows.length ∧
      (∃! pages, Pages reading.call nextCursor 0 none pages ∧
        (∀ page ∈ pages, ∃ found, page = .ok found) ∧
        pages.flatMap entriesOf = rows.map historyEntry) ∧
      (∀ time query page cursor,
        readHistoryPage reading.runtime (reading.context time) reading.peer reading.selection query
            (reading.users time) = .ok page →
          page.nextCursor = some cursor →
          ∃ last, cursor = cursorAfter reading.selection last ∧
            historyCursor cursor.text =
              .ok (reading.selection.frontier, last, reading.selection.snapshotId.text) ∧
            ∀ later limit bounded, selectHistorySnapshot reading.runtime (reading.context later)
                reading.peer ⟨limit, some cursor, bounded⟩ (reading.users later) =
              .ok reading.selection) ∧
      ∀ (other : Runtime) (elsewhere : Snapshot β) (foreign : HistorySnapshotSelectionV2) others,
        Selects other elsewhere foreign others → ∀ last time limit bounded,
          (∀ page, readHistoryPage reading.runtime (reading.context time) reading.peer
                reading.selection ⟨limit, some (cursorAfter foreign last), bounded⟩
                (reading.users time) = .ok page →
              foreign = reading.selection ∨
                Json.CollisionAmong [(historyPayload reading.runtime reading.selection.frontier
                    rows).encodeAscii,
                  (historyPayload other foreign.frontier others).encodeAscii]) ∧
            ∀ found, selectHistorySnapshot reading.runtime (reading.context time) reading.peer
                ⟨limit, some (cursorAfter foreign last), bounded⟩ (reading.users time) =
                  .ok found →
              ∃ kept, Selects reading.runtime (reading.users time).snapshot found kept ∧
                (foreign = found ∨
                  Json.CollisionAmong [(historyPayload reading.runtime found.frontier
                      kept).encodeAscii,
                    (historyPayload other foreign.frontier others).encodeAscii]) := by
  obtain ⟨-, rows, selects⟩ := historySelection_ok.mp selected
  refine ⟨rows, selects, (history_ok selects.returned).2, ?_, ?_, ?_⟩
  · have advances := goes.advances selects
    have due : Unshown reading.selection rows 0 none (rows.map historyEntry) :=
      ⟨0, Nat.zero_le _, .first, rfl⟩
    obtain ⟨pages, paged, shown⟩ := Pages.complete advances due
    refine ⟨pages, ⟨paged, ?_, shown⟩, fun _ other => other.1.unique paged⟩
    intro page member
    obtain ⟨time, cursor, left, ⟨after, inside, starts, -⟩, rfl⟩ :=
      Pages.called advances paged due page member
    exact ⟨_, goes.call_eq selects time starts inside⟩
  · intro time query page cursor returned continued
    obtain ⟨others, after, again, -, rfl⟩ := readHistoryPage_ok returned
    unfold pageAt at continued
    dsimp only at continued
    split at continued
    · cases continued
    · cases continued
      refine ⟨_, rfl, historyCursor_cursorAfter selects.snapshotId _, ?_⟩
      intro later limit bounded
      have stands := selects.stable goes.valid (goes.grown later)
      have snapshot : reading.runtime.snapshotForPeer (reading.context later) reading.peer
          (reading.users later) = .ok (reading.users later).snapshot := by
        rw [Runtime.snapshotForPeer, goes.actor later]
        rfl
      have current := historySelection_ok.mpr ⟨rfl, rows, stands⟩
      unfold selectHistorySnapshot
      rw [snapshot, ok_bind]
      simp only [historyCursor_cursorAfter selects.snapshotId, ok_bind, current]
      rw [require_pos trivial]
      rfl
  · intro other elsewhere foreign others belongs last time limit bounded
    have stands := selects.stable goes.valid (goes.grown time)
    refine ⟨?_, ?_⟩
    · intro page returned
      exact readHistoryPage_own stands belongs rfl returned
    · intro found returned
      exact selectHistorySnapshot_own belongs rfl returned

end

/-! A conversation of a message and its answer, one entry to a page. -/

def greeting : ConversationEntryV1 :=
  { entryId := ⟨"run/ingress", written _ trivial⟩
    tenant := ⟨"tenant", written _ trivial⟩
    principal := ⟨"hermetic-principal", written _ trivial⟩
    ordinal := ⟨1, Nat.one_pos⟩
    role := .principal
    text := "hello" }

def answer : ConversationEntryV1 :=
  { greeting with
    entryId := ⟨"run/answer", written _ trivial⟩
    ordinal := ⟨2, Nat.two_pos⟩
    role := .assistant }

def greetingSnapshot : Snapshot NativeValue :=
  ⟨2, [⟨"execution.create", "run", "created", 1, [entryRecord greeting]⟩,
    ⟨"execution.complete", "run", "completed", 2, [entryRecord answer]⟩]⟩

theorem greetingSnapshot_valid : greetingSnapshot.Valid := ⟨rfl, by decide, by decide⟩

theorem greeting_history :
    history nativeRuntime greetingSnapshot 2 "hermetic-principal" = .ok [greeting, answer] := by
  have kept : greetingSnapshot.batches.filter (fun batch => batch.sequence ≤ 2) =
      greetingSnapshot.batches := rfl
  have sound : ∀ record ∈ (⟨2, greetingSnapshot.batches⟩ : Snapshot NativeValue).records,
      record.schemaId = Schema.schemaId ConversationEntryV1 →
        ∃ value, Stores.read record.content = some value ∧ Entered record value := by
    intro record member _
    rcases List.mem_pair.mp member with rfl | rfl
    · exact ⟨greeting, rfl, rfl, rfl, rfl⟩
    · exact ⟨answer, rfl, rfl, rfl, rfl⟩
  have rows : readRows ConversationEntryV1 "history.read" nativeRuntime.tenantId Entered
      ⟨2, greetingSnapshot.batches⟩ = .ok [greeting, answer] := by
    rw [readRows_returns sound]
    refine congrArg Except.ok ((storedIn_append [entryRecord greeting] [entryRecord answer]).trans ?_)
    rw [entryRecord, entryRecord, storedIn_written, storedIn_written]
    rfl
  have owned : ∀ row ∈ [greeting, answer], row.tenant.text = nativeRuntime.tenantId ∧
      row.principal.text = "hermetic-principal" := by
    intro row member
    rcases List.mem_pair.mp member with rfl | rfl
    · exact ⟨rfl, rfl⟩
    · exact ⟨rfl, rfl⟩
  unfold history
  rw [require_pos ⟨rfl, le_refl 2⟩, ok_bind, kept]
  change (readRows ConversationEntryV1 "history.read" nativeRuntime.tenantId Entered
    ⟨2, greetingSnapshot.batches⟩ >>= _) = _
  rw [rows, ok_bind, require_pos ⟨owned, rfl⟩]
  rfl

section

variable [Hashlib]

def greetingReading : HistoryReading NativeValue :=
  { runtime := nativeRuntime
    peer := "local-cli"
    selection := ⟨Identity.after "history:"
      (sha256 (historyPayload nativeRuntime 2 [greeting, answer]).encodeAscii).identity,
      ⟨"tenant", written _ trivial⟩, ⟨"hermetic-principal", written _ trivial⟩, 2⟩
    limit := ⟨1, Nat.one_pos⟩
    bounded := by decide
    context := fun _ => .ok ()
    users := fun _ => ⟨greetingSnapshot, some "token"⟩ }

theorem greeting_goes : greetingReading.Goes :=
  { valid := greetingSnapshot_valid
    appended := fun _ => .refl
    actor := fun _ => rfl }

theorem greeting_selected : historySelection nativeRuntime greetingSnapshot 2 =
    .ok greetingReading.selection :=
  historySelection_ok.mpr ⟨rfl, [greeting, answer], greeting_history, rfl, rfl, rfl⟩

end

/-- The pages of the conversation, which show its two entries. -/
theorem history_paging_greeting :
    letI := Sha256.hashlib
    historySelection nativeRuntime greetingSnapshot 2 = .ok greetingReading.selection ∧
      ∃ pages, Pages greetingReading.call nextCursor 0 none pages ∧
        (∀ page ∈ pages, ∃ found, page = .ok found) ∧
        pages.flatMap entriesOf = [historyEntry greeting, historyEntry answer] := by
  let _ := Sha256.hashlib
  obtain ⟨rows, selects, -, ⟨pages, ⟨paged, read, shown⟩, -⟩, -⟩ :=
    history_paging greetingReading greeting_goes greeting_selected
  obtain rfl : rows = [greeting, answer] :=
    Except.ok.inj (selects.returned.symm.trans greeting_history)
  exact ⟨greeting_selected, pages, paged, read, shown⟩

end Chiplog.Composition
