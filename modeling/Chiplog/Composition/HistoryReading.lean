import Chiplog.Composition.ExecutionLog
import Chiplog.Data.Decimals

namespace Chiplog.Composition

open Chiplog.Data Chiplog.Platform Chiplog.AgentLoop

/-! Pages of the conversation at a selected frontier.

A selection names the entries it stands for by their digest, and every page is read from the
log again and compared with it.  A page that is not the last carries a cursor, whose text names
the selection and the entries already shown. -/

structure HistorySnapshotSelectionV2 where
  snapshotId : Identity
  tenantId : Identity
  principalId : Identity
  frontier : Nat
deriving DecidableEq

structure ConversationHistoryQuery where
  limit : ℕ+
  afterCursor : Option Identity
  bounded : (limit : Nat) ≤ 2 ^ 64 - 1
deriving DecidableEq

/-- What a page shows of an entry. -/
structure HistoryEntry where
  entryId : Identity
  sequence : ℕ+
  role : ConversationRole
  text : String
deriving DecidableEq

def historyEntry (row : ConversationEntryV1) : HistoryEntry :=
  ⟨row.entryId, row.ordinal, row.role, row.text⟩

/-- The object a page is the text of. -/
structure HistoryPage where
  snapshotId : Identity
  frontier : Nat
  entries : List HistoryEntry
  nextCursor : Option Identity
deriving DecidableEq

section

variable {β : Type} [Content β] [ExecutionStores β] [Hashlib]

/-- What the digest of a selection covers. -/
def historyPayload (runtime : Runtime) (frontier : Nat) (rows : List ConversationEntryV1) : Json :=
  .obj [("tenant", .str runtime.tenantId), ("principal", .str runtime.principalId),
    ("frontier", toJson frontier), ("entries", toJson rows)]

/-- `_history_selection`. -/
def historySelection (runtime : Runtime) (snapshot : Snapshot β) (frontier : Nat) :
    Transaction HistorySnapshotSelectionV2 := do
  let rows ← history runtime snapshot frontier runtime.principalId
  let payload := (historyPayload runtime frontier rows).encodeAscii
  let tenantId ← nonemptyText runtime.tenantId
  let principalId ← nonemptyText runtime.principalId
  return ⟨Identity.after "history:" (sha256 payload).identity, tenantId, principalId, frontier⟩

def invalidCursor : Failure := .loopRejected "invalid stable history cursor"

/-- `_history_cursor`. -/
def historyCursor (cursor : String) : Transaction (Nat × Nat × String) :=
  match cursor.toList.splitOn ':' with
  | [lead, frontier, ordinal, digest] => do
      require (lead = "pg-history".toList ∧ isdecimal frontier ∧ isdecimal ordinal ∧
          digest.length = 64 ∧ ∀ char ∈ digest, char ∈ hexAlphabet)
        invalidCursor
      return (int frontier, int ordinal, "history:" ++ String.ofList digest)
  | _ => .error invalidCursor

/-- `str.removeprefix`. -/
def removeprefix (text lead : String) : String :=
  if lead.toList <+: text.toList then String.ofList (text.toList.drop lead.toList.length) else text

/-- The cursor after the first `last` entries of a selection. -/
def cursorAfter (selection : HistorySnapshotSelectionV2) (last : Nat) : Identity :=
  Identity.before ⟨"pg-history", by decide⟩ (":" ++ selection.frontier.repr ++ ":" ++ last.repr ++
    ":" ++ removeprefix selection.snapshotId.text "history:")

def selectHistorySnapshot (runtime : Runtime) (context : Transaction Unit) (peer : String)
    (query : ConversationHistoryQuery) (user : UserState β) :
    Transaction HistorySnapshotSelectionV2 := do
  let snapshot ← runtime.snapshotForPeer context peer user
  match query.afterCursor with
  | none => historySelection runtime snapshot snapshot.head
  | some cursor => do
      let (frontier, _, identity) ← historyCursor cursor.text
      let selection ← historySelection runtime snapshot frontier
      require (selection.snapshotId.text = identity)
        (.loopRejected "history cursor belongs to another user or snapshot")
      return selection

/-- How many entries a query skips. -/
def shownBefore (selection : HistorySnapshotSelectionV2) (rows : List ConversationEntryV1)
    (query : ConversationHistoryQuery) : Transaction Nat :=
  match query.afterCursor with
  | none => .ok 0
  | some cursor => do
      let (frontier, after, identity) ← historyCursor cursor.text
      require (frontier = selection.frontier ∧ identity = selection.snapshotId.text ∧
          after ≤ rows.length)
        (.loopRejected "history cursor differs from selected snapshot")
      return after

/-- `_read_history_snapshot` up to the text of the page. -/
def readHistoryPage (runtime : Runtime) (context : Transaction Unit) (peer : String)
    (selection : HistorySnapshotSelectionV2) (query : ConversationHistoryQuery)
    (user : UserState β) : Transaction HistoryPage := do
  let snapshot ← runtime.snapshotForPeer context peer user
  require (selection.tenantId.text = runtime.tenantId ∧
      selection.principalId.text = runtime.principalId)
    (.permission "history selection differs from authenticated user snapshot")
  let current ← historySelection runtime snapshot selection.frontier
  require (current = selection)
    (.permission "history selection differs from authenticated user snapshot")
  let rows ← history runtime snapshot selection.frontier runtime.principalId
  let after ← shownBefore selection rows query
  let page := (rows.drop after).take query.limit
  let last := after + page.length
  let nextCursor := if rows.length ≤ last then none else some (cursorAfter selection last)
  return ⟨selection.snapshotId, selection.frontier, page.map historyEntry, nextCursor⟩

end

end Chiplog.Composition
