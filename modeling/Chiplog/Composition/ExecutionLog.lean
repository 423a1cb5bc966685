import Chiplog.AgentLoop.ExecutionTransitions
import Chiplog.Composition.Runtime
import Chiplog.Data.KeyedLog

namespace Chiplog.Composition

open Chiplog.Data Chiplog.Platform Chiplog.AgentLoop

/-! Conversation of one user, read from the log.

A read walks the whole log and fails on the first record that does not continue what came
before it. -/

instance : Schema (ExecutionRunRecord version) :=
  ⟨version.schemaId, fun run => (canonicalBytes run).items⟩

instance : Schema ConversationEntryV1 :=
  ⟨"chiplog.conversation.entry.pg.v1", fun entry => (canonicalBytes entry).items⟩

instance : Schema NativeCallStateV1 :=
  ⟨"chiplog.agent-loop.native-call-state.v1", fun state => (canonicalBytes state).items⟩

/-- A log that keeps the records of this module. -/
class ExecutionStores (β : Type) [Content β] where
  run : ∀ version, Stores β (ExecutionRunRecord version)
  conversationEntry : Stores β ConversationEntryV1
  callState : Stores β NativeCallStateV1

section Instances

variable {β : Type} [Content β] [stores : ExecutionStores β]

instance : Stores β ConversationEntryV1 := stores.conversationEntry

end Instances

def emptyText : Failure := .value "String should have at least 1 character"

/-- Validation of a field with `min_length=1`. -/
def nonemptyText (text : String) : Transaction Identity :=
  if nonempty : text ≠ "" then .ok ⟨text, nonempty⟩ else .error emptyText

theorem nonemptyText_ok {text : String} {identity : Identity} :
    nonemptyText text = .ok identity ↔ identity.text = text := by
  unfold nonemptyText
  split
  · rename_i nonempty
    rw [Except.ok.injEq, Identity.ext_iff_text]
    exact eq_comm
  · rename_i empty
    constructor
    · intro impossible
      cases impossible
    · rintro rfl
      exact absurd identity.nonempty empty

section History

variable {β : Type} [Content β] [ExecutionStores β]

/-- What `_history` requires of each entry on the way. -/
def Entered (item : Record β) (entry : ConversationEntryV1) : Prop :=
  item.owner = "conversation" ∧ entry.entryId.text = item.recordId ∧
    (canonicalBytes entry).items = Content.bytes item.content

instance (item : Record β) (entry : ConversationEntryV1) : Decidable (Entered item entry) :=
  inferInstanceAs (Decidable (_ ∧ _ ∧ _))

/-- `_history`. -/
def history (runtime : Runtime) (snapshot : Snapshot β) (frontier : Nat) (principal : String) :
    Transaction (List ConversationEntryV1) := do
  require (principal = runtime.principalId ∧ frontier ≤ snapshot.head)
    (.permission "foreign principal or invalid history frontier")
  let rows ← readRows ConversationEntryV1 "history.read" runtime.tenantId Entered
    ⟨snapshot.head, snapshot.batches.filter (fun batch => batch.sequence ≤ frontier)⟩
  require ((∀ row ∈ rows, row.tenant.text = runtime.tenantId ∧ row.principal.text = principal) ∧
      rows.map (fun row => (row.ordinal : Nat)) = List.range' 1 rows.length)
    (.corrupt "conversation identity or ordinal mismatch")
  return rows

def entryRecord (entry : ConversationEntryV1) : Record β :=
  ⟨entry.entryId.text, "conversation", Stores.write entry⟩

end History

end Chiplog.Composition
