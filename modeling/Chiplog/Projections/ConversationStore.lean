import Chiplog.Data.JsonAscii
import Chiplog.Platform.Sqlite
import Chiplog.Platform.SqliteReplay
import Mathlib.Algebra.Order.BigOperators.Group.List
import Mathlib.Data.PNat.Basic
import Mathlib.Logic.Relation

namespace Chiplog.Projections.Conversation

open Chiplog.Data Chiplog.Platform.Sqlite

/-! The accepted conversation.

An append reads the records of the tenant, then its history, and submits one record under the head
that it has read.  What happens between these three is up to the other writers. -/

def conversationOwner : String := "conversation"
def conversationSchema : String := "chiplog.conversation.v1"

def conversationId (tenantId : String) : String := "conversation:" ++ tenantId

inductive Role where
  | principal
  | assistant
deriving DecidableEq

/-- An entry, under any type of disclosure envelopes. -/
structure ConversationEntry (ι : Type) where
  tenantId : String
  conversationId : String
  entryId : String
  sequence : ℕ+
  originChannelId : String
  visibleChannels : List String
  role : Role
  acceptedBytes : Bytes
  envelope : ι

/-- The JSON of records and entries. -/
class ConversationJson (ι : Type) where
  loads : Bytes → Option Json
  reads : ReadsJson loads
  modelDumpJson : ConversationEntry ι → String
  modelValidateJson : String → Option (ConversationEntry ι)
  validate_dump (entry : ConversationEntry ι) :
    modelValidateJson (modelDumpJson entry) = some entry

export ConversationJson (modelDumpJson modelValidateJson)

inductive ConversationError where
  | integrity (operation tenantId recordId : String)
  | rejected (message : String)
  | sqlite (error : SqliteError)

/-- What a store reads of the context it was built with. -/
structure WorkspaceReadContext where
  tenantId : String
  deletionFenceHead : String

structure R3ConversationStore where
  context : WorkspaceReadContext
  fenceFrontier : Int

/-- `ORDER BY commit_sequence, record_id`. -/
def CommitOrder (first second : RecordRow) : Prop :=
  first.commitSequence < second.commitSequence ∨
    first.commitSequence = second.commitSequence ∧ first.recordId ≤ second.recordId

instance : DecidableRel CommitOrder := fun first second =>
  inferInstanceAs (Decidable (first.commitSequence < second.commitSequence ∨
    first.commitSequence = second.commitSequence ∧ first.recordId ≤ second.recordId))

/-- The records of a tenant, in the order of their commits. -/
def tenantRecords (tables : Tables) (tenantId : String) : List RecordRow :=
  (tables.records.filter (fun row => row.tenantId = tenantId)).insertionSort CommitOrder

def guardedRecords (tables : Tables) (tenantId generation : String) (minimumFrontier : Int) :
    Except SqliteError (List RecordRow) :=
  match tables.fences.get? tenantId with
  | none => .error (.value "deletion fence absent")
  | some (current, frontier) => do
      raiseIf (current ≠ generation) (.value "deletion fence generation mismatch")
      raiseIf (frontier < minimumFrontier) (.value "deletion fence lags required frontier")
      pure (tenantRecords tables tenantId)

/-- What the store raises is not caught. -/
def uncaught (result : Except SqliteError α) : Except ConversationError α :=
  result.mapError .sqlite

section

variable {ι : Type} [Hashlib] [ConversationJson ι]

/-- The record of an entry. -/
@[irreducible] def encoded (entry : ConversationEntry ι) : Bytes :=
  let entryBytes := utf8 (modelDumpJson entry)
  (Json.obj [("entry_json", .str (modelDumpJson entry)),
    ("fingerprint", .str (sha256 entryBytes).text)]).encodeAscii

def entryRecord (entry : ConversationEntry ι) : PhysicalRecord :=
  ⟨entry.entryId, conversationOwner, conversationSchema, encoded entry,
    (sha256 (encoded entry)).text⟩

/-- One round of the loop of `entries`; every way out is one integrity error. -/
def readRow (tenantId : String) (row : RecordRow) :
    Except ConversationError (ConversationEntry ι) := do
  let failure := ConversationError.integrity "conversation.read" tenantId row.recordId
  raiseIf (row.schemaId ≠ conversationSchema) failure
  match ConversationJson.loads ι row.canonicalBytes with
  | some (.obj fields) =>
      raiseIf (fields.length ≠ 2) failure
      match fields.lookup "entry_json", fields.lookup "fingerprint" with
      | some (.str entryJson), some (.str fingerprint) =>
          raiseIf ((sha256 (utf8 entryJson)).text ≠ fingerprint) failure
          match modelValidateJson entryJson with
          | none => .error failure
          | some entry =>
              raiseIf (entry.tenantId ≠ tenantId ∨ entry.entryId ≠ row.recordId ∨
                entry.conversationId ≠ conversationId tenantId) failure
              pure entry
      | _, _ => .error failure
  | _ => .error failure

namespace R3ConversationStore

variable (store : R3ConversationStore)

/-- `entries`; `valid` is what `contexts.validate` does. -/
def entries (valid : Except ConversationError Unit) (tables : Tables) (tenantId : String)
    (frontier : Int) : Except ConversationError (List (ConversationEntry ι)) := do
  valid
  raiseIf (tenantId ≠ store.context.tenantId) (.rejected "foreign canonical conversation")
  let rows ← uncaught
    (guardedRecords tables tenantId store.context.deletionFenceHead store.fenceFrontier)
  let read ← (rows.filter (fun row => row.owner = conversationOwner)).mapM (fun row => do
    let entry ← readRow tenantId row
    pure (row.commitSequence, entry))
  let kept := (read.filter (fun pair => (pair.1 : Int) ≤ frontier)).map Prod.snd
  let result := kept.insertionSort (fun first second => first.sequence ≤ second.sequence)
  raiseIf (result.map (fun entry => (entry.sequence : Nat)) ≠ List.range' 1 result.length)
    (.rejected "canonical conversation sequence gap/duplicate")
  pure result

/-- `append` up to its first read. -/
def begin (valid : Except ConversationError Unit) (tables : Tables)
    (entry : ConversationEntry ι) : Except ConversationError (List RecordRow) := do
  valid
  raiseIf (entry.tenantId ≠ store.context.tenantId ∨
      entry.conversationId ≠ Conversation.conversationId entry.tenantId)
    (.rejected "canonical conversation tenant mismatch")
  uncaught
    (guardedRecords tables entry.tenantId store.context.deletionFenceHead store.fenceFrontier)

/-- The head of the records that were read. -/
def headOf (rows : List RecordRow) : Nat := ((rows.map (·.commitSequence)).max?).getD 0

/-- The command of an entry. -/
def command (guard : Except SqliteError (Option Refusal)) (head : Nat)
    (entry : ConversationEntry ι) : PhysicalPublicationCommand where
  tenantId := entry.tenantId
  operationKind := "conversation.accept"
  idempotencyKey := entry.entryId
  requestFingerprint := (sha256 (encoded entry)).text
  expectedHead := head
  fenceGeneration := store.context.deletionFenceHead
  expectedFenceFrontier := store.fenceFrontier
  minimumFenceFrontier := store.fenceFrontier
  records := [entryRecord entry]
  expectedPreimageCommitment := none
  fault := .none
  admissionGuard := some guard
  decisionGuard := none
  authorityCheckpointGuard := none

inductive Decision where
  | answer (disposition : Disposition)
  | submit (command : PhysicalPublicationCommand)

/-- `append` from its second read to what it submits. -/
def decide (valid : Except ConversationError Unit) (guard : Except SqliteError (Option Refusal))
    (rows : List RecordRow) (tables : Tables) (entry : ConversationEntry ι) :
    Except ConversationError Decision := do
  let history ← store.entries valid tables entry.tenantId (2 ^ 63 - 1)
  match rows.find? (fun row => row.recordId = entry.entryId) with
  | some existing =>
      .ok (.answer (if existing.owner = conversationOwner ∧
        existing.canonicalBytes = encoded entry then .replay else .conflict))
  | none =>
      let last := (history.getLast?.map (fun entry : ConversationEntry ι =>
        (entry.sequence : Nat))).getD 0
      if (entry.sequence : Nat) ≠ last + 1 then .ok (.answer .conflict)
      else .ok (.submit (store.command guard (headOf rows) entry))

/-- What becomes of the result of `submit`. -/
def finish : Except SqliteError PublicationResult → Except ConversationError Disposition
  | .error error => .error (.sqlite error)
  | .ok result =>
      match result.disposition with
      | .committed => .ok .committed
      | .replay => .ok .replay
      | .conflict => .ok .conflict
      | .denied => .error (.rejected "conversation admission DENIED")
      | .stale => .error (.rejected "conversation admission STALE")
      | .indeterminate => .error (.rejected "conversation admission INDETERMINATE")

/-- The calls of `append` that other writers may come between: the tables at its first read, at its
second and at its publication.  The appender may put an observer into the command. -/
structure Interleaving where
  first : Except ConversationError Unit
  second : Except ConversationError Unit
  guard : Except SqliteError (Option Refusal)
  surroundings : Surroundings
  observer : Option (String → Except SqliteError (Option Refusal))
  reading : Tables
  deciding : Tables
  publishing : Tables

/-- `append`, and the tables it leaves. -/
def append (call : Interleaving) (entry : ConversationEntry ι) :
    Except ConversationError Disposition × Tables :=
  let decision := do
    let rows ← store.begin call.first call.reading entry
    store.decide call.second call.guard rows call.deciding entry
  match decision with
  | .error error => (.error error, call.publishing)
  | .ok (.answer disposition) => (.ok disposition, call.publishing)
  | .ok (.submit command) =>
      let result := publish call.surroundings call.publishing
        { command with decisionGuard := call.observer }
      (finish result.1, result.2)

end R3ConversationStore

/-! ### Runs -/

/-- An append between its two reads. -/
structure Pending (ι : Type) where
  store : R3ConversationStore
  entry : ConversationEntry ι
  rows : List RecordRow

/-- The store, the appends that have read it and the commands that were submitted. -/
structure Writers (ι : Type) where
  tables : Tables
  reading : List (Pending ι)
  submitted : List PhysicalPublicationCommand

/-- An integer column holds 64 bits; a publication beyond that raises. -/
def Fits (tables : Tables) : Prop := ∀ tenantId, (tables.head tenantId : Int) ≤ 2 ^ 63 - 1

/-- One step of one writer.  A call that answers or raises leaves nothing behind. -/
inductive Step : Writers ι → Writers ι → Prop
  | begin {state : Writers ι} {store : R3ConversationStore} {entry : ConversationEntry ι}
      {valid : Except ConversationError Unit} {rows : List RecordRow}
      (returned : store.begin valid state.tables entry = .ok rows) :
      Step state { state with reading := ⟨store, entry, rows⟩ :: state.reading }
  | decide {state : Writers ι} {call : Pending ι} {valid : Except ConversationError Unit}
      {guard : Except SqliteError (Option Refusal)} {command : PhysicalPublicationCommand}
      (member : call ∈ state.reading)
      (returned : call.store.decide valid guard call.rows state.tables call.entry =
        .ok (.submit command)) :
      Step state { state with submitted := command :: state.submitted }
  | publish {state : Writers ι} {command : PhysicalPublicationCommand}
      (member : command ∈ state.submitted) (surroundings : Surroundings)
      (observer : Option (String → Except SqliteError (Option Refusal)))
      (fits : Fits (Platform.Sqlite.publish surroundings state.tables
        { command with decisionGuard := observer }).2) :
      Step state { state with tables := (Platform.Sqlite.publish surroundings state.tables
        { command with decisionGuard := observer }).2 }
  | foreign {state : Writers ι} {command : PhysicalPublicationCommand}
      (unrelated : ∀ record ∈ command.records, record.owner ≠ conversationOwner)
      (surroundings : Surroundings)
      (fits : Fits (Platform.Sqlite.publish surroundings state.tables command).2) :
      Step state
        { state with tables := (Platform.Sqlite.publish surroundings state.tables command).2 }

/-- Any steps of any writers. -/
abbrev Steps : Writers ι → Writers ι → Prop := Relation.ReflTransGen Step

/-- No append on a store with its deletion fences. -/
def Writers.fresh (fences : Dict String (String × Int)) : Writers ι :=
  ⟨.fenced fences, [], []⟩

end

end Chiplog.Projections.Conversation

namespace Chiplog.Projections.Conversation

open Chiplog.Data Chiplog.Platform.Sqlite

/-! Reading the accepted conversation.

A store holds a conversation when the records of the conversation owner are those of a list of
entries, numbered from one in the order of their commits.  Then every read of it succeeds. -/

/-! ### Prefixes -/

theorem range'_of_prefix {part whole : List Nat} (start : part <+: whole)
    (numbered : whole = List.range' 1 whole.length) : part = List.range' 1 part.length := by
  obtain ⟨rest, rfl⟩ := start
  rw [List.length_append, ← List.range'_append_1] at numbered
  exact (List.append_inj numbered (by rw [List.length_range'])).1

/-- What was committed at or before a frontier. -/
def upTo {α : Type} (pairs : List (Nat × α)) (frontier : Int) : List α :=
  (pairs.filter (fun pair => (pair.1 : Int) ≤ frontier)).map Prod.snd

section

variable {α : Type} {pairs : List (Nat × α)}
  (commits : pairs.Pairwise (fun first second => first.1 < second.1))

include commits

/-- What a lower frontier leaves is the start of what a higher one leaves. -/
theorem upTo_prefix {frontier later : Int} (before : frontier ≤ later) :
    upTo pairs frontier <+: upTo pairs later := by
  induction pairs with
  | nil => exact List.prefix_refl _
  | cons pair pairs ih =>
      obtain ⟨first, rest⟩ := List.pairwise_cons.mp commits
      unfold upTo
      by_cases own : (pair.1 : Int) ≤ frontier
      · rw [List.filter_cons, if_pos (decide_eq_true own), List.filter_cons,
          if_pos (decide_eq_true (own.trans before)), List.map_cons, List.map_cons]
        exact (List.prefix_cons_inj _).mpr (ih rest)
      · have none : (pair :: pairs).filter (fun pair => (pair.1 : Int) ≤ frontier) = [] := by
          rw [List.filter_eq_nil_iff]
          intro other member
          rw [decide_eq_true_eq]
          rcases List.mem_cons.mp member with rfl | later
          · exact own
          · have after := first other later
            omega
        rw [none]
        exact List.nil_prefix

omit commits in
theorem upTo_all {frontier : Int} (every : ∀ pair ∈ pairs, (pair.1 : Int) ≤ frontier) :
    upTo pairs frontier = pairs.map Prod.snd := by
  have whole : pairs.filter (fun pair => (pair.1 : Int) ≤ frontier) = pairs :=
    List.filter_eq_self.mpr (fun pair member => decide_eq_true (every pair member))
  rw [upTo, whole]

theorem upTo_prefix_all (frontier : Int) : upTo pairs frontier <+: pairs.map Prod.snd := by
  have bounded : ∃ later : Int, frontier ≤ later ∧ ∀ pair ∈ pairs, (pair.1 : Int) ≤ later := by
    refine ⟨max frontier ((pairs.map Prod.fst).sum : Nat), le_max_left _ _, ?_⟩
    intro pair member
    have within : pair.1 ≤ (pairs.map Prod.fst).sum :=
      List.single_le_sum (fun _ _ => Nat.zero_le _) _ (List.mem_map_of_mem member)
    omega
  obtain ⟨later, before, every⟩ := bounded
  rw [← upTo_all every]
  exact upTo_prefix commits before

end

/-! ### Records of a tenant -/

theorem commitOrder_total : Std.Total CommitOrder where
  total first second := by
    rcases Nat.lt_trichotomy first.commitSequence second.commitSequence with before | same | after
    · exact .inl (.inl before)
    · rcases String.le_total first.recordId second.recordId with low | high
      · exact .inl (.inr ⟨same, low⟩)
      · exact .inr (.inr ⟨same.symm, high⟩)
    · exact .inr (.inl after)

theorem commitOrder_trans : IsTrans RecordRow CommitOrder where
  trans first second third := by
    intro before after
    rcases before with before | ⟨same, low⟩
    · rcases after with after | ⟨equal, _⟩
      · exact .inl (before.trans after)
      · exact .inl (equal ▸ before)
    · rcases after with after | ⟨equal, high⟩
      · exact .inl (same ▸ after)
      · exact .inr ⟨same.trans equal, String.le_trans low high⟩

/-- The conversation of a tenant, in the order of the store. -/
def conversationRows (tables : Tables) (tenantId : String) : List RecordRow :=
  (tables.records.filter (fun row => row.tenantId = tenantId)).filter
    (fun row => row.owner = conversationOwner)

theorem mem_tenantRecords {tables : Tables} {tenantId : String} {row : RecordRow} :
    row ∈ tenantRecords tables tenantId ↔ row ∈ tables.records ∧ row.tenantId = tenantId := by
  rw [tenantRecords, List.mem_insertionSort, List.mem_filter, decide_eq_true_eq]

theorem mem_conversationRows {tables : Tables} {tenantId : String} {row : RecordRow} :
    row ∈ conversationRows tables tenantId ↔
      row ∈ tables.records ∧ row.tenantId = tenantId ∧ row.owner = conversationOwner := by
  rw [conversationRows, List.mem_filter, List.mem_filter, decide_eq_true_eq, decide_eq_true_eq,
    and_assoc]

/-- The order of a read keeps rows that the store has in the order of their commits. -/
theorem tenantRecords_conversation {tables : Tables} {tenantId : String}
    (commits : (conversationRows tables tenantId).Pairwise
      (fun first second => first.commitSequence < second.commitSequence)) :
    (tenantRecords tables tenantId).filter (fun row => row.owner = conversationOwner) =
      conversationRows tables tenantId := by
  have permuted : ((tenantRecords tables tenantId).filter
      (fun row => row.owner = conversationOwner)).Perm (conversationRows tables tenantId) :=
    (List.perm_insertionSort _ _).filter _
  have := commitOrder_total
  have := commitOrder_trans
  have sorted : ((tenantRecords tables tenantId).filter
      (fun row => row.owner = conversationOwner)).Pairwise
        (fun first second => first.commitSequence ≤ second.commitSequence) := by
    refine ((List.pairwise_insertionSort CommitOrder _).filter _).imp ?_
    intro first second before
    rcases before with before | ⟨same, _⟩
    · exact Nat.le_of_lt before
    · exact Nat.le_of_eq same
  have apart : ∀ first ∈ conversationRows tables tenantId,
      ∀ second ∈ conversationRows tables tenantId,
        first.commitSequence = second.commitSequence → first = second :=
    List.inj_on_of_nodup_map (List.pairwise_map.mpr (commits.imp Nat.ne_of_lt))
  refine permuted.eq_of_pairwise ?_ sorted (commits.imp Nat.le_of_lt)
  intro first second member other before after
  exact apart first (permuted.mem_iff.mp member) second other (Nat.le_antisymm before after)

section

variable {ι : Type} [Hashlib] [ConversationJson ι]

/-! ### Records of entries -/

/-- The record of an entry of the tenant. -/
structure Holds (tenantId : String) (row : RecordRow) (entry : ConversationEntry ι) : Prop where
  record : row.recordId = entry.entryId
  schema : row.schemaId = conversationSchema
  bytes : row.canonicalBytes = encoded entry
  tenant : entry.tenantId = tenantId
  conversation : entry.conversationId = conversationId tenantId

theorem loads_encoded (entry : ConversationEntry ι) :
    ConversationJson.loads ι (encoded entry) = some (.obj [("entry_json",
      .str (modelDumpJson entry)), ("fingerprint", .str (sha256 (utf8 (modelDumpJson entry))).text)]) := by
  have order : (["entry_json", "fingerprint"] : List String).Pairwise (· ≤ ·) := by decide
  have distinct : (Json.obj [("entry_json", .str (modelDumpJson entry)),
      ("fingerprint", .str (sha256 (utf8 (modelDumpJson entry))).text)]).Distinct :=
    ⟨by simp, trivial, trivial, trivial⟩
  rw [encoded, ConversationJson.reads _ distinct, Json.sorted, Json.sortFields]
  exact congrArg (fun fields => some (Json.obj fields))
    (List.Pairwise.insertionSort_eq (List.pairwise_map.mp order))

theorem encoded_inj {entry other : ConversationEntry ι} (same : encoded entry = encoded other) :
    entry = other := by
  have loaded := loads_encoded entry
  rw [same, loads_encoded] at loaded
  have fields := Json.obj.inj (Option.some.inj loaded)
  have text := Json.str.inj (Prod.mk.inj (List.cons.inj fields).1).2
  have read := ConversationJson.validate_dump other
  rw [text, ConversationJson.validate_dump] at read
  exact Option.some.inj read

theorem readRow_holds {tenantId : String} {row : RecordRow} {entry : ConversationEntry ι}
    (holds : Holds tenantId row entry) : readRow tenantId row = .ok entry := by
  have known : ¬ (¬ entry.tenantId = tenantId ∨ ¬ entry.entryId = row.recordId ∨
      ¬ entry.conversationId = conversationId tenantId) := by
    simp [holds.tenant, holds.record, holds.conversation]
  have apart : ("fingerprint" == "entry_json") = false := by decide
  rw [readRow, raiseIf_neg (not_not.mpr holds.schema), ok_bind, holds.bytes, loads_encoded]
  simp only [List.length_cons, List.length_nil, ne_eq, not_true_eq_false, not_false_eq_true,
    raiseIf_neg, ok_bind, List.lookup_cons, beq_self_eq_true]
  simp only [apart, not_true_eq_false, not_false_eq_true, raiseIf_neg, ok_bind,
    ConversationJson.validate_dump]
  rw [raiseIf_neg known]
  rfl

/-! ### Conversations -/

/-- A store that holds the entries as the conversation of a tenant. -/
structure Accepted (tables : Tables) (tenantId : String)
    (entries : List (ConversationEntry ι)) : Prop where
  rows : List.Forall₂ (Holds tenantId) (conversationRows tables tenantId) entries
  sequences : entries.map (fun entry => (entry.sequence : Nat)) = List.range' 1 entries.length
  commits : (conversationRows tables tenantId).Pairwise
    (fun first second => first.commitSequence < second.commitSequence)

/-- The entries with their commits. -/
def committed (tables : Tables) (tenantId : String) (entries : List (ConversationEntry ι)) :
    List (Nat × ConversationEntry ι) :=
  ((conversationRows tables tenantId).map (·.commitSequence)).zip entries

/-- The entries that were committed at or before a frontier. -/
def committedBy (tables : Tables) (tenantId : String) (entries : List (ConversationEntry ι))
    (frontier : Int) : List (ConversationEntry ι) :=
  upTo (committed tables tenantId entries) frontier

namespace Accepted

variable {tables : Tables} {tenantId : String} {accepted : List (ConversationEntry ι)}
  (conversation : Accepted tables tenantId accepted)

include conversation

theorem length_eq : (conversationRows tables tenantId).length = accepted.length :=
  conversation.rows.length_eq

theorem committed_entries : (committed tables tenantId accepted).map Prod.snd = accepted := by
  rw [committed, List.map_snd_zip]
  rw [List.length_map, conversation.length_eq]

theorem committed_commits : (committed tables tenantId accepted).Pairwise
    (fun first second => first.1 < second.1) := by
  have firsts : (committed tables tenantId accepted).map Prod.fst =
      (conversationRows tables tenantId).map (·.commitSequence) := by
    rw [committed, List.map_fst_zip]
    rw [List.length_map, conversation.length_eq]
  rw [← List.pairwise_map, firsts, List.pairwise_map]
  exact conversation.commits

theorem committedBy_prefix (frontier : Int) :
    committedBy tables tenantId accepted frontier <+: accepted := by
  have start := upTo_prefix_all conversation.committed_commits frontier
  rwa [conversation.committed_entries] at start

/-- Every read succeeds and returns what was committed by then. -/
theorem entries_ok {store : R3ConversationStore} {frontier : Int} {installed : Int}
    (own : store.context.tenantId = tenantId)
    (fenced : tables.fences.get? tenantId = some (store.context.deletionFenceHead, installed))
    (covers : store.fenceFrontier ≤ installed) :
    store.entries (.ok ()) tables tenantId frontier =
      .ok (committedBy tables tenantId accepted frontier) := by
  have guarded : guardedRecords tables tenantId store.context.deletionFenceHead
      store.fenceFrontier = .ok (tenantRecords tables tenantId) := by
    rw [guardedRecords, fenced]
    dsimp only
    rw [raiseIf_neg (not_not.mpr rfl), ok_bind, raiseIf_neg (not_lt.mpr covers), ok_bind]
    rfl
  have read : (conversationRows tables tenantId).mapM (fun row => do
      let entry : ConversationEntry ι ← readRow tenantId row
      pure (row.commitSequence, entry)) = .ok (committed tables tenantId accepted) := by
    have rows := conversation.rows
    unfold committed
    generalize conversationRows tables tenantId = found at rows
    clear conversation
    induction rows with
    | nil => rfl
    | cons holds _ ih =>
        rw [List.mapM_cons, readRow_holds holds, ih]
        rfl
  have start := conversation.committedBy_prefix frontier
  have sequences : (committedBy tables tenantId accepted frontier).map
      (fun entry => (entry.sequence : Nat)) =
        List.range' 1 (committedBy tables tenantId accepted frontier).length := by
    have numbered := range'_of_prefix (start.map (fun entry => (entry.sequence : Nat)))
      (by rw [List.length_map]; exact conversation.sequences)
    rwa [List.length_map] at numbered
  have sorted : (committedBy tables tenantId accepted frontier).insertionSort
      (fun first second => first.sequence ≤ second.sequence) =
        committedBy tables tenantId accepted frontier := by
    apply List.Pairwise.insertionSort_eq
    have increasing := List.pairwise_le_range' 1 (s := 1)
      (n := (committedBy tables tenantId accepted frontier).length)
    rw [← sequences, List.pairwise_map] at increasing
    exact increasing
  rw [R3ConversationStore.entries, ok_bind, raiseIf_neg (not_not.mpr own.symm), ok_bind, guarded]
  change (do
    let read ← ((tenantRecords tables tenantId).filter
      (fun row : RecordRow => row.owner = conversationOwner)).mapM (fun row => do
        let entry : ConversationEntry ι ← readRow tenantId row
        pure (row.commitSequence, entry))
    _) = _
  rw [tenantRecords_conversation conversation.commits, read, ok_bind]
  change (do
    raiseIf (((committedBy tables tenantId accepted frontier).insertionSort _).map _ ≠
      List.range' 1 ((committedBy tables tenantId accepted frontier).insertionSort _).length) _
    _) = _
  rw [sorted, raiseIf_neg (not_not.mpr sequences), ok_bind]
  exact congrArg Except.ok sorted

end Accepted

end

end Chiplog.Projections.Conversation
