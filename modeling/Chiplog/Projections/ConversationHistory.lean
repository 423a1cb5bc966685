import Chiplog.Projections.ConversationStore

namespace Chiplog.Projections.Conversation

open Chiplog.Data Chiplog.Platform.Sqlite

/-! The accepted conversation over whole runs.

A publication moves the head of its tenant and no other.  So a command whose head is still the
current one has seen the conversation as it is, whatever was read before, and a commit adds the
next entry. -/

section

variable {ι : Type} [Hashlib] [ConversationJson ι] {tables : Tables} {tenantId : String}

/-! ### Publications -/

/-- What a publication leaves of a tenant: the same records under the same head, or a later head. -/
def Moved (tables after : Tables) (tenantId : String) : Prop :=
  (after.head tenantId = tables.head tenantId ∧
    conversationRows after tenantId = conversationRows tables tenantId) ∨
      tables.head tenantId < after.head tenantId

omit [Hashlib] in
theorem wrote_moved {tables after : Tables} {command : PhysicalPublicationProjection}
    (wrote : tables.Wrote command (tables.head command.tenantId + 1) after) (tenantId : String) :
    Moved tables after tenantId := by
  have head := wrote.head tenantId
  by_cases own : tenantId = command.tenantId
  · rw [if_pos own] at head
    refine .inr ?_
    rw [head, own]
    exact Nat.lt_succ_self _
  · rw [if_neg own] at head
    refine .inl ⟨head, ?_⟩
    have added : (command.records.map (fun record => (⟨command.tenantId, record.recordId,
        record.owner, record.schemaId, record.canonicalBytes, tables.head command.tenantId + 1⟩ :
          RecordRow))).filter (fun row => row.tenantId = tenantId) = [] := by
      rw [List.filter_eq_nil_iff]
      intro row member
      obtain ⟨record, _, rfl⟩ := List.mem_map.mp member
      rw [decide_eq_true_eq]
      exact Ne.symm own
    rw [conversationRows, conversationRows, wrote.records, List.filter_append, added,
      List.append_nil]

theorem publish_moved (surroundings : Surroundings) (tables : Tables)
    (command : PhysicalPublicationCommand) (tenantId : String) :
    Moved tables (publish surroundings tables command).2 tenantId := by
  rcases publish_written surroundings tables command with same | ⟨_, _, written⟩
  · rw [same]
    exact .inl ⟨rfl, rfl⟩
  · exact wrote_moved (write_ok written) tenantId

theorem publish_numbered (numbered : tables.Numbered)
    (surroundings : Surroundings) (command : PhysicalPublicationCommand) :
    (publish surroundings tables command).2.Numbered := by
  rcases publish_written surroundings tables command with same | ⟨prepared, _, written⟩
  · rw [same]
    exact numbered
  · apply (write_ok written).numbered ?_ numbered
    intro empty
    exact (prepare_admissible prepared).1
      (by rw [PhysicalPublicationProjection.recordIds, empty, List.map_nil])

theorem publish_fences (surroundings : Surroundings) (tables : Tables)
    (command : PhysicalPublicationCommand) :
    (publish surroundings tables command).2.fences = tables.fences := by
  rcases publish_written surroundings tables command with same | ⟨_, _, written⟩
  · rw [same]
  · exact (write_ok written).fences

omit [Hashlib] in
/-- The commits of a conversation lie under the head. -/
theorem commit_le_head (numbered : tables.Numbered)
    {row : RecordRow} (member : row ∈ conversationRows tables tenantId) :
    row.commitSequence ≤ tables.head tenantId := by
  obtain ⟨stored, own, _⟩ := mem_conversationRows.mp member
  exact ((numbered tenantId).2 row.commitSequence |>.mp ⟨row, stored, own, rfl⟩).2

omit [Hashlib] in
/-- The largest commit of what was read is the head at that moment. -/
theorem headOf_tenantRecords (numbered : tables.Numbered) (tenantId : String) :
    R3ConversationStore.headOf (tenantRecords tables tenantId) = tables.head tenantId := by
  have commits (sequence : Nat) :
      sequence ∈ (tenantRecords tables tenantId).map (·.commitSequence) ↔
        1 ≤ sequence ∧ sequence ≤ tables.head tenantId := by
    rw [← (numbered tenantId).2 sequence, List.mem_map]
    simp only [mem_tenantRecords, and_assoc]
  unfold R3ConversationStore.headOf
  cases largest : ((tenantRecords tables tenantId).map (·.commitSequence)).max? with
  | none =>
      have empty := List.max?_eq_none_iff.mp largest
      rw [empty] at commits
      by_contra positive
      have head : tables.head tenantId ≠ 0 := fun zero => positive zero.symm
      exact List.not_mem_nil ((commits (tables.head tenantId)).mpr ⟨by omega, Nat.le_refl _⟩)
  | some sequence =>
      obtain ⟨member, above⟩ := List.max?_eq_some_iff.mp largest
      obtain ⟨first, last⟩ := (commits sequence).mp member
      exact Nat.le_antisymm last (above _ ((commits _).mpr ⟨by omega, Nat.le_refl _⟩))

/-! ### One entry more -/

/-- A publication of other owners leaves the conversation alone. -/
theorem Accepted.unrelated {tables after : Tables} {command : PhysicalPublicationProjection}
    {commitSequence : Nat} {accepted : List (ConversationEntry ι)}
    (conversation : Accepted tables tenantId accepted)
    (wrote : tables.Wrote command commitSequence after)
    (foreign : ∀ record ∈ command.records, record.owner ≠ conversationOwner) :
    Accepted after tenantId accepted := by
  have same : conversationRows after tenantId = conversationRows tables tenantId := by
    have added : ((command.records.map (fun record => (⟨command.tenantId, record.recordId,
        record.owner, record.schemaId, record.canonicalBytes, commitSequence⟩ :
          RecordRow))).filter (fun row => row.tenantId = tenantId)).filter
            (fun row => row.owner = conversationOwner) = [] := by
      rw [List.filter_eq_nil_iff]
      intro row member
      obtain ⟨record, inside, rfl⟩ := List.mem_map.mp (List.mem_filter.mp member).1
      rw [decide_eq_true_eq]
      exact foreign record inside
    rw [conversationRows, conversationRows, wrote.records, List.filter_append, List.filter_append,
      added, List.append_nil]
  exact ⟨same ▸ conversation.rows, conversation.sequences, same ▸ conversation.commits⟩

/-- The row of an entry. -/
def entryRow (entry : ConversationEntry ι) (commitSequence : Nat) : RecordRow :=
  ⟨entry.tenantId, entry.entryId, conversationOwner, conversationSchema, encoded entry,
    commitSequence⟩

theorem holds_entryRow {entry : ConversationEntry ι} (commitSequence : Nat)
    (named : entry.conversationId = conversationId entry.tenantId) :
    Holds entry.tenantId (entryRow entry commitSequence) entry :=
  ⟨rfl, rfl, rfl, rfl, named⟩

/-- The commit of the next entry. -/
theorem Accepted.next {tables after : Tables} {accepted : List (ConversationEntry ι)}
    {command : PhysicalPublicationProjection} {entry : ConversationEntry ι}
    (numbered : tables.Numbered) (conversation : Accepted tables entry.tenantId accepted)
    (wrote : tables.Wrote command (tables.head command.tenantId + 1) after)
    (own : command.tenantId = entry.tenantId) (single : command.records = [entryRecord entry])
    (named : entry.conversationId = conversationId entry.tenantId)
    (sequence : (entry.sequence : Nat) = accepted.length + 1) :
    Accepted after entry.tenantId (accepted ++ [entry]) := by
  have added : command.records.map (fun record => (⟨command.tenantId, record.recordId,
      record.owner, record.schemaId, record.canonicalBytes, tables.head command.tenantId + 1⟩ :
        RecordRow)) = [entryRow entry (tables.head entry.tenantId + 1)] := by
    rw [single, own, List.map_singleton, entryRow, entryRecord]
  have holds := holds_entryRow (tables.head entry.tenantId + 1) named
  have tenant : (entryRow entry (tables.head entry.tenantId + 1)).tenantId = entry.tenantId := rfl
  have owner : (entryRow entry (tables.head entry.tenantId + 1)).owner = conversationOwner := rfl
  have commit : (entryRow entry (tables.head entry.tenantId + 1)).commitSequence =
      tables.head entry.tenantId + 1 := rfl
  generalize entryRow entry (tables.head entry.tenantId + 1) = row at added holds tenant owner commit
  have rows : conversationRows after entry.tenantId =
      conversationRows tables entry.tenantId ++ [row] := by
    have kept : ([row].filter (fun row => row.tenantId = entry.tenantId)).filter
        (fun row => row.owner = conversationOwner) = [row] := by
      rw [List.filter_cons, if_pos (decide_eq_true tenant), List.filter_nil, List.filter_cons,
        if_pos (decide_eq_true owner), List.filter_nil]
    rw [conversationRows, conversationRows, wrote.records, added, List.filter_append,
      List.filter_append, kept]
  constructor
  · rw [rows]
    exact List.rel_append conversation.rows (.cons holds .nil)
  · rw [List.map_append, conversation.sequences, List.map_singleton, sequence, List.length_append,
      List.length_singleton, List.range'_concat, Nat.add_comm 1]
    simp [Nat.add_comm]
  · rw [rows, List.pairwise_append]
    refine ⟨conversation.commits, List.pairwise_singleton _ _, ?_⟩
    intro row member other own
    rw [List.mem_singleton.mp own, commit]
    exact Nat.lt_succ_of_le (commit_le_head numbered member)

/-- A publication of another tenant. -/
theorem Accepted.other {tables after : Tables} {command : PhysicalPublicationProjection}
    {accepted : List (ConversationEntry ι)}
    (conversation : Accepted tables tenantId accepted)
    (wrote : tables.Wrote command (tables.head command.tenantId + 1) after)
    (apart : tenantId ≠ command.tenantId) : Accepted after tenantId accepted := by
  rcases wrote_moved wrote tenantId with ⟨_, same⟩ | later
  · exact ⟨same ▸ conversation.rows, conversation.sequences, same ▸ conversation.commits⟩
  · rw [wrote.head, if_neg apart] at later
    exact absurd later (Nat.lt_irrefl _)

theorem Accepted.last {accepted : List (ConversationEntry ι)}
    (conversation : Accepted tables tenantId accepted) :
    (accepted.getLast?.map (fun entry : ConversationEntry ι => (entry.sequence : Nat))).getD 0 =
      accepted.length := by
  rw [← List.getLast?_map, conversation.sequences, List.getLast?_range']
  split
  · rename_i empty
    exact empty.symm
  · rw [Option.getD_some]
    omega

/-- The history that an append reads. -/
theorem Accepted.history
    {accepted : List (ConversationEntry ι)} (conversation : Accepted tables tenantId accepted)
    (numbered : tables.Numbered) (fits : Fits tables) :
    committedBy tables tenantId accepted (2 ^ 63 - 1) = accepted := by
  have every : ∀ pair ∈ committed tables tenantId accepted, (pair.1 : Int) ≤ 2 ^ 63 - 1 := by
    intro pair member
    obtain ⟨row, inside, same⟩ := List.mem_map.mp (List.of_mem_zip member).1
    have under := commit_le_head numbered inside
    have bound := fits tenantId
    omega
  rw [committedBy, upTo_all every, conversation.committed_entries]

/-- What a read that succeeded has returned. -/
theorem Accepted.entries_returned {accepted history : List (ConversationEntry ι)}
    (conversation : Accepted tables tenantId accepted) {store : R3ConversationStore}
    {valid : Except ConversationError Unit} {frontier : Int}
    (returned : store.entries valid tables tenantId frontier = .ok history) :
    history = committedBy tables tenantId accepted frontier := by
  have whole := returned
  simp only [R3ConversationStore.entries, bind_ok, raiseIf_ok] at whole
  obtain ⟨⟨⟩, passed, _, own, rows, guarded, _⟩ := whole
  have own := not_not.mp own
  cases fence : tables.fences.get? tenantId with
  | none =>
      rw [guardedRecords, fence] at guarded
      cases guarded
  | some installed =>
      obtain ⟨generation, installed⟩ := installed
      cases read : guardedRecords tables tenantId store.context.deletionFenceHead
          store.fenceFrontier with
      | error error =>
          rw [read] at guarded
          cases guarded
      | ok records =>
          rw [guardedRecords, fence] at read
          simp only [bind_ok, raiseIf_ok] at read
          obtain ⟨_, same, _, covers, _⟩ := read
          rw [not_not.mp same] at fence
          rw [passed, conversation.entries_ok own.symm fence (not_lt.mp covers)] at returned
          exact (Except.ok.inj returned).symm

/-! ### Invariant -/

/-- A command of an append, which fits the conversation while its head is the current one. -/
def Prepared (ι : Type) [ConversationJson ι] (tables : Tables)
    (command : PhysicalPublicationCommand) : Prop :=
  ∃ (store : R3ConversationStore) (guard : Except SqliteError (Option Refusal)) (head : Nat)
    (entry : ConversationEntry ι), command = store.command guard head entry ∧
      entry.conversationId = conversationId entry.tenantId ∧ head ≤ tables.head entry.tenantId ∧
        (head = tables.head entry.tenantId →
          (entry.sequence : Nat) = (conversationRows tables entry.tenantId).length + 1)

theorem Prepared.moved {tables after : Tables} {command : PhysicalPublicationCommand}
    (prepared : Prepared ι tables command) (moved : ∀ tenantId, Moved tables after tenantId) :
    Prepared ι after command := by
  obtain ⟨store, guard, head, entry, same, named, earlier, current⟩ := prepared
  refine ⟨store, guard, head, entry, same, named, ?_⟩
  rcases moved entry.tenantId with ⟨heads, rows⟩ | later
  · rw [heads, rows]
    exact ⟨earlier, current⟩
  · exact ⟨by omega, fun equal => by omega⟩

structure Consistent (state : Writers ι) : Prop where
  numbered : state.tables.Numbered
  fits : Fits state.tables
  unique : state.tables.Unique
  accepted : ∀ tenantId, ∃ entries : List (ConversationEntry ι),
    Accepted state.tables tenantId entries
  reading : ∀ call ∈ state.reading, call.entry.conversationId =
    conversationId call.entry.tenantId ∧
      R3ConversationStore.headOf call.rows ≤ state.tables.head call.entry.tenantId
  submitted : ∀ command ∈ state.submitted, Prepared ι state.tables command

theorem fresh_consistent (fences : Dict String (String × Int)) :
    Consistent (Writers.fresh fences : Writers ι) := by
  refine ⟨fenced_numbered fences, ?_, List.nodup_nil, ?_, ?_, ?_⟩
  · intro tenantId
    have zero : (Writers.fresh fences : Writers ι).tables.head tenantId = 0 := rfl
    rw [zero]
    decide
  · exact fun tenantId => ⟨[], .nil, rfl, .nil⟩
  · exact fun call member => absurd member List.not_mem_nil
  · exact fun command member => absurd member List.not_mem_nil

omit [Hashlib] [ConversationJson ι] in
theorem begin_ok {store : R3ConversationStore} {valid : Except ConversationError Unit}
    {entry : ConversationEntry ι} {rows : List RecordRow}
    (returned : store.begin valid tables entry = .ok rows) :
    entry.conversationId = conversationId entry.tenantId ∧
      rows = tenantRecords tables entry.tenantId := by
  simp only [R3ConversationStore.begin, bind_ok, raiseIf_ok] at returned
  obtain ⟨_, _, _, matched, guarded⟩ := returned
  refine ⟨not_not.mp (fun differs => matched (.inr differs)), ?_⟩
  cases read : guardedRecords tables entry.tenantId store.context.deletionFenceHead
      store.fenceFrontier with
  | error error =>
      rw [read] at guarded
      cases guarded
  | ok records =>
      rw [read] at guarded
      obtain rfl : records = rows := Except.ok.inj guarded
      unfold guardedRecords at read
      split at read
      · cases read
      · simp only [bind_ok, pure_ok] at read
        obtain ⟨_, _, _, _, same⟩ := read
        exact same.symm

theorem decide_submits {store : R3ConversationStore} {valid : Except ConversationError Unit}
    {guard : Except SqliteError (Option Refusal)} {rows : List RecordRow}
    {entry : ConversationEntry ι} {command : PhysicalPublicationCommand}
    (returned : store.decide valid guard rows tables entry = .ok (.submit command)) :
    ∃ history : List (ConversationEntry ι),
      store.entries valid tables entry.tenantId (2 ^ 63 - 1) = .ok history ∧
      (entry.sequence : Nat) = (history.getLast?.map (fun entry : ConversationEntry ι =>
        (entry.sequence : Nat))).getD 0 + 1 ∧
      command = store.command guard (R3ConversationStore.headOf rows) entry := by
  simp only [R3ConversationStore.decide, bind_ok] at returned
  obtain ⟨history, read, returned⟩ := returned
  refine ⟨history, read, ?_⟩
  split at returned
  · cases returned
  · split at returned
    · cases returned
    · rename_i next
      cases returned
      exact ⟨not_not.mp next, rfl⟩

namespace Consistent

variable {state after : Writers ι}

/-- What any publication keeps. -/
theorem publish (consistent : Consistent state) {surroundings : Surroundings}
    {command : PhysicalPublicationCommand}
    (fits : Fits (Platform.Sqlite.publish surroundings state.tables command).2)
    (accepted : ∀ tenantId, ∃ entries : List (ConversationEntry ι),
      Accepted (Platform.Sqlite.publish surroundings state.tables command).2 tenantId entries) :
    Consistent
      { state with tables := (Platform.Sqlite.publish surroundings state.tables command).2 } := by
  have moved := publish_moved surroundings state.tables command
  refine ⟨publish_numbered consistent.numbered _ _, fits, publish_unique consistent.unique _ _,
    accepted, ?_, fun other member => (consistent.submitted other member).moved moved⟩
  intro call member
  obtain ⟨named, earlier⟩ := consistent.reading call member
  refine ⟨named, earlier.trans ?_⟩
  rcases moved call.entry.tenantId with ⟨same, _⟩ | later
  · exact Nat.le_of_eq same.symm
  · exact Nat.le_of_lt later

theorem step (consistent : Consistent state) (step : Step state after) : Consistent after := by
  cases step with
  | @begin store entry valid rows returned =>
      obtain ⟨named, rfl⟩ := begin_ok returned
      refine ⟨consistent.numbered, consistent.fits, consistent.unique, consistent.accepted, ?_,
        consistent.submitted⟩
      intro call member
      rcases List.mem_cons.mp member with rfl | earlier
      · exact ⟨named, Nat.le_of_eq (headOf_tenantRecords consistent.numbered _)⟩
      · exact consistent.reading call earlier
  | @decide call valid guard command member returned =>
      obtain ⟨named, earlier⟩ := consistent.reading call member
      obtain ⟨history, read, next, rfl⟩ := decide_submits returned
      obtain ⟨entries, conversation⟩ := consistent.accepted call.entry.tenantId
      refine ⟨consistent.numbered, consistent.fits, consistent.unique, consistent.accepted,
        consistent.reading, ?_⟩
      intro other among
      rcases List.mem_cons.mp among with rfl | before
      · refine ⟨call.store, guard, _, call.entry, rfl, named, earlier, fun _ => ?_⟩
        rw [next, conversation.entries_returned read,
          conversation.history consistent.numbered consistent.fits, conversation.last,
          conversation.length_eq]
      · exact consistent.submitted other before
  | @publish command member surroundings observer fits =>
      refine consistent.publish fits ?_
      intro tenantId
      obtain ⟨entries, conversation⟩ := consistent.accepted tenantId
      obtain ⟨store, guard, head, entry, rfl, named, _, current⟩ :=
        consistent.submitted command member
      rcases publish_written surroundings state.tables
        { store.command guard head entry with decisionGuard := observer } with
          same | ⟨_, expected, written⟩
      · rw [same]
        exact ⟨entries, conversation⟩
      · have wrote := write_ok written
        have head : head = state.tables.head entry.tenantId := (Int.ofNat_inj.mp expected).symm
        by_cases own : tenantId = entry.tenantId
        · subst own
          refine ⟨entries ++ [entry],
            conversation.next consistent.numbered wrote rfl rfl named ?_⟩
          rw [current head, conversation.length_eq]
        · exact ⟨entries, conversation.other wrote own⟩
  | @foreign command unrelated surroundings fits =>
      refine consistent.publish fits ?_
      intro tenantId
      obtain ⟨entries, conversation⟩ := consistent.accepted tenantId
      rcases publish_written surroundings state.tables command with same | ⟨_, _, written⟩
      · rw [same]
        exact ⟨entries, conversation⟩
      · exact ⟨entries, conversation.unrelated (write_ok written) unrelated⟩

theorem steps (consistent : Consistent state) (run : Steps state after) : Consistent after := by
  induction run with
  | refl => exact consistent
  | tail _ last ih => exact ih.step last

end Consistent

theorem publish_rows (surroundings : Surroundings) (tables : Tables)
    (command : PhysicalPublicationCommand) (tenantId : String) :
    conversationRows tables tenantId <+:
      conversationRows (publish surroundings tables command).2 tenantId := by
  rcases publish_written surroundings tables command with same | ⟨_, _, written⟩
  · rewrite [same]
    exact List.prefix_refl _
  · rw [conversationRows, conversationRows, (write_ok written).records, List.filter_append,
      List.filter_append]
    exact List.prefix_append _ _

theorem steps_rows {state after : Writers ι} (run : Steps state after) (tenantId : String) :
    conversationRows state.tables tenantId <+: conversationRows after.tables tenantId := by
  induction run with
  | refl => exact List.prefix_refl _
  | tail _ last ih =>
      refine ih.trans ?_
      cases last with
      | begin | decide => exact List.prefix_refl _
      | publish | foreign => exact publish_rows _ _ _ tenantId

theorem steps_fences {state after : Writers ι} (run : Steps state after) :
    after.tables.fences = state.tables.fences := by
  induction run with
  | refl => rfl
  | tail _ last ih =>
      rw [← ih]
      cases last with
      | begin | decide => rfl
      | publish | foreign => exact publish_fences _ _ _

/-- Longer rows hold longer conversations. -/
theorem holds_prefix {rows more : List RecordRow}
    {first second : List (ConversationEntry ι)} (start : rows <+: more)
    (held : List.Forall₂ (Holds tenantId) rows first)
    (later : List.Forall₂ (Holds tenantId) more second) : first <+: second := by
  induction held generalizing more second with
  | nil => exact List.nil_prefix
  | @cons row entry rows entries holds _ ih =>
      obtain ⟨rest, rfl⟩ := start
      cases later with
      | @cons _ other _ others also rest =>
          obtain rfl : entry = other := encoded_inj (holds.bytes.symm.trans also.bytes)
          exact (List.prefix_cons_inj _).mpr (ih (List.prefix_append _ _) rest)

/-! ### Answers -/

theorem holds_row {rows : List RecordRow}
    {accepted : List (ConversationEntry ι)} (held : List.Forall₂ (Holds tenantId) rows accepted)
    {entry : ConversationEntry ι} (member : entry ∈ accepted) :
    ∃ row ∈ rows, Holds tenantId row entry := by
  induction held with
  | nil => cases member
  | cons holds _ ih =>
      rcases List.mem_cons.mp member with rfl | later
      · exact ⟨_, List.mem_cons_self, holds⟩
      · obtain ⟨row, inside, own⟩ := ih later
        exact ⟨row, List.mem_cons_of_mem _ inside, own⟩

theorem holds_entry {rows : List RecordRow}
    {accepted : List (ConversationEntry ι)} (held : List.Forall₂ (Holds tenantId) rows accepted)
    {row : RecordRow} (member : row ∈ rows) : ∃ entry ∈ accepted, Holds tenantId row entry := by
  induction held with
  | nil => cases member
  | cons holds _ ih =>
      rcases List.mem_cons.mp member with rfl | later
      · exact ⟨_, List.mem_cons_self, holds⟩
      · obtain ⟨entry, inside, own⟩ := ih later
        exact ⟨entry, List.mem_cons_of_mem _ inside, own⟩

omit [Hashlib] in
/-- A record id of a tenant names one row. -/
theorem row_of_id (unique : tables.Unique) {first second : RecordRow}
    (member : first ∈ tables.records) (other : second ∈ tables.records)
    (tenant : first.tenantId = second.tenantId) (record : first.recordId = second.recordId) :
    first = second :=
  List.inj_on_of_nodup_map unique member other (Prod.ext tenant record)

omit [Hashlib] in
/-- The row that an append finds under an id of the tenant. -/
theorem find_stored (unique : tables.Unique)
    {row : RecordRow} (member : row ∈ tables.records) (own : row.tenantId = tenantId) :
    (tenantRecords tables tenantId).find? (fun other => other.recordId = row.recordId) =
      some row := by
  cases found : (tenantRecords tables tenantId).find?
      (fun other => other.recordId = row.recordId) with
  | none =>
      have absent := List.find?_eq_none.mp found row (mem_tenantRecords.mpr ⟨member, own⟩)
      simp at absent
  | some other =>
      have same : other.recordId = row.recordId := by simpa using List.find?_some found
      obtain ⟨stored, tenant⟩ := mem_tenantRecords.mp (List.mem_of_find?_eq_some found)
      rw [row_of_id unique stored member (tenant.trans own.symm) same]

/-- What an append answers that has read the records of one state and the history of a later
one. -/
theorem append_answers {reading : Tables} {store : R3ConversationStore}
    {entry : ConversationEntry ι} {history : List (ConversationEntry ι)}
    {call : R3ConversationStore.Interleaving} {existing : Option RecordRow}
    (began : store.begin call.first call.reading entry =
      .ok (tenantRecords reading entry.tenantId))
    (read : store.entries call.second call.deciding entry.tenantId (2 ^ 63 - 1) = .ok history)
    (found : (tenantRecords reading entry.tenantId).find?
      (fun row => row.recordId = entry.entryId) = existing) :
    (∀ row, existing = some row → store.append call entry =
      (.ok (if row.owner = conversationOwner ∧ row.canonicalBytes = encoded entry then .replay
        else .conflict), call.publishing)) ∧
    (existing = none → (entry.sequence : Nat) ≠ (history.getLast?.map
      (fun entry : ConversationEntry ι => (entry.sequence : Nat))).getD 0 + 1 →
        store.append call entry = (.ok .conflict, call.publishing)) := by
  constructor
  · intro row same
    rw [same] at found
    simp only [R3ConversationStore.append, began, ok_bind, R3ConversationStore.decide, read, found]
  · intro same apart
    rw [same] at found
    simp only [R3ConversationStore.append, began, ok_bind, R3ConversationStore.decide, read, found]
    rw [if_pos apart]

/-- After any steps of any writers, the stored entries are numbered from one in the order of their
commits; every read returns the entries committed by its frontier, which only grow; and an append
of what is stored, or of anything but the next entry, answers and leaves the store alone, whatever
happens between its reads and after them. -/
theorem accepted_conversation {fences : Dict String (String × Int)} {state : Writers ι}
    (run : Steps (Writers.fresh fences) state) {store : R3ConversationStore} {installed : Int}
    (fenced : fences.get? store.context.tenantId =
      some (store.context.deletionFenceHead, installed))
    (covers : store.fenceFrontier ≤ installed) :
    ∃ accepted : List (ConversationEntry ι),
      Accepted state.tables store.context.tenantId accepted ∧
      (∀ frontier, store.entries (.ok ()) state.tables store.context.tenantId frontier =
        .ok (committedBy state.tables store.context.tenantId accepted frontier)) ∧
      (∀ frontier later, frontier ≤ later →
        committedBy state.tables store.context.tenantId accepted frontier <+:
          committedBy state.tables store.context.tenantId accepted later) ∧
      ∀ after, Steps state after → ∃ longer : List (ConversationEntry ι),
        Accepted after.tables store.context.tenantId longer ∧ accepted <+: longer ∧
        ∀ (call : R3ConversationStore.Interleaving) (entry : ConversationEntry ι),
          call.first = .ok () → call.second = .ok () → call.reading = state.tables →
          call.deciding = after.tables → entry.tenantId = store.context.tenantId →
          entry.conversationId = conversationId entry.tenantId →
          (entry ∈ accepted → store.append call entry = (.ok .replay, call.publishing)) ∧
          (entry ∉ accepted → (∃ row ∈ state.tables.records, row.tenantId = entry.tenantId ∧
              row.recordId = entry.entryId) →
            store.append call entry = (.ok .conflict, call.publishing)) ∧
          ((∀ row ∈ state.tables.records, row.tenantId = entry.tenantId →
              row.recordId ≠ entry.entryId) →
            (entry.sequence : Nat) ≠ longer.length + 1 →
              store.append call entry = (.ok .conflict, call.publishing)) := by
  have consistent := (fresh_consistent fences).steps run
  obtain ⟨accepted, conversation⟩ := consistent.accepted store.context.tenantId
  have here : state.tables.fences.get? store.context.tenantId =
      some (store.context.deletionFenceHead, installed) := by
    rw [steps_fences run]
    exact fenced
  refine ⟨accepted, conversation, fun _ => conversation.entries_ok rfl here covers,
    fun _ _ before => upTo_prefix conversation.committed_commits before, ?_⟩
  intro after rest
  have consistentAfter := consistent.steps rest
  obtain ⟨longer, grown⟩ := consistentAfter.accepted store.context.tenantId
  refine ⟨longer, grown,
    holds_prefix (steps_rows rest store.context.tenantId) conversation.rows grown.rows, ?_⟩
  intro call entry first second reading deciding own named
  have there : after.tables.fences.get? store.context.tenantId =
      some (store.context.deletionFenceHead, installed) := by
    rw [steps_fences rest]
    exact here
  have began : store.begin call.first call.reading entry =
      .ok (tenantRecords state.tables entry.tenantId) := by
    have matched : ¬ (entry.tenantId ≠ store.context.tenantId ∨
        entry.conversationId ≠ conversationId entry.tenantId) := by
      simp [own, named]
    rw [R3ConversationStore.begin, first, reading, ok_bind, raiseIf_neg matched, ok_bind, own,
      guardedRecords, here]
    dsimp only
    rw [raiseIf_neg (not_not.mpr rfl), ok_bind, raiseIf_neg (not_lt.mpr covers), ok_bind]
    rfl
  have read : store.entries call.second call.deciding entry.tenantId (2 ^ 63 - 1) =
      .ok longer := by
    rw [second, deciding, own, grown.entries_ok rfl there covers,
      grown.history consistentAfter.numbered consistentAfter.fits]
  refine ⟨?_, ?_, ?_⟩
  · intro member
    obtain ⟨row, stored, holds⟩ := holds_row conversation.rows member
    obtain ⟨inside, tenant, owner⟩ := mem_conversationRows.mp stored
    have found := find_stored consistent.unique inside (tenant.trans own.symm)
    rw [holds.record] at found
    rw [(append_answers began read found).1 row rfl, if_pos ⟨owner, holds.bytes⟩]
  · intro absent taken
    obtain ⟨row, inside, tenant, record⟩ := taken
    have found := find_stored consistent.unique inside tenant
    rw [record] at found
    have foreign : ¬ (row.owner = conversationOwner ∧ row.canonicalBytes = encoded entry) := by
      intro same
      obtain ⟨other, member, holds⟩ := holds_entry conversation.rows
        (mem_conversationRows.mpr ⟨inside, tenant.trans own, same.1⟩)
      rw [encoded_inj (same.2.symm.trans holds.bytes)] at absent
      exact absent member
    rw [(append_answers began read found).1 row rfl, if_neg foreign]
  · intro free apart
    have found : (tenantRecords state.tables entry.tenantId).find?
        (fun row => row.recordId = entry.entryId) = none := by
      rw [List.find?_eq_none]
      intro row member
      obtain ⟨inside, tenant⟩ := mem_tenantRecords.mp member
      simpa using free row inside tenant
    apply (append_answers began read found).2 rfl
    rw [grown.last]
    exact apart

end

/-! ### A first entry -/

/-- An entry as it is written down here, without its envelope. -/
def dumpPlain (entry : ConversationEntry Unit) : String :=
  (toJson ((entry.tenantId, entry.conversationId), (entry.entryId, entry.sequence),
    (entry.originChannelId, entry.visibleChannels), decide (entry.role = .principal),
      entry.acceptedBytes.map UInt8.toNat)).dumps

theorem dumpPlain_inj {entry other : ConversationEntry Unit}
    (same : dumpPlain entry = dumpPlain other) : entry = other := by
  have values := Json.Legible.read _ _ (Json.encode_inj (congrArg utf8 same))
  simp only [Prod.mk.injEq] at values
  obtain ⟨⟨tenant, conversation⟩, ⟨record, sequence⟩, ⟨origin, visible⟩, role, bytes⟩ := values
  have raw := List.map_injective_iff.mpr (fun _ _ => UInt8.toNat_inj.mp) bytes
  have roles : entry.role = other.role := by
    revert role
    cases entry.role <;> cases other.role <;> simp
  cases entry with
  | mk =>
      cases other with
      | mk =>
          simp_all

open Classical in
@[reducible] noncomputable def plainJson : ConversationJson Unit where
  loads := jsonLoads
  reads := jsonLoads_reads
  modelDumpJson := dumpPlain
  modelValidateJson text :=
    if known : ∃ entry, dumpPlain entry = text then some known.choose else none
  validate_dump entry := by
    have known : ∃ other, dumpPlain other = dumpPlain entry := ⟨entry, rfl⟩
    rw [dif_pos known, dumpPlain_inj known.choose_spec]

def firstFences : Dict String (String × Int) := Dict.empty.set "tenant" ("generation", 4)

def firstStore : R3ConversationStore := ⟨⟨"tenant", "generation"⟩, 4⟩

def firstEntry : ConversationEntry Unit where
  tenantId := "tenant"
  conversationId := conversationId "tenant"
  entryId := "entry"
  sequence := ⟨1, Nat.one_pos⟩
  originChannelId := "channel"
  visibleChannels := ["channel"]
  role := .principal
  acceptedBytes := []
  envelope := ()

/-- The answer to it. -/
def secondEntry : ConversationEntry Unit :=
  { firstEntry with
    entryId := "answer"
    sequence := ⟨2, Nat.two_pos⟩
    role := .assistant }

/-- A store of the conversation contract, with nothing mounted. -/
def firstSurroundings : Surroundings where
  writer := .ok ()
  recordPairs := [(conversationOwner, conversationSchema)]
  resolver := none
  readyBundle := .ok ()
  authoritySnapshot := fun _ => .ok []

section

variable [Hashlib] [ConversationJson Unit]

def entryCommand (head : Nat) (entry : ConversationEntry Unit) : PhysicalPublicationCommand :=
  firstStore.command (.ok none) head entry

/-- The tables after one more entry. -/
def entryTables (tables : Tables) (sequence : Nat) (entry : ConversationEntry Unit) : Tables where
  heads := tables.heads.set entry.tenantId sequence
  publications := tables.publications ++ [⟨entry.tenantId, "conversation.accept", entry.entryId,
    (sha256 (encoded entry)).text, sequence, joinLines [entry.entryId]⟩]
  records := tables.records ++ [entryRow entry sequence]
  fences := tables.fences

/-- Tables of the tenant that an entry is new to. -/
structure Awaits (tables : Tables) (head : Nat) (entry : ConversationEntry Unit) : Prop where
  fences : tables.fences = firstFences
  tenant : entry.tenantId = "tenant"
  short : entry.entryId.toList.length < deliveryWorkRecordPrefix.toList.length
  head : tables.head entry.tenantId = head
  heads : ∀ tenantId, tables.head tenantId ≤ 1
  publications : ∀ row ∈ tables.publications, row.idempotencyKey ≠ entry.entryId
  records : ∀ row ∈ tables.records, row.recordId ≠ entry.entryId

variable {tables : Tables} {head : Nat} {entry : ConversationEntry Unit}

theorem entryCommand_prepared (awaits : Awaits tables head entry) :
    prepare firstSurroundings tables (entryCommand head entry) = .ok true := by
  have schema : ¬ conversationSchema = deliveryWorkSchema := by decide
  have kind : "conversation.accept" ∉ deliveryWorkOperations := by decide
  have relevant : ((entryCommand head entry).records.filter (fun record =>
      record.schemaId = deliveryWorkSchema || record.reserved)) = [] := by
    rw [List.filter_eq_nil_iff]
    intro record member
    rw [List.mem_singleton.mp member]
    have reserved : (entryRecord entry).reserved = false := by
      rw [PhysicalRecord.reserved, Bool.eq_false_iff, ne_eq, List.isPrefixOf_iff_prefix]
      exact fun start => Nat.not_le.mpr awaits.short start.length_le
    rw [reserved, Bool.or_false, decide_eq_true_eq]
    exact schema
  have closed : requireClosedDeliveryWorkPublication
      (entryCommand head entry).toPhysicalPublicationProjection = .ok () := by
    simp only [requireClosedDeliveryWorkPublication, relevant]
    exact if_pos ⟨trivial, kind⟩
  have pair : ¬ ((entryRecord entry).owner, (entryRecord entry).schemaId) ∉
      firstSurroundings.recordPairs := not_not.mpr List.mem_cons_self
  have print : ¬ (entryRecord entry).fingerprint ≠
      (sha256 (entryRecord entry).canonicalBytes).text := not_not.mpr rfl
  have checked : forEach (checkRecord firstSurroundings.recordPairs)
      (entryCommand head entry).records = .ok () := by
    refine forEach_ok.mpr ?_
    intro record member
    rw [List.mem_singleton.mp member, checkRecord, raiseIf_neg pair, ok_bind, raiseIf_neg print]
  have local_ : ¬ ((∃ record ∈ (entryCommand head entry).records,
      (record.owner, record.schemaId) ∈ [h1LocalIntentPair, h1ScopedIntentPair]) ∧
        (entryCommand head entry).operationKind ≠ completeAcceptanceV2) := by
    intro wrong
    obtain ⟨record, member, own⟩ := wrong.1
    rw [List.mem_singleton.mp member] at own
    revert own
    change (conversationOwner, conversationSchema) ∉ [h1LocalIntentPair, h1ScopedIntentPair]
    decide
  have ids : ¬ ((entryCommand head entry).recordIds = [] ∨
      ¬ (entryCommand head entry).recordIds.Nodup) := by
    have single : (entryCommand head entry).recordIds = [entry.entryId] := rfl
    simp [single]
  have plain : (requiresOwnerPublicationResolver (entryCommand head entry).operationKind &&
      firstSurroundings.resolver.isNone) = false := by
    change (requiresOwnerPublicationResolver "conversation.accept" && true) = false
    decide
  have fence : tables.requireFence (entryCommand head entry).tenantId
      (entryCommand head entry).fenceGeneration (entryCommand head entry).minimumFenceFrontier
        (entryCommand head entry).expectedFenceFrontier = .ok () := by
    change tables.requireFence entry.tenantId "generation" 4 4 = .ok ()
    rw [awaits.tenant, Tables.requireFence, awaits.fences]
    decide
  have writer : firstSurroundings.writer = .ok () := rfl
  rw [prepare, writer, ok_bind, closed, ok_bind, raiseIf_neg local_, ok_bind, plain]
  simp only [Bool.false_eq_true, if_false]
  rw [raiseIf_neg ids, ok_bind, checked, ok_bind, fence, ok_bind]

theorem entryCommand_published (awaits : Awaits tables head entry) :
    (publish firstSurroundings tables (entryCommand head entry)).2 =
      entryTables tables (head + 1) entry := by
  have written : tables.write (entryCommand head entry).toPhysicalPublicationProjection (head + 1) =
      .ok (entryTables tables (head + 1) entry) := by
    have records : (entryCommand head entry).records = [entryRecord entry] := rfl
    have fresh : ¬ ∃ row ∈ tables.records, (row.tenantId, row.recordId) =
        ((entryCommand head entry).tenantId, (entryRecord entry).recordId) := by
      rintro ⟨row, member, same⟩
      exact awaits.records row member (congrArg Prod.snd same)
    have unique : ¬ ∃ other ∈ tables.publications,
        (other.tenantId, other.operationKind, other.idempotencyKey) =
          (entry.tenantId, "conversation.accept", entry.entryId) := by
      rintro ⟨row, member, same⟩
      exact awaits.publications row member (congrArg (·.2.2) same)
    rw [Tables.write, records, List.foldlM_cons, insertRecord, raiseIf_neg fresh, ok_bind, ok_bind]
    change insertPublication _ _ >>= _ = _
    rw [insertPublication, raiseIf_neg]
    · rfl
    · exact unique
  have plain : requiresOwnerPublicationResolver (entryCommand head entry).operationKind = false := by
    change requiresOwnerPublicationResolver "conversation.accept" = false
    decide
  have committed : commit firstSurroundings tables (entryCommand head entry) =
      .ok (.commit (entryTables tables (head + 1) entry) (head + 1)) := by
    have current : tables.head (entryCommand head entry).tenantId = head := awaits.head
    have expected : ¬ ((head : Nat) : Int) ≠ (entryCommand head entry).expectedHead :=
      not_not.mpr rfl
    have admitted : admission firstSurroundings tables (entryCommand head entry) = .ok none := rfl
    have decided : decision firstSurroundings (entryTables tables (head + 1) entry)
        (entryCommand head entry) (head + 1) = .ok none := by
      rw [decision, plain]
      rfl
    have ready : firstSurroundings.readyBundle = .ok () := rfl
    have calm : ¬ (entryCommand head entry).fault = .beforeCommit := nofun
    rw [commit, plain, checkIf, if_neg Bool.false_ne_true, ok_bind, ready, ok_bind]
    dsimp only
    rw [current, if_neg expected, admitted, ok_bind]
    dsimp only
    rw [written, ok_bind, decided, ok_bind]
    dsimp only
    rw [raiseIf_neg calm, ok_bind]
  have absent : tables.published (entryCommand head entry).toPhysicalPublicationProjection =
      none := by
    refine List.find?_eq_none.mpr (fun row member same => ?_)
    exact awaits.publications row member (congrArg (·.2.2) (of_decide_eq_true same))
  rw [publish, entryCommand_prepared awaits, transaction, absent, committed]
  rfl

/-- An append up to its commit. -/
theorem entry_steps {rows : List RecordRow} {reading : List (Pending Unit)}
    {submitted : List PhysicalPublicationCommand} (awaits : Awaits tables head entry)
    (began : firstStore.begin (.ok ()) tables entry = .ok rows)
    (decided : firstStore.decide (.ok ()) (.ok none) rows tables entry =
      .ok (.submit (entryCommand head entry))) :
    Steps ⟨tables, reading, submitted⟩ ⟨entryTables tables (head + 1) entry,
      ⟨firstStore, entry, rows⟩ :: reading, entryCommand head entry :: submitted⟩ := by
  have published := entryCommand_published awaits
  have fits : Fits (publish firstSurroundings tables
      { entryCommand head entry with decisionGuard := none }).2 := by
    intro tenantId
    change ((publish firstSurroundings tables (entryCommand head entry)).2.head tenantId : Int) ≤ _
    have own := awaits.heads entry.tenantId
    have other := awaits.heads tenantId
    rw [awaits.head] at own
    rw [Tables.head] at other
    rw [published, Tables.head, entryTables, Dict.get?_set]
    split
    · rw [Option.getD_some]
      omega
    · omega
  have first : Step (⟨tables, reading, submitted⟩ : Writers Unit)
      ⟨tables, ⟨firstStore, entry, rows⟩ :: reading, submitted⟩ := .begin began
  have second : Step (⟨tables, ⟨firstStore, entry, rows⟩ :: reading, submitted⟩ : Writers Unit)
      ⟨tables, ⟨firstStore, entry, rows⟩ :: reading, entryCommand head entry :: submitted⟩ :=
    .decide List.mem_cons_self decided
  have third := @Step.publish Unit _ _ ⟨tables, ⟨firstStore, entry, rows⟩ :: reading,
    entryCommand head entry :: submitted⟩ _ List.mem_cons_self firstSurroundings none fits
  change Step _ ⟨(publish firstSurroundings tables (entryCommand head entry)).2, _, _⟩ at third
  rw [published] at third
  exact ((Relation.ReflTransGen.single first).tail second).tail third

def firstTables : Tables := entryTables (.fenced firstFences) 1 firstEntry

def secondTables : Tables := entryTables firstTables 2 secondEntry

omit [Hashlib] [ConversationJson Unit] in
theorem first_awaits : Awaits (.fenced firstFences) 0 firstEntry :=
  ⟨rfl, rfl, by decide, rfl, fun _ => Nat.zero_le 1, fun _ member => absurd member List.not_mem_nil,
    fun _ member => absurd member List.not_mem_nil⟩

theorem second_awaits : Awaits firstTables 1 secondEntry := by
  have apart : "entry" ≠ "answer" := by decide
  refine ⟨rfl, rfl, by decide, rfl, ?_, ?_, ?_⟩
  · intro tenantId
    rw [Tables.head, firstTables, entryTables, Dict.get?_set]
    split
    · exact Nat.le_refl 1
    · exact Nat.zero_le 1
  · intro row member
    rw [List.mem_singleton.mp member]
    exact apart
  · intro row member
    rw [List.mem_singleton.mp member]
    exact apart

/-- The message and the answer, appended one after the other. -/
theorem both_steps : ∃ reading submitted, Steps (Writers.fresh firstFences : Writers Unit)
    ⟨secondTables, reading, submitted⟩ := by
  have named : ∀ entry : ConversationEntry Unit, entry.tenantId = "tenant" →
      entry.conversationId = conversationId "tenant" →
        ¬ (entry.tenantId ≠ firstStore.context.tenantId ∨
          entry.conversationId ≠ conversationId entry.tenantId) := by
    intro entry tenant conversation
    simp [tenant, conversation, firstStore]
  have installed : firstFences.get? "tenant" = some ("generation", 4) := rfl
  have began : firstStore.begin (.ok ()) (.fenced firstFences) firstEntry = .ok [] := by
    rw [R3ConversationStore.begin, ok_bind, raiseIf_neg (named _ rfl rfl), ok_bind]
    rfl
  have again : firstStore.begin (.ok ()) firstTables secondEntry =
      .ok [entryRow firstEntry 1] := by
    rw [R3ConversationStore.begin, ok_bind, raiseIf_neg (named _ rfl rfl), ok_bind]
    rfl
  have empty : Accepted (Tables.fenced firstFences) "tenant" ([] : List (ConversationEntry Unit)) :=
    ⟨.nil, rfl, .nil⟩
  have one : Accepted firstTables "tenant" [firstEntry] :=
    ⟨.cons (@holds_entryRow Unit _ _ firstEntry 1 rfl) .nil, rfl, List.pairwise_singleton _ _⟩
  have before : firstStore.entries (.ok ()) (.fenced firstFences) firstEntry.tenantId
      (2 ^ 63 - 1) = .ok ([] : List (ConversationEntry Unit)) :=
    empty.entries_ok rfl installed (Int.le_refl 4)
  have known : firstStore.entries (.ok ()) firstTables secondEntry.tenantId
      (2 ^ 63 - 1) = .ok [firstEntry] :=
    one.entries_ok rfl installed (Int.le_refl 4)
  have first := @entry_steps _ _ _ 0 _ _ [] [] first_awaits began (by
    rw [R3ConversationStore.decide, before, ok_bind]
    rfl)
  have second := @entry_steps _ _ _ 1 _ _ [⟨firstStore, firstEntry, []⟩]
    [entryCommand 0 firstEntry] second_awaits again (by
      rw [R3ConversationStore.decide, known, ok_bind]
      rfl)
  exact ⟨_, _, first.trans second⟩

end

theorem accepted_conversation_first : let _ := Sha256.hashlib; let _ := plainJson;
    ∃ accepted : List (ConversationEntry Unit),
      firstStore.entries (.ok ()) secondTables "tenant" 2 =
        .ok (committedBy secondTables "tenant" accepted 2) ∧
      ∀ entry ∈ [firstEntry, secondEntry], entry ∈ accepted ∧
        firstStore.append ⟨.ok (), .ok (), .ok none, firstSurroundings, none, secondTables,
          secondTables, secondTables⟩ entry = (.ok .replay, secondTables) := by
  intro _ _
  have fenced : firstFences.get? firstStore.context.tenantId =
      some (firstStore.context.deletionFenceHead, 4) := rfl
  obtain ⟨reading, submitted, steps⟩ := @both_steps Sha256.hashlib plainJson
  obtain ⟨accepted, conversation, reads, _, later⟩ :=
    accepted_conversation steps fenced (Int.le_refl 4)
  obtain ⟨longer, _, _, answers⟩ := later _ .refl
  refine ⟨accepted, reads 2, fun entry listed => ?_⟩
  have known : entry.tenantId = "tenant" ∧ entry.conversationId = conversationId "tenant" ∧
      ∃ sequence, entryRow entry sequence ∈ secondTables.records := by
    rcases List.mem_pair.mp listed with rfl | rfl
    · exact ⟨rfl, rfl, 1, List.mem_cons_self⟩
    · exact ⟨rfl, rfl, 2, List.mem_cons_of_mem _ List.mem_cons_self⟩
  obtain ⟨tenant, named, sequence, stored⟩ := known
  have member : entry ∈ accepted := by
    have row : entryRow entry sequence ∈ conversationRows secondTables "tenant" :=
      mem_conversationRows.mpr ⟨stored, tenant, rfl⟩
    obtain ⟨held, inside, holds⟩ := holds_entry conversation.rows row
    have own := (@holds_entryRow Unit _ _ entry sequence (tenant ▸ named)).bytes
    rw [encoded_inj (own.symm.trans holds.bytes)]
    exact inside
  refine ⟨member, ?_⟩
  exact (answers _ entry rfl rfl rfl rfl tenant (tenant ▸ named)).1 member

end Chiplog.Projections.Conversation
