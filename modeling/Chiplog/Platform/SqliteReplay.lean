import Chiplog.Data.Sha256
import Chiplog.Platform.Sqlite

namespace Chiplog.Platform.Sqlite

open Chiplog.Data

/-! Publications over whole runs of the materializer.

A call changes the tables in one way only, by the writes of one fresh publication, whatever
the guards and the resolver answer.  The manifest of that publication is found again by
every repetition, and splits into the original identities unless one of them has a newline. -/

/-- The three writes, when none of them meets a taken key. -/
structure Tables.Wrote (tables : Tables) (command : PhysicalPublicationProjection)
    (commitSequence : Nat) (after : Tables) : Prop where
  publications : after.publications = tables.publications ++
    [⟨command.tenantId, command.operationKind, command.idempotencyKey,
      command.requestFingerprint, commitSequence, joinLines command.recordIds⟩]
  records : after.records = tables.records ++ command.records.map (fun record =>
    ⟨command.tenantId, record.recordId, record.owner, record.schemaId, record.canonicalBytes,
      commitSequence⟩)
  heads : after.heads = tables.heads.set command.tenantId commitSequence
  fences : after.fences = tables.fences

theorem insertRecords_ok {tenantId : String} {commitSequence : Nat} {tables after : Tables}
    {records : List PhysicalRecord}
    (inserted : records.foldlM (insertRecord tenantId commitSequence) tables = .ok after) :
    after = { tables with records := tables.records ++ records.map (fun record =>
      ⟨tenantId, record.recordId, record.owner, record.schemaId, record.canonicalBytes,
        commitSequence⟩) } := by
  induction records generalizing tables with
  | nil =>
      cases inserted
      simp
  | cons record rest ih =>
      rw [List.foldlM_cons] at inserted
      obtain ⟨between, first, inserted⟩ := bind_ok.mp inserted
      obtain ⟨_, _, first⟩ := bind_ok.mp first
      cases first
      rw [ih inserted]
      simp

theorem write_ok {tables after : Tables} {command : PhysicalPublicationProjection}
    {commitSequence : Nat} (written : tables.write command commitSequence = .ok after) :
    tables.Wrote command commitSequence after := by
  obtain ⟨filled, inserted, written⟩ := bind_ok.mp written
  obtain ⟨listed, published, written⟩ := bind_ok.mp written
  obtain ⟨_, _, published⟩ := bind_ok.mp published
  cases published
  cases written
  rw [insertRecords_ok inserted]
  exact ⟨rfl, rfl, rfl, rfl⟩

section

variable [Hashlib] {command : PhysicalPublicationCommand} {surroundings : Surroundings}
  {tables : Tables} {commitSequence : Nat} {existing : PublicationRow} {result : PublicationResult}

theorem prepare_admissible (prepared : prepare surroundings tables command =
      .ok true) : command.recordIds ≠ [] ∧ command.recordIds.Nodup := by
  iterate 3 obtain ⟨_, _, prepared⟩ := bind_ok.mp prepared
  split at prepared
  · cases prepared
  · obtain ⟨_, unique, _⟩ := bind_ok.mp prepared
    have unique := raiseIf_ok.mp unique
    rw [not_or, not_not] at unique
    exact unique

/-- A commit is one of a fresh key at the current head. -/
theorem commit_ok {tables after : Tables}
    (committed : commit surroundings tables command = .ok (.commit after commitSequence)) :
    commitSequence = tables.head command.tenantId + 1 ∧
      tables.Wrote command.toPhysicalPublicationProjection commitSequence after := by
  obtain ⟨_, _, committed⟩ := bind_ok.mp committed
  obtain ⟨_, _, committed⟩ := bind_ok.mp committed
  dsimp only at committed
  split at committed
  · cases committed
  · obtain ⟨admitted, _, committed⟩ := bind_ok.mp committed
    cases admitted with
    | some refusal => cases committed
    | none =>
        obtain ⟨written, wrote, committed⟩ := bind_ok.mp committed
        obtain ⟨decided, _, committed⟩ := bind_ok.mp committed
        cases decided with
        | some refusal => cases committed
        | none =>
            obtain ⟨_, _, committed⟩ := bind_ok.mp committed
            cases committed
            exact ⟨rfl, write_ok wrote⟩

omit [Hashlib] in
theorem replay_rolls_back {ending : Ending}
    (replayed : replay surroundings tables command existing = .ok ending) :
    ending = .rollback (if existing.requestFingerprint = command.requestFingerprint then
      ⟨.replay, some existing.commitSequence, splitLines existing.recordIds⟩
      else ⟨.conflict, some existing.commitSequence, []⟩) := by
  obtain ⟨_, _, replayed⟩ := bind_ok.mp replayed
  split at replayed
  · rename_i differs
    cases replayed
    rw [if_neg differs]
  · rename_i same
    cases replayed
    rw [if_pos (not_not.mp same)]

omit [Hashlib] in
theorem Refusal.disposition_ne (refusal : Refusal) : refusal.disposition ≠ .committed := by
  cases refusal with
  | denied => nofun
  | stale => nofun
  | indeterminate => nofun

theorem commit_refuses (refused : commit surroundings tables command = .ok (.rollback result)) :
    result.disposition ≠ .committed := by
  obtain ⟨_, _, refused⟩ := bind_ok.mp refused
  obtain ⟨_, _, refused⟩ := bind_ok.mp refused
  dsimp only at refused
  split at refused
  · cases refused
    nofun
  · obtain ⟨admitted, _, refused⟩ := bind_ok.mp refused
    cases admitted with
    | some refusal =>
        cases refused
        exact refusal.disposition_ne
    | none =>
        obtain ⟨_, _, refused⟩ := bind_ok.mp refused
        obtain ⟨decided, _, refused⟩ := bind_ok.mp refused
        cases decided with
        | some refusal =>
            cases refused
            exact refusal.disposition_ne
        | none =>
            obtain ⟨_, _, refused⟩ := bind_ok.mp refused
            cases refused

theorem transaction_refuses
    (refused : transaction surroundings tables command = .ok (.rollback result)) :
    result.disposition ≠ .committed := by
  unfold transaction at refused
  split at refused
  · have answer := replay_rolls_back refused
    split at answer
    · cases answer
      nofun
    · cases answer
      nofun
  · exact commit_refuses refused

/-- What a call answers when it leaves the tables as they were. -/
def Refused (outcome : Except SqliteError PublicationResult) : Prop :=
  ∀ result, outcome = .ok result → result.disposition ≠ .committed

/-- The acknowledgement of a commit, returned or lost. -/
def acknowledgement (tables : Tables) (command : PhysicalPublicationProjection) :
    PublicationResult :=
  ⟨.committed, some (tables.head command.tenantId + 1), command.recordIds⟩

/-- What a call can do to the tables. -/
theorem publish_cases (surroundings : Surroundings) (tables : Tables)
    (command : PhysicalPublicationCommand) :
    ((publish surroundings tables command).2 = tables ∧
        Refused (publish surroundings tables command).1) ∨
      prepare surroundings tables command = .ok true ∧
      tables.published command.toPhysicalPublicationProjection = none ∧
      tables.Wrote command.toPhysicalPublicationProjection (tables.head command.tenantId + 1)
        (publish surroundings tables command).2 ∧
      (publish surroundings tables command).1 =
        if command.fault = .afterCommit then .error .lostAcknowledgement
        else .ok (acknowledgement tables command.toPhysicalPublicationProjection) := by
  unfold publish
  cases prepared : prepare surroundings tables command with
  | error => exact .inl ⟨rfl, nofun⟩
  | ok ready =>
      cases ready with
      | false =>
          refine .inl ⟨rfl, ?_⟩
          rintro _ ⟨⟩
          nofun
      | true =>
          cases ended : transaction surroundings tables command with
          | error => exact .inl ⟨rfl, nofun⟩
          | ok ending =>
              cases ending with
              | rollback result =>
                  refine .inl ⟨rfl, ?_⟩
                  rintro _ ⟨⟩
                  exact transaction_refuses ended
              | commit after commitSequence =>
                  unfold transaction at ended
                  cases known : tables.published command.toPhysicalPublicationProjection with
                  | some existing =>
                      rw [known] at ended
                      cases replay_rolls_back ended
                  | none =>
                      rw [known] at ended
                      obtain ⟨rfl, wrote⟩ := commit_ok ended
                      refine .inr ⟨rfl, rfl, ?_, ?_⟩
                      · dsimp only
                        split
                        · exact wrote
                        · exact wrote
                      · dsimp only
                        split
                        · rfl
                        · rfl

/-- A commit writes under the head that its command expects. -/
theorem commit_written {tables after : Tables}
    (committed : commit surroundings tables command = .ok (.commit after commitSequence)) :
    (tables.head command.tenantId : Int) = command.expectedHead ∧
      tables.write command.toPhysicalPublicationProjection (tables.head command.tenantId + 1) =
        .ok after := by
  obtain ⟨_, _, committed⟩ := bind_ok.mp committed
  obtain ⟨_, _, committed⟩ := bind_ok.mp committed
  dsimp only at committed
  split at committed
  · cases committed
  · rename_i expected
    obtain ⟨admitted, _, committed⟩ := bind_ok.mp committed
    cases admitted with
    | some refusal => cases committed
    | none =>
        obtain ⟨written, wrote, committed⟩ := bind_ok.mp committed
        obtain ⟨decided, _, committed⟩ := bind_ok.mp committed
        cases decided with
        | some refusal => cases committed
        | none =>
            obtain ⟨_, _, committed⟩ := bind_ok.mp committed
            cases committed
            exact ⟨not_not.mp expected, wrote⟩

theorem publish_written (surroundings : Surroundings) (tables : Tables)
    (command : PhysicalPublicationCommand) :
    (publish surroundings tables command).2 = tables ∨
      prepare surroundings tables command = .ok true ∧
      (tables.head command.tenantId : Int) = command.expectedHead ∧
      tables.write command.toPhysicalPublicationProjection (tables.head command.tenantId + 1) =
        .ok (publish surroundings tables command).2 := by
  unfold publish
  cases prepared : prepare surroundings tables command with
  | error => exact .inl rfl
  | ok ready =>
      cases ready with
      | false => exact .inl rfl
      | true =>
          cases ended : transaction surroundings tables command with
          | error => exact .inl rfl
          | ok ending =>
              cases ending with
              | rollback result => exact .inl rfl
              | commit after commitSequence =>
                  unfold transaction at ended
                  split at ended
                  · cases replay_rolls_back ended
                  · obtain ⟨expected, wrote⟩ := commit_written ended
                    refine .inr ⟨rfl, expected, ?_⟩
                    dsimp only
                    split
                    · exact wrote
                    · exact wrote

/-- `PRIMARY KEY (tenant_id, record_id)`. -/
def Tables.Unique (tables : Tables) : Prop :=
  (tables.records.map (fun row => (row.tenantId, row.recordId))).Nodup

omit [Hashlib] in
theorem insertRecords_unique {tenantId : String} {tables after : Tables}
    {records : List PhysicalRecord} (unique : tables.Unique)
    (inserted : records.foldlM (insertRecord tenantId commitSequence) tables = .ok after) :
    after.Unique := by
  induction records generalizing tables with
  | nil =>
      cases inserted
      exact unique
  | cons record rest ih =>
      rw [List.foldlM_cons] at inserted
      obtain ⟨between, first, inserted⟩ := bind_ok.mp inserted
      obtain ⟨_, fresh, first⟩ := bind_ok.mp first
      have fresh := raiseIf_ok.mp fresh
      cases first
      refine ih ?_ inserted
      rw [Tables.Unique, List.map_append, List.nodup_append]
      refine ⟨unique, List.nodup_singleton _, ?_⟩
      intro key known other own same
      obtain ⟨row, member, rfl⟩ := List.mem_map.mp known
      rw [List.map_singleton, List.mem_singleton] at own
      exact fresh ⟨row, member, same.trans own⟩

omit [Hashlib] in
theorem write_unique {tables after : Tables} {command : PhysicalPublicationProjection}
    (unique : tables.Unique)
    (written : tables.write command commitSequence = .ok after) : after.Unique := by
  obtain ⟨filled, inserted, written⟩ := bind_ok.mp written
  obtain ⟨listed, published, written⟩ := bind_ok.mp written
  obtain ⟨_, _, published⟩ := bind_ok.mp published
  have kept := insertRecords_unique unique inserted
  cases published
  cases written
  exact kept

theorem publish_unique (unique : tables.Unique) (surroundings : Surroundings)
    (command : PhysicalPublicationCommand) : (publish surroundings tables command).2.Unique := by
  rcases publish_written surroundings tables command with same | ⟨_, _, written⟩
  · rw [same]
    exact unique
  · exact write_unique unique written

/-- The commit sequences of every tenant count up to its head, in the manifests and in the
records. -/
def Tables.Numbered (tables : Tables) : Prop :=
  ∀ tenantId, (tables.publications.filter (fun row => row.tenantId = tenantId)).map
      PublicationRow.commitSequence = List.range' 1 (tables.head tenantId) ∧
    ∀ sequence, (∃ row ∈ tables.records, row.tenantId = tenantId ∧
      row.commitSequence = sequence) ↔ 1 ≤ sequence ∧ sequence ≤ tables.head tenantId

omit [Hashlib] in
theorem fenced_numbered (fences : Dict String (String × Int)) :
    (Tables.fenced fences).Numbered := by
  intro tenantId
  refine ⟨rfl, ?_⟩
  intro sequence
  constructor
  · rintro ⟨row, member, _⟩
    cases member
  · rintro ⟨first, last⟩
    have zero : (Tables.fenced fences).head tenantId = 0 := rfl
    omega

omit [Hashlib] in
theorem Tables.Wrote.head {tables after : Tables} {command : PhysicalPublicationProjection}
    (wrote : tables.Wrote command commitSequence after) (tenantId : String) : after.head tenantId =
      if tenantId = command.tenantId then commitSequence else tables.head tenantId := by
  unfold Tables.head
  rw [wrote.heads, Dict.get?_set]
  split <;> rfl

omit [Hashlib] in
theorem Tables.Wrote.numbered {tables after : Tables} {command : PhysicalPublicationProjection}
    (wrote : tables.Wrote command (tables.head command.tenantId + 1) after)
    (nonempty : command.records ≠ []) (numbered : tables.Numbered) : after.Numbered := by
  intro tenantId
  obtain ⟨publications, records⟩ := numbered tenantId
  rw [wrote.head]
  by_cases own : tenantId = command.tenantId
  · subst own
    rw [if_pos rfl]
    constructor
    · rw [wrote.publications, List.filter_append, List.map_append, publications,
        List.range'_concat]
      simp [Nat.add_comm]
    · intro sequence
      rw [wrote.records]
      constructor
      · rintro ⟨row, member, own, rfl⟩
        rcases List.mem_append.mp member with earlier | new
        · have within := (records row.commitSequence).mp ⟨row, earlier, own, rfl⟩
          omega
        · obtain ⟨record, _, rfl⟩ := List.mem_map.mp new
          exact ⟨Nat.le_add_left 1 _, Nat.le_refl _⟩
      · rintro ⟨first, last⟩
        by_cases newest : sequence = tables.head command.tenantId + 1
        · obtain ⟨record, rest, parts⟩ := List.exists_cons_of_ne_nil nonempty
          rw [parts, newest]
          exact ⟨_, List.mem_append_right _ List.mem_cons_self, rfl, rfl⟩
        · obtain ⟨row, member, own, same⟩ := (records sequence).mpr ⟨first, by omega⟩
          exact ⟨row, List.mem_append_left _ member, own, same⟩
  · rw [if_neg own]
    constructor
    · rw [wrote.publications, List.filter_append, List.map_append, publications]
      simp [Ne.symm own]
    · intro sequence
      rw [← records sequence, wrote.records]
      constructor
      · rintro ⟨row, member, isTenant, same⟩
        rcases List.mem_append.mp member with earlier | new
        · exact ⟨row, earlier, isTenant, same⟩
        · obtain ⟨record, _, rfl⟩ := List.mem_map.mp new
          exact absurd isTenant.symm own
      · rintro ⟨row, member, isTenant, same⟩
        exact ⟨row, List.mem_append_left _ member, isTenant, same⟩

/-- A manifest stays where it is. -/
theorem published_kept
    {other : PhysicalPublicationCommand} {command : PhysicalPublicationProjection}
    {row : PublicationRow} (known : tables.published command = some row) :
    (publish surroundings tables other).2.published command = some row := by
  rcases publish_cases surroundings tables other with ⟨same, _⟩ | ⟨_, _, wrote, _⟩
  · rw [same, known]
  · unfold Tables.published at known ⊢
    rw [wrote.publications, List.find?_append, known]
    rfl

omit [Hashlib] in
theorem published_wrote {tables after : Tables} {command : PhysicalPublicationProjection}
    (fresh : tables.published command = none) (wrote : tables.Wrote command commitSequence after) :
    after.published command = some ⟨command.tenantId, command.operationKind,
      command.idempotencyKey, command.requestFingerprint, commitSequence,
      joinLines command.recordIds⟩ := by
  unfold Tables.published at fresh ⊢
  rw [wrote.publications, List.find?_append, fresh]
  simp

theorem Run.numbered {fences : Dict String (String × Int)}
    (run : Run (.fenced fences) tables) : tables.Numbered := by
  induction run with
  | start => exact fenced_numbered fences
  | @publish tables run surroundings command ih =>
      rcases publish_cases surroundings tables command with ⟨same, _⟩ | ⟨prepared, _, wrote, _⟩
      · rw [same]
        exact ih
      · apply wrote.numbered ?_ ih
        intro empty
        exact (prepare_admissible prepared).1 (by rw [PhysicalPublicationProjection.recordIds,
          empty, List.map_nil])

theorem Run.published {start tables : Tables} {command : PhysicalPublicationProjection}
    {row : PublicationRow} (run : Run start tables) (known : start.published command = some row) :
    tables.published command = some row := by
  induction run with
  | start => exact known
  | publish _ _ _ ih => exact published_kept ih

theorem Run.fences {start tables : Tables} (run : Run start tables) :
    tables.fences = start.fences := by
  induction run with
  | start => rfl
  | @publish tables run surroundings command ih =>
      rcases publish_cases surroundings tables command with ⟨same, _⟩ | ⟨_, _, wrote, _⟩
      · rw [same, ih]
      · rw [wrote.fences, ih]

/-- The checks before the transaction see nothing that a publication changes. -/
theorem prepare_again {surroundings again : Surroundings} {tables later : Tables}
    {command repeated : PhysicalPublicationCommand}
    (same : repeated.toPhysicalPublicationProjection = command.toPhysicalPublicationProjection)
    (fences : later.fences = tables.fences) (writer : again.writer = .ok ())
    (pairs : again.recordPairs = surroundings.recordPairs)
    (mounted : requiresOwnerPublicationResolver command.operationKind →
      again.resolver.isSome)
    (prepared : prepare surroundings tables command = .ok true) :
    prepare again later repeated = .ok true := by
  have fenced : later.requireFence = tables.requireFence := by
    unfold Tables.requireFence
    rw [fences]
  have present : (requiresOwnerPublicationResolver command.operationKind &&
      again.resolver.isNone) = false := by
    cases required : requiresOwnerPublicationResolver command.operationKind with
    | false => rfl
    | true => simpa [required, Option.isSome_iff_ne_none] using mounted
  unfold prepare at prepared ⊢
  obtain ⟨_, _, prepared⟩ := bind_ok.mp prepared
  obtain ⟨_, closed, prepared⟩ := bind_ok.mp prepared
  obtain ⟨_, local_, prepared⟩ := bind_ok.mp prepared
  rw [same, writer, pairs, fenced, present]
  refine bind_ok.mpr ⟨(), rfl, bind_ok.mpr ⟨_, closed, bind_ok.mpr ⟨_, local_, ?_⟩⟩⟩
  split at prepared
  · cases prepared
  · exact prepared

theorem prepare_mounted (mounted : requiresOwnerPublicationResolver command.operationKind →
      surroundings.resolver.isSome) : prepare surroundings tables command ≠ .ok false := by
  intro denied
  iterate 3 obtain ⟨_, _, denied⟩ := bind_ok.mp denied
  split at denied
  · rename_i missing
    rw [Bool.and_eq_true] at missing
    have present := mounted missing.1
    rw [Option.isNone_iff_eq_none.mp missing.2] at present
    cases present
  · obtain ⟨_, _, denied⟩ := bind_ok.mp denied
    obtain ⟨_, _, denied⟩ := bind_ok.mp denied
    obtain ⟨_, _, denied⟩ := bind_ok.mp denied
    cases denied

/-- Whatever a known key is answered with is read off its manifest. -/
theorem publish_repeated
    (known : tables.published command.toPhysicalPublicationProjection = some existing)
    (same : existing.requestFingerprint = command.requestFingerprint)
    (mounted : requiresOwnerPublicationResolver command.operationKind →
      surroundings.resolver.isSome)
    (returned : (publish surroundings tables command).1 = .ok result) :
    result = ⟨.replay, some existing.commitSequence, splitLines existing.recordIds⟩ := by
  unfold publish transaction at returned
  rw [known] at returned
  cases prepared : prepare surroundings tables command with
  | error =>
      rw [prepared] at returned
      cases returned
  | ok ready =>
      rw [prepared] at returned
      cases ready with
      | false => exact absurd prepared (prepare_mounted mounted)
      | true =>
          cases replayed : replay surroundings tables command existing with
          | error =>
              simp only [replayed] at returned
              cases returned
          | ok ending =>
              have answer := replay_rolls_back replayed
              rw [if_pos same] at answer
              simp only [replayed, answer] at returned
              exact (Except.ok.inj returned).symm

/-- Without a resolver to ask, a known key is always answered. -/
theorem publish_answers
    (known : tables.published command.toPhysicalPublicationProjection = some existing)
    (open_ : requiresOwnerPublicationResolver command.operationKind = false)
    (prepared : prepare surroundings tables command = .ok true) :
    ∃ result, (publish surroundings tables command).1 = .ok result := by
  have replayed : ∃ result, replay surroundings tables command existing =
      .ok (.rollback result) := by
    unfold replay
    rw [open_]
    simp only [checkIf, Bool.false_eq_true, if_false]
    split
    · exact ⟨_, rfl⟩
    · exact ⟨_, rfl⟩
  obtain ⟨result, replayed⟩ := replayed
  unfold publish transaction
  rw [known, prepared]
  simp only [replayed]
  exact ⟨result, rfl⟩

omit [Hashlib] in
theorem Tables.Wrote.changed {tables after : Tables} {command : PhysicalPublicationProjection}
    (wrote : tables.Wrote command commitSequence after) :
    after ≠ tables := by
  intro same
  have publications := wrote.publications
  rw [same] at publications
  simp at publications

/-- Over any calls the commits are numbered without a gap and every other answer leaves the
tables alone.  A repeated command replays what its commit acknowledged exactly when no
record identity contains the newline that separates the manifest. -/
theorem publications_replay_exactly {fences : Dict String (String × Int)} {tables : Tables}
    (run : Run (.fenced fences) tables) :
    tables.Numbered ∧
    ∀ (surroundings : Surroundings) (command : PhysicalPublicationCommand),
      ((publish surroundings tables command).2 = tables ∧
          Refused (publish surroundings tables command).1 ∨
        (publish surroundings tables command).2 ≠ tables ∧
          (publish surroundings tables command).1 =
            if command.fault = .afterCommit then .error .lostAcknowledgement
            else .ok (acknowledgement tables command.toPhysicalPublicationProjection)) ∧
      ((publish surroundings tables command).2 ≠ tables →
        ∀ (later : Tables), Run (publish surroundings tables command).2 later →
        ∀ (again : Surroundings) (repeated : PhysicalPublicationCommand),
          repeated.toPhysicalPublicationProjection = command.toPhysicalPublicationProjection →
          (requiresOwnerPublicationResolver command.operationKind → again.resolver.isSome) →
          (∀ result, (publish again later repeated).1 = .ok result →
            (result = { acknowledgement tables command.toPhysicalPublicationProjection with
                disposition := .replay } ↔
              ∀ recordId ∈ command.recordIds, '\n' ∉ recordId.toList)) ∧
          (requiresOwnerPublicationResolver command.operationKind = false →
            again.writer = .ok () → again.recordPairs = surroundings.recordPairs →
            ∃ result, (publish again later repeated).1 = .ok result)) := by
  refine ⟨run.numbered, ?_⟩
  intro surroundings command
  rcases publish_cases surroundings tables command with
    ⟨same, refused⟩ | ⟨prepared, fresh, wrote, answer⟩
  · exact ⟨.inl ⟨same, refused⟩, fun changed => absurd same changed⟩
  · refine ⟨.inr ⟨wrote.changed, answer⟩, ?_⟩
    intro _ later rest again repeated same mounted
    have known := rest.published (published_wrote fresh wrote)
    rw [← same] at known
    have mounted' : requiresOwnerPublicationResolver repeated.operationKind →
        again.resolver.isSome := by
      rw [same]
      exact mounted
    constructor
    · intro result returned
      rw [publish_repeated known rfl mounted' returned]
      rw [← splitLines_joinLines_iff (prepare_admissible prepared).1, same]
      simp [acknowledgement]
    · intro unresolved writer pairs
      rw [← same] at unresolved
      apply publish_answers known unresolved
      exact prepare_again same (rest.fences.trans wrote.fences) writer pairs mounted prepared

end

def sampleFences : Dict String (String × Int) := Dict.empty.set "tenant" ("generation", 4)

/-- A store of one contract, with nothing mounted. -/
def sampleSurroundings : Surroundings where
  writer := .ok ()
  recordPairs := [("planning", "todo.v1")]
  resolver := none
  readyBundle := .ok ()
  authoritySnapshot := fun _ => .ok []

/-- One empty record under the given identity. -/
def sampleCommand (recordId : String) : PhysicalPublicationCommand where
  tenantId := "tenant"
  operationKind := "planning.todo.v1"
  idempotencyKey := "key"
  requestFingerprint := "request"
  expectedHead := 0
  fenceGeneration := "generation"
  expectedFenceFrontier := 4
  minimumFenceFrontier := 4
  records := [⟨recordId, "planning", "todo.v1", [],
    "e3b0c44298fc1c149afbf4c8996fb92427ae41e4649b934ca495991b7852b855"⟩]
  expectedPreimageCommitment := none
  fault := .none
  admissionGuard := none
  decisionGuard := none
  authorityCheckpointGuard := none

theorem publications_replay_exactly_sample :
    ∃ result, (@publish Sha256.hashlib sampleSurroundings
        (@publish Sha256.hashlib sampleSurroundings (.fenced sampleFences)
          (sampleCommand "first")).2 (sampleCommand "first")).1 = .ok result ∧
      result = ⟨.replay, some 1, ["first"]⟩ := by
  let _ := Sha256.hashlib
  have published : (publish sampleSurroundings (.fenced sampleFences)
      (sampleCommand "first")).2.publications.length = 1 := by
    decide +kernel
  have changed : (publish sampleSurroundings (.fenced sampleFences)
      (sampleCommand "first")).2 ≠ .fenced sampleFences := by
    intro same
    rw [same] at published
    cases published
  have run : Run (.fenced sampleFences) (.fenced sampleFences) := .start
  obtain ⟨_, answers⟩ := publications_replay_exactly run
  obtain ⟨exactly, returns⟩ := (answers sampleSurroundings (sampleCommand "first")).2 changed _
    .start sampleSurroundings (sampleCommand "first") rfl nofun
  obtain ⟨result, returned⟩ := returns rfl rfl rfl
  refine ⟨result, returned, (exactly result returned).mpr ?_⟩
  intro recordId member
  rw [List.mem_singleton.mp member]
  decide

/-- A record identity with a newline is committed as one and replayed as two. -/
theorem newline_replays_as_two :
    let store := @publish Sha256.hashlib sampleSurroundings (.fenced sampleFences)
      (sampleCommand "first\nsecond")
    store.1 = .ok ⟨.committed, some 1, ["first\nsecond"]⟩ ∧
      (@publish Sha256.hashlib sampleSurroundings store.2 (sampleCommand "first\nsecond")).1 =
        .ok ⟨.replay, some 1, ["first", "second"]⟩ := by
  decide +kernel

end Chiplog.Platform.Sqlite
