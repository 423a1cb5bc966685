import Chiplog.EvidenceJournal.Journal
import Mathlib.Logic.Function.Basic

namespace Chiplog.EvidenceJournal

open Chiplog.Data

/-! Interleaved journal calls over the tenant stores.

A call reads, and its record waits for the one writer of the store; between the two any
other call and any other owner's publication may go first.  Because a publication compares
the tenant head it was computed from, every store an interleaving reaches is one that whole
calls reach one after the other: `History.serial`. -/

/-- A row of `records` with the commit sequence of its publication. -/
structure StoredRecord where
  sequence : Nat
  record : JournalRecord
deriving DecidableEq

/-- What the database holds of a tenant: its head, the journal's rows in commit order, and
the record ids of the other owners. -/
structure TenantStore where
  head : Nat
  rows : List StoredRecord
  foreignIds : List String

namespace TenantStore

def empty : TenantStore := ⟨0, [], []⟩

def records (store : TenantStore) : List JournalRecord := store.rows.map (·.record)

def snapshot (store : TenantStore) : Snapshot := ⟨store.head, store.records⟩

def append (store : TenantStore) (record : JournalRecord) : TenantStore :=
  { store with
    head := store.head + 1
    rows := store.rows ++ [⟨store.head + 1, record⟩] }

/-- A publication of another owner. -/
def advance (store : TenantStore) (ids : List String) : TenantStore :=
  { store with head := store.head + 1, foreignIds := store.foreignIds ++ ids }

@[simp] theorem records_append (store : TenantStore) (record : JournalRecord) :
    (store.append record).records = store.records ++ [record] := by
  simp [records, append]

@[simp] theorem records_advance (store : TenantStore) (ids : List String) :
    (store.advance ids).records = store.records := rfl

@[simp] theorem snapshot_records (store : TenantStore) :
    store.snapshot.records = store.records := rfl

@[simp] theorem snapshot_head (store : TenantStore) : store.snapshot.head = store.head := rfl

end TenantStore

section

variable [Hashlib]

/-- `publish`, in one transaction of the writer.  A known command id answers before the head
is compared; `none` is an insert that violates a primary key and rolls back. -/
def publish (store : TenantStore) (record : JournalRecord) (expectedHead : Nat)
    (admission : Option Disposition) : Option (Disposition × TenantStore) :=
  match store.records.find? (fun stored => stored.commandId = record.commandId) with
  | some existing =>
      if payloadDigest existing ≠ payloadDigest record then some (.conflict, store)
      else some (.replay, store)
  | none =>
      if store.head ≠ expectedHead then some (.stale, store)
      else
        match admission with
        | some disposition => some (disposition, store)
        | none =>
            if record.recordId ∈ store.records.map (·.recordId) ++ store.foreignIds then none
            else some (.committed, store.append record)

end

inductive Entry where
  | prepare
  | execute
deriving DecidableEq

/-- One call with the two authentication results it reads before it publishes. -/
structure Call where
  entry : Entry
  command : Command
  authenticated : Option TrustedIngress
  recheck : Option TrustedIngress
deriving DecidableEq

/-- A record that waits for the writer. -/
structure Pending where
  call : Call
  record : JournalRecord
  expectedHead : Nat
deriving DecidableEq

structure World where
  stores : String → TenantStore
  pending : List Pending

def World.empty : World := ⟨fun _ => .empty, []⟩

inductive Event where
  /-- the call answered from the snapshot it read -/
  | answered (call : Call) (snapshot : Snapshot) (outcome : Outcome)
  /-- the call handed a record to the writer -/
  | submitted (snapshot : Snapshot) (pending : Pending)
  /-- the writer answered, with the identity its guard read -/
  | settled (pending : Pending) (guard : Option TrustedIngress) (disposition : Disposition)
  /-- the call raised instead -/
  | dropped (pending : Pending)
  /-- another owner published -/
  | foreign (tenant : String) (ids : List String)
deriving DecidableEq

/-- The outcome of a call whose publication was answered. -/
def settledOutcome (record : JournalRecord) (disposition : Disposition) : Outcome :=
  ⟨disposition, if disposition = .committed ∨ disposition = .replay then some record else none,
    none⟩

theorem update_grown {stores : String → TenantStore} {tenant : String} {store : TenantStore}
    (grown : store = stores tenant ∨ (stores tenant).head < store.head) (other : String) :
    Function.update stores tenant store other = stores other ∨
      (stores other).head < (Function.update stores tenant store other).head := by
  by_cases same : other = tenant
  · subst same
    simpa using grown
  · simp [same]

section

variable [Hashlib]

def Call.attempt (call : Call) (snapshot : Snapshot) : Attempt :=
  match call.entry with
  | .prepare => prepare call.authenticated call.recheck snapshot call.command
  | .execute => execute call.authenticated call.recheck snapshot call.command

inductive Step : World → Event → World → Prop
  | answered {world : World} {call : Call} {outcome : Outcome}
      (read : call.attempt (world.stores call.command.tenant).snapshot = .answered outcome) :
      Step world (.answered call (world.stores call.command.tenant).snapshot outcome) world
  | submitted {world : World} {call : Call} {record : JournalRecord} {expectedHead : Nat}
      (read : call.attempt (world.stores call.command.tenant).snapshot =
        .publishing record expectedHead) :
      Step world
        (.submitted (world.stores call.command.tenant).snapshot ⟨call, record, expectedHead⟩)
        { world with pending := world.pending ++ [⟨call, record, expectedHead⟩] }
  | settled {world : World} {front back : List Pending} {pending : Pending}
      {guard : Option TrustedIngress} {disposition : Disposition} {store : TenantStore}
      (waiting : world.pending = front ++ pending :: back)
      (published : publish (world.stores pending.record.tenant) pending.record
        pending.expectedHead (guardCommand guard pending.call.command) =
          some (disposition, store)) :
      Step world (.settled pending guard disposition)
        ⟨Function.update world.stores pending.record.tenant store, front ++ back⟩
  | dropped {world : World} {front back : List Pending} {pending : Pending}
      (waiting : world.pending = front ++ pending :: back) :
      Step world (.dropped pending) { world with pending := front ++ back }
  | foreign {world : World} {tenant : String} {ids : List String} :
      Step world (.foreign tenant ids)
        { world with
          stores := Function.update world.stores tenant ((world.stores tenant).advance ids) }

inductive History : List Event → World → Prop
  | empty : History [] .empty
  | step {events : List Event} {before after : World} {event : Event}
      (ran : History events before) (step : Step before event after) :
      History (events ++ [event]) after

/-- A call as it was committed, with the identity its guard read. -/
structure Commit where
  call : Call
  guard : Option TrustedIngress
  record : JournalRecord
deriving DecidableEq

/-- Whole calls committing one after the other on one tenant's store. -/
inductive Serial (tenant : String) : List Commit → TenantStore → Prop
  | empty : Serial tenant [] .empty
  | committed {log : List Commit} {store : TenantStore} {call : Call} {record : JournalRecord}
      {guard : Option TrustedIngress} (ran : Serial tenant log store)
      (inTenant : call.command.tenant = tenant)
      (read : call.attempt store.snapshot = .publishing record store.head)
      (guarded : guardCommand guard call.command = none)
      (freshCommand : ∀ stored ∈ store.records, stored.commandId ≠ record.commandId)
      (freshRecord : ∀ stored ∈ store.records, stored.recordId ≠ record.recordId) :
      Serial tenant (log ++ [⟨call, guard, record⟩]) (store.append record)
  | foreign {log : List Commit} {store : TenantStore} {ids : List String}
      (ran : Serial tenant log store) : Serial tenant log (store.advance ids)

theorem admitted_publishing {authenticated recheck : Option TrustedIngress} {snapshot : Snapshot}
    {command : Command} {act : TrustedIngress → Attempt} {record : JournalRecord}
    {expectedHead : Nat} (published : admitted authenticated recheck snapshot command act =
      .publishing record expectedHead) :
    ∃ identity, identityFor authenticated command = some identity ∧
      disclosed command.claim identity = true ∧ replayOf snapshot command = none ∧
      guardCommand recheck command = none ∧ snapshot.head = command.heads.journal ∧
      act identity = .publishing record expectedHead := by
  unfold admitted at published
  split at published
  · cases published
  · rename_i identity known
    split at published
    · cases published
    · rename_i unknown
      split at published
      · cases published
      · rename_i guarded
        split at published
        · cases published
        · rename_i current
          obtain ⟨authentic, shown⟩ := Option.filter_eq_some_iff.mp known
          exact ⟨identity, authentic, shown, unknown, guarded, not_not.mp current, published⟩

/-- Every record a call can hand to the store, with what the call checked for it. -/
inductive Published (snapshot : Snapshot) (call : Call) (identity : TrustedIngress) :
    JournalRecord → Prop
  | prepared (entry : call.entry = .prepare)
      (undisplayed : call.command.display = none)
      (unconfirmed : call.command.action ≠ .confirmCandidate)
      (supersession : ValidSupersession snapshot call.command)
      (followed : call.command.action ≠ .recordFact → targetOf snapshot call.command ≠ none)
      (subject : ∀ target ∈ targetOf snapshot call.command,
        target.claim.subject = call.command.claim.subject) :
      Published snapshot call identity (candidateRecord snapshot call.command identity)
  | asserted (entry : call.entry = .execute) (action : call.command.action = .recordFact)
      (undisplayed : call.command.display = none) (unlinked : call.command.predecessor = none)
      (positive : (positiveProof call.command.claim identity).all (·.2) = true) :
      Published snapshot call identity (claimRecord snapshot call.command identity .record)
  | confirmed (entry : call.entry = .execute) (action : call.command.action = .confirmCandidate)
      (display : Display) (candidate : JournalRecord)
      (displayed : call.command.display = some display)
      (found : confirmedCandidate snapshot call.command display = some candidate)
      (supersession : ValidSupersession snapshot call.command)
      (resolves : Resolves snapshot call.command display candidate)
      (recorded : display.operation = .record → call.command.predecessor = none)
      (followed : display.operation ≠ .record → ∃ target,
        targetOf snapshot call.command = some target ∧
          target.claim.subject = call.command.claim.subject) :
      Published snapshot call identity
        (claimRecord snapshot call.command identity display.operation)

variable {call : Call} {snapshot : Snapshot} {record : JournalRecord} {expectedHead : Nat}
  {disposition : Disposition}

theorem proposeCandidate_publishing {identity : TrustedIngress} (entry : call.entry = .prepare)
    (published : proposeCandidate snapshot call.command identity =
      .publishing record expectedHead) :
    expectedHead = snapshot.head ∧ Published snapshot call identity record := by
  unfold proposeCandidate at published
  split at published
  · cases published
  · rename_i plain
    simp only [not_or, not_not] at plain
    split at published
    · cases published
    · rename_i supersession
      split at published
      · cases published
      · rename_i followed
        split at published
        · cases published
        · rename_i subject
          cases published
          refine ⟨rfl, .prepared entry plain.1 plain.2 (not_not.mp supersession) ?_ ?_⟩
          · intro action missing
            exact followed ⟨action, missing⟩
          · intro target member
            by_contra different
            exact subject ⟨target, member, different⟩

theorem entitledOperation_ok {command : Command} {identity : TrustedIngress}
    {operation : Operation}
    (entitled : entitledOperation snapshot command identity = .ok operation) :
    (command.action = .recordFact ∧ command.display = none ∧ command.predecessor = none ∧
      (positiveProof command.claim identity).all (·.2) = true ∧ operation = .record) ∨
    (command.action = .confirmCandidate ∧ ∃ display candidate,
      command.display = some display ∧
      confirmedCandidate snapshot command display = some candidate ∧
      Resolves snapshot command display candidate ∧ operation = display.operation) := by
  unfold entitledOperation at entitled
  split at entitled
  · rename_i direct
    split at entitled
    · rename_i positive
      cases entitled
      exact .inl ⟨direct.1, direct.2.1, direct.2.2, positive, rfl⟩
    · cases entitled
  · split at entitled
    · rename_i action
      split at entitled
      · cases entitled
      · rename_i display displayed
        split at entitled
        · cases entitled
        · rename_i candidate found
          split at entitled
          · rename_i resolves
            cases entitled
            exact .inr ⟨action, display, candidate, (Option.filter_eq_some_iff.mp displayed).1,
              found, resolves, rfl⟩
          · cases entitled
    · cases entitled

theorem entitledOperation_error {command : Command} {identity : TrustedIngress}
    {answer : Attempt} (refusal : entitledOperation snapshot command identity = .error answer) :
    ∃ disposition, answer = refused disposition none ∧ disposition ≠ .committed ∧
      disposition ≠ .replay := by
  unfold entitledOperation at refusal
  split at refusal
  · split at refusal
    · cases refusal
    · cases refusal
      exact ⟨_, rfl, nofun, nofun⟩
  · split at refusal
    · split at refusal
      · cases refusal
        exact ⟨_, rfl, nofun, nofun⟩
      · split at refusal
        · cases refusal
          exact ⟨_, rfl, nofun, nofun⟩
        · split at refusal
          · cases refusal
          · cases refusal
            exact ⟨_, rfl, nofun, nofun⟩
    · cases refusal
      exact ⟨_, rfl, nofun, nofun⟩

theorem recordClaim_publishing {identity : TrustedIngress} (entry : call.entry = .execute)
    (published : recordClaim snapshot call.command identity = .publishing record expectedHead) :
    expectedHead = snapshot.head ∧ Published snapshot call identity record := by
  unfold recordClaim at published
  split at published
  · cases published
  · rename_i supersession
    split at published
    · rename_i answer refusal
      obtain ⟨disposition, refused, -⟩ := entitledOperation_error refusal
      rw [refused] at published
      cases published
    · rename_i entitled
      split at published
      · cases published
      · rename_i unlinked
        cases published
        refine ⟨rfl, ?_⟩
        obtain ⟨action, undisplayed, unlinked, positive, -⟩ |
          ⟨action, display, candidate, displayed, found, resolves, operation⟩ :=
          entitledOperation_ok entitled
        · exact .asserted entry action undisplayed unlinked positive
        · rw [operation]
          exact .confirmed entry action display candidate displayed found
            (not_not.mp supersession) resolves (fun _ => not_not.mp unlinked)
            (fun other => absurd operation.symm other)
    · rename_i operation changing entitled
      split at published
      · cases published
      · rename_i target targeted
        split at published
        · cases published
        · rename_i subject
          cases published
          refine ⟨rfl, ?_⟩
          obtain ⟨-, -, -, -, operation⟩ |
            ⟨action, display, candidate, displayed, found, resolves, operation⟩ :=
            entitledOperation_ok entitled
          · exact absurd operation changing
          · subst operation
            exact .confirmed entry action display candidate displayed found
              (not_not.mp supersession) resolves (fun same => absurd same changing)
              (fun _ => ⟨target, targeted, not_not.mp subject⟩)

theorem Call.attempt_publishing (read : call.attempt snapshot = .publishing record expectedHead) :
    expectedHead = snapshot.head ∧ snapshot.head = call.command.heads.journal ∧
      ∃ identity, identityFor call.authenticated call.command = some identity ∧
        Published snapshot call identity record := by
  cases entry : call.entry with
  | prepare =>
      simp only [Call.attempt, entry] at read
      obtain ⟨identity, known, -, -, -, current, published⟩ := admitted_publishing read
      obtain ⟨head, published⟩ := proposeCandidate_publishing entry published
      exact ⟨head, current, identity, known, published⟩
  | execute =>
      simp only [Call.attempt, entry] at read
      obtain ⟨identity, known, -, -, -, current, published⟩ := admitted_publishing read
      obtain ⟨head, published⟩ := recordClaim_publishing entry published
      exact ⟨head, current, identity, known, published⟩

theorem Published.tenant {identity : TrustedIngress}
    (published : Published snapshot call identity record) :
    record.tenant = call.command.tenant := by
  cases published <;> rfl

theorem guardCommand_refuses {authenticated : Option TrustedIngress} {command : Command}
    (guarded : guardCommand authenticated command = some disposition) :
    disposition = .denied ∨ disposition = .stale := by
  unfold guardCommand at guarded
  split at guarded
  · cases guarded
    exact .inl rfl
  · split at guarded
    · cases guarded
      exact .inr rfl
    · split at guarded
      · cases guarded
        exact .inl rfl
      · split at guarded <;> cases guarded
        exact .inl rfl

/-- What the writer can answer, and what it has stored when it does. -/
inductive Answered (store : TenantStore) (record : JournalRecord) (expectedHead : Nat)
    (admission : Option Disposition) : Disposition → TenantStore → Prop
  | refused (disposition : Disposition) (uncommitted : disposition ≠ .committed)
      (unreplayed : disposition ≠ .replay) :
      Answered store record expectedHead admission disposition store
  | replayed (existing : JournalRecord) (stored : existing ∈ store.records)
      (command : existing.commandId = record.commandId)
      (payload : payloadDigest existing = payloadDigest record) :
      Answered store record expectedHead admission .replay store
  | committed (head : store.head = expectedHead) (guarded : admission = none)
      (freshCommand : ∀ stored ∈ store.records, stored.commandId ≠ record.commandId)
      (freshRecord : ∀ stored ∈ store.records, stored.recordId ≠ record.recordId) :
      Answered store record expectedHead admission .committed (store.append record)

theorem publish_answered {store after : TenantStore} {guard : Option TrustedIngress}
    {command : Command}
    (published : publish store record expectedHead (guardCommand guard command) =
      some (disposition, after)) :
    Answered store record expectedHead (guardCommand guard command) disposition after := by
  unfold publish at published
  split at published
  · rename_i existing found
    have stored := List.mem_of_find?_eq_some found
    have same := List.find?_some found
    split at published
    · cases published
      exact .refused _ nofun nofun
    · rename_i payload
      cases published
      exact .replayed existing stored (by simpa using same) (not_not.mp payload)
  · rename_i unknown
    split at published
    · cases published
      exact .refused _ nofun nofun
    · rename_i head
      split at published
      · rename_i refusal guarded
        cases published
        obtain rfl | rfl := guardCommand_refuses guarded
        · exact .refused _ nofun nofun
        · exact .refused _ nofun nofun
      · rename_i guarded
        split at published
        · cases published
        · rename_i unused
          cases published
          refine .committed (not_not.mp head) guarded ?_ ?_
          · intro stored member
            simpa using List.find?_eq_none.mp unknown stored member
          · intro stored member same
            apply unused
            exact List.mem_append_left _ (same ▸ List.mem_map_of_mem member)

/-- What the writer can rely on when it takes up a waiting record: if the head is still the
expected one, the call would decide the same on the store as it is. -/
structure World.Waits (world : World) (pending : Pending) : Prop where
  tenant : pending.record.tenant = pending.call.command.tenant
  behind : pending.expectedHead ≤ (world.stores pending.record.tenant).head
  current : pending.expectedHead = (world.stores pending.record.tenant).head →
    pending.call.attempt (world.stores pending.record.tenant).snapshot =
      .publishing pending.record pending.expectedHead

/-- A store that moved is ahead of everything that waited for its old head. -/
theorem World.Waits.of_grown {before after : World} {pending : Pending}
    (waits : before.Waits pending)
    (grown : ∀ tenant, after.stores tenant = before.stores tenant ∨
      (before.stores tenant).head < (after.stores tenant).head) : after.Waits pending := by
  obtain same | ahead := grown pending.record.tenant
  · exact ⟨waits.tenant, by rw [same]; exact waits.behind, by rw [same]; exact waits.current⟩
  · have behind := waits.behind
    exact ⟨waits.tenant, by omega, fun same => by omega⟩

theorem Answered.grown {store after : TenantStore} {admission : Option Disposition}
    (answered : Answered store record expectedHead admission disposition after) :
    after = store ∨ store.head < after.head := by
  cases answered with
  | refused => exact .inl rfl
  | replayed => exact .inl rfl
  | committed => exact .inr (Nat.lt_succ_self _)

theorem Step.grown {before after : World} {event : Event} (step : Step before event after)
    (tenant : String) : after.stores tenant = before.stores tenant ∨
      (before.stores tenant).head < (after.stores tenant).head := by
  cases step with
  | answered => exact .inl rfl
  | submitted => exact .inl rfl
  | settled waiting published =>
      exact update_grown (publish_answered published).grown tenant
  | dropped => exact .inl rfl
  | foreign => exact update_grown (.inr (Nat.lt_succ_self _)) tenant

theorem History.waits {events : List Event} {world : World} (ran : History events world) :
    ∀ pending ∈ world.pending, world.Waits pending := by
  induction ran with
  | empty =>
      intro pending member
      exact absurd member List.not_mem_nil
  | @step events before after event ran step ih =>
      have grown := step.grown
      intro pending member
      cases step with
      | answered => exact ih pending member
      | submitted read =>
          cases List.mem_append.mp member with
          | inl old => exact (ih pending old).of_grown grown
          | inr new =>
              cases List.mem_singleton.mp new
              obtain ⟨head, -, identity, -, published⟩ := Call.attempt_publishing read
              refine ⟨published.tenant, ?_, ?_⟩
              · rw [published.tenant, head]
                exact Nat.le_refl _
              · intro _
                rw [published.tenant]
                exact read
      | settled waiting published =>
          apply (ih pending ?_).of_grown grown
          rw [waiting]
          exact List.mem_append.mpr ((List.mem_append.mp member).imp_right
            (List.mem_cons_of_mem _))
      | dropped waiting =>
          apply (ih pending ?_).of_grown grown
          rw [waiting]
          exact List.mem_append.mpr ((List.mem_append.mp member).imp_right
            (List.mem_cons_of_mem _))
      | foreign => exact (ih pending member).of_grown grown

/-- Every store an interleaving reaches is reached by whole calls one after the other, and
each of these commits is one the writer answered in the interleaving. -/
theorem History.serial {events : List Event} {world : World} (ran : History events world)
    (tenant : String) :
    ∃ log, Serial tenant log (world.stores tenant) ∧
      ∀ commit ∈ log, ∃ expectedHead, Event.settled ⟨commit.call, commit.record, expectedHead⟩
        commit.guard .committed ∈ events := by
  induction ran with
  | empty => exact ⟨[], .empty, fun commit member => absurd member List.not_mem_nil⟩
  | @step events before after event ran step ih =>
      obtain ⟨log, serial, logged⟩ := ih
      have kept : ∀ commit ∈ log, ∃ expectedHead,
          Event.settled ⟨commit.call, commit.record, expectedHead⟩ commit.guard .committed ∈
            events ++ [event] := by
        intro commit member
        obtain ⟨expectedHead, settled⟩ := logged commit member
        exact ⟨expectedHead, List.mem_append_left _ settled⟩
      cases step with
      | answered => exact ⟨log, serial, kept⟩
      | submitted => exact ⟨log, serial, kept⟩
      | dropped => exact ⟨log, serial, kept⟩
      | @foreign other ids =>
          by_cases same : tenant = other
          · subst same
            exact ⟨log, by simpa using serial.foreign, kept⟩
          · exact ⟨log, by simpa [same] using serial, kept⟩
      | @settled front back pending guard disposition store waiting published =>
          have waits := ran.waits pending (by rw [waiting]; simp)
          by_cases same : tenant = pending.record.tenant
          · subst same
            simp only [Function.update_self]
            cases publish_answered published with
            | refused => exact ⟨log, serial, kept⟩
            | replayed => exact ⟨log, serial, kept⟩
            | committed head guarded freshCommand freshRecord =>
                refine ⟨log ++ [⟨pending.call, guard, pending.record⟩],
                  .committed serial waits.tenant.symm ?_ guarded freshCommand freshRecord, ?_⟩
                · rw [head]
                  exact waits.current head.symm
                · intro commit member
                  cases List.mem_append.mp member with
                  | inl old => exact kept commit old
                  | inr new =>
                      cases List.mem_singleton.mp new
                      exact ⟨pending.expectedHead, List.mem_append_right _ (by simp)⟩
          · exact ⟨log, by simpa [same] using serial, kept⟩

/-! One principal's direct assertion, and the same command prepared instead. -/

def assertedText : String := sentence "pool" "2026-08-18"

def assertedItem : Provenance :=
  { ingressId := "ingress"
    ingressVersion := ⟨1, Nat.one_pos⟩
    utterance := assertedText
    digest := (sha256 (utf8 assertedText)).text
    source := .principal }

def assertedSource : SourceReference :=
  { tenantId := ⟨"tenant", written _ trivial⟩
    owner := ⟨"conversation", written _ trivial⟩
    recordId := ⟨"ingress", written _ trivial⟩
    recordVersion := ⟨"1", written _ trivial⟩
    contentDigest := (sha256 (utf8 assertedText)).identity
    labelHead := ⟨"label", written _ trivial⟩
    label := ⟨.unrestricted, []⟩ }

def assertedSubject : Subject := ⟨⟨"pool", written _ trivial⟩⟩

def assertedPayload : Payload := ⟨"2026-08-18", .completed, by decide +kernel⟩

def assertedDigest : Digest :=
  sha256 (Json.obj [("subject", toJson assertedSubject), ("payload", toJson assertedPayload),
    ("provenance", toJson [assertedItem])]).encode

def assertedClaim : Claim :=
  { subject := assertedSubject
    payload := assertedPayload
    provenance := [assertedItem]
    envelope :=
      { tenantId := ⟨"tenant", written _ trivial⟩
        contentDigest := assertedDigest.identity
        sources := ⟨[assertedSource], by simp⟩
        label := ⟨.unrestricted, []⟩
        policyHead := ⟨"policy", written _ trivial⟩
        contourHead := ⟨"contour", written _ trivial⟩
        deletionFenceHead := ⟨"deletion", written _ trivial⟩ } }

def assertedHeads : Heads := ⟨0, "policy", "credential", "session", "contour", "deletion"⟩

def assertedIdentity : TrustedIngress :=
  { tenant := "tenant"
    principal := "owner"
    heads := assertedHeads
    items := [assertedItem]
    sources := [assertedSource]
    endpoint := "cli"
    confirmations := [] }

def assertedCommand : Command :=
  { commandId := "direct"
    tenant := "tenant"
    principal := "owner"
    action := .recordFact
    claim := assertedClaim
    heads := assertedHeads
    predecessor := none
    display := none
    supersedes := [] }

theorem asserted_disclosed : disclosed assertedClaim assertedIdentity = true := by
  have bound : EnvelopeBound assertedClaim assertedIdentity := by
    exact ⟨rfl, rfl, rfl, rfl, rfl, by simp [assertedClaim], by simp [assertedClaim], rfl, rfl⟩
  have joined : joinSource assertedClaim assertedIdentity ⟨none, false⟩ assertedSource =
      some ⟨none, false⟩ := by
    have known : assertedSource ∈ assertedIdentity.sources := List.mem_singleton.mpr rfl
    have item : assertedItem ∈ assertedIdentity.items := List.mem_singleton.mpr rfl
    have matched : assertedClaim.provenance.filter
        (fun item => item.ingressId = assertedSource.recordId.text) = [assertedItem] := rfl
    have version : assertedSource.contentDigest.text = assertedItem.digest ∧
        assertedSource.recordVersion.text = toString assertedItem.ingressVersion.val :=
      ⟨rfl, (show "1" = toString (1 : Nat) by decide +kernel)⟩
    simp only [joinSource, matched]
    simp [guard, known, item, version]
    rfl
  simp only [disclosed, if_pos bound]
  rw [show assertedClaim.envelope.sources.items = [assertedSource] from rfl, List.foldlM_cons,
    joined]
  rfl

theorem asserted_known :
    identityFor (some assertedIdentity) assertedCommand = some assertedIdentity := rfl

theorem asserted_guarded : guardCommand (some assertedIdentity) assertedCommand = none := by
  simp only [guardCommand, asserted_known]
  rw [if_neg (fun other => other rfl), if_neg (fun hidden => hidden asserted_disclosed)]
  rfl

/-- The sample command is admitted wherever its id is new and the head is the first. -/
theorem asserted_admitted (act : TrustedIngress → Attempt) (snapshot : Snapshot)
    (unknown : replayOf snapshot assertedCommand = none) (head : snapshot.head = 0) :
    admitted (some assertedIdentity) (some assertedIdentity) snapshot assertedCommand act =
      act assertedIdentity := by
  have known : (identityFor (some assertedIdentity) assertedCommand).filter
      (disclosed assertedCommand.claim) = some assertedIdentity := by
    rw [asserted_known]
    exact Option.filter_eq_some_iff.mpr ⟨rfl, asserted_disclosed⟩
  simp only [admitted, known, unknown, asserted_guarded]
  exact if_neg (fun other => other head)

theorem asserted_positive :
    (positiveProof assertedClaim assertedIdentity).all (·.2) = true := by
  have matched : matchSentence assertedText = some ("pool", "2026-08-18") := by decide +kernel
  have item : positiveItem assertedClaim assertedIdentity assertedItem = true := by
    have member : assertedItem ∈ assertedIdentity.items := List.mem_singleton.mpr rfl
    simp only [positiveItem, show assertedItem.utterance = assertedText from rfl, matched, member]
    simp [assertedItem, assertedClaim, assertedSubject, assertedPayload]
  simp [positiveProof, show assertedClaim.provenance = [assertedItem] from rfl, item]

def executedCall : Call :=
  ⟨.execute, assertedCommand, some assertedIdentity, some assertedIdentity⟩

def preparedCall : Call :=
  ⟨.prepare, assertedCommand, some assertedIdentity, some assertedIdentity⟩

def assertedRecord : JournalRecord :=
  claimRecord TenantStore.empty.snapshot assertedCommand assertedIdentity .record

def preparedRecord : JournalRecord :=
  candidateRecord TenantStore.empty.snapshot assertedCommand assertedIdentity

theorem executed_attempt :
    executedCall.attempt TenantStore.empty.snapshot = .publishing assertedRecord 0 := by
  have supersession : ValidSupersession TenantStore.empty.snapshot assertedCommand :=
    ⟨rfl, fun _ member => absurd member List.not_mem_nil⟩
  have entitled : entitledOperation TenantStore.empty.snapshot assertedCommand assertedIdentity =
      .ok .record := by
    simp only [entitledOperation]
    rw [if_pos ⟨rfl, rfl, rfl⟩]
    exact if_pos asserted_positive
  have recorded : recordClaim TenantStore.empty.snapshot assertedCommand assertedIdentity =
      .publishing assertedRecord 0 := by
    simp only [recordClaim, entitled]
    rw [if_neg (not_not.mpr supersession)]
    rfl
  exact (asserted_admitted _ TenantStore.empty.snapshot rfl rfl).trans recorded

theorem prepared_attempt :
    preparedCall.attempt TenantStore.empty.snapshot = .publishing preparedRecord 0 := by
  have supersession : ValidSupersession TenantStore.empty.snapshot assertedCommand :=
    ⟨rfl, fun _ member => absurd member List.not_mem_nil⟩
  have proposed : proposeCandidate TenantStore.empty.snapshot assertedCommand assertedIdentity =
      .publishing preparedRecord 0 := by
    simp only [proposeCandidate]
    rw [if_neg (by simp [assertedCommand]), if_neg (not_not.mpr supersession)]
    rfl
  exact (asserted_admitted _ TenantStore.empty.snapshot rfl rfl).trans proposed

/-- A record that commits as the first of its tenant. -/
def firstWorld (record : JournalRecord) : World :=
  ⟨Function.update World.empty.stores record.tenant (TenantStore.empty.append record), []⟩

def firstEvents (call : Call) (record : JournalRecord) : List Event :=
  [.submitted TenantStore.empty.snapshot ⟨call, record, 0⟩,
    .settled ⟨call, record, 0⟩ (some assertedIdentity) .committed]

theorem first_history {call : Call} {record : JournalRecord}
    (read : call.attempt TenantStore.empty.snapshot = .publishing record 0)
    (same : call.command = assertedCommand) :
    History (firstEvents call record) (firstWorld record) := by
  have submitted : History [.submitted TenantStore.empty.snapshot ⟨call, record, 0⟩]
      ⟨World.empty.stores, [⟨call, record, 0⟩]⟩ :=
    History.empty.step (.submitted read)
  have published : publish TenantStore.empty record 0
      (guardCommand (some assertedIdentity) call.command) =
        some (.committed, TenantStore.empty.append record) := by
    rw [same, asserted_guarded]
    rfl
  have settled : Step ⟨World.empty.stores, [⟨call, record, 0⟩]⟩
      (.settled ⟨call, record, 0⟩ (some assertedIdentity) .committed) (firstWorld record) :=
    @Step.settled _ ⟨World.empty.stores, [⟨call, record, 0⟩]⟩ [] [] ⟨call, record, 0⟩ _ _ _ rfl
      published
  exact submitted.step settled

/-! A correction under a later policy. -/

/-- A call that reads the current store and commits new ids. -/
theorem History.commit {events : List Event} {stores : String → TenantStore}
    (ran : History events ⟨stores, []⟩) {call : Call} {record : JournalRecord}
    {guard : Option TrustedIngress} {store : TenantStore} {tenant : String}
    (current : stores tenant = store) (called : call.command.tenant = tenant)
    (owned : record.tenant = tenant)
    (read : call.attempt store.snapshot = .publishing record store.head)
    (guarded : guardCommand guard call.command = none)
    (command : ∀ stored ∈ store.records, stored.commandId ≠ record.commandId)
    (fresh : record.recordId ∉ store.records.map (·.recordId) ++ store.foreignIds) :
    ∃ more after, History more ⟨after, []⟩ ∧ after tenant = store.append record := by
  subst called current
  have unknown : (stores call.command.tenant).records.find?
      (fun stored => stored.commandId = record.commandId) = none :=
    List.find?_eq_none.mpr (fun stored member => by simpa using command stored member)
  have published : publish (stores record.tenant) record (stores call.command.tenant).head
      (guardCommand guard call.command) =
        some (.committed, (stores call.command.tenant).append record) := by
    rw [owned, guarded]
    unfold publish
    simp only [unknown]
    rw [if_neg (fun moved => moved rfl), if_neg fresh]
  have settled := (ran.step (.submitted read)).step
    (@Step.settled _ ⟨stores, [⟨call, record, (stores call.command.tenant).head⟩]⟩ [] []
      ⟨call, record, (stores call.command.tenant).head⟩ _ _ _ rfl published)
  refine ⟨_, _, settled, ?_⟩
  rw [owned, Function.update_self]

def revisedClaim : Claim :=
  { assertedClaim with
    envelope := { assertedClaim.envelope with policyHead := ⟨"policy-2", written _ trivial⟩ } }

def revisedIdentity (journal : Nat) (confirmations : List ConfirmationIngress) : TrustedIngress :=
  { assertedIdentity with
    heads := { assertedHeads with journal := journal, policy := "policy-2" }
    confirmations := confirmations }

def correctCommand : Command :=
  { commandId := "correct"
    tenant := "tenant"
    principal := "owner"
    action := .correctClaim
    claim := revisedClaim
    heads := (revisedIdentity 1 []).heads
    predecessor := some (claimId assertedCommand)
    display := none
    supersedes := [] }

def factStore : TenantStore := TenantStore.empty.append assertedRecord

def correctRecord : JournalRecord :=
  candidateRecord factStore.snapshot correctCommand (revisedIdentity 1 [])

def correctDisplay : Display := preparedDisplay factStore.snapshot correctCommand

def confirmCommand : Command :=
  { correctCommand with
    commandId := "confirm"
    action := .confirmCandidate
    heads := (revisedIdentity 2 []).heads
    display := some correctDisplay }

def confirmIdentity (journal : Nat) : TrustedIngress :=
  revisedIdentity journal [⟨"confirm", commandDigest confirmCommand⟩]

def candidateStore : TenantStore := factStore.append correctRecord

def confirmRecord : JournalRecord :=
  claimRecord candidateStore.snapshot confirmCommand (confirmIdentity 2) .correct

theorem revised_disclosed (journal : Nat) (confirmations : List ConfirmationIngress) :
    disclosed revisedClaim (revisedIdentity journal confirmations) = true := by
  have bound : EnvelopeBound assertedClaim assertedIdentity :=
    ⟨rfl, rfl, rfl, rfl, rfl, by simp [assertedClaim], by simp [assertedClaim], rfl, rfl⟩
  have revised : EnvelopeBound revisedClaim (revisedIdentity journal confirmations) :=
    ⟨rfl, rfl, rfl, rfl, rfl, bound.2.2.2.2.2.1, bound.2.2.2.2.2.2.1, rfl, rfl⟩
  have shown := asserted_disclosed
  simp only [disclosed, if_pos bound] at shown
  simp only [disclosed, if_pos revised]
  exact shown

omit [Hashlib] in
theorem claim_ne_candidate (first second : String) :
    "journal:claim:" ++ first ≠ "journal:candidate:" ++ second := by
  intro same
  have texts : ("journal:claim:" ++ first).toList.take 10 =
      ("journal:candidate:" ++ second).toList.take 10 := by rw [same]
  rw [String.toList_append, String.toList_append,
    List.take_append_of_le_length (by decide), List.take_append_of_le_length (by decide)] at texts
  exact absurd texts (by decide)

theorem claimId_ne_candidateId (claim candidate : Command) :
    claimId claim ≠ candidateId candidate := claim_ne_candidate _ _

/-- A command of the revision is admitted wherever its id is new and its head current. -/
theorem revised_admitted {command : Command} {journal : Nat}
    (confirmations : List ConfirmationIngress) (act : TrustedIngress → Attempt)
    (snapshot : Snapshot) (tenant : command.tenant = "tenant")
    (principal : command.principal = "owner") (claim : command.claim = revisedClaim)
    (heads : command.heads = (revisedIdentity journal confirmations).heads)
    (unknown : replayOf snapshot command = none) (head : snapshot.head = journal)
    (confirmed : command.action = .confirmCandidate →
      ⟨command.commandId, commandDigest command⟩ ∈ confirmations) :
    admitted (some (revisedIdentity journal confirmations))
        (some (revisedIdentity journal confirmations)) snapshot command act =
      act (revisedIdentity journal confirmations) ∧
    guardCommand (some (revisedIdentity journal confirmations)) command = none := by
  have known : identityFor (some (revisedIdentity journal confirmations)) command =
      some (revisedIdentity journal confirmations) := by
    rw [identityFor, tenant, principal]
    rfl
  have shown : disclosed command.claim (revisedIdentity journal confirmations) = true := by
    rw [claim]
    exact revised_disclosed journal confirmations
  have guarded : guardCommand (some (revisedIdentity journal confirmations)) command = none := by
    simp only [guardCommand, known]
    rw [if_neg (not_not.mpr heads.symm), if_neg (fun hidden => hidden shown), if_neg]
    intro refused
    exact refused.2 (confirmed refused.1)
  have filtered : (identityFor (some (revisedIdentity journal confirmations)) command).filter
      (disclosed command.claim) = some (revisedIdentity journal confirmations) := by
    rw [known]
    exact Option.filter_eq_some_iff.mpr ⟨rfl, shown⟩
  refine ⟨?_, guarded⟩
  simp only [admitted, filtered, unknown, guarded]
  refine if_neg (fun moved => moved ?_)
  rw [head, heads]
  rfl

/-- The fact is what a correction follows, in a store without dispositions. -/
theorem fact_targeted {store : TenantStore} {command : Command} {later : List JournalRecord}
    (records : store.records = assertedRecord :: later)
    (candidates : ∀ record ∈ later, record.kind = .candidateEvidence)
    (predecessor : command.predecessor = some (claimId assertedCommand))
    (principal : command.principal = "owner") :
    targetOf store.snapshot command = some assertedRecord := by
  have found : store.snapshot.records.find? (fun record =>
      some record.recordId = command.predecessor ∧ record.kind ≠ .candidateEvidence ∧
        record.principal = command.principal) = some assertedRecord := by
    rw [TenantStore.snapshot_records, records, predecessor, principal]
    refine List.find?_cons_of_pos ?_
    exact decide_eq_true ⟨rfl, nofun, rfl⟩
  rw [targetOf, found, Option.bind_eq_bind, Option.bind_some, if_neg]
  intro followed
  obtain ⟨record, member, named, kind⟩ := followed
  rw [TenantStore.snapshot_records, records] at member
  rcases List.mem_cons.mp member with rfl | later
  · cases named
  · rw [candidates record later] at kind
    cases kind

theorem unknown_command {store : TenantStore} {command : Command}
    (fresh : ∀ stored ∈ store.records, stored.commandId ≠ command.commandId) :
    replayOf store.snapshot command = none := by
  have unknown : store.snapshot.records.find? (fun record =>
      record.commandId = command.commandId) = none :=
    List.find?_eq_none.mpr (fun stored member => by simpa using fresh stored member)
  simp only [replayOf, unknown]

theorem factStore_records : factStore.records = [assertedRecord] := rfl

theorem correct_admitted (act : TrustedIngress → Attempt) :
    admitted (some (revisedIdentity 1 [])) (some (revisedIdentity 1 [])) factStore.snapshot
        correctCommand act = act (revisedIdentity 1 []) ∧
      guardCommand (some (revisedIdentity 1 [])) correctCommand = none := by
  have unknown : replayOf factStore.snapshot correctCommand = none :=
    unknown_command (by
      intro record member
      rw [factStore_records] at member
      cases List.mem_singleton.mp member
      exact (show "direct" ≠ "correct" by decide))
  exact revised_admitted [] act factStore.snapshot rfl rfl rfl rfl unknown rfl nofun

theorem correct_attempt :
    Call.attempt ⟨.prepare, correctCommand, some (revisedIdentity 1 []),
      some (revisedIdentity 1 [])⟩ factStore.snapshot = .publishing correctRecord 1 := by
  have predecessor : correctCommand.predecessor = some (claimId assertedCommand) := rfl
  have target : targetOf factStore.snapshot correctCommand = some assertedRecord :=
    fact_targeted factStore_records (fun _ member => absurd member List.not_mem_nil) predecessor rfl
  have supersession : ValidSupersession factStore.snapshot correctCommand :=
    ⟨rfl, fun _ member => absurd member List.not_mem_nil⟩
  have proposed : proposeCandidate factStore.snapshot correctCommand (revisedIdentity 1 []) =
      .publishing correctRecord 1 := by
    simp only [proposeCandidate, target]
    rw [if_neg (by simp [correctCommand]), if_neg (not_not.mpr supersession), if_neg (by simp),
      if_neg]
    · rfl
    · intro differs
      obtain ⟨found, same, other⟩ := differs
      cases same
      exact other rfl
  exact (correct_admitted _).1.trans proposed

theorem candidateStore_records : candidateStore.records = [assertedRecord, correctRecord] := rfl

/-- The confirmation finds its candidate, as displayed, and no rival of it. -/
theorem confirm_entitled :
    entitledOperation candidateStore.snapshot confirmCommand (confirmIdentity 2) =
      .ok .correct := by
  have digested : correctDisplay.digest = displayDigest correctDisplay := rfl
  have unlike : assertedRecord.recordId ≠ correctRecord.recordId :=
    claimId_ne_candidateId assertedCommand correctCommand
  have found : confirmedCandidate candidateStore.snapshot confirmCommand correctDisplay =
      some correctRecord := by
    have first : candidateStore.snapshot.records.find? (fun record =>
        record.recordId = correctDisplay.candidateId ∧ record.kind = .candidateEvidence) =
          some correctRecord := by
      rw [TenantStore.snapshot_records, candidateStore_records, List.find?_cons_of_neg,
        List.find?_cons_of_pos]
      · exact decide_eq_true ⟨rfl, rfl⟩
      · intro taken
        cases (of_decide_eq_true taken).2
    rw [confirmedCandidate, first]
    exact Option.filter_eq_some_iff.mpr ⟨rfl, decide_eq_true ⟨rfl, rfl, rfl, rfl, rfl, rfl⟩⟩
  have resolves : Resolves candidateStore.snapshot confirmCommand correctDisplay correctRecord := by
    have alone : ((rivalsOf candidateStore.snapshot confirmCommand correctRecord).map
        (·.recordId)).filter (· ≠ correctRecord.recordId) = [] := by
      rw [List.filter_eq_nil_iff]
      intro id rival other
      obtain ⟨record, member, rfl⟩ := List.mem_map.mp rival
      obtain ⟨stored, kind, -⟩ := mem_rivalsOf.mp member
      rw [TenantStore.snapshot_records, candidateStore_records] at stored
      rcases List.mem_cons.mp stored with rfl | later
      · cases kind
      · cases List.mem_singleton.mp later
        exact of_decide_eq_true other rfl
    refine ⟨rfl, rfl, ?_⟩
    rw [alone]
    rfl
  have displayed : confirmCommand.display.filter
      (fun display => display.digest = displayDigest display) = some correctDisplay :=
    Option.filter_eq_some_iff.mpr ⟨rfl, decide_eq_true digested⟩
  have confirms : confirmCommand.action = .confirmCandidate := rfl
  simp only [entitledOperation]
  rw [if_neg (by simp [confirmCommand]), if_pos confirms]
  simp only [displayed, found]
  exact if_pos resolves

theorem confirm_targeted :
    targetOf candidateStore.snapshot confirmCommand = some assertedRecord := by
  have predecessor : confirmCommand.predecessor = some (claimId assertedCommand) := rfl
  refine fact_targeted candidateStore_records ?_ predecessor rfl
  intro record member
  cases List.mem_singleton.mp member
  rfl

theorem confirm_admitted (act : TrustedIngress → Attempt) :
    admitted (some (confirmIdentity 2)) (some (confirmIdentity 2)) candidateStore.snapshot
        confirmCommand act = act (confirmIdentity 2) ∧
      guardCommand (some (confirmIdentity 2)) confirmCommand = none := by
  have unknown : replayOf candidateStore.snapshot confirmCommand = none :=
    unknown_command (by
      intro record member
      rw [candidateStore_records] at member
      rcases List.mem_cons.mp member with rfl | later
      · exact (show "direct" ≠ "confirm" by decide)
      · cases List.mem_singleton.mp later
        exact (show "correct" ≠ "confirm" by decide))
  exact revised_admitted [⟨"confirm", commandDigest confirmCommand⟩] act candidateStore.snapshot rfl
    rfl rfl rfl unknown rfl (fun _ => List.mem_singleton.mpr rfl)

theorem confirm_attempt :
    Call.attempt ⟨.execute, confirmCommand, some (confirmIdentity 2), some (confirmIdentity 2)⟩
      candidateStore.snapshot = .publishing confirmRecord 2 := by
  have target := confirm_targeted
  have supersession : ValidSupersession candidateStore.snapshot confirmCommand :=
    ⟨rfl, fun _ member => absurd member List.not_mem_nil⟩
  have recorded : recordClaim candidateStore.snapshot confirmCommand (confirmIdentity 2) =
      .publishing confirmRecord 2 := by
    simp only [recordClaim, confirm_entitled, target]
    rw [if_neg (not_not.mpr supersession), if_neg]
    · rfl
    · intro differs
      exact differs rfl
  exact (confirm_admitted _).1.trans recorded

def confirmStore : TenantStore := candidateStore.append confirmRecord

theorem confirmStore_records :
    confirmStore.records = [assertedRecord, correctRecord, confirmRecord] := rfl

/-- The fact, its correction as a candidate, and the confirmed correction. -/
theorem revised_history (fresh : claimId confirmCommand ≠ claimId assertedCommand) :
    ∃ events world, History events world ∧ world.stores "tenant" = confirmStore := by
  have first : (firstWorld assertedRecord).stores "tenant" = factStore := rfl
  have correctFresh : correctRecord.recordId ∉ factStore.records.map (·.recordId) ++
      factStore.foreignIds := by
    intro taken
    have taken : correctRecord.recordId ∈ [assertedRecord.recordId] := taken
    exact claimId_ne_candidateId assertedCommand correctCommand (List.mem_singleton.mp taken).symm
  have confirmFresh : confirmRecord.recordId ∉ candidateStore.records.map (·.recordId) ++
      candidateStore.foreignIds := by
    intro taken
    have taken : confirmRecord.recordId ∈ [assertedRecord.recordId, correctRecord.recordId] := taken
    rcases List.mem_cons.mp taken with same | later
    · exact fresh same
    · exact claimId_ne_candidateId confirmCommand correctCommand (List.mem_singleton.mp later)
  have correctNew : ∀ stored ∈ factStore.records, stored.commandId ≠ correctRecord.commandId := by
    intro stored member
    rw [factStore_records] at member
    cases List.mem_singleton.mp member
    exact (show "direct" ≠ "correct" by decide)
  have confirmNew : ∀ stored ∈ candidateStore.records,
      stored.commandId ≠ confirmRecord.commandId := by
    intro stored member
    rw [candidateStore_records] at member
    rcases List.mem_cons.mp member with rfl | later
    · exact (show "direct" ≠ "confirm" by decide)
    · cases List.mem_singleton.mp later
      exact (show "correct" ≠ "confirm" by decide)
  have ran : History (firstEvents executedCall assertedRecord)
      ⟨(firstWorld assertedRecord).stores, []⟩ := first_history executed_attempt rfl
  obtain ⟨_, _, second, held⟩ := ran.commit first rfl rfl correct_attempt
    (correct_admitted (fun _ => refused .denied none)).2
    correctNew correctFresh
  obtain ⟨more, after, third, stored⟩ := second.commit held rfl rfl confirm_attempt
    (confirm_admitted (fun _ => refused .denied none)).2 confirmNew confirmFresh
  exact ⟨more, ⟨after, []⟩, third, stored⟩

end

end Chiplog.EvidenceJournal
