import Chiplog.EvidenceJournal.Lineage

namespace Chiplog.EvidenceJournal

open Chiplog.Data

/-! What a successful reply says.

`execute` should only report success for a claim and `prepare` only for a candidate.  Both
look a command id up among the records of every kind, so a command that went through one of
them is answered by the other with the record of the first: the replies fit exactly in the
histories where no call crosses over like that. -/

/-- COMMITTED and REPLAY report success. -/
def Outcome.Succeeded (outcome : Outcome) : Prop :=
  outcome.disposition = .committed ∨ outcome.disposition = .replay

/-- The kind of record an entry point is there to publish. -/
def Entry.Publishes : Entry → JournalRecord → Prop
  | .prepare, record => record.kind = .candidateEvidence
  | .execute, record => isClaim record

theorem refused_not_succeeded {disposition : Disposition} {reason : Option String}
    {outcome : Outcome} (refusal : refused disposition reason = .answered outcome)
    (uncommitted : disposition ≠ .committed) (unreplayed : disposition ≠ .replay) :
    ¬outcome.Succeeded := by
  cases refusal
  rintro (committed | replayed)
  · exact uncommitted committed
  · exact unreplayed replayed

section

variable [Hashlib]

/-- The journal holds the record, as far as the digest of its bytes tells. -/
def Recorded (records : List JournalRecord) (record : JournalRecord) : Prop :=
  ∃ stored ∈ records, stored.commandId = record.commandId ∧
    payloadDigest stored = payloadDigest record

/-- A reply whose success is about a record of the entry point's own kind. -/
def ReplyFits (records : List JournalRecord) (entry : Entry) (outcome : Outcome) : Prop :=
  outcome.Succeeded →
    ∃ record, outcome.record = some record ∧ entry.Publishes record ∧ Recorded records record

/-- The reply of an event, if it has one, fits the entry point that gave it. -/
def Event.Fits (world : World) : Event → Prop
  | .answered call _ outcome =>
      ReplyFits (world.stores call.command.tenant).records call.entry outcome
  | .settled pending _ disposition =>
      ReplyFits (world.stores pending.call.command.tenant).records pending.call.entry
        (settledOutcome pending.record disposition)
  | _ => True

/-- The call is admitted to the replay lookup and finds its own command there, recorded by
the other entry point. -/
def Call.CrossesOver (call : Call) (snapshot : Snapshot) : Prop :=
  (∃ identity, identityFor call.authenticated call.command = some identity ∧
      disclosed call.command.claim identity = true) ∧
    ∃ found, snapshot.records.find? (fun record =>
        record.commandId = call.command.commandId) = some found ∧
      found.fingerprint = commandDigest call.command ∧ ¬call.entry.Publishes found

/-- The event is a call that crosses over on the snapshot it reads. -/
def Event.CrossesOver : Event → Prop
  | .answered call snapshot _ => call.CrossesOver snapshot
  | .submitted snapshot pending => pending.call.CrossesOver snapshot
  | _ => False

variable {snapshot : Snapshot} {command : Command} {identity : TrustedIngress} {outcome : Outcome}

theorem proposeCandidate_answered
    (answered : proposeCandidate snapshot command identity = .answered outcome) :
    ¬outcome.Succeeded := by
  unfold proposeCandidate at answered
  split at answered
  · exact refused_not_succeeded answered nofun nofun
  · split at answered
    · exact refused_not_succeeded answered nofun nofun
    · split at answered
      · exact refused_not_succeeded answered nofun nofun
      · split at answered
        · exact refused_not_succeeded answered nofun nofun
        · cases answered

theorem recordClaim_answered
    (answered : recordClaim snapshot command identity = .answered outcome) :
    ¬outcome.Succeeded := by
  unfold recordClaim at answered
  split at answered
  · exact refused_not_succeeded answered nofun nofun
  · split at answered
    · rename_i answer refusal
      obtain ⟨disposition, rfl, uncommitted, unreplayed⟩ := entitledOperation_error refusal
      exact refused_not_succeeded answered uncommitted unreplayed
    · split at answered
      · exact refused_not_succeeded answered nofun nofun
      · cases answered
    · split at answered
      · exact refused_not_succeeded answered nofun nofun
      · split at answered
        · exact refused_not_succeeded answered nofun nofun
        · cases answered

/-- An answer that reports success is a replay of a stored record. -/
theorem admitted_answered {authenticated recheck : Option TrustedIngress}
    {act : TrustedIngress → Attempt}
    (refuses : ∀ identity, act identity = .answered outcome → ¬outcome.Succeeded)
    (answered : admitted authenticated recheck snapshot command act = .answered outcome)
    (succeeded : outcome.Succeeded) :
    (∃ identity, identityFor authenticated command = some identity ∧
        disclosed command.claim identity = true) ∧ replayOf snapshot command = some outcome := by
  unfold admitted at answered
  split at answered
  · exact absurd succeeded (refused_not_succeeded answered nofun nofun)
  · rename_i identity known
    obtain ⟨authentic, shown⟩ := Option.filter_eq_some_iff.mp known
    split at answered
    · rename_i replayed found
      cases answered
      exact ⟨⟨identity, authentic, shown⟩, found⟩
    · split at answered
      · rename_i disposition guarded
        obtain rfl | rfl := guardCommand_refuses guarded
        · exact absurd succeeded (refused_not_succeeded answered nofun nofun)
        · exact absurd succeeded (refused_not_succeeded answered nofun nofun)
      · split at answered
        · exact absurd succeeded (refused_not_succeeded answered nofun nofun)
        · exact absurd succeeded (refuses identity answered)

theorem replayOf_succeeded (replayed : replayOf snapshot command = some outcome)
    (succeeded : outcome.Succeeded) :
    ∃ found, snapshot.records.find? (fun record => record.commandId = command.commandId) =
        some found ∧ found.fingerprint = commandDigest command ∧
      outcome = ⟨.replay, some found, none⟩ := by
  unfold replayOf at replayed
  split at replayed
  · cases replayed
  · rename_i found lookup
    split at replayed
    · cases replayed
      rcases succeeded with committed | isReplay
      · cases committed
      · cases isReplay
    · rename_i same
      cases replayed
      exact ⟨found, lookup, not_not.mp same, rfl⟩

variable {call : Call}

theorem Call.attempt_answered (answered : call.attempt snapshot = .answered outcome)
    (succeeded : outcome.Succeeded) :
    (∃ identity, identityFor call.authenticated call.command = some identity ∧
        disclosed call.command.claim identity = true) ∧
      ∃ found, snapshot.records.find? (fun record =>
          record.commandId = call.command.commandId) = some found ∧
        found.fingerprint = commandDigest call.command ∧
        outcome = ⟨.replay, some found, none⟩ := by
  have admittance : (∃ identity, identityFor call.authenticated call.command = some identity ∧
      disclosed call.command.claim identity = true) ∧
        replayOf snapshot call.command = some outcome := by
    cases entry : call.entry with
    | prepare =>
        simp only [Call.attempt, entry] at answered
        exact admitted_answered (fun _ => proposeCandidate_answered) answered succeeded
    | execute =>
        simp only [Call.attempt, entry] at answered
        exact admitted_answered (fun _ => recordClaim_answered) answered succeeded
  exact ⟨admittance.1, replayOf_succeeded admittance.2 succeeded⟩

/-- A call that crosses over is answered with the other entry point's record. -/
theorem Call.CrossesOver.answered (crosses : call.CrossesOver snapshot) :
    ∃ found, snapshot.records.find? (fun record =>
        record.commandId = call.command.commandId) = some found ∧
      call.attempt snapshot = .answered ⟨.replay, some found, none⟩ ∧
      ¬call.entry.Publishes found := by
  obtain ⟨⟨identity, known, shown⟩, found, lookup, fingerprint, other⟩ := crosses
  have admittance : (identityFor call.authenticated call.command).filter
      (disclosed call.command.claim) = some identity :=
    Option.filter_eq_some_iff.mpr ⟨known, shown⟩
  have replayed : replayOf snapshot call.command = some ⟨.replay, some found, none⟩ := by
    simp only [replayOf, lookup]
    exact if_neg (fun different => different fingerprint)
  refine ⟨found, lookup, ?_, other⟩
  cases entry : call.entry <;>
    simp only [Call.attempt, entry, prepare, execute, admitted, admittance, replayed]

theorem recorded_of_mem {records : List JournalRecord} {record : JournalRecord}
    (member : record ∈ records) : Recorded records record :=
  ⟨record, member, rfl, rfl⟩

theorem Call.fits_iff {records : List JournalRecord}
    (answered : call.attempt snapshot = .answered outcome)
    (kept : ∀ record ∈ snapshot.records, record ∈ records) :
    ReplyFits records call.entry outcome ↔ ¬call.CrossesOver snapshot := by
  constructor
  · intro fits crosses
    obtain ⟨found, -, replay, other⟩ := crosses.answered
    rw [answered] at replay
    cases replay
    obtain ⟨record, same, publishes, -⟩ := fits (.inr rfl)
    cases same
    exact other publishes
  · intro straight succeeded
    obtain ⟨admittance, found, lookup, fingerprint, rfl⟩ :=
      Call.attempt_answered answered succeeded
    refine ⟨found, rfl, ?_, recorded_of_mem (kept found (List.mem_of_find?_eq_some lookup))⟩
    by_contra other
    exact straight ⟨admittance, found, lookup, fingerprint, other⟩

theorem Published.publishes {record : JournalRecord}
    (published : Published snapshot call identity record) : call.entry.Publishes record := by
  cases published with
  | prepared entry =>
      rw [entry]
      rfl
  | asserted entry =>
      rw [entry]
      exact nofun
  | confirmed entry action display =>
      rw [entry]
      intro candidate
      simp only [claimRecord] at candidate
      split at candidate <;> cases candidate

theorem Answered.mono {store after : TenantStore} {record : JournalRecord} {expectedHead : Nat}
    {admission : Option Disposition} {disposition : Disposition}
    (answered : Answered store record expectedHead admission disposition after) :
    ∀ stored ∈ store.records, stored ∈ after.records := by
  intro stored member
  cases answered with
  | refused => exact member
  | replayed => exact member
  | committed =>
      rw [TenantStore.records_append]
      exact List.mem_append_left _ member

/-- No step takes a record away. -/
theorem Step.records_mono {before after : World} {event : Event}
    (step : Step before event after) (tenant : String) :
    ∀ record ∈ (before.stores tenant).records, record ∈ (after.stores tenant).records := by
  intro record member
  cases step with
  | answered => exact member
  | submitted => exact member
  | dropped => exact member
  | @settled front back pending guard disposition store waiting published =>
      by_cases same : tenant = pending.record.tenant
      · subst same
        simpa using (publish_answered published).mono record member
      · simpa [same] using member
  | @foreign other ids =>
      by_cases same : tenant = other
      · subst same
        simpa using member
      · simpa [same] using member

/-- What an event of a history rests on, in every world the history goes on to. -/
def Event.Backed (world : World) : Event → Prop
  | .answered call snapshot outcome => call.attempt snapshot = .answered outcome ∧
      ∀ record ∈ snapshot.records, record ∈ (world.stores call.command.tenant).records
  | .submitted snapshot pending =>
      pending.call.attempt snapshot = .publishing pending.record pending.expectedHead
  | .settled pending _ disposition => pending.call.entry.Publishes pending.record ∧
      (disposition = .committed ∨ disposition = .replay →
        Recorded (world.stores pending.call.command.tenant).records pending.record)
  | _ => True

theorem Event.Backed.mono {before after : World} {event : Event} (backed : event.Backed before)
    (grown : ∀ tenant, ∀ record ∈ (before.stores tenant).records,
      record ∈ (after.stores tenant).records) : event.Backed after := by
  cases event with
  | answered call snapshot outcome =>
      exact ⟨backed.1, fun record member => grown _ record (backed.2 record member)⟩
  | submitted snapshot pending => exact backed
  | settled pending guard disposition =>
      refine ⟨backed.1, fun succeeded => ?_⟩
      obtain ⟨stored, member, same⟩ := backed.2 succeeded
      exact ⟨stored, grown _ stored member, same⟩
  | dropped pending => trivial
  | foreign tenant ids => trivial

theorem History.pending_publishes {events : List Event} {world : World}
    (ran : History events world) :
    ∀ pending ∈ world.pending, pending.call.entry.Publishes pending.record := by
  induction ran with
  | empty =>
      intro pending member
      exact absurd member List.not_mem_nil
  | step ran step ih =>
      intro pending member
      cases step with
      | answered => exact ih pending member
      | submitted read =>
          cases List.mem_append.mp member with
          | inl old => exact ih pending old
          | inr new =>
              cases List.mem_singleton.mp new
              obtain ⟨-, -, identity, -, published⟩ := Call.attempt_publishing read
              exact published.publishes
      | settled waiting =>
          apply ih pending
          rw [waiting]
          exact List.mem_append.mpr ((List.mem_append.mp member).imp_right
            (List.mem_cons_of_mem _))
      | dropped waiting =>
          apply ih pending
          rw [waiting]
          exact List.mem_append.mpr ((List.mem_append.mp member).imp_right
            (List.mem_cons_of_mem _))
      | foreign => exact ih pending member

theorem Answered.recorded {store after : TenantStore} {record : JournalRecord}
    {expectedHead : Nat} {admission : Option Disposition} {disposition : Disposition}
    (answered : Answered store record expectedHead admission disposition after)
    (succeeded : disposition = .committed ∨ disposition = .replay) :
    Recorded after.records record := by
  cases answered with
  | refused _ uncommitted unreplayed =>
      rcases succeeded with committed | replayed
      · exact absurd committed uncommitted
      · exact absurd replayed unreplayed
  | replayed existing stored command payload => exact ⟨existing, stored, command, payload⟩
  | committed =>
      rw [TenantStore.records_append]
      exact recorded_of_mem (List.mem_append_right _ (by simp))

theorem History.backed {events : List Event} {world : World} (ran : History events world) :
    ∀ event ∈ events, event.Backed world := by
  induction ran with
  | empty =>
      intro event member
      exact absurd member List.not_mem_nil
  | @step events before after event ran step ih =>
      intro other member
      cases List.mem_append.mp member with
      | inl old => exact (ih other old).mono step.records_mono
      | inr new =>
          cases List.mem_singleton.mp new
          cases step with
          | answered read => exact ⟨read, fun record member => member⟩
          | submitted read => exact read
          | @settled front back pending guard disposition store waiting published =>
              have waits := ran.waits pending (by rw [waiting]; simp)
              refine ⟨ran.pending_publishes pending (by rw [waiting]; simp), fun succeeded => ?_⟩
              rw [← waits.tenant]
              simpa using (publish_answered published).recorded succeeded
          | dropped => trivial
          | foreign => trivial

theorem Event.Backed.fits_iff {world : World} {event : Event} (backed : event.Backed world) :
    event.Fits world ↔ ¬event.CrossesOver := by
  cases event with
  | answered call snapshot outcome => exact Call.fits_iff backed.1 backed.2
  | submitted snapshot pending =>
      constructor
      · intro _ crosses
        obtain ⟨found, -, answered, -⟩ := Call.CrossesOver.answered crosses
        have read : pending.call.attempt snapshot = _ := backed
        rw [read] at answered
        cases answered
      · intro _
        trivial
  | settled pending guard disposition =>
      constructor
      · intro _ crosses
        exact crosses
      · intro _ succeeded
        exact ⟨pending.record, if_pos succeeded, backed.1, backed.2 succeeded⟩
  | dropped pending => exact ⟨fun _ crosses => crosses, fun _ => trivial⟩
  | foreign tenant ids => exact ⟨fun _ crosses => crosses, fun _ => trivial⟩

/-- All replies of a history fit their entry points exactly when none of its calls finds its
own command recorded by the other entry point. -/
theorem replies_fit_iff {events : List Event} {world : World} (ran : History events world) :
    (∀ event ∈ events, event.Fits world) ↔ ∀ event ∈ events, ¬event.CrossesOver := by
  constructor
  · intro fits event member
    exact (ran.backed event member).fits_iff.mp (fits event member)
  · intro straight event member
    exact (ran.backed event member).fits_iff.mpr (straight event member)

/-- The sample command executed after it was prepared. -/
def crossedEvents : List Event :=
  firstEvents preparedCall preparedRecord ++
    [.answered executedCall ((firstWorld preparedRecord).stores "tenant").snapshot
      ⟨.replay, some preparedRecord, none⟩]

theorem crossed_over :
    executedCall.CrossesOver ((firstWorld preparedRecord).stores "tenant").snapshot :=
  ⟨⟨assertedIdentity, asserted_known, asserted_disclosed⟩, preparedRecord, rfl, rfl,
    fun claim => claim rfl⟩

theorem crossed_history : History crossedEvents (firstWorld preparedRecord) := by
  have ran := first_history prepared_attempt rfl
  obtain ⟨found, lookup, replayed, -⟩ := crossed_over.answered
  cases lookup
  exact ran.step (.answered replayed)

end

/-- Prepared and then executed, the sample command is reported as recorded while the journal
holds its candidate only. -/
theorem executed_candidate_misfits :
    letI := Sha256.hashlib
    History crossedEvents (firstWorld preparedRecord) ∧
      ((firstWorld preparedRecord).stores "tenant").records = [preparedRecord] ∧
      preparedRecord.kind = .candidateEvidence ∧
      ¬∀ event ∈ crossedEvents, event.Fits (firstWorld preparedRecord) := by
  let _ := Sha256.hashlib
  refine ⟨crossed_history, rfl, rfl, fun fits => ?_⟩
  have last := fits (.answered executedCall ((firstWorld preparedRecord).stores "tenant").snapshot
    ⟨.replay, some preparedRecord, none⟩) (List.mem_append_right _ (by simp))
  obtain ⟨record, same, claim, -⟩ := last (.inr rfl)
  cases same
  exact claim rfl

/-- The sample assertion alone crosses nothing. -/
theorem replies_fit_asserted :
    letI := Sha256.hashlib
    History (firstEvents executedCall assertedRecord) (firstWorld assertedRecord) ∧
      ∀ event ∈ firstEvents executedCall assertedRecord,
        event.Fits (firstWorld assertedRecord) := by
  let _ := Sha256.hashlib
  have ran := first_history executed_attempt rfl
  refine ⟨ran, (replies_fit_iff ran).mpr ?_⟩
  intro event member crosses
  cases List.mem_cons.mp member with
  | inl submitted =>
      rw [submitted] at crosses
      obtain ⟨-, found, lookup, -⟩ := crosses
      cases lookup
  | inr settled =>
      rw [List.mem_singleton.mp settled] at crosses
      exact crosses

end Chiplog.EvidenceJournal
