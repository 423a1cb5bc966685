import Chiplog.EvidenceJournal.Lineage

namespace Chiplog.EvidenceJournal

variable {store : TenantStore} {candidate : JournalRecord}

open Chiplog.Data Chiplog.AgentLoop

/-! Assertion, confirmation and single use of candidates.

A claim is either the closed sentence its principal uttered, or the confirmation of the
candidate published right before it.  A confirmation uses up its candidate and the rivals it
was shown; the head bound into the display and the set of used candidates keep every
candidate to one claim. -/

theorem mem_consumedBy {records : List JournalRecord} {principal id : String} :
    id ∈ consumedBy records principal ↔
      ∃ record ∈ records, record.principal = principal ∧ isClaim record ∧ id ∈ consumes record := by
  simp only [consumedBy, List.mem_flatMap]
  constructor
  · rintro ⟨record, member, used⟩
    split at used
    · rename_i owned
      exact ⟨record, member, owned.1, owned.2, used⟩
    · cases used
  · rintro ⟨record, member, owner, claim, used⟩
    refine ⟨record, member, ?_⟩
    rw [if_pos ⟨owner, claim⟩]
    exact used

theorem matchGroups_some {rest : List Char} {subject date : String}
    (matched : matchGroups rest = some (subject, date)) :
    rest = subject.toList ++ ' ' :: (date.toList ++ ['.']) := by
  unfold matchGroups at matched
  obtain ⟨shaped, parts⟩ := Option.ite_none_right_eq_some.mp matched
  simp only [Option.some.injEq, Prod.mk.injEq] at parts
  have spelled : rest = rest.takeWhile identityChar ++ rest.dropWhile identityChar :=
    List.takeWhile_append_dropWhile.symm
  rw [shaped.2.2, parts.2] at spelled
  rw [← parts.1, String.toList_ofList]
  exact spelled

/-- A matched utterance is the closed sentence of what it names. -/
theorem matchSentence_some {utterance subject date : String}
    (matched : matchSentence utterance = some (subject, date)) :
    utterance = sentence subject date := by
  obtain ⟨rest, dropped, matched⟩ := Option.bind_eq_some_iff.mp matched
  obtain ⟨lead, whole, leads⟩ := List.dropPrefix?_eq_some_iff.mp dropped
  apply String.toList_inj.mp
  rw [whole, eq_of_beq leads, matchGroups_some matched]
  simp [sentence]

theorem confirmedCandidate_some {snapshot : Snapshot} {command : Command} {display : Display}
    (found : confirmedCandidate snapshot command display = some candidate) :
    candidate ∈ snapshot.records ∧ candidate.recordId = display.candidateId ∧
      candidate.kind = .candidateEvidence ∧ candidate.principal = command.principal ∧
      candidate.display = some display ∧ display.claim = command.claim ∧
      display.heads = command.heads ∧ display.predecessor = command.predecessor := by
  obtain ⟨selected, exactly⟩ := Option.filter_eq_some_iff.mp found
  have named := List.find?_some selected
  simp only [decide_eq_true_eq] at named exactly
  exact ⟨List.mem_of_find?_eq_some selected, named.1, named.2, exactly.1, exactly.2.1,
    exactly.2.2.1, exactly.2.2.2.1, exactly.2.2.2.2.1⟩

/-- A candidate row shows its own claim under the head it was published at. -/
structure CandidateShown (row : StoredRecord) (display : Display) : Prop where
  shown : row.record.display = some display
  claim : display.claim = row.record.claim
  predecessor : display.predecessor = row.record.predecessor
  head : display.heads.journal = row.sequence
  own : display.candidateId = row.record.recordId

/-- What a tenant's rows say about the candidates they name. -/
structure Consumption (store : TenantStore) : Prop where
  bounded : ∀ row ∈ store.rows, row.sequence ≤ store.head
  candidates : ∀ row ∈ store.rows, row.record.kind = .candidateEvidence →
    ∃ display, CandidateShown row display
  named : ∀ row ∈ store.rows, ∀ id ∈ consumes row.record, ∃ candidate ∈ store.rows,
    candidate.record.recordId = id ∧ candidate.record.kind = .candidateEvidence ∧
      candidate.record.principal = row.record.principal ∧
      (isClaim row.record → candidate.sequence < row.sequence)
  once : ∀ first ∈ store.rows, ∀ second ∈ store.rows, isClaim first.record →
    isClaim second.record → ∀ id ∈ consumes first.record, id ∈ consumes second.record →
      first = second

theorem mem_records {record : JournalRecord} :
    record ∈ store.records ↔ ∃ row ∈ store.rows, row.record = record := by
  simp [TenantStore.records]

theorem row_eq_of_recordId {first second : StoredRecord}
    (distinct : (store.records.map (·.recordId)).Nodup) (member : first ∈ store.rows)
    (other : second ∈ store.rows) (same : first.record.recordId = second.record.recordId) :
    first = second := by
  rw [TenantStore.records, List.map_map] at distinct
  exact List.inj_on_of_nodup_map distinct member other same

theorem Consumption.empty : Consumption .empty :=
  ⟨fun _ member => absurd member List.not_mem_nil, fun _ member => absurd member List.not_mem_nil,
    fun _ member => absurd member List.not_mem_nil,
    fun _ member => absurd member List.not_mem_nil⟩

/-- The head moves, the rows stay. -/
theorem Consumption.advance (kept : Consumption store)
    (ids : List String) : Consumption (store.advance ids) :=
  ⟨fun row member => Nat.le_succ_of_le (kept.bounded row member), kept.candidates, kept.named,
    kept.once⟩

/-- What a new record has to show for the candidates it names. -/
structure Names (store : TenantStore) (record : JournalRecord) : Prop where
  candidate : record.kind = .candidateEvidence →
    ∃ display, CandidateShown ⟨store.head + 1, record⟩ display
  named : ∀ id ∈ consumes record,
    (record.kind = .candidateEvidence ∧ id = record.recordId) ∨
    ∃ candidate ∈ store.rows, candidate.record.recordId = id ∧
      candidate.record.kind = .candidateEvidence ∧
      candidate.record.principal = record.principal
  unused : isClaim record → ∀ row ∈ store.rows, isClaim row.record →
    ∀ id ∈ consumes row.record, id ∉ consumes record

theorem Consumption.append {record : JournalRecord}
    (kept : Consumption store) (names : Names store record) :
    Consumption (store.append record) := by
  have split : ∀ row, row ∈ (store.append record).rows →
      row ∈ store.rows ∨ row = ⟨store.head + 1, record⟩ := by
    intro row member
    simpa [TenantStore.append] using member
  have old : ∀ row ∈ store.rows, row ∈ (store.append record).rows :=
    fun row member => List.mem_append_left _ member
  refine ⟨?_, ?_, ?_, ?_⟩
  · intro row member
    obtain present | rfl := split row member
    · exact Nat.le_succ_of_le (kept.bounded row present)
    · exact Nat.le_refl _
  · intro row member kind
    obtain present | rfl := split row member
    · exact kept.candidates row present kind
    · exact names.candidate kind
  · intro row member id used
    obtain present | rfl := split row member
    · obtain ⟨candidate, candidateMember, facts⟩ := kept.named row present id used
      exact ⟨candidate, old candidate candidateMember, facts⟩
    · obtain ⟨kind, own⟩ | ⟨candidate, candidateMember, same, kind, principal⟩ :=
        names.named id used
      · exact ⟨_, member, own.symm, kind, rfl, fun claim => absurd kind claim⟩
      · refine ⟨candidate, old candidate candidateMember, same, kind, principal, fun _ => ?_⟩
        exact Nat.lt_succ_of_le (kept.bounded candidate candidateMember)
  · intro first firstMember second secondMember firstClaim secondClaim id firstUsed secondUsed
    obtain firstOld | rfl := split first firstMember
    · obtain secondOld | rfl := split second secondMember
      · exact kept.once first firstOld second secondOld firstClaim secondClaim id firstUsed
          secondUsed
      · exact absurd secondUsed (names.unused secondClaim first firstOld firstClaim id firstUsed)
    · obtain secondOld | rfl := split second secondMember
      · exact absurd firstUsed (names.unused firstClaim second secondOld secondClaim id secondUsed)
      · rfl

theorem mem_eligible {snapshot : Snapshot} {command : Command} {id : String} :
    id ∈ eligible snapshot command ↔ ∃ record ∈ snapshot.records, record.recordId = id ∧
      record.kind = .candidateEvidence ∧ record.principal = command.principal ∧
      record.claim.subject = command.claim.subject ∧ record.predecessor = command.predecessor := by
  simp only [eligible, List.mem_map, List.mem_filter, decide_eq_true_eq]
  constructor
  · rintro ⟨record, ⟨member, facts⟩, same⟩
    exact ⟨record, member, same, facts⟩
  · rintro ⟨record, member, same, facts⟩
    exact ⟨record, ⟨member, facts⟩, same⟩

theorem Resolves.rival {snapshot : Snapshot} {command : Command} {display : Display}
    (resolves : Resolves snapshot command display candidate)
    {id : String} (superseded : id ∈ display.supersedes) :
    ∃ rival ∈ rivalsOf snapshot command candidate, rival.recordId = id := by
  have member : id ∈ display.supersedes.toFinset := List.mem_toFinset.mpr superseded
  rw [resolves.2.2, List.mem_toFinset, List.mem_filter, List.mem_map] at member
  exact member.1

/-- The row of a confirmed candidate is the last publication of its tenant. -/
theorem Consumption.confirmed_row (kept : Consumption store) {call : Call} {display : Display}
    (found : confirmedCandidate store.snapshot call.command display = some candidate)
    (current : store.head = call.command.heads.journal) :
    ∃ row ∈ store.rows, row.record = candidate ∧ row.sequence = store.head := by
  obtain ⟨member, -, kind, -, shown, -, heads, -⟩ := confirmedCandidate_some found
  obtain ⟨row, present, rfl⟩ := mem_records.mp member
  obtain ⟨own, displayed⟩ := kept.candidates row present kind
  have same : own = display := Option.some.inj (displayed.shown.symm.trans shown)
  refine ⟨row, present, rfl, ?_⟩
  rw [← displayed.head, same, heads, current]

section

variable [Hashlib]

theorem guardCommand_confirmed {guard : Option TrustedIngress} {command : Command}
    (guarded : guardCommand guard command = none) (action : command.action = .confirmCandidate) :
    ∃ identity, guard = some identity ∧ identity.tenant = command.tenant ∧
      identity.principal = command.principal ∧
      ⟨command.commandId, commandDigest command⟩ ∈ identity.confirmations := by
  unfold guardCommand at guarded
  split at guarded
  · cases guarded
  · rename_i identity known
    obtain ⟨authentic, scope⟩ := Option.filter_eq_some_iff.mp known
    simp only [decide_eq_true_eq, Prod.mk.injEq] at scope
    split at guarded
    · cases guarded
    · split at guarded
      · cases guarded
      · split at guarded
        · cases guarded
        · rename_i listed
          refine ⟨identity, authentic, scope.1, scope.2, ?_⟩
          by_contra missing
          exact listed ⟨action, missing⟩

variable {store : TenantStore} {call : Call} {identity : TrustedIngress} {record : JournalRecord}

theorem Published.names (published : Published store.snapshot call identity record)
    (kept : Consumption store) (distinct : (store.records.map (·.recordId)).Nodup)
    (current : store.head = call.command.heads.journal) : Names store record := by
  cases published with
  | prepared entry undisplayed unconfirmed supersession followed subject =>
      refine ⟨fun _ => ⟨preparedDisplay store.snapshot call.command, rfl, rfl, rfl, rfl, rfl⟩, ?_,
        fun claim => absurd rfl claim⟩
      intro id used
      cases List.mem_cons.mp used with
      | inl own => exact .inl ⟨rfl, own⟩
      | inr superseded =>
          obtain ⟨other, member, same, kind, principal, -⟩ :=
            mem_eligible.mp (supersession.2 id superseded)
          obtain ⟨row, present, rfl⟩ := mem_records.mp member
          exact .inr ⟨row, present, same, kind, principal⟩
  | asserted entry action undisplayed unlinked positive =>
      have nothing : consumes (claimRecord store.snapshot call.command identity .record) = [] := by
        simp only [consumes, claimRecord, undisplayed]
      refine ⟨by simp [claimRecord], ?_, ?_⟩
      · rw [nothing]
        exact fun id used => absurd used List.not_mem_nil
      · rw [nothing]
        exact fun _ _ _ _ _ _ => List.not_mem_nil
  | confirmed entry action display candidate displayed found supersession resolves recorded
      followed =>
      obtain ⟨row, present, isCandidate, sequence⟩ := kept.confirmed_row found current
      obtain ⟨member, sameId, kind, principal, -⟩ := confirmedCandidate_some found
      have uses : consumes (claimRecord store.snapshot call.command identity display.operation) =
          display.candidateId :: display.supersedes := by
        simp only [consumes, claimRecord, displayed]
      refine ⟨?_, ?_, ?_⟩
      · intro isCandidate
        simp only [claimRecord] at isCandidate
        split at isCandidate <;> cases isCandidate
      · rw [uses]
        intro id used
        right
        cases List.mem_cons.mp used with
        | inl own =>
            exact ⟨row, present, by rw [isCandidate, sameId, own], by rw [isCandidate, kind],
              by rw [isCandidate]; exact principal⟩
        | inr superseded =>
            obtain ⟨rival, rivalMember, same⟩ := resolves.rival superseded
            obtain ⟨stored, rivalKind, rivalPrincipal, -⟩ := mem_rivalsOf.mp rivalMember
            obtain ⟨rivalRow, rivalPresent, rfl⟩ := mem_records.mp stored
            exact ⟨rivalRow, rivalPresent, same, rivalKind, rivalPrincipal⟩
      · rw [uses]
        intro _ other otherPresent otherClaim id otherUses used
        obtain ⟨named, namedPresent, namedId, namedKind, namedPrincipal, earlier⟩ :=
          kept.named other otherPresent id otherUses
        cases List.mem_cons.mp used with
        | inl own =>
            -- the candidate is the last publication, so nothing can have used it yet
            have same : named = row := by
              apply row_eq_of_recordId distinct namedPresent present
              rw [namedId, isCandidate, sameId, own]
            have before := earlier otherClaim
            have last := kept.bounded other otherPresent
            rw [same] at before
            omega
        | inr superseded =>
            -- a rival the principal's claims have not used
            obtain ⟨rival, rivalMember, same⟩ := resolves.rival superseded
            obtain ⟨stored, rivalKind, rivalPrincipal, -, -, free⟩ := mem_rivalsOf.mp rivalMember
            obtain ⟨rivalRow, rivalPresent, rfl⟩ := mem_records.mp stored
            have isRival : named = rivalRow :=
              row_eq_of_recordId distinct namedPresent rivalPresent (namedId.trans same.symm)
            apply free
            rw [same]
            apply mem_consumedBy.mpr
            refine ⟨other.record, mem_records.mpr ⟨other, otherPresent, rfl⟩, ?_, otherClaim,
              otherUses⟩
            rw [← namedPrincipal, isRival, rivalPrincipal]

/-- Why a claim is in the journal: its principal said so in the closed form, or confirmed the
candidate that was the last publication of the tenant.  The commit sequence counts the
publications of every owner. -/
inductive Justified (log : List Commit) (rows : List StoredRecord) (row : StoredRecord) : Prop
  | asserted (kind : row.record.kind = .factClaim) (item : Provenance)
      (provenance : row.record.claim.provenance = [item]) (source : item.source = .principal)
      (utterance : item.utterance = sentence row.record.claim.subject.identity.text
        row.record.claim.payload.date)
      (outcome : row.record.claim.payload.outcome = .completed)
  | confirmed (candidate : StoredRecord) (member : candidate ∈ rows)
      (kind : candidate.record.kind = .candidateEvidence) (display : Display)
      (shown : candidate.record.display = some display)
      (carried : row.record.display = some display)
      (principal : candidate.record.principal = row.record.principal)
      (claim : candidate.record.claim = row.record.claim)
      (predecessor : candidate.record.predecessor = row.record.predecessor)
      (last : row.sequence = candidate.sequence + 1)
      (commit : Commit) (committed : commit ∈ log) (record : commit.record = row.record)
      (confirmer : TrustedIngress) (guard : commit.guard = some confirmer)
      (confirmerPrincipal : confirmer.principal = row.record.principal)
      (listed : ⟨commit.call.command.commandId, commandDigest commit.call.command⟩ ∈
        confirmer.confirmations)

theorem Justified.append {log more : List Commit} {rows later : List StoredRecord}
    {row : StoredRecord} (justified : Justified log rows row) :
    Justified (log ++ more) (rows ++ later) row := by
  cases justified with
  | asserted kind item provenance source utterance outcome =>
      exact .asserted kind item provenance source utterance outcome
  | confirmed candidate member kind display shown carried principal claim predecessor last commit
      committed record confirmer guard confirmerPrincipal listed =>
      exact .confirmed candidate (List.mem_append_left _ member) kind display shown carried
        principal claim predecessor last commit (List.mem_append_left _ committed) record
        confirmer guard confirmerPrincipal listed

/-- A full positive proof is the closed sentence of the one provenance item. -/
theorem positiveProof_all {claim : Claim}
    (positive : (positiveProof claim identity).all (·.2) = true) :
    ∃ item, claim.provenance = [item] ∧ item.source = .principal ∧
      item.utterance = sentence claim.subject.identity.text claim.payload.date ∧
      claim.payload.outcome = .completed := by
  unfold positiveProof at positive
  split at positive
  · rename_i item provenance
    have valid : positiveItem claim identity item = true := by
      simpa [proofPredicates] using positive
    unfold positiveItem at valid
    split at valid
    · cases valid
    · rename_i subject date matched
      simp only [Bool.and_eq_true, decide_eq_true_eq] at valid
      obtain ⟨⟨⟨⟨⟨-, source⟩, -⟩, named⟩, dated⟩, outcome⟩ := valid
      refine ⟨item, provenance, source, ?_, outcome⟩
      rw [matchSentence_some matched, named, dated]
  · simp [proofPredicates] at positive

theorem Published.justified {log : List Commit} {guard : Option TrustedIngress}
    (published : Published store.snapshot call identity record) (kept : Consumption store)
    (current : store.head = call.command.heads.journal)
    (guarded : guardCommand guard call.command = none) (claim : isClaim record) :
    Justified (log ++ [⟨call, guard, record⟩]) (store.append record).rows
      ⟨store.head + 1, record⟩ := by
  cases published with
  | prepared => exact absurd rfl claim
  | asserted entry action undisplayed unlinked positive =>
      obtain ⟨item, provenance, source, utterance, outcome⟩ := positiveProof_all positive
      exact .asserted rfl item provenance source utterance outcome
  | confirmed entry action display candidate displayed found supersession resolves recorded
      followed =>
      obtain ⟨row, present, rfl, sequence⟩ := kept.confirmed_row found current
      obtain ⟨-, -, kind, principal, shown, sameClaim, -, predecessor⟩ :=
        confirmedCandidate_some found
      obtain ⟨own, displayedOwn⟩ := kept.candidates row present kind
      have same : own = display := Option.some.inj (displayedOwn.shown.symm.trans shown)
      subst same
      obtain ⟨confirmer, isGuard, -, confirmerPrincipal, listed⟩ :=
        guardCommand_confirmed guarded action
      exact .confirmed row (List.mem_append_left _ present) kind own shown displayed principal
        (displayedOwn.claim.symm.trans sameClaim)
        (displayedOwn.predecessor.symm.trans predecessor) (by rw [sequence])
        ⟨call, guard, _⟩ (List.mem_append_right _ (by simp)) rfl confirmer isGuard
        confirmerPrincipal listed

theorem Serial.consumption {tenant : String} {log : List Commit}
    (serial : Serial tenant log store) :
    Consumption store ∧ ∀ row ∈ store.rows, isClaim row.record → Justified log store.rows row := by
  induction serial with
  | empty => exact ⟨.empty, fun _ member => absurd member List.not_mem_nil⟩
  | @committed log store call record guard ran inTenant read guarded freshCommand freshRecord ih =>
      obtain ⟨-, current, identity, -, published⟩ := Call.attempt_publishing read
      have names := published.names ih.1 ran.claimLog.recordIds current
      refine ⟨ih.1.append names, ?_⟩
      intro row member claim
      cases List.mem_append.mp member with
      | inl old => exact (ih.2 row old claim).append
      | inr new =>
          cases List.mem_singleton.mp new
          exact published.justified ih.1 current guarded claim
  | foreign ran ih => exact ⟨ih.1.advance _, ih.2⟩

/-- No claim without an assertion or a confirmation, and no candidate used by two claims. -/
theorem claims_asserted_or_confirmed {events : List Event} {world : World}
    (ran : History events world) (tenant : String) :
    ∃ log, (∀ commit ∈ log, ∃ expectedHead, Event.settled ⟨commit.call, commit.record,
        expectedHead⟩ commit.guard .committed ∈ events) ∧
      (∀ row ∈ (world.stores tenant).rows, row.record.kind ≠ .candidateEvidence →
        Justified log (world.stores tenant).rows row) ∧
      ∀ candidate ∈ (world.stores tenant).records, candidate.kind = .candidateEvidence →
        ∀ first ∈ (world.stores tenant).records, ∀ second ∈ (world.stores tenant).records,
          first.kind ≠ .candidateEvidence → second.kind ≠ .candidateEvidence →
          candidate.recordId ∈ consumes first → candidate.recordId ∈ consumes second →
            first = second := by
  obtain ⟨log, serial, settled⟩ := ran.serial tenant
  obtain ⟨kept, justified⟩ := serial.consumption
  refine ⟨log, settled, justified, ?_⟩
  intro candidate _ _ first firstMember second secondMember firstClaim secondClaim firstUses
    secondUses
  obtain ⟨firstRow, firstPresent, rfl⟩ := mem_records.mp firstMember
  obtain ⟨secondRow, secondPresent, rfl⟩ := mem_records.mp secondMember
  rw [kept.once firstRow firstPresent secondRow secondPresent firstClaim secondClaim
    candidate.recordId firstUses secondUses]

end

/-- The sample assertion, which the principal uttered, and the correction that was confirmed. -/
theorem claims_asserted_or_confirmed_corrected :
    letI := Sha256.hashlib
    ∃ events world log, History events world ∧
      (world.stores "tenant").rows =
        [⟨1, assertedRecord⟩, ⟨2, correctRecord⟩, ⟨3, confirmRecord⟩] ∧
      Justified log (world.stores "tenant").rows ⟨1, assertedRecord⟩ ∧
      Justified log (world.stores "tenant").rows ⟨3, confirmRecord⟩ := by
  let _ := Sha256.hashlib
  obtain ⟨events, world, ran, stored⟩ := revised_history revised_fresh
  obtain ⟨log, -, justified, -⟩ := claims_asserted_or_confirmed ran "tenant"
  have rows : (world.stores "tenant").rows =
      [⟨1, assertedRecord⟩, ⟨2, correctRecord⟩, ⟨3, confirmRecord⟩] := by
    rw [stored]
    rfl
  refine ⟨events, world, log, ran, rows, justified _ ?_ nofun, justified _ ?_ nofun⟩
  · simp [rows]
  · simp [rows]

end Chiplog.EvidenceJournal
