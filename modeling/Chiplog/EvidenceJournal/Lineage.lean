import Chiplog.Data.Sha256
import Chiplog.Data.Succession
import Chiplog.EvidenceJournal.History

namespace Chiplog.EvidenceJournal

open Chiplog.Data

/-! Lineage of claims.

The claims of a tenant, candidates left out, are a log of succession: a FactClaim starts a
family under its own id, a ClaimDisposition follows a claim that nothing follows yet.  The
target check, the comparison of the head and the command id together make it one. -/

def isClaim (record : JournalRecord) : Prop := record.kind ≠ .candidateEvidence

instance : DecidablePred isClaim := fun record =>
  inferInstanceAs (Decidable (record.kind ≠ .candidateEvidence))

def claims (records : List JournalRecord) : List JournalRecord :=
  records.filter (fun record => isClaim record)

theorem mem_claims {records : List JournalRecord} {record : JournalRecord} :
    record ∈ claims records ↔ record ∈ records ∧ isClaim record := by
  simp [claims]

def claimSuccession : Succession JournalRecord String :=
  ⟨JournalRecord.recordId, JournalRecord.predecessor, JournalRecord.family⟩

/-- A ClaimDisposition that names `earlier` as its predecessor. -/
def Supersedes (later earlier : JournalRecord) : Prop :=
  later.kind = .claimDisposition ∧ later.predecessor = some earlier.recordId

/-- One link of a predecessor chain of claims. -/
def ChainLink (records : List JournalRecord) (later earlier : JournalRecord) : Prop :=
  later ∈ records ∧ earlier ∈ records ∧ isClaim earlier ∧ Supersedes later earlier

/-- What holds of the lineage of a tenant's records. -/
structure LineageSound (records : List JournalRecord) : Prop where
  recordIds : (records.map (·.recordId)).Nodup
  commandIds : (records.map (·.commandId)).Nodup
  successor : ∀ earlier ∈ records, isClaim earlier → ∀ first ∈ records, ∀ second ∈ records,
    Supersedes first earlier → Supersedes second earlier → first = second
  chain : ∀ later earlier, Relation.ReflTransGen (ChainLink records) later earlier →
    later.family = earlier.family ∧ later.claim.subject = earlier.claim.subject ∧
      later.principal = earlier.principal
  start : ∀ record ∈ records, isClaim record → ∃ fact ∈ records,
    Relation.ReflTransGen (ChainLink records) record fact ∧ fact.kind = .factClaim ∧
      fact.family = fact.recordId
  tip : ∀ record ∈ records, isClaim record → ∃! tip, tip ∈ records ∧ isClaim tip ∧
    tip.family = record.family ∧ ∀ later ∈ records, ¬Supersedes later tip

theorem targetOf_some {snapshot : Snapshot} {command : Command} {target : JournalRecord}
    (targeted : targetOf snapshot command = some target) :
    target ∈ snapshot.records ∧ command.predecessor = some target.recordId ∧ isClaim target ∧
      target.principal = command.principal ∧
      ∀ record ∈ snapshot.records, ¬Supersedes record target := by
  obtain ⟨found, selected, unfollowed⟩ := Option.bind_eq_some_iff.mp targeted
  split at unfollowed
  · cases unfollowed
  · rename_i unfollowedYet
    cases unfollowed
    have matched := List.find?_some selected
    simp only [ne_eq, decide_eq_true_eq] at matched
    refine ⟨List.mem_of_find?_eq_some selected, matched.1.symm, matched.2.1, matched.2.2, ?_⟩
    intro record member supersedes
    exact unfollowedYet ⟨record, member, supersedes.2, supersedes.1⟩

theorem targetOf_unlinked {snapshot : Snapshot} {command : Command}
    (unlinked : command.predecessor = none) : targetOf snapshot command = none := by
  cases targeted : targetOf snapshot command with
  | none => rfl
  | some target =>
      have named := (targetOf_some targeted).2.1
      rw [unlinked] at named
      cases named

/-- A claim as it is appended: it starts a family, or follows a claim that nothing follows. -/
inductive Appended (records : List JournalRecord) (record : JournalRecord) : Prop
  | candidate (kind : record.kind = .candidateEvidence)
  | fact (kind : record.kind = .factClaim) (unlinked : record.predecessor = none)
      (family : record.family = record.recordId)
  | disposition (kind : record.kind = .claimDisposition) (target : JournalRecord)
      (member : target ∈ records) (claim : isClaim target)
      (linked : record.predecessor = some target.recordId)
      (unfollowed : ∀ later ∈ records, ¬Supersedes later target)
      (family : record.family = target.family)
      (subject : record.claim.subject = target.claim.subject)
      (principal : record.principal = target.principal)

/-- The records of a tenant as a log of succession. -/
structure ClaimLog (records : List JournalRecord) : Prop where
  log : claimSuccession.Log (claims records)
  facts : ∀ record ∈ records, record.kind = .factClaim → record.predecessor = none
  dispositions : ∀ record ∈ records, record.kind = .claimDisposition → ∃ target ∈ records,
    isClaim target ∧ record.predecessor = some target.recordId ∧
      record.claim.subject = target.claim.subject ∧ record.principal = target.principal
  recordIds : (records.map (·.recordId)).Nodup
  commandIds : (records.map (·.commandId)).Nodup

theorem ClaimLog.nil : ClaimLog [] :=
  ⟨.nil, fun _ member => absurd member List.not_mem_nil,
    fun _ member => absurd member List.not_mem_nil, .nil, .nil⟩

theorem nodup_map_snoc {α β : Type} {field : α → β} {items : List α} {item : α}
    (distinct : (items.map field).Nodup) (fresh : ∀ stored ∈ items, field stored ≠ field item) :
    ((items ++ [item]).map field).Nodup := by
  simp only [List.map_append, List.map_cons, List.map_nil]
  apply List.nodup_append'.mpr
  refine ⟨distinct, List.nodup_singleton _, ?_⟩
  simpa [List.disjoint_singleton] using fresh

variable {records : List JournalRecord} {record later earlier : JournalRecord}

theorem claims_snoc_candidate (kind : record.kind = .candidateEvidence) :
    claims (records ++ [record]) = claims records := by
  simp [claims, isClaim, kind]

theorem claims_snoc_claim (claim : isClaim record) :
    claims (records ++ [record]) = claims records ++ [record] := by
  simp [claims, claim]

/-- In the log only a disposition names a predecessor. -/
theorem ClaimLog.supersedes (log : ClaimLog records) (member : later ∈ claims records)
    (linked : later.predecessor = some earlier.recordId) : Supersedes later earlier := by
  obtain ⟨present, claim⟩ := mem_claims.mp member
  refine ⟨?_, linked⟩
  cases kind : later.kind with
  | factClaim =>
      rw [log.facts later present kind] at linked
      cases linked
  | claimDisposition => rfl
  | candidateEvidence => exact absurd kind claim

theorem ClaimLog.snoc (log : ClaimLog records) (appended : Appended records record)
    (freshRecord : ∀ stored ∈ records, stored.recordId ≠ record.recordId)
    (freshCommand : ∀ stored ∈ records, stored.commandId ≠ record.commandId) :
    ClaimLog (records ++ [record]) := by
  refine ⟨?_, ?_, ?_, nodup_map_snoc log.recordIds freshRecord,
    nodup_map_snoc log.commandIds freshCommand⟩
  · have fresh : ∀ stored ∈ claims records, stored.recordId ≠ record.recordId :=
      fun stored member => freshRecord stored (mem_claims.mp member).1
    cases appended with
    | candidate kind => rw [claims_snoc_candidate kind]; exact log.log
    | fact kind unlinked family =>
        rw [claims_snoc_claim (by simp [isClaim, kind])]
        exact log.log.snoc fresh (.root unlinked family)
    | disposition kind target member claim linked unfollowed family subject principal =>
        rw [claims_snoc_claim (by simp [isClaim, kind])]
        refine log.log.snoc fresh (.next target (mem_claims.mpr ⟨member, claim⟩) linked ?_ family)
        intro other otherMember otherLinked
        exact unfollowed other (mem_claims.mp otherMember).1
          (log.supersedes otherMember otherLinked)
  · intro other member kind
    cases List.mem_append.mp member with
    | inl old => exact log.facts other old kind
    | inr new =>
        rw [List.mem_singleton.mp new] at kind ⊢
        cases appended with
        | candidate otherKind => rw [otherKind] at kind; cases kind
        | fact _ unlinked => exact unlinked
        | disposition otherKind => rw [otherKind] at kind; cases kind
  · intro other member kind
    cases List.mem_append.mp member with
    | inl old =>
        obtain ⟨target, present, rest⟩ := log.dispositions other old kind
        exact ⟨target, List.mem_append_left _ present, rest⟩
    | inr new =>
        rw [List.mem_singleton.mp new] at kind ⊢
        cases appended with
        | candidate otherKind => rw [otherKind] at kind; cases kind
        | fact otherKind => rw [otherKind] at kind; cases kind
        | disposition _ target present claim linked _ _ subject principal =>
            exact ⟨target, List.mem_append_left _ present, claim, linked, subject, principal⟩

theorem ClaimLog.eq_of_recordId (log : ClaimLog records) (member : later ∈ records)
    (other : earlier ∈ records) (same : later.recordId = earlier.recordId) : later = earlier :=
  List.inj_on_of_nodup_map log.recordIds member other same

/-- Links of a chain and links of the log are the same. -/
theorem ClaimLog.chainLink_iff (log : ClaimLog records) :
    ChainLink records later earlier ↔ claimSuccession.Follows (claims records) later earlier := by
  constructor
  · rintro ⟨member, present, claim, kind, linked⟩
    exact ⟨mem_claims.mpr ⟨member, by simp [isClaim, kind]⟩, mem_claims.mpr ⟨present, claim⟩,
      linked⟩
  · rintro ⟨member, present, linked⟩
    obtain ⟨present, claim⟩ := mem_claims.mp present
    exact ⟨(mem_claims.mp member).1, present, claim, log.supersedes member linked⟩

theorem ClaimLog.chainLink_eq (log : ClaimLog records) :
    ChainLink records = claimSuccession.Follows (claims records) := by
  funext later earlier
  exact propext log.chainLink_iff

theorem ClaimLog.sound (log : ClaimLog records) : LineageSound records := by
  refine ⟨log.recordIds, log.commandIds, ?_, ?_, ?_, ?_⟩
  · intro earlier present claim first firstMember second secondMember supersedes otherSupersedes
    exact log.log.single (mem_claims.mpr ⟨firstMember, by simp [isClaim, supersedes.1]⟩)
      (mem_claims.mpr ⟨secondMember, by simp [isClaim, otherSupersedes.1]⟩) supersedes.2
      otherSupersedes.2
  · intro later earlier path
    have linked : ∀ later earlier, ChainLink records later earlier →
        later.claim.subject = earlier.claim.subject ∧ later.principal = earlier.principal := by
      intro later earlier link
      obtain ⟨member, present, claim, kind, named⟩ := link
      obtain ⟨target, targetPresent, -, targetNamed, subject, principal⟩ :=
        log.dispositions later member kind
      rw [named] at targetNamed
      have same := log.eq_of_recordId present targetPresent (Option.some.inj targetNamed)
      rw [same]
      exact ⟨subject, principal⟩
    rw [log.chainLink_eq] at path linked
    exact ⟨Succession.chain_constant (·.family) (fun _ _ => log.log.follows_family) path,
      Succession.chain_constant (·.claim.subject) (fun _ _ link => (linked _ _ link).1) path,
      Succession.chain_constant (·.principal) (fun _ _ link => (linked _ _ link).2) path⟩
  · intro record member claim
    rw [log.chainLink_eq]
    obtain ⟨root, present, path, first, own⟩ := log.log.chain (mem_claims.mpr ⟨member, claim⟩)
    obtain ⟨rootMember, rootClaim⟩ := mem_claims.mp present
    refine ⟨root, rootMember, path, ?_, own⟩
    cases kind : root.kind with
    | factClaim => rfl
    | claimDisposition =>
        obtain ⟨target, -, -, named, -⟩ := log.dispositions root rootMember kind
        have first : root.predecessor = none := first
        rw [first] at named
        cases named
    | candidateEvidence => exact absurd kind rootClaim
  · intro record member claim
    obtain ⟨tip, ⟨present, family, unfollowed⟩, unique⟩ :=
      log.log.tip (mem_claims.mpr ⟨member, claim⟩)
    obtain ⟨tipMember, tipClaim⟩ := mem_claims.mp present
    refine ⟨tip, ⟨tipMember, tipClaim, family, ?_⟩, ?_⟩
    · intro later laterMember supersedes
      exact unfollowed later (mem_claims.mpr ⟨laterMember, by simp [isClaim, supersedes.1]⟩)
        supersedes.2
    · rintro other ⟨otherMember, otherClaim, otherFamily, otherOpen⟩
      refine unique other ⟨mem_claims.mpr ⟨otherMember, otherClaim⟩, otherFamily, ?_⟩
      intro later laterMember linked
      exact otherOpen later (mem_claims.mp laterMember).1 (log.supersedes laterMember linked)

section

variable [Hashlib]

theorem claimRecord_unlinked {snapshot : Snapshot} {command : Command} {identity : TrustedIngress}
    (unlinked : command.predecessor = none) :
    Appended snapshot.records (claimRecord snapshot command identity .record) := by
  refine .fact rfl unlinked ?_
  simp only [claimRecord, targetOf_unlinked unlinked]

theorem Published.appended {snapshot : Snapshot} {call : Call} {identity : TrustedIngress}
    {record : JournalRecord} (published : Published snapshot call identity record) :
    Appended snapshot.records record := by
  cases published with
  | prepared => exact .candidate rfl
  | asserted entry action undisplayed unlinked positive => exact claimRecord_unlinked unlinked
  | confirmed entry action display candidate displayed found supersession resolves recorded
      followed =>
      by_cases operation : display.operation = .record
      · rw [operation]
        exact claimRecord_unlinked (recorded operation)
      · obtain ⟨target, targeted, subject⟩ := followed operation
        obtain ⟨member, linked, claim, principal, unfollowed⟩ := targetOf_some targeted
        refine .disposition (if_neg operation) target member claim linked unfollowed ?_
          subject.symm principal.symm
        simp only [claimRecord, targeted]

theorem Serial.claimLog {tenant : String} {log : List Commit} {store : TenantStore}
    (serial : Serial tenant log store) : ClaimLog store.records := by
  induction serial with
  | empty => exact .nil
  | committed ran inTenant read guarded freshCommand freshRecord ih =>
      obtain ⟨-, -, identity, -, published⟩ := Call.attempt_publishing read
      rw [TenantStore.records_append]
      exact ih.snoc published.appended freshRecord freshCommand
  | foreign ran ih => exact ih

/-- The lineage of every tenant is sound, whatever calls were made and in whatever order
their publications reached the store. -/
theorem journal_lineage_sound {events : List Event} {world : World} (ran : History events world)
    (tenant : String) : LineageSound (world.stores tenant).records := by
  obtain ⟨log, serial, -⟩ := ran.serial tenant
  exact serial.claimLog.sound

end

theorem revised_fresh :
    letI := Sha256.hashlib
    claimId confirmCommand ≠ claimId assertedCommand := by
  decide +kernel

/-- The sample assertion and the correction of it that was confirmed. -/
theorem journal_lineage_sound_corrected :
    letI := Sha256.hashlib
    ∃ events world, History events world ∧
      (world.stores "tenant").records = [assertedRecord, correctRecord, confirmRecord] ∧
      LineageSound (world.stores "tenant").records := by
  let _ := Sha256.hashlib
  obtain ⟨events, world, ran, stored⟩ := revised_history revised_fresh
  refine ⟨events, world, ran, ?_, journal_lineage_sound ran "tenant"⟩
  rw [stored, confirmStore_records]

end Chiplog.EvidenceJournal
