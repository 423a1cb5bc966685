import Chiplog.EvidenceJournal.Confirmation
import Chiplog.EvidenceJournal.Projection

namespace Chiplog.EvidenceJournal

open Chiplog.Data

/-! Isolation of principals.

In a reachable store a family and everything a display names belong to one principal.  So a
read by a principal is the same on the whole store as on that principal's records alone, and
two stores that agree on these cannot be told apart. -/

/-- The records of one principal. -/
def ownRecords (principal : String) (records : List JournalRecord) : List JournalRecord :=
  records.filter (fun record => record.principal = principal)

theorem mem_ownRecords {principal : String} {records : List JournalRecord}
    {record : JournalRecord} :
    record ∈ ownRecords principal records ↔ record ∈ records ∧ record.principal = principal := by
  simp [ownRecords]

/-- Families and displays stay with one principal. -/
structure Separated (records : List JournalRecord) : Prop where
  distinct : (records.map (·.recordId)).Nodup
  family : ∀ first ∈ records, ∀ second ∈ records, first.family = second.family →
    first.principal = second.principal
  named : ∀ record ∈ records, ∀ id ∈ consumes record, ∀ other ∈ records,
    other.recordId = id → other.principal = record.principal

/-- Ids that no record of another principal carries. -/
def Belongs (records : List JournalRecord) (principal : String) (ids : Finset String) : Prop :=
  ∀ record ∈ records, record.recordId ∈ ids → record.principal = principal

variable {records items : List JournalRecord} {principal family : String} {ids : Finset String}

theorem Belongs.closeStep {record : JournalRecord} (separated : Separated records)
    (member : record ∈ records) (belongs : Belongs records principal ids) :
    Belongs records principal (closeStep ids record) := by
  intro other otherMember chosen
  obtain old | ⟨own, named⟩ := mem_closeStep.mp chosen
  · exact belongs other otherMember old
  · rw [separated.named record member other.recordId named other otherMember rfl]
    exact belongs record member own

/-- A pass over the whole store and a pass over the principal's records choose the same. -/
theorem closeOver_own (separated : Separated records) (inside : ∀ item ∈ items, item ∈ records)
    (belongs : Belongs records principal ids) :
    closeOver items ids = closeOver (ownRecords principal items) ids ∧
      Belongs records principal (closeOver items ids) := by
  unfold closeOver
  induction items generalizing ids with
  | nil => exact ⟨rfl, belongs⟩
  | cons record rest ih =>
      have member := inside record List.mem_cons_self
      have later : ∀ item ∈ rest, item ∈ records :=
        fun item present => inside item (List.mem_cons_of_mem _ present)
      obtain ⟨same, kept⟩ := ih later (belongs.closeStep separated member)
      refine ⟨?_, kept⟩
      by_cases own : record.principal = principal
      · simpa [ownRecords, own] using same
      · -- a foreign record is not chosen, so it chooses nothing
        have unchosen : closeStep ids record = ids := by
          rw [closeStep, if_neg (fun chosen => own (belongs record member chosen))]
        rw [unchosen] at same
        simpa [ownRecords, own, unchosen] using same

theorem closeIds_own (separated : Separated records) (belongs : Belongs records principal ids) :
    closeIds records ids = closeIds (ownRecords principal records) ids ∧
      Belongs records principal (closeIds records ids) := by
  induction ids using closeIds.induct records with
  | case1 ids stable =>
      obtain ⟨same, -⟩ := closeOver_own separated (fun _ member => member) belongs
      rw [closeIds, if_pos stable, closeIds, if_pos (same.symm.trans stable)]
      exact ⟨rfl, belongs⟩
  | case2 ids grown ih =>
      obtain ⟨same, kept⟩ := closeOver_own separated (fun _ member => member) belongs
      obtain ⟨rest, restBelongs⟩ := ih kept
      rw [closeIds, if_neg grown]
      refine ⟨?_, restBelongs⟩
      rw [rest]
      nth_rewrite 2 [closeIds]
      rw [if_neg (fun stable => grown (same.trans stable)), ← same]

/-- Nothing chosen, nothing added. -/
theorem closeIds_empty (records : List JournalRecord) : closeIds records ∅ = ∅ := by
  have stable : closeOver records ∅ = ∅ := by
    unfold closeOver
    induction records with
    | nil => rfl
    | cons record rest ih => exact ih
  rw [closeIds, if_pos stable]

theorem filter_own {select : JournalRecord → Bool}
    (own : ∀ record ∈ records, select record = true → record.principal = principal) :
    records.filter select = (ownRecords principal records).filter select := by
  rw [ownRecords, List.filter_filter]
  apply List.filter_congr
  intro record member
  cases chosen : select record with
  | false => rfl
  | true => simp [own record member chosen]

/-- The closure of a family of the principal reads the principal's records only. -/
theorem closure_own (separated : Separated records) {record : JournalRecord}
    (member : record ∈ records) (own : record.principal = principal) :
    closure records record.family = closure (ownRecords principal records) record.family := by
  have first : records.filter (fun other => other.family = record.family) =
      (ownRecords principal records).filter (fun other => other.family = record.family) := by
    apply filter_own
    intro other otherMember same
    rw [separated.family other otherMember record member (by simpa using same), own]
  have begins : Belongs records principal ((records.filter
      (fun other => other.family = record.family)).map (·.recordId)).toFinset := by
    intro other otherMember chosen
    obtain ⟨named, present, sameId⟩ := List.mem_map.mp (List.mem_toFinset.mp chosen)
    obtain ⟨namedMember, sameFamily⟩ := List.mem_filter.mp present
    rw [← List.inj_on_of_nodup_map separated.distinct namedMember otherMember sameId,
      separated.family named namedMember record member (by simpa using sameFamily), own]
  obtain ⟨same, belongs⟩ := closeIds_own separated begins
  unfold closure
  simp only
  rw [← first, ← same]
  apply filter_own
  intro other otherMember chosen
  exact belongs other otherMember (by simpa using chosen)

/-- A family none of the principal's records belong to has an empty closure there, and in the
whole store one that is empty or shows a foreign record. -/
theorem closure_foreign
    (none : ∀ record ∈ records, record.principal = principal → record.family ≠ family) :
    closure (ownRecords principal records) family = [] ∧
      (closure records family = [] ∨
        ∃ record ∈ closure records family, record.principal ≠ principal) := by
  have empty : (ownRecords principal records).filter (fun record => record.family = family) =
      [] := by
    apply List.filter_eq_nil_iff.mpr
    intro record member
    obtain ⟨present, own⟩ := mem_ownRecords.mp member
    simpa using none record present own
  constructor
  · simp [closure, empty, closeIds_empty]
  · cases chosen : records.filter (fun record => record.family = family) with
    | nil =>
        left
        simp [closure, chosen, closeIds_empty]
    | cons record rest =>
        right
        have present : record ∈ records.filter (fun record => record.family = family) := by
          rw [chosen]
          exact List.mem_cons_self
        obtain ⟨member, same⟩ := List.mem_filter.mp present
        refine ⟨record, List.mem_filter.mpr ⟨member, ?_⟩, ?_⟩
        · apply decide_eq_true
          apply subset_closeIds
          exact List.mem_toFinset.mpr (List.mem_map_of_mem present)
        · intro own
          exact none record member own (by simpa using same)

theorem supersededBy_own :
    supersededBy records principal = supersededBy (ownRecords principal records) principal := by
  unfold supersededBy
  apply congrArg (List.map _)
  apply filter_own
  intro record _ chosen
  simp only [decide_eq_true_eq] at chosen
  exact chosen.1

theorem consumedBy_own :
    consumedBy records principal = consumedBy (ownRecords principal records) principal := by
  unfold consumedBy
  induction records with
  | nil => rfl
  | cons record rest ih =>
      by_cases own : record.principal = principal
      · simp [ownRecords, own, ih]
      · simp [ownRecords, own, ih]

theorem selectedRecords_own {subject : Option Subject} :
    selectedRecords records principal subject =
      selectedRecords (ownRecords principal records) principal subject := by
  unfold selectedRecords
  rw [← supersededBy_own, ← consumedBy_own]
  apply congrArg (List.insertionSort _)
  apply filter_own
  intro record _ chosen
  simp only [decide_eq_true_eq] at chosen
  exact chosen.1

theorem mem_selectedRecords {record : JournalRecord} {subject : Option Subject}
    (member : record ∈ selectedRecords records principal subject) :
    record ∈ records ∧ record.principal = principal := by
  rw [selectedRecords, List.mem_insertionSort, List.mem_filter] at member
  simp only [decide_eq_true_eq] at member
  exact ⟨member.1, member.2.1⟩

theorem mem_pageAfter {selected page : List JournalRecord} {afterId : Option String}
    (paged : pageAfter selected afterId = some page) : ∀ record ∈ page, record ∈ selected := by
  unfold pageAfter at paged
  split at paged
  · cases paged
    exact fun record member => member
  · split at paged
    · cases paged
      exact fun record member => List.mem_of_mem_filter member
    · cases paged

/-- Every family carries the id of a record of the same principal. -/
def Rooted (records : List JournalRecord) : Prop :=
  ∀ record ∈ records, ∃ root ∈ records, root.recordId = record.family ∧
    root.principal = record.principal

section

variable [Hashlib] {authenticated again : Option TrustedIngress} {head : Nat}

/-- A lineage read on the whole store is one on the principal's records. -/
theorem lineage_own (separated : Separated records)
    (peer : ∀ identity ∈ authenticated, identity.principal = principal) (tenant : String) :
    lineage authenticated again ⟨head, records⟩ tenant family =
      lineage authenticated again ⟨head, ownRecords principal records⟩ tenant family := by
  unfold lineage
  cases authenticated with
  | none => rfl
  | some identity =>
    have reader := peer identity rfl
    simp only
    by_cases scope : identity.tenant ≠ tenant
    · rw [if_pos scope, if_pos scope]
    · rw [if_neg scope, if_neg scope]
      by_cases owned : ∃ record ∈ records, record.principal = principal ∧ record.family = family
      · obtain ⟨record, member, own, rfl⟩ := owned
        rw [closure_own separated member own]
      · have foreign : ∀ record ∈ records, record.principal = principal →
            record.family ≠ family :=
          fun record member own same => owned ⟨record, member, own, same⟩
        obtain ⟨nothing, empty | ⟨record, shown, other⟩⟩ := closure_foreign foreign
        · rw [nothing, empty]
        · have hidden : ¬∀ record ∈ closure records family,
              record.principal = identity.principal ∧ disclosed record.claim identity = true :=
            fun all => other ((all record shown).1.trans reader)
          rw [nothing, if_pos hidden]
          simp

/-- The rows of the principal's records need the principal's records only. -/
theorem projectRows_own (separated : Separated records) {current page : List JournalRecord}
    {identity : TrustedIngress} {maxRows : Nat} {rows : List JournalRow}
    (own : ∀ record ∈ page, record ∈ records ∧ record.principal = principal) :
    page.foldlM (projectRow records current identity head maxRows) rows =
      page.foldlM (projectRow (ownRecords principal records) current identity head maxRows)
        rows := by
  induction page generalizing rows with
  | nil => rfl
  | cons record rest ih =>
      obtain ⟨member, isOwn⟩ := own record List.mem_cons_self
      have same : projectRow records current identity head maxRows rows record =
          projectRow (ownRecords principal records) current identity head maxRows rows record := by
        simp only [projectRow, closure_own separated member isOwn]
      rw [List.foldlM_cons, List.foldlM_cons, same]
      congr 1
      funext next
      exact ih (fun other present => own other (List.mem_cons_of_mem _ present))

/-- A projection of the whole store is one of the principal's records. -/
theorem project_own (separated : Separated records)
    (peer : ∀ identity ∈ authenticated, identity.principal = principal) (headAgain : Nat)
    (query : JournalQuery) :
    project authenticated again ⟨head, records⟩ headAgain query =
      project authenticated again ⟨head, ownRecords principal records⟩ headAgain query := by
  unfold project
  cases known : authenticated.filter (fun identity => identity.tenant = query.tenant) with
  | none => rfl
  | some identity =>
      have reader := peer identity (Option.filter_eq_some_iff.mp known).1
      simp only [reader, ← selectedRecords_own]
      cases paged : pageAfter (selectedRecords records principal query.subject)
          query.afterId with
      | none => rfl
      | some page =>
          have own : ∀ record ∈ page.take query.maxRows,
              record ∈ records ∧ record.principal = principal := by
            intro record member
            exact mem_selectedRecords (mem_pageAfter paged record (List.mem_of_mem_take member))
          simp only [projectRows_own separated own]

/-- A published record belongs to a family its principal already has, or starts its own. -/
theorem Published.family_root {snapshot : Snapshot} {call : Call} {identity : TrustedIngress}
    {record : JournalRecord} (published : Published snapshot call identity record) :
    record.family = record.recordId ∨ ∃ target ∈ snapshot.records,
      record.family = target.family ∧ record.principal = target.principal := by
  cases targeted : targetOf snapshot call.command with
  | none =>
      left
      cases published with
      | prepared => simp only [candidateRecord, targeted]
      | asserted => simp only [claimRecord, targeted]
      | confirmed => simp only [claimRecord, targeted]
  | some target =>
      obtain ⟨member, -, -, principal, -⟩ := targetOf_some targeted
      right
      refine ⟨target, member, ?_, ?_⟩
      · cases published with
        | prepared => simp only [candidateRecord, targeted]
        | asserted => simp only [claimRecord, targeted]
        | confirmed => simp only [claimRecord, targeted]
      · rw [principal]
        cases published <;> rfl

theorem Serial.rooted {tenant : String} {log : List Commit} {store : TenantStore}
    (serial : Serial tenant log store) : Rooted store.records := by
  induction serial with
  | empty => exact fun _ member => absurd member List.not_mem_nil
  | @committed log store call record guard ran inTenant read guarded freshCommand freshRecord ih =>
      obtain ⟨-, -, identity, -, published⟩ := Call.attempt_publishing read
      rw [TenantStore.records_append]
      have old : ∀ stored ∈ store.records, ∃ root ∈ store.records ++ [record],
          root.recordId = stored.family ∧ root.principal = stored.principal := by
        intro stored member
        obtain ⟨root, present, facts⟩ := ih stored member
        exact ⟨root, List.mem_append_left _ present, facts⟩
      intro stored member
      cases List.mem_append.mp member with
      | inl present => exact old stored present
      | inr new =>
          cases List.mem_singleton.mp new
          obtain own | ⟨target, targetMember, family, principal⟩ := published.family_root
          · exact ⟨record, member, own.symm, rfl⟩
          · obtain ⟨root, rootMember, named, owner⟩ := old target targetMember
            exact ⟨root, rootMember, named.trans family.symm, owner.trans principal.symm⟩
  | foreign ran ih => exact ih

theorem Serial.separated {tenant : String} {log : List Commit} {store : TenantStore}
    (serial : Serial tenant log store) : Separated store.records := by
  have distinct := serial.claimLog.recordIds
  refine ⟨distinct, ?_, ?_⟩
  · intro first firstMember second secondMember same
    obtain ⟨root, rootMember, named, owner⟩ := serial.rooted first firstMember
    obtain ⟨other, otherMember, otherNamed, otherOwner⟩ := serial.rooted second secondMember
    have sameRoot : root = other :=
      List.inj_on_of_nodup_map distinct rootMember otherMember
        (named.trans (same.trans otherNamed.symm))
    rw [← owner, sameRoot, otherOwner]
  · intro record member id named other otherMember same
    obtain ⟨row, present, rfl⟩ := mem_records.mp member
    obtain ⟨otherRow, otherPresent, rfl⟩ := mem_records.mp otherMember
    obtain ⟨candidate, candidateMember, sameId, -, principal, -⟩ :=
      serial.consumption.1.named row present id named
    rw [row_eq_of_recordId distinct otherPresent candidateMember (same.trans sameId.symm),
      principal]

/-- Two reachable stores with the same head and the same records of a principal answer every
read of that principal's peer alike. -/
theorem journal_reads_isolated {events otherEvents : List Event} {world other : World}
    (ran : History events world) (otherRan : History otherEvents other) (tenant : String)
    (sameHead : (world.stores tenant).head = (other.stores tenant).head)
    (sameRecords : ownRecords principal (world.stores tenant).records =
      ownRecords principal (other.stores tenant).records)
    (peer : ∀ identity ∈ authenticated, identity.principal = principal) :
    (∀ headAgain query, project authenticated again (world.stores tenant).snapshot headAgain query =
      project authenticated again (other.stores tenant).snapshot headAgain query) ∧
    ∀ family, lineage authenticated again (world.stores tenant).snapshot tenant family =
      lineage authenticated again (other.stores tenant).snapshot tenant family := by
  obtain ⟨log, serial, -⟩ := ran.serial tenant
  obtain ⟨otherLog, otherSerial, -⟩ := otherRan.serial tenant
  simp only [TenantStore.snapshot]
  constructor
  · intro headAgain query
    rw [project_own serial.separated peer, project_own otherSerial.separated peer, sameHead,
      sameRecords]
  · intro family
    rw [lineage_own serial.separated peer, lineage_own otherSerial.separated peer, sameHead,
      sameRecords]

end

/-- Another principal of the tenant cannot tell the sample assertion from its candidate, and
the owner of three records cannot tell what else was published. -/
theorem journal_reads_isolated_stranger :
    letI := Sha256.hashlib
    History (firstEvents executedCall assertedRecord) (firstWorld assertedRecord) ∧
      History (firstEvents preparedCall preparedRecord) (firstWorld preparedRecord) ∧
      (∀ family,
        lineage (some { assertedIdentity with principal := "stranger" })
            (some { assertedIdentity with principal := "stranger" })
            ((firstWorld assertedRecord).stores "tenant").snapshot "tenant" family =
          lineage (some { assertedIdentity with principal := "stranger" })
            (some { assertedIdentity with principal := "stranger" })
            ((firstWorld preparedRecord).stores "tenant").snapshot "tenant" family) ∧
      ∃ events world, History events world ∧
        ownRecords "owner" (world.stores "tenant").records =
          [assertedRecord, correctRecord, confirmRecord] ∧
        ∀ first second headAgain query,
          project (some (confirmIdentity 4)) (some (confirmIdentity 4))
              ((world.stores "tenant").advance first).snapshot headAgain query =
            project (some (confirmIdentity 4)) (some (confirmIdentity 4))
              ((world.stores "tenant").advance second).snapshot headAgain query := by
  let _ := Sha256.hashlib
  have ran := first_history executed_attempt rfl
  have otherRan := first_history prepared_attempt rfl
  have peer : ∀ identity ∈ some { assertedIdentity with principal := "stranger" },
      identity.principal = "stranger" := by
    intro identity known
    cases known
    rfl
  have own : ownRecords "stranger" ((firstWorld assertedRecord).stores "tenant").records = [] := rfl
  have otherOwn : ownRecords "stranger" ((firstWorld preparedRecord).stores "tenant").records = [] :=
    rfl
  have same := own.trans otherOwn.symm
  obtain ⟨events, world, revised, stored⟩ := revised_history revised_fresh
  have owner : ∀ identity ∈ some (confirmIdentity 4), identity.principal = "owner" := by
    intro identity known
    cases known
    rfl
  refine ⟨ran, otherRan, (journal_reads_isolated ran otherRan "tenant" rfl same peer).2,
    events, world, revised, ?_, fun first second => ?_⟩
  · rw [stored]
    rfl
  · have isolated := @journal_reads_isolated "owner" _ (some (confirmIdentity 4))
      (some (confirmIdentity 4)) _ _ _ _ (revised.step (@Step.foreign _ _ "tenant" first))
      (revised.step (@Step.foreign _ _ "tenant" second)) "tenant" (by simp; rfl) (by simp) owner
    simpa using isolated.1

end Chiplog.EvidenceJournal
