import Chiplog.Data.Paging
import Chiplog.EvidenceJournal.Isolation

namespace Chiplog.EvidenceJournal

open Chiplog.Data

/-! Paging through the open records of a principal.

A page takes as many records as its bound, and the bound covers the closures of all of them.
So pages are complete wherever the closures of each page fit together. -/

/-- The row of a record that is released. -/
def rowOf (records current : List JournalRecord) (record : JournalRecord) : JournalRow :=
  { record := record
    status := rowStatus current record
    currentPositive := record.kind ≠ .candidateEvidence &&
      record.operation ≠ .applied .retract && rowStatus current record ≠ .disputed
    lineage := closure records record.family }

/-- What a record adds to the bound of its page. -/
def closureSize (records : List JournalRecord) (record : JournalRecord) : Nat :=
  (closure records record.family).length

/-- The closures of every page add up to at most its bound. -/
def PagesFit (records current : List JournalRecord) (maxRows : Nat) : Prop :=
  ∀ count, (((current.drop (count * maxRows)).take maxRows).map (closureSize records)).sum ≤
    maxRows

section

variable {records current page : List JournalRecord} {maxRows head : Nat}

/-- The open records stand in strict order of their ids. -/
theorem selectedRecords_sorted (distinct : (records.map (·.recordId)).Nodup) (principal : String)
    (subject : Option Subject) :
    ((selectedRecords records principal subject).map (·.recordId)).Pairwise (· < ·) := by
  have ordered := List.pairwise_insertionSort
    (fun left right : JournalRecord => left.recordId ≤ right.recordId)
    (records.filter (fun record =>
      record.principal = principal ∧ some record.recordId ∉ supersededBy records principal ∧
        record.recordId ∉ consumedBy records principal ∧
        (record.kind ≠ .candidateEvidence ∨
          record.predecessor ∉ supersededBy records principal) ∧
        (subject = none ∨ some record.claim.subject = subject)))
  have apart : ((selectedRecords records principal subject).map (·.recordId)).Nodup := by
    refine (((List.perm_insertionSort _ _).map _).nodup_iff).mpr ?_
    exact distinct.sublist (List.filter_sublist.map _)
  have weak : ((selectedRecords records principal subject).map (·.recordId)).Pairwise (· ≤ ·) :=
    List.pairwise_map.mpr ordered
  exact (weak.and apart).imp (fun both => lt_of_le_of_ne both.1 both.2)

/-- A closure shows records of the principal only. -/
theorem closure_principal (separated : Separated records) {record ancestor : JournalRecord}
    (member : record ∈ records) (shown : ancestor ∈ closure records record.family) :
    ancestor.principal = record.principal := by
  rw [closure_own separated member rfl, closure, List.mem_filter] at shown
  exact (mem_ownRecords.mp shown.1).2

/-- A page that stops at its bound names its last record. -/
theorem nextCursor_page (positive : 0 < maxRows) :
    (page.length ≤ maxRows ∧
        nextCursor page ((page.take maxRows).map (rowOf records current)) = none) ∨
      ∃ before last, page = before ++ last :: page.drop maxRows ∧
        nextCursor page ((page.take maxRows).map (rowOf records current)) = some last.recordId := by
  by_cases whole : page.length ≤ maxRows
  · refine .inl ⟨whole, if_neg ?_⟩
    rw [List.length_map, List.take_of_length_le whole]
    exact lt_irrefl _
  · right
    have nonempty : page.take maxRows ≠ [] := by
      intro none
      rw [List.take_eq_nil_iff] at none
      rcases none with zero | rfl
      · omega
      · exact whole (Nat.zero_le _)
    have split : page.take maxRows =
        (page.take maxRows).dropLast ++ [(page.take maxRows).getLast nonempty] :=
      (List.dropLast_append_getLast nonempty).symm
    refine ⟨(page.take maxRows).dropLast, (page.take maxRows).getLast nonempty, ?_, ?_⟩
    · calc page = page.take maxRows ++ page.drop maxRows := (List.take_append_drop _ _).symm
        _ = _ := by
          nth_rewrite 1 [split]
          rw [List.append_assoc, List.singleton_append]
    · have shorter : ((page.take maxRows).map (rowOf records current)).length < page.length := by
        rw [List.length_map, List.length_take]
        omega
      rw [nextCursor, if_pos shorter, List.getLast?_map, List.getLast?_eq_some_getLast nonempty]
      rfl

variable [Hashlib] {identity : TrustedIngress}

/-- A round that releases its row. -/
theorem projectRow_ok {rows : List JournalRow} {record : JournalRecord}
    (fits : (rows.map (·.lineage.length)).sum + closureSize records record ≤ maxRows)
    (released : ∀ ancestor ∈ closure records record.family,
      ancestor.principal = identity.principal ∧ disclosed ancestor.claim identity = true) :
    projectRow records current identity head maxRows rows record =
      .ok (rows ++ [rowOf records current record]) := by
  unfold closureSize at fits
  simp only [projectRow]
  rw [if_neg (not_lt.mpr fits), if_neg (not_not.mpr released)]
  rfl

theorem projectRows_ok {rows : List JournalRow}
    (fits : (rows.map (·.lineage.length)).sum + (page.map (closureSize records)).sum ≤ maxRows)
    (released : ∀ record ∈ page, ∀ ancestor ∈ closure records record.family,
      ancestor.principal = identity.principal ∧ disclosed ancestor.claim identity = true) :
    page.foldlM (projectRow records current identity head maxRows) rows =
      .ok (rows ++ page.map (rowOf records current)) := by
  induction page generalizing rows with
  | nil => rw [List.map_nil, List.append_nil, List.foldlM_nil]; rfl
  | cons record rest ih =>
      rw [List.map_cons, List.sum_cons] at fits
      have round := @projectRow_ok records current maxRows head _ identity rows record (by omega)
        (released record List.mem_cons_self)
      have more : ((rows ++ [rowOf records current record]).map (·.lineage.length)).sum +
          (rest.map (closureSize records)).sum ≤ maxRows := by
        rw [List.map_append, List.sum_append, List.map_singleton, List.sum_singleton]
        exact (add_assoc _ _ _).trans_le fits
      rw [List.foldlM_cons, round]
      change List.foldlM _ (rows ++ [rowOf records current record]) rest = _
      rw [ih more (fun other member => released other (List.mem_cons_of_mem _ member)),
        List.map_cons, List.append_assoc, List.singleton_append]

/-- A call at an unchanged head. -/
def readPage (identity : TrustedIngress) (snapshot : Snapshot) (query : JournalQuery)
    (_ : Nat) (after : Option String) : JournalView :=
  project (some identity) (some identity) snapshot snapshot.head { query with afterId := after }

/-- What the calls of one reading share. -/
structure Reads (identity : TrustedIngress) (snapshot : Snapshot) (query : JournalQuery) :
    Prop where
  tenant : identity.tenant = query.tenant
  heads : identity.heads = query.expectedHeads
  head : snapshot.head = query.expectedHeads.journal

theorem readPage_current {snapshot : Snapshot} {query : JournalQuery}
    (reads : Reads identity snapshot query) {after : Option String} (time : Nat)
    (paged : pageAfter (selectedRecords snapshot.records identity.principal query.subject) after =
      some page)
    (fits : ((page.take query.maxRows).map (closureSize snapshot.records)).sum ≤ query.maxRows)
    (released : ∀ record ∈ page, ∀ ancestor ∈ closure snapshot.records record.family,
      ancestor.principal = identity.principal ∧ disclosed ancestor.claim identity = true) :
    readPage identity snapshot query time after =
      let rows := (page.take query.maxRows).map (rowOf snapshot.records
        (selectedRecords snapshot.records identity.principal query.subject))
      ⟨.current, snapshot.head, rows, nextCursor page rows⟩ := by
  have known : (some identity).filter (fun identity => identity.tenant = query.tenant) =
      some identity := Option.filter_eq_some_iff.mpr ⟨rfl, decide_eq_true reads.tenant⟩
  have rows := @projectRows_ok snapshot.records
    (selectedRecords snapshot.records identity.principal query.subject)
    (page.take query.maxRows) query.maxRows snapshot.head _ identity []
    (by rw [List.map_nil, List.sum_nil, Nat.zero_add]; exact fits)
    (fun record member => released record (List.mem_of_mem_take member))
  rw [List.nil_append] at rows
  unfold readPage project
  simp only [known, paged, rows]
  rw [if_neg (by simp [reads.heads, reads.head]), if_neg (by simp)]

/-- The records that a cursor leaves to be listed. -/
def Left (selected : List JournalRecord) (maxRows : Nat) (_ : Nat) (cursor : Option String)
    (left : List JournalRecord) : Prop :=
  ∃ count, pageAfter selected cursor = some (selected.drop (count * maxRows)) ∧
    left = selected.drop (count * maxRows)

omit [Hashlib] in
/-- A cursor that names the last record of a page stands before the next page. -/
theorem pageAfter_last {selected before rest : List JournalRecord} {last : JournalRecord}
    (sorted : (selected.map (·.recordId)).Pairwise (· < ·))
    (split : selected = before ++ last :: rest) :
    pageAfter selected (some last.recordId) = some rest := by
  have known : last.recordId ∈ selected.map (·.recordId) := by
    rw [split]
    exact List.mem_map_of_mem (List.mem_append_right _ List.mem_cons_self)
  unfold pageAfter
  simp only [if_pos known]
  subst split
  rw [filter_after sorted]

/-- The calls of a reading advance. -/
theorem readPage_advances {snapshot : Snapshot} {query : JournalQuery}
    (reads : Reads identity snapshot query) (separated : Separated snapshot.records)
    (disclosable : ∀ record ∈ selectedRecords snapshot.records identity.principal query.subject,
      ∀ ancestor ∈ closure snapshot.records record.family,
        disclosed ancestor.claim identity = true)
    (fits : PagesFit snapshot.records
      (selectedRecords snapshot.records identity.principal query.subject) query.maxRows) :
    Pages.Advances (readPage identity snapshot query) (·.nextCursor)
      (fun view => view.rows.map (·.record))
      (Left (selectedRecords snapshot.records identity.principal query.subject) query.maxRows) ∧
    ∀ time cursor left,
      Left (selectedRecords snapshot.records identity.principal query.subject) query.maxRows time
        cursor left →
      (readPage identity snapshot query time cursor).disposition = .current := by
  have positive : 0 < (query.maxRows : Nat) := query.maxRows.pos
  have released : ∀ count, ∀ record ∈ (selectedRecords snapshot.records identity.principal
      query.subject).drop (count * query.maxRows), ∀ ancestor ∈ closure snapshot.records
        record.family, ancestor.principal = identity.principal ∧
          disclosed ancestor.claim identity = true := by
    intro count record member ancestor shown
    have selected := List.mem_of_mem_drop member
    obtain ⟨stored, own⟩ := mem_selectedRecords selected
    exact ⟨(closure_principal separated stored shown).trans own,
      disclosable record selected ancestor shown⟩
  have sorted := selectedRecords_sorted separated.distinct identity.principal query.subject
  generalize known : selectedRecords snapshot.records identity.principal query.subject = selected
    at *
  have answer : ∀ time cursor count,
      pageAfter selected cursor = some (selected.drop (count * query.maxRows)) →
      readPage identity snapshot query time cursor =
        ⟨.current, snapshot.head, ((selected.drop (count * query.maxRows)).take query.maxRows).map
            (rowOf snapshot.records selected),
          nextCursor (selected.drop (count * query.maxRows))
            (((selected.drop (count * query.maxRows)).take query.maxRows).map
              (rowOf snapshot.records selected))⟩ := by
    intro time cursor count paged
    rw [← known] at paged
    nth_rewrite 2 [known] at paged
    have page := readPage_current reads time paged (fits count) (released count)
    rw [known] at page
    exact page
  have listed : ∀ page : List JournalRecord,
      (page.map (rowOf snapshot.records selected)).map (·.record) = page := by
    intro page
    rw [List.map_map]
    exact List.map_id' _
  constructor
  · intro time cursor left due
    obtain ⟨count, paged, rfl⟩ := due
    rw [answer time cursor count paged]
    simp only [listed]
    rcases @nextCursor_page snapshot.records selected (selected.drop (count * query.maxRows))
        query.maxRows positive with
      ⟨whole, ends⟩ | ⟨before, last, split, continued⟩
    · exact .inl ⟨ends, List.take_of_length_le whole⟩
    · refine .inr ⟨last.recordId, selected.drop ((count + 1) * query.maxRows), continued, ?_, ?_,
        ?_⟩
      · refine ⟨count + 1, ?_, rfl⟩
        have whole : selected = (selected.take (count * query.maxRows) ++ before) ++
            last :: selected.drop ((count + 1) * query.maxRows) := by
          rw [List.append_assoc, Nat.succ_mul, ← List.drop_drop, ← split, List.take_append_drop]
        exact pageAfter_last sorted whole
      · intro none
        have empty : (selected.drop (count * query.maxRows)).length = 0 := by
          rcases List.take_eq_nil_iff.mp none with zero | nil
          · omega
          · rw [nil]; rfl
        rw [split] at empty
        simp at empty
      · rw [Nat.succ_mul, ← List.drop_drop, List.take_append_drop]
  · intro time cursor left due
    obtain ⟨count, paged, rfl⟩ := due
    rw [answer time cursor count paged]

end

/-- **Journal paging is complete.** In a reachable store, for a principal to whom the closures
of its open records are disclosable and a bound that covers the closures of every page, the
calls at an unchanged head end, are all current, and visit each open record of the subject once,
in ascending order of the ids. -/
theorem journal_paging [Hashlib] {events : List Event} {world : World} (ran : History events world)
    {identity : TrustedIngress} {query : JournalQuery}
    (reads : Reads identity (world.stores query.tenant).snapshot query)
    (disclosable : ∀ record ∈ selectedRecords (world.stores query.tenant).records
        identity.principal query.subject,
      ∀ ancestor ∈ closure (world.stores query.tenant).records record.family,
        disclosed ancestor.claim identity = true)
    (fits : PagesFit (world.stores query.tenant).records
      (selectedRecords (world.stores query.tenant).records identity.principal query.subject)
      query.maxRows) :
    ∃! views, Pages (readPage identity (world.stores query.tenant).snapshot query) (·.nextCursor)
        0 none views ∧
      (∀ view ∈ views, view.disposition = .current) ∧
      (views.flatMap (fun view => view.rows.map (·.record))) =
        selectedRecords (world.stores query.tenant).records identity.principal query.subject ∧
      ((views.flatMap (fun view => view.rows.map (·.record))).map (·.recordId)).Pairwise
        (· < ·) := by
  obtain ⟨log, serial, -⟩ := ran.serial query.tenant
  have separated := serial.separated
  obtain ⟨advances, current⟩ := readPage_advances reads separated disclosable fits
  have due : Left (selectedRecords (world.stores query.tenant).records identity.principal
      query.subject) query.maxRows 0 none
      (selectedRecords (world.stores query.tenant).records identity.principal query.subject) :=
    ⟨0, by rw [Nat.zero_mul, List.drop_zero]; rfl, by rw [Nat.zero_mul, List.drop_zero]⟩
  obtain ⟨views, paged, listed⟩ := Pages.complete advances due
  refine ⟨views, ⟨paged, ?_, listed, ?_⟩, fun _ other => other.1.unique paged⟩
  · intro view member
    obtain ⟨time, cursor, left, dueThere, rfl⟩ := Pages.called advances paged due view member
    exact current time cursor left dueThere
  · rw [listed]
    exact selectedRecords_sorted separated.distinct identity.principal query.subject

section

theorem one_bounded : @LE.le ℕ+ _ ⟨1, Nat.one_pos⟩ 1000 := one_le

theorem three_bounded : (3 : ℕ+) ≤ 1000 := by decide

variable [Hashlib]

def assertedReader : TrustedIngress :=
  { assertedIdentity with heads := { assertedHeads with journal := 1 } }

def assertedQuery : JournalQuery :=
  { tenant := "tenant"
    expectedHeads := assertedReader.heads
    maxRows := ⟨1, Nat.one_pos⟩
    afterId := none
    subject := none
    bounded := one_bounded }

theorem asserted_records :
    ((firstWorld assertedRecord).stores assertedQuery.tenant).records = [assertedRecord] := rfl

theorem asserted_reads :
    Reads assertedReader ((firstWorld assertedRecord).stores assertedQuery.tenant).snapshot
      assertedQuery := ⟨rfl, rfl, rfl⟩

theorem asserted_readable : disclosed assertedClaim assertedReader = true := by
  have bound : EnvelopeBound assertedClaim assertedIdentity :=
    ⟨rfl, rfl, rfl, rfl, rfl, by simp [assertedClaim], by simp [assertedClaim], rfl, rfl⟩
  have reader : EnvelopeBound assertedClaim assertedReader := bound
  have shown := asserted_disclosed
  simp only [disclosed, if_pos bound] at shown
  simp only [disclosed, if_pos reader]
  exact shown

theorem asserted_closures {family : String} {ancestor : JournalRecord}
    (shown : ancestor ∈ closure ((firstWorld assertedRecord).stores assertedQuery.tenant).records
      family) : disclosed ancestor.claim assertedReader = true := by
  have stored := List.mem_of_mem_filter shown
  rw [asserted_records] at stored
  cases List.mem_singleton.mp stored
  exact asserted_readable

theorem asserted_pagesFit (current : List JournalRecord) :
    PagesFit ((firstWorld assertedRecord).stores assertedQuery.tenant).records current
      assertedQuery.maxRows := by
  intro count
  have short : ((current.drop (count * (assertedQuery.maxRows : Nat))).take
      (assertedQuery.maxRows : Nat)).length ≤ 1 := List.length_take_le _ _
  match page : (current.drop (count * (assertedQuery.maxRows : Nat))).take
      (assertedQuery.maxRows : Nat) with
  | [] => exact Nat.zero_le _
  | [record] =>
      rw [List.map_singleton, List.sum_singleton]
      exact List.length_filter_le _ _
  | first :: second :: rest =>
      rw [page] at short
      simp at short

end

/-- The one page of the sample assertion. -/
theorem journal_paging_asserted :
    letI := Sha256.hashlib
    History (firstEvents executedCall assertedRecord) (firstWorld assertedRecord) ∧
      ∃ views, Pages (readPage assertedReader
          ((firstWorld assertedRecord).stores assertedQuery.tenant).snapshot assertedQuery)
          (·.nextCursor) 0 none views ∧
        ∀ view ∈ views, view.disposition = .current := by
  let _ := Sha256.hashlib
  have ran := first_history executed_attempt rfl
  obtain ⟨views, ⟨paged, current, -⟩, -⟩ := journal_paging ran asserted_reads
    (fun _ _ _ shown => asserted_closures shown) (asserted_pagesFit _)
  exact ⟨ran, views, paged, current⟩

/-! A closure that shows the corrected fact under a later policy. -/

section

variable [Hashlib]

theorem asserted_hidden (journal : Nat) (confirmations : List ConfirmationIngress) :
    disclosed assertedClaim (revisedIdentity journal confirmations) = false := by
  refine if_neg ?_
  intro bound
  obtain ⟨-, -, policy, -⟩ := bound
  have texts : "policy" = "policy-2" := policy
  exact absurd texts (by decide)

theorem revised_selected (fresh : claimId confirmCommand ≠ claimId assertedCommand) :
    selectedRecords confirmStore.records "owner" none = [confirmRecord] := by
  have superseded : supersededBy confirmStore.records "owner" = [some (claimId assertedCommand)] :=
    rfl
  have consumed : consumedBy confirmStore.records "owner" = [candidateId correctCommand] := rfl
  have confirmed : confirmRecord.recordId = claimId confirmCommand := rfl
  have corrected : correctRecord.recordId = candidateId correctCommand := rfl
  have asserted : assertedRecord.recordId = claimId assertedCommand := rfl
  have unlike := claimId_ne_candidateId confirmCommand correctCommand
  have kind : confirmRecord.kind ≠ .candidateEvidence := nofun
  have owner : confirmRecord.principal = "owner" := rfl
  have kept : (confirmStore.records.filter (fun record =>
      record.principal = "owner" ∧
        some record.recordId ∉ supersededBy confirmStore.records "owner" ∧
        record.recordId ∉ consumedBy confirmStore.records "owner" ∧
        (record.kind ≠ .candidateEvidence ∨
          record.predecessor ∉ supersededBy confirmStore.records "owner") ∧
        ((none : Option Subject) = none ∨ some record.claim.subject = none))) =
      [confirmRecord] := by
    rw [superseded, consumed, confirmStore_records, List.filter_cons, if_neg (by simp [asserted]),
      List.filter_cons, if_neg (by simp [corrected]), List.filter_cons,
      if_pos (by simp [confirmed, fresh, unlike, kind, owner]), List.filter_nil]
  rw [selectedRecords, kept]
  rfl

def confirmQuery : JournalQuery :=
  { tenant := "tenant"
    expectedHeads := (revisedIdentity 3 []).heads
    maxRows := 3
    afterId := none
    subject := none
    bounded := three_bounded }

/-- The open correction is disclosable, and the page that would show its closure is denied. -/
theorem confirm_denied (fresh : claimId confirmCommand ≠ claimId assertedCommand) :
    Reads (confirmIdentity 3) confirmStore.snapshot confirmQuery ∧
      (∀ record ∈ selectedRecords confirmStore.records "owner" none,
        disclosed record.claim (confirmIdentity 3) = true ∧
          closureSize confirmStore.records record ≤ confirmQuery.maxRows) ∧
      readPage (confirmIdentity 3) confirmStore.snapshot confirmQuery 0 none =
        ⟨.denied, 3, [], none⟩ := by
  have selected := revised_selected fresh
  have bounded : closureSize confirmStore.records confirmRecord ≤ 3 := by
    have shorter := List.length_filter_le (fun record => record.recordId ∈ closeIds
      confirmStore.records ((confirmStore.records.filter
        (fun record => record.family = confirmRecord.family)).map (·.recordId)).toFinset)
      confirmStore.records
    exact shorter
  have hidden : ¬∀ ancestor ∈ closure confirmStore.records confirmRecord.family,
      ancestor.principal = (confirmIdentity 3).principal ∧
        disclosed ancestor.claim (confirmIdentity 3) = true := by
    intro shown
    have member : assertedRecord ∈ closure confirmStore.records confirmRecord.family := by
      have present : assertedRecord ∈ confirmStore.records := by
        rw [confirmStore_records]
        exact List.mem_cons_self
      have family : assertedRecord.family = confirmRecord.family := by
        simp only [confirmRecord, claimRecord, confirm_targeted]
      refine List.mem_filter.mpr ⟨present, decide_eq_true (subset_closeIds _ _ ?_)⟩
      exact List.mem_toFinset.mpr (List.mem_map_of_mem
        (List.mem_filter.mpr ⟨present, decide_eq_true family⟩))
    have disclosedFact := (shown assertedRecord member).2
    rw [show assertedRecord.claim = assertedClaim from rfl] at disclosedFact
    cases (asserted_hidden 3 _).symm.trans disclosedFact
  refine ⟨⟨rfl, rfl, rfl⟩, ?_, ?_⟩
  · intro record member
    rw [selected] at member
    cases List.mem_singleton.mp member
    exact ⟨revised_disclosed 3 _, bounded⟩
  · have known : (some (confirmIdentity 3)).filter
        (fun identity => identity.tenant = confirmQuery.tenant) = some (confirmIdentity 3) :=
      Option.filter_eq_some_iff.mpr ⟨rfl, decide_eq_true rfl⟩
    have round : projectRow confirmStore.records [confirmRecord] (confirmIdentity 3) 3 3 []
        confirmRecord = .error ⟨.denied, 3, [], none⟩ := by
      have room : ([].map (fun row : JournalRow => row.lineage.length)).sum +
          (closure confirmStore.records confirmRecord.family).length ≤ 3 := by
        rw [List.map_nil, List.sum_nil, Nat.zero_add]
        exact bounded
      simp only [projectRow]
      rw [if_neg (not_lt.mpr room), if_pos hidden]
    have selected : selectedRecords confirmStore.snapshot.records (confirmIdentity 3).principal
        confirmQuery.subject = [confirmRecord] := selected
    have rows : ([confirmRecord].take (confirmQuery.maxRows : Nat)).foldlM
        (projectRow confirmStore.snapshot.records [confirmRecord] (confirmIdentity 3)
          confirmStore.snapshot.head confirmQuery.maxRows) [] =
          .error ⟨.denied, 3, [], none⟩ := by
      rw [show [confirmRecord].take (confirmQuery.maxRows : Nat) = [confirmRecord] from rfl,
        List.foldlM_cons]
      change projectRow confirmStore.records [confirmRecord] (confirmIdentity 3) 3 3 []
        confirmRecord >>= _ = _
      rw [round]
      rfl
    unfold readPage project
    simp only [known, selected, pageAfter, rows]
    rw [if_neg]
    intro moved
    rcases moved with other | other
    · exact other rfl
    · exact other rfl

end

/-- An open record whose closure shows an undisclosable fact has no page. -/
theorem undisclosable_ancestor :
    letI := Sha256.hashlib
    ∃ events world, History events world ∧
      Reads (confirmIdentity 3) (world.stores "tenant").snapshot confirmQuery ∧
      (∀ record ∈ selectedRecords (world.stores "tenant").records "owner" none,
        disclosed record.claim (confirmIdentity 3) = true ∧
          closureSize (world.stores "tenant").records record ≤ confirmQuery.maxRows) ∧
      ∃ view, Pages (readPage (confirmIdentity 3) (world.stores "tenant").snapshot confirmQuery)
          (·.nextCursor) 0 none [view] ∧ view.disposition = .denied := by
  let _ := Sha256.hashlib
  obtain ⟨events, world, ran, stored⟩ := revised_history revised_fresh
  obtain ⟨reads, disclosable, denied⟩ := confirm_denied revised_fresh
  refine ⟨events, world, ran, ?_, ?_, ?_⟩
  · rw [stored]
    exact reads
  · rw [stored]
    exact disclosable
  · rw [stored]
    refine ⟨_, .last ?_, ?_⟩
    · rw [denied]
    · rw [denied]

end Chiplog.EvidenceJournal
