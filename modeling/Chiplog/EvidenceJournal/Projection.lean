import Chiplog.EvidenceJournal.Journal
import Mathlib.Data.Finset.Card
import Mathlib.Logic.Function.Iterate
import Mathlib.Order.Bounds.Basic

namespace Chiplog.EvidenceJournal

open Chiplog.Data

/-! Reads of the journal.

Both reads authenticate twice, and `project` reads the head a second time before it
releases rows; what the ports answer is an argument.  A family is read with everything its
displays name. -/

/-- A chosen record chooses everything its display names. -/
def closeStep (chosen : Finset String) (record : JournalRecord) : Finset String :=
  if record.recordId ∈ chosen then chosen ∪ (consumes record).toFinset else chosen

/-- One pass of `_closure` over the records. -/
def closeOver (records : List JournalRecord) (chosen : Finset String) : Finset String :=
  records.foldl closeStep chosen

theorem mem_closeStep {chosen : Finset String} {record : JournalRecord} {id : String} :
    id ∈ closeStep chosen record ↔
      id ∈ chosen ∨ record.recordId ∈ chosen ∧ id ∈ consumes record := by
  unfold closeStep
  split <;> simp_all

theorem subset_closeOver (records : List JournalRecord) (chosen : Finset String) :
    chosen ⊆ closeOver records chosen := by
  unfold closeOver
  induction records generalizing chosen with
  | nil => exact Finset.Subset.refl chosen
  | cons record rest ih =>
      intro id member
      exact ih _ (mem_closeStep.mpr (.inl member))

theorem closeOver_subset (records : List JournalRecord) (chosen : Finset String) :
    closeOver records chosen ⊆ chosen ∪ (records.flatMap consumes).toFinset := by
  unfold closeOver
  induction records generalizing chosen with
  | nil => exact Finset.subset_union_left
  | cons record rest ih =>
      intro id member
      have later := ih _ member
      simp only [Finset.mem_union, mem_closeStep, List.mem_toFinset, List.flatMap_cons,
        List.mem_append] at later ⊢
      tauto

/-- A pass that adds anything adds an id that a display names. -/
theorem closeOver_fewer {records : List JournalRecord} {chosen : Finset String}
    (grown : closeOver records chosen ≠ chosen) :
    ((records.flatMap consumes).toFinset \ closeOver records chosen).card <
      ((records.flatMap consumes).toFinset \ chosen).card := by
  apply Finset.card_lt_card
  have larger := subset_closeOver records chosen
  refine ⟨Finset.sdiff_subset_sdiff (Finset.Subset.refl _) larger, fun smaller => grown ?_⟩
  apply Finset.Subset.antisymm _ larger
  intro id member
  by_contra missing
  have named : id ∈ (records.flatMap consumes).toFinset := by
    have inside := closeOver_subset records chosen member
    simpa [missing] using inside
  have kept := smaller (Finset.mem_sdiff.mpr ⟨named, missing⟩)
  exact (Finset.mem_sdiff.mp kept).2 member

/-- The `while` loop of `_closure`: passes until nothing is added. -/
def closeIds (records : List JournalRecord) (chosen : Finset String) : Finset String :=
  if closeOver records chosen = chosen then chosen
  else closeIds records (closeOver records chosen)
termination_by ((records.flatMap consumes).toFinset \ chosen).card
decreasing_by
  rename_i grown
  exact closeOver_fewer grown

/-- `_closure`. -/
def closure (records : List JournalRecord) (family : String) : List JournalRecord :=
  let chosen := closeIds records
    ((records.filter (fun record => record.family = family)).map (·.recordId)).toFinset
  records.filter (fun record => record.recordId ∈ chosen)

section

variable [Hashlib]

def lineage (authenticated again : Option TrustedIngress) (snapshot : Snapshot)
    (tenant family : String) : List JournalRecord :=
  match authenticated with
  | none => []
  | some identity =>
      if identity.tenant ≠ tenant then []
      else
        let records := closure snapshot.records family
        if ¬∀ record ∈ records,
            record.principal = identity.principal ∧ disclosed record.claim identity = true then []
        else if again ≠ some identity then []
        else records

/-- The claims a principal's dispositions name as predecessor. -/
def supersededBy (records : List JournalRecord) (principal : String) : List (Option String) :=
  (records.filter (fun record =>
    record.principal = principal ∧ record.kind = .claimDisposition)).map (·.predecessor)

/-- The open records of a principal, in the order of their ids. -/
def selectedRecords (records : List JournalRecord) (principal : String)
    (subject : Option Subject) : List JournalRecord :=
  (records.filter (fun record =>
    record.principal = principal ∧ some record.recordId ∉ supersededBy records principal ∧
      record.recordId ∉ consumedBy records principal ∧
      (record.kind ≠ .candidateEvidence ∨
        record.predecessor ∉ supersededBy records principal) ∧
      (subject = none ∨ some record.claim.subject = subject))).insertionSort
    (fun left right => left.recordId ≤ right.recordId)

def observedByProvider (record : JournalRecord) : Bool :=
  record.claim.provenance.any (fun item => item.source = .provider)

def rowStatus (current : List JournalRecord) (record : JournalRecord) : RowStatus :=
  let rivals := current.filter (fun other =>
    other.claim.subject = record.claim.subject ∧
      (other.kind = .candidateEvidence ↔ record.kind = .candidateEvidence))
  if 1 < rivals.length then .disputed
  else if record.operation = .applied .retract then .retracted
  else if record.operation = .applied .correct then .corrected
  else if record.kind = .candidateEvidence then
    if observedByProvider record then .providerObserved else .unknown
  else if observedByProvider record then .userConfirmedProviderObservation
  else .userReported

/-- One round of the loop over the selected records; an error is the view it returns. -/
def projectRow (records current : List JournalRecord) (identity : TrustedIngress) (head : Nat)
    (maxRows : Nat) (result : List JournalRow) (record : JournalRecord) :
    Except JournalView (List JournalRow) :=
  let lineage := closure records record.family
  if maxRows < (result.map (·.lineage.length)).sum + lineage.length then
    .error ⟨.indeterminate, head, [], none⟩
  else if ¬∀ record ∈ lineage,
      record.principal = identity.principal ∧ disclosed record.claim identity = true then
    .error ⟨.denied, head, [], none⟩
  else
    let status := rowStatus current record
    .ok (result ++ [{
      record := record
      status := status
      currentPositive := record.kind ≠ .candidateEvidence &&
        record.operation ≠ .applied .retract && status ≠ .disputed
      lineage := lineage }])

/-- The records after the cursor; a cursor outside the selection has no page. -/
def pageAfter (selected : List JournalRecord) (afterId : Option String) :
    Option (List JournalRecord) :=
  match afterId with
  | none => some selected
  | some after =>
      if after ∈ selected.map (·.recordId) then
        some (selected.filter (fun record => after < record.recordId))
      else none

def nextCursor (page : List JournalRecord) (rows : List JournalRow) : Option String :=
  if rows.length < page.length then rows.getLast?.map (·.record.recordId) else none

def project (authenticated again : Option TrustedIngress) (snapshot : Snapshot) (headAgain : Nat)
    (query : JournalQuery) : JournalView :=
  match authenticated.filter (fun identity => identity.tenant = query.tenant) with
  | none => ⟨.denied, 0, [], none⟩
  | some identity =>
      if identity.heads ≠ query.expectedHeads ∨ snapshot.head ≠ query.expectedHeads.journal then
        ⟨.stale, snapshot.head, [], none⟩
      else
        let current := selectedRecords snapshot.records identity.principal query.subject
        match pageAfter current query.afterId with
        | none => ⟨.indeterminate, snapshot.head, [], none⟩
        | some page =>
            match (page.take query.maxRows).foldlM (projectRow snapshot.records current identity
                snapshot.head query.maxRows) [] with
            | .error view => view
            | .ok rows =>
                if again ≠ some identity ∨ headAgain ≠ snapshot.head then
                  ⟨.stale, snapshot.head, [], none⟩
                else ⟨.current, snapshot.head, rows, nextCursor page rows⟩

end

end Chiplog.EvidenceJournal

namespace Chiplog.EvidenceJournal

/-! The closure of a family as a least fixed point.

A pass adds ids in the order of the records, so a later record of the pass already sees what an
earlier one has added.  Which ids the passes end with does not depend on that order. -/

/-- Ids that hold a family and everything that the displays of their records name. -/
structure ClosesFamily (records : List JournalRecord) (family : String) (ids : Set String) :
    Prop where
  family : ∀ record ∈ records, record.family = family → record.recordId ∈ ids
  named : ∀ record ∈ records, record.recordId ∈ ids → ∀ display ∈ record.display,
    display.candidateId ∈ ids ∧ ∀ id ∈ display.supersedes, id ∈ ids

/-- The ids that `_closure` starts from. -/
def familyIds (records : List JournalRecord) (family : String) : Finset String :=
  ((records.filter (fun record => record.family = family)).map (·.recordId)).toFinset

variable {records items : List JournalRecord} {family : String} {chosen : Finset String}

theorem mem_familyIds {id : String} :
    id ∈ familyIds records family ↔
      ∃ record ∈ records, record.family = family ∧ record.recordId = id := by
  simp [familyIds, and_assoc]

theorem ClosesFamily.consumes {ids : Set String} (closes : ClosesFamily records family ids)
    {record : JournalRecord} (member : record ∈ records) (inside : record.recordId ∈ ids) :
    ∀ id ∈ consumes record, id ∈ ids := by
  intro id named
  unfold EvidenceJournal.consumes at named
  split at named
  · rename_i display shown
    obtain ⟨candidate, superseded⟩ := closes.named record member inside display shown
    rcases List.mem_cons.mp named with rfl | other
    · exact candidate
    · exact superseded id other
  · cases named

/-- A pass stays within every closed set. -/
theorem closeOver_within {ids : Set String} (closes : ClosesFamily records family ids)
    (among : ∀ record ∈ items, record ∈ records) (within : ∀ id ∈ chosen, id ∈ ids) :
    ∀ id ∈ closeOver items chosen, id ∈ ids := by
  unfold closeOver
  induction items generalizing chosen with
  | nil => exact within
  | cons record rest ih =>
      refine ih (fun other member => among other (List.mem_cons_of_mem _ member)) ?_
      intro id member
      rcases mem_closeStep.mp member with before | ⟨own, named⟩
      · exact within id before
      · exact closes.consumes (among record List.mem_cons_self) (within _ own) id named

/-- A pass adds what the records of chosen ids name. -/
theorem consumes_subset_closeOver {record : JournalRecord} (member : record ∈ items)
    (own : record.recordId ∈ chosen) : ∀ id ∈ consumes record, id ∈ closeOver items chosen := by
  intro id named
  unfold closeOver
  induction items generalizing chosen with
  | nil => cases member
  | cons first rest ih =>
      rcases List.mem_cons.mp member with rfl | later
      · exact subset_closeOver rest _ (mem_closeStep.mpr (.inr ⟨own, named⟩))
      · exact ih later (mem_closeStep.mpr (.inl own))

theorem subset_closeIds (records : List JournalRecord) (ids : Finset String) :
    ids ⊆ closeIds records ids := by
  induction ids using closeIds.induct records with
  | case1 ids stable =>
      rw [closeIds, if_pos stable]
  | case2 ids grown ih =>
      rw [closeIds, if_neg grown]
      exact Finset.Subset.trans (subset_closeOver records ids) ih

theorem closeIds_within {ids : Set String} (closes : ClosesFamily records family ids)
    (within : ∀ id ∈ chosen, id ∈ ids) : ∀ id ∈ closeIds records chosen, id ∈ ids := by
  induction chosen using closeIds.induct records with
  | case1 chosen stable =>
      rw [closeIds, if_pos stable]
      exact within
  | case2 chosen grown ih =>
      rw [closeIds, if_neg grown]
      exact ih (closeOver_within closes (fun _ member => member) within)

/-- Every pass but the last one adds an id that a display names. -/
theorem closeIds_passes (records : List JournalRecord) (chosen : Finset String) :
    ∃ passes ≤ ((records.flatMap consumes).toFinset \ chosen).card,
      (closeOver records)^[passes] chosen = closeIds records chosen ∧
      closeOver records (closeIds records chosen) = closeIds records chosen := by
  induction chosen using closeIds.induct records with
  | case1 chosen stable =>
      rw [closeIds, if_pos stable]
      exact ⟨0, Nat.zero_le _, rfl, stable⟩
  | case2 chosen grown ih =>
      obtain ⟨passes, bound, reaches, stable⟩ := ih
      have fewer := closeOver_fewer grown
      rw [closeIds, if_neg grown]
      refine ⟨passes + 1, by omega, ?_, stable⟩
      rw [Function.iterate_succ_apply]
      exact reaches

/-- `_closure` ends after at most as many passes as there are named ids, with the least closed set
of ids, and lists the records of these ids in the order of the store. -/
theorem closure_least (records : List JournalRecord) (family : String) :
    ∃ (kept : Finset String) (passes : Nat),
      passes ≤ (records.flatMap consumes).toFinset.card ∧
      (closeOver records)^[passes] (familyIds records family) = kept ∧
      closeOver records kept = kept ∧
      IsLeast {ids : Set String | ClosesFamily records family ids} ↑kept ∧
      closure records family = records.filter (fun record => record.recordId ∈ kept) := by
  obtain ⟨passes, bound, reaches, stable⟩ := closeIds_passes records (familyIds records family)
  refine ⟨closeIds records (familyIds records family), passes, ?_, reaches, stable, ⟨?_, ?_⟩, rfl⟩
  · exact bound.trans (Finset.card_le_card Finset.sdiff_subset)
  · refine ⟨?_, ?_⟩
    · intro record member same
      exact subset_closeIds records _ (mem_familyIds.mpr ⟨record, member, same, rfl⟩)
    · intro record member own display shown
      have names := consumes_subset_closeOver member own
      rw [stable] at names
      have consumed : consumes record = display.candidateId :: display.supersedes := by
        rw [consumes, Option.mem_def.mp shown]
      rw [consumed] at names
      exact ⟨names _ List.mem_cons_self, fun id among => names id (List.mem_cons_of_mem _ among)⟩
  · intro ids closes id member
    refine closeIds_within closes ?_ id member
    intro first inside
    obtain ⟨record, stored, same, rfl⟩ := mem_familyIds.mp inside
    exact closes.family record stored same

end Chiplog.EvidenceJournal
