import Chiplog.Data.Sha256
import Chiplog.Data.Traces
import Chiplog.Platform.AuthorityLedger
import Mathlib.Tactic.Common

namespace Chiplog.Platform

open Chiplog.Data

/-! Runs of the operation ledger.

Any number of brokers act on one ledger.  A step changes the row of an operation only by
admitting it or by finishing it, and the epochs of a tenant are counted up one by one. -/

/-- What a call that returned was. -/
inductive LedgerAction where
  | allocateEpoch (tenantId : String) (epoch : Nat)
  | admits (operationId responseSlotId : String) (token : OperationToken) (nowNs : Int)
      (disposition : OperationDisposition) (novel : Bool)
  | finish (disposition : OperationDisposition)

namespace AuthorityLedger

section Runs

variable [Hashlib] {ledger : AuthorityLedger} {action : LedgerAction}

inductive Step : AuthorityLedger → LedgerAction → AuthorityLedger → Prop
  | allocateEpoch {ledger after tenantId endpointId keyDigest generationIdentity epoch}
      (returned : ledger.allocateEpoch tenantId endpointId keyDigest generationIdentity =
        .ok (epoch, after)) : Step ledger (.allocateEpoch tenantId epoch) after
  | admits {ledger after operationId responseSlotId token nowNs disposition novel}
      (returned : ledger.admitWithNovelty operationId responseSlotId token nowNs =
        .ok ((disposition, novel), after)) :
      Step ledger (.admits operationId responseSlotId token nowNs disposition novel) after
  | finish {ledger after disposition recorded}
      (returned : ledger.finish disposition = .ok (recorded, after)) :
      Step ledger (.finish disposition) after

/-! ### Epochs -/

/-- The epochs of every tenant are counted from one, and the last one is current. -/
def Counted (ledger : AuthorityLedger) : Prop :=
  ∀ tenantId, ∃ count, (ledger.epochsOf tenantId).map (fun row => (row.epoch, row.current)) =
    (List.range' 1 count).map (fun epoch => (epoch, decide (epoch = count)))

omit [Hashlib] in
theorem foldl_max_range (count : Nat) : (List.range' 1 count).foldl max 0 = count := by
  induction count with
  | zero => rfl
  | succ count ih =>
      rw [List.range'_concat, List.foldl_append, ih, List.foldl_cons, List.foldl_nil]
      omega

omit [Hashlib] in
theorem Counted.lastEpoch {tenantId : String} {count : Nat}
    (counted : (ledger.epochsOf tenantId).map (fun row => (row.epoch, row.current)) =
      (List.range' 1 count).map (fun epoch => (epoch, decide (epoch = count)))) :
    (ledger.epochsOf tenantId).map EpochRow.epoch = List.range' 1 count ∧
      ledger.lastEpoch tenantId = count := by
  have epochs : (ledger.epochsOf tenantId).map EpochRow.epoch = List.range' 1 count := by
    have first := congrArg (List.map Prod.fst) counted
    simpa [List.map_map, Function.comp_def] using first
  exact ⟨epochs, by rw [AuthorityLedger.lastEpoch, epochs, foldl_max_range]⟩

omit [Hashlib] in
theorem allocateEpoch_ok {ledger after : AuthorityLedger} {tenantId endpointId keyDigest : String}
    {generationIdentity : Option RuntimeGenerationIdentity} {epoch : Nat}
    (returned : ledger.allocateEpoch tenantId endpointId keyDigest generationIdentity =
      .ok (epoch, after)) :
    epoch = ledger.lastEpoch tenantId + 1 ∧ after.operations = ledger.operations ∧
      after.epochs = ledger.epochs.map (retired tenantId) ++
        [⟨tenantId, epoch, endpointId, keyDigest, true, generationIdentity.isSome⟩] := by
  obtain ⟨epochs, inserted, returned⟩ := bind_ok.mp returned
  obtain ⟨generations, _, returned⟩ := bind_ok.mp returned
  cases returned
  obtain ⟨_, _, inserted⟩ := bind_ok.mp inserted
  obtain ⟨_, _, inserted⟩ := bind_ok.mp inserted
  cases inserted
  exact ⟨rfl, rfl, rfl⟩

omit [Hashlib] in
/-- Retiring a tenant's epochs leaves the other tenants alone. -/
theorem epochsOf_retired (epochs : List EpochRow) (tenantId other : String) :
    (epochs.map (retired tenantId)).filter (fun row => row.tenantId = other) =
      (epochs.filter (fun row => row.tenantId = other)).map (retired tenantId) := by
  have kept (row : EpochRow) : (retired tenantId row).tenantId = row.tenantId := by
    unfold retired
    split <;> rfl
  rw [List.filter_map]
  congr 1
  apply List.filter_congr
  intro row _
  simp only [Function.comp_apply, kept]

omit [Hashlib] in
theorem Counted.allocate {ledger after : AuthorityLedger}
    {tenantId endpointId keyDigest : String}
    {generationIdentity : Option RuntimeGenerationIdentity} {epoch : Nat}
    (counted : ledger.Counted)
    (returned : ledger.allocateEpoch tenantId endpointId keyDigest generationIdentity =
      .ok (epoch, after)) : after.Counted := by
  obtain ⟨rfl, _, grown⟩ := allocateEpoch_ok returned
  intro other
  obtain ⟨count, epochs⟩ := counted other
  rw [epochsOf, grown, List.filter_append, epochsOf_retired]
  by_cases same : tenantId = other
  · subst same
    obtain ⟨numbers, last⟩ := Counted.lastEpoch epochs
    have front : ((ledger.epochsOf tenantId).map (retired tenantId)).map
        (fun row => (row.epoch, row.current)) =
          (List.range' 1 count).map (fun epoch => (epoch, decide (epoch = count + 1))) := by
      have older : (List.range' 1 count).map (fun epoch => (epoch, decide (epoch = count + 1))) =
          (List.range' 1 count).map (fun epoch => (epoch, false)) := by
        apply List.map_congr_left
        intro epoch member
        have bound := List.mem_range'_1.mp member
        rw [decide_eq_false (by omega)]
      rw [older, ← numbers, List.map_map, List.map_map]
      apply List.map_congr_left
      intro row member
      have own := of_decide_eq_true (List.mem_filter.mp member).2
      simp only [Function.comp_apply, retired, if_pos own]
    refine ⟨count + 1, ?_⟩
    rw [List.map_append, ← epochsOf, front, last, List.range'_concat, List.map_append]
    simp [Nat.add_comm]
  · refine ⟨count, ?_⟩
    have kept : (ledger.epochsOf other).map (retired tenantId) = ledger.epochsOf other := by
      apply (List.map_congr_left ?_).trans (List.map_id _)
      intro row member
      have own := of_decide_eq_true (List.mem_filter.mp member).2
      rw [retired, if_neg (fun tenant => same (tenant.symm.trans own)), id]
    rw [← epochsOf, kept, List.filter_cons_of_neg (by simpa using same), List.filter_nil,
      List.append_nil, epochs]

/-! ### What one call does to the operations -/

omit [Hashlib] in
theorem consumed_iff {tenantId nonce responseSlotId : String} :
    ledger.Consumed tenantId nonce responseSlotId ↔
      ∃ operationId row, ledger.operations.get? (tenantId, operationId) = some row ∧
        (row.nonce = nonce ∨ row.responseSlotId = responseSlotId) := by
  constructor
  · rintro ⟨⟨⟨tenant, operationId⟩, row⟩, member, rfl, taken⟩
    exact ⟨operationId, row, Dict.get?_eq_some_iff.mpr member, taken⟩
  · rintro ⟨operationId, row, found, taken⟩
    exact ⟨_, Dict.get?_eq_some_iff.mp found, rfl, taken⟩

/-- An admission answers with the recorded disposition, or records the first one. -/
theorem admitWithNovelty_ok {ledger after : AuthorityLedger} {operationId responseSlotId : String}
    {token : OperationToken} {nowNs : Int} {disposition : OperationDisposition} {novel : Bool}
    (returned : ledger.admitWithNovelty operationId responseSlotId token nowNs =
      .ok ((disposition, novel), after)) :
    nowNs < token.expiryNs ∧
      (ledger.currentEpoch token.tenantId).map Nat.cast = some token.brokerEpoch ∧
      (novel = false ∧ after = ledger ∧
          ledger.lookup token.tenantId operationId = some disposition ∨
        novel = true ∧ ledger.operations.get? (token.tenantId, operationId) = none ∧
          ¬ ledger.Consumed token.tenantId token.nonce responseSlotId ∧
          after = ledger.putOperation (token.tenantId, operationId)
            (token.issued responseSlotId)) := by
  obtain ⟨_, fresh, returned⟩ := bind_ok.mp returned
  obtain ⟨_, current, returned⟩ := bind_ok.mp returned
  refine ⟨Int.not_le.mp (raiseIf_ok.mp fresh), not_not.mp (raiseIf_ok.mp current), ?_⟩
  split at returned
  · rename_i existing found
    obtain ⟨_, _, returned⟩ := bind_ok.mp returned
    cases returned
    exact .inl ⟨rfl, rfl, by rw [lookup, found, Option.map_some]⟩
  · rename_i absent
    obtain ⟨_, _, returned⟩ := bind_ok.mp returned
    obtain ⟨_, free, returned⟩ := bind_ok.mp returned
    cases returned
    exact .inr ⟨rfl, absent, raiseIf_ok.mp free, rfl⟩

/-- A finish repeats the recorded disposition, or records the first terminal one. -/
theorem finish_ok {ledger after : AuthorityLedger} {disposition recorded : OperationDisposition}
    (returned : ledger.finish disposition = .ok (recorded, after)) :
    checkTerminal disposition = .ok () ∧ ∃ row,
      ledger.operations.get? (disposition.tenantId, disposition.operationId) = some row ∧
      (row.state ≠ .issued ∧ after = ledger ∨
        row.state = .issued ∧ after = ledger.putOperation
          (disposition.tenantId, disposition.operationId) (row.finished disposition)) := by
  obtain ⟨_, terminal, returned⟩ := bind_ok.mp returned
  refine ⟨terminal, ?_⟩
  dsimp only at returned
  split at returned
  · cases returned
  · rename_i row found
    obtain ⟨_, _, returned⟩ := bind_ok.mp returned
    refine ⟨row, found, ?_⟩
    split at returned
    · rename_i settled
      obtain ⟨_, _, returned⟩ := bind_ok.mp returned
      cases returned
      exact .inl ⟨settled, rfl⟩
    · rename_i pending
      cases returned
      exact .inr ⟨not_not.mp pending, rfl⟩

/-- What a terminal disposition carries. -/
structure Terminal (state : OperationState) (resultDigest : Option String)
    (resultBytes : Option Bytes) (recoveryObligationId : Option String) : Prop where
  settled : state ≠ .issued
  definite : state = .definite → recoveryObligationId = none ∧
    ∃ bytes, resultBytes = some bytes ∧ resultDigest = some (sha256 bytes).text
  unknown : state = .outcomeUnknown → recoveryObligationId ≠ none ∧ resultBytes = none

theorem checkTerminal_ok {disposition : OperationDisposition}
    (terminal : checkTerminal disposition = .ok ()) :
    Terminal disposition.state disposition.resultDigest disposition.resultBytes
      disposition.recoveryObligationId := by
  unfold checkTerminal at terminal
  split at terminal
  · cases terminal
  · rename_i isDefinite
    split at terminal
    · cases terminal
    · rename_i bytes stored
      obtain ⟨_, free, terminal⟩ := bind_ok.mp terminal
      refine ⟨by rw [isDefinite]; decide, ?_, fun other => ?_⟩
      · exact fun _ => ⟨Option.not_isSome_iff_eq_none.mp (raiseIf_ok.mp free), bytes, stored,
          not_not.mp (raiseIf_ok.mp terminal)⟩
      · rw [isDefinite] at other
        cases other
  · rename_i isUnknown
    have facts := raiseIf_ok.mp terminal
    rw [not_or, ne_eq, not_not] at facts
    refine ⟨by rw [isUnknown]; decide, fun other => ?_, fun _ => facts⟩
    rw [isUnknown] at other
    cases other

/-- What a step may do to the row of one operation. -/
inductive RowChange (before : AuthorityLedger) (action : LedgerAction) (key : String × String) :
    Option IssuedRow → Option IssuedRow → Prop
  | same (row : Option IssuedRow) : RowChange before action key row row
  | admitted {operationId responseSlotId : String} {token : OperationToken} {nowNs : Int}
      {disposition : OperationDisposition}
      (isAdmit : action = .admits operationId responseSlotId token nowNs disposition true)
      (own : (token.tenantId, operationId) = key)
      (free : ¬ before.Consumed token.tenantId token.nonce responseSlotId) :
      RowChange before action key none (some (token.issued responseSlotId))
  | finished {disposition : OperationDisposition} {row : IssuedRow}
      (isFinish : action = .finish disposition)
      (own : (disposition.tenantId, disposition.operationId) = key)
      (terminal : checkTerminal disposition = .ok ()) (pending : row.state = .issued) :
      RowChange before action key (some row) (some (row.finished disposition))

/-- A row that is put changes the row of its own key only. -/
theorem RowChange.put {before : AuthorityLedger} {own key : String × String} {row : IssuedRow}
    (changed : own = key → RowChange before action key (before.operations.get? key) (some row)) :
    RowChange before action key (before.operations.get? key)
      ((before.putOperation own row).operations.get? key) := by
  rw [putOperation, Dict.get?_set]
  by_cases same : key = own
  · rw [if_pos same]
    exact changed same.symm
  · rw [if_neg same]
    exact .same _

theorem Step.row {before after : AuthorityLedger}
    (step : Step before action after) (key : String × String) :
    RowChange before action key (before.operations.get? key) (after.operations.get? key) := by
  cases step with
  | allocateEpoch returned =>
      rw [(allocateEpoch_ok returned).2.1]
      exact .same _
  | admits returned =>
      obtain ⟨_, _, ⟨_, rfl, _⟩ | ⟨rfl, absent, free, rfl⟩⟩ := admitWithNovelty_ok returned
      · exact .same _
      · refine .put ?_
        rintro rfl
        rw [absent]
        exact .admitted rfl rfl free
  | finish returned =>
      obtain ⟨terminal, row, found, ⟨_, rfl⟩ | ⟨pending, rfl⟩⟩ := finish_ok returned
      · exact .same _
      · refine .put ?_
        rintro rfl
        rw [found]
        exact .finished rfl rfl terminal pending

/-! ### Every run -/

/-- A finished operation keeps its row for good. -/
theorem settled_kept {ledger later : AuthorityLedger} {actions : List LedgerAction}
    {key : String × String} {row : IssuedRow} (trace : Trace Step ledger actions later)
    (stored : ledger.operations.get? key = some row) (settled : row.state ≠ .issued) :
    later.operations.get? key = some row := by
  have stable : ∀ before action after, Step before action after →
      before.operations.get? key = some row → after.operations.get? key = some row := by
    intro before action after step known
    have change := step.row key
    rw [known] at change
    generalize after.operations.get? key = now at change
    cases change with
    | same => rfl
    | finished _ _ _ pending => exact absurd pending settled
  have held := trace.invariant stable stored
  exact held

/-- What the rows and epochs of every reachable ledger satisfy. -/
structure Consistent (ledger : AuthorityLedger) : Prop where
  counted : ledger.Counted
  carried : ∀ key row, ledger.operations.get? key = some row → row.state ≠ .issued →
    Terminal row.state row.resultDigest row.resultBytes row.recoveryObligationId

theorem Consistent.step {before after : AuthorityLedger}
    (step : Step before action after) (consistent : before.Consistent) : after.Consistent := by
  constructor
  · cases step with
    | allocateEpoch returned => exact consistent.counted.allocate returned
    | admits returned =>
        obtain ⟨_, _, ⟨_, rfl, _⟩ | ⟨_, _, _, rfl⟩⟩ := admitWithNovelty_ok returned
        · exact consistent.counted
        · exact consistent.counted
    | finish returned =>
        obtain ⟨_, _, _, ⟨_, rfl⟩ | ⟨_, rfl⟩⟩ := finish_ok returned
        · exact consistent.counted
        · exact consistent.counted
  · intro key row stored settled
    have change := step.row key
    rw [stored] at change
    generalize known : before.operations.get? key = earlier at change
    cases change with
    | same => exact consistent.carried key row known settled
    | admitted => exact absurd rfl settled
    | finished _ _ terminal => exact checkTerminal_ok terminal

theorem consistent {actions : List LedgerAction}
    (run : Trace Step .empty actions ledger) : ledger.Consistent := by
  refine run.invariant (fun _ _ _ step known => known.step step) ⟨fun _ => ⟨0, rfl⟩, ?_⟩
  intro key row stored
  cases stored

end Runs

end AuthorityLedger

/-! ### What an admission consumes -/

namespace LedgerAction

/-- The tenant's operation that the step admits as new. -/
def novelOperation : LedgerAction → Option (String × String)
  | .admits operationId _ token _ _ true => some (token.tenantId, operationId)
  | _ => none

def novelNonce : LedgerAction → Option (String × String)
  | .admits _ _ token _ _ true => some (token.tenantId, token.nonce)
  | _ => none

def novelSlot : LedgerAction → Option (String × String)
  | .admits _ responseSlotId token _ _ true => some (token.tenantId, responseSlotId)
  | _ => none

/-- The step admits a new operation of the tenant. -/
def Admits (tenantId : String) (action : LedgerAction) : Prop :=
  ∃ operationId, action.novelOperation = some (tenantId, operationId)

end LedgerAction

namespace AuthorityLedger

/-- Some operation of the tenant holds the value in the column. -/
def Occupied (column : String → IssuedRow → String) (ledger : AuthorityLedger)
    (key : String × String) : Prop :=
  ∃ operationId row, ledger.operations.get? (key.1, operationId) = some row ∧
    column operationId row = key.2

section Admissions

variable [Hashlib]

/-- The columns of an operation never change. -/
theorem Step.occupied {column : String → IssuedRow → String}
    (fixed : ∀ operationId row disposition,
      column operationId (IssuedRow.finished row disposition) = column operationId row)
    {before after : AuthorityLedger} {action : LedgerAction} (step : Step before action after)
    {key : String × String} (occupied : before.Occupied column key) :
    after.Occupied column key := by
  obtain ⟨operationId, row, stored, holds⟩ := occupied
  have change := step.row (key.1, operationId)
  rw [stored] at change
  unfold Occupied
  generalize now : after.operations.get? (key.1, operationId) = later at change
  cases change with
  | same => exact ⟨operationId, row, now, holds⟩
  | finished => exact ⟨operationId, _, now, (fixed _ _ _).trans holds⟩

/-- An admission is new in each of the three keys, and occupies them. -/
theorem Step.admits_new {before after : AuthorityLedger} {operationId responseSlotId : String}
    {token : OperationToken} {nowNs : Int} {disposition : OperationDisposition}
    (step : Step before (.admits operationId responseSlotId token nowNs disposition true) after) :
    before.operations.get? (token.tenantId, operationId) = none ∧
      ¬ before.Consumed token.tenantId token.nonce responseSlotId ∧
      after.operations.get? (token.tenantId, operationId) = some (token.issued responseSlotId) := by
  cases step with
  | admits returned =>
      obtain ⟨_, _, ⟨impossible, _⟩ | ⟨_, absent, free, rfl⟩⟩ := admitWithNovelty_ok returned
      · cases impossible
      · exact ⟨absent, free, by rw [putOperation, Dict.get?_set, if_pos rfl]⟩

theorem occupied_distinct (column : String → IssuedRow → String)
    (fixed : ∀ operationId row disposition,
      column operationId (IssuedRow.finished row disposition) = column operationId row)
    {taking : LedgerAction → Option (String × String)} {actions : List LedgerAction}
    {ledger : AuthorityLedger} (run : Trace Step .empty actions ledger)
    (takes : ∀ before action after, Step before action after → ∀ key, taking action = some key →
      ¬ before.Occupied column key ∧ after.Occupied column key) :
    (actions.filterMap taking).Nodup := by
  have kept : ∀ before action after, Step before action after → ∀ key,
      before.Occupied column key → after.Occupied column key :=
    fun _ _ _ step _ occupied => step.occupied fixed occupied
  exact (run.distinct kept takes).1

/-- Every key is consumed at most once. -/
theorem novel_distinct {actions : List LedgerAction} {ledger : AuthorityLedger}
    (run : Trace Step .empty actions ledger) :
    (actions.filterMap LedgerAction.novelOperation).Nodup ∧
      (actions.filterMap LedgerAction.novelNonce).Nodup ∧
      (actions.filterMap LedgerAction.novelSlot).Nodup := by
  refine ⟨occupied_distinct (fun operationId _ => operationId) (fun _ _ _ => rfl) run ?_,
    occupied_distinct (fun _ row => row.nonce) (fun _ _ _ => rfl) run ?_,
    occupied_distinct (fun _ row => row.responseSlotId) (fun _ _ _ => rfl) run ?_⟩
  · intro before action after step key taking
    unfold LedgerAction.novelOperation at taking
    split at taking
    · cases taking
      obtain ⟨absent, _, stored⟩ := step.admits_new
      refine ⟨?_, _, _, stored, rfl⟩
      rintro ⟨operationId, row, present, rfl⟩
      rw [absent] at present
      cases present
    · cases taking
  · intro before action after step key taking
    unfold LedgerAction.novelNonce at taking
    split at taking
    · cases taking
      obtain ⟨_, free, stored⟩ := step.admits_new
      refine ⟨?_, _, _, stored, rfl⟩
      rintro ⟨operationId, row, present, same⟩
      exact free (consumed_iff.mpr ⟨operationId, row, present, .inl same⟩)
    · cases taking
  · intro before action after step key taking
    unfold LedgerAction.novelSlot at taking
    split at taking
    · cases taking
      obtain ⟨_, free, stored⟩ := step.admits_new
      refine ⟨?_, _, _, stored, rfl⟩
      rintro ⟨operationId, row, present, same⟩
      exact free (consumed_iff.mpr ⟨operationId, row, present, .inr same⟩)
    · cases taking

end Admissions

/-! ### Restarts -/

/-- The pending operations of a restart finished one by one while other brokers go on: the
list still to be finished, the ledger now and the ledger when the restart returns. -/
inductive Reconciling [Hashlib] (tenantId : String) (brokerEpoch : Int) :
    List OperationDisposition → AuthorityLedger → AuthorityLedger → Prop
  | returned (ledger : AuthorityLedger) : Reconciling tenantId brokerEpoch [] ledger ledger
  | meanwhile {pending : List OperationDisposition} {before middle after : AuthorityLedger}
      {action : LedgerAction} (step : Step before action middle)
      (quiet : ¬ action.Admits tenantId)
      (rest : Reconciling tenantId brokerEpoch pending middle after) :
      Reconciling tenantId brokerEpoch pending before after
  | finish {disposition recorded : OperationDisposition} {pending : List OperationDisposition}
      {before middle after : AuthorityLedger}
      (finished : before.finish (unknown brokerEpoch disposition) = .ok (recorded, middle))
      (rest : Reconciling tenantId brokerEpoch pending middle after) :
      Reconciling tenantId brokerEpoch (disposition :: pending) before after

theorem mem_pending {ledger : AuthorityLedger} {tenantId : String}
    {disposition : OperationDisposition} :
    disposition ∈ ledger.pending tenantId ↔ ∃ operationId row,
      ledger.operations.get? (tenantId, operationId) = some row ∧ row.state = .issued ∧
        disposition = ⟨tenantId, operationId, row.responseSlotId, .issued, none, none, none⟩ := by
  simp only [pending, List.mem_map, List.mem_insertionSort, List.mem_filter, decide_eq_true_eq]
  constructor
  · rintro ⟨⟨⟨tenant, operationId⟩, row⟩, ⟨member, rfl, issued⟩, rfl⟩
    exact ⟨operationId, row, Dict.get?_eq_some_iff.mpr member, issued, rfl⟩
  · rintro ⟨operationId, row, found, issued, rfl⟩
    exact ⟨_, ⟨Dict.get?_eq_some_iff.mp found, rfl, issued⟩, rfl⟩

section Restarts

variable [Hashlib]

/-- A restart that returned leaves nothing issued that was listed as pending, and only what
was listed can be issued. -/
theorem Reconciling.settles {tenantId : String} {brokerEpoch : Int}
    {pending : List OperationDisposition} {before after : AuthorityLedger}
    (reconciling : Reconciling tenantId brokerEpoch pending before after)
    (listed : ∀ operationId row, before.operations.get? (tenantId, operationId) = some row →
      row.state = .issued → ∃ disposition ∈ pending, disposition.tenantId = tenantId ∧
        disposition.operationId = operationId) :
    ∀ operationId row, after.operations.get? (tenantId, operationId) = some row →
      row.state ≠ .issued := by
  induction reconciling with
  | returned ledger =>
      intro operationId row stored issued
      obtain ⟨_, member, _⟩ := listed operationId row stored issued
      cases member
  | @meanwhile pending before middle after action step quiet rest ih =>
      apply ih
      intro operationId row stored issued
      have change := step.row (tenantId, operationId)
      rw [stored] at change
      generalize known : before.operations.get? (tenantId, operationId) = earlier at change
      cases change with
      | same => exact listed operationId row known issued
      | admitted isAdmit own =>
          subst isAdmit
          exact absurd ⟨_, congrArg some own⟩ quiet
      | finished _ _ terminal => exact absurd issued (checkTerminal_ok terminal).settled
  | @finish disposition recorded pending before middle after finished rest ih =>
      apply ih
      intro operationId row stored issued
      have change := (Step.finish finished).row (tenantId, operationId)
      rw [stored] at change
      generalize known : before.operations.get? (tenantId, operationId) = earlier at change
      cases change with
      | same =>
          obtain ⟨other, member, own, named⟩ := listed operationId row known issued
          rcases List.mem_cons.mp member with rfl | later
          · -- the finished operation itself is settled afterwards
            obtain ⟨terminal, found, present, ⟨settled, rfl⟩ | ⟨_, rfl⟩⟩ := finish_ok finished
            · rw [unknown, own, named, known, Option.some.injEq] at present
              exact absurd (present ▸ issued) settled
            · rw [putOperation, Dict.get?_set, unknown, own, named, if_pos rfl,
                Option.some.injEq] at stored
              rw [← stored] at issued
              cases issued
          · exact ⟨other, later, own, named⟩
      | admitted isAdmit => cases isAdmit
      | finished _ _ terminal => exact absurd issued (checkTerminal_ok terminal).settled

/-- A finish of an operation that is still issued. -/
theorem finish_issued {ledger : AuthorityLedger} {disposition : OperationDisposition}
    {row : IssuedRow} (terminal : checkTerminal disposition = .ok ())
    (found : ledger.operations.get? (disposition.tenantId, disposition.operationId) = some row)
    (issued : row.state = .issued) (slot : row.responseSlotId = disposition.responseSlotId) :
    ledger.finish disposition = .ok (disposition, ledger.putOperation
      (disposition.tenantId, disposition.operationId) (row.finished disposition)) := by
  have same : ¬ row.responseSlotId ≠ disposition.responseSlotId := not_not.mpr slot
  have pending : ¬ row.state ≠ .issued := not_not.mpr issued
  rw [finish, terminal, ok_bind]
  dsimp only
  rw [found]
  dsimp only
  rw [raiseIf_neg same, ok_bind, if_neg pending]

/-- Distinct operations that are all issued are finished in turn. -/
theorem reconcile_rounds {tenantId : String} (brokerEpoch : Int)
    {pending : List OperationDisposition} {ledger : AuthorityLedger} (reconciled : List String)
    (distinct : (pending.map OperationDisposition.operationId).Nodup)
    (issued : ∀ disposition ∈ pending, disposition.tenantId = tenantId ∧
      disposition.resultBytes = none ∧ ∃ row,
        ledger.operations.get? (tenantId, disposition.operationId) = some row ∧
          row.state = .issued ∧ row.responseSlotId = disposition.responseSlotId) :
    ∃ after, pending.foldlM (reconcileOne brokerEpoch) (reconciled, ledger) =
        .ok (reconciled ++ pending.map OperationDisposition.operationId, after) ∧
      Reconciling tenantId brokerEpoch pending ledger after := by
  induction pending generalizing ledger reconciled with
  | nil =>
      refine ⟨ledger, ?_, .returned ledger⟩
      rw [List.map_nil, List.append_nil]
      rfl
  | cons disposition rest ih =>
      obtain ⟨fresh, distinct⟩ := List.nodup_cons.mp distinct
      obtain ⟨⟨own, empty, row, found, isIssued, slot⟩, later⟩ := List.forall_mem_cons.mp issued
      have terminal : checkTerminal (unknown brokerEpoch disposition) = .ok () := by
        simp [checkTerminal, unknown, empty]
      let middle := ledger.putOperation (disposition.tenantId, disposition.operationId)
        (row.finished (unknown brokerEpoch disposition))
      have finished : ledger.finish (unknown brokerEpoch disposition) =
          .ok (unknown brokerEpoch disposition, middle) :=
        finish_issued terminal (by rw [unknown, own]; exact found) isIssued slot
      have remaining : ∀ other ∈ rest, other.tenantId = tenantId ∧ other.resultBytes = none ∧
          ∃ row, middle.operations.get? (tenantId, other.operationId) = some row ∧
            row.state = .issued ∧ row.responseSlotId = other.responseSlotId := by
        intro other member
        obtain ⟨tenant, bytes, stored, present, facts⟩ := later other member
        have named : other.operationId ≠ disposition.operationId := by
          intro same
          exact fresh (same ▸ List.mem_map_of_mem member)
        have apart : (tenantId, other.operationId) ≠
            (disposition.tenantId, disposition.operationId) :=
          fun same => named (Prod.ext_iff.mp same).2
        refine ⟨tenant, bytes, stored, ?_, facts⟩
        dsimp only [middle, putOperation]
        rw [Dict.get?_set, if_neg apart, present]
      obtain ⟨after, returned, reconciling⟩ :=
        ih (reconciled ++ [disposition.operationId]) distinct remaining
      refine ⟨after, ?_, .finish finished reconciling⟩
      have round : reconcileOne brokerEpoch (reconciled, ledger) disposition =
          .ok (reconciled ++ [disposition.operationId], middle) := by
        rw [reconcileOne, finished, ok_bind]
      rw [List.foldlM_cons, round, ok_bind, returned, List.map_cons, List.append_assoc,
        List.singleton_append]

omit [Hashlib] in
theorem pending_distinct (ledger : AuthorityLedger) (tenantId : String) :
    ((ledger.pending tenantId).map OperationDisposition.operationId).Nodup := by
  rw [pending, List.map_map]
  have sorts := List.perm_insertionSort
    (fun left right : (String × String) × IssuedRow => left.1.2 ≤ right.1.2)
    (ledger.operations.entries.filter (fun entry =>
      entry.1.1 = tenantId ∧ entry.2.state = .issued))
  rw [(sorts.map _).nodup_iff]
  have keys : ((ledger.operations.entries.filter (fun entry =>
      entry.1.1 = tenantId ∧ entry.2.state = .issued)).map Prod.fst).Nodup :=
    ledger.operations.distinct.sublist (List.filter_sublist.map _)
  refine List.Nodup.map_on ?_ (List.Nodup.of_map _ keys)
  intro first member second other same
  have firstTenant := (of_decide_eq_true (List.mem_filter.mp member).2).1
  have secondTenant := (of_decide_eq_true (List.mem_filter.mp other).2).1
  exact List.inj_on_of_nodup_map keys member other
    (Prod.ext (firstTenant.trans secondTenant.symm) same)

/-- With nobody else at work a restart returns, having gone through its pending operations. -/
theorem reconcilePending_ok (ledger : AuthorityLedger) (tenantId : String) (brokerEpoch : Int) :
    ∃ after, ledger.reconcilePending tenantId brokerEpoch =
        .ok ((ledger.pending tenantId).map OperationDisposition.operationId, after) ∧
      Reconciling tenantId brokerEpoch (ledger.pending tenantId) ledger after := by
  refine reconcile_rounds brokerEpoch [] (pending_distinct ledger tenantId) ?_
  intro disposition member
  obtain ⟨operationId, row, found, issued, rfl⟩ := mem_pending.mp member
  exact ⟨rfl, rfl, row, found, issued, rfl⟩

/-- Over any run the epochs of a tenant count up with the last one current, every new
admission consumes three keys of its own under a live token of that epoch, a disposition is
settled once and carries what its state demands, a replay answers with the recorded
disposition, and a restart leaves nothing issued. -/
theorem operation_ledger_safe {actions : List LedgerAction} {ledger : AuthorityLedger}
    (run : Trace Step .empty actions ledger) :
    (∀ tenantId, ∃ count,
      (ledger.epochsOf tenantId).map EpochRow.epoch = List.range' 1 count ∧
        ∀ row ∈ ledger.epochsOf tenantId, row.current = true ↔ row.epoch = count) ∧
    (actions.filterMap LedgerAction.novelOperation).Nodup ∧
    (actions.filterMap LedgerAction.novelNonce).Nodup ∧
    (actions.filterMap LedgerAction.novelSlot).Nodup ∧
    (∀ operationId responseSlotId token nowNs disposition after,
      Step ledger (.admits operationId responseSlotId token nowNs disposition true) after →
      nowNs < token.expiryNs ∧ ∃ row ∈ ledger.epochsOf token.tenantId, row.current = true ∧
        (row.epoch : Int) = token.brokerEpoch) ∧
    (∀ key row, ledger.operations.get? key = some row → row.state ≠ .issued →
      ∀ more later, Trace Step ledger more later → later.operations.get? key = some row) ∧
    (∀ key row, ledger.operations.get? key = some row →
      (row.state = .definite → row.recoveryObligationId = none ∧
        ∃ bytes, row.resultBytes = some bytes ∧ row.resultDigest = some (sha256 bytes).text) ∧
      (row.state = .outcomeUnknown →
        row.recoveryObligationId ≠ none ∧ row.resultBytes = none)) ∧
    (∀ operationId responseSlotId token nowNs disposition after,
      Step ledger (.admits operationId responseSlotId token nowNs disposition false) after →
      after = ledger ∧ ledger.lookup token.tenantId operationId = some disposition) ∧
    (∀ tenantId brokerEpoch after,
      Reconciling tenantId brokerEpoch (ledger.pending tenantId) ledger after →
      ∀ operationId row, after.operations.get? (tenantId, operationId) = some row →
        row.state ≠ .issued) ∧
    ∀ tenantId brokerEpoch, ∃ after, ledger.reconcilePending tenantId brokerEpoch =
        .ok ((ledger.pending tenantId).map OperationDisposition.operationId, after) ∧
      Reconciling tenantId brokerEpoch (ledger.pending tenantId) ledger after := by
  have known := consistent run
  obtain ⟨operations, nonces, slots⟩ := novel_distinct run
  refine ⟨?_, operations, nonces, slots, ?_, ?_, ?_, ?_, ?_, ?_⟩
  · intro tenantId
    obtain ⟨count, counted⟩ := known.counted tenantId
    refine ⟨count, (Counted.lastEpoch counted).1, ?_⟩
    intro row member
    have inside : (row.epoch, row.current) ∈
        (List.range' 1 count).map (fun epoch => (epoch, decide (epoch = count))) := by
      rw [← counted]
      exact List.mem_map_of_mem member
    obtain ⟨epoch, _, same⟩ := List.mem_map.mp inside
    obtain ⟨rfl, current⟩ := Prod.mk.inj same
    rw [← current, decide_eq_true_eq]
  · intro operationId responseSlotId token nowNs disposition after step
    cases step with
    | admits returned =>
        obtain ⟨live, current, _⟩ := admitWithNovelty_ok returned
        refine ⟨live, ?_⟩
        rw [currentEpoch, Option.map_map] at current
        obtain ⟨row, found, same⟩ := Option.map_eq_some_iff.mp current
        exact ⟨row, List.mem_of_find?_eq_some found, List.find?_some found, same⟩
  · intro key row stored settled more later trace
    exact settled_kept trace stored settled
  · intro key row stored
    constructor
    · intro isDefinite
      exact (known.carried key row stored (by rw [isDefinite]; decide)).definite isDefinite
    · intro isUnknown
      exact (known.carried key row stored (by rw [isUnknown]; decide)).unknown isUnknown
  · intro operationId responseSlotId token nowNs disposition after step
    cases step with
    | admits returned =>
        obtain ⟨_, _, ⟨_, same, recorded⟩ | ⟨impossible, _⟩⟩ := admitWithNovelty_ok returned
        · exact ⟨same, recorded⟩
        · cases impossible
  · intro tenantId brokerEpoch after reconciling
    refine reconciling.settles ?_
    intro operationId row stored issued
    exact ⟨_, mem_pending.mpr ⟨operationId, row, stored, issued, rfl⟩, rfl, rfl⟩
  · exact fun tenantId brokerEpoch => reconcilePending_ok ledger tenantId brokerEpoch

end Restarts

end AuthorityLedger

def sampleToken : OperationToken where
  mode := .oneShot
  tenantId := "tenant-1"
  brokerEpoch := 1
  ownerId := "owner"
  generationId := "generation-1"
  sessionId := "session-1"
  targetId := "target"
  capabilityId := "capability"
  operationKind := "write"
  payloadFingerprint := "payload"
  nonce := "nonce-1"
  expiryNs := 10

namespace AuthorityLedger

/-- A restart finishes the operation that the first epoch has admitted. -/
theorem operation_ledger_safe_sample :
    letI := Sha256.hashlib
    ∃ ledger after, Trace Step .empty [.allocateEpoch "tenant-1" 1,
        .admits "operation-1" "slot-1" sampleToken 5
          ⟨"tenant-1", "operation-1", "slot-1", .issued, none, none, none⟩ true] ledger ∧
      ledger.reconcilePending "tenant-1" 2 = .ok (["operation-1"], after) ∧
      ∀ operationId row, after.operations.get? ("tenant-1", operationId) = some row →
        row.state ≠ .issued := by
  let _ := Sha256.hashlib
  let opened : AuthorityLedger :=
    { empty with epochs := [⟨"tenant-1", 1, "endpoint", "digest", true, false⟩] }
  have allocated : empty.allocateEpoch "tenant-1" "endpoint" "digest" none = .ok (1, opened) := rfl
  have admitted : opened.admitWithNovelty "operation-1" "slot-1" sampleToken 5 =
      .ok ((⟨"tenant-1", "operation-1", "slot-1", .issued, none, none, none⟩, true),
        opened.putOperation ("tenant-1", "operation-1") (sampleToken.issued "slot-1")) := rfl
  have run := (Trace.single (Step.allocateEpoch allocated)).snoc (.admits admitted)
  have facts := operation_ledger_safe run
  obtain ⟨after, returned, reconciling⟩ := facts.2.2.2.2.2.2.2.2.2 "tenant-1" 2
  exact ⟨_, after, run, returned, facts.2.2.2.2.2.2.2.2.1 "tenant-1" 2 after reconciling⟩

end AuthorityLedger

end Chiplog.Platform
