import Chiplog.Composition.EffectResolution
import Chiplog.Data.Paging

namespace Chiplog.Composition

open Chiplog.Data Chiplog.Platform Chiplog.Effects

/-! Discovery of effect work: one call reads the SENDs of the log in the order they were
committed and lists those that still need custody or reconciliation. -/

structure EffectWorkScan where
  tenantId : Identity
  principalId : Identity
  limit : ℕ+
  afterSend : Option Identity
deriving DecidableEq

structure EffectWorkDiscovery where
  snapshotHead : Nat
  items : List EffectWork
  hasMore : Bool
  nextSend : Option Identity
deriving DecidableEq

section Reading

variable {β : Type} [Content β] [Hashlib] [EffectStores β]

/-- Original closure and complete current semantic result, joined on one snapshot. -/
def currentEffectResult (services : EffectServices β) (runtime : Runtime)
    (binding : PostgresEffectsBinding) (snapshot : Snapshot β) (callId : String) :
    Transaction Bytes := do
  let closure ← only (← closureRows runtime snapshot callId)
  let (outcome, inventory) ← evidenceOutcome services runtime binding snapshot callId []
  let reductions ← reductionRows runtime snapshot callId
  require ((∃ reduction ∈ reductions.getLast?, reduction.2.closureHead = some closure.2.head ∧
      reduction.2.completeEvidenceHeads = inventory ∧ reduction.2.outcome = outcome) ∧
      outcome ∈ closureStates)
    (.loopHold "original closure lacks a closed current semantic reduction")
  return Json.encodeAscii (.obj [("effect_outcome", .str outcome.wire)])

/-- Closure alone is insufficient; late evidence must not hide behind it. -/
def settled (services : EffectServices β) (runtime : Runtime) (binding : PostgresEffectsBinding)
    (snapshot : Snapshot β) (streamId : String) (closures : List (Retained EffectClosure)) :
    Transaction Bool :=
  if closures = [] then .ok false
  else
    match currentEffectResult services runtime binding snapshot streamId with
    | .ok _ => .ok true
    | .error (.loopHold _) => .ok false
    | .error failure => .error failure

/-- The claim of a listed SEND; one without a claim is still pending. -/
def selectedClaim (claims : List (Retained EffectClaim)) : Transaction (Option ExactHead) :=
  if claims = [] then .ok none
  else do
    let claim ← only claims
    return some (exactHead (← identity claim.2.head) (canonicalBytes claim.2).items)

def presentedWork (runtime : Runtime) (send : Retained EffectSend) (value : EffectSubject)
    (claims : List (Retained EffectClaim)) : Transaction EffectWork := do
  let sendHead ← identity send.2.head
  let claim ← selectedClaim claims
  return {
    tenantId := ← identity runtime.tenantId
    principalId := ← identity runtime.principalId
    streamId := ← identity send.2.streamId
    intent := exactHead value.intentId value.bytes
    send := exactHead sendHead (canonicalBytes send.2).items
    claim := claim }

/-- What the scan does with one SEND: nothing when its effect is settled. -/
def examine (services : EffectServices β) (runtime : Runtime) (binding : PostgresEffectsBinding)
    (snapshot : Snapshot β) (send : Retained EffectSend) : Transaction (Option EffectWork) := do
  let streamId := send.2.streamId
  let value ← subject runtime snapshot streamId
  let claims ← claimRows runtime snapshot streamId
  let closures ← closureRows runtime snapshot streamId
  if ← settled services runtime binding snapshot streamId closures then
    return none
  else
    return some (← presentedWork runtime send value claims)

/-- The last SEND under a head wins, as in a dictionary. -/
def indexed (sends : List (Retained EffectSend)) (recordId : String) :
    Option (Retained EffectSend) :=
  sends.reverse.find? (fun send => send.2.head = recordId)

/-- SENDs of both families in the order of the log. -/
def orderedSends (sends : List (Retained EffectSend)) (snapshot : Snapshot β) :
    List (Retained EffectSend) :=
  snapshot.records.filterMap (fun item => indexed sends item.recordId)

omit [Content β] [Hashlib] [EffectStores β] in
/-- What is left behind the cursor. -/
def remainingSends (ordered : List (Retained EffectSend)) :
    Option Identity → Transaction (List (Retained EffectSend))
  | none => .ok ordered
  | some cursor =>
      match ordered.zipIdx.filter (fun item => item.1.2.head = cursor.text) with
      | [(_, position)] => .ok (ordered.drop (position + 1))
      | _ => .error (.loopRejected "effect work cursor is not a retained scoped SEND")

/-- Only listed SENDs count towards the limit. -/
def scanSends (head : Nat) (examine : Retained EffectSend → Transaction (Option EffectWork))
    (limit : ℕ+) (final : Option (Retained EffectSend)) :
    List (Retained EffectSend) → List EffectWork → Transaction EffectWorkDiscovery
  | [], items => .ok ⟨head, items, false, none⟩
  | send :: rest, items => do
      match ← examine send with
      | none => scanSends head examine limit final rest items
      | some work =>
          if (items ++ [work]).length = limit then
            return ⟨head, items ++ [work], some send ≠ final, some (← identity send.2.head)⟩
          else
            scanSends head examine limit final rest (items ++ [work])

def discoverEffectWork (services : EffectServices β) (runtime : Runtime)
    (binding : PostgresEffectsBinding) (peer : String) (request : EffectWorkScan)
    (user : UserState β) : Transaction EffectWorkDiscovery := do
  let snapshot ← runtime.snapshotForPeer services.context peer user
  require (request.tenantId.text = runtime.tenantId ∧
      request.principalId.text = runtime.principalId)
    (.loopRejected "effect work scan scope differs")
  let tools ← rows (EffectSend .tool) runtime snapshot none
  let actions ← rows (EffectSend .action) runtime snapshot none
  let sends := tools.map (Sigma.mk .tool) ++ actions.map (Sigma.mk .action)
  let ordered ← remainingSends (orderedSends sends snapshot) request.afterSend
  scanSends snapshot.head (examine services runtime binding snapshot) request.limit
    ordered.getLast? ordered []

end Reading

end Chiplog.Composition

namespace Chiplog.Composition

open Chiplog.Data Chiplog.Platform Chiplog.Effects

/-! What one call of effect discovery reads, and what it makes of one SEND. -/

theorem identity_ok {text : String} {value : Identity} (made : identity text = .ok value) :
    value.text = text := by
  unfold identity at made
  split at made
  · cases made
    rfl
  · cases made

section Retained

variable {β : Type} [Content β] [EffectStores β]

/-- The SEND that one record of the log holds. -/
def retainedSend (item : Record β) : Option (Retained EffectSend) :=
  if item.schemaId = Schema.schemaId (EffectSend .tool) then
    (Stores.read item.content : Option (EffectSend .tool)).map (Sigma.mk .tool)
  else if item.schemaId = Schema.schemaId (EffectSend .action) then
    (Stores.read item.content : Option (EffectSend .action)).map (Sigma.mk .action)
  else none

/-- Every SEND of the log, in the order of the log. -/
def retainedSends (snapshot : Snapshot β) : List (Retained EffectSend) :=
  snapshot.records.filterMap retainedSend

theorem retainedSends_extends {earlier later : Snapshot β} (grows : earlier.Extends later) :
    retainedSends earlier <+: retainedSends later := by
  obtain ⟨more, whole⟩ := grows
  refine ⟨(more.flatMap Batch.records).filterMap retainedSend, ?_⟩
  rw [retainedSends, retainedSends, Snapshot.records, Snapshot.records, ← whole,
    List.flatMap_append, List.filterMap_append]

theorem retainedSend_some {item : Record β} {send : Retained EffectSend} :
    retainedSend item = some send ↔ item.schemaId = Schema.schemaId (EffectSend send.1) ∧
      Stores.read item.content = some send.2 := by
  have apart : Schema.schemaId (EffectSend .action) ≠ Schema.schemaId (EffectSend .tool) := by
    decide
  obtain ⟨family, value⟩ := send
  unfold retainedSend
  cases family with
  | tool =>
      by_cases tool : item.schemaId = Schema.schemaId (EffectSend .tool)
      · simp [tool]
      · by_cases action : item.schemaId = Schema.schemaId (EffectSend .action)
        · simp [action, apart]
        · simp [tool, action]
  | action =>
      by_cases tool : item.schemaId = Schema.schemaId (EffectSend .tool)
      · simp [tool, apart.symm]
      · by_cases action : item.schemaId = Schema.schemaId (EffectSend .action)
        · simp [action, apart]
        · simp [tool, action]

variable [Hashlib] {runtime : Runtime} {snapshot : Snapshot β}

omit [EffectStores β] in
/-- A read of a whole schema returns the checked value of each of its records. -/
theorem rows_all [CustodyRow α] [Stores β α] {values : List α}
    (returned : rows α runtime snapshot none = .ok values) :
    (∀ value ∈ values, ∃ item ∈ snapshot.records, item.schemaId = Schema.schemaId α ∧
      Stores.read item.content = some value ∧ Recorded runtime item value) ∧
    ∀ item ∈ snapshot.records, item.schemaId = Schema.schemaId α →
      ∃ value ∈ values, Stores.read item.content = some value ∧ Recorded runtime item value := by
  simp only [rows, bind_ok, pure_ok] at returned
  obtain ⟨stored, read, rfl⟩ := returned
  simp only [Option.mem_def, reduceCtorEq, false_implies, implies_true, decide_true,
    List.filter_true]
  constructor
  · intro value member
    obtain ⟨item, inside, computed⟩ := mem_of_mapM_ok read member
    rw [List.mem_filter, decide_eq_true_eq] at inside
    exact ⟨item, inside.1, inside.2, readRow_ok.mp computed⟩
  · intro item member same
    obtain ⟨value, inside, computed⟩ := result_of_mapM_ok read
      (List.mem_filter.mpr ⟨member, decide_eq_true same⟩)
    exact ⟨value, inside, readRow_ok.mp computed⟩

/-- The SENDs of the scan are those that the log holds, each under its own head. -/
structure SendsRead (snapshot : Snapshot β) (sends : List (Retained EffectSend)) : Prop where
  stored : ∀ send ∈ sends, ∃ item ∈ snapshot.records, retainedSend item = some send ∧
    item.recordId = send.2.head
  each : ∀ item ∈ snapshot.records, ∀ send, retainedSend item = some send → send ∈ sends ∧
    item.recordId = send.2.head

theorem sendsRead {tools : List (EffectSend .tool)} {actions : List (EffectSend .action)}
    (readTools : rows (EffectSend .tool) runtime snapshot none = .ok tools)
    (readActions : rows (EffectSend .action) runtime snapshot none = .ok actions) :
    SendsRead snapshot (tools.map (Sigma.mk .tool) ++ actions.map (Sigma.mk .action)) := by
  obtain ⟨toolStored, toolEach⟩ := rows_all readTools
  obtain ⟨actionStored, actionEach⟩ := rows_all readActions
  constructor
  · intro send member
    rw [List.mem_append, List.mem_map, List.mem_map] at member
    rcases member with ⟨value, inside, rfl⟩ | ⟨value, inside, rfl⟩
    · obtain ⟨item, among, schema, decodes, recorded⟩ := toolStored value inside
      exact ⟨item, among, retainedSend_some.mpr ⟨schema, decodes⟩, recorded.2.1⟩
    · obtain ⟨item, among, schema, decodes, recorded⟩ := actionStored value inside
      exact ⟨item, among, retainedSend_some.mpr ⟨schema, decodes⟩, recorded.2.1⟩
  · intro item member send retained
    obtain ⟨schema, decodes⟩ := retainedSend_some.mp retained
    obtain ⟨family, value⟩ := send
    cases family with
    | tool =>
        obtain ⟨other, inside, again, recorded⟩ := toolEach item member schema
        obtain rfl := Option.some.inj (decodes.symm.trans again)
        exact ⟨List.mem_append_left _ (List.mem_map_of_mem inside), recorded.2.1⟩
    | action =>
        obtain ⟨other, inside, again, recorded⟩ := actionEach item member schema
        obtain rfl := Option.some.inj (decodes.symm.trans again)
        exact ⟨List.mem_append_right _ (List.mem_map_of_mem inside), recorded.2.1⟩

omit [Content β] [EffectStores β] [Hashlib] in
/-- One record of a valid log has one identity. -/
theorem record_unique (valid : snapshot.Valid) {item other : Record β}
    (member : item ∈ snapshot.records) (among : other ∈ snapshot.records)
    (same : item.recordId = other.recordId) : item = other := by
  exact List.inj_on_of_nodup_map (snapshot.recordIds_map ▸ valid.distinct) member among same

omit [Hashlib] in
/-- Looking the records up by head gives the SENDs back in the order of the log. -/
theorem orderedSends_eq {sends : List (Retained EffectSend)} (valid : snapshot.Valid)
    (read : SendsRead snapshot sends) : orderedSends sends snapshot = retainedSends snapshot := by
  refine List.filterMap_congr (fun item member => ?_)
  cases held : retainedSend item with
  | none =>
      rw [indexed, List.find?_eq_none]
      intro send inside same
      rw [List.mem_reverse] at inside
      rw [decide_eq_true_eq] at same
      obtain ⟨other, among, retained, named⟩ := read.stored send inside
      obtain rfl := record_unique valid member among (same.symm.trans named.symm)
      cases held.symm.trans retained
  | some send =>
      obtain ⟨inside, named⟩ := read.each item member send held
      cases found : indexed sends item.recordId with
      | none =>
          have absent := List.find?_eq_none.mp found send (List.mem_reverse.mpr inside)
          simp [named] at absent
      | some other =>
          have same := List.find?_some found
          rw [decide_eq_true_eq] at same
          obtain ⟨home, among, retained, headed⟩ :=
            read.stored other (List.mem_reverse.mp (List.mem_of_find?_eq_some found))
          obtain rfl := record_unique valid member among (same.symm.trans headed.symm)
          exact congrArg some (Option.some.inj (retained.symm.trans held))

omit [Content β] [EffectStores β] [Hashlib] in
theorem filterMap_sublist {items : List α} {pick : α → Option γ} {key : γ → δ} {name : α → δ}
    (named : ∀ item ∈ items, ∀ value, pick item = some value → name item = key value) :
    ((items.filterMap pick).map key).Sublist (items.map name) := by
  induction items with
  | nil => exact List.nil_sublist _
  | cons item rest ih =>
      have later := ih (fun other member => named other (List.mem_cons_of_mem _ member))
      rw [List.filterMap_cons]
      cases picked : pick item with
      | none => exact List.Sublist.cons _ later
      | some value =>
          rw [List.map_cons, List.map_cons, named item List.mem_cons_self value picked]
          exact List.Sublist.cons_cons _ later

omit [Hashlib] in
theorem retainedSends_nodup {sends : List (Retained EffectSend)} (valid : snapshot.Valid)
    (read : SendsRead snapshot sends) :
    ((retainedSends snapshot).map (fun send => send.2.head)).Nodup := by
  exact (filterMap_sublist (fun item member send held => (read.each item member send held).2)).nodup
    (snapshot.recordIds_map ▸ valid.distinct)

omit [Content β] [EffectStores β] [Hashlib] in
/-- A cursor at the last SEND that was passed leaves the others. -/
theorem remainingSends_from {passed rest : List (Retained EffectSend)} {cursor : Option Identity}
    (distinct : ((passed ++ rest).map (fun send => send.2.head)).Nodup)
    (stands : cursor.map Identity.text = passed.getLast?.map (fun send => send.2.head)) :
    remainingSends (passed ++ rest) cursor = .ok rest := by
  induction passed using List.reverseRecOn with
  | nil =>
      cases cursor with
      | none => rfl
      | some cursor => cases stands
  | append_singleton front send _ =>
      cases cursor with
      | none => simp at stands
      | some cursor =>
          simp only [Option.map_some, List.getLast?_concat, Option.some.injEq] at stands
          rw [List.append_assoc, List.singleton_append, List.map_append, List.map_cons,
            List.nodup_append, List.nodup_cons] at distinct
          obtain ⟨-, ⟨absent, -⟩, apart⟩ := distinct
          have before : front.zipIdx.filter
              (fun item => decide (item.1.2.head = cursor.text)) = [] := by
            rw [List.filter_eq_nil_iff]
            intro item member same
            rw [decide_eq_true_eq, stands] at same
            have inside := List.fst_mem_of_mem_zipIdx member
            exact apart _ (List.mem_map_of_mem inside) _ List.mem_cons_self same
          have after : (rest.zipIdx (0 + front.length + 1)).filter
              (fun item => decide (item.1.2.head = cursor.text)) = [] := by
            rw [List.filter_eq_nil_iff]
            intro item member same
            rw [decide_eq_true_eq, stands] at same
            have inside := List.fst_mem_of_mem_zipIdx member
            exact absent (same ▸ List.mem_map_of_mem inside)
          have found : (front ++ [send] ++ rest).zipIdx.filter
              (fun item => decide (item.1.2.head = cursor.text)) = [(send, 0 + front.length)] := by
            rw [List.append_assoc, List.singleton_append, List.zipIdx_append, List.zipIdx_cons,
              List.filter_append, List.filter_cons, before, after,
              if_pos (decide_eq_true stands.symm), List.nil_append]
          unfold remainingSends
          simp only [found]
          rw [Nat.zero_add, List.append_assoc, List.singleton_append, List.drop_append,
            List.drop_eq_nil_of_le (Nat.le_succ _), Nat.add_sub_cancel_left]
          rfl

end Retained

section Examining

variable {β : Type} [Content β] [Hashlib] [EffectStores β]

/-- The call ended in a `LoopHold`. -/
def held (computation : Transaction α) : Bool :=
  match computation with
  | .error (.loopHold _) => true
  | _ => false

/-- A SEND that still needs work: its effect is not closed, or the join of its closure with the
evidence and the reduction is held. -/
def Unresolved (services : EffectServices β) (runtime : Runtime)
    (binding : PostgresEffectsBinding) (snapshot : Snapshot β) (send : Retained EffectSend) :
    Prop :=
  familyIn EffectClosure snapshot.records send.2.streamId = [] ∨
    held (currentEffectResult services runtime binding snapshot send.2.streamId)

instance (services : EffectServices β) (runtime : Runtime) (binding : PostgresEffectsBinding)
    (snapshot : Snapshot β) (send : Retained EffectSend) :
    Decidable (Unresolved services runtime binding snapshot send) :=
  inferInstanceAs (Decidable (_ ∨ _))

/-- The item that stands for a SEND, pending exactly when nothing has claimed it. -/
structure Presents (runtime : Runtime) (snapshot : Snapshot β) (send : Retained EffectSend)
    (work : EffectWork) : Prop where
  tenant : work.tenantId.text = runtime.tenantId
  principal : work.principalId.text = runtime.principalId
  stream : work.streamId.text = send.2.streamId
  intent : ∃ value, subject runtime snapshot send.2.streamId = .ok value ∧
    work.intent = exactHead value.intentId value.bytes
  sent : IsExact work.send send.2.head (canonicalBytes send.2).items
  pending : work.claim = none ↔ familyIn EffectClaim snapshot.records send.2.streamId = []
  claimed : ∀ claim ∈ work.claim, ∃ retained,
    familyIn EffectClaim snapshot.records send.2.streamId = [retained] ∧
      IsExact claim retained.2.head (canonicalBytes retained.2).items

variable {services : EffectServices β} {runtime : Runtime} {binding : PostgresEffectsBinding}
  {snapshot : Snapshot β} {send : Retained EffectSend}

theorem isExact_exactHead {reference : Identity} {text : String} {raw : Bytes}
    (same : reference.text = text) : IsExact (exactHead reference raw) text raw := by
  subst same
  exact ⟨rfl, String.append_assoc.symm, rfl⟩

theorem settled_ok {closures : List (Retained EffectClosure)} {done : Bool}
    (returned : settled services runtime binding snapshot streamId closures = .ok done) :
    done = false ↔ closures = [] ∨
      held (currentEffectResult services runtime binding snapshot streamId) := by
  unfold settled at returned
  by_cases none : closures = []
  · rw [if_pos none] at returned
    cases returned
    exact ⟨fun _ => .inl none, fun _ => rfl⟩
  · rw [if_neg none] at returned
    cases current : currentEffectResult services runtime binding snapshot streamId with
    | ok result =>
        rw [current] at returned
        cases returned
        simp [none, held]
    | error failure =>
        rw [current] at returned
        cases failure <;> cases returned
        simp [held]

omit [Content β] [EffectStores β] in
theorem selectedClaim_ok {claims : List (Retained EffectClaim)} {selected : Option ExactHead}
    (returned : selectedClaim claims = .ok selected) :
    (selected = none ↔ claims = []) ∧ ∀ claim ∈ selected, ∃ retained, claims = [retained] ∧
      IsExact claim retained.2.head (canonicalBytes retained.2).items := by
  unfold selectedClaim at returned
  by_cases none : claims = []
  · rw [if_pos none] at returned
    cases returned
    simp [none]
  · rw [if_neg none] at returned
    simp only [bind_ok, pure_ok] at returned
    obtain ⟨claim, single, head, named, rfl⟩ := returned
    refine ⟨by simp [none], ?_⟩
    intro found member
    obtain rfl := Option.some.inj member
    exact ⟨claim, only_ok single, isExact_exactHead (identity_ok named)⟩

/-- A SEND that is passed over is resolved. -/
theorem examine_none (examined : examine services runtime binding snapshot send = .ok none) :
    ¬ Unresolved services runtime binding snapshot send := by
  simp only [examine, bind_ok] at examined
  obtain ⟨value, selected, claims, readClaims, closures, readClosures, done, joined, examined⟩ :=
    examined
  cases done with
  | false =>
      simp only [Bool.false_eq_true, if_false, bind_ok, pure_ok] at examined
      obtain ⟨_, _, impossible⟩ := examined
      cases impossible
  | true =>
      rw [Unresolved, ← familyRows_ok readClosures, ← settled_ok joined]
      exact Bool.noConfusion

/-- A SEND that is listed is unresolved, and its item presents it. -/
theorem examine_some {work : EffectWork}
    (examined : examine services runtime binding snapshot send = .ok (some work)) :
    Unresolved services runtime binding snapshot send ∧ Presents runtime snapshot send work := by
  simp only [examine, bind_ok] at examined
  obtain ⟨value, selected, claims, readClaims, closures, readClosures, done, joined, examined⟩ :=
    examined
  cases done with
  | true =>
      rw [if_pos rfl, pure_ok] at examined
      cases examined
  | false =>
      simp only [Bool.false_eq_true, if_false, bind_ok, pure_ok, Option.some.injEq] at examined
      obtain ⟨work, presented, rfl⟩ := examined
      simp only [presentedWork, bind_ok, pure_ok] at presented
      obtain ⟨sendHead, sent, claim, chosen, tenant, named, principal, owned, stream, streamed,
        rfl⟩ := presented
      rw [Unresolved, ← familyRows_ok readClosures, ← settled_ok joined]
      obtain ⟨pending, claimed⟩ := selectedClaim_ok chosen
      rw [familyRows_ok readClaims] at pending claimed
      exact ⟨rfl, identity_ok named, identity_ok owned, identity_ok streamed,
        ⟨value, selected, rfl⟩, isExact_exactHead (identity_ok sent), pending, claimed⟩

omit [Hashlib] [EffectStores β] in
theorem bindingMatches_settled [Hashlib] (now other : Nat) (intent : EffectSubject) :
    bindingMatches now runtime binding intent false =
      bindingMatches other runtime binding intent false := by
  simp only [bindingMatches, Bool.false_eq_true, false_implies, require_pos]

omit [Content β] [EffectStores β] in
theorem receiptObservations_verify {others : EffectServices β} {members : List ExactHead}
    {previous : Option String} {evidence : List (Retained EffectEvidence)}
    (verifies : services.verifyReceipt = others.verifyReceipt) :
    receiptObservations services runtime send members previous evidence =
      receiptObservations others runtime send members previous evidence := by
  induction evidence generalizing previous with
  | nil => rfl
  | cons retained rest ih => simp only [receiptObservations, verifies, ih]

/-- Whether a SEND is listed depends on the log and on the verification of receipts alone. -/
theorem examine_verify {others : EffectServices β}
    (verifies : services.verifyReceipt = others.verifyReceipt) :
    examine services runtime binding snapshot send =
      examine others runtime binding snapshot send := by
  have outcome (callId : String) : evidenceOutcome services runtime binding snapshot callId [] =
      evidenceOutcome others runtime binding snapshot callId [] := by
    simp only [evidenceOutcome, receiptObservations_verify verifies,
      bindingMatches_settled services.now others.now]
  simp only [examine, settled, currentEffectResult, outcome]

end Examining

end Chiplog.Composition
