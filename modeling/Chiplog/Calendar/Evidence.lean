import Chiplog.Calendar.AgendaRuns

namespace Chiplog.Calendar

open Chiplog.Data
open Chiplog.Platform (ReadRelease)

/-! Calendar evidence, verified again without the broker.

The decoder acquires, selects and pages the retained batch a second time, in functions of its
own, and compares every value with what the evidence says. -/

/-! ### The evidence -/

/-- `_H1CalendarOriginalRead`. -/
structure H1CalendarOriginalRead where
  providerBatchJson : String
  stateJson : String
  operationJson : String
  resultJson : String
  operationFingerprint : String
  recipientFingerprint : String
  proofFingerprint : String
  resultDigest : String
  cursorToken : Option String
  cursorSnapshotId : Option String
  cursorQueryBindingBase64 : Option String
  cursorLastOrderKey : Option String
  displayResultJson : String
deriving DecidableEq

/-! ### Selection -/

/-- The comprehension of `_select_historical`. -/
def overlappingHistorical (loads : Bytes → Option Json) (rangeStart rangeEnd : Int) :
    List WorkspaceRow → Except CalendarFailure (List WorkspaceRow)
  | [] => .ok []
  | row :: rows =>
      match interval? loads row.canonicalPayload with
      | none => .error .typeError
      | some (start, stop) => do
          let result ← overlappingHistorical loads rangeStart rangeEnd rows
          .ok (if start < rangeEnd ∧ rangeStart < stop then row :: result else result)

/-- `_select_historical`. -/
def selectHistorical (loads : Bytes → Option Json) (rows : List WorkspaceRow)
    (request : WorkspaceReadRequest) : Except CalendarFailure (List WorkspaceRow) := do
  raiseIf (request.afterCursor.isSome)
    (.value "retained calendar request has an unprovable input cursor")
  if request.query = .calendarDetail then do
    raiseIf (request.detailId.getD "" = "" ∨ request.rangeStartNs.isSome ∨
        request.rangeEndNs.isSome)
      (.value "retained calendar detail request differs")
    .ok (rows.filter (fun row => some row.rowId = request.detailId))
  else
    match request.detailId, request.rangeStartNs, request.rangeEndNs with
    | none, some rangeStart, some rangeEnd => do
        raiseIf (rangeStart < 0 ∨ rangeEnd ≤ rangeStart)
          (.value "retained calendar agenda request differs")
        overlappingHistorical loads rangeStart rangeEnd rows
    | _, _, _ => .error (.value "retained calendar agenda request differs")

/-! ### The cursor -/

/-- `_decode_cursor_binding`. -/
def decodeCursorBinding (evidence : H1CalendarOriginalRead) (result : WorkspaceReadResult)
    (request : WorkspaceReadRequest) (page : List WorkspaceRow) :
    Except CalendarFailure CalendarCursorBinding :=
  match evidence.cursorToken, evidence.cursorSnapshotId, evidence.cursorQueryBindingBase64,
      evidence.cursorLastOrderKey, page.getLast? with
  | some token, some snapshotId, some encoded, some lastOrderKey, some last =>
      match b64decode encoded.toList with
      | none => .error (.value "binascii.Error")
      | some binding => do
          raiseIf (b64encode binding ≠ encoded ∨ some token ≠ result.nextCursor ∨
              snapshotId ≠ result.context.snapshotId.text ∨ binding ≠ queryBinding request ∨
              lastOrderKey ≠ last.orderKey)
            (.value "retained calendar cursor differs")
          .ok ⟨token, snapshotId, binding, lastOrderKey⟩
  | _, _, _, _, _ => .error (.value "retained calendar cursor is incomplete")

/-- The cursor of a page, or that it has none. -/
def historicalCursor (evidence : H1CalendarOriginalRead) (result : WorkspaceReadResult)
    (request : WorkspaceReadRequest) (selected : List WorkspaceRow) :
    Except CalendarFailure (Option CalendarCursorBinding) :=
  if request.maxRows < selected.length then do
    let binding ← decodeCursorBinding evidence result request (selected.take request.maxRows)
    .ok (some binding)
  else do
    raiseIf (evidence.cursorToken.isSome ∨ evidence.cursorSnapshotId.isSome ∨
        evidence.cursorQueryBindingBase64.isSome ∨ evidence.cursorLastOrderKey.isSome ∨
        result.nextCursor.isSome)
      (.value "retained calendar cursor differs")
    .ok none

section

variable [Hashlib]

/-- The evidence of a retained read, with a lagging copy of its result to display. -/
def evidenceOf (original : OriginalCalendarRead) : H1CalendarOriginalRead where
  providerBatchJson := modelDumpJson original.providerBatch
  stateJson := modelDumpJson original.state
  operationJson := modelDumpJson original.operation
  resultJson := modelDumpJson original.result
  operationFingerprint := original.operation.fingerprint
  recipientFingerprint := original.operation.recipientFingerprint
  proofFingerprint := original.receipt.proofFingerprint.getD ""
  resultDigest := original.receipt.resultDigest.getD ""
  cursorToken := original.cursorBinding.map CalendarCursorBinding.token
  cursorSnapshotId := original.cursorBinding.map CalendarCursorBinding.snapshotId
  cursorQueryBindingBase64 :=
    original.cursorBinding.map (fun binding => b64encode binding.queryBinding)
  cursorLastOrderKey := original.cursorBinding.map CalendarCursorBinding.lastOrderKey
  displayResultJson := modelDumpJson { original.result with disposition := .lagging }

/-! ### The decoder -/

section

variable [Wire CalendarBatch] [Wire CalendarReadState] [Wire CalendarReadOperation]
  [Wire WorkspaceReadRequest] [Wire WorkspaceReadResult]

omit [Hashlib] [Wire CalendarBatch] [Wire CalendarReadState] [Wire CalendarReadOperation]
  [Wire WorkspaceReadRequest] [Wire WorkspaceReadResult] in
/-- `model_validate_json` of a field of the evidence. -/
def validated (α : Type) [Jsonable α] [Wire α] (text : String) : Except CalendarFailure α :=
  match (modelValidateJson (utf8 text) : Option α) with
  | none => .error (.value "validation error")
  | some value => .ok value

/-- What the texts of the evidence say. -/
structure Rehydrated where
  batch : CalendarBatch
  state : CalendarReadState
  operation : CalendarReadOperation
  result : WorkspaceReadResult
  display : WorkspaceReadResult

def rehydrate (evidence : H1CalendarOriginalRead) : Except CalendarFailure Rehydrated := do
  let batch ← validated CalendarBatch evidence.providerBatchJson
  let state ← validated CalendarReadState evidence.stateJson
  -- the bounds of its integers, which the type leaves out
  raiseIf (¬ state.Valid) (.value "validation error")
  let operation ← validated CalendarReadOperation evidence.operationJson
  let result ← validated WorkspaceReadResult evidence.resultJson
  let display ← validated WorkspaceReadResult evidence.displayResultJson
  raiseIf (modelDumpJson batch ≠ evidence.providerBatchJson ∨
      modelDumpJson state ≠ evidence.stateJson ∨
      modelDumpJson operation ≠ evidence.operationJson ∨
      modelDumpJson result ≠ evidence.resultJson ∨
      modelDumpJson display ≠ evidence.displayResultJson)
    (.value "retained calendar JSON is not in normal form")
  .ok ⟨batch, state, operation, result, display⟩

def originalRequest (operation : CalendarReadOperation) :
    Except CalendarFailure WorkspaceReadRequest := do
  let request ← validated WorkspaceReadRequest operation.requestText
  raiseIf (modelDumpJson request ≠ operation.requestText ∨ request.afterCursor.isSome)
    (.value "retained calendar request is not an original first-page request")
  .ok request

end

/-- The bindings between the request, the operation, the batch, the state and the context. -/
def checkBindings (evidence : H1CalendarOriginalRead) (values : Rehydrated)
    (request : WorkspaceReadRequest) : Except CalendarFailure Unit :=
  let ⟨batch, state, operation, result, _⟩ := values
  let context := result.context
  match variantOf? request.query with
  | none => .error (.value "calendar operation has a non-calendar query")
  | some variant =>
      raiseIf (operation ≠ operationOf context request variant ∨ request.context ≠ context ∨
          result.requestId ≠ request.requestId ∨ result.readAttemptId ≠ request.readAttemptId ∨
          operation.fingerprint ≠ evidence.operationFingerprint ∨
          operation.recipientFingerprint ≠ evidence.recipientFingerprint ∨
          state.ownerDraining = true ∨ batch.revision.text ≠ state.providerRevision ∨
          sourceHeadsDigest batch ≠ state.sourceHeadsDigest ∨
          (∃ observation ∈ batch.observations, context.observedAtNs < observation.observedAtNs) ∨
          context.databaseInstanceId.text ≠ state.databaseInstanceId ∨
          context.principalId.text ≠ state.principalId ∨
          context.principalContourHead.text ≠ state.principalContourHead ∨
          context.channelId.text ≠ state.channelId ∨
          context.endpointBindingHead.text ≠ state.endpointChannelHead ∨
          (context.brokerEpoch : Int) ≠ state.brokerEpoch ∨
          context.ownerId.text ≠ "calendar_observations" ∨
          context.generationId.text ≠ state.ownerGeneration ∨
          (context.snapshotFrontier : Int) ≠ state.storageMutationGeneration ∨
          context.invalidatorRegistryDigest.text ≠ calendarRegistryDigest.text ∨
          context.policyHead.text ≠ state.policyHead ∨
          context.deletionFenceHead.text ≠ state.deletionFenceHead)
        (.value "retained calendar evidence binding differs")

/-- A result without its context and disposition. -/
def displayed (result : WorkspaceReadResult) :
    Identity × Identity × List WorkspaceRow × Option String × Option String :=
  (result.requestId, result.readAttemptId, result.rows, result.nextCursor, result.reason)

/-- The second half of the decoder: the page, its cursor, the result, the proof, the receipt. -/
def verifyPage (evidence : H1CalendarOriginalRead) (values : Rehydrated)
    (request : WorkspaceReadRequest) (selected : List WorkspaceRow) :
    Except CalendarFailure OriginalCalendarRead := do
  let ⟨batch, state, operation, result, display⟩ := values
  let page := selected.take request.maxRows
  raiseIf (request.maxRows < (page.map (fun row => row.envelope.sources.items.length)).sum)
    (.value "retained calendar source closure exceeds page bound")
  let cursorBinding ← historicalCursor evidence result request selected
  let expected ← pageResult request (freshnessOf batch) page result.nextCursor
  raiseIf (result ≠ expected) (.value "retained calendar result differs")
  raiseIf (display.disposition ≠ .lagging ∨ displayed display ≠ displayed result)
    (.value "retained calendar display result differs")
  raiseIf ((proofOf result.context state operation).text ≠ evidence.proofFingerprint)
    (.value "retained calendar proof differs")
  let receipt ← CalendarReadLedger.historicalReceipt operation state evidence.proofFingerprint
    (utf8 evidence.resultJson) evidence.resultDigest evidence.recipientFingerprint
  .ok ⟨batch, state, operation, result, receipt, cursorBinding⟩

variable [Wire CalendarBatch] [Wire CalendarReadState] [Wire CalendarReadOperation]
  [Wire WorkspaceReadRequest] [Wire WorkspaceReadResult]

/-- What `decode_h1_original_calendar_read` tries. -/
def decodeEvidence (loads : Bytes → Option Json) (evidence : H1CalendarOriginalRead) :
    Except CalendarFailure OriginalCalendarRead := do
  let values ← rehydrate evidence
  let request ← originalRequest values.operation
  checkBindings evidence values request
  let rows ← rowsOf values.batch
    (preparationOf values.state.tenantId values.state.channelId values.state)
  let selected ← selectHistorical loads rows request
  verifyPage evidence values request selected

/-- `decode_h1_original_calendar_read`, whose failures all become a `CalendarReadFailure`. -/
def decodeH1OriginalCalendarRead (loads : Bytes → Option Json)
    (evidence : H1CalendarOriginalRead) : Except String OriginalCalendarRead :=
  (decodeEvidence loads evidence).mapError (fun _ => "historical calendar evidence differs")

/-! ### What was read is accepted -/

omit [Wire CalendarBatch] [Wire CalendarReadState] [Wire CalendarReadOperation]
  [Wire WorkspaceReadRequest] [Wire WorkspaceReadResult]

omit [Hashlib] in
theorem validated_dump {α : Type} [Jsonable α] [Wire α] (value : α) :
    validated α (modelDumpJson value) = .ok value := by
  rw [validated, Wire.validate_dump]

omit [Hashlib] in
/-- Without a cursor both selections keep the same rows. -/
theorem overlappingHistorical_eq (loads : Bytes → Option Json) (rangeStart rangeEnd : Int)
    {rows : List WorkspaceRow} (keyed : ∀ row ∈ rows, "" < row.orderKey) :
    overlappingHistorical loads rangeStart rangeEnd rows =
      overlapping loads "" rangeStart rangeEnd rows := by
  induction rows with
  | nil => rfl
  | cons row rest ih =>
      have key := keyed row List.mem_cons_self
      rw [overlappingHistorical, overlapping,
        ih (fun other member => keyed other (List.mem_cons_of_mem _ member))]
      cases interval? loads row.canonicalPayload <;> simp only [key, true_and]

variable {loads : Bytes → Option Json} {broker : CalendarReadBroker} {snapshot : Snapshot}
  {request : WorkspaceReadRequest} {selected : List WorkspaceRow} {variant : CalendarVariant}
  {result : WorkspaceReadResult} {token : String}

omit [Hashlib] in
theorem selectHistorical_select (keyed : ∀ row ∈ snapshot.rows, "" < row.orderKey)
    (original : request.afterCursor = none)
    (chosen : select loads broker snapshot request = .ok selected) :
    selectHistorical loads snapshot.rows request = .ok selected := by
  have fresh : ¬ request.afterCursor.isSome := by
    rw [original]
    exact Bool.false_ne_true
  rw [select] at chosen
  split at chosen
  · next detail =>
    obtain ⟨_, valid, chosen⟩ := bind_ok.mp chosen
    have valid := raiseIf_ok.mp valid
    simp only [not_or] at valid
    obtain ⟨known, _, start, stop⟩ := valid
    have exactDetail : ¬ (request.detailId.getD "" = "" ∨ request.rangeStartNs.isSome ∨
        request.rangeEndNs.isSome) := not_or.mpr ⟨known, not_or.mpr ⟨start, stop⟩⟩
    rw [selectHistorical, raiseIf_neg fresh, ok_bind, if_pos detail, raiseIf_neg exactDetail, ok_bind]
    exact chosen
  · next agenda =>
    split at chosen
    · next rangeStart rangeEnd none start stop =>
      obtain ⟨_, ordered, chosen⟩ := bind_ok.mp chosen
      rw [original] at chosen
      rw [selectHistorical, raiseIf_neg fresh, ok_bind, if_neg agenda, none, start, stop]
      dsimp only
      rw [raiseIf_neg (raiseIf_ok.mp ordered), ok_bind, overlappingHistorical_eq _ _ _ keyed]
      exact chosen
    · cases chosen

theorem Snapshot.Sound.valid (sound : snapshot.Sound) : snapshot.state.Valid := by
  have epoch := sound.bound.epoch
  have frontier := sound.bound.frontier
  have positive := snapshot.context.brokerEpoch.pos
  exact ⟨by omega, by omega⟩

theorem Snapshot.Sound.keyed (sound : snapshot.Sound) :
    ∀ row ∈ snapshot.rows, "" < row.orderKey := by
  intro row member
  obtain ⟨observation, _, rfl⟩ := (mem_prepareRows sound.rows).mp member
  rw [rowOf]
  exact orderKey_nonempty observation

/-- What the evidence of a read says. -/
def saidOf (original : OriginalCalendarRead) : Rehydrated :=
  ⟨original.providerBatch, original.state, original.operation, original.result,
    { original.result with disposition := .lagging }⟩

theorem rehydrate_evidenceOf [Wire CalendarBatch] [Wire CalendarReadState]
    [Wire CalendarReadOperation] [Wire WorkspaceReadResult] {original : OriginalCalendarRead}
    (valid : original.state.Valid) : rehydrate (evidenceOf original) = .ok (saidOf original) := by
  rw [rehydrate, evidenceOf]
  dsimp only
  rw [validated_dump, ok_bind, validated_dump, ok_bind, raiseIf_neg (not_not.mpr valid), ok_bind,
    validated_dump, ok_bind, validated_dump, ok_bind, validated_dump, ok_bind,
    raiseIf_neg (by simp), ok_bind, saidOf]

omit [Hashlib] in
theorem originalRequest_dump [Wire WorkspaceReadRequest] {operation : CalendarReadOperation}
    (text : operation.requestText = modelDumpJson request) (original : request.afterCursor = none) :
    originalRequest operation = .ok request := by
  rw [originalRequest, text, validated_dump, ok_bind,
    raiseIf_neg (by rw [original]; simp), ok_bind]

/-- The bindings hold of a read of its snapshot. -/
theorem checkBindings_retained (sound : snapshot.Sound)
    (context : request.context = snapshot.context)
    (variantOf : variantOf? request.query = some variant)
    (answered : result.context = request.context ∧ result.requestId = request.requestId ∧
      result.readAttemptId = request.readAttemptId) :
    checkBindings (evidenceOf (retained token request snapshot variant selected result))
      (saidOf (retained token request snapshot variant selected result)) request = .ok () := by
  obtain ⟨own, id, attempt⟩ := answered
  have bound := sound.bound
  rw [checkBindings, saidOf, retained, evidenceOf]
  dsimp only
  rw [variantOf, own, context]
  dsimp only
  rw [raiseIf_neg]
  simp only [not_or, not_not, not_exists, not_and, Bool.not_eq_true]
  exact ⟨trivial, trivial, id, attempt, trivial, trivial, sound.draining, sound.revision, sound.heads,
    fun observation member => Nat.not_lt.mpr (sound.past observation member), bound.database,
    bound.principal, bound.contour, bound.channel, bound.endpoint, bound.epoch, bound.owner,
    bound.generation, bound.frontier, bound.registry, bound.policy, bound.fence⟩

omit [Hashlib] in
theorem pageResult_ok {freshness : Freshness} {page : List WorkspaceRow} {next : Option String}
    (paged : pageResult request freshness page next = .ok result) :
    (result.context = request.context ∧ result.requestId = request.requestId ∧
      result.readAttemptId = request.readAttemptId) ∧
    result.rows = page ∧ result.nextCursor = next := by
  rw [pageResult] at paged
  split at paged
  · split at paged
    · cases paged
    · cases paged
      exact ⟨⟨rfl, rfl, rfl⟩, rfl, rfl⟩
  · cases paged
    exact ⟨⟨rfl, rfl, rfl⟩, rfl, rfl⟩

/-- The cursor of a read is decoded from its evidence. -/
theorem historicalCursor_retained (context : request.context = snapshot.context)
    (own : result.context = request.context)
    (next : result.nextCursor =
      (cursorBinding? token snapshot request selected).map CalendarCursorBinding.token) :
    historicalCursor (evidenceOf (retained token request snapshot variant selected result)) result
      request selected = .ok (cursorBinding? token snapshot request selected) := by
  rw [historicalCursor]
  split
  · next more =>
    have positive := request.bounded.1
    obtain ⟨last, taken⟩ : ∃ last, (selected.take request.maxRows).getLast? = some last := by
      have nonempty : selected.take request.maxRows ≠ [] := by
        intro empty
        have length := congrArg List.length empty
        rw [List.length_take, List.length_nil] at length
        omega
      exact ⟨_, List.getLast?_eq_some_getLast nonempty⟩
    have bound : cursorBinding? token snapshot request selected =
        some ⟨token, snapshot.context.snapshotId.text, queryBinding request, last.orderKey⟩ := by
      rw [cursorBinding?, if_pos more, taken, Option.map_some]
    rw [bound] at next
    have decoded : decodeCursorBinding
        (evidenceOf (retained token request snapshot variant selected result)) result request
        (selected.take request.maxRows) =
          .ok ⟨token, snapshot.context.snapshotId.text, queryBinding request, last.orderKey⟩ := by
      rw [decodeCursorBinding, evidenceOf, retained, bound, taken]
      dsimp only [Option.map_some]
      rw [b64decode_b64encode]
      dsimp only
      rw [next, own, context, raiseIf_neg (by simp), ok_bind]
    rw [decoded, ok_bind, bound]
  · next whole =>
    have bound : cursorBinding? token snapshot request selected = none := by
      rw [cursorBinding?, if_neg whole]
    rw [bound] at next
    rw [next, evidenceOf, retained, bound]
    rw [raiseIf_neg (by simp), ok_bind]

/-- The page of a read is verified. -/
theorem verifyPage_retained (sound : snapshot.Sound)
    (released : Released loads token broker request snapshot variant selected result) :
    verifyPage (evidenceOf (retained token request snapshot variant selected result))
      (saidOf (retained token request snapshot variant selected result)) request selected =
        .ok (retained token request snapshot variant selected result) := by
  obtain ⟨answered, rows, next⟩ := pageResult_ok released.paged
  have own : result.context = snapshot.context := answered.1.trans released.context
  have cursor : historicalCursor
      (evidenceOf (retained token request snapshot variant selected result)) result request
      selected = _ := historicalCursor_retained released.context answered.1 next
  have paged := released.paged
  rw [sound.freshness, ← next] at paged
  have proof : (evidenceOf
      (retained token request snapshot variant selected result)).proofFingerprint =
        (proofOf snapshot.context snapshot.state
          (operationOf snapshot.context request variant)).text := rfl
  have receipted : CalendarReadLedger.historicalReceipt
      (operationOf snapshot.context request variant) snapshot.state
      (proofOf snapshot.context snapshot.state (operationOf snapshot.context request variant)).text
      (utf8 (modelDumpJson result)) (sha256 (utf8 (modelDumpJson result))).text
      (operationOf snapshot.context request variant).recipientFingerprint =
        .ok (retained token request snapshot variant selected result).receipt := by
    have tenant : (operationOf snapshot.context request variant).tenantId =
        snapshot.state.tenantId := sound.bound.tenant
    rw [CalendarReadLedger.historicalReceipt, raiseIf_neg, ok_bind]
    · rfl
    · simp only [not_or, not_not]
      exact ⟨tenant, trivial, trivial, Digest.text_ne_empty _⟩
  have resultIs : (retained token request snapshot variant selected result).result = result := rfl
  have batchIs : (retained token request snapshot variant selected result).providerBatch =
    snapshot.providerBatch := rfl
  have stateIs : (retained token request snapshot variant selected result).state =
    snapshot.state := rfl
  have operationIs : (retained token request snapshot variant selected result).operation =
    operationOf snapshot.context request variant := rfl
  rw [verifyPage, saidOf]
  dsimp only
  rw [resultIs, batchIs, stateIs, operationIs, raiseIf_neg (Nat.not_lt.mpr released.fits), ok_bind,
    cursor, ok_bind, paged, ok_bind, raiseIf_neg (not_not.mpr rfl), ok_bind,
    raiseIf_neg (by simp [displayed]), ok_bind, own, proof, raiseIf_neg (not_not.mpr rfl), ok_bind]
  change (CalendarReadLedger.historicalReceipt (operationOf snapshot.context request variant)
    snapshot.state _ (utf8 (modelDumpJson result)) (sha256 (utf8 (modelDumpJson result))).text
    (operationOf snapshot.context request variant).recipientFingerprint >>= _) = _
  rw [receipted]
  rfl

section

variable [Wire CalendarBatch] [Wire CalendarReadState] [Wire CalendarReadOperation]
  [Wire WorkspaceReadRequest] [Wire WorkspaceReadResult]

/-- The evidence of a released first page decodes to the read. -/
theorem decode_retained (sound : snapshot.Sound)
    (released : Released loads token broker request snapshot variant selected result)
    (original : request.afterCursor = none) :
    decodeH1OriginalCalendarRead loads
      (evidenceOf (retained token request snapshot variant selected result)) =
        .ok (retained token request snapshot variant selected result) := by
  have said : rehydrate (evidenceOf (retained token request snapshot variant selected result)) =
      .ok (saidOf (retained token request snapshot variant selected result)) :=
    rehydrate_evidenceOf sound.valid
  have asked : originalRequest
      (saidOf (retained token request snapshot variant selected result)).operation =
        .ok request := originalRequest_dump rfl original
  obtain ⟨answered, _, _⟩ := pageResult_ok released.paged
  have bound : checkBindings (evidenceOf (retained token request snapshot variant selected result))
      (saidOf (retained token request snapshot variant selected result)) request = .ok () :=
    checkBindings_retained sound released.context released.variant answered
  have rows : rowsOf (saidOf (retained token request snapshot variant selected result)).batch
      (preparationOf (saidOf (retained token request snapshot variant selected result)).state.tenantId
        (saidOf (retained token request snapshot variant selected result)).state.channelId
        (saidOf (retained token request snapshot variant selected result)).state) =
          .ok snapshot.rows := by
    change rowsOf snapshot.providerBatch (preparationOf snapshot.state.tenantId
      snapshot.state.channelId snapshot.state) = _
    rw [rowsOf, sound.rows]
    rfl
  rw [decodeH1OriginalCalendarRead, decodeEvidence, said, ok_bind, asked, ok_bind, bound, ok_bind,
    rows, ok_bind, selectHistorical_select sound.keyed original released.chosen, ok_bind,
    verifyPage_retained sound released]
  rfl

end

/-! ### What is accepted was read -/

omit [Hashlib] in
/-- The events that a request selects. -/
def chosen (request : WorkspaceReadRequest) (observation : CalendarObservation) : Bool :=
  if request.query = .calendarDetail then some (observationId observation) = request.detailId
  else
    match request.rangeStartNs, request.rangeEndNs with
    | some rangeStart, some rangeEnd =>
        (observation.startNs : Int) < rangeEnd ∧ rangeStart < (observation.endNs : Int)
    | _, _ => false

omit [Hashlib] in
theorem selectHistorical_ok (reads : ReadsFlat loads) {observations : List CalendarObservation}
    (selects : selectHistorical loads (observations.map rowOf) request = .ok selected) :
    selected = (observations.filter (chosen request)).map rowOf := by
  rw [selectHistorical] at selects
  obtain ⟨_, _, selects⟩ := bind_ok.mp selects
  split at selects
  · next detail =>
    obtain ⟨_, _, selects⟩ := bind_ok.mp selects
    cases selects
    rw [List.filter_map]
    have same : (fun row => decide (some row.rowId = request.detailId)) ∘ rowOf =
        chosen request := by
      funext observation
      rw [Function.comp_apply, rowOf_rowId, chosen, if_pos detail]
    rw [same]
  · next agenda =>
    split at selects
    · next rangeStart rangeEnd _ start stop =>
      obtain ⟨_, _, selects⟩ := bind_ok.mp selects
      have keyed : ∀ row ∈ observations.map rowOf, "" < row.orderKey := by
        intro row member
        obtain ⟨observation, _, same⟩ := List.mem_map.mp member
        rw [← same, rowOf]
        exact orderKey_nonempty observation
      have same : chosen request = fun observation => decide ("" < orderKey observation ∧
          (observation.startNs : Int) < rangeEnd ∧ rangeStart < (observation.endNs : Int)) := by
        funext observation
        rw [chosen, if_neg agenda, start, stop]
        simp only [orderKey_nonempty, true_and]
      rw [overlappingHistorical_eq _ _ _ keyed,
        overlapping_rowOf reads "" (rangeStart, rangeEnd)] at selects
      rw [same]
      exact (Except.ok.inj selects).symm
    · cases selects

omit [Hashlib] in
theorem historicalCursor_ok {evidence : H1CalendarOriginalRead}
    {binding : Option CalendarCursorBinding}
    (decoded : historicalCursor evidence result request selected = .ok binding) :
    result.nextCursor.isSome ↔ request.maxRows < selected.length := by
  rw [historicalCursor] at decoded
  split at decoded
  · next more =>
    obtain ⟨own, decoded, _⟩ := bind_ok.mp decoded
    rw [decodeCursorBinding] at decoded
    split at decoded
    · split at decoded
      · cases decoded
      obtain ⟨_, valid, _⟩ := bind_ok.mp decoded
      have valid := raiseIf_ok.mp valid
      simp only [not_or, not_not] at valid
      rw [← valid.2.1]
      exact ⟨fun _ => more, fun _ => rfl⟩
    · cases decoded
  · next whole =>
    obtain ⟨_, valid, _⟩ := bind_ok.mp decoded
    have valid := raiseIf_ok.mp valid
    simp only [not_or] at valid
    exact ⟨fun some => absurd some valid.2.2.2.2, fun more => absurd more whole⟩

/-- Evidence that tells of a first page: the rows that its request selects from its batch, up to
the size of the page, and a cursor where more were selected. -/
structure Accepted (evidence : H1CalendarOriginalRead) (original : OriginalCalendarRead) :
    Prop where
  batch : evidence.providerBatchJson = modelDumpJson original.providerBatch
  state : evidence.stateJson = modelDumpJson original.state
  operation : evidence.operationJson = modelDumpJson original.operation
  result : evidence.resultJson = modelDumpJson original.result
  page : ∃ (request : WorkspaceReadRequest) (observations : List CalendarObservation),
    original.operation.requestText = modelDumpJson request ∧ request.afterCursor = none ∧
    prepareRows original.providerBatch (preparationOf original.state.tenantId
      original.state.channelId original.state) = .ok (observations.map rowOf) ∧
    original.result.rows =
      ((observations.filter (chosen request)).map rowOf).take request.maxRows ∧
    (original.result.nextCursor.isSome ↔
      request.maxRows < (observations.filter (chosen request)).length)

theorem verifyPage_ok {evidence : H1CalendarOriginalRead} {values : Rehydrated}
    {original : OriginalCalendarRead}
    (verified : verifyPage evidence values request selected = .ok original) :
    original.providerBatch = values.batch ∧ original.state = values.state ∧
      original.operation = values.operation ∧ original.result = values.result ∧
      original.result.rows = selected.take request.maxRows ∧
      (original.result.nextCursor.isSome ↔ request.maxRows < selected.length) := by
  rw [verifyPage] at verified
  obtain ⟨_, _, verified⟩ := bind_ok.mp verified
  obtain ⟨binding, cursor, verified⟩ := bind_ok.mp verified
  obtain ⟨expected, paged, verified⟩ := bind_ok.mp verified
  obtain ⟨_, same, verified⟩ := bind_ok.mp verified
  have same := not_not.mp (raiseIf_ok.mp same)
  obtain ⟨_, _, verified⟩ := bind_ok.mp verified
  obtain ⟨_, _, verified⟩ := bind_ok.mp verified
  obtain ⟨receipt, _, verified⟩ := bind_ok.mp verified
  cases verified
  have rows := (pageResult_ok paged).2.1
  rw [← same] at rows
  exact ⟨rfl, rfl, rfl, rfl, rows, historicalCursor_ok cursor⟩

variable [Wire CalendarBatch] [Wire CalendarReadState] [Wire CalendarReadOperation]
  [Wire WorkspaceReadRequest] [Wire WorkspaceReadResult]

omit [Hashlib] [Wire WorkspaceReadRequest] in
theorem rehydrate_ok {evidence : H1CalendarOriginalRead} {values : Rehydrated}
    (said : rehydrate evidence = .ok values) :
    evidence.providerBatchJson = modelDumpJson values.batch ∧
      evidence.stateJson = modelDumpJson values.state ∧
      evidence.operationJson = modelDumpJson values.operation ∧
      evidence.resultJson = modelDumpJson values.result := by
  rw [rehydrate] at said
  obtain ⟨batch, _, said⟩ := bind_ok.mp said
  obtain ⟨state, _, said⟩ := bind_ok.mp said
  obtain ⟨_, _, said⟩ := bind_ok.mp said
  obtain ⟨operation, _, said⟩ := bind_ok.mp said
  obtain ⟨result, _, said⟩ := bind_ok.mp said
  obtain ⟨display, _, said⟩ := bind_ok.mp said
  obtain ⟨_, normal, said⟩ := bind_ok.mp said
  have normal := raiseIf_ok.mp normal
  simp only [not_or, not_not] at normal
  cases said
  exact ⟨normal.1.symm, normal.2.1.symm, normal.2.2.1.symm, normal.2.2.2.1.symm⟩

omit [Hashlib] [Wire CalendarBatch] [Wire CalendarReadState] [Wire CalendarReadOperation]
  [Wire WorkspaceReadResult] in
theorem originalRequest_ok {operation : CalendarReadOperation}
    (asked : originalRequest operation = .ok request) :
    operation.requestText = modelDumpJson request ∧ request.afterCursor = none := by
  rw [originalRequest] at asked
  obtain ⟨other, _, asked⟩ := bind_ok.mp asked
  obtain ⟨_, first, asked⟩ := bind_ok.mp asked
  have first := raiseIf_ok.mp first
  simp only [not_or, not_not, Option.not_isSome_iff_eq_none] at first
  cases asked
  exact ⟨first.1.symm, first.2⟩

theorem decode_accepted (reads : ReadsFlat loads) {evidence : H1CalendarOriginalRead}
    {original : OriginalCalendarRead}
    (decoded : decodeH1OriginalCalendarRead loads evidence = .ok original) :
    Accepted evidence original := by
  have decoded : decodeEvidence loads evidence = .ok original := by
    rw [decodeH1OriginalCalendarRead] at decoded
    cases inner : decodeEvidence loads evidence with
    | error failure =>
        rw [inner] at decoded
        cases decoded
    | ok value =>
        rw [inner] at decoded
        cases decoded
        rfl
  rw [decodeEvidence] at decoded
  obtain ⟨values, said, decoded⟩ := bind_ok.mp decoded
  obtain ⟨request, asked, decoded⟩ := bind_ok.mp decoded
  obtain ⟨_, _, decoded⟩ := bind_ok.mp decoded
  obtain ⟨rows, prepared, decoded⟩ := bind_ok.mp decoded
  obtain ⟨selected, selects, decoded⟩ := bind_ok.mp decoded
  obtain ⟨batch, state, operation, result, page, cursor⟩ := verifyPage_ok decoded
  obtain ⟨batchText, stateText, operationText, resultText⟩ := rehydrate_ok said
  obtain ⟨text, first⟩ := originalRequest_ok asked
  have prepared : prepareRows values.batch (preparationOf values.state.tenantId
      values.state.channelId values.state) = .ok rows := by
    rw [rowsOf] at prepared
    cases inner : prepareRows values.batch (preparationOf values.state.tenantId
        values.state.channelId values.state) with
    | error failure =>
        rw [inner] at prepared
        cases prepared
    | ok value =>
        rw [inner] at prepared
        cases prepared
        rfl
  have observed := prepareRows_ordered prepared
  subst observed
  have chosenRows := selectHistorical_ok reads selects
  subst chosenRows
  rw [List.length_map] at cursor
  refine ⟨batch ▸ batchText, state ▸ stateText, operation ▸ operationText, result ▸ resultText,
    request, ordered values.batch, ?_, first, ?_, page, cursor⟩
  · rw [operation]
    exact text
  · rw [batch, state]
    exact prepared

/-- Live reads and the verification of their evidence agree. -/
theorem evidence_agrees (reads : ReadsFlat loads) (ledger : CalendarReadLedger) :
    (∀ world, Steps loads (World.initial ledger) world → ∀ key original,
      world.broker.originalReads.get? key = some original → ∀ request : WorkspaceReadRequest,
      original.operation.requestText = modelDumpJson request → request.afterCursor = none →
      decodeH1OriginalCalendarRead loads (evidenceOf original) = .ok original) ∧
    ∀ evidence original, decodeH1OriginalCalendarRead loads evidence = .ok original →
      Accepted evidence original := by
  constructor
  · intro world steps key original found request text first
    obtain ⟨token, broker, sent, snapshot, variant, selected, result, sound, released, rfl⟩ :=
      (steps.sound (World.initial_sound ledger)).originals key original found
    have same : some sent = some request := by
      rw [← Wire.validate_dump sent, ← Wire.validate_dump request, ← text]
      rfl
    cases same
    exact decode_retained sound released first
  · intro evidence original decoded
    exact decode_accepted reads decoded

omit [Wire CalendarReadState] [Wire CalendarReadOperation] in
/-- The first page of the harbour is retained. -/
theorem berth_retained {loads : Bytes → Option Json} (reads : ReadsFlat loads) :
    ∃ result, (berthCall.answer loads berthWorld berthSnapshot (0, 5) berthRows
      none).broker.originalReads.get? (0, harbour,
        (operationOf berthContext (agendaRequest berthSnapshot (0, 5) berthRows berthCall none)
          .agenda).fingerprint) =
      some (retained "cursor" (agendaRequest berthSnapshot (0, 5) berthRows berthCall none)
        berthSnapshot .agenda ((eventsOf moorings (0, 5)).map rowOf) result) := by
  obtain ⟨sound, owned, held⟩ := berthSnapshot_sound loads
  have known : berthSnapshot.freshness ≠ .unknown := nofun
  have selects : select loads berthWorld.broker berthSnapshot
      (agendaRequest berthSnapshot (0, 5) berthRows berthCall none) = _ :=
    select_agenda reads sound (by decide) (by decide) .start
  have fits : ((((eventsOf moorings (0, 5)).map rowOf).take 3).map
      (fun row => row.envelope.sources.items.length)).sum ≤ 3 := by
    rw [← List.map_take, List.map_map]
    exact fits_moorings (0, 5) 0
  generalize next : (cursorBinding? "cursor" berthSnapshot (agendaRequest berthSnapshot (0, 5)
    berthRows berthCall none) ((eventsOf moorings (0, 5)).map rowOf)).map
      CalendarCursorBinding.token = cursor
  have paged : pageResult (agendaRequest berthSnapshot (0, 5) berthRows berthCall none)
      berthSnapshot.freshness (((eventsOf moorings (0, 5)).map rowOf).take 3) cursor =
        .ok (resultOf (agendaRequest berthSnapshot (0, 5) berthRows berthCall none) .current
          (((eventsOf moorings (0, 5)).map rowOf).take 3) cursor none) := by
    rw [pageResult, if_pos (.inr rfl)]
    rfl
  rw [← next] at paged
  exact ⟨_, (read_released sound owned held rfl rfl known (berthCall_free _ _).clear selects fits
    paged).2.2⟩

end

theorem evidence_agrees_harbour :
    let _ := Sha256.hashlib
    let _ := dumpedText CalendarBatch
    let _ := dumpedText CalendarReadState
    let _ := dumpedText CalendarReadOperation
    let _ := dumpedText WorkspaceReadRequest
    let _ := dumpedText WorkspaceReadResult
    ∃ key original, (berthCall.answer flatLoads berthWorld berthSnapshot (0, 5) berthRows
      none).broker.originalReads.get? key = some original ∧
      decodeH1OriginalCalendarRead flatLoads (evidenceOf original) = .ok original ∧
      Accepted (evidenceOf original) original := by
  intro _ _ _ _ _ _
  obtain ⟨result, found⟩ := berth_retained flatLoads_reads
  have read : Step flatLoads berthWorld
      (berthCall.answer flatLoads berthWorld berthSnapshot (0, 5) berthRows none).world :=
    .read berthWorld berthCall.others berthCall.token 0
      (agendaRequest berthSnapshot (0, 5) berthRows berthCall none) rfl
  obtain ⟨complete, accepts⟩ := evidence_agrees flatLoads_reads berthLedger
  have decoded := complete _ ((berth_steps flatLoads).tail read) _ _ found _ rfl rfl
  exact ⟨_, _, found, decoded, accepts _ _ decoded⟩

end Chiplog.Calendar
