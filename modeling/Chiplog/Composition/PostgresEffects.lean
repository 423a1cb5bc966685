import Chiplog.AgentLoop.ExecutionContracts
import Chiplog.Composition.EffectRecords
import Chiplog.Platform.PostgresGate

namespace Chiplog.Composition

open Chiplog.Data Chiplog.Platform Chiplog.Effects
open Chiplog.AgentLoop (RunVersion)

/-! Original-effect custody: SEND, emission claim, receipt and reconciliation.

Each definition is one transaction, or one read of the log, of the function it is named
after; what happens between two transactions is a step of `Emission`. -/

inductive RunState where
  | created
  | active
  | succeeded
  | suspended
  | superseded
  | aborted
  | cancelled
deriving DecidableEq

/-- What custody reads of a Run. -/
structure RunView where
  runId : String
  state : RunState
deriving DecidableEq

inductive CallPhase where
  | initialized
  | accepted
  | cancelled
  | terminal
deriving DecidableEq

structure CallView where
  head : String
  phase : CallPhase
deriving DecidableEq

/-- The successor call state and Run that are published beside a tool claim. -/
structure ClaimCompanions where
  callStateHead : String
  callStateBytes : Bytes
  runHead : String
  runVersion : RunVersion
  runBytes : Bytes
deriving DecidableEq

structure ReceiptObservation where
  occurredMembers : List String
  permanentlyIncapableMembers : List String
deriving DecidableEq

/-- Everything a transaction asks of the rest of the runtime at one moment: the clock,
authentication, the Run and call projections, the scheduler, the deployment gate and
the provider's receipt verification. -/
structure EffectServices (β : Type) where
  context : Transaction Unit
  now : Nat
  runs : Snapshot β → Transaction (List RunView)
  callStates : Snapshot β → Transaction (List (String × CallView))
  schedulerFence : Snapshot β → String → Transaction (Option Bytes)
  gateRequire : Bytes → String → Bytes → Transaction Unit
  gateCrossed : Bytes → Bytes → Transaction Unit
  companions : Snapshot β → EffectClaim .tool → Transaction ClaimCompanions
  verifyReceipt : IssuedEffectSendTicket → Bytes → Transaction ReceiptObservation

abbrev Retained (ρ : Family → Type) := (family : Family) × ρ family

inductive EffectOriginal where
  | tool (intent : NativeEffectIntentV1)
  | plan (intent : PlanEffectIntent)
  | compensation (intent : CompensationEffectIntent)
deriving DecidableEq

/-- The fields that a native preview and an action proposal share. -/
structure EffectPreview where
  payload : Bytes
  bundleMembers : List String
  target : ProviderRecipient
  expiresAtNs : Int
deriving DecidableEq

def NativeEffectPreviewV1.common (preview : NativeEffectPreviewV1) : EffectPreview :=
  ⟨preview.payload, preview.bundleMembers, preview.target, preview.expiresAtNs⟩

def ActionProposal.common (proposal : ActionProposal π) : EffectPreview :=
  ⟨proposal.payload, proposal.bundleMembers.items.map Identity.text, proposal.target,
    (proposal.expiresAtNs : Nat)⟩

def ActionProposalValue.common : ActionProposalValue → EffectPreview
  | .plan proposal => proposal.common
  | .compensation proposal => proposal.common

/-- Verified projection of owner bytes; never persisted as another intent. -/
structure EffectSubject where
  original : EffectOriginal
  preview : EffectPreview
  receiptKeyFingerprint : String
  streamId : String
deriving DecidableEq

namespace EffectSubject

def tool (subject : EffectSubject) : Option NativeEffectIntentV1 :=
  match subject.original with
  | .tool intent => some intent
  | _ => none

def family (subject : EffectSubject) : Family :=
  match subject.original with
  | .tool _ => .tool
  | _ => .action

def intentId (subject : EffectSubject) : Identity :=
  match subject.original with
  | .tool intent => intent.intentId
  | .plan intent => intent.request.proposal.intentId
  | .compensation intent => intent.request.proposal.intentId

def head (subject : EffectSubject) : String :=
  match subject.original with
  | .tool intent => intent.head
  | .plan intent => intent.head
  | .compensation intent => intent.head

def bytes (subject : EffectSubject) : Bytes :=
  match subject.original with
  | .tool intent => (canonicalBytes intent).items
  | .plan intent => (canonicalBytes intent).items
  | .compensation intent => (canonicalBytes intent).items

def scope (subject : EffectSubject) : String × String :=
  match subject.original with
  | .tool intent => CustodyRow.scope intent
  | .plan intent => CustodyRow.scope intent
  | .compensation intent => CustodyRow.scope intent

end EffectSubject

def emptyIdentity : Failure := .value "String should have at least 1 character"

def identity (text : String) : Transaction Identity :=
  if nonempty : text ≠ "" then .ok ⟨text, nonempty⟩ else .error emptyIdentity

/-- `runtime._call_states(snapshot)[call_id]`. -/
def EffectServices.callState (services : EffectServices β) (snapshot : Snapshot β)
    (callId : String) : Transaction CallView := do
  match (← services.callStates snapshot).lookup callId with
  | some state => return state
  | none => .error (.missing callId)

def requireActiveOriginalRun (services : EffectServices β) (snapshot : Snapshot β)
    (runId : String) : Transaction Unit := do
  let selected := (← services.runs snapshot).filter (fun run => run.runId = runId)
  require (∃ run ∈ selected.getLast?, run.state = .active)
    (.loopHold "new effect admission requires an ACTIVE original Run")

structure PostgresEffectsBinding where
  receiptKey : NonemptyBytes
deriving DecidableEq

/-- `SEMANTICS`. -/
def semantics : DispatchSemanticBinding :=
  { normativeManifest := ⟨"chiplog.effects.hermetic-self-send-policy.v2", by decide⟩
    reducerVersion := ⟨"chiplog.effects.first-send-reducer.v2", by decide⟩
    transitionRegistryVersion := ⟨"chiplog.effects.vision-transitions.v2", by decide⟩
    canonicalizationFingerprintVersion := ⟨"chiplog.effects.intent.v2", by decide⟩
    adapterContractVersion := ⟨"chiplog.hermetic-effects.v1", by decide⟩ }

section Companions

variable {β : Type} [Content β]

def actionFenceSchema : String := "chiplog.scheduler.action-fence.v1"

/-- The lease fence of a scheduled Run is published beside its SEND. -/
def sendFence (services : EffectServices β) (snapshot : Snapshot β) (sendHead : String)
    (intent : EffectSubject) : Transaction (List (Record β)) :=
  match intent.tool with
  | none => .ok []
  | some tool => do
      match ← services.schedulerFence snapshot tool.runId with
      | none => return []
      | some fence =>
          return [⟨sendHead ++ "/scheduler-lease", "agent_loop", Content.raw actionFenceSchema fence⟩]

theorem sendFence_ok {services : EffectServices β} {snapshot : Snapshot β} {sendHead : String}
    {intent : EffectSubject} {fence : List (Record β)}
    (prepared : sendFence services snapshot sendHead intent = .ok fence) :
    ∀ item ∈ fence, item.schemaId = actionFenceSchema := by
  unfold sendFence at prepared
  split at prepared
  · cases prepared
    simp
  · simp only [bind_ok] at prepared
    obtain ⟨found, _, prepared⟩ := prepared
    cases found with
    | none =>
        cases pure_ok.mp prepared
        simp
    | some bytes =>
        cases pure_ok.mp prepared
        simp [Record.schemaId, Content.schemaId_raw]

/-- A tool claim is published with the call's unknown outcome and the Run that owes it. -/
def claimCompanions (services : EffectServices β) (snapshot : Snapshot β) :
    Retained EffectClaim → Transaction (List (Record β))
  | ⟨.action, _⟩ => .ok []
  | ⟨.tool, claim⟩ => do
      let companions ← services.companions snapshot claim
      return [⟨companions.callStateHead, "agent_loop",
          Content.raw "chiplog.agent-loop.native-call-state.v1" companions.callStateBytes⟩,
        ⟨companions.runHead, "agent_loop",
          Content.raw companions.runVersion.schemaId companions.runBytes⟩]

theorem claimCompanions_ok {services : EffectServices β} {snapshot : Snapshot β}
    {claim : Retained EffectClaim} {companions : List (Record β)}
    (prepared : claimCompanions services snapshot claim = .ok companions) :
    ∀ item ∈ companions, item.schemaId = "chiplog.agent-loop.native-call-state.v1" ∨
      ∃ version : RunVersion, item.schemaId = version.schemaId := by
  obtain ⟨family, claim⟩ := claim
  cases family with
  | action =>
      cases prepared
      simp
  | tool =>
      simp only [claimCompanions, bind_ok, pure_ok] at prepared
      obtain ⟨published, _, rfl⟩ := prepared
      intro item member
      simp only [List.mem_cons, List.not_mem_nil, or_false] at member
      rcases member with rfl | rfl
      · exact .inl (Content.schemaId_raw _ _)
      · exact .inr ⟨_, Content.schemaId_raw _ _⟩

end Companions

section Custody

variable [Hashlib]

/-- `exact(subject, raw) == reference`. -/
def IsExact (reference : ExactHead) (subject : String) (raw : Bytes) : Prop :=
  reference.subjectId.text = subject ∧
    reference.head.text = subject ++ ":" ++ (digest raw).text ∧
    reference.fingerprint.text = (digest raw).text

instance (reference : ExactHead) (subject : String) (raw : Bytes) :
    Decidable (IsExact reference subject raw) :=
  inferInstanceAs (Decidable (_ ∧ _ ∧ _))

def PostgresEffectsBinding.targetForPrincipal (binding : PostgresEffectsBinding)
    (principalId : String) : Transaction ProviderRecipient := do
  require (principalId = "hermetic-principal")
    (.permission "registered provider supports only its authenticated self recipient")
  return {
    provider := ⟨"hermetic-effects", by decide⟩
    account := ⟨"hermetic-account", by decide⟩
    recipient := ⟨"hermetic-principal", by decide⟩
    canonicalAddress := ⟨utf8 "hermetic://effects/hermetic-principal", by decide⟩
    endpoint := exactHead ⟨"hermetic-effects-endpoint", by decide⟩ (utf8 "hermetic-effects.v1")
    credentialBinding := exactHead ⟨"hermetic-effects-credential", by decide⟩
      (utf8 (digest binding.receiptKey.items).text) }

def bindingMatches (now : Nat) (runtime : Runtime) (binding : PostgresEffectsBinding)
    (intent : EffectSubject) (live : Bool) : Transaction Unit := do
  let target ← binding.targetForPrincipal runtime.principalId
  require (intent.preview.target = target ∧
      intent.receiptKeyFingerprint = (digest binding.receiptKey.items).text)
    (.permission "original effect registration changed")
  require (live → (now : Int) < intent.preview.expiresAtNs)
    (.loopHold "adopted effect horizon expired")

variable {β : Type} [Content β]

def familyRows (ρ : Family → Type) [∀ family, CustodyRow (ρ family)]
    [∀ family, Stores β (ρ family)] (runtime : Runtime) (snapshot : Snapshot β)
    (streamId : String) : Transaction (List (Retained ρ)) := do
  let tools ← rows (ρ .tool) runtime snapshot (some streamId)
  let actions ← rows (ρ .action) runtime snapshot (some streamId)
  return tools.map (Sigma.mk .tool) ++ actions.map (Sigma.mk .action)

/-- The stored records of both families in one stream, without any check. -/
def familyIn (ρ : Family → Type) [∀ family, CustodyRow (ρ family)]
    [∀ family, Stores β (ρ family)] (records : List (Record β)) (streamId : String) :
    List (Retained ρ) :=
  (streamIn (ρ .tool) records streamId).map (Sigma.mk .tool) ++
    (streamIn (ρ .action) records streamId).map (Sigma.mk .action)

theorem familyRows_ok {ρ : Family → Type} [∀ family, CustodyRow (ρ family)]
    [∀ family, Stores β (ρ family)] {runtime : Runtime} {snapshot : Snapshot β}
    {streamId : String} {values : List (Retained ρ)}
    (returned : familyRows ρ runtime snapshot streamId = .ok values) :
    values = familyIn ρ snapshot.records streamId := by
  simp only [familyRows, bind_ok, pure_ok] at returned
  obtain ⟨tools, readTools, actions, readActions, rfl⟩ := returned
  rw [rows_ok readTools, rows_ok readActions]
  rfl

variable [EffectStores β] {services : EffectServices β} {runtime : Runtime}
  {binding : PostgresEffectsBinding} {peer callId : String}

def sendRows (runtime : Runtime) (snapshot : Snapshot β) (streamId : String) :
    Transaction (List (Retained EffectSend)) :=
  familyRows EffectSend runtime snapshot streamId

def claimRows (runtime : Runtime) (snapshot : Snapshot β) (streamId : String) :
    Transaction (List (Retained EffectClaim)) :=
  familyRows EffectClaim runtime snapshot streamId

def evidenceRows (runtime : Runtime) (snapshot : Snapshot β) (streamId : String) :
    Transaction (List (Retained EffectEvidence)) :=
  familyRows EffectEvidence runtime snapshot streamId

def closureRows (runtime : Runtime) (snapshot : Snapshot β) (streamId : String) :
    Transaction (List (Retained EffectClosure)) :=
  familyRows EffectClosure runtime snapshot streamId

/-- The adopted preview must still be the one whose proposal the intent repeats. -/
def actionSubject (runtime : Runtime) (snapshot : Snapshot β) (streamId : String)
    (original : EffectOriginal) (proposal : ActionProposalValue) (adopted : ExactHead) :
    Transaction EffectSubject := do
  let previews ← rows NonToolEffectPreview runtime snapshot (some streamId)
  let preview ← only (previews.filter
    (fun item => IsExact adopted item.head (canonicalBytes item).items))
  require (proposal = preview.proposal)
    (.loopHold "intent differs from selected exact action preview")
  return ⟨original, preview.proposal.common, preview.receiptKeyFingerprint.text, streamId⟩

def subject (runtime : Runtime) (snapshot : Snapshot β) (streamId : String) :
    Transaction EffectSubject := do
  let tools ← rows NativeEffectIntentV1 runtime snapshot (some streamId)
  let plans ← rows PlanEffectIntent runtime snapshot (some streamId)
  let compensations ← rows CompensationEffectIntent runtime snapshot (some streamId)
  let original ← only (tools.map EffectOriginal.tool ++ plans.map EffectOriginal.plan ++
    compensations.map EffectOriginal.compensation)
  match original with
  | .tool intent =>
      return ⟨original, intent.preview.common, intent.preview.receiptKeyFingerprint, streamId⟩
  | .plan intent =>
      actionSubject runtime snapshot streamId original (.plan intent.request.proposal)
        intent.request.adoptedPreview
  | .compensation intent =>
      actionSubject runtime snapshot streamId original (.compensation intent.request.proposal)
        intent.request.adoptedPreview

def evidenceInventoryHead (runtime : Runtime) (snapshot : Snapshot β) (streamId : String) :
    Transaction ExactHead := do
  let value ← subject runtime snapshot streamId
  let send ← only (← sendRows runtime snapshot streamId)
  let claim ← only (← claimRows runtime snapshot streamId)
  let evidence ← evidenceRows runtime snapshot streamId
  let raw := Json.encodeAscii (.obj [("intent", .str value.head), ("send", .str send.2.head),
    ("claim", .str claim.2.head), ("evidence", toJson (evidence.map (fun item => item.2.head)))])
  return exactHead (value.intentId.before "/evidence-inventory") raw

def requireSubjectLive (services : EffectServices β) (runtime : Runtime) (snapshot : Snapshot β)
    (value : EffectSubject) : Transaction Unit :=
  match value.original with
  | .tool intent => requireActiveOriginalRun services snapshot intent.runId
  | .plan _ => .ok ()
  | .compensation intent => do
      let purpose := intent.request.proposal.purpose
      let original ← subject runtime snapshot purpose.originalStreamId.text
      require (exactHead original.intentId original.bytes = purpose.originalIntent)
        (.loopHold "compensation original intent changed")
      let inventory ← evidenceInventoryHead runtime snapshot purpose.originalStreamId.text
      require (inventory = purpose.originalEvidenceHead)
        (.loopHold "compensation original evidence changed")

/-- The SEND record a first crossing commits to, ticket included. -/
def preparedSend (now : Nat) (runtime : Runtime) (intent : EffectSubject)
    (request : DeploymentGateRequest) : EffectSend intent.family :=
  let target := intent.preview.target
  let payloadDigest := digest intent.preview.payload
  let child := exactHead (intent.intentId.before "/child/0") intent.bytes
  let fenceKey := intent.intentId.before "/first-send"
  effectHead
    { head := "pending"
      tenantId := intent.scope.1
      principalId := intent.scope.2
      streamId := intent.streamId
      intentHead := intent.head
      transmission :=
        { transmission := child
          intent := exactHead intent.intentId intent.bytes
          ordinal := 0
          semantics := semantics
          dispatchTimeNs := now
          payloadFingerprint := payloadDigest.identity
          recipient := target
          idempotencyFenceKey := fenceKey
          sendCommit := exactHead (intent.intentId.before "/send")
            (utf8 (toJson request).dumpsInOrder)
          coverageProof := none }
      ticket :=
        { tenantId := runtime.tenantId
          issuedOperationId := request.operationId
          journalDecisionId := "postgres:" ++ runtime.databaseName ++ ":" ++ request.operationId
          journalDecisionFingerprint := (digest intent.bytes).text
          transmissionId := child.subjectId.text
          transmissionFingerprint := child.fingerprint.text
          requestOrdinal := 0
          intentId := intent.intentId.text
          intentFingerprint := (digest intent.bytes).text
          provider := target.provider.text
          account := target.account.text
          recipient := target.recipient.text
          canonicalAddress := target.canonicalAddress.items
          endpointHead := target.endpoint.head.text
          credentialBindingHead := target.credentialBinding.head.text
          adapterContractVersion := semantics.adapterContractVersion.text
          payload := intent.preview.payload
          payloadFingerprint := payloadDigest.text
          idempotencyKey := fenceKey.text
          bundleMembers := intent.preview.bundleMembers }
      gateRequestBytes := request.encoded }

/-- A tool's first send needs the exact adopted call. -/
def requireAdoptedCall (services : EffectServices β) (snapshot : Snapshot β) (callId : String)
    (intent : EffectSubject) : Transaction Unit :=
  match intent.tool with
  | none => .ok ()
  | some tool => do
      let state ← services.callState snapshot callId
      require (state.head = tool.acceptedHead ∧ state.phase = .accepted)
        (.loopRejected "first send requires exact adopted call")

def commitEffectSend (services : EffectServices β) (runtime : Runtime)
    (binding : PostgresEffectsBinding) (peer callId : String) (request : DeploymentGateRequest)
    (user : UserState β) : Transaction (UserState β × Retained EffectSend) := do
  runtime.actor services.context peer user
  let snapshot := user.snapshot
  let intent ← subject runtime snapshot callId
  match ← sendRows runtime snapshot callId with
  | existing :: _ =>
      require (existing.2.gateRequestBytes = request.encoded)
        (.loopRejected "first-send deployment request changed")
      return (user, existing)
  | [] =>
      bindingMatches services.now runtime binding intent true
      requireSubjectLive services runtime snapshot intent
      requireAdoptedCall services snapshot callId intent
      services.gateRequire request.encoded "effects.first_send" intent.bytes
      let send := preparedSend services.now runtime intent request
      let fence ← sendFence services snapshot send.head intent
      let appended ← snapshot.append "effects.first-send" callId
        (digest (canonicalBytes send).items).text (record send :: fence) snapshot.head
      services.gateCrossed request.encoded intent.bytes
      return (⟨appended, user.worker⟩, ⟨intent.family, send⟩)

/-- The lease fence stored beside the SEND it belongs to. -/
def selectedSchedulerFence (runtime : Runtime) (snapshot : Snapshot β) (sendHead : String) :
    Transaction (Option Bytes) :=
  let identity := sendHead ++ "/scheduler-lease"
  let selected := snapshot.batches.flatMap (fun batch =>
    (batch.records.filter (fun item => item.recordId = identity)).map (fun item => (batch, item)))
  let refused := Failure.integrity "effects.scheduler-fence" runtime.tenantId identity
  match selected with
  | [] => .ok none
  | [(batch, item)] => do
      require (item.owner = "agent_loop" ∧ item.schemaId = actionFenceSchema ∧
          Content.bytes item.content ≠ [] ∧ sendHead ∈ batch.recordIds) refused
      return some (Content.bytes item.content)
  | _ => .error refused

inductive EmitEffect where
  | existing (claim : Retained EffectClaim)
  | claimed (send : Retained EffectSend) (claim : Retained EffectClaim)

def preparedClaim (runtime : Runtime) (intent : EffectSubject) (sendHead : String) :
    EffectClaim intent.family :=
  effectHead
    { head := "pending"
      tenantId := intent.scope.1
      principalId := intent.scope.2
      streamId := intent.streamId
      sendHead := sendHead
      worker := runtime.worker }

/-- A tool's claim needs the adopted call and the lease fence of its SEND. -/
def requireClaimableCall (services : EffectServices β) (runtime : Runtime)
    (snapshot : Snapshot β) (callId : String) (intent : EffectSubject) (sendHead : String) :
    Transaction Unit :=
  match intent.tool with
  | none => .ok ()
  | some tool => do
      let state ← services.callState snapshot callId
      require (state.head = tool.acceptedHead)
        (.loopRejected "effect call changed before emission claim")
      let expected ← selectedSchedulerFence runtime snapshot sendHead
      let fence ← services.schedulerFence snapshot tool.runId
      require (fence = expected) (.loopHold "scheduler action lease fence changed")

/-- The selected claim is irreversible.  Recovery may reconcile; it never SENDs again. -/
def emitEffect (services : EffectServices β) (runtime : Runtime)
    (binding : PostgresEffectsBinding) (peer callId : String) (user : UserState β) :
    Transaction (UserState β × EmitEffect) := do
  runtime.actor services.context peer user
  let snapshot := user.snapshot
  match ← claimRows runtime snapshot callId with
  | existing :: _ => return (user, .existing existing)
  | [] =>
      let intent ← subject runtime snapshot callId
      let send ← only (← sendRows runtime snapshot callId)
      bindingMatches services.now runtime binding intent true
      services.gateRequire send.2.gateRequestBytes "effects.first_send" intent.bytes
      requireSubjectLive services runtime snapshot intent
      requireClaimableCall services runtime snapshot callId intent send.2.head
      let claim := preparedClaim runtime intent send.2.head
      let companions ← claimCompanions services snapshot ⟨intent.family, claim⟩
      let appended ← snapshot.append "effects.emit-claim" callId
        (digest (canonicalBytes claim).items).text (record claim :: companions) snapshot.head
      return (⟨appended, user.worker⟩, .claimed send ⟨intent.family, claim⟩)

/-- A raise of the effects owner ends the surrounding call. -/
def ofChecked (computation : Checked α) : Transaction α :=
  match computation with
  | .ok value => .ok value
  | .error (.violation _ reason) => .error (.value reason)
  | .error (.validation model) => .error (.value model)

def outcomeWire : ChildOutcome → String
  | .occurred => "OCCURRED"
  | .permanentlyIncapable => "PERMANENTLY_INCAPABLE"
  | .possible => "POSSIBLE"
  | .absenceObserved => "ABSENCE_OBSERVED"

/-- One observed member of one retained receipt. -/
def memberObservation (child : ExactHead) (members : List ExactHead)
    (retained : Retained EffectEvidence) (outcome : ChildOutcome) (member : String) :
    Transaction ChildMemberEvidence := do
  let subject ← identity (retained.2.head ++ "/" ++ member ++ "/" ++ outcomeWire outcome)
  let evidence := exactHead subject
    (retained.2.rawReceipt ++ utf8 member ++ utf8 (outcomeWire outcome))
  match members.find? (fun known => known.subjectId.text = member) with
  | none => .error (.missing member)
  | some known => return ⟨evidence, child, known, outcome⟩

/-- Every retained receipt continues the one before it and is verified again. -/
def receiptObservations (services : EffectServices β) (runtime : Runtime)
    (send : Retained EffectSend) (members : List ExactHead) :
    Option String → List (Retained EffectEvidence) → Transaction (List ChildMemberEvidence)
  | _, [] => .ok []
  | previous, retained :: rest => do
      require (retained.2.sendHead = send.2.head ∧ retained.2.predecessorEvidence = previous)
        (.integrity "effects.reduce" runtime.tenantId retained.2.head)
      let parsed ← services.verifyReceipt send.2.ticket retained.2.rawReceipt
      let child := send.2.transmission.transmission
      let occurred ← parsed.occurredMembers.mapM
        (memberObservation child members retained .occurred)
      let incapable ← parsed.permanentlyIncapableMembers.mapM
        (memberObservation child members retained .permanentlyIncapable)
      let later ← receiptObservations services runtime send members (some retained.2.head) rest
      return occurred ++ incapable ++ later

def evidenceOutcome (services : EffectServices β) (runtime : Runtime)
    (binding : PostgresEffectsBinding) (snapshot : Snapshot β) (callId : String)
    (additional : List (Retained EffectEvidence)) : Transaction (AttemptState × List String) := do
  let intent ← subject runtime snapshot callId
  let send ← only (← sendRows runtime snapshot callId)
  let _ ← only (← claimRows runtime snapshot callId)
  bindingMatches services.now runtime binding intent false
  let evidence := (← evidenceRows runtime snapshot callId) ++ additional
  let members ← intent.preview.bundleMembers.mapM (fun member => do
    return exactHead (← identity member) (utf8 member))
  let observations ← receiptObservations services runtime send members none evidence
  let outcome ← ofChecked
    (reduceChildEvidence .outcomeUnknown [send.2.transmission] members observations)
  return (outcome, evidence.map (fun item => item.2.head))

/-- A receipt that is already retained, or the batch that would retain it. -/
inductive ReceiptRetention (β : Type) where
  | retained
  | publish (key : String) (expectedHead : Nat) (records : List (Record β))

/-- The read that `append_effect_receipt` makes before it publishes. -/
def appendEffectReceipt (services : EffectServices β) (runtime : Runtime)
    (binding : PostgresEffectsBinding) (peer callId : String) (raw : Bytes)
    (user : UserState β) : Transaction (ReceiptRetention β) := do
  let snapshot ← runtime.snapshotForPeer services.context peer user
  let intent ← subject runtime snapshot callId
  let send ← only (← sendRows runtime snapshot callId)
  let _ ← only (← claimRows runtime snapshot callId)
  bindingMatches services.now runtime binding intent false
  let _ ← services.verifyReceipt send.2.ticket raw
  let evidence ← evidenceRows runtime snapshot callId
  if ∃ value ∈ evidence, value.2.rawReceipt = raw then
    return .retained
  let retained : EffectEvidence intent.family := effectHead
    { head := "pending"
      tenantId := intent.scope.1
      principalId := intent.scope.2
      streamId := intent.streamId
      sendHead := send.2.head
      predecessorEvidence := evidence.getLast?.map (fun item => item.2.head)
      rawReceipt := raw }
  let (outcome, inventory) ←
    evidenceOutcome services runtime binding snapshot callId [⟨intent.family, retained⟩]
  let closures ← closureRows runtime snapshot callId
  let reduction : EffectReduction intent.family := effectHead
    { head := "pending"
      tenantId := intent.scope.1
      principalId := intent.scope.2
      streamId := intent.streamId
      sendHead := send.2.head
      closureHead := closures.head?.map (fun item => item.2.head)
      completeEvidenceHeads := inventory
      outcome := outcome }
  return .publish retained.head snapshot.head [record retained, record reduction]

/-- The read that `reconcile_effect` makes: which transmission to ask the provider about. -/
def reconcileEffect (services : EffectServices β) (runtime : Runtime) (peer callId : String)
    (user : UserState β) : Transaction String := do
  let snapshot ← runtime.snapshotForPeer services.context peer user
  let send ← only (← sendRows runtime snapshot callId)
  let _ ← only (← claimRows runtime snapshot callId)
  return send.2.transmission.transmission.subjectId.text

/-- A pending SEND, or an unresolved claim when `claim` is present. -/
structure EffectWork where
  tenantId : Identity
  principalId : Identity
  streamId : Identity
  intent : ExactHead
  send : ExactHead
  claim : Option ExactHead
deriving DecidableEq

inductive EffectWorkStep where
  | emit
  | reconcile
deriving DecidableEq

/-- The read that `step_effect_work` makes before it emits or reconciles. -/
def stepEffectWork (services : EffectServices β) (runtime : Runtime) (peer : String)
    (work : EffectWork) (user : UserState β) : Transaction EffectWorkStep := do
  let snapshot ← runtime.snapshotForPeer services.context peer user
  require (work.tenantId.text = runtime.tenantId ∧ work.principalId.text = runtime.principalId)
    (.loopRejected "effect work scope differs")
  let value ← subject runtime snapshot work.streamId.text
  let send ← only (← sendRows runtime snapshot work.streamId.text)
  require (work.intent = exactHead value.intentId value.bytes ∧
      IsExact work.send send.2.head (canonicalBytes send.2).items)
    (.loopRejected "discovered effect work changed")
  let claims ← claimRows runtime snapshot work.streamId.text
  if work.claim = none ∧ claims = [] then
    return .emit
  let claim ← only claims
  require (∀ expected ∈ work.claim, IsExact expected claim.2.head (canonicalBytes claim.2).items)
    (.loopRejected "discovered claim changed")
  return .reconcile

theorem actionSubject_streamId {snapshot : Snapshot β} {streamId : String}
    {original : EffectOriginal} {proposal : ActionProposalValue} {adopted : ExactHead}
    {value : EffectSubject}
    (selected : actionSubject runtime snapshot streamId original proposal adopted = .ok value) :
    value.streamId = streamId := by
  simp only [actionSubject, bind_ok, pure_ok] at selected
  obtain ⟨_, _, _, _, _, _, rfl⟩ := selected
  rfl

theorem subject_streamId {snapshot : Snapshot β} {streamId : String}
    {value : EffectSubject} (selected : subject runtime snapshot streamId = .ok value) :
    value.streamId = streamId := by
  simp only [subject, bind_ok] at selected
  obtain ⟨_, _, _, _, _, _, original, _, selected⟩ := selected
  cases original with
  | tool intent =>
      cases pure_ok.mp selected
      rfl
  | plan intent => exact actionSubject_streamId selected
  | compensation intent => exact actionSubject_streamId selected

/-- A first send either finds a retained SEND or appends the first one of its stream. -/
theorem commitEffectSend_ok {request : DeploymentGateRequest}
    {user after : UserState β} {send : Retained EffectSend}
    (committed : commitEffectSend services runtime binding peer callId request user =
      .ok (after, send)) :
    after = user ∨
      familyIn EffectSend user.snapshot.records callId = [] ∧ send.2.streamId = callId ∧
        ∃ fence fingerprint, (∀ item ∈ fence, item.schemaId = actionFenceSchema) ∧
          user.snapshot.append "effects.first-send" callId fingerprint (record send.2 :: fence)
            user.snapshot.head = .ok after.snapshot := by
  simp only [commitEffectSend, bind_ok] at committed
  obtain ⟨_, _, intent, selected, existing, read, committed⟩ := committed
  cases existing with
  | cons existing others =>
      simp only [bind_ok, pure_ok, Prod.mk.injEq] at committed
      obtain ⟨_, _, rfl, _⟩ := committed
      exact .inl rfl
  | nil =>
      simp only [bind_ok, pure_ok, Prod.mk.injEq] at committed
      obtain ⟨_, _, _, _, _, _, _, _, fence, prepared, _, added, _, _, rfl, rfl⟩ := committed
      exact .inr ⟨(familyRows_ok read).symm, subject_streamId selected, fence, _,
        sendFence_ok prepared, added⟩

/-- A claim transaction either finds a retained claim and changes nothing, or claims the
only SEND of its stream. -/
theorem emitEffect_ok {user after : UserState β} {result : EmitEffect}
    (emitted : emitEffect services runtime binding peer callId user = .ok (after, result)) :
    (after = user ∧ ∃ claim, result = .existing claim ∧
        (familyIn EffectClaim user.snapshot.records callId).head? = some claim) ∨
      ∃ send claim, result = .claimed send claim ∧
        familyIn EffectClaim user.snapshot.records callId = [] ∧
        familyIn EffectSend user.snapshot.records callId = [send] ∧
        claim.2.streamId = callId ∧ claim.2.sendHead = send.2.head ∧
        headed "effect:" claim.2 = claim.2 ∧ ∃ companions fingerprint,
          (∀ item ∈ companions, item.schemaId = "chiplog.agent-loop.native-call-state.v1" ∨
            ∃ version : RunVersion, item.schemaId = version.schemaId) ∧
          user.snapshot.append "effects.emit-claim" callId fingerprint
            (record claim.2 :: companions) user.snapshot.head = .ok after.snapshot := by
  simp only [emitEffect, bind_ok] at emitted
  obtain ⟨_, _, existing, read, emitted⟩ := emitted
  cases existing with
  | cons existing others =>
      simp only [pure_ok, Prod.mk.injEq] at emitted
      obtain ⟨rfl, rfl⟩ := emitted
      exact .inl ⟨rfl, existing, rfl, by rw [← familyRows_ok read]; rfl⟩
  | nil =>
      simp only [bind_ok] at emitted
      obtain ⟨intent, selected, sends, readSends, send, single, emitted⟩ := emitted
      refine .inr ⟨send, ⟨intent.family, preparedClaim runtime intent send.2.head⟩, ?_⟩
      have sent : familyIn EffectSend user.snapshot.records callId = [send] := by
        rw [← familyRows_ok readSends]
        exact only_ok single
      simp only [pure_ok, Prod.mk.injEq] at emitted
      obtain ⟨_, _, _, _, _, _, _, _, companions, prepared, _, added, rfl, rfl⟩ := emitted
      exact ⟨rfl, (familyRows_ok read).symm, sent, subject_streamId selected, rfl,
        headed_idem _ _, companions, _, claimCompanions_ok prepared, added⟩

theorem emitEffect_existing {user after : UserState β}
    {claim : Retained EffectClaim} (emitted : emitEffect services runtime binding peer callId user =
      .ok (after, .existing claim)) : after = user := by
  rcases emitEffect_ok emitted with ⟨same, _⟩ | ⟨_, _, impossible, _⟩
  · exact same
  · cases impossible

/-- Where both families can be read, the reader returns exactly what is stored. -/
theorem claimRows_returns {snapshot : Snapshot β} {streamId : String}
    (readable : ∀ family, ∀ item ∈ snapshot.records,
      item.schemaId = Schema.schemaId (EffectClaim family) →
        ∃ value : EffectClaim family, Stores.read item.content = some value ∧
          Recorded runtime item value) :
    claimRows runtime snapshot streamId =
      .ok (familyIn EffectClaim snapshot.records streamId) := by
  simp only [claimRows, familyRows, rows_returns (readable .tool), rows_returns (readable .action),
    ok_bind]
  rfl

/-- With a retained claim, a current worker gets that claim back. -/
theorem emitEffect_returns {user : UserState β}
    {claim : Retained EffectClaim} {others : List (Retained EffectClaim)}
    (current : runtime.actor services.context peer user = .ok ())
    (read : claimRows runtime user.snapshot callId = .ok (claim :: others)) :
    emitEffect services runtime binding peer callId user = .ok (user, .existing claim) := by
  simp only [emitEffect, current, read, ok_bind]
  rfl

/-- A retained receipt is published as one evidence record and one reduction. -/
theorem appendEffectReceipt_ok {raw : Bytes} {user : UserState β}
    {key : String} {expectedHead : Nat} {records : List (Record β)}
    (read : appendEffectReceipt services runtime binding peer callId raw user =
      .ok (.publish key expectedHead records)) :
    ∀ item ∈ records, ∃ family : Family,
      item.schemaId = family.schemaId "evidence" ∨ item.schemaId = family.reductionSchema := by
  simp only [appendEffectReceipt, bind_ok] at read
  obtain ⟨_, _, intent, _, _, _, _, _, _, _, _, _, _, _, _, _, _, _, read⟩ := read
  split at read
  · cases pure_ok.mp read
  · simp only [bind_ok, pure_ok, ReceiptRetention.publish.injEq] at read
    obtain ⟨_, _, _, _, _, _, rfl⟩ := read
    intro item member
    simp only [List.mem_cons, List.not_mem_nil, or_false] at member
    rcases member with rfl | rfl
    · exact ⟨intent.family, .inl (Stores.schemaId_write _)⟩
    · exact ⟨intent.family, .inr (Stores.schemaId_write _)⟩

end Custody

end Chiplog.Composition
