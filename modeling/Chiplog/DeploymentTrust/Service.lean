import Chiplog.Data.Dict
import Chiplog.Data.HashChain
import Chiplog.Data.Sha256
import Chiplog.DeploymentTrust.Contracts
import Mathlib.Data.Finset.Insert

namespace Chiplog.DeploymentTrust

open Chiplog.Data

/-! The trust aggregate and its operations.

An operation checks the service, then returns, or takes exactly one decision and settles it
in memory.  `Outcome` keeps these two apart, so that what happens when the process stops
between the decision and its settlement can be said at all. -/

/-- The authority that recovery rebuilds from the materialized records. -/
structure Authority where
  principal : Option String
  credential : Option CredentialState
  sources : Dict String EvidenceSourceState
  witnesses : Dict String TransportOriginWitness
  witnessDecisions : Dict String String
  consumedReplays : Finset String
  poll : Dict String PollCursorState
  pollPages : Dict (String × String) PollPage
  freshness : Nat
  bootstrapFingerprint : Option String
  pending : Option PendingTrustTransition

def Authority.initial : Authority :=
  ⟨none, none, .empty, .empty, .empty, ∅, .empty, .empty, 0, none, none⟩

structure Service extends Authority where
  operatorKeyId : String
  operatorSecret : Bytes
  brokerSecret : Bytes
  journalIdentity : String
  state : Option CurrentDatabaseState
  genesis : Option DatabaseGenesis
  binding : Option DeploymentTenantBinding

/-- What a service is constructed with, besides its two ports. -/
structure Configuration where
  operatorKeyId : String
  operatorSecret : Bytes
  brokerSecret : Bytes
  journalIdentity : String
deriving DecidableEq

/-- `DeploymentTrustService(...)`. -/
def Service.new (configuration : Configuration) : Service :=
  { Authority.initial with
    operatorKeyId := configuration.operatorKeyId
    operatorSecret := configuration.operatorSecret
    brokerSecret := configuration.brokerSecret
    journalIdentity := configuration.journalIdentity
    state := none
    genesis := none
    binding := none }

/-- The configuration a service stands at. -/
def Service.configuration (service : Service) : Configuration :=
  ⟨service.operatorKeyId, service.operatorSecret, service.brokerSecret,
    service.journalIdentity⟩

abbrev Entry := HashChain.Entry String Json

inductive Outcome (α : Type) where
  | returned (value : α)
  | decides (kind : Kind) (payload : List (String × Json))
      (settle : String → Service → Service × α)

/-- `left or right`, where an empty value counts as missing. -/
def orText (left : Option String) (right : String) : String :=
  match left with
  | none => right
  | some text => if text = "" then right else text

def orBytes (left : Option Bytes) (right : Bytes) : Bytes :=
  match left with
  | none => right
  | some raw => if raw = [] then right else raw

def orEpoch (left : Option Int) (right : Int) : Int :=
  match left with
  | none => right
  | some epoch => if epoch = 0 then right else epoch

def inactive : TrustError := .invariant "ordinary work denied outside active contour"

/-- `_require_active`, with the state it found. -/
def Service.requireActive (service : Service) : Except TrustError CurrentDatabaseState :=
  match service.state with
  | none => .error inactive
  | some state => if state.phase = .active then .ok state else .error inactive

/-- `assert value is not None`. -/
def asserted {α : Type} : Option α → Except TrustError α
  | none => .error .assertion
  | some value => .ok value

/-- `replace(self._state, ...)`. -/
def Service.replaceState (service : Service)
    (change : CurrentDatabaseState → CurrentDatabaseState) : Service :=
  { service with state := service.state.map change }

structure BootstrapRequest where
  tokenFingerprint : String
  peer : String
  expectedPeer : String
  principalId : String
  credentialId : String
  sessionId : String
  recoveryVerifier : String
  expiresAt : Option Int
  now : Option Int
deriving DecidableEq

/-- `expires_at is not None and (now is None or now > expires_at)`. -/
def BootstrapRequest.expired (request : BootstrapRequest) : Bool :=
  match request.expiresAt, request.now with
  | none, _ => false
  | some _, none => true
  | some expiresAt, some now => expiresAt < now

/-- The first credential. -/
def BootstrapRequest.credential (request : BootstrapRequest) : CredentialState :=
  ⟨request.credentialId, "credential:1", request.sessionId, "session:1", request.peer, false⟩

def BootstrapRequest.payload (request : BootstrapRequest) : List (String × Json) :=
  [("principal_id", toJson request.principalId), ("credential", toJson request.credential),
    ("recovery_verifier", toJson request.recoveryVerifier),
    ("token_fingerprint", toJson request.tokenFingerprint)]

def BootstrapRequest.settle (request : BootstrapRequest) (decision : String)
    (service : Service) : Service :=
  { service with
    principal := some request.principalId
    credential := some request.credential
    bootstrapFingerprint := some request.tokenFingerprint
    freshness := service.freshness + 1
    state := service.state.map (fun state =>
      { state with materializationHead := decision, generation := 2, phase := .active }) }

/-- The fingerprint of an earlier bootstrap answers or refuses before any other check. -/
def bootstrap (service : Service) (request : BootstrapRequest) :
    Except TrustError (Outcome String) :=
  match service.bootstrapFingerprint with
  | some fingerprint =>
      if fingerprint = request.tokenFingerprint then do
        let state ← asserted service.state
        .ok (.returned state.materializationHead)
      else .error (.invariant "bootstrap token conflict")
  | none => do
      raiseIf (service.state.map CurrentDatabaseState.phase ≠ some .bootstrapRequired)
        (.invariant "bootstrap is not available")
      raiseIf (request.peer ≠ request.expectedPeer) (.invariant "bootstrap peer denied")
      raiseIf request.expired (.invariant "bootstrap token expired")
      raiseIf service.principal.isSome (.invariant "second principal denied")
      .ok (.decides .bootstrap request.payload fun decision service =>
        (request.settle decision service, decision))

def registerEvidenceSource (service : Service) (sourceId : String) :
    Except TrustError (Outcome EvidenceSourceState) := do
  let _ ← service.requireActive
  raiseIf (service.sources.get? sourceId).isSome
    (.invariant "shared or duplicate endpoint denied")
  let source : EvidenceSourceState :=
    ⟨sourceId, "source:" ++ toString (service.sources.entries.length + 1), false⟩
  .ok (.decides .registerEvidenceSource (modelDump source) fun _ service =>
    ({ service with sources := service.sources.set sourceId source }, source))

/-- The credential that takes the place of the current one. -/
def successor (service : Service) (current : CredentialState) (newCredentialId : String) :
    CredentialState :=
  ⟨newCredentialId, "credential:" ++ toString (service.freshness + 1), "",
    "session:" ++ toString (service.freshness + 1), current.peerCredential, false⟩

def staleCredential : TrustError := .invariant "stale credential head"

def rotateCredential (service : Service) (expectedHead newCredentialId : String) :
    Except TrustError (Outcome CredentialState) := do
  let _ ← service.requireActive
  match service.credential with
  | none => .error staleCredential
  | some current =>
      raiseIf (current.revoked = true ∨ current.head ≠ expectedHead) staleCredential
      let replacement := successor service current newCredentialId
      .ok (.decides .rotateCredential (modelDump replacement) fun _ service =>
        ({ service with credential := some replacement, freshness := service.freshness + 1 },
          replacement))

/-- Revocation asks for no active contour and may repeat. -/
def revoke (service : Service) (expectedHead : String) : Except TrustError (Outcome Unit) :=
  match service.credential with
  | none => .error staleCredential
  | some current => do
      raiseIf (current.head ≠ expectedHead) staleCredential
      .ok (.decides .revokeCredential [("head", toJson expectedHead)] fun _ service =>
        ({ service with
            credential := some { current with revoked := true }
            freshness := service.freshness + 1 }, ()))

def authorizePollCursor (service : Service) (sourceId cursor pageId : String)
    (cursorSequence : Int) : Except TrustError (Outcome String) := do
  let _ ← service.requireActive
  raiseIf (service.sources.get? sourceId).isNone (.invariant "unknown poll source")
  match service.pollPages.get? (sourceId, pageId) with
  | none => .error (.invariant "poll cursor requires exact durable page disposition")
  | some page =>
      raiseIf (∃ member ∈ page.members, member.2 = "HELD")
        (.invariant "poll cursor requires terminal member dispositions")
      let state := (service.poll.get? sourceId).getD (.unpolled sourceId)
      match state.authorizationDecisionId with
      | some decision =>
          if state.authorizedCursor = some cursor ∧ state.authorizedPageId = some pageId ∧
              state.authorizedSequence = cursorSequence then
            .ok (.returned decision)
          else advance state
      | none => advance state
where
  advance (state : PollCursorState) : Except TrustError (Outcome String) := do
    raiseIf (state.authorizedPageId = some pageId)
      (.invariant "poll page already authorized a cursor")
    raiseIf (cursorSequence ≠ state.authorizedSequence + 1)
      (.invariant "poll cursor sequence is not monotonic")
    .ok (.decides .pollCursorAdvanceAuthorized
      [("source_id", toJson sourceId), ("cursor", toJson cursor), ("page_id", toJson pageId),
        ("cursor_sequence", toJson cursorSequence)]
      fun decision service =>
        ({ service with
            poll := service.poll.set sourceId
              { state with
                authorizedCursor := some cursor
                authorizedPageId := some pageId
                authorizedSequence := cursorSequence
                authorizationDecisionId := some decision } }, decision))

def unauthorizedCursor : TrustError := .invariant "poll cursor was not authorized"

def applyPollCursor (service : Service) (sourceId cursor : String) :
    Except TrustError (Outcome String) :=
  match service.poll.get? sourceId with
  | none => .error unauthorizedCursor
  | some state => do
      raiseIf (state.authorizedCursor ≠ some cursor) unauthorizedCursor
      match state.applicationDecisionId with
      | some decision =>
          if state.appliedCursor = some cursor then .ok (.returned decision) else settle state
      | none => settle state
where
  settle (state : PollCursorState) : Except TrustError (Outcome String) :=
    .ok (.decides .pollCursorApplied
      [("source_id", toJson sourceId), ("cursor", toJson cursor),
        ("page_id", toJson state.authorizedPageId)]
      fun decision service =>
        ({ service with
            poll := service.poll.set sourceId
              { state with
                appliedCursor := some cursor, applicationDecisionId := some decision } },
          decision))

def holdFutureContour (service : Service) : Except TrustError (Outcome Unit) := do
  let _ ← service.requireActive
  .ok (.decides .principalContourPrerequisite
    [("disposition", toJson "HOLD"), ("version", toJson (1 : Nat))] fun decision service =>
      (service.replaceState (fun state =>
        { state with materializationHead := decision, phase := .hold }), ()))

def markAuthenticatedLateEvidence (service : Service) (sourceId expectedHead : String) :
    Except TrustError (Outcome String) :=
  match service.sources.get? sourceId with
  | none => .error (.invariant "stale evidence source")
  | some source => do
      raiseIf (source.head ≠ expectedHead) (.invariant "stale evidence source")
      .ok (.decides .authenticatedLateEvidence
        [("source_id", toJson sourceId), ("head", toJson expectedHead)] fun decision service =>
          ({ service with
              sources := service.sources.set sourceId { source with authenticatedLate := true } },
            decision))

structure TransitionProposal where
  transitionId : String
  kind : TransitionKind
  proposedKeyId : Option String
  proposedEpoch : Option Int
deriving DecidableEq

def prepareTrustTransition (service : Service) (proposal : TransitionProposal) :
    Except TrustError (Outcome PendingTrustTransition) := do
  let state ← service.requireActive
  let binding ← asserted service.binding
  raiseIf service.pending.isSome (.invariant "trust transition already unresolved")
  raiseIf (proposal.kind = .operatorBindingKeyRotation ∧ orText proposal.proposedKeyId "" = "")
    (.invariant "binding-key successor is incomplete")
  raiseIf (proposal.kind = .journalRootRotation ∧
      proposal.proposedEpoch ≠ some (binding.journalEpoch + 1))
    (.invariant "journal epoch must advance exactly once")
  .ok (.decides .trustTransitionPrepared
    [("transition_id", toJson proposal.transitionId), ("kind", toJson proposal.kind.text),
      ("predecessor_trust_head", toJson state.trustHead),
      ("proposed_key_id", toJson proposal.proposedKeyId),
      ("proposed_epoch", toJson proposal.proposedEpoch)]
    fun decision service =>
      let pending : PendingTrustTransition := ⟨proposal.transitionId, proposal.kind,
        state.trustHead, decision, proposal.proposedKeyId, proposal.proposedEpoch, .prepared⟩
      ({ service with pending := some pending }.replaceState (fun state =>
          { state with materializationHead := decision, phase := .prepared }), pending))

/-- The pending transition under that identity and in that phase. -/
def Service.pendingIn (service : Service) (transitionId : String) (phase : PendingPhase)
    (message : String) : Except TrustError PendingTrustTransition :=
  match service.pending with
  | none => .error (.invariant message)
  | some pending =>
      if pending.transitionId ≠ transitionId ∨ pending.phase ≠ phase then
        .error (.invariant message)
      else .ok pending

/-- Readiness also fences on the last journal entry. -/
def markTransitionReady (service : Service) (journal : List Entry) (transitionId : String) :
    Except TrustError (Outcome PendingTrustTransition) := do
  let pending ← service.pendingIn transitionId .prepared "transition is not prepared"
  let state ← asserted service.state
  raiseIf (HashChain.head journal ≠ some state.materializationHead)
    (.recoveryRequired "transition readiness fence is stale")
  .ok (.decides .trustTransitionReady
    [("transition_id", toJson transitionId),
      ("prepared_head", toJson pending.preparedJournalHead)]
    fun decision service =>
      let pending := { pending with phase := .ready }
      ({ service with pending := some pending }.replaceState (fun state =>
          { state with materializationHead := decision, phase := .ready }), pending))

def abortTrustTransition (service : Service) (transitionId : String) :
    Except TrustError (Outcome String) := do
  let _ ← service.pendingIn transitionId .prepared "only a prepared transition may abort"
  .ok (.decides .trustTransitionAborted [("transition_id", toJson transitionId)]
    fun decision service =>
      ({ service with pending := none }.replaceState (fun state =>
          { state with materializationHead := decision, phase := .active }), decision))

section

variable [Hashlib]

/-- `_digest(_canonical(value))`. -/
def digestOf (value : Json) : String := (sha256 value.encodeAscii).text

def genesisDigest (genesis : DatabaseGenesis) : String := digestOf (toJson genesis)

/-- The trust head of a binding. -/
def bindingHead (binding : DeploymentTenantBinding) : String := digestOf (toJson binding)

def witnessDigest (witness : TransportOriginWitness) : String := digestOf (toJson witness)

/-- `_sign(payload, secret)`. -/
def Service.sign (service : Service) (payload : Bytes) (secret : Option Bytes) : String :=
  (Hmac.hmac (orBytes secret service.operatorSecret) payload).text

def Service.signBinding (service : Service) (draft : DeploymentTenantBinding)
    (secret : Option Bytes) : DeploymentTenantBinding :=
  { draft with signature := service.sign (Json.obj draft.unsigned).encodeAscii secret }

def Service.signWitness (service : Service) (draft : TransportOriginWitness) :
    TransportOriginWitness :=
  { draft with
    brokerSignature :=
      service.sign (Json.obj draft.unsigned).encodeAscii (some service.brokerSecret) }

def initializeDatabase (service : Service) (tenantId databaseInstanceId : String) :
    Except TrustError (Outcome CurrentDatabaseState) := do
  raiseIf (service.state.isSome) (.invariant "database already initialized")
  let genesis : DatabaseGenesis := ⟨tenantId, databaseInstanceId, 1⟩
  let binding := service.signBinding
    { tenantId, databaseInstanceId
      genesisDigest := genesisDigest genesis
      journalIdentity := service.journalIdentity
      journalEpoch := 1
      operatorKeyId := service.operatorKeyId
      predecessor := none
      signature := "" } none
  .ok (.decides .initialization [("genesis", toJson genesis), ("binding", toJson binding)]
    fun decision service =>
      let state : CurrentDatabaseState :=
        ⟨tenantId, databaseInstanceId, bindingHead binding, decision, 1, .bootstrapRequired⟩
      ({ service with genesis := some genesis, binding := some binding, state := some state },
        state))

structure EmergencyRequest where
  peer : String
  expectedPeer : String
  recoverySecret : String
  expectedRecoveryVerifier : String
  newCredentialId : String
deriving DecidableEq

def unauthenticatedRecovery : TrustError :=
  .invariant "operator recovery authentication failed"

/-- The verifier is the one the caller expects. -/
def emergencyRecover (service : Service) (request : EmergencyRequest) :
    Except TrustError (Outcome CredentialState) := do
  let _ ← service.requireActive
  match service.credential with
  | none => .error unauthenticatedRecovery
  | some current =>
      raiseIf (request.peer ≠ request.expectedPeer ∨ request.peer ≠ current.peerCredential ∨
          (sha256 (utf8 request.recoverySecret)).text ≠ request.expectedRecoveryVerifier)
        unauthenticatedRecovery
      match service.principal with
      | none => .error (.invariant "immutable principal missing")
      | some principal =>
          let replacement := successor service current request.newCredentialId
          .ok (.decides .emergencyRecovery
            [("principal_id", toJson principal), ("credential", toJson replacement)]
            fun _ service =>
              ({ service with
                  credential := some replacement, freshness := service.freshness + 1 },
                replacement))

structure WitnessRequest where
  witnessId : String
  kind : WitnessKind
  candidateId : String
  botAccount : String
  endpoint : String
  rawBytes : Bytes
  replayIdentity : String
deriving DecidableEq

/-- Whether an earlier witness is the one a replayed request asks for. -/
def TransportOriginWitness.replays (existing witness : TransportOriginWitness) : Bool :=
  existing.witnessId = witness.witnessId && existing.kind = witness.kind &&
    existing.tenantId = witness.tenantId && existing.candidateId = witness.candidateId &&
    existing.botAccount = witness.botAccount && existing.endpoint = witness.endpoint &&
    existing.credentialHead = witness.credentialHead &&
    existing.sessionHead = witness.sessionHead && existing.trustHead = witness.trustHead &&
    existing.rawDigest = witness.rawDigest

def issueTransportWitness (service : Service) (request : WitnessRequest) :
    Except TrustError (Outcome TransportOriginWitness) := do
  let state ← service.requireActive
  let credential ← asserted service.credential
  let witness := service.signWitness
    { witnessId := request.witnessId
      kind := request.kind
      tenantId := state.tenantId
      candidateId := request.candidateId
      botAccount := request.botAccount
      endpoint := request.endpoint
      credentialHead := credential.head
      sessionHead := credential.sessionHead
      trustHead := state.trustHead
      materializationHead := state.materializationHead
      rawDigest := (sha256 request.rawBytes).text
      replayIdentity := request.replayIdentity
      brokerSignature := "" }
  if request.replayIdentity ∈ service.consumedReplays then
    match service.witnesses.values.find? (fun item =>
        item.replayIdentity = request.replayIdentity) with
    | none => .error (.invariant "transport replay conflict")
    | some existing =>
        if existing.replays witness then .ok (.returned existing)
        else .error (.invariant "transport replay conflict")
  else do
    raiseIf (service.witnesses.get? request.witnessId).isSome
      (.invariant "transport witness identity conflict")
    .ok (.decides .transportWitness (modelDump witness) fun decision service =>
      ({ service with
          witnesses := service.witnesses.set request.witnessId witness
          witnessDecisions := service.witnessDecisions.set request.witnessId decision
          consumedReplays := insert request.replayIdentity service.consumedReplays }, witness))

structure PageReport where
  sourceId : String
  sourceHead : String
  pageId : String
  rawPage : Bytes
  memberDispositions : List (String × String)
deriving DecidableEq

def dispositions : List String := ["PUBLISHED", "DUPLICATE", "REJECTED", "HELD"]

def incompletePage : TrustError :=
  .invariant "poll page requires authenticated source and members"

end

/-- `tuple(str(item["id"]) for item in json.loads(raw_page)["members"])`, when it exists. -/
class PageReader where
  members? : Bytes → Option (List String)

variable [Hashlib]

def recordPollResponsePage [PageReader] (service : Service) (report : PageReport) :
    Except TrustError (Outcome String) := do
  let _ ← service.requireActive
  raiseIf ((service.sources.get? report.sourceId).map EvidenceSourceState.head ≠
      some report.sourceHead ∨ report.memberDispositions = []) incompletePage
  raiseIf (¬ (report.memberDispositions.map Prod.fst).Nodup)
    (.invariant "poll page members must be unique")
  let rawDigest := (sha256 report.rawPage).text
  raiseIf (report.pageId ≠ rawDigest)
    (.invariant "poll page identity must equal authenticated raw digest")
  match PageReader.members? report.rawPage with
  | none => .error (.invariant "poll raw page membership is invalid")
  | some rawMembers =>
      raiseIf (rawMembers ≠ report.memberDispositions.map Prod.fst)
        (.invariant "poll page disposition membership is incomplete")
      raiseIf (∃ member ∈ report.memberDispositions, member.2 ∉ dispositions)
        (.invariant "poll member disposition is not closed")
      match service.pollPages.get? (report.sourceId, report.pageId) with
      | some existing =>
          if existing.rawDigest = rawDigest ∧ existing.members = report.memberDispositions then
            .ok (.returned existing.decisionId)
          else .error (.invariant "poll page identity replay conflict")
      | none =>
          .ok (.decides .pollResponsePage
            [("source_id", toJson report.sourceId), ("source_head", toJson report.sourceHead),
              ("page_id", toJson report.pageId), ("raw_digest", toJson rawDigest),
              ("members", toJson report.memberDispositions)]
            fun decision service =>
              ({ service with
                  pollPages := service.pollPages.set (report.sourceId, report.pageId)
                    ⟨rawDigest, report.memberDispositions, decision⟩ }, decision))

def acceptTrustTransition (service : Service) (transitionId : String)
    (newSecret : Option Bytes) : Except TrustError (Outcome String) := do
  let pending ← service.pendingIn transitionId .ready "only a ready transition may be accepted"
  let current ← asserted service.binding
  let state ← asserted service.state
  let keyId := orText pending.proposedKeyId current.operatorKeyId
  let signingSecret := orBytes newSecret service.operatorSecret
  let binding := service.signBinding
    { current with
      journalEpoch := orEpoch pending.proposedEpoch current.journalEpoch
      operatorKeyId := keyId
      predecessor := some state.trustHead } (some signingSecret)
  .ok (.decides .trustTransitionAccepted
    [("transition_id", toJson transitionId), ("binding", toJson binding)]
    fun decision service =>
      ({ service with
          binding := some binding
          operatorKeyId := keyId
          operatorSecret := signingSecret
          pending := none }.replaceState (fun state =>
            { state with
              trustHead := bindingHead binding
              materializationHead := decision
              generation := state.generation + 1
              phase := .active }), decision))

/-- Unlike an accepted transition, the rotation keeps the secret it was given. -/
def rotateBindingKey (service : Service) (newKeyId : String) (newSecret : Bytes) :
    Except TrustError (Outcome DeploymentTenantBinding) := do
  let state ← service.requireActive
  let current ← asserted service.binding
  let binding := service.signBinding
    { current with
      operatorKeyId := newKeyId
      predecessor := some state.trustHead } (some newSecret)
  .ok (.decides .operatorBindingKeyRotation (modelDump binding) fun decision service =>
    ({ service with
        operatorKeyId := newKeyId
        operatorSecret := newSecret
        binding := some binding }.replaceState (fun state =>
          { state with
            trustHead := bindingHead binding
            materializationHead := decision
            generation := state.generation + 1 }), binding))

def rotateJournalRoot (service : Service) (newEpoch : Int) :
    Except TrustError (Outcome DeploymentTenantBinding) := do
  let state ← service.requireActive
  let current ← asserted service.binding
  raiseIf (newEpoch ≠ current.journalEpoch + 1)
    (.invariant "journal epoch must advance exactly once")
  let binding := service.signBinding
    { current with
      journalEpoch := newEpoch
      predecessor := some state.trustHead } none
  .ok (.decides .journalRootRotation (modelDump binding) fun decision service =>
    ({ service with binding := some binding }.replaceState (fun state =>
        { state with
          trustHead := bindingHead binding
          materializationHead := decision
          generation := state.generation + 1 }), binding))

end Chiplog.DeploymentTrust
