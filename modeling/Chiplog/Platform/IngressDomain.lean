import Chiplog.Data.Checked
import Chiplog.Data.Model

namespace Chiplog.Platform.Ingress

open Chiplog.Data

/-! Broker-private ingress wire shapes.  They do not authenticate or admit bytes. -/

structure Head where
  identity : Identity
  head : Identity
  fingerprint : Digest
deriving DecidableEq

instance : Model Head := ⟨fun value =>
  [("identity", toJson value.identity), ("head", toJson value.head),
    ("fingerprint", toJson value.fingerprint)]⟩

inductive SourceClass where
  | telegramPush
  | telegramPoll
  | cli
  | providerCallback
  | providerPoll
  | reconciliation
  | toolResult
deriving DecidableEq

instance : Jsonable SourceClass := ⟨fun
  | .telegramPush => .str "TELEGRAM_PUSH"
  | .telegramPoll => .str "TELEGRAM_POLL"
  | .cli => .str "CLI"
  | .providerCallback => .str "PROVIDER_CALLBACK"
  | .providerPoll => .str "PROVIDER_POLL"
  | .reconciliation => .str "RECONCILIATION"
  | .toolResult => .str "TOOL_RESULT"⟩

/-- A field typed `KnownEndpoint | UnknownEndpoint`. -/
inductive EndpointBinding where
  | known (binding : Head)
  | unknownPreAuth
deriving DecidableEq

instance : Model EndpointBinding := ⟨fun
  | .known binding => [("kind", .str "KNOWN"), ("binding", toJson binding)]
  | .unknownPreAuth => [("kind", .str "UNKNOWN_PRE_AUTH")]⟩

structure SourceBinding where
  manifestRow : Head
  sourceClass : SourceClass
  tenantId : Identity
  databaseId : Identity
  sourceIdentity : Identity
  endpointAccountBinding : EndpointBinding
  brokerEpoch : Identity
  brokerSession : Identity
  admissionEpoch : Head
  admissionFence : UInt64
  transportVersion : Identity
deriving DecidableEq

instance : Model SourceBinding := ⟨fun value =>
  [("manifest_row", toJson value.manifestRow), ("source_class", toJson value.sourceClass),
    ("tenant_id", toJson value.tenantId), ("database_id", toJson value.databaseId),
    ("source_identity", toJson value.sourceIdentity),
    ("endpoint_account_binding", toJson value.endpointAccountBinding),
    ("broker_epoch", toJson value.brokerEpoch), ("broker_session", toJson value.brokerSession),
    ("admission_epoch", toJson value.admissionEpoch),
    ("admission_fence", toJson value.admissionFence),
    ("transport_version", toJson value.transportVersion)]⟩

structure ReceiptToken where
  tokenId : Identity
  source : SourceBinding
  receiveSlot : Identity
  maximumBytes : ℕ+
  predecessor : Option Head
  commandFingerprint : Digest
deriving DecidableEq

instance : Model ReceiptToken := ⟨fun value =>
  [("token_id", toJson value.tokenId), ("source", toJson value.source),
    ("receive_slot", toJson value.receiveSlot), ("maximum_bytes", toJson value.maximumBytes),
    ("predecessor", toJson value.predecessor),
    ("command_fingerprint", toJson value.commandFingerprint)]⟩

/-- The fields each authentication binding inherits from `AuthenticationBase`. -/
structure AuthenticationBase where
  proof : Head
  source : SourceBinding
  rawDigest : Digest
  principalContour : Head
  freshness : Head
  replayIdentity : Identity
  originalSubject : Identity
  contractVersion : Identity
  canonicalizationVersion : Identity
deriving DecidableEq

instance : Model AuthenticationBase := ⟨fun value =>
  [("proof", toJson value.proof), ("source", toJson value.source),
    ("raw_digest", toJson value.rawDigest),
    ("principal_contour", toJson value.principalContour), ("freshness", toJson value.freshness),
    ("replay_identity", toJson value.replayIdentity),
    ("original_subject", toJson value.originalSubject),
    ("contract_version", toJson value.contractVersion),
    ("canonicalization_version", toJson value.canonicalizationVersion)]⟩

inductive AuthenticationBinding where
  | providerTransport (base : AuthenticationBase) (providerIdentity accountId : Identity)
      (endpointBinding credentialKey : Head) (audience : Identity)
  | cliOsPeer (base : AuthenticationBase)
      (unixEndpoint osPeer authenticatedCliSession credentialBinding policyHead : Head)
  | brokerToolResult (base : AuthenticationBase)
      (authenticatedOwnerSession acceptedCall issuedResultSlot runtimeGeneration : Head)
deriving DecidableEq

instance : Model AuthenticationBinding := ⟨fun
  | .providerTransport base providerIdentity accountId endpointBinding credentialKey audience =>
      modelDump base ++ [("kind", .str "PROVIDER_TRANSPORT"),
        ("provider_identity", toJson providerIdentity), ("account_id", toJson accountId),
        ("endpoint_binding", toJson endpointBinding), ("credential_key", toJson credentialKey),
        ("audience", toJson audience)]
  | .cliOsPeer base unixEndpoint osPeer authenticatedCliSession credentialBinding policyHead =>
      modelDump base ++ [("kind", .str "CLI_OS_PEER"), ("unix_endpoint", toJson unixEndpoint),
        ("os_peer", toJson osPeer),
        ("authenticated_cli_session", toJson authenticatedCliSession),
        ("credential_binding", toJson credentialBinding), ("policy_head", toJson policyHead)]
  | .brokerToolResult base authenticatedOwnerSession acceptedCall issuedResultSlot
      runtimeGeneration =>
      modelDump base ++ [("kind", .str "BROKER_TOOL_RESULT"),
        ("authenticated_owner_session", toJson authenticatedOwnerSession),
        ("accepted_call", toJson acceptedCall), ("issued_result_slot", toJson issuedResultSlot),
        ("runtime_generation", toJson runtimeGeneration)]⟩

def AuthenticationBinding.base : AuthenticationBinding → AuthenticationBase
  | .providerTransport base .. => base
  | .cliOsPeer base .. => base
  | .brokerToolResult base .. => base

structure DurableCustody where
  token : Head
  rawBytes : Bytes
  rawDigest : Digest
  authentication : AuthenticationBinding
  inbox : Head
deriving DecidableEq

instance : Model DurableCustody := ⟨fun value =>
  [("kind", .str "ADMITTED_DURABLE"), ("token", toJson value.token),
    ("raw_bytes", toJson value.rawBytes), ("raw_digest", toJson value.rawDigest),
    ("authentication", toJson value.authentication), ("inbox", toJson value.inbox)]⟩

structure QuarantineCustody where
  token : Head
  rawBytes : Bytes
  rawDigest : Digest
  authentication : AuthenticationBinding
  parserId : Identity
  parserVersion : Identity
  errorType : Identity
  inspectionRetryPolicy : Head
  quarantineBudget : Head
deriving DecidableEq

instance : Model QuarantineCustody := ⟨fun value =>
  [("kind", .str "QUARANTINED_RAW_EVIDENCE"), ("token", toJson value.token),
    ("raw_bytes", toJson value.rawBytes), ("raw_digest", toJson value.rawDigest),
    ("authentication", toJson value.authentication), ("parser_id", toJson value.parserId),
    ("parser_version", toJson value.parserVersion), ("error_type", toJson value.errorType),
    ("inspection_retry_policy", toJson value.inspectionRetryPolicy),
    ("quarantine_budget", toJson value.quarantineBudget)]⟩

inductive CustodyState where
  | admittedDurable (value : DurableCustody)
  | quarantinedRawEvidence (value : QuarantineCustody)
  | retryWithSourceCustody (token continuingRetentionProof : Head)
  | terminalReject (token deterministicNonEvidenceReason : Head)
  | lossObligation (token : Head) (receiveSlot custodyLossCut : Identity)
deriving DecidableEq

instance : Model CustodyState := ⟨fun
  | .admittedDurable value => modelDump value
  | .quarantinedRawEvidence value => modelDump value
  | .retryWithSourceCustody token continuingRetentionProof =>
      [("kind", .str "RETRY_WITH_SOURCE_CUSTODY"), ("token", toJson token),
        ("continuing_retention_proof", toJson continuingRetentionProof)]
  | .terminalReject token deterministicNonEvidenceReason =>
      [("kind", .str "TERMINAL_REJECT"), ("token", toJson token),
        ("deterministic_non_evidence_reason", toJson deterministicNonEvidenceReason)]
  | .lossObligation token receiveSlot custodyLossCut =>
      [("kind", .str "LOSS_OBLIGATION"), ("token", toJson token),
        ("receive_slot", toJson receiveSlot), ("custody_loss_cut", toJson custodyLossCut)]⟩

def CustodyState.token : CustodyState → Head
  | .admittedDurable value => value.token
  | .quarantinedRawEvidence value => value.token
  | .retryWithSourceCustody token _ => token
  | .terminalReject token _ => token
  | .lossObligation token _ _ => token

/-- The bytes a custody state holds itself, when it is a local one. -/
def CustodyState.rawBytes? : CustodyState → Option Bytes
  | .admittedDurable value => some value.rawBytes
  | .quarantinedRawEvidence value => some value.rawBytes
  | _ => none

inductive QuarantineResult where
  | materialized (custody : Head) (stableInboxId : Identity) (exactInboxHead : Head)
  | versionIndependentTerminalNonEvidence (custody : Head)
      (byteLevelProofKind proofVersion : Identity) (proofDigest : Digest)
  | retryOrHold (custody : Head) (failureOrUnknown : Identity) (nextParserConstraints : Head)
deriving DecidableEq

instance : Model QuarantineResult := ⟨fun
  | .materialized custody stableInboxId exactInboxHead =>
      [("kind", .str "MATERIALIZED"), ("custody", toJson custody),
        ("stable_inbox_id", toJson stableInboxId), ("exact_inbox_head", toJson exactInboxHead)]
  | .versionIndependentTerminalNonEvidence custody byteLevelProofKind proofVersion proofDigest =>
      [("kind", .str "VERSION_INDEPENDENT_TERMINAL_NON_EVIDENCE"), ("custody", toJson custody),
        ("byte_level_proof_kind", toJson byteLevelProofKind),
        ("proof_version", toJson proofVersion), ("proof_digest", toJson proofDigest)]
  | .retryOrHold custody failureOrUnknown nextParserConstraints =>
      [("kind", .str "RETRY_OR_HOLD"), ("custody", toJson custody),
        ("failure_or_unknown", toJson failureOrUnknown),
        ("next_parser_constraints", toJson nextParserConstraints)]⟩

def QuarantineResult.custody : QuarantineResult → Head
  | .materialized custody _ _ => custody
  | .versionIndependentTerminalNonEvidence custody _ _ _ => custody
  | .retryOrHold custody _ _ => custody

/-- `kind == "RETRY_OR_HOLD"`. -/
def QuarantineResult.retries : QuarantineResult → Bool
  | .retryOrHold .. => true
  | _ => false

end Chiplog.Platform.Ingress

namespace Chiplog.Platform.Ingress

open Chiplog.Data

/-! Pure broker-private ingress proposals.

Receipt tokens are allocated before the read, take the raw bytes once and then one custody
successor; a quarantined custody is parsed by one selected attempt after another.  No
function here has authority: the broker compares the whole snapshot at its own cut. -/

/-- `IngressHold` and its subclass `IngressConflict`. -/
inductive IngressError where
  | hold (message : String)
  | conflict (message : String)
deriving DecidableEq

inductive AcquisitionMode where
  | lossSlot
  | retainedSource
deriving DecidableEq

instance : Jsonable AcquisitionMode := ⟨fun
  | .lossSlot => .str "LOSS_SLOT"
  | .retainedSource => .str "RETAINED_SOURCE"⟩

structure TokenEntry where
  token : ReceiptToken
  mode : AcquisitionMode
  retentionProof : Option Head
  stateHead : Head
  stagedBytes : Option Bytes
  stagedDigest : Option Digest
  custody : Option CustodyState
deriving DecidableEq

inductive AdmissionState where
  | opened
  | quiescing
  | draining
  | closed
deriving DecidableEq

structure CustodySnapshot where
  epochId : String
  epochHead : String
  fence : Int
  state : AdmissionState
  entries : List TokenEntry
deriving DecidableEq

section

variable [Hashlib]

/-- A head whose text is its fingerprint under a label. -/
def labelledHead (identity : Identity) (label : String) (fingerprint : Digest) : Head :=
  ⟨identity, Identity.after label fingerprint.identity, fingerprint⟩

def allocationHead (token : ReceiptToken) (mode : AcquisitionMode)
    (retentionProof : Option Head) : Head :=
  labelledHead token.tokenId "token-allocation:" (sha256 (Json.arr
    [.str "chiplog.ingress.token-allocation.v1", toJson token, toJson mode,
      toJson retentionProof]).encode)

def allocateToken (snapshot : CustodySnapshot) (token : ReceiptToken) (mode : AcquisitionMode)
    (retentionProof : Option Head) : Except IngressError CustodySnapshot := do
  raiseIf ((mode = .retainedSource) ≠ (retentionProof ≠ none))
    (.hold "retained-source mechanism requires its exact proof")
  let candidate : TokenEntry :=
    ⟨token, mode, retentionProof, allocationHead token mode retentionProof, none, none, none⟩
  match snapshot.entries.filter (fun entry => entry.token.tokenId = token.tokenId) with
  | first :: rest =>
      if rest = [] ∧
          (first.token, first.mode, first.retentionProof) = (token, mode, retentionProof) then
        return snapshot
      else throw (.conflict "receipt identity already names different allocation")
  | [] =>
      raiseIf (snapshot.state ≠ .opened) (.hold "token allocation lost admission quiesce race")
      raiseIf ((token.source.admissionEpoch.identity.text, token.source.admissionEpoch.head.text,
          (token.source.admissionFence.toNat : Int)) ≠
          (snapshot.epochId, snapshot.epochHead, snapshot.fence))
        (.hold "stale admission epoch/fence")
      raiseIf (∃ entry ∈ snapshot.entries, entry.token.receiveSlot = token.receiveSlot)
        (.conflict "receive slot already allocated")
      return { snapshot with entries := snapshot.entries ++ [candidate] }

/-- `_entry`: the position of the one entry of this token. -/
def entryAt (snapshot : CustodySnapshot) (tokenId : String) :
    Except IngressError (Nat × TokenEntry) :=
  match (snapshot.entries.zipIdx.map Prod.swap).filter
      (fun indexed => indexed.2.token.tokenId.text = tokenId) with
  | [found] => .ok found
  | _ => .error (.hold "token missing or duplicated in authoritative snapshot")

def replaceEntry (snapshot : CustodySnapshot) (index : Nat) (entry : TokenEntry) :
    CustodySnapshot :=
  { snapshot with
    entries := snapshot.entries.take index ++ entry :: snapshot.entries.drop (index + 1) }

def stageHead (entry : TokenEntry) (rawDigest : Digest) : Head :=
  labelledHead entry.token.tokenId "token-raw-stage:" (sha256 (Json.arr
    [.str "chiplog.ingress.raw-stage.v1", toJson entry.stateHead,
      toJson rawDigest]).encodeAscii)

def stageRaw (snapshot : CustodySnapshot) (tokenId : String) (raw : Bytes) :
    Except IngressError CustodySnapshot := do
  let (index, entry) ← entryAt snapshot tokenId
  raiseIf (entry.token.maximumBytes.val < raw.length)
    (.hold "raw bytes exceed preallocated bounded receive")
  match entry.stagedBytes with
  | some staged =>
      if staged = raw ∧ entry.stagedDigest = some (sha256 raw) then return snapshot
      else throw (.conflict "changed raw bytes for exact receipt")
  | none =>
      raiseIf (entry.custody ≠ none ∨ snapshot.state = .closed)
        (.conflict "raw staging cannot rewrite terminal custody")
      return replaceEntry snapshot index
        { entry with
          stagedBytes := some raw
          stagedDigest := some (sha256 raw)
          stateHead := stageHead entry (sha256 raw) }

end

/-- The bytes, digest and authentication of a local custody against the staged ones. -/
def localBinding (entry : TokenEntry) (rawBytes : Bytes) (rawDigest : Digest)
    (authentication : AuthenticationBinding) : Except IngressError Unit := do
  raiseIf (entry.stagedBytes = none)
    (.hold "local custody requires exact staged replayable bytes")
  raiseIf (entry.stagedBytes ≠ some rawBytes ∨ entry.stagedDigest ≠ some rawDigest ∨
      entry.stagedDigest ≠ some authentication.base.rawDigest ∨
      authentication.base.source ≠ entry.token.source)
    (.conflict "raw/authentication/source binding substitution")

/-- The correlation each kind of custody has to show. -/
def custodyBinding (entry : TokenEntry) : CustodyState → Except IngressError Unit
  | .admittedDurable value =>
      localBinding entry value.rawBytes value.rawDigest value.authentication
  | .quarantinedRawEvidence value =>
      localBinding entry value.rawBytes value.rawDigest value.authentication
  | .retryWithSourceCustody _ continuingRetentionProof =>
      raiseIf (entry.mode ≠ .retainedSource ∨
          some continuingRetentionProof ≠ entry.retentionProof)
        (.hold "retry requires continuing independently proven source custody")
  | .terminalReject .. => .ok ()
  | .lossObligation _ receiveSlot _ =>
      raiseIf (receiveSlot ≠ entry.token.receiveSlot)
        (.conflict "loss obligation names another receive slot")

def publishCustody (snapshot : CustodySnapshot) (tokenId : String) (custody : CustodyState) :
    Except IngressError CustodySnapshot := do
  let (index, entry) ← entryAt snapshot tokenId
  raiseIf (custody.token ≠ entry.stateHead)
    (.conflict "custody successor does not match exact current token state head")
  match entry.custody with
  | some current =>
      if current = custody then return snapshot
      else throw (.conflict "second or changed custody successor")
  | none =>
      custodyBinding entry custody
      return replaceEntry snapshot index { entry with custody := some custody }

def quiesce (snapshot : CustodySnapshot) : Except IngressError CustodySnapshot :=
  match snapshot.state with
  | .opened => .ok { snapshot with state := .quiescing }
  | .quiescing => .ok snapshot
  | _ => .error (.hold "cannot reopen or requiesce drained epoch")

def beginDrain (snapshot : CustodySnapshot) : Except IngressError CustodySnapshot := do
  raiseIf (¬(snapshot.state = .quiescing ∨ snapshot.state = .draining))
    (.hold "drain requires winning quiesce fence")
  raiseIf (∃ entry ∈ snapshot.entries, entry.custody = none)
    (.hold "winning receipt token still lacks enumerable successor")
  return { snapshot with state := .draining }

structure QuarantineState where
  custodyHead : Head
  custody : QuarantineCustody
  currentHead : Head
  selectedAttempt : Option (String × String × String)
  result : Option QuarantineResult
  lastCompletedAttempt : Option (String × String × String)
  selectedRetryHead : Option Head
  completedAttemptIds : List String
deriving DecidableEq

section

variable [Hashlib]

def custodySuccessorHead (custody : CustodyState) : Head :=
  labelledHead custody.token.identity "custody:" (sha256 (utf8 (toJson custody).dumpsInOrder))

def quarantineGenesis (custodyHead : Head) (custody : QuarantineCustody) :
    Except IngressError QuarantineState := do
  raiseIf (custodyHead ≠ custodySuccessorHead (.quarantinedRawEvidence custody))
    (.conflict "quarantine genesis does not bind exact custody successor")
  raiseIf (sha256 custody.rawBytes ≠ custody.rawDigest) (.hold "quarantine raw bytes mismatch")
  raiseIf (custody.authentication.base.rawDigest ≠ custody.rawDigest)
    (.hold "quarantine authentication bound to different raw bytes")
  let head := labelledHead custodyHead.identity "quarantine-retry:" (sha256 (Json.arr
    [.str "chiplog.ingress.quarantine-genesis.v1", toJson custodyHead,
      toJson custody]).encodeAscii)
  return ⟨custodyHead, custody, head, none, none, none, none, []⟩

/-- A parser attempt in a fingerprint: a tuple dumps as an array. -/
def attemptJson (attempt : String × String × String) : Json :=
  .arr [.str attempt.1, .str attempt.2.1, .str attempt.2.2]

def selectQuarantineParser (state : QuarantineState) (expectedRetryHead : Head)
    (attemptId parserId parserVersion : String) : Except IngressError QuarantineState := do
  raiseIf (∃ result ∈ state.result, result.retries = false)
    (.conflict "quarantine terminal cannot start another parser")
  let candidate := (attemptId, parserId, parserVersion)
  raiseIf (attemptId = "" ∨ parserId = "" ∨ parserVersion = "")
    (.hold "parser attempt identity/version missing")
  match state.selectedAttempt with
  | some selected =>
      if selected = candidate ∧ state.selectedRetryHead = some expectedRetryHead then
        return state
      else throw (.conflict "rival parser already selected")
  | none =>
      raiseIf (expectedRetryHead ≠ state.currentHead)
        (.conflict "parser selected from stale quarantine retry head")
      raiseIf (attemptId ∈ state.completedAttemptIds)
        (.conflict "parser attempt identity cannot be reused")
      let selectedHead := labelledHead state.custodyHead.identity "parser-selected:"
        (sha256 (Json.arr [.str "chiplog.ingress.quarantine-select.v1",
          toJson expectedRetryHead, attemptJson candidate]).encodeAscii)
      return { state with
        selectedAttempt := some candidate
        selectedRetryHead := some expectedRetryHead
        currentHead := selectedHead }

/-- The inbox subject a materialized result has to name. -/
def expectedInbox (custodyHead : Head) : Identity :=
  Identity.after "quarantine-inbox:" (sha256 (Json.arr
    [.str "chiplog.ingress.quarantine-inbox.v1", toJson custodyHead]).encodeAscii).identity

def inboxBinding (custodyHead : Head) : QuarantineResult → Except IngressError Unit
  | .materialized _ stableInboxId exactInboxHead =>
      raiseIf (stableInboxId ≠ expectedInbox custodyHead ∨
          exactInboxHead.identity ≠ expectedInbox custodyHead)
        (.conflict "parser fabricated a different stable inbox subject")
  | _ => .ok ()

def finishQuarantineParser (state : QuarantineState) (attempt : String × String × String)
    (result : QuarantineResult) : Except IngressError QuarantineState := do
  match state.selectedAttempt with
  | none =>
      if state.lastCompletedAttempt = some attempt ∧ state.result = some result then
        return state
      else throw (.conflict "parser result has no exact selected attempt")
  | some selected =>
      raiseIf (selected ≠ attempt ∨ result.custody ≠ state.custodyHead)
        (.conflict "parser attempt or original custody substitution")
      inboxBinding state.custodyHead result
      let head := labelledHead state.custodyHead.identity "quarantine-result:"
        (sha256 (Json.arr [.str "chiplog.ingress.quarantine-result.v1",
          toJson state.currentHead, attemptJson attempt, toJson result]).encodeAscii)
      return { state with
        currentHead := head
        selectedAttempt := none
        result := some result
        lastCompletedAttempt := some attempt
        selectedRetryHead := none
        completedAttemptIds := state.completedAttemptIds ++ [attempt.1] }

end

end Chiplog.Platform.Ingress
