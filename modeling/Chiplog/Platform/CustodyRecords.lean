import Chiplog.Data.JsonReading
import Chiplog.Platform.IngressCustody
import Chiplog.Platform.SelectionDeadline

namespace Chiplog.Platform.Ingress

open Chiplog.Data

/-! Retained custody transitions, one record after the other.

Every command brings its whole retention claim along; the token it names was allocated under a
fingerprint of profile, claim and limit, so a later command cannot exchange them. -/

/-- `canonical(value)`. -/
def canonical [Model α] (value : α) : Bytes := (toJson value).encode

structure CustodyProfile where
  tenantId : Identity
  databaseId : Identity
  sourceIdentity : Identity
  sourceClass : SourceClass
  transportVersion : Identity
  maximumItems : Positive
  maximumTotalBytes : Positive
  maximumItemBytes : Positive
deriving DecidableEq

instance : Model CustodyProfile := ⟨fun value =>
  [("schema_id", .str "chiplog.ingress.retained-profile.v1"),
    ("tenant_id", toJson value.tenantId), ("database_id", toJson value.databaseId),
    ("source_identity", toJson value.sourceIdentity),
    ("source_class", toJson value.sourceClass),
    ("transport_version", toJson value.transportVersion),
    ("maximum_items", toJson value.maximumItems),
    ("maximum_total_bytes", toJson value.maximumTotalBytes),
    ("maximum_item_bytes", toJson value.maximumItemBytes)]⟩

structure RetentionClaim where
  slotId : Identity
  rawDigest : Digest
  byteCount : UInt64
  proof : Head
  observationBytes : NonemptyBytes
deriving DecidableEq

instance : Model RetentionClaim := ⟨fun value =>
  [("slot_id", toJson value.slotId), ("raw_digest", toJson value.rawDigest),
    ("byte_count", toJson value.byteCount), ("proof", toJson value.proof),
    ("observation_bytes", toJson value.observationBytes)]⟩

inductive CustodyOperation where
  | allocateReceiptToken
  | stageRawBytes
  | publishCustodySuccessor
deriving DecidableEq

def CustodyOperation.text : CustodyOperation → String
  | .allocateReceiptToken => "ingress.allocate_receipt_token"
  | .stageRawBytes => "ingress.stage_raw_bytes"
  | .publishCustodySuccessor => "ingress.publish_custody_successor"

structure BrokerSession where
  tenantId : String
  brokerEpoch : ℕ+
  generationId : String
  ownerId : String
  sessionId : String
deriving DecidableEq

instance : Model BrokerSession := ⟨fun value =>
  [("tenant_id", toJson value.tenantId), ("broker_epoch", toJson value.brokerEpoch),
    ("generation_id", toJson value.generationId), ("owner_id", toJson value.ownerId),
    ("session_id", toJson value.sessionId)]⟩

structure CustodyCommand where
  operation : CustodyOperation
  commandId : Identity
  profile : CustodyProfile
  predecessor : Option Head
  token : ReceiptToken
  retention : RetentionClaim
  rawBytes : Option Bytes
  brokerSession : BrokerSession
  readStateBytes : NonemptyBytes
  tenantFrontier : UInt64
deriving DecidableEq

instance : Model CustodyCommand := ⟨fun value =>
  [("schema_id", .str "chiplog.ingress.retained-command.v1"),
    ("operation", .str value.operation.text), ("command_id", toJson value.commandId),
    ("profile", toJson value.profile), ("predecessor", toJson value.predecessor),
    ("token", toJson value.token), ("retention", toJson value.retention),
    ("raw_bytes", toJson value.rawBytes), ("broker_session", toJson value.brokerSession),
    ("read_state_bytes", toJson value.readStateBytes),
    ("tenant_frontier", toJson value.tenantFrontier)]⟩

structure RetainedRetry where
  token : Head
  continuingRetentionProof : Head
deriving DecidableEq

instance : Model RetainedRetry := ⟨fun value =>
  modelDump (CustodyState.retryWithSourceCustody value.token value.continuingRetentionProof)⟩

structure CustodyEntry where
  token : ReceiptToken
  retentionProof : Head
  stateHead : Head
  stagedBytes : Option Bytes
  stagedDigest : Option Digest
  custody : Option RetainedRetry
deriving DecidableEq

instance : Model CustodyEntry := ⟨fun value =>
  [("token", toJson value.token), ("mode", .str "RETAINED_SOURCE"),
    ("retention_proof", toJson value.retentionProof), ("state_head", toJson value.stateHead),
    ("staged_bytes", toJson value.stagedBytes), ("staged_digest", toJson value.stagedDigest),
    ("custody", toJson value.custody)]⟩

def CustodyEntry.fromEntry (entry : TokenEntry) : Except IngressError CustodyEntry :=
  match entry.mode, entry.retentionProof with
  | .retainedSource, some retentionProof =>
      let kept := CustodyEntry.mk entry.token retentionProof entry.stateHead entry.stagedBytes
        entry.stagedDigest
      match entry.custody with
      | none => .ok (kept none)
      | some (.retryWithSourceCustody token proof) => .ok (kept (some ⟨token, proof⟩))
      | some _ => .error
          (.hold "PRE_AUTH route cannot authenticate, admit, reject or release evidence")
  | _, _ => .error (.hold "unregistered retention mechanism")

structure CustodyRecord where
  command : CustodyCommand
  resultingEntry : CustodyEntry
deriving DecidableEq

instance : Model CustodyRecord := ⟨fun value =>
  [("schema_id", .str "chiplog.ingress.custody-record.v1"), ("command", toJson value.command),
    ("resulting_entry", toJson value.resultingEntry)]⟩

section

variable [Hashlib]

def reference (identity : Identity) (raw : Bytes) : Head :=
  labelledHead identity (identity.text ++ "/") (sha256 raw)

def CustodyProfile.head (profile : CustodyProfile) : Head :=
  reference ⟨"ingress.source-profile", by decide⟩ (canonical profile)

def CustodyProfile.epoch (profile : CustodyProfile) : Head :=
  reference ⟨"ingress.admission-epoch", by decide⟩ (canonical profile)

def CustodyProfile.empty (profile : CustodyProfile) : CustodySnapshot :=
  ⟨profile.epoch.identity.text, profile.epoch.head.text, 0, .opened, []⟩

def CustodyRecord.head (record : CustodyRecord) : Head :=
  reference (record.command.commandId.before "/record") (canonical record)

/-- What a slot is named by, under any operation. -/
def subjectBytes (profile : CustodyProfile) (slotId : Identity) : Bytes :=
  (toJson [profile.tenantId, profile.databaseId, profile.sourceIdentity, slotId]).encode

def subjectId (profile : CustodyProfile) (slotId : Identity) (operation : String) : String :=
  operation ++ ":" ++ (sha256 (subjectBytes profile slotId)).text

def allocationBytes (profile : CustodyProfile) (claim : RetentionClaim) (maximumBytes : ℕ+) :
    Bytes :=
  canonical profile ++ [0] ++ canonical claim ++ [0] ++ utf8 (toString maximumBytes.val)

def allocationFingerprint (profile : CustodyProfile) (claim : RetentionClaim)
    (maximumBytes : ℕ+) : Digest :=
  sha256 (allocationBytes profile claim maximumBytes)

/-- What is compared of command and snapshot before any operation. -/
structure Registered (command : CustodyCommand) (snapshot : CustodySnapshot) : Prop where
  epoch : (snapshot.epochId, snapshot.epochHead, snapshot.fence, snapshot.state) =
    (command.profile.epoch.identity.text, command.profile.epoch.head.text, 0, .opened)
  endpoint : command.token.source.endpointAccountBinding = .unknownPreAuth
  commandId : command.commandId.text =
    subjectId command.profile command.retention.slotId command.operation.text
  tokenId : command.token.tokenId.text =
    subjectId command.profile command.retention.slotId "ingress.receipt"
  fingerprint : command.token.commandFingerprint =
    allocationFingerprint command.profile command.retention command.token.maximumBytes
  proof : command.retention.proof.identity = command.retention.slotId
  tenant : command.token.source.tenantId = command.profile.tenantId
  database : command.token.source.databaseId = command.profile.databaseId
  identity : command.token.source.sourceIdentity = command.profile.sourceIdentity
  sourceClass : command.token.source.sourceClass = command.profile.sourceClass
  manifestRow : command.token.source.manifestRow = command.profile.head
  transport : command.token.source.transportVersion = command.profile.transportVersion
  admission : command.token.source.admissionEpoch = command.profile.epoch
  fence : command.token.source.admissionFence = 0
  slot : command.token.receiveSlot = command.retention.slotId
  limit : command.token.maximumBytes.val ≤ command.profile.maximumItemBytes.value
  size : command.retention.byteCount.toNat ≤ command.token.maximumBytes.val

instance (command : CustodyCommand) (snapshot : CustodySnapshot) :
    Decidable (Registered command snapshot) :=
  decidable_of_iff (_ ∧ _ ∧ _ ∧ _ ∧ _ ∧ _ ∧ _ ∧ _ ∧ _ ∧ _ ∧ _ ∧ _ ∧ _ ∧ _ ∧ _ ∧ _ ∧ _)
    ⟨fun ⟨a, b, c, d, e, f, g, h, i, j, k, l, m, n, o, p, q⟩ =>
        ⟨a, b, c, d, e, f, g, h, i, j, k, l, m, n, o, p, q⟩,
      fun ⟨a, b, c, d, e, f, g, h, i, j, k, l, m, n, o, p, q⟩ =>
        ⟨a, b, c, d, e, f, g, h, i, j, k, l, m, n, o, p, q⟩⟩

/-- The bytes that the tokens of a snapshot may take. -/
def reserved (entries : List TokenEntry) : Nat :=
  (entries.map (fun entry => entry.token.maximumBytes.val)).sum

def prepareAllocation (command : CustodyCommand) (snapshot : CustodySnapshot) :
    Except IngressError CustodySnapshot := do
  let profile := command.profile
  let token := command.token
  raiseIf (command.rawBytes ≠ none ∨ token.predecessor ≠ none)
    (.conflict "allocation cannot stage bytes or claim another predecessor")
  raiseIf (∃ entry ∈ snapshot.entries, entry.token.tokenId = token.tokenId)
    (.conflict "selected allocation requires exact publication replay")
  raiseIf (profile.maximumItems.value ≤ snapshot.entries.length ∨
      profile.maximumTotalBytes.value < reserved snapshot.entries + token.maximumBytes.val)
    (.hold "registered retained custody reserve exhausted")
  allocateToken snapshot token .retainedSource (some command.retention.proof)

def prepareStaging (command : CustodyCommand) (snapshot : CustodySnapshot) (entry : TokenEntry) :
    Except IngressError CustodySnapshot :=
  match command.rawBytes with
  | none => .error (.conflict "raw bytes differ from independently retained item")
  | some raw => do
      raiseIf (raw.length ≠ command.retention.byteCount.toNat ∨
          sha256 raw ≠ command.retention.rawDigest)
        (.conflict "raw bytes differ from independently retained item")
      raiseIf (entry.stagedBytes ≠ none)
        (.conflict "selected staging requires exact publication replay")
      stageRaw snapshot command.token.tokenId.text raw

def prepareRetry (command : CustodyCommand) (snapshot : CustodySnapshot) (entry : TokenEntry) :
    Except IngressError CustodySnapshot := do
  raiseIf (command.rawBytes ≠ none ∨ entry.custody ≠ none)
    (.conflict "selected retry requires exact publication replay")
  publishCustody snapshot command.token.tokenId.text
    (.retryWithSourceCustody entry.stateHead command.retention.proof)

/-- The branches of the later operations share the search for the allocated entry. -/
def prepareSuccessor (command : CustodyCommand) (snapshot : CustodySnapshot) :
    Except IngressError CustodySnapshot :=
  match snapshot.entries.filter (fun entry => entry.token.tokenId = command.token.tokenId) with
  | [entry] => do
      raiseIf (entry.token ≠ command.token ∨
          entry.retentionProof ≠ some command.retention.proof)
        (.conflict "source, token or retention proof differs from allocation")
      if command.operation = .stageRawBytes then prepareStaging command snapshot entry
      else prepareRetry command snapshot entry
  | _ => .error (.conflict "source, token or retention proof differs from allocation")

def prepareOperation (command : CustodyCommand) (snapshot : CustodySnapshot) :
    Except IngressError CustodySnapshot :=
  if command.operation = .allocateReceiptToken then prepareAllocation command snapshot
  else prepareSuccessor command snapshot

def prepareCustody (command : CustodyCommand) (previous : Option Head)
    (snapshot : CustodySnapshot) : Except IngressError (CustodyRecord × CustodySnapshot) := do
  raiseIf (command.predecessor ≠ previous)
    (.conflict "custody command omits or substitutes the complete predecessor")
  raiseIf (¬ Registered command snapshot)
    (.hold "retained source, scope, epoch or registered limit differs")
  let result ← prepareOperation command snapshot
  match result.entries.find? (fun entry => entry.token.tokenId = command.token.tokenId) with
  -- `next` of an exhausted generator, which no operation leaves behind
  | none => .error (.hold "StopIteration")
  | some changed => do
      let resultingEntry ← CustodyEntry.fromEntry changed
      .ok (⟨command, resultingEntry⟩, result)

/-- Commands prepared one after the other, each after the record before it. -/
def prepareAll (records : List CustodyRecord) (snapshot : CustodySnapshot) :
    List CustodyCommand → Except IngressError (List CustodyRecord × CustodySnapshot)
  | [] => .ok (records, snapshot)
  | command :: commands => do
      let (record, next) ←
        prepareCustody command (records.getLast?.map CustodyRecord.head) snapshot
      prepareAll (records ++ [record]) next commands

end

end Chiplog.Platform.Ingress
