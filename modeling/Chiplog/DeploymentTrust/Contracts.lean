import Chiplog.Data.Checked
import Chiplog.Data.Model

namespace Chiplog.DeploymentTrust

open Chiplog.Data

/-! The records of the deployment-trust aggregate, what they become in a decision and how
recovery reads them back.

`json.loads` undoes `json.dumps`, so a stored decision is its JSON value; `decision bytes`
are its canonical form. -/

inductive TrustError where
  | invariant (message : String)
  | recoveryRequired (message : String)
  | assertion
  | runtime (message : String)
  | undecodable (key : String)
deriving DecidableEq

inductive Phase where
  | bootstrapRequired
  | active
  | prepared
  | ready
  | recoveryRequired
  | hold
deriving DecidableEq

inductive TransitionKind where
  | operatorBindingKeyRotation
  | journalRootRotation
deriving DecidableEq

def TransitionKind.text : TransitionKind → String
  | .operatorBindingKeyRotation => "OPERATOR_BINDING_KEY_ROTATION"
  | .journalRootRotation => "JOURNAL_ROOT_ROTATION"

inductive WitnessKind where
  | telegramPolling
  | telegramWebhook
deriving DecidableEq

def WitnessKind.text : WitnessKind → String
  | .telegramPolling => "TELEGRAM_POLLING"
  | .telegramWebhook => "TELEGRAM_WEBHOOK"

structure DatabaseGenesis where
  tenantId : String
  databaseInstanceId : String
  genesisVersion : Int
deriving DecidableEq

structure DeploymentTenantBinding where
  tenantId : String
  databaseInstanceId : String
  genesisDigest : String
  journalIdentity : String
  journalEpoch : Int
  operatorKeyId : String
  predecessor : Option String
  signature : String
deriving DecidableEq

structure CurrentDatabaseState where
  tenantId : String
  databaseInstanceId : String
  trustHead : String
  materializationHead : String
  generation : Nat
  phase : Phase
deriving DecidableEq

inductive PendingPhase where
  | prepared
  | ready
deriving DecidableEq

structure PendingTrustTransition where
  transitionId : String
  kind : TransitionKind
  predecessorTrustHead : String
  preparedJournalHead : String
  proposedKeyId : Option String
  proposedEpoch : Option Int
  phase : PendingPhase
deriving DecidableEq

structure TransportOriginWitness where
  witnessId : String
  kind : WitnessKind
  tenantId : String
  candidateId : String
  botAccount : String
  endpoint : String
  credentialHead : String
  sessionHead : String
  trustHead : String
  materializationHead : String
  rawDigest : String
  replayIdentity : String
  brokerSignature : String
deriving DecidableEq

structure CredentialState where
  credentialId : String
  head : String
  sessionId : String
  sessionHead : String
  peerCredential : String
  revoked : Bool
deriving DecidableEq

structure EvidenceSourceState where
  sourceId : String
  head : String
  authenticatedLate : Bool
deriving DecidableEq

structure PollCursorState where
  sourceId : String
  authorizedCursor : Option String
  authorizedPageId : Option String
  authorizedSequence : Int
  authorizationDecisionId : Option String
  appliedCursor : Option String
  applicationDecisionId : Option String
deriving DecidableEq

/-- `PollCursorState(source_id)`. -/
def PollCursorState.unpolled (sourceId : String) : PollCursorState :=
  ⟨sourceId, none, none, 0, none, none, none⟩

/-- A recorded page: its raw digest, the disposition of each member and its decision. -/
structure PollPage where
  rawDigest : String
  members : List (String × String)
  decisionId : String
deriving DecidableEq

instance : Model DatabaseGenesis where
  modelDump genesis :=
    [("tenant_id", toJson genesis.tenantId),
      ("database_instance_id", toJson genesis.databaseInstanceId),
      ("genesis_version", toJson genesis.genesisVersion)]

/-- What the operator signs: the binding without its signature. -/
def DeploymentTenantBinding.unsigned (binding : DeploymentTenantBinding) : List (String × Json) :=
  [("tenant_id", toJson binding.tenantId),
    ("database_instance_id", toJson binding.databaseInstanceId),
    ("genesis_digest", toJson binding.genesisDigest),
    ("journal_identity", toJson binding.journalIdentity),
    ("journal_epoch", toJson binding.journalEpoch),
    ("operator_key_id", toJson binding.operatorKeyId),
    ("predecessor", toJson binding.predecessor)]

instance : Model DeploymentTenantBinding where
  modelDump binding := binding.unsigned ++ [("signature", toJson binding.signature)]

/-- What the broker signs: the witness without its signature. -/
def TransportOriginWitness.unsigned (witness : TransportOriginWitness) : List (String × Json) :=
  [("witness_id", toJson witness.witnessId), ("kind", toJson witness.kind.text),
    ("tenant_id", toJson witness.tenantId), ("candidate_id", toJson witness.candidateId),
    ("bot_account", toJson witness.botAccount), ("endpoint", toJson witness.endpoint),
    ("credential_head", toJson witness.credentialHead),
    ("session_head", toJson witness.sessionHead), ("trust_head", toJson witness.trustHead),
    ("materialization_head", toJson witness.materializationHead),
    ("raw_digest", toJson witness.rawDigest),
    ("replay_identity", toJson witness.replayIdentity)]

instance : Model TransportOriginWitness where
  modelDump witness :=
    witness.unsigned ++ [("broker_signature", toJson witness.brokerSignature)]

instance : Model CredentialState where
  modelDump credential :=
    [("credential_id", toJson credential.credentialId), ("head", toJson credential.head),
      ("session_id", toJson credential.sessionId),
      ("session_head", toJson credential.sessionHead),
      ("peer_credential", toJson credential.peerCredential),
      ("revoked", toJson credential.revoked)]

instance : Model EvidenceSourceState where
  modelDump source :=
    [("source_id", toJson source.sourceId), ("head", toJson source.head),
      ("authenticated_late", toJson source.authenticatedLate)]

/-- The operation kinds of the decisions this aggregate takes. -/
inductive Kind where
  | initialization
  | bootstrap
  | registerEvidenceSource
  | rotateCredential
  | revokeCredential
  | emergencyRecovery
  | transportWitness
  | pollCursorAdvanceAuthorized
  | pollCursorApplied
  | pollResponsePage
  | principalContourPrerequisite
  | trustTransitionPrepared
  | trustTransitionReady
  | trustTransitionAborted
  | trustTransitionAccepted
  | operatorBindingKeyRotation
  | journalRootRotation
  | authenticatedLateEvidence
deriving DecidableEq

namespace Kind

def text : Kind → String
  | initialization => "INITIALIZE"
  | bootstrap => "BOOTSTRAP"
  | registerEvidenceSource => "REGISTER_EVIDENCE_SOURCE"
  | rotateCredential => "ROTATE_CREDENTIAL"
  | revokeCredential => "REVOKE_CREDENTIAL"
  | emergencyRecovery => "EMERGENCY_RECOVERY"
  | transportWitness => "TRANSPORT_WITNESS"
  | pollCursorAdvanceAuthorized => "POLL_CURSOR_ADVANCE_AUTHORIZED"
  | pollCursorApplied => "POLL_CURSOR_APPLIED"
  | pollResponsePage => "POLL_RESPONSE_PAGE"
  | principalContourPrerequisite => "PRINCIPAL_CONTOUR_PREREQUISITE"
  | trustTransitionPrepared => "TRUST_TRANSITION_PREPARED"
  | trustTransitionReady => "TRUST_TRANSITION_READY"
  | trustTransitionAborted => "TRUST_TRANSITION_ABORTED"
  | trustTransitionAccepted => "TRUST_TRANSITION_ACCEPTED"
  | operatorBindingKeyRotation => "OPERATOR_BINDING_KEY_ROTATION"
  | journalRootRotation => "JOURNAL_ROOT_ROTATION"
  | authenticatedLateEvidence => "AUTHENTICATED_LATE_EVIDENCE"

def all : List Kind :=
  [initialization, bootstrap, registerEvidenceSource, rotateCredential, revokeCredential,
    emergencyRecovery, transportWitness, pollCursorAdvanceAuthorized, pollCursorApplied,
    pollResponsePage, principalContourPrerequisite, trustTransitionPrepared,
    trustTransitionReady, trustTransitionAborted, trustTransitionAccepted,
    operatorBindingKeyRotation, journalRootRotation, authenticatedLateEvidence]

/-- The kind a text names, if this aggregate writes it. -/
def ofText? (text : String) : Option Kind := all.find? (fun kind => kind.text = text)

@[simp] theorem ofText?_text (kind : Kind) : ofText? kind.text = some kind := by
  cases kind <;> decide +kernel

def recordTypes : Kind → List String
  | initialization => ["current_database_state", "database_genesis", "deployment_tenant_binding",
      "tenant_registry_entry"]
  | bootstrap => ["identity_credential_head", "principal_registry_entry", "session_head",
      "tenant_principal_contour"]
  | registerEvidenceSource => ["evidence_authentication_binding", "evidence_source_head"]
  | rotateCredential | revokeCredential | emergencyRecovery =>
      ["identity_credential_head", "session_head"]
  | transportWitness => ["channel_authentication_binding", "transport_origin_witness"]
  | pollCursorAdvanceAuthorized => ["poll_cursor_advance_authorized"]
  | pollCursorApplied => ["poll_cursor_applied"]
  | pollResponsePage => ["poll_member_disposition", "poll_response_page_manifest"]
  | principalContourPrerequisite => ["principal_contour_prerequisite"]
  | trustTransitionPrepared | trustTransitionReady | trustTransitionAborted =>
      ["trust_transition"]
  | trustTransitionAccepted | operatorBindingKeyRotation | journalRootRotation =>
      ["deployment_tenant_binding", "trust_transition"]
  | authenticatedLateEvidence => ["evidence_authentication_binding"]

end Kind

/-- `KIND_RECORD_TYPES.get(kind, ())` with its default, under the common first type. -/
def recordTypesOf (kind : String) : List String :=
  ("tenant_decision" :: ((Kind.ofText? kind).elim ["tenant_decision"] Kind.recordTypes)).map
    ("chiplog.deployment_trust." ++ ·)

def schemaId : String := "chiplog.deployment_trust.record.v1"

/-- One materialized record of a decision. -/
def record (decisionId kind recordType : String) (payload : List (String × Json)) : Json :=
  .obj ([("decision_id", .str decisionId), ("operation_kind", .str kind),
    ("record_type_id", .str recordType), ("schema_id", .str schemaId)] ++ payload)

def recordsOf (decisionId kind : String) (payload : List (String × Json)) : List Json :=
  (recordTypesOf kind).map (fun recordType => record decisionId kind recordType payload)

def envelope (kind : String) (payload : List (String × Json)) (predecessor : Option String) :
    Json :=
  .obj [("kind", .str kind), ("payload", .obj payload), ("predecessor", toJson predecessor)]

end Chiplog.DeploymentTrust
