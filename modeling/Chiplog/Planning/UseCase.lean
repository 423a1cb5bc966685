import Chiplog.Data.Dict
import Chiplog.Data.JsonReading

namespace Chiplog.Planning

open Chiplog.Data

/-! Planning-owned records: the create command, its five records and its result. -/

structure RecordId where
  tenantId : String
  value : String
deriving DecidableEq

/-- `_rid`. -/
instance : Model RecordId := ⟨fun recordId =>
  [("tenant_id", toJson recordId.tenantId), ("value", toJson recordId.value)]⟩

structure PlanningTrustReference where
  tenantId : String
  principalId : String
  contour : String
  credentialHead : String
  sessionHead : String
  sourceHead : String
  trustHead : String
  materializationHead : String
  freshnessSequence : Int
  peerCredential : String
deriving DecidableEq

/-- `_trust_fields`. -/
instance : Model PlanningTrustReference := ⟨fun reference =>
  [("contour", toJson reference.contour), ("credential_head", toJson reference.credentialHead),
    ("freshness_sequence", toJson reference.freshnessSequence),
    ("materialization_head", toJson reference.materializationHead),
    ("principal_id", toJson reference.principalId), ("session_head", toJson reference.sessionHead),
    ("source_head", toJson reference.sourceHead), ("tenant_id", toJson reference.tenantId),
    ("trust_head", toJson reference.trustHead),
    ("peer_credential", toJson reference.peerCredential)]⟩

structure InvocationContext where
  tenantId : String
  principalId : String
  permissionScope : String
  trustReference : PlanningTrustReference
deriving DecidableEq

structure CreateIntentionLine where
  commandId : RecordId
  intentionLineId : RecordId
  revisionId : RecordId
  purpose : String
  authorityActId : String
deriving DecidableEq

def createIntentionLine : String := "CREATE_INTENTION_LINE"
def createScope : String := "planning.create_intention_line"
def directContours : List String := ["CLI", "TELEGRAM"]

instance : Model InvocationContext := ⟨fun context =>
  [("permission_scope", toJson context.permissionScope),
    ("principal_id", toJson context.principalId), ("tenant_id", toJson context.tenantId),
    ("trust_reference", toJson context.trustReference)]⟩

instance : Model CreateIntentionLine := ⟨fun command =>
  [("authority_act_id", toJson command.authorityActId), ("command_id", toJson command.commandId),
    ("intention_line_id", toJson command.intentionLineId), ("purpose", toJson command.purpose),
    ("revision_id", toJson command.revisionId)]⟩

/-- The value that `_request_fingerprint` hashes. -/
def requestJson (context : InvocationContext) (command : CreateIntentionLine)
    (predecessor : Option RecordId) : Json :=
  .obj [("command", toJson command), ("context", toJson context),
    ("operation", toJson createIntentionLine), ("predecessor_result_id", toJson predecessor)]

instance : Json.Legible RecordId where
  read := by
    intro first second same
    have values := Json.sorted_obj_inj ["tenant_id", "value"] rfl rfl (by decide) same
    cases first
    cases second
    simp only [modelDump, List.map_cons, List.cons.injEq, Json.sorted_eq] at values
    rw [RecordId.mk.injEq]
    simp [values]

instance : Json.Legible PlanningTrustReference where
  read := by
    intro first second same
    have values := Json.sorted_obj_inj ["contour", "credential_head", "freshness_sequence",
      "materialization_head", "principal_id", "session_head", "source_head", "tenant_id",
      "trust_head", "peer_credential"] rfl rfl (by decide) same
    cases first
    cases second
    simp only [modelDump, List.map_cons, List.cons.injEq, Json.sorted_eq] at values
    rw [PlanningTrustReference.mk.injEq]
    simp [values]

instance : Json.Legible InvocationContext where
  read := by
    intro first second same
    have values := Json.sorted_obj_inj ["permission_scope", "principal_id", "tenant_id",
      "trust_reference"] rfl rfl (by decide) same
    cases first
    cases second
    simp only [modelDump, List.map_cons, List.cons.injEq, Json.sorted_eq] at values
    rw [InvocationContext.mk.injEq]
    simp [values]

instance : Json.Legible CreateIntentionLine where
  read := by
    intro first second same
    have values := Json.sorted_obj_inj ["authority_act_id", "command_id", "intention_line_id",
      "purpose", "revision_id"] rfl rfl (by decide) same
    cases first
    cases second
    simp only [modelDump, List.map_cons, List.cons.injEq, Json.sorted_eq] at values
    rw [CreateIntentionLine.mk.injEq]
    simp [values]

/-- The hashed bytes give the whole request away. -/
theorem requestJson_inj {context other : InvocationContext} {command changed : CreateIntentionLine}
    (same : (requestJson context command none).encodeAscii =
      (requestJson other changed none).encodeAscii) : context = other ∧ command = changed := by
  have values := Json.sorted_obj_inj ["command", "context", "operation",
    "predecessor_result_id"] rfl rfl (by decide) (Json.encodeAscii_inj same)
  simp only [List.map_cons, List.cons.injEq] at values
  obtain ⟨commands, contexts, _⟩ := values
  exact ⟨Json.read _ _ contexts, Json.read _ _ commands⟩

/-- `record_type_id.rsplit(".", 1)`. -/
def rsplitDot (recordTypeId : String) : String × String :=
  let parts := recordTypeId.toList.splitOn '.'
  (String.ofList (['.'].intercalate parts.dropLast), String.ofList (parts.getLastD []))

structure OwnedRecord where
  recordId : RecordId
  recordTypeId : String
  fields : List (String × Json)
  canonicalBytes : Bytes
  fingerprint : String

/-- One row of a manifest: the record, its type and its fingerprint. -/
structure ManifestRow where
  recordId : RecordId
  recordTypeId : String
  fingerprint : String
deriving DecidableEq

instance : Model ManifestRow := ⟨fun row =>
  [("fingerprint", toJson row.fingerprint), ("record_id", toJson row.recordId),
    ("record_type_id", toJson row.recordTypeId)]⟩

structure Allocation where
  ordinal : Nat
  recordTypeId : String
  recordId : RecordId
deriving DecidableEq

instance : Model Allocation := ⟨fun allocation =>
  [("ordinal", toJson allocation.ordinal), ("record_id", toJson allocation.recordId),
    ("record_type_id", toJson allocation.recordTypeId)]⟩

structure PlanningCommittedResult where
  commandId : RecordId
  resultId : RecordId
  intentionLineId : RecordId
  revisionId : RecordId
  authorizationEvidenceId : RecordId
  commitSequence : Nat
  allocationManifest : List Allocation
  recordManifest : List ManifestRow
  batchFingerprint : String
  resultFingerprint : String
  publicationFingerprint : String
deriving DecidableEq

def OwnedRecord.manifestRow (record : OwnedRecord) : ManifestRow :=
  ⟨record.recordId, record.recordTypeId, record.fingerprint⟩

/-- The producing versions of every planning record. -/
def versions : Json :=
  .obj [("canonicalization", .int 1), ("codec", .int 1),
    ("schema", .obj [("name", .str "record"), ("namespace", .str "chiplog.planning"),
      ("version", .int 1)])]

def canonicalRecordBytes (recordId : RecordId) (recordType : String × String)
    (fields : List (String × Json)) : Bytes :=
  Json.encode (.obj
    [("fields", .obj fields), ("owner", .str "planning"), ("record_id", toJson recordId),
      ("record_type", .obj [("name", .str recordType.2), ("namespace", .str recordType.1)]),
      ("versions", versions)])

section

variable [Hashlib]

/-- `fingerprint(canonical).digest.hex()`. -/
def fingerprint (payload : Bytes) : String :=
  (sha256 (utf8 "chiplog.record.v1" ++ [0] ++ versions.encodeAscii ++ [0] ++ payload)).text

/-- `_record`. -/
def record (recordId : RecordId) (recordTypeId : String) (fields : List (String × Json)) :
    OwnedRecord :=
  let payload := canonicalRecordBytes recordId (rsplitDot recordTypeId) fields
  ⟨recordId, recordTypeId, fields, payload, fingerprint payload⟩

def requestFingerprint (context : InvocationContext) (command : CreateIntentionLine)
    (predecessor : Option RecordId) : String :=
  (sha256 (requestJson context command predecessor).encodeAscii).text

def batchFingerprint (manifest : List ManifestRow) : String :=
  (sha256 (toJson manifest).encodeAscii).text

def publicationFingerprint (requestFingerprint : String) (commitSequence : Nat)
    (manifest : List ManifestRow) : String :=
  (sha256 (Json.encodeAscii (.obj
    [("commit_sequence", toJson commitSequence), ("record_manifest", toJson manifest),
      ("request_fingerprint", toJson requestFingerprint)]))).text

/-- The five records of a create command and its result. -/
def construct (context : InvocationContext) (command : CreateIntentionLine) (commitSequence : Nat)
    (requestFingerprint : String) : List OwnedRecord × PlanningCommittedResult :=
  let evidenceId : RecordId := ⟨context.tenantId, command.commandId.value ++ ".authorization"⟩
  let resultId : RecordId := ⟨context.tenantId, command.commandId.value ++ ".result"⟩
  let allocationManifest : List Allocation :=
    [⟨0, "chiplog.planning.intention_line", command.intentionLineId⟩,
      ⟨1, "chiplog.planning.intention_line_revision", command.revisionId⟩]
  let common : List (String × Json) :=
    [("authority_act_id", toJson command.authorityActId),
      ("principal_id", toJson context.principalId), ("tenant_id", toJson context.tenantId)]
  let commandRecord := record command.commandId "chiplog.planning.planning_command"
    (common ++ [("allocation_manifest", toJson allocationManifest),
      ("operation", toJson createIntentionLine),
      ("permission_scope", toJson context.permissionScope),
      ("trust_reference", toJson context.trustReference)])
  let evidenceRecord := record evidenceId "chiplog.planning.authorization_evidence"
    (common ++ [("operation", toJson createIntentionLine),
      ("trust_reference", toJson context.trustReference)])
  let lineRecord := record command.intentionLineId "chiplog.planning.intention_line"
    (common ++ [("initial_revision_id", toJson command.revisionId)])
  let revisionRecord := record command.revisionId "chiplog.planning.intention_line_revision"
    (common ++ [("activity", .str "ACTIVE"),
      ("intention_line_id", toJson command.intentionLineId), ("ordinal", .int 0),
      ("personal_outcome", .str "OPEN"), ("purpose", toJson command.purpose),
      ("predecessor_revision_id", .null)])
  let committedRecords := [commandRecord, evidenceRecord, lineRecord, revisionRecord]
  let committedManifest := committedRecords.map OwnedRecord.manifestRow
  let resultRecord := record resultId "chiplog.planning.committed_result"
    [("allocation_manifest", toJson allocationManifest),
      ("authorization_evidence_id", toJson evidenceId), ("command_id", toJson command.commandId),
      ("commit_sequence", toJson commitSequence),
      ("batch_fingerprint", toJson (batchFingerprint committedManifest)),
      ("record_manifest", toJson committedManifest), ("tenant_id", toJson context.tenantId)]
  let records := committedRecords ++ [resultRecord]
  let recordManifest := records.map OwnedRecord.manifestRow
  (records, ⟨command.commandId, resultId, command.intentionLineId, command.revisionId, evidenceId,
    commitSequence, allocationManifest, recordManifest, batchFingerprint recordManifest,
    resultRecord.fingerprint,
    publicationFingerprint requestFingerprint commitSequence recordManifest⟩)

/-- The identities that a command takes: three of its own and two derived from its own. -/
def commandIds (command : CreateIntentionLine) : List String :=
  [command.commandId.value, command.commandId.value ++ ".authorization",
    command.intentionLineId.value, command.revisionId.value, command.commandId.value ++ ".result"]

theorem construct_ids (context : InvocationContext) (command : CreateIntentionLine)
    (commitSequence : Nat) (requestFingerprint : String) :
    (construct context command commitSequence requestFingerprint).1.map
      (fun record => record.recordId.value) = commandIds command := rfl

end

end Chiplog.Planning

namespace Chiplog.Planning

open Chiplog.Data

/-! The create command over the state of its tenant.

Trust is asked while the state is open, and the port that answers may use the repository
itself, so an answer comes with the repository as the port left it. -/

/-- The characters that `str.strip` removes. -/
def isSpace (char : Char) : Bool :=
  (9 ≤ char.toNat && char.toNat ≤ 13) || (28 ≤ char.toNat && char.toNat ≤ 32) ||
    char.toNat ∈ [0x85, 0xa0, 0x1680, 0x2028, 0x2029, 0x202f, 0x205f, 0x3000] ||
    (0x2000 ≤ char.toNat && char.toNat ≤ 0x200a)

def strip (text : String) : String :=
  String.ofList ((text.toList.dropWhile isSpace).reverse.dropWhile isSpace).reverse

inductive Disposition where
  | committed
  | replay
  | conflict
  | stale
  | denied
  | indeterminate
deriving DecidableEq

structure PlanningOutcome where
  disposition : Disposition
  result : Option PlanningCommittedResult
  reason : Option String
deriving DecidableEq

/-- What trust may answer. -/
inductive TrustDisposition where
  | valid
  | denied
  | stale
  | indeterminate
deriving DecidableEq

structure PlanningTrustDecision where
  disposition : TrustDisposition
  reason : Option String
deriving DecidableEq

/-- The outcome of an answer that is not valid. -/
def PlanningTrustDecision.refusal (decision : PlanningTrustDecision) : Option PlanningOutcome :=
  match decision.disposition with
  | .valid => none
  | .denied => some ⟨.denied, none, decision.reason⟩
  | .stale => some ⟨.stale, none, decision.reason⟩
  | .indeterminate => some ⟨.indeterminate, none, decision.reason⟩

structure PlanningPublication where
  tenantId : String
  commandId : RecordId
  requestFingerprint : String
  commitSequence : Nat
  records : List OwnedRecord
  result : PlanningCommittedResult
  recordManifest : List ManifestRow
  batchFingerprint : String

def PlanningPublication.recordIds (publication : PlanningPublication) : List String :=
  publication.records.map (fun record => record.recordId.value)

structure PlanningState where
  tenantId : String
  head : Nat
  version : Nat
  publications : List PlanningPublication
  byCommand : Dict String PlanningPublication
  recordIds : List String

def PlanningState.initial (tenantId : String) : PlanningState := ⟨tenantId, 0, 0, [], .empty, []⟩

abbrev Repository := Dict String PlanningState

/-- The state of a tenant, the initial one before its first transaction. -/
def Repository.state (repository : Repository) (tenantId : String) : PlanningState :=
  (repository.get? tenantId).getD (.initial tenantId)

/-- `setdefault`, with which a transaction opens the state. -/
def Repository.opened (repository : Repository) (tenantId : String) : Repository :=
  repository.set tenantId (Repository.state repository tenantId)

def structuralError (context : InvocationContext) (command : CreateIntentionLine)
    (predecessor : Option RecordId) : Option String :=
  let tenant := context.tenantId
  let ids := [command.commandId, command.intentionLineId, command.revisionId]
  let reference := context.trustReference
  if ∃ item ∈ ids, item.tenantId ≠ tenant then some "foreign tenant identifier"
  else if ¬ (ids.map RecordId.value).Nodup then some "planning identifiers must be distinct"
  else if reference.tenantId ≠ tenant then some "trust tenant mismatch"
  else if reference.principalId ≠ context.principalId then some "trust principal mismatch"
  else if context.permissionScope ≠ createScope then
    some "forbidden actor-operation-authority tuple"
  else if reference.contour ∉ directContours then some "wrong direct-principal source contour"
  else if predecessor ≠ none then some "CREATE_INTENTION_LINE forbids a predecessor"
  else if command.purpose = "" ∨ command.purpose ≠ strip command.purpose then
    some "purpose must be nonblank normalized text"
  else if strip command.authorityActId = "" then some "authority act is required"
  else if "" ∈ [reference.credentialHead, reference.sessionHead, reference.sourceHead,
      reference.trustHead, reference.materializationHead] then
    some "complete authority heads are required"
  else none

/-- An answer of the trust port, and the repository as it was then. -/
structure Revalidation where
  decision : PlanningTrustDecision
  repository : Repository

section

variable [Hashlib]

/-- The state after a publication. -/
def PlanningState.publish (state : PlanningState) (command : CreateIntentionLine)
    (publication : PlanningPublication) (observedVersion : Nat) : PlanningState where
  tenantId := state.tenantId
  head := publication.commitSequence
  version := observedVersion + 1
  publications := state.publications ++ [publication]
  byCommand := state.byCommand.set command.commandId.value publication
  recordIds := state.recordIds ++ publication.recordIds

/-- `_PlanningUseCase.execute`: the outcome and the repository after it. -/
def execute (repository : Repository) (context : InvocationContext)
    (command : CreateIntentionLine) (trust : Revalidation) : PlanningOutcome × Repository :=
  match structuralError context command none with
  | some reason => (⟨.denied, none, some reason⟩, repository)
  | none =>
      let request := requestFingerprint context command none
      let repository := Repository.opened repository context.tenantId
      let state := Repository.state repository context.tenantId
      match state.byCommand.get? command.commandId.value with
      | some prior =>
          if prior.requestFingerprint ≠ request then
            (⟨.conflict, none, some "command identity reused with changed bytes"⟩, repository)
          else
            match trust.decision.refusal with
            | some outcome => (outcome, trust.repository)
            | none => (⟨.replay, some prior.result, none⟩, trust.repository)
      | none =>
          match trust.decision.refusal with
          | some outcome => (outcome, trust.repository)
          | none =>
              let current := Repository.state trust.repository context.tenantId
              if current.head ≠ state.head ∨ current.version ≠ state.version then
                (⟨.stale, none, some "planning head changed during revalidation"⟩,
                  trust.repository)
              else
                let (records, result) := construct context command (state.head + 1) request
                let recordValues := records.map (fun record => record.recordId.value)
                if ¬ recordValues.Nodup ∨ ∃ value ∈ recordValues, value ∈ current.recordIds then
                  (⟨.conflict, none, some "record identity collision"⟩, trust.repository)
                else
                  let publication : PlanningPublication :=
                    ⟨current.tenantId, command.commandId, request, state.head + 1, records,
                      result, result.recordManifest, result.batchFingerprint⟩
                  (⟨.committed, some result, none⟩,
                    trust.repository.set context.tenantId
                      (current.publish command publication state.version))

/-- Repositories after any calls, where the trust port may make calls of its own. -/
inductive Calls : Repository → Repository → Prop
  | none (start : Repository) : Calls start start
  | execute {start repository : Repository} (before : Calls start repository)
      (context : InvocationContext) (command : CreateIntentionLine) (trust : Revalidation)
      (during : Calls (Repository.opened repository context.tenantId) trust.repository) :
      Calls start (Planning.execute repository context command trust).2

end

end Chiplog.Planning
