import Chiplog.Data.Checked
import Chiplog.Data.JsonAscii
import Chiplog.Planning.Publications

namespace Chiplog.Projections

open Chiplog.Data Chiplog.Planning

/-! The rebuildable planning projection.

The reader takes nothing from the writer but the records: it decodes the five records of every
publication, rebuilds the request and each manifest from the decoded fields, and compares. -/

def projectionReducerVersion : Int := 1
def projectionSchemaVersion : Int := 1

def planningRecordTypes : List String :=
  ["chiplog.planning.authorization_evidence", "chiplog.planning.committed_result",
    "chiplog.planning.intention_line", "chiplog.planning.intention_line_revision",
    "chiplog.planning.planning_command"]

/-- `json.loads`, and `str` of a decoded value. -/
structure ProjectionReader where
  loads : Bytes → Option Json
  str : Json → String

structure IntentionLineView where
  tenantId : String
  intentionLineId : RecordId
  revisionId : RecordId
  principalId : String
  purpose : String
  activity : String
  personalOutcome : String
  commitSequence : Nat
deriving DecidableEq

structure ProjectionCheckpoint where
  tenantId : String
  logIdentity : String
  inclusiveFrontier : Int
  reducerVersion : Int
  schemaVersion : Int
  sourceDigest : String
  rows : List IntentionLineView
deriving DecidableEq

inductive ProjectionError where
  | discontiguous
  | unverifiedPublication
  | unverified
  | duplicateLine
  | unverifiedRevision
deriving DecidableEq

abbrev Rows := Dict String IntentionLineView

def logIdentity (tenantId : String) : String := "planning:" ++ tenantId

/-- `fields.get(name)`. -/
def get (fields : List (String × Json)) (name : String) : Json := (fields.lookup name).getD .null

section

variable [Hashlib]

def sourceDigest (publications : List PlanningPublication) : String :=
  (sha256 (Json.encodeAscii (.arr (publications.map (fun item => .obj
    [("commit_sequence", toJson item.commitSequence),
      ("record_fingerprints", toJson (item.records.map OwnedRecord.fingerprint)),
      ("request_fingerprint", toJson item.requestFingerprint)]))))).text

/-- What the envelope of a record says beside its fields. -/
def expectedMetadata (record : OwnedRecord) : List (String × Json) :=
  let (namespace_, name) := rsplitDot record.recordTypeId
  [("owner", .str "planning"), ("record_id", toJson record.recordId),
    ("record_type", .obj [("name", .str name), ("namespace", .str namespace_)]),
    ("versions", versions)]

/-- `_decode_record`. -/
def decodeRecord (reader : ProjectionReader) (record : OwnedRecord) :
    Option (List (String × Json)) :=
  if record.recordTypeId ∉ planningRecordTypes ∨
      fingerprint record.canonicalBytes ≠ record.fingerprint then none
  else
    match reader.loads record.canonicalBytes with
    | some (.obj envelope) =>
        match envelope.lookup "fields" with
        | some (.obj fields) =>
            if ∃ expected ∈ expectedMetadata record,
                ¬ Json.Same (get envelope expected.1) expected.2 then none
            else some fields
        | _ => none
    | _ => none

def expectedTypes : List String :=
  ["chiplog.planning.planning_command", "chiplog.planning.authorization_evidence",
    "chiplog.planning.intention_line", "chiplog.planning.intention_line_revision",
    "chiplog.planning.committed_result"]

/-- What the decoded fields of a publication are compared with. -/
structure Decoded where
  command : List (String × Json)
  evidence : List (String × Json)
  line : List (String × Json)
  revision : List (String × Json)
  result : List (String × Json)

/-- The five records of a publication. -/
structure Batch where
  command : OwnedRecord
  evidence : OwnedRecord
  line : OwnedRecord
  revision : OwnedRecord
  result : OwnedRecord

def Batch.committed (batch : Batch) : List OwnedRecord :=
  [batch.command, batch.evidence, batch.line, batch.revision]

def Batch.records (batch : Batch) : List OwnedRecord := batch.committed ++ [batch.result]

/-- The allocations that the records stand for. -/
def Batch.allocations (batch : Batch) : List Allocation :=
  [⟨0, batch.line.recordTypeId, batch.line.recordId⟩,
    ⟨1, batch.revision.recordTypeId, batch.revision.recordId⟩]

/-- The fields that three of the records have in common. -/
def Decoded.common (decoded : Decoded) (tenantId : String) : List (String × Json) :=
  [("authority_act_id", get decoded.command "authority_act_id"),
    ("principal_id", get decoded.command "principal_id"), ("tenant_id", toJson tenantId)]

/-- The request, rebuilt from the decoded fields. -/
def Decoded.request (decoded : Decoded) (batch : Batch) (tenantId : String) : Json :=
  .obj
    [("command", .obj
        [("authority_act_id", get decoded.command "authority_act_id"),
          ("command_id", toJson batch.command.recordId),
          ("intention_line_id", toJson batch.line.recordId),
          ("purpose", get decoded.revision "purpose"),
          ("revision_id", toJson batch.revision.recordId)]),
      ("context", .obj
        [("permission_scope", get decoded.command "permission_scope"),
          ("principal_id", get decoded.command "principal_id"), ("tenant_id", toJson tenantId),
          ("trust_reference", get decoded.command "trust_reference")]),
      ("operation", toJson createIntentionLine), ("predecessor_result_id", .null)]

/-- The decoded fields are those that the other records and the publication ask for. -/
structure FieldsAgree (publication : PlanningPublication) (batch : Batch) (decoded : Decoded) :
    Prop where
  command : Json.Same (.obj decoded.command) (.obj (decoded.common publication.tenantId ++
    [("allocation_manifest", toJson batch.allocations),
      ("operation", toJson createIntentionLine), ("permission_scope", toJson createScope),
      ("trust_reference", get decoded.command "trust_reference")]))
  result : Json.Same (.obj decoded.result) (.obj
    [("allocation_manifest", toJson batch.allocations),
      ("authorization_evidence_id", toJson batch.evidence.recordId),
      ("batch_fingerprint", toJson
        (batchFingerprint (batch.committed.map OwnedRecord.manifestRow))),
      ("command_id", toJson batch.command.recordId),
      ("commit_sequence", toJson publication.commitSequence),
      ("record_manifest", toJson (batch.committed.map OwnedRecord.manifestRow)),
      ("tenant_id", toJson publication.tenantId)])
  evidence : Json.Same (.obj decoded.evidence) (.obj (decoded.common publication.tenantId ++
    [("operation", toJson createIntentionLine),
      ("trust_reference", get decoded.command "trust_reference")]))
  initial : Json.Same (get decoded.line "initial_revision_id") (toJson batch.revision.recordId)
  line : Json.Same (.obj decoded.line) (.obj (decoded.common publication.tenantId ++
    [("initial_revision_id", toJson batch.revision.recordId)]))
  revision : Json.Same (.obj decoded.revision) (.obj (decoded.common publication.tenantId ++
    [("activity", .str "ACTIVE"), ("intention_line_id", toJson batch.line.recordId),
      ("ordinal", .int 0), ("personal_outcome", .str "OPEN"),
      ("predecessor_revision_id", .null), ("purpose", get decoded.revision "purpose")]))
  request : publication.requestFingerprint =
    (sha256 (decoded.request batch publication.tenantId).encodeAscii).text

instance (publication : PlanningPublication) (batch : Batch) (decoded : Decoded) :
    Decidable (FieldsAgree publication batch decoded) :=
  decidable_of_iff (_ ∧ _ ∧ _ ∧ _ ∧ _ ∧ _ ∧ _)
    ⟨fun ⟨command, result, evidence, initial, line, revision, request⟩ =>
      ⟨command, result, evidence, initial, line, revision, request⟩,
    fun agree => ⟨agree.command, agree.result, agree.evidence, agree.initial, agree.line,
      agree.revision, agree.request⟩⟩

/-- The publication and its result name the five records. -/
def Bound (publication : PlanningPublication) (batch : Batch) : Prop :=
  let manifest := batch.records.map OwnedRecord.manifestRow
  let result := publication.result
  publication.commandId = batch.command.recordId ∧
    batch.command.recordId.value ++ ".authorization" = batch.evidence.recordId.value ∧
    batch.command.recordId.value ++ ".result" = batch.result.recordId.value ∧
    publication.recordManifest = manifest ∧ result.recordManifest = manifest ∧
    publication.batchFingerprint = batchFingerprint manifest ∧
    result.batchFingerprint = batchFingerprint manifest ∧
    result.commandId = batch.command.recordId ∧ result.resultId = batch.result.recordId ∧
    result.intentionLineId = batch.line.recordId ∧ result.revisionId = batch.revision.recordId ∧
    result.authorizationEvidenceId = batch.evidence.recordId ∧
    result.commitSequence = publication.commitSequence ∧
    result.allocationManifest =
      [⟨0, "chiplog.planning.intention_line", batch.line.recordId⟩,
        ⟨1, "chiplog.planning.intention_line_revision", batch.revision.recordId⟩] ∧
    result.resultFingerprint = batch.result.fingerprint ∧
    result.publicationFingerprint =
      publicationFingerprint publication.requestFingerprint publication.commitSequence manifest

instance (publication : PlanningPublication) (batch : Batch) :
    Decidable (Bound publication batch) := inferInstanceAs (Decidable (_ ∧ _))

/-- `_verify_publication`. -/
def verifyPublication (reader : ProjectionReader) (publication : PlanningPublication) : Bool :=
  match publication.records with
  | [command, evidence, line, revision, result] =>
      if publication.records.map OwnedRecord.recordTypeId ≠ expectedTypes ∨
          ∃ record ∈ publication.records, record.recordId.tenantId ≠ publication.tenantId then false
      else
        match decodeRecord reader command, decodeRecord reader evidence, decodeRecord reader line,
            decodeRecord reader revision, decodeRecord reader result with
        | some commandFields, some evidenceFields, some lineFields, some revisionFields,
            some resultFields =>
            let batch : Batch := ⟨command, evidence, line, revision, result⟩
            decide (Bound publication batch ∧ FieldsAgree publication batch
              ⟨commandFields, evidenceFields, lineFields, revisionFields, resultFields⟩)
        | _, _, _, _, _ => false
  | _ => false

/-- `_reduce`. -/
def reduce (reader : ProjectionReader) (rows : Rows) (publication : PlanningPublication) :
    Except ProjectionError Rows :=
  match publication.records with
  | [_, _, line, revision, _] => do
      raiseIf (verifyPublication reader publication = false) .unverified
      raiseIf (rows.get? line.recordId.value ≠ none) .duplicateLine
      match decodeRecord reader revision with
      | none => .error .unverifiedRevision
      | some fields => .ok (rows.set line.recordId.value
          ⟨publication.tenantId, line.recordId, revision.recordId,
            reader.str (get fields "principal_id"), reader.str (get fields "purpose"),
            reader.str (get fields "activity"), reader.str (get fields "personal_outcome"),
            publication.commitSequence⟩)
  | _ => .error .unverified

/-- The loop over the publications that checks the stream. -/
def checkStream (reader : ProjectionReader) (tenantId : String)
    (verifiedTenantFrontier : Option Int) :
    Nat → Nat → List PlanningPublication → Except ProjectionError Unit
  | _, _, [] => .ok ()
  | index, previous, publication :: rest => do
      let sequenceValid : Bool :=
        match verifiedTenantFrontier with
        | none => publication.commitSequence = index
        | some frontier =>
            previous < publication.commitSequence ∧ publication.commitSequence ≤ frontier
      raiseIf (publication.tenantId ≠ tenantId ∨ sequenceValid = false) .discontiguous
      raiseIf (verifyPublication reader publication = false) .unverifiedPublication
      checkStream reader tenantId verifiedTenantFrontier (index + 1) publication.commitSequence rest

structure PlanningProjection where
  tenantId : String
  rows : Rows
  checkpoint : ProjectionCheckpoint

/-- The dictionary of the rows of a checkpoint. -/
def candidateRows (rows : List IntentionLineView) : Rows :=
  Dict.ofRows (fun row => row.intentionLineId.value) id rows

/-- The rows and the frontier of a checkpoint that holds. -/
def accepted (reader : ProjectionReader) (tenantId : String)
    (publications : List PlanningPublication) (checkpoint : ProjectionCheckpoint) :
    Except ProjectionError (Option (Rows × Nat)) :=
  if 0 ≤ checkpoint.inclusiveFrontier ∧
      checkpoint.inclusiveFrontier ≤ publications.length then
    let prefix_ := publications.take checkpoint.inclusiveFrontier.toNat
    if checkpoint.tenantId = tenantId ∧ checkpoint.logIdentity = logIdentity tenantId ∧
        checkpoint.reducerVersion = projectionReducerVersion ∧
        checkpoint.schemaVersion = projectionSchemaVersion ∧
        checkpoint.sourceDigest = sourceDigest prefix_ then do
      let candidate := candidateRows checkpoint.rows
      let rebuilt ← prefix_.foldlM (reduce reader) .empty
      -- dictionaries are equal when their entries are, in any order
      if candidate.entries.Perm rebuilt.entries then
        .ok (some (candidate, checkpoint.inclusiveFrontier.toNat))
      else .ok none
    else .ok none
  else .ok none

/-- `tuple(rows[key] for key in sorted(rows))`. -/
def sortedRows (rows : Rows) : List IntentionLineView :=
  ((rows.entries.map Prod.fst).insertionSort (· ≤ ·)).filterMap rows.get?

/-- `_PlanningProjectionRebuilder.rebuild` over the committed publications of a tenant. -/
def rebuild (reader : ProjectionReader) (tenantId : String)
    (publications : List PlanningPublication) (checkpoint : Option ProjectionCheckpoint)
    (verifiedTenantFrontier : Option Int) : Except ProjectionError PlanningProjection := do
  checkStream reader tenantId verifiedTenantFrontier 1 0 publications
  let found ←
    match checkpoint with
    | none => .ok none
    | some checkpoint => accepted reader tenantId publications checkpoint
  let (rows, frontier) := found.getD (.empty, 0)
  let rows ← (publications.drop frontier).foldlM (reduce reader) rows
  .ok ⟨tenantId, rows, ⟨tenantId, logIdentity tenantId, publications.length,
    projectionReducerVersion, projectionSchemaVersion, sourceDigest publications,
    sortedRows rows⟩⟩

end

end Chiplog.Projections
