import Chiplog.Data.TaggedReading
import Chiplog.Effects.Obligations

namespace Chiplog.Effects

open Chiplog.Data

/-! The effects reader.

`effectsSnapshot` rebuilds the owner's store from stored rows and recomputes every
commitment on the way. -/

inductive Owner where
  | agentLoop
  | effects
  | planning
  | brokerIngress
  | brokerDispatch
  | conversation
  | brokerScheduler
deriving DecidableEq

structure OwnerRecordBytes where
  owner : Owner
  recordKind : Identity
  recordId : Identity
  schemaId : Identity
  canonicalBytes : NonemptyBytes
  fingerprint : Digest
deriving DecidableEq

structure StoredEffectRow where
  commitSequence : Int
  publicationOrdinal : Int
  batchRecordIds : List String
  record : OwnerRecordBytes
deriving DecidableEq

/-- The part of the broker's read manifest that the reader compares. -/
structure AuthoritativeReadManifest where
  tenantId : Identity
  tenantFrontier : UInt64
  expectedMaterializationCommitment : Digest
deriving DecidableEq

structure EffectsObservedCut where
  tenantId : Identity
  tenantFrontier : Int
  materializationCommitment : String
  rows : List StoredEffectRow
  current : CurrentEffectInputs
  expected : AuthoritativeReadManifest
deriving DecidableEq

/-- A `ValueError` of the reader itself, or one that a decoder raised. -/
inductive Fault where
  | value (reason : String)
  | decoding
deriving DecidableEq

/-- Its text names the operation, the tenant and the row being read. -/
structure EffectsIntegrityError where
  tenantId : Identity
  recordId : String
  fault : Fault
deriving DecidableEq

def reject (condition : Prop) [Decidable condition] (reason : String) : Except Fault Unit :=
  raiseIf condition (.value reason)

theorem reject_ok {condition : Prop} [Decidable condition] {reason : String} {value : Unit} :
    reject condition reason = .ok value ↔ ¬ condition :=
  raiseIf_ok

theorem reject_neg {condition : Prop} [Decidable condition] {reason : String}
    (fails : ¬ condition) : reject condition reason = .ok () :=
  raiseIf_neg fails

def decoded (value : Option α) : Except Fault α :=
  value.elim (.error .decoding) .ok

theorem decoded_ok {value : Option α} {result : α} :
    decoded value = .ok result ↔ value = some result := by
  cases value <;> simp [decoded]

/-- `json.loads` and the model validators for stored bytes. -/
structure EffectsCodec where
  loads : Bytes → Option Json
  validateCommand : Bytes → Option EffectCommand
  validateDenial : Bytes → Option BeforeSendDispositionV2Command
  validateRecord : Bytes → Option EffectRecord

inductive RetainedCommand where
  | transition (command : EffectCommand)
  | denial (command : BeforeSendDispositionV2Command)

def RetainedCommand.source : RetainedCommand → RecordSource
  | .transition command => command.source
  | .denial command => command.source

def EffectCall.retained : EffectCall → RetainedCommand
  | .transition command _ => .transition command
  | .denial command _ => .denial command

def denialSchema : String := "chiplog.effects.before-send-command.v2"

/-- The model selected by the stored command's own schema marker. -/
def selectCommand (codec : EffectsCodec) (raw : Bytes) : Except Fault RetainedCommand := do
  match ← decoded (codec.loads raw) with
  | .obj object =>
      match object.lookup "schema_id" with
      | none => return .transition (← decoded (codec.validateCommand raw))
      | some (.str schema) =>
          if schema = denialSchema then return .denial (← decoded (codec.validateDenial raw))
          else .error (.value "unknown effects retained command schema")
      | some _ => .error (.value "unknown effects retained command schema")
  | _ => .error (.value "effects retained command is not an object")

def decodeRetainedCommand (codec : EffectsCodec) (raw : NonemptyBytes) :
    Except Fault RetainedCommand := do
  let command ← selectCommand codec raw.items
  reject (command.source.canonicalBytes ≠ raw) "noncanonical retained effects command"
  return command

/-- Equality of two snapshots outside `state` and `attempt`. -/
def SameHistory (left right : EffectSnapshot) : Prop :=
  left.intent = right.intent ∧ left.authorizations = right.authorizations ∧
    left.transmissions = right.transmissions ∧ left.evidence = right.evidence ∧
    left.unresolvedObligations = right.unresolvedObligations ∧
    left.evidenceRecords = right.evidenceRecords ∧
    left.recoveryObligation = right.recoveryObligation

instance (left right : EffectSnapshot) : Decidable (SameHistory left right) :=
  inferInstanceAs (Decidable (_ ∧ _ ∧ _ ∧ _ ∧ _ ∧ _ ∧ _))

def validateRetirement (command : BeforeSendDispositionV2Command) (previous : EffectSnapshot) :
    Except Fault Unit :=
  if previous.state = .dispatchAuthorized then
    reject (previous.authorizations = [] ∨
        command.authorizationToRetire ≠ previous.authorizations.getLast?)
      "denying record retires another authorization"
  else
    reject (command.authorizationToRetire ≠ none)
      "denying record has no current authorization to retire"

/-- Mechanical source/output links only; selected issuer provenance is separate. -/
def validateDenialPredecessor (codec : EffectsCodec) (record : EffectRecord)
    (previous : Option EffectRecord) : Except Fault Unit := do
  match ← decodeRetainedCommand codec record.sourceCommand with
  | .transition _ => return
  | .denial command =>
      match previous with
      | none => .error (.value
          "denying record differs from exact predecessor attempt or retained history")
      | some previous =>
          reject (record.predecessor ≠ some previous.record ∨
              command.expectedAttempt ≠ previous.snapshot.attempt ∨
              ¬ SameHistory record.snapshot previous.snapshot)
            "denying record differs from exact predecessor attempt or retained history"
          validateRetirement command previous.snapshot

def recordSchema : Identity := ⟨"chiplog.effects.record.v1", by decide⟩

/-- What the record's own reference commits to. -/
def recordBody (record : EffectRecord) : Json :=
  .obj [("command", toJson record.command), ("predecessor", toJson record.predecessor),
    ("kind", toJson record.kind), ("snapshot", toJson record.snapshot),
    ("source_command", .str (hex record.sourceCommand.items))]

/-- A denying source command agrees with the disposition that retains it. -/
def requireDisposition (record : EffectRecord) : RetainedCommand → Except Fault Unit
  | .transition _ => .ok ()
  | .denial command =>
      let original := record.snapshot.intent
      reject (record.kind ≠ .beforeSendDisposition ∨ record.predecessor = none ∨
          record.snapshot.state ≠ command.authority.decision.kind.state ∨
          command.intent ≠ original.exactHead ∨ command.authority.intent ≠ original.exactHead ∨
          command.expectedAttempt ≠ command.authority.expectedAttempt ∨
          command.authority.tenantId ≠ original.authority.tenantId ∨
          command.authority.principalId ≠ original.authority.principalId)
        "denying source command differs from retained disposition or subject"

section Reader

variable [Hashlib]

def decodeRow (codec : EffectsCodec) (raw : OwnerRecordBytes) (tenant : Identity) :
    Except Fault EffectRecord := do
  reject (raw.owner ≠ .effects ∨ raw.schemaId ≠ recordSchema) "unknown effects owner/schema"
  let record ← decoded (codec.validateRecord raw.canonicalBytes.items)
  reject (canonicalBytes record ≠ raw.canonicalBytes ∨
      sha256 raw.canonicalBytes.items ≠ raw.fingerprint ∨ record.record.head ≠ raw.recordId ∨
      raw.recordKind.text ≠ "effects." ++ record.kind.wire ∨
      record.snapshot.intent.authority.tenantId ≠ tenant)
    "effects physical/logical identity or canonical bytes mismatch"
  let command ← decodeRetainedCommand codec record.sourceCommand
  reject (command.source.canonicalBytes ≠ record.sourceCommand ∨
      command.source.identity ≠ record.command)
    "effects original command bytes or identity mismatch"
  requireDisposition record command
  let digest := digestOf (recordBody record)
  let subject := Identity.after "effects/" record.command.commandId
  reject (record.record.subjectId ≠ subject ∨
      record.record.head ≠ subject.before ("/" ++ digest.text) ∨
      record.record.fingerprint ≠ digest.identity)
    "effects logical record commitment mismatch"
  return record

/-- The loop state of `effects_snapshot`. -/
structure ReadState where
  records : List EffectRecord
  latest : Dict Identity EffectRecord
  recordIds : List Identity
  commandIds : List Identity
  manifests : Dict Int (List String)
  previousOrder : Int × Int

def ReadState.start : ReadState := ⟨[], Dict.empty, [], [], Dict.empty, (-1, -1)⟩

def requirePhysical (frontier : Int) (state : ReadState) (row : StoredEffectRow) :
    Except Fault Unit :=
  reject (¬ (1 ≤ row.commitSequence ∧ row.commitSequence ≤ frontier) ∨
      ¬ (0 ≤ row.publicationOrdinal ∧ row.publicationOrdinal < row.batchRecordIds.length) ∨
      ¬ row.batchRecordIds.Nodup ∨ "" ∈ row.batchRecordIds ∨
      row.batchRecordIds[row.publicationOrdinal.toNat]? ≠ some row.record.recordId.text ∨
      (row.commitSequence < state.previousOrder.1 ∨
        row.commitSequence = state.previousOrder.1 ∧
          row.publicationOrdinal ≤ state.previousOrder.2) ∨
      ∃ manifest ∈ state.manifests.get? row.commitSequence, manifest ≠ row.batchRecordIds)
    "effects physical publication order or membership mismatch"

def requireChain (state : ReadState) (row : StoredEffectRow) (record : EffectRecord)
    (predecessor : Option EffectRecord) : Except Fault Unit :=
  reject (row.record.recordId ∈ state.recordIds ∨ record.command.commandId ∈ state.commandIds ∨
      (record.command.expectedTenantHead : Int) ≠ row.commitSequence - 1 ∨
      record.predecessor ≠ predecessor.map (·.record) ∨
      (∃ previous ∈ predecessor, previous.snapshot.intent ≠ record.snapshot.intent) ∨
      predecessor = none ∧ record.kind ∉ acceptingKinds)
    "effects duplicate, omitted predecessor or rival intent chain"

def ReadState.push (state : ReadState) (row : StoredEffectRow) (record : EffectRecord) :
    ReadState where
  records := state.records ++ [record]
  latest := state.latest.set record.intentId record
  recordIds := row.record.recordId :: state.recordIds
  commandIds := record.command.commandId :: state.commandIds
  manifests := state.manifests.set row.commitSequence row.batchRecordIds
  previousOrder := (row.commitSequence, row.publicationOrdinal)

/-- One round of the loop over the rows. -/
def readRow (codec : EffectsCodec) (tenant : Identity) (frontier : Int) (state : ReadState)
    (row : StoredEffectRow) : Except Fault ReadState := do
  requirePhysical frontier state row
  let record ← decodeRow codec row.record tenant
  let predecessor := state.latest.get? record.intentId
  requireChain state row record predecessor
  validateDenialPredecessor codec record predecessor
  return state.push row record

/-- A fault is reported with the identity of the row that was being read. -/
def located (tenantId : Identity) (recordId : String) (result : Except Fault α) :
    Except EffectsIntegrityError α :=
  result.mapError (fun fault => ⟨tenantId, recordId, fault⟩)

def readRows (codec : EffectsCodec) (tenant : Identity) (frontier : Int) :
    ReadState → List StoredEffectRow → Except EffectsIntegrityError ReadState :=
  List.foldlM (fun state row =>
    located tenant row.record.recordId.text (readRow codec tenant frontier state row))

def requireHeader (tenantId : Identity) (cut : EffectsObservedCut) : Except Fault Unit := do
  reject (cut.tenantId ≠ tenantId) "effects cut differs from bound tenant"
  reject (cut.tenantFrontier < 0) "invalid effects tenant frontier"
  reject (cut.expected.tenantId ≠ cut.tenantId ∨
      (cut.expected.tenantFrontier.toNat : Int) ≠ cut.tenantFrontier ∨
      cut.expected.expectedMaterializationCommitment.text ≠ cut.materializationCommitment ∨
      (cut.current.storeFrontier : Int) ≠ cut.tenantFrontier ∨
      cut.current.authority.tenantId ≠ cut.tenantId)
    "effects observation and context differ from exact cut"

def effectsSnapshot (codec : EffectsCodec) (tenantId : Identity) (cut : EffectsObservedCut) :
    Except EffectsIntegrityError EffectStoreSnapshot := do
  located cut.tenantId "snapshot" (requireHeader tenantId cut)
  let state ← readRows codec cut.tenantId cut.tenantFrontier ReadState.start cut.rows
  return { tenantId := cut.tenantId, tenantHead := cut.tenantFrontier.toNat, records := state.records }

/-- The owner bytes under which a prepared record is stored. -/
def EffectRecord.stored (record : EffectRecord) : OwnerRecordBytes where
  owner := .effects
  recordKind := .after "effects." ⟨record.kind.wire, by cases record.kind <;> decide⟩
  recordId := record.record.head
  schemaId := recordSchema
  canonicalBytes := canonicalBytes record
  fingerprint := sha256 (canonicalBytes record).items

end Reader

end Chiplog.Effects

namespace Chiplog.Effects

open Chiplog.Data

/-! Writer and reader of the effects stream agree.

Rows that the owner's runs store are read back as the prepared records.  In the other
direction, whatever rows the reader accepts form one unbroken chain per intent. -/

theorem located_ok {tenantId : Identity} {recordId : String} {result : Except Fault α} {value : α} :
    located tenantId recordId result = .ok value ↔ result = .ok value := by
  cases result <;> simp [located, Except.mapError]

/-- A record that the reader accepts at the start of a chain. -/
def OpensChain (record : EffectRecord) : Prop :=
  record.predecessor = none ∧ record.kind ∈ acceptingKinds

/-- A record that the reader accepts after `previous`. -/
def ContinuesChain (previous record : EffectRecord) : Prop :=
  record.predecessor = some previous.record ∧ record.snapshot.intent = previous.snapshot.intent

/-- The loop's dictionaries describe the records read so far. -/
structure Indexed (state : ReadState) : Prop where
  latest : ∀ intentId,
    state.latest.get? intentId = latest? EffectRecord.intentId state.records intentId
  commandIds : ∀ record ∈ state.records, record.command.commandId ∈ state.commandIds

theorem Indexed.push {state : ReadState} (indexed : Indexed state) (row : StoredEffectRow)
    (record : EffectRecord) : Indexed (state.push row record) := by
  refine ⟨fun intentId => ?_, fun other member => ?_⟩
  · simp only [ReadState.push, Dict.get?_set]
    by_cases same : intentId = record.intentId
    · rw [if_pos same, same, latest?_append_self]
    · rw [if_neg same, indexed.latest, latest?_append_other _ (Ne.symm same)]
  · rcases List.mem_append.mp member with earlier | final
    · exact List.mem_cons_of_mem _ (indexed.commandIds other earlier)
    · obtain rfl := List.mem_singleton.mp final
      exact List.mem_cons_self

theorem requireChain_linked {state : ReadState} {row : StoredEffectRow} {record : EffectRecord}
    (indexed : Indexed state)
    (linked : Linked OpensChain ContinuesChain
      (streamOf EffectRecord.intentId state.records record.intentId))
    (accepted : requireChain state row record (state.latest.get? record.intentId) = .ok ()) :
    Linked OpensChain ContinuesChain
      (streamOf EffectRecord.intentId state.records record.intentId ++ [record]) := by
  rw [indexed.latest] at accepted
  simp only [requireChain, reject_ok] at accepted
  push Not at accepted
  obtain ⟨_, _, _, predecessor, intent, accepting⟩ := accepted
  cases found : latest? EffectRecord.intentId state.records record.intentId with
  | none =>
      rw [List.getLast?_eq_none_iff.mp found]
      exact .singleton ⟨by rw [predecessor, found]; rfl, accepting found⟩
  | some previous =>
      refine linked.snoc found ⟨by rw [predecessor, found]; rfl, ?_⟩
      exact (intent previous (by rw [found]; rfl)).symm

/-- Canonical JSON text decodes to the object it was dumped from. -/
def EffectsCodec.Loads (codec : EffectsCodec) (raw : Bytes) (dump : List (String × Json)) : Prop :=
  ∃ object, codec.loads raw = some (.obj object) ∧ ∀ key, object.lookup key = dump.lookup key

/-- The canonical bytes of a call's command decode to the command. -/
def EffectsCodec.DecodesCall (codec : EffectsCodec) : EffectCall → Prop
  | .transition command _ =>
      codec.Loads (canonicalBytes command).items (modelDump command) ∧
        codec.validateCommand (canonicalBytes command).items = some command
  | .denial command _ =>
      codec.Loads (canonicalBytes command).items (modelDump command) ∧
        codec.validateDenial (canonicalBytes command).items = some command

def EffectsCodec.DecodesRecord (codec : EffectsCodec) (record : EffectRecord) : Prop :=
  codec.validateRecord (canonicalBytes record).items = some record

/-- The first effects commands carry no schema marker. -/
theorem EffectCommand.schema_absent (command : EffectCommand) :
    (modelDump command).lookup "schema_id" = none := by
  cases command <;> rfl

theorem BeforeSendDispositionV2Command.schema_present (command : BeforeSendDispositionV2Command) :
    (modelDump command).lookup "schema_id" = some (.str denialSchema) := rfl

theorem selectCommand_canonical {codec : EffectsCodec} {call : EffectCall} (decodes : codec.DecodesCall call) :
    selectCommand codec call.source.canonicalBytes.items = .ok call.retained := by
  cases call with
  | transition command current =>
      obtain ⟨⟨object, loads, same⟩, validates⟩ := decodes
      have absent : object.lookup "schema_id" = none := (same _).trans command.schema_absent
      rw [EffectCall.source_transition]
      simp only [selectCommand, EffectCommand.source, loads, decoded, Option.elim, ok_bind, absent,
        validates]
      rfl
  | denial command current =>
      obtain ⟨⟨object, loads, same⟩, validates⟩ := decodes
      have present : object.lookup "schema_id" = some (.str denialSchema) :=
        (same _).trans command.schema_present
      rw [EffectCall.source_denial]
      simp only [selectCommand, BeforeSendDispositionV2Command.source, loads, decoded, Option.elim,
        ok_bind, present, validates, if_pos]
      rfl

theorem retained_source (call : EffectCall) : call.retained.source = call.source := by
  cases call <;> rfl

theorem decodeRetainedCommand_canonical {codec : EffectsCodec}
    {call : EffectCall} (decodes : codec.DecodesCall call) :
    decodeRetainedCommand codec call.source.canonicalBytes = .ok call.retained := by
  have canonical : ¬ call.retained.source.canonicalBytes ≠ call.source.canonicalBytes := by
    rw [retained_source]
    exact not_not.mpr rfl
  simp only [decodeRetainedCommand, selectCommand_canonical decodes, ok_bind, reject_neg canonical]
  rfl

theorem requireRetirement_validates {command : BeforeSendDispositionV2Command}
    {snapshot : EffectSnapshot} (accepted : requireRetirement command snapshot = .ok ()) :
    validateRetirement command snapshot = .ok () := by
  unfold requireRetirement at accepted
  unfold validateRetirement
  split at accepted
  · rename_i authorized
    rw [deny_ok] at accepted
    push Not at accepted
    rw [if_pos authorized]
    refine reject_neg ?_
    rintro (empty | another)
    · exact accepted.1 (by rw [empty]; rfl)
    · exact another accepted.2.1
  · rename_i unauthorized
    rw [if_neg unauthorized]
    exact reject_neg (deny_ok.mp accepted)

/-- Before a transmission there is nothing to recover. -/
theorem Obliged.absent {snapshot : EffectSnapshot} {obligation : Option EffectRecoveryObligation}
    (obliged : Obliged snapshot obligation) (unsent : snapshot.state ∈ beforeSendStates) :
    obligation = none := by
  match obligation with
  | none => rfl
  | some (.opened opening) => exact absurd unsent (ambiguous_beforeSend obliged.1)
  | some (.closed closed) =>
      have closing := closureOutcome_closing closed.outcome
      rw [obliged.outcome] at closing
      exact absurd unsent (closing_beforeSend closing)

/-- The reader's state after the rows of `store`. -/
structure Mirrors (state : ReadState) (store : EffectStoreSnapshot) : Prop where
  records : state.records = store.records
  indexed : Indexed state
  recordIds : ∀ identity ∈ state.recordIds, ∃ record ∈ store.records, record.record.head = identity
  commandIds : ∀ identity ∈ state.commandIds,
    ∃ record ∈ store.records, record.command.commandId = identity
  order : state.previousOrder.1 ≤ store.tenantHead
  manifests : ∀ sequence manifest, state.manifests.get? sequence = some manifest →
    sequence ≤ store.tenantHead

theorem Mirrors.latest {state : ReadState} {store : EffectStoreSnapshot}
    (mirrors : Mirrors state store) (intentId : Identity) :
    state.latest.get? intentId = store.latest? intentId := by
  rw [mirrors.indexed.latest, mirrors.records]

theorem Mirrors.start (tenantId : Identity) (tenantHead : Nat) :
    Mirrors ReadState.start ⟨tenantId, tenantHead, []⟩ where
  records := rfl
  indexed := ⟨fun _ => rfl, by simp [ReadState.start]⟩
  recordIds := by simp [ReadState.start]
  commandIds := by simp [ReadState.start]
  order := by
    simp only [ReadState.start]
    omega
  manifests := by simp [ReadState.start]

/-- A cut that observes `store` through its stored rows. -/
structure Observes (cut : EffectsObservedCut) (rows : List StoredEffectRow)
    (store : EffectStoreSnapshot) : Prop where
  rows : cut.rows = rows
  tenant : cut.tenantId = store.tenantId
  frontier : cut.tenantFrontier = store.tenantHead
  expectedTenant : cut.expected.tenantId = store.tenantId
  expectedFrontier : cut.expected.tenantFrontier.toNat = store.tenantHead
  commitment : cut.expected.expectedMaterializationCommitment.text = cut.materializationCommitment
  currentFrontier : cut.current.storeFrontier = store.tenantHead
  currentTenant : cut.current.authority.tenantId = store.tenantId

theorem Observes.header {cut : EffectsObservedCut} {rows : List StoredEffectRow}
    {store : EffectStoreSnapshot} (observes : Observes cut rows store) :
    requireHeader store.tenantId cut = .ok () := by
  unfold requireHeader
  rw [reject_neg (by simp [observes.tenant]), ok_bind,
    reject_neg (by rw [observes.frontier]; omega), ok_bind]
  refine reject_neg ?_
  simp [observes.expectedTenant, observes.tenant, observes.expectedFrontier, observes.frontier,
    observes.commitment, observes.currentFrontier, observes.currentTenant]

section ReadBack

variable [Hashlib] {codec : EffectsCodec} {tenant : Identity} {store : EffectStoreSnapshot}
  {call : EffectCall} {frontier : Int}

/-- What the reader guarantees about the rows it accepts. -/
structure Coherent (codec : EffectsCodec) (tenant : Identity) (rows : List StoredEffectRow)
    (records : List EffectRecord) : Prop where
  read : List.Forall₂ (fun row record => decodeRow codec row.record tenant = .ok record) rows records
  commands : (records.map (·.command.commandId)).Nodup
  chains : ∀ intentId,
    Linked OpensChain ContinuesChain (streamOf EffectRecord.intentId records intentId)

theorem readRow_ok {state next : ReadState} {row : StoredEffectRow}
    (accepted : readRow codec tenant frontier state row = .ok next) :
    ∃ record, decodeRow codec row.record tenant = .ok record ∧
      requireChain state row record (state.latest.get? record.intentId) = .ok () ∧
      next = state.push row record := by
  simp only [readRow, bind_ok, pure_ok] at accepted
  obtain ⟨_, _, record, decodes, _, chained, _, _, rfl⟩ := accepted
  exact ⟨record, decodes, chained, rfl⟩

theorem Coherent.push {rows : List StoredEffectRow} {state : ReadState} {row : StoredEffectRow}
    {record : EffectRecord} (coherent : Coherent codec tenant rows state.records)
    (indexed : Indexed state) (decodes : decodeRow codec row.record tenant = .ok record)
    (chained : requireChain state row record (state.latest.get? record.intentId) = .ok ()) :
    Coherent codec tenant (rows ++ [row]) (state.records ++ [record]) := by
  refine ⟨?_, ?_, fun intentId => ?_⟩
  · exact List.rel_append coherent.read (.cons decodes .nil)
  · have fresh : record.command.commandId ∉ state.commandIds := by
      simp only [requireChain, reject_ok] at chained
      push Not at chained
      exact chained.2.1
    rw [List.map_append, List.nodup_append]
    refine ⟨coherent.commands, List.nodup_singleton _, ?_⟩
    intro earlier member final inside
    obtain ⟨other, known, rfl⟩ := List.mem_map.mp member
    obtain rfl := List.mem_singleton.mp inside
    intro same
    have equal : other.command.commandId = record.command.commandId := same
    exact fresh (equal ▸ indexed.commandIds other known)
  · by_cases same : record.intentId = intentId
    · subst same
      rw [streamOf_append_self]
      exact requireChain_linked indexed (coherent.chains _) chained
    · rw [streamOf_append_other _ same]
      exact coherent.chains intentId

theorem readRows_coherent {rows : List StoredEffectRow} {final : ReadState}
    (accepted : readRows codec tenant frontier ReadState.start rows = .ok final) :
    Coherent codec tenant rows final.records := by
  refine (foldlM_invariant (fun done state => Indexed state ∧ Coherent codec tenant done state.records)
    ?_ ?_ accepted).2
  · exact ⟨⟨fun _ => rfl, by simp [ReadState.start]⟩, .nil, .nil, fun _ => .nil⟩
  · rintro done row state next ⟨indexed, coherent⟩ round
    obtain ⟨record, decodes, chained, rfl⟩ := readRow_ok (located_ok.mp round)
    exact ⟨indexed.push row record, coherent.push indexed decodes chained⟩

/-- What a record repeats of the command that prepared it. -/
structure Sealed (call : EffectCall) (record : EffectRecord) : Prop where
  command : record.command = call.source.identity
  sourceCommand : record.sourceCommand = call.source.canonicalBytes
  commitment : record.record = ref (.after "effects/" record.command.commandId) (recordBody record)

theorem Bound.sealed {previous : Option EffectRecord} {draft : EffectSnapshot}
    {kind : RecordKind} {record : EffectRecord}
    (bound : Bound call.source previous draft kind record) : Sealed call record := by
  obtain ⟨_, _, rfl⟩ := bound
  exact ⟨rfl, rfl, rfl⟩

theorem Recorded.sealed {record : EffectRecord}
    (recorded : Recorded store call record) : Sealed call record := by
  rcases recorded.shape with begun | ⟨_, continued⟩
  · obtain ⟨_, _, _, _, bound⟩ := begun.bound
    exact bound.sealed
  · obtain ⟨_, _, _, bound⟩ := continued.advanced
    exact bound.sealed

theorem Reachable.tenantId (reachable : Reachable store) :
    ∀ record ∈ store.records, record.snapshot.intent.authority.tenantId = store.tenantId := by
  induction reachable with
  | empty tenantId tenantHead => simp
  | @commit store call prepared _ _ accepted tenantHead ih =>
      intro record member
      rcases List.mem_append.mp member with earlier | final
      · exact ih record earlier
      · obtain rfl := List.mem_singleton.mp final
        rcases (EffectCall.prepare_ok accepted).shape with begun | ⟨previous, continued⟩
        · exact begun.tenant
        · have same := Follows.intent ⟨store, call, continued⟩
          rw [same]
          exact ih previous (latest?_mem continued.latest).1

/-- The links between a denying command and the record it denies. -/
structure DenialLinks (command : BeforeSendDispositionV2Command) (previous : EffectRecord) :
    Prop where
  intent : command.intent = previous.snapshot.intent.exactHead
  attempt : command.expectedAttempt = previous.snapshot.attempt
  authorityIntent : command.authority.intent = command.intent
  authorityAttempt : command.authority.expectedAttempt = command.expectedAttempt
  tenant : command.authority.tenantId = previous.snapshot.intent.authority.tenantId
  principal : command.authority.principalId = previous.snapshot.intent.authority.principalId
  unsent : previous.snapshot.transmissions = []
  retirement : requireRetirement command previous.snapshot = .ok ()

theorem prepareDenial_links {command : BeforeSendDispositionV2Command}
    {current : CurrentDenialInputs} {prepared : PreparedEffectPublication}
    (accepted : prepareDenial ⟨command, store, current⟩ = .ok prepared) :
    ∃ previous, DenialLinks command previous ∧
      Continued store (.denial command current) previous prepared.record := by
  simp only [prepareDenial, bind_ok, deny_ok] at accepted
  obtain ⟨_, cut, _, _, previous, found, _, subject, _, _, _, unsent, _, retirement, _, _, _,
    registered, accepted⟩ := accepted
  rw [requireSameCut, deny_ok] at cut
  push Not at cut subject
  obtain ⟨_, _, _, _, _, _, _, authorityIntent, authorityAttempt⟩ := cut
  obtain ⟨intent, attempt, tenant, principal⟩ := subject
  refine ⟨previous, ⟨intent, attempt, authorityIntent, authorityAttempt, tenant, principal,
    not_not.mp unsent, retirement⟩, found, (deniedRecord_ok found).2, _, _,
    denied_of_registered registered, bindRecord_ok accepted⟩

theorem Reachable.commitment (reachable : Reachable store) :
    ∀ record ∈ store.records,
      record.record = ref (.after "effects/" record.command.commandId) (recordBody record) := by
  induction reachable with
  | empty tenantId tenantHead => simp
  | @commit store call prepared _ _ accepted tenantHead ih =>
      intro record member
      rcases List.mem_append.mp member with earlier | final
      · exact ih record earlier
      · obtain rfl := List.mem_singleton.mp final
        exact (EffectCall.prepare_ok accepted).sealed.commitment

/-- A record's head names its command, because every digest has the same length. -/
theorem ref_head_inj {lead : String} {left right : Identity} {leftValue rightValue : Json}
    (same : (ref (.after lead left) leftValue).head = (ref (.after lead right) rightValue).head) :
    left = right := by
  have texts := congrArg (fun head : Identity => head.text.toList) same
  simp only [ref, Identity.text_before, Identity.text_after, String.toList_append,
    List.append_assoc] at texts
  have digests : (("/" : String).toList ++ (digestOf leftValue).text.toList).length =
      (("/" : String).toList ++ (digestOf rightValue).text.toList).length := by
    simp only [List.length_append, String.length_toList, (digestOf leftValue).hex.1,
      (digestOf rightValue).hex.1]
  have rest := List.append_cancel_left texts
  have names := (List.append_inj' rest digests).1
  exact Identity.ext_iff_text.mpr (String.toList_injective names)

/-- The retained history of a denied attempt is its predecessor's. -/
theorem denied_sameHistory (reachable : Reachable store)
    {command : BeforeSendDispositionV2Command} {current : CurrentDenialInputs}
    {previous record : EffectRecord} (links : DenialLinks command previous)
    (continued : Continued store (.denial command current) previous record) :
    SameHistory record.snapshot previous.snapshot ∧ record.kind = .beforeSendDisposition ∧
      record.snapshot.state = command.authority.decision.kind.state := by
  have follows : Follows previous record := ⟨store, _, continued⟩
  have kept := reachable.keepsObligation continued.latest
  have resolved := (ObligationLifecycle.of_linked (reachable.linked previous.intentId)).unresolved
    previous (List.mem_of_getLast? continued.latest)
  obtain ⟨draft, kind, advanced, bound⟩ := continued.advanced
  cases advanced with
  | denied edge =>
      have before : previous.snapshot.recoveryObligation = none := by
        refine kept.2.absent (not_not.mp ?_)
        exact fun sent => kept.1.mpr sent links.unsent
      have after : record.snapshot.recoveryObligation = none := by
        refine (follows.kept kept).2.absent ?_
        rw [bound.state]
        exact command.authority.decision.kind.state_beforeSend
      refine ⟨⟨bound.intent, bound.authorizations, bound.transmissions, bound.evidence, ?_,
        bound.evidenceRecords, after.trans before.symm⟩, bound.recordKind, bound.state⟩
      rw [follows.unresolved, resolved, after, before]

/-- The row under which a record is published in commit `sequence`. -/
structure Publishes (sequence : Nat) (record : EffectRecord) (row : StoredEffectRow) : Prop where
  sequence : row.commitSequence = sequence
  stored : row.record = record.stored
  distinct : row.batchRecordIds.Nodup
  named : "" ∉ row.batchRecordIds
  ordinal : 0 ≤ row.publicationOrdinal
  member : row.batchRecordIds[row.publicationOrdinal.toNat]? = some record.record.head.text

/-- Runs whose records are each stored by the commit after the tenant head they expect.
Unrelated commits may move the head further before the next call. -/
inductive Committed : List EffectCall → List StoredEffectRow → EffectStoreSnapshot → Prop
  | empty (tenantId : Identity) (tenantHead : Nat) : Committed [] [] ⟨tenantId, tenantHead, []⟩
  | commit {calls : List EffectCall} {rows : List StoredEffectRow} {store : EffectStoreSnapshot}
      {call : EffectCall} {prepared : PreparedEffectPublication} {row : StoredEffectRow}
      {tenantHead : Nat} (earlier : Committed calls rows store)
      (accepted : call.prepare store = .ok prepared)
      (published : Publishes (store.tenantHead + 1) prepared.record row)
      (later : store.tenantHead < tenantHead) :
      Committed (calls ++ [call]) (rows ++ [row]) (store.commit prepared.record tenantHead)

theorem Committed.reachable {calls : List EffectCall} {rows : List StoredEffectRow}
    (committed : Committed calls rows store) : Reachable store := by
  induction committed with
  | empty tenantId tenantHead => exact .empty tenantId tenantHead
  | commit _ accepted _ _ ih => exact .commit ih trivial accepted _

theorem Mirrors.push {state : ReadState} {record : EffectRecord}
    {row : StoredEffectRow} {tenantHead : Nat} (mirrors : Mirrors state store)
    (published : Publishes (store.tenantHead + 1) record row)
    (later : store.tenantHead < tenantHead) :
    Mirrors (state.push row record) (store.commit record tenantHead) where
  records := by simp [ReadState.push, EffectStoreSnapshot.commit, mirrors.records]
  indexed := mirrors.indexed.push row record
  recordIds := by
    simp only [ReadState.push, EffectStoreSnapshot.commit, published.stored]
    rintro identity (_ | ⟨_, earlier⟩)
    · exact ⟨record, by simp, rfl⟩
    · obtain ⟨other, member, same⟩ := mirrors.recordIds identity earlier
      exact ⟨other, List.mem_append_left _ member, same⟩
  commandIds := by
    simp only [ReadState.push, EffectStoreSnapshot.commit]
    rintro identity (_ | ⟨_, earlier⟩)
    · exact ⟨record, by simp, rfl⟩
    · obtain ⟨other, member, same⟩ := mirrors.commandIds identity earlier
      exact ⟨other, List.mem_append_left _ member, same⟩
  order := by
    simp only [ReadState.push, EffectStoreSnapshot.commit, published.sequence]
    omega
  manifests := by
    simp only [ReadState.push, EffectStoreSnapshot.commit, Dict.get?_set, published.sequence]
    intro sequence manifest found
    split at found
    · omega
    · have bound := mirrors.manifests sequence manifest found
      omega

theorem requirePhysical_published {state : ReadState}
    {record : EffectRecord} {row : StoredEffectRow} (mirrors : Mirrors state store)
    (published : Publishes (store.tenantHead + 1) record row)
    (inside : (store.tenantHead + 1 : Int) ≤ frontier) :
    requirePhysical frontier state row = .ok () := by
  have order := mirrors.order
  obtain ⟨sequence, stored, distinct, named, ordinal, member⟩ := published
  have bounded : row.publicationOrdinal.toNat < row.batchRecordIds.length :=
    (List.getElem?_eq_some_iff.mp member).1
  have identity : row.record.recordId = record.record.head := by rw [stored]; rfl
  have unseen : ¬ ∃ manifest ∈ state.manifests.get? row.commitSequence,
      manifest ≠ row.batchRecordIds := by
    rintro ⟨manifest, found, _⟩
    have early := mirrors.manifests _ _ found
    omega
  refine reject_neg ?_
  simp only [not_or, not_not]
  refine ⟨⟨by omega, by omega⟩, ⟨ordinal, by omega⟩, distinct, named, ?_, ⟨by omega, by omega⟩, unseen⟩
  rw [identity]
  exact member

theorem requireDisposition_prepared (reachable : Reachable store)
    {prepared : PreparedEffectPublication} (accepted : call.prepare store = .ok prepared) :
    requireDisposition prepared.record call.retained = .ok () := by
  cases call with
  | transition command current => rfl
  | denial command current =>
      obtain ⟨previous, links, continued⟩ := prepareDenial_links accepted
      obtain ⟨_, kind, state⟩ := denied_sameHistory reachable links continued
      have follows : Follows previous prepared.record := ⟨store, _, continued⟩
      refine reject_neg ?_
      simp only [not_or, not_not]
      rw [follows.intent]
      refine ⟨kind, ?_, state, links.intent, links.authorityIntent.trans links.intent,
        links.authorityAttempt.symm, links.tenant, links.principal⟩
      rw [follows.predecessor]
      exact Option.some_ne_none _

theorem decodeRow_prepared (reachable : Reachable store) {prepared : PreparedEffectPublication}
    (accepted : call.prepare store = .ok prepared) (decodes : codec.DecodesCall call)
    (stored : codec.DecodesRecord prepared.record) :
    decodeRow codec prepared.record.stored store.tenantId = .ok prepared.record := by
  have sealed := (EffectCall.prepare_ok accepted).sealed
  have tenant : prepared.record.snapshot.intent.authority.tenantId = store.tenantId :=
    Reachable.tenantId (.commit reachable trivial accepted store.tenantHead) _ (by
      simp [EffectStoreSnapshot.commit])
  have command : decodeRetainedCommand codec prepared.record.sourceCommand = .ok call.retained := by
    rw [sealed.sourceCommand]
    exact decodeRetainedCommand_canonical decodes
  have logical : decoded (codec.validateRecord prepared.record.stored.canonicalBytes.items) =
      .ok prepared.record := decoded_ok.mpr stored
  unfold decodeRow
  rw [reject_neg (by simp [EffectRecord.stored]), ok_bind, logical, ok_bind,
    reject_neg (by simp [EffectRecord.stored, tenant]), ok_bind, command, ok_bind,
    reject_neg (by simp [retained_source, sealed.sourceCommand, sealed.command]), ok_bind,
    requireDisposition_prepared reachable accepted, ok_bind]
  simp only []
  rw [reject_neg (by rw [sealed.commitment]; simp [ref]), ok_bind]
  rfl

theorem requireChain_prepared {state : ReadState}
    (reachable : Reachable store) {prepared : PreparedEffectPublication}
    {row : StoredEffectRow} (mirrors : Mirrors state store)
    (accepted : call.prepare store = .ok prepared)
    (published : Publishes (store.tenantHead + 1) prepared.record row) :
    requireChain state row prepared.record (store.latest? prepared.record.intentId) = .ok () := by
  have recorded := EffectCall.prepare_ok accepted
  have sealed := recorded.sealed
  have newCommand : prepared.record.command.commandId ∉ state.commandIds := by
    intro member
    obtain ⟨other, inside, same⟩ := mirrors.commandIds _ member
    rw [sealed.command] at same
    exact recorded.unseen other inside same
  have newRecord : row.record.recordId ∉ state.recordIds := by
    intro member
    obtain ⟨other, inside, same⟩ := mirrors.recordIds _ member
    have heads : other.record.head = prepared.record.record.head := by
      rw [same, published.stored]
      rfl
    rw [reachable.commitment other inside, sealed.commitment, sealed.command] at heads
    exact recorded.unseen other inside (ref_head_inj heads)
  refine reject_neg ?_
  simp only [not_or, not_not]
  refine ⟨newRecord, newCommand, ?_, ?_⟩
  · rw [sealed.command, recorded.cut, published.sequence]
    omega
  rcases recorded.shape with begun | ⟨previous, continued⟩
  · have first : store.latest? prepared.record.intentId = none := latest?_eq_none.mpr begun.fresh
    obtain ⟨_, _, _, _, bound⟩ := begun.bound
    rw [first]
    exact ⟨bound.predecessor, by simp, fun missed => missed.2 begun.accepting⟩
  · have follows : Follows previous prepared.record := ⟨store, call, continued⟩
    rw [continued.intentId, continued.latest]
    refine ⟨follows.predecessor, ?_, by simp⟩
    rintro ⟨_, ⟨⟩, different⟩
    exact different follows.intent.symm

theorem validateDenialPredecessor_prepared
    (reachable : Reachable store) {prepared : PreparedEffectPublication}
    (accepted : call.prepare store = .ok prepared) (decodes : codec.DecodesCall call) :
    validateDenialPredecessor codec prepared.record (store.latest? prepared.record.intentId) =
      .ok () := by
  unfold validateDenialPredecessor
  rw [(EffectCall.prepare_ok accepted).sealed.sourceCommand,
    decodeRetainedCommand_canonical decodes, ok_bind]
  cases call with
  | transition command current => rfl
  | denial command current =>
      obtain ⟨previous, links, continued⟩ := prepareDenial_links accepted
      have follows : Follows previous prepared.record := ⟨store, _, continued⟩
      have history := (denied_sameHistory reachable links continued).1
      rw [continued.intentId, continued.latest]
      simp only [EffectCall.retained]
      rw [reject_neg (by simp [follows.predecessor, links.attempt, history]), ok_bind]
      exact requireRetirement_validates links.retirement

/-- Reading the row of a prepared record extends the mirror of the store. -/
theorem readRow_prepared {state : ReadState}
    (reachable : Reachable store) {prepared : PreparedEffectPublication}
    {row : StoredEffectRow} (mirrors : Mirrors state store)
    (accepted : call.prepare store = .ok prepared)
    (published : Publishes (store.tenantHead + 1) prepared.record row)
    (inside : (store.tenantHead + 1 : Int) ≤ frontier) (decodes : codec.DecodesCall call)
    (stored : codec.DecodesRecord prepared.record) :
    readRow codec store.tenantId frontier state row = .ok (state.push row prepared.record) := by
  have record : decodeRow codec row.record store.tenantId = .ok prepared.record := by
    rw [published.stored]
    exact decodeRow_prepared reachable accepted decodes stored
  unfold readRow
  rw [requirePhysical_published mirrors published inside, ok_bind, record, ok_bind]
  simp only [mirrors.latest]
  rw [requireChain_prepared reachable mirrors accepted published, ok_bind,
    validateDenialPredecessor_prepared reachable accepted decodes, ok_bind]
  rfl

theorem Committed.readRows {calls : List EffectCall} {rows : List StoredEffectRow}
    (committed : Committed calls rows store) (decodes : ∀ call ∈ calls, codec.DecodesCall call)
    (stored : ∀ record ∈ store.records, codec.DecodesRecord record)
    (inside : (store.tenantHead : Int) ≤ frontier) :
    ∃ state, readRows codec store.tenantId frontier ReadState.start rows = .ok state ∧
      Mirrors state store := by
  induction committed with
  | empty tenantId tenantHead => exact ⟨_, rfl, .start tenantId tenantHead⟩
  | @commit calls rows store call prepared row tenantHead earlier accepted published later ih =>
      simp only [EffectStoreSnapshot.commit] at inside stored ⊢
      obtain ⟨state, reads, mirrors⟩ := ih
        (fun call member => decodes call (List.mem_append_left _ member))
        (fun record member => stored record (List.mem_append_left _ member)) (by omega)
      have round := readRow_prepared earlier.reachable mirrors accepted published
        (show (store.tenantHead + 1 : Int) ≤ frontier by omega) (decodes call (by simp))
        (stored prepared.record (by simp))
      refine ⟨state.push row prepared.record, ?_, mirrors.push published later⟩
      rw [Effects.readRows] at reads ⊢
      rw [List.foldlM_append, reads, ok_bind, List.foldlM_cons, located_ok.mpr round, ok_bind]
      rfl

/-- Over the rows of any run the reader returns the prepared records in commit order, and
whatever rows it accepts have distinct commands and one chain per intent. -/
theorem effectsSnapshot_agrees (codec : EffectsCodec) :
    (∀ calls rows store cut, Committed calls rows store → Observes cut rows store →
      (∀ call ∈ calls, codec.DecodesCall call) →
      (∀ record ∈ store.records, codec.DecodesRecord record) →
      effectsSnapshot codec store.tenantId cut = .ok store) ∧
    (∀ tenantId cut store, effectsSnapshot codec tenantId cut = .ok store →
      Coherent codec cut.tenantId cut.rows store.records) := by
  constructor
  · intro calls rows store cut committed observes decodes stored
    obtain ⟨state, reads, mirrors⟩ := committed.readRows decodes stored (le_refl (store.tenantHead : Int))
    unfold effectsSnapshot
    rw [located_ok.mpr observes.header, ok_bind, observes.tenant, observes.frontier, observes.rows,
      reads, ok_bind, mirrors.records]
    rfl
  · intro tenantId cut store accepted
    simp only [effectsSnapshot, bind_ok, pure_ok] at accepted
    obtain ⟨_, _, state, reads, rfl⟩ := accepted
    exact readRows_coherent reads

/-- The original intent published and then authorized, each in a commit of its own. -/
theorem original_authorized (members : NonemptyTuple ExactHead) :
    ∃ plan planned authorize current first second,
      (EffectCall.transition (.publishPlan plan) planned).prepare emptyStore = .ok first ∧
      (EffectCall.transition (.authorize authorize) current).prepare
        (emptyStore.commit first.record 1) = .ok second ∧
      first.record.command.commandId ≠ second.record.command.commandId := by
  obtain ⟨new, tenant, ⟨snapshot, created⟩, live, _, unblocked⟩ := originalIntent_dispatchable members
  have empty : Unblocked (originalIntent members) emptyStore [] :=
    unblocked emptyStore (fun _ _ => rfl) (fun record latest => by cases latest)
  have start := Progressed.refl emptyStore (originalIntent members)
  have fresh : FreshIdentity emptyStore ⟨sampleId, sampleId, 0⟩ :=
    start.fresh (by simp [emptyStore]) List.not_mem_nil
  obtain ⟨first, published, named, waiting⟩ :=
    publish_accepted sampleFence fresh new tenant created live empty
  have progressed := start.commit waiting.intent named 1
  have again : FreshIdentity (emptyStore.commit first.record 1) ⟨originalId, originalId, 1⟩ :=
    progressed.fresh (by simp [emptyStore]) (by decide)
  obtain ⟨second, authorized, renamed, _⟩ :=
    authorize_accepted sampleFence again (latest?_commit_self emptyStore first.record 1) waiting live
      (unblocked _ progressed.others (uncrossed_commit waiting (by decide) 1))
  refine ⟨_, _, _, _, first, second, published, authorized, ?_⟩
  rw [named, renamed]
  exact show sampleId ≠ originalId by decide

end ReadBack

/-- The value of a list that a text encodes. -/
def decodes [Model α] (values : List α) (raw : Bytes) : Option α :=
  values.find? (fun value => (canonicalBytes value).items = raw)

theorem decodes_pair [Model α] {first second value : α} (member : value ∈ [first, second])
    (apart : (canonicalBytes first).items ≠ (canonicalBytes second).items) :
    decodes [first, second] (canonicalBytes value).items = some value := by
  rcases List.mem_pair.mp member with rfl | rfl
  · simp [decodes]
  · simp [decodes, apart]

/-- A decoder that knows these commands and the records they prepared. -/
def tableCodec (commands : List EffectCommand) (records : List EffectRecord) : EffectsCodec where
  loads raw := (decodes commands raw).map toJson
  validateCommand := decodes commands
  validateDenial _ := none
  validateRecord := decodes records

theorem tableCodec_decodesCall {commands : List EffectCommand} {command : EffectCommand}
    (known : decodes commands (canonicalBytes command).items = some command)
    (records : List EffectRecord) (current : CurrentEffectInputs) :
    (tableCodec commands records).DecodesCall (.transition command current) := by
  refine ⟨⟨modelDump command, ?_, fun _ => rfl⟩, known⟩
  simp only [tableCodec, known, Option.map_some]
  rfl

theorem records_apart {first second : EffectRecord}
    (differ : first.command.commandId ≠ second.command.commandId) :
    (canonicalBytes first).items ≠ (canonicalBytes second).items := by
  intro same
  obtain ⟨found, named, equal⟩ :=
    Json.sorted_obj_mem "command" (toJson first.command) (Json.encode_inj same) (by simp [modelDump])
  have own : found = toJson second.command := by simpa [modelDump] using named
  rw [own] at equal
  exact differ (Json.sorted_obj_field "command_id" _ _ equal (by simp [modelDump]) (by simp [modelDump]))

/-- The two rows of the original intent, published and then authorized, are read back. -/
theorem effectsSnapshot_agrees_original : letI := Sha256.hashlib
    ∃ codec calls rows store cut, Committed calls rows store ∧ rows.length = 2 ∧
      effectsSnapshot codec store.tenantId cut = .ok store := by
  let _ := Sha256.hashlib
  obtain ⟨plan, planned, authorize, current, first, second, published, authorized, differ⟩ :=
    original_authorized ⟨[sampleHead], by decide⟩
  let row (sequence : Nat) (record : EffectRecord) : StoredEffectRow :=
    ⟨sequence, 0, [record.record.head.text], record.stored⟩
  have publishes (sequence : Nat) (record : EffectRecord) :
      Publishes sequence record (row sequence record) :=
    ⟨rfl, rfl, by simp [row], by simp [row, record.record.head.nonempty.symm], le_refl _, rfl⟩
  have committed := ((Committed.empty sampleId 0).commit published (publishes 1 first.record)
    Nat.zero_lt_one).commit authorized (publishes 2 second.record) Nat.one_lt_two
  let cut : EffectsObservedCut := {
    tenantId := sampleId
    tenantFrontier := 2
    materializationCommitment := (sha256 []).text
    rows := [row 1 first.record, row 2 second.record]
    current := { planned with
      storeFrontier := 2
      authority := sampleAuthority (.direct sampleHead sampleHead) }
    expected := ⟨sampleId, 2, sha256 []⟩ }
  have apart : (canonicalBytes (EffectCommand.publishPlan plan)).items ≠
      (canonicalBytes (EffectCommand.authorize authorize)).items := by
    intro same
    obtain ⟨found, listed, _⟩ := Json.sorted_obj_mem "planning_publication"
      (toJson plan.planningPublication) (Json.encode_inj same) (by simp [modelDump])
    simp [modelDump] at listed
  refine ⟨tableCodec [.publishPlan plan, .authorize authorize] [first.record, second.record], _, _,
    _, cut, committed, rfl, ?_⟩
  refine (effectsSnapshot_agrees _).1 _ _ _ cut committed ⟨rfl, rfl, rfl, rfl, rfl, rfl, rfl, rfl⟩
    ?_ ?_
  · intro call member
    rcases List.mem_pair.mp member with rfl | rfl
    · exact tableCodec_decodesCall (decodes_pair List.mem_cons_self apart) _ _
    · exact tableCodec_decodesCall (decodes_pair (List.mem_pair.mpr (.inr rfl)) apart) _ _
  · intro record member
    exact decodes_pair member (records_apart differ)

end Chiplog.Effects
