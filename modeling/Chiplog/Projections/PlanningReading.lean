import Chiplog.Projections.Planning

namespace Chiplog.Projections

open Chiplog.Data Chiplog.Planning

/-! What the reader makes of the writer's publications.

A record is decoded into the fields it was made of, in the order of their names, and every
comparison of the reader holds of what the owner factory has constructed. -/

section

variable [Hashlib] {fields : List (String × Json)}

/-- The records that the owner factory constructs. -/
def commandFields (context : InvocationContext) (command : CreateIntentionLine) :
    List (String × Json) :=
  [("authority_act_id", toJson command.authorityActId),
    ("principal_id", toJson context.principalId), ("tenant_id", toJson context.tenantId),
    ("allocation_manifest", toJson ([⟨0, "chiplog.planning.intention_line", command.intentionLineId⟩,
      ⟨1, "chiplog.planning.intention_line_revision", command.revisionId⟩] : List Allocation)),
    ("operation", toJson createIntentionLine),
    ("permission_scope", toJson context.permissionScope),
    ("trust_reference", toJson context.trustReference)]

def evidenceFields (context : InvocationContext) (command : CreateIntentionLine) :
    List (String × Json) :=
  [("authority_act_id", toJson command.authorityActId),
    ("principal_id", toJson context.principalId), ("tenant_id", toJson context.tenantId),
    ("operation", toJson createIntentionLine), ("trust_reference", toJson context.trustReference)]

def lineFields (context : InvocationContext) (command : CreateIntentionLine) :
    List (String × Json) :=
  [("authority_act_id", toJson command.authorityActId),
    ("principal_id", toJson context.principalId), ("tenant_id", toJson context.tenantId),
    ("initial_revision_id", toJson command.revisionId)]

def revisionFields (context : InvocationContext) (command : CreateIntentionLine) :
    List (String × Json) :=
  [("authority_act_id", toJson command.authorityActId),
    ("principal_id", toJson context.principalId), ("tenant_id", toJson context.tenantId),
    ("activity", .str "ACTIVE"), ("intention_line_id", toJson command.intentionLineId),
    ("ordinal", .int 0), ("personal_outcome", .str "OPEN"), ("purpose", toJson command.purpose),
    ("predecessor_revision_id", .null)]

def committedBatch (context : InvocationContext) (command : CreateIntentionLine) :
    List OwnedRecord :=
  [record command.commandId "chiplog.planning.planning_command" (commandFields context command),
    record ⟨context.tenantId, command.commandId.value ++ ".authorization"⟩
      "chiplog.planning.authorization_evidence" (evidenceFields context command),
    record command.intentionLineId "chiplog.planning.intention_line" (lineFields context command),
    record command.revisionId "chiplog.planning.intention_line_revision"
      (revisionFields context command)]

def resultFields (context : InvocationContext) (command : CreateIntentionLine)
    (commitSequence : Nat) : List (String × Json) :=
  [("allocation_manifest", toJson
      ([⟨0, "chiplog.planning.intention_line", command.intentionLineId⟩,
        ⟨1, "chiplog.planning.intention_line_revision", command.revisionId⟩] : List Allocation)),
    ("authorization_evidence_id",
      toJson (⟨context.tenantId, command.commandId.value ++ ".authorization"⟩ : RecordId)),
    ("command_id", toJson command.commandId), ("commit_sequence", toJson commitSequence),
    ("batch_fingerprint", toJson (batchFingerprint
      ((committedBatch context command).map OwnedRecord.manifestRow))),
    ("record_manifest", toJson ((committedBatch context command).map OwnedRecord.manifestRow)),
    ("tenant_id", toJson context.tenantId)]

def constructed (context : InvocationContext) (command : CreateIntentionLine)
    (commitSequence : Nat) : Batch where
  command := record command.commandId "chiplog.planning.planning_command"
    (commandFields context command)
  evidence := record ⟨context.tenantId, command.commandId.value ++ ".authorization"⟩
    "chiplog.planning.authorization_evidence" (evidenceFields context command)
  line := record command.intentionLineId "chiplog.planning.intention_line"
    (lineFields context command)
  revision := record command.revisionId "chiplog.planning.intention_line_revision"
    (revisionFields context command)
  result := record ⟨context.tenantId, command.commandId.value ++ ".result"⟩
    "chiplog.planning.committed_result" (resultFields context command commitSequence)

theorem published_records (tenantId : String) (context : InvocationContext)
    (command : CreateIntentionLine) (head : Nat) :
    (published tenantId context command head).records =
      (constructed context command (head + 1)).records := rfl

theorem published_bound (tenantId : String) (context : InvocationContext)
    (command : CreateIntentionLine) (head : Nat) :
    Bound (published tenantId context command head) (constructed context command (head + 1)) :=
  ⟨rfl, rfl, rfl, rfl, rfl, rfl, rfl, rfl, rfl, rfl, rfl, rfl, rfl, rfl, rfl, rfl⟩

/-! ### Decoded records -/

omit [Hashlib] in
theorem distinct_list {α : Type} [Jsonable α] {items : List α}
    (each : ∀ item ∈ items, (toJson item).Distinct) : (toJson items).Distinct := by
  change Json.DistinctItems (items.map toJson)
  induction items with
  | nil => exact trivial
  | cons item items ih =>
      exact ⟨each item List.mem_cons_self,
        ih (fun other member => each other (List.mem_cons_of_mem _ member))⟩

omit [Hashlib] in
theorem recordId_distinct (recordId : RecordId) : (toJson recordId).Distinct := by
  have names : (["tenant_id", "value"] : List String).Nodup := by decide
  exact ⟨names, trivial, trivial, trivial⟩

omit [Hashlib] in
theorem reference_distinct (reference : PlanningTrustReference) :
    (toJson reference).Distinct := by
  have names : (["contour", "credential_head", "freshness_sequence", "materialization_head",
      "principal_id", "session_head", "source_head", "tenant_id", "trust_head",
      "peer_credential"] : List String).Nodup := by decide
  exact ⟨names, trivial, trivial, trivial, trivial, trivial, trivial, trivial, trivial, trivial,
    trivial, trivial⟩

omit [Hashlib] in
theorem allocations_distinct (allocations : List Allocation) : (toJson allocations).Distinct := by
  have names : (["ordinal", "record_id", "record_type_id"] : List String).Nodup := by decide
  apply distinct_list
  intro allocation _
  exact ⟨names, trivial, recordId_distinct _, trivial, trivial⟩

omit [Hashlib] in
theorem manifest_distinct (manifest : List ManifestRow) : (toJson manifest).Distinct := by
  have names : (["fingerprint", "record_id", "record_type_id"] : List String).Nodup := by decide
  apply distinct_list
  intro row _
  exact ⟨names, trivial, recordId_distinct _, trivial, trivial⟩

omit [Hashlib] in
theorem get_readFields (distinct : (fields.map Prod.fst).Nodup)
    {name : String} {value : Json} (member : (name, value) ∈ fields) :
    get (Json.readFields fields) name = Json.sorted value := by
  rw [get, Json.lookup_readFields distinct member]
  rfl

omit [Hashlib] in
theorem get_text (distinct : (fields.map Prod.fst).Nodup)
    {name text : String} (member : (name, toJson text) ∈ fields) :
    get (Json.readFields fields) name = toJson text := get_readFields distinct member

/-- A record of the writer is decoded into its fields. -/
theorem decodeRecord_record {reader : ProjectionReader} (reads : ReadsUtf8 reader.loads)
    {recordId : RecordId} {recordTypeId : String} (known : recordTypeId ∈ planningRecordTypes)
    (distinct : (Json.obj fields).Distinct) :
    decodeRecord reader (record recordId recordTypeId fields) = some (Json.readFields fields) := by
  let kind := rsplitDot recordTypeId
  let envelope : List (String × Json) :=
    [("fields", .obj fields), ("owner", .str "planning"), ("record_id", toJson recordId),
      ("record_type", .obj [("name", .str kind.2), ("namespace", .str kind.1)]),
      ("versions", versions)]
  have names : (envelope.map Prod.fst).Nodup := by
    change ["fields", "owner", "record_id", "record_type", "versions"].Nodup
    decide
  have whole : (Json.obj envelope).Distinct := by
    have kinds : (["name", "namespace"] : List String).Nodup := by decide
    have bindings : (["canonicalization", "codec", "schema"] : List String).Nodup := by decide
    have schema : (["name", "namespace", "version"] : List String).Nodup := by decide
    exact ⟨names, distinct, trivial, recordId_distinct _, ⟨kinds, trivial, trivial, trivial⟩,
      ⟨bindings, trivial, trivial, ⟨schema, trivial, trivial, trivial, trivial⟩, trivial⟩, trivial⟩
  have bytes : (record recordId recordTypeId fields).canonicalBytes = (Json.obj envelope).encode :=
    rfl
  have loaded : reader.loads (record recordId recordTypeId fields).canonicalBytes =
      some (.obj (Json.readFields envelope)) := by
    rw [bytes]
    exact reads _ whole
  have inner : (Json.readFields envelope).lookup "fields" = some (.obj (Json.readFields fields)) :=
    Json.lookup_readFields names List.mem_cons_self
  have fine : ¬ ((record recordId recordTypeId fields).recordTypeId ∉ planningRecordTypes ∨
      fingerprint (record recordId recordTypeId fields).canonicalBytes ≠
        (record recordId recordTypeId fields).fingerprint) := by
    rintro (unknown | changed)
    · exact unknown known
    · exact changed rfl
  have metadata : ¬ ∃ expected ∈ expectedMetadata (record recordId recordTypeId fields),
      ¬ Json.Same (get (Json.readFields envelope) expected.1) expected.2 := by
    rintro ⟨expected, member, differs⟩
    apply differs
    have inside : expected ∈ envelope := List.mem_cons_of_mem _ member
    rw [get_readFields names inside]
    exact Json.same_sorted expected.2
  rw [decodeRecord, if_neg fine, loaded]
  dsimp only
  rw [inner]
  exact if_neg metadata

section

variable (context : InvocationContext) (command : CreateIntentionLine) (commitSequence : Nat)

omit [Hashlib] in
theorem commandFields_distinct : (Json.obj (commandFields context command)).Distinct := by
  refine ⟨?_, trivial, trivial, trivial, allocations_distinct _, trivial, trivial,
    reference_distinct _, trivial⟩
  change ["authority_act_id", "principal_id", "tenant_id", "allocation_manifest", "operation",
    "permission_scope", "trust_reference"].Nodup
  decide

omit [Hashlib] in
theorem evidenceFields_distinct : (Json.obj (evidenceFields context command)).Distinct := by
  refine ⟨?_, trivial, trivial, trivial, trivial, reference_distinct _, trivial⟩
  change ["authority_act_id", "principal_id", "tenant_id", "operation", "trust_reference"].Nodup
  decide

omit [Hashlib] in
theorem lineFields_distinct : (Json.obj (lineFields context command)).Distinct := by
  refine ⟨?_, trivial, trivial, trivial, recordId_distinct _, trivial⟩
  change ["authority_act_id", "principal_id", "tenant_id", "initial_revision_id"].Nodup
  decide

omit [Hashlib] in
theorem revisionFields_distinct : (Json.obj (revisionFields context command)).Distinct := by
  refine ⟨?_, trivial, trivial, trivial, trivial, recordId_distinct _, trivial, trivial, trivial,
    trivial, trivial⟩
  change ["authority_act_id", "principal_id", "tenant_id", "activity", "intention_line_id",
    "ordinal", "personal_outcome", "purpose", "predecessor_revision_id"].Nodup
  decide

theorem resultFields_distinct :
    (Json.obj (resultFields context command commitSequence)).Distinct := by
  refine ⟨?_, allocations_distinct _, recordId_distinct _, recordId_distinct _, trivial, trivial,
    manifest_distinct _, trivial, trivial⟩
  change ["allocation_manifest", "authorization_evidence_id", "command_id", "commit_sequence",
    "batch_fingerprint", "record_manifest", "tenant_id"].Nodup
  decide

/-- The decoded fields of a constructed batch. -/
def decoded : Decoded where
  command := Json.readFields (commandFields context command)
  evidence := Json.readFields (evidenceFields context command)
  line := Json.readFields (lineFields context command)
  revision := Json.readFields (revisionFields context command)
  result := Json.readFields (resultFields context command commitSequence)

end

/-! ### Agreement -/

/-- What `_structural_error` has checked of a request that it lets pass. -/
structure WellFormed (context : InvocationContext) (command : CreateIntentionLine) : Prop where
  commandId : command.commandId.tenantId = context.tenantId
  intentionLineId : command.intentionLineId.tenantId = context.tenantId
  revisionId : command.revisionId.tenantId = context.tenantId
  scope : context.permissionScope = createScope

omit [Hashlib] in
/-- A check that finds nothing was passed. -/
theorem refused {holds : Prop} [Decidable holds] {error : String} {rest : Option String}
    (passed : (if holds then some error else rest) = none) : ¬ holds ∧ rest = none := by
  by_cases found : holds
  · rw [if_pos found] at passed
    cases passed
  · rw [if_neg found] at passed
    exact ⟨found, passed⟩

omit [Hashlib] in
theorem wellFormed_of_structural {context : InvocationContext} {command : CreateIntentionLine}
    (structural : structuralError context command none = none) : WellFormed context command := by
  obtain ⟨foreign, structural⟩ := refused structural
  obtain ⟨_, structural⟩ := refused structural
  obtain ⟨_, structural⟩ := refused structural
  obtain ⟨_, structural⟩ := refused structural
  obtain ⟨scope, _⟩ := refused structural
  have own (item : RecordId)
      (member : item ∈ [command.commandId, command.intentionLineId, command.revisionId]) :
      item.tenantId = context.tenantId := by
    by_contra differs
    exact foreign ⟨item, member, differs⟩
  exact ⟨own _ (by simp), own _ (by simp), own _ (by simp), not_not.mp scope⟩

omit [Hashlib] in
/-- What is decoded of an object is the same as another object with its fields in any order. -/
theorem same_fields {first second : List (String × Json)} (distinct : (first.map Prod.fst).Nodup)
    (permuted : (first.map (fun field => (field.1, Json.sorted field.2))).Perm
      (second.map (fun field => (field.1, Json.sorted field.2)))) :
    Json.Same (.obj (Json.readFields first)) (.obj second) := by
  have own : Json.Same (.obj (Json.readFields first)) (.obj first) :=
    Json.same_sorted (.obj first)
  rw [Json.same_iff] at own ⊢
  exact own.trans (Json.same_iff.mp (Json.same_obj distinct permuted))

section

variable {context : InvocationContext} {command : CreateIntentionLine} {commitSequence : Nat}

theorem decoded_command : (decoded context command commitSequence).command =
    Json.readFields (commandFields context command) := by rw [decoded]

theorem decoded_evidence : (decoded context command commitSequence).evidence =
    Json.readFields (evidenceFields context command) := by rw [decoded]

theorem decoded_line : (decoded context command commitSequence).line =
    Json.readFields (lineFields context command) := by rw [decoded]

theorem decoded_revision : (decoded context command commitSequence).revision =
    Json.readFields (revisionFields context command) := by rw [decoded]

theorem decoded_result : (decoded context command commitSequence).result =
    Json.readFields (resultFields context command commitSequence) := by rw [decoded]

theorem decoded_common :
    (decoded context command commitSequence).common context.tenantId =
      [("authority_act_id", toJson command.authorityActId),
        ("principal_id", toJson context.principalId), ("tenant_id", toJson context.tenantId)] := by
  have distinct := (commandFields_distinct context command).1
  have act : get (Json.readFields (commandFields context command)) "authority_act_id" =
      toJson command.authorityActId := get_text distinct (by simp [commandFields])
  have principal : get (Json.readFields (commandFields context command)) "principal_id" =
      toJson context.principalId := get_text distinct (by simp [commandFields])
  rw [Decoded.common, decoded, act, principal]

theorem decoded_reference :
    get (decoded context command commitSequence).command "trust_reference" =
      Json.sorted (toJson context.trustReference) := by
  have reference : get (Json.readFields (commandFields context command)) "trust_reference" =
      Json.sorted (toJson context.trustReference) :=
    get_readFields (commandFields_distinct context command).1 (by simp [commandFields])
  rw [decoded, reference]

theorem decoded_purpose :
    get (decoded context command commitSequence).revision "purpose" = toJson command.purpose := by
  have purpose : get (Json.readFields (revisionFields context command)) "purpose" =
      toJson command.purpose :=
    get_text (revisionFields_distinct context command).1 (by simp [revisionFields])
  rw [decoded, purpose]

theorem decoded_request :
    ((decoded context command commitSequence).request (constructed context command commitSequence)
      context.tenantId).encodeAscii = (requestJson context command none).encodeAscii := by
  have distinct := (commandFields_distinct context command).1
  have act : get (Json.readFields (commandFields context command)) "authority_act_id" =
      toJson command.authorityActId := get_text distinct (by simp [commandFields])
  have principal : get (Json.readFields (commandFields context command)) "principal_id" =
      toJson context.principalId := get_text distinct (by simp [commandFields])
  have scope : get (Json.readFields (commandFields context command)) "permission_scope" =
      toJson context.permissionScope := get_text distinct (by simp [commandFields])
  rw [Decoded.request, decoded_purpose, decoded_reference, decoded, act, principal, scope,
    Json.encodeAscii_eq_iff]
  have inner : Json.sorted (.obj
      [("permission_scope", toJson context.permissionScope),
        ("principal_id", toJson context.principalId), ("tenant_id", toJson context.tenantId),
        ("trust_reference", Json.sorted (toJson context.trustReference))]) =
      Json.sorted (toJson context) := by
    apply Json.sorted_obj_congr
    simp only [List.map_cons, List.map_nil, Json.sorted_sorted]
    rfl
  rw [requestJson]
  apply Json.sorted_obj_congr
  simp only [List.map_cons, List.map_nil]
  rw [inner]
  rfl

/-- The decoded fields agree with the publication. -/
theorem fields_agree (formed : WellFormed context command) (head : Nat) :
    FieldsAgree (published context.tenantId context command head)
      (constructed context command (head + 1)) (decoded context command (head + 1)) where
  command := by
    rw [show (published context.tenantId context command head).tenantId = context.tenantId from rfl,
      decoded_common, decoded_reference, decoded_command]
    apply same_fields (commandFields_distinct context command).1
    rw [commandFields, formed.scope]
    simp only [List.map_cons, List.map_nil, List.cons_append, List.nil_append, Json.sorted_sorted]
    exact .refl _
  result := by
    rw [decoded_result]
    apply same_fields (resultFields_distinct context command (head + 1)).1
    rw [resultFields]
    simp only [List.map_cons, List.map_nil]
    refine .cons _ (.cons _ ?_)
    exact @List.perm_middle _ _ [_, _] [_, _]
  evidence := by
    rw [show (published context.tenantId context command head).tenantId = context.tenantId from rfl,
      decoded_common, decoded_reference, decoded_evidence]
    apply same_fields (evidenceFields_distinct context command).1
    rw [evidenceFields]
    simp only [List.map_cons, List.map_nil, List.cons_append, List.nil_append, Json.sorted_sorted]
    exact .refl _
  initial := by
    have found : get (Json.readFields (lineFields context command)) "initial_revision_id" =
        Json.sorted (toJson command.revisionId) :=
      get_readFields (lineFields_distinct context command).1 (by simp [lineFields])
    rw [decoded, found]
    exact Json.same_sorted _
  line := by
    rw [show (published context.tenantId context command head).tenantId = context.tenantId from rfl,
      decoded_common, decoded_line]
    apply same_fields (lineFields_distinct context command).1
    rw [lineFields]
    exact .refl _
  revision := by
    rw [show (published context.tenantId context command head).tenantId = context.tenantId from rfl,
      decoded_common, decoded_purpose, decoded_revision]
    apply same_fields (revisionFields_distinct context command).1
    rw [revisionFields]
    simp only [List.map_cons, List.map_nil, List.cons_append, List.nil_append]
    exact .cons _ (.cons _ (.cons _ (.cons _ (.cons _ (.cons _ (.cons _ (.swap _ _ [])))))))
  request := by
    rw [show (published context.tenantId context command head).tenantId = context.tenantId from rfl,
      decoded_request]
    rfl

/-- What the factory constructs for a well-formed request is verified. -/
theorem verify_published {reader : ProjectionReader} (reads : ReadsUtf8 reader.loads)
    (formed : WellFormed context command) (head : Nat) :
    verifyPublication reader (published context.tenantId context command head) = true := by
  let batch := constructed context command (head + 1)
  have types : (published context.tenantId context command head).records.map
      OwnedRecord.recordTypeId = expectedTypes := rfl
  have tenants : ¬ ∃ record ∈ (published context.tenantId context command head).records,
      record.recordId.tenantId ≠ (published context.tenantId context command head).tenantId := by
    rintro ⟨record, member, foreign⟩
    apply foreign
    rw [published_records] at member
    simp only [Batch.records, Batch.committed, constructed, List.cons_append, List.nil_append,
      List.mem_cons, List.not_mem_nil, or_false] at member
    rcases member with rfl | rfl | rfl | rfl | rfl
    · exact formed.commandId
    · rfl
    · exact formed.intentionLineId
    · exact formed.revisionId
    · rfl
  have fine : ¬ ((published context.tenantId context command head).records.map
      OwnedRecord.recordTypeId ≠ expectedTypes ∨
        ∃ record ∈ (published context.tenantId context command head).records,
          record.recordId.tenantId ≠ (published context.tenantId context command head).tenantId) :=
    not_or.mpr ⟨not_not.mpr types, tenants⟩
  have commands : decodeRecord reader batch.command =
      some (Json.readFields (commandFields context command)) :=
    decodeRecord_record reads (by decide) (commandFields_distinct context command)
  have evidences : decodeRecord reader batch.evidence =
      some (Json.readFields (evidenceFields context command)) :=
    decodeRecord_record reads (by decide) (evidenceFields_distinct context command)
  have lines : decodeRecord reader batch.line =
      some (Json.readFields (lineFields context command)) :=
    decodeRecord_record reads (by decide) (lineFields_distinct context command)
  have revisions : decodeRecord reader batch.revision =
      some (Json.readFields (revisionFields context command)) :=
    decodeRecord_record reads (by decide) (revisionFields_distinct context command)
  have results : decodeRecord reader batch.result =
      some (Json.readFields (resultFields context command (head + 1))) :=
    decodeRecord_record reads (by decide) (resultFields_distinct context command (head + 1))
  have records : (published context.tenantId context command head).records =
      [batch.command, batch.evidence, batch.line, batch.revision, batch.result] := rfl
  rw [verifyPublication]
  rw [records] at fine ⊢
  dsimp only
  rw [if_neg fine, commands, evidences, lines, revisions, results]
  exact decide_eq_true ⟨published_bound context.tenantId context command head,
    fields_agree formed head⟩

/-- The row of a committed intention line. -/
def viewOf (context : InvocationContext) (command : CreateIntentionLine) (commitSequence : Nat) :
    IntentionLineView where
  tenantId := context.tenantId
  intentionLineId := command.intentionLineId
  revisionId := command.revisionId
  principalId := context.principalId
  purpose := command.purpose
  activity := "ACTIVE"
  personalOutcome := "OPEN"
  commitSequence := commitSequence

/-- A new intention line gives one row. -/
theorem reduce_published {reader : ProjectionReader} (reads : ReadsUtf8 reader.loads)
    (strings : ∀ text, reader.str (.str text) = text) (formed : WellFormed context command)
    (head : Nat) {rows : Rows} (fresh : rows.get? command.intentionLineId.value = none) :
    reduce reader rows (published context.tenantId context command head) =
      .ok (rows.set command.intentionLineId.value (viewOf context command (head + 1))) := by
  let batch := constructed context command (head + 1)
  have records : (published context.tenantId context command head).records =
      [batch.command, batch.evidence, batch.line, batch.revision, batch.result] := rfl
  have unique : ¬ rows.get? batch.line.recordId.value ≠ none := not_not.mpr fresh
  have revisions : decodeRecord reader batch.revision =
      some (Json.readFields (revisionFields context command)) :=
    decodeRecord_record reads (by decide) (revisionFields_distinct context command)
  have distinct := (revisionFields_distinct context command).1
  have principal : get (Json.readFields (revisionFields context command)) "principal_id" =
      .str context.principalId := get_text distinct (by simp [revisionFields])
  have purpose : get (Json.readFields (revisionFields context command)) "purpose" =
      .str command.purpose := get_text distinct (by simp [revisionFields])
  have activity : get (Json.readFields (revisionFields context command)) "activity" =
      .str "ACTIVE" := by
    have member : ("activity", toJson "ACTIVE") ∈ revisionFields context command := by
      simp [revisionFields, toJson]
    exact get_text distinct member
  have outcome : get (Json.readFields (revisionFields context command)) "personal_outcome" =
      .str "OPEN" := by
    have member : ("personal_outcome", toJson "OPEN") ∈ revisionFields context command := by
      simp [revisionFields, toJson]
    exact get_text distinct member
  rw [reduce, verify_published reads formed, records]
  dsimp only
  rw [raiseIf_neg (Bool.noConfusion : ¬ true = false), ok_bind, raiseIf_neg unique, ok_bind,
    revisions]
  dsimp only
  rw [principal, purpose, activity, outcome, strings, strings, strings, strings]
  rfl

end

end

end Chiplog.Projections
