import Chiplog.Calendar.Reads
import Chiplog.Data.Json
import Chiplog.Data.JsonReading
import Chiplog.Data.TaggedReading
import Chiplog.Platform.ReadDelivery

namespace Chiplog.Calendar

open Chiplog.Data
open Chiplog.AgentLoop (DisclosureLabel LabelValue)
open Chiplog.EvidenceJournal (SourceReference DisclosureEnvelope)
open Chiplog.Platform (BrokerReadState)

/-! The records of calendar reads are told by their JSON. -/

/-! ### Field types -/

theorem base64_inj {first second : Bytes} (same : base64 first = base64 second) :
    first = second := by
  have chars := congrArg String.toList same
  rw [base64, base64, String.toList_ofList, String.toList_ofList] at chars
  -- what the standard alphabet makes of it is decoded
  have encoded : b64encode first = b64encode second := by
    rw [b64encode, b64encode, chars]
  have decoded := b64decode_b64encode first
  rw [encoded, b64decode_b64encode] at decoded
  exact (Option.some.inj decoded).symm

instance : Json.Legible Bytes := ⟨fun _ _ same => base64_inj (Json.str.inj same)⟩

instance : Json.Legible NonemptyBytes where
  read := by
    intro first second same
    have items := base64_inj (Json.str.inj same)
    cases first
    cases second
    cases items
    rfl

instance {α : Type} [Jsonable α] [Json.Legible α] : Json.Legible (NonemptyTuple α) where
  read := by
    intro first second same
    have items : first.items = second.items := Json.read _ _ same
    cases first
    cases second
    cases items
    rfl

instance : Json.Legible (Option String) where
  read := by
    intro first second same
    cases first with
    | none => cases second with
      | none => rfl
      | some text => cases same
    | some text => cases second with
      | none => cases same
      | some other => rw [Json.str.inj same]

instance : Json.Legible (Option Int) where
  read := by
    intro first second same
    cases first with
    | none => cases second with
      | none => rfl
      | some value => cases same
    | some value => cases second with
      | none => cases same
      | some other => rw [Json.int.inj same]

instance : Json.Legible LabelValue where
  read := by
    intro first second same
    cases first <;> cases second <;> first | rfl | exact absurd (Json.str.inj same) (by decide)

instance : Json.Legible Freshness where
  read := by
    intro first second same
    cases first <;> cases second <;> first | rfl | exact absurd (Json.str.inj same) (by decide)

instance : Json.Legible Disposition where
  read := by
    intro first second same
    cases first <;> cases second <;> first | rfl | exact absurd (Json.str.inj same) (by decide)

instance : Json.Legible WorkspaceQuery where
  read := by
    intro first second same
    cases first <;> cases second <;> first | rfl | exact absurd (Json.str.inj same) (by decide)

instance : Json.Legible CalendarVariant where
  read := by
    intro first second same
    cases first <;> cases second <;> first | rfl | exact absurd (Json.str.inj same) (by decide)

/-! ### Records -/

instance : Json.Legible DisclosureLabel where
  read := by
    intro first second same
    have values := Json.sorted_obj_inj ["lattice_version", "value", "allowed_endpoints"] rfl rfl
      (by decide) same
    cases first
    cases second
    simp only [modelDump, List.map_cons, List.cons.injEq, Json.sorted_eq] at values
    rw [DisclosureLabel.mk.injEq]
    simp [values]

instance : Json.Legible SourceReference where
  read := by
    intro first second same
    have values := Json.sorted_obj_inj ["tenant_id", "owner", "record_id", "record_version",
      "content_digest", "label_head", "label"] rfl rfl (by decide) same
    cases first
    cases second
    simp only [modelDump, List.map_cons, List.cons.injEq, Json.sorted_eq] at values
    rw [SourceReference.mk.injEq]
    simp [values]

instance : Json.Legible DisclosureEnvelope where
  read := by
    intro first second same
    have values := Json.sorted_obj_inj ["tenant_id", "content_digest", "sources", "label",
      "policy_head", "contour_head", "deletion_fence_head"] rfl rfl (by decide) same
    cases first
    cases second
    simp only [modelDump, List.map_cons, List.cons.injEq, Json.sorted_eq] at values
    rw [DisclosureEnvelope.mk.injEq]
    simp [values]

instance : Json.Legible CalendarObservation where
  read := by
    intro first second same
    have values := Json.sorted_obj_inj ["provider_id", "calendar_id", "event_id", "version",
      "title", "start_ns", "end_ns", "observed_at_ns", "freshness", "envelope"] rfl rfl
      (by decide) same
    cases first
    cases second
    simp only [modelDump, List.map_cons, List.cons.injEq, Json.sorted_eq] at values
    rw [CalendarObservation.mk.injEq]
    simp [values]

instance : Json.Legible CalendarBatch where
  read := by
    intro first second same
    have values := Json.sorted_obj_inj ["revision", "observations"] rfl rfl (by decide) same
    cases first
    cases second
    simp only [modelDump, List.map_cons, List.cons.injEq, Json.sorted_eq] at values
    rw [CalendarBatch.mk.injEq]
    simp [values]

instance : Json.Legible WorkspaceRow where
  read := by
    intro first second same
    have values := Json.sorted_obj_inj ["row_id", "row_version", "order_key",
      "canonical_payload", "envelope"] rfl rfl (by decide) same
    cases first
    cases second
    simp only [modelDump, List.map_cons, List.cons.injEq, Json.sorted_eq] at values
    rw [WorkspaceRow.mk.injEq]
    simp [values]

instance : Json.Legible WorkspaceReadContext where
  read := by
    intro first second same
    have values := Json.sorted_obj_inj ["tenant_id", "database_instance_id", "principal_id",
      "principal_contour_head", "channel_id", "endpoint_binding_head", "broker_epoch", "owner_id",
      "generation_id", "session_id", "snapshot_id", "snapshot_frontier",
      "verified_snapshot_bytes", "invalidator_registry_digest", "policy_head",
      "deletion_fence_head", "observed_at_ns"] rfl rfl (by decide) same
    cases first
    cases second
    simp only [modelDump, List.map_cons, List.cons.injEq, Json.sorted_eq] at values
    rw [WorkspaceReadContext.mk.injEq]
    simp [values]

instance : Json.Legible WorkspaceReadRequest where
  read := by
    intro first second same
    have values := Json.sorted_obj_inj ["context", "query", "request_id", "read_attempt_id",
      "response_slot_id", "max_rows", "after_cursor", "detail_id", "range_start_ns",
      "range_end_ns"] rfl rfl (by decide) same
    cases first
    cases second
    simp only [modelDump, List.map_cons, List.cons.injEq, Json.sorted_eq] at values
    rw [WorkspaceReadRequest.mk.injEq]
    simp [values]

instance : Json.Legible WorkspaceReadResult where
  read := by
    intro first second same
    have values := Json.sorted_obj_inj ["disposition", "context", "request_id",
      "read_attempt_id", "rows", "next_cursor", "reason"] rfl rfl (by decide) same
    cases first
    cases second
    simp only [modelDump, List.map_cons, List.cons.injEq, Json.sorted_eq] at values
    rw [WorkspaceReadResult.mk.injEq]
    simp [values]

instance : Json.Legible CalendarReadState where
  read := by
    intro first second same
    have values := Json.sorted_obj_inj ["tenant_id", "broker_epoch", "credential_session_head",
      "endpoint_channel_head", "file_wal_observation", "journal_head",
      "materialization_commitment", "owner_generation", "owner_draining",
      "principal_contour_head", "storage_mutation_generation", "trust_transition_head",
      "authority_surface_digest", "amr_fingerprint", "database_instance_id", "principal_id",
      "channel_id", "policy_head", "deletion_fence_head", "provider_revision",
      "source_heads_digest"] rfl rfl (by decide) same
    obtain ⟨⟨⟩⟩ := first
    obtain ⟨⟨⟩⟩ := second
    simp only [modelDump, List.cons_append, List.nil_append, List.map_cons, List.cons.injEq,
      Json.sorted_eq] at values
    rw [CalendarReadState.mk.injEq, BrokerReadState.mk.injEq]
    simp [values]

instance : Json.Legible CalendarReadOperation where
  read := by
    intro first second same
    have values := Json.sorted_obj_inj ["variant", "owner_id", "capability_id", "target_id",
      "request_id", "read_attempt_id", "tenant_id", "broker_epoch", "generation_id", "session_id",
      "response_slot_id", "request_bytes"] rfl rfl (by decide) same
    cases first
    cases second
    simp only [modelDump, CalendarReadOperation.fields, List.cons_append, List.nil_append,
      List.map_cons, List.cons.injEq, Json.sorted_eq] at values
    rw [CalendarReadOperation.mk.injEq]
    simp [values]

/-- One identity, one event. -/
theorem observationId_inj {first second : CalendarObservation}
    (same : observationId first = observationId second) : first.eventId = second.eventId := by
  have ids : [first.providerId, first.calendarId, first.eventId] =
      [second.providerId, second.calendarId, second.eventId] :=
    Json.encodeAscii_read (congrArg utf8 same)
  exact (List.cons.inj (List.cons.inj (List.cons.inj ids).2).2).1

/-! ### Reading back -/

/-- One dumped text, one value. -/
theorem modelDumpJson_inj {α : Type} [Jsonable α] [Json.Legible α] {first second : α}
    (same : utf8 (modelDumpJson first) = utf8 (modelDumpJson second)) : first = second :=
  Json.read _ _ (congrArg Json.sorted (Json.dumpsInOrder_inj (utf8_inj same)))

open Classical in
/-- The reader that knows the dumped texts and nothing else. -/
@[reducible] noncomputable def dumpedText (α : Type) [Jsonable α] [Json.Legible α] : Wire α where
  modelValidateJson raw :=
    if known : ∃ value : α, utf8 (modelDumpJson value) = raw then some known.choose else none
  validate_dump value := by
    have known : ∃ other : α, utf8 (modelDumpJson other) = utf8 (modelDumpJson value) :=
      ⟨value, rfl⟩
    rw [dif_pos known]
    exact congrArg some (modelDumpJson_inj known.choose_spec)

end Chiplog.Calendar
