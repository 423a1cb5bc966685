import Chiplog.Data.JsonAscii
import Chiplog.EvidenceJournal.Contracts
import Mathlib.Data.Prod.Lex

namespace Chiplog.Calendar

open Chiplog.Data
open Chiplog.AgentLoop (DisclosureLabel LabelValue sortedSet)
open Chiplog.EvidenceJournal (SourceReference DisclosureEnvelope)

/-! Calendar evidence and the rows prepared from it.

A row is keyed by the start of its event and by the identity of its source, which no two rows of
a batch share, so the rows have one strict order. -/

/-! ### Text -/

mutual
/-- `json.dumps(value, sort_keys=True)`, with the default separators. -/
def dumpsSpaced : Json → String
  | .arr items => "[" ++ ", ".intercalate (spacedItems items) ++ "]"
  | .obj fields =>
      "\x7b" ++ ", ".intercalate ((Json.sortKeys (spacedFields fields)).map
        (fun field => Json.quote field.1 ++ ": " ++ field.2)) ++ "\x7d"
  | scalar => scalar.dumps

def spacedItems : List Json → List String
  | [] => []
  | item :: rest => dumpsSpaced item :: spacedItems rest

def spacedFields : List (String × Json) → List (String × String)
  | [] => []
  | (key, value) :: rest => (key, dumpsSpaced value) :: spacedFields rest
end

def encodeSpaced (value : Json) : Bytes :=
  utf8 (String.ofList ((dumpsSpaced value).toList.flatMap Json.asciiChar))

/-- `model_dump_json()`. -/
def modelDumpJson {α : Type} [Jsonable α] (value : α) : String := (toJson value).dumpsInOrder

/-! ### Observations -/

inductive Freshness where
  | current
  | lagging
  | unknown
deriving DecidableEq

instance : Jsonable Freshness := ⟨fun
  | .current => .str "CURRENT"
  | .lagging => .str "LAGGING"
  | .unknown => .str "UNKNOWN"⟩

structure CalendarObservation where
  providerId : Identity
  calendarId : Identity
  eventId : Identity
  version : Identity
  title : String
  startNs : Nat
  endNs : Nat
  observedAtNs : Nat
  freshness : Freshness
  envelope : DisclosureEnvelope
deriving DecidableEq

instance : Model CalendarObservation := ⟨fun value =>
  [("provider_id", toJson value.providerId), ("calendar_id", toJson value.calendarId),
    ("event_id", toJson value.eventId), ("version", toJson value.version),
    ("title", toJson value.title), ("start_ns", toJson value.startNs),
    ("end_ns", toJson value.endNs), ("observed_at_ns", toJson value.observedAtNs),
    ("freshness", toJson value.freshness), ("envelope", toJson value.envelope)]⟩

structure CalendarBatch where
  revision : Identity
  observations : List CalendarObservation
deriving DecidableEq

instance : Model CalendarBatch := ⟨fun value =>
  [("revision", toJson value.revision), ("observations", toJson value.observations)]⟩

structure WorkspaceRow where
  rowId : String
  rowVersion : Identity
  orderKey : String
  canonicalPayload : Bytes
  envelope : DisclosureEnvelope
deriving DecidableEq

instance : Model WorkspaceRow := ⟨fun value =>
  [("row_id", toJson value.rowId), ("row_version", toJson value.rowVersion),
    ("order_key", toJson value.orderKey), ("canonical_payload", toJson value.canonicalPayload),
    ("envelope", toJson value.envelope)]⟩

def observationId (observation : CalendarObservation) : String :=
  (Json.arr [toJson observation.providerId, toJson observation.calendarId,
    toJson observation.eventId]).dumpsAscii

/-- The fields of `observation_payload`. -/
def payloadFields (observation : CalendarObservation) : List (String × Json) :=
  [("calendar_id", toJson observation.calendarId), ("end_ns", toJson observation.endNs),
    ("event_id", toJson observation.eventId), ("freshness", toJson observation.freshness),
    ("observed_at_ns", toJson observation.observedAtNs),
    ("provider_id", toJson observation.providerId), ("start_ns", toJson observation.startNs),
    ("status", .str "provider observed"), ("title", toJson observation.title),
    ("version", toJson observation.version)]

def observationPayload (observation : CalendarObservation) : Bytes :=
  (Json.obj (payloadFields observation)).encodeAscii

/-- `f"{value:030d}"`. -/
def padded (value : Nat) : String :=
  String.ofList (List.replicate (30 - (toString value).length) '0') ++ toString value

def orderKey (observation : CalendarObservation) : String :=
  padded observation.startNs ++ ":" ++ observationId observation

/-- The row of an observation that passed every check. -/
def rowOf (observation : CalendarObservation) : WorkspaceRow where
  rowId := observationId observation
  rowVersion := observation.version
  orderKey := orderKey observation
  canonicalPayload := observationPayload observation
  envelope := observation.envelope

/-! ### Rows -/

/-- What a source is ordered by. -/
def sourceId (source : SourceReference) : String ×ₗ String ×ₗ String :=
  toLex (source.owner.text, toLex (source.recordId.text, source.recordVersion.text))

/-- `sorted(set(source_ids))`. -/
def sortedIds (ids : List (String ×ₗ String ×ₗ String)) : List (String ×ₗ String ×ₗ String) :=
  ids.dedup.insertionSort (· ≤ ·)

/-- The body of the loop over the labels of the sources. -/
def restrict (allowed : Option (List String)) (label : DisclosureLabel) :
    Except String (Option (List String)) := do
  let endpoints := label.allowedEndpoints
  raiseIf (sortedSet endpoints ≠ endpoints) "noncanonical disclosure endpoints"
  raiseIf (label.value = .denyAll) "calendar disclosure denied"
  if label.value = .unrestricted then do
    raiseIf (endpoints ≠ []) "unrestricted label carries endpoints"
    .ok allowed
  else do
    raiseIf (endpoints = []) "empty restricted label"
    .ok (some (match allowed with
      | none => endpoints
      | some known => known.filter (fun endpoint => endpoint ∈ endpoints)))

section

variable [Hashlib]

/-- The heads that a batch was observed at, each once. -/
def sourceHeadsDigest (batch : CalendarBatch) : String :=
  let heads := sortedSet (batch.observations.flatMap (fun observation =>
    observation.envelope.sources.items.map modelDumpJson))
  (sha256 (encodeSpaced (toJson heads))).text

/-- The heads and the channel that rows are prepared for. -/
structure Preparation where
  tenant : String
  policy : String
  contour : String
  fence : String
  endpoint : String

/-- The checks of one observation in the loop of `prepare_rows`. -/
def checkObservation (preparation : Preparation) (observation : CalendarObservation) :
    Except String Unit := do
  let envelope := observation.envelope
  let digest := (sha256 (observationPayload observation)).text
  raiseIf (envelope.tenantId.text ≠ preparation.tenant ∨
      envelope.policyHead.text ≠ preparation.policy ∨
      envelope.contourHead.text ≠ preparation.contour ∨
      envelope.deletionFenceHead.text ≠ preparation.fence ∨ envelope.contentDigest.text ≠ digest)
    "calendar envelope differs from current context or canonical content"
  let sources := envelope.sources.items
  raiseIf (sources.map sourceId ≠ sortedIds (sources.map sourceId) ∨
      ∃ source ∈ sources, source.tenantId.text ≠ preparation.tenant)
    "duplicate, reordered or foreign calendar provenance"
  raiseIf (¬ ∃ source ∈ sources, source.owner.text = "calendar_observations" ∧
      source.recordId.text = observationId observation ∧
      source.recordVersion = observation.version ∧ source.contentDigest = envelope.contentDigest)
    "calendar provenance omits exact source identity/version/digest"
  let allowed ← (sources.map SourceReference.label).foldlM restrict none
  let value := match allowed with
    | none => LabelValue.unrestricted
    | some _ => LabelValue.endpointRestricted
  let endpoints := match allowed with
    | none => []
    | some endpoints => sortedSet endpoints
  raiseIf (envelope.label.value ≠ value ∨ envelope.label.allowedEndpoints ≠ endpoints ∨
      ∃ endpoints, allowed = some endpoints ∧ preparation.endpoint ∉ endpoints)
    "calendar disclosure narrows sources or denies endpoint"

/-- The body of the loop of `prepare_rows`; the rows carry the identities seen. -/
def prepareRow (preparation : Preparation) (rows : List WorkspaceRow)
    (observation : CalendarObservation) : Except String (List WorkspaceRow) := do
  raiseIf (observationId observation ∈ rows.map WorkspaceRow.rowId ∨
      observation.endNs < observation.startNs)
    "duplicate calendar identity or invalid interval"
  checkObservation preparation observation
  .ok (rows ++ [rowOf observation])

def prepareRows (batch : CalendarBatch) (preparation : Preparation) :
    Except String (List WorkspaceRow) := do
  let rows ← batch.observations.foldlM (prepareRow preparation) []
  .ok (rows.insertionSort (fun first second => first.orderKey ≤ second.orderKey))

end

end Chiplog.Calendar

namespace Chiplog.Calendar

open Chiplog.Data

/-! The rows of a batch.

They are the observations of the batch, each once, in strict order of their keys; the interval of
an event is read back from its payload. -/

/-! ### Keys -/

theorem padded_digits (value : Nat) : ∀ char ∈ (padded value).toList, char.isDigit := by
  intro char member
  rw [padded, String.toList_append, String.toList_ofList] at member
  rcases List.mem_append.mp member with zero | digit
  · rw [List.eq_of_mem_replicate zero]
    decide
  · exact Json.repr_digits value char digit

theorem orderKey_toList (observation : CalendarObservation) : (orderKey observation).toList =
    (padded observation.startNs).toList ++ ':' :: (observationId observation).toList := by
  rw [orderKey, String.toList_append, String.toList_append, List.append_assoc]
  rfl

/-- The key of an event ends in its identity. -/
theorem orderKey_inj {first second : CalendarObservation}
    (same : orderKey first = orderKey second) : observationId first = observationId second := by
  have chars := congrArg String.toList same
  rw [orderKey_toList, orderKey_toList] at chars
  have stops (rest : List Char) : Json.Stops (':' :: rest) := by
    intro char member
    cases member
    decide
  obtain ⟨_, rest⟩ := Json.digits_cut (padded_digits _) (padded_digits _) (stops _) (stops _) chars
  exact String.toList_inj.mp (List.cons.inj rest).2

/-! ### Rows -/

theorem observationId_ne_empty (observation : CalendarObservation) :
    observationId observation ≠ "" := by
  intro empty
  have chars := congrArg String.toList empty
  have bracket : Json.asciiChar '[' = ['['] := by decide
  rw [observationId, Json.dumpsAscii, Json.dumps, String.toList_ofList, String.toList_append,
    String.toList_append, List.flatMap_append, List.flatMap_append,
    show "[".toList = ['['] from rfl, List.flatMap_cons, bracket] at chars
  cases chars

theorem sortedIds_sorted {ids : List (String ×ₗ String ×ₗ String)}
    (sorted : ids.Pairwise (· < ·)) : ids = sortedIds ids := by
  have distinct : ids.Nodup := sorted.imp (fun less => less.ne)
  rw [sortedIds, distinct.dedup]
  exact (List.Pairwise.insertionSort_eq (sorted.imp (fun less => less.le))).symm

theorem rowOf_rowId (observation : CalendarObservation) :
    (rowOf observation).rowId = observationId observation := by
  rw [rowOf]

section

variable [Hashlib] {batch : CalendarBatch} {preparation : Preparation} {rows : List WorkspaceRow}

theorem prepareRow_ok {known next : List WorkspaceRow} {observation : CalendarObservation}
    (prepared : prepareRow preparation known observation = .ok next) :
    observationId observation ∉ known.map WorkspaceRow.rowId ∧
      observation.startNs ≤ observation.endNs ∧ next = known ++ [rowOf observation] := by
  rw [prepareRow] at prepared
  obtain ⟨_, fresh, prepared⟩ := bind_ok.mp prepared
  obtain ⟨_, _, prepared⟩ := bind_ok.mp prepared
  obtain ⟨fresh, ordered⟩ := not_or.mp (raiseIf_ok.mp fresh)
  exact ⟨fresh, Nat.le_of_not_lt ordered, (Except.ok.inj prepared).symm⟩

/-- What the loop over the observations has made of those it is done with. -/
structure Prepared (done : List CalendarObservation) (rows : List WorkspaceRow) : Prop where
  rows : rows = done.map rowOf
  distinct : (done.map observationId).Nodup
  ordered : ∀ observation ∈ done, observation.startNs ≤ observation.endNs

theorem prepareRows_prepared (prepared : prepareRows batch preparation = .ok rows) :
    Prepared batch.observations (batch.observations.map rowOf) ∧
      rows = (batch.observations.map rowOf).insertionSort
        (fun first second => first.orderKey ≤ second.orderKey) := by
  rw [prepareRows] at prepared
  obtain ⟨looped, returned, prepared⟩ := bind_ok.mp prepared
  have kept : Prepared batch.observations looped := by
    refine foldlM_invariant Prepared ⟨rfl, List.nodup_nil, by simp⟩ ?_ returned
    intro done observation known next state round
    obtain ⟨fresh, ordered, same⟩ := prepareRow_ok round
    refine ⟨?_, ?_, ?_⟩
    · rw [same, state.rows, List.map_append, List.map_singleton]
    · rw [List.map_append, List.map_singleton]
      refine List.nodup_append.mpr ⟨state.distinct, List.nodup_singleton _, ?_⟩
      intro first before second last equal
      rw [List.mem_singleton.mp last] at equal
      apply fresh
      rw [state.rows, List.map_map]
      exact equal ▸ before
    · intro other member
      rcases List.mem_append.mp member with before | last
      · exact state.ordered other before
      · rw [List.mem_singleton.mp last]
        exact ordered
  have same := kept.rows
  subst same
  exact ⟨kept, (Except.ok.inj prepared).symm⟩

/-- The rows are the observations. -/
theorem prepareRows_perm (prepared : prepareRows batch preparation = .ok rows) :
    rows.Perm (batch.observations.map rowOf) := by
  rw [(prepareRows_prepared prepared).2]
  exact List.perm_insertionSort _ _

/-- The rows are in strict order of their keys. -/
theorem prepareRows_sorted (prepared : prepareRows batch preparation = .ok rows) :
    (rows.map WorkspaceRow.orderKey).Pairwise (· < ·) := by
  obtain ⟨kept, same⟩ := prepareRows_prepared prepared
  have permuted := (prepareRows_perm prepared).map WorkspaceRow.orderKey
  have keys : ((batch.observations.map rowOf).map WorkspaceRow.orderKey).Nodup := by
    rw [List.map_map]
    apply List.Nodup.map_on
    · intro first member second other equal
      exact List.inj_on_of_nodup_map kept.distinct member other (orderKey_inj equal)
    · exact List.Nodup.of_map _ kept.distinct
  have distinct := permuted.nodup_iff.mpr keys
  have sorted : (rows.map WorkspaceRow.orderKey).Pairwise (· ≤ ·) := by
    rw [same]
    exact List.pairwise_map.mpr (List.pairwise_insertionSort _ _)
  exact (sorted.and distinct).imp (fun both => lt_of_le_of_ne both.1 both.2)

theorem mem_prepareRows (prepared : prepareRows batch preparation = .ok rows)
    {row : WorkspaceRow} : row ∈ rows ↔ ∃ observation ∈ batch.observations,
      rowOf observation = row := by
  rw [(prepareRows_perm prepared).mem_iff, List.mem_map]

end

end Chiplog.Calendar
