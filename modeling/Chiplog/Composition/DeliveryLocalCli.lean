import Chiplog.Composition.EffectRecords
import Chiplog.Data.Checked
import Chiplog.Data.JsonDecoding
import Chiplog.Data.Sha256
import Chiplog.Data.Traces

namespace Chiplog.Composition.DeliveryLocalCli

open Chiplog.Data

/-! Durable delivery into a private inbox.

A delivery is one file, named after its transmission and linked whole from a pending file: the
ticket and the receipt that the inbox key signs.  What a provider finds under the name it reads
back, checks and hands out; it never writes there twice. -/

def contractVersion : String := "chiplog.local-cli.delivery.v1"

def domain : Bytes := utf8 "chiplog.local-cli.delivery.receipt.v1" ++ [0]

inductive DeliveryFailure where
  | value (reason : String)
  | permission (reason : String)
  | typeError
  -- what `json`, `pydantic` or `fromhex` raise
  | decoding
deriving DecidableEq

/-- The two decoders of JSON text: `json.loads`, and the parser under `model_validate_json`. -/
structure DeliveryReader where
  loads : Bytes → Option Json
  parse : Bytes → Option Json

/-! ### Tickets -/

/-- The fields that `_ticket_bytes` takes for identities. -/
def identities (ticket : IssuedEffectSendTicket) : List String :=
  [ticket.tenantId, ticket.issuedOperationId, ticket.journalDecisionId,
    ticket.journalDecisionFingerprint, ticket.transmissionId, ticket.transmissionFingerprint,
    ticket.intentId, ticket.intentFingerprint, ticket.provider, ticket.account, ticket.recipient,
    ticket.endpointHead, ticket.credentialBindingHead, ticket.adapterContractVersion,
    ticket.payloadFingerprint, ticket.idempotencyKey]

def ticketFields : List String :=
  ["tenant_id", "issued_operation_id", "journal_decision_id", "journal_decision_fingerprint",
    "transmission_id", "transmission_fingerprint", "request_ordinal", "intent_id",
    "intent_fingerprint", "provider", "account", "recipient", "canonical_address",
    "endpoint_head", "credential_binding_head", "adapter_contract_version", "payload",
    "payload_fingerprint", "idempotency_key", "bundle_members"]

/-- `IssuedEffectSendTicket(**value)` with its bytes and members read; fields of another type,
which `_ticket_bytes` raises on, are left out here. -/
def ticketOf? : Json → Option IssuedEffectSendTicket
  | .obj fields =>
      if ∀ field ∈ fields, field.1 ∈ ticketFields then do
        some {
          tenantId := ← text? "tenant_id" fields
          issuedOperationId := ← text? "issued_operation_id" fields
          journalDecisionId := ← text? "journal_decision_id" fields
          journalDecisionFingerprint := ← text? "journal_decision_fingerprint" fields
          transmissionId := ← text? "transmission_id" fields
          transmissionFingerprint := ← text? "transmission_fingerprint" fields
          requestOrdinal := ← ordinal? "request_ordinal" fields
          intentId := ← text? "intent_id" fields
          intentFingerprint := ← text? "intent_fingerprint" fields
          provider := ← text? "provider" fields
          account := ← text? "account" fields
          recipient := ← text? "recipient" fields
          canonicalAddress := ← hex? "canonical_address" fields
          endpointHead := ← text? "endpoint_head" fields
          credentialBindingHead := ← text? "credential_binding_head" fields
          adapterContractVersion := ← text? "adapter_contract_version" fields
          payload := ← hex? "payload" fields
          payloadFingerprint := ← text? "payload_fingerprint" fields
          idempotencyKey := ← text? "idempotency_key" fields
          bundleMembers := ← texts? "bundle_members" fields }
      else none
  | _ => none

section

variable [Hashlib]

/-- `_ticket_bytes`. -/
def ticketBytes (ticket : IssuedEffectSendTicket) : Except DeliveryFailure Bytes := do
  raiseIf (ticket.adapterContractVersion ≠ contractVersion ∨ ticket.payload = [] ∨
      ticket.canonicalAddress = [] ∨ (sha256 ticket.payload).text ≠ ticket.payloadFingerprint ∨
      ticket.bundleMembers = [] ∨ ¬ ticket.bundleMembers.Nodup ∨ "" ∈ ticket.bundleMembers)
    (.value "invalid local CLI delivery ticket")
  raiseIf ("" ∈ identities ticket) (.value "invalid ticket identity")
  .ok ticket.encoded

/-- `_decode_ticket`. -/
def decodeTicket (reader : DeliveryReader) (raw : Bytes) :
    Except DeliveryFailure IssuedEffectSendTicket :=
  match reader.loads raw >>= ticketOf? with
  | none => .error .decoding
  | some ticket => do
      let bytes ← ticketBytes ticket
      raiseIf (bytes ≠ raw) (.value "stored ticket is not canonical")
      .ok ticket

/-! ### Receipts -/

structure Receipt where
  ticketFingerprint : String
  signature : String

/-- `_canonical(receipt.model_dump())`. -/
def Receipt.canonical (receipt : Receipt) : Bytes :=
  (Json.obj [("schema_id", .str "chiplog.local-cli.delivery.receipt.v1"),
    ("ticket_fingerprint", .str receipt.ticketFingerprint),
    ("signature", .str receipt.signature)]).encodeAscii

/-- `_Receipt.model_validate_json`. -/
def receiptOf? (reader : DeliveryReader) (raw : Bytes) : Option Receipt := do
  match ← textFields? ["schema_id", "ticket_fingerprint", "signature"] (← reader.parse raw) with
  | [schemaId, ticketFingerprint, signature] =>
      if schemaId = "chiplog.local-cli.delivery.receipt.v1" then some ⟨ticketFingerprint, signature⟩
      else none
  | _ => none

def fingerprint (raw : Bytes) : String := (sha256 raw).text

/-- `hmac.digest(key, _DOMAIN + fingerprint.encode(), "sha256").hex()`. -/
def signature (key : Bytes) (fingerprint : String) : String :=
  (Hmac.hmac key (domain ++ utf8 fingerprint)).text

structure LocalCliReceiptObservation where
  occurredMembers : List String
  permanentlyIncapableMembers : List String

/-- `verify_local_cli_receipt`. -/
def verifyLocalCliReceipt (reader : DeliveryReader) (ticket : IssuedEffectSendTicket) (raw : Bytes)
    (registeredReceiptKey : Bytes) : Except DeliveryFailure LocalCliReceiptObservation := do
  let bytes ← ticketBytes ticket
  match receiptOf? reader raw with
  | none => .error .decoding
  | some receipt => do
      raiseIf (registeredReceiptKey = [] ∨ receipt.canonical ≠ raw ∨
          receipt.ticketFingerprint ≠ fingerprint bytes)
        (.value "local CLI delivery receipt authentication failed")
      -- `hmac.compare_digest` takes no text outside ASCII
      raiseIf (∃ char ∈ receipt.signature.toList, 128 ≤ char.toNat) .typeError
      raiseIf (receipt.signature ≠ signature registeredReceiptKey (fingerprint bytes))
        (.value "local CLI delivery receipt authentication failed")
      .ok ⟨ticket.bundleMembers, []⟩

/-! ### Stored deliveries -/

structure Stored where
  ticketHex : String
  receiptHex : String

/-- `_canonical(stored.model_dump())`. -/
def Stored.canonical (stored : Stored) : Bytes :=
  (Json.obj [("schema_id", .str "chiplog.local-cli.delivery.stored.v1"),
    ("ticket_hex", .str stored.ticketHex), ("receipt_hex", .str stored.receiptHex)]).encodeAscii

/-- `_Stored.model_validate_json`. -/
def storedOf? (reader : DeliveryReader) (raw : Bytes) : Option Stored := do
  match ← textFields? ["schema_id", "ticket_hex", "receipt_hex"] (← reader.parse raw) with
  | [schemaId, ticketHex, receiptHex] =>
      if schemaId = "chiplog.local-cli.delivery.stored.v1" then some ⟨ticketHex, receiptHex⟩
      else none
  | _ => none

/-- The bytes of an optional result, or the exception of its decoder. -/
def decoded {α : Type} : Option α → Except DeliveryFailure α
  | some value => .ok value
  | none => .error .decoding

/-- The receipt that an inbox key gives for a ticket. -/
def rawReceipt (key : Bytes) (ticket : IssuedEffectSendTicket) : Bytes :=
  Receipt.canonical ⟨fingerprint ticket.encoded, signature key (fingerprint ticket.encoded)⟩

/-- The file of a delivery. -/
def storedBytes (key : Bytes) (ticket : IssuedEffectSendTicket) : Bytes :=
  Stored.canonical ⟨hex ticket.encoded, hex (rawReceipt key ticket)⟩

/-- The files of an inbox directory, by name. -/
abbrev Files := String → Option Bytes

structure LocalCliDeliveryProvider where
  uid : Nat
  principalId : String
  -- `str(directory.resolve())`
  directory : String
  receiptKey : Bytes
  keyed : receiptKey ≠ []
  named : principalId ≠ ""

/-- The file name of a transmission. -/
def fileName (transmissionId : String) : String :=
  (sha256 (utf8 transmissionId)).text ++ ".json"

namespace LocalCliDeliveryProvider

variable (provider : LocalCliDeliveryProvider)

def accountId : String := "uid:" ++ toString provider.uid

def canonicalAddress : Bytes :=
  utf8 ("local-cli-inbox://uid/" ++ toString provider.uid ++ "/" ++ provider.principalId)

def endpointBytes : Bytes :=
  (Json.arr [.str contractVersion, .int provider.uid, .str provider.principalId,
    .str provider.directory]).encodeAscii

def endpointHead : String := "local-cli:" ++ fingerprint provider.endpointBytes

def credentialBindingHead : String := "local-cli-key:" ++ fingerprint provider.receiptKey

/-- `_validate_target`. -/
def validateTarget (ticket : IssuedEffectSendTicket) : Except DeliveryFailure Unit := do
  let _ ← ticketBytes ticket
  raiseIf ((ticket.provider, ticket.account, ticket.recipient, ticket.canonicalAddress,
      ticket.endpointHead, ticket.credentialBindingHead) ≠
        ("local-cli-inbox", provider.accountId, provider.principalId, provider.canonicalAddress,
          provider.endpointHead, provider.credentialBindingHead))
    (.permission "ticket does not target this registered local CLI inbox")

def verifyReceipt (reader : DeliveryReader) (ticket : IssuedEffectSendTicket) (raw : Bytes) :
    Except DeliveryFailure LocalCliReceiptObservation := do
  provider.validateTarget ticket
  verifyLocalCliReceipt reader ticket raw provider.receiptKey

/-- `_selected` on the content of the file. -/
def selectedRecord (reader : DeliveryReader) (transmissionId : String) (raw : Bytes) :
    Except DeliveryFailure (IssuedEffectSendTicket × Bytes) := do
  let stored ← decoded (storedOf? reader raw)
  raiseIf (stored.canonical ≠ raw) (.value "local inbox record is not canonical")
  let bytes ← decoded (fromhex stored.ticketHex.toList)
  let ticket ← decodeTicket reader bytes
  let receipt ← decoded (fromhex stored.receiptHex.toList)
  provider.validateTarget ticket
  raiseIf (ticket.transmissionId ≠ transmissionId)
    (.value "local inbox physical and logical identities differ")
  let _ ← provider.verifyReceipt reader ticket receipt
  .ok (ticket, receipt)

/-- `_selected`. -/
def selected (reader : DeliveryReader) (files : Files) (transmissionId : String) :
    Except DeliveryFailure (Option (IssuedEffectSendTicket × Bytes)) := do
  raiseIf (transmissionId = "") (.value "transmission identity is required")
  match files (fileName transmissionId) with
  | none => .ok none
  | some raw => do
      let found ← provider.selectedRecord reader transmissionId raw
      .ok (some found)

def reconcile (reader : DeliveryReader) (files : Files) (transmissionId : String) :
    Except DeliveryFailure (Option Bytes) := do
  let found ← provider.selected reader files transmissionId
  .ok (found.map Prod.snd)

def readPayload (reader : DeliveryReader) (files : Files) (transmissionId : String) :
    Except DeliveryFailure (Option Bytes) := do
  let found ← provider.selected reader files transmissionId
  .ok (found.map (fun selected => selected.1.payload))

end LocalCliDeliveryProvider

end

end Chiplog.Composition.DeliveryLocalCli

namespace Chiplog.Composition.DeliveryLocalCli

open Chiplog.Data

/-! What a provider reads back.

A ticket is decoded from its own bytes and from no others, so a stored delivery is read as the
ticket that was stored, and its receipt is accepted for that ticket alone. -/

/-! ### Tickets -/

/-- The record that `_ticket_bytes` encodes. -/
def ticketRecord (ticket : IssuedEffectSendTicket) : List (String × Json) :=
  [("tenant_id", toJson ticket.tenantId),
    ("issued_operation_id", toJson ticket.issuedOperationId),
    ("journal_decision_id", toJson ticket.journalDecisionId),
    ("journal_decision_fingerprint", toJson ticket.journalDecisionFingerprint),
    ("transmission_id", toJson ticket.transmissionId),
    ("transmission_fingerprint", toJson ticket.transmissionFingerprint),
    ("request_ordinal", toJson ticket.requestOrdinal), ("intent_id", toJson ticket.intentId),
    ("intent_fingerprint", toJson ticket.intentFingerprint),
    ("provider", toJson ticket.provider), ("account", toJson ticket.account),
    ("recipient", toJson ticket.recipient),
    ("canonical_address", .str (hex ticket.canonicalAddress)),
    ("endpoint_head", toJson ticket.endpointHead),
    ("credential_binding_head", toJson ticket.credentialBindingHead),
    ("adapter_contract_version", toJson ticket.adapterContractVersion),
    ("payload", .str (hex ticket.payload)),
    ("payload_fingerprint", toJson ticket.payloadFingerprint),
    ("idempotency_key", toJson ticket.idempotencyKey),
    ("bundle_members", toJson ticket.bundleMembers)]

theorem encoded_ticketRecord (ticket : IssuedEffectSendTicket) :
    ticket.encoded = (Json.obj (ticketRecord ticket)).encodeAscii := rfl

theorem ticketRecord_names (ticket : IssuedEffectSendTicket) :
    (ticketRecord ticket).map Prod.fst = ticketFields := rfl

theorem ticketRecord_flat (ticket : IssuedEffectSendTicket) :
    ∀ field ∈ ticketRecord ticket, Json.Flat field.2 := by
  have text (value : String) : Json.Flat (toJson value) := .str value
  have raw (value : Bytes) : Json.Flat (.str (hex value)) := .str _
  have number (value : Nat) : Json.Flat (toJson value) := .int _
  have list (values : List String) : Json.Flat (toJson values) := .texts values
  simp [ticketRecord, text, raw, number, list]

/-- A ticket is rebuilt from its fields. -/
theorem ticketOf?_record (ticket : IssuedEffectSendTicket) :
    ticketOf? (.obj (Json.sortFields (ticketRecord ticket))) = some ticket := by
  have distinct : ((ticketRecord ticket).map Prod.fst).Nodup := by
    rw [ticketRecord_names]
    decide
  have known : ∀ field ∈ Json.sortFields (ticketRecord ticket), field.1 ∈ ticketFields := by
    intro field member
    rw [← ticketRecord_names ticket]
    exact List.mem_map_of_mem (Json.mem_sortFields.mp member)
  have found : ∀ field ∈ ticketRecord ticket,
      (Json.sortFields (ticketRecord ticket)).lookup field.1 = some field.2 :=
    fun _ member => Json.lookup_sortFields distinct member
  rw [ticketOf?, if_pos known]
  generalize Json.sortFields (ticketRecord ticket) = fields at found
  simp only [ticketRecord, List.forall_mem_cons] at found
  obtain ⟨tenant, operation, decision, decisionPrint, transmission, transmissionPrint, ordinal,
    intent, intentPrint, provider, account, recipient, address, endpoint, credential, version,
    payload, payloadPrint, idempotency, members, _⟩ := found
  rw [text?_of_lookup tenant, text?_of_lookup operation, text?_of_lookup decision,
    text?_of_lookup decisionPrint, text?_of_lookup transmission,
    text?_of_lookup transmissionPrint, ordinal?_of_lookup ordinal, text?_of_lookup intent,
    text?_of_lookup intentPrint, text?_of_lookup provider, text?_of_lookup account,
    text?_of_lookup recipient, hex?_of_lookup address, text?_of_lookup endpoint,
    text?_of_lookup credential, text?_of_lookup version, hex?_of_lookup payload,
    text?_of_lookup payloadPrint, text?_of_lookup idempotency, texts?_of_lookup members]
  rfl

/-- The bytes of a ticket determine it. -/
theorem encoded_inj {first second : IssuedEffectSendTicket}
    (same : first.encoded = second.encoded) : first = second := by
  rw [encoded_ticketRecord, encoded_ticketRecord] at same
  have values := Json.encodeAscii_inj same
  rw [Json.sorted_flat (ticketRecord_flat first), Json.sorted_flat (ticketRecord_flat second)]
    at values
  have read := ticketOf?_record first
  rw [values, ticketOf?_record second] at read
  exact (Option.some.inj read).symm

section

variable [Hashlib] {reader : DeliveryReader} {ticket : IssuedEffectSendTicket}

theorem ticketBytes_ok {raw : Bytes}
    (accepted : ticketBytes ticket = .ok raw) : raw = ticket.encoded := by
  rw [ticketBytes] at accepted
  obtain ⟨_, _, accepted⟩ := bind_ok.mp accepted
  obtain ⟨_, _, accepted⟩ := bind_ok.mp accepted
  exact (Except.ok.inj accepted).symm

/-- `_decode_ticket` inverts `_ticket_bytes`. -/
theorem decodeTicket_ticketBytes (loads : ReadsFlat reader.loads)
    {raw : Bytes} (accepted : ticketBytes ticket = .ok raw) :
    decodeTicket reader raw = .ok ticket := by
  have same := ticketBytes_ok accepted
  have distinct : ((ticketRecord ticket).map Prod.fst).Nodup := by
    rw [ticketRecord_names]
    decide
  have read : (reader.loads raw >>= ticketOf?) = some ticket := by
    rw [same, encoded_ticketRecord]
    exact Option.bind_eq_some_iff.mpr
      ⟨_, loads _ distinct (ticketRecord_flat ticket), ticketOf?_record ticket⟩
  rw [decodeTicket, read]
  dsimp only
  rw [accepted, ok_bind, raiseIf_neg (not_not.mpr rfl)]
  rfl

/-! ### Receipts -/

omit [Hashlib] in
/-- A record of texts is parsed into its texts. -/
theorem textFields?_parse (parse : ReadsFlat reader.parse) {fields : List (String × String)}
    (distinct : (fields.map Prod.fst).Nodup) :
    (do textFields? (fields.map Prod.fst) (← reader.parse
      (Json.obj (fields.map (fun field => (field.1, .str field.2)))).encodeAscii)) =
        some (fields.map Prod.snd) := by
  rw [parse]
  · exact textFields?_sortFields distinct
  · rw [List.map_map]
    exact distinct
  · intro field member
    obtain ⟨own, _, rfl⟩ := List.mem_map.mp member
    exact .str own.2

omit [Hashlib] in
theorem receiptOf?_canonical (parse : ReadsFlat reader.parse) (receipt : Receipt) :
    receiptOf? reader receipt.canonical = some receipt := by
  have distinct : ([("schema_id", "chiplog.local-cli.delivery.receipt.v1"),
      ("ticket_fingerprint", receipt.ticketFingerprint),
      ("signature", receipt.signature)].map Prod.fst).Nodup := by
    change ["schema_id", "ticket_fingerprint", "signature"].Nodup
    decide
  obtain ⟨value, parsed, texts⟩ := Option.bind_eq_some_iff.mp (textFields?_parse parse distinct)
  rw [receiptOf?, Receipt.canonical]
  refine Option.bind_eq_some_iff.mpr ⟨value, parsed, ?_⟩
  exact Option.bind_eq_some_iff.mpr ⟨_, texts, if_pos rfl⟩

omit [Hashlib] in
theorem storedOf?_canonical (parse : ReadsFlat reader.parse) (stored : Stored) :
    storedOf? reader stored.canonical = some stored := by
  have distinct : ([("schema_id", "chiplog.local-cli.delivery.stored.v1"),
      ("ticket_hex", stored.ticketHex),
      ("receipt_hex", stored.receiptHex)].map Prod.fst).Nodup := by
    change ["schema_id", "ticket_hex", "receipt_hex"].Nodup
    decide
  obtain ⟨value, parsed, texts⟩ := Option.bind_eq_some_iff.mp (textFields?_parse parse distinct)
  rw [storedOf?, Stored.canonical]
  refine Option.bind_eq_some_iff.mpr ⟨value, parsed, ?_⟩
  exact Option.bind_eq_some_iff.mpr ⟨_, texts, if_pos rfl⟩

/-- A verified receipt is the one that the key gives for the ticket. -/
theorem verifyLocalCliReceipt_ok {raw key : Bytes} {observation : LocalCliReceiptObservation}
    (verified : verifyLocalCliReceipt reader ticket raw key = .ok observation) :
    raw = rawReceipt key ticket := by
  rw [verifyLocalCliReceipt] at verified
  obtain ⟨bytes, accepted, verified⟩ := bind_ok.mp verified
  rw [ticketBytes_ok accepted] at verified
  cases read : receiptOf? reader raw with
  | none =>
      rw [read] at verified
      cases verified
  | some receipt =>
      rw [read] at verified
      obtain ⟨_, canonical, verified⟩ := bind_ok.mp verified
      obtain ⟨_, canonical⟩ := not_or.mp (raiseIf_ok.mp canonical)
      obtain ⟨canonical, named⟩ := not_or.mp canonical
      obtain ⟨_, _, verified⟩ := bind_ok.mp verified
      obtain ⟨_, signed, _⟩ := bind_ok.mp verified
      have tag := not_not.mp (raiseIf_ok.mp signed)
      rw [← not_not.mp named] at tag
      rw [rawReceipt, ← not_not.mp canonical, ← not_not.mp named, ← tag]

theorem verifyLocalCliReceipt_raw (parse : ReadsFlat reader.parse)
    {bytes key : Bytes} (keyed : key ≠ [])
    (accepted : ticketBytes ticket = .ok bytes) :
    verifyLocalCliReceipt reader ticket (rawReceipt key ticket) key =
      .ok ⟨ticket.bundleMembers, []⟩ := by
  have same := ticketBytes_ok accepted
  have ascii : ¬ ∃ char ∈ (signature key (fingerprint ticket.encoded)).toList,
      128 ≤ char.toNat := by
    rintro ⟨char, member, large⟩
    have alphabet : ∀ char ∈ hexAlphabet, char.toNat < 128 := by decide
    exact absurd (alphabet char (Digest.hex _ |>.2 char member)) (Nat.not_lt.mpr large)
  have read : receiptOf? reader (rawReceipt key ticket) = _ := receiptOf?_canonical parse _
  have genuine : ¬ (key = [] ∨ Receipt.canonical ⟨fingerprint ticket.encoded,
      signature key (fingerprint ticket.encoded)⟩ ≠ rawReceipt key ticket ∨
        fingerprint ticket.encoded ≠ fingerprint bytes) := by
    rintro (empty | changed | changed)
    · exact keyed empty
    · exact changed rfl
    · exact changed (congrArg fingerprint same.symm)
  rw [verifyLocalCliReceipt, accepted, ok_bind, read]
  dsimp only
  rw [raiseIf_neg genuine, ok_bind, raiseIf_neg ascii, ok_bind, same,
    raiseIf_neg (not_not.mpr rfl), ok_bind]

/-- A receipt speaks of one ticket, unless two tickets have one fingerprint. -/
theorem rawReceipt_inj (parse : ReadsFlat reader.parse) {key : Bytes}
    {first second : IssuedEffectSendTicket} (same : rawReceipt key first = rawReceipt key second) :
    first = second ∨ Json.CollisionAmong [first.encoded, second.encoded] := by
  have read : receiptOf? reader (rawReceipt key first) = _ := receiptOf?_canonical parse _
  have again : receiptOf? reader (rawReceipt key second) = _ := receiptOf?_canonical parse _
  rw [same, again] at read
  have prints := congrArg Receipt.ticketFingerprint (Option.some.inj read)
  by_cases equal : first.encoded = second.encoded
  · exact .inl (encoded_inj equal)
  · exact .inr ⟨_, by simp, _, by simp, equal, (Digest.ext_text prints).symm⟩

/-! ### Stored deliveries -/

theorem validateTarget_ok {provider : LocalCliDeliveryProvider}
    (valid : provider.validateTarget ticket = .ok ()) :
    ticketBytes ticket = .ok ticket.encoded := by
  rw [LocalCliDeliveryProvider.validateTarget] at valid
  obtain ⟨bytes, accepted, _⟩ := bind_ok.mp valid
  rw [accepted, ticketBytes_ok accepted]

/-- A stored delivery is read as the ticket that was stored, by the providers it targets. -/
theorem selectedRecord_stored (loads : ReadsFlat reader.loads) (parse : ReadsFlat reader.parse)
    (provider : LocalCliDeliveryProvider)
    (accepted : ticketBytes ticket = .ok ticket.encoded) (transmissionId : String) :
    provider.selectedRecord reader transmissionId (storedBytes provider.receiptKey ticket) = (do
      provider.validateTarget ticket
      raiseIf (ticket.transmissionId ≠ transmissionId)
        (.value "local inbox physical and logical identities differ")
      .ok (ticket, rawReceipt provider.receiptKey ticket)) := by
  have stored : storedOf? reader (storedBytes provider.receiptKey ticket) = _ :=
    storedOf?_canonical parse _
  have canonical : Stored.canonical ⟨hex ticket.encoded,
      hex (rawReceipt provider.receiptKey ticket)⟩ = storedBytes provider.receiptKey ticket := rfl
  rw [LocalCliDeliveryProvider.selectedRecord, stored, decoded, ok_bind,
    raiseIf_neg (not_not.mpr canonical), ok_bind, fromhex_hex, decoded, ok_bind,
    decodeTicket_ticketBytes loads accepted, ok_bind, fromhex_hex, decoded, ok_bind]
  cases valid : provider.validateTarget ticket with
  | error failure => rfl
  | ok value =>
      rw [ok_bind, ok_bind, LocalCliDeliveryProvider.verifyReceipt, valid, ok_bind,
        verifyLocalCliReceipt_raw parse provider.keyed accepted]
      rfl

end

end Chiplog.Composition.DeliveryLocalCli
