import Chiplog.Data.JsonEdges
import Chiplog.Data.JsonText
import Chiplog.Data.Lines
import Chiplog.DeploymentTrust.Service

namespace Chiplog.DeploymentTrust

open Chiplog.Data

/-! The two durability ports, the commit over them and recovery from them.

Recovery checks the chain, materializes what is missing and recomputes the service by two
folds: the journal gives the binding, the phase and the generation, the materialized
records give the authority. -/

/-- A materialized decision with its records. -/
abbrev Row := String × List Json

structure Ports where
  journal : List Entry
  rows : List Row

def Ports.empty : Ports := ⟨[], []⟩

namespace Ports

def materialized (ports : Ports) (decisionId : String) : Bool :=
  ports.rows.any (fun row => row.1 = decisionId)

/-- `records()`, in decision order. -/
def records (ports : Ports) : List Json := ports.rows.flatMap Prod.snd

/-- A decision is materialized once; its records are the same whenever they are written. -/
def materialize (ports : Ports) (decisionId : String) (records : List Json) : Ports :=
  if ports.materialized decisionId then ports
  else { ports with rows := ports.rows ++ [(decisionId, records)] }

end Ports

section

variable [Hashlib]

/-- `(predecessor or "GENESIS").encode() + b"\x00" + decision`. -/
def linkInput (predecessor : Option String) (decision : Json) : Bytes :=
  utf8 (orText predecessor "GENESIS") ++ 0 :: decision.encodeAscii

/-- `_decision_digest`. -/
def decisionDigest (predecessor : Option String) (decision : Json) : String :=
  (sha256 (linkInput predecessor decision)).text

/-- `journal.append`, which refuses a stale predecessor. -/
def Ports.append (ports : Ports) (decision : Json) (predecessor : Option String) :
    Except TrustError (String × Ports) := do
  raiseIf (predecessor ≠ HashChain.head ports.journal)
    (.runtime "journal predecessor mismatch")
  let entry : Entry := ⟨decisionDigest predecessor decision, predecessor, decision⟩
  .ok (entry.id, { ports with journal := ports.journal ++ [entry] })

/-- The part of `_commit` up to the decision itself. -/
def Ports.decide (ports : Ports) (kind : Kind) (payload : List (String × Json)) :
    Except TrustError (String × Ports) :=
  let predecessor := HashChain.head ports.journal
  ports.append (envelope kind.text payload predecessor) predecessor

/-- `_commit` once the decision is in the journal. -/
def Service.materializedAt (service : Service) (decision : String) : Service :=
  service.replaceState (fun state => { state with materializationHead := decision })

/-- `_commit` and the assignments after it. -/
def Outcome.perform {α : Type} (outcome : Outcome α) (service : Service) (ports : Ports) :
    Except TrustError (α × Service × Ports) :=
  match outcome with
  | .returned value => .ok (value, service, ports)
  | .decides kind payload settle => do
      let (decision, ports) ← ports.decide kind payload
      let (service, value) := settle decision (service.materializedAt decision)
      .ok (value, service, ports.materialize decision (recordsOf decision kind.text payload))

end

/-! Reading a stored value. -/

def missing (key : String) : TrustError := .undecodable key

/-- `item[key]`. -/
def item (value : Json) (key : String) : Except TrustError Json :=
  match value with
  | .obj fields =>
      match fields.lookup key with
      | some field => .ok field
      | none => .error (missing key)
  | _ => .error (missing key)

/-- `item.get(key)`. -/
def itemOr (value : Json) (key : String) (default : Json) : Json :=
  match value with
  | .obj fields => (fields.lookup key).getD default
  | _ => default

def readText : Json → Except TrustError String
  | .str text => .ok text
  | _ => .error (missing "text")

def readInt : Json → Except TrustError Int
  | .int value => .ok value
  | _ => .error (missing "int")

def readBool : Json → Except TrustError Bool
  | .bool value => .ok value
  | _ => .error (missing "bool")

def readOptional {α : Type} (read : Json → Except TrustError α) :
    Json → Except TrustError (Option α)
  | .null => .ok none
  | value => (read value).map some

def textAt (value : Json) (key : String) : Except TrustError String :=
  item value key >>= readText

def readGenesis (value : Json) : Except TrustError DatabaseGenesis := do
  .ok
    { tenantId := ← textAt value "tenant_id"
      databaseInstanceId := ← textAt value "database_instance_id"
      genesisVersion := ← item value "genesis_version" >>= readInt }

def readBinding (value : Json) : Except TrustError DeploymentTenantBinding := do
  .ok
    { tenantId := ← textAt value "tenant_id"
      databaseInstanceId := ← textAt value "database_instance_id"
      genesisDigest := ← textAt value "genesis_digest"
      journalIdentity := ← textAt value "journal_identity"
      journalEpoch := ← item value "journal_epoch" >>= readInt
      operatorKeyId := ← textAt value "operator_key_id"
      predecessor := ← item value "predecessor" >>= readOptional readText
      signature := ← textAt value "signature" }

def readCredential (value : Json) : Except TrustError CredentialState := do
  .ok
    { credentialId := ← textAt value "credential_id"
      head := ← textAt value "head"
      sessionId := ← textAt value "session_id"
      sessionHead := ← textAt value "session_head"
      peerCredential := ← textAt value "peer_credential"
      revoked := ← readBool (itemOr value "revoked" (.bool false)) }

def readSource (value : Json) : Except TrustError EvidenceSourceState := do
  .ok
    { sourceId := ← textAt value "source_id"
      head := ← textAt value "head"
      authenticatedLate := ← readBool (itemOr value "authenticated_late" (.bool false)) }

def readWitnessKind (value : Json) : Except TrustError WitnessKind := do
  match ← readText value with
  | "TELEGRAM_POLLING" => .ok .telegramPolling
  | "TELEGRAM_WEBHOOK" => .ok .telegramWebhook
  | _ => .error (missing "kind")

def readTransitionKind (value : Json) : Except TrustError TransitionKind := do
  match ← readText value with
  | "OPERATOR_BINDING_KEY_ROTATION" => .ok .operatorBindingKeyRotation
  | "JOURNAL_ROOT_ROTATION" => .ok .journalRootRotation
  | _ => .error (missing "kind")

def readWitness (value : Json) : Except TrustError TransportOriginWitness := do
  .ok
    { witnessId := ← textAt value "witness_id"
      kind := ← item value "kind" >>= readWitnessKind
      tenantId := ← textAt value "tenant_id"
      candidateId := ← textAt value "candidate_id"
      botAccount := ← textAt value "bot_account"
      endpoint := ← textAt value "endpoint"
      credentialHead := ← textAt value "credential_head"
      sessionHead := ← textAt value "session_head"
      trustHead := ← textAt value "trust_head"
      materializationHead := ← textAt value "materialization_head"
      rawDigest := ← textAt value "raw_digest"
      replayIdentity := ← textAt value "replay_identity"
      brokerSignature := ← textAt value "broker_signature" }

/-- `(str(a), str(b))`. -/
def readMember : Json → Except TrustError (String × String)
  | .arr [first, second] => do .ok (← readText first, ← readText second)
  | _ => .error (missing "members")

def readMembers : Json → Except TrustError (List (String × String))
  | .arr items => items.mapM readMember
  | _ => .error (missing "members")

def readPending (value : Json) (decisionId : String) :
    Except TrustError PendingTrustTransition := do
  .ok
    { transitionId := ← textAt value "transition_id"
      kind := ← item value "kind" >>= readTransitionKind
      predecessorTrustHead := ← textAt value "predecessor_trust_head"
      preparedJournalHead := decisionId
      proposedKeyId := ← readOptional readText (itemOr value "proposed_key_id" .null)
      proposedEpoch := ← readOptional readInt (itemOr value "proposed_epoch" .null)
      phase := .prepared }

/-- What the fold over the journal carries. -/
structure Core where
  genesis : Option DatabaseGenesis
  binding : Option DeploymentTenantBinding
  phase : Phase
  generation : Nat
deriving DecidableEq

def Core.initial : Core := ⟨none, none, .bootstrapRequired, 1⟩

/-- One round of `_reconstruct_core_from_journal`. -/
def coreStep (core : Core) (decision : Json) : Except TrustError Core := do
  let kind ← textAt decision "kind"
  let payload ← item decision "payload"
  match Kind.ofText? kind with
  | some .initialization => do
      let genesis ← item payload "genesis" >>= readGenesis
      let binding ← item payload "binding" >>= readBinding
      .ok { core with genesis := some genesis, binding := some binding }
  | some .bootstrap => .ok { core with phase := .active, generation := 2 }
  | some .trustTransitionPrepared => .ok { core with phase := .prepared }
  | some .trustTransitionReady => .ok { core with phase := .ready }
  | some .trustTransitionAborted => .ok { core with phase := .active }
  | some .trustTransitionAccepted => do
      let binding ← item payload "binding" >>= readBinding
      .ok { core with
        binding := some binding, phase := .active, generation := core.generation + 1 }
  | some .operatorBindingKeyRotation | some .journalRootRotation => do
      let binding ← readBinding payload
      .ok { core with binding := some binding, generation := core.generation + 1 }
  | some .principalContourPrerequisite => .ok { core with phase := .hold }
  | _ => .ok core

/-- `_rebuild_authority_state` before its loop; the fingerprint stays. -/
def Authority.cleared (authority : Authority) : Authority :=
  { Authority.initial with bootstrapFingerprint := authority.bootstrapFingerprint }

/-- One record of `_rebuild_authority_state` whose decision was not seen before. -/
def rebuildDecision (authority : Authority) (decisionId : String) (value : Json) :
    Except TrustError Authority := do
  let kind ← textAt value "operation_kind"
  match Kind.ofText? kind with
  | some .bootstrap => do
      let principal ← textAt value "principal_id"
      let credential ← item value "credential" >>= readCredential
      let fingerprint ← textAt value "token_fingerprint"
      .ok { authority with
        principal := some principal
        credential := some credential
        bootstrapFingerprint := some fingerprint
        freshness := authority.freshness + 1 }
  | some .registerEvidenceSource => do
      let source ← readSource value
      .ok { authority with sources := authority.sources.set source.sourceId source }
  | some .rotateCredential | some .emergencyRecovery => do
      let credential ← readCredential (itemOr value "credential" value)
      .ok { authority with
        credential := some credential, freshness := authority.freshness + 1 }
  | some .revokeCredential =>
      match authority.credential with
      | none => .ok authority
      | some credential =>
          .ok { authority with
            credential := some { credential with revoked := true }
            freshness := authority.freshness + 1 }
  | some .transportWitness => do
      let witness ← readWitness value
      .ok { authority with
        witnesses := authority.witnesses.set witness.witnessId witness
        witnessDecisions := authority.witnessDecisions.set witness.witnessId decisionId
        consumedReplays := insert witness.replayIdentity authority.consumedReplays }
  | some .authenticatedLateEvidence => do
      let sourceId ← textAt value "source_id"
      match authority.sources.get? sourceId with
      | none => .ok authority
      | some source =>
          .ok { authority with
            sources := authority.sources.set sourceId { source with authenticatedLate := true } }
  | some .pollResponsePage => do
      let members ← item value "members" >>= readMembers
      let sourceId ← textAt value "source_id"
      let pageId ← textAt value "page_id"
      let rawDigest ← textAt value "raw_digest"
      .ok { authority with
        pollPages := authority.pollPages.set (sourceId, pageId)
          ⟨rawDigest, members, decisionId⟩ }
  | some .pollCursorAdvanceAuthorized => do
      let sourceId ← textAt value "source_id"
      let cursor ← textAt value "cursor"
      let pageId ← textAt value "page_id"
      let sequence ← item value "cursor_sequence" >>= readInt
      let previous := (authority.poll.get? sourceId).getD (.unpolled sourceId)
      .ok { authority with
        poll := authority.poll.set sourceId
          { previous with
            authorizedCursor := some cursor
            authorizedPageId := some pageId
            authorizedSequence := sequence
            authorizationDecisionId := some decisionId } }
  | some .pollCursorApplied => do
      let sourceId ← textAt value "source_id"
      let cursor ← textAt value "cursor"
      let previous := (authority.poll.get? sourceId).getD (.unpolled sourceId)
      .ok { authority with
        poll := authority.poll.set sourceId
          { previous with
            appliedCursor := some cursor, applicationDecisionId := some decisionId } }
  | some .trustTransitionPrepared => do
      let pending ← readPending value decisionId
      .ok { authority with pending := some pending }
  | some .trustTransitionReady =>
      .ok { authority with
        pending := authority.pending.map (fun pending => { pending with phase := .ready }) }
  | some .trustTransitionAborted | some .trustTransitionAccepted =>
      .ok { authority with pending := none }
  | _ => .ok authority

/-- The loop state of `_rebuild_authority_state`. -/
structure Rebuilding where
  seen : List String
  authority : Authority

/-- One round of the loop: only the first record of a decision counts. -/
def rebuildRecord (rebuilding : Rebuilding) (value : Json) : Except TrustError Rebuilding := do
  let decisionId ← textAt value "decision_id"
  if decisionId ∈ rebuilding.seen then .ok rebuilding
  else do
    let authority ← rebuildDecision rebuilding.authority decisionId value
    .ok ⟨decisionId :: rebuilding.seen, authority⟩

/-- `_rebuild_authority_state`. -/
def Service.rebuildAuthorityState (service : Service) (ports : Ports) :
    Except TrustError Service := do
  let rebuilding ← ports.records.foldlM rebuildRecord ⟨[], service.cleared⟩
  .ok { service with toAuthority := rebuilding.authority }

section

variable [Hashlib]

/-- The loop state of `recover`. -/
structure Replay where
  predecessor : Option String
  ports : Ports
  recovered : Nat

def brokenJournal : TrustError := .recoveryRequired "journal prefix or predecessor mismatch"

/-- One round of `recover`: check the chain, materialize what is missing. -/
def replayEntry (replay : Replay) (entry : Entry) : Except TrustError Replay := do
  raiseIf (entry.predecessor ≠ replay.predecessor ∨
    decisionDigest replay.predecessor entry.body ≠ entry.id) brokenJournal
  if replay.ports.materialized entry.id then
    .ok { replay with predecessor := some entry.id }
  else do
    let kind ← textAt entry.body "kind"
    match ← item entry.body "payload" with
    | .obj payload =>
        let ports := replay.ports.materialize entry.id (recordsOf entry.id kind payload)
        .ok ⟨some entry.id, ports, replay.recovered + 1⟩
    | _ => .error (missing "payload")

/-- The loop of `recover` over the whole journal. -/
def Ports.replay (ports : Ports) : Except TrustError Replay :=
  ports.journal.foldlM replayEntry ⟨none, ports, 0⟩

def unboundJournal : TrustError :=
  .recoveryRequired "replayed binding identity or signature mismatch"

/-- `_reconstruct_core_from_journal`. -/
def Service.reconstructCoreFromJournal (service : Service) (journal : List Entry) :
    Except TrustError Service := do
  let core ← journal.foldlM (fun core entry => coreStep core entry.body) Core.initial
  match core.genesis, core.binding, HashChain.head journal with
  | some genesis, some binding, some last => do
      raiseIf (binding.tenantId ≠ genesis.tenantId ∨
          binding.databaseInstanceId ≠ genesis.databaseInstanceId ∨
          binding.genesisDigest ≠ genesisDigest genesis ∨
          binding.journalIdentity ≠ service.journalIdentity ∨
          binding.operatorKeyId ≠ service.operatorKeyId ∨
          binding.signature ≠ service.sign (Json.obj binding.unsigned).encodeAscii none)
        unboundJournal
      .ok { service with
        genesis := some genesis
        binding := some binding
        state := some ⟨genesis.tenantId, genesis.databaseInstanceId, bindingHead binding, last,
          core.generation, core.phase⟩ }
  | _, _, _ => .error (.recoveryRequired "journal has no complete genesis/binding prefix")

/-- `recover` once the loop over the journal is through. -/
def Service.reconstruct (service : Service) (ports : Ports) : Except TrustError Service :=
  if ports.journal = [] then .ok service
  else do
    let service ← service.reconstructCoreFromJournal ports.journal
    service.rebuildAuthorityState ports

/-- `recover`, with the number of decisions it materialized. -/
def Service.recover (service : Service) (ports : Ports) :
    Except TrustError (Nat × Service × Ports) := do
  let replay ← ports.replay
  let service ← service.reconstruct replay.ports
  .ok (replay.recovered, service, replay.ports)

def Service.restore (service : Service) (ports : Ports) (genesis : DatabaseGenesis) :
    Except TrustError (Nat × Service × Ports) := do
  raiseIf (service.genesis ≠ some genesis)
    (.recoveryRequired "restore identity mismatch; relabel is unsupported")
  service.recover ports

/-- What `admit_startup` asks of the protected identity it is handed. -/
def Service.admits (service : Service) (ports : Ports) (state : CurrentDatabaseState)
    (genesis : DatabaseGenesis) (binding : DeploymentTenantBinding) : Prop :=
  state.phase ∈ [Phase.active, .bootstrapRequired, .prepared, .ready] ∧
    state.tenantId = genesis.tenantId ∧ genesis.tenantId = binding.tenantId ∧
    state.databaseInstanceId = genesis.databaseInstanceId ∧
    genesis.databaseInstanceId = binding.databaseInstanceId ∧
    binding.genesisDigest = genesisDigest genesis ∧
    binding.journalIdentity = service.journalIdentity ∧
    binding.operatorKeyId = service.operatorKeyId ∧
    binding.signature = service.sign (Json.obj binding.unsigned).encodeAscii none ∧
    state.trustHead = bindingHead binding ∧
    HashChain.head ports.journal = some state.materializationHead ∧
    ports.materialized state.materializationHead = true

instance (service : Service) (ports : Ports) (state : CurrentDatabaseState)
    (genesis : DatabaseGenesis) (binding : DeploymentTenantBinding) :
    Decidable (service.admits ports state genesis binding) := by
  unfold Service.admits
  infer_instance

/-- `admit_startup` when it returns; a refusal leaves `Service.refused`. -/
def Service.admitStartup (service : Service) (ports : Ports) (state : CurrentDatabaseState)
    (genesis : DatabaseGenesis) (binding : DeploymentTenantBinding) :
    Except TrustError Service := do
  raiseIf (¬ service.admits ports state genesis binding)
    (.recoveryRequired "startup trust/genesis/journal/materialization mismatch")
  Service.rebuildAuthorityState
    { service with state := some state, genesis := some genesis, binding := some binding } ports

omit [Hashlib] in
/-- The service after a refused startup. -/
def Service.refused (service : Service) (state : CurrentDatabaseState) : Service :=
  { service with state := some { state with phase := .recoveryRequired } }

end

end Chiplog.DeploymentTrust

namespace Chiplog.DeploymentTrust

open Chiplog.Data

/-! The decision journal as a hash chain.

The hashed bytes give the predecessor away, so a journal in which no two entries collide
never repeats a decision identity. -/

/-- What a predecessor may be. -/
def Predecessor (predecessor : Option String) : Prop :=
  predecessor = none ∨ ∃ digest : Digest, predecessor = some digest.text

theorem predecessor_text {predecessor : Option String} (valid : Predecessor predecessor) :
    '\x00' ∉ (orText predecessor "GENESIS").toList := by
  rcases valid with rfl | ⟨digest, rfl⟩
  · decide
  · have filled : digest.text ≠ "" := digest.text_ne_empty
    have clean : '\x00' ∉ hexAlphabet := by decide
    simp only [orText, if_neg filled]
    exact fun member => clean (digest.hex.2 _ member)

theorem orText_inj {first second : Option String} (firstValid : Predecessor first)
    (secondValid : Predecessor second)
    (same : orText first "GENESIS" = orText second "GENESIS") : first = second := by
  have apart (digest : Digest) : digest.text ≠ "GENESIS" := by
    intro impossible
    have length := digest.hex.1
    rw [impossible] at length
    exact absurd length (by decide)
  rcases firstValid with rfl | ⟨first, rfl⟩ <;> rcases secondValid with rfl | ⟨second, rfl⟩
  · rfl
  · simp only [orText, if_neg second.text_ne_empty] at same
    exact absurd same.symm (apart second)
  · simp only [orText, if_neg first.text_ne_empty] at same
    exact absurd same (apart first)
  · simp only [orText, if_neg first.text_ne_empty, if_neg second.text_ne_empty] at same
    rw [same]

theorem linkInput_text (predecessor : Option String) (decision : Json) :
    linkInput predecessor decision =
      utf8 (orText predecessor "GENESIS" ++ "\x00" ++ decision.dumpsAscii) := by
  have zero : utf8 "\x00" = [0] := by decide
  rw [utf8_append, utf8_append, zero, List.append_assoc]
  rfl

theorem linkInput_predecessor {first second : Option String} {decision other : Json}
    (firstValid : Predecessor first) (secondValid : Predecessor second)
    (same : linkInput first decision = linkInput second other) : first = second := by
  rw [linkInput_text, linkInput_text] at same
  have characters := congrArg String.toList (utf8_inj same)
  have null : "\x00".toList = ['\x00'] := rfl
  rw [String.toList_append, String.toList_append, String.toList_append, String.toList_append,
    null, List.append_assoc, List.append_assoc, List.singleton_append, List.singleton_append]
    at characters
  apply orText_inj firstValid secondValid
  apply String.toList_inj.mp
  exact (cut_at_mark (predecessor_text firstValid) (predecessor_text secondValid) characters).1

section Collisions

variable [Hashlib]

/-- No two entries of the journal hash different bytes to one identity. -/
def CollisionFree (journal : List Entry) : Prop :=
  ∀ first ∈ journal, ∀ second ∈ journal,
    sha256 (linkInput first.predecessor first.body) =
        sha256 (linkInput second.predecessor second.body) →
      linkInput first.predecessor first.body = linkInput second.predecessor second.body

theorem CollisionFree.left {journal more : List Entry} (free : CollisionFree (journal ++ more)) :
    CollisionFree journal := by
  intro first firstMember second secondMember
  exact free first (List.mem_append_left _ firstMember) second
    (List.mem_append_left _ secondMember)

/-- An entry of a chained journal with the hash it is named by. -/
theorem chained_entry {journal : List Entry}
    (chained : HashChain.Chained decisionDigest journal) {entry : Entry}
    (member : entry ∈ journal) :
    Predecessor entry.predecessor ∧
      entry.id = (sha256 (linkInput entry.predecessor entry.body)).text := by
  induction chained generalizing entry with
  | nil => exact absurd member List.not_mem_nil
  | @snoc journal chained body ih =>
      rcases List.mem_append.mp member with earlier | last
      · exact ih earlier
      · obtain rfl := List.mem_singleton.mp last
        refine ⟨?_, rfl⟩
        cases known : HashChain.head journal with
        | none => exact .inl known
        | some id =>
            obtain ⟨previous, previousMember, rfl⟩ := HashChain.exists_of_head known
            exact .inr ⟨_, known.trans (congrArg some (ih previousMember).2)⟩

/-- A chained journal without collisions never repeats a decision. -/
theorem CollisionFree.ids_nodup {journal : List Entry} (free : CollisionFree journal)
    (chained : HashChain.Chained decisionDigest journal) :
    (journal.map HashChain.Entry.id).Nodup := by
  apply chained.ids_nodup
  intro first firstMember second secondMember same
  obtain ⟨firstValid, firstId⟩ := chained_entry chained firstMember
  obtain ⟨secondValid, secondId⟩ := chained_entry chained secondMember
  rw [firstId, secondId] at same
  exact linkInput_predecessor firstValid secondValid
    (free first firstMember second secondMember (Digest.ext_text same))

end Collisions

/-! ### A hash that counts

It names the decisions of a short journal by their number, so that none of them collide; it also
reads the edges of an input, as `edgeHash` does. -/

/-- The hexadecimal digits in UTF-8. -/
def digitBytes : Bytes := [48, 49, 50, 51, 52, 53, 54, 55, 56, 57, 97, 98, 99, 100, 101, 102]

/-- One more than the digit in front, or zero where there is none. -/
def countOf (raw : Bytes) : Nat := (digitBytes.idxOf (raw.headD 0) + 1) % 17

@[reducible] def countingHash : Hashlib :=
  ⟨fun raw => ⟨hex (UInt8.ofNat (16 * countOf raw) :: (edgeBytes raw).tail),
    hex_digest (by rw [List.length_cons, List.length_tail, edgeBytes_length])⟩⟩

section Counting

attribute [local instance] countingHash

theorem counted_digit {raw : Bytes} (small : countOf raw < 16) :
    digitBytes.idxOf ((utf8 (sha256 raw).text).headD 0) = countOf raw := by
  have digits : ∀ count < 16, digitBytes.idxOf
      ((String.utf8EncodeChar (hexDigit ((UInt8.ofNat (16 * count)).toNat / 16))).headD 0) = count ∧
        String.utf8EncodeChar (hexDigit ((UInt8.ofNat (16 * count)).toNat / 16)) ≠ [] := by
    decide
  obtain ⟨named, nonempty⟩ := digits _ small
  have text : (sha256 raw).text = hex (UInt8.ofNat (16 * countOf raw) :: (edgeBytes raw).tail) :=
    rfl
  rw [utf8_chars, text, hex, String.toList_ofList, List.flatMap_cons, hexByte, List.cons_append,
    List.flatMap_cons]
  cases shown : String.utf8EncodeChar (hexDigit ((UInt8.ofNat (16 * countOf raw)).toNat / 16)) with
  | nil => exact absurd shown nonempty
  | cons digit rest =>
      rw [shown] at named
      exact named

/-- The decisions of a short chain are numbered by the place they have in it. -/
theorem chained_count {journal : List Entry} (chained : HashChain.Chained decisionDigest journal)
    (short : journal.length ≤ 16) {place : Nat} {entry : Entry}
    (found : journal[place]? = some entry) :
    digitBytes.idxOf ((utf8 entry.id).headD 0) = place := by
  induction chained generalizing place entry with
  | nil => cases found
  | @snoc journal chained body ih =>
      rw [List.length_append, List.length_singleton] at short
      have earlier {place : Nat} {entry : Entry} := @ih (by omega) place entry
      have number : countOf (linkInput (HashChain.head journal) body) = journal.length := by
        cases known : HashChain.head journal with
        | none =>
            have genesis : utf8 "GENESIS" = [71, 69, 78, 69, 83, 73, 83] := by rfl
            rw [HashChain.head_eq_none.mp known, linkInput, orText, genesis, List.cons_append,
              countOf, List.headD_cons]
            decide
        | some id =>
            have last : journal[journal.length - 1]?.map HashChain.Entry.id = some id := by
              rw [← List.getLast?_eq_getElem?]
              exact known
            obtain ⟨previous, found, rfl⟩ := Option.map_eq_some_iff.mp last
            have inside := (List.getElem?_eq_some_iff.mp found).1
            have digit := earlier found
            have named : previous.id ≠ "" := by
              rintro empty
              rw [empty] at digit
              have above : digitBytes.idxOf ((utf8 "").headD 0) = 16 := by rfl
              omega
            rw [linkInput, orText, if_neg named, countOf]
            cases shown : utf8 previous.id with
            | nil => exact absurd (utf8_eq_nil.mp shown) named
            | cons byte rest =>
                rw [shown, List.headD_cons] at digit
                rw [List.cons_append, List.headD_cons, digit]
                omega
      rcases Nat.lt_or_ge place journal.length with before | after
      · rw [List.getElem?_append_left before] at found
        exact earlier found
      · rw [List.getElem?_append_right after] at found
        have place_eq : place = journal.length := by
          have bound := (List.getElem?_eq_some_iff.mp found).1
          rw [List.length_singleton] at bound
          omega
        subst place_eq
        rw [Nat.sub_self] at found
        cases found
        rw [← number]
        exact counted_digit (by omega)

/-- A short chain has no collisions. -/
theorem counting_free {journal : List Entry} (chained : HashChain.Chained decisionDigest journal)
    (short : journal.length ≤ 16) : CollisionFree journal := by
  intro first firstMember second secondMember same
  obtain ⟨place, firstFound⟩ := List.mem_iff_getElem?.mp firstMember
  obtain ⟨other, secondFound⟩ := List.mem_iff_getElem?.mp secondMember
  have ids : first.id = second.id := by
    rw [(chained_entry chained firstMember).2, (chained_entry chained secondMember).2, same]
  have places : place = other := by
    rw [← chained_count chained short firstFound, ids, chained_count chained short secondFound]
  rw [← places, firstFound] at secondFound
  rw [Option.some.inj secondFound]

end Counting

end Chiplog.DeploymentTrust
