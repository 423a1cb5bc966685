import Chiplog.Data.Checked
import Chiplog.Data.Dict
import Chiplog.DeploymentTrust.DecisionJournal
import Chiplog.Projections.Disclosure

namespace Chiplog.Projections

open Chiplog.Data
open Chiplog.DeploymentTrust.DecisionJournal (DecisionEntry decisionId)

/-! Workspace states, their issuance journal and their cache.

A refresh first issues its state, by its bytes, and then saves it in the cache; the issued
states of a channel that the cache lacks are saved again from the journal. -/

section

-- what the models hold besides the fields that the stores read
variable {κ : Type}

/-- A snapshot with the identity fields of its reference. -/
structure ScreenSnapshot (κ : Type) where
  tenantId : String
  contextTenantId : String
  contextChannelId : String
  content : κ
deriving DecidableEq

structure WorkspaceState (κ : Type) where
  tenantId : String
  channelId : String
  sequence : Nat
  screens : List (ScreenSnapshot κ)
  content : κ
deriving DecidableEq

/-- The record `_Issuance`. -/
structure Issuance (κ : Type) where
  expectedSequence : Nat
  state : WorkspaceState κ

/-- `Field(lt=2**64 - 1)`. -/
def Issuance.Bounded (expectedSequence : Nat) : Prop := expectedSequence < 2 ^ 64 - 1

instance (expectedSequence : Nat) : Decidable (Issuance.Bounded expectedSequence) :=
  inferInstanceAs (Decidable (_ < _))

/-- `model_dump_json().encode()` and `model_validate_json` of the two models, which undo each
other on the states that are well formed. -/
class WorkspaceJson (κ : Type) where
  WellFormed : WorkspaceState κ → Prop
  dump : WorkspaceState κ → Bytes
  validate : Bytes → Option (WorkspaceState κ)
  dumpIssuance : Issuance κ → Bytes
  validateIssuance : Bytes → Option (Issuance κ)
  validate_dump : ∀ state, WellFormed state → validate (dump state) = some state
  validateIssuance_dump : ∀ issued, WellFormed issued.state →
    Issuance.Bounded issued.expectedSequence →
    issued.state.sequence = issued.expectedSequence + 1 →
    validateIssuance (dumpIssuance issued) = some issued

open WorkspaceJson

inductive WorkspaceError where
  | rejected (reason : WorkspaceRejected)
  | integrity (operation tenant record : String)
  | validation
  | database
deriving DecidableEq

abbrev Storing (α : Type) := Except WorkspaceError α

/-- `f"{channel}:{sequence}"`. -/
def recordName (channel : String) (sequence : Nat) : String := channel ++ ":" ++ toString sequence

/-! ### The issuance journal -/

/-- What a scan and a selection both ask of an issuance. -/
def Addressed (tenant : String) (issued : Issuance κ) : Prop :=
  issued.state.tenantId = tenant ∧ issued.state.channelId ≠ "" ∧
    issued.state.sequence = issued.expectedSequence + 1 ∧
    ∀ screen ∈ issued.state.screens, screen.tenantId = tenant ∧ screen.contextTenantId = tenant ∧
      screen.contextChannelId = issued.state.channelId

instance (tenant : String) (issued : Issuance κ) : Decidable (Addressed tenant issued) := by
  unfold Addressed
  infer_instance

abbrev IssuedStates (κ : Type) := Dict (String × Nat) (WorkspaceState κ)

/-- The dictionaries of the loop in `_scan`. -/
structure Scanned (κ : Type) where
  states : IssuedStates κ
  latest : Dict String Nat

def Scanned.empty : Scanned κ := ⟨.empty, .empty⟩

variable [WorkspaceJson κ]

/-- One round of the loop; an error of it is none. -/
def scanEntry (tenant : String) (scanned : Scanned κ) (payload : Bytes) : Option (Scanned κ) := do
  let issued ← validateIssuance payload
  let state := issued.state
  guard (dumpIssuance issued = payload)
  guard (Addressed tenant issued ∧
    (scanned.latest.get? state.channelId).getD 0 = issued.expectedSequence)
  some ⟨scanned.states.set (state.channelId, state.sequence) state,
    scanned.latest.set state.channelId state.sequence⟩

/-- `_scan`. -/
def scan (tenant : String) (journal : List DecisionEntry) (operation record : String) :
    Storing (Option String × IssuedStates κ) :=
  match (journal.map (·.body)).foldlM (scanEntry tenant) Scanned.empty with
  | none => .error (.integrity operation tenant record)
  | some scanned => .ok (HashChain.head journal, scanned.states)

/-- `max(…, default=0)` over the sequences of a channel. -/
def latestSequence (states : IssuedStates κ) (channel : String) : Nat :=
  ((states.entries.filter (fun entry => entry.1.1 = channel)).map (fun entry => entry.1.2)).foldl
    max 0

/-- The states of a channel, in the order of the dictionary. -/
def selectedStates (states : IssuedStates κ) (channel : String) : List (WorkspaceState κ) :=
  (states.entries.filter (fun entry => entry.1.1 = channel)).map (·.2)

section

variable [Hashlib]

/-- The journal's `append`. -/
def appendDecision (tenant : String) (journal : List DecisionEntry) (decision : Bytes)
    (predecessor : Option String) (record : String) : Storing (List DecisionEntry) := do
  raiseIf (predecessor ≠ HashChain.head journal) (.integrity "workspace.issue" tenant record)
  return journal ++ [⟨decisionId predecessor decision, predecessor, decision⟩]

/-- The end of `select_verified`, where the sequence is known or new. -/
def selectIssuance (tenant : String) (journal : List DecisionEntry) (head : Option String)
    (states : IssuedStates κ) (issued : Issuance κ) : Storing (List DecisionEntry) :=
  let state := issued.state
  match states.get? (state.channelId, state.sequence) with
  | some existing => do
      raiseIf (dump existing ≠ dump state)
        (.rejected ⟨"workspace sequence already issued different bytes"⟩)
      return journal
  | none => do
      raiseIf (latestSequence states state.channelId ≠ issued.expectedSequence)
        (.rejected ⟨"workspace issuance predecessor conflict"⟩)
      appendDecision tenant journal (dumpIssuance issued) head
        (recordName state.channelId state.sequence)

def selectVerified (tenant : String) (journal : List DecisionEntry) (state : WorkspaceState κ)
    (expectedSequence : Nat) : Storing (List DecisionEntry) := do
  let (head, states) ←
    scan tenant journal "workspace.issue" (recordName state.channelId state.sequence)
  let issued : Issuance κ := ⟨expectedSequence, state⟩
  raiseIf (¬ Issuance.Bounded expectedSequence) .validation
  raiseIf ((validateIssuance (dumpIssuance issued) : Option (Issuance κ)).isNone) .validation
  raiseIf (¬ Addressed tenant issued)
    (.rejected ⟨"workspace issuance identity/sequence mismatch"⟩)
  selectIssuance tenant journal head states issued

end

/-- `load` of the issuance journal. -/
def loadIssued (tenant : String) (journal : List DecisionEntry) (channel : String)
    (sequence : Nat) : Storing (WorkspaceState κ) := do
  let (_, states) ← scan tenant journal "workspace.issued_read" (recordName channel sequence)
  match states.get? (channel, sequence) with
  | none => .error (.integrity "workspace.issued_read" tenant (recordName channel sequence))
  | some state => return state

def verify (tenant : String) (journal : List DecisionEntry) (state : WorkspaceState κ) :
    Storing Unit := do
  let original : WorkspaceState κ ← loadIssued tenant journal state.channelId state.sequence
  raiseIf (dump original ≠ dump state)
    (.integrity "workspace.issued_verify" tenant (recordName state.channelId state.sequence))

/-! ### The cache -/

/-- A row of the table `workspace`. -/
structure CacheRow where
  tenant : String
  channel : String
  seq : Nat
  bytes : Bytes
  digest : String
deriving DecidableEq

/-- The rows of a channel, in the order of their insertion. -/
def channelRows (cache : List CacheRow) (tenant channel : String) : List CacheRow :=
  cache.filter (fun row => row.tenant = tenant ∧ row.channel = channel)

variable [Hashlib]

def cacheRow (state : WorkspaceState κ) : CacheRow :=
  { tenant := state.tenantId
    channel := state.channelId
    seq := state.sequence
    bytes := dump state
    digest := (sha256 (dump state)).text }

/-- `SQLiteWorkspaceStore.save`. -/
def save (cache : List CacheRow) (state : WorkspaceState κ) (expectedSequence : Nat) :
    Storing (List CacheRow) := do
  let latest := ((channelRows cache state.tenantId state.channelId).map (·.seq)).foldl max 0
  raiseIf (latest ≠ expectedSequence ∨ state.sequence ≠ latest + 1)
    (.rejected ⟨"workspace sequence conflict"⟩)
  raiseIf (∃ row ∈ channelRows cache state.tenantId state.channelId, row.seq = state.sequence)
    .database
  return cache ++ [cacheRow state]

/-- `SQLiteWorkspaceStore.load`; every error in it is the same. -/
def load (cache : List CacheRow) (tenant channel : String) (sequence : Nat) :
    Storing (WorkspaceState κ) :=
  let loaded : Option (WorkspaceState κ) := do
    let row ← (channelRows cache tenant channel).find? (fun row => row.seq = sequence)
    guard ((sha256 row.bytes).text = row.digest)
    let state ← (validate row.bytes : Option (WorkspaceState κ))
    guard ((state.tenantId, state.channelId, state.sequence) = (tenant, channel, sequence))
    some state
  match loaded with
  | none => .error (.integrity "workspace.replay" tenant (recordName channel sequence))
  | some state => .ok state

/-! ### Recovery -/

/-- Whether a cached state is the one that was issued. -/
def checkCached (tenant : String) (cache : List CacheRow) (states : IssuedStates κ)
    (channel : String) (sequence : Nat) : Storing Unit := do
  let cached : WorkspaceState κ ← load cache tenant channel sequence
  match states.get? (channel, sequence) with
  | none => .error (.integrity "workspace.cache_recovery" tenant channel)
  | some original =>
      raiseIf (dump cached ≠ dump original) (.integrity "workspace.cache_recovery" tenant channel)

/-- The checks of `recover_cache`: the issued states of the channel and how many are cached. -/
def checkCache (tenant : String) (journal : List DecisionEntry) (cache : List CacheRow)
    (channel : String) : Storing (List (WorkspaceState κ) × Nat) := do
  let (_, states) ← scan tenant journal "workspace.cache_recovery" channel
  let sequences := ((channelRows cache tenant channel).map (·.seq)).insertionSort (· ≤ ·)
  raiseIf (sequences ≠ List.range' 1 sequences.length)
    (.integrity "workspace.cache_recovery" tenant channel)
  (forEach (checkCached tenant cache states channel) sequences).mapError
    (fun _ => .integrity "workspace.cache_recovery" tenant channel)
  return (selectedStates states channel, sequences.length)

def materialize (tenant channel : String) (cache : List CacheRow)
    (states : List (WorkspaceState κ)) : Storing (List CacheRow) :=
  (states.foldlM (fun cache state => save cache state (state.sequence - 1)) cache).mapError
    (fun _ => .integrity "workspace.cache_recovery" tenant channel)

/-- `recover_cache`: the last issued state and the cache that it leaves. -/
def recoverCache (tenant : String) (journal : List DecisionEntry) (cache : List CacheRow)
    (channel : String) : Storing (Option (WorkspaceState κ) × List CacheRow) := do
  let (selected, cached) ← checkCache tenant journal cache channel
  let cache ← materialize tenant channel cache (selected.drop cached)
  return (selected.getLast?, cache)

/-- A recovery whose process is gone after it has saved `count` states. -/
def interruptRecovery (tenant : String) (journal : List DecisionEntry) (cache : List CacheRow)
    (channel : String) (count : Nat) : Storing (List CacheRow) := do
  let ((selected : List (WorkspaceState κ)), cached) ← checkCache tenant journal cache channel
  materialize tenant channel cache ((selected.drop cached).take count)

/-! ### Refresh -/

/-- The fields of a read context that reach the stores. -/
structure ReadContext where
  tenantId : Identity
  channelId : Identity

/-- What `refresh` asks of its predecessor. -/
def checkPrevious [DecidableEq κ] (tenant : String) (journal : List DecisionEntry) (cache : List CacheRow)
    (context : ReadContext) : Option (WorkspaceState κ) → Storing Unit
  | none => return ()
  | some previous => do
      raiseIf ((previous.tenantId, previous.channelId) ≠
          (context.tenantId.text, context.channelId.text)) (.rejected ⟨"foreign workspace state"⟩)
      let stored ← load cache previous.tenantId previous.channelId previous.sequence
      raiseIf (stored ≠ previous) (.rejected ⟨"unpersisted workspace predecessor"⟩)
      verify tenant journal previous

/-- A state that `refresh` can build from its predecessor, whatever its builders return. -/
structure Builds (context : ReadContext) (previous : Option (WorkspaceState κ))
    (state : WorkspaceState κ) : Prop where
  tenant : state.tenantId = context.tenantId.text
  channel : state.channelId = context.channelId.text
  sequence : state.sequence = (previous.map (·.sequence)).getD 0 + 1
  screens : ∀ screen ∈ state.screens, screen.tenantId = context.tenantId.text ∧
    screen.contextTenantId = context.tenantId.text ∧
    screen.contextChannelId = context.channelId.text
  wellFormed : WorkspaceJson.WellFormed state

end

end Chiplog.Projections
