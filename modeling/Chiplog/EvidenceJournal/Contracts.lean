import Chiplog.AgentLoop.Disclosure
import Chiplog.Data.Model

namespace Chiplog.EvidenceJournal

open Chiplog.Data Chiplog.AgentLoop

/-! Journal commands, records and identities.

The values never authenticate a caller.  Their dumps are what the journal digests: the
whole command under `fingerprint`, a display and a claim without their own digest. -/

/-- A reference of the owner-local disclosure boundary. -/
structure SourceReference where
  tenantId : Identity
  owner : Identity
  recordId : Identity
  recordVersion : Identity
  contentDigest : Identity
  labelHead : Identity
  label : DisclosureLabel
deriving DecidableEq

instance : Model SourceReference := ⟨fun value =>
  [("tenant_id", toJson value.tenantId), ("owner", toJson value.owner),
    ("record_id", toJson value.recordId), ("record_version", toJson value.recordVersion),
    ("content_digest", toJson value.contentDigest), ("label_head", toJson value.labelHead),
    ("label", toJson value.label)]⟩

structure DisclosureEnvelope where
  tenantId : Identity
  contentDigest : Identity
  sources : NonemptyTuple SourceReference
  label : DisclosureLabel
  policyHead : Identity
  contourHead : Identity
  deletionFenceHead : Identity
deriving DecidableEq

instance : Model DisclosureEnvelope := ⟨fun value =>
  [("tenant_id", toJson value.tenantId), ("content_digest", toJson value.contentDigest),
    ("sources", toJson value.sources), ("label", toJson value.label),
    ("policy_head", toJson value.policyHead), ("contour_head", toJson value.contourHead),
    ("deletion_fence_head", toJson value.deletionFenceHead)]⟩

/-- A subject; its `kind` can only be an occurrence. -/
structure Subject where
  identity : Identity
deriving DecidableEq

instance : Model Subject := ⟨fun value =>
  [("kind", .str "occurrence"), ("identity", toJson value.identity)]⟩

def digit? (char : Char) : Option Nat :=
  if '0' ≤ char ∧ char ≤ '9' then some (char.toNat - '0'.toNat) else none

def number? (chars : List Char) : Option Nat :=
  chars.foldlM (fun value char => (digit? char).map (fun digit => 10 * value + digit)) 0

def daysInMonth (year month : Nat) : Nat :=
  if month = 2 then
    if year % 4 = 0 ∧ (year % 100 ≠ 0 ∨ year % 400 = 0) then 29 else 28
  else if month = 4 ∨ month = 6 ∨ month = 9 ∨ month = 11 then 30
  else 31

/-- A text `YYYY-MM-DD` that `date.fromisoformat` reads and `isoformat` writes back.  The
other digits that `\d` matches are refused there. -/
def isoDate (text : String) : Bool :=
  match text.toList with
  | [y, y', y'', y''', '-', m, m', '-', d, d'] =>
      match number? [y, y', y'', y'''], number? [m, m'], number? [d, d'] with
      | some year, some month, some day =>
          1 ≤ year && 1 ≤ month && month ≤ 12 && 1 ≤ day && day ≤ daysInMonth year month
      | _, _, _ => false
  | _ => false

inductive PayloadOutcome where
  | completed
  | notCompleted
deriving DecidableEq

instance : Jsonable PayloadOutcome := ⟨fun
  | .completed => .str "completed"
  | .notCompleted => .str "not_completed"⟩

structure Payload where
  date : String
  outcome : PayloadOutcome
  valid : isoDate date = true
deriving DecidableEq

instance : Model Payload := ⟨fun value =>
  [("date", toJson value.date), ("outcome", toJson value.outcome)]⟩

inductive ProvenanceSource where
  | principal
  | model
  | provider
deriving DecidableEq

instance : Jsonable ProvenanceSource := ⟨fun
  | .principal => .str "principal"
  | .model => .str "model"
  | .provider => .str "provider"⟩

structure Provenance where
  ingressId : String
  ingressVersion : ℕ+
  utterance : String
  digest : String
  source : ProvenanceSource
deriving DecidableEq

instance : Model Provenance := ⟨fun value =>
  [("ingress_id", toJson value.ingressId), ("ingress_version", toJson value.ingressVersion),
    ("utterance", toJson value.utterance), ("digest", toJson value.digest),
    ("source", toJson value.source)]⟩

structure Heads where
  journal : Nat
  policy : String
  credential : String
  session : String
  contour : String
  deletion : String
deriving DecidableEq

instance : Model Heads := ⟨fun value =>
  [("journal", toJson value.journal), ("policy", toJson value.policy),
    ("credential", toJson value.credential), ("session", toJson value.session),
    ("contour", toJson value.contour), ("deletion", toJson value.deletion)]⟩

structure Claim where
  subject : Subject
  payload : Payload
  provenance : List Provenance
  envelope : DisclosureEnvelope
deriving DecidableEq

instance : Model Claim := ⟨fun value =>
  [("subject", toJson value.subject), ("payload", toJson value.payload),
    ("provenance", toJson value.provenance), ("envelope", toJson value.envelope)]⟩

inductive Operation where
  | record
  | correct
  | retract
deriving DecidableEq

def Operation.text : Operation → String
  | .record => "RECORD"
  | .correct => "CORRECT"
  | .retract => "RETRACT"

instance : Jsonable Operation := ⟨fun value => .str value.text⟩

structure Display where
  tenant : String
  principal : String
  candidateId : String
  candidateVersion : ℕ+
  interpretation : String
  claim : Claim
  consequence : String
  heads : Heads
  predecessor : Option String
  operation : Operation
  digest : String
  supersedes : List String
deriving DecidableEq

instance : Model Display := ⟨fun value =>
  [("tenant", toJson value.tenant), ("principal", toJson value.principal),
    ("candidate_id", toJson value.candidateId),
    ("candidate_version", toJson value.candidateVersion),
    ("interpretation", toJson value.interpretation), ("claim", toJson value.claim),
    ("consequence", toJson value.consequence), ("schema_version", .int 1),
    ("canonicalization_version", .int 1), ("heads", toJson value.heads),
    ("predecessor", toJson value.predecessor), ("operation", toJson value.operation),
    ("digest", toJson value.digest), ("supersedes", toJson value.supersedes)]⟩

inductive Action where
  | recordFact
  | correctClaim
  | retractClaim
  | confirmCandidate
deriving DecidableEq

instance : Jsonable Action := ⟨fun
  | .recordFact => .str "record_fact"
  | .correctClaim => .str "correct_claim"
  | .retractClaim => .str "retract_claim"
  | .confirmCandidate => .str "confirm_candidate"⟩

structure Command where
  commandId : String
  tenant : String
  principal : String
  action : Action
  claim : Claim
  heads : Heads
  predecessor : Option String
  display : Option Display
  supersedes : List String
deriving DecidableEq

instance : Model Command := ⟨fun value =>
  [("command_id", toJson value.commandId), ("tenant", toJson value.tenant),
    ("principal", toJson value.principal), ("action", toJson value.action),
    ("claim", toJson value.claim), ("heads", toJson value.heads),
    ("predecessor", toJson value.predecessor), ("display", toJson value.display),
    ("supersedes", toJson value.supersedes), ("schema_version", .int 1),
    ("canonicalization_version", .int 1)]⟩

inductive RecordKind where
  | factClaim
  | claimDisposition
  | candidateEvidence
deriving DecidableEq

instance : Jsonable RecordKind := ⟨fun
  | .factClaim => .str "FactClaim"
  | .claimDisposition => .str "ClaimDisposition"
  | .candidateEvidence => .str "CandidateEvidence"⟩

/-- The operation of a record: one of a claim, or that of a candidate. -/
inductive RecordOperation where
  | applied (operation : Operation)
  | candidate
deriving DecidableEq

instance : Jsonable RecordOperation := ⟨fun
  | .applied operation => toJson operation
  | .candidate => .str "CANDIDATE"⟩

structure JournalRecord where
  recordId : String
  tenant : String
  principal : String
  kind : RecordKind
  family : String
  predecessor : Option String
  operation : RecordOperation
  claim : Claim
  display : Option Display
  commandId : String
  fingerprint : String
  positiveProof : List (String × Bool)
deriving DecidableEq

instance : Model JournalRecord := ⟨fun value =>
  [("record_id", toJson value.recordId), ("tenant", toJson value.tenant),
    ("principal", toJson value.principal), ("kind", toJson value.kind),
    ("family", toJson value.family), ("predecessor", toJson value.predecessor),
    ("operation", toJson value.operation), ("claim", toJson value.claim),
    ("display", toJson value.display), ("command_id", toJson value.commandId),
    ("fingerprint", toJson value.fingerprint), ("positive_proof", toJson value.positiveProof),
    ("schema_version", .int 1), ("canonicalization_version", .int 1)]⟩

inductive Disposition where
  | committed
  | replay
  | conflict
  | stale
  | denied
  | indeterminate
  | needsConfirmation
  | unresolved
deriving DecidableEq

structure Outcome where
  disposition : Disposition
  record : Option JournalRecord := none
  reason : Option String := none
deriving DecidableEq

structure ConfirmationIngress where
  confirmationId : String
  bindingDigest : String
deriving DecidableEq

structure TrustedIngress where
  tenant : String
  principal : String
  heads : Heads
  items : List Provenance
  sources : List SourceReference
  endpoint : String
  confirmations : List ConfirmationIngress
deriving DecidableEq

structure Snapshot where
  head : Nat
  records : List JournalRecord
deriving DecidableEq

structure JournalQuery where
  tenant : String
  expectedHeads : Heads
  maxRows : ℕ+
  afterId : Option String
  subject : Option Subject
  bounded : maxRows ≤ 1000
deriving DecidableEq

inductive RowStatus where
  | userReported
  | providerObserved
  | userConfirmedProviderObservation
  | disputed
  | corrected
  | retracted
  | unknown
deriving DecidableEq

structure JournalRow where
  record : JournalRecord
  status : RowStatus
  currentPositive : Bool
  lineage : List JournalRecord
deriving DecidableEq

inductive ViewDisposition where
  | current
  | denied
  | stale
  | indeterminate
deriving DecidableEq

structure JournalView where
  disposition : ViewDisposition
  head : Nat
  rows : List JournalRow := []
  nextCursor : Option String := none
deriving DecidableEq

end Chiplog.EvidenceJournal
