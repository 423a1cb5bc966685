import Chiplog.EvidenceJournal.Contracts
import Mathlib.Data.Finset.Dedup

namespace Chiplog.EvidenceJournal

open Chiplog.Data Chiplog.AgentLoop

/-! The journal owner: what `prepare` and `execute` decide on one snapshot.

Both entry points read the identity, the snapshot and the identity again before they hand a
record to the store, so a call is a function of these three; the store's own commit is a
later step.  `project` and `lineage` read one snapshot. -/

section

variable [Hashlib]

/-- `digest(value)`. -/
def digestOf (value : Json) : String := (sha256 value.encode).text

def claimDigest (claim : Claim) : String := digestOf (.obj (dropKey "envelope" (modelDump claim)))

def displayDigest (display : Display) : String :=
  digestOf (.obj (dropKey "digest" (modelDump display)))

def commandDigest (command : Command) : String := digestOf (toJson command)

/-- `sha256(record.canonical_bytes())`, the request fingerprint of a publication. -/
def payloadDigest (record : JournalRecord) : Digest := sha256 (canonicalBytes record).items

end

def proofPredicates : List String :=
  ["authenticated_speaker", "principal_endorser", "single_complete_span", "declarative",
    "affirmative", "actual", "not_question", "not_request", "not_command", "not_wish",
    "not_doubt", "not_conditional", "not_hypothetical", "not_quote_or_mention",
    "not_third_party", "not_correction_or_retraction", "not_negation", "exact_subject",
    "exact_payload", "exact_provenance", "no_inference_split_merge_or_consequence"]

def assertionLead : String := "Я выполнил occurrence:"

/-- The closed sentence form of a direct assertion. -/
def sentence (identity date : String) : String :=
  assertionLead ++ identity ++ " " ++ date ++ "."

/-- `[A-Za-z0-9_-]`. -/
def identityChar (char : Char) : Bool :=
  ('A' ≤ char && char ≤ 'Z') || ('a' ≤ char && char ≤ 'z') || ('0' ≤ char && char ≤ '9') ||
    char = '_' || char = '-'

/-- The two groups of the pattern, after its lead. -/
def matchGroups (rest : List Char) : Option (String × String) :=
  let identity := rest.takeWhile identityChar
  let date := String.ofList ((rest.dropWhile identityChar).tail.take 10)
  if identity ≠ [] ∧ isoDate date = true ∧
      rest.dropWhile identityChar = ' ' :: (date.toList ++ ['.']) then
    some (String.ofList identity, date)
  else none

/-- `re.fullmatch` of the closed form, with the dates `fromisoformat` refuses left out. -/
def matchSentence (utterance : String) : Option (String × String) :=
  (utterance.toList.dropPrefix? assertionLead.toList).bind matchGroups

section

variable [Hashlib]

/-- The one item of a direct assertion, against the identity that brought it. -/
def positiveItem (claim : Claim) (identity : TrustedIngress) (item : Provenance) : Bool :=
  match matchSentence item.utterance with
  | none => false
  | some (subject, date) =>
      item ∈ identity.items && item.source = .principal &&
        item.digest = (sha256 (utf8 item.utterance)).text &&
        claim.subject.identity.text = subject && claim.payload.date = date &&
        claim.payload.outcome = .completed

def positiveProof (claim : Claim) (identity : TrustedIngress) : List (String × Bool) :=
  let valid := match claim.provenance with
    | [item] => positiveItem claim identity item
    | _ => false
  proofPredicates.map (fun predicate => (predicate, valid))

/-- The accumulators of the loop over the sources. -/
structure SourceJoin where
  allowed : Option (List String)
  denied : Bool

/-- One round of the loop; `none` is its `return False`. -/
def joinSource (claim : Claim) (identity : TrustedIngress) (joined : SourceJoin)
    (source : SourceReference) : Option SourceJoin := do
  guard (source ∈ identity.sources ∧ source.tenantId.text = identity.tenant)
  match claim.provenance.filter (fun item => item.ingressId = source.recordId.text) with
  | [item] =>
      guard (item ∈ identity.items)
      guard (source.contentDigest.text = item.digest ∧
        source.recordVersion.text = toString item.ingressVersion.val)
      let endpoints := source.label.allowedEndpoints
      guard (sortedSet endpoints = endpoints)
      match source.label.value with
      | .denyAll => some { joined with denied := true }
      | .endpointRestricted => some { joined with
          allowed := some (match joined.allowed with
            | none => endpoints
            | some known => known.filter (fun endpoint => endpoint ∈ endpoints)) }
      | .unrestricted => if endpoints = [] then some joined else none
  | _ => none

def expectedLabel (joined : SourceJoin) : LabelValue :=
  if joined.denied ∨ joined.allowed = some [] then .denyAll
  else if joined.allowed = none then .unrestricted
  else .endpointRestricted

/-- The checks of the envelope that need no source. -/
def EnvelopeBound (claim : Claim) (identity : TrustedIngress) : Prop :=
  let envelope := claim.envelope
  let sources := envelope.sources.items
  envelope.tenantId.text = identity.tenant ∧ envelope.contentDigest.text = claimDigest claim ∧
    envelope.policyHead.text = identity.heads.policy ∧
    envelope.contourHead.text = identity.heads.contour ∧
    envelope.deletionFenceHead.text = identity.heads.deletion ∧ claim.provenance ≠ [] ∧
    (sources.map (·.recordId)).Nodup ∧
    sources.insertionSort (fun left right => left.recordId.text ≤ right.recordId.text) = sources ∧
    (claim.provenance.map (·.ingressId)).toFinset = (sources.map (·.recordId.text)).toFinset

instance (claim : Claim) (identity : TrustedIngress) : Decidable (EnvelopeBound claim identity) := by
  unfold EnvelopeBound
  infer_instance

/-- `_disclosed`. -/
def disclosed (claim : Claim) (identity : TrustedIngress) : Bool :=
  if EnvelopeBound claim identity then
    match claim.envelope.sources.items.foldlM (joinSource claim identity) ⟨none, false⟩ with
    | none => false
    | some joined =>
        let label := claim.envelope.label
        label.value = expectedLabel joined &&
          label.allowedEndpoints = sortedSet (joined.allowed.getD []) &&
          expectedLabel joined ≠ .denyAll &&
          joined.allowed.all (fun allowed => identity.endpoint ∈ allowed)
  else false

/-- `_identity` of an authentication result. -/
def identityFor (authenticated : Option TrustedIngress) (command : Command) :
    Option TrustedIngress :=
  authenticated.filter (fun identity =>
    (identity.tenant, identity.principal) = (command.tenant, command.principal))

/-- `_guard` of an authentication result. -/
def guardCommand (authenticated : Option TrustedIngress) (command : Command) :
    Option Disposition :=
  match identityFor authenticated command with
  | none => some .denied
  | some identity =>
      if identity.heads ≠ command.heads then some .stale
      else if ¬disclosed command.claim identity then some .denied
      else if command.action = .confirmCandidate ∧
          ⟨command.commandId, commandDigest command⟩ ∉ identity.confirmations then some .denied
      else none

/-- `_replay`: whatever record the command id already names. -/
def replayOf (snapshot : Snapshot) (command : Command) : Option Outcome :=
  match snapshot.records.find? (fun record => record.commandId = command.commandId) with
  | none => none
  | some found =>
      if found.fingerprint ≠ commandDigest command then some ⟨.conflict, none, none⟩
      else some ⟨.replay, some found, none⟩

end

/-- `_target`: the claim the command follows, unless a disposition already does. -/
def targetOf (snapshot : Snapshot) (command : Command) : Option JournalRecord := do
  let target ← snapshot.records.find? (fun record =>
    some record.recordId = command.predecessor ∧ record.kind ≠ .candidateEvidence ∧
      record.principal = command.principal)
  if ∃ record ∈ snapshot.records,
      record.predecessor = some target.recordId ∧ record.kind = .claimDisposition then none
  else some target

/-- The candidates a command may supersede. -/
def eligible (snapshot : Snapshot) (command : Command) : List String :=
  (snapshot.records.filter (fun record =>
    record.kind = .candidateEvidence ∧ record.principal = command.principal ∧
      record.claim.subject = command.claim.subject ∧
      record.predecessor = command.predecessor)).map (·.recordId)

/-- `_valid_supersession`. -/
def ValidSupersession (snapshot : Snapshot) (command : Command) : Prop :=
  sortedSet command.supersedes = command.supersedes ∧
    ∀ candidate ∈ command.supersedes, candidate ∈ eligible snapshot command

instance (snapshot : Snapshot) (command : Command) :
    Decidable (ValidSupersession snapshot command) := by
  unfold ValidSupersession
  infer_instance

/-- The candidate ids a record's display names. -/
def consumes (record : JournalRecord) : List String :=
  match record.display with
  | some display => display.candidateId :: display.supersedes
  | none => []

/-- The candidate ids a principal's claims have used up. -/
def consumedBy (records : List JournalRecord) (principal : String) : List String :=
  records.flatMap (fun record =>
    if record.principal = principal ∧ record.kind ≠ .candidateEvidence then consumes record
    else [])

/-- What a call does once it has read the store: answer, or hand over a record. -/
inductive Attempt where
  | answered (outcome : Outcome)
  | publishing (record : JournalRecord) (expectedHead : Nat)
deriving DecidableEq

def refused (disposition : Disposition) (reason : Option String) : Attempt :=
  .answered ⟨disposition, none, reason⟩

section

variable [Hashlib]

def candidateId (command : Command) : String :=
  "journal:candidate:" ++ digestOf (.arr [.str command.tenant, .str command.commandId])

def preparedOperation : Action → Operation
  | .correctClaim => .correct
  | .retractClaim => .retract
  | _ => .record

/-- The display of a candidate; its publication advances the tenant head by one. -/
def preparedDisplay (snapshot : Snapshot) (command : Command) : Display :=
  let operation := preparedOperation command.action
  let display : Display :=
    { tenant := command.tenant
      principal := command.principal
      candidateId := candidateId command
      candidateVersion := ⟨1, Nat.one_pos⟩
      interpretation := (toJson command.claim).dumps
      claim := command.claim
      consequence := "Journal " ++ operation.text ++ "; Plan unchanged"
      heads := { command.heads with journal := snapshot.head + 1 }
      predecessor := command.predecessor
      operation := operation
      digest := ""
      supersedes := command.supersedes }
  { display with digest := displayDigest display }

def storedProof (command : Command) (identity : TrustedIngress) : List (String × Bool) :=
  if command.action = .recordFact then positiveProof command.claim identity else []

def candidateRecord (snapshot : Snapshot) (command : Command) (identity : TrustedIngress) :
    JournalRecord :=
  { recordId := candidateId command
    tenant := command.tenant
    principal := command.principal
    kind := .candidateEvidence
    family := match targetOf snapshot command with
      | some target => target.family
      | none => candidateId command
    predecessor := command.predecessor
    operation := .candidate
    claim := command.claim
    display := some (preparedDisplay snapshot command)
    commandId := command.commandId
    fingerprint := commandDigest command
    positiveProof := storedProof command identity }

/-- What both entry points do before they look at the command's action: the identity, the
replay, the guard on the identity read again, and the head. -/
def admitted (authenticated recheck : Option TrustedIngress) (snapshot : Snapshot)
    (command : Command) (act : TrustedIngress → Attempt) : Attempt :=
  match (identityFor authenticated command).filter (disclosed command.claim) with
  | none => refused .denied none
  | some identity =>
      match replayOf snapshot command with
      | some outcome => .answered outcome
      | none =>
          match guardCommand recheck command with
          | some disposition => refused disposition none
          | none =>
              if snapshot.head ≠ command.heads.journal then refused .stale none
              else act identity

/-- What an admitted `prepare` does with its command. -/
def proposeCandidate (snapshot : Snapshot) (command : Command) (identity : TrustedIngress) :
    Attempt :=
  if command.display ≠ none ∨ command.action = .confirmCandidate then refused .denied none
  else if ¬ValidSupersession snapshot command then
    refused .denied (some "foreign or invalid candidate supersession")
  else if command.action ≠ .recordFact ∧ targetOf snapshot command = none then
    refused .stale none
  else if ∃ target ∈ targetOf snapshot command,
      target.claim.subject ≠ command.claim.subject then
    refused .denied (some "correction cannot replace subject")
  else .publishing (candidateRecord snapshot command identity) snapshot.head

/-- `Journal.prepare` up to the publication. -/
def prepare (authenticated recheck : Option TrustedIngress) (snapshot : Snapshot)
    (command : Command) : Attempt :=
  admitted authenticated recheck snapshot command (proposeCandidate snapshot command)

/-- The candidate a confirmation names, when it is still exactly what was displayed. -/
def confirmedCandidate (snapshot : Snapshot) (command : Command) (display : Display) :
    Option JournalRecord :=
  (snapshot.records.find? (fun record =>
    record.recordId = display.candidateId ∧ record.kind = .candidateEvidence)).filter
    (fun candidate =>
      candidate.principal = command.principal ∧ candidate.display = some display ∧
        display.claim = command.claim ∧ display.heads = command.heads ∧
        display.predecessor = command.predecessor ∧
        (display.tenant, display.principal) = (command.tenant, command.principal))

/-- The other open candidates for the same subject and predecessor. -/
def rivalsOf (snapshot : Snapshot) (command : Command) (candidate : JournalRecord) :
    List JournalRecord :=
  snapshot.records.filter (fun record =>
    record.kind = .candidateEvidence ∧ record.principal = command.principal ∧
      record.predecessor = candidate.predecessor ∧
      record.claim.subject = candidate.claim.subject ∧
      record.recordId ∉ consumedBy snapshot.records command.principal)

omit [Hashlib] in
theorem mem_rivalsOf {snapshot : Snapshot} {command : Command} {candidate rival : JournalRecord} :
    rival ∈ rivalsOf snapshot command candidate ↔ rival ∈ snapshot.records ∧
      rival.kind = .candidateEvidence ∧ rival.principal = command.principal ∧
      rival.predecessor = candidate.predecessor ∧
      rival.claim.subject = candidate.claim.subject ∧
      rival.recordId ∉ consumedBy snapshot.records command.principal := by
  simp [rivalsOf]

/-- A confirmation resolves every rival it was shown and no other. -/
def Resolves (snapshot : Snapshot) (command : Command) (display : Display)
    (candidate : JournalRecord) : Prop :=
  sortedSet display.supersedes = display.supersedes ∧
    command.supersedes = display.supersedes ∧
    display.supersedes.toFinset =
      (((rivalsOf snapshot command candidate).map (·.recordId)).filter
        (· ≠ candidate.recordId)).toFinset

instance (snapshot : Snapshot) (command : Command) (display : Display)
    (candidate : JournalRecord) : Decidable (Resolves snapshot command display candidate) := by
  unfold Resolves
  infer_instance

/-- The operation a command is entitled to, or the answer it gets instead. -/
def entitledOperation (snapshot : Snapshot) (command : Command) (identity : TrustedIngress) :
    Except Attempt Operation :=
  if command.action = .recordFact ∧ command.display = none ∧ command.predecessor = none then
    if (positiveProof command.claim identity).all (·.2) then .ok .record
    else .error (refused .needsConfirmation none)
  else if command.action = .confirmCandidate then
    match command.display.filter (fun display => display.digest = displayDigest display) with
    | none => .error (refused .denied none)
    | some display =>
        match confirmedCandidate snapshot command display with
        | none => .error (refused .stale none)
        | some candidate =>
            if Resolves snapshot command display candidate then .ok display.operation
            else .error (refused .unresolved none)
  else .error (refused .needsConfirmation none)

def claimId (command : Command) : String :=
  "journal:claim:" ++ digestOf (.arr [.str command.tenant, .str command.commandId])

def claimRecord (snapshot : Snapshot) (command : Command) (identity : TrustedIngress)
    (operation : Operation) : JournalRecord :=
  { recordId := claimId command
    tenant := command.tenant
    principal := command.principal
    kind := if operation = .record then .factClaim else .claimDisposition
    family := match targetOf snapshot command with
      | some target => target.family
      | none => claimId command
    predecessor := command.predecessor
    operation := .applied operation
    claim := command.claim
    display := command.display
    commandId := command.commandId
    fingerprint := commandDigest command
    positiveProof := storedProof command identity }

/-- What an admitted `execute` does with its command. -/
def recordClaim (snapshot : Snapshot) (command : Command) (identity : TrustedIngress) :
    Attempt :=
  if ¬ValidSupersession snapshot command then
    refused .denied (some "foreign or invalid candidate supersession")
  else
    match entitledOperation snapshot command identity with
    | .error answer => answer
    | .ok .record =>
        if command.predecessor ≠ none then refused .denied none
        else .publishing (claimRecord snapshot command identity .record) snapshot.head
    | .ok operation =>
        match targetOf snapshot command with
        | none => refused .stale none
        | some target =>
            if target.claim.subject ≠ command.claim.subject then refused .denied none
            else .publishing (claimRecord snapshot command identity operation) snapshot.head

/-- `Journal.execute` up to the publication. -/
def execute (authenticated recheck : Option TrustedIngress) (snapshot : Snapshot)
    (command : Command) : Attempt :=
  admitted authenticated recheck snapshot command (recordClaim snapshot command)

end

end Chiplog.EvidenceJournal
