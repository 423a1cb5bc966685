import Chiplog.DeploymentTrust.History

namespace Chiplog.DeploymentTrust

open Chiplog.Data

/-! Trust references and their revalidation.

A valid reference carries the last decision of the journal, and the decisions of a journal
without collisions never repeat, so a later decision outdates the reference for good. -/

structure AuthenticationRequest where
  contour : String
  credentialId : String
  sessionId : String
  sourceId : String
  transportWitnessId : Option String
  peerCredential : String
deriving DecidableEq

structure TrustReference where
  tenantId : String
  principalId : String
  contour : String
  credentialHead : String
  sessionHead : String
  sourceHead : String
  trustHead : String
  materializationHead : String
  freshnessSequence : Nat
  peerCredential : String
deriving DecidableEq

inductive Disposition where
  | valid
  | denied
  | stale
  | indeterminate
deriving DecidableEq

structure TrustDecision where
  disposition : Disposition
  reference : Option TrustReference
  reason : Option String
deriving DecidableEq

structure RecordId where
  tenantId : String
  value : String
deriving DecidableEq

structure TrustReferenceRevalidation where
  reference : TrustReference
  operation : String
  subjectId : RecordId
deriving DecidableEq

/-- A decision without a reference. -/
def declined (disposition : Disposition) (reason : String) : TrustDecision :=
  ⟨disposition, none, some reason⟩

section

variable [Hashlib] {service : Service} {request : AuthenticationRequest}
  {credential : CredentialState}

/-- `_valid_witness`. -/
def Service.validWitness (service : Service) (witness : TransportOriginWitness) : Bool :=
  witness.brokerSignature =
    service.sign (Json.obj witness.unsigned).encodeAscii (some service.brokerSecret)

/-- What a witness has to agree with before it brings a reference. -/
def Service.witnessCurrent (service : Service) (state : CurrentDatabaseState)
    (credential : CredentialState) (sourceId : String) (witness : TransportOriginWitness) :
    Bool :=
  sourceId = witness.candidateId && witness.credentialHead = credential.head &&
    witness.sessionHead = credential.sessionHead && witness.trustHead = state.trustHead &&
    service.witnessDecisions.get? witness.witnessId = some state.materializationHead &&
    service.validWitness witness

/-- The source head of a request on its contour, or the refusal. -/
def Service.sourceHead (service : Service) (state : CurrentDatabaseState)
    (credential : CredentialState) (request : AuthenticationRequest) :
    Except TrustDecision String :=
  if request.contour = "TELEGRAM" then
    match service.witnesses.get? (request.transportWitnessId.getD "") with
    | none => .error (declined .denied "broker transport witness required")
    | some witness =>
        if service.witnessCurrent state credential request.sourceId witness then
          .ok (witnessDigest witness)
        else .error (declined .denied "broker transport witness required")
  else if request.contour = "EVIDENCE" then
    match service.sources.get? request.sourceId with
    | none => .error (declined .stale "evidence source is not current")
    | some source => .ok source.head
  else if request.contour = "CLI" then .ok "local"
  else .error (declined .denied "unsupported contour")

/-- The checks of `authenticate` on the credential itself. -/
def credentialCheck (credential : CredentialState) (request : AuthenticationRequest) :
    Except TrustDecision Unit := do
  raiseIf (credential.revoked = true ∨ request.credentialId ≠ credential.credentialId)
    (declined .stale "credential is not current")
  raiseIf (request.sessionId ≠ credential.sessionId)
    (declined .stale "session is not current")
  raiseIf (request.peerCredential ≠ credential.peerCredential)
    (declined .stale "peer credential is not current")

/-- `authenticate` up to the reference; an error is the decision it returns instead. -/
def Service.refer (service : Service) (request : AuthenticationRequest) :
    Except TrustDecision TrustReference :=
  match service.state with
  | none => .error (declined .indeterminate "trust state unavailable")
  | some state => do
      raiseIf (state.phase = .hold)
        (declined .indeterminate "future contour prerequisite hold")
      raiseIf (state.phase ≠ .active)
        (declined .denied "single-principal contour inactive")
      match service.principal, service.credential with
      | some principal, some credential => do
          credentialCheck credential request
          let sourceHead ← service.sourceHead state credential request
          .ok
            { tenantId := state.tenantId
              principalId := principal
              contour := request.contour
              credentialHead := credential.head
              sessionHead := credential.sessionHead
              sourceHead
              trustHead := state.trustHead
              materializationHead := state.materializationHead
              freshnessSequence := service.freshness
              peerCredential := credential.peerCredential }
      | _, _ => .error (declined .denied "single-principal contour inactive")

def Service.authenticate (service : Service) (request : AuthenticationRequest) :
    TrustDecision :=
  match service.refer request with
  | .ok reference => ⟨.valid, some reference, none⟩
  | .error decision => decision

/-- The request that `revalidate` asks again for a reference. -/
def Service.requestFor (service : Service) (reference : TrustReference) :
    AuthenticationRequest :=
  let witness := service.witnesses.values.find? (fun item =>
    witnessDigest item = reference.sourceHead)
  let evidenceSource := service.sources.values.find? (fun item =>
    item.head = reference.sourceHead)
  { contour := reference.contour
    credentialId := (service.credential.map CredentialState.credentialId).getD ""
    sessionId := (service.credential.map CredentialState.sessionId).getD ""
    sourceId := match witness, evidenceSource with
      | some witness, _ => witness.candidateId
      | none, some source => source.sourceId
      | none, none => ""
    transportWitnessId := witness.map TransportOriginWitness.witnessId
    peerCredential := (service.credential.map CredentialState.peerCredential).getD "" }

def Service.revalidate (service : Service) (request : TrustReferenceRevalidation) :
    TrustDecision :=
  if request.operation ≠ "CREATE_INTENTION_LINE" then
    declined .denied "operation is not admitted by trust contour"
  else if request.subjectId.tenantId ≠ request.reference.tenantId then
    declined .denied "foreign subject"
  else if request.subjectId.value = "" then declined .denied "allocation subject is empty"
  else
    let current := service.authenticate (service.requestFor request.reference)
    if current.disposition ≠ .valid ∨ current.reference ≠ some request.reference then
      declined .stale "trust reference no longer current"
    else current

/-- What a reference is about: its evidence source, or its transport witness. -/
def Service.subjectOf (service : Service) (reference : TrustReference) : Option String :=
  if reference.contour = "TELEGRAM" then (service.requestFor reference).transportWitnessId
  else if reference.contour = "EVIDENCE" then some (service.requestFor reference).sourceId
  else none

/-! What a valid decision says. -/

omit [Hashlib] in
/-- Every refusal is one: nothing that is declined is valid. -/
theorem credentialCheck_error
    {decision : TrustDecision} (refused : credentialCheck credential request = .error decision) :
    decision.disposition ≠ .valid := by
  rcases bind_error.mp refused with first | ⟨_, _, refused⟩
  · rw [← (raiseIf_error.mp first).2]
    nofun
  · rcases bind_error.mp refused with second | ⟨_, _, third⟩
    · rw [← (raiseIf_error.mp second).2]
      nofun
    · rw [← (raiseIf_error.mp third).2]
      nofun

theorem sourceHead_error {state : CurrentDatabaseState} {decision : TrustDecision}
    (refused : service.sourceHead state credential request = .error decision) :
    decision.disposition ≠ .valid := by
  unfold Service.sourceHead at refused
  repeat' split at refused
  all_goals
    cases refused
    try decide

theorem refer_error {decision : TrustDecision} (refused : service.refer request = .error decision) :
    decision.disposition ≠ .valid := by
  unfold Service.refer at refused
  split at refused
  · cases refused
    nofun
  · rcases bind_error.mp refused with held | ⟨_, _, refused⟩
    · rw [← (raiseIf_error.mp held).2]
      nofun
    · rcases bind_error.mp refused with inactive | ⟨_, _, refused⟩
      · rw [← (raiseIf_error.mp inactive).2]
        nofun
      · split at refused
        · rcases bind_error.mp refused with unchecked | ⟨_, _, refused⟩
          · exact credentialCheck_error unchecked
          · rcases bind_error.mp refused with unsourced | ⟨_, _, refused⟩
            · exact sourceHead_error unsourced
            · cases refused
        · cases refused
          nofun

theorem refer_ok {reference : TrustReference} (referred : service.refer request = .ok reference) :
    ∃ state principal credential, service.state = some state ∧ state.phase = .active ∧
      service.principal = some principal ∧ service.credential = some credential ∧
      ∃ sourceHead, service.sourceHead state credential request = .ok sourceHead ∧
        reference = ⟨state.tenantId, principal, request.contour, credential.head,
          credential.sessionHead, sourceHead, state.trustHead, state.materializationHead,
          service.freshness, credential.peerCredential⟩ := by
  unfold Service.refer at referred
  split at referred
  · cases referred
  · rename_i state known
    obtain ⟨_, _, referred⟩ := bind_ok.mp referred
    obtain ⟨_, active, referred⟩ := bind_ok.mp referred
    split at referred
    · rename_i principal credential isPrincipal isCredential
      obtain ⟨_, _, referred⟩ := bind_ok.mp referred
      obtain ⟨sourceHead, sourced, referred⟩ := bind_ok.mp referred
      cases referred
      exact ⟨state, principal, credential, known, not_not.mp (raiseIf_ok.mp active), isPrincipal,
        isCredential, sourceHead, sourced, rfl⟩
    · cases referred

theorem revalidate_valid {request : TrustReferenceRevalidation}
    (valid : (service.revalidate request).disposition = .valid) :
    service.refer (service.requestFor request.reference) = .ok request.reference := by
  unfold Service.revalidate at valid
  split at valid
  · cases valid
  · split at valid
    · cases valid
    · split at valid
      · cases valid
      · dsimp only at valid
        split at valid
        · cases valid
        · rename_i same
          unfold Service.authenticate at same valid
          split at same
          · rename_i reference referred
            have equal : some reference = some request.reference :=
              not_not.mp (fun differs => same (.inr differs))
            cases equal
            exact referred
          · rename_i decision refused
            rw [refused] at valid
            exact absurd valid (refer_error refused)

/-- A valid reference names the decision the state stands at. -/
theorem valid_reference {request : TrustReferenceRevalidation}
    (valid : (service.revalidate request).disposition = .valid) :
    ∃ state, service.state = some state ∧ state.phase = .active ∧
      request.reference.materializationHead = state.materializationHead := by
  obtain ⟨state, _, _, known, active, _, _, _, _, referred⟩ := refer_ok (revalidate_valid valid)
  exact ⟨state, known, active, congrArg TrustReference.materializationHead referred⟩

/-- Two requests on one contour for one subject come to the same source head. -/
theorem sourceHead_unique {state : CurrentDatabaseState} {first second : AuthenticationRequest}
    {firstHead secondHead : String} (contour : first.contour = second.contour)
    (witness : first.contour = "TELEGRAM" →
      first.transportWitnessId = second.transportWitnessId)
    (source : first.contour = "EVIDENCE" → first.sourceId = second.sourceId)
    (firstSourced : service.sourceHead state credential first = .ok firstHead)
    (secondSourced : service.sourceHead state credential second = .ok secondHead) :
    firstHead = secondHead := by
  unfold Service.sourceHead at firstSourced secondSourced
  rw [← contour] at secondSourced
  split at firstSourced
  · rename_i telegram
    rw [if_pos telegram, ← witness telegram] at secondSourced
    split at firstSourced
    · cases firstSourced
    · rename_i known held
      rw [held] at secondSourced
      dsimp only at secondSourced
      split at firstSourced
      · split at secondSourced
        · cases firstSourced
          cases secondSourced
          rfl
        · cases secondSourced
      · cases firstSourced
  · rename_i notTelegram
    rw [if_neg notTelegram] at secondSourced
    split at firstSourced
    · rename_i evidence
      rw [if_pos evidence, ← source evidence] at secondSourced
      exact Except.ok.inj (firstSourced.symm.trans secondSourced)
    · rename_i notEvidence
      rw [if_neg notEvidence] at secondSourced
      exact Except.ok.inj (firstSourced.symm.trans secondSourced)

/-- One contour and one subject have at most one valid reference. -/
theorem valid_unique {first second : TrustReferenceRevalidation}
    (firstValid : (service.revalidate first).disposition = .valid)
    (secondValid : (service.revalidate second).disposition = .valid)
    (contour : first.reference.contour = second.reference.contour)
    (subject : service.subjectOf first.reference = service.subjectOf second.reference) :
    first.reference = second.reference := by
  obtain ⟨state, principal, credential, known, _, isPrincipal, isCredential, head, sourced,
    firstReference⟩ := refer_ok (revalidate_valid firstValid)
  obtain ⟨other, otherPrincipal, otherCredential, otherKnown, _, otherIsPrincipal,
    otherIsCredential, otherHead, otherSourced, secondReference⟩ :=
    refer_ok (revalidate_valid secondValid)
  cases known.symm.trans otherKnown
  cases isPrincipal.symm.trans otherIsPrincipal
  cases isCredential.symm.trans otherIsCredential
  have sameHead : head = otherHead := by
    apply sourceHead_unique contour ?_ ?_ sourced otherSourced
    · intro telegram
      have telegram : first.reference.contour = "TELEGRAM" := telegram
      simpa only [Service.subjectOf, if_pos telegram, if_pos (contour ▸ telegram)] using subject
    · intro evidence
      have evidence : first.reference.contour = "EVIDENCE" := evidence
      have different : ¬ first.reference.contour = "TELEGRAM" := by
        rw [evidence]
        decide
      have same : some (service.requestFor first.reference).sourceId =
          some (service.requestFor second.reference).sourceId := by
        simpa only [Service.subjectOf, if_neg different, if_neg (contour ▸ different),
          if_pos evidence, if_pos (contour ▸ evidence)] using subject
      exact Option.some.inj same
  rw [firstReference, secondReference, sameHead]
  have sameContour : (service.requestFor first.reference).contour =
      (service.requestFor second.reference).contour := contour
  rw [sameContour]

end

section

variable [Hashlib] [PageReader] {service : Service}

/-- A reference that was valid before a later decision is valid at no later point, on
whatever service, and a contour has at most one valid reference per subject. -/
theorem references_never_return {configuration : Configuration} {earlier later : World}
    (run : Run anyEvent (.initial configuration) earlier) (rest : Run anyEvent earlier later) :
    (CollisionFree later.ports.journal → ∀ service request, earlier.service = some service →
      (service.revalidate request).disposition = .valid →
      earlier.ports.journal.length < later.ports.journal.length →
      ∀ service' request', later.service = some service' →
        request'.reference = request.reference →
        (service'.revalidate request').disposition ≠ .valid) ∧
    ∀ service first second, earlier.service = some service →
      (service.revalidate first).disposition = .valid →
      (service.revalidate second).disposition = .valid →
      first.reference.contour = second.reference.contour →
      service.subjectOf first.reference = service.subjectOf second.reference →
      first.reference = second.reference := by
  constructor
  · intro free service request live valid grew service' request' live' same valid'
    obtain ⟨more, extended⟩ := rest.journal_prefix
    have before := run.consistent (initial_consistent configuration)
      (CollisionFree.left (extended ▸ free))
    have after := (run.trans rest).consistent (initial_consistent configuration) free
    obtain ⟨rows, authority, history, _, agrees⟩ := before
    obtain ⟨rows', authority', history', _, agrees'⟩ := after
    obtain ⟨state, known, active, head⟩ := valid_reference valid
    obtain ⟨state', known', active', head'⟩ := valid_reference valid'
    have last := (agrees service live).head state known active
    have last' := (agrees' service' live').head state' known' active'
    have distinct := history'.distinct free
    rw [← extended] at distinct last'
    have nonempty : more ≠ [] := by
      intro empty
      rw [← extended, empty, List.append_nil] at grew
      omega
    apply HashChain.head_ne_of_grown distinct nonempty last
    rw [last', ← head', same, head]
  · intro service first second _ firstValid secondValid contour subject
    exact valid_unique firstValid secondValid contour subject

omit [PageReader] in
/-- The reference of the local contour. -/
theorem local_reference_valid {state : CurrentDatabaseState}
    {principal : String} {credential : CredentialState} (known : service.state = some state)
    (active : state.phase = .active) (bound : service.principal = some principal)
    (held : service.credential = some credential) (unrevoked : credential.revoked = false) :
    (service.revalidate
      { reference := ⟨state.tenantId, principal, "CLI", credential.head, credential.sessionHead,
          "local", state.trustHead, state.materializationHead, service.freshness,
          credential.peerCredential⟩
        operation := "CREATE_INTENTION_LINE"
        subjectId := ⟨state.tenantId, "line-1"⟩ }).disposition = .valid := by
  simp [Service.revalidate, Service.authenticate, Service.refer, Service.requestFor,
    Service.sourceHead, credentialCheck, known, active, bound, held, unrevoked]

end

/-- The reference of a bootstrapped tenant ends with the first source it registers, under a
hash that counts. -/
theorem references_never_return_registered :
    letI := countingHash
    letI : PageReader := ⟨fun _ => none⟩
    ∃ (earlier later : World) (service after : Service) (request : TrustReferenceRevalidation),
      earlier.service = some service ∧ later.service = some after ∧
      (service.revalidate request).disposition = .valid ∧
      (after.revalidate request).disposition ≠ .valid := by
  let _ := countingHash
  let _ : PageReader := ⟨fun _ => none⟩
  obtain ⟨service, ports, decision, run, authority, _, _, _, state, _, bootstrapped⟩ :=
    exists_bootstrapped _ trustedTenant "tenant-1" "database-1" (bootstrapWith "recovery")
      (fun world => anyEvent_holds world _) (fun world => anyEvent_holds world _) rfl rfl
  have unregistered : service.sources.get? "mail" = none := by
    rw [authority]
    rfl
  have planned : ∃ payload settle, Operation.plan service ports.journal
      (.registerEvidenceSource "mail") =
        .ok (.decides .registerEvidenceSource payload settle) := by
    simp [Operation.plan, registerEvidenceSource, Service.requireActive, state, unregistered,
      Except.map, Outcome.void]
  obtain ⟨payload, settle, planned⟩ := planned
  have begin : Run anyEvent ⟨some service, ports⟩ ⟨some service, ports⟩ := .start
  obtain ⟨after, grown, journal, rest⟩ : ∃ (after : Service) (grown : Ports),
      grown.journal = ports.journal ++
        [decisionEntry ports.journal .registerEvidenceSource payload] ∧
      Run anyEvent ⟨some service, ports⟩ ⟨some after, grown⟩ :=
    ⟨_, begin.decided (anyEvent_holds _ _) planned⟩
  have bound := congrArg Authority.principal authority
  have held := congrArg Authority.credential authority
  have valid := local_reference_valid state rfl bound held rfl
  refine ⟨⟨some service, ports⟩, ⟨some after, grown⟩, service, after, _, rfl, rfl, valid, ?_⟩
  have free : CollisionFree grown.journal :=
    counting_free (run.trans rest).chained
      (by rw [journal, bootstrapped]; exact Nat.le_add_left 3 13)
  apply (references_never_return run rest).1 free service _ rfl valid ?_ _ _ rfl rfl
  rw [journal, List.length_append, List.length_singleton]
  exact Nat.lt_succ_self _

end Chiplog.DeploymentTrust
