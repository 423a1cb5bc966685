import Chiplog.DeploymentTrust.Recovery

namespace Chiplog.DeploymentTrust

open Chiplog.Data

/-! Reading a decision back gives the operation's own settlement.

The lemmas on the readers undo the dumps of the records; over them each operation meets
`Outcome.Rebuilt` and `Outcome.Reconstructed`, and no later proof unfolds a reader. -/

section Readers

@[simp] theorem item_cons (first : String) (value : Json) (rest : List (String × Json))
    (key : String) :
    item (.obj ((first, value) :: rest)) key =
      if key = first then .ok value else item (.obj rest) key := by
  by_cases same : key = first
  · simp [item, same]
  · simp [item, List.lookup, beq_false_of_ne same, same]

@[simp] theorem textAt_cons (first : String) (value : Json) (rest : List (String × Json))
    (key : String) :
    textAt (.obj ((first, value) :: rest)) key =
      if key = first then readText value else textAt (.obj rest) key := by
  unfold textAt
  rw [item_cons]
  split <;> rfl

@[simp] theorem itemOr_cons (first : String) (value : Json) (rest : List (String × Json))
    (key : String) (default : Json) :
    itemOr (.obj ((first, value) :: rest)) key default =
      if key = first then value else itemOr (.obj rest) key default := by
  by_cases same : key = first
  · simp [itemOr, same]
  · simp [itemOr, List.lookup, beq_false_of_ne same, same]

@[simp] theorem itemOr_nil (key : String) (default : Json) :
    itemOr (.obj []) key default = default := rfl

@[simp] theorem readText_toJson (text : String) : readText (toJson text) = .ok text := rfl

@[simp] theorem readText_str (text : String) : readText (.str text) = .ok text := rfl

@[simp] theorem readInt_toJson (value : Int) : readInt (toJson value) = .ok value := rfl

@[simp] theorem readBool_toJson (value : Bool) : readBool (toJson value) = .ok value := rfl

@[simp] theorem readOptional_text (text : Option String) :
    readOptional readText (toJson text) = .ok text := by
  cases text <;> rfl

@[simp] theorem readOptional_int (value : Option Int) :
    readOptional readInt (toJson value) = .ok value := by
  cases value <;> rfl

@[simp] theorem readWitnessKind_text (kind : WitnessKind) :
    readWitnessKind (toJson kind.text) = .ok kind := by
  cases kind <;> rfl

@[simp] theorem readTransitionKind_text (kind : TransitionKind) :
    readTransitionKind (toJson kind.text) = .ok kind := by
  cases kind <;> rfl

@[simp] theorem readMembers_toJson (members : List (String × String)) :
    readMembers (toJson members) = .ok members := by
  induction members with
  | nil => rfl
  | cons member rest ih =>
      have tail : (rest.map toJson).mapM readMember = .ok rest := ih
      change (toJson member :: rest.map toJson).mapM readMember = .ok (member :: rest)
      rw [List.mapM_cons, tail]
      rfl

@[simp] theorem readGenesis_toJson (genesis : DatabaseGenesis) :
    readGenesis (toJson genesis) = .ok genesis := by
  change readGenesis (.obj (modelDump genesis)) = _
  simp [readGenesis, modelDump]

@[simp] theorem readBinding_obj (binding : DeploymentTenantBinding) :
    readBinding (.obj (modelDump binding)) = .ok binding := by
  simp [readBinding, modelDump, DeploymentTenantBinding.unsigned]

@[simp] theorem readBinding_toJson (binding : DeploymentTenantBinding) :
    readBinding (toJson binding) = .ok binding := readBinding_obj binding

@[simp] theorem readCredential_toJson (credential : CredentialState) :
    readCredential (toJson credential) = .ok credential := by
  change readCredential (.obj (modelDump credential)) = _
  simp [readCredential, modelDump]

end Readers

-- Both folds read an aborted transition as none; the equations of their matches are derived here.
example (core : Core) (payload : List (String × Json)) (predecessor : Option String) :
    coreStep core (envelope Kind.trustTransitionAborted.text payload predecessor) =
      .ok { core with phase := .active } := by
  simp [coreStep, envelope]

example (authority : Authority) (decision recordType : String) (payload : List (String × Json)) :
    rebuildDecision authority decision
        (record decision Kind.trustTransitionAborted.text recordType payload) =
      .ok { authority with pending := none } := by
  simp [rebuildDecision, record]

/-- The part of a service that the fold over the journal recomputes. -/
def coreOf (service : Service) : Core where
  genesis := service.genesis
  binding := service.binding
  phase := (service.state.map CurrentDatabaseState.phase).getD .bootstrapRequired
  generation := (service.state.map CurrentDatabaseState.generation).getD 1

/-- The kinds whose decision replaces the binding. -/
def Kind.rebinds : Kind → Bool
  | initialization | trustTransitionAccepted | operatorBindingKeyRotation
  | journalRootRotation => true
  | _ => false

/-- What the other kinds leave alone. -/
def identityOf (service : Service) :
    Option DatabaseGenesis × Option DeploymentTenantBinding × String × Bytes ×
      Option (String × String × String) :=
  (service.genesis, service.binding, service.operatorKeyId, service.operatorSecret,
    service.state.map (fun state => (state.tenantId, state.databaseInstanceId, state.trustHead)))

/-- Before its first decision a service has no authority. -/
def Service.Grounded (service : Service) : Prop :=
  service.state = none → service.toAuthority = Authority.initial

/-- What there is to know about a decision and the service that settled it. -/
structure Settles (service : Service) (kind : Kind) (payload : List (String × Json))
    (decision : String) (after : Service) : Prop where
  rebuilt : ∀ recordType, rebuildDecision service.toAuthority decision
    (record decision kind.text recordType payload) = .ok after.toAuthority
  reconstructed : service.Grounded → ∀ predecessor,
    coreStep (coreOf service) (envelope kind.text payload predecessor) = .ok (coreOf after)
  head : ∀ state, after.state = some state → state.materializationHead = decision
  live : service.Grounded → after.state ≠ none
  identity : kind.rebinds = false → identityOf after = identityOf service
  configured : after.brokerSecret = service.brokerSecret ∧
    after.journalIdentity = service.journalIdentity

/-- An outcome takes no decision, or one of its kind that settles whatever it is named. -/
def Outcome.Sound {α : Type} (service : Service) (expected : Kind) : Outcome α → Prop
  | .returned _ => True
  | .decides kind payload settle =>
      kind = expected ∧ ∀ decision, Settles service kind payload decision
        (settle decision (service.materializedAt decision)).1

variable {service : Service} {outcome : Outcome String}

theorem requireActive_ok {state : CurrentDatabaseState} :
    service.requireActive = .ok state ↔ service.state = some state ∧ state.phase = .active := by
  unfold Service.requireActive
  cases service.state with
  | none => simp
  | some known =>
      by_cases active : known.phase = .active
      · simp only [if_pos active, Except.ok.injEq, Option.some.injEq]
        constructor
        · rintro rfl
          exact ⟨rfl, active⟩
        · exact And.left
      · simp only [if_neg active, Option.some.injEq]
        constructor
        · intro impossible
          cases impossible
        · rintro ⟨rfl, isActive⟩
          exact absurd isActive active

theorem asserted_ok {α : Type} {value : Option α} {known : α} :
    asserted value = .ok known ↔ value = some known := by
  cases value <;> simp [asserted]

theorem bootstrap_sound {request : BootstrapRequest}
    (planned : bootstrap service request = .ok outcome) : outcome.Sound service .bootstrap := by
  unfold bootstrap at planned
  split at planned
  · split at planned
    · obtain ⟨state, _, settled⟩ := bind_ok.mp planned
      cases settled
      trivial
    · cases planned
  · obtain ⟨_, available, planned⟩ := bind_ok.mp planned
    iterate 3 obtain ⟨_, _, planned⟩ := bind_ok.mp planned
    cases planned
    refine ⟨rfl, ?_⟩
    intro decision
    have phase := not_not.mp (raiseIf_ok.mp available)
    obtain ⟨state, known, _⟩ := Option.map_eq_some_iff.mp phase
    constructor <;>
      simp_all [rebuildDecision, record, coreStep, envelope, coreOf, identityOf,
        Service.materializedAt, Service.replaceState, Kind.rebinds, BootstrapRequest.payload,
        BootstrapRequest.settle]

theorem registerEvidenceSource_sound {sourceId : String}
    {outcome : Outcome EvidenceSourceState}
    (planned : registerEvidenceSource service sourceId = .ok outcome) :
    outcome.Sound service .registerEvidenceSource := by
  obtain ⟨state, active, planned⟩ := bind_ok.mp planned
  obtain ⟨_, _, planned⟩ := bind_ok.mp planned
  obtain ⟨known, _⟩ := requireActive_ok.mp active
  cases planned
  refine ⟨rfl, ?_⟩
  intro decision
  constructor <;>
    simp [rebuildDecision, readSource, modelDump, record, coreStep, envelope, coreOf, identityOf,
      Service.materializedAt, Service.replaceState, known]

theorem rotateCredential_sound {expectedHead newCredentialId : String}
    {outcome : Outcome CredentialState}
    (planned : rotateCredential service expectedHead newCredentialId = .ok outcome) :
    outcome.Sound service .rotateCredential := by
  obtain ⟨state, active, planned⟩ := bind_ok.mp planned
  obtain ⟨known, _⟩ := requireActive_ok.mp active
  split at planned
  · cases planned
  · obtain ⟨_, _, planned⟩ := bind_ok.mp planned
    cases planned
    refine ⟨rfl, ?_⟩
    intro decision
    constructor <;>
      simp [rebuildDecision, readCredential, modelDump, record, coreStep, envelope, coreOf,
        identityOf, Service.materializedAt, Service.replaceState, known]

theorem revoke_sound {expectedHead : String} {outcome : Outcome Unit}
    (planned : revoke service expectedHead = .ok outcome) : outcome.Sound service .revokeCredential := by
  unfold revoke at planned
  split at planned
  · cases planned
  · rename_i current held
    obtain ⟨_, _, planned⟩ := bind_ok.mp planned
    cases planned
    refine ⟨rfl, ?_⟩
    intro decision
    have live (grounded : service.Grounded) : service.state ≠ none := by
      intro unset
      have bare := grounded unset
      rw [bare] at held
      cases held
    constructor <;>
      simp_all [rebuildDecision, record, coreStep, envelope, coreOf, identityOf,
        Service.materializedAt, Service.replaceState, Kind.rebinds, Function.comp_def]

theorem authorizePollCursor_sound {sourceId cursor pageId : String} {cursorSequence : Int}
    (planned : authorizePollCursor service sourceId cursor pageId cursorSequence = .ok outcome) :
    outcome.Sound service .pollCursorAdvanceAuthorized := by
  obtain ⟨state, active, planned⟩ := bind_ok.mp planned
  obtain ⟨known, _⟩ := requireActive_ok.mp active
  obtain ⟨_, _, planned⟩ := bind_ok.mp planned
  have advanced {polled : PollCursorState}
      (current : polled = (service.poll.get? sourceId).getD (.unpolled sourceId))
      (planned : authorizePollCursor.advance sourceId cursor pageId cursorSequence polled =
        .ok outcome) : outcome.Sound service .pollCursorAdvanceAuthorized := by
    obtain ⟨_, _, planned⟩ := bind_ok.mp planned
    obtain ⟨_, _, planned⟩ := bind_ok.mp planned
    cases planned
    refine ⟨rfl, ?_⟩
    intro decision
    constructor <;>
      simp [rebuildDecision, record, coreStep, envelope, coreOf, identityOf, current,
        Service.materializedAt, Service.replaceState, known]
  split at planned
  · cases planned
  · obtain ⟨_, _, planned⟩ := bind_ok.mp planned
    dsimp only at planned
    split at planned
    · split at planned
      · cases planned
        trivial
      · exact advanced rfl planned
    · exact advanced rfl planned

theorem applyPollCursor_sound {sourceId cursor : String}
    (planned : applyPollCursor service sourceId cursor = .ok outcome) :
    outcome.Sound service .pollCursorApplied := by
  unfold applyPollCursor at planned
  split at planned
  · cases planned
  · rename_i state polled
    have live (grounded : service.Grounded) : service.state ≠ none := by
      intro unset
      have bare := grounded unset
      rw [bare] at polled
      cases polled
    have settled (planned : applyPollCursor.settle sourceId cursor state = .ok outcome) :
        outcome.Sound service .pollCursorApplied := by
      cases planned
      refine ⟨rfl, ?_⟩
      intro decision
      constructor <;>
        simp_all [rebuildDecision, record, coreStep, envelope, coreOf, identityOf,
          Service.materializedAt, Service.replaceState, Kind.rebinds, Function.comp_def]
    obtain ⟨_, _, planned⟩ := bind_ok.mp planned
    split at planned
    · split at planned
      · cases planned
        trivial
      · exact settled planned
    · exact settled planned

theorem holdFutureContour_sound {outcome : Outcome Unit}
    (planned : holdFutureContour service = .ok outcome) : outcome.Sound service .principalContourPrerequisite := by
  obtain ⟨state, active, planned⟩ := bind_ok.mp planned
  obtain ⟨known, _⟩ := requireActive_ok.mp active
  cases planned
  refine ⟨rfl, ?_⟩
  intro decision
  constructor <;>
    simp [rebuildDecision, record, coreStep, envelope, coreOf, identityOf,
      Service.materializedAt, Service.replaceState, known]

theorem markAuthenticatedLateEvidence_sound {sourceId expectedHead : String}
    (planned : markAuthenticatedLateEvidence service sourceId expectedHead = .ok outcome) :
    outcome.Sound service .authenticatedLateEvidence := by
  unfold markAuthenticatedLateEvidence at planned
  split at planned
  · cases planned
  · rename_i source registered
    obtain ⟨_, _, planned⟩ := bind_ok.mp planned
    have live (grounded : service.Grounded) : service.state ≠ none := by
      intro unset
      have bare := grounded unset
      rw [bare] at registered
      cases registered
    cases planned
    refine ⟨rfl, ?_⟩
    intro decision
    constructor <;>
      simp_all [rebuildDecision, record, coreStep, envelope, coreOf, identityOf,
        Service.materializedAt, Service.replaceState, Kind.rebinds, Function.comp_def]

theorem prepareTrustTransition_sound {proposal : TransitionProposal}
    {outcome : Outcome PendingTrustTransition}
    (planned : prepareTrustTransition service proposal = .ok outcome) :
    outcome.Sound service .trustTransitionPrepared := by
  obtain ⟨state, active, planned⟩ := bind_ok.mp planned
  obtain ⟨known, _⟩ := requireActive_ok.mp active
  iterate 4 obtain ⟨_, _, planned⟩ := bind_ok.mp planned
  cases planned
  refine ⟨rfl, ?_⟩
  intro decision
  constructor <;>
    simp [rebuildDecision, readPending, record, coreStep, envelope, coreOf, identityOf,
      Service.materializedAt, Service.replaceState, known]

theorem pendingIn_ok {transitionId message : String} {phase : PendingPhase}
    {pending : PendingTrustTransition}
    (found : service.pendingIn transitionId phase message = .ok pending) :
    service.pending = some pending ∧ pending.transitionId = transitionId ∧
      pending.phase = phase := by
  unfold Service.pendingIn at found
  split at found
  · cases found
  · rename_i known held
    split at found
    · cases found
    · rename_i matches'
      cases found
      exact ⟨held, not_not.mp (fun differs => matches' (.inl differs)),
        not_not.mp (fun differs => matches' (.inr differs))⟩

theorem pending_live {pending : PendingTrustTransition} (held : service.pending = some pending)
    (grounded : service.Grounded) : service.state ≠ none := by
  intro unset
  have bare := grounded unset
  rw [bare] at held
  cases held

theorem markTransitionReady_sound {journal : List Entry} {transitionId : String}
    {outcome : Outcome PendingTrustTransition}
    (planned : markTransitionReady service journal transitionId = .ok outcome) :
    outcome.Sound service .trustTransitionReady := by
  obtain ⟨pending, found, planned⟩ := bind_ok.mp planned
  obtain ⟨state, asserted, planned⟩ := bind_ok.mp planned
  obtain ⟨_, _, planned⟩ := bind_ok.mp planned
  obtain ⟨held, _, _⟩ := pendingIn_ok found
  have known := asserted_ok.mp asserted
  cases planned
  refine ⟨rfl, ?_⟩
  intro decision
  constructor <;>
    simp [rebuildDecision, record, coreStep, envelope, coreOf, identityOf, held,
      Service.materializedAt, Service.replaceState, known]

theorem abortTrustTransition_sound {transitionId : String}
    (planned : abortTrustTransition service transitionId = .ok outcome) :
    outcome.Sound service .trustTransitionAborted := by
  obtain ⟨pending, found, planned⟩ := bind_ok.mp planned
  obtain ⟨held, _, _⟩ := pendingIn_ok found
  have live := pending_live held
  cases planned
  refine ⟨rfl, ?_⟩
  intro decision
  constructor
  case reconstructed =>
    intro grounded predecessor
    obtain ⟨state, known⟩ := Option.ne_none_iff_exists'.mp (live grounded)
    simp [coreStep, envelope, coreOf, Service.materializedAt, Service.replaceState, known]
  all_goals
    simp_all [rebuildDecision, record, identityOf,
      Service.materializedAt, Service.replaceState, Kind.rebinds, Function.comp_def]

section

variable [Hashlib]

theorem initializeDatabase_sound {tenantId databaseInstanceId : String}
    {outcome : Outcome CurrentDatabaseState}
    (planned : initializeDatabase service tenantId databaseInstanceId = .ok outcome) :
    outcome.Sound service .initialization := by
  obtain ⟨_, unset, planned⟩ := bind_ok.mp planned
  have unset : service.state = none := by
    simpa using raiseIf_ok.mp unset
  cases planned
  refine ⟨rfl, ?_⟩
  intro decision
  constructor <;>
    simp [rebuildDecision, record, coreStep, envelope, coreOf,
      Service.materializedAt, Service.replaceState, Kind.rebinds, unset]

theorem emergencyRecover_sound {request : EmergencyRequest} {outcome : Outcome CredentialState}
    (planned : emergencyRecover service request = .ok outcome) : outcome.Sound service .emergencyRecovery := by
  obtain ⟨state, active, planned⟩ := bind_ok.mp planned
  obtain ⟨known, _⟩ := requireActive_ok.mp active
  split at planned
  · cases planned
  · obtain ⟨_, _, planned⟩ := bind_ok.mp planned
    split at planned
    · cases planned
    · cases planned
      refine ⟨rfl, ?_⟩
      intro decision
      constructor <;>
        simp [rebuildDecision, record, coreStep, envelope, coreOf, identityOf,
          Service.materializedAt, Service.replaceState, known]

theorem issueTransportWitness_sound {request : WitnessRequest}
    {outcome : Outcome TransportOriginWitness}
    (planned : issueTransportWitness service request = .ok outcome) : outcome.Sound service .transportWitness := by
  obtain ⟨state, active, planned⟩ := bind_ok.mp planned
  obtain ⟨known, _⟩ := requireActive_ok.mp active
  obtain ⟨credential, _, planned⟩ := bind_ok.mp planned
  dsimp only at planned
  split at planned
  · split at planned
    · cases planned
    · split at planned
      · cases planned
        trivial
      · cases planned
  · obtain ⟨_, _, planned⟩ := bind_ok.mp planned
    cases planned
    refine ⟨rfl, ?_⟩
    intro decision
    constructor <;>
      simp [rebuildDecision, readWitness, modelDump, TransportOriginWitness.unsigned, record,
        coreStep, envelope, coreOf, identityOf, Service.signWitness,
        Service.materializedAt, Service.replaceState, known]

theorem recordPollResponsePage_sound [PageReader] {report : PageReport}
    {outcome : Outcome String}
    (planned : recordPollResponsePage service report = .ok outcome) :
    outcome.Sound service .pollResponsePage := by
  obtain ⟨state, active, planned⟩ := bind_ok.mp planned
  obtain ⟨known, _⟩ := requireActive_ok.mp active
  iterate 3 obtain ⟨_, _, planned⟩ := bind_ok.mp planned
  split at planned
  · cases planned
  · obtain ⟨_, _, planned⟩ := bind_ok.mp planned
    obtain ⟨_, _, planned⟩ := bind_ok.mp planned
    split at planned
    · split at planned
      · cases planned
        trivial
      · cases planned
    · cases planned
      refine ⟨rfl, ?_⟩
      intro decision
      constructor <;>
        simp [rebuildDecision, record, coreStep, envelope, coreOf, identityOf,
          Service.materializedAt, Service.replaceState, known]

theorem acceptTrustTransition_sound {transitionId : String} {newSecret : Option Bytes}
    {outcome : Outcome String}
    (planned : acceptTrustTransition service transitionId newSecret = .ok outcome) :
    outcome.Sound service .trustTransitionAccepted := by
  obtain ⟨pending, _, planned⟩ := bind_ok.mp planned
  obtain ⟨current, _, planned⟩ := bind_ok.mp planned
  obtain ⟨state, asserted, planned⟩ := bind_ok.mp planned
  have known := asserted_ok.mp asserted
  cases planned
  refine ⟨rfl, ?_⟩
  intro decision
  constructor <;>
    simp [rebuildDecision, record, coreStep, envelope, coreOf, Kind.rebinds,
      Service.materializedAt, Service.replaceState, known]

theorem rotateBindingKey_sound {newKeyId : String} {newSecret : Bytes}
    {outcome : Outcome DeploymentTenantBinding}
    (planned : rotateBindingKey service newKeyId newSecret = .ok outcome) :
    outcome.Sound service .operatorBindingKeyRotation := by
  obtain ⟨state, active, planned⟩ := bind_ok.mp planned
  obtain ⟨known, _⟩ := requireActive_ok.mp active
  obtain ⟨current, _, planned⟩ := bind_ok.mp planned
  cases planned
  refine ⟨rfl, ?_⟩
  intro decision
  constructor <;>
    simp [rebuildDecision, record, coreStep, envelope, coreOf, Kind.rebinds,
      Service.materializedAt, Service.replaceState, known]

theorem rotateJournalRoot_sound {newEpoch : Int} {outcome : Outcome DeploymentTenantBinding}
    (planned : rotateJournalRoot service newEpoch = .ok outcome) : outcome.Sound service .journalRootRotation := by
  obtain ⟨state, active, planned⟩ := bind_ok.mp planned
  obtain ⟨known, _⟩ := requireActive_ok.mp active
  obtain ⟨current, _, planned⟩ := bind_ok.mp planned
  obtain ⟨_, _, planned⟩ := bind_ok.mp planned
  cases planned
  refine ⟨rfl, ?_⟩
  intro decision
  constructor <;>
    simp [rebuildDecision, record, coreStep, envelope, coreOf, Kind.rebinds,
      Service.materializedAt, Service.replaceState, known]

end

/-- What a decision of each kind leaves alone. -/
structure Leaves (kind : Kind) (before after : Authority) : Prop where
  bootstrapped : kind ≠ .bootstrap → after.principal = before.principal ∧
    after.bootstrapFingerprint = before.bootstrapFingerprint
  poll : kind ≠ .pollCursorAdvanceAuthorized → kind ≠ .pollCursorApplied →
    after.poll = before.poll
  pollPages : kind ≠ .pollResponsePage → after.pollPages = before.pollPages

theorem rebuildDecision_leaves {authority after : Authority} {decision recordType : String}
    {kind : Kind} {payload : List (String × Json)}
    (rebuilt : rebuildDecision authority decision (record decision kind.text recordType payload) =
      .ok after) : Leaves kind authority after := by
  unfold rebuildDecision at rebuilt
  have named : textAt (record decision kind.text recordType payload) "operation_kind" =
      .ok kind.text := by simp [record]
  rw [named, ok_bind, Kind.ofText?_text] at rebuilt
  cases kind
  all_goals
    dsimp only at rebuilt
    repeat obtain ⟨_, _, rebuilt⟩ := bind_ok.mp rebuilt
    try split at rebuilt
  all_goals
    cases rebuilt
    constructor <;> simp

theorem Settles.leaves {after : Service} {kind : Kind} {payload : List (String × Json)}
    {decision : String} (settles : Settles service kind payload decision after) :
    Leaves kind service.toAuthority after.toAuthority :=
  rebuildDecision_leaves (settles.rebuilt "")

end Chiplog.DeploymentTrust

namespace Chiplog.DeploymentTrust

open Chiplog.Data

/-! Runs of the trust service over its two ports.

A step is one operation that returned, an operation that the process did not survive once
its decision was in the journal, or one of the ways back in: `recover` or `restore` on the
running service, a fresh service over the same ports, a protected startup.  An operation
that raises leaves everything as it was. -/

inductive Operation where
  | initializeDatabase (tenantId databaseInstanceId : String)
  | bootstrap (request : BootstrapRequest)
  | registerEvidenceSource (sourceId : String)
  | rotateCredential (expectedHead newCredentialId : String)
  | revoke (expectedHead : String)
  | emergencyRecover (request : EmergencyRequest)
  | issueTransportWitness (request : WitnessRequest)
  | authorizePollCursor (sourceId cursor pageId : String) (cursorSequence : Int)
  | applyPollCursor (sourceId cursor : String)
  | holdFutureContour
  | recordPollResponsePage (report : PageReport)
  | markAuthenticatedLateEvidence (sourceId expectedHead : String)
  | prepareTrustTransition (proposal : TransitionProposal)
  | markTransitionReady (transitionId : String)
  | abortTrustTransition (transitionId : String)
  | acceptTrustTransition (transitionId : String) (newSecret : Option Bytes)
  | rotateBindingKey (newKeyId : String) (newSecret : Bytes)
  | rotateJournalRoot (newEpoch : Int)
deriving DecidableEq

/-- The kind of the decision an operation takes. -/
def Operation.kind : Operation → Kind
  | .initializeDatabase .. => .initialization
  | .bootstrap .. => .bootstrap
  | .registerEvidenceSource .. => .registerEvidenceSource
  | .rotateCredential .. => .rotateCredential
  | .revoke .. => .revokeCredential
  | .emergencyRecover .. => .emergencyRecovery
  | .issueTransportWitness .. => .transportWitness
  | .authorizePollCursor .. => .pollCursorAdvanceAuthorized
  | .applyPollCursor .. => .pollCursorApplied
  | .holdFutureContour => .principalContourPrerequisite
  | .recordPollResponsePage .. => .pollResponsePage
  | .markAuthenticatedLateEvidence .. => .authenticatedLateEvidence
  | .prepareTrustTransition .. => .trustTransitionPrepared
  | .markTransitionReady .. => .trustTransitionReady
  | .abortTrustTransition .. => .trustTransitionAborted
  | .acceptTrustTransition .. => .trustTransitionAccepted
  | .rotateBindingKey .. => .operatorBindingKeyRotation
  | .rotateJournalRoot .. => .journalRootRotation

/-- The outcome without the returned value. -/
def Outcome.void {α : Type} : Outcome α → Outcome Unit
  | .returned _ => .returned ()
  | .decides kind payload settle =>
      .decides kind payload fun decision service => ((settle decision service).1, ())

variable [Hashlib] [PageReader]

def Operation.plan (service : Service) (journal : List Entry) :
    Operation → Except TrustError (Outcome Unit)
  | .initializeDatabase tenantId databaseInstanceId =>
      (DeploymentTrust.initializeDatabase service tenantId databaseInstanceId).map Outcome.void
  | .bootstrap request => (DeploymentTrust.bootstrap service request).map Outcome.void
  | .registerEvidenceSource sourceId =>
      (DeploymentTrust.registerEvidenceSource service sourceId).map Outcome.void
  | .rotateCredential expectedHead newCredentialId =>
      (DeploymentTrust.rotateCredential service expectedHead newCredentialId).map Outcome.void
  | .revoke expectedHead => (DeploymentTrust.revoke service expectedHead).map Outcome.void
  | .emergencyRecover request =>
      (DeploymentTrust.emergencyRecover service request).map Outcome.void
  | .issueTransportWitness request =>
      (DeploymentTrust.issueTransportWitness service request).map Outcome.void
  | .authorizePollCursor sourceId cursor pageId cursorSequence =>
      (DeploymentTrust.authorizePollCursor service sourceId cursor pageId cursorSequence).map
        Outcome.void
  | .applyPollCursor sourceId cursor =>
      (DeploymentTrust.applyPollCursor service sourceId cursor).map Outcome.void
  | .holdFutureContour => (DeploymentTrust.holdFutureContour service).map Outcome.void
  | .recordPollResponsePage report =>
      (DeploymentTrust.recordPollResponsePage service report).map Outcome.void
  | .markAuthenticatedLateEvidence sourceId expectedHead =>
      (DeploymentTrust.markAuthenticatedLateEvidence service sourceId expectedHead).map
        Outcome.void
  | .prepareTrustTransition proposal =>
      (DeploymentTrust.prepareTrustTransition service proposal).map Outcome.void
  | .markTransitionReady transitionId =>
      (DeploymentTrust.markTransitionReady service journal transitionId).map Outcome.void
  | .abortTrustTransition transitionId =>
      (DeploymentTrust.abortTrustTransition service transitionId).map Outcome.void
  | .acceptTrustTransition transitionId newSecret =>
      (DeploymentTrust.acceptTrustTransition service transitionId newSecret).map Outcome.void
  | .rotateBindingKey newKeyId newSecret =>
      (DeploymentTrust.rotateBindingKey service newKeyId newSecret).map Outcome.void
  | .rotateJournalRoot newEpoch =>
      (DeploymentTrust.rotateJournalRoot service newEpoch).map Outcome.void

/-- The running service, if the process lives, and what is durable. -/
structure World where
  service : Option Service
  ports : Ports

/-- A fresh service over ports that hold nothing yet. -/
def World.initial (configuration : Configuration) : World :=
  ⟨some (.new configuration), .empty⟩

inductive Event where
  | call (operation : Operation)
  | interrupt (operation : Operation)
  | recover
  | restore (genesis : DatabaseGenesis)
  | restart (configuration : Configuration)
  | replay
  | admits (state : CurrentDatabaseState) (genesis : DatabaseGenesis)
      (binding : DeploymentTenantBinding)
  | startup (configuration : Configuration) (state : CurrentDatabaseState)
      (genesis : DatabaseGenesis) (binding : DeploymentTenantBinding)
  | refuse (state : CurrentDatabaseState)
deriving DecidableEq

inductive Step : World → Event → World → Prop
  | call {service after : Service} {before ports : Ports} {operation : Operation}
      {outcome : Outcome Unit} (planned : operation.plan service before.journal = .ok outcome)
      (performed : outcome.perform service before = .ok ((), after, ports)) :
      Step ⟨some service, before⟩ (.call operation) ⟨some after, ports⟩
  | interrupted {service : Service} {before ports : Ports} {operation : Operation} {kind : Kind}
      {payload : List (String × Json)} {settle : String → Service → Service × Unit}
      {decision : String}
      (planned : operation.plan service before.journal = .ok (.decides kind payload settle))
      (decided : before.decide kind payload = .ok (decision, ports)) :
      Step ⟨some service, before⟩ (.interrupt operation) ⟨none, ports⟩
  /-- The materializer was reached as well. -/
  | interruptedLate {service : Service} {before ports : Ports} {operation : Operation}
      {kind : Kind} {payload : List (String × Json)}
      {settle : String → Service → Service × Unit} {decision : String}
      (planned : operation.plan service before.journal = .ok (.decides kind payload settle))
      (decided : before.decide kind payload = .ok (decision, ports)) :
      Step ⟨some service, before⟩ (.interrupt operation)
        ⟨none, ports.materialize decision (recordsOf decision kind.text payload)⟩
  | recover {service after : Service} {before ports : Ports} {recovered : Nat}
      (returned : service.recover before = .ok (recovered, after, ports)) :
      Step ⟨some service, before⟩ .recover ⟨some after, ports⟩
  | restore {service after : Service} {before ports : Ports} {recovered : Nat}
      {genesis : DatabaseGenesis}
      (returned : service.restore before genesis = .ok (recovered, after, ports)) :
      Step ⟨some service, before⟩ (.restore genesis) ⟨some after, ports⟩
  | restart {live : Option Service} {after : Service} {before ports : Ports} {recovered : Nat}
      {configuration : Configuration}
      (returned : (Service.new configuration).recover before = .ok (recovered, after, ports)) :
      Step ⟨live, before⟩ (.restart configuration) ⟨some after, ports⟩
  /-- A fresh `recover` that raised, at the latest when it read the binding. -/
  | replay {live : Option Service} {before : Ports} {replay : Replay}
      (replayed : before.replay = .ok replay) :
      Step ⟨live, before⟩ .replay ⟨none, replay.ports⟩
  | admits {service after : Service} {ports : Ports} {state : CurrentDatabaseState}
      {genesis : DatabaseGenesis} {binding : DeploymentTenantBinding}
      (returned : service.admitStartup ports state genesis binding = .ok after) :
      Step ⟨some service, ports⟩ (.admits state genesis binding) ⟨some after, ports⟩
  | startup {live : Option Service} {after : Service} {ports : Ports}
      {configuration : Configuration} {state : CurrentDatabaseState}
      {genesis : DatabaseGenesis} {binding : DeploymentTenantBinding}
      (returned : (Service.new configuration).admitStartup ports state genesis binding =
        .ok after) :
      Step ⟨live, ports⟩ (.startup configuration state genesis binding) ⟨some after, ports⟩
  | refuse {service : Service} {ports : Ports} {state : CurrentDatabaseState}
      {genesis : DatabaseGenesis} {binding : DeploymentTenantBinding}
      (denied : ¬ service.admits ports state genesis binding) :
      Step ⟨some service, ports⟩ (.refuse state) ⟨some (service.refused state), ports⟩

/-- The worlds a run reaches through events that are allowed where they happen. -/
inductive Run (allowed : World → Event → Prop) (start : World) : World → Prop
  | start : Run allowed start start
  | step {before after : World} {event : Event} (run : Run allowed start before)
      (allows : allowed before event) (step : Step before event after) :
      Run allowed start after

/-- Any event at any point. -/
def anyEvent (_ : World) (_ : Event) : Prop := True

omit [Hashlib] [PageReader] in
theorem anyEvent_holds (world : World) (event : Event) : anyEvent world event := trivial

theorem Run.mono {allowed other : World → Event → Prop} {start world : World}
    (run : Run allowed start world)
    (widens : ∀ before event, allowed before event → other before event) :
    Run other start world := by
  induction run with
  | start => exact .start
  | step _ allows step ih => exact .step ih (widens _ _ allows) step

theorem Run.trans {allowed : World → Event → Prop} {first second third : World}
    (front : Run allowed first second) (rest : Run allowed second third) :
    Run allowed first third := by
  induction rest with
  | start => exact front
  | step _ allows step ih => exact .step ih allows step

omit [Hashlib] [PageReader] in
theorem void_ok {α : Type} {plan : Except TrustError (Outcome α)} {outcome : Outcome Unit}
    (planned : plan.map Outcome.void = .ok outcome) :
    ∃ original, plan = .ok original ∧ outcome = original.void := by
  cases plan with
  | error => cases planned
  | ok original =>
      cases planned
      exact ⟨original, rfl, rfl⟩

omit [Hashlib] [PageReader] in
theorem void_decides {α : Type} {plan : Except TrustError (Outcome α)} {kind : Kind}
    {payload : List (String × Json)} {settle : String → Service → Service × Unit}
    (planned : plan.map Outcome.void = .ok (.decides kind payload settle)) :
    ∃ own, plan = .ok (.decides kind payload own) ∧
      settle = fun decision service => ((own decision service).1, ()) := by
  obtain ⟨original, isPlan, same⟩ := void_ok planned
  cases original with
  | returned => cases same
  | decides =>
      cases same
      exact ⟨_, isPlan, rfl⟩

omit [Hashlib] [PageReader] in
theorem sound_void {α : Type} {plan : Except TrustError (Outcome α)} {service : Service}
    {kind : Kind} {outcome : Outcome Unit} (planned : plan.map Outcome.void = .ok outcome)
    (sound : ∀ {original}, plan = .ok original → original.Sound service kind) :
    outcome.Sound service kind := by
  obtain ⟨original, isPlan, rfl⟩ := void_ok planned
  have known := sound isPlan
  cases original with
  | returned => trivial
  | decides kind payload settle => exact known

theorem Operation.plan_sound {service : Service} {journal : List Entry}
    {operation : Operation} {outcome : Outcome Unit}
    (planned : operation.plan service journal = .ok outcome) :
    outcome.Sound service operation.kind := by
  cases operation with
  | initializeDatabase => exact sound_void planned initializeDatabase_sound
  | bootstrap => exact sound_void planned bootstrap_sound
  | registerEvidenceSource => exact sound_void planned registerEvidenceSource_sound
  | rotateCredential => exact sound_void planned rotateCredential_sound
  | revoke => exact sound_void planned revoke_sound
  | emergencyRecover => exact sound_void planned emergencyRecover_sound
  | issueTransportWitness => exact sound_void planned issueTransportWitness_sound
  | authorizePollCursor => exact sound_void planned authorizePollCursor_sound
  | applyPollCursor => exact sound_void planned applyPollCursor_sound
  | holdFutureContour => exact sound_void planned holdFutureContour_sound
  | recordPollResponsePage => exact sound_void planned recordPollResponsePage_sound
  | markAuthenticatedLateEvidence => exact sound_void planned markAuthenticatedLateEvidence_sound
  | prepareTrustTransition => exact sound_void planned prepareTrustTransition_sound
  | markTransitionReady => exact sound_void planned markTransitionReady_sound
  | abortTrustTransition => exact sound_void planned abortTrustTransition_sound
  | acceptTrustTransition => exact sound_void planned acceptTrustTransition_sound
  | rotateBindingKey => exact sound_void planned rotateBindingKey_sound
  | rotateJournalRoot => exact sound_void planned rotateJournalRoot_sound

end Chiplog.DeploymentTrust
