import Chiplog.Data.JsonAscii
import Chiplog.DeploymentTrust.EmergencyRecovery
import Chiplog.DeploymentTrust.References

namespace Chiplog.DeploymentTrust

open Chiplog.Data

/-! The evaluator of the trust worker.

The worker keeps no service.  Each call brings the whole journal: `_snapshot` folds its
decisions into a state of plain values, and `_evaluate` answers the request from it.  A
snapshot is the list of its entries, a stored decision its JSON value. -/

/-- The state of `_snapshot`; without a phase it is `UNAVAILABLE`. -/
structure Snapshot where
  credential : Json
  freshness : Nat
  materializationHead : String
  phase : Option Phase
  principalId : Json
  tenantId : Json
  trustHead : String

def Snapshot.initial : Snapshot := ⟨.null, 0, "", none, .null, .null, ""⟩

/-- `isinstance(value, dict)`. -/
def isDict : Json → Bool
  | .obj _ => true
  | _ => false

/-- `bool(value)`. -/
def truthy : Json → Bool
  | .null => false
  | .bool value => value
  | .int value => value ≠ 0
  | .str value => value ≠ ""
  | .arr items => !items.isEmpty
  | .obj fields => !fields.isEmpty

/-- `{**credential, "revoked": True}`. -/
def revokedCredential : Json → Json
  | .obj fields => .obj (Dict.assign "revoked" (.bool true) fields)
  | value => value

section

variable [Hashlib]

/-- The kinds of `_snapshot` that this aggregate writes. -/
def foldKind (state : Snapshot) (kind : Option Kind) (payload : Json) :
    Except TrustError Snapshot :=
  match kind with
  | some .initialization => do
      let binding ← item payload "binding"
      .ok { state with
        tenantId := ← item binding "tenant_id"
        trustHead := digestOf binding
        phase := some .bootstrapRequired }
  | some .bootstrap => do
      .ok { state with
        principalId := ← item payload "principal_id"
        credential := ← item payload "credential"
        freshness := 1
        phase := some .active }
  | some .rotateCredential | some .emergencyRecovery =>
      .ok { state with
        credential := itemOr payload "credential" payload
        freshness := state.freshness + 1
        phase := some .active }
  | some .principalContourPrerequisite => .ok { state with phase := some .hold }
  | some .trustTransitionPrepared => .ok { state with phase := some .prepared }
  | some .trustTransitionReady => .ok { state with phase := some .ready }
  | some .trustTransitionAborted => .ok { state with phase := some .active }
  | some .trustTransitionAccepted => do
      let binding ← item payload "binding"
      .ok { state with trustHead := digestOf binding, phase := some .active }
  | some .operatorBindingKeyRotation | some .journalRootRotation =>
      .ok { state with trustHead := digestOf payload }
  | _ => .ok state

/-- One round of `_snapshot`, once the kind and the payload are read. -/
def foldDecision (state : Snapshot) (kind : String) (payload : Json) :
    Except TrustError Snapshot :=
  if kind = "REVOKE" ∧ isDict state.credential = true then
    .ok { state with
      credential := revokedCredential state.credential, freshness := state.freshness + 1 }
  else foldKind state (Kind.ofText? kind) payload

def snapshotStep (state : Snapshot) (entry : Entry) : Except TrustError Snapshot := do
  let kind ← textAt entry.body "kind"
  let payload ← item entry.body "payload"
  foldDecision { state with materializationHead := entry.id } kind payload

/-- `_snapshot`. -/
def snapshotOf (entries : List Entry) : Except TrustError Snapshot :=
  entries.foldlM snapshotStep .initial

end

/-- The modes of `_evaluate` on an active contour. -/
inductive OwnerMode where
  | authenticate
  | revalidate
deriving DecidableEq

/-- `_TrustOwnerResult`. -/
structure OwnerResult where
  disposition : Disposition
  referenceBytes : Option Bytes
  reason : Option String
deriving DecidableEq

/-- A result without a reference. -/
def refusal (disposition : Disposition) (reason : String) : OwnerResult :=
  ⟨disposition, none, some reason⟩

/-- The first of the fields in which the credential is not current. -/
def staleField (credential authentication : Json) :
    List String → Except TrustError (Option String)
  | [] => .ok none
  | field :: rest =>
      if truthy (itemOr credential "revoked" .null) then .ok (some field)
      else do
        let claimed ← item authentication field
        let current ← item credential field
        if ¬ Json.Same claimed current then .ok (some field)
        else staleField credential authentication rest

/-- `_evaluate` up to the reference; an inner error is the result it returns instead. -/
def Snapshot.refer (snapshot : Snapshot) (authentication : Json) :
    Except TrustError (Except OwnerResult Json) := do
  let credential := snapshot.credential
  match ← staleField credential authentication
      ["credential_id", "session_id", "peer_credential"] with
  | some field => .ok (.error (refusal .stale (field ++ " is not current")))
  | none =>
      if ¬ Json.Same (← item authentication "contour") (.str "CLI") then
        .ok (.error (refusal .denied "unsupported contour"))
      else
        .ok (.ok (.obj [("contour", .str "CLI"),
          ("credential_head", ← item credential "head"),
          ("freshness_sequence", toJson snapshot.freshness),
          ("materialization_head", .str snapshot.materializationHead),
          ("peer_credential", ← item credential "peer_credential"),
          ("principal_id", snapshot.principalId),
          ("session_head", ← item credential "session_head"),
          ("source_head", .str "local"),
          ("tenant_id", snapshot.tenantId),
          ("trust_head", .str snapshot.trustHead)]))

/-- The authentication that a revalidation asks again: its contour, the rest as it stands. -/
def Snapshot.authenticationFor (snapshot : Snapshot) (reference : Json) :
    Except TrustError Json := do
  .ok (.obj [("contour", ← item reference "contour"),
    ("credential_id", ← item snapshot.credential "credential_id"),
    ("peer_credential", ← item snapshot.credential "peer_credential"),
    ("session_id", ← item snapshot.credential "session_id")])

/-- `_evaluate` on an active contour. -/
def Snapshot.answer (snapshot : Snapshot) (mode : OwnerMode) (request : Json) :
    Except TrustError OwnerResult :=
  match mode with
  | .authenticate => do
      match ← snapshot.refer request with
      | .error result => .ok result
      | .ok current => .ok ⟨.valid, some current.encodeAscii, none⟩
  | .revalidate => do
      if ¬ Json.Same (← item request "operation") (.str "CREATE_INTENTION_LINE") then
        .ok (refusal .denied "operation is not admitted")
      else
        let reference ← item request "reference"
        match ← snapshot.refer (← snapshot.authenticationFor reference) with
        | .error result => .ok result
        | .ok current =>
            if ¬ Json.Same reference current then
              .ok (refusal .stale "trust reference no longer current")
            else .ok ⟨.valid, some current.encodeAscii, none⟩

/-- `_evaluate` in one of the two modes. -/
def evaluate (mode : OwnerMode) (snapshot : Snapshot) (request : Json) :
    Except TrustError OwnerResult :=
  if snapshot.phase = some .hold then
    .ok (refusal .indeterminate "future contour prerequisite hold")
  else if snapshot.phase ≠ some .active ∨ truthy snapshot.principalId = false ∨
      isDict snapshot.credential = false then
    .ok (refusal .denied "single-principal contour inactive")
  else snapshot.answer mode request

/-! What the broker sends of a request. -/

/-- The request of `AUTHENTICATE`. -/
def AuthenticationRequest.owned (request : AuthenticationRequest) : Json :=
  .obj [("contour", toJson request.contour), ("credential_id", toJson request.credentialId),
    ("peer_credential", toJson request.peerCredential),
    ("session_id", toJson request.sessionId)]

/-- A reference as the owner writes it. -/
def TrustReference.owned (reference : TrustReference) : Json :=
  .obj [("contour", toJson reference.contour),
    ("credential_head", toJson reference.credentialHead),
    ("freshness_sequence", toJson reference.freshnessSequence),
    ("materialization_head", toJson reference.materializationHead),
    ("peer_credential", toJson reference.peerCredential),
    ("principal_id", toJson reference.principalId),
    ("session_head", toJson reference.sessionHead),
    ("source_head", toJson reference.sourceHead),
    ("tenant_id", toJson reference.tenantId),
    ("trust_head", toJson reference.trustHead)]

/-- The request of `REVALIDATE`. -/
def TrustReferenceRevalidation.owned (request : TrustReferenceRevalidation) : Json :=
  .obj [("operation", toJson request.operation), ("reference", request.reference.owned),
    ("subject_id", toJson request.subjectId.value)]

end Chiplog.DeploymentTrust

namespace Chiplog.DeploymentTrust

open Chiplog.Data

/-! The worker's snapshot beside the service.

`Reads` relates the fold over the journal to the service that wrote it.  Every decision but
a revocation keeps the two together: the worker looks for `REVOKE`, and the service commits
`REVOKE_CREDENTIAL`. -/

/-! What the folds make of a decision. -/

theorem textAt_ok {value : Json} {key text : String} :
    textAt value key = .ok text ↔ item value key = .ok (.str text) := by
  unfold textAt
  cases item value key with
  | error => simp [bind, Except.bind]
  | ok found => cases found <;> simp [readText]

theorem record_kind (decisionId kind recordType : String) (payload : List (String × Json)) :
    textAt (record decisionId kind recordType payload) "operation_kind" = .ok kind := by
  simp [record]

/-- A record keeps the fields of its payload. -/
theorem item_record {decisionId kind recordType key : String} {payload : List (String × Json)}
    (other : key ∉ ["decision_id", "operation_kind", "record_type_id", "schema_id"]) :
    item (record decisionId kind recordType payload) key = item (.obj payload) key := by
  simp only [List.mem_cons, List.not_mem_nil, or_false, not_or] at other
  simp [record, other]

theorem readCredential_ok {value : Json} {credential : CredentialState}
    (read : readCredential value = .ok credential) :
    isDict value = true ∧
      item value "credential_id" = .ok (.str credential.credentialId) ∧
      item value "head" = .ok (.str credential.head) ∧
      item value "session_id" = .ok (.str credential.sessionId) ∧
      item value "session_head" = .ok (.str credential.sessionHead) ∧
      item value "peer_credential" = .ok (.str credential.peerCredential) ∧
      truthy (itemOr value "revoked" .null) = credential.revoked := by
  obtain ⟨credentialId, first, read⟩ := bind_ok.mp read
  obtain ⟨head, second, read⟩ := bind_ok.mp read
  obtain ⟨sessionId, third, read⟩ := bind_ok.mp read
  obtain ⟨sessionHead, fourth, read⟩ := bind_ok.mp read
  obtain ⟨peerCredential, fifth, read⟩ := bind_ok.mp read
  obtain ⟨revoked, sixth, read⟩ := bind_ok.mp read
  cases read
  refine ⟨?_, textAt_ok.mp first, textAt_ok.mp second, textAt_ok.mp third, textAt_ok.mp fourth,
    textAt_ok.mp fifth, ?_⟩
  · cases value with
    | obj => rfl
    | _ => cases first
  · cases value with
    | obj fields =>
        unfold itemOr at sixth ⊢
        dsimp only at sixth ⊢
        cases found : fields.lookup "revoked" with
        | none =>
            rw [found] at sixth
            cases sixth
            rfl
        | some flag =>
            rw [found] at sixth
            cases flag with
            | bool value =>
                cases sixth
                rfl
            | _ => cases sixth
    | _ => cases first

theorem itemOr_record {decisionId kind recordType key : String} {payload : List (String × Json)}
    {default : Json}
    (other : key ∉ ["decision_id", "operation_kind", "record_type_id", "schema_id"]) :
    itemOr (record decisionId kind recordType payload) key default =
      itemOr (.obj payload) key default := by
  simp only [List.mem_cons, List.not_mem_nil, or_false, not_or] at other
  simp [record, other]

/-- A credential under its key, or the payload itself, reads from the payload as well. -/
theorem readCredential_record {decisionId kind recordType : String}
    {payload : List (String × Json)} {credential : CredentialState}
    (read : readCredential (itemOr (record decisionId kind recordType payload) "credential"
      (record decisionId kind recordType payload)) = .ok credential) :
    readCredential (itemOr (.obj payload) "credential" (.obj payload)) = .ok credential := by
  rw [itemOr_record (by decide)] at read
  unfold itemOr at read ⊢
  dsimp only at read ⊢
  cases found : payload.lookup "credential" with
  | some raw =>
      rw [found] at read
      exact read
  | none =>
      rw [found] at read
      have own (key : String)
          (other : key ∉ ["decision_id", "operation_kind", "record_type_id", "schema_id"]) :
          item (record decisionId kind recordType payload) key = item (.obj payload) key :=
        item_record other
      have revoked (default : Json) :
          itemOr (record decisionId kind recordType payload) "revoked" default =
            itemOr (.obj payload) "revoked" default := itemOr_record (by decide)
      simpa only [Option.getD_none, readCredential, textAt, own "credential_id" (by decide),
        own "head" (by decide), own "session_id" (by decide), own "session_head" (by decide),
        own "peer_credential" (by decide), revoked] using read

/-- The kinds that change the principal or the credential. -/
def Kind.credits : Kind → Bool
  | bootstrap | rotateCredential | revokeCredential | emergencyRecovery => true
  | _ => false

theorem rebuildDecision_credits {authority after : Authority} {decision recordType : String}
    {kind : Kind} {payload : List (String × Json)}
    (rebuilt : rebuildDecision authority decision (record decision kind.text recordType payload) =
      .ok after) (other : kind.credits = false) :
    after.principal = authority.principal ∧ after.credential = authority.credential ∧
      after.freshness = authority.freshness := by
  unfold rebuildDecision at rebuilt
  rw [record_kind, ok_bind, Kind.ofText?_text] at rebuilt
  cases kind
  case bootstrap | rotateCredential | revokeCredential | emergencyRecovery => cases other
  all_goals
    dsimp only at rebuilt
    repeat obtain ⟨_, _, rebuilt⟩ := bind_ok.mp rebuilt
    try split at rebuilt
  all_goals
    cases rebuilt
    exact ⟨rfl, rfl, rfl⟩

/-- The phase a decision leaves. -/
def Kind.settledPhase (kind : Kind) (phase : Phase) : Phase :=
  match kind with
  | bootstrap | trustTransitionAborted | trustTransitionAccepted => .active
  | trustTransitionPrepared => .prepared
  | trustTransitionReady => .ready
  | principalContourPrerequisite => .hold
  | _ => phase

/-- No decision goes back to before the bootstrap. -/
theorem settledPhase_required {kind : Kind} {phase : Phase}
    (required : kind.settledPhase phase = .bootstrapRequired) : phase = .bootstrapRequired := by
  cases kind <;> first | exact required | cases required

theorem coreStep_phase {core after : Core} {kind : Kind} {payload : List (String × Json)}
    {predecessor : Option String}
    (stepped : coreStep core (envelope kind.text payload predecessor) = .ok after) :
    after.phase = kind.settledPhase core.phase := by
  have named : textAt (envelope kind.text payload predecessor) "kind" = .ok kind.text := by
    simp [envelope]
  have body : item (envelope kind.text payload predecessor) "payload" = .ok (.obj payload) := by
    simp [envelope]
  unfold coreStep at stepped
  rw [named, ok_bind, body, ok_bind, Kind.ofText?_text] at stepped
  cases kind
  all_goals
    dsimp only at stepped
    repeat obtain ⟨_, _, stepped⟩ := bind_ok.mp stepped
    cases stepped
    rfl

/-- The worker's credential beside the service's. -/
def Credits (value : Json) : Option CredentialState → Prop
  | none => value = .null
  | some credential => readCredential value = .ok credential

/-- A snapshot that says of the service what the service says of itself. -/
structure Reads (snapshot : Snapshot) (service : Service) : Prop where
  phase : snapshot.phase = service.state.map CurrentDatabaseState.phase
  state : ∀ state, service.state = some state → snapshot.tenantId = .str state.tenantId ∧
    snapshot.trustHead = state.trustHead ∧
    snapshot.materializationHead = state.materializationHead
  principal : snapshot.principalId = service.principal.elim .null .str
  named : service.principal ≠ some ""
  credential : Credits snapshot.credential service.credential
  freshness : snapshot.freshness = service.freshness
  grounded : service.Grounded
  /-- Nothing was counted before the bootstrap. -/
  uncounted : service.state.map CurrentDatabaseState.phase = some .bootstrapRequired →
    service.freshness = 0

theorem reads_new (configuration : Configuration) :
    Reads .initial (Service.new configuration) := by
  constructor
  case state => intro state unset; cases unset
  case named => nofun
  case grounded => exact fun _ => rfl
  case uncounted => nofun
  all_goals rfl

section

variable [Hashlib]

theorem snapshotStep_decision (snapshot : Snapshot) (journal : List Entry) (kind : Kind)
    (payload : List (String × Json)) :
    snapshotStep snapshot (decisionEntry journal kind payload) =
      foldDecision
        { snapshot with materializationHead := (decisionEntry journal kind payload).id }
        kind.text (.obj payload) := by
  have body : (decisionEntry journal kind payload).body =
      envelope kind.text payload (HashChain.head journal) := rfl
  simp [snapshotStep, body, envelope]

omit [Hashlib] in
/-- No kind of this aggregate is the `REVOKE` the worker looks for. -/
theorem text_ne_revoke (kind : Kind) : kind.text ≠ "REVOKE" := by
  cases kind <;> decide

theorem foldDecision_other (snapshot : Snapshot) (kind : Kind) (payload : Json) :
    foldDecision snapshot kind.text payload = foldKind snapshot (some kind) payload := by
  unfold foldDecision
  rw [if_neg (fun both => text_ne_revoke kind both.1), Kind.ofText?_text]

/-- The kinds that only move the phase. -/
theorem foldDecision_quiet {snapshot : Snapshot} {phase : Phase} {kind : Kind} {payload : Json}
    (current : snapshot.phase = some phase) (kept : kind.credits = false)
    (bound : kind.rebinds = false) :
    foldDecision snapshot kind.text payload =
      .ok { snapshot with phase := some (kind.settledPhase phase) } := by
  rw [foldDecision_other]
  cases kind
  case bootstrap | rotateCredential | revokeCredential | emergencyRecovery => cases kept
  case initialization | trustTransitionAccepted | operatorBindingKeyRotation |
    journalRootRotation => cases bound
  all_goals simp [foldKind, Kind.settledPhase, ← current]

variable {snapshot : Snapshot} {service after : Service} {journal : List Entry} {kind : Kind}
  {payload : List (String × Json)}

omit [Hashlib] in
/-- The phase of the service that settled a decision. -/
theorem Settles.phase {decision : String}
    (settles : Settles service kind payload decision after) (grounded : service.Grounded) :
    ∃ state, after.state = some state ∧ state.materializationHead = decision ∧
      state.phase = kind.settledPhase (coreOf service).phase := by
  obtain ⟨state, known⟩ := Option.ne_none_iff_exists'.mp (settles.live grounded)
  have stepped := coreStep_phase (settles.reconstructed grounded none)
  refine ⟨state, known, settles.head state known, ?_⟩
  rw [← stepped]
  simp [coreOf, known]

omit [Hashlib] in
/-- The state after a decision that keeps the binding. -/
theorem Reads.settled (reads : Reads snapshot service) {decision : String}
    (settles : Settles service kind payload decision after) (bound : kind.rebinds = false) :
    ∃ before state, service.state = some before ∧ after.state = some state ∧
      snapshot.phase = some before.phase ∧ state.phase = kind.settledPhase before.phase ∧
      snapshot.tenantId = .str state.tenantId ∧ snapshot.trustHead = state.trustHead ∧
      state.materializationHead = decision := by
  obtain ⟨state, known, head, phase⟩ := settles.phase reads.grounded
  have identity := settles.identity bound
  simp only [identityOf, known, Option.map_some, Prod.mk.injEq] at identity
  obtain ⟨before, was, named⟩ := Option.map_eq_some_iff.mp identity.2.2.2.2.symm
  simp only [Prod.mk.injEq] at named
  have current : snapshot.phase = some before.phase := by
    rw [reads.phase, was, Option.map_some]
  have core : (coreOf service).phase = before.phase := by simp [coreOf, was]
  obtain ⟨tenant, trust, _⟩ := reads.state before was
  exact ⟨before, state, was, known, current, core ▸ phase, named.1 ▸ tenant,
    named.2.2 ▸ trust, head⟩

theorem Reads.quiet (reads : Reads snapshot service)
    (settles : Settles service kind payload (decisionEntry journal kind payload).id after)
    (kept : kind.credits = false) (bound : kind.rebinds = false) :
    ∃ next, snapshotStep snapshot (decisionEntry journal kind payload) = .ok next ∧
      Reads next after := by
  obtain ⟨before, state, was, known, current, phase, tenant, trust, head⟩ :=
    reads.settled settles bound
  obtain ⟨principal, credential, freshness⟩ :=
    rebuildDecision_credits (settles.rebuilt "") kept
  refine ⟨_, (snapshotStep_decision _ _ _ _).trans (foldDecision_quiet current kept bound), ?_⟩
  constructor
  case phase => rw [known, Option.map_some, phase]
  case state =>
    intro other isOther
    cases known.symm.trans isOther
    exact ⟨tenant, trust, head.symm⟩
  case principal => rw [principal]; exact reads.principal
  case named => rw [principal]; exact reads.named
  case credential => rw [credential]; exact reads.credential
  case freshness => rw [freshness]; exact reads.freshness
  case grounded => intro unset; cases known.symm.trans unset
  case uncounted =>
    intro required
    rw [known, Option.map_some, Option.some.injEq, phase] at required
    rw [freshness]
    apply reads.uncounted
    rw [was, Option.map_some, settledPhase_required required]

theorem Reads.bootstrapped (reads : Reads snapshot service)
    (settles : Settles service .bootstrap payload (decisionEntry journal .bootstrap payload).id
      after)
    (available : service.state.map CurrentDatabaseState.phase = some .bootstrapRequired)
    (named : after.principal ≠ some "") :
    ∃ next, snapshotStep snapshot (decisionEntry journal .bootstrap payload) = .ok next ∧
      Reads next after := by
  obtain ⟨before, state, was, known, current, phase, tenant, trust, head⟩ :=
    reads.settled settles rfl
  have rebuilt := settles.rebuilt ""
  unfold rebuildDecision at rebuilt
  rw [record_kind, ok_bind, Kind.ofText?_text] at rebuilt
  obtain ⟨principal, isPrincipal, rebuilt⟩ := bind_ok.mp rebuilt
  obtain ⟨credential, found, rebuilt⟩ := bind_ok.mp rebuilt
  obtain ⟨fingerprint, _, rebuilt⟩ := bind_ok.mp rebuilt
  obtain ⟨raw, isRaw, read⟩ := bind_ok.mp found
  rw [textAt_ok, item_record (by decide)] at isPrincipal
  rw [item_record (by decide)] at isRaw
  have authority := (Except.ok.inj rebuilt).symm
  have settledPrincipal := congrArg Authority.principal authority
  have settledCredential := congrArg Authority.credential authority
  have settledFreshness := congrArg Authority.freshness authority
  have folded : snapshotStep snapshot (decisionEntry journal .bootstrap payload) =
      .ok { snapshot with
        materializationHead := (decisionEntry journal .bootstrap payload).id
        principalId := .str principal
        credential := raw
        freshness := 1
        phase := some .active } := by
    rw [snapshotStep_decision, foldDecision_other]
    unfold foldKind
    rw [isPrincipal, ok_bind, isRaw]
    rfl
  refine ⟨_, folded, ?_⟩
  constructor
  case phase => rw [known, Option.map_some, phase]; rfl
  case state =>
    intro other isOther
    cases known.symm.trans isOther
    exact ⟨tenant, trust, head.symm⟩
  case principal => rw [settledPrincipal]; rfl
  case named => exact named
  case credential => rw [settledCredential]; exact read
  case freshness => rw [settledFreshness, reads.uncounted available]
  case grounded => intro unset; cases known.symm.trans unset
  case uncounted =>
    intro required
    rw [known, Option.map_some, phase] at required
    cases required

/-- A rotation or a recovery, which both name the successor of the credential. -/
theorem Reads.renewed (reads : Reads snapshot service)
    (settles : Settles service kind payload (decisionEntry journal kind payload).id after)
    (renews : kind = .rotateCredential ∨ kind = .emergencyRecovery)
    (active : service.state.map CurrentDatabaseState.phase = some .active) :
    ∃ next, snapshotStep snapshot (decisionEntry journal kind payload) = .ok next ∧
      Reads next after := by
  have bound : kind.rebinds = false := by rcases renews with rfl | rfl <;> rfl
  have unmoved (phase : Phase) : kind.settledPhase phase = phase := by
    rcases renews with rfl | rfl <;> rfl
  obtain ⟨before, state, was, known, current, phase, tenant, trust, head⟩ :=
    reads.settled settles bound
  rw [was, Option.map_some, Option.some.injEq] at active
  rw [unmoved, active] at phase
  have rebuilt : (do
      let credential ← readCredential
        (itemOr (record (decisionEntry journal kind payload).id kind.text "" payload) "credential"
          (record (decisionEntry journal kind payload).id kind.text "" payload))
      Except.ok { service.toAuthority with
        credential := some credential, freshness := service.freshness + 1 }) =
      .ok after.toAuthority := by
    have rebuilt := settles.rebuilt ""
    unfold rebuildDecision at rebuilt
    rw [record_kind, ok_bind, Kind.ofText?_text] at rebuilt
    rcases renews with rfl | rfl <;> exact rebuilt
  obtain ⟨credential, read, rebuilt⟩ := bind_ok.mp rebuilt
  have authority := (Except.ok.inj rebuilt).symm
  have settledPrincipal := congrArg Authority.principal authority
  have settledCredential := congrArg Authority.credential authority
  have settledFreshness := congrArg Authority.freshness authority
  have folded : snapshotStep snapshot (decisionEntry journal kind payload) =
      .ok { snapshot with
        materializationHead := (decisionEntry journal kind payload).id
        credential := itemOr (.obj payload) "credential" (.obj payload)
        freshness := snapshot.freshness + 1
        phase := some .active } := by
    rw [snapshotStep_decision, foldDecision_other]
    rcases renews with rfl | rfl <;> rfl
  refine ⟨_, folded, ?_⟩
  constructor
  case phase => rw [known, Option.map_some, phase]
  case state =>
    intro other isOther
    cases known.symm.trans isOther
    exact ⟨tenant, trust, head.symm⟩
  case principal => rw [settledPrincipal]; exact reads.principal
  case named => rw [settledPrincipal]; exact reads.named
  case credential => rw [settledCredential]; exact readCredential_record read
  case freshness => rw [settledFreshness, ← reads.freshness]
  case grounded => intro unset; cases known.symm.trans unset
  case uncounted =>
    intro required
    rw [known, Option.map_some, phase] at required
    cases required

/-- Where a decision that replaces the binding writes the new one. -/
def Kind.writtenBinding (kind : Kind) (payload : List (String × Json)) : Except TrustError Json :=
  match kind with
  | operatorBindingKeyRotation | journalRootRotation => .ok (.obj payload)
  | _ => item (.obj payload) "binding"

/-- A decision that replaces the binding, beside the service that settled it. -/
structure Rebinds (service : Service) (kind : Kind) (payload : List (String × Json))
    (after : Service) (binding : DeploymentTenantBinding) (state : CurrentDatabaseState) :
    Prop where
  written : kind.writtenBinding payload = .ok (toJson binding)
  live : after.state = some state
  trust : state.trustHead = bindingHead binding
  fresh : kind = .initialization → service.state = none ∧ state.tenantId = binding.tenantId
  tenant : kind ≠ .initialization → ∃ before, service.state = some before ∧
    before.tenantId = state.tenantId

theorem Reads.rebound {binding : DeploymentTenantBinding} {state : CurrentDatabaseState}
    (reads : Reads snapshot service)
    (settles : Settles service kind payload (decisionEntry journal kind payload).id after)
    (bound : kind.rebinds = true) (rebinds : Rebinds service kind payload after binding state) :
    ∃ next, snapshotStep snapshot (decisionEntry journal kind payload) = .ok next ∧
      Reads next after := by
  have kept : kind.credits = false := by cases kind <;> first | rfl | cases bound
  obtain ⟨principal, credential, freshness⟩ :=
    rebuildDecision_credits (settles.rebuilt "") kept
  obtain ⟨other, known, head, phase⟩ := settles.phase reads.grounded
  cases rebinds.live.symm.trans known
  have folded : ∃ next, snapshotStep snapshot (decisionEntry journal kind payload) = .ok next ∧
      next = { snapshot with
        materializationHead := state.materializationHead
        phase := some state.phase
        tenantId := .str state.tenantId
        trustHead := state.trustHead } := by
    rw [snapshotStep_decision, foldDecision_other]
    by_cases first : kind = .initialization
    · subst first
      obtain ⟨unset, tenant⟩ := rebinds.fresh rfl
      have written : item (.obj payload) "binding" = .ok (toJson binding) := rebinds.written
      have required : state.phase = .bootstrapRequired := by
        rw [phase]
        simp [Kind.settledPhase, coreOf, unset]
      unfold foldKind
      rw [written]
      refine ⟨_, rfl, ?_⟩
      rw [head, required, tenant, rebinds.trust]
      rfl
    · obtain ⟨before, was, tenant⟩ := rebinds.tenant first
      obtain ⟨sameTenant, _, _⟩ := reads.state before was
      have current : snapshot.phase = some (coreOf service).phase := by
        rw [reads.phase]
        simp [coreOf, was]
      rw [phase, head, rebinds.trust, ← tenant, ← sameTenant]
      cases kind
      case initialization => exact absurd rfl first
      case trustTransitionAccepted =>
        have written : item (.obj payload) "binding" = .ok (toJson binding) := rebinds.written
        unfold foldKind
        rw [written]
        exact ⟨_, rfl, rfl⟩
      case operatorBindingKeyRotation | journalRootRotation =>
        have written : Json.obj payload = toJson binding := Except.ok.inj rebinds.written
        rw [written]
        refine ⟨_, rfl, ?_⟩
        rw [show snapshot.phase = _ from current]
        rfl
      all_goals cases bound
  obtain ⟨next, folded, rfl⟩ := folded
  refine ⟨_, folded, ?_⟩
  constructor
  case phase => rw [known]; rfl
  case state =>
    intro other isOther
    cases known.symm.trans isOther
    exact ⟨rfl, rfl, rfl⟩
  case principal => rw [principal]; exact reads.principal
  case named => rw [principal]; exact reads.named
  case credential => rw [credential]; exact reads.credential
  case freshness => rw [freshness]; exact reads.freshness
  case grounded => intro unset; cases known.symm.trans unset
  case uncounted =>
    intro required
    rw [known, Option.map_some, Option.some.injEq, phase] at required
    have required := settledPhase_required required
    rw [freshness]
    by_cases first : kind = .initialization
    · rw [reads.grounded (rebinds.fresh first).1]
      rfl
    · obtain ⟨before, was, _⟩ := rebinds.tenant first
      apply reads.uncounted
      simpa [coreOf, was] using required

/-! What the operations add to their settlement. -/

omit [Hashlib] in
theorem bootstrap_required {request : BootstrapRequest}
    {settle : String → Service → Service × String}
    (planned : bootstrap service request = .ok (.decides kind payload settle)) :
    service.bootstrapFingerprint = none ∧
      service.state.map CurrentDatabaseState.phase = some .bootstrapRequired := by
  unfold bootstrap at planned
  split at planned
  · split at planned
    · obtain ⟨_, _, settled⟩ := bind_ok.mp planned
      cases settled
    · cases planned
  · rename_i unrecorded
    obtain ⟨_, available, _⟩ := bind_ok.mp planned
    exact ⟨unrecorded, not_not.mp (raiseIf_ok.mp available)⟩

theorem initializeDatabase_rebinds {tenantId databaseInstanceId : String}
    {settle : String → Service → Service × CurrentDatabaseState}
    (planned : initializeDatabase service tenantId databaseInstanceId =
      .ok (.decides kind payload settle)) (decision : String) :
    ∃ binding state, Rebinds service kind payload
      (settle decision (service.materializedAt decision)).1 binding state := by
  obtain ⟨_, unset, planned⟩ := bind_ok.mp planned
  have unset : service.state = none := by
    simpa using raiseIf_ok.mp unset
  cases planned
  refine ⟨_, _, ?_, rfl, rfl, fun _ => ⟨unset, rfl⟩, fun other => absurd rfl other⟩
  simp [Kind.writtenBinding]

theorem acceptTrustTransition_rebinds {transitionId : String} {newSecret : Option Bytes}
    {settle : String → Service → Service × String}
    (planned : acceptTrustTransition service transitionId newSecret =
      .ok (.decides kind payload settle)) (decision : String) :
    ∃ binding state, Rebinds service kind payload
      (settle decision (service.materializedAt decision)).1 binding state := by
  obtain ⟨pending, _, planned⟩ := bind_ok.mp planned
  obtain ⟨current, _, planned⟩ := bind_ok.mp planned
  obtain ⟨state, asserted, planned⟩ := bind_ok.mp planned
  have known := asserted_ok.mp asserted
  cases planned
  refine ⟨_, { state with
    trustHead := bindingHead _
    materializationHead := decision
    generation := state.generation + 1
    phase := .active }, rfl, ?_, rfl, nofun, fun _ => ⟨state, known, rfl⟩⟩
  simp [Service.materializedAt, Service.replaceState, known]

theorem rotateBindingKey_rebinds {newKeyId : String} {newSecret : Bytes}
    {settle : String → Service → Service × DeploymentTenantBinding}
    (planned : rotateBindingKey service newKeyId newSecret = .ok (.decides kind payload settle))
    (decision : String) :
    ∃ binding state, Rebinds service kind payload
      (settle decision (service.materializedAt decision)).1 binding state := by
  obtain ⟨state, active, planned⟩ := bind_ok.mp planned
  obtain ⟨known, _⟩ := requireActive_ok.mp active
  obtain ⟨current, _, planned⟩ := bind_ok.mp planned
  cases planned
  refine ⟨_, { state with
    trustHead := bindingHead _
    materializationHead := decision
    generation := state.generation + 1 }, rfl, ?_, rfl, nofun, fun _ => ⟨state, known, rfl⟩⟩
  simp [Service.materializedAt, Service.replaceState, known]

theorem rotateJournalRoot_rebinds {newEpoch : Int}
    {settle : String → Service → Service × DeploymentTenantBinding}
    (planned : rotateJournalRoot service newEpoch = .ok (.decides kind payload settle))
    (decision : String) :
    ∃ binding state, Rebinds service kind payload
      (settle decision (service.materializedAt decision)).1 binding state := by
  obtain ⟨state, active, planned⟩ := bind_ok.mp planned
  obtain ⟨known, _⟩ := requireActive_ok.mp active
  obtain ⟨current, _, planned⟩ := bind_ok.mp planned
  obtain ⟨_, _, planned⟩ := bind_ok.mp planned
  cases planned
  refine ⟨_, { state with
    trustHead := bindingHead _
    materializationHead := decision
    generation := state.generation + 1 }, rfl, ?_, rfl, nofun, fun _ => ⟨state, known, rfl⟩⟩
  simp [Service.materializedAt, Service.replaceState, known]

variable [PageReader] {operation : Operation}

theorem Operation.plan_rebinds {settle : String → Service → Service × Unit}
    (planned : operation.plan service journal = .ok (.decides kind payload settle))
    (bound : kind.rebinds = true) (decision : String) :
    ∃ binding state, Rebinds service kind payload
      (settle decision (service.materializedAt decision)).1 binding state := by
  obtain ⟨isKind, _⟩ := Operation.plan_sound planned
  cases operation
  case initializeDatabase | acceptTrustTransition | rotateBindingKey | rotateJournalRoot =>
    obtain ⟨original, isPlan, same⟩ := void_ok planned
    cases original with
    | returned => cases same
    | decides =>
        cases same
        first
        | exact initializeDatabase_rebinds isPlan decision
        | exact acceptTrustTransition_rebinds isPlan decision
        | exact rotateBindingKey_rebinds isPlan decision
        | exact rotateJournalRoot_rebinds isPlan decision
  all_goals
    subst isKind
    cases bound

theorem Operation.plan_renews {settle : String → Service → Service × Unit}
    (planned : operation.plan service journal = .ok (.decides kind payload settle))
    (renews : kind = .rotateCredential ∨ kind = .emergencyRecovery) :
    service.state.map CurrentDatabaseState.phase = some .active := by
  have required {state : CurrentDatabaseState} (active : service.requireActive = .ok state) :
      service.state.map CurrentDatabaseState.phase = some .active := by
    obtain ⟨known, active⟩ := requireActive_ok.mp active
    rw [known, Option.map_some, active]
  obtain ⟨isKind, _⟩ := Operation.plan_sound planned
  cases operation
  case rotateCredential | emergencyRecover =>
    obtain ⟨original, isPlan, _⟩ := void_ok planned
    obtain ⟨state, active, _⟩ := bind_ok.mp isPlan
    exact required active
  all_goals
    subst isKind
    rcases renews with impossible | impossible <;> cases impossible

/-- The calls but a revocation, where the bootstrap that commits names its principal.  A bootstrap
that repeats the recorded token commits nothing and may name anything. -/
def WithoutRevocation (world : World) : Event → Prop
  | .call (.revoke _) => False
  | .call (.bootstrap request) =>
      world.service.bind (·.bootstrapFingerprint) = none → request.principalId ≠ ""
  | .call _ => True
  | _ => False

/-- What one decision keeps. -/
theorem Reads.decided {settle : String → Service → Service × Unit}
    {ports : Ports} (reads : Reads snapshot service)
    (planned : operation.plan service journal = .ok (.decides kind payload settle))
    (allows : WithoutRevocation ⟨some service, ports⟩ (.call operation)) :
    ∃ next, snapshotStep snapshot (decisionEntry journal kind payload) = .ok next ∧
      Reads next (settle (decisionEntry journal kind payload).id
        (service.materializedAt (decisionEntry journal kind payload).id)).1 := by
  obtain ⟨isKind, settles⟩ := Operation.plan_sound planned
  have settles := settles (decisionEntry journal kind payload).id
  by_cases bound : kind.rebinds = true
  · obtain ⟨binding, state, rebinds⟩ := Operation.plan_rebinds planned bound _
    exact reads.rebound settles bound rebinds
  rw [Bool.not_eq_true] at bound
  by_cases renews : kind = .rotateCredential ∨ kind = .emergencyRecovery
  · exact reads.renewed settles renews (Operation.plan_renews planned renews)
  by_cases first : kind = .bootstrap
  · subst first
    cases operation
    case bootstrap request =>
      obtain ⟨original, isPlan, same⟩ := void_ok planned
      cases original with
      | returned => cases same
      | decides =>
          cases same
          obtain ⟨_, _, settled⟩ := bootstrap_decides isPlan
          obtain ⟨unrecorded, required⟩ := bootstrap_required isPlan
          refine reads.bootstrapped settles required ?_
          intro unnamed
          exact allows unrecorded (Option.some.inj ((settled _ _).1.symm.trans unnamed))
    all_goals cases isKind
  · refine reads.quiet settles ?_ bound
    cases operation
    case revoke => exact allows.elim
    all_goals
      subst isKind
      first
      | rfl
      | exact absurd rfl first
      | exact absurd (.inl rfl) renews
      | exact absurd (.inr rfl) renews

/-- The worker reads the journal of a world as its service stands. -/
def World.Read (world : World) : Prop :=
  ∃ service snapshot, world.service = some service ∧
    snapshotOf world.ports.journal = .ok snapshot ∧ Reads snapshot service

theorem Step.read {before after : World} {event : Event} (step : Step before event after)
    (allows : WithoutRevocation before event) (read : before.Read) : after.Read := by
  cases step with
  | @call service after before ports operation outcome planned performed =>
      obtain ⟨service, snapshot, live, folded, reads⟩ := read
      cases live
      cases outcome with
      | returned =>
          cases performed
          exact ⟨service, snapshot, rfl, folded, reads⟩
      | decides kind payload settle =>
          obtain ⟨_, decided, performed⟩ := bind_ok.mp performed
          rw [decide_eq] at decided
          cases decided
          cases performed
          obtain ⟨next, stepped, reads⟩ := reads.decided planned allows
          refine ⟨_, next, rfl, ?_, reads⟩
          rw [materialize_journal]
          exact (List.foldlM_append ..).trans (bind_ok.mpr ⟨snapshot, folded, by simp [stepped]⟩)
  | _ => exact allows.elim

theorem Run.read {configuration : Configuration} {world : World}
    (run : Run WithoutRevocation (.initial configuration) world) : world.Read := by
  induction run with
  | start => exact ⟨_, _, rfl, rfl, reads_new configuration⟩
  | step _ allows step ih => exact step.read allows ih

end

end Chiplog.DeploymentTrust
