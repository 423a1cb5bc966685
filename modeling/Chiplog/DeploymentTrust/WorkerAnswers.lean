import Chiplog.Data.JsonReading
import Chiplog.DeploymentTrust.WorkerAgreement

namespace Chiplog.DeploymentTrust

open Chiplog.Data

/-! The two evaluators on the local contour.

`Service.Stands` says what the local contour has to find, and which reference it brings.
The service answers with it by its fields, the worker by the snapshot that reads the
service. -/

/-- The reference of the local contour, for whoever presents the current credential. -/
def Service.Stands (service : Service) (credentialId sessionId peerCredential : String)
    (reference : TrustReference) : Prop :=
  ∃ state principal credential, service.state = some state ∧ state.phase = .active ∧
    service.principal = some principal ∧ service.credential = some credential ∧
    (credential.revoked = false ∧ credentialId = credential.credentialId ∧
      sessionId = credential.sessionId ∧ peerCredential = credential.peerCredential) ∧
    reference = ⟨state.tenantId, principal, "CLI", credential.head, credential.sessionHead,
      "local", state.trustHead, state.materializationHead, service.freshness,
      credential.peerCredential⟩

section

variable [Hashlib] {service : Service} {request : AuthenticationRequest}

theorem refer_local {reference : TrustReference} (contour : request.contour = "CLI") :
    service.refer request = .ok reference ↔
      service.Stands request.credentialId request.sessionId request.peerCredential reference := by
  constructor
  · intro referred
    obtain ⟨state, principal, credential, known, active, bound, held, sourceHead, sourced, rfl⟩ :=
      refer_ok referred
    have isLocal : sourceHead = "local" := by
      simp [Service.sourceHead, contour] at sourced
      exact sourced.symm
    refine ⟨state, principal, credential, known, active, bound, held, ?_, by rw [contour, isLocal]⟩
    unfold Service.refer at referred
    rw [known] at referred
    obtain ⟨_, _, referred⟩ := bind_ok.mp referred
    obtain ⟨_, _, referred⟩ := bind_ok.mp referred
    rw [bound, held] at referred
    obtain ⟨_, checked, _⟩ := bind_ok.mp referred
    obtain ⟨_, first, checked⟩ := bind_ok.mp checked
    obtain ⟨_, second, third⟩ := bind_ok.mp checked
    have first := raiseIf_ok.mp first
    rw [not_or, Bool.not_eq_true, not_not] at first
    exact ⟨first.1, first.2, not_not.mp (raiseIf_ok.mp second), not_not.mp (raiseIf_ok.mp third)⟩
  · intro stands
    obtain ⟨state, principal, credential, known, active, bound, held, current, rfl⟩ := stands
    obtain ⟨unrevoked, credentialId, sessionId, peerCredential⟩ := current
    simp [Service.refer, Service.sourceHead, credentialCheck, known, active, bound, held, contour,
      unrevoked, credentialId, sessionId, peerCredential]

theorem authenticate_stands {reference : TrustReference} (contour : request.contour = "CLI")
    (stands : service.Stands request.credentialId request.sessionId request.peerCredential
      reference) :
    service.authenticate request = ⟨.valid, some reference, none⟩ := by
  unfold Service.authenticate
  rw [(refer_local contour).mpr stands]

theorem authenticate_valid (contour : request.contour = "CLI")
    (valid : (service.authenticate request).disposition = .valid) :
    ∃ reference, service.Stands request.credentialId request.sessionId request.peerCredential
      reference := by
  unfold Service.authenticate at valid
  cases referred : service.refer request with
  | ok reference => exact ⟨reference, (refer_local contour).mp referred⟩
  | error decision =>
      rw [referred] at valid
      exact absurd valid (refer_error referred)

/-- A revalidation presents the credential as it stands, so only its revocation matters. -/
theorem revalidate_local {request : TrustReferenceRevalidation}
    (contour : request.reference.contour = "CLI")
    (operation : request.operation = "CREATE_INTENTION_LINE")
    (own : request.subjectId.tenantId = request.reference.tenantId)
    (named : request.subjectId.value ≠ "") :
    (service.revalidate request).disposition = .valid ↔
      ∃ credential, service.credential = some credential ∧
        service.Stands credential.credentialId credential.sessionId credential.peerCredential
          request.reference := by
  constructor
  · intro valid
    have stands := (refer_local contour).mp (revalidate_valid valid)
    obtain ⟨_, _, credential, _, _, _, held, _⟩ := id stands
    simp only [Service.requestFor, held] at stands
    exact ⟨credential, held, stands⟩
  · intro stands
    obtain ⟨credential, held, stands⟩ := stands
    have answered : service.authenticate (service.requestFor request.reference) =
        ⟨.valid, some request.reference, none⟩ := by
      apply authenticate_stands contour
      simpa only [Service.requestFor, held, Option.map_some, Option.getD_some] using stands
    simp [Service.revalidate, operation, own, named, answered]

omit [Hashlib] in
theorem Service.Stands.unique {credentialId sessionId peerCredential : String}
    {first second : TrustReference}
    (stands : service.Stands credentialId sessionId peerCredential first)
    (others : service.Stands credentialId sessionId peerCredential second) : first = second := by
  obtain ⟨state, principal, credential, known, _, bound, held, _, rfl⟩ := stands
  obtain ⟨state', principal', credential', known', _, bound', held', _, rfl⟩ := others
  cases known.symm.trans known'
  cases bound.symm.trans bound'
  cases held.symm.trans held'
  rfl

/-! What the worker makes of a snapshot that reads the service. -/

omit [Hashlib] in
theorem same_str {first second : String} : Json.Same (.str first) (.str second) ↔ first = second := by
  rw [Json.same_iff]
  simp [Json.sorted]

omit [Hashlib] in
/-- The references of two equal dictionaries are equal. -/
theorem owned_inj {first second : TrustReference} (same : Json.Same first.owned second.owned) :
    first = second := by
  have fields := Json.sorted_obj_inj
    ["contour", "credential_head", "freshness_sequence", "materialization_head", "peer_credential",
      "principal_id", "session_head", "source_head", "tenant_id", "trust_head"]
    rfl rfl (by decide) (Json.same_iff.mp same)
  cases first
  cases second
  simp [toJson, Json.sorted] at fields
  simp [fields]

omit [Hashlib] in
theorem staleField_reads {value authentication : Json} {credential : CredentialState}
    {credentialId sessionId peerCredential : String}
    (read : readCredential value = .ok credential)
    (first : item authentication "credential_id" = .ok (.str credentialId))
    (second : item authentication "session_id" = .ok (.str sessionId))
    (third : item authentication "peer_credential" = .ok (.str peerCredential)) :
    ∃ stale, staleField value authentication ["credential_id", "session_id", "peer_credential"] =
        .ok stale ∧
      (stale = none ↔ credential.revoked = false ∧ credentialId = credential.credentialId ∧
        sessionId = credential.sessionId ∧ peerCredential = credential.peerCredential) := by
  obtain ⟨_, isId, _, isSession, _, isPeer, isRevoked⟩ := readCredential_ok read
  simp only [staleField, isRevoked, first, second, third, isId, isSession, isPeer, ok_bind,
    same_str]
  by_cases revoked : credential.revoked = true
  · simp [revoked]
  by_cases firstSame : credentialId = credential.credentialId
  · by_cases secondSame : sessionId = credential.sessionId
    · by_cases thirdSame : peerCredential = credential.peerCredential <;>
        simp [revoked, firstSame, secondSame, thirdSame]
    · simp [revoked, firstSame, secondSame]
  · simp [revoked, firstSame]

variable {snapshot : Snapshot}

omit [Hashlib] in
/-- The reference of the snapshot, for whoever presents the current credential. -/
theorem Reads.refer (authentication : Json) {credentialId sessionId peerCredential : String}
    {state : CurrentDatabaseState} {principal : String} {credential : CredentialState}
    (reads : Reads snapshot service) (known : service.state = some state)
    (active : state.phase = .active) (bound : service.principal = some principal)
    (held : service.credential = some credential)
    (first : item authentication "credential_id" = .ok (.str credentialId))
    (second : item authentication "session_id" = .ok (.str sessionId))
    (third : item authentication "peer_credential" = .ok (.str peerCredential))
    (contour : item authentication "contour" = .ok (.str "CLI")) :
    ∃ answered, snapshot.refer authentication = .ok answered ∧
      ((∃ result, answered = .error result ∧ result.disposition ≠ .valid ∧
          ∀ reference, ¬ service.Stands credentialId sessionId peerCredential reference) ∨
        ∃ reference : TrustReference, answered = .ok reference.owned ∧
          service.Stands credentialId sessionId peerCredential reference) := by
  have read : readCredential snapshot.credential = .ok credential := by
    have credits := reads.credential
    rwa [held] at credits
  obtain ⟨_, _, isHead, _, isSession, isPeer, _⟩ := readCredential_ok read
  obtain ⟨tenant, trust, materialized⟩ := reads.state state known
  have principalId := reads.principal
  rw [bound] at principalId
  obtain ⟨stale, checked, current⟩ := staleField_reads read first second third
  unfold Snapshot.refer
  dsimp only
  rw [checked, ok_bind]
  cases stale with
  | some field =>
      refine ⟨_, rfl, .inl ⟨_, rfl, nofun, ?_⟩⟩
      intro reference stands
      obtain ⟨_, _, other, _, _, _, held', same, _⟩ := stands
      cases held.symm.trans held'
      cases current.mpr same
  | none =>
      dsimp only
      rw [contour, ok_bind, if_neg (by rw [same_str]; exact not_not.mpr rfl), isHead, ok_bind,
        isPeer, ok_bind, isSession, ok_bind, tenant, trust, materialized, principalId,
        reads.freshness]
      exact ⟨_, rfl, .inr ⟨_, rfl, state, principal, credential, known, active, bound, held,
        current.mp rfl, rfl⟩⟩

omit [Hashlib] in
/-- The worker turns a request away before it reads it, or there is a contour to ask. -/
theorem Reads.contour (reads : Reads snapshot service) :
    (∃ result : OwnerResult, (∀ mode request, evaluate mode snapshot request = .ok result) ∧
      result.disposition ≠ .valid ∧
      ∀ credentialId sessionId peerCredential reference,
        ¬ service.Stands credentialId sessionId peerCredential reference) ∨
    ∃ state principal credential, service.state = some state ∧ state.phase = .active ∧
      service.principal = some principal ∧ service.credential = some credential ∧
      snapshot.phase = some .active ∧ truthy snapshot.principalId = true ∧
      isDict snapshot.credential = true := by
  by_cases stands : ∃ state principal credential, service.state = some state ∧
      state.phase = .active ∧ service.principal = some principal ∧
      service.credential = some credential
  · obtain ⟨state, principal, credential, known, active, bound, held⟩ := stands
    refine .inr ⟨state, principal, credential, known, active, bound, held, ?_, ?_, ?_⟩
    · rw [reads.phase, known, Option.map_some, active]
    · have named := reads.named
      rw [bound] at named
      rw [reads.principal, bound]
      exact decide_eq_true (fun unnamed => named (congrArg some unnamed))
    · have credits := reads.credential
      rw [held] at credits
      exact (readCredential_ok credits).1
  · left
    have silent (credentialId sessionId peerCredential : String) (reference : TrustReference) :
        ¬ service.Stands credentialId sessionId peerCredential reference := by
      intro found
      obtain ⟨state, principal, credential, known, active, bound, held, _⟩ := found
      exact stands ⟨state, principal, credential, known, active, bound, held⟩
    have closed : snapshot.phase ≠ some .active ∨ truthy snapshot.principalId = false ∨
        isDict snapshot.credential = false := by
      by_contra opened
      simp only [not_or, not_not, Bool.not_eq_false] at opened
      obtain ⟨isActive, isPrincipal, isCredential⟩ := opened
      rw [reads.phase] at isActive
      obtain ⟨state, known, active⟩ := Option.map_eq_some_iff.mp isActive
      rw [reads.principal] at isPrincipal
      have credits := reads.credential
      cases bound : service.principal with
      | none =>
          rw [bound] at isPrincipal
          cases isPrincipal
      | some principal =>
          cases held : service.credential with
          | none =>
              rw [held] at credits
              rw [show snapshot.credential = .null from credits] at isCredential
              cases isCredential
          | some credential => exact stands ⟨state, principal, credential, known, active, bound, held⟩
    by_cases hold : snapshot.phase = some .hold
    · refine ⟨refusal .indeterminate "future contour prerequisite hold", ?_, nofun, silent⟩
      intro mode request
      unfold evaluate
      rw [if_pos hold]
    · refine ⟨refusal .denied "single-principal contour inactive", ?_, nofun, silent⟩
      intro mode request
      unfold evaluate
      rw [if_neg hold, if_pos closed]

omit [Hashlib] in
/-- On a contour that stands, the worker reads the request. -/
theorem evaluate_open {mode : OwnerMode} {request : Json} (phase : snapshot.phase = some .active)
    (principal : truthy snapshot.principalId = true)
    (credential : isDict snapshot.credential = true) :
    evaluate mode snapshot request = snapshot.answer mode request := by
  unfold evaluate
  rw [if_neg (by rw [phase]; nofun), if_neg (by simp [phase, principal, credential])]

omit [Hashlib] in
theorem Reads.authenticates {request : AuthenticationRequest} (reads : Reads snapshot service)
    (contour : request.contour = "CLI") :
    ∃ answer, evaluate .authenticate snapshot request.owned = .ok answer ∧
      ((answer.disposition ≠ .valid ∧ ∀ reference, ¬ service.Stands request.credentialId
          request.sessionId request.peerCredential reference) ∨
        ∃ reference : TrustReference,
          answer = ⟨.valid, some reference.owned.encodeAscii, none⟩ ∧
          service.Stands request.credentialId request.sessionId request.peerCredential
            reference) := by
  rcases reads.contour with ⟨result, evaluated, invalid, silent⟩ |
    ⟨state, principal, credential, known, active, bound, held, phase, isPrincipal, isDict⟩
  · exact ⟨result, evaluated _ _, .inl ⟨invalid, silent _ _ _⟩⟩
  · have isLocal : item request.owned "contour" = .ok (.str "CLI") := by
      rw [← contour]
      rfl
    obtain ⟨answered, referred, outcome⟩ := reads.refer request.owned known active bound held
      rfl rfl rfl isLocal
    rw [evaluate_open phase isPrincipal isDict]
    unfold Snapshot.answer
    dsimp only
    rw [referred, ok_bind]
    rcases outcome with ⟨result, rfl, invalid, silent⟩ | ⟨reference, rfl, stands⟩
    · exact ⟨result, rfl, .inl ⟨invalid, silent⟩⟩
    · exact ⟨_, rfl, .inr ⟨reference, rfl, stands⟩⟩

omit [Hashlib] in
theorem Reads.revalidates {request : TrustReferenceRevalidation} (reads : Reads snapshot service)
    (contour : request.reference.contour = "CLI")
    (operation : request.operation = "CREATE_INTENTION_LINE") :
    ∃ answer, evaluate .revalidate snapshot request.owned = .ok answer ∧
      (answer.disposition = .valid ↔ ∃ credential, service.credential = some credential ∧
        service.Stands credential.credentialId credential.sessionId credential.peerCredential
          request.reference) := by
  rcases reads.contour with ⟨result, evaluated, invalid, silent⟩ |
    ⟨state, principal, credential, known, active, bound, held, phase, isPrincipal, isDict⟩
  · refine ⟨result, evaluated _ _, iff_of_false invalid ?_⟩
    intro stands
    obtain ⟨_, _, stands⟩ := stands
    exact silent _ _ _ _ stands
  · have read : readCredential snapshot.credential = .ok credential := by
      have credits := reads.credential
      rwa [held] at credits
    obtain ⟨_, isId, _, isSession, _, isPeer, _⟩ := readCredential_ok read
    have named : item request.owned "operation" = .ok (.str "CREATE_INTENTION_LINE") := by
      rw [← operation]
      rfl
    have isLocal : item request.reference.owned "contour" = .ok (.str "CLI") := by
      rw [← contour]
      rfl
    have asked : snapshot.authenticationFor request.reference.owned =
        .ok (.obj [("contour", .str "CLI"), ("credential_id", .str credential.credentialId),
          ("peer_credential", .str credential.peerCredential),
          ("session_id", .str credential.sessionId)]) := by
      unfold Snapshot.authenticationFor
      rw [isLocal, isId, isPeer, isSession]
      rfl
    obtain ⟨answered, referred, outcome⟩ := reads.refer
      (.obj [("contour", .str "CLI"), ("credential_id", .str credential.credentialId),
        ("peer_credential", .str credential.peerCredential),
        ("session_id", .str credential.sessionId)]) known active bound held rfl rfl rfl rfl
    have reference : item request.owned "reference" = .ok request.reference.owned := rfl
    rw [evaluate_open phase isPrincipal isDict]
    unfold Snapshot.answer
    dsimp only
    rw [named, ok_bind, if_neg (not_not.mpr (Json.Same.refl _)), reference, ok_bind, asked, ok_bind,
      referred, ok_bind]
    rcases outcome with ⟨result, rfl, invalid, silent⟩ | ⟨current, rfl, stands⟩
    · refine ⟨result, rfl, iff_of_false invalid ?_⟩
      intro stands
      obtain ⟨other, held', stands⟩ := stands
      cases held.symm.trans held'
      exact silent _ stands
    · dsimp only
      by_cases same : request.reference = current
      · subst same
        rw [if_neg (not_not.mpr (Json.Same.refl _))]
        exact ⟨_, rfl, iff_of_true rfl ⟨credential, held, stands⟩⟩
      · rw [if_pos (fun equal => same (owned_inj equal))]
        refine ⟨_, rfl, iff_of_false nofun ?_⟩
        intro others
        obtain ⟨other, held', others⟩ := others
        cases held.symm.trans held'
        exact same (others.unique stands)

variable [PageReader]

/-- Without a revocation the worker and the service accept the same requests and the same
references, and answer with the same reference. -/
theorem evaluators_agree {configuration : Configuration} {service : Service} {ports : Ports}
    (run : Run WithoutRevocation (.initial configuration) ⟨some service, ports⟩) :
    ∃ snapshot, snapshotOf ports.journal = .ok snapshot ∧
      (∀ request : AuthenticationRequest, request.contour = "CLI" →
        ∃ answer, evaluate .authenticate snapshot request.owned = .ok answer ∧
          (answer.disposition = .valid ↔ (service.authenticate request).disposition = .valid) ∧
          (answer.disposition = .valid → ∃ reference : TrustReference,
            (service.authenticate request).reference = some reference ∧
            answer.referenceBytes = some reference.owned.encodeAscii)) ∧
      ∀ request : TrustReferenceRevalidation, request.reference.contour = "CLI" →
        request.operation = "CREATE_INTENTION_LINE" →
        request.subjectId.tenantId = request.reference.tenantId →
        request.subjectId.value ≠ "" →
        ∃ answer, evaluate .revalidate snapshot request.owned = .ok answer ∧
          (answer.disposition = .valid ↔ (service.revalidate request).disposition = .valid) := by
  obtain ⟨other, snapshot, live, folded, reads⟩ := run.read
  cases live
  refine ⟨snapshot, folded, ?_, ?_⟩
  · intro request contour
    obtain ⟨answer, evaluated, outcome⟩ := reads.authenticates contour
    refine ⟨answer, evaluated, ?_⟩
    rcases outcome with ⟨invalid, silent⟩ | ⟨reference, rfl, stands⟩
    · refine ⟨iff_of_false invalid ?_, fun valid => absurd valid invalid⟩
      intro valid
      obtain ⟨reference, stands⟩ := authenticate_valid contour valid
      exact silent reference stands
    · have answered := authenticate_stands contour stands
      rw [answered]
      exact ⟨iff_of_true rfl rfl, fun _ => ⟨reference, rfl, rfl⟩⟩
  · intro request contour operation own named
    obtain ⟨answer, evaluated, accepted⟩ := reads.revalidates contour operation
    exact ⟨answer, evaluated, accepted.trans (revalidate_local contour operation own named).symm⟩

/-- The current credential of a bootstrapped tenant. -/
def presented : AuthenticationRequest where
  contour := "CLI"
  credentialId := "credential-1"
  sessionId := "session-1"
  sourceId := ""
  transportWitnessId := none
  peerCredential := "uid:1000"

/-- Calls of any kind. -/
def anyCall (_ : World) (event : Event) : Prop := ∃ operation, event = .call operation

omit [PageReader] in
/-- The worker passes over a revocation. -/
theorem snapshotStep_revoked (snapshot : Snapshot) (journal : List Entry)
    (payload : List (String × Json)) :
    snapshotStep snapshot (decisionEntry journal .revokeCredential payload) =
      .ok { snapshot with
        materializationHead := (decisionEntry journal .revokeCredential payload).id } := by
  rw [snapshotStep_decision, foldDecision_other]
  rfl

omit [Hashlib] [PageReader] in
theorem Reads.materialized {service : Service} {snapshot : Snapshot}
    (reads : Reads snapshot service) (decision : String) :
    Reads { snapshot with materializationHead := decision } (service.materializedAt decision) := by
  constructor
  case phase => rw [materializedAt_phase]; exact reads.phase
  case state =>
    intro state known
    obtain ⟨before, was, rfl⟩ := Option.map_eq_some_iff.mp known
    obtain ⟨tenant, trust, _⟩ := reads.state before was
    exact ⟨tenant, trust, rfl⟩
  case principal => exact reads.principal
  case named => exact reads.named
  case credential => exact reads.credential
  case freshness => exact reads.freshness
  case grounded =>
    intro unset
    exact reads.grounded (Option.map_eq_none_iff.mp unset)
  case uncounted => rw [materializedAt_phase]; exact reads.uncounted

/-- After a revocation the worker answers as before it, and the service no longer. -/
theorem revoked_accepted : ∃ service ports snapshot answer,
    Run anyCall (.initial trustedTenant) ⟨some service, ports⟩ ∧
      snapshotOf ports.journal = .ok snapshot ∧
      evaluate .authenticate snapshot presented.owned = .ok answer ∧
      answer.disposition = .valid ∧ (service.authenticate presented).disposition = .stale := by
  obtain ⟨service, ports, decision, run, authority, _, _, _, state, _⟩ :=
    exists_bootstrapped WithoutRevocation trustedTenant "tenant-1" "database-1"
      (bootstrapWith "recovery") (fun _ => trivial)
      (fun _ _ => (by decide : "principal-1" ≠ "")) rfl rfl
  have held : service.credential = some (bootstrapWith "recovery").credential :=
    congrArg Authority.credential authority
  have bound : service.principal = some "principal-1" := congrArg Authority.principal authority
  have planned : Operation.plan service ports.journal (.revoke "credential:1") =
      .ok (.decides .revokeCredential [("head", toJson "credential:1")] fun _ service =>
        ({ service with
            credential := some { (bootstrapWith "recovery").credential with revoked := true }
            freshness := service.freshness + 1 }, ())) := by
    simp [Operation.plan, revoke, held, bootstrapWith, BootstrapRequest.credential, Except.map,
      Outcome.void]
  obtain ⟨other, snapshot, live, folded, reads⟩ := run.read
  cases live
  have calls : Run anyCall (.initial trustedTenant) ⟨some service, ports⟩ := by
    refine run.mono ?_
    intro world event allows
    cases event with
    | call operation => exact ⟨operation, rfl⟩
    | _ => exact allows.elim
  obtain ⟨grown, journal, revoked⟩ := calls.decided ⟨_, rfl⟩ planned
  have moved := reads.materialized
    (decisionEntry ports.journal .revokeCredential [("head", toJson "credential:1")]).id
  obtain ⟨answer, evaluated, outcome⟩ :=
    moved.authenticates (show presented.contour = "CLI" from rfl)
  refine ⟨_, grown, _, answer, revoked, ?_, evaluated, ?_, ?_⟩
  · rw [journal]
    exact (List.foldlM_append ..).trans (bind_ok.mpr ⟨snapshot, folded, by
      simp only [List.foldlM_cons, List.foldlM_nil, snapshotStep_revoked]
      rfl⟩)
  · rcases outcome with ⟨_, silent⟩ | ⟨reference, rfl, _⟩
    · exact absurd ⟨_, _, _, congrArg (Option.map _) state, rfl, bound, held,
        ⟨rfl, rfl, rfl, rfl⟩, rfl⟩ (silent _)
    · rfl
  · simp [Service.authenticate, Service.refer, Service.materializedAt, Service.replaceState, state,
      bound, credentialCheck, raiseIf]
    rfl

end

/-- The worker accepts the credential that the service has revoked. -/
theorem worker_accepts_revoked :
    letI := Sha256.hashlib
    letI : PageReader := ⟨fun _ => none⟩
    ∃ service ports snapshot answer,
      Run anyCall (.initial trustedTenant) ⟨some service, ports⟩ ∧
      snapshotOf ports.journal = .ok snapshot ∧
      evaluate .authenticate snapshot presented.owned = .ok answer ∧
      answer.disposition = .valid ∧ (service.authenticate presented).disposition = .stale := by
  let _ := Sha256.hashlib
  let _ : PageReader := ⟨fun _ => none⟩
  exact revoked_accepted

/-- The recorded token once more, with no principal. -/
def repeatedToken [Hashlib] : BootstrapRequest := { bootstrapWith "recovery" with principalId := "" }

/-- A tenant that was bootstrapped and has revoked nothing; the repeated token changes nothing. -/
theorem evaluators_agree_bootstrapped :
    letI := Sha256.hashlib
    letI : PageReader := ⟨fun _ => none⟩
    ∃ service ports snapshot answer,
      Run WithoutRevocation (.initial trustedTenant) ⟨some service, ports⟩ ∧
      Step ⟨some service, ports⟩ (.call (.bootstrap repeatedToken)) ⟨some service, ports⟩ ∧
      WithoutRevocation ⟨some service, ports⟩ (.call (.bootstrap repeatedToken)) ∧
      snapshotOf ports.journal = .ok snapshot ∧
      evaluate .authenticate snapshot presented.owned = .ok answer ∧
      answer.disposition = .valid := by
  let _ := Sha256.hashlib
  let _ : PageReader := ⟨fun _ => none⟩
  obtain ⟨service, ports, decision, run, authority, _, _, _, state, _⟩ :=
    exists_bootstrapped WithoutRevocation trustedTenant "tenant-1" "database-1"
      (bootstrapWith "recovery") (fun _ => trivial)
      (fun _ _ => (by decide : "principal-1" ≠ "")) rfl rfl
  have held : service.credential = some (bootstrapWith "recovery").credential :=
    congrArg Authority.credential authority
  have bound : service.principal = some "principal-1" := congrArg Authority.principal authority
  have recorded : service.bootstrapFingerprint = some "token-1" :=
    congrArg Authority.bootstrapFingerprint authority
  have repeats : Step ⟨some service, ports⟩ (.call (.bootstrap repeatedToken))
      ⟨some service, ports⟩ := by
    have planned : Operation.plan service ports.journal (.bootstrap repeatedToken) =
        .ok (.returned ()) := by
      simp only [Operation.plan, bootstrap, recorded, state]
      rfl
    exact .call planned rfl
  have allows : WithoutRevocation ⟨some service, ports⟩ (.call (.bootstrap repeatedToken)) :=
    fun unrecorded => absurd (recorded.symm.trans unrecorded) (Option.some_ne_none _)
  obtain ⟨snapshot, folded, authenticates, _⟩ := evaluators_agree (run.step allows repeats)
  obtain ⟨answer, evaluated, agrees, _⟩ := authenticates presented rfl
  refine ⟨service, ports, snapshot, answer, run, repeats, allows, folded, evaluated,
    agrees.mpr ?_⟩
  rw [authenticate_stands rfl ⟨_, _, _, state, rfl, bound, held, ⟨rfl, rfl, rfl, rfl⟩, rfl⟩]

end Chiplog.DeploymentTrust
