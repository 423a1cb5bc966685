import Chiplog.DeploymentTrust.History

namespace Chiplog.DeploymentTrust

open Chiplog.Data

/-! Emergency recovery and the verifier that bootstrap recorded.

A tenant bootstraps once, so its journal records one verifier.  The operation compares the
secret with the verifier its caller expects and never reads the recorded one. -/

/-- The verifier a decision records. -/
def verifierOf (entry : Entry) : Option String :=
  (payloadOf .bootstrap entry).bind (fun payload => (textAt payload "recovery_verifier").toOption)

def recordedVerifiers (journal : List Entry) : List String := journal.filterMap verifierOf

theorem recordedVerifiers_snoc (journal : List Entry) (entry : Entry) :
    recordedVerifiers (journal ++ [entry]) =
      recordedVerifiers journal ++ (verifierOf entry).toList := by
  unfold recordedVerifiers
  rw [List.filterMap_append]
  cases known : verifierOf entry with
  | none => simp [known]
  | some verifier => simp [known]

section

variable [Hashlib]

theorem verifierOf_other {journal : List Entry} {kind : Kind} {payload : List (String × Json)}
    (other : kind ≠ .bootstrap) : verifierOf (decisionEntry journal kind payload) = none := by
  rw [verifierOf, payloadOf_decisionEntry, if_neg other]
  rfl

theorem bootstrap_decides {service : Service} {request : BootstrapRequest} {kind : Kind}
    {payload : List (String × Json)} {settle : String → Service → Service × String}
    (planned : bootstrap service request = .ok (.decides kind payload settle)) :
    service.bootstrapFingerprint = none ∧
      (∀ journal, verifierOf (decisionEntry journal kind payload) =
        some request.recoveryVerifier) ∧
      ∀ decision before, (settle decision before).1.principal = some request.principalId ∧
        (settle decision before).1.bootstrapFingerprint = some request.tokenFingerprint := by
  unfold bootstrap at planned
  split at planned
  · split at planned
    · obtain ⟨_, _, settled⟩ := bind_ok.mp planned
      cases settled
    · cases planned
  · rename_i fresh
    iterate 4 obtain ⟨_, _, planned⟩ := bind_ok.mp planned
    cases planned
    refine ⟨fresh, ?_, fun _ _ => ⟨rfl, rfl⟩⟩
    intro journal
    simp [verifierOf, payloadOf_decisionEntry, BootstrapRequest.payload, Except.toOption]

variable [PageReader]

/-- The verifiers a journal records beside the authority it amounts to. -/
def Bootstrapped (journal : List Entry) (authority : Authority) : Prop :=
  (recordedVerifiers journal = [] ∧ authority.principal = none ∧
      authority.bootstrapFingerprint = none) ∨
    ∃ verifier, recordedVerifiers journal = [verifier] ∧ authority.principal ≠ none ∧
      authority.bootstrapFingerprint ≠ none

theorem Decided.bootstrapped {journal : List Entry} {rows : List Row} {authority : Authority}
    (history : Decided journal rows authority) : Bootstrapped journal authority := by
  induction history with
  | empty => exact .inl ⟨rfl, rfl, rfl⟩
  | @decide journal rows service operation kind payload settle before planned ih =>
      obtain ⟨isKind, settles⟩ := Operation.plan_sound planned
      have leaves := (settles (decisionEntry journal kind payload).id).leaves
      unfold Bootstrapped
      rw [recordedVerifiers_snoc]
      by_cases other : kind = .bootstrap
      · subst other
        cases operation with
        | bootstrap request =>
            obtain ⟨settle, isPlan, rfl⟩ := void_decides planned
            obtain ⟨fresh, verifier, settled⟩ := bootstrap_decides isPlan
            rcases ih with ⟨none, _, _⟩ | ⟨_, _, _, bound⟩
            · refine .inr ⟨request.recoveryVerifier, ?_, ?_, ?_⟩
              · rw [none, verifier]
                rfl
              · exact fun unset => nomatch unset.symm.trans (settled _ _).1
              · exact fun unset => nomatch unset.symm.trans (settled _ _).2
            · exact absurd fresh bound
        | _ => cases isKind
      · rw [verifierOf_other other, Option.toList_none, List.append_nil,
          (leaves.bootstrapped other).1, (leaves.bootstrapped other).2]
        exact ih

/-- What the operation asks before it decides. -/
def Eligible (service : Service) (request : EmergencyRequest) : Prop :=
  ∃ state current, service.state = some state ∧ state.phase = .active ∧
    service.credential = some current ∧ request.peer = request.expectedPeer ∧
    request.peer = current.peerCredential ∧ service.principal ≠ none ∧
    (sha256 (utf8 request.recoverySecret)).text = request.expectedRecoveryVerifier

omit [PageReader] in
theorem emergencyRecover_ok {service : Service} {request : EmergencyRequest} :
    (∃ outcome, emergencyRecover service request = .ok outcome) ↔ Eligible service request := by
  constructor
  · intro returned
    obtain ⟨outcome, planned⟩ := returned
    obtain ⟨state, active, planned⟩ := bind_ok.mp planned
    obtain ⟨known, isActive⟩ := requireActive_ok.mp active
    split at planned
    · cases planned
    · rename_i current isCurrent
      obtain ⟨_, checked, planned⟩ := bind_ok.mp planned
      have checks := raiseIf_ok.mp checked
      simp only [not_or, not_not] at checks
      split at planned
      · cases planned
      · rename_i principal isPrincipal
        refine ⟨state, current, known, isActive, isCurrent, checks.1, checks.2.1, ?_, checks.2.2⟩
        rw [isPrincipal]
        exact Option.some_ne_none principal
  · intro eligible
    obtain ⟨state, current, known, isActive, isCurrent, peer, current', bound, digest⟩ := eligible
    obtain ⟨principal, isPrincipal⟩ := Option.ne_none_iff_exists'.mp bound
    have active := requireActive_ok.mpr ⟨known, isActive⟩
    have checks : ¬ (request.peer ≠ request.expectedPeer ∨
        request.peer ≠ current.peerCredential ∨
        (sha256 (utf8 request.recoverySecret)).text ≠ request.expectedRecoveryVerifier) := by
      simp [← current', ← peer, digest]
    unfold emergencyRecover
    rw [active, ok_bind, isCurrent]
    dsimp only
    rw [raiseIf_neg checks, ok_bind, isPrincipal]
    exact ⟨_, rfl⟩

/-- In every reachable world the operation demands the bootstrap secret exactly when it
refuses anyway or its caller expects the recorded verifier.  A call that gets so far finds
one recorded verifier. -/
theorem recovery_demands_secret_iff {configuration : Configuration} {world : World}
    (run : Run anyEvent (.initial configuration) world) {service : Service}
    (live : world.service = some service) (request : EmergencyRequest) :
    (((∃ outcome, emergencyRecover service request = .ok outcome) →
        recordedVerifiers world.ports.journal =
          [(sha256 (utf8 request.recoverySecret)).text]) ↔
      ¬ Eligible service request ∨
        recordedVerifiers world.ports.journal = [request.expectedRecoveryVerifier]) ∧
    (CollisionFree world.ports.journal → Eligible service request →
      ∃ verifier, recordedVerifiers world.ports.journal = [verifier]) := by
  constructor
  · rw [emergencyRecover_ok]
    constructor
    · intro demands
      by_cases eligible : Eligible service request
      · obtain ⟨_, _, _, _, _, _, _, _, digest⟩ := id eligible
        rw [← digest]
        exact .inr (demands eligible)
      · exact .inl eligible
    · intro condition eligible
      rcases condition with refused | expected
      · exact absurd eligible refused
      · obtain ⟨_, _, _, _, _, _, _, _, digest⟩ := eligible
        rw [digest]
        exact expected
  · intro free eligible
    obtain ⟨_, _, _, _, _, _, _, bound, _⟩ := eligible
    obtain ⟨rows, authority, history, _, agrees⟩ :=
      run.consistent (initial_consistent configuration) free
    have same := congrArg Authority.principal (agrees service live).authority_eq
    rcases history.bootstrapped with ⟨_, unset, _⟩ | ⟨verifier, recorded, _⟩
    · exact absurd (same.trans unset) bound
    · exact ⟨verifier, recorded⟩

/-- A caller that brings a verifier of its own. -/
def recoverWith (recoverySecret : String) : EmergencyRequest where
  peer := "uid:1000"
  expectedPeer := "uid:1000"
  recoverySecret
  expectedRecoveryVerifier := (sha256 (utf8 recoverySecret)).text
  newCredentialId := "credential-2"

/-- Any secret recovers a bootstrapped tenant. -/
theorem recovers_with_any (recorded brought : String) :
    ∃ world service, Run anyEvent (.initial trustedTenant) world ∧
      world.service = some service ∧
      recordedVerifiers world.ports.journal = [(sha256 (utf8 recorded)).text] ∧
      Eligible service (recoverWith brought) := by
  obtain ⟨service, ports, decision, run, authority, _, _, _, state, first, journal⟩ :=
    exists_bootstrapped _ trustedTenant "tenant-1" "database-1" (bootstrapWith recorded)
      (fun world => anyEvent_holds world _) (fun world => anyEvent_holds world _) rfl rfl
  refine ⟨_, service, run, rfl, ?_, ?_⟩
  · rw [journal]
    simp [recordedVerifiers, verifierOf, payloadOf_decisionEntry, BootstrapRequest.payload,
      Except.toOption, bootstrapWith]
  · have credential := congrArg Authority.credential authority
    have principal := congrArg Authority.principal authority
    refine ⟨_, _, state, rfl, credential, rfl, rfl, ?_, rfl⟩
    rw [principal]
    exact Option.some_ne_none _

end

/-- A secret that is not the bootstrap secret recovers the tenant. -/
theorem foreign_secret_recovers :
    letI := Sha256.hashlib
    letI : PageReader := ⟨fun _ => none⟩
    ∃ world service outcome, Run anyEvent (.initial trustedTenant) world ∧
      world.service = some service ∧
      emergencyRecover service (recoverWith "guess") = .ok outcome ∧
      recordedVerifiers world.ports.journal = [(sha256 (utf8 "recovery")).text] ∧
      recordedVerifiers world.ports.journal ≠
        [(sha256 (utf8 (recoverWith "guess").recoverySecret)).text] := by
  let _ := Sha256.hashlib
  let _ : PageReader := ⟨fun _ => none⟩
  obtain ⟨world, service, run, live, recorded, eligible⟩ := recovers_with_any "recovery" "guess"
  obtain ⟨outcome, returned⟩ := emergencyRecover_ok.mpr eligible
  refine ⟨world, service, outcome, run, live, returned, recorded, ?_⟩
  rw [recorded]
  decide +kernel

theorem recovery_demands_secret_iff_guess :
    letI := Sha256.hashlib
    letI : PageReader := ⟨fun _ => none⟩
    ∃ (world : World) (service : Service), world.service = some service ∧
      ¬ ((∃ outcome, emergencyRecover service (recoverWith "guess") = .ok outcome) →
        recordedVerifiers world.ports.journal =
          [(sha256 (utf8 (recoverWith "guess").recoverySecret)).text]) ∧
      recordedVerifiers world.ports.journal ≠
        [(recoverWith "guess").expectedRecoveryVerifier] := by
  let _ := Sha256.hashlib
  let _ : PageReader := ⟨fun _ => none⟩
  obtain ⟨world, service, run, live, recorded, eligible⟩ := recovers_with_any "recovery" "guess"
  have foreign : recordedVerifiers world.ports.journal ≠
      [(recoverWith "guess").expectedRecoveryVerifier] := by
    rw [recorded]
    decide +kernel
  refine ⟨world, service, live, ?_, foreign⟩
  rw [(recovery_demands_secret_iff run live (recoverWith "guess")).1, not_or]
  exact ⟨not_not.mpr eligible, foreign⟩

end Chiplog.DeploymentTrust
