import Chiplog.Data.Sha256
import Chiplog.Planning.UseCase

namespace Chiplog.Planning

open Chiplog.Data

/-! The publications of a tenant over any calls.

Every commit appends one publication whose five record identities are all new, so its command
identity, which is one of them, names no other publication: neither a chosen identity of
another command nor one derived from it can take it. -/

theorem state_set (repository : Repository) (tenantId other : String) (state : PlanningState) :
    Repository.state (Dict.set repository tenantId state) other =
      if other = tenantId then state else Repository.state repository other := by
  unfold Repository.state
  rw [Dict.get?_set]
  split <;> rfl

@[simp] theorem state_opened (repository : Repository) (tenantId other : String) :
    Repository.state (Repository.opened repository tenantId) other =
      Repository.state repository other := by
  rw [Repository.opened, state_set]
  split
  · rename_i same
    rw [same]
  · rfl

structure PlanningState.Valid (tenantId : String) (state : PlanningState) : Prop where
  tenant : state.tenantId = tenantId
  numbered : state.publications.map PlanningPublication.commitSequence = List.range' 1 state.head
  version : state.version = state.publications.length
  distinct : (state.publications.flatMap PlanningPublication.recordIds).Nodup
  known : ∀ value, value ∈ state.recordIds ↔
    value ∈ state.publications.flatMap PlanningPublication.recordIds
  byCommand : ∀ commandId publication, state.byCommand.get? commandId = some publication ↔
    publication ∈ state.publications ∧ publication.commandId.value = commandId
  named : ∀ publication ∈ state.publications,
    publication.commandId.value ∈ publication.recordIds

theorem initial_valid (tenantId : String) : (PlanningState.initial tenantId).Valid tenantId where
  tenant := rfl
  numbered := rfl
  version := rfl
  distinct := List.nodup_nil
  known := fun _ => Iff.rfl
  byCommand := by
    intro commandId publication
    constructor
    · intro impossible
      cases impossible
    · rintro ⟨member, _⟩
      cases member
  named := nofun

theorem PlanningState.Valid.head {tenantId : String} {state : PlanningState}
    (valid : state.Valid tenantId) : state.head = state.publications.length := by
  have lengths := congrArg List.length valid.numbered
  rw [List.length_map, List.length_range'] at lengths
  exact lengths.symm

/-- A publication of new identities keeps the state valid. -/
theorem PlanningState.Valid.publish {tenantId : String} {state : PlanningState}
    (valid : state.Valid tenantId) {command : CreateIntentionLine}
    {publication : PlanningPublication} (own : publication.commandId = command.commandId)
    (named : command.commandId.value ∈ publication.recordIds)
    (sequence : publication.commitSequence = state.head + 1)
    (distinct : publication.recordIds.Nodup)
    (fresh : ∀ value ∈ publication.recordIds, value ∉ state.recordIds) :
    (state.publish command publication state.version).Valid tenantId where
  tenant := valid.tenant
  numbered := by
    rw [PlanningState.publish, List.map_append, valid.numbered, sequence, List.range'_concat]
    simp [sequence, Nat.add_comm]
  version := by simp [PlanningState.publish, valid.version]
  distinct := by
    rw [PlanningState.publish, List.flatMap_append, List.flatMap_singleton]
    refine List.nodup_append.mpr ⟨valid.distinct, distinct, ?_⟩
    rintro value earlier _ new rfl
    exact fresh value new ((valid.known value).mpr earlier)
  known := by
    intro value
    simp only [PlanningState.publish, List.flatMap_append, List.flatMap_singleton,
      List.mem_append, valid.known]
  byCommand := by
    have unused : ∀ earlier ∈ state.publications,
        earlier.commandId.value ≠ command.commandId.value := by
      intro earlier member same
      apply fresh _ named
      rw [valid.known, ← same]
      exact List.mem_flatMap_of_mem member (valid.named earlier member)
    intro commandId other
    simp only [PlanningState.publish, Dict.get?_set, List.mem_append, List.mem_singleton]
    split
    · rename_i same
      subst same
      rw [Option.some.injEq]
      constructor
      · rintro rfl
        exact ⟨.inr rfl, by rw [own]⟩
      · rintro ⟨earlier | rfl, same⟩
        · exact absurd same (unused other earlier)
        · rfl
    · rename_i different
      rw [valid.byCommand]
      constructor
      · rintro ⟨earlier, same⟩
        exact ⟨.inl earlier, same⟩
      · rintro ⟨earlier | rfl, same⟩
        · exact ⟨earlier, same⟩
        · rw [own] at same
          exact absurd same.symm different
  named := by
    intro other member
    rcases List.mem_append.mp member with earlier | last
    · exact valid.named other earlier
    · rw [List.mem_singleton.mp last, own]
      exact named

section

variable [Hashlib] {context : InvocationContext} {outcome : PlanningOutcome}
  {repository : Repository}

/-- The publication of a commit at a head. -/
def published (tenantId : String) (context : InvocationContext) (command : CreateIntentionLine)
    (head : Nat) : PlanningPublication :=
  let request := requestFingerprint context command none
  let (records, result) := construct context command (head + 1) request
  ⟨tenantId, command.commandId, request, head + 1, records, result, result.recordManifest,
    result.batchFingerprint⟩

/-- A call that commits: its checks, and what it leaves. -/
structure Commits (repository : Repository) (context : InvocationContext)
    (command : CreateIntentionLine) (trust : Revalidation)
    (outcome : PlanningOutcome) (after : Repository) : Prop where
  valid : structuralError context command none = none
  head : (Repository.state trust.repository context.tenantId).head =
    (Repository.state repository context.tenantId).head
  version : (Repository.state trust.repository context.tenantId).version =
    (Repository.state repository context.tenantId).version
  distinct : (commandIds command).Nodup
  fresh : ∀ value ∈ commandIds command,
    value ∉ (Repository.state trust.repository context.tenantId).recordIds
  outcome : outcome = ⟨.committed, some (published
    (Repository.state trust.repository context.tenantId).tenantId context command
    (Repository.state repository context.tenantId).head).result, none⟩
  after : after = Dict.set trust.repository context.tenantId
    ((Repository.state trust.repository context.tenantId).publish command
      (published (Repository.state trust.repository context.tenantId).tenantId context command
        (Repository.state repository context.tenantId).head)
      (Repository.state repository context.tenantId).version)

omit [Hashlib] in
theorem refusal_ne {decision : PlanningTrustDecision}
    (refused : decision.refusal = some outcome) : outcome.disposition ≠ .committed := by
  unfold PlanningTrustDecision.refusal at refused
  split at refused
  · cases refused
  · cases refused
    nofun
  · cases refused
    nofun
  · cases refused
    nofun

/-- What a call can do. -/
theorem execute_cases (repository : Repository) (context : InvocationContext)
    (command : CreateIntentionLine) (trust : Revalidation) :
    ((execute repository context command trust).1.disposition ≠ .committed ∧
        ((execute repository context command trust).2 = repository ∨
          (execute repository context command trust).2 =
            Repository.opened repository context.tenantId ∨
          (execute repository context command trust).2 = trust.repository)) ∨
      Commits repository context command trust (execute repository context command trust).1
        (execute repository context command trust).2 := by
  unfold execute
  split
  · exact .inl ⟨nofun, .inl rfl⟩
  · rename_i structural
    dsimp only
    split
    · split
      · exact .inl ⟨nofun, .inr (.inl rfl)⟩
      · split
        · rename_i refused
          exact .inl ⟨refusal_ne refused, .inr (.inr rfl)⟩
        · exact .inl ⟨nofun, .inr (.inr rfl)⟩
    · split
      · rename_i refused
        exact .inl ⟨refusal_ne refused, .inr (.inr rfl)⟩
      · split
        · exact .inl ⟨nofun, .inr (.inr rfl)⟩
        · rename_i same
          split
          · exact .inl ⟨nofun, .inr (.inr rfl)⟩
          · rename_i collisions
            rw [not_or, not_not, not_not, state_opened] at same
            rw [not_or, not_not, construct_ids] at collisions
            right
            constructor
            · exact structural
            · exact same.1
            · exact same.2
            · exact collisions.1
            · exact fun value member taken => collisions.2 ⟨value, member, taken⟩
            · rw [state_opened]
              rfl
            · rw [state_opened]
              rfl

def Repository.Valid (repository : Repository) : Prop :=
  ∀ tenantId, (Repository.state repository tenantId).Valid tenantId

/-- No publication of the earlier repository is lost or moved. -/
def Repository.Extends (earlier later : Repository) : Prop :=
  ∀ tenantId, (Repository.state earlier tenantId).publications <+:
    (Repository.state later tenantId).publications

omit [Hashlib] in
theorem Repository.Valid.opened (valid : Repository.Valid repository)
    (tenantId : String) : Repository.Valid (Repository.opened repository tenantId) := by
  intro other
  rw [state_opened]
  exact valid other

theorem published_named (tenantId : String) (context : InvocationContext)
    (command : CreateIntentionLine) (head : Nat) :
    command.commandId.value ∈ (published tenantId context command head).recordIds :=
  List.mem_cons_self

theorem Commits.publish_valid {repository after : Repository}
    {command : CreateIntentionLine} {trust : Revalidation}
    (commits : Commits repository context command trust outcome after)
    (valid : Repository.Valid trust.repository) : Repository.Valid after := by
  intro tenantId
  rw [commits.after, state_set]
  split
  · rename_i same
    subst same
    rw [← commits.version, ← commits.head]
    exact (valid context.tenantId).publish rfl (published_named _ _ _ _) rfl commits.distinct
      commits.fresh
  · exact valid tenantId

theorem Commits.extends {repository after : Repository}
    {command : CreateIntentionLine} {trust : Revalidation}
    (commits : Commits repository context command trust outcome after) :
    Repository.Extends trust.repository after := by
  intro tenantId
  rw [commits.after, state_set]
  split
  · rename_i same
    subst same
    exact List.prefix_append _ _
  · exact List.prefix_rfl

/-- Whatever is called, also by the trust port, the states stay valid and only grow. -/
theorem Calls.preserves {start repository : Repository} (run : Calls start repository)
    (valid : Repository.Valid start) :
    Repository.Valid repository ∧ Repository.Extends start repository := by
  induction run with
  | none => exact ⟨valid, fun _ => List.prefix_rfl⟩
  | @execute start repository before context command trust during ihBefore ihDuring =>
      obtain ⟨earlier, grown⟩ := ihBefore valid
      obtain ⟨answered, further⟩ := ihDuring (earlier.opened _)
      have extended : Repository.Extends start trust.repository := by
        intro tenantId
        have opened := further tenantId
        rw [state_opened] at opened
        exact (grown tenantId).trans opened
      rcases execute_cases repository context command trust with ⟨_, same | same | same⟩ | commits
      · rw [same]
        exact ⟨earlier, grown⟩
      · rw [same]
        refine ⟨earlier.opened _, ?_⟩
        intro tenantId
        rw [state_opened]
        exact grown tenantId
      · rw [same]
        exact ⟨answered, extended⟩
      · refine ⟨commits.publish_valid answered, ?_⟩
        intro tenantId
        exact (extended tenantId).trans (commits.extends tenantId)

omit [Hashlib] in
theorem empty_valid : Repository.Valid Dict.empty := fun tenantId => initial_valid tenantId

theorem execute_malformed {command : CreateIntentionLine} {reason : String}
    (malformed : structuralError context command none = some reason) (trust : Revalidation) :
    execute repository context command trust = (⟨.denied, none, some reason⟩, repository) := by
  unfold execute
  rw [malformed]

/-- A known command identity is answered from its publication. -/
theorem execute_known {command : CreateIntentionLine} {publication : PlanningPublication}
    (structural : structuralError context command none = none)
    (known : (Repository.state repository context.tenantId).byCommand.get?
      command.commandId.value = some publication) (trust : Revalidation) :
    (execute repository context command trust).1 =
      if publication.requestFingerprint ≠ requestFingerprint context command none then
        ⟨.conflict, none, some "command identity reused with changed bytes"⟩
      else trust.decision.refusal.getD ⟨.replay, some publication.result, none⟩ := by
  unfold execute
  rw [structural]
  dsimp only
  rw [state_opened, known]
  dsimp only
  split
  · rfl
  · split
    · rename_i refused
      rw [refused]
      rfl
    · rename_i valid
      rw [valid]
      rfl

omit [Hashlib] in
/-- A state whose head is as before is as long as before, hence the same. -/
theorem publications_eq {tenantId : String} {earlier later : PlanningState}
    (valid : earlier.Valid tenantId) (validLater : later.Valid tenantId)
    (extends_ : earlier.publications <+: later.publications) (heads : later.head = earlier.head) :
    later.publications = earlier.publications := by
  rw [valid.head, validLater.head] at heads
  exact (extends_.eq_of_length heads.symm).symm

/-- The identities of the tenant's publications, their numbers and their commands. -/
structure PlanningState.Consistent (state : PlanningState) : Prop where
  numbered : state.publications.map PlanningPublication.commitSequence = List.range' 1 state.head
  version : state.version = state.publications.length
  distinct : (state.publications.flatMap PlanningPublication.recordIds).Nodup
  byCommand : ∀ commandId publication, state.byCommand.get? commandId = some publication ↔
    publication ∈ state.publications ∧ publication.commandId.value = commandId

/-- A changed request that hashes like the original one. -/
def Collides (context other : InvocationContext) (command changed : CreateIntentionLine) : Prop :=
  (requestJson other changed none).encodeAscii ≠ (requestJson context command none).encodeAscii ∧
    sha256 (requestJson other changed none).encodeAscii =
      sha256 (requestJson context command none).encodeAscii

/-- Over any calls of any contexts, commands and trust answers the state of every tenant stays
consistent, only a commit changes it, and a committed command is replayed with its result.  A
structurally valid request that changes anything under its identity is a conflict, and one that is
structurally invalid is denied whatever its identity committed before. -/
theorem planning_state_invariants {repository : Repository} (run : Calls Dict.empty repository) :
    (∀ tenantId, (Repository.state repository tenantId).Consistent) ∧
    (∀ (context : InvocationContext) (command : CreateIntentionLine) (trust : Revalidation),
      Calls (Repository.opened repository context.tenantId) trust.repository →
      ∀ outcome after, execute repository context command trust = (outcome, after) →
      (outcome.disposition ≠ .committed → ∀ tenantId,
        Repository.state after tenantId = Repository.state repository tenantId ∨
          Repository.state after tenantId = Repository.state trust.repository tenantId) ∧
      (outcome.disposition = .committed → ∃ publication,
        outcome = ⟨.committed, some publication.result, none⟩ ∧
        publication.commandId = command.commandId ∧
        (Repository.state after context.tenantId).publications =
          (Repository.state repository context.tenantId).publications ++ [publication] ∧
        ∀ later, Calls after later → ∀ again : Revalidation,
          (again.decision.disposition = .valid →
            (execute later context command again).1 = ⟨.replay, some publication.result, none⟩) ∧
          ∀ (other : InvocationContext) (changed : CreateIntentionLine),
            structuralError other changed none = none → other.tenantId = context.tenantId →
            changed.commandId.value = command.commandId.value →
            (other, changed) ≠ (context, command) →
            (execute later other changed again).1.disposition = .conflict ∨
              Collides context other command changed)) ∧
    ∀ (other : InvocationContext) (changed : CreateIntentionLine) (again : Revalidation)
      (reason : String), structuralError other changed none = some reason →
        execute repository other changed again = (⟨.denied, none, some reason⟩, repository) := by
  obtain ⟨valid, _⟩ := run.preserves empty_valid
  refine ⟨?_, ?_, fun _ _ again _ malformed => execute_malformed malformed again⟩
  · intro tenantId
    exact ⟨(valid tenantId).numbered, (valid tenantId).version, (valid tenantId).distinct,
      (valid tenantId).byCommand⟩
  · intro context command trust during outcome after returned
    obtain ⟨answered, grown⟩ := during.preserves (valid.opened _)
    have cases := execute_cases repository context command trust
    rw [returned] at cases
    dsimp only at cases
    rcases cases with ⟨refused, same⟩ | commits
    · refine ⟨fun _ tenantId => ?_, fun committed => absurd committed refused⟩
      rcases same with rfl | rfl | rfl
      · exact .inl rfl
      · exact .inl (state_opened _ _ _)
      · exact .inr rfl
    · have committed : outcome.disposition = .committed := by rw [commits.outcome]
      refine ⟨fun other => absurd committed other, fun _ => ?_⟩
      have unchanged := publications_eq (valid context.tenantId) (answered context.tenantId)
        (by simpa using grown context.tenantId) commits.head
      obtain ⟨publication, own, request, result, stored⟩ : ∃ publication : PlanningPublication,
          publication.commandId = command.commandId ∧
          publication.requestFingerprint = requestFingerprint context command none ∧
          outcome = ⟨.committed, some publication.result, none⟩ ∧
          (Repository.state after context.tenantId).publications =
            (Repository.state trust.repository context.tenantId).publications ++
              [publication] := by
        refine ⟨_, rfl, rfl, commits.outcome, ?_⟩
        rw [commits.after, state_set, if_pos rfl, PlanningState.publish]
      refine ⟨publication, result, own, by rw [stored, unchanged], ?_⟩
      intro later rest again
      obtain ⟨validLater, extended⟩ := rest.preserves (commits.publish_valid answered)
      -- the publication is still there, under its command identity
      have known := ((validLater context.tenantId).byCommand command.commandId.value
        publication).mpr ⟨(extended context.tenantId).subset (by simp [stored]), by rw [own]⟩
      constructor
      · intro isValid
        have same : ¬ publication.requestFingerprint ≠ requestFingerprint context command none :=
          not_not.mpr request
        rw [execute_known commits.valid known again, if_neg same, PlanningTrustDecision.refusal,
          isValid]
        rfl
      · intro other changed structural tenant identity different
        rw [← tenant, ← identity] at known
        by_cases fingerprints : publication.requestFingerprint =
            requestFingerprint other changed none
        · right
          constructor
          · intro bytes
            obtain ⟨rfl, rfl⟩ := requestJson_inj bytes
            exact different rfl
          · exact Digest.ext_text (fingerprints.symm.trans request)
        · left
          rw [execute_known structural known again, if_pos fingerprints]

end

def sampleContext : InvocationContext where
  tenantId := "tenant"
  principalId := "principal"
  permissionScope := createScope
  trustReference := ⟨"tenant", "principal", "CLI", "credential", "session", "source", "trust",
    "materialization", 1, "uid:1"⟩

def sampleCommand (purpose : String) : CreateIntentionLine where
  commandId := ⟨"tenant", "command"⟩
  intentionLineId := ⟨"tenant", "line"⟩
  revisionId := ⟨"tenant", "revision"⟩
  purpose := purpose
  authorityActId := "act"

/-- Trust that is valid and touches nothing. -/
def sampleTrust (repository : Repository) : Revalidation :=
  ⟨⟨.valid, none⟩, Repository.opened repository "tenant"⟩

section

attribute [local instance] Sha256.hashlib

/-- The repository after one commit. -/
def sampleCommitted : Repository :=
  (execute Dict.empty sampleContext (sampleCommand "read") (sampleTrust Dict.empty)).2

theorem planning_state_invariants_sample :
    (∃ result, (execute sampleCommitted sampleContext (sampleCommand "read")
      (sampleTrust sampleCommitted)).1 = ⟨.replay, some result, none⟩) ∧
    ((execute sampleCommitted sampleContext (sampleCommand "write")
        (sampleTrust sampleCommitted)).1.disposition = .conflict ∨
      Collides sampleContext sampleContext (sampleCommand "read") (sampleCommand "write")) ∧
    execute sampleCommitted sampleContext (sampleCommand "read ") (sampleTrust sampleCommitted) =
      (⟨.denied, none, some "purpose must be nonblank normalized text"⟩, sampleCommitted) := by
  have committed : (execute Dict.empty sampleContext (sampleCommand "read")
      (sampleTrust Dict.empty)).1.disposition = .committed := by
    decide +kernel
  have run : Calls Dict.empty sampleCommitted :=
    .execute (.none Dict.empty) sampleContext (sampleCommand "read") (sampleTrust Dict.empty)
      (.none _)
  obtain ⟨_, calls, _⟩ := planning_state_invariants (.none Dict.empty)
  obtain ⟨_, commit⟩ := calls sampleContext (sampleCommand "read") (sampleTrust Dict.empty)
    (.none _) _ sampleCommitted rfl
  obtain ⟨publication, _, _, _, repeats⟩ := commit committed
  obtain ⟨replayed, changes⟩ := repeats sampleCommitted (.none _) (sampleTrust sampleCommitted)
  refine ⟨⟨publication.result, replayed rfl⟩, ?_, ?_⟩
  · have structural : structuralError sampleContext (sampleCommand "write") none = none := by
      decide +kernel
    have different : (sampleContext, sampleCommand "write") ≠
        (sampleContext, sampleCommand "read") := by
      decide
    exact changes sampleContext (sampleCommand "write") structural rfl rfl different
  · have malformed : structuralError sampleContext (sampleCommand "read ") none =
        some "purpose must be nonblank normalized text" := by
      decide +kernel
    obtain ⟨_, _, denies⟩ := planning_state_invariants run
    exact denies sampleContext (sampleCommand "read ") (sampleTrust sampleCommitted) _ malformed

end

/-- A changed request that is also malformed is denied before its identity is looked up. -/
theorem malformed_change_denied :
    let after := (@execute Sha256.hashlib Dict.empty sampleContext (sampleCommand "read")
      (sampleTrust Dict.empty)).2
    (@execute Sha256.hashlib Dict.empty sampleContext (sampleCommand "read")
        (sampleTrust Dict.empty)).1.disposition = .committed ∧
      sampleCommand "read " ≠ sampleCommand "read" ∧
      (sampleCommand "read ").commandId = (sampleCommand "read").commandId ∧
      (@execute Sha256.hashlib after sampleContext (sampleCommand "read ")
        (sampleTrust after)).1 =
          ⟨.denied, none, some "purpose must be nonblank normalized text"⟩ := by
  decide +kernel

end Chiplog.Planning
