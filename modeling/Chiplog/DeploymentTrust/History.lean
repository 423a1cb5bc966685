import Chiplog.DeploymentTrust.Recovery
import Chiplog.DeploymentTrust.Runs

namespace Chiplog.DeploymentTrust

open Chiplog.Data

/-! The history behind the ports of a run.

`Decided` says how a journal came about: each entry is the decision of an operation that a
service with the authority so far planned.  Every world of a run has such a history, and a
running service has the authority of it, however often the process stopped in between. -/

theorem materialized_iff {ports : Ports} {decisionId : String} :
    ports.materialized decisionId = true ↔ decisionId ∈ ports.rows.map Prod.fst := by
  simp [Ports.materialized]

@[simp] theorem materialize_journal (ports : Ports) (decisionId : String)
    (records : List Json) : (ports.materialize decisionId records).journal = ports.journal := by
  unfold Ports.materialize
  split <;> rfl

theorem materialize_fresh {ports : Ports} {decisionId : String} {records : List Json}
    (fresh : decisionId ∉ ports.rows.map Prod.fst) :
    ports.materialize decisionId records =
      { ports with rows := ports.rows ++ [(decisionId, records)] } := by
  unfold Ports.materialize
  rw [if_neg]
  exact fun known => fresh (materialized_iff.mp known)

/-- The authority over a start that had a fingerprint already. -/
def Authority.keeping (authority : Authority) (fingerprint : Option String) : Authority :=
  { authority with bootstrapFingerprint := authority.bootstrapFingerprint.or fingerprint }

theorem map_bind {α β γ ε : Type} {computation : Except ε α} {continuation : α → Except ε β}
    {change : β → γ} :
    (computation >>= continuation).map change =
      computation >>= fun value => (continuation value).map change := by
  cases computation <;> rfl

theorem rebuildDecision_keeping (authority : Authority) (decisionId : String) (value : Json)
    (fingerprint : Option String) :
    rebuildDecision (authority.keeping fingerprint) decisionId value =
      (rebuildDecision authority decisionId value).map (·.keeping fingerprint) := by
  unfold rebuildDecision
  simp only [map_bind]
  congr 1
  funext kind
  split <;> (try simp only [map_bind]) <;> try rfl
  · unfold Authority.keeping
    dsimp only
    split <;> rfl
  · congr 1
    funext sourceId
    unfold Authority.keeping
    dsimp only
    split <;> rfl

theorem Settles.rebuilt_keeping {service after : Service} {kind : Kind}
    {payload : List (String × Json)} {decision : String}
    (settles : Settles service kind payload decision after) (fingerprint : Option String)
    (recordType : String) :
    rebuildDecision (service.toAuthority.keeping fingerprint) decision
      (record decision kind.text recordType payload) =
        .ok (after.toAuthority.keeping fingerprint) := by
  rw [rebuildDecision_keeping, settles.rebuilt recordType]
  rfl

@[simp] theorem textAt_record (decisionId kind recordType : String)
    (payload : List (String × Json)) :
    textAt (record decisionId kind recordType payload) "decision_id" = .ok decisionId := by
  simp [record]

/-- The records of a decision that was seen already change nothing. -/
theorem rebuildRecords_seen {decisionId kind : String} {payload : List (String × Json)}
    {rebuilding : Rebuilding} (seen : decisionId ∈ rebuilding.seen) (recordTypes : List String) :
    (recordTypes.map (fun recordType => record decisionId kind recordType payload)).foldlM
      rebuildRecord rebuilding = .ok rebuilding := by
  induction recordTypes with
  | nil => rfl
  | cons recordType rest ih =>
      rw [List.map_cons, List.foldlM_cons]
      simp [rebuildRecord, seen, ih]

theorem rebuildRecord_fresh {decisionId kind recordType : String}
    {payload : List (String × Json)} {seen : List String} {authority after : Authority}
    (fresh : decisionId ∉ seen)
    (rebuilt : rebuildDecision authority decisionId
      (record decisionId kind recordType payload) = .ok after) :
    rebuildRecord ⟨seen, authority⟩ (record decisionId kind recordType payload) =
      .ok ⟨decisionId :: seen, after⟩ := by
  simp [rebuildRecord, fresh, rebuilt]

/-- A row counts once, whatever the number of its records. -/
theorem rebuildRecords_row {decisionId kind : String} {payload : List (String × Json)}
    {seen : List String} {authority after : Authority} (fresh : decisionId ∉ seen)
    (rebuilt : ∀ recordType, rebuildDecision authority decisionId
      (record decisionId kind recordType payload) = .ok after) :
    (recordsOf decisionId kind payload).foldlM rebuildRecord ⟨seen, authority⟩ =
      .ok ⟨decisionId :: seen, after⟩ := by
  unfold recordsOf recordTypesOf
  rw [List.map_cons, List.map_cons, List.foldlM_cons, rebuildRecord_fresh fresh (rebuilt _),
    ok_bind]
  exact rebuildRecords_seen List.mem_cons_self _

variable [Hashlib] {journal : List Entry}

/-- The entry of a decision at the end of the journal. -/
def decisionEntry (journal : List Entry) (kind : Kind) (payload : List (String × Json)) : Entry :=
  HashChain.next decisionDigest journal
    (envelope kind.text payload (HashChain.head journal))

/-- The row of a decision at the end of the journal. -/
def decisionRow (journal : List Entry) (kind : Kind) (payload : List (String × Json)) : Row :=
  ((decisionEntry journal kind payload).id,
    recordsOf (decisionEntry journal kind payload).id kind.text payload)

/-- The payload of an entry of the given kind. -/
def payloadOf (kind : Kind) (entry : Entry) : Option Json :=
  match textAt entry.body "kind", item entry.body "payload" with
  | .ok text, .ok payload => if text = kind.text then some payload else none
  | _, _ => none

theorem payloadOf_decisionEntry (expected kind : Kind) (journal : List Entry)
    (payload : List (String × Json)) :
    payloadOf expected (decisionEntry journal kind payload) =
      if kind = expected then some (.obj payload) else none := by
  have body : (decisionEntry journal kind payload).body =
      envelope kind.text payload (HashChain.head journal) := rfl
  have text : kind.text = expected.text ↔ kind = expected :=
    ⟨fun same => Option.some.inj (by rw [← Kind.ofText?_text, same, Kind.ofText?_text]),
      congrArg Kind.text⟩
  simp [payloadOf, body, envelope, text]

theorem replayEntry_materialized {kind : Kind}
    {payload : List (String × Json)} {ports : Ports} {recovered : Nat}
    (known : (decisionEntry journal kind payload).id ∈ ports.rows.map Prod.fst) :
    replayEntry ⟨HashChain.head journal, ports, recovered⟩ (decisionEntry journal kind payload) =
      .ok ⟨some (decisionEntry journal kind payload).id, ports, recovered⟩ := by
  have materialized := materialized_iff.mpr known
  unfold replayEntry
  rw [raiseIf_neg (by simp [decisionEntry, HashChain.next])]
  simp [materialized]

theorem replayEntry_missing {kind : Kind}
    {payload : List (String × Json)} {ports : Ports} {recovered : Nat}
    (fresh : (decisionEntry journal kind payload).id ∉ ports.rows.map Prod.fst) :
    replayEntry ⟨HashChain.head journal, ports, recovered⟩ (decisionEntry journal kind payload) =
      .ok ⟨some (decisionEntry journal kind payload).id,
        { ports with rows := ports.rows ++ [decisionRow journal kind payload] },
        recovered + 1⟩ := by
  have missing : ports.materialized (decisionEntry journal kind payload).id = false := by
    rw [Bool.eq_false_iff]
    exact fun known => fresh (materialized_iff.mp known)
  have body : (decisionEntry journal kind payload).body =
      envelope kind.text payload (HashChain.head journal) := rfl
  unfold replayEntry
  rw [raiseIf_neg (by simp [decisionEntry, HashChain.next])]
  simp [missing, body, envelope, materialize_fresh fresh, decisionRow]

theorem decide_eq (ports : Ports) (kind : Kind) (payload : List (String × Json)) :
    ports.decide kind payload = .ok ((decisionEntry ports.journal kind payload).id,
      { ports with journal := ports.journal ++ [decisionEntry ports.journal kind payload] }) := by
  simp [Ports.decide, Ports.append, decisionEntry, HashChain.next]

theorem reconstructCore_ok {service after : Service}
    (returned : service.reconstructCoreFromJournal journal = .ok after) :
    after.toAuthority = service.toAuthority ∧
      ∃ state, after.state = some state ∧
        HashChain.head journal = some state.materializationHead := by
  obtain ⟨core, _, returned⟩ := bind_ok.mp returned
  split at returned
  · rename_i last
    obtain ⟨_, _, returned⟩ := bind_ok.mp returned
    cases returned
    exact ⟨rfl, _, rfl, last⟩
  · cases returned

theorem replay_journal {ports : Ports} {replay : Replay} (replayed : ports.replay = .ok replay) :
    replay.ports.journal = ports.journal := by
  apply foldlM_invariant (fun _ replay => replay.ports.journal = ports.journal) rfl ?_ replayed
  intro done entry before after kept round
  obtain ⟨_, _, round⟩ := bind_ok.mp round
  split at round
  · cases round
    exact kept
  · obtain ⟨_, _, round⟩ := bind_ok.mp round
    obtain ⟨payload, _, round⟩ := bind_ok.mp round
    split at round
    · cases round
      exact (materialize_journal _ _ _).trans kept
    · cases round

theorem recover_journal {service after : Service} {before ports : Ports} {recovered : Nat}
    (returned : service.recover before = .ok (recovered, after, ports)) :
    ports.journal = before.journal := by
  obtain ⟨replay, replayed, returned⟩ := bind_ok.mp returned
  obtain ⟨_, _, returned⟩ := bind_ok.mp returned
  cases returned
  exact replay_journal replayed

variable [PageReader]

/-- A journal with the rows that materialize it and the authority it amounts to. -/
inductive Decided : List Entry → List Row → Authority → Prop
  | empty : Decided [] [] Authority.initial
  | decide {journal : List Entry} {rows : List Row} {service : Service} {operation : Operation}
      {kind : Kind} {payload : List (String × Json)}
      {settle : String → Service → Service × Unit}
      (before : Decided journal rows service.toAuthority)
      (planned : operation.plan service journal = .ok (.decides kind payload settle)) :
      Decided (journal ++ [decisionEntry journal kind payload])
        (rows ++ [decisionRow journal kind payload])
        (settle (decisionEntry journal kind payload).id
          (service.materializedAt (decisionEntry journal kind payload).id)).1.toAuthority

variable {journal : List Entry} {rows : List Row} {authority : Authority}
  {payload : List (String × Json)} {ports : Ports} {service : Service}
  {allowed : World → Event → Prop} {operation : Operation}

theorem Decided.chained (history : Decided journal rows authority) :
    HashChain.Chained decisionDigest journal := by
  induction history with
  | empty => exact .nil
  | decide _ _ ih => exact .snoc ih _

theorem Decided.ids (history : Decided journal rows authority) :
    rows.map Prod.fst = journal.map HashChain.Entry.id := by
  induction history with
  | empty => rfl
  | decide _ _ ih => simp [ih, decisionRow]

theorem Decided.authority_initial (history : Decided [] rows authority) :
    rows = [] ∧ authority = Authority.initial := by
  generalize unused : ([] : List Entry) = journal at history
  cases history with
  | empty => exact ⟨rfl, rfl⟩
  | decide => simp at unused

/-- A journal whose decisions are all materialized replays without effect. -/
theorem Decided.replay_complete (history : Decided journal rows authority)
    (complete : rows <+: ports.rows) :
    journal.foldlM replayEntry ⟨none, ports, 0⟩ =
      .ok ⟨HashChain.head journal, ports, 0⟩ := by
  induction history with
  | empty => rfl
  | @decide journal rows service operation kind payload settle before planned ih =>
      have earlier := ih ((List.prefix_append _ _).trans complete)
      have known : (decisionEntry journal kind payload).id ∈ ports.rows.map Prod.fst :=
        List.mem_map_of_mem (complete.subset (List.mem_append_right _ List.mem_cons_self))
      rw [List.foldlM_append, earlier]
      simp [replayEntry_materialized known]

/-- Otherwise the missing rows are written in decision order. -/
theorem Decided.replay (history : Decided journal rows authority)
    (distinct : (journal.map HashChain.Entry.id).Nodup)
    (part : ports.rows <+: rows) :
    journal.foldlM replayEntry ⟨none, ports, 0⟩ =
      .ok ⟨HashChain.head journal, { ports with rows := rows },
        rows.length - ports.rows.length⟩ := by
  induction history with
  | empty =>
      have nothing := List.prefix_nil.mp part
      cases ports
      cases nothing
      rfl
  | @decide journal rows service operation kind payload settle before planned ih =>
      rcases List.prefix_concat_iff.mp part with whole | earlier
      · have complete := (before.decide planned).replay_complete
          (show _ <+: ports.rows by rw [whole])
        rw [complete]
        cases ports
        cases whole
        simp
      · rw [List.map_append] at distinct
        have apart := List.nodup_append.mp distinct
        have fresh : (decisionEntry journal kind payload).id ∉ rows.map Prod.fst := by
          rw [before.ids]
          exact fun member => apart.2.2 _ member _ List.mem_cons_self rfl
        have counted : rows.length - ports.rows.length + 1 =
            (rows ++ [decisionRow journal kind payload]).length - ports.rows.length := by
          have within := earlier.length_le
          simp only [List.length_append, List.length_singleton]
          omega
        rw [List.foldlM_append, ih apart.1 earlier, ← counted]
        have missing := @replayEntry_missing _ journal kind payload ⟨ports.journal, rows⟩
          (rows.length - ports.rows.length) fresh
        simp [missing]

theorem Decided.rebuild (history : Decided journal rows authority)
    (distinct : (journal.map HashChain.Entry.id).Nodup) (fingerprint : Option String) :
    (rows.flatMap Prod.snd).foldlM rebuildRecord ⟨[], Authority.initial.keeping fingerprint⟩ =
      .ok ⟨(rows.map Prod.fst).reverse, authority.keeping fingerprint⟩ := by
  induction history with
  | empty => rfl
  | @decide journal rows service operation kind payload settle before planned ih =>
      rw [List.map_append] at distinct
      have apart := List.nodup_append.mp distinct
      have fresh : (decisionEntry journal kind payload).id ∉ (rows.map Prod.fst).reverse := by
        rw [List.mem_reverse, before.ids]
        exact fun member => apart.2.2 _ member _ List.mem_cons_self rfl
      have settled := (Operation.plan_sound planned).2 (decisionEntry journal kind payload).id
      have row := rebuildRecords_row fresh (settled.rebuilt_keeping fingerprint)
      rw [List.flatMap_append, List.foldlM_append, ih apart.1, ok_bind,
        List.flatMap_singleton]
      simpa [decisionRow] using row

/-- Rebuilding from the rows of a history gives its authority. -/
theorem Decided.rebuildAuthorityState (history : Decided journal rows authority)
    (distinct : (journal.map HashChain.Entry.id).Nodup)
    (whole : ports.rows = rows)
    (known : service.bootstrapFingerprint = none ∨
      service.bootstrapFingerprint = authority.bootstrapFingerprint) :
    service.rebuildAuthorityState ports = .ok { service with toAuthority := authority } := by
  have kept : authority.keeping service.bootstrapFingerprint = authority := by
    unfold Authority.keeping
    rcases known with unset | same
    · simp [unset]
    · simp [same]
  have rebuilt := history.rebuild distinct service.bootstrapFingerprint
  have cleared : service.cleared = Authority.initial.keeping service.bootstrapFingerprint := rfl
  unfold Service.rebuildAuthorityState Ports.records
  rw [whole, cleared, rebuilt, kept]
  rfl

/-- A running service beside the history of its ports. -/
structure Agrees (service : Service) (ports : Ports) (rows : List Row) (authority : Authority) :
    Prop where
  whole : ports.rows = rows
  authority_eq : service.toAuthority = authority
  unset : service.state = none → ports.journal = []
  head : ∀ state, service.state = some state → state.phase = .active →
    HashChain.head ports.journal = some state.materializationHead

/-- A world has a history, and its running service agrees with it.  Only the last rows may
be missing, and only while no service runs. -/
def World.Consistent (world : World) : Prop :=
  ∃ rows authority, Decided world.ports.journal rows authority ∧ world.ports.rows <+: rows ∧
    ∀ service, world.service = some service → Agrees service world.ports rows authority

theorem initial_consistent (configuration : Configuration) :
    (World.initial configuration).Consistent := by
  refine ⟨[], Authority.initial, .empty, List.prefix_refl _, ?_⟩
  intro service live
  cases live
  exact ⟨rfl, rfl, fun _ => rfl, by simp [Service.new]⟩

/-- A performed decision extends the journal and its rows together. -/
theorem perform_decides {service after : Service} {before ports : Ports} {kind : Kind}
    {settle : String → Service → Service × Unit}
    (history : Decided before.journal rows authority) (whole : before.rows = rows)
    (free : CollisionFree ports.journal)
    (performed : (Outcome.decides kind payload settle).perform service before =
      .ok ((), after, ports)) :
    after = (settle (decisionEntry before.journal kind payload).id
      (service.materializedAt (decisionEntry before.journal kind payload).id)).1 ∧
      ports = ⟨before.journal ++ [decisionEntry before.journal kind payload],
        before.rows ++ [decisionRow before.journal kind payload]⟩ := by
  obtain ⟨⟨decision, between⟩, decided, performed⟩ := bind_ok.mp performed
  rw [decide_eq] at decided
  cases decided
  cases performed
  rw [materialize_journal] at free
  have distinct := free.ids_nodup (.snoc history.chained _)
  rw [List.map_append] at distinct
  have fresh : (decisionEntry before.journal kind payload).id ∉ before.rows.map Prod.fst := by
    rw [whole, history.ids]
    exact fun member =>
      (List.nodup_append.mp distinct).2.2 _ member _ List.mem_cons_self rfl
  have written := @materialize_fresh ⟨before.journal ++
    [decisionEntry before.journal kind payload], before.rows⟩ _
    (recordsOf (decisionEntry before.journal kind payload).id kind.text payload) fresh
  exact ⟨rfl, written⟩

/-- `recover` ends with all rows and the authority of the history. -/
theorem recover_agrees {service after : Service} {before ports : Ports}
    {recovered : Nat} (history : Decided before.journal rows authority)
    (part : before.rows <+: rows) (distinct : (before.journal.map HashChain.Entry.id).Nodup)
    (known : service.bootstrapFingerprint = none ∨
      service.bootstrapFingerprint = authority.bootstrapFingerprint)
    (bare : before.journal = [] → Agrees service before rows authority)
    (returned : service.recover before = .ok (recovered, after, ports)) :
    Agrees after ports rows authority := by
  obtain ⟨replay, replayed, returned⟩ := bind_ok.mp returned
  have whole : before.replay = _ := history.replay distinct part
  rw [whole] at replayed
  cases replayed
  obtain ⟨_, reconstructed, returned⟩ := bind_ok.mp returned
  cases returned
  unfold Service.reconstruct at reconstructed
  split at reconstructed
  · rename_i empty
    cases reconstructed
    have agrees := bare empty
    exact ⟨rfl, agrees.authority_eq, agrees.unset, agrees.head⟩
  · obtain ⟨core, cored, rebuilt⟩ := bind_ok.mp reconstructed
    obtain ⟨kept, state, isState, last⟩ := reconstructCore_ok cored
    have sameFingerprint : core.bootstrapFingerprint = service.bootstrapFingerprint :=
      congrArg Authority.bootstrapFingerprint kept
    rw [history.rebuildAuthorityState distinct rfl (sameFingerprint ▸ known)] at rebuilt
    cases rebuilt
    constructor
    case whole => rfl
    case authority_eq => rfl
    case unset =>
      intro unset
      rw [isState] at unset
      cases unset
    case head =>
      intro other isOther _
      rw [isState] at isOther
      cases isOther
      exact last

/-- A protected startup over rows that reach the last decision has all of them. -/
theorem materialized_whole (history : Decided journal rows authority)
    (distinct : (journal.map HashChain.Entry.id).Nodup)
    (part : ports.rows <+: rows) {last : String} (isLast : HashChain.head journal = some last)
    (materialized : ports.materialized last = true) : ports.rows = rows := by
  cases history with
  | empty => cases isLast
  | @decide journal rows service operation kind payload settle before planned =>
      rw [HashChain.head_snoc] at isLast
      cases isLast
      rcases List.prefix_concat_iff.mp part with whole | earlier
      · exact whole
      · have member := (earlier.map Prod.fst).subset (materialized_iff.mp materialized)
        rw [before.ids] at member
        rw [List.map_append] at distinct
        exact absurd rfl ((List.nodup_append.mp distinct).2.2 _ member _ List.mem_cons_self)

theorem admitStartup_agrees {service after : Service}
    {state : CurrentDatabaseState} {genesis : DatabaseGenesis}
    {binding : DeploymentTenantBinding} (history : Decided ports.journal rows authority)
    (part : ports.rows <+: rows) (distinct : (ports.journal.map HashChain.Entry.id).Nodup)
    (known : service.bootstrapFingerprint = none ∨
      service.bootstrapFingerprint = authority.bootstrapFingerprint)
    (returned : service.admitStartup ports state genesis binding = .ok after) :
    Agrees after ports rows authority := by
  obtain ⟨_, admitted, rebuilt⟩ := bind_ok.mp returned
  obtain ⟨_, _, _, _, _, _, _, _, _, _, last, materialized⟩ := not_not.mp (raiseIf_ok.mp admitted)
  have whole := materialized_whole history distinct part last materialized
  have result := @Decided.rebuildAuthorityState _ _ _ _ _ ports
    { service with state := some state, genesis := some genesis, binding := some binding }
    history distinct whole known
  rw [result] at rebuilt
  cases rebuilt
  constructor
  case whole => exact whole
  case authority_eq => rfl
  case unset =>
    intro unset
    cases unset
  case head =>
    intro other isOther _
    cases isOther
    exact last

/-- Only a crash leaves the rows behind the journal, by the last of them. -/
theorem Agrees.extended {service after : Service} {kind : Kind}
    (agrees : Agrees service ports rows authority) (history : Decided ports.journal rows authority)
    (settles : Settles service kind payload (decisionEntry ports.journal kind payload).id after) :
    Agrees after
      ⟨ports.journal ++ [decisionEntry ports.journal kind payload],
        ports.rows ++ [decisionRow ports.journal kind payload]⟩
      (rows ++ [decisionRow ports.journal kind payload]) after.toAuthority := by
  have grounded : service.Grounded := by
    intro unset
    rw [agrees.authority_eq]
    rw [agrees.unset unset] at history
    exact history.authority_initial.2
  constructor
  case whole => rw [agrees.whole]
  case authority_eq => rfl
  case unset => exact fun unset => absurd unset (settles.live grounded)
  case head =>
    intro state isState _
    rw [HashChain.head_snoc, settles.head state isState]

/-- A step leaves the journal alone, or an operation of the running service decided. -/
theorem Step.journal_cases {before after : World} {event : Event}
    (step : Step before event after) :
    after.ports.journal = before.ports.journal ∨
      ∃ service operation kind payload settle, before.service = some service ∧
        (event = .call operation ∨ event = .interrupt operation) ∧
        operation.plan service before.ports.journal = .ok (.decides kind payload settle) ∧
        after.ports.journal =
          before.ports.journal ++ [decisionEntry before.ports.journal kind payload] := by
  cases step with
  | @call service after before ports operation outcome planned performed =>
      cases outcome with
      | returned =>
          cases performed
          exact .inl rfl
      | decides kind payload settle =>
          obtain ⟨_, decided, performed⟩ := bind_ok.mp performed
          rw [decide_eq] at decided
          cases decided
          cases performed
          exact .inr ⟨service, operation, kind, payload, settle, rfl, .inl rfl, planned,
            materialize_journal _ _ _⟩
  | interrupted planned decided =>
      rw [decide_eq] at decided
      cases decided
      exact .inr ⟨_, _, _, _, _, rfl, .inr rfl, planned, rfl⟩
  | interruptedLate planned decided =>
      rw [decide_eq] at decided
      cases decided
      exact .inr ⟨_, _, _, _, _, rfl, .inr rfl, planned, materialize_journal _ _ _⟩
  | recover returned => exact .inl (recover_journal returned)
  | restore returned =>
      obtain ⟨_, _, returned⟩ := bind_ok.mp returned
      exact .inl (recover_journal returned)
  | restart returned => exact .inl (recover_journal returned)
  | replay replayed => exact .inl (replay_journal replayed)
  | admits | startup | refuse => exact .inl rfl

/-- The journal only grows. -/
theorem Step.journal_prefix {before after : World} {event : Event}
    (step : Step before event after) : before.ports.journal <+: after.ports.journal := by
  rcases step.journal_cases with same | ⟨_, _, _, _, _, _, _, _, grown⟩
  · rw [same]
  · rw [grown]
    exact List.prefix_append _ _

theorem Run.journal_prefix {start world : World}
    (run : Run allowed start world) : start.ports.journal <+: world.ports.journal := by
  induction run with
  | start => exact List.prefix_refl _
  | step _ _ step ih => exact ih.trans step.journal_prefix

theorem Run.chained {configuration : Configuration} {world : World}
    (run : Run allowed (.initial configuration) world) :
    HashChain.Chained decisionDigest world.ports.journal := by
  induction run with
  | start => exact .nil
  | step _ _ step ih =>
      rcases step.journal_cases with same | ⟨_, _, _, _, _, _, _, _, grown⟩
      · rw [same]
        exact ih
      · rw [grown]
        exact .snoc ih _

theorem consistent_of_agrees (history : Decided ports.journal rows authority)
    (agrees : Agrees service ports rows authority) : World.Consistent ⟨some service, ports⟩ := by
  refine ⟨rows, authority, history, agrees.whole ▸ List.prefix_refl _, ?_⟩
  intro other live
  cases live
  exact agrees

theorem performed_consistent {service after : Service} {before ports : Ports}
    {kind : Kind} {settle : String → Service → Service × Unit}
    (history : Decided before.journal rows authority)
    (agrees : Agrees service before rows authority)
    (planned : operation.plan service before.journal = .ok (.decides kind payload settle))
    (free : CollisionFree ports.journal)
    (performed : (Outcome.decides kind payload settle).perform service before =
      .ok ((), after, ports)) :
    World.Consistent ⟨some after, ports⟩ := by
  obtain ⟨rfl, rfl⟩ := perform_decides history agrees.whole free performed
  have settles := (Operation.plan_sound planned).2 (decisionEntry before.journal kind payload).id
  have extended := agrees.extended history settles
  obtain rfl := agrees.authority_eq
  exact consistent_of_agrees (history.decide planned) extended

/-- A crash after the decision leaves a world to recover. -/
theorem interrupted_consistent {before ports : Ports}
    {kind : Kind} {settle : String → Service → Service × Unit}
    {decision : String} (history : Decided before.journal rows authority)
    (agrees : Agrees service before rows authority)
    (planned : operation.plan service before.journal = .ok (.decides kind payload settle))
    (decided : before.decide kind payload = .ok (decision, ports)) :
    World.Consistent ⟨none, ports⟩ := by
  rw [decide_eq] at decided
  cases decided
  obtain rfl := agrees.authority_eq
  refine ⟨_, _, history.decide planned, ?_, ?_⟩
  · rw [← agrees.whole]
    exact List.prefix_append _ _
  · intro other live
    cases live

theorem Decided.distinct (history : Decided journal rows authority) (free : CollisionFree journal) :
    (journal.map HashChain.Entry.id).Nodup :=
  free.ids_nodup history.chained

/-- A fresh service agrees with an empty history. -/
theorem new_agrees {configuration : Configuration} (history : Decided ports.journal rows authority)
    (part : ports.rows <+: rows) (empty : ports.journal = []) :
    Agrees (.new configuration) ports rows authority := by
  rw [empty] at history
  obtain ⟨rfl, rfl⟩ := history.authority_initial
  refine ⟨List.prefix_nil.mp part, rfl, fun _ => empty, ?_⟩
  intro state isState
  cases isState

theorem recovered_consistent {service after : Service} {before ports : Ports}
    {recovered : Nat} (history : Decided before.journal rows authority)
    (part : before.rows <+: rows) (free : CollisionFree ports.journal)
    (known : service.bootstrapFingerprint = none ∨
      service.bootstrapFingerprint = authority.bootstrapFingerprint)
    (bare : before.journal = [] → Agrees service before rows authority)
    (returned : service.recover before = .ok (recovered, after, ports)) :
    World.Consistent ⟨some after, ports⟩ := by
  have journal := recover_journal returned
  rw [journal] at free
  have agrees := recover_agrees history part (history.distinct free) known bare returned
  exact consistent_of_agrees (journal ▸ history) agrees

/-- What one step keeps, as long as decisions do not collide. -/
theorem Step.consistent {before after : World} {event : Event} (step : Step before event after)
    (consistent : before.Consistent) (free : CollisionFree after.ports.journal) :
    after.Consistent := by
  obtain ⟨rows, authority, history, part, live⟩ := consistent
  cases step with
  | @call service after before ports operation outcome planned performed =>
      cases outcome with
      | returned value =>
          cases performed
          exact ⟨rows, authority, history, part, live⟩
      | decides kind payload settle =>
          exact performed_consistent history (live service rfl) planned free performed
  | @interrupted service before ports operation kind payload settle decision planned decided =>
      exact interrupted_consistent history (live service rfl) planned decided
  | @interruptedLate service before ports operation kind payload settle decision planned
      decided =>
      have performed : (Outcome.decides kind payload settle).perform service before =
          .ok ((), (settle decision (service.materializedAt decision)).1,
            ports.materialize decision (recordsOf decision kind.text payload)) :=
        bind_ok.mpr ⟨_, decided, rfl⟩
      obtain ⟨rows, authority, history, part, _⟩ :=
        performed_consistent history (live service rfl) planned free performed
      refine ⟨rows, authority, history, part, ?_⟩
      intro other impossible
      cases impossible
  | @recover service after before ports recovered returned =>
      have agrees := live service rfl
      have known := congrArg Authority.bootstrapFingerprint agrees.authority_eq
      exact recovered_consistent history part free (.inr known) (fun _ => agrees) returned
  | @restore service after before ports recovered genesis returned =>
      obtain ⟨_, _, returned⟩ := bind_ok.mp returned
      have agrees := live service rfl
      have known := congrArg Authority.bootstrapFingerprint agrees.authority_eq
      exact recovered_consistent history part free (.inr known) (fun _ => agrees) returned
  | restart returned =>
      exact recovered_consistent history part free (.inl rfl) (new_agrees history part) returned
  | @replay live before replay replayed =>
      have journal := replay_journal replayed
      have distinct := history.distinct (journal ▸ free)
      have whole : before.replay = _ := history.replay distinct part
      rw [whole] at replayed
      cases replayed
      refine ⟨rows, authority, history, List.prefix_refl _, ?_⟩
      intro other impossible
      cases impossible
  | @admits service after ports state genesis binding returned =>
      have agrees := live service rfl
      have known := congrArg Authority.bootstrapFingerprint agrees.authority_eq
      exact consistent_of_agrees history
        (admitStartup_agrees history part (history.distinct free) (.inr known) returned)
  | startup returned =>
      exact consistent_of_agrees history
        (admitStartup_agrees history part (history.distinct free) (.inl rfl) returned)
  | @refuse service ports state genesis binding denied =>
      have agrees := live service rfl
      refine consistent_of_agrees history ⟨agrees.whole, agrees.authority_eq, ?_, ?_⟩
      · intro unset
        cases unset
      · intro other isOther active
        cases isOther
        cases active

/-- Every world of a run is consistent. -/
theorem Run.consistent {start world : World}
    (run : Run allowed start world) (begin : start.Consistent)
    (free : CollisionFree world.ports.journal) : world.Consistent := by
  induction run with
  | start => exact begin
  | @step before after event run allows step ih =>
      obtain ⟨more, extended⟩ := step.journal_prefix
      exact step.consistent (ih (CollisionFree.left (extended ▸ free))) free

/-! Runs from an empty journal. -/

/-- A planned decision is a step of the run. -/
theorem Run.decided {start : World} {kind : Kind}
    {settle : String → Service → Service × Unit} (run : Run allowed start ⟨some service, ports⟩)
    (allows : allowed ⟨some service, ports⟩ (.call operation))
    (planned : operation.plan service ports.journal = .ok (.decides kind payload settle)) :
    ∃ after : Ports,
      after.journal = ports.journal ++ [decisionEntry ports.journal kind payload] ∧
      Run allowed start
        ⟨some (settle (decisionEntry ports.journal kind payload).id
          (service.materializedAt (decisionEntry ports.journal kind payload).id)).1, after⟩ := by
  have performed : (Outcome.decides kind payload settle).perform service ports = _ :=
    bind_ok.mpr ⟨_, decide_eq ports kind payload, rfl⟩
  exact ⟨_, materialize_journal _ _ _, run.step allows (.call planned performed)⟩

/-- The binding of the first decision. -/
def firstBinding (configuration : Configuration) (tenantId databaseInstanceId : String) :
    DeploymentTenantBinding :=
  (Service.new configuration).signBinding
    { tenantId, databaseInstanceId
      genesisDigest := genesisDigest ⟨tenantId, databaseInstanceId, 1⟩
      journalIdentity := configuration.journalIdentity
      journalEpoch := 1
      operatorKeyId := configuration.operatorKeyId
      predecessor := none
      signature := "" } none

/-- The authority of a bootstrapped tenant. -/
def BootstrapRequest.bootstrapped (request : BootstrapRequest) : Authority :=
  { Authority.initial with
    principal := some request.principalId
    credential := some request.credential
    freshness := 1
    bootstrapFingerprint := some request.tokenFingerprint }

theorem bootstrap_available
    {request : BootstrapRequest} (fresh : service.bootstrapFingerprint = none)
    (unbound : service.principal = none)
    (available : service.state.map CurrentDatabaseState.phase = some .bootstrapRequired)
    (peer : request.peer = request.expectedPeer) (unexpired : request.expired = false) :
    Operation.plan service journal (.bootstrap request) =
      .ok (.decides .bootstrap request.payload
        fun decision service => (request.settle decision service, ())) := by
  simp [Operation.plan, bootstrap, fresh, unbound, available, peer, unexpired, Except.map,
    Outcome.void]

omit [Hashlib] [PageReader] in
theorem materializedAt_phase (service : Service) (decision : String) :
    (service.materializedAt decision).state.map CurrentDatabaseState.phase =
      service.state.map CurrentDatabaseState.phase := by
  simp [Service.materializedAt, Service.replaceState, Function.comp_def]

/-- A fresh tenant can be initialized and bootstrapped. -/
theorem exists_bootstrapped (allowed : World → Event → Prop) (configuration : Configuration)
    (tenantId databaseInstanceId : String) (request : BootstrapRequest)
    (allowsFirst : ∀ world, allowed world (.call (.initializeDatabase tenantId databaseInstanceId)))
    (allowsSecond : ∀ world, allowed world (.call (.bootstrap request)))
    (peer : request.peer = request.expectedPeer) (unexpired : request.expired = false) :
    ∃ service ports decision, Run allowed (.initial configuration) ⟨some service, ports⟩ ∧
      service.toAuthority = request.bootstrapped ∧ service.configuration = configuration ∧
      service.genesis = some ⟨tenantId, databaseInstanceId, 1⟩ ∧
      service.binding = some (firstBinding configuration tenantId databaseInstanceId) ∧
      service.state = some ⟨tenantId, databaseInstanceId,
        bindingHead (firstBinding configuration tenantId databaseInstanceId), decision, 2,
        .active⟩ ∧
      ∃ first, ports.journal = [decisionEntry [] .initialization first,
        decisionEntry [decisionEntry [] .initialization first] .bootstrap request.payload] := by
  have begin : Run allowed (.initial configuration) ⟨some (.new configuration), .empty⟩ := .start
  obtain ⟨between, journal, initialized⟩ := begin.decided (allowsFirst _)
    (show Operation.plan (Service.new configuration) [] (.initializeDatabase tenantId
      databaseInstanceId) = .ok (.decides _ _ _) from rfl)
  obtain ⟨ports, extended, bootstrapped⟩ := initialized.decided (allowsSecond _)
    (bootstrap_available rfl rfl rfl peer unexpired)
  rw [journal] at extended
  exact ⟨_, ports, _, bootstrapped, rfl, rfl, rfl, rfl, rfl, _, extended⟩

/-- A deployment to run. -/
def trustedTenant : Configuration := ⟨"operator:1", utf8 "operator-secret", utf8 "broker-secret",
  "tenant-journal-v1"⟩

/-- A bootstrap that records the digest of its recovery secret. -/
def bootstrapWith (recoverySecret : String) : BootstrapRequest where
  tokenFingerprint := "token-1"
  peer := "uid:1000"
  expectedPeer := "uid:1000"
  principalId := "principal-1"
  credentialId := "credential-1"
  sessionId := "session-1"
  recoveryVerifier := (sha256 (utf8 recoverySecret)).text
  expiresAt := none
  now := none

end Chiplog.DeploymentTrust
