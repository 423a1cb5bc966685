import Chiplog.Data.KeyedLog
import Chiplog.Data.Numbered
import Chiplog.Projections.WorkspaceIssuance

namespace Chiplog.Projections

open Chiplog.Data WorkspaceJson
open Chiplog.DeploymentTrust.DecisionJournal (DecisionEntry decisionId)

/-! What the stores answer about an issued history.

The history is the list of issued states; the journal holds one payload for each of them, and
the rows of a channel are those of the first of its states. -/

section

variable {κ : Type} {tenant : String} {state : WorkspaceState κ}

/-- The states of a channel in the order of their issuance. -/
def channelStates (states : List (WorkspaceState κ)) (channel : String) : List (WorkspaceState κ) :=
  streamOf (·.channelId) states channel

theorem channelStates_append (states more : List (WorkspaceState κ)) (channel : String) :
    channelStates (states ++ more) channel =
      channelStates states channel ++ channelStates more channel :=
  List.filter_append ..

theorem channelStates_own (states : List (WorkspaceState κ)) (state : WorkspaceState κ) :
    channelStates (states ++ [state]) state.channelId =
      channelStates states state.channelId ++ [state] :=
  streamOf_append_self ..

theorem channelStates_other {channel : String}
    (states : List (WorkspaceState κ)) (other : state.channelId ≠ channel) :
    channelStates (states ++ [state]) channel = channelStates states channel :=
  streamOf_append_other states other

theorem mem_channelStates {states : List (WorkspaceState κ)}
    {channel : String} :
    state ∈ channelStates states channel ↔ state ∈ states ∧ state.channelId = channel :=
  mem_streamOf

/-- The dictionary of an issued history. -/
def Lists (states : List (WorkspaceState κ)) (dict : IssuedStates κ) : Prop :=
  dict.entries = states.map (fun state => ((state.channelId, state.sequence), state))

namespace Lists

variable {states : List (WorkspaceState κ)} {dict : IssuedStates κ}

theorem get? (lists : Lists states dict) {channel : String} {sequence : Nat}
    : dict.get? (channel, sequence) = some state ↔
      state ∈ states ∧ state.channelId = channel ∧ state.sequence = sequence := by
  rw [Dict.get?_eq_some_iff, lists, List.mem_map]
  constructor
  · intro ⟨found, member, same⟩
    simp only [Prod.mk.injEq] at same
    obtain ⟨⟨own, number⟩, rfl⟩ := same
    exact ⟨member, own, number⟩
  · intro ⟨member, own, number⟩
    exact ⟨state, member, by rw [own, number]⟩

theorem selected (lists : Lists states dict) (channel : String) :
    selectedStates dict channel = channelStates states channel := by
  rw [selectedStates, lists, List.filter_map, List.map_map]
  exact List.map_id _

theorem snoc (lists : Lists states dict)
    (fresh : (state.channelId, state.sequence) ∉ dict.entries.map Prod.fst) :
    Lists (states ++ [state]) (dict.set (state.channelId, state.sequence) state) := by
  rw [Lists, Dict.entries_set_absent fresh, lists, List.map_append, List.map_singleton]

end Lists

variable [WorkspaceJson κ]

theorem dump_inj {left right : WorkspaceState κ} (leftFormed : WorkspaceJson.WellFormed left)
    (rightFormed : WorkspaceJson.WellFormed right) (same : dump left = dump right) :
    left = right := by
  have read := validate_dump left leftFormed
  rw [same, validate_dump right rightFormed] at read
  exact (Option.some.inj read).symm

/-- The issuance of a state that is the next of its channel. -/
def nextIssuance (states : List (WorkspaceState κ)) (state : WorkspaceState κ) : Issuance κ :=
  ⟨(channelStates states state.channelId).length, state⟩

/-- A state that can follow a history. -/
structure Follows (tenant : String) (states : List (WorkspaceState κ)) (state : WorkspaceState κ) :
    Prop where
  wellFormed : WorkspaceJson.WellFormed state
  addressed : Addressed tenant (nextIssuance states state)
  bounded : Issuance.Bounded (channelStates states state.channelId).length

/-- The payload of an issued state. -/
def payload (state : WorkspaceState κ) : Bytes := dumpIssuance ⟨state.sequence - 1, state⟩

inductive Issued (tenant : String) : List (WorkspaceState κ) → Prop
  | nil : Issued tenant []
  | snoc {states : List (WorkspaceState κ)} {state : WorkspaceState κ} (issued : Issued tenant states)
      (follows : Follows tenant states state) : Issued tenant (states ++ [state])

theorem Follows.payload {states : List (WorkspaceState κ)}
    (follows : Follows tenant states state) :
    payload state = dumpIssuance (nextIssuance states state) := by
  have sequence := follows.addressed.2.2.1
  simp only [Projections.payload, nextIssuance] at sequence ⊢
  rw [sequence, Nat.add_sub_cancel]

namespace Issued

variable {states : List (WorkspaceState κ)}

theorem wellFormed (issued : Issued tenant states) :
    ∀ state ∈ states, WorkspaceJson.WellFormed state := by
  induction issued with
  | nil => exact fun _ member => absurd member List.not_mem_nil
  | snoc _ follows ih => exact List.forall_mem_append.mpr ⟨ih, by simpa using follows.wellFormed⟩

theorem owned (issued : Issued tenant states) : ∀ state ∈ states, state.tenantId = tenant := by
  induction issued with
  | nil => exact fun _ member => absurd member List.not_mem_nil
  | snoc _ follows ih =>
      refine List.forall_mem_append.mpr ⟨ih, ?_⟩
      intro state member
      rw [List.mem_singleton.mp member]
      exact follows.addressed.1

/-- Each channel is numbered on its own. -/
theorem numbered (issued : Issued tenant states) (channel : String) :
    Numbered (·.sequence) (channelStates states channel) := by
  induction issued with
  | nil => exact .nil
  | @snoc states state issued follows ih =>
      by_cases own : state.channelId = channel
      · subst own
        rw [channelStates_own]
        exact ih.snoc follows.addressed.2.2.1
      · rwa [channelStates_other states own]

end Issued

variable {states : List (WorkspaceState κ)}

/-! ### The scan -/

theorem Lists.latest {dict : IssuedStates κ}
    (lists : Lists states dict) (issued : Issued tenant states) (channel : String) :
    latestSequence dict channel = (channelStates states channel).length := by
  rw [latestSequence, lists, List.filter_map, List.map_map]
  exact (issued.numbered channel).max_eq

theorem scanEntry_next
    {scanned : Scanned κ} (follows : Follows tenant states state)
    (latest : (scanned.latest.get? state.channelId).getD 0 =
      (channelStates states state.channelId).length) :
    scanEntry tenant scanned (payload state) =
      some ⟨scanned.states.set (state.channelId, state.sequence) state,
        scanned.latest.set state.channelId state.sequence⟩ := by
  have addressed := follows.addressed
  have read := validateIssuance_dump (nextIssuance states state) follows.wellFormed follows.bounded
    addressed.2.2.1
  rw [scanEntry, follows.payload, read]
  simp [nextIssuance, guard] at addressed latest ⊢
  simp [addressed, latest]

/-- An issued history is scanned without an error. -/
theorem Issued.scanned (issued : Issued tenant states) :
    ∃ scanned : Scanned κ,
      (states.map payload).foldlM (scanEntry tenant) Scanned.empty = some scanned ∧
        Lists states scanned.states ∧
        ∀ channel, (scanned.latest.get? channel).getD 0 = (channelStates states channel).length := by
  induction issued with
  | nil => exact ⟨.empty, rfl, rfl, fun channel => rfl⟩
  | @snoc states state issued follows ih =>
      obtain ⟨scanned, folded, lists, latest⟩ := ih
      have step := scanEntry_next follows (latest state.channelId)
      have fresh : (state.channelId, state.sequence) ∉ scanned.states.entries.map Prod.fst := by
        intro member
        rw [lists, List.map_map] at member
        obtain ⟨old, inside, same⟩ := List.mem_map.mp member
        simp only [Function.comp_apply, Prod.mk.injEq] at same
        have bound := (issued.numbered state.channelId).le_length
          (mem_channelStates.mpr ⟨inside, same.1⟩)
        have next : state.sequence = (channelStates states state.channelId).length + 1 :=
          follows.addressed.2.2.1
        omega
      refine ⟨⟨scanned.states.set (state.channelId, state.sequence) state,
        scanned.latest.set state.channelId state.sequence⟩, ?_, lists.snoc fresh, ?_⟩
      · rw [List.map_append, List.map_singleton, List.foldlM_append, folded]
        simp [step]
      · intro channel
        rw [Dict.get?_set]
        by_cases own : channel = state.channelId
        · subst own
          rw [if_pos rfl, channelStates_own, List.length_append, List.length_singleton]
          exact follows.addressed.2.2.1
        · rw [if_neg own, channelStates_other states (fun same => own same.symm)]
          exact latest channel

/-- A journal that holds the payloads of a history. -/
structure Journals (tenant : String) (journal : List DecisionEntry)
    (states : List (WorkspaceState κ)) : Prop where
  issued : Issued tenant states
  bodies : journal.map (·.body) = states.map payload

namespace Journals

variable {journal : List DecisionEntry} {states : List (WorkspaceState κ)}

theorem scan (journals : Journals tenant journal states) : ∃ dict : IssuedStates κ,
    Lists states dict ∧ ∀ operation record,
      Projections.scan tenant journal operation record = .ok (HashChain.head journal, dict) := by
  obtain ⟨scanned, folded, lists, _⟩ := journals.issued.scanned
  refine ⟨scanned.states, lists, fun operation record => ?_⟩
  simp only [Projections.scan, journals.bodies, folded]

theorem loadIssued (journals : Journals tenant journal states) (member : state ∈ states) :
    Projections.loadIssued tenant journal state.channelId state.sequence = .ok state := by
  obtain ⟨dict, lists, scans⟩ := journals.scan
  have found := lists.get?.mpr ⟨member, rfl, rfl⟩
  simp only [Projections.loadIssued, scans, ok_bind, found]
  rfl

theorem verify (journals : Journals tenant journal states)
    (member : state ∈ states) : Projections.verify tenant journal state = .ok () := by
  simp only [Projections.verify, journals.loadIssued member, ok_bind]
  exact raiseIf_neg (fun differs => differs rfl)

variable [Hashlib]

theorem append (journals : Journals tenant journal states)
    (follows : Follows tenant states state) (head : Option String) :
    Journals tenant (journal ++ [⟨decisionId head (payload state), head, payload state⟩])
      (states ++ [state]) :=
  ⟨journals.issued.snoc follows, by
    rw [List.map_append, List.map_append, journals.bodies, List.map_singleton, List.map_singleton]⟩

/-- A selection that returns keeps the journal or issues the state. -/
theorem selectVerified_ok (journals : Journals tenant journal states)
    {after : List DecisionEntry} (wellFormed : WorkspaceJson.WellFormed state)
    (returned : selectVerified tenant journal state (state.sequence - 1) = .ok after) :
    (state ∈ states ∧ after = journal) ∨
      (Follows tenant states state ∧ Journals tenant after (states ++ [state])) := by
  obtain ⟨dict, lists, scans⟩ := journals.scan
  simp only [selectVerified, scans, ok_bind, bind_ok, raiseIf_ok, not_not] at returned
  obtain ⟨_, bounded, _, _, _, addressed, returned⟩ := returned
  simp only [selectIssuance] at returned
  split at returned
  · rename_i existing found
    obtain ⟨member, channel, sequence⟩ := lists.get?.mp found
    simp only [bind_ok, raiseIf_ok, not_not, pure_ok] at returned
    obtain ⟨_, same, kept⟩ := returned
    have equal := dump_inj (journals.issued.wellFormed existing member) wellFormed same
    exact .inl ⟨equal ▸ member, kept.symm⟩
  · simp only [bind_ok, raiseIf_ok, not_not, appendDecision, pure_ok, lists.latest journals.issued]
      at returned
    obtain ⟨_, latest, _, _, appended⟩ := returned
    have follows : Follows tenant states state := by
      refine ⟨wellFormed, ?_, ?_⟩
      · rw [nextIssuance, latest]
        exact addressed
      · rw [latest]
        exact bounded
    rw [← appended]
    exact .inr ⟨follows, journals.append follows _⟩

/-- The next state of a channel is selected, as far as its sequence can be issued. -/
theorem selectVerified_next (journals : Journals tenant journal states)
    (wellFormed : WorkspaceJson.WellFormed state)
    (addressed : Addressed tenant (nextIssuance states state)) :
    (Issuance.Bounded (state.sequence - 1) → ∃ after,
      selectVerified tenant journal state (state.sequence - 1) = .ok after ∧
        Journals tenant after (states ++ [state])) ∧
    (¬ Issuance.Bounded (state.sequence - 1) →
      selectVerified tenant journal state (state.sequence - 1) = .error .validation) := by
  obtain ⟨dict, lists, scans⟩ := journals.scan
  have next : state.sequence = (channelStates states state.channelId).length + 1 :=
    addressed.2.2.1
  have expected : state.sequence - 1 = (channelStates states state.channelId).length := by omega
  constructor
  · intro bounded
    rw [expected] at bounded ⊢
    have read := validateIssuance_dump (nextIssuance states state) wellFormed bounded next
    have fresh : dict.get? (state.channelId, state.sequence) = none := by
      rw [Option.eq_none_iff_forall_ne_some]
      intro old found
      obtain ⟨member, channel, sequence⟩ := lists.get?.mp found
      have bound := (journals.issued.numbered state.channelId).le_length
        (mem_channelStates.mpr ⟨member, channel⟩)
      omega
    have follows : Follows tenant states state := ⟨wellFormed, addressed, bounded⟩
    refine ⟨_, ?_, journals.append follows (HashChain.head journal)⟩
    rw [follows.payload]
    simp only [nextIssuance] at read addressed ⊢
    simp only [selectVerified, scans, ok_bind, raiseIf_neg (not_not.mpr bounded), read,
      Option.isNone_some, Bool.false_eq_true, not_false_eq_true, raiseIf_neg,
      raiseIf_neg (not_not.mpr addressed), selectIssuance, fresh, lists.latest journals.issued,
      appendDecision, ne_eq, not_true_eq_false]
    rfl
  · intro unbounded
    simp only [selectVerified, scans, ok_bind, raiseIf_pos unbounded]
    rfl

end Journals

/-! ### The cache -/

section Cache

variable [Hashlib] {states : List (WorkspaceState κ)} {cache : List CacheRow} {channel : String}
  {saved rest : List (WorkspaceState κ)} {state : WorkspaceState κ}

/-- The cached states of a channel are the first of its issued ones. -/
structure Cached (tenant : String) (states : List (WorkspaceState κ)) (cache : List CacheRow)
    (channel : String) (saved rest : List (WorkspaceState κ)) : Prop where
  issued : Issued tenant states
  stream : channelStates states channel = saved ++ rest
  rows : channelRows cache tenant channel = saved.map cacheRow

theorem channelRows_other {other : String} (apart : state.channelId ≠ other) :
    channelRows (cache ++ [cacheRow state]) tenant other = channelRows cache tenant other := by
  simp [channelRows, cacheRow, apart]

namespace Cached

theorem numbered (cached : Cached tenant states cache channel saved rest) :
    Numbered (·.sequence) (saved ++ rest) :=
  cached.stream ▸ cached.issued.numbered channel

theorem issuedState (cached : Cached tenant states cache channel saved rest)
    (member : state ∈ saved ++ rest) :
    state ∈ states ∧ WorkspaceJson.WellFormed state ∧ state.tenantId = tenant ∧
      state.channelId = channel := by
  rw [← cached.stream] at member
  obtain ⟨inside, own⟩ := mem_channelStates.mp member
  exact ⟨inside, cached.issued.wellFormed state inside, cached.issued.owned state inside, own⟩

theorem seqs (cached : Cached tenant states cache channel saved rest) :
    (channelRows cache tenant channel).map (·.seq) = List.range' 1 saved.length := by
  rw [cached.rows, List.map_map]
  exact cached.numbered.left

theorem append (cached : Cached tenant states cache channel saved (state :: rest)) :
    Cached tenant states (cache ++ [cacheRow state]) channel (saved ++ [state]) rest := by
  obtain ⟨_, _, tenant, own⟩ := cached.issuedState (List.mem_append_right _ List.mem_cons_self)
  refine ⟨cached.issued, by rw [cached.stream]; simp, ?_⟩
  have rows := cached.rows
  simp only [channelRows] at rows ⊢
  rw [List.filter_append, rows, List.map_append]
  simp [cacheRow, tenant, own]

/-- The first state that is missing can be saved. -/
theorem save_next (cached : Cached tenant states cache channel saved (state :: rest)) :
    save cache state (state.sequence - 1) = .ok (cache ++ [cacheRow state]) := by
  obtain ⟨_, _, tenant, own⟩ := cached.issuedState (List.mem_append_right _ List.mem_cons_self)
  have next := cached.numbered.next
  have fresh : ¬ ∃ row ∈ channelRows cache state.tenantId state.channelId,
      row.seq = state.sequence := by
    intro ⟨row, member, same⟩
    have inside := List.mem_map_of_mem (f := CacheRow.seq) member
    rw [tenant, own, cached.seqs, List.mem_range'_1] at inside
    omega
  have current : ¬ (((channelRows cache state.tenantId state.channelId).map (·.seq)).foldl max 0 ≠
      state.sequence - 1 ∨ state.sequence ≠
        ((channelRows cache state.tenantId state.channelId).map (·.seq)).foldl max 0 + 1) := by
    rw [tenant, own, cached.seqs, foldl_max_range']
    omega
  simp only [save, raiseIf_neg current, raiseIf_neg fresh, ok_bind]
  rfl

/-- A save that returns adds the first state that is missing. -/
theorem save_ok (cached : Cached tenant states cache channel saved rest) {after : List CacheRow}
    (member : state ∈ saved ++ rest)
    (returned : save cache state (state.sequence - 1) = .ok after) :
    after = cache ++ [cacheRow state] ∧ ∃ others, rest = state :: others := by
  obtain ⟨_, _, tenant, own⟩ := cached.issuedState member
  simp only [save, bind_ok, raiseIf_ok, not_or, not_not, pure_ok] at returned
  obtain ⟨_, ⟨_, next⟩, _, _, appended⟩ := returned
  rw [tenant, own, cached.seqs, foldl_max_range'] at next
  exact ⟨appended.symm, cached.numbered.rest_of_next member next⟩

theorem load (cached : Cached tenant states cache channel saved rest) (member : state ∈ saved) :
    load cache tenant channel state.sequence = .ok state := by
  obtain ⟨_, wellFormed, owner, own⟩ := cached.issuedState (List.mem_append_left rest member)
  have found : (channelRows cache tenant channel).find? (fun row => row.seq = state.sequence) =
      some (cacheRow state) := by
    rw [cached.rows, List.find?_map]
    exact congrArg (Option.map cacheRow) (cached.numbered.left.find? member)
  have read := validate_dump state wellFormed
  simp only [Projections.load, found]
  simp [cacheRow, guard, read, owner, own]

/-- The missing states are saved one after the other; a prefix of them is saved alike. -/
theorem materialize {missing : List (WorkspaceState κ)}
    (cached : Cached tenant states cache channel saved (missing ++ rest)) :
    ∃ after, materialize tenant channel cache missing = .ok after ∧
      Cached tenant states after channel (saved ++ missing) rest ∧
      ∀ other, other ≠ channel → channelRows after tenant other = channelRows cache tenant other := by
  simp only [Projections.materialize]
  suffices folded : ∃ after,
      missing.foldlM (fun cache state => save cache state (state.sequence - 1)) cache = .ok after ∧
        Cached tenant states after channel (saved ++ missing) rest ∧
        ∀ other, other ≠ channel →
          channelRows after tenant other = channelRows cache tenant other by
    obtain ⟨after, returned, kept⟩ := folded
    exact ⟨after, by rw [returned]; rfl, kept⟩
  induction missing generalizing cache saved with
  | nil => exact ⟨cache, rfl, by simpa using cached, fun _ _ => rfl⟩
  | cons state missing ih =>
      have own := (cached.issuedState (List.mem_append_right _ List.mem_cons_self)).2.2.2
      obtain ⟨after, returned, whole, others⟩ := ih cached.append
      refine ⟨after, ?_, by simpa using whole, ?_⟩
      · rw [List.foldlM_cons, cached.save_next, ok_bind]
        exact returned
      · intro other apart
        rw [others other apart, channelRows_other (fun same => apart (same.symm.trans own))]

end Cached

/-- The checks of a recovery pass. -/
theorem checkCache_cached {journal : List DecisionEntry}
    (journals : Journals tenant journal states)
    (cached : Cached tenant states cache channel saved rest) :
    checkCache tenant journal cache channel = .ok (saved ++ rest, saved.length) := by
  obtain ⟨dict, lists, scans⟩ := journals.scan
  have each : forEach (checkCached tenant cache dict channel) (List.range' 1 saved.length) =
      .ok () := by
    rw [forEach_ok]
    intro sequence inside
    have numbers : saved.map (·.sequence) = List.range' 1 saved.length := cached.numbered.left
    rw [← numbers] at inside
    obtain ⟨state, member, rfl⟩ := List.mem_map.mp inside
    obtain ⟨known, _, _, own⟩ := cached.issuedState (List.mem_append_left rest member)
    have found := lists.get?.mpr ⟨known, own, rfl⟩
    simp only [checkCached, cached.load member, ok_bind, found]
    exact raiseIf_neg (fun differs => differs rfl)
  simp only [checkCache, scans, ok_bind, cached.seqs, insertionSort_range', List.length_range',
    each, lists.selected, cached.stream]
  rw [raiseIf_neg (fun differs => differs rfl), ok_bind]
  rfl

end Cache

end

end Chiplog.Projections
