import Chiplog.Data.Sha256
import Chiplog.Data.Traces
import Chiplog.Projections.WorkspaceAgreement

namespace Chiplog.Projections

open Chiplog.Data WorkspaceJson
open Chiplog.DeploymentTrust.DecisionJournal (DecisionEntry decisionId)

/-! Interleaved refreshes, crashes and recoveries.

A refresh builds its state, issues it and saves it; between any two of these another refresh or
a recovery may step, and the process may be gone. -/

inductive Stage where
  | built
  | selected
deriving DecidableEq

/-- A refresh that has built its state. -/
structure Refresh (κ : Type) where
  state : WorkspaceState κ
  stage : Stage

structure Workspaces (κ : Type) where
  journal : List DecisionEntry
  cache : List CacheRow
  refreshes : List (Refresh κ)

def Workspaces.empty (κ : Type) : Workspaces κ := ⟨[], [], []⟩

inductive WorkspaceEvent where
  | built (channel : String)
  | selected (channel : String)
  | saved (channel : String)
  /-- the refresh raised, or its process was gone -/
  | stopped (channel : String)
  | recovered (channel : String)
  /-- the process was gone after some saves of the recovery -/
  | interrupted (channel : String) (count : Nat)
deriving DecidableEq

def WorkspaceEvent.channel : WorkspaceEvent → String
  | .built channel | .selected channel | .saved channel | .stopped channel | .recovered channel
  | .interrupted channel _ => channel

section

variable {κ : Type} [DecidableEq κ] [WorkspaceJson κ] [Hashlib] {tenant : String}

inductive WorkspaceStep (tenant : String) :
    Workspaces κ → WorkspaceEvent → Workspaces κ → Prop
  | built {world : Workspaces κ} {context : ReadContext} {previous : Option (WorkspaceState κ)}
      {state : WorkspaceState κ}
      (checked : checkPrevious tenant world.journal world.cache context previous = .ok ())
      (builds : Builds context previous state) :
      WorkspaceStep tenant world (.built state.channelId)
        { world with refreshes := world.refreshes ++ [⟨state, .built⟩] }
  | selected {world : Workspaces κ} {state : WorkspaceState κ} {front rest : List (Refresh κ)}
      {journal : List DecisionEntry}
      (pending : world.refreshes = front ++ ⟨state, .built⟩ :: rest)
      (returned : selectVerified tenant world.journal state (state.sequence - 1) = .ok journal) :
      WorkspaceStep tenant world (.selected state.channelId)
        { world with
          journal := journal
          refreshes := front ++ ⟨state, .selected⟩ :: rest }
  | saved {world : Workspaces κ} {state : WorkspaceState κ} {front rest : List (Refresh κ)}
      {cache : List CacheRow}
      (pending : world.refreshes = front ++ ⟨state, .selected⟩ :: rest)
      (returned : save world.cache state (state.sequence - 1) = .ok cache) :
      WorkspaceStep tenant world (.saved state.channelId)
        { world with
          cache := cache
          refreshes := front ++ rest }
  | stopped {world : Workspaces κ} {refresh : Refresh κ} {front rest : List (Refresh κ)}
      (pending : world.refreshes = front ++ refresh :: rest) :
      WorkspaceStep tenant world (.stopped refresh.state.channelId)
        { world with refreshes := front ++ rest }
  | recovered {world : Workspaces κ} {channel : String} {last : Option (WorkspaceState κ)}
      {cache : List CacheRow}
      (returned : recoverCache tenant world.journal world.cache channel = .ok (last, cache)) :
      WorkspaceStep tenant world (.recovered channel) { world with cache := cache }
  | interrupted {world : Workspaces κ} {channel : String} {count : Nat} {cache : List CacheRow}
      (returned : interruptRecovery (κ := κ) tenant world.journal world.cache channel count =
        .ok cache) :
      WorkspaceStep tenant world (.interrupted channel count) { world with cache := cache }

/-- The stores of a reached world hold one issued history. -/
structure Sound (tenant : String) (states : List (WorkspaceState κ)) (world : Workspaces κ) :
    Prop where
  journals : Journals tenant world.journal states
  cached : ∀ channel, ∃ saved rest, Cached tenant states world.cache channel saved rest
  refreshes : ∀ refresh ∈ world.refreshes, WorkspaceJson.WellFormed refresh.state ∧
    (refresh.stage = .selected → refresh.state ∈ states)

omit [DecidableEq κ] in
theorem Cached.grow {states more : List (WorkspaceState κ)} {cache : List CacheRow}
    {channel : String} {saved rest : List (WorkspaceState κ)}
    (cached : Cached tenant states cache channel saved rest)
    (issued : Issued tenant (states ++ more)) :
    Cached tenant (states ++ more) cache channel saved (rest ++ channelStates more channel) :=
  ⟨issued, by rw [channelStates_append, cached.stream, List.append_assoc], cached.rows⟩

omit [DecidableEq κ] in
theorem Cached.sameRows {states : List (WorkspaceState κ)} {cache after : List CacheRow}
    {channel : String} {saved rest : List (WorkspaceState κ)}
    (cached : Cached tenant states cache channel saved rest)
    (same : channelRows after tenant channel = channelRows cache tenant channel) :
    Cached tenant states after channel saved rest :=
  ⟨cached.issued, cached.stream, same.trans cached.rows⟩

namespace Sound

variable {states : List (WorkspaceState κ)} {world : Workspaces κ}

omit [DecidableEq κ]

theorem empty : Sound tenant [] (Workspaces.empty κ) :=
  ⟨⟨.nil, rfl⟩, fun _ => ⟨[], [], .nil, rfl, rfl⟩, nofun⟩

/-- A recovery leaves the whole channel in the cache. -/
theorem recover (sound : Sound tenant states world) (channel : String) :
    ∃ after, recoverCache tenant world.journal world.cache channel =
        .ok ((channelStates states channel).getLast?, after) ∧
      Cached tenant states after channel (channelStates states channel) [] ∧
      ∀ other, other ≠ channel →
        channelRows after tenant other = channelRows world.cache tenant other := by
  obtain ⟨saved, rest, cached⟩ := sound.cached channel
  have missing : Cached tenant states world.cache channel saved (rest ++ []) := by
    rwa [List.append_nil]
  obtain ⟨after, returned, whole, others⟩ := missing.materialize
  refine ⟨after, ?_, cached.stream ▸ whole, others⟩
  simp only [recoverCache, checkCache_cached sound.journals cached, ok_bind, List.drop_left,
    returned, cached.stream]
  rfl

theorem interrupt (sound : Sound tenant states world) (channel : String) (count : Nat) :
    ∃ after saved rest, interruptRecovery (κ := κ) tenant world.journal world.cache channel count =
        .ok after ∧ Cached tenant states after channel saved rest ∧
      ∀ other, other ≠ channel →
        channelRows after tenant other = channelRows world.cache tenant other := by
  obtain ⟨saved, rest, cached⟩ := sound.cached channel
  have missing : Cached tenant states world.cache channel saved (rest.take count ++ rest.drop count) := by
    rwa [List.take_append_drop]
  obtain ⟨after, returned, more, others⟩ := missing.materialize
  refine ⟨after, _, _, ?_, more, others⟩
  simp only [interruptRecovery, checkCache_cached sound.journals cached, ok_bind, List.drop_left]
  exact returned

/-- A cache that agrees on one channel and is unchanged on the others. -/
theorem recache (sound : Sound tenant states world) {channel : String} {after : List CacheRow}
    {saved rest : List (WorkspaceState κ)} {refreshes : List (Refresh κ)}
    (cached : Cached tenant states after channel saved rest)
    (others : ∀ other, other ≠ channel →
      channelRows after tenant other = channelRows world.cache tenant other)
    (kept : ∀ refresh ∈ refreshes, refresh ∈ world.refreshes) :
    Sound tenant states ⟨world.journal, after, refreshes⟩ := by
  refine ⟨sound.journals, ?_, fun refresh member => sound.refreshes refresh (kept refresh member)⟩
  intro other
  by_cases same : other = channel
  · exact ⟨saved, rest, same ▸ cached⟩
  · obtain ⟨front, back, own⟩ := sound.cached other
    exact ⟨front, back, own.sameRows (others other same)⟩

/-- What a history and a cache become while other channels step. -/
structure Quiet (channel : String) (states grown : List (WorkspaceState κ))
    (cache after : List CacheRow) (tenant : String) : Prop where
  stream : channelStates grown channel = channelStates states channel
  rows : channelRows after tenant channel = channelRows cache tenant channel

theorem selected {state : WorkspaceState κ} {front rest : List (Refresh κ)}
    {journal : List DecisionEntry} (sound : Sound tenant states world)
    (pending : world.refreshes = front ++ ⟨state, .built⟩ :: rest)
    (returned : selectVerified tenant world.journal state (state.sequence - 1) = .ok journal) :
    ∃ more, Sound tenant (states ++ more)
        ⟨journal, world.cache, front ++ ⟨state, .selected⟩ :: rest⟩ ∧
      (∀ other ∈ more, other.channelId = state.channelId) ∧ state ∈ states ++ more := by
  have formed := (sound.refreshes ⟨state, .built⟩ (by simp [pending])).1
  have refreshes (more : List (WorkspaceState κ)) (issued : state ∈ states ++ more) :
      ∀ refresh ∈ front ++ ⟨state, .selected⟩ :: rest, WorkspaceJson.WellFormed refresh.state ∧
        (refresh.stage = .selected → refresh.state ∈ states ++ more) := by
    intro refresh member
    rcases List.mem_append.mp member with before | member
    · obtain ⟨own, known⟩ := sound.refreshes refresh (by simp [pending, before])
      exact ⟨own, fun stage => List.mem_append_left _ (known stage)⟩
    · rcases List.mem_cons.mp member with rfl | after
      · exact ⟨formed, fun _ => issued⟩
      · obtain ⟨own, known⟩ := sound.refreshes refresh (by simp [pending, after])
        exact ⟨own, fun stage => List.mem_append_left _ (known stage)⟩
  rcases sound.journals.selectVerified_ok formed returned with ⟨known, rfl⟩ | ⟨_, journals⟩
  · refine ⟨[], ?_, nofun, by simpa using known⟩
    have pending := refreshes [] (by simpa using known)
    rw [List.append_nil] at pending ⊢
    exact ⟨sound.journals, sound.cached, pending⟩
  · refine ⟨[state], ⟨journals, ?_, refreshes [state] (by simp)⟩, by simp, by simp⟩
    intro channel
    obtain ⟨saved, rest, cached⟩ := sound.cached channel
    exact ⟨saved, _, cached.grow journals.issued⟩

theorem saved {state : WorkspaceState κ} {front rest : List (Refresh κ)} {cache : List CacheRow}
    (sound : Sound tenant states world)
    (pending : world.refreshes = front ++ ⟨state, .selected⟩ :: rest)
    (returned : save world.cache state (state.sequence - 1) = .ok cache) :
    Sound tenant states ⟨world.journal, cache, front ++ rest⟩ ∧
      ∀ other, other ≠ state.channelId →
        channelRows cache tenant other = channelRows world.cache tenant other := by
  have issued := (sound.refreshes ⟨state, .selected⟩ (by simp [pending])).2 rfl
  obtain ⟨done, missing, cached⟩ := sound.cached state.channelId
  have member : state ∈ done ++ missing :=
    cached.stream ▸ mem_channelStates.mpr ⟨issued, rfl⟩
  obtain ⟨rfl, others, rfl⟩ := cached.save_ok member returned
  have apart : ∀ other, other ≠ state.channelId →
      channelRows (world.cache ++ [cacheRow state]) tenant other =
        channelRows world.cache tenant other :=
    fun other different => channelRows_other different.symm
  refine ⟨sound.recache cached.append apart ?_, apart⟩
  intro refresh inside
  rcases List.mem_append.mp inside with before | after
  · simp [pending, before]
  · simp [pending, after]

variable [DecidableEq κ]

/-- A step issues at most a state of its channel and touches no other channel. -/
theorem step {event : WorkspaceEvent} {next : Workspaces κ} (sound : Sound tenant states world)
    (step : WorkspaceStep tenant world event next) :
    ∃ more, Sound tenant (states ++ more) next ∧
      ∀ channel, channel ≠ event.channel →
        Quiet channel states (states ++ more) world.cache next.cache tenant := by
  have still {after : Workspaces κ} {own : String} (same : Sound tenant states after)
      (rows : ∀ channel, channel ≠ own →
        channelRows after.cache tenant channel = channelRows world.cache tenant channel) :
      ∃ more, Sound tenant (states ++ more) after ∧ ∀ channel, channel ≠ own →
        Quiet channel states (states ++ more) world.cache after.cache tenant := by
    refine ⟨[], by rwa [List.append_nil], fun channel apart => ⟨?_, rows channel apart⟩⟩
    rw [List.append_nil]
  cases step with
  | @built context previous state checked builds =>
      refine still ⟨sound.journals, sound.cached, ?_⟩ (fun _ _ => rfl)
      intro refresh member
      rcases List.mem_append.mp member with known | new
      · exact sound.refreshes refresh known
      · rw [List.mem_singleton.mp new]
        exact ⟨builds.wellFormed, nofun⟩
  | @selected state front rest journal pending returned =>
      obtain ⟨more, next, own, _⟩ := sound.selected pending returned
      refine ⟨more, next, fun channel apart => ⟨?_, rfl⟩⟩
      have none : channelStates more channel = [] := by
        rw [channelStates, streamOf, List.filter_eq_nil_iff]
        intro other member same
        exact apart ((of_decide_eq_true same).symm.trans (own other member))
      rw [channelStates_append, none, List.append_nil]
  | saved pending returned =>
      obtain ⟨next, rows⟩ := sound.saved pending returned
      exact still next rows
  | @stopped refresh front rest pending =>
      refine still ⟨sound.journals, sound.cached, ?_⟩ (fun _ _ => rfl)
      intro other member
      rcases List.mem_append.mp member with before | after
      · exact sound.refreshes other (by simp [pending, before])
      · exact sound.refreshes other (by simp [pending, after])
  | @recovered channel last cache returned =>
      obtain ⟨after, recovers, cached, rows⟩ := sound.recover channel
      rw [recovers] at returned
      obtain ⟨_, rfl⟩ := Prod.mk.inj (Except.ok.inj returned)
      exact still (sound.recache cached rows (fun _ member => member)) rows
  | @interrupted channel count cache returned =>
      obtain ⟨after, saved, rest, recovers, cached, rows⟩ := sound.interrupt channel count
      rw [recovers] at returned
      obtain rfl := Except.ok.inj returned
      exact still (sound.recache cached rows (fun _ member => member)) rows

/-- A run grows the history; a channel that none of its steps names stays as it is. -/
theorem run {events : List WorkspaceEvent} {last : Workspaces κ}
    (sound : Sound tenant states world)
    (trace : Trace (WorkspaceStep tenant) world events last) :
    ∃ more, Sound tenant (states ++ more) last ∧
      ∀ channel, (∀ event ∈ events, event.channel ≠ channel) →
        Quiet channel states (states ++ more) world.cache last.cache tenant := by
  induction trace generalizing states with
  | nil world => exact ⟨[], by rwa [List.append_nil], fun _ _ => ⟨by rw [List.append_nil], rfl⟩⟩
  | cons head _ ih =>
      obtain ⟨more, next, first⟩ := sound.step head
      obtain ⟨rest, last, others⟩ := ih next
      rw [List.append_assoc] at last others
      refine ⟨more ++ rest, last, fun channel quiet => ?_⟩
      obtain ⟨own, later⟩ := List.forall_mem_cons.mp quiet
      have before := first channel own.symm
      have after := others channel later
      exact ⟨after.stream.trans before.stream, after.rows.trans before.rows⟩

end Sound

/-! ### After a recovery -/

section Recovered

variable {states : List (WorkspaceState κ)} {world : Workspaces κ} {context : ReadContext} {state : WorkspaceState κ}

/-- The last state of a channel that is cached as a whole is a predecessor. -/
theorem checkPrevious_last (sound : Sound tenant states world)
    (whole : Cached tenant states world.cache context.channelId.text
      (channelStates states context.channelId.text) [])
    (owner : context.tenantId.text = tenant) :
    checkPrevious tenant world.journal world.cache context
      (channelStates states context.channelId.text).getLast? = .ok () := by
  cases last : (channelStates states context.channelId.text).getLast? with
  | none => rfl
  | some previous =>
      have member := List.mem_of_getLast? last
      obtain ⟨issued, _, tenantId, channelId⟩ := whole.issuedState (List.mem_append_left [] member)
      have own : ¬ (previous.tenantId, previous.channelId) ≠
          (context.tenantId.text, context.channelId.text) := by
        rw [tenantId, channelId, owner]
        exact fun differs => differs rfl
      have loaded : load world.cache previous.tenantId previous.channelId previous.sequence =
          .ok previous := by
        rw [tenantId, channelId]
        exact whole.load member
      simp only [checkPrevious, raiseIf_neg own, ok_bind, loaded]
      rw [raiseIf_neg (fun differs => differs rfl), ok_bind]
      exact sound.journals.verify issued

omit [DecidableEq κ] [Hashlib] in
/-- What a refresh builds on the last state of its channel is the next to be issued. -/
theorem Builds.addressed (issued : Issued tenant states)
    (owner : context.tenantId.text = tenant)
    (builds : Builds context (channelStates states context.channelId.text).getLast? state) :
    Addressed tenant (nextIssuance states state) := by
  have numbers := issued.numbered context.channelId.text
  have length : ((channelStates states context.channelId.text).getLast?.map (·.sequence)).getD 0 =
      (channelStates states context.channelId.text).length := by
    cases parts : channelStates states context.channelId.text using List.reverseRecOn with
    | nil => rfl
    | append_singleton front last =>
        rw [parts] at numbers
        simp [numbers.next]
  have channel := builds.channel
  refine ⟨builds.tenant.trans owner, ?_, ?_, ?_⟩
  · simp only [nextIssuance, channel]
    exact context.channelId.nonempty
  · simp only [nextIssuance, channel, builds.sequence, length]
  · intro screen member
    obtain ⟨own, same, channelId⟩ := builds.screens screen member
    exact ⟨own.trans owner, same.trans owner, channelId.trans channel.symm⟩

end Recovered

/-- In every run of refreshes that may stop anywhere and of recoveries: the journal is scanned,
holds each state of a channel once, numbered from one, and is never changed; the cache of a
channel holds its first states with their bytes; a recovery returns and caches them all, and
then a refresh from its state is issued and saved, whatever the other channels do meanwhile,
as far as a sequence can be issued. -/
theorem workspace_issuance {events : List WorkspaceEvent} {world : Workspaces κ}
    (trace : Trace (WorkspaceStep tenant) (Workspaces.empty κ) events world) :
    ∃ states : IssuedStates κ,
      (∀ operation record, scan tenant world.journal operation record =
        .ok (HashChain.head world.journal, states)) ∧
      world.journal.map (·.body) = states.values.map payload ∧
      (∀ entry ∈ states.entries, entry.1 = (entry.2.channelId, entry.2.sequence)) ∧
      (∀ channel, (selectedStates states channel).map (·.sequence) =
        List.range' 1 (selectedStates states channel).length) ∧
      (∀ more later, Trace (WorkspaceStep tenant) world more later →
        ∃ grown : IssuedStates κ, states.entries <+: grown.entries ∧
          ∀ operation record, scan tenant later.journal operation record =
            .ok (HashChain.head later.journal, grown)) ∧
      (∀ channel, ∃ count, channelRows world.cache tenant channel =
        ((selectedStates states channel).take count).map cacheRow) ∧
      ∀ channel, ∃ cache,
        recoverCache tenant world.journal world.cache channel =
          .ok ((selectedStates states channel).getLast?, cache) ∧
        channelRows cache tenant channel = (selectedStates states channel).map cacheRow ∧
        ∀ (context : ReadContext) (state : WorkspaceState κ), context.tenantId.text = tenant →
          context.channelId.text = channel →
          Builds context (selectedStates states channel).getLast? state →
          ∀ more ready, Trace (WorkspaceStep tenant) { world with cache := cache } more ready →
            (∀ event ∈ more, event.channel ≠ channel) →
            checkPrevious tenant ready.journal ready.cache context
              (selectedStates states channel).getLast? = .ok () ∧
            (¬ Issuance.Bounded (state.sequence - 1) →
              selectVerified tenant ready.journal state (state.sequence - 1) =
                .error .validation) ∧
            (Issuance.Bounded (state.sequence - 1) → ∃ journal,
              selectVerified tenant ready.journal state (state.sequence - 1) = .ok journal ∧
              ∀ others done,
                Trace (WorkspaceStep tenant) { ready with journal := journal } others done →
                (∀ event ∈ others, event.channel ≠ channel) →
                ∃ after, save done.cache state (state.sequence - 1) = .ok after) := by
  obtain ⟨states, sound, _⟩ := Sound.empty.run trace
  rw [List.nil_append] at sound
  obtain ⟨dict, lists, scans⟩ := sound.journals.scan
  refine ⟨dict, scans, ?_, ?_, ?_, ?_, ?_, ?_⟩
  · rw [sound.journals.bodies, Dict.values, lists, List.map_map, List.map_map]
    rfl
  · intro entry member
    rw [lists] at member
    obtain ⟨state, _, rfl⟩ := List.mem_map.mp member
    rfl
  · intro channel
    rw [lists.selected]
    exact sound.journals.issued.numbered channel
  · intro more later rest
    obtain ⟨new, grown, _⟩ := sound.run rest
    obtain ⟨after, listsAfter, scansAfter⟩ := grown.journals.scan
    refine ⟨after, ?_, scansAfter⟩
    rw [lists, listsAfter, List.map_append]
    exact List.prefix_append _ _
  · intro channel
    obtain ⟨saved, rest, cached⟩ := sound.cached channel
    refine ⟨saved.length, ?_⟩
    rw [lists.selected, cached.stream, List.take_left, cached.rows]
  · intro channel
    obtain ⟨cache, returned, whole, rows⟩ := sound.recover channel
    rw [lists.selected]
    refine ⟨cache, returned, whole.rows, ?_⟩
    intro context state owner named builds more ready quiet apart
    have recovered : Sound tenant states { world with cache := cache } :=
      sound.recache whole rows (fun _ member => member)
    obtain ⟨new, readySound, kept⟩ := recovered.run quiet
    subst named
    have still := kept context.channelId.text apart
    have wholeReady : Cached tenant (states ++ new) ready.cache context.channelId.text
        (channelStates (states ++ new) context.channelId.text) [] := by
      refine ⟨readySound.journals.issued, by simp, ?_⟩
      rw [still.rows, still.stream, whole.rows]
    rw [← still.stream] at builds ⊢
    have addressed := builds.addressed readySound.journals.issued owner
    obtain ⟨selects, refuses⟩ :=
      readySound.journals.selectVerified_next builds.wellFormed addressed
    refine ⟨checkPrevious_last readySound wholeReady owner, refuses, fun bounded => ?_⟩
    obtain ⟨journal, selected, issued⟩ := selects bounded
    refine ⟨journal, selected, ?_⟩
    intro others done rest silent
    have chosen : Sound tenant ((states ++ new) ++ [state]) { ready with journal := journal } := by
      refine ⟨issued, ?_, ?_⟩
      · intro other
        obtain ⟨saved, back, cached⟩ := readySound.cached other
        exact ⟨saved, _, cached.grow issued.issued⟩
      · intro refresh member
        obtain ⟨formed, known⟩ := readySound.refreshes refresh member
        exact ⟨formed, fun stage => List.mem_append_left _ (known stage)⟩
    obtain ⟨last, doneSound, keptAfter⟩ := chosen.run rest
    have silence := keptAfter context.channelId.text silent
    have own := channelStates_own (states ++ new) state
    rw [builds.channel] at own
    have next : Cached tenant (((states ++ new) ++ [state]) ++ last) done.cache
        context.channelId.text (channelStates (states ++ new) context.channelId.text) [state] := by
      refine ⟨doneSound.journals.issued, by rw [silence.stream, own], ?_⟩
      rw [silence.rows]
      exact wholeReady.rows
    exact ⟨_, next.save_next⟩

end

/-! A first refresh that is gone between its two stores. -/

def sampleState (sequence : Nat) : WorkspaceState Unit :=
  ⟨"tenant", "channel", sequence, [⟨"tenant", "tenant", "channel", ()⟩], ()⟩

def sampleContext : String :=
  "\x7b\"tenant_id\":\"tenant\",\"database_instance_id\":\"database\"," ++
  "\"principal_id\":\"principal\",\"principal_contour_head\":\"contour\"," ++
  "\"channel_id\":\"channel\",\"endpoint_binding_head\":\"endpoint\",\"broker_epoch\":1," ++
  "\"owner_id\":\"owner\",\"generation_id\":\"generation\",\"session_id\":\"session\"," ++
  "\"snapshot_id\":\"snapshot\",\"snapshot_frontier\":0,\"verified_snapshot_bytes\":\"eA==\"," ++
  "\"invalidator_registry_digest\":\"registry\",\"policy_head\":\"policy\"," ++
  "\"deletion_fence_head\":\"fence\",\"observed_at_ns\":0\x7d"

def sampleReference : String :=
  "\x7b\"tenant_id\":\"tenant\",\"snapshot_id\":\"screen\"," ++
  "\"location\":\x7b\"dashboard_id\":\"core.conversation\",\"screen_id\":\"overview\"," ++
  "\"item_id\":null\x7d,\"builder_id\":\"conversation.builder\",\"builder_version\":\"1\"," ++
  "\"context\":" ++ sampleContext ++ ",\"config_version\":\"r9.config.v1\"," ++
  "\"budget_version\":\"r9.budget.v1\",\"token_budget\":33," ++
  "\"budget_policy\":\x7b\"version\":\"r9.budget.v1\",\"total\":100,\"fixed\":0,\"output\":0," ++
  "\"conversation_floor\":32\x7d,\"renderer_version\":\"agent-dashboard.1.0.0\"," ++
  "\"content_hash\":\"content\"\x7d"

def sampleRest : String :=
  ",\"retained\":[],\"navigation\":[],\"screens\":[\x7b\"ref\":" ++ sampleReference ++
  ",\"screen_bytes\":\"e30=\",\"rendered\":\"\",\"envelopes\":[],\"disposition\":\"CURRENT\"\x7d]," ++
  "\"allocations\":[],\"invalidations\":[],\"tool_availability\":[]\x7d"

def sampleText (sequence : Nat) : String :=
  "\x7b\"tenant_id\":\"tenant\",\"channel_id\":\"channel\",\"sequence\":" ++ toString sequence ++
    sampleRest

def sampleIssuance (expectedSequence sequence : Nat) : String :=
  "\x7b\"schema_id\":\"chiplog.workspace-issuance.v1\",\"expected_sequence\":" ++
    toString expectedSequence ++ ",\"state\":" ++ sampleText sequence ++ "\x7d"

theorem sampleText_inj {left right : Nat} (same : sampleText left = sampleText right) :
    toString left = toString right := by
  unfold sampleText at same
  have texts := congrArg String.toList same
  simp only [String.toList_append, List.append_cancel_right_eq, List.append_cancel_left_eq] at texts
  exact String.toList_inj.mp texts

theorem sampleIssuance_inj {left right leftSequence rightSequence : Nat} {first second : Char}
    (leftDigit : (toString left).toList = [first]) (rightDigit : (toString right).toList = [second])
    (same : sampleIssuance left leftSequence = sampleIssuance right rightSequence) :
    first = second := by
  unfold sampleIssuance at same
  have texts := congrArg String.toList same
  simp only [String.toList_append, List.append_assoc, List.append_cancel_left_eq, leftDigit,
    rightDigit, List.cons_append, List.cons.injEq] at texts
  exact texts.1

/-- The two readers of the first two states of the sample. -/
def readState (raw : Bytes) : Option (WorkspaceState Unit) :=
  if raw = utf8 (sampleText 1) then some (sampleState 1)
  else if raw = utf8 (sampleText 2) then some (sampleState 2)
  else none

def readIssuance (raw : Bytes) : Option (Issuance Unit) :=
  if raw = utf8 (sampleIssuance 0 1) then some ⟨0, sampleState 1⟩
  else if raw = utf8 (sampleIssuance 1 2) then some ⟨1, sampleState 2⟩
  else none

theorem readState_text (state : WorkspaceState Unit)
    (formed : state = sampleState 1 ∨ state = sampleState 2) :
    readState (utf8 (sampleText state.sequence)) = some state := by
  rcases formed with rfl | rfl
  · rw [readState, sampleState, if_pos rfl]
  · have apart : utf8 (sampleText 2) ≠ utf8 (sampleText 1) :=
      fun same => absurd (sampleText_inj (utf8_inj same)) (by decide +kernel)
    rw [readState, sampleState, if_neg apart, if_pos rfl]

theorem readIssuance_text (issued : Issuance Unit)
    (formed : issued.state = sampleState 1 ∨ issued.state = sampleState 2)
    (sequence : issued.state.sequence = issued.expectedSequence + 1) :
    readIssuance (utf8 (sampleIssuance issued.expectedSequence issued.state.sequence)) =
      some issued := by
  obtain ⟨expected, state⟩ := issued
  rcases formed with same | same
  · simp only [] at same
    subst same
    have first : expected = 0 := (Nat.succ.inj sequence).symm
    subst first
    simp only [sampleState]
    rw [readIssuance, if_pos rfl, sampleState]
  · simp only [] at same
    subst same
    have second : expected = 1 := (Nat.succ.inj sequence).symm
    subst second
    have one : (toString 1).toList = ['1'] := by decide +kernel
    have zero : (toString 0).toList = ['0'] := by decide +kernel
    have apart : utf8 (sampleIssuance 1 2) ≠ utf8 (sampleIssuance 0 1) :=
      fun equal => absurd (sampleIssuance_inj one zero (utf8_inj equal)) (by decide)
    simp only [sampleState]
    rw [readIssuance, if_neg apart, if_pos rfl, sampleState]

/-- The JSON of the first two states of the sample. -/
instance sampleJson : WorkspaceJson Unit where
  WellFormed state := state = sampleState 1 ∨ state = sampleState 2
  dump state := utf8 (sampleText state.sequence)
  validate := readState
  dumpIssuance issued := utf8 (sampleIssuance issued.expectedSequence issued.state.sequence)
  validateIssuance := readIssuance
  validate_dump := readState_text
  validateIssuance_dump issued formed _ sequence := readIssuance_text issued formed sequence

def sampleReadContext : ReadContext :=
  ⟨⟨"tenant", written _ trivial⟩, ⟨"channel", written _ trivial⟩⟩

theorem sampleState_builds {previous : Option (WorkspaceState Unit)} {sequence : Nat}
    (follows : (previous.map (·.sequence)).getD 0 + 1 = sequence)
    (known : sequence = 1 ∨ sequence = 2) :
    Builds sampleReadContext previous (sampleState sequence) :=
  ⟨rfl, rfl, follows.symm, by simp [sampleState, sampleReadContext],
    known.imp (congrArg sampleState) (congrArg sampleState)⟩

section

variable [Hashlib]

/-- The first refresh is issued and gone before it is saved. -/
theorem sample_trace : ∃ world : Workspaces Unit,
    Trace (WorkspaceStep "tenant") (Workspaces.empty Unit)
      [.built "channel", .selected "channel", .stopped "channel"] world ∧
    world.cache = [] ∧ Journals "tenant" world.journal [sampleState 1] := by
  have sound : Sound "tenant" [] (Workspaces.empty Unit) := Sound.empty
  have builds : Builds sampleReadContext none (sampleState 1) := sampleState_builds rfl (.inl rfl)
  have addressed : Addressed "tenant" (nextIssuance [] (sampleState 1)) :=
    builds.addressed sound.journals.issued rfl
  obtain ⟨journal, selected, journals⟩ :=
    (sound.journals.selectVerified_next builds.wellFormed addressed).1 (by decide)
  let building : Workspaces Unit := ⟨[], [], [⟨sampleState 1, .built⟩]⟩
  let issued : Workspaces Unit := ⟨journal, [], [⟨sampleState 1, .selected⟩]⟩
  refine ⟨⟨journal, [], []⟩, ?_, rfl, journals⟩
  have build : WorkspaceStep "tenant" (Workspaces.empty Unit) (.built "channel") building :=
    @WorkspaceStep.built Unit _ _ _ "tenant" (Workspaces.empty Unit) sampleReadContext none
      (sampleState 1) rfl builds
  have select : WorkspaceStep "tenant" building (.selected "channel") issued :=
    @WorkspaceStep.selected Unit _ _ _ "tenant" building (sampleState 1) [] [] journal rfl selected
  have stop : WorkspaceStep "tenant" issued (.stopped "channel") ⟨journal, [], []⟩ :=
    @WorkspaceStep.stopped Unit _ _ _ "tenant" issued ⟨sampleState 1, .selected⟩ [] [] rfl
  exact .cons build (.cons select (.single stop))

end

theorem workspace_issuance_sample :
    let _ := Sha256.hashlib
    ∃ (world : Workspaces Unit) (cache : List CacheRow),
      Trace (WorkspaceStep "tenant") (Workspaces.empty Unit)
        [.built "channel", .selected "channel", .stopped "channel"] world ∧ world.cache = [] ∧
      recoverCache "tenant" world.journal world.cache "channel" =
        .ok (some (sampleState 1), cache) ∧
      channelRows cache "tenant" "channel" = [cacheRow (sampleState 1)] ∧
      ∃ journal, selectVerified "tenant" world.journal (sampleState 2) 1 = .ok journal := by
  let _ := Sha256.hashlib
  intro hashlib
  obtain ⟨world, trace, empty, journals⟩ := sample_trace
  obtain ⟨states, scans, _, _, _, _, _, recovers⟩ := workspace_issuance trace
  obtain ⟨dict, lists, scanned⟩ := journals.scan
  obtain ⟨_, rfl⟩ := Prod.mk.inj (Except.ok.inj ((scans "" "").symm.trans (scanned "" "")))
  have one : selectedStates states "channel" = [sampleState 1] := lists.selected "channel"
  obtain ⟨cache, recovered, rows, next⟩ := recovers "channel"
  rw [one] at recovered rows next
  have builds : Builds sampleReadContext [sampleState 1].getLast? (sampleState 2) :=
    sampleState_builds rfl (.inr rfl)
  obtain ⟨_, _, selects⟩ := next sampleReadContext (sampleState 2) rfl rfl builds [] _ (.nil _) nofun
  obtain ⟨journal, selected, _⟩ := selects (by decide)
  exact ⟨world, cache, trace, empty, recovered, rows, journal, selected⟩

end Chiplog.Projections
