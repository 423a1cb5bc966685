import Chiplog.Data.Sha256
import Chiplog.EvidenceJournal.History
import Chiplog.Projections.Disclosure

namespace Chiplog.Composition

open Chiplog.Data Chiplog.AgentLoop Chiplog.EvidenceJournal

/-! One join in four components.

The agent loop, the projections, the journal and the delivery preparation each walk over
disclosure labels on their own.  On well formed labels they permit the same endpoints: those
that every label permits. -/

/-! ### Delivery preparation -/

/-- What the preparation of a delivery asks of one historical label. -/
def HistoryPermits (label : DisclosureLabel) (endpoint : String) : Prop :=
  (label.value = .unrestricted ∧ label.allowedEndpoints = []) ∨
    (label.value = .endpointRestricted ∧ endpoint ∈ label.allowedEndpoints)

instance (label : DisclosureLabel) (endpoint : String) :
    Decidable (HistoryPermits label endpoint) :=
  inferInstanceAs (Decidable (_ ∨ _))

/-- The loop of `prepare_completion` over the history, for one selected endpoint. -/
def requireHistory (history : List DisclosureLabel) (endpoint : String) : Looping Unit :=
  forEach (fun label => raiseIf (¬ HistoryPermits label endpoint)
    (.rejected "historical disclosure forbids endpoint")) history

theorem historyPermits_iff {label : DisclosureLabel} (formed : label.WellFormed)
    (endpoint : String) : HistoryPermits label endpoint ↔ label.Permits endpoint := by
  have restricted := formed.restricted
  cases value : label.value <;> simp_all [HistoryPermits, DisclosureLabel.Permits]

theorem requireHistory_ok {history : List DisclosureLabel} {endpoint : String} {checked : Unit}
    (formed : ∀ label ∈ history, label.WellFormed) :
    requireHistory history endpoint = .ok checked ↔ ∀ label ∈ history, label.Permits endpoint := by
  simp only [requireHistory, forEach_ok, raiseIf_ok, not_not]
  exact forall₂_congr (fun label member => historyPermits_iff (formed label member) endpoint)

/-! ### The journal -/

section Journal

variable {claim : Claim} {identity : TrustedIngress} {joined : DisclosureLabel}

/-- What `_disclosed` asks of a source besides its label. -/
def SourceBound (claim : Claim) (identity : TrustedIngress) (source : SourceReference) : Prop :=
  (source ∈ identity.sources ∧ source.tenantId.text = identity.tenant) ∧
    ∃ item, claim.provenance.filter (fun item => item.ingressId = source.recordId.text) = [item] ∧
      item ∈ identity.items ∧ source.contentDigest.text = item.digest ∧
      source.recordVersion.text = toString item.ingressVersion.val

/-- The accumulators of the journal's loop as those of `join_labels`. -/
def sourceLabels (joined : SourceJoin) : LabelJoin := ⟨joined.allowed, joined.denied⟩

/-- The label that `_disclosed` compares the envelope's label with. -/
def journalLabel (joined : SourceJoin) : DisclosureLabel :=
  ⟨expectedLabel joined, sortedSet (joined.allowed.getD [])⟩

theorem sourceLabels_inj {left right : SourceJoin} (same : sourceLabels left = sourceLabels right) :
    left = right := by
  cases left
  cases right
  simp_all [sourceLabels]

/-- The journal's round over a well formed label, once its source is bound. -/
theorem joinSource_bound {joined next : SourceJoin} {source : SourceReference}
    (formed : source.label.WellFormed) (bound : SourceBound claim identity source) :
    joinSource claim identity joined source = some next ↔
      joinLabel (sourceLabels joined) source.label = .ok (sourceLabels next) := by
  obtain ⟨known, item, matched, listed, pinned⟩ := bound
  have canonical : sortedSet source.label.allowedEndpoints = source.label.allowedEndpoints :=
    (eq_sortedSet_iff.mpr formed.ascending).symm
  have distinct : source.label.allowedEndpoints.dedup = source.label.allowedEndpoints :=
    List.Nodup.dedup (formed.ascending.imp (fun order => ne_of_lt order))
  have restricted := formed.restricted
  rw [joinLabel_ok, and_iff_right formed]
  cases joined
  cases next
  cases value : source.label.value with
  | unrestricted =>
      have empty : source.label.allowedEndpoints = [] := by simp_all
      have none : sortedSet [] = [] := rfl
      simp [joinSource, matched, guard, known, listed, pinned, value, empty, none, sourceLabels,
        eq_comm]
  | endpointRestricted =>
      simp only [joinSource, matched, guard, known, listed, pinned, canonical, value, distinct,
        sourceLabels, reduceIte, reduceCtorEq, decide_false, Bool.or_false, and_self]
      constructor
      · intro same
        cases Option.some.inj same
        rfl
      · intro same
        cases same
        rfl
  | denyAll =>
      simp only [joinSource, matched, guard, known, listed, pinned, canonical, value,
        sourceLabels, reduceIte, reduceCtorEq, decide_true, Bool.or_true, and_self]
      simp [eq_comm]

theorem joinSource_some {joined next : SourceJoin} {source : SourceReference}
    (formed : source.label.WellFormed) :
    joinSource claim identity joined source = some next ↔
      SourceBound claim identity source ∧
        joinLabel (sourceLabels joined) source.label = .ok (sourceLabels next) := by
  constructor
  · intro round
    have bound : SourceBound claim identity source := by
      simp only [joinSource, Option.bind_eq_bind, Option.bind_eq_some_iff,
        Option.guard_eq_some', exists_const] at round
      obtain ⟨known, round⟩ := round
      split at round
      · rename_i item matched
        simp only [Option.bind_eq_some_iff, Option.guard_eq_some', exists_const] at round
        obtain ⟨listed, pinned, _⟩ := round
        exact ⟨known, item, matched, listed, pinned⟩
      · cases round
    exact ⟨bound, (joinSource_bound formed bound).mp round⟩
  · rintro ⟨bound, round⟩
    exact (joinSource_bound formed bound).mpr round

theorem joinSources_some {sources : List SourceReference} {start final : SourceJoin}
    (formed : ∀ source ∈ sources, source.label.WellFormed) :
    sources.foldlM (joinSource claim identity) start = some final ↔
      (∀ source ∈ sources, SourceBound claim identity source) ∧
        (sources.map (·.label)).foldlM joinLabel (sourceLabels start) =
          .ok (sourceLabels final) := by
  induction sources generalizing start with
  | nil => simp [pure_ok, Function.Injective.eq_iff (fun _ _ => sourceLabels_inj)]
  | cons source rest ih =>
      have first := formed source List.mem_cons_self
      have others (next : SourceJoin) :=
        @ih next (fun other member => formed other (List.mem_cons_of_mem _ member))
      rw [List.foldlM_cons, List.map_cons, List.foldlM_cons, List.forall_mem_cons,
        Option.bind_eq_bind, Option.bind_eq_some_iff, bind_ok]
      constructor
      · intro ⟨next, round, folded⟩
        obtain ⟨bound, step⟩ := (joinSource_some first).mp round
        obtain ⟨bounds, steps⟩ := (others next).mp folded
        exact ⟨⟨bound, bounds⟩, sourceLabels next, step, steps⟩
      · intro ⟨⟨bound, bounds⟩, next, step, steps⟩
        have named : next = sourceLabels ⟨next.endpoints, next.deny⟩ := rfl
        rw [named] at step steps
        exact ⟨_, (joinSource_some first).mpr ⟨bound, step⟩, (others _).mpr ⟨bounds, steps⟩⟩

/-- The journal's label is the join; where nothing is permitted only the values need agree. -/
theorem journalLabel_joined {labels : List DisclosureLabel}
    {state : SourceJoin} (returned : joinLabels labels = .ok joined)
    (folded : labels.foldlM joinLabel ⟨none, false⟩ = .ok (sourceLabels state)) :
    expectedLabel state = joined.value ∧ (joined.value ≠ .denyAll → journalLabel state = joined) := by
  have nonempty := (joinLabels_ok.mp returned).1
  obtain ⟨allowed, denied⟩ := state
  simp only [joinLabels, raiseIf_neg nonempty, ok_bind, folded, sourceLabels] at returned
  simp only [journalLabel, expectedLabel]
  by_cases closed : denied = true ∨ allowed = some []
  · rw [if_pos closed, pure_ok] at returned
    subst returned
    simp [closed]
  · rw [if_neg closed] at returned ⊢
    cases allowed with
    | none =>
        obtain rfl := pure_ok.mp returned
        simp [sortedSet]
    | some endpoints =>
        obtain rfl := pure_ok.mp returned
        simp

/-- A label that permits something is the journal's label, which permits the same. -/
theorem journalLabel_shown {state : SourceJoin} {shown : DisclosureLabel} {endpoint : String}
    (agrees : expectedLabel state = joined.value ∧
      (joined.value ≠ .denyAll → journalLabel state = joined)) :
    (shown.value = expectedLabel state && shown.allowedEndpoints = sortedSet (state.allowed.getD [])
      && expectedLabel state ≠ .denyAll && state.allowed.all (fun allowed => endpoint ∈ allowed))
        = true ↔ shown = joined ∧ joined.Permits endpoint := by
  obtain ⟨value, exact⟩ := agrees
  by_cases closed : joined.value = .denyAll
  · simp [value, closed, DisclosureLabel.Permits]
  · have same := exact closed
    have permits : state.allowed.all (fun allowed => endpoint ∈ allowed) = true ↔
        joined.Permits endpoint := by
      rw [← same]
      simp only [journalLabel, expectedLabel, DisclosureLabel.Permits]
      have open' : ¬ (state.denied = true ∨ state.allowed = some []) := by
        intro denied
        exact closed (value ▸ if_pos denied)
      rw [if_neg open']
      cases state.allowed <;> simp [mem_sortedSet]
    rw [Bool.and_eq_true, permits, ← same]
    simp only [Bool.and_eq_true, decide_eq_true_eq, value, closed, ne_eq, not_false_eq_true,
      and_true]
    refine and_congr_left (fun _ => ?_)
    cases shown
    simp [journalLabel, value]

theorem disclosed_iff [Hashlib] {labels : List DisclosureLabel}
    (returned : joinLabels labels = .ok joined)
    (shown : claim.envelope.sources.items.map (·.label) = labels) :
    disclosed claim identity = true ↔ EnvelopeBound claim identity ∧
      (∀ source ∈ claim.envelope.sources.items, SourceBound claim identity source) ∧
      claim.envelope.label = joined ∧ joined.Permits identity.endpoint := by
  have each := (joinLabels_ok.mp returned).2.1
  have formed : ∀ source ∈ claim.envelope.sources.items, source.label.WellFormed :=
    fun source member => each _ (shown ▸ List.mem_map_of_mem member)
  subst shown
  simp only [disclosed]
  constructor
  · intro passed
    split at passed
    · rename_i bound
      split at passed
      · cases passed
      · rename_i state folded
        obtain ⟨bounds, steps⟩ := (joinSources_some formed).mp folded
        exact ⟨bound, bounds,
          (journalLabel_shown (journalLabel_joined returned steps)).mp passed⟩
    · cases passed
  · rintro ⟨bound, bounds, same⟩
    obtain ⟨final, steps⟩ := joinLabels_fold each ⟨none, false⟩
    have named : final = sourceLabels ⟨final.endpoints, final.deny⟩ := rfl
    rw [named] at steps
    have folded := (@joinSources_some _ _ _ ⟨none, false⟩ _ formed).mpr ⟨bounds, steps⟩
    rw [if_pos bound, folded]
    exact (journalLabel_shown (journalLabel_joined returned steps)).mpr same

end Journal

/-! ### Grouping -/

theorem joinLabels_some {labels : List DisclosureLabel} (nonempty : labels ≠ [])
    (formed : ∀ label ∈ labels, label.WellFormed) : ∃ joined, joinLabels labels = .ok joined := by
  obtain ⟨state, folded⟩ := joinLabels_fold formed ⟨none, false⟩
  simp only [joinLabels, raiseIf_neg nonempty, ok_bind, folded]
  split
  · exact ⟨_, rfl⟩
  · split
    · exact ⟨_, rfl⟩
    · exact ⟨_, rfl⟩

/-- The join depends on which labels there are, not on their order or repetition. -/
theorem joinLabels_members {labels other : List DisclosureLabel} {joined : DisclosureLabel}
    (returned : joinLabels labels = .ok joined) (same : ∀ label, label ∈ other ↔ label ∈ labels) :
    joinLabels other = .ok joined := by
  obtain ⟨nonempty, each, formed, permits⟩ := joinLabels_ok.mp returned
  refine joinLabels_ok.mpr ⟨?_, fun label member => each label ((same label).mp member), formed,
    ?_⟩
  · obtain ⟨label, member⟩ := List.exists_mem_of_ne_nil _ nonempty
    exact List.ne_nil_of_mem ((same label).mpr member)
  · intro endpoint
    simp only [permits, same]

/-- Joining the joins of groups is joining all their labels. -/
theorem joinLabels_groups {groups : List (List DisclosureLabel)} {joined : DisclosureLabel}
    (nonempty : ∀ group ∈ groups, group ≠ []) (returned : joinLabels groups.flatten = .ok joined) :
    ∃ parts, groups.mapM joinLabels = .ok parts ∧ joinLabels parts = .ok joined := by
  obtain ⟨some, each, formed, permits⟩ := joinLabels_ok.mp returned
  have parts : groups.mapM joinLabels =
      .ok (groups.filterMap (fun group => (joinLabels group).toOption)) := by
    apply mapM_filterMap_ok
    intro group member
    obtain ⟨part, made⟩ := joinLabels_some (nonempty group member)
      (fun label inside => each label (List.mem_flatten.mpr ⟨group, member, inside⟩))
    exact ⟨part, made, by rw [made]; rfl⟩
  refine ⟨_, parts, joinLabels_ok.mpr ⟨?_, ?_, formed, ?_⟩⟩
  · obtain ⟨label, member⟩ := List.exists_mem_of_ne_nil _ some
    obtain ⟨group, among, _⟩ := List.mem_flatten.mp member
    obtain ⟨part, made, _⟩ := result_of_mapM_ok parts among
    exact List.ne_nil_of_mem made
  · intro part member
    obtain ⟨group, _, made⟩ := mem_of_mapM_ok parts member
    exact (joinLabels_ok.mp made).2.2.1
  · intro endpoint
    rw [permits endpoint]
    constructor
    · intro all part member
      obtain ⟨group, among, made⟩ := mem_of_mapM_ok parts member
      exact ((joinLabels_ok.mp made).2.2.2 endpoint).mpr
        (fun label inside => all label (List.mem_flatten.mpr ⟨group, among, inside⟩))
    · intro all label member
      obtain ⟨group, among, inside⟩ := List.mem_flatten.mp member
      obtain ⟨part, made, joins⟩ := result_of_mapM_ok parts among
      exact ((joinLabels_ok.mp joins).2.2.2 endpoint).mp (all part made) label inside

/-! ### Agreement -/

/-- Well formed labels have one join, the meet of what they permit, and each component
computes it or decides by it. -/
theorem disclosure_join [Hashlib] (labels : List DisclosureLabel) (nonempty : labels ≠ [])
    (formed : ∀ label ∈ labels, label.WellFormed) :
    ∃ joined, joinLabels labels = .ok joined ∧ joined.WellFormed ∧
      (∀ endpoint, joined.Permits endpoint ↔ ∀ label ∈ labels, label.Permits endpoint) ∧
      (∀ other : List DisclosureLabel, (∀ label, label ∈ other ↔ label ∈ labels) →
        joinLabels other = .ok joined) ∧
      (∀ groups : List (List DisclosureLabel), (∀ group ∈ groups, group ≠ []) →
        (∀ label, label ∈ groups.flatten ↔ label ∈ labels) →
          ∃ parts, groups.mapM joinLabels = .ok parts ∧ joinLabels parts = .ok joined) ∧
      Projections.join labels = .ok joined ∧
      (∀ endpoint, requireHistory labels endpoint = .ok () ↔ joined.Permits endpoint) ∧
      ∀ (claim : Claim) (identity : TrustedIngress),
        claim.envelope.sources.items.map (·.label) = labels →
          (∀ state,
            claim.envelope.sources.items.foldlM (joinSource claim identity) ⟨none, false⟩ =
              some state →
            expectedLabel state = joined.value ∧
              (joined.value ≠ .denyAll → journalLabel state = joined)) ∧
          (disclosed claim identity = true ↔ EnvelopeBound claim identity ∧
            (∀ source ∈ claim.envelope.sources.items, SourceBound claim identity source) ∧
            claim.envelope.label = joined ∧ joined.Permits identity.endpoint) := by
  obtain ⟨joined, returned⟩ := joinLabels_some nonempty formed
  obtain ⟨_, _, joinedFormed, permits⟩ := joinLabels_ok.mp returned
  refine ⟨joined, returned, joinedFormed, permits, ?_, ?_, Projections.join_ok.mpr returned, ?_, ?_⟩
  · intro other same
    exact joinLabels_members returned same
  · intro groups each same
    exact joinLabels_groups each (joinLabels_members returned same)
  · intro endpoint
    rw [requireHistory_ok formed, permits]
  · intro claim identity shown
    refine ⟨?_, disclosed_iff returned shown⟩
    intro state folded
    have each : ∀ source ∈ claim.envelope.sources.items, source.label.WellFormed :=
      fun source member => formed _ (shown ▸ List.mem_map_of_mem member)
    have steps := ((joinSources_some each).mp folded).2
    rw [shown] at steps
    exact journalLabel_joined returned steps

section

variable [Hashlib]

/-! A claim over two sources, the second one restricted, under a given label. -/

def mixedItem (ingressId : String) : Provenance := { assertedItem with ingressId := ingressId }

def mixedSource (recordId : Identity) (label : DisclosureLabel) : SourceReference :=
  { assertedSource with
    recordId := recordId
    label := label }

def mixedItems : List Provenance := [mixedItem "first", mixedItem "second"]

def mixedSources (first : DisclosureLabel) : List SourceReference :=
  [mixedSource ⟨"first", written _ trivial⟩ first,
    mixedSource ⟨"second", written _ trivial⟩ ⟨.endpointRestricted, ["cli"]⟩]

def mixedDigest : Digest :=
  sha256 (Json.obj [("subject", toJson assertedSubject), ("payload", toJson assertedPayload),
    ("provenance", toJson mixedItems)]).encode

def mixedClaim (first label : DisclosureLabel) : Claim :=
  { assertedClaim with
    provenance := mixedItems
    envelope := { assertedClaim.envelope with
      contentDigest := mixedDigest.identity
      sources := ⟨mixedSources first, by simp [mixedSources]⟩
      label := label } }

def mixedIdentity (first : DisclosureLabel) : TrustedIngress :=
  { assertedIdentity with
    items := mixedItems
    sources := mixedSources first }

theorem mixed_bound (first label : DisclosureLabel) :
    EnvelopeBound (mixedClaim first label) (mixedIdentity first) := by
  have distinct : ((mixedClaim first label).envelope.sources.items.map (·.recordId)).Nodup := by
    simp [mixedClaim, mixedSources, mixedSource]
  have sorted : (mixedClaim first label).envelope.sources.items.Pairwise
      (fun left right => left.recordId.text ≤ right.recordId.text) :=
    List.pairwise_pair.mpr (show "first" ≤ "second" by decide +kernel)
  exact ⟨rfl, rfl, rfl, rfl, rfl, by simp [mixedClaim, mixedItems], distinct, sorted.insertionSort_eq, rfl⟩

theorem mixed_sources (first label : DisclosureLabel) :
    ∀ source ∈ (mixedClaim first label).envelope.sources.items,
      SourceBound (mixedClaim first label) (mixedIdentity first) source := by
  have version : "1" = toString (1 : Nat) := by decide +kernel
  intro source member
  rcases List.mem_pair.mp member with rfl | rfl
  · exact ⟨⟨List.mem_cons_self, rfl⟩, mixedItem "first", rfl, List.mem_cons_self, rfl, version⟩
  · exact ⟨⟨List.mem_cons_of_mem _ List.mem_cons_self, rfl⟩, mixedItem "second", rfl,
      List.mem_cons_of_mem _ List.mem_cons_self, rfl, version⟩

end

/-- The join of a free and a restricted label, and a claim that carries it. -/
theorem disclosure_join_sample :
    letI := Sha256.hashlib
    let first : DisclosureLabel := ⟨.unrestricted, []⟩
    let labels := [first, ⟨.endpointRestricted, ["cli"]⟩]
    ∃ joined, joinLabels labels = .ok joined ∧ Projections.join labels = .ok joined ∧
      joined.Permits "cli" ∧ ¬ joined.Permits "web" ∧
      disclosed (mixedClaim first joined) (mixedIdentity first) = true := by
  let _ := Sha256.hashlib
  intro first labels
  have formed : ∀ label ∈ labels, label.WellFormed := by
    intro label member
    rcases List.mem_pair.mp member with rfl | rfl
    · exact ⟨.nil, nofun, by simp [first]⟩
    · exact ⟨List.pairwise_singleton _ _, by decide, by simp⟩
  obtain ⟨joined, returned, _, permits, _, _, projected, _, journal⟩ :=
    disclosure_join labels (by simp [labels]) formed
  have shown : joined.Permits "cli" := by
    rw [permits]
    decide
  refine ⟨joined, returned, projected, shown, ?_, ?_⟩
  · rw [permits]
    decide
  · exact (journal (mixedClaim first joined) (mixedIdentity first) rfl).2.mpr
      ⟨mixed_bound _ _, mixed_sources _ _, rfl, shown⟩

/-- Beside a restricted label a denied one leaves its endpoints to the journal's label. -/
theorem journal_keeps_endpoints :
    let _ := Sha256.hashlib
    let claim := mixedClaim ⟨.denyAll, []⟩ ⟨.unrestricted, []⟩
    let identity := mixedIdentity ⟨.denyAll, []⟩
    let sources := claim.envelope.sources.items
    (∀ label ∈ sources.map (·.label), label.WellFormed) ∧
      EnvelopeBound claim identity ∧
      joinLabels (sources.map (·.label)) = .ok ⟨.denyAll, []⟩ ∧
      ∃ state, sources.foldlM (joinSource claim identity) ⟨none, false⟩ = some state ∧
        journalLabel state = ⟨.denyAll, ["cli"]⟩ := by
  intro hashlib claim identity sources
  have formed : ∀ source ∈ sources, source.label.WellFormed := by
    intro source member
    rcases List.mem_pair.mp member with rfl | rfl
    · exact ⟨.nil, by simp [mixedSource], by simp [mixedSource]⟩
    · exact ⟨List.pairwise_singleton _ _, by decide, by simp [mixedSource]⟩
  refine ⟨?_, mixed_bound _ _, rfl, ⟨some ["cli"], true⟩, ?_, rfl⟩
  · intro label member
    obtain ⟨source, among, rfl⟩ := List.mem_map.mp member
    exact formed source among
  · exact (joinSources_some formed).mpr ⟨mixed_sources _ _, rfl⟩

end Chiplog.Composition
