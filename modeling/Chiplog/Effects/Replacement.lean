import Chiplog.Data.Sha256
import Chiplog.Effects.Lifecycle

namespace Chiplog.Effects

variable {original : OriginalAmbiguity} {snapshots : List EffectSnapshot}

open Chiplog.Data

/-! No silent replacement of crossed work.

The replacement guard runs against the latest snapshot of every intent each time a
first transmission is committed.  Crossed states are left only for terminal ones, so
what the guard saw of an earlier crossed intent still describes it later. -/

/-- Two intents that address the same external effect. -/
def SameEffect (left right : ExternalActionIntent) : Prop :=
  left.authority.recipient = right.authority.recipient ∧
    (left.effectFingerprint = right.effectFingerprint ∨ left.payload = right.payload)

/-- `later` is a recovery action that names `earlier` among its originals. -/
def Names (later earlier : ExternalActionIntent) : Prop :=
  later.purpose.isRecovery = true ∧
    ∃ original ∈ later.purpose.originals, original.originalIntent = earlier.exactHead ∧
      original.originalBinding = earlier.semantics

/-- The position of the record that committed the first transmission of an intent. -/
def firstSend (records : List EffectRecord) (intentId : Identity) : Option Nat :=
  records.findIdx? (fun record =>
    record.intentId = intentId ∧ record.snapshot.transmissions ≠ [])

theorem SameEffect.symm {left right : ExternalActionIntent} (same : SameEffect left right) :
    SameEffect right left :=
  ⟨same.1.symm, same.2.imp Eq.symm Eq.symm⟩

theorem isRecovery_of_originals {purpose : EffectPurpose}
    (member : original ∈ purpose.originals) : purpose.isRecovery = true := by
  cases purpose <;> simp_all [EffectPurpose.originals, EffectPurpose.isRecovery]

theorem matchOriginals_ok {intent : ExternalActionIntent} {originals : List OriginalAmbiguity}
    {matched result : List OriginalAmbiguity}
    (accepted : matchOriginals intent originals snapshots matched = .ok result) :
    ∀ snapshot ∈ snapshots, snapshot.intent.intentId ≠ intent.intentId →
      ∃ original ∈ originals, original.originalIntent = snapshot.intent.exactHead ∧
        original.originalBinding = snapshot.intent.semantics := by
  induction snapshots generalizing matched with
  | nil => simp
  | cons snapshot rest ih =>
      unfold matchOriginals at accepted
      split at accepted
      · rename_i own
        intro other member different
        rcases List.mem_cons.mp member with rfl | inside
        · exact absurd own different
        · exact ih accepted other inside different
      · split at accepted
        · rename_i original only
          have selected : original ∈ [original] := List.mem_singleton_self original
          rw [← only, List.mem_filter, decide_eq_true_eq] at selected
          intro other member different
          rcases List.mem_cons.mp member with rfl | inside
          · exact ⟨original, selected.1, selected.2.1, selected.2.2.1⟩
          · exact ih accepted other inside different
        · cases accepted

theorem addConflicting_values {intent : ExternalActionIntent}
    {snapshot : EffectSnapshot} (listed : Dict ExactHead EffectSnapshot)
    (present : snapshot ∈ snapshots) (conflicts : Conflicts snapshot intent)
    (unique : ∀ rival ∈ snapshots, Conflicts rival intent → rival.attempt = snapshot.attempt →
      rival = snapshot) : snapshot ∈ (addConflicting intent snapshots listed).values := by
  have stored : (addConflicting intent snapshots listed).get? snapshot.attempt = some snapshot := by
    refine Dict.get?_foldl_set listed present ?_ unique
    exact conflicts
  exact Dict.mem_values_iff.mpr ⟨_, stored⟩

theorem matchOriginals_single {intent : ExternalActionIntent} {blocked : EffectSnapshot}
    (other : blocked.intent.intentId ≠ intent.intentId)
    (names : original.originalIntent = blocked.intent.exactHead ∧
      original.originalBinding = blocked.intent.semantics ∧
      original.ambiguityReconciliationHead = blocked.ambiguity)
    (only : ∀ snapshot ∈ snapshots, snapshot = blocked) (matched : List OriginalAmbiguity) :
    ∃ result, matchOriginals intent [original] snapshots matched = .ok result ∧
      ∀ found, found ∈ result ↔ found ∈ matched ∨ found = original ∧ snapshots ≠ [] := by
  induction snapshots generalizing matched with
  | nil => exact ⟨matched, rfl, by simp⟩
  | cons snapshot rest ih =>
      obtain rfl := only snapshot (by simp)
      have selected : [original].filter (fun candidate =>
          candidate.originalIntent = snapshot.intent.exactHead ∧
            candidate.originalBinding = snapshot.intent.semantics ∧
            candidate.ambiguityReconciliationHead = snapshot.ambiguity) = [original] := by
        simp [names]
      obtain ⟨result, accepted, members⟩ :=
        ih (fun later member => only later (by simp [member])) (matched.insert original)
      refine ⟨result, ?_, fun found => ?_⟩
      · unfold matchOriginals
        rw [if_neg other, selected]
        exact accepted
      · rw [members found, List.mem_insert_iff]
        simp only [ne_eq, reduceCtorEq, not_false_eq_true, and_true]
        tauto

/-- A recovery action is admitted beside the one crossed intent that it names. -/
theorem unblocked_recovery {intent : ExternalActionIntent} {store : EffectStoreSnapshot}
    {blocked : EffectRecord} (single : intent.purpose.originals = [original])
    (latest : store.latest? blocked.intentId = some blocked)
    (conflicts : Conflicts blocked.snapshot intent) (other : blocked.intentId ≠ intent.intentId)
    (names : original.originalIntent = blocked.snapshot.intent.exactHead ∧
      original.originalBinding = blocked.snapshot.intent.semantics ∧
      original.ambiguityReconciliationHead = blocked.snapshot.ambiguity)
    (only : ∀ record, store.latest? record.intentId = some record →
      Conflicts record.snapshot intent → record = blocked) :
    Unblocked intent store [original.ambiguityReconciliationHead] := by
  intro current unlisted heads
  have present : blocked.snapshot ∈ (latestSnapshots store.records).values :=
    mem_latestSnapshots.mpr ⟨blocked, latest, rfl⟩
  have solely : ∀ snapshot ∈ (latestSnapshots store.records).values, Conflicts snapshot intent →
      snapshot = blocked.snapshot := by
    intro snapshot member conflicting
    obtain ⟨record, found, rfl⟩ := mem_latestSnapshots.mp member
    rw [only record found conflicting]
  have blocking := addConflicting_values Dict.empty present conflicts
    (fun rival member conflicting _ => solely rival member conflicting)
  have blockers : ∀ snapshot ∈ (addConflicting intent (latestSnapshots store.records).values
      Dict.empty).values, snapshot = blocked.snapshot := by
    intro snapshot member
    rcases mem_addConflicting member with impossible | ⟨inside, conflicting⟩
    · simp [Dict.values, Dict.empty] at impossible
    · exact solely snapshot inside conflicting
  obtain ⟨result, accepted, members⟩ := matchOriginals_single other names blockers []
  have complete : ¬ ([original] ≠ [] ∧ [original].toFinset ≠ result.toFinset) := by
    rintro ⟨_, differs⟩
    refine differs (Finset.ext fun found => ?_)
    simp only [List.mem_toFinset, List.mem_singleton, members found, List.not_mem_nil, false_or]
    exact ⟨fun same => ⟨same, List.ne_nil_of_mem blocking⟩, And.left⟩
  have fresh : requireFreshRecoveryOriginals intent current.currentOriginalAmbiguityHeads =
      .ok () := by
    have recovery : ¬ intent.purpose.isRecovery = false := by
      rw [isRecovery_of_originals (single ▸ List.mem_singleton_self original)]
      decide
    simp only [requireFreshRecoveryOriginals, single, heads, List.map_cons, List.map_nil]
    rw [deny_neg recovery, deny_neg (by simp)]
    rfl
  simp only [requireNoReplacement, unlisted, List.nodup_nil, not_true_eq_false, not_false_eq_true,
    deny_neg, ok_bind, collectBlockers, single, accepted]
  exact bind_ok.mpr ⟨(), checkIf_ok.mpr (fun _ => fresh), deny_ok.mpr complete⟩

/-- The guard admits an intent beside a conflicting crossed snapshot only when the
intent names that snapshot's intent. -/
theorem requireNoReplacement_names {intent : ExternalActionIntent} {store : EffectStoreSnapshot}
    {current : CurrentEffectInputs} {snapshot : EffectSnapshot} {value : Unit}
    (accepted : requireNoReplacement intent store current = .ok value)
    (present : snapshot ∈ (latestSnapshots store.records).values)
    (conflicts : Conflicts snapshot intent) (other : snapshot.intent.intentId ≠ intent.intentId)
    (unique : ∀ rival ∈ (latestSnapshots store.records).values,
      rival.attempt = snapshot.attempt → rival = snapshot) : Names intent snapshot.intent := by
  simp only [requireNoReplacement, bind_ok] at accepted
  obtain ⟨_, _, listed, _, _, _, matched, accepted, _⟩ := accepted
  have blocking := addConflicting_values listed present conflicts
    (fun rival member _ => unique rival member)
  obtain ⟨original, member, named⟩ := matchOriginals_ok accepted snapshot blocking other
  exact ⟨isRecovery_of_originals member, original, member, named⟩

theorem firstSend_append_other {records : List EffectRecord} {record : EffectRecord}
    {intentId : Identity} (other : record.intentId ≠ intentId) :
    firstSend (records ++ [record]) intentId = firstSend records intentId := by
  simp [firstSend, List.findIdx?_append, other]

theorem firstSend_isSome {records : List EffectRecord} {record : EffectRecord}
    (member : record ∈ records) (sent : record.snapshot.transmissions ≠ []) :
    ∃ position, firstSend records record.intentId = some position := by
  rw [← Option.isSome_iff_exists]
  simp only [firstSend, List.findIdx?_isSome, List.any_eq_true, decide_eq_true_eq]
  exact ⟨record, member, rfl, sent⟩

theorem firstSend_append_sent {records : List EffectRecord} {record previous : EffectRecord}
    (member : previous ∈ records) (own : record.intentId = previous.intentId)
    (sent : previous.snapshot.transmissions ≠ []) :
    firstSend (records ++ [record]) record.intentId = firstSend records previous.intentId := by
  obtain ⟨position, found⟩ := firstSend_isSome member sent
  rw [found, own]
  unfold firstSend at *
  rw [List.findIdx?_append, found, Option.some_or]

theorem firstSend_append_unsent {records : List EffectRecord} {record : EffectRecord}
    {position : Nat} (unsent : firstSend records record.intentId = none)
    (found : firstSend (records ++ [record]) record.intentId = some position) :
    position = records.length := by
  unfold firstSend at *
  rw [List.findIdx?_append, unsent, Option.none_or, List.findIdx?_singleton] at found
  split at found
  · simpa using found.symm
  · cases found

theorem firstSend_owner {records : List EffectRecord} {intentId : Identity} {position : Nat}
    (found : firstSend records intentId = some position) :
    ∃ bound : position < records.length, records[position].intentId = intentId := by
  obtain ⟨bound, owner, _⟩ := List.findIdx?_eq_some_iff_getElem.mp found
  exact ⟨bound, (of_decide_eq_true owner).1⟩

theorem firstSend_bound {records : List EffectRecord} {intentId : Identity} {position : Nat}
    (found : firstSend records intentId = some position) : position < records.length :=
  (firstSend_owner found).1

theorem crossed_of_sent {state : AttemptState} (sent : state ∉ beforeSendStates)
    (open_ : state ∉ terminalStates) : state ∈ crossedStates := by
  cases state <;> simp_all [beforeSendStates, terminalStates, crossedStates]

theorem crossed_not_terminal {state : AttemptState} (crossed : state ∈ crossedStates) :
    state ∉ terminalStates := by
  cases state <;> simp_all [crossedStates, terminalStates]

section Replacement

variable [Hashlib] {store : EffectStoreSnapshot} {record : EffectRecord}

theorem Reachable.attempt_subjectId (reachable : Reachable store)
    (member : record ∈ store.records) :
    record.snapshot.attempt.subjectId = record.intentId.before "/attempt" := by
  have linked := reachable.linked record.intentId
  refine linked.forall_mem
    (fun record => record.snapshot.attempt.subjectId = record.intentId.before "/attempt") ?_ ?_
    record (mem_streamOf.mpr ⟨member, rfl⟩)
  · rintro first ⟨_, _, begun⟩
    obtain ⟨_, _, _, _, bound⟩ := begun.bound
    exact bound.attempt_subjectId
  · rintro previous next _ ⟨_, _, continued⟩
    obtain ⟨_, _, _, bound⟩ := continued.advanced
    exact bound.attempt_subjectId

/-- Attempts of different intents differ already in their subject. -/
theorem Reachable.attempts_unique (reachable : Reachable store) {snapshot rival : EffectSnapshot}
    (present : snapshot ∈ (latestSnapshots store.records).values)
    (rivalPresent : rival ∈ (latestSnapshots store.records).values)
    (same : rival.attempt = snapshot.attempt) : rival = snapshot := by
  simp only [Dict.mem_values_iff, get?_latestSnapshots, Option.map_eq_some_iff] at present rivalPresent
  obtain ⟨key, record, found, rfl⟩ := present
  obtain ⟨rivalKey, rivalRecord, rivalFound, rfl⟩ := rivalPresent
  obtain ⟨member, owner⟩ := latest?_mem found
  obtain ⟨rivalMember, rivalOwner⟩ := latest?_mem rivalFound
  have subjects := congrArg ExactHead.subjectId same
  rw [reachable.attempt_subjectId member, reachable.attempt_subjectId rivalMember,
    Identity.before_inj, owner, rivalOwner] at subjects
  rw [subjects, found] at rivalFound
  rw [Option.some.inj rivalFound]

theorem Reachable.crossing (reachable : Reachable store) (member : record ∈ store.records) :
    record.snapshot.transmissions ≠ [] ↔ record.snapshot.state ∉ beforeSendStates :=
  (Lifecycle.of_linked (reachable.linked record.intentId)).crossing record
    (mem_streamOf.mpr ⟨member, rfl⟩)

/-- While the latest record has no transmission, no earlier record had one. -/
theorem Reachable.firstSend_eq_none (reachable : Reachable store)
    (latest : store.latest? record.intentId = some record)
    (unsent : record.snapshot.transmissions = []) :
    firstSend store.records record.intentId = none := by
  have beginnings : ∀ earlier ∈ store.stream record.intentId,
      earlier.snapshot.transmissions <+: record.snapshot.transmissions :=
    (reachable.linked record.intentId).toLast
      (fun earlier later => earlier.snapshot.transmissions <+: later.snapshot.transmissions)
      (fun _ => List.prefix_rfl) List.IsPrefix.trans
      (fun _ _ follows => follows.extends_previous.transmissions) latest
  simp only [firstSend, List.findIdx?_eq_none_iff, decide_eq_false_iff_not, not_and, not_not]
  intro earlier member own
  have beginning := beginnings earlier (mem_streamOf.mpr ⟨member, own⟩)
  rw [unsent] at beginning
  exact List.prefix_nil.mp beginning

/-- A crossed record after a transmission continues a crossed one. -/
theorem Follows.crossed_previous {previous record : EffectRecord}
    (follows : Follows previous record) (crossed : record.snapshot.state ∈ crossedStates)
    (sent : previous.snapshot.state ∉ beforeSendStates) :
    previous.snapshot.state ∈ crossedStates := by
  refine crossed_of_sent sent (fun terminal => ?_)
  rw [← follows.terminal terminal] at terminal
  exact crossed_not_terminal crossed terminal

/-- Whoever holds the first transmission passed the replacement guard. -/
theorem Continued.guarded {call : EffectCall}
    {previous record : EffectRecord} (continued : Continued store call previous record)
    (unsent : previous.snapshot.transmissions = [])
    (sent : record.snapshot.transmissions ≠ []) :
    ∃ current, requireNoReplacement previous.snapshot.intent store current = .ok () := by
  obtain ⟨draft, kind, advanced, bound⟩ := continued.advanced
  rw [bound.transmissions] at sent
  cases advanced with
  | @sent _ current _ _ unreplaced => exact ⟨current, unreplaced⟩
  | retransmitted _ _ _ _ lineage => exact absurd unsent lineage
  | authorized => exact absurd unsent sent
  | disposed => exact absurd unsent sent
  | denied => exact absurd unsent sent
  | evidenced => exact absurd unsent sent
  | reconciled => exact absurd unsent sent

/-- The later of two crossed intents with the same effect names the earlier one. -/
def Unreplaced (store : EffectStoreSnapshot) : Prop :=
  ∀ ⦃earlier later : EffectRecord⦄, store.latest? earlier.intentId = some earlier →
    store.latest? later.intentId = some later → earlier.intentId ≠ later.intentId →
    earlier.snapshot.state ∈ crossedStates → later.snapshot.state ∈ crossedStates →
    SameEffect earlier.snapshot.intent later.snapshot.intent →
    ∀ ⦃before after : Nat⦄, firstSend store.records earlier.intentId = some before →
      firstSend store.records later.intentId = some after → before < after →
      Names later.snapshot.intent earlier.snapshot.intent

theorem Recorded.continued_of_crossed {call : EffectCall} (recorded : Recorded store call record)
    (crossed : record.snapshot.state ∈ crossedStates) :
    ∃ previous, Continued store call previous record := by
  rcases recorded.shape with begun | continued
  · have state := (Starts.initial ⟨store, call, begun⟩).1
    rw [state] at crossed
    simp [crossedStates] at crossed
  · exact continued

/-- The committed record as the earlier of the two. -/
theorem Unreplaced.as_earlier {call : EffectCall}
    {previous record later : EffectRecord} (reachable : Reachable store)
    (unreplaced : Unreplaced store) (continued : Continued store call previous record)
    (latest : store.latest? later.intentId = some later)
    (distinct : record.intentId ≠ later.intentId) (crossed : record.snapshot.state ∈ crossedStates)
    (laterCrossed : later.snapshot.state ∈ crossedStates)
    (same : SameEffect record.snapshot.intent later.snapshot.intent) {before after : Nat}
    (first : firstSend (store.records ++ [record]) record.intentId = some before)
    (second : firstSend store.records later.intentId = some after) (order : before < after) :
    Names later.snapshot.intent record.snapshot.intent := by
  have follows : Follows previous record := ⟨store, call, continued⟩
  have member := (latest?_mem continued.latest).1
  by_cases unsent : previous.snapshot.transmissions = []
  · have none := reachable.firstSend_eq_none continued.latest unsent
    rw [← continued.intentId] at none
    have here := firstSend_append_unsent none first
    have bound := firstSend_bound second
    omega
  · rw [firstSend_append_sent member continued.intentId unsent] at first
    rw [follows.intent] at same ⊢
    exact unreplaced continued.latest latest (continued.intentId ▸ distinct)
      (follows.crossed_previous crossed ((reachable.crossing member).mp unsent)) laterCrossed same
      first second order

/-- The committed record as the later of the two. -/
theorem Unreplaced.as_later {call : EffectCall}
    {previous record earlier : EffectRecord} (reachable : Reachable store)
    (unreplaced : Unreplaced store) (continued : Continued store call previous record)
    (latest : store.latest? earlier.intentId = some earlier)
    (distinct : earlier.intentId ≠ record.intentId)
    (earlierCrossed : earlier.snapshot.state ∈ crossedStates)
    (crossed : record.snapshot.state ∈ crossedStates) (sent : record.snapshot.transmissions ≠ [])
    (same : SameEffect earlier.snapshot.intent record.snapshot.intent) {before after : Nat}
    (first : firstSend store.records earlier.intentId = some before)
    (second : firstSend (store.records ++ [record]) record.intentId = some after)
    (order : before < after) : Names record.snapshot.intent earlier.snapshot.intent := by
  have follows : Follows previous record := ⟨store, call, continued⟩
  have member := (latest?_mem continued.latest).1
  have apart : earlier.intentId ≠ previous.intentId := continued.intentId ▸ distinct
  rw [follows.intent] at same ⊢
  by_cases unsent : previous.snapshot.transmissions = []
  · -- The first transmission: the guard saw `earlier` in its crossed state.
    obtain ⟨current, accepted⟩ := continued.guarded unsent sent
    have present : earlier.snapshot ∈ (latestSnapshots store.records).values := by
      refine Dict.mem_values_iff.mpr ⟨earlier.intentId, ?_⟩
      rw [get?_latestSnapshots, latest]
      rfl
    exact requireNoReplacement_names accepted present ⟨earlierCrossed, same⟩ apart
      (fun rival rivalPresent equal => reachable.attempts_unique present rivalPresent equal)
  · rw [firstSend_append_sent member continued.intentId unsent] at second
    exact unreplaced latest continued.latest apart earlierCrossed
      (follows.crossed_previous crossed ((reachable.crossing member).mp unsent)) same first second
      order

theorem Unreplaced.commit {call : EffectCall}
    {prepared : PreparedEffectPublication} (reachable : Reachable store)
    (unreplaced : Unreplaced store) (accepted : call.prepare store = .ok prepared)
    (tenantHead : Nat) : Unreplaced (store.commit prepared.record tenantHead) := by
  have recorded := EffectCall.prepare_ok accepted
  have next : Reachable (store.commit prepared.record tenantHead) :=
    .commit reachable trivial accepted tenantHead
  intro earlier later latestEarlier latestLater distinct crossedEarlier crossedLater same before
    after first second order
  by_cases ownEarlier : prepared.record.intentId = earlier.intentId
  · rw [← ownEarlier, latest?_commit_self, Option.some.injEq] at latestEarlier
    subst latestEarlier
    rw [latest?_commit_other distinct] at latestLater
    obtain ⟨previous, continued⟩ := recorded.continued_of_crossed crossedEarlier
    exact unreplaced.as_earlier reachable continued latestLater distinct crossedEarlier crossedLater
      same first ((firstSend_append_other distinct).symm.trans second) order
  · rw [latest?_commit_other ownEarlier] at latestEarlier
    have firstBefore := (firstSend_append_other ownEarlier).symm.trans first
    by_cases ownLater : prepared.record.intentId = later.intentId
    · rw [← ownLater, latest?_commit_self, Option.some.injEq] at latestLater
      subst latestLater
      obtain ⟨previous, continued⟩ := recorded.continued_of_crossed crossedLater
      have sent := (next.crossing (List.mem_append_right _ (List.mem_singleton_self _))).mpr
        (crossed_beforeSend crossedLater)
      exact unreplaced.as_later reachable continued latestEarlier distinct crossedEarlier
        crossedLater sent same firstBefore second order
    · rw [latest?_commit_other ownLater] at latestLater
      exact unreplaced latestEarlier latestLater distinct crossedEarlier crossedLater same firstBefore
        ((firstSend_append_other ownLater).symm.trans second) order

theorem Reachable.unreplaced (reachable : Reachable store) :
    Unreplaced store := by
  induction reachable with
  | empty tenantId tenantHead =>
      intro earlier _ latest
      cases latest
  | commit reachable _ accepted tenantHead ih => exact ih.commit reachable accepted tenantHead

/-- Two different crossed intents with one effect were first sent at different
records, and the one sent later names the other among its recovery originals. -/
theorem crossed_intents_named {store : EffectStoreSnapshot} (reachable : Reachable store)
    {left right : EffectRecord} (latestLeft : store.latest? left.intentId = some left)
    (latestRight : store.latest? right.intentId = some right)
    (distinct : left.intentId ≠ right.intentId)
    (crossedLeft : left.snapshot.state ∈ crossedStates)
    (crossedRight : right.snapshot.state ∈ crossedStates)
    (same : SameEffect left.snapshot.intent right.snapshot.intent) :
    ∃ sentLeft sentRight, firstSend store.records left.intentId = some sentLeft ∧
      firstSend store.records right.intentId = some sentRight ∧ sentLeft ≠ sentRight ∧
      (sentLeft < sentRight → Names right.snapshot.intent left.snapshot.intent) ∧
      (sentRight < sentLeft → Names left.snapshot.intent right.snapshot.intent) := by
  have memberLeft := (latest?_mem latestLeft).1
  have memberRight := (latest?_mem latestRight).1
  obtain ⟨sentLeft, foundLeft⟩ := firstSend_isSome memberLeft
    ((reachable.crossing memberLeft).mpr (crossed_beforeSend crossedLeft))
  obtain ⟨sentRight, foundRight⟩ := firstSend_isSome memberRight
    ((reachable.crossing memberRight).mpr (crossed_beforeSend crossedRight))
  refine ⟨sentLeft, sentRight, foundLeft, foundRight, ?_, ?_, ?_⟩
  · rintro rfl
    obtain ⟨_, ownerLeft⟩ := firstSend_owner foundLeft
    obtain ⟨_, ownerRight⟩ := firstSend_owner foundRight
    exact distinct (ownerLeft.symm.trans ownerRight)
  · exact reachable.unreplaced latestLeft latestRight distinct crossedLeft crossedRight same
      foundLeft foundRight
  · exact reachable.unreplaced latestRight latestLeft distinct.symm crossedRight crossedLeft
      same.symm foundRight foundLeft

end Replacement

/-! The original intent of `original_dispatched` together with a compensation for it. -/

def replacementId : Identity := ⟨"replacement", by decide⟩

theorem original_ne_replacement : originalId ≠ replacementId := by decide

def previewAdoption : AdoptedAuthorityAct :=
  ⟨sampleHead, sampleId, sampleHead, sampleHead, sampleHead⟩

/-- The ambiguity that a crossed record leaves. -/
def ambiguityOf (record : EffectRecord) : OriginalAmbiguity where
  originalIntent := record.snapshot.intent.exactHead
  originalBinding := record.snapshot.intent.semantics
  ambiguityReconciliationHead := record.snapshot.ambiguity

def replacementIntent [Hashlib] (original : EffectRecord) : ExternalActionIntent :=
  sampleIntent replacementId (.adopted previewAdoption)
    (.compensation ⟨ambiguityOf original, sampleHead, previewAdoption⟩)
    ⟨[sampleHead], sampleHead_ne_nil⟩

def replacementCommands : List Identity :=
  [⟨"publish again", by decide⟩, ⟨"authorize again", by decide⟩, ⟨"send again", by decide⟩]

theorem replacementIntent_dispatchable [Hashlib] {members : NonemptyTuple ExactHead}
    {store : EffectStoreSnapshot} {original : EffectRecord}
    (dispatched : Dispatched emptyStore store (originalIntent members) originalCommands original) :
    Dispatchable store (replacementIntent original)
      [(ambiguityOf original).ambiguityReconciliationHead] 0 := by
  obtain ⟨progressed, latest, own, state⟩ := dispatched
  have rows : ∀ row ∈ store.records, row.intentId = originalId := by
    intro row member
    rcases progressed.rows row member with impossible | ⟨same, _⟩
    · cases impossible
    · exact same
  have apart : original.intentId ≠ replacementId := by
    rw [EffectRecord.intentId, own]
    exact original_ne_replacement
  have conflicts : Conflicts original.snapshot (replacementIntent original) := by
    refine ⟨by rw [state]; decide, ?_, ?_⟩ <;> rw [own]
    · rfl
    · exact .inl rfl
  refine ⟨fun row member => ?_, progressed.tenant.symm, initial_bindFingerprint ?_,
    requireCurrentAuthority_live rfl Nat.zero_lt_one ?_, fun _ => ?_, fun later others uncrossed => ?_⟩
  · rw [rows row member]
    exact original_ne_replacement
  · simp [EffectPurpose.previewAdoption?, sampleAuthority]
  · intro row member
    obtain rfl := List.mem_singleton.mp member
    exact Nat.zero_lt_one
  · simp [requireFreshRecoveryOriginals, replacementIntent, sampleIntent, bindFingerprint,
      EffectPurpose.isRecovery, EffectPurpose.originals]
  · have still : later.latest? original.intentId = some original := (others _ apart).trans latest
    refine unblocked_recovery rfl still conflicts apart ⟨rfl, rfl, rfl⟩ (fun record found clash => ?_)
    by_cases mine : record.intentId = replacementId
    · have here : later.latest? replacementId = some record := mine ▸ found
      exact absurd clash.1 (uncrossed record here)
    · have before := (others _ mine).symm.trans found
      have same : record.intentId = original.intentId :=
        (rows record (latest?_mem before).1).trans (rows original (latest?_mem latest).1).symm
      rw [same, latest] at before
      exact (Option.some.inj before).symm

theorem original_then_replacement [Hashlib] :
    ∃ store : EffectStoreSnapshot, ∃ left right : EffectRecord, Reachable store ∧
      store.latest? left.intentId = some left ∧ store.latest? right.intentId = some right ∧
      left.intentId ≠ right.intentId ∧ left.snapshot.state ∈ crossedStates ∧
      right.snapshot.state ∈ crossedStates ∧
      SameEffect left.snapshot.intent right.snapshot.intent := by
  obtain ⟨store, original, reachable, dispatched⟩ := original_dispatched ⟨[sampleHead], by decide⟩
  have unseen : ∀ row ∈ store.records, row.command.commandId ∉ replacementCommands := by
    intro row member
    rcases dispatched.progressed.rows row member with impossible | ⟨_, inside⟩
    · cases impossible
    · revert inside
      generalize row.command.commandId = identity
      intro inside
      simp only [originalCommands, List.mem_cons, List.not_mem_nil, or_false] at inside
      rcases inside with rfl | rfl | rfl <;> decide
  obtain ⟨later, replacement, reached, followed⟩ := dispatch_reachable sampleFence reachable
    ⟨fun _ _ _ => trivial, fun _ _ _ => trivial, fun _ _ _ _ => trivial⟩ (by decide) unseen
    (replacementIntent_dispatchable dispatched)
  have apart : original.intentId ≠ replacementId := by
    rw [EffectRecord.intentId, dispatched.own]
    exact original_ne_replacement
  refine ⟨later, original, replacement, reached,
    (followed.progressed.others _ apart).trans dispatched.latest, followed.latest, ?_, ?_, ?_, ?_⟩
  · rw [EffectRecord.intentId, EffectRecord.intentId, dispatched.own, followed.own]
    exact original_ne_replacement
  · rw [dispatched.state]
    decide
  · rw [followed.state]
    decide
  · rw [dispatched.own, followed.own]
    exact ⟨rfl, .inl rfl⟩

/-- Both intents are crossed with one effect; the compensation names the original. -/
theorem original_and_replacement_named :
    ∃ store : EffectStoreSnapshot, ∃ left right : EffectRecord, @Reachable Sha256.hashlib store ∧
      left.intentId ≠ right.intentId ∧ left.snapshot.state ∈ crossedStates ∧
      right.snapshot.state ∈ crossedStates ∧
      ∃ sentLeft sentRight, firstSend store.records left.intentId = some sentLeft ∧
        firstSend store.records right.intentId = some sentRight ∧ sentLeft ≠ sentRight ∧
        (sentLeft < sentRight → Names right.snapshot.intent left.snapshot.intent) ∧
        (sentRight < sentLeft → Names left.snapshot.intent right.snapshot.intent) := by
  obtain ⟨store, left, right, reachable, latestLeft, latestRight, distinct, crossedLeft,
    crossedRight, same⟩ := @original_then_replacement Sha256.hashlib
  exact ⟨store, left, right, reachable, distinct, crossedLeft, crossedRight,
    @crossed_intents_named Sha256.hashlib store reachable left right latestLeft latestRight distinct
      crossedLeft crossedRight same⟩

end Chiplog.Effects
