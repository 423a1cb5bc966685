import Chiplog.Data.Sha256
import Chiplog.Effects.Progress

namespace Chiplog.Effects

open Chiplog.Data

/-! The lifecycle of one intent.

Each stream of a reachable store is linked: an accepting record, then one accepted
call after another.  The clauses of `Lifecycle` are facts about one link, carried to
the whole stream by the rules of `Linked`. -/

/-- States without a transmission. -/
def beforeSendStates : List AttemptState :=
  [.intentRecorded, .heldBeforeSend, .dispatchAuthorized, .cancelledBeforeSend,
    .supersededBeforeSend]

theorem transitions_terminal {before : AttemptState} (terminal : before ∈ terminalStates) :
    transitions before = [] := by
  cases before <;> first | rfl | simp [terminalStates] at terminal

/-- A registered edge other than the first send keeps the side of the send boundary. -/
theorem transitions_beforeSend {before after : AttemptState} (edge : after ∈ transitions before)
    (notSend : after ≠ .sendCommitted) :
    after ∈ beforeSendStates ↔ before ∈ beforeSendStates := by
  cases before <;> cases after <;> simp_all [transitions, beforeSendStates]

theorem transitions_sendCommitted {before : AttemptState}
    (edge : .sendCommitted ∈ transitions before) : before = .dispatchAuthorized := by
  cases before <;> simp_all [transitions]

theorem Disposition.state_beforeSend (disposition : Disposition) :
    disposition.state ∈ beforeSendStates := by
  cases disposition <;> decide

theorem Disposition.state_ne_send (disposition : Disposition) :
    disposition.state ≠ .sendCommitted := by
  cases disposition <;> decide

theorem crossed_beforeSend {state : AttemptState} (crossed : state ∈ crossedStates) :
    state ∉ beforeSendStates := by
  cases state <;> simp_all [crossedStates, beforeSendStates]

theorem reduced_beforeSend {before after : AttemptState} (reduced : Reduced before after) :
    after ∈ beforeSendStates ↔ before ∈ beforeSendStates := by
  rcases reduced with rfl | ⟨crossed, edge⟩
  · rfl
  · refine transitions_beforeSend edge ?_
    rintro rfl
    rw [transitions_sendCommitted edge] at crossed
    simp [crossedStates] at crossed

/-- Every retained inventory of `before` is a beginning of the same inventory of `after`. -/
structure Extends (before after : EffectSnapshot) : Prop where
  authorizations : before.authorizations <+: after.authorizations
  transmissions : before.transmissions <+: after.transmissions
  evidence : before.evidence <+: after.evidence
  evidenceRecords : before.evidenceRecords <+: after.evidenceRecords

def OrdinalsComplete (transmissions : List TransmissionAttempt) : Prop :=
  transmissions.map (·.ordinal.toNat) = List.range transmissions.length

theorem OrdinalsComplete.append {transmissions : List TransmissionAttempt}
    {child : TransmissionAttempt} (complete : OrdinalsComplete transmissions)
    (next : child.ordinal.toNat = transmissions.length) :
    OrdinalsComplete (transmissions ++ [child]) := by
  unfold OrdinalsComplete at *
  simp [complete, next, List.range_succ]

section Lifecycle

variable [Hashlib]

namespace Advanced

variable {store : EffectStoreSnapshot} {before after : EffectSnapshot} {call : EffectCall}
  {kind : RecordKind}

theorem intent (advanced : Advanced store before call after kind) :
    after.intent = before.intent := by
  cases advanced <;> rfl

theorem state (advanced : Advanced store before call after kind) :
    after.state = before.state ∨ after.state ∈ transitions before.state := by
  cases advanced with
  | authorized _ _ _ edge => exact .inr edge
  | disposed edge => exact .inr edge
  | denied edge => exact .inr edge
  | sent _ _ _ _ _ edge => exact edge.imp_left Eq.symm
  | retransmitted => exact .inl rfl
  | evidenced _ reduced _ => exact reduced.imp_right And.right
  | reconciled _ reduced _ => exact reduced.imp_right And.right

theorem extends_before (advanced : Advanced store before call after kind) :
    Extends before after := by
  cases advanced <;>
    exact ⟨by simp, by simp, by simp, by simp⟩

theorem ordinals (advanced : Advanced store before call after kind)
    (complete : OrdinalsComplete before.transmissions) : OrdinalsComplete after.transmissions := by
  cases advanced with
  | sent child _ _ unsent first _ =>
      refine complete.append ?_
      simp [first, unsent]
  | retransmitted child _ _ later _ => exact complete.append later
  | authorized => exact complete
  | disposed => exact complete
  | denied => exact complete
  | evidenced => exact complete
  | reconciled => exact complete

theorem crossing (advanced : Advanced store before call after kind)
    (crossing : before.transmissions ≠ [] ↔ before.state ∉ beforeSendStates) :
    after.transmissions ≠ [] ↔ after.state ∉ beforeSendStates := by
  cases advanced with
  | authorized _ _ _ edge =>
      rw [crossing, transitions_beforeSend edge (by decide)]
  | disposed edge => rw [crossing, transitions_beforeSend edge (Disposition.state_ne_send _)]
  | denied edge => rw [crossing, transitions_beforeSend edge (Disposition.state_ne_send _)]
  | sent => simp [beforeSendStates]
  | retransmitted child _ crossed _ lineage =>
      simpa using crossing.mp lineage
  | evidenced _ reduced _ => rw [crossing, reduced_beforeSend reduced]
  | reconciled _ reduced _ => rw [crossing, reduced_beforeSend reduced]

end Advanced

/-- The first record of some intent, whatever the store was. -/
def Starts (record : EffectRecord) : Prop :=
  ∃ store call, Begun store call record

/-- The next record of an intent, whatever the rest of the store was. -/
def Follows (previous record : EffectRecord) : Prop :=
  ∃ store call, Continued store call previous record

theorem Starts.initial (starts : Starts record) :
    record.snapshot.state = .intentRecorded ∧ record.snapshot.transmissions = [] ∧
      record.predecessor = none := by
  obtain ⟨_, _, begun⟩ := starts
  obtain ⟨intent, snapshot, kind, created, bound⟩ := begun.bound
  obtain ⟨_, state, _, transmissions, _⟩ := initial_ok created
  exact ⟨bound.state.trans state, bound.transmissions.trans transmissions, bound.predecessor⟩

namespace Follows

variable {previous record : EffectRecord}

theorem intent (follows : Follows previous record) :
    record.snapshot.intent = previous.snapshot.intent := by
  obtain ⟨_, _, _, _, draft, kind, advanced, bound⟩ := follows
  exact bound.intent.trans advanced.intent

theorem state (follows : Follows previous record) :
    record.snapshot.state = previous.snapshot.state ∨
      record.snapshot.state ∈ transitions previous.snapshot.state := by
  obtain ⟨_, _, _, _, draft, kind, advanced, bound⟩ := follows
  rw [bound.state]
  exact advanced.state

theorem terminal (follows : Follows previous record)
    (terminal : previous.snapshot.state ∈ terminalStates) :
    record.snapshot.state = previous.snapshot.state := by
  rcases follows.state with same | edge
  · exact same
  · rw [transitions_terminal terminal] at edge
    cases edge

theorem extends_previous (follows : Follows previous record) :
    Extends previous.snapshot record.snapshot := by
  obtain ⟨_, _, _, _, draft, kind, advanced, bound⟩ := follows
  have grown := advanced.extends_before
  exact ⟨bound.authorizations ▸ grown.authorizations, bound.transmissions ▸ grown.transmissions,
    bound.evidence ▸ grown.evidence, bound.evidenceRecords ▸ grown.evidenceRecords⟩

theorem ordinals (follows : Follows previous record)
    (complete : OrdinalsComplete previous.snapshot.transmissions) :
    OrdinalsComplete record.snapshot.transmissions := by
  obtain ⟨_, _, _, _, draft, kind, advanced, bound⟩ := follows
  rw [bound.transmissions]
  exact advanced.ordinals complete

theorem crossing (follows : Follows previous record)
    (crossing : previous.snapshot.transmissions ≠ [] ↔
      previous.snapshot.state ∉ beforeSendStates) :
    record.snapshot.transmissions ≠ [] ↔ record.snapshot.state ∉ beforeSendStates := by
  obtain ⟨_, _, _, _, draft, kind, advanced, bound⟩ := follows
  rw [bound.transmissions, bound.state]
  exact advanced.crossing crossing

theorem predecessor (follows : Follows previous record) :
    record.predecessor = some previous.record := by
  obtain ⟨_, _, _, _, draft, kind, _, bound⟩ := follows
  exact bound.predecessor

end Follows

variable {store : EffectStoreSnapshot}

theorem Continued.intentId {call : EffectCall}
    {previous record : EffectRecord} (continued : Continued store call previous record) :
    record.intentId = previous.intentId :=
  congrArg ExternalActionIntent.intentId (Follows.intent ⟨store, call, continued⟩)

/-- One call extends the stream of its own intent by a linked record. -/
theorem Recorded.linked {call : EffectCall} {record : EffectRecord}
    (recorded : Recorded store call record)
    (linked : Linked Starts Follows (store.stream record.intentId)) :
    Linked Starts Follows (store.stream record.intentId ++ [record]) := by
  rcases recorded.shape with begun | ⟨previous, continued⟩
  · have empty : store.stream record.intentId = [] :=
      List.getLast?_eq_none_iff.mp (latest?_eq_none.mpr begun.fresh)
    rw [empty]
    exact .singleton ⟨store, call, begun⟩
  · refine linked.snoc ?_ ⟨store, call, continued⟩
    rw [continued.intentId]
    exact continued.latest

theorem Reachable.linked (reachable : Reachable store)
    (intentId : Identity) : Linked Starts Follows (store.stream intentId) := by
  induction reachable with
  | empty tenantId tenantHead => exact .nil
  | @commit store call prepared _ _ accepted tenantHead ih =>
      have recorded := EffectCall.prepare_ok accepted
      by_cases same : prepared.record.intentId = intentId
      · subst same
        simp only [EffectStoreSnapshot.stream, EffectStoreSnapshot.commit, streamOf_append_self]
        exact recorded.linked ih
      · simp only [EffectStoreSnapshot.stream, EffectStoreSnapshot.commit,
          streamOf_append_other _ same]
        exact ih

/-- The registered lifecycle of the records of one intent. -/
structure Lifecycle (stream : List EffectRecord) : Prop where
  begins : ∀ first ∈ stream.head?, first.snapshot.state = .intentRecorded
  registered : stream.IsChain (fun previous record =>
    record.snapshot.state = previous.snapshot.state ∨
      record.snapshot.state ∈ transitions previous.snapshot.state)
  absorbing : stream.Pairwise (fun earlier later =>
    earlier.snapshot.state ∈ terminalStates → later.snapshot.state = earlier.snapshot.state)
  constant : ∀ record ∈ stream, ∀ other ∈ stream, record.snapshot.intent = other.snapshot.intent
  retained : stream.IsChain (fun previous record => Extends previous.snapshot record.snapshot)
  ordinals : ∀ record ∈ stream, OrdinalsComplete record.snapshot.transmissions
  crossing : ∀ record ∈ stream,
    record.snapshot.transmissions ≠ [] ↔ record.snapshot.state ∉ beforeSendStates
  unpreceded : ∀ first ∈ stream.head?, first.predecessor = none
  preceded : stream.IsChain (fun previous record => record.predecessor = some previous.record)

theorem Lifecycle.of_linked {stream : List EffectRecord}
    (linked : Linked Starts Follows stream) : Lifecycle stream where
  begins first member := (linked.start first member).initial.1
  registered := linked.chain.imp (fun _ _ follows => follows.state)
  absorbing := by
    refine linked.ordered _ (fun first second terminal => ?_) (fun _ _ follows => follows.terminal)
    have same := first terminal
    exact (second (same ▸ terminal)).trans same
  constant := linked.constant (fun _ _ follows => follows.intent)
  retained := linked.chain.imp (fun _ _ follows => follows.extends_previous)
  ordinals := by
    refine linked.forall_mem _ (fun record starts => ?_)
      (fun _ _ kept follows => follows.ordinals kept)
    simp [OrdinalsComplete, starts.initial.2.1]
  crossing := by
    refine linked.forall_mem _ (fun record starts => ?_)
      (fun _ _ kept follows => follows.crossing kept)
    simp [starts.initial.1, starts.initial.2.1, beforeSendStates]
  unpreceded first member := (linked.start first member).initial.2.2
  preceded := linked.chain.imp (fun _ _ follows => follows.predecessor)

/-- In every reachable store the records of every intent follow the lifecycle. -/
theorem reachable_lifecycle {store : EffectStoreSnapshot} (reachable : Reachable store)
    (intentId : Identity) : Lifecycle (store.stream intentId) :=
  .of_linked (reachable.linked intentId)

end Lifecycle

/-- The dispatched original intent has a nonempty lifecycle. -/
theorem reachable_lifecycle_original :
    ∃ store : EffectStoreSnapshot, @Reachable Sha256.hashlib store ∧
      store.stream originalId ≠ [] ∧ Lifecycle (store.stream originalId) := by
  obtain ⟨store, record, reachable, dispatched⟩ :=
    @original_dispatched Sha256.hashlib ⟨[sampleHead], by decide⟩
  refine ⟨store, reachable, ?_, @reachable_lifecycle Sha256.hashlib store reachable originalId⟩
  have latest := dispatched.latest
  rw [EffectRecord.intentId, dispatched.own] at latest
  exact List.ne_nil_of_mem (List.mem_of_getLast? latest)

end Chiplog.Effects
