import Chiplog.Composition.Emission
import Chiplog.Composition.PostgresCompletion
import Chiplog.Data.JsonEdges
import Mathlib.Data.Multiset.Filter

namespace Chiplog.Composition

open Chiplog.Data Chiplog.Platform Chiplog.Effects
open Chiplog.AgentLoop (RunVersion)

/-! At most one physical emission.

What one step can add to the log is said once, in `LogChange` and `Claims`.  The ledger of SENDs and
claims, the custody of permits and the tickets in flight are all derived from it. -/

section Streams

variable {β : Type} [Content β]

theorem streamIn_append [CustodyRow α] [Stores β α] (front rest : List (Record β))
    (streamId : String) :
    streamIn α (front ++ rest) streamId = streamIn α front streamId ++ streamIn α rest streamId := by
  simp [streamIn, storedIn_append]

theorem streamIn_record [CustodyRow α] [Stores β α] (value : α) (streamId : String) :
    streamIn α [(record value : Record β)] streamId =
      if CustodyRow.stream value = streamId then [value] else [] := by
  rw [streamIn, record, storedIn_written, List.filter_singleton]
  simp

theorem streamIn_foreign [CustodyRow α] [Stores β α] {records : List (Record β)}
    (foreign : ∀ item ∈ records, item.schemaId ≠ Schema.schemaId α) (streamId : String) :
    streamIn α records streamId = [] := by
  simp [streamIn, storedIn_foreign foreign]

theorem streamIn_other [CustodyRow α] [Stores β α] [CustodyRow γ] [Stores β γ] (value : γ)
    (differs : Schema.schemaId γ ≠ Schema.schemaId α) (streamId : String) :
    streamIn α [(record value : Record β)] streamId = [] := by
  apply streamIn_foreign
  intro item member
  rw [List.mem_singleton.mp member, record_schemaId]
  exact differs

theorem familyIn_eq_nil {ρ : Family → Type} [∀ family, CustodyRow (ρ family)]
    [∀ family, Stores β (ρ family)] {records : List (Record β)} {streamId : String} :
    familyIn ρ records streamId = [] ↔
      streamIn (ρ .tool) records streamId = [] ∧ streamIn (ρ .action) records streamId = [] := by
  simp [familyIn]

theorem familyIn_append_left {ρ : Family → Type} [∀ family, CustodyRow (ρ family)]
    [∀ family, Stores β (ρ family)] {front rest : List (Record β)} {streamId : String}
    (empty : familyIn ρ rest streamId = []) :
    familyIn ρ (front ++ rest) streamId = familyIn ρ front streamId := by
  obtain ⟨tools, actions⟩ := familyIn_eq_nil.mp empty
  simp [familyIn, streamIn_append, tools, actions]

theorem familyIn_append_right {ρ : Family → Type} [∀ family, CustodyRow (ρ family)]
    [∀ family, Stores β (ρ family)] {front rest : List (Record β)} {streamId : String}
    (empty : familyIn ρ front streamId = []) :
    familyIn ρ (front ++ rest) streamId = familyIn ρ rest streamId := by
  obtain ⟨tools, actions⟩ := familyIn_eq_nil.mp empty
  simp [familyIn, streamIn_append, tools, actions]

theorem familyIn_record {ρ : Family → Type} [∀ family, CustodyRow (ρ family)]
    [∀ family, Stores β (ρ family)]
    (differs : Schema.schemaId (ρ .tool) ≠ Schema.schemaId (ρ .action)) {family : Family}
    (value : ρ family) (streamId : String) :
    familyIn ρ [(record value : Record β)] streamId =
      if CustodyRow.stream value = streamId then [⟨family, value⟩] else [] := by
  cases family with
  | tool =>
      rw [familyIn, streamIn_record, streamIn_other value differs]
      split <;> simp
  | action =>
      rw [familyIn, streamIn_record, streamIn_other value differs.symm]
      split <;> simp

theorem familyIn_other {ρ : Family → Type} [∀ family, CustodyRow (ρ family)]
    [∀ family, Stores β (ρ family)] [CustodyRow γ] [Stores β γ] (value : γ)
    (differs : ∀ family, Schema.schemaId γ ≠ Schema.schemaId (ρ family)) (streamId : String) :
    familyIn ρ [(record value : Record β)] streamId = [] :=
  familyIn_eq_nil.mpr ⟨streamIn_other value (differs .tool) streamId,
    streamIn_other value (differs .action) streamId⟩

variable {ρ : Family → Type} {δ : Type} [∀ family, CustodyRow (ρ family)]
  [∀ family, Stores β (ρ family)] [CustodyRow δ] [Stores β δ]
  {effect : ∀ family, ρ family → ε} {delivery : δ → ε} {front rest : List (Record β)}
  {target : Target}

theorem foreign_nil : Foreign ([] : List (Record β)) := by
  simp [Foreign]

theorem entriesIn_append_left (empty : entriesIn ρ δ effect delivery target rest = []) :
    entriesIn ρ δ effect delivery target (front ++ rest) =
      entriesIn ρ δ effect delivery target front := by
  obtain ⟨surface, id⟩ := target
  cases surface with
  | effect =>
      simp only [entriesIn, List.map_eq_nil_iff] at empty ⊢
      rw [familyIn_append_left empty]
  | delivery =>
      simp only [entriesIn, List.map_eq_nil_iff] at empty ⊢
      rw [streamIn_append, empty, List.append_nil]

theorem entriesIn_append_right (empty : entriesIn ρ δ effect delivery target front = []) :
    entriesIn ρ δ effect delivery target (front ++ rest) =
      entriesIn ρ δ effect delivery target rest := by
  obtain ⟨surface, id⟩ := target
  cases surface with
  | effect =>
      simp only [entriesIn, List.map_eq_nil_iff] at empty ⊢
      rw [familyIn_append_right empty]
  | delivery =>
      simp only [entriesIn, List.map_eq_nil_iff] at empty ⊢
      rw [streamIn_append, empty, List.nil_append]

theorem entriesIn_foreign (families : ∀ family, Schema.schemaId (ρ family) ∈ custodySchemas)
    (deliveries : Schema.schemaId δ ∈ custodySchemas) (foreign : Foreign rest) (target : Target) :
    entriesIn ρ δ effect delivery target rest = [] := by
  have absent : ∀ schema ∈ custodySchemas, ∀ item ∈ rest, item.schemaId ≠ schema := by
    rintro schema known item member rfl
    exact foreign item member known
  obtain ⟨surface, id⟩ := target
  cases surface with
  | effect =>
      rw [entriesIn, List.map_eq_nil_iff, familyIn_eq_nil]
      exact ⟨streamIn_foreign (absent _ (families .tool)) id,
        streamIn_foreign (absent _ (families .action)) id⟩
  | delivery =>
      rw [entriesIn, List.map_eq_nil_iff]
      exact streamIn_foreign (absent _ deliveries) id

theorem entriesIn_other [CustodyRow γ] [Stores β γ] (value : γ)
    (families : ∀ family, Schema.schemaId γ ≠ Schema.schemaId (ρ family))
    (deliveries : Schema.schemaId γ ≠ Schema.schemaId δ) (target : Target) :
    entriesIn ρ δ effect delivery target [(record value : Record β)] = [] := by
  obtain ⟨surface, id⟩ := target
  cases surface with
  | effect => rw [entriesIn, List.map_eq_nil_iff, familyIn_other value families]
  | delivery => rw [entriesIn, List.map_eq_nil_iff, streamIn_other value deliveries]

theorem entriesIn_effect {family : Family} (value : ρ family)
    (differs : Schema.schemaId (ρ .tool) ≠ Schema.schemaId (ρ .action))
    (deliveries : ∀ family, Schema.schemaId (ρ family) ≠ Schema.schemaId δ) (target : Target) :
    entriesIn ρ δ effect delivery target [(record value : Record β)] =
      if target = ⟨.effect, CustodyRow.stream value⟩ then [effect family value] else [] := by
  obtain ⟨surface, id⟩ := target
  cases surface with
  | effect =>
      rw [entriesIn, familyIn_record differs]
      by_cases same : CustodyRow.stream value = id
      · simp [same]
      · simp [same, Ne.symm same]
  | delivery =>
      rw [entriesIn, streamIn_other value (deliveries family)]
      simp

theorem entriesIn_delivery (value : δ)
    (families : ∀ family, Schema.schemaId δ ≠ Schema.schemaId (ρ family)) (target : Target) :
    entriesIn ρ δ effect delivery target [(record value : Record β)] =
      if target = ⟨.delivery, CustodyRow.stream value⟩ then [delivery value] else [] := by
  obtain ⟨surface, id⟩ := target
  cases surface with
  | effect =>
      rw [entriesIn, familyIn_other value families]
      simp
  | delivery =>
      rw [entriesIn, streamIn_record]
      by_cases same : CustodyRow.stream value = id
      · simp [same]
      · simp [same, Ne.symm same]

end Streams

section Ledger

variable {β : Type} [Content β] [EffectStores β] [DeliveryStores β] {records : List (Record β)}

theorem sendsIn_foreign (foreign : Foreign records)
    (target : Target) : sendsIn target records = [] :=
  entriesIn_foreign (by intro family; cases family <;> decide) (by decide) foreign target

theorem claimsIn_foreign (foreign : Foreign records)
    (target : Target) : claimsIn target records = [] :=
  entriesIn_foreign (by intro family; cases family <;> decide) (by decide) foreign target

theorem sendsIn_effectSend {family : Family} (send : EffectSend family) (target : Target) :
    sendsIn target [(record send : Record β)] =
      if target = ⟨.effect, send.streamId⟩ then [(send.head, send.ticket)] else [] :=
  entriesIn_effect send (by decide) (by intro family; cases family <;> decide) target

theorem claimsIn_effectSend {family : Family} (send : EffectSend family) (target : Target) :
    claimsIn target [(record send : Record β)] = [] :=
  entriesIn_other send (by intro other; cases family <;> cases other <;> decide)
    (by cases family <;> decide) target

theorem sendsIn_effectClaim {family : Family} (claim : EffectClaim family) (target : Target) :
    sendsIn target [(record claim : Record β)] = [] :=
  entriesIn_other claim (by intro other; cases family <;> cases other <;> decide)
    (by cases family <;> decide) target

theorem claimsIn_effectClaim {family : Family} (claim : EffectClaim family) (target : Target) :
    claimsIn target [(record claim : Record β)] =
      if target = ⟨.effect, claim.streamId⟩ then [(claim.head, claim.sendHead)] else [] :=
  entriesIn_effect claim (by decide) (by intro family; cases family <;> decide) target

theorem sendsIn_deliverySend (send : NativeDeliverySendV1) (target : Target) :
    sendsIn target [(record send : Record β)] =
      if target = ⟨.delivery, send.deliveryId⟩ then [(send.head, send.ticket)] else [] :=
  entriesIn_delivery send (by intro family; cases family <;> decide) target

theorem claimsIn_deliverySend (send : NativeDeliverySendV1) (target : Target) :
    claimsIn target [(record send : Record β)] = [] :=
  entriesIn_other send (by intro family; cases family <;> decide) (by decide) target

theorem sendsIn_deliveryClaim (claim : NativeDeliveryClaimV1) (target : Target) :
    sendsIn target [(record claim : Record β)] = [] :=
  entriesIn_other claim (by intro family; cases family <;> decide) (by decide) target

theorem claimsIn_deliveryClaim (claim : NativeDeliveryClaimV1) (target : Target) :
    claimsIn target [(record claim : Record β)] =
      if target = ⟨.delivery, claim.deliveryId⟩ then [(claim.head, claim.sendHead)] else [] :=
  entriesIn_delivery claim (by intro family; cases family <;> decide) target

/-- What a task in flight relies on. -/
def Task.Backed (records : List (Record β)) : Task β → Prop
  | .claimed call ticket | .sending call ticket =>
      ∃ sendHead, sendsIn call.target records = [(sendHead, ticket)]
  | .publishing _ _ _ added => Foreign added
  | _ => True

theorem Task.Backed.mono {task : Task β} {before after : List (Record β)} (backed : task.Backed before)
    (keeps : ∀ target send, sendsIn target before = [send] → sendsIn target after = [send]) :
    task.Backed after := by
  cases task with
  | claimed call ticket =>
      obtain ⟨sendHead, only⟩ := backed
      exact ⟨sendHead, keeps _ _ only⟩
  | sending call ticket =>
      obtain ⟨sendHead, only⟩ := backed
      exact ⟨sendHead, keeps _ _ only⟩
  | publishing call key expectedHead added => exact backed
  | working runtime peer work => trivial
  | emit call => trivial
  | reconcile call => trivial
  | received call raw => trivial

variable [Hashlib]

/-- Every stored claim was written with its own head. -/
structure ClaimsWritten (records : List (Record β)) : Prop where
  effect : ∀ family, ∀ item ∈ records, item.schemaId = Schema.schemaId (EffectClaim family) →
    ∃ value : EffectClaim family, item = record value ∧ headed "effect:" value = value
  delivery : ∀ item ∈ records, item.schemaId = Schema.schemaId NativeDeliveryClaimV1 →
    ∃ value : NativeDeliveryClaimV1, item = record value ∧ headed "completion:" value = value

theorem ClaimsWritten.append {front rest : List (Record β)} (left : ClaimsWritten front)
    (right : ClaimsWritten rest) : ClaimsWritten (front ++ rest) := by
  constructor
  · intro family item member
    rcases List.mem_append.mp member with earlier | later
    · exact left.effect family item earlier
    · exact right.effect family item later
  · intro item member
    rcases List.mem_append.mp member with earlier | later
    · exact left.delivery item earlier
    · exact right.delivery item later

/-- Records whose schema is not a claim's. -/
theorem ClaimsWritten.of_absent
    (effect : ∀ family, ∀ item ∈ records, item.schemaId ≠ Schema.schemaId (EffectClaim family))
    (delivery : ∀ item ∈ records, item.schemaId ≠ Schema.schemaId NativeDeliveryClaimV1) :
    ClaimsWritten records :=
  ⟨fun family item member same => absurd same (effect family item member),
    fun item member same => absurd same (delivery item member)⟩

theorem Foreign.claimsWritten (foreign : Foreign records) :
    ClaimsWritten records := by
  apply ClaimsWritten.of_absent
  · intro family item member same
    apply foreign item member
    rw [same]
    cases family <;> decide
  · intro item member same
    apply foreign item member
    rw [same]
    decide

theorem claimsWritten_effectSend {family : Family} (send : EffectSend family) :
    ClaimsWritten [(record send : Record β)] := by
  apply ClaimsWritten.of_absent
  · intro other item member
    rw [List.mem_singleton.mp member, record_schemaId]
    cases family <;> cases other <;> decide
  · intro item member
    rw [List.mem_singleton.mp member, record_schemaId]
    cases family <;> decide

theorem claimsWritten_deliverySend (send : NativeDeliverySendV1) :
    ClaimsWritten [(record send : Record β)] := by
  apply ClaimsWritten.of_absent
  · intro other item member
    rw [List.mem_singleton.mp member, record_schemaId]
    cases other <;> decide
  · intro item member
    rw [List.mem_singleton.mp member, record_schemaId]
    decide

theorem claimsWritten_effectClaim {family : Family} {claim : EffectClaim family}
    (selfHeaded : headed "effect:" claim = claim) :
    ClaimsWritten [(record claim : Record β)] := by
  constructor
  · intro other item member same
    obtain rfl := List.mem_singleton.mp member
    rw [record_schemaId] at same
    obtain rfl : family = other := by
      cases family <;> cases other
      · rfl
      · exact absurd same (by decide)
      · exact absurd same (by decide)
      · rfl
    exact ⟨claim, rfl, selfHeaded⟩
  · intro item member same
    rw [List.mem_singleton.mp member, record_schemaId] at same
    exact absurd same (by cases family <;> decide)

theorem claimsWritten_deliveryClaim {claim : NativeDeliveryClaimV1}
    (selfHeaded : headed "completion:" claim = claim) :
    ClaimsWritten [(record claim : Record β)] := by
  constructor
  · intro other item member same
    rw [List.mem_singleton.mp member, record_schemaId] at same
    exact absurd same (by cases other <;> decide)
  · intro item member _
    exact ⟨claim, List.mem_singleton.mp member, selfHeaded⟩

/-- What a step that claims nothing can add to the log: nothing that custody reads, or the
first SEND of a target. -/
inductive LogChange (before after : List (Record β)) : Prop
  | other {added : List (Record β)} (grown : after = before ++ added)
      (unsent : ∀ target, sendsIn target added = [])
      (unclaimed : ∀ target, claimsIn target added = []) (written : ClaimsWritten added)
  | send (target : Target) (send : String × IssuedEffectSendTicket) {added : List (Record β)}
      (grown : after = before ++ added) (first : sendsIn target before = [])
      (sent : ∀ other, sendsIn other added = if other = target then [send] else [])
      (unclaimed : ∀ target, claimsIn target added = []) (written : ClaimsWritten added)

/-- What a claiming step adds: the first claim of a target, on its only SEND. -/
structure Claims (before after : List (Record β)) (target : Target)
    (ticket : IssuedEffectSendTicket) : Prop where
  change : ∃ (added : List (Record β)) (claimHead sendHead : String),
    after = before ++ added ∧ claimsIn target before = [] ∧
      sendsIn target before = [(sendHead, ticket)] ∧
      (∀ other, claimsIn other added = if other = target then [(claimHead, sendHead)] else []) ∧
      (∀ other, sendsIn other added = []) ∧ ClaimsWritten added

variable {before after : List (Record β)}

theorem LogChange.foreign {added : List (Record β)} (foreign : Foreign added)
    (grown : after = before ++ added) : LogChange before after :=
  .other grown (sendsIn_foreign foreign) (claimsIn_foreign foreign) foreign.claimsWritten

theorem LogChange.refl (records : List (Record β)) : LogChange records records :=
  .foreign foreign_nil (List.append_nil _).symm

theorem LogChange.written (change : LogChange before after) (earlier : ClaimsWritten before) :
    ClaimsWritten after := by
  cases change with
  | other grown unsent unclaimed written =>
      rw [grown]
      exact earlier.append written
  | send subject new grown first sent unclaimed written =>
      rw [grown]
      exact earlier.append written

theorem LogChange.claims (change : LogChange before after) (target : Target) :
    claimsIn target after = claimsIn target before := by
  cases change with
  | other grown unsent unclaimed written =>
      rw [grown]
      exact entriesIn_append_left (unclaimed target)
  | send subject new grown first sent unclaimed written =>
      rw [grown]
      exact entriesIn_append_left (unclaimed target)

theorem LogChange.keeps_send (change : LogChange before after) {target : Target}
    {send : String × IssuedEffectSendTicket} (only : sendsIn target before = [send]) :
    sendsIn target after = [send] := by
  cases change with
  | other grown unsent unclaimed written =>
      rw [grown, ← only]
      exact entriesIn_append_left (unsent target)
  | send subject new grown first sent unclaimed written =>
      rename_i added
      have other : target ≠ subject := by
        rintro rfl
        rw [only] at first
        cases first
      have none : sendsIn target added = [] := by rw [sent target, if_neg other]
      rw [grown, ← only]
      exact entriesIn_append_left none

theorem Claims.keeps_send {target subject : Target} {ticket : IssuedEffectSendTicket}
    (claims : Claims before after subject ticket) {send : String × IssuedEffectSendTicket}
    (only : sendsIn target before = [send]) : sendsIn target after = [send] := by
  obtain ⟨added, _, _, grown, _, _, _, unsent, _⟩ := claims.change
  rw [grown, ← only]
  exact entriesIn_append_left (unsent target)

/-- The world as custody of targets: durable claims, claims not yet acted on, provider calls. -/
def World.custody (world : World β) : Custody Target :=
  ⟨{target | claimsIn target world.user.snapshot.records ≠ []},
    world.tasks.filterMap Task.permit, world.emissions.map Emission.target⟩

/-- Every claim of a target is the only one and names the only SEND. -/
def ClaimsBacked (records : List (Record β)) : Prop :=
  ∀ target, claimsIn target records ≠ [] → ∃ claimHead sendHead ticket,
    claimsIn target records = [(claimHead, sendHead)] ∧
      sendsIn target records = [(sendHead, ticket)]

structure World.Sound (world : World β) : Prop where
  written : ClaimsWritten world.user.snapshot.records
  ledger : ClaimsBacked world.user.snapshot.records
  custody : world.custody.Sound
  tasks : ∀ task ∈ world.tasks, task.Backed world.user.snapshot.records
  emitted : ∀ emission ∈ world.emissions, ∃ sendHead,
    sendsIn emission.target world.user.snapshot.records = [(sendHead, emission.ticket)]

namespace World.Sound

variable {user next : UserState β} {task other : Task β} {rest tasks : Multiset (Task β)}
  {emissions : List Emission}

theorem start (sound : World.Sound ⟨user, tasks, emissions⟩) (none : task.permit = none)
    (backed : task.Backed user.snapshot.records) :
    World.Sound ⟨user, task ::ₘ tasks, emissions⟩ := by
  refine ⟨sound.written, sound.ledger, ?_, ?_, sound.emitted⟩
  · have same : World.custody ⟨user, task ::ₘ tasks, emissions⟩ =
        World.custody ⟨user, tasks, emissions⟩ := by
      simp only [World.custody, Multiset.filterMap_cons_none _ _ none]
    rw [same]
    exact sound.custody
  · intro member inside
    rcases Multiset.mem_cons.mp inside with rfl | earlier
    · exact backed
    · exact sound.tasks member earlier

theorem drop (sound : World.Sound ⟨user, task ::ₘ rest, emissions⟩) :
    World.Sound ⟨user, rest, emissions⟩ := by
  refine ⟨sound.written, sound.ledger, ?_, ?_, sound.emitted⟩
  · refine Custody.Step.sound ?_ sound.custody
    cases held : task.permit with
    | none =>
        simp only [World.custody, Multiset.filterMap_cons_none _ _ held]
        exact .idle _
    | some target =>
        simp only [World.custody, Multiset.filterMap_cons_some _ _ _ held]
        exact .lose _ _ _ target
  · exact fun member inside => sound.tasks member (Multiset.mem_cons_of_mem inside)

/-- The same permit may pass from one task to its continuation. -/
theorem advance (sound : World.Sound ⟨user, task ::ₘ rest, emissions⟩)
    (same : other.permit = task.permit) (backed : other.Backed user.snapshot.records) :
    World.Sound ⟨user, other ::ₘ rest, emissions⟩ := by
  refine ⟨sound.written, sound.ledger, ?_, ?_, sound.emitted⟩
  · have unchanged : World.custody ⟨user, other ::ₘ rest, emissions⟩ =
        World.custody ⟨user, task ::ₘ rest, emissions⟩ := by
      cases held : task.permit with
      | none =>
          rw [held] at same
          simp only [World.custody, Multiset.filterMap_cons_none _ _ held,
            Multiset.filterMap_cons_none _ _ same]
      | some target =>
          rw [held] at same
          simp only [World.custody, Multiset.filterMap_cons_some _ _ _ held,
            Multiset.filterMap_cons_some _ _ _ same]
    rw [unchanged]
    exact sound.custody
  · intro member inside
    rcases Multiset.mem_cons.mp inside with rfl | earlier
    · exact backed
    · exact sound.tasks member (Multiset.mem_cons_of_mem earlier)

theorem log (sound : World.Sound ⟨user, tasks, emissions⟩)
    (change : LogChange user.snapshot.records next.snapshot.records) :
    World.Sound ⟨next, tasks, emissions⟩ := by
  refine ⟨change.written sound.written, ?_, ?_, ?_, ?_⟩
  · intro target claimed
    rw [change.claims target] at claimed ⊢
    obtain ⟨claimHead, sendHead, ticket, only, sent⟩ := sound.ledger target claimed
    exact ⟨claimHead, sendHead, ticket, only, change.keeps_send sent⟩
  · have same : World.custody ⟨next, tasks, emissions⟩ =
        World.custody ⟨user, tasks, emissions⟩ := by
      simp only [World.custody, change.claims]
    rw [same]
    exact sound.custody
  · exact fun task inside =>
      (sound.tasks task inside).mono (fun target send only => change.keeps_send only)
  · intro emission inside
    obtain ⟨sendHead, only⟩ := sound.emitted emission inside
    exact ⟨sendHead, change.keeps_send only⟩

theorem claim (sound : World.Sound ⟨user, rest, emissions⟩) {call : Call}
    {ticket : IssuedEffectSendTicket}
    (claims : Claims user.snapshot.records next.snapshot.records call.target ticket) :
    World.Sound ⟨next, .claimed call ticket ::ₘ rest, emissions⟩ := by
  obtain ⟨added, claimHead, sendHead, grown, first, sent, claimed, unsent, written⟩ := claims.change
  have here : claimsIn call.target next.snapshot.records = [(claimHead, sendHead)] := by
    have new : claimsIn call.target added = [(claimHead, sendHead)] := by
      rw [claimed, if_pos rfl]
    rw [grown, ← new]
    exact entriesIn_append_right first
  have elsewhere : ∀ target ≠ call.target,
      claimsIn target next.snapshot.records = claimsIn target user.snapshot.records := by
    intro target differs
    rw [grown]
    exact entriesIn_append_left (by rw [← claimsIn, claimed, if_neg differs])
  refine ⟨by rw [grown]; exact sound.written.append written, ?_, ?_, ?_, ?_⟩
  · intro target nonempty
    by_cases same : target = call.target
    · subst same
      exact ⟨claimHead, sendHead, ticket, here, claims.keeps_send sent⟩
    · rw [elsewhere target same] at nonempty ⊢
      obtain ⟨claimHead, sendHead, ticket, only, sent⟩ := sound.ledger target nonempty
      exact ⟨claimHead, sendHead, ticket, only, claims.keeps_send sent⟩
  · have durable : {target | claimsIn target next.snapshot.records ≠ []} =
        insert call.target {target | claimsIn target user.snapshot.records ≠ []} := by
      ext target
      by_cases same : target = call.target
      · simp [same, here]
      · simp [same, elsewhere target same]
    have step : Custody.Step (World.custody ⟨user, rest, emissions⟩)
        (World.custody ⟨next, .claimed call ticket ::ₘ rest, emissions⟩) := by
      simp only [World.custody, durable]
      rw [Multiset.filterMap_cons_some Task.permit _ rest (show Task.permit _ = some call.target from rfl)]
      exact .claim _ _ (by simp [first])
    exact step.sound sound.custody
  · intro task inside
    rcases Multiset.mem_cons.mp inside with rfl | earlier
    · exact ⟨sendHead, claims.keeps_send sent⟩
    · exact (sound.tasks task earlier).mono (fun target send only => claims.keeps_send only)
  · intro emission inside
    obtain ⟨sendHead, only⟩ := sound.emitted emission inside
    exact ⟨sendHead, claims.keeps_send only⟩

theorem emit {call : Call} {ticket : IssuedEffectSendTicket}
    (sound : World.Sound ⟨user, .sending call ticket ::ₘ rest, emissions⟩) :
    World.Sound ⟨user, rest, emissions ++ [⟨call.target, ticket⟩]⟩ := by
  refine ⟨sound.written, sound.ledger, ?_, ?_, ?_⟩
  · refine Custody.Step.sound ?_ sound.custody
    simp only [World.custody, List.map_append, List.map_cons, List.map_nil]
    rw [Multiset.filterMap_cons_some Task.permit _ rest (show Task.permit _ = some call.target from rfl)]
    exact .act _ _ _ call.target
  · exact fun member inside => sound.tasks member (Multiset.mem_cons_of_mem inside)
  · intro emission inside
    rcases List.mem_append.mp inside with earlier | last
    · exact sound.emitted emission earlier
    · obtain rfl := List.mem_singleton.mp last
      exact sound.tasks (.sending call ticket) (Multiset.mem_cons_self _ _)

/-- The provider's answer leaves the emission behind and needs no permit. -/
theorem answered (sound : World.Sound ⟨user, rest, emissions⟩) (call : Call)
    (response : Option Bytes) :
    World.Sound ⟨user, afterProvider call response rest, emissions⟩ := by
  cases response with
  | none => exact sound
  | some raw => exact sound.start rfl trivial

theorem retained (sound : World.Sound ⟨user, rest, emissions⟩) (call : Call)
    {retention : ReceiptRetention β}
    (foreign : ∀ key expectedHead records, retention = .publish key expectedHead records →
      Foreign records) :
    World.Sound ⟨user, afterRetention call retention rest, emissions⟩ := by
  cases retention with
  | retained => exact sound
  | publish key expectedHead records => exact sound.start rfl (foreign _ _ _ rfl)

end World.Sound

theorem foreign_change {user : UserState β} {operation key fingerprint : String}
    {expectedHead : Nat} {after : Snapshot β}
    (foreign : Foreign records)
    (appended : user.snapshot.append operation key fingerprint records expectedHead = .ok after) :
    LogChange user.snapshot.records after.records :=
  .foreign foreign (Snapshot.append_records appended)

theorem sound_initial (worker : Option String) : (World.initial worker : World β).Sound := by
  have empty : ∀ target, claimsIn target (Snapshot.empty : Snapshot β).records = [] :=
    claimsIn_foreign foreign_nil
  refine ⟨foreign_nil.claimsWritten, ?_, ?_, by simp [World.initial], by simp [World.initial]⟩
  · intro target claimed
    exact absurd (empty target) claimed
  · have initial : (World.initial worker : World β).custody = Custody.initial := by
      simp [World.custody, World.initial, Custody.initial, empty]
    rw [initial]
    exact Custody.sound_initial

end Ledger

section Receipts

variable {β : Type} [Content β] [Hashlib]

theorem appendEffectReceipt_foreign [EffectStores β] {services : EffectServices β} {runtime : Runtime}
    {binding : PostgresEffectsBinding} {peer callId : String} {raw : Bytes} {user : UserState β}
    {key : String} {expectedHead : Nat} {records : List (Record β)}
    (read : appendEffectReceipt services runtime binding peer callId raw user =
      .ok (.publish key expectedHead records)) : Foreign records := by
  intro item member
  obtain ⟨family, evidence | reduction⟩ := appendEffectReceipt_ok read item member
  · rw [evidence]
    cases family <;> decide
  · rw [reduction]
    cases family <;> decide

theorem retainDeliveryReceipt_foreign [DeliveryStores β] {services : DeliveryServices β} {runtime : Runtime}
    {peer deliveryId : String} {raw : Bytes} {user : UserState β} {key : String}
    {expectedHead : Nat} {records : List (Record β)}
    (read : retainDeliveryReceipt services runtime peer deliveryId raw user =
      .ok (.publish key expectedHead records)) : Foreign records := by
  intro item member
  rw [retainDeliveryReceipt_ok read item member]
  decide

end Receipts

section Steps

variable {β : Type} [Content β] [EffectStores β] [DeliveryStores β] [Hashlib] {runtime : Runtime}

theorem commitEffectSend_change {services : EffectServices β}
    {binding : PostgresEffectsBinding} {peer callId : String} {request : DeploymentGateRequest}
    {user after : UserState β} {send : Retained EffectSend}
    (committed : commitEffectSend services runtime binding peer callId request user =
      .ok (after, send)) : LogChange user.snapshot.records after.snapshot.records := by
  rcases commitEffectSend_ok committed with rfl | ⟨none, stream, fence, _, fences, appended⟩
  · exact .refl _
  · have foreign : Foreign fence := by
      intro item member
      rw [fences item member]
      decide
    have grown := Snapshot.append_records appended
    rw [← List.singleton_append] at grown
    refine .send ⟨.effect, callId⟩ (send.2.head, send.2.ticket) grown ?_ ?_ ?_
      ((claimsWritten_effectSend send.2).append foreign.claimsWritten)
    · rw [sendsIn, entriesIn, none]
      rfl
    · intro other
      rw [← stream, ← sendsIn_effectSend (β := β)]
      exact entriesIn_append_left (sendsIn_foreign foreign other)
    · intro other
      rw [← claimsIn_effectSend (β := β) send.2 other]
      exact entriesIn_append_left (claimsIn_foreign foreign other)

theorem commitDeliverySend_change {services : DeliveryServices β}
    {peer deliveryId : String} {request : DeploymentGateRequest} {user after : UserState β}
    {send : NativeDeliverySendV1}
    (committed : commitDeliverySend services runtime peer deliveryId request user =
      .ok (after, send)) : LogChange user.snapshot.records after.snapshot.records := by
  rcases commitDeliverySend_ok committed with rfl | ⟨none, stream, _, appended⟩
  · exact .refl _
  · refine .send ⟨.delivery, deliveryId⟩ (send.head, send.ticket)
      (Snapshot.append_records appended) ?_ ?_ (claimsIn_deliverySend send)
      (claimsWritten_deliverySend send)
    · rw [sendsIn, entriesIn, none]
      rfl
    · intro other
      rw [← stream, ← sendsIn_deliverySend (β := β)]

theorem emitEffect_claims {services : EffectServices β}
    {binding : PostgresEffectsBinding} {peer callId : String} {user after : UserState β}
    {send : Retained EffectSend} {claim : Retained EffectClaim}
    (emitted : emitEffect services runtime binding peer callId user =
      .ok (after, .claimed send claim)) :
    Claims user.snapshot.records after.snapshot.records ⟨.effect, callId⟩ send.2.ticket := by
  rcases emitEffect_ok emitted with ⟨_, _, impossible, _⟩ | ⟨_, _, same, none, sent, stream, heads,
    selfHeaded, companions, _, others, appended⟩
  · cases impossible
  · cases same
    have foreign : Foreign companions := by
      intro item member
      rcases others item member with call | ⟨version, run⟩
      · rw [call]
        decide
      · rw [run]
        cases version <;> decide
    have grown := Snapshot.append_records appended
    rw [← List.singleton_append] at grown
    refine ⟨_, claim.2.head, send.2.head, grown, ?_, ?_, ?_, ?_,
      (claimsWritten_effectClaim selfHeaded).append foreign.claimsWritten⟩
    · rw [claimsIn, entriesIn, none]
      rfl
    · rw [sendsIn, entriesIn, sent]
      rfl
    · intro other
      rw [← stream, ← heads, ← claimsIn_effectClaim (β := β)]
      exact entriesIn_append_left (claimsIn_foreign foreign other)
    · intro other
      rw [← sendsIn_effectClaim (β := β) claim.2 other]
      exact entriesIn_append_left (sendsIn_foreign foreign other)

theorem emitDelivery_claims {services : DeliveryServices β}
    {peer deliveryId : String} {user after : UserState β} {send : NativeDeliverySendV1}
    {claim : NativeDeliveryClaimV1} (emitted : emitDelivery services runtime peer deliveryId user =
      .ok (after, .claimed send claim)) :
    Claims user.snapshot.records after.snapshot.records ⟨.delivery, deliveryId⟩ send.ticket := by
  rcases emitDelivery_ok emitted with ⟨_, _, impossible, _⟩ | ⟨_, _, same, none, sent, stream,
    heads, selfHeaded, _, appended⟩
  · cases impossible
  · cases same
    refine ⟨_, claim.head, send.head, Snapshot.append_records appended, ?_, ?_, ?_,
      sendsIn_deliveryClaim claim, claimsWritten_deliveryClaim selfHeaded⟩
    · rw [claimsIn, entriesIn, none]
      rfl
    · rw [sendsIn, entriesIn, sent]
      rfl
    · intro other
      rw [← stream, ← heads, ← claimsIn_deliveryClaim (β := β)]

theorem publish_change [DecidableEq β] {context : Transaction Unit}
    {peer operation key : String} {expectedHead : Nat} {records : List (Record β)}
    {validate admits : Snapshot β → Transaction Unit} {user after : UserState β}
    {result : PublicationResult} (foreign : Foreign records)
    (published : publishExecutionBatch runtime context peer operation key expectedHead records
      validate admits user = .ok (after, result)) :
    LogChange user.snapshot.records after.snapshot.records := by
  rcases publishExecutionBatch_ok published with rfl | ⟨_, _, appended, _⟩
  · exact .refl _
  · exact foreign_change foreign appended

theorem Step.sound [DecidableEq β] {before after : World β} (step : Step before after)
    (sound : before.Sound) : after.Sound := by
  cases step with
  | opened world runtime => exact sound.log (.refl _)
  | start world task fresh =>
      cases task with
      | working runtime peer work => exact sound.start rfl trivial
      | emit call => exact sound.start rfl trivial
      | reconcile call => exact sound.start rfl trivial
      | claimed call ticket => cases fresh
      | sending call ticket => cases fresh
      | received call raw => cases fresh
      | publishing call key expectedHead records => cases fresh
  | vanish user task rest emissions => exact sound.drop
  | foreign world elsewhere unrelated appended =>
      exact sound.log (foreign_change unrelated appended)
  | commitEffectSend world committed => exact sound.log (commitEffectSend_change committed)
  | commitDeliverySend world committed => exact sound.log (commitDeliverySend_change committed)
  | workEmit user rest emissions selected => exact sound.advance rfl trivial
  | workReconcile user rest emissions selected => exact sound.advance rfl trivial
  | effectClaimExists user rest emissions emitted =>
      rw [emitEffect_existing emitted]
      exact sound.drop
  | effectClaimed user rest emissions emitted =>
      exact sound.drop.claim (emitEffect_claims emitted)
  | deliveryClaimExists user rest emissions emitted =>
      rw [emitDelivery_existing emitted]
      exact sound.drop
  | deliveryClaimed user rest emissions emitted =>
      exact sound.drop.claim (emitDelivery_claims emitted)
  | currentWorker user call ticket rest emissions current =>
      exact sound.advance rfl (sound.tasks (.claimed call ticket) (Multiset.mem_cons_self _ _))
  | emitIssued user call ticket rest emissions response =>
      exact sound.emit.answered call response
  | reconcileEffect user rest emissions response read => exact sound.drop.answered _ response
  | reconcileDelivery user rest emissions response read => exact sound.drop.answered _ response
  | retainEffect user rest emissions read =>
      refine sound.drop.retained _ ?_
      rintro key expectedHead records rfl
      exact appendEffectReceipt_foreign read
  | retainDelivery user rest emissions read =>
      refine sound.drop.retained _ ?_
      rintro key expectedHead records rfl
      exact retainDeliveryReceipt_foreign read
  | publish user rest emissions published =>
      have foreign : Foreign _ := sound.tasks (.publishing _ _ _ _) (Multiset.mem_cons_self _ _)
      exact sound.drop.log (publish_change foreign published)

theorem World.Reachable.sound [DecidableEq β] {world : World β} (reachable : world.Reachable) :
    world.Sound := by
  induction reachable with
  | initial worker => exact sound_initial worker
  | step earlier next ih => exact next.sound ih

/-- Whatever was emitted after a step had been claimed before it. -/
theorem Step.claimed_before [DecidableEq β] {world next : World β} (step : Step world next)
    (sound : world.Sound) : ∀ emission ∈ next.emissions,
      claimsIn emission.target world.user.snapshot.records ≠ [] := by
  have earlier : ∀ emission ∈ world.emissions,
      claimsIn emission.target world.user.snapshot.records ≠ [] :=
    fun emission inside => sound.custody.acted (List.mem_map_of_mem inside)
  cases step with
  | emitIssued user call ticket rest emissions response =>
      intro emission inside
      rcases List.mem_append.mp inside with old | last
      · exact earlier emission old
      · obtain rfl := List.mem_singleton.mp last
        apply sound.custody.claimed
        apply Multiset.mem_add.mpr
        refine .inl ((Multiset.mem_filterMap _ _).mpr ?_)
        exact ⟨.sending call ticket, Multiset.mem_cons_self _ _, rfl⟩
  | _ => exact earlier

/-- The runtime reads the claims of its own tenant and principal. -/
def ReadsClaims (runtime : Runtime) (records : List (Record β)) : Prop :=
  (∀ family, ∀ claim ∈ storedIn (EffectClaim family) records,
    CustodyRow.scope claim = (runtime.tenantId, runtime.principalId)) ∧
  ∀ claim ∈ storedIn NativeDeliveryClaimV1 records,
    CustodyRow.scope claim = (runtime.tenantId, runtime.principalId)

/-- The call has one claim.  A later `emit_effect` that returns, returns it and commits
nothing; it does return for a current worker that can read the claims. -/
def World.EffectSettled (world : World β) (callId : String) : Prop :=
  ∃ claim, familyIn EffectClaim world.user.snapshot.records callId = [claim] ∧
    ∀ (services : EffectServices β) runtime binding peer,
      (∀ after result, emitEffect services runtime binding peer callId world.user =
          .ok (after, result) → after = world.user ∧ result = .existing claim) ∧
      (runtime.actor services.context peer world.user = .ok () →
        ReadsClaims runtime world.user.snapshot.records →
        emitEffect services runtime binding peer callId world.user =
          .ok (world.user, .existing claim))

/-- The same of a delivery, as long as it is still selected. -/
def World.DeliverySettled (world : World β) (deliveryId : String) : Prop :=
  ∃ claim, streamIn NativeDeliveryClaimV1 world.user.snapshot.records deliveryId = [claim] ∧
    ∀ (services : DeliveryServices β) runtime peer,
      (∀ after result, emitDelivery services runtime peer deliveryId world.user =
          .ok (after, result) → after = world.user ∧ result = .existing claim) ∧
      (∀ selected, runtime.actor services.context peer world.user = .ok () →
        ReadsClaims runtime world.user.snapshot.records →
        selectedDelivery services runtime world.user.snapshot deliveryId = .ok selected →
        emitDelivery services runtime peer deliveryId world.user =
          .ok (world.user, .existing claim))

/-- What custody guarantees in a state of the system. -/
structure World.SingleEmission [DecidableEq β] (world : World β) : Prop where
  once : (world.emissions.map Emission.target).Nodup
  ticket : ∀ emission ∈ world.emissions, ∃ claimHead sendHead,
    claimsIn emission.target world.user.snapshot.records = [(claimHead, sendHead)] ∧
      sendsIn emission.target world.user.snapshot.records = [(sendHead, emission.ticket)]
  claimedBefore : ∀ next, Step world next → ∀ emission ∈ next.emissions,
    claimsIn emission.target world.user.snapshot.records ≠ []
  effectAgain : ∀ callId, claimsIn ⟨.effect, callId⟩ world.user.snapshot.records ≠ [] →
    world.EffectSettled callId
  deliveryAgain : ∀ deliveryId,
    claimsIn ⟨.delivery, deliveryId⟩ world.user.snapshot.records ≠ [] →
    world.DeliverySettled deliveryId

theorem claimRows_readable {snapshot : Snapshot β} {callId : String}
    (written : ClaimsWritten snapshot.records) (reads : ReadsClaims runtime snapshot.records) :
    claimRows runtime snapshot callId = .ok (familyIn EffectClaim snapshot.records callId) := by
  apply claimRows_returns
  intro family item member same
  obtain ⟨value, rfl, selfHeaded⟩ := written.effect family item member same
  have decodes : Stores.read (record value : Record β).content = some value :=
    Stores.read_write value
  refine ⟨value, decodes, recorded_record selfHeaded (reads.1 family value ?_)⟩
  exact List.mem_filterMap.mpr ⟨_, List.mem_filter.mpr ⟨member, decide_eq_true same⟩, decodes⟩

theorem deliveryClaims_readable {snapshot : Snapshot β} {deliveryId : String}
    (written : ClaimsWritten snapshot.records) (reads : ReadsClaims runtime snapshot.records) :
    rows NativeDeliveryClaimV1 runtime snapshot (some deliveryId) =
      .ok (streamIn NativeDeliveryClaimV1 snapshot.records deliveryId) := by
  apply rows_returns
  intro item member same
  obtain ⟨value, rfl, selfHeaded⟩ := written.delivery item member same
  have decodes : Stores.read (record value : Record β).content = some value :=
    Stores.read_write value
  refine ⟨value, decodes, recorded_record selfHeaded (reads.2 value ?_)⟩
  exact List.mem_filterMap.mpr ⟨_, List.mem_filter.mpr ⟨member, decide_eq_true same⟩, decodes⟩

theorem World.Sound.effectAgain {world : World β} (sound : world.Sound) {callId : String}
    (claimed : claimsIn ⟨.effect, callId⟩ world.user.snapshot.records ≠ []) :
    world.EffectSettled callId := by
  obtain ⟨_, _, _, only, _⟩ := sound.ledger ⟨.effect, callId⟩ claimed
  rw [claimsIn, entriesIn, List.map_eq_singleton_iff] at only
  obtain ⟨claim, single, _⟩ := only
  refine ⟨claim, single, fun services runtime binding peer => ⟨?_, ?_⟩⟩
  · intro after result emitted
    rcases emitEffect_ok emitted with ⟨same, existing, rfl, first⟩ | ⟨_, _, _, none, _⟩
    · rw [single] at first
      cases first
      exact ⟨same, rfl⟩
    · rw [single] at none
      cases none
  · intro current reads
    apply emitEffect_returns current
    rw [claimRows_readable sound.written reads, single]

theorem World.Sound.deliveryAgain {world : World β} (sound : world.Sound) {deliveryId : String}
    (claimed : claimsIn ⟨.delivery, deliveryId⟩ world.user.snapshot.records ≠ []) :
    world.DeliverySettled deliveryId := by
  obtain ⟨_, _, _, only, _⟩ := sound.ledger ⟨.delivery, deliveryId⟩ claimed
  rw [claimsIn, entriesIn, List.map_eq_singleton_iff] at only
  obtain ⟨claim, single, _⟩ := only
  refine ⟨claim, single, fun services runtime peer => ⟨?_, ?_⟩⟩
  · intro after result emitted
    rcases emitDelivery_ok emitted with ⟨same, existing, rfl, first⟩ | ⟨_, _, _, none, _⟩
    · rw [single] at first
      cases first
      exact ⟨same, rfl⟩
    · rw [single] at none
      cases none
  · intro selected current reads delivery
    apply emitDelivery_returns current delivery
    rw [deliveryClaims_readable sound.written reads, single]

/-- However workers, crashes, retries and lost responses interleave, a call and a delivery
are each emitted at most once, after their claim and with the ticket of their only SEND. -/
theorem reachable_single_emission [DecidableEq β] (world : World β)
    (reachable : world.Reachable) : world.SingleEmission := by
  have sound := reachable.sound
  refine ⟨sound.custody.acts_nodup, ?_, ?_, ?_, ?_⟩
  · intro emission inside
    have acted : claimsIn emission.target world.user.snapshot.records ≠ [] :=
      sound.custody.acted (List.mem_map_of_mem inside)
    obtain ⟨claimHead, sendHead, ticket, claimed, sent⟩ := sound.ledger _ acted
    obtain ⟨otherHead, same⟩ := sound.emitted emission inside
    have equal := sent.symm.trans same
    simp only [List.cons.injEq, Prod.mk.injEq, and_true] at equal
    obtain ⟨rfl, rfl⟩ := equal
    exact ⟨claimHead, sendHead, claimed, sent⟩
  · exact fun next step => step.claimed_before sound
  · exact fun callId claimed => sound.effectAgain claimed
  · exact fun deliveryId claimed => sound.deliveryAgain claimed

end Steps

section Reading

variable {β : Type} [Content β] [Hashlib] {runtime : Runtime} {snapshot : Snapshot β}

/-- What a runtime reads of a log, record by record. -/
inductive Reads (α : Type) [CustodyRow α] [Stores β α] (runtime : Runtime) :
    List (Record β) → List α → Prop
  | nil : Reads α runtime [] []
  | foreign {item : Record β} {records : List (Record β)} {values : List α}
      (other : item.schemaId ≠ Schema.schemaId α) (rest : Reads α runtime records values) :
      Reads α runtime (item :: records) values
  | own {value : α} {records : List (Record β)} {values : List α}
      (selfHeaded : headed (CustodyRow.lead α) value = value)
      (inScope : CustodyRow.scope value = (runtime.tenantId, runtime.principalId))
      (rest : Reads α runtime records values) :
      Reads α runtime (record value :: records) (value :: values)

variable {α : Type} [CustodyRow α] [Stores β α] {values : List α}

theorem Reads.other {γ : Type} [CustodyRow γ] [Stores β γ] {value : γ} {records : List (Record β)}
    (apart : Schema.schemaId γ ≠ Schema.schemaId α) (rest : Reads α runtime records values) :
    Reads α runtime (record value :: records) values :=
  .foreign (by rw [record_schemaId]; exact apart) rest

theorem Reads.readRows (read : Reads α runtime snapshot.records values) :
    readRows α (CustodyRow.operation α) runtime.tenantId (Recorded runtime) snapshot =
      .ok values := by
  rw [Composition.readRows]
  generalize snapshot.records = records at read
  induction read with
  | nil => rfl
  | foreign other _ ih =>
      rw [List.filter_cons, if_neg (by simpa using other)]
      exact ih
  | @own value _ _ selfHeaded inScope _ ih =>
      have first : readRow α (CustodyRow.operation α) runtime.tenantId (Recorded runtime)
          (record value : Record β) = .ok value :=
        readRow_ok.mpr ⟨Stores.read_write _, recorded_record selfHeaded inScope⟩
      rw [List.filter_cons, if_pos (decide_eq_true (record_schemaId value)), List.mapM_cons, first,
        ih]
      rfl

theorem Reads.rows (read : Reads α runtime snapshot.records values) (streamId : String) :
    rows α runtime snapshot (some streamId) =
      .ok (values.filter (fun value => CustodyRow.stream value = streamId)) := by
  simp only [Composition.rows, read.readRows, ok_bind, Option.mem_def, Option.some.injEq,
    forall_eq']
  rfl

theorem Reads.all (read : Reads α runtime snapshot.records values) :
    Composition.rows α runtime snapshot none = .ok values := by
  simp [Composition.rows, read.readRows, pure, Except.pure]

theorem familyRows_reads {ρ : Family → Type} [∀ family, CustodyRow (ρ family)]
    [∀ family, Stores β (ρ family)] {tools : List (ρ .tool)} {actions : List (ρ .action)}
    (readTools : Reads (ρ .tool) runtime snapshot.records tools)
    (readActions : Reads (ρ .action) runtime snapshot.records actions) (streamId : String) :
    familyRows ρ runtime snapshot streamId =
      .ok ((tools.filter (fun value => CustodyRow.stream value = streamId)).map (Sigma.mk .tool) ++
        (actions.filter (fun value => CustodyRow.stream value = streamId)).map
          (Sigma.mk .action)) := by
  simp only [familyRows, readTools.rows, readActions.rows, ok_bind]
  rfl

/-- A log is read part by part. -/
theorem Reads.append {front rest : List (Record β)} {later : List α}
    (first : Reads α runtime front values) (second : Reads α runtime rest later) :
    Reads α runtime (front ++ rest) (values ++ later) := by
  induction first with
  | nil => exact second
  | foreign other _ ih => exact .foreign other ih
  | own selfHeaded inScope _ ih => exact .own selfHeaded inScope ih

theorem Reads.none {records : List (Record β)}
    (foreign : Schema.schemaId α ∉ records.map Record.schemaId) : Reads α runtime records [] := by
  induction records with
  | nil => exact .nil
  | cons item rest ih =>
      rw [List.map_cons, List.mem_cons, not_or] at foreign
      exact .foreign (Ne.symm foreign.1) (ih foreign.2)

/-- Records under other schemas add no row. -/
theorem Reads.apart {records rest : List (Record β)} (read : Reads α runtime records values)
    (foreign : Schema.schemaId α ∉ rest.map Record.schemaId) :
    Reads α runtime (records ++ rest) values := by
  have grown := read.append (.none foreign)
  rwa [List.append_nil] at grown

end Reading

section Returns

variable {β : Type} [Content β] [Hashlib] [EffectStores β] {services : EffectServices β}
  {runtime : Runtime} {binding : PostgresEffectsBinding} {peer callId : String} {user : UserState β}
  {intent : EffectSubject} {after : Snapshot β}

/-- A first send whose every check holds is committed. -/
theorem commitEffectSend_returns {request : DeploymentGateRequest} {fence : List (Record β)}
    (current : runtime.actor services.context peer user = .ok ())
    (selected : subject runtime user.snapshot callId = .ok intent)
    (unsent : sendRows runtime user.snapshot callId = .ok [])
    (registered : bindingMatches services.now runtime binding intent true = .ok ())
    (live : requireSubjectLive services runtime user.snapshot intent = .ok ())
    (adopted : requireAdoptedCall services user.snapshot callId intent = .ok ())
    (gate : services.gateRequire request.encoded "effects.first_send" intent.bytes = .ok ())
    (fenced : sendFence services user.snapshot
      (preparedSend services.now runtime intent request).head intent = .ok fence)
    (appended : user.snapshot.append "effects.first-send" callId
      (digest (canonicalBytes (preparedSend services.now runtime intent request)).items).text
      (record (preparedSend services.now runtime intent request) :: fence) user.snapshot.head =
        .ok after)
    (crossed : services.gateCrossed request.encoded intent.bytes = .ok ()) :
    commitEffectSend services runtime binding peer callId request user =
      .ok (⟨after, user.worker⟩,
        ⟨intent.family, preparedSend services.now runtime intent request⟩) := by
  simp only [commitEffectSend, current, selected, unsent, registered, live, adopted, gate, fenced,
    appended, crossed, ok_bind]
  rfl

omit [Hashlib] [EffectStores β] in
theorem selectedSchedulerFence_none {snapshot : Snapshot β} {sendHead : String}
    (absent : sendHead ++ "/scheduler-lease" ∉ snapshot.recordIds) :
    selectedSchedulerFence runtime snapshot sendHead = .ok none := by
  have none : snapshot.batches.flatMap (fun batch =>
      (batch.records.filter (fun item => item.recordId = sendHead ++ "/scheduler-lease")).map
        (fun item => (batch, item))) = [] := by
    rw [List.flatMap_eq_nil_iff]
    intro batch inside
    rw [List.map_eq_nil_iff, List.filter_eq_nil_iff]
    intro item member same
    exact absent (of_decide_eq_true same ▸
      List.mem_flatMap.mpr ⟨batch, inside, List.mem_map_of_mem member⟩)
  simp only [selectedSchedulerFence, none]

/-- The only SEND of a stream without a claim is claimed when every check holds. -/
theorem emitEffect_first {send : Retained EffectSend} {companions : List (Record β)}
    (current : runtime.actor services.context peer user = .ok ())
    (unclaimed : claimRows runtime user.snapshot callId = .ok [])
    (selected : subject runtime user.snapshot callId = .ok intent)
    (sent : sendRows runtime user.snapshot callId = .ok [send])
    (registered : bindingMatches services.now runtime binding intent true = .ok ())
    (gate : services.gateRequire send.2.gateRequestBytes "effects.first_send" intent.bytes = .ok ())
    (live : requireSubjectLive services runtime user.snapshot intent = .ok ())
    (claimable : requireClaimableCall services runtime user.snapshot callId intent send.2.head =
      .ok ())
    (joined : claimCompanions services user.snapshot
      ⟨intent.family, preparedClaim runtime intent send.2.head⟩ = .ok companions)
    (appended : user.snapshot.append "effects.emit-claim" callId
      (digest (canonicalBytes (preparedClaim runtime intent send.2.head)).items).text
      (record (preparedClaim runtime intent send.2.head) :: companions) user.snapshot.head =
        .ok after) :
    emitEffect services runtime binding peer callId user = .ok (⟨after, user.worker⟩,
      .claimed send ⟨intent.family, preparedClaim runtime intent send.2.head⟩) := by
  simp only [emitEffect, current, unclaimed, selected, sent, only, registered, gate, live,
    claimable, joined, appended, ok_bind]
  rfl

end Returns

def sampleRuntime : Runtime :=
  { databaseName := "chiplog_user"
    tenantId := "tenant"
    principalId := "hermetic-principal"
    credentialId := "credential"
    sessionId := "session"
    peer := "local-cli"
    token := "token" }

section Sample

variable [Hashlib]

def sampleBinding : PostgresEffectsBinding := ⟨⟨[1], oneByte_ne_nil⟩⟩

omit [Hashlib] in
theorem sampleAddress_ne_nil : utf8 "hermetic://effects/hermetic-principal" ≠ [] :=
  fun empty => written "hermetic://effects/hermetic-principal" trivial (utf8_eq_nil.mp empty)

/-- The recipient that the sample binding registers for its principal. -/
def sampleTarget : ProviderRecipient :=
  { provider := ⟨"hermetic-effects", written _ trivial⟩
    account := ⟨"hermetic-account", written _ trivial⟩
    recipient := ⟨"hermetic-principal", written _ trivial⟩
    canonicalAddress := ⟨utf8 "hermetic://effects/hermetic-principal", sampleAddress_ne_nil⟩
    endpoint := exactHead ⟨"hermetic-effects-endpoint", written _ trivial⟩
      (utf8 "hermetic-effects.v1")
    credentialBinding := exactHead ⟨"hermetic-effects-credential", written _ trivial⟩
      (utf8 (digest [1]).text) }

/-- An adopted tool call. -/
def sampleIntent (callId : Identity) : NativeEffectIntentV1 :=
  effectHead
    { head := "pending"
      tenantId := "tenant"
      principalId := "hermetic-principal"
      originalCallId := callId.text
      intentId := callId
      runId := "run"
      acceptedHead := callId.text ++ "/accepted"
      authorityActId := "act"
      preview :=
        { head := callId.text ++ "/preview"
          tenantId := "tenant"
          principalId := "hermetic-principal"
          originalCallId := callId.text
          initializedHead := callId.text ++ "/initialized"
          payload := [1]
          bundleMembers := ["member"]
          target := sampleTarget
          expiresAtNs := 100
          receiptKeyFingerprint := (digest [1]).text } }

def sampleSubject (callId : Identity) : EffectSubject :=
  ⟨.tool (sampleIntent callId), (sampleIntent callId).preview.common, (digest [1]).text, callId.text⟩

def sampleGateRequest : DeploymentGateRequest :=
  { operationId := "operation"
    surfaceId := "effects.first_send"
    payloadDigest := "payload"
    mode := .evaluation
    generation := ⟨"tenant", "epoch", 1⟩
    readinessHead := "readiness"
    entitlementHead := "entitlement"
    evidenceCursors := []
    freshnessLeases := []
    bounds := ⟨"capability", "cohort", "purpose", ⟨1, Nat.one_pos⟩, 0, ⟨10, ten_pos⟩, [], []⟩ }

def sampleSend (callId : Identity) : EffectSend .tool :=
  preparedSend 1 sampleRuntime (sampleSubject callId) sampleGateRequest

def sampleClaim (callId : Identity) : EffectClaim .tool :=
  preparedClaim sampleRuntime (sampleSubject callId) (sampleSend callId).head

/-- Everything around the transactions agrees, and a receipt names the one member. -/
def sampleEffects (callId : Identity) : EffectServices ClientValue :=
  { context := .ok ()
    now := 1
    runs _ := .ok [⟨"run", .active⟩]
    callStates _ := .ok [(callId.text, ⟨callId.text ++ "/accepted", .accepted⟩)]
    schedulerFence _ _ := .ok none
    gateRequire _ _ _ := .ok ()
    gateCrossed _ _ := .ok ()
    companions _ _ := .ok ⟨callId.text ++ "/unknown", [0], callId.text ++ "/run", .v2, [0]⟩
    verifyReceipt _ _ := .ok ⟨["member"], []⟩ }

def callStateRecord (head : String) : Record ClientValue :=
  ⟨head, "agent_loop", .raw "chiplog.agent-loop.native-call-state.v1" [0]⟩

def adoptionBatch (callId : Identity) (sequence : Nat) : Batch ClientValue :=
  ⟨"effects.adopt", callId.text, "fingerprint", sequence,
    [callStateRecord (callId.text ++ "/accepted"), record (sampleIntent callId)]⟩

def sendBatch (callId : Identity) (sequence : Nat) : Batch ClientValue :=
  ⟨"effects.first-send", callId.text, (digest (canonicalBytes (sampleSend callId)).items).text,
    sequence, [record (sampleSend callId)]⟩

def claimBatch (callId : Identity) (sequence : Nat) : Batch ClientValue :=
  ⟨"effects.emit-claim", callId.text, (digest (canonicalBytes (sampleClaim callId)).items).text,
    sequence, [record (sampleClaim callId), callStateRecord (callId.text ++ "/unknown"),
      ⟨callId.text ++ "/run", "agent_loop", .raw RunVersion.v2.schemaId [0]⟩]⟩

def sampleUser (batches : List (Batch ClientValue)) : UserState ClientValue :=
  ⟨⟨batches.length, batches⟩, some "token"⟩

theorem effectHead_led [CustodyRow α] (value : α) :
    (CustodyRow.head (effectHead value)).toList.take 7 = "effect:".toList := by
  rw [effectHead, headed, CustodyRow.head_withHead, String.toList_append]
  rfl

theorem effectHead_length [CustodyRow α] (value : α) :
    (CustodyRow.head (effectHead value)).length = 71 := by
  rw [effectHead, headed, CustodyRow.head_withHead, String.length_append, (digest _).hex.1]
  rfl

/-! ### One call from its adoption to its claim -/

variable (callId : Identity)

theorem sampleTarget_registered :
    sampleBinding.targetForPrincipal "hermetic-principal" = .ok sampleTarget := by
  simp only [PostgresEffectsBinding.targetForPrincipal, require_pos, ok_bind]
  rfl

theorem sampleBinding_matches {now : Nat} {live : Bool} (early : live → (now : Int) < 100) :
    bindingMatches now sampleRuntime sampleBinding (sampleSubject callId) live = .ok () := by
  have target : sampleBinding.targetForPrincipal sampleRuntime.principalId = .ok sampleTarget :=
    sampleTarget_registered
  have same : (sampleSubject callId).preview.target = sampleTarget ∧
      (sampleSubject callId).receiptKeyFingerprint = (digest sampleBinding.receiptKey.items).text :=
    ⟨rfl, rfl⟩
  have expires : (sampleSubject callId).preview.expiresAtNs = 100 := rfl
  simp only [bindingMatches, target, ok_bind, require_pos same, expires]
  exact require_pos early

variable {snapshot : Snapshot ClientValue}

theorem sampleSubject_reads (callId : Identity) {intents : List NativeEffectIntentV1}
    (tools : Reads NativeEffectIntentV1 sampleRuntime snapshot.records intents)
    (own : intents.filter (fun value => CustodyRow.stream value = callId.text) =
      [sampleIntent callId])
    (plans : Reads PlanEffectIntent sampleRuntime snapshot.records [])
    (compensations : Reads CompensationEffectIntent sampleRuntime snapshot.records []) :
    subject sampleRuntime snapshot callId.text = .ok (sampleSubject callId) := by
  simp only [subject, tools.rows, plans.rows, compensations.rows, own, ok_bind]
  rfl

def sampleCall : Identity := ⟨"call", written _ trivial⟩

theorem outside_effects [CustodyRow α] {text : String}
    (other : text.toList.take 7 ≠ "effect:".toList) (value : α) :
    text ≠ CustodyRow.head (effectHead value) := by
  rintro rfl
  exact other (effectHead_led value)

theorem sampleIntent_self (callId : Identity) :
    effectHead (sampleIntent callId) = sampleIntent callId := headed_idem _ _

theorem sampleSend_self (callId : Identity) :
    effectHead (sampleSend callId) = sampleSend callId := headed_idem _ _

theorem sampleClaim_self (callId : Identity) :
    effectHead (sampleClaim callId) = sampleClaim callId := headed_idem _ _

theorem sampleIntent_length (callId : Identity) :
    (CustodyRow.head (sampleIntent callId)).length = 71 := by
  rw [← sampleIntent_self, effectHead_length]

theorem sampleSend_length (callId : Identity) :
    (CustodyRow.head (sampleSend callId)).length = 71 := by
  rw [← sampleSend_self, effectHead_length]

omit [Hashlib] in
theorem append_returns {operation key fingerprint : String} {records : List (Record ClientValue)}
    (fresh : (operation, key) ∉ snapshot.batches.map Batch.identity)
    (unused : snapshot.head + 1 ∉ snapshot.batches.map Batch.sequence)
    (distinct : (snapshot.recordIds ++ records.map Record.recordId).Nodup) :
    snapshot.append operation key fingerprint records snapshot.head =
      .ok ⟨snapshot.head + 1, snapshot.batches ++
        [⟨operation, key, fingerprint, snapshot.head + 1, records⟩]⟩ := by
  simp only [Snapshot.append, require_pos fresh, require_pos unused, require_pos distinct, ok_bind]
  rfl

/-- The user's log after each of the three transactions. -/
def adoptedUser : UserState ClientValue := sampleUser [adoptionBatch sampleCall 1]

def sentUser : UserState ClientValue :=
  sampleUser [adoptionBatch sampleCall 1, sendBatch sampleCall 2]

def claimedUser : UserState ClientValue :=
  sampleUser [adoptionBatch sampleCall 1, sendBatch sampleCall 2, claimBatch sampleCall 3]

theorem adopts : (Snapshot.empty : Snapshot ClientValue).append "effects.adopt" "call" "fingerprint"
    (adoptionBatch sampleCall 1).records 0 = .ok adoptedUser.snapshot := by
  have apart : "call/accepted" ≠ CustodyRow.head (sampleIntent sampleCall) := by
    rw [← sampleIntent_self]
    exact outside_effects (by decide) _
  refine append_returns List.not_mem_nil List.not_mem_nil ?_
  exact List.nodup_cons.mpr ⟨fun same => apart (List.mem_singleton.mp same), List.nodup_singleton _⟩

theorem adoptedUser_records : adoptedUser.snapshot.records =
    [callStateRecord "call/accepted", record (sampleIntent sampleCall)] := rfl

theorem sentUser_records : sentUser.snapshot.records =
    [callStateRecord "call/accepted", record (sampleIntent sampleCall),
      record (sampleSend sampleCall)] := rfl

theorem claimedUser_records : claimedUser.snapshot.records =
    [callStateRecord "call/accepted", record (sampleIntent sampleCall),
      record (sampleSend sampleCall), record (sampleClaim sampleCall),
      callStateRecord "call/unknown", ⟨"call/run", "agent_loop", .raw RunVersion.v2.schemaId [0]⟩] :=
  rfl

theorem sentUser_schemas : sentUser.snapshot.records.map Record.schemaId =
    ["chiplog.agent-loop.native-call-state.v1", Schema.schemaId NativeEffectIntentV1,
      Schema.schemaId (EffectSend .tool)] := rfl

theorem sampleSubject_adopted :
    subject sampleRuntime adoptedUser.snapshot "call" = .ok (sampleSubject sampleCall) := by
  have schemas : adoptedUser.snapshot.records.map Record.schemaId =
      ["chiplog.agent-loop.native-call-state.v1", Schema.schemaId NativeEffectIntentV1] := rfl
  refine sampleSubject_reads sampleCall ?_ (rfl : [sampleIntent sampleCall].filter _ = _)
    (.none (by rw [schemas]; decide)) (.none (by rw [schemas]; decide))
  rw [adoptedUser_records]
  exact .foreign (by decide) (.own (sampleIntent_self _) rfl .nil)

theorem sampleSubject_sent :
    subject sampleRuntime sentUser.snapshot "call" = .ok (sampleSubject sampleCall) := by
  refine sampleSubject_reads sampleCall ?_ (rfl : [sampleIntent sampleCall].filter _ = _)
    (.none (by rw [sentUser_schemas]; decide)) (.none (by rw [sentUser_schemas]; decide))
  rw [sentUser_records]
  exact .foreign (by decide) (.own (sampleIntent_self _) rfl (.other (by decide) .nil))

theorem sampleCall_adopted (user : UserState ClientValue) :
    requireAdoptedCall (sampleEffects sampleCall) user.snapshot "call" (sampleSubject sampleCall) =
      .ok () := by
  have found : (sampleEffects sampleCall).callState user.snapshot "call" =
      .ok ⟨"call/accepted", .accepted⟩ := rfl
  have tool : (sampleSubject sampleCall).tool = some (sampleIntent sampleCall) := rfl
  simp only [requireAdoptedCall, tool, found, ok_bind]
  exact require_pos ⟨rfl, trivial⟩

/-- No record of the log is a lease fence of the SEND. -/
theorem sampleSend_unfenced : selectedSchedulerFence sampleRuntime sentUser.snapshot
    (sampleSend sampleCall).head = .ok none := by
  have lease : "/scheduler-lease".length = 16 := by decide
  have head : (sampleSend sampleCall).head.length = 71 := sampleSend_length sampleCall
  have long : ((sampleSend sampleCall).head ++ "/scheduler-lease").length = 87 := by
    rw [String.length_append, lease, head]
  have short : ∀ id ∈ sentUser.snapshot.recordIds, id.length < 87 := by
    have ids : sentUser.snapshot.recordIds = ["call/accepted",
        CustodyRow.head (sampleIntent sampleCall), CustodyRow.head (sampleSend sampleCall)] := rfl
    have accepted : "call/accepted".length = 13 := by decide
    rw [ids, List.forall_mem_cons, List.forall_mem_cons, List.forall_mem_cons, accepted,
      sampleIntent_length, sampleSend_length]
    exact ⟨by decide, by decide, by decide, fun _ impossible => absurd impossible List.not_mem_nil⟩
  apply selectedSchedulerFence_none
  intro same
  have bound := short _ same
  rw [long] at bound
  exact absurd bound (by decide)

theorem sampleCall_claimable : requireClaimableCall (sampleEffects sampleCall) sampleRuntime
    sentUser.snapshot "call" (sampleSubject sampleCall) (sampleSend sampleCall).head = .ok () := by
  have found : (sampleEffects sampleCall).callState sentUser.snapshot "call" =
      .ok ⟨"call/accepted", .accepted⟩ := rfl
  have tool : (sampleSubject sampleCall).tool = some (sampleIntent sampleCall) := rfl
  have fence : (sampleEffects sampleCall).schedulerFence sentUser.snapshot
      (sampleIntent sampleCall).runId = .ok none := rfl
  have same : "call/accepted" = (sampleIntent sampleCall).acceptedHead := rfl
  simp only [requireClaimableCall, tool, found, fence, sampleSend_unfenced, ok_bind]
  rw [require_pos same]
  rfl

theorem claimedUser_schemas : claimedUser.snapshot.records.map Record.schemaId =
    ["chiplog.agent-loop.native-call-state.v1", Schema.schemaId NativeEffectIntentV1,
      Schema.schemaId (EffectSend .tool), Schema.schemaId (EffectClaim .tool),
      "chiplog.agent-loop.native-call-state.v1", RunVersion.v2.schemaId] := rfl

theorem claimedUser_claims : Reads (EffectClaim .tool) sampleRuntime claimedUser.snapshot.records
    [sampleClaim sampleCall] := by
  rw [claimedUser_records]
  exact .foreign (by decide) (.other (by decide) (.other (by decide)
    (.own (sampleClaim_self _) rfl (.foreign (by decide) (.foreign (by decide) .nil)))))

theorem sampleClaim_read : claimRows sampleRuntime claimedUser.snapshot "call" =
    .ok [⟨.tool, sampleClaim sampleCall⟩] :=
  familyRows_reads claimedUser_claims (.none (by rw [claimedUser_schemas]; decide)) "call"

/-- After its emission, another call to emit finds the claim of the first. -/
theorem claim_again : emitEffect (sampleEffects sampleCall) sampleRuntime sampleBinding
    "local-cli" "call" claimedUser =
      .ok (claimedUser, .existing ⟨.tool, sampleClaim sampleCall⟩) :=
  emitEffect_returns rfl sampleClaim_read

end Sample

section Edges

attribute [local instance] edgeHash

/-! ### The edges of a record show its kind -/

/-- One byte of the text that the head of a record commits to. -/
def headEdge [CustodyRow α] (value : α) (place : Nat) : UInt8 :=
  (edgeBytes (Schema.wire (CustodyRow.withHead "pending" value))).getD place 0

theorem effectHead_ne [CustodyRow α] [CustodyRow γ] {value : α} {other : γ} (place : Nat)
    (differs : headEdge value place ≠ headEdge other place) :
    CustodyRow.head (effectHead value) ≠ CustodyRow.head (effectHead other) := by
  rw [effectHead, effectHead, headed, headed, CustodyRow.head_withHead, CustodyRow.head_withHead]
  intro same
  exact edgeHash_ne place differs ((String.append_right_inj _).mp same)

/-- The bytes by which the keys of the records differ. -/
structure EmissionLiterals : Prop where
  intent : (utf8 ("\x7b" ++ Json.quote "accepted_head"))[2]? = some 97
  send : (utf8 ("\x7b" ++ Json.quote "gate_request_bytes"))[2]? = some 103
  claim : (utf8 ("\x7b" ++ Json.quote "head"))[2]? = some 104

theorem emissionLiterals : EmissionLiterals := by
  constructor <;> decide +kernel

theorem nativeIntent_edge (literals : EmissionLiterals) (value : NativeEffectIntentV1) :
    headEdge value 2 = 97 := by
  have least : Json.Extreme (· ≤ ·) (modelDump (CustodyRow.withHead "pending" value))
      ["schema_id", "head", "tenant_id", "principal_id", "original_call_id", "intent_id",
        "run_id", "accepted_head", "authority_act_id", "preview"] "accepted_head"
      (toJson value.acceptedHead) :=
    ⟨by simp [modelDump, CustodyRow.withHead], rfl, by decide, by decide⟩
  exact edge_key least literals.intent (by decide)

theorem send_edge (literals : EmissionLiterals) (value : EffectSend .tool) :
    headEdge value 2 = 103 := by
  have least : Json.Extreme (· ≤ ·) (modelDump (CustodyRow.withHead "pending" value))
      ["schema_id", "head", "tenant_id", "principal_id", "original_call_id", "intent_head",
        "transmission", "ticket_bytes", "gate_request_bytes"] "gate_request_bytes"
      (toJson value.gateRequestBytes) :=
    ⟨by simp [modelDump, CustodyRow.withHead], rfl, by decide, by decide⟩
  exact edge_key least literals.send (by decide)

theorem claim_edge (literals : EmissionLiterals) (value : EffectClaim .tool) :
    headEdge value 2 = 104 := by
  have least : Json.Extreme (· ≤ ·) (modelDump (CustodyRow.withHead "pending" value))
      ["schema_id", "head", "tenant_id", "principal_id", "original_call_id", "send_head", "worker"]
      "head" (.str "pending") :=
    ⟨by simp [modelDump, CustodyRow.withHead, Family.common], rfl, by decide, by decide⟩
  exact edge_key least literals.claim (by decide)

theorem sampleIntent_ne_send (one other : Identity) :
    CustodyRow.head (sampleIntent one) ≠ CustodyRow.head (sampleSend other) := by
  rw [← sampleIntent_self, ← sampleSend_self]
  apply effectHead_ne 2
  rw [nativeIntent_edge emissionLiterals, send_edge emissionLiterals]
  decide

theorem sampleIntent_ne_claim (one other : Identity) :
    CustodyRow.head (sampleIntent one) ≠ CustodyRow.head (sampleClaim other) := by
  rw [← sampleIntent_self, ← sampleClaim_self]
  apply effectHead_ne 2
  rw [nativeIntent_edge emissionLiterals, claim_edge emissionLiterals]
  decide

theorem sampleSend_ne_claim (one other : Identity) :
    CustodyRow.head (sampleSend one) ≠ CustodyRow.head (sampleClaim other) := by
  rw [← sampleSend_self, ← sampleClaim_self]
  apply effectHead_ne 2
  rw [send_edge emissionLiterals, claim_edge emissionLiterals]
  decide

theorem sentUser_distinct : (adoptedUser.snapshot.recordIds ++
    [record (sampleSend sampleCall)].map (Record.recordId (β := ClientValue))).Nodup := by
  have before : "call/accepted" ≠ CustodyRow.head (sampleIntent sampleCall) := by
    rw [← sampleIntent_self]
    exact outside_effects (by decide) _
  have after : "call/accepted" ≠ CustodyRow.head (sampleSend sampleCall) := by
    rw [← sampleSend_self]
    exact outside_effects (by decide) _
  have apart := sampleIntent_ne_send sampleCall sampleCall
  have ids : adoptedUser.snapshot.recordIds ++
      [record (sampleSend sampleCall)].map (Record.recordId (β := ClientValue)) =
        ["call/accepted", CustodyRow.head (sampleIntent sampleCall),
          CustodyRow.head (sampleSend sampleCall)] := rfl
  rw [ids]
  simp [before, after, apart]

theorem sentUser_appended : adoptedUser.snapshot.append "effects.first-send" "call"
    (digest (canonicalBytes (sampleSend sampleCall)).items).text [record (sampleSend sampleCall)]
    adoptedUser.snapshot.head = .ok sentUser.snapshot :=
  append_returns (by decide) (by decide) sentUser_distinct

theorem first_send : commitEffectSend (sampleEffects sampleCall) sampleRuntime sampleBinding
    "local-cli" "call" sampleGateRequest adoptedUser =
      .ok (sentUser, ⟨.tool, sampleSend sampleCall⟩) := by
  have schemas : adoptedUser.snapshot.records.map Record.schemaId =
      ["chiplog.agent-loop.native-call-state.v1", Schema.schemaId NativeEffectIntentV1] := rfl
  have unsent : sendRows sampleRuntime adoptedUser.snapshot "call" = .ok [] :=
    familyRows_reads (.none (by rw [schemas]; decide)) (.none (by rw [schemas]; decide)) "call"
  exact commitEffectSend_returns rfl sampleSubject_adopted unsent
    (sampleBinding_matches sampleCall (by decide)) rfl (sampleCall_adopted _) rfl rfl
    sentUser_appended rfl

theorem claimedUser_distinct : (sentUser.snapshot.recordIds ++
    (claimBatch sampleCall 3).records.map Record.recordId).Nodup := by
  have intent : ∀ text ∈ ["call/accepted", "call/unknown", "call/run"],
      text ≠ CustodyRow.head (sampleIntent sampleCall) := by
    rw [← sampleIntent_self]
    exact fun text inside => outside_effects (by revert text; decide) _
  have send : ∀ text ∈ ["call/accepted", "call/unknown", "call/run"],
      text ≠ CustodyRow.head (sampleSend sampleCall) := by
    rw [← sampleSend_self]
    exact fun text inside => outside_effects (by revert text; decide) _
  have claim : ∀ text ∈ ["call/accepted", "call/unknown", "call/run"],
      text ≠ CustodyRow.head (sampleClaim sampleCall) := by
    rw [← sampleClaim_self]
    exact fun text inside => outside_effects (by revert text; decide) _
  have ids : sentUser.snapshot.recordIds ++ (claimBatch sampleCall 3).records.map Record.recordId =
      ["call/accepted", CustodyRow.head (sampleIntent sampleCall),
        CustodyRow.head (sampleSend sampleCall), CustodyRow.head (sampleClaim sampleCall),
        "call/unknown", "call/run"] := rfl
  simp only [List.forall_mem_cons, List.not_mem_nil, false_implies, implies_true, and_true] at intent send claim
  rw [ids]
  simp [intent, send, claim, sampleIntent_ne_send, sampleIntent_ne_claim, sampleSend_ne_claim, ne_comm]

theorem claimedUser_appended : sentUser.snapshot.append "effects.emit-claim" "call"
    (digest (canonicalBytes (sampleClaim sampleCall)).items).text
    (claimBatch sampleCall 3).records sentUser.snapshot.head = .ok claimedUser.snapshot :=
  append_returns (by decide) (by decide) claimedUser_distinct

theorem first_claim : emitEffect (sampleEffects sampleCall) sampleRuntime sampleBinding
    "local-cli" "call" sentUser = .ok (claimedUser,
      .claimed ⟨.tool, sampleSend sampleCall⟩ ⟨.tool, sampleClaim sampleCall⟩) := by
  have unclaimed : claimRows sampleRuntime sentUser.snapshot "call" = .ok [] :=
    familyRows_reads (.none (by rw [sentUser_schemas]; decide))
      (.none (by rw [sentUser_schemas]; decide)) "call"
  have tools : Reads (EffectSend .tool) sampleRuntime sentUser.snapshot.records
      [sampleSend sampleCall] := by
    rw [sentUser_records]
    exact .foreign (by decide) (.other (by decide) (.own (sampleSend_self _) rfl .nil))
  have sent : sendRows sampleRuntime sentUser.snapshot "call" =
      .ok [⟨.tool, sampleSend sampleCall⟩] :=
    familyRows_reads tools (.none (by rw [sentUser_schemas]; decide)) "call"
  exact emitEffect_first rfl unclaimed sampleSubject_sent sent
    (sampleBinding_matches sampleCall (by decide)) rfl rfl sampleCall_claimable rfl
    claimedUser_appended

/-- The world in which the one provider call of the sample has been made. -/
def sampleWorld : World ClientValue :=
  ⟨claimedUser, 0, [⟨⟨.effect, "call"⟩, (sampleSend sampleCall).ticket⟩]⟩

theorem sampleWorld_reachable : sampleWorld.Reachable := by
  let call : Call := ⟨sampleRuntime, "local-cli", ⟨.effect, "call"⟩⟩
  have initial : (World.initial none : World ClientValue).Reachable := .initial none
  have opened := initial.step (.opened _ sampleRuntime)
  have unrelated : Foreign (adoptionBatch sampleCall 1).records := by
    intro item member
    rcases List.mem_cons.mp member with rfl | later
    · exact by decide
    · rw [List.mem_singleton.mp later]
      exact by decide
  have adopted := opened.step (.foreign _ (by decide) unrelated adopts)
  have sent := adopted.step (.commitEffectSend _ first_send)
  have started := sent.step (.start _ (.emit call) trivial)
  have claimed := started.step (.effectClaimed sentUser 0 [] first_claim)
  have worker : sampleRuntime.currentWorker (.ok ()) claimedUser = .ok sampleRuntime.worker := rfl
  have current := claimed.step
    (.currentWorker claimedUser call (sampleSend sampleCall).ticket 0 [] worker)
  exact current.step (.emitIssued claimedUser call (sampleSend sampleCall).ticket 0 [] none)

/-- One SEND, its claim and one emission under its ticket; emitting again returns the claim. -/
theorem reachable_single_emission_sample :
    sampleWorld.Reachable ∧ sampleWorld.SingleEmission ∧
      sampleWorld.emissions = [⟨⟨.effect, "call"⟩, (sampleSend sampleCall).ticket⟩] ∧
      (∃ claimHead sendHead,
        claimsIn ⟨.effect, "call"⟩ sampleWorld.user.snapshot.records = [(claimHead, sendHead)] ∧
          sendsIn ⟨.effect, "call"⟩ sampleWorld.user.snapshot.records =
            [(sendHead, (sampleSend sampleCall).ticket)]) ∧
      emitEffect (sampleEffects sampleCall) sampleRuntime sampleBinding "local-cli" "call"
        sampleWorld.user = .ok (sampleWorld.user, .existing ⟨.tool, sampleClaim sampleCall⟩) := by
  have single := reachable_single_emission sampleWorld sampleWorld_reachable
  exact ⟨sampleWorld_reachable, single, rfl, single.ticket _ List.mem_cons_self, claim_again⟩

end Edges

end Chiplog.Composition
