import Chiplog.Data.JsonText
import Chiplog.Data.Sha256
import Chiplog.Effects.OutcomeProgress
import Chiplog.Effects.Retransmission

namespace Chiplog.Effects

open Chiplog.Data

/-! Dispatch times of covered children.

The dispatch algebra refuses a retransmission whose earlier children lie outside the observed
time or the provider's interval.  The preparation compares only the observed time with that
interval: the dispatch times of the children enter none of its checks. -/

section Coverage

variable [Hashlib] {σ : Type} [Model σ]

/-- The dispatch times that `requireSafeRetransmission` admits. -/
structure CoveredInTime (children : List TransmissionAttempt) (proof : RetransmissionProof)
    (startsNs observedNs expiresNs : Nat) : Prop where
  observed : ∀ child ∈ children, child.dispatchTimeNs ≤ observedNs
  covered : proof = .providerIdempotencyCoversAll → ∀ child ∈ children,
    startsNs ≤ child.dispatchTimeNs ∧ child.dispatchTimeNs < expiresNs

def SafeRetryCoverage.proofKind : SafeRetryCoverage → RetransmissionProof
  | .provider _ => .providerIdempotencyCoversAll
  | .incapable _ => .allPriorPermanentlyIncapable

/-- The same conditions on the children and the interval of a lifecycle request. -/
def PrepareSafeRetransmission.InTime (request : PrepareSafeRetransmission σ) : Prop :=
  CoveredInTime request.observed.completeOrderedChildren.items request.coverage.proofKind
    request.coverage.subject.coverageStartsNs.toNat request.current.observedTimeNs
    request.coverage.subject.coverageExpiresNs.toNat

/-- No child was dispatched after the observation, nor before the coverage of a provider. -/
def PrepareSafeRetransmission.DispatchedUnderCoverage (request : PrepareSafeRetransmission σ) :
    Prop :=
  ∀ child ∈ request.observed.completeOrderedChildren.items,
    child.dispatchTimeNs ≤ request.current.observedTimeNs ∧
      (request.coverage.proofKind = .providerIdempotencyCoversAll →
        request.coverage.subject.coverageStartsNs.toNat ≤ child.dispatchTimeNs)

/-- The request with other dispatch times of its children. -/
def PrepareSafeRetransmission.dispatchedAt (request : PrepareSafeRetransmission σ)
    (dispatched : TransmissionAttempt → Nat) : PrepareSafeRetransmission σ :=
  { request with
    observed := { request.observed with
      completeOrderedChildren :=
        ⟨request.observed.completeOrderedChildren.items.map
            (fun child => { child with dispatchTimeNs := dispatched child }),
          by simp [request.observed.completeOrderedChildren.nonempty]⟩ } }

variable {request : PrepareSafeRetransmission σ} {obligation : Option ExactHead}

omit [Hashlib] [Model σ] in
theorem dispatchedAt_transmissions (request : PrepareSafeRetransmission σ)
    (dispatched : TransmissionAttempt → Nat) :
    (request.dispatchedAt dispatched).observed.transmissions = request.observed.transmissions :=
  List.map_map

theorem LineageAgrees.dispatchedAt (agrees : LineageAgrees request.observed)
    (dispatched : TransmissionAttempt → Nat) :
    LineageAgrees (request.dispatchedAt dispatched).observed where
  ordinals := by
    simpa [PrepareSafeRetransmission.dispatchedAt, Function.comp_def] using agrees.ordinals
  distinct := by
    rw [dispatchedAt_transmissions]
    exact agrees.distinct
  sources := by
    rw [dispatchedAt_transmissions]
    exact agrees.sources
  terms := by
    intro child member
    obtain ⟨original, retained, rfl⟩ := List.mem_map.mp member
    exact agrees.terms original retained

theorem CoverageAgrees.dispatchedAt (agrees : CoverageAgrees request)
    (dispatched : TransmissionAttempt → Nat) : CoverageAgrees (request.dispatchedAt dispatched) where
  intent := agrees.intent
  mandate := agrees.mandate
  prior := by
    rw [dispatchedAt_transmissions]
    exact agrees.prior
  ordinal := by
    simpa [PrepareSafeRetransmission.dispatchedAt] using agrees.ordinal
  fresh := by
    simpa [PrepareSafeRetransmission.dispatchedAt] using agrees.fresh
  clock := agrees.clock
  starts := agrees.starts
  expires := agrees.expires
  proofs := by
    rw [dispatchedAt_transmissions]
    exact agrees.proofs

omit [Hashlib] [Model σ] in
theorem retainedObligation_dispatchedAt (request : PrepareSafeRetransmission σ)
    (dispatched : TransmissionAttempt → Nat) (intentHead : ExactHead) :
    retainedObligation (request.dispatchedAt dispatched).observed intentHead =
      retainedObligation request.observed intentHead := by
  unfold retainedObligation
  rw [dispatchedAt_transmissions]
  rfl

/-- Whatever dispatch times its children carry, an accepted request stays accepted. -/
theorem Retransmittable.dispatchedAt (checked : Retransmittable request obligation)
    (dispatched : TransmissionAttempt → Nat) :
    Retransmittable (request.dispatchedAt dispatched) obligation where
  state := checked.state
  authorized := checked.authorized
  lineage := checked.lineage.dispatchedAt dispatched
  obligation := (retainedObligation_dispatchedAt request dispatched _).trans checked.obligation
  coverage := checked.coverage.dispatchedAt dispatched

theorem CoverageAgrees.inTime_iff (agrees : CoverageAgrees request) :
    request.InTime ↔ request.DispatchedUnderCoverage := by
  constructor
  · intro inTime child member
    exact ⟨inTime.observed child member, fun provider => (inTime.covered provider child member).1⟩
  · intro dispatched
    refine ⟨fun child member => (dispatched child member).1, fun provider child member => ?_⟩
    -- The interval is still open at the observed time, so it is at every earlier dispatch.
    have before := (dispatched child member).1
    exact ⟨(dispatched child member).2 provider, before.trans_lt agrees.expires⟩

/-- An accepted request keeps the dispatch algebra's times exactly when its children were
dispatched under the coverage, which no check of the preparation looks at. -/
theorem retransmission_inTime (request : PrepareSafeRetransmission σ)
    (prepared : PreparedSafeRetransmission)
    (accepted : prepareSafeRetransmission request = .ok prepared)
    (dispatched : TransmissionAttempt → Nat) :
    (request.InTime ↔ request.DispatchedUnderCoverage) ∧
      ∃ redispatched,
        prepareSafeRetransmission (request.dispatchedAt dispatched) = .ok redispatched := by
  obtain ⟨obligation, checked, _⟩ := prepareSafeRetransmission_ok.mp accepted
  exact ⟨checked.coverage.inTime_iff, _,
    prepareSafeRetransmission_ok.mpr ⟨obligation, checked.dispatchedAt dispatched, rfl⟩⟩

end Coverage

/-! ### One intent and its retransmissions -/

section Sample

variable [Hashlib]

def sampleLifecycleIntent : LifecycleIntent ExactHead :=
  .v2 (sampleDispatch ⟨[sampleHead], sampleHead_ne_nil⟩)

/-- A transmission of the sample intent. -/
def sampleTransmission (transmission : ExactHead) (ordinal : UInt64) (dispatched : Nat) :
    TransmissionAttempt where
  transmission
  intent := sampleLifecycleIntent.head
  ordinal
  semantics := sampleSemantics
  dispatchTimeNs := dispatched
  payloadFingerprint := (sha256 sampleBytes.items).identity
  recipient := ⟨sampleId, sampleId, sampleId, sampleHead, sampleBytes, sampleHead⟩
  idempotencyFenceKey := sampleId
  sendCommit := sampleHead
  coverageProof := none

def sampleSource (subject : ExactHead) : SelectedEffectsSource :=
  ⟨sampleId, subject, sampleId, sampleBytes, sampleHead, sampleHead⟩

def sampleCut (parent : ExactHead) (children : NonemptyTuple TransmissionAttempt) :
    EffectsLineageCut ExactHead where
  tenantId := sampleId
  databaseId := sampleId
  tenantCommitSequence := 0
  materializationCommitment := sha256 sampleBytes.items
  originalIntent := sampleLifecycleIntent
  originalAuthorization := .v2 ⟨sampleHead, sampleLifecycleIntent.head, sampleHead,
    sampleLifecycleIntent.mandate.head, sampleSemantics, sampleFence, sampleId⟩
  currentParent := parent
  state := .outcomeUnknown
  completeOrderedChildren := children
  completeChildSources :=
    ⟨children.items.map (fun child => sampleSource child.transmission), by
      simp [children.nonempty]⟩
  completeOrderedEvidence := []
  originalObligation := .absent
  completeInventoryFingerprint := sha256 sampleBytes.items

def sampleCurrent : CurrentDispatchInputsV2 where
  commandFingerprint := sha256 sampleBytes.items
  immutableMandate := sampleHead
  observation := {
    queryFingerprint := sha256 sampleBytes.items
    cut := ⟨sampleId, sampleHead, sampleHead, sha256 sampleBytes.items, 0, sampleHead, sampleId⟩
    sources :=
      let missing := SourceObservation.unavailable ⟨.unimplemented, sampleId⟩
      ⟨missing, missing, missing, missing, missing, missing, missing, missing, missing, missing,
        missing⟩
    completeEffectHistory := []
    completeHistoryFingerprint := sha256 sampleBytes.items }
  supportedSemantics := none
  clockContract := sampleId
  clockEpoch := sampleId
  observedTimeNs := 10
  leaseExpiresAtNs := ⟨1, Nat.one_pos⟩

/-- The next retransmission after `children`, covered by its provider from 5 to 20 and observed
at 10. -/
def sampleRetry (parent : ExactHead) (children : NonemptyTuple TransmissionAttempt)
    (next : Identity) (ordinal : UInt64) (later : 0 < ordinal) :
    PrepareSafeRetransmission ExactHead where
  identity := ⟨sampleId, sampleId, 0⟩
  observed := sampleCut parent children
  expectedParentState := .outcomeUnknown
  coverage := .provider {
    subject := {
      originalIntent := sampleLifecycleIntent.head
      exactEffectFingerprint := sha256 sampleBytes.items
      exactPayloadFingerprint := sha256 sampleBytes.items
      recipient := ⟨sampleId, sampleId, sampleId, sampleHead, sampleBytes, sampleHead⟩
      idempotencyFenceKey := sampleId
      completePriorChildren :=
        ⟨children.items.map (·.transmission), by simp [children.nonempty]⟩
      nextTransmissionId := next
      nextOrdinal := ordinal
      clockContract := sampleId
      clockEpoch := sampleId
      coverageStartsNs := 5
      coverageExpiresNs := 20
      later }
    providerContract := sampleSource sampleHead
    completeCoverageProof := sampleSource sampleHead }
  current := sampleCurrent
  completeCurrentOriginSources := []
  fence := sampleFence

/-- A sample request is accepted when its children are a lineage of the sample intent. -/
theorem sampleRetry_checked (parent : ExactHead) {children : NonemptyTuple TransmissionAttempt}
    {next : Identity} {ordinal : UInt64} (later : 0 < ordinal)
    (ordinals : children.items.map (·.ordinal.toNat) = List.range children.items.length)
    (distinct : (children.items.map (·.transmission)).Nodup)
    (terms : ∀ child ∈ children.items,
      ChildRepeats sampleLifecycleIntent.mandate sampleLifecycleIntent.head child)
    (count : ordinal.toNat = children.items.length)
    (fresh : next ∉ children.items.map (·.transmission.subjectId)) :
    Retransmittable (sampleRetry parent children next ordinal later) none where
  state := rfl
  authorized := by
    have intent : requireIntent (sampleDispatch ⟨[sampleHead], by decide⟩) = .ok () :=
      sampleDispatch_accepted (by simp)
    unfold requireOriginalAuthorization sampleRetry sampleCut
    simp only [sampleLifecycleIntent]
    rw [intent, ok_bind]
    unfold requireAuthorized
    rw [deny_neg (not_not.mpr rfl), ok_bind, deny_neg (not_not.mpr rfl), ok_bind]
    exact deny_neg (not_not.mpr rfl)
  lineage := ⟨ordinals, distinct, by
    simp [sampleRetry, sampleCut, sampleSource, EffectsLineageCut.transmissions], terms⟩
  obligation := rfl
  coverage := {
    intent := rfl
    mandate := ⟨rfl, rfl, rfl, rfl⟩
    prior := rfl
    ordinal := count
    fresh
    clock := ⟨rfl, rfl⟩
    starts := show 5 ≤ 10 by decide
    expires := show 10 < 20 by decide
    proofs := by
      intro coverage impossible
      cases impossible }

/-- The sample intent with a single child, dispatched at the given time. -/
def sampleRetransmission (dispatched : Nat) : PrepareSafeRetransmission ExactHead :=
  sampleRetry sampleHead ⟨[sampleTransmission sampleHead 0 dispatched], by simp⟩
    ⟨"next", by decide⟩ 1 (by decide)

theorem sampleRetransmission_checked (dispatched : Nat) :
    Retransmittable (sampleRetransmission dispatched) none :=
  sampleRetry_checked sampleHead (by decide) rfl (List.nodup_singleton _)
    (by
      intro child member
      rw [List.mem_singleton.mp member]
      exact ⟨rfl, rfl, rfl, rfl, rfl⟩)
    rfl (by simp [sampleTransmission, sampleHead, sampleId])

end Sample

/-- A child dispatched at 7 lies under the coverage. -/
theorem retransmission_inTime_sample :
    letI := Sha256.hashlib
    (sampleRetransmission 7).InTime ∧ ∃ redispatched,
      prepareSafeRetransmission ((sampleRetransmission 7).dispatchedAt (fun _ => 12)) =
        .ok redispatched := by
  let _ := Sha256.hashlib
  have accepted := prepareSafeRetransmission_ok.mpr ⟨none, sampleRetransmission_checked 7, rfl⟩
  obtain ⟨agrees, redispatched⟩ := retransmission_inTime _ _ accepted (fun _ => 12)
  refine ⟨agrees.mpr ?_, redispatched⟩
  intro child member
  rw [List.mem_singleton.mp member]
  exact ⟨by decide, fun _ => by decide⟩

/-- A child dispatched at 12, after the observation at 10, is covered all the same. -/
theorem retransmission_beyond_observation :
    letI := Sha256.hashlib
    (∃ prepared, prepareSafeRetransmission (sampleRetransmission 12) = .ok prepared) ∧
      ¬ (sampleRetransmission 12).InTime := by
  let _ := Sha256.hashlib
  refine ⟨⟨_, prepareSafeRetransmission_ok.mpr ⟨none, sampleRetransmission_checked 12, rfl⟩⟩, ?_⟩
  intro inTime
  have bounded : 12 ≤ 10 := inTime.observed _ List.mem_cons_self
  omega

end Chiplog.Effects

namespace Chiplog.Effects

open Chiplog.Data

/-! The lineage of one intent over its retransmissions.

A returned parent lists the inventory of its own call by transmission and the new child by the
record of that child.  The next call lists the same child by its transmission. -/

section Lineage

variable [Hashlib] {σ : Type} [Model σ]

/-- A successful call of `prepareSafeRetransmission`. -/
structure SafeRetransmissionCall (σ : Type) [Model σ] where
  request : PrepareSafeRetransmission σ
  prepared : PreparedSafeRetransmission
  accepted : prepareSafeRetransmission request = .ok prepared

namespace SafeRetransmissionCall

def inventory (call : SafeRetransmissionCall σ) : List TransmissionAttempt :=
  call.request.observed.completeOrderedChildren.items

def child (call : SafeRetransmissionCall σ) : TransmissionAttempt := call.prepared.child

def parentChildren (call : SafeRetransmissionCall σ) : List ExactHead :=
  call.prepared.parent.completeOrderedChildren

/-- The later call observes the same intent, the parent that the earlier one returned, under the
reference that its store gives parents, and the earlier children followed by the returned one. -/
structure Follows (parentHead : RetriedParentRevision → ExactHead)
    (earlier later : SafeRetransmissionCall σ) : Prop where
  intent : later.request.observed.originalIntent = earlier.request.observed.originalIntent
  parent : later.request.observed.currentParent = parentHead earlier.prepared.parent
  children : later.inventory = earlier.inventory ++ [earlier.child]

variable {call earlier later : SafeRetransmissionCall σ}
  {parentHead : RetriedParentRevision → ExactHead}

theorem prepared_eq (call : SafeRetransmissionCall σ) :
    ∃ obligation, Retransmittable call.request obligation ∧
      call.prepared = preparedRetransmission call.request obligation
        call.request.observed.originalIntent.head call.request.observed.originalAuthorization.head :=
  prepareSafeRetransmission_ok.mp call.accepted

theorem parentChildren_eq (call : SafeRetransmissionCall σ) :
    call.parentChildren =
      call.inventory.map (·.transmission) ++ [childRecordHead call.child] := by
  obtain ⟨obligation, checked, same⟩ := call.prepared_eq
  rw [parentChildren, child, same]
  exact congrArg (· ++ _) checked.coverage.prior

theorem child_transmission (call : SafeRetransmissionCall σ) :
    call.child.transmission = reference call.child.transmission.subjectId
      (safeRetransmissionDomain ++ utf8 call.request.fingerprint.text) := by
  obtain ⟨obligation, _, same⟩ := call.prepared_eq
  rw [child, same]
  rfl

theorem reference_inj {subject : Identity} {left right : Bytes} :
    reference subject left = reference subject right ↔ sha256 left = sha256 right := by
  constructor
  · intro same
    have fingerprint := congrArg (fun head => head.fingerprint.text) same
    exact Digest.ext_text fingerprint
  · intro same
    unfold reference
    rw [same]

theorem childRecordHead_eq_transmission (call : SafeRetransmissionCall σ) :
    childRecordHead call.child = call.child.transmission ↔
      sha256 (canonicalBytes call.child).items =
        sha256 (safeRetransmissionDomain ++ utf8 call.request.fingerprint.text) := by
  have named := call.child_transmission
  rw [childRecordHead]
  constructor
  · intro same
    exact reference_inj.mp (same.trans named)
  · intro same
    exact (reference_inj.mpr same).trans named.symm

/-- Both references of a child name its transmission. -/
theorem parentChildren_subjects (call : SafeRetransmissionCall σ) :
    call.parentChildren.map (·.subjectId) =
      (call.inventory ++ [call.child]).map (·.transmission.subjectId) := by
  rw [parentChildren_eq, List.map_append, List.map_append, List.map_map]
  rfl

theorem Follows.parentChildren_eq (follows : Follows parentHead earlier later) :
    later.parentChildren = earlier.inventory.map (·.transmission) ++
      [earlier.child.transmission, childRecordHead later.child] := by
  rw [SafeRetransmissionCall.parentChildren_eq, follows.children, List.map_append]
  simp

theorem Follows.prefix_iff (follows : Follows parentHead earlier later) :
    earlier.parentChildren <+: later.parentChildren ↔
      childRecordHead earlier.child = earlier.child.transmission := by
  rw [follows.parentChildren_eq, earlier.parentChildren_eq, List.prefix_append_right_inj]
  simp

/-- Over a chain of calls, the inventory of a call is the first inventory followed by the
children that the calls before it returned. -/
theorem inventory_of_chain {first : SafeRetransmissionCall σ}
    {calls before after : List (SafeRetransmissionCall σ)}
    (chain : (first :: calls).IsChain (Follows parentHead))
    (position : first :: calls = before ++ call :: after) :
    call.inventory = first.inventory ++ before.map (·.child) := by
  induction calls generalizing first before with
  | nil =>
      cases before with
      | nil =>
          cases position
          simp
      | cons head rest => simp at position
  | cons second calls ih =>
      cases before with
      | nil =>
          cases position
          simp
      | cons head rest =>
          obtain ⟨same, position⟩ := List.cons.inj position
          have follows := (List.isChain_cons_cons.mp chain).1
          rw [ih (List.isChain_cons_cons.mp chain).2 position, follows.children, same]
          simp

end SafeRetransmissionCall

open SafeRetransmissionCall

omit [Hashlib] in
theorem canonicalBytes_head? {α : Type} [Model α] (value : α) :
    (canonicalBytes value).items.head? = some 123 := by
  have opening : utf8 "\x7b" = [123] := by decide +kernel
  simp only [canonicalBytes, toJson, Json.encode, Json.dumps, utf8_append, opening]
  rfl

omit [Hashlib] in
theorem safeRetransmissionDomain_head? (rest : Bytes) :
    (safeRetransmissionDomain ++ rest).head? = some 99 := by
  have opening : safeRetransmissionDomain.head? = some 99 := by decide +kernel
  rw [List.head?_append, opening]
  rfl

omit [Hashlib] in
/-- A child's record and the text its transmission is derived from are different bytes. -/
theorem record_ne_transmission {α : Type} [Model α] (value : α) (rest : Bytes) :
    (canonicalBytes value).items ≠ safeRetransmissionDomain ++ rest := by
  intro same
  have heads := congrArg List.head? same
  rw [canonicalBytes_head?, safeRetransmissionDomain_head?] at heads
  exact absurd (Option.some.inj heads) (by decide)

/-- In a chain of calls each parent lists the first inventory and the children returned before
by transmission, and the call's own child by its record.  Its subjects are those of the next
inventory, and the next parent's are one more.  The next parent spells the last child by its
transmission, so as references it extends this parent's list only if two different byte
strings have one digest. -/
theorem retransmission_lineage (parentHead : RetriedParentRevision → ExactHead)
    (first call : SafeRetransmissionCall σ) (calls before after : List (SafeRetransmissionCall σ))
    (chain : (first :: calls).IsChain (SafeRetransmissionCall.Follows parentHead))
    (position : first :: calls = before ++ call :: after) :
    call.parentChildren =
        (first.inventory ++ before.map (·.child)).map (·.transmission) ++
          [childRecordHead call.child] ∧
      ∀ next ∈ after.head?,
        call.parentChildren.map (·.subjectId) =
            next.inventory.map (·.transmission.subjectId) ∧
          next.parentChildren.map (·.subjectId) =
            call.parentChildren.map (·.subjectId) ++ [next.child.transmission.subjectId] ∧
          next.inventory.map (·.transmission) =
            call.parentChildren.dropLast ++ [call.child.transmission] ∧
          (call.parentChildren <+: next.parentChildren ↔
            sha256 (canonicalBytes call.child).items =
              sha256 (safeRetransmissionDomain ++ utf8 call.request.fingerprint.text)) ∧
          (canonicalBytes call.child).items ≠
            safeRetransmissionDomain ++ utf8 call.request.fingerprint.text := by
  refine ⟨by rw [call.parentChildren_eq, inventory_of_chain chain position], ?_⟩
  intro next member
  have follows : SafeRetransmissionCall.Follows parentHead call next := by
    obtain ⟨rest, rfl⟩ := List.head?_eq_some_iff.mp member
    rw [position] at chain
    exact (List.isChain_append_cons_cons.mp chain).2.1
  have subjects : call.parentChildren.map (·.subjectId) =
      next.inventory.map (·.transmission.subjectId) := by
    rw [call.parentChildren_subjects, follows.children]
  refine ⟨subjects, ?_, ?_, ?_, record_ne_transmission _ _⟩
  · rw [next.parentChildren_subjects, subjects, List.map_append]
    rfl
  · rw [follows.children, call.parentChildren_eq, List.dropLast_concat, List.map_append]
    rfl
  · rw [follows.prefix_iff, call.childRecordHead_eq_transmission]

end Lineage

/-! ### Two calls on the sample intent -/

open SafeRetransmissionCall

section Sample

variable [Hashlib]

def sampleParentHead (parent : RetriedParentRevision) : ExactHead :=
  reference sampleId (canonicalBytes parent).items

def firstRetransmission : SafeRetransmissionCall ExactHead where
  request := sampleRetransmission 7
  prepared := preparedRetransmission (sampleRetransmission 7) none sampleLifecycleIntent.head sampleHead
  accepted := prepareSafeRetransmission_ok.mpr ⟨none, sampleRetransmission_checked 7, rfl⟩

def secondInventory : NonemptyTuple TransmissionAttempt :=
  ⟨[sampleTransmission sampleHead 0 7, firstRetransmission.child], by simp⟩

def secondRequest : PrepareSafeRetransmission ExactHead :=
  sampleRetry (sampleParentHead firstRetransmission.prepared.parent) secondInventory
    ⟨"last", by decide⟩ 2 (by decide)

theorem firstRetransmission_subject :
    firstRetransmission.child.transmission.subjectId = ⟨"next", by decide⟩ := rfl

theorem secondRequest_checked : Retransmittable secondRequest none := by
  refine sampleRetry_checked _ (by decide) rfl ?_ ?_ rfl ?_
  · refine List.nodup_cons.mpr ⟨?_, List.nodup_singleton _⟩
    intro member
    have same : sampleId = firstRetransmission.child.transmission.subjectId :=
      congrArg ExactHead.subjectId (List.mem_singleton.mp member)
    rw [firstRetransmission_subject] at same
    exact absurd (congrArg Identity.text same) (by decide)
  · intro child member
    rcases List.mem_cons.mp member with own | later
    · rw [own]
      exact ⟨rfl, rfl, rfl, rfl, rfl⟩
    · rw [List.mem_singleton.mp later]
      exact ⟨rfl, rfl, rfl, rfl, rfl⟩
  · show (⟨"last", by decide⟩ : Identity) ∉
      [sampleId, firstRetransmission.child.transmission.subjectId]
    rw [firstRetransmission_subject]
    decide

def secondRetransmission : SafeRetransmissionCall ExactHead where
  request := secondRequest
  prepared := preparedRetransmission secondRequest none sampleLifecycleIntent.head sampleHead
  accepted := prepareSafeRetransmission_ok.mpr ⟨none, secondRequest_checked, rfl⟩

theorem secondRetransmission_follows :
    SafeRetransmissionCall.Follows sampleParentHead firstRetransmission secondRetransmission where
  intent := rfl
  parent := rfl
  children := rfl

end Sample

theorem retransmission_lineage_sample :
    letI := Sha256.hashlib
    secondRetransmission.inventory.map (·.transmission) =
      firstRetransmission.parentChildren.dropLast ++ [firstRetransmission.child.transmission] := by
  let _ := Sha256.hashlib
  have lineage := retransmission_lineage sampleParentHead firstRetransmission firstRetransmission
    [secondRetransmission] [] [secondRetransmission]
    (List.isChain_cons_cons.mpr ⟨secondRetransmission_follows, List.isChain_singleton _⟩) rfl
  exact (lineage.2 secondRetransmission rfl).2.2.1

/-- A digest for objects and another one for all other bytes.  SHA-256 tells the two texts of
`retransmission_respelled` apart as well. -/
@[reducible] def objectDigest : Hashlib :=
  ⟨fun raw =>
    if raw.head? = some 123 then ⟨String.ofList (List.replicate 64 '0'), by decide +kernel⟩
    else ⟨String.ofList (List.replicate 64 '1'), by decide +kernel⟩⟩

theorem objectDigest_ne {left right : Bytes} (object : left.head? = some 123)
    (other : right.head? = some 99) : objectDigest.sha256 left ≠ objectDigest.sha256 right := by
  have second : ¬ right.head? = some 123 := by
    rw [other]
    decide
  rw [show objectDigest.sha256 left = _ from if_pos object,
    show objectDigest.sha256 right = _ from if_neg second]
  decide +kernel

/-- Under a hash that tells records from other bytes, the second parent lists the first child
by another reference than the first parent did. -/
theorem retransmission_respelled :
    letI := objectDigest
    SafeRetransmissionCall.Follows sampleParentHead firstRetransmission secondRetransmission ∧
      ¬ firstRetransmission.parentChildren <+: secondRetransmission.parentChildren := by
  let _ := objectDigest
  refine ⟨secondRetransmission_follows, ?_⟩
  rw [secondRetransmission_follows.prefix_iff, childRecordHead_eq_transmission]
  exact objectDigest_ne (canonicalBytes_head? _) (safeRetransmissionDomain_head? _)

end Chiplog.Effects
