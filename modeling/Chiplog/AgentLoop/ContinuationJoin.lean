import Chiplog.AgentLoop.RecoveryDomain

namespace Chiplog.AgentLoop

open Chiplog.Data Chiplog.Effects

/-! The continuation join as a match of three lists. -/

/-- The pair that recovers a call, drawn from the supplied lists. -/
structure Recovers (closures : List RecoveredClosure) (reductions : List EvidenceReduction)
    (call : TerminalCallFrontier) (pair : RecoveredClosure × EvidenceReduction) : Prop where
  closure : pair.1 ∈ closures
  ofCall : pair.1.originalCallId = call.callId
  reduction : pair.2 ∈ reductions
  named : pair.2.key = pair.1.reductionId
  consumable : pair.2.consumability = .consumable
  bound : ∃ required outcome, call.disposition = .recoveryRequired required ∧
    required.recoveredOutcome.outcome = some outcome ∧ Bound required outcome pair.1 pair.2

theorem accountedCall_ok {responseId : String} {frontier : CallRecoveryFrontier}
    {call : TerminalCallFrontier} (accounted : accountedCall responseId frontier = .ok call) :
    frontier = .terminal call ∧ call.responseId.text = responseId := by
  obtain ⟨_, own, accounted⟩ := bind_ok.mp accounted
  have own := not_not.mp (raiseIf_ok.mp own)
  cases frontier with
  | pending => cases accounted
  | terminal found =>
      iterate 3 obtain ⟨_, _, accounted⟩ := bind_ok.mp accounted
      cases accounted
      exact ⟨rfl, own⟩

theorem accountedCalls_ok {responseId : String} {frontiers : List CallRecoveryFrontier}
    {calls : List TerminalCallFrontier}
    (accounted : frontiers.mapM (accountedCall responseId) = .ok calls) :
    frontiers = calls.map .terminal := by
  induction frontiers generalizing calls with
  | nil =>
      cases pure_ok.mp accounted
      rfl
  | cons frontier rest ih =>
      simp only [List.mapM_cons, bind_ok, pure_ok] at accounted
      obtain ⟨first, own, later, accounted, rfl⟩ := accounted
      rw [(accountedCall_ok own).1, ih accounted, List.map_cons]

/-- The accounting lists the sealed calls, all of them terminal, in manifest order. -/
theorem sealedCallAccounting_ok {responseId fingerprint : String} {ordered : List String} {frontiers : List CallRecoveryFrontier}
    {accounting : SealedAccounting}
    (accounted : sealedCallAccounting responseId fingerprint ordered frontiers = .ok accounting) :
    frontiers = accounting.calls.map .terminal ∧
      accounting.calls.map TerminalCallFrontier.callId = ordered ∧ ordered.Nodup := by
  obtain ⟨_, distinct, accounted⟩ := bind_ok.mp accounted
  obtain ⟨_, members, accounted⟩ := bind_ok.mp accounted
  obtain ⟨calls, listed, accounted⟩ := bind_ok.mp accounted
  cases accounted
  have whole := accountedCalls_ok listed
  have members := not_not.mp (raiseIf_ok.mp members)
  refine ⟨whole, ?_, not_not.mp (raiseIf_ok.mp distinct)⟩
  rw [← members, whole, List.map_map]
  rfl

section Join

variable {closures : List RecoveredClosure} {reductions : List EvidenceReduction}
  {accounting : SealedAccounting} {result : ContinuationReady}

theorem joinCall_ok (distinctClosures : (closures.map RecoveredClosure.originalCallId).Nodup)
    (distinctReductions : (reductions.map EvidenceReduction.key).Nodup)
    {call : TerminalCallFrontier} {round : Option (RecoveredClosure × EvidenceReduction)}
    (joined : joinCall (Dict.ofRows RecoveredClosure.originalCallId id closures)
      (Dict.ofRows EvidenceReduction.key id reductions) call = .ok round) :
    (call.required?.isSome = false ∧ round = none) ∨
      (call.required?.isSome = true ∧ ∃ pair, round = some pair ∧
        Recovers closures reductions call pair) := by
  unfold joinCall at joined
  split at joined
  · rename_i unneeded
    cases joined
    exact .inl ⟨by rw [unneeded]; rfl, rfl⟩
  · rename_i required needed
    split at joined
    · cases joined
    · rename_i outcome immutable
      split at joined
      · cases joined
      · rename_i closure found
        split at joined
        · cases joined
        · rename_i reduction current
          obtain ⟨_, consumable, joined⟩ := bind_ok.mp joined
          obtain ⟨_, bound, joined⟩ := bind_ok.mp joined
          cases joined
          obtain ⟨_, among, ofCall, rfl⟩ := (Dict.get?_ofRows_eq_some distinctClosures).mp found
          obtain ⟨_, inside, named, rfl⟩ :=
            (Dict.get?_ofRows_eq_some distinctReductions).mp current
          have disposition : call.disposition = .recoveryRequired required := by
            unfold TerminalCallFrontier.required? at needed
            split at needed
            · cases needed
              assumption
            · cases needed
          exact .inr ⟨by rw [needed]; rfl, _, rfl, among, ofCall, inside, named,
            not_not.mp (raiseIf_ok.mp consumable),
            required, outcome, disposition, immutable, not_not.mp (raiseIf_ok.mp bound)⟩

/-- The pairs stand in the order of the calls that need recovery. -/
theorem joinCalls_ok (distinctClosures : (closures.map RecoveredClosure.originalCallId).Nodup)
    (distinctReductions : (reductions.map EvidenceReduction.key).Nodup)
    {calls : List TerminalCallFrontier}
    {rounds : List (Option (RecoveredClosure × EvidenceReduction))}
    (joined : calls.mapM (joinCall (Dict.ofRows RecoveredClosure.originalCallId id closures)
      (Dict.ofRows EvidenceReduction.key id reductions)) = .ok rounds) :
    List.Forall₂ (Recovers closures reductions)
      (calls.filter (fun call => call.required?.isSome)) (rounds.filterMap id) := by
  induction calls generalizing rounds with
  | nil =>
      cases pure_ok.mp joined
      exact .nil
  | cons call rest ih =>
      simp only [List.mapM_cons, bind_ok, pure_ok] at joined
      obtain ⟨round, own, later, joined, rfl⟩ := joined
      have tail := ih joined
      rcases joinCall_ok distinctClosures distinctReductions own with
        ⟨unneeded, rfl⟩ | ⟨needed, pair, rfl, recovers⟩
      · rw [List.filter_cons, if_neg (by rw [unneeded]; decide)]
        exact tail
      · rw [List.filter_cons, if_pos needed]
        exact .cons recovers tail

/-- What a successful join has checked. -/
structure Joined (accounting : SealedAccounting) (closures : List RecoveredClosure)
    (reductions : List EvidenceReduction) (result : ContinuationReady) : Prop where
  accounted : result.accounting = accounting
  distinctClosures : (closures.map RecoveredClosure.originalCallId).Nodup
  distinctReductions : (reductions.map EvidenceReduction.key).Nodup
  members : ∀ identity, identity ∈ closures.map RecoveredClosure.originalCallId ↔
    identity ∈ accounting.requiredCalls.map TerminalCallFrontier.callId
  recovered : List.Forall₂ (Recovers closures reductions) accounting.requiredCalls result.recovered
  used : ∀ identity, identity ∈ reductions.map EvidenceReduction.key ↔
    identity ∈ result.recovered.map (fun pair => pair.1.reductionId)

theorem modelContinuationReady_ok
    (ready : modelContinuationReady accounting closures reductions = .ok result) :
    Joined accounting closures reductions result := by
  obtain ⟨_, stored, ready⟩ := bind_ok.mp ready
  obtain ⟨_, members, ready⟩ := bind_ok.mp ready
  obtain ⟨rounds, joined, ready⟩ := bind_ok.mp ready
  obtain ⟨_, used, ready⟩ := bind_ok.mp ready
  cases ready
  have stored := not_or.mp (raiseIf_ok.mp stored)
  have distinctClosures := Dict.length_ofRows_iff.mp (not_not.mp stored.1)
  have distinctReductions := Dict.length_ofRows_iff.mp (not_not.mp stored.2)
  have members := Finset.ext_iff.mp (not_not.mp (raiseIf_ok.mp members))
  have used := Finset.ext_iff.mp (not_not.mp (raiseIf_ok.mp used))
  simp only [List.mem_toFinset, Dict.mem_keys_ofRows] at members used
  exact ⟨rfl, distinctClosures, distinctReductions, members,
    joinCalls_ok distinctClosures distinctReductions joined, used⟩

theorem Joined.keys (joined : Joined accounting closures reductions result) :
    result.recovered.map (fun pair => pair.1.originalCallId) =
      accounting.requiredCalls.map TerminalCallFrontier.callId := by
  have pairs := joined.recovered
  generalize accounting.requiredCalls = calls at pairs
  generalize result.recovered = recovered at pairs
  induction pairs with
  | nil => rfl
  | cons recovers _ ih => rw [List.map_cons, List.map_cons, recovers.ofCall, ih]

theorem Joined.recovers (joined : Joined accounting closures reductions result)
    {pair : RecoveredClosure × EvidenceReduction} (member : pair ∈ result.recovered) :
    ∃ call ∈ accounting.requiredCalls, Recovers closures reductions call pair := by
  have pairs := joined.recovered
  generalize accounting.requiredCalls = calls at pairs
  generalize result.recovered = recovered at pairs member
  induction pairs with
  | nil => cases member
  | @cons call first calls rest recovers _ ih =>
      rcases List.mem_cons.mp member with rfl | later
      · exact ⟨call, List.mem_cons_self, recovers⟩
      · obtain ⟨other, among, otherRecovers⟩ := ih later
        exact ⟨other, List.mem_cons_of_mem _ among, otherRecovers⟩

/-- Each supplied closure recovers one call. -/
theorem Joined.closures_perm (joined : Joined accounting closures reductions result)
    (distinct : (accounting.calls.map TerminalCallFrontier.callId).Nodup) :
    (result.recovered.map Prod.fst).Perm closures := by
  have required : (accounting.requiredCalls.map TerminalCallFrontier.callId).Nodup :=
    distinct.sublist (List.filter_sublist.map _)
  have apart : (result.recovered.map (fun pair => pair.1.originalCallId)).Nodup :=
    joined.keys ▸ required
  have nodup : (result.recovered.map Prod.fst).Nodup := by
    apply List.Nodup.of_map RecoveredClosure.originalCallId
    rw [List.map_map]
    exact apart
  refine (List.perm_ext_iff_of_nodup nodup (.of_map _ joined.distinctClosures)).mpr ?_
  intro closure
  constructor
  · intro member
    obtain ⟨pair, inside, rfl⟩ := List.mem_map.mp member
    obtain ⟨call, _, recovers⟩ := joined.recovers inside
    exact recovers.closure
  · intro member
    have key := (joined.members closure.originalCallId).mp (List.mem_map_of_mem member)
    rw [← joined.keys] at key
    obtain ⟨pair, inside, same⟩ := List.mem_map.mp key
    obtain ⟨call, _, recovers⟩ := joined.recovers inside
    have own : pair.1 = closure :=
      List.inj_on_of_nodup_map joined.distinctClosures recovers.closure member same
    exact List.mem_map.mpr ⟨pair, inside, own⟩

/-- Each supplied reduction is used. -/
theorem Joined.reductions_used
    (joined : Joined accounting closures reductions result) {reduction : EvidenceReduction} :
    reduction ∈ result.recovered.map Prod.snd ↔ reduction ∈ reductions := by
  constructor
  · intro member
    obtain ⟨pair, inside, rfl⟩ := List.mem_map.mp member
    obtain ⟨call, _, recovers⟩ := joined.recovers inside
    exact recovers.reduction
  · intro member
    have key := (joined.used reduction.key).mp (List.mem_map_of_mem member)
    obtain ⟨pair, inside, same⟩ := List.mem_map.mp key
    obtain ⟨call, _, recovers⟩ := joined.recovers inside
    have own : pair.2 = reduction := List.inj_on_of_nodup_map joined.distinctReductions
      recovers.reduction member (recovers.named.trans same)
    exact List.mem_map.mpr ⟨pair, inside, own⟩

theorem Joined.names (joined : Joined accounting closures reductions result) :
    (result.recovered.map Prod.snd).map EvidenceReduction.key =
      (result.recovered.map Prod.fst).map RecoveredClosure.reductionId := by
  rw [List.map_map, List.map_map]
  apply List.map_congr_left
  intro pair inside
  obtain ⟨call, _, recovers⟩ := joined.recovers inside
  exact recovers.named

/-- Each supplied reduction is used once exactly if no two closures name the same. -/
theorem Joined.reductions_perm_iff (joined : Joined accounting closures reductions result)
    (distinct : (accounting.calls.map TerminalCallFrontier.callId).Nodup) :
    (result.recovered.map Prod.snd).Perm reductions ↔
      (closures.map RecoveredClosure.reductionId).Nodup := by
  have named : ((result.recovered.map Prod.snd).map EvidenceReduction.key).Perm
      (closures.map RecoveredClosure.reductionId) := by
    rw [joined.names]
    exact (joined.closures_perm distinct).map _
  rw [← named.nodup_iff]
  constructor
  · intro once
    exact (once.map _).nodup_iff.mpr joined.distinctReductions
  · intro apart
    refine (List.perm_ext_iff_of_nodup (.of_map _ apart)
      (.of_map _ joined.distinctReductions)).mpr ?_
    intro reduction
    exact joined.reductions_used

/-- A round reads nothing of the dictionaries but their lookups. -/
theorem joinCall_congr {closureMap otherClosures : Dict String RecoveredClosure}
    {reductionMap otherReductions : Dict String EvidenceReduction}
    (sameClosures : ∀ key, closureMap.get? key = otherClosures.get? key)
    (sameReductions : ∀ key, reductionMap.get? key = otherReductions.get? key) :
    joinCall closureMap reductionMap = joinCall otherClosures otherReductions := by
  funext call
  unfold joinCall
  simp only [sameClosures, sameReductions]

theorem keys_perm {κ α β : Type} [DecidableEq κ] {key : α → κ} {value : α → β}
    {rows others : List α} (permuted : rows.Perm others) :
    ((Dict.ofRows key value rows).entries.map Prod.fst).toFinset =
      ((Dict.ofRows key value others).entries.map Prod.fst).toFinset := by
  ext wanted
  rw [List.mem_toFinset, List.mem_toFinset, Dict.mem_keys_ofRows, Dict.mem_keys_ofRows,
    (permuted.map key).mem_iff]

/-- The order of the closures and reductions does not show. -/
theorem modelContinuationReady_perm {others : List RecoveredClosure}
    {rest : List EvidenceReduction} (accounting : SealedAccounting)
    (closuresPerm : closures.Perm others) (reductionsPerm : reductions.Perm rest) :
    modelContinuationReady accounting closures reductions =
      modelContinuationReady accounting others rest := by
  have closureKeys := (closuresPerm.map RecoveredClosure.originalCallId).nodup_iff
  have reductionKeys := (reductionsPerm.map EvidenceReduction.key).nodup_iff
  have stored {rows : List RecoveredClosure} {current : List EvidenceReduction} :
      ((Dict.ofRows RecoveredClosure.originalCallId id rows).entries.length ≠ rows.length ∨
        (Dict.ofRows EvidenceReduction.key id current).entries.length ≠ current.length) ↔
      ¬ ((rows.map RecoveredClosure.originalCallId).Nodup ∧
        (current.map EvidenceReduction.key).Nodup) := by
    rw [ne_eq, ne_eq, Dict.length_ofRows_iff, Dict.length_ofRows_iff, not_and_or]
  unfold modelContinuationReady
  dsimp only
  by_cases distinct : (closures.map RecoveredClosure.originalCallId).Nodup ∧
      (reductions.map EvidenceReduction.key).Nodup
  · have sameRounds :
        joinCall (Dict.ofRows RecoveredClosure.originalCallId id closures)
            (Dict.ofRows EvidenceReduction.key id reductions) =
          joinCall (Dict.ofRows RecoveredClosure.originalCallId id others)
            (Dict.ofRows EvidenceReduction.key id rest) :=
      joinCall_congr (fun key => Dict.get?_ofRows_perm closuresPerm distinct.1 key)
        (fun key => Dict.get?_ofRows_perm reductionsPerm distinct.2 key)
    have others := And.intro (closureKeys.mp distinct.1) (reductionKeys.mp distinct.2)
    rw [raiseIf_neg (fun lost => stored.mp lost distinct),
      raiseIf_neg (fun lost => stored.mp lost others), sameRounds, keys_perm closuresPerm,
      keys_perm reductionsPerm]
  · have others := fun both => distinct (And.imp closureKeys.mpr reductionKeys.mpr both)
    rw [raiseIf_pos (stored.mpr distinct), raiseIf_pos (stored.mpr others)]
    rfl

end Join

/-- **The continuation join matches its lists.** Every sealed call is terminal, in manifest order;
the recovered pairs stand in the order of the calls that need recovery, each bound to its call; every
closure serves one call; and every reduction serves some call, exactly one where no two closures
name the same reduction. The order of the closures and reductions does not show. -/
theorem continuation_join {responseId fingerprint : String} {ordered : List String}
    {frontiers : List CallRecoveryFrontier} {accounting : SealedAccounting}
    (accounted : sealedCallAccounting responseId fingerprint ordered frontiers = .ok accounting)
    (closures : List RecoveredClosure) (reductions : List EvidenceReduction) :
    frontiers = accounting.calls.map .terminal ∧
      accounting.calls.map TerminalCallFrontier.callId = ordered ∧ ordered.Nodup ∧
      (∀ result, modelContinuationReady accounting closures reductions = .ok result →
        result.accounting = accounting ∧
          List.Forall₂ (Recovers closures reductions) accounting.requiredCalls result.recovered ∧
          (result.recovered.map Prod.fst).Perm closures ∧
          (∀ reduction, reduction ∈ result.recovered.map Prod.snd ↔ reduction ∈ reductions) ∧
          ((result.recovered.map Prod.snd).Perm reductions ↔
            (closures.map RecoveredClosure.reductionId).Nodup)) ∧
      ∀ others rest, closures.Perm others → reductions.Perm rest →
        modelContinuationReady accounting closures reductions =
          modelContinuationReady accounting others rest := by
  obtain ⟨terminal, manifest, distinct⟩ := sealedCallAccounting_ok accounted
  have apart : (accounting.calls.map TerminalCallFrontier.callId).Nodup := manifest ▸ distinct
  refine ⟨terminal, manifest, distinct, ?_, ?_⟩
  · intro result ready
    have joined := modelContinuationReady_ok ready
    exact ⟨joined.accounted, joined.recovered, joined.closures_perm apart,
      fun _ => joined.reductions_used, joined.reductions_perm_iff apart⟩
  · intro others rest closuresPerm reductionsPerm
    exact modelContinuationReady_perm accounting closuresPerm reductionsPerm

/-! Two open obligations over one evidence stream. -/

def sampleFingerprint : Digest :=
  ⟨"0000000000000000000000000000000000000000000000000000000000000000", by decide⟩

def headOf (name : Identity) : PresentHead := ⟨name, sampleFingerprint⟩

def outcomeHead : PresentHead := headOf ⟨"outcome", by decide⟩

def witnessHead : PresentHead := headOf ⟨"witness", by decide⟩

def closureHead : PresentHead := headOf ⟨"closure", by decide⟩

def batchHead : PresentHead := headOf ⟨"resolver-batch", by decide⟩

def openRecovery (call : Identity) : RecoveryRequiredResult :=
  { terminal := headOf call
    obligation :=
      { originalRunId := ⟨"run", by decide⟩
        originalCallId := call
        obligationId := call
        obligationStreamId := call
        obligationHead := call
        closurePredicateId := ⟨"closure", by decide⟩
        closurePredicateVersion := ⟨"v1", by decide⟩
        resolverId := ⟨"resolver", by decide⟩
        resolverVersion := ⟨"v1", by decide⟩
        reducerId := ⟨"reducer", by decide⟩
        reducerVersion := ⟨"v1", by decide⟩
        evidenceStreamId := ⟨"evidence-stream", by decide⟩
        evidenceHead := none }
    recoveredOutcome := ⟨call, call, some outcomeHead⟩ }

def recoveryCall (call : Identity) : TerminalCallFrontier :=
  { originalCallId := call
    responseId := ⟨"response", by decide⟩
    acceptance := .consequentialAccepted
      ⟨headOf call, headOf call, headOf call, none, [headOf call, headOf call], le_refl 2⟩
    disposition := .recoveryRequired (openRecovery call) }

def recoveredClosure (call : Identity) : RecoveredClosure :=
  { originalCallId := call.text
    obligationId := call.text
    originalObligationHead := call.text
    terminalDisposition := headOf call
    outcome := outcomeHead
    acceptedEvidence := witnessHead
    closure := closureHead
    resolverBatch := batchHead
    resolverId := "resolver"
    resolverVersion := "v1"
    reducerId := "reducer"
    reducerVersion := "v1"
    reductionId := "reduction"
    acceptedSemanticClass := "confirmed" }

def streamReduction : EvidenceReduction :=
  { streamId := ⟨"evidence-stream", by decide⟩
    reductionId := ⟨"reduction", by decide⟩
    reducerId := ⟨"reducer", by decide⟩
    reducerVersion := ⟨"v1", by decide⟩
    currentReduction := headOf ⟨"reduction0", by decide⟩
    orderedConsumedEvidence := ⟨[witnessHead], List.cons_ne_nil _ _⟩
    acceptedWitness := witnessHead
    acceptedOutcome := outcomeHead
    obligationClosure := closureHead
    resolverBatch := batchHead
    semanticClass := ⟨"confirmed", by decide⟩
    consumability := .consumable }

def firstCall : Identity := ⟨"call-a", by decide⟩

def secondCall : Identity := ⟨"call-b", by decide⟩

def openCalls : List TerminalCallFrontier := [recoveryCall firstCall, recoveryCall secondCall]

def openAccounting : SealedAccounting := ⟨"response", "manifest", openCalls⟩

theorem open_accounted :
    sealedCallAccounting "response" "manifest" ["call-a", "call-b"] (openCalls.map .terminal) =
      .ok openAccounting := by
  rfl

/-- The join of two open calls with closures that name one reduction. -/
theorem open_joined :
    modelContinuationReady openAccounting [recoveredClosure firstCall, recoveredClosure secondCall]
        [streamReduction] =
      .ok ⟨openAccounting, [(recoveredClosure firstCall, streamReduction),
        (recoveredClosure secondCall, streamReduction)]⟩ := by
  rfl

theorem continuation_join_sample :
    sealedCallAccounting "response" "manifest" ["call-a", "call-b"] (openCalls.map .terminal) =
        .ok openAccounting ∧
      modelContinuationReady openAccounting
          [recoveredClosure secondCall, recoveredClosure firstCall] [streamReduction] =
        modelContinuationReady openAccounting
          [recoveredClosure firstCall, recoveredClosure secondCall] [streamReduction] :=
  ⟨open_accounted, (continuation_join open_accounted
    [recoveredClosure secondCall, recoveredClosure firstCall] [streamReduction]).2.2.2.2 _ _
    (.swap _ _ _) (.refl _)⟩

/-- One reduction serves two calls. -/
theorem reduction_serves_twice :
    ∃ accounting closures reductions result,
      sealedCallAccounting "response" "manifest" ["call-a", "call-b"] (openCalls.map .terminal) =
          .ok accounting ∧
        modelContinuationReady accounting closures reductions = .ok result ∧
        ¬ (result.recovered.map Prod.snd).Perm reductions :=
  ⟨openAccounting, _, _, _, open_accounted, open_joined,
    fun once => absurd once.length_eq (by decide)⟩

end Chiplog.AgentLoop
