import Chiplog.Data.Sha256
import Chiplog.Platform.IngressDomain

namespace Chiplog.Platform.Ingress

variable {entry : TokenEntry}

open Chiplog.Data

/-! Custody of receipt tokens over whole runs.

Every operation either answers a replay, appends one fresh token while the epoch is open,
advances one entry in place or moves the epoch on.  `effect` says so once; the invariant
and the order on snapshots follow from it. -/

/-- One call on a snapshot. -/
inductive CustodyStep where
  | allocateToken (token : ReceiptToken) (mode : AcquisitionMode) (retentionProof : Option Head)
  | stageRaw (tokenId : String) (raw : Bytes)
  | publishCustody (tokenId : String) (custody : CustodyState)
  | quiesce
  | beginDrain
deriving DecidableEq

def CustodyStep.apply [Hashlib] (snapshot : CustodySnapshot) :
    CustodyStep → Except IngressError CustodySnapshot
  | .allocateToken token mode retentionProof =>
      Ingress.allocateToken snapshot token mode retentionProof
  | .stageRaw tokenId raw => Ingress.stageRaw snapshot tokenId raw
  | .publishCustody tokenId custody => Ingress.publishCustody snapshot tokenId custody
  | .quiesce => Ingress.quiesce snapshot
  | .beginDrain => Ingress.beginDrain snapshot

/-- The snapshot after a run of steps, all of them successful. -/
def runCustody [Hashlib] (snapshot : CustodySnapshot) (steps : List CustodyStep) :
    Except IngressError CustodySnapshot :=
  steps.foldlM CustodyStep.apply snapshot

/-- What may become of one entry: bytes and custody are written once, and the state head
stays from then on. -/
structure TokenEntry.Advances (before after : TokenEntry) : Prop where
  token : after.token = before.token
  mode : after.mode = before.mode
  retentionProof : after.retentionProof = before.retentionProof
  stagedBytes : before.stagedBytes ≠ none → after.stagedBytes = before.stagedBytes
  stagedDigest : before.stagedDigest ≠ none → after.stagedDigest = before.stagedDigest
  custody : before.custody ≠ none →
    after.custody = before.custody ∧ after.stateHead = before.stateHead

theorem TokenEntry.Advances.refl (entry : TokenEntry) : entry.Advances entry :=
  ⟨rfl, rfl, rfl, fun _ => rfl, fun _ => rfl, fun _ => ⟨rfl, rfl⟩⟩

theorem TokenEntry.Advances.trans {first second third : TokenEntry}
    (before : first.Advances second) (after : second.Advances third) : first.Advances third where
  token := after.token.trans before.token
  mode := after.mode.trans before.mode
  retentionProof := after.retentionProof.trans before.retentionProof
  stagedBytes := by
    intro staged
    have kept := before.stagedBytes staged
    exact (after.stagedBytes (kept ▸ staged)).trans kept
  stagedDigest := by
    intro staged
    have kept := before.stagedDigest staged
    exact (after.stagedDigest (kept ▸ staged)).trans kept
  custody := by
    intro published
    obtain ⟨custody, head⟩ := before.custody published
    obtain ⟨custodyAfter, headAfter⟩ := after.custody (custody ▸ published)
    exact ⟨custodyAfter.trans custody, headAfter.trans head⟩

/-- The order in which an epoch passes its states. -/
def AdmissionState.rank : AdmissionState → Nat
  | .opened => 0
  | .quiescing => 1
  | .draining => 2
  | .closed => 3

/-- `after` is a later snapshot of the same epoch: entries keep their places and only
advance, and none is added once the epoch has left OPEN. -/
structure CustodySnapshot.Later (before after : CustodySnapshot) : Prop where
  epoch : (after.epochId, after.epochHead, after.fence) =
    (before.epochId, before.epochHead, before.fence)
  entries : ∀ (index : Nat) (entry : TokenEntry), before.entries[index]? = some entry →
    ∃ kept, after.entries[index]? = some kept ∧ entry.Advances kept
  settled : before.state ≠ .opened → after.entries.length = before.entries.length
  state : before.state.rank ≤ after.state.rank

/-- One step moves the epoch at most one state on, and never to CLOSED. -/
def AdmissionState.Moves (before after : AdmissionState) : Prop :=
  after = before ∨ before = .opened ∧ after = .quiescing ∨
    before = .quiescing ∧ after = .draining

/-- Custody names the entry's state head, and a locally held one the staged bytes. -/
structure TokenEntry.Sound [Hashlib] (entry : TokenEntry) : Prop where
  staged : entry.stagedDigest = entry.stagedBytes.map sha256
  bound : ∀ custody ∈ entry.custody, custody.token = entry.stateHead
  localBytes : ∀ custody ∈ entry.custody, ∀ raw ∈ custody.rawBytes?,
    entry.stagedBytes = some raw

structure CustodySnapshot.Sound [Hashlib] (snapshot : CustodySnapshot) : Prop where
  tokensDistinct : (snapshot.entries.map (·.token.tokenId)).Nodup
  slotsDistinct : (snapshot.entries.map (·.token.receiveSlot)).Nodup
  entries : ∀ entry ∈ snapshot.entries, entry.Sound
  drained : snapshot.state = .draining → ∀ entry ∈ snapshot.entries, entry.custody ≠ none
  unclosed : snapshot.state ≠ .closed

/-- A step whose effect is already in the snapshot. -/
def CustodyStep.Done (snapshot : CustodySnapshot) : CustodyStep → Prop
  | .allocateToken token mode retentionProof =>
      ((mode = .retainedSource) = (retentionProof ≠ none)) ∧
        ∃ (index : Nat) (entry : TokenEntry), snapshot.entries[index]? = some entry ∧
          entry.token = token ∧ entry.mode = mode ∧ entry.retentionProof = retentionProof
  | .stageRaw tokenId raw =>
      ∃ (index : Nat) (entry : TokenEntry), snapshot.entries[index]? = some entry ∧
        entry.token.tokenId.text = tokenId ∧ raw.length ≤ entry.token.maximumBytes.val ∧
        entry.stagedBytes = some raw
  | .publishCustody tokenId custody =>
      ∃ (index : Nat) (entry : TokenEntry), snapshot.entries[index]? = some entry ∧
        entry.token.tokenId.text = tokenId ∧ entry.custody = some custody
  | .quiesce => snapshot.state ≠ .opened
  | .beginDrain => snapshot.state = .draining

/-! ### The entry of a token -/

theorem entryAt_ok {snapshot : CustodySnapshot} {tokenId : String} {index : Nat}
    (found : entryAt snapshot tokenId = .ok (index, entry)) :
    snapshot.entries[index]? = some entry ∧ entry.token.tokenId.text = tokenId := by
  unfold entryAt at found
  split at found
  · rename_i only selected
    cases found
    have member : (index, entry) ∈ (snapshot.entries.zipIdx.map Prod.swap).filter
        (fun indexed => indexed.2.token.tokenId.text = tokenId) := by
      rw [selected]
      exact List.mem_singleton.mpr rfl
    simpa [List.mk_mem_zipIdx_iff_getElem?, and_comm] using member
  · cases found

theorem entryAt_of_distinct {snapshot : CustodySnapshot} {index : Nat}
    (distinct : (snapshot.entries.map (·.token.tokenId)).Nodup)
    (present : snapshot.entries[index]? = some entry) :
    entryAt snapshot entry.token.tokenId.text = .ok (index, entry) := by
  have selected : (snapshot.entries.zipIdx.map Prod.swap).filter
      (fun indexed => indexed.2.token.tokenId.text = entry.token.tokenId.text) =
      [(index, entry)] := by
    have indices : (snapshot.entries.zipIdx.map Prod.swap).Nodup := by
      apply List.Nodup.of_map Prod.fst
      simp [Function.comp_def, List.zipIdx_map_snd, List.nodup_range']
    apply List.perm_singleton.mp
    apply (List.perm_ext_iff_of_nodup (indices.filter _) (List.nodup_singleton _)).mpr
    intro indexed
    simp only [List.mem_filter, List.mem_map, List.mem_singleton, decide_eq_true_eq]
    constructor
    · rintro ⟨⟨⟨other, otherIndex⟩, member, rfl⟩, sameId⟩
      have otherPresent := List.mk_mem_zipIdx_iff_getElem?.mp member
      have same : otherIndex = index := by
        have inside := (List.getElem?_eq_some_iff.mp otherPresent).1
        apply (List.getElem?_inj (by simpa using inside) distinct).mp
        simpa [otherPresent, present, Identity.ext_iff_text] using sameId
      subst same
      rw [otherPresent] at present
      cases present
      rfl
    · intro same
      cases same
      exact ⟨⟨(entry, index), List.mk_mem_zipIdx_iff_getElem?.mpr present, rfl⟩, rfl⟩
  simp only [entryAt, selected]

theorem filter_tokenId {entries : List TokenEntry}
    (distinct : (entries.map (·.token.tokenId)).Nodup) (member : entry ∈ entries) :
    entries.filter (fun other => other.token.tokenId = entry.token.tokenId) = [entry] := by
  apply List.perm_singleton.mp
  apply (List.perm_ext_iff_of_nodup (distinct.of_map.filter _) (List.nodup_singleton _)).mpr
  intro other
  simp only [List.mem_filter, List.mem_singleton, decide_eq_true_eq]
  constructor
  · intro found
    exact List.inj_on_of_nodup_map distinct found.1 member found.2
  · intro same
    exact ⟨same ▸ member, by rw [same]⟩

theorem replaceEntry_eq {snapshot : CustodySnapshot} {index : Nat} {entry next : TokenEntry}
    (present : snapshot.entries[index]? = some entry) :
    replaceEntry snapshot index next =
      { snapshot with entries := snapshot.entries.set index next } := by
  have inside := (List.getElem?_eq_some_iff.mp present).1
  rw [replaceEntry, List.set_eq_take_append_cons_drop, if_pos inside]

theorem custodyBinding_local {custody : CustodyState}
    (bound : custodyBinding entry custody = .ok ()) :
    ∀ raw ∈ custody.rawBytes?, entry.stagedBytes = some raw := by
  have localBound : ∀ {rawBytes rawDigest authentication},
      localBinding entry rawBytes rawDigest authentication = .ok () →
        entry.stagedBytes = some rawBytes := by
    intro rawBytes rawDigest authentication bound
    obtain ⟨_, -, bound⟩ := bind_ok.mp bound
    exact not_not.mp (fun other => raiseIf_ok.mp bound (.inl other))
  intro raw held
  cases custody with
  | admittedDurable value =>
      cases held
      exact localBound bound
  | quarantinedRawEvidence value =>
      cases held
      exact localBound bound
  | retryWithSourceCustody token proof => cases held
  | terminalReject token reason => cases held
  | lossObligation token slot cut => cases held

/-! ### What one step can do -/

/-- Everything a successful step can make of a snapshot. -/
inductive CustodySnapshot.Effect [Hashlib] (before after : CustodySnapshot) : Prop
  | unchanged (same : after = before)
  | allocated (candidate : TokenEntry) (opened : before.state = .opened) (sound : candidate.Sound)
      (freshToken : ∀ entry ∈ before.entries, entry.token.tokenId ≠ candidate.token.tokenId)
      (freshSlot : ∀ entry ∈ before.entries,
        entry.token.receiveSlot ≠ candidate.token.receiveSlot)
      (appended : after = { before with entries := before.entries ++ [candidate] })
  | advanced (index : Nat) (entry next : TokenEntry) (present : before.entries[index]? = some entry)
      (sound : entry.Sound → entry.Advances next ∧ next.Sound)
      (replaced : after = { before with entries := before.entries.set index next })
  | moved (state : AdmissionState) (moves : before.state.Moves state)
      (drained : state = .draining → ∀ entry ∈ before.entries, entry.custody ≠ none)
      (changed : after = { before with state := state })

section

variable [Hashlib] {before after snapshot : CustodySnapshot} {step : CustodyStep}

theorem allocateToken_effect {token : ReceiptToken} {mode : AcquisitionMode}
    {retentionProof : Option Head}
    (allocated : allocateToken before token mode retentionProof = .ok after) :
    before.Effect after := by
  unfold allocateToken at allocated
  obtain ⟨-, -, allocated⟩ := bind_ok.mp allocated
  split at allocated
  · split at allocated
    · exact .unchanged (pure_ok.mp allocated).symm
    · cases allocated
  · rename_i absent
    obtain ⟨_, opened, allocated⟩ := bind_ok.mp allocated
    obtain ⟨-, -, allocated⟩ := bind_ok.mp allocated
    obtain ⟨_, slots, allocated⟩ := bind_ok.mp allocated
    have freshToken := List.filter_eq_nil_iff.mp absent
    have freshSlot := raiseIf_ok.mp slots
    refine .allocated _ (not_not.mp (raiseIf_ok.mp opened)) ⟨rfl, ?_, ?_⟩ ?_ ?_
      (pure_ok.mp allocated).symm
    · intro custody impossible
      cases impossible
    · intro custody impossible
      cases impossible
    · intro entry member
      simpa using freshToken entry member
    · intro entry member same
      exact freshSlot ⟨entry, member, same⟩

theorem stageRaw_effect {tokenId : String} {raw : Bytes}
    (staged : stageRaw before tokenId raw = .ok after) : before.Effect after := by
  unfold stageRaw at staged
  obtain ⟨⟨index, entry⟩, found, staged⟩ := bind_ok.mp staged
  obtain ⟨-, -, staged⟩ := bind_ok.mp staged
  have present := (entryAt_ok found).1
  split at staged
  · split at staged
    · exact .unchanged (pure_ok.mp staged).symm
    · cases staged
  · rename_i unstaged
    obtain ⟨_, free, staged⟩ := bind_ok.mp staged
    have uncustodied : entry.custody = none := by
      have neither := raiseIf_ok.mp free
      exact not_not.mp (fun held => neither (.inl held))
    have replaced := (pure_ok.mp staged).symm
    rw [replaceEntry_eq present] at replaced
    refine .advanced index entry _ present ?_ replaced
    intro sound
    have undigested : entry.stagedDigest = none := by
      rw [sound.staged, unstaged]
      rfl
    constructor
    · exact ⟨rfl, rfl, rfl, fun set => absurd unstaged set, fun set => absurd undigested set,
        fun set => absurd uncustodied set⟩
    · refine ⟨rfl, ?_, ?_⟩
      · intro custody held
        simp [uncustodied] at held
      · intro custody held
        simp [uncustodied] at held

theorem publishCustody_effect {tokenId : String} {custody : CustodyState}
    (published : publishCustody before tokenId custody = .ok after) : before.Effect after := by
  unfold publishCustody at published
  obtain ⟨⟨index, entry⟩, found, published⟩ := bind_ok.mp published
  obtain ⟨_, named, published⟩ := bind_ok.mp published
  have present := (entryAt_ok found).1
  split at published
  · split at published
    · exact .unchanged (pure_ok.mp published).symm
    · cases published
  · rename_i uncustodied
    obtain ⟨_, bound, published⟩ := bind_ok.mp published
    have replaced := (pure_ok.mp published).symm
    rw [replaceEntry_eq present] at replaced
    refine .advanced index entry _ present ?_ replaced
    intro sound
    constructor
    · exact ⟨rfl, rfl, rfl, fun _ => rfl, fun _ => rfl, fun set => absurd uncustodied set⟩
    · refine ⟨sound.staged, ?_, ?_⟩
      · intro other held
        cases held
        exact not_not.mp (raiseIf_ok.mp named)
      · intro other held
        cases held
        exact custodyBinding_local bound

theorem quiesce_effect (quiesced : quiesce before = .ok after) : before.Effect after := by
  unfold quiesce at quiesced
  split at quiesced
  · rename_i opened
    cases quiesced
    exact .moved .quiescing (.inr (.inl ⟨opened, rfl⟩)) nofun rfl
  · cases quiesced
    exact .unchanged rfl
  · cases quiesced

theorem beginDrain_effect (drained : beginDrain before = .ok after) : before.Effect after := by
  obtain ⟨_, fenced, drained⟩ := bind_ok.mp drained
  obtain ⟨_, complete, drained⟩ := bind_ok.mp drained
  have changed := (pure_ok.mp drained).symm
  refine .moved .draining ?_ ?_ changed
  · cases not_not.mp (raiseIf_ok.mp fenced) with
    | inl quiescing => exact .inr (.inr ⟨quiescing, rfl⟩)
    | inr draining => exact .inl draining.symm
  · intro _ entry member missing
    exact raiseIf_ok.mp complete ⟨entry, member, missing⟩

theorem CustodyStep.effect (applied : step.apply before = .ok after) : before.Effect after := by
  cases step with
  | allocateToken token mode retentionProof => exact allocateToken_effect applied
  | stageRaw tokenId raw => exact stageRaw_effect applied
  | publishCustody tokenId custody => exact publishCustody_effect applied
  | quiesce => exact quiesce_effect applied
  | beginDrain => exact beginDrain_effect applied

end

/-! ### Order and invariant over runs -/

theorem CustodySnapshot.Later.refl (snapshot : CustodySnapshot) : snapshot.Later snapshot :=
  ⟨rfl, fun _ entry present => ⟨entry, present, .refl entry⟩, fun _ => rfl, Nat.le_refl _⟩

theorem CustodySnapshot.Later.trans {first second third : CustodySnapshot}
    (before : first.Later second) (after : second.Later third) : first.Later third where
  epoch := after.epoch.trans before.epoch
  entries := by
    intro index entry present
    obtain ⟨kept, keptPresent, advances⟩ := before.entries index entry present
    obtain ⟨final, finalPresent, further⟩ := after.entries index kept keptPresent
    exact ⟨final, finalPresent, advances.trans further⟩
  settled := by
    intro left
    have stillLeft : second.state ≠ .opened := by
      intro opened
      have ranked := before.state
      rw [opened] at ranked
      apply left
      cases state : first.state <;> simp_all [AdmissionState.rank]
    exact (after.settled stillLeft).trans (before.settled left)
  state := Nat.le_trans before.state after.state

theorem AdmissionState.Moves.rank_le {before after : AdmissionState} (moves : before.Moves after) :
    before.rank ≤ after.rank := by
  obtain rfl | ⟨rfl, rfl⟩ | ⟨rfl, rfl⟩ := moves
  · exact Nat.le_refl _
  · simp [AdmissionState.rank]
  · simp [AdmissionState.rank]

theorem CustodyStep.Done.later {before after : CustodySnapshot} {step : CustodyStep}
    (done : step.Done before) (later : before.Later after)
    (unclosed : after.state ≠ .closed) : step.Done after := by
  cases step with
  | allocateToken token mode retentionProof =>
      obtain ⟨proven, index, entry, present, sameToken, sameMode, sameProof⟩ := done
      obtain ⟨kept, keptPresent, advances⟩ := later.entries index entry present
      exact ⟨proven, index, kept, keptPresent, advances.token.trans sameToken,
        advances.mode.trans sameMode, advances.retentionProof.trans sameProof⟩
  | stageRaw tokenId raw =>
      obtain ⟨index, entry, present, named, fits, staged⟩ := done
      obtain ⟨kept, keptPresent, advances⟩ := later.entries index entry present
      have stillStaged := advances.stagedBytes (by simp [staged])
      exact ⟨index, kept, keptPresent, by rw [advances.token, named], by rwa [advances.token],
        stillStaged.trans staged⟩
  | publishCustody tokenId custody =>
      obtain ⟨index, entry, present, named, held⟩ := done
      obtain ⟨kept, keptPresent, advances⟩ := later.entries index entry present
      have stillHeld := (advances.custody (by simp [held])).1
      exact ⟨index, kept, keptPresent, by rw [advances.token, named], stillHeld.trans held⟩
  | quiesce =>
      intro opened
      have ranked := later.state
      rw [opened] at ranked
      apply done
      cases state : before.state <;> simp_all [AdmissionState.rank]
  | beginDrain =>
      have ranked := later.state
      rw [show before.state = .draining from done] at ranked
      cases state : after.state <;> simp_all [AdmissionState.rank, CustodyStep.Done]

/-- A field of the token does not see an entry advance in place. -/
theorem map_token_set {β : Type} {entries : List TokenEntry} {index : Nat}
    {entry next : TokenEntry} (field : ReceiptToken → β) (present : entries[index]? = some entry)
    (kept : next.token = entry.token) :
    (entries.set index next).map (fun entry => field entry.token) =
      entries.map (fun entry => field entry.token) := by
  obtain ⟨inside, rfl⟩ := List.getElem?_eq_some_iff.mp present
  apply List.ext_getElem?
  intro other
  by_cases same : index = other
  · subst same
    simp [inside, kept]
  · simp [List.getElem?_set_ne same]

section

variable [Hashlib] {before after snapshot : CustodySnapshot} {step : CustodyStep}
  {steps : List CustodyStep}

theorem CustodySnapshot.Effect.moves (effect : before.Effect after) :
    before.state.Moves after.state := by
  cases effect with
  | unchanged same => exact .inl (by rw [same])
  | allocated candidate opened sound freshToken freshSlot appended => exact .inl (by rw [appended])
  | advanced index entry next present sound replaced => exact .inl (by rw [replaced])
  | moved state moves drained changed => rw [changed]; exact moves

theorem CustodySnapshot.Effect.later (effect : before.Effect after) (sound : before.Sound) :
    before.Later after := by
  cases effect with
  | unchanged same => rw [same]; exact .refl before
  | allocated candidate opened _ _ _ appended =>
      subst appended
      refine ⟨rfl, ?_, fun left => absurd opened left, Nat.le_refl _⟩
      intro index entry present
      have inside := (List.getElem?_eq_some_iff.mp present).1
      exact ⟨entry, by rw [List.getElem?_append_left inside, present], .refl entry⟩
  | advanced index entry next present advances replaced =>
      subst replaced
      refine ⟨rfl, ?_, fun _ => List.length_set, Nat.le_refl _⟩
      intro other kept keptPresent
      by_cases same : index = other
      · subst same
        rw [present] at keptPresent
        cases keptPresent
        have inside := (List.getElem?_eq_some_iff.mp present).1
        have entrySound := sound.entries entry (List.mem_of_getElem? present)
        exact ⟨next, List.getElem?_set_self inside, (advances entrySound).1⟩
      · exact ⟨kept, by rw [List.getElem?_set_ne same, keptPresent], .refl kept⟩
  | moved state moves drained changed =>
      subst changed
      exact ⟨rfl, fun _ entry present => ⟨entry, present, .refl entry⟩, fun _ => rfl, moves.rank_le⟩

theorem CustodySnapshot.Effect.sound (effect : before.Effect after) (sound : before.Sound) :
    after.Sound := by
  cases effect with
  | unchanged same => rw [same]; exact sound
  | allocated candidate opened candidateSound freshToken freshSlot appended =>
      subst appended
      refine ⟨?_, ?_, ?_, ?_, sound.unclosed⟩
      · simp only [List.map_append, List.map_cons, List.map_nil]
        apply List.nodup_append'.mpr
        refine ⟨sound.tokensDistinct, List.nodup_singleton _, ?_⟩
        simpa [List.disjoint_singleton] using freshToken
      · simp only [List.map_append, List.map_cons, List.map_nil]
        apply List.nodup_append'.mpr
        refine ⟨sound.slotsDistinct, List.nodup_singleton _, ?_⟩
        simpa [List.disjoint_singleton] using freshSlot
      · intro entry member
        cases List.mem_append.mp member with
        | inl old => exact sound.entries entry old
        | inr new => rw [List.mem_singleton.mp new]; exact candidateSound
      · intro draining
        rw [opened] at draining
        cases draining
  | advanced index entry next present advances replaced =>
      subst replaced
      have entrySound := sound.entries entry (List.mem_of_getElem? present)
      obtain ⟨advances, nextSound⟩ := advances entrySound
      refine ⟨?_, ?_, ?_, ?_, sound.unclosed⟩
      · rw [map_token_set _ present advances.token]
        exact sound.tokensDistinct
      · rw [map_token_set _ present advances.token]
        exact sound.slotsDistinct
      · intro other member
        cases List.mem_or_eq_of_mem_set member with
        | inl old => exact sound.entries other old
        | inr new => rw [new]; exact nextSound
      · intro draining other member
        cases List.mem_or_eq_of_mem_set member with
        | inl old => exact sound.drained draining other old
        | inr new =>
            have held := sound.drained draining entry (List.mem_of_getElem? present)
            rw [new, (advances.custody held).1]
            exact held
  | moved state moves drained changed =>
      subst changed
      refine ⟨sound.tokensDistinct, sound.slotsDistinct, sound.entries, drained, ?_⟩
      intro closed
      obtain rfl | ⟨-, rfl⟩ | ⟨-, rfl⟩ := moves
      · exact sound.unclosed closed
      · cases closed
      · cases closed

/-! ### Runs -/

theorem sound_of_empty (opened : snapshot.state = .opened) (empty : snapshot.entries = []) :
    snapshot.Sound := by
  refine ⟨by simp [empty], by simp [empty], by simp [empty], by simp [empty], ?_⟩
  rw [opened]
  nofun

theorem runCustody_sound (ran : runCustody before steps = .ok after) (sound : before.Sound) :
    before.Later after ∧ after.Sound := by
  apply foldlM_invariant (fun _ later => before.Later later ∧ later.Sound)
    ⟨.refl before, sound⟩ _ ran
  intro _ step current next held applied
  have effect := CustodyStep.effect applied
  exact ⟨held.1.trans (effect.later held.2), effect.sound held.2⟩

/-! ### Repeated steps -/

theorem CustodyStep.done_of_apply (applied : step.apply before = .ok after) :
    step.Done after := by
  cases step with
  | allocateToken token mode retentionProof =>
      obtain ⟨_, proven, allocated⟩ := bind_ok.mp applied
      refine ⟨not_not.mp (raiseIf_ok.mp proven), ?_⟩
      split at allocated
      · rename_i first rest matched
        split at allocated
        · rename_i observed
          cases pure_ok.mp allocated
          have member : first ∈ before.entries := by
            apply List.mem_of_mem_filter
            rw [matched]
            exact List.mem_cons_self
          obtain ⟨index, present⟩ := List.getElem?_of_mem member
          simp only [Prod.mk.injEq] at observed
          exact ⟨index, first, present, observed.2⟩
        · cases allocated
      · obtain ⟨_, -, allocated⟩ := bind_ok.mp allocated
        obtain ⟨_, -, allocated⟩ := bind_ok.mp allocated
        obtain ⟨_, -, allocated⟩ := bind_ok.mp allocated
        cases pure_ok.mp allocated
        exact ⟨before.entries.length, _, List.getElem?_concat_length, rfl, rfl, rfl⟩
  | stageRaw tokenId raw =>
      obtain ⟨⟨index, entry⟩, found, staged⟩ := bind_ok.mp applied
      obtain ⟨_, bounded, staged⟩ := bind_ok.mp staged
      obtain ⟨present, named⟩ := entryAt_ok found
      have fits := Nat.le_of_not_lt (raiseIf_ok.mp bounded)
      split at staged
      · rename_i bytes stagedBytes
        split at staged
        · rename_i same
          cases pure_ok.mp staged
          exact ⟨index, entry, present, named, fits, by rw [stagedBytes, same.1]⟩
        · cases staged
      · obtain ⟨_, -, staged⟩ := bind_ok.mp staged
        cases pure_ok.mp staged
        have inside := (List.getElem?_eq_some_iff.mp present).1
        rw [replaceEntry_eq present]
        exact ⟨index, _, List.getElem?_set_self inside, named, fits, rfl⟩
  | publishCustody tokenId custody =>
      obtain ⟨⟨index, entry⟩, found, published⟩ := bind_ok.mp applied
      obtain ⟨_, -, published⟩ := bind_ok.mp published
      obtain ⟨present, named⟩ := entryAt_ok found
      split at published
      · rename_i current held
        split at published
        · rename_i same
          cases pure_ok.mp published
          exact ⟨index, entry, present, named, by rw [held, same]⟩
        · cases published
      · obtain ⟨_, -, published⟩ := bind_ok.mp published
        cases pure_ok.mp published
        have inside := (List.getElem?_eq_some_iff.mp present).1
        rw [replaceEntry_eq present]
        exact ⟨index, _, List.getElem?_set_self inside, named, rfl⟩
  | quiesce =>
      intro opened
      simp only [CustodyStep.apply, Ingress.quiesce] at applied
      split at applied <;> cases applied <;> simp_all
  | beginDrain =>
      obtain ⟨_, -, drained⟩ := bind_ok.mp applied
      obtain ⟨_, -, drained⟩ := bind_ok.mp drained
      cases pure_ok.mp drained
      rfl

theorem CustodyStep.Done.repeated (done : step.Done snapshot) (sound : snapshot.Sound) :
    step.apply snapshot = .ok snapshot ∨ step = .quiesce ∧ snapshot.state = .draining := by
  cases step with
  | allocateToken token mode retentionProof =>
      left
      obtain ⟨proven, index, entry, present, rfl, rfl, rfl⟩ := done
      have matched := filter_tokenId sound.tokensDistinct (List.mem_of_getElem? present)
      apply bind_ok.mpr
      refine ⟨(), raiseIf_ok.mpr (not_not.mpr proven), ?_⟩
      simp only [matched, true_and, if_true]
      rfl
  | stageRaw tokenId raw =>
      left
      obtain ⟨index, entry, present, rfl, fits, staged⟩ := done
      have found := entryAt_of_distinct sound.tokensDistinct present
      have digested := (sound.entries entry (List.mem_of_getElem? present)).staged
      apply bind_ok.mpr
      refine ⟨(index, entry), found, bind_ok.mpr ⟨(), raiseIf_ok.mpr (Nat.not_lt.mpr fits), ?_⟩⟩
      simp only [staged, digested, Option.map_some, and_self, if_true]
      rfl
  | publishCustody tokenId custody =>
      left
      obtain ⟨index, entry, present, rfl, held⟩ := done
      have found := entryAt_of_distinct sound.tokensDistinct present
      have bound := (sound.entries entry (List.mem_of_getElem? present)).bound custody held
      apply bind_ok.mpr
      refine ⟨(index, entry), found, bind_ok.mpr ⟨(), raiseIf_ok.mpr (not_not.mpr bound), ?_⟩⟩
      simp only [held, if_true]
      rfl
  | quiesce =>
      cases state : snapshot.state with
      | opened => exact absurd state done
      | quiescing => exact .inl (by simp only [CustodyStep.apply, Ingress.quiesce, state])
      | draining => exact .inr ⟨rfl, rfl⟩
      | closed => exact absurd state sound.unclosed
  | beginDrain =>
      left
      have draining : snapshot.state = .draining := done
      have complete : ¬∃ entry ∈ snapshot.entries, entry.custody = none := by
        rintro ⟨entry, member, missing⟩
        exact sound.drained draining entry member missing
      apply bind_ok.mpr
      refine ⟨(), raiseIf_ok.mpr (not_not.mpr (.inr draining)), bind_ok.mpr
        ⟨(), raiseIf_ok.mpr complete, ?_⟩⟩
      rw [← draining]
      rfl

/-- Custody of receipt tokens over every run from an open, empty epoch: every reached
snapshot is sound, every snapshot reached after it is a later one, and a step that
succeeded there leaves the snapshot alone when it is made again. -/
theorem ingress_custody_kept {start : CustodySnapshot} (opened : start.state = .opened)
    (empty : start.entries = []) (ran : runCustody start steps = .ok snapshot) :
    snapshot.Sound ∧
      (∀ more later, runCustody snapshot more = .ok later → snapshot.Later later) ∧
      (∀ step after, CustodyStep.apply snapshot step = .ok after →
        snapshot.state.Moves after.state ∧ step.apply after = .ok after ∧
          ∀ more later, runCustody after more = .ok later →
            step.apply later = .ok later ∨ step = .quiesce ∧ later.state = .draining) := by
  have sound := (runCustody_sound ran (sound_of_empty opened empty)).2
  refine ⟨sound, fun more later further => (runCustody_sound further sound).1, ?_⟩
  intro step after applied
  have effect := CustodyStep.effect applied
  have done := CustodyStep.done_of_apply applied
  have afterSound := effect.sound sound
  refine ⟨effect.moves, ?_, ?_⟩
  · cases done.repeated afterSound with
    | inl unchanged => exact unchanged
    | inr drained =>
        -- a successful quiesce never answers with a draining epoch
        obtain ⟨rfl, draining⟩ := drained
        simp only [CustodyStep.apply, quiesce] at applied
        split at applied <;> cases applied <;> simp_all
  · intro more later further
    obtain ⟨order, laterSound⟩ := runCustody_sound further afterSound
    exact (done.later order laterSound.unclosed).repeated laterSound

def sampleEpoch : CustodySnapshot := ⟨"epoch", "epoch-head", 1, .opened, []⟩

def sampleIngressHead (identity head : Identity) : Head := ⟨identity, head, sha256 []⟩

def sampleToken : ReceiptToken :=
  { tokenId := ⟨"token", written _ trivial⟩
    source :=
      { manifestRow := sampleIngressHead ⟨"row", written _ trivial⟩ ⟨"row-head", written _ trivial⟩
        sourceClass := .cli
        tenantId := ⟨"tenant", written _ trivial⟩
        databaseId := ⟨"database", written _ trivial⟩
        sourceIdentity := ⟨"source", written _ trivial⟩
        endpointAccountBinding := .unknownPreAuth
        brokerEpoch := ⟨"broker", written _ trivial⟩
        brokerSession := ⟨"session", written _ trivial⟩
        admissionEpoch := sampleIngressHead ⟨"epoch", written _ trivial⟩
          ⟨"epoch-head", written _ trivial⟩
        admissionFence := 1
        transportVersion := ⟨"1", written _ trivial⟩ }
    receiveSlot := ⟨"slot", written _ trivial⟩
    maximumBytes := 4
    predecessor := none
    commandFingerprint := sha256 [] }

def sampleEntry : TokenEntry :=
  ⟨sampleToken, .lossSlot, none, allocationHead sampleToken .lossSlot none, none, none, none⟩

def sampleReject : CustodyState :=
  .terminalReject (stageHead sampleEntry (sha256 [7]))
    (sampleIngressHead ⟨"reason", written _ trivial⟩ ⟨"reason-head", written _ trivial⟩)

def sampleCustodySteps : List CustodyStep :=
  [.allocateToken sampleToken .lossSlot none, .stageRaw "token" [7],
    .publishCustody "token" sampleReject, .quiesce, .beginDrain]

def sampleStaged : TokenEntry :=
  { sampleEntry with
    stateHead := stageHead sampleEntry (sha256 [7])
    stagedBytes := some [7]
    stagedDigest := some (sha256 [7]) }

def sampleDrained : CustodySnapshot :=
  { sampleEpoch with
    state := .draining
    entries := [{ sampleStaged with custody := some sampleReject }] }

theorem sample_custody_ran : runCustody sampleEpoch sampleCustodySteps = .ok sampleDrained := by
  have published : publishCustody { sampleEpoch with entries := [sampleStaged] } "token"
      sampleReject = .ok { sampleEpoch with
        entries := [{ sampleStaged with custody := some sampleReject }] } :=
    bind_ok.mpr ⟨(0, sampleStaged), rfl, bind_ok.mpr ⟨(), raiseIf_ok.mpr (not_not.mpr rfl), rfl⟩⟩
  have staged : stageRaw { sampleEpoch with entries := [sampleEntry] } "token" [7] =
      .ok { sampleEpoch with entries := [sampleStaged] } := rfl
  have allocated : allocateToken sampleEpoch sampleToken .lossSlot none =
      .ok { sampleEpoch with entries := [sampleEntry] } := rfl
  exact bind_ok.mpr ⟨_, allocated, bind_ok.mpr ⟨_, staged, bind_ok.mpr ⟨_, published, rfl⟩⟩⟩

end

/-- The sample epoch, drained with its one receipt rejected; staging its bytes again is the same
from the allocation to the drain. -/
theorem ingress_custody_kept_drained :
    letI := Sha256.hashlib
    runCustody sampleEpoch sampleCustodySteps = .ok sampleDrained ∧ sampleDrained.Sound ∧
      CustodyStep.apply sampleDrained .beginDrain = .ok sampleDrained ∧
      { sampleEpoch with entries := [sampleEntry] }.Later sampleDrained ∧
      CustodyStep.apply sampleDrained (.stageRaw "token" [7]) = .ok sampleDrained := by
  let _ := Sha256.hashlib
  have kept := ingress_custody_kept rfl rfl sample_custody_ran
  have allocated : runCustody sampleEpoch (sampleCustodySteps.take 1) =
      .ok { sampleEpoch with entries := [sampleEntry] } := rfl
  obtain ⟨_, later, steps⟩ := ingress_custody_kept rfl rfl allocated
  have staged : CustodyStep.apply { sampleEpoch with entries := [sampleEntry] }
      (.stageRaw "token" [7]) = .ok { sampleEpoch with entries := [sampleStaged] } := rfl
  obtain ⟨rest, repeated⟩ : (runCustody { sampleEpoch with entries := [sampleEntry] }
      (sampleCustodySteps.drop 1) = .ok sampleDrained) ∧
      runCustody { sampleEpoch with entries := [sampleStaged] } (sampleCustodySteps.drop 2) =
        .ok sampleDrained := by
    obtain ⟨_, first, rest⟩ := bind_ok.mp sample_custody_ran
    obtain ⟨_, second, last⟩ := bind_ok.mp rest
    cases first
    cases second
    exact ⟨rest, last⟩
  refine ⟨sample_custody_ran, kept.1, (kept.2.2 .beginDrain sampleDrained rfl).2.1,
    later _ _ rest, ?_⟩
  rcases (steps _ _ staged).2.2 _ _ repeated with same | ⟨impossible, _⟩
  · exact same
  · cases impossible

end Chiplog.Platform.Ingress
