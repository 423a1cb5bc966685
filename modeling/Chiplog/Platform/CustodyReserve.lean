import Chiplog.Platform.CustodyRecords

namespace Chiplog.Platform.Ingress

open Chiplog.Data

/-! The reserve and the claims of retained custody over all orders of steps.

A prepared command allocates a fresh token within the reserve or advances the one entry of its
token; nothing that a record has done is undone.  The allocation fingerprint ties every later
claim to the one that the token was allocated under. -/

section

variable [Hashlib] {command : CustodyCommand} {previous : Option Head}
  {snapshot after : CustodySnapshot} {record : CustodyRecord}

/-! ### What one command does -/

/-- What the one entry of a token becomes. -/
inductive Advanced (command : CustodyCommand) (entry next : TokenEntry) : Prop
  | staged (operation : command.operation = .stageRawBytes) (raw : Bytes)
      (fresh : entry.stagedBytes = none) (kept : next.stagedBytes = some raw)
      (custody : next.custody = entry.custody)
      (size : raw.length = command.retention.byteCount.toNat)
      (digest : sha256 raw = command.retention.rawDigest)
  | retried (operation : command.operation = .publishCustodySuccessor)
      (fresh : entry.custody = none) (kept : next.custody ≠ none)
      (staged : next.stagedBytes = entry.stagedBytes)

inductive Prepared (command : CustodyCommand) (snapshot : CustodySnapshot) :
    CustodySnapshot → Prop
  | allocated (operation : command.operation = .allocateReceiptToken) (candidate : TokenEntry)
      (token : candidate.token = command.token) (unstaged : candidate.stagedBytes = none)
      (fresh : ∀ entry ∈ snapshot.entries, entry.token.tokenId ≠ command.token.tokenId)
      (items : snapshot.entries.length < command.profile.maximumItems.value)
      (bytes : reserved snapshot.entries + command.token.maximumBytes.val ≤
        command.profile.maximumTotalBytes.value) :
      Prepared command snapshot { snapshot with entries := snapshot.entries ++ [candidate] }
  | advanced (index : Nat) (entry next : TokenEntry)
      (present : snapshot.entries[index]? = some entry) (token : entry.token = command.token)
      (same : next.token = entry.token) (advanced : Advanced command entry next) :
      Prepared command snapshot { snapshot with entries := snapshot.entries.set index next }

theorem prepareAllocation_prepared (operation : command.operation = .allocateReceiptToken)
    (prepared : prepareAllocation command snapshot = .ok after) :
    Prepared command snapshot after := by
  obtain ⟨_, _, prepared⟩ := bind_ok.mp prepared
  obtain ⟨_, unnamed, prepared⟩ := bind_ok.mp prepared
  obtain ⟨_, reserve, prepared⟩ := bind_ok.mp prepared
  have fresh : ∀ entry ∈ snapshot.entries, entry.token.tokenId ≠ command.token.tokenId :=
    fun entry member same => raiseIf_ok.mp unnamed ⟨entry, member, same⟩
  have room := not_or.mp (raiseIf_ok.mp reserve)
  have absent : snapshot.entries.filter
      (fun entry => entry.token.tokenId = command.token.tokenId) = [] := by
    apply List.filter_eq_nil_iff.mpr
    intro entry member
    simpa using fresh entry member
  rw [allocateToken] at prepared
  obtain ⟨_, _, prepared⟩ := bind_ok.mp prepared
  dsimp only at prepared
  rw [absent] at prepared
  iterate 3 obtain ⟨_, _, prepared⟩ := bind_ok.mp prepared
  obtain rfl := pure_ok.mp prepared
  exact .allocated operation _ rfl rfl fresh (Nat.not_le.mp room.1) (Nat.not_lt.mp room.2)

omit [Hashlib] in
/-- The one entry of a token is the one that its operations find. -/
theorem entryAt_only {entry found : TokenEntry} {index : Nat}
    (only : snapshot.entries.filter (fun entry => entry.token.tokenId = command.token.tokenId) =
      [entry])
    (located : entryAt snapshot command.token.tokenId.text = .ok (index, found)) :
    snapshot.entries[index]? = some entry ∧ found = entry := by
  obtain ⟨present, named⟩ := entryAt_ok located
  have member : found ∈ snapshot.entries.filter
      (fun entry => entry.token.tokenId = command.token.tokenId) := by
    apply List.mem_filter.mpr
    exact ⟨List.mem_of_getElem? present, decide_eq_true (Identity.ext_iff_text.mpr named)⟩
  rw [only] at member
  obtain rfl := List.mem_singleton.mp member
  exact ⟨present, rfl⟩

theorem prepareStaging_prepared {entry : TokenEntry}
    (operation : command.operation = .stageRawBytes) (token : entry.token = command.token)
    (only : snapshot.entries.filter (fun entry => entry.token.tokenId = command.token.tokenId) =
      [entry])
    (prepared : prepareStaging command snapshot entry = .ok after) :
    Prepared command snapshot after := by
  rw [prepareStaging] at prepared
  split at prepared
  · cases prepared
  rename_i raw _
  obtain ⟨_, exact, prepared⟩ := bind_ok.mp prepared
  obtain ⟨_, unstaged, prepared⟩ := bind_ok.mp prepared
  have fresh := not_not.mp (raiseIf_ok.mp unstaged)
  obtain ⟨size, digest⟩ := not_or.mp (raiseIf_ok.mp exact)
  rw [stageRaw] at prepared
  obtain ⟨⟨index, found⟩, located, staged⟩ := bind_ok.mp prepared
  obtain ⟨present, rfl⟩ := entryAt_only only located
  obtain ⟨_, _, staged⟩ := bind_ok.mp staged
  rw [fresh] at staged
  obtain ⟨_, _, staged⟩ := bind_ok.mp staged
  obtain rfl := pure_ok.mp staged
  rw [replaceEntry_eq present]
  exact .advanced index found _ present token rfl
    (.staged operation raw fresh rfl rfl (not_not.mp size) (not_not.mp digest))

theorem prepareRetry_prepared {entry : TokenEntry}
    (operation : command.operation = .publishCustodySuccessor)
    (token : entry.token = command.token)
    (only : snapshot.entries.filter (fun entry => entry.token.tokenId = command.token.tokenId) =
      [entry])
    (prepared : prepareRetry command snapshot entry = .ok after) :
    Prepared command snapshot after := by
  obtain ⟨_, unretried, prepared⟩ := bind_ok.mp prepared
  have fresh := not_not.mp (not_or.mp (raiseIf_ok.mp unretried)).2
  rw [publishCustody] at prepared
  obtain ⟨⟨index, found⟩, located, retried⟩ := bind_ok.mp prepared
  obtain ⟨present, rfl⟩ := entryAt_only only located
  obtain ⟨_, _, retried⟩ := bind_ok.mp retried
  rw [fresh] at retried
  obtain ⟨_, _, retried⟩ := bind_ok.mp retried
  obtain rfl := pure_ok.mp retried
  rw [replaceEntry_eq present]
  exact .advanced index found _ present token rfl
    (.retried operation fresh (Option.some_ne_none _) rfl)

theorem prepareSuccessor_prepared (operation : command.operation ≠ .allocateReceiptToken)
    (prepared : prepareSuccessor command snapshot = .ok after) :
    Prepared command snapshot after := by
  rw [prepareSuccessor] at prepared
  split at prepared
  · rename_i entry only
    obtain ⟨_, exact, prepared⟩ := bind_ok.mp prepared
    have token := not_not.mp (not_or.mp (raiseIf_ok.mp exact)).1
    split at prepared
    · rename_i stages
      exact prepareStaging_prepared stages token only prepared
    · rename_i other
      have retries : command.operation = .publishCustodySuccessor := by
        cases known : command.operation with
        | allocateReceiptToken => exact absurd known operation
        | stageRawBytes => exact absurd known other
        | publishCustodySuccessor => rfl
      exact prepareRetry_prepared retries token only prepared
  · cases prepared

theorem prepareCustody_ok
    (prepared : prepareCustody command previous snapshot = .ok (record, after)) :
    record.command = command ∧ Registered command snapshot ∧ Prepared command snapshot after := by
  obtain ⟨_, _, prepared⟩ := bind_ok.mp prepared
  obtain ⟨_, registered, prepared⟩ := bind_ok.mp prepared
  obtain ⟨result, done, prepared⟩ := bind_ok.mp prepared
  split at prepared
  · cases prepared
  · obtain ⟨entry, _, prepared⟩ := bind_ok.mp prepared
    cases prepared
    rw [prepareOperation] at done
    refine ⟨rfl, not_not.mp (raiseIf_ok.mp registered), ?_⟩
    split at done
    · rename_i allocates
      exact prepareAllocation_prepared allocates done
    · rename_i other
      exact prepareSuccessor_prepared other done

end

/-! ### What the fingerprints give away -/

instance : Json.Legible SourceClass where
  read := by
    intro first second same
    cases first <;> cases second <;> first | rfl | exact absurd (Json.str.inj same) (by decide)

instance : Json.Legible Positive where
  read := by
    intro first second same
    cases first
    cases second
    rw [Positive.mk.injEq]
    exact Int.ofNat_inj.mp (Json.int.inj same)

instance : Json.Legible CustodyProfile where
  read := by
    intro first second same
    have values := Json.sorted_obj_inj ["schema_id", "tenant_id", "database_id", "source_identity",
      "source_class", "transport_version", "maximum_items", "maximum_total_bytes",
      "maximum_item_bytes"] rfl rfl (by decide) same
    cases first
    cases second
    simp only [modelDump, List.map_cons, List.cons.injEq, Json.sorted_eq] at values
    rw [CustodyProfile.mk.injEq]
    simp [values]

theorem canonical_profile {first second : CustodyProfile}
    (same : canonical first = canonical second) : first = second :=
  Json.read first second (Json.encode_inj same)

theorem canonical_claim {first second : RetentionClaim}
    (same : canonical first = canonical second) :
    first.rawDigest = second.rawDigest ∧ first.byteCount = second.byteCount := by
  have values := Json.sorted_obj_inj ["slot_id", "raw_digest", "byte_count", "proof",
    "observation_bytes"] rfl rfl (by decide) (Json.encode_inj same)
  simp only [modelDump, List.map_cons, List.cons.injEq] at values
  obtain ⟨_, digest, size, _⟩ := values
  exact ⟨Json.read _ _ digest, Json.read _ _ size⟩

theorem CustodyOperation.text_inj {first second : CustodyOperation}
    (same : first.text = second.text) : first = second := by
  cases first <;> cases second <;> first | rfl | exact absurd same (by decide)

/-! ### Entries -/

theorem mem_set_or {entries : List TokenEntry} {index : Nat} {entry next other : TokenEntry}
    (present : entries[index]? = some entry) (member : other ∈ entries) :
    other ∈ entries.set index next ∨ other = entry := by
  obtain ⟨place, inside, rfl⟩ := List.getElem_of_mem member
  by_cases same : index = place
  · subst same
    right
    rw [List.getElem?_eq_getElem inside] at present
    exact Option.some.inj present
  · left
    apply List.mem_of_getElem? (i := place)
    rw [List.getElem?_set_ne same, List.getElem?_eq_getElem inside]

theorem reserved_snoc (entries : List TokenEntry) (candidate : TokenEntry) :
    reserved (entries ++ [candidate]) = reserved entries + candidate.token.maximumBytes.val := by
  simp [reserved]

theorem reserved_set {entries : List TokenEntry} {index : Nat} {entry next : TokenEntry}
    (present : entries[index]? = some entry) (same : next.token = entry.token) :
    reserved (entries.set index next) = reserved entries := by
  rw [reserved, map_token_set (fun token => token.maximumBytes.val) present same, reserved]

section

variable [Hashlib] {profile : CustodyProfile} {records : List CustodyRecord}
  {snapshot after : CustodySnapshot} {command : CustodyCommand} {record : CustodyRecord}

/-- A subject is cut where its digest begins. -/
theorem subjectId_cut {first second : CustodyProfile} {slot other : Identity}
    {operation kind : String} (same : subjectId first slot operation = subjectId second other kind) :
    operation = kind ∧ sha256 (subjectBytes first slot) = sha256 (subjectBytes second other) := by
  have characters := congrArg String.toList same
  simp only [subjectId, String.toList_append] at characters
  have length (digest : Digest) : digest.text.toList.length = 64 := digest.hex.1
  obtain ⟨operations, digests⟩ := List.append_inj' characters (by rw [length, length])
  have kinds := List.append_cancel_right operations
  exact ⟨String.toList_inj.mp kinds, Digest.ext_text (String.toList_inj.mp digests)⟩

/-- The texts whose digests must tell them apart. -/
def hashedTexts (profile : CustodyProfile) (records : List CustodyRecord) : List Bytes :=
  canonical profile :: records.flatMap (fun record =>
    [canonical record.command.profile, allocationBytes record.command.profile
      record.command.retention record.command.token.maximumBytes])

omit [Hashlib] in
theorem allocation_hashed (profile : CustodyProfile) (member : record ∈ records) :
    allocationBytes record.command.profile record.command.retention
      record.command.token.maximumBytes ∈ hashedTexts profile records := by
  apply List.mem_cons_of_mem
  exact List.mem_flatMap.mpr ⟨record, member, by simp⟩

/-- The token was allocated by one of the records, and what is staged under it is what the claim
of that record says. -/
def Claimed (records : List CustodyRecord) (entry : TokenEntry) : Prop :=
  ∃ record ∈ records, record.command.operation = .allocateReceiptToken ∧
    record.command.token = entry.token ∧ ∀ raw, entry.stagedBytes = some raw →
      raw.length = record.command.retention.byteCount.toNat ∧
        sha256 raw = record.command.retention.rawDigest

/-- What holds of the records and the snapshot after every step. -/
structure Kept (profile : CustodyProfile) (records : List CustodyRecord)
    (snapshot : CustodySnapshot) : Prop where
  epoch : (snapshot.epochId, snapshot.epochHead, snapshot.fence, snapshot.state) =
    (profile.epoch.identity.text, profile.epoch.head.text, 0, .opened)
  profiles : ∀ record ∈ records, record.command.profile = profile
  commands : ∀ record ∈ records, record.command.commandId.text =
    subjectId profile record.command.retention.slotId record.command.operation.text
  named : ∀ record ∈ records, record.command.token.tokenId.text =
    subjectId profile record.command.retention.slotId "ingress.receipt"
  fingerprints : ∀ record ∈ records, record.command.token.commandFingerprint =
    allocationFingerprint profile record.command.retention record.command.token.maximumBytes
  distinct : (records.map (·.command.commandId)).Nodup
  tokens : (snapshot.entries.map (·.token.tokenId)).Nodup
  items : snapshot.entries.length ≤ profile.maximumItems.value
  bytes : reserved snapshot.entries ≤ profile.maximumTotalBytes.value
  done : ∀ record ∈ records, ∃ entry ∈ snapshot.entries, entry.token = record.command.token ∧
    (record.command.operation = .stageRawBytes → entry.stagedBytes ≠ none) ∧
      (record.command.operation = .publishCustodySuccessor → entry.custody ≠ none)
  claimed : ∀ entry ∈ snapshot.entries, Claimed records entry

theorem Kept.empty : Kept profile [] profile.empty where
  epoch := rfl
  profiles := fun _ member => absurd member List.not_mem_nil
  commands := fun _ member => absurd member List.not_mem_nil
  named := fun _ member => absurd member List.not_mem_nil
  fingerprints := fun _ member => absurd member List.not_mem_nil
  distinct := List.nodup_nil
  tokens := List.nodup_nil
  items := Nat.zero_le _
  bytes := Nat.zero_le _
  done := fun _ member => absurd member List.not_mem_nil
  claimed := fun _ member => absurd member List.not_mem_nil

/-- A command registered for the snapshot's epoch brings the snapshot's profile. -/
theorem Registered.ofProfile (registered : Registered command snapshot)
    (kept : Kept profile records snapshot)
    (apart : ¬ Json.CollisionAmong [canonical profile, canonical command.profile]) :
    command.profile = profile := by
  have epochs := registered.epoch
  rw [kept.epoch] at epochs
  have heads : profile.epoch.head.text = command.profile.epoch.head.text :=
    (Prod.mk.inj (Prod.mk.inj epochs).2).1
  have digests : sha256 (canonical profile) = sha256 (canonical command.profile) :=
    Digest.ext_text (String.append_right_inj _ |>.mp heads)
  by_contra differs
  apply apart
  refine ⟨_, by simp, _, by simp, ?_, digests⟩
  exact fun same => differs (canonical_profile same).symm

/-- A record's entry is not one that the command finds fresh for its operation. -/
theorem Kept.fresh (kept : Kept profile records snapshot) (profiles : command.profile = profile)
    (registered : Registered command snapshot) (prepared : Prepared command snapshot after) :
    command.commandId ∉ records.map (·.command.commandId) := by
  intro known
  obtain ⟨earlier, member, same⟩ := List.mem_map.mp known
  have commands := kept.commands earlier member
  rw [same, registered.commandId, profiles] at commands
  obtain ⟨operations, digests⟩ := subjectId_cut commands
  have operation := CustodyOperation.text_inj operations
  have token : earlier.command.token.tokenId = command.token.tokenId := by
    rw [Identity.ext_iff_text, kept.named earlier member, registered.tokenId, profiles, subjectId,
      subjectId, digests]
  obtain ⟨entry, present, entryToken, staged, retried⟩ := kept.done earlier member
  have named : entry.token.tokenId = command.token.tokenId := by rw [entryToken, token]
  cases prepared with
  | allocated _ _ _ _ fresh _ _ => exact fresh entry present named
  | advanced index found next located foundToken _ advanced =>
      have only : entry = found := by
        apply List.inj_on_of_nodup_map kept.tokens present (List.mem_of_getElem? located)
        rw [named, foundToken]
      subst only
      cases advanced with
      | staged stages raw unstaged => exact staged (operation ▸ stages) unstaged
      | retried retries uncustodied => exact retried (operation ▸ retries) uncustodied

/-- The entry that a record allocated or found is still there after the next command. -/
theorem Prepared.done (prepared : Prepared command snapshot after) {entry : TokenEntry}
    (member : entry ∈ snapshot.entries) : ∃ later ∈ after.entries, later.token = entry.token ∧
      (entry.stagedBytes ≠ none → later.stagedBytes ≠ none) ∧
        (entry.custody ≠ none → later.custody ≠ none) := by
  cases prepared with
  | allocated => exact ⟨entry, List.mem_append_left _ member, rfl, id, id⟩
  | advanced index found next located _ same advanced =>
      rcases mem_set_or located member with kept | rfl
      · exact ⟨entry, kept, rfl, id, id⟩
      · have inside := (List.getElem?_eq_some_iff.mp located).1
        refine ⟨next, List.mem_set inside next, same, ?_⟩
        cases advanced with
        | staged _ raw fresh kept custody =>
            exact ⟨fun _ => kept ▸ Option.some_ne_none raw, fun held => custody ▸ held⟩
        | retried _ fresh kept staged => exact ⟨fun held => staged ▸ held, fun _ => kept⟩

/-- The command leaves an entry of its token on which its operation is done. -/
theorem Prepared.own (prepared : Prepared command snapshot after) :
    ∃ entry ∈ after.entries, entry.token = command.token ∧
      (command.operation = .stageRawBytes → entry.stagedBytes ≠ none) ∧
        (command.operation = .publishCustodySuccessor → entry.custody ≠ none) := by
  cases prepared with
  | allocated operation candidate token =>
      refine ⟨candidate, List.mem_append_right _ (List.mem_singleton_self _), token, ?_⟩
      rw [operation]
      exact ⟨nofun, nofun⟩
  | advanced index found next located token same advanced =>
      have inside := (List.getElem?_eq_some_iff.mp located).1
      refine ⟨next, List.mem_set inside next, same.trans token, ?_⟩
      cases advanced with
      | staged operation raw _ kept =>
          rw [operation]
          exact ⟨fun _ => kept ▸ Option.some_ne_none raw, nofun⟩
      | retried operation _ kept =>
          rw [operation]
          exact ⟨nofun, fun _ => kept⟩

/-- A staging command has the claim that its token was allocated under. -/
theorem claim_of_fingerprint {first second : RetentionClaim} {maximumBytes : ℕ+}
    (apart : ¬ Json.CollisionAmong [allocationBytes profile first maximumBytes,
      allocationBytes profile second maximumBytes])
    (same : allocationFingerprint profile first maximumBytes =
      allocationFingerprint profile second maximumBytes) :
    first.rawDigest = second.rawDigest ∧ first.byteCount = second.byteCount := by
  have bytes : allocationBytes profile first maximumBytes =
      allocationBytes profile second maximumBytes := by
    by_contra differs
    exact apart ⟨_, by simp, _, by simp, differs, same⟩
  apply canonical_claim
  rw [allocationBytes, allocationBytes] at bytes
  have claims := List.append_cancel_right (List.append_cancel_right bytes)
  exact List.append_cancel_left claims

/-- The staged bytes of every entry are those of the claim behind its allocation. -/
theorem Kept.claimed_after (kept : Kept profile records snapshot)
    (profiles : record.command.profile = profile)
    (registered : Registered record.command snapshot)
    (prepared : Prepared record.command snapshot after)
    (apart : ¬ Json.CollisionAmong (hashedTexts profile (records ++ [record]))) :
    ∀ entry ∈ after.entries, Claimed (records ++ [record]) entry := by
  have old : ∀ entry ∈ snapshot.entries, Claimed (records ++ [record]) entry := by
    intro entry member
    obtain ⟨earlier, known, claim⟩ := kept.claimed entry member
    exact ⟨earlier, List.mem_append_left _ known, claim⟩
  intro entry member
  cases prepared with
  | allocated operation candidate token unstaged =>
      rcases List.mem_append.mp member with earlier | last
      · exact old entry earlier
      · obtain rfl := List.mem_singleton.mp last
        refine ⟨record, List.mem_append_right _ (List.mem_singleton_self _), operation,
          token.symm, fun raw staged => ?_⟩
        rw [unstaged] at staged
        cases staged
  | advanced index found next located token same advanced =>
      rcases List.mem_or_eq_of_mem_set member with earlier | rfl
      · exact old entry earlier
      · obtain ⟨earlier, known, allocates, named, claim⟩ :=
          kept.claimed found (List.mem_of_getElem? located)
        refine ⟨earlier, List.mem_append_left _ known, allocates, named.trans same.symm, ?_⟩
        intro raw staged
        cases advanced with
        | retried _ _ _ unchanged => exact claim raw (unchanged ▸ staged)
        | staged _ own _ stages _ size digest =>
            obtain rfl := Option.some.inj (stages.symm.trans staged)
            have tokens : earlier.command.token = record.command.token := named.trans token
            have first := kept.fingerprints earlier known
            rw [tokens] at first
            have second := registered.fingerprint
            rw [profiles] at second
            have claims := claim_of_fingerprint (fun collision => apart (collision.mono ?_))
              (first.symm.trans second)
            · rw [claims.1, claims.2]
              exact ⟨size, digest⟩
            · have own := allocation_hashed profile (List.mem_append_left [record] known)
              rw [kept.profiles earlier known, tokens] at own
              have new := allocation_hashed profile
                (List.mem_append_right records (List.mem_singleton_self record))
              rw [profiles] at new
              exact List.cons_subset.mpr ⟨own, List.cons_subset.mpr ⟨new, List.nil_subset _⟩⟩

theorem Kept.step (kept : Kept profile records snapshot)
    (registered : Registered record.command snapshot)
    (prepared : Prepared record.command snapshot after)
    (apart : ¬ Json.CollisionAmong (hashedTexts profile (records ++ [record]))) :
    Kept profile (records ++ [record]) after := by
  have profiles : record.command.profile = profile := by
    apply registered.ofProfile kept
    intro collision
    apply apart
    apply collision.mono
    simp [hashedTexts]
  have each {motive : CustodyRecord → Prop} (earlier : ∀ other ∈ records, motive other)
      (own : motive record) : ∀ other ∈ records ++ [record], motive other := by
    intro other member
    rcases List.mem_append.mp member with before | last
    · exact earlier other before
    · exact List.mem_singleton.mp last ▸ own
  have fresh := kept.fresh profiles registered prepared
  refine
    { epoch := ?_
      profiles := each kept.profiles profiles
      commands := each kept.commands (profiles ▸ registered.commandId)
      named := each kept.named (profiles ▸ registered.tokenId)
      fingerprints := each kept.fingerprints (profiles ▸ registered.fingerprint)
      distinct := ?_
      tokens := ?_
      items := ?_
      bytes := ?_
      done := each (fun other member => ?_) prepared.own
      claimed := kept.claimed_after profiles registered prepared apart }
  · cases prepared <;> exact kept.epoch
  · rw [List.map_append]
    exact List.concat_eq_append ▸ kept.distinct.concat fresh
  · cases prepared with
    | allocated _ candidate token _ unnamed =>
        rw [List.map_append]
        refine List.concat_eq_append ▸ kept.tokens.concat ?_
        intro known
        obtain ⟨entry, member, same⟩ := List.mem_map.mp known
        exact unnamed entry member (same.trans (congrArg ReceiptToken.tokenId token))
    | advanced index found next located _ same =>
        have unchanged := map_token_set ReceiptToken.tokenId located same
        rw [unchanged]
        exact kept.tokens
  · cases prepared with
    | allocated _ candidate _ _ _ items =>
        rw [profiles] at items
        rw [List.length_append]
        exact items
    | advanced => rw [List.length_set]; exact kept.items
  · cases prepared with
    | allocated _ candidate token _ _ _ bytes =>
        rw [profiles] at bytes
        rw [reserved_snoc, token]
        exact bytes
    | advanced index found next located _ same =>
        rw [reserved_set located same]
        exact kept.bytes
  · obtain ⟨entry, present, token, staged, retried⟩ := kept.done other member
    obtain ⟨later, still, same, keepsStaged, keepsCustody⟩ := prepared.done present
    exact ⟨later, still, same.trans token, fun stages => keepsStaged (staged stages),
      fun retries => keepsCustody (retried retries)⟩

/-! ### Runs of commands -/

/-- What the commands prepared one after the other have left. -/
inductive Retained (profile : CustodyProfile) : List CustodyRecord → CustodySnapshot → Prop
  | empty : Retained profile [] profile.empty
  | step {records : List CustodyRecord} {snapshot after : CustodySnapshot}
      {command : CustodyCommand} {record : CustodyRecord}
      (earlier : Retained profile records snapshot)
      (prepared : prepareCustody command (records.getLast?.map CustodyRecord.head) snapshot =
        .ok (record, after)) :
      Retained profile (records ++ [record]) after

omit [Hashlib] in
theorem hashedTexts_left {more : List CustodyRecord} :
    hashedTexts profile records ⊆ hashedTexts profile (records ++ more) := by
  rw [hashedTexts, hashedTexts, List.flatMap_append]
  exact List.cons_subset_cons _ (List.subset_append_left _ _)

theorem Retained.kept (run : Retained profile records snapshot)
    (apart : ¬ Json.CollisionAmong (hashedTexts profile records)) :
    Kept profile records snapshot := by
  induction run with
  | empty => exact .empty
  | step _ prepared ih =>
      obtain ⟨rfl, registered, done⟩ := prepareCustody_ok prepared
      have kept := ih (fun collision => apart (collision.mono hashedTexts_left))
      exact kept.step registered done apart

theorem prepareAll_append {commands more : List CustodyCommand} :
    prepareAll records snapshot (commands ++ more) =
      prepareAll records snapshot commands >>= fun state =>
        prepareAll state.1 state.2 more := by
  induction commands generalizing records snapshot with
  | nil => rfl
  | cons command commands ih =>
      rw [List.cons_append, prepareAll, prepareAll, bind_assoc]
      congr 1
      funext prepared
      exact ih

/-- The recorded commands, prepared again, give the same records and the same snapshot. -/
theorem Retained.replays (run : Retained profile records snapshot) :
    prepareAll [] profile.empty (records.map CustodyRecord.command) = .ok (records, snapshot) := by
  induction run with
  | empty => rfl
  | step _ prepared ih =>
      obtain ⟨same, _, _⟩ := prepareCustody_ok prepared
      rw [List.map_append, prepareAll_append, ih, ok_bind]
      dsimp only
      rw [List.map_singleton, same, prepareAll, prepared]
      rfl

/-- Unless two of the hashed texts collide: the entries stay within the registered reserve, no
command is recorded twice, so no slot has an operation done twice, what is staged is what the
claim behind the allocation says, and the recorded commands replay to the same records. -/
theorem retained_custody (run : Retained profile records snapshot) :
    prepareAll [] profile.empty (records.map CustodyRecord.command) = .ok (records, snapshot) ∧
      (Json.CollisionAmong (hashedTexts profile records) ∨
        snapshot.entries.length ≤ profile.maximumItems.value ∧
          (snapshot.entries.map (fun entry => entry.token.maximumBytes.val)).sum ≤
            profile.maximumTotalBytes.value ∧
          (records.map (fun record => record.command.commandId)).Nodup ∧
          (records.map (fun record =>
            (record.command.operation, record.command.retention.slotId))).Nodup ∧
          ∀ entry ∈ snapshot.entries, Claimed records entry) := by
  refine ⟨run.replays, or_iff_not_imp_left.mpr fun apart => ?_⟩
  have kept := run.kept apart
  refine ⟨kept.items, kept.bytes, kept.distinct, ?_, kept.claimed⟩
  apply List.Nodup.of_map (fun subject =>
    subjectId profile subject.2 (CustodyOperation.text subject.1))
  rw [List.map_map]
  have texts : records.map (fun record => record.command.commandId.text) =
      records.map (fun record => subjectId profile record.command.retention.slotId
        record.command.operation.text) :=
    List.map_congr_left kept.commands
  change (records.map (fun record => subjectId profile record.command.retention.slotId
    record.command.operation.text)).Nodup
  rw [← texts, ← Function.comp_def Identity.text, ← List.map_map]
  exact kept.distinct.map (fun _ _ same => Identity.ext_iff_text.mpr same)

end

/-- The first allocation of an open epoch. -/
theorem allocateToken_first [Hashlib] {snapshot : CustodySnapshot} (token : ReceiptToken)
    (proof : Head) (opened : snapshot.state = .opened) (empty : snapshot.entries = [])
    (epoch : (token.source.admissionEpoch.identity.text, token.source.admissionEpoch.head.text,
      (token.source.admissionFence.toNat : Int)) =
        (snapshot.epochId, snapshot.epochHead, snapshot.fence)) :
    allocateToken snapshot token .retainedSource (some proof) =
      .ok { snapshot with entries := [⟨token, .retainedSource, some proof,
        allocationHead token .retainedSource (some proof), none, none, none⟩] } := by
  rw [allocateToken, raiseIf_neg (by simp), ok_bind]
  dsimp only
  rw [empty, List.filter_nil]
  dsimp only
  rw [raiseIf_neg (not_not.mpr opened), ok_bind, raiseIf_neg (not_not.mpr epoch), ok_bind,
    raiseIf_neg (by simp), ok_bind]
  rfl

section Sample

def sampleProfile : CustodyProfile :=
  { tenantId := ⟨"tenant", written _ trivial⟩
    databaseId := ⟨"database", written _ trivial⟩
    sourceIdentity := ⟨"source", written _ trivial⟩
    sourceClass := .cli
    transportVersion := ⟨"v1", written _ trivial⟩
    maximumItems := ⟨1, by decide⟩
    maximumTotalBytes := ⟨8, by decide⟩
    maximumItemBytes := ⟨8, by decide⟩ }

variable [Hashlib]

def sampleClaim : RetentionClaim :=
  { slotId := ⟨"slot", written _ trivial⟩
    rawDigest := sha256 [1]
    byteCount := 1
    proof := ⟨⟨"slot", written _ trivial⟩, ⟨"proof", written _ trivial⟩, sha256 [1]⟩
    observationBytes := ⟨[1], oneByte_ne_nil⟩ }

theorem subjectId_ne_empty (profile : CustodyProfile) (slotId : Identity) (operation : String) :
    subjectId profile slotId operation ≠ "" := by
  simp [subjectId]

def sampleReceipt : ReceiptToken :=
  { tokenId := ⟨subjectId sampleProfile sampleClaim.slotId "ingress.receipt",
      subjectId_ne_empty _ _ _⟩
    source :=
      { manifestRow := sampleProfile.head
        sourceClass := .cli
        tenantId := ⟨"tenant", written _ trivial⟩
        databaseId := ⟨"database", written _ trivial⟩
        sourceIdentity := ⟨"source", written _ trivial⟩
        endpointAccountBinding := .unknownPreAuth
        brokerEpoch := ⟨"epoch", written _ trivial⟩
        brokerSession := ⟨"session", written _ trivial⟩
        admissionEpoch := sampleProfile.epoch
        admissionFence := 0
        transportVersion := ⟨"v1", written _ trivial⟩ }
    receiveSlot := ⟨"slot", written _ trivial⟩
    maximumBytes := ⟨8, eight_pos⟩
    predecessor := none
    commandFingerprint := allocationFingerprint sampleProfile sampleClaim ⟨8, eight_pos⟩ }

def sampleAllocation : CustodyCommand :=
  { operation := .allocateReceiptToken
    commandId := ⟨subjectId sampleProfile sampleClaim.slotId
      CustodyOperation.allocateReceiptToken.text, subjectId_ne_empty _ _ _⟩
    profile := sampleProfile
    predecessor := none
    token := sampleReceipt
    retention := sampleClaim
    rawBytes := none
    brokerSession := ⟨"tenant", ⟨1, Nat.one_pos⟩, "generation", "owner", "session"⟩
    readStateBytes := ⟨[1], oneByte_ne_nil⟩
    tenantFrontier := 0 }

def sampleCustodyEntry : TokenEntry :=
  ⟨sampleReceipt, .retainedSource, some sampleClaim.proof,
    allocationHead sampleReceipt .retainedSource (some sampleClaim.proof), none, none, none⟩

def sampleAllocated : CustodySnapshot :=
  { sampleProfile.empty with entries := [sampleCustodyEntry] }

def sampleCustodyRecord : CustodyRecord :=
  ⟨sampleAllocation, ⟨sampleReceipt, sampleClaim.proof, sampleCustodyEntry.stateHead, none, none,
    none⟩⟩

theorem sampleAllocation_prepared : prepareCustody sampleAllocation none sampleProfile.empty =
    .ok (sampleCustodyRecord, sampleAllocated) := by
  have registered : Registered sampleAllocation sampleProfile.empty :=
    ⟨rfl, rfl, rfl, rfl, rfl, rfl, rfl, rfl, rfl, rfl, rfl, rfl, rfl, rfl, rfl, Nat.le_refl 8,
      Nat.le_of_ble_eq_true rfl⟩
  have allocated := @allocateToken_first _ sampleProfile.empty sampleReceipt sampleClaim.proof
    rfl rfl rfl
  have first : ¬ sampleAllocation.predecessor ≠ none := not_not.mpr rfl
  have free : ¬ (sampleAllocation.rawBytes ≠ none ∨ sampleAllocation.token.predecessor ≠ none) :=
    not_or.mpr ⟨not_not.mpr rfl, not_not.mpr rfl⟩
  have unnamed : ¬ ∃ entry ∈ sampleProfile.empty.entries,
      entry.token.tokenId = sampleAllocation.token.tokenId := by
    rintro ⟨entry, member, _⟩
    exact absurd member List.not_mem_nil
  have room : ¬ (sampleAllocation.profile.maximumItems.value ≤ sampleProfile.empty.entries.length ∨
      sampleAllocation.profile.maximumTotalBytes.value <
        reserved sampleProfile.empty.entries + sampleAllocation.token.maximumBytes.val) :=
    not_or.mpr ⟨Nat.not_le.mpr Nat.one_pos, Nat.lt_irrefl 8⟩
  have prepared : prepareOperation sampleAllocation sampleProfile.empty = .ok sampleAllocated := by
    have allocates : sampleAllocation.operation = .allocateReceiptToken := rfl
    rw [prepareOperation, if_pos allocates, prepareAllocation, raiseIf_neg free, ok_bind,
      raiseIf_neg unnamed, ok_bind, raiseIf_neg room, ok_bind]
    exact allocated
  have found : sampleAllocated.entries.find?
      (fun entry => entry.token.tokenId = sampleAllocation.token.tokenId) =
        some sampleCustodyEntry :=
    List.find?_cons_of_pos (decide_eq_true rfl)
  rw [prepareCustody, raiseIf_neg first, ok_bind, raiseIf_neg (not_not.mpr registered),
    ok_bind, prepared, ok_bind, found]
  rfl

def sampleStaging : CustodyCommand :=
  { sampleAllocation with
    operation := .stageRawBytes
    commandId := ⟨subjectId sampleProfile sampleClaim.slotId
      CustodyOperation.stageRawBytes.text, subjectId_ne_empty _ _ _⟩
    predecessor := some sampleCustodyRecord.head
    rawBytes := some [1] }

def sampleStagedSlot : CustodySnapshot :=
  replaceEntry sampleAllocated 0 { sampleCustodyEntry with
    stagedBytes := some [1]
    stagedDigest := some (sha256 [1])
    stateHead := stageHead sampleCustodyEntry (sha256 [1]) }

theorem sampleStaging_prepared : ∃ record,
    prepareCustody sampleStaging (some sampleCustodyRecord.head) sampleAllocated =
      .ok (record, sampleStagedSlot) := by
  have registered : Registered sampleStaging sampleAllocated :=
    ⟨rfl, rfl, rfl, rfl, rfl, rfl, rfl, rfl, rfl, rfl, rfl, rfl, rfl, rfl, rfl, Nat.le_refl 8,
      Nat.le_of_ble_eq_true rfl⟩
  have follows : ¬ sampleStaging.predecessor ≠ some sampleCustodyRecord.head := not_not.mpr rfl
  have later : sampleStaging.operation ≠ .allocateReceiptToken := nofun
  have selected : sampleAllocated.entries.filter
      (fun entry => entry.token.tokenId = sampleStaging.token.tokenId) = [sampleCustodyEntry] :=
    List.filter_cons_of_pos (decide_eq_true rfl)
  have same : ¬ (sampleCustodyEntry.token ≠ sampleStaging.token ∨
      sampleCustodyEntry.retentionProof ≠ some sampleStaging.retention.proof) :=
    not_or.mpr ⟨not_not.mpr rfl, not_not.mpr rfl⟩
  have located : entryAt sampleAllocated sampleStaging.token.tokenId.text =
      .ok (0, sampleCustodyEntry) := by
    have only : (sampleAllocated.entries.zipIdx.map Prod.swap).filter
        (fun indexed => indexed.2.token.tokenId.text = sampleStaging.token.tokenId.text) =
          [(0, sampleCustodyEntry)] := List.filter_cons_of_pos (decide_eq_true rfl)
    rw [entryAt, only]
  have claimed : ¬ (([1] : Bytes).length ≠ sampleStaging.retention.byteCount.toNat ∨
      sha256 [1] ≠ sampleStaging.retention.rawDigest) :=
    not_or.mpr ⟨not_not.mpr rfl, not_not.mpr rfl⟩
  have unstaged : ¬ sampleCustodyEntry.stagedBytes ≠ none := not_not.mpr rfl
  have staged : prepareSuccessor sampleStaging sampleAllocated = .ok sampleStagedSlot := by
    rw [prepareSuccessor, selected]
    dsimp only
    rw [raiseIf_neg same, ok_bind, if_pos (show sampleStaging.operation = .stageRawBytes from rfl),
      prepareStaging, show sampleStaging.rawBytes = some [1] from rfl]
    dsimp only
    rw [raiseIf_neg claimed, ok_bind, raiseIf_neg unstaged, ok_bind, stageRaw, located]
    rfl
  have found : sampleStagedSlot.entries.find?
      (fun entry => entry.token.tokenId = sampleStaging.token.tokenId) = some _ :=
    List.find?_cons_of_pos (decide_eq_true rfl)
  rw [prepareCustody, raiseIf_neg follows, ok_bind, raiseIf_neg (not_not.mpr registered),
    ok_bind, prepareOperation, if_neg later, staged, ok_bind, found]
  exact ⟨_, rfl⟩

omit [Hashlib] in
/-- A slot is allocated and its bytes are staged; the recorded commands prepared again give the
same records, and the staged bytes are the claimed ones. -/
theorem retained_custody_sample :
    letI := Sha256.hashlib
    ∃ staged, prepareAll [] sampleProfile.empty [sampleAllocation, staged.command] =
        .ok ([sampleCustodyRecord, staged], sampleStagedSlot) ∧
      (Json.CollisionAmong (hashedTexts sampleProfile [sampleCustodyRecord, staged]) ∨
        ∀ entry ∈ sampleStagedSlot.entries, Claimed [sampleCustodyRecord, staged] entry) := by
  let _ := Sha256.hashlib
  obtain ⟨staged, prepared⟩ := sampleStaging_prepared
  have run : Retained sampleProfile [sampleCustodyRecord, staged] sampleStagedSlot :=
    (Retained.step .empty sampleAllocation_prepared).step prepared
  obtain ⟨replays, safe⟩ := retained_custody run
  exact ⟨staged, replays, safe.imp_right (·.2.2.2.2)⟩

end Sample

end Chiplog.Platform.Ingress
