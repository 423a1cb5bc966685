import Chiplog.AgentLoop.SchedulerConfiguration
import Chiplog.Data.Sha256

namespace Chiplog.AgentLoop

open Chiplog.Data Chiplog.Effects

/-! Streaming equals full enumeration.

The stream after some members holds the canonical text of exactly those members, so its
digest, size and buffer are those of the manifest when the last one has been read. -/

/-- What an accepted enumeration says about its window. -/
structure DefinitionEnumeration.Planned (plan : DefinitionEnumeration)
    (boundary : SchedulerEligibilityBoundary) (start cutoff : Nat) : Prop where
  bounded : plan.boundary = boundary
  version : boundary.canonicalizationVersion.text = canonicalVersion
  previous : boundary.previousDueBoundary = coordinate start
  limit : boundary.cutoffDueCoordinate = coordinate cutoff
  forward : start ≤ cutoff
  window : ∀ index ∈ indexRange plan.firstIndex plan.endIndex,
    start ≤ plan.due index ∧ plan.due index < cutoff
  nonnegative : 0 ≤ plan.firstIndex
  ordered : plan.firstIndex ≤ plan.endIndex
  sorted : plan.excludedIndices.Pairwise (· < ·)
  inside : ∀ index ∈ plan.excludedIndices, index ∈ indexRange plan.firstIndex plan.endIndex
  counted : plan.eligibleCount = plan.endIndex - plan.firstIndex - plan.excludedIndices.length

theorem EndExclusive.clamp_le (limit : EndExclusive) (cutoff : Nat) :
    limit.clamp cutoff ≤ cutoff := by
  cases limit with
  | instant value => exact min_le_left _ _
  | noEnd => exact le_refl _

namespace DefinitionEnumeration.Planned

variable {plan : DefinitionEnumeration} {boundary : SchedulerEligibilityBoundary}
  {start cutoff : Nat}

theorem indices_eq (planned : plan.Planned boundary start cutoff) :
    plan.indices = (indexRange plan.firstIndex plan.endIndex).filter
      (fun index => index ∉ plan.excludedIndices) :=
  skipping_eq_filter (indexRange_ascending _ _) planned.sorted planned.inside

theorem ascending (planned : plan.Planned boundary start cutoff) :
    plan.indices.Pairwise (· < ·) := by
  rw [planned.indices_eq]
  exact (indexRange_ascending _ _).filter _

theorem mem_indices (planned : plan.Planned boundary start cutoff) {index : Nat}
    (member : index ∈ plan.indices) :
    index ∈ indexRange plan.firstIndex plan.endIndex ∧ index ∉ plan.excludedIndices := by
  rw [planned.indices_eq, List.mem_filter, decide_eq_true_eq] at member
  exact member

/-- The arithmetic count is the number of members. -/
theorem count (planned : plan.Planned boundary start cutoff) :
    (plan.indices.length : Int) = plan.eligibleCount := by
  have whole := indexRange_length plan.firstIndex plan.endIndex
  have parts := List.length_eq_length_filter_add (l := indexRange plan.firstIndex plan.endIndex)
    (fun index => decide (index ∈ plan.excludedIndices))
  have removed : ((indexRange plan.firstIndex plan.endIndex).filter
      (fun index => decide (index ∈ plan.excludedIndices))).length =
        plan.excludedIndices.length := by
    apply List.Perm.length_eq
    rw [List.perm_ext_iff_of_nodup]
    · intro index
      simp only [List.mem_filter, decide_eq_true_eq]
      exact ⟨fun both => both.2, fun member => ⟨planned.inside index member, member⟩⟩
    · exact ((indexRange_ascending _ _).imp (fun order => Nat.ne_of_lt order)).filter _
    · exact planned.sorted.imp (fun order => Nat.ne_of_lt order)
  have kept : plan.indices.length = ((indexRange plan.firstIndex plan.endIndex).filter
      (fun index => !decide (index ∈ plan.excludedIndices))).length := by
    rw [planned.indices_eq]
    simp
  have order := planned.ordered
  have counted := planned.counted
  omega

end DefinitionEnumeration.Planned

theorem inner_next (items : List Json) (item : Json) :
    Json.inner (items ++ [item]) =
      Json.inner items ++ (if items.length = 0 then [] else utf8 ",") ++ item.encode := by
  by_cases empty : items = []
  · simp [empty, Json.inner_singleton]
  · rw [Json.inner_snoc empty, if_neg (by simpa using empty)]

theorem encode_pair (left right : Json) :
    (Json.arr [left, right]).encode =
      utf8 "[" ++ left.encode ++ utf8 "," ++ right.encode ++ utf8 "]" := by
  have text := Json.inner_snoc (List.cons_ne_nil left []) right
  rw [List.singleton_append, Json.inner_singleton] at text
  rw [Json.encode_arr, text]
  simp only [List.append_assoc]

theorem sorted_manifest (slot members : String) :
    Json.sortKeys [("members", members), ("fingerprint", slot)] =
        [("fingerprint", slot), ("members", members)] ∧
      Json.sortKeys [("fingerprint", slot), ("members", members)] =
        [("fingerprint", slot), ("members", members)] := by
  have order : "fingerprint" ≤ "members" := by decide
  have strict : ¬ "members" ≤ "fingerprint" := by decide
  simp [Json.sortKeys, List.insertionSort_cons, List.orderedInsert, order, strict]

/-- The canonical manifest, whichever order its fields are declared in. -/
theorem encode_manifest (slot : String) (items : List Json) :
    (Json.obj [("fingerprint", .str slot), ("members", .arr items)]).encode =
      utf8 "\x7b\"fingerprint\":" ++ (Json.str slot).encode ++ utf8 ",\"members\":[" ++
        Json.inner items ++ utf8 "]\x7d" := by
  have opening : "\x7b\"fingerprint\":" = "\x7b" ++ Json.quote "fingerprint" ++ ":" := by
    decide +kernel
  have middle : ",\"members\":[" = "," ++ Json.quote "members" ++ ":" ++ "[" := by
    decide +kernel
  have closing : "]\x7d" = "]" ++ "\x7d" := by decide +kernel
  simp only [Json.encode, Json.inner, ← utf8_append]
  apply congrArg utf8
  rw [opening, middle, closing]
  simp only [Json.dumps, Json.dumpsFields, (sorted_manifest _ _).2, List.map_cons, List.map_nil,
    String.intercalate_cons_cons, String.intercalate_singleton, String.append_assoc]

theorem due_offset (plan : DefinitionEnumeration) (index : Nat) :
    ((plan.due index : Nat) : Int) - plan.definition.startNs =
      index * plan.definition.periodNs := by
  simp [DefinitionEnumeration.due]

theorem untagged_member (member : UndisposedOccurrence) : (toJson member).untagged = true := by
  simp [toJson, modelDump, Json.untagged, Json.untaggedFields]

/-- The measured size of a manifest is the digest slot and the members between the brackets. -/
theorem recoveryBytes_manifest (members : List UndisposedOccurrence) (fingerprint : Digest) :
    (recoveryBytes (⟨members, fingerprint⟩ : SchedulerEligibilityManifest)).length =
      emptyManifest.encode.length + (Json.inner (members.map toJson)).length := by
  have plain : (toJson (⟨members, fingerprint⟩ : SchedulerEligibilityManifest)).untagged = true := by
    have items : Json.untaggedItems (members.map toJson) = true := by
      apply Json.untaggedItems_forall
      intro item found
      obtain ⟨member, _, rfl⟩ := List.mem_map.mp found
      exact untagged_member member
    have whole : toJson (⟨members, fingerprint⟩ : SchedulerEligibilityManifest) =
        .obj [("members", .arr (members.map toJson)), ("fingerprint", .str fingerprint.text)] := rfl
    simp [whole, Json.untagged, Json.untaggedFields, items]
  have swapped : (toJson (⟨members, fingerprint⟩ : SchedulerEligibilityManifest)).dumps =
      (Json.obj [("fingerprint", .str fingerprint.text),
        ("members", .arr (members.map toJson))]).dumps := by
    simp only [toJson, modelDump, Json.dumps, Json.dumpsFields, sorted_manifest]
  have slot : (Json.str fingerprint.text).encode.length = 64 + 2 := by
    rw [Json.encode_hex_length fingerprint.hex.2, fingerprint.hex.1]
  have zeros : (Json.str (String.ofList (List.replicate 64 '0'))).encode.length = 64 + 2 := by
    rw [Json.encode_hex_length]
    · rw [String.length_ofList, List.length_replicate]
    · intro char found
      rw [String.toList_ofList] at found
      rw [List.eq_of_mem_replicate found]
      decide
  rw [recoveryBytes, Json.dumpsInOrder_ordered _ plain, swapped, ← Json.encode, encode_manifest,
    emptyManifest, encode_manifest]
  simp only [List.length_append, slot, zeros, Json.inner_nil, List.length_nil]
  omega

section Streaming

variable [Hashlib]

theorem definitionEnumeration_ok {snapshot : ConfigurationSnapshot}
    {boundary : SchedulerEligibilityBoundary} {disposed : List DisposedOccurrence}
    {plan : DefinitionEnumeration}
    (accepted : definitionEnumeration snapshot boundary disposed = .ok plan) :
    (∃ current, snapshot.current = .ok current) ∧
      ∃ start cutoff, plan.Planned boundary start cutoff := by
  simp only [definitionEnumeration, bind_ok, raiseIf_ok, pure_ok, not_or, not_not] at accepted
  obtain ⟨current, found, _, _, _, _, start, starts, cutoff, cuts, _, ⟨forward, version⟩, indices,
    _, _, distinct, rfl⟩ := accepted
  refine ⟨⟨current, found⟩, start, cutoff, rfl, version, coordinateValue_ok.mp starts,
    coordinateValue_ok.mp cuts, Nat.not_lt.mp forward, ?_, firstIndex_nonneg _ _ _,
    le_max_left _ _, ?_, ?_, rfl⟩
  · intro index member
    have bounds := mem_window.mp member
    have clamped := current.schedule.revised.endExclusiveNs.clamp_le cutoff
    have due : ((current.schedule.revised.startNs +
      index * current.schedule.revised.periodNs : Nat) : Int) < cutoff := by omega
    exact ⟨Int.ofNat_le.mp bounds.1, Int.ofNat_lt.mp due⟩
  · have sorted := List.pairwise_insertionSort (α := Nat) (· ≤ ·) (indices.filter (fun index : Nat =>
      firstIndex current.schedule.revised.startNs current.schedule.revised.periodNs start ≤
        (index : Int) ∧ (index : Int) < lastIndex current.schedule.revised.startNs
        current.schedule.revised.periodNs start
        (current.schedule.revised.endExclusiveNs.clamp cutoff)))
    have apart := (List.perm_insertionSort (α := Nat) (· ≤ ·) _).nodup_iff.mpr
      (distinct.filter (fun index : Nat => decide
        (firstIndex current.schedule.revised.startNs current.schedule.revised.periodNs start ≤
          (index : Int) ∧ (index : Int) < lastIndex current.schedule.revised.startNs
          current.schedule.revised.periodNs start
          (current.schedule.revised.endExclusiveNs.clamp cutoff))))
    exact (sorted.and apart).imp (fun both => Nat.lt_of_le_of_ne both.1 both.2)
  · intro index member
    rw [List.mem_insertionSort, List.mem_filter, decide_eq_true_eq] at member
    exact (mem_indexRange (firstIndex_nonneg _ _ _)).mpr member.2

variable {plan : DefinitionEnumeration} {stream : MemberStream}

/-- The member a definition has at an index. -/
def DefinitionEnumeration.member (plan : DefinitionEnumeration) (index : Nat) :
    UndisposedOccurrence :=
  occurrenceAt plan.boundary.scheduleDefinitionHead (plan.due index)

theorem definitionMember_ok (plan : DefinitionEnumeration) (index : Nat) :
    definitionMember plan index = .ok (plan.member index) := by
  simp only [definitionMember, occurrenceIdentity_coordinate, ok_bind]
  exact undisposedOccurrence_coordinate _ _

theorem definitionMembers_ok (plan : DefinitionEnumeration) :
    definitionMembers plan = .ok (plan.indices.map plan.member) := by
  unfold definitionMembers
  induction plan.indices with
  | nil => rfl
  | cons index rest ih =>
      rw [List.mapM_cons, definitionMember_ok, ok_bind, ih, ok_bind]
      rfl

/-- The marker of an end of the manifest. -/
def endMarker (member : Option UndisposedOccurrence) : Marker :=
  member.elim .absent memberReference

/-- What the stream holds once the members at `done` have been read. -/
structure MemberStream.Read (plan : DefinitionEnumeration) (limit : Nat) (done : List Nat)
    (stream : MemberStream) : Prop where
  hashed : stream.hashed = (MemberStream.start plan limit).hashed ++
    Json.inner ((done.map plan.member).map toJson)
  measured : stream.measured = emptyManifest.encode.length +
    (Json.inner ((done.map plan.member).map toJson)).length
  retained : stream.retained =
    if stream.measured ≤ limit then some (done.map plan.member) else none
  first : stream.first = endMarker (done.map plan.member).head?
  last : stream.last = endMarker (done.map plan.member).getLast?
  count : stream.count = done.length
  previous : ∀ index : Nat, plan.firstIndex ≤ index → (∀ earlier ∈ done, earlier < index) →
    stream.previousIndex < index

theorem MemberStream.read_start (plan : DefinitionEnumeration) (limit : Nat) :
    (MemberStream.start plan limit).Read plan limit [] where
  hashed := by simp
  measured := by
    simp only [List.map_nil, Json.inner_nil, List.length_nil, Nat.add_zero]
    rfl
  retained := by
    simp only [List.map_nil]
    rfl
  first := rfl
  last := rfl
  count := rfl
  previous := by
    intro index starts _
    have before : (MemberStream.start plan limit).previousIndex = plan.firstIndex - 1 := rfl
    omega

theorem streamMember_read {limit : Nat} {done : List Nat} {index : Nat}
    (read : stream.Read plan limit done) (nonnegative : 0 ≤ plan.firstIndex)
    (inside : index ∈ indexRange plan.firstIndex plan.endIndex)
    (kept : index ∉ plan.excludedIndices) (later : ∀ earlier ∈ done, earlier < index) :
    ∃ next, streamMember plan limit stream (plan.member index) = .ok next ∧
      next.Read plan limit (done ++ [index]) := by
  have positive : (plan.definition.periodNs : Int) ≠ 0 := by
    exact_mod_cast plan.definition.periodNs.ne_zero
  have bounds := (mem_indexRange nonnegative).mp inside
  have order := read.previous index bounds.1 later
  have due : (plan.member index).dueCoordinate = coordinate (plan.due index) := rfl
  have accepted : ¬ ((index : Int) * plan.definition.periodNs % plan.definition.periodNs ≠ 0 ∨
      ¬ (plan.firstIndex ≤ index ∧ (index : Int) < plan.endIndex) ∨
      (index : Int) ≤ stream.previousIndex ∨
      (index : Int) ∈ plan.excludedIndices.map Int.ofNat ∨
      plan.member index ≠ plan.member index) := by
    have outside : (index : Int) ∉ plan.excludedIndices.map Int.ofNat := by
      intro member
      obtain ⟨other, found, same⟩ := List.mem_map.mp member
      exact kept (Int.ofNat.inj same ▸ found)
    simp [bounds, order, outside]
  have expected : undisposedOccurrence plan.boundary.scheduleDefinitionHead
      (coordinate (plan.due index))
      ((plan.member index).occurrenceId.before "/UNDISPOSED") = .ok (plan.member index) :=
    undisposedOccurrence_coordinate _ _
  have identity : occurrenceIdentity plan.boundary.scheduleDefinitionHead
      (coordinate (plan.due index)) = .ok (plan.member index).occurrenceId :=
    occurrenceIdentity_coordinate _ _
  simp only [streamMember, due, coordinateValue_coordinate, ok_bind, identity, expected,
    due_offset, Int.mul_ediv_cancel _ positive, raiseIf_neg accepted]
  have text := inner_next ((done.map plan.member).map toJson) (toJson (plan.member index))
  have extended : ((done ++ [index]).map plan.member).map toJson =
      (done.map plan.member).map toJson ++ [toJson (plan.member index)] := by
    simp only [List.map_append, List.map_cons, List.map_nil]
  have length : ((done.map plan.member).map toJson).length = stream.count := by
    rw [List.length_map, List.length_map, read.count]
  rw [length] at text
  refine ⟨_, rfl, ?_, ?_, ?_, ?_, ?_, ?_, ?_⟩
  · simp only [extended, text, read.hashed, List.append_assoc]
  · simp only [extended, text, read.measured, List.length_append]
    omega
  · -- The buffer is dropped once and for all, because the size only grows.
    simp only [read.retained]
    by_cases small : stream.measured ≤ limit
    · simp only [if_pos small, List.map_append, List.map_cons, List.map_nil]
    · have large : ∀ comma raw, ¬ stream.measured + comma + raw ≤ limit := by omega
      simp only [if_neg small, if_neg (large _ _)]
  · by_cases empty : done = []
    · have none : stream.count = 0 := by simp [read.count, empty]
      simp [none, empty, endMarker]
    · have some : stream.count ≠ 0 := by simpa [read.count] using empty
      simp only [if_neg some, read.first, List.map_append]
      rw [List.head?_append_of_ne_nil _ (by simpa using empty)]
  · simp [endMarker]
  · simp [read.count]
  · intro next _ above
    exact Int.ofNat_lt.mpr (above index (by simp))

/-- The loop reads every member of the definition. -/
theorem streamMembers_read {limit : Nat} {boundary : SchedulerEligibilityBoundary}
    {start cutoff : Nat} (planned : plan.Planned boundary start cutoff) {done rest : List Nat}
    (whole : done ++ rest = plan.indices) (read : stream.Read plan limit done) :
    ∃ final, (rest.map plan.member).foldlM (streamMember plan limit) stream = .ok final ∧
      final.Read plan limit plan.indices := by
  induction rest generalizing done stream with
  | nil =>
      rw [List.append_nil] at whole
      exact ⟨stream, rfl, whole ▸ read⟩
  | cons index rest ih =>
      have ascending := planned.ascending
      rw [← whole] at ascending
      have member : index ∈ plan.indices := by simp [← whole]
      obtain ⟨inside, kept⟩ := planned.mem_indices member
      have later : ∀ earlier ∈ done, earlier < index := fun earlier found =>
        (List.pairwise_append.mp ascending).2.2 earlier found index List.mem_cons_self
      obtain ⟨next, step, after⟩ := streamMember_read read planned.nonnegative inside kept later
      obtain ⟨final, run, complete⟩ := ih (by simpa using whole) after
      rw [List.map_cons, List.foldlM_cons, step, ok_bind]
      exact ⟨final, run, complete⟩

/-- The framing written by hand is the canonical text of the tuple that is hashed. -/
theorem manifestFingerprint_framing (boundary : SchedulerEligibilityBoundary)
    (members : List UndisposedOccurrence) :
    manifestFingerprint boundary members =
      sha256 (utf8 "[\"scheduler-eligibility-manifest-v1\",[" ++ (toJson boundary).encode ++
        utf8 ",[" ++ Json.inner (members.map toJson) ++ utf8 "]]]") := by
  have items : (toJson members).encode =
      utf8 "[" ++ Json.inner (members.map toJson) ++ utf8 "]" := Json.encode_arr _
  have opening : utf8 "[\"scheduler-eligibility-manifest-v1\",[" =
      utf8 "[" ++ (Json.str "scheduler-eligibility-manifest-v1").encode ++ utf8 "," ++
        utf8 "[" := by
    simp only [Json.encode, ← utf8_append]
    exact congrArg utf8 (by decide +kernel)
  have middle : utf8 ",[" = utf8 "," ++ utf8 "[" := by rw [← utf8_append]; rfl
  have closing : utf8 "]]]" = utf8 "]" ++ utf8 "]" ++ utf8 "]" := by
    rw [← utf8_append, ← utf8_append]
    rfl
  rw [manifestFingerprint, domainDigest, encode_pair, encode_pair, items, opening, middle, closing]
  simp only [List.append_assoc]

/-- The streamed result is the one of the full manifest: the same count, size and digest, and the
manifest itself as evidence exactly when it fits the registered budget. -/
structure StreamedEligibility.Agrees (result : StreamedEligibility) (limit : Nat)
    (manifest : SchedulerEligibilityManifest) : Prop where
  memberCount : result.memberCount = manifest.members.length
  manifestBytes : result.manifestBytes = (recoveryBytes manifest).length
  fingerprint : result.manifestFingerprint = manifest.fingerprint
  full : result.evidence = .full manifest ↔ result.manifestBytes ≤ limit
  streaming : ¬ result.manifestBytes ≤ limit → ∃ evidence, result.evidence = .streaming evidence ∧
    evidence.firstMember = endMarker manifest.members.head? ∧
    evidence.lastMember = endMarker manifest.members.getLast? ∧
    evidence.memberCount = manifest.members.length ∧
    evidence.manifestDigest = manifest.fingerprint

/-- A stream that has read everything yields the evidence of the manifest. -/
theorem streamedEvidence_read {limit : Nat} {fingerprint : Digest}
    (read : stream.Read plan limit plan.indices) (proof : PresentHead) :
    ∃ evidence, streamedEvidence stream fingerprint proof = .ok evidence ∧
      (⟨stream.count, stream.measured, fingerprint, evidence⟩ : StreamedEligibility).Agrees limit
        ⟨plan.indices.map plan.member, fingerprint⟩ := by
  have count : stream.count = (plan.indices.map plan.member).length := by
    rw [List.length_map, read.count]
  have size : stream.measured = (recoveryBytes
      (⟨plan.indices.map plan.member, fingerprint⟩ : SchedulerEligibilityManifest)).length := by
    rw [recoveryBytes_manifest, read.measured]
  by_cases small : stream.measured ≤ limit
  · refine ⟨.full ⟨plan.indices.map plan.member, fingerprint⟩, ?_, count, size, rfl, ?_, ?_⟩
    · simp only [streamedEvidence, read.retained, if_pos small]
      rw [raiseIf_neg (by rw [size]; exact fun differs => differs rfl)]
      rfl
    · exact ⟨fun _ => small, fun _ => rfl⟩
    · exact fun large => absurd small large
  · refine ⟨_, by simp only [streamedEvidence, read.retained, if_neg small]; rfl, count, size, rfl,
      ?_, fun _ => ⟨_, rfl, read.first, read.last, count, rfl⟩⟩
    exact ⟨(fun whole => by cases whole), fun fits => absurd fits small⟩

/-- For every accepted enumeration the stream succeeds, and it agrees with the manifest of the
enumerated members.  That manifest exists unless two of their identities collide. -/
theorem streamDefinition_eligibleManifest {snapshot : ConfigurationSnapshot}
    {boundary : SchedulerEligibilityBoundary} {disposed : List DisposedOccurrence}
    {plan : DefinitionEnumeration}
    (accepted : definitionEnumeration snapshot boundary disposed = .ok plan)
    (enumerationProof : PresentHead) :
    ∃ current members result, snapshot.current = .ok current ∧
      definitionMembers plan = .ok members ∧
      streamDefinition snapshot boundary disposed enumerationProof = .ok result ∧
      ((members.map UndisposedOccurrence.occurrenceId).Nodup →
        ∃ manifest, eligibleManifest boundary members = .ok manifest) ∧
      ∀ manifest, eligibleManifest boundary members = .ok manifest →
        result.Agrees current.bound.bound.maxManifestBytes manifest := by
  obtain ⟨⟨current, configured⟩, start, cutoff, planned⟩ := definitionEnumeration_ok accepted
  obtain ⟨stream, loop, read⟩ := streamMembers_read planned (List.nil_append _)
    (MemberStream.read_start plan current.bound.bound.maxManifestBytes)
  have digest : sha256 (stream.hashed ++ utf8 "]]]") =
      manifestFingerprint boundary (plan.indices.map plan.member) := by
    rw [manifestFingerprint_framing, read.hashed, ← planned.bounded]
    rfl
  obtain ⟨evidence, evident, agrees⟩ := @streamedEvidence_read _ _ _ _
    (manifestFingerprint boundary (plan.indices.map plan.member)) read
    enumerationProof
  have counted : ¬ (stream.count : Int) ≠ plan.eligibleCount := by
    rw [read.count, planned.count]
    exact fun differs => differs rfl
  have window := eligibleManifest_window planned.version planned.previous planned.limit
    planned.forward (terms_ascending plan.definition.startNs plan.definition.periodNs
      planned.ascending) (by
        intro due member
        obtain ⟨index, found, rfl⟩ := List.mem_map.mp member
        exact planned.window index (planned.mem_indices found).1)
  have members : (plan.indices.map (fun index =>
      plan.definition.startNs + index * plan.definition.periodNs)).map
        (occurrenceAt boundary.scheduleDefinitionHead) = plan.indices.map plan.member := by
    rw [List.map_map, ← planned.bounded]
    rfl
  simp only [members] at window
  refine ⟨current, plan.indices.map plan.member, 
    ⟨stream.count, stream.measured, manifestFingerprint boundary (plan.indices.map plan.member),
      evidence⟩, configured, definitionMembers_ok plan, ?_, ?_, ?_⟩
  · simp only [streamDefinition, accepted, configured, definitionMembers_ok, loop, ok_bind,
      raiseIf_neg counted, digest, evident]
    rfl
  · intro distinct
    rw [window, if_pos distinct]
    exact ⟨_, rfl⟩
  · intro manifest found
    rw [window] at found
    split at found
    · cases found
      exact agrees
    · cases found

/-- Every ten nanoseconds from the start of time. -/
def everyTen : FixedIntervalDefinition :=
  { startNs := 0
    periodNs := 10
    endExclusiveNs := .noEnd
    runInputs :=
      { tenant := ⟨"tenant", written _ trivial⟩
        principal := ⟨"principal", written _ trivial⟩
        prompt := ⟨"prompt", written _ trivial⟩
        policy := ⟨none, .noPolicy, ⟨8, eight_pos⟩, ⟨65536, pageBytes_pos⟩,
          ⟨65536, pageBytes_pos⟩, ⟨8, eight_pos⟩, none⟩
        origin :=
          { kind := .originExact
            ingressBindingHead := ⟨"ingress", written _ trivial⟩
            endpointHead := ⟨"endpoint", written _ trivial⟩
            endpointId := ⟨"endpoint", written _ trivial⟩
            provider := .localCli
            recipient := ⟨"recipient", written _ trivial⟩
            canonicalAddress := ⟨"address", written _ trivial⟩
            credentialBindingHead := ⟨"credential", written _ trivial⟩ }
        contourHead := ⟨"contour", written _ trivial⟩
        policyHead := ⟨"policy", written _ trivial⟩
        workerSession := ⟨"worker", written _ trivial⟩
        authorityEpoch := ⟨"authority", written _ trivial⟩ } }

def everyTenContext : SchedulerContextRef :=
  { tenantId := ⟨"tenant", written _ trivial⟩
    serviceIdentity := ⟨"service", written _ trivial⟩
    sessionId := ⟨"session", written _ trivial⟩
    mandateHead := ⟨"mandate", written _ trivial⟩
    issuanceId := ⟨"issuance", written _ trivial⟩
    issuanceFingerprint := sha256 [] }

def everyTenCurrent : CurrentConfiguration :=
  { schedule := ⟨⟨"schedule", written _ trivial⟩, 0, .absent, everyTen, everyTenContext,
      ⟨"command", written _ trivial⟩⟩
    policy := ⟨⟨"schedule", written _ trivial⟩, 0, .absent, .coalesce, everyTenContext,
      ⟨"command", written _ trivial⟩⟩
    bound :=
      { headId := ⟨"bound", written _ trivial⟩
        predecessor := .absent
        generation := 0
        bound := ⟨⟨1, Nat.one_pos⟩, 4096, ⟨65536, pageBytes_pos⟩⟩
        ownerId := ⟨"owner", written _ trivial⟩
        authorityEpoch := ⟨"authority", written _ trivial⟩
        brokerGeneration := ⟨"broker", written _ trivial⟩
        runtimeGraphGeneration := ⟨"graph", written _ trivial⟩
        canonicalizationVersion := ⟨canonicalVersion, written _ trivial⟩ } }

def everyTenSnapshot : ConfigurationSnapshot :=
  ⟨some everyTenCurrent.schedule, some everyTenCurrent.policy, some everyTenCurrent.bound, .absent⟩

def everyTenBoundary (cutoff : Nat) : SchedulerEligibilityBoundary :=
  { scheduleDefinitionHead := scheduleHead everyTenCurrent.schedule
    missedOccurrencePolicyHead := policyHead everyTenCurrent.policy
    previousDueBoundary := coordinate 0
    cutoffDueCoordinate := coordinate cutoff
    enumerationFrontier := ⟨"frontier", written _ trivial⟩
    predecessorInterval := .absent
    canonicalizationVersion := ⟨canonicalVersion, written _ trivial⟩ }

theorem everyTen_enumeration : definitionEnumeration everyTenSnapshot (everyTenBoundary 15) [] =
    .ok ⟨everyTen, everyTenBoundary 15, 0, 2, [], 2⟩ := by
  have configured : everyTenSnapshot.current = .ok everyTenCurrent := rfl
  have valid : validateDefinition everyTen everyTenContext = .ok () := rfl
  have bound : ¬ ((everyTenBoundary 15).scheduleDefinitionHead ≠
        scheduleHead everyTenCurrent.schedule ∨
      (everyTenBoundary 15).missedOccurrencePolicyHead ≠ policyHead everyTenCurrent.policy) := by
    simp [everyTenBoundary]
  have forward : ¬ (15 < 0 ∨
      (everyTenBoundary 15).canonicalizationVersion.text ≠ canonicalVersion) := by
    simp [everyTenBoundary]
  have start : coordinateValue (everyTenBoundary 15).previousDueBoundary = .ok 0 :=
    coordinateValue_coordinate 0
  have cutoff : coordinateValue (everyTenBoundary 15).cutoffDueCoordinate = .ok 15 :=
    coordinateValue_coordinate 15
  have revised : everyTenCurrent.schedule.revised = everyTen := rfl
  have context : everyTenCurrent.schedule.context = everyTenContext := rfl
  simp only [definitionEnumeration, configured, ok_bind, raiseIf_neg bound, revised, context, valid,
    start, cutoff, raiseIf_neg forward]
  rfl

end Streaming

theorem streamDefinition_eligibleManifest_sample :
    letI := Sha256.hashlib
    ∃ plan members result, definitionEnumeration everyTenSnapshot (everyTenBoundary 15) [] = .ok plan ∧
      definitionMembers plan = .ok members ∧ members.length = 2 ∧
      streamDefinition everyTenSnapshot (everyTenBoundary 15) [] ⟨⟨"proof", by decide⟩, sha256 []⟩ =
        .ok result ∧
      ∀ manifest, eligibleManifest (everyTenBoundary 15) members = .ok manifest →
        result.Agrees 4096 manifest := by
  let _ := Sha256.hashlib
  obtain ⟨current, members, result, configured, enumerated, streamed, _, agrees⟩ :=
    streamDefinition_eligibleManifest everyTen_enumeration ⟨⟨"proof", by decide⟩, sha256 []⟩
  have same : current = everyTenCurrent := (Except.ok.inj configured).symm
  refine ⟨_, members, result, everyTen_enumeration, enumerated, ?_, streamed, ?_⟩
  · rw [definitionMembers_ok] at enumerated
    rw [← Except.ok.inj enumerated]
    rfl
  · intro manifest found
    have agreed := agrees manifest found
    rw [same] at agreed
    exact agreed

end Chiplog.AgentLoop
