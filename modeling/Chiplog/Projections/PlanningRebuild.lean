import Chiplog.Projections.PlanningReading

namespace Chiplog.Projections

open Chiplog.Data Chiplog.Planning

/-! Rebuilding over the committed publications.

A checkpoint is either dropped or holds the rows that its prefix reduces to, in any order, so what
is rebuilt does not depend on it.  Over the publications that the use case has committed every
reduction succeeds and adds the row of its command. -/

section

variable [Hashlib] {reader : ProjectionReader} {commits : List Commit}
  {publications : List PlanningPublication}

/-! ### Checkpoints -/

theorem reduce_congr {first second after : Rows} {publication : PlanningPublication}
    (same : ∀ key, first.get? key = second.get? key)
    (reduced : reduce reader first publication = .ok after) :
    ∃ other, reduce reader second publication = .ok other ∧
      ∀ key, after.get? key = other.get? key := by
  rw [reduce] at reduced ⊢
  split at reduced
  · rename_i line revision _ records
    obtain ⟨_, verified, reduced⟩ := bind_ok.mp reduced
    obtain ⟨_, unique, reduced⟩ := bind_ok.mp reduced
    rw [same] at unique
    rw [verified, ok_bind, unique, ok_bind]
    split at reduced
    · cases reduced
    · rename_i fields decoded
      refine ⟨_, rfl, fun key => ?_⟩
      rw [← Except.ok.inj reduced, Dict.get?_set, Dict.get?_set, same]
  · cases reduced

theorem reduceAll_congr {first second after : Rows} (same : ∀ key, first.get? key = second.get? key)
    (reduced : publications.foldlM (reduce reader) first = .ok after) :
    ∃ other, publications.foldlM (reduce reader) second = .ok other ∧
      ∀ key, after.get? key = other.get? key := by
  induction publications generalizing first second with
  | nil =>
      cases reduced
      exact ⟨second, rfl, same⟩
  | cons publication rest ih =>
      rw [List.foldlM_cons] at reduced
      obtain ⟨next, head, tail⟩ := bind_ok.mp reduced
      obtain ⟨other, own, agrees⟩ := reduce_congr same head
      rw [List.foldlM_cons, own, ok_bind]
      exact ih agrees tail

omit [Hashlib] in
/-- The sorted rows do not depend on the order of the dictionary. -/
theorem sortedRows_congr {first second : Rows} (same : ∀ key, first.get? key = second.get? key) :
    sortedRows first = sortedRows second := by
  have sorts (rows : Rows) := List.perm_insertionSort (fun left right : String => left ≤ right)
    (rows.entries.map Prod.fst)
  have keys : (first.entries.map Prod.fst).insertionSort (· ≤ ·) =
      (second.entries.map Prod.fst).insertionSort (· ≤ ·) := by
    have permuted := ((sorts first).trans (Dict.keys_perm same)).trans (sorts second).symm
    exact permuted.eq_of_pairwise' (List.pairwise_insertionSort _ _)
      (List.pairwise_insertionSort _ _)
  rw [sortedRows, sortedRows, keys]
  exact List.filterMap_congr (fun key _ => same key)

/-- A checkpoint that holds has the rows of its prefix. -/
theorem accepted_cases {tenantId : String}
    {rows : Rows} (reduced : publications.foldlM (reduce reader) .empty = .ok rows)
    (checkpoint : ProjectionCheckpoint) :
    ∃ found, accepted reader tenantId publications checkpoint = .ok found ∧
      ∀ candidate frontier, found = some (candidate, frontier) →
        ∃ rebuilt, (publications.take frontier).foldlM (reduce reader) .empty = .ok rebuilt ∧
          ∀ key, rebuilt.get? key = candidate.get? key := by
  rw [accepted]
  split
  · dsimp only
    split
    · have whole := reduced
      rw [← List.take_append_drop checkpoint.inclusiveFrontier.toNat publications,
        List.foldlM_append] at whole
      obtain ⟨rebuilt, front, _⟩ := bind_ok.mp whole
      rw [front, ok_bind]
      split
      · rename_i permuted
        refine ⟨_, rfl, fun candidate frontier same => ?_⟩
        obtain ⟨own, place⟩ := Prod.mk.inj (Option.some.inj same)
        rw [← own, ← place]
        exact ⟨rebuilt, front, fun key => (Dict.get?_of_perm permuted key).symm⟩
      · exact ⟨none, rfl, by simp⟩
    · exact ⟨none, rfl, by simp⟩
  · exact ⟨none, rfl, by simp⟩

/-- What a rebuild without a checkpoint gives, a rebuild with any checkpoint gives. -/
theorem rebuild_checkpoint {tenantId : String}
    {frontier : Option Int} {projection : PlanningProjection}
    (rebuilt : rebuild reader tenantId publications none frontier = .ok projection)
    (checkpoint : ProjectionCheckpoint) :
    ∃ other, rebuild reader tenantId publications (some checkpoint) frontier = .ok other ∧
      other.tenantId = projection.tenantId ∧ other.checkpoint = projection.checkpoint ∧
      ∀ key, other.rows.get? key = projection.rows.get? key := by
  rw [rebuild] at rebuilt ⊢
  obtain ⟨_, stream, rebuilt⟩ := bind_ok.mp rebuilt
  rw [stream, ok_bind]
  dsimp only at rebuilt ⊢
  rw [ok_bind, Option.getD_none] at rebuilt
  dsimp only at rebuilt
  obtain ⟨rows, reduced, rebuilt⟩ := bind_ok.mp rebuilt
  rw [List.drop_zero] at reduced
  obtain ⟨found, known, holds⟩ := @accepted_cases _ reader _ tenantId _ reduced checkpoint
  rw [known, ok_bind]
  have again : ∃ other, (publications.drop (found.getD (.empty, 0)).2).foldlM (reduce reader)
      (found.getD (.empty, 0)).1 = .ok other ∧ ∀ key, rows.get? key = other.get? key := by
    cases found with
    | none => exact ⟨rows, reduced, fun _ => rfl⟩
    | some found =>
        obtain ⟨candidate, place⟩ := found
        obtain ⟨prior, front, same⟩ := holds candidate place rfl
        rw [← List.take_append_drop place publications, List.foldlM_append, front, ok_bind]
          at reduced
        exact reduceAll_congr same reduced
  obtain ⟨other, finished, agrees⟩ := again
  rw [finished, ok_bind]
  rw [← Except.ok.inj rebuilt, sortedRows_congr agrees]
  exact ⟨_, rfl, rfl, rfl, fun key => (agrees key).symm⟩

/-! ### Committed publications -/

abbrev Commit := InvocationContext × CreateIntentionLine

/-- The publications of these commits, numbered in their order. -/
def publishedAll (tenantId : String) (commits : List Commit) : List PlanningPublication :=
  commits.zipIdx.map (fun entry => published tenantId entry.1.1 entry.1.2 entry.2)

/-- One row for each commit. -/
def rowsOf (commits : List Commit) : List (String × IntentionLineView) :=
  commits.zipIdx.map (fun entry =>
    (entry.1.2.intentionLineId.value, viewOf entry.1.1 entry.1.2 (entry.2 + 1)))

theorem publishedAll_snoc (tenantId : String) (commits : List Commit) (commit : Commit) :
    publishedAll tenantId (commits ++ [commit]) =
      publishedAll tenantId commits ++ [published tenantId commit.1 commit.2 commits.length] := by
  rw [publishedAll, List.zipIdx_append, List.map_append, Nat.zero_add]
  rfl

omit [Hashlib] in
theorem rowsOf_snoc (commits : List Commit) (commit : Commit) :
    rowsOf (commits ++ [commit]) = rowsOf commits ++
      [(commit.2.intentionLineId.value, viewOf commit.1 commit.2 (commits.length + 1))] := by
  rw [rowsOf, List.zipIdx_append, List.map_append, Nat.zero_add]
  rfl

omit [Hashlib] in
theorem rowsOf_keys (commits : List Commit) :
    (rowsOf commits).map Prod.fst =
      commits.map (fun commit => commit.2.intentionLineId.value) := by
  rw [rowsOf, List.map_map]
  change commits.zipIdx.map ((fun commit => commit.2.intentionLineId.value) ∘ Prod.fst) = _
  rw [← List.map_map, List.zipIdx_map_fst]

/-- The commits of a tenant were accepted requests of that tenant. -/
def Accepted (tenantId : String) (commits : List Commit) : Prop :=
  ∀ commit ∈ commits, commit.1.tenantId = tenantId ∧
    structuralError commit.1 commit.2 none = none

/-- The publications of every tenant are those of its commits. -/
def Repository.Committed (repository : Repository) : Prop :=
  ∀ tenantId, ∃ commits, Accepted tenantId commits ∧
    (Repository.state repository tenantId).publications = publishedAll tenantId commits

/-- A commit adds the publication of its own request. -/
theorem committed_publish {repository after : Repository} {context : InvocationContext}
    {command : CreateIntentionLine} {trust : Revalidation} {outcome : PlanningOutcome}
    (commits : Commits repository context command trust outcome after)
    (valid : Repository.Valid trust.repository) {known : List Commit}
    (own : (Repository.state trust.repository context.tenantId).publications =
      publishedAll context.tenantId known) :
    (Repository.state after context.tenantId).publications =
      publishedAll context.tenantId (known ++ [(context, command)]) := by
  have head := (valid context.tenantId).head
  rw [commits.head, own, publishedAll, List.length_map, List.length_zipIdx] at head
  rw [commits.after, state_set, if_pos rfl, PlanningState.publish, own, publishedAll_snoc, head,
    (valid context.tenantId).tenant]

theorem committed_calls {start repository : Repository} (run : Calls start repository)
    (valid : Repository.Valid start) (committed : Repository.Committed start) :
    Repository.Committed repository := by
  induction run with
  | none => exact committed
  | @execute start repository before context command trust during ihBefore ihDuring =>
      obtain ⟨validBefore, _⟩ := before.preserves valid
      obtain ⟨validDuring, _⟩ := during.preserves (validBefore.opened _)
      have earlier := ihBefore valid committed
      have opened : Repository.Committed (Repository.opened repository context.tenantId) := by
        intro tenantId
        rw [state_opened]
        exact earlier tenantId
      have answered := ihDuring (validBefore.opened _) opened
      rcases execute_cases repository context command trust with ⟨_, same | same | same⟩ | commits
      · rw [same]
        exact earlier
      · rw [same]
        exact opened
      · rw [same]
        exact answered
      · intro tenantId
        obtain ⟨known, accepted, own⟩ := answered tenantId
        by_cases mine : tenantId = context.tenantId
        · subst mine
          refine ⟨known ++ [(context, command)], ?_, committed_publish commits validDuring own⟩
          intro commit member
          rcases List.mem_append.mp member with old | new
          · exact accepted commit old
          · rw [List.mem_singleton.mp new]
            exact ⟨rfl, commits.valid⟩
        · refine ⟨known, accepted, ?_⟩
          rw [commits.after, state_set, if_neg mine]
          exact own

/-! ### Rebuilding -/

omit [Hashlib] in
/-- One element of each list, where the lists share none. -/
theorem nodup_map_of_flatMap {α β : Type} {select : α → β} {lists : α → List β} {items : List α}
    (each : ∀ item ∈ items, select item ∈ lists item) (distinct : (items.flatMap lists).Nodup) :
    (items.map select).Nodup := by
  have within : (items.map select).Sublist (items.flatMap lists) := by
    clear distinct
    induction items with
    | nil => exact .slnil
    | cons item items ih =>
        rw [List.map_cons, List.flatMap_cons, ← List.singleton_append]
        exact (List.singleton_sublist.mpr (each item List.mem_cons_self)).append
          (ih (fun other member => each other (List.mem_cons_of_mem _ member)))
  exact distinct.sublist within

theorem publishedAll_lines {tenantId : String}
    (distinct : ((publishedAll tenantId commits).flatMap PlanningPublication.recordIds).Nodup) :
    (commits.map (fun commit => commit.2.intentionLineId.value)).Nodup := by
  rw [publishedAll, List.flatMap_map] at distinct
  have inside : ∀ entry ∈ commits.zipIdx, entry.1.2.intentionLineId.value ∈
      (published tenantId entry.1.1 entry.1.2 entry.2).recordIds := by
    intro entry _
    exact List.mem_cons_of_mem _ (List.mem_cons_of_mem _ List.mem_cons_self)
  have lines := nodup_map_of_flatMap inside distinct
  rw [← rowsOf_keys, rowsOf, List.map_map]
  exact lines

theorem checkStream_published (reads : ReadsUtf8 reader.loads) {tenantId : String}
    (accepted : Accepted tenantId commits) (index previous : Nat) :
    checkStream reader tenantId none (index + 1) previous
      ((commits.zipIdx index).map
        (fun entry => published tenantId entry.1.1 entry.1.2 entry.2)) = .ok () := by
  induction commits generalizing index previous with
  | nil => rfl
  | cons commit rest ih =>
      obtain ⟨⟨own, structural⟩, others⟩ := List.forall_mem_cons.mp accepted
      have verified : ¬ verifyPublication reader (published tenantId commit.1 commit.2 index) =
          false := by
        rw [← own, verify_published reads (wellFormed_of_structural structural)]
        exact Bool.noConfusion
      have contiguous : ¬ ((published tenantId commit.1 commit.2 index).tenantId ≠ tenantId ∨
          decide ((published tenantId commit.1 commit.2 index).commitSequence = index + 1) =
            false) := by
        rintro (foreign | gap)
        · exact foreign rfl
        · exact absurd rfl (of_decide_eq_false gap)
      rw [List.zipIdx_cons, List.map_cons, checkStream]
      dsimp only
      rw [raiseIf_neg contiguous, ok_bind, raiseIf_neg verified, ok_bind]
      exact ih others (index + 1) _

theorem reduce_all (reads : ReadsUtf8 reader.loads)
    (strings : ∀ text, reader.str (.str text) = text) {tenantId : String}
    (accepted : Accepted tenantId commits)
    (distinct : (commits.map (fun commit => commit.2.intentionLineId.value)).Nodup) :
    ∃ rows, (publishedAll tenantId commits).foldlM (reduce reader) .empty = .ok rows ∧
      rows.entries = rowsOf commits := by
  induction commits using List.reverseRecOn with
  | nil => exact ⟨.empty, rfl, rfl⟩
  | append_singleton commits commit ih =>
      rw [List.map_append, List.map_singleton, List.nodup_append] at distinct
      obtain ⟨front, _, apart⟩ := distinct
      obtain ⟨rows, reduced, entries⟩ :=
        ih (fun other member => accepted other (List.mem_append_left _ member)) front
      obtain ⟨own, structural⟩ := accepted commit (List.mem_append_right _ List.mem_cons_self)
      have absent : commit.2.intentionLineId.value ∉ rows.entries.map Prod.fst := by
        rw [entries, rowsOf_keys]
        intro member
        exact apart _ member _ (List.mem_singleton_self _) rfl
      refine ⟨rows.set commit.2.intentionLineId.value (viewOf commit.1 commit.2
        (commits.length + 1)), ?_, ?_⟩
      · rw [publishedAll_snoc, List.foldlM_append, reduced, ok_bind, List.foldlM_cons, ← own,
          reduce_published reads strings (wellFormed_of_structural structural) commits.length
            (Dict.get?_eq_none_iff.mpr absent)]
        rfl
      · rw [Dict.entries_set_absent absent, entries, rowsOf_snoc]

theorem rebuild_published (reads : ReadsUtf8 reader.loads)
    (strings : ∀ text, reader.str (.str text) = text) {tenantId : String}
    (accepted : Accepted tenantId commits)
    (distinct : (commits.map (fun commit => commit.2.intentionLineId.value)).Nodup) :
    ∃ projection, rebuild reader tenantId (publishedAll tenantId commits) none none =
        .ok projection ∧ projection.rows.entries = rowsOf commits := by
  obtain ⟨rows, reduced, entries⟩ := reduce_all reads strings accepted distinct
  have stream : checkStream reader tenantId none 1 0 (publishedAll tenantId commits) = .ok () :=
    checkStream_published reads accepted 0 0
  have computes : rebuild reader tenantId (publishedAll tenantId commits) none none =
      .ok ⟨tenantId, rows, ⟨tenantId, logIdentity tenantId, (publishedAll tenantId commits).length,
        projectionReducerVersion, projectionSchemaVersion,
        sourceDigest (publishedAll tenantId commits), sortedRows rows⟩⟩ := by
    rw [rebuild, stream, ok_bind]
    dsimp only
    rw [ok_bind, Option.getD_none]
    dsimp only
    rw [List.drop_zero, reduced, ok_bind]
  exact ⟨_, computes, entries⟩

/-- Over any calls of the use case, the projection of a tenant is one row for each commit, whatever
checkpoint it is rebuilt from, and the next commit adds its own row. -/
theorem planning_projection (reads : ReadsUtf8 reader.loads)
    (strings : ∀ text, reader.str (.str text) = text) {repository : Repository}
    (run : Calls Dict.empty repository) (tenantId : String) :
    ∃ commits projection, Accepted tenantId commits ∧
      (Repository.state repository tenantId).publications = publishedAll tenantId commits ∧
      rebuild reader tenantId (Repository.state repository tenantId).publications none none =
        .ok projection ∧
      projection.rows.entries = rowsOf commits ∧
      (∀ checkpoint, ∃ other,
        rebuild reader tenantId (Repository.state repository tenantId).publications
            (some checkpoint) none = .ok other ∧
          other.checkpoint = projection.checkpoint ∧
          ∀ key, other.rows.get? key = projection.rows.get? key) ∧
      ∀ (context : InvocationContext) (command : CreateIntentionLine) (trust : Revalidation),
        context.tenantId = tenantId →
        Calls (Repository.opened repository tenantId) trust.repository →
        ∀ outcome after, execute repository context command trust = (outcome, after) →
        (outcome.disposition = .committed → ∃ next,
          rebuild reader tenantId (Repository.state after tenantId).publications none none =
            .ok next ∧
          next.rows.entries = projection.rows.entries ++
            [(command.intentionLineId.value, viewOf context command (commits.length + 1))]) ∧
        (outcome.disposition ≠ .committed →
          (Repository.state after tenantId).publications =
              (Repository.state repository tenantId).publications ∨
            (Repository.state after tenantId).publications =
              (Repository.state trust.repository tenantId).publications) := by
  obtain ⟨valid, _⟩ := run.preserves empty_valid
  have nothing : Repository.Committed Dict.empty :=
    fun _ => ⟨[], fun _ member => absurd member List.not_mem_nil, rfl⟩
  obtain ⟨commits, accepted, own⟩ := committed_calls run empty_valid nothing tenantId
  have distinct := (valid tenantId).distinct
  rw [own] at distinct
  obtain ⟨projection, rebuilt, rows⟩ :=
    rebuild_published reads strings accepted (publishedAll_lines distinct)
  rw [← own] at rebuilt
  refine ⟨commits, projection, accepted, own, rebuilt, rows, ?_, ?_⟩
  · intro checkpoint
    obtain ⟨other, known, _, same, lookups⟩ := rebuild_checkpoint rebuilt checkpoint
    exact ⟨other, known, same, lookups⟩
  · intro context command trust mine during outcome after returned
    subst mine
    obtain ⟨answered, grown⟩ := during.preserves (valid.opened _)
    have cases := execute_cases repository context command trust
    rw [returned] at cases
    dsimp only at cases
    rcases cases with ⟨refused, same⟩ | commit
    · refine ⟨fun committed => absurd committed refused, fun _ => ?_⟩
      rcases same with rfl | rfl | rfl
      · exact .inl rfl
      · rw [state_opened]
        exact .inl rfl
      · exact .inr rfl
    · refine ⟨fun _ => ?_, fun other => absurd (by rw [commit.outcome]) other⟩
      have unchanged := publications_eq (valid context.tenantId) (answered context.tenantId)
        (by simpa using grown context.tenantId) commit.head
      have added := committed_publish commit answered (unchanged.trans own)
      have further : Accepted context.tenantId (commits ++ [(context, command)]) := by
        intro other member
        rcases List.mem_append.mp member with old | new
        · exact accepted other old
        · rw [List.mem_singleton.mp new]
          exact ⟨rfl, commit.valid⟩
      have apart := (commit.publish_valid answered context.tenantId).distinct
      rw [added] at apart
      obtain ⟨next, again, entries⟩ :=
        rebuild_published reads strings further (publishedAll_lines apart)
      rw [added]
      exact ⟨next, again, by rw [entries, rows, rowsOf_snoc]⟩

end

/-- A reader whose decoder knows the canonical texts. -/
noncomputable def sampleReader : ProjectionReader where
  loads := utf8Loads
  str
    | .str text => text
    | _ => ""

def nextCommand : CreateIntentionLine :=
  { sampleCommand "write" with
    commandId := ⟨"tenant", "next-command"⟩
    intentionLineId := ⟨"tenant", "next-line"⟩
    revisionId := ⟨"tenant", "next-revision"⟩ }

/-- Two commits, projected with and without a checkpoint. -/
theorem planning_projection_sample :
    let _ := Sha256.hashlib
    let first := (execute Dict.empty sampleContext (sampleCommand "read")
      (sampleTrust Dict.empty)).2
    let after := (execute first sampleContext nextCommand (sampleTrust first)).2
    ∃ projection,
      rebuild sampleReader "tenant" (Repository.state after "tenant").publications none none =
        .ok projection ∧
      projection.rows.entries = [("line", viewOf sampleContext (sampleCommand "read") 1),
        ("next-line", viewOf sampleContext nextCommand 2)] ∧
      ∀ checkpoint, ∃ other,
        rebuild sampleReader "tenant" (Repository.state after "tenant").publications
          (some checkpoint) none = .ok other ∧ other.checkpoint = projection.checkpoint := by
  intro _ first after
  have committed : (execute Dict.empty sampleContext (sampleCommand "read")
      (sampleTrust Dict.empty)).1.disposition = .committed := by
    decide +kernel
  have again : (execute first sampleContext nextCommand (sampleTrust first)).1.disposition =
      .committed := by
    decide +kernel
  have one : Calls Dict.empty first := .execute (.none _) _ _ _ (.none _)
  have two : Calls Dict.empty after := .execute one _ _ _ (.none _)
  obtain ⟨earlier, _, _, own, _, nothing, _, calls⟩ := @planning_projection _ sampleReader
    utf8Loads_reads (fun _ => rfl) _ (.none Dict.empty) "tenant"
  obtain ⟨next, rebuilt, entries⟩ := (calls sampleContext (sampleCommand "read")
    (sampleTrust Dict.empty) rfl (.none _) _ _ rfl).1 committed
  obtain ⟨commits, projection, _, _, known, rows, _, more⟩ := @planning_projection _ sampleReader
    utf8Loads_reads (fun _ => rfl) _ one "tenant"
  obtain ⟨last, projected, both⟩ := (more sampleContext nextCommand (sampleTrust first) rfl
    (.none _) _ _ rfl).1 again
  obtain ⟨_, final, _, _, whole, _, checkpoints, _⟩ := @planning_projection _ sampleReader
    utf8Loads_reads (fun _ => rfl) _ two "tenant"
  obtain rfl := Except.ok.inj (rebuilt.symm.trans known)
  obtain rfl := Except.ok.inj (projected.symm.trans whole)
  have empty : earlier = [] := by
    have length := congrArg List.length own
    rw [publishedAll, List.length_map, List.length_zipIdx] at length
    exact List.length_eq_zero_iff.mp length.symm
  rw [empty] at nothing entries
  rw [nothing] at entries
  have length : commits.length = 1 := by
    have same := congrArg List.length (rows.symm.trans entries)
    simpa [rowsOf] using same
  rw [entries, length] at both
  refine ⟨last, projected, both, fun checkpoint => ?_⟩
  obtain ⟨other, read, same, _⟩ := checkpoints checkpoint
  exact ⟨other, read, same⟩

end Chiplog.Projections
