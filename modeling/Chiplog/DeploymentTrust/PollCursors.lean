import Chiplog.DeploymentTrust.History

namespace Chiplog.DeploymentTrust

open Chiplog.Data

/-! Poll cursors over the whole history of a journal.

The aggregate keeps the latest authorized page of a source, so it refuses that page again
and no older one.  Everything else about the cursors holds in every run; that a page is
authorized once holds in the runs that never name an older page. -/

/-- A committed cursor advance. -/
structure Advance where
  sourceId : String
  cursor : String
  pageId : String
  sequence : Int
deriving DecidableEq

def readAdvance (payload : Json) : Except TrustError Advance := do
  .ok
    { sourceId := ← textAt payload "source_id"
      cursor := ← textAt payload "cursor"
      pageId := ← textAt payload "page_id"
      sequence := ← item payload "cursor_sequence" >>= readInt }

def advanceOf (entry : Entry) : Option Advance :=
  (payloadOf .pollCursorAdvanceAuthorized entry).bind (fun payload =>
    (readAdvance payload).toOption)

/-- The advances of one source, in decision order. -/
def advances (journal : List Entry) (sourceId : String) : List Advance :=
  (journal.filterMap advanceOf).filter (fun advance => advance.sourceId = sourceId)

/-- A recorded page. -/
structure RecordedPage where
  sourceId : String
  pageId : String
  members : List (String × String)
deriving DecidableEq

def readPage (payload : Json) : Except TrustError RecordedPage := do
  .ok
    { sourceId := ← textAt payload "source_id"
      pageId := ← textAt payload "page_id"
      members := ← item payload "members" >>= readMembers }

def pageOf (entry : Entry) : Option RecordedPage :=
  (payloadOf .pollResponsePage entry).bind (fun payload => (readPage payload).toOption)

def pages (journal : List Entry) : List RecordedPage := journal.filterMap pageOf

/-- The source and the cursor of an application. -/
def applicationOf (entry : Entry) : Option (String × String) :=
  (payloadOf .pollCursorApplied entry).bind (fun payload =>
    match textAt payload "source_id", textAt payload "cursor" with
    | .ok sourceId, .ok cursor => some (sourceId, cursor)
    | _, _ => none)

/-- The cursors of a source are numbered from one without a gap. -/
def Numbered (journal : List Entry) : Prop :=
  ∀ sourceId, (advances journal sourceId).map Advance.sequence =
    (List.range (advances journal sourceId).length).map (fun index : Nat => (index : Int) + 1)

/-- A page of a source authorizes one cursor. -/
def AuthorizedOnce (journal : List Entry) : Prop :=
  ∀ sourceId, ((advances journal sourceId).map Advance.pageId).Nodup

/-- Every advance names a page recorded before it, with no member held. -/
def Disposed : List Entry → Prop :=
  HashChain.AtEach fun front entry => ∀ advance, advanceOf entry = some advance →
    ∃ page ∈ pages front, page.sourceId = advance.sourceId ∧ page.pageId = advance.pageId ∧
      ∀ member ∈ page.members, member.2 ≠ "HELD"

/-- Every application applies the cursor of the latest advance before it. -/
def AppliesLatest : List Entry → Prop :=
  HashChain.AtEach fun front entry => ∀ sourceId cursor,
    applicationOf entry = some (sourceId, cursor) →
      (advances front sourceId).getLast?.map Advance.cursor = some cursor

/-- A poll state that stands at the last of these advances. -/
structure Follows (state : PollCursorState) (advances : List Advance) : Prop where
  sequence : state.authorizedSequence = advances.length
  cursor : state.authorizedCursor = advances.getLast?.map Advance.cursor
  page : state.authorizedPageId = advances.getLast?.map Advance.pageId

/-- The state of a source, polled or not. -/
def polled (authority : Authority) (sourceId : String) : PollCursorState :=
  (authority.poll.get? sourceId).getD (.unpolled sourceId)

/-- The history of the cursors up to a decision, and the authority beside it. -/
structure PollHistory (journal : List Entry) (authority : Authority) : Prop where
  follows : ∀ sourceId, Follows (polled authority sourceId) (advances journal sourceId)
  recorded : ∀ sourceId pageId page, authority.pollPages.get? (sourceId, pageId) = some page →
    ⟨sourceId, pageId, page.members⟩ ∈ pages journal
  numbered : Numbered journal
  disposed : Disposed journal
  applies : AppliesLatest journal

/-! Splitting at the last entry. -/

theorem advances_snoc (journal : List Entry) (entry : Entry) (sourceId : String) :
    advances (journal ++ [entry]) sourceId = advances journal sourceId ++
      (advanceOf entry).toList.filter (fun advance => advance.sourceId = sourceId) := by
  unfold advances
  rw [List.filterMap_append, List.filter_append]
  cases known : advanceOf entry with
  | none => simp [known]
  | some advance => simp [known]

theorem advances_keep {journal : List Entry} {entry : Entry} (none : advanceOf entry = none)
    (sourceId : String) : advances (journal ++ [entry]) sourceId = advances journal sourceId := by
  rw [advances_snoc, none]
  exact List.append_nil _

theorem pages_snoc (journal : List Entry) (entry : Entry) :
    pages (journal ++ [entry]) = pages journal ++ (pageOf entry).toList := by
  unfold pages
  rw [List.filterMap_append]
  cases known : pageOf entry with
  | none => simp [known]
  | some page => simp [known]

/-! The three operations. -/

theorem advance_decides {sourceId cursor pageId : String} {cursorSequence : Int}
    {state : PollCursorState} {kind : Kind} {payload : List (String × Json)}
    {settle : String → Service → Service × String}
    (planned : authorizePollCursor.advance sourceId cursor pageId cursorSequence state =
      .ok (.decides kind payload settle)) :
    state.authorizedPageId ≠ some pageId ∧ cursorSequence = state.authorizedSequence + 1 ∧
    payload = [("source_id", toJson sourceId), ("cursor", toJson cursor),
      ("page_id", toJson pageId), ("cursor_sequence", toJson cursorSequence)] ∧
    ∀ decision before, (settle decision before).2 = decision ∧
      (settle decision before).1.poll = before.poll.set sourceId
        { state with
          authorizedCursor := some cursor
          authorizedPageId := some pageId
          authorizedSequence := cursorSequence
          authorizationDecisionId := some decision } := by
  obtain ⟨_, unrepeated, planned⟩ := bind_ok.mp planned
  obtain ⟨_, monotonic, planned⟩ := bind_ok.mp planned
  cases planned
  exact ⟨raiseIf_ok.mp unrepeated, not_not.mp (raiseIf_ok.mp monotonic), rfl,
    fun _ _ => ⟨rfl, rfl⟩⟩

theorem authorizePollCursor_decides {service : Service} {sourceId cursor pageId : String}
    {cursorSequence : Int} {kind : Kind} {payload : List (String × Json)}
    {settle : String → Service → Service × String}
    (planned : authorizePollCursor service sourceId cursor pageId cursorSequence =
      .ok (.decides kind payload settle)) :
    (∃ page, service.pollPages.get? (sourceId, pageId) = some page ∧
      ∀ member ∈ page.members, member.2 ≠ "HELD") ∧
    authorizePollCursor.advance sourceId cursor pageId cursorSequence (polled service.toAuthority sourceId) =
      .ok (.decides kind payload settle) := by
  obtain ⟨_, _, planned⟩ := bind_ok.mp planned
  obtain ⟨_, _, planned⟩ := bind_ok.mp planned
  split at planned
  · cases planned
  · rename_i page held
    obtain ⟨_, terminal, planned⟩ := bind_ok.mp planned
    have terminal := raiseIf_ok.mp terminal
    refine ⟨⟨page, held, fun member inside isHeld => terminal ⟨member, inside, isHeld⟩⟩, ?_⟩
    dsimp only at planned
    split at planned
    · split at planned
      · cases planned
      · exact planned
    · exact planned

theorem applyPollCursor_decides {service : Service} {sourceId cursor : String} {kind : Kind}
    {payload : List (String × Json)} {settle : String → Service → Service × String}
    (planned : applyPollCursor service sourceId cursor = .ok (.decides kind payload settle)) :
    (polled service.toAuthority sourceId).authorizedCursor = some cursor ∧
    payload = [("source_id", toJson sourceId), ("cursor", toJson cursor),
      ("page_id", toJson (polled service.toAuthority sourceId).authorizedPageId)] ∧
    ∀ decision before, (settle decision before).2 = decision ∧
      (settle decision before).1.poll = before.poll.set sourceId
        { polled service.toAuthority sourceId with
          appliedCursor := some cursor, applicationDecisionId := some decision } := by
  unfold applyPollCursor at planned
  unfold polled
  split at planned
  · cases planned
  · rename_i state known
    rw [known, Option.getD_some]
    obtain ⟨_, authorized, planned⟩ := bind_ok.mp planned
    have authorized := not_not.mp (raiseIf_ok.mp authorized)
    split at planned
    · split at planned
      · cases planned
      · cases planned
        exact ⟨authorized, rfl, fun _ _ => ⟨rfl, rfl⟩⟩
    · cases planned
      exact ⟨authorized, rfl, fun _ _ => ⟨rfl, rfl⟩⟩

theorem recordPollResponsePage_decides [Hashlib] [PageReader] {service : Service}
    {report : PageReport} {kind : Kind} {payload : List (String × Json)}
    {settle : String → Service → Service × String}
    (planned : recordPollResponsePage service report = .ok (.decides kind payload settle)) :
    payload = [("source_id", toJson report.sourceId), ("source_head", toJson report.sourceHead),
      ("page_id", toJson report.pageId), ("raw_digest", toJson (sha256 report.rawPage).text),
      ("members", toJson report.memberDispositions)] ∧
    ∀ decision before, (settle decision before).2 = decision ∧
      (settle decision before).1.pollPages =
        before.pollPages.set (report.sourceId, report.pageId)
          ⟨(sha256 report.rawPage).text, report.memberDispositions, decision⟩ := by
  iterate 4 obtain ⟨_, _, planned⟩ := bind_ok.mp planned
  split at planned
  · cases planned
  · obtain ⟨_, _, planned⟩ := bind_ok.mp planned
    obtain ⟨_, _, planned⟩ := bind_ok.mp planned
    split at planned
    · split at planned
      · cases planned
      · cases planned
    · cases planned
      exact ⟨rfl, fun _ _ => ⟨rfl, rfl⟩⟩

theorem polled_set {before after : Authority} {sourceId : String} {state : PollCursorState}
    (changed : after.poll = before.poll.set sourceId state) (other : String) :
    polled after other = if other = sourceId then state else polled before other := by
  unfold polled
  rw [changed, Dict.get?_set]
  split <;> rfl

/-- A page that is neither the latest authorized nor an earlier one is a new one. -/
theorem fresh_page {advances : List Advance} {pageId : String}
    (latest : advances.getLast?.map Advance.pageId ≠ some pageId)
    (earlier : pageId ∉ advances.dropLast.map Advance.pageId) :
    pageId ∉ advances.map Advance.pageId := by
  intro member
  obtain ⟨advance, inside, rfl⟩ := List.mem_map.mp member
  have nonempty : advances ≠ [] := List.ne_nil_of_mem inside
  rw [← List.dropLast_append_getLast nonempty] at inside
  rcases List.mem_append.mp inside with before | last
  · exact earlier (List.mem_map_of_mem before)
  · apply latest
    rw [List.getLast?_eq_some_getLast nonempty, Option.map_some, List.mem_singleton.mp last]

section

variable [Hashlib] {journal : List Entry}

theorem advanceOf_other {kind : Kind} {payload : List (String × Json)}
    (other : kind ≠ .pollCursorAdvanceAuthorized) :
    advanceOf (decisionEntry journal kind payload) = none := by
  rw [advanceOf, payloadOf_decisionEntry, if_neg other]
  rfl

theorem pageOf_other {kind : Kind} {payload : List (String × Json)}
    (other : kind ≠ .pollResponsePage) : pageOf (decisionEntry journal kind payload) = none := by
  rw [pageOf, payloadOf_decisionEntry, if_neg other]
  rfl

theorem applicationOf_other {kind : Kind}
    {payload : List (String × Json)} (other : kind ≠ .pollCursorApplied) :
    applicationOf (decisionEntry journal kind payload) = none := by
  rw [applicationOf, payloadOf_decisionEntry, if_neg other]
  rfl

/-- What an authorization records. -/
theorem advanceOf_authorized (journal : List Entry) (sourceId cursor pageId : String)
    (cursorSequence : Int) :
    advanceOf (decisionEntry journal .pollCursorAdvanceAuthorized
      [("source_id", toJson sourceId), ("cursor", toJson cursor), ("page_id", toJson pageId),
        ("cursor_sequence", toJson cursorSequence)]) =
      some ⟨sourceId, cursor, pageId, cursorSequence⟩ := by
  simp [advanceOf, payloadOf_decisionEntry, readAdvance, Except.toOption]

theorem applicationOf_applied (journal : List Entry) (sourceId cursor : String) (page : Json) :
    applicationOf (decisionEntry journal .pollCursorApplied
      [("source_id", toJson sourceId), ("cursor", toJson cursor), ("page_id", page)]) =
      some (sourceId, cursor) := by
  simp [applicationOf, payloadOf_decisionEntry]

theorem pageOf_recorded (journal : List Entry) (sourceId sourceHead pageId rawDigest : String)
    (members : List (String × String)) :
    pageOf (decisionEntry journal .pollResponsePage
      [("source_id", toJson sourceId), ("source_head", toJson sourceHead),
        ("page_id", toJson pageId), ("raw_digest", toJson rawDigest),
        ("members", toJson members)]) = some ⟨sourceId, pageId, members⟩ := by
  simp [pageOf, payloadOf_decisionEntry, readPage, Except.toOption]

/-! One decision more. -/

variable {journal : List Entry} {before after : Authority}

/-- A decision that advances no cursor, records no page and applies no cursor. -/
theorem PollHistory.other {kind : Kind} {payload : List (String × Json)}
    (history : PollHistory journal before) (leaves : Leaves kind before after)
    (advances : kind ≠ .pollCursorAdvanceAuthorized) (applied : kind ≠ .pollCursorApplied)
    (recorded : kind ≠ .pollResponsePage) :
    PollHistory (journal ++ [decisionEntry journal kind payload]) after := by
  have noAdvance := @advanceOf_other _ journal kind payload advances
  have noPage := @pageOf_other _ journal kind payload recorded
  have noApplication := @applicationOf_other _ journal kind payload applied
  constructor
  case follows =>
    intro sourceId
    have same : polled after sourceId = polled before sourceId := by
      unfold polled
      rw [leaves.poll advances applied]
    rw [same, advances_keep noAdvance]
    exact history.follows sourceId
  case recorded =>
    intro sourceId pageId page held
    rw [leaves.pollPages recorded] at held
    rw [pages_snoc]
    exact List.mem_append_left _ (history.recorded sourceId pageId page held)
  case numbered =>
    intro sourceId
    rw [advances_keep noAdvance]
    exact history.numbered sourceId
  case disposed =>
    apply history.disposed.snoc
    intro advance impossible
    rw [noAdvance] at impossible
    cases impossible
  case applies =>
    apply history.applies.snoc
    intro sourceId cursor impossible
    rw [noApplication] at impossible
    cases impossible

/-- A recorded page. -/
theorem PollHistory.page {sourceId sourceHead pageId rawDigest decision : String}
    {members : List (String × String)} (history : PollHistory journal before)
    (poll : after.poll = before.poll)
    (changed : after.pollPages =
      before.pollPages.set (sourceId, pageId) ⟨rawDigest, members, decision⟩) :
    PollHistory (journal ++ [decisionEntry journal .pollResponsePage
      [("source_id", toJson sourceId), ("source_head", toJson sourceHead),
        ("page_id", toJson pageId), ("raw_digest", toJson rawDigest),
        ("members", toJson members)]]) after := by
  constructor
  case follows =>
    intro other
    have same : polled after other = polled before other := by
      unfold polled
      rw [poll]
    rw [same, advances_keep (advanceOf_other (by decide))]
    exact history.follows other
  case recorded =>
    intro otherSource otherPage page held
    rw [pages_snoc, pageOf_recorded]
    rw [changed, Dict.get?_set] at held
    split at held
    · rename_i same
      cases same
      cases held
      exact List.mem_append_right _ List.mem_cons_self
    · exact List.mem_append_left _ (history.recorded otherSource otherPage page held)
  case numbered =>
    intro other
    rw [advances_keep (advanceOf_other (by decide))]
    exact history.numbered other
  case disposed =>
    apply history.disposed.snoc
    intro advance impossible
    rw [advanceOf_other (by decide)] at impossible
    cases impossible
  case applies =>
    apply history.applies.snoc
    intro other cursor impossible
    rw [applicationOf_other (by decide)] at impossible
    cases impossible

/-- An applied cursor. -/
theorem PollHistory.applied {sourceId cursor decision : String} {page : Json}
    (history : PollHistory journal before)
    (authorized : (polled before sourceId).authorizedCursor = some cursor)
    (pollPages : after.pollPages = before.pollPages)
    (changed : after.poll = before.poll.set sourceId
      { polled before sourceId with
        appliedCursor := some cursor, applicationDecisionId := some decision }) :
    PollHistory (journal ++ [decisionEntry journal .pollCursorApplied
      [("source_id", toJson sourceId), ("cursor", toJson cursor), ("page_id", page)]]) after := by
  constructor
  case follows =>
    intro other
    rw [polled_set changed, advances_keep (advanceOf_other (by decide))]
    split
    · rename_i same
      rw [same]
      exact ⟨(history.follows sourceId).sequence, (history.follows sourceId).cursor,
        (history.follows sourceId).page⟩
    · exact history.follows other
  case recorded =>
    intro otherSource otherPage page held
    rw [pollPages] at held
    rw [pages_snoc]
    exact List.mem_append_left _ (history.recorded otherSource otherPage page held)
  case numbered =>
    intro other
    rw [advances_keep (advanceOf_other (by decide))]
    exact history.numbered other
  case disposed =>
    apply history.disposed.snoc
    intro advance impossible
    rw [advanceOf_other (by decide)] at impossible
    cases impossible
  case applies =>
    apply history.applies.snoc
    intro other otherCursor isApplied
    rw [applicationOf_applied] at isApplied
    cases isApplied
    rw [← (history.follows sourceId).cursor, authorized]

/-- An authorized cursor. -/
theorem PollHistory.authorized {sourceId cursor pageId decision : String} {cursorSequence : Int}
    (history : PollHistory journal before)
    (disposed : ∃ page, before.pollPages.get? (sourceId, pageId) = some page ∧
      ∀ member ∈ page.members, member.2 ≠ "HELD")
    (monotonic : cursorSequence = (polled before sourceId).authorizedSequence + 1)
    (pollPages : after.pollPages = before.pollPages)
    (changed : after.poll = before.poll.set sourceId
      { polled before sourceId with
        authorizedCursor := some cursor
        authorizedPageId := some pageId
        authorizedSequence := cursorSequence
        authorizationDecisionId := some decision }) :
    PollHistory (journal ++ [decisionEntry journal .pollCursorAdvanceAuthorized
      [("source_id", toJson sourceId), ("cursor", toJson cursor), ("page_id", toJson pageId),
        ("cursor_sequence", toJson cursorSequence)]]) after := by
  have sequence := (history.follows sourceId).sequence
  rw [sequence] at monotonic
  have extended (other : String) : advances (journal ++ [decisionEntry journal
      .pollCursorAdvanceAuthorized [("source_id", toJson sourceId), ("cursor", toJson cursor),
        ("page_id", toJson pageId), ("cursor_sequence", toJson cursorSequence)]]) other =
      if other = sourceId then
        advances journal sourceId ++ [⟨sourceId, cursor, pageId, cursorSequence⟩]
      else advances journal other := by
    rw [advances_snoc, advanceOf_authorized]
    by_cases same : other = sourceId
    · simp [same]
    · simp [same, Ne.symm same]
  constructor
  case follows =>
    intro other
    rw [polled_set changed, extended]
    split
    · constructor
      · simp [monotonic]
      · simp
      · simp
    · exact history.follows other
  case recorded =>
    intro otherSource otherPage page held
    rw [pollPages] at held
    rw [pages_snoc]
    exact List.mem_append_left _ (history.recorded otherSource otherPage page held)
  case numbered =>
    intro other
    rw [extended]
    split
    · rw [List.map_append, history.numbered sourceId, List.length_append, List.length_singleton,
        List.range_succ, List.map_append, monotonic]
      rfl
    · exact history.numbered other
  case disposed =>
    apply history.disposed.snoc
    intro advance isAdvance
    rw [advanceOf_authorized] at isAdvance
    cases isAdvance
    obtain ⟨page, held, terminal⟩ := disposed
    exact ⟨_, history.recorded sourceId pageId page held, rfl, rfl, terminal⟩
  case applies =>
    apply history.applies.snoc
    intro other otherCursor impossible
    rw [applicationOf_other (by decide)] at impossible
    cases impossible

variable [PageReader]

/-- Every history is one of the cursors: recovery changes nothing about it. -/
theorem Decided.pollHistory {rows : List Row} {authority : Authority}
    (history : Decided journal rows authority) : PollHistory journal authority := by
  induction history with
  | empty =>
      constructor
      case follows => exact fun _ => ⟨rfl, rfl, rfl⟩
      case recorded =>
        intro _ _ _ impossible
        cases impossible
      case numbered => exact fun _ => rfl
      case disposed => exact .nil
      case applies => exact .nil
  | @decide journal rows service operation kind payload settle before planned ih =>
      obtain ⟨isKind, settles⟩ := Operation.plan_sound planned
      have leaves := (settles (decisionEntry journal kind payload).id).leaves
      cases operation with
      | authorizePollCursor sourceId cursor pageId cursorSequence =>
          obtain ⟨settle, isPlan, rfl⟩ := void_decides planned
          obtain ⟨disposed, advanced⟩ := authorizePollCursor_decides isPlan
          obtain ⟨_, monotonic, rfl, changed⟩ := advance_decides advanced
          obtain rfl : kind = .pollCursorAdvanceAuthorized := isKind
          exact ih.authorized disposed monotonic (leaves.pollPages (by decide))
            (changed _ _).2
      | applyPollCursor sourceId cursor =>
          obtain ⟨settle, isPlan, rfl⟩ := void_decides planned
          obtain ⟨authorized, rfl, changed⟩ := applyPollCursor_decides isPlan
          obtain rfl : kind = .pollCursorApplied := isKind
          exact ih.applied authorized (leaves.pollPages (by decide)) (changed _ _).2
      | recordPollResponsePage report =>
          obtain ⟨settle, isPlan, rfl⟩ := void_decides planned
          obtain ⟨rfl, changed⟩ := recordPollResponsePage_decides isPlan
          obtain rfl : kind = .pollResponsePage := isKind
          exact ih.page (leaves.poll (by decide) (by decide)) (changed _ _).2
      | _ =>
          cases isKind
          exact ih.other leaves nofun nofun nofun

/-- The event names no page of the source that was authorized before the latest. -/
def FreshPage (world : World) : Event → Prop
  | .call (.authorizePollCursor sourceId _ pageId _)
  | .interrupt (.authorizePollCursor sourceId _ pageId _) =>
      pageId ∉ ((advances world.ports.journal sourceId).dropLast).map Advance.pageId
  | _ => True

theorem Step.authorizedOnce {before after : World} {event : Event}
    (step : Step before event after) (consistent : before.Consistent)
    (fresh : FreshPage before event) (once : AuthorizedOnce before.ports.journal) :
    AuthorizedOnce after.ports.journal := by
  rcases step.journal_cases with same |
    ⟨service, operation, kind, payload, settle, live, isEvent, planned, grown⟩
  · rw [same]
    exact once
  · intro other
    rw [grown]
    obtain ⟨isKind, _⟩ := Operation.plan_sound planned
    by_cases authorizes : kind = .pollCursorAdvanceAuthorized
    · subst authorizes
      cases operation with
      | authorizePollCursor sourceId cursor pageId cursorSequence =>
          obtain ⟨rows, authority, history, _, agrees⟩ := consistent
          obtain ⟨settle, isPlan, rfl⟩ := void_decides planned
          obtain ⟨_, advanced⟩ := authorizePollCursor_decides isPlan
          obtain ⟨latest, _, rfl, _⟩ := advance_decides advanced
          rw [(agrees service live).authority_eq,
            (history.pollHistory.follows sourceId).page] at latest
          have earlier : pageId ∉ ((advances before.ports.journal sourceId).dropLast).map
              Advance.pageId := by
            rcases isEvent with rfl | rfl
            · exact fresh
            · exact fresh
          rw [advances_snoc, advanceOf_authorized]
          by_cases same : other = sourceId
          · subst same
            have new := fresh_page latest earlier
            simp only [Option.toList_some, decide_true, List.filter_cons_of_pos,
              List.filter_nil, List.map_append, List.map_cons, List.map_nil]
            apply List.nodup_append.mpr ⟨once other, List.nodup_singleton _, ?_⟩
            intro page member _ isNew repeated
            rw [repeated, List.mem_singleton.mp isNew] at member
            exact new member
          · simp only [Option.toList_some, Ne.symm same, decide_false,
              Bool.false_eq_true, not_false_eq_true, List.filter_cons_of_neg, List.filter_nil,
              List.append_nil]
            exact once other
      | _ => cases isKind
    · rw [advances_keep (advanceOf_other authorizes)]
      exact once other

/-- In every run the cursors of a source count up from one, each for a page recorded with no
member held, and applications apply the latest.  In a run that never names an older
authorized page again, each page authorizes once. -/
theorem poll_cursors_advance (configuration : Configuration) :
    (∀ world, Run anyEvent (.initial configuration) world → CollisionFree world.ports.journal →
      Numbered world.ports.journal ∧ Disposed world.ports.journal ∧
        AppliesLatest world.ports.journal) ∧
    ∀ world, Run FreshPage (.initial configuration) world → CollisionFree world.ports.journal →
      Numbered world.ports.journal ∧ AuthorizedOnce world.ports.journal ∧
        Disposed world.ports.journal ∧ AppliesLatest world.ports.journal := by
  have always (world : World) (run : Run anyEvent (.initial configuration) world)
      (free : CollisionFree world.ports.journal) : Numbered world.ports.journal ∧
        Disposed world.ports.journal ∧ AppliesLatest world.ports.journal := by
    obtain ⟨_, _, history, _, _⟩ := run.consistent (initial_consistent configuration) free
    have cursors := history.pollHistory
    exact ⟨cursors.numbered, cursors.disposed, cursors.applies⟩
  refine ⟨always, ?_⟩
  intro world run free
  obtain ⟨numbered, disposed, applies⟩ :=
    always world (run.mono (fun before event _ => anyEvent_holds before event)) free
  refine ⟨numbered, ?_, disposed, applies⟩
  clear numbered disposed applies
  induction run with
  | start => exact fun _ => List.nodup_nil
  | @step before after event run fresh step ih =>
      obtain ⟨more, extended⟩ := step.journal_prefix
      have earlier : CollisionFree before.ports.journal := CollisionFree.left (extended ▸ free)
      have consistent := run.consistent (initial_consistent configuration) earlier
      exact step.authorizedOnce consistent fresh (ih earlier)

/-! Runs over the recorded pages of one source. -/

section Polling

variable {allowed : World → Event → Prop} {start : World} {service : Service} {ports : Ports}
  {pageIds : List String} {pageId : String}

omit [Hashlib] [PageReader] in
theorem active_required (active : service.state.map CurrentDatabaseState.phase = some .active) :
    ∃ state, service.requireActive = .ok state := by
  obtain ⟨state, known, phase⟩ := Option.map_eq_some_iff.mp active
  exact ⟨state, requireActive_ok.mpr ⟨known, phase⟩⟩

/-- A registered source and its pages, which were recorded with no member held. -/
structure Polls (service : Service) (pageIds : List String) : Prop where
  active : service.state.map CurrentDatabaseState.phase = some .active
  known : ∃ head, service.sources.get? "mail" = some ⟨"mail", head, false⟩
  recorded : ∀ pageId ∈ pageIds, ∃ page, service.pollPages.get? ("mail", pageId) = some page ∧
    ¬ ∃ member ∈ page.members, member.2 = "HELD"
  others : ∀ pageId, pageId ∉ pageIds → service.pollPages.get? ("mail", pageId) = none

/-- Every call but that of a cursor is allowed. -/
def AllowsPages (allowed : World → Event → Prop) : Prop :=
  ∀ world operation, (∀ sourceId cursor pageId cursorSequence,
    operation ≠ .authorizePollCursor sourceId cursor pageId cursorSequence) →
      allowed world (.call operation)

theorem exists_registered (allows : AllowsPages allowed) :
    ∃ service ports, Run allowed (.initial trustedTenant) ⟨some service, ports⟩ ∧
      Polls service [] ∧ service.poll = .empty ∧ advances ports.journal "mail" = [] ∧
      ports.journal.length = 3 := by
  obtain ⟨service, ports, _, run, authority, _, _, _, state, first, journal⟩ :=
    exists_bootstrapped _ trustedTenant "tenant-1" "database-1" (bootstrapWith "recovery")
      (fun world => allows world _ (by simp)) (fun world => allows world _ (by simp)) rfl rfl
  have active : service.state.map CurrentDatabaseState.phase = some .active := by
    rw [state]
    rfl
  obtain ⟨_, required⟩ := active_required active
  have unknown : service.sources.get? "mail" = none := by
    rw [authority]
    rfl
  obtain ⟨after, grown, run, phase, registered, extended⟩ : ∃ after grown,
      Run allowed (.initial trustedTenant) ⟨some after, grown⟩ ∧
      after.state.map CurrentDatabaseState.phase = some .active ∧
      (∃ head, after.toAuthority = { service.toAuthority with
        sources := service.sources.set "mail" ⟨"mail", head, false⟩ }) ∧
      ∃ payload, grown.journal =
        ports.journal ++ [decisionEntry ports.journal .registerEvidenceSource payload] := by
    obtain ⟨grown, extended, run⟩ := run.decided (allows _ _ (by simp))
      (show Operation.plan service ports.journal (.registerEvidenceSource "mail") =
        .ok (.decides .registerEvidenceSource _ _) by
          simp only [Operation.plan, registerEvidenceSource, required, unknown, ok_bind,
            Option.isSome_none, Bool.false_eq_true, raiseIf_neg, not_false_eq_true, Except.map,
            Outcome.void]
          rfl)
    exact ⟨_, grown, run, (materializedAt_phase _ _).trans active, ⟨_, rfl⟩, _, extended⟩
  obtain ⟨head, registered⟩ := registered
  obtain ⟨_, extended⟩ := extended
  refine ⟨after, grown, run, ⟨phase, ⟨head, ?_⟩, by simp, ?_⟩, ?_, ?_, ?_⟩
  · rw [registered, Dict.get?_set, if_pos rfl]
  · intro pageId _
    rw [registered, authority]
    rfl
  · rw [registered, authority]
    rfl
  · have empty : advances ([] : List Entry) "mail" = [] := rfl
    have listed : ports.journal = [] ++ [decisionEntry [] .initialization first] ++
        [decisionEntry [decisionEntry [] .initialization first] .bootstrap
          (bootstrapWith "recovery").payload] := journal
    rw [extended, advances_keep (advanceOf_other (by decide)), listed,
      advances_keep (advanceOf_other (by decide)), advances_keep (advanceOf_other (by decide)), empty]
  · rw [extended, journal]
    rfl

/-- A page of one disposed member. -/
theorem Run.records {rawPage : Bytes} {member : String}
    (run : Run allowed start ⟨some service, ports⟩) (allows : AllowsPages allowed)
    (polls : Polls service pageIds) (read : PageReader.members? rawPage = some [member])
    (fresh : (sha256 rawPage).text ∉ pageIds) :
    ∃ after grown, Run allowed start ⟨some after, grown⟩ ∧
      Polls after (pageIds ++ [(sha256 rawPage).text]) ∧ after.poll = service.poll ∧
      advances grown.journal "mail" = advances ports.journal "mail" ∧
      grown.journal.length = ports.journal.length + 1 := by
  obtain ⟨_, required⟩ := active_required polls.active
  obtain ⟨sourceHead, known⟩ := polls.known
  have unrecorded := polls.others _ fresh
  obtain ⟨after, grown, run, phase, recorded, journal⟩ : ∃ after grown,
      Run allowed start ⟨some after, grown⟩ ∧
      after.state.map CurrentDatabaseState.phase = some .active ∧
      (∃ decision, after.toAuthority = { service.toAuthority with
        pollPages := service.pollPages.set ("mail", (sha256 rawPage).text)
          ⟨(sha256 rawPage).text, [(member, "PUBLISHED")], decision⟩ }) ∧
      ∃ payload, grown.journal =
        ports.journal ++ [decisionEntry ports.journal .pollResponsePage payload] := by
    obtain ⟨grown, journal, run⟩ := run.decided (allows _ _ (by simp))
      (show Operation.plan service ports.journal (.recordPollResponsePage
        ⟨"mail", sourceHead, (sha256 rawPage).text, rawPage, [(member, "PUBLISHED")]⟩) =
          .ok (.decides .pollResponsePage _ _) by
            simp only [Operation.plan, recordPollResponsePage, required, known, read, unrecorded,
              ok_bind]
            simp [dispositions, Except.map, Outcome.void]
            exact ⟨rfl, rfl⟩)
    exact ⟨_, grown, run, (materializedAt_phase _ _).trans polls.active, ⟨_, rfl⟩, _, journal⟩
  obtain ⟨decision, recorded⟩ := recorded
  obtain ⟨_, journal⟩ := journal
  refine ⟨after, grown, run, ⟨phase, ⟨sourceHead, ?_⟩, ?_, ?_⟩, ?_, ?_, ?_⟩
  · rw [recorded]
    exact known
  · intro pageId inside
    by_cases own : pageId = (sha256 rawPage).text
    · refine ⟨⟨(sha256 rawPage).text, [(member, "PUBLISHED")], decision⟩, ?_, by simp⟩
      rw [recorded, own, Dict.get?_set, if_pos rfl]
    · have earlier : pageId ∈ pageIds := by simpa [own] using inside
      rw [recorded, Dict.get?_set, if_neg (by simp [own])]
      exact polls.recorded pageId earlier
  · intro pageId outside
    rw [List.mem_append, List.mem_singleton, not_or] at outside
    rw [recorded, Dict.get?_set, if_neg (by simp [outside.2])]
    exact polls.others pageId outside.1
  · rw [recorded]
  · rw [journal, advances_keep (advanceOf_other (by decide))]
  · rw [journal, List.length_append, List.length_singleton]

theorem exists_polls (allows : AllowsPages allowed) {raws : List Bytes}
    (read : ∀ raw ∈ raws, ∃ member, PageReader.members? raw = some [member])
    (distinct : (raws.map fun raw => (sha256 raw).text).Nodup) :
    ∃ service ports, Run allowed (.initial trustedTenant) ⟨some service, ports⟩ ∧
      Polls service (raws.map fun raw => (sha256 raw).text) ∧ service.poll = .empty ∧
      advances ports.journal "mail" = [] ∧ ports.journal.length = 3 + raws.length := by
  induction raws using List.reverseRecOn with
  | nil => exact exists_registered allows
  | append_singleton front raw ih =>
      rw [List.map_append, List.nodup_append] at distinct
      obtain ⟨earlier, _, apart⟩ := distinct
      obtain ⟨service, ports, run, polls, unpolled, none, length⟩ :=
        ih (fun other inside => read other (List.mem_append_left _ inside)) earlier
      obtain ⟨member, shown⟩ := read raw (List.mem_append_right _ List.mem_cons_self)
      obtain ⟨after, grown, run, polls, kept, same, longer⟩ := run.records allows polls shown
        (fun repeated => apart _ repeated _ List.mem_cons_self rfl)
      refine ⟨after, grown, run, ?_, kept.trans unpolled, same.trans none, ?_⟩
      · rw [List.map_append]
        exact polls
      · rw [longer, length, List.length_append, List.length_singleton, Nat.add_assoc]

omit [Hashlib] [PageReader] in
theorem Polls.moved {after : Service} {state : PollCursorState} (polls : Polls service pageIds)
    (phase : after.state.map CurrentDatabaseState.phase = some .active)
    (changed : after.toAuthority = { service.toAuthority with
      poll := service.poll.set "mail" state }) :
    Polls after pageIds ∧ polled after.toAuthority "mail" = state := by
  refine ⟨⟨phase, ?_, ?_, ?_⟩, ?_⟩
  · rw [changed]
    exact polls.known
  · rw [changed]
    exact polls.recorded
  · rw [changed]
    exact polls.others
  · exact (polled_set (congrArg Authority.poll changed) "mail").trans (if_pos rfl)

theorem Run.authorizes (cursor : String) (run : Run allowed start ⟨some service, ports⟩)
    (polls : Polls service pageIds) (inside : pageId ∈ pageIds)
    (other : (polled service.toAuthority "mail").authorizedPageId ≠ some pageId)
    (allows : ∀ cursorSequence, allowed ⟨some service, ports⟩
      (.call (.authorizePollCursor "mail" cursor pageId cursorSequence))) :
    ∃ after grown decision, Run allowed start ⟨some after, grown⟩ ∧ Polls after pageIds ∧
      polled after.toAuthority "mail" = { polled service.toAuthority "mail" with
        authorizedCursor := some cursor
        authorizedPageId := some pageId
        authorizedSequence := (polled service.toAuthority "mail").authorizedSequence + 1
        authorizationDecisionId := some decision } ∧
      (advances grown.journal "mail").map Advance.pageId =
        (advances ports.journal "mail").map Advance.pageId ++ [pageId] ∧
      grown.journal.length = ports.journal.length + 1 := by
  obtain ⟨_, required⟩ := active_required polls.active
  obtain ⟨sourceHead, known⟩ := polls.known
  obtain ⟨page, recorded, disposed⟩ := polls.recorded pageId inside
  have planned : authorizePollCursor service "mail" cursor pageId
      ((polled service.toAuthority "mail").authorizedSequence + 1) =
        authorizePollCursor.advance "mail" cursor pageId
          ((polled service.toAuthority "mail").authorizedSequence + 1)
          (polled service.toAuthority "mail") := by
    simp only [authorizePollCursor, required, known, recorded, ok_bind, raiseIf_neg disposed,
      Option.isNone_some, Bool.false_eq_true, raiseIf_neg, not_false_eq_true]
    split
    · rw [if_neg (fun same => other same.2.1)]
      rfl
    · rfl
  obtain ⟨after, grown, decision, run, phase, authorized, journal⟩ : ∃ after grown decision,
      Run allowed start ⟨some after, grown⟩ ∧
      after.state.map CurrentDatabaseState.phase = some .active ∧
      after.toAuthority = { service.toAuthority with
        poll := service.poll.set "mail" { polled service.toAuthority "mail" with
          authorizedCursor := some cursor
          authorizedPageId := some pageId
          authorizedSequence := (polled service.toAuthority "mail").authorizedSequence + 1
          authorizationDecisionId := some decision } } ∧
      grown.journal = ports.journal ++ [decisionEntry ports.journal .pollCursorAdvanceAuthorized _] := by
    obtain ⟨grown, journal, run⟩ := run.decided (allows _)
      (show Operation.plan service ports.journal (.authorizePollCursor "mail" cursor pageId
        ((polled service.toAuthority "mail").authorizedSequence + 1)) =
          .ok (.decides .pollCursorAdvanceAuthorized _ _) by
            simp only [Operation.plan, planned, authorizePollCursor.advance, raiseIf_neg other,
              ok_bind, ne_eq, not_true_eq_false, not_false_eq_true, raiseIf_neg, Except.map,
              Outcome.void]
            rfl)
    exact ⟨_, grown, _, run, (materializedAt_phase _ _).trans polls.active, rfl, journal⟩
  obtain ⟨polls, moved⟩ := polls.moved phase authorized
  refine ⟨after, grown, decision, run, polls, moved, ?_, ?_⟩
  · rw [journal, advances_snoc, advanceOf_authorized]
    simp
  · rw [journal, List.length_append, List.length_singleton]

/-- Two pages authorize in turn. -/
theorem pages_take_turns (allows : AllowsPages allowed) {raws : List Bytes} {first second : String}
    (read : ∀ raw ∈ raws, ∃ member, PageReader.members? raw = some [member])
    (ids : (raws.map fun raw => (sha256 raw).text) = [first, second]) (apart : first ≠ second)
    (fresh : ∀ world cursor pageId cursorSequence,
      ((advances world.ports.journal "mail").map Advance.pageId).length ≤ 1 →
        allowed world (.call (.authorizePollCursor "mail" cursor pageId cursorSequence))) :
    ∃ service ports, Run allowed (.initial trustedTenant) ⟨some service, ports⟩ ∧
      Polls service [first, second] ∧
      (polled service.toAuthority "mail").authorizedPageId = some second ∧
      (advances ports.journal "mail").map Advance.pageId = [first, second] ∧
      ports.journal.length ≤ 16 := by
  obtain ⟨_, _, run, polls, unpolled, none, length⟩ := exists_polls allows read (by simp [ids, apart])
  rw [ids] at polls
  have count : raws.length = 2 := by simpa using congrArg List.length ids
  obtain ⟨_, _, _, run, polls, one, advanced₁, length₁⟩ :=
    run.authorizes "1" polls (show first ∈ _ by simp)
      (by simp [polled, unpolled, PollCursorState.unpolled])
      (fun _ => fresh _ _ _ _ (by simp [none]))
  obtain ⟨service, ports, _, run, polls, two, advanced₂, length₂⟩ :=
    run.authorizes "2" polls (show second ∈ _ by simp) (by simp [one, apart])
      (fun _ => fresh _ _ _ _ (by simp [advanced₁, none]))
  refine ⟨service, ports, run, polls, by rw [two], by simp [advanced₂, advanced₁, none], ?_⟩
  omega

/-- The first page authorizes again. -/
theorem page_authorizes_twice {raws : List Bytes} {first second : String}
    (read : ∀ raw ∈ raws, ∃ member, PageReader.members? raw = some [member])
    (ids : (raws.map fun raw => (sha256 raw).text) = [first, second]) (apart : first ≠ second) :
    ∃ world, Run anyEvent (.initial trustedTenant) world ∧
      ¬ AuthorizedOnce world.ports.journal := by
  obtain ⟨_, _, run, polls, last, advanced, _⟩ := pages_take_turns
    (fun world operation _ => anyEvent_holds world (.call operation)) read ids apart
    (fun _ _ _ _ _ => anyEvent_holds _ _)
  obtain ⟨_, _, _, run, _, _, again, _⟩ := run.authorizes "3" polls (show first ∈ _ by simp)
    (by simp [last, apart.symm]) (fun _ => anyEvent_holds _ _)
  refine ⟨_, run, ?_⟩
  intro once
  have twice := once "mail"
  rw [again, advanced] at twice
  simp at twice

end Polling

end

/-! ### Pages to read -/

/-- A poll page with one member. -/
def samplePage (member : String) : Bytes :=
  utf8 ("\x7b\"members\":[\x7b\"id\":\"" ++ member ++ "\"\x7d]\x7d")

@[reducible] def sampleReader : PageReader := ⟨fun raw =>
  if raw = samplePage "a" then some ["a"]
  else if raw = samplePage "b" then some ["b"]
  else if raw = samplePage "c" then some ["c"] else none⟩

theorem sampleReader_reads : ∀ raw ∈ [samplePage "a", samplePage "b", samplePage "c"],
    ∃ member, sampleReader.members? raw = some [member] := by
  intro raw inside
  simp only [List.mem_cons, List.not_mem_nil, or_false] at inside
  change ∃ member, ite _ _ _ = some [member]
  split
  · exact ⟨_, rfl⟩
  · split
    · exact ⟨_, rfl⟩
    · rcases inside with same | same | same
      · contradiction
      · contradiction
      · exact ⟨_, if_pos same⟩

/-- A page that was authorized before the latest is authorized again. -/
theorem older_page_authorizes :
    letI := Sha256.hashlib
    letI := sampleReader
    ∃ world, Run anyEvent (.initial trustedTenant) world ∧
      ¬ AuthorizedOnce world.ports.journal := by
  let _ := Sha256.hashlib
  let _ := sampleReader
  have apart : (sha256 (samplePage "a")).text ≠ (sha256 (samplePage "b")).text := by
    decide +kernel
  exact page_authorizes_twice
    (fun raw inside => sampleReader_reads raw (List.mem_of_mem_dropLast inside))
    rfl apart

/-- Two pages are authorized in turn under a hash that counts. -/
theorem poll_cursors_take_turns :
    letI := countingHash
    letI := sampleReader
    ∃ world, Run FreshPage (.initial trustedTenant) world ∧
      (advances world.ports.journal "mail").map Advance.pageId =
        [(sha256 (samplePage "a")).text, (sha256 (samplePage "b")).text] ∧
      Numbered world.ports.journal ∧ AuthorizedOnce world.ports.journal ∧
        Disposed world.ports.journal ∧ AppliesLatest world.ports.journal := by
  let _ := countingHash
  let _ := sampleReader
  have apart : (sha256 (samplePage "a")).text ≠ (sha256 (samplePage "b")).text := by
    decide +kernel
  have allows : AllowsPages FreshPage := by
    intro world operation other
    cases operation with
    | authorizePollCursor => exact (other _ _ _ _ rfl).elim
    | _ => trivial
  have fresh : ∀ world cursor pageId cursorSequence,
      ((advances world.ports.journal "mail").map Advance.pageId).length ≤ 1 →
        FreshPage world (.call (.authorizePollCursor "mail" cursor pageId cursorSequence)) := by
    intro world cursor pageId cursorSequence short
    rw [List.length_map] at short
    rw [FreshPage, List.eq_nil_of_length_eq_zero
      (show (advances world.ports.journal "mail").dropLast.length = 0 by simp; omega)]
    simp
  obtain ⟨service, ports, run, _, _, advanced, short⟩ := pages_take_turns allows
    (fun raw inside => sampleReader_reads raw (List.mem_of_mem_dropLast inside)) rfl apart fresh
  exact ⟨_, run, advanced,
    (poll_cursors_advance trustedTenant).2 _ run (counting_free run.chained short)⟩

end Chiplog.DeploymentTrust
