import Chiplog.Composition.EffectDiscovery
import Chiplog.Composition.PostgresCompletion

namespace Chiplog.Composition

open Chiplog.Data Chiplog.Platform Chiplog.Effects

/-! Following the cursors of effect discovery, on one log and on a log that grows. -/

/-- Each SEND of a list is passed over or gives the next item. -/
inductive Scanned (examine : Retained EffectSend → Transaction (Option EffectWork)) :
    List (Retained EffectSend) → List EffectWork → Prop
  | nil : Scanned examine [] []
  | passed {send : Retained EffectSend} {rest : List (Retained EffectSend)}
      {works : List EffectWork} (resolved : examine send = .ok none)
      (later : Scanned examine rest works) : Scanned examine (send :: rest) works
  | listed {send : Retained EffectSend} {rest : List (Retained EffectSend)} {work : EffectWork}
      {works : List EffectWork} (unresolved : examine send = .ok (some work))
      (later : Scanned examine rest works) : Scanned examine (send :: rest) (work :: works)

section Scanning

variable {examine : Retained EffectSend → Transaction (Option EffectWork)}
  {sends : List (Retained EffectSend)} {works : List EffectWork}

theorem Scanned.mem {send : Retained EffectSend} (scanned : Scanned examine sends works)
    (member : send ∈ sends) :
    examine send = .ok none ∨ ∃ work ∈ works, examine send = .ok (some work) := by
  induction scanned with
  | nil => cases member
  | passed resolved _ ih =>
      rcases List.mem_cons.mp member with rfl | later
      · exact .inl resolved
      · exact ih later
  | listed unresolved _ ih =>
      rcases List.mem_cons.mp member with rfl | later
      · exact .inr ⟨_, List.mem_cons_self, unresolved⟩
      · rcases ih later with resolved | ⟨work, inside, examined⟩
        · exact .inl resolved
        · exact .inr ⟨work, List.mem_cons_of_mem _ inside, examined⟩

/-- A scan returns nothing but what it was asked for: it fails on a SEND, it reads all of them
below the limit, or it stops at the SEND that fills the page. -/
theorem scanSends_cases (head : Nat) (limit : ℕ+) (final : Option (Retained EffectSend))
    (sends : List (Retained EffectSend)) (named : ∀ send work, examine send = .ok (some work) →
      ∃ cursor, identity send.2.head = .ok cursor) (items : List EffectWork) :
    (∃ failure, ∃ send ∈ sends, examine send = .error failure ∧
      scanSends head examine limit final sends items = .error failure) ∨
    (∃ works, Scanned examine sends works ∧
      scanSends head examine limit final sends items = .ok ⟨head, items ++ works, false, none⟩) ∨
    ∃ front send rest works cursor, sends = front ++ send :: rest ∧
      Scanned examine (front ++ [send]) works ∧ identity send.2.head = .ok cursor ∧
      scanSends head examine limit final sends items =
        .ok ⟨head, items ++ works, some send ≠ final, some cursor⟩ := by
  induction sends generalizing items with
  | nil => exact .inr (.inl ⟨[], .nil, by rw [scanSends, List.append_nil]⟩)
  | cons send rest ih =>
      cases examined : examine send with
      | error failure =>
          refine .inl ⟨failure, send, List.mem_cons_self, examined, ?_⟩
          rw [scanSends, examined]
          rfl
      | ok found =>
          cases found with
          | none =>
              have skips : scanSends head examine limit final (send :: rest) items =
                  scanSends head examine limit final rest items := by
                rw [scanSends, examined]
                rfl
              rw [skips]
              rcases ih items with ⟨failure, other, member, fails, same⟩ |
                ⟨works, scanned, same⟩ | ⟨front, other, later, works, cursor, rfl, scanned, same⟩
              · exact .inl ⟨failure, other, List.mem_cons_of_mem _ member, fails, same⟩
              · exact .inr (.inl ⟨works, .passed examined scanned, same⟩)
              · exact .inr (.inr ⟨send :: front, other, later, works, cursor, rfl,
                  .passed examined scanned, same⟩)
          | some work =>
              obtain ⟨cursor, heads⟩ := named send work examined
              by_cases full : (items ++ [work]).length = limit
              · refine .inr (.inr ⟨[], send, rest, [work], cursor, rfl, .listed examined .nil,
                  heads, ?_⟩)
                rw [scanSends, examined, ok_bind]
                simp only [if_pos full, heads, ok_bind]
                rfl
              · have goes : scanSends head examine limit final (send :: rest) items =
                    scanSends head examine limit final rest (items ++ [work]) := by
                  rw [scanSends, examined, ok_bind]
                  simp only [if_neg full]
                rw [goes]
                rcases ih (items ++ [work]) with ⟨failure, other, member, fails, same⟩ |
                  ⟨works, scanned, same⟩ |
                  ⟨front, other, later, works, cursor, rfl, scanned, same⟩
                · exact .inl ⟨failure, other, List.mem_cons_of_mem _ member, fails, same⟩
                · refine .inr (.inl ⟨work :: works, .listed examined scanned, ?_⟩)
                  rw [same, List.append_assoc, List.singleton_append]
                · refine .inr (.inr ⟨send :: front, other, later, work :: works, cursor, rfl,
                    .listed examined scanned, ?_⟩)
                  rw [List.append_assoc, List.singleton_append] at same
                  exact same

end Scanning

/-- The cursor of the next call, if the page says that there is more. -/
def nextCall (page : Transaction EffectWorkDiscovery) : Option Identity :=
  match page with
  | .ok discovery => if discovery.hasMore then discovery.nextSend else none
  | .error _ => none

def listedWork (page : Transaction EffectWorkDiscovery) : List EffectWork :=
  match page with
  | .ok discovery => discovery.items
  | .error _ => []

section Following

variable {β : Type} [Content β] [Hashlib] [EffectStores β] {services : EffectServices β}
  {runtime : Runtime} {binding : PostgresEffectsBinding} {peer : String} {scan : EffectWorkScan}
  {user : UserState β}

/-- What a call needs before it looks at a SEND: the current worker, its own scope, and SEND
records that read back. -/
structure Scannable (services : EffectServices β) (runtime : Runtime) (peer : String)
    (scan : EffectWorkScan) (user : UserState β) : Prop where
  actor : runtime.actor services.context peer user = .ok ()
  tenant : scan.tenantId.text = runtime.tenantId
  principal : scan.principalId.text = runtime.principalId
  tools : ∃ tools, rows (EffectSend .tool) runtime user.snapshot none = .ok tools
  actions : ∃ actions, rows (EffectSend .action) runtime user.snapshot none = .ok actions

/-- A call either has all of that, or raises. -/
theorem discover_cases (services : EffectServices β) (runtime : Runtime)
    (binding : PostgresEffectsBinding) (peer : String) (scan : EffectWorkScan) (user : UserState β)
    (cursor : Option Identity) :
    Scannable services runtime peer scan user ∨
      ∃ failure,
        discoverEffectWork services runtime binding peer { scan with afterSend := cursor } user =
          .error failure := by
  cases returned :
      discoverEffectWork services runtime binding peer { scan with afterSend := cursor } user with
  | error failure => exact .inr ⟨failure, rfl⟩
  | ok discovery =>
      simp only [discoverEffectWork, Runtime.snapshotForPeer, bind_ok, pure_ok,
        require_ok] at returned
      obtain ⟨_, ⟨_, current, rfl⟩, _, owned, tools, readTools, actions, readActions, _⟩ := returned
      exact .inl ⟨current, owned.1, owned.2, ⟨tools, readTools⟩, ⟨actions, readActions⟩⟩

/-- The cursor of a call stands behind the SENDs that were passed. -/
def Stands (passed : List (Retained EffectSend)) (cursor : Option Identity) : Prop :=
  cursor.map Identity.text = passed.getLast?.map (fun send => send.2.head)

theorem Scannable.nodup (scannable : Scannable services runtime peer scan user)
    (valid : user.snapshot.Valid) :
    ((retainedSends user.snapshot).map (fun send => send.2.head)).Nodup := by
  obtain ⟨tools, readTools⟩ := scannable.tools
  obtain ⟨actions, readActions⟩ := scannable.actions
  exact retainedSends_nodup valid (sendsRead readTools readActions)

/-- A call scans the SENDs behind its cursor. -/
theorem Scannable.discover {cursor : Option Identity}
    (scannable : Scannable services runtime peer scan user) (valid : user.snapshot.Valid)
    {passed rest : List (Retained EffectSend)} (whole : retainedSends user.snapshot = passed ++ rest)
    (stands : Stands passed cursor) :
    discoverEffectWork services runtime binding peer { scan with afterSend := cursor } user =
      scanSends user.snapshot.head (examine services runtime binding user.snapshot) scan.limit
        rest.getLast? rest [] := by
  have distinct := scannable.nodup valid
  obtain ⟨tools, readTools⟩ := scannable.tools
  obtain ⟨actions, readActions⟩ := scannable.actions
  have ordered := orderedSends_eq valid (sendsRead readTools readActions)
  rw [whole] at distinct
  unfold discoverEffectWork
  dsimp only
  rw [Runtime.snapshotForPeer, scannable.actor, ok_bind, pure_bind,
    require_pos ⟨scannable.tenant, scannable.principal⟩, ok_bind, readTools, ok_bind, readActions,
    ok_bind, ordered, whole, remainingSends_from distinct stands, ok_bind]

/-- What a call does with the SENDs behind its cursor: it raises, or it lists all of them and
ends, or it lists the first ones and its cursor stands behind these. -/
theorem Scannable.page {cursor : Option Identity} (binding : PostgresEffectsBinding)
    (scannable : Scannable services runtime peer scan user) (valid : user.snapshot.Valid)
    {passed rest : List (Retained EffectSend)} (whole : retainedSends user.snapshot = passed ++ rest)
    (stands : Stands passed cursor) :
    (∃ failure, ∃ send ∈ rest, examine services runtime binding user.snapshot send =
        .error failure ∧
      discoverEffectWork services runtime binding peer { scan with afterSend := cursor } user =
        .error failure) ∨
    ∃ discovery,
      discoverEffectWork services runtime binding peer { scan with afterSend := cursor } user =
        .ok discovery ∧
      ((nextCall (.ok discovery) = none ∧
        Scanned (examine services runtime binding user.snapshot) rest discovery.items) ∨
      ∃ front later following, rest = front ++ later ∧ front ≠ [] ∧
        nextCall (.ok discovery) = some following ∧ Stands (passed ++ front) (some following) ∧
        Scanned (examine services runtime binding user.snapshot) front discovery.items) := by
  have named : ∀ send work,
      examine services runtime binding user.snapshot send = .ok (some work) →
        ∃ cursor, identity send.2.head = .ok cursor := by
    intro send work examined
    have sent := (examine_some examined).2.sent.1
    refine ⟨work.send.subjectId, ?_⟩
    rw [identity, dif_pos (sent ▸ work.send.subjectId.nonempty)]
    simp only [← sent]
  have distinct := scannable.nodup valid
  rw [scannable.discover valid whole stands]
  rcases scanSends_cases user.snapshot.head scan.limit rest.getLast? rest named [] with
    failed | ⟨works, scanned, same⟩ | ⟨front, send, later, works, following, split, scanned, heads,
      same⟩
  · exact .inl failed
  · exact .inr ⟨_, same, .inl ⟨rfl, scanned⟩⟩
  · refine .inr ⟨_, same, ?_⟩
    have stops : Stands (passed ++ (front ++ [send])) (some following) := by
      rw [Stands, ← List.append_assoc, List.getLast?_concat, Option.map_some, Option.map_some,
        identity_ok heads]
    cases later with
    | nil =>
        subst split
        refine .inl ⟨?_, scanned⟩
        simp [nextCall]
    | cons after others =>
        refine .inr ⟨front ++ [send], after :: others, following, ?_, by simp, ?_, stops, scanned⟩
        · rw [split, List.append_assoc, List.singleton_append]
        · have more : some send ≠ rest.getLast? := by
            intro last
            rw [split, List.getLast?_append_of_ne_nil _ (List.cons_ne_nil _ _),
              List.getLast?_cons_cons] at last
            have inside := List.mem_of_getLast? last.symm
            rw [whole, split, List.map_append, List.map_append, List.map_cons] at distinct
            have tail := (List.nodup_append.mp (List.nodup_append.mp distinct).2.1).2.1
            exact (List.nodup_cons.mp tail).1 (List.mem_map_of_mem inside)
          simp [nextCall, more]

/-- The calls of one caller: each meets its own state of the log and of the services. -/
def calls (services : Nat → EffectServices β) (runtime : Runtime)
    (binding : PostgresEffectsBinding) (peer : String) (scan : EffectWorkScan)
    (users : Nat → UserState β) (time : Nat) (cursor : Option Identity) :
    Transaction EffectWorkDiscovery :=
  discoverEffectWork (services time) runtime binding peer { scan with afterSend := cursor }
    (users time)

/-- The items are those of the unresolved SENDs, in the order of the SENDs. -/
def Lists (services : EffectServices β) (runtime : Runtime) (binding : PostgresEffectsBinding)
    (snapshot : Snapshot β) (sends : List (Retained EffectSend)) (works : List EffectWork) : Prop :=
  List.Forall₂ (Presents runtime snapshot)
    (sends.filter (fun send => Unresolved services runtime binding snapshot send)) works

theorem Scanned.lists {sends : List (Retained EffectSend)} {works : List EffectWork}
    (scanned : Scanned (examine services runtime binding user.snapshot) sends works) :
    Lists services runtime binding user.snapshot sends works := by
  induction scanned with
  | nil => exact .nil
  | passed resolved _ ih =>
      rw [Lists, List.filter_cons, if_neg (by simpa using examine_none resolved)]
      exact ih
  | listed unresolved _ ih =>
      obtain ⟨due, presents⟩ := examine_some unresolved
      rw [Lists, List.filter_cons, if_pos (decide_eq_true due)]
      exact .cons presents ih

section Fixed

variable {effects : Nat → EffectServices β}

/-- What is left of a fixed log at a cursor. -/
def LeftOf (snapshot : Snapshot β) (_ : Nat) (cursor : Option Identity)
    (left : List (Retained EffectSend)) : Prop :=
  ∃ passed, retainedSends snapshot = passed ++ left ∧ Stands passed cursor

theorem calls_proceed (valid : user.snapshot.Valid)
    (verifies : ∀ time, (effects time).verifyReceipt = (effects 0).verifyReceipt) :
    Pages.Proceeds (calls effects runtime binding peer scan (fun _ => user)) nextCall listedWork
      (fun page => ∃ failure, page = .error failure)
      (Lists (effects 0) runtime binding user.snapshot) (LeftOf user.snapshot) := by
  intro time cursor left due
  obtain ⟨passed, whole, stands⟩ := due
  have same : examine (effects time) runtime binding user.snapshot =
      examine (effects 0) runtime binding user.snapshot :=
    funext fun _ => examine_verify (verifies time)
  rw [calls]
  rcases discover_cases (effects time) runtime binding peer scan user cursor with
    scannable | ⟨failure, failed⟩
  · rcases scannable.page _ valid whole stands with
      ⟨failure, _, _, _, failed⟩ | ⟨discovery, returned, ⟨ends, scanned⟩ |
        ⟨front, later, following, split, nonempty, continued, behind, scanned⟩⟩
    · rw [failed]
      exact .inl ⟨rfl, .inl ⟨failure, rfl⟩⟩
    · rw [returned]
      exact .inl ⟨ends, .inr (same ▸ scanned).lists⟩
    · rw [returned]
      refine .inr ⟨following, front, later, continued, ⟨_, ?_, behind⟩, nonempty, split,
        (same ▸ scanned).lists⟩
      rw [whole, split, List.append_assoc]
  · rw [failed]
    exact .inl ⟨rfl, .inl ⟨failure, rfl⟩⟩

/-- Following the cursors on one log comes to an end, and unless a call raises, the items are
those of all unresolved SENDs. -/
theorem discovery_complete (valid : user.snapshot.Valid)
    (verifies : ∀ time, (effects time).verifyReceipt = (effects 0).verifyReceipt) :
    ∃ pages, Pages (calls effects runtime binding peer scan (fun _ => user)) nextCall 0 none
        pages ∧
      ((∃ page ∈ pages, ∃ failure, page = .error failure) ∨
        Lists (effects 0) runtime binding user.snapshot (retainedSends user.snapshot)
          (pages.flatMap listedWork)) := by
  refine Pages.ends (calls_proceed valid verifies) ?_
    (show LeftOf user.snapshot 0 none (retainedSends user.snapshot) from ⟨[], rfl, rfl⟩)
  intro front later listed others first second
  rw [Lists, List.filter_append]
  exact List.rel_append first second

/-- No call raises where every call may read and every SEND can be examined. -/
theorem discovery_returns (valid : user.snapshot.Valid)
    (verifies : ∀ time, (effects time).verifyReceipt = (effects 0).verifyReceipt)
    (scannable : ∀ time, Scannable (effects time) runtime peer scan user)
    (examines : ∀ send ∈ retainedSends user.snapshot,
      ∃ found, examine (effects 0) runtime binding user.snapshot send = .ok found)
    {pages : List (Transaction EffectWorkDiscovery)}
    (paged : Pages (calls effects runtime binding peer scan (fun _ => user)) nextCall 0 none
      pages) : ∀ page ∈ pages, ∃ discovery, page = .ok discovery := by
  intro page member
  obtain ⟨time, cursor, left, ⟨passed, whole, stands⟩, rfl⟩ :=
    Pages.visited (fun _ _ _ _ => (calls_proceed valid verifies).continues) paged
      (show LeftOf user.snapshot 0 none (retainedSends user.snapshot) from ⟨[], rfl, rfl⟩)
      page member
  rcases (scannable time).page binding valid whole stands with
    ⟨failure, send, inside, fails, _⟩ | ⟨discovery, returned, _⟩
  · obtain ⟨found, examined⟩ := examines send (whole ▸ List.mem_append_right _ inside)
    rw [examine_verify (verifies time), examined] at fails
    cases fails
  · exact ⟨discovery, returned⟩

end Fixed

section Growing

variable {effects : Nat → EffectServices β} {users : Nat → UserState β} {send : Retained EffectSend}

/-- The SEND is still ahead of the cursor, behind so many others. -/
def AheadOf (users : Nat → UserState β) (send : Retained EffectSend) (time : Nat)
    (cursor : Option Identity) (distance : Nat) : Prop :=
  ∃ passed front rest, retainedSends (users time).snapshot = passed ++ (front ++ send :: rest) ∧
    Stands passed cursor ∧ distance = front.length

/-- The call lists the SEND, or raises. -/
def Shows (runtime : Runtime) (users : Nat → UserState β) (send : Retained EffectSend) (time : Nat)
    (page : Transaction EffectWorkDiscovery) : Prop :=
  (∃ failure, page = .error failure) ∨ ∃ discovery, page = .ok discovery ∧
    ∃ work ∈ discovery.items, Presents runtime (users time).snapshot send work

theorem Scanned.shows {sends : List (Retained EffectSend)}
    {works : List EffectWork}
    (scanned : Scanned (examine services runtime binding user.snapshot) sends works)
    (member : send ∈ sends)
    (unresolved : Unresolved services runtime binding user.snapshot send) :
    ∃ work ∈ works, Presents runtime user.snapshot send work := by
  rcases scanned.mem member with resolved | ⟨work, inside, examined⟩
  · exact absurd unresolved (examine_none resolved)
  · exact ⟨work, inside, (examine_some examined).2⟩

/-- One call shows a SEND that is ahead, or comes nearer to it. -/
theorem calls_approach (valid : ∀ time, (users time).snapshot.Valid)
    (grows : ∀ time, (users time).snapshot.Extends (users (time + 1)).snapshot)
    (unresolved : ∀ time,
      Unresolved (effects time) runtime binding (users time).snapshot send)
    (time : Nat) (cursor : Option Identity) (distance : Nat)
    (ahead : AheadOf users send time cursor distance) :
    Shows runtime users send time (calls effects runtime binding peer scan users time cursor) ∨
      ∃ following nearer,
        nextCall (calls effects runtime binding peer scan users time cursor) = some following ∧
        nearer < distance ∧ AheadOf users send (time + 1) (some following) nearer := by
  obtain ⟨passed, front, rest, whole, stands, rfl⟩ := ahead
  obtain ⟨more, later⟩ := retainedSends_extends (grows time)
  rw [calls]
  rcases discover_cases (effects time) runtime binding peer scan (users time) cursor with
    scannable | failed
  · rcases scannable.page _ (valid time) whole stands with
      ⟨failure, _, _, _, failed⟩ | ⟨discovery, returned, ⟨_, scanned⟩ |
        ⟨listed, others, following, split, nonempty, continued, behind, scanned⟩⟩
    · exact .inl (.inl ⟨failure, failed⟩)
    · exact .inl (.inr ⟨discovery, returned, scanned.shows (by simp) (unresolved time)⟩)
    · by_cases inside : send ∈ listed
      · exact .inl (.inr ⟨discovery, returned, scanned.shows inside (unresolved time)⟩)
      · have ahead : ∃ between, front = listed ++ between ∧ others = between ++ send :: rest := by
          rcases List.append_eq_append_iff.mp split with ⟨between, rfl, right⟩ |
            ⟨between, rfl, right⟩
          · cases between with
            | nil => exact ⟨[], by simp, by simpa using right.symm⟩
            | cons first between =>
                obtain ⟨rfl, -⟩ := List.cons.inj right
                exact absurd (List.mem_append_right _ List.mem_cons_self) inside
          · exact ⟨between, rfl, right⟩
        obtain ⟨between, rfl, rfl⟩ := ahead
        rw [returned]
        refine .inr ⟨following, between.length, continued, ?_, passed ++ listed, between,
          rest ++ more, ?_, behind, rfl⟩
        · rw [List.length_append]
          have := List.length_pos_iff.mpr nonempty
          omega
        · rw [← later, whole]
          simp only [List.append_assoc, List.cons_append]
  · exact .inl (.inl failed)

/-- A SEND that is there from the start and stays unresolved is shown. -/
theorem discovery_reaches (valid : ∀ time, (users time).snapshot.Valid)
    (grows : ∀ time, (users time).snapshot.Extends (users (time + 1)).snapshot)
    (present : send ∈ retainedSends (users 0).snapshot)
    (unresolved : ∀ time,
      Unresolved (effects time) runtime binding (users time).snapshot send) :
    ∃ time cursor, Reaches (calls effects runtime binding peer scan users) nextCall 0 none time
        cursor ∧
      Shows runtime users send time
        (calls effects runtime binding peer scan users time cursor) := by
  obtain ⟨front, rest, whole⟩ := List.append_of_mem present
  exact Reaches.found (calls_approach valid grows unresolved)
    (show AheadOf users send 0 none front.length from ⟨[], front, rest, whole, rfl, rfl⟩)

end Growing

/-- Discovery is complete.  On one log, following the cursors ends, and either a call has raised
or the items are those of the unresolved SENDs, each once and in the order of the log; no call
raises where the log can be read and every SEND be examined.  On a log that grows between the
calls, a SEND that is there from the start and stays unresolved is listed, unless a call raises. -/
theorem effect_work_discovery (runtime : Runtime) (binding : PostgresEffectsBinding) (peer : String)
    (scan : EffectWorkScan) (effects : Nat → EffectServices β) :
    (∀ user : UserState β, user.snapshot.Valid →
      (∀ time, (effects time).verifyReceipt = (effects 0).verifyReceipt) →
      ∃ pages, Pages (calls effects runtime binding peer scan (fun _ => user)) nextCall 0 none
          pages ∧
        ((∃ page ∈ pages, ∃ failure, page = .error failure) ∨
          List.Forall₂ (Presents runtime user.snapshot)
            ((retainedSends user.snapshot).filter
              (fun send => Unresolved (effects 0) runtime binding user.snapshot send))
            (pages.flatMap listedWork)) ∧
        ((∀ time, Scannable (effects time) runtime peer scan user) →
          (∀ send ∈ retainedSends user.snapshot,
            ∃ found, examine (effects 0) runtime binding user.snapshot send = .ok found) →
          ∀ page ∈ pages, ∃ discovery, page = .ok discovery)) ∧
    ∀ users : Nat → UserState β, (∀ time, (users time).snapshot.Valid) →
      (∀ time, (users time).snapshot.Extends (users (time + 1)).snapshot) →
      ∀ send ∈ retainedSends (users 0).snapshot,
        (∀ time, Unresolved (effects time) runtime binding (users time).snapshot send) →
        ∃ time cursor, Reaches (calls effects runtime binding peer scan users) nextCall 0 none time
            cursor ∧
          ((∃ failure, calls effects runtime binding peer scan users time cursor =
            .error failure) ∨
          ∃ discovery, calls effects runtime binding peer scan users time cursor = .ok discovery ∧
            ∃ work ∈ discovery.items, Presents runtime (users time).snapshot send work) := by
  constructor
  · intro user valid verifies
    obtain ⟨pages, paged, listed⟩ := discovery_complete valid verifies
    exact ⟨pages, paged, listed,
      fun scannable examines => discovery_returns valid verifies scannable examines paged⟩
  · intro users valid grows send present unresolved
    exact discovery_reaches valid grows present unresolved

end Following

section Sample

theorem retainedSends_tools {β : Type} [Content β] [Hashlib] [EffectStores β] {runtime : Runtime}
    {records : List (Record β)} {values : List (EffectSend .tool)}
    (tools : Reads (EffectSend .tool) runtime records values)
    (tooled : Schema.schemaId (EffectSend .action) ∉ records.map Record.schemaId) :
    records.filterMap retainedSend = values.map (Sigma.mk .tool) := by
  induction tools with
  | nil => rfl
  | foreign other _ ih =>
      rw [List.map_cons, List.mem_cons, not_or] at tooled
      rw [List.filterMap_cons, retainedSend, if_neg other, if_neg (Ne.symm tooled.1), ih tooled.2]
  | @own value _ _ _ _ _ ih =>
      rw [List.map_cons, List.mem_cons, not_or] at tooled
      have held : retainedSend (record value : Record β) = some ⟨.tool, value⟩ :=
        retainedSend_some.mpr ⟨record_schemaId _, Stores.read_write _⟩
      rw [List.filterMap_cons, held, ih tooled.2, List.map_cons]

variable [Hashlib]

def firstCall : Identity := ⟨"first", written _ trivial⟩

def secondCall : Identity := ⟨"second", written _ trivial⟩

/-- A log with two calls that were sent and not yet claimed. -/
def pairUser : UserState ClientValue :=
  sampleUser [adoptionBatch firstCall 1, sendBatch firstCall 2, adoptionBatch secondCall 3,
    sendBatch secondCall 4]

theorem pairUser_records : pairUser.snapshot.records =
    [callStateRecord "first/accepted", record (sampleIntent firstCall),
      record (sampleSend firstCall), callStateRecord "second/accepted",
      record (sampleIntent secondCall), record (sampleSend secondCall)] := rfl

theorem pairUser_schemas : pairUser.snapshot.records.map Record.schemaId =
    ["chiplog.agent-loop.native-call-state.v1", Schema.schemaId NativeEffectIntentV1,
      Schema.schemaId (EffectSend .tool), "chiplog.agent-loop.native-call-state.v1",
      Schema.schemaId NativeEffectIntentV1, Schema.schemaId (EffectSend .tool)] := rfl

theorem pairUser_intents : Reads NativeEffectIntentV1 sampleRuntime pairUser.snapshot.records
    [sampleIntent firstCall, sampleIntent secondCall] := by
  rw [pairUser_records]
  exact .foreign (by decide) (.own (sampleIntent_self _) rfl (.other (by decide)
    (.foreign (by decide) (.own (sampleIntent_self _) rfl (.other (by decide) .nil)))))

theorem pairUser_sends : Reads (EffectSend .tool) sampleRuntime pairUser.snapshot.records
    [sampleSend firstCall, sampleSend secondCall] := by
  rw [pairUser_records]
  exact .foreign (by decide) (.other (by decide) (.own (sampleSend_self _) rfl
    (.foreign (by decide) (.other (by decide) (.own (sampleSend_self _) rfl .nil)))))

theorem pairUser_apart (α : Type) [CustodyRow α] [Stores ClientValue α]
    (apart : Schema.schemaId α ∉ ["chiplog.agent-loop.native-call-state.v1",
      Schema.schemaId NativeEffectIntentV1, Schema.schemaId (EffectSend .tool)]) :
    Reads α sampleRuntime pairUser.snapshot.records [] := by
  apply Reads.none
  rw [pairUser_schemas]
  intro inside
  simp only [List.mem_cons, List.not_mem_nil, or_false] at apart inside
  tauto

theorem sampleSend_named (callId : Identity) : (sampleSend callId).head ≠ "" := by
  intro empty
  have length := sampleSend_length callId
  rw [show CustodyRow.head (sampleSend callId) = "" from empty] at length
  exact absurd length (by decide)

/-- A call of the sample log that was sent can be examined. -/
theorem pairUser_examined (callId : Identity)
    (own : [sampleIntent firstCall, sampleIntent secondCall].filter
      (fun value => CustodyRow.stream value = callId.text) = [sampleIntent callId]) :
    ∃ work, examine (sampleEffects firstCall) sampleRuntime sampleBinding pairUser.snapshot
      ⟨.tool, sampleSend callId⟩ = .ok (some work) := by
  have selected := sampleSubject_reads callId pairUser_intents own
    (pairUser_apart PlanEffectIntent (by decide)) (pairUser_apart CompensationEffectIntent (by decide))
  have unclaimed : claimRows sampleRuntime pairUser.snapshot callId.text = .ok [] :=
    familyRows_reads (pairUser_apart (EffectClaim .tool) (by decide))
      (pairUser_apart (EffectClaim .action) (by decide)) callId.text
  have unclosed : closureRows sampleRuntime pairUser.snapshot callId.text = .ok [] :=
    familyRows_reads (pairUser_apart (EffectClosure .tool) (by decide))
      (pairUser_apart (EffectClosure .action) (by decide)) callId.text
  have named := sampleSend_named callId
  have streamed : (sampleSend callId).streamId = callId.text := rfl
  have heads : identity (sampleSend callId).head = .ok ⟨_, named⟩ := dif_pos named
  have streams : identity callId.text = .ok callId := dif_pos callId.nonempty
  simp only [examine, streamed, selected, unclaimed, unclosed, settled, presentedWork, heads,
    streams, selectedClaim, if_true, ok_bind]
  exact ⟨_, rfl⟩

end Sample

section Edges

attribute [local instance] edgeHash

/-- The edges that tell the two calls apart. -/
structure PairLiterals : Prop where
  firstIntent : (utf8 ("\x7b" ++ (Json.quote "accepted_head" ++ ":" ++
    Json.dumps (.str "first/accepted"))))[18]? = some 102
  secondIntent : (utf8 ("\x7b" ++ (Json.quote "accepted_head" ++ ":" ++
    Json.dumps (.str "second/accepted"))))[18]? = some 115
  firstSend : (utf8 (Json.quote "subject_id" ++ ":" ++ Json.dumps (.str "first/child/0") ++
    "\x7d\x7d\x7d")).reverse[12]? = some 116
  secondSend : (utf8 (Json.quote "subject_id" ++ ":" ++ Json.dumps (.str "second/child/0") ++
    "\x7d\x7d\x7d")).reverse[12]? = some 100

theorem pairLiterals : PairLiterals := by
  constructor <;> decide +kernel

theorem intent_front (value : NativeEffectIntentV1) {text : String} {byte : UInt8}
    (accepted : value.acceptedHead = text)
    (shows : (utf8 ("\x7b" ++ (Json.quote "accepted_head" ++ ":" ++
      Json.dumps (.str text))))[18]? = some byte) : headEdge value 18 = byte := by
  have least : Json.Extreme (· ≤ ·) (modelDump (CustodyRow.withHead "pending" value))
      ["schema_id", "head", "tenant_id", "principal_id", "original_call_id", "intent_id",
        "run_id", "accepted_head", "authority_act_id", "preview"] "accepted_head"
      (toJson value.acceptedHead) :=
    ⟨by simp [modelDump, CustodyRow.withHead], rfl, by decide, by decide⟩
  rw [accepted] at least
  exact edge_first least shows (by decide)

/-- The last field of a SEND ends with the name of its transmission. -/
theorem send_back (value : EffectSend .tool) {text : String} {byte : UInt8}
    (child : value.transmission.transmission.subjectId.text = text)
    (shows : (utf8 (Json.quote "subject_id" ++ ":" ++ Json.dumps (.str text) ++
      "\x7d\x7d\x7d")).reverse[12]? = some byte) : headEdge value 31 = byte := by
  have greatest : Json.Extreme (· ≥ ·) (modelDump (CustodyRow.withHead "pending" value))
      ["schema_id", "head", "tenant_id", "principal_id", "original_call_id", "intent_head",
        "transmission", "ticket_bytes", "gate_request_bytes"] "transmission"
      (.obj (modelDump value.transmission)) :=
    ⟨by simp [modelDump, CustodyRow.withHead]; exact .inr rfl, rfl, by decide, by decide⟩
  have attempt : Json.Extreme (· ≥ ·) (modelDump value.transmission)
      ["transmission", "intent", "ordinal", "semantics", "dispatch_time_ns", "payload_fingerprint",
        "recipient", "idempotency_fence_key", "send_commit", "coverage_proof"] "transmission"
      (.obj (modelDump value.transmission.transmission)) :=
    ⟨.head _, rfl, by decide, by decide⟩
  have head : Json.Extreme (· ≥ ·) (modelDump value.transmission.transmission)
      ["subject_id", "head", "fingerprint"] "subject_id" (.str text) :=
    ⟨child ▸ .head _, rfl, by decide, by decide⟩
  obtain ⟨front, outer⟩ := Json.dumps_obj_last greatest
  obtain ⟨middle, among⟩ := Json.dumps_obj_last attempt
  obtain ⟨inner, last⟩ := Json.dumps_obj_last head
  have closes : Schema.wire (CustodyRow.withHead "pending" value) =
      utf8 (front ++ (Json.quote "transmission" ++ ":" ++ (middle ++
        (Json.quote "transmission" ++ ":" ++ inner)))) ++
      utf8 (Json.quote "subject_id" ++ ":" ++ Json.dumps (.str text) ++ "\x7d\x7d\x7d") := by
    rw [← utf8_append]
    refine congrArg utf8 (outer.trans ?_)
    rw [among, last]
    simp only [String.append_assoc]
    rfl
  rw [headEdge, closes]
  exact @edgeBytes_back 12 _ _ _ shows (by decide)

theorem pairUser_distinct : pairUser.snapshot.recordIds.Nodup := by
  have intents : CustodyRow.head (sampleIntent firstCall) ≠
      CustodyRow.head (sampleIntent secondCall) := by
    rw [← sampleIntent_self firstCall, ← sampleIntent_self secondCall]
    apply effectHead_ne 18
    have first : (sampleIntent firstCall).acceptedHead = "first/accepted" := rfl
    have second : (sampleIntent secondCall).acceptedHead = "second/accepted" := rfl
    rw [intent_front _ first pairLiterals.firstIntent,
      intent_front _ second pairLiterals.secondIntent]
    decide
  have sends : CustodyRow.head (sampleSend firstCall) ≠ CustodyRow.head (sampleSend secondCall) := by
    rw [← sampleSend_self firstCall, ← sampleSend_self secondCall]
    apply effectHead_ne 31
    have first : (sampleSend firstCall).transmission.transmission.subjectId.text =
        "first/child/0" := rfl
    have second : (sampleSend secondCall).transmission.transmission.subjectId.text =
        "second/child/0" := rfl
    rw [send_back _ first pairLiterals.firstSend, send_back _ second pairLiterals.secondSend]
    decide
  have outside : ∀ text ∈ ["first/accepted", "second/accepted"],
      (∀ callId, text ≠ CustodyRow.head (sampleIntent callId)) ∧
        ∀ callId, text ≠ CustodyRow.head (sampleSend callId) := by
    intro text inside
    constructor
    · intro callId
      rw [← sampleIntent_self]
      exact outside_effects (by revert text; decide) _
    · intro callId
      rw [← sampleSend_self]
      exact outside_effects (by revert text; decide) _
  have ids : pairUser.snapshot.recordIds = ["first/accepted",
      CustodyRow.head (sampleIntent firstCall), CustodyRow.head (sampleSend firstCall),
      "second/accepted", CustodyRow.head (sampleIntent secondCall),
      CustodyRow.head (sampleSend secondCall)] := rfl
  simp only [List.forall_mem_cons, List.not_mem_nil, false_implies, implies_true,
    and_true] at outside
  rw [ids]
  simp [outside, intents, sends, sampleIntent_ne_send, ne_comm]

theorem pairUser_valid : pairUser.snapshot.Valid :=
  ⟨rfl, by decide, pairUser_distinct⟩

theorem pairUser_retained : retainedSends pairUser.snapshot =
    [⟨.tool, sampleSend firstCall⟩, ⟨.tool, sampleSend secondCall⟩] :=
  retainedSends_tools pairUser_sends (by rw [pairUser_schemas]; decide)

/-- One SEND a page. -/
def pairScan : EffectWorkScan :=
  ⟨⟨"tenant", written _ trivial⟩, ⟨"hermetic-principal", written _ trivial⟩,
    ⟨1, Nat.one_pos⟩, none⟩

theorem pairUser_scannable :
    Scannable (sampleEffects firstCall) sampleRuntime "local-cli" pairScan pairUser :=
  ⟨rfl, rfl, rfl, ⟨_, pairUser_sends.all⟩, ⟨_, (pairUser_apart (EffectSend .action) (by decide)).all⟩⟩

theorem pairUser_examines : ∀ send ∈ retainedSends pairUser.snapshot, ∃ work,
    examine (sampleEffects firstCall) sampleRuntime sampleBinding pairUser.snapshot send =
      .ok (some work) := by
  rw [pairUser_retained]
  intro send member
  rcases List.mem_cons.mp member with rfl | last
  · exact pairUser_examined firstCall rfl
  · rw [List.mem_singleton.mp last]
    exact pairUser_examined secondCall rfl

/-- The first page lists one SEND and has a cursor. -/
theorem pairUser_continues : ∃ following, nextCall (calls (fun _ => sampleEffects firstCall)
    sampleRuntime sampleBinding "local-cli" pairScan (fun _ => pairUser) 0 none) =
      some following := by
  obtain ⟨work, examined⟩ := pairUser_examines ⟨.tool, sampleSend firstCall⟩
    (pairUser_retained ▸ List.mem_cons_self)
  have named : (sampleSend firstCall).head ≠ "" := sampleSend_named firstCall
  have heads : identity (sampleSend firstCall).head = .ok ⟨_, named⟩ := dif_pos named
  have more : (some (⟨.tool, sampleSend firstCall⟩ : Retained EffectSend)) ≠
      [⟨.tool, sampleSend firstCall⟩, ⟨.tool, sampleSend secondCall⟩].getLast? := by
    intro same
    have streams : (sampleSend firstCall).streamId = (sampleSend secondCall).streamId :=
      congrArg (fun send : Retained EffectSend => send.2.streamId) (Option.some.inj same)
    exact absurd streams (by decide)
  have whole : retainedSends pairUser.snapshot =
      [] ++ [⟨.tool, sampleSend firstCall⟩, ⟨.tool, sampleSend secondCall⟩] := pairUser_retained
  have stands : Stands [] none := rfl
  refine ⟨⟨_, named⟩, ?_⟩
  rw [calls, pairUser_scannable.discover pairUser_valid whole stands, scanSends, examined, ok_bind]
  have full : ([] ++ [work]).length = (pairScan.limit : Nat) := rfl
  simp only [if_pos full, heads, ok_bind, decide_eq_true more]
  rfl

/-- Two SENDs are listed on two pages, and the second one is reached by the cursor of the first. -/
theorem effect_work_discovery_pair :
    let read := calls (fun _ => sampleEffects firstCall) sampleRuntime sampleBinding "local-cli"
      pairScan (fun _ => pairUser)
    (∃ pages, Pages read nextCall 0 none pages ∧ 1 < pages.length ∧
      (∀ page ∈ pages, ∃ discovery, page = .ok discovery) ∧
      List.Forall₂ (Presents sampleRuntime pairUser.snapshot)
        [⟨.tool, sampleSend firstCall⟩, ⟨.tool, sampleSend secondCall⟩]
        (pages.flatMap listedWork)) ∧
    ∃ time cursor, Reaches read nextCall 0 none time cursor ∧
      ∃ discovery, read time cursor = .ok discovery ∧
        ∃ work ∈ discovery.items, Presents sampleRuntime pairUser.snapshot
          ⟨.tool, sampleSend secondCall⟩ work := by
  intro read
  obtain ⟨fixed, growing⟩ := effect_work_discovery sampleRuntime sampleBinding "local-cli" pairScan
    (fun _ => sampleEffects firstCall)
  obtain ⟨pages, paged, listed, returns⟩ := fixed pairUser pairUser_valid (fun _ => rfl)
  have returned := returns (fun _ => pairUser_scannable) fun send member => by
    obtain ⟨work, examined⟩ := pairUser_examines send member
    exact ⟨some work, examined⟩
  have unresolved : ∀ send ∈ retainedSends pairUser.snapshot, Unresolved (sampleEffects firstCall)
      sampleRuntime sampleBinding pairUser.snapshot send := by
    intro send member
    obtain ⟨work, examined⟩ := pairUser_examines send member
    exact (examine_some examined).1
  constructor
  · refine ⟨pages, paged, ?_, returned, ?_⟩
    · obtain ⟨following, continued⟩ := pairUser_continues
      cases paged with
      | last ends => cases ends.symm.trans continued
      | more _ rest => cases rest <;> simp
    · rcases listed with ⟨page, member, failure, failed⟩ | all
      · obtain ⟨discovery, ok⟩ := returned page member
        cases failed.symm.trans ok
      · rwa [List.filter_eq_self.mpr (fun send member => decide_eq_true (unresolved send member)),
          pairUser_retained] at all
  · have second : (⟨.tool, sampleSend secondCall⟩ : Retained EffectSend) ∈
        retainedSends pairUser.snapshot := by
      rw [pairUser_retained]
      exact List.mem_cons_of_mem _ List.mem_cons_self
    obtain ⟨time, cursor, reached, ⟨failure, failed⟩ | shown⟩ := growing (fun _ => pairUser)
      (fun _ => pairUser_valid) (fun _ => .refl _) _ second (fun _ => unresolved _ second)
    · obtain ⟨discovery, ok⟩ := returned _ (reached.in_pages paged)
      cases failed.symm.trans ok
    · exact ⟨time, cursor, reached, shown⟩

end Edges

end Chiplog.Composition
