import Mathlib

namespace Chiplog.Data

/-! Reads of a list page by page.

A page may carry a cursor, from which the next call goes on.  Each call may meet a source that
has changed since the last one, so the reader depends on the number of the call. -/

variable {κ ρ σ α : Type}

/-- The pages that following the cursors reads. -/
inductive Pages (read : Nat → Option κ → ρ) (next : ρ → Option κ) :
    Nat → Option κ → List ρ → Prop
  | last {time : Nat} {cursor : Option κ} (ends : next (read time cursor) = none) :
      Pages read next time cursor [read time cursor]
  | more {time : Nat} {cursor : Option κ} {following : κ} {pages : List ρ}
      (continued : next (read time cursor) = some following)
      (rest : Pages read next (time + 1) (some following) pages) :
      Pages read next time cursor (read time cursor :: pages)

namespace Pages

variable {read : Nat → Option κ → ρ} {next : ρ → Option κ} {items : ρ → List α}
  {time : Nat} {cursor : Option κ} {pages : List ρ}

theorem unique {others : List ρ} (paged : Pages read next time cursor pages)
    (other : Pages read next time cursor others) : pages = others := by
  induction paged generalizing others with
  | last ends =>
      cases other with
      | last => rfl
      | more continued => cases ends.symm.trans continued
  | more continued _ ih =>
      cases other with
      | last ends => cases ends.symm.trans continued
      | more otherwise rest =>
          cases continued.symm.trans otherwise
          rw [ih rest]

/-- What one call does when `Left time cursor left` says which sources are still to be read: it
fails and ends, or it lists all of them and ends, or it lists some and goes on with the others. -/
def Proceeds (read : Nat → Option κ → ρ) (next : ρ → Option κ) (items : ρ → List α)
    (Fails : ρ → Prop) (Lists : List σ → List α → Prop)
    (Left : Nat → Option κ → List σ → Prop) : Prop :=
  ∀ time cursor left, Left time cursor left →
    (next (read time cursor) = none ∧
      (Fails (read time cursor) ∨ Lists left (items (read time cursor)))) ∨
    ∃ following front later, next (read time cursor) = some following ∧
      Left (time + 1) (some following) later ∧ front ≠ [] ∧ left = front ++ later ∧
      Lists front (items (read time cursor))

/-- Calls that proceed come to an end, and unless one of them fails they list everything. -/
theorem ends {Fails : ρ → Prop} {Lists : List σ → List α → Prop}
    {Left : Nat → Option κ → List σ → Prop}
    (proceeds : Proceeds read next items Fails Lists Left)
    (joins : ∀ {front later listed others}, Lists front listed → Lists later others →
      Lists (front ++ later) (listed ++ others))
    {left : List σ} (due : Left time cursor left) :
    ∃ pages, Pages read next time cursor pages ∧
      ((∃ page ∈ pages, Fails page) ∨ Lists left (pages.flatMap items)) := by
  induction size : left.length using Nat.strong_induction_on generalizing time cursor left with
  | h size ih =>
      subst size
      rcases proceeds time cursor left due with ⟨ends, fails | whole⟩ |
        ⟨following, front, later, continued, dueLater, nonempty, rfl, listed⟩
      · exact ⟨_, .last ends, .inl ⟨_, List.mem_singleton.mpr rfl, fails⟩⟩
      · refine ⟨_, .last ends, .inr ?_⟩
        rw [List.flatMap_cons, List.flatMap_nil, List.append_nil]
        exact whole
      · have shorter : later.length < (front ++ later).length := by
          rw [List.length_append]
          have := List.length_pos_iff.mpr nonempty
          omega
        obtain ⟨pages, rest, result⟩ := ih later.length shorter dueLater rfl
        refine ⟨_, .more continued rest, ?_⟩
        rcases result with ⟨page, member, fails⟩ | others
        · exact .inl ⟨page, List.mem_cons_of_mem _ member, fails⟩
        · rw [List.flatMap_cons]
          exact .inr (joins listed others)

/-- Calls that never fail: what is listed is what was left. -/
def Advances (read : Nat → Option κ → ρ) (next : ρ → Option κ) (items : ρ → List α)
    (Left : Nat → Option κ → List α → Prop) : Prop :=
  ∀ time cursor left, Left time cursor left →
    (next (read time cursor) = none ∧ items (read time cursor) = left) ∨
      ∃ following later, next (read time cursor) = some following ∧
        Left (time + 1) (some following) later ∧ items (read time cursor) ≠ [] ∧
        left = items (read time cursor) ++ later

/-- Calls that advance come to an end and list everything, once and in order. -/
theorem complete {Left : Nat → Option κ → List α → Prop}
    (advances : Advances read next items Left) {left : List α} (due : Left time cursor left) :
    ∃ pages, Pages read next time cursor pages ∧ pages.flatMap items = left := by
  have proceeds : Proceeds read next items (fun _ => False) Eq Left := by
    intro time cursor left due
    rcases advances time cursor left due with ⟨ends, whole⟩ |
      ⟨following, later, continued, dueLater, nonempty, split⟩
    · exact .inl ⟨ends, .inr whole.symm⟩
    · exact .inr ⟨following, _, later, continued, dueLater, nonempty, split, rfl⟩
  obtain ⟨pages, paged, ⟨_, _, impossible⟩ | listed⟩ :=
    ends proceeds (fun front later => congrArg₂ _ front later) due
  · exact impossible.elim
  · exact ⟨pages, paged, listed.symm⟩

/-- Every page is a call with something due, when that is so of each call that is continued. -/
theorem visited {Left : Nat → Option κ → List σ → Prop}
    (continues : ∀ time cursor left following, Left time cursor left →
      next (read time cursor) = some following → ∃ later, Left (time + 1) (some following) later)
    (paged : Pages read next time cursor pages) {left : List σ} (due : Left time cursor left) :
    ∀ page ∈ pages, ∃ time cursor left, Left time cursor left ∧ page = read time cursor := by
  induction paged generalizing left with
  | last =>
      intro page member
      exact ⟨_, _, left, due, List.mem_singleton.mp member⟩
  | more continued _ ih =>
      intro page member
      rcases List.mem_cons.mp member with rfl | later
      · exact ⟨_, _, left, due, rfl⟩
      · obtain ⟨rest, dueLater⟩ := continues _ _ left _ due continued
        exact ih dueLater page later

theorem Proceeds.continues {Fails : ρ → Prop} {Lists : List σ → List α → Prop}
    {Left : Nat → Option κ → List σ → Prop}
    (proceeds : Proceeds read next items Fails Lists Left) {left : List σ} {following : κ}
    (due : Left time cursor left) (continued : next (read time cursor) = some following) :
    ∃ later, Left (time + 1) (some following) later := by
  rcases proceeds _ _ left due with ⟨ends, _⟩ | ⟨following, _, later, goes, dueLater, _⟩
  · cases ends.symm.trans continued
  · cases continued.symm.trans goes
    exact ⟨later, dueLater⟩

/-- Every page is a call with something due. -/
theorem called {Left : Nat → Option κ → List α → Prop}
    (advances : Advances read next items Left) (paged : Pages read next time cursor pages)
    {left : List α} (due : Left time cursor left) :
    ∀ page ∈ pages, ∃ time cursor left, Left time cursor left ∧ page = read time cursor := by
  refine visited (fun time cursor left following dueNow continued => ?_) paged due
  rcases advances _ _ left dueNow with ⟨ends, _⟩ | ⟨following, rest, goes, dueLater, _⟩
  · cases ends.symm.trans continued
  · cases continued.symm.trans goes
    exact ⟨rest, dueLater⟩

end Pages

/-- The calls that following the cursors comes to. -/
inductive Reaches (read : Nat → Option κ → ρ) (next : ρ → Option κ) (time : Nat)
    (cursor : Option κ) : Nat → Option κ → Prop
  | here : Reaches read next time cursor time cursor
  | next {later : Nat} {place : Option κ} {following : κ}
      (reached : Reaches read next time cursor later place)
      (continued : next (read later place) = some following) :
      Reaches read next time cursor (later + 1) (some following)

namespace Reaches

variable {read : Nat → Option κ → ρ} {next : ρ → Option κ} {time later : Nat}
  {cursor place : Option κ}

theorem head {following : κ} (continued : next (read time cursor) = some following)
    (reached : Reaches read next (time + 1) (some following) later place) :
    Reaches read next time cursor later place := by
  induction reached with
  | here => exact .next .here continued
  | next _ goes ih => exact .next ih goes

/-- A call that comes strictly nearer to something until it finds it does find it. -/
theorem found {Ahead : Nat → Option κ → Nat → Prop} {Found : Nat → ρ → Prop}
    (step : ∀ time cursor distance, Ahead time cursor distance → Found time (read time cursor) ∨
      ∃ following nearer, next (read time cursor) = some following ∧ nearer < distance ∧
        Ahead (time + 1) (some following) nearer)
    {distance : Nat} (ahead : Ahead time cursor distance) :
    ∃ later place, Reaches read next time cursor later place ∧ Found later (read later place) := by
  induction distance using Nat.strong_induction_on generalizing time cursor with
  | h distance ih =>
      rcases step time cursor distance ahead with here |
        ⟨following, nearer, continued, less, aheadLater⟩
      · exact ⟨time, cursor, .here, here⟩
      · obtain ⟨later, place, reached, found⟩ := ih nearer less aheadLater
        exact ⟨later, place, reached.head continued, found⟩

/-- A call that is reached is one of the pages. -/
theorem in_pages {pages : List ρ} (paged : Pages read next time cursor pages)
    (reached : Reaches read next time cursor later place) : read later place ∈ pages := by
  have tail : ∃ rest, Pages read next later place rest ∧ rest ⊆ pages := by
    induction reached with
    | here => exact ⟨pages, paged, List.Subset.refl _⟩
    | next _ continued ih =>
        obtain ⟨rest, from_, inside⟩ := ih
        cases from_ with
        | last ends => cases ends.symm.trans continued
        | more goes later =>
            cases goes.symm.trans continued
            exact ⟨_, later, fun _ member => inside (List.mem_cons_of_mem _ member)⟩
  obtain ⟨rest, from_, inside⟩ := tail
  cases from_ with
  | last => exact inside List.mem_cons_self
  | more => exact inside List.mem_cons_self

end Reaches

/-- In a list in strict order of its keys, what follows an item is what has a greater key. -/
theorem filter_after [LinearOrder κ] {key : α → κ} {before rest : List α} {item : α}
    (sorted : ((before ++ item :: rest).map key).Pairwise (· < ·)) :
    (before ++ item :: rest).filter (fun other => key item < key other) = rest := by
  rw [List.map_append, List.map_cons, List.pairwise_append, List.pairwise_cons] at sorted
  obtain ⟨-, ⟨after, -⟩, below⟩ := sorted
  have earlier : before.filter (fun other => decide (key item < key other)) = [] := by
    rw [List.filter_eq_nil_iff]
    intro other member
    have less := below _ (List.mem_map_of_mem member) _ List.mem_cons_self
    rw [decide_eq_true_eq]
    exact less.asymm
  have later : rest.filter (fun other => decide (key item < key other)) = rest := by
    rw [List.filter_eq_self]
    intro other member
    exact decide_eq_true (after _ (List.mem_map_of_mem member))
  rw [List.filter_append, List.filter_cons, if_neg (by simp), earlier, later, List.nil_append]

end Chiplog.Data
