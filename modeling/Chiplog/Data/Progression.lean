import Mathlib

namespace Chiplog.Data

/-! Arithmetic progressions cut at half-open windows.

A window `[start, cutoff)` keeps the terms `origin + index * period` whose index lies
between two ceiling divisions.  Consecutive windows add up to the whole progression. -/

/-- The first index whose term is not before an instant, possibly negative. -/
def indexFrom (origin : Nat) (period : ℕ+) (instant : Int) : Int :=
  (instant - origin + period - 1) / period

theorem indexFrom_le {origin : Nat} {period : ℕ+} {instant index : Int} :
    indexFrom origin period instant ≤ index ↔ instant ≤ origin + index * period := by
  have positive : (0 : Int) < period := by exact_mod_cast period.pos
  rw [indexFrom, ← Int.lt_add_one_iff, Int.ediv_lt_iff_lt_mul positive, Int.add_mul]
  constructor <;> intro bound <;> omega

/-- The indices from `first` up to `last`. -/
def indexRange (first last : Int) : List Nat :=
  List.range' first.toNat (last - first).toNat

theorem mem_indexRange {first last : Int} {index : Nat} (nonnegative : 0 ≤ first) :
    index ∈ indexRange first last ↔ first ≤ index ∧ (index : Int) < last := by
  rw [indexRange, List.mem_range'_1]
  omega

theorem indexRange_ascending (first last : Int) : (indexRange first last).Pairwise (· < ·) :=
  List.pairwise_lt_range' 1

theorem indexRange_length (first last : Int) : (indexRange first last).length = (last - first).toNat :=
  List.length_range'

def firstIndex (origin : Nat) (period : ℕ+) (start : Int) : Int :=
  max 0 (indexFrom origin period start)

def lastIndex (origin : Nat) (period : ℕ+) (start cutoff : Int) : Int :=
  max (firstIndex origin period start) (indexFrom origin period cutoff)

theorem firstIndex_nonneg (origin : Nat) (period : ℕ+) (start : Int) :
    0 ≤ firstIndex origin period start :=
  le_max_left _ _

/-- The window keeps exactly the terms inside it. -/
theorem mem_window {origin : Nat} {period : ℕ+} {start cutoff : Int} {index : Nat} :
    index ∈ indexRange (firstIndex origin period start) (lastIndex origin period start cutoff) ↔
      start ≤ ((origin + index * period : Nat) : Int) ∧
        ((origin + index * period : Nat) : Int) < cutoff := by
  have lower : firstIndex origin period start ≤ index ↔
      start ≤ ((origin + index * period : Nat) : Int) := by
    have natural : (0 : Int) ≤ index := Int.natCast_nonneg _
    rw [firstIndex, max_le_iff, indexFrom_le]
    push_cast
    exact ⟨fun bounds => bounds.2, fun bound => ⟨natural, bound⟩⟩
  have upper : indexFrom origin period cutoff ≤ index ↔
      cutoff ≤ ((origin + index * period : Nat) : Int) := by
    rw [indexFrom_le]
    push_cast
    exact Iff.rfl
  rw [mem_indexRange (firstIndex_nonneg _ _ _), lower, lastIndex, lt_max_iff]
  constructor
  · rintro ⟨begins, before | before⟩
    · exact absurd (lower.mpr begins) (Int.not_le.mpr before)
    · exact ⟨begins, Int.not_le.mp (fun late => Int.not_le.mpr before (upper.mpr late))⟩
  · rintro ⟨begins, before⟩
    exact ⟨begins, .inr (Int.not_le.mp (fun late => Int.not_le.mpr before (upper.mp late)))⟩

theorem terms_ascending {indices : List Nat} (origin : Nat) (period : ℕ+)
    (ascending : indices.Pairwise (· < ·)) :
    (indices.map (fun index => origin + index * period)).Pairwise (· < ·) := by
  rw [List.pairwise_map]
  refine ascending.imp ?_
  intro earlier later order
  exact Nat.add_lt_add_left (Nat.mul_lt_mul_of_pos_right order period.pos) origin

/-- The terms inside a half-open window. -/
def windowTerms (origin : Nat) (period : ℕ+) (start cutoff : Int) : List Nat :=
  (indexRange (firstIndex origin period start) (lastIndex origin period start cutoff)).map
    (fun index => origin + index * period)

theorem mem_windowTerms {origin : Nat} {period : ℕ+} {start cutoff : Int} {term : Nat} :
    term ∈ windowTerms origin period start cutoff ↔
      start ≤ term ∧ (term : Int) < cutoff ∧ ∃ index : Nat, term = origin + index * period := by
  simp only [windowTerms, List.mem_map, mem_window]
  constructor
  · rintro ⟨index, ⟨begins, before⟩, rfl⟩
    exact ⟨begins, before, index, rfl⟩
  · rintro ⟨begins, before, index, rfl⟩
    exact ⟨index, ⟨begins, before⟩, rfl⟩

theorem windowTerms_ascending (origin : Nat) (period : ℕ+) (start cutoff : Int) :
    (windowTerms origin period start cutoff).Pairwise (· < ·) :=
  terms_ascending origin period (indexRange_ascending _ _)

/-- Remove an ascending list of positions while walking an ascending list. -/
def skipping : List Nat → List Nat → List Nat
  | _, [] => []
  | [], index :: rest => index :: rest
  | skip :: skips, index :: rest =>
      if index = skip then skipping skips rest else index :: skipping (skip :: skips) rest

theorem skipping_eq_filter {skips indices : List Nat} (ascending : indices.Pairwise (· < ·))
    (sorted : skips.Pairwise (· < ·)) (inside : ∀ skip ∈ skips, skip ∈ indices) :
    skipping skips indices = indices.filter (fun index => index ∉ skips) := by
  induction indices generalizing skips with
  | nil => cases skips <;> rfl
  | cons index rest ih =>
      obtain ⟨above, tail⟩ := List.pairwise_cons.mp ascending
      cases skips with
      | nil => simp [skipping]
      | cons skip skips =>
          obtain ⟨later, remaining⟩ := List.pairwise_cons.mp sorted
          rw [skipping]
          split
          · rename_i same
            subst same
            have shifted : ∀ other ∈ skips, other ∈ rest := by
              intro other member
              have found := inside other (List.mem_cons_of_mem _ member)
              rcases List.mem_cons.mp found with rfl | found
              · exact absurd (later _ member) (Nat.lt_irrefl _)
              · exact found
            rw [ih tail remaining shifted, List.filter_cons_of_neg (by simp)]
            apply List.filter_congr
            intro other member
            have differs : other ≠ index := fun same => Nat.lt_irrefl _ (same ▸ above other member)
            simp [differs]
          · rename_i differs
            have shifted : ∀ other ∈ skip :: skips, other ∈ rest := by
              intro other member
              rcases List.mem_cons.mp (inside other member) with rfl | found
              · have first : skip ∈ rest := by
                  rcases List.mem_cons.mp (inside skip List.mem_cons_self) with same | found
                  · exact absurd same.symm differs
                  · exact found
                rcases List.mem_cons.mp member with same | late
                · exact absurd same differs
                · exact absurd (Nat.lt_trans (above skip first) (later _ late)) (Nat.lt_irrefl _)
              · exact found
            have kept : index ∉ skip :: skips :=
              fun member => Nat.lt_irrefl _ (above index (shifted index member))
            rw [ih tail sorted shifted, List.filter_cons_of_pos (by simpa using kept)]

end Chiplog.Data
