import Mathlib

namespace Chiplog.Data

/-! Texts joined by newlines and split again. -/

/-- Equal texts are cut at the same mark. -/
theorem cut_at_mark {α : Type} {mark : α} {first second rest other : List α}
    (firstClean : mark ∉ first) (secondClean : mark ∉ second)
    (same : first ++ mark :: rest = second ++ mark :: other) : first = second ∧ rest = other := by
  induction first generalizing second with
  | nil =>
      cases second with
      | nil => exact ⟨rfl, (List.cons.inj same).2⟩
      | cons item items =>
          obtain ⟨rfl, _⟩ := List.cons.inj same
          exact absurd List.mem_cons_self secondClean
  | cons item items ih =>
      cases second with
      | nil =>
          obtain ⟨rfl, _⟩ := List.cons.inj same
          exact absurd List.mem_cons_self firstClean
      | cons item' items' =>
          obtain ⟨rfl, later⟩ := List.cons.inj same
          obtain ⟨rfl, rests⟩ := ih (fun member => firstClean (List.mem_cons_of_mem _ member))
            (fun member => secondClean (List.mem_cons_of_mem _ member)) later
          exact ⟨rfl, rests⟩

/-- `"\n".join(items)`. -/
def joinLines (items : List String) : String := "\n".intercalate items

/-- `text.split("\n")`. -/
def splitLines (text : String) : List String := (text.toList.splitOn '\n').map String.ofList

/-- No part of a split contains the separator. -/
theorem not_mem_of_mem_splitOn {α : Type} [DecidableEq α] {separator : α} {items part : List α}
    (member : part ∈ items.splitOn separator) : separator ∉ part := by
  induction items generalizing part with
  | nil =>
      rw [List.splitOn_nil, List.mem_singleton] at member
      rw [member]
      exact List.not_mem_nil
  | cons item rest ih =>
      rw [List.splitOn_cons_eq_if_modifyHead] at member
      split at member
      · rcases List.mem_cons.mp member with rfl | later
        · exact List.not_mem_nil
        · exact ih later
      · rename_i different
        have apart : separator ≠ item := fun same => different (beq_iff_eq.mpr same.symm)
        obtain ⟨first, others, parts⟩ :=
          List.exists_cons_of_ne_nil (List.splitOn_ne_nil separator rest)
        rw [parts, List.modifyHead_cons] at member
        rw [parts] at ih
        rcases List.mem_cons.mp member with rfl | later
        · intro inside
          rcases List.mem_cons.mp inside with same | inside
          · exact apart same
          · exact ih List.mem_cons_self inside
        · exact ih (List.mem_cons_of_mem _ later)

/-- Joining loses nothing exactly when no item has a newline of its own. -/
theorem splitLines_joinLines_iff {items : List String} (nonempty : items ≠ []) :
    splitLines (joinLines items) = items ↔ ∀ item ∈ items, '\n' ∉ item.toList := by
  have joined : (joinLines items).toList = ['\n'].intercalate (items.map String.toList) := by
    rw [joinLines, String.toList_intercalate]
    rfl
  have unpacked : (items.map String.toList).map String.ofList = items := by
    rw [List.map_map]
    simp [Function.comp_def, String.ofList_toList]
  constructor
  · intro same item member
    rw [← same] at member
    obtain ⟨part, isPart, rfl⟩ := List.mem_map.mp member
    rw [String.toList_ofList]
    exact not_mem_of_mem_splitOn isPart
  · intro clean
    unfold splitLines
    rw [joined, List.splitOn_intercalate, unpacked]
    · intro characters member
      obtain ⟨item, inside, rfl⟩ := List.mem_map.mp member
      exact clean item inside
    · simpa using nonempty

end Chiplog.Data
