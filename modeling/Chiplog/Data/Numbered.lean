import Mathlib

namespace Chiplog.Data

/-! Lists numbered from one.

The number of an item is its place, so an item is found by its number, a prefix is numbered
too, and the largest number is the length. -/

variable {α : Type} {number : α → Nat}

def Numbered (number : α → Nat) (items : List α) : Prop :=
  items.map number = List.range' 1 items.length

theorem foldl_max_range' (count : Nat) : (List.range' 1 count).foldl max 0 = count := by
  induction count with
  | zero => rfl
  | succ count ih =>
      rw [List.range'_1_concat, List.foldl_append, ih, List.foldl_cons, List.foldl_nil]
      omega

theorem insertionSort_range' (count : Nat) :
    (List.range' 1 count).insertionSort (· ≤ ·) = List.range' 1 count := by
  apply List.Pairwise.insertionSort_eq
  exact (List.pairwise_lt_range' 1).imp (fun order => Nat.le_of_lt order)

namespace Numbered

variable {items front rest : List α} {item other : α}

theorem nil : Numbered number ([] : List α) := rfl

theorem snoc (numbered : Numbered number items) (last : number item = items.length + 1) :
    Numbered number (items ++ [item]) := by
  rw [Numbered, List.map_append, numbered, List.map_singleton, last, List.length_append,
    List.length_singleton, List.range'_1_concat, Nat.add_comm]

theorem left (numbered : Numbered number (front ++ rest)) : Numbered number front := by
  have whole := congrArg (List.take front.length) numbered
  rw [List.map_append, List.length_append, ← List.range'_append_1] at whole
  rwa [List.take_left' (List.length_map _), List.take_left' List.length_range'] at whole

theorem max_eq (numbered : Numbered number items) :
    (items.map number).foldl max 0 = items.length := by
  rw [numbered, foldl_max_range']

theorem le_length (numbered : Numbered number items) (member : item ∈ items) :
    number item ≤ items.length := by
  have inside := List.mem_map_of_mem (f := number) member
  rw [numbered, List.mem_range'_1] at inside
  omega

theorem unique (numbered : Numbered number items) (member : item ∈ items)
    (otherMember : other ∈ items) (same : number item = number other) : item = other := by
  have distinct : (items.map number).Nodup := numbered ▸ List.nodup_range'
  exact List.inj_on_of_nodup_map distinct member otherMember same

/-- The item after a prefix is the one with the next number. -/
theorem next (numbered : Numbered number (front ++ item :: rest)) :
    number item = front.length + 1 := by
  have parts : front ++ item :: rest = (front ++ [item]) ++ rest := by simp
  have both : Numbered number (front ++ [item]) := (parts ▸ numbered).left
  have whole : number item ≤ (front ++ [item]).length :=
    both.le_length (List.mem_append_right _ List.mem_cons_self)
  have last := congrArg List.getLast? both
  rw [List.length_append, List.length_singleton, List.range'_1_concat, List.map_append,
    List.map_singleton, List.getLast?_concat, List.getLast?_concat] at last
  rw [Option.some.inj last, Nat.add_comm]

theorem rest_of_next (numbered : Numbered number (front ++ rest)) (member : item ∈ front ++ rest)
    (after : number item = front.length + 1) : ∃ others, rest = item :: others := by
  cases rest with
  | nil =>
      have bound := numbered.le_length member
      rw [List.append_nil] at bound
      omega
  | cons head others =>
      have first := numbered.next
      have same := numbered.unique member
        (List.mem_append_right _ List.mem_cons_self) (after.trans first.symm)
      exact ⟨others, by rw [same]⟩

theorem find? (numbered : Numbered number items) (member : item ∈ items) :
    items.find? (fun other => number other = number item) = some item := by
  cases found : items.find? (fun other => number other = number item) with
  | none => simpa using List.find?_eq_none.mp found item member
  | some other =>
      have same : number other = number item := by simpa using List.find?_some found
      rw [numbered.unique (List.mem_of_find?_eq_some found) member same]

end Numbered

end Chiplog.Data
