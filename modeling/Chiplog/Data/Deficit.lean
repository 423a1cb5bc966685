import Mathlib

namespace Chiplog.Data.Deficit

/-! Capped deficit round robin over one queue.

An item is served by whole turns, at least one, each of which credits a quantum up to a cap;
what the item leaves over stays for the next one.  A larger credit can leave a smaller
remainder, so two queues are compared up to the turns one of them is behind. -/

/-- The turns an item takes, at least one. -/
def turns (quantum deficit size : Nat) : Nat :=
  max 1 ((size - deficit + quantum - 1) / quantum)

/-- What is left over once the item is served. -/
def remainder (cap quantum deficit size : Nat) : Nat :=
  min cap (deficit + turns quantum deficit size * quantum) - size

/-- The turns a whole queue takes. -/
def visits (cap quantum deficit : Nat) : List Nat → Nat
  | [] => 0
  | size :: rest =>
      turns quantum deficit size +
        visits cap quantum (remainder cap quantum deficit size) rest

/-- The deficit after a whole queue. -/
def settle (cap quantum deficit : Nat) : List Nat → Nat
  | [] => deficit
  | size :: rest => settle cap quantum (remainder cap quantum deficit size) rest

theorem turns_pos (quantum deficit size : Nat) : 0 < turns quantum deficit size :=
  Nat.lt_of_lt_of_le Nat.one_pos (le_max_left _ _)

variable {cap quantum : Nat}

/-- The turns of an item suffice to serve it. -/
theorem size_le_credit (positive : 0 < quantum) (deficit size : Nat) :
    size ≤ deficit + turns quantum deficit size * quantum := by
  have rounded : size - deficit ≤ (size - deficit + quantum - 1) / quantum * quantum := by
    have division := Nat.div_add_mod (size - deficit + quantum - 1) quantum
    have bounded := Nat.mod_lt (size - deficit + quantum - 1) positive
    rw [Nat.mul_comm]
    omega
  have enough : (size - deficit + quantum - 1) / quantum * quantum ≤
      turns quantum deficit size * quantum :=
    Nat.mul_le_mul_right quantum (le_max_right _ _)
  omega

/-- A credit of some turns saves at most that many. -/
theorem turns_le_add (positive : 0 < quantum) {first second behind : Nat} (size : Nat)
    (covers : first ≤ second + behind * quantum) :
    turns quantum second size ≤ turns quantum first size + behind := by
  have within : size - second + quantum - 1 ≤ size - first + quantum - 1 + behind * quantum := by
    omega
  have rounded := Nat.div_le_div_right (c := quantum) within
  rw [Nat.add_mul_div_right _ _ positive] at rounded
  have least : (size - first + quantum - 1) / quantum ≤ turns quantum first size :=
    le_max_right _ _
  have one := turns_pos quantum first size
  apply max_le
  · omega
  · omega

/-- A queue that is some turns behind another one needs at most that many more. -/
theorem visits_le_add (positive : 0 < quantum) (queue : List Nat) {first second behind : Nat}
    (covers : first ≤ second + behind * quantum) :
    visits cap quantum second queue ≤ visits cap quantum first queue + behind := by
  induction queue generalizing first second behind with
  | nil => exact Nat.zero_le _
  | cons size rest ih =>
      have slower := turns_le_add positive size covers
      obtain ⟨later, apart⟩ := Nat.exists_eq_add_of_le slower
      have credit : first + turns quantum first size * quantum ≤
          second + turns quantum second size * quantum + later * quantum := by
        calc first + turns quantum first size * quantum
            ≤ second + behind * quantum + turns quantum first size * quantum := by omega
          _ = second + (turns quantum first size + behind) * quantum := by ring
          _ = second + turns quantum second size * quantum + later * quantum := by
              rw [apart]
              ring
      have left : remainder cap quantum first size ≤
          remainder cap quantum second size + later * quantum := by
        unfold remainder
        omega
      have served := ih left
      simp only [visits]
      omega

/-- More credit at the start never takes more turns. -/
theorem visits_antitone (positive : 0 < quantum) (queue : List Nat) {first second : Nat}
    (more : first ≤ second) :
    visits cap quantum second queue ≤ visits cap quantum first queue := by
  have covers : first ≤ second + 0 * quantum := by omega
  exact visits_le_add positive queue covers

/-- Skipping the head for one capped quantum saves at least a turn. -/
theorem visits_skip (positive : 0 < quantum) (deficit size : Nat) (rest : List Nat) :
    visits cap quantum (min cap (deficit + quantum)) rest + 1 ≤
      visits cap quantum deficit (size :: rest) := by
  obtain ⟨later, count⟩ := Nat.exists_eq_add_of_le (turns_pos quantum deficit size)
  have covers : remainder cap quantum deficit size ≤
      min cap (deficit + quantum) + later * quantum := by
    have credit : deficit + turns quantum deficit size * quantum =
        deficit + quantum + later * quantum := by
      rw [count]
      ring
    unfold remainder
    omega
  have behind : visits cap quantum (min cap (deficit + quantum)) rest ≤
      visits cap quantum (remainder cap quantum deficit size) rest + later :=
    visits_le_add positive rest covers
  simp only [visits]
  omega

end Chiplog.Data.Deficit

namespace Chiplog.Data.Deficit

/-! Deficit round robin, one visit after the other.

A visit credits a capped quantum to the queue and serves its head, if the credit covers it.
`turns` and `remainder` are what an item costs in visits and what it leaves over. -/

/-- One visit. -/
def visit (cap quantum : Nat) : Int × List Nat → Int × List Nat
  | (deficit, []) => (deficit, [])
  | (deficit, size :: rest) =>
      let credited := min (cap : Int) (deficit + quantum)
      if size ≤ credited then (credited - size, rest) else (credited, size :: rest)

variable {cap quantum : Nat}

/-- The deficit never leaves its range. -/
theorem visit_bounded {state : Int × List Nat} (bounded : 0 ≤ state.1 ∧ state.1 ≤ cap) :
    0 ≤ (visit cap quantum state).1 ∧ (visit cap quantum state).1 ≤ cap := by
  obtain ⟨deficit, queue⟩ := state
  dsimp only at bounded
  cases queue with
  | nil => exact bounded
  | cons size rest =>
      simp only [visit]
      split <;> omega

theorem iterate_bounded {state : Int × List Nat} (bounded : 0 ≤ state.1 ∧ state.1 ≤ cap)
    (count : Nat) :
    0 ≤ ((visit cap quantum)^[count] state).1 ∧ ((visit cap quantum)^[count] state).1 ≤ cap := by
  induction count with
  | zero => exact bounded
  | succ count ih =>
      rw [Function.iterate_succ_apply']
      exact visit_bounded ih

/-- Fewer turns than an item takes do not cover it. -/
theorem credit_lt_size (positive : 0 < quantum) {deficit size count : Nat}
    (early : count + 1 < turns quantum deficit size) :
    deficit + (count + 1) * quantum < size := by
  have many : count + 1 < (size - deficit + quantum - 1) / quantum := by
    unfold turns at early
    omega
  have whole : (count + 1 + 1) * quantum ≤ size - deficit + quantum - 1 :=
    (Nat.mul_le_mul_right quantum many).trans (Nat.div_mul_le_self _ _)
  rw [Nat.succ_mul] at whole
  omega

/-- The head waits while its credit accrues up to the cap. -/
theorem iterate_waits (positive : 0 < quantum) {deficit size : Nat} (rest : List Nat)
    (within : deficit ≤ cap) (fits : size ≤ cap) {count : Nat}
    (early : count < turns quantum deficit size) :
    (visit cap quantum)^[count] ((deficit : Int), size :: rest) =
      (((min cap (deficit + count * quantum) : Nat) : Int), size :: rest) := by
  induction count with
  | zero => simp [within]
  | succ count ih =>
      have uncovered := credit_lt_size positive early
      rw [Nat.succ_mul] at uncovered ⊢
      rw [Function.iterate_succ_apply', ih (Nat.lt_of_succ_lt early)]
      have credited : min (cap : Int) (((min cap (deficit + count * quantum) : Nat) : Int) + quantum) =
          ((min cap (deficit + (count * quantum + quantum)) : Nat) : Int) := by
        omega
      simp only [visit, credited]
      rw [if_neg (by omega)]

/-- An item is served at its last turn, the first that covers it. -/
theorem iterate_serves (positive : 0 < quantum) {deficit size : Nat} (rest : List Nat)
    (within : deficit ≤ cap) (fits : size ≤ cap) :
    (visit cap quantum)^[turns quantum deficit size] ((deficit : Int), size :: rest) =
      ((remainder cap quantum deficit size : Int), rest) := by
  obtain ⟨count, last⟩ := Nat.exists_eq_succ_of_ne_zero (turns_pos quantum deficit size).ne'
  have covered := size_le_credit positive deficit size
  unfold remainder
  rw [last, Nat.succ_mul] at covered ⊢
  rw [Function.iterate_succ_apply', iterate_waits positive rest within fits (by omega)]
  have credited : min (cap : Int) (((min cap (deficit + count * quantum) : Nat) : Int) + quantum) =
      ((min cap (deficit + (count * quantum + quantum)) : Nat) : Int) := by
    omega
  simp only [visit, credited]
  rw [if_pos (by omega)]
  congr 1
  omega

theorem remainder_le (deficit size : Nat) : remainder cap quantum deficit size ≤ cap := by
  unfold remainder
  omega

/-- A queue is empty after its visits, and not before. -/
theorem iterate_drains (positive : 0 < quantum) {queue : List Nat} {deficit : Nat}
    (within : deficit ≤ cap) (fits : ∀ size ∈ queue, size ≤ cap) :
    (visit cap quantum)^[visits cap quantum deficit queue] ((deficit : Int), queue) =
        ((settle cap quantum deficit queue : Int), []) ∧
      ∀ count < visits cap quantum deficit queue,
        ((visit cap quantum)^[count] ((deficit : Int), queue)).2 ≠ [] := by
  induction queue generalizing deficit with
  | nil =>
      refine ⟨rfl, ?_⟩
      intro count early
      exact absurd early (Nat.not_lt_zero count)
  | cons size rest ih =>
      have first := fits size List.mem_cons_self
      have served := iterate_serves positive rest within first
      obtain ⟨drained, busy⟩ := ih (@remainder_le cap quantum deficit size)
        (fun other inside => fits other (List.mem_cons_of_mem size inside))
      constructor
      · rw [visits, Nat.add_comm, Function.iterate_add_apply, served]
        exact drained
      · intro count early
        simp only [visits] at early
        by_cases waiting : count < turns quantum deficit size
        · rw [iterate_waits positive rest within first waiting]
          exact List.cons_ne_nil size rest
        · obtain ⟨later, rfl⟩ := Nat.exists_eq_add_of_le (Nat.le_of_not_lt waiting)
          rw [Nat.add_comm, Function.iterate_add_apply, served]
          exact busy later (by omega)

end Chiplog.Data.Deficit
