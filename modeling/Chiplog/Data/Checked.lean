import Mathlib

namespace Chiplog.Data

variable {items : List α} {compute : α → Except ε β}

/-! Guarded computations.

`raiseIf` is the statement `if condition: raise error`.  A function written as a
sequence of such guards is peeled apart by `bind_ok`, so a client learns every
guard that a successful call passed and never unfolds the `Except` monad. -/

def raiseIf (condition : Prop) [Decidable condition] (error : ε) : Except ε Unit :=
  if condition then .error error else .ok ()

theorem raiseIf_ok {condition : Prop} [Decidable condition] {error : ε} {value : Unit} :
    raiseIf condition error = .ok value ↔ ¬ condition := by
  unfold raiseIf
  split <;> simp_all

theorem raiseIf_error {condition : Prop} [Decidable condition] {error reason : ε} :
    raiseIf condition error = .error reason ↔ condition ∧ error = reason := by
  unfold raiseIf
  split <;> simp_all

@[simp] theorem raiseIf_pos {condition : Prop} [Decidable condition] {error : ε}
    (holds : condition) : raiseIf condition error = .error error :=
  if_pos holds

@[simp] theorem raiseIf_neg {condition : Prop} [Decidable condition] {error : ε}
    (fails : ¬ condition) : raiseIf condition error = .ok () :=
  if_neg fails

theorem bind_ok {computation : Except ε α} {continuation : α → Except ε β} {result : β} :
    (computation >>= continuation) = .ok result ↔
      ∃ value, computation = .ok value ∧ continuation value = .ok result := by
  cases computation <;> simp [bind, Except.bind]

theorem bind_error {computation : Except ε α} {continuation : α → Except ε β} {reason : ε} :
    (computation >>= continuation) = .error reason ↔
      computation = .error reason ∨
        ∃ value, computation = .ok value ∧ continuation value = .error reason := by
  cases computation <;> simp [bind, Except.bind]

theorem pure_ok {value result : α} :
    (pure value : Except ε α) = .ok result ↔ value = result := by
  simp [pure, Except.pure]

@[simp] theorem ok_bind (value : α) (continuation : α → Except ε β) :
    ((Except.ok value : Except ε α) >>= continuation) = continuation value := rfl

/-- `if condition: check`. -/
def checkIf (condition : Prop) [Decidable condition] (check : Except ε Unit) : Except ε Unit :=
  if condition then check else .ok ()

theorem checkIf_ok {condition : Prop} [Decidable condition] {check : Except ε Unit} {value : Unit} :
    checkIf condition check = .ok value ↔ (condition → check = .ok ()) := by
  unfold checkIf
  split <;> simp_all

/-- `for item in items: check(item)`. -/
def forEach (check : α → Except ε Unit) : List α → Except ε Unit
  | [] => .ok ()
  | item :: rest => do
      check item
      forEach check rest

theorem forEach_ok {check : α → Except ε Unit} {value : Unit} :
    forEach check items = .ok value ↔ ∀ item ∈ items, check item = .ok () := by
  induction items with
  | nil => simp [forEach]
  | cons item rest ih =>
      simp only [forEach, bind_ok, ih, List.forall_mem_cons]
      exact ⟨fun ⟨_, first, rest⟩ => ⟨first, rest⟩, fun ⟨first, rest⟩ => ⟨(), first, rest⟩⟩

theorem mapM_eq_ok {result : α → β} (pointwise : ∀ item, compute item = .ok (result item)) :
    items.mapM compute = .ok (items.map result) := by
  induction items with
  | nil => rfl
  | cons item rest ih =>
      rw [List.mapM_cons, pointwise, ok_bind, ih]
      rfl

theorem mapM_map_ok {compute : β → Except ε γ} {key : α → β} {result : α → γ}
    (each : ∀ item ∈ items, compute (key item) = .ok (result item)) :
    (items.map key).mapM compute = .ok (items.map result) := by
  induction items with
  | nil => rfl
  | cons item items ih =>
      rw [List.map_cons, List.mapM_cons, each item List.mem_cons_self, ok_bind,
        ih (fun other member => each other (List.mem_cons_of_mem _ member))]
      rfl

/-- A comprehension whose items all return keeps what each of them returns. -/
theorem mapM_filterMap_ok {pick : α → Option β}
    (each : ∀ item ∈ items, ∃ result, compute item = .ok result ∧ pick item = some result) :
    items.mapM compute = .ok (items.filterMap pick) := by
  induction items with
  | nil => rfl
  | cons item rest ih =>
      obtain ⟨result, computed, picked⟩ := each item List.mem_cons_self
      rw [List.mapM_cons, computed, ok_bind, List.filterMap_cons, picked,
        ih (fun other member => each other (List.mem_cons_of_mem _ member))]
      rfl

/-- Every result of a comprehension comes from one of its items. -/
theorem mem_of_mapM_ok {results : List β} {result : β}
    (returned : items.mapM compute = .ok results) (member : result ∈ results) :
    ∃ item ∈ items, compute item = .ok result := by
  induction items generalizing results with
  | nil =>
      cases pure_ok.mp returned
      cases member
  | cons item rest ih =>
      simp only [List.mapM_cons, bind_ok, pure_ok] at returned
      obtain ⟨first, computed, later, returned, rfl⟩ := returned
      rcases List.mem_cons.mp member with rfl | inside
      · exact ⟨item, List.mem_cons_self, computed⟩
      · obtain ⟨other, among, computes⟩ := ih returned inside
        exact ⟨other, List.mem_cons_of_mem _ among, computes⟩

/-- Every item of a comprehension has a result. -/
theorem result_of_mapM_ok {results : List β} {item : α}
    (returned : items.mapM compute = .ok results) (member : item ∈ items) :
    ∃ result ∈ results, compute item = .ok result := by
  induction items generalizing results with
  | nil => cases member
  | cons first rest ih =>
      simp only [List.mapM_cons, bind_ok, pure_ok] at returned
      obtain ⟨result, computed, later, returned, rfl⟩ := returned
      rcases List.mem_cons.mp member with rfl | inside
      · exact ⟨result, List.mem_cons_self, computed⟩
      · obtain ⟨other, among, computes⟩ := ih returned inside
        exact ⟨other, List.mem_cons_of_mem _ among, computes⟩

/-- A loop that returns has taken a round for each of its items. -/
theorem foldlM_mem_ok {step : σ → α → Except ε σ} {start final : σ} {item : α}
    (returned : items.foldlM step start = .ok final) (member : item ∈ items) :
    ∃ state next, step state item = .ok next := by
  induction items generalizing start with
  | nil => cases member
  | cons first rest ih =>
      simp only [List.foldlM_cons, bind_ok] at returned
      obtain ⟨next, round, returned⟩ := returned
      rcases List.mem_cons.mp member with rfl | later
      · exact ⟨start, next, round⟩
      · exact ih returned later

/-- A loop that returns keeps what every round keeps. -/
theorem foldlM_invariant {step : σ → α → Except ε σ} {start final : σ}
    (invariant : List α → σ → Prop) (begin : invariant [] start)
    (keep : ∀ done item state next, invariant done state → step state item = .ok next →
      invariant (done ++ [item]) next)
    (returned : items.foldlM step start = .ok final) : invariant items final := by
  induction items using List.reverseRecOn generalizing final with
  | nil =>
      cases returned
      exact begin
  | append_singleton done item ih =>
      simp only [List.foldlM_append, List.foldlM_cons, List.foldlM_nil, bind_ok, pure_ok] at returned
      obtain ⟨state, earlier, next, round, rfl⟩ := returned
      exact keep done item state next (ih earlier) round

/-- Every failure of `computation` is an allowed one. -/
def Raises (allowed : ε → Prop) (computation : Except ε α) : Prop :=
  ∀ reason, computation = .error reason → allowed reason

namespace Raises

variable {allowed : ε → Prop}

theorem ok (value : α) : Raises allowed (.ok value) := by
  intro reason impossible
  cases impossible

theorem error {reason : ε} (holds : allowed reason) :
    Raises allowed (.error reason : Except ε α) := by
  rintro _ ⟨⟩
  exact holds

theorem bind {computation : Except ε α} {continuation : α → Except ε β}
    (first : Raises allowed computation)
    (rest : ∀ value, computation = .ok value → Raises allowed (continuation value)) :
    Raises allowed (computation >>= continuation) := by
  intro reason failed
  rcases bind_error.mp failed with early | ⟨value, passed, late⟩
  · exact first reason early
  · exact rest value passed reason late

theorem raiseIf {condition : Prop} [Decidable condition] {reason : ε} (holds : allowed reason) :
    Raises allowed (raiseIf condition reason) := by
  intro raised failed
  exact (raiseIf_error.mp failed).2 ▸ holds

theorem checkIf {condition : Prop} [Decidable condition] {check : Except ε Unit}
    (raises : Raises allowed check) : Raises allowed (checkIf condition check) := by
  unfold Data.checkIf
  split
  · exact raises
  · exact ok ()

theorem forEach {check : α → Except ε Unit} (raises : ∀ item, Raises allowed (check item))
    (items : List α) : Raises allowed (forEach check items) := by
  induction items with
  | nil => exact ok ()
  | cons item rest ih => exact (raises item).bind (fun _ _ => ih)

theorem foldlM {step : σ → α → Except ε σ} {items : List α}
    (raises : ∀ state, ∀ item ∈ items, Raises allowed (step state item)) (start : σ) :
    Raises allowed (items.foldlM step start) := by
  induction items generalizing start with
  | nil => exact ok start
  | cons item rest ih =>
      rw [List.foldlM_cons]
      apply (raises start item List.mem_cons_self).bind
      intro next _
      exact ih (fun state other member => raises state other (List.mem_cons_of_mem _ member)) next

end Raises

end Chiplog.Data
