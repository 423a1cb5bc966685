import Chiplog.AgentLoop.Contracts
import Chiplog.Data.Checked
import Mathlib.Algebra.Order.BigOperators.Group.List
import Mathlib.Data.List.Dedup
import Mathlib.Data.List.Sort
import Mathlib.Data.String.Basic

namespace Chiplog.AgentLoop

open Chiplog.Data

/-! Disclosure labels and their join.

A label permits a set of endpoints; the join of a tuple of labels permits exactly what
all of them permit.  A well formed label is determined by what it permits. -/

/-- What the functions of the agent loop raise: `LoopRejected`, or an error of the libraries
they call. -/
inductive LoopError where
  | rejected (reason : String)
  | validationError
  | indexError
deriving DecidableEq

abbrev Looping (α : Type) := Except LoopError α

/-- `tuple(sorted(set(items)))`. -/
def sortedSet (items : List String) : List String := items.dedup.insertionSort (· ≤ ·)

/-- The accumulators of the loop in `join_labels`; a set is kept as a list. -/
structure LabelJoin where
  endpoints : Option (List String)
  deny : Bool

def joinLabel (joined : LabelJoin) (label : DisclosureLabel) : Looping LabelJoin := do
  let allowed := label.allowedEndpoints
  raiseIf (allowed ≠ sortedSet allowed ∨ "" ∈ allowed)
    (.rejected "noncanonical endpoint restrictions")
  raiseIf (¬ (label.value = .endpointRestricted ↔ allowed ≠ []))
    (.rejected "invalid disclosure lattice member")
  return {
    deny := joined.deny || label.value = .denyAll
    endpoints :=
      if label.value = .endpointRestricted then
        some (match joined.endpoints with
          | none => allowed.dedup
          | some known => known.filter (fun endpoint => endpoint ∈ allowed))
      else joined.endpoints }

def joinLabels (labels : List DisclosureLabel) : Looping DisclosureLabel := do
  raiseIf (labels = []) (.rejected "missing disclosure label is not unrestricted")
  let joined ← labels.foldlM joinLabel ⟨none, false⟩
  if joined.deny ∨ joined.endpoints = some [] then
    return ⟨.denyAll, []⟩
  else
    match joined.endpoints with
    | none => return ⟨.unrestricted, []⟩
    | some endpoints => return ⟨.endpointRestricted, sortedSet endpoints⟩

namespace DisclosureLabel

/-- What the lattice value means. -/
def Permits (label : DisclosureLabel) (endpoint : String) : Prop :=
  match label.value with
  | .unrestricted => True
  | .endpointRestricted => endpoint ∈ label.allowedEndpoints
  | .denyAll => False

instance (label : DisclosureLabel) (endpoint : String) : Decidable (label.Permits endpoint) := by
  unfold Permits
  cases label.value <;> infer_instance

/-- What `join_labels` checks of each member. -/
structure WellFormed (label : DisclosureLabel) : Prop where
  ascending : label.allowedEndpoints.Pairwise (· < ·)
  named : "" ∉ label.allowedEndpoints
  restricted : label.value = .endpointRestricted ↔ label.allowedEndpoints ≠ []

end DisclosureLabel

theorem sortedSet_ascending (items : List String) : (sortedSet items).Pairwise (· < ·) := by
  have sorted : (sortedSet items).Pairwise (· ≤ ·) := List.pairwise_insertionSort _ _
  have distinct : (sortedSet items).Nodup :=
    (List.perm_insertionSort _ _).nodup_iff.mpr (List.nodup_dedup _)
  exact (sorted.and distinct).imp (fun both => lt_of_le_of_ne both.1 both.2)

theorem mem_sortedSet {items : List String} {item : String} :
    item ∈ sortedSet items ↔ item ∈ items := by
  rw [sortedSet, List.mem_insertionSort, List.mem_dedup]

theorem eq_sortedSet_iff {items : List String} :
    items = sortedSet items ↔ items.Pairwise (· < ·) := by
  constructor
  · intro same
    rw [same]
    exact sortedSet_ascending items
  · intro ascending
    have distinct : items.Nodup := ascending.imp (fun order => ne_of_lt order)
    have sorted : items.Pairwise (· ≤ ·) := ascending.imp (fun order => le_of_lt order)
    rw [sortedSet, distinct.dedup, sorted.insertionSort_eq]

/-- Ascending lists with the same members are equal. -/
theorem ascending_ext {left right : List String} (leftAscending : left.Pairwise (· < ·))
    (rightAscending : right.Pairwise (· < ·)) (same : ∀ item, item ∈ left ↔ item ∈ right) :
    left = right := by
  have perm : left.Perm right := by
    rw [List.perm_ext_iff_of_nodup]
    · exact same
    · exact leftAscending.imp (fun order => ne_of_lt order)
    · exact rightAscending.imp (fun order => ne_of_lt order)
  exact perm.eq_of_pairwise' leftAscending rightAscending

/-- Some endpoint is missing from every finite restriction. -/
theorem exists_endpoint_not_mem (allowed : List String) : ∃ endpoint, endpoint ∉ allowed := by
  refine ⟨String.ofList (List.replicate ((allowed.map String.length).sum + 1) 'a'), ?_⟩
  intro member
  have bound := List.single_le_sum (fun _ _ => Nat.zero_le _) _
    (List.mem_map_of_mem (f := String.length) member)
  rw [String.length_ofList, List.length_replicate] at bound
  omega

namespace DisclosureLabel

theorem WellFormed.unrestricted_iff {label : DisclosureLabel} :
    label.value = .unrestricted ↔ ∀ endpoint, label.Permits endpoint := by
  obtain ⟨outside, missing⟩ := exists_endpoint_not_mem label.allowedEndpoints
  constructor
  · intro value endpoint
    simp [Permits, value]
  · intro permitted
    have here := permitted outside
    cases value : label.value <;> simp_all [Permits]

theorem WellFormed.denyAll_iff {label : DisclosureLabel} (formed : label.WellFormed) :
    label.value = .denyAll ↔ ∀ endpoint, ¬ label.Permits endpoint := by
  constructor
  · intro value endpoint
    simp [Permits, value]
  · intro denied
    have nonempty := formed.restricted
    cases value : label.value with
    | unrestricted => exact absurd (by simp [Permits, value]) (denied "")
    | endpointRestricted =>
        obtain ⟨endpoint, member⟩ := List.exists_mem_of_ne_nil _ (nonempty.mp value)
        exact absurd (by simpa [Permits, value] using member) (denied endpoint)
    | denyAll => rfl

/-- A well formed label is determined by what it permits. -/
theorem WellFormed.ext {left right : DisclosureLabel} (leftFormed : left.WellFormed)
    (rightFormed : right.WellFormed)
    (same : ∀ endpoint, left.Permits endpoint ↔ right.Permits endpoint) : left = right := by
  have unbounded : left.value = .unrestricted ↔ right.value = .unrestricted := by
    simp only [unrestricted_iff, same]
  have closed : left.value = .denyAll ↔ right.value = .denyAll := by
    simp only [leftFormed.denyAll_iff, rightFormed.denyAll_iff, same]
  have value : left.value = right.value := by
    cases leftValue : left.value <;> cases rightValue : right.value <;> simp_all
  have allowed : left.allowedEndpoints = right.allowedEndpoints := by
    by_cases restricted : left.value = .endpointRestricted
    · apply ascending_ext leftFormed.ascending rightFormed.ascending
      intro endpoint
      have members := same endpoint
      simpa [Permits, restricted, value ▸ restricted] using members
    · have leftEmpty := mt leftFormed.restricted.mpr restricted
      have rightEmpty := mt rightFormed.restricted.mpr (value ▸ restricted)
      rw [not_not.mp leftEmpty, not_not.mp rightEmpty]
  cases left
  cases right
  simp_all

end DisclosureLabel

namespace LabelJoin

/-- What the accumulators permit so far. -/
def Permits (joined : LabelJoin) (endpoint : String) : Prop :=
  joined.deny = false ∧ ∀ endpoints, joined.endpoints = some endpoints → endpoint ∈ endpoints

/-- The accumulators after the labels `done`. -/
structure Joins (done : List DisclosureLabel) (joined : LabelJoin) : Prop where
  formed : ∀ label ∈ done, label.WellFormed
  named : ∀ endpoints, joined.endpoints = some endpoints → "" ∉ endpoints
  permits : ∀ endpoint, joined.Permits endpoint ↔ ∀ label ∈ done, label.Permits endpoint

end LabelJoin

variable {labels : List DisclosureLabel}

theorem joinLabel_ok {joined next : LabelJoin} {label : DisclosureLabel} :
    joinLabel joined label = .ok next ↔ label.WellFormed ∧ next =
      { deny := joined.deny || label.value = .denyAll
        endpoints :=
          if label.value = .endpointRestricted then
            some (match joined.endpoints with
              | none => label.allowedEndpoints.dedup
              | some known => known.filter (fun endpoint => endpoint ∈ label.allowedEndpoints))
          else joined.endpoints } := by
  simp only [joinLabel, bind_ok, raiseIf_ok, pure_ok, not_or, not_not]
  constructor
  · rintro ⟨_, ⟨canonical, named⟩, _, restricted, same⟩
    exact ⟨⟨eq_sortedSet_iff.mp canonical, named, restricted⟩, same.symm⟩
  · rintro ⟨formed, same⟩
    exact ⟨(), ⟨eq_sortedSet_iff.mpr formed.ascending, formed.named⟩, (), formed.restricted,
      same.symm⟩

/-- One more label restricts the join by what it permits. -/
theorem LabelJoin.Joins.snoc {done : List DisclosureLabel} {joined next : LabelJoin}
    {label : DisclosureLabel} (joins : joined.Joins done)
    (step : joinLabel joined label = .ok next) : next.Joins (done ++ [label]) := by
  obtain ⟨formed, rfl⟩ := joinLabel_ok.mp step
  refine ⟨?_, ?_, ?_⟩
  · intro other member
    rcases List.mem_append.mp member with earlier | last
    · exact joins.formed other earlier
    · exact List.mem_singleton.mp last ▸ formed
  · intro endpoints stored
    have named := joins.named
    cases value : label.value <;> cases known : joined.endpoints <;>
      simp_all
    · exact stored ▸ fun member => formed.named (List.mem_dedup.mp member)
    · exact stored ▸ fun member => named (List.mem_of_mem_filter member)
  · intro endpoint
    have sofar := joins.permits endpoint
    simp only [List.mem_append, List.mem_singleton, or_imp, forall_and, forall_eq, ← sofar]
    cases value : label.value <;> cases known : joined.endpoints <;>
      simp [LabelJoin.Permits, DisclosureLabel.Permits, value, known]
    tauto

theorem joinLabels_fold (formed : ∀ label ∈ labels, label.WellFormed) (start : LabelJoin) :
    ∃ joined, labels.foldlM joinLabel start = .ok joined := by
  induction labels generalizing start with
  | nil => exact ⟨start, rfl⟩
  | cons label rest ih =>
      have step := (@joinLabel_ok start _ label).mpr ⟨formed label List.mem_cons_self, rfl⟩
      rw [List.foldlM_cons, step, ok_bind]
      exact ih (fun other member => formed other (List.mem_cons_of_mem _ member)) _

theorem joinLabels_joins {joined : LabelJoin}
    (folded : labels.foldlM joinLabel ⟨none, false⟩ = .ok joined) : joined.Joins labels := by
  apply foldlM_invariant (fun done state => state.Joins done) ?_ ?_ folded
  · exact ⟨nofun, nofun, fun endpoint => by simp [LabelJoin.Permits]⟩
  · intro done label state next joins step
    exact joins.snoc step

/-- The join exists for well formed labels and permits exactly what all of them permit. -/
theorem joinLabels_ok {joined : DisclosureLabel} :
    joinLabels labels = .ok joined ↔ labels ≠ [] ∧ (∀ label ∈ labels, label.WellFormed) ∧
      joined.WellFormed ∧
      ∀ endpoint, joined.Permits endpoint ↔ ∀ label ∈ labels, label.Permits endpoint := by
  have result : ∀ {state : LabelJoin}, labels ≠ [] → labels.foldlM joinLabel ⟨none, false⟩ = .ok state →
      ∃ label, joinLabels labels = .ok label ∧ label.WellFormed ∧
        ∀ endpoint, label.Permits endpoint ↔ state.Permits endpoint := by
    intro state nonempty folded
    have joins := joinLabels_joins folded
    simp only [joinLabels, raiseIf_neg nonempty, ok_bind, folded]
    by_cases denied : state.deny ∨ state.endpoints = some []
    · rw [if_pos denied]
      refine ⟨_, rfl, ⟨.nil, nofun, by simp⟩, ?_⟩
      intro endpoint
      rcases denied with deny | empty
      · simp [DisclosureLabel.Permits, LabelJoin.Permits, deny]
      · simp [DisclosureLabel.Permits, LabelJoin.Permits, empty]
    · rw [if_neg denied]
      have allowed : state.deny = false := by simpa using fun deny => denied (.inl deny)
      cases known : state.endpoints with
      | none =>
          refine ⟨_, rfl, ⟨.nil, nofun, by simp⟩, ?_⟩
          simp [DisclosureLabel.Permits, LabelJoin.Permits, known, allowed]
      | some endpoints =>
          have some : endpoints ≠ [] := fun empty => denied (.inr (known.trans (congrArg _ empty)))
          have sorted : sortedSet endpoints ≠ [] := by
            obtain ⟨endpoint, member⟩ := List.exists_mem_of_ne_nil _ some
            exact List.ne_nil_of_mem (mem_sortedSet.mpr member)
          refine ⟨_, rfl, ⟨sortedSet_ascending _, ?_, by simpa using sorted⟩, ?_⟩
          · exact fun member => joins.named endpoints known (mem_sortedSet.mp member)
          · simp [DisclosureLabel.Permits, LabelJoin.Permits, known, allowed, mem_sortedSet]
  constructor
  · intro returned
    have passed := returned
    simp only [joinLabels, bind_ok, raiseIf_ok] at passed
    obtain ⟨_, nonempty, state, folded, _⟩ := passed
    obtain ⟨label, found, formed, permits⟩ := result nonempty folded
    obtain rfl := Except.ok.inj (found.symm.trans returned)
    have joins := joinLabels_joins folded
    exact ⟨nonempty, joins.formed, formed,
      fun endpoint => (permits endpoint).trans (joins.permits endpoint)⟩
  · rintro ⟨nonempty, each, formed, permits⟩
    obtain ⟨state, folded⟩ := joinLabels_fold each ⟨none, false⟩
    obtain ⟨label, found, labelFormed, labelPermits⟩ := result nonempty folded
    have same : label = joined := labelFormed.ext formed (fun endpoint =>
      (labelPermits endpoint).trans
        (((joinLabels_joins folded).permits endpoint).trans (permits endpoint).symm))
    rw [found, same]

end Chiplog.AgentLoop
