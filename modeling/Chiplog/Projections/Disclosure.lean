import Chiplog.AgentLoop.Disclosure

namespace Chiplog.Projections

variable {joined : DisclosureLabel}

open Chiplog.Data Chiplog.AgentLoop

/-! The disclosure lattice of the projections.

Its loop validates each label before it looks at the value; it accepts the tuples that the
agent loop accepts, and joins them to the same label. -/

structure WorkspaceRejected where
  reason : String
deriving DecidableEq

abbrev Projecting (α : Type) := Except WorkspaceRejected α

def validateLabel (value : DisclosureLabel) : Projecting Unit := do
  let endpoints := value.allowedEndpoints
  raiseIf (endpoints ≠ sortedSet endpoints ∨ "" ∈ endpoints) ⟨"noncanonical disclosure endpoints"⟩
  raiseIf (¬ (value.value = .endpointRestricted ↔ endpoints ≠ []))
    ⟨"invalid disclosure lattice member"⟩

/-- A label of the lattice, checked as it is made. -/
def label (value : LabelValue) (endpoints : List String) : Projecting DisclosureLabel := do
  validateLabel ⟨value, endpoints⟩
  return ⟨value, endpoints⟩

/-- One round of the loop; its accumulators are `allowed` and `denied`. -/
def joinValue (joined : LabelJoin) (value : DisclosureLabel) : Projecting LabelJoin := do
  validateLabel value
  match value.value with
  | .denyAll => return { joined with deny := true }
  | .endpointRestricted => return { joined with
      endpoints := some (match joined.endpoints with
        | none => value.allowedEndpoints.dedup
        | some allowed => allowed.filter (fun endpoint => endpoint ∈ value.allowedEndpoints)) }
  | .unrestricted => return joined

def join (values : List DisclosureLabel) : Projecting DisclosureLabel := do
  raiseIf (values = []) ⟨"missing disclosure label"⟩
  let joined ← values.foldlM joinValue ⟨none, false⟩
  if joined.deny ∨ joined.endpoints = some [] then label .denyAll []
  else
    match joined.endpoints with
    | none => label .unrestricted []
    | some allowed => label .endpointRestricted (sortedSet allowed)

theorem validateLabel_ok {value : DisclosureLabel} {checked : Unit} :
    validateLabel value = .ok checked ↔ value.WellFormed := by
  simp only [validateLabel, bind_ok, raiseIf_ok, not_or, not_not, exists_const]
  constructor
  · rintro ⟨⟨canonical, named⟩, restricted⟩
    exact ⟨eq_sortedSet_iff.mp canonical, named, restricted⟩
  · intro formed
    exact ⟨⟨eq_sortedSet_iff.mpr formed.ascending, formed.named⟩, formed.restricted⟩

theorem label_ok {value : LabelValue} {endpoints : List String} {made : DisclosureLabel} :
    label value endpoints = .ok made ↔ made.WellFormed ∧ made = ⟨value, endpoints⟩ := by
  simp only [label, bind_ok, validateLabel_ok, pure_ok, exists_const]
  constructor
  · intro ⟨formed, same⟩
    exact ⟨same ▸ formed, same.symm⟩
  · intro ⟨formed, same⟩
    exact ⟨same ▸ formed, same.symm⟩

/-- Both loops take the same round. -/
theorem joinValue_ok {joined next : LabelJoin} {value : DisclosureLabel} :
    joinValue joined value = .ok next ↔ joinLabel joined value = .ok next := by
  rw [joinLabel_ok]
  simp only [joinValue, bind_ok, validateLabel_ok, exists_const]
  refine and_congr_right (fun _ => ?_)
  cases kind : value.value
  · simp [pure_ok, eq_comm (a := next)]
  · simp only [pure_ok, reduceIte, reduceCtorEq, decide_false, Bool.or_false]
    exact eq_comm
  · simp [pure_ok, eq_comm (a := next)]

theorem joinValues_ok {values : List DisclosureLabel} {start final : LabelJoin} :
    values.foldlM joinValue start = .ok final ↔ values.foldlM joinLabel start = .ok final := by
  induction values generalizing start with
  | nil => simp only [List.foldlM_nil, pure_ok]
  | cons value rest ih => simp only [List.foldlM_cons, bind_ok, joinValue_ok, ih]

/-- The label made of the accumulators, as the agent loop makes it without a check. -/
theorem joined_ok {state : LabelJoin} (formed : joined.WellFormed) :
    (if state.deny ∨ state.endpoints = some [] then label .denyAll []
      else match state.endpoints with
        | none => label .unrestricted []
        | some allowed => label .endpointRestricted (sortedSet allowed)) = .ok joined ↔
      (if state.deny ∨ state.endpoints = some [] then
        (return ⟨.denyAll, []⟩ : Looping DisclosureLabel)
      else match state.endpoints with
        | none => return ⟨.unrestricted, []⟩
        | some endpoints => return ⟨.endpointRestricted, sortedSet endpoints⟩) = .ok joined := by
  split
  · rw [label_ok, pure_ok, eq_comm, and_iff_right formed]
  · split
    · rw [label_ok, pure_ok, eq_comm, and_iff_right formed]
    · rw [label_ok, pure_ok, eq_comm, and_iff_right formed]

theorem join_formed {values : List DisclosureLabel}
    (returned : join values = .ok joined) : joined.WellFormed := by
  simp only [join, bind_ok] at returned
  obtain ⟨_, _, state, _, made⟩ := returned
  split at made
  · exact (label_ok.mp made).1
  · split at made
    · exact (label_ok.mp made).1
    · exact (label_ok.mp made).1

/-- The projections accept the tuples that the agent loop accepts, with the same join. -/
theorem join_ok {values : List DisclosureLabel} :
    join values = .ok joined ↔ joinLabels values = .ok joined := by
  constructor
  · intro returned
    have formed := join_formed returned
    simp only [join, joinLabels, bind_ok, raiseIf_ok, joinValues_ok] at returned ⊢
    obtain ⟨checked, nonempty, state, folded, result⟩ := returned
    exact ⟨checked, nonempty, state, folded, (joined_ok formed).mp result⟩
  · intro returned
    have formed := (joinLabels_ok.mp returned).2.2.1
    simp only [join, joinLabels, bind_ok, raiseIf_ok, joinValues_ok] at returned ⊢
    obtain ⟨checked, nonempty, state, folded, result⟩ := returned
    exact ⟨checked, nonempty, state, folded, (joined_ok formed).mpr result⟩

end Chiplog.Projections
