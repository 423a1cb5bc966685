import Mathlib

namespace Chiplog.Data

/-! Labelled runs.

A trace lists what each step of a run was.  Invariants are proved of one step and carried
along; events that each take a key no step gives back take distinct keys. -/

variable {σ ℓ : Type} {step : σ → ℓ → σ → Prop}

inductive Trace (step : σ → ℓ → σ → Prop) : σ → List ℓ → σ → Prop
  | nil (state : σ) : Trace step state [] state
  | cons {first next last : σ} {label : ℓ} {labels : List ℓ} (head : step first label next)
      (tail : Trace step next labels last) : Trace step first (label :: labels) last

namespace Trace

variable {first middle last : σ} {labels more : List ℓ}

theorem single {label : ℓ} (head : step first label last) : Trace step first [label] last :=
  .cons head (.nil last)

theorem append (trace : Trace step first labels middle) (rest : Trace step middle more last) :
    Trace step first (labels ++ more) last := by
  induction trace with
  | nil => exact rest
  | cons head _ ih => exact .cons head (ih rest)

theorem snoc {label : ℓ} (trace : Trace step first labels middle) (head : step middle label last) :
    Trace step first (labels ++ [label]) last :=
  trace.append (.single head)

/-- A run passes through a state between any two parts of it. -/
theorem split (trace : Trace step first (labels ++ more) last) :
    ∃ state, Trace step first labels state ∧ Trace step state more last := by
  induction labels generalizing first with
  | nil => exact ⟨first, .nil first, trace⟩
  | cons label labels ih =>
      cases trace with
      | cons head tail =>
          obtain ⟨state, front, rest⟩ := ih tail
          exact ⟨state, .cons head front, rest⟩

/-- What every step with an allowed label keeps, a run with such labels keeps. -/
theorem keep {allowed : ℓ → Prop} {holds : σ → Prop}
    (stable : ∀ before label after, allowed label → step before label after → holds before →
      holds after)
    (trace : Trace step first labels last) (every : ∀ label ∈ labels, allowed label)
    (start : holds first) : holds last := by
  induction trace with
  | nil => exact start
  | cons head _ ih =>
      obtain ⟨own, rest⟩ := List.forall_mem_cons.mp every
      exact ih rest (stable _ _ _ own head start)

theorem invariant {holds : σ → Prop}
    (stable : ∀ before label after, step before label after → holds before → holds after)
    (trace : Trace step first labels last) (start : holds first) : holds last :=
  have stable : ∀ before label after, True → step before label after → holds before →
      holds after := fun before label after _ => stable before label after
  trace.keep stable (fun _ _ => trivial) start

/-- An invariant of the states together with the labels that led to them. -/
theorem history {holds : List ℓ → σ → Prop}
    (stable : ∀ done before label after, holds done before → step before label after →
      holds (done ++ [label]) after)
    (trace : Trace step first labels last) {done : List ℓ} (start : holds done first) :
    holds (done ++ labels) last := by
  induction trace generalizing done with
  | nil => rwa [List.append_nil]
  | cons head _ ih =>
      have next := ih (stable done _ _ _ start head)
      rwa [List.append_assoc, List.singleton_append] at next

/-- Events that each take a key, which no step gives back, take distinct keys. -/
theorem distinct {κ : Type} {taking : ℓ → Option κ} {taken : σ → κ → Prop}
    (kept : ∀ before label after, step before label after → ∀ key, taken before key →
      taken after key)
    (takes : ∀ before label after, step before label after → ∀ key, taking label = some key →
      ¬ taken before key ∧ taken after key)
    (trace : Trace step first labels last) :
    (labels.filterMap taking).Nodup ∧ ∀ key, taken first key → key ∉ labels.filterMap taking := by
  induction trace with
  | nil => simp
  | @cons first next last label labels head tail ih =>
      obtain ⟨apart, untaken⟩ := ih
      cases event : taking label with
      | none =>
          rw [List.filterMap_cons_none event]
          exact ⟨apart, fun key known => untaken key (kept _ _ _ head key known)⟩
      | some own =>
          obtain ⟨free, now⟩ := takes _ _ _ head own event
          rw [List.filterMap_cons_some event]
          refine ⟨List.nodup_cons.mpr ⟨untaken own now, apart⟩, ?_⟩
          intro key known member
          rcases List.mem_cons.mp member with rfl | later
          · exact free known
          · exact untaken key (kept _ _ _ head key known) later

end Trace

end Chiplog.Data
