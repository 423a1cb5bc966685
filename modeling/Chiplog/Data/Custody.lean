import Mathlib

namespace Chiplog.Data

/-! Claim before acting.

A party first records a claim on a key, which succeeds once per key and is never taken
back; the permit it gets in return allows one act.  Permits can be lost.  However the
parties interleave, no key is acted on twice and every act was claimed before. -/

structure Custody (κ : Type) where
  claims : Set κ
  permits : Multiset κ
  acts : List κ

namespace Custody

variable {κ : Type}

def initial : Custody κ := ⟨∅, 0, []⟩

inductive Step : Custody κ → Custody κ → Prop
  | idle (state : Custody κ) : Step state state
  | claim {claims : Set κ} (permits : Multiset κ) (acts : List κ) {key : κ}
      (fresh : key ∉ claims) : Step ⟨claims, permits, acts⟩ ⟨insert key claims, key ::ₘ permits, acts⟩
  | act (claims : Set κ) (permits : Multiset κ) (acts : List κ) (key : κ) :
      Step ⟨claims, key ::ₘ permits, acts⟩ ⟨claims, permits, acts ++ [key]⟩
  | lose (claims : Set κ) (permits : Multiset κ) (acts : List κ) (key : κ) :
      Step ⟨claims, key ::ₘ permits, acts⟩ ⟨claims, permits, acts⟩

/-- Permits and acts together use every key at most once, and only claimed keys. -/
structure Sound (state : Custody κ) : Prop where
  once : (state.permits + (state.acts : Multiset κ)).Nodup
  claimed : ∀ key ∈ state.permits + (state.acts : Multiset κ), key ∈ state.claims

theorem sound_initial : (initial : Custody κ).Sound :=
  ⟨by simp [initial], by simp [initial]⟩

theorem Step.sound {before after : Custody κ} (step : Step before after)
    (sound : before.Sound) : after.Sound := by
  cases step with
  | idle => exact sound
  | claim permits acts fresh =>
      rename_i claims key
      constructor
      · simp only [Multiset.cons_add, Multiset.nodup_cons]
        exact ⟨fun used => fresh (sound.claimed key used), sound.once⟩
      · intro other member
        simp only [Multiset.cons_add, Multiset.mem_cons] at member
        rcases member with rfl | earlier
        · exact Set.mem_insert _ _
        · exact Set.mem_insert_of_mem _ (sound.claimed other earlier)
  | act claims permits acts key =>
      have moved : permits + ((acts ++ [key] : List κ) : Multiset κ) =
          (key ::ₘ permits) + (acts : Multiset κ) := by
        rw [← Multiset.coe_add, Multiset.coe_singleton, ← Multiset.singleton_add key permits,
          Multiset.add_comm _ {key}, ← Multiset.add_assoc, Multiset.add_comm permits]
      exact ⟨moved ▸ sound.once, fun other member => sound.claimed other (moved ▸ member)⟩
  | lose claims permits acts key =>
      have fewer : permits + (acts : Multiset κ) ≤ (key ::ₘ permits) + (acts : Multiset κ) :=
        Multiset.add_le_add_right (Multiset.le_cons_self permits key)
      exact ⟨Multiset.nodup_of_le fewer sound.once,
        fun other member => sound.claimed other (Multiset.mem_of_le fewer member)⟩

theorem Sound.acts_nodup {state : Custody κ} (sound : state.Sound) : state.acts.Nodup :=
  Multiset.coe_nodup.mp (Multiset.nodup_of_le (Multiset.le_add_left _ _) sound.once)

theorem Sound.acted {state : Custody κ} (sound : state.Sound) {key : κ}
    (member : key ∈ state.acts) : key ∈ state.claims :=
  sound.claimed key (Multiset.mem_add.mpr (.inr (Multiset.mem_coe.mpr member)))

end Custody

end Chiplog.Data
