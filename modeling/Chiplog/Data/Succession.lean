import Mathlib

namespace Chiplog.Data

/-! Append-only logs of succession.

Every record either starts a family under its own key or follows a record that nothing
follows yet.  Then each record has at most one successor, every chain of predecessors ends
at the start of its family, and each family has exactly one open record. -/

/-- How a record names itself, its predecessor and its family. -/
structure Succession (α κ : Type) where
  key : α → κ
  parent : α → Option κ
  family : α → κ

namespace Succession

variable {α κ : Type} (succession : Succession α κ)

/-- `later` names `earlier` as its predecessor, both in the log. -/
def Follows (records : List α) (later earlier : α) : Prop :=
  later ∈ records ∧ earlier ∈ records ∧
    succession.parent later = some (succession.key earlier)

/-- Nothing in the log follows the record. -/
def Open (records : List α) (record : α) : Prop :=
  ∀ later ∈ records, succession.parent later ≠ some (succession.key record)

/-- What one more record has to be. -/
inductive Extends (records : List α) (record : α) : Prop
  | root (first : succession.parent record = none)
      (own : succession.family record = succession.key record)
  | next (earlier : α) (member : earlier ∈ records)
      (parent : succession.parent record = some (succession.key earlier))
      (unfollowed : succession.Open records earlier)
      (family : succession.family record = succession.family earlier)

inductive Log : List α → Prop
  | nil : Log []
  | snoc {records : List α} {record : α} (log : Log records)
      (fresh : ∀ stored ∈ records, succession.key stored ≠ succession.key record)
      (extension : succession.Extends records record) : Log (records ++ [record])

variable {succession} {records : List α} {record later earlier : α}

theorem Follows.append (follows : succession.Follows records later earlier) (more : List α) :
    succession.Follows (records ++ more) later earlier :=
  ⟨List.mem_append_left _ follows.1, List.mem_append_left _ follows.2.1, follows.2.2⟩

theorem Log.keys (log : succession.Log records) : (records.map succession.key).Nodup := by
  induction log with
  | nil => exact .nil
  | snoc log fresh extension ih =>
      simp only [List.map_append, List.map_cons, List.map_nil]
      apply List.nodup_append'.mpr
      refine ⟨ih, List.nodup_singleton _, ?_⟩
      simpa [List.disjoint_singleton] using fresh

theorem Log.eq_of_key (log : succession.Log records) (member : record ∈ records)
    (other : later ∈ records) (same : succession.key record = succession.key later) :
    record = later :=
  List.inj_on_of_nodup_map log.keys member other same

/-- A predecessor is in the log, in the same family. -/
theorem Log.parent_mem (log : succession.Log records) (member : record ∈ records) {key : κ}
    (parent : succession.parent record = some key) :
    ∃ earlier ∈ records, succession.key earlier = key ∧
      succession.family record = succession.family earlier := by
  induction log generalizing record with
  | nil => cases member
  | snoc log fresh extension ih =>
      cases List.mem_append.mp member with
      | inl old =>
          obtain ⟨earlier, present, named, family⟩ := ih old parent
          exact ⟨earlier, List.mem_append_left _ present, named, family⟩
      | inr new =>
          cases List.mem_singleton.mp new
          cases extension with
          | root first =>
              rw [first] at parent
              cases parent
          | next earlier present names unfollowed family =>
              rw [names] at parent
              cases parent
              exact ⟨earlier, List.mem_append_left _ present, rfl, family⟩

theorem Log.follows_family (log : succession.Log records)
    (follows : succession.Follows records later earlier) :
    succession.family later = succession.family earlier := by
  obtain ⟨target, present, named, family⟩ := log.parent_mem follows.1 follows.2.2
  rw [family, log.eq_of_key present follows.2.1 named]

/-- At most one record follows another. -/
theorem Log.single (log : succession.Log records) {first second : α} {key : κ}
    (member : first ∈ records) (other : second ∈ records)
    (parent : succession.parent first = some key)
    (otherParent : succession.parent second = some key) : first = second := by
  induction log with
  | nil => cases member
  | @snoc records record log fresh extension ih =>
      -- the last record follows one that nothing before it follows
      have last : ∀ candidate ∈ records, succession.parent record = some key →
          succession.parent candidate ≠ some key := by
        intro candidate present parent
        cases extension with
        | root first =>
            rw [first] at parent
            cases parent
        | next earlier _ names unfollowed =>
            rw [names] at parent
            cases parent
            exact unfollowed candidate present
      cases List.mem_append.mp member with
      | inl old =>
          cases List.mem_append.mp other with
          | inl otherOld => exact ih old otherOld
          | inr otherNew =>
              cases List.mem_singleton.mp otherNew
              exact absurd parent (last first old otherParent)
      | inr new =>
          cases List.mem_singleton.mp new
          cases List.mem_append.mp other with
          | inl otherOld => exact absurd otherParent (last second otherOld parent)
          | inr otherNew => exact (List.mem_singleton.mp otherNew).symm

/-- Every chain of predecessors ends at the start of its family. -/
theorem Log.chain (log : succession.Log records) (member : record ∈ records) :
    ∃ root ∈ records, Relation.ReflTransGen (succession.Follows records) record root ∧
      succession.parent root = none ∧ succession.family root = succession.key root := by
  induction log generalizing record with
  | nil => cases member
  | @snoc records last log fresh extension ih =>
      have old : ∀ earlier ∈ records, ∃ root ∈ records ++ [last],
          Relation.ReflTransGen (succession.Follows (records ++ [last])) earlier root ∧
            succession.parent root = none ∧ succession.family root = succession.key root := by
        intro earlier present
        obtain ⟨root, rootPresent, path, first, own⟩ := ih present
        refine ⟨root, List.mem_append_left _ rootPresent, ?_, first, own⟩
        apply Relation.ReflTransGen.mono _ _ _ path
        intro later earlier follows
        exact follows.append [last]
      cases List.mem_append.mp member with
      | inl present => exact old record present
      | inr new =>
          cases List.mem_singleton.mp new
          cases extension with
          | root first own => exact ⟨last, member, .refl, first, own⟩
          | next earlier present names unfollowed family =>
              obtain ⟨root, rootPresent, path, first, own⟩ := old earlier present
              refine ⟨root, rootPresent, .head ?_ path, first, own⟩
              exact ⟨member, List.mem_append_left _ present, names⟩

/-- What a record shares with its predecessor is shared along the whole chain. -/
theorem chain_constant {β : Type} (value : α → β)
    (kept : ∀ later earlier, succession.Follows records later earlier →
      value later = value earlier)
    (path : Relation.ReflTransGen (succession.Follows records) later earlier) :
    value later = value earlier := by
  induction path with
  | refl => rfl
  | tail _ follows ih => exact ih.trans (kept _ _ follows)

/-- A family carries the key of its first record. -/
theorem Log.family_key (log : succession.Log records) (member : record ∈ records) :
    ∃ root ∈ records, succession.key root = succession.family record := by
  obtain ⟨root, present, path, -, own⟩ := log.chain member
  refine ⟨root, present, ?_⟩
  rw [← own]
  exact (chain_constant succession.family (fun _ _ => log.follows_family) path).symm

theorem Open.of_append {more : List α} (unfollowed : succession.Open (records ++ more) record) :
    succession.Open records record :=
  fun later present => unfollowed later (List.mem_append_left _ present)

/-- Nothing follows the last record of a log. -/
theorem Log.last_open (log : succession.Log records)
    (fresh : ∀ stored ∈ records, succession.key stored ≠ succession.key record)
    (extension : succession.Extends records record) :
    succession.Open (records ++ [record]) record := by
  intro later member parent
  cases List.mem_append.mp member with
  | inl old =>
      obtain ⟨earlier, present, named, -⟩ := log.parent_mem old parent
      exact fresh earlier present named
  | inr new =>
      cases List.mem_singleton.mp new
      cases extension with
      | root first =>
          rw [first] at parent
          cases parent
      | next earlier present names =>
          rw [names] at parent
          exact fresh earlier present (Option.some.inj parent)

/-- Each family has exactly one open record. -/
theorem Log.tip (log : succession.Log records) (member : record ∈ records) :
    ∃! tip, tip ∈ records ∧ succession.family tip = succession.family record ∧
      succession.Open records tip := by
  induction log generalizing record with
  | nil => cases member
  | @snoc records last log fresh extension ih =>
      have lastOpen := log.last_open fresh extension
      have lastMember : last ∈ records ++ [last] := List.mem_append_right _ (by simp)
      cases extension with
      | root first own =>
          -- a root opens a family of its own and follows nothing
          have apart : ∀ stored ∈ records, succession.family stored ≠ succession.family last := by
            intro stored present same
            obtain ⟨root, rootPresent, named⟩ := log.family_key present
            exact fresh root rootPresent (named.trans (same.trans own))
          cases List.mem_append.mp member with
          | inl old =>
              obtain ⟨tip, ⟨present, family, unfollowed⟩, unique⟩ := ih old
              refine ⟨tip, ⟨List.mem_append_left _ present, family, ?_⟩, ?_⟩
              · intro later laterMember parent
                cases List.mem_append.mp laterMember with
                | inl laterOld => exact unfollowed later laterOld parent
                | inr new =>
                    rw [List.mem_singleton.mp new, first] at parent
                    cases parent
              · rintro other ⟨otherMember, otherFamily, otherOpen⟩
                cases List.mem_append.mp otherMember with
                | inl otherOld => exact unique other ⟨otherOld, otherFamily, otherOpen.of_append⟩
                | inr new =>
                    rw [List.mem_singleton.mp new] at otherFamily
                    exact absurd otherFamily.symm (apart record old)
          | inr new =>
              cases List.mem_singleton.mp new
              refine ⟨last, ⟨lastMember, rfl, lastOpen⟩, ?_⟩
              rintro other ⟨otherMember, otherFamily, -⟩
              cases List.mem_append.mp otherMember with
              | inl otherOld => exact absurd otherFamily (apart other otherOld)
              | inr otherNew => exact List.mem_singleton.mp otherNew
      | next earlier present names unfollowed lastFamily =>
          -- the record it follows was the tip of the family until now
          have closed : ∀ other ∈ records, succession.Open (records ++ [last]) other →
              succession.family other ≠ succession.family earlier := by
            intro other otherOld otherOpen same
            obtain ⟨tip, -, unique⟩ := ih present
            have isEarlier : other = earlier :=
              (unique other ⟨otherOld, same, otherOpen.of_append⟩).trans
                (unique earlier ⟨present, rfl, unfollowed⟩).symm
            rw [isEarlier] at otherOpen
            exact otherOpen last lastMember names
          by_cases same : succession.family record = succession.family earlier
          · refine ⟨last, ⟨lastMember, lastFamily.trans same.symm, lastOpen⟩, ?_⟩
            rintro other ⟨otherMember, otherFamily, otherOpen⟩
            cases List.mem_append.mp otherMember with
            | inl otherOld => exact absurd (otherFamily.trans same) (closed other otherOld otherOpen)
            | inr otherNew => exact List.mem_singleton.mp otherNew
          · have old : record ∈ records := by
              cases List.mem_append.mp member with
              | inl old => exact old
              | inr new =>
                  rw [List.mem_singleton.mp new] at same
                  exact absurd lastFamily same
            obtain ⟨tip, ⟨tipPresent, family, tipOpen⟩, unique⟩ := ih old
            refine ⟨tip, ⟨List.mem_append_left _ tipPresent, family, ?_⟩, ?_⟩
            · intro later laterMember parent
              cases List.mem_append.mp laterMember with
              | inl laterOld => exact tipOpen later laterOld parent
              | inr new =>
                  rw [List.mem_singleton.mp new, names] at parent
                  have isEarlier := log.eq_of_key present tipPresent (Option.some.inj parent)
                  rw [isEarlier] at same
                  exact same family.symm
            · rintro other ⟨otherMember, otherFamily, otherOpen⟩
              cases List.mem_append.mp otherMember with
              | inl otherOld => exact unique other ⟨otherOld, otherFamily, otherOpen.of_append⟩
              | inr new =>
                  rw [List.mem_singleton.mp new, lastFamily] at otherFamily
                  exact absurd otherFamily.symm same

end Succession

end Chiplog.Data
