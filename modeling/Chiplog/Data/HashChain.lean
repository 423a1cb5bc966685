import Mathlib

namespace Chiplog.Data.HashChain

/-! Append-only logs whose entries are named by a link over the entry before them.

A link that tells the predecessors in the log apart never repeats a name: a repeated name
would give two entries one predecessor, and so on down to the first entry, which has none. -/

structure Entry (κ β : Type) where
  id : κ
  predecessor : Option κ
  body : β

variable {κ β : Type}

/-- The name of the last entry. -/
def head (log : List (Entry κ β)) : Option κ := log.getLast?.map Entry.id

@[simp] theorem head_nil : head ([] : List (Entry κ β)) = none := rfl

@[simp] theorem head_snoc (log : List (Entry κ β)) (entry : Entry κ β) :
    head (log ++ [entry]) = some entry.id := by
  simp [head]

theorem head_eq_none {log : List (Entry κ β)} : head log = none ↔ log = [] := by
  simp [head]

theorem exists_of_head {log : List (Entry κ β)} {id : κ} (last : head log = some id) :
    ∃ entry ∈ log, entry.id = id := by
  obtain ⟨entry, isLast, rfl⟩ := Option.map_eq_some_iff.mp last
  exact ⟨entry, List.mem_of_getLast? isLast, rfl⟩

theorem head_append {front rest : List (Entry κ β)} (nonempty : rest ≠ []) :
    head (front ++ rest) = head rest := by
  cases rest with
  | nil => exact absurd rfl nonempty
  | cons entry rest => simp [head, List.getLast?_append, List.getLast?_cons]

/-- A log with distinct names that has grown does not end in an old name. -/
theorem head_ne_of_grown {front rest : List (Entry κ β)}
    (distinct : ((front ++ rest).map Entry.id).Nodup) (nonempty : rest ≠ []) {id : κ}
    (old : head front = some id) : head (front ++ rest) ≠ some id := by
  intro last
  rw [head_append nonempty] at last
  obtain ⟨early, earlyMember, earlyId⟩ := exists_of_head old
  obtain ⟨late, lateMember, lateId⟩ := exists_of_head last
  rw [List.map_append] at distinct
  apply List.disjoint_of_nodup_append distinct (List.mem_map_of_mem earlyMember)
  rw [earlyId, ← lateId]
  exact List.mem_map_of_mem lateMember

/-- In a log with distinct names the head tells the prefixes apart. -/
theorem front_unique {log first second rest other : List (Entry κ β)}
    (distinct : (log.map Entry.id).Nodup) (left : log = first ++ rest)
    (right : log = second ++ other) (same : head first = head second) : first = second := by
  have grown : ∀ front more tail : List (Entry κ β), log = (front ++ more) ++ tail →
      head front = head (front ++ more) → more = [] := by
    intro front more tail parts same
    by_contra nonempty
    cases known : head front with
    | none =>
        rw [known] at same
        exact nonempty (List.append_eq_nil_iff.mp (head_eq_none.mp same.symm)).2
    | some id =>
        rw [parts, List.map_append] at distinct
        exact head_ne_of_grown (List.nodup_append.mp distinct).1 nonempty known
          (same.symm.trans known)
  rcases List.append_eq_append_iff.mp (left.symm.trans right) with
    ⟨more, rfl, _⟩ | ⟨more, rfl, _⟩
  · rw [grown first more other right same, List.append_nil]
  · rw [grown second more rest left same.symm, List.append_nil]

/-- What holds of each record beside the log before it. -/
def AtEach {α : Type} (motive : List α → α → Prop) (log : List α) : Prop :=
  ∀ front record rest, log = front ++ record :: rest → motive front record

theorem AtEach.nil {α : Type} {motive : List α → α → Prop} : AtEach motive [] := by
  intro front record rest impossible
  simp at impossible

theorem AtEach.snoc {α : Type} {motive : List α → α → Prop} {log : List α} {last : α}
    (each : AtEach motive log) (final : motive log last) : AtEach motive (log ++ [last]) := by
  intro front record rest parts
  induction rest using List.reverseRecOn with
  | nil =>
      obtain ⟨rfl, same⟩ := List.append_inj' parts rfl
      obtain rfl : last = record := by simpa using same
      exact final
  | append_singleton rest other _ =>
      have parts : log ++ [last] = (front ++ record :: rest) ++ [other] := by
        simpa using parts
      exact each front record rest (List.append_inj' parts rfl).1

variable {link : Option κ → β → κ}

/-- The entry that a body becomes at the end of the log. -/
def next (link : Option κ → β → κ) (log : List (Entry κ β)) (body : β) : Entry κ β :=
  ⟨link (head log) body, head log, body⟩

inductive Chained (link : Option κ → β → κ) : List (Entry κ β) → Prop
  | nil : Chained link []
  | snoc {log : List (Entry κ β)} (chained : Chained link log) (body : β) :
      Chained link (log ++ [next link log body])

/-- Equal names in the log come from equal predecessors. -/
def Separates (log : List (Entry κ β)) : Prop :=
  ∀ first ∈ log, ∀ second ∈ log, first.id = second.id → first.predecessor = second.predecessor

theorem Separates.left {log more : List (Entry κ β)} (separates : Separates (log ++ more)) :
    Separates log := by
  intro first firstMember second secondMember
  exact separates first (List.mem_append_left _ firstMember) second
    (List.mem_append_left _ secondMember)

theorem Chained.split {log : List (Entry κ β)} (chained : Chained link log) :
    AtEach (fun front entry => entry = next link front entry.body) log := by
  induction chained with
  | nil => exact AtEach.nil
  | snoc _ body ih => exact ih.snoc rfl

/-- The last name of a log with distinct names precedes none of its entries. -/
theorem predecessor_ne_head {log : List (Entry κ β)}
    (linked : AtEach (fun front entry => entry.predecessor = head front) log)
    (distinct : (log.map Entry.id).Nodup) {entry : Entry κ β} (member : entry ∈ log) :
    entry.predecessor ≠ head log := by
  intro same
  obtain ⟨front, rest, rfl⟩ := List.append_of_mem member
  have names : entry.predecessor = head front := linked front entry rest rfl
  cases known : head front with
  | none =>
      rw [same, known] at names
      exact absurd (head_eq_none.mp names) (by simp)
  | some id =>
      apply head_ne_of_grown distinct (List.cons_ne_nil entry rest) known
      rw [← same, names, known]

theorem Chained.linked {log : List (Entry κ β)} (chained : Chained link log) :
    AtEach (fun front entry => entry.predecessor = head front) log :=
  fun front entry rest parts => congrArg Entry.predecessor (chained.split front entry rest parts)

theorem Chained.ids_nodup {log : List (Entry κ β)} (chained : Chained link log)
    (separates : Separates log) : (log.map Entry.id).Nodup := by
  induction chained with
  | nil => exact List.nodup_nil
  | @snoc log chained body ih =>
      have distinct := ih separates.left
      rw [List.map_append, List.map_singleton]
      apply List.nodup_append.mpr ⟨distinct, List.nodup_singleton _, ?_⟩
      intro id member other otherMember same
      obtain rfl := List.mem_singleton.mp otherMember
      obtain ⟨entry, entryMember, rfl⟩ := List.mem_map.mp member
      apply predecessor_ne_head chained.linked distinct entryMember
      exact separates entry (by simp [entryMember]) (next link log body) (by simp) same

end Chiplog.Data.HashChain
