import Chiplog.Data.Deficit
import Chiplog.Data.Sha256
import Chiplog.Platform.SelectionDeadline

namespace Chiplog.Platform.Ingress

variable {reserve : ClassReserve} {bound : AdmissionBound}

open Chiplog.Data

/-! Blocking the head of a ready queue keeps every promised deadline.

The skipped visit costs one slot for each class, and the skipped head saves every descendant
at least one visit, so a bound that met its deadline meets it again.  No descendant is
compared with its neighbours: the two evaluations of one bound are. -/

theorem checked_ok {value result : Nat} :
    checked value = .ok result ↔ value = result ∧ value ≤ maxUInt64 := by
  unfold checked
  split
  · rename_i within
    have bounded : value ≤ maxUInt64 := by omega
    simp [bounded]
  · rename_i outside
    have unbounded : ¬ value ≤ maxUInt64 := by omega
    simp [unbounded]

theorem toNat_of_checked {value : Nat} (bounded : value ≤ maxUInt64) :
    (UInt64.ofNat value).toNat = value := by
  apply UInt64.toNat_ofNat_of_lt'
  unfold maxUInt64 at bounded
  simp only [UInt64.size]
  omega

/-- The accounted sizes of a queue. -/
def sizes (queue : List ReadyGeneration) : List Nat :=
  queue.map (fun item => item.accountedBytes.value)

theorem serve_ok {progress next : Nat × Nat} {item : ReadyGeneration}
    (returned : serve reserve progress item = .ok next) :
    next = (progress.1 + Deficit.turns reserve.byteQuantum.value progress.2
        item.accountedBytes.value,
      Deficit.remainder reserve.deficitCap.value reserve.byteQuantum.value progress.2
        item.accountedBytes.value) := by
  obtain ⟨_, _, returned⟩ := bind_ok.mp returned
  obtain ⟨visits, counted, returned⟩ := bind_ok.mp returned
  obtain ⟨credit, credited, returned⟩ := bind_ok.mp returned
  obtain ⟨accrued, accrues, returned⟩ := bind_ok.mp returned
  obtain ⟨rfl, _⟩ := checked_ok.mp counted
  obtain ⟨rfl, _⟩ := checked_ok.mp credited
  obtain ⟨rfl, _⟩ := checked_ok.mp accrues
  cases returned
  rfl

/-- The loop of `selection_deadline` counts the visits of the queue. -/
theorem serveAll_ok {queue : List ReadyGeneration}
    {progress final : Nat × Nat} (returned : queue.foldlM (serve reserve) progress = .ok final) :
    final = (progress.1 + Deficit.visits reserve.deficitCap.value reserve.byteQuantum.value
        progress.2 (sizes queue),
      Deficit.settle reserve.deficitCap.value reserve.byteQuantum.value progress.2
        (sizes queue)) := by
  induction queue generalizing progress with
  | nil =>
      cases returned
      rfl
  | cons item rest ih =>
      rw [List.foldlM_cons] at returned
      obtain ⟨next, served, returned⟩ := bind_ok.mp returned
      rw [ih returned, serve_ok served]
      simp [sizes, Deficit.visits, Deficit.settle, Nat.add_assoc]

/-- The visits a bound is evaluated with. -/
def AdmissionBound.visits (bound : AdmissionBound) : Nat :=
  Deficit.visits bound.reserve.deficitCap.value bound.reserve.byteQuantum.value
    bound.initialDeficit.toNat (sizes (bound.completeOrderedPredecessors ++ [bound.target]))

theorem selectionDeadline_ok {deadline deficit : Nat}
    (returned : selectionDeadline bound = .ok (deadline, deficit)) :
    deadline = bound.evaluationSlot + bound.canonicalClassOrder.length * bound.visits := by
  iterate 3 obtain ⟨_, _, returned⟩ := bind_ok.mp returned
  obtain ⟨start, started, returned⟩ := bind_ok.mp returned
  iterate 3 obtain ⟨_, _, returned⟩ := bind_ok.mp returned
  obtain ⟨⟨visits, left⟩, served, returned⟩ := bind_ok.mp returned
  obtain ⟨slots, scaled, returned⟩ := bind_ok.mp returned
  obtain ⟨_, _, returned⟩ := bind_ok.mp returned
  obtain ⟨total, summed, returned⟩ := bind_ok.mp returned
  obtain ⟨rfl, _⟩ := checked_ok.mp started
  obtain ⟨rfl, _⟩ := checked_ok.mp scaled
  obtain ⟨rfl, _⟩ := checked_ok.mp summed
  have counted : visits = bound.visits := by
    simpa [AdmissionBound.visits] using congrArg Prod.fst (serveAll_ok served)
  cases returned
  rw [counted]

/-- More deficit at the start never costs the loop a visit. -/
theorem serveAll_antitone {queue : List ReadyGeneration}
    {first second : Nat} {slower faster : Nat × Nat} (more : first ≤ second)
    (slow : queue.foldlM (serve reserve) (0, first) = .ok slower)
    (fast : queue.foldlM (serve reserve) (0, second) = .ok faster) : faster.1 ≤ slower.1 := by
  rw [serveAll_ok slow, serveAll_ok fast]
  simpa using Deficit.visits_antitone reserve.byteQuantum.range.1 (sizes queue) more

/-- Without its head and with one capped quantum more, the loop saves a visit. -/
theorem serveAll_skip {head : ReadyGeneration}
    {rest : List ReadyGeneration} {deficit : Nat} {whole skipped : Nat × Nat}
    (all : (head :: rest).foldlM (serve reserve) (0, deficit) = .ok whole)
    (later : rest.foldlM (serve reserve)
      (0, min reserve.deficitCap.value (deficit + reserve.byteQuantum.value)) = .ok skipped) :
    skipped.1 + 1 ≤ whole.1 := by
  rw [serveAll_ok all, serveAll_ok later]
  simpa [sizes] using Deficit.visits_skip reserve.byteQuantum.range.1 deficit
    head.accountedBytes.value (sizes rest)

/-- A ready queue of one class with the bounds that were evaluated over it. -/
structure ReadyQueue where
  reserve : ClassReserve
  classOrder : List FairnessClass
  fifo : List ReadyGeneration
  bounds : List AdmissionBound
  deficit : Nat
  slot : Nat

/-- The deficit after a skipped visit. -/
def ReadyQueue.credited (queue : ReadyQueue) : Nat :=
  min queue.reserve.deficitCap.value (queue.deficit + queue.reserve.byteQuantum.value)

theorem ReadyQueue.credited_le (queue : ReadyQueue) : queue.credited ≤ maxUInt64 :=
  (min_le_left _ _).trans queue.reserve.deficitCap.range.2

/-- The bounds are a complete inventory of the queue, and each keeps its promise. -/
structure ReadyQueue.Promised (queue : ReadyQueue) : Prop where
  length : queue.bounds.length = queue.fifo.length
  target : ∀ index bound, queue.bounds[index]? = some bound →
    queue.fifo[index]? = some bound.target ∧
      bound.completeOrderedPredecessors = queue.fifo.take index
  shared : ∀ bound ∈ queue.bounds, bound.reserve = queue.reserve ∧
    bound.canonicalClassOrder = queue.classOrder ∧ bound.initialDeficit.toNat = queue.deficit ∧
      bound.evaluationSlot = queue.slot
  kept : ∀ bound ∈ queue.bounds, ∃ deadline left,
    selectionDeadline bound = .ok (deadline, left) ∧
      deadline ≤ bound.absoluteSelectionDeadlineSlot.toNat

theorem checked_raises (value : Int) : Raises (· ≠ extendsDeadline) (checked value) := by
  unfold checked
  split
  · exact .ok _
  · exact .error (by decide)

theorem serve_raises (reserve : ClassReserve) (progress : Nat × Nat) (item : ReadyGeneration) :
    Raises (· ≠ extendsDeadline) (serve reserve progress item) := by
  unfold serve
  refine Raises.bind (.raiseIf (by decide)) (fun _ _ => ?_)
  iterate 3 refine (checked_raises _).bind (fun _ _ => ?_)
  exact .ok _

theorem selectionDeadline_raises (bound : AdmissionBound) :
    Raises (· ≠ extendsDeadline) (selectionDeadline bound) := by
  unfold selectionDeadline
  iterate 3 refine Raises.bind (.raiseIf (by decide)) (fun _ _ => ?_)
  refine (checked_raises _).bind (fun _ _ => ?_)
  iterate 3 refine Raises.bind (.raiseIf (by decide)) (fun _ _ => ?_)
  refine Raises.bind (.foldlM (fun _ _ _ => serve_raises _ _ _) _) (fun _ _ => ?_)
  refine (checked_raises _).bind (fun _ _ => ?_)
  refine Raises.bind (.raiseIf (by decide)) (fun _ _ => ?_)
  refine (checked_raises _).bind (fun _ _ => ?_)
  exact .ok _

/-- Behind the head, the queue before a descendant starts with the head. -/
theorem sizes_descendant {queue : ReadyQueue} {head : ReadyGeneration}
    {index : Nat} (first : queue.fifo.head? = some head) (behind : index ≠ 0)
    (predecessors : bound.completeOrderedPredecessors = queue.fifo.take index) :
    sizes (bound.completeOrderedPredecessors ++ [bound.target]) =
      head.accountedBytes.value ::
        sizes ((queue.fifo.take index).drop 1 ++ [bound.target]) := by
  obtain ⟨earlier, rfl⟩ := Nat.exists_eq_succ_of_ne_zero behind
  obtain ⟨rest, split⟩ := List.head?_eq_some_iff.mp first
  rw [predecessors, split]
  simp [sizes]

/-- A descendant that is evaluated again still meets the deadline it was promised. -/
theorem remaining_within {queue : ReadyQueue} {head : ReadyGeneration}
    {index consumed deadline left : Nat} (promised : queue.Promised)
    (first : queue.fifo.head? = some head) (known : queue.bounds[index]? = some bound)
    (behind : index ≠ 0) (within : consumed + 1 ≤ queue.slot + queue.classOrder.length)
    (representable : consumed + 1 ≤ maxUInt64)
    (returned : selectionDeadline
      (bound.remaining queue.fifo index queue.credited (consumed + 1)) = .ok (deadline, left)) :
    deadline ≤ bound.absoluteSelectionDeadlineSlot.toNat := by
  have member := List.mem_of_getElem? known
  obtain ⟨old, _, evaluated, kept⟩ := promised.kept bound member
  obtain ⟨reserve, order, deficit, slot⟩ := promised.shared bound member
  have before := selectionDeadline_ok evaluated
  have after := selectionDeadline_ok returned
  have credit := toNat_of_checked queue.credited_le
  have cut : (bound.remaining queue.fifo index queue.credited
      (consumed + 1)).evaluationSlot = consumed + 1 := toNat_of_checked representable
  have classes : (bound.remaining queue.fifo index queue.credited
      (consumed + 1)).canonicalClassOrder = queue.classOrder := order
  have saved : (bound.remaining queue.fifo index queue.credited (consumed + 1)).visits + 1 ≤
      bound.visits := by
    unfold AdmissionBound.visits
    rw [sizes_descendant first behind (promised.target index bound known).2, deficit, reserve]
    simp only [AdmissionBound.remaining, credit, reserve]
    exact Deficit.visits_skip queue.reserve.byteQuantum.range.1 queue.deficit
      head.accountedBytes.value _
  have scaled := Nat.mul_le_mul_left queue.classOrder.length saved
  rw [Nat.mul_add, Nat.mul_one] at scaled
  rw [cut, classes] at after
  rw [slot, order] at before
  omega

/-- The indexed items that the loop goes through. -/
def ReadyQueue.items (queue : ReadyQueue) : List ((ReadyGeneration × AdmissionBound) × Nat) :=
  (queue.fifo.zip queue.bounds).zipIdx

theorem mem_items {queue : ReadyQueue} {item : (ReadyGeneration × AdmissionBound) × Nat}
    (member : item ∈ queue.items) :
    queue.fifo[item.2]? = some item.1.1 ∧ queue.bounds[item.2]? = some item.1.2 := by
  obtain ⟨⟨generation, bound⟩, index⟩ := item
  exact List.getElem?_zip_eq_some.mp (List.mem_zipIdx_iff_getElem?.mp member)

/-- Only the head has index zero. -/
theorem items_descendants (queue : ReadyQueue) :
    queue.items.filter (fun item => item.2 ≠ 0) = queue.items.tail := by
  unfold ReadyQueue.items
  cases queue.fifo.zip queue.bounds with
  | nil => rfl
  | cons pair rest =>
      rw [List.zipIdx_cons, List.tail_cons, List.filter_cons_of_neg (by simp)]
      apply List.filter_eq_self.mpr
      intro item member
      have later := List.le_snd_of_mem_zipIdx member
      simp only [ne_eq, decide_not, Bool.not_eq_eq_eq_not, Bool.not_true, decide_eq_false_iff_not]
      omega

section

variable [Hashlib] {queue : ReadyQueue} {blockedHead : Head} {consumed : Nat}
  {firstBound : AdmissionBound}

theorem rebaseRound_raises {head : ReadyGeneration} {rebasing : Rebasing}
    {item : (ReadyGeneration × AdmissionBound) × Nat} (promised : queue.Promised)
    (first : queue.fifo.head? = some head)
    (within : consumed + 1 ≤ queue.slot + queue.classOrder.length)
    (representable : consumed + 1 ≤ maxUInt64) (member : item ∈ queue.items) :
    Raises (· ≠ extendsDeadline)
      (rebaseRound queue.fifo firstBound blockedHead queue.credited consumed rebasing item) := by
  unfold rebaseRound
  refine Raises.bind (.raiseIf (by decide)) (fun _ _ => ?_)
  dsimp only
  split
  · exact .ok _
  · rename_i behind
    refine Raises.bind (selectionDeadline_raises _) (fun result returned => ?_)
    obtain ⟨deadline, left⟩ := result
    have met := remaining_within promised first (mem_items member).2 behind within representable
      returned
    dsimp only
    rw [raiseIf_neg (Nat.not_lt.mpr met)]
    exact .ok _

/-- What a round that returned adds. -/
theorem rebaseRound_ok {fifo : List ReadyGeneration}
    {deficit consumed : Nat} {rebasing next : Rebasing}
    {item : (ReadyGeneration × AdmissionBound) × Nat}
    (returned : rebaseRound fifo firstBound blockedHead deficit consumed rebasing item =
      .ok next) :
    (item.2 = 0 ∧ next.replacements = rebasing.replacements) ∨
      item.2 ≠ 0 ∧ next.replacements = rebasing.replacements ++
        [item.1.2.rebased fifo blockedHead item.2 deficit consumed] ∧
      ∃ deadline left, selectionDeadline
          (item.1.2.rebased fifo blockedHead item.2 deficit consumed) = .ok (deadline, left) ∧
        deadline ≤ item.1.2.absoluteSelectionDeadlineSlot.toNat := by
  obtain ⟨⟨generation, bound⟩, index⟩ := item
  obtain ⟨_, _, returned⟩ := bind_ok.mp returned
  dsimp only at returned
  split at returned
  · rename_i first
    cases returned
    exact .inl ⟨first, rfl⟩
  · rename_i behind
    obtain ⟨⟨deadline, left⟩, evaluated, returned⟩ := bind_ok.mp returned
    obtain ⟨_, met, returned⟩ := bind_ok.mp returned
    cases returned
    exact .inr ⟨behind, rfl, deadline, left, evaluated, Nat.not_lt.mp (raiseIf_ok.mp met)⟩

/-- The replacements of a loop that returned, one for every descendant. -/
theorem rebasing_ok {fifo : List ReadyGeneration} {deficit consumed : Nat} {rebasing : Rebasing}
    {items : List ((ReadyGeneration × AdmissionBound) × Nat)}
    (returned : items.foldlM (rebaseRound fifo firstBound blockedHead deficit consumed)
      ⟨[], [], []⟩ = .ok rebasing) :
    rebasing.replacements = (items.filter (fun item => item.2 ≠ 0)).map
      (fun item => item.1.2.rebased fifo blockedHead item.2 deficit consumed) := by
  apply foldlM_invariant (fun done rebasing => rebasing.replacements =
    (done.filter (fun item => item.2 ≠ 0)).map
      (fun item => item.1.2.rebased fifo blockedHead item.2 deficit consumed)) rfl ?_ returned
  intro done item before next kept round
  rcases rebaseRound_ok round with ⟨first, same⟩ | ⟨behind, added, _⟩
  · rw [same, kept]
    simp [first]
  · rw [added, kept]
    simp [behind]

theorem blockAndRebase_raises {head : ReadyGeneration} (promised : queue.Promised)
    (first : queue.fifo.head? = some head)
    (within : consumed + 1 ≤ queue.slot + queue.classOrder.length) :
    Raises (· ≠ extendsDeadline)
      (blockAndRebase queue.fifo queue.bounds blockedHead queue.deficit consumed) := by
  obtain ⟨reserve, classOrder, fifo, bounds, deficit, slot⟩ := queue
  obtain ⟨rest, rfl⟩ := List.head?_eq_some_iff.mp first
  cases bounds with
  | nil => exact absurd promised.length (by simp)
  | cons firstBound others =>
      have same : firstBound.reserve = reserve :=
        (promised.shared firstBound List.mem_cons_self).1
      unfold blockAndRebase
      iterate 5 refine Raises.bind (.raiseIf (by decide)) (fun _ _ => ?_)
      refine (checked_raises _).bind (fun current isCurrent => ?_)
      refine Raises.bind (.raiseIf (by decide)) (fun _ _ => ?_)
      refine (checked_raises _).bind (fun credit isCredit => ?_)
      refine (checked_raises _).bind (fun spent isSpent => ?_)
      refine (checked_raises _).bind (fun _ next => ?_)
      obtain ⟨rfl, _⟩ := checked_ok.mp isCurrent
      obtain ⟨rfl, _⟩ := checked_ok.mp isCredit
      obtain ⟨rfl, _⟩ := checked_ok.mp isSpent
      obtain ⟨_, representable⟩ := checked_ok.mp next
      rw [same]
      refine Raises.bind (.foldlM (fun _ _ member =>
        rebaseRound_raises promised first within representable member) _) (fun _ _ => ?_)
      refine Raises.bind (.raiseIf (by decide)) (fun _ _ => ?_)
      refine Raises.bind (.raiseIf (by decide)) (fun _ _ => ?_)
      exact .ok _

theorem blockAndRebase_ok {proposal : BlockedRebase} (promised : queue.Promised)
    (returned : blockAndRebase queue.fifo queue.bounds blockedHead queue.deficit consumed =
      .ok proposal) :
    consumed + 1 ≤ maxUInt64 ∧ proposal.resultingDeficit.toNat = queue.credited ∧
      proposal.replacementDescendantBounds = queue.items.tail.map (fun item =>
        item.1.2.rebased queue.fifo blockedHead item.2 queue.credited consumed) ∧
      ∀ item ∈ queue.items.tail, ∃ deadline left, selectionDeadline
          (item.1.2.rebased queue.fifo blockedHead item.2 queue.credited consumed) =
            .ok (deadline, left) ∧
        deadline ≤ item.1.2.absoluteSelectionDeadlineSlot.toNat := by
  obtain ⟨reserve, classOrder, fifo, bounds, deficit, slot⟩ := queue
  cases fifo with
  | nil => cases returned
  | cons head rest =>
      cases bounds with
      | nil => cases returned
      | cons firstBound others =>
          have same : firstBound.reserve = reserve :=
            (promised.shared firstBound List.mem_cons_self).1
          iterate 5 obtain ⟨_, _, returned⟩ := bind_ok.mp returned
          obtain ⟨current, isCurrent, returned⟩ := bind_ok.mp returned
          obtain ⟨_, _, returned⟩ := bind_ok.mp returned
          obtain ⟨credit, isCredit, returned⟩ := bind_ok.mp returned
          obtain ⟨spent, isSpent, returned⟩ := bind_ok.mp returned
          obtain ⟨_, next, returned⟩ := bind_ok.mp returned
          obtain ⟨rebasing, looped, returned⟩ := bind_ok.mp returned
          obtain ⟨_, _, returned⟩ := bind_ok.mp returned
          obtain ⟨_, _, returned⟩ := bind_ok.mp returned
          obtain ⟨rfl, _⟩ := checked_ok.mp isCurrent
          obtain ⟨rfl, _⟩ := checked_ok.mp isCredit
          obtain ⟨rfl, _⟩ := checked_ok.mp isSpent
          obtain ⟨_, representable⟩ := checked_ok.mp next
          cases returned
          rw [same] at looped ⊢
          have descendants := items_descendants
            ⟨reserve, classOrder, head :: rest, firstBound :: others, deficit, slot⟩
          have capped := ReadyQueue.credited_le
            ⟨reserve, classOrder, head :: rest, firstBound :: others, deficit, slot⟩
          refine ⟨representable, toNat_of_checked capped, ?_, ?_⟩
          · rw [← descendants]
            exact rebasing_ok looped
          · intro item member
            obtain ⟨_, _, round⟩ := foldlM_mem_ok looped (List.mem_of_mem_tail member)
            rw [← descendants] at member
            rcases rebaseRound_ok round with ⟨atHead, _⟩ | ⟨_, _, kept⟩
            · simp [atHead] at member
            · exact kept

/-- The queue behind a head that was blocked. -/
def ReadyQueue.blocked (queue : ReadyQueue) (proposal : BlockedRebase) (consumed : Nat) :
    ReadyQueue :=
  { queue with
    fifo := queue.fifo.tail
    bounds := proposal.replacementDescendantBounds
    deficit := proposal.resultingDeficit.toNat
    slot := consumed + 1 }

omit [Hashlib] in
theorem items_index {index : Nat}
    {item : (ReadyGeneration × AdmissionBound) × Nat} (known : queue.items[index]? = some item) :
    item.2 = index := by
  unfold ReadyQueue.items at known
  rw [List.getElem?_zipIdx] at known
  obtain ⟨_, _, rfl⟩ := Option.map_eq_some_iff.mp known
  exact Nat.zero_add index

/-- What a bound promised for good. -/
def AdmissionBound.promise (bound : AdmissionBound) :
    Identity × ReadyGeneration × UInt64 × UInt64 :=
  (bound.boundLineageId, bound.target, bound.originSchedulerSlot,
    bound.absoluteSelectionDeadlineSlot)

/-- A head block leaves a promised queue with the promises of the descendants. -/
theorem block_promised {proposal : BlockedRebase} (promised : queue.Promised)
    (returned : blockAndRebase queue.fifo queue.bounds blockedHead queue.deficit consumed =
      .ok proposal) :
    (queue.blocked proposal consumed).Promised ∧
      proposal.replacementDescendantBounds.map AdmissionBound.promise =
        queue.bounds.tail.map AdmissionBound.promise := by
  obtain ⟨representable, deficit, replaced, kept⟩ := blockAndRebase_ok promised returned
  have known (index : Nat) (bound : AdmissionBound)
      (isBound : proposal.replacementDescendantBounds[index]? = some bound) :
      ∃ old, queue.bounds[index + 1]? = some old ∧
        bound = old.rebased queue.fifo blockedHead (index + 1) queue.credited consumed := by
    rw [replaced, List.getElem?_map] at isBound
    obtain ⟨item, isItem, rfl⟩ := Option.map_eq_some_iff.mp isBound
    rw [List.getElem?_tail] at isItem
    have position := items_index isItem
    have inside := (mem_items (List.mem_of_getElem? isItem)).2
    rw [position] at inside ⊢
    exact ⟨item.1.2, inside, rfl⟩
  have counted : proposal.replacementDescendantBounds.length = queue.bounds.tail.length := by
    rw [replaced]
    simp [ReadyQueue.items, promised.length]
  have cut := toNat_of_checked representable
  constructor
  · constructor
    case length =>
      change proposal.replacementDescendantBounds.length = queue.fifo.tail.length
      rw [counted, List.length_tail, List.length_tail, promised.length]
    case target =>
      intro index bound isBound
      obtain ⟨old, inside, rfl⟩ := known index bound isBound
      obtain ⟨target, _⟩ := promised.target (index + 1) old inside
      refine ⟨(List.getElem?_tail ..).trans target, ?_⟩
      change (queue.fifo.take (index + 1)).drop 1 = queue.fifo.tail.take index
      rw [List.drop_take, List.drop_one]
      rfl
    case shared =>
      intro bound member
      obtain ⟨index, isBound⟩ := List.mem_iff_getElem?.mp member
      obtain ⟨old, inside, rfl⟩ := known index bound isBound
      obtain ⟨reserve, order, _, _⟩ := promised.shared old (List.mem_of_getElem? inside)
      exact ⟨reserve, order, (toNat_of_checked queue.credited_le).trans deficit.symm, cut⟩
    case kept =>
      intro bound member
      change bound ∈ proposal.replacementDescendantBounds at member
      rw [replaced] at member
      obtain ⟨item, inside, rfl⟩ := List.mem_map.mp member
      exact kept item inside
  · apply List.ext_getElem?
    intro index
    rw [List.getElem?_map, List.getElem?_map, List.getElem?_tail]
    cases isBound : proposal.replacementDescendantBounds[index]? with
    | none =>
        have outside := List.getElem?_eq_none_iff.mp isBound
        rw [counted] at outside
        have beyond : queue.bounds[index + 1]? = none := by
          rw [← List.getElem?_tail]
          exact List.getElem?_eq_none_iff.mpr outside
        rw [beyond]
    | some bound =>
        obtain ⟨old, inside, rfl⟩ := known index bound isBound
        rw [inside]
        rfl

/-- Consecutive head blocks, each within one turn of the classes. -/
inductive HeadBlocks (start : ReadyQueue) : Nat → ReadyQueue → Prop
  | none : HeadBlocks start 0 start
  | block {count consumed : Nat} {queue : ReadyQueue} {head : ReadyGeneration}
      {proposal : BlockedRebase} (blocks : HeadBlocks start count queue)
      (first : queue.fifo.head? = some head)
      (within : consumed + 1 ≤ queue.slot + queue.classOrder.length)
      (returned : blockAndRebase queue.fifo queue.bounds head.exactHead queue.deficit consumed =
        .ok proposal) :
      HeadBlocks start (count + 1) (queue.blocked proposal consumed)

/-- However often the head is blocked, the queue stays promised under the original deadlines
and the next block extends none of them. -/
theorem head_blocks_keep_deadlines {start queue : ReadyQueue} {count : Nat}
    (promised : start.Promised) (blocks : HeadBlocks start count queue) :
    queue.Promised ∧
      queue.bounds.map AdmissionBound.promise =
        (start.bounds.drop count).map AdmissionBound.promise ∧
      (∀ (head : ReadyGeneration) (consumed : Nat), queue.fifo.head? = some head →
        consumed + 1 ≤ queue.slot + queue.classOrder.length →
        blockAndRebase queue.fifo queue.bounds head.exactHead queue.deficit
          consumed ≠ .error extendsDeadline) ∧
      (∀ (reserve : ClassReserve) (items : List ReadyGeneration) (first second : Nat)
        (slower faster : Nat × Nat), first ≤ second →
        items.foldlM (serve reserve) (0, first) = .ok slower →
        items.foldlM (serve reserve) (0, second) = .ok faster → faster.1 ≤ slower.1) ∧
      ∀ (reserve : ClassReserve) (head : ReadyGeneration) (rest : List ReadyGeneration)
        (deficit : Nat) (whole skipped : Nat × Nat),
        (head :: rest).foldlM (serve reserve) (0, deficit) = .ok whole →
        rest.foldlM (serve reserve)
          (0, min reserve.deficitCap.value (deficit + reserve.byteQuantum.value)) =
            .ok skipped → skipped.1 + 1 ≤ whole.1 := by
  have reached : queue.Promised ∧ queue.bounds.map AdmissionBound.promise =
      (start.bounds.drop count).map AdmissionBound.promise := by
    induction blocks with
    | none => exact ⟨promised, rfl⟩
    | @block count consumed queue head proposal blocks first within returned ih =>
        obtain ⟨before, promises⟩ := ih
        obtain ⟨after, replaced⟩ := block_promised before returned
        refine ⟨after, replaced.trans ?_⟩
        rw [List.map_tail, promises, ← List.map_tail, List.tail_drop]
  refine ⟨reached.1, reached.2, ?_, ?_, ?_⟩
  · intro head consumed first within raised
    exact blockAndRebase_raises reached.1 first within _ raised rfl
  · intro reserve items first second slower faster more slow fast
    exact serveAll_antitone more slow fast
  · intro reserve head rest deficit whole skipped all later
    exact serveAll_skip all later

end

def sampleReserve : ClassReserve :=
  ⟨.source .cli, ⟨10, by decide⟩, ⟨25, by decide⟩, ⟨30, by decide⟩, ⟨4, by decide⟩,
    ⟨100, by decide⟩, ⟨4, by decide⟩, ⟨4, by decide⟩, ⟨10000, by decide⟩⟩

def sampleHead (name : String) (named : name ≠ "") : Head :=
  ⟨⟨name, named⟩, ⟨name, named⟩, ⟨"".pushn '0' 64, by decide +kernel⟩⟩

def sampleGeneration (name : String) (named : name ≠ "") (sequence : UInt64)
    (bytes : Positive) : ReadyGeneration :=
  ⟨⟨name, named⟩, sequence, ⟨name, named⟩, sampleHead name named, bytes⟩

/-- Two generations that wait behind an empty deficit. -/
def sampleFifo : List ReadyGeneration :=
  [sampleGeneration "first" (written _ trivial) 1 ⟨12, by decide⟩,
    sampleGeneration "second" (written _ trivial) 2 ⟨25, by decide⟩]

def sampleBound (name : String) (named : name ≠ "") (predecessors : List ReadyGeneration)
    (target : ReadyGeneration) (deadline : UInt64) : AdmissionBound where
  boundId := ⟨name, named⟩
  boundLineageId := ⟨name, named⟩
  epoch := sampleHead "epoch" (by decide)
  fairnessVersion := ⟨"v1", written _ trivial⟩
  formulaVersion := ⟨"v1", written _ trivial⟩
  canonicalClassOrder := [.source .cli, .ordinary]
  reserve := sampleReserve
  initialDeficit := 0
  originSchedulerSlot := 5
  completeOrderedPredecessors := predecessors
  target
  absoluteSelectionDeadlineSlot := deadline
  evaluationSchedulerSlot := none

def sampleQueue : ReadyQueue where
  reserve := sampleReserve
  classOrder := [.source .cli, .ordinary]
  fifo := sampleFifo
  bounds := [sampleBound "bound-1" (by decide) [] sampleFifo[0] 9,
    sampleBound "bound-2" (by decide) (sampleFifo.take 1) sampleFifo[1] 13]
  deficit := 0
  slot := 5

theorem sampleQueue_promised : sampleQueue.Promised := by
  constructor
  case length => rfl
  case target =>
    intro index bound known
    match index with
    | 0 =>
        cases known
        exact ⟨rfl, rfl⟩
    | 1 =>
        cases known
        exact ⟨rfl, rfl⟩
    | index + 2 => cases known
  case shared =>
    intro bound member
    rcases List.mem_pair.mp member with rfl | rfl
    · exact ⟨rfl, rfl, rfl, rfl⟩
    · exact ⟨rfl, rfl, rfl, rfl⟩
  case kept =>
    intro bound member
    rcases List.mem_pair.mp member with rfl | rfl
    · exact ⟨9, 8, by decide +kernel, by decide⟩
    · exact ⟨13, 3, by decide +kernel, by decide⟩

theorem head_blocks_keep_deadlines_sample :
    letI := Sha256.hashlib
    blockAndRebase sampleQueue.fifo sampleQueue.bounds (sampleHead "first" (by decide))
      sampleQueue.deficit 6 ≠ .error extendsDeadline := by
  let _ := Sha256.hashlib
  exact (head_blocks_keep_deadlines sampleQueue_promised .none).2.2.1
    (sampleGeneration "first" (by decide) 1 ⟨12, by decide⟩) 6 rfl (by decide)

end Chiplog.Platform.Ingress

namespace Chiplog.Platform.Ingress

open Chiplog.Data

/-! The deadline of a bound, visit by visit.

The formula counts the visits of an item by a division and caps the credit once.  On every
bound that it accepts, no item exceeds the cap, so the visits it counts are the visits that
deficit round robin makes. -/

/-- The queue a bound is evaluated over: what comes before its target, then the target. -/
def AdmissionBound.queue (bound : AdmissionBound) : List Nat :=
  sizes (bound.completeOrderedPredecessors ++ [bound.target])

/-- Deficit round robin over the queue of a bound, after so many visits. -/
def AdmissionBound.visited (bound : AdmissionBound) (count : Nat) : Int × List Nat :=
  (Deficit.visit bound.reserve.deficitCap.value bound.reserve.byteQuantum.value)^[count]
    ((bound.initialDeficit.toNat : Int), bound.queue)

/-- What a bound that is accepted has passed. -/
theorem selectionDeadline_accepted {bound : AdmissionBound} {deadline deficit : Nat}
    (accepted : selectionDeadline bound = .ok (deadline, deficit)) :
    bound.initialDeficit.toNat ≤ bound.reserve.deficitCap.value ∧
      (∀ size ∈ bound.queue, size ≤ bound.reserve.deficitCap.value) ∧
      deficit = Deficit.settle bound.reserve.deficitCap.value bound.reserve.byteQuantum.value
        bound.initialDeficit.toNat bound.queue := by
  obtain ⟨_, _, accepted⟩ := bind_ok.mp accepted
  obtain ⟨_, _, accepted⟩ := bind_ok.mp accepted
  obtain ⟨_, capped, accepted⟩ := bind_ok.mp accepted
  obtain ⟨start, started, accepted⟩ := bind_ok.mp accepted
  obtain ⟨rfl, _⟩ := checked_ok.mp started
  obtain ⟨_, within, accepted⟩ := bind_ok.mp accepted
  obtain ⟨_, _, accepted⟩ := bind_ok.mp accepted
  obtain ⟨_, _, accepted⟩ := bind_ok.mp accepted
  obtain ⟨⟨visits, left⟩, served, accepted⟩ := bind_ok.mp accepted
  obtain ⟨slots, _, accepted⟩ := bind_ok.mp accepted
  obtain ⟨_, _, accepted⟩ := bind_ok.mp accepted
  obtain ⟨total, _, accepted⟩ := bind_ok.mp accepted
  have capped := Nat.le_of_not_lt (raiseIf_ok.mp capped)
  refine ⟨Nat.le_of_not_lt (raiseIf_ok.mp within), ?_, ?_⟩
  · intro size member
    obtain ⟨item, inside, rfl⟩ := List.mem_map.mp member
    obtain ⟨before, after, step⟩ := foldlM_mem_ok served inside
    obtain ⟨_, fits, _⟩ := bind_ok.mp step
    exact (Nat.le_of_not_lt (raiseIf_ok.mp fits)).trans capped
  · have left := congrArg Prod.snd (Except.ok.inj accepted)
    exact left.symm.trans (congrArg Prod.snd (serveAll_ok served))

/-- The deadline of an accepted bound is a slot of every class for each visit that deficit
round robin takes to serve the target, and the deficit is the one it ends with. -/
theorem deadline_counts_visits {bound : AdmissionBound} {deadline deficit : Nat}
    (accepted : selectionDeadline bound = .ok (deadline, deficit)) :
    ∃ visits, deadline = bound.evaluationSlot + bound.canonicalClassOrder.length * visits ∧
      bound.visited visits = ((deficit : Int), []) ∧
      (∀ count < visits, (bound.visited count).2 ≠ []) ∧
      ∀ count, 0 ≤ (bound.visited count).1 ∧
        (bound.visited count).1 ≤ bound.reserve.deficitCap.value := by
  obtain ⟨within, fits, settled⟩ := selectionDeadline_accepted accepted
  obtain ⟨drained, busy⟩ :=
    Deficit.iterate_drains bound.reserve.byteQuantum.range.1 within fits
  refine ⟨bound.visits, selectionDeadline_ok accepted, ?_, busy, ?_⟩
  · rw [settled]
    exact drained
  · intro count
    apply Deficit.iterate_bounded
    dsimp only
    omega

/-- The second bound of the sample queue, which is served at the fourth visit. -/
theorem deadline_counts_visits_sample :
    let bound := sampleBound "bound-2" (by decide) (sampleFifo.take 1) sampleFifo[1] 13
    ∃ visits, 13 = bound.evaluationSlot + bound.canonicalClassOrder.length * visits ∧
      bound.visited visits = (3, []) ∧
      (∀ count < visits, (bound.visited count).2 ≠ []) ∧
      ∀ count, 0 ≤ (bound.visited count).1 ∧
        (bound.visited count).1 ≤ bound.reserve.deficitCap.value :=
  deadline_counts_visits (by decide +kernel)

end Chiplog.Platform.Ingress
