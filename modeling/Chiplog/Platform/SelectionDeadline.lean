import Chiplog.Data.Deficit
import Chiplog.Platform.IngressDomain

namespace Chiplog.Platform.Ingress

open Chiplog.Data

/-! The ready queue of one source class and its promised deadlines.

Each ready generation carries an admission bound: the generations before it, the deficit and
the slot it was evaluated at, and the absolute slot by which it is selected.  Blocking the
head consumes one visit and evaluates every later bound again. -/

def maxUInt64 : Nat := 2 ^ 64 - 1

/-- `Annotated[int, Field(gt=0, le=2**64 - 1)]`. -/
structure Positive where
  value : Nat
  range : 0 < value ∧ value ≤ maxUInt64
deriving DecidableEq

instance : Jsonable Positive := ⟨fun positive => .int positive.value⟩

/-- `SourceClass | Literal["ORDINARY"]`. -/
inductive FairnessClass where
  | source (sourceClass : SourceClass)
  | ordinary
deriving DecidableEq

instance : Jsonable FairnessClass := ⟨fun
  | .source sourceClass => toJson sourceClass
  | .ordinary => .str "ORDINARY"⟩

structure ClassReserve where
  sourceClass : FairnessClass
  byteQuantum : Positive
  maximumItemBytes : Positive
  deficitCap : Positive
  physicalItemReserve : Positive
  physicalByteReserve : Positive
  physicalQuarantineReserve : Positive
  readyDepthLimit : Positive
  descendantSnapshotByteLimit : Positive
deriving DecidableEq

instance : Model ClassReserve := ⟨fun value =>
  [("source_class", toJson value.sourceClass), ("byte_quantum", toJson value.byteQuantum),
    ("maximum_item_bytes", toJson value.maximumItemBytes),
    ("deficit_cap", toJson value.deficitCap),
    ("physical_item_reserve", toJson value.physicalItemReserve),
    ("physical_byte_reserve", toJson value.physicalByteReserve),
    ("physical_quarantine_reserve", toJson value.physicalQuarantineReserve),
    ("ready_depth_limit", toJson value.readyDepthLimit),
    ("descendant_snapshot_byte_limit", toJson value.descendantSnapshotByteLimit)]⟩

structure ReadyGeneration where
  stableWorkId : Identity
  durableAdmissionCommitSeq : UInt64
  stableTieIdentity : Identity
  exactHead : Head
  accountedBytes : Positive
deriving DecidableEq

instance : Model ReadyGeneration := ⟨fun value =>
  [("stable_work_id", toJson value.stableWorkId),
    ("durable_admission_commit_seq", toJson value.durableAdmissionCommitSeq),
    ("stable_tie_identity", toJson value.stableTieIdentity),
    ("exact_head", toJson value.exactHead), ("accounted_bytes", toJson value.accountedBytes)]⟩

structure AdmissionBound where
  boundId : Identity
  boundLineageId : Identity
  epoch : Head
  fairnessVersion : Identity
  formulaVersion : Identity
  canonicalClassOrder : List FairnessClass
  reserve : ClassReserve
  initialDeficit : UInt64
  originSchedulerSlot : UInt64
  completeOrderedPredecessors : List ReadyGeneration
  target : ReadyGeneration
  absoluteSelectionDeadlineSlot : UInt64
  evaluationSchedulerSlot : Option UInt64
deriving DecidableEq

instance : Model AdmissionBound := ⟨fun value =>
  [("bound_id", toJson value.boundId), ("bound_lineage_id", toJson value.boundLineageId),
    ("epoch", toJson value.epoch), ("fairness_version", toJson value.fairnessVersion),
    ("formula_version", toJson value.formulaVersion),
    ("canonical_class_order", toJson value.canonicalClassOrder),
    ("reserve", toJson value.reserve), ("initial_deficit", toJson value.initialDeficit),
    ("origin_scheduler_slot", toJson value.originSchedulerSlot),
    ("complete_ordered_predecessors", toJson value.completeOrderedPredecessors),
    ("target", toJson value.target),
    ("absolute_selection_deadline_slot", toJson value.absoluteSelectionDeadlineSlot),
    ("evaluation_scheduler_slot", toJson value.evaluationSchedulerSlot)]⟩

structure BlockedRebase where
  blockedGeneration : ReadyGeneration
  blockedHead : Head
  consumedSkipSlot : UInt64
  resultingDeficit : UInt64
  closedDescendantBounds : List Head
  replacementDescendantBounds : List AdmissionBound
  batchFingerprint : Digest
deriving DecidableEq

instance : Model BlockedRebase := ⟨fun value =>
  [("blocked_generation", toJson value.blockedGeneration),
    ("blocked_head", toJson value.blockedHead),
    ("consumed_skip_slot", toJson value.consumedSkipSlot),
    ("resulting_deficit", toJson value.resultingDeficit),
    ("closed_descendant_bounds", toJson value.closedDescendantBounds),
    ("replacement_descendant_bounds", toJson value.replacementDescendantBounds),
    ("batch_fingerprint", toJson value.batchFingerprint)]⟩

/-- `_checked`. -/
def checked (value : Int) : Except IngressError Nat :=
  if 0 ≤ value ∧ value ≤ maxUInt64 then .ok value.toNat
  else .error (.hold "bounded integer overflow")

/-- The order of the keys `(durable_admission_commit_seq, stable_tie_identity)`. -/
def ReadyGeneration.Before (left right : ReadyGeneration) : Prop :=
  left.durableAdmissionCommitSeq < right.durableAdmissionCommitSeq ∨
    left.durableAdmissionCommitSeq = right.durableAdmissionCommitSeq ∧
      left.stableTieIdentity.text < right.stableTieIdentity.text

instance : DecidableRel ReadyGeneration.Before := fun left right => by
  unfold ReadyGeneration.Before
  infer_instance

/-- The keys are sorted and none is repeated. -/
def CanonicalFifo (fifo : List ReadyGeneration) : Prop := fifo.Pairwise ReadyGeneration.Before

instance (fifo : List ReadyGeneration) : Decidable (CanonicalFifo fifo) := by
  unfold CanonicalFifo
  infer_instance

/-- The bound's evaluation slot, which defaults to its origin. -/
def AdmissionBound.evaluationSlot (bound : AdmissionBound) : Nat :=
  (bound.evaluationSchedulerSlot.getD bound.originSchedulerSlot).toNat

/-- One round of `selection_deadline`, with the visits and the deficit so far. -/
def serve (reserve : ClassReserve) (progress : Nat × Nat) (item : ReadyGeneration) :
    Except IngressError (Nat × Nat) := do
  let (visits, deficit) := progress
  raiseIf (reserve.maximumItemBytes.value < item.accountedBytes.value)
    (.hold "item exceeds maximum accounted bytes")
  let needed := item.accountedBytes.value - deficit
  let count := max 1 ((needed + reserve.byteQuantum.value - 1) / reserve.byteQuantum.value)
  let visits ← checked (visits + count : Nat)
  let credit ← checked (count * reserve.byteQuantum.value : Nat)
  let accrued ← checked (deficit + credit : Nat)
  .ok (visits, min reserve.deficitCap.value accrued - item.accountedBytes.value)

def selectionDeadline (bound : AdmissionBound) : Except IngressError (Nat × Nat) := do
  let reserve := bound.reserve
  raiseIf (bound.canonicalClassOrder = [] ∨ ¬ bound.canonicalClassOrder.Nodup ∨
      reserve.sourceClass ∉ bound.canonicalClassOrder)
    (.hold "class order missing, duplicated or mismatched")
  raiseIf (.ordinary ∉ bound.canonicalClassOrder)
    (.hold "ordinary work must participate in bounded fairness")
  raiseIf (reserve.deficitCap.value < reserve.maximumItemBytes.value)
    (.hold "deficit cap cannot serve largest admitted item")
  let deficit ← checked bound.initialDeficit.toNat
  raiseIf (reserve.deficitCap.value < deficit) (.hold "initial deficit exceeds cap")
  let sequence := bound.completeOrderedPredecessors ++ [bound.target]
  raiseIf (reserve.readyDepthLimit.value < sequence.length)
    (.hold "ready depth exceeds atomic rebase capacity")
  raiseIf (¬ CanonicalFifo sequence) (.hold "ready generation FIFO reordered or duplicated")
  let (visits, deficit) ← sequence.foldlM (serve reserve) (0, deficit)
  let slots ← checked (bound.canonicalClassOrder.length * visits : Nat)
  raiseIf (bound.evaluationSlot < bound.originSchedulerSlot.toNat)
    (.hold "bound evaluation cut precedes immutable admission origin")
  let deadline ← checked (bound.evaluationSlot + slots : Nat)
  .ok (deadline, deficit)

/-- `len(value.model_dump_json().encode())`. -/
def dumpedSize (value : Json) : Nat := (utf8 value.dumpsInOrder).length

/-- A descendant's bound once the head is skipped, before it gets a name. -/
def AdmissionBound.remaining (bound : AdmissionBound) (fifo : List ReadyGeneration)
    (index deficit slot : Nat) : AdmissionBound :=
  { bound with
    completeOrderedPredecessors := (fifo.take index).drop 1
    initialDeficit := UInt64.ofNat deficit
    evaluationSchedulerSlot := some (UInt64.ofNat slot) }

def incompleteInventory : IngressError :=
  .hold "block rebase requires complete ready FIFO and bound inventory"

def extendsDeadline : IngressError :=
  .hold "blocked-prefix rebase would extend original absolute deadline"

/-- The loop state of `block_and_rebase`. -/
structure Rebasing where
  replacements : List AdmissionBound
  closed : List Head
  seenBounds : List Identity

section

variable [Hashlib]

/-- The fingerprint of a bound that is closed. -/
def AdmissionBound.oldFingerprint (bound : AdmissionBound) : Digest :=
  sha256 (utf8 (toJson bound).dumpsInOrder)

def AdmissionBound.replacementId (bound : AdmissionBound) (blockedHead : Head)
    (consumedSkipSlot : Nat) : Identity :=
  Identity.after "rebase:" (sha256 (Json.arr
    [toJson bound.oldFingerprint, toJson blockedHead,
      toJson consumedSkipSlot]).encodeAscii).identity

/-- The replacement of a descendant's bound. -/
def AdmissionBound.rebased (bound : AdmissionBound) (fifo : List ReadyGeneration)
    (blockedHead : Head) (index deficit consumedSkipSlot : Nat) : AdmissionBound :=
  { bound.remaining fifo index deficit (consumedSkipSlot + 1) with
    boundId := bound.replacementId blockedHead consumedSkipSlot }

/-- One round of `block_and_rebase`; the head is closed without a replacement. -/
def rebaseRound (fifo : List ReadyGeneration) (first : AdmissionBound) (blockedHead : Head)
    (deficit consumedSkipSlot : Nat) (rebasing : Rebasing)
    (item : (ReadyGeneration × AdmissionBound) × Nat) : Except IngressError Rebasing := do
  let ((generation, bound), index) := item
  raiseIf (bound.target ≠ generation ∨
      bound.completeOrderedPredecessors ≠ fifo.take index ∨
      bound.reserve ≠ first.reserve ∨ bound.epoch ≠ first.epoch ∨
      bound.canonicalClassOrder ≠ first.canonicalClassOrder ∨
      bound.fairnessVersion ≠ first.fairnessVersion ∨
      bound.formulaVersion ≠ first.formulaVersion ∨ bound.boundId ∈ rebasing.seenBounds)
    (.hold "bound inventory omitted, reordered, duplicated or stale")
  let closing := { rebasing with
    closed := rebasing.closed ++ [⟨bound.boundId, bound.boundId, bound.oldFingerprint⟩]
    seenBounds := bound.boundId :: rebasing.seenBounds }
  if index = 0 then .ok closing
  else do
    let (deadline, _) ←
      selectionDeadline (bound.remaining fifo index deficit (consumedSkipSlot + 1))
    raiseIf (bound.absoluteSelectionDeadlineSlot.toNat < deadline) extendsDeadline
    .ok { closing with
      replacements := rebasing.replacements ++
        [bound.rebased fifo blockedHead index deficit consumedSkipSlot] }

/-- A head block with the rebase of every descendant, all in one proposal. -/
def blockAndRebase (readyFifo : List ReadyGeneration) (completeBounds : List AdmissionBound)
    (blockedHead : Head) (currentDeficit consumedSkipSlot : Int) :
    Except IngressError BlockedRebase :=
  match readyFifo, completeBounds with
  | head :: _, first :: _ => do
      raiseIf (readyFifo.length ≠ completeBounds.length) incompleteInventory
      let reserve := first.reserve
      raiseIf (head.exactHead ≠ blockedHead)
        (.conflict "blocking another generation or stale head")
      raiseIf (reserve.readyDepthLimit.value < readyFifo.length)
        (.hold "complete rebase exceeds admitted depth")
      raiseIf (¬ CanonicalFifo readyFifo) (.hold "noncanonical or duplicated ready FIFO")
      raiseIf (reserve.descendantSnapshotByteLimit.value <
          (completeBounds.map (fun bound => dumpedSize (toJson bound))).sum)
        (.hold "complete existing snapshots exceed rebase budget")
      let deficit ← checked currentDeficit
      raiseIf (reserve.deficitCap.value < deficit) (.hold "current deficit exceeds cap")
      let credited ← checked (deficit + reserve.byteQuantum.value : Nat)
      let afterSkipDeficit := min reserve.deficitCap.value credited
      let consumed ← checked consumedSkipSlot
      let _ ← checked (consumed + 1 : Nat)
      let rebasing ← (readyFifo.zip completeBounds).zipIdx.foldlM
        (rebaseRound readyFifo first blockedHead afterSkipDeficit consumed) ⟨[], [], []⟩
      raiseIf (reserve.descendantSnapshotByteLimit.value <
          (rebasing.replacements.map (fun bound => dumpedSize (toJson bound))).sum)
        (.hold "complete replacement snapshots exceed atomic rebase budget")
      let fingerprint := sha256 (Json.arr
        [.str "chiplog.ingress.block-rebase.v1", toJson blockedHead, toJson consumed,
          toJson afterSkipDeficit, toJson rebasing.closed,
          toJson rebasing.replacements]).encodeAscii
      let proposal : BlockedRebase := ⟨head, blockedHead, UInt64.ofNat consumed,
        UInt64.ofNat afterSkipDeficit, rebasing.closed, rebasing.replacements, fingerprint⟩
      raiseIf (reserve.descendantSnapshotByteLimit.value < dumpedSize (toJson proposal))
        (.hold "whole block-and-rebase proposal exceeds atomic byte budget")
      .ok proposal
  | _, _ => .error incompleteInventory

end

end Chiplog.Platform.Ingress
