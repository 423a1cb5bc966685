import Mathlib

namespace Chiplog.Data

/-! Append-only logs read one key at a time.

A log holds the records of many subjects in commit order; `streamOf` selects one
subject.  `Linked` says how a stream is built: a first record, then one successor
after another.  Appending to the log extends one stream and leaves the others
alone, so a property of every stream is proved from one step lemma. -/

variable {α κ : Type} [DecidableEq κ] {wanted : κ} {key : α → κ}

def streamOf (key : α → κ) (log : List α) (wanted : κ) : List α :=
  log.filter (fun record => key record = wanted)

theorem mem_streamOf {log : List α} {record : α} :
    record ∈ streamOf key log wanted ↔ record ∈ log ∧ key record = wanted := by
  simp [streamOf]

theorem streamOf_append_self (key : α → κ) (log : List α) (record : α) :
    streamOf key (log ++ [record]) (key record) = streamOf key log (key record) ++ [record] := by
  simp [streamOf]

theorem streamOf_append_other {record : α} (log : List α) (other : key record ≠ wanted) :
    streamOf key (log ++ [record]) wanted = streamOf key log wanted := by
  simp [streamOf, other]

/-- The last record of a subject. -/
def latest? (key : α → κ) (log : List α) (wanted : κ) : Option α :=
  (streamOf key log wanted).getLast?

theorem latest?_append_self (key : α → κ) (log : List α) (record : α) :
    latest? key (log ++ [record]) (key record) = some record := by
  simp [latest?, streamOf_append_self]

theorem latest?_append_other {record : α} (log : List α) (other : key record ≠ wanted) :
    latest? key (log ++ [record]) wanted = latest? key log wanted := by
  simp only [latest?, streamOf_append_other log other]

theorem latest?_mem {log : List α} {record : α}
    (found : latest? key log wanted = some record) : record ∈ log ∧ key record = wanted :=
  mem_streamOf.mp (List.mem_of_getLast? found)

theorem latest?_eq_none {log : List α} :
    latest? key log wanted = none ↔ ∀ record ∈ log, key record ≠ wanted := by
  simp [latest?, streamOf]

/-- A stream that starts with a `first` record and continues by `next` steps. -/
structure Linked (first : α → Prop) (next : α → α → Prop) (stream : List α) : Prop where
  start : ∀ record ∈ stream.head?, first record
  chain : stream.IsChain next

namespace Linked

variable {first : α → Prop} {next : α → α → Prop} {stream : List α} {record previous : α}

theorem nil : Linked first next ([] : List α) := ⟨by simp, .nil⟩

theorem singleton (begins : first record) : Linked first next [record] :=
  ⟨by simpa using begins, by simp⟩

theorem snoc (linked : Linked first next stream) (last : stream.getLast? = some previous)
    (step : next previous record) : Linked first next (stream ++ [record]) := by
  obtain ⟨earlier, rfl⟩ := List.getLast?_eq_some_iff.mp last
  refine ⟨?_, ?_⟩
  · intro start member
    exact linked.start start (by simpa [List.head?_append] using member)
  · rw [List.isChain_append]
    exact ⟨linked.chain, by simp, by simpa using step⟩

theorem left {front rest : List α} (linked : Linked first next (front ++ rest)) :
    Linked first next front :=
  ⟨fun start member => linked.start start (by simp [List.head?_append, Option.mem_def.mp member]),
    (List.isChain_append.mp linked.chain).1⟩

/-- Every nonempty linked stream is a first record or extends a linked stream. -/
theorem induction {motive : List α → Prop} (empty : motive [])
    (begin : ∀ record, first record → motive [record])
    (extend : ∀ stream previous record, Linked first next stream → motive stream →
      stream.getLast? = some previous → next previous record → motive (stream ++ [record]))
    (linked : Linked first next stream) : motive stream := by
  induction stream using List.reverseRecOn with
  | nil => exact empty
  | append_singleton stream record ih =>
      cases last : stream.getLast? with
      | none =>
          obtain rfl := List.getLast?_eq_none_iff.mp last
          exact begin record (linked.start record (by simp))
      | some previous =>
          have shorter := linked.left
          have step : next previous record :=
            (List.isChain_append.mp linked.chain).2.2 previous last record (by simp)
          exact extend stream previous record shorter (ih shorter) last step

/-- The invariant rule: what the first record has and every step keeps, every
record has. -/
theorem forall_mem (linked : Linked first next stream) (invariant : α → Prop)
    (begin : ∀ record, first record → invariant record)
    (keep : ∀ previous record, invariant previous → next previous record → invariant record) :
    ∀ record ∈ stream, invariant record := by
  refine linked.induction (motive := fun stream => ∀ record ∈ stream, invariant record)
    (by simp) (fun record begins => by simpa using begin record begins) ?_
  intro stream previous record _ ih last step member inside
  rcases List.mem_append.mp inside with earlier | final
  · exact ih member earlier
  · obtain rfl := List.mem_singleton.mp final
    exact keep previous _ (ih previous (List.mem_of_getLast? last)) step

/-- A step relation may use the invariant on both sides. -/
theorem strengthen (linked : Linked first next stream) (invariant : α → Prop)
    (begin : ∀ record, first record → invariant record)
    (keep : ∀ previous record, invariant previous → next previous record → invariant record) :
    Linked (fun record => first record ∧ invariant record)
      (fun previous record => invariant previous ∧ next previous record) stream := by
  have all := linked.forall_mem invariant begin keep
  refine ⟨?_, ?_⟩
  · intro record member
    exact ⟨linked.start record member, all record (List.mem_of_mem_head? member)⟩
  · exact List.IsChain.imp_of_mem_imp (fun previous _ inside _ step => ⟨all previous inside, step⟩)
      linked.chain

/-- A reflexive and transitive relation that holds across each step holds between
any earlier and any later record. -/
theorem ordered (linked : Linked first next stream) (relation : α → α → Prop)
    (trans : ∀ {a b c}, relation a b → relation b c → relation a c)
    (step : ∀ previous record, next previous record → relation previous record) :
    stream.Pairwise relation := by
  have : IsTrans α relation := ⟨fun _ _ _ => trans⟩
  exact (linked.chain.imp (fun previous record => step previous record)).pairwise

/-- Such a relation holds between every record and the last one. -/
theorem toLast (linked : Linked first next stream) (relation : α → α → Prop)
    (refl : ∀ a, relation a a)
    (trans : ∀ {a b c}, relation a b → relation b c → relation a c)
    (step : ∀ previous record, next previous record → relation previous record)
    (last : stream.getLast? = some record) : ∀ earlier ∈ stream, relation earlier record := by
  obtain ⟨front, rfl⟩ := List.getLast?_eq_some_iff.mp last
  have pairs := List.pairwise_append.mp (linked.ordered relation trans step)
  intro earlier member
  rcases List.mem_append.mp member with inside | final
  · exact pairs.2.2 earlier inside record (by simp)
  · rw [List.mem_singleton.mp final]
    exact refl record

/-- What every step leaves alone is the same in all records. -/
theorem constant {β : Type} {value : α → β} (linked : Linked first next stream)
    (keep : ∀ previous record, next previous record → value record = value previous) :
    ∀ record ∈ stream, ∀ other ∈ stream, value record = value other := by
  have pairs : (stream.map value).Pairwise Eq := List.pairwise_map.mpr
    (linked.ordered _ Eq.trans (fun previous record step => (keep previous record step).symm))
  intro record member other inside
  exact pairs.forall_of_forall (fun _ _ => rfl) (List.mem_map_of_mem member)
    (List.mem_map_of_mem inside)

end Linked

end Chiplog.Data
