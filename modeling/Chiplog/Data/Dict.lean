import Mathlib

namespace Chiplog.Data

/-! Insertion-ordered dictionaries.

Assigning an existing key replaces its value in place; a new key goes to the end.
Distinctness of the keys is a field, so lookups and `values` agree by construction. -/

structure Dict (κ β : Type) where
  entries : List (κ × β)
  distinct : (entries.map Prod.fst).Nodup

namespace Dict

variable {κ β : Type} [DecidableEq κ] {dict : Dict κ β} {value : α → β}

def empty : Dict κ β := ⟨[], .nil⟩

def get? (dict : Dict κ β) (key : κ) : Option β :=
  dict.entries.lookup key

def values (dict : Dict κ β) : List β :=
  dict.entries.map Prod.snd

/-- The entry list after `dict[key] = value`. -/
def assign (key : κ) (value : β) : List (κ × β) → List (κ × β)
  | [] => [(key, value)]
  | entry :: rest =>
      if entry.1 = key then (key, value) :: rest else entry :: assign key value rest

theorem mem_keys_assign {key other : κ} {value : β} {entries : List (κ × β)} :
    other ∈ (assign key value entries).map Prod.fst ↔
      other = key ∨ other ∈ entries.map Prod.fst := by
  induction entries with
  | nil => simp [assign]
  | cons entry rest ih =>
      unfold assign
      split
      · rename_i same
        simp [same]
      · simp only [List.map_cons, List.mem_cons, ih]
        tauto

theorem assign_distinct {key : κ} {value : β} {entries : List (κ × β)}
    (distinct : (entries.map Prod.fst).Nodup) :
    ((assign key value entries).map Prod.fst).Nodup := by
  induction entries with
  | nil => simp [assign]
  | cons entry rest ih =>
      obtain ⟨fresh, tail⟩ := List.nodup_cons.mp distinct
      unfold assign
      split
      · rename_i same
        exact List.nodup_cons.mpr ⟨same ▸ fresh, tail⟩
      · rename_i different
        refine List.nodup_cons.mpr ⟨?_, ih tail⟩
        rw [mem_keys_assign]
        exact fun member => member.elim different fresh

def set (dict : Dict κ β) (key : κ) (value : β) : Dict κ β :=
  ⟨assign key value dict.entries, assign_distinct dict.distinct⟩

theorem lookup_assign (key other : κ) (value : β) (entries : List (κ × β)) :
    (assign key value entries).lookup other =
      if other = key then some value else entries.lookup other := by
  induction entries with
  | nil =>
      by_cases same : other = key
      · simp [assign, same]
      · have absent : (other == key) = false := by simpa using same
        simp [assign, List.lookup_cons, absent, same]
  | cons entry rest ih =>
      obtain ⟨first, stored⟩ := entry
      unfold assign
      by_cases here : first = key
      · subst here
        by_cases same : other = first
        · simp [same]
        · have absent : (other == first) = false := by simpa using same
          simp [List.lookup_cons, absent, same]
      · rw [if_neg here, List.lookup_cons, List.lookup_cons, ih]
        by_cases same : other = first
        · subst same
          simp [here]
        · have absent : (other == first) = false := by simpa using same
          simp [absent]

@[simp] theorem get?_empty (key : κ) : (empty : Dict κ β).get? key = none := rfl

theorem get?_set (dict : Dict κ β) (key other : κ) (value : β) :
    (dict.set key value).get? other = if other = key then some value else dict.get? other :=
  lookup_assign key other value dict.entries

theorem get?_eq_some_iff {key : κ} {value : β} :
    dict.get? key = some value ↔ (key, value) ∈ dict.entries := by
  obtain ⟨entries, distinct⟩ := dict
  unfold get?
  induction entries with
  | nil => simp
  | cons entry rest ih =>
      obtain ⟨first, stored⟩ := entry
      obtain ⟨fresh, tail⟩ := List.nodup_cons.mp distinct
      rw [List.lookup_cons]
      by_cases same : key = first
      · subst same
        have absent : (key, value) ∉ rest := fun member =>
          fresh (List.mem_map.mpr ⟨_, member, rfl⟩)
        simp [absent, eq_comm]
      · have differs : (key == first) = false := by simpa using same
        simp [differs, same, ih tail]

theorem get?_eq_none_iff {key : κ} :
    dict.get? key = none ↔ key ∉ dict.entries.map Prod.fst := by
  constructor
  · intro missing member
    obtain ⟨⟨own, value⟩, inside, rfl⟩ := List.mem_map.mp member
    rw [get?_eq_some_iff.mpr inside] at missing
    cases missing
  · intro absent
    cases found : dict.get? key with
    | none => rfl
    | some value => exact absurd (List.mem_map_of_mem (get?_eq_some_iff.mp found)) absent

/-- A new key goes to the end. -/
theorem entries_set_absent {key : κ} (absent : key ∉ dict.entries.map Prod.fst)
    (value : β) : (dict.set key value).entries = dict.entries ++ [(key, value)] := by
  obtain ⟨entries, distinct⟩ := dict
  change assign key value entries = entries ++ [(key, value)]
  dsimp only at absent
  clear distinct
  induction entries with
  | nil => rfl
  | cons entry rest ih =>
      rw [List.map_cons, List.mem_cons, not_or] at absent
      rw [assign, if_neg (fun same => absent.1 same.symm), ih absent.2, List.cons_append]

/-- The order of the entries does not show in a lookup. -/
theorem get?_of_perm {first second : Dict κ β} (permuted : first.entries.Perm second.entries)
    (key : κ) : first.get? key = second.get? key := by
  apply Option.ext
  intro value
  rw [get?_eq_some_iff, get?_eq_some_iff, permuted.mem_iff]

/-- Dictionaries with the same lookups have the same keys. -/
theorem keys_perm {first second : Dict κ β} (same : ∀ key, first.get? key = second.get? key) :
    (first.entries.map Prod.fst).Perm (second.entries.map Prod.fst) := by
  apply (List.perm_ext_iff_of_nodup first.distinct second.distinct).mpr
  intro key
  rw [← not_iff_not, ← get?_eq_none_iff, ← get?_eq_none_iff, same]

theorem mem_values_iff {value : β} :
    value ∈ dict.values ↔ ∃ key, dict.get? key = some value := by
  simp [values, get?_eq_some_iff]

/-- Every value changed in place. -/
def mapValues (change : κ → β → β) (dict : Dict κ β) : Dict κ β :=
  ⟨dict.entries.map (fun entry => (entry.1, change entry.1 entry.2)), by
    rw [List.map_map]
    exact dict.distinct⟩

theorem lookup_mapValues (change : κ → β → β) (key : κ) (entries : List (κ × β)) :
    (entries.map (fun entry => (entry.1, change entry.1 entry.2))).lookup key =
      (entries.lookup key).map (change key) := by
  induction entries with
  | nil => rfl
  | cons entry rest ih =>
      rw [List.map_cons, List.lookup_cons, List.lookup_cons, ih]
      by_cases same : key = entry.1
      · simp [same]
      · have absent : (key == entry.1) = false := by simpa using same
        simp [absent]

theorem get?_mapValues (change : κ → β → β) (dict : Dict κ β) (key : κ) :
    (dict.mapValues change).get? key = (dict.get? key).map (change key) :=
  lookup_mapValues change key dict.entries

/-- A dictionary comprehension: later rows overwrite earlier ones. -/
def ofRows (key : α → κ) (value : α → β) (rows : List α) : Dict κ β :=
  rows.foldl (fun dict row => dict.set (key row) (value row)) empty

theorem ofRows_append_singleton (key : α → κ) (value : α → β) (rows : List α) (row : α) :
    ofRows key value (rows ++ [row]) = (ofRows key value rows).set (key row) (value row) := by
  simp [ofRows]

/-- The stored value of a key is that of its last row. -/
theorem get?_ofRows (key : α → κ) (value : α → β) (rows : List α) (wanted : κ) :
    (ofRows key value rows).get? wanted =
      (rows.filter (fun row => key row = wanted)).getLast?.map value := by
  induction rows using List.reverseRecOn with
  | nil => rfl
  | append_singleton rows row ih =>
      rw [ofRows_append_singleton, get?_set, ih, List.filter_append]
      by_cases same : key row = wanted
      · simp [same]
      · have other : wanted ≠ key row := fun equal => same equal.symm
        simp [same, other]

/-- Rows with distinct keys are all stored. -/
theorem get?_ofRows_of_nodup (key : α → κ) (value : α → β) {rows : List α}
    (distinct : (rows.map key).Nodup) {row : α} (member : row ∈ rows) :
    (ofRows key value rows).get? (key row) = some (value row) := by
  rw [get?_ofRows]
  have found : row ∈ rows.filter (fun other => key other = key row) := by
    simp [List.mem_filter, member]
  have last := List.getLast?_eq_some_getLast (List.ne_nil_of_mem found)
  have inside := List.getLast_mem (List.ne_nil_of_mem found)
  obtain ⟨isRow, sameKey⟩ := List.mem_filter.mp inside
  have same := List.inj_on_of_nodup_map distinct isRow member (of_decide_eq_true sameKey)
  rw [last, same]
  rfl

theorem mem_keys_ofRows {key : α → κ} {rows : List α} {wanted : κ} :
    wanted ∈ (ofRows key value rows).entries.map Prod.fst ↔ wanted ∈ rows.map key := by
  rw [← not_iff_not, ← get?_eq_none_iff, get?_ofRows, Option.map_eq_none_iff,
    List.getLast?_eq_none_iff, List.filter_eq_nil_iff]
  simp

/-- Rows are stored one for one exactly if their keys are distinct. -/
theorem length_ofRows_iff {key : α → κ} {rows : List α} :
    (ofRows key value rows).entries.length = rows.length ↔ (rows.map key).Nodup := by
  have stored : ((ofRows key value rows).entries.map Prod.fst).Perm (rows.map key).dedup := by
    refine (List.perm_ext_iff_of_nodup (ofRows key value rows).distinct (List.nodup_dedup _)).mpr ?_
    intro wanted
    rw [mem_keys_ofRows, List.mem_dedup]
  have lengths := stored.length_eq
  rw [List.length_map] at lengths
  rw [lengths, ← List.dedup_eq_self, ← List.length_map key]
  exact ⟨(List.dedup_sublist _).eq_of_length, fun same => by rw [same]⟩

theorem get?_ofRows_eq_some {key : α → κ} {rows : List α}
    (distinct : (rows.map key).Nodup) {wanted : κ} {found : β} :
    (ofRows key value rows).get? wanted = some found ↔
      ∃ row ∈ rows, key row = wanted ∧ value row = found := by
  constructor
  · intro stored
    rw [get?_ofRows] at stored
    obtain ⟨row, last, isFound⟩ := Option.map_eq_some_iff.mp stored
    obtain ⟨member, own⟩ := List.mem_filter.mp (List.mem_of_getLast? last)
    exact ⟨row, member, of_decide_eq_true own, isFound⟩
  · intro stored
    obtain ⟨row, member, rfl, rfl⟩ := stored
    exact get?_ofRows_of_nodup key value distinct member

/-- The order of rows with distinct keys does not show in a lookup. -/
theorem get?_ofRows_perm {key : α → κ} {rows others : List α}
    (permuted : rows.Perm others) (distinct : (rows.map key).Nodup) (wanted : κ) :
    (ofRows key value rows).get? wanted = (ofRows key value others).get? wanted := by
  have apart : (others.map key).Nodup := (permuted.map key).nodup_iff.mp distinct
  apply Option.ext
  intro found
  rw [get?_ofRows_eq_some distinct, get?_ofRows_eq_some apart]
  simp only [permuted.mem_iff]

/-- After all selected values were assigned under their own keys, each of them is
stored, provided that no other selected value shares its key. -/
theorem get?_foldl_set {select : β → Prop} [DecidablePred select] {key : β → κ} {items : List β}
    (start : Dict κ β) {item : β} (member : item ∈ items) (selected : select item)
    (unique : ∀ other ∈ items, select other → key other = key item → other = item) :
    (items.foldl (fun dict other => if select other then dict.set (key other) other else dict)
      start).get? (key item) = some item := by
  induction items using List.reverseRecOn with
  | nil => cases member
  | append_singleton items last ih =>
      have earlier : last ≠ item → item ∈ items := by
        intro different
        rcases List.mem_append.mp member with inside | final
        · exact inside
        · exact absurd (List.mem_singleton.mp final).symm different
      have shorter : last ≠ item → _ := fun different =>
        ih (earlier different) (fun other inside => unique other (List.mem_append_left _ inside))
      rw [List.foldl_append, List.foldl_cons, List.foldl_nil]
      by_cases same : last = item
      · rw [same, if_pos selected, get?_set, if_pos rfl]
      · split
        · rename_i chosen
          have apart : key item ≠ key last := fun equal =>
            same (unique last (by simp) chosen equal.symm)
          rw [get?_set, if_neg apart, shorter same]
        · exact shorter same

end Dict

end Chiplog.Data
