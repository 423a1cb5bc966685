import Chiplog.Data.JsonReading
import Chiplog.Data.JsonText
import Mathlib.Data.String.Basic

namespace Chiplog.Data.Json

/-! What a tagged text says.

A text that keeps the order of the fields gives the value away as it is; with the discriminant
moved to the front it gives it away up to the order of the fields. -/

/-- A character of the text as it is. -/
def plain (char : Char) : List Char := [char]

def inOrder (value : Json) : List Char := value.dumpsInOrder.toList

def inOrderField (field : String × Json) : List Char :=
  quoted plain field.1 ++ ':' :: inOrder field.2

theorem inOrderItems_eq_map (items : List Json) : inOrderItems items = items.map dumpsInOrder := by
  induction items with
  | nil => rfl
  | cons item rest ih => rw [inOrderItems, ih, List.map_cons]

theorem toList_series (lead close : String) (parts : List String)
    (printable : ∀ char ∈ lead.toList ++ close.toList, 32 ≤ char.toNat ∧ char.toNat < 127) :
    (lead ++ ",".intercalate parts ++ close).toList =
      lead.toList ++ series (parts.map String.toList) ++ close.toList := by
  have pieces := coding_utf8.text_series lead close parts printable
  simpa only [List.flatMap_singleton'] using pieces

theorem inOrder_arr (items : List Json) :
    inOrder (.arr items) = '[' :: (series (items.map inOrder) ++ [']']) := by
  have pieces := toList_series "[" "]" (inOrderItems items) (by decide)
  rw [inOrderItems_eq_map, List.map_map] at pieces
  rw [inOrder, dumpsInOrder, inOrderItems_eq_map]
  exact pieces

theorem inOrder_obj (fields : List (String × Json)) :
    inOrder (.obj fields) = '\x7b' :: (series (fields.map inOrderField) ++ ['\x7d']) := by
  have colon : ":".toList = [':'] := rfl
  have each (field : String × Json) :
      (Json.quote field.1 ++ ":" ++ dumpsInOrder field.2).toList = inOrderField field := by
    have key := coding_utf8.quote field.1
    rw [List.flatMap_singleton'] at key
    rw [String.toList_append, String.toList_append, key, colon, List.append_assoc]
    rfl
  have pieces := toList_series "\x7b" "\x7d" (inOrderFields fields) (by decide)
  rw [inOrderFields_eq_map, List.map_map] at pieces
  rw [inOrder, dumpsInOrder, inOrderFields_eq_map]
  refine pieces.trans ?_
  simp only [Function.comp_def, each]
  rfl

/-- A value without parts has one text. -/
def Scalar (value : Json) : Prop := kind value ≠ .arr ∧ kind value ≠ .obj

theorem inOrder_scalar {value : Json} (scalar : Scalar value) : inOrder value = text plain value := by
  have same : value.dumpsInOrder = value.dumps := by
    cases value with
    | arr items => exact absurd rfl scalar.1
    | obj fields => exact absurd rfl scalar.2
    | _ => rfl
  rw [inOrder, same, text]
  exact (List.flatMap_singleton' _).symm

theorem sorted_scalar {value : Json} (scalar : Scalar value) : sorted value = value := by
  cases value with
  | arr items => exact absurd rfl scalar.1
  | obj fields => exact absurd rfl scalar.2
  | _ => rfl

theorem inOrder_lead (value : Json) :
    ∃ lead rest, inOrder value = lead :: rest ∧ leadKind lead = kind value := by
  by_cases scalar : Scalar value
  · rw [inOrder_scalar scalar]
    exact coding_utf8.text_lead value
  · cases value with
    | arr items => exact ⟨_, _, inOrder_arr items, rfl⟩
    | obj fields => exact ⟨_, _, inOrder_obj fields, rfl⟩
    | _ => exact absurd (by simp [Scalar, kind]) scalar

theorem kind_of_inOrder {first second : Json} {rest other : List Char}
    (same : inOrder first ++ rest = inOrder second ++ other) : kind first = kind second := by
  obtain ⟨lead, tail, firstText, firstKind⟩ := inOrder_lead first
  obtain ⟨lead', tail', secondText, secondKind⟩ := inOrder_lead second
  rw [firstText, secondText] at same
  rw [← firstKind, ← secondKind, (List.cons.inj same).1]

theorem inOrder_ne_close {close : Char} (mark : leadKind close = .mark) (value : Json)
    (chars more : List Char) : inOrder value ++ chars ≠ close :: more := by
  intro same
  obtain ⟨lead, tail, shown, isKind⟩ := inOrder_lead value
  rw [shown] at same
  rw [(List.cons.inj same).1, mark] at isKind
  cases value <;> cases isKind

theorem inOrder_told_scalar {value : Json} (scalar : Scalar value) : Told inOrder id value := by
  intro other rest after stops stops' same
  have kinds := kind_of_inOrder same
  have otherScalar : Scalar other := by rwa [Scalar, ← kinds]
  rw [inOrder_scalar scalar, inOrder_scalar otherScalar] at same
  obtain ⟨equal, rests⟩ := coding_utf8.told_scalar scalar other rest after stops stops' same
  rw [sorted_scalar scalar, sorted_scalar otherScalar] at equal
  exact ⟨equal, rests⟩

theorem inOrder_told_field {field : String × Json} (told : Told inOrder id field.2) :
    Told inOrderField id field := by
  intro other rest after stops stops' same
  rw [inOrderField, inOrderField, List.append_assoc, List.append_assoc] at same
  obtain ⟨keys, values⟩ := coding_utf8.quoted_cut same
  obtain ⟨equal, rests⟩ := told other.2 rest after stops stops' (List.cons.inj values).2
  exact ⟨Prod.ext keys equal, rests⟩

theorem inOrder_told_arr {items : List Json} (told : ∀ item ∈ items, Told inOrder id item) :
    Told inOrder id (.arr items) := by
  intro other rest after _ _ same
  have kinds := kind_of_inOrder same
  cases other with
  | arr others =>
      rw [inOrder_arr, inOrder_arr] at same
      simp only [List.cons_append, List.append_assoc, List.nil_append] at same
      obtain ⟨values, rests⟩ := series_cut (by rintro _ _ ⟨⟩; decide) (by decide)
        (inOrder_ne_close rfl) told (List.cons.inj same).2
      rw [List.map_id, List.map_id] at values
      exact ⟨congrArg Json.arr values, rests⟩
  | _ => cases kinds

theorem inOrder_told_obj {fields : List (String × Json)}
    (told : ∀ field ∈ fields, Told inOrder id field.2) : Told inOrder id (.obj fields) := by
  intro other rest after _ _ same
  have kinds := kind_of_inOrder same
  cases other with
  | obj others =>
      rw [inOrder_obj, inOrder_obj] at same
      simp only [List.cons_append, List.append_assoc, List.nil_append] at same
      obtain ⟨values, rests⟩ := series_cut (by rintro _ _ ⟨⟩; decide) (by decide)
        (by intro _ _ _ same; cases same)
        (fun field member => inOrder_told_field (told field member)) (List.cons.inj same).2
      rw [List.map_id, List.map_id] at values
      exact ⟨congrArg Json.obj values, rests⟩
  | _ => cases kinds

mutual
theorem inOrder_told : ∀ value : Json, Told inOrder id value
  | .null => inOrder_told_scalar ⟨nofun, nofun⟩
  | .bool _ => inOrder_told_scalar ⟨nofun, nofun⟩
  | .int _ => inOrder_told_scalar ⟨nofun, nofun⟩
  | .str _ => inOrder_told_scalar ⟨nofun, nofun⟩
  | .arr items => inOrder_told_arr (inOrder_toldItems items)
  | .obj fields => inOrder_told_obj (inOrder_toldFields fields)

theorem inOrder_toldItems : ∀ items : List Json, ∀ item ∈ items, Told inOrder id item
  | [], _, member => absurd member List.not_mem_nil
  | first :: rest, item, member =>
      (List.mem_cons.mp member).elim (fun same => same ▸ inOrder_told first)
        (inOrder_toldItems rest item)

theorem inOrder_toldFields : ∀ fields : List (String × Json),
    ∀ field ∈ fields, Told inOrder id field.2
  | [], _, member => absurd member List.not_mem_nil
  | (_, value) :: rest, field, member =>
      (List.mem_cons.mp member).elim (fun same => same ▸ inOrder_told value)
        (inOrder_toldFields rest field)
end

/-- The text in order gives the value away. -/
theorem dumpsInOrder_inj {first second : Json} (same : first.dumpsInOrder = second.dumpsInOrder) :
    first = second :=
  (inOrder_told first second [] [] nofun nofun
    (congrArg (fun text : String => text.toList ++ []) same)).1

/-! ### The discriminant first -/

/-- Fields under different keys change places in an insertion. -/
theorem orderedInsert_swap {first second : String × Json} (apart : first.1 ≠ second.1)
    (fields : List (String × Json)) :
    (fields.orderedInsert (fun left right => left.1 ≤ right.1) second).orderedInsert
        (fun left right => left.1 ≤ right.1) first =
      (fields.orderedInsert (fun left right => left.1 ≤ right.1) first).orderedInsert
        (fun left right => left.1 ≤ right.1) second := by
  have strict : first.1 ≤ second.1 ∧ ¬ second.1 ≤ first.1 ∨
      second.1 ≤ first.1 ∧ ¬ first.1 ≤ second.1 := by
    rcases lt_or_gt_of_ne apart with before | after
    · exact .inl ⟨le_of_lt before, not_le_of_gt before⟩
    · exact .inr ⟨le_of_lt after, not_le_of_gt after⟩
  induction fields with
  | nil =>
      rcases strict with ⟨before, after⟩ | ⟨after, before⟩
      · simp [List.orderedInsert, before, after]
      · simp [List.orderedInsert, before, after]
  | cons field rest ih =>
      by_cases firstLe : first.1 ≤ field.1 <;> by_cases secondLe : second.1 ≤ field.1
      · rcases strict with ⟨before, after⟩ | ⟨after, before⟩
        · simp [List.orderedInsert, firstLe, secondLe, before, after]
        · simp [List.orderedInsert, firstLe, secondLe, before, after]
      · have after : ¬ second.1 ≤ first.1 := fun le => secondLe (le_trans le firstLe)
        simp [List.orderedInsert, firstLe, secondLe, after]
      · have before : ¬ first.1 ≤ second.1 := fun le => firstLe (le_trans le secondLe)
        simp [List.orderedInsert, firstLe, secondLe, before]
      · simp [List.orderedInsert, firstLe, secondLe, ih]

theorem sortFields_orderedInsert (field : String × Json) (fields : List (String × Json)) :
    sortFields (fields.orderedInsert KindFirst field) =
      (sortFields fields).orderedInsert (fun left right => left.1 ≤ right.1) field := by
  induction fields with
  | nil => rfl
  | cons first rest ih =>
      by_cases before : KindFirst field first
      · rw [List.orderedInsert, if_pos before]
        rfl
      · have apart : first.1 ≠ field.1 := by
          intro same
          by_cases kind : field.1 = "kind"
          · exact before (.inl kind)
          · exact before (.inr ⟨same ▸ kind, le_of_eq same.symm⟩)
        rw [List.orderedInsert, if_neg before]
        simp only [sortFields, List.insertionSort_cons] at ih ⊢
        rw [ih, orderedInsert_swap apart]

/-- The sort is stable, so an order of other keys before it does not show. -/
theorem sortFields_kindFirst (fields : List (String × Json)) :
    sortFields (fields.insertionSort KindFirst) = sortFields fields := by
  induction fields with
  | nil => rfl
  | cons field rest ih =>
      rw [List.insertionSort_cons, sortFields_orderedInsert, ih]
      rfl

mutual
theorem sorted_ordered : ∀ value : Json, sorted (ordered value) = sorted value
  | .null => rfl
  | .bool _ => rfl
  | .int _ => rfl
  | .str _ => rfl
  | .arr items => by
      rw [ordered, sorted, sorted, sorted_orderedItems items]
  | .obj fields => by
      have moved := sorted_orderedFields fields
      rw [ordered, sorted_obj, sortFields_kindFirst, ← sorted_obj, sorted, sorted, moved]

theorem sorted_orderedItems : ∀ items : List Json, sortedItems (orderedItems items) = sortedItems items
  | [] => rfl
  | item :: rest => by
      rw [orderedItems, sortedItems, sortedItems, sorted_ordered item, sorted_orderedItems rest]

theorem sorted_orderedFields : ∀ fields : List (String × Json),
    sortedFields (orderedFields fields) = sortedFields fields
  | [] => rfl
  | (key, value) :: rest => by
      rw [orderedFields, sortedFields, sortedFields, sorted_ordered value,
        sorted_orderedFields rest]
end

/-- Tagged JSON: the discriminant first, then the other keys. -/
def tagged (value : Json) : Bytes := utf8 value.ordered.dumpsInOrder

/-- One tagged text, one value up to the order of the fields. -/
theorem tagged_inj {first second : Json} (same : first.tagged = second.tagged) :
    sorted first = sorted second := by
  have equal := dumpsInOrder_inj (utf8_inj same)
  rw [← sorted_ordered first, ← sorted_ordered second, equal]

/-- A field of one object has a counterpart in an object with the same sorted form. -/
theorem sorted_obj_mem {fields others : List (String × Json)} (key : String) (value : Json)
    (same : sorted (.obj fields) = sorted (.obj others)) (member : (key, value) ∈ fields) :
    ∃ other, (key, other) ∈ others ∧ sorted value = sorted other := by
  rw [sorted, sorted, sortedFields_eq_map, sortedFields_eq_map] at same
  have sorts := List.perm_insertionSort (fun left right : String × Json => left.1 ≤ right.1)
  have permuted := (sorts (fields.map (fun field => (field.1, sorted field.2)))).symm
  rw [show List.insertionSort _ _ = List.insertionSort _ _ from Json.obj.inj same] at permuted
  have image : (key, sorted value) ∈ fields.map (fun field => (field.1, sorted field.2)) :=
    List.mem_map.mpr ⟨(key, value), member, rfl⟩
  have among := (sorts _).subset (permuted.subset image)
  obtain ⟨⟨found, other⟩, inside, equal⟩ := List.mem_map.mp among
  obtain ⟨keys, values⟩ := Prod.mk.inj equal
  dsimp only at keys values
  exact ⟨other, keys ▸ inside, values.symm⟩

/-- A field that both objects have is read the same from both. -/
theorem sorted_obj_field {α : Type} [Jsonable α] [Legible α] {fields others : List (String × Json)}
    (key : String) (value other : α) (same : sorted (.obj fields) = sorted (.obj others))
    (member : (key, toJson value) ∈ fields)
    (only : ∀ found, (key, found) ∈ others → found = toJson other) : value = other := by
  obtain ⟨found, inside, equal⟩ := sorted_obj_mem key _ same member
  rw [only found inside] at equal
  exact Legible.read value other equal

end Chiplog.Data.Json
