import Chiplog.Data.Dict
import Chiplog.Data.Framing

namespace Chiplog.Data

/-! Decoded records.

A decoder gives the fields of a flat object in the order of their names.  Looking a field up does
not depend on that order, so what a reader of single fields gets is what the writer has put in. -/

namespace Json

variable {fields : List (String × Json)}

/-- A text, a number, or a list of texts. -/
inductive Flat : Json → Prop
  | str (text : String) : Flat (.str text)
  | int (value : Int) : Flat (.int value)
  | texts (items : List String) : Flat (.arr (items.map .str))

theorem Flat.sorted {value : Json} (flat : Flat value) : Json.sorted value = value := by
  cases flat with
  | str => rfl
  | int => rfl
  | texts items =>
      rw [Json.sorted, sortedItems_eq_map, List.map_map]
      rfl

theorem sorted_flat (flat : ∀ field ∈ fields, Flat field.2) :
    sorted (.obj fields) = .obj (sortFields fields) := by
  rw [sorted_obj]
  congr 1
  conv_rhs => rw [← List.map_id (sortFields fields)]
  apply List.map_congr_left
  intro field member
  rw [(flat field (mem_sortFields.mp member)).sorted]
  rfl

theorem lookup_of_mem (distinct : (fields.map Prod.fst).Nodup)
    {key : String} {value : Json} (member : (key, value) ∈ fields) :
    fields.lookup key = some value :=
  (@Dict.get?_eq_some_iff _ _ _ ⟨fields, distinct⟩ key value).mpr member

theorem sortFields_nodup (distinct : (fields.map Prod.fst).Nodup) :
    ((sortFields fields).map Prod.fst).Nodup :=
  ((List.perm_insertionSort _ fields).map Prod.fst).nodup_iff.mpr distinct

theorem lookup_sortFields
    (distinct : (fields.map Prod.fst).Nodup) {key : String} {value : Json}
    (member : (key, value) ∈ fields) : (sortFields fields).lookup key = some value :=
  lookup_of_mem (sortFields_nodup distinct) (mem_sortFields.mpr member)

end Json

/-! ### Decoders -/

/-- The decoder gives back the fields of a flat object. -/
def ReadsFlat (loads : Bytes → Option Json) : Prop :=
  ∀ fields : List (String × Json), (fields.map Prod.fst).Nodup →
    (∀ field ∈ fields, Json.Flat field.2) →
    loads (Json.obj fields).encodeAscii = some (.obj (Json.sortFields fields))

open Classical in
/-- The decoder that knows the flat objects and nothing else. -/
noncomputable def flatLoads (raw : Bytes) : Option Json :=
  if known : ∃ fields : List (String × Json), (fields.map Prod.fst).Nodup ∧
      (∀ field ∈ fields, Json.Flat field.2) ∧ (Json.obj fields).encodeAscii = raw then
    some (.obj (Json.sortFields known.choose))
  else none

theorem flatLoads_reads : ReadsFlat flatLoads := by
  intro fields distinct flat
  have known : ∃ others : List (String × Json), (others.map Prod.fst).Nodup ∧
      (∀ field ∈ others, Json.Flat field.2) ∧
        (Json.obj others).encodeAscii = (Json.obj fields).encodeAscii :=
    ⟨fields, distinct, flat, rfl⟩
  rw [flatLoads, dif_pos known]
  obtain ⟨_, otherFlat, same⟩ := known.choose_spec
  have values := Json.encodeAscii_inj same
  rw [Json.sorted_flat otherFlat, Json.sorted_flat flat] at values
  rw [values]

/-! ### Fields -/

/-- The text fields of an object that has these fields and no others. -/
def textFields? (names : List String) : Json → Option (List String)
  | .obj fields =>
      if ∀ field ∈ fields, field.1 ∈ names then
        names.mapM (fun name =>
          match fields.lookup name with
          | some (.str text) => some text
          | _ => none)
      else none
  | _ => none

theorem textFields?_sortFields {fields : List (String × String)}
    (distinct : (fields.map Prod.fst).Nodup) :
    textFields? (fields.map Prod.fst)
      (.obj (Json.sortFields (fields.map (fun field => (field.1, .str field.2))))) =
        some (fields.map Prod.snd) := by
  have keys : (fields.map (fun field => (field.1, Json.str field.2))).map Prod.fst =
      fields.map Prod.fst := by
    rw [List.map_map]
    rfl
  have known : ∀ field ∈ Json.sortFields (fields.map (fun field => (field.1, Json.str field.2))),
      field.1 ∈ fields.map Prod.fst := by
    intro field member
    rw [← keys]
    exact List.mem_map_of_mem (Json.mem_sortFields.mp member)
  have found : ∀ field ∈ fields,
      (Json.sortFields (fields.map (fun field => (field.1, Json.str field.2)))).lookup field.1 =
        some (.str field.2) := by
    intro field member
    apply Json.lookup_sortFields (keys ▸ distinct)
    exact List.mem_map.mpr ⟨field, member, rfl⟩
  rw [textFields?, if_pos known, List.mapM_map]
  generalize Json.sortFields _ = sorted at found
  clear known keys distinct
  induction fields with
  | nil => rfl
  | cons field fields ih =>
      rw [List.mapM_cons, Function.comp_apply, found field List.mem_cons_self,
        ih (fun other member => found other (List.mem_cons_of_mem _ member))]
      rfl

def text? (name : String) (fields : List (String × Json)) : Option String :=
  match fields.lookup name with
  | some (.str text) => some text
  | _ => none

def ordinal? (name : String) (fields : List (String × Json)) : Option Nat :=
  match fields.lookup name with
  | some (.int (.ofNat value)) => some value
  | _ => none

def hex? (name : String) (fields : List (String × Json)) : Option Bytes := do
  let text ← text? name fields
  fromhex text.toList

def texts? (name : String) (fields : List (String × Json)) : Option (List String) :=
  match fields.lookup name with
  | some (.arr items) => items.mapM (fun item =>
      match item with
      | .str text => some text
      | _ => none)
  | _ => none

section

variable {fields : List (String × Json)} {name : String}

theorem text?_of_lookup {text : String} (found : fields.lookup name = some (toJson text)) :
    text? name fields = some text := by
  rw [text?, found]
  rfl

theorem ordinal?_of_lookup {value : Nat} (found : fields.lookup name = some (toJson value)) :
    ordinal? name fields = some value := by
  rw [ordinal?, found]
  rfl

theorem hex?_of_lookup {raw : Bytes} (found : fields.lookup name = some (.str (hex raw))) :
    hex? name fields = some raw := by
  have text : text? name fields = some (hex raw) := by rw [text?, found]
  rw [hex?, text]
  exact fromhex_hex raw

theorem texts?_of_lookup {texts : List String} (found : fields.lookup name = some (toJson texts)) :
    texts? name fields = some texts := by
  rw [texts?, found]
  change (texts.map toJson).mapM _ = some texts
  clear found
  rw [List.mapM_map]
  induction texts with
  | nil => rfl
  | cons text texts ih =>
      rw [List.mapM_cons, ih]
      rfl

end

end Chiplog.Data
