import Chiplog.Data.Framing

namespace Chiplog.Data

/-! The two edges of canonical text.

An object starts with its least key and ends with its greatest one.  `edgeHash` reads nothing but
the edges of a text, so that records of different kinds can be told apart without the rest of
their bytes; SHA-256 tells the same records apart. -/

namespace Json

/-- No other key of some fields comes before this one. -/
structure Extreme (before : String → String → Prop) (fields : List (String × Json))
    (keys : List String) (key : String) (value : Json) : Prop where
  member : (key, value) ∈ fields
  named : fields.map Prod.fst = keys
  distinct : keys.Nodup
  extreme : ∀ other ∈ keys, before other key → other = key

section Edges

variable {fields : List (String × Json)} {keys : List String} {key : String}
  {value : Json} {other : String × Json}

theorem sortFields_pairwise (fields : List (String × Json)) :
    (sortFields fields).Pairwise (fun left right => left.1 ≤ right.1) := by
  apply List.pairwise_insertionSort

theorem Extreme.eq {before : String → String → Prop} (extreme : Extreme before fields keys key value)
    (inside : other ∈ sortFields fields)
    (ordered : before other.1 key) :
    other = (key, value) := by
  obtain ⟨member, rfl, distinct, least⟩ := extreme
  have among := mem_sortFields.mp inside
  exact List.inj_on_of_nodup_map distinct among member
    (least other.1 (List.mem_map_of_mem among) ordered)

theorem sortFields_first (least : Extreme (· ≤ ·) fields keys key value) :
    ∃ rest, sortFields fields = (key, value) :: rest := by
  have ordered := sortFields_pairwise fields
  have member := mem_sortFields.mpr least.member
  have only : ∀ other ∈ sortFields fields, other.1 ≤ key → other = (key, value) :=
    fun _ => least.eq
  generalize sortFields fields = sorted at ordered member only
  cases sorted with
  | nil => cases member
  | cons first rest =>
      refine ⟨rest, ?_⟩
      rcases List.mem_cons.mp member with rfl | later
      · rfl
      · rw [only first List.mem_cons_self ((List.pairwise_cons.mp ordered).1 (key, value) later)]

theorem sortFields_last (greatest : Extreme (· ≥ ·) fields keys key value) :
    ∃ front, sortFields fields = front ++ [(key, value)] := by
  have ordered := sortFields_pairwise fields
  have member := mem_sortFields.mpr greatest.member
  have only : ∀ other ∈ sortFields fields, other.1 ≥ key → other = (key, value) :=
    fun _ => greatest.eq
  generalize sortFields fields = sorted at ordered member only
  cases sorted using List.reverseRecOn with
  | nil => cases member
  | append_singleton front last =>
      refine ⟨front, ?_⟩
      rcases List.mem_append.mp member with earlier | same
      · have after := (List.pairwise_append.mp ordered).2.2 (key, value) earlier last List.mem_cons_self
        rw [only last (List.mem_append_right _ List.mem_cons_self) after]
      · rw [List.mem_singleton.mp same]

theorem dumps_obj_first (least : Extreme (· ≤ ·) fields keys key value) :
    ∃ rest, (Json.obj fields).dumps =
      "\x7b" ++ (quote key ++ ":" ++ dumps value) ++ rest := by
  obtain ⟨rest, sorted⟩ := sortFields_first least
  rw [dumps, sortKeys_dumpsFields, sorted, List.map_cons, List.map_cons]
  cases rest with
  | nil =>
      rw [List.map_nil, List.map_nil, String.intercalate_singleton]
      exact ⟨_, rfl⟩
  | cons second rest =>
      rw [List.map_cons, List.map_cons, String.intercalate_cons_cons]
      exact ⟨_, by simp only [String.append_assoc]; rfl⟩

theorem dumps_obj_last (greatest : Extreme (· ≥ ·) fields keys key value) :
    ∃ front, (Json.obj fields).dumps =
      front ++ (quote key ++ ":" ++ dumps value ++ "\x7d") := by
  obtain ⟨front, sorted⟩ := sortFields_last greatest
  rw [dumps, sortKeys_dumpsFields, sorted, List.map_append, List.map_append]
  cases front with
  | nil => exact ⟨"\x7b", by simp [String.intercalate_singleton, String.append_assoc]⟩
  | cons first front =>
      rw [String.intercalate_append_of_ne_nil (by simp) (by simp), List.map_singleton,
        List.map_singleton, String.intercalate_singleton]
      generalize ",".intercalate _ = earlier
      exact ⟨"\x7b" ++ earlier ++ ",", by simp only [String.append_assoc]⟩

end Edges

end Json

/-! ### A hash of the edges -/

/-- The bytes that `edgeHash` reads: nineteen at the front and thirteen at the back. -/
def edgeBytes (raw : Bytes) : Bytes :=
  (List.range 19).map (raw.getD · 0) ++ (List.range 13).map (raw.reverse.getD · 0)

theorem edgeBytes_length (raw : Bytes) : (edgeBytes raw).length = 32 := by
  simp [edgeBytes]

theorem hex_digest {bytes : Bytes} (length : bytes.length = 32) :
    (hex bytes).length = 64 ∧ ∀ char ∈ (hex bytes).toList, char ∈ hexAlphabet := by
  constructor
  · have pairs : ∀ bytes : Bytes, (bytes.flatMap hexByte).length = 2 * bytes.length := by
      intro bytes
      simp [List.length_flatMap, hexByte, Nat.mul_comm]
    rw [hex, String.length_ofList, pairs, length]
  · intro char member
    rw [hex, String.toList_ofList] at member
    obtain ⟨byte, _, inside⟩ := List.mem_flatMap.mp member
    simp only [hexByte, List.mem_cons, List.not_mem_nil, or_false] at inside
    rcases inside with rfl | rfl
    · exact Sha256.hexDigit_mem _
    · exact Sha256.hexDigit_mem _

/-- A stand-in for the hash. -/
@[reducible] def edgeHash : Hashlib := 
  ⟨fun raw => ⟨hex (edgeBytes raw), hex_digest (edgeBytes_length raw)⟩⟩

theorem edgeHash_ne {left right : Bytes} (place : Nat)
    (differs : (edgeBytes left).getD place 0 ≠ (edgeBytes right).getD place 0) :
    (edgeHash.sha256 left).text ≠ (edgeHash.sha256 right).text := by
  intro same
  have read : some (edgeBytes left) = some (edgeBytes right) := by
    rw [← fromhex_hex (edgeBytes left), ← fromhex_hex (edgeBytes right)]
    exact congrArg (fun text => fromhex text.toList) same
  exact differs (by rw [Option.some.inj read])

section Reading

variable {place : Nat} {byte : UInt8}

theorem edgeBytes_front {lead rest : Bytes} (shows : lead[place]? = some byte)
    (read : place < 19) : (edgeBytes (lead ++ rest)).getD place 0 = byte := by
  have inside : place < lead.length := (List.getElem?_eq_some_iff.mp shows).1
  have length : ((List.range 19).map ((lead ++ rest).getD · 0)).length = 19 := by simp
  rw [edgeBytes, List.getD_append _ _ _ _ (length ▸ read),
    List.getD_eq_getElem _ _ (length ▸ read), List.getElem_map, List.getElem_range,
    List.getD_append _ _ _ _ inside, List.getD_eq_getElem?_getD, shows, Option.getD_some]

theorem edgeBytes_back {front close : Bytes} (shows : close.reverse[place]? = some byte)
    (read : place < 13) : (edgeBytes (front ++ close)).getD (19 + place) 0 = byte := by
  have inside : place < close.reverse.length := (List.getElem?_eq_some_iff.mp shows).1
  have length : ((List.range 19).map ((front ++ close).getD · 0)).length = 19 := by simp
  have bound : place < ((List.range 13).map ((front ++ close).reverse.getD · 0)).length := by
    simpa using read
  rw [edgeBytes, List.getD_append_right _ _ _ _ (by omega), length, Nat.add_sub_cancel_left,
    List.getD_eq_getElem _ _ bound, List.getElem_map, List.getElem_range, List.reverse_append,
    List.getD_append _ _ _ _ inside, List.getD_eq_getElem?_getD, shows, Option.getD_some]

open Json

variable {fields : List (String × Json)} {keys : List String} {key : String}
  {value : Json}

/-- A byte of the first key. -/
theorem edge_key (least : Extreme (· ≤ ·) fields keys key value)
    (shows : (utf8 ("\x7b" ++ quote key))[place]? = some byte) (read : place < 19) :
    (edgeBytes (Json.obj fields).encode).getD place 0 = byte := by
  obtain ⟨rest, split⟩ := dumps_obj_first least
  have lead : (Json.obj fields).encode =
      utf8 ("\x7b" ++ quote key) ++ utf8 (":" ++ dumps value ++ rest) := by
    rw [encode, split, ← utf8_append]
    simp only [String.append_assoc]
  rw [lead, edgeBytes_front shows read]

/-- A byte of the first field. -/
theorem edge_first (least : Extreme (· ≤ ·) fields keys key value)
    (shows : (utf8 ("\x7b" ++ (quote key ++ ":" ++ dumps value)))[place]? = some byte)
    (read : place < 19) : (edgeBytes (Json.obj fields).encode).getD place 0 = byte := by
  obtain ⟨rest, split⟩ := dumps_obj_first least
  rw [encode, split, utf8_append _ rest, edgeBytes_front shows read]

/-- A byte up to the opening quotation mark of a first field that holds a text. -/
theorem edge_text {text : String} (least : Extreme (· ≤ ·) fields keys key (.str text))
    (shows : (utf8 ("\x7b" ++ quote key ++ ":\""))[place]? = some byte) (read : place < 19) :
    (edgeBytes (Json.obj fields).encode).getD place 0 = byte := by
  obtain ⟨rest, split⟩ := dumps_obj_first least
  have mark : ":" ++ "\"" = ":\"" := rfl
  have lead : (Json.obj fields).encode = utf8 ("\x7b" ++ quote key ++ ":\"") ++
      utf8 (String.ofList (text.toList.flatMap escape) ++ "\"" ++ rest) := by
    rw [encode, split, ← utf8_append, dumps, ← mark]
    conv_lhs => rw [quote.eq_1 text]
    simp only [String.append_assoc]
  rw [lead, edgeBytes_front shows read]

/-- A byte of the last field. -/
theorem edge_last (greatest : Extreme (· ≥ ·) fields keys key value)
    (shows : (utf8 (quote key ++ ":" ++ dumps value ++ "\x7d")).reverse[place]? = some byte)
    (read : place < 13) : (edgeBytes (Json.obj fields).encode).getD (19 + place) 0 = byte := by
  obtain ⟨front, split⟩ := dumps_obj_last greatest
  rw [encode, split, utf8_append front, edgeBytes_back shows read]

end Reading

end Chiplog.Data
