import Chiplog.Data.Checked
import Chiplog.Data.Framing
import Chiplog.Data.HashChain
import Chiplog.Data.Traces
import Chiplog.DeploymentTrust.Service

namespace Chiplog.DeploymentTrust.DecisionJournal

open Chiplog.Data

/-! The authenticated decision journal on its files.

One line per decision, tagged under a key that the files keep beside the body; the head file
names the last decision.  A line is written before the head is replaced, so a process that is
gone between the two leaves a body whose last decision is not anchored. -/

abbrev DecisionEntry := HashChain.Entry String Bytes

inductive JournalFailure where
  | runtime (reason : String)
  -- `hmac.compare_digest` takes no text outside ASCII
  | typeError
  | unicodeError
deriving DecidableEq

/-- What the journal uses of other code: `orjson.loads`, and `str` of a decoded value that is
no text. -/
structure LineReader where
  loads : Bytes → Option Json
  repr : Json → String

def LineReader.str (reader : LineReader) : Json → String
  | .str text => text
  | other => reader.repr other

/-- `item[key]`. -/
def item? (key : String) : Json → Option Json
  | .obj fields => fields.lookup key
  | _ => none

/-- `observed == predecessor`. -/
def samePredecessor : Json → Option String → Bool
  | .null, none => true
  | .str observed, some predecessor => observed = predecessor
  | _, _ => false

structure JournalItem where
  decision : Bytes
  decisionId : String
  predecessor : Json
  authentication : String

/-- The decoded fields of a line; any error of the decoding is none. -/
def readItem (reader : LineReader) (raw : Bytes) : Option JournalItem := do
  let item ← reader.loads raw
  let decision ←
    match ← item? "decision" item with
    | .str text => fromhex text.toList
    | _ => none
  let decisionId ← item? "decision_id" item
  let predecessor ← item? "predecessor" item
  let authentication ← item? "authentication" item
  some ⟨decision, reader.str decisionId, predecessor, reader.str authentication⟩

section

variable [Hashlib]

def linkBytes (predecessor : Option String) (decision : Bytes) : Bytes :=
  utf8 (orText predecessor "GENESIS") ++ [0] ++ decision

def decisionId (predecessor : Option String) (decision : Bytes) : String :=
  (sha256 (linkBytes predecessor decision)).text

def authenticationBytes (decisionId : String) (predecessor : Option String) (decision : Bytes) :
    Bytes :=
  utf8 (orText predecessor "GENESIS") ++ [0] ++ utf8 decisionId ++ [0] ++ decision

/-- `_entry_authentication`. -/
def entryAuthentication (key : Bytes) (decisionId : String) (predecessor : Option String)
    (decision : Bytes) : String :=
  (Hmac.hmac key (authenticationBytes decisionId predecessor decision)).text

/-- One line in `_decode_authenticated_entries`. -/
def decodeLine (reader : LineReader) (key : Bytes) (entries : List DecisionEntry) (raw : Bytes) :
    Except JournalFailure (List DecisionEntry) :=
  match readItem reader raw with
  | none => .error (.runtime "journal entry is unauthentic")
  | some item => do
      let predecessor := HashChain.head entries
      raiseIf (decisionId predecessor item.decision ≠ item.decisionId ∨
          samePredecessor item.predecessor predecessor = false)
        (.runtime "journal prefix or predecessor mismatch")
      raiseIf (∃ char ∈ item.authentication.toList, 128 ≤ char.toNat) .typeError
      raiseIf (item.authentication ≠
          entryAuthentication key item.decisionId predecessor item.decision)
        (.runtime "journal prefix or predecessor mismatch")
      .ok (entries ++ [⟨item.decisionId, predecessor, item.decision⟩])

def decodeLines (reader : LineReader) (key : Bytes) (lines : List Bytes) :
    Except JournalFailure (List DecisionEntry) :=
  lines.foldlM (decodeLine reader key) []

/-- `result[-1][0] if result else ""`. -/
def anchor (entries : List DecisionEntry) : String := (HashChain.head entries).getD ""

/-- `_decode_authenticated_entries`. -/
def decodeAuthenticatedEntries (reader : LineReader) (body key : Bytes) (anchoredHead : String) :
    Except JournalFailure (List DecisionEntry) := do
  let entries ← decodeLines reader key (splitlines body)
  raiseIf (anchoredHead ≠ anchor entries)
    (.runtime "journal rollback or incomplete head publication")
  .ok entries

structure JournalFiles where
  body : Bytes
  key : Bytes
  head : Bytes
  headNew : Option Bytes
deriving DecidableEq

/-- An instance with the key it has read and the last body it has decoded. -/
structure IndependentTenantDecisionJournal where
  existingOnly : Bool
  key : Bytes
  decoded : Option (Bytes × List DecisionEntry)

/-- The newline translation of a text file. -/
def universalNewlines : List Char → List Char
  | '\r' :: '\n' :: rest => '\n' :: universalNewlines rest
  | '\r' :: rest => '\n' :: universalNewlines rest
  | char :: rest => char :: universalNewlines rest
  | [] => []

namespace IndependentTenantDecisionJournal

/-- `_read_head`. -/
def readHead (journal : IndependentTenantDecisionJournal) (files : JournalFiles) :
    Except JournalFailure String :=
  let characters := files.head.map (fun byte => Char.ofNat byte.toNat)
  if ∃ byte ∈ files.head, 128 ≤ byte.toNat then
    .error (if journal.existingOnly then
      .runtime "journal rollback or incomplete head publication" else .unicodeError)
  else if journal.existingOnly then .ok (String.ofList characters)
  else .ok (String.ofList (universalNewlines characters))

/-- `_existing_sources` and `physical_sources`. -/
def sources (journal : IndependentTenantDecisionJournal) (files : JournalFiles) :
    Except JournalFailure Unit := do
  raiseIf (journal.existingOnly = true ∧ files.headNew ≠ none)
    (.runtime "journal has an interrupted head publication")
  raiseIf (files.key ≠ journal.key)
    (.runtime "journal authentication key changed after opening")

def decodeBody (reader : LineReader) (journal : IndependentTenantDecisionJournal)
    (files : JournalFiles) :
    Except JournalFailure (IndependentTenantDecisionJournal × List DecisionEntry) := do
  let anchoredHead ← journal.readHead files
  let entries ← decodeAuthenticatedEntries reader files.body journal.key anchoredHead
  .ok ({ journal with decoded := some (files.body, entries) }, entries)

/-- `_entries`. -/
def readEntries (reader : LineReader) (journal : IndependentTenantDecisionJournal)
    (files : JournalFiles) :
    Except JournalFailure (IndependentTenantDecisionJournal × List DecisionEntry) :=
  match journal.decoded with
  | some (body, entries) =>
      if files.body = body then do
        let anchoredHead ← journal.readHead files
        raiseIf (anchoredHead ≠ anchor entries)
          (.runtime "journal rollback or incomplete head publication")
        .ok (journal, entries)
      else journal.decodeBody reader files
  | none => journal.decodeBody reader files

def entries (reader : LineReader) (journal : IndependentTenantDecisionJournal)
    (files : JournalFiles) :
    Except JournalFailure (IndependentTenantDecisionJournal × List DecisionEntry) := do
  journal.sources files
  journal.readEntries reader files

end IndependentTenantDecisionJournal

def journalLine (key : Bytes) (decisionId : String) (predecessor : Option String)
    (decision : Bytes) : Bytes :=
  (textRecord [("authentication", some (entryAuthentication key decisionId predecessor decision)),
    ("decision", some (hex decision)), ("decision_id", some decisionId),
    ("predecessor", predecessor)]).encode

/-- Where the process of an append is gone. -/
inductive Stop where
  | completes
  | afterLine
  | afterTemporary
  | afterHead
deriving DecidableEq

inductive AppendReply where
  | returned (decisionId : String)
  | raised (failure : JournalFailure)
  | crashed
deriving DecidableEq

/-- `append` and `_append_existing`, with the files and the instance they leave. -/
def IndependentTenantDecisionJournal.append (reader : LineReader)
    (journal : IndependentTenantDecisionJournal) (files : JournalFiles) (decision : Bytes)
    (predecessor : Option String) (stop : Stop) :
    JournalFiles × IndependentTenantDecisionJournal × AppendReply :=
  match journal.entries reader files with
  | .error failure => (files, journal, .raised failure)
  | .ok (journal, entries) =>
      if predecessor ≠ HashChain.head entries then
        (files, journal, .raised (.runtime "journal predecessor mismatch"))
      else
        let id := decisionId predecessor decision
        let line := journalLine journal.key id predecessor decision
        let written := { files with body := files.body ++ (line ++ [10]) }
        let replaced := { written with head := utf8 id, headNew := none }
        match stop with
        | .afterLine => (written, journal, .crashed)
        | .afterTemporary => ({ written with headNew := some (utf8 id) }, journal, .crashed)
        | .afterHead => (replaced, journal, .crashed)
        | .completes =>
            if journal.existingOnly then
              match journal.entries reader replaced with
              | .error failure => (replaced, journal, .raised failure)
              | .ok (journal, _) => (replaced, journal, .returned id)
            else (replaced, journal, .returned id)

/-! ### Runs -/

/-- The files and the instances that processes have opened on them. -/
structure JournalWorld where
  files : JournalFiles
  instances : Nat → Option IndependentTenantDecisionJournal

/-- A provisioned journal without a decision. -/
def JournalWorld.initial (key : Bytes) : JournalWorld := ⟨⟨[], key, [], none⟩, fun _ => none⟩

def JournalWorld.keep (world : JournalWorld) (place : Nat)
    (journal : Option IndependentTenantDecisionJournal) : JournalWorld :=
  { world with instances := Function.update world.instances place journal }

inductive JournalLabel where
  | append (decision : Bytes) (predecessor : Option String) (stop : Stop) (reply : AppendReply)
  | other

namespace JournalLabel

/-- A decision whose append was done; its answer may be lost. -/
def accepted : JournalLabel → Option DecisionEntry
  | .append decision predecessor .completes (.returned id) => some ⟨id, predecessor, decision⟩
  | .append decision predecessor .afterHead .crashed =>
      some ⟨decisionId predecessor decision, predecessor, decision⟩
  | _ => none

/-- A decision whose line was written while its head was not. -/
def interrupted : JournalLabel → Option DecisionEntry
  | .append decision predecessor .afterLine .crashed
  | .append decision predecessor .afterTemporary .crashed =>
      some ⟨decisionId predecessor decision, predecessor, decision⟩
  | _ => none

/-- A decision that was authenticated. -/
def issued (label : JournalLabel) : Option DecisionEntry := label.accepted <|> label.interrupted

end JournalLabel

inductive JournalStep (reader : LineReader) : JournalWorld → JournalLabel → JournalWorld → Prop
  | opens (world : JournalWorld) (place : Nat) (existingOnly : Bool)
      {journal : IndependentTenantDecisionJournal} {entries : List DecisionEntry}
      (checked : IndependentTenantDecisionJournal.entries reader
        ⟨existingOnly, world.files.key, none⟩ world.files = .ok (journal, entries)) :
      JournalStep reader world .other (world.keep place (some journal))
  | reads (world : JournalWorld) (place : Nat) {journal after : IndependentTenantDecisionJournal}
      {entries : List DecisionEntry} (opened : world.instances place = some journal)
      (read : journal.entries reader world.files = .ok (after, entries)) :
      JournalStep reader world .other (world.keep place (some after))
  | closes (world : JournalWorld) (place : Nat) :
      JournalStep reader world .other (world.keep place none)
  | appends (world : JournalWorld) (place : Nat) {journal : IndependentTenantDecisionJournal}
      (opened : world.instances place = some journal) (decision : Bytes)
      (predecessor : Option String) (stop : Stop) {files : JournalFiles}
      {after : IndependentTenantDecisionJournal} {reply : AppendReply}
      (appended : journal.append reader world.files decision predecessor stop =
        (files, after, reply)) :
      JournalStep reader world (.append decision predecessor stop reply)
        ({ world with files := files }.keep place (if reply = AppendReply.crashed then none else some after))

end

end Chiplog.DeploymentTrust.DecisionJournal

namespace Chiplog.DeploymentTrust.DecisionJournal

open Chiplog.Data

/-! What the decision journal reads back.

A line that verifies at the end of a prefix of the issued chain is the next decision of that
chain: its tag names the predecessor, and no other decision has it.  The body that appends have
written decodes to all of it, so the head alone tells an anchored body from one that is not. -/

variable [Hashlib] {reader : LineReader} {key : Bytes}

/-- The line of an entry. -/
def lineOf (key : Bytes) (entry : DecisionEntry) : Bytes :=
  journalLine key entry.id entry.predecessor entry.body

/-- The body that the appends of these entries have written. -/
def framed (key : Bytes) (entries : List DecisionEntry) : Bytes :=
  entries.flatMap (fun entry => lineOf key entry ++ [10])

abbrev Chained (entries : List DecisionEntry) : Prop := HashChain.Chained decisionId entries

/-! ### Written lines -/

theorem splitlines_written (entries : List DecisionEntry) :
    splitlines (framed key entries) = entries.map (lineOf key) := by
  have plain : ∀ line ∈ entries.map (lineOf key), ∀ byte ∈ line, 32 ≤ byte.toNat := by
    intro line member
    obtain ⟨entry, _, rfl⟩ := List.mem_map.mp member
    exact Json.encode_plain _
  rw [← splitlines_framed plain, List.flatMap_map]
  rfl

theorem readItem_line (reads : ReadsRecords reader.loads) (id : String)
    (predecessor : Option String) (decision : Bytes) :
    readItem reader (journalLine key id predecessor decision) =
      some ⟨decision, id, toJson predecessor, entryAuthentication key id predecessor decision⟩ := by
  let line : List (String × Option String) :=
    [("authentication", some (entryAuthentication key id predecessor decision)),
      ("decision", some (hex decision)), ("decision_id", some id), ("predecessor", predecessor)]
  have ascending : ["authentication", "decision", "decision_id", "predecessor"].Pairwise (· < ·) := by
    decide
  have bytes : journalLine key id predecessor decision = (textRecord line).encode := rfl
  have loaded : reader.loads (textRecord line).encode = some (textRecord line) :=
    reads line ascending
  have decisions : item? "decision" (textRecord line) = some (.str (hex decision)) := rfl
  have ids : item? "decision_id" (textRecord line) = some (.str id) := rfl
  have predecessors : item? "predecessor" (textRecord line) = some (toJson predecessor) := rfl
  have authentications : item? "authentication" (textRecord line) =
      some (.str (entryAuthentication key id predecessor decision)) := rfl
  rw [readItem, bytes, loaded]
  simp only [Option.bind_eq_bind, Option.bind_some, decisions, ids, predecessors, authentications,
    fromhex_hex, LineReader.str]

omit [Hashlib] in
theorem digest_ascii (digest : Digest) : ∀ char ∈ digest.text.toList, char.toNat < 128 := by
  intro char member
  have alphabet : ∀ char ∈ hexAlphabet, char.toNat < 128 := by decide
  exact alphabet char (digest.hex.2 char member)

omit [Hashlib] in
theorem samePredecessor_iff {observed : Json} {predecessor : Option String} :
    samePredecessor observed predecessor = true ↔ observed = toJson predecessor := by
  cases predecessor <;> cases observed <;> simp [samePredecessor, toJson]

/-- The next decision of a chain is decoded from its line. -/
theorem decodeLine_next (reads : ReadsRecords reader.loads) (entries : List DecisionEntry)
    (decision : Bytes) :
    decodeLine reader key entries (lineOf key (HashChain.next decisionId entries decision)) =
      .ok (entries ++ [HashChain.next decisionId entries decision]) := by
  have item : readItem reader (lineOf key (HashChain.next decisionId entries decision)) = _ :=
    readItem_line reads _ _ _
  have same : samePredecessor (toJson (HashChain.head entries)) (HashChain.head entries) = true :=
    samePredecessor_iff.mpr rfl
  have linked : ¬ (decisionId (HashChain.head entries) decision ≠
      decisionId (HashChain.head entries) decision ∨
        samePredecessor (toJson (HashChain.head entries)) (HashChain.head entries) = false) := by
    simp [same]
  have ascii : ¬ ∃ char ∈ (entryAuthentication key
      (decisionId (HashChain.head entries) decision) (HashChain.head entries) decision).toList,
      128 ≤ char.toNat := by
    rintro ⟨char, member, large⟩
    exact absurd (digest_ascii _ char member) (Nat.not_lt.mpr large)
  rw [decodeLine, item]
  dsimp only [HashChain.next]
  rw [raiseIf_neg linked, ok_bind, raiseIf_neg ascii, ok_bind, raiseIf_neg (not_not.mpr rfl)]
  rfl

theorem decodeLines_written (reads : ReadsRecords reader.loads) {entries : List DecisionEntry}
    (chained : Chained entries) :
    decodeLines reader key (splitlines (framed key entries)) = .ok entries := by
  rw [splitlines_written]
  induction chained with
  | nil => rfl
  | @snoc entries chained body ih =>
      rw [decodeLines] at ih
      rw [decodeLines, List.map_append, List.foldlM_append, ih, ok_bind, List.map_singleton,
        List.foldlM_cons, decodeLine_next reads]
      rfl

/-! ### The head file -/

omit [Hashlib] in
/-- ASCII text is its bytes. -/
theorem utf8_ascii {text : String} (ascii : ∀ char ∈ text.toList, char.toNat < 128) :
    (utf8 text).map (fun byte => Char.ofNat byte.toNat) = text.toList ∧
      ∀ byte ∈ utf8 text, byte.toNat < 128 := by
  rw [utf8_chars]
  generalize text.toList = characters at ascii
  induction characters with
  | nil => exact ⟨rfl, fun _ member => absurd member List.not_mem_nil⟩
  | cons char rest ih =>
      have low := ascii char List.mem_cons_self
      obtain ⟨same, bytes⟩ := ih (fun other member => ascii other (List.mem_cons_of_mem _ member))
      have small : char.val.toNat ≤ 127 := Nat.le_of_lt_succ low
      have single : String.utf8EncodeChar char = [UInt8.ofNat char.toNat] := by
        rw [String.utf8EncodeChar]
        exact if_pos small
      have value : (UInt8.ofNat char.toNat).toNat = char.toNat := by
        rw [UInt8.toNat_ofNat']
        omega
      rw [List.flatMap_cons, single, List.singleton_append, List.map_cons, same, value,
        Char.ofNat_toNat]
      refine ⟨rfl, fun byte member => ?_⟩
      rcases List.mem_cons.mp member with rfl | later
      · rw [value]
        exact low
      · exact bytes byte later

omit [Hashlib] in
theorem universalNewlines_plain {characters : List Char} (plain : '\r' ∉ characters) :
    universalNewlines characters = characters := by
  induction characters with
  | nil => rfl
  | cons char rest ih =>
      have other : char ≠ '\r' := fun same => plain (same ▸ List.mem_cons_self)
      rw [universalNewlines, ih (fun member => plain (List.mem_cons_of_mem _ member))]
      · rintro _ rfl
        exact absurd rfl other
      · rintro rfl
        exact absurd rfl other

omit [Hashlib] in
/-- A head file with a decision id, or none, is read as it was written. -/
theorem readHead_written (journal : IndependentTenantDecisionJournal) {files : JournalFiles}
    {text : String} (hexadecimal : ∀ char ∈ text.toList, char ∈ hexAlphabet)
    (head : files.head = utf8 text) : journal.readHead files = .ok text := by
  have ascii : ∀ char ∈ text.toList, char.toNat < 128 := by
    have alphabet : ∀ char ∈ hexAlphabet, char.toNat < 128 := by decide
    exact fun char member => alphabet char (hexadecimal char member)
  obtain ⟨characters, low⟩ := utf8_ascii ascii
  have plain : '\r' ∉ text.toList := fun member =>
    absurd (hexadecimal '\r' member) (by decide)
  have decodable : ¬ ∃ byte ∈ files.head, 128 ≤ byte.toNat := by
    rw [head]
    rintro ⟨byte, member, high⟩
    exact absurd (low byte member) (Nat.not_lt.mpr high)
  rw [IndependentTenantDecisionJournal.readHead]
  rw [if_neg decodable, head, characters, universalNewlines_plain plain, String.ofList_toList]
  split <;> rfl

theorem anchor_hex {entries : List DecisionEntry} (chained : Chained entries) :
    ∀ char ∈ (anchor entries).toList, char ∈ hexAlphabet := by
  cases chained with
  | nil => exact fun _ member => absurd member List.not_mem_nil
  | @snoc entries chained body =>
      rw [anchor, HashChain.head_snoc]
      exact (sha256 (linkBytes (HashChain.head entries) body)).hex.2

end Chiplog.DeploymentTrust.DecisionJournal
