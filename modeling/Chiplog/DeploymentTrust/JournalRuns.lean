import Chiplog.DeploymentTrust.DecisionJournal
import Chiplog.DeploymentTrust.Recovery

namespace Chiplog.DeploymentTrust.DecisionJournal

open Chiplog.Data

/-! Bodies from anywhere.

A tag speaks of the predecessor, the identity and the decision, cut at marks that neither of the
first two can hold.  Lines whose tags were issued are therefore issued decisions, and each of
them names the decision before it, so lines that decode one after another are a prefix. -/

variable [Hashlib] {reader : LineReader} {key : Bytes}

/-! ### What the bytes give away -/

omit [Hashlib] in
theorem utf8_unmarked {text : String} (clean : '\x00' ∉ text.toList) : (0 : UInt8) ∉ utf8 text := by
  intro member
  rw [utf8_chars] at member
  obtain ⟨char, inside, member⟩ := List.mem_flatMap.mp member
  rcases mem_utf8EncodeChar member with same | high
  · have null : char = '\x00' := by
      rw [← Char.ofNat_toNat char, ← same]
      rfl
    exact clean (null ▸ inside)
  · exact absurd high (by decide)

omit [Hashlib] in
theorem predecessor_unmarked {predecessor : Option String} (valid : Predecessor predecessor) :
    (0 : UInt8) ∉ utf8 (orText predecessor "GENESIS") :=
  utf8_unmarked (predecessor_text valid)

omit [Hashlib] in
theorem digest_unmarked (digest : Digest) : (0 : UInt8) ∉ utf8 digest.text := by
  apply utf8_unmarked
  have clean : '\x00' ∉ hexAlphabet := by decide
  exact fun member => clean (digest.hex.2 _ member)

omit [Hashlib] in
theorem linkBytes_inj {first second : Option String} {decision other : Bytes}
    (firstValid : Predecessor first) (secondValid : Predecessor second)
    (same : linkBytes first decision = linkBytes second other) :
    first = second ∧ decision = other := by
  rw [linkBytes, linkBytes, List.append_assoc, List.append_assoc] at same
  obtain ⟨texts, decisions⟩ :=
    cut_at_mark (predecessor_unmarked firstValid) (predecessor_unmarked secondValid) same
  exact ⟨orText_inj firstValid secondValid (utf8_inj texts), decisions⟩

omit [Hashlib] in
/-- A tagged message is cut into its parts in one way. -/
theorem authenticationBytes_inj {first second : Option String} {id other : Digest}
    {decision last : Bytes} (firstValid : Predecessor first) (secondValid : Predecessor second)
    (same : authenticationBytes id.text first decision =
      authenticationBytes other.text second last) :
    id = other ∧ first = second ∧ decision = last := by
  simp only [authenticationBytes, List.append_assoc, List.singleton_append] at same
  obtain ⟨texts, later⟩ :=
    cut_at_mark (predecessor_unmarked firstValid) (predecessor_unmarked secondValid) same
  obtain ⟨ids, decisions⟩ := cut_at_mark (digest_unmarked id) (digest_unmarked other) later
  exact ⟨Digest.ext_text (utf8_inj ids), orText_inj firstValid secondValid (utf8_inj texts),
    decisions⟩

/-! ### Chains -/

/-- The texts that the identities of these decisions are digests of. -/
def hashedTexts (entries : List DecisionEntry) : List Bytes :=
  entries.map (fun entry => linkBytes entry.predecessor entry.body)

/-- An entry of a chain with the hash it is named by. -/
theorem chained_decision {entries : List DecisionEntry} (chained : Chained entries)
    {entry : DecisionEntry} (member : entry ∈ entries) :
    Predecessor entry.predecessor ∧
      entry.id = (sha256 (linkBytes entry.predecessor entry.body)).text := by
  induction chained generalizing entry with
  | nil => exact absurd member List.not_mem_nil
  | @snoc entries chained body ih =>
      rcases List.mem_append.mp member with earlier | last
      · exact ih earlier
      · obtain rfl := List.mem_singleton.mp last
        refine ⟨?_, rfl⟩
        cases known : HashChain.head entries with
        | none => exact .inl known
        | some id =>
            obtain ⟨previous, previousMember, rfl⟩ := HashChain.exists_of_head known
            exact .inr ⟨_, known.trans (congrArg some (ih previousMember).2)⟩

theorem head_predecessor {entries : List DecisionEntry} (chained : Chained entries) :
    Predecessor (HashChain.head entries) := by
  cases known : HashChain.head entries with
  | none => exact .inl rfl
  | some id =>
      obtain ⟨entry, member, rfl⟩ := HashChain.exists_of_head known
      exact .inr ⟨_, congrArg some (chained_decision chained member).2⟩

theorem ids_nodup {entries : List DecisionEntry} (chained : Chained entries)
    (apart : ¬ Json.CollisionAmong (hashedTexts entries)) :
    (entries.map HashChain.Entry.id).Nodup := by
  apply chained.ids_nodup
  intro first firstMember second secondMember same
  obtain ⟨firstValid, firstId⟩ := chained_decision chained firstMember
  obtain ⟨secondValid, secondId⟩ := chained_decision chained secondMember
  rw [firstId, secondId] at same
  by_contra differs
  refine apart ⟨_, List.mem_map_of_mem firstMember, _, List.mem_map_of_mem secondMember, ?_,
    Digest.ext_text same⟩
  exact fun equal => differs (linkBytes_inj firstValid secondValid equal).1

/-! ### Forged lines -/

/-- One of the lines carries a tag under the key for something that was never authenticated. -/
def Forged (reader : LineReader) (key : Bytes) (issued : List DecisionEntry)
    (lines : List Bytes) : Prop :=
  ∃ raw ∈ lines, ∃ item, readItem reader raw = some item ∧ ∃ predecessor : Option String,
    item.predecessor = toJson predecessor ∧
    item.authentication =
      entryAuthentication key item.decisionId predecessor item.decision ∧
    authenticationBytes item.decisionId predecessor item.decision ∉
      issued.map (fun entry => authenticationBytes entry.id entry.predecessor entry.body)

/-- A line that verifies is the next decision of its own chain. -/
theorem decodeLine_ok {entries after : List DecisionEntry} {raw : Bytes}
    (decoded : decodeLine reader key entries raw = .ok after) :
    ∃ item, readItem reader raw = some item ∧
      item.decisionId = decisionId (HashChain.head entries) item.decision ∧
      item.predecessor = toJson (HashChain.head entries) ∧
      item.authentication =
        entryAuthentication key item.decisionId (HashChain.head entries) item.decision ∧
      after = entries ++ [HashChain.next decisionId entries item.decision] := by
  rw [decodeLine] at decoded
  cases read : readItem reader raw with
  | none =>
      rw [read] at decoded
      cases decoded
  | some item =>
      rw [read] at decoded
      obtain ⟨_, linked, decoded⟩ := bind_ok.mp decoded
      obtain ⟨sameId, samePrevious⟩ := not_or.mp (raiseIf_ok.mp linked)
      obtain ⟨_, _, decoded⟩ := bind_ok.mp decoded
      obtain ⟨_, tagged, decoded⟩ := bind_ok.mp decoded
      cases decoded
      have named := not_not.mp sameId
      refine ⟨item, rfl, named.symm, ?_, not_not.mp (raiseIf_ok.mp tagged), ?_⟩
      · exact samePredecessor_iff.mp (Bool.not_eq_false _ ▸ samePrevious)
      · rw [HashChain.next, named]

/-- Lines that decode are a prefix of what was issued, unless one of them is forged. -/
theorem decodeLines_issued {issued : List DecisionEntry} (chained : Chained issued)
    (apart : ¬ Json.CollisionAmong (hashedTexts issued)) {lines : List Bytes}
    {entries : List DecisionEntry} (decoded : decodeLines reader key lines = .ok entries) :
    Forged reader key issued lines ∨ Chained entries ∧ entries <+: issued := by
  have distinct := ids_nodup chained apart
  let invariant (done : List Bytes) (entries : List DecisionEntry) : Prop :=
    Forged reader key issued done ∨ Chained entries ∧ entries <+: issued
  refine foldlM_invariant invariant (.inr ⟨.nil, List.nil_prefix⟩) ?_ decoded
  intro done raw entries after known line
  rcases known with ⟨forged, member, rest⟩ | ⟨own, rest, parts⟩
  · exact .inl ⟨forged, List.mem_append_left _ member, rest⟩
  · obtain ⟨item, read, named, previous, tagged, rfl⟩ := decodeLine_ok line
    by_cases authentic : authenticationBytes item.decisionId (HashChain.head entries)
        item.decision ∈
          issued.map (fun entry => authenticationBytes entry.id entry.predecessor entry.body)
    · right
      refine ⟨own.snoc item.decision, ?_⟩
      obtain ⟨entry, member, same⟩ := List.mem_map.mp authentic
      obtain ⟨valid, entryId⟩ := chained_decision chained member
      rw [entryId, named, decisionId] at same
      obtain ⟨_, predecessors, decisions⟩ :=
        authenticationBytes_inj valid (head_predecessor own) same
      obtain ⟨front, tail, cut⟩ := List.append_of_mem member
      have linked : entry = HashChain.next decisionId front entry.body :=
        chained.split front entry tail cut
      have heads : HashChain.head entries = HashChain.head front :=
        predecessors.symm.trans (congrArg HashChain.Entry.predecessor linked)
      obtain rfl := HashChain.front_unique distinct parts.symm cut heads
      refine ⟨tail, ?_⟩
      rw [cut, List.append_assoc, List.singleton_append, ← decisions, ← linked]
    · exact .inl ⟨raw, List.mem_append_right _ List.mem_cons_self, item, read,
        HashChain.head entries, previous, tagged, authentic⟩

end Chiplog.DeploymentTrust.DecisionJournal

namespace Chiplog.DeploymentTrust.DecisionJournal

open Chiplog.Data

/-! Runs of the decision journal.

As long as no append is cut off between its line and its head, the files hold the accepted
decisions and every instance reads them.  Once one is, the head names an earlier decision than
the last line, and no instance gets past that. -/

variable [Hashlib] {reader : LineReader} {key : Bytes} {entries : List DecisionEntry}
  {label : JournalLabel} {labels : List JournalLabel}

/-! ### One instance -/

/-- An instance of the journal whose cached decoding is that of the cached body. -/
structure Known (reader : LineReader) (key : Bytes)
    (journal : IndependentTenantDecisionJournal) : Prop where
  sameKey : journal.key = key
  decoded : ∀ body entries, journal.decoded = some (body, entries) →
    decodeLines reader key (splitlines body) = .ok entries

theorem Known.fresh (existingOnly : Bool) : Known reader key ⟨existingOnly, key, none⟩ :=
  ⟨rfl, fun _ _ impossible => nomatch impossible⟩

namespace Known

variable {journal : IndependentTenantDecisionJournal} {files : JournalFiles}
  {written : List DecisionEntry} {text : String}

/-- The head is compared with the last line, cached or not. -/
theorem readEntries_error (known : Known reader key journal)
    (body : decodeLines reader key (splitlines files.body) = .ok written)
    (head : journal.readHead files = .ok text) (stale : text ≠ anchor written) :
    ∃ failure, journal.readEntries reader files = .error failure := by
  refine ⟨.runtime "journal rollback or incomplete head publication", ?_⟩
  have full : journal.decodeBody reader files =
      .error (.runtime "journal rollback or incomplete head publication") := by
    rw [IndependentTenantDecisionJournal.decodeBody, head, ok_bind, decodeAuthenticatedEntries,
      known.sameKey, body, ok_bind, raiseIf_pos stale]
    rfl
  rw [IndependentTenantDecisionJournal.readEntries]
  split
  · rename_i cached entries decoded
    split
    · rename_i same
      have agree := known.decoded cached entries decoded
      rw [← same, body] at agree
      cases agree
      rw [head, ok_bind, raiseIf_pos stale]
      rfl
    · exact full
  · exact full

/-- A body whose head is anchored is read as it was decoded. -/
theorem readEntries_ok (known : Known reader key journal)
    (body : decodeLines reader key (splitlines files.body) = .ok written)
    (head : journal.readHead files = .ok (anchor written)) :
    ∃ after, journal.readEntries reader files = .ok (after, written) ∧
      Known reader key after ∧ after.existingOnly = journal.existingOnly := by
  have full : journal.decodeBody reader files =
      .ok ({ journal with decoded := some (files.body, written) }, written) := by
    rw [IndependentTenantDecisionJournal.decodeBody, head, ok_bind, decodeAuthenticatedEntries,
      known.sameKey, body, ok_bind, raiseIf_neg (not_not.mpr rfl)]
    rfl
  have cachedNow : Known reader key { journal with decoded := some (files.body, written) } := by
    refine ⟨known.sameKey, ?_⟩
    rintro _ _ ⟨⟩
    exact body
  rw [IndependentTenantDecisionJournal.readEntries]
  split
  · rename_i cached entries decoded
    split
    · rename_i same
      have agree := known.decoded cached entries decoded
      rw [← same, body] at agree
      cases agree
      refine ⟨journal, ?_, known, rfl⟩
      rw [head, ok_bind, raiseIf_neg (not_not.mpr rfl)]
      rfl
    · exact ⟨_, full, cachedNow, rfl⟩
  · exact ⟨_, full, cachedNow, rfl⟩

end Known

variable {journal : IndependentTenantDecisionJournal} {world : JournalWorld} {files : JournalFiles}
  {entry : DecisionEntry}

/-! ### The files -/

/-- Files that hold exactly these decisions. -/
structure Anchored (key : Bytes) (entries : List DecisionEntry) (files : JournalFiles) : Prop where
  chained : Chained entries
  body : files.body = framed key entries
  sameKey : files.key = key
  head : files.head = utf8 (anchor entries)
  headNew : files.headNew = none

/-- Files with a last line that the head does not name. -/
structure Unanchored (key : Bytes) (entries : List DecisionEntry) (files : JournalFiles) :
    Prop where
  chained : Chained entries
  body : files.body = framed key entries
  sameKey : files.key = key
  head : ∃ front, Chained front ∧ anchor front ≠ anchor entries ∧
    files.head = utf8 (anchor front)

theorem Anchored.entries_ok (reads : ReadsRecords reader.loads)
    (anchored : Anchored key entries files) (known : Known reader key journal) :
    ∃ after, journal.entries reader files = .ok (after, entries) ∧
      Known reader key after ∧ after.existingOnly = journal.existingOnly := by
  have body : decodeLines reader key (splitlines files.body) = .ok entries := by
    rw [anchored.body]
    exact decodeLines_written reads anchored.chained
  have head : journal.readHead files = .ok (anchor entries) :=
    readHead_written journal (anchor_hex anchored.chained) anchored.head
  obtain ⟨after, read, rest⟩ := known.readEntries_ok body head
  refine ⟨after, ?_, rest⟩
  have sameKey : files.key = journal.key := anchored.sameKey.trans known.sameKey.symm
  rw [IndependentTenantDecisionJournal.entries, IndependentTenantDecisionJournal.sources,
    raiseIf_neg (fun pending => pending.2 anchored.headNew), ok_bind,
    raiseIf_neg (not_not.mpr sameKey), ok_bind, read]

theorem Unanchored.entries_error (reads : ReadsRecords reader.loads)
    (unanchored : Unanchored key entries files) (known : Known reader key journal) :
    ∃ failure, journal.entries reader files = .error failure := by
  obtain ⟨front, chained, stale, head⟩ := unanchored.head
  have body : decodeLines reader key (splitlines files.body) = .ok entries := by
    rw [unanchored.body]
    exact decodeLines_written reads unanchored.chained
  obtain ⟨failure, read⟩ := known.readEntries_error body
    (readHead_written journal (anchor_hex chained) head) stale
  rw [IndependentTenantDecisionJournal.entries]
  cases checked : journal.sources files with
  | error failure => exact ⟨failure, rfl⟩
  | ok _ => exact ⟨failure, read⟩

/-- A journal that cannot be read is not written either. -/
theorem append_error
    {failure : JournalFailure} (failed : journal.entries reader files = .error failure)
    (decision : Bytes) (predecessor : Option String) (stop : Stop) :
    journal.append reader files decision predecessor stop = (files, journal, .raised failure) := by
  rw [IndependentTenantDecisionJournal.append, failed]

theorem framed_snoc (entries : List DecisionEntry) (entry : DecisionEntry) :
    framed key (entries ++ [entry]) = framed key entries ++ (lineOf key entry ++ [10]) := by
  rw [framed, framed, List.flatMap_append, List.flatMap_singleton]

/-- The head of a chain is not the head before its last decision. -/
theorem anchor_ne {decision : Bytes}
    (chained : Chained (entries ++ [HashChain.next decisionId entries decision]))
    (apart : ¬ Json.CollisionAmong
      (hashedTexts (entries ++ [HashChain.next decisionId entries decision]))) :
    anchor entries ≠ anchor (entries ++ [HashChain.next decisionId entries decision]) := by
  have distinct := ids_nodup chained apart
  intro same
  rw [anchor, anchor, HashChain.head_snoc] at same
  cases known : HashChain.head entries with
  | none =>
      rw [known] at same
      exact (sha256 (linkBytes (HashChain.head entries) decision)).text_ne_empty same.symm
  | some id =>
      rw [known] at same
      apply HashChain.head_ne_of_grown distinct (List.cons_ne_nil _ []) known
      rw [HashChain.head_snoc]
      exact congrArg some same.symm

/-! ### One append -/

/-- What an append does to files that hold exactly the accepted decisions. -/
inductive Appended (reader : LineReader) (key : Bytes) (entries : List DecisionEntry)
    (files : JournalFiles) (decision : Bytes) (predecessor : Option String) (stop : Stop) :
    JournalFiles → IndependentTenantDecisionJournal → AppendReply → Prop
  | refused (after : IndependentTenantDecisionJournal) (known : Known reader key after)
      (reason : JournalFailure) :
      Appended reader key entries files decision predecessor stop files after (.raised reason)
  | accepted (written : JournalFiles) (after : IndependentTenantDecisionJournal)
      (known : Known reader key after) (reply : AppendReply)
      (anchored : Anchored key (entries ++ [HashChain.next decisionId entries decision]) written)
      (label : JournalLabel.accepted (.append decision predecessor stop reply) =
        some (HashChain.next decisionId entries decision)) :
      Appended reader key entries files decision predecessor stop written after reply
  | interrupted (written : JournalFiles) (after : IndependentTenantDecisionJournal)
      (body : written.body =
        framed key (entries ++ [HashChain.next decisionId entries decision]))
      (sameKey : written.key = key) (head : written.head = utf8 (anchor entries))
      (label : JournalLabel.interrupted (.append decision predecessor stop .crashed) =
        some (HashChain.next decisionId entries decision)) :
      Appended reader key entries files decision predecessor stop written after .crashed

theorem Anchored.append (reads : ReadsRecords reader.loads)
    {files written : JournalFiles} (anchored : Anchored key entries files)
    {journal after : IndependentTenantDecisionJournal} (known : Known reader key journal)
    {decision : Bytes} {predecessor : Option String} {stop : Stop} {reply : AppendReply}
    (appended : journal.append reader files decision predecessor stop = (written, after, reply)) :
    Appended reader key entries files decision predecessor stop written after reply := by
  obtain ⟨cached, read, knows, _⟩ := anchored.entries_ok reads known
  rw [IndependentTenantDecisionJournal.append, read] at appended
  dsimp only at appended
  by_cases current : predecessor = HashChain.head entries
  · rw [if_neg (not_not.mpr current)] at appended
    subst current
    have line : files.body ++ (journalLine cached.key
        (decisionId (HashChain.head entries) decision) (HashChain.head entries) decision ++ [10]) =
          framed key (entries ++ [HashChain.next decisionId entries decision]) := by
      rw [framed_snoc, anchored.body, knows.sameKey]
      rfl
    rw [line] at appended
    have published (headNew : Option Bytes) (none : headNew = none) :
        Anchored key (entries ++ [HashChain.next decisionId entries decision])
          ⟨framed key (entries ++ [HashChain.next decisionId entries decision]), files.key,
            utf8 (decisionId (HashChain.head entries) decision), headNew⟩ := by
      refine ⟨anchored.chained.snoc decision, rfl, anchored.sameKey, ?_, none⟩
      rw [anchor, HashChain.head_snoc]
      rfl
    cases stop with
    | afterLine =>
        cases appended
        exact .interrupted _ _ rfl anchored.sameKey anchored.head rfl
    | afterTemporary =>
        cases appended
        exact .interrupted _ _ rfl anchored.sameKey anchored.head rfl
    | afterHead =>
        cases appended
        exact .accepted _ _ knows _ (published none rfl) rfl
    | completes =>
        dsimp only at appended
        split at appended
        · obtain ⟨reread, again, knowsAgain, _⟩ := (published none rfl).entries_ok reads knows
          rw [again] at appended
          cases appended
          exact .accepted _ _ knowsAgain _ (published none rfl) rfl
        · cases appended
          exact .accepted _ _ knows _ (published none rfl) rfl
  · rw [if_pos current] at appended
    cases appended
    exact .refused _ knows _

/-! ### Runs -/

/-- Every instance of the world is an instance of this journal. -/
def Familiar (reader : LineReader) (key : Bytes) (world : JournalWorld) : Prop :=
  ∀ place journal, world.instances place = some journal → Known reader key journal

theorem Familiar.keep (familiar : Familiar reader key world)
    {place : Nat} {journal : Option IndependentTenantDecisionJournal}
    (known : ∀ own, journal = some own → Known reader key own) :
    Familiar reader key (world.keep place journal) := by
  intro other own found
  rcases eq_or_ne other place with rfl | apart
  · rw [JournalWorld.keep] at found
    dsimp only at found
    rw [Function.update_self] at found
    exact known own found
  · rw [JournalWorld.keep] at found
    dsimp only at found
    rw [Function.update_of_ne apart] at found
    exact familiar other own found

/-- The decisions that the labels authenticated and accepted, and the state they led to. -/
inductive Recorded (reader : LineReader) (key : Bytes) (labels : List JournalLabel)
    (world : JournalWorld) : Prop
  | anchored
      (accepted : labels.filterMap JournalLabel.issued = labels.filterMap JournalLabel.accepted)
      (clear : labels.filterMap JournalLabel.interrupted = [])
      (files : Anchored key (labels.filterMap JournalLabel.accepted) world.files)
      (familiar : Familiar reader key world)
  | unanchored (interrupted : labels.filterMap JournalLabel.interrupted ≠ [])
      (files : Unanchored key (labels.filterMap JournalLabel.issued) world.files)
      (familiar : Familiar reader key world)
  | collided
      (collision : Json.CollisionAmong (hashedTexts (labels.filterMap JournalLabel.issued)))

omit [Hashlib] in
theorem filterMap_quiet {taking : JournalLabel → Option DecisionEntry} (labels : List JournalLabel)
    (quiet : taking label = none) :
    (labels ++ [label]).filterMap taking = labels.filterMap taking := by
  rw [List.filterMap_append, List.filterMap_cons_none quiet, List.filterMap_nil, List.append_nil]

omit [Hashlib] in
theorem filterMap_taken {taking : JournalLabel → Option DecisionEntry} (labels : List JournalLabel)
    (taken : taking label = some entry) :
    (labels ++ [label]).filterMap taking = labels.filterMap taking ++ [entry] := by
  rw [List.filterMap_append, List.filterMap_cons_some taken, List.filterMap_nil]

theorem issued_of_accepted (accepted : label.accepted = some entry) :
    label.issued = some entry ∧ label.interrupted = none := by
  refine ⟨by rw [JournalLabel.issued, accepted]; rfl, ?_⟩
  cases label with
  | other => rfl
  | append decision predecessor stop reply =>
      cases stop <;> cases reply <;> first | rfl | cases accepted

theorem issued_of_interrupted (interrupted : label.interrupted = some entry) :
    label.issued = some entry := by
  cases label with
  | other => cases interrupted
  | append decision predecessor stop reply =>
      cases stop <;> cases reply <;> first | exact interrupted | cases interrupted

/-- The files and the instances after a step whose label authenticated nothing. -/
theorem Anchored.quiet
    (accepted : labels.filterMap JournalLabel.issued = labels.filterMap JournalLabel.accepted)
    (clear : labels.filterMap JournalLabel.interrupted = [])
    (files : Anchored key (labels.filterMap JournalLabel.accepted) world.files)
    (familiar : Familiar reader key world) (unaccepted : label.accepted = none)
    (nothing : label.interrupted = none) : Recorded reader key (labels ++ [label]) world := by
  have unissued : label.issued = none := by
    rw [JournalLabel.issued, unaccepted, nothing]
    rfl
  refine .anchored ?_ ?_ ?_ familiar
  · rw [filterMap_quiet labels unissued, filterMap_quiet labels unaccepted]
    exact accepted
  · rw [filterMap_quiet labels nothing]
    exact clear
  · rw [filterMap_quiet labels unaccepted]
    exact files

theorem Unanchored.quiet (interrupted : labels.filterMap JournalLabel.interrupted ≠ [])
    (files : Unanchored key (labels.filterMap JournalLabel.issued) world.files)
    (familiar : Familiar reader key world) (unaccepted : label.accepted = none)
    (nothing : label.interrupted = none) : Recorded reader key (labels ++ [label]) world := by
  have unissued : label.issued = none := by
    rw [JournalLabel.issued, unaccepted, nothing]
    rfl
  refine .unanchored ?_ ?_ familiar
  · rw [filterMap_quiet labels nothing]
    exact interrupted
  · rw [filterMap_quiet labels unissued]
    exact files

theorem raised_quiet (decision : Bytes) (predecessor : Option String) (stop : Stop)
    (failure : JournalFailure) :
    JournalLabel.accepted (.append decision predecessor stop (.raised failure)) = none ∧
      JournalLabel.interrupted (.append decision predecessor stop (.raised failure)) = none := by
  cases stop <;> exact ⟨rfl, rfl⟩

/-- One step from files that hold exactly the accepted decisions. -/
theorem Recorded.step_anchored (reads : ReadsRecords reader.loads) {world next : JournalWorld}
    (accepted : labels.filterMap JournalLabel.issued = labels.filterMap JournalLabel.accepted)
    (clear : labels.filterMap JournalLabel.interrupted = [])
    (files : Anchored key (labels.filterMap JournalLabel.accepted) world.files)
    (familiar : Familiar reader key world) (step : JournalStep reader world label next) :
    Recorded reader key (labels ++ [label]) next := by
  cases step with
  | opens place existingOnly checked =>
      have fresh : Known reader key ⟨existingOnly, world.files.key, none⟩ :=
        files.sameKey ▸ Known.fresh existingOnly
      obtain ⟨after, read, known, _⟩ := files.entries_ok reads fresh
      rw [read] at checked
      cases checked
      refine Anchored.quiet accepted clear files (familiar.keep ?_) rfl rfl
      rintro _ ⟨⟩
      exact known
  | reads place opened read =>
      obtain ⟨after, again, known, _⟩ := files.entries_ok reads (familiar place _ opened)
      rw [again] at read
      cases read
      refine Anchored.quiet accepted clear files (familiar.keep ?_) rfl rfl
      rintro _ ⟨⟩
      exact known
  | closes place =>
      exact Anchored.quiet accepted clear files (familiar.keep (fun _ impossible => nomatch impossible))
        rfl rfl
  | @appends place journal opened decision predecessor stop written after reply appended =>
      have rewritten : Familiar reader key { world with files := written } := familiar
      have kept (known : Known reader key after) :
          Familiar reader key ({ world with files := written }.keep place
            (if reply = AppendReply.crashed then none else some after)) := by
        refine rewritten.keep ?_
        intro own found
        split at found
        · cases found
        · cases found
          exact known
      cases files.append reads (familiar place _ opened) appended with
      | refused _ known failure =>
          obtain ⟨unaccepted, nothing⟩ := raised_quiet decision predecessor stop failure
          exact Anchored.quiet accepted clear files (kept known) unaccepted nothing
      | accepted _ _ known _ anchored taken =>
          obtain ⟨issued, nothing⟩ := issued_of_accepted taken
          refine .anchored ?_ ?_ ?_ (kept known)
          · rw [filterMap_taken labels issued, filterMap_taken labels taken, accepted]
          · rw [filterMap_quiet labels nothing]
            exact clear
          · rw [filterMap_taken labels taken]
            exact anchored
      | interrupted _ _ body sameKey head taken =>
          have issued := issued_of_interrupted taken
          by_cases collision : Json.CollisionAmong (hashedTexts ((labels ++
              [JournalLabel.append decision predecessor stop .crashed]).filterMap JournalLabel.issued))
          · exact .collided collision
          rw [filterMap_taken labels issued, accepted] at collision
          have chained := files.chained.snoc decision
          refine .unanchored ?_ ?_ ?_
          · rw [filterMap_taken labels taken]
            exact List.append_ne_nil_of_right_ne_nil _ (List.cons_ne_nil _ [])
          · rw [filterMap_taken labels issued, accepted]
            exact ⟨chained, body, sameKey, _, files.chained, anchor_ne chained collision, head⟩
          · rw [if_pos rfl]
            exact rewritten.keep (fun _ impossible => nomatch impossible)

/-- No instance gets past a line that the head does not name. -/
theorem Recorded.step_unanchored (reads : ReadsRecords reader.loads) {world next : JournalWorld}
    (interrupted : labels.filterMap JournalLabel.interrupted ≠ [])
    (files : Unanchored key (labels.filterMap JournalLabel.issued) world.files)
    (familiar : Familiar reader key world) (step : JournalStep reader world label next) :
    Recorded reader key (labels ++ [label]) next := by
  cases step with
  | opens place existingOnly checked =>
      have fresh : Known reader key ⟨existingOnly, world.files.key, none⟩ :=
        files.sameKey ▸ Known.fresh existingOnly
      obtain ⟨failure, failed⟩ := files.entries_error reads fresh
      rw [failed] at checked
      cases checked
  | reads place opened read =>
      obtain ⟨failure, failed⟩ := files.entries_error reads (familiar place _ opened)
      rw [failed] at read
      cases read
  | closes place =>
      exact Unanchored.quiet interrupted files
        (familiar.keep (fun _ impossible => nomatch impossible)) rfl rfl
  | @appends place journal opened decision predecessor stop written after reply appended =>
      have known := familiar place _ opened
      obtain ⟨failure, failed⟩ := files.entries_error reads known
      rw [append_error failed] at appended
      cases appended
      obtain ⟨unaccepted, nothing⟩ := raised_quiet decision predecessor stop failure
      refine Unanchored.quiet interrupted files (familiar.keep ?_) unaccepted nothing
      rintro _ ⟨⟩
      exact known

theorem Recorded.step (reads : ReadsRecords reader.loads) {world next : JournalWorld}
    (recorded : Recorded reader key labels world) (step : JournalStep reader world label next) :
    Recorded reader key (labels ++ [label]) next := by
  cases recorded with
  | anchored accepted clear files familiar =>
      exact step_anchored reads accepted clear files familiar step
  | unanchored interrupted files familiar =>
      exact step_unanchored reads interrupted files familiar step
  | collided collision =>
      refine .collided (collision.mono (List.map_subset _ ?_))
      rw [List.filterMap_append]
      exact List.subset_append_left _ _

theorem Recorded.initial (key : Bytes) :
    Recorded reader key [] (JournalWorld.initial key) :=
  .anchored rfl rfl ⟨.nil, rfl, rfl, rfl, rfl⟩ (fun _ _ impossible => nomatch impossible)

/-- The instances that a run can ask: those it has opened and any that it could open. -/
def Available (key : Bytes) (world : JournalWorld) (journal : IndependentTenantDecisionJournal) :
    Prop :=
  (∃ place, world.instances place = some journal) ∨
    ∃ existingOnly, journal = ⟨existingOnly, key, none⟩

theorem Familiar.available (familiar : Familiar reader key world)
    (available : Available key world journal) :
    Known reader key journal := by
  rcases available with ⟨place, found⟩ | ⟨existingOnly, rfl⟩
  · exact familiar place journal found
  · exact Known.fresh existingOnly

theorem Recorded.chained (recorded : Recorded reader key labels world) :
    Json.CollisionAmong (hashedTexts (labels.filterMap JournalLabel.issued)) ∨
      Chained (labels.filterMap JournalLabel.issued) := by
  cases recorded with
  | anchored accepted _ files _ => exact .inr (accepted ▸ files.chained)
  | unanchored _ files _ => exact .inr files.chained
  | collided collision => exact .inl collision

/-- What decodes under the key was issued, and the head names its last decision. -/
theorem decodeAuthenticatedEntries_issued {issued : List DecisionEntry} (chained : Chained issued)
    (apart : ¬ Json.CollisionAmong (hashedTexts issued)) {body : Bytes} {anchoredHead : String}
    {entries : List DecisionEntry}
    (decoded : decodeAuthenticatedEntries reader body key anchoredHead = .ok entries) :
    Forged reader key issued (splitlines body) ∨
      Chained entries ∧ entries <+: issued ∧ anchoredHead = anchor entries := by
  rw [decodeAuthenticatedEntries] at decoded
  obtain ⟨own, lines, decoded⟩ := bind_ok.mp decoded
  obtain ⟨_, named, decoded⟩ := bind_ok.mp decoded
  cases decoded
  rcases decodeLines_issued chained apart lines with forged | ⟨linked, parts⟩
  · exact .inl forged
  · exact .inr ⟨linked, parts, not_not.mp (raiseIf_ok.mp named)⟩

/-- In every run of appends, reads and restarts, unless two issued decisions collide: without an
interrupted append every instance reads exactly the accepted decisions, which form one chain;
whatever decodes under the key is a prefix of the issued chain that the head names, unless a
line is forged; and after an interrupted append every instance raises and writes nothing. -/
theorem decision_journal (reads : ReadsRecords reader.loads) {labels : List JournalLabel}
    {world : JournalWorld}
    (trace : Trace (JournalStep reader) (JournalWorld.initial key) labels world) :
    Json.CollisionAmong (hashedTexts (labels.filterMap JournalLabel.issued)) ∨
      Chained (labels.filterMap JournalLabel.issued) ∧
      (labels.filterMap JournalLabel.interrupted = [] →
        labels.filterMap JournalLabel.issued = labels.filterMap JournalLabel.accepted ∧
        ∀ journal, Available key world journal → ∃ after,
          journal.entries reader world.files =
            .ok (after, labels.filterMap JournalLabel.accepted)) ∧
      (∀ body anchoredHead entries,
        decodeAuthenticatedEntries reader body key anchoredHead = .ok entries →
        Forged reader key (labels.filterMap JournalLabel.issued) (splitlines body) ∨
          Chained entries ∧ entries <+: labels.filterMap JournalLabel.issued ∧
            anchoredHead = anchor entries) ∧
      (labels.filterMap JournalLabel.interrupted ≠ [] →
        ∀ journal, Available key world journal → ∃ failure,
          journal.entries reader world.files = .error failure ∧
          ∀ decision predecessor stop,
            journal.append reader world.files decision predecessor stop =
              (world.files, journal, .raised failure)) := by
  have stable : ∀ done before label after, Recorded reader key done before →
      JournalStep reader before label after → Recorded reader key (done ++ [label]) after :=
    fun _ _ _ _ recorded step => recorded.step reads step
  have recorded : Recorded reader key labels world := trace.history stable (.initial key)
  rcases recorded.chained with collision | chained
  · exact .inl collision
  by_cases collision : Json.CollisionAmong (hashedTexts (labels.filterMap JournalLabel.issued))
  · exact .inl collision
  refine .inr ⟨chained, ?_, ?_, ?_⟩
  · intro clear
    cases recorded with
    | anchored accepted _ files familiar =>
        refine ⟨accepted, fun journal available => ?_⟩
        obtain ⟨after, read, _⟩ := files.entries_ok reads (familiar.available available)
        exact ⟨after, read⟩
    | unanchored interrupted _ _ => exact absurd clear interrupted
    | collided collides => exact absurd collides collision
  · intro body anchoredHead entries decoded
    exact decodeAuthenticatedEntries_issued chained collision decoded
  · intro interrupted journal available
    cases recorded with
    | anchored _ clear _ _ => exact absurd clear interrupted
    | unanchored _ files familiar =>
        obtain ⟨failure, failed⟩ := files.entries_error reads (familiar.available available)
        exact ⟨failure, failed, append_error failed⟩
    | collided collides => exact absurd collides collision

/-- A journal that was not opened as existing returns from an append at its head. -/
theorem Anchored.returns (reads : ReadsRecords reader.loads) (anchored : Anchored key entries files)
    (known : Known reader key journal) (plain : journal.existingOnly = false) (decision : Bytes) :
    ∃ written after, journal.append reader files decision (HashChain.head entries) .completes =
        (written, after, .returned (decisionId (HashChain.head entries) decision)) ∧
      Anchored key (entries ++ [HashChain.next decisionId entries decision]) written ∧
      Known reader key after ∧ after.existingOnly = false := by
  obtain ⟨cached, read, knows, same⟩ := anchored.entries_ok reads known
  have untouched : ¬ cached.existingOnly = true := by
    rw [same, plain]
    exact Bool.false_ne_true
  obtain ⟨written, appended⟩ : ∃ written,
      journal.append reader files decision (HashChain.head entries) .completes =
        (written, cached, .returned (decisionId (HashChain.head entries) decision)) := by
    rw [IndependentTenantDecisionJournal.append, read]
    dsimp only
    rw [if_neg (not_not.mpr rfl), if_neg untouched]
    exact ⟨_, rfl⟩
  refine ⟨_, _, appended, ?_, knows, same.trans plain⟩
  cases anchored.append reads known appended with
  | accepted _ _ _ _ published _ => exact published

/-- A journal that is opened and takes two decisions. -/
theorem sample_run (reads : ReadsRecords reader.loads) (key first second : Bytes) :
    ∃ world, Trace (JournalStep reader) (JournalWorld.initial key)
      [.other, .append first none .completes (.returned (decisionId none first)),
        .append second (some (decisionId none first)) .completes
          (.returned (decisionId (some (decisionId none first)) second))] world := by
  have files : Anchored key [] (JournalWorld.initial key).files := ⟨.nil, rfl, rfl, rfl, rfl⟩
  obtain ⟨opened, read, known, plain⟩ := files.entries_ok reads (Known.fresh false)
  obtain ⟨_, _, one, files, known, plain⟩ := files.returns reads known plain first
  obtain ⟨_, _, two, _⟩ := files.returns reads known plain second
  have found (world : JournalWorld) (journal : IndependentTenantDecisionJournal) :
      (world.keep 0 (some journal)).instances 0 = some journal := by
    simp [JournalWorld.keep]
  exact ⟨_, .cons (.opens _ 0 false read) (.cons (.appends _ 0 (found _ _) first none _ one)
    (.single (.appends _ 0 (found _ _) second _ _ two)))⟩

omit [Hashlib] in
/-- Two decisions under a key of the length that the journal asks for. -/
theorem decision_journal_sample :
    letI := Sha256.hashlib
    let entries : List DecisionEntry := [⟨decisionId none [7], none, [7]⟩,
      ⟨decisionId (some (decisionId none [7])) [8], some (decisionId none [7]), [8]⟩]
    ∃ labels world, Trace (JournalStep ⟨recordLoads, fun _ => ""⟩)
        (JournalWorld.initial (List.replicate 32 1)) labels world ∧
      labels.filterMap JournalLabel.accepted = entries ∧
      (Json.CollisionAmong (hashedTexts entries) ∨
        ∀ journal, Available (List.replicate 32 1) world journal → ∃ after,
          journal.entries ⟨recordLoads, fun _ => ""⟩ world.files = .ok (after, entries)) := by
  let _ := Sha256.hashlib
  have reads : ReadsRecords (LineReader.mk recordLoads fun _ => "").loads := recordLoads_reads
  obtain ⟨world, trace⟩ := sample_run reads (List.replicate 32 1) [7] [8]
  refine ⟨_, world, trace, rfl, ?_⟩
  rcases decision_journal reads trace with collision | ⟨_, accepted, _⟩
  · exact .inl collision
  · exact .inr (accepted rfl).2

end Chiplog.DeploymentTrust.DecisionJournal
