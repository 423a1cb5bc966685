import Chiplog.Composition.DeliveryLocalCli

namespace Chiplog.Composition.DeliveryLocalCli

open Chiplog.Data

/-! Runs over one inbox directory.

Any number of processes deliver at once, and each may be gone between two file steps.  The link
is the only step that writes under the name of a transmission, and only where nothing is; what it
links is whole.  The look for an earlier delivery is a step of its own before that. -/

variable [Hashlib]

/-- Where a process is in `_emit`. -/
inductive Phase where
  -- the ticket targets the inbox
  | checking
  -- nothing is stored for the transmission
  | opening
  -- the pending file has all but the rest
  | writing (name : String) (rest : Bytes)
  | linking (name : String)
  -- the link has met a file
  | contending (name : String)
  -- the pending file is unlinked, whatever the result
  | closing (name : String) (reply : Except DeliveryFailure Bytes)

/-- The pending file of a phase. -/
def Phase.pending : Phase → Option String
  | .checking | .opening => none
  | .writing name _ | .linking name | .contending name | .closing name _ => some name

structure Call where
  provider : LocalCliDeliveryProvider
  ticket : IssuedEffectSendTicket
  phase : Phase

structure Inbox where
  files : Files
  calls : Nat → Option Call

def Inbox.keep (inbox : Inbox) (place : Nat) (call : Option Call) : Inbox :=
  { inbox with calls := Function.update inbox.calls place call }

def Inbox.write (inbox : Inbox) (name : String) (content : Option Bytes) : Inbox :=
  { inbox with files := Function.update inbox.files name content }

inductive InboxLabel where
  | stepped (place : Nat)
  | crashed (place : Nat)
  | emitted (place : Nat) (ticket : IssuedEffectSendTicket) (reply : Except DeliveryFailure Bytes)

def InboxLabel.place : InboxLabel → Nat
  | .stepped place | .crashed place | .emitted place _ _ => place

/-- `_ticket_bytes(selected[0]) != _ticket_bytes(ticket)`, of accepted tickets. -/
def compared (selected : Option (IssuedEffectSendTicket × Bytes)) (ticket : IssuedEffectSendTicket)
    (receipt : IssuedEffectSendTicket × Bytes → Bytes) : Except DeliveryFailure Bytes :=
  match selected with
  | none => .error (.value "local delivery transmission ticket changed")
  | some found => do
      raiseIf (found.1.encoded ≠ ticket.encoded)
        (.value "local delivery transmission ticket changed")
      .ok (receipt found)

inductive InboxStep (reader : DeliveryReader) (key : Bytes) : Inbox → InboxLabel → Inbox → Prop
  | refuses (inbox : Inbox) (place : Nat) (provider : LocalCliDeliveryProvider)
      (ticket : IssuedEffectSendTicket) {failure : DeliveryFailure}
      (free : inbox.calls place = none) (shared : provider.receiptKey = key)
      (invalid : provider.validateTarget ticket = .error failure) :
      InboxStep reader key inbox (.emitted place ticket (.error failure)) inbox
  | starts (inbox : Inbox) (place : Nat) (provider : LocalCliDeliveryProvider)
      (ticket : IssuedEffectSendTicket) (free : inbox.calls place = none)
      (shared : provider.receiptKey = key)
      (valid : provider.validateTarget ticket = .ok ()) :
      InboxStep reader key inbox (.stepped place)
        (inbox.keep place (some ⟨provider, ticket, .checking⟩))
  | checks (inbox : Inbox) (place : Nat) {provider : LocalCliDeliveryProvider}
      {ticket : IssuedEffectSendTicket}
      (found : inbox.calls place = some ⟨provider, ticket, .checking⟩)
      (absent : provider.selected reader inbox.files ticket.transmissionId = .ok none) :
      InboxStep reader key inbox (.stepped place)
        (inbox.keep place (some ⟨provider, ticket, .opening⟩))
  | repeats (inbox : Inbox) (place : Nat) {provider : LocalCliDeliveryProvider}
      {ticket : IssuedEffectSendTicket} {previous : IssuedEffectSendTicket × Bytes}
      (found : inbox.calls place = some ⟨provider, ticket, .checking⟩)
      (selected : provider.selected reader inbox.files ticket.transmissionId = .ok (some previous)) :
      InboxStep reader key inbox (.emitted place ticket (compared (some previous) ticket Prod.snd))
        (inbox.keep place none)
  | fails (inbox : Inbox) (place : Nat) {provider : LocalCliDeliveryProvider}
      {ticket : IssuedEffectSendTicket} {failure : DeliveryFailure}
      (found : inbox.calls place = some ⟨provider, ticket, .checking⟩)
      (failed : provider.selected reader inbox.files ticket.transmissionId = .error failure) :
      InboxStep reader key inbox (.emitted place ticket (.error failure)) (inbox.keep place none)
  -- `tempfile.mkstemp`
  | opens (inbox : Inbox) (place : Nat) {provider : LocalCliDeliveryProvider}
      {ticket : IssuedEffectSendTicket} (suffix : String)
      (found : inbox.calls place = some ⟨provider, ticket, .opening⟩)
      (fresh : inbox.files (".pending-" ++ suffix) = none) :
      InboxStep reader key inbox (.stepped place)
        ((inbox.write (".pending-" ++ suffix) (some [])).keep place
          (some ⟨provider, ticket, .writing (".pending-" ++ suffix) (storedBytes key ticket)⟩))
  | writes (inbox : Inbox) (place : Nat) {provider : LocalCliDeliveryProvider}
      {ticket : IssuedEffectSendTicket} {name : String} {already : Bytes} (chunk rest : Bytes)
      (found : inbox.calls place = some ⟨provider, ticket, .writing name (chunk ++ rest)⟩)
      (content : inbox.files name = some already) :
      InboxStep reader key inbox (.stepped place)
        ((inbox.write name (some (already ++ chunk))).keep place
          (some ⟨provider, ticket, .writing name rest⟩))
  | syncs (inbox : Inbox) (place : Nat) {provider : LocalCliDeliveryProvider}
      {ticket : IssuedEffectSendTicket} {name : String}
      (found : inbox.calls place = some ⟨provider, ticket, .writing name []⟩) :
      InboxStep reader key inbox (.stepped place)
        (inbox.keep place (some ⟨provider, ticket, .linking name⟩))
  | links (inbox : Inbox) (place : Nat) {provider : LocalCliDeliveryProvider}
      {ticket : IssuedEffectSendTicket} {name : String}
      (found : inbox.calls place = some ⟨provider, ticket, .linking name⟩)
      (absent : inbox.files (fileName ticket.transmissionId) = none) :
      InboxStep reader key inbox (.stepped place)
        ((inbox.write (fileName ticket.transmissionId) (inbox.files name)).keep place
          (some ⟨provider, ticket, .closing name (.ok (rawReceipt key ticket))⟩))
  | meets (inbox : Inbox) (place : Nat) {provider : LocalCliDeliveryProvider}
      {ticket : IssuedEffectSendTicket} {name : String}
      (found : inbox.calls place = some ⟨provider, ticket, .linking name⟩)
      (present : inbox.files (fileName ticket.transmissionId) ≠ none) :
      InboxStep reader key inbox (.stepped place)
        (inbox.keep place (some ⟨provider, ticket, .contending name⟩))
  | contends (inbox : Inbox) (place : Nat) {provider : LocalCliDeliveryProvider}
      {ticket : IssuedEffectSendTicket} {name : String}
      (found : inbox.calls place = some ⟨provider, ticket, .contending name⟩) :
      InboxStep reader key inbox (.stepped place)
        (inbox.keep place (some ⟨provider, ticket, .closing name (do
          let selected ← provider.selected reader inbox.files ticket.transmissionId
          compared selected ticket (fun _ => rawReceipt key ticket))⟩))
  | closes (inbox : Inbox) (place : Nat) {provider : LocalCliDeliveryProvider}
      {ticket : IssuedEffectSendTicket} {name : String} {reply : Except DeliveryFailure Bytes}
      (found : inbox.calls place = some ⟨provider, ticket, .closing name reply⟩) :
      InboxStep reader key inbox (.emitted place ticket reply)
        ((inbox.write name none).keep place none)
  | crashes (inbox : Inbox) (place : Nat) :
      InboxStep reader key inbox (.crashed place) (inbox.keep place none)

/-- A directory without a delivery; other files may lie around. -/
structure Inbox.Empty (inbox : Inbox) : Prop where
  files : ∀ transmissionId, inbox.files (fileName transmissionId) = none
  calls : ∀ place, inbox.calls place = none

/-! ### Names -/

def IsPending (name : String) : Prop := ∃ suffix, name = ".pending-" ++ suffix

theorem fileName_not_pending (transmissionId : String) : ¬ IsPending (fileName transmissionId) := by
  rintro ⟨suffix, same⟩
  have dot : '.' ∉ hexAlphabet := by decide
  have characters := congrArg String.toList same
  have lead : ".pending-".toList = '.' :: "pending-".toList := rfl
  rw [fileName, String.toList_append, String.toList_append, lead] at characters
  have filled : (sha256 (utf8 transmissionId)).text.toList ≠ [] := by
    intro empty
    exact Digest.text_ne_empty _ (String.toList_inj.mp empty)
  obtain ⟨char, digits, cut⟩ := List.exists_cons_of_ne_nil filled
  rw [cut, List.cons_append, List.cons_append] at characters
  obtain ⟨rfl, _⟩ := List.cons.inj characters
  apply dot
  apply (sha256 (utf8 transmissionId)).hex.2
  rw [cut]
  exact List.mem_cons_self

/-! ### The inbox -/

/-- What is still to be written of the pending file. -/
def Phase.unwritten : Phase → Option Bytes
  | .writing _ rest => some rest
  | .linking _ | .contending _ => some []
  | .checking | .opening | .closing _ _ => none

/-- The ticket is stored under its transmission. -/
def Delivered (key : Bytes) (files : Files) (ticket : IssuedEffectSendTicket) : Prop :=
  files (fileName ticket.transmissionId) = some (storedBytes key ticket)

structure Held (key : Bytes) (files : Files) (call : Call) : Prop where
  shared : call.provider.receiptKey = key
  valid : call.provider.validateTarget call.ticket = .ok ()
  pending : ∀ name, call.phase.pending = some name → IsPending name ∧
    ∃ content, files name = some content ∧
      ∀ rest, call.phase.unwritten = some rest → content ++ rest = storedBytes key call.ticket
  delivered : ∀ name receipt, call.phase = .closing name (.ok receipt) →
    Delivered key files call.ticket ∧ receipt = rawReceipt key call.ticket

/-- A ticket that some provider of this inbox accepts. -/
def Targeted (key : Bytes) (ticket : IssuedEffectSendTicket) : Prop :=
  ∃ provider : LocalCliDeliveryProvider, provider.receiptKey = key ∧
    provider.validateTarget ticket = .ok ()

structure Consistent (key : Bytes) (inbox : Inbox) : Prop where
  stored : ∀ transmissionId content, inbox.files (fileName transmissionId) = some content →
    ∃ ticket, Targeted key ticket ∧ fileName ticket.transmissionId = fileName transmissionId ∧
      content = storedBytes key ticket
  held : ∀ place call, inbox.calls place = some call → Held key inbox.files call
  apart : ∀ place other first second name, inbox.calls place = some first →
    inbox.calls other = some second → first.phase.pending = some name →
    second.phase.pending = some name → place = other

theorem Inbox.Empty.consistent {key : Bytes} {inbox : Inbox} (empty : inbox.Empty) :
    Consistent key inbox where
  stored := by
    intro transmissionId content found
    rw [empty.files] at found
    cases found
  held := by
    intro place call found
    rw [empty.calls] at found
    cases found
  apart := by
    intro place other first second name found
    rw [empty.calls] at found
    cases found

section

variable {key : Bytes} {files after : Files} {inbox : Inbox}

/-- Deliveries that are there stay. -/
def Keeps (files after : Files) : Prop :=
  ∀ transmissionId, files (fileName transmissionId) ≠ none →
    after (fileName transmissionId) = files (fileName transmissionId)

theorem Keeps.delivered (keeps : Keeps files after) {ticket : IssuedEffectSendTicket}
    (delivered : Delivered key files ticket) : Delivered key after ticket := by
  rw [Delivered] at delivered ⊢
  rw [keeps _ (by rw [delivered]; exact Option.some_ne_none _), delivered]

theorem Held.mono {call : Call} (held : Held key files call) (keeps : Keeps files after)
    (own : ∀ name, call.phase.pending = some name → after name = files name) :
    Held key after call where
  shared := held.shared
  valid := held.valid
  pending := by
    intro name phase
    rw [own name phase]
    exact held.pending name phase
  delivered := by
    intro name receipt phase
    obtain ⟨delivered, same⟩ := held.delivered name receipt phase
    exact ⟨keeps.delivered delivered, same⟩

theorem Keeps.pending {name : String} (pending : IsPending name) {content : Option Bytes} :
    Keeps files (Function.update files name content) := by
  intro transmissionId _
  refine Function.update_of_ne ?_ _ _
  rintro rfl
  exact fileName_not_pending _ pending

/-- Writing a pending file stores no delivery. -/
theorem stored_pending {name : String} (pending : IsPending name) {written : Option Bytes}
    (transmissionId : String) (content : Bytes)
    (found : Function.update files name written (fileName transmissionId) = some content)
    (absent : files (fileName transmissionId) = none) :
    ∃ ticket, Targeted key ticket ∧ fileName ticket.transmissionId = fileName transmissionId ∧
      content = storedBytes key ticket := by
  have apart : fileName transmissionId ≠ name := by
    rintro rfl
    exact fileName_not_pending _ pending
  rw [Function.update_of_ne apart, absent] at found
  cases found

/-- A step writes its own pending file or links where nothing is, and changes one call. -/
theorem Consistent.change (consistent : Consistent key inbox) {place : Nat} {call : Option Call}
    (keeps : Keeps inbox.files after)
    (stored : ∀ transmissionId content, after (fileName transmissionId) = some content →
      inbox.files (fileName transmissionId) = none →
      ∃ ticket, Targeted key ticket ∧ fileName ticket.transmissionId = fileName transmissionId ∧
        content = storedBytes key ticket)
    (others : ∀ other found name, other ≠ place → inbox.calls other = some found →
      found.phase.pending = some name → after name = inbox.files name)
    (own : ∀ new, call = some new → Held key after new)
    (apart : ∀ new name, call = some new → new.phase.pending = some name →
      ∀ other found, other ≠ place → inbox.calls other = some found →
        found.phase.pending ≠ some name) :
    Consistent key (Inbox.keep ⟨after, inbox.calls⟩ place call) where
  stored := by
    intro transmissionId content found
    cases before : inbox.files (fileName transmissionId) with
    | none => exact stored transmissionId content found before
    | some earlier =>
        have kept := keeps transmissionId (by rw [before]; exact Option.some_ne_none _)
        exact consistent.stored transmissionId content (kept.symm.trans found)
  held := by
    intro other found known
    have updated : Function.update inbox.calls place call other = some found := known
    rcases eq_or_ne other place with rfl | differs
    · rw [Function.update_self] at updated
      exact own found updated
    · rw [Function.update_of_ne differs] at updated
      exact (consistent.held other found updated).mono keeps
        (fun name phase => others other found name differs updated phase)
  apart := by
    have elsewhere {other : Nat} {found : Call} (differs : other ≠ place)
        (known : (Inbox.keep ⟨after, inbox.calls⟩ place call).calls other = some found) :
        inbox.calls other = some found := by
      have updated : Function.update inbox.calls place call other = some found := known
      rwa [Function.update_of_ne differs] at updated
    have here {found : Call}
        (known : (Inbox.keep ⟨after, inbox.calls⟩ place call).calls place = some found) :
        call = some found := by
      have updated : Function.update inbox.calls place call place = some found := known
      rwa [Function.update_self] at updated
    intro one other first second name known knownOther phase phaseOther
    by_cases differs : one = place <;> by_cases differs' : other = place
    · exact differs.trans differs'.symm
    · subst differs
      exact absurd phaseOther
        (apart first name (here known) phase other second differs' (elsewhere differs' knownOther))
    · subst differs'
      exact absurd phase
        (apart second name (here knownOther) phaseOther one first differs (elsewhere differs known))
    · exact consistent.apart one other first second name (elsewhere differs known)
        (elsewhere differs' knownOther) phase phaseOther

/-- A step that touches no file. -/
theorem Consistent.move (consistent : Consistent key inbox) {place : Nat} {call : Option Call}
    (own : ∀ new, call = some new → Held key inbox.files new)
    (same : ∀ new, call = some new → new.phase.pending = none ∨
      ∃ before, inbox.calls place = some before ∧ new.phase.pending = before.phase.pending) :
    Consistent key (inbox.keep place call) := by
  refine consistent.change (fun _ _ => rfl) ?_ (fun _ _ _ _ _ _ => rfl) own ?_
  · intro transmissionId content found absent
    rw [absent] at found
    cases found
  · intro new name isNew phase other found differs known
    rcases same new isNew with none | ⟨before, here, equal⟩
    · rw [none] at phase
      cases phase
    · rw [equal] at phase
      exact fun clash => differs (consistent.apart other place found before name known here clash phase)

/-! ### Reading -/

section

variable {reader : DeliveryReader} {provider : LocalCliDeliveryProvider}
  {ticket : IssuedEffectSendTicket} {place : Nat} {labels : List InboxLabel}

/-- What a provider selects is stored, and it is of the transmission that was asked for. -/
theorem Consistent.selected_some (loads : ReadsFlat reader.loads) (parse : ReadsFlat reader.parse)
    (consistent : Consistent key inbox)
    (shared : provider.receiptKey = key) {transmissionId : String}
    {found : IssuedEffectSendTicket × Bytes}
    (selected : provider.selected reader inbox.files transmissionId = .ok (some found)) :
    Delivered key inbox.files found.1 ∧ found.2 = rawReceipt key found.1 ∧
      found.1.transmissionId = transmissionId := by
  rw [LocalCliDeliveryProvider.selected] at selected
  obtain ⟨_, _, selected⟩ := bind_ok.mp selected
  cases content : inbox.files (fileName transmissionId) with
  | none =>
      rw [content] at selected
      cases selected
  | some raw =>
      rw [content] at selected
      obtain ⟨own, record, selected⟩ := bind_ok.mp selected
      obtain rfl := Option.some.inj (Except.ok.inj selected)
      obtain ⟨ticket, ⟨_, _, valid⟩, _, written⟩ := consistent.stored _ _ content
      rw [written, ← shared, selectedRecord_stored loads parse provider (validateTarget_ok valid)] at record
      obtain ⟨_, _, record⟩ := bind_ok.mp record
      obtain ⟨_, named, record⟩ := bind_ok.mp record
      cases record
      have same := not_not.mp (raiseIf_ok.mp named)
      refine ⟨?_, by rw [shared], same⟩
      rw [Delivered, same, content, written]

/-- An accepted ticket names its transmission. -/
theorem transmission_named
    (valid : provider.validateTarget ticket = .ok ()) : ¬ ticket.transmissionId = "" := by
  have accepted := validateTarget_ok valid
  intro empty
  rw [ticketBytes] at accepted
  obtain ⟨_, _, accepted⟩ := bind_ok.mp accepted
  obtain ⟨_, named, _⟩ := bind_ok.mp accepted
  apply raiseIf_ok.mp named
  rw [identities, empty]
  simp

/-- A stored ticket is selected by the providers that it targets. -/
theorem selected_delivered (loads : ReadsFlat reader.loads) (parse : ReadsFlat reader.parse)
    (shared : provider.receiptKey = key) (delivered : Delivered key files ticket)
    (valid : provider.validateTarget ticket = .ok ()) :
    provider.selected reader files ticket.transmissionId =
      .ok (some (ticket, rawReceipt key ticket)) := by
  have accepted := validateTarget_ok valid
  have identified := transmission_named valid
  have record := selectedRecord_stored loads parse provider accepted ticket.transmissionId
  rw [valid, ok_bind, raiseIf_neg (not_not.mpr rfl), ok_bind, shared] at record
  rw [LocalCliDeliveryProvider.selected, raiseIf_neg identified, ok_bind, delivered]
  dsimp only
  rw [record]
  rfl

omit [Hashlib] in
theorem compared_ok {selected : Option (IssuedEffectSendTicket × Bytes)}
    {ticket : IssuedEffectSendTicket} {receipt : IssuedEffectSendTicket × Bytes → Bytes}
    {raw : Bytes} (same : compared selected ticket receipt = .ok raw) :
    ∃ found, selected = some found ∧ found.1 = ticket ∧ raw = receipt found := by
  cases selected with
  | none => cases same
  | some found =>
      obtain ⟨_, equal, same⟩ := bind_ok.mp same
      have equal := encoded_inj (not_not.mp (raiseIf_ok.mp equal))
      exact ⟨found, rfl, equal, (Except.ok.inj same).symm⟩

/-! ### Steps -/

theorem storedBytes_inj (parse : ReadsFlat reader.parse) {first second : IssuedEffectSendTicket}
    (same : storedBytes key first = storedBytes key second) : first = second := by
  have read : storedOf? reader (storedBytes key first) = _ := storedOf?_canonical parse _
  have again : storedOf? reader (storedBytes key second) = _ := storedOf?_canonical parse _
  rw [same, again] at read
  have texts := congrArg Stored.ticketHex (Option.some.inj read)
  have bytes := congrArg (fun text => fromhex text.toList) texts
  dsimp only at bytes
  rw [fromhex_hex, fromhex_hex] at bytes
  exact (encoded_inj (Option.some.inj bytes)).symm

/-- One transmission has one ticket. -/
theorem delivered_inj (parse : ReadsFlat reader.parse) {first second : IssuedEffectSendTicket}
    (left : Delivered key files first) (right : Delivered key files second)
    (same : first.transmissionId = second.transmissionId) : first = second := by
  apply storedBytes_inj parse
  rw [Delivered] at left right
  rw [same, right] at left
  exact (Option.some.inj left).symm

/-- What the providers with the inbox key read of a stored ticket. -/
structure ReadAs (reader : DeliveryReader) (key : Bytes) (files : Files)
    (ticket : IssuedEffectSendTicket) : Prop where
  targeted : ∀ provider : LocalCliDeliveryProvider, provider.receiptKey = key →
    provider.validateTarget ticket = .ok () →
      provider.reconcile reader files ticket.transmissionId =
        .ok (some (rawReceipt key ticket)) ∧
      provider.readPayload reader files ticket.transmissionId = .ok (some ticket.payload) ∧
      provider.verifyReceipt reader ticket (rawReceipt key ticket) =
        .ok ⟨ticket.bundleMembers, []⟩
  any : ∀ provider : LocalCliDeliveryProvider, provider.receiptKey = key →
    (∀ receipt, provider.reconcile reader files ticket.transmissionId = .ok receipt →
      receipt = some (rawReceipt key ticket)) ∧
    ∀ payload, provider.readPayload reader files ticket.transmissionId = .ok payload →
      payload = some ticket.payload
  verified : ∀ provider : LocalCliDeliveryProvider, provider.receiptKey = key →
    ∀ other observation,
      provider.verifyReceipt reader other (rawReceipt key ticket) = .ok observation →
        other = ticket ∨ Json.CollisionAmong [other.encoded, ticket.encoded]

theorem Consistent.readAs (loads : ReadsFlat reader.loads) (parse : ReadsFlat reader.parse)
    (consistent : Consistent key inbox)
    (delivered : Delivered key inbox.files ticket) : ReadAs reader key inbox.files ticket where
  targeted := by
    intro provider shared valid
    have selected := selected_delivered loads parse shared delivered valid
    refine ⟨?_, ?_, ?_⟩
    · rw [LocalCliDeliveryProvider.reconcile, selected, ok_bind, Option.map_some]
    · rw [LocalCliDeliveryProvider.readPayload, selected, ok_bind, Option.map_some]
    · rw [LocalCliDeliveryProvider.verifyReceipt, valid, ok_bind, shared]
      exact verifyLocalCliReceipt_raw parse (shared ▸ provider.keyed) (validateTarget_ok valid)
  any := by
    intro provider shared
    have found {result : Option (IssuedEffectSendTicket × Bytes)}
        (selected : provider.selected reader inbox.files ticket.transmissionId = .ok result) :
        result = some (ticket, rawReceipt key ticket) := by
      cases result with
      | none =>
          rw [LocalCliDeliveryProvider.selected] at selected
          obtain ⟨_, _, selected⟩ := bind_ok.mp selected
          rw [Delivered] at delivered
          rw [delivered] at selected
          obtain ⟨_, _, impossible⟩ := bind_ok.mp selected
          cases impossible
      | some own =>
          obtain ⟨stored, receipt, same⟩ := consistent.selected_some loads parse shared selected
          obtain ⟨first, raw⟩ := own
          dsimp only at stored receipt same
          have ticketSame := delivered_inj parse stored delivered same
          rw [receipt, ticketSame]
    refine ⟨?_, ?_⟩
    · intro receipt reconciled
      rw [LocalCliDeliveryProvider.reconcile] at reconciled
      obtain ⟨result, selected, same⟩ := bind_ok.mp reconciled
      rw [found selected, Option.map_some] at same
      dsimp only at same
      rw [← Except.ok.inj same]
    · intro payload read
      rw [LocalCliDeliveryProvider.readPayload] at read
      obtain ⟨result, selected, same⟩ := bind_ok.mp read
      rw [found selected, Option.map_some] at same
      dsimp only at same
      rw [← Except.ok.inj same]
  verified := by
    intro provider shared other observation verified
    rw [LocalCliDeliveryProvider.verifyReceipt] at verified
    obtain ⟨_, _, verified⟩ := bind_ok.mp verified
    rw [shared] at verified
    exact rawReceipt_inj parse (verifyLocalCliReceipt_ok verified).symm

theorem Consistent.opens (consistent : Consistent key inbox) {suffix : String}
    (found : inbox.calls place = some ⟨provider, ticket, .opening⟩)
    (fresh : inbox.files (".pending-" ++ suffix) = none) :
    Consistent key ((inbox.write (".pending-" ++ suffix) (some [])).keep place
      (some ⟨provider, ticket, .writing (".pending-" ++ suffix) (storedBytes key ticket)⟩)) := by
  have held := consistent.held place _ found
  have pending : IsPending (".pending-" ++ suffix) := ⟨suffix, rfl⟩
  refine consistent.change (Keeps.pending pending) (stored_pending pending) ?_ ?_ ?_
  · intro other call name differs known phase
    refine Function.update_of_ne ?_ _ _
    rintro rfl
    obtain ⟨_, content, present, _⟩ := (consistent.held other call known).pending _ phase
    rw [fresh] at present
    cases present
  · rintro _ ⟨⟩
    refine ⟨held.shared, held.valid, ?_, ?_⟩
    · rintro _ ⟨⟩
      refine ⟨pending, [], Function.update_self _ _ _, fun rest remaining => ?_⟩
      exact (Option.some.inj remaining).symm
    · rintro _ _ ⟨⟩
  · rintro _ name ⟨⟩ ⟨⟩ other call differs known phase
    obtain ⟨_, content, present, _⟩ := (consistent.held other call known).pending _ phase
    rw [fresh] at present
    cases present

theorem Consistent.writes (consistent : Consistent key inbox) {name : String}
    {already chunk rest : Bytes}
    (found : inbox.calls place = some ⟨provider, ticket, .writing name (chunk ++ rest)⟩)
    (content : inbox.files name = some already) :
    Consistent key ((inbox.write name (some (already ++ chunk))).keep place
      (some ⟨provider, ticket, .writing name rest⟩)) := by
  have held := consistent.held place _ found
  obtain ⟨pending, own, known, whole⟩ := held.pending name rfl
  rw [content] at known
  cases known
  refine consistent.change (Keeps.pending pending) (stored_pending pending) ?_ ?_ ?_
  · intro other call wanted differs known phase
    refine Function.update_of_ne ?_ _ _
    rintro rfl
    exact differs (consistent.apart other place call _ _ known found phase rfl)
  · rintro _ ⟨⟩
    refine ⟨held.shared, held.valid, ?_, ?_⟩
    · rintro _ ⟨⟩
      refine ⟨pending, _, Function.update_self _ _ _, ?_⟩
      rintro _ ⟨⟩
      rw [List.append_assoc]
      exact whole _ rfl
    · rintro _ _ ⟨⟩
  · rintro _ wanted ⟨⟩ ⟨⟩ other call differs known phase
    exact differs (consistent.apart other place call _ _ known found phase rfl)

/-- The link stores the whole ticket where nothing was. -/
theorem Consistent.links (consistent : Consistent key inbox) {name : String}
    (found : inbox.calls place = some ⟨provider, ticket, .linking name⟩)
    (absent : inbox.files (fileName ticket.transmissionId) = none) :
    Consistent key ((inbox.write (fileName ticket.transmissionId) (inbox.files name)).keep place
      (some ⟨provider, ticket, .closing name (.ok (rawReceipt key ticket))⟩)) := by
  have held := consistent.held place _ found
  obtain ⟨pending, content, known, whole⟩ := held.pending name rfl
  have complete : inbox.files name = some (storedBytes key ticket) := by
    rw [known, ← whole [] rfl, List.append_nil]
  have other {wanted : String} (isPending : IsPending wanted) :
      wanted ≠ fileName ticket.transmissionId := by
    rintro rfl
    exact fileName_not_pending _ isPending
  refine consistent.change ?_ ?_ ?_ ?_ ?_
  · intro transmissionId present
    refine Function.update_of_ne ?_ _ _
    intro same
    exact present (same ▸ absent)
  · intro transmissionId content' stored missing
    by_cases same : fileName transmissionId = fileName ticket.transmissionId
    · rw [same, Function.update_self, complete] at stored
      exact ⟨ticket, ⟨provider, held.shared, held.valid⟩, same.symm,
        (Option.some.inj stored).symm⟩
    · rw [Function.update_of_ne same, missing] at stored
      cases stored
  · intro place' call wanted differs known' phase
    exact Function.update_of_ne
      (other ((consistent.held place' call known').pending wanted phase).1) _ _
  · rintro _ ⟨⟩
    refine ⟨held.shared, held.valid, ?_, ?_⟩
    · rintro _ ⟨⟩
      refine ⟨pending, content, ?_, fun _ impossible => nomatch impossible⟩
      rw [Function.update_of_ne (other pending), known]
    · intro closed receipt closing
      obtain ⟨_, reply⟩ := Phase.closing.inj closing
      refine ⟨?_, (Except.ok.inj reply).symm⟩
      rw [Delivered, Function.update_self, complete]
  · rintro _ wanted ⟨⟩ ⟨⟩ place' call differs known' phase
    exact differs (consistent.apart place' place call _ _ known' found phase rfl)

theorem Consistent.closes (consistent : Consistent key inbox) {name : String}
    {reply : Except DeliveryFailure Bytes}
    (found : inbox.calls place = some ⟨provider, ticket, .closing name reply⟩) :
    Consistent key ((inbox.write name none).keep place none) := by
  have held := consistent.held place _ found
  obtain ⟨pending, _⟩ := held.pending name rfl
  refine consistent.change (Keeps.pending pending) (stored_pending pending) ?_
    (fun _ impossible => nomatch impossible) (fun _ _ impossible => nomatch impossible)
  intro other call wanted differs known phase
  refine Function.update_of_ne ?_ _ _
  rintro rfl
  exact differs (consistent.apart other place call _ _ known found phase rfl)

theorem Consistent.step (loads : ReadsFlat reader.loads) (parse : ReadsFlat reader.parse)
    (consistent : Consistent key inbox) {label : InboxLabel} {next : Inbox}
    (step : InboxStep reader key inbox label next) : Consistent key next := by
  cases step with
  | refuses place provider ticket free shared invalid => exact consistent
  | starts place provider ticket free shared valid =>
      apply consistent.move
      · rintro _ ⟨⟩
        refine ⟨shared, valid, ?_, ?_⟩
        · rintro _ ⟨⟩
        · rintro _ _ ⟨⟩
      · rintro _ ⟨⟩
        exact .inl rfl
  | checks place found absent =>
      have held := consistent.held place _ found
      apply consistent.move
      · rintro _ ⟨⟩
        refine ⟨held.shared, held.valid, ?_, ?_⟩
        · rintro _ ⟨⟩
        · rintro _ _ ⟨⟩
      · rintro _ ⟨⟩
        exact .inl rfl
  | repeats place found selected =>
      exact consistent.move (fun _ impossible => nomatch impossible)
        (fun _ impossible => nomatch impossible)
  | fails place found failed =>
      exact consistent.move (fun _ impossible => nomatch impossible)
        (fun _ impossible => nomatch impossible)
  | crashes place =>
      exact consistent.move (fun _ impossible => nomatch impossible)
        (fun _ impossible => nomatch impossible)
  | syncs place found =>
      have held := consistent.held place _ found
      apply consistent.move
      · rintro _ ⟨⟩
        refine ⟨held.shared, held.valid, ?_, ?_⟩
        · rintro _ ⟨⟩
          exact held.pending _ rfl
        · rintro _ _ ⟨⟩
      · rintro _ ⟨⟩
        exact .inr ⟨_, found, rfl⟩
  | meets place found present =>
      have held := consistent.held place _ found
      apply consistent.move
      · rintro _ ⟨⟩
        refine ⟨held.shared, held.valid, ?_, ?_⟩
        · rintro _ ⟨⟩
          exact held.pending _ rfl
        · rintro _ _ ⟨⟩
      · rintro _ ⟨⟩
        exact .inr ⟨_, found, rfl⟩
  | contends place found =>
      have held := consistent.held place _ found
      apply consistent.move
      · rintro _ ⟨⟩
        refine ⟨held.shared, held.valid, ?_, ?_⟩
        · rintro _ ⟨⟩
          obtain ⟨pending, content, known, _⟩ := held.pending _ rfl
          exact ⟨pending, content, known, fun _ impossible => nomatch impossible⟩
        · intro name receipt closing
          obtain ⟨_, reply⟩ := Phase.closing.inj closing
          obtain ⟨selected, found, reply⟩ := bind_ok.mp reply
          obtain ⟨previous, rfl, same, raw⟩ := compared_ok reply
          obtain ⟨delivered, _⟩ := consistent.selected_some loads parse held.shared found
          exact ⟨same ▸ delivered, raw⟩
      · rintro _ ⟨⟩
        exact .inr ⟨_, found, rfl⟩
  | opens place suffix found fresh => exact consistent.opens found fresh
  | writes place chunk rest found content => exact consistent.writes found content
  | links place found absent => exact consistent.links found absent
  | closes place found => exact consistent.closes found

/-- No step touches a delivery that is there. -/
theorem InboxStep.keeps (consistent : Consistent key inbox) {label : InboxLabel} {next : Inbox}
    (step : InboxStep reader key inbox label next) : Keeps inbox.files next.files := by
  cases step with
  | opens place suffix found fresh => exact Keeps.pending ⟨suffix, rfl⟩
  | writes place chunk rest found content =>
      exact Keeps.pending ((consistent.held place _ found).pending _ rfl).1
  | closes place found => exact Keeps.pending ((consistent.held place _ found).pending _ rfl).1
  | links place found absent =>
      intro transmissionId present
      refine Function.update_of_ne ?_ _ _
      intro same
      exact present (same ▸ absent)
  | _ => exact fun _ _ => rfl

/-- An emit that returns has stored its ticket, and returns the receipt of its ticket. -/
theorem InboxStep.emitted (loads : ReadsFlat reader.loads) (parse : ReadsFlat reader.parse)
    (consistent : Consistent key inbox) {receipt : Bytes} {next : Inbox}
    (step : InboxStep reader key inbox (.emitted place ticket (.ok receipt)) next) :
    Delivered key inbox.files ticket ∧ receipt = rawReceipt key ticket := by
  generalize returned : InboxLabel.emitted place ticket (.ok receipt) = label at step
  cases step with
  | repeats place found selected =>
      obtain ⟨_, rfl, same⟩ := InboxLabel.emitted.inj returned
      obtain ⟨_, ⟨⟩, previous, raw⟩ := compared_ok same.symm
      obtain ⟨delivered, own, _⟩ :=
        consistent.selected_some loads parse (consistent.held _ _ found).shared selected
      exact ⟨previous ▸ delivered, raw.trans (previous ▸ own)⟩
  | closes place found =>
      obtain ⟨_, rfl, rfl⟩ := InboxLabel.emitted.inj returned
      exact (consistent.held _ _ found).delivered _ _ rfl
  | _ => cases returned

/-- A call whose transmission is stored already changes its pending file at most, and that file is
gone with it. -/
theorem InboxStep.idle (consistent : Consistent key inbox) {call : Call} {label : InboxLabel}
    (found : inbox.calls label.place = some call)
    (present : inbox.files (fileName call.ticket.transmissionId) ≠ none) {next : Inbox}
    (step : InboxStep reader key inbox label next) :
    (∀ name, ¬ IsPending name → next.files name = inbox.files name) ∧
      ∀ reply name, label = .emitted label.place call.ticket reply →
        call.phase.pending = some name → next.files name = none := by
  have untouched {name wanted : String} (pending : IsPending name) {content : Option Bytes}
      (plain : ¬ IsPending wanted) :
      Function.update inbox.files name content wanted = inbox.files wanted := by
    refine Function.update_of_ne ?_ _ _
    rintro rfl
    exact plain pending
  cases step with
  | refuses place provider ticket free => exact absurd found (by rw [InboxLabel.place, free]; simp)
  | starts place provider ticket free => exact absurd found (by rw [InboxLabel.place, free]; simp)
  | repeats place known selected =>
      obtain rfl := Option.some.inj (known.symm.trans found)
      exact ⟨fun _ _ => rfl, fun _ _ _ impossible => nomatch impossible⟩
  | fails place known failed =>
      obtain rfl := Option.some.inj (known.symm.trans found)
      exact ⟨fun _ _ => rfl, fun _ _ _ impossible => nomatch impossible⟩
  | opens place suffix known fresh =>
      exact ⟨fun _ plain => untouched ⟨suffix, rfl⟩ plain, fun _ _ impossible => nomatch impossible⟩
  | writes place chunk rest known content =>
      have pending := ((consistent.held place _ known).pending _ rfl).1
      exact ⟨fun _ plain => untouched pending plain, fun _ _ impossible => nomatch impossible⟩
  | links place known absent =>
      obtain rfl := Option.some.inj (known.symm.trans found)
      exact absurd absent present
  | @closes place _ _ own _ known =>
      obtain rfl := Option.some.inj (known.symm.trans found)
      have pending := ((consistent.held place _ known).pending _ rfl).1
      refine ⟨fun _ plain => untouched pending plain, ?_⟩
      rintro _ name _ ⟨⟩
      exact Function.update_self _ _ _
  | checks => exact ⟨fun _ _ => rfl, fun _ _ impossible => nomatch impossible⟩
  | syncs => exact ⟨fun _ _ => rfl, fun _ _ impossible => nomatch impossible⟩
  | meets => exact ⟨fun _ _ => rfl, fun _ _ impossible => nomatch impossible⟩
  | contends => exact ⟨fun _ _ => rfl, fun _ _ impossible => nomatch impossible⟩
  | crashes => exact ⟨fun _ _ => rfl, fun _ _ impossible => nomatch impossible⟩

/-! ### Runs -/

/-- The directory, and the receipts that were returned, after these labels. -/
structure Recorded (key : Bytes) (labels : List InboxLabel) (inbox : Inbox) : Prop where
  consistent : Consistent key inbox
  returned : ∀ place ticket receipt, InboxLabel.emitted place ticket (.ok receipt) ∈ labels →
    Delivered key inbox.files ticket ∧ receipt = rawReceipt key ticket

theorem Recorded.step (loads : ReadsFlat reader.loads) (parse : ReadsFlat reader.parse)
    (recorded : Recorded key labels inbox) {label : InboxLabel}
    {next : Inbox} (step : InboxStep reader key inbox label next) :
    Recorded key (labels ++ [label]) next where
  consistent := recorded.consistent.step loads parse step
  returned := by
    have keeps := step.keeps recorded.consistent
    intro place ticket receipt member
    rcases List.mem_append.mp member with earlier | last
    · obtain ⟨delivered, same⟩ := recorded.returned place ticket receipt earlier
      exact ⟨keeps.delivered delivered, same⟩
    · obtain rfl := List.mem_singleton.mp last
      obtain ⟨delivered, same⟩ := step.emitted loads parse recorded.consistent
      exact ⟨keeps.delivered delivered, same⟩

theorem Recorded.run (loads : ReadsFlat reader.loads) (parse : ReadsFlat reader.parse)
    {first last : Inbox} (empty : first.Empty)
    (trace : Trace (InboxStep reader key) first labels last) : Recorded key labels last := by
  have start : Recorded key [] first := ⟨empty.consistent, fun _ _ _ member => nomatch member⟩
  have stable : ∀ done before label after, Recorded key done before →
      InboxStep reader key before label after → Recorded key (done ++ [label]) after :=
    fun _ _ _ _ recorded step => recorded.step loads parse step
  exact trace.history stable start

/-- What is delivered stays delivered. -/
theorem Consistent.later (loads : ReadsFlat reader.loads) (parse : ReadsFlat reader.parse)
    {first last : Inbox} (consistent : Consistent key first)
    (trace : Trace (InboxStep reader key) first labels last) :
    Consistent key last ∧ ∀ ticket, Delivered key first.files ticket →
      Delivered key last.files ticket := by
  induction trace with
  | nil => exact ⟨consistent, fun _ delivered => delivered⟩
  | cons step _ ih =>
      obtain ⟨final, kept⟩ := ih (consistent.step loads parse step)
      refine ⟨final, fun ticket delivered => kept ticket ?_⟩
      exact (step.keeps consistent).delivered delivered

/-- In every run over one inbox directory that starts without a delivery: what is stored under a
transmission is one ticket and stays; every emit that has returned gave the receipt of the ticket
that is stored, which every provider reads back and accepts for that ticket alone; an emit of
another ticket for the transmission raises and changes nothing; and a ticket is decoded from its
own bytes. -/
theorem local_inbox (loads : ReadsFlat reader.loads) (parse : ReadsFlat reader.parse)
    {first last : Inbox} (empty : first.Empty) {labels : List InboxLabel}
    (trace : Trace (InboxStep reader key) first labels last) :
    (∀ transmissionId content, last.files (fileName transmissionId) = some content →
      (∃! ticket, Targeted key ticket ∧ content = storedBytes key ticket) ∧
      ∀ more after, Trace (InboxStep reader key) last more after →
        after.files (fileName transmissionId) = some content) ∧
    (∀ place ticket receipt, InboxLabel.emitted place ticket (.ok receipt) ∈ labels →
      Delivered key last.files ticket ∧ receipt = rawReceipt key ticket) ∧
    (∀ ticket, Delivered key last.files ticket → ReadAs reader key last.files ticket) ∧
    (∀ ticket other, Delivered key last.files ticket →
      other.transmissionId = ticket.transmissionId → other ≠ ticket →
      (∀ place receipt, InboxLabel.emitted place other (.ok receipt) ∉ labels) ∧
      ∀ label next call, last.calls label.place = some call → call.ticket = other →
        InboxStep reader key last label next →
        (∀ name, ¬ IsPending name → next.files name = last.files name) ∧
        ∀ reply, label = .emitted label.place other reply → (∃ failure, reply = .error failure) ∧
          ∀ name, call.phase.pending = some name → next.files name = none) ∧
    ∀ ticket raw, ticketBytes ticket = .ok raw → decodeTicket reader raw = .ok ticket := by
  have recorded := Recorded.run loads parse empty trace
  have consistent := recorded.consistent
  refine ⟨?_, recorded.returned, fun ticket => consistent.readAs loads parse, ?_,
    fun ticket raw => decodeTicket_ticketBytes loads⟩
  · intro transmissionId content found
    obtain ⟨ticket, targeted, named, written⟩ := consistent.stored transmissionId content found
    refine ⟨⟨ticket, ⟨targeted, written⟩, ?_⟩, ?_⟩
    · rintro other ⟨_, otherWritten⟩
      exact storedBytes_inj parse (otherWritten.symm.trans written)
    · intro more after rest
      have delivered : Delivered key last.files ticket := by
        rw [Delivered, named, found, written]
      obtain ⟨_, kept⟩ := consistent.later loads parse rest
      have kept := kept ticket delivered
      rw [Delivered, named] at kept
      rw [kept, written]
  · intro ticket other delivered same differs
    refine ⟨?_, ?_⟩
    · intro place receipt member
      obtain ⟨stored, _⟩ := recorded.returned place other receipt member
      exact differs (delivered_inj parse stored delivered same)
    · rintro label next call found rfl step
      have present : last.files (fileName call.ticket.transmissionId) ≠ none := by
        rw [Delivered] at delivered
        rw [same, delivered]
        exact Option.some_ne_none _
      obtain ⟨untouched, gone⟩ := step.idle consistent found present
      refine ⟨untouched, ?_⟩
      intro reply emitted
      refine ⟨?_, fun name => gone reply name emitted⟩
      cases reply with
      | error failure => exact ⟨failure, rfl⟩
      | ok receipt =>
          rw [emitted] at step
          obtain ⟨stored, _⟩ := step.emitted loads parse consistent
          exact absurd (delivered_inj parse stored delivered same) differs

/-! ### One delivery -/

omit [Hashlib] in
theorem Inbox.keep_calls (inbox : Inbox) (place : Nat) (call : Option Call) :
    (inbox.keep place call).calls place = call :=
  Function.update_self _ _ _

/-- A delivery that nobody disturbs. -/
theorem delivered_alone (provider : LocalCliDeliveryProvider) (ticket : IssuedEffectSendTicket)
    (valid : provider.validateTarget ticket = .ok ()) :
    ∃ last, Trace (InboxStep reader provider.receiptKey) ⟨fun _ => none, fun _ => none⟩
      [.stepped 0, .stepped 0, .stepped 0, .stepped 0, .stepped 0, .stepped 0,
        .emitted 0 ticket (.ok (rawReceipt provider.receiptKey ticket))] last := by
  let key := provider.receiptKey
  let name := ".pending-" ++ "a"
  let started := Inbox.keep ⟨fun _ => none, fun _ => none⟩ 0 (some ⟨provider, ticket, .checking⟩)
  let checked := started.keep 0 (some ⟨provider, ticket, .opening⟩)
  let opened := (checked.write name (some [])).keep 0
    (some ⟨provider, ticket, .writing name (storedBytes key ticket ++ [])⟩)
  let written := (opened.write name (some ([] ++ storedBytes key ticket))).keep 0
    (some ⟨provider, ticket, .writing name []⟩)
  let synced := written.keep 0 (some ⟨provider, ticket, .linking name⟩)
  have apart : fileName ticket.transmissionId ≠ name := by
    intro same
    exact fileName_not_pending ticket.transmissionId ⟨"a", same⟩
  have absent : synced.files (fileName ticket.transmissionId) = none := by
    change Function.update (Function.update (fun _ => none) name _) name _ _ = none
    rw [Function.update_of_ne apart, Function.update_of_ne apart]
  have identified := transmission_named valid
  have nothing : provider.selected reader started.files ticket.transmissionId = .ok none := by
    rw [LocalCliDeliveryProvider.selected, raiseIf_neg identified]
    rfl
  have empty : opened.files name = some [] := by
    change Function.update checked.files name (some []) name = some []
    rw [Function.update_self]
  have opens : InboxStep reader key checked (.stepped 0) opened := by
    have step := @InboxStep.opens _ reader key checked 0 provider ticket "a"
      (Inbox.keep_calls started 0 _) rfl
    rwa [← List.append_nil (storedBytes key ticket)] at step
  refine ⟨_, .cons (.starts _ 0 provider ticket rfl rfl valid) <|
    .cons (.checks started 0 (Inbox.keep_calls _ 0 _) nothing) <| .cons opens <|
    .cons (.writes opened 0 (storedBytes key ticket) [] (Inbox.keep_calls _ 0 _)
      empty) <|
    .cons (.syncs written 0 (Inbox.keep_calls _ 0 _)) <|
    .cons (.links synced 0 (Inbox.keep_calls _ 0 _) absent) <|
    .single (.closes _ 0 (Inbox.keep_calls _ 0 _))⟩

end

/-- A provider and a ticket for it. -/
def sampleProvider : LocalCliDeliveryProvider :=
  ⟨501, "principal", "/inbox", [1], by decide, written _ trivial⟩

def sampleTicket : IssuedEffectSendTicket where
  tenantId := "tenant"
  issuedOperationId := "operation"
  journalDecisionId := "decision"
  journalDecisionFingerprint := "print"
  transmissionId := "transmission"
  transmissionFingerprint := "print"
  requestOrdinal := 0
  intentId := "intent"
  intentFingerprint := "print"
  provider := "local-cli-inbox"
  account := sampleProvider.accountId
  recipient := "principal"
  canonicalAddress := sampleProvider.canonicalAddress
  endpointHead := sampleProvider.endpointHead
  credentialBindingHead := sampleProvider.credentialBindingHead
  adapterContractVersion := contractVersion
  payload := [7]
  payloadFingerprint := (sha256 [7]).text
  idempotencyKey := "key"
  bundleMembers := ["member"]

theorem sampleTicket_valid : sampleProvider.validateTarget sampleTicket = .ok () := by
  have endpoint : sampleProvider.endpointHead ≠ "" := by
    intro empty
    have length := congrArg String.length empty
    rw [LocalCliDeliveryProvider.endpointHead, String.length_append] at length
    exact absurd length (by simp)
  have credential : sampleProvider.credentialBindingHead ≠ "" := by
    intro empty
    have length := congrArg String.length empty
    rw [LocalCliDeliveryProvider.credentialBindingHead, String.length_append] at length
    exact absurd length (by simp)
  have account : sampleProvider.accountId ≠ "" := by decide
  have print : (sha256 [7]).text ≠ "" := Digest.text_ne_empty _
  have address : sampleProvider.canonicalAddress ≠ [] := by decide
  have whole : ¬ (sampleTicket.adapterContractVersion ≠ contractVersion ∨
      sampleTicket.payload = [] ∨ sampleTicket.canonicalAddress = [] ∨
      (sha256 sampleTicket.payload).text ≠ sampleTicket.payloadFingerprint ∨
      sampleTicket.bundleMembers = [] ∨ ¬ sampleTicket.bundleMembers.Nodup ∨
      "" ∈ sampleTicket.bundleMembers) := by
    simp [sampleTicket, address]
  have named : "" ∉ identities sampleTicket := by
    simp [identities, sampleTicket, endpoint.symm, credential.symm, account.symm, print.symm,
      contractVersion]
  rw [LocalCliDeliveryProvider.validateTarget, ticketBytes, raiseIf_neg whole, ok_bind,
    raiseIf_neg named, ok_bind, ok_bind]
  exact raiseIf_neg (not_not.mpr rfl)

omit [Hashlib] in
theorem local_inbox_sample :
    letI := Sha256.hashlib
    ∃ labels last, Trace (InboxStep ⟨flatLoads, flatLoads⟩ [1]) ⟨fun _ => none, fun _ => none⟩
        labels last ∧
      InboxLabel.emitted 0 sampleTicket (.ok (rawReceipt [1] sampleTicket)) ∈ labels ∧
      ReadAs ⟨flatLoads, flatLoads⟩ [1] last.files sampleTicket := by
  let _ := Sha256.hashlib
  have reads : ReadsFlat (DeliveryReader.mk flatLoads flatLoads).loads := flatLoads_reads
  have parses : ReadsFlat (DeliveryReader.mk flatLoads flatLoads).parse := flatLoads_reads
  obtain ⟨last, trace⟩ := @delivered_alone _ ⟨flatLoads, flatLoads⟩ sampleProvider sampleTicket
    sampleTicket_valid
  have empty : Inbox.Empty ⟨fun _ => none, fun _ => none⟩ := ⟨fun _ => rfl, fun _ => rfl⟩
  obtain ⟨_, returned, read, _⟩ := local_inbox reads parses empty trace
  have member : InboxLabel.emitted 0 sampleTicket (.ok (rawReceipt [1] sampleTicket)) ∈
      [.stepped 0, .stepped 0, .stepped 0, .stepped 0, .stepped 0, .stepped 0,
        .emitted 0 sampleTicket (.ok (rawReceipt [1] sampleTicket))] := by
    simp only [List.mem_cons, true_or, or_true]
  exact ⟨_, last, trace, member, read _ (returned _ _ _ member).1⟩

end

end Chiplog.Composition.DeliveryLocalCli
