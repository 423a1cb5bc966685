import Chiplog.AgentLoop.ManifestAgreement
import Chiplog.AgentLoop.SchedulerMaterialization

namespace Chiplog.AgentLoop

open Chiplog.Data Chiplog.Effects

/-! Records named by what they hold.

A name is a domain, a colon and a digest.  Every record of a materialization speaks of the Run of
its subject, so equal names in one domain lead back to one subject, unless two of the hashed texts
collide. -/

/-! ### Domains -/

/-- The part of a name before its first colon. -/
def domainOf (name : Identity) : List Char := name.text.toList.takeWhile (· ≠ ':')

def PlainDomain (domain : String) : Prop := ':' ∉ domain.toList

instance (domain : String) : Decidable (PlainDomain domain) :=
  inferInstanceAs (Decidable (':' ∉ domain.toList))

theorem domainId_toList (domain : String) (digest : Digest) :
    (domainId domain digest).text.toList = domain.toList ++ ':' :: digest.text.toList := by
  have colon : ":".toList = [':'] := rfl
  rw [domainId, Identity.text_after, String.toList_append, String.toList_append, colon,
    List.append_assoc]
  rfl

theorem takeWhile_domain {domain : String} (isPlain : PlainDomain domain) (rest : List Char) :
    (domain.toList ++ ':' :: rest).takeWhile (· ≠ ':') = domain.toList := by
  rw [List.takeWhile_append_of_pos]
  · simp
  · intro char member
    have apart : char ≠ ':' := fun same => isPlain (same ▸ member)
    simpa using apart

theorem domainOf_domainId {domain : String} (isPlain : PlainDomain domain) (digest : Digest) :
    domainOf (domainId domain digest) = domain.toList := by
  rw [domainOf, domainId_toList, takeWhile_domain isPlain]

theorem domainOf_before {domain : String} (isPlain : PlainDomain domain) (digest : Digest)
    (suffix : String) :
    domainOf ((domainId domain digest).before suffix) = domain.toList := by
  rw [domainOf, Identity.text_before, String.toList_append, domainId_toList, List.append_assoc,
    List.cons_append, takeWhile_domain isPlain]

theorem domainId_inj {domain : String} {left right : Digest}
    (same : domainId domain left = domainId domain right) : left = right :=
  Digest.ext_text (congrArg Identity.text (Identity.after_inj.mp same))

/-- Names in different domains differ. -/
theorem disjoint_of_domains {names others : List Identity}
    (apart : ∀ name ∈ names, ∀ other ∈ others, domainOf name ≠ domainOf other) :
    List.Disjoint names others :=
  fun name member among => apart name member name among rfl

/-- Names of one subject in different domains, each with a digest that tells subjects apart. -/
abbrev Families (σ : Type) := List (String × (σ → Digest))

def familyNames {σ : Type} (families : Families σ) (subject : σ) : List Identity :=
  families.map (fun family => domainId family.1 (family.2 subject))

section Families

variable {σ : Type} {families : Families σ}

theorem domainOf_familyNames (arePlain : ∀ family ∈ families, PlainDomain family.1) (subject : σ) :
    (familyNames families subject).map domainOf = families.map (fun family => family.1.toList) := by
  rw [familyNames, List.map_map]
  exact List.map_congr_left (fun family member => domainOf_domainId (arePlain family member) _)

theorem familyNames_nodup (arePlain : ∀ family ∈ families, PlainDomain family.1)
    (distinct : (families.map Prod.fst).Nodup) (subject : σ) :
    (familyNames families subject).Nodup := by
  apply List.Nodup.of_map domainOf
  rw [domainOf_familyNames arePlain]
  have texts := distinct.map (fun _ _ same => String.toList_injective same)
  rwa [List.map_map] at texts

theorem familyNames_disjoint (arePlain : ∀ family ∈ families, PlainDomain family.1)
    (distinct : (families.map Prod.fst).Nodup) {subject other : σ} (differs : subject ≠ other)
    (told : ∀ family ∈ families, family.2 subject = family.2 other → subject = other) :
    List.Disjoint (familyNames families subject) (familyNames families other) := by
  intro name member among
  obtain ⟨family, inside, named⟩ := List.mem_map.mp member
  obtain ⟨rival, rivalInside, rivalNamed⟩ := List.mem_map.mp among
  have domains := congrArg domainOf (named.trans rivalNamed.symm)
  rw [domainOf_domainId (arePlain family inside), domainOf_domainId (arePlain rival rivalInside)]
    at domains
  have same : family = rival :=
    List.inj_on_of_nodup_map distinct inside rivalInside (String.toList_injective domains)
  rw [← rivalNamed, ← same] at named
  exact differs (told family inside (domainId_inj named))

theorem flatMap_familyNames_nodup {subjects : List σ}
    (arePlain : ∀ family ∈ families, PlainDomain family.1)
    (distinct : (families.map Prod.fst).Nodup) (apart : subjects.Nodup)
    (told : ∀ family ∈ families, ∀ subject ∈ subjects, ∀ other ∈ subjects,
      family.2 subject = family.2 other → subject = other) :
    (subjects.flatMap (familyNames families)).Nodup := by
  rw [List.nodup_flatMap]
  refine ⟨fun subject _ => familyNames_nodup arePlain distinct subject, ?_⟩
  refine List.Pairwise.imp_of_mem ?_ apart
  intro subject other member among differs
  exact familyNames_disjoint arePlain distinct differs
    (fun family inside => told family inside subject member other among)

end Families

/-! ### Texts -/

instance : Json.Legible ExecutionLineageSubject where
  read := by
    intro first second same
    cases first with
    | individual occurrence =>
        cases second with
        | individual other =>
            have occurrences := Json.sorted_obj_field "occurrence_id" occurrence other same
              (by simp [modelDump]) (by simp [modelDump])
            rw [occurrences]
        | coalesced aggregate fingerprint =>
            obtain ⟨_, found, _⟩ := Json.sorted_obj_mem "occurrence_id" (toJson occurrence) same
              (by simp [modelDump])
            simp [modelDump] at found
    | coalesced aggregate fingerprint =>
        cases second with
        | individual other =>
            obtain ⟨_, found, _⟩ := Json.sorted_obj_mem "aggregate_id" (toJson aggregate) same
              (by simp [modelDump])
            simp [modelDump] at found
        | coalesced other fingerprint' =>
            have aggregates := Json.sorted_obj_field "aggregate_id" aggregate other same
              (by simp [modelDump]) (by simp [modelDump])
            have fingerprints := Json.sorted_obj_field "manifest_fingerprint" fingerprint
              fingerprint' same (by simp [modelDump])
              (by simp [modelDump])
            rw [aggregates, fingerprints]

section Texts

variable [Hashlib]

/-- No two of the texts collide. -/
theorem text_of_digest {texts : List Bytes} (apart : ¬ Json.CollisionAmong texts)
    {first second : Bytes} (member : first ∈ texts) (among : second ∈ texts)
    (same : sha256 first = sha256 second) : first = second := by
  by_contra differs
  exact apart ⟨first, member, second, among, differs, same⟩

/-- `[domain, value]`. -/
def domainText (domain : String) (value : Json) : Bytes := (Json.arr [.str domain, value]).tagged

omit [Hashlib] in
theorem domainText_inj {domain : String} {first second : Json}
    (same : domainText domain first = domainText domain second) :
    Json.sorted first = Json.sorted second :=
  (List.cons.inj (List.cons.inj (Json.arr.inj (Json.tagged_inj same))).2).1

section Subject

variable (parent : IntervalParentPrimitive) (parentRef : PresentHead)

def runIdText (subject : ExecutionLineageSubject) : Bytes :=
  domainText "scheduled-run-v1" (.arr [toJson parentRef, toJson subject])

def rootText (subject : ExecutionLineageSubject) : Bytes :=
  domainText "execution-lineage-v1" (.obj (rootFields parent parentRef subject))

def lineageText (subject : ExecutionLineageSubject) : Bytes :=
  domainText "execution-lineage-head-v1" (.obj (lineageFields parent parentRef subject))

def primitiveText (subject : ExecutionLineageSubject) : Bytes :=
  (toJson (primitiveOf parent parentRef subject)).tagged

def genesisText (subject : ExecutionLineageSubject) : Bytes :=
  domainText "execution-root-lease-genesis-v1" (toJson (primitiveOf parent parentRef subject))

def runText (subject : ExecutionLineageSubject) : Bytes :=
  (canonicalBytes (pendingRun parent.runInputs (lineageOf parent parentRef subject))).items

/-- The records that the companion of a subject lists. -/
def companionMembers (subject : ExecutionLineageSubject) : List SchedulerCanonicalMember :=
  [canonicalMember ⟨"physical-root", written _ trivial⟩ (epochRefOf parent parentRef subject).head
      (epochBody parent parentRef subject),
    canonicalMember ⟨"physical-selector", written _ trivial⟩
      (selectorRefOf parent parentRef subject).head
      (selectorBody parent parentRef subject),
    canonicalMember ⟨"root-lease-genesis", written _ trivial⟩
      (genesisOf parent parentRef subject).leaseHead (.obj
      [("lineage", toJson (lineageOf parent parentRef subject)),
        ("physical_root", toJson (physicalOf parent parentRef subject)),
        ("lease", toJson (genesisOf parent parentRef subject)),
        ("run_id", toJson (runIdOf parentRef subject))])]

def companionText (subject : ExecutionLineageSubject) : Bytes :=
  (toJson (companionMembers parent parentRef subject)).tagged

/-- The texts whose digests name the records of a subject. -/
def subjectTexts (subject : ExecutionLineageSubject) : List Bytes :=
  [runIdText parentRef subject, rootText parent parentRef subject,
    lineageText parent parentRef subject, primitiveText parent parentRef subject,
    genesisText parent parentRef subject, (epochBody parent parentRef subject).tagged,
    (selectorBody parent parentRef subject).tagged, runText parent parentRef subject,
    (initialization parent parentRef subject).tagged,
    (reciprocal parent parentRef subject).tagged, companionText parent parentRef subject]

def subjectFamilies : Families ExecutionLineageSubject :=
  [("scheduled-batch-primitive-v1",
      fun subject => (primitiveRefOf parent parentRef subject).fingerprint),
    ("execution-lineage-head-v1", lineageDigest parent parentRef),
    ("physical-root-head-v1", fun subject => (epochRefOf parent parentRef subject).fingerprint),
    ("physical-root-selector-head-v1",
      fun subject => (selectorRefOf parent parentRef subject).fingerprint),
    ("execution-root-lease-genesis-v1", genesisDigest parent parentRef),
    ("loop", fun subject => runDigest parent.runInputs (lineageOf parent parentRef subject)),
    ("scheduler-run-initialization-v1",
      fun subject => (initRefOf parent parentRef subject).fingerprint),
    ("scheduler-root-run-reciprocal-v1",
      fun subject => (reciprocalRefOf parent parentRef subject).fingerprint),
    ("scheduler-epoch-companion-v1",
      fun subject => sha256 (companionText parent parentRef subject))]

theorem subjectFamilies_plain :
    ∀ family ∈ subjectFamilies parent parentRef, PlainDomain family.1 := by
  simp only [subjectFamilies, List.forall_mem_cons]
  decide

theorem subjectFamilies_distinct : ((subjectFamilies parent parentRef).map Prod.fst).Nodup := by
  simp only [subjectFamilies, List.map_cons, List.map_nil]
  decide

variable {parent parentRef} {texts : List Bytes} {subject other : ExecutionLineageSubject}

/-- The texts of two subjects among texts that do not collide. -/
structure Legibly (parent : IntervalParentPrimitive) (parentRef : PresentHead) (texts : List Bytes)
    (subject other : ExecutionLineageSubject) : Prop where
  apart : ¬ Json.CollisionAmong texts
  left : subjectTexts parent parentRef subject ⊆ texts
  right : subjectTexts parent parentRef other ⊆ texts

namespace Legibly

variable (legibly : Legibly parent parentRef texts subject other)
include legibly

/-- Equal digests of corresponding texts come from equal texts. -/
theorem text (textOf : ExecutionLineageSubject → Bytes)
    (member : textOf subject ∈ subjectTexts parent parentRef subject)
    (among : textOf other ∈ subjectTexts parent parentRef other)
    (same : sha256 (textOf subject) = sha256 (textOf other)) : textOf subject = textOf other :=
  text_of_digest legibly.apart (legibly.left member) (legibly.right among) same

theorem runId (same : runIdOf parentRef subject = runIdOf parentRef other) : subject = other := by
  have texts := legibly.text (runIdText parentRef) (by simp [subjectTexts])
    (by simp [subjectTexts]) (domainId_inj same)
  have parts := Json.arr.inj (domainText_inj texts)
  exact Json.read _ _ (List.cons.inj (List.cons.inj parts).2).1

/-- Objects that speak of the Run of their subject. -/
theorem field (key : String) {fields others : List (String × Json)}
    (same : Json.sorted (.obj fields) = Json.sorted (.obj others))
    (member : (key, toJson (runIdOf parentRef subject)) ∈ fields)
    (only : ∀ found, (key, found) ∈ others → found = toJson (runIdOf parentRef other)) :
    subject = other :=
  legibly.runId (Json.sorted_obj_field key _ _ same member only)

theorem root (same : rootFingerprintOf parent parentRef subject =
    rootFingerprintOf parent parentRef other) : subject = other := by
  have texts := legibly.text (rootText parent parentRef) (by simp [subjectTexts])
    (by simp [subjectTexts]) same
  exact legibly.field "initial_run_id" (domainText_inj texts) (by simp [rootFields])
    (by simp [rootFields])

theorem rootId (same : rootIdOf parent parentRef subject = rootIdOf parent parentRef other) :
    subject = other :=
  legibly.root (domainId_inj same)

theorem lineage (same : lineageDigest parent parentRef subject =
    lineageDigest parent parentRef other) : subject = other := by
  have texts := legibly.text (lineageText parent parentRef) (by simp [subjectTexts])
    (by simp [subjectTexts]) same
  exact legibly.field "initial_run_id" (domainText_inj texts) (by simp [lineageFields, rootFields])
    (by simp [lineageFields, rootFields])

theorem primitive_sorted (same : Json.sorted (toJson (primitiveOf parent parentRef subject)) =
    Json.sorted (toJson (primitiveOf parent parentRef other))) : subject = other :=
  legibly.field "initial_run_id" same (by simp [modelDump, primitiveOf])
    (by simp [modelDump, primitiveOf])

theorem primitive (same : (primitiveRefOf parent parentRef subject).fingerprint =
    (primitiveRefOf parent parentRef other).fingerprint) : subject = other := by
  have texts := legibly.text (primitiveText parent parentRef) (by simp [subjectTexts])
    (by simp [subjectTexts]) same
  exact legibly.primitive_sorted (Json.tagged_inj texts)

theorem genesis (same : genesisDigest parent parentRef subject =
    genesisDigest parent parentRef other) : subject = other := by
  have texts := legibly.text (genesisText parent parentRef) (by simp [subjectTexts])
    (by simp [subjectTexts]) same
  exact legibly.primitive_sorted (domainText_inj texts)

theorem epoch (same : (epochRefOf parent parentRef subject).fingerprint =
    (epochRefOf parent parentRef other).fingerprint) : subject = other := by
  have texts := legibly.text (fun subject => (epochBody parent parentRef subject).tagged)
    (by simp [subjectTexts]) (by simp [subjectTexts]) same
  exact legibly.field "observed_current_run_id" (Json.tagged_inj texts) (by simp [lineageOf])
    (by simp [lineageOf])

theorem selector (same : (selectorRefOf parent parentRef subject).fingerprint =
    (selectorRefOf parent parentRef other).fingerprint) : subject = other := by
  have texts := legibly.text (fun subject => (selectorBody parent parentRef subject).tagged)
    (by simp [subjectTexts]) (by simp [subjectTexts]) same
  exact legibly.rootId (Json.sorted_obj_field "lineage_id" _ _ (Json.tagged_inj texts) (by simp)
    (by simp))

theorem run (same : runDigest parent.runInputs (lineageOf parent parentRef subject) =
    runDigest parent.runInputs (lineageOf parent parentRef other)) : subject = other := by
  have texts := legibly.text (runText parent parentRef) (by simp [subjectTexts])
    (by simp [subjectTexts]) same
  have runIds : (runIdOf parentRef subject).text = (runIdOf parentRef other).text :=
    Json.sorted_obj_field "run_id" _ _ (Json.encode_inj texts)
      (by simp [modelDump, pendingRun, lineageOf]) (by simp [modelDump, pendingRun, lineageOf])
  exact legibly.runId (Identity.ext_iff_text.mpr runIds)

theorem initialized (same : (initRefOf parent parentRef subject).fingerprint =
    (initRefOf parent parentRef other).fingerprint) : subject = other := by
  have texts := legibly.text (fun subject => (initialization parent parentRef subject).tagged)
    (by simp [subjectTexts]) (by simp [subjectTexts]) same
  exact legibly.field "run_id" (Json.tagged_inj texts) (by simp) (by simp)

theorem reciprocated (same : (reciprocalRefOf parent parentRef subject).fingerprint =
    (reciprocalRefOf parent parentRef other).fingerprint) : subject = other := by
  have texts := legibly.text (fun subject => (reciprocal parent parentRef subject).tagged)
    (by simp [subjectTexts]) (by simp [subjectTexts]) same
  exact legibly.field "run_id" (Json.tagged_inj texts) (by simp) (by simp)

theorem companion (same : sha256 (companionText parent parentRef subject) =
    sha256 (companionText parent parentRef other)) : subject = other := by
  have texts := legibly.text (companionText parent parentRef) (by simp [subjectTexts])
    (by simp [subjectTexts]) same
  have first := (List.cons.inj (Json.arr.inj (Json.tagged_inj texts))).1
  have heads : (epochRefOf parent parentRef subject).head =
      (epochRefOf parent parentRef other).head :=
    Json.sorted_obj_field "record_id" _ _ first (by simp [modelDump, canonicalMember])
      (by simp [modelDump, canonicalMember])
  exact legibly.epoch (domainId_inj heads)

/-- Every digest that names a record tells subjects apart. -/
theorem families : ∀ family ∈ subjectFamilies parent parentRef,
    family.2 subject = family.2 other → subject = other := by
  simp only [subjectFamilies, List.forall_mem_cons]
  exact ⟨legibly.primitive, legibly.lineage, legibly.epoch, legibly.selector, legibly.genesis,
    legibly.run, legibly.initialized, legibly.reciprocated, legibly.companion, nofun⟩

end Legibly

end Subject

end Texts

end Chiplog.AgentLoop
