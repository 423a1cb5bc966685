import Chiplog.AgentLoop.RunDomain
import Chiplog.AgentLoop.SchedulerConfiguration
import Chiplog.AgentLoop.SchedulerLeases
import Chiplog.Data.TaggedReading

namespace Chiplog.AgentLoop

open Chiplog.Data Chiplog.Effects

/-! Pure complete scheduler batches over the real Run record.

A parent decision fans out into one materialization for each execution subject; every record of
a materialization is named by the hash of what it holds. -/

inductive MaterializationError where
  | domain (error : SchedulerDomainError)
  | loop (error : LoopError)
deriving DecidableEq

abbrev Materializing (α : Type) := Except MaterializationError α

/-- A scheduler domain function inside a materialization. -/
def ofDomain (result : Scheduling α) : Materializing α := result.mapError .domain

/-! ### Schema dependencies -/

abbrev SchemaGraph := List (String × List String)

def schemaDag : SchemaGraph :=
  [("parent_primitive", []), ("parent_identity", ["parent_primitive"]),
    ("batch_primitive", ["parent_identity"]), ("genesis_lease", ["batch_primitive"]),
    ("lineage", ["batch_primitive"]), ("physical_epoch", ["lineage"]),
    ("physical_selector", ["physical_epoch"]), ("run", ["batch_primitive"]),
    ("initialization", ["run", "lineage", "physical_selector", "genesis_lease"]),
    ("reciprocal", ["initialization"]),
    ("companion", ["physical_epoch", "physical_selector", "genesis_lease"]),
    ("finalized_members", ["initialization", "reciprocal", "companion"]),
    ("batch_envelope", ["finalized_members"]),
    ("interval_envelope", ["batch_envelope", "parent_identity"])]

instance : Jsonable SchemaGraph := ⟨fun graph => .arr (graph.map (fun entry =>
  .arr [.str entry.1, toJson entry.2]))⟩

/-- `visit`, over the completed names; the active ones never repeat, so their number bounds the
depth. -/
def visitDomain (graph : SchemaGraph) : Nat → List String → List String → String →
    Scheduling (List String)
  | 0, _, _, _ => .error ⟨"unknown or cyclic canonical domain"⟩
  | depth + 1, active, complete, name =>
      match graph.lookup name with
      | none => .error ⟨"unknown or cyclic canonical domain"⟩
      | some dependencies => do
          raiseIf (name ∈ active) ⟨"unknown or cyclic canonical domain"⟩
          if name ∈ complete then
            return complete
          else
            let complete ← dependencies.foldlM (visitDomain graph depth (name :: active)) complete
            return name :: complete

def validateSchemaDag (graph : SchemaGraph) : Scheduling Unit := do
  raiseIf (¬ (graph.map Prod.fst).Nodup) ⟨"duplicate canonical domain"⟩
  let _ ← (graph.map Prod.fst).foldlM (visitDomain graph (graph.length + 1) []) []
  raiseIf (graph ≠ schemaDag) ⟨"canonical dependency manifest differs from registered DAG"⟩

/-! ### Records -/

inductive ParentKind where
  | ordinary
  | resolution
deriving DecidableEq

instance : Jsonable ParentKind := ⟨fun
  | .ordinary => .str "ORDINARY"
  | .resolution => .str "RESOLUTION"⟩

instance : Jsonable IntervalBranch := ⟨fun
  | .boundaryOnlyNoWork => .str "BOUNDARY_ONLY_NO_WORK"
  | .skipAll => .str "SKIP_ALL"
  | .coalesceSingle => .str "COALESCE_SINGLE"
  | .coalesceMulti => .str "COALESCE_MULTI"
  | .materializeEachSingle => .str "MATERIALIZE_EACH_SINGLE"
  | .materializeEachMulti => .str "MATERIALIZE_EACH_MULTI"⟩

/-- No child-derived identity, envelope commitment or commitment slot exists here. -/
structure IntervalParentPrimitive where
  kind : ParentKind
  command : SchedulerCommandIdentity
  boundary : SchedulerEligibilityBoundary
  currentBound : SchedulerIntervalBoundHead
  originalBound : SchedulerIntervalBoundHead
  originalHold : Marker
  operatorProof : Marker
  manifest : SchedulerEligibilityManifest
  branch : IntervalBranch
  runInputs : SchedulerRunInputs
deriving DecidableEq

instance : Model IntervalParentPrimitive := ⟨fun value =>
  [("kind", toJson value.kind), ("command", toJson value.command),
    ("boundary", toJson value.boundary), ("current_bound", toJson value.currentBound),
    ("original_bound", toJson value.originalBound), ("original_hold", toJson value.originalHold),
    ("operator_proof", toJson value.operatorProof), ("manifest", toJson value.manifest),
    ("branch", toJson value.branch), ("run_inputs", toJson value.runInputs)]⟩

structure ScheduledBatchPrimitive where
  parentDecision : PresentHead
  command : SchedulerCommandIdentity
  boundary : SchedulerEligibilityBoundary
  boundHead : SchedulerIntervalBoundHead
  manifest : SchedulerEligibilityManifest
  subject : ExecutionLineageSubject
  initialRunId : Identity
  rootId : Identity
  rootFingerprint : Digest
  runInputs : SchedulerRunInputs
deriving DecidableEq

instance : Model ScheduledBatchPrimitive := ⟨fun value =>
  [("parent_decision", toJson value.parentDecision), ("command", toJson value.command),
    ("boundary", toJson value.boundary), ("bound_head", toJson value.boundHead),
    ("manifest", toJson value.manifest), ("subject", toJson value.subject),
    ("initial_run_id", toJson value.initialRunId), ("root_id", toJson value.rootId),
    ("root_fingerprint", toJson value.rootFingerprint), ("run_inputs", toJson value.runInputs)]⟩

inductive SubjectKind where
  | individual
  | coalesced
deriving DecidableEq

instance : Jsonable SubjectKind := ⟨fun
  | .individual => .str "INDIVIDUAL"
  | .coalesced => .str "COALESCED"⟩

structure MaterializationCommitment where
  kind : SubjectKind
  parentDecision : PresentHead
  subject : ExecutionLineageSubject
  dispositions : List OccurrenceDisposition
  lineage : ExecutionLineageBinding
  initialRun : PresentHead
  initialization : PresentHead
  reciprocalRunRoot : PresentHead
  physicalRoot : PhysicalRootBinding
  physicalEpoch : PresentHead
  genesisLease : GenesisLease
  companionManifest : PresentHead
  primitiveDomainFingerprint : Digest
  finalizedMembersFingerprint : Digest
  batchFingerprint : Digest
  schemaDependencyManifest : PresentHead
deriving DecidableEq

instance : Model MaterializationCommitment := ⟨fun value =>
  [("kind", toJson value.kind), ("parent_decision", toJson value.parentDecision),
    ("subject", toJson value.subject), ("dispositions", toJson value.dispositions),
    ("lineage", toJson value.lineage), ("initial_run", toJson value.initialRun),
    ("initialization", toJson value.initialization),
    ("reciprocal_run_root", toJson value.reciprocalRunRoot),
    ("physical_root", toJson value.physicalRoot), ("physical_epoch", toJson value.physicalEpoch),
    ("genesis_lease", toJson value.genesisLease),
    ("companion_manifest", toJson value.companionManifest),
    ("primitive_domain_fingerprint", toJson value.primitiveDomainFingerprint),
    ("finalized_members_fingerprint", toJson value.finalizedMembersFingerprint),
    ("batch_fingerprint", toJson value.batchFingerprint),
    ("schema_dependency_manifest", toJson value.schemaDependencyManifest)]⟩

/-- What an interval decision and a resolution have in common. -/
structure IntervalOutcome where
  decision : PresentHead
  command : SchedulerCommandIdentity
  branch : IntervalBranch
  boundary : SchedulerEligibilityBoundary
  manifest : SchedulerEligibilityManifest
  dispositions : List OccurrenceDisposition
  materializations : List MaterializationCommitment
  resultingBoundary : DueCoordinate
deriving DecidableEq

def IntervalOutcome.fields (value : IntervalOutcome) : List (String × Json) :=
  [("decision", toJson value.decision), ("command", toJson value.command),
    ("branch", toJson value.branch), ("boundary", toJson value.boundary),
    ("manifest", toJson value.manifest), ("dispositions", toJson value.dispositions),
    ("materializations", toJson value.materializations),
    ("resulting_boundary", toJson value.resultingBoundary)]

/-- `ScheduledIntervalDecision` or `SchedulerIntervalResolutionDecision`, without its
`complete_commitment`. -/
inductive IntervalDecision where
  | ordinary (outcome : IntervalOutcome) (boundHead : SchedulerIntervalBoundHead)
  | resolution (outcome : IntervalOutcome) (originalHold : PresentHead)
      (originalBoundHead successorBoundHead : SchedulerIntervalBoundHead)
deriving DecidableEq

def IntervalDecision.outcome : IntervalDecision → IntervalOutcome
  | .ordinary outcome _ => outcome
  | .resolution outcome _ _ _ => outcome

def IntervalDecision.fields : IntervalDecision → List (String × Json)
  | .ordinary outcome boundHead =>
      ("kind", .str "INTERVAL_DECISION") :: outcome.fields ++ [("bound_head", toJson boundHead)]
  | .resolution outcome originalHold originalBoundHead successorBoundHead =>
      ("kind", .str "INTERVAL_RESOLUTION") :: outcome.fields ++
        [("original_hold", toJson originalHold),
          ("original_bound_head", toJson originalBoundHead),
          ("successor_bound_head", toJson successorBoundHead)]

inductive IntervalResult where
  | decided (decision : IntervalDecision) (completeCommitment : Digest)
  | held (hold : SchedulerOverflowHold)
deriving DecidableEq

instance : Model IntervalResult := ⟨fun
  | .decided decision completeCommitment =>
      decision.fields ++ [("complete_commitment", toJson completeCommitment)]
  | .held hold => modelDump hold⟩

structure MaterializedOccurrence where
  primitive : ScheduledBatchPrimitive
  run : RunRecord
  commitment : MaterializationCommitment
  members : List SchedulerCanonicalMember
deriving DecidableEq

/-- Complete owner bytes; exact-current journal selection has not occurred. -/
structure IntervalCandidate where
  parentPrimitive : Option IntervalParentPrimitive
  result : IntervalResult
  occurrences : List MaterializedOccurrence
  records : List SchedulerCanonicalMember
  batchFingerprint : Digest
  serializedBatchBytes : Nat
deriving DecidableEq

/-! ### Materialization -/

section

variable [Hashlib]

/-- `_hash`. -/
def taggedHash (domain : String) (value : Json) : Digest :=
  sha256 (Json.arr [.str domain, value]).tagged

/-- `domain + ":" + digest`. -/
def domainId (domain : String) (digest : Digest) : Identity :=
  Identity.after (domain ++ ":") digest.identity

/-- `_reference`. -/
def taggedReference (domain : String) (value : Json) : PresentHead :=
  let fingerprint := sha256 value.tagged
  ⟨domainId domain fingerprint, fingerprint⟩

/-- `_member`. -/
def canonicalMember (kind reference : Identity) (value : Json) : SchedulerCanonicalMember :=
  { recordKind := kind
    recordId := reference
    schemaId := (Identity.after "chiplog.scheduler." kind).before ".v1"
    canonical := value.tagged
    fingerprint := sha256 value.tagged }

/-- `_run`, before its head is derived. -/
def pendingRun (inputs : SchedulerRunInputs) (root : ExecutionLineageBinding) : RunRecord :=
  { tenant := inputs.tenant.text
    principal := inputs.principal.text
    runId := root.initialRunId.text
    state := .created
    head := "pending"
    predecessor := none
    prompt := inputs.prompt.text
    policy := inputs.policy
    origin := inputs.origin
    contourHead := inputs.contourHead.text
    policyHead := inputs.policyHead.text
    workerSession := inputs.workerSession.text
    rootBinding := .scheduler
      { rootId := root.rootId
        subject := root.subject
        rootFingerprint := root.rootFingerprint
        initialRunId := root.initialRunId }
    acceptedDeliveryBinding := .legacyR13
    turns := []
    deliveries := []
    acceptedText := []
    planningReceipts := []
    event := "RunCreated" }

/-- The digest of a pending Run, which names its record. -/
def runDigest (inputs : SchedulerRunInputs) (root : ExecutionLineageBinding) : Digest :=
  sha256 (canonicalBytes (pendingRun inputs root)).items

def genesisRun [Pydantic] (inputs : SchedulerRunInputs) (root : ExecutionLineageBinding) :
    Materializing RunRecord := do
  let run := { pendingRun inputs root with head := (domainId "loop" (runDigest inputs root)).text }
  (validateRecord none run none).mapError .loop
  return run

section Parent

variable (parent : IntervalParentPrimitive) (parentRef : PresentHead)
  (subject : ExecutionLineageSubject)

def runIdDigest : Digest :=
  taggedHash "scheduled-run-v1" (.arr [toJson parentRef, toJson subject])

def runIdOf : Identity := domainId "scheduled-run-v1" (runIdDigest parentRef subject)

def rootFields : List (String × Json) :=
  let schedule := parent.boundary.scheduleDefinitionHead
  [("subject", toJson subject), ("initial_run_id", toJson (runIdOf parentRef subject)),
    ("schedule_id", toJson schedule.scheduleId),
    ("schedule_revision", toJson schedule.scheduleRevision),
    ("policy_revision", toJson parent.boundary.missedOccurrencePolicyHead.policyRevision)]

def rootFingerprintOf : Digest :=
  taggedHash "execution-lineage-v1" (.obj (rootFields parent parentRef subject))

def rootIdOf : Identity :=
  domainId "execution-lineage-v1" (rootFingerprintOf parent parentRef subject)

def lineageFields : List (String × Json) :=
  rootFields parent parentRef subject ++
    [("root_id", toJson (rootIdOf parent parentRef subject)),
      ("root_fingerprint", toJson (rootFingerprintOf parent parentRef subject)),
      ("current_run_id", toJson (runIdOf parentRef subject))]

def lineageDigest : Digest :=
  taggedHash "execution-lineage-head-v1" (.obj (lineageFields parent parentRef subject))

def lineageOf : ExecutionLineageBinding :=
  let schedule := parent.boundary.scheduleDefinitionHead
  { rootId := rootIdOf parent parentRef subject
    subject := subject
    rootFingerprint := rootFingerprintOf parent parentRef subject
    lineageHead := domainId "execution-lineage-head-v1" (lineageDigest parent parentRef subject)
    initialRunId := runIdOf parentRef subject
    currentRunId := runIdOf parentRef subject
    scheduleId := schedule.scheduleId
    scheduleRevision := schedule.scheduleRevision
    policyRevision := parent.boundary.missedOccurrencePolicyHead.policyRevision }

def primitiveOf : ScheduledBatchPrimitive :=
  { parentDecision := parentRef
    command := parent.command
    boundary := parent.boundary
    boundHead := parent.currentBound
    manifest := parent.manifest
    subject := subject
    initialRunId := runIdOf parentRef subject
    rootId := rootIdOf parent parentRef subject
    rootFingerprint := rootFingerprintOf parent parentRef subject
    runInputs := parent.runInputs }

def primitiveRefOf : PresentHead :=
  taggedReference "scheduled-batch-primitive-v1" (toJson (primitiveOf parent parentRef subject))

def materializationOf : MaterializationIdentity :=
  let reference := primitiveRefOf parent parentRef subject
  ⟨reference.head, reference.fingerprint⟩

def genesisDigest : Digest :=
  taggedHash "execution-root-lease-genesis-v1" (toJson (primitiveOf parent parentRef subject))

def genesisOf : GenesisLease :=
  ⟨domainId "execution-root-lease-genesis-v1" (genesisDigest parent parentRef subject)⟩

def epochIdOf : Identity :=
  domainId "physical-root-genesis-v1" (taggedHash "physical-root-genesis-v1"
    (.arr [toJson (rootIdOf parent parentRef subject), toJson parentRef.head]))

def epochBody : Json :=
  let lineage := lineageOf parent parentRef subject
  .obj [("epoch_id", toJson (epochIdOf parent parentRef subject)),
    ("execution_lineage_root_id", toJson lineage.rootId),
    ("execution_lineage_root_fingerprint", toJson lineage.rootFingerprint),
    ("observed_lineage_head", toJson lineage.lineageHead),
    ("observed_current_run_id", toJson lineage.currentRunId),
    ("predecessor_epoch", toJson Marker.absent),
    ("authority_epoch", toJson parent.runInputs.authorityEpoch)]

def epochRefOf : PresentHead :=
  taggedReference "physical-root-head-v1" (epochBody parent parentRef subject)

def selectorIdOf : Identity :=
  domainId "physical-root-selector-v1" (taggedHash "physical-root-selector-v1"
    (toJson (rootIdOf parent parentRef subject)))

def selectorBody : Json :=
  .obj [("lineage_id", toJson (rootIdOf parent parentRef subject)),
    ("selector_id", toJson (selectorIdOf parent parentRef subject)), ("selector_version", .int 0),
    ("current_epoch_id", toJson (epochIdOf parent parentRef subject)),
    ("current_epoch_head", toJson (epochRefOf parent parentRef subject).head)]

def selectorRefOf : PresentHead :=
  taggedReference "physical-root-selector-head-v1" (selectorBody parent parentRef subject)

def physicalOf : PhysicalRootBinding :=
  { selectorId := selectorIdOf parent parentRef subject
    selectorHead := (selectorRefOf parent parentRef subject).head
    selectorVersion := 0
    currentEpochId := epochIdOf parent parentRef subject
    currentEpochHead := (epochRefOf parent parentRef subject).head }

/-- The head of the Run of a subject. -/
def runHeadOf : Identity :=
  domainId "loop" (runDigest parent.runInputs (lineageOf parent parentRef subject))

def initialization : Json :=
  .obj [("parent", toJson parentRef), ("primitive", toJson (primitiveRefOf parent parentRef subject)),
    ("lineage", toJson (lineageOf parent parentRef subject)),
    ("run_id", toJson (runIdOf parentRef subject)),
    ("run_head", toJson (runHeadOf parent parentRef subject)),
    ("physical_root", toJson (physicalOf parent parentRef subject)),
    ("genesis_lease", toJson (genesisOf parent parentRef subject)),
    ("bound_head", toJson parent.currentBound), ("boundary", toJson parent.boundary),
    ("manifest_fingerprint", toJson parent.manifest.fingerprint)]

def initRefOf : PresentHead :=
  taggedReference "scheduler-run-initialization-v1" (initialization parent parentRef subject)

def reciprocal : Json :=
  .obj [("initialization", toJson (initRefOf parent parentRef subject)),
    ("run_id", toJson (runIdOf parentRef subject)),
    ("run_head", toJson (runHeadOf parent parentRef subject)),
    ("lineage", toJson (lineageOf parent parentRef subject)),
    ("physical_root", toJson (physicalOf parent parentRef subject)),
    ("genesis_lease", toJson (genesisOf parent parentRef subject))]

def reciprocalRefOf : PresentHead :=
  taggedReference "scheduler-root-run-reciprocal-v1" (reciprocal parent parentRef subject)

/-- The members that a subject disposes of. -/
def dispositionsOf : Scheduling (List OccurrenceDisposition) :=
  let materialization := materializationOf parent parentRef subject
  match subject with
  | .individual occurrenceId =>
      match parent.manifest.members.filter (fun item => item.occurrenceId = occurrenceId) with
      | [selected] => .ok [.claimedIndividually selected materialization]
      | _ => .error ⟨"individual subject lacks exactly one eligible occurrence"⟩
  | .coalesced aggregateId manifestFingerprint => do
      raiseIf (parent.manifest.members.length < 2 ∨
          manifestFingerprint ≠ parent.manifest.fingerprint)
        ⟨"coalesced subject differs from complete multi-member manifest"⟩
      return parent.manifest.members.map (fun item =>
        .coalescedInto item aggregateId parent.manifest.fingerprint materialization)

end Parent

/-- The record of a disposition, named by what it says. -/
def dispositionMember (item : OccurrenceDisposition) : SchedulerCanonicalMember :=
  canonicalMember ⟨"occurrence-disposition", by decide⟩
    (taggedReference "occurrence-disposition-v1" (toJson item)).head (toJson item)

/-- The record of the Run, under the schema of the agent loop. -/
def runMember (run : RunRecord) (head : Identity) : SchedulerCanonicalMember :=
  { recordKind := ⟨"agent_loop.run", by decide⟩
    recordId := head
    schemaId := ⟨"chiplog.agent-loop.record.v1", by decide⟩
    canonical := (canonicalBytes run).items
    fingerprint := sha256 (canonicalBytes run).items }

/-- The coalesced members in one record. -/
def aggregateMembers (parent : IntervalParentPrimitive) :
    ExecutionLineageSubject → List SchedulerCanonicalMember
  | .individual _ => []
  | .coalesced aggregateId manifestFingerprint =>
      [canonicalMember ⟨"coalesced-aggregate", by decide⟩ aggregateId (.obj
        [("subject", toJson (ExecutionLineageSubject.coalesced aggregateId manifestFingerprint)),
          ("boundary", toJson parent.boundary), ("manifest", toJson parent.manifest)])]

/-- The records that a subject has of its own. -/
def coreMembersOf (parent : IntervalParentPrimitive) (parentRef : PresentHead)
    (subject : ExecutionLineageSubject) (run : RunRecord) : List SchedulerCanonicalMember :=
  let primitive := primitiveOf parent parentRef subject
  let lineage := lineageOf parent parentRef subject
  let genesis := genesisOf parent parentRef subject
  [canonicalMember ⟨"batch-primitive", by decide⟩ (primitiveRefOf parent parentRef subject).head
      (toJson primitive),
    canonicalMember ⟨"stable-lineage", by decide⟩ lineage.lineageHead (toJson lineage),
    canonicalMember ⟨"physical-root", by decide⟩ (epochRefOf parent parentRef subject).head
      (epochBody parent parentRef subject),
    canonicalMember ⟨"physical-selector", by decide⟩ (selectorRefOf parent parentRef subject).head
      (selectorBody parent parentRef subject),
    canonicalMember ⟨"root-lease-genesis", by decide⟩ genesis.leaseHead (.obj
      [("lineage", toJson lineage), ("physical_root", toJson (physicalOf parent parentRef subject)),
        ("lease", toJson genesis), ("run_id", toJson (runIdOf parentRef subject))]),
    runMember run (runHeadOf parent parentRef subject),
    canonicalMember ⟨"run-initialization", by decide⟩ (initRefOf parent parentRef subject).head
      (initialization parent parentRef subject),
    canonicalMember ⟨"root-run-reciprocal", by decide⟩ (reciprocalRefOf parent parentRef subject).head
      (reciprocal parent parentRef subject)]

/-- The records of a subject before the companion. -/
def subjectMembersOf (parent : IntervalParentPrimitive) (parentRef : PresentHead)
    (subject : ExecutionLineageSubject) (run : RunRecord)
    (dispositions : List OccurrenceDisposition) : List SchedulerCanonicalMember :=
  coreMembersOf parent parentRef subject run ++ dispositions.map dispositionMember ++
    aggregateMembers parent subject

/-- The dumps of the records that the epoch companion lists. -/
def companionData (members : List SchedulerCanonicalMember) : Json :=
  toJson (members.filter (fun item =>
    item.recordKind.text ∈ ["physical-root", "physical-selector", "root-lease-genesis"]))

def schemaDagRef : PresentHead := taggedReference "scheduler-schema-dag-v1" (toJson schemaDag)

def subjectKind : ExecutionLineageSubject → SubjectKind
  | .individual _ => .individual
  | .coalesced _ _ => .coalesced

/-- The end of `materialize_occurrence`, once its Run and its dispositions are made. -/
def finalizeOccurrence (parent : IntervalParentPrimitive) (parentRef : PresentHead)
    (subject : ExecutionLineageSubject) (run : RunRecord)
    (dispositions : List OccurrenceDisposition) : MaterializedOccurrence :=
  let members := subjectMembersOf parent parentRef subject run dispositions
  let companion := taggedReference "scheduler-epoch-companion-v1" (companionData members)
  let members := members ++
    [canonicalMember ⟨"epoch-companion", by decide⟩ companion.head (companionData members)]
  let finalized := taggedHash "scheduled-batch-finalized-members-v1" (toJson members)
  { primitive := primitiveOf parent parentRef subject
    run := run
    members := members
    commitment :=
      { kind := subjectKind subject
        parentDecision := parentRef
        subject := subject
        dispositions := dispositions
        lineage := lineageOf parent parentRef subject
        initialRun := ⟨runHeadOf parent parentRef subject, sha256 (canonicalBytes run).items⟩
        initialization := initRefOf parent parentRef subject
        reciprocalRunRoot := reciprocalRefOf parent parentRef subject
        physicalRoot := physicalOf parent parentRef subject
        physicalEpoch := epochRefOf parent parentRef subject
        genesisLease := genesisOf parent parentRef subject
        companionManifest := companion
        primitiveDomainFingerprint := (primitiveRefOf parent parentRef subject).fingerprint
        finalizedMembersFingerprint := finalized
        batchFingerprint := taggedHash "scheduled-batch-envelope-v1" (.obj
          [("finalized_members", toJson finalized), ("companion", toJson companion),
            ("schema_dag", toJson schemaDagRef)])
        schemaDependencyManifest := schemaDagRef } }

def parentReference (parent : IntervalParentPrimitive) : PresentHead :=
  taggedReference "scheduler-parent-v1" (toJson parent)

def materializeOccurrence [Pydantic] (parent : IntervalParentPrimitive) (parentRef : PresentHead)
    (subject : ExecutionLineageSubject) : Materializing MaterializedOccurrence := do
  raiseIf (parentRef ≠ parentReference parent)
    (.domain ⟨"parent identity differs from primitive domain"⟩)
  let subjects ← ofDomain
    (executionSubjects parent.boundary parent.manifest parent.manifest.members)
  raiseIf (parent.branch ≠ policyBranch parent.boundary.missedOccurrencePolicyHead.kind
      parent.manifest.members.length ∨ subject ∉ subjects)
    (.domain ⟨"subject or branch differs from exact eligible policy algebra"⟩)
  let run ← genesisRun parent.runInputs (lineageOf parent parentRef subject)
  let dispositions ← ofDomain (dispositionsOf parent parentRef subject)
  return finalizeOccurrence parent parentRef subject run dispositions

/-! ### The batch -/

/-- `len(_serialized(records))`. -/
def serializedBytes (records : List SchedulerCanonicalMember) : Nat :=
  (toJson records).tagged.length

/-- `parent_ref.head + suffix`. -/
def parentSuffix (parentRef : PresentHead) (suffix : String) : Identity :=
  parentRef.head.before suffix

def outcomeOf (parent : IntervalParentPrimitive) (parentRef : PresentHead)
    (occurrences : List MaterializedOccurrence) : IntervalOutcome :=
  { decision := parentRef
    command := parent.command
    branch := parent.branch
    boundary := parent.boundary
    manifest := parent.manifest
    dispositions :=
      if parent.branch = .skipAll then
        parent.manifest.members.map (fun item => .skipped item parentRef)
      else occurrences.flatMap (·.commitment.dispositions)
    materializations := occurrences.map (·.commitment)
    resultingBoundary := parent.boundary.cutoffDueCoordinate }

def decisionOf (parent : IntervalParentPrimitive) (outcome : IntervalOutcome) :
    Scheduling IntervalDecision :=
  match parent.kind, parent.originalHold with
  | .ordinary, _ => .ok (.ordinary outcome parent.currentBound)
  | .resolution, .present originalHold =>
      .ok (.resolution outcome originalHold parent.originalBound parent.currentBound)
  | .resolution, .absent => .error ⟨"resolution lacks original hold identity"⟩

def isSkipped : OccurrenceDisposition → Bool
  | .skipped _ _ => true
  | _ => false

/-- The record that resolves an overflow hold. -/
def resolutionMembers (parent : IntervalParentPrimitive) (parentRef : PresentHead) :
    List SchedulerCanonicalMember :=
  match parent.kind with
  | .ordinary => []
  | .resolution =>
      [canonicalMember ⟨"overflow-resolution", by decide⟩ (parentSuffix parentRef ":hold-resolution") (.obj
        [("original_hold", toJson parent.originalHold),
          ("state", toJson (OverflowState.resolvedByOperator parentRef))])]

/-- The records before the result. -/
def intervalMembers (parent : IntervalParentPrimitive) (parentRef : PresentHead)
    (occurrences : List MaterializedOccurrence) (dispositions : List OccurrenceDisposition) :
    List SchedulerCanonicalMember :=
  canonicalMember ⟨"interval-parent", by decide⟩ parentRef.head (toJson parent) ::
    occurrences.flatMap (·.members) ++
    (dispositions.filter (fun item => isSkipped item)).map dispositionMember ++
    resolutionMembers parent parentRef

/-- `_compile`. -/
def compileInterval [Pydantic] (parent : IntervalParentPrimitive) (source : List UndisposedOccurrence) :
    Materializing IntervalCandidate := do
  ofDomain (validateSchemaDag schemaDag)
  let _ ← ofDomain (verifyManifest parent.boundary parent.manifest source)
  let parentRef := parentReference parent
  let subjects ← ofDomain (executionSubjects parent.boundary parent.manifest source)
  let occurrences ← subjects.mapM (materializeOccurrence parent parentRef)
  let outcome := outcomeOf parent parentRef occurrences
  let decision ← ofDomain (decisionOf parent outcome)
  let members := intervalMembers parent parentRef occurrences outcome.dispositions
  let fingerprint := taggedHash "scheduler-interval-envelope-v1" (.obj
    [("complete_non_envelope_records", toJson members),
      ("result_without_commitment", .obj decision.fields)])
  let result := IntervalResult.decided decision fingerprint
  let records := members ++
    [canonicalMember ⟨"interval-result", by decide⟩ (parentSuffix parentRef ":result") (toJson result)]
  raiseIf (¬ (records.map (·.recordId)).Nodup)
    (.domain ⟨"duplicate complete-batch record identity"⟩)
  return {
    parentPrimitive := some parent
    result := result
    occurrences := occurrences
    records := records
    batchFingerprint := fingerprint
    serializedBatchBytes := serializedBytes records }

end

end Chiplog.AgentLoop
