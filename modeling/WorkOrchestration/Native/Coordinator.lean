import WorkOrchestration.Lib.Programs
import WorkOrchestration.Native.PoolUpdates

/-!
# The pool coordinator

The coordinator's methods as programs that read their callbacks, update the state and may raise. A
callback is a table of answers, indexed by the number of questions asked so far. The history lists what an
observer sees, newest first.
-/

namespace WorkOrchestration.Native.Coordinator

open Lib.Checks Lib.Text Artifacts Authority StopScope Accounting
open Recovery PoolContracts PoolStates
open PoolLeases (Lease LeaseState RegistryEnv RegistryError History perform
  performAll)
open PoolReceipts Control Scheduler Pool

/-- What reading the state file back shows. -/
inductive Watermark where
  | current
  | unreadable
  | mismatch
  | raised (error : PyError)

/-- What looking for a control request finds. -/
inductive ControlFile where
  | absent
  | raised (error : PyError)
  | request (request : ControlRequest)

/-- The answers of everything outside the coordinator, by the number of the question. -/
structure World where
  clock : Nat → Except PyError Nat
  adapter : Nat → Name → Turn.Call → Reply
  /-- `read_child_evidence` -/
  evidence : Nat → Name → Reply
  /-- `compare_workspaces`, by phase -/
  compare : Nat → String → Reply
  /-- `validate_capability_receipt` at the time that `now_utc` tells -/
  capability : Nat → Except PyError (List String)
  watermark : Nat → Watermark
  controlFile : Nat → ControlFile
  /-- the resolver and the store that consumes the action it resolves -/
  recovery : Nat → Name → Name → Except PyError RecoveryProjection
  registry : Nat → RegistryEnv
  /-- the registry calls of other clients that come first -/
  others : Nat → History
  writeState : Nat → Option PyError
  writeDecision : Nat → Option PyError
  acquireLock : Nat → Option PyError
  releaseLock : Nat → Option PyError

/-- What an observer of a run sees. -/
inductive Event where
  | called (childId : Name) (call : Turn.Call) (reply : Reply)
  | evidence (childId : Name) (evidence : ChildEvidence)
  | compared (result : Except PyError MutationEvidence)
  | faulted (before : Core) (request : FaultRequest)
  | contained (before : Core) (childId reason : Name)
  /-- evidence that has been read from `before` on, at the given question, and led to `after` -/
  | judged (tick : Nat) (before : Core) (childId : Name) (evidence : ChildEvidence) (after : Core)
  | sealed (timing : Timing) (state : PoolState)
  | assembled (core : Core) (timing : Timing) (receipt : PoolReceipt)

/-- `NativePoolCoordinator`, with the history of its run. -/
structure Coord where
  core : Core
  timing : Timing
  /-- the number of questions asked so far -/
  tick : Nat
  registry : List Lease
  history : List Event

abbrev Program := EStateM PyError Coord

def ask {α : Type} (answers : Nat → α) : Program α :=
  modifyGet fun coord => (answers coord.tick, { coord with tick := coord.tick + 1 })

def liftExcept {α : Type} : Except PyError α → Program α
  | .ok value => pure value
  | .error error => throw error

def raiseIf : Option PyError → Program Unit
  | none => pure ()
  | some error => throw error

def when (condition : Prop) [Decidable condition] (program : Program Unit) : Program Unit :=
  if condition then program else pure ()

def modifyCore (update : Core → Core) : Program Unit :=
  modify fun coord => { coord with core := update coord.core }

def modifyTiming (update : Timing → Timing) : Program Unit :=
  modify fun coord => { coord with timing := update coord.timing }

def record (event : Event) : Program Unit :=
  modify fun coord => { coord with history := event :: coord.history }

variable (setup : Setup) (world : World) (childId : Name)

def monotonicNs : Program Nat := do
  let reading ← ask world.clock
  liftExcept reading

def completeWait : Program Unit := do
  let coord ← get
  match coord.timing.waitStartedNs with
  | none => pure ()
  | some waitStartedNs => do
      let endedNs ← monotonicNs world
      modifyTiming fun timing =>
        { timing with
          waitNs := if timing.frozen then timing.waitNs else timing.waitNs + (endedNs - waitStartedNs)
          waitStartedNs := none }

def comparisonFields : List String :=
  ["integration_root_clean", "shared_read_only_clean", "child_worktrees_clean", "evidence_sha256"]

/-- The exception of a comparison whose result is no object. -/
def shapeError : Json → PyError
  | .null => ⟨.type, "TypeError", "'NoneType' object is not iterable"⟩
  | .bool _ => ⟨.type, "TypeError", "'bool' object is not iterable"⟩
  | .int _ => ⟨.type, "TypeError", "'int' object is not iterable"⟩
  | .ratio .. => ⟨.type, "TypeError", "'float' object is not iterable"⟩
  | .foreign typeName => ⟨.type, "TypeError", "'" ++ typeName ++ "' object is not iterable"⟩
  | _ => schedulingError "mutation-evidence-fields-invalid"

/-- `mutation_evidence_sha256`, and the evidence it accepts. -/
def readMutationEvidence (value : Json) : Except PyError MutationEvidence := do
  if !value.isObject then throw (shapeError value)
  if !value.hasExactly comparisonFields then
    throw (schedulingError "mutation-evidence-fields-invalid")
  match value.get? "integration_root_clean", value.get? "shared_read_only_clean",
      value.get? "child_worktrees_clean" with
  | some (.bool root), some (.bool shared), some (.bool worktrees) =>
    let evidence : MutationEvidence := ⟨root, shared, worktrees, canonicalSha256 .null⟩
    let evidenceSha256 := canonicalSha256 evidence.body
    if value.get? "evidence_sha256" ≠ some evidenceSha256.json then
      throw (schedulingError "mutation-evidence-sha256-mismatch")
    return { evidence with evidenceSha256 := evidenceSha256 }
  | _, _, _ => throw (schedulingError "mutation-evidence-values-invalid")

/-- The reply of a comparison: evidence, or an exception and whether it is caught. -/
def comparison : Reply → Except PyError MutationEvidence
  | .raised error => .error error
  | .returned value => readMutationEvidence value

/-- Caught by `except (TypeError, ValueError)`. -/
def PyError.isTypeOrValue (error : PyError) : Bool := error.kind == .type || error.kind == .value

/-- `_compare_workspaces`: the evidence, or the text of the `NativePoolError` it raises. -/
def compareWorkspaces (phase : String) : Program (Except Name MutationEvidence) := do
  let reply ← ask fun tick => world.compare tick phase
  record (.compared (comparison reply))
  match comparison reply with
  | .ok evidence => pure (.ok evidence)
  | .error error =>
    if PyError.isTypeOrValue error then
      pure (.error ((⟨"workspace-comparison-failed:", by decide⟩ : Name).append error.message))
    else throw error

def persistState : Program Unit := do
  let coord ← get
  let errors := validatePoolState (some setup.contract) coord.core.state
  when (errors ≠ []) (throw (poolError ("pool-state-invalid:" ++ joinWith ";" errors)))
  when (setup.hasStateFile = true) do
    let failure ← ask world.writeState
    raiseIf failure

/-- `build_reason_records` for the reasons and the authority of the moment. -/
def Core.reasonRecords (core : Core) : Except PyError (List ReasonRecord) :=
  buildReasonRecords core.reasons core.stop.metadata.scopeAuthority Core.detector

def refreshState (status : PoolStatus) (freeze : Bool := false) :
    Program Unit := do
  let nowNs ← monotonicNs world
  modifyTiming fun timing => timing.capture nowNs freeze
  let coord ← get
  let records ← liftExcept (Core.reasonRecords coord.core)
  modify fun coord =>
    { coord with
      core := coord.core.refresh setup coord.timing status records
      history :=
        .sealed coord.timing (coord.core.refreshed setup coord.timing status records) ::
          coord.history }
  persistState setup world

/-- The decision that `_decision_for` seals. -/
def decisionOf (core : Core) (timing : Timing) (records : List ReasonRecord)
    (decision : DecisionKind) (selected : Option Name) (actions : List PoolAction) : PoolDecision :=
  PoolDecision.sealed
    { poolId := setup.contract.poolId
      poolEpoch := setup.contract.poolEpoch
      contractSha256 := setup.contract.contractSha256
      stateSha256 := core.state.stateSha256
      decisionSequence := core.state.stateSequence
      decision := decision
      selectedChildId := selected
      deadlines := (core.children setup).map fun child => (child.childId, child.nextDeadlineNs)
      observedCallbackLatencyNs := timing.lastCallbackLatencyNs
      aggregateUsage := core.state.aggregateUsage
      reasons := core.reasons
      reasonRecords := records
      requiredControlActions := actions
      stop := core.stop.metadata
      decisionSha256 := core.state.stateSha256 }

def decisionFor (decision : DecisionKind) (selected : Option Name)
    (actions : List PoolAction) : Program Unit := do
  let coord ← get
  let records ← liftExcept (Core.reasonRecords coord.core)
  let errors := validatePoolDecision setup.contract coord.core.state
    (decisionOf setup coord.core coord.timing records decision selected actions)
  when (errors ≠ []) (throw (poolError ("pool-decision-invalid:" ++ joinWith ";" errors)))
  when (setup.hasDecisionFile = true) do
    let failure ← ask world.writeDecision
    raiseIf failure

def enterFault (setup : Setup) (request : FaultRequest) : Program Unit :=
  modify fun coord =>
    { coord with
      core := coord.core.enterFault setup request
      history := .faulted coord.core request :: coord.history }

def recordContainedFault (setup : Setup) (childId reason : Name) (projection : RecoveryProjection) :
    Program Unit := do
  let coord ← get
  modify fun coord =>
    { coord with
      core := coord.core.recordContainedFault childId reason projection
      history := .contained coord.core childId reason :: coord.history }
  when (coord.core.refusesContainment childId reason = true)
    (enterFault setup
      { reason := ⟨"contained-child-interrupt-request-failed", by decide⟩
        controlFailed := true
        affectedChildId := some childId })

/-- `str.isprintable` on one character, exact for ASCII. -/
def isPrintable (character : Char) : Bool := 32 ≤ character.toNat && character.toNat != 127

def sanitizeExceptionMessage (message : String) : String :=
  let line := (joinWith " " (words message)).toList.filter isPrintable
  if line = [] then "message-unavailable" else String.ofList (line.take 256)

/-- `RecoveryAuthorityError`. -/
def recoveryError (message : String) : PyError := ⟨.value, "RecoveryAuthorityError", message⟩

def checkedProjection (recoveryEvidenceSha256 : Option Digest)
    (projection : RecoveryProjection) : Except PyError RecoveryProjection :=
  let errors := validateFixedCohortConsumptionProjection projection
  if errors ≠ [] then
    .error (recoveryError ("consumed-recovery-action-projection-invalid:" ++ joinWith ";" errors))
  else if some projection.evidenceSha256 = recoveryEvidenceSha256 ∧
      ∃ child ∈ setup.contract.child? childId.text,
        ProjectionBound setup.contract child projection then
    .ok projection
  else .error (recoveryError "consumed-recovery-action-binding-mismatch")

/-- The part of `_try_contain_child_fault` that is guarded by `except BaseException`. -/
def consumeRecovery (reason : Name)
    (recoveryEvidenceSha256 : Option Digest) : Program (Except PyError RecoveryProjection) :=
  if setup.recoveryAuthority then do
    let answer ← ask fun tick => world.recovery tick childId reason
    match answer with
    | .error error => pure (.error error)
    | .ok projection => pure (checkedProjection setup childId recoveryEvidenceSha256 projection)
  else pure (.error (recoveryError "recovery-authority-missing"))

def tryContainChildFault (reason : Name)
    (failureClass : Option FailureClass) (recoveryEvidenceSha256 : Option Digest) :
    Program Bool := do
  let coord ← get
  let slot := coord.core.slots childId
  if slot.classified then pure slot.contained
  else if setup.contract.completionPolicy ≠ .bestEffort ∨ setup.contract.version ≠ .admittedV2 then
    pure false
  else if failureClass ≠ some .individualChildFailure ∨
      isPoolWide (removePrefix "child-protected-fault:" reason.text) = true then
    pure false
  else do
    let consumed ← consumeRecovery setup world childId reason recoveryEvidenceSha256
    match consumed with
    | .error error => do
        enterFault setup
          { reason := (⟨"child-recovery-authority-failed:", by decide⟩ : Name).append
              (error.typeName ++ ":" ++ sanitizeExceptionMessage error.message)
            controlFailed := false
            affectedChildId := some childId }
        pure true
    | .ok projection => do
        recordContainedFault setup childId reason projection
        pure true

/-- Reading, normalising and booking the evidence of a child, up to its first exception. -/
def observation (core : Core) (childId : Name) : Reply → Except PyError (ChildEvidence × Ledger)
  | .raised error => .error error
  | .returned value => do
      let evidence ← normalizeChildEvidence value
      let ledger ← core.ledger.observe childId evidence.stateSha256
        (core.state.stateSequence + 1) evidence.usage
      return (evidence, ledger)

def protectedFaultReason (evidence : ChildEvidence) : Name :=
  (⟨"child-protected-fault:", by decide⟩ : Name).append
    (evidence.reasons.head?.getD "reason-unavailable")

/-- The fault that evidence reports, contained to its child where that is possible. -/
def judgeFault (evidence : ChildEvidence) :
    Program Unit :=
  if evidence.controlLoss then
    enterFault setup
      { reason := ⟨"child-control-loss", by decide⟩
        controlFailed := true
        affectedChildId := some childId }
  else if evidence.protectedFault then do
    let contained ← tryContainChildFault setup world childId (protectedFaultReason evidence)
      evidence.failureClass evidence.recoveryEvidenceSha256
    when (contained = false)
      (enterFault setup
        { reason := protectedFaultReason evidence
          controlFailed := false
          affectedChildId := some childId })
  else pure ()

/-- The faults that `_read_evidence` enters for evidence it has booked. -/
def judgeEvidence (evidence : ChildEvidence)
    (exhausted : Bool) : Program Unit := do
  when (exhausted = true)
    (enterFault setup
      { reason := ⟨"aggregate-budget-exhausted", by decide⟩
        controlFailed := false
        requestedStopScope := .cohort
        scopePolicyRule := .cohortBudget })
  judgeFault setup world childId evidence

def readEvidence : Program Unit := do
  let reply ← ask fun tick => world.evidence tick childId
  let coord ← get
  match observation coord.core childId reply with
  | .error error =>
    if PyError.isTypeOrValue error then
      enterFault setup
        { reason := (⟨"child-evidence-failed:", by decide⟩ : Name).append error.describe
          controlFailed := true
          affectedChildId := some childId }
    else throw error
  | .ok (evidence, ledger) => do
      modify fun coord =>
        { coord with
          core := coord.core.absorb setup childId evidence ledger
          history := .evidence childId evidence :: coord.history }
      judgeEvidence setup world childId evidence
        (exhaustedBudget (ledger.aggregate setup.childIds) setup.contract.aggregateHardBudget ≠ [])
      let after ← get
      record (.judged coord.tick coord.core childId evidence after.core)

def registryCall (call : PoolLeases.Call) :
    Program (Except RegistryError (List Lease)) :=
  modifyGet fun coord =>
    let outcome :=
      perform (world.registry coord.tick) (performAll coord.registry (world.others coord.tick)) call
    (outcome.result, { coord with tick := coord.tick + 1, registry := outcome.registry })

def evidenceIdentifier (text : String) : String :=
  let plain := fun (character : Char) =>
    character.toNat < 128 && (character.isAlphanum || character ∈ ['.', '_', '-'])
  if 1 ≤ text.length ∧ text.length ≤ 128 ∧ text.toList.all plain = true then text
  else "sha256-" ++ (canonicalSha256 (.obj [("identifier", .str text)])).hex

def poolLeaseErrorCodes : List String :=
  ["boot-identity-empty", "boot-identity-unavailable", "integration-target-lease-collision",
    "invalid-lease-time", "lease-child-unknown", "lease-id-already-active",
    "lease-identity-invalid", "lease-invalid", "lease-not-found",
    "lease-registry-artifact-invalid", "lease-registry-duplicate-lease-id",
    "lease-registry-fields-invalid", "lease-registry-header-invalid",
    "lease-registry-leases-invalid", "lease-registry-lock-is-symlink",
    "lease-registry-path-is-symlink", "lease-registry-rollback-failed",
    "lease-registry-sha256-mismatch", "lease-registry-unreadable", "lease-registry-write-failed",
    "lease-release-requires-completed-or-closed-pool", "lease-time-must-be-timezone-aware",
    "lease-transition-not-allowed", "lease-transition-invalid", "owner-pid-invalid",
    "pool-contract-invalid", "process-identity-incomplete", "process-identity-malformed",
    "process-identity-unavailable", "process-start-ticks-invalid",
    "released-lease-cannot-transition", "stale-lease-transition-invalid",
    "terminal-pool-state-invalid", "worktree-lease-collision"]

def poolLeaseErrorEvidence (error : PyError) : String × Digest :=
  let message := sanitizeExceptionMessage error.message
  let candidate := beforeColon message
  (if candidate ∈ poolLeaseErrorCodes then candidate else "unclassified",
    canonicalSha256 (.obj [("error_type", .str error.typeName), ("message", .str message)]))

/-- The registry operations whose failure is recorded, with their reason and target. -/
inductive LeaseOperation where
  | acquire
  | hold
  | markReleasePending
  | release

namespace LeaseOperation

def label : LeaseOperation → Name
  | acquire => ⟨"lease-acquisition-failed", by decide⟩
  | hold => ⟨"lease-hold-failed", by decide⟩
  | markReleasePending => ⟨"lease-release-pending-failed", by decide⟩
  | release => ⟨"lease-release-failed", by decide⟩

def target : LeaseOperation → LeaseState
  | acquire => .acquired
  | hold => .held
  | markReleasePending => .releasePending
  | release => .released

end LeaseOperation

def leaseIdOf : String :=
  match setup.contract.child? childId.text with
  | some child => child.leaseId.text
  | none => ""

def recordLeaseFailure (operation : LeaseOperation)
    (error : PyError) (controlFailed : Bool) : Program Unit :=
  let evidence := poolLeaseErrorEvidence error
  enterFault setup
    { reason := operation.label.append (joinWith ":"
        ["", "child=" ++ evidenceIdentifier childId.text,
          "lease=" ++ evidenceIdentifier (leaseIdOf setup childId),
          "target=" ++ operation.target.text, "error=" ++ evidence.1,
          "evidence=" ++ evidence.2.hex])
      controlFailed := controlFailed
      affectedChildId := some childId }

/-- Store the lease that a registry call returns, or record its failure. -/
def settleLease (operation : LeaseOperation) :
    Except RegistryError (List Lease) → Program Unit
  | .ok leases =>
    match leases with
    | lease :: _ => modifyCore (Core.setLease childId lease)
    | [] => pure ()
  | .error error =>
    if error.isLeaseError then recordLeaseFailure setup childId operation error.error true
    else throw error.error

/-- The lease of a child polled for the first time is held from now on. -/
def holdLease : Program Unit := do
  let coord ← get
  match (coord.core.slots childId).lease, setup.contract.child? childId.text with
  | some _, some child => do
      let result ← registryCall world (.hold child.leaseId)
      settleLease setup childId .hold result
  | _, _ => pure ()

def recordPoll (nowNs : Nat) : Program Unit := do
  let coord ← get
  let slot := coord.core.slots childId
  when (slot.lastPollNs = none ∧ slot.submissionNs = none)
    (enterFault setup
      { reason := ⟨"first-poll-before-submission", by decide⟩
        controlFailed := true
        requestedStopScope := .executionPath
        scopePolicyRule := .executionIntegrity
        affectedChildId := some childId })
  let sinceNs := (slot.lastPollNs.or slot.submissionNs).getD nowNs
  when (nowNs < sinceNs)
    (enterFault setup
      { reason := ⟨"nonmonotonic-poll-clock", by decide⟩
        controlFailed := true
        requestedStopScope := .executionPath
        scopePolicyRule := .executionIntegrity })
  modifyCore fun core => { core with maxPollGapNs := max core.maxPollGapNs (nowNs - sinceNs) }
  when ((setup.contract.pollIntervalMs + setup.contract.pollLagToleranceMs) * 1000000 <
      nowNs - sinceNs)
    (enterFault setup
      { reason := ⟨"maximum-poll-gap-exceeded", by decide⟩
        controlFailed := false
        requestedStopScope := .cohort
        scopePolicyRule := .cohortControl })
  modifyCore (Core.recordPolled setup childId nowNs)
  when (slot.firstPoll = false) (holdLease setup world childId)

end WorkOrchestration.Native.Coordinator
