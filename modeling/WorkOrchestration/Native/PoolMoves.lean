import WorkOrchestration.Native.CoordinatorSteps

/-!
# Moves of the pool coordinator

What the programs of the coordinator can do to it, between two seals and apart from stepping a control
turn: a list of single updates. So an invariant is checked update by update.
-/

namespace WorkOrchestration.Native.Coordinator

open Lib.Programs Lib.Text Artifacts Accounting Recovery PoolContracts
open PoolStates
open PoolLeases (Lease LeaseState RegistryError)
open PoolReceipts Control Scheduler Pool

/-- The circumstances under which a fault of a child is contained. -/
structure Containable (setup : Setup) (core : Core) (childId : Name)
    (projection : RecoveryProjection) : Prop where
  unclassified : (core.slots childId).classified = false
  bestEffort : setup.contract.completionPolicy = .bestEffort
  admitted : setup.contract.version = .admittedV2
  valid : validateFixedCohortConsumptionProjection projection = []
  bound : ∃ child ∈ setup.contract.child? childId.text,
    ProjectionBound setup.contract child projection
  notWaiting : (core.slots childId).turn.phase ≠ .waitingCloseInterrupt

variable (setup : Setup) (world : World) (tick : Nat)

/-- The recovery store, asked at the given question, refuses to contain the child. -/
def RefusesRecovery (childId : Name)
    (evidence : ChildEvidence) : Prop :=
  setup.recoveryAuthority = false ∨
    ∀ projection, world.recovery tick childId (protectedFaultReason evidence) = .ok projection →
      checkedProjection setup childId evidence.recoveryEvidenceSha256 projection ≠ .ok projection

/-- The budget of the cohort is exhausted once the evidence is booked. -/
def Exhausts (setup : Setup) (before : Core) (childId : Name) (evidence : ChildEvidence) : Prop :=
  ∃ ledger, before.ledger.observe childId evidence.stateSha256 (before.state.stateSequence + 1)
      evidence.usage = .ok ledger ∧
    exhaustedBudget (ledger.aggregate setup.childIds) setup.contract.aggregateHardBudget ≠ []

/-- A protected fault of a child that the coordinator does not contain. -/
def Escalates (before : Core) (childId : Name)
    (evidence : ChildEvidence) : Prop :=
  if (before.slots childId).classified then (before.slots childId).contained = false
  else
    setup.contract.completionPolicy ≠ .bestEffort ∨ setup.contract.version ≠ .admittedV2 ∨
      evidence.failureClass ≠ some .individualChildFailure ∨
      isPoolWide (evidence.reasons.head?.getD "reason-unavailable") = true ∨
      RefusesRecovery setup world tick childId evidence ∨
      before.refusesContainment childId (protectedFaultReason evidence) = true

/-- The circumstances under which evidence leaves the coordinator under a pool-wide fault. -/
def Latches (before : Core) (childId : Name)
    (evidence : ChildEvidence) : Prop :=
  before.protectedFault = true ∨ Exhausts setup before childId evidence ∨
    evidence.controlLoss = true ∨
    evidence.protectedFault = true ∧ Escalates setup world tick before childId evidence

/-- One update of a coordinator that neither steps a control turn nor seals a state. -/
inductive Move (setup : Setup) (world : World) (before : Coord) : Coord → Prop where
  | aside (timing : Timing) (tick : Nat) (registry : List Lease)
      (books : timing.books = before.timing.books) (later : before.tick ≤ tick) :
      Move setup world before { before with timing := timing, tick := tick, registry := registry }
  | faulted (request : FaultRequest) :
      Move setup world before
        { before with
          core := before.core.enterFault setup request
          history := .faulted before.core request :: before.history }
  | contained (childId reason : Name) (projection : RecoveryProjection)
      (containable : Containable setup before.core childId projection) :
      Move setup world before
        { before with
          core := before.core.recordContainedFault childId reason projection
          history := .contained before.core childId reason :: before.history }
  | absorbed (childId : Name) (evidence : ChildEvidence) (ledger : Ledger)
      (booked : before.core.ledger.observe childId evidence.stateSha256
        (before.core.state.stateSequence + 1) evidence.usage = .ok ledger) :
      Move setup world before
        { before with
          core := before.core.absorb setup childId evidence ledger
          history := .evidence childId evidence :: before.history }
  | judged (tick : Nat) (core : Core) (childId : Name) (evidence : ChildEvidence)
      (latched : before.core.protectedFault = true ↔
        Latches setup world tick core childId evidence) :
      Move setup world before
        { before with
          history := .judged tick core childId evidence before.core :: before.history }
  | compared (result : Except PyError MutationEvidence) :
      Move setup world before { before with history := .compared result :: before.history }
  | mutationRead (evidence : MutationEvidence) :
      Move setup world before
        { before with core := { before.core with lastMutationEvidence := evidence } }
  | readOnlyCheck (deferred : Bool) :
      Move setup world before
        { before with core := { before.core with deferredReadOnlyWorkspaceCheck := deferred } }
  | fastPathRevoked :
      Move setup world before { before with core := before.core.invalidateFastPath }
  | comparisonComplete :
      Move setup world before
        { before with core := { before.core with terminalComparisonComplete := true } }
  | submitted (childId : Name) (endedNs : Nat) :
      Move setup world before
        { before with
          core := before.core.updateSlot childId fun slot =>
            { slot with submissionNs := some endedNs } }
  | archiveDeferred (childId : Name) (endedNs : Nat) :
      Move setup world before
        { before with
          core := before.core.updateSlot childId
            (Slot.deferred endedNs (setup.contract.pollIntervalMs * 1000000)) }
  | pollGap (gapNs : Nat) :
      Move setup world before
        { before with
          core := { before.core with maxPollGapNs := max before.core.maxPollGapNs gapNs } }
  | polled (childId : Name) (nowNs : Nat) :
      Move setup world before { before with core := before.core.recordPolled setup childId nowNs }
  | leased (childId : Name) (lease : Lease) :
      Move setup world before { before with core := before.core.setLease childId lease }
  | leasedAll (leases : List Lease) :
      Move setup world before { before with core := before.core.setLeases leases }
  | requestSeen :
      Move setup world before { before with core := { before.core with controlRequestSeen := true } }

variable {setup : Setup} {world : World} {assertion fail : Coord → Prop} {α : Type}

/-! ## Programs that ask and decide -/

theorem triple_ask {answers : Nat → α} {post : α → Coord → Prop}
    (holds : ∀ coord, assertion coord →
      post (answers coord.tick) { coord with tick := coord.tick + 1 }) :
    Triple assertion (ask answers) post fail :=
  Triple.modifyGet holds

theorem triple_liftExcept {result : Except PyError α} {post : α → Coord → Prop}
    (returns : ∀ value, result = .ok value → ∀ coord, assertion coord → post value coord)
    (raises : ∀ coord, assertion coord → fail coord) :
    Triple assertion (liftExcept result) post fail := by
  cases result with
  | ok value => exact Triple.pure (returns value rfl)
  | error error => exact Triple.throw raises

theorem triple_when {condition : Prop} [Decidable condition] {program : Program Unit}
    {post : Unit → Coord → Prop} (holds : condition → Triple assertion program post fail)
    (skips : ¬ condition → ∀ coord, assertion coord → post () coord) :
    Triple assertion (when condition program) post fail := by
  unfold when
  split
  · rename_i met
    exact holds met
  · rename_i unmet
    exact Triple.pure (skips unmet)

theorem keeps_ask (answers : Nat → α) : Keeps (Move setup world) (ask answers) :=
  ⟨fun closed => triple_ask fun coord holds =>
    closed coord _ holds (.aside coord.timing (coord.tick + 1) coord.registry rfl (Nat.le_succ _))⟩

theorem keeps_liftExcept (result : Except PyError α) : Keeps (Move setup world) (liftExcept result) :=
  ⟨fun _ => triple_liftExcept (fun _ _ _ holds => holds) fun _ holds => holds⟩

theorem keeps_when {condition : Prop} [Decidable condition] {program : Program Unit}
    (keeps : condition → Keeps (Move setup world) program) : Keeps (Move setup world) (when condition program) :=
  ⟨fun closed => triple_when (fun met => (keeps met).triple closed) fun _ _ holds => holds⟩

theorem keeps_modifyTiming {update : Timing → Timing}
    (books : ∀ timing, (update timing).books = timing.books) :
    Keeps (Move setup world) (modifyTiming update) :=
  Keeps.modify fun coord =>
    .aside (update coord.timing) coord.tick coord.registry (books coord.timing) le_rfl

theorem keeps_monotonicNs : Keeps (Move setup world) (monotonicNs world) :=
  Keeps.bind (keeps_ask _) fun _ => keeps_liftExcept _

theorem keeps_enterFault (request : FaultRequest) : Keeps (Move setup world) (enterFault setup request) :=
  Keeps.modify fun _ => .faulted request

theorem keeps_modifyCore {update : Core → Core}
    (moves : ∀ coord : Coord, Move setup world coord { coord with core := update coord.core }) :
    Keeps (Move setup world) (modifyCore update) :=
  Keeps.modify moves

/-! ## Comparisons -/

theorem keeps_compareWorkspaces (phase : String) :
    Keeps (Move setup world) (compareWorkspaces world phase) := by
  refine Keeps.bind (keeps_ask _) fun reply => ?_
  refine Keeps.bind (Keeps.modify fun _ => .compared _) fun _ => ?_
  split
  · exact Keeps.pure
  · split
    · exact Keeps.pure
    · exact Keeps.throw

theorem keeps_invalidateFastPathIfAny :
    Keeps (Move setup world) (modifyCore (Core.invalidateFastPathIfAny setup)) := by
  refine keeps_modifyCore fun coord => ?_
  unfold Core.invalidateFastPathIfAny
  split
  · exact .fastPathRevoked
  · exact .aside coord.timing coord.tick coord.registry rfl le_rfl

theorem keeps_compareAfterCallback (childId : Name) (callback : Callback) :
    Keeps (Move setup world) (compareAfterCallback setup world childId callback) := by
  refine Keeps.bind (keeps_compareWorkspaces _) fun compared => ?_
  cases compared with
  | ok evidence =>
    refine Keeps.bind (keeps_modifyCore fun _ => .mutationRead evidence) fun _ => ?_
    split
    · exact keeps_modifyCore fun _ => .readOnlyCheck false
    · exact Keeps.bind keeps_invalidateFastPathIfAny fun _ => keeps_enterFault _
  | error reason => exact Keeps.bind keeps_invalidateFastPathIfAny fun _ => keeps_enterFault _

theorem keeps_compareTerminalWorkspaces :
    Keeps (Move setup world) (compareTerminalWorkspaces setup world) := by
  refine Keeps.bind (keeps_compareWorkspaces _) fun compared => ?_
  cases compared with
  | ok evidence =>
    refine Keeps.bind (keeps_modifyCore fun _ => .mutationRead evidence) fun _ => ?_
    refine Keeps.bind (keeps_when fun _ => ?_) fun _ =>
      keeps_modifyCore fun _ => .comparisonComplete
    exact Keeps.bind keeps_invalidateFastPathIfAny fun _ => keeps_enterFault _
  | error reason => exact Keeps.bind keeps_invalidateFastPathIfAny fun _ => keeps_enterFault _

theorem keeps_compareDeferredWorkspace :
    Keeps (Move setup world) (compareDeferredWorkspace setup world) := by
  refine Keeps.get_bind fun coord => ?_
  split
  · exact Keeps.pure
  · refine Keeps.bind (keeps_compareWorkspaces _) fun compared => ?_
    cases compared with
    | ok evidence =>
      refine Keeps.bind (keeps_modifyCore fun _ => .mutationRead evidence) fun _ => ?_
      refine Keeps.bind (keeps_when fun _ => ?_) fun _ =>
        keeps_modifyCore fun _ => .comparisonComplete
      exact Keeps.bind (keeps_modifyCore fun _ => .fastPathRevoked) fun _ => keeps_enterFault _
    | error reason =>
      exact Keeps.bind (keeps_modifyCore fun _ => .fastPathRevoked) fun _ => keeps_enterFault _

/-! ## Leases -/

theorem keeps_registryCall (call : PoolLeases.Call) :
    Keeps (Move setup world) (registryCall world call) :=
  ⟨fun closed => Triple.modifyGet fun coord holds =>
    closed coord _ holds (.aside coord.timing _ _ rfl (Nat.le_succ _))⟩

theorem keeps_recordLeaseFailure (childId : Name) (operation : LeaseOperation) (error : PyError)
    (controlFailed : Bool) :
    Keeps (Move setup world) (recordLeaseFailure setup childId operation error controlFailed) :=
  keeps_enterFault _

theorem keeps_settleLease (childId : Name) (operation : LeaseOperation)
    (result : Except RegistryError (List Lease)) :
    Keeps (Move setup world) (settleLease setup childId operation result) := by
  unfold settleLease
  split
  · split
    · exact keeps_modifyCore fun _ => .leased childId _
    · exact Keeps.pure
  · split
    · exact keeps_recordLeaseFailure childId operation _ true
    · exact Keeps.throw

theorem keeps_holdLease (childId : Name) : Keeps (Move setup world) (holdLease setup world childId) := by
  refine Keeps.get_bind fun coord => ?_
  split
  · exact Keeps.bind (keeps_registryCall _) fun _ => keeps_settleLease childId .hold _
  · exact Keeps.pure

theorem keeps_markReleasePending (terminalSha256 : Digest) (childId : Name) :
    Keeps (Move setup world) (markReleasePending setup world terminalSha256 childId) := by
  refine Keeps.get_bind fun coord => ?_
  split
  · exact Keeps.pure
  · split
    · exact Keeps.pure
    · exact Keeps.bind (keeps_registryCall _) fun _ => keeps_settleLease childId _ _

theorem keeps_releaseNext (childIds : List Name) (attempted : Bool) :
    Keeps (Move setup world) (releaseNext setup world childIds attempted) := by
  induction childIds generalizing attempted with
  | nil => exact Keeps.pure
  | cons childId rest ih =>
    refine Keeps.get_bind fun coord => ?_
    split
    · exact ih attempted
    · split
      · exact ih attempted
      · refine Keeps.bind (keeps_registryCall _) fun result => ?_
        refine Keeps.bind (keeps_settleLease childId .release result) fun _ => ?_
        cases result with
        | ok leases => exact Keeps.pure
        | error error => exact ih true

/-! ## Polls and requests -/

theorem keeps_recordPoll (childId : Name) (nowNs : Nat) :
    Keeps (Move setup world) (recordPoll setup world childId nowNs) := by
  refine Keeps.get_bind fun coord => ?_
  refine Keeps.bind (keeps_when fun _ => keeps_enterFault _) fun _ => ?_
  refine Keeps.bind (keeps_when fun _ => keeps_enterFault _) fun _ => ?_
  refine Keeps.bind (keeps_modifyCore fun _ => .pollGap _) fun _ => ?_
  refine Keeps.bind (keeps_when fun _ => keeps_enterFault _) fun _ => ?_
  refine Keeps.bind (keeps_modifyCore fun _ => .polled childId nowNs) fun _ => ?_
  exact keeps_when fun _ => keeps_holdLease childId

theorem keeps_consumeControlRequest : Keeps (Move setup world) (consumeControlRequest setup world) := by
  refine Keeps.get_bind fun coord => ?_
  split
  · exact Keeps.pure
  · refine Keeps.bind (keeps_ask _) fun found => ?_
    cases found with
    | absent => exact Keeps.pure
    | raised error =>
      refine Keeps.bind (keeps_modifyCore fun _ => .requestSeen) fun _ => ?_
      split
      · exact Keeps.bind (keeps_enterFault _) fun _ => Keeps.pure
      · split
        · exact Keeps.bind (keeps_enterFault _) fun _ => Keeps.pure
        · exact Keeps.throw
    | request request =>
      refine Keeps.bind (keeps_modifyCore fun _ => .requestSeen) fun _ => ?_
      exact Keeps.bind (keeps_enterFault _) fun _ => Keeps.pure

theorem keeps_verifyStateWatermark : Keeps (Move setup world) (verifyStateWatermark setup world) := by
  unfold verifyStateWatermark
  split
  · refine Keeps.bind (keeps_ask _) fun reading => ?_
    cases reading with
    | current | unreadable | mismatch => exact Keeps.pure
    | raised error => exact Keeps.throw
  · exact Keeps.pure

theorem keeps_runtimeCapabilityErrors :
    Keeps (Move setup world) (runtimeCapabilityErrors setup world) := by
  refine Keeps.get_bind fun coord => ?_
  split
  · exact Keeps.bind (keeps_ask _) fun _ => keeps_liftExcept _
  · exact Keeps.pure

theorem keeps_blameAcquisition (error : RegistryError) :
    Keeps (Move setup world) (blameAcquisition setup error) := by
  unfold blameAcquisition
  split
  · exact Keeps.bind (keeps_recordLeaseFailure _ _ _ _) fun _ => Keeps.pure
  · exact Keeps.pure

theorem keeps_acquireLeases : Keeps (Move setup world) (acquireLeases setup world) := by
  refine Keeps.get_bind fun coord => ?_
  split
  · exact Keeps.bind (keeps_enterFault _) fun _ => Keeps.pure
  · refine Keeps.bind (keeps_registryCall _) fun result => ?_
    cases result with
    | ok leases => exact Keeps.bind (keeps_modifyCore fun _ => .leasedAll leases) fun _ => Keeps.pure
    | error error =>
      simp only
      split
      · exact keeps_blameAcquisition error
      · exact Keeps.throw

/-! ## What an update does to the control turns -/

theorem requestInterrupt_phase (turn : Turn) (reason : String) :
    (turn.requestInterrupt reason).1.phase = turn.phase ∨
      (turn.requestInterrupt reason).1.phase = .interrupt := by
  rcases Turn.requestInterrupt_cases turn reason with same | ⟨_, _, moved⟩
  · exact .inl (by rw [same])
  · exact .inr (by rw [moved, Turn.redirected_phase])

theorem interruptRequested_turn (slot : Slot) (reason : String) :
    (slot.interruptRequested reason).turn = (slot.turn.requestInterrupt reason).1 := by
  unfold Slot.interruptRequested
  split <;> simp_all

theorem stopped_turn (slot : Slot) (reason : String) :
    (slot.stopped reason).turn = slot.turn ∨
      slot.isRedirected = true ∧
        (slot.stopped reason).turn = (slot.turn.requestInterrupt reason).1 := by
  unfold Slot.stopped
  split
  · exact .inl rfl
  · split
    · rename_i redirected
      exact .inr ⟨redirected, interruptRequested_turn slot reason⟩
    · exact .inl rfl

theorem enterFault_phase (setup : Setup) (request : FaultRequest) (core : Core) (childId : Name) :
    ((core.enterFault setup request).slots childId).turn.phase = (core.slots childId).turn.phase ∨
      ((core.enterFault setup request).slots childId).turn.phase = .interrupt := by
  rcases stopped_turn ((core.slots childId).condemned request childId) request.reason.text with
    same | ⟨_, moved⟩
  · exact .inl (congrArg Turn.phase same)
  · rw [Core.enterFault]
    simp only [moved]
    exact requestInterrupt_phase _ _

theorem absorb_turn (childId : Name) (evidence : ChildEvidence) (ledger : Ledger) (core : Core)
    (other : Name) :
    ((core.absorb setup childId evidence ledger).slots other).turn = (core.slots other).turn := by
  simp only [Core.absorb, Core.updateSlot, Function.update_apply]
  split
  · rename_i same
    rw [same]
    rfl
  · rfl

/-! ## Evidence -/

theorem observation_booked {core : Core} {childId : Name} {reply : Reply}
    {evidence : ChildEvidence} {ledger : Ledger}
    (read : observation core childId reply = .ok (evidence, ledger)) :
    core.ledger.observe childId evidence.stateSha256 (core.state.stateSequence + 1)
      evidence.usage = .ok ledger := by
  cases reply with
  | raised error => cases read
  | returned value =>
    obtain ⟨normalized, _, rest⟩ := bind_ok read
    obtain ⟨booked, accepted, done⟩ := bind_ok rest
    cases done
    exact accepted

variable {childId : Name}

def NotWaiting (childId : Name) (coord : Coord) : Prop :=
  (coord.core.slots childId).turn.phase ≠ .waitingCloseInterrupt

theorem notWaiting_enterFault {coord : Coord} {request : FaultRequest} {history : List Event}
    (active : NotWaiting childId coord) :
    NotWaiting childId
      { coord with core := coord.core.enterFault setup request, history := history } := by
  rcases enterFault_phase setup request coord.core childId with same | interrupt
  · intro waiting
    exact active (same ▸ waiting)
  · intro waiting
    rw [interrupt] at waiting
    cases waiting

variable (closed : Closed (Move setup world) assertion)

include closed in
theorem triple_recordContainedFault {reason : Name} {projection : RecoveryProjection} :
    Triple (fun coord => assertion coord ∧ Containable setup coord.core childId projection)
      (recordContainedFault setup childId reason projection) (fun _ => assertion) assertion := by
  refine Triple.get_bind fun coord ⟨holds, containable⟩ => ?_
  refine Triple.bind (m := fun _ => assertion) (Triple.modify ?_) fun _ => ?_
  · rintro _ rfl
    exact closed _ _ holds (.contained childId reason projection containable)
  · exact (keeps_when fun _ => keeps_enterFault _).triple closed

variable {sha256 : Option Digest}

theorem checkedProjection_eq_ok {projection checked : RecoveryProjection}
    (accepted : checkedProjection setup childId sha256 projection = .ok checked) :
    checked = projection ∧ validateFixedCohortConsumptionProjection projection = [] ∧
      ∃ child ∈ setup.contract.child? childId.text,
        ProjectionBound setup.contract child projection := by
  unfold checkedProjection at accepted
  simp only at accepted
  split at accepted
  · cases accepted
  · rename_i valid
    split at accepted
    · rename_i bound
      cases accepted
      exact ⟨rfl, Decidable.not_not.mp valid, bound.2⟩
    · cases accepted

theorem triple_consumeRecovery {reason : Name}
    (asked : ∀ coord, assertion coord → assertion { coord with tick := coord.tick + 1 }) :
    Triple assertion (consumeRecovery setup world childId reason sha256)
      (fun answer coord => assertion coord ∧ ∀ projection, answer = .ok projection →
        validateFixedCohortConsumptionProjection projection = [] ∧
          ∃ child ∈ setup.contract.child? childId.text,
            ProjectionBound setup.contract child projection)
      fail := by
  unfold consumeRecovery
  split
  · refine Triple.bind (m := fun _ => assertion) (triple_ask asked) fun answer => ?_
    cases answer with
    | error error => exact Triple.pure fun coord holds => ⟨holds, fun _ refused => by cases refused⟩
    | ok projection =>
      refine Triple.pure fun coord holds => ⟨holds, fun checked accepted => ?_⟩
      obtain ⟨rfl, valid, bound⟩ := checkedProjection_eq_ok accepted
      exact ⟨valid, bound⟩
  · exact Triple.pure fun coord holds => ⟨holds, fun _ refused => by cases refused⟩

include closed in
theorem triple_tryContainChildFault {reason : Name} {failureClass : Option FailureClass} :
    Triple (fun coord => assertion coord ∧ NotWaiting childId coord)
      (tryContainChildFault setup world childId reason failureClass sha256) (fun _ => assertion)
      assertion := by
  refine Triple.get_bind fun coord ⟨holds, active⟩ => ?_
  simp only
  split
  · exact Triple.pure fun _ same => same ▸ holds
  rename_i unclassified
  split
  · exact Triple.pure fun _ same => same ▸ holds
  rename_i containing
  split
  · exact Triple.pure fun _ same => same ▸ holds
  obtain ⟨bestEffort, admitted⟩ := not_or.mp containing
  -- asking the recovery store changes nothing but the count of questions
  let unmoved := fun current : Coord => assertion current ∧ current.core = coord.core
  refine Triple.bind
    ((triple_consumeRecovery (?_ : ∀ current, unmoved current →
        unmoved { current with tick := current.tick + 1 })).consequence
      (fun current same => same ▸ ⟨holds, rfl⟩) (fun _ _ => id) fun _ => id) fun answer => ?_
  · rintro current ⟨kept, same⟩
    exact ⟨closed _ _ kept
      (.aside current.timing (current.tick + 1) current.registry rfl (Nat.le_succ _)), same⟩
  · cases answer with
    | error error =>
      refine Triple.bind (m := fun _ => assertion) ?_ fun _ => Triple.pure fun _ kept => kept
      exact ((keeps_enterFault _).triple closed).consequence (fun _ kept => kept.1.1)
        (fun _ _ => id) fun _ => id
    | ok projection =>
      refine Triple.bind (m := fun _ => assertion) ?_ fun _ => Triple.pure fun _ kept => kept
      refine (triple_recordContainedFault closed).consequence (fun current kept => ?_)
        (fun _ _ => id) fun _ => id
      obtain ⟨⟨kept, same⟩, checked⟩ := kept
      obtain ⟨valid, bound⟩ := checked projection rfl
      rw [same]
      exact ⟨kept, by simpa using unclassified, Decidable.not_not.mp bestEffort,
        Decidable.not_not.mp admitted, valid, bound, active⟩

variable {evidence : ChildEvidence}

include closed in
theorem triple_judgeFault :
    Triple (fun coord => assertion coord ∧ NotWaiting childId coord)
      (judgeFault setup world childId evidence) (fun _ => assertion) assertion := by
  unfold judgeFault
  split
  · exact ((keeps_enterFault _).triple closed).consequence (fun _ holds => holds.1)
      (fun _ _ => id) fun _ => id
  · split
    · refine Triple.bind (triple_tryContainChildFault closed) fun contained => ?_
      exact (keeps_when fun _ => keeps_enterFault _).triple closed
    · exact Triple.pure fun _ holds => holds.1

include closed in
theorem triple_judgeEvidence {exhausted : Bool} :
    Triple (fun coord => assertion coord ∧ NotWaiting childId coord)
      (judgeEvidence setup world childId evidence exhausted) (fun _ => assertion) assertion := by
  refine Triple.bind (m := fun _ coord => assertion coord ∧ NotWaiting childId coord)
    (triple_when (fun _ => Triple.modify ?_) fun _ _ holds => holds) fun _ =>
      triple_judgeFault closed
  rintro coord ⟨holds, active⟩
  exact ⟨closed _ _ holds (.faulted _), notWaiting_enterFault active⟩

variable {core : Core} {tick : Nat}

/-- The recovery store refuses exactly when no checked projection comes back. -/
theorem triple_consumeRecovery_latch :
    Triple (fun coord : Coord => coord.core = core ∧ coord.tick = tick)
      (consumeRecovery setup world childId (protectedFaultReason evidence)
        evidence.recoveryEvidenceSha256)
      (fun answer coord => coord.core = core ∧
        ((∃ projection, answer = .ok projection) ↔
          ¬ RefusesRecovery setup world tick childId evidence))
      (fun _ => True) := by
  unfold consumeRecovery
  split
  · rename_i present
    refine Triple.bind (m := fun answer coord => coord.core = core ∧
        answer = world.recovery tick childId (protectedFaultReason evidence))
      (triple_ask fun coord ⟨same, asked⟩ => ⟨same, by rw [asked]⟩) fun answer => ?_
    cases answer with
    | error error =>
      refine Triple.pure fun coord ⟨same, answered⟩ => ⟨same, ?_⟩
      simp [RefusesRecovery, ← answered]
    | ok projection =>
      refine Triple.pure fun coord ⟨same, answered⟩ => ⟨same, ?_⟩
      simp only [RefusesRecovery, ← answered, present]
      constructor
      · rintro ⟨checked, accepted⟩ (absent | refused)
        · cases absent
        · obtain ⟨rfl, _, _⟩ := checkedProjection_eq_ok accepted
          exact refused checked rfl accepted
      · intro answers
        by_contra refused
        refine answers (.inr fun other same => ?_)
        cases same
        exact fun accepted => refused ⟨projection, accepted⟩
  · rename_i absent
    refine Triple.pure fun coord ⟨same, _⟩ => ⟨same, ?_⟩
    simp [RefusesRecovery, absent]

/-- Containing a child fault fails, or raises a pool-wide fault, exactly when it escalates. -/
theorem triple_tryContainChildFault_latch :
    Triple (fun coord : Coord => coord.core = core ∧ coord.tick = tick)
      (tryContainChildFault setup world childId (protectedFaultReason evidence)
        evidence.failureClass evidence.recoveryEvidenceSha256)
      (fun contained coord =>
        (contained = false → Escalates setup world tick core childId evidence) ∧
        (contained = true → (coord.core.protectedFault = true ↔
          core.protectedFault = true ∨ Escalates setup world tick core childId evidence)))
      (fun _ => True) := by
  refine Triple.get_bind fun coord ⟨same, asked⟩ => ?_
  subst same
  simp only
  split
  · rename_i classified
    refine Triple.pure ?_
    rintro _ rfl
    rw [Escalates, if_pos classified]
    exact ⟨id, fun contained => by simp [contained]⟩
  rename_i unclassified
  split
  · rename_i uncontained
    refine Triple.pure fun _ _ => ?_
    have escalates : Escalates setup world tick coord.core childId evidence := by
      rw [Escalates, if_neg unclassified]
      exact uncontained.elim .inl fun version => .inr (.inl version)
    exact ⟨fun _ => escalates, nofun⟩
  rename_i containing
  split
  · rename_i unfit
    refine Triple.pure fun _ _ => ?_
    have escalates : Escalates setup world tick coord.core childId evidence := by
      rw [Escalates, if_neg unclassified]
      rw [protectedFaultReason, Name.append_text, removePrefix_append] at unfit
      exact .inr (.inr (unfit.elim .inl fun wide => .inr (.inl wide)))
    exact ⟨fun _ => escalates, nofun⟩
  rename_i fit
  rw [protectedFaultReason, Name.append_text, removePrefix_append] at fit
  obtain ⟨bestEffort, admitted⟩ := not_or.mp containing
  obtain ⟨individual, narrow⟩ := not_or.mp fit
  have escalates_iff : Escalates setup world tick coord.core childId evidence ↔
      RefusesRecovery setup world tick childId evidence ∨
        coord.core.refusesContainment childId (protectedFaultReason evidence) = true := by
    rw [Escalates, if_neg unclassified]
    simp only [bestEffort, admitted, individual, narrow]
    simp
  refine Triple.bind (triple_consumeRecovery_latch.consequence
    (fun _ same => by subst same; exact ⟨rfl, asked⟩) (fun _ _ => id) fun _ => id) fun answer => ?_
  cases answer with
  | error error =>
    refine Triple.bind (m := fun _ coord' => coord'.core.protectedFault = true ∧
        RefusesRecovery setup world tick childId evidence) (Triple.modify ?_) fun _ => ?_
    · rintro current ⟨_, refused⟩
      refine ⟨rfl, ?_⟩
      by_contra accepted
      obtain ⟨_, impossible⟩ := refused.mpr accepted
      cases impossible
    · refine Triple.pure fun _ ⟨latched, refused⟩ => ⟨nofun, ?_⟩
      simp [latched, escalates_iff, refused]
  | ok projection =>
    refine Triple.bind (m := fun _ coord' => coord'.core.protectedFault = true ↔
        coord.core.protectedFault = true ∨
          Escalates setup world tick coord.core childId evidence) ?_ fun _ =>
      Triple.pure fun _ latched => ⟨nofun, fun _ => latched⟩
    refine Triple.get_bind fun current ⟨same, accepted⟩ => ?_
    have unrefused := accepted.mp ⟨projection, rfl⟩
    refine Triple.bind (m := fun _ coord' =>
        coord'.core.protectedFault = coord.core.protectedFault) (Triple.modify ?_) fun _ => ?_
    · simp [Core.recordContainedFault, same]
    · refine triple_when (fun refused => Triple.modify fun _ _ => ?_) fun accepts _ kept => ?_
      · rw [same] at refused
        simp [Core.enterFault, escalates_iff, refused]
      · rw [same] at accepts
        simp [kept, escalates_iff, unrefused, accepts]

theorem absorb_latch {ledger : Ledger} :
    Escalates setup world tick (core.absorb setup childId evidence ledger) childId evidence ↔
      Escalates setup world tick core childId evidence := by
  simp [Escalates, Core.absorb, Core.updateSlot, Slot.observed, Core.refusesContainment,
    Slot.isContainmentRedirected, Slot.refusesInterrupt]

theorem triple_judgeFault_latch :
    Triple (fun coord : Coord => coord.core = core ∧ coord.tick = tick)
      (judgeFault setup world childId evidence)
      (fun _ coord => coord.core.protectedFault = true ↔
        core.protectedFault = true ∨ evidence.controlLoss = true ∨
          evidence.protectedFault = true ∧ Escalates setup world tick core childId evidence)
      (fun _ => True) := by
  unfold judgeFault
  split
  · rename_i loss
    refine Triple.modify fun coord _ => ?_
    simp [Core.enterFault, loss]
  rename_i unlost
  split
  · rename_i faulty
    refine Triple.bind triple_tryContainChildFault_latch fun contained => ?_
    refine triple_when (fun refused => Triple.modify fun coord holds => ?_) fun accepted coord holds => ?_
    · simp [Core.enterFault, faulty, holds.1 refused]
    · simp [holds.2 (by simpa using accepted), unlost, faulty]
  · rename_i faultless
    refine Triple.pure fun coord ⟨same, _⟩ => ?_
    simp [same, unlost, faultless]

theorem triple_judgeEvidence_latch {exhausted : Bool} :
    Triple (fun coord : Coord => coord.core = core ∧ coord.tick = tick)
      (judgeEvidence setup world childId evidence exhausted)
      (fun _ coord => coord.core.protectedFault = true ↔
        core.protectedFault = true ∨ exhausted = true ∨ evidence.controlLoss = true ∨
          evidence.protectedFault = true ∧ Escalates setup world tick core childId evidence)
      (fun _ => True) := by
  cases exhausted with
  | true =>
    let reached := core.enterFault setup
      { reason := ⟨"aggregate-budget-exhausted", by decide⟩
        controlFailed := false
        requestedStopScope := .cohort
        scopePolicyRule := .cohortBudget }
    refine Triple.bind (m := fun _ coord => coord.core = reached ∧ coord.tick = tick)
      (triple_when (fun _ => Triple.modify ?_) fun spared => absurd rfl spared) fun _ => ?_
    · rintro coord ⟨rfl, asked⟩
      exact ⟨rfl, asked⟩
    · refine triple_judgeFault_latch.consequence (fun _ => id) (fun _ coord latched => ?_) fun _ => id
      simp [latched, reached, Core.enterFault]
  | false =>
    refine triple_judgeFault_latch.consequence (fun _ => id) (fun _ coord latched => ?_) fun _ => id
    simp [latched]

include closed in
theorem triple_readEvidence :
    Triple (fun coord => assertion coord ∧ NotWaiting childId coord)
      (readEvidence setup world childId) (fun _ => assertion) assertion := by
  refine Triple.bind (m := fun _ coord => assertion coord ∧ NotWaiting childId coord)
    (triple_ask fun coord ⟨holds, active⟩ =>
      ⟨closed _ _ holds
        (.aside coord.timing (coord.tick + 1) coord.registry rfl (Nat.le_succ _)), active⟩)
    fun reply => ?_
  refine Triple.get_bind fun coord ⟨holds, active⟩ => ?_
  cases observed : observation coord.core childId reply with
  | error error =>
    simp only
    split
    · exact ((keeps_enterFault _).triple closed).consequence (fun _ same => same ▸ holds)
        (fun _ _ => id) fun _ => id
    · exact Triple.throw fun _ same => same ▸ holds
  | ok read =>
    obtain ⟨evidence, ledger⟩ := read
    have booked := observation_booked observed
    have exhausts : (exhaustedBudget (ledger.aggregate setup.childIds)
        setup.contract.aggregateHardBudget ≠ []) ↔ Exhausts setup coord.core childId evidence := by
      simp [Exhausts, booked]
    let absorbed := coord.core.absorb setup childId evidence ledger
    refine Triple.bind (m := fun _ after => (assertion after ∧ NotWaiting childId after) ∧
      after.core = absorbed ∧ after.tick = coord.tick) (Triple.modify ?_) fun _ => ?_
    · rintro _ rfl
      refine ⟨⟨closed _ _ holds (.absorbed childId evidence ledger booked), ?_⟩, rfl, rfl⟩
      intro waiting
      exact active ((congrArg Turn.phase (absorb_turn childId evidence ledger _ childId)).symm.trans
        waiting)
    · refine Triple.bind (((triple_judgeEvidence closed).and triple_judgeEvidence_latch).consequence
        (fun _ held => held) (fun _ _ => id) fun _ => And.left) fun _ => ?_
      refine Triple.get_bind fun after ⟨kept, latched⟩ => Triple.modify ?_
      rintro _ rfl
      refine closed _ _ kept (.judged coord.tick coord.core childId evidence ?_)
      simp only [latched, absorbed, absorb_latch, Latches, ← exhausts, decide_eq_true_eq]
      rfl

end WorkOrchestration.Native.Coordinator
