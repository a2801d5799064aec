import WorkOrchestration.Lib.Runs
import WorkOrchestration.Native.ReplanningSealing

/-!
# Runs of a replanning lifecycle

A lifecycle is bootstrapped and then taken from state to state by calls that return; a call that
raises returns no state.  What one call can do to the flags and counters of a state is said once,
as a relation between the two states.
-/

namespace WorkOrchestration.Native.Replanning

open List Lib.Programs Lib.Runs Artifacts Authority ProtectedChanges
open OperatorApprovals
open Lib.Results (ok_bind)

section

variable (fromIsoformat : String → Parsed) (σ : Type)

/-- A call that returned, and what its approvals made of the store. -/
structure Step where
  source : VerifiedState fromIsoformat
  request : Request σ
  before : σ
  after : σ
  next : VerifiedState fromIsoformat
  returned : transitionReplanningState fromIsoformat source request before = .ok next after

variable {fromIsoformat σ}

/-- Every call takes the state that the call before it returned. -/
def Run : VerifiedState fromIsoformat → List (Step fromIsoformat σ) → Prop :=
  Linked Step.source Step.next

end

/-! ## What no call takes back -/

/-- No counter has decreased. -/
structure Counters.NoLess (before after : Counters) : Prop where
  dispatches : before.dispatches ≤ after.dispatches
  toolCalls : before.toolCallsUsed ≤ after.toolCallsUsed
  runtime : before.runtimeSecondsUsed ≤ after.runtimeSecondsUsed
  compactions : before.contextCompactions ≤ after.contextCompactions
  pmReplans : before.pmReplansUsed ≤ after.pmReplansUsed
  architectCycles : before.architectCyclesUsed ≤ after.architectCyclesUsed

/-- Flags stay raised, counters do not decrease and a protected stop is final. -/
structure Onward (before after : State) : Prop where
  outOfScope : before.mutation.outOfScope = true → after.mutation.outOfScope = true
  tainted : before.mutation.tainted = true → after.mutation.tainted = true
  latched : before.latches.tainted = true → after.latches.tainted = true
  contradictory : before.latches.contradictoryValidation = true →
    after.latches.contradictoryValidation = true
  counters : before.counters.NoLess after.counters
  absorbed : before.phase = .protectedStop → after.phase = .protectedStop

/-- Nothing is wrong with the work, and its usage is covered. -/
structure Sound (state : State) : Prop where
  modelMatch : state.modelMatch = true
  controlHealthy : state.controlHealthy = true
  untainted : state.mutation.tainted = false
  inScope : state.mutation.outOfScope = false
  uncontradicted : state.latches.contradictoryValidation = false
  toolCalls : state.counters.toolCallsUsed ≤ state.allowance.toolCallsHard
  runtime : state.counters.runtimeSecondsUsed ≤ state.allowance.runtimeSecondsHard

/-- A state in which nothing is wrong unless the lifecycle has been stopped. -/
def Safe (state : State) : Prop := state.phase = .protectedStop ∨ Sound state

/--
A call that advances its lifecycle over a mutation that went out of scope, because nothing else
stops it and the branch of its event does not ask.
-/
def Overlooks {σ : Type} (source : State) (request : Request σ) : Prop :=
  ∃ event policy mutation counters, coerceEvent request.event = .ok event ∧
    normalizeAutonomousPolicy request.policy = .ok policy ∧
    normalizeMutation "evidence.mutation"
      (getOr request.evidence "mutation" source.mutation.json) = .ok mutation ∧
    applyUsage source.counters request.evidence = .ok counters ∧
    Context.Blind ⟨source, event, request.authority, policy, request.evidence⟩ source ∧
    (source.mutation.outOfScope = true ∨ mutation.outOfScope = true) ∧
    (source.latches.tainted = false ∧ source.mutation.tainted = false ∧ mutation.tainted = false) ∧
    (source.latches.contradictoryValidation = false ∧
      getOr request.evidence "contradictory_validation" (.bool false) = .bool false) ∧
    { source with counters }.checkAggregateAllowance = []

variable {policy : Policy} {context : Context} {next result source : State} {event : Event}
  {phase phase' : Phase} {counters : Counters}

theorem Counters.NoLess.refl (counters : Counters) : counters.NoLess counters :=
  ⟨le_refl _, le_refl _, le_refl _, le_refl _, le_refl _, le_refl _⟩

theorem Counters.NoLess.trans {first second third : Counters} (before : first.NoLess second)
    (after : second.NoLess third) : first.NoLess third where
  dispatches := before.dispatches.trans after.dispatches
  toolCalls := before.toolCalls.trans after.toolCalls
  runtime := before.runtime.trans after.runtime
  compactions := before.compactions.trans after.compactions
  pmReplans := before.pmReplans.trans after.pmReplans
  architectCycles := before.architectCycles.trans after.architectCycles

theorem Observed.noLess (observed : Observed source next) : source.counters.NoLess next.counters where
  dispatches := observed.dispatches.ge
  toolCalls := observed.toolCalls
  runtime := observed.runtime
  compactions := observed.compactions
  pmReplans := observed.pmReplans.ge
  architectCycles := observed.architectCycles.ge

section

variable (edge : Edge policy next event phase phase' counters)

include edge

theorem Edge.noLess :
    next.counters.NoLess counters := by
  cases edge with
  | dispatched => exact ⟨Nat.le_succ _, le_refl _, le_refl _, le_refl _, le_refl _, le_refl _⟩
  | replanned => exact ⟨le_refl _, le_refl _, le_refl _, le_refl _, Nat.le_succ _, le_refl _⟩
  | architectRefined => exact ⟨le_refl _, le_refl _, le_refl _, le_refl _, le_refl _, Nat.le_succ _⟩
  | _ => exact .refl _

theorem Edge.source_ne : phase ≠ .protectedStop ∧ phase ≠ .completed := by
  cases edge with
  | accepted phase waiting =>
    rcases waiting with rfl | rfl
    · exact ⟨nofun, nofun⟩
    · exact ⟨nofun, nofun⟩
  | _ => exact ⟨nofun, nofun⟩

theorem Edge.target_ne : phase' ≠ .protectedStop := by
  cases edge with
  | pmRefined phase goes =>
    rcases goes with rfl | rfl
    · nofun
    · nofun
  | _ => nofun

end

variable {state : State}

theorem checkAggregateAllowance_eq_nil : state.checkAggregateAllowance = [] ↔
      state.counters.toolCallsUsed ≤ state.allowance.toolCallsHard ∧
        state.counters.runtimeSecondsUsed ≤ state.allowance.runtimeSecondsHard := by
  unfold State.checkAggregateAllowance State.remainingAllowance
  constructor
  · intro covered
    obtain ⟨first, second⟩ := append_eq_nil_iff.mp covered
    constructor
    · split at first
      · cases first
      · omega
    · split at second
      · cases second
      · omega
  · rintro ⟨toolCalls, runtime⟩
    rw [if_neg (by simp; omega), if_neg (by simp; omega)]
    rfl

theorem terminalReasons_eq_nil : terminalReasons state = [] ↔
      state.mutation.tainted = false ∧ state.latches.contradictoryValidation = false := by
  unfold terminalReasons
  cases state.mutation.tainted <;> cases state.latches.contradictoryValidation <;> simp

/-- What a call has done, whichever branch it took. -/
structure Moved (context : Context) (source next result : State) : Prop where
  observed : Observed source next
  kept : Kept next result
  noLess : next.counters.NoLess result.counters
  outcome : (Stopped next result) ∨
    (terminalReasons next = [] ∧ next.checkAggregateAllowance = [] ∧ Advanced context next result)

section

variable {fromIsoformat : String → Parsed} {σ : Type} {step : Step fromIsoformat σ}

theorem Step.moved (step : Step fromIsoformat σ) : ∃ context next changes result,
      Prepared step.source step.request context next changes ∧
      settle fromIsoformat context next step.source.stateSha256 changes step.request step.before =
        .ok result step.after ∧
      Moved context step.source.state next result ∧
      step.next.state = result.withHash step.next.stateSha256 := by
  obtain ⟨context, next, changes, result, ready, settled, minted⟩ := transition_returns step.returned
  have prepared := prepare_ok ready
  refine ⟨context, next, changes, result, prepared, settled, ?_, mintSealed_ok minted⟩
  have observed := observe_ok prepared.observed
  have outcome := settle_returns settled
  rcases outcome with stopped | ⟨flags, covered, advanced⟩
  · exact ⟨observed, stopped.kept, stopped.counters ▸ .refl _, .inl stopped⟩
  · exact ⟨observed, advanced.kept, advanced.edge.noLess, .inr ⟨flags, covered, advanced⟩⟩

theorem Moved.onward (moved : Moved context source next result) (same : context.source = source) :
    Onward source result where
  outOfScope := by
    intro raised
    rw [moved.kept.mutation]
    exact moved.observed.outOfScope raised
  tainted := by
    intro raised
    rw [moved.kept.mutation]
    exact moved.observed.tainted raised
  latched := by
    intro raised
    rw [moved.kept.latches]
    exact moved.observed.latched raised
  contradictory := by
    intro raised
    rw [moved.kept.latches]
    exact moved.observed.contradictory raised
  counters := moved.observed.noLess.trans moved.noLess
  absorbed := by
    intro stopped
    rcases moved.outcome with again | ⟨_, _, advanced⟩
    · exact again.phase
    · rw [← same] at stopped
      exact absurd stopped advanced.edge.source_ne.1

theorem Step.onward (step : Step fromIsoformat σ) : Onward step.source.state step.next.state := by
  obtain ⟨context, next, changes, result, prepared, _, moved, sealed'⟩ := step.moved
  have onward := moved.onward prepared.same
  rw [sealed']
  exact ⟨onward.1, onward.2, onward.3, onward.4, onward.5, onward.6⟩

end


/-! ## What has to be seen -/

section

variable {fromIsoformat : String → Parsed} {σ : Type} {request : Request σ}

theorem observe_eq {authority : VerifiedAuthority} {evidence : Json}
    (observed : observe source authority policy evidence = .ok next) :
    ∃ mutation contradictory counters,
      normalizeMutation "evidence.mutation" (getOr evidence "mutation" source.mutation.json) =
        .ok mutation ∧
      getOr evidence "contradictory_validation" (.bool false) = .bool contradictory ∧
      applyUsage source.counters evidence = .ok counters ∧
      next.mutation.outOfScope = (source.mutation.outOfScope || mutation.outOfScope) ∧
      next.mutation.tainted =
        (source.latches.tainted || source.mutation.tainted || mutation.tainted) ∧
      next.latches.contradictoryValidation =
        (source.latches.contradictoryValidation || contradictory) ∧
      next.counters = counters ∧ next.allowance = source.allowance := by
  obtain ⟨mainThread, _, observed⟩ := bind_ok observed
  obtain ⟨mutation, reported, observed⟩ := bind_ok observed
  obtain ⟨contradictory, flagged, observed⟩ := bind_ok observed
  obtain ⟨counters, usage, observed⟩ := bind_ok observed
  cases observed
  refine ⟨mutation, contradictory, counters, reported, ?_, usage, rfl, rfl, rfl, rfl, rfl⟩
  unfold ensureBool at flagged
  split at flagged
  · rename_i value read
    cases flagged
    exact read
  · cases flagged

theorem Context.Blind.congr (same : next.counters.architectCyclesUsed = source.counters.architectCyclesUsed) :
    context.Blind next ↔ context.Blind source := by
  unfold Context.Blind
  rw [same]

variable {source' : VerifiedState fromIsoformat} {changes : Option Json}

/-- A call overlooks a mutation when what it records has one and nothing stops it before its branch. -/
theorem overlooks_iff (prepared : Prepared source' request context next changes) :
    Overlooks source'.state request ↔
      terminalReasons next = [] ∧ next.checkAggregateAllowance = [] ∧
        next.mutation.outOfScope = true ∧ context.Blind next := by
  obtain ⟨mutation, contradictory, counters, reported, flagged, usage, outOfScope, tainted, contradicted,
    counted, allowed⟩ := observe_eq prepared.observed
  have covered : next.checkAggregateAllowance = { source'.state with counters }.checkAggregateAllowance := by
    apply checkAggregateAllowance_eq
    · rw [allowed]
    · rw [allowed]
    · rw [counted]
    · rw [counted]
  have blind : context.Blind next ↔ Context.Blind
      ⟨source'.state, context.event, request.authority, context.policy, request.evidence⟩
      source'.state := by
    rw [Context.Blind.congr (observe_ok prepared.observed).architectCycles]
    have same : context = ⟨source'.state, context.event, request.authority, context.policy,
        request.evidence⟩ := by
      rw [← prepared.same, ← prepared.authority, ← prepared.evidence]
    rw [← same]
  rw [terminalReasons_eq_nil, outOfScope, tainted, contradicted, covered, blind]
  constructor
  · rintro ⟨event, policy, mutation', counters', coerced, normalized, reported', usage', blind,
      raised, untainted, uncontradicted, within⟩
    cases coerced.symm.trans prepared.event
    cases normalized.symm.trans prepared.policy
    cases reported'.symm.trans reported
    cases usage'.symm.trans usage
    cases uncontradicted.2.symm.trans flagged
    refine ⟨⟨?_, ?_⟩, within, ?_, blind⟩
    · rw [untainted.1, untainted.2.1, untainted.2.2]
      rfl
    · rw [uncontradicted.1]
      rfl
    · rw [Bool.or_eq_true]
      exact raised
  · rintro ⟨⟨untainted, uncontradicted⟩, within, raised, blind⟩
    rw [Bool.or_eq_false_iff, Bool.or_eq_false_iff] at untainted
    rw [Bool.or_eq_false_iff] at uncontradicted
    rw [Bool.or_eq_true] at raised
    refine ⟨context.event, context.policy, mutation, counters, prepared.event, prepared.policy,
      reported, usage, blind, raised, ⟨untainted.1.1, untainted.1.2, untainted.2⟩,
      ⟨uncontradicted.1, ?_⟩, within⟩
    rw [flagged, uncontradicted.2]

/-- A branch that does not look at the scope of the mutation advances the lifecycle. -/
theorem decideEvent_blind {stateSha256 : Json} {proposal : Option Json} {before after : σ}
    (blind : context.Blind next)
    (returned : decideEvent fromIsoformat context next stateSha256 proposal request before =
      .ok result after) : result.phase ≠ .protectedStop := by
  have advanced (advanced : Advanced context next result) : result.phase ≠ .protectedStop :=
    advanced.edge.target_ne
  unfold Context.Blind at blind
  cases event : context.event with
  | accepted =>
    rw [decideEvent, event] at returned
    rw [event] at blind
    obtain ⟨_, _, decided⟩ := bind_ok (ofExcept_returns returned).1
    rw [blind.2] at decided
    obtain ⟨receipt, rfl⟩ := conclude_ok decided
    intro same
    cases same
  | dispatchStarted =>
    rw [decideEvent, event] at returned
    exact advanced (dispatchStarted_ok event (ofExcept_returns returned).1)
  | pmRefined =>
    rw [decideEvent, event] at returned
    exact advanced (pmRefined_returns event returned)
  | architectRefined =>
    rw [decideEvent, event] at returned
    rw [event] at blind
    obtain ⟨_, _, returned⟩ := bind_ofExcept_returns returned
    rw [if_neg (not_le.mpr blind.2)] at returned
    obtain ⟨refined, _, _, returned⟩ := bind_returns returned
    obtain ⟨receipt, rfl⟩ := conclude_ok (ofExcept_returns returned).1
    intro same
    cases same
  | freshWorkerAssigned =>
    rw [decideEvent, event] at returned
    exact advanced (freshWorkerAssigned_ok event (ofExcept_returns returned).1)
  | completed =>
    rw [decideEvent, event] at returned
    rw [event] at blind
    obtain ⟨_, _, decided⟩ := bind_ok (ofExcept_returns returned).1
    rw [if_pos blind.2] at decided
    obtain ⟨receipt, rfl⟩ := conclude_ok decided
    intro same
    cases same
  | needsReplan | exploration | workerCompaction | stop => rw [event] at blind; cases blind

end

/-! ## Safety -/

section

variable {fromIsoformat : String → Parsed} {σ : Type}

theorem Moved.sound (moved : Moved context source next result) (sound : Sound source)
    (flags : terminalReasons next = []) (covered : next.checkAggregateAllowance = [])
    (advanced : Advanced context next result) (inScope : next.mutation.outOfScope = false) :
    Sound result := by
  have within := checkAggregateAllowance_eq_nil.mp (advanced.within covered)
  obtain ⟨untainted, uncontradicted⟩ := terminalReasons_eq_nil.mp flags
  exact {
    modelMatch := advanced.healthy.modelMatch (moved.observed.modelMatch.trans sound.modelMatch)
    controlHealthy :=
      advanced.healthy.controlHealthy (moved.observed.controlHealthy.trans sound.controlHealthy)
    untainted := by rw [moved.kept.mutation, untainted]
    inScope := by rw [moved.kept.mutation, inScope]
    uncontradicted := by rw [moved.kept.latches, uncontradicted]
    toolCalls := within.1
    runtime := within.2 }

theorem Sound.withHash {stateSha256 : Json} (sound : Sound result) : Sound (result.withHash stateSha256) :=
  ⟨sound.1, sound.2, sound.3, sound.4, sound.5, sound.6, sound.7⟩

/-- From a safe state a call returns a safe state exactly when it overlooks nothing. -/
theorem Step.safe_iff (step : Step fromIsoformat σ) (safe : Safe step.source.state) :
    Safe step.next.state ↔ ¬ Overlooks step.source.state step.request := by
  obtain ⟨context, next, changes, result, prepared, settled, moved, sealed'⟩ := step.moved
  rw [overlooks_iff prepared, sealed']
  constructor
  · rintro safe' ⟨flags, covered, raised, blind⟩
    unfold settle at settled
    have unstopped : stopReasons context.event next = [] := by
      unfold stopReasons
      rw [if_neg (not_not.mpr flags)]
      cases event : context.event with
      | stop stopEvent =>
        unfold Context.Blind at blind
        rw [event] at blind
        cases blind
      | _ => exact covered
    rw [if_neg (not_not.mpr unstopped)] at settled
    rcases safe' with stopped | sound
    · exact decideEvent_blind blind settled stopped
    · have outOfScope : result.mutation.outOfScope = true := by
        rw [moved.kept.mutation]
        exact raised
      exact Bool.false_ne_true (sound.inScope.symm.trans outOfScope)
  · intro overlooked
    rcases moved.outcome with stopped | ⟨flags, covered, advanced⟩
    · exact .inl stopped.phase
    · right
      have sound : Sound step.source.state := by
        rcases safe with stopped | sound
        · rw [← prepared.same] at stopped
          exact absurd stopped advanced.edge.source_ne.1
        · exact sound
      have inScope : next.mutation.outOfScope = false := by
        rcases advanced.looked with inScope | blind
        · exact inScope
        · by_contra raised
          exact overlooked ⟨flags, covered, Bool.not_eq_false _ ▸ raised, blind⟩
      exact (moved.sound sound flags covered advanced inScope).withHash

/-- A lifecycle starts with nothing counted and nothing wrong. -/
structure Fresh (state : State) : Prop where
  phase : state.phase = .planned
  counters : state.counters = ⟨0, 0, 0, 0, 0, 0⟩
  mutation : state.mutation = ⟨false, false⟩
  latches : state.latches = ⟨false, false⟩
  modelMatch : state.modelMatch = true
  controlHealthy : state.controlHealthy = true

theorem bootstrapState_fresh {document policy : Json} {authority : VerifiedAuthority}
    (made : bootstrapState document authority policy = .ok state) : Fresh state := by
  obtain ⟨source, _, made⟩ := bind_ok made
  obtain ⟨_, _, made⟩ := bind_ok made
  obtain ⟨_, _, made⟩ := bind_ok made
  obtain ⟨policy, _, made⟩ := bind_ok made
  obtain ⟨_, _, made⟩ := bind_ok made
  obtain ⟨counters, _, made⟩ := bind_ok made
  obtain ⟨_, uncounted, made⟩ := bind_ok made
  obtain ⟨allowance, _, made⟩ := bind_ok made
  obtain ⟨mutation, _, made⟩ := bind_ok made
  obtain ⟨_, unmutated, made⟩ := bind_ok made
  obtain ⟨contradictory, _, made⟩ := bind_ok made
  obtain ⟨latches, _, made⟩ := bind_ok made
  obtain ⟨_, unlatched, made⟩ := bind_ok made
  obtain ⟨mainThread, _, made⟩ := bind_ok made
  obtain ⟨workUnitId, _, made⟩ := bind_ok made
  obtain ⟨beadId, _, made⟩ := bind_ok made
  obtain ⟨packetId, _, made⟩ := bind_ok made
  obtain ⟨requestedModel, _, made⟩ := bind_ok made
  obtain ⟨objective, _, made⟩ := bind_ok made
  obtain ⟨securityContext, _, made⟩ := bind_ok made
  obtain ⟨modelMatch, _, made⟩ := bind_ok made
  obtain ⟨controlHealthy, _, made⟩ := bind_ok made
  obtain ⟨reasonCodes, _, made⟩ := bind_ok made
  obtain ⟨_, healthy, made⟩ := bind_ok made
  obtain ⟨_, _, made⟩ := bind_ok made
  obtain ⟨_, _, made⟩ := bind_ok made
  obtain ⟨receipt, _, made⟩ := bind_ok made
  cases made
  have healthy := not_or.mp (refuse_ok healthy)
  exact {
    phase := rfl
    counters := not_not.mp (refuse_ok uncounted)
    mutation := not_not.mp (refuse_ok unmutated)
    latches := not_not.mp (refuse_ok unlatched)
    modelMatch := Bool.not_eq_false _ ▸ healthy.1
    controlHealthy := Bool.not_eq_false _ ▸ healthy.2 }

variable {document policy : Json} {authority : VerifiedAuthority}
  {start : VerifiedState fromIsoformat}

theorem bootstrapReplanningState_fresh
    (bootstrapped : bootstrapReplanningState fromIsoformat document authority policy = .ok start) :
    Fresh start.state := by
  obtain ⟨state, made, minted⟩ := bind_ok bootstrapped
  have fresh := bootstrapState_fresh made
  rw [mintSealed_ok minted]
  exact ⟨fresh.1, fresh.2, fresh.3, fresh.4, fresh.5, fresh.6⟩

theorem Fresh.safe (fresh : Fresh state) : Safe state := by
  right
  constructor
  · exact fresh.modelMatch
  · exact fresh.controlHealthy
  · rw [fresh.mutation]
  · rw [fresh.mutation]
  · rw [fresh.latches]
  · rw [fresh.counters]
    exact Nat.zero_le _
  · rw [fresh.counters]
    exact Nat.zero_le _

/--
In every run from a bootstrapped state no call takes anything back, and every state is safe exactly
when no call of the run overlooks a mutation that went out of scope.
-/
theorem replanning_safe_iff (steps : List (Step fromIsoformat σ))
    (bootstrapped : bootstrapReplanningState fromIsoformat document authority policy = .ok start)
    (run : Run start steps) :
    ((∀ step ∈ steps, Onward step.source.state step.next.state) ∧ Safe start.state ∧
        ∀ step ∈ steps, Safe step.next.state) ↔
      ∀ step ∈ steps, ¬ Overlooks step.source.state step.request := by
  have safe := (bootstrapReplanningState_fresh bootstrapped).safe
  have exact' : (∀ step ∈ steps, Safe step.next.state) ↔
      ∀ step ∈ steps, ¬ Overlooks step.source.state step.request :=
    @Linked.forall_iff _ _ _ _ _ _ (fun state => Safe state.state) _ run
      (fun step _ => step.safe_iff) safe
  rw [← exact']
  constructor
  · rintro ⟨_, _, later⟩
    exact later
  · intro later
    exact ⟨fun step _ => step.onward, safe, later⟩

end

/-! ## A call that overlooks a mutation -/

/-- The part of the repository's policy that replanning reads. -/
def samplePolicy : Json :=
  .obj [("work_sizing", .obj [("version", .int 1), ("enforcement", .obj [("foundation-canary", .obj
    [("autonomous_replanning", .obj [
      ("states", .strings requiredStates),
      ("events", .strings (knownEvents.map Event.text)),
      ("telemetry_fields", .strings ["tool_calls", "runtime_seconds", "dispatches", "compactions"]),
      ("protected_stop_reasons", .strings ["tainted-mutation"]),
      ("continuation_requires", .strings ["trusted-evidence"]),
      ("exploration_limits", .obj [
        ("exploration-limit", .obj [("max_compactions", .int 0)]),
        ("clean-no-artifact", .obj [("max_compactions", .int 0)])]),
      ("fresh-worker-reassignment", .obj [("required", .bool true),
        ("event", .str "fresh-worker-assigned")]),
      ("main_thread_effort", .obj [
        ("capture_at", .strings ["planning"]),
        ("sources", .strings ["user-declaration"]),
        ("required_runtime_fields", .strings requiredMainThreadRuntimeFields),
        ("recommendation_advisory", .bool true),
        ("user_selection_authoritative", .bool true),
        ("automatic_effort_change", .bool false),
        ("effort_is_execution_gate", .bool false),
        ("effort_is_authority_boundary", .bool false)]),
      ("worker_compaction", .obj [
        ("affected_worker_action", .str "interrupt-close-quarantine"),
        ("clean_attributable_requires", .strings ["exact-model"]),
        ("clean_attributable_route", .str "architect-realignment-current-main-thread"),
        ("retained_artifact_disposition", .str "independent-validation-required"),
        ("ambiguous_route", .str "main-thread-adjudication"),
        ("effort_escalation", .str "advisory-only")]),
      ("refined_child_budgeting", .obj [
        ("materially_refined_child", .str "fresh-deterministic-estimate-and-allowance"),
        ("immutable_retry", .str "share-parent-allowance"),
        ("cumulative_lineage_usage_required", .bool true)]),
      ("operator_required_for", .strings (ChangeType.all.map ChangeType.text)),
      ("dispatch_soft_cap", .int 3),
      ("dispatch_soft_cap_action", .str "pm-architect-review"),
      ("max_pm_replans", .int 2),
      ("max_architect_cycles", .int 1),
      ("max_compactions", .int 0),
      ("tool_calls_extra", .int 0),
      ("runtime_seconds_extra", .int 0),
      ("live_replay_enabled", .bool false)])])])])]

/-- A work unit that is to be done. -/
def sampleDocument : Json :=
  .obj [("work_unit_id", .str "unit"), ("bead_id", .str "bead"), ("packet_id", .str "packet"),
    ("requested_model", .str "model"), ("objective", .str "objective"),
    ("security_context", .str "scoped"),
    ("aggregate_allowance", .obj [("tool_calls_hard", .int 9), ("runtime_seconds_hard", .int 9)]),
    ("main_thread", .obj [("model", .str "model"), ("effort", .str "high"),
      ("source", .str "user-declaration"), ("recommended_effort", .str "high"),
      ("recommendation_reason", .str "none"), ("advisory", .bool true),
      ("user_selected_effort_retained", .bool true)])]

def sampleProvenance : Provenance :=
  .sealed {
    sourceType := .pmObservation
    sourceId := "manager"
    sourceSha256 := textSha256 "observation"
    actorId := "manager"
    actorRole := .projectManager
    identitySource := "session"
    authorizedScope := .child
    parentReceiptSha256 := none
    verificationMethod := "observation"
    verificationEvidenceSha256 := textSha256 "observation"
    authoritySha256 := textSha256 "observation" }

def noTimes (_ : String) : Parsed := .invalid

def sampleAuthority : VerifiedAuthority := ⟨sampleProvenance, by decide⟩

/-- What replanning makes of that policy. -/
def sampleLimits : Policy where
  dispatchSoftCap := 3
  dispatchSoftCapAction := "pm-architect-review"
  maxPmReplans := 2
  maxArchitectCycles := 1
  maxCompactions := 0
  explorationLimit := 0
  cleanNoArtifact := 0
  freshWorkerReassignmentRequired := true
  freshWorkerReassignmentEvent := "fresh-worker-assigned"
  liveReplayEnabled := false
  mainThreadSources := ["user-declaration"]
  cleanAttributableRoute := "architect-realignment-current-main-thread"
  ambiguousRoute := "main-thread-adjudication"

theorem sample_limits : normalizeAutonomousPolicy samplePolicy = .ok sampleLimits := by
  decide +kernel

def sampleState : State where
  phase := .planned
  workUnitId := "unit"
  beadId := "bead"
  packetId := "packet"
  requestedModel := "model"
  objective := "objective"
  securityContext := "scoped"
  authority := sampleProvenance
  modelMatch := true
  controlHealthy := true
  counters := ⟨0, 0, 0, 0, 0, 0⟩
  allowance := ⟨9, 9, 3, "pm-architect-review", 2, 1, 0⟩
  mutation := ⟨false, false⟩
  latches := ⟨false, false⟩
  mainThread := ⟨"model", "high", "user-declaration", "high", "none", true, true⟩
  reasonCodes := []
  authorizations := []
  nextAction := "wait"
  snapshot := sampleLimits.snapshot
  receipt := .objEnd

def plannedReceipt : Json :=
  .obj (receiptBody .planned "bootstrap" sampleProvenance "initialized" sampleState [])

theorem sample_bootstrap : bootstrapState sampleDocument sampleAuthority samplePolicy =
    .ok { sampleState with receipt := plannedReceipt } := by
  decide +kernel

theorem sample_sealable : Sealable noTimes sampleState where
  workUnitId := by decide
  beadId := by decide
  packetId := by decide
  requestedModel := by decide
  objective := by decide
  securityContext := by decide
  nextAction := by decide
  same := rfl
  counters := .counters (by decide) (by decide) (by decide) (by decide) (by decide) (by decide)
  allowance := .allowance (by decide) (by decide) (by decide) (by decide) (by decide) (by decide)
  snapshot := .snapshot (by decide) (by decide) (by decide) (by decide)
  authorizations := rfl
  approvals := nofun

/-- A point in the lifecycle of that work unit. -/
structure Stage where
  phase : Phase
  counters : Counters
  outOfScope : Bool
  nextAction : String
  reasonCodes : List String

def Stage.recorded (stage : Stage) (receipt : Json) : State :=
  { sampleState with
    phase := stage.phase
    counters := stage.counters
    mutation := ⟨stage.outOfScope, false⟩
    nextAction := stage.nextAction
    reasonCodes := stage.reasonCodes
    receipt }

def reported (outOfScope : Bool) : Json := .obj [("mutation", .obj [("out_of_scope", .bool outOfScope)])]

/-- A caller that names an event and reports whether a mutation went out of scope. -/
def sampleRequest (event : String) (outOfScope : Bool) : Request Unit where
  event := .str event
  evidence := reported outOfScope
  authority := sampleAuthority
  authorizer := none
  receipts := none
  policy := samplePolicy

theorem sample_started : ∃ start receipt,
    bootstrapReplanningState noTimes sampleDocument sampleAuthority samplePolicy = .ok start ∧
      start.state = { sampleState with receipt } := by
  have emitted : Emitted sampleState.authority sampleState plannedReceipt := by
    refine ⟨sampleAuthority.verified, nofun, .planned, "bootstrap", "initialized",
      "native-replanning:bootstrap", by decide, by decide, by decide, ?_⟩
    rfl
  obtain ⟨start, minted⟩ := mintSealed_of sample_sealable emitted
  refine ⟨start, plannedReceipt.set "state_sha256" start.stateSha256, ?_, mintSealed_ok minted⟩
  unfold bootstrapReplanningState
  rw [sample_bootstrap, ok_bind]
  exact minted

theorem sample_mainThread (outOfScope : Bool) : normalizeMainThread "state.main_thread" sampleLimits
    (reported outOfScope) true sampleState.mainThread.json = .ok sampleState.mainThread := by
  cases outOfScope <;> decide +kernel

theorem sample_mutation (before after : Bool) : normalizeMutation "evidence.mutation"
    (getOr (reported after) "mutation" (Mutation.json ⟨before, false⟩)) = .ok ⟨after, false⟩ := by
  cases before <;> cases after <;> decide +kernel

variable {stage stage' : Stage} {receipt : Json} {event : Event} {text : String} {outOfScope : Bool}

theorem sample_observed : observe (stage.recorded receipt) sampleAuthority sampleLimits (reported outOfScope) =
    .ok ({ stage with outOfScope := stage.outOfScope || outOfScope }.recorded receipt) := by
  unfold observe
  rw [show (stage.recorded receipt).mainThread = sampleState.mainThread from rfl, sample_mainThread, ok_bind,
    show (stage.recorded receipt).mutation = ⟨stage.outOfScope, false⟩ from rfl, sample_mutation, ok_bind]
  rfl

def sampleContext (stage : Stage) (event : Event) (outOfScope : Bool) (receipt : Json) : Context :=
  ⟨stage.recorded receipt, event, sampleAuthority, sampleLimits, reported outOfScope⟩

/-- What a call takes one stage to the next with. -/
structure Leads (stage stage' : Stage) (event : Event) (text : String) (outOfScope : Bool) : Prop where
  coerced : coerceEvent (.str text) = .ok event
  allowed : requireMinimumAuthority sampleAuthority event.minimumAuthority
    ("replanning-" ++ event.text) = .ok ()
  quiet : ∀ receipt, stopReasons event
    ({ stage with outOfScope := stage.outOfScope || outOfScope }.recorded receipt) = []
  decides : ∃ decision, decision ≠ "" ∧ ∀ receipt hash,
    decideEvent noTimes (sampleContext stage event outOfScope receipt)
        ({ stage with outOfScope := stage.outOfScope || outOfScope }.recorded receipt) hash none
        (sampleRequest text outOfScope) () =
      (ofExcept ((sampleContext stage event outOfScope receipt).conclude decision
        (stage'.recorded receipt)) : EStateM PyError Unit State) ()
  named : event.text ≠ ""
  goesOn : stage'.nextAction ≠ ""
  reasons : ∀ reason ∈ stage'.reasonCodes, Lib.Text.Nonempty reason
  counters : Written stage'.counters.json

theorem sample_call {start : VerifiedState noTimes} (leads : Leads stage stage' event text outOfScope)
    (same : start.state = stage.recorded receipt) : ∃ next receipt,
      transitionReplanningState noTimes start (sampleRequest text outOfScope) () = .ok next () ∧
        next.state = stage'.recorded receipt := by
  obtain ⟨decision, decided, settles⟩ := leads.decides
  have prepared : prepare noTimes start (sampleRequest text outOfScope) =
      .ok (sampleContext stage event outOfScope receipt,
        { stage with outOfScope := stage.outOfScope || outOfScope }.recorded receipt, none) := by
    unfold prepare
    rw [start.valid, ok_bind]
    change (coerceEvent (.str text) >>= _) = _
    rw [leads.coerced, ok_bind, show (sampleRequest text outOfScope).authority = sampleAuthority from rfl,
      leads.allowed, ok_bind, show (sampleRequest text outOfScope).policy = samplePolicy from rfl,
      sample_limits, ok_bind]
    change (observe start.state sampleAuthority sampleLimits (reported outOfScope) >>= _) = _
    rw [same, sample_observed]
    rfl
  obtain ⟨given, emitted⟩ := @emitReceipt_of stage.phase event.text decision sampleAuthority
    (stage'.recorded receipt) leads.reasons
  have concluded : (sampleContext stage event outOfScope receipt).conclude decision
      (stage'.recorded receipt) = .ok { stage'.recorded receipt with receipt := given } := by
    change (emitReceipt stage.phase event.text sampleAuthority decision (stage'.recorded receipt) >>= _) = _
    rw [emitted]
    rfl
  have sealable : Sealable noTimes (stage'.recorded receipt) :=
    let fields := sample_sealable
    ⟨fields.1, fields.2, fields.3, fields.4, fields.5, fields.6, leads.goesOn, rfl, leads.counters,
      fields.10, fields.11, fields.12, fields.13⟩
  obtain ⟨next, minted⟩ := mintSealed_of sealable (emitReceipt_ok leads.named decided emitted)
  have settled : settle noTimes (sampleContext stage event outOfScope receipt)
      ({ stage with outOfScope := stage.outOfScope || outOfScope }.recorded receipt)
      start.stateSha256 none (sampleRequest text outOfScope) () =
        .ok { stage'.recorded receipt with receipt := given } () := by
    unfold settle
    rw [if_neg fun stops => stops (leads.quiet receipt), settles]
    exact ofExcept_ran concluded ()
  have settled : transitionState noTimes start (sampleRequest text outOfScope) () = .ok _ () :=
    (ran_bind (ofExcept_ran prepared ())).trans settled
  exact ⟨next, _, (ran_bind settled).trans (ofExcept_ran minted ()), mintSealed_ok minted⟩

theorem validFrom_of {context : Context} {phases : List Phase}
    (valid : phases.contains context.source.phase = true) (message : String) :
    context.validFrom phases message = .ok () := by
  unfold Context.validFrom
  rw [valid]
  rfl

section

variable (stage event outOfScope receipt) {field : String} (other : field ≠ "mutation") (default : Bool)

include other

theorem sample_getOr : getOr (sampleContext stage event outOfScope receipt).evidence field (.bool default) =
    .bool default := by
  change (if "mutation" = field then _ else _ : Option Json).getD _ = _
  rw [if_neg (Ne.symm other)]
  rfl

theorem sample_evidenceBool :
    (sampleContext stage event outOfScope receipt).evidenceBool field default = .ok default := by
  unfold Context.evidenceBool
  rw [sample_getOr _ _ _ _ other]
  rfl

theorem sample_evidenceTruth :
    (sampleContext stage event outOfScope receipt).evidenceTruth field = false := by
  unfold Context.evidenceTruth
  rw [sample_getOr _ _ _ _ other]
  rfl

theorem sample_reportedBool :
    (sampleContext stage event outOfScope receipt).reportedBool field default = .ok default := by
  unfold Context.reportedBool
  rw [sample_getOr _ _ _ _ other]

end

def planned : Stage := ⟨.planned, ⟨0, 0, 0, 0, 0, 0⟩, false, "wait", []⟩

def dispatchable : Stage := ⟨.dispatchable, ⟨0, 0, 0, 0, 0, 0⟩, false, "dispatch", ["commitment-accepted"]⟩

def executing : Stage :=
  ⟨.executing, ⟨1, 0, 0, 0, 0, 0⟩, false, "pm-architect-review", ["dispatch-started"]⟩

def realigned : Stage :=
  ⟨.pmRealignment, ⟨1, 0, 0, 0, 1, 0⟩, false, "request-pm-refinement",
    ["exploration-limit-trigger", "event:exploration-limit"]⟩

def refined : Stage :=
  ⟨.reassignmentReady, ⟨1, 0, 0, 0, 1, 0⟩, false, "fresh-worker-assignment", ["pm-refined"]⟩

def assigned : Stage :=
  ⟨.dispatchable, ⟨1, 0, 0, 0, 1, 0⟩, false, "dispatch", ["fresh-worker-assigned"]⟩

def redispatched (outOfScope : Bool) : Stage :=
  ⟨.executing, ⟨2, 0, 0, 0, 1, 0⟩, outOfScope, "pm-architect-review", ["dispatch-started"]⟩

theorem leads_accepted : Leads planned dispatchable .accepted "accepted" false := by
  refine ⟨by decide +kernel, rfl, fun _ => rfl, ⟨"advance", by decide, fun receipt _ => ?_⟩, by decide,
    by decide, by decide, .counters (by decide) (by decide) (by decide) (by decide) (by decide) (by decide)⟩
  change (ofExcept (Context.accepted _ _) : EStateM PyError Unit State) () = _
  unfold Context.accepted
  rw [validFrom_of rfl, ok_bind, sample_getOr _ _ _ _ (by decide)]
  exact congrArg (fun next => (ofExcept (Context.conclude _ "advance" next) : EStateM _ _ _) ()) rfl

theorem leads_dispatched : Leads dispatchable executing .dispatchStarted "dispatch-started" false := by
  refine ⟨by decide +kernel, rfl, fun _ => rfl, ⟨"advance", by decide, fun receipt _ => ?_⟩, by decide,
    by decide, by decide, .counters (by decide) (by decide) (by decide) (by decide) (by decide) (by decide)⟩
  change (ofExcept (Context.dispatchStarted _ _) : EStateM PyError Unit State) () = _
  unfold Context.dispatchStarted
  rw [validFrom_of rfl, ok_bind]
  exact congrArg (fun next => (ofExcept (Context.conclude _ "advance" next) : EStateM _ _ _) ()) rfl

theorem leads_explored :
    Leads executing realigned (.exploration .explorationLimit) "exploration-limit" false := by
  refine ⟨by decide +kernel, rfl, fun _ => rfl, ⟨"replan", by decide, fun receipt _ => ?_⟩, by decide,
    by decide, by decide, .counters (by decide) (by decide) (by decide) (by decide) (by decide) (by decide)⟩
  change (ofExcept (Context.exploration _ _ _) : EStateM PyError Unit State) () = _
  unfold Context.exploration
  rw [validFrom_of rfl, ok_bind, sample_evidenceBool _ _ _ _ (by decide), ok_bind,
    sample_evidenceBool _ _ _ _ (by decide), ok_bind, sample_evidenceBool _ _ _ _ (by decide), ok_bind]
  unfold Context.afterExploration Context.explorationReasons
  rw [sample_evidenceTruth _ _ _ _ (by decide), sample_evidenceTruth _ _ _ _ (by decide),
    sample_evidenceTruth _ _ _ _ (by decide)]
  exact congrArg (fun next => (ofExcept (Context.conclude _ "replan" next) : EStateM _ _ _) ()) rfl

theorem leads_refined : Leads realigned refined .pmRefined "pm-refined" false := by
  refine ⟨by decide +kernel, rfl, fun _ => rfl, ⟨"advance", by decide, fun receipt hash => ?_⟩, by decide,
    by decide, by decide, .counters (by decide) (by decide) (by decide) (by decide) (by decide) (by decide)⟩
  change pmRefined _ _ _ _ _ _ _ = _
  unfold pmRefined
  rw [validFrom_of rfl, sample_reportedBool _ _ _ _ (by decide)]
  exact congrArg (fun next => (ofExcept (Context.conclude _ "advance" next) : EStateM _ _ _) ()) rfl

theorem leads_assigned : Leads refined assigned .freshWorkerAssigned "fresh-worker-assigned" false := by
  refine ⟨by decide +kernel, rfl, fun _ => rfl, ⟨"advance", by decide, fun receipt _ => ?_⟩, by decide,
    by decide, by decide, .counters (by decide) (by decide) (by decide) (by decide) (by decide) (by decide)⟩
  change (ofExcept (Context.freshWorkerAssigned _ _) : EStateM PyError Unit State) () = _
  unfold Context.freshWorkerAssigned
  rw [validFrom_of rfl, ok_bind]
  exact congrArg (fun next => (ofExcept (Context.conclude _ "advance" next) : EStateM _ _ _) ()) rfl

theorem leads_redispatched (outOfScope : Bool) :
    Leads assigned (redispatched outOfScope) .dispatchStarted "dispatch-started" outOfScope := by
  refine ⟨by decide +kernel, rfl, fun _ => rfl, ⟨"advance", by decide, fun receipt _ => ?_⟩, by decide,
    show "pm-architect-review" ≠ "" by decide,
    show ∀ reason ∈ ["dispatch-started"], Lib.Text.Nonempty reason by decide,
    show Written (Counters.json ⟨2, 0, 0, 0, 1, 0⟩) from
      .counters (by decide) (by decide) (by decide) (by decide) (by decide) (by decide)⟩
  change (ofExcept (Context.dispatchStarted _ _) : EStateM PyError Unit State) () = _
  unfold Context.dispatchStarted
  rw [validFrom_of rfl, ok_bind]
  exact congrArg (fun next => (ofExcept (Context.conclude _ "advance" next) : EStateM _ _ _) ()) rfl

/-- A work unit that is accepted, dispatched, realigned and dispatched to another worker. -/
theorem sample_run (outOfScope : Bool) :
    ∃ (start : VerifiedState noTimes) (steps : List (Step noTimes Unit)),
      bootstrapReplanningState noTimes sampleDocument sampleAuthority samplePolicy = .ok start ∧
        Run start steps ∧ (∀ step ∈ steps, step.request.policy = samplePolicy) ∧
        steps.map (·.next.state.phase) =
          [.dispatchable, .executing, .pmRealignment, .reassignmentReady, .dispatchable, .executing] ∧
        steps.getLast?.map (·.next.state.mutation.outOfScope) = some outOfScope := by
  obtain ⟨start, receipt, bootstrapped, same⟩ := sample_started
  obtain ⟨first, _, accepted, same₁⟩ := sample_call leads_accepted
    (show start.state = planned.recorded receipt from same)
  obtain ⟨second, _, dispatched, same₂⟩ := sample_call leads_dispatched same₁
  obtain ⟨third, _, explored, same₃⟩ := sample_call leads_explored same₂
  obtain ⟨fourth, _, refined, same₄⟩ := sample_call leads_refined same₃
  obtain ⟨fifth, _, assigned, same₅⟩ := sample_call leads_assigned same₄
  obtain ⟨sixth, _, redispatched, same₆⟩ := sample_call (leads_redispatched outOfScope) same₅
  refine ⟨start, [⟨start, _, (), (), first, accepted⟩, ⟨first, _, (), (), second, dispatched⟩,
    ⟨second, _, (), (), third, explored⟩, ⟨third, _, (), (), fourth, refined⟩,
    ⟨fourth, _, (), (), fifth, assigned⟩, ⟨fifth, _, (), (), sixth, redispatched⟩], bootstrapped,
    ⟨rfl, rfl, rfl, rfl, rfl, rfl, True.intro⟩, ?_, ?_, ?_⟩
  · simp only [forall_mem_cons]
    exact ⟨rfl, rfl, rfl, rfl, rfl, rfl, forall_mem_nil _⟩
  · simp only [map_cons, map_nil, same₁, same₂, same₃, same₄, same₅, same₆]
    rfl
  · change some sixth.state.mutation.outOfScope = _
    rw [same₆]
    rfl

/-- A lifecycle goes on with a mutation that went out of scope. -/
theorem replanning_unsafe : ∃ (start : VerifiedState noTimes) (steps : List (Step noTimes Unit)),
    bootstrapReplanningState noTimes sampleDocument sampleAuthority samplePolicy = .ok start ∧
      Run start steps ∧ ¬ ∀ step ∈ steps, Safe step.next.state := by
  obtain ⟨start, steps, bootstrapped, run, _, phases, outOfScope⟩ := sample_run true
  refine ⟨start, steps, bootstrapped, run, ?_⟩
  intro safe
  obtain ⟨step, last, raised⟩ := Option.map_eq_some_iff.mp outOfScope
  have phase : step.next.state.phase = .executing := by
    have mapped := congrArg getLast? phases
    rw [getLast?_map, last] at mapped
    exact Option.some.inj mapped
  rcases safe step (mem_of_getLast? last) with stopped | sound
  · rw [phase] at stopped
    cases stopped
  · rw [sound.inScope] at raised
    cases raised

theorem replanning_safe_iff_sample : ∃ (start : VerifiedState noTimes) (steps : List (Step noTimes Unit)),
    steps.length = 6 ∧
      (((∀ step ∈ steps, Onward step.source.state step.next.state) ∧ Safe start.state ∧
          ∀ step ∈ steps, Safe step.next.state) ↔
        ∀ step ∈ steps, ¬ Overlooks step.source.state step.request) := by
  obtain ⟨start, steps, bootstrapped, run, _, phases, _⟩ := sample_run true
  refine ⟨start, steps, ?_, replanning_safe_iff steps bootstrapped run⟩
  simpa using congrArg length phases

end WorkOrchestration.Native.Replanning
