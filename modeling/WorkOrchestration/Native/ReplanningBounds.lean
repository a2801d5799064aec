import WorkOrchestration.Native.ReplanningRuns

/-!
# How long replanning can go on

Two budgets limit a lifecycle.  One is charged when a realignment is entered, the other when one is
left; every way round the lifecycle is charged to one of them.  So what is left of both bounds the
workers that can still be dispatched and the calls that can still be made before the end.
-/

namespace WorkOrchestration.Native.Replanning

open Lib.Runs Artifacts Authority OperatorApprovals

/-- What is left of the two budgets. -/
def Policy.cyclesLeft (policy : Policy) (counters : Counters) : Nat :=
  (policy.maxPmReplans - counters.pmReplansUsed) +
    (policy.maxArchitectCycles - counters.architectCyclesUsed)

/-- The dispatches that a phase leads to before a budget is charged again. -/
def Phase.credit : Phase → Nat
  | planned => 1
  | commitmentRequired => 1
  | dispatchable => 1
  | executing => 0
  | pmRealignment => 1
  | architectRealignment => 0
  | reassignmentReady => 1
  | protectedStop => 0
  | completed => 0

/-- How far a phase can be from the next charge. -/
def Phase.distance : Phase → Nat
  | planned => 3
  | commitmentRequired => 3
  | dispatchable => 2
  | executing => 1
  | pmRealignment => 4
  | architectRealignment => 0
  | reassignmentReady => 3
  | protectedStop => 0
  | completed => 0

/-- Neither budget is overdrawn. -/
structure WithinLimits (policy : Policy) (state : State) : Prop where
  pmReplans : state.counters.pmReplansUsed ≤ policy.maxPmReplans
  architectCycles : state.counters.architectCyclesUsed ≤ policy.maxArchitectCycles

/-- The lifecycle has come to an end, or to a stop that waits for its operator. -/
def Phase.ended (phase : Phase) : Bool := phase == .completed || phase == .protectedStop

variable {policy : Policy} {next source : State} {event : Event} {phase phase' : Phase}
  {counters : Counters}

theorem cyclesLeft_replan (left' : counters.pmReplansUsed < policy.maxPmReplans) :
    policy.cyclesLeft { counters with pmReplansUsed := counters.pmReplansUsed + 1 } + 1 =
      policy.cyclesLeft counters := by
  change policy.maxPmReplans - (counters.pmReplansUsed + 1) +
    (policy.maxArchitectCycles - counters.architectCyclesUsed) + 1 =
      policy.maxPmReplans - counters.pmReplansUsed +
        (policy.maxArchitectCycles - counters.architectCyclesUsed)
  omega

theorem cyclesLeft_cycle (left' : counters.architectCyclesUsed < policy.maxArchitectCycles) :
    policy.cyclesLeft { counters with architectCyclesUsed := counters.architectCyclesUsed + 1 } + 1 =
      policy.cyclesLeft counters := by
  change policy.maxPmReplans - counters.pmReplansUsed +
    (policy.maxArchitectCycles - (counters.architectCyclesUsed + 1)) + 1 =
      policy.maxPmReplans - counters.pmReplansUsed +
        (policy.maxArchitectCycles - counters.architectCyclesUsed)
  omega

section

variable (edge : Edge policy next event phase phase' counters)

include edge

theorem Edge.within (pmReplans : next.counters.pmReplansUsed ≤ policy.maxPmReplans)
    (architectCycles : next.counters.architectCyclesUsed ≤ policy.maxArchitectCycles) :
    counters.pmReplansUsed ≤ policy.maxPmReplans ∧
      counters.architectCyclesUsed ≤ policy.maxArchitectCycles := by
  cases edge with
  | replanned _ _ left' => exact ⟨left', architectCycles⟩
  | architectRefined left' => exact ⟨pmReplans, left'⟩
  | _ => exact ⟨pmReplans, architectCycles⟩

theorem Edge.dispatches :
    policy.cyclesLeft counters + phase'.credit + (if event = .dispatchStarted then 1 else 0) ≤
      policy.cyclesLeft next.counters + phase.credit := by
  cases edge with
  | accepted phase waiting =>
    rcases waiting with rfl | rfl
    · exact le_refl _
    · exact le_refl _
  | dispatched | compacted | escalated | assigned | completed => exact le_refl _
  | replanned _ reports left' =>
    rw [← cyclesLeft_replan left']
    rcases reports with rfl | ⟨kind, rfl⟩
    · exact le_refl _
    · exact le_refl _
  | pmRefined phase goes =>
    rcases goes with rfl | rfl
    · exact Nat.le_succ _
    · exact le_refl _
  | architectRefined left' =>
    rw [← cyclesLeft_cycle left']
    exact le_refl _

theorem Edge.calls : 4 * policy.cyclesLeft counters + phase'.distance + 1 ≤
      4 * policy.cyclesLeft next.counters + phase.distance := by
  cases edge with
  | accepted phase waiting =>
    rcases waiting with rfl | rfl
    · exact le_refl _
    · exact le_refl _
  | replanned _ _ left' =>
    rw [← cyclesLeft_replan left']
    exact le_refl _
  | pmRefined phase goes =>
    rcases goes with rfl | rfl
    · exact Nat.add_le_add_left (by decide) _
    · exact le_refl _
  | architectRefined left' =>
    rw [← cyclesLeft_cycle left']
    exact le_refl _
  | compacted | escalated | dispatched | assigned | completed => exact le_refl _

end

/-- An edge depends on what has been counted only. -/
theorem Edge.congr {other : State} (edge : Edge policy next event phase phase' counters)
    (counted : next.counters = other.counters) : Edge policy other event phase phase' counters := by
  cases edge with
  | accepted _ waiting => exact counted ▸ .accepted _ waiting
  | dispatched => exact counted ▸ .dispatched
  | compacted => exact counted ▸ .compacted
  | escalated => exact counted ▸ .escalated
  | replanned _ reports left' => exact counted ▸ .replanned _ reports (counted ▸ left')
  | pmRefined _ goes => exact counted ▸ .pmRefined _ goes
  | architectRefined left' => exact counted ▸ .architectRefined (counted ▸ left')
  | assigned => exact counted ▸ .assigned
  | completed => exact counted ▸ .completed

section

variable {fromIsoformat : String → Parsed} {σ : Type}

/-- The event `dispatch-started` was followed by the execution of the work. -/
def Step.dispatches (step : Step fromIsoformat σ) : Bool :=
  coerceEvent step.request.event = .ok .dispatchStarted && step.next.state.phase == .executing

/-- What a call with a policy does to the budgets: it stops, or it moves along an edge. -/
theorem Step.budgets (step : Step fromIsoformat σ)
    (valid : normalizeAutonomousPolicy step.request.policy = .ok policy) :
    (step.next.state.phase = .protectedStop ∧
        step.next.state.counters.pmReplansUsed = step.source.state.counters.pmReplansUsed ∧
        step.next.state.counters.architectCyclesUsed =
          step.source.state.counters.architectCyclesUsed) ∨
      ∃ next event, coerceEvent step.request.event = .ok event ∧
        next.counters.pmReplansUsed = step.source.state.counters.pmReplansUsed ∧
        next.counters.architectCyclesUsed = step.source.state.counters.architectCyclesUsed ∧
        Edge policy next event step.source.state.phase step.next.state.phase
          step.next.state.counters := by
  obtain ⟨context, next, changes, result, prepared, _, moved, sealed'⟩ := step.moved
  have observed := moved.observed
  have samePolicy : context.policy = policy := Except.ok.inj (prepared.policy.symm.trans valid)
  rw [sealed']
  rcases moved.outcome with stopped | ⟨_, _, advanced⟩
  · left
    refine ⟨stopped.phase, ?_, ?_⟩
    · change result.counters.pmReplansUsed = _
      rw [stopped.counters, observed.pmReplans]
    · change result.counters.architectCyclesUsed = _
      rw [stopped.counters, observed.architectCycles]
  · right
    refine ⟨next, context.event, prepared.event, observed.pmReplans, observed.architectCycles, ?_⟩
    have edge := advanced.edge
    rw [samePolicy, prepared.same] at edge
    exact edge

variable (step : Step fromIsoformat σ) (valid : normalizeAutonomousPolicy step.request.policy = .ok policy)

include step valid

theorem Step.within
    (before : WithinLimits policy step.source.state) : WithinLimits policy step.next.state := by
  rcases step.budgets valid with ⟨_, pmReplans, architectCycles⟩ |
    ⟨next, event, coerced, pmReplans, architectCycles, edge⟩
  · exact ⟨pmReplans ▸ before.pmReplans, architectCycles ▸ before.architectCycles⟩
  · have kept := edge.within (pmReplans ▸ before.pmReplans) (architectCycles ▸ before.architectCycles)
    exact ⟨kept.1, kept.2⟩

end

section

variable {fromIsoformat : String → Parsed} {σ : Type} {document policyDocument given : Json}
  {authority : VerifiedAuthority} {limits : Policy} {start : VerifiedState fromIsoformat}

theorem Fresh.within {state : State} (fresh : Fresh state) : WithinLimits policy state := by
  constructor
  · rw [fresh.counters]
    exact Nat.zero_le _
  · rw [fresh.counters]
    exact Nat.zero_le _

theorem Fresh.cyclesLeft {state : State} (fresh : Fresh state) :
    policy.cyclesLeft state.counters = policy.maxPmReplans + policy.maxArchitectCycles := by
  rw [fresh.counters]
  rfl

end

def SameWork (first second : State) : Prop :=
  second.workUnitId = first.workUnitId ∧ second.beadId = first.beadId ∧ second.packetId = first.packetId

/--
A call counts the usage of its evidence, and then stops its lifecycle or takes it along an edge; only a
refinement changes what is approved.
-/
structure Follows (step : Step fromIsoformat σ) : Prop where
  edge : ∃ event policy counters,
    coerceEvent step.request.event = .ok event ∧
      normalizeAutonomousPolicy step.request.policy = .ok policy ∧
      applyUsage step.source.state.counters step.request.evidence = .ok counters ∧
      (step.next.state.phase = .protectedStop ∧ step.next.state.counters = counters ∨
        Edge policy { step.source.state with counters } event step.source.state.phase
          step.next.state.phase step.next.state.counters)
  unrefined : (∀ event, coerceEvent step.request.event = .ok event → event.refines = false) →
    Unrefined step.source.state step.next.state

theorem Step.follows (step : Step fromIsoformat σ) :
    SameWork step.source.state step.next.state ∧ Follows step := by
  obtain ⟨context, next, _, result, prepared, _, ⟨observed, kept, _, outcome⟩, minted⟩ := step.moved
  obtain ⟨_, _, counters, _, _, usage, _, _, _, counted, _⟩ := observe_eq prepared.observed
  have source := prepared.same
  rw [← source] at observed
  refine ⟨?_, ?_, fun plain => ?_⟩
  · rw [minted, ← source]
    exact ⟨kept.workUnitId.trans observed.workUnitId, kept.beadId.trans observed.beadId,
      kept.packetId.trans observed.packetId⟩
  · refine ⟨_, _, counters, prepared.event, prepared.policy, usage, ?_⟩
    rw [minted, ← source]
    rcases outcome with stopped | ⟨_, _, advanced⟩
    · exact .inl ⟨stopped.phase, stopped.counters.trans counted⟩
    · exact .inr (advanced.edge.congr counted)
  · rw [minted, ← source]
    obtain ⟨model, objective, security, allowance, authorizations⟩ := observed.unrefined
    have settled : Unrefined next result := outcome.elim Stopped.unrefined fun advanced =>
      advanced.2.2.unrefined (plain _ prepared.event)
    exact ⟨settled.1.trans model, settled.2.trans objective, settled.3.trans security,
      settled.4.trans allowance, settled.5.trans authorizations⟩

/-- In every run, each state is one of the work unit it began with, and each call follows the graph. -/
theorem run_follows {start : VerifiedState fromIsoformat} (steps : List (Step fromIsoformat σ))
    (run : Run start steps) : ∀ step ∈ steps, SameWork start.state step.next.state ∧ Follows step := by
  have linked : Linked Step.source Step.next start steps := run
  have same := @Linked.invariant _ _ _ _ _ _ (fun state => SameWork start.state state.state) linked
    (fun step _ ⟨unit, bead, packet⟩ => by
      obtain ⟨⟨unit', bead', packet'⟩, _⟩ := step.follows
      exact ⟨unit'.trans unit, bead'.trans bead, packet'.trans packet⟩) ⟨rfl, rfl, rfl⟩
  exact fun step found => ⟨(same step found).2, step.follows.2⟩

theorem run_follows_sample : ∃ (start : VerifiedState noTimes) (steps : List (Step noTimes Unit)),
    steps.length = 6 ∧ ∀ step ∈ steps, SameWork start.state step.next.state ∧ Follows step := by
  obtain ⟨start, steps, _, run, _, phases, _⟩ := sample_run false
  exact ⟨start, steps, by simpa using congrArg List.length phases, run_follows steps run⟩

end WorkOrchestration.Native.Replanning
