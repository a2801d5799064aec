import WorkOrchestration.Native.ReplanningTransitions

/-!
# Steps of a replanning lifecycle

What a call that returns has done. It stopped the lifecycle, or it advanced it along one edge of a small
graph.
-/

namespace WorkOrchestration.Native.Replanning

open Lib.Programs Artifacts Authority ProtectedChanges OperatorApprovals

/-! ## What a branch leaves alone -/

/-- No branch changes whose lifecycle it is, or a flag that the evidence has raised. -/
structure Kept (next result : State) : Prop where
  workUnitId : result.workUnitId = next.workUnitId
  beadId : result.beadId = next.beadId
  packetId : result.packetId = next.packetId
  mutation : result.mutation = next.mutation
  latches : result.latches = next.latches

/-- Only a refinement changes these. -/
structure Unrefined (next result : State) : Prop where
  requestedModel : result.requestedModel = next.requestedModel
  objective : result.objective = next.objective
  securityContext : result.securityContext = next.securityContext
  allowance : result.allowance = next.allowance
  authorizations : result.authorizations = next.authorizations

/-- A state in which the model and the control are as they should be stays so. -/
structure Healthy (next result : State) : Prop where
  modelMatch : next.modelMatch = true → result.modelMatch = true
  controlHealthy : next.controlHealthy = true → result.controlHealthy = true

/-- The lifecycle has been stopped. -/
structure Stopped (next result : State) : Prop where
  phase : result.phase = .protectedStop
  counters : result.counters = next.counters
  kept : Kept next result
  unrefined : Unrefined next result

/-- The edges along which events advance a lifecycle, and what they count. -/
inductive Edge (policy : Policy) (next : State) : Event → Phase → Phase → Counters → Prop where
  | accepted (phase : Phase) (waiting : phase = .planned ∨ phase = .commitmentRequired) :
      Edge policy next .accepted phase .dispatchable next.counters
  | dispatched : Edge policy next .dispatchStarted .dispatchable .executing
        { next.counters with dispatches := next.counters.dispatches + 1 }
  | compacted : Edge policy next .workerCompaction .executing .architectRealignment next.counters
  | escalated : Edge policy next .needsReplan .executing .architectRealignment next.counters
  | replanned (event : Event) (reports : event = .needsReplan ∨ ∃ kind, event = .exploration kind)
      (left : next.counters.pmReplansUsed < policy.maxPmReplans) :
      Edge policy next event .executing .pmRealignment
        { next.counters with pmReplansUsed := next.counters.pmReplansUsed + 1 }
  | pmRefined (phase : Phase) (goes : phase = .architectRealignment ∨ phase = .reassignmentReady) :
      Edge policy next .pmRefined .pmRealignment phase next.counters
  | architectRefined (left : next.counters.architectCyclesUsed < policy.maxArchitectCycles) :
      Edge policy next .architectRefined .architectRealignment .reassignmentReady
        { next.counters with architectCyclesUsed := next.counters.architectCyclesUsed + 1 }
  | assigned : Edge policy next .freshWorkerAssigned .reassignmentReady .dispatchable next.counters
  | completed : Edge policy next .completed .executing .completed next.counters

/-- The branch of the event advances the lifecycle without a look at the scope of the mutation. -/
def Context.Blind (context : Context) (next : State) : Prop :=
  match context.event with
  | .accepted => (context.source.phase = .planned ∨ context.source.phase = .commitmentRequired) ∧
      getOr context.evidence "commitment_accepted" (.bool true) = .bool true
  | .dispatchStarted => context.source.phase = .dispatchable
  | .pmRefined => context.source.phase = .pmRealignment
  | .architectRefined => context.source.phase = .architectRealignment ∧
      next.counters.architectCyclesUsed < context.policy.maxArchitectCycles
  | .freshWorkerAssigned => context.source.phase = .reassignmentReady
  | .completed => context.source.phase = .executing ∧ context.evidenceTruth "completed" = true
  | _ => False

/-- The lifecycle has been advanced. -/
structure Advanced (context : Context) (next result : State) : Prop where
  edge : Edge context.policy next context.event context.source.phase result.phase result.counters
  kept : Kept next result
  healthy : Healthy next result
  unrefined : context.event.refines = false → Unrefined next result
  within : next.checkAggregateAllowance = [] → result.checkAggregateAllowance = []
  looked : next.mutation.outOfScope = false ∨ context.Blind next

/-! ## Branches -/

variable {context : Context} {next changed result : State}

@[simp] theorem unlessHolds_eq_nil {condition : Bool} {error : String} :
    unlessHolds condition error = [] ↔ condition = true := by
  unfold unlessHolds
  split <;> simp_all

theorem conclude_ok {decision : String} (concluded : context.conclude decision next = .ok result) :
    ∃ receipt, result = { next with receipt } := by
  obtain ⟨receipt, _, made⟩ := bind_ok concluded
  cases made
  exact ⟨receipt, rfl⟩

theorem protectedStop_ok {reasons : List String} {action : String}
    (stopped : context.protectedStop changed reasons action = .ok result) (kept : Kept next changed)
    (unrefined : Unrefined next changed) (counters : changed.counters = next.counters) :
    Stopped next result := by
  obtain ⟨receipt, rfl⟩ := conclude_ok stopped
  exact ⟨rfl, counters, ⟨kept.1, kept.2, kept.3, kept.4, kept.5⟩,
    ⟨unrefined.1, unrefined.2, unrefined.3, unrefined.4, unrefined.5⟩⟩

theorem stop_ok {reasons : List String} (stopped : context.stop changed reasons = .ok result)
    (kept : Kept next changed) (unrefined : Unrefined next changed)
    (counters : changed.counters = next.counters) : Stopped next result :=
  protectedStop_ok stopped kept unrefined counters

theorem refuse_ok {condition : Prop} [Decidable condition] {message : String} {value : Unit}
    (passed : refuse condition message = .ok value) : ¬ condition := by
  unfold refuse at passed
  split at passed
  · cases passed
  · assumption

theorem validFrom_ok {phases : List Phase} {message : String} {value : Unit}
    (passed : context.validFrom phases message = .ok value) : context.source.phase ∈ phases := by
  have listed := refuse_ok passed
  simpa using listed

theorem checkAggregateAllowance_eq (toolCallsHard : result.allowance.toolCallsHard = next.allowance.toolCallsHard)
    (runtimeHard : result.allowance.runtimeSecondsHard = next.allowance.runtimeSecondsHard)
    (toolCalls : result.counters.toolCallsUsed = next.counters.toolCallsUsed)
    (runtime : result.counters.runtimeSecondsUsed = next.counters.runtimeSecondsUsed) :
    result.checkAggregateAllowance = next.checkAggregateAllowance := by
  unfold State.checkAggregateAllowance State.remainingAllowance
  rw [toolCallsHard, runtimeHard, toolCalls, runtime]

theorem Unrefined.allowance_kept (unrefined : Unrefined next changed)
    (counters : changed.counters = next.counters) :
    changed.checkAggregateAllowance = next.checkAggregateAllowance := by
  apply checkAggregateAllowance_eq
  · rw [unrefined.allowance]
  · rw [unrefined.allowance]
  · rw [counters]
  · rw [counters]

/-- What a branch shows of the lifecycle that it has changed, for which it then makes a receipt. -/
theorem advanced_ok {decision : String} (decided : context.conclude decision changed = .ok result)
    (kept : Kept next changed) (unrefined : Unrefined next changed)
    (edge : Edge context.policy next context.event context.source.phase changed.phase changed.counters)
    (healthy : Healthy next changed)
    (within : changed.checkAggregateAllowance = next.checkAggregateAllowance)
    (looked : next.mutation.outOfScope = false ∨ context.Blind next) : Advanced context next result := by
  obtain ⟨receipt, rfl⟩ := conclude_ok decided
  exact ⟨edge, ⟨kept.1, kept.2, kept.3, kept.4, kept.5⟩, ⟨healthy.1, healthy.2⟩,
    fun _ => ⟨unrefined.1, unrefined.2, unrefined.3, unrefined.4, unrefined.5⟩,
    fun before => within.trans before, looked⟩

theorem accepted_ok (event : context.event = .accepted)
    (decided : context.accepted next = .ok result) :
    Stopped next result ∨ Advanced context next result := by
  obtain ⟨_, valid, decided⟩ := bind_ok decided
  have phase := validFrom_ok valid
  split at decided
  · rename_i commitment
    right
    have waiting : context.source.phase = .planned ∨
        context.source.phase = .commitmentRequired := by
      simpa using phase
    refine advanced_ok decided ⟨rfl, rfl, rfl, rfl, rfl⟩ ⟨rfl, rfl, rfl, rfl, rfl⟩ ?_ ⟨id, id⟩ rfl (.inr ?_)
    · rw [event]
      exact .accepted _ waiting
    · rw [Context.Blind, event]
      exact ⟨waiting, commitment⟩
  · exact .inl (stop_ok decided ⟨rfl, rfl, rfl, rfl, rfl⟩ ⟨rfl, rfl, rfl, rfl, rfl⟩ rfl)
  · cases decided

theorem dispatchStarted_ok (event : context.event = .dispatchStarted)
    (decided : context.dispatchStarted next = .ok result) : Advanced context next result := by
  obtain ⟨_, valid, decided⟩ := bind_ok decided
  have phase : context.source.phase = .dispatchable := by simpa using validFrom_ok valid
  refine advanced_ok decided ⟨rfl, rfl, rfl, rfl, rfl⟩ ⟨rfl, rfl, rfl, rfl, rfl⟩ ?_ ⟨id, id⟩ rfl (.inr ?_)
  · rw [event, phase]
    exact .dispatched
  · rw [Context.Blind, event]
    exact phase

theorem afterCompaction_ok {trusted contained : Bool} (event : context.event = .workerCompaction)
    (phase : context.source.phase = .executing)
    (decided : context.afterCompaction changed trusted contained = .ok result)
    (kept : Kept next changed) (unrefined : Unrefined next changed)
    (counters : changed.counters = next.counters) :
    Stopped next result ∨ Advanced context next result := by
  unfold Context.afterCompaction at decided
  split at decided
  · rename_i clean
    right
    simp only [Context.compactionReasons, List.append_eq_nil_iff, unlessHolds_eq_nil,
      Bool.not_eq_true'] at clean
    obtain ⟨⟨⟨⟨⟨⟨⟨_, exactModel⟩, controlHealthy⟩, _⟩, within⟩, _⟩, _⟩, _⟩ := clean
    refine advanced_ok decided ⟨kept.1, kept.2, kept.3, kept.4, kept.5⟩
      ⟨unrefined.1, unrefined.2, unrefined.3, unrefined.4, unrefined.5⟩ ?_
      ⟨fun _ => exactModel, fun _ => controlHealthy⟩ (unrefined.allowance_kept counters)
      (.inl (kept.mutation ▸ within))
    rw [event, phase, counters]
    exact .compacted
  · exact .inl (protectedStop_ok decided kept unrefined counters)

theorem workerCompaction_ok (event : context.event = .workerCompaction)
    (decided : context.workerCompaction next = .ok result) :
    Stopped next result ∨ Advanced context next result := by
  obtain ⟨_, valid, decided⟩ := bind_ok decided
  have phase : context.source.phase = .executing := by simpa using validFrom_ok valid
  obtain ⟨mainThread, _, decided⟩ := bind_ok decided
  obtain ⟨trusted, _, decided⟩ := bind_ok decided
  obtain ⟨exactModel, _, decided⟩ := bind_ok decided
  obtain ⟨controlHealthy, _, decided⟩ := bind_ok decided
  obtain ⟨contained, _, decided⟩ := bind_ok decided
  exact afterCompaction_ok event phase decided ⟨rfl, rfl, rfl, rfl, rfl⟩ ⟨rfl, rfl, rfl, rfl, rfl⟩
    rfl

section

variable (event : context.event = .needsReplan)

include event

theorem realign_ok {replan : Json}
    (phase : context.source.phase = .executing) (kept : Kept next changed)
    (unrefined : Unrefined next changed) (counters : changed.counters = next.counters)
    (healthy : Healthy next changed) (within : next.mutation.outOfScope = false)
    (decided : context.realign changed replan = .ok result) :
    Stopped next result ∨ Advanced context next result := by
  have allowance := unrefined.allowance_kept counters
  unfold Context.realign at decided
  split at decided
  · right
    refine advanced_ok decided ⟨kept.1, kept.2, kept.3, kept.4, kept.5⟩
      ⟨unrefined.1, unrefined.2, unrefined.3, unrefined.4, unrefined.5⟩ ?_ ⟨healthy.1, healthy.2⟩
      allowance (.inl within)
    rw [event, phase, counters]
    exact .escalated
  · split at decided
    · exact .inl (stop_ok decided kept unrefined counters)
    · rename_i left'
      right
      refine advanced_ok decided ⟨kept.1, kept.2, kept.3, kept.4, kept.5⟩
        ⟨unrefined.1, unrefined.2, unrefined.3, unrefined.4, unrefined.5⟩ ?_ ⟨healthy.1, healthy.2⟩
        allowance (.inl within)
      rw [counters] at left' ⊢
      rw [event, phase]
      exact .replanned _ (.inl rfl) (not_le.mp left')

theorem afterReport_ok {health : Context.Health} {replanErrors : List String}
    (phase : context.source.phase = .executing)
    (decided : context.afterReport changed health replanErrors = .ok result)
    (kept : Kept next changed) (unrefined : Unrefined next changed)
    (counters : changed.counters = next.counters)
    (modelMatch : changed.modelMatch = (next.modelMatch && health.exactModel))
    (controlHealthy : changed.controlHealthy = (next.controlHealthy && health.controlHealthy)) :
    Stopped next result ∨ Advanced context next result := by
  unfold Context.afterReport at decided
  split at decided
  · exact .inl (stop_ok decided kept unrefined counters)
  · rename_i clean
    simp only [ne_eq, not_not, Context.replanReasons, List.append_eq_nil_iff, unlessHolds_eq_nil,
      Bool.not_eq_true'] at clean
    obtain ⟨⟨⟨⟨⟨⟨_, exact'⟩, control'⟩, within⟩, _⟩, _⟩, _⟩ := clean
    split at decided
    · exact .inl (stop_ok decided kept unrefined counters)
    · apply realign_ok event phase kept unrefined counters _ (kept.mutation ▸ within) decided
      constructor
      · intro before
        rw [modelMatch, before, exact']
        rfl
      · intro before
        rw [controlHealthy, before, control']
        rfl

theorem needsReplan_ok (decided : context.needsReplan next = .ok result) :
    Stopped next result ∨ Advanced context next result := by
  obtain ⟨_, valid, decided⟩ := bind_ok decided
  have phase : context.source.phase = .executing := by simpa using validFrom_ok valid
  obtain ⟨trusted, _, decided⟩ := bind_ok decided
  obtain ⟨exactModel, _, decided⟩ := bind_ok decided
  obtain ⟨controlHealthy, _, decided⟩ := bind_ok decided
  obtain ⟨replanErrors, _, decided⟩ := bind_ok decided
  exact afterReport_ok event phase decided ⟨rfl, rfl, rfl, rfl, rfl⟩ ⟨rfl, rfl, rfl, rfl, rfl⟩ rfl
    rfl rfl

end

theorem afterExploration_ok {kind : Exploration} {health : Context.Health}
    (event : context.event = .exploration kind) (phase : context.source.phase = .executing)
    (decided : context.afterExploration kind changed health = .ok result) (kept : Kept next changed) (unrefined : Unrefined next changed)
    (counters : changed.counters = next.counters) (modelMatch : changed.modelMatch = health.exactModel)
    (controlHealthy : changed.controlHealthy = (next.controlHealthy && health.controlHealthy)) :
    Stopped next result ∨ Advanced context next result := by
  unfold Context.afterExploration at decided
  split at decided
  · rename_i clean
    right
    simp only [Context.explorationReasons, List.append_eq_nil_iff, unlessHolds_eq_nil,
      Bool.not_eq_true', decide_eq_true_eq] at clean
    obtain ⟨⟨⟨⟨⟨⟨⟨⟨⟨_, exact'⟩, control'⟩, within⟩, _⟩, _⟩, _⟩, _⟩, _⟩, left'⟩ := clean
    refine advanced_ok decided ⟨kept.1, kept.2, kept.3, kept.4, kept.5⟩
      ⟨unrefined.1, unrefined.2, unrefined.3, unrefined.4, unrefined.5⟩ ?_
      ⟨fun _ => modelMatch.trans exact', fun before => by
        rw [controlHealthy, before, control']
        rfl⟩ (unrefined.allowance_kept counters) (.inl (kept.mutation ▸ within))
    rw [counters] at left' ⊢
    rw [event, phase]
    exact .replanned _ (.inr ⟨kind, rfl⟩) left'
  · exact .inl (stop_ok decided kept unrefined counters)

theorem exploration_ok {kind : Exploration} (event : context.event = .exploration kind)
    (decided : context.exploration kind next = .ok result) :
    Stopped next result ∨ Advanced context next result := by
  obtain ⟨_, valid, decided⟩ := bind_ok decided
  have phase : context.source.phase = .executing := by simpa using validFrom_ok valid
  obtain ⟨trusted, _, decided⟩ := bind_ok decided
  obtain ⟨exactModel, _, decided⟩ := bind_ok decided
  obtain ⟨controlHealthy, _, decided⟩ := bind_ok decided
  exact afterExploration_ok event phase decided ⟨rfl, rfl, rfl, rfl, rfl⟩ ⟨rfl, rfl, rfl, rfl, rfl⟩
    rfl rfl rfl

theorem freshWorkerAssigned_ok (event : context.event = .freshWorkerAssigned)
    (decided : context.freshWorkerAssigned next = .ok result) : Advanced context next result := by
  obtain ⟨_, valid, decided⟩ := bind_ok decided
  have phase : context.source.phase = .reassignmentReady := by simpa using validFrom_ok valid
  refine advanced_ok decided ⟨rfl, rfl, rfl, rfl, rfl⟩ ⟨rfl, rfl, rfl, rfl, rfl⟩ ?_ ⟨id, id⟩ rfl (.inr ?_)
  · rw [event, phase]
    exact .assigned
  · rw [Context.Blind, event]
    exact phase

theorem completed_ok (event : context.event = .completed)
    (decided : context.completed next = .ok result) :
    Stopped next result ∨ Advanced context next result := by
  obtain ⟨_, valid, decided⟩ := bind_ok decided
  have phase : context.source.phase = .executing := by simpa using validFrom_ok valid
  split at decided
  · rename_i finished
    right
    refine advanced_ok decided ⟨rfl, rfl, rfl, rfl, rfl⟩ ⟨rfl, rfl, rfl, rfl, rfl⟩ ?_ ⟨id, id⟩ rfl (.inr ?_)
    · rw [event, phase]
      exact .completed
    · rw [Context.Blind, event]
      exact ⟨phase, finished⟩
  · exact .inl (stop_ok decided ⟨rfl, rfl, rfl, rfl, rfl⟩ ⟨rfl, rfl, rfl, rfl, rfl⟩ rfl)

/-! ## Refinements -/

variable {fromIsoformat : String → Parsed} {σ : Type} {state candidate refined : State}
  {policy : Policy} {stateSha256 changes : Json} {authorizer : Option (Authorizer σ)}
  {receipts : Option Json} {request : Request σ} {before after : σ}

/-- A candidate differs in the protected fields only, and its allowance covers what was used. -/
structure Proposed (state candidate : State) : Prop where
  kept : Kept state candidate
  counters : candidate.counters = state.counters
  modelMatch : candidate.modelMatch = state.modelMatch
  controlHealthy : candidate.controlHealthy = state.controlHealthy
  authorizations : candidate.authorizations = state.authorizations
  within : state.checkAggregateAllowance = [] → candidate.checkAggregateAllowance = []

theorem proposedAllowance_ok {allowance : Allowance}
    (proposed : proposedAllowance state changes policy = .ok allowance) :
    allowance = state.allowance ∨ { state with allowance }.checkAggregateAllowance = [] := by
  unfold proposedAllowance at proposed
  split at proposed
  · cases proposed
    exact .inl rfl
  · obtain ⟨_, _, proposed⟩ := bind_ok proposed
    obtain ⟨_, _, proposed⟩ := bind_ok proposed
    obtain ⟨normalized, _, proposed⟩ := bind_ok proposed
    obtain ⟨_, covered, proposed⟩ := bind_ok proposed
    cases proposed
    exact .inr (not_not.mp (refuse_ok covered))

theorem refinementCandidate_ok (made : refinementCandidate state changes policy = .ok candidate) :
    Proposed state candidate := by
  obtain ⟨_, _, made⟩ := bind_ok made
  obtain ⟨objective, _, made⟩ := bind_ok made
  obtain ⟨requestedModel, _, made⟩ := bind_ok made
  obtain ⟨securityContext, _, made⟩ := bind_ok made
  obtain ⟨allowance, proposed, made⟩ := bind_ok made
  obtain ⟨_, _, made⟩ := bind_ok made
  cases made
  refine ⟨⟨rfl, rfl, rfl, rfl, rfl⟩, rfl, rfl, rfl, rfl, ?_⟩
  intro covered
  rcases proposedAllowance_ok proposed with rfl | within
  · exact covered
  · exact within

theorem applyOperatorProtectedRefinement_returns {audit : List Json}
    (returned : applyOperatorProtectedRefinement fromIsoformat state stateSha256 changes policy
      authorizer receipts before = .ok (refined, audit) after) :
    ∃ candidate assessment payload approvals,
      refinementCandidate state changes policy = .ok candidate ∧
      assessRefinement state candidate stateSha256 = .ok assessment ∧
      approveRefinement fromIsoformat authorizer assessment payload
        (state.authorizations.map (Json.value "nonce")) before = .ok approvals after ∧
      audit = approvals.map Approval.audit ∧
      refined = { candidate with authorizations := state.authorizations ++ audit } := by
  obtain ⟨candidate, made, returned⟩ := bind_ofExcept_returns returned
  obtain ⟨assessment, assessed, returned⟩ := bind_ofExcept_returns returned
  obtain ⟨payload, _, returned⟩ := bind_ofExcept_returns returned
  obtain ⟨approvals, _, approved, returned⟩ := bind_returns returned
  cases returned
  exact ⟨candidate, assessment, payload, approvals, made, assessed, approved, rfl, rfl⟩

/-- Whether it proposes something or nothing, a refinement keeps what is not protected. -/
structure Refined (state refined : State) : Prop where
  kept : Kept state refined
  counters : refined.counters = state.counters
  modelMatch : refined.modelMatch = state.modelMatch
  controlHealthy : refined.controlHealthy = state.controlHealthy
  within : state.checkAggregateAllowance = [] → refined.checkAggregateAllowance = []

theorem refinement_returns {proposal : Option Json} {audit : List Json}
    (returned : refinement fromIsoformat state stateSha256 proposal policy authorizer receipts before =
      .ok (refined, audit) after) : Refined state refined := by
  cases proposal with
  | none =>
    cases returned
    exact ⟨⟨rfl, rfl, rfl, rfl, rfl⟩, rfl, rfl, rfl, id⟩
  | some changes =>
    obtain ⟨candidate, _, _, _, made, _, _, _, rfl⟩ :=
      applyOperatorProtectedRefinement_returns returned
    have proposed := refinementCandidate_ok made
    have kept := proposed.kept
    exact ⟨⟨kept.1, kept.2, kept.3, kept.4, kept.5⟩, proposed.counters, proposed.modelMatch,
      proposed.controlHealthy, proposed.within⟩

theorem advanced_of_refined (refines : context.event.refines = true)
    (refined_ok : Refined next refined)
    (edge : Edge context.policy next context.event context.source.phase result.phase result.counters)
    (blind : context.Blind next) (kept : Kept refined result) (healthy : Healthy refined result)
    (within : refined.checkAggregateAllowance = [] → result.checkAggregateAllowance = []) :
    Advanced context next result where
  edge := edge
  kept := ⟨kept.1.trans refined_ok.kept.1, kept.2.trans refined_ok.kept.2,
    kept.3.trans refined_ok.kept.3, kept.4.trans refined_ok.kept.4, kept.5.trans refined_ok.kept.5⟩
  healthy := by
    constructor
    · intro before
      exact healthy.modelMatch (refined_ok.modelMatch.trans before)
    · intro before
      exact healthy.controlHealthy (refined_ok.controlHealthy.trans before)
  unrefined := by
    intro impossible
    rw [refines] at impossible
    cases impossible
  within := fun before => within (refined_ok.within before)
  looked := .inr blind

variable {proposal : Option Json}

theorem pmRefined_returns (event : context.event = .pmRefined)
    (returned : pmRefined fromIsoformat context next stateSha256 proposal request before =
      .ok result after) : Advanced context next result := by
  obtain ⟨_, valid, returned⟩ := bind_ofExcept_returns returned
  have phase : context.source.phase = .pmRealignment := by simpa using validFrom_ok valid
  obtain ⟨requiresArchitect, _, returned⟩ := bind_ofExcept_returns returned
  obtain ⟨refined, _, refining, returned⟩ := bind_returns returned
  have concluded := (ofExcept_returns returned).1
  have refined_ok := refinement_returns refining
  obtain ⟨receipt, rfl⟩ := conclude_ok concluded
  apply advanced_of_refined (by rw [event]; rfl) refined_ok
  · rw [event, phase, refined_ok.counters]
    apply Edge.pmRefined
    cases requiresArchitect with
    | false => exact .inr rfl
    | true => exact .inl rfl
  · rw [Context.Blind, event]
    exact phase
  · exact ⟨rfl, rfl, rfl, rfl, rfl⟩
  · exact ⟨id, id⟩
  · exact id

theorem architectRefined_returns (event : context.event = .architectRefined)
    (returned : architectRefined fromIsoformat context next stateSha256 proposal request before =
      .ok result after) : Stopped next result ∨ Advanced context next result := by
  obtain ⟨_, valid, returned⟩ := bind_ofExcept_returns returned
  have phase : context.source.phase = .architectRealignment := by simpa using validFrom_ok valid
  split at returned
  · have stopped := (ofExcept_returns returned).1
    exact .inl (stop_ok stopped ⟨rfl, rfl, rfl, rfl, rfl⟩ ⟨rfl, rfl, rfl, rfl, rfl⟩ rfl)
  · rename_i left'
    right
    obtain ⟨refined, _, refining, returned⟩ := bind_returns returned
    have concluded := (ofExcept_returns returned).1
    have refined_ok := refinement_returns refining
    obtain ⟨receipt, rfl⟩ := conclude_ok concluded
    apply advanced_of_refined (by rw [event]; rfl) refined_ok
    · rw [event, phase, refined_ok.counters]
      exact .architectRefined (not_le.mp left')
    · rw [Context.Blind, event]
      exact ⟨phase, not_le.mp left'⟩
    · exact ⟨rfl, rfl, rfl, rfl, rfl⟩
    · exact ⟨id, id⟩
    · exact id

theorem decideEvent_returns
    (returned : decideEvent fromIsoformat context next stateSha256 proposal request before =
      .ok result after) : Stopped next result ∨ Advanced context next result := by
  cases event : context.event with
  | accepted =>
    rw [decideEvent, event] at returned
    exact accepted_ok event (ofExcept_returns returned).1
  | dispatchStarted =>
    rw [decideEvent, event] at returned
    exact .inr (dispatchStarted_ok event (ofExcept_returns returned).1)
  | needsReplan =>
    rw [decideEvent, event] at returned
    exact needsReplan_ok event (ofExcept_returns returned).1
  | exploration kind =>
    rw [decideEvent, event] at returned
    exact exploration_ok event (ofExcept_returns returned).1
  | workerCompaction =>
    rw [decideEvent, event] at returned
    exact workerCompaction_ok event (ofExcept_returns returned).1
  | pmRefined =>
    rw [decideEvent, event] at returned
    exact .inr (pmRefined_returns event returned)
  | architectRefined =>
    rw [decideEvent, event] at returned
    exact architectRefined_returns event returned
  | freshWorkerAssigned =>
    rw [decideEvent, event] at returned
    exact .inr (freshWorkerAssigned_ok event (ofExcept_returns returned).1)
  | completed =>
    rw [decideEvent, event] at returned
    exact completed_ok event (ofExcept_returns returned).1
  | stop stopEvent =>
    rw [decideEvent, event] at returned
    cases returned

theorem stopReasons_eq_nil {event : Event} (none' : stopReasons event next = []) :
    terminalReasons next = [] ∧ next.checkAggregateAllowance = [] := by
  unfold stopReasons at none'
  split at none'
  · rename_i troubled
    exact absurd none' troubled
  · rename_i untroubled
    split at none'
    · cases none'
    · exact ⟨not_not.mp untroubled, none'⟩

theorem settle_returns
    (returned : settle fromIsoformat context next stateSha256 proposal request before =
      .ok result after) :
    Stopped next result ∨ (terminalReasons next = [] ∧ next.checkAggregateAllowance = [] ∧
        Advanced context next result) := by
  unfold settle at returned
  split at returned
  · have stopped := (ofExcept_returns returned).1
    exact .inl (stop_ok stopped ⟨rfl, rfl, rfl, rfl, rfl⟩ ⟨rfl, rfl, rfl, rfl, rfl⟩ rfl)
  · rename_i untroubled
    obtain ⟨flags, covered⟩ := stopReasons_eq_nil (not_not.mp untroubled)
    rcases decideEvent_returns returned with stopped | advanced
    · exact .inl stopped
    · exact .inr ⟨flags, covered, advanced⟩

/-! ## Calls -/

/-- What a call has recorded before it decides. -/
structure Observed (source next : State) : Prop where
  phase : next.phase = source.phase
  workUnitId : next.workUnitId = source.workUnitId
  beadId : next.beadId = source.beadId
  packetId : next.packetId = source.packetId
  unrefined : Unrefined source next
  modelMatch : next.modelMatch = source.modelMatch
  controlHealthy : next.controlHealthy = source.controlHealthy
  outOfScope : source.mutation.outOfScope = true → next.mutation.outOfScope = true
  tainted : source.mutation.tainted = true → next.mutation.tainted = true
  latched : source.latches.tainted = true → next.latches.tainted = true
  contradictory : source.latches.contradictoryValidation = true →
    next.latches.contradictoryValidation = true
  same : next.latches.tainted = next.mutation.tainted
  dispatches : next.counters.dispatches = source.counters.dispatches
  pmReplans : next.counters.pmReplansUsed = source.counters.pmReplansUsed
  architectCycles : next.counters.architectCyclesUsed = source.counters.architectCyclesUsed
  toolCalls : source.counters.toolCallsUsed ≤ next.counters.toolCallsUsed
  runtime : source.counters.runtimeSecondsUsed ≤ next.counters.runtimeSecondsUsed
  compactions : source.counters.contextCompactions ≤ next.counters.contextCompactions

theorem observe_ok {source : State} {authority : VerifiedAuthority} {evidence : Json}
    (observed : observe source authority policy evidence = .ok next) : Observed source next := by
  obtain ⟨mainThread, _, observed⟩ := bind_ok observed
  obtain ⟨mutation, _, observed⟩ := bind_ok observed
  obtain ⟨contradictory, _, observed⟩ := bind_ok observed
  obtain ⟨counters, usage, observed⟩ := bind_ok observed
  obtain ⟨toolCalls, _, usage⟩ := bind_ok usage
  obtain ⟨runtime, _, usage⟩ := bind_ok usage
  obtain ⟨compactions, _, usage⟩ := bind_ok usage
  cases usage
  cases observed
  exact {
    phase := rfl, workUnitId := rfl, beadId := rfl, packetId := rfl
    unrefined := ⟨rfl, rfl, rfl, rfl, rfl⟩
    modelMatch := rfl, controlHealthy := rfl
    outOfScope := by
      intro raised
      simp [raised]
    tainted := by
      intro raised
      simp [raised]
    latched := by
      intro raised
      simp [raised]
    contradictory := by
      intro raised
      simp [raised]
    same := rfl, dispatches := rfl, pmReplans := rfl, architectCycles := rfl
    toolCalls := Nat.le_add_right _ _
    runtime := Nat.le_add_right _ _
    compactions := Nat.le_add_right _ _ }

/-- What a call has checked before it decides. -/
structure Prepared (source : VerifiedState fromIsoformat) (request : Request σ) (context : Context)
    (next : State) (changes : Option Json) : Prop where
  same : context.source = source.state
  event : coerceEvent request.event = .ok context.event
  authority : context.authority = request.authority
  policy : normalizeAutonomousPolicy request.policy = .ok context.policy
  evidence : context.evidence = request.evidence
  proposed : proposedChanges context.event request.evidence request.receipts = .ok changes
  observed : observe source.state request.authority context.policy request.evidence = .ok next

theorem prepare_ok {source : VerifiedState fromIsoformat}
    {prepared : Context × State × Option Json} (ready : prepare fromIsoformat source request = .ok prepared) :
    Prepared source request prepared.1 prepared.2.1 prepared.2.2 := by
  obtain ⟨_, _, ready⟩ := bind_ok ready
  obtain ⟨event, coerced, ready⟩ := bind_ok ready
  obtain ⟨_, _, ready⟩ := bind_ok ready
  obtain ⟨policy, normalized, ready⟩ := bind_ok ready
  obtain ⟨evidence, mapping, ready⟩ := bind_ok ready
  obtain ⟨changes, proposed, ready⟩ := bind_ok ready
  obtain ⟨next, observed, ready⟩ := bind_ok ready
  cases ready
  have same : evidence = request.evidence := by
    unfold ensureMapping at mapping
    split at mapping
    · cases mapping
      rfl
    · cases mapping
  subst same
  exact ⟨rfl, coerced, rfl, normalized, rfl, proposed, observed⟩

theorem mintSealed_ok {sealed' : VerifiedState fromIsoformat}
    (minted : mintSealedReplanningState fromIsoformat result = .ok sealed') :
    sealed'.state = result.withHash sealed'.stateSha256 := by
  obtain ⟨stateSha256, _, minted⟩ := bind_ok minted
  unfold sealValid at minted
  split at minted
  · cases minted
    rfl
  · cases minted

theorem transition_returns {source sealed' : VerifiedState fromIsoformat}
    (returned : transitionReplanningState fromIsoformat source request before = .ok sealed' after) :
    ∃ context next changes result, prepare fromIsoformat source request = .ok (context, next, changes) ∧
      settle fromIsoformat context next source.stateSha256 changes request before = .ok result after ∧
      mintSealedReplanningState fromIsoformat result = .ok sealed' := by
  obtain ⟨result, middle, decided, returned⟩ := bind_returns returned
  obtain ⟨⟨context, next, changes⟩, ready, decided⟩ := bind_ofExcept_returns decided
  obtain ⟨minted, same⟩ := ofExcept_returns returned
  rw [same]
  exact ⟨context, next, changes, result, ready, decided, minted⟩

end WorkOrchestration.Native.Replanning
