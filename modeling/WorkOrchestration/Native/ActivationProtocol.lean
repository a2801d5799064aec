import Mathlib.Data.List.Count
import Mathlib.Data.List.Nodup
import WorkOrchestration.Native.ActivationLedger

/-!
# The language of the activation ledger

The replay accepts only histories of one activation: a front of the protocol, with at most one terminal
entry, which comes last.
-/

namespace WorkOrchestration.Native.ActivationLedger

open List Artifacts
open Artifacts.Json (hashable isOneOf)

/-! ## The protocol -/

/-- What an entry records, with the role that it is about. -/
inductive Step where
  | claimAcquired
  | approvalConsumeIntent
  | approvalVerified
  | activationDispatchIntent
  | allocationIntent (role : String)
  | threadBound (role : String)
  | turnIntent (role : String)
  | turnBound (role : String)
  | terminal
  deriving DecidableEq

def opening : List Step :=
  [.claimAcquired, .approvalConsumeIntent, .approvalVerified, .activationDispatchIntent]

def allocationSteps (role : String) : List Step := [.allocationIntent role, .threadBound role]

def turnSteps (role : String) : List Step := [.turnIntent role, .turnBound role]

def calibrationSteps : List Step := allocationSteps "calibration" ++ turnSteps "calibration"

variable (workers : List String)

/-- One activation from the claim to the last worker's turn. -/
def protocol : List Step :=
  opening ++ (calibrationSteps ++ (workers.flatMap allocationSteps ++ workers.flatMap turnSteps))

def stepNamed? (event role : Json) : Option Step :=
  let named (step : String → Step) : Option Step :=
    match role with
    | .str role => some (step role)
    | _ => none
  if event = .str "claim-acquired" then some .claimAcquired
  else if event = .str "approval-consume-intent" then some .approvalConsumeIntent
  else if event = .str "approval-verified" then some .approvalVerified
  else if event = .str "activation-dispatch-intent" then some .activationDispatchIntent
  else if event = .str "allocation-intent" then named .allocationIntent
  else if event = .str "thread-bound" then named .threadBound
  else if event = .str "turn-intent" then named .turnIntent
  else if event = .str "turn-bound" then named .turnBound
  else if event = .str "terminal" then some .terminal
  else none

/-- The step that an entry records. -/
def stepOf? (entry : Json) : Option Step := stepNamed? (entry.value "event") (entry.value "role")

/-! ## Fronts of repeated steps -/

section

variable {steps : String → List Step} {workers : List String} {index : Nat} {role : String}

theorem flatMap_take_succ (found : workers[index]? = some role) :
    (workers.take (index + 1)).flatMap steps = (workers.take index).flatMap steps ++ steps role := by
  rw [take_add_one, found, flatMap_append]
  simp

theorem flatMap_take_isPrefix (index : Nat) :
    (workers.take index).flatMap steps <+: workers.flatMap steps := by
  refine ⟨(workers.drop index).flatMap steps, ?_⟩
  rw [← flatMap_append, take_append_drop]

theorem flatMap_take_append_isPrefix {front : List Step} (found : workers[index]? = some role)
    (begun : front <+: steps role) :
    (workers.take index).flatMap steps ++ front <+: workers.flatMap steps := by
  have whole := @flatMap_take_isPrefix steps workers (index + 1)
  rw [flatMap_take_succ found] at whole
  exact ((prefix_append_right_inj _).mpr begun).trans whole

end

/-! ## Where a replay stands -/

/-- The steps of the allocations that are complete. -/
def allocated : Nat → List Step
  | 0 => []
  | count + 1 => calibrationSteps ++ (workers.take count).flatMap allocationSteps

def pendingAllocationSteps (state : Replay) : List Step :=
  (state.pendingAllocation.map fun pending => Step.allocationIntent pending.role).toList

def pendingTurnSteps (state : Replay) : List Step :=
  (state.pendingTurn.map fun pending => Step.turnIntent pending.role).toList

/-- The steps that have led to a state. -/
def history (state : Replay) : List Step :=
  match state.phase with
  | .new => []
  | .claimed => [.claimAcquired]
  | .approvalIntent => [.claimAcquired, .approvalConsumeIntent]
  | .approvalVerified => [.claimAcquired, .approvalConsumeIntent, .approvalVerified]
  | .allocating =>
    opening ++ (allocated workers state.allocationIndex ++ pendingAllocationSteps state)
  | .calibrationTurning => opening ++ (allocationSteps "calibration" ++ pendingTurnSteps state)
  | .workerTurning =>
    opening ++ (calibrationSteps ++ (workers.flatMap allocationSteps ++
      ((workers.take (state.turnIndex - 1)).flatMap turnSteps ++ pendingTurnSteps state)))
  | .dispatched => protocol workers
  | .terminal => []

/-- What the counters and the pending entries are in each phase. -/
def WellPlaced (state : Replay) : Prop :=
  match state.phase with
  | .new | .claimed | .approvalIntent | .approvalVerified =>
    state.allocationIndex = 0 ∧ state.turnIndex = 0 ∧ state.pendingAllocation = none ∧
      state.pendingTurn = none
  | .allocating =>
    state.pendingTurn = none ∧
      (state.allocationIndex = 0 ∧ state.turnIndex = 0 ∨
        1 ≤ state.allocationIndex ∧ state.turnIndex = 1) ∧
      ∀ pending, state.pendingAllocation = some pending →
        ("calibration" :: workers)[state.allocationIndex]? = some pending.role
  | .calibrationTurning =>
    state.allocationIndex = 1 ∧ state.turnIndex = 0 ∧ state.pendingAllocation = none ∧
      ∀ pending, state.pendingTurn = some pending → pending.role = "calibration"
  | .workerTurning =>
    1 ≤ state.turnIndex ∧ state.turnIndex ≤ workers.length ∧ state.pendingAllocation = none ∧
      ∀ pending, state.pendingTurn = some pending →
        ("calibration" :: workers)[state.turnIndex]? = some pending.role
  | .dispatched => True
  | .terminal => True

variable {workers : List String} {state : Replay}

/-- Before the terminal entry the history is a front of the protocol. -/
theorem history_isPrefix (placed : WellPlaced workers state) :
    history workers state <+: protocol workers := by
  unfold history protocol
  cases phase : state.phase with
  | new | terminal => exact nil_prefix
  | claimed | approvalIntent | approvalVerified => exact ⟨_, rfl⟩
  | dispatched => exact prefix_rfl
  | allocating =>
    simp only [WellPlaced, phase] at placed
    obtain ⟨_, _, pendingRole⟩ := placed
    apply (prefix_append_right_inj opening).mpr
    unfold pendingAllocationSteps
    cases index : state.allocationIndex with
    | zero =>
      cases held : state.pendingAllocation with
      | none => exact nil_prefix
      | some pending =>
        have role := pendingRole pending held
        rw [index] at role
        have calibration : pending.role = "calibration" := (Option.some.inj role).symm
        simp only [Option.map_some, Option.toList_some, calibration]
        exact ⟨_, rfl⟩
    | succ count =>
      simp only [allocated, append_assoc]
      apply (prefix_append_right_inj calibrationSteps).mpr
      cases held : state.pendingAllocation with
      | none =>
        simp only [Option.map_none, Option.toList_none, append_nil]
        exact (flatMap_take_isPrefix count).trans (prefix_append _ _)
      | some pending =>
        have role := pendingRole pending held
        rw [index, getElem?_cons_succ] at role
        have begun : [Step.allocationIntent pending.role] <+: allocationSteps pending.role :=
          ⟨_, rfl⟩
        exact (flatMap_take_append_isPrefix role begun).trans (prefix_append _ _)
  | calibrationTurning =>
    simp only [WellPlaced, phase] at placed
    obtain ⟨_, _, _, pendingRole⟩ := placed
    apply (prefix_append_right_inj opening).mpr
    unfold calibrationSteps pendingTurnSteps
    apply (prefix_append_right_inj _).mpr
    cases held : state.pendingTurn with
    | none => exact nil_prefix
    | some pending =>
      simp only [Option.map_some, pendingRole pending held]
      exact ⟨_, rfl⟩
  | workerTurning =>
    simp only [WellPlaced, phase] at placed
    obtain ⟨started, _, _, pendingRole⟩ := placed
    apply (prefix_append_right_inj opening).mpr
    apply (prefix_append_right_inj calibrationSteps).mpr
    apply (prefix_append_right_inj _).mpr
    unfold pendingTurnSteps
    cases held : state.pendingTurn with
    | none =>
      simp only [Option.map_none, Option.toList_none, append_nil]
      exact flatMap_take_isPrefix _
    | some pending =>
      have role := pendingRole pending held
      obtain ⟨count, turn⟩ := Nat.exists_eq_add_of_le' started
      rw [turn] at role
      have begun : [Step.turnIntent pending.role] <+: turnSteps pending.role := ⟨_, rfl⟩
      rw [turn]
      exact flatMap_take_append_isPrefix role begun

/-! ## What one event does -/

variable {after : Replay} {statement : Statement}

theorem openingEvent_ok {before phase : Phase} {message : String}
    (advanced : openingEvent before phase message state statement = .ok after) :
    state.phase = before ∧ after = { state with phase := phase } := by
  unfold openingEvent require at advanced
  split at advanced
  · rename_i met
    cases advanced
    simp only [Bool.and_eq_true, beq_iff_eq] at met
    exact ⟨met.1, rfl⟩
  · cases advanced

variable {roles : List String}

theorem allocationIntent_ok (advanced : allocationIntent roles state statement = .ok after) :
    ∃ role intentId, roles[state.allocationIndex]? = some role ∧ state.phase = .allocating ∧
      state.pendingAllocation = none ∧ statement.role = .str role ∧
      after = { state with pendingAllocation := some ⟨role, intentId⟩ } := by
  unfold allocationIntent at advanced
  split at advanced
  · rename_i role intentId found _
    split at advanced
    · rename_i met
      cases advanced
      exact ⟨role, intentId, found, met.1, met.2.1, met.2.2.1, rfl⟩
    · cases advanced
  · cases advanced

theorem threadBound_ok (advanced : threadBound roles state statement = .ok after) :
    ∃ pending threadId, state.pendingAllocation = some pending ∧ state.phase = .allocating ∧
      statement.role = .str pending.role ∧
      after = { state with
        threadByRole := (pending.role, threadId) :: state.threadByRole
        pendingAllocation := none
        allocationIndex := state.allocationIndex + 1
        phase :=
          if pending.role = "calibration" then .calibrationTurning
          else if state.allocationIndex + 1 = roles.length then .workerTurning
          else state.phase } := by
  unfold threadBound at advanced
  split at advanced
  · rename_i pending threadId held _
    split at advanced
    · rename_i met
      cases advanced
      exact ⟨pending, threadId, held, met.1, met.2.1, rfl⟩
    · cases advanced
  · cases advanced

theorem turnIntent_ok (advanced : turnIntent roles state statement = .ok after) :
    ∃ role intentId threadId, spelled? statement.role = some role ∧ isTurning state.phase = true ∧
      state.pendingTurn = none ∧ statement.role = (roles[state.turnIndex]?.map .str).getD .null ∧
      after = { state with pendingTurn := some ⟨role, intentId, threadId⟩ } := by
  unfold turnIntent at advanced
  dsimp only at advanced
  split at advanced
  · rename_i role intentId threadId spelled _ _
    split at advanced
    · rename_i met
      cases advanced
      exact ⟨role, intentId, threadId, spelled, met.1, met.2.1, met.2.2.1, rfl⟩
    · cases advanced
  · cases advanced

theorem turnBound_ok (advanced : turnBound roles state statement = .ok after) :
    ∃ pending, state.pendingTurn = some pending ∧ isTurning state.phase = true ∧
      spelled? statement.role = some pending.role ∧
      after = { state with
        pendingTurn := none
        turnIndex := state.turnIndex + 1
        phase :=
          if pending.role = "calibration" then .allocating
          else if state.turnIndex + 1 = roles.length then .dispatched
          else state.phase } := by
  unfold turnBound at advanced
  split at advanced
  · rename_i pending turnId held _
    split at advanced
    · rename_i met
      cases advanced
      exact ⟨pending, held, met.1, met.2.1, rfl⟩
    · cases advanced
  · cases advanced

theorem terminalEvent_ok (advanced : terminalEvent state statement = .ok after) :
    state.phase ≠ .new ∧ after = { state with terminal := true, phase := .terminal } := by
  unfold terminalEvent require at advanced
  split at advanced
  · rename_i met
    cases advanced
    simp only [Bool.and_eq_true, bne_iff_ne] at met
    exact ⟨met.1.1, rfl⟩
  · cases advanced

theorem roleEq_of_spelled {value : Json} {text : String} (spelled : spelled? value = some text)
    (named : text ≠ "None") : value = .str text := by
  cases value with
  | str other =>
    cases spelled
    rfl
  | null =>
    cases spelled
    exact absurd rfl named
  | _ => cases spelled

/-! ## One event extends the history by its step -/

/-- The state after a step, the step and the history that it extends. -/
def Extends (workers : List String) (state after : Replay) (step : Option Step) : Prop :=
  after.terminal = state.terminal ∧ after.phase ≠ .terminal ∧ WellPlaced workers after ∧
    ∃ taken, step = some taken ∧ history workers after = history workers state ++ [taken]

section

variable {workers : List String} {state after : Replay} {statement : Statement}
  (placed : WellPlaced workers state)

include placed

theorem extends_of_opening {before phase : Phase} {message : String} {step : Step}
    (advanced : openingEvent before phase message state statement = .ok after)
    (next : (before, phase, step) ∈ [(Phase.new, Phase.claimed, Step.claimAcquired),
      (.claimed, .approvalIntent, .approvalConsumeIntent),
      (.approvalIntent, .approvalVerified, .approvalVerified),
      (.approvalVerified, .allocating, .activationDispatchIntent)]) :
    Extends workers state after (some step) := by
  obtain ⟨phaseEq, rfl⟩ := openingEvent_ok advanced
  simp only [mem_cons, not_mem_nil, or_false] at next
  rcases next with ⟨rfl, rfl, rfl⟩ | ⟨rfl, rfl, rfl⟩ | ⟨rfl, rfl, rfl⟩ | ⟨rfl, rfl, rfl⟩
  all_goals
    simp only [WellPlaced, phaseEq] at placed
    obtain ⟨allocation, turn, noAllocation, noTurn⟩ := placed
    refine ⟨rfl, by simp, ?_, _, rfl, ?_⟩
    · simp [WellPlaced, allocation, turn, noAllocation, noTurn]
    · simp [history, phaseEq, allocation, allocated, opening, pendingAllocationSteps, noAllocation]

theorem extends_of_allocationIntent
    (advanced : allocationIntent ("calibration" :: workers) state statement = .ok after) :
    Extends workers state after (stepNamed? (.str "allocation-intent") statement.role) := by
  obtain ⟨role, intentId, found, phaseEq, none, roleEq, rfl⟩ := allocationIntent_ok advanced
  simp only [WellPlaced, phaseEq] at placed
  obtain ⟨noTurn, counters, _⟩ := placed
  refine ⟨rfl, by simp [phaseEq], ?_, .allocationIntent role, ?_, ?_⟩
  · simp only [phaseEq]
    refine ⟨noTurn, counters, ?_⟩
    intro pending held
    cases held
    exact found
  · rw [roleEq]
    rfl
  · simp [history, phaseEq, pendingAllocationSteps, none]

theorem extends_of_threadBound (apart : "calibration" ∉ workers)
    (advanced : threadBound ("calibration" :: workers) state statement = .ok after) :
    Extends workers state after (stepNamed? (.str "thread-bound") statement.role) := by
  obtain ⟨pending, threadId, held, phaseEq, roleEq, rfl⟩ := threadBound_ok advanced
  simp only [WellPlaced, phaseEq] at placed
  obtain ⟨noTurn, counters, pendingRole⟩ := placed
  have found := pendingRole pending held
  have step : stepNamed? (.str "thread-bound") statement.role = some (.threadBound pending.role) := by
    rw [roleEq]
    rfl
  rw [step]
  cases index : state.allocationIndex with
  | zero =>
    rw [index] at found
    have calibration : pending.role = "calibration" := (Option.some.inj found).symm
    have turn : state.turnIndex = 0 := by omega
    refine ⟨rfl, by simp [calibration], ?_, _, rfl, ?_⟩
    · simp [WellPlaced, calibration, turn, noTurn]
    · simp [history, phaseEq, calibration, index, allocated, allocationSteps, pendingTurnSteps,
        noTurn, pendingAllocationSteps, held]
  | succ count =>
    rw [index] at found
    have worker : pending.role ≠ "calibration" := by
      intro same
      exact apart (same ▸ mem_of_getElem? found)
    have turn : state.turnIndex = 1 := by omega
    have before : history workers state = opening ++ (calibrationSteps ++
        ((workers.take count).flatMap allocationSteps ++ [.allocationIntent pending.role])) := by
      simp [history, phaseEq, index, allocated, pendingAllocationSteps, held]
    have longer : (workers.take (count + 1)).flatMap allocationSteps =
        (workers.take count).flatMap allocationSteps ++
          ([.allocationIntent pending.role] ++ [.threadBound pending.role]) :=
      flatMap_take_succ found
    by_cases last : count + 1 = workers.length
    · have whole : workers.take (count + 1) = workers := by rw [last, take_length]
      rw [whole] at longer
      refine ⟨rfl, by simp [worker, last], ?_, _, rfl, ?_⟩
      · simp only [WellPlaced, worker, last, length_cons, if_true, turn, noTurn]
        refine ⟨le_rfl, by omega, trivial, ?_⟩
        intro pending held
        cases held
      · rw [before]
        simp [history, worker, last, turn, pendingTurnSteps, noTurn, longer]
    · refine ⟨rfl, by simp [worker, last, phaseEq], ?_, _, rfl, ?_⟩
      · simp only [WellPlaced, worker, last, if_false, length_cons, Nat.add_right_cancel_iff,
          phaseEq, turn, noTurn]
        refine ⟨trivial, .inr ⟨by omega, trivial⟩, ?_⟩
        intro pending held
        cases held
      · rw [before]
        simp [history, worker, last, phaseEq, allocated, pendingAllocationSteps, longer]

theorem extends_of_turnIntent
    (advanced : turnIntent ("calibration" :: workers) state statement = .ok after) :
    Extends workers state after (stepNamed? (.str "turn-intent") statement.role) := by
  obtain ⟨role, intentId, threadId, spelled, turning, none, expected, rfl⟩ :=
    turnIntent_ok advanced
  simp only [isTurning, Bool.or_eq_true, beq_iff_eq] at turning
  rcases turning with phaseEq | phaseEq
  · simp only [WellPlaced, phaseEq] at placed
    obtain ⟨allocation, turn, noAllocation, _⟩ := placed
    rw [turn] at expected
    have roleEq : statement.role = .str "calibration" := expected
    rw [roleEq] at spelled ⊢
    cases spelled
    refine ⟨rfl, by simp [phaseEq], ?_, _, rfl, ?_⟩
    · simp [WellPlaced, phaseEq, allocation, turn, noAllocation]
    · simp [history, phaseEq, pendingTurnSteps, none]
  · simp only [WellPlaced, phaseEq] at placed
    obtain ⟨started, bounded, noAllocation, _⟩ := placed
    obtain ⟨found, foundEq⟩ : ∃ found, ("calibration" :: workers)[state.turnIndex]? = some found :=
      ⟨_, getElem?_eq_getElem (Nat.lt_succ_of_le bounded)⟩
    rw [foundEq] at expected
    have roleEq : statement.role = .str found := expected
    rw [roleEq] at spelled ⊢
    cases spelled
    refine ⟨rfl, by simp [phaseEq], ?_, _, rfl, ?_⟩
    · simp only [phaseEq]
      refine ⟨started, bounded, noAllocation, ?_⟩
      intro pending held
      cases held
      exact foundEq
    · simp [history, phaseEq, pendingTurnSteps, none]

theorem extends_of_turnBound (apart : "calibration" ∉ workers) (named : "None" ∉ workers)
    (advanced : turnBound ("calibration" :: workers) state statement = .ok after) :
    Extends workers state after (stepNamed? (.str "turn-bound") statement.role) := by
  obtain ⟨pending, held, turning, spelled, rfl⟩ := turnBound_ok advanced
  simp only [isTurning, Bool.or_eq_true, beq_iff_eq] at turning
  rcases turning with phaseEq | phaseEq
  · simp only [WellPlaced, phaseEq] at placed
    obtain ⟨allocation, turn, noAllocation, pendingRole⟩ := placed
    have calibration := pendingRole pending held
    have step : stepNamed? (.str "turn-bound") statement.role = some (.turnBound "calibration") := by
      rw [roleEq_of_spelled spelled (by rw [calibration]; decide), calibration]
      rfl
    rw [step]
    refine ⟨rfl, by simp [calibration], ?_, _, rfl, ?_⟩
    · simp [WellPlaced, calibration, allocation, turn, noAllocation]
    · simp [history, phaseEq, calibration, allocation, allocated, calibrationSteps, turnSteps,
        pendingTurnSteps, held, pendingAllocationSteps, noAllocation]
  · simp only [WellPlaced, phaseEq] at placed
    obtain ⟨started, bounded, noAllocation, pendingRole⟩ := placed
    obtain ⟨count, turn⟩ := Nat.exists_eq_add_of_le' started
    have found := pendingRole pending held
    rw [turn, getElem?_cons_succ] at found
    have member := mem_of_getElem? found
    have worker : pending.role ≠ "calibration" := by
      intro same
      exact apart (same ▸ member)
    have step : stepNamed? (.str "turn-bound") statement.role = some (.turnBound pending.role) := by
      have text : pending.role ≠ "None" := by
        intro same
        exact named (same ▸ member)
      rw [roleEq_of_spelled spelled text]
      rfl
    rw [step]
    have before : history workers state = opening ++ (calibrationSteps ++
        (workers.flatMap allocationSteps ++ ((workers.take count).flatMap turnSteps ++
          [.turnIntent pending.role]))) := by
      simp [history, phaseEq, turn, pendingTurnSteps, held]
    have longer : (workers.take (count + 1)).flatMap turnSteps =
        (workers.take count).flatMap turnSteps ++
          ([.turnIntent pending.role] ++ [.turnBound pending.role]) :=
      flatMap_take_succ found
    by_cases last : count + 1 = workers.length
    · have whole : workers.take (count + 1) = workers := by rw [last, take_length]
      rw [whole] at longer
      refine ⟨rfl, by simp [worker, turn, last], ?_, _, rfl, ?_⟩
      · simp [WellPlaced, worker, turn, last]
      · rw [before]
        simp [history, worker, turn, last, protocol, longer]
    · refine ⟨rfl, by simp [worker, turn, last, phaseEq], ?_, _, rfl, ?_⟩
      · simp only [WellPlaced, worker, last, if_false, length_cons, Nat.add_right_cancel_iff,
          phaseEq, turn, noAllocation]
        refine ⟨by omega, by omega, trivial, ?_⟩
        intro pending held
        cases held
      · rw [before]
        simp [history, worker, turn, last, phaseEq, pendingTurnSteps, longer]

end

/-- Every event but the terminal one takes a step of the protocol. -/
theorem advance_ok {event : Json} (apart : "calibration" ∉ workers) (named : "None" ∉ workers)
    (placed : WellPlaced workers state) (known : isOneOf events event = true)
    (advanced : advance ("calibration" :: workers) state event statement = .ok after) :
    Extends workers state after (stepNamed? event statement.role) ∨
      event = .str "terminal" ∧ state.phase ≠ .new ∧ after.terminal = true := by
  cases event with
  | str text =>
    have member : text ∈ events := by simpa [isOneOf] using known
    simp only [events, mem_cons, not_mem_nil, or_false] at member
    rcases member with rfl | rfl | rfl | rfl | rfl | rfl | rfl | rfl | rfl
    · exact .inl (extends_of_opening placed advanced (by decide))
    · exact .inl (extends_of_opening placed advanced (by decide))
    · exact .inl (extends_of_opening placed advanced (by decide))
    · exact .inl (extends_of_opening placed advanced (by decide))
    · exact .inl (extends_of_allocationIntent placed advanced)
    · exact .inl (extends_of_threadBound placed apart advanced)
    · exact .inl (extends_of_turnIntent placed advanced)
    · exact .inl (extends_of_turnBound placed apart named advanced)
    · obtain ⟨begun, rfl⟩ := terminalEvent_ok advanced
      exact .inr ⟨rfl, begun, rfl⟩
  | _ => cases known

/-! ## Replays of whole lists -/

variable {sequence : Nat}

theorem validateEntryShape_ok {entry : Json} (valid : validateEntryShape entry sequence = .ok ()) :
    isOneOf events (entry.value "event") = true := by
  obtain ⟨_, _, valid⟩ := bind_ok valid
  obtain ⟨_, _, valid⟩ := bind_ok valid
  obtain ⟨_, _, valid⟩ := bind_ok valid
  obtain ⟨_, known, _⟩ := bind_ok valid
  exact require_ok.mp known

theorem replayEntry_ok {entry : Json}
    (replayed : replayEntry roles sequence state entry = .ok after) :
    isOneOf events (entry.value "event") = true ∧ state.terminal = false ∧
      ∃ advanced, advance roles state (entry.value "event") (Statement.ofEntry entry) = .ok advanced ∧
        after = { advanced with headEntrySha256 := entry.value "entry_sha256" } := by
  obtain ⟨_, valid, replayed⟩ := bind_ok replayed
  obtain ⟨_, _, replayed⟩ := bind_ok replayed
  obtain ⟨_, alive, replayed⟩ := bind_ok replayed
  obtain ⟨advanced, accepted, replayed⟩ := bind_ok replayed
  cases replayed
  have notDone := require_ok.mp alive
  exact ⟨validateEntryShape_ok valid, by simpa using notDone, advanced, accepted, rfl⟩

variable {entries : List Json}

theorem eq_nil_of_terminal (terminal : state.terminal = true)
    (replayed : replayFrom roles sequence state entries = .ok after) : entries = [] := by
  cases entries with
  | nil => rfl
  | cons entry rest =>
    obtain ⟨next, first, _⟩ := bind_ok replayed
    obtain ⟨_, alive, _⟩ := replayEntry_ok first
    rw [terminal] at alive
    cases alive

theorem replayFrom_steps (apart : "calibration" ∉ workers) (named : "None" ∉ workers)
    (placed : WellPlaced workers state)
    (replayed : replayFrom ("calibration" :: workers) sequence state entries = .ok after) :
    ∃ steps, (history workers state ++ steps <+: protocol workers) ∧
      (entries.map stepOf? = steps.map some ∨
        entries.map stepOf? = (steps ++ [Step.terminal]).map some ∧
          (state.phase = .new → steps ≠ [])) := by
  induction entries generalizing sequence state with
  | nil => exact ⟨[], by simpa using history_isPrefix placed, .inl rfl⟩
  | cons entry rest ih =>
    obtain ⟨next, first, later⟩ := bind_ok replayed
    obtain ⟨known, alive, advanced, accepted, rfl⟩ := replayEntry_ok first
    rcases advance_ok apart named placed known accepted with
      ⟨_, live, placedAfter, taken, step, extended⟩ | ⟨terminal, begun, closed⟩
    · have placedNext : WellPlaced workers { advanced with
          headEntrySha256 := entry.value "entry_sha256" } := placedAfter
      obtain ⟨steps, isFront, cases⟩ := ih placedNext later
      have stepEq : stepOf? entry = some taken := step
      refine ⟨taken :: steps, ?_, ?_⟩
      · have shape : history workers state ++ taken :: steps =
            history workers advanced ++ steps := by
          rw [extended, append_assoc]
          rfl
        rw [shape]
        exact isFront
      · rcases cases with whole | ⟨whole, _⟩
        · refine .inl ?_
          rw [map_cons, map_cons, stepEq, whole]
        · refine .inr ⟨?_, fun _ => cons_ne_nil _ _⟩
          rw [map_cons, stepEq, whole]
          rfl
    · have closedNext : { advanced with
          headEntrySha256 := entry.value "entry_sha256" }.terminal = true := closed
      have last := eq_nil_of_terminal closedNext later
      subst last
      refine ⟨[], by simpa using history_isPrefix placed, .inr ⟨?_, fun new => absurd new begun⟩⟩
      simp [stepOf?, stepNamed?, terminal]

theorem nodup_protocol (profile : Profile) : (protocol profile.workers).Nodup := by
  cases profile <;> decide

theorem Profile.apart (profile : Profile) :
    "calibration" ∉ profile.workers ∧ "None" ∉ profile.workers := by
  cases profile <;> decide

/-- What an accepted list of entries is a history of. -/
structure FollowsProtocol (workers : List String) (entries : List Json) : Prop where
  isFront : ∃ steps, (steps <+: protocol workers) ∧
    (entries.map stepOf? = steps.map some ∨
      entries.map stepOf? = (steps ++ [Step.terminal]).map some ∧ steps ≠ [])
  oneThread : ∀ role, (entries.map stepOf?).count (some (.threadBound role)) ≤ 1
  oneTurn : ∀ role, (entries.map stepOf?).count (some (.turnBound role)) ≤ 1

theorem count_le_one {recorded : List (Option Step)} {steps : List Step} {step : Step}
    (distinct : (protocol workers).Nodup) (isFront : steps <+: protocol workers)
    (cases : recorded = steps.map some ∨
      recorded = (steps ++ [Step.terminal]).map some ∧ steps ≠ []) (inner : step ≠ .terminal) :
    recorded.count (some step) ≤ 1 := by
  have once := nodup_iff_count_le_one.mp (distinct.sublist isFront.sublist) step
  have mapped : (steps.map some).count (some step) = steps.count step :=
    count_map_of_injective steps some (fun _ _ => Option.some.inj) step
  rcases cases with rfl | ⟨rfl, _⟩
  · rw [mapped]
    exact once
  · have other : some Step.terminal ≠ some step := fun same => inner (Option.some.inj same).symm
    rw [map_append, count_append, mapped]
    simp [other, once]

theorem followsProtocol_of_replay {profile : Profile}
    (replayed : replayEntries entries profile.roles = .ok state) :
    FollowsProtocol profile.workers entries := by
  have placed : WellPlaced profile.workers Replay.initial := by
    simp [WellPlaced, Replay.initial]
  obtain ⟨steps, isFront, recorded⟩ :=
    replayFrom_steps profile.apart.1 profile.apart.2 placed replayed
  have fromStart : steps <+: protocol profile.workers := isFront
  have shape : entries.map stepOf? = steps.map some ∨
      entries.map stepOf? = (steps ++ [Step.terminal]).map some ∧ steps ≠ [] := by
    rcases recorded with whole | ⟨whole, nonempty⟩
    · exact .inl whole
    · exact .inr ⟨whole, nonempty rfl⟩
  constructor
  · exact ⟨steps, fromStart, shape⟩
  · intro role
    exact count_le_one (nodup_protocol profile) fromStart shape (by simp)
  · intro role
    exact count_le_one (nodup_protocol profile) fromStart shape (by simp)

/-! ## Appending -/

/-- A call has raised and left the file as it was, or there is one more entry, which it returns if any. -/
def AppendsTo (file : Json) (outcome : Except PyError Json × Json) : Prop :=
  validateActivationLedger outcome.2 = [] ∧
    ((∃ error, outcome.1 = .error error) ∧ outcome.2 = file ∨
      ∃ entries entry, (file.value "entries").elements? = some entries ∧
        (outcome.2.value "entries").elements? = some (entries ++ [entry]) ∧
        ∀ returned, outcome.1 = .ok returned → returned = entry)

theorem sealLedger_ok {value ledger : Json} (sealedAs : sealLedger value = .ok ledger) :
    validateActivationLedger ledger = [] ∧ ledger.value "entries" = value.value "entries" := by
  obtain ⟨digest, _, sealedAs⟩ := bind_ok sealedAs
  obtain ⟨_, accepted, sealedAs⟩ := bind_ok sealedAs
  cases sealedAs
  constructor
  · exact isEmpty_iff.mp (require_ok.mp accepted)
  · simp [Json.value]

/-- What `append` writes is accepted and extends what it read. -/
theorem prepare_ok {world : World} {request : Request} {file entry ledger : Json}
    (prepared : prepare world request file = .ok (entry, ledger)) :
    validateActivationLedger ledger = [] ∧
      ∃ entries, (file.value "entries").elements? = some entries ∧
        (ledger.value "entries").elements? = some (entries ++ [entry]) := by
  obtain ⟨_, _, prepared⟩ := bind_ok prepared
  obtain ⟨_, _, prepared⟩ := bind_ok prepared
  obtain ⟨_, _, prepared⟩ := bind_ok prepared
  obtain ⟨_, _, prepared⟩ := bind_ok prepared
  obtain ⟨_, _, prepared⟩ := bind_ok prepared
  split at prepared
  · split at prepared
    · rename_i entries found
      obtain ⟨entrySha256, _, prepared⟩ := bind_ok prepared
      obtain ⟨_, _, prepared⟩ := bind_ok prepared
      obtain ⟨sealedLedger, sealedAs, prepared⟩ := bind_ok prepared
      cases prepared
      obtain ⟨accepted, kept⟩ := sealLedger_ok sealedAs
      refine ⟨accepted, entries, found, ?_⟩
      rw [kept]
      simp [Json.value, Json.elements?_arr]
    · cases prepared
  · cases prepared

variable {file : Json}

theorem append_extends {world : World} {request : Request}
    (accepted : validateActivationLedger file = []) :
    AppendsTo file (append world request file) := by
  unfold append
  cases prepared : prepare world request file with
  | error error => exact ⟨accepted, .inl ⟨⟨error, rfl⟩, rfl⟩⟩
  | ok result =>
    obtain ⟨entry, ledger⟩ := result
    obtain ⟨valid, entries, found, extended⟩ := prepare_ok prepared
    cases world.replaced with
    | failedBefore error => exact ⟨accepted, .inl ⟨⟨error, rfl⟩, rfl⟩⟩
    | failedAfter error => exact ⟨valid, .inr ⟨entries, entry, found, extended, nofun⟩⟩
    | done =>
      refine ⟨valid, .inr ⟨entries, entry, found, extended, fun returned audited => ?_⟩⟩
      cases logged : world.audited with
      | error error =>
        rw [logged] at audited
        cases audited
      | ok =>
        rw [logged] at audited
        exact (Except.ok.inj audited).symm

/-- The ledger file after calls of its methods. -/
def callAll (file : Json) (calls : List (Method × World)) : Json :=
  calls.foldl (fun file call => (call.1.call call.2 file).2) file

theorem callAll_extends (accepted : validateActivationLedger file = [])
    (calls : List (Method × World)) : validateActivationLedger (callAll file calls) = [] ∧
      ∀ entries, (file.value "entries").elements? = some entries →
        ∃ later, ((callAll file calls).value "entries").elements? = some later ∧ entries <+: later := by
  induction calls generalizing file with
  | nil => exact ⟨accepted, fun entries found => ⟨entries, found, prefix_rfl⟩⟩
  | cons call rest ih =>
    obtain ⟨valid, extended⟩ : AppendsTo file (call.1.call call.2 file) := append_extends accepted
    refine ⟨(ih valid).1, fun entries found => ?_⟩
    rcases extended with ⟨_, same⟩ | ⟨_, entry, old, new, _⟩
    · exact (ih valid).2 entries (by rw [same, found])
    · cases old.symm.trans found
      obtain ⟨later, read, isFront⟩ := (ih valid).2 _ new
      exact ⟨later, read, (prefix_append entries [entry]).trans isFront⟩

theorem replayed_of_accepted (accepted : validateActivationLedger file = []) :
    ∃ (profile : Profile) (entries : List Json) (state : Replay),
      Profile.ofJson? (file.value "profile") = some profile ∧
      (file.value "entries").elements? = some entries ∧
      replayEntries entries profile.roles = .ok state := by
  unfold validateActivationLedger at accepted
  split at accepted
  · rename_i checked
    unfold checkLedger at checked
    iterate 4 obtain ⟨_, _, checked⟩ := bind_ok checked
    split at checked
    · rename_i profile known
      iterate 5 obtain ⟨_, _, checked⟩ := bind_ok checked
      split at checked
      · rename_i entries found
        obtain ⟨state, replayed, _⟩ := bind_ok checked
        exact ⟨profile, entries, state, known, found, replayed⟩
      · cases checked
    · cases checked
  · cases accepted

/-! ## The ledger's language -/

/--
Whatever entries the replay accepts follow the protocol, with at most one thread and
one turn for each role, and every method that appends leaves an accepted ledger an
accepted ledger with one entry more, or raises and leaves it as it is.
-/
theorem activation_ledger_language (profile : Profile) :
    (∀ entries state, replayEntries entries profile.roles = .ok state →
      FollowsProtocol profile.workers entries) ∧
    ∀ (method : Method) (world : World) (file : Json), validateActivationLedger file = [] →
      AppendsTo file (method.call world file) := by
  constructor
  · intro entries state replayed
    exact followsProtocol_of_replay replayed
  · intro method world file accepted
    exact append_extends accepted

def boundIds (event field : String) (entries : List Json) : List Json :=
  (entries.filter (·.value "event" = .str event)).map (·.value field)

/-- Different roles have different threads, turns and intents. -/
def DistinctIds (entries : List Json) : Prop :=
  (boundIds "thread-bound" "subject_id" entries).Nodup ∧
    (boundIds "turn-bound" "subject_id" entries).Nodup ∧
    (boundIds "allocation-intent" "intent_id" entries ++
      boundIds "turn-intent" "intent_id" entries).Nodup

/-- Entries as `append` chains them. -/
def chainEntries : Nat → Json → List Request → List Json
  | _, _, [] => []
  | sequence, head, request :: rest =>
    let unsigned := request.entry "2026-07-27T12:00:00.000Z" sequence head
      (canonicalSha256 .objEnd).json
    let entrySha256 := (canonicalSha256 unsigned.canonical).json
    unsigned.set "entry_sha256" entrySha256 :: chainEntries (sequence + 1) entrySha256 rest

def sampleUuid : Json := .str "00000000-0000-4000-8000-000000000001"

/-- A history in which the calibration and the worker get one thread. -/
def sharedThread : List Json :=
  chainEntries 0 .null
    [⟨"claim-acquired", .null, .null, .null, .objEnd, .null⟩,
      ⟨"approval-consume-intent", .null, .null, .null, .objEnd, .null⟩,
      ⟨"approval-verified", .null, .null, .null, .objEnd, .null⟩,
      ⟨"activation-dispatch-intent", .null, .null, .null, .objEnd, .null⟩,
      ⟨"allocation-intent", .str "calibration", sampleUuid, .null, .objEnd, .null⟩,
      ⟨"thread-bound", .str "calibration", sampleUuid, sampleUuid, .objEnd, .null⟩,
      ⟨"turn-intent", .str "calibration", sampleUuid, sampleUuid, .objEnd, .null⟩,
      ⟨"turn-bound", .str "calibration", sampleUuid, sampleUuid, .objEnd, .null⟩,
      ⟨"allocation-intent", .str "read-only-0", sampleUuid, .null, .objEnd, .null⟩,
      ⟨"thread-bound", .str "read-only-0", sampleUuid, sampleUuid, .objEnd, .null⟩]

theorem sharedThread_accepted :
    (replayEntries sharedThread Profile.n1ReadOnly.roles).toOption.isSome = true := by
  decide +kernel

theorem activation_ledger_language_shared :
    FollowsProtocol Profile.n1ReadOnly.workers sharedThread := by
  cases replayed : replayEntries sharedThread Profile.n1ReadOnly.roles with
  | error error =>
    have accepted := sharedThread_accepted
    rw [replayed] at accepted
    cases accepted
  | ok state => exact (activation_ledger_language .n1ReadOnly).1 sharedThread state replayed

/-- The replay compares ids within a role only: one thread can be bound to two roles. -/
theorem ids_not_distinct_across_roles :
    ¬ ∀ (profile : Profile) (entries : List Json) (state : Replay),
      replayEntries entries profile.roles = .ok state → DistinctIds entries := by
  intro claimed
  cases replayed : replayEntries sharedThread Profile.n1ReadOnly.roles with
  | error error =>
    have accepted := sharedThread_accepted
    rw [replayed] at accepted
    cases accepted
  | ok state =>
    have distinct := (claimed .n1ReadOnly sharedThread state replayed).1
    revert distinct
    decide +kernel

end WorkOrchestration.Native.ActivationLedger
