import WorkOrchestration.Native.PrecommitRuns
import WorkOrchestration.Native.ToolCalls

/-!
# Accepting precommit receipts

An accepting receipt is backed by the whole history of its state, up to tool calls that no check
counts.
-/

namespace WorkOrchestration.Native.Precommit

open List Lib.Runs Lib.Text Artifacts Session
open Supervision (iso elapsedMs)
open ToolCalls Workspace.Baseline

/-! ## What an accepting receipt says -/

/-- No record is a compaction or contains a tool call. -/
def WithoutCalls (records : List Json) : Prop :=
  ∀ record ∈ records, normalizeEventMsg record ≠ some COMPACTION_EVENT ∧
    ∀ item ∈ eventItems record, isToolCallItem item = false

/-- A regular file, or a link that leads to something. -/
def Reached (capture : Capture) (path : String) : Prop :=
  path ∈ walked capture.snapshot capture.resolve ["."]

/-- Git says the same of every path, and all contents outside the excluded directories are the same. -/
structure Unchanged (before after : Capture) : Prop where
  line : ∀ path, before.line path = after.line path
  content : ∀ path, isExcluded path = false →
    before.snapshot.content path = after.snapshot.content path

/-- The history of an accepting receipt is what its flags say. -/
structure Sound (setting : Setting) (past : List Transition) (log : List Json) (sight : Sight)
    (receipt : Receipt) : Prop where
  dispatched : ∃ submission armed now, (∃ step ∈ past, step.Arms armed) ∧
    (∃ step ∈ past, step.Dispatches submission now) ∧
    receipt.state.submissionId = some submission ∧
    elapsedMs (iso armed) now ≤ setting.policy.armToDispatchMaxMs ∧
    Paced (setting.policy.pollIntervalMs + setting.policy.pollLagToleranceMs) (iso now) (polls past)
  polled : polls past ≠ []
  terminal : receipt.terminal = boundaryOf log
  withoutCalls : WithoutCalls (stretch receipt.state log)
  workspace : ∃ created current, (∃ step ∈ past, step.Creates created) ∧
    sight.workspace = .ok current ∧ Unchanged created current
  parsed : ∃ result, receipt.state.fitResult = some result ∧ result.decision = .accept ∧
    parseFitResult setting.loads ((finalResponse (stretch receipt.state log)).getD "") = .ok result
  confirmed : ∃ front close back, past = front ++ close :: back ∧ close.Confirms .closeConfirmed ∧
    ∃ worker ∈ front, worker.Confirms .workerCompleted

/-- Some step creates the state from a capture. -/
def CreatedFrom (past : List Transition) (capture : Capture) : Prop :=
  ∃ step ∈ past, step.Creates capture

/-- Nothing is polled before there is a state, the state is created once, and it is backed. -/
structure Traced (setting : Setting) (past : List Transition) (system : System) : Prop where
  unpolled : system.state = none → polls past = []
  uncreated : system.state = none → ∀ capture, ¬ CreatedFrom past capture
  single : ∀ first second, CreatedFrom past first → CreatedFrom past second → first = second
  backed : ∀ state, system.state = some state → Backed setting past system.log state

section

variable {setting : Setting} {past : List Transition} {step : Transition} {now : Int}

def Transition.Taken (setting : Setting) (step : Transition) : Prop :=
  step.before.step setting step.move = step.result

theorem polls_quiet (quiet : step.poll = none) : polls (past ++ [step]) = polls past := by
  unfold polls
  rw [filterMap_append, filterMap_cons_none quiet, filterMap_nil, append_nil]

theorem createdFrom_append (other : ∀ capture, ¬ step.Creates capture) {capture : Capture} :
    CreatedFrom (past ++ [step]) capture ↔ CreatedFrom past capture := by
  constructor
  · rintro ⟨creator, member, creates⟩
    rcases mem_append.mp member with earlier | last
    · exact ⟨creator, earlier, creates⟩
    · rw [mem_singleton.mp last] at creates
      exact absurd creates (other capture)
  · rintro ⟨creator, member, creates⟩
    exact ⟨creator, mem_append_left _ member, creates⟩

section

variable (traced : Traced setting past step.before)

include traced

theorem Traced.single_append (other : ∀ capture, ¬ step.Creates capture) (first second : Capture)
    (left : CreatedFrom (past ++ [step]) first) (right : CreatedFrom (past ++ [step]) second) :
    first = second :=
  traced.single first second ((createdFrom_append other).mp left)
    ((createdFrom_append other).mp right)

theorem Traced.same (quiet : step.poll = none) (other : ∀ capture, ¬ step.Creates capture)
    (more : List Json) (log : step.after.log = step.before.log ++ more)
    (state : step.after.state = step.before.state) :
    Traced setting (past ++ [step]) step.after := by
  constructor
  case unpolled =>
    rw [state, polls_quiet quiet]
    exact traced.unpolled
  case uncreated =>
    intro absent capture created
    exact traced.uncreated (state ▸ absent) capture ((createdFrom_append other).mp created)
  case single => exact traced.single_append other
  case backed =>
    intro held found
    rw [log]
    exact (traced.backed held (state ▸ found)).extend step quiet more

omit traced in
theorem update_ok {system result : System} {operation : State → Except PyError State}
    (updated : system.update operation = .ok result) :
    ∃ state after, system.state = some state ∧ operation state = .ok after ∧
      result = { system with state := some after } := by
  unfold System.update at updated
  cases held : system.state with
  | none =>
    rw [held] at updated
    cases updated
  | some state =>
    rw [held] at updated
    dsimp only at updated
    cases done : operation state with
    | error error =>
      rw [done] at updated
      cases updated
    | ok after =>
      rw [done] at updated
      cases updated
      exact ⟨state, after, rfl, done, rfl⟩

theorem Traced.update {operation : State → Except PyError State} {result : System}
    (returned : step.result = .ok result)
    (other : ∀ capture, ¬ step.Creates capture)
    (updated : step.before.update operation = .ok result)
    (backs : ∀ state after, step.before.state = some state → operation state = .ok after →
      result.state = some after → Backed setting past step.before.log state →
        Backed setting (past ++ [step]) step.before.log after) :
    Traced setting (past ++ [step]) step.after := by
  obtain ⟨state, after, held, done, rfl⟩ := update_ok updated
  have reached : step.after = { step.before with state := some after } := by
    unfold Transition.after
    rw [returned]
  rw [reached]
  constructor
  case unpolled =>
    intro absent
    cases absent
  case uncreated =>
    intro absent
    cases absent
  case single => exact traced.single_append other
  case backed =>
    intro other found
    cases found
    exact backs state after held done rfl (traced.backed state held)

end

theorem poll_of_move {move : Move} (moved : step.move = move)
    (other : ∀ sight controlTurnId now, move ≠ .check sight controlTurnId now) :
    step.poll = none := by
  unfold Transition.poll
  rw [moved]
  cases move with
  | check sight controlTurnId now => exact absurd rfl (other sight controlTurnId now)
  | grow | create | arm | markFitDispatched | finalize | issue => rfl

theorem creates_of_move {move : Move} (moved : step.move = move)
    (other : ∀ request sight now, move ≠ .create request sight now) (capture : Capture) :
    ¬ step.Creates capture := by
  rintro ⟨request, sight, now, _, created, _⟩
  exact other request sight now (moved ▸ created)

theorem Traced.move (taken : step.Taken setting) (traced : Traced setting past step.before) :
    Traced setting (past ++ [step]) step.after := by
  have here : step ∈ past ++ [step] := mem_append_right _ mem_cons_self
  cases returned : step.result with
  | error error =>
    have kept : step.after = step.before := by
      unfold Transition.after
      rw [returned]
    have quiet : step.poll = none := by
      unfold Transition.poll
      rw [returned]
      split
      · rename_i raised
        cases raised
      · rfl
    have other (capture : Capture) : ¬ step.Creates capture := by
      rintro ⟨_, _, _, _, _, _, reached⟩
      rw [returned] at reached
      cases reached
    exact traced.same quiet other [] (by rw [kept, append_nil]) (by rw [kept])
  | ok result =>
  unfold Transition.Taken at taken
  rw [returned] at taken
  cases moved : step.move with
  | grow records =>
    rw [moved] at taken
    cases taken
    have reached : step.after = { step.before with log := step.before.log ++ records } := by
      unfold Transition.after
      rw [returned]
    exact traced.same (poll_of_move moved fun _ _ _ => Move.noConfusion)
      (creates_of_move moved fun _ _ _ => Move.noConfusion) records
      (by rw [reached]) (by rw [reached])
  | create request sight now =>
    rw [moved] at taken
    unfold System.step at taken
    dsimp only at taken
    cases absent : step.before.state with
    | some state =>
      rw [absent] at taken
      cases taken
    | none =>
    rw [absent] at taken
    dsimp only at taken
    cases created : createPrecommitState setting.policy request
        (sight.evidence step.before.log) now with
    | error error =>
      rw [created] at taken
      cases taken
    | ok state =>
    rw [created] at taken
    cases taken
    obtain ⟨owner, boundary, workspace, found, rfl⟩ := createPrecommitState_ok created
    unfold Sight.evidence at found
    dsimp only at found
    cases captured : sight.workspace with
    | error error =>
      rw [captured] at found
      cases found
    | ok capture =>
    rw [captured] at found
    cases found
    have reached : step.after = { step.before with state := some (State.initial setting.policy
        request owner boundary (capture.baseline ["."]) now) } := by
      unfold Transition.after
      rw [returned]
    rw [reached]
    constructor
    case unpolled =>
      intro none'
      cases none'
    case uncreated =>
      intro none'
      cases none'
    case single =>
      have only {other : Capture} (from' : CreatedFrom (past ++ [step]) other) :
          capture = other := by
        obtain ⟨creator, member, creates⟩ := from'
        rcases mem_append.mp member with earlier | last
        · exact absurd ⟨creator, earlier, creates⟩ (traced.uncreated absent other)
        · rw [mem_singleton.mp last] at creates
          obtain ⟨_, _, _, _, same, seen, _⟩ := creates
          rw [moved] at same
          cases same
          rw [captured] at seen
          cases seen
          rfl
      intro first second left right
      exact (only left).symm.trans (only right)
    case backed =>
      intro other found
      cases found
      apply backed_initial
      · exact ⟨step, here, request, sight, now, _, moved, captured, returned⟩
      · rw [polls_quiet (poll_of_move moved fun _ _ _ => Move.noConfusion)]
        exact traced.unpolled absent
  | arm sight controlTurnId now =>
    rw [moved] at taken
    apply traced.update returned (creates_of_move moved fun _ _ _ => Move.noConfusion) taken
    intro state after held done _ backed
    have longer := backed.extend step (poll_of_move moved fun _ _ _ => Move.noConfusion) []
    rw [append_nil] at longer
    exact longer.armPrecommit ⟨step, here, sight, controlTurnId, result, moved, returned⟩ done
  | markFitDispatched sight controlTurnId submissionId now =>
    rw [moved] at taken
    apply traced.update returned (creates_of_move moved fun _ _ _ => Move.noConfusion) taken
    intro state after held done reached backed
    have longer := backed.extend step (poll_of_move moved fun _ _ _ => Move.noConfusion) []
    rw [append_nil] at longer
    apply longer.markFitDispatched done
    intro dispatched
    exact ⟨step, here, sight, controlTurnId, submissionId, result, after, moved, rfl, returned,
      reached, dispatched⟩
  | check sight controlTurnId now =>
    rw [moved] at taken
    apply traced.update returned (creates_of_move moved fun _ _ _ => Move.noConfusion) taken
    intro state after held done _ backed
    apply backed.checkPrecommit done
    · intro turn dispatched
      unfold Transition.poll
      rw [moved, held, returned]
      dsimp only
      rw [turn]
      rw [if_pos dispatched]
    · intro other
      unfold Transition.poll
      rw [moved, held, returned]
      dsimp only
      cases turn : state.requireControlTurn controlTurnId with
      | error error => rfl
      | ok valid =>
        rcases other with mismatch | undispatched
        · exact absurd turn mismatch
        · rw [if_neg undispatched]
  | finalize sight controlTurnId action now =>
    rw [moved] at taken
    apply traced.update returned (creates_of_move moved fun _ _ _ => Move.noConfusion) taken
    intro state after held done _ backed
    apply backed.finalizePrecommit (poll_of_move moved fun _ _ _ => Move.noConfusion) done
    intro turn
    exact ⟨sight, controlTurnId, now, result, state, moved, returned, held, turn⟩
  | issue sight =>
    rw [moved] at taken
    apply traced.update returned (creates_of_move moved fun _ _ _ => Move.noConfusion) taken
    intro state after held done _ backed
    have longer := backed.extend step (poll_of_move moved fun _ _ _ => Move.noConfusion) []
    rw [append_nil] at longer
    split at done
    · cases done
      exact longer
    · cases done

end

variable {setting : Setting} {moves : List Move}

theorem run_taken {system : System} : ∀ step ∈ run setting system moves, step.Taken setting := by
  induction moves generalizing system with
  | nil =>
    exact forall_mem_nil _
  | cons move rest ih =>
    exact forall_mem_cons.mpr ⟨rfl, ih⟩

theorem run_linked {system : System} :
    Linked Transition.before Transition.after system (run setting system moves) := by
  induction moves generalizing system with
  | nil => exact True.intro
  | cons move rest ih => exact ⟨rfl, ih⟩

section

variable {setting : Setting} {past : List Transition} {step : Transition} {log : List Json}
  {state : State} {sight : Sight} {receipt : Receipt}

/-- What `_expected_accepting` asks for, for a submission that is not the policy's own. -/
structure Accepts (state : State) (observed : Observed) : Prop where
  completed : state.closureOutcome = some .completed
  valid : state.semanticStatus = .valid
  fit : state.fitResult.map (·.decision) = some .accept
  unforbidden : observed.forbiddenEvents = []
  uninterrupted : state.polling.uninterrupted = true
  polled : 1 ≤ state.polling.pollCount
  marked : ControlAction.dispatchMarked ∈ state.actions

end

/-- The system that a run leaves. -/
def finish (setting : Setting) (system : System) : List Move → System
  | [] => system
  | move :: rest => finish setting (Transition.after ⟨system, move, system.step setting move⟩) rest

def sampleSetting : Setting where
  policy := ⟨["gpt-5.3-codex-spark"], 1000, 500, 5000⟩
  loads text :=
    if text = "fits" then
      some (.obj [("decision", .str "accept"), ("tool_calls_p50", .int 1),
        ("tool_calls_p90", .int 2), ("runtime_seconds_p50", .int 1),
        ("runtime_seconds_p90", .int 2)])
    else none

def sampleSight : Sight where
  host := ⟨fun _ => .ok ⟨1, 1, 1⟩, .ok "boot"⟩
  fault := none
  workspace := .ok ⟨⟨[], [], [], some [], some []⟩, fun path => if path = "." then some [] else none,
    ⟨10, 1000⟩, fun _ => false⟩
  rooted := by
    intro capture found
    cases found
    rfl

def sampleRequest : Request where
  stateId := "state"
  stateFile := "/state"
  packetId := "packet"
  attemptNonce := "nonce"
  sessionId := "session"
  sessionFile := "/session"
  workdir := "/work"
  requestedModel := "gpt-5.3-codex-spark"
  ownerPid := 1
  executionHandle := "handle"
  admission := .ok ()

/-- The worker runs a shell command, and then answers the fit. -/
def sampleMoves : List Move :=
  [.grow [.obj [("type", .str "session_meta"), ("payload", .obj [("id", .str "session")])],
      .obj [("type", .str "turn_context"), ("payload", .obj [("model", .str "gpt-5.3-codex-spark"),
        ("attestation_source", .str TRUSTED_ATTESTATION_SOURCE)])]],
    .create sampleRequest sampleSight 0, .arm sampleSight "turn" 0,
    .markFitDispatched sampleSight "turn" "fit" 0,
    .grow [.obj [("type", .str "response_item"), ("payload", .obj [("type", .str "local_shell_call")])],
      .obj [("type", .str "response_item"), ("payload", .obj [("type", .str "message"),
        ("role", .str "assistant"), ("content", .str "fits")])],
      .obj [("type", .str "event_msg"), ("payload", .obj [("type", .str "task_complete")])]],
    .check sampleSight "turn" 0, .finalize sampleSight "turn" .workerCompleted 0,
    .finalize sampleSight "turn" .closeConfirmed 0]

def sampleReceipt : Option Receipt :=
  let system := finish sampleSetting System.empty sampleMoves
  system.state.bind fun state =>
    (issuePrecommitReceipt sampleSetting.policy state (sampleSight.evidence system.log)).toOption

end WorkOrchestration.Native.Precommit
