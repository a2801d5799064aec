import WorkOrchestration.Native.Control

/-!
# Callback failures of a control turn

A failed callback is remembered in two places, the error list and the phase.
The phase is the weaker memory: an outer interrupt request overwrites it.  As
long as no request hits a turn that is about to finalize as control-failed, the
two agree and no terminal receipt hides a failure.
-/

namespace WorkOrchestration.Native.ControlFailures

open Lib.Text Artifacts Control
open Turn (advance_cases begin create failed finish start)

/-- The entry points of a turn, a step with the reply its callback would give. -/
inductive Operation where
  | step (taskInput : Option String) (reply : Reply)
  | resumeAfterWait
  | requestInterrupt (reason : String)

def perform (turn : Turn) : Operation → Turn × Option PyError
  | .step taskInput reply => turn.step taskInput reply
  | .resumeAfterWait => turn.resumeAfterWait
  | .requestInterrupt reason => turn.requestInterrupt reason

def performAll (turn : Turn) (operations : List Operation) : Turn :=
  operations.foldl (fun turn operation => (perform turn operation).1) turn

def errorOf {α : Type} : Except PyError α → Option PyError
  | .error error => some error
  | .ok _ => none

/--
What makes a reply unusable in the phase that asked for it: an exception, a
submission without an identifier, a check without a decision, and elsewhere an
acknowledgement that is neither text, mapping nor null.
-/
def unusable (phase : Phase) : Reply → Option PyError
  | .raised error => some error
  | .returned value =>
    match phase with
    | .sendInput => errorOf (submissionId value)
    | .check => errorOf (decision value)
    | _ => errorOf (normalizeControlAcknowledgement value)

/-- The operation invokes a callback that raises or whose reply is unusable. -/
def CallbackFails (turn : Turn) : Operation → Prop
  | .step taskInput reply =>
    turn.terminal = false ∧ (turn.started = true → taskInput = none) ∧
      (turn.begin taskInput).pendingCall.isSome = true ∧
      (unusable (turn.begin taskInput).phase reply).isSome = true
  | _ => False

def SomeCallbackFails (turn : Turn) : List Operation → Prop
  | [] => False
  | operation :: rest =>
    CallbackFails turn operation ∨ SomeCallbackFails (perform turn operation).1 rest

/-- An interrupt request that reaches a turn with a recorded failure. -/
def Revives (turn : Turn) : Operation → Prop
  | .requestInterrupt _ => turn.terminal = false ∧ turn.phase = .finalizeControlFailed
  | _ => False

/-- An exception that no `except Exception` catches escapes from the operation. -/
def Escapes (turn : Turn) (operation : Operation) : Prop :=
  ∃ error, (perform turn operation).2 = some error ∧ error.kind = .base

instance (turn : Turn) (operation : Operation) : Decidable (Revives turn operation) := by
  cases operation <;> unfold Revives <;> infer_instance

/--
No request revives a failed turn, and the caller is done with the turn once an
exception that is no `Exception` has come out of it.
-/
def Undisturbed (turn : Turn) : List Operation → Prop
  | [] => True
  | operation :: rest =>
    ¬ Revives turn operation ∧ (Escapes turn operation → rest = []) ∧
      Undisturbed (perform turn operation).1 rest

/-- What a turn's receipt, if there is one, has to say about its history. -/
def Truthful (turn : Turn) (operations : List Operation) : Prop :=
  ∀ receipt, (performAll turn operations).terminalReceipt = some receipt →
    (SomeCallbackFails turn operations →
      receipt.terminalState = .controlFailed ∧ receipt.errors ≠ []) ∧
    (receipt.terminalState = .completed ∨ receipt.terminalState = .closed → receipt.errors = [])

/-- The error list and the phase agree about failures. -/
structure Remembers (turn : Turn) : Prop where
  phase : turn.terminal = false → turn.errors ≠ [] → turn.phase = .finalizeControlFailed
  receipt : ∀ receipt, turn.terminalReceipt = some receipt →
    turn.terminal = true ∧ receipt.errors = turn.errors ∧
      (turn.errors ≠ [] → receipt.terminalState = .controlFailed)

theorem remembers_create (contract : ControlContract) (callbacks : CallbackTable) :
    Remembers (create contract callbacks) where
  phase _ nonempty := absurd rfl nonempty
  receipt _ found := by cases found

variable {turn : Turn}

theorem remembers_finish {terminalState : TerminalState}
    (honest : turn.errors ≠ [] → terminalState = .controlFailed) :
    Remembers (turn.finish terminalState) where
  phase running := by cases running
  receipt receipt found := by
    cases found
    exact ⟨rfl, rfl, honest⟩

theorem remembers_of_no_errors (running : turn.terminalReceipt = none) (none : turn.errors = []) :
    Remembers turn where
  phase _ nonempty := absurd none nonempty
  receipt _ found := by
    rw [running] at found
    cases found

variable {error : PyError}

theorem remembers_recordCallbackFailure (running : turn.terminalReceipt = none) :
    Remembers (turn.recordCallbackFailure error) where
  phase _ _ := rfl
  receipt _ found := by
    have none : (turn.recordCallbackFailure error).terminalReceipt = none := running
    rw [none] at found
    cases found

theorem Remembers.no_receipt (remembers : Remembers turn) (running : turn.terminal = false) :
    turn.terminalReceipt = none := by
  cases found : turn.terminalReceipt with
  | none => rfl
  | some receipt =>
    have terminal := (remembers.receipt receipt found).1
    rw [running] at terminal
    cases terminal

theorem remembers_failed (running : turn.terminalReceipt = none) :
    Remembers (turn.failed error) := by
  unfold failed
  split
  · exact remembers_finish fun _ => rfl
  · exact remembers_recordCallbackFailure running

theorem failed_errors_ne_nil : (turn.failed error).errors ≠ [] := by
  unfold failed
  split <;> simp [finish, Turn.recordCallbackFailure]

theorem Remembers.no_errors (remembers : Remembers turn) (running : turn.terminal = false)
    (elsewhere : turn.phase ≠ .finalizeControlFailed) :
    turn.errors = [] := by
  by_contra nonempty
  exact elsewhere (remembers.phase running nonempty)

theorem remembers_of_accepted {next : Turn} (accepted : turn.Accepted next)
    (remembers : Remembers turn) (running : turn.terminal = false) : Remembers next := by
  have unsealed := remembers.no_receipt running
  have clean := fun elsewhere => remembers.no_errors running elsewhere
  cases accepted with
  | closedComplete phase => exact remembers_finish fun failure => absurd (clean (by simp [phase])) failure
  | closed phase => exact remembers_finish fun failure => absurd (clean (by simp [phase])) failure
  | controlFailed phase => exact remembers_finish fun _ => rfl
  | completeDeferred phase | interruptDeferred phase =>
    exact remembers_of_no_errors unsealed (clean (by rcases phase with phase | phase <;> simp [phase]))
  | armed phase | submitted _ phase | dispatched phase | continued _ _ phase | completed phase
  | stopped _ _ phase | finalized phase | interrupted phase | confirmed phase
  | closedInterrupt phase =>
    exact remembers_of_no_errors unsealed (clean (by simp [phase]))

theorem accepted_errors {next : Turn} (accepted : turn.Accepted next) :
    next.errors = turn.errors := by
  cases accepted <;> rfl

theorem remembers_start {taskInput : Option String} (unsealed : turn.terminalReceipt = none) :
    Remembers (turn.start taskInput) := by
  unfold start
  split
  · exact remembers_finish fun _ => rfl
  · rename_i clean
    refine remembers_of_no_errors unsealed ?_
    simp only [List.append_eq_nil_iff, Decidable.not_not] at clean
    exact clean.1

theorem remembers_begin (remembers : Remembers turn) (taskInput : Option String) :
    Remembers (turn.begin taskInput) := by
  unfold begin
  split
  · exact remembers
  · rename_i fresh
    simp only [not_or, Bool.not_eq_true] at fresh
    exact remembers_start (remembers.no_receipt fresh.1)

theorem begin_errors_ne_nil (taskInput : Option String) (recorded : turn.errors ≠ []) :
    (turn.begin taskInput).errors ≠ [] := by
  unfold begin
  split
  · exact recorded
  · unfold start
    split <;> simp [finish, recorded]

theorem Remembers.label (remembers : Remembers turn) (running : turn.terminal = false)
    (actions : List Action) : Remembers { turn with actions := actions } where
  phase := remembers.phase
  receipt _ found := by
    rw [remembers.no_receipt running] at found
    cases found

variable {call : Turn.Call}

theorem remembers_answered {result : Turn × Option PyError}
    (answer : Turn.Answered turn call result) (remembers : Remembers turn)
    (running : turn.terminal = false) : Remembers result.1 := by
  have labelled : Remembers (turn.labelled call) := remembers.label running _
  cases answer with
  | accepted next moves => exact remembers_of_accepted moves labelled running
  | failed error caught => exact remembers_failed (labelled.no_receipt running)
  | escaped error uncaught => exact labelled

theorem remembers_advance (remembers : Remembers turn) (reply : Reply) :
    Remembers (turn.advance reply).1 := by
  have advanced := advance_cases turn reply
  generalize turn.advance reply = result at advanced ⊢
  cases advanced with
  | idle resting => exact remembers
  | called call result pending answer =>
    exact remembers_answered answer remembers (Turn.pendingCall_eq_some pending).1
  | lost error active noCall =>
    exact remembers_recordCallbackFailure (remembers.no_receipt active.1)

theorem advance_errors_ne_nil (reply : Reply) (recorded : turn.errors ≠ []) :
    (turn.advance reply).1.errors ≠ [] := by
  have advanced := advance_cases turn reply
  generalize turn.advance reply = result at advanced ⊢
  cases advanced with
  | idle resting => exact recorded
  | lost error active noCall => simp [Turn.recordCallbackFailure]
  | called call result pending answer =>
    cases answer with
    | accepted next moves => exact (accepted_errors moves).symm ▸ recorded
    | failed error caught => exact failed_errors_ne_nil
    | escaped error uncaught => exact recorded

theorem remembers_resumeAfterWait (remembers : Remembers turn) :
    Remembers turn.resumeAfterWait.1 := by
  unfold Turn.resumeAfterWait
  split
  · exact remembers
  · rename_i running
    simp only [Bool.not_eq_true] at running
    have unsealed := remembers.no_receipt running
    split
    · exact remembers
    · split
      case h_4 => exact ⟨remembers.phase, remembers.receipt⟩
      all_goals
        rename_i phase
        exact remembers_of_no_errors unsealed (remembers.no_errors running (by simp [phase]))

theorem resumeAfterWait_errors (turn : Turn) : turn.resumeAfterWait.1.errors = turn.errors := by
  unfold Turn.resumeAfterWait
  split
  · rfl
  · split
    · rfl
    · split <;> rfl

theorem remembers_requestInterrupt (remembers : Remembers turn) (reason : String)
    (spared : ¬ Revives turn (.requestInterrupt reason)) :
    Remembers (turn.requestInterrupt reason).1 := by
  rcases Turn.requestInterrupt_cases turn reason with same | ⟨running, _, redirected⟩
  · rw [same]
    exact remembers
  · have elsewhere : turn.phase ≠ .finalizeControlFailed := fun phase => spared ⟨running, phase⟩
    rw [redirected]
    refine remembers_of_no_errors ?_ ?_
    · rw [Turn.redirected_terminalReceipt, remembers.no_receipt running]
    · rw [Turn.redirected_errors, remembers.no_errors running elsewhere]

variable {operation : Operation}

theorem remembers_perform (remembers : Remembers turn) (spared : ¬ Revives turn operation) :
    Remembers (perform turn operation).1 := by
  cases operation with
  | resumeAfterWait => exact remembers_resumeAfterWait remembers
  | requestInterrupt reason => exact remembers_requestInterrupt remembers reason spared
  | step taskInput reply =>
    show Remembers (turn.step taskInput reply).1
    rcases Turn.step_cases turn taskInput reply with same | advances
    · rw [same]
      exact remembers
    · rw [advances]
      exact remembers_advance (remembers_begin remembers taskInput) reply

theorem perform_errors_ne_nil (operation : Operation) (recorded : turn.errors ≠ []) :
    (perform turn operation).1.errors ≠ [] := by
  cases operation with
  | resumeAfterWait => exact (resumeAfterWait_errors turn).symm ▸ recorded
  | requestInterrupt reason =>
    show (turn.requestInterrupt reason).1.errors ≠ []
    rcases Turn.requestInterrupt_cases turn reason with same | ⟨_, _, redirected⟩
    · rw [same]
      exact recorded
    · rw [redirected, Turn.redirected_errors]
      exact recorded
  | step taskInput reply =>
    show (turn.step taskInput reply).1.errors ≠ []
    rcases Turn.step_cases turn taskInput reply with same | advances
    · rw [same]
      exact recorded
    · rw [advances]
      exact advance_errors_ne_nil reply (begin_errors_ne_nil taskInput recorded)

theorem bind_error {α β : Type} {first : Except PyError α} {next : α → Except PyError β}
    (fails : errorOf first = some error) : (first >>= next) = .error error := by
  cases first with
  | ok value => cases fails
  | error raised =>
    cases fails
    rfl

theorem outcome_of_unusable {reply : Reply} (called : turn.call? = some call)
    (refused : unusable turn.phase reply = some error) :
    turn.outcome reply = .error error := by
  cases reply with
  | raised raised =>
    cases refused
    rfl
  | returned value =>
    show turn.accept value = .error error
    unfold Turn.accept
    cases phase : turn.phase with
    | start | waiting | waitingCloseComplete | waitingCloseInterrupt | terminal =>
      simp [Turn.call?, phase] at called
    | arm | sendInput | markDispatched | check | finalizeComplete | closeComplete | interrupt
    | finalizeInterrupt | closeInterrupt | finalizeClose | finalizeControlFailed =>
      rw [phase] at refused
      exact bind_error refused

theorem advance_records {reply : Reply} (pending : turn.pendingCall = some call)
    (refused : unusable turn.phase reply = some error) :
    (turn.advance reply).1.errors ≠ [] ∨ (turn.advance reply).2 = some error ∧ error.kind = .base := by
  obtain ⟨running, awake, called⟩ := Turn.pendingCall_eq_some pending
  have advances : turn.advance reply = turn.answered call reply := by
    rw [Turn.advance, if_neg (by simp [running, awake]), called]
  have raises : (turn.labelled call).outcome reply = .error error :=
    outcome_of_unusable called refused
  rw [advances, Turn.answered, raises]
  by_cases caught : error.isException = true
  · left
    simp only [caught]
    exact failed_errors_ne_nil
  · right
    simp only [caught]
    exact ⟨rfl, by simpa [PyError.isException] using caught⟩

theorem errors_ne_nil_of_callbackFails (fails : CallbackFails turn operation)
    (caught : ¬ Escapes turn operation) :
    (perform turn operation).1.errors ≠ [] := by
  cases operation with
  | resumeAfterWait | requestInterrupt => exact absurd fails id
  | step taskInput reply =>
    obtain ⟨running, unbound, called, refused⟩ := fails
    obtain ⟨call, pending⟩ := Option.isSome_iff_exists.mp called
    obtain ⟨error, refused⟩ := Option.isSome_iff_exists.mp refused
    have advances : perform turn (.step taskInput reply) = (turn.begin taskInput).advance reply :=
      Turn.step_eq_advance running unbound reply
    rcases advance_records pending refused with recorded | ⟨escaped, base⟩
    · rw [advances]
      exact recorded
    · refine absurd ⟨error, ?_, base⟩ caught
      rw [advances]
      exact escaped

/-- Only a callback lets an exception escape that is no `Exception`, and then the turn runs on. -/
theorem running_of_escapes (escapes : Escapes turn operation) :
    (perform turn operation).1.terminal = false := by
  obtain ⟨error, raised, base⟩ := escapes
  cases operation with
  | requestInterrupt reason =>
    simp only [perform, Turn.requestInterrupt] at raised
    split_ifs at raised <;> cases raised <;> cases base
  | resumeAfterWait =>
    simp only [perform, Turn.resumeAfterWait] at raised
    split_ifs at raised
    · cases raised
      cases base
    · split at raised <;> cases raised
      cases base
  | step taskInput reply =>
    simp only [perform, Turn.step] at raised ⊢
    split_ifs at raised ⊢
    · cases raised
      cases base
    · have advanced := advance_cases (turn.begin taskInput) reply
      generalize (turn.begin taskInput).advance reply = result at advanced raised ⊢
      cases advanced with
      | idle | lost => cases raised
      | called call result pending answer =>
        cases answer with
        | accepted | failed => cases raised
        | escaped error uncaught => exact (Turn.pendingCall_eq_some pending).1

/-- The run lemma: in an undisturbed history every failure stays recorded. -/
theorem remembers_performAll {operations : List Operation} (remembers : Remembers turn)
    (undisturbed : Undisturbed turn operations) {receipt : ControlReceipt}
    (sealed : (performAll turn operations).terminalReceipt = some receipt) :
    Remembers (performAll turn operations) ∧
      (SomeCallbackFails turn operations ∨ turn.errors ≠ [] →
        (performAll turn operations).errors ≠ []) := by
  induction operations generalizing turn with
  | nil => exact ⟨remembers, fun failed => failed.elim False.elim id⟩
  | cons operation rest ih =>
    obtain ⟨spared, last, later⟩ := undisturbed
    obtain ⟨stays, kept⟩ := ih (remembers_perform remembers spared) later sealed
    refine ⟨stays, ?_⟩
    rintro ((fails | laterFails) | recorded)
    · by_cases escapes : Escapes turn operation
      · have unsealed : (perform turn operation).1.terminalReceipt = none :=
          (remembers_perform remembers spared).no_receipt (running_of_escapes escapes)
        rw [last escapes, performAll, List.foldl_cons, List.foldl_nil, unsealed] at sealed
        cases sealed
      · exact kept (.inr (errors_ne_nil_of_callbackFails fails escapes))
    · exact kept (.inl laterFails)
    · exact kept (.inr (perform_errors_ne_nil operation recorded))

/--
No laundering: whatever the callbacks do, a turn whose history is undisturbed
never seals a receipt that hides a callback failure.
-/
theorem truthful_of_undisturbed (contract : ControlContract) (callbacks : CallbackTable)
    (operations : List Operation)
    (undisturbed : Undisturbed (create contract callbacks) operations) :
    Truthful (create contract callbacks) operations := by
  intro receipt sealed
  obtain ⟨remembers, recorded⟩ :=
    remembers_performAll (remembers_create contract callbacks) undisturbed sealed
  obtain ⟨_, sameErrors, failure⟩ := remembers.receipt receipt sealed
  constructor
  · intro fails
    have errors := recorded (.inl fails)
    exact ⟨failure errors, sameErrors ▸ errors⟩
  · intro success
    rw [sameErrors]
    by_contra errors
    rw [failure errors] at success
    rcases success with wrong | wrong <;> cases wrong

/-- A contract for the task `"t"`. -/
def sampleContract : ControlContract :=
  let contract : ControlContract :=
    { stateFile := "/s"
      agentId := "a"
      controlTurnId := "c"
      taskSha256 := textSha256 "t"
      pollIntervalMs := 1000
      allowedActions := allowedActions
      contractSha256 := textSha256 "" }
  { contract with contractSha256 := canonicalSha256 contract.payload }

def sampleCallbacks : CallbackTable := requiredCallbacks.map fun name => (name, true)

def acknowledge : Operation := .step none (.returned .null)

/-- The first callback raises and the turn is left to finalize as control-failed. -/
def failedStart : List Operation :=
  [.step (some "t") (.raised (valueError "arm")), acknowledge]

/-- As before, but an interrupt request comes in between. -/
def revivedStart : List Operation :=
  [.step (some "t") (.raised (valueError "arm")), .requestInterrupt "stop", acknowledge, acknowledge,
    acknowledge, acknowledge]

/-- After the request the turn closes with its failure still on record. -/
theorem not_truthful_revivedStart :
    ¬ Truthful (create sampleContract sampleCallbacks) revivedStart := by
  intro truthful
  have closes : (performAll (create sampleContract sampleCallbacks)
      revivedStart).terminalReceipt.map (fun receipt => (receipt.terminalState, receipt.errors)) =
        some (.closed, ["callback-failed:ValueError:arm"]) := by decide +kernel
  obtain ⟨receipt, sealed, content⟩ := Option.map_eq_some_iff.mp closes
  obtain ⟨state, errors⟩ := Prod.mk.inj content
  have clean := (truthful receipt sealed).2 (.inr state)
  rw [clean] at errors
  cases errors

/-- The same failure is reported when no request interferes. -/
theorem truthful_failedStart : Truthful (create sampleContract sampleCallbacks) failedStart := by
  refine truthful_of_undisturbed sampleContract sampleCallbacks failedStart ?_
  refine ⟨by decide, ?_, by decide, fun _ => rfl, trivial⟩
  rintro ⟨error, raised, base⟩
  have quiet : (perform (create sampleContract sampleCallbacks)
      (.step (some "t") (.raised (valueError "arm")))).2 = none := by decide +kernel
  rw [quiet] at raised
  cases raised

end WorkOrchestration.Native.ControlFailures
