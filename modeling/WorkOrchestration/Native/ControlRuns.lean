import Mathlib.Algebra.Group.Int.Defs
import WorkOrchestration.Native.ControlFailures

/-!
# Blocking and cooperative runs of a control turn

`run` drives the cooperative machine by itself; a pool drives it with `step` and `resume_after_wait`. As
long as no sleep raises, the two take the same path.
-/

namespace WorkOrchestration.Native.ControlRuns

open Artifacts Control
open ControlFailures (sampleCallbacks sampleContract)

/-- An entry of `_actions` under `run`: a label of the machine, or a sleep between two steps. -/
inductive Entry where
  | action (label : Action)
  | sleep
  deriving DecidableEq

def Entry.text : Entry → String
  | action label => label.text
  | sleep => "sleep"

def Entry.label? : Entry → Option Action
  | action label => some label
  | sleep => none

/-- Milliseconds from which on `poll_interval_ms / 1000` is too large for a float. -/
def intervalLimit : Int := (2 ^ 1024 - 2 ^ 970) * 1000

variable (turn : Turn) (taskInput : Option String) (reply : Reply)

/-- What `_progress` raises: it divides the interval of a waiting turn. -/
def progressError : Option PyError :=
  if turn.waiting = true ∧ intervalLimit ≤ turn.contract.pollIntervalMs then
    some ⟨.other, "OverflowError", "integer division result too large for a float"⟩
  else none

/-- `step` with the progress report it returns, as far as that raises. -/
def reported : Turn × Option PyError :=
  match turn.step taskInput reply with
  | (next, some error) => (next, some error)
  | (next, none) => (next, progressError next)

/-- What the adapter replies to the last of the calls it has received. -/
abbrev Adapter := List Turn.Call → Reply

/-- What a sleep raises, if it raises, after everything that the run has recorded. -/
abbrev Sleeper := List Entry → Option PyError

structure RunReceipt where
  contractSha256 : Digest
  taskSha256 : Digest
  submissionId : Option String
  actions : List Entry
  decisions : List Decision
  pollCount : Nat
  terminalState : TerminalState
  errors : List String
  deriving DecidableEq

def RunReceipt.withoutSleeps (receipt : RunReceipt) : ControlReceipt where
  contractSha256 := receipt.contractSha256
  taskSha256 := receipt.taskSha256
  submissionId := receipt.submissionId
  actions := receipt.actions.filterMap Entry.label?
  decisions := receipt.decisions
  pollCount := receipt.pollCount
  terminalState := receipt.terminalState
  errors := receipt.errors

/-- A turn under `run`: the machine, and `_actions` with the sleeps among its labels. -/
structure Blocking where
  turn : Turn
  entries : List Entry

namespace Blocking

/-- `_receipt`, which copies `_actions`. -/
def receipt (blocking : Blocking) (sealed : ControlReceipt) : RunReceipt where
  contractSha256 := sealed.contractSha256
  taskSha256 := sealed.taskSha256
  submissionId := sealed.submissionId
  actions := blocking.entries
  decisions := sealed.decisions
  pollCount := sealed.pollCount
  terminalState := sealed.terminalState
  errors := sealed.errors

/-- The receipt of a turn that was dispatched before. -/
def alreadyDispatched : RunReceipt where
  contractSha256 := turn.contract.contractSha256
  taskSha256 := turn.contract.taskSha256
  submissionId := none
  actions := []
  decisions := []
  pollCount := 0
  terminalState := .controlFailed
  errors := ["control-turn-already-dispatched"]

end Blocking

/-- `assert self._terminal_receipt is not None`, and the receipt. -/
def terminalReceipt (turn : Turn) : Except PyError ControlReceipt :=
  match turn.terminalReceipt with
  | some receipt => .ok receipt
  | none => .error ⟨.other, "AssertionError", ""⟩

/--
The loop that steps a turn and resumes it whenever it waits; none when the fuel
does not last until the turn is terminal.
-/
def cooperate (adapter : Adapter) :
    Nat → Turn → List Turn.Call → Option String → Option (Except PyError ControlReceipt)
  | 0, _, _, _ => none
  | fuel + 1, turn, calls, taskInput =>
    let calls := calls ++ (turn.nextCall taskInput).toList
    match reported turn taskInput (adapter calls) with
    | (_, some error) => some (.error error)
    | (next, none) =>
      if next.terminal = true then some (terminalReceipt next)
      else if next.waiting = true then
        match next.resumeAfterWait with
        | (_, some error) => some (.error error)
        | (resumed, none) => cooperate adapter fuel resumed calls none
      else cooperate adapter fuel next calls none

namespace Blocking

/-- The loop of `run`. -/
def drive (adapter : Adapter) (sleeps : Sleeper) :
    Nat → Blocking → List Turn.Call → Option String → Option (Except PyError RunReceipt)
  | 0, _, _, _ => none
  | fuel + 1, blocking, calls, taskInput =>
    let pending := (blocking.turn.nextCall taskInput).toList
    let calls := calls ++ pending
    let entries := blocking.entries ++ pending.map fun call => .action call.action
    match reported blocking.turn taskInput (adapter calls) with
    | (_, some error) => some (.error error)
    | (next, none) =>
      if next.terminal = true then
        some ((terminalReceipt next).map (receipt ⟨next, entries⟩))
      else if next.waiting = true then
        let entries := entries ++ [.sleep]
        match sleeps entries with
        | some error =>
          if error.isException then
            drive adapter sleeps fuel ⟨next.recordCallbackFailure error, entries⟩ calls none
          else some (.error error)
        | none =>
          match next.resumeAfterWait with
          | (_, some error) => some (.error error)
          | (resumed, none) => drive adapter sleeps fuel ⟨resumed, entries⟩ calls none
      else drive adapter sleeps fuel ⟨next, entries⟩ calls none

def run (adapter : Adapter) (sleeps : Sleeper) (fuel : Nat) (turn : Turn)
    (taskInput : Option String) : Option (Except PyError RunReceipt) :=
  if turn.started = true ∨ turn.terminal = true then some (.ok (alreadyDispatched turn))
  else drive adapter sleeps fuel ⟨turn, []⟩ [] taskInput

end Blocking

theorem actions_of_accepted {turn next : Turn} (accepted : turn.Accepted next) :
    next.actions = turn.actions := by
  cases accepted <;> rfl

theorem actions_failed (error : PyError) : (turn.failed error).actions = turn.actions := by
  unfold Turn.failed
  split <;> rfl

theorem actions_begin : (turn.begin taskInput).actions = turn.actions := by
  unfold Turn.begin
  split
  · rfl
  · unfold Turn.start
    split <;> rfl

theorem actions_advance : (turn.advance reply).1.actions =
      turn.actions ++ turn.pendingCall.toList.map Turn.Call.action := by
  have advanced := Turn.advance_cases turn reply
  generalize turn.advance reply = result at advanced ⊢
  cases advanced with
  | idle resting =>
    have none : turn.pendingCall = none := if_pos resting
    simp [none]
  | called call result pending answer =>
    rw [pending]
    cases answer with
    | accepted next moves => exact actions_of_accepted moves
    | failed error caught => exact actions_failed _ _
    | escaped error uncaught => rfl
  | lost error active noCall =>
    have none : turn.pendingCall = none := by
      rw [Turn.pendingCall, noCall, ite_self]
    simp [none, Turn.recordCallbackFailure]

theorem actions_step : (turn.step taskInput reply).1.actions =
      turn.actions ++ (turn.nextCall taskInput).toList.map Turn.Call.action := by
  unfold Turn.step Turn.nextCall
  by_cases terminal : turn.terminal = true
  · simp [terminal]
  · by_cases bound : turn.started = true ∧ taskInput ≠ none
    · rw [if_neg terminal, if_pos bound, if_pos (.inr bound)]
      simp
    · rw [if_neg terminal, if_neg bound, if_neg (not_or.mpr ⟨terminal, bound⟩), actions_advance,
        actions_begin]

/-- A receipt is there only on a terminal turn and lists what the turn has recorded. -/
structure Sealed (turn : Turn) : Prop where
  receipt : ∀ receipt, turn.terminalReceipt = some receipt →
    turn.terminal = true ∧ receipt.actions = turn.actions

theorem sealed_of_none {turn : Turn} (unsealed : turn.terminalReceipt = none) : Sealed turn := by
  constructor
  intro receipt found
  rw [unsealed] at found
  cases found

theorem sealed_finish (terminalState : TerminalState) :
    Sealed (turn.finish terminalState) := by
  constructor
  intro receipt found
  cases found
  exact ⟨rfl, rfl⟩

theorem sealed_failed {turn : Turn} (unsealed : turn.terminalReceipt = none) (error : PyError) :
    Sealed (turn.failed error) := by
  unfold Turn.failed
  split
  · exact sealed_finish _ _
  · exact sealed_of_none unsealed

theorem sealed_accepted {turn next : Turn} (accepted : turn.Accepted next)
    (unsealed : turn.terminalReceipt = none) : Sealed next := by
  cases accepted with
  | closedComplete phase | closed phase | controlFailed phase => exact sealed_finish _ _
  | _ => exact sealed_of_none unsealed

theorem sealed_advance {turn : Turn} (whole : Sealed turn) (reply : Reply) :
    Sealed (turn.advance reply).1 := by
  have advanced := Turn.advance_cases turn reply
  generalize turn.advance reply = result at advanced ⊢
  have unsealed (running : turn.terminal = false) : turn.terminalReceipt = none := by
    cases found : turn.terminalReceipt with
    | none => rfl
    | some receipt =>
      have ended := (whole.receipt receipt found).1
      rw [running] at ended
      cases ended
  cases advanced with
  | idle resting => exact whole
  | lost error active noCall => exact sealed_of_none (unsealed active.1)
  | called call result pending answer =>
    have fresh := unsealed (Turn.pendingCall_eq_some pending).1
    cases answer with
    | accepted next moves => exact sealed_accepted moves fresh
    | failed error caught =>
      have labelled : (turn.labelled call).terminalReceipt = none := fresh
      exact sealed_failed labelled error
    | escaped error uncaught => exact sealed_of_none fresh

theorem sealed_step {turn : Turn} (unsealed : turn.terminalReceipt = none)
    (taskInput : Option String) (reply : Reply) : Sealed (turn.step taskInput reply).1 := by
  have began : Sealed (turn.begin taskInput) := by
    unfold Turn.begin
    split
    · exact sealed_of_none unsealed
    · unfold Turn.start
      split
      · exact sealed_finish _ _
      · exact sealed_of_none unsealed
  rcases Turn.step_cases turn taskInput reply with same | advances
  · rw [same]
    exact sealed_of_none unsealed
  · rw [advances]
    exact sealed_advance began reply

theorem resumeAfterWait_keeps : turn.resumeAfterWait.1.actions = turn.actions ∧
      turn.resumeAfterWait.1.terminalReceipt = turn.terminalReceipt := by
  unfold Turn.resumeAfterWait
  split
  · exact ⟨rfl, rfl⟩
  · split
    · exact ⟨rfl, rfl⟩
    · split <;> exact ⟨rfl, rfl⟩

theorem reported_fst : (reported turn taskInput reply).1 = (turn.step taskInput reply).1 := by
  unfold reported
  split
  · rename_i result
    rw [result]
  · rename_i result
    rw [result]

/-- The blocking turn records its machine's labels and, among them, its sleeps. -/
structure Records (blocking : Blocking) : Prop where
  unsealed : blocking.turn.terminalReceipt = none
  labels : blocking.entries.filterMap Entry.label? = blocking.turn.actions

theorem labels_step {blocking : Blocking} (records : Records blocking)
    (taskInput : Option String) (reply : Reply) :
    (blocking.entries ++ (blocking.turn.nextCall taskInput).toList.map
        fun call => Entry.action call.action).filterMap Entry.label? =
      (reported blocking.turn taskInput reply).1.actions := by
  rw [reported_fst, actions_step, List.filterMap_append, records.labels]
  cases blocking.turn.nextCall taskInput <;> rfl

theorem receipt_withoutSleeps {turn : Turn} {entries : List Entry} {receipt : ControlReceipt}
    (labels : entries.filterMap Entry.label? = turn.actions)
    (copied : receipt.actions = turn.actions) :
    (Blocking.receipt ⟨turn, entries⟩ receipt).withoutSleeps = receipt := by
  cases receipt
  cases copied
  simp [Blocking.receipt, RunReceipt.withoutSleeps, labels]

theorem terminalReceipt_withoutSleeps {turn : Turn} {entries : List Entry} (whole : Sealed turn)
    (labels : entries.filterMap Entry.label? = turn.actions) :
    ((terminalReceipt turn).map (Blocking.receipt ⟨turn, entries⟩)).map
      RunReceipt.withoutSleeps = terminalReceipt turn := by
  unfold terminalReceipt
  split
  · rename_i receipt found
    exact congrArg Except.ok (receipt_withoutSleeps labels (whole.receipt receipt found).2)
  · rfl

/-- Without raising sleeps the two loops agree after every number of steps. -/
theorem drive_agrees {adapter : Adapter} {sleeps : Sleeper} (quiet : ∀ entries, sleeps entries = none)
    (fuel : Nat) {blocking : Blocking} (records : Records blocking) (calls : List Turn.Call)
    (taskInput : Option String) :
    (Blocking.drive adapter sleeps fuel blocking calls taskInput).map
        (Except.map RunReceipt.withoutSleeps) =
      cooperate adapter fuel blocking.turn calls taskInput := by
  induction fuel generalizing blocking calls taskInput with
  | zero => rfl
  | succ fuel ih =>
    rw [Blocking.drive, cooperate]
    generalize asked : calls ++ (blocking.turn.nextCall taskInput).toList = called
    have labels := labels_step records taskInput (adapter called)
    have whole : Sealed (reported blocking.turn taskInput (adapter called)).1 := by
      rw [reported_fst]
      exact sealed_step records.unsealed taskInput _
    generalize reported blocking.turn taskInput (adapter called) = result at labels whole ⊢
    generalize blocking.entries ++ (blocking.turn.nextCall taskInput).toList.map
      (fun call => Entry.action call.action) = entries at labels ⊢
    obtain ⟨next, raised⟩ := result
    cases raised with
    | some error => rfl
    | none =>
      dsimp only at labels whole ⊢
      by_cases terminal : next.terminal = true
      · rw [if_pos terminal, if_pos terminal]
        exact congrArg some (terminalReceipt_withoutSleeps whole labels)
      · have unsealed : next.terminalReceipt = none := by
          cases found : next.terminalReceipt with
          | none => rfl
          | some receipt => exact absurd (whole.receipt receipt found).1 terminal
        rw [if_neg terminal, if_neg terminal]
        by_cases waiting : next.waiting = true
        · rw [if_pos waiting, if_pos waiting, quiet]
          obtain ⟨kept, still⟩ := resumeAfterWait_keeps next
          generalize next.resumeAfterWait = resumed at kept still ⊢
          obtain ⟨resumed, raised⟩ := resumed
          cases raised with
          | some error => rfl
          | none =>
            refine @ih ⟨resumed, entries ++ [.sleep]⟩ ⟨still.trans unsealed, ?_⟩ called none
            rw [List.filterMap_append, labels]
            exact (List.append_nil _).trans kept.symm
        · rw [if_neg waiting, if_neg waiting]
          exact @ih ⟨next, entries⟩ ⟨unsealed, labels⟩ called none

theorem records_create (contract : ControlContract) (callbacks : CallbackTable) :
    Records ⟨Turn.create contract callbacks, []⟩ :=
  ⟨rfl, rfl⟩

/-- More fuel does not change what a cooperative drive ends with. -/
theorem cooperate_mono {adapter : Adapter} {fuel more : Nat} (enough : fuel ≤ more) {turn : Turn}
    {calls : List Turn.Call} {taskInput : Option String} {outcome : Except PyError ControlReceipt}
    (ends : cooperate adapter fuel turn calls taskInput = some outcome) :
    cooperate adapter more turn calls taskInput = some outcome := by
  induction fuel generalizing more turn calls taskInput with
  | zero => cases ends
  | succ fuel ih =>
    obtain ⟨more, rfl⟩ : ∃ rest, more = rest + 1 := ⟨more - 1, by omega⟩
    rw [cooperate] at ends ⊢
    generalize reported turn taskInput _ = result at ends ⊢
    obtain ⟨next, raised⟩ := result
    cases raised with
    | some error => exact ends
    | none =>
      dsimp only at ends ⊢
      split at ends
      · rename_i terminal
        rw [if_pos terminal]
        exact ends
      · rename_i terminal
        rw [if_neg terminal]
        split at ends
        · rename_i waiting
          rw [if_pos waiting]
          generalize next.resumeAfterWait = resumed at ends ⊢
          obtain ⟨resumed, raised⟩ := resumed
          cases raised with
          | some error => exact ends
          | none => exact ih (by omega) ends
        · rename_i waiting
          rw [if_neg waiting]
          exact ih (by omega) ends

/-- What stepping and resuming a new turn ends with. -/
def Cooperates (adapter : Adapter) (contract : ControlContract) (callbacks : CallbackTable)
    (taskInput : Option String) (outcome : Except PyError ControlReceipt) : Prop :=
  ∃ fuel, cooperate adapter fuel (Turn.create contract callbacks) [] taskInput = some outcome

/--
If no sleep raises, a blocking run that returns a receipt agrees with the
cooperative drive: that ends as well, and with the same receipt but for the sleeps.
-/
theorem run_receipt_cooperates {adapter : Adapter} {sleeps : Sleeper}
    (quiet : ∀ entries, sleeps entries = none) (contract : ControlContract)
    (callbacks : CallbackTable) (taskInput : Option String) {fuel : Nat} {receipt : RunReceipt}
    (returned : Blocking.run adapter sleeps fuel (Turn.create contract callbacks) taskInput =
      some (.ok receipt)) (outcome : Except PyError ControlReceipt) :
    Cooperates adapter contract callbacks taskInput outcome ↔ outcome = .ok receipt.withoutSleeps := by
  have fresh : ¬ ((Turn.create contract callbacks).started = true ∨
      (Turn.create contract callbacks).terminal = true) := by
    rintro (started | terminal)
    · cases started
    · cases terminal
  rw [Blocking.run, if_neg fresh] at returned
  have same := @drive_agrees adapter _ quiet fuel _ (records_create contract callbacks) [] taskInput
  rw [returned] at same
  constructor
  · rintro ⟨other, ends⟩
    have first := cooperate_mono (le_max_left fuel other) same.symm
    have second := cooperate_mono (le_max_right fuel other) ends
    rw [first] at second
    exact (Option.some.inj second).symm
  · rintro rfl
    exact ⟨fuel, same.symm⟩

/-- An adapter whose worker goes on at the first check and is complete at the second. -/
def sampleAdapter : Adapter := fun calls =>
  match calls.getLast?.map Turn.Call.action with
  | some .sendInput => .returned (.str "submission")
  | some .check =>
    if calls.countP (·.action == .check) = 1 then .returned (.str "continue")
    else .returned (.str "complete")
  | _ => .returned .null

def sampleReceipt : RunReceipt where
  contractSha256 := sampleContract.contractSha256
  taskSha256 := textSha256 "t"
  submissionId := some "submission"
  actions :=
    [.action .arm, .action .sendInput, .action .markDispatched, .action .check, .sleep,
      .action .check, .action .finalizeWorkerCompleted, .action .close]
  decisions := [.continue, .complete]
  pollCount := 2
  terminalState := .completed
  errors := []

theorem sample_run_cooperates :
    Cooperates sampleAdapter sampleContract sampleCallbacks (some "t")
      (.ok sampleReceipt.withoutSleeps) := by
  have returned : Blocking.run sampleAdapter (fun _ => none) 8
      (Turn.create sampleContract sampleCallbacks) (some "t") =
        some (.ok sampleReceipt) := by decide +kernel
  exact (run_receipt_cooperates (fun _ => rfl) sampleContract
    sampleCallbacks (some "t") returned _).mpr rfl

end WorkOrchestration.Native.ControlRuns
