import Mathlib.Data.List.Induction
import Mathlib.Data.List.Nodup
import WorkOrchestration.Native.Documents

/-!
# Checked command sequences

The commands of a sequence are executed in order, the progress is written to a state file
after each of them, and the sequence stops before the first unsafe successor.
-/

namespace WorkOrchestration.Commands.CheckedSequence

open List Native.Artifacts Native.Artifacts.Json
open Lib.Text (Nonempty)

inductive Status where
  | running
  | passed
  | failed
  | blocked
  | quarantined
  deriving DecidableEq

structure Identity where
  sequenceId : Option String
  packetId : Option String
  workPlanSha256 : Option String
  workdir : Option String

variable (value : Json)

def textField (name : String) : Option String :=
  match value.value name with
  | .str text => some text
  | _ => none

def identityOf : Identity :=
  { sequenceId := textField value "sequence_id"
    packetId := textField value "packet_id"
    workPlanSha256 := textField value "work_plan_sha256"
    workdir := textField value "workdir" }

/-- A command as `normalize_command_spec` returns it. -/
structure Command where
  commandId : String
  fields : Json

/-- A specification that `normalize_sequence_spec` accepts. -/
structure Spec where
  sequenceId : String
  packetId : String
  workPlanSha256 : String
  workdir : String
  commands : List Command
  nonempty : commands ≠ []
  distinct : (commands.map Command.commandId).Nodup

/-- `_strict_identifier`. -/
def strictIdentifier : Json → Option String
  | .str text => if Nonempty text then some text else none
  | _ => none

/-- `_sha256_hex`. -/
def sha256Hex (value : Json) : Option String :=
  (strictIdentifier value).filter fun digest =>
    digest.toList.length == 64 && digest.toList.all ("0123456789abcdef".toList.contains ·)

/-- What the paths of a specification lead to, and what `normalize_command_spec` makes of a command. -/
structure Reads where
  /-- `Path(text).expanduser().resolve()`, where that is a directory. -/
  directory : String → Option String
  /-- `Path(text).resolve()`. -/
  resolve : String → String
  normalizeCommandSpec : Json → Option Command

/-- The commands taken so far; no two have the same id. -/
structure Taken where
  commands : List Command
  distinct : (commands.map Command.commandId).Nodup

section

variable (reads : Reads) (workdir : String)

def Reads.standsIn (command : Command) : Bool :=
  match command.fields.value "cwd" with
  | .str cwd => reads.resolve cwd == workdir
  | _ => false

/-- One turn of the loop over the raw commands. -/
def Reads.takeCommand (taken : Taken) (raw : Json) : Option Taken := do
  let command ← reads.normalizeCommandSpec raw
  guard (command.fields.value "mode" = .str "argv")
  guard (reads.standsIn workdir command = true)
  if fresh : command.commandId ∉ taken.commands.map Command.commandId then
    some ⟨taken.commands ++ [command], by
      rw [map_append]
      exact taken.distinct.append (nodup_singleton _) (disjoint_singleton.mpr fresh)⟩
  else none

def sequenceFields : List String :=
  ["spec_type", "version", "sequence_id", "packet_id", "work_plan_sha256", "workdir", "commands"]

def Reads.normalizeSequenceSpec (value : Json) : Option Spec := do
  guard (value.hasExactly sequenceFields = true)
  guard (value.value "spec_type" = .str "cwo-checked-command-sequence-spec" ∧
    (value.value "version").equalsNat 1 = true)
  let sequenceId ← strictIdentifier (value.value "sequence_id")
  let packetId ← strictIdentifier (value.value "packet_id")
  let workPlanSha256 ← sha256Hex (value.value "work_plan_sha256")
  let workdir ← (strictIdentifier (value.value "workdir")).bind reads.directory
  let raws ← (value.value "commands").elements?
  let taken ← raws.foldlM (reads.takeCommand workdir) ⟨[], nodup_nil⟩
  -- there is a command for each raw one
  if nonempty : taken.commands ≠ [] then
    some ⟨sequenceId, packetId, workPlanSha256, workdir, taken.commands, nonempty, taken.distinct⟩
  else none

end

def Spec.identity (spec : Spec) : Identity :=
  ⟨some spec.sequenceId, some spec.packetId, some spec.workPlanSha256, some spec.workdir⟩

structure SequenceResult where
  identity : Identity
  specSha256 : Option String
  status : Status
  executionStarted : Bool
  completedCount : Nat
  failedCommandId : Option String
  failureClass : Option String
  commandResults : List Json

def resultFields : List String :=
  ["result_type", "version", "command_id", "spec_sha256", "execution_status", "exit_code",
    "execution_started", "mutation_started", "mutated_paths", "failure_class",
    "quarantine_required", "diagnostics"]

def boundedText : Json → Json
  | .str text => .str (String.ofList (text.toList.take 4096))
  | _ => .str ""

def boundedPaths (paths : Json) : Json :=
  match paths.elements? with
  | some items => .arr (items.take 100)
  | none => .arrEnd

def boundedCommandResult : Json :=
  let bounded := Json.obj (resultFields.map fun name => (name, value.value name))
  let diagnostics := value.value "diagnostics"
  (bounded.set "mutated_paths" (boundedPaths (value.value "mutated_paths"))).set "diagnostics"
    (.obj [("stdout", boundedText (diagnostics.value "stdout")),
      ("stderr", boundedText (diagnostics.value "stderr"))])

def commandDisposition : Status × Option String :=
  match value.value "quarantine_required" with
  | .bool quarantine =>
    let status := value.value "execution_status"
    if quarantine = true ∨ status = .str "quarantined" then
      (.quarantined, some "command-quarantined")
    else if status = .str "failed" then (.failed, some "command-failed")
    else if status ≠ .str "passed" then (.blocked, some "invalid-command-result")
    else match value.value "exit_code" with
      | .int code =>
        if code ≠ 0 then (.failed, some "nonzero-exit")
        else if value.value "failure_class" ≠ .null then
          (.failed, some "command-result-failure")
        else if value.value "execution_started" ≠ .bool true then
          (.blocked, some "invalid-command-result")
        else (.passed, none)
      | _ => (.blocked, some "invalid-exit-evidence")
  | _ => (.blocked, some "invalid-command-result")

/-- A path that is refused, no path, or the file to write. -/
inductive Target where
  | invalid
  | absent
  | file
  deriving DecidableEq

/-- What one `_atomic_write` does; all that can fail in it stands before the replacement. -/
inductive Write where
  | done
  | osError
  | raised
  deriving DecidableEq

/-- The answers a call gets: those of its `n`th command and of its `n`th write among them. -/
structure World extends Reads where
  statePath : Json
  /-- The path is absolute, and its parent is a directory. -/
  hasParent : String → Bool
  canonicalHash : Spec → String
  executeCheckedCommand : Nat → Reply
  atomicWrite : Nat → Write

/-- `_state_target`. -/
def World.target (world : World) : Target :=
  match world.statePath with
  | .null => .absent
  | .str path => if path ≠ "" ∧ world.hasParent path = true then .file else .invalid
  | _ => .invalid

/-- What a call has done so far. -/
structure Trace where
  executed : List Command
  saves : List (SequenceResult × Write)

def Trace.start : Trace := ⟨[], []⟩

/-- What the state file records after some writes. -/
def recorded (before : Option SequenceResult) (saves : List (SequenceResult × Write)) :
    Option SequenceResult :=
  saves.foldl (fun content save => if save.2 = .done then some save.1 else content) before

/-- What `_persist` returns after a write; `none` when the exception is no `OSError`. -/
def Write.persisted : Write → Option Bool
  | .done => some true
  | .osError => some false
  | .raised => none

def persist (world : World) (payload : SequenceResult) (trace : Trace) : Option Bool × Trace :=
  if world.target = .file then
    let write := world.atomicWrite trace.saves.length
    (write.persisted, { trace with saves := trace.saves ++ [(payload, write)] })
  else (some true, trace)

/-- A last record is persisted and returned, the other one where this fails. -/
def conclude (world : World) (terminal otherwise : SequenceResult) (trace : Trace) :
    Option SequenceResult × Trace :=
  match persist world terminal trace with
  | (some true, after) => (some terminal, after)
  | (some false, after) => (some otherwise, after)
  | (none, after) => (none, after)

def SequenceResult.unsaved (result : SequenceResult) : SequenceResult :=
  { result with failureClass := some "state-persistence-failed" }

/-- `_result` for a sequence whose execution has started. -/
def Spec.result (world : World) (spec : Spec) (status : Status) (completed : Nat)
    (failed failure : Option String) (results : List Json) : SequenceResult :=
  { identity := spec.identity
    specSha256 := some (world.canonicalHash spec)
    status := status
    executionStarted := true
    completedCount := completed
    failedCommandId := failed
    failureClass := failure
    commandResults := results }

/-- The loop over the commands that are left, and the record after it. -/
def executeFrom (world : World) (spec : Spec) :
    List Command → List Json → Nat → Trace → Option SequenceResult × Trace
  | [], results, completed, trace =>
    let passed := spec.result world .passed completed none none results
    conclude world passed { passed.unsaved with status := .blocked } trace
  | command :: rest, results, completed, trace =>
    let ran := { trace with executed := trace.executed ++ [command] }
    let terminal := fun status failure results =>
      spec.result world status completed (some command.commandId) (some failure) results
    match world.executeCheckedCommand trace.executed.length with
    | .raised error =>
      if error.isException then
        let result := terminal .blocked "command-execution-exception" results
        conclude world result result.unsaved ran
      else (none, ran)
    | .returned raw =>
      if raw.isObject = false then
        let result := terminal .blocked "invalid-command-result" results
        conclude world result result.unsaved ran
      else
        let results := results ++ [boundedCommandResult raw]
        match commandDisposition raw with
        | (.passed, _) =>
          let running := spec.result world .running (completed + 1) none none results
          match persist world running ran with
          | (some true, after) => executeFrom world spec rest results (completed + 1) after
          | (some false, after) =>
            (some (spec.result world .blocked (completed + 1) (some command.commandId)
              (some "state-persistence-failed") results), after)
          | (none, after) => (none, after)
        | (status, failure) =>
          let result := spec.result world status completed (some command.commandId) failure results
          conclude world result { result.unsaved with status := .blocked } ran

/-- `_result` before any command is executed. -/
def refused (failure : String) : SequenceResult :=
  { identity := identityOf value
    specSha256 := none
    status := .blocked
    executionStarted := false
    completedCount := 0
    failedCommandId := none
    failureClass := some failure
    commandResults := [] }

def executeCheckedCommandSequence (world : World) (value : Json) : Option SequenceResult × Trace :=
  if world.target = .invalid then (some (refused value "invalid-state-path"), .start)
  else match world.normalizeSequenceSpec value with
    | none =>
      let blocked := refused value "invalid-sequence-spec"
      conclude world blocked blocked.unsaved .start
    | some spec => executeFrom world spec spec.commands [] 0 .start

/-- The disposition of a command's result is `passed`. -/
def passes : Reply → Bool
  | .returned raw => raw.isObject && (commandDisposition raw).1 == .passed
  | .raised _ => false

/-- How many of the first commands have passed. -/
def passedCount (world : World) (count : Nat) : Nat :=
  ((List.range count).filter fun position =>
    passes (world.executeCheckedCommand position)).length

theorem passedCount_succ (world : World) (count : Nat) :
    passedCount world (count + 1) = passedCount world count +
      if passes (world.executeCheckedCommand count) = true then 1 else 0 := by
  unfold passedCount
  rw [range_succ, filter_append]
  by_cases passed : passes (world.executeCheckedCommand count) = true
  · simp [passed]
  · simp [passed]

theorem passedCount_eq (world : World) {count : Nat}
    (passed : ∀ position < count, passes (world.executeCheckedCommand position) = true) :
    passedCount world count = count := by
  induction count with
  | zero => rfl
  | succ count ih =>
    have here := passed count (Nat.lt_succ_self count)
    have below := ih fun position before => passed position (Nat.lt_succ_of_lt before)
    rw [passedCount_succ, below, if_pos here]

/-- The progress after a command stands in the state file, when there is one. -/
def Progressed (world : World) (saves : List (SequenceResult × Write)) (position : Nat) : Prop :=
  world.target = .file → ∃ progress, saves[position]? = some (progress, .done) ∧
    progress.status = .running ∧ progress.completedCount = position + 1

variable {saves : List (SequenceResult × Write)}

theorem Progressed.append {world : World} {position : Nat}
    (progressed : Progressed world saves position) (later : List (SequenceResult × Write)) :
    Progressed world (saves ++ later) position := by
  intro file
  obtain ⟨progress, found, running, counted⟩ := progressed file
  have within := (List.getElem?_eq_some_iff.mp found).1
  exact ⟨progress, by rw [List.getElem?_append_left within, found], running, counted⟩

/-- What holds whenever the next command is about to be executed. -/
structure Underway (world : World) (spec : Spec) (rest : List Command) (completed : Nat)
    (trace : Trace) : Prop where
  inOrder : trace.executed ++ rest = spec.commands
  counted : completed = trace.executed.length
  aligned : world.target = .file → trace.saves.length = trace.executed.length
  passed : ∀ position < trace.executed.length, passes (world.executeCheckedCommand position) = true
  progressed : ∀ position < trace.executed.length, Progressed world trace.saves position
  saved : ∀ save ∈ trace.saves, save.2 = .done ∧ save.1.status ≠ .passed

/-- What holds of a call that is over. -/
structure Settled (world : World) (spec : Spec) (outcome : Option SequenceResult)
    (trace : Trace) : Prop where
  inOrder : trace.executed <+: spec.commands
  safe : ∀ position, position + 1 < trace.executed.length →
    passes (world.executeCheckedCommand position) = true ∧ Progressed world trace.saves position
  counted : ∀ result, outcome = some result →
    result.completedCount = passedCount world trace.executed.length
  verdict : ∀ result, outcome = some result → (result.status = .passed ↔
    trace.executed = spec.commands ∧
    (∀ position < trace.executed.length, passes (world.executeCheckedCommand position) = true) ∧
    ∀ save ∈ trace.saves, save.2 = .done)
  reported : ∀ save ∈ trace.saves, save.2 = .done → save.1.status = .passed →
    ∃ result, outcome = some result ∧ result.status = .passed

section

variable {world : World} {spec : Spec} {command : Command} {rest : List Command}
  {completed : Nat} {trace : Trace} {terminal otherwise : SequenceResult}

/-- The trace once the next command has been executed. -/
def Trace.ran (trace : Trace) (command : Command) : Trace :=
  { trace with executed := trace.executed ++ [command] }

theorem conclude_cases (world : World) (terminal otherwise : SequenceResult) (trace : Trace) :
    ∃ saves, (conclude world terminal otherwise trace).2 = ⟨trace.executed, trace.saves ++ saves⟩ ∧
      ((∀ save ∈ saves, save = (terminal, .done)) ∧
          (conclude world terminal otherwise trace).1 = some terminal ∨
        saves ≠ [] ∧ (∀ save ∈ saves, save.2 ≠ .done) ∧
          ∀ result, (conclude world terminal otherwise trace).1 = some result →
            result = otherwise) := by
  unfold conclude persist
  by_cases file : world.target = .file
  · rw [if_pos file]
    refine ⟨[(terminal, world.atomicWrite trace.saves.length)], ?_⟩
    cases world.atomicWrite trace.saves.length with
    | done | osError | raised => simp [Write.persisted]
  · rw [if_neg file]
    exact ⟨[], by simp⟩

theorem Settled.of_saves {outcome : Option SequenceResult}
    (inOrder : trace.executed <+: spec.commands)
    (safe : ∀ position, position + 1 < trace.executed.length →
      passes (world.executeCheckedCommand position) = true ∧ Progressed world trace.saves position)
    (saved : ∀ save ∈ trace.saves, save.2 = .done ∧ save.1.status ≠ .passed)
    (counted : ∀ result, outcome = some result →
      result.completedCount = passedCount world trace.executed.length)
    (verdict : ∀ result, outcome = some result → (result.status = .passed ↔
      trace.executed = spec.commands ∧
      (∀ position < trace.executed.length, passes (world.executeCheckedCommand position) = true) ∧
      ∀ save ∈ saves, save.2 = .done))
    (reported : ∀ save ∈ saves, save.2 = .done → save.1.status = .passed →
      ∃ result, outcome = some result ∧ result.status = .passed) :
    Settled world spec outcome ⟨trace.executed, trace.saves ++ saves⟩ where
  inOrder := inOrder
  safe := fun position before =>
    ⟨(safe position before).1, (safe position before).2.append saves⟩
  counted := counted
  verdict := by
    intro result returned
    rw [verdict result returned, forall_mem_append]
    have done : ∀ save ∈ trace.saves, save.2 = .done := fun save member => (saved save member).1
    exact and_congr_right fun _ => and_congr_right fun _ => (and_iff_right done).symm
  reported := by
    intro save member done passed
    rcases mem_append.mp member with earlier | last
    · exact absurd passed (saved save earlier).2
    · exact reported save last done passed

/-- A last record settles the call, whatever its write does. -/
theorem conclude_settled (inOrder : trace.executed <+: spec.commands)
    (safe : ∀ position, position + 1 < trace.executed.length →
      passes (world.executeCheckedCommand position) = true ∧ Progressed world trace.saves position)
    (saved : ∀ save ∈ trace.saves, save.2 = .done ∧ save.1.status ≠ .passed)
    (counted : terminal.completedCount = passedCount world trace.executed.length)
    (same : otherwise.completedCount = terminal.completedCount)
    (verdict : terminal.status = .passed ↔ trace.executed = spec.commands ∧
      ∀ position < trace.executed.length, passes (world.executeCheckedCommand position) = true)
    (stopped : otherwise.status ≠ .passed) :
    Settled world spec (conclude world terminal otherwise trace).1
      (conclude world terminal otherwise trace).2 := by
  obtain ⟨saves, trace_eq, ⟨done, returned⟩ | ⟨tried, failed, returned⟩⟩ :=
    conclude_cases world terminal otherwise trace
  · have written : ∀ save ∈ saves, save.2 = .done := by
      intro save member
      rw [done save member]
    rw [trace_eq, returned]
    refine .of_saves inOrder safe saved ?_ ?_ ?_
    · rintro result ⟨⟩
      exact counted
    · rintro result ⟨⟩
      rw [verdict]
      exact and_congr_right fun _ => (and_iff_left written).symm
    · intro save member _ passed
      rw [done save member] at passed
      exact ⟨terminal, rfl, passed⟩
  · rw [trace_eq]
    refine .of_saves inOrder safe saved ?_ ?_ ?_
    · intro result is
      rw [returned result is, same, counted]
    · intro result is
      rw [returned result is]
      refine iff_of_false stopped ?_
      rintro ⟨-, -, all⟩
      obtain ⟨save, member⟩ := exists_mem_of_ne_nil saves tried
      exact failed save member (all save member)
    · intro save member done
      exact absurd done (failed save member)

namespace Underway

theorem ran_inOrder (underway : Underway world spec (command :: rest) completed trace) :
    (trace.ran command).executed <+: spec.commands := by
  rw [← underway.inOrder]
  simp [Trace.ran]

theorem length_ran : (trace.ran command).executed.length = trace.executed.length + 1 := by
  simp [Trace.ran]

variable (underway : Underway world spec (command :: rest) completed trace)

include underway

theorem ran_safe (position : Nat) (before : position + 1 < (trace.ran command).executed.length) :
    passes (world.executeCheckedCommand position) = true ∧
      Progressed world (trace.ran command).saves position := by
  rw [length_ran] at before
  have earlier := Nat.lt_of_succ_lt_succ before
  exact ⟨underway.passed position earlier, underway.progressed position earlier⟩

theorem stop (fell : passes (world.executeCheckedCommand trace.executed.length) = false)
    (counted : terminal.completedCount = completed)
    (same : otherwise.completedCount = terminal.completedCount)
    (failed : terminal.status ≠ .passed) (stopped : otherwise.status ≠ .passed) :
    Settled world spec (conclude world terminal otherwise (trace.ran command)).1
      (conclude world terminal otherwise (trace.ran command)).2 := by
  refine conclude_settled underway.ran_inOrder underway.ran_safe underway.saved ?_ same ?_ stopped
  · rw [counted, underway.counted, length_ran, passedCount_succ,
      passedCount_eq world underway.passed]
    simp [fell]
  · refine iff_of_false failed ?_
    rintro ⟨-, all⟩
    have passed := all trace.executed.length (by rw [length_ran]; exact Nat.lt_succ_self _)
    rw [fell] at passed
    cases passed

theorem leave {outcome : Option SequenceResult} (failed : ∀ save ∈ saves, save.2 ≠ .done)
    (returned : ∀ result, outcome = some result → result.status ≠ .passed ∧
      result.completedCount = passedCount world (trace.executed.length + 1) ∧ saves ≠ []) :
    Settled world spec outcome ⟨(trace.ran command).executed, trace.saves ++ saves⟩ := by
  refine @Settled.of_saves _ _ _ (trace.ran command) _ underway.ran_inOrder underway.ran_safe
    underway.saved ?_ ?_ fun save member done => absurd done (failed save member)
  · intro result is
    rw [(returned result is).2.1, length_ran]
  · intro result is
    obtain ⟨stopped, -, tried⟩ := returned result is
    refine iff_of_false stopped ?_
    rintro ⟨-, -, done⟩
    obtain ⟨save, member⟩ := exists_mem_of_ne_nil saves tried
    exact failed save member (done save member)

/-- A command that has passed, with its progress persisted, leaves the next one to execute. -/
theorem advance (passed : passes (world.executeCheckedCommand trace.executed.length) = true)
    {running : SequenceResult} (status : running.status = .running)
    (counted : running.completedCount = completed + 1)
    (written : saves = if world.target = .file then [(running, .done)] else []) :
    Underway world spec rest (completed + 1)
      ⟨(trace.ran command).executed, trace.saves ++ saves⟩ where
  inOrder := by
    rw [← underway.inOrder]
    simp [Trace.ran]
  counted := by rw [length_ran, underway.counted]
  aligned := by
    intro file
    rw [length_ran, length_append, underway.aligned file, written, if_pos file, length_singleton]
  passed := by
    intro position before
    rw [length_ran] at before
    rcases Nat.lt_succ_iff_lt_or_eq.mp before with earlier | rfl
    · exact underway.passed position earlier
    · exact passed
  progressed := by
    intro position before
    rw [length_ran] at before
    rcases Nat.lt_succ_iff_lt_or_eq.mp before with earlier | rfl
    · exact (underway.progressed position earlier).append saves
    · intro file
      refine ⟨running, ?_, status, counted.trans (by rw [underway.counted])⟩
      rw [written, if_pos file, ← underway.aligned file]
      simp
  saved := by
    intro save member
    rcases mem_append.mp member with earlier | last
    · exact underway.saved save earlier
    · rw [written] at last
      split at last
      · rw [mem_singleton.mp last]
        exact ⟨rfl, by rw [status]; decide⟩
      · cases last

end Underway

theorem blocked_ne_passed : Status.blocked ≠ .passed := by decide

theorem executeFrom_settled : ∀ {results : List Json} {completed : Nat} {trace : Trace},
    Underway world spec rest completed trace →
    Settled world spec (executeFrom world spec rest results completed trace).1
      (executeFrom world spec rest results completed trace).2 := by
  induction rest with
  | nil =>
    intro results completed trace underway
    have all : trace.executed = spec.commands := by simpa using underway.inOrder
    refine conclude_settled ⟨[], by simp [all]⟩ ?_ underway.saved ?_ rfl ?_ blocked_ne_passed
    · intro position before
      have earlier := Nat.lt_of_succ_lt before
      exact ⟨underway.passed position earlier, underway.progressed position earlier⟩
    · rw [passedCount_eq world underway.passed]
      exact underway.counted
    · exact iff_of_true rfl ⟨all, underway.passed⟩
  | cons command rest ih =>
    intro results completed trace underway
    unfold executeFrom
    cases reply : world.executeCheckedCommand trace.executed.length with
    | raised error =>
      have fell : passes (world.executeCheckedCommand trace.executed.length) = false := by
        rw [reply]; rfl
      dsimp only
      split
      · exact underway.stop fell rfl rfl blocked_ne_passed blocked_ne_passed
      · have left := @Underway.leave [] _ _ _ _ _ _ underway _ (by simp)
          fun result (returned : none = some result) => absurd returned (by simp)
        rwa [append_nil] at left
    | returned raw =>
      dsimp only
      split
      · rename_i noObject
        have fell : passes (world.executeCheckedCommand trace.executed.length) = false := by
          rw [reply]; simp [passes, noObject]
        exact underway.stop fell rfl rfl blocked_ne_passed blocked_ne_passed
      · rename_i object
        split
        · rename_i unused disposed
          have passed : passes (world.executeCheckedCommand trace.executed.length) = true := by
            rw [reply]
            simpa [passes, disposed] using object
          let running :=
            spec.result world .running (completed + 1) none none
              (results ++ [boundedCommandResult raw])
          unfold persist
          by_cases file : world.target = .file
          · rw [if_pos file]
            cases world.atomicWrite trace.saves.length with
            | done =>
              exact ih (@Underway.advance _ _ _ _ _ _ _ underway passed running rfl rfl
                (if_pos file).symm)
            | osError =>
              refine underway.leave (by simp) fun result returned => ?_
              cases returned
              refine ⟨by simp [Spec.result], ?_, by simp⟩
              rw [passedCount_succ, passedCount_eq world underway.passed, if_pos passed,
                ← underway.counted]
              rfl
            | raised => exact underway.leave (by simp) (by simp [Write.persisted])
          · rw [if_neg file]
            have next := @Underway.advance _ _ _ _ _ _ _ underway passed running rfl rfl (if_neg file).symm
            rw [append_nil] at next
            exact ih next
        · rename_i status failure unpassed disposed
          have stopped : status ≠ .passed := unpassed
          have fell : passes (world.executeCheckedCommand trace.executed.length) = false := by
            rw [reply]
            simp [passes, disposed, stopped]
          exact underway.stop fell rfl rfl stopped blocked_ne_passed

end

theorem recorded_of_undone {before : Option SequenceResult}
    (undone : ∀ save ∈ saves, save.2 ≠ .done) :
    recorded before saves = before := by
  induction saves with
  | nil => rfl
  | cons save rest ih =>
    obtain ⟨failed, later⟩ := forall_mem_cons.mp undone
    exact (congrArg (fun content => recorded content rest) (if_neg failed)).trans (ih later)

/-- What the file records was there before, with no write done since, or has been written. -/
theorem recorded_cases (before : Option SequenceResult) (saves : List (SequenceResult × Write)) :
    (∀ save ∈ saves, save.2 ≠ .done) ∨
      ∃ save ∈ saves, save.2 = .done ∧ recorded before saves = some save.1 := by
  induction saves using List.reverseRecOn with
  | nil => exact .inl fun save member => absurd member not_mem_nil
  | append_singleton earlier save ih =>
    have last : recorded before (earlier ++ [save]) =
        if save.2 = .done then some save.1 else recorded before earlier := by
      simp [recorded]
    by_cases written : save.2 = .done
    · exact .inr ⟨save, by simp, written, by rw [last, if_pos written]⟩
    · rw [last, if_neg written]
      rcases ih with undone | ⟨written, member, done, content⟩
      · left
        intro other member
        rcases mem_append.mp member with inside | here
        · exact undone other inside
        · rwa [mem_singleton.mp here]
      · exact .inr ⟨written, mem_append_left _ member, done, content⟩

theorem executeCheckedCommandSequence_settled {world : World} {value : Json} {spec : Spec}
    (valid : world.normalizeSequenceSpec value = some spec) :
    Settled world spec (executeCheckedCommandSequence world value).1
      (executeCheckedCommandSequence world value).2 := by
  unfold executeCheckedCommandSequence
  by_cases refusedPath : world.target = .invalid
  · rw [if_pos refusedPath]
    refine ⟨ nil_prefix, by simp [Trace.start], ?_, ?_, by simp [Trace.start]⟩
    · intro result returned
      cases returned
      rfl
    · intro result returned
      cases returned
      refine iff_of_false blocked_ne_passed ?_
      rintro ⟨none, -, -⟩
      exact spec.nonempty none.symm
  · rw [if_neg refusedPath, valid]
    exact executeFrom_settled ⟨rfl, rfl, fun _ => rfl, by simp [Trace.start],
      by simp [Trace.start], by simp [Trace.start]⟩

/--
A checked sequence stops before the first unsafe successor: what it executes, what it counts,
what it returns and what its state file records while it runs.
-/
theorem sequence_stops_before_unsafe (world : World) (value : Json) (spec : Spec)
    (before : Option SequenceResult) (valid : world.normalizeSequenceSpec value = some spec) :
    let run := executeCheckedCommandSequence world value
    run.2.executed <+: spec.commands ∧
    (∀ position, position + 1 < run.2.executed.length →
      passes (world.executeCheckedCommand position) = true ∧
        Progressed world run.2.saves position) ∧
    (∀ result, run.1 = some result →
      result.completedCount = passedCount world run.2.executed.length ∧
      (result.status = .passed ↔ run.2.executed = spec.commands ∧
        (∀ position < run.2.executed.length, passes (world.executeCheckedCommand position) = true) ∧
        ∀ save ∈ run.2.saves, save.2 = .done)) ∧
    ∀ moment content, recorded before (run.2.saves.take moment) = some content →
      content.status = .passed →
      (∃ result, run.1 = some result ∧ result.status = .passed) ∨
        before = some content ∧ ∀ save ∈ run.2.saves.take moment, save.2 ≠ .done := by
  have settled := executeCheckedCommandSequence_settled valid
  refine ⟨settled.inOrder, settled.safe,
    fun result returned => ⟨settled.counted result returned, settled.verdict result returned⟩, ?_⟩
  intro moment content found passed
  rcases recorded_cases before
    ((executeCheckedCommandSequence world value).2.saves.take moment) with
    undone | ⟨save, member, done, written⟩
  · exact .inr ⟨(recorded_of_undone undone).symm.trans found, undone⟩
  · rw [found] at written
    cases written
    exact .inl (settled.reported save (mem_of_mem_take member) done passed)

namespace Sample

/-- A command as it is given and as it is normalized. -/
def command (commandId : String) : Json :=
  .obj [("spec_type", .str "cwo-checked-command-spec"), ("version", .int 1),
    ("command_id", .str commandId), ("mode", .str "argv"), ("argv", .strings ["true"]),
    ("cwd", .str "/work"), ("env", .objEnd), ("inherit_environment", .bool false), ("stdin", .null),
    ("source", .null), ("preflights", .arrEnd), ("mutation_intent", .str "none"),
    ("allowed_paths", .arrEnd), ("timeout_seconds", .int 30)]

def digest : String := String.ofList (List.replicate 64 'a')

def given : Json :=
  .obj [("spec_type", .str "cwo-checked-command-sequence-spec"), ("version", .int 1),
    ("sequence_id", .str "sequence"), ("packet_id", .str "packet"), ("work_plan_sha256", .str digest),
    ("workdir", .str "/work"), ("commands", .arr (["first", "second", "third"].map command))]

def reads : Reads where
  directory := some
  resolve := id
  normalizeCommandSpec raw :=
    match raw.value "command_id" with
    | .str commandId => some ⟨commandId, raw⟩
    | _ => none

theorem given_valid : (reads.normalizeSequenceSpec given).isSome = true := by decide +kernel

/-- Three commands, in a directory in which an earlier sequence has left its record. -/
def spec : Spec := (reads.normalizeSequenceSpec given).get given_valid

def passedResult : Json :=
  .obj [("result_type", .str "cwo-checked-command-result"), ("version", .int 1),
    ("command_id", .str "first"), ("spec_sha256", .str digest), ("execution_status", .str "passed"),
    ("exit_code", .int 0), ("execution_started", .bool true), ("mutation_started", .bool false),
    ("mutated_paths", .arrEnd), ("failure_class", .null), ("quarantine_required", .bool false),
    ("diagnostics", .obj [("stdout", .str ""), ("stderr", .str "")])]

/-- The first command passes and the second raises. -/
def world (write : Write) : World where
  toReads := reads
  statePath := .str "/state/sequence"
  hasParent _ := true
  canonicalHash := fun _ => digest
  executeCheckedCommand position :=
    if position = 0 then .returned passedResult else .raised (valueError "stopped")
  atomicWrite := fun _ => write

def earlier : SequenceResult := spec.result (world .done) .passed 3 none none []

end Sample

open Sample (earlier given spec world)

theorem sample_normalized (write : Write) : (world write).normalizeSequenceSpec given = some spec :=
  (Option.some_get Sample.given_valid).symm

/-- Two of the three commands are executed, the first passes, and no record says that the sequence did. -/
theorem sequence_stops_before_unsafe_raised :
    let run := executeCheckedCommandSequence (world .done) given
    run.2.executed.map Command.commandId = ["first", "second"] ∧ run.2.executed <+: spec.commands ∧
      (∀ result, run.1 = some result → result.completedCount = passedCount (world .done) 2) ∧
      ∀ moment content, recorded none (run.2.saves.take moment) = some content →
        content.status ≠ .passed := by
  have executed : (executeCheckedCommandSequence (world .done) given).2.executed.map Command.commandId =
      ["first", "second"] := by decide +kernel
  have length := congrArg List.length executed
  rw [List.length_map] at length
  obtain ⟨inOrder, -, returned, written⟩ :=
    sequence_stops_before_unsafe (world .done) given spec none (sample_normalized .done)
  refine ⟨executed, inOrder, fun result answered => ?_, fun moment content found passed => ?_⟩
  · rw [(returned result answered).1, length]
    rfl
  · rcases written moment content found passed with ⟨result, answered, passed⟩ | ⟨absent, _⟩
    · have all := ((returned result answered).2.mp passed).1
      have shorter := congrArg List.length all
      rw [length] at shorter
      cases shorter
    · cases absent

/-- The record of an earlier sequence is still there when no write of the call succeeds. -/
theorem state_file_keeps_earlier_record :
    ¬ ∀ (world : World) (value : Json) (spec : Spec) (before : Option SequenceResult),
      world.normalizeSequenceSpec value = some spec →
      ∀ moment content,
        recorded before ((executeCheckedCommandSequence world value).2.saves.take moment) =
          some content →
        content.status = .passed →
        ∃ result, (executeCheckedCommandSequence world value).1 = some result ∧
          result.status = .passed := by
  intro always
  obtain ⟨result, returned, passed⟩ :=
    always (world .osError) given spec (some earlier) (sample_normalized .osError) 1 earlier rfl rfl
  have blocked : (executeCheckedCommandSequence (world .osError) given).1.map (·.status == .passed) =
      some false := by decide +kernel
  rw [returned] at blocked
  simp [passed] at blocked

end WorkOrchestration.Commands.CheckedSequence
