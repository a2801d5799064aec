import Mathlib.Data.Finset.Card
import WorkOrchestration.Native.ToolPairing

/-!
# Verdicts of action receipts

What the kind of a receipt says of the log: a patch that succeeded has a structured event of its own.
When the log grows, a verdict stays or turns ambiguous.
-/

namespace WorkOrchestration.Native.ActionReceipts

open List Lib.Text Artifacts ToolCalls

section

variable {readers : Readers} {transport : Transport} {segment : Option String}
  {records : List Json} {receipt : Receipt} {log : Log} {call : Call}

/-! ## Patches that succeeded -/

def Fits (path target : String) : Prop := path = target ∨ endsWith path ("/" ++ target) = true

/-- Targets and paths match one to one. -/
def OneToOne (targets paths : List String) : Prop :=
  (∀ target ∈ targets, ∃! path, path ∈ paths ∧ Fits path target) ∧
    ∀ path ∈ paths, ∃! target, target ∈ targets ∧ Fits path target

theorem oneToOne_of_match {targets paths : List String} (distinct : targets.Nodup)
    (pathsDistinct : paths.Nodup) (matched : targetsMatch targets paths = true) :
    OneToOne targets paths := by
  simp only [targetsMatch, Bool.and_eq_true, decide_eq_true_eq, all_eq_true] at matched
  obtain ⟨⟨sizes, single⟩, covered⟩ := matched
  have found (target : String) (path : String) :
      path ∈ paths.filter (fun path => path = target || endsWith path ("/" ++ target)) ↔
        path ∈ paths ∧ Fits path target := by
    simp [Fits]
  have one (target : String) (listed : target ∈ targets) : ∃! path, path ∈ paths ∧ Fits path target := by
    obtain ⟨path, only⟩ := length_eq_one_iff.mp (single target listed)
    refine ⟨path, (found target path).mp (only ▸ mem_cons_self), fun other fits => ?_⟩
    exact mem_singleton.mp (only ▸ (found target other).mpr fits)
  choose! place placed using one
  -- the places of the targets are as many as the paths, so they are all of them
  have everywhere : ∀ path ∈ paths, ∃ target ∈ targets, Fits path target := by
    intro path listed
    have whole : (targets.flatMap fun target => paths.filter fun path =>
        path = target || endsWith path ("/" ++ target)).dedup.Perm paths := by
      refine (subperm_of_subset (nodup_dedup _) fun other member => ?_).perm_of_length_le
        (Nat.le_of_eq covered.symm)
      obtain ⟨target, _, member⟩ := mem_flatMap.mp (mem_dedup.mp member)
      exact mem_of_mem_filter member
    obtain ⟨target, known, member⟩ := mem_flatMap.mp (mem_dedup.mp (whole.mem_iff.mpr listed))
    exact ⟨target, known, ((found target path).mp member).2⟩
  have injective : Set.InjOn place {target | target ∈ targets} := by
    have onto : Set.SurjOn place (targets.toFinset : Set String) paths.toFinset := by
      intro path listed
      obtain ⟨target, known, fits⟩ := everywhere path (by simpa using listed)
      exact ⟨target, by simpa using known, ((placed target known).2 path ⟨by simpa using listed, fits⟩).symm⟩
    have apart := Finset.injOn_of_surjOn_of_card_le place (fun target listed => by
      simpa using (placed target (by simpa using listed)).1.1) onto (by
        rw [toFinset_card_of_nodup distinct, toFinset_card_of_nodup pathsDistinct, sizes])
    simpa using apart
  refine ⟨fun target listed => ⟨place target, (placed target listed).1, (placed target listed).2⟩,
    fun path listed => ?_⟩
  obtain ⟨target, known, fits⟩ := everywhere path listed
  refine ⟨target, ⟨known, fits⟩, ?_⟩
  rintro other ⟨otherKnown, otherFits⟩
  apply injective otherKnown known
  rw [← (placed target known).2 path ⟨listed, fits⟩, ← (placed other otherKnown).2 path ⟨listed, otherFits⟩]

/-- What a patch that succeeded rests on; the orders are those of the log where records are short. -/
structure PatchEvidence (readers : Readers) (segment : Option String) (log : Log) (call : Call)
    (event : PatchEvent) (output : Output) : Prop where
  only : log.allEvents segment call = [event]
  applied : Applied event
  answered : log.outputOf? call = some output
  after : call.order < event.order
  before : event.order < output.entry.order
  segment : inSegment segment event = true
  targets : call.namespaced = true → event.key ≠ call.key → ∃ paths, observedTargets event = some paths ∧
    OneToOne (expectedTargets call) paths

variable {event : PatchEvent}

theorem applied_of_eventResult {failureText : Bool} {exitCode : Option Int}
    (success : (eventResult event failureText exitCode).kind = .pairedSuccess) : Applied event := by
  unfold eventResult at success
  dsimp only at success
  split at success
  · cases success
  split at success
  · cases success
  split at success
  · assumption
  split at success <;> cases success

theorem applied_of_pairedToolResult {item : Json} {events : List PatchEvent}
    (clear : (pairedToolResult readers "apply_patch" item events).conflict = false)
    (success : (pairedToolResult readers "apply_patch" item events).kind = .pairedSuccess) :
    ∃ event, events = [event] ∧ Applied event := by
  have notExec : ¬ ("apply_patch" = "exec_command") := by decide
  unfold pairedToolResult at clear success
  simp only [notExec, false_and, if_false, if_true] at clear success
  split at success
  · cases success
  rcases events with _ | ⟨event, _ | ⟨_, _⟩⟩
  · dsimp only at success
    split at success
    · split at success <;> cases success
    · split at success <;> cases success
  · exact ⟨event, rfl, applied_of_eventResult success⟩
  · cases success

theorem targets_of_nested (nested : log.nestedEvent segment call = some event) :
    ∃ paths, observedTargets event = some paths ∧ OneToOne (expectedTargets call) paths := by
  obtain ⟨_, _, _, matches'⟩ := candidate_ok (nestedEvent_candidate nested)
  obtain ⟨paths, observed, matched⟩ := (Option.any_eq_true _ _).mp matches'
  have distinct : paths.Nodup := by
    unfold observedTargets at observed
    dsimp only at observed
    split at observed
    · cases observed
    · rw [← Option.some.inj observed]
      exact nodup_dedup _
  exact ⟨paths, observed, oneToOne_of_match (nodup_dedup _) distinct matched⟩

theorem patchEvidence (tool : call.tool = "apply_patch")
    (success : (callReceipt readers segment log call).kind = .pairedSuccess) :
    ∃ event output, PatchEvidence readers segment log call event output := by
  obtain ⟨clear, agreed, same⟩ := clear_of_kind (success ▸ (by decide) :
    (callReceipt readers segment log call).kind ≠ .ambiguous)
  rw [success] at same
  have applied : ∃ event, log.validEvents segment call = [event] ∧ Applied event ∧
      ∃ output, log.outputOf? call = some output := by
    unfold callResult at same agreed
    split at same
    · cases same
    rename_i waiting
    rw [if_neg waiting] at agreed
    cases answered : log.outputOf? call with
    | none =>
      rw [answered] at same
      cases same
    | some output =>
      rw [answered] at same agreed
      dsimp only at same agreed
      split at same
      · rename_i wrapped
        rw [if_pos wrapped] at agreed
        simp only [Bool.or_eq_false_iff, tool] at same agreed
        have kind := same.symm
        have conflict := agreed.2
        unfold patchConflict at conflict
        simp only [kind, reduceCtorEq, false_and, if_false, decide_true, Bool.true_and,
          Bool.or_eq_false_iff, decide_eq_false_iff_not, not_not, Bool.not_eq_false'] at conflict
        obtain ⟨event, only⟩ := length_eq_one_iff.mp conflict.1
        simpa [only, Applied] using conflict.2
      · rename_i direct
        rw [if_neg direct, tool] at agreed
        rw [tool] at same
        obtain ⟨event, only, applied⟩ := applied_of_pairedToolResult agreed same.symm
        exact ⟨event, only, applied, output, rfl⟩
  obtain ⟨event, valid, applied, output, answered⟩ := applied
  have joined : event ∈ log.allEvents segment call := by
    have member : event ∈ log.validEvents segment call := valid ▸ mem_cons_self
    rw [Log.validEvents, if_pos tool] at member
    exact mem_of_mem_filter member
  have explained := explains_of_clear clear joined
  refine ⟨event, output, explained.only, applied, answered, explained.after,
    explained.before output answered, explained.segment, fun _ other => ?_⟩
  rcases mem_append.mp joined with byId | nested
  · exact absurd (of_decide_eq_true (mem_filter.mp byId).2) other
  · exact targets_of_nested (Option.mem_toList.mp nested)

/-- A structured event is joined to one clear call only. -/
theorem call_of_event {other : Call} (called : call ∈ log.calls)
    (otherCalled : other ∈ log.calls) (clear : log.isAmbiguous segment call = false)
    (joined : event ∈ log.allEvents segment call) (otherJoined : event ∈ log.allEvents segment other) :
    call = other := by
  have alone (holds : Call → Bool) (few : log.calls.countP holds ≤ 1) (here : holds call = true)
      (there : holds other = true) : call = other := by
    rw [countP_eq_length_filter] at few
    have single := eq_singleton_of_mem (mem_filter.mpr ⟨called, here⟩) few
    exact (mem_singleton.mp (single ▸ mem_filter.mpr ⟨otherCalled, there⟩)).symm
  have unclaimed {caller : Call} (nested : event ∈ (log.nestedEvent segment caller).toList) :
      log.callCount event.key = 0 ∧
        log.calls.countP (fun made => (log.candidates segment made).contains event) = 1 := by
    have found := Option.mem_toList.mp nested
    constructor
    · exact (candidate_ok (nestedEvent_candidate found)).2.2.1
    · unfold Log.nestedEvent at found
      split at found
      · split at found
        · rename_i single
          cases found
          exact single
        · cases found
      · cases found
  have keyed {caller : Call} (byId : event ∈ log.eventsFor caller.key) : event.key = caller.key :=
    of_decide_eq_true (mem_filter.mp byId).2
  have counted {caller : Call} (called : caller ∈ log.calls) : 0 < log.callCount caller.key :=
    countP_pos_iff.mpr ⟨caller, called, by simp⟩
  rcases mem_append.mp joined with byId | nested <;>
    rcases mem_append.mp otherJoined with otherById | otherNested
  · refine alone (fun made => made.key = call.key) (isAmbiguous_eq_false clear).1 (by simp) ?_
    simp [← keyed byId, keyed otherById]
  · have none := (unclaimed otherNested).1
    rw [keyed byId] at none
    exact absurd none (Nat.ne_of_gt (counted called))
  · have none := (unclaimed nested).1
    rw [keyed otherById] at none
    exact absurd none (Nat.ne_of_gt (counted otherCalled))
  · refine alone _ (Nat.le_of_eq (unclaimed nested).2) ?_ ?_
    · exact contains_iff_mem.mpr (nestedEvent_candidate (Option.mem_toList.mp nested))
    · exact contains_iff_mem.mpr (nestedEvent_candidate (Option.mem_toList.mp otherNested))

end

/-- What a patch receipt that ended in success rests on, and that no event is shared by receipts. -/
structure PatchesEvidenced (readers : Readers) (transport : Transport) (segment : Option String)
    (records : List Json) : Prop where
  evidenced : ∀ receipt ∈ normalizeActionReceipts readers transport segment records,
    receipt.tool = "apply_patch" → receipt.kind = .pairedSuccess →
      ∃ call ∈ (Log.of readers transport records).calls, ∃ event output,
        receipt.source = .call call ∧
          PatchEvidence readers segment (Log.of readers transport records) call event output ∧
            (Source.call call).Before (.patch event) ∧
              (Short records → (Source.patch event).Before (.output output))
  exclusive : ∀ first ∈ normalizeActionReceipts readers transport segment records,
    ∀ second ∈ normalizeActionReceipts readers transport segment records, ∀ call other event,
      first.source = .call call → second.source = .call other → first.pairingStatus ≠ .ambiguous →
        event ∈ (Log.of readers transport records).allEvents segment call →
          event ∈ (Log.of readers transport records).allEvents segment other → call = other

theorem patches_evidenced (readers : Readers) (transport : Transport) (segment : Option String)
    (records : List Json) : PatchesEvidenced readers transport segment records where
  evidenced receipt member tool success := by
    obtain ⟨call, called, resolves⟩ := settled_cases member (success ▸ (by decide))
    obtain ⟨event, output, evidence⟩ := patchEvidence (resolves.tool.symm.trans tool)
      ((resolves.eq_kind (success ▸ (by decide))).trans success)
    exact ⟨call, called, event, output, resolves.source, evidence,
      Source.before_of_order (Nat.succ_pos 999) evidence.after,
      fun short => Source.before_of_order (place_of_output short evidence.answered) evidence.before⟩
  exclusive first firstMember second secondMember call other event firstSource secondSource clear joined
      otherJoined := by
    obtain ⟨called, status⟩ := call_of_receipt firstMember firstSource
    have otherCalled := (call_of_receipt secondMember secondSource).1
    refine call_of_event called otherCalled ?_ joined otherJoined
    rw [Bool.eq_false_iff]
    intro ambiguous
    exact clear (status.trans (status_of_ambiguous ambiguous))

/-! ## A patch event that is joined by its call id alone -/

/-- A patch of one file, as a text of JSON. -/
def patchText : String := "\"*** Begin Patch\\n*** Update File: a.py\\n*** End Patch\""

/-- The script that applies the patch, and what is printed once it has. -/
def patchSource : String :=
  "const result = await tools.apply_patch(" ++ patchText ++ ");\ntext(JSON.stringify(result));"

def patchCompleted : String := "Script completed\nWall time 0.1 seconds\nOutput:\n\x7b\x7d"

/-- The readers, as far as these texts go. -/
def patchReaders : Readers where
  render _ := ""
  loads text :=
    if text = patchText then
      some (.str "*** Begin Patch\n*** Update File: a.py\n*** End Patch")
    else if text = "\x7b\x7d" then some .objEnd
    else none
  exitCodes _ := []
  execInterrupted _ := false
  verificationFailed _ := false
  completedBody text := if text = patchCompleted then some "\x7b\x7d" else none
  execSource text := if text = patchSource then some ("apply_patch", patchText) else none

def wrappedPatch (id : String) : Json :=
  .obj [("type", .str "response_item"), ("payload", .obj [("type", .str "custom_tool_call"),
    ("call_id", .str id), ("name", .str "exec"), ("input", .str patchSource)])]

/-- The event of a patch of one file. -/
def patchEnded (id path : String) : Json :=
  .obj [("type", .str "event_msg"), ("payload", .obj [("type", .str "patch_apply_end"),
    ("call_id", .str id), ("success", .bool true), ("status", .str "completed"),
    ("changes", .obj [(path, .objEnd)])])]

def patchOutput (id : String) : Json :=
  .obj [("type", .str "response_item"), ("payload", .obj [("type", .str "custom_tool_call_output"),
    ("call_id", .str id), ("output", .str patchCompleted)])]

/-- A wrapped patch of one file, and an event of the same call that reports another file. -/
def patchRecords : List Json := [wrappedPatch "c1", patchEnded "c1" "b.py", patchOutput "c1"]

theorem other_file_accepted :
    ∃ receipt ∈ normalizeActionReceipts patchReaders .namespacedExec none patchRecords, ∃ call,
      receipt.source = .call call ∧ receipt.tool = "apply_patch" ∧ receipt.kind = .pairedSuccess ∧
      call.namespaced = true ∧
      ∀ event ∈ (Log.of patchReaders .namespacedExec patchRecords).allEvents none call,
        ∀ paths, observedTargets event = some paths → ¬ OneToOne (expectedTargets call) paths := by
  have accepted : ∃ receipt ∈ normalizeActionReceipts patchReaders .namespacedExec none patchRecords,
      receipt.tool = "apply_patch" ∧ receipt.kind = .pairedSuccess := by
    decide +kernel
  have joined : ∀ call ∈ (Log.of patchReaders .namespacedExec patchRecords).calls,
      call.namespaced = true ∧ expectedTargets call = ["a.py"] ∧
      ∀ event ∈ (Log.of patchReaders .namespacedExec patchRecords).allEvents none call,
        observedTargets event = some ["b.py"] := by
    decide +kernel
  obtain ⟨receipt, member, tool, success⟩ := accepted
  obtain ⟨call, called, resolves⟩ := settled_cases member (success ▸ (by decide))
  obtain ⟨wrapped, expected, events⟩ := joined call called
  refine ⟨receipt, member, call, resolves.source, tool, success, wrapped, ?_⟩
  intro event explains paths observed matched
  obtain rfl := Option.some.inj ((events event explains).symm.trans observed)
  rw [expected] at matched
  obtain ⟨path, ⟨listed, fits⟩, _⟩ := matched.1 "a.py" mem_cons_self
  obtain rfl := mem_singleton.mp listed
  exact absurd fits (by unfold Fits; decide +kernel)

/-! ## Logs that grow -/

variable {readers : Readers} {transport : Transport} {segment : Option String}
  {records more : List Json} {log later : Log} {call : Call} {output : Output} {bound : Nat}
  {receipt : Receipt}

/-- The later log has more: every old output lies in front of the bound, and no new patch event does. -/
structure Extends (log later : Log) (bound : Nat) : Prop where
  calls : log.calls <+: later.calls
  outputs : log.outputs <+: later.outputs
  events : ∃ new, later.patchEvents = log.patchEvents ++ new ∧ ∀ event ∈ new, bound ≤ event.order
  before : ∀ output ∈ log.outputs, output.entry.order < bound

theorem extends_append (short : Short records) : Extends (Log.of readers transport records)
    (Log.of readers transport (records ++ more)) (records.length * 1000) := by
  have items : entries records <+: entries (records ++ more) := by
    unfold entries
    rw [zipIdx_append, flatMap_append]
    exact prefix_append _ _
  refine ⟨((items.filter _).filter _).map _, ((items.filter _).filter _).map _, ?_, ?_⟩
  · refine ⟨_, by rw [Log.of, Log.of, patchApplyEvents, zipIdx_append, filterMap_append]; rfl, ?_⟩
    intro event member
    obtain ⟨record, listed, made⟩ := mem_filterMap.mp member
    have late := le_snd_of_mem_zipIdx listed
    dsimp only at made
    split at made
    · obtain rfl := Option.some.inj made
      change _ ≤ record.2 * 1000
      omega
    · cases made
  · intro output member
    rw [outputs_of] at member
    obtain ⟨entry, isOutput, rfl⟩ := mem_map.mp member
    have inside := mem_of_mem_filter isOutput
    have item := itemIndex_lt short inside
    have record : entry.recordIndex < records.length := by
      obtain ⟨record, listed, inside⟩ := mem_flatMap.mp inside
      obtain ⟨item, _, rfl⟩ := mem_map.mp inside
      exact snd_lt_of_mem_zipIdx listed
    change entry.recordIndex * 1000 + entry.itemIndex < _
    omega

theorem outputsFor_eq_of_extends (grown : Extends log later bound)
    (answered : log.outputOf? call = some output)
    (few : (later.outputsFor call.key).length ≤ 1) :
    later.outputsFor call.key = log.outputsFor call.key := by
  have front : log.outputsFor call.key <+: later.outputsFor call.key := grown.outputs.filter _
  have one : 1 ≤ (log.outputsFor call.key).length := by
    rw [Nat.one_le_iff_ne_zero, Ne, length_eq_zero_iff]
    intro none
    rw [Log.outputOf?, none] at answered
    cases answered
  exact (front.eq_of_length_le (few.trans one)).symm

theorem eventsFor_eq_of_extends (grown : Extends log later bound)
    (answered : log.outputOf? call = some output) (clear : later.isAmbiguous segment call = false) :
    later.eventsFor call.key = log.eventsFor call.key := by
  have outputs := outputsFor_eq_of_extends grown answered (isAmbiguous_eq_false clear).2.1
  obtain ⟨new, split, late⟩ := grown.events
  unfold Log.eventsFor
  rw [split, filter_append, append_right_eq_self, filter_eq_nil_iff]
  intro event member keyed
  have listed : event ∈ later.eventsFor call.key := by
    rw [Log.eventsFor, split]
    exact mem_filter.mpr ⟨mem_append_right _ member, keyed⟩
  have explained := explains_of_clear clear (mem_append_left _ listed)
  have early := explained.before output (by rw [Log.outputOf?, outputs]; exact answered)
  have first := grown.before output (mem_of_mem_filter (mem_of_mem_head? answered))
  exact absurd (late event member) (by omega)

theorem nestedEvent_eq_none (alone : call.namespaced = false ∨ call.tool ≠ "apply_patch") :
    log.nestedEvent segment call = none := by
  have empty : log.candidates segment call = [] := by
    unfold Log.candidates
    rw [if_pos (by tauto)]
  unfold Log.nestedEvent
  rw [empty]

/-- No new event lies between a call and an output that the log had. -/
theorem patchConflict_eq_of_extends (grown : Extends log later bound) (listed : output ∈ log.outputs)
    (all : later.allEvents segment call = log.allEvents segment call)
    (valid : later.validEvents segment call = log.validEvents segment call) (result : Result) :
    patchConflict readers segment later call output result =
      patchConflict readers segment log call output result := by
  obtain ⟨new, split, late⟩ := grown.events
  have first := grown.before output listed
  have outside : new.any (fun event => decide (call.order < event.order) &&
      decide (event.order < output.entry.order)) = false := by
    refine any_eq_false.mpr fun event member between => ?_
    have last := late event member
    simp only [Bool.and_eq_true, decide_eq_true_eq] at between
    omega
  unfold patchConflict
  rw [all, valid, split, any_append, outside, Bool.or_false]

/-- A call that has been answered, is clear later and is joined to the events it was joined to has the
receipt it had. -/
theorem callReceipt_eq_of_events (grown : Extends log later bound)
    (answered : log.outputOf? call = some output) (clear : later.isAmbiguous segment call = false)
    (all : later.allEvents segment call = log.allEvents segment call) :
    callReceipt readers segment later call = callReceipt readers segment log call := by
  have outputs := outputsFor_eq_of_extends grown answered (isAmbiguous_eq_false clear).2.1
  have answer : later.outputOf? call = log.outputOf? call := congrArg head? outputs
  have valid : later.validEvents segment call = log.validEvents segment call := by
    unfold Log.validEvents
    rw [all, answer]
  have pending : later.pendingDirect segment call = log.pendingDirect segment call := by
    unfold Log.pendingDirect
    rw [all, answer]
  have invalid : later.invalidEvent segment call = log.invalidEvent segment call := by
    unfold Log.invalidEvent Log.pendingNested
    rw [all, valid, pending, answer, answered]
    simp
  have ambiguous : later.isAmbiguous segment call = log.isAmbiguous segment call := by
    have count : log.callCount call.key ≤ later.callCount call.key := grown.calls.sublist.countP_le
    have once := (isAmbiguous_eq_false clear).1
    unfold Log.isAmbiguous
    rw [outputs, valid, invalid, decide_eq_false (show ¬ 1 < later.callCount call.key by omega),
      decide_eq_false (show ¬ 1 < log.callCount call.key by omega)]
  have listed := mem_of_mem_filter (mem_of_mem_head? (Option.mem_def.mpr answered))
  have result : callResult readers segment later call = callResult readers segment log call := by
    unfold callResult
    rw [pending, answer, answered, valid]
    simp only [patchConflict_eq_of_extends grown listed all valid]
  unfold callReceipt
  rw [ambiguous, result, answer]

/-- A call that is direct or no patch, has been answered and is clear later has the receipt it had. -/
theorem callReceipt_eq_of_extends (grown : Extends log later bound)
    (answered : log.outputOf? call = some output) (clear : later.isAmbiguous segment call = false)
    (alone : call.namespaced = false ∨ call.tool ≠ "apply_patch") :
    callReceipt readers segment later call = callReceipt readers segment log call := by
  refine callReceipt_eq_of_events grown answered clear ?_
  unfold Log.allEvents
  rw [nestedEvent_eq_none alone, nestedEvent_eq_none alone, eventsFor_eq_of_extends grown answered clear]

/-- The candidates of an answered call are among those it had. -/
theorem mem_candidates_of_extends (grown : Extends log later bound) (called : call ∈ log.calls)
    (answered : log.outputOf? call = some output) (clear : later.isAmbiguous segment call = false)
    {event : PatchEvent} (candidate : event ∈ later.candidates segment call) :
    event ∈ log.candidates segment call := by
  have outputs := outputsFor_eq_of_extends grown answered (isAmbiguous_eq_false clear).2.1
  have head : (log.outputsFor call.key).head? = some output := answered
  have here : 0 < log.callCount call.key := countP_pos_iff.mpr ⟨call, called, by simp⟩
  have count : log.callCount call.key ≤ later.callCount call.key := grown.calls.sublist.countP_le
  unfold Log.candidates at candidate ⊢
  dsimp only at candidate ⊢
  rw [outputs] at candidate
  split at candidate
  · exact absurd candidate not_mem_nil
  rename_i open'
  simp only [not_or, not_not] at open'
  obtain ⟨wrapped, tool, once, few, targets⟩ := open'
  rw [if_neg (by simp only [not_or, not_not]; exact ⟨wrapped, tool, by omega, few, targets⟩)]
  obtain ⟨member, holds⟩ := mem_filter.mp candidate
  simp only [Bool.and_eq_true, decide_eq_true_eq, head, Option.all_some] at holds
  obtain ⟨⟨⟨⟨⟨⟨unclaimed, single⟩, present⟩, after⟩, before⟩, within⟩, matched⟩ := holds
  obtain ⟨new, split, late⟩ := grown.events
  have listed : event ∈ log.patchEvents := by
    rw [split] at member
    refine (mem_append.mp member).resolve_right fun recent => ?_
    have last := late event recent
    have first := grown.before output (mem_of_mem_filter (mem_of_mem_head? answered))
    omega
  have keyed : event ∈ log.eventsFor event.key := mem_filter.mpr ⟨listed, decide_eq_true rfl⟩
  have front : (log.eventsFor event.key).length ≤ 1 := by
    rw [← single, Log.eventsFor, Log.eventsFor, split, filter_append, length_append]
    omega
  have unclaimedBefore : log.callCount event.key ≤ later.callCount event.key :=
    grown.calls.sublist.countP_le
  refine mem_filter.mpr ⟨listed, ?_⟩
  simp only [Bool.and_eq_true, decide_eq_true_eq, head, Option.all_some]
  exact ⟨⟨⟨⟨⟨⟨by omega, Nat.le_antisymm front (length_pos_of_mem keyed)⟩, present⟩, after⟩, before⟩,
    within⟩, matched⟩

theorem kind_of_isAmbiguous (ambiguous : log.isAmbiguous segment call = true) :
    (callReceipt readers segment log call).kind = .ambiguous := by
  simp [callReceipt, ambiguous]

/-- An operation that succeeded or failed keeps its result and exit code or becomes ambiguous. -/
theorem settled_stays (grown : Extends log later bound)
    (settled : (callReceipt readers segment log call).kind = .pairedSuccess ∨
      (callReceipt readers segment log call).kind = .pairedFailure) :
    (callReceipt readers segment later call).kind = .ambiguous ∨
      (callReceipt readers segment later call).kind = (callReceipt readers segment log call).kind ∧
      (callReceipt readers segment later call).exitCode =
        (callReceipt readers segment log call).exitCode := by
  have clearBefore : (callReceipt readers segment log call).kind ≠ .ambiguous := by
    rcases settled with same | same <;> rw [same] <;> decide
  obtain ⟨before, agreed, same⟩ := clear_of_kind clearBefore
  cases ambiguous : later.isAmbiguous segment call with
  | true => exact .inl (kind_of_isAmbiguous ambiguous)
  | false =>
    have idle : log.pendingDirect segment call = false := by
      rw [Bool.eq_false_iff]
      intro waiting
      rw [same, callResult, if_pos waiting] at settled
      rcases settled with same | same <;> cases same
    cases answered : log.outputOf? call with
    | none =>
      rw [same, callResult, idle, answered] at settled
      rcases settled with same | same <;> cases same
    | some output =>
      by_cases alone : call.namespaced = false ∨ call.tool ≠ "apply_patch"
      · rw [callReceipt_eq_of_extends grown answered ambiguous alone]
        exact .inr ⟨rfl, rfl⟩
      · rw [not_or, not_not] at alone
        have outputs := outputsFor_eq_of_extends grown answered (isAmbiguous_eq_false ambiguous).2.1
        have answer : later.outputOf? call = some output := (congrArg head? outputs).trans answered
        -- a wrapped patch has the result of its output, whatever conflicts with it
        have shape (log : Log) (answered : log.outputOf? call = some output) :
            ∃ conflict, callResult readers segment log call =
              { pairedNamespacedExecResult readers call.tool output.entry.item with conflict } := by
          have idle : log.pendingDirect segment call = false := by
            simp [Log.pendingDirect, alone.1]
          rw [callResult, idle, answered]
          simp only [alone.1, if_true]
          exact ⟨_, rfl⟩
        obtain ⟨first, early⟩ := shape log answered
        obtain ⟨second, late⟩ := shape later answer
        simp only [callReceipt, before, early] at clearBefore
        simp only [callReceipt, before, ambiguous, early, late]
        cases first with
        | true => simp at clearBefore
        | false =>
          cases second with
          | true => exact .inl (by simp)
          | false => exact .inr ⟨rfl, rfl⟩

/-- A wrapped patch whose id is its own and whose output is the only one. -/
def WrappedPatch (log : Log) (call : Call) : Prop :=
  call.namespaced = true ∧ call.tool = "apply_patch" ∧ log.callCount call.key = 1 ∧
    (log.outputsFor call.key).length ≤ 1

/-- It is open which event a wrapped patch with an id of its own has: several calls or events contest the
nested one, or one event has the id, and the output is missing or a nested event fits as well. -/
def Undecided (segment : Option String) (log : Log) (call : Call) : Prop :=
  WrappedPatch log call ∧
    ((log.eventsFor call.key = [] ∧ (log.outputOf? call).isSome = true ∧
        log.candidates segment call ≠ [] ∧ log.nestedEvent segment call = none) ∨
      ∃ event, log.eventsFor call.key = [event] ∧ call.order < event.order ∧
        (∀ output, log.outputOf? call = some output → event.order < output.entry.order) ∧
        inSegment segment event = true ∧
        (log.outputOf? call = none ∨ (log.nestedEvent segment call).isSome = true))

theorem conflict_of_no_events (wrapped : call.namespaced = true) (tool : call.tool = "apply_patch")
    (answered : log.outputOf? call = some output) (alone : log.allEvents segment call = [])
    (failed : readers.verificationFailed (outputText output.entry.item) = true →
      log.patchEvents.any (fun event => decide (call.order < event.order) &&
        decide (event.order < output.entry.order)) = true) :
    (callResult readers segment log call).conflict = true := by
  have idle : log.pendingDirect segment call = false := by
    simp [Log.pendingDirect, wrapped]
  have valid : log.validEvents segment call = [] := by
    simp [Log.validEvents, tool, alone]
  have conflict : patchConflict readers segment log call output
      (pairedNamespacedExecResult readers "apply_patch" output.entry.item) = true := by
    unfold patchConflict
    rw [alone, valid]
    split
    · rename_i rejected
      rw [failed rejected.2.2.2, Bool.or_true]
    · rfl
  unfold callResult
  simp [idle, answered, wrapped, tool, conflict]

/-- An event with the id of a call that is clear later explains it then, and no other event does. -/
theorem explains_of_own (grown : Extends log later bound)
    (clear : later.isAmbiguous segment call = false) {rest : List PatchEvent}
    (own : log.eventsFor call.key = event :: rest) :
    Explains segment later call event ∧ rest = [] ∧ later.nestedEvent segment call = none := by
  obtain ⟨new, split, _⟩ := grown.events
  have front : later.eventsFor call.key = (event :: rest) ++ new.filter (·.key = call.key) := by
    rw [← own, Log.eventsFor, Log.eventsFor, split, filter_append]
  have explained : Explains segment later call event := by
    refine explains_of_clear clear (mem_append_left _ ?_)
    rw [front]
    exact mem_cons_self
  have whole := explained.only
  rw [Log.allEvents, front, cons_append, cons_append, cons.injEq, append_eq_nil_iff,
    append_eq_nil_iff, Option.toList_eq_nil_iff] at whole
  exact ⟨explained, whole.2.1.1, whole.2.2⟩

/-- A wrapped patch that has lost its nested event has no evidence, and the event still lies in its
interval. -/
theorem conflict_of_lost (grown : Extends log later bound) (wrapped : call.namespaced = true)
    (tool : call.tool = "apply_patch") (answer : later.outputOf? call = some output)
    (answered : log.outputOf? call = some output) (nested : log.nestedEvent segment call = some event)
    (alone : later.allEvents segment call = []) :
    (callResult readers segment later call).conflict = true := by
  refine conflict_of_no_events wrapped tool answer alone fun _ => ?_
  obtain ⟨new, split, _⟩ := grown.events
  obtain ⟨listed, after, before⟩ := candidate_between (nestedEvent_candidate nested)
  refine any_eq_true.mpr ⟨event, split ▸ mem_append_left _ listed, ?_⟩
  rw [decide_eq_true after, decide_eq_true (before output answered), Bool.and_true]

/-- A wrapped patch that is ambiguous, and not because it is open which event it has, stays so. -/
theorem wrapped_stays (grown : Extends log later bound) (called : call ∈ log.calls)
    (wrapped : WrappedPatch log call) (decided : ¬ Undecided segment log call)
    (ambiguous : (callReceipt readers segment log call).kind = .ambiguous) :
    (callReceipt readers segment later call).kind = .ambiguous := by
  by_contra settled
  obtain ⟨clear, agreed, _⟩ := clear_of_kind settled
  obtain ⟨namespaced, tool, once, few⟩ := wrapped
  cases answered : log.outputOf? call with
  | some output =>
    have ids := eventsFor_eq_of_extends grown answered clear
    have answer : later.outputOf? call = some output :=
      (congrArg head? (outputsFor_eq_of_extends grown answered (isAmbiguous_eq_false clear).2.1)).trans
        answered
    have changed : later.nestedEvent segment call ≠ log.nestedEvent segment call := by
      intro nested
      refine settled ((congrArg Receipt.kind ?_).trans ambiguous)
      refine callReceipt_eq_of_events grown answered clear ?_
      rw [Log.allEvents, Log.allEvents, ids, nested]
    have among {event : PatchEvent} (nested : later.nestedEvent segment call = some event) :
        event ∈ log.candidates segment call :=
      mem_candidates_of_extends grown called answered clear (nestedEvent_candidate nested)
    cases own : log.eventsFor call.key with
    | nil =>
      cases nested : log.nestedEvent segment call with
      | none =>
        have none : log.candidates segment call = [] := by
          by_contra contested
          exact decided ⟨⟨namespaced, tool, once, few⟩,
            .inl ⟨own, by rw [answered]; rfl, contested, nested⟩⟩
        cases nestedLater : later.nestedEvent segment call with
        | none => exact changed (nestedLater.trans nested.symm)
        | some event => exact absurd (none ▸ among nestedLater) not_mem_nil
      | some event =>
        have only := candidates_of_nestedEvent nested
        cases nestedLater : later.nestedEvent segment call with
        | some other =>
          obtain rfl := mem_singleton.mp (only ▸ among nestedLater)
          exact changed (nestedLater.trans nested.symm)
        | none =>
          have alone : later.allEvents segment call = [] := by
            rw [Log.allEvents, ids, own, nestedLater]
            rfl
          have conflict : (callResult readers segment later call).conflict = true :=
            conflict_of_lost grown namespaced tool answer answered nested alone
          rw [agreed] at conflict
          cases conflict
    | cons event rest =>
      obtain ⟨explained, rfl, nestedLater⟩ := explains_of_own grown clear own
      cases nested : log.nestedEvent segment call with
      | none => exact changed (nestedLater.trans nested.symm)
      | some other =>
        refine decided ⟨⟨namespaced, tool, once, few⟩, .inr ⟨event, own, explained.after, ?_,
          explained.segment, .inr (by rw [nested]; rfl)⟩⟩
        intro output' same
        rw [answered] at same
        exact explained.before output' (answer.trans same)
  | none =>
    cases own : log.eventsFor call.key with
    | nil =>
      have all : log.allEvents segment call = (log.nestedEvent segment call).toList := by
        rw [Log.allEvents, own, nil_append]
      have unclear : log.isAmbiguous segment call = false := by
        unfold Log.isAmbiguous Log.invalidEvent Log.validEvents Log.pendingNested
        rw [all, once, answered, tool, namespaced]
        cases log.nestedEvent segment call <;> simp [few]
      unfold callReceipt callResult at ambiguous
      simp [unclear, answered, Log.pendingDirect, namespaced] at ambiguous
    | cons event rest =>
      obtain ⟨explained, rfl, _⟩ := explains_of_own grown clear own
      exact decided ⟨⟨namespaced, tool, once, few⟩, .inr ⟨event, own, explained.after,
        (fun _ same => by rw [answered] at same; cases same), explained.segment, .inl answered⟩⟩

theorem unwrapped_stays (grown : Extends log later bound) (called : call ∈ log.calls)
    (other : ¬ WrappedPatch log call)
    (ambiguous : (callReceipt readers segment log call).kind = .ambiguous) :
    (callReceipt readers segment later call).kind = .ambiguous := by
  by_contra settled
  obtain ⟨clear, _, _⟩ := clear_of_kind settled
  obtain ⟨once, few, _, _⟩ := isAmbiguous_eq_false clear
  have count : log.callCount call.key ≤ later.callCount call.key := grown.calls.sublist.countP_le
  have here : 0 < log.callCount call.key := countP_pos_iff.mpr ⟨call, called, by simp⟩
  have fewBefore : (log.outputsFor call.key).length ≤ 1 :=
    (grown.outputs.filter _).length_le.trans few
  have alone : call.namespaced = false ∨ call.tool ≠ "apply_patch" := by
    by_contra wrapped
    rw [not_or, Bool.not_eq_false, not_not] at wrapped
    exact other ⟨wrapped.1, wrapped.2, by omega, fewBefore⟩
  cases answered : log.outputOf? call with
  | some output =>
    rw [callReceipt_eq_of_extends grown answered clear alone] at settled
    exact settled ambiguous
  | none =>
    have all : log.allEvents segment call = log.eventsFor call.key := by
      rw [Log.allEvents, nestedEvent_eq_none alone]
      exact append_nil _
    have joined {event : PatchEvent} (listed : event ∈ log.allEvents segment call) :
        Explains segment later call event := by
      refine explains_of_clear clear (mem_append_left _ ?_)
      obtain ⟨new, split, _⟩ := grown.events
      rw [all] at listed
      rw [Log.eventsFor, split, filter_append]
      exact mem_append_left _ listed
    have unanswered : log.validEvents segment call = [] := by
      simp [Log.validEvents, answered]
    have unclear : log.isAmbiguous segment call = true := by
      rw [← Bool.not_eq_false]
      intro clearBefore
      cases waiting : log.pendingDirect segment call <;>
        simp [callReceipt, clearBefore, callResult, answered, waiting] at ambiguous
    have invalid : log.invalidEvent segment call = true := by
      rw [Log.isAmbiguous, decide_eq_false (by omega), decide_eq_false (by omega), unanswered] at unclear
      simpa using unclear
    rw [Log.invalidEvent, Bool.and_eq_true, decide_eq_true_eq] at invalid
    obtain ⟨event, listed⟩ := exists_mem_of_ne_nil _ invalid.1
    have explained := joined listed
    have single : log.allEvents segment call = [event] := by
      refine eq_singleton_of_mem listed ?_
      have whole := congrArg length explained.only
      obtain ⟨new, split, _⟩ := grown.events
      rw [Log.allEvents, Log.eventsFor, split, filter_append, length_append, length_append,
        length_singleton] at whole
      rw [all, Log.eventsFor]
      omega
    have direct := alone.resolve_right (not_not.mpr explained.tool)
    have waiting : log.pendingDirect segment call = true := by
      simp [Log.pendingDirect, direct, explained.tool, answered, single, explained.after,
        explained.segment]
    simp [explained.tool, waiting] at invalid

/-- An ambiguous call stays ambiguous, unless it is a wrapped patch of which it is open which event it
has. -/
theorem ambiguous_stays (grown : Extends log later bound) (called : call ∈ log.calls)
    (decided : ¬ Undecided segment log call)
    (ambiguous : (callReceipt readers segment log call).kind = .ambiguous) :
    (callReceipt readers segment later call).kind = .ambiguous := by
  by_cases wrapped : WrappedPatch log call
  · exact wrapped_stays grown called wrapped decided ambiguous
  · exact unwrapped_stays grown called wrapped ambiguous

/-- Which verdicts stay when records are added to a log. -/
structure VerdictsStable (readers : Readers) (transport : Transport) (segment : Option String)
    (records more : List Json) : Prop where
  ambiguous : ∀ receipt ∈ normalizeActionReceipts readers transport segment records, ∀ call,
    receipt.source = .call call → receipt.kind = .ambiguous →
      ¬ Undecided segment (Log.of readers transport records) call →
        ∀ later ∈ normalizeActionReceipts readers transport segment (records ++ more),
          later.source = .call call → later.kind = .ambiguous
  settled : ∀ receipt ∈ normalizeActionReceipts readers transport segment records, ∀ call,
    receipt.source = .call call → receipt.kind = .pairedSuccess ∨ receipt.kind = .pairedFailure →
      ∀ later ∈ normalizeActionReceipts readers transport segment (records ++ more),
        later.source = .call call → later.kind = .ambiguous ∨
          later.kind = receipt.kind ∧ later.exitCode = receipt.exitCode

theorem verdicts_stable (short : Short records) :
    VerdictsStable readers transport segment records more where
  ambiguous receipt member call source kind decided later laterMember laterSource := by
    obtain ⟨called, resolves⟩ := resolves_of_source member source
    have grown : Extends _ (Log.of readers transport (records ++ more)) _ := extends_append short
    have stays := ambiguous_stays grown called decided
      ((resolves.eq_kind (kind ▸ (by decide))).trans kind)
    have resolvesLater := (resolves_of_source laterMember laterSource).2
    exact (resolvesLater.kind_eq (stays ▸ (by decide))).trans stays
  settled receipt member call source settled later laterMember laterSource := by
    obtain ⟨called, resolves⟩ := resolves_of_source member source
    have same := resolves.eq_kind (by rcases settled with same | same <;> rw [same] <;> decide)
    have resolvesLater := (resolves_of_source laterMember laterSource).2
    rcases settled_stays (extends_append short) (same ▸ settled) with ambiguous | ⟨kind, exitCode⟩
    · exact .inl ((resolvesLater.kind_eq (ambiguous ▸ (by decide))).trans ambiguous)
    · have kindLater := resolvesLater.kind_eq (by
        rw [kind, same]
        rcases settled with same | same <;> rw [same] <;> decide)
      exact .inr ⟨kindLater.trans (kind.trans same),
        resolvesLater.exitCode.trans (exitCode.trans resolves.exitCode.symm)⟩

/-- A patch that failed to be its own, and another patch that is made, reported and answered later. -/
theorem verdicts_stable_sample : VerdictsStable patchReaders .namespacedExec none patchRecords
    [wrappedPatch "c2", patchEnded "c2" "a.py", patchOutput "c2"] :=
  verdicts_stable (by unfold Short; decide +kernel)

/-- Two wrapped patches of one file, of which one has been answered, and one event for the two. -/
def contestedRecords : List Json :=
  [wrappedPatch "first", wrappedPatch "second", patchEnded "other" "a.py", patchOutput "first"]

/-- The place, the id and the kind of the first receipt, that of the first patch. -/
def firstVerdict (records : List Json) : Option (Nat × Option String × ResultKind) :=
  (normalizeActionReceipts patchReaders .namespacedExec none records)[0]?.map fun receipt =>
    (receipt.source.order, receipt.callId, receipt.kind)

/-- Logs, and what is added to them: the id of a competitor is repeated, the output of a patch with an event
of its own arrives, and another call takes the event that would fit as well. -/
def settledLogs : List (List Json × List Json) :=
  let answered := [wrappedPatch "first", patchEnded "first" "a.py", patchEnded "other" "a.py",
    patchOutput "first"]
  [(contestedRecords, [wrappedPatch "second"]), (answered.take 2, [patchOutput "first"]),
    (answered, [wrappedPatch "other"])]

/-- What is ambiguous can be settled later. -/
theorem ambiguity_settled :
    (settledLogs.map fun log => firstVerdict log.1) =
        List.replicate 3 (some (0, some "first", .ambiguous)) ∧
      (settledLogs.map fun log => firstVerdict (log.1 ++ log.2)) =
        List.replicate 3 (some (0, some "first", .pairedSuccess)) := by
  decide +kernel

end WorkOrchestration.Native.ActionReceipts
