import WorkOrchestration.Lib.Runs
import WorkOrchestration.Native.ActivationProtocol

/-!
# The audit file of an activation

`append` replaces the ledger first and then writes the new entry to the end of the
audit file.  Whatever fails in between, the ledger stays accepted and is never
behind its audit file; the audit file falls behind when the second write is cut
short, and nothing brings it level again.
-/

namespace WorkOrchestration.Native.ActivationLedger

open List Lib.Runs Artifacts

structure Files where
  ledger : Json
  audit : List UInt8

/-- What becomes of the line for the audit file: all of it is written and flushed, or something ends
the append after some of its bytes. -/
inductive AuditWrite where
  | done
  | cutOff (written : Nat) (error : PyError)

section

-- the bytes in which a document is written on one line
variable (render : Json → List UInt8)

def auditLine (entry : Json) : List UInt8 := render entry.canonical ++ [10]

/-- `append` with its audit file. -/
def appendAudited (world : World) (write : AuditWrite) (request : Request) (files : Files) :
    Except PyError Json × Files :=
  match prepare world request files.ledger with
  | .error error => (.error error, files)
  | .ok (entry, ledger) =>
    match world.replaced with
    | .failedBefore error => (.error error, files)
    | .failedAfter error => (.error error, ⟨ledger, files.audit⟩)
    | .done =>
      match write with
      | .done => (.ok entry, ⟨ledger, files.audit ++ auditLine render entry⟩)
      | .cutOff written error =>
        (.error error, ⟨ledger, files.audit ++ (auditLine render entry).take written⟩)

def Files.entries (files : Files) : List Json := ((files.ledger.value "entries").elements?).getD []

/-- The audit file has one line for each entry, in their order. -/
def Corresponds (files : Files) : Prop := files.audit = files.entries.flatMap (auditLine render)

/-- Something ends the append after the ledger has been replaced and before the whole line is written. -/
def CutShort (world : World) (write : AuditWrite) (request : Request) (files : Files) : Prop :=
  ∃ entry ledger, prepare world request files.ledger = .ok (entry, ledger) ∧
    ((∃ error, world.replaced = .failedAfter error) ∨
      world.replaced = .done ∧ ∃ written error, write = .cutOff written error ∧
        written < (auditLine render entry).length)

/-- What an append leaves: nothing new, or the new entry in the ledger and so much of its line. -/
inductive Appended (files : Files) : Except PyError Json × Files → Prop where
  | refused (error : PyError) : Appended files (.error error, files)
  | recorded (entry ledger : Json) (written : Nat) (result : Except PyError Json)
      (accepted : validateActivationLedger ledger = [])
      (extended : (ledger.value "entries").elements? = some (files.entries ++ [entry]))
      (whole : ∀ returned, result = .ok returned →
        returned = entry ∧ (auditLine render entry).length ≤ written) :
      Appended files (result, ⟨ledger, files.audit ++ (auditLine render entry).take written⟩)

end

variable {render : Json → List UInt8} {world : World} {write : AuditWrite} {request : Request}
  {files : Files}

theorem entries_prepared {entry ledger : Json}
    (prepared : prepare world request files.ledger = .ok (entry, ledger)) :
    validateActivationLedger ledger = [] ∧
      (ledger.value "entries").elements? = some (files.entries ++ [entry]) := by
  obtain ⟨accepted, entries, found, extended⟩ := prepare_ok prepared
  unfold Files.entries
  rw [found]
  exact ⟨accepted, extended⟩

theorem auditLine_length_pos (render : Json → List UInt8) (entry : Json) :
    0 < (auditLine render entry).length := by
  simp [auditLine]

theorem appendAudited_appended :
    Appended render files (appendAudited render world write request files) := by
  unfold appendAudited
  cases prepared : prepare world request files.ledger with
  | error error => exact .refused error
  | ok result =>
    obtain ⟨entry, ledger⟩ := result
    obtain ⟨accepted, extended⟩ := entries_prepared prepared
    cases world.replaced with
    | failedBefore error => exact .refused error
    | failedAfter error =>
      have nothing := @Appended.recorded render files entry ledger 0 (.error error) accepted
        extended (by intro _ same; cases same)
      simpa using nothing
    | done =>
      cases write with
      | done =>
        have whole := @Appended.recorded render files entry ledger
          (auditLine render entry).length (.ok entry) accepted extended
        simpa using whole
      | cutOff written error =>
        exact .recorded entry ledger written _ accepted extended (by intro _ same; cases same)

/-- The bytes that the ledger's entries take in the audit file. -/
def Files.due (render : Json → List UInt8) (files : Files) : Nat :=
  (files.entries.flatMap (auditLine render)).length

theorem entries_of_elements {ledger : Json} {audit : List UInt8} {entries : List Json}
    (listed : (ledger.value "entries").elements? = some entries) :
    (Files.mk ledger audit).entries = entries := by
  unfold Files.entries
  rw [listed]
  rfl

theorem due_extended {ledger : Json} {audit : List UInt8} {entry : Json}
    (extended : (ledger.value "entries").elements? = some (files.entries ++ [entry])) :
    (Files.mk ledger audit).due render = files.due render + (auditLine render entry).length := by
  unfold Files.due
  rw [entries_of_elements extended, flatMap_append, length_append, flatMap_singleton]

/-- The audit file never gets ahead of the ledger, and is never any less behind it than before. -/
structure Behind (render : Json → List UInt8) (files after : Files) : Prop where
  within : files.audit.length ≤ files.due render → after.audit.length ≤ after.due render
  lag : after.audit.length + files.due render ≤ files.audit.length + after.due render

theorem Behind.refl (files : Files) : Behind render files files := ⟨id, le_rfl⟩

theorem Behind.trans {first second third : Files} (before : Behind render first second)
    (later : Behind render second third) : Behind render first third where
  within := fun behind => later.within (before.within behind)
  lag := by
    have one := before.lag
    have two := later.lag
    omega

theorem appended_behind {outcome : Except PyError Json × Files}
    (appended : Appended render files outcome) : Behind render files outcome.2 := by
  cases appended with
  | refused error => exact Behind.refl files
  | recorded entry ledger written result accepted extended whole =>
    have due := @due_extended render files ledger (files.audit ++ (auditLine render entry).take written)
      entry extended
    have part := length_take_le' written (auditLine render entry)
    constructor
    · simp only [length_append]
      omega
    · rw [due]
      simp only [length_append]
      omega

theorem take_eq_self {α : Type} {items : List α} {count : Nat} :
    items.take count = items ↔ items.length ≤ count := by
  constructor
  · intro same
    have shorter := length_take_le count items
    rwa [same] at shorter
  · exact take_of_length_le

theorem length_of_corresponds (level : Corresponds render files) :
    files.audit.length = files.due render :=
  congrArg List.length level

/-- From corresponding files an append leaves corresponding files unless it is cut short. -/
theorem corresponds_appendAudited_iff (level : Corresponds render files) :
    Corresponds render (appendAudited render world write request files).2 ↔
      ¬ CutShort render world write request files := by
  unfold appendAudited CutShort
  cases prepared : prepare world request files.ledger with
  | error error =>
    refine iff_of_true level ?_
    rintro ⟨entry, ledger, same, _⟩
    cases same
  | ok result =>
    obtain ⟨entry, ledger⟩ := result
    obtain ⟨_, extended⟩ := entries_prepared prepared
    have entries (audit : List UInt8) : (Files.mk ledger audit).entries = files.entries ++ [entry] :=
      entries_of_elements extended
    have positive := auditLine_length_pos render entry
    have audits (audit : List UInt8) :
        Corresponds render ⟨ledger, audit⟩ ↔ audit = files.audit ++ auditLine render entry := by
      unfold Corresponds
      rw [entries, flatMap_append, ← level, flatMap_singleton]
    cases replaced : world.replaced with
    | failedBefore error =>
      refine iff_of_true level ?_
      rintro ⟨_, _, _, ⟨_, same⟩ | ⟨same, _⟩⟩ <;> cases same
    | failedAfter error =>
      refine iff_of_false ?_ ?_
      · rw [audits]
        intro same
        have lengths := congrArg List.length same
        rw [length_append] at lengths
        omega
      · exact not_not_intro ⟨entry, ledger, rfl, .inl ⟨error, rfl⟩⟩
    | done =>
      cases write with
      | done =>
        refine iff_of_true ((audits _).mpr rfl) ?_
        rintro ⟨_, _, _, ⟨_, same⟩ | ⟨_, _, _, same, _⟩⟩ <;> cases same
      | cutOff written error =>
        rw [audits, append_cancel_left_eq, take_eq_self]
        constructor
        · rintro enough ⟨_, _, same, ⟨_, failed⟩ | ⟨_, _, _, cut, short⟩⟩
          · cases failed
          · cases same
            cases cut
            omega
        · intro whole
          by_contra short
          exact whole ⟨entry, ledger, rfl, .inr ⟨rfl, written, error, rfl, not_le.mp short⟩⟩

structure AuditedAppend where
  before : Files
  world : World
  write : AuditWrite
  request : Request

namespace AuditedAppend

/-- What the append returned or raised. -/
def result (render : Json → List UInt8) (step : AuditedAppend) : Except PyError Json :=
  (appendAudited render step.world step.write step.request step.before).1

def after (render : Json → List UInt8) (step : AuditedAppend) : Files :=
  (appendAudited render step.world step.write step.request step.before).2

end AuditedAppend

/-- What holds of an append however it ended. -/
structure LedgerFirst (render : Json → List UInt8) (step : AuditedAppend) : Prop where
  accepted : validateActivationLedger (step.after render).ledger = []
  outcome : step.after render = step.before ∨
    ∃ entry written, (step.after render).entries = step.before.entries ++ [entry] ∧
      (step.after render).audit = step.before.audit ++ (auditLine render entry).take written
  returned : ∀ entry, step.result render = .ok entry →
    (step.after render).entries = step.before.entries ++ [entry] ∧
      (step.after render).audit = step.before.audit ++ auditLine render entry
  never : Behind render step.before (step.after render)

theorem ledgerFirst_of_accepted {step : AuditedAppend}
    (accepted : validateActivationLedger step.before.ledger = []) : LedgerFirst render step := by
  have appended := @appendAudited_appended render step.world step.write step.request step.before
  have behind := appended_behind appended
  cases outcome : appendAudited render step.world step.write step.request step.before with
  | mk ended after =>
    have reached : step.after render = after := congrArg Prod.snd outcome
    have result : step.result render = ended := congrArg Prod.fst outcome
    rw [outcome] at appended behind
    cases appended with
    | refused error =>
      refine ⟨by rw [reached]; exact accepted, .inl reached, ?_, by rw [reached]; exact behind⟩
      intro entry returned
      rw [result] at returned
      cases returned
    | recorded entry ledger written result' valid extended whole =>
      have entries : (step.after render).entries = step.before.entries ++ [entry] := by
        rw [reached]
        exact entries_of_elements extended
      have audit : (step.after render).audit =
          step.before.audit ++ (auditLine render entry).take written := by rw [reached]
      refine ⟨by rw [reached]; exact valid, .inr ⟨entry, written, entries, audit⟩, ?_,
        by rw [reached]; exact behind⟩
      intro other returned
      obtain ⟨rfl, enough⟩ := whole other (result.symm.trans returned)
      rw [take_eq_self.mpr enough] at audit
      exact ⟨entries, audit⟩

/--
In every run of appends, whatever writes fail and wherever, each append leaves the
files alone or records its entry in the ledger and the beginning of its line in the
audit file, all of it if it returns; the ledger is accepted throughout; and the
files correspond in every state exactly if no append is cut short between its two
writes, for a line that is missing is never made up for.
-/
theorem activation_appends_ledger_first (render : Json → List UInt8) {start : Files}
    (accepted : validateActivationLedger start.ledger = []) (level : Corresponds render start)
    {steps : List AuditedAppend}
    (linked : Linked AuditedAppend.before (AuditedAppend.after render) start steps) :
    (∀ step ∈ steps, LedgerFirst render step) ∧
      ((∀ step ∈ steps, Corresponds render (step.after render)) ↔
        ∀ step ∈ steps, ¬ CutShort render step.world step.write step.request step.before) ∧
      steps.Pairwise fun earlier later =>
        (earlier.after render).audit.length < (earlier.after render).due render →
          ¬ Corresponds render (later.after render) := by
  have first : ∀ step ∈ steps, LedgerFirst render step := by
    intro step member
    have valid := @Linked.invariant Files AuditedAppend _ _ _ _
      (fun files => validateActivationLedger files.ledger = []) linked
      (fun step _ before => (ledgerFirst_of_accepted before).accepted) accepted step member
    exact ledgerFirst_of_accepted valid.1
  refine ⟨first, ?_, ?_⟩
  · exact linked.forall_iff (fun step _ level => corresponds_appendAudited_iff level) level
  · have onward := linked.pairwise Behind.refl Behind.trans
      fun step member => (first step member).never
    refine onward.imp_of_mem fun {earlier later} _ member behind short level => ?_
    have lag := (behind.trans (first later member).never).lag
    have equal := length_of_corresponds level
    omega

/-- The ledger `create` writes before its first entry. -/
def newLedger : Json :=
  let unsigned := Json.obj [("ledger_type", .str "cwo-native-tool-activation-ledger"),
    ("version", .int 1), ("schema", .str "schemas/native-tool-activation-ledger.schema.json"),
    ("ledger_id", sampleUuid), ("profile", .str "n1-read-only"),
    ("plan_sha256", .sha256 .null), ("claim_sha256", .sha256 .null),
    ("action_sha256", .sha256 .null), ("campaign_nonce", sampleUuid),
    ("expected_roles", Json.strings Profile.n1ReadOnly.roles),
    ("created_at", .str "2026-07-27T12:00:00.000Z"), ("entries", .arrEnd),
    ("head_entry_sha256", .null)]
  unsigned.set "ledger_sha256" (canonicalSha256 unsigned.canonical).json

def newFiles : Files := ⟨newLedger, []⟩

def sampleRender (document : Json) : List UInt8 := document.encode.map fun character =>
  character.toNat.toUInt8

/-- The claim is recorded on a device full once the ledger has been replaced. -/
def claimOnFullDevice : AuditedAppend where
  before := newFiles
  world :=
    { lock := .ok ()
      read := .ok ()
      now := "2026-07-27T12:00:00.000Z"
      freshUuid := "00000000-0000-4000-8000-000000000002"
      replaced := .done
      audited := .ok () }
  write := .cutOff 0 ⟨.os, "OSError", "No space left on device"⟩
  request := ⟨"claim-acquired", .null, .null, .null, .objEnd, .null⟩

theorem newLedger_accepted : validateActivationLedger newFiles.ledger = [] := by decide +kernel

theorem entry_without_line :
    validateActivationLedger newFiles.ledger = [] ∧ Corresponds sampleRender newFiles ∧
      (claimOnFullDevice.after sampleRender).entries.length = 1 ∧
      (claimOnFullDevice.after sampleRender).audit = [] ∧
      ¬ Corresponds sampleRender (claimOnFullDevice.after sampleRender) := by
  have one : (claimOnFullDevice.after sampleRender).entries.length = 1 := by decide +kernel
  have silent : (claimOnFullDevice.after sampleRender).audit = [] := by decide +kernel
  refine ⟨newLedger_accepted, rfl, one, silent, fun level => ?_⟩
  obtain ⟨entry, only⟩ := length_eq_one_iff.mp one
  have lengths := length_of_corresponds level
  rw [silent, Files.due, only, flatMap_singleton] at lengths
  have positive := auditLine_length_pos sampleRender entry
  rw [← lengths] at positive
  exact absurd positive (Nat.lt_irrefl _)

theorem activation_appends_ledger_first_sample :
    LedgerFirst sampleRender claimOnFullDevice := by
  have linked : Linked AuditedAppend.before (AuditedAppend.after sampleRender) newFiles
      [claimOnFullDevice] := ⟨rfl, True.intro⟩
  exact (activation_appends_ledger_first sampleRender newLedger_accepted rfl linked).1
    claimOnFullDevice (mem_singleton_self _)

/-- What the file holds stays in front, and the whole follows the protocol of its profile. -/
def Continues (file after : Json) : Prop :=
  ∃ (profile : Profile) (entries later : List Json),
    Profile.ofJson? (after.value "profile") = some profile ∧
    (file.value "entries").elements? = some entries ∧
    (after.value "entries").elements? = some later ∧ entries <+: later ∧
    FollowsProtocol profile.workers later

/-- No call and no failure takes a ledger out of its protocol. -/
theorem ledger_continues {file : Json} (accepted : validateActivationLedger file = [])
    (calls : List (Method × World)) : Continues file (callAll file calls) := by
  obtain ⟨_, entries, _, _, found, _⟩ := replayed_of_accepted accepted
  obtain ⟨valid, grows⟩ := callAll_extends accepted calls
  obtain ⟨profile, later, _, known, read, replayed⟩ := replayed_of_accepted valid
  obtain ⟨_, same, isFront⟩ := grows entries found
  cases same.symm.trans read
  exact ⟨profile, entries, _, known, found, same, isFront, followsProtocol_of_replay replayed⟩

/-- A claim whose audit fails, an entry out of turn, and the intent to consume the approval. -/
def sampleCalls : List (Method × World) :=
  [(.append claimOnFullDevice.request,
      { claimOnFullDevice.world with audited := .error ⟨.os, "OSError", "No space left on device"⟩ }),
    (.allocationIntent (.str "calibration"), claimOnFullDevice.world),
    (.append ⟨"approval-consume-intent", .null, .null, .null, .objEnd, .null⟩, claimOnFullDevice.world)]

theorem ledger_continues_claim : Continues newLedger (callAll newLedger sampleCalls) ∧
    (((callAll newLedger sampleCalls).value "entries").elements?.map length) = some 2 :=
  ⟨ledger_continues newLedger_accepted _, by decide +kernel⟩

end WorkOrchestration.Native.ActivationLedger
