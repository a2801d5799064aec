import WorkOrchestration.Native.ClaimAdapters

/-!
# What the adapters report

The validators of the receipts, what a claim and a close change of an issue, and that the
adapters report exactly these changes, whatever becomes of their commands.
-/

namespace WorkOrchestration.Native.ClaimAdapters

open List Lib.Results Lib.Text Artifacts
open Artifacts.Json (isOneOf hashable)
open OperatorApprovals (sortedTexts sortedTexts_eq_nil)
open ProtectedChanges (Decoded isSha256 nonemptyText startsWith)
open ValueEquality
open Bool (and_eq_true or_eq_true)

/-! ## Validators -/

def claimFields : List String :=
  ["bead_id", "actor", "outcome", "pre_show_sha256", "post_show_sha256", "command_sha256",
    "command_returncode", "command_timed_out", "owned", "claim_sha256"]

def closeFields : List String :=
  ["bead_id", "actor", "outcome", "reason_sha256", "pre_show_sha256", "post_show_sha256",
    "command_sha256", "command_returncode", "command_timed_out", "closed", "close_sha256"]

def claimOutcomes : List String :=
  ["claimed", "claimed-after-timeout", "claimed-after-command-error", "claim-lost",
    "claim-show-failed", "preowned-replay"]

def closeOutcomes : List String :=
  ["closed", "closed-after-timeout", "closed-after-command-error", "close-lost",
    "close-show-failed", "preclosed-replay"]

/-- `type(value) is bool`. -/
def isFlag : Json → Bool
  | .bool _ => true
  | _ => false

variable (value : Json)

/-- `value is None or _sha256(value)`. -/
def isOptionalSha256 : Bool := value == .null || isSha256 value

/-- `value.startswith(front)` for a text. -/
def textStartsWith (front : String) : Json → Bool
  | .str text => startsWith text front
  | _ => false

/-- The errors of a validator, which catches `NativePoolAdmissionError`. -/
def errorsOf (outcome : Except PyError Unit) : Except PyError (List String) :=
  match outcome with
  | .ok _ => .ok []
  | .error error => if isAdmissionError error then .ok [error.message] else .error error

/-- The rules of `validate_claim_receipt`. -/
def checkClaimReceipt : Except PyError Unit := do
  let receipt ← strict claimFields "claim" value
  insist (nonemptyText (receipt.value "bead_id") && nonemptyText (receipt.value "actor"))
    "claim-identity-invalid"
  hashable (receipt.value "outcome")
  insist (isOneOf claimOutcomes (receipt.value "outcome")) "claim-outcome-invalid"
  insist (isSha256 (receipt.value "pre_show_sha256")) "claim-pre-show-sha256-invalid"
  insist (isOptionalSha256 (receipt.value "post_show_sha256")) "claim-post-show-sha256-invalid"
  insist (isOptionalSha256 (receipt.value "command_sha256")) "claim-command-sha256-invalid"
  insist (isFlag (receipt.value "command_timed_out") && isFlag (receipt.value "owned"))
    "claim-state-invalid"
  insist (receipt.value "owned" == .bool (textStartsWith "claimed" (receipt.value "outcome")))
    "claim-owned-outcome-mismatch"
  insist (receipt.value "owned" != .bool true || receipt.value "post_show_sha256" != .null)
    "claim-owned-post-show-sha256-missing"
  insist (← sealHolds receipt "claim_sha256") "claim-sha256-mismatch"

def validateClaimReceipt : Except PyError (List String) := errorsOf (checkClaimReceipt value)

/-- `isinstance(value, int) and not isinstance(value, bool)`. -/
def isInteger : Json → Bool
  | .int _ => true
  | _ => false

/-- The rule about the command of one outcome. -/
def checkCommand (receipt : Json) (outcome : String) (returncodeFits : Bool) (timedOut : Bool)
    (message : String) : Except PyError Unit :=
  insist (receipt.value "outcome" != .str outcome ||
    (receipt.value "command_sha256" != .null && returncodeFits &&
      receipt.value "command_timed_out" == .bool timedOut)) message

/-- The rules of `validate_close_receipt`. -/
def checkCloseReceipt : Except PyError Unit := do
  let receipt ← strict closeFields "close" value
  let command := receipt.value "command_sha256"
  let returncode := receipt.value "command_returncode"
  insist (nonemptyText (receipt.value "bead_id") && nonemptyText (receipt.value "actor"))
    "close-identity-invalid"
  hashable (receipt.value "outcome")
  insist (isOneOf closeOutcomes (receipt.value "outcome") && isSha256 (receipt.value "reason_sha256") &&
    isSha256 (receipt.value "pre_show_sha256")) "close-identity-invalid"
  insist (isOptionalSha256 (receipt.value "post_show_sha256")) "close-post-show-sha256-invalid"
  insist (isOptionalSha256 command) "close-command-sha256-invalid"
  insist (isFlag (receipt.value "command_timed_out") && isFlag (receipt.value "closed"))
    "close-state-invalid"
  insist (returncode == .null || isInteger returncode) "close-command-returncode-invalid"
  insist (command != .null || (returncode == .null && receipt.value "command_timed_out" == .bool false))
    "close-command-evidence-inconsistent"
  insist (receipt.value "outcome" != .str "preclosed-replay" || command == .null)
    "close-preclosed-command-forbidden"
  checkCommand receipt "closed" (returncode == .int 0) false "close-success-command-evidence-invalid"
  checkCommand receipt "closed-after-timeout" (returncode == .null) true
    "close-timeout-command-evidence-invalid"
  checkCommand receipt "closed-after-command-error" (returncode != .null && returncode != .int 0) false
    "close-error-command-evidence-invalid"
  insist (receipt.value "closed" == .bool (textStartsWith "closed" (receipt.value "outcome")))
    "close-outcome-state-mismatch"
  insist (receipt.value "closed" != .bool true || receipt.value "post_show_sha256" != .null)
    "close-post-show-sha256-missing"
  insist (← sealHolds receipt "close_sha256") "close-sha256-mismatch"

def validateCloseReceipt : Except PyError (List String) := errorsOf (checkCloseReceipt value)

/-! ## Exact changes -/

/-- There is no lease on either side and the revision stays, or a running lease has appeared
with a new revision. -/
inductive ClaimLease (now : Nat) (pre post : Json) : Prop
  | absent (before : noLease pre = true) (after : noLease post = true)
      (revision : equal (pre.value "revision") (post.value "revision") = true)
  | created (before : noLease pre = true) (runs : leaseRuns now post = true)
      (revision : newRevision pre post = true)

/-- There is no lease on either side and the revision stays, or a running lease has been cleared
with a new revision. -/
inductive CloseLease (now : Nat) (pre post : Json) : Prop
  | absent (before : noLease pre = true) (after : noLease post = true)
      (revision : equal (pre.value "revision") (post.value "revision") = true)
  | cleared (runs : leaseRuns now pre = true) (after : noLease post = true)
      (revision : newRevision pre post = true)

/-- What a claim by the actor changes of an issue. -/
structure ClaimDelta (now : Nat) (actor : Name) (pre post : Json) : Prop where
  wasOpen : pre.value "status" = .str "open"
  unassigned : isBlank (pre.value "assignee") = true
  inProgress : post.value "status" = .str "in_progress"
  assigned : post.value "assignee" = .str actor.text
  started : isBlank (pre.value "started_at") = true ∧ nonemptyText (post.value "started_at") = true ∨
    nonemptyText (pre.value "started_at") = true ∧
      equal (post.value "started_at") (pre.value "started_at") = true
  lease : ClaimLease now pre post
  others : ∀ key ∉ claimMutableFields, SameField (pre.get? key) (post.get? key)

/-- What a close by the actor changes of an issue that it owns. -/
structure CloseDelta (now : Nat) (actor : Name) (reason : String) (pre post : Json) : Prop where
  inProgress : pre.value "status" = .str "in_progress"
  owned : pre.value "assignee" = .str actor.text
  notClosed : isBlank (pre.value "closed_at") = true
  noReason : isBlank (pre.value "close_reason") = true
  closed : post.value "status" = .str "closed"
  kept : post.value "assignee" = .str actor.text
  started : equal (post.value "started_at") (pre.value "started_at") = true
  closedAt : nonemptyText (post.value "closed_at") = true
  reasoned : post.value "close_reason" = .str reason
  lease : CloseLease now pre post
  others : ∀ key ∉ closeMutableFields, SameField (pre.get? key) (post.get? key)

theorem not_noLease_of_runs {now : Nat} {issue : Json} (runs : leaseRuns now issue = true) :
    noLease issue = false := by
  unfold leaseRuns at runs
  unfold noLease isBlank
  cases field : issue.value "heartbeat_at" with
  | str text =>
    by_cases empty : text = ""
    · rw [field, empty] at runs
      cases runs
    · simp [empty]
  | _ =>
    rw [field] at runs
    first | rfl | cases runs

theorem exactClaimLeaseDelta_iff {now : Nat} {pre post : Json} :
    exactClaimLeaseDelta now pre post = true ↔ ClaimLease now pre post := by
  unfold exactClaimLeaseDelta
  constructor
  · intro exact
    split at exact
    · rename_i none
      rw [and_eq_true] at none
      exact .absent none.1 none.2 exact
    · rw [and_eq_true, and_eq_true] at exact
      exact .created exact.1.1 exact.1.2 exact.2
  · rintro (⟨before, after, revision⟩ | ⟨before, runs, revision⟩)
    · rw [before, after]
      exact revision
    · rw [before, not_noLease_of_runs runs, runs, revision]
      rfl

theorem exactCloseLeaseDelta_iff {now : Nat} {pre post : Json} :
    exactCloseLeaseDelta now pre post = true ↔ CloseLease now pre post := by
  unfold exactCloseLeaseDelta
  constructor
  · intro exact
    split at exact
    · rename_i none
      rw [and_eq_true] at none
      exact .absent none.1 none.2 exact
    · rw [and_eq_true, and_eq_true] at exact
      exact .cleared exact.1.1 exact.1.2 exact.2
  · rintro (⟨before, after, revision⟩ | ⟨runs, after, revision⟩)
    · rw [before, after]
      exact revision
    · rw [after, not_noLease_of_runs runs, runs, revision]
      rfl

section

variable {now : Nat} {actor : Name} {pre post : Json}

theorem isExactClaimTransition_iff (decoded : Decoded pre) (otherDecoded : Decoded post)
    (object : pre.isObject = true) (otherObject : post.isObject = true) :
    isExactClaimTransition now actor pre post = true ↔ ClaimDelta now actor pre post := by
  unfold isExactClaimTransition
  simp only [and_eq_true, or_eq_true, beq_iff_eq, exactClaimLeaseDelta_iff,
    equal_without decoded otherDecoded object otherObject]
  constructor
  · rintro ⟨⟨⟨⟨⟨⟨wasOpen, unassigned⟩, inProgress⟩, assigned⟩, started⟩, lease⟩, others⟩
    exact ⟨wasOpen, unassigned, inProgress, assigned, started, lease, others⟩
  · rintro ⟨wasOpen, unassigned, inProgress, assigned, started, lease, others⟩
    exact ⟨⟨⟨⟨⟨⟨wasOpen, unassigned⟩, inProgress⟩, assigned⟩, started⟩, lease⟩, others⟩

theorem isExactCloseTransition_iff {reason : String} (decoded : Decoded pre)
    (otherDecoded : Decoded post) (object : pre.isObject = true) (otherObject : post.isObject = true) :
    isExactCloseTransition now actor reason pre post = true ↔ CloseDelta now actor reason pre post := by
  unfold isExactCloseTransition
  simp only [and_eq_true, beq_iff_eq, exactCloseLeaseDelta_iff,
    equal_without decoded otherDecoded object otherObject]
  constructor
  · rintro ⟨⟨⟨⟨⟨⟨⟨⟨⟨⟨inProgress, owned⟩, notClosed⟩, noReason⟩, closed⟩, kept⟩, started⟩, closedAt⟩,
      reasoned⟩, lease⟩, others⟩
    exact ⟨inProgress, owned, notClosed, noReason, closed, kept, started, closedAt, reasoned, lease,
      others⟩
  · rintro ⟨inProgress, owned, notClosed, noReason, closed, kept, started, closedAt, reasoned, lease,
      others⟩
    exact ⟨⟨⟨⟨⟨⟨⟨⟨⟨⟨inProgress, owned⟩, notClosed⟩, noReason⟩, closed⟩, kept⟩, started⟩, closedAt⟩,
      reasoned⟩, lease⟩, others⟩

end

/-! ## Sealed receipts -/

theorem insist_eq_ok {condition : Bool} {message : String} {done : Unit} :
    insist condition message = .ok done ↔ condition = true :=
  ite_eq_ok

variable {value digest : Json}

theorem canonicalAdmissionSha256_eq_ok :
    canonicalAdmissionSha256 value = .ok digest ↔
      value.encodable = true ∧ digest = .sha256 value.canonical := by
  unfold canonicalAdmissionSha256
  split
  · rename_i encodable
    simp [encodable, eq_comm]
  · rename_i encodable
    simp [encodable]

theorem strict_of_hasExactly {fields : List String} {label : String} {value : Json}
    (exact : value.hasExactly fields = true) : strict fields label value = .ok value := by
  unfold Json.hasExactly at exact
  rw [and_eq_true, and_eq_true, all_eq_true, all_eq_true] at exact
  obtain ⟨⟨object, known⟩, present⟩ := exact
  have noMissing : fields.filter (fun key => !value.keys.contains key) = [] := by
    refine filter_eq_nil_iff.mpr fun key member => ?_
    rw [present key member]
    decide
  have noUnknown : value.keys.filter (fun key => !fields.contains key) = [] := by
    refine filter_eq_nil_iff.mpr fun key member => ?_
    rw [known key member]
    decide
  have sorted : sortedTexts [] = [] := sortedTexts_eq_nil.mpr rfl
  unfold strict
  rw [noMissing, noUnknown, sorted, object]
  rfl

theorem sealReceipt_eq_ok {value receipt : Json} {field : String} :
    sealReceipt value field = .ok receipt ↔ (value.erase field).encodable = true ∧
      receipt = (value.erase field).set field (.sha256 (value.erase field).canonical) := by
  unfold sealReceipt
  rw [bind_eq_ok]
  constructor
  · rintro ⟨digest, hashed, sealed⟩
    obtain ⟨encodable, rfl⟩ := canonicalAdmissionSha256_eq_ok.mp hashed
    exact ⟨encodable, (pure_eq_ok.mp sealed).symm⟩
  · rintro ⟨encodable, rfl⟩
    exact ⟨_, canonicalAdmissionSha256_eq_ok.mpr ⟨encodable, rfl⟩, rfl⟩

theorem sealHolds_set {value : Json} {field : String} (dictionary : value.isDict = true)
    (fresh : value.erase field = value) (encodable : value.encodable = true) :
    sealHolds (value.set field (.sha256 value.canonical)) field = .ok true := by
  have hashed : canonicalAdmissionSha256 value = .ok (.sha256 value.canonical) :=
    canonicalAdmissionSha256_eq_ok.mpr ⟨encodable, rfl⟩
  unfold sealHolds
  rw [Json.value_set_same, Json.erase_set dictionary, fresh, hashed]
  exact congrArg Except.ok (beq_self_eq_true _)

/-- What is known of the evidence of a command that may have been run. -/
structure Witnessed (command : CommandEvidence) (result : Option BdCommandResult) : Prop where
  sha256 : isOptionalSha256 command.sha256 = true
  ran : result.isSome = true → command.sha256 ≠ .null
  absent : result = none → command.sha256 = .null ∧ command.returncode = .null ∧ command.timedOut = false
  returncode : ∀ given, result = some given → command.returncode = .optional .int given.returncode
  timedOut : ∀ given, result = some given → command.timedOut = given.timedOut

variable {command : CommandEvidence}

theorem witnessed {result : Option BdCommandResult}
    (evidence : commandEvidence result = .ok command) : Witnessed command result := by
  cases result with
  | none =>
    cases evidence
    exact ⟨rfl, fun some => (by cases some), fun _ => ⟨rfl, rfl, rfl⟩, fun _ other => (by cases other),
      fun _ other => (by cases other)⟩
  | some given =>
    obtain ⟨digest, hashed, done⟩ := bind_eq_ok.mp evidence
    obtain ⟨-, rfl⟩ := canonicalAdmissionSha256_eq_ok.mp hashed
    rw [← pure_eq_ok.mp done]
    refine ⟨rfl, fun _ null => (by cases null), fun none => (by cases none), ?_, ?_⟩
    · rintro _ ⟨rfl⟩
      rfl
    · rintro _ ⟨rfl⟩
      rfl

structure ClaimReads (receipt : Json) (beadId : String) (actor : Name) (outcome : ClaimOutcome)
    (preShow postShow : Json) (command : CommandEvidence) (owned : Bool) : Prop where
  fields : receipt.hasExactly claimFields = true
  sealed : sealHolds receipt "claim_sha256" = .ok true
  beadId : receipt.value "bead_id" = .str beadId
  actor : receipt.value "actor" = .str actor.text
  outcome : receipt.value "outcome" = .str outcome.text
  preShow : receipt.value "pre_show_sha256" = preShow
  postShow : receipt.value "post_show_sha256" = postShow
  sha256 : receipt.value "command_sha256" = command.sha256
  timedOut : receipt.value "command_timed_out" = .bool command.timedOut
  owned : receipt.value "owned" = .bool owned

structure CloseReads (receipt : Json) (beadId : String) (actor : Name) (outcome : CloseOutcome)
    (reason : String) (preShow postShow : Json) (command : CommandEvidence) (closed : Bool) : Prop where
  fields : receipt.hasExactly closeFields = true
  sealed : sealHolds receipt "close_sha256" = .ok true
  beadId : receipt.value "bead_id" = .str beadId
  actor : receipt.value "actor" = .str actor.text
  outcome : receipt.value "outcome" = .str outcome.text
  reason : receipt.value "reason_sha256" = (textSha256 reason).json
  preShow : receipt.value "pre_show_sha256" = preShow
  postShow : receipt.value "post_show_sha256" = postShow
  sha256 : receipt.value "command_sha256" = command.sha256
  returncode : receipt.value "command_returncode" = command.returncode
  timedOut : receipt.value "command_timed_out" = .bool command.timedOut
  closed : receipt.value "closed" = .bool closed

section

variable {beadId : String} {actor : Name} {preShow postShow receipt : Json}
  {result : Option BdCommandResult}

theorem claimReceipt_reads {outcome : ClaimOutcome} {owned : Bool}
    (built : claimReceipt beadId actor outcome preShow postShow result owned = .ok receipt) :
    ∃ command, Witnessed command result ∧
      ClaimReads receipt beadId actor outcome preShow postShow command owned := by
  obtain ⟨command, evidence, sealed⟩ := bind_eq_ok.mp built
  obtain ⟨encodable, rfl⟩ := sealReceipt_eq_ok.mp sealed
  exact ⟨command, witnessed evidence, rfl, sealHolds_set rfl rfl encodable, rfl, rfl, rfl, rfl, rfl,
    rfl, rfl, rfl⟩

theorem closeReceipt_reads {outcome : CloseOutcome} {reason : String} {closed : Bool}
    (built : closeReceipt beadId actor outcome reason preShow postShow result closed = .ok receipt) :
    ∃ command, Witnessed command result ∧
      CloseReads receipt beadId actor outcome reason preShow postShow command closed := by
  obtain ⟨command, evidence, sealed⟩ := bind_eq_ok.mp built
  obtain ⟨encodable, rfl⟩ := sealReceipt_eq_ok.mp sealed
  exact ⟨command, witnessed evidence, rfl, sealHolds_set rfl rfl encodable, rfl, rfl, rfl, rfl, rfl,
    rfl, rfl, rfl, rfl, rfl⟩

theorem nonemptyText_str {text : String} (visible : Nonempty text) :
    nonemptyText (.str text) = true :=
  decide_eq_true visible

variable {command : CommandEvidence}

/-- A claim receipt of which the outcome says whether the issue is owned passes its validator. -/
theorem ClaimReads.valid {outcome : ClaimOutcome} {owned : Bool}
    (reads : ClaimReads receipt beadId actor outcome preShow postShow command owned)
    (evidence : Witnessed command result) (named : Nonempty beadId) (pre : isSha256 preShow = true)
    (post : isOptionalSha256 postShow = true) (fits : owned = startsWith outcome.text "claimed")
    (shown : owned = true → postShow ≠ .null) : validateClaimReceipt receipt = .ok [] := by
  have listed : isOneOf claimOutcomes (.str outcome.text) = true := by cases outcome <;> rfl
  have prefixed : textStartsWith "claimed" (.str outcome.text) = owned := fits.symm
  have effect : (Json.bool owned != .bool true || postShow != .null) = true := by
    cases owned with
    | false => rfl
    | true => rw [bne_iff_ne.mpr (shown rfl), Bool.or_true]
  unfold validateClaimReceipt checkClaimReceipt
  rw [strict_of_hasExactly reads.fields, ok_bind, reads.beadId, reads.actor, reads.outcome, reads.preShow,
    reads.postShow, reads.sha256, reads.timedOut, reads.owned, nonemptyText_str named,
    nonemptyText_str actor.visible, listed, pre, post, evidence.sha256, prefixed, effect, reads.sealed,
    beq_self_eq_true]
  rfl

def CloseEvidence (outcome : CloseOutcome) (result : Option BdCommandResult) : Prop :=
  match outcome with
  | .closed => ∃ given, result = some given ∧ given.returncode = some 0 ∧ given.timedOut = false
  | .closedAfterTimeout => ∃ given, result = some given ∧ given.returncode = none ∧ given.timedOut = true
  | .closedAfterCommandError => ∃ given code, result = some given ∧ given.returncode = some code ∧
      code ≠ 0 ∧ given.timedOut = false
  | .preclosedReplay => result = none
  | _ => True

theorem Witnessed.ran_ne {given : BdCommandResult} (evidence : Witnessed command (some given)) :
    (command.sha256 != .null) = true :=
  bne_iff_ne.mpr (evidence.ran rfl)

theorem Witnessed.returncode_fits (evidence : Witnessed command result) :
    (command.returncode == .null || isInteger command.returncode) = true := by
  cases result with
  | none =>
    rw [(evidence.absent rfl).2.1]
    rfl
  | some given =>
    rw [evidence.returncode given rfl]
    cases given.returncode <;> rfl

theorem Witnessed.consistent (evidence : Witnessed command result) : (command.sha256 != .null ||
      (command.returncode == .null && Json.bool command.timedOut == .bool false)) = true := by
  cases result with
  | none =>
    obtain ⟨sha256, returncode, timedOut⟩ := evidence.absent rfl
    rw [sha256, returncode, timedOut]
    rfl
  | some given => rw [evidence.ran_ne, Bool.true_or]

variable {outcome : CloseOutcome} {reason : String} {command : CommandEvidence} {closed : Bool}

variable (reads : CloseReads receipt beadId actor outcome reason preShow postShow command closed) (evidence : Witnessed command result)

include reads evidence

section

variable (fits : CloseEvidence outcome result)

include fits

theorem CloseReads.command_closed (message : String) :
    checkCommand receipt "closed" (command.returncode == .int 0) false message = .ok () := by
  unfold checkCommand
  rw [reads.outcome, reads.sha256, reads.timedOut]
  cases outcome with
  | closed =>
    obtain ⟨given, rfl, code, quiet⟩ := fits
    rw [evidence.returncode given rfl, evidence.timedOut given rfl, code, quiet, evidence.ran_ne]
    rfl
  | _ => rfl

theorem CloseReads.command_afterTimeout (message : String) :
    checkCommand receipt "closed-after-timeout" (command.returncode == .null) true message = .ok () := by
  unfold checkCommand
  rw [reads.outcome, reads.sha256, reads.timedOut]
  cases outcome with
  | closedAfterTimeout =>
    obtain ⟨given, rfl, code, late⟩ := fits
    rw [evidence.returncode given rfl, evidence.timedOut given rfl, code, late, evidence.ran_ne]
    rfl
  | _ => rfl

theorem CloseReads.command_afterError (message : String) :
    checkCommand receipt "closed-after-command-error"
      (command.returncode != .null && command.returncode != .int 0) false message = .ok () := by
  unfold checkCommand
  rw [reads.outcome, reads.sha256, reads.timedOut]
  cases outcome with
  | closedAfterCommandError =>
    obtain ⟨given, code, rfl, exited, failed, quiet⟩ := fits
    have other : (Json.int code != .int 0) = true := bne_iff_ne.mpr fun same => failed (Json.int.inj same)
    rw [evidence.returncode given rfl, evidence.timedOut given rfl, exited, quiet, evidence.ran_ne,
      Json.optional, other]
    rfl
  | _ => rfl

end

theorem CloseReads.valid (named : Nonempty beadId) (pre : isSha256 preShow = true)
    (post : isOptionalSha256 postShow = true) (fits : closed = startsWith outcome.text "closed")
    (shown : closed = true → postShow ≠ .null) (ran : CloseEvidence outcome result) :
    validateCloseReceipt receipt = .ok [] := by
  have listed : isOneOf closeOutcomes (.str outcome.text) = true := by cases outcome <;> rfl
  have reasoned : isSha256 (textSha256 reason).json = true := rfl
  have prefixed : textStartsWith "closed" (.str outcome.text) = closed := fits.symm
  have effect : (Json.bool closed != .bool true || postShow != .null) = true := by
    cases closed with
    | false => rfl
    | true => rw [bne_iff_ne.mpr (shown rfl), Bool.or_true]
  have replayed : (Json.str outcome.text != .str "preclosed-replay" || command.sha256 == .null) = true := by
    cases outcome with
    | preclosedReplay =>
      rw [(evidence.absent ran).1]
      rfl
    | _ => rfl
  unfold validateCloseReceipt checkCloseReceipt
  rw [strict_of_hasExactly reads.fields, ok_bind]
  dsimp only
  rw [reads.returncode, reads.command_closed evidence ran, reads.command_afterTimeout evidence ran,
    reads.command_afterError evidence ran, reads.beadId, reads.actor, reads.outcome, reads.reason,
    reads.preShow, reads.postShow, reads.sha256, reads.timedOut, reads.closed, nonemptyText_str named,
    nonemptyText_str actor.visible, listed, reasoned, pre, post, evidence.sha256,
    evidence.returncode_fits, evidence.consistent, replayed, prefixed, effect, reads.sealed,
    beq_self_eq_true]
  rfl

end

/-! ## Commands and shows -/

section

variable {world : World} {adapter : Adapter} {beadId : String} {index : Nat}

theorem timedOut_iff {args : List String} {result : BdCommandResult}
    (ran : runBdStructured world adapter args index = .ok result) :
    result.timedOut = true ↔ result.returncode = none := by
  obtain ⟨_, -, ran⟩ := bind_eq_ok.mp ran
  dsimp only at ran
  split at ran
  · cases ran
  split at ran
  · cases ran
  obtain ⟨seconds, -, ran⟩ := bind_eq_ok.mp ran
  split at ran
  · cases ran
    exact ⟨fun late => (by cases late), fun none => (by cases none)⟩
  · cases ran
    exact ⟨fun _ => rfl, fun _ => rfl⟩
  · cases ran

variable {issue : Document}

theorem shownIssue_isObject {document : Document} (shown : shownIssue beadId document = .ok issue) :
    issue.json.isObject = true := by
  unfold shownIssue at shown
  split at shown
  · obtain ⟨_, object, done⟩ := bind_eq_ok.mp shown
    rw [← pure_eq_ok.mp done]
    exact insist_eq_ok.mp object
  · cases shown
  · cases shown
  · obtain ⟨_, object, done⟩ := bind_eq_ok.mp shown
    rw [← pure_eq_ok.mp done]
    exact insist_eq_ok.mp object

theorem showExact_isObject (shown : showExact world adapter beadId index = .ok issue) :
    issue.json.isObject = true := by
  obtain ⟨_, -, shown⟩ := bind_eq_ok.mp shown
  obtain ⟨result, -, shown⟩ := bind_eq_ok.mp shown
  obtain ⟨_, -, shown⟩ := bind_eq_ok.mp shown
  obtain ⟨document, -, shown⟩ := bind_eq_ok.mp shown
  obtain ⟨found, known, shown⟩ := bind_eq_ok.mp shown
  obtain ⟨_, -, done⟩ := bind_eq_ok.mp shown
  rw [← pure_eq_ok.mp done]
  exact shownIssue_isObject known

theorem showExact_visible (shown : showExact world adapter beadId index = .ok issue) :
    Nonempty (strip beadId) := by
  obtain ⟨_, named, -⟩ := bind_eq_ok.mp shown
  have left : decide (strip beadId ≠ "") = true := insist_eq_ok.mp named
  exact nonempty_strip_of_ne (of_decide_eq_true left)

theorem showExact_strip : showExact world adapter (strip beadId) index = showExact world adapter beadId index := by
  unfold showExact
  rw [strip_strip]

theorem shown?_eq_none {outcome : Except PyError Document} (unseen : shown? outcome = .ok none)
    (issue : Document) : outcome ≠ .ok issue := by
  rintro rfl
  cases unseen

theorem shown?_eq_some {outcome : Except PyError Document}
    (seen : shown? outcome = .ok (some issue)) : outcome = .ok issue := by
  unfold shown? at seen
  split at seen
  · cases seen
    rfl
  · split at seen <;> cases seen

end

/-! ## Claims -/

/-- How a claim ends. -/
inductive Claims (world : World) (adapter : Adapter) (beadId : String) (expected : Option Json)
    (pre preHash : Json) : Transition → Prop
  | otherHash {receipt digest : Json} (wanted : expected = some digest) (other : preHash ≠ digest)
      (built : claimReceipt (strip beadId) adapter.actor .claimLost preHash preHash none false = .ok receipt) :
      Claims world adapter beadId expected pre preHash ⟨receipt, some pre⟩
  | preowned {receipt : Json}
      (taken : pre.value "status" ≠ .str "open" ∨ isBlank (pre.value "assignee") = false)
      (built : claimReceipt (strip beadId) adapter.actor .preownedReplay preHash preHash none false =
        .ok receipt) :
      Claims world adapter beadId expected pre preHash ⟨receipt, some pre⟩
  | unseen {receipt : Json} {result : BdCommandResult}
      (unseen : shown? (showExact world adapter (strip beadId) 2) = .ok none)
      (built : claimReceipt (strip beadId) adapter.actor .claimShowFailed preHash .null (some result) false =
        .ok receipt) :
      Claims world adapter beadId expected pre preHash ⟨receipt, none⟩
  | seen {receipt postHash : Json} {result : BdCommandResult} {post : Document} {owned : Bool}
      (wanted : ∀ digest, expected = some digest → preHash = digest)
      (shown : showExact world adapter (strip beadId) 2 = .ok post)
      (hashed : canonicalAdmissionSha256 post.json = .ok postHash)
      (judged : owned = (isExactClaimTransition world.now adapter.actor pre post.json &&
        equal (without claimMutableFields pre) (without claimMutableFields post.json)))
      (built : claimReceipt (strip beadId) adapter.actor (claimOutcome owned result) preHash postHash
        (some result) owned = .ok receipt) :
      Claims world adapter beadId expected pre preHash ⟨receipt, some post.json⟩

variable {beadId : String}

theorem claims {world : World} {adapter : Adapter} {expected : Option Json}
    {transition : Transition} (done : claim world adapter beadId expected = .ok transition) :
    ∃ pre preHash, showExact world adapter (strip beadId) 0 = .ok pre ∧
      canonicalAdmissionSha256 pre.json = .ok preHash ∧
      Claims world adapter beadId expected pre.json preHash transition := by
  obtain ⟨pre, shown, done⟩ := bind_eq_ok.mp done
  obtain ⟨preHash, hashed, done⟩ := bind_eq_ok.mp done
  obtain ⟨_, -, done⟩ := bind_eq_ok.mp done
  refine ⟨pre, preHash, shown, hashed, ?_⟩
  by_cases other : expected.any (preHash != ·) = true
  · rw [if_pos other] at done
    obtain ⟨receipt, built, rfl⟩ := map_eq_ok.mp done
    obtain ⟨digest, wanted, differs⟩ := (Option.any_eq_true _ _).mp other
    exact .otherHash wanted (bne_iff_ne.mp differs) built
  rw [if_neg other] at done
  by_cases taken : (pre.json.value "status" != .str "open" ||
      !isBlank (pre.json.value "assignee")) = true
  · rw [if_pos taken] at done
    obtain ⟨receipt, built, rfl⟩ := map_eq_ok.mp done
    rw [or_eq_true, bne_iff_ne, Bool.not_eq_true'] at taken
    exact .preowned taken built
  rw [if_neg taken] at done
  obtain ⟨result, -, done⟩ := bind_eq_ok.mp done
  obtain ⟨post?, seen, done⟩ := bind_eq_ok.mp done
  cases post? with
  | none =>
    obtain ⟨receipt, built, rfl⟩ := map_eq_ok.mp done
    exact .unseen seen built
  | some post =>
    obtain ⟨postHash, postHashed, done⟩ := bind_eq_ok.mp done
    obtain ⟨receipt, built, rfl⟩ := map_eq_ok.mp done
    refine .seen (fun digest wanted => ?_) (shown?_eq_some seen) postHashed rfl built
    by_contra differs
    rw [wanted] at other
    exact other (bne_iff_ne.mpr differs)

theorem ClaimReads.owned_eq {receipt preShow postShow : Json} {actor : Name}
    {outcome : ClaimOutcome} {owned : Bool}
    (reads : ClaimReads receipt beadId actor outcome preShow postShow command owned)
    (postIssue : Option Json) : Transition.owned ⟨receipt, postIssue⟩ = owned := by
  unfold Transition.owned
  rw [reads.owned]
  cases owned <;> rfl

theorem isSha256_of_hashed (hashed : canonicalAdmissionSha256 value = .ok digest) :
    isSha256 digest = true := by
  rw [(canonicalAdmissionSha256_eq_ok.mp hashed).2]
  rfl

theorem isOptionalSha256_of_hashed
    (hashed : canonicalAdmissionSha256 value = .ok digest) : isOptionalSha256 digest = true := by
  rw [isOptionalSha256, isSha256_of_hashed hashed, Bool.or_true]

theorem hashed_ne_null (hashed : canonicalAdmissionSha256 value = .ok digest) :
    digest ≠ .null := by
  rw [(canonicalAdmissionSha256_eq_ok.mp hashed).2]
  exact fun same => (by cases same)

theorem claimOutcome_fits (owned : Bool) (result : BdCommandResult) :
    owned = startsWith (claimOutcome owned result).text "claimed" := by
  unfold claimOutcome
  cases owned with
  | false =>
    rw [Bool.false_and, Bool.false_and, if_neg Bool.false_ne_true, if_neg Bool.false_ne_true,
      if_neg Bool.false_ne_true]
    rfl
  | true =>
    split
    · rfl
    · split <;> rfl

section

variable {world : World} {adapter : Adapter} {beadId : String} {expected : Option Json}
  {pre : Document} {preHash : Json} {transition : Transition}

variable (ended : Claims world adapter beadId expected pre.json preHash transition)

include ended

theorem Claims.valid
    (named : Nonempty (strip beadId)) (hashed : canonicalAdmissionSha256 pre.json = .ok preHash) :
    validateClaimReceipt transition.receipt = .ok [] := by
  have preDigest := isSha256_of_hashed hashed
  have asPost := isOptionalSha256_of_hashed hashed
  cases ended with
  | otherHash _ _ built | preowned _ built =>
    obtain ⟨command, evidence, reads⟩ := claimReceipt_reads built
    exact reads.valid evidence named preDigest asPost rfl fun owned => (by cases owned)
  | unseen unseen built =>
    obtain ⟨command, evidence, reads⟩ := claimReceipt_reads built
    exact reads.valid evidence named preDigest rfl rfl fun owned => (by cases owned)
  | seen wanted shown postHashed judged built =>
    obtain ⟨command, evidence, reads⟩ := claimReceipt_reads built
    exact reads.valid evidence named preDigest (isOptionalSha256_of_hashed postHashed)
      (claimOutcome_fits _ _) fun _ => hashed_ne_null postHashed

/-- The issue is owned exactly if the shows before and after the command differ by a claim. -/
theorem Claims.owned_iff (object : pre.json.isObject = true) :
    transition.owned = true ↔ (∀ digest, expected = some digest → preHash = digest) ∧
      ∃ post, showExact world adapter (strip beadId) 2 = .ok post ∧
        ClaimDelta world.now adapter.actor pre.json post.json := by
  cases ended with
  | otherHash wanted other built =>
    obtain ⟨command, evidence, reads⟩ := claimReceipt_reads built
    rw [reads.owned_eq]
    constructor
    · intro owned
      cases owned
    · rintro ⟨same, -⟩
      exact absurd (same _ wanted) other
  | preowned taken built =>
    obtain ⟨command, evidence, reads⟩ := claimReceipt_reads built
    rw [reads.owned_eq]
    constructor
    · intro owned
      cases owned
    · rintro ⟨-, post, -, delta⟩
      rcases taken with closed | assigned
      · exact absurd delta.wasOpen closed
      · exact absurd delta.unassigned (Bool.eq_false_iff.mp assigned)
  | unseen unseen built =>
    obtain ⟨command, evidence, reads⟩ := claimReceipt_reads built
    rw [reads.owned_eq]
    constructor
    · intro owned
      cases owned
    · rintro ⟨-, post, shown, -⟩
      exact absurd shown (shown?_eq_none unseen post)
  | @seen _ _ _ post _ wanted shown postHashed judged built =>
    obtain ⟨command, evidence, reads⟩ := claimReceipt_reads built
    have exact : isExactClaimTransition world.now adapter.actor pre.json post.json = true ↔
        ClaimDelta world.now adapter.actor pre.json post.json :=
      isExactClaimTransition_iff pre.decoded post.decoded object (showExact_isObject shown)
    rw [reads.owned_eq, judged, and_eq_true, exact]
    constructor
    · rintro ⟨delta, -⟩
      exact ⟨wanted, post, shown, delta⟩
    · rintro ⟨-, other, otherShown, delta⟩
      cases shown.symm.trans otherShown
      refine ⟨delta, ?_⟩
      have judgedExact := exact.mpr delta
      exact (and_eq_true _ _ ▸ judgedExact).2

end

/-! ## Closes -/

/-- How a close ends. -/
inductive Closes (world : World) (adapter : Adapter) (beadId reason : String) (expected pre preHash : Json) :
    Transition → Prop
  | refused {receipt : Json} {outcome : CloseOutcome}
      (differs : preHash ≠ expected ∨ pre.value "status" ≠ .str "in_progress" ∨
        pre.value "assignee" ≠ .str adapter.actor.text)
      (said : outcome = .preclosedReplay ∨ outcome = .closeLost)
      (built : closeReceipt (strip beadId) adapter.actor outcome (strip reason) preHash preHash none false =
        .ok receipt) :
      Closes world adapter beadId reason expected pre preHash ⟨receipt, some pre⟩
  | unseen {receipt : Json} {result : BdCommandResult}
      (unseen : shown? (showExact world adapter (strip beadId) 2) = .ok none)
      (built : closeReceipt (strip beadId) adapter.actor .closeShowFailed (strip reason) preHash .null
        (some result) false = .ok receipt) :
      Closes world adapter beadId reason expected pre preHash ⟨receipt, none⟩
  | seen {receipt postHash : Json} {result : BdCommandResult} {post : Document} {closed : Bool}
      (wanted : preHash = expected) (late : result.timedOut = true ↔ result.returncode = none)
      (shown : showExact world adapter (strip beadId) 2 = .ok post)
      (hashed : canonicalAdmissionSha256 post.json = .ok postHash)
      (judged : closed =
        isExactCloseTransition world.now adapter.actor (strip reason) pre post.json)
      (built : closeReceipt (strip beadId) adapter.actor (closeOutcome closed result) (strip reason) preHash
        postHash (some result) closed = .ok receipt) :
      Closes world adapter beadId reason expected pre preHash ⟨receipt, some post.json⟩

theorem closes {world : World} {adapter : Adapter} {reason : String} {expected : Json}
    {transition : Transition}
    (done : closeOwned world adapter beadId expected reason = .ok transition) :
    ∃ pre preHash, showExact world adapter (strip beadId) 0 = .ok pre ∧
      canonicalAdmissionSha256 pre.json = .ok preHash ∧
      Closes world adapter beadId reason expected pre.json preHash transition := by
  obtain ⟨_, -, done⟩ := bind_eq_ok.mp done
  obtain ⟨_, -, done⟩ := bind_eq_ok.mp done
  obtain ⟨_, -, done⟩ := bind_eq_ok.mp done
  obtain ⟨pre, shown, done⟩ := bind_eq_ok.mp done
  obtain ⟨preHash, hashed, done⟩ := bind_eq_ok.mp done
  refine ⟨pre, preHash, shown, hashed, ?_⟩
  by_cases differs : (preHash != expected || pre.json.value "status" != .str "in_progress" ||
      pre.json.value "assignee" != .str adapter.actor.text) = true
  · rw [if_pos differs] at done
    obtain ⟨receipt, built, rfl⟩ := map_eq_ok.mp done
    rw [or_eq_true, or_eq_true, bne_iff_ne, bne_iff_ne, bne_iff_ne, or_assoc] at differs
    refine .refused differs ?_ built
    split
    · exact .inl rfl
    · exact .inr rfl
  rw [if_neg differs] at done
  obtain ⟨result, ran, done⟩ := bind_eq_ok.mp done
  obtain ⟨post?, seen, done⟩ := bind_eq_ok.mp done
  cases post? with
  | none =>
    obtain ⟨receipt, built, rfl⟩ := map_eq_ok.mp done
    exact .unseen seen built
  | some post =>
    obtain ⟨postHash, postHashed, done⟩ := bind_eq_ok.mp done
    obtain ⟨receipt, built, rfl⟩ := map_eq_ok.mp done
    refine .seen ?_ (timedOut_iff ran) (shown?_eq_some seen) postHashed rfl built
    by_contra other
    rw [bne_iff_ne.mpr other, Bool.true_or] at differs
    exact differs rfl

theorem CloseReads.closed_eq {receipt preShow postShow : Json} {reason : String} {actor : Name}
    {outcome : CloseOutcome} {closed : Bool}
    (reads : CloseReads receipt beadId actor outcome reason preShow postShow command closed)
    (postIssue : Option Json) : Transition.closed ⟨receipt, postIssue⟩ = closed := by
  unfold Transition.closed
  rw [reads.closed]
  cases closed <;> rfl

theorem closeOutcome_false (result : BdCommandResult) : closeOutcome false result = .closeLost := by
  unfold closeOutcome
  rw [Bool.false_and, Bool.false_and, if_neg Bool.false_ne_true, if_neg Bool.false_ne_true,
    if_neg Bool.false_ne_true]

theorem closeOutcome_fits (closed : Bool) (result : BdCommandResult) :
    closed = startsWith (closeOutcome closed result).text "closed" := by
  cases closed with
  | false =>
    rw [closeOutcome_false]
    rfl
  | true =>
    unfold closeOutcome
    split
    · rfl
    · split <;> rfl

theorem closeOutcome_evidence (closed : Bool) {result : BdCommandResult}
    (late : result.timedOut = true ↔ result.returncode = none) :
    CloseEvidence (closeOutcome closed result) (some result) := by
  cases closed with
  | false =>
    trivial
  | true =>
    unfold closeOutcome
    rw [Bool.true_and, Bool.true_and]
    by_cases timedOut : result.timedOut = true
    · rw [if_pos timedOut]
      exact ⟨result, rfl, late.mp timedOut, timedOut⟩
    rw [if_neg timedOut]
    have quiet : result.timedOut = false := Bool.eq_false_iff.mpr timedOut
    by_cases failed : (result.returncode != some 0) = true
    · rw [if_pos failed]
      cases exited : result.returncode with
      | none => exact absurd (late.mpr exited) timedOut
      | some code =>
        refine ⟨result, code, rfl, exited, fun zero => ?_, quiet⟩
        rw [exited, zero] at failed
        cases failed
    · rw [if_neg failed]
      rw [bne_iff_ne, not_not] at failed
      exact ⟨result, rfl, failed, quiet⟩

section

variable {world : World} {adapter : Adapter} {beadId reason : String} {expected : Json}
  {pre : Document} {preHash : Json} {transition : Transition}

variable (ended : Closes world adapter beadId reason expected pre.json preHash transition)

include ended

theorem Closes.valid
    (named : Nonempty (strip beadId)) (hashed : canonicalAdmissionSha256 pre.json = .ok preHash) :
    validateCloseReceipt transition.receipt = .ok [] := by
  have preDigest := isSha256_of_hashed hashed
  cases ended with
  | refused differs said built =>
    obtain ⟨command, evidence, reads⟩ := closeReceipt_reads built
    have post := isOptionalSha256_of_hashed hashed
    rcases said with rfl | rfl
    · exact reads.valid evidence named preDigest post rfl (fun closed => (by cases closed)) rfl
    · exact reads.valid evidence named preDigest post rfl (fun closed => (by cases closed)) trivial
  | unseen unseen built =>
    obtain ⟨command, evidence, reads⟩ := closeReceipt_reads built
    exact reads.valid evidence named preDigest rfl rfl (fun closed => (by cases closed)) trivial
  | seen wanted late shown postHashed judged built =>
    obtain ⟨command, evidence, reads⟩ := closeReceipt_reads built
    exact reads.valid evidence named preDigest (isOptionalSha256_of_hashed postHashed)
      (closeOutcome_fits _ _) (fun _ => hashed_ne_null postHashed) (closeOutcome_evidence _ late)

/-- The issue is closed exactly if the shows before and after the command differ by a close. -/
theorem Closes.closed_iff (object : pre.json.isObject = true) :
    transition.closed = true ↔ preHash = expected ∧
      ∃ post, showExact world adapter (strip beadId) 2 = .ok post ∧
        CloseDelta world.now adapter.actor (strip reason) pre.json post.json := by
  cases ended with
  | refused differs said built =>
    obtain ⟨command, evidence, reads⟩ := closeReceipt_reads built
    rw [reads.closed_eq]
    constructor
    · intro closed
      cases closed
    · rintro ⟨same, post, -, delta⟩
      rcases differs with other | moved | unowned
      · exact absurd same other
      · exact absurd delta.inProgress moved
      · exact absurd delta.owned unowned
  | unseen unseen built =>
    obtain ⟨command, evidence, reads⟩ := closeReceipt_reads built
    rw [reads.closed_eq]
    constructor
    · intro closed
      cases closed
    · rintro ⟨-, post, shown, -⟩
      exact absurd shown (shown?_eq_none unseen post)
  | @seen _ _ _ post _ wanted late shown postHashed judged built =>
    obtain ⟨command, evidence, reads⟩ := closeReceipt_reads built
    rw [reads.closed_eq, judged,
      isExactCloseTransition_iff pre.decoded post.decoded object (showExact_isObject shown)]
    constructor
    · intro delta
      exact ⟨wanted, post, shown, delta⟩
    · rintro ⟨-, other, otherShown, delta⟩
      cases shown.symm.trans otherShown
      exact delta

end

/-! ## Reports -/

/--
Whatever becomes of the commands: a claim that returns reports the issue as owned exactly if
it was shown with the expected digest and is shown again with the changes of a claim by this
actor, a close likewise, and every receipt passes its validator.
-/
theorem adapters_report_exactly (world : World) (adapter : Adapter) (beadId : String) :
    (∀ expected transition, claim world adapter beadId expected = .ok transition →
      (transition.owned = true ↔ ∃ pre post, showExact world adapter beadId 0 = .ok pre ∧
        showExact world adapter beadId 2 = .ok post ∧
        (∀ digest, expected = some digest → canonicalAdmissionSha256 pre.json = .ok digest) ∧
        ClaimDelta world.now adapter.actor pre.json post.json) ∧
      validateClaimReceipt transition.receipt = .ok []) ∧
    (∀ expected reason transition, closeOwned world adapter beadId expected reason = .ok transition →
      (transition.closed = true ↔ ∃ pre post, showExact world adapter beadId 0 = .ok pre ∧
        showExact world adapter beadId 2 = .ok post ∧
        canonicalAdmissionSha256 pre.json = .ok expected ∧
        CloseDelta world.now adapter.actor (strip reason) pre.json post.json) ∧
      validateCloseReceipt transition.receipt = .ok []) := by
  constructor
  · intro expected transition done
    obtain ⟨pre, preHash, shown, hashed, ended⟩ := claims done
    refine ⟨?_, ended.valid (strip_strip beadId ▸ showExact_visible shown) hashed⟩
    rw [ended.owned_iff (showExact_isObject shown), showExact_strip]
    rw [showExact_strip] at shown
    constructor
    · rintro ⟨same, post, postShown, delta⟩
      exact ⟨pre, post, shown, postShown, fun digest wanted => same digest wanted ▸ hashed, delta⟩
    · rintro ⟨other, post, otherShown, postShown, same, delta⟩
      cases shown.symm.trans otherShown
      refine ⟨fun digest wanted => ?_, post, postShown, delta⟩
      exact Except.ok.inj (hashed.symm.trans (same digest wanted))
  · intro expected reason transition done
    obtain ⟨pre, preHash, shown, hashed, ended⟩ := closes done
    refine ⟨?_, ended.valid (strip_strip beadId ▸ showExact_visible shown) hashed⟩
    rw [ended.closed_iff (showExact_isObject shown), showExact_strip]
    rw [showExact_strip] at shown
    constructor
    · rintro ⟨rfl, post, postShown, delta⟩
      exact ⟨pre, post, shown, postShown, hashed, delta⟩
    · rintro ⟨other, post, otherShown, postShown, same, delta⟩
      cases shown.symm.trans otherShown
      exact ⟨Except.ok.inj (hashed.symm.trans same), post, postShown, delta⟩

def sampleOpenIssue : Json := .obj [("id", .str "bd-1"), ("status", .str "open")]

theorem sampleOpenIssue_decoded : Decoded sampleOpenIssue := by
  refine ⟨trivial, ⟨trivial, trivial, rfl, ?_⟩, rfl, ?_⟩ <;> decide

def sampleClaimedIssue : Json :=
  .obj [("id", .str "bd-1"), ("status", .str "in_progress"), ("assignee", .str "pool"),
    ("started_at", .str "2026-01-01T00:00:00Z")]

theorem sampleClaimedIssue_decoded : Decoded sampleClaimedIssue := by
  refine ⟨trivial, ⟨trivial, ⟨trivial, ⟨trivial, trivial, rfl, ?_⟩, rfl, ?_⟩, rfl, ?_⟩, rfl, ?_⟩ <;> decide

def sampleClosedIssue : Json :=
  .obj [("id", .str "bd-1"), ("status", .str "closed"), ("assignee", .str "pool"),
    ("started_at", .str "2026-01-01T00:00:00Z"), ("closed_at", .str "2026-01-02T00:00:00Z"),
    ("close_reason", .str "done")]

theorem sampleClosedIssue_decoded : Decoded sampleClosedIssue := by
  refine ⟨trivial, ⟨trivial, ⟨trivial, ⟨trivial, ⟨trivial, ⟨trivial, trivial, rfl, ?_⟩, rfl, ?_⟩, rfl, ?_⟩,
    rfl, ?_⟩, rfl, ?_⟩, rfl, ?_⟩ <;> decide

def sampleOpen : Document := ⟨sampleOpenIssue, sampleOpenIssue_decoded⟩

def sampleClaimed : Document := ⟨sampleClaimedIssue, sampleClaimedIssue_decoded⟩

def sampleClosed : Document := ⟨sampleClosedIssue, sampleClosedIssue_decoded⟩

def openText : String := "\x7b\"id\": \"bd-1\", \"status\": \"open\"\x7d"

def claimedText : String :=
  "\x7b\"id\": \"bd-1\", \"status\": \"in_progress\", \"assignee\": \"pool\", " ++
    "\"started_at\": \"2026-01-01T00:00:00Z\"\x7d"

def closedText : String :=
  "\x7b\"id\": \"bd-1\", \"status\": \"closed\", \"assignee\": \"pool\", " ++
    "\"started_at\": \"2026-01-01T00:00:00Z\", \"closed_at\": \"2026-01-02T00:00:00Z\", " ++
    "\"close_reason\": \"done\"\x7d"

theorem sampleDatabase_visible : Nonempty "/work/beads.db" := by decide +kernel

theorem sampleActor_visible : Nonempty "pool" := by decide +kernel

def sampleAdapter : Adapter := ⟨"/work", ⟨"/work/beads.db", sampleDatabase_visible⟩, ⟨"pool", sampleActor_visible⟩⟩

/-- The command takes effect although it is killed at its deadline. -/
def sampleWorld (before after : String) : World where
  requireBd := fun _ => .ok ()
  directoryExists := fun _ => true
  timeoutSeconds := fun _ => .ok 30
  process := fun index =>
    if index = 0 then .exited 0 before ""
    else if index = 1 then .timedOut "" ""
    else .exited 0 after ""
  loads := fun text => .ok (if text = openText then sampleOpen
    else if text = claimedText then sampleClaimed else sampleClosed)
  now := 0

theorem sampleClaim_returns : ∃ transition,
    claim (sampleWorld openText claimedText) sampleAdapter "bd-1" none = .ok transition :=
  ⟨_, rfl⟩

theorem sampleClose_returns : ∃ digest transition, canonicalAdmissionSha256 sampleClaimed.json = .ok digest ∧
    closeOwned (sampleWorld claimedText closedText) sampleAdapter "bd-1" digest "done" = .ok transition :=
  ⟨_, _, rfl, rfl⟩

theorem sampleClaim_delta : ClaimDelta 0 sampleAdapter.actor sampleOpen.json sampleClaimed.json :=
  (isExactClaimTransition_iff sampleOpen.decoded sampleClaimed.decoded rfl rfl).mp (by decide +kernel)

theorem sampleClose_delta :
    CloseDelta 0 sampleAdapter.actor (strip "done") sampleClaimed.json sampleClosed.json :=
  (isExactCloseTransition_iff sampleClaimed.decoded sampleClosed.decoded rfl rfl).mp (by decide +kernel)

/-- An issue is claimed and then closed by commands that both come back late. -/
theorem adapters_report_exactly_late :
    (∃ transition, claim (sampleWorld openText claimedText) sampleAdapter "bd-1" none = .ok transition ∧
      transition.owned = true ∧ validateClaimReceipt transition.receipt = .ok []) ∧
    ∃ digest transition,
      closeOwned (sampleWorld claimedText closedText) sampleAdapter "bd-1" digest "done" = .ok transition ∧
        transition.closed = true ∧ validateCloseReceipt transition.receipt = .ok [] := by
  constructor
  · obtain ⟨transition, done⟩ := sampleClaim_returns
    obtain ⟨owned, valid⟩ :=
      (adapters_report_exactly (sampleWorld openText claimedText) sampleAdapter "bd-1").1 none transition done
    refine ⟨transition, done, owned.mpr ⟨sampleOpen, sampleClaimed, rfl, rfl, ?_, sampleClaim_delta⟩, valid⟩
    exact fun _ none => (by cases none)
  · obtain ⟨digest, transition, hashed, done⟩ := sampleClose_returns
    obtain ⟨closed, valid⟩ := (adapters_report_exactly (sampleWorld claimedText closedText) sampleAdapter
      "bd-1").2 digest "done" transition done
    exact ⟨digest, transition, done,
      closed.mpr ⟨sampleClaimed, sampleClosed, rfl, rfl, hashed, sampleClose_delta⟩, valid⟩

end WorkOrchestration.Native.ClaimAdapters
