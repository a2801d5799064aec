import WorkOrchestration.Native.ReplanningSteps
import WorkOrchestration.Native.SignedReceipts

/-!
# Sealing a replanning state

A state whose receipt has just been emitted can be sealed: its documents are ordinary, its numbers
can be written, and the receipt says what the state says.
-/

namespace WorkOrchestration.Native.Replanning

open List
open Lib.Results (forM_eq_ok ok_bind)
open Lib.Text Artifacts Authority ProtectedChanges OperatorApprovals
open ApprovalStore
open Json (digitLimit nat obj str)

/-- A value that is ordinary and whose numbers are not too long. -/
structure Written (value : Json) : Prop where
  ordinary : ∃ label, ordinaryJson label value = .ok ()
  encodable : value.encodable = true

theorem Written.str (text : String) : Written (.str text) := ⟨⟨"", rfl⟩, rfl⟩

theorem Written.bool (value : Bool) : Written (.bool value) := ⟨⟨"", rfl⟩, rfl⟩

theorem Written.sha256 (preimage : Json) : Written (.sha256 preimage) := ⟨⟨"", rfl⟩, rfl⟩

theorem Written.int {value : Int} (short : value.natAbs < digitLimit) : Written (.int value) :=
  ⟨⟨"", rfl⟩, decide_eq_true short⟩

theorem Written.nat {value : Nat} (short : value < digitLimit) : Written (.nat value) :=
  .int short

theorem Written.obj {fields : List (String × Json)} (distinct : (fields.map Prod.fst).Nodup)
    (values : ∀ field ∈ fields, Written field.2) : Written (.obj fields) :=
  ⟨⟨"", ordinaryFrom_obj distinct (fun _ _ => not_mem_nil)
      fun field member => (values field member).ordinary⟩,
    encodable_obj fun field member => (values field member).encodable⟩

theorem Written.arr {items : List Json} (each : ∀ item ∈ items, Written item) :
    Written (.arr items) := by
  refine ⟨⟨"", ordinaryFrom_arr fun item member => (each item member).ordinary⟩, ?_⟩
  induction items with
  | nil => rfl
  | cons item rest ih =>
    have first := (each item mem_cons_self).encodable
    have others := ih (forall_mem_cons.mp each).2
    change (item.encodable && (Json.arr rest).encodable) = true
    rw [first, others]
    rfl

theorem Written.strings (texts : List String) : Written (.strings texts) := by
  apply Written.arr
  intro item member
  obtain ⟨text, _, rfl⟩ := mem_map.mp member
  exact .str text

variable {value : Json}

theorem set_obj {fields : List (String × Json)} {key : String}
    (absent : ∀ field ∈ fields, field.1 ≠ key) :
    (obj fields).set key value = .obj (fields ++ [(key, value)]) := by
  induction fields with
  | nil => rfl
  | cons field rest ih =>
    change (if field.1 = key then _ else Json.field field.1 field.2 ((obj rest).set key value)) = _
    rw [if_neg (absent field mem_cons_self), ih (forall_mem_cons.mp absent).2]
    rfl

theorem Written.canonicalJsonObject (written : Written value)
    (object : value.isObject = true) (label : String) : canonicalJsonObject label value = .ok value := by
  obtain ⟨_, ordinary⟩ := written.ordinary
  exact canonicalJsonObject_of (ordinaryJson_of ordinary) object

theorem Written.canonicalAuthoritySha256 (written : Written value) :
    canonicalAuthoritySha256 value = .ok (.sha256 value.canonical) := by
  obtain ⟨_, ordinary⟩ := written.ordinary
  exact canonicalAuthority_iff.mpr ⟨ordinaryJson_of ordinary, written.encodable, rfl⟩

theorem Written.digest (digest : Digest) : Written digest.json := .sha256 digest.preimage

theorem Written.optionalDigest (digest : Option Digest) : Written (.optional Digest.json digest) := by
  cases digest with
  | none => exact ⟨⟨"", rfl⟩, rfl⟩
  | some digest => exact .digest digest

theorem Written.provenance (record : Provenance) : Written record.json := by
  have verification : Written (.obj [("method", .str record.verificationMethod),
      ("evidence_sha256", record.verificationEvidenceSha256.json)]) := by
    apply Written.obj (by simp)
    simp only [forall_mem_cons]
    exact ⟨.str _, .digest _, nofun⟩
  change Written (.obj (("authority_sha256", record.authoritySha256.json) :: _))
  apply Written.obj
  · change ["authority_sha256", "version", "source_type", "source_id", "source_sha256", "actor_id",
      "actor_role", "identity_source", "authorized_scope", "parent_receipt_sha256",
      "verification"].Nodup
    decide
  · simp only [forall_mem_cons]
    exact ⟨.digest _, .nat (by decide), .str _, .str _, .digest _, .str _, .str _, .str _, .str _,
      .optionalDigest _, verification, nofun⟩

theorem Written.reasonRecord (record : ReasonRecord) : Written (reasonRecordJson record) := by
  apply Written.obj (by simp)
  simp only [forall_mem_cons]
  exact ⟨.str _, .provenance _, .str _, nofun⟩

theorem Written.mutation (mutation : Mutation) : Written mutation.json := by
  apply Written.obj (by simp)
  simp only [forall_mem_cons]
  exact ⟨.bool _, .bool _, nofun⟩

theorem Written.latches (latches : Latches) : Written latches.json := by
  apply Written.obj (by simp)
  simp only [forall_mem_cons]
  exact ⟨.bool _, .bool _, nofun⟩

theorem Written.mainThread (thread : MainThread) : Written thread.json := by
  apply Written.obj
  · change ["model", "effort", "source", "recommended_effort", "recommendation_reason", "advisory",
      "user_selected_effort_retained"].Nodup
    decide
  · simp only [forall_mem_cons]
    exact ⟨.str _, .str _, .str _, .str _, .str _, .bool _, .bool _, nofun⟩

theorem Written.counters {counters : Counters} (dispatches : counters.dispatches < digitLimit)
    (toolCalls : counters.toolCallsUsed < digitLimit)
    (runtime : counters.runtimeSecondsUsed < digitLimit)
    (compactions : counters.contextCompactions < digitLimit)
    (pmReplans : counters.pmReplansUsed < digitLimit)
    (architectCycles : counters.architectCyclesUsed < digitLimit) : Written counters.json := by
  apply Written.obj
  · change ["dispatches", "tool_calls_used", "runtime_seconds_used", "context_compactions",
      "pm_replans_used", "architect_cycles_used"].Nodup
    decide
  · simp only [forall_mem_cons]
    exact ⟨.nat dispatches, .nat toolCalls, .nat runtime, .nat compactions, .nat pmReplans,
      .nat architectCycles, nofun⟩

theorem Written.allowance {allowance : Allowance} (toolCalls : allowance.toolCallsHard < digitLimit)
    (runtime : allowance.runtimeSecondsHard < digitLimit)
    (softCap : allowance.dispatchSoftCap < digitLimit)
    (pmReplans : allowance.maxPmReplans < digitLimit)
    (architectCycles : allowance.maxArchitectCycles < digitLimit)
    (compactions : allowance.maxCompactions < digitLimit) : Written allowance.json := by
  apply Written.obj
  · change ["tool_calls_hard", "runtime_seconds_hard", "dispatch_soft_cap",
      "dispatch_soft_cap_action", "max_pm_replans", "max_architect_cycles", "max_compactions"].Nodup
    decide
  · simp only [forall_mem_cons]
    exact ⟨.nat toolCalls, .nat runtime, .nat softCap, .str _, .nat pmReplans, .nat architectCycles,
      .nat compactions, nofun⟩

theorem Written.snapshot {snapshot : PolicySnapshot} (softCap : snapshot.dispatchSoftCap < digitLimit)
    (pmReplans : snapshot.maxPmReplans < digitLimit)
    (architectCycles : snapshot.maxArchitectCycles < digitLimit)
    (compactions : snapshot.maxCompactions < digitLimit) : Written snapshot.json := by
  apply Written.obj
  · change ["dispatch_soft_cap", "max_pm_replans", "max_architect_cycles", "max_compactions",
      "live_replay_enabled"].Nodup
    decide
  · simp only [forall_mem_cons]
    exact ⟨.nat softCap, .nat pmReplans, .nat architectCycles, .nat compactions, .bool _, nofun⟩

/-- What the sealing of a state rests on besides its receipt. -/
structure Sealable (fromIsoformat : String → Parsed) (state : State) : Prop where
  workUnitId : state.workUnitId ≠ ""
  beadId : state.beadId ≠ ""
  packetId : state.packetId ≠ ""
  requestedModel : state.requestedModel ≠ ""
  objective : state.objective ≠ ""
  securityContext : state.securityContext ≠ ""
  nextAction : state.nextAction ≠ ""
  same : state.mutation.tainted = state.latches.tainted
  counters : Written state.counters.json
  allowance : Written state.allowance.json
  snapshot : Written state.snapshot.json
  authorizations : validateAuthorizations fromIsoformat 0 [] state.authorizations = .ok ()
  approvals : ∀ approval ∈ state.authorizations, Written approval

/-- What a receipt consists of, given its records. -/
def receiptBody (before : Phase) (event : String) (authority : Provenance) (decision : String)
    (state : State) (records : List Json) : List (String × Json) :=
  [("result_type", .str replanningReceiptType), ("version", .int 3),
    ("schema", .str schemaPath), ("state_before", .str before.text),
    ("state_after", .str state.phase.text), ("event", .str event),
    ("authority_provenance", authority.json),
    ("reason_records", .arr records),
    ("protected_change_authorizations", .arr state.authorizations), ("decision", .str decision),
    ("reason_codes", .strings state.reasonCodes), ("work_unit_id", .str state.workUnitId),
    ("bead_id", .str state.beadId), ("packet_id", .str state.packetId),
    ("counters", .obj state.reportedCounters), ("aggregate", state.allowance.json),
    ("mutation", state.mutation.json), ("terminal_latches", state.latches.json),
    ("model_health", .obj [("exact_model", .bool state.modelMatch)]),
    ("control_health", .obj [("healthy", .bool state.controlHealthy)]),
    ("main_thread", state.mainThread.json), ("next_action", .str state.nextAction)]

theorem detector_visible (event : String) : Nonempty ("native-replanning:" ++ event) :=
  Nonempty.append_right (show Nonempty "native-replanning:" by decide) event

structure Emitted (authority : Provenance) (state : State) (receipt : Json) : Prop where
  verified : validateAuthorityProvenance authority = []
  reasons : ∀ reason ∈ state.reasonCodes, Nonempty reason
  made : ∃ before event decision, ∃ detectedBy : String, event ≠ "" ∧ decision ≠ "" ∧ Nonempty detectedBy ∧
    receipt = .obj (receiptBody before event authority decision state
      (state.reasonCodes.map fun reason => reasonRecordJson ⟨reason, authority, detectedBy⟩))

theorem emitReceipt_ok {before : Phase} {event decision : String} {authority : VerifiedAuthority}
    {state : State} {receipt : Json} (named : event ≠ "") (decided : decision ≠ "")
    (emitted : emitReceipt before event authority decision state = .ok receipt) :
    Emitted authority.payload state receipt := by
  obtain ⟨records, built, made⟩ := bind_ok emitted
  obtain ⟨reasons, valid, rfl⟩ := buildReasonRecords_eq_ok.mp built
  cases made
  refine ⟨valid, reasons, before, event, decision, "native-replanning:" ++ event, named, decided,
    detector_visible event, ?_⟩
  rw [map_map]
  rfl

theorem emitReceipt_of {before : Phase} {event decision : String} {authority : VerifiedAuthority}
    {state : State} (reasons : ∀ reason ∈ state.reasonCodes, Nonempty reason) :
    ∃ receipt, emitReceipt before event authority decision state = .ok receipt := by
  have built : buildReasonRecords state.reasonCodes authority.payload ⟨_, detector_visible event⟩ =
      .ok _ := buildReasonRecords_eq_ok.mpr ⟨reasons, authority.verified, rfl⟩
  refine ⟨.obj (receiptBody before event authority.payload decision state
    ((state.reasonCodes.map fun reason =>
      ⟨reason, authority.payload, "native-replanning:" ++ event⟩).map reasonRecordJson)), ?_⟩
  change (buildReasonRecords _ _ ⟨_, detector_visible event⟩ >>= _) = _
  rw [built]
  rfl

variable {fromIsoformat : String → Parsed} {authority : Provenance} {state : State} {receipt : Json}

theorem Written.field {document : Json} (written : Written document) (key : String) :
    (document.value key).encodable = true :=
  encodable_value written.encodable key

theorem remaining_short {limit used : Nat} (short : (nat limit).encodable = true) :
    Written (.int (max 0 ((limit : Int) - used))) := by
  have bound : limit < digitLimit := of_decide_eq_true short
  apply Written.int
  omega

theorem Written.reportedCounters (counters : Written state.counters.json)
    (allowance : Written state.allowance.json) : Written (.obj state.reportedCounters) := by
  apply Written.obj
  · change ["dispatches", "tool_calls_used", "runtime_seconds_used", "context_compactions",
      "pm_replans_used", "architect_cycles_used", "tool_calls_remaining",
      "runtime_seconds_remaining", "dispatches_remaining"].Nodup
    decide
  · simp only [State.reportedCounters, forall_mem_cons]
    exact ⟨⟨⟨"", rfl⟩, counters.field "dispatches"⟩, ⟨⟨"", rfl⟩, counters.field "tool_calls_used"⟩,
      ⟨⟨"", rfl⟩, counters.field "runtime_seconds_used"⟩,
      ⟨⟨"", rfl⟩, counters.field "context_compactions"⟩,
      ⟨⟨"", rfl⟩, counters.field "pm_replans_used"⟩,
      ⟨⟨"", rfl⟩, counters.field "architect_cycles_used"⟩,
      remaining_short (allowance.field "tool_calls_hard"),
      remaining_short (allowance.field "runtime_seconds_hard"),
      remaining_short (allowance.field "dispatch_soft_cap"), nofun⟩

theorem Emitted.fields (emitted : Emitted authority state receipt)
    (sealable : Sealable fromIsoformat state) (stateSha256 : Json) (hash : Written stateSha256) :
    Written receipt ∧ Written (receipt.set "state_sha256" stateSha256) ∧
      receipt.get? "state_sha256" = none := by
  obtain ⟨before, event, decision, detectedBy, _, _, _, rfl⟩ := emitted.made
  have values : ∀ field ∈ receiptBody before event authority decision state
      (state.reasonCodes.map fun reason => reasonRecordJson ⟨reason, authority, detectedBy⟩),
      Written field.2 := by
    have records : Written (.arr (state.reasonCodes.map fun reason =>
        reasonRecordJson ⟨reason, authority, detectedBy⟩)) := by
      apply Written.arr
      intro record member
      obtain ⟨reason, _, rfl⟩ := mem_map.mp member
      exact .reasonRecord _
    simp only [receiptBody, forall_mem_cons]
    exact ⟨.str _, .int (by decide), .str _, .str _, .str _, .str _, .provenance _, records,
      .arr sealable.approvals, .str _, .strings _, .str _, .str _, .str _,
      .reportedCounters sealable.counters sealable.allowance, sealable.allowance, .mutation _,
      .latches _, .obj (by simp) (by simpa using .bool _), .obj (by simp) (by simpa using .bool _),
      .mainThread _, .str _, nofun⟩
  have distinct : ((receiptBody before event authority decision state
      (state.reasonCodes.map fun reason => reasonRecordJson ⟨reason, authority, detectedBy⟩) ++
      [("state_sha256", stateSha256)]).map Prod.fst).Nodup := by
    change receiptFields.Nodup
    decide
  refine ⟨.obj ?_ values, ?_, rfl⟩
  · rw [map_append, nodup_append] at distinct
    exact distinct.1
  · apply Written.obj distinct
    intro field member
    rcases mem_append.mp member with old | new
    · exact values field old
    · rw [mem_singleton] at new
      rw [new]
      exact hash

theorem require_of {condition : Bool} {message : String} (holds : condition = true) :
    require condition message = .ok () := by
  rw [holds]
  rfl

theorem requireText_of {path text : String} (filled : text ≠ "") :
    requireText path (.str text) = .ok () := by
  change ((if text = "" then _ else .ok text : Except PyError String) >>= _) = _
  rw [if_neg filled]
  rfl

theorem sameDocument_self (document : Json) : sameDocument document document = true :=
  decide_eq_true rfl

theorem reasonRecordsValid_of {detectedBy : String} (visible : Nonempty detectedBy) :
    reasonRecordsValid state (.arr (state.reasonCodes.map fun reason =>
      reasonRecordJson ⟨reason, state.authority, detectedBy⟩)) = true := by
  unfold reasonRecordsValid
  rw [Json.elements?_arr]
  rw [Bool.and_eq_true, decide_eq_true_eq, length_map]
  refine ⟨rfl, ?_⟩
  induction state.reasonCodes with
  | nil => rfl
  | cons reason rest ih =>
    rw [map_cons, zip_cons_cons, all_cons, ih, Bool.and_true]
    change (decide (str reason = str reason) && sameDocument state.authority.json
      state.authority.json && nonemptyText (.str detectedBy)) = true
    rw [sameDocument_self, nonemptyText_str visible, decide_eq_true rfl]
    rfl

theorem then_ok {first next : Except PyError Unit} (passes : first = .ok ()) (later : next = .ok ()) :
    (first >>= fun _ => next) = .ok () := by
  rw [passes]
  exact later

theorem keys_obj (fields : List (String × Json)) : (obj fields).keys = fields.map Prod.fst := by
  induction fields with
  | nil => rfl
  | cons field rest ih =>
    change field.1 :: (obj rest).keys = _
    rw [ih]
    rfl

theorem hasExactly_obj {fields : List (String × Json)} {names : List String}
    (named : fields.map Prod.fst = names) : (obj fields).hasExactly names = true := by
  unfold Json.hasExactly
  rw [isObject_obj, keys_obj, named]
  simp

theorem phase_filled (phase : Phase) : phase.text ≠ "" := by
  cases phase <;> decide

/-- A receipt that was emitted for a state is the receipt of that state. -/
theorem validateReceipt_of (emitted : Emitted state.authority state receipt) (stateSha256 : Json) :
    validateReceipt ({ state with receipt }.withHash stateSha256) stateSha256 = .ok () := by
  obtain ⟨before, event, decision, detectedBy, named, decided, visible, rfl⟩ := emitted.made
  unfold validateReceipt State.withHash
  rw [set_obj (by simp [receiptBody])]
  refine then_ok (require_of ?_) (then_ok (require_of ?_) (then_ok (forM_eq_ok.mpr ?_)
    (then_ok (require_of ?_) (then_ok (forM_eq_ok.mpr ?_) (then_ok (require_of ?_)
    (then_ok (require_of ?_) (then_ok (require_of ?_) (then_ok (forM_eq_ok.mpr ?_)
    (then_ok (require_of ?_) (then_ok (require_of ?_) (require_of ?_)))))))))))
  · change ((obj _).isObject && (obj _).hasExactly receiptFields) = true
    rw [isObject_obj, Bool.true_and]
    exact hasExactly_obj rfl
  · simp only [Bool.and_eq_true, decide_eq_true_eq]
    exact ⟨⟨⟨rfl, rfl⟩, rfl⟩, rfl⟩
  · simp only [forall_mem_cons]
    exact ⟨requireText_of (phase_filled before), requireText_of (phase_filled state.phase),
      requireText_of named, requireText_of decided, nofun⟩
  · exact decide_eq_true rfl
  · simp only [forall_mem_cons]
    exact ⟨require_of (decide_eq_true rfl), require_of (decide_eq_true rfl),
      require_of (decide_eq_true rfl), require_of (decide_eq_true rfl), nofun⟩
  · exact sameDocument_self _
  · exact decide_eq_true rfl
  · exact sameDocument_self _
  · simp only [forall_mem_cons]
    exact ⟨require_of (sameDocument_self _), require_of (sameDocument_self _),
      require_of (sameDocument_self _), require_of (sameDocument_self _),
      require_of (sameDocument_self _), nofun⟩
  · exact sameDocument_self _
  · exact sameDocument_self _
  · exact reasonRecordsValid_of visible

theorem ensureNonemptyStr_of {path text : String} (filled : text ≠ "") :
    ensureNonemptyStr path (.str text) = .ok text := by
  change (if text = "" then _ else .ok text : Except PyError String) = _
  rw [if_neg filled]

theorem ensureStrItems_of {path : String} {texts : List String} (filled : ∀ text ∈ texts, text ≠ "")
    (index : Nat) : ensureStrItems path index (texts.map .str) = .ok texts := by
  induction texts generalizing index with
  | nil => rfl
  | cons text rest ih =>
    change (ensureNonemptyStr _ (.str text) >>= fun _ => ensureStrItems path _ _ >>= _) = _
    rw [ensureNonemptyStr_of (filled text mem_cons_self), ok_bind, ih (forall_mem_cons.mp filled).2]
    rfl

theorem Nonempty.filled {text : String} (visible : Nonempty text) : text ≠ "" := by
  rintro rfl
  obtain ⟨character, member, _⟩ := visible
  cases member

variable (sealable : Sealable fromIsoformat state)

include sealable

/-- The fields of a state before its receipt and its hash. -/
theorem Sealable.body (written : Written receipt) :
    Written (.obj (state.body receipt)) ∧ ∀ stateSha256, Written stateSha256 →
      Written (.obj (state.body receipt ++ [("state_sha256", stateSha256)])) := by
  have values : ∀ field ∈ state.body receipt, Written field.2 := by
    simp only [State.body, forall_mem_cons]
    exact ⟨.str _, .int (by decide), .str _, .str _, .str _, .str _, .str _, .str _, .str _, .str _,
      .provenance _, .bool _, .bool _, sealable.counters, sealable.allowance, .mutation _, .latches _,
      .mainThread _, .strings _, .arr sealable.approvals, .str _, sealable.snapshot, written, nofun⟩
  have distinct (stateSha256 : Json) :
      ((state.body receipt ++ [("state_sha256", stateSha256)]).map Prod.fst).Nodup := by
    change ["result_type", "version", "schema", "state", "work_unit_id", "bead_id", "packet_id",
      "requested_model", "objective", "security_context", "authority_provenance", "model_match",
      "control_healthy", "counters", "aggregate_allowance", "mutation", "terminal_latches",
      "main_thread", "reason_codes", "protected_change_authorizations", "next_action",
      "policy_snapshot", "cwo_native_replanning_receipt", "state_sha256"].Nodup
    decide
  constructor
  · have both := distinct .null
    rw [map_append, nodup_append] at both
    exact .obj both.1 values
  · intro stateSha256 hash
    apply Written.obj (distinct stateSha256)
    intro field member
    rcases mem_append.mp member with old | new
    · exact values field old
    · rw [mem_singleton] at new
      rw [new]
      exact hash

/-- A state with a receipt that was emitted for it is valid once the receipt carries its hash. -/
theorem validate_of
    (emitted : Emitted state.authority state receipt) {stateSha256 : Json} (hash : Written stateSha256)
    (named : ({ state with receipt }.withHash stateSha256).sha256 = .ok stateSha256) :
    validateReplanningState fromIsoformat ({ state with receipt }.withHash stateSha256) stateSha256 =
      .ok () := by
  have written := (emitted.fields sealable stateSha256 hash).2.1
  have document : canonicalJsonObject "replanning-state"
      (({ state with receipt }.withHash stateSha256).json stateSha256) = .ok _ :=
    ((sealable.body written).2 stateSha256 hash).canonicalJsonObject rfl "replanning-state"
  unfold validateReplanningState
  rw [document]
  rw [named]
  refine then_ok (require_of (decide_eq_true rfl)) (then_ok (forM_eq_ok.mpr ?_)
    (then_ok (require_of (decide_eq_true sealable.same)) ?_))
  · simp only [forall_mem_cons]
    exact ⟨requireText_of sealable.workUnitId, requireText_of sealable.beadId,
      requireText_of sealable.packetId, requireText_of sealable.requestedModel,
      requireText_of sealable.objective, requireText_of sealable.securityContext, nofun⟩
  · change (ensureStrItems _ 0 (state.reasonCodes.map .str) >>= _) = _
    rw [ensureStrItems_of (fun reason member => Nonempty.filled (emitted.reasons reason member))]
    change (ensureNonemptyStr _ (.str state.nextAction) >>= _) = _
    rw [ensureNonemptyStr_of sealable.nextAction, ok_bind]
    refine then_ok (require_of ?_) (then_ok sealable.authorizations ?_)
    · change (validateAuthorityProvenance state.authority).isEmpty = true
      rw [emitted.verified]
      rfl
    · exact validateReceipt_of emitted stateSha256

theorem mintSealed_of (emitted : Emitted state.authority state receipt) :
    ∃ sealed', mintSealedReplanningState fromIsoformat { state with receipt } = .ok sealed' := by
  have absent := (emitted.fields sealable .null ⟨⟨"", rfl⟩, rfl⟩).2.2
  have written := (emitted.fields sealable .null ⟨⟨"", rfl⟩, rfl⟩).1
  have subject : ({ state with receipt } : State).integritySubject = .obj (state.body receipt) := by
    unfold State.integritySubject
    rw [show ({ state with receipt } : State).receipt = receipt from rfl,
      Json.erase_of_absent absent]
    rfl
  have hashed : ({ state with receipt } : State).sha256 =
      .ok (.sha256 (obj (state.body receipt)).canonical) := by
    unfold State.sha256
    rw [subject, ((sealable.body written).1).canonicalJsonObject rfl, ok_bind,
      ((sealable.body written).1).canonicalAuthoritySha256]
  generalize hash : Json.sha256 (obj (state.body receipt)).canonical = stateSha256 at hashed
  have written' : Written stateSha256 := hash ▸ .sha256 _
  have again : ({ state with receipt }.withHash stateSha256 : State).sha256 = .ok stateSha256 := by
    have same : ({ state with receipt }.withHash stateSha256 : State).integritySubject =
        ({ state with receipt } : State).integritySubject := by
      have dictionary : receipt.isDict = true := by
        obtain ⟨_, _, _, _, _, _, _, rfl⟩ := emitted.made
        rfl
      change obj (state.body ((receipt.set "state_sha256" stateSha256).erase "state_sha256")) =
        .obj (state.body (receipt.erase "state_sha256"))
      rw [Json.erase_set dictionary]
    rw [← hashed]
    unfold State.sha256
    rw [same]
  have valid := validate_of sealable emitted written' again
  unfold mintSealedReplanningState
  rw [hashed, ok_bind]
  unfold sealValid
  split
  · exact ⟨_, rfl⟩
  · rename_i error invalid
    rw [valid] at invalid
    cases invalid

end WorkOrchestration.Native.Replanning
