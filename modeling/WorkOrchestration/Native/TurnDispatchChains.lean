import Mathlib.Algebra.Order.Ring.Int
import Mathlib.Data.List.Induction
import WorkOrchestration.Lib.Runs
import WorkOrchestration.Native.TransactionPlanFacts
import WorkOrchestration.Native.TurnDispatch

/-!
# Chains of turn dispatch records

What the validator makes sure of in one record, what a successor keeps of its
predecessor, and what follows for a chain of successors of any length.
-/

namespace WorkOrchestration.Native.TurnDispatch

open List Lib.Checks Lib.Results Lib.Runs Artifacts
open Artifacts.Json (equalsNat hashable isOneOf)
open OperatorApprovals (sortedTexts sortedTexts_isEmpty)
open TransactionPlans (dumpsError?)

theorem gather_eq_nil {checks : List (Except PyError (List String))} :
    gather checks = .ok [] ↔ ∀ check ∈ checks, check = .ok [] := by
  induction checks with
  | nil => simp [gather]
  | cons first rest ih =>
    rw [gather, bind_eq_ok, forall_mem_cons, ← ih]
    constructor
    · rintro ⟨errors, found, later⟩
      obtain ⟨others, rested, joined⟩ := bind_eq_ok.mp later
      obtain ⟨none, others_nil⟩ := append_eq_nil_iff.mp (pure_eq_ok.mp joined)
      exact ⟨none ▸ found, others_nil ▸ rested⟩
    · rintro ⟨found, rested⟩
      exact ⟨[], found, bind_eq_ok.mpr ⟨[], rested, rfl⟩⟩

theorem finding_eq_nil {broken : Except PyError Bool} {error : String} :
    finding broken error = .ok [] ↔ broken = .ok false := by
  rw [finding, bind_eq_ok]
  constructor
  · rintro ⟨found, returned, rejected⟩
    have none := reject_eq_nil.mp (pure_eq_ok.mp rejected)
    rw [Bool.not_eq_true] at none
    exact none ▸ returned
  · intro returned
    exact ⟨false, returned, rfl⟩

/-- No attempt to write has been made, so one may be. -/
def PermitsAttempt (record : Json) : Prop :=
  (record.value "wire_write_attempt_count").equalsNat 0 = true

/-- An attempt to write has been made. -/
def Attempted (record : Json) : Prop := (record.value "wire_write_attempt_count").equalsNat 1 = true

/-- What a valid record says about the attempts to write. -/
structure Staged (record : Json) : Prop where
  status : ∃ status ∈ turnDispatchStatuses, record.value "status" = .str status
  attempts : PermitsAttempt record ∨ Attempted record
  prepared : PermitsAttempt record ↔ record.value "status" = .str "prepared"
  blank : PermitsAttempt record → isBlank record 0 = true

theorem equalsNat_unique {value : Json} {first second : Nat} (left : value.equalsNat first = true)
    (right : value.equalsNat second = true) : first = second := by
  cases value with
  | bool | int =>
    simp only [equalsNat, beq_iff_eq] at left right
    omega
  | ratio numerator denominator =>
    simp only [equalsNat, Bool.and_eq_true, bne_iff_ne, beq_iff_eq] at left right
    have equal : (first : Int) * denominator = second * denominator := left.2.symm.trans right.2
    have nonzero : (denominator : Int) ≠ 0 := by exact_mod_cast left.1
    exact_mod_cast mul_right_cancel₀ nonzero equal
  | _ => cases left

variable {record : Json}

theorem Attempted.not_permits (attempted : Attempted record) :
    ¬ PermitsAttempt record := fun permits => absurd (equalsNat_unique attempted permits) (by decide)

theorem isOutside_eq_false {texts : List String} {value : Json} :
    isOutside texts value = .ok false ↔ ∃ text ∈ texts, value = .str text := by
  rw [isOutside, bind_eq_ok]
  constructor
  · rintro ⟨done, _, inside⟩
    have member : isOneOf texts value = true := by
      have outside := pure_eq_ok.mp inside
      simpa using outside
    cases value with
    | str text => exact ⟨text, by simpa [isOneOf] using member, rfl⟩
    | _ => cases member
  · rintro ⟨text, member, rfl⟩
    exact ⟨(), rfl, by simp [isOneOf, member, pure, Except.pure]⟩

theorem validate_eq_nil (valid : validateTurnDispatchRecord record = .ok []) :
    contentFindings record = .ok [] ∧ digestFindings record = .ok [] := by
  unfold validateTurnDispatchRecord at valid
  split at valid
  · dsimp only at valid
    split at valid
    · have both := gather_eq_nil.mp valid
      exact ⟨both _ (by simp), both _ (by simp)⟩
    · rename_i incomplete
      have none := append_eq_nil_iff.mp (Except.ok.inj valid)
      rw [Bool.and_eq_true, not_and_or] at incomplete
      rcases incomplete with missing | unknown
      · have shown := none.1
        rw [if_neg missing] at shown
        cases shown
      · have shown := none.2
        rw [if_neg unknown] at shown
        cases shown
  · cases valid

theorem status_rules (clean : statusFindings record = .ok []) :
    (record.value "status" = .str "prepared" → isBlank record 0 = true) ∧
      (record.value "status" = .str "dispatching" → isBlank record 1 = true) ∧
      (record.value "status" = .str "acknowledged" → isAcknowledged record = true) ∧
      (isOneOf ["failed-contained", "failed-ambiguous"] (record.value "status") = true →
        Attempted record) := by
  simp only [statusFindings, gather_eq_nil, forall_mem_cons, Except.ok.injEq, reject_eq_nil,
    not_and, not_or, Bool.not_eq_false] at clean
  obtain ⟨prepared, dispatching, acknowledged, failed, _⟩ := clean
  exact ⟨prepared, dispatching, acknowledged, fun other => (failed other).1⟩

theorem attempts_of_isBlank {attempts : Nat} (blank : isBlank record attempts = true) :
    (record.value "wire_write_attempt_count").equalsNat attempts = true := by
  simp only [isBlank, Bool.and_eq_true] at blank
  exact blank.1.1.1

theorem attempted_of_isAcknowledged (acknowledged : isAcknowledged record = true) :
    Attempted record := by
  simp only [isAcknowledged, Bool.and_eq_true] at acknowledged
  exact acknowledged.1.1.1.1.1.1.1.1.1.1

theorem attempted_of_status (clean : statusFindings record = .ok []) {status : String}
    (named : record.value "status" = .str status) (member : status ∈ turnDispatchStatuses)
    (apart : status ≠ "prepared") : Attempted record := by
  obtain ⟨_, dispatching, acknowledged, failed⟩ := status_rules clean
  simp only [turnDispatchStatuses, mem_cons, not_mem_nil, or_false] at member
  rcases member with rfl | rfl | rfl | rfl | rfl
  · exact absurd rfl apart
  · exact attempts_of_isBlank (dispatching named)
  · exact attempted_of_isAcknowledged (acknowledged named)
  · exact failed (by rw [named]; rfl)
  · exact failed (by rw [named]; rfl)

theorem staged_of_valid (valid : validateTurnDispatchRecord record = .ok []) :
    Staged record := by
  have content := gather_eq_nil.mp (validate_eq_nil valid).1
  simp only [forall_mem_cons] at content
  obtain ⟨_, _, counted, progress, clean, _⟩ := content
  have attempts : PermitsAttempt record ∨ Attempted record := by
    obtain ⟨_, _, rejected⟩ := bind_eq_ok.mp counted
    have known := reject_eq_nil.mp (pure_eq_ok.mp rejected)
    rw [not_and_or, Bool.not_eq_false, Bool.not_eq_false] at known
    exact known
  have status : ∃ status ∈ turnDispatchStatuses, record.value "status" = .str status := by
    have first := gather_eq_nil.mp progress _ mem_cons_self
    exact isOutside_eq_false.mp (finding_eq_nil.mp first)
  have blank := (status_rules clean).1
  have stage : PermitsAttempt record ↔ record.value "status" = .str "prepared" := by
    refine ⟨fun free => ?_, fun named => attempts_of_isBlank (blank named)⟩
    obtain ⟨status, member, named⟩ := status
    by_cases same : status = "prepared"
    · exact same ▸ named
    · exact absurd free (attempted_of_status clean named member same).not_permits
  exact ⟨status, attempts, stage, fun free => blank (stage.mp free)⟩

/-- The value that the last of the updates of a field gives it. -/
def requested (key : String) (updates : List (String × Json)) : Option Json :=
  updates.foldl (fun found update => if update.1 = key then some update.2 else found) none

theorem get?_applied (key : String) (record : Json) (updates : List (String × Json)) :
    (applied record updates).get? key = (requested key updates).or (record.get? key) := by
  unfold applied requested
  induction updates using List.reverseRecOn with
  | nil => rfl
  | append_singleton earlier last ih =>
    rw [foldl_append, foldl_append, foldl_cons, foldl_nil, foldl_cons, foldl_nil, Json.get?_set, ih]
    split <;> rfl

variable {updates : List (String × Json)}

theorem requested_eq_none {key : String} (absent : key ∉ updates.map (·.1)) :
    requested key updates = none := by
  unfold requested
  induction updates using List.reverseRecOn with
  | nil => rfl
  | append_singleton earlier last ih =>
    rw [map_append, mem_append, not_or, map_singleton, mem_singleton] at absent
    rw [foldl_append, foldl_cons, foldl_nil, if_neg (Ne.symm absent.2), ih absent.1]

/-- The caller asks for the first status and for no attempt. -/
def ResetRequested (updates : List (String × Json)) : Prop :=
  requested "status" updates = some (.str "prepared") ∧
    ∃ count, requested "wire_write_attempt_count" updates = some count ∧ count.equalsNat 0 = true

structure Successor (record : Json) (updates : List (String × Json)) (next : Json) : Prop where
  staged : Staged record
  sound : validateTurnDispatchRecord next = .ok []
  identities : ∀ key ∈ reservedIdentities, next.value key = record.value key
  others : ∀ key, key ≠ "record_sha256" →
    next.value key = (requested key updates).getD (record.value key)

theorem requireValid_eq_ok {done : Unit} :
    requireValid record = .ok done ↔ validateTurnDispatchRecord record = .ok [] := by
  rw [requireValid, bind_eq_ok]
  constructor
  · rintro ⟨errors, found, passed⟩
    cases errors with
    | nil => exact found
    | cons error rest => cases passed
  · intro valid
    exact ⟨[], valid, rfl⟩

theorem seal_eq_ok {document : Json} : sealTurnDispatchRecord document = .ok record ↔
      ∃ digest, recordSha256 document = .ok digest ∧ record = document.set "record_sha256" digest ∧
        validateTurnDispatchRecord record = .ok [] := by
  rw [sealTurnDispatchRecord, bind_eq_ok]
  constructor
  · rintro ⟨digest, written, passed⟩
    obtain ⟨_, valid, same⟩ := bind_eq_ok.mp passed
    cases pure_eq_ok.mp same
    exact ⟨digest, written, rfl, requireValid_eq_ok.mp valid⟩
  · rintro ⟨digest, written, rfl, valid⟩
    exact ⟨digest, written, bind_eq_ok.mpr ⟨(), requireValid_eq_ok.mpr valid, rfl⟩⟩

theorem successor_of_evolve {next : Json}
    (evolved : evolveTurnDispatchRecord record updates = .ok next) :
    Successor record updates next := by
  unfold evolveTurnDispatchRecord at evolved
  split at evolved
  · cases evolved
  · obtain ⟨_, passed, evolved⟩ := bind_eq_ok.mp evolved
    dsimp only at evolved
    split at evolved
    · rename_i unchanged
      obtain ⟨digest, _, rfl, valid⟩ := seal_eq_ok.mp evolved
      have others : ∀ key, key ≠ "record_sha256" →
          ((applied record updates).set "record_sha256" digest).value key =
            (requested key updates).getD (record.value key) := by
        intro key apart
        rw [Json.value_set_of_ne (Ne.symm apart), Json.value, get?_applied]
        cases requested key updates with
        | none | some => rfl
      refine ⟨staged_of_valid (requireValid_eq_ok.mp passed), valid, ?_, others⟩
      intro key reserved
      have untouched := List.filter_eq_nil_iff.mp (List.isEmpty_iff.mp unchanged) key
        (mem_append_left _ reserved)
      rw [contains_iff_mem] at untouched
      have apart : key ≠ "record_sha256" := by
        rintro rfl
        exact absurd reserved (by decide)
      rw [others key apart, requested_eq_none untouched]
      rfl
    · cases evolved

/-- A further attempt is permitted only to a caller that asks for it. -/
theorem Successor.resetRequested {next : Json} (successor : Successor record updates next)
    (attempted : Attempted record) (permits : PermitsAttempt next) : ResetRequested updates := by
  have begun : record.value "status" ≠ .str "prepared" := fun named =>
    attempted.not_permits (successor.staged.prepared.mpr named)
  have named := (staged_of_valid successor.sound).prepared.mp permits
  have status := successor.others "status" (by decide)
  have count := successor.others "wire_write_attempt_count" (by decide)
  constructor
  · cases asked : requested "status" updates with
    | none =>
      rw [asked] at status
      exact absurd (status.symm.trans named) begun
    | some value =>
      rw [asked] at status
      exact congrArg some (status.symm.trans named)
  · cases asked : requested "wire_write_attempt_count" updates with
    | none =>
      rw [asked] at count
      rw [PermitsAttempt, count] at permits
      exact absurd permits attempted.not_permits
    | some value =>
      rw [asked] at count
      rw [PermitsAttempt, count] at permits
      exact ⟨value, rfl, permits⟩

/-- A call of `evolve_turn_dispatch_record` that returned. -/
structure Evolution where
  record : Json
  updates : List (String × Json)
  next : Json
  evolved : evolveTurnDispatchRecord record updates = .ok next

theorem Evolution.successor (step : Evolution) : Successor step.record step.updates step.next :=
  successor_of_evolve step.evolved

theorem Evolution.attempted (step : Evolution) (unasked : ¬ ResetRequested step.updates)
    (before : Attempted step.record) : Attempted step.next := by
  rcases (staged_of_valid step.successor.sound).attempts with permits | after
  · exact absurd (step.successor.resetRequested before permits) unasked
  · exact after

variable {first : Json}

theorem linked_after {before after : List Evolution} {step : Evolution}
    (linked : Linked Evolution.record Evolution.next first (before ++ step :: after)) :
    Linked Evolution.record Evolution.next step.next after := by
  induction before generalizing first with
  | nil => exact linked.2
  | cons earlier rest ih => exact ih linked.2

theorem identities_kept {steps : List Evolution}
    (linked : Linked Evolution.record Evolution.next first steps) :
    ∀ step ∈ steps, ∀ key ∈ reservedIdentities, step.next.value key = first.value key := by
  have kept := @Linked.invariant _ _ _ _ _ _
    (fun record : Json => ∀ key ∈ reservedIdentities, record.value key = first.value key) linked
    (fun step _ before key reserved =>
      (step.successor.identities key reserved).trans (before key reserved))
    (fun _ _ => rfl)
  intro step member
  exact (kept step member).2

theorem attempted_kept {steps : List Evolution}
    (linked : Linked Evolution.record Evolution.next first steps) (attempted : Attempted first)
    (unasked : ∀ step ∈ steps, ¬ ResetRequested step.updates) :
    ∀ step ∈ steps, Attempted step.next := by
  intro step member
  exact (linked.invariant (fun other found => other.attempted (unasked other found)) attempted
    step member).2

/-- What holds along a chain of records. -/
structure Evolves (first : Json) (steps : List Evolution) : Prop where
  /-- What has been reserved never changes. -/
  identities : ∀ step ∈ steps, ∀ key ∈ reservedIdentities, step.next.value key = first.value key
  /-- Every record passes the validator. -/
  valid : validateTurnDispatchRecord first = .ok [] ∧
    ∀ step ∈ steps, validateTurnDispatchRecord step.next = .ok []
  /-- There is at most one attempt, and none exactly as long as the record is prepared. -/
  staged : Staged first ∧ ∀ step ∈ steps, Staged step.next
  /-- Status and attempts are what the caller asks for, or what they were. -/
  asked : ∀ step ∈ steps, ∀ key ∈ ["status", "wire_write_attempt_count"],
    step.next.value key = (requested key step.updates).getD (step.record.value key)
  /-- Only a caller that asks for it gets back from an attempt to a record without one. -/
  reset : ∀ step ∈ steps, Attempted step.record → PermitsAttempt step.next →
    ResetRequested step.updates
  /-- After an attempt no other is permitted, as long as no caller asks for one. -/
  final : ∀ before step after, steps = before ++ step :: after → Attempted step.next →
    (∀ later ∈ after, ¬ ResetRequested later.updates) → ∀ later ∈ after, Attempted later.next

theorem records_evolve (reservation : TurnDispatchReservation) {first : Json}
    (built : reservation.preparedRecord = .ok first) {steps : List Evolution}
    (linked : Linked Evolution.record Evolution.next first steps) : Evolves first steps := by
  obtain ⟨_, _, _, valid⟩ := seal_eq_ok.mp built
  refine ⟨identities_kept linked, ⟨valid, fun step _ => step.successor.sound⟩,
    ⟨staged_of_valid valid, ?_⟩, ?_, ?_, ?_⟩
  · intro step _
    exact staged_of_valid step.successor.sound
  · intro step _ key member
    refine step.successor.others key ?_
    rintro rfl
    exact absurd member (by decide)
  · intro step _ attempted permits
    exact step.successor.resetRequested attempted permits
  · rintro before step after rfl attempted unasked
    exact attempted_kept (linked_after linked) attempted unasked

/-- The digest of a document that is known to be written. -/
def digestOf (document : Json) : Json :=
  .sha256 (.arr [.bytes "cwo-native-turn-dispatch-record", (document.erase "record_sha256").canonical])

/-- The document under its digest. -/
def signed (document : Json) : Json := document.set "record_sha256" (digestOf document)

/-- A document without findings of its own is sealed under its digest. -/
theorem seal_of_content {document : Json} (dictionary : document.isDict = true)
    (written : dumpsError? (document.erase "record_sha256") = none)
    (keys : (signed document).keys = turnDispatchFields)
    (content : contentFindings (signed document) = .ok []) :
    sealTurnDispatchRecord document = .ok (signed document) := by
  have digest : recordSha256 document = .ok (digestOf document) := by
    rw [recordSha256, written]
    rfl
  refine seal_eq_ok.mpr ⟨digestOf document, digest, rfl, ?_⟩
  have resealed : recordSha256 (signed document) = .ok (digestOf document) := by
    rw [recordSha256, signed, Json.erase_set dictionary]
    exact digest
  have same : digestFindings (signed document) = .ok [] := by
    rw [digestFindings, resealed, ok_bind, pure_eq_ok, reject_eq_nil, signed, Json.value,
      Json.get?_set, if_pos rfl]
    exact not_not.mpr rfl
  unfold validateTurnDispatchRecord
  have object : (signed document).isObject = true := Json.isObject_set _ _ _
  rw [if_pos object, keys]
  have none : turnDispatchFields.filter (fun key => !turnDispatchFields.contains key) = [] := by
    decide
  have complete : ((sortedTexts []).isEmpty && (sortedTexts []).isEmpty) = true := by
    rw [Bool.and_self, sortedTexts_isEmpty]
  rw [none, if_pos complete, gather_eq_nil]
  intro check member
  simp only [mem_cons, not_mem_nil, or_false] at member
  rcases member with rfl | rfl
  · exact content
  · exact same

def sampleReservation : TurnDispatchReservation where
  threadId := .str "thread"
  turnIntentId := .str "00000000-0000-4000-8000-000000000001"
  requestId := .int 1
  connectionEpochSha256 := .sha256 (.str "epoch")
  notificationCursor := .int 0
  preexistingTurnIds := []
  ledgerId := .null
  ledgerHeadEntrySha256 := .null
  turnIntentEntrySha256 := .null
  wireRequestSha256 := .sha256 (.str "request")

def dispatchUpdates : List (String × Json) :=
  [("status", .str "dispatching"), ("wire_write_attempt_count", .int 1)]

def resetUpdates : List (String × Json) :=
  [("status", .str "prepared"), ("wire_write_attempt_count", .int 0)]

def samplePrepared : Json := signed sampleReservation.document

def sampleDispatching : Json := signed (applied samplePrepared dispatchUpdates)

def sampleReset : Json := signed (applied sampleDispatching resetUpdates)

theorem samplePrepared_built : sampleReservation.preparedRecord = .ok samplePrepared :=
  seal_of_content rfl (by decide +kernel) rfl (by decide +kernel)

theorem evolve_of_content (valid : validateTurnDispatchRecord record = .ok [])
    (allowed : ∀ key ∈ "record" :: "record_sha256" :: reservedIdentities, key ∉ updates.map (·.1))
    (sealed : sealTurnDispatchRecord (applied record updates) = .ok (signed (applied record updates))) :
    evolveTurnDispatchRecord record updates = .ok (signed (applied record updates)) := by
  have named : ¬ ((updates.map (·.1)).contains "record" = true) := by
    rw [contains_iff_mem]
    exact allowed _ mem_cons_self
  have unchanged : ((reservedIdentities ++ ["record_sha256"]).filter
      ((updates.map (·.1)).contains ·)).isEmpty = true := by
    rw [List.isEmpty_iff, List.filter_eq_nil_iff]
    intro key member
    rw [contains_iff_mem]
    refine allowed key (mem_cons_of_mem _ ?_)
    rw [mem_append, mem_singleton] at member
    exact mem_cons.mpr member.symm
  unfold evolveTurnDispatchRecord
  rw [if_neg named]
  refine bind_eq_ok.mpr ⟨(), requireValid_eq_ok.mpr valid, ?_⟩
  rw [if_pos unchanged]
  exact sealed

theorem sampleDispatching_evolved :
    evolveTurnDispatchRecord samplePrepared dispatchUpdates = .ok sampleDispatching :=
  evolve_of_content (seal_eq_ok.mp samplePrepared_built).choose_spec.2.2 (by decide)
    (seal_of_content rfl (by decide +kernel) rfl (by decide +kernel))

theorem sampleReset_evolved :
    evolveTurnDispatchRecord sampleDispatching resetUpdates = .ok sampleReset :=
  evolve_of_content (successor_of_evolve sampleDispatching_evolved).sound (by decide)
    (seal_of_content rfl (by decide +kernel) rfl (by decide +kernel))

def sampleRedispatched : Json := signed (applied sampleReset dispatchUpdates)

theorem sampleRedispatched_evolved :
    evolveTurnDispatchRecord sampleReset dispatchUpdates = .ok sampleRedispatched :=
  evolve_of_content (successor_of_evolve sampleReset_evolved).sound (by decide)
    (seal_of_content rfl (by decide +kernel) rfl (by decide +kernel))

/-- A record that says a write was attempted has a successor that permits another attempt. -/
theorem dispatching_set_back : sampleReservation.preparedRecord = .ok samplePrepared ∧
      evolveTurnDispatchRecord samplePrepared dispatchUpdates = .ok sampleDispatching ∧
      evolveTurnDispatchRecord sampleDispatching resetUpdates = .ok sampleReset ∧
      sampleDispatching.value "status" = .str "dispatching" ∧
      sampleReset.value "status" = .str "prepared" ∧
      Attempted sampleDispatching ∧ PermitsAttempt sampleReset :=
  ⟨samplePrepared_built, sampleDispatching_evolved, sampleReset_evolved, rfl, rfl, rfl, rfl⟩

theorem records_evolve_sample :
    Evolves samplePrepared
      [⟨samplePrepared, dispatchUpdates, sampleDispatching, sampleDispatching_evolved⟩,
        ⟨sampleDispatching, resetUpdates, sampleReset, sampleReset_evolved⟩,
        ⟨sampleReset, dispatchUpdates, sampleRedispatched, sampleRedispatched_evolved⟩] :=
  records_evolve sampleReservation samplePrepared_built ⟨rfl, rfl, rfl, trivial⟩

end WorkOrchestration.Native.TurnDispatch
