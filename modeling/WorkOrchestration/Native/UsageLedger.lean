import WorkOrchestration.Lib.Programs
import WorkOrchestration.Lib.Runs
import WorkOrchestration.Native.Accounting
import WorkOrchestration.Native.Documents

/-!
# The usage ledger

The ledger as its callers see it: it is given documents, returns what an observation added, and
accepts each observation once.
-/

namespace WorkOrchestration.Native.UsageLedger

open List Lib.Programs Lib.Runs Artifacts
open Artifacts.Json (hashable)
open Accounting hiding Ledger
open Triple (ofExcept of_state)

/-- The counters of `usage_delta` in the order of its checks. -/
def tokenChecks (before after : TokenCounters) : List (String × Nat × Nat) :=
  [("input", before.input, after.input), ("cached-input", before.cachedInput, after.cachedInput),
    ("output", before.output, after.output), ("reasoning", before.reasoning, after.reasoning),
    ("total", before.total, after.total)]

def numericChecks (before after : Usage) : List (String × Nat × Nat) :=
  [("tool-calls", before.toolCalls, after.toolCalls),
    ("runtime-seconds", before.runtimeSeconds, after.runtimeSeconds),
    ("compactions", before.compactions, after.compactions),
    ("full-suite-runs", before.fullSuiteRuns, after.fullSuiteRuns),
    ("mutations", before.mutations, after.mutations)]

theorem firstReset_eq_none {fields : List (String × Nat × Nat)} (kept : firstReset fields = none) :
    ∀ entry ∈ fields, entry.2.1 ≤ entry.2.2 := by
  intro entry member
  have none' := find?_eq_none.mp (Option.map_eq_none_iff.mp kept) entry member
  exact Nat.not_lt.mp fun gone => none' (decide_eq_true gone)

/-- No token counter has gone back. -/
structure Advances (before after : TokenCounters) : Prop where
  input : before.input ≤ after.input
  cachedInput : before.cachedInput ≤ after.cachedInput
  output : before.output ≤ after.output
  reasoning : before.reasoning ≤ after.reasoning
  total : before.total ≤ after.total

theorem advances_of_checked {before after : TokenCounters}
    (kept : firstReset (tokenChecks before after) = none) : Advances before after := by
  have checked := firstReset_eq_none kept
  simp only [tokenChecks, forall_mem_cons] at checked
  exact ⟨checked.1, checked.2.1, checked.2.2.1, checked.2.2.2.1, checked.2.2.2.2.1⟩

/-- What was added to counters that have not gone back. -/
def difference (before after : TokenCounters) (advances : Advances before after) : TokenCounters where
  input := after.input - before.input
  cachedInput := after.cachedInput - before.cachedInput
  output := after.output - before.output
  reasoning := after.reasoning - before.reasoning
  total := after.total - before.total
  reconciled := by
    have first := before.reconciled
    have second := after.reconciled
    obtain ⟨input, cachedInput, output, reasoning, total⟩ := advances
    omega

/-- The token part of `usage_delta` where tokens are counted. -/
def counterDelta (before after : TokenCounters) : Except PyError TokenCounters :=
  let reset := firstReset (tokenChecks before after)
  if kept : reset = none then .ok (difference before after (advances_of_checked kept))
  else .error (accountingError ("cumulative-token-" ++ reset.getD "" ++ "-reset"))

/-- The token part of `usage_delta`. -/
def tokenDelta : TokenUsage → TokenUsage → Except PyError TokenUsage
  | .available before, .available after => (counterDelta before after).map .available
  | .unavailable _, .unavailable _ => .ok zeroTokenUsage
  | _, _ => .error (accountingError "token-availability-changed")

/-- The numeric part of `usage_delta`. -/
def numericDelta (before after : Usage) : Except PyError Unit :=
  match firstReset (numericChecks before after) with
  | some field => .error (accountingError ("cumulative-" ++ field ++ "-reset"))
  | none => .ok ()

/-- `usage_delta` of totals that have been read. -/
def usageDelta (before after : Usage) : Except PyError Usage := do
  numericDelta before after
  let tokens ← tokenDelta before.tokens after.tokens
  return {
    toolCalls := after.toolCalls - before.toolCalls
    runtimeSeconds := after.runtimeSeconds - before.runtimeSeconds
    compactions := after.compactions - before.compactions
    fullSuiteRuns := after.fullSuiteRuns - before.fullSuiteRuns
    mutations := after.mutations - before.mutations
    tokens }

/-- `AggregateUsageLedger`. -/
structure Ledger where
  childIds : List Json
  latest : Json → Usage
  lastStateHash : Json → Option Digest
  seen : List (Json × Digest × Nat)

/-- `isinstance(child_id, str) and child_id`. -/
def isChildId : Json → Bool
  | .str text => text ≠ ""
  | .sha256 _ => true
  | _ => false

def require (condition : Bool) (message : String) : Except PyError Unit :=
  if condition then .ok () else .error (accountingError message)

/-- `initial_usage or zero_usage()`. -/
def baseline (initialUsage : Json) : Except PyError Usage :=
  normalizeUsage (if initialUsage.truthy then initialUsage else zeroUsage.json)

/-- `AggregateUsageLedger.__init__`. -/
def create (childIds : List Json) (initialUsage : Json) : Except PyError Ledger := do
  require (!childIds.isEmpty && childIds.all isChildId) "child-ids-invalid"
  require childIds.Nodup "duplicate-child-id"
  let usage ← baseline initialUsage
  return ⟨childIds, fun _ => usage, fun _ => none, []⟩

def Ledger.aggregate (ledger : Ledger) : Usage := sumCumulativeUsage (ledger.childIds.map ledger.latest)

/-- `UsageObservation`. -/
structure Observation where
  childId : Json
  childStateSha256 : Digest
  decisionSequence : Nat
  delta : Usage
  aggregate : Usage

def requireSha256 (value : Json) (field : String) : Except PyError Digest :=
  match Digest.ofJson? value with
  | some digest => .ok digest
  | none => .error (accountingError (field ++ "-must-be-lowercase-sha256"))

/-- The arguments of `observe`. -/
structure Submission where
  childId : Json
  childStateSha256 : Json
  decisionSequence : Json
  cumulativeUsage : Json

def observe (submission : Submission) : EStateM PyError Ledger Observation := do
  let ledger ← get
  ofExcept (hashable submission.childId)
  ofExcept (require (submission.childId ∈ ledger.childIds) "unknown-child-id")
  let stateHash ← ofExcept (requireSha256 submission.childStateSha256 "child-state-sha256")
  let sequence ← ofExcept (nonnegativeInt (some submission.decisionSequence) "decision-sequence")
  ofExcept (require ((submission.childId, stateHash, sequence) ∉ ledger.seen) "usage-observation-replay")
  let current ← ofExcept (normalizeUsage submission.cumulativeUsage)
  let delta ← ofExcept (usageDelta (ledger.latest submission.childId) current)
  modify fun ledger => { ledger with latest := Function.update ledger.latest submission.childId current }
  modify fun ledger =>
    { ledger with lastStateHash := Function.update ledger.lastStateHash submission.childId (some stateHash) }
  modify fun ledger => { ledger with seen := (submission.childId, stateHash, sequence) :: ledger.seen }
  let after ← get
  return ⟨submission.childId, stateHash, sequence, delta, after.aggregate⟩

def isAvailable : TokenUsage → Bool
  | .available _ => true
  | .unavailable _ => false

/-- A token counter; counters that are withheld count for nothing. -/
def tokenCount (field : TokenCounters → Nat) : TokenUsage → Nat
  | .available counters => field counters
  | .unavailable _ => 0

/-- `NUMERIC_USAGE_FIELDS` and `TOKEN_COUNTER_FIELDS`. -/
inductive Counter where
  | toolCalls
  | runtimeSeconds
  | compactions
  | fullSuiteRuns
  | mutations
  | input
  | cachedInput
  | output
  | reasoning
  | total

def Counter.read : Counter → Usage → Nat
  | toolCalls, usage => usage.toolCalls
  | runtimeSeconds, usage => usage.runtimeSeconds
  | compactions, usage => usage.compactions
  | fullSuiteRuns, usage => usage.fullSuiteRuns
  | mutations, usage => usage.mutations
  | input, usage => tokenCount TokenCounters.input usage.tokens
  | cachedInput, usage => tokenCount TokenCounters.cachedInput usage.tokens
  | output, usage => tokenCount TokenCounters.output usage.tokens
  | reasoning, usage => tokenCount TokenCounters.reasoning usage.tokens
  | total, usage => tokenCount TokenCounters.total usage.tokens

section

variable {before after delta : Usage} {usages : List Usage}

/-- One token counter of a difference. -/
theorem tokenDelta_ok {before after tokens : TokenUsage} (computed : tokenDelta before after = .ok tokens) :
    isAvailable after = isAvailable before ∧
      ∀ field ∈ [TokenCounters.input, TokenCounters.cachedInput, TokenCounters.output,
        TokenCounters.reasoning, TokenCounters.total],
        tokenCount field before + tokenCount field tokens = tokenCount field after := by
  cases before with
  | available before =>
    cases after with
    | available after =>
      change Except.map _ (counterDelta before after) = _ at computed
      unfold counterDelta at computed
      by_cases kept : firstReset (tokenChecks before after) = none
      · rw [dif_pos kept] at computed
        cases computed
        obtain ⟨input, cachedInput, output, reasoning, total⟩ := advances_of_checked kept
        simp only [forall_mem_cons]
        exact ⟨rfl, Nat.add_sub_cancel' input, Nat.add_sub_cancel' cachedInput,
          Nat.add_sub_cancel' output, Nat.add_sub_cancel' reasoning, Nat.add_sub_cancel' total, nofun⟩
      · rw [dif_neg kept] at computed
        cases computed
    | unavailable reason => cases computed
  | unavailable reason =>
    cases after with
    | available after => cases computed
    | unavailable later =>
      cases computed
      exact ⟨rfl, fun field _ => rfl⟩

/-- A difference says of every counter what was added to it. -/
theorem usageDelta_ok (computed : usageDelta before after = .ok delta) :
    isAvailable after.tokens = isAvailable before.tokens ∧
      ∀ counter : Counter, counter.read before + counter.read delta = counter.read after := by
  obtain ⟨_, numeric, computed⟩ := bind_ok computed
  obtain ⟨tokens, counted, computed⟩ := bind_ok computed
  cases computed
  obtain ⟨available, each⟩ := tokenDelta_ok counted
  unfold numericDelta at numeric
  split at numeric
  · cases numeric
  · rename_i kept
    have checked := firstReset_eq_none kept
    simp only [numericChecks, forall_mem_cons] at checked
    simp only [forall_mem_cons] at each
    refine ⟨available, fun counter => ?_⟩
    cases counter with
    | toolCalls => exact Nat.add_sub_cancel' checked.1
    | runtimeSeconds => exact Nat.add_sub_cancel' checked.2.1
    | compactions => exact Nat.add_sub_cancel' checked.2.2.1
    | fullSuiteRuns => exact Nat.add_sub_cancel' checked.2.2.2.1
    | mutations => exact Nat.add_sub_cancel' checked.2.2.2.2.1
    | input => exact each.1
    | cachedInput => exact each.2.1
    | output => exact each.2.2.1
    | reasoning => exact each.2.2.2.1
    | total => exact each.2.2.2.2.1

theorem availableCounters_of {tokens : List TokenUsage} (all : ∀ usage ∈ tokens, isAvailable usage = true) :
    ∃ counters, availableCounters tokens = some counters ∧
      ∀ field : TokenCounters → Nat, counters.map field = tokens.map (tokenCount field) := by
  induction tokens with
  | nil => exact ⟨[], rfl, fun _ => rfl⟩
  | cons usage rest ih =>
    obtain ⟨others, found, counted⟩ := ih (forall_mem_cons.mp all).2
    cases usage with
    | available counters =>
      refine ⟨counters :: others, ?_, fun field => ?_⟩
      · unfold availableCounters
        rw [found]
        rfl
      · rw [map_cons, counted]
        rfl
    | unavailable reason => cases all (.unavailable reason) mem_cons_self

variable {field : TokenCounters → Nat}

theorem foldr_add (zero : field .zero = 0)
    (add : ∀ left right, field (left.add right) = field left + field right) (counters : List TokenCounters) :
    field (counters.foldr TokenCounters.add .zero) = (counters.map field).sum := by
  induction counters with
  | nil => exact zero
  | cons first rest ih =>
    rw [foldr_cons, add, ih, map_cons, sum_cons]

theorem availableCounters_none {tokens : List TokenUsage} (nonempty : tokens ≠ [])
    (none' : ∀ usage ∈ tokens, isAvailable usage = false) : availableCounters tokens = none := by
  cases tokens with
  | nil => exact absurd rfl nonempty
  | cons usage rest =>
    cases usage with
    | available counters => cases none' (.available counters) mem_cons_self
    | unavailable reason => rfl

theorem sum_tokenCount_unavailable (none' : ∀ usage ∈ usages, isAvailable usage.tokens = false) :
    ((usages.map Usage.tokens).map (tokenCount field)).sum = 0 := by
  induction usages with
  | nil => rfl
  | cons usage rest ih =>
    have here := none' usage mem_cons_self
    rw [map_cons, map_cons, sum_cons, ih (forall_mem_cons.mp none').2]
    cases tokens : usage.tokens with
    | available counters =>
      rw [tokens] at here
      cases here
    | unavailable reason => rfl

theorem tokenCount_sum (zero : field .zero = 0)
    (add : ∀ left right, field (left.add right) = field left + field right) {available : Bool}
    (same : ∀ usage ∈ usages, isAvailable usage.tokens = available) :
    tokenCount field (sumCumulativeUsage usages).tokens =
      ((usages.map Usage.tokens).map (tokenCount field)).sum := by
  unfold sumCumulativeUsage
  by_cases empty : usages = []
  · rw [empty]
    rfl
  · rw [if_neg empty]
    cases available with
    | true =>
      obtain ⟨counters, found, counted⟩ := @availableCounters_of (usages.map Usage.tokens)
        (fun tokens member => by
          obtain ⟨usage, among, rfl⟩ := mem_map.mp member
          exact same usage among)
      unfold usageSum
      rw [found, ← counted]
      exact foldr_add zero add counters
    | false =>
      have missing := @availableCounters_none (usages.map Usage.tokens)
        (fun none' => empty (map_eq_nil_iff.mp none'))
        (fun tokens member => by
          obtain ⟨usage, among, rfl⟩ := mem_map.mp member
          exact same usage among)
      unfold usageSum
      rw [missing, sum_tokenCount_unavailable same]
      rfl

/-- Every counter of a sum is the sum of the counters, where tokens are counted for all or for none. -/
theorem read_sum (counter : Counter) {available : Bool}
    (same : ∀ usage ∈ usages, isAvailable usage.tokens = available) :
    counter.read (sumCumulativeUsage usages) = (usages.map counter.read).sum := by
  have numeric (field : Usage → Nat) (zero : field zeroUsage = 0)
      (sums : field (usageSum usages) = (usages.map field).sum) :
      field (sumCumulativeUsage usages) = (usages.map field).sum := by
    unfold sumCumulativeUsage
    by_cases empty : usages = []
    · rw [if_pos empty, zero, empty]
      rfl
    · rw [if_neg empty, sums]
  have tokens (field : TokenCounters → Nat) (zero : field .zero = 0)
      (add : ∀ left right, field (left.add right) = field left + field right) :
      tokenCount field (sumCumulativeUsage usages).tokens =
        (usages.map fun usage => tokenCount field usage.tokens).sum := by
    rw [tokenCount_sum zero add same, map_map]
    rfl
  cases counter with
  | toolCalls | runtimeSeconds | compactions | fullSuiteRuns | mutations => exact numeric _ rfl rfl
  | input | cachedInput | output | reasoning | total => exact tokens _ rfl fun _ _ => rfl

theorem sum_update {α : Type} [DecidableEq α] {items : List α} {count grown : α → Nat} {place : α} {added : Nat}
    (distinct : items.Nodup) (member : place ∈ items) (here : grown place = count place + added)
    (elsewhere : ∀ item ≠ place, grown item = count item) :
    (items.map grown).sum = (items.map count).sum + added := by
  induction items with
  | nil => cases member
  | cons first rest ih =>
    obtain ⟨fresh, distinct⟩ := nodup_cons.mp distinct
    rw [map_cons, map_cons, sum_cons, sum_cons]
    by_cases same : place = first
    · subst same
      have others : rest.map grown = rest.map count :=
        map_congr_left fun item among => elsewhere item fun equal => fresh (equal ▸ among)
      rw [others]
      omega
    · rw [ih distinct ((mem_cons.mp member).resolve_left same), elsewhere first (Ne.symm same)]
      omega

end

section

variable {submission : Submission} {ledger before after : Ledger} {observation : Observation}

/-- An observation that has been accepted, and all that it has changed. -/
structure Accepted (submission : Submission) (before : Ledger) (observation : Observation)
    (after : Ledger) : Prop where
  childId : observation.childId = submission.childId
  stateHash : Digest.ofJson? submission.childStateSha256 = some observation.childStateSha256
  sequence : nonnegativeInt (some submission.decisionSequence) "decision-sequence" =
    .ok observation.decisionSequence
  member : submission.childId ∈ before.childIds
  fresh : (observation.childId, observation.childStateSha256, observation.decisionSequence) ∉ before.seen
  seen : after.seen =
    (observation.childId, observation.childStateSha256, observation.decisionSequence) :: before.seen
  childIds : after.childIds = before.childIds
  counted : ∃ current, normalizeUsage submission.cumulativeUsage = .ok current ∧
    usageDelta (before.latest submission.childId) current = .ok observation.delta ∧
    after.latest = Function.update before.latest submission.childId current
  aggregate : observation.aggregate = after.aggregate

theorem require_ok {condition : Bool} {message : String} {done : Unit}
    (passed : require condition message = .ok done) : condition = true := by
  cases condition with
  | true => rfl
  | false => cases passed

theorem requireSha256_ok {value : Json} {field : String} {digest : Digest}
    (read : requireSha256 value field = .ok digest) : Digest.ofJson? value = some digest := by
  unfold requireSha256 at read
  cases found : Digest.ofJson? value with
  | some other =>
    rw [found] at read
    cases read
    rfl
  | none =>
    rw [found] at read
    cases read

/-- A call accepts its observation or changes nothing. -/
theorem observe_triple (submission : Submission) (before : Ledger) :
    Triple (fun ledger => ledger = before) (observe submission) (Accepted submission before)
      fun after => after = before := by
  -- Each check adds what it found to what is known of the ledger before the first assignment.
  refine Triple.get_bind fun ledger same => ?_
  rw [same]
  refine Triple.bind (m := fun _ ledger => ledger = before)
    (ofExcept (fun _ _ _ => id) fun _ => id) fun _ => ?_
  refine Triple.bind (m := fun _ ledger => ledger = before ∧ submission.childId ∈ before.childIds)
    (ofExcept (fun _ passed _ same => ⟨same, of_decide_eq_true (require_ok passed)⟩) fun _ => id)
    fun _ => ?_
  refine of_state fun ledger ⟨same, member⟩ => ?_
  rw [same]
  refine Triple.bind (m := fun stateHash ledger => ledger = before ∧
      Digest.ofJson? submission.childStateSha256 = some stateHash)
    (ofExcept (fun _ read _ same => ⟨same, requireSha256_ok read⟩) fun _ => id) fun stateHash => ?_
  refine of_state fun ledger ⟨same, hashed⟩ => ?_
  rw [same]
  refine Triple.bind (m := fun sequence ledger => ledger = before ∧
      nonnegativeInt (some submission.decisionSequence) "decision-sequence" = .ok sequence)
    (ofExcept (fun _ read _ same => ⟨same, read⟩) fun _ => id) fun sequence => ?_
  refine of_state fun ledger ⟨same, numbered⟩ => ?_
  rw [same]
  refine Triple.bind (m := fun _ ledger => ledger = before ∧
      (submission.childId, stateHash, sequence) ∉ before.seen)
    (ofExcept (fun _ passed _ same => ⟨same, of_decide_eq_true (require_ok passed)⟩) fun _ => id)
    fun _ => ?_
  refine of_state fun ledger ⟨same, fresh⟩ => ?_
  rw [same]
  refine Triple.bind (m := fun current ledger => ledger = before ∧
      normalizeUsage submission.cumulativeUsage = .ok current)
    (ofExcept (fun _ read _ same => ⟨same, read⟩) fun _ => id) fun current => ?_
  refine of_state fun ledger ⟨same, read⟩ => ?_
  rw [same]
  refine Triple.bind (m := fun delta ledger => ledger = before ∧
      usageDelta (before.latest submission.childId) current = .ok delta)
    (ofExcept (fun _ computed _ same => ⟨same, computed⟩) fun _ => id) fun delta => ?_
  refine of_state fun ledger ⟨same, computed⟩ => ?_
  rw [same]
  refine ⟨fun ledger same => ?_⟩
  subst same
  exact ⟨rfl, hashed, numbered, member, fresh, rfl, rfl, ⟨current, read, computed, rfl⟩, rfl⟩

end

/-- A call on a ledger. -/
structure Step where
  before : Ledger
  submission : Submission

namespace Step

/-- What the call returned. -/
def observation? (step : Step) : Option Observation :=
  match observe step.submission step.before with
  | .ok observation _ => some observation
  | .error _ _ => none

/-- The ledger behind the call. -/
def after (step : Step) : Ledger :=
  match observe step.submission step.before with
  | .ok _ after => after
  | .error _ after => after

theorem ends (step : Step) : (∃ observation, step.observation? = some observation ∧
        Accepted step.submission step.before observation step.after) ∨
      step.observation? = none ∧ step.after = step.before := by
  have ends := (observe_triple step.submission step.before).ends step.before rfl
  unfold observation? after
  cases called : observe step.submission step.before with
  | ok observation after =>
    rw [called] at ends
    exact .inl ⟨observation, rfl, ends⟩
  | error error after =>
    rw [called] at ends
    exact .inr ⟨rfl, ends⟩

end Step

/-- What the accepted calls among these returned as their differences. -/
def deltas (steps : List Step) : List Usage :=
  (steps.filterMap Step.observation?).map Observation.delta

/-- The identifier, the state hash and the sequence of the calls that were accepted. -/
def accepted (steps : List Step) : List (Json × Digest × Nat) :=
  (steps.filterMap Step.observation?).map fun observation =>
    (observation.childId, observation.childStateSha256, observation.decisionSequence)

/-- What the ledger has to do with the calls behind it. -/
structure Reconciled (start : Ledger) (past : List Step) (ledger : Ledger) : Prop where
  childIds : ledger.childIds = start.childIds
  available : ∃ available, ∀ childId ∈ start.childIds,
    isAvailable (ledger.latest childId).tokens = available
  counted : ∀ counter : Counter, counter.read ledger.aggregate =
    counter.read start.aggregate + ((deltas past).map counter.read).sum
  seen : ∀ key ∈ accepted past, key ∈ ledger.seen

section

variable {start ledger : Ledger} {past : List Step} {step : Step} {observation : Observation}

theorem deltas_concat : deltas (past ++ [step]) =
    deltas past ++ (step.observation?.map Observation.delta).toList := by
  unfold deltas
  cases observed : step.observation? with
  | none | some => simp [observed]

theorem accepted_concat : accepted (past ++ [step]) =
    accepted past ++ (step.observation?.map fun observation =>
      (observation.childId, observation.childStateSha256, observation.decisionSequence)).toList := by
  unfold accepted
  cases observed : step.observation? with
  | none | some => simp [observed]

theorem read_aggregate (counter : Counter) {available : Bool}
    (same : ∀ childId ∈ ledger.childIds, isAvailable (ledger.latest childId).tokens = available) :
    counter.read ledger.aggregate =
      (ledger.childIds.map fun childId => counter.read (ledger.latest childId)).sum := by
  unfold Ledger.aggregate
  rw [@read_sum _ counter available ?_, map_map]
  · rfl
  · intro usage member
    obtain ⟨childId, among, rfl⟩ := mem_map.mp member
    exact same childId among

theorem Accepted.adds {after : Ledger} (accepted : Accepted step.submission step.before observation after)
    (distinct : step.before.childIds.Nodup) {available : Bool}
    (same : ∀ childId ∈ step.before.childIds,
      isAvailable (step.before.latest childId).tokens = available) :
    (∀ childId ∈ after.childIds, isAvailable (after.latest childId).tokens = available) ∧
      ∀ counter : Counter, counter.read after.aggregate =
        counter.read step.before.aggregate + counter.read observation.delta := by
  obtain ⟨current, _, computed, latest⟩ := accepted.counted
  obtain ⟨availability, added⟩ := usageDelta_ok computed
  have available' (childId : Json) (member : childId ∈ after.childIds) :
      isAvailable (after.latest childId).tokens = available := by
    rw [accepted.childIds] at member
    rw [latest]
    by_cases here : childId = step.submission.childId
    · rw [here, Function.update_self, availability]
      exact same _ accepted.member
    · rw [Function.update_of_ne here]
      exact same childId member
  refine ⟨available', fun counter => ?_⟩
  rw [read_aggregate counter available', read_aggregate counter same, accepted.childIds]
  refine sum_update distinct accepted.member ?_ fun childId elsewhere => ?_
  · rw [latest, Function.update_self]
    exact (added counter).symm
  · rw [latest, Function.update_of_ne elsewhere]

/-- A call that was accepted or rejected keeps the ledger reconciled with its calls. -/
theorem Reconciled.onward (reconciled : Reconciled start past step.before) (distinct : start.childIds.Nodup) :
    Reconciled start (past ++ [step]) step.after := by
  obtain ⟨available, same⟩ := reconciled.available
  rw [← reconciled.childIds] at same
  rcases step.ends with ⟨observation, returned, ended⟩ | ⟨rejected, unchanged⟩
  · obtain ⟨available', added⟩ := ended.adds (reconciled.childIds ▸ distinct) same
    rw [ended.childIds, reconciled.childIds] at available'
    refine ⟨ended.childIds.trans reconciled.childIds, ⟨available, available'⟩, fun counter => ?_, ?_⟩
    · rw [added, reconciled.counted, deltas_concat, returned]
      simp [Nat.add_assoc]
    · intro key member
      rw [accepted_concat, returned] at member
      rw [ended.seen]
      rcases mem_append.mp member with old | new
      · exact mem_cons_of_mem _ (reconciled.seen key old)
      · rw [mem_singleton.mp new]
        exact mem_cons_self
  · rw [unchanged]
    refine ⟨reconciled.childIds, reconciled.available, fun counter => ?_, ?_⟩
    · rw [reconciled.counted, deltas_concat, rejected]
      simp
    · intro key member
      rw [accepted_concat, rejected] at member
      exact reconciled.seen key (by simpa using member)

theorem create_ok {childIds : List Json} {initialUsage : Json}
    (made : create childIds initialUsage = .ok ledger) :
    ledger.childIds.Nodup ∧ Reconciled ledger [] ledger := by
  obtain ⟨_, _, made⟩ := bind_ok made
  obtain ⟨_, distinct, made⟩ := bind_ok made
  obtain ⟨usage, _, made⟩ := bind_ok made
  cases made
  exact ⟨of_decide_eq_true (require_ok distinct), rfl, ⟨isAvailable usage.tokens, fun _ _ => rfl⟩, fun _ => rfl, nofun⟩

/-- The call hands in an observation once more. -/
def Step.Repeats (step : Step) (observation : Observation) : Prop :=
  step.submission.childId = observation.childId ∧
    Digest.ofJson? step.submission.childStateSha256 = some observation.childStateSha256 ∧
    nonnegativeInt (some step.submission.decisionSequence) "decision-sequence" =
      .ok observation.decisionSequence

/-- What holds of a call with the given ones behind it. -/
structure Step.Exact (start : Ledger) (past : List Step) (step : Step) : Prop where
  counted : ∀ counter : Counter, counter.read step.after.aggregate =
    counter.read start.aggregate + ((deltas (past ++ [step])).map counter.read).sum
  grows : ∀ counter : Counter, counter.read step.before.aggregate ≤ counter.read step.after.aggregate
  once : ∀ earlier ∈ past, ∀ observation, earlier.observation? = some observation →
    step.Repeats observation → step.observation? = none
  rejected : step.observation? = none → step.after.latest = step.before.latest ∧
    step.after.aggregate = step.before.aggregate ∧ step.after.seen = step.before.seen

/-- The ledger counts every observation of a run exactly once. -/
theorem usage_exactly_once {childIds : List Json} {initialUsage : Json} {steps rest : List Step}
    (made : create childIds initialUsage = .ok ledger)
    (linked : Linked Step.before Step.after ledger steps) (split : steps = past ++ step :: rest) :
    step.Exact ledger past := by
  obtain ⟨distinct, initial⟩ := create_ok made
  have reconciled : Reconciled ledger past step.before :=
    @Linked.traced Ledger Step _ _ _ _ (Reconciled ledger) linked
      (fun _ _ _ before => before.onward distinct) [] initial _ _ _ split
  have after := reconciled.onward distinct
  refine ⟨after.counted, fun counter => ?_, ?_, ?_⟩
  · rw [reconciled.counted, after.counted, deltas_concat, map_append, sum_append]
    exact Nat.add_le_add_left (Nat.le_add_right _ _) _
  · intro earlier member observation returned repeats
    have known : (observation.childId, observation.childStateSha256, observation.decisionSequence) ∈
        step.before.seen := by
      refine reconciled.seen _ (mem_map.mpr ⟨observation, ?_, rfl⟩)
      exact mem_filterMap.mpr ⟨earlier, member, returned⟩
    rcases step.ends with ⟨again, _, ended⟩ | ⟨rejected, _⟩
    · obtain ⟨childId, stateHash, sequence⟩ := repeats
      have first : again.childId = observation.childId := ended.childId.trans childId
      have second : again.childStateSha256 = observation.childStateSha256 :=
        Option.some.inj (ended.stateHash.symm.trans stateHash)
      have third : again.decisionSequence = observation.decisionSequence :=
        Except.ok.inj (ended.sequence.symm.trans sequence)
      exact absurd (first ▸ second ▸ third ▸ known) ended.fresh
    · exact rejected
  · intro rejected
    rcases step.ends with ⟨observation, returned, _⟩ | ⟨_, unchanged⟩
    · rw [rejected] at returned
      cases returned
    · rw [unchanged]
      exact ⟨rfl, rfl, rfl⟩

end

def sampleUsage (toolCalls : Nat) : Usage := ⟨toolCalls, 0, 0, 0, 0, zeroTokenUsage⟩

def sampleSubmission (sequence toolCalls : Nat) : Submission :=
  ⟨.str "child", .sha256 .null, .nat sequence, (sampleUsage toolCalls).json⟩

def sampleLedger : Ledger := ⟨[.str "child"], fun _ => zeroUsage, fun _ => none, []⟩

theorem sample_created : create [.str "child"] .null = .ok sampleLedger := rfl

/-- An observation, the same once more, and one whose totals have gone back. -/
def samplePast : List Step :=
  let first : Step := ⟨sampleLedger, sampleSubmission 0 2⟩
  let repeated : Step := ⟨first.after, sampleSubmission 0 2⟩
  [first, repeated, ⟨repeated.after, sampleSubmission 1 1⟩]

def sampleStep : Step := ⟨(samplePast.getLast?.map Step.after).getD sampleLedger, sampleSubmission 2 3⟩

theorem usage_exactly_once_sample :
    (samplePast ++ [sampleStep]).map (·.observation?.isSome) = [true, false, false, true] ∧
      Step.Exact sampleLedger samplePast sampleStep :=
  ⟨by decide +kernel, @usage_exactly_once sampleLedger samplePast sampleStep [.str "child"] .null
    (samplePast ++ [sampleStep]) [] sample_created ⟨rfl, rfl, rfl, rfl, True.intro⟩ rfl⟩

/-! ## The ledger of the coordinator -/

theorem counterDelta_forgets (before after : TokenCounters) :
    (counterDelta before after).map (fun _ => ()) =
      match firstReset (tokenChecks before after) with
      | some field => .error (accountingError ("cumulative-token-" ++ field ++ "-reset"))
      | none => .ok () := by
  unfold counterDelta
  by_cases kept : firstReset (tokenChecks before after) = none
  · rw [dif_pos kept, kept]
    rfl
  · obtain ⟨field, reset⟩ := Option.ne_none_iff_exists'.mp kept
    rw [dif_neg kept, reset]
    rfl

/-- The ledger that the coordinator is modelled with computes the same difference and drops it. -/
theorem usageDelta_forgets (before after : Usage) :
    Accounting.usageDelta before after = (usageDelta before after).map fun _ => () := by
  unfold Accounting.usageDelta usageDelta numericDelta
  change _ = Except.map _ ((match firstReset _ with | some _ => _ | none => _) >>= _)
  cases numeric : firstReset (numericChecks before after) with
  | some field =>
    unfold numericChecks at numeric
    simp only [numeric]
    split <;> rfl
  | none =>
    unfold numericChecks at numeric
    simp only [numeric]
    cases first : before.tokens with
    | available counters =>
      cases second : after.tokens with
      | available counters' =>
        have forgets := counterDelta_forgets counters counters'
        change (match firstReset (tokenChecks counters counters') with | some _ => _ | none => _) =
          Except.map _ (((counterDelta counters counters').map TokenUsage.available) >>= _)
        cases computed : counterDelta counters counters' with
        | ok delta =>
          rw [computed] at forgets
          exact forgets.symm
        | error error =>
          rw [computed] at forgets
          exact forgets.symm
      | unavailable => rfl
    | unavailable => cases after.tokens <;> rfl

/-- A ledger that is given documents keeps what the coordinator's keeps of the same children. -/
structure Tracks (coarse : Accounting.Ledger) (ledger : Ledger) : Prop where
  latest : ∀ childId : Lib.Text.Name, ledger.latest (.str childId.text) = coarse.latest childId
  seen : ∀ (childId : Lib.Text.Name) stateHash sequence,
    (.str childId.text, stateHash, sequence) ∈ ledger.seen ↔ (childId, stateHash, sequence) ∈ coarse.seen

theorem Tracks.observed {coarse : Accounting.Ledger} {ledger : Ledger} (tracks : Tracks coarse ledger)
    (childId : Lib.Text.Name) (usage : Usage) (stateHash : Digest) (sequence : Nat) :
    Tracks { latest := Function.update coarse.latest childId usage
             seen := (childId, stateHash, sequence) :: coarse.seen }
      { ledger with
        latest := Function.update ledger.latest (.str childId.text) usage
        lastStateHash := Function.update ledger.lastStateHash (.str childId.text) (some stateHash)
        seen := (.str childId.text, stateHash, sequence) :: ledger.seen } where
  latest other := by
    change Function.update ledger.latest (.str childId.text) usage (.str other.text) =
      Function.update coarse.latest childId usage other
    by_cases same : other = childId
    · rw [same, Function.update_self, Function.update_self]
    · have apart : Json.str other.text ≠ .str childId.text := fun equal =>
        same (Lib.Text.Name.text_injective (Json.str.inj equal))
      rw [Function.update_of_ne apart, Function.update_of_ne same, tracks.latest]
  seen other hash number := by
    rw [mem_cons, mem_cons, tracks.seen]
    refine or_congr_left ?_
    have text : other.text = childId.text ↔ other = childId :=
      ⟨Lib.Text.Name.text_injective, congrArg Lib.Text.Name.text⟩
    simp only [Prod.mk.injEq, Json.str.injEq, text]

/-- Both ledgers accept the same observations of a child, and refuse the others with the same error. -/
theorem observe_tracks {coarse : Accounting.Ledger} {ledger : Ledger} (tracks : Tracks coarse ledger)
    {childId : Lib.Text.Name} (member : .str childId.text ∈ ledger.childIds) (stateHash : Digest)
    (sequence : Nat) {document : Json} {usage : Usage} (read : normalizeUsage document = .ok usage) :
    match observe ⟨.str childId.text, .sha256 stateHash.preimage, .nat sequence, document⟩ ledger,
      coarse.observe childId stateHash sequence usage with
    | .ok _ after, .ok onward => Tracks onward after
    | .error error after, .error error' => error = error' ∧ after = ledger
    | _, _ => False := by
  have known : require (.str childId.text ∈ ledger.childIds) "unknown-child-id" = .ok () := by
    rw [decide_eq_true member]
    rfl
  have begun : observe ⟨.str childId.text, .sha256 stateHash.preimage, .nat sequence, document⟩ ledger =
      (do
        ofExcept (require ((.str childId.text, stateHash, sequence) ∉ ledger.seen)
          "usage-observation-replay")
        let current ← ofExcept (normalizeUsage document)
        let delta ← ofExcept (usageDelta (ledger.latest (.str childId.text)) current)
        modify fun ledger =>
          { ledger with latest := Function.update ledger.latest (.str childId.text) current }
        modify fun ledger =>
          { ledger with
            lastStateHash := Function.update ledger.lastStateHash (.str childId.text) (some stateHash) }
        modify fun ledger => { ledger with seen := (.str childId.text, stateHash, sequence) :: ledger.seen }
        let after ← get
        return ⟨.str childId.text, stateHash, sequence, delta, after.aggregate⟩ :
          EStateM PyError Ledger Observation) ledger := by
    have opened : (Except.ok () : Except PyError Unit) = .ok () := rfl
    exact (ran_bind rfl).trans ((ran_bind (ofExcept_ran opened ledger)).trans
      (ran_bind (ofExcept_ran known ledger)))
  rw [begun]
  unfold Accounting.Ledger.observe
  by_cases replayed : (childId, stateHash, sequence) ∈ coarse.seen
  · rw [if_pos replayed, decide_eq_false (not_not.mpr ((tracks.seen _ _ _).mpr replayed))]
    exact (⟨rfl, rfl⟩ : accountingError "usage-observation-replay" = _ ∧ ledger = ledger)
  · rw [if_neg replayed, decide_eq_true (mt (tracks.seen _ _ _).mp replayed),
      ran_bind (ofExcept_ran (show require true _ = .ok () from rfl) ledger),
      ran_bind (ofExcept_ran read ledger), usageDelta_forgets, ← tracks.latest]
    cases computed : usageDelta (ledger.latest (.str childId.text)) usage with
    | error error => exact (⟨rfl, rfl⟩ : error = error ∧ ledger = ledger)
    | ok delta => exact tracks.observed childId usage stateHash sequence

end WorkOrchestration.Native.UsageLedger
