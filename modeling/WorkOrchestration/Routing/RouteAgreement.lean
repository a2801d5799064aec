import WorkOrchestration.Routing.RouteShape

/-!
# Agreement of the resolver and the validators

Which requests are answered by a route that both validators accept. A grant is accepted unless its budget,
its executor or the spelling of its request passes the resolver and not a validator.
-/

namespace WorkOrchestration.Routing.RouteAgreement

open Lib.Text (strip)
open Native.Artifacts hiding canonicalSha256
open List CurrentAuthority
open TaskSelectedFit hiding requireProvenance
open TaskSelectedRoute
open AuthorityFacts FitFacts RouteShape

variable {clock : Clock} {policies : Policies} {sizing : WorkSizing} {request : Request} {authority : Json}

/-! ## Resolving -/

/-- A claim on which the request is decided. -/
structure Considered (clock : Clock) (request : Request) (authority : Json) : Prop where
  claim : normalizeCurrentAuthority clock request.currentAuthority = .ok authority
  budget : ∃ budget, normalizeCurrentBudget (suppliedBudget request (.ok authority)) = .ok budget
  inputs : inputMismatch request authority = none

theorem Considered.read (considered : Considered clock request authority) :
    authority = request.currentAuthority ∧ AuthorityRead clock authority := by
  obtain ⟨rfl, read⟩ := authorityRead considered.claim
  exact ⟨rfl, read⟩

theorem readAuthority_of (claim : normalizeCurrentAuthority clock request.currentAuthority = .ok authority) :
    readAuthority clock request = .ok (.ok authority) := by
  unfold readAuthority
  rw [if_neg, claim]
  intro absent
  rw [absent] at claim
  cases claim

theorem readAuthority_refused {error : PyError}
    (refused : normalizeCurrentAuthority clock request.currentAuthority = .error error) :
    ∃ reason, readAuthority clock request = .ok (.error reason) ∧ nonblank (.str reason) = true := by
  unfold readAuthority
  by_cases absent : request.currentAuthority = .null
  · rw [if_pos absent]
    exact ⟨_, rfl, by decide +kernel⟩
  · rw [if_neg absent, refused]
    dsimp only
    rw [if_pos (tame_normalizeCurrentAuthority clock _ error refused)]
    exact ⟨_, rfl, by decide +kernel⟩

def answered (policies : Policies) (request : Request) (budget : Json) : Except String Json → Json
  | .ok route => route
  | .error reason => blockedTaskSelectedRoute policies request budget reason

variable {time : Int}

theorem resolve_considered
    (evaluated : parseTime clock "evaluated_at" (.str request.evaluatedAt) = .ok time)
    (considered : Considered clock request authority) :
    resolveOperativeRoute clock policies sizing request =
      (selectedTaskRoute clock policies sizing request authority).map
        (answered policies request (suppliedBudget request (.ok authority))) := by
  obtain ⟨budget, reads⟩ := considered.budget
  cases normalizeCurrentBudget_ok reads
  unfold resolveOperativeRoute
  rw [evaluated, readAuthority_of considered.claim]
  dsimp only [bind, Except.bind]
  unfold readBudget
  rw [reads]
  dsimp only
  rw [considered.inputs]
  cases selectedTaskRoute clock policies sizing request authority with
  | error error => rfl
  | ok answer => cases answer with
    | error | ok => rfl

theorem mismatch_nonblank {reason : String} (mismatch : inputMismatch request authority = some reason) :
    nonblank (.str reason) = true := by
  obtain ⟨⟨field, name, supplied⟩, found, rfl⟩ := Option.map_eq_some_iff.mp mismatch
  have member := mem_of_find?_eq_some found
  unfold suppliedInputs at member
  simp only [mem_cons, not_mem_nil, or_false] at member
  rcases member with ⟨-, rfl, -⟩ | ⟨-, rfl, -⟩ | ⟨-, rfl, -⟩ | ⟨-, rfl, -⟩
  all_goals
    dsimp only
    decide +kernel

/-- A request without a claim to decide on is denied. -/
theorem resolve_unconsidered
    (evaluated : parseTime clock "evaluated_at" (.str request.evaluatedAt) = .ok time)
    (none : ∀ authority, ¬ Considered clock request authority) :
    ∃ budget reason, resolveOperativeRoute clock policies sizing request =
        .ok (blockedTaskSelectedRoute policies request budget reason) ∧ nonblank (.str reason) = true ∧
      (budget = .null ∨ normalizeCurrentBudget budget = .ok budget) := by
  unfold resolveOperativeRoute
  rw [evaluated]
  dsimp only [bind, Except.bind]
  cases claimed : normalizeCurrentAuthority clock request.currentAuthority with
  | error error =>
    obtain ⟨reason, refused, visible⟩ := readAuthority_refused claimed
    rw [refused]
    dsimp only
    unfold readBudget
    cases reads : normalizeCurrentBudget (suppliedBudget request (.error reason)) with
    | error error => exact ⟨.null, reason, rfl, visible, .inl rfl⟩
    | ok budget =>
      cases normalizeCurrentBudget_ok reads
      exact ⟨_, reason, rfl, visible, .inr reads⟩
  | ok authority =>
    rw [readAuthority_of claimed]
    dsimp only
    unfold readBudget
    cases reads : normalizeCurrentBudget (suppliedBudget request (.ok authority)) with
    | error error => exact ⟨.null, _, rfl, by decide +kernel, .inl rfl⟩
    | ok budget =>
      cases normalizeCurrentBudget_ok reads
      dsimp only
      cases mismatch : inputMismatch request authority with
      | some reason => exact ⟨_, reason, rfl, mismatch_nonblank mismatch, .inr reads⟩
      | none => exact absurd ⟨claimed, ⟨_, reads⟩, mismatch⟩ (none authority)

/-! ## Asking again -/

/-- The request without the inputs that repeat the claim. -/
def unrepeated (request : Request) : Request :=
  { request with capabilityEvidence := none, workEstimate := none, context := none, aggregateBudget := none }

theorem textOr_str (default text : String) :
    textOr default (.str text) = if strip text = "" then default else strip text := rfl

variable {text : String}

theorem nonblank_str : nonblank (.str text) = true ↔ strip text ≠ "" := by
  change decide (Json.str (strip text) ≠ Json.str "") = true ↔ _
  rw [decide_eq_true_iff, ne_eq, Json.str.injEq]

theorem textOr_tidy {default : String} (visible : nonblank (.str text) = true)
    (tidy : strip text = text) : textOr default (.str text) = text := by
  rw [textOr_str, if_neg (nonblank_str.mp visible), tidy]

theorem levels_tidy : ∀ level ∈ riskOrder ++ dataSensitivityOrder,
    strip level = level ∧ nonblank (.str level) = true := by
  decide +kernel

theorem nonblank_of_parseTime {label : String} (read : parseTime clock label (.str text) = .ok time) :
    nonblank (.str text) = true := by
  rw [nonblank_str]
  intro blank
  unfold parseTime at read
  change (if strip text = "" then _ else _) = _ at read
  rw [if_pos blank] at read
  cases read

variable {fit : Fit} {candidate : Candidate}

variable (risk : request.riskLevel ∈ riskOrder)
  (sensitivity : request.dataSensitivity ∈ dataSensitivityOrder)
  (evaluated : parseTime clock "evaluated_at" (.str request.evaluatedAt) = .ok time)

include risk sensitivity evaluated in
theorem renewedRequest_tidy {model : String}
    (visible : nonblank (.str request.executionEnvironment) = true)
    (environment : strip request.executionEnvironment = request.executionEnvironment)
    (moment : strip request.evaluatedAt = request.evaluatedAt) :
    renewedRequest (sealRoute (selectedFields request authority model fit candidate)) request.currentAuthority =
      unrepeated request := by
  have named := selected_named request authority model fit candidate
  have riskTidy := levels_tidy _ (mem_append_left _ risk)
  have sensitivityTidy := levels_tidy _ (mem_append_right _ sensitivity)
  unfold renewedRequest unrepeated
  rw [named.value 2 rfl, named.value 3 rfl, named.value 4 rfl, named.value 5 rfl,
    textOr_tidy visible environment, textOr_tidy riskTidy.2 riskTidy.1,
    textOr_tidy sensitivityTidy.2 sensitivityTidy.1, textOr_tidy (nonblank_of_parseTime evaluated) moment]

theorem Considered.unrepeated (considered : Considered clock request authority) :
    Considered clock (unrepeated request) authority :=
  ⟨considered.claim, considered.read.2.budget, rfl⟩

theorem granted_unrepeated {model : String}
    (granted : Granted clock policies sizing request authority model fit candidate) :
    Granted clock policies sizing (unrepeated request) authority model fit candidate :=
  ⟨granted.active, granted.ready, granted.segment, granted.bound, granted.fits, granted.found, granted.eligible,
    granted.escalation, granted.qualification, granted.current, granted.identity, granted.bead, granted.lineage⟩

theorem resolve_granted {model : String}
    (evaluated : parseTime clock "evaluated_at" (.str request.evaluatedAt) = .ok time)
    (considered : Considered clock request authority)
    (granted : Granted clock policies sizing request authority model fit candidate) :
    resolveOperativeRoute clock policies sizing request =
      .ok (sealRoute (selectedFields request authority model fit candidate)) := by
  rw [resolve_considered evaluated considered,
    selectedTaskRoute_granted.mpr ⟨model, fit, candidate, granted, rfl⟩]
  rfl

/-! ## Answers -/

theorem fits_iff_readable
    (evaluated : parseTime clock "evaluated_at" (.str request.evaluatedAt) = .ok time)
    (considered : Considered clock request authority) :
    (∃ fit, buildTaskSelectedFit clock policies sizing (fitRequest request authority) = .ok fit) ↔
      Readable clock policies sizing (fitRequest request authority) :=
  buildTaskSelectedFit_ok evaluated considered.read.2.budget

/-- What a route has to satisfy for both validators. -/
structure Dispatchable (policies : Policies) (request : Request) (authority : Json) (model : String) : Prop where
  spending : leavesTerminalAllocation ((authority.value "fit_inputs").value "aggregate_budget") = true
  executor : alias? model = some (policies.executorByModel request.executionEnvironment model)

theorem spent_blocked (considered : Considered clock request authority) :
    suppliedBudget request (.ok authority) = .null ∨
      normalizeCurrentBudget (suppliedBudget request (.ok authority)) =
        .ok (suppliedBudget request (.ok authority)) := by
  obtain ⟨budget, reads⟩ := considered.budget
  cases normalizeCurrentBudget_ok reads
  exact .inr reads

/-- Every answer repeats the environment and the time of its request. -/
theorem resolve_inputs {route : Json} (resolved : resolveOperativeRoute clock policies sizing request = .ok route) :
    route.value "execution_environment" = .str request.executionEnvironment ∧
      route.value "evaluated_at" = .str request.evaluatedAt := by
  have blocked : ∀ budget reason,
      (blockedTaskSelectedRoute policies request budget reason).value "execution_environment" =
        .str request.executionEnvironment ∧
      (blockedTaskSelectedRoute policies request budget reason).value "evaluated_at" = .str request.evaluatedAt :=
    fun budget reason => ⟨(blocked_named policies request budget reason).value 2 rfl,
      (blocked_named policies request budget reason).value 5 rfl⟩
  obtain ⟨time, evaluated, -⟩ := bind_ok resolved
  by_cases claimed : ∃ authority, Considered clock request authority
  · obtain ⟨authority, considered⟩ := claimed
    rw [resolve_considered evaluated considered] at resolved
    cases selected : selectedTaskRoute clock policies sizing request authority with
    | error error =>
      rw [selected] at resolved
      cases resolved
    | ok answer =>
      rw [selected] at resolved
      cases Except.ok.inj resolved
      cases answer with
      | error reason => exact blocked _ _
      | ok route =>
        obtain ⟨model, fit, candidate, -, rfl⟩ := selectedTaskRoute_granted.mp selected
        have named := selected_named request authority model fit candidate
        exact ⟨named.value 2 rfl, named.value 5 rfl⟩
  · obtain ⟨budget, reason, denied, -⟩ :=
      @resolve_unconsidered clock policies sizing request _ evaluated (not_exists.mp claimed)
    cases Except.ok.inj (denied.symm.trans resolved)
    exact blocked _ _

theorem environment_of_shape {route : Json} (shaped : validateTaskSelectedRouteShape clock route = .ok []) :
    isEnvironmentName (route.value "execution_environment") = true := by
  unfold validateTaskSelectedRouteShape at shaped
  split at shaped
  · cases shaped
  split at shaped
  · cases shaped
  obtain ⟨evaluated, _, shaped⟩ := bind_ok shaped
  obtain ⟨qualification, _, shaped⟩ := bind_ok shaped
  obtain ⟨fit, _, shaped⟩ := bind_ok shaped
  have errors := Except.ok.inj shaped
  simp only [append_eq_nil_iff] at errors
  have head : headShape route = [] := by tauto
  unfold headShape at head
  simp only [append_eq_nil_iff, shapeError_nil] at head
  exact head.1.1.2

include risk sensitivity evaluated in
/-- Exactly when a request is answered by a route of the right shape. -/
theorem answers_iff :
    (∃ route, resolveOperativeRoute clock policies sizing request = .ok route ∧
        validateTaskSelectedRouteShape clock route = .ok []) ↔
      nonblank (.str request.executionEnvironment) = true ∧
        (∀ authority, Considered clock request authority → Reaches policies authority →
          Readable clock policies sizing (fitRequest request authority)) ∧
        ∀ authority model fit candidate, Considered clock request authority →
          Granted clock policies sizing request authority model fit candidate →
          Dispatchable policies request authority model := by
  constructor
  · rintro ⟨route, resolved, shaped⟩
    refine ⟨?_, ?_, ?_⟩
    · have named := environment_of_shape shaped
      rwa [(resolve_inputs resolved).1] at named
    · intro authority considered reaches
      rw [← fits_iff_readable evaluated considered]
      cases fits : buildTaskSelectedFit clock policies sizing (fitRequest request authority) with
      | ok fit => exact ⟨fit, rfl⟩
      | error error =>
        rw [resolve_considered evaluated considered, selectedTaskRoute_stuck reaches fits] at resolved
        cases resolved
    · intro authority model fit candidate considered granted
      rw [resolve_granted evaluated considered granted] at resolved
      cases Except.ok.inj resolved
      obtain ⟨-, spending, executor⟩ :=
        (selected_shape risk sensitivity evaluated considered.read.2 granted).mp shaped
      exact ⟨spending, executor⟩
  · rintro ⟨visible, readable, dispatchable⟩
    by_cases claimed : ∃ authority, Considered clock request authority
    · obtain ⟨authority, considered⟩ := claimed
      rw [resolve_considered evaluated considered]
      obtain ⟨route, selected⟩ | ⟨reason, refused, worded⟩ | ⟨reaches, error, stuck⟩ :=
        @selectedTaskRoute_cases clock policies sizing request authority _ considered.read.2 evaluated
      · rw [selected]
        obtain ⟨model, fit, candidate, granted, rfl⟩ := selectedTaskRoute_granted.mp selected
        obtain ⟨spending, executor⟩ := dispatchable authority model fit candidate considered granted
        exact ⟨_, rfl, (selected_shape risk sensitivity evaluated considered.read.2 granted).mpr
          ⟨visible, spending, executor⟩⟩
      · rw [refused]
        exact ⟨_, rfl, (blocked_shape risk sensitivity evaluated (spent_blocked considered) worded).mpr visible⟩
      · obtain ⟨fit, fits⟩ := (fits_iff_readable evaluated considered).mpr (readable authority considered reaches)
        rw [stuck] at fits
        cases fits
    · obtain ⟨budget, reason, denied, worded, spent⟩ :=
        @resolve_unconsidered clock policies sizing request _ evaluated (not_exists.mp claimed)
      exact ⟨_, denied, (blocked_shape risk sensitivity evaluated spent worded).mpr visible⟩

/-! ## Dispatches -/

variable {historicalErrors : Json → List String} {route : Json} {model now : String} {estimate : Option Json}

theorem validateCurrent_accepts
    (accepted : validateCurrent clock policies sizing route model estimate now authority = .ok []) :
    ∃ expected, resolveOperativeRoute clock policies sizing (renewedRequest route authority) = .ok expected ∧
      expected.value "dispatch_authorized" = .bool true ∧ route.value "selected_model" = .str model ∧
      canonicalSha256 route = canonicalSha256 expected := by
  unfold validateCurrent at accepted
  dsimp only at accepted
  split at accepted
  · split at accepted <;> cases accepted
  split at accepted
  · cases accepted
  split at accepted
  · cases accepted
  split at accepted
  · split at accepted <;> cases accepted
  split at accepted
  · cases accepted
  split at accepted
  · split at accepted <;> cases accepted
  next expected resolved =>
  split at accepted
  · cases accepted
  next authorized =>
  split at accepted
  · cases accepted
  next named =>
  split at accepted
  · cases accepted
  next same =>
  exact ⟨expected, resolved, not_not.mp authorized, (not_not.mp named).symm, not_not.mp same⟩

/-- The validator accepts what the resolver answers for the same inputs, and nothing else. -/
theorem accepted_expected (inForce : policies.task.status = "active")
    (accepted : validateOperativeRouteForModel clock policies sizing historicalErrors route model estimate now
      authority = .ok []) :
    ∃ expected, resolveOperativeRoute clock policies sizing (renewedRequest route authority) = .ok expected ∧
      expected.value "dispatch_authorized" = .bool true ∧ route.value "selected_model" = .str model ∧
      canonicalSha256 route = canonicalSha256 expected := by
  unfold validateOperativeRouteForModel at accepted
  by_cases object : route.isObject = true
  · rw [if_pos object] at accepted
    by_cases old : (route.value "version").equalsNat 2 = true ∧ policies.task.status = "active"
    · rw [if_pos old] at accepted
      cases accepted
    rw [if_neg old] at accepted
    split at accepted
    next kind =>
        obtain ⟨shape, _, passed⟩ := bind_ok accepted
        split at passed
        next wrong => exact absurd (map_eq_nil_iff.mp (Except.ok.inj passed)) wrong
        split at passed
        · cases passed
        split at passed
        · split at passed <;> cases passed
        next read claimed =>
        rw [(authorityRead claimed).1] at passed
        exact validateCurrent_accepts passed
    · split at accepted
      next second => exact absurd ⟨second.2, inForce⟩ old
      · cases accepted
  · rw [if_neg object, if_neg (fun old => Bool.noConfusion old.1), if_neg (fun kind => Bool.noConfusion kind.2),
      if_neg (fun kind => Bool.noConfusion kind.2)] at accepted
    cases accepted

/-- A time at which the qualification of a claim still holds. -/
def Lasts (clock : Clock) (authority : Json) (model now : String) (evaluated : Int) : Prop :=
  ∃ current expires, parseTime clock "now" (.str now) = .ok current ∧
    parseTime clock "qualification origin_expires_at"
      (((authority.value "qualifications").value model).value "origin_expires_at") = .ok expires ∧
    evaluated ≤ current ∧ current < expires

theorem granted_window
    (evaluated : parseTime clock "evaluated_at" (.str request.evaluatedAt) = .ok time)
    (granted : Granted clock policies sizing request authority model fit candidate) :
    ∃ issued expires,
      parseTime clock "current authority qualification origin_issued_at"
        (((authority.value "qualifications").value model).value "origin_issued_at") = .ok issued ∧
      parseTime clock "current authority qualification origin_expires_at"
        (((authority.value "qualifications").value model).value "origin_expires_at") = .ok expires ∧
      issued ≤ time ∧ time < expires := by
  obtain ⟨issued, expires, now, times, started, ends⟩ := granted.current
  obtain ⟨_, issuedAt, times⟩ := bind_ok times
  obtain ⟨_, expiresAt, times⟩ := bind_ok times
  obtain ⟨_, nowAt, times⟩ := bind_ok times
  rw [evaluated] at nowAt
  cases Except.ok.inj nowAt
  cases Except.ok.inj times
  exact ⟨issued, expires, parseTime_label issuedAt, parseTime_label expiresAt, started, ends⟩

include risk sensitivity evaluated in
/-- A grant in tidy words is accepted for as long as its qualification lasts. -/
theorem granted_accepted
    (considered : Considered clock request authority)
    (granted : Granted clock policies sizing request authority model fit candidate)
    (shaped : validateTaskSelectedRouteShape clock
      (sealRoute (selectedFields request authority model fit candidate)) = .ok [])
    (environment : strip request.executionEnvironment = request.executionEnvironment)
    (moment : strip request.evaluatedAt = request.evaluatedAt)
    (same : ∀ value ∈ estimate, canonicalSha256 value =
      canonicalSha256 ((authority.value "fit_inputs").value "work_estimate"))
    (lasts : Lasts clock authority model now time) :
    validateOperativeRouteForModel clock policies sizing historicalErrors
      (sealRoute (selectedFields request authority model fit candidate)) model estimate now
      request.currentAuthority = .ok [] := by
  have named := selected_named request authority model fit candidate
  have visible := environment_of_shape shaped
  have asked : renewedRequest (sealRoute (selectedFields request authority model fit candidate)) authority =
      unrepeated request := by
    rw [considered.read.1]
    exact renewedRequest_tidy risk sensitivity evaluated visible environment moment
  have again : resolveOperativeRoute clock policies sizing (unrepeated request) =
      .ok (sealRoute (selectedFields request authority model fit candidate)) :=
    resolve_granted evaluated considered.unrepeated (granted_unrepeated granted)
  have present : request.currentAuthority ≠ .null := by
    intro absent
    have claim := considered.claim
    rw [absent] at claim
    cases claim
  obtain ⟨issued, ends, issuedAt, endsAt, started, _⟩ := granted_window evaluated granted
  obtain ⟨current, expires, currentAt, expiresAt, later, before⟩ := lasts
  cases Except.ok.inj ((parseTime_label expiresAt).symm.trans endsAt)
  unfold validateOperativeRouteForModel
  dsimp only
  rw [if_pos (isObject_of_hasExactly named.hasExactly), named.value 1 rfl]
  rw [if_neg (fun old => Bool.noConfusion old.1), if_pos ⟨decide_eq_true rfl, rfl⟩, shaped]
  dsimp only [bind, Except.bind]
  rw [if_neg (by simp), if_neg present, considered.claim]
  unfold validateCurrent
  rw [currentAt, named.value 5 rfl, evaluated, named.value 6 rfl]
  dsimp only [bind, Except.bind, pure, Except.pure]
  rw [if_neg (not_lt.mpr later), if_neg (by
    rw [Bool.not_eq_true, Option.any_eq_false]
    exact fun value given => by simpa using same value given)]
  have chosen : qualificationOf authority (.str model) = (authority.value "qualifications").value model := rfl
  rw [chosen, issuedAt, endsAt]
  dsimp only
  rw [if_neg (not_not.mpr ⟨started.trans later, before⟩), asked, again]
  dsimp only
  rw [if_neg (not_not.mpr (named.value 8 rfl)), if_neg (not_not.mpr rfl), if_neg (not_not.mpr rfl)]

theorem value_of_sha256 {first second : Json} (same : canonicalSha256 first = canonicalSha256 second)
    (key : String) : (first.value key).canonical = (second.value key).canonical := by
  have written : first.canonical = second.canonical := congrArg Digest.preimage same
  have found : (first.get? key).map Json.canonical = (second.get? key).map Json.canonical := by
    rw [← Json.get?_canonical, ← Json.get?_canonical, written]
  unfold Json.value
  cases present : first.get? key with
  | none =>
    rw [present] at found
    rw [Option.map_eq_none_iff.mp found.symm]
  | some value =>
    rw [present] at found
    obtain ⟨other, there, same⟩ := Option.map_eq_some_iff.mp found.symm
    rw [there]
    exact same.symm

theorem text_of_sha256 {first second : Json} (same : canonicalSha256 first = canonicalSha256 second)
    {key other : String} (left : first.value key = .str text)
    (right : second.value key = .str other) :
    text = other := by
  have written := value_of_sha256 same key
  rw [left, right] at written
  exact Json.str.inj written

/-- A grant that is accepted was asked for in tidy words. -/
theorem tidy_of_accepted (inForce : policies.task.status = "active")
    (evaluated : parseTime clock "evaluated_at" (.str request.evaluatedAt) = .ok time)
    (visible : nonblank (.str request.executionEnvironment) = true)
    (accepted : validateOperativeRouteForModel clock policies sizing historicalErrors
      (sealRoute (selectedFields request authority model fit candidate)) model estimate now
      request.currentAuthority = .ok []) :
    strip request.executionEnvironment = request.executionEnvironment ∧
      strip request.evaluatedAt = request.evaluatedAt := by
  obtain ⟨expected, resolved, -, -, same⟩ := accepted_expected inForce accepted
  have named := selected_named request authority model fit candidate
  obtain ⟨environment, moment⟩ := resolve_inputs resolved
  have sameEnvironment := text_of_sha256 same (named.value 2 rfl) environment
  have sameMoment := text_of_sha256 same (named.value 5 rfl) moment
  unfold renewedRequest at sameEnvironment sameMoment
  dsimp only at sameEnvironment sameMoment
  rw [named.value 2 rfl, textOr_str, if_neg (nonblank_str.mp visible)] at sameEnvironment
  rw [named.value 5 rfl, textOr_str, if_neg (nonblank_str.mp (nonblank_of_parseTime evaluated))] at sameMoment
  exact ⟨sameEnvironment.symm, sameMoment.symm⟩

theorem authorized_granted
    (evaluated : parseTime clock "evaluated_at" (.str request.evaluatedAt) = .ok time)
    (resolved : resolveOperativeRoute clock policies sizing request = .ok route)
    (authorized : route.value "dispatch_authorized" = .bool true) :
    ∃ authority model fit candidate, Considered clock request authority ∧
      Granted clock policies sizing request authority model fit candidate ∧
      route = sealRoute (selectedFields request authority model fit candidate) := by
  have denial : ∀ budget reason, (blockedTaskSelectedRoute policies request budget reason).value
      "dispatch_authorized" = .bool false :=
    fun budget reason => (blocked_named policies request budget reason).value 8 rfl
  by_cases claimed : ∃ authority, Considered clock request authority
  · obtain ⟨authority, considered⟩ := claimed
    rw [resolve_considered evaluated considered] at resolved
    cases selected : selectedTaskRoute clock policies sizing request authority with
    | error error =>
      rw [selected] at resolved
      cases resolved
    | ok answer =>
      rw [selected] at resolved
      cases Except.ok.inj resolved
      cases answer with
      | error reason => cases (denial _ reason).symm.trans authorized
      | ok route =>
        obtain ⟨model, fit, candidate, granted, same⟩ := selectedTaskRoute_granted.mp selected
        exact ⟨authority, model, fit, candidate, considered, granted, same⟩
  · obtain ⟨budget, reason, denied, -⟩ :=
      @resolve_unconsidered clock policies sizing request _ evaluated (not_exists.mp claimed)
    cases Except.ok.inj (denied.symm.trans resolved)
    cases (denial budget reason).symm.trans authorized

/-! ## Agreement -/

/-- What the resolver and the two validators owe each other on a request. -/
structure Agrees (clock : Clock) (policies : Policies) (sizing : WorkSizing)
    (historicalErrors : Json → List String) (request : Request) : Prop where
  answered : ∃ route, resolveOperativeRoute clock policies sizing request = .ok route ∧
    validateTaskSelectedRouteShape clock route = .ok []
  dispatched : ∀ route, resolveOperativeRoute clock policies sizing request = .ok route →
    route.value "dispatch_authorized" = .bool true → ∀ model, route.value "selected_model" = .str model →
    ∀ estimate : Option Json, (∀ value ∈ estimate, canonicalSha256 value =
      canonicalSha256 ((request.currentAuthority.value "fit_inputs").value "work_estimate")) →
    ∀ now evaluated, parseTime clock "evaluated_at" (.str request.evaluatedAt) = .ok evaluated →
    Lasts clock request.currentAuthority model now evaluated →
    validateOperativeRouteForModel clock policies sizing historicalErrors route model estimate now
      request.currentAuthority = .ok []
  exact : ∀ route model estimate now authority, validateOperativeRouteForModel clock policies sizing
      historicalErrors route model estimate now authority = .ok [] →
    ∃ expected, resolveOperativeRoute clock policies sizing (renewedRequest route authority) = .ok expected ∧
      expected.value "dispatch_authorized" = .bool true ∧ route.value "selected_model" = .str model ∧
      route.canonical = expected.canonical

/-- The environment has a name, a claim that reaches the fit has inputs that can be read, and a claim that is
granted leaves room for the terminal reserve, has the executor of its model and is asked for in tidy words. -/
structure Sound (clock : Clock) (policies : Policies) (sizing : WorkSizing) (request : Request) : Prop where
  environment : nonblank (.str request.executionEnvironment) = true
  readable : ∀ authority, Considered clock request authority → Reaches policies authority →
    Readable clock policies sizing (fitRequest request authority)
  dispatchable : ∀ authority model fit candidate, Considered clock request authority →
    Granted clock policies sizing request authority model fit candidate → Dispatchable policies request authority model
  tidy : ∀ authority model fit candidate, Considered clock request authority →
    Granted clock policies sizing request authority model fit candidate →
    strip request.executionEnvironment = request.executionEnvironment ∧
      strip request.evaluatedAt = request.evaluatedAt

/-- The resolver and the validators agree on exactly the sound requests. -/
theorem agrees_iff_sound (clock : Clock) (policies : Policies) (sizing : WorkSizing)
    (historicalErrors : Json → List String) (request : Request) (time : Int)
    (inForce : policies.task.status = "active") (risk : request.riskLevel ∈ riskOrder)
    (sensitivity : request.dataSensitivity ∈ dataSensitivityOrder)
    (evaluated : parseTime clock "evaluated_at" (.str request.evaluatedAt) = .ok time) :
    Agrees clock policies sizing historicalErrors request ↔ Sound clock policies sizing request := by
  have answers := @answers_iff clock policies sizing request time risk sensitivity evaluated
  constructor
  · intro agrees
    obtain ⟨visible, readable, dispatchable⟩ := answers.mp agrees.answered
    refine ⟨visible, readable, dispatchable, ?_⟩
    intro authority model fit candidate considered granted
    have named := selected_named request authority model fit candidate
    obtain ⟨_, expires, _, expiresAt, _, before⟩ := granted_window evaluated granted
    have lasts : Lasts clock request.currentAuthority model request.evaluatedAt time := by
      rw [← considered.read.1]
      exact ⟨time, expires, parseTime_label evaluated, parseTime_label expiresAt, le_rfl, before⟩
    exact tidy_of_accepted inForce evaluated visible
      (agrees.dispatched _ (resolve_granted evaluated considered granted) (named.value 8 rfl) model
        (named.value 6 rfl) none (by simp) request.evaluatedAt time evaluated lasts)
  · intro sound
    have answered := answers.mpr ⟨sound.environment, sound.readable, sound.dispatchable⟩
    refine ⟨answered, ?_, ?_⟩
    · intro route resolved authorized model chosen estimate same now moment evaluatedAgain lasts
      obtain ⟨authority, selected, fit, candidate, considered, granted, rfl⟩ :=
        authorized_granted evaluated resolved authorized
      cases Except.ok.inj (evaluated.symm.trans evaluatedAgain)
      have named := selected_named request authority selected fit candidate
      cases Json.str.inj ((named.value 6 rfl).symm.trans chosen)
      obtain ⟨environment, moment⟩ := sound.tidy authority model fit candidate considered granted
      obtain ⟨shown, resolvedAgain, shaped⟩ := answered
      cases Except.ok.inj (resolved.symm.trans resolvedAgain)
      rw [← considered.read.1] at same lasts
      exact granted_accepted risk sensitivity evaluated considered granted shaped environment moment same lasts
    · intro route model estimate now authority accepted
      obtain ⟨expected, resolved, authorized, chosen, same⟩ := accepted_expected inForce accepted
      exact ⟨expected, resolved, authorized, chosen, congrArg Digest.preimage same⟩

/-! ## Examples -/

def repositoryPolicies : Policies where
  task := ⟨"active", true, true, ⟨true, "diagnosis", "semantic", 12, 12, 300, 1, 1, 2, 2⟩⟩
  routing := {
    version := 2
    trustedEvidenceSources := ["trusted-control-plane-session-metadata", "trusted-host-capability-api"]
    requiredLifecycleControls := ["interrupt", "close", "wait"]
    maxAgeSeconds := 3600
    futureSkewSeconds := 0
    substantial := ⟨"bounded-implementation", 32000, 12, 300, 81, 3, 3, 2⟩
    predicted := ⟨"deterministic-context-plan", 16000, 1 / 2, 2⟩
    observed := ⟨"trusted-session-telemetry", 16000, 1 / 2⟩
    lunaFit := ⟨"deterministic", 1, 1, 80, 2, 2, 12, 10⟩ }
  registry key :=
    if key = lunaExecutor then
      some ⟨lunaModel, "Codex 5.6 Luna operative fallback", "medium", "internal", "operative-worker", false, true,
        true, true, true, true⟩
    else if key = terraExecutor then
      some ⟨terraModel, "Codex 5.6 Terra operative fallback", "medium", "internal", "operative-worker", false, true,
        true, true, true, true⟩
    else none
  approvedFallbackExecutors environment :=
    if environment = "connected-codex" then ["internal_worker_gpt55", terraExecutor, lunaExecutor] else []
  taskSelectedPolicySha256 environment := ⟨.str environment⟩

def sampleClock : Clock where
  read text :=
    if text = "2026-09-03T19:00:00Z" then .moment 1788462000000000
    else if text = "2026-09-03T19:15:00Z" then .moment 1788462900000000
    else if text = "2026-09-03T19:45:00Z" then .moment 1788464700000000
    else .unreadable

def zeros (names : List String) : Json := .obj (names.map fun name => (name, .int 0))

def sampleQuantiles : Json :=
  .obj [("tool_calls_p50", .int 4), ("tool_calls_p90", .int 6), ("runtime_seconds_p50", .int 90),
    ("runtime_seconds_p90", .int 180)]

/-- A small implementation that touches one file. -/
def sampleEstimate : Json :=
  .obj [("estimate_type", .str "cwo-native-work-estimate"), ("version", .int 1),
    ("estimate_contract_version", .int 2), ("work_unit_id", .str "wu-1"), ("bead_id", .str "cwo-test.1"),
    ("requested_model", .str lunaModel), ("task_class", .str "bounded-implementation"),
    ("fit_mode", .str "deterministic"), ("primary_outcome", .str "one change"), ("expected_artifacts", .arr []),
    ("expert_profiles", .arr []), ("frozen_decisions", .arr []), ("unresolved_decisions", .arr []),
    ("subsystems", .arr []), ("write_paths", .strings ["file-0.py"]), ("context_manifest", .arr []),
    ("acceptance_checks", .arr []), ("estimates", sampleQuantiles.set "context_tokens_p90" (.int 8000)),
    ("scores", zeros ["reasoning_uncertainty", "subsystem_coupling", "contract_risk",
      "diagnostic_uncertainty", "context_breadth", "validation_breadth"]),
    ("semantic_estimate", ((zeros ["estimated_diff_p50", "behavioral_changes", "state_machine_changes",
      "schema_changes", "self_hosting_risk", "live_control_risk", "contract_surfaces", "cli_surfaces",
      "policy_surfaces", "telemetry_surfaces", "expected_regressions", "test_construction_complexity",
      "command_complexity", "nested_quote_layers", "expected_context_reads", "read_to_mutation_ratio"]).set
      "estimated_diff_p90" (.int 40)).set "expected_mutations" (.int 1)),
    ("pm_estimate", sampleQuantiles), ("domain_expert_estimate", sampleQuantiles),
    ("semantic_scores", zeros ["diff_p90", "behavioral_changes", "state_schema_changes", "surface_changes",
      "expected_regressions", "read_to_mutation_ratio", "self_hosting_live_control_risk",
      "test_construction_complexity", "command_complexity"]),
    ("v1_route", .str "spark"), ("semantic_route", .str "spark"), ("authority_route", .str "spark"),
    ("operative_route", .str "spark"), ("route_conflict", .bool false),
    ("variance_metrics", .obj [
      ("pm_estimate_delta", zeros ["tool_calls_p50", "tool_calls_p90", "runtime_seconds_p50",
        "runtime_seconds_p90"]),
      ("domain_estimate_delta", zeros ["tool_calls_p50", "tool_calls_p90", "runtime_seconds_p50",
        "runtime_seconds_p90"])]),
    ("score_total", .int 0), ("route", .str "spark"), ("hard_gate_reasons", .arr []),
    ("aggregate_allowance", .obj [("dispatch_soft_cap", .int 3),
      ("dispatch_soft_cap_action", .str "pm-architect-review"),
      ("continuation_authority", .str "pm-architect-within-aggregate-budget"), ("max_pm_replans", .int 1),
      ("max_architect_cycles", .int 1), ("max_compactions", .int 0), ("tool_calls_hard", .int 18),
      ("runtime_seconds_hard", .int 420)])]

/-- Work sizing on the estimate of the sample. -/
def sampleSizing : WorkSizing where
  read source :=
    if source = sampleEstimate then
      .ok {
        contractVersion := 2, taskClass := "bounded-implementation", fitMode := "deterministic", route := "spark"
        operativeRoute := "spark", authorityRoute := "spark", unresolvedDecisions := 0, writePaths := 1
        readOnly := false, contextTokensP90 := 8000, toolCallsP90 := 6, runtimeSecondsP90 := 180
        estimatedDiffP50 := 0, estimatedDiffP90 := 40, behavioralChanges := 0, stateMachineChanges := 0
        schemaChanges := 0, expectedContextReads := 0, expectedMutations := 1, commandComplexity := 0
        testConstructionComplexity := 0, selfHostingRisk := 0, liveControlRisk := 0 }
    else .error "malformed source payload"
  sha256 source := canonicalSha256 source
  neutralSha256 source := .ok (canonicalSha256 (source.set "requested_model" (.str "unselected")))

def sampleHash : Json := .sha256 (.str "sample")

def hashes (names : List String) : List (String × Json) := names.map fun name => (name, sampleHash)

def sampleContext : Json :=
  .obj [("bead_id", .str "cwo-test.1"), ("wave_id", .null), ("fresh_segment", .bool true),
    ("work_lineage_id", .str "lineage-1")]

/-- What the host says of the first model. -/
def sampleModel : Json :=
  .obj [("executor", .str "internal_worker_luna"), ("model", .str lunaModel),
    ("source", .str "trusted-control-plane-session-metadata"),
    ("observed_at", .str "2026-09-03T19:15:00Z"), ("exact_model_available", .bool true),
    ("available", .bool true), ("quota_status", .str "usable"), ("capacity_status", .str "available"),
    ("quota_domain", .str "luna"), ("cached_input_metering_domain", .str "luna"),
    ("remaining_input_tokens", .int 100000), ("fresh_session_supported", .bool true),
    ("exact_model_attestation_supported", .bool true),
    ("lifecycle_controls", .strings ["interrupt", "close", "wait"]), ("workspace_enforced", .bool true),
    ("mutation_enforced", .bool true)]

def sampleQualification (model : String) : Json :=
  .obj ([("model", .str model), ("origin_issued_at", .str "2026-09-03T19:00:00Z"),
    ("origin_expires_at", .str "2026-09-03T19:45:00Z")] ++ hashes currentAuthorityQualificationHashes)

/-- A claim to the first model, with the given context. -/
def sampleAuthority (context : Json) : Json :=
  .obj [("version", .int 1),
    ("fit_inputs", .obj [("work_estimate", sampleEstimate),
      ("cache_profile", .obj [("source", .str "deterministic-context-plan"),
        ("observed_at", .str "2026-09-03T19:15:00Z"), ("total_context_tokens_p90", .int 8000),
        ("stable_context_tokens_p90", .int 4000), ("expected_reuse_opportunities", .int 2),
        ("repeatable_unit_count", .int 0), ("repeat_template_sha256", .null), ("observed_input_tokens", .int 0),
        ("observed_cached_input_tokens", .int 0), ("same_work_lineage", .bool false),
        ("context_plan_sha256", sampleHash), ("telemetry_lineage_id", .null), ("evidence_sha256", sampleHash)]),
      ("capability_evidence", .obj [("source", .str "trusted-control-plane-session-metadata"),
        ("operative_models", .arr [sampleModel])]),
      ("context", context),
      ("aggregate_budget", .obj [("tool_calls_hard", .int 30), ("runtime_seconds_hard", .int 600),
        ("allocation_before", .int 7), ("allocation_ceiling", .int 20), ("terminal_reserve", .int 3),
        ("budget_reset_allowed", .bool false)])]),
    ("provenance", .obj (hashes currentAuthorityProvenanceFields)),
    ("attempt", .obj [("attempt_id", .str "attempt-1"), ("bead_id", .str "cwo-test.1"),
      ("work_lineage_id", .str "lineage-1"), ("ownership_sha256", sampleHash), ("fresh_segment", .bool true)]),
    ("attempt_state", .str "ready"), ("bound_model", .str lunaModel),
    ("identity", .obj (hashes currentAuthorityIdentityFields)),
    ("qualifications", .obj (taskSelectedPortfolio.map fun model => (model, sampleQualification model))),
    ("escalation", .null)]

def sampleRequest (authority : Json) : Request where
  executionEnvironment := "connected-codex"
  riskLevel := "medium"
  dataSensitivity := "internal"
  capabilityEvidence := none
  workEstimate := none
  context := none
  aggregateBudget := none
  evaluatedAt := "2026-09-03T19:15:00Z"
  currentAuthority := authority

/-- A claim whose context is an empty object is neither granted nor denied: the resolver raises. -/
theorem empty_context_disagrees :
    ¬ Agrees sampleClock repositoryPolicies sampleSizing (fun _ => []) (sampleRequest (sampleAuthority (.obj []))) := by
  intro agrees
  obtain ⟨route, resolved, -⟩ := agrees.answered
  have raises : (resolveOperativeRoute sampleClock repositoryPolicies sampleSizing
      (sampleRequest (sampleAuthority (.obj [])))).isOk = false := by decide +kernel
  rw [resolved] at raises
  cases raises

theorem sample_readable (value : Json) : AgeReadable sampleClock repositoryPolicies.routing value := by
  refine .inr (.inr fun text _ _ => ?_)
  unfold sampleClock
  dsimp only
  split_ifs <;> exact TimeReading.noConfusion

/-- With its context the same claim is granted, and the two validators agree with the answer. -/
theorem sample_agrees :
    (resolveOperativeRoute sampleClock repositoryPolicies sampleSizing
      (sampleRequest (sampleAuthority sampleContext))).toOption.map (·.value "dispatch_authorized") =
        some (.bool true) ∧
    Agrees sampleClock repositoryPolicies sampleSizing (fun _ => []) (sampleRequest (sampleAuthority sampleContext)) := by
  refine ⟨by decide +kernel, ?_⟩
  refine (agrees_iff_sound sampleClock repositoryPolicies sampleSizing (fun _ => [])
    (sampleRequest (sampleAuthority sampleContext)) 1788462900000000 rfl (by decide) (by decide)
    (by decide +kernel)).mpr ⟨by decide +kernel, ?_, ?_, fun _ _ _ _ _ _ => by decide +kernel⟩
  · intro authority considered _
    rw [considered.read.1]
    exact ⟨rfl, ⟨_, rfl⟩, by decide +kernel, ⟨_, rfl⟩, ⟨_, rfl⟩,
      fun _ _ => ⟨fun _ => sample_readable _, fun _ => sample_readable _⟩⟩
  · intro authority model fit candidate considered granted
    have bound := granted.bound
    rw [considered.read.1] at bound ⊢
    have first : boundModel (sampleAuthority sampleContext) = some lunaModel := by decide +kernel
    cases Option.some.inj (first.symm.trans bound)
    exact ⟨by decide +kernel, by decide +kernel⟩

end WorkOrchestration.Routing.RouteAgreement
