import WorkOrchestration.Routing.FitFacts

/-!
# The shape of the routes that are answered

Every denial has the shape that the validator asks for; a granted route has it where its budget leaves room
for the terminal reserve and its executor is the one that its model is dispatched to.
-/

namespace WorkOrchestration.Routing.RouteShape

open List Lib.Checks
open Native.Artifacts hiding canonicalSha256
open Native.Artifacts.Json (isOneOf)
open CurrentAuthority
open TaskSelectedFit hiding requireProvenance
open TaskSelectedRoute AuthorityFacts FitFacts

variable {clock : Clock} {policies : Policies} {sizing : WorkSizing} {request : Request}
  {fields : List (String × Json)}

/-! ## Sealed documents -/

theorem keys_obj (fields : List (String × Json)) : (Json.obj fields).keys = fields.map Prod.fst := by
  induction fields with
  | nil => rfl
  | cons entry rest ih => exact congrArg (entry.1 :: ·) ih

theorem isObject_obj (fields : List (String × Json)) : (Json.obj fields).isObject = true := by
  cases fields with
  | nil | cons => rfl

theorem get?_obj (distinct : (fields.map Prod.fst).Nodup) (index : Nat) {key : String} {value : Json}
    (found : fields[index]? = some (key, value)) : (Json.obj fields).get? key = some value := by
  induction fields generalizing index with
  | nil => cases found
  | cons entry rest ih =>
    rw [map_cons, nodup_cons] at distinct
    change (if entry.1 = key then some entry.2 else (Json.obj rest).get? key) = some value
    cases index with
    | zero =>
      cases Option.some.inj found
      exact if_pos rfl
    | succ index =>
      have later : rest[index]? = some (key, value) := found
      rw [if_neg, ih distinct.2 index later]
      rintro rfl
      exact distinct.1 (mem_map.mpr ⟨_, mem_of_getElem? later, rfl⟩)

theorem erase_obj_last {key : String} {value : Json} (absent : key ∉ fields.map Prod.fst) :
    (Json.obj (fields ++ [(key, value)])).erase key = .obj fields := by
  induction fields with
  | nil => exact if_pos rfl
  | cons entry rest ih =>
    rw [map_cons, mem_cons, not_or] at absent
    change (if entry.1 = key then _ else Json.field entry.1 entry.2 ((Json.obj (rest ++ _)).erase key)) = _
    rw [if_neg (Ne.symm absent.1), ih absent.2]
    rfl

theorem taskSelectedRouteFields_nodup : taskSelectedRouteFields.Nodup := by decide +kernel

/-- The fields of a route, in the order of the validator's list. -/
def Named (fields : List (String × Json)) : Prop :=
  fields.map Prod.fst ++ ["route_sha256"] = taskSelectedRouteFields

section

variable (named : Named fields)

include named

theorem Named.keys : (sealRoute fields).keys = taskSelectedRouteFields := by
  unfold sealRoute
  rw [keys_obj, List.map_append]
  exact named

theorem Named.hasExactly : (sealRoute fields).hasExactly taskSelectedRouteFields = true := by
  unfold Json.hasExactly
  rw [named.keys]
  simp only [Bool.and_eq_true, all_eq_true, contains_iff_mem]
  exact ⟨⟨isObject_obj _, fun _ member => member⟩, fun _ member => member⟩

theorem Named.value (index : Nat) {key : String} {value : Json}
    (found : fields[index]? = some (key, value)) : (sealRoute fields).value key = value := by
  unfold sealRoute Json.value
  rw [@get?_obj _ _ index key value]
  · rfl
  · rw [List.getElem?_append_left (List.getElem?_eq_some_iff.mp found).1, found]
  · rw [List.map_append]
    exact named ▸ taskSelectedRouteFields_nodup

theorem Named.absent : "route_sha256" ∉ fields.map Prod.fst := by
  have distinct : (fields.map Prod.fst ++ ["route_sha256"]).Nodup := named ▸ taskSelectedRouteFields_nodup
  intro present
  exact (nodup_append.mp distinct).2.2 _ present _ (mem_singleton.mpr rfl) rfl

theorem Named.digest :
    (sealRoute fields).value "route_sha256" = (canonicalSha256 (.obj fields)).json := by
  unfold sealRoute Json.value
  rw [@get?_obj _ _ fields.length "route_sha256" (canonicalSha256 (.obj fields)).json (by simp)]
  · rfl
  · rw [List.map_append]
    exact named ▸ taskSelectedRouteFields_nodup

theorem Named.seal : sealShape (sealRoute fields) = [] := by
  unfold sealShape
  rw [named.digest]
  change shapeError (decide ((canonicalSha256 (.obj fields)).json = _)) _ = []
  unfold sealRoute
  rw [erase_obj_last named.absent, decide_eq_true rfl]
  rfl

end

/-! ## Rules -/

@[simp]
theorem shapeError_nil {condition : Bool} {message : String} :
    shapeError condition message = [] ↔ condition = true := by
  unfold shapeError
  simp

theorem shapeSha256_nil {field : String} {value : Json} : shapeSha256 field value = [] ↔ isSha256 value = true :=
  shapeError_nil

theorem shapeTime_of {label other : String} {value : Json} {time : Int}
    (read : parseTime clock label value = .ok time) : shapeTime clock other value = .ok (some time, []) := by
  unfold shapeTime
  rw [parseTime_label read]

theorem provenanceShape_nil {provenance : Json} (read : ProvenanceRead provenance) :
    provenanceShape provenance = [] := by
  unfold provenanceShape
  rw [read.exact]
  by_cases absent : provenance = .null
  · rw [if_pos absent]
  · rw [if_neg absent]
    exact flatMap_eq_nil_iff.mpr fun field member => shapeSha256_nil.mpr (read.hashes field member)

theorem attemptShape_nil {attempt : Json} (read : AttemptRead attempt) : attemptShape attempt = [] := by
  unfold attemptShape
  rw [read.exact]
  by_cases absent : attempt = .null
  · rw [if_pos absent]
  · rw [if_neg absent, if_neg (by simp), append_eq_nil_iff, append_eq_nil_iff]
    refine ⟨⟨flatMap_eq_nil_iff.mpr fun field member => ?_, shapeSha256_nil.mpr read.ownership⟩,
      shapeError_nil.mpr read.segment⟩
    exact shapeError_nil.mpr (read.names field member)

variable {model : String}

theorem qualificationShape_of {qualification : Json} {issued expires : Int}
    (member : model ∈ taskSelectedPortfolio) (read : QualificationRead clock model qualification)
    (issuedAt : parseTime clock "qualification origin_issued_at" (qualification.value "origin_issued_at") = .ok issued)
    (expiresAt : parseTime clock "qualification origin_expires_at" (qualification.value "origin_expires_at") =
      .ok expires) :
    qualificationShape clock qualification = .ok ((some issued, some expires), []) := by
  unfold qualificationShape
  have present : qualification ≠ .null := by
    rintro rfl
    cases read.exact
  rw [if_neg present, read.exact, shapeTime_of issuedAt, shapeTime_of expiresAt]
  refine congrArg Except.ok (Prod.ext rfl ?_)
  simp only [nil_append, append_eq_nil_iff, flatMap_eq_nil_iff, shapeError_nil, shapeSha256_nil]
  refine ⟨?_, read.hashes⟩
  rw [read.model]
  exact contains_iff_mem.mpr member

theorem budgetShape_nil {authorized : Bool} {budget : Json} (reads : normalizeCurrentBudget budget = .ok budget) :
    budgetShape (.bool authorized) budget = [] ↔ (authorized = true → leavesTerminalAllocation budget = true) := by
  unfold budgetShape
  rw [reads]
  cases authorized
  · simp
  · simp

/-! ## The fit of a route -/

theorem candidatesShape_nil (first second : Candidate) :
    candidatesShape (.arr ([first, second].map Candidate.json)) = [] := by
  rfl

theorem fit_value (fit : Fit) (index : Nat) {key : String} {value : Json}
    (found : (fit.fields ++ [("fit_sha256", fit.sha256.json)])[index]? = some (key, value)) :
    fit.json.value key = value := by
  have distinct : taskSelectedFitFields.Nodup := by decide +kernel
  unfold Fit.json Json.value
  rw [@get?_obj (fit.fields ++ [("fit_sha256", fit.sha256.json)]) distinct index _ _ found]
  rfl

variable {fit : Fit}

theorem fitShape_of {fitRequest : FitRequest} {time : Int} (built : Built policies fitRequest fit)
    (evaluated : parseTime clock "evaluated_at" fitRequest.evaluatedAt = .ok time) :
    fitShape clock fit.json = .ok [] := by
  have exact : fit.json.hasExactly taskSelectedFitFields = true := by
    unfold Json.hasExactly
    simp only [Bool.and_eq_true, all_eq_true, contains_iff_mem]
    exact ⟨⟨isObject_obj _, fun _ member => member⟩, fun _ member => member⟩
  obtain ⟨luna, terra, candidates⟩ : ∃ luna terra, fit.candidates = [luna, terra] := by
    obtain ⟨luna, rest, listed, -, others⟩ := map_eq_cons_iff.mp built.candidates
    obtain ⟨terra, none, last, -, nothing⟩ := map_eq_cons_iff.mp others
    rw [listed, last, map_eq_nil_iff.mp nothing]
    exact ⟨luna, terra, rfl⟩
  rw [← built.evaluatedAt, ← fit_value fit 3 rfl] at evaluated
  unfold fitShape
  rw [if_neg (by exact Json.noConfusion), exact, Fit.json, isObject_obj, if_neg (by simp), if_neg (by simp),
    ← Fit.json, shapeTime_of evaluated]
  refine congrArg Except.ok ?_
  rw [fit_value fit 0 rfl, fit_value fit 1 rfl, fit_value fit 2 rfl,
    fit_value fit 6 rfl, fit_value fit 13 rfl, candidates, candidatesShape_nil]
  simp only [append_nil, append_eq_nil_iff, shapeError_nil, shapeSha256_nil, flatMap_eq_nil_iff,
    decide_true, true_and, fitHashes, forall_mem_cons]
  rw [fit_value fit 4 rfl, fit_value fit 5 rfl, fit_value fit 7 rfl,
    fit_value fit 8 rfl, fit_value fit 9 rfl, fit_value fit 10 rfl,
    fit_value fit 11 rfl, fit_value fit 12 rfl, fit_value fit 14 rfl,
    built.context, built.cacheProfile]
  exact ⟨⟨rfl, rfl, rfl, rfl, rfl, rfl, by simp⟩, rfl, rfl, rfl, by simp⟩

/-! ## The whole shape -/

theorem shape_nil {route : Json} {time : Int} {times : Option Int × Option Int} {errors : List String}
    (exact : route.hasExactly taskSelectedRouteFields = true)
    (evaluated : parseTime clock "evaluated_at" (route.value "evaluated_at") = .ok time)
    (qualification : qualificationShape clock (route.value "qualification") = .ok (times, errors))
    (fit : fitShape clock (route.value "fit_evidence") = .ok []) :
    validateTaskSelectedRouteShape clock route = .ok [] ↔
      headShape route = [] ∧ fieldsShape route = [] ∧ errors = [] ∧
        provenanceShape (route.value "provenance") = [] ∧ attemptShape (route.value "attempt") = [] ∧
        budgetShape (route.value "dispatch_authorized") (route.value "aggregate_budget") = [] ∧
        exclusionsShape (route.value "candidate_exclusions") = [] ∧ expiryShape times = [] ∧
        decisionShape route = [] ∧ sealShape route = [] := by
  unfold validateTaskSelectedRouteShape
  rw [isObject_of_hasExactly exact, exact, if_neg (by simp), if_neg (by simp), shapeTime_of evaluated,
    qualification, fit]
  change Except.ok _ = Except.ok [] ↔ _
  rw [Except.ok.injEq]
  simp only [append_eq_nil_iff, append_nil, and_assoc]

theorem headShape_nil {route : Json} (risk : request.riskLevel ∈ riskOrder)
    (sensitivity : request.dataSensitivity ∈ dataSensitivityOrder)
    (kind : route.value "route_type" = .str "cwo-operative-route") (version : route.value "version" = .int 3)
    (environment : route.value "execution_environment" = .str request.executionEnvironment)
    (riskLevel : route.value "risk_level" = .str request.riskLevel)
    (dataSensitivity : route.value "data_sensitivity" = .str request.dataSensitivity) :
    headShape route = [] ↔ nonblank (.str request.executionEnvironment) = true := by
  unfold headShape
  rw [kind, version, environment, riskLevel, dataSensitivity]
  simp only [append_eq_nil_iff, shapeError_nil, decide_true, true_and, isOneOf, contains_iff_mem, risk,
    sensitivity, and_true]
  rfl

/-! ## Denials -/

theorem preservesText : nonblank (.str
    "C1 preserves current authority for later selection; it does not authorize dispatch.") = true := by
  decide +kernel

theorem blocked_named (policies : Policies) (request : Request) (budget : Json) (stopReason : String) :
    Named (blockedFields policies request budget stopReason) := rfl

/-- A denial has the shape of a route wherever the environment has a name. -/
theorem blocked_shape {budget : Json} {stopReason : String} {time : Int}
    (risk : request.riskLevel ∈ riskOrder) (sensitivity : request.dataSensitivity ∈ dataSensitivityOrder)
    (evaluated : parseTime clock "evaluated_at" (.str request.evaluatedAt) = .ok time)
    (spending : budget = .null ∨ normalizeCurrentBudget budget = .ok budget)
    (reason : nonblank (.str stopReason) = true) :
    validateTaskSelectedRouteShape clock (blockedTaskSelectedRoute policies request budget stopReason) = .ok [] ↔
      nonblank (.str request.executionEnvironment) = true := by
  have named := blocked_named policies request budget stopReason
  have head : headShape (sealRoute (blockedFields policies request budget stopReason)) = [] ↔
      nonblank (.str request.executionEnvironment) = true :=
    headShape_nil risk sensitivity (named.value 0 rfl) (named.value 1 rfl) (named.value 2 rfl)
      (named.value 3 rfl) (named.value 4 rfl)
  have others : fieldsShape (sealRoute (blockedFields policies request budget stopReason)) = [] := by
    unfold fieldsShape
    simp only [append_eq_nil_iff, flatMap_eq_nil_iff, shapeError_nil, shapeSha256_nil,
      shapeNullableSha256, forall_mem_cons]
    rw [named.value 13 rfl, named.value 14 rfl, named.value 15 rfl, named.value 8 rfl, named.value 9 rfl,
      named.value 11 rfl, named.value 25 rfl, named.value 12 rfl, named.digest, named.value 16 rfl,
      named.value 17 rfl, named.value 19 rfl, named.value 20 rfl, named.value 7 rfl, named.value 10 rfl,
      named.value 26 rfl, named.value 27 rfl, named.value 28 rfl, named.value 6 rfl]
    simp only [not_mem_nil, IsEmpty.forall_iff, implies_true, and_true, decide_true, true_and, Bool.true_or, reason,
      Bool.or_true]
    exact ⟨⟨⟨rfl, rfl, rfl⟩, rfl, rfl⟩, preservesText⟩
  have decision : decisionShape (sealRoute (blockedFields policies request budget stopReason)) = [] := by
    unfold decisionShape blockedShape
    rw [named.value 8 rfl, named.value 9 rfl, named.value 10 rfl]
    simp only [append_eq_nil_iff, flatMap_eq_nil_iff, forall_mem_cons]
    rw [named.value 6 rfl, named.value 7 rfl, named.value 26 rfl, named.value 27 rfl]
    simp [reason]
  have budgets : budgetShape (.bool false) budget = [] := by
    obtain rfl | reads := spending
    · rfl
    · exact (budgetShape_nil reads).mpr (by simp)
  unfold blockedTaskSelectedRoute
  rw [@shape_nil clock _ time (none, none) [] named.hasExactly evaluated, head]
  · rw [named.value 22 rfl, named.value 23 rfl, named.value 8 rfl, named.value 24 rfl, named.value 29 rfl]
    exact ⟨fun all => all.1, fun visible => ⟨visible, others, rfl, rfl, rfl, budgets, rfl, rfl, decision, named.seal⟩⟩
  · rw [named.value 21 rfl]
    rfl
  · rw [named.value 18 rfl]
    rfl

/-! ## Grants -/

/-- A claim that is granted a model on the strength of a fit. -/
structure Granted (clock : Clock) (policies : Policies) (sizing : WorkSizing) (request : Request)
    (authority : Json) (model : String) (fit : Fit) (candidate : Candidate) : Prop where
  active : policyActive policies = true
  ready : authority.value "attempt_state" = .str "ready"
  segment : (authority.value "attempt").value "fresh_segment" = .bool true
  bound : boundModel authority = some model
  fits : buildTaskSelectedFit clock policies sizing (fitRequest request authority) = .ok fit
  found : fit.candidates.find? (fun item => decide (item.model = model)) = some candidate
  eligible : candidate.eligible = true
  escalation : model = terraModel → escalates (authority.value "escalation") = true ∧
    (authority.value "escalation").value "fit_sha256" = fit.sha256.json
  qualification : ((authority.value "qualifications").value model).value "model" = .str model
  current : ∃ issued expires now, qualificationTimes clock ((authority.value "qualifications").value model)
    (.str request.evaluatedAt) = .ok (issued, expires, now) ∧ issued ≤ now ∧ now < expires
  identity : ∀ field ∈ currentAuthorityIdentityFields,
    ((authority.value "qualifications").value model).value field = (authority.value "identity").value field
  bead : (authority.value "attempt").value "bead_id" =
    ((authority.value "fit_inputs").value "context").value "bead_id"
  lineage : (authority.value "attempt").value "work_lineage_id" =
    ((authority.value "fit_inputs").value "context").value "work_lineage_id"

theorem selectedTaskRoute_granted {authority route : Json} :
    selectedTaskRoute clock policies sizing request authority = .ok (.ok route) ↔
      ∃ model fit candidate, Granted clock policies sizing request authority model fit candidate ∧
        route = sealRoute (selectedFields request authority model fit candidate) := by
  constructor
  · intro selected
    unfold selectedTaskRoute at selected
    dsimp only at selected
    split at selected
    · cases selected
    next active =>
    split at selected
    · cases selected
    next ready =>
    split at selected
    · cases selected
    next model bound =>
    obtain ⟨fit, fits, selected⟩ := bind_ok selected
    split at selected
    · cases selected
    next candidate found =>
    split at selected
    · cases selected
    next eligible =>
    split at selected
    · cases selected
    next escalation =>
    split at selected
    · cases selected
    next escalatedFit =>
    unfold qualifiedRoute at selected
    dsimp only at selected
    split at selected
    · split at selected <;> cases selected
    next issued expires now times =>
    split at selected
    · cases selected
    next current =>
    split at selected
    · cases selected
    next identity =>
    split at selected
    · cases selected
    next context =>
    rw [not_or, not_not, not_not] at ready context
    rw [not_or, not_not, not_not] at current
    rw [Bool.not_eq_true, any_eq_false] at identity
    refine ⟨model, fit, candidate, ⟨Bool.of_not_eq_false active, ready.1, ready.2, bound, fits, found,
      Bool.of_not_eq_false eligible, fun terra => ⟨?_, ?_⟩, current.1, ⟨issued, expires, now, times, current.2⟩,
      fun field member => ?_, context.1, context.2⟩, (Except.ok.inj (Except.ok.inj selected)).symm⟩
    · by_contra refused
      exact escalation ⟨terra, Bool.of_not_eq_true refused⟩
    · by_contra other
      exact escalatedFit ⟨terra, other⟩
    · by_contra other
      exact identity field member (decide_eq_true other)
  · rintro ⟨model, fit, candidate, granted, rfl⟩
    obtain ⟨issued, expires, now, times, started, lasts⟩ := granted.current
    unfold selectedTaskRoute qualifiedRoute
    rw [if_neg (by rw [granted.active]; exact Bool.noConfusion),
      if_neg (fun stale => stale.elim (· granted.ready) (· granted.segment)), granted.bound]
    rw [granted.fits]
    dsimp only [bind, Except.bind]
    rw [granted.found]
    dsimp only
    rw [if_neg (by rw [granted.eligible]; exact Bool.noConfusion), if_neg, if_neg, times]
    · dsimp only
      rw [if_neg, if_neg, if_neg (fun apart => apart.elim (· granted.bead) (· granted.lineage))]
      · rw [Bool.not_eq_true, any_eq_false]
        exact fun field member other => of_decide_eq_true other (granted.identity field member)
      · exact fun stale => stale.elim (· granted.qualification) (· ⟨started, lasts⟩)
    · exact fun other => other.2 (granted.escalation other.1).2
    · intro refused
      rw [(granted.escalation refused.1).1] at refused
      exact Bool.noConfusion refused.2

/-- A claim for which a fit has to be built. -/
structure Reaches (policies : Policies) (authority : Json) : Prop where
  active : policyActive policies = true
  ready : authority.value "attempt_state" = .str "ready"
  segment : (authority.value "attempt").value "fresh_segment" = .bool true
  bound : ∃ model, boundModel authority = some model

variable {authority : Json}

theorem selectedTaskRoute_stuck {error : PyError} (reaches : Reaches policies authority)
    (stuck : buildTaskSelectedFit clock policies sizing (fitRequest request authority) = .error error) :
    selectedTaskRoute clock policies sizing request authority = .error error := by
  obtain ⟨model, bound⟩ := reaches.bound
  unfold selectedTaskRoute
  rw [if_neg (by rw [reaches.active]; exact Bool.noConfusion),
    if_neg (fun stale => stale.elim (· reaches.ready) (· reaches.segment)), bound]
  rw [stuck]
  rfl

theorem boundModel_mem (bound : boundModel authority = some model) :
    model ∈ taskSelectedPortfolio := by
  unfold boundModel at bound
  split at bound
  · split at bound
    next known =>
        cases Option.some.inj bound
        exact contains_iff_mem.mp known
    next => cases bound
  · cases bound

theorem qualificationTimes_of {time : Int}
    (read : AuthorityRead clock authority) (member : model ∈ taskSelectedPortfolio)
    (evaluated : parseTime clock "evaluated_at" (.str request.evaluatedAt) = .ok time) :
    (∃ error, qualificationTimes clock ((authority.value "qualifications").value model)
        (.str request.evaluatedAt) = .error error ∧ error.kind = .value) ∨
      ∃ issued expires, qualificationTimes clock ((authority.value "qualifications").value model)
        (.str request.evaluatedAt) = .ok (issued, expires, time) := by
  unfold qualificationTimes
  obtain absent | present := read.qualifications model member
  · rw [absent]
    exact .inl ⟨_, rfl, rfl⟩
  · obtain ⟨issued, issuedAt⟩ := present.issued
    obtain ⟨expires, expiresAt⟩ := present.expires
    rw [parseTime_label issuedAt, parseTime_label expiresAt, evaluated]
    exact .inr ⟨issued, expires, rfl⟩

/-- A claim is granted, or denied for a reason that has a text, or its fit cannot be built. -/
theorem selectedTaskRoute_cases {time : Int} (read : AuthorityRead clock authority)
    (evaluated : parseTime clock "evaluated_at" (.str request.evaluatedAt) = .ok time) :
    (∃ route, selectedTaskRoute clock policies sizing request authority = .ok (.ok route)) ∨
      (∃ reason, selectedTaskRoute clock policies sizing request authority = .ok (.error reason) ∧
        nonblank (.str reason) = true) ∨
      (Reaches policies authority ∧ ∃ error,
        buildTaskSelectedFit clock policies sizing (fitRequest request authority) = .error error) := by
  unfold selectedTaskRoute
  dsimp only
  split
  · exact .inr (.inl ⟨_, rfl, by decide +kernel⟩)
  next active =>
  split
  · exact .inr (.inl ⟨_, rfl, by decide +kernel⟩)
  next ready =>
  rw [not_or, not_not, not_not] at ready
  split
  · exact .inr (.inl ⟨_, rfl, by decide +kernel⟩)
  next model bound =>
  cases fits : buildTaskSelectedFit clock policies sizing (fitRequest request authority) with
  | error error =>
    exact .inr (.inr ⟨⟨Bool.of_not_eq_false active, ready.1, ready.2, model, bound⟩, error, rfl⟩)
  | ok fit =>
    dsimp only [bind, Except.bind]
    split
    · exact .inr (.inl ⟨_, rfl, by decide +kernel⟩)
    next candidate _ =>
    split
    · exact .inr (.inl ⟨_, rfl, by decide +kernel⟩)
    split
    · exact .inr (.inl ⟨_, rfl, by decide +kernel⟩)
    split
    · exact .inr (.inl ⟨_, rfl, by decide +kernel⟩)
    unfold qualifiedRoute
    dsimp only
    obtain ⟨error, missing, kind⟩ | ⟨issued, expires, times⟩ :=
      qualificationTimes_of read (boundModel_mem bound) evaluated
    · rw [missing]
      dsimp only
      rw [if_pos kind]
      exact .inr (.inl ⟨_, rfl, by decide +kernel⟩)
    · rw [times]
      dsimp only
      split
      · exact .inr (.inl ⟨_, rfl, by decide +kernel⟩)
      split
      · exact .inr (.inl ⟨_, rfl, by decide +kernel⟩)
      split
      · exact .inr (.inl ⟨_, rfl, by decide +kernel⟩)
      exact .inl ⟨_, rfl⟩

/-! ## The shape of a grant -/

theorem selected_named (request : Request) (authority : Json) (model : String) (fit : Fit)
    (candidate : Candidate) : Named (selectedFields request authority model fit candidate) := rfl

/-- What a route says about a candidate that is left out. -/
def exclusionOf (candidate : Candidate) : Json :=
  .obj [("model", .str candidate.model), ("exclusion_reasons", .strings candidate.exclusionReasons)]

variable {candidate : Candidate}

theorem exclusionShape_nil {seen : List Json} (excluded : candidate.eligible = false)
    (known : candidate.model ∈ taskSelectedPortfolio) (unseen : .str candidate.model ∉ seen)
    (reasons : ∀ reason ∈ candidate.exclusionReasons, nonblank (.str reason) = true) :
    exclusionShape seen (exclusionOf candidate) = [] := by
  have fields : (exclusionOf candidate).hasExactly ["model", "exclusion_reasons"] = true := by
    simp [Json.hasExactly, exclusionOf, keys_obj, isObject_obj]
  unfold exclusionShape
  rw [fields, if_neg (Bool.noConfusion : true ≠ false)]
  simp only [append_eq_nil_iff, shapeError_nil]
  refine ⟨?_, ?_⟩
  · change (taskSelectedPortfolio.contains candidate.model && !seen.contains (.str candidate.model)) = true
    rw [contains_iff_mem.mpr known, Bool.true_and, Bool.not_eq_true', ← Bool.not_eq_true,
      contains_iff_mem]
    exact unseen
  · have listed : ((exclusionOf candidate).value "exclusion_reasons").elements? =
        some (candidate.exclusionReasons.map .str) := Json.elements?_arr _
    rw [listed]
    unfold Candidate.eligible at excluded
    dsimp only
    rw [isEmpty_map, excluded]
    simp only [Bool.not_false, Bool.true_and, all_map, all_eq_true, Function.comp_apply, isPlainReason]
    exact reasons

theorem exclusionsShape_nil {fitRequest : FitRequest} (built : Built policies fitRequest fit) :
    exclusionsShape (.arr ((fit.candidates.filter fun item => !item.eligible).map exclusionOf)) = [] := by
  obtain ⟨luna, rest, listed, lunaNamed, others⟩ := map_eq_cons_iff.mp built.candidates
  obtain ⟨terra, nothing, last, terraNamed, empty⟩ := map_eq_cons_iff.mp others
  rw [map_eq_nil_iff] at empty
  rw [last, empty] at listed
  have lunaReasons := built.reasons luna (by simp [listed])
  have terraReasons := built.reasons terra (by simp [listed])
  have lunaKnown : luna.model ∈ taskSelectedPortfolio := by simp [lunaNamed, taskSelectedPortfolio]
  have terraKnown : terra.model ∈ taskSelectedPortfolio := by simp [terraNamed, taskSelectedPortfolio]
  unfold exclusionsShape
  rw [Json.elements?_arr, listed]
  cases lunaLeft : luna.eligible
  · cases terraLeft : terra.eligible
    · simp only [List.filter, lunaLeft, terraLeft, Bool.not_false, List.map, exclusionsShapeFrom,
        append_eq_nil_iff, and_true]
      refine ⟨exclusionShape_nil lunaLeft lunaKnown not_mem_nil lunaReasons,
        exclusionShape_nil terraLeft terraKnown ?_ terraReasons⟩
      change Json.str terra.model ∉ [Json.str luna.model]
      rw [mem_singleton, lunaNamed, terraNamed]
      decide
    · simp only [List.filter, lunaLeft, terraLeft, Bool.not_false, Bool.not_true, List.map, exclusionsShapeFrom,
        append_eq_nil_iff, and_true]
      exact exclusionShape_nil lunaLeft lunaKnown not_mem_nil lunaReasons
  · cases terraLeft : terra.eligible
    · simp only [List.filter, lunaLeft, terraLeft, Bool.not_false, Bool.not_true, List.map, exclusionsShapeFrom,
        append_eq_nil_iff, and_true]
      exact exclusionShape_nil terraLeft terraKnown not_mem_nil terraReasons
    · simp only [List.filter, lunaLeft, terraLeft, Bool.not_true, List.map, exclusionsShapeFrom]

theorem Granted.qualificationRead
    (granted : Granted clock policies sizing request authority model fit candidate)
    (read : AuthorityRead clock authority) :
    QualificationRead clock model ((authority.value "qualifications").value model) := by
  obtain absent | present := read.qualifications model (boundModel_mem granted.bound)
  · have named := granted.qualification
    rw [absent] at named
    cases named
  · exact present

theorem Granted.executor
    (granted : Granted clock policies sizing request authority model fit candidate) :
    candidate.executor = policies.executorByModel request.executionEnvironment model := by
  have matched := find?_some granted.found
  have named : candidate.model = model := of_decide_eq_true matched
  rw [(built_of granted.fits).executors candidate (mem_of_find?_eq_some granted.found), named]
  rfl

theorem selectionTexts (model : String) : nonblank (.str (if model = lunaModel then
    "Qualified Luna-first current selection." else "Qualified Terra selection with recorded escalation.")) =
    true := by
  split
  · decide +kernel
  · decide +kernel

theorem roleText (member : model ∈ taskSelectedPortfolio) :
    nonblank (.str ((role? model).getD "")) = true := by
  rcases mem_pair.mp member with rfl | rfl
  · decide +kernel
  · decide +kernel

theorem present_of_hasExactly {names : List String} {document : Json}
    (exact : document.hasExactly names = true) : document ≠ .null := by
  rintro rfl
  cases exact

theorem json_ne_null (digest : Digest) : digest.json ≠ .null := Json.noConfusion

theorem fit_ne_null (fit : Fit) : fit.json ≠ .null := Json.noConfusion

theorem dispatchedTo {model executor : String} (member : model ∈ taskSelectedPortfolio) :
    ((¬ forModel alias? (.str model) = .null) ∧ .str executor = forModel alias? (.str model)) ∧
        .str ((role? model).getD "") = forModel role? (.str model) ↔
      alias? model = some executor := by
  rcases mem_pair.mp member with rfl | rfl
  · change ((¬ Json.str lunaExecutor = .null) ∧ Json.str executor = .str lunaExecutor) ∧
      Json.str "luna-first-operative-worker" = .str "luna-first-operative-worker" ↔ some lunaExecutor = some executor
    simp [eq_comm]
  · change ((¬ Json.str terraExecutor = .null) ∧ Json.str executor = .str terraExecutor) ∧
      Json.str "escalation-only-operative-worker" = .str "escalation-only-operative-worker" ↔
        some terraExecutor = some executor
    simp [eq_comm]

theorem alias_nonblank {model executor : String} (dispatched : alias? model = some executor) :
    nonblank (.str executor) = true := by
  unfold alias? at dispatched
  split at dispatched
  · cases Option.some.inj dispatched
    decide +kernel
  · split at dispatched
    · cases Option.some.inj dispatched
      decide +kernel
    · cases dispatched

theorem isSha256_json (digest : Digest) : isSha256 digest.json = true := rfl

/-- The route of a grant has the shape of a route where its environment has a name, its budget leaves room
for the terminal reserve and its executor is the one that its model is dispatched to. -/
theorem selected_shape {time : Int}
    (risk : request.riskLevel ∈ riskOrder) (sensitivity : request.dataSensitivity ∈ dataSensitivityOrder)
    (evaluated : parseTime clock "evaluated_at" (.str request.evaluatedAt) = .ok time)
    (read : AuthorityRead clock authority)
    (granted : Granted clock policies sizing request authority model fit candidate) :
    validateTaskSelectedRouteShape clock (sealRoute (selectedFields request authority model fit candidate)) =
        .ok [] ↔
      nonblank (.str request.executionEnvironment) = true ∧
        leavesTerminalAllocation ((authority.value "fit_inputs").value "aggregate_budget") = true ∧
        alias? model = some (policies.executorByModel request.executionEnvironment model) := by
  rw [← granted.executor]
  have named := selected_named request authority model fit candidate
  have member := boundModel_mem granted.bound
  have built := built_of granted.fits
  have qualification := granted.qualificationRead read
  obtain ⟨issued, issuedAt⟩ := qualification.issued
  obtain ⟨expires, expiresAt⟩ := qualification.expires
  obtain ⟨started, ends, now, times, startsBefore, endsAfter⟩ := granted.current
  have window : issued < expires := by
    unfold qualificationTimes at times
    rw [parseTime_label issuedAt, parseTime_label expiresAt, evaluated] at times
    obtain ⟨rfl, rfl, rfl⟩ : issued = started ∧ expires = ends ∧ time = now := by
      have same := Except.ok.inj times
      simp only [Prod.mk.injEq] at same
      exact same
    omega
  obtain ⟨budget, reads⟩ := read.budget
  cases normalizeCurrentBudget_ok reads
  have head := headShape_nil risk sensitivity (named.value 0 rfl) (named.value 1 rfl) (named.value 2 rfl)
    (named.value 3 rfl) (named.value 4 rfl)
  have others : fieldsShape (sealRoute (selectedFields request authority model fit candidate)) = [] ↔
      nonblank (.str candidate.executor) = true := by
    unfold fieldsShape
    simp only [append_eq_nil_iff, flatMap_eq_nil_iff, shapeError_nil, shapeSha256_nil,
      shapeNullableSha256, forall_mem_cons]
    rw [named.value 13 rfl, named.value 14 rfl, named.value 15 rfl, named.value 8 rfl, named.value 9 rfl,
      named.value 11 rfl, named.value 25 rfl, named.value 12 rfl, named.digest, named.value 16 rfl,
      named.value 17 rfl, named.value 19 rfl, named.value 20 rfl, named.value 7 rfl, named.value 10 rfl,
      named.value 26 rfl, named.value 27 rfl, named.value 28 rfl, named.value 6 rfl]
    simp only [not_mem_nil, IsEmpty.forall_iff, implies_true, and_true, decide_true, true_and, Bool.true_or,
      selectionTexts, roleText member, isSha256_json, Bool.or_true, isBool, isOneOf,
      contains_iff_mem.mpr member, reduceCtorEq, decide_false, Bool.false_or]
    exact ⟨fun all => all.1, fun visible => ⟨visible, by decide +kernel⟩⟩
  have decision : decisionShape (sealRoute (selectedFields request authority model fit candidate)) = [] ↔
      alias? model = some candidate.executor := by
    unfold decisionShape
    rw [named.value 8 rfl]
    change authorizedShape _ = [] ↔ _
    unfold authorizedShape
    simp only [append_eq_nil_iff, flatMap_eq_nil_iff, shapeError_nil, forall_mem_cons]
    rw [named.value 9 rfl, named.value 10 rfl, named.value 11 rfl, named.value 6 rfl, named.value 7 rfl,
      named.value 26 rfl, named.value 27 rfl, named.value 16 rfl, named.value 17 rfl, named.value 18 rfl,
      named.value 19 rfl, named.value 20 rfl, named.value 21 rfl, named.value 22 rfl, named.value 23 rfl,
      granted.qualification, granted.segment]
    simp only [not_mem_nil, IsEmpty.forall_iff, implies_true, and_true, decide_true, true_and,
      json_ne_null, ne_eq, decide_not, Bool.not_eq_true', decide_eq_false_iff_not, not_false_eq_true,
      present_of_hasExactly qualification.exact, present_of_hasExactly read.provenance.exact,
      present_of_hasExactly read.attempt.exact, Bool.or_true, fit_ne_null, decide_eq_true_eq]
    exact dispatchedTo member
  have fitted := fitShape_of built evaluated
  have qualified := qualificationShape_of member qualification (parseTime_label issuedAt)
    (parseTime_label expiresAt)
  rw [← named.value 5 rfl] at evaluated
  rw [← named.value 21 rfl] at qualified
  rw [← named.value 18 rfl] at fitted
  rw [shape_nil named.hasExactly evaluated qualified fitted, head, others, decision]
  rw [named.value 22 rfl, named.value 23 rfl, named.value 8 rfl, named.value 24 rfl, named.value 29 rfl]
  have listed : exclusionsShape (.arr ((fit.candidates.filter fun item => !item.eligible).map fun item =>
      .obj [("model", .str item.model), ("exclusion_reasons", .strings item.exclusionReasons)])) = [] :=
    exclusionsShape_nil built
  have plain : expiryShape (some issued, some expires) = [] := shapeError_nil.mpr (decide_eq_true window)
  rw [budgetShape_nil reads, provenanceShape_nil read.provenance, attemptShape_nil read.attempt,
    listed, plain, named.seal]
  constructor
  · rintro ⟨visible, -, -, -, -, spending, -, -, dispatched, -⟩
    exact ⟨visible, spending rfl, dispatched⟩
  · rintro ⟨visible, spending, dispatched⟩
    exact ⟨visible, alias_nonblank dispatched, rfl, rfl, rfl, fun _ => spending, rfl, rfl, dispatched, rfl⟩

end WorkOrchestration.Routing.RouteShape
