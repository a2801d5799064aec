import WorkOrchestration.Routing.AuthorityFacts

/-!
# When the fit can be built

The inputs from which a fit is built are read one after another, and the first that cannot be read is an
error that nobody catches.
-/

namespace WorkOrchestration.Routing.FitFacts

open Lib.Results (bind_eq_ok)
open Native.Artifacts hiding canonicalSha256
open List CurrentAuthority TaskSelectedFit
open AuthorityFacts

variable {clock : Clock} {policies : Policies} {sizing : WorkSizing} {request : FitRequest}

/-- A timestamp that the calendar holds in every time zone, if it can be read at all. -/
def InRange (clock : Clock) (value : Json) : Prop :=
  ∀ text, stripped value = .str text → text ≠ "" → clock.read text ≠ .outOfRange

/-- An age that is not asked for, or that can be told. -/
def AgeReadable (clock : Clock) (policy : RoutingPolicy) (observedAt : Json) : Prop :=
  policy.maxAgeSeconds ≤ 0 ∨ policy.futureSkewSeconds < 0 ∨ InRange clock observedAt

def recordOf (policies : Policies) (request : FitRequest) (model : String) : Json :=
  modelRecord (request.inputs.value "capability_evidence")
    (policies.executorByModel request.executionEnvironment model) model

def sourceOf (evidence record : Json) : Json :=
  if nonblank (record.value "source") then stripped (record.value "source") else stripped (evidence.value "source")

def AsksWindow (policies : Policies) (request : FitRequest) (model : String) (record : Json) : Prop :=
  isMaintenance (request.inputs.value "aggregate_budget") = true ∧
    (record.get? "remaining_input_tokens").isSome = false ∧
    windowMatches policies.routing model (sourceOf (request.inputs.value "capability_evidence") record)
      (record.value "context_headroom") (record.value "context_window_source") = true

/-- The times in the record of a model that the rules ask for. -/
structure RecordReadable (clock : Clock) (policies : Policies) (request : FitRequest) (model : String)
    (record : Json) : Prop where
  observed : record.truthy = true → AgeReadable clock policies.routing (record.value "observed_at")
  window : AsksWindow policies request model record →
    AgeReadable clock policies.routing ((record.value "context_window_source").value "observed_at")

/-- The inputs of a claim from which a fit can be built. -/
structure Readable (clock : Clock) (policies : Policies) (sizing : WorkSizing) (request : FitRequest) : Prop where
  routing : policies.routing.version = 2
  estimate : ∃ estimate, validatedWorkEstimate sizing (request.inputs.value "work_estimate") = .ok estimate
  context : validateContext (request.inputs.value "context") = .ok ()
  cache : ∃ profile, validateCacheProfile clock (request.inputs.value "cache_profile")
    (request.inputs.value "context") = .ok profile
  neutral : ∃ digest, neutralWorkEstimate sizing (request.inputs.value "work_estimate") = .ok digest
  records : ∀ model ∈ taskSelectedPortfolio,
    RecordReadable clock policies request model (recordOf policies request model)

variable {label model : String} {value : Json} {time : Int}

theorem parseTime_ok_or (range : InRange clock value) :
    (∃ time, parseTime clock label value = .ok time) ∨
      ∃ error, parseTime clock label value = .error error ∧ error.kind = .value := by
  unfold parseTime
  split
  next text read =>
      by_cases blank : text = ""
      · rw [if_pos blank]
        exact .inr ⟨_, rfl, rfl⟩
      · rw [if_neg blank]
        have known := range text read blank
        cases reading : clock.read text with
        | unreadable | naive => exact .inr ⟨_, rfl, rfl⟩
        | outOfRange => exact absurd reading known
        | moment time => exact .inl ⟨time, rfl⟩
  next => exact .inr ⟨_, rfl, rfl⟩

theorem parseTime_outOfRange (out : ¬ InRange clock value) :
    parseTime clock label value = .error overflowError := by
  unfold InRange at out
  push Not at out
  obtain ⟨text, read, text_ne, reading⟩ := out
  unfold parseTime
  rw [read]
  dsimp only
  rw [if_neg text_ne, reading]

theorem inRange_of_parseTime
    (read : parseTime clock label value = .ok time) : InRange clock value := by
  by_contra out
  rw [parseTime_outOfRange out] at read
  cases read

theorem parseTime_label {other : String}
    (read : parseTime clock label value = .ok time) : parseTime clock other value = .ok time := by
  unfold parseTime at read ⊢
  split at read
  next text _ =>
      by_cases blank : text = ""
      · rw [if_pos blank] at read
        cases read
      · rw [if_neg blank] at read ⊢
        cases reading : clock.read text with
        | moment time =>
          rw [reading] at read
          exact read
        | _ =>
          rw [reading] at read
          cases read
  next => cases read

theorem fresh_ok {policy : RoutingPolicy} {observedAt evaluatedAt : Json} {time : Int}
    (evaluated : parseTime clock "evaluated_at" evaluatedAt = .ok time) :
    (∃ recent, fresh clock policy observedAt evaluatedAt = .ok recent) ↔
      AgeReadable clock policy observedAt := by
  unfold AgeReadable fresh
  by_cases disabled : policy.maxAgeSeconds ≤ 0 ∨ policy.futureSkewSeconds < 0
  · rw [if_pos disabled]
    exact ⟨fun _ => disabled.imp id .inl, fun _ => ⟨false, rfl⟩⟩
  · rw [if_neg disabled]
    have alone : (policy.maxAgeSeconds ≤ 0 ∨ policy.futureSkewSeconds < 0 ∨ InRange clock observedAt) ↔
        InRange clock observedAt := by
      rw [← or_assoc]
      exact or_iff_right disabled
    rw [alone, evaluated]
    by_cases range : InRange clock observedAt
    · refine ⟨fun _ => range, fun _ => ?_⟩
      obtain ⟨observed, read⟩ | ⟨error, raised, kind⟩ := @parseTime_ok_or _ "observed_at" _ range
      · rw [read]
        exact ⟨_, rfl⟩
      · rw [raised]
        refine ⟨false, ?_⟩
        change (if error.kind = .value then Except.ok false else Except.error error) = _
        rw [if_pos kind]
    · rw [parseTime_outOfRange range]
      refine ⟨fun ⟨recent, done⟩ => ?_, fun inside => absurd inside range⟩
      cases done

theorem headroom_ok {record : Json} {model : String} {required : Nat} {source evaluatedAt : Json} {time : Int}
    (evaluated : parseTime clock "evaluated_at" evaluatedAt = .ok time) :
    (∃ enough, maintenanceContextHeadroomSufficient clock policies.routing record model required source
        evaluatedAt = .ok enough) ↔
      ((record.get? "remaining_input_tokens").isSome = false →
        windowMatches policies.routing model source (record.value "context_headroom")
          (record.value "context_window_source") = true →
        AgeReadable clock policies.routing ((record.value "context_window_source").value "observed_at")) := by
  unfold maintenanceContextHeadroomSufficient
  cases remaining : (record.get? "remaining_input_tokens").isSome with
  | true =>
    exact ⟨fun _ absent => Bool.noConfusion absent, fun _ => ⟨false, rfl⟩⟩
  | false =>
    rw [if_neg (by simp)]
    cases matched : windowMatches policies.routing model source (record.value "context_headroom")
        (record.value "context_window_source") with
    | false =>
      exact ⟨fun _ _ absent => Bool.noConfusion absent, fun _ => ⟨false, rfl⟩⟩
    | true =>
      rw [if_neg (by simp), ← fresh_ok evaluated]
      simp only [bind_eq_ok]
      refine ⟨fun ⟨_, recent, done, _⟩ _ _ => ⟨recent, done⟩, fun reads => ?_⟩
      obtain ⟨recent, done⟩ := reads trivial trivial
      exact ⟨_, recent, done, rfl⟩

theorem recordReadable_iff {record : Json} :
    RecordReadable clock policies request model record ↔
      (record.truthy = true → AgeReadable clock policies.routing (record.value "observed_at")) ∧
      (isMaintenance (request.inputs.value "aggregate_budget") = true →
        (record.get? "remaining_input_tokens").isSome = false →
        windowMatches policies.routing model (sourceOf (request.inputs.value "capability_evidence") record)
          (record.value "context_headroom") (record.value "context_window_source") = true →
        AgeReadable clock policies.routing ((record.value "context_window_source").value "observed_at")) :=
  ⟨fun reads => ⟨reads.observed, fun maintenance absent matched => reads.window ⟨maintenance, absent, matched⟩⟩,
    fun reads => ⟨reads.1, fun asks => reads.2 asks.1 asks.2.1 asks.2.2⟩⟩

variable {estimate : WorkEstimate} {classification : Classification}

theorem candidateFit_ok {classification : Classification} {model : String}
    {rank : Nat} {time : Int} (evaluated : parseTime clock "evaluated_at" request.evaluatedAt = .ok time) :
    (∃ candidate, candidateFit clock policies request estimate classification model rank = .ok candidate) ↔
      RecordReadable clock policies request model (recordOf policies request model) := by
  have observed := @fresh_ok clock policies.routing
    ((recordOf policies request model).value "observed_at") _ _ evaluated
  have window := @headroom_ok clock policies (recordOf policies request model) model estimate.contextTokensP90
    (sourceOf (request.inputs.value "capability_evidence") (recordOf policies request model)) _ _ evaluated
  rw [recordReadable_iff]
  unfold candidateFit taskSelectedCandidateFit
  dsimp only
  unfold recordOf sourceOf at *
  -- The ages are asked for only where there is a record, or a window.
  cases present : (modelRecord (request.inputs.value "capability_evidence")
      (policies.executorByModel request.executionEnvironment model) model).truthy
  all_goals
    cases maintenance : isMaintenance (request.inputs.value "aggregate_budget")
    all_goals
      simp only [if_true, if_false, Bool.false_eq_true, exists_bind_ok, exists_pure_ok, exists_ok, exists_and_right,
        and_true, observed, window, false_imp_iff, true_and, true_imp_iff]

theorem cacheRead {profile context result : Json}
    (read : validateCacheProfile clock profile context = .ok result) :
    result = normalizedProfile profile ∧ InRange clock (profile.value "observed_at") := by
  unfold validateCacheProfile at read
  simp only [bind_drop_ok] at read
  obtain ⟨-, -, ⟨time, observed⟩, -, -, -, -, -, -, -, -, same⟩ := read
  exact ⟨(Except.ok.inj same).symm, inRange_of_parseTime observed⟩

theorem normalizedProfile_observedAt (profile : Json) :
    (normalizedProfile profile).value "observed_at" = profile.value "observed_at" := by
  unfold normalizedProfile Json.value
  simp only [Json.get?_set]
  rfl

theorem classify_ok {profile evaluatedAt : Json} {time : Int}
    (evaluated : parseTime clock "evaluated_at" evaluatedAt = .ok time) :
    (∃ classification, classifyTaskSelectedFit clock policies estimate profile evaluatedAt = .ok classification) ↔
      AgeReadable clock policies.routing (profile.value "observed_at") := by
  unfold classifyTaskSelectedFit
  simp only [exists_bind_ok, exists_pure_ok, and_true]
  exact fresh_ok evaluated

/-- The fit is built exactly where its inputs can be read. -/
theorem buildTaskSelectedFit_ok
    (evaluated : parseTime clock "evaluated_at" request.evaluatedAt = .ok time)
    (budget : ∃ budget, normalizeCurrentBudget (request.inputs.value "aggregate_budget") = .ok budget) :
    (∃ fit, buildTaskSelectedFit clock policies sizing request = .ok fit) ↔
      Readable clock policies sizing request := by
  unfold buildTaskSelectedFit
  constructor
  · rintro ⟨fit, built⟩
    obtain ⟨_, routing, built⟩ := bind_ok built
    obtain ⟨estimate, validated, built⟩ := bind_ok built
    obtain ⟨_, context, built⟩ := bind_ok built
    obtain ⟨profile, cache, built⟩ := bind_ok built
    obtain ⟨_, _, built⟩ := bind_ok built
    obtain ⟨_, _, built⟩ := bind_ok built
    obtain ⟨digest, neutral, built⟩ := bind_ok built
    obtain ⟨_, _, built⟩ := bind_ok built
    obtain ⟨luna, lunaFit, built⟩ := bind_ok built
    obtain ⟨terra, terraFit, _⟩ := bind_ok built
    refine ⟨of_decide_eq_true (require_ok.mp routing), ⟨_, validated⟩, context, ⟨profile, cache⟩,
      ⟨digest, neutral⟩, ?_⟩
    intro model member
    rcases mem_pair.mp member with rfl | rfl
    · exact (candidateFit_ok evaluated).mp ⟨luna, lunaFit⟩
    · exact (candidateFit_ok evaluated).mp ⟨terra, terraFit⟩
  · intro reads
    obtain ⟨estimate, validated⟩ := reads.estimate
    obtain ⟨profile, cache⟩ := reads.cache
    obtain ⟨digest, neutral⟩ := reads.neutral
    obtain ⟨rfl, observed⟩ := cacheRead cache
    obtain ⟨normalized, budget⟩ := budget
    obtain ⟨classification, classified⟩ := (@classify_ok clock policies estimate.1
      (normalizedProfile (request.inputs.value "cache_profile")) _ _ evaluated).mpr
        (.inr (.inr (by rwa [normalizedProfile_observedAt])))
    obtain ⟨luna, lunaFit⟩ := (@candidateFit_ok clock policies request estimate.1 classification _ 1 _ evaluated).mpr (reads.records lunaModel (by simp [taskSelectedPortfolio]))
    obtain ⟨terra, terraFit⟩ := (@candidateFit_ok clock policies request estimate.1 classification _ 2 _ evaluated).mpr (reads.records terraModel (by simp [taskSelectedPortfolio]))
    dsimp only
    rw [(@require_ok () _ _).mpr (decide_eq_true reads.routing), validated, reads.context, cache, budget, evaluated, neutral]
    dsimp only [bind, Except.bind]
    rw [classified]
    dsimp only
    rw [lunaFit]
    rw [terraFit]
    exact ⟨_, rfl⟩

theorem candidateFit_model {rank : Nat} {candidate : Candidate}
    (built : candidateFit clock policies request estimate classification model rank = .ok candidate) :
    candidate.model = model ∧
      candidate.executor = policies.executorByModel request.executionEnvironment model := by
  unfold candidateFit taskSelectedCandidateFit at built
  dsimp only at built
  split at built
  all_goals
    obtain ⟨recent, _, built⟩ := bind_ok built
    split at built
    all_goals
      obtain ⟨enough, _, built⟩ := bind_ok built
      rw [← Except.ok.inj built]
      exact ⟨rfl, rfl⟩

def exclusionTexts : List String :=
  ["trusted-live-model-evidence-missing", "model-evidence-source-untrusted", "model-evidence-stale",
    "exact-model-evidence-mismatch", "model-not-live-available", "model-quota-not-usable",
    "model-capacity-not-available", "required-operative-controls-missing",
    "executor-not-internal-operative-worker", "executor-operative-io-capability-missing",
    "executor-fallback-opt-in-policy-missing", "executor-risk-limit-exceeded",
    "executor-data-sensitivity-limit-exceeded", "work-estimate-not-operative-route",
    "model-headroom-insufficient", "aggregate-budget-insufficient", "luna-fit-required"]

theorem exclusionTexts_nonblank : ∀ reason ∈ exclusionTexts, nonblank (.str reason) = true := by
  decide +kernel

theorem mem_selectedTexts {rows : List (Bool × String)} {reason : String}
    (selected : reason ∈ rows.filterMap fun (excluded, text) => if excluded then some text else none) :
    reason ∈ rows.map Prod.snd := by
  obtain ⟨⟨excluded, text⟩, member, same⟩ := mem_filterMap.mp selected
  cases excluded
  · cases same
  · cases Option.some.inj same
    exact mem_map.mpr ⟨_, member, rfl⟩

theorem candidateFit_reasons {rank : Nat} {candidate : Candidate}
    (built : candidateFit clock policies request estimate classification model rank = .ok candidate) :
    ∀ reason ∈ candidate.exclusionReasons, nonblank (.str reason) = true := by
  intro reason member
  refine exclusionTexts_nonblank reason ?_
  unfold candidateFit taskSelectedCandidateFit at built
  dsimp only at built
  split at built
  all_goals
    obtain ⟨recent, _, built⟩ := bind_ok built
    split at built
    all_goals
      obtain ⟨enough, _, built⟩ := bind_ok built
      rw [← Except.ok.inj built] at member
      exact mem_selectedTexts member

theorem isObject_of_hasExactly {fields : List String} {document : Json}
    (exact : document.hasExactly fields = true) : document.isObject = true := by
  unfold Json.hasExactly at exact
  simp only [Bool.and_eq_true] at exact
  exact exact.1.1

/-- What is known of a fit without looking into its candidates. -/
structure Built (policies : Policies) (request : FitRequest) (fit : Fit) : Prop where
  evaluatedAt : fit.evaluatedAt = request.evaluatedAt
  context : fit.context.isObject = true
  cacheProfile : fit.cacheProfile.isObject = true
  candidates : fit.candidates.map Candidate.model = [lunaModel, terraModel]
  executors : ∀ candidate ∈ fit.candidates,
    candidate.executor = policies.executorByModel request.executionEnvironment candidate.model
  reasons : ∀ candidate ∈ fit.candidates, ∀ reason ∈ candidate.exclusionReasons,
    nonblank (.str reason) = true

theorem built_of {fit : Fit} (done : buildTaskSelectedFit clock policies sizing request = .ok fit) :
    Built policies request fit := by
  obtain ⟨_, _, done⟩ := bind_ok done
  obtain ⟨estimate, _, done⟩ := bind_ok done
  obtain ⟨_, context, done⟩ := bind_ok done
  obtain ⟨profile, cache, done⟩ := bind_ok done
  obtain ⟨_, _, done⟩ := bind_ok done
  obtain ⟨_, _, done⟩ := bind_ok done
  obtain ⟨digest, _, done⟩ := bind_ok done
  obtain ⟨_, _, done⟩ := bind_ok done
  obtain ⟨luna, lunaFit, done⟩ := bind_ok done
  obtain ⟨terra, terraFit, done⟩ := bind_ok done
  obtain ⟨rfl, -⟩ := cacheRead cache
  cases Except.ok.inj done
  refine ⟨rfl, ?_, ?_, ?_, ?_, ?_⟩
  · exact isObject_of_hasExactly (require_ok.mp (bind_drop_ok.mp context).1.choose_spec)
  · exact Json.isObject_set _ _ _
  · exact congrArg₂ (fun first second => [first, second]) (candidateFit_model lunaFit).1
      (candidateFit_model terraFit).1
  · intro candidate member
    rcases mem_pair.mp member with rfl | rfl
    · rw [(candidateFit_model lunaFit).1, (candidateFit_model lunaFit).2]
    · rw [(candidateFit_model terraFit).1, (candidateFit_model terraFit).2]
  · intro candidate member
    rcases mem_pair.mp member with rfl | rfl
    · exact candidateFit_reasons lunaFit
    · exact candidateFit_reasons terraFit

end WorkOrchestration.Routing.FitFacts
