import WorkOrchestration.Native.ReleaseDependencies
import WorkOrchestration.Native.TransactionScopes

/-!
# The builder and the validator of readiness records

A record that is built from accepted inputs is accepted by the validator, and by
the builder, which calls it, exactly when the inputs can be stored: every
dependency is issued and expires in different milliseconds, names its child as
the plan does, and the record's horizon ends within the calendar.
-/

namespace WorkOrchestration.Native.ReadinessAgreement

open Lib.Results (bind_eq_ok forM_eq_ok mapM_eq_ok ok_bind)
open List Lib.Binary64 Lib.Calendar Lib.Sorting Lib.Text Artifacts
open Artifacts.Json (digitLimit)
open TransactionPlans TransactionPlanFacts TransactionReadiness
open TransactionScopes (sampleHash samplePlan)
open ReleaseDependencies

variable {surroundings : Surroundings}

/-! ## What can be dumped -/

variable {value : Json}

theorem isObject_of_dictionary (dictionary : isDictionary value = true) :
    value.isObject = true := by
  rw [isDictionary, Bool.and_eq_true] at dictionary
  cases value with
  | field | objEnd => rfl
  | _ => cases dictionary.1

theorem dumps_arr {items : List Json} (each : ∀ item ∈ items, dumpsError? item = none) :
    dumpsError? (.arr items) = none := by
  induction items with
  | nil => rfl
  | cons item rest ih =>
    rw [forall_mem_cons] at each
    change (dumpsError? item).or (dumpsError? (.arr rest)) = none
    rw [each.1, ih each.2]
    rfl

theorem dumps_obj {fields : List (String × Json)}
    (each : ∀ entry ∈ fields, dumpsError? entry.2 = none) : dumpsError? (.obj fields) = none := by
  induction fields with
  | nil => rfl
  | cons entry rest ih =>
    rw [forall_mem_cons] at each
    change (dumpsError? entry.2).or (dumpsError? (.obj rest)) = none
    rw [each.1, ih each.2]
    rfl

/-- A dictionary can be dumped if the values under its keys can. -/
theorem dumps_dictionary (dictionary : isDictionary value = true)
    (each : ∀ key ∈ value.keys, dumpsError? (value.value key) = none) : dumpsError? value = none := by
  rw [isDictionary, Bool.and_eq_true, decide_eq_true_eq] at dictionary
  obtain ⟨chain, distinct⟩ := dictionary
  induction value with
  | field key inner rest _ ih =>
    obtain ⟨fresh, distinct⟩ := nodup_cons.mp distinct
    have first : dumpsError? inner = none := by
      have here := each key mem_cons_self
      rwa [Json.value, Json.get?, if_pos rfl] at here
    have later : dumpsError? rest = none := by
      refine ih (fun other member => ?_) chain distinct
      have there := each other (mem_cons_of_mem _ member)
      have apart : key ≠ other := fun same => fresh (same ▸ member)
      rwa [Json.value, Json.get?, if_neg apart] at there
    rw [dumpsError?, first, later]
    rfl
  | objEnd => rfl
  | _ => cases chain

theorem dumps_of_exact {fields : List String} (exact : Exact fields value)
    (each : ∀ field ∈ fields, dumpsError? (value.value field) = none) : dumpsError? value = none :=
  dumps_dictionary exact.dictionary fun key member => each key ((exact.keys key).mp member)

theorem dumps_persisted_of_live {childIds : List String} {now : Int} {raw : Json}
    (live : Live surroundings childIds now raw) : dumpsError? (persisted surroundings raw) = none := by
  obtain ⟨issued, expires, form, _⟩ := live.storedForm
  refine dumps_of_exact live.exact_persisted fun field member => ?_
  simp only [dependencyFields, mem_cons, not_mem_nil, or_false] at member
  rcases member with rfl | rfl | rfl | rfl | rfl
  · obtain ⟨text, named, _⟩ := live.childId
    rw [form.others "child_id" (by decide) (by decide), named]
    rfl
  · obtain ⟨text, named, _⟩ := live.kind
    rw [form.others "kind" (by decide) (by decide), named]
    rfl
  · rw [form.others "evidence_sha256" (by decide) (by decide)]
    exact live.evidence.dumps
  · rw [form.storedIssued]
    rfl
  · rw [form.storedExpires]
    rfl

theorem dumps_of_bound {plan raw : Json} (bound : Bound plan raw) : dumpsError? raw = none := by
  refine dumps_of_exact bound.exact fun field member => ?_
  rcases mem_cons.mp member with rfl | hashed
  · obtain ⟨text, named, _⟩ := bound.childId
    rw [named]
    rfl
  · exact (bound.hashes field hashed).dumps

theorem canonicalHash_of_dumps (dumps : dumpsError? value = none) :
    canonicalHash value = .ok (.sha256 value.canonical) := by
  rw [canonicalHash, dumps]

theorem dumps_of_canonicalHash {value digest : Json} (hashed : canonicalHash value = .ok digest) :
    dumpsError? value = none ∧ digest = .sha256 value.canonical := by
  unfold canonicalHash at hashed
  split at hashed
  · cases hashed
  · rename_i none
    cases hashed
    exact ⟨none, rfl⟩

/-! ## Durations -/

theorem limit_lt_digitLimit : 2 * limit + 2 < digitLimit := by
  have small : 2 * limit + 2 < 10 ^ 100 := by decide
  have large : 10 ^ 100 ≤ (10 ^ 100) ^ 43 := Nat.le_self_pow (by decide) _
  exact lt_of_lt_of_le small large

theorem abs_binary64_le (value : ℚ) : |binary64 value| ≤ 2 * |value| := by
  have near := abs_binary64_sub_le_rel value
  have small : |value| / 2 ^ 53 ≤ |value| := div_le_self (abs_nonneg value) (by norm_num)
  have triangle := abs_sub_abs_le_abs_sub (binary64 value) value
  linarith

theorem abs_truncate_le (value : ℚ) : |(truncate value : ℚ)| ≤ |value| := by
  unfold truncate
  split
  · rename_i nonnegative
    rw [abs_of_nonneg nonnegative, abs_of_nonneg (by exact_mod_cast Int.floor_nonneg.mpr nonnegative)]
    exact Int.floor_le value
  · rename_i negative
    have below : value ≤ 0 := (not_le.mp negative).le
    have ceiling : (⌈value⌉ : ℚ) ≤ 0 := by exact_mod_cast Int.ceil_le.mpr (by simpa using below)
    rw [abs_of_nonpos below, abs_of_nonpos ceiling]
    exact neg_le_neg (Int.le_ceil value)

/-- The lifetime that is available between two instants is a count that can be written. -/
theorem availableLifetimeMs_bounds {earliest created : Int} (first : InCalendar earliest)
    (second : InCalendar created) :
    0 ≤ availableLifetimeMs earliest created ∧
      (availableLifetimeMs earliest created).natAbs < digitLimit := by
  have bounded := limit_lt_digitLimit
  obtain ⟨_, firstEnd⟩ := first
  obtain ⟨_, secondEnd⟩ := second
  have span : |((earliest - created : Int) : ℚ)| ≤ limit := by
    have inside : |earliest - created| ≤ limit := by
      rw [abs_le]
      constructor <;> omega
    exact_mod_cast inside
  have seconds := abs_binary64_le (((earliest - created : Int) : ℚ) / 1000000)
  have millis := abs_binary64_le (binary64 (((earliest - created : Int) : ℚ) / 1000000) * 1000)
  have cut := abs_truncate_le (binary64 (binary64 (((earliest - created : Int) : ℚ) / 1000000) * 1000))
  rw [abs_mul] at millis
  rw [abs_div] at seconds
  have total : |(truncate (binary64 (binary64 (((earliest - created : Int) : ℚ) / 1000000) * 1000)) : ℚ)| ≤
      limit := by
    push_cast at *
    linarith [abs_nonneg ((earliest : ℚ) - created)]
  have whole : |truncate (binary64 (binary64 (((earliest - created : Int) : ℚ) / 1000000) * 1000))| ≤
      (limit : Int) := by exact_mod_cast total
  unfold availableLifetimeMs
  rw [abs_le] at whole
  constructor
  · exact le_max_left _ _
  · omega

/-! ## Parts of a record -/

/-- The times at which live dependencies expire, as they are stored. -/
theorem earliestExpiry_stored {childIds : List String} {now : Int} {dependencies items : List Json}
    (live : ∀ raw ∈ dependencies, Live surroundings childIds now raw)
    (members : ∀ item, item ∈ items ↔ item ∈ dependencies.map (persisted surroundings))
    (nonempty : items ≠ []) :
    ∃ earliest, earliestExpiry surroundings items = .ok earliest ∧ InCalendar earliest ∧
      stored earliest = earliest := by
  have times : ∀ item ∈ items, item.isObject = true ∧ ∃ time,
      readTime surroundings (item.value "expires_at") "release-dependency.expires_at" = .ok time ∧
        InCalendar time ∧ stored time = time := by
    intro item member
    obtain ⟨raw, inDependencies, rfl⟩ := mem_map.mp ((members item).mp member)
    obtain ⟨issued, expires, form, _⟩ := (live raw inDependencies).storedForm
    refine ⟨isObject_of_dictionary (live raw inDependencies).exact_persisted.dictionary,
      stored expires, readTime_iff.mp form.reread.2, inCalendar_stored form.inCalendar.2,
      stored_stored form.inCalendar.2.1⟩
  have objects : items.filter Json.isObject = items :=
    filter_eq_self.mpr fun item member => (times item member).1
  have read : ∀ rest : List Json, (∀ item ∈ rest, item ∈ items) → ∃ results,
      rest.mapM (fun item => readTime surroundings (item.value "expires_at")
        "release-dependency.expires_at") = .ok results ∧
        (∀ time ∈ results, InCalendar time ∧ stored time = time) ∧
          results.length = rest.length := by
    intro rest
    induction rest with
    | nil => exact fun _ => ⟨[], rfl, fun _ member => absurd member not_mem_nil, rfl⟩
    | cons item rest ih =>
      intro inside
      rw [forall_mem_cons] at inside
      obtain ⟨_, time, first, kept⟩ := times item inside.1
      obtain ⟨others, later, each, count⟩ := ih inside.2
      refine ⟨time :: others, ?_, forall_mem_cons.mpr ⟨kept, each⟩, by simp [count]⟩
      rw [mapM_eq_ok] at later ⊢
      exact .cons first later
  obtain ⟨results, done, each, count⟩ := read items fun _ => id
  cases results with
  | nil => exact absurd (length_eq_zero_iff.mp count.symm) nonempty
  | cons first rest =>
    have least : ∀ (rest : List Int) (first : Int), InCalendar first ∧ stored first = first →
        (∀ time ∈ rest, InCalendar time ∧ stored time = time) → InCalendar (rest.foldl min first) ∧
            stored (rest.foldl min first) = rest.foldl min first := by
      intro rest
      induction rest with
      | nil => exact fun _ here _ => here
      | cons time rest ih =>
        intro first here later
        rw [forall_mem_cons] at later
        refine ih (min first time) ?_ later.2
        rcases min_choice first time with same | same
        · rw [same]
          exact here
        · rw [same]
          exact later.1
    rw [forall_mem_cons] at each
    refine ⟨rest.foldl min first, ?_, least rest first each.1 each.2⟩
    rw [earliestExpiry, objects, done]
    rfl

/-- What is recorded of the Bead of a child. -/
structure Projected (child item : Json) : Prop where
  childId : item.value "child_id" = child.value "child_id"
  checked : NamedChild child → checkProjection item = .ok ()
  isObject : item.isObject = true
  dumps : NamedChild child → dumpsError? item = none

theorem projected_of_projectChild {beadRecords : BeadRecords} {child item : Json}
    (done : projectChild surroundings beadRecords child = .ok item) : Projected child item := by
  unfold projectChild at done
  simp only at done
  split at done
  · cases done
  · obtain ⟨projection, _, done⟩ := bind_ok done
    obtain ⟨digest, hashed, done⟩ := bind_ok done
    obtain ⟨_, _, done⟩ := bind_ok done
    obtain ⟨dumps, rfl⟩ := dumps_of_canonicalHash hashed
    cases done
    refine ⟨rfl, fun named => ?_, rfl, fun named => ?_⟩
    · simp only [checkProjection, bind_eq_ok, strict_iff, requireNonempty_iff, requireHash_iff,
        require_iff]
      refine ⟨(), ⟨rfl, fun _ => Iff.rfl⟩, (), named.childId, (), named.beadId, (), rfl, _, hashed, ?_⟩
      exact beq_self_eq_true _
    · obtain ⟨childText, childId, _⟩ := named.childId
      obtain ⟨beadText, beadId, _⟩ := named.beadId
      apply dumps_obj
      simp only [mem_cons, not_mem_nil, or_false, forall_eq_or_imp, forall_eq]
      refine ⟨?_, ?_, dumps, rfl⟩
      · rw [childId]
        rfl
      · rw [beadId]
        rfl

/-! ## Building -/

section

variable {plan parent : Json} {beadRecords : BeadRecords} {bindings dependencies : List Json}
  {now : Moment} {projections : List Json} {earliest : Int}

def storedDependencies (surroundings : Surroundings) (dependencies : List Json) : List Json :=
  sortDependencies (dependencies.map (persisted surroundings))

/-- What the steps of the builder have found before it seals a record. -/
structure Parts (surroundings : Surroundings) (plan parent : Json) (beadRecords : BeadRecords)
    (bindings dependencies : List Json) (now : Moment) (projections : List Json) (earliest : Int) :
    Prop where
  accepted : validateTransactionPlan (fromIsoformat surroundings.others) plan = .ok []
  projected : List.Forall₂ (fun child item => projectChild surroundings beadRecords child = .ok item)
    (childrenOf plan) projections
  bound : Bindings plan bindings
  releases : Releases surroundings plan now.micros dependencies
  parentHash : parent = .null ∨ IsHash parent
  expiry : earliestExpiry surroundings (storedDependencies surroundings dependencies) = .ok earliest
  inCalendar : InCalendar earliest
  storedExpiry : stored earliest = earliest

def builtFields (surroundings : Surroundings) (plan parent : Json) (bindings dependencies : List Json)
    (now : Moment) (projections : List Json) (earliest due : Int) : List (String × Json) :=
  recordBody surroundings plan parent now.micros earliest (requiredLifetimeMs plan)
    (availableLifetimeMs earliest (stored now.micros)) due projections (sortBindings bindings)
    (storedDependencies surroundings dependencies)

theorem require_true (message : String) : require true message = .ok () := rfl

theorem inCalendar_now (now : Moment) : InCalendar now.micros :=
  ⟨Int.natCast_nonneg _, by exact_mod_cast now.inRange⟩

/-- What is left of the builder once its parts have been found. -/
theorem Parts.build_eq (parts : Parts surroundings plan parent beadRecords bindings dependencies now
    projections earliest) :
    buildReadinessRecord surroundings plan beadRecords bindings dependencies now parent = do
      let due ← addMillis now.micros (requiredLifetimeMs plan)
      let record ← sealRecord (builtFields surroundings plan parent bindings dependencies now
        projections earliest due)
      let errors ← validateReadinessRecord surroundings record (some plan)
      require errors.isEmpty ("invalid-readiness-record:" ++ joinWith ";" errors)
      return record := by
  have projected : (childrenOf plan).mapM (projectChild surroundings beadRecords) = .ok projections :=
    mapM_eq_ok.mpr parts.projected
  have bound : normalizePacketBindings plan bindings = .ok (sortBindings bindings) :=
    normalizePacketBindings_iff.mpr ⟨parts.bound, rfl⟩
  have released : normalizeDependencies surroundings plan dependencies now.micros =
      .ok (storedDependencies surroundings dependencies) :=
    normalizeDependencies_iff.mpr ⟨parts.releases, rfl⟩
  have hashed : checkParent parent = .ok () := by
    unfold checkParent
    split
    · rfl
    · rename_i given
      exact requireHash_iff.mpr (parts.parentHash.resolve_left given)
  unfold buildReadinessRecord
  rw [parts.accepted]
  simp only [ok_bind, projected, bound, released, parts.expiry,
    readTime_iso (inCalendar_now now), readTime_iso parts.inCalendar, parts.storedExpiry, hashed]
  rfl

theorem mem_storedDependencies {item : Json} : item ∈ storedDependencies surroundings dependencies ↔
      item ∈ dependencies.map (persisted surroundings) :=
  mem_sortByKey dependencyKey

variable {items : List Json}

theorem elements?_of_ne (nonempty : items ≠ []) (message : String) :
    readItems (.arr items) message = .ok items := by
  unfold readItems
  rw [Json.elements?_arr]
  cases items with
  | nil => exact absurd rfl nonempty
  | cons item rest => rfl

theorem projected_of_forall₂ {children : List Json} (projected : List.Forall₂
      (fun child item => projectChild surroundings beadRecords child = .ok item) children items) :
    ∀ item ∈ items, ∃ child ∈ children, Projected child item := by
  induction projected with
  | nil => exact fun _ member => absurd member not_mem_nil
  | cons first _ ih =>
    rw [forall_mem_cons]
    refine ⟨⟨_, mem_cons_self, projected_of_projectChild first⟩, fun item member => ?_⟩
    obtain ⟨child, inRest, found⟩ := ih item member
    exact ⟨child, mem_cons_of_mem _ inRest, found⟩

theorem childIds_of_forall₂ {children : List Json} (projected : List.Forall₂
      (fun child item => projectChild surroundings beadRecords child = .ok item) children items) :
    items.map (Json.value "child_id") = children.map (Json.value "child_id") := by
  induction projected with
  | nil => rfl
  | cons first _ ih =>
    rw [map_cons, map_cons, ih, (projected_of_projectChild first).childId]

theorem storedDependencies_ne_nil
    (accepted : validateTransactionPlan (fromIsoformat surroundings.others) plan = .ok [])
    (releases : Releases surroundings plan now.micros dependencies) :
    storedDependencies surroundings dependencies ≠ [] := by
  intro none
  obtain ⟨child, member⟩ := exists_mem_of_ne_nil _ (accepted_of_valid accepted).someChild
  have covered := (releases.covered (textOf (child.value "child_id"))).mpr (mem_map_of_mem member)
  obtain ⟨raw, inDependencies, _⟩ := mem_map.mp covered
  have kept := mem_storedDependencies.mpr
    (mem_map_of_mem (f := persisted surroundings) inDependencies)
  rw [none] at kept
  cases kept

/-- The record of the given fields, with its hash. -/
def sealedRecord (fields : List (String × Json)) : Json :=
  .obj (fields ++ [("readiness_sha256", .sha256 (Json.obj fields).canonical)])

theorem sealRecord_eq {fields : List (String × Json)} (dumps : dumpsError? (.obj fields) = none) :
    sealRecord fields = .ok (sealedRecord fields) := by
  unfold sealRecord
  rw [canonicalHash_of_dumps dumps]
  rfl

theorem childIdSet_of_texts
    (texts : ∀ item ∈ items, item.isObject = true ∧ ∃ text, item.value "child_id" = .str text) :
    childIdSet items = .ok (items.map (Json.value "child_id")) := by
  rw [childIdSet, mapM_eq_ok, List.forall₂_map_right_iff, List.forall₂_same]
  intro item member
  obtain ⟨object, text, named⟩ := texts item member
  rw [if_pos object, named]
  rfl

theorem sameSet_refl {α : Type} [DecidableEq α] (items : List α) : sameSet items items = true :=
  sameSet_iff.mpr fun _ => Iff.rfl

namespace Parts

variable (parts : Parts surroundings plan parent beadRecords bindings dependencies now projections
  earliest)
include parts

theorem namedChildren : ∀ child ∈ childrenOf plan, NamedChild child :=
  namedChild_of_checkChildren (accepted_of_valid parts.accepted).each

theorem someBinding : sortBindings bindings ≠ [] := by
  intro none
  have children := (accepted_of_valid parts.accepted).someChild
  obtain ⟨child, member⟩ := exists_mem_of_ne_nil _ children
  have covered := (parts.bound.covered (textOf (child.value "child_id"))).mpr
    (mem_map_of_mem member)
  obtain ⟨raw, inBindings, _⟩ := mem_map.mp covered
  have kept : raw ∈ sortBindings bindings := (mem_sortByKey _).mpr inBindings
  rw [none] at kept
  cases kept

theorem someProjection : projections ≠ [] := by
  rintro rfl
  exact (accepted_of_valid parts.accepted).someChild (List.forall₂_nil_right_iff.mp parts.projected)

theorem eachProjection : ∀ item ∈ projections, ∃ child ∈ childrenOf plan, Projected child item :=
  projected_of_forall₂ parts.projected

theorem requiredLifetime_nonneg : 0 ≤ requiredLifetimeMs plan := by
  have bounds := startup_bounds (accepted_of_valid parts.accepted).startup
  have perAllocation := mul_nonneg (bounds "per_allocation_ms" (by decide))
    (Int.natCast_nonneg (childrenOf plan).length)
  have preAllocation := bounds "pre_allocation_ms" (by decide)
  have runtimeBinding := bounds "runtime_binding_ms" (by decide)
  have admission := bounds "admission_ms" (by decide)
  have dispatch := bounds "dispatch_and_first_observation_ms" (by decide)
  have margin := bounds "safety_margin_ms" (by decide)
  simp only [requiredLifetimeMs]
  omega

theorem planHash : IsHash (plan.value "plan_sha256") :=
  requireHash_iff.mp (accepted_of_valid parts.accepted).planHash

theorem dumps_fields {due : Int} (inCalendar : now.micros + requiredLifetimeMs plan * 1000 < limit) :
    dumpsError? (.obj (builtFields surroundings plan parent bindings dependencies now projections
      earliest due)) = none := by
  have bounded := limit_lt_digitLimit
  have required := parts.requiredLifetime_nonneg
  have available := availableLifetimeMs_bounds parts.inCalendar
    (inCalendar_stored (inCalendar_now now))
  apply dumps_obj
  simp only [builtFields, recordBody, mem_cons, not_mem_nil, or_false, forall_eq_or_imp, forall_eq]
  refine ⟨rfl, rfl, rfl, rfl, parts.planHash.dumps, ?_, rfl, ?_, ?_, ?_, rfl, ?_, ?_, rfl⟩
  · rcases parts.parentHash with none | given
    · rw [none]
      rfl
    · exact given.dumps
  · refine dumps_arr fun item member => ?_
    obtain ⟨child, inPlan, projected⟩ := parts.eachProjection item member
    exact projected.dumps (parts.namedChildren child inPlan)
  · refine dumps_arr fun item member => ?_
    exact dumps_of_bound (parts.bound.bound item ((mem_sortByKey _).mp member))
  · refine dumps_arr fun item member => ?_
    obtain ⟨raw, inDependencies, rfl⟩ := mem_map.mp (mem_storedDependencies.mp member)
    exact dumps_persisted_of_live (parts.releases.live raw inDependencies)
  · refine if_pos ?_
    omega
  · exact if_pos available.2

/-- Whether the built record is accepted is decided by what it says about the plan. -/
theorem checkRecord_iff (inCalendar : now.micros + requiredLifetimeMs plan * 1000 < limit)
    {record : Json}
    (isRecord : record = sealedRecord (builtFields surroundings plan parent bindings dependencies now
      projections earliest (now.micros + requiredLifetimeMs plan * 1000))) :
    checkRecord surroundings record (some plan) = .ok () ↔
      checkRecordPlan surroundings record plan (stored now.micros) (requiredLifetimeMs plan)
        projections (storedDependencies surroundings dependencies) (sortBindings bindings) =
          .ok () := by
  have required := parts.requiredLifetime_nonneg
  have dumps : dumpsError? (.obj (builtFields surroundings plan parent bindings dependencies now
      projections earliest (now.micros + requiredLifetimeMs plan * 1000))) = none :=
    parts.dumps_fields inCalendar
  have nowInCalendar := inCalendar_now now
  have nowBegun := nowInCalendar.1
  have dueInCalendar : InCalendar (now.micros + requiredLifetimeMs plan * 1000) :=
    ⟨by omega, inCalendar⟩
  have header : checkRecordHeader record = .ok () := by
    have keys : record.keys = readinessFields := by rw [isRecord]; rfl
    have dictionary : isDictionary record = true := by
      rw [isDictionary, keys, isRecord]
      rfl
    have exact : Exact readinessFields record := ⟨dictionary, fun key => by rw [keys]⟩
    simp only [checkRecordHeader, bind_eq_ok, strict_iff, require_iff, requireNonempty_iff,
      requireHash_iff]
    refine ⟨(), exact, (), by rw [isRecord]; rfl, (), ⟨_, by rw [isRecord]; rfl, ?_⟩, (), ?_, ?_⟩
    · exact Nonempty.append_right ⟨'n', by simp, by decide⟩ _
    · rw [isRecord]
      exact parts.planHash
    · have same : record.value "parent_readiness_sha256" = parent := by rw [isRecord]; rfl
      rw [same]
      split
      · rfl
      · rename_i given
        exact requireHash_iff.mpr (parts.parentHash.resolve_left given)
  have created : readTime surroundings (record.value "created_at") "readiness-record.created_at" =
      .ok (stored now.micros) := by
    rw [isRecord]
    exact readTime_iso nowInCalendar _
  have expiry : readTime surroundings (record.value "earliest_expires_at")
      "readiness-record.earliest_expires_at" = .ok earliest := by
    rw [isRecord]
    exact (readTime_iso parts.inCalendar _).trans (congrArg Except.ok parts.storedExpiry)
  have through : readTime surroundings (record.value "valid_through")
      "readiness-record.valid_through" = .ok (stored (now.micros + requiredLifetimeMs plan * 1000)) := by
    rw [isRecord]
    exact readTime_iso dueInCalendar _
  have requiredRead : integer (record.value "required_lifetime_ms")
      "readiness-record.required_lifetime_ms" 0 = .ok (requiredLifetimeMs plan) := by
    rw [isRecord]
    exact if_pos required
  have availableRead : integer (record.value "available_lifetime_ms")
      "readiness-record.available_lifetime_ms" 0 =
        .ok (availableLifetimeMs earliest (stored now.micros)) := by
    rw [isRecord]
    exact if_pos (le_max_left _ _)
  have due : addMillis (stored now.micros) (requiredLifetimeMs plan) =
      .ok (stored now.micros + requiredLifetimeMs plan * 1000) := by
    have earlier := stored_eq nowBegun
    exact if_pos (by omega)
  have sameDue : stored (now.micros + requiredLifetimeMs plan * 1000) =
      stored now.micros + requiredLifetimeMs plan * 1000 := by
    rw [stored_eq nowBegun, stored_eq dueInCalendar.1]
    omega
  have released : readItems (record.value "release_dependencies")
      "readiness-record-dependencies-invalid" =
        .ok (storedDependencies surroundings dependencies) := by
    rw [isRecord]
    exact elements?_of_ne (storedDependencies_ne_nil parts.accepted parts.releases) _
  have projected : readItems (record.value "bead_projections")
      "readiness-record-bead-projections-invalid" = .ok projections := by
    rw [isRecord]
    exact elements?_of_ne parts.someProjection _
  have bound : readItems (record.value "packet_bindings")
      "readiness-record-packet-bindings-invalid" = .ok (sortBindings bindings) := by
    rw [isRecord]
    exact elements?_of_ne parts.someBinding _
  have eachProjection : projections.forM checkProjection = .ok () := by
    rw [forM_eq_ok]
    intro item member
    obtain ⟨child, inPlan, found⟩ := parts.eachProjection item member
    exact found.checked (parts.namedChildren child inPlan)
  have digest : canonicalHash (record.erase "readiness_sha256") =
      .ok (record.value "readiness_sha256") := by
    rw [isRecord]
    exact canonicalHash_of_dumps dumps
  unfold checkRecord
  simp only [header, created, expiry, through, requiredRead, availableRead, due, released,
    parts.expiry, projected, bound, eachProjection, digest, ok_bind, sameDue, beq_self_eq_true,
    require_true]
  rw [bind_eq_ok]
  constructor
  · rintro ⟨_, checked, _⟩
    exact checked
  · intro checked
    exact ⟨(), checked, rfl⟩

theorem mem_childIds : value ∈ (childrenOf plan).map (Json.value "child_id") ↔
      ∃ text, value = .str text ∧ text ∈ childIdsOf plan := by
  constructor
  · intro member
    obtain ⟨child, inPlan, rfl⟩ := mem_map.mp member
    obtain ⟨text, named, _⟩ := (parts.namedChildren child inPlan).childId
    refine ⟨text, named, mem_map.mpr ⟨child, inPlan, ?_⟩⟩
    rw [named]
    rfl
  · rintro ⟨text, rfl, member⟩
    obtain ⟨child, inPlan, same⟩ := mem_map.mp member
    obtain ⟨other, named, _⟩ := (parts.namedChildren child inPlan).childId
    refine mem_map.mpr ⟨child, inPlan, ?_⟩
    rw [named] at same ⊢
    exact congrArg Json.str same

/-- The ids that stored dependencies name are those of the children exactly when none is padded. -/
theorem releasedIds_iff :
    (∀ value, value ∈ (storedDependencies surroundings dependencies).map (Json.value "child_id") ↔
        value ∈ (childrenOf plan).map (Json.value "child_id")) ↔
      ∀ raw ∈ dependencies,
        strip (textOf (raw.value "child_id")) = textOf (raw.value "child_id") := by
  have named : ∀ raw ∈ dependencies, ∃ text, raw.value "child_id" = .str text ∧
      (persisted surroundings raw).value "child_id" = .str text ∧ strip text ∈ childIdsOf plan := by
    intro raw member
    have live := parts.releases.live raw member
    obtain ⟨issued, expires, form, _⟩ := live.storedForm
    obtain ⟨text, found, _, inPlan⟩ := live.childId
    exact ⟨text, found, (form.others "child_id" (by decide) (by decide)).trans found, inPlan⟩
  constructor
  · intro same raw member
    obtain ⟨text, found, kept, _⟩ := named raw member
    have inStored : .str text ∈
        (storedDependencies surroundings dependencies).map (Json.value "child_id") :=
      mem_map.mpr ⟨_, mem_storedDependencies.mpr (mem_map_of_mem member), kept⟩
    obtain ⟨other, sameText, inPlan⟩ := parts.mem_childIds.mp ((same _).mp inStored)
    cases sameText
    obtain ⟨cover, _, covered⟩ := mem_map.mp ((parts.releases.covered text).mpr inPlan)
    rw [found]
    rw [← covered]
    exact strip_strip _
  · intro plain value
    rw [parts.mem_childIds]
    constructor
    · intro member
      obtain ⟨item, inStored, rfl⟩ := mem_map.mp member
      obtain ⟨raw, inDependencies, rfl⟩ := mem_map.mp (mem_storedDependencies.mp inStored)
      obtain ⟨text, found, kept, inPlan⟩ := named raw inDependencies
      have unpadded := plain raw inDependencies
      rw [found] at unpadded
      exact ⟨text, kept, (show strip text = text from unpadded) ▸ inPlan⟩
    · rintro ⟨text, rfl, inPlan⟩
      obtain ⟨raw, member, covered⟩ := mem_map.mp ((parts.releases.covered text).mpr inPlan)
      obtain ⟨other, found, kept, _⟩ := named raw member
      have unpadded := plain raw member
      refine mem_map.mpr ⟨_, mem_storedDependencies.mpr (mem_map_of_mem member), ?_⟩
      rw [kept, ← covered]
      change Json.str other = Json.str (strip (textOf (raw.value "child_id")))
      rw [unpadded, found]
      rfl

theorem childIdSet_projections :
    childIdSet projections = .ok ((childrenOf plan).map (Json.value "child_id")) := by
  rw [← childIds_of_forall₂ parts.projected]
  apply childIdSet_of_texts
  intro item member
  obtain ⟨child, inPlan, found⟩ := parts.eachProjection item member
  obtain ⟨text, named, _⟩ := (parts.namedChildren child inPlan).childId
  exact ⟨found.isObject, text, found.childId.trans named⟩

theorem childIdSet_dependencies : childIdSet (storedDependencies surroundings dependencies) =
      .ok ((storedDependencies surroundings dependencies).map (Json.value "child_id")) := by
  apply childIdSet_of_texts
  intro item member
  obtain ⟨raw, inDependencies, rfl⟩ := mem_map.mp (mem_storedDependencies.mp member)
  have live := parts.releases.live raw inDependencies
  obtain ⟨issued, expires, form, _⟩ := live.storedForm
  obtain ⟨text, found, _⟩ := live.childId
  exact ⟨isObject_of_dictionary live.exact_persisted.dictionary, text,
    (form.others "child_id" (by decide) (by decide)).trans found⟩

/-- A built record agrees with its plan exactly when its dependencies are plain and spaced. -/
theorem checkRecordPlan_iff {record : Json}
    (sameHash : record.value "plan_sha256" = plan.value "plan_sha256") :
    checkRecordPlan surroundings record plan (stored now.micros) (requiredLifetimeMs plan)
        projections (storedDependencies surroundings dependencies) (sortBindings bindings) = .ok () ↔
      (∀ raw ∈ dependencies, strip (textOf (raw.value "child_id")) = textOf (raw.value "child_id")) ∧
        ∀ raw ∈ dependencies, Spaced surroundings raw := by
  have nowBegun := (inCalendar_now now).1
  have normal : normalizeDependencies surroundings plan (storedDependencies surroundings dependencies)
      (stored now.micros) = .ok (storedDependencies surroundings dependencies) ↔
        ∀ raw ∈ dependencies, Spaced surroundings raw := by
    constructor
    · intro again
      exact (parts.releases.stored_iff nowBegun).mp (normalizeDependencies_iff.mp again).1
    · exact parts.releases.normalize_stored nowBegun
  rw [← parts.releasedIds_iff, ← normal]
  unfold checkRecordPlan
  rw [parts.accepted]
  simp only [isEmpty_nil, require_true, ok_bind, sameHash, beq_self_eq_true,
    parts.childIdSet_projections, parts.childIdSet_dependencies, parts.bound.normalize_sorted,
    sameSet_refl]
  simp only [bind_eq_ok, require_iff, sameSet_iff, beq_iff_eq]
  constructor
  · rintro ⟨_, ids, _, normalized, _, rfl, _⟩
    exact ⟨ids, normalized⟩
  · rintro ⟨ids, normalized⟩
    exact ⟨(), ids, _, normalized, (), rfl, trivial⟩

end Parts

/-- The builder returns a record exactly when its horizon is in the calendar and it agrees with its plan. -/
theorem Parts.build_iff (parts : Parts surroundings plan parent beadRecords bindings dependencies now
    projections earliest) {record : Json} :
    buildReadinessRecord surroundings plan beadRecords bindings dependencies now parent = .ok record ↔
      now.micros + requiredLifetimeMs plan * 1000 < limit ∧
        record = sealedRecord (builtFields surroundings plan parent bindings dependencies now
          projections earliest (now.micros + requiredLifetimeMs plan * 1000)) ∧
          checkRecord surroundings record (some plan) = .ok () := by
  rw [parts.build_eq]
  by_cases inCalendar : now.micros + requiredLifetimeMs plan * 1000 < limit
  · have due : addMillis now.micros (requiredLifetimeMs plan) =
        .ok (now.micros + requiredLifetimeMs plan * 1000) := if_pos inCalendar
    rw [due, ok_bind, sealRecord_eq (parts.dumps_fields inCalendar), ok_bind]
    simp only [bind_eq_ok, require_iff, List.isEmpty_iff, inCalendar, true_and]
    constructor
    · rintro ⟨errors, validated, _, rfl, done⟩
      cases done
      exact ⟨rfl, reported_ok validated⟩
    · rintro ⟨rfl, checked⟩
      refine ⟨[], ?_, (), rfl, rfl⟩
      rw [validateReadinessRecord, checked]
      rfl
  · have due : addMillis now.micros (requiredLifetimeMs plan) = .error overflowError :=
      if_neg inCalendar
    rw [due]
    constructor
    · intro raised
      cases raised
    · rintro ⟨within, _⟩
      exact absurd within inCalendar

/-- What the builder is supplied with: each argument passes the check that the builder makes of it. -/
structure Supplied (surroundings : Surroundings) (plan parent : Json) (beadRecords : BeadRecords)
    (bindings dependencies : List Json) (now : Moment) : Prop where
  accepted : validateTransactionPlan (fromIsoformat surroundings.others) plan = .ok []
  projected : ∀ child ∈ childrenOf plan, ∃ item,
    projectChild surroundings beadRecords child = .ok item
  bound : ∃ normal, normalizePacketBindings plan bindings = .ok normal
  released : ∃ normal, normalizeDependencies surroundings plan dependencies now.micros = .ok normal
  parentHash : checkParent parent = .ok ()

theorem Supplied.parts
    (supplied : Supplied surroundings plan parent beadRecords bindings dependencies now) :
    ∃ projections earliest, Parts surroundings plan parent beadRecords bindings dependencies now
      projections earliest := by
  obtain ⟨_, bound⟩ := supplied.bound
  obtain ⟨_, released⟩ := supplied.released
  have normal := (normalizePacketBindings_iff.mp bound).1
  have releases := (normalizeDependencies_iff.mp released).1
  have projected : ∃ projections, List.Forall₂
      (fun child item => projectChild surroundings beadRecords child = .ok item) (childrenOf plan)
      projections := by
    have each := supplied.projected
    generalize childrenOf plan = children at each
    induction children with
    | nil => exact ⟨[], .nil⟩
    | cons child rest ih =>
      rw [forall_mem_cons] at each
      obtain ⟨item, first⟩ := each.1
      obtain ⟨items, later⟩ := ih each.2
      exact ⟨item :: items, .cons first later⟩
  obtain ⟨projections, projected⟩ := projected
  have parentHash : parent = .null ∨ IsHash parent := by
    have checked := supplied.parentHash
    unfold checkParent at checked
    split at checked
    · rename_i none
      exact .inl none
    · exact .inr (requireHash_iff.mp checked)
  obtain ⟨earliest, expiry, inCalendar, storedExpiry⟩ :=
    earliestExpiry_stored releases.live (fun _ => mem_storedDependencies)
      (storedDependencies_ne_nil supplied.accepted releases)
  exact ⟨projections, earliest, supplied.accepted, projected, normal, releases, parentHash, expiry,
    inCalendar, storedExpiry⟩

/-- The builder returns a record, the validator accepts it, and no order of the inputs matters. -/
def Agrees (surroundings : Surroundings) (plan parent : Json) (beadRecords : BeadRecords)
    (bindings dependencies : List Json) (now : Moment) : Prop :=
  ∃ record,
    buildReadinessRecord surroundings plan beadRecords bindings dependencies now parent = .ok record ∧
      validateReadinessRecord surroundings record (some plan) = .ok [] ∧
        ∀ otherBindings otherDependencies, bindings.Perm otherBindings →
          dependencies.Perm otherDependencies →
            buildReadinessRecord surroundings plan beadRecords otherBindings otherDependencies now
              parent = .ok record

/-- Inputs of which the record that is stored says what they say. -/
structure Storable (surroundings : Surroundings) (plan : Json) (dependencies : List Json)
    (now : Moment) : Prop where
  unpadded : ∀ raw ∈ dependencies,
    strip (textOf (raw.value "child_id")) = textOf (raw.value "child_id")
  spaced : ∀ raw ∈ dependencies, Spaced surroundings raw
  inCalendar : now.micros + requiredLifetimeMs plan * 1000 < limit

section

variable (supplied : Supplied surroundings plan parent beadRecords bindings dependencies now)

include supplied

/-- The order of bindings and dependencies is lost when they are normalised. -/
theorem build_perm {otherBindings otherDependencies : List Json}
    (sameBindings : bindings.Perm otherBindings)
    (sameDependencies : dependencies.Perm otherDependencies) :
    buildReadinessRecord surroundings plan beadRecords otherBindings otherDependencies now parent =
      buildReadinessRecord surroundings plan beadRecords bindings dependencies now parent := by
  obtain ⟨_, bound⟩ := supplied.bound
  obtain ⟨_, released⟩ := supplied.released
  have normal := (normalizePacketBindings_iff.mp bound).1
  have releases := (normalizeDependencies_iff.mp released).1
  have sortedBindings : normalizePacketBindings plan otherBindings =
      normalizePacketBindings plan bindings := by
    rw [normalizePacketBindings_iff.mpr ⟨normal, rfl⟩,
      normalizePacketBindings_iff.mpr ⟨normal.perm sameBindings, rfl⟩, normal.sort_congr sameBindings]
  have sortedDependencies : normalizeDependencies surroundings plan otherDependencies now.micros =
        normalizeDependencies surroundings plan dependencies now.micros := by
    rw [normalizeDependencies_iff.mpr ⟨releases, rfl⟩,
      normalizeDependencies_iff.mpr ⟨releases.perm sameDependencies, rfl⟩,
      releases.sort_congr sameDependencies]
  unfold buildReadinessRecord
  simp only [sortedBindings, sortedDependencies]

theorem storable_of_agrees
    (agrees : Agrees surroundings plan parent beadRecords bindings dependencies now) :
    Storable surroundings plan dependencies now := by
  obtain ⟨projections, earliest, parts⟩ := supplied.parts
  obtain ⟨record, built, _⟩ := agrees
  obtain ⟨inCalendar, isRecord, checked⟩ := parts.build_iff.mp built
  have planAgrees := (parts.checkRecord_iff inCalendar isRecord).mp checked
  have sameHash : record.value "plan_sha256" = plan.value "plan_sha256" := by rw [isRecord]; rfl
  obtain ⟨unpadded, spaced⟩ := (parts.checkRecordPlan_iff sameHash).mp planAgrees
  exact ⟨unpadded, spaced, inCalendar⟩

theorem agrees_of_storable (storable : Storable surroundings plan dependencies now) :
    Agrees surroundings plan parent beadRecords bindings dependencies now := by
  obtain ⟨projections, earliest, parts⟩ := supplied.parts
  have checked := (parts.checkRecord_iff storable.inCalendar rfl).mpr
    ((parts.checkRecordPlan_iff rfl).mpr ⟨storable.unpadded, storable.spaced⟩)
  have built := parts.build_iff.mpr ⟨storable.inCalendar, rfl, checked⟩
  refine ⟨_, built, ?_, fun _ _ sameBindings sameDependencies => ?_⟩
  · rw [validateReadinessRecord, checked]
    rfl
  · rw [build_perm supplied sameBindings sameDependencies, built]

end

/--
Of inputs that pass the builder's own checks, the builder makes a record that the
validator accepts, and makes the same record whatever the order of bindings and
dependencies, exactly when no dependency pads the id of its child, every
dependency is issued and expires in different milliseconds, and the required
lifetime ends within the calendar.
-/
theorem readiness_agrees_iff
    (supplied : Supplied surroundings plan parent beadRecords bindings dependencies now) :
    Agrees surroundings plan parent beadRecords bindings dependencies now ↔
      Storable surroundings plan dependencies now :=
  ⟨storable_of_agrees supplied, agrees_of_storable supplied⟩

end

/-! ## A plan of two children -/

def epoch : Nat := 719162 * microsPerDay

/-- Texts of the first millisecond of 1970. -/
def sampleOthers (text : List Char) : IsoReading :=
  if text = "1970-01-01T00:00:00+00:00".toList then .instant ⟨epoch, by decide⟩
  else if text = "1970-01-01T00:00:00.000100+00:00".toList then .instant ⟨epoch + 100, by decide⟩
  else if text = "1970-01-01T00:00:00.000900+00:00".toList then .instant ⟨epoch + 900, by decide⟩
  else .invalid

def sampleSurroundings : Surroundings :=
  { others := sampleOthers
    spell := fun _ => "0123456789abcdef0123456789abcdef"
    projection := fun _ => .ok (.str "document") }

def sampleBeads : BeadRecords := fun _ => some (.obj [])

def sampleBinding (childId : String) : Json :=
  .obj [("child_id", .str childId), ("packet_sha256", sampleHash),
      ("precommit_receipt_sha256", sampleHash), ("work_plan_sha256", sampleHash)]

def sampleDependency (childId expiresAt : String) : Json :=
  .obj
    [("child_id", .str childId), ("kind", .str "operative-release"), ("evidence_sha256", sampleHash),
      ("issued_at", .str "1970-01-01T00:00:00.000100Z"), ("expires_at", .str expiresAt)]

def sampleNow : Moment := ⟨epoch + 500, by decide⟩

/-- Releases of both children, the second with the given expiry. -/
def sampleDependencies (expiresAt : String) : List Json :=
  [sampleDependency "a" "1970-01-01T00:01:00.000Z", sampleDependency "b" expiresAt]

theorem exists_ok_of_isOk {α : Type} {result : Except PyError α} (isOk : result.isOk = true) :
    ∃ value, result = .ok value := by
  cases result with
  | ok value => exact ⟨value, rfl⟩
  | error error => cases isOk

def samplePlanOfTwo : Json := samplePlan ["a.txt"] ["b.txt"]

theorem sample_supplied {expiresAt : String}
    (either : expiresAt = "1970-01-01T00:02:00.000Z" ∨ expiresAt = "1970-01-01T00:00:00.000900Z") :
    Supplied sampleSurroundings samplePlanOfTwo .null sampleBeads
      [sampleBinding "a", sampleBinding "b"] (sampleDependencies expiresAt) sampleNow := by
  refine ⟨by decide +kernel, ?_, exists_ok_of_isOk (by decide +kernel), ?_, rfl⟩
  · have each : ∀ child ∈ childrenOf samplePlanOfTwo,
        (projectChild sampleSurroundings sampleBeads child).isOk = true := by
      decide +kernel
    exact fun child member => exists_ok_of_isOk (each child member)
  · rcases either with rfl | rfl
    · exact exists_ok_of_isOk (by decide +kernel)
    · exact exists_ok_of_isOk (by decide +kernel)

/-- A release that expires in the millisecond in which it was issued keeps the record from being built. -/
theorem short_release_disagrees : Supplied sampleSurroundings samplePlanOfTwo .null sampleBeads
        [sampleBinding "a", sampleBinding "b"] (sampleDependencies "1970-01-01T00:00:00.000900Z")
        sampleNow ∧
      ¬ Agrees sampleSurroundings samplePlanOfTwo .null sampleBeads
        [sampleBinding "a", sampleBinding "b"] (sampleDependencies "1970-01-01T00:00:00.000900Z")
        sampleNow := by
  have supplied := sample_supplied (.inr rfl)
  refine ⟨supplied, fun agrees => ?_⟩
  have spaced := (storable_of_agrees supplied agrees).spaced
    (sampleDependency "b" "1970-01-01T00:00:00.000900Z") (by simp [sampleDependencies])
    (epoch + 100 : Nat) (epoch + 900 : Nat) (by decide +kernel) (by decide +kernel)
  exact absurd spaced (by decide +kernel)

/-- Releases that expire later make a record on which builder and validator agree. -/
theorem readiness_agrees_iff_sample : Agrees sampleSurroundings samplePlanOfTwo .null sampleBeads
      [sampleBinding "a", sampleBinding "b"] (sampleDependencies "1970-01-01T00:02:00.000Z")
      sampleNow := by
  refine (readiness_agrees_iff (sample_supplied (.inl rfl))).mpr ⟨by decide +kernel, ?_, by decide +kernel⟩
  have issued : ∀ raw ∈ sampleDependencies "1970-01-01T00:02:00.000Z",
      readTime sampleSurroundings (raw.value "issued_at") "" = .ok (epoch + 100 : Nat) := by
    decide +kernel
  have expires : ∀ raw ∈ sampleDependencies "1970-01-01T00:02:00.000Z",
      readTime sampleSurroundings (raw.value "expires_at") "" = .ok (epoch + 60000000 : Nat) ∨
        readTime sampleSurroundings (raw.value "expires_at") "" = .ok (epoch + 120000000 : Nat) := by
    decide +kernel
  intro raw member first last readFirst readLast
  rw [issued raw member] at readFirst
  cases readFirst
  rcases expires raw member with minute | other
  · rw [minute] at readLast
    cases readLast
    decide +kernel
  · rw [other] at readLast
    cases readLast
    decide +kernel

end WorkOrchestration.Native.ReadinessAgreement
