import WorkOrchestration.Audit.Sanitizer
import WorkOrchestration.Lib.Results

/-!
# Summaries that are kept

Which summaries of a pool come out of the sanitizer as they went in: those whose numbers,
texts and lists are kept one by one, and whose words the sanitizer knows.
-/

namespace WorkOrchestration.Audit

open List Lib.Results Lib.Text Native.Artifacts Native.Artifacts.Json

variable (text : String)

/-- The words of the text stand with single blanks between them, and there are not too many. -/
def Tidy : Prop := joinWith " " (words (strip text)) = text ∧ text.length ≤ 240

instance : Decidable (Tidy text) := inferInstanceAs (Decidable (_ ∧ _))

theorem length_splitOnP {α : Type} (separates : α → Bool) (items : List α) :
    ((items.splitOnP separates).map List.length).sum + (items.splitOnP separates).length =
      items.length + 1 := by
  induction items with
  | nil => rfl
  | cons first rest ih =>
    rw [splitOnP_cons_eq_if_modifyHead]
    split
    · simp only [map_cons, sum_cons, length_nil, length_cons]
      omega
    · cases parts : rest.splitOnP separates with
      | nil => exact absurd parts (splitOnP_ne_nil separates rest)
      | cons part others =>
        rw [parts] at ih
        simp only [map_cons, sum_cons, length_cons] at ih
        simp only [modifyHead_cons, map_cons, sum_cons, length_cons]
        omega

theorem length_filter_parts {α : Type} (parts : List (List α)) (keeps : List α → Bool) :
    ((parts.filter keeps).map List.length).sum + (parts.filter keeps).length ≤
      (parts.map List.length).sum + parts.length := by
  induction parts with
  | nil => exact Nat.le_refl _
  | cons part others ih =>
    rw [filter_cons]
    split
    · simp only [map_cons, sum_cons, length_cons]
      omega
    · simp only [map_cons, sum_cons, length_cons]
      omega

theorem length_joinWith (parts : List (List Char)) :
    (joinWith " " (parts.map String.ofList)).length ≤ (parts.map List.length).sum + parts.length - 1 := by
  induction parts with
  | nil => exact Nat.le_refl _
  | cons part others ih =>
    cases others with
    | nil =>
      simp [joinWith]
    | cons next rest =>
      unfold joinWith at ih ⊢
      rw [map_cons, map_cons, String.intercalate_cons_cons, ← map_cons,
        String.length_append, String.length_append, String.length_ofList]
      have blank : " ".length = 1 := by decide
      simp only [map_cons, sum_cons, length_cons] at ih ⊢
      omega

theorem length_words : (joinWith " " (words text)).length ≤ text.length := by
  have joined := length_joinWith ((text.toList.splitOnP isSpace).filter (· ≠ []))
  have kept := length_filter_parts (text.toList.splitOnP isSpace) (· ≠ [])
  have whole := length_splitOnP isSpace text.toList
  rw [String.length_toList] at whole
  unfold words
  omega

theorem length_strip : (strip text).length ≤ text.length := by
  unfold strip
  rw [String.length_ofList, length_reverse]
  refine (length_dropWhile_le _ _).trans ?_
  rw [length_reverse]
  exact length_dropWhile_le _ _

/-- A visible text is kept exactly when it is tidy. -/
theorem shortText_eq_some_iff {text : String} (visible : Nonempty text) :
    shortText text = some text ↔ Tidy text := by
  have some_left : ¬ strip text = "" := by
    exact visible.strip.ne_empty
  unfold shortText Tidy
  rw [if_neg some_left]
  dsimp only
  have shorter := (length_words (strip text)).trans (length_strip text)
  split
  · constructor
    · intro same
      have lengths := congrArg String.length (Option.some.inj same)
      rw [String.length_append, String.length_ofList, length_take] at lengths
      have marker : "...[truncated]".length = 14 := by decide
      omega
    · omega
  · constructor
    · intro same
      have joined := Option.some.inj same
      exact ⟨joined, by rw [← joined]; omega⟩
    · rintro ⟨same, _⟩
      rw [same]

variable {fields : List String}

/-- What has been collected: every field has been kept as the value it now has. -/
theorem collectAll_eq_some {sanitize : String → Except PyError (Option Json)} {start result : Json}
    (distinct : fields.Nodup) (ran : collectAll sanitize fields start = .ok (some result)) :
    (∀ field ∈ fields, ∃ value, sanitize field = .ok (some value) ∧ result.get? field = some value) ∧
      ∀ key ∉ fields, result.get? key = start.get? key := by
  induction fields generalizing start with
  | nil =>
    cases ran
    exact ⟨fun _ absent => absurd absent not_mem_nil, fun _ _ => rfl⟩
  | cons first rest ih =>
    obtain ⟨absent, distinct⟩ := nodup_cons.mp distinct
    obtain ⟨kept, here, ran⟩ := bind_eq_ok.mp ran
    cases kept with
    | none => cases ran
    | some value =>
      obtain ⟨each, others⟩ := ih distinct ran
      constructor
      · intro field member
        rcases mem_cons.mp member with rfl | later
        · exact ⟨value, here, by rw [others field absent, get?_set, if_pos rfl]⟩
        · exact each field later
      · intro key outside
        obtain ⟨apart, later⟩ := ne_and_not_mem_of_not_mem_cons outside
        rw [others key later, get?_set, if_neg (Ne.symm apart)]

theorem collectAll_of_kept {sanitize : String → Except PyError (Option Json)}
    (kept : ∀ field ∈ fields, ∃ value, sanitize field = .ok (some value)) (start : Json) :
    ∃ result, collectAll sanitize fields start = .ok (some result) := by
  induction fields generalizing start with
  | nil => exact ⟨start, rfl⟩
  | cons first rest ih =>
    obtain ⟨value, here⟩ := kept first mem_cons_self
    obtain ⟨result, later⟩ := ih (forall_mem_cons.mp kept).2 (start.set first value)
    refine ⟨result, ?_⟩
    unfold collectAll
    rw [here]
    exact later

/-- A flag that may be missing. -/
def isOptionalFlag : Json → Bool
  | .null => true
  | .bool _ => true
  | _ => false

/-- The words of a summary are those that the sanitizer knows. -/
structure KnownWords (summary : Json) : Prop where
  flag : isOptionalFlag (summary.value "accepting") = true
  status : isOneOf nativePoolStatuses (summary.value "status") = true
  disposition : summary.value "pool_disposition" = .null ∨
    isOneOf nativePoolDispositions (summary.value "pool_disposition") = true
  leases : allOneOf nativePoolLeaseStates (summary.value "lease_states") = true
  sessions : allOneOf nativePoolSessionDispositions (summary.value "session_dispositions") = true
  artifacts : allOneOf nativePoolArtifactDispositions (summary.value "artifact_dispositions") = true

/-- The sanitizer returns the summary as it was given. -/
def Survives (spell : Json → Except PyError String) (summary : Json) : Prop :=
  ∃ sanitized, sanitizeNativePoolSummary spell summary = .ok (some sanitized) ∧
    ∀ key, sanitized.get? key = summary.get? key

structure KeptFields (spell : Json → Except PyError String) (summary : Json) : Prop where
  numbers : ∀ field ∈ nativePoolNumericFields,
    normalizeNonnegativeNumber (summary.value field) = some (summary.value field)
  texts : ∀ field ∈ nativePoolStringFields,
    poolSummaryText spell summary field = .ok (some (summary.value field))
  lists : ∀ field ∈ nativePoolStringListFields,
    poolSummaryTexts spell summary field = .ok (some (summary.value field))

variable {key : String}

theorem value_eq_of_get? {left right : Json} (same : left.get? key = right.get? key) :
    left.value key = right.value key := by
  unfold value
  rw [same]

theorem KnownWords.congr {left right : Json} (known : KnownWords left)
    (same : ∀ key, left.get? key = right.get? key) : KnownWords right := by
  have values : ∀ key, left.value key = right.value key := fun key => value_eq_of_get? (same key)
  obtain ⟨flag, status, disposition, leases, sessions, artifacts⟩ := known
  rw [values] at flag status leases sessions artifacts
  rw [values] at disposition
  exact ⟨flag, status, disposition, leases, sessions, artifacts⟩

/-- What the sanitizer has done when it returns a summary. -/
structure Sanitized (spell : Json → Except PyError String) (summary sanitized : Json) : Prop where
  parts : ∃ numeric texts lists,
    collectAll (fun field => .ok (normalizeNonnegativeNumber (summary.value field)))
      nativePoolNumericFields .objEnd = .ok (some numeric) ∧
    collectAll (poolSummaryText spell summary) nativePoolStringFields numeric = .ok (some texts) ∧
    collectAll (poolSummaryTexts spell summary) nativePoolStringListFields texts = .ok (some lists) ∧
    sanitized = lists.set "accepting" (summary.value "accepting")
  known : KnownWords sanitized

theorem value_accepting (lists accepting : Json) :
    (lists.set "accepting" accepting).value "accepting" = accepting := by
  rw [value, get?_set]
  rfl

theorem value_set_accepting {lists accepting : Json} (apart : key ≠ "accepting") :
    (lists.set "accepting" accepting).value key = lists.value key := by
  rw [value, get?_set, if_neg (Ne.symm apart)]
  rfl

/-- The final test of the sanitizer. -/
def wordsKnown (lists accepting : Json) : Bool :=
  isOptionalFlag accepting && isOneOf nativePoolStatuses (lists.value "status") &&
    (lists.value "pool_disposition" == .null ||
      isOneOf nativePoolDispositions (lists.value "pool_disposition")) &&
    allOneOf nativePoolLeaseStates (lists.value "lease_states") &&
    allOneOf nativePoolSessionDispositions (lists.value "session_dispositions") &&
    allOneOf nativePoolArtifactDispositions (lists.value "artifact_dispositions")

theorem knownWords_iff {lists accepting : Json} :
    KnownWords (lists.set "accepting" accepting) ↔ wordsKnown lists accepting = true := by
  unfold wordsKnown
  simp only [Bool.and_eq_true, Bool.or_eq_true, beq_iff_eq]
  constructor
  · rintro ⟨flag, status, disposition, leases, sessions, artifacts⟩
    rw [value_accepting] at flag
    rw [value_set_accepting (by decide)] at status disposition leases sessions artifacts
    exact ⟨⟨⟨⟨⟨flag, status⟩, disposition⟩, leases⟩, sessions⟩, artifacts⟩
  · rintro ⟨⟨⟨⟨⟨flag, status⟩, disposition⟩, leases⟩, sessions⟩, artifacts⟩
    refine ⟨?_, ?_, ?_, ?_, ?_, ?_⟩
    · rw [value_accepting]
      exact flag
    all_goals rw [value_set_accepting (by decide)]
    · exact status
    · exact disposition
    · exact leases
    · exact sessions
    · exact artifacts

theorem sanitizeNativePoolSummary_eq_some {spell : Json → Except PyError String}
    {summary sanitized : Json} (complete : summary.hasExactly nativePoolSummaryFields = true) :
    sanitizeNativePoolSummary spell summary = .ok (some sanitized) ↔
      Sanitized spell summary sanitized := by
  unfold sanitizeNativePoolSummary
  rw [complete]
  constructor
  · intro ran
    obtain ⟨numbers, first, ran⟩ := bind_eq_ok.mp ran
    cases numbers with
    | none => cases ran
    | some numeric =>
      obtain ⟨strings, second, ran⟩ := bind_eq_ok.mp ran
      cases strings with
      | none => cases ran
      | some texts =>
        obtain ⟨arrays, third, ran⟩ := bind_eq_ok.mp ran
        cases arrays with
        | none => cases ran
        | some lists =>
          have tested : (if wordsKnown lists (summary.value "accepting") = true then
              pure (some (lists.set "accepting" (summary.value "accepting"))) else pure none) =
                (.ok (some sanitized) : Except PyError (Option Json)) := ran
          by_cases known : wordsKnown lists (summary.value "accepting") = true
          · rw [if_pos known] at tested
            have same := Option.some.inj (Except.ok.inj tested)
            refine ⟨⟨numeric, texts, lists, first, second, third, same.symm⟩, ?_⟩
            rw [← same]
            exact knownWords_iff.mpr known
          · rw [if_neg known] at tested
            cases tested
  · rintro ⟨⟨numeric, texts, lists, first, second, third, rfl⟩, known⟩
    rw [first, ok_bind]
    dsimp only
    rw [second, ok_bind]
    dsimp only
    rw [third]
    exact if_pos (knownWords_iff.mp known)

theorem mem_fields_of_hasExactly {document : Json} (complete : document.hasExactly fields = true) (present : key ∈ document.keys) :
    key ∈ fields := by
  unfold hasExactly at complete
  simp only [Bool.and_eq_true, all_eq_true, contains_iff_mem] at complete
  exact complete.1.2 key present

variable {field : String}

theorem get?_of_hasExactly {document : Json} (complete : document.hasExactly fields = true) (member : field ∈ fields) :
    document.get? field = some (document.value field) := by
  obtain ⟨held, found⟩ := Option.ne_none_iff_exists'.mp
    (mem_keys_iff.mp (mem_keys_of_hasExactly complete member))
  rw [value, found]
  rfl

theorem numericField (member : field ∈ nativePoolNumericFields) :
    field ∈ nativePoolSummaryFields ∧ field ∉ nativePoolStringFields ∧
      field ∉ nativePoolStringListFields ∧ field ≠ "accepting" := by
  have all : ∀ field ∈ nativePoolNumericFields, field ∈ nativePoolSummaryFields ∧
      field ∉ nativePoolStringFields ∧ field ∉ nativePoolStringListFields ∧ field ≠ "accepting" := by
    decide +kernel
  exact all field member

theorem stringField (member : field ∈ nativePoolStringFields) :
    field ∈ nativePoolSummaryFields ∧ field ∉ nativePoolStringListFields ∧ field ≠ "accepting" := by
  have all : ∀ field ∈ nativePoolStringFields, field ∈ nativePoolSummaryFields ∧
      field ∉ nativePoolStringListFields ∧ field ≠ "accepting" := by decide +kernel
  exact all field member

theorem listField (member : field ∈ nativePoolStringListFields) :
    field ∈ nativePoolSummaryFields ∧ field ≠ "accepting" := by
  have all : ∀ field ∈ nativePoolStringListFields, field ∈ nativePoolSummaryFields ∧
      field ≠ "accepting" := by decide +kernel
  exact all field member

theorem summaryField (member : field ∈ nativePoolSummaryFields) :
    field ∈ nativePoolNumericFields ∨ field ∈ nativePoolStringFields ∨
      field ∈ nativePoolStringListFields ∨ field = "accepting" := by
  have all : ∀ field ∈ nativePoolSummaryFields, field ∈ nativePoolNumericFields ∨
      field ∈ nativePoolStringFields ∨ field ∈ nativePoolStringListFields ∨ field = "accepting" := by
    decide +kernel
  exact all field member

variable {spell : Json → Except PyError String} {summary : Json}

/-- What each part has written is still there at the end. -/
theorem parts_written {numeric texts lists : Json}
    (first : collectAll (fun field => .ok (normalizeNonnegativeNumber (summary.value field)))
      nativePoolNumericFields .objEnd = .ok (some numeric))
    (second : collectAll (poolSummaryText spell summary) nativePoolStringFields numeric =
      .ok (some texts))
    (third : collectAll (poolSummaryTexts spell summary) nativePoolStringListFields texts =
      .ok (some lists)) :
    (∀ field ∈ nativePoolNumericFields, ∃ kept,
      normalizeNonnegativeNumber (summary.value field) = some kept ∧ lists.get? field = some kept) ∧
    (∀ field ∈ nativePoolStringFields, ∃ kept,
      poolSummaryText spell summary field = .ok (some kept) ∧ lists.get? field = some kept) ∧
    (∀ field ∈ nativePoolStringListFields, ∃ kept,
      poolSummaryTexts spell summary field = .ok (some kept) ∧ lists.get? field = some kept) ∧
    ∀ key, key ∉ nativePoolNumericFields → key ∉ nativePoolStringFields →
      key ∉ nativePoolStringListFields → lists.get? key = none := by
  obtain ⟨numbers, numberFrame⟩ := collectAll_eq_some (by decide) first
  obtain ⟨strings, stringFrame⟩ := collectAll_eq_some (by decide) second
  obtain ⟨arrays, arrayFrame⟩ := collectAll_eq_some (by decide) third
  refine ⟨fun field member => ?_, fun field member => ?_, arrays, fun key noNumber noString noList => ?_⟩
  · obtain ⟨kept, here, found⟩ := numbers field member
    obtain ⟨_, noString, noList, _⟩ := numericField member
    exact ⟨kept, Except.ok.inj here, by rw [arrayFrame field noList, stringFrame field noString, found]⟩
  · obtain ⟨kept, here, found⟩ := strings field member
    obtain ⟨_, noList, _⟩ := stringField member
    exact ⟨kept, here, by rw [arrayFrame field noList, found]⟩
  · rw [arrayFrame key noList, stringFrame key noString, numberFrame key noNumber]
    rfl

variable (complete : summary.hasExactly nativePoolSummaryFields = true)

include complete

/-- A summary that survives has kept fields and known words. -/
theorem kept_of_survives
    (survives : Survives spell summary) : KeptFields spell summary ∧ KnownWords summary := by
  obtain ⟨sanitized, ran, same⟩ := survives
  obtain ⟨⟨numeric, texts, lists, first, second, third, rfl⟩, known⟩ :=
    (sanitizeNativePoolSummary_eq_some complete).mp ran
  obtain ⟨numbers, strings, arrays, _⟩ := parts_written first second third
  have equal : ∀ field kept, lists.get? field = some kept → field ∈ nativePoolSummaryFields →
      field ≠ "accepting" → kept = summary.value field := by
    intro field kept found member apart
    have agrees := same field
    rw [get?_set, if_neg (Ne.symm apart), found, get?_of_hasExactly complete member] at agrees
    exact Option.some.inj agrees
  refine ⟨⟨fun field member => ?_, fun field member => ?_, fun field member => ?_⟩, known.congr same⟩
  · obtain ⟨kept, here, found⟩ := numbers field member
    obtain ⟨inSummary, _, _, apart⟩ := numericField member
    rw [here, equal field kept found inSummary apart]
  · obtain ⟨kept, here, found⟩ := strings field member
    obtain ⟨inSummary, _, apart⟩ := stringField member
    rw [here, equal field kept found inSummary apart]
  · obtain ⟨kept, here, found⟩ := arrays field member
    obtain ⟨inSummary, apart⟩ := listField member
    rw [here, equal field kept found inSummary apart]

/-- A summary with kept fields and known words survives. -/
theorem survives_of_kept
    (kept : KeptFields spell summary) (known : KnownWords summary) : Survives spell summary := by
  have numberKept : ∀ field ∈ nativePoolNumericFields, ∃ value,
      (.ok (normalizeNonnegativeNumber (summary.value field)) : Except PyError (Option Json)) =
        .ok (some value) := fun field member => ⟨_, congrArg Except.ok (kept.numbers field member)⟩
  obtain ⟨numeric, first⟩ := collectAll_of_kept numberKept .objEnd
  obtain ⟨texts, second⟩ := collectAll_of_kept (fun field member => ⟨_, kept.texts field member⟩) numeric
  obtain ⟨lists, third⟩ := collectAll_of_kept (fun field member => ⟨_, kept.lists field member⟩) texts
  obtain ⟨numbers, strings, arrays, nothing⟩ := parts_written first second third
  have same : ∀ key, (lists.set "accepting" (summary.value "accepting")).get? key =
      summary.get? key := by
    intro key
    rw [get?_set]
    by_cases accepting : "accepting" = key
    · rw [if_pos accepting, ← accepting, get?_of_hasExactly complete (by decide)]
    · rw [if_neg accepting]
      by_cases named : key ∈ nativePoolSummaryFields
      · rw [get?_of_hasExactly complete named]
        rcases summaryField named with number | string | list | flag
        · obtain ⟨value, here, found⟩ := numbers key number
          rw [kept.numbers key number] at here
          rw [found, Option.some.inj here]
        · obtain ⟨value, here, found⟩ := strings key string
          rw [kept.texts key string] at here
          rw [found, Option.some.inj (Except.ok.inj here)]
        · obtain ⟨value, here, found⟩ := arrays key list
          rw [kept.lists key list] at here
          rw [found, Option.some.inj (Except.ok.inj here)]
        · exact absurd flag.symm accepting
      · have absent : summary.get? key = none := by
          by_contra found
          exact named (mem_fields_of_hasExactly complete (mem_keys_iff.mpr found))
        rw [absent]
        exact nothing key (fun member => named (numericField member).1)
          (fun member => named (stringField member).1) (fun member => named (listField member).1)
  exact ⟨_, (sanitizeNativePoolSummary_eq_some complete).mpr
    ⟨⟨numeric, texts, lists, first, second, third, rfl⟩, known.congr fun key => (same key).symm⟩, same⟩

theorem survives_iff : Survives spell summary ↔ KeptFields spell summary ∧ KnownWords summary :=
  ⟨kept_of_survives complete, fun both => survives_of_kept complete both.1 both.2⟩

end WorkOrchestration.Audit
