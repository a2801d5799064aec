import Mathlib.Data.Fintype.Card
import Mathlib.Data.Set.Finite.Basic
import Mathlib.Data.Prod.Lex
import Mathlib.Order.WellFounded
import WorkOrchestration.Lib.Results
import WorkOrchestration.Lib.Sorting
import WorkOrchestration.Native.Documents

/-!
# Continuing a sprint

What a continuation brief offers as ready, and what it lists as blocked.  A dependency names items by
their ids and lanes at once.
-/

namespace WorkOrchestration.Workgraph.Continuation

open List Lib.Results Lib.Sorting Lib.Text Native.Artifacts

/-- `str` of values that are no texts, and `int`. -/
structure Surroundings where
  spell : Json → String
  toInt : Json → Except PyError Int

variable (around : Surroundings)

def Surroundings.str : Json → String
  | .str text => text
  | value => around.spell value

variable (value : Json)

/-- `value or default`. -/
def orElse (default : Json) : Json := if value.truthy then value else default

def commaList (value : String) : List String :=
  ((value.toList.splitOn ',').map fun part => strip (String.ofList part)).filter (· ≠ "")

def asList : List Json :=
  if value = .null then [] else value.elements?.getD [value]

def stringList : Json → List String
  | .str text => commaList text
  | value => ((asList value).map fun item => strip (around.str item)).filter (· ≠ "")

def normalizedDependencyType : String :=
  replaceChar '_' '-' (lower (strip (around.str (orElse value (.str "")))))

def dependencyEntryIds : Json → List String
  | .str text => commaList text
  | value =>
    if value.isObject then
      let dependencyType := normalizedDependencyType around
        (orElse (orElse (value.value "type") (value.value "dependency_type")) (.str "blocks"))
      if dependencyType ∈ ["blocks", "until"] then
        let candidates := ["depends_on_id", "depends_on", "dependency_id", "blocked_by", "blocker_id",
          "id", "key"].map value.value
        ((candidates.find? fun candidate => candidate ≠ .null ∧ strip (around.str candidate) ≠ "").map
          fun candidate => strip (around.str candidate)).toList
      else []
    else stringList around value

def addAll (found more : List String) : List String :=
  more.foldl (fun found entry => if entry ∈ found then found else found ++ [entry]) found

def dependencyList : List String := addAll [] ((asList value).flatMap (dependencyEntryIds around))

variable (item : Json)

def field (names : List String) : Json :=
  let found (document : Json) := (names.map document.value).find? (· ≠ .null)
  let metadata := item.value "metadata"
  ((found item).or (if metadata.isObject then found metadata else none)).getD .null

def issueId : String :=
  strip (around.str (orElse (field item ["id", "issue_id", "key"]) (.str "")))

def issueTitle : String :=
  strip (around.str (orElse (field item ["title", "summary", "name"]) (.str "")))

def issueStatus : String :=
  lower (strip (around.str (orElse (field item ["status", "state"]) (.str "open"))))

def issueLabels : List String :=
  stringList around (orElse (field item ["labels"]) .arrEnd)

def issueType : String :=
  strip (around.str (orElse (field item ["type", "issue_type", "cwo_type"]) (.str "issue")))

def issuePriority : Except PyError Int :=
  match around.toInt (field item ["priority", "rank"]) with
  | .ok priority => .ok priority
  | .error raised => if raised.kind = .type ∨ raised.kind = .value then .ok 50 else .error raised

def issueDependencies : List String :=
  addAll [] (["dependencies", "depends_on", "depends_on_ids", "blocked_by", "blockers",
    "depends_on_lanes"].flatMap fun name => dependencyList around (orElse (field item [name]) .arrEnd))

/-- An item as `normalize_item` leaves it, with the lane that its origin names. -/
structure WorkItem where
  id : String
  title : String
  type : String
  status : String
  labels : List String
  priority : Int
  dependencies : List String
  lane : String
  raw : Json
  deriving DecidableEq

def normalizeItem : Except PyError WorkItem := do
  let priority ← issuePriority around item
  return {
    id := issueId around item, title := issueTitle around item, type := issueType around item
    status := issueStatus around item, labels := issueLabels around item, priority
    dependencies := issueDependencies around item
    lane := around.str (orElse (field item ["lane"]) (.str "")), raw := item }

namespace WorkItem

variable (item : WorkItem)

/-- `is_closed` reads the status once more. -/
def isClosed : Bool :=
  ["closed", "done", "completed", "resolved"].contains
    (lower (strip (if item.status = "" then "open" else item.status)))

/-- The marks say that the item is ready and a leaf. -/
def isCandidate : Bool :=
  item.raw.value "_cwo_canonical_ready" = .bool true &&
    item.raw.value "_cwo_executable_leaf" ≠ .bool false

def kind : String := lower (strip item.type)

/-- The keys under which `dependency_lookup` files the item. -/
def keys : List String := [strip item.id, strip item.lane].filter (· ≠ "")

end WorkItem

/-- `dependency_lookup`, asked for one key. -/
def dependencyLookup (items : List WorkItem) (key : String) : List WorkItem :=
  items.flatMap fun item => (item.keys.filter (· = key)).map fun _ => item

def codexBlockingLabels : List String := ["contractor-only", "local-worker-only", "no-codex-exec"]

variable (items : List WorkItem) (item : WorkItem)

def dependencyReasons (dependency : String) : List String :=
  let blockers := dependencyLookup items dependency
  let openBlockers := blockers.filter fun blocker => blocker.id ≠ item.id ∧ blocker.isClosed = false
  if openBlockers ≠ [] then
    openBlockers.map fun blocker => "depends on " ++ blocker.id ++ " (" ++ blocker.status ++ ")"
  else if blockers = [] then ["depends on unknown work item " ++ dependency]
  else []

def blockerReasons : List String :=
  (if item.status = "blocked" then ["status blocked requires operator decision"] else []) ++
  ((codexBlockingLabels.filter (· ∈ item.labels)).map fun label =>
    "guard label " ++ label ++ " prevents normal Codex pickup") ++
  item.dependencies.flatMap (dependencyReasons items item)

def containerLabels : List String :=
  ["grouping-container", "publication-parent", "publication-only", "release-parent", "release-gate"]

def containerTypes : List String := ["epic", "molecule", "convoy", "merge-request", "gate"]

/-- The reasons that the marks of a Beads projection add. -/
def canonicalReasons (item : WorkItem) (reasons : List String) : List String :=
  if item.isCandidate then
    if item.kind ∈ containerTypes ∨
        (∃ label ∈ item.labels, label ∈ containerLabels) ∧ item.kind ∉ ["task", "bug", "chore"] then
      ["grouping container or publication parent is not executable work"]
    else []
  else if item.raw.value "_cwo_canonical_ready" = .bool true then
    ["grouping container has descendant work items"]
  else if reasons = [] then ["not returned by canonical Beads readiness (" ++ item.status ++ ")"]
  else []

def unblocksCount : Nat :=
  items.countP fun candidate => candidate.id ≠ item.id ∧ candidate.isClosed = false ∧
    ∃ key ∈ [item.id, item.lane], key ∈ candidate.dependencies

def labelRank (labels : List String) : Nat :=
  if ∃ label ∈ labels, label ∈ ["validation", "test", "testing", "acceptance"] then 0
  else if ∃ label ∈ labels, label ∈ ["follow-up", "followup", "carry-forward", "carried-forward"] then 2
  else 1

def rankReadyIssues (items ready : List WorkItem) : List WorkItem :=
  sortByKey (fun item => toLex (item.priority, toLex (-(unblocksCount items item : Int),
    toLex (labelRank item.labels, item.id)))) ready

def isOpen (epicId : String) (item : WorkItem) : Bool :=
  !item.isClosed && item.id ≠ epicId && item.kind ≠ "epic"

def openItems (epicId : String) (items : List WorkItem) : List WorkItem := items.filter (isOpen epicId)

/-- The parts of a brief that tell what is to be done next. -/
structure Brief where
  recommended : Option WorkItem
  ready : List WorkItem
  blocked : List (WorkItem × List String)
  readySet : Json

def normalizeItems (rawItems : List Json) : Except PyError (List WorkItem) :=
  (rawItems.filter (issueId around · ≠ "")).mapM (normalizeItem around)

def canonicalReadyMode (items : List WorkItem) : Bool :=
  items.any fun item => (item.raw.get? "_cwo_canonical_ready").isSome

def reasonsOf : List String :=
  let reasons := blockerReasons items item
  if canonicalReadyMode items then reasons ++ canonicalReasons item reasons else reasons

/-- `build_continuation_brief`; `evidence` is `build_ready_set_evidence` or, for a Markdown workgraph,
`markdown_fallback_evidence`. -/
def buildContinuationBrief (evidence : List WorkItem → List WorkItem → Except PyError Json)
    (epicId : String) (rawItems : List Json) : Except PyError Brief := do
  let items ← normalizeItems around rawItems
  let pairs := (openItems epicId items).map fun item => (item, reasonsOf items item)
  let ranked := rankReadyIssues items ((pairs.filter (·.2 = [])).map Prod.fst)
  let candidates := if canonicalReadyMode items then
    rankReadyIssues items ((openItems epicId items).filter (·.isCandidate)) else ranked
  let readySet ← evidence candidates (openItems epicId items)
  return ⟨ranked.head?, ranked, pairs.filter (·.2 ≠ []), readySet⟩

/-- Where nothing leads back to itself, some element leads nowhere. -/
theorem exists_last {α : Type} {items : List α} {leads : α → α → Prop} (some' : items ≠ [])
    (acyclic : ∀ item ∈ items, ¬ Relation.TransGen
      (fun first second => first ∈ items ∧ second ∈ items ∧ leads first second) item item) :
    ∃ item ∈ items, ∀ other ∈ items, ¬ leads item other := by
  let follows (second first : {item // item ∈ items}) : Prop := Relation.TransGen
    (fun first second => first ∈ items ∧ second ∈ items ∧ leads first second) first second
  have : Std.Irrefl follows := ⟨fun item => acyclic item item.2⟩
  have : Finite {item // item ∈ items} := (finite_toSet items).to_subtype
  obtain ⟨first, member⟩ := exists_mem_of_ne_nil items some'
  obtain ⟨last, -, least⟩ := (Finite.wellFounded_of_trans_of_irrefl follows).has_min Set.univ
    ⟨⟨first, member⟩, trivial⟩
  refine ⟨last, last.2, fun other found onward => ?_⟩
  exact least ⟨other, found⟩ trivial (Relation.TransGen.single ⟨last.2, found, onward⟩)

variable {items : List WorkItem} {item other : WorkItem} {dependency : String}

theorem mem_dependencyLookup :
    other ∈ dependencyLookup items dependency ↔ other ∈ items ∧ dependency ∈ other.keys := by
  simp only [dependencyLookup, mem_flatMap, mem_map, mem_filter, decide_eq_true_eq]
  constructor
  · rintro ⟨found, member, key, ⟨filed, rfl⟩, rfl⟩
    exact ⟨member, filed⟩
  · rintro ⟨member, filed⟩
    exact ⟨other, member, dependency, ⟨filed, rfl⟩, rfl⟩

/-- A dependency that names something known, and nothing open but items with the id of its own. -/
def Cleared (items : List WorkItem) (item : WorkItem) (dependency : String) : Prop :=
  (∃ other ∈ items, dependency ∈ other.keys) ∧
    ∀ other ∈ items, dependency ∈ other.keys → other.isClosed = true ∨ other.id = item.id

theorem dependencyReasons_eq_nil :
    dependencyReasons items item dependency = [] ↔ Cleared items item dependency := by
  have known : dependencyLookup items dependency ≠ [] ↔ ∃ other ∈ items, dependency ∈ other.keys := by
    simp only [ne_eq, eq_nil_iff_forall_not_mem, mem_dependencyLookup, not_forall, not_not]
  have settled : (dependencyLookup items dependency).filter
      (fun blocker => decide (blocker.id ≠ item.id ∧ blocker.isClosed = false)) = [] ↔
      ∀ other ∈ items, dependency ∈ other.keys → other.isClosed = true ∨ other.id = item.id := by
    simp only [filter_eq_nil_iff, mem_dependencyLookup, decide_eq_true_eq, not_and, and_imp,
      Bool.not_eq_false]
    refine forall_congr' fun other => imp_congr_right fun _ => imp_congr_right fun _ => ?_
    rw [or_comm, or_iff_not_imp_left]
  rw [Cleared, ← settled]
  unfold dependencyReasons
  dsimp only
  split
  · rename_i opened
    rw [map_eq_nil_iff]
    exact ⟨fun closed => absurd closed opened, fun closed => absurd closed.2 opened⟩
  · rename_i closed
    rw [not_not] at closed
    split <;> simp_all

theorem blockerReasons_eq_nil : blockerReasons items item = [] ↔
    item.status ≠ "blocked" ∧ (∀ label ∈ item.labels, label ∉ codexBlockingLabels) ∧
      ∀ dependency ∈ item.dependencies, Cleared items item dependency := by
  rw [blockerReasons, append_eq_nil_iff, append_eq_nil_iff, map_eq_nil_iff,
    filter_eq_nil_iff, flatMap_eq_nil_iff, and_assoc]
  refine and_congr (by split <;> simp_all) (and_congr ?_ ?_)
  · simp only [decide_eq_true_eq]
    exact ⟨fun free label carried guard => free label guard carried,
      fun free label guard carried => free label carried guard⟩
  · exact forall_congr' fun _ => imp_congr_right fun _ => dependencyReasons_eq_nil

/-- What a brief owes the items that it was built from. -/
structure Sound (epicId : String) (items : List WorkItem) (brief : Brief) : Prop where
  partition : (brief.ready ++ brief.blocked.map Prod.fst).Perm (openItems epicId items)
  cleared : ∀ item ∈ brief.ready, ∀ dependency ∈ item.dependencies, Cleared items item dependency
  progress : openItems epicId items ≠ [] → (∀ item ∈ openItems epicId items,
      item.status ≠ "blocked" ∧ (∀ label ∈ item.labels, label ∉ codexBlockingLabels) ∧
        ∀ dependency ∈ item.dependencies, (∃ other ∈ items, dependency ∈ other.keys) ∧
          ∀ other ∈ items, dependency ∈ other.keys →
            other.isClosed = true ∨ isOpen epicId other = true) →
    (∀ item ∈ openItems epicId items, ¬ Relation.TransGen
      (fun first second => first ∈ openItems epicId items ∧ second ∈ openItems epicId items ∧
        ∃ dependency ∈ first.dependencies, dependency ∈ second.keys) item item) →
    ∃ item ∈ brief.ready, brief.recommended = some item

variable {epicId : String} {ranked : List WorkItem}

/-- What the brief calls ready and what it calls blocked. -/
theorem sound_of_ranked {readySet : Json}
    (sorted : ranked.Perm ((openItems epicId items).filter fun item => blockerReasons items item = [])) :
    Sound epicId items ⟨ranked.head?, ranked, ((openItems epicId items).map fun item =>
      (item, blockerReasons items item)).filter (·.2 ≠ []), readySet⟩ where
  partition := by
    rw [filter_map]
    refine (sorted.append_right _).trans ?_
    convert filter_append_perm (fun item => decide (blockerReasons items item = []))
      (openItems epicId items) using 2
    simp [Function.comp_def]
  cleared := by
    intro item member
    have found := (mem_filter.mp (sorted.mem_iff.mp member)).2
    exact (blockerReasons_eq_nil.mp (of_decide_eq_true found)).2.2
  progress := by
    intro some' unguarded acyclic
    obtain ⟨last, member, onward⟩ := exists_last some' acyclic
    obtain ⟨status, labels, known⟩ := unguarded last member
    have free : blockerReasons items last = [] := by
      refine blockerReasons_eq_nil.mpr ⟨status, labels, fun dependency inside => ?_⟩
      obtain ⟨some'', named⟩ := known dependency inside
      refine ⟨some'', fun other found filed => .inl ?_⟩
      refine (named other found filed).resolve_right fun opened => ?_
      exact onward other (mem_filter.mpr ⟨found, opened⟩) ⟨dependency, inside, filed⟩
    have ready : last ∈ ranked := sorted.mem_iff.mpr (mem_filter.mpr ⟨member, by simpa using free⟩)
    obtain ⟨first, rest, rfl⟩ := exists_cons_of_ne_nil (ne_nil_of_mem ready)
    exact ⟨first, mem_cons_self, rfl⟩

theorem raws_of_normalized {raws : List Json} (normalized : raws.mapM (normalizeItem around) = .ok items) :
    raws = items.map WorkItem.raw := by
  rw [← List.forall₂_eq_eq_eq, List.forall₂_map_right_iff]
  refine (mapM_eq_ok.mp normalized).imp fun raw item made => ?_
  obtain ⟨_, _, made⟩ := bind_eq_ok.mp made
  obtain rfl := Except.ok.inj made
  rfl

theorem exists_normalized {raws : List Json}
    (priced : ∀ raw ∈ raws, ∃ priority, issuePriority around raw = .ok priority) :
    ∃ items, raws.mapM (normalizeItem around) = .ok items := by
  induction raws with
  | nil => exact ⟨[], rfl⟩
  | cons raw rest ih =>
    obtain ⟨priority, read⟩ := priced raw mem_cons_self
    obtain ⟨others, done⟩ := ih fun other member => priced other (mem_cons_of_mem raw member)
    exact ⟨_ :: others, mapM_eq_ok.mpr (.cons (bind_eq_ok.mpr ⟨priority, read, rfl⟩)
      (mapM_eq_ok.mp done))⟩

/-- Continuation recommends nothing that waits for other work, and it recommends something wherever the
open work is acyclic and free of guards. -/
theorem continuation_never_stalls (around : Surroundings)
    (evidence : List WorkItem → List WorkItem → Except PyError Json) (epicId : String)
    (rawItems : List Json) (unmarked : ∀ raw ∈ rawItems, raw.get? "_cwo_canonical_ready" = none) :
    ((∀ raw ∈ rawItems, issueId around raw ≠ "" → ∃ priority, issuePriority around raw = .ok priority) →
      (∀ candidates scope, ∃ readySet, evidence candidates scope = .ok readySet) →
      ∃ brief, buildContinuationBrief around evidence epicId rawItems = .ok brief) ∧
    ∀ brief, buildContinuationBrief around evidence epicId rawItems = .ok brief →
      ∃ items, normalizeItems around rawItems = .ok items ∧ Sound epicId items brief := by
  constructor
  · intro priced answered
    obtain ⟨items, normalized⟩ := exists_normalized around fun raw member =>
      priced raw (mem_filter.mp member).1 (of_decide_eq_true (mem_filter.mp member).2)
    obtain ⟨readySet, answer⟩ := answered _ _
    exact ⟨_, bind_eq_ok.mpr ⟨items, normalized, bind_eq_ok.mpr ⟨readySet, answer, rfl⟩⟩⟩
  · intro brief built
    obtain ⟨items, normalized, built⟩ := bind_eq_ok.mp built
    obtain ⟨readySet, _, built⟩ := bind_eq_ok.mp built
    have plain : canonicalReadyMode items = false := by
      rw [canonicalReadyMode, any_eq_false]
      intro item member
      have inside := mem_map_of_mem (f := WorkItem.raw) member
      rw [← raws_of_normalized around normalized] at inside
      simp [unmarked item.raw (mem_filter.mp inside).1]
    have reasons : reasonsOf items = blockerReasons items := by
      funext item
      simp [reasonsOf, plain]
    rw [reasons] at built
    obtain rfl := Except.ok.inj built
    refine ⟨items, normalized, sound_of_ranked ?_⟩
    refine (sortByKey_perm _ _).trans (List.Perm.of_eq ?_)
    rw [filter_map, map_map]
    exact map_id _

def sampleAround : Surroundings where
  spell _ := ""
  toInt
    | .int value => .ok value
    | _ => .error ⟨.type, "TypeError", "int() argument must be a string or a number"⟩

/-- Two items, the second of which waits for the first. -/
def sampleItems : List Json :=
  [.obj [("id", .str "a")], .obj [("id", .str "b"), ("dependencies", .str "a")]]

theorem continuation_never_stalls_sample :
    ∃ brief items, buildContinuationBrief sampleAround (fun _ _ => .ok .null) "epic" sampleItems =
      .ok brief ∧ normalizeItems sampleAround sampleItems = .ok items ∧ Sound "epic" items brief := by
  have steady := continuation_never_stalls sampleAround (fun _ _ => .ok .null) "epic" sampleItems
    (by decide)
  have priced : ∀ raw ∈ sampleItems, issuePriority sampleAround raw = .ok 50 := by decide +kernel
  obtain ⟨brief, built⟩ := steady.1 (fun raw member _ => ⟨50, priced raw member⟩) fun _ _ => ⟨.null, rfl⟩
  obtain ⟨items, normalized, sound⟩ := steady.2 brief built
  exact ⟨brief, items, built, normalized, sound⟩

/-- An item that waits for itself. -/
def ownWaiter : WorkItem :=
  ⟨"a", "", "issue", "open", [], 50, ["a"], "", .obj [("id", .str "a"), ("dependencies", .str "a")]⟩

theorem own_dependency_ready :
    (buildContinuationBrief sampleAround (fun _ _ => .ok .null) "epic" [ownWaiter.raw]).toOption.map
      Brief.ready = some [ownWaiter] ∧
    "a" ∈ ownWaiter.dependencies ∧ "a" ∈ ownWaiter.keys ∧ ownWaiter.isClosed = false := by
  decide +kernel

end WorkOrchestration.Workgraph.Continuation
