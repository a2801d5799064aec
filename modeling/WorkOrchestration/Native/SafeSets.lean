import Mathlib.Algebra.BigOperators.Group.Finset.Basic
import WorkOrchestration.Native.ReadyCandidates
import WorkOrchestration.Native.TransactionPlanFacts

/-!
# Safe sets

Which sets of candidates may be worked on at the same time, and that the
enumeration finds each of them once, in order, however the candidates were
supplied.
-/

namespace WorkOrchestration.Native.ReadyCandidates

open List Lib.Combinations Lib.Sorting Artifacts
open OperatorApprovals (sortedTexts sortedTexts_eq_nil)
open PoolContracts (posixParts)
open ReadyCandidate (ranking)

theorem pathOverlap_comm (left right : String) : pathOverlap left right = pathOverlap right left := by
  unfold pathOverlap
  dsimp only
  rw [Nat.min_comm, Bool.eq_iff_iff, beq_iff_eq, beq_iff_eq]
  exact eq_comm

/-- No path of one scope lies on or below a path of the other. -/
def Apart (left right : List String) : Prop :=
  ∀ leftPath ∈ left, ∀ rightPath ∈ right, pathOverlap leftPath rightPath = false

theorem Apart.symm {left right : List String} (apart : Apart left right) :
    Apart right left := by
  intro rightPath inRight leftPath inLeft
  rw [pathOverlap_comm]
  exact apart leftPath inLeft rightPath inRight

theorem scopeOverlap_eq_nil {left right : List String} :
    scopeOverlap left right = [] ↔ Apart left right := by
  rw [scopeOverlap, sortedTexts_eq_nil, flatMap_eq_nil_iff]
  refine forall_congr' fun leftPath => imp_congr_right fun _ => ?_
  rw [map_eq_nil_iff, filter_eq_nil_iff]
  simp only [Bool.not_eq_true]

theorem conflictOf_eq_nil {code : String} {issueIds evidence : List String} :
    conflictOf code issueIds evidence = [] ↔ evidence = [] := by
  unfold conflictOf
  cases evidence <;> simp

theorem disagreement_eq_nil {code : String} {issueIds : List String} {left right : String} :
    disagreement code issueIds left right = [] ↔ left = right := by
  unfold disagreement
  split <;> simp_all

/-- Two candidates may be worked on at the same time. -/
structure Compatible (left right : ReadyCandidate) : Prop where
  mutable : Apart left.mutablePaths right.mutablePaths
  leftReads : Apart left.readPaths right.mutablePaths
  rightReads : Apart right.readPaths left.mutablePaths
  domains : left.mutablePaths ≠ [] ∨ right.mutablePaths ≠ [] →
    ∀ domain ∈ left.protectedDomains, domain ∉ right.protectedDomains
  topology : left.topology = right.topology
  isolation : left.isolationClass = right.isolationClass
  architecture : left.architectureAuthority = right.architectureAuthority
  execution : left.executionAuthority = right.executionAuthority
  sharing : left.shareBoundary = right.shareBoundary
  model : left.requestedModel = right.requestedModel
  surface : left.toolSurfaceId = right.toolSurfaceId
  tools : left.requiredTools = right.requiredTools
  root : left.integrationRootIdentitySha256 = right.integrationRootIdentitySha256
  workspaces : left.workspaceScopeSha256 ≠ right.workspaceScopeSha256
  aggregate : left.aggregateHardBudget = right.aggregateHardBudget

variable {left right : ReadyCandidate}

theorem Compatible.symm (compatible : Compatible left right) : Compatible right left where
  mutable := compatible.mutable.symm
  leftReads := compatible.rightReads
  rightReads := compatible.leftReads
  domains := fun mutable domain inRight inLeft =>
    compatible.domains mutable.symm domain inLeft inRight
  topology := compatible.topology.symm
  isolation := compatible.isolation.symm
  architecture := compatible.architecture.symm
  execution := compatible.execution.symm
  sharing := compatible.sharing.symm
  model := compatible.model.symm
  surface := compatible.surface.symm
  tools := compatible.tools.symm
  root := compatible.root.symm
  workspaces := compatible.workspaces.symm
  aggregate := compatible.aggregate.symm

section

variable {left right : ReadyCandidate} {issueIds : List String}

theorem pathConflicts_eq_nil : pathConflicts left right issueIds = [] ↔
      Apart left.mutablePaths right.mutablePaths ∧ Apart left.readPaths right.mutablePaths ∧
        Apart right.readPaths left.mutablePaths := by
  rw [pathConflicts, append_eq_nil_iff, conflictOf_eq_nil, conflictOf_eq_nil,
    sortedTexts_eq_nil, append_eq_nil_iff, scopeOverlap_eq_nil, scopeOverlap_eq_nil,
    scopeOverlap_eq_nil]

theorem domainConflicts_eq_nil : domainConflicts left right issueIds = [] ↔
      (left.mutablePaths ≠ [] ∨ right.mutablePaths ≠ [] →
        ∀ domain ∈ left.protectedDomains, domain ∉ right.protectedDomains) := by
  unfold domainConflicts
  split
  · rename_i mutable
    rw [conflictOf_eq_nil, sortedTexts_eq_nil, filter_eq_nil_iff, imp_iff_right mutable]
    simp only [contains_iff_mem]
  · rename_i immutable
    exact ⟨fun _ mutable => absurd mutable immutable, fun _ => rfl⟩

theorem isolationConflicts_eq_nil :
    isolationConflicts left right issueIds = [] ↔ left.isolationClass = right.isolationClass := by
  unfold isolationConflicts
  split
  · rename_i conflict
    exact ⟨fun none => (cons_ne_nil _ _ none).elim, fun same => absurd same conflict.1⟩
  · rename_i peaceful
    refine ⟨fun _ => ?_, fun _ => rfl⟩
    by_contra apart
    refine peaceful ⟨apart, ?_⟩
    by_contra shared
    push Not at shared
    exact apart (shared.1.trans shared.2.symm)

theorem toolConflicts_eq_nil : toolConflicts left right issueIds = [] ↔
      left.toolSurfaceId = right.toolSurfaceId ∧ left.requiredTools = right.requiredTools := by
  unfold toolConflicts
  split
  · rename_i conflict
    refine ⟨fun none => (cons_ne_nil _ _ none).elim, ?_⟩
    rintro ⟨surface, tools⟩
    exact absurd conflict (not_or.mpr ⟨not_not.mpr surface, not_not.mpr tools⟩)
  · rename_i peaceful
    rw [not_or, not_not, not_not] at peaceful
    exact ⟨fun _ => peaceful, fun _ => rfl⟩

theorem leaseConflicts_eq_nil : leaseConflicts left right issueIds = [] ↔
      left.integrationRootIdentitySha256 = right.integrationRootIdentitySha256 ∧
        left.workspaceScopeSha256 ≠ right.workspaceScopeSha256 := by
  rw [leaseConflicts, append_eq_nil_iff]
  refine and_congr ?_ ?_ <;> split <;> simp_all

theorem aggregateConflicts_eq_nil : aggregateConflicts left right issueIds = [] ↔
      left.aggregateHardBudget = right.aggregateHardBudget := by
  unfold aggregateConflicts
  split <;> simp_all

end

theorem candidateConflicts_eq_nil : candidateConflicts left right = [] ↔ Compatible left right := by
  unfold candidateConflicts
  simp only [append_eq_nil_iff, pathConflicts_eq_nil, domainConflicts_eq_nil,
    disagreement_eq_nil, isolationConflicts_eq_nil, toolConflicts_eq_nil, leaseConflicts_eq_nil,
    aggregateConflicts_eq_nil]
  constructor
  · rintro ⟨⟨⟨⟨⟨⟨⟨⟨⟨⟨⟨mutable, leftReads, rightReads⟩, domains⟩, topology⟩, isolation⟩,
      architecture⟩, execution⟩, sharing⟩, model⟩, surface, tools⟩, root, workspaces⟩, aggregate⟩
    exact ⟨mutable, leftReads, rightReads, domains, topology, isolation, architecture, execution,
      sharing, model, surface, tools, root, workspaces, aggregate⟩
  · rintro ⟨mutable, leftReads, rightReads, domains, topology, isolation, architecture, execution,
      sharing, model, surface, tools, root, workspaces, aggregate⟩
    exact ⟨⟨⟨⟨⟨⟨⟨⟨⟨⟨⟨mutable, leftReads, rightReads⟩, domains⟩, topology⟩, isolation⟩,
      architecture⟩, execution⟩, sharing⟩, model⟩, surface, tools⟩, root, workspaces⟩, aggregate⟩

/-- The ids of the candidates tell them apart. -/
def Distinct (candidates : List ReadyCandidate) : Prop := (candidates.map (·.issueId)).Nodup

variable {candidates : List ReadyCandidate}

theorem Distinct.nodup (distinct : Distinct candidates) :
    candidates.Nodup := List.Nodup.of_map _ distinct

theorem Distinct.eq (distinct : Distinct candidates) (inLeft : left ∈ candidates)
    (inRight : right ∈ candidates) (same : left.issueId = right.issueId) : left = right :=
  inj_on_of_nodup_map distinct inLeft inRight same

theorem Distinct.perm {other : List ReadyCandidate} (distinct : Distinct candidates)
    (supplied : other.Perm candidates) : Distinct other :=
  (supplied.map _).nodup_iff.mpr distinct

theorem ranking_injective (same : left.ranking = right.ranking) : left.issueId = right.issueId := by
  have pair := toLex.injective same
  exact (Prod.mk.inj pair).2

variable {first : ReadyCandidate}

theorem pairKey_eq {second : ReadyCandidate} (same : pairKey first second = pairKey left right) :
    first.issueId = left.issueId ∧ second.issueId = right.issueId ∨
      first.issueId = right.issueId ∧ second.issueId = left.issueId := by
  unfold pairKey at same
  split at same <;> split at same <;> simp only [Prod.mk.injEq] at same <;> tauto

theorem mem_pairConflicts (distinct : Distinct candidates) (inLeft : left ∈ candidates)
    (inRight : right ∈ candidates) {conflicts : List Conflict}
    (entry : (pairKey left right, conflicts) ∈ pairConflicts candidates) :
    conflicts = candidateConflicts left right ∨ conflicts = candidateConflicts right left := by
  rw [pairConflicts, mem_reverse, mem_map] at entry
  obtain ⟨⟨first, second⟩, member, named⟩ := entry
  obtain ⟨key, rfl⟩ := Prod.mk.inj named
  obtain ⟨inFirst, inSecond⟩ := mem_pairs member
  rcases pairKey_eq key with ⟨sameFirst, sameSecond⟩ | ⟨sameFirst, sameSecond⟩
  · rw [distinct.eq inFirst inLeft sameFirst, distinct.eq inSecond inRight sameSecond]
    exact .inl rfl
  · rw [distinct.eq inFirst inRight sameFirst, distinct.eq inSecond inLeft sameSecond]
    exact .inr rfl

theorem pairKey_comm (apart : left.issueId ≠ right.issueId) :
    pairKey left right = pairKey right left := by
  unfold pairKey
  rcases lt_or_gt_of_ne apart with before | after
  · rw [if_pos before.le, if_neg (not_le.mpr before)]
  · rw [if_neg (not_le.mpr after), if_pos after.le]

/-- Looking a pair up tells whether it is compatible. -/
theorem lookup_pairConflicts (distinct : Distinct candidates) (inLeft : left ∈ candidates)
    (inRight : right ∈ candidates) (apart : left ≠ right) :
    (((pairConflicts candidates).lookup (pairKey left right)).getD []).isEmpty = true ↔
      Compatible left right := by
  have present : ∃ conflicts, (pairKey left right, conflicts) ∈ pairConflicts candidates := by
    unfold pairConflicts
    simp only [mem_reverse, mem_map, Prod.exists, Prod.mk.injEq]
    rcases pair_mem_pairs inLeft inRight apart with member | member
    · exact ⟨_, left, right, member, rfl, rfl⟩
    · have ids : right.issueId ≠ left.issueId := fun same =>
        apart (distinct.eq inRight inLeft same).symm
      exact ⟨_, right, left, member, pairKey_comm ids, rfl⟩
  cases found : (pairConflicts candidates).lookup (pairKey left right) with
  | none =>
    obtain ⟨conflicts, entry⟩ := present
    have unknown := lookup_eq_none_iff.mp found _ entry
    simp at unknown
  | some conflicts =>
    obtain ⟨before, after, split, _⟩ := lookup_eq_some_iff.mp found
    have entry : (pairKey left right, conflicts) ∈ pairConflicts candidates := by
      rw [split]
      exact mem_append_right _ mem_cons_self
    rw [Option.getD_some, List.isEmpty_iff]
    rcases mem_pairConflicts distinct inLeft inRight entry with rfl | rfl
    · exact candidateConflicts_eq_nil
    · rw [candidateConflicts_eq_nil]
      exact ⟨Compatible.symm, Compatible.symm⟩

theorem subsetBudgetConflicts_eq_nil {rest : List ReadyCandidate} :
    subsetBudgetConflicts (first :: rest) = [] ↔
      ∀ field, totalOf (first :: rest) field ≤ first.aggregateHardBudget.amount field := by
  unfold subsetBudgetConflicts
  rw [conflictOf_eq_nil, map_eq_nil_iff, filter_eq_nil_iff]
  constructor
  · intro within field
    simpa using within field (PoolBudgetField.mem_fields field)
  · intro within field _
    simpa using within field

/-- A selection of candidates that may be worked on at the same time. -/
structure Fitting (selection : List ReadyCandidate) : Prop where
  compatible : selection.Pairwise Compatible
  budget : ∀ candidate ∈ selection, ∀ field,
    totalOf selection field ≤ candidate.aggregateHardBudget.amount field

theorem aggregate_eq {rest : List ReadyCandidate} (compatible : (first :: rest).Pairwise Compatible) :
    ∀ candidate ∈ first :: rest, candidate.aggregateHardBudget = first.aggregateHardBudget := by
  intro candidate member
  rcases mem_cons.mp member with rfl | later
  · rfl
  · exact ((pairwise_cons.mp compatible).1 candidate later).aggregate.symm

variable {selection : List ReadyCandidate}

theorem safeSubset_iff (distinct : Distinct candidates) (within : selection ⊆ candidates)
    (apart : selection.Nodup) (nonempty : selection ≠ []) :
    safeSubset (pairConflicts candidates) selection = true ↔ Fitting selection := by
  have pairwise : ((pairs selection).all fun pair =>
      (((pairConflicts candidates).lookup (pairKey pair.1 pair.2)).getD []).isEmpty) = true ↔
        selection.Pairwise Compatible := by
    rw [all_eq_true, ← forall_mem_pairs]
    have differ := forall_mem_pairs.mpr apart
    refine forall_congr' fun pair => imp_congr_right fun member => ?_
    obtain ⟨inLeft, inRight⟩ := mem_pairs member
    exact lookup_pairConflicts distinct (within inLeft) (within inRight) (differ pair member)
  unfold safeSubset
  rw [Bool.and_eq_true, pairwise, List.isEmpty_iff]
  cases selection with
  | nil => exact absurd rfl nonempty
  | cons first rest =>
    rw [subsetBudgetConflicts_eq_nil]
    constructor
    · rintro ⟨compatible, budget⟩
      refine ⟨compatible, fun candidate member field => ?_⟩
      rw [aggregate_eq compatible candidate member]
      exact budget field
    · rintro ⟨compatible, budget⟩
      exact ⟨compatible, budget first mem_cons_self⟩

section

variable {candidates : List ReadyCandidate} (distinct : Distinct candidates) (capacity : Int)

def ranked (candidates : List ReadyCandidate) : List ReadyCandidate :=
  sortByKey ranking candidates

/-- The sets that `_enumerate_safe_sets` returns for the conflicts of its candidates. -/
def safeSets (candidates : List ReadyCandidate) (capacity : Int) : List (List ReadyCandidate) :=
  enumerateSafeSets candidates capacity (pairConflicts candidates)

theorem mem_ranked {candidate : ReadyCandidate} : candidate ∈ ranked candidates ↔ candidate ∈ candidates :=
  mem_sortByKey _

include distinct in
theorem ranked_nodup : (ranked candidates).Nodup :=
  (sortByKey_perm _ _).nodup_iff.mpr distinct.nodup

include distinct in
theorem ranked_ascending :
    (ranked candidates).Pairwise fun left right => left.ranking < right.ranking := by
  have ordered : (ranked candidates).Pairwise fun left right => left.ranking ≤ right.ranking :=
    pairwise_sortByKey _ _
  have both := pairwise_and_iff.mpr ⟨ordered, ranked_nodup distinct⟩
  refine both.imp_of_mem ?_
  rintro left right inLeft inRight ⟨before, apart⟩
  refine lt_of_le_of_ne before fun same => apart ?_
  exact distinct.eq (mem_ranked.mp inLeft) (mem_ranked.mp inRight) (ranking_injective same)

include distinct in
theorem mem_safeSets {selection : List ReadyCandidate} : selection ∈ safeSets candidates capacity ↔
      selection.Sublist (ranked candidates) ∧ selection ≠ [] ∧
        (selection.length : Int) ≤ capacity ∧ Fitting selection := by
  unfold safeSets enumerateSafeSets
  dsimp only
  rw [mem_sortByKey, mem_filter, mem_selections]
  constructor
  · rintro ⟨⟨part, nonempty, bounded⟩, safe⟩
    have positive := length_pos_iff.mpr nonempty
    refine ⟨part, nonempty, by omega, ?_⟩
    exact (safeSubset_iff distinct (fun _ member => mem_ranked.mp (part.subset member))
      ((ranked_nodup distinct).sublist part) nonempty).mp safe
  · rintro ⟨part, nonempty, bounded, fitting⟩
    have within := part.length_le
    refine ⟨⟨part, nonempty, ?_⟩, ?_⟩
    · unfold ranked at within
      omega
    · exact (safeSubset_iff distinct (fun _ member => mem_ranked.mp (part.subset member))
        ((ranked_nodup distinct).sublist part) nonempty).mpr fitting

include distinct in
theorem safeSets_nodup : (safeSets candidates capacity).Nodup := by
  unfold safeSets enumerateSafeSets
  exact (sortByKey_perm _ _).nodup_iff.mpr ((nodup_selections (ranked_nodup distinct) _).filter _)

include distinct in
theorem ranking_eq {left right : ReadyCandidate} (inLeft : left ∈ ranked candidates)
    (inRight : right ∈ ranked candidates) (same : left.ranking = right.ranking) : left = right :=
  distinct.eq (mem_ranked.mp inLeft) (mem_ranked.mp inRight) (ranking_injective same)

include distinct in
/-- A set is known by the ranking of its candidates. -/
theorem setKey_injective {first second : List ReadyCandidate}
    (inFirst : first.Sublist (ranked candidates)) (inSecond : second.Sublist (ranked candidates))
    (same : setKey first = setKey second) : first = second := by
  have rankings : first.map ranking = second.map ranking :=
    (Prod.mk.inj (toLex.injective same)).2
  have carried : ∀ {left right : List ReadyCandidate}, left.Sublist (ranked candidates) →
      right.Sublist (ranked candidates) →
      left.map ranking = right.map ranking → left ⊆ right := by
    intro left right inLeft inRight equal item member
    have named : item.ranking ∈ right.map ranking := equal ▸ mem_map_of_mem member
    obtain ⟨other, found, ranking⟩ := mem_map.mp named
    rw [← ranking_eq distinct (inRight.subset found) (inLeft.subset member) ranking]
    exact found
  refine sublist_eq_of_toFinset (ranked_nodup distinct) inFirst inSecond ?_
  ext item
  rw [mem_toFinset, mem_toFinset]
  exact ⟨fun member => carried inFirst inSecond rankings member,
    fun member => carried inSecond inFirst rankings.symm member⟩

include distinct in
/-- Larger sets come first, and sets of one size in the order of their rankings. -/
theorem safeSets_ordered : (safeSets candidates capacity).Pairwise fun first second =>
      second.length < first.length ∨ first.length = second.length ∧
        first.map ranking < second.map ranking := by
  have sorted : (safeSets candidates capacity).Pairwise fun first second =>
      setKey first ≤ setKey second := pairwise_sortByKey _ _
  have both := pairwise_and_iff.mpr ⟨sorted, safeSets_nodup distinct capacity⟩
  refine both.imp_of_mem ?_
  rintro first second inFirst inSecond ⟨before, apart⟩
  have partFirst := ((mem_safeSets distinct capacity).mp inFirst).1
  have partSecond := ((mem_safeSets distinct capacity).mp inSecond).1
  have strictly : setKey first < setKey second :=
    lt_of_le_of_ne before fun same => apart (setKey_injective distinct partFirst partSecond same)
  rcases Prod.Lex.toLex_lt_toLex.mp strictly with larger | ⟨same, later⟩
  · exact .inl (by simpa using larger)
  · exact .inr ⟨Int.ofNat_inj.mp (neg_inj.mp same), later⟩

include distinct in
/-- The order in which the candidates are supplied does not matter. -/
theorem safeSets_congr {other : List ReadyCandidate} (supplied : other.Perm candidates) :
    safeSets other capacity = safeSets candidates capacity := by
  have again := distinct.perm supplied
  have order : ranked other = ranked candidates := by
    refine sortByKey_congr _ supplied fun left inLeft right inRight same => ?_
    exact again.eq inLeft inRight (ranking_injective same)
  have judged : ∀ selection, selection.Sublist (ranked candidates) → selection ≠ [] →
      safeSubset (pairConflicts other) selection = safeSubset (pairConflicts candidates) selection := by
    intro selection part nonempty
    have distinctly := (ranked_nodup distinct).sublist part
    have within : selection ⊆ candidates := fun _ member => mem_ranked.mp (part.subset member)
    rw [Bool.eq_iff_iff, safeSubset_iff distinct within distinctly nonempty,
      safeSubset_iff again (fun _ member => supplied.mem_iff.mpr (within member)) distinctly nonempty]
  unfold safeSets enumerateSafeSets
  dsimp only
  have same : sortByKey ranking other = sortByKey ranking candidates :=
    order
  rw [same]
  refine congrArg (sortByKey setKey) (filter_congr fun selection member => ?_)
  obtain ⟨part, nonempty, _⟩ := mem_selections.mp member
  exact judged selection part nonempty

end

/-- A set of at most `capacity` candidates that may be worked on at the same time. -/
structure SafeSubset (candidates : List ReadyCandidate) (capacity : Int)
    (subset : Finset ReadyCandidate) : Prop where
  within : subset ⊆ candidates.toFinset
  nonempty : subset.Nonempty
  bounded : (subset.card : Int) ≤ capacity
  compatible : ∀ left ∈ subset, ∀ right ∈ subset, left ≠ right → candidateConflicts left right = []
  fits : ∀ candidate ∈ subset, ∀ field, subset.sum (fun member => member.hardBudget.amount field) ≤
      candidate.aggregateHardBudget.amount field

theorem sum_toFinset (apart : selection.Nodup) (field : PoolBudgetField) :
    selection.toFinset.sum (fun member => member.hardBudget.amount field) = totalOf selection field :=
  List.sum_toFinset _ apart

theorem safeSubset_toFinset (distinct : Distinct candidates) (capacity : Int)
    (part : selection.Sublist (ranked candidates)) :
    SafeSubset candidates capacity selection.toFinset ↔ selection ∈ safeSets candidates capacity := by
  have apart := (ranked_nodup distinct).sublist part
  rw [mem_safeSets distinct]
  have card : selection.toFinset.card = selection.length := toFinset_card_of_nodup apart
  constructor
  · rintro ⟨_, nonempty, bounded, compatible, fits⟩
    refine ⟨part, toFinset_nonempty_iff _ |>.mp nonempty, card ▸ bounded, ?_, ?_⟩
    · refine apart.imp_of_mem fun inLeft inRight differ => ?_
      exact candidateConflicts_eq_nil.mp (compatible _ (mem_toFinset.mpr inLeft) _
        (mem_toFinset.mpr inRight) differ)
    · intro candidate member field
      rw [← sum_toFinset apart]
      exact fits candidate (mem_toFinset.mpr member) field
  · rintro ⟨_, nonempty, bounded, compatible, budget⟩
    refine ⟨?_, (toFinset_nonempty_iff _).mpr nonempty, card ▸ bounded, ?_, ?_⟩
    · intro item member
      exact mem_toFinset.mpr (mem_ranked.mp (part.subset (mem_toFinset.mp member)))
    · intro left inLeft right inRight differ
      have symmetric : Std.Symm Compatible := ⟨fun _ _ => Compatible.symm⟩
      exact candidateConflicts_eq_nil.mpr (compatible.forall (mem_toFinset.mp inLeft)
        (mem_toFinset.mp inRight) differ)
    · intro candidate member field
      rw [sum_toFinset apart]
      exact budget candidate (mem_toFinset.mp member) field

/-- The sets are the safe subsets of the candidates, each of them once and in order. -/
structure Enumerates (candidates : List ReadyCandidate) (capacity : Int)
    (sets : List (List ReadyCandidate)) : Prop where
  exact : ∀ subset, SafeSubset candidates capacity subset ↔ subset ∈ sets.map List.toFinset
  once : (sets.map List.toFinset).Nodup
  inOrder : ∀ selection ∈ sets, selection.Pairwise fun left right => left.ranking < right.ranking
  ordered : sets.Pairwise fun first second =>
    second.length < first.length ∨ first.length = second.length ∧
      first.map ranking < second.map ranking

theorem safeSets_enumerate (distinct : Distinct candidates) (capacity : Int) :
    Enumerates candidates capacity (safeSets candidates capacity) where
  exact := by
    intro subset
    rw [mem_map]
    constructor
    · intro safe
      have within : subset ⊆ (ranked candidates).toFinset := fun item member =>
        mem_toFinset.mpr (mem_ranked.mpr (mem_toFinset.mp (safe.within member)))
      obtain ⟨selection, part, rfl⟩ := exists_sublist within
      exact ⟨selection, (safeSubset_toFinset distinct capacity part).mp safe, rfl⟩
    · rintro ⟨selection, member, rfl⟩
      have part := ((mem_safeSets distinct capacity).mp member).1
      exact (safeSubset_toFinset distinct capacity part).mpr member
  once := by
    refine List.Nodup.map_on ?_ (safeSets_nodup distinct capacity)
    intro first inFirst second inSecond same
    exact sublist_eq_of_toFinset (ranked_nodup distinct)
      ((mem_safeSets distinct capacity).mp inFirst).1
      ((mem_safeSets distinct capacity).mp inSecond).1 same
  inOrder := fun selection member =>
    (ranked_ascending distinct).sublist ((mem_safeSets distinct capacity).mp member).1
  ordered := safeSets_ordered distinct capacity

/-- The enumeration is complete, sound and independent of the order of its candidates. -/
theorem safe_sets_exact {candidates : List ReadyCandidate} (distinct : Distinct candidates)
    (capacity : Int) :
    Enumerates candidates capacity (safeSets candidates capacity) ∧
      ∀ other : List ReadyCandidate, other.Perm candidates →
        safeSets other capacity = safeSets candidates capacity :=
  ⟨safeSets_enumerate distinct capacity, fun _ supplied => safeSets_congr distinct capacity supplied⟩

def reader (issueId path : String) (rank : Int) (workspace : Digest) : ReadyCandidate where
  issueId := issueId
  rank := rank
  workEstimateSha256 := textSha256 "estimate"
  workerCommitmentSha256 := textSha256 "commitment"
  admissionMetadataSha256 := textSha256 "admission"
  readPaths := [path]
  writePaths := []
  integrationTargetPaths := []
  protectedDomains := []
  topology := "single-host-process-v1"
  isolationClass := "read-only-shared"
  architectureAuthority := "architect"
  executionAuthority := "operator"
  shareBoundary := "no-outside-sharing"
  requestedModel := "model"
  requiredTools := ["shell"]
  toolSurfaceId := "surface"
  toolPolicySha256 := textSha256 "policy"
  toolSurfaceSha256 := textSha256 "surface"
  capabilityReceiptSha256 := textSha256 "receipt"
  capabilityAssessedAt := "2026-01-01T00:00:00Z"
  leaseScopeSha256 := textSha256 "scope"
  integrationRootIdentitySha256 := textSha256 "root"
  workspaceScopeSha256 := workspace
  authorityApprovalAuditSha256 := none
  hardBudget := ⟨10, 60, 1, 0, 0⟩
  aggregateHardBudget := ⟨20, 120, 2, 0, 0⟩

def readers : List ReadyCandidate :=
  [reader "cwo-2" "docs/b" 1 (textSha256 "two"), reader "cwo-1" "docs/a" 0 (textSha256 "one")]

theorem safe_sets_exact_readers : Enumerates readers 2 (safeSets readers 2) ∧
      ∀ other : List ReadyCandidate, other.Perm readers → safeSets other 2 = safeSets readers 2 :=
  safe_sets_exact (by unfold Distinct; decide) 2

end WorkOrchestration.Native.ReadyCandidates
