import Mathlib.Data.List.Perm.Basic
import Mathlib.Data.Set.Lattice
import Mathlib.Order.CompletePartialOrder
import WorkOrchestration.Lib.Results
import WorkOrchestration.Lib.Dictionaries
import WorkOrchestration.Lib.Joins
import WorkOrchestration.Native.Documents
import WorkOrchestration.Native.Spelling
import WorkOrchestration.Native.StopScope

/-!
# Merging any number of stops

`merge_stop_metadata` over as many stops as it is given, for digests that are
spelled in any way that tells them apart.  A stop means how far it reaches, whose
authority it names and which ways of going on it leaves open; merging joins these
meanings.
-/

namespace WorkOrchestration.Native.StopMerging

open Lib.Results (forM_eq_ok)
open List Lib.Checks Lib.Dictionaries Lib.Joins Lib.Text Artifacts Authority
open StopScope
open Digest (key spelling)

/-- `STOP_SCOPES[rank]`. -/
def stopScopes : Nat → Scope
  | 0 => .child
  | 1 => .cohort
  | 2 => .executionPath
  | 3 => .completeTask
  | _ => .publication

@[simp]
theorem stopScopes_rank (scope : Scope) : stopScopes scope.rank = scope := by
  cases scope <;> rfl

section

-- how a digest is spelled
variable (spell : Digest → List Char)

/-- `canonical_scope_sha256` of a continuation path. -/
def pathSha256 (path : ContinuationPath) : List Char := spell (canonicalSha256 path.json)

/-- `canonical_scope_sha256` of a scope authority. -/
def authoritySha256 (authority : Provenance) : List Char := spell (canonicalSha256 authority.json)

def validateContinuationPaths (value : List ContinuationPath) : List String :=
  forEach value (fun index entry =>
    reject (¬ entry.Canonical) s!"continuation-path[{index}]-not-canonical") ++
  reject (¬ value.Pairwise (pathSha256 spell · ≤ pathSha256 spell ·))
    "authorized-continuation-paths-not-canonical" ++
  reject (¬ (value.map (pathSha256 spell)).Nodup) "authorized-continuation-paths-duplicate"

def validateStopMetadata (value : StopMetadata) : List String :=
  (validateAuthorityProvenance value.scopeAuthority).map
    (fun error => error.replace "authority-provenance" "scope-authority") ++
  validateContinuationPaths spell value.authorizedContinuationPaths ++
  reject (value.scopeAuthority.authorizedScope.rank < value.stopScope.rank)
    "stop-scope-exceeds-authority"

variable (values : List StopMetadata)

/-- `max(STOP_SCOPE_RANK[value["stop_scope"]] for value in normalized)`. -/
def maximum : Nat :=
  (values.map fun value => value.stopScope.rank).foldr max 0

/-- The stops that reach as far as any. -/
def winners : List StopMetadata :=
  values.filter fun value => value.stopScope.rank = maximum values

/-- `winners.sort(key=lambda item: canonical_scope_sha256(item["scope_authority"]))`. -/
def sortedWinners : List StopMetadata :=
  (winners values).insertionSort fun left right =>
    authoritySha256 spell left.scopeAuthority ≤ authoritySha256 spell right.scopeAuthority

def pathsByHash : List (List Char × ContinuationPath) :=
  filed (pathSha256 spell) (values.flatMap fun value => value.authorizedContinuationPaths)

def checkStopMetadata (value : StopMetadata) : Except PyError Unit :=
  match validateStopMetadata spell value with
  | [] => .ok ()
  | errors =>
    .error ⟨.value, "AuthorityProvenanceError",
      "stop-metadata-invalid:" ++ joinWith ";" errors⟩

/-- The stop that the sorted winners make: `selected = winners[0]` and every winner's paths. -/
def mergeWinners (rank : Nat) : List StopMetadata → Except PyError StopMetadata
  | [] => .error ⟨.other, "IndexError", "list index out of range"⟩
  | selected :: others =>
    .ok
      { stopScope := stopScopes rank
        authorizedContinuationPaths := inKeyOrder (pathsByHash spell (selected :: others))
        scopeAuthority := selected.scopeAuthority }

def mergeStopMetadata : Except PyError StopMetadata := do
  if values = [] then
    .error ⟨.value, "AuthorityProvenanceError", "stop-metadata-merge-requires-input"⟩
  else
    values.forM (checkStopMetadata spell)
    mergeWinners spell (maximum values) (sortedWinners spell values)

end

variable {spell : Digest → List Char}

theorem continuation_text_injective : Function.Injective Continuation.text := by
  intro left right same
  cases left <;> cases right <;> first | rfl | exact absurd same (by decide)

theorem strings_injective {left right : List String} (same : Json.strings left = Json.strings right) :
    left = right := by
  have items : (left.map Json.str) = right.map Json.str := by
    have elements := congrArg Json.elements? same
    unfold Json.strings at elements
    rw [Json.elements?_arr, Json.elements?_arr] at elements
    exact Option.some.inj elements
  exact map_injective_iff.mpr (fun _ _ equal => Json.str.inj equal) items

theorem path_json_injective : Function.Injective ContinuationPath.json := by
  rintro ⟨path, target, conditions⟩ ⟨otherPath, otherTarget, otherConditions⟩ same
  simp only [ContinuationPath.json, Json.obj, foldr_cons, foldr_nil, Json.field.injEq,
    true_and, and_true, Json.str.injEq] at same
  obtain ⟨paths, targets, texts⟩ := same
  have conditionNames := map_injective_iff.mpr (fun _ _ => Name.text_injective)
    (strings_injective texts)
  rw [continuation_text_injective paths, conditionNames]
  cases target <;> cases otherTarget
  · rfl
  · cases targets
  · cases targets
  · rw [Name.text_injective (Json.str.inj targets)]

theorem scope_text_injective : Function.Injective Scope.text := by
  intro left right same
  cases left <;> cases right <;> first | rfl | exact absurd same (by decide)

theorem sourceType_text_injective : Function.Injective SourceType.text := by
  intro left right same
  cases left <;> cases right <;> first | rfl | exact absurd same (by decide)

theorem actorRole_text_injective : Function.Injective ActorRole.text := by
  intro left right same
  cases left <;> cases right <;> first | rfl | exact absurd same (by decide)

theorem digest_json_injective : Function.Injective Digest.json := by
  rintro ⟨left⟩ ⟨right⟩ same
  exact congrArg Digest.mk (Json.sha256.inj same)

theorem optional_json_injective : Function.Injective (Json.optional Digest.json) := by
  intro left right same
  cases left <;> cases right
  · rfl
  · cases same
  · cases same
  · exact congrArg some (digest_json_injective same)

theorem provenance_json_injective : Function.Injective Provenance.json := by
  intro left right same
  cases left
  simp only [Provenance.json, Provenance.body, Json.obj, foldr_cons, foldr_nil,
    Json.field.injEq, true_and, and_true, Json.str.injEq] at same
  obtain ⟨own, source, sourceId, sourceHash, actor, role, identity, scope, parent, method,
    evidence⟩ := same
  rw [digest_json_injective own, sourceType_text_injective source, sourceId,
    digest_json_injective sourceHash, actor, actorRole_text_injective role, identity,
    scope_text_injective scope, optional_json_injective parent, method,
    digest_json_injective evidence]

theorem authoritySha256_injective (distinct : Function.Injective spell) :
    Function.Injective (authoritySha256 spell) := by
  intro left right same
  exact provenance_json_injective (canonicalSha256_injective (distinct same))

theorem pathSha256_injective (distinct : Function.Injective spell) :
    Function.Injective (pathSha256 spell) := by
  intro left right same
  exact path_json_injective (canonicalSha256_injective (distinct same))

theorem validateContinuationPaths_eq_nil {value : List ContinuationPath} :
    validateContinuationPaths spell value = [] ↔
      (∀ entry ∈ value, entry.Canonical) ∧ value.Pairwise (pathSha256 spell · < pathSha256 spell ·) := by
  have strict : value.Pairwise (pathSha256 spell · < pathSha256 spell ·) ↔
      value.Pairwise (pathSha256 spell · ≤ pathSha256 spell ·) ∧
        (value.map (pathSha256 spell)).Nodup := by
    rw [List.Nodup, pairwise_map, ← pairwise_and_iff]
    refine List.Pairwise.iff fun left right => ?_
    exact ⟨fun less => ⟨less.le, less.ne⟩, fun both => lt_of_le_of_ne both.1 both.2⟩
  simp only [validateContinuationPaths, append_eq_nil_iff, forEach_eq_nil, reject_eq_nil,
    Decidable.not_not, and_assoc, strict]
  refine and_congr_left fun _ => ⟨fun each entry member => ?_, fun each _ entry found => ?_⟩
  · obtain ⟨index, found⟩ := mem_iff_getElem?.mp member
    exact each index entry found
  · exact each entry (mem_of_getElem? found)

variable {value : StopMetadata}

theorem validateStopMetadata_eq_nil :
    validateStopMetadata spell value = [] ↔
      validateAuthorityProvenance value.scopeAuthority = [] ∧
        validateContinuationPaths spell value.authorizedContinuationPaths = [] ∧
        value.stopScope.rank ≤ value.scopeAuthority.authorizedScope.rank := by
  simp only [validateStopMetadata, append_eq_nil_iff, map_eq_nil_iff, reject_eq_nil,
    not_lt, and_assoc]

theorem checkStopMetadata_ok :
    checkStopMetadata spell value = .ok () ↔ validateStopMetadata spell value = [] := by
  unfold checkStopMetadata
  split
  · rename_i accepted
    simp [accepted]
  · rename_i refused
    simpa using refused

/-- How far a stop reaches, then whose authority it prefers and what it leaves open. -/
abbrev Meaning := ℕ ×ₗ ((List Char)ᵒᵈ × Set ContinuationPath)

/-- What a stop says besides its extent. -/
def terms (spell : Digest → List Char) (value : StopMetadata) :
    (List Char)ᵒᵈ × Set ContinuationPath :=
  (OrderDual.toDual (authoritySha256 spell value.scopeAuthority),
    {path | path ∈ value.authorizedContinuationPaths})

def meaning (spell : Digest → List Char) (value : StopMetadata) : Meaning :=
  toLex (value.stopScope.rank, terms spell value)

variable {left right : List ContinuationPath}

theorem eq_of_ordered (leftOrder : left.Pairwise (pathSha256 spell · < pathSha256 spell ·))
    (rightOrder : right.Pairwise (pathSha256 spell · < pathSha256 spell ·))
    (same : ∀ path, path ∈ left ↔ path ∈ right) : left = right := by
  have leftDistinct : left.Nodup := leftOrder.imp fun less equal => less.ne (by rw [equal])
  have rightDistinct : right.Nodup := rightOrder.imp fun less equal => less.ne (by rw [equal])
  have reordered : left.Perm right := (perm_ext_iff_of_nodup leftDistinct rightDistinct).mpr same
  exact reordered.eq_of_pairwise (fun _ _ _ _ less more => absurd more less.le.not_gt)
    leftOrder rightOrder

theorem meaning_faithful (distinct : Function.Injective spell) {left right : StopMetadata}
    (leftAccepted : validateStopMetadata spell left = [])
    (rightAccepted : validateStopMetadata spell right = [])
    (same : meaning spell left = meaning spell right) : left = right := by
  obtain ⟨level, agreed⟩ := Prod.mk.inj (toLex.injective same)
  obtain ⟨authorities, paths⟩ := Prod.mk.inj agreed
  have leftPaths := (validateStopMetadata_eq_nil.mp leftAccepted).2.1
  have rightPaths := (validateStopMetadata_eq_nil.mp rightAccepted).2.1
  have samePaths := eq_of_ordered (validateContinuationPaths_eq_nil.mp leftPaths).2
    (validateContinuationPaths_eq_nil.mp rightPaths).2 (Set.ext_iff.mp paths)
  have sameAuthority := authoritySha256_injective distinct (OrderDual.toDual.injective authorities)
  rw [StopMetadata.mk.injEq]
  exact ⟨Scope.rank_injective level, samePaths, sameAuthority⟩

variable {values : List StopMetadata}

theorem rank_le_maximum (member : value ∈ values) : value.stopScope.rank ≤ maximum values := by
  induction values with
  | nil => cases member
  | cons first rest ih =>
    rcases mem_cons.mp member with rfl | later
    · exact le_max_left _ _
    · exact (ih later).trans (le_max_right _ _)

theorem exists_rank_eq_maximum (given : values ≠ []) :
    ∃ value ∈ values, value.stopScope.rank = maximum values := by
  induction values with
  | nil => exact absurd rfl given
  | cons first rest ih =>
    have whole : maximum (first :: rest) = max first.stopScope.rank (maximum rest) := rfl
    rw [whole]
    rcases le_or_gt (maximum rest) first.stopScope.rank with below | above
    · exact ⟨first, mem_cons_self, (max_eq_left below).symm⟩
    · have more : rest ≠ [] := by
        rintro rfl
        exact absurd above (Nat.not_lt_zero _)
      obtain ⟨value, member, level⟩ := ih more
      exact ⟨value, mem_cons_of_mem _ member, by rw [max_eq_right above.le, level]⟩

theorem mem_winners :
    value ∈ winners values ↔ value ∈ values ∧ value.stopScope.rank = maximum values := by
  simp [winners]

theorem mem_sortedWinners :
    value ∈ sortedWinners spell values ↔ value ∈ winners values := by
  exact mem_insertionSort _

/-- What is merged: the widest extent, the preferred authority and every winner's paths. -/
structure Merges (spell : Digest → List Char) (values : List StopMetadata)
    (merged : StopMetadata) : Prop where
  scope : merged.stopScope = stopScopes (maximum values)
  authority : ∃ value ∈ winners values, merged.scopeAuthority = value.scopeAuthority
  preferred : ∀ value ∈ winners values,
    authoritySha256 spell merged.scopeAuthority ≤ authoritySha256 spell value.scopeAuthority
  ordered : merged.authorizedContinuationPaths.Pairwise (pathSha256 spell · < pathSha256 spell ·)
  paths : ∀ path, path ∈ merged.authorizedContinuationPaths ↔
    ∃ value ∈ winners values, path ∈ value.authorizedContinuationPaths

abbrev PathsApart (spell : Digest → List Char) (values : List StopMetadata) : Prop :=
  Set.InjOn (pathSha256 spell) {path | ∃ value ∈ values, path ∈ value.authorizedContinuationPaths}

theorem mergeWinners_merges (given : values ≠ []) (distinct : PathsApart spell values) :
    ∃ merged, mergeWinners spell (maximum values) (sortedWinners spell values) = .ok merged ∧
      Merges spell values merged := by
  obtain ⟨widest, member, level⟩ := exists_rank_eq_maximum given
  have winning : widest ∈ sortedWinners spell values :=
    mem_sortedWinners.mpr (mem_winners.mpr ⟨member, level⟩)
  have sorted := pairwise_insertionSort (fun left right : StopMetadata =>
    authoritySha256 spell left.scopeAuthority ≤ authoritySha256 spell right.scopeAuthority)
    (winners values)
  cases order : sortedWinners spell values with
  | nil =>
    rw [order] at winning
    cases winning
  | cons selected others =>
    rw [show (winners values).insertionSort _ = selected :: others from order,
      pairwise_cons] at sorted
    have among : ∀ value, value ∈ selected :: others ↔ value ∈ winners values := by
      intro value
      rw [← order]
      exact mem_sortedWinners
    have table := filed_filed (pathSha256 spell)
      ((selected :: others).flatMap fun value => value.authorizedContinuationPaths)
    refine ⟨_, rfl, rfl, ⟨selected, (among selected).mp mem_cons_self, rfl⟩, ?_,
      table.pairwise_inKeyOrder, ?_⟩
    · intro value winner
      rcases mem_cons.mp ((among value).mpr winner) with rfl | later
      · exact le_rfl
      · exact sorted.1 value later
    · intro path
      have own : Set.InjOn (pathSha256 spell) {path | path ∈ (selected :: others).flatMap
          fun value => value.authorizedContinuationPaths} := by
        refine distinct.mono fun path member => ?_
        obtain ⟨value, inside, source⟩ := mem_flatMap.mp member
        exact ⟨value, (mem_winners.mp ((among value).mp inside)).1, source⟩
      have united := @Filed.mem_inKeyOrder _ _ _ _ _ _ table own path
      rw [mem_flatMap] at united
      simpa only [pathsByHash, among] using united

theorem mergeStopMetadata_merges (given : values ≠ []) (distinct : PathsApart spell values)
    (accepted : ∀ value ∈ values, validateStopMetadata spell value = []) :
    ∃ merged, mergeStopMetadata spell values = .ok merged ∧ Merges spell values merged := by
  have checked : values.forM (checkStopMetadata spell) = .ok () := by
    rw [forM_eq_ok]
    exact fun value member => checkStopMetadata_ok.mpr (accepted value member)
  unfold mergeStopMetadata
  rw [if_neg given, checked]
  exact mergeWinners_merges given distinct

namespace Merges

variable {values : List StopMetadata} {merged : StopMetadata}

variable (merges : Merges spell values merged)

include merges

theorem rank (given : values ≠ []) :
    merged.stopScope.rank = maximum values := by
  obtain ⟨value, _, level⟩ := exists_rank_eq_maximum given
  rw [merges.scope, ← level, stopScopes_rank]

theorem accepted (given : values ≠ [])
    (valid : ∀ value ∈ values, validateStopMetadata spell value = []) :
    validateStopMetadata spell merged = [] := by
  obtain ⟨chosen, winner, same⟩ := merges.authority
  obtain ⟨member, level⟩ := mem_winners.mp winner
  obtain ⟨authority, _, within⟩ := validateStopMetadata_eq_nil.mp (valid chosen member)
  rw [validateStopMetadata_eq_nil, validateContinuationPaths_eq_nil, same, merges.rank given, ← level]
  refine ⟨authority, ⟨?_, merges.ordered⟩, within⟩
  intro entry inside
  obtain ⟨value, contributor, source⟩ := (merges.paths entry).mp inside
  have paths := (validateStopMetadata_eq_nil.mp (valid value (mem_winners.mp contributor).1)).2.1
  exact (validateContinuationPaths_eq_nil.mp paths).1 entry source

theorem isLUB_terms :
    IsLUB (terms spell '' {value | value ∈ winners values}) (terms spell merged) := by
  obtain ⟨chosen, winner, same⟩ := merges.authority
  constructor
  · rintro _ ⟨value, contributor, rfl⟩
    refine ⟨merges.preferred value contributor, ?_⟩
    intro path member
    exact (merges.paths path).mpr ⟨value, contributor, member⟩
  · intro bound above
    have least := above ⟨chosen, winner, rfl⟩
    refine ⟨?_, ?_⟩
    · have first := least.1
      unfold terms at first ⊢
      rw [same]
      exact first
    · intro path member
      obtain ⟨value, contributor, source⟩ := (merges.paths path).mp member
      exact (above ⟨value, contributor, rfl⟩).2 source

/-- The stop that was merged means the least upper bound of what went in. -/
theorem isLUB_meaning (given : values ≠ []) :
    IsLUB (meaning spell '' {value | value ∈ values}) (meaning spell merged) := by
  have winning : {terms' | toLex (maximum values, terms') ∈ meaning spell '' {value | value ∈ values}} =
      terms spell '' {value | value ∈ winners values} := by
    ext terms'
    constructor
    · rintro ⟨value, member, same⟩
      obtain ⟨level, equal⟩ := Prod.mk.inj (toLex.injective same)
      exact ⟨value, mem_winners.mpr ⟨member, level⟩, equal⟩
    · rintro ⟨value, winner, rfl⟩
      obtain ⟨member, level⟩ := mem_winners.mp winner
      exact ⟨value, member, by rw [← level]; rfl⟩
  have extent : meaning spell merged = toLex (maximum values, terms spell merged) := by
    rw [← merges.rank given]
    rfl
  rw [extent]
  refine isLUB_toLex ?_ ?_ ?_
  · obtain ⟨value, member, level⟩ := exists_rank_eq_maximum given
    exact ⟨terms spell value, value, member, by rw [← level]; rfl⟩
  · rintro _ ⟨value, member, rfl⟩
    exact rank_le_maximum member
  · rw [winning]
    exact merges.isLUB_terms

end Merges

/-- What is merged is determined by the stops, if their digests tell the parts apart. -/
theorem Merges.unique {left right : StopMetadata} (first : Merges spell values left)
    (second : Merges spell values right) (authorities : Set.InjOn (authoritySha256 spell)
      {authority | ∃ value ∈ values, authority = value.scopeAuthority}) : left = right := by
  obtain ⟨chosen, winner, own⟩ := first.authority
  obtain ⟨other, otherWinner, otherOwn⟩ := second.authority
  have same : left.scopeAuthority = right.scopeAuthority := by
    refine authorities ⟨chosen, (mem_winners.mp winner).1, own⟩
      ⟨other, (mem_winners.mp otherWinner).1, otherOwn⟩ (le_antisymm ?_ ?_)
    · rw [otherOwn]
      exact first.preferred other otherWinner
    · rw [own]
      exact second.preferred chosen winner
  have paths : left.authorizedContinuationPaths = right.authorizedContinuationPaths :=
    eq_of_ordered first.ordered second.ordered fun path =>
      (first.paths path).trans (second.paths path).symm
  have scope : left.stopScope = right.stopScope := first.scope.trans second.scope.symm
  rw [StopMetadata.mk.injEq]
  exact ⟨scope, paths, same⟩

theorem pairwise_mergePaths
    (apart : Set.InjOn (pathSha256 key) {path | path ∈ left ∨ path ∈ right}) :
    (mergePaths left right).Pairwise (pathSha256 key · < pathSha256 key ·) := by
  have distinct : (mergePaths left right).Nodup :=
    (sortByKey_perm _).nodup_iff.mpr (nodup_dedup _)
  have sorted : (mergePaths left right).Pairwise
      (pathSha256 key · ≤ pathSha256 key ·) := sortedByKey_sortByKey _
  have inside : ∀ path ∈ mergePaths left right, path ∈ left ∨ path ∈ right := by
    intro path member
    exact mem_append.mp (mem_dedup.mp ((sortByKey_perm _).mem_iff.mp member))
  refine (sorted.and distinct).imp_of_mem fun leftMember rightMember both => ?_
  exact lt_of_le_of_ne both.1 fun equal =>
    both.2 (apart (inside _ leftMember) (inside _ rightMember) equal)

theorem mem_mergePaths {path : ContinuationPath} :
    path ∈ mergePaths left right ↔ path ∈ left ∨ path ∈ right := by
  unfold mergePaths
  rw [(sortByKey_perm _).mem_iff, mem_dedup, mem_append]

theorem maximum_pair (first second : StopMetadata) :
    maximum [first, second] = max first.stopScope.rank second.stopScope.rank := by
  simp [maximum]

theorem Merges.of_wider {widest : StopMetadata} (apart : PathsApart key values)
    (alone : ∀ value, value ∈ winners values ↔ value = widest) :
    Merges key values
      { widest with authorizedContinuationPaths :=
          mergePaths widest.authorizedContinuationPaths [] } := by
  have winner := (alone widest).mpr rfl
  obtain ⟨member, level⟩ := mem_winners.mp winner
  refine ⟨?_, ⟨widest, winner, rfl⟩, ?_, pairwise_mergePaths ?_, ?_⟩
  · rw [← level, stopScopes_rank]
  · intro value other
    rw [(alone value).mp other]
  · refine apart.mono ?_
    rintro path (source | absent)
    · exact ⟨widest, member, source⟩
    · cases absent
  · intro path
    rw [mem_mergePaths]
    simp [alone]

/-- The merge of two stops that the pool carries out is the general one. -/
theorem mergeMetadata_merges {first second : StopMetadata}
    (apart : PathsApart key [first, second]) :
    Merges key [first, second] (mergeMetadata first second) := by
  have top := maximum_pair first second
  unfold mergeMetadata
  split_ifs with firstWins secondWins
  · refine Merges.of_wider apart fun value => ?_
    rw [mem_winners, top, max_eq_left firstWins.le]
    constructor
    · rintro ⟨member, level⟩
      rcases mem_pair.mp member with rfl | rfl
      · rfl
      · exact absurd level firstWins.ne
    · rintro rfl
      simp
  · refine Merges.of_wider apart fun value => ?_
    rw [mem_winners, top, max_eq_right secondWins.le]
    constructor
    · rintro ⟨member, level⟩
      rcases mem_pair.mp member with rfl | rfl
      · exact absurd level secondWins.ne
      · rfl
    · rintro rfl
      simp
  · have level : first.stopScope.rank = second.stopScope.rank := by omega
    have all : ∀ value, value ∈ winners [first, second] ↔ value = first ∨ value = second := by
      intro value
      rw [mem_winners, top, ← level, max_self, mem_pair]
      refine ⟨And.left, fun either => ⟨either, ?_⟩⟩
      rcases either with rfl | rfl
      · rfl
      · exact level.symm
    refine ⟨?_, ?_, ?_, pairwise_mergePaths ?_, ?_⟩
    · rw [top, ← level, max_self, stopScopes_rank]
    · rcases selectAuthority_eq first second with chosen | chosen
      · exact ⟨first, (all first).mpr (.inl rfl), chosen⟩
      · exact ⟨second, (all second).mpr (.inr rfl), chosen⟩
    · intro value winner
      unfold selectAuthority
      split
      · rename_i before
        rcases (all value).mp winner with rfl | rfl
        · exact le_rfl
        · exact before
      · rename_i after
        rcases (all value).mp winner with rfl | rfl
        · exact (not_le.mp after).le
        · exact le_rfl
    · refine apart.mono ?_
      rintro path (source | source)
      · exact ⟨first, by simp, source⟩
      · exact ⟨second, by simp, source⟩
    · intro path
      rw [mem_mergePaths]
      simp [all]

/--
Merging two accepted stops as the pool does is merging them, when no two of their
parts have digests that are written alike.
-/
theorem mergeStopMetadata_pair {first second : StopMetadata}
    (accepted : ∀ value ∈ [first, second], validateStopMetadata key value = [])
    (apart : PathsApart key [first, second])
    (authorities : Set.InjOn (authoritySha256 key)
      {authority | ∃ value ∈ [first, second], authority = value.scopeAuthority}) :
    mergeStopMetadata key [first, second] = .ok (mergeMetadata first second) := by
  obtain ⟨merged, done, merges⟩ :=
    mergeStopMetadata_merges (cons_ne_nil _ _) apart accepted
  rw [done, merges.unique (mergeMetadata_merges apart) authorities]

theorem mergeStopMetadata_joining (distinct : Function.Injective spell) :
    Joining (fun value => validateStopMetadata spell value = []) (meaning spell)
      (mergeStopMetadata spell) where
  merges := by
    intro values given accepted
    obtain ⟨merged, done, merges⟩ := mergeStopMetadata_merges given
      (pathSha256_injective distinct).injOn accepted
    exact ⟨merged, done, merges.accepted given accepted, merges.isLUB_meaning given⟩
  faithful := fun _ _ => meaning_faithful distinct

abbrev Accepted (spell : Digest → List Char) (values : List StopMetadata) : Prop :=
  ∀ value ∈ values, validateStopMetadata spell value = []

/-- A merged stop reaches as far as the widest stop, and no further than it may. -/
structure Bounded (spell : Digest → List Char) (values : List StopMetadata)
    (merged : StopMetadata) : Prop where
  accepted : validateStopMetadata spell merged = []
  widest : IsGreatest {rank | ∃ value ∈ values, value.stopScope.rank = rank} merged.stopScope.rank
  authorized : merged.stopScope.rank ≤ merged.scopeAuthority.authorizedScope.rank
  carried : ∃ value ∈ values, merged.scopeAuthority = value.scopeAuthority
  contributed : ∀ path ∈ merged.authorizedContinuationPaths,
    ∃ value ∈ winners values, path ∈ value.authorizedContinuationPaths
  contributors : ∀ value ∈ winners values,
    value.authorizedContinuationPaths ⊆ merged.authorizedContinuationPaths ∧
      merged.stopScope.rank ≤ value.scopeAuthority.authorizedScope.rank

theorem Merges.bounded {merged : StopMetadata} (merges : Merges spell values merged)
    (given : values ≠ []) (valid : Accepted spell values) :
    Bounded spell values merged where
  accepted := merges.accepted given valid
  widest := by
    rw [merges.rank given]
    refine ⟨exists_rank_eq_maximum given, ?_⟩
    rintro _ ⟨value, member, rfl⟩
    exact rank_le_maximum member
  authorized := (validateStopMetadata_eq_nil.mp (merges.accepted given valid)).2.2
  carried := by
    obtain ⟨value, winner, same⟩ := merges.authority
    exact ⟨value, (mem_winners.mp winner).1, same⟩
  contributed := fun path => (merges.paths path).mp
  contributors := by
    intro value winner
    obtain ⟨member, level⟩ := mem_winners.mp winner
    rw [merges.rank given, ← level]
    exact ⟨fun path source => (merges.paths path).mpr ⟨value, winner, source⟩,
      (validateStopMetadata_eq_nil.mp (valid value member)).2.2⟩

/--
For digests that are spelled apart, merging accepted stops is a bounded join:
neither their order nor their grouping nor their repetition matters.
-/
theorem stops_join_within_authority (distinct : Function.Injective spell) :
    (∀ values, values ≠ [] → Accepted spell values →
      ∃ merged, mergeStopMetadata spell values = .ok merged ∧ Bounded spell values merged) ∧
    (∀ values others, Accepted spell values → values.Perm others →
      mergeStopMetadata spell values = mergeStopMetadata spell others) ∧
    (∀ groups : List (List StopMetadata), (∀ group ∈ groups, group ≠ [] ∧ Accepted spell group) →
      (groups.mapM (mergeStopMetadata spell) >>= mergeStopMetadata spell) =
        mergeStopMetadata spell groups.flatten) ∧
    (∀ first second third, Accepted spell [first, second, third] →
      (mergeStopMetadata spell [first, second] >>= fun join =>
          mergeStopMetadata spell [join, third]) =
        (mergeStopMetadata spell [second, third] >>= fun join =>
          mergeStopMetadata spell [first, join])) ∧
    (∀ value copies, validateStopMetadata spell value = [] →
      mergeStopMetadata spell (List.replicate (copies + 1) value) = .ok value) := by
  have joining := mergeStopMetadata_joining distinct
  refine ⟨?_, ?_, ?_, ?_, ?_⟩
  · intro values given valid
    obtain ⟨merged, done, merges⟩ := mergeStopMetadata_merges given
      (pathSha256_injective distinct).injOn valid
    exact ⟨merged, done, merges.bounded given valid⟩
  · intro values others valid reordered
    by_cases given : values = []
    · subst given
      rw [nil_perm.mp reordered]
    · exact joining.merge_perm given valid reordered
  · intro groups valid
    by_cases some : groups = []
    · subst some
      rfl
    · exact joining.merge_flatten some (fun group member => (valid group member).1)
        fun group member => (valid group member).2
  · intro first second third valid
    exact joining.merge_assoc (valid first (by simp)) (valid second (by simp))
      (valid third (by simp))
  · intro value copies valid
    exact joining.merge_copies (by simp) valid fun other => eq_of_mem_replicate

def policyStop (stopScope : Scope) : StopMetadata :=
  { stopScope := stopScope
    authorizedContinuationPaths := [⟨.operatorAdjudication, none, []⟩]
    scopeAuthority := policyProvenance ⟨"native-pool", by decide⟩ stopScope none }

theorem policyStop_accepted {stopScope : Scope} (capped : stopScope ≠ .publication) :
    validateStopMetadata spell (policyStop stopScope) = [] := by
  have ordered : validateContinuationPaths spell
      (policyStop stopScope).authorizedContinuationPaths = [] := by
    rw [validateContinuationPaths_eq_nil]
    refine ⟨?_, pairwise_singleton _ _⟩
    rintro entry member
    rw [mem_singleton.mp member]
    exact List.Pairwise.nil
  exact validateStopMetadata_eq_nil.mpr ⟨validate_policyProvenance _ capped none, ordered, le_rfl⟩

theorem policy_stops_join :
    ∃ merged, mergeStopMetadata spelling [policyStop .child, policyStop .cohort] =
        .ok merged ∧
      Bounded spelling [policyStop .child, policyStop .cohort] merged := by
  refine (stops_join_within_authority Digest.spelling_injective).1 _ (cons_ne_nil _ _) ?_
  intro value member
  rcases mem_pair.mp member with rfl | rfl
  · exact policyStop_accepted (by decide)
  · exact policyStop_accepted (by decide)

theorem policy_stops_pair : mergeStopMetadata key [policyStop .child, policyStop .cohort] =
    .ok (mergeMetadata (policyStop .child) (policyStop .cohort)) := by
  refine mergeStopMetadata_pair ?_ ?_ ?_
  · intro value member
    rcases mem_pair.mp member with rfl | rfl
    all_goals
      exact policyStop_accepted (by decide)
  · rintro first ⟨value, member, found⟩ second ⟨other, otherMember, otherFound⟩ _
    rcases mem_pair.mp member with rfl | rfl
    all_goals
      rcases mem_pair.mp otherMember with rfl | rfl
      all_goals
        exact (mem_singleton.mp found).trans (mem_singleton.mp otherFound).symm
  · rintro first ⟨value, member, rfl⟩ second ⟨other, otherMember, rfl⟩ same
    rcases mem_pair.mp member with rfl | rfl
    all_goals
      rcases mem_pair.mp otherMember with rfl | rfl
      all_goals
        first | rfl | exact absurd same (by decide +kernel)

end WorkOrchestration.Native.StopMerging
