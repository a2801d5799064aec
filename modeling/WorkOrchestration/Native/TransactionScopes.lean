import WorkOrchestration.Native.TransactionPlanFacts

/-!
# Write scopes of transaction plans

A plan keeps the write paths of its children apart as texts.  The lease registry
and the pool contract keep them apart as directories, so what a plan misses is
one path below another and one path in two spellings.
-/

namespace WorkOrchestration.Native.TransactionScopes

open List Lib.Text Artifacts
open OperatorApprovals (Parsed)
open PoolContracts TransactionPlans TransactionPlanFacts

/-- The lower path lies strictly below the upper one. -/
def Below (upper lower : String) : Prop :=
  ∃ names, names ≠ [] ∧ posixParts lower = posixParts upper ++ names

/-- Two spellings of one path. -/
def Respelled (left right : String) : Prop := left ≠ right ∧ posixParts left = posixParts right

/-- No write path of a child is a write path of another or a directory above or below one. -/
def DisjointScopes (children : List Json) : Prop :=
  children.Pairwise fun left right => ¬ PathsOverlap (writesOf left) (writesOf right)

/-- No child writes below a write path of another, or to one in another spelling. -/
def PlainScopes (children : List Json) : Prop :=
  children.Pairwise fun left right => ∀ path ∈ writesOf left, ∀ other ∈ writesOf right,
    ¬ Below path other ∧ ¬ Below other path ∧ ¬ Respelled path other

theorem covers_iff {left right : String} :
    Covers left right ↔ left = right ∨ Respelled left right ∨ Below left right := by
  constructor
  · rintro ⟨names, parts⟩
    by_cases same : left = right
    · exact .inl same
    · cases names with
      | nil => exact .inr (.inl ⟨same, by rw [← parts, append_nil]⟩)
      | cons name rest => exact .inr (.inr ⟨name :: rest, cons_ne_nil _ _, parts.symm⟩)
  · rintro (rfl | ⟨_, parts⟩ | ⟨names, _, parts⟩)
    · exact prefix_rfl
    · exact ⟨[], by rw [append_nil, parts]⟩
    · exact ⟨names, parts.symm⟩

theorem Respelled.symm {left right : String} (respelled : Respelled left right) :
    Respelled right left :=
  ⟨respelled.1.symm, respelled.2.symm⟩

/-- Children that share no path as a text overlap exactly by nesting or by spelling. -/
theorem pathsOverlap_iff {first second : List String} (apart : ∀ path ∈ first, path ∉ second) :
    ¬ PathsOverlap first second ↔ ∀ path ∈ first, ∀ other ∈ second,
      ¬ Below path other ∧ ¬ Below other path ∧ ¬ Respelled path other := by
  constructor
  · intro disjoint path inFirst other inSecond
    refine ⟨fun below => disjoint ?_, fun below => disjoint ?_, fun respelled => disjoint ?_⟩
    · exact ⟨path, inFirst, other, inSecond, .inl (covers_iff.mpr (.inr (.inr below)))⟩
    · exact ⟨path, inFirst, other, inSecond, .inr (covers_iff.mpr (.inr (.inr below)))⟩
    · exact ⟨path, inFirst, other, inSecond, .inl (covers_iff.mpr (.inr (.inl respelled)))⟩
  · rintro plain ⟨path, inFirst, other, inSecond, covers⟩
    obtain ⟨notBelow, notAbove, notRespelled⟩ := plain path inFirst other inSecond
    have different : path ≠ other := fun same => apart path inFirst (same ▸ inSecond)
    rcases covers with covers | covers
    · rcases covers_iff.mp covers with same | respelled | below
      · exact different same
      · exact notRespelled respelled
      · exact notBelow below
    · rcases covers_iff.mp covers with same | respelled | below
      · exact different same.symm
      · exact notRespelled respelled.symm
      · exact notAbove below

/--
The write scopes of an accepted plan are disjoint, in the sense of the lease
registry and of pool contracts, exactly when no child writes below a write path
of another child or to one in another spelling.
-/
theorem scopes_disjoint_iff {fromIsoformat : List Char → Parsed} {plan : Json}
    (valid : validateTransactionPlan fromIsoformat plan = .ok []) :
    DisjointScopes (childrenOf plan) ↔ PlainScopes (childrenOf plan) := by
  obtain ⟨_, apart⟩ := checkChildren_ok (accepted_of_valid valid).each
  constructor
  · intro disjoint
    exact (apart.and disjoint).imp fun both => (pathsOverlap_iff both.1).mp both.2
  · intro plain
    exact (apart.and plain).imp fun both => (pathsOverlap_iff both.1).mpr both.2

/-- `1970-01-01T00:00:00Z` and nothing else. -/
def sampleTime (text : List Char) : Parsed :=
  if text = "1970-01-01T00:00:00+00:00".toList then .instant 0 else .invalid

def sampleHash : Json := .sha256 (.str "document")

def samplePlanChild (name : String) (paths : List String) : Json :=
  .obj [("child_id", .str name), ("bead_id", .str (name ++ "-bead")),
      ("segment_id", .str (name ++ "-segment")), ("work_unit_id", .str (name ++ "-unit")),
      ("requested_model", .str "model"), ("bead_projection_sha256", sampleHash),
      ("worktree_identity_sha256", sampleHash), ("work_plan_sha256", sampleHash),
      ("packet_blueprint_sha256", sampleHash), ("write_paths", .strings paths)]

def samplePlanBody (first second : List String) : Json :=
  .obj [("plan_type", .str "cwo-native-pool-transaction-plan"), ("version", .int 1),
      ("schema", .str "schemas/native-pool-transaction-plan.schema.json"),
      ("transaction_id", .str "transaction"), ("phase_id", .str "phase"),
      ("candidate_manifest_sha256", sampleHash), ("controller_overlay_sha256", sampleHash),
      ("authority_sha256", sampleHash), ("call_graph_sha256", callGraphSha256),
      ("runtime_adapter_path", .str "adapter.py"), ("runtime_adapter_sha256", sampleHash),
      ("created_at", .str "1970-01-01T00:00:00Z"), ("selected_model", .str "model"),
      ("prelude_session_count", .int 0), ("required_session_count", .int 2),
      ("budget", .obj
        [("cumulative_before", .int 0), ("cumulative_ceiling", .int 2), ("reserved_sessions", .int 2),
          ("infrastructure_failures_before", .int 0), ("maximum_infrastructure_failures", .int 3)]),
      ("startup_bounds_ms", .obj
        [("pre_allocation_ms", .int 0), ("per_allocation_ms", .int 0), ("runtime_binding_ms", .int 0),
          ("admission_ms", .int 0), ("dispatch_and_first_observation_ms", .int 0),
          ("safety_margin_ms", .int 1)]),
      ("children", .arr [samplePlanChild "a" first, samplePlanChild "b" second])]

def samplePlan (first second : List String) : Json :=
  (samplePlanBody first second).set "plan_sha256" (.sha256 (samplePlanBody first second).canonical)

/-- One child owns a directory and the other a file in it, and the plan is accepted. -/
theorem nested_scopes_accepted :
    validateTransactionPlan sampleTime (samplePlan ["src"] ["src/main.py"]) = .ok [] ∧
      ¬ DisjointScopes (childrenOf (samplePlan ["src"] ["src/main.py"])) := by
  refine ⟨by decide +kernel, fun disjoint => ?_⟩
  have children : childrenOf (samplePlan ["src"] ["src/main.py"]) =
      [samplePlanChild "a" ["src"], samplePlanChild "b" ["src/main.py"]] := by decide +kernel
  rw [DisjointScopes, children] at disjoint
  have apart := rel_of_pairwise_cons disjoint mem_cons_self
  exact apart (by decide +kernel)

/-- Two files in one directory are disjoint scopes. -/
theorem scopes_disjoint_iff_flat : PlainScopes (childrenOf (samplePlan ["src/a.py"] ["src/b.py"])) := by
  have valid : validateTransactionPlan sampleTime (samplePlan ["src/a.py"] ["src/b.py"]) = .ok [] := by
    decide +kernel
  have disjoint : DisjointScopes (childrenOf (samplePlan ["src/a.py"] ["src/b.py"])) := by
    unfold DisjointScopes
    decide +kernel
  exact (scopes_disjoint_iff valid).mp disjoint

end WorkOrchestration.Native.TransactionScopes
