import WorkOrchestration.Native.Authority
import WorkOrchestration.Native.Documents

/-!
# Protected changes

Which changes of an artifact an operator has to approve.  Two artifacts are compared
leaf by leaf; every changed path falls into a category, and the artifacts are bound
to one identity before their digests are taken.
-/

namespace WorkOrchestration.Native.ProtectedChanges

open Lib.Text Artifacts
open Artifacts.Json (isOneOf)
open Authority

/-- `AuthorityProvenanceError`, a `ValueError`. -/
def authorityError (message : String) : PyError := ⟨.value, "AuthorityProvenanceError", message⟩

/--
`_ordinary_json`: the first thing in a value that JSON does not have.  The index is that
of the next array item, and the keys are those of the fields that have been seen.
-/
def ordinaryFrom (label : String) (index : Nat) (seen : List String) : Json → Except PyError Unit
  | .ratio _ 0 => .error (authorityError (label ++ "-non-finite-number"))
  | .item head tail => do
      ordinaryFrom (label ++ "[" ++ toString index ++ "]") 0 [] head
      ordinaryFrom label (index + 1) [] tail
  | .field key value rest => do
      if seen.contains key then .error (authorityError (label ++ "-object-key-invalid"))
      ordinaryFrom (label ++ "." ++ key) 0 [] value
      ordinaryFrom label 0 (key :: seen) rest
  | .bytes _ => .error (authorityError (label ++ "-json-type-invalid"))
  | .foreign _ => .error (authorityError (label ++ "-json-type-invalid"))
  | _ => .ok ()

def ordinaryJson (label : String) (value : Json) : Except PyError Unit := ordinaryFrom label 0 [] value

/-- `canonical_json_object`: the value itself, once it is known to be an ordinary object. -/
def canonicalJsonObject (label : String) (value : Json) : Except PyError Json := do
  ordinaryJson label value
  if value.isObject then return value
  .error (authorityError (label ++ "-must-be-object"))

/-- What `json.dumps` raises on an integer with too many digits. -/
def digitsError : PyError :=
  valueError "Exceeds the limit (4300 digits) for integer string conversion"

variable (value : Json)

/-- `json.dumps` of an ordinary value. -/
def dumpsOrdinary : Except PyError Json :=
  if value.encodable then .ok value.canonical else .error digitsError

def canonicalAuthoritySha256 : Except PyError Json := do
  ordinaryJson "canonical-json" value
  return .sha256 (← dumpsOrdinary value)

def isSha256 : Bool := (Digest.ofJson? value).isSome

/-- `_nonempty`: a text that is not blank, as every digest is. -/
def nonemptyText : Json → Bool
  | .str text => decide (Nonempty text)
  | .sha256 _ => true
  | _ => false

/-- `type(value)`. -/
def typeName : Json → String
  | .null => "NoneType"
  | .bool _ => "bool"
  | .int _ => "int"
  | .ratio .. => "float"
  | .str _ | .sha256 _ => "str"
  | .arrEnd | .item .. => "list"
  | .objEnd | .field .. => "dict"
  | .bytes _ => "bytes"
  | .foreign name => name

def jsonPointerPart (value : String) : String :=
  String.ofList (value.toList.flatMap fun character =>
    if character = '~' then ['~', '0'] else if character = '/' then ['~', '1'] else [character])

/-- `path or "/"`. -/
def pathOrRoot (path : String) : String := if path = "" then "/" else path

def itemCount : Nat := (value.elements?.getD []).length

/-- The paths of one object in the order of its sorted keys, those of an array as they are. -/
def assemble (path : String) (before after : Json) (groups : List (String × List String)) :
    List String :=
  if before.isObject then
    let added := (after.keys.filter fun key => !before.keys.contains key).map fun key =>
      (key, [path ++ "/" ++ jsonPointerPart key])
    ((groups ++ added).mergeSort fun left right => left.1 ≤ right.1).flatMap Prod.snd
  else groups.flatMap Prod.snd

/--
`_json_changed_pointers` for two values of one type, grouped by the keys of an object
or the items of an array.
-/
def changes (path : String) (index : Nat) : Json → Json → Except PyError (List (String × List String))
  | .field key value rest, after => do
      let child := path ++ "/" ++ jsonPointerPart key
      let here ← match after.get? key with
        | none => .ok [child]
        | some other =>
          if typeName value ≠ typeName other then .ok [child]
          else (changes child 0 value other).map (assemble child value other)
      return (key, here) :: (← changes path 0 rest after)
  | .item head tail, after => do
      let child := path ++ "/" ++ toString index
      match after with
      | .item other others =>
        let here ← if typeName head ≠ typeName other then .ok [child]
          else (changes child 0 head other).map (assemble child head other)
        return ("", here) :: (← changes path (index + 1) tail others)
      | _ => return ("", [child]) :: (← changes path (index + 1) tail .arrEnd)
  | .arrEnd, after =>
    .ok ((List.range (itemCount after)).map fun later => ("", [path ++ "/" ++ toString (index + later)]))
  | .objEnd, _ => .ok []
  | before, after => do
      let beforeText ← dumpsOrdinary before
      let afterText ← dumpsOrdinary after
      return if beforeText = afterText then [] else [("", [pathOrRoot path])]

def jsonChangedPointers (before after : Json) : Except PyError (List String) :=
  if typeName before ≠ typeName after then .ok ["/"]
  else (changes "" 0 before after).map (assemble "" before after)

/-- `OPERATOR_REQUIRED_CHANGE_TYPES`. -/
inductive ChangeType where
  | aggregateBudgetIncrease
  | modelSubstitution
  | objectiveChange
  | securityOrAuthorityChange
  | taintedMutationAcceptance
  | contradictoryValidation
  deriving DecidableEq

namespace ChangeType

def text : ChangeType → String
  | aggregateBudgetIncrease => "aggregate-budget-increase"
  | modelSubstitution => "model-substitution"
  | objectiveChange => "objective-change"
  | securityOrAuthorityChange => "security-or-authority-change"
  | taintedMutationAcceptance => "tainted-mutation-acceptance"
  | contradictoryValidation => "contradictory-validation"

def all : List ChangeType :=
  [aggregateBudgetIncrease, modelSubstitution, objectiveChange, securityOrAuthorityChange,
    taintedMutationAcceptance, contradictoryValidation]

/-- `TERMINAL_PROTECTED_CHANGE_TYPES`. -/
def terminal : ChangeType → Bool
  | taintedMutationAcceptance => true
  | contradictoryValidation => true
  | _ => false

theorem mem_all (changeType : ChangeType) : changeType ∈ all := by
  cases changeType <;> decide

theorem text_injective {left right : ChangeType} (same : left.text = right.text) : left = right := by
  cases left <;> cases right <;> first | rfl | exact absurd same (by decide)

end ChangeType

/-- What becomes of a changed path. -/
inductive Category where
  | uncategorized
  | unprotected
  | required (changeType : ChangeType)
  deriving DecidableEq

/-- `_PROTECTED_CHANGE_PROFILES`. -/
inductive Profile where
  | generic
  | replanningRefinement
  | workEstimateRefinement
  | readySetAuthorityChange
  | proportionalityOverride
  deriving DecidableEq

def workEstimateUnprotectedRoots : List String :=
  ["parent_estimate_sha256", "refinement_authority", "expected_artifacts", "expert_profiles",
    "frozen_decisions", "unresolved_decisions", "subsystems", "write_paths", "context_manifest",
    "acceptance_checks", "task_profile", "estimates", "scores", "semantic_estimate", "pm_estimate",
    "domain_expert_estimate", "semantic_scores", "score_total", "route", "v1_route",
    "semantic_route", "operative_route", "variance_metrics", "task_class"]

def Profile.unprotectedRoots : Profile → List String
  | workEstimateRefinement => workEstimateUnprotectedRoots
  | _ => []

def aggregateBudgetIntegerFields : List String :=
  ["dispatch_soft_cap", "max_pm_replans", "max_architect_cycles", "max_compactions",
    "tool_calls_hard", "runtime_seconds_hard"]

def aggregateAuthorityFields : List String := ["dispatch_soft_cap_action", "continuation_authority"]

/-- `VERIFIER_OWNED_CIRCULAR_AUDIT_FIELDS`. -/
def circularAuditFields : List String :=
  ["operator_approval_receipts", "protected_change_authorizations"]

/-- `text.replace(first + second, result)`. -/
def replacePair (first second result : Char) : List Char → List Char
  | left :: right :: rest =>
    if left = first ∧ right = second then result :: replacePair first second result rest
    else left :: replacePair first second result (right :: rest)
  | rest => rest

/-- The name that a part of a pointer stands for. -/
def pointerName (part : List Char) : String :=
  String.ofList (replacePair '~' '0' '~' (replacePair '~' '1' '/' part))

def rootFromPointer (pointer : String) : Option String :=
  match pointer.toList with
  | '/' :: rest => if rest = [] then none else some (pointerName (rest.takeWhile (· ≠ '/')))
  | _ => none

/-- `_contradictions`, `_MISSING` being no value. -/
def contradictions (value : Json) : Option Json :=
  match value.get? "fit_evidence" with
  | some evidence => if evidence.isObject then evidence.get? "contradictions" else none
  | none => none

/-- Whether `_json_changed_pointers` finds a change between two values that may be missing. -/
def optionalChange : Option Json → Option Json → Except PyError Bool
  | none, none => .ok false
  | some before, some after => (jsonChangedPointers before after).map (!·.isEmpty)
  | _, _ => .ok true

def protectedBindingPaths : List String :=
  let bindings := ((value.get? "fit_evidence").bind (·.get? "protected_path_bindings")).getD .null
  bindings.keys.filter fun path =>
    match path, (bindings.value path).elements? with
    | "", _ => false
    | _, some (group :: groups) => (group :: groups).all fun group =>
      typeName group == "str" && group.truthy
    | _, _ => false

def literalPatchIsProtected : Bool :=
  match ((value.get? "task_profile").bind (·.get? "architect_literal_patch")).bind (·.get? "path") with
  | some (.str path) => (protectedBindingPaths value).contains path
  | _ => false

def categorizeAllowance (pointer : String) (before after : Json) : Category :=
  match before.get? "aggregate_allowance", after.get? "aggregate_allowance" with
  | some old, some new =>
    if !old.isObject || !new.isObject then .uncategorized
    else
      match pointer.toList.splitOn '/' with
      | [_, _, part] =>
        let field := pointerName part
        if aggregateBudgetIntegerFields.contains field then
          match old.get? field, new.get? field with
          | some (.int oldValue), some (.int newValue) =>
            if oldValue < newValue then .required .aggregateBudgetIncrease
            else if newValue < oldValue then .unprotected
            else .uncategorized
          | _, _ => .uncategorized
        else if aggregateAuthorityFields.contains field then
          .required .securityOrAuthorityChange
        else .uncategorized
      | _ => .uncategorized
  | _, _ => .uncategorized

def securityRoots : List String :=
  ["security_context", "authority_context", "operator_authority", "model_authority",
    "self_report_authority", "scope_authority", "authority_route", "protected_surface_matches",
    "route_conflict"]

def contradictionRoots : List String :=
  ["contradictory_validation", "validation_contradiction", "validation_disposition"]

/-- `marker in reasons`, where a value that is no list counts as one without a decision. -/
def contradictionMarked : Option Bool :=
  match value.get? "hard_gate_reasons" with
  | none => some false
  | some reasons => reasons.elements?.map (·.contains (.str "task-profile-contradiction"))

/-- `text.startswith(front)`. -/
def startsWith (text front : String) : Bool := front.toList.isPrefixOf text.toList

def categorizeChangedPath (pointer : String) (before after : Json) (profile : Profile) :
    Except PyError Category := do
  let root := (rootFromPointer pointer).getD ""
  let rooted := (rootFromPointer pointer).isSome
  let fallback := if rooted && profile.unprotectedRoots.contains root then Category.unprotected
    else .uncategorized
  if profile = .readySetAuthorityChange ∨ profile = .proportionalityOverride then
    return .required .securityOrAuthorityChange
  if !rooted then return .uncategorized
  if root = "aggregate_allowance" then return categorizeAllowance pointer before after
  if root = "requested_model" then return .required .modelSubstitution
  if root = "objective" ∨ root = "primary_outcome" then return .required .objectiveChange
  if securityRoots.contains root then return .required .securityOrAuthorityChange
  if root = "mutation" ∧
      (pointer = "/mutation/tainted" ∨ startsWith pointer "/mutation/tainted/" = true) then
    return .required .taintedMutationAcceptance
  if root = "tainted_mutation_accepted" then return .required .taintedMutationAcceptance
  if contradictionRoots.contains root then return .required .contradictoryValidation
  if root = "fit_evidence" then
    if startsWith pointer "/fit_evidence/protected_path_bindings" then
      return .required .securityOrAuthorityChange
    if ← optionalChange (contradictions before) (contradictions after) then
      return .required .contradictoryValidation
    return if profile = .workEstimateRefinement then .unprotected else fallback
  if root = "hard_gate_reasons" then
    match contradictionMarked before, contradictionMarked after with
    | some was, some is => if was ≠ is then return .required .contradictoryValidation
    | _, _ => pure ()
    return if profile = .workEstimateRefinement then .unprotected else fallback
  if root = "fit_mode" then return .required .securityOrAuthorityChange
  if profile = .workEstimateRefinement ∧
      startsWith pointer "/task_profile/architect_literal_patch/" = true ∧
      (literalPatchIsProtected before || literalPatchIsProtected after) = true then
    return .required .securityOrAuthorityChange
  return fallback

def stripCircularAuditFields (source : Json) : Json :=
  circularAuditFields.foldl (fun document key => document.erase key) source

/-- `protected_change_identity`, its texts checked. -/
structure Identity where
  artifactType : String
  artifactId : String
  workUnitId : Option String
  beadId : Option String
  packetId : Option String
  deriving DecidableEq

def Identity.json (identity : Identity) : Json :=
  .obj [("artifact_type", .str identity.artifactType), ("artifact_id", .str identity.artifactId),
    ("work_unit_id", .optional .str identity.workUnitId),
    ("bead_id", .optional .str identity.beadId), ("packet_id", .optional .str identity.packetId)]

def protectedChangeIdentity (identity : Identity) : Except PyError Identity := do
  for entry in [("artifact_type", identity.artifactType), ("artifact_id", identity.artifactId)] do
    if ¬ Nonempty entry.2 then
      .error (authorityError ("protected-change-" ++ entry.1 ++ "-invalid"))
  for entry in [("work_unit_id", identity.workUnitId), ("bead_id", identity.beadId),
      ("packet_id", identity.packetId)] do
    match entry.2 with
    | some value =>
      if ¬ Nonempty value then
        .error (authorityError ("protected-change-" ++ entry.1 ++ "-invalid"))
    | none => pure ()
  return identity

/-- The artifact with the identity it is bound to. -/
def subject (identity : Option Identity) (artifact : Json) : Json :=
  match identity with
  | none => artifact
  | some identity => .obj [("subject_type", .str "cwo-protected-change-subject"), ("version", .int 1),
      ("identity", identity.json), ("artifact", artifact)]

/-- `ProtectedChangeAssessment`. -/
structure Assessment where
  beforeSubject : Json
  afterSubject : Json
  identity : Option Identity
  changedJsonPointers : List String
  requiredChangeTypes : List ChangeType
  uncategorizedPaths : List String

def categories (before after : Json) (profile : Profile) :
    List String → Except PyError (List (String × Category))
  | [] => .ok []
  | pointer :: rest => do
      let category ← categorizeChangedPath pointer before after profile
      return (pointer, category) :: (← categories before after profile rest)

/-- The required change types in the order in which the policy lists them. -/
def requiredTypes (found : List (String × Category)) : List ChangeType :=
  ChangeType.all.filter fun changeType => found.any fun entry => entry.2 = .required changeType

/-- `_build_protected_change_assessment` under the policy's own list of change types. -/
def buildProtectedChangeAssessment (before after : Json) (profile : Profile)
    (identity : Option Identity) : Except PyError Assessment := do
  let canonicalBefore := stripCircularAuditFields (← canonicalJsonObject "protected-change-before" before)
  let canonicalAfter := stripCircularAuditFields (← canonicalJsonObject "protected-change-after" after)
  let changed ← jsonChangedPointers canonicalBefore canonicalAfter
  let found ← categories canonicalBefore canonicalAfter profile changed
  let uncategorized := (found.filter fun entry => entry.2 = .uncategorized).map Prod.fst
  let bound ← identity.mapM protectedChangeIdentity
  let beforeSubject ← dumpsOrdinary (subject bound canonicalBefore)
  let afterSubject ← dumpsOrdinary (subject bound canonicalAfter)
  if !uncategorized.isEmpty then
    .error (authorityError ("protected-change-uncategorized:" ++ joinWith "," uncategorized))
  return ⟨beforeSubject, afterSubject, bound, changed, requiredTypes found, uncategorized⟩

def assessOperatorRequiredChanges (before after : Json) (profile : Profile) (identity : Identity) :
    Except PyError Assessment :=
  buildProtectedChangeAssessment before after profile (some identity)

end WorkOrchestration.Native.ProtectedChanges
