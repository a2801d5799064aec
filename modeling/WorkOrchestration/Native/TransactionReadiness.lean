import Mathlib.Data.Prod.Lex
import WorkOrchestration.Lib.Binary64
import WorkOrchestration.Lib.Calendar
import WorkOrchestration.Lib.Sorting
import WorkOrchestration.Native.TransactionPlans

/-!
# Transaction readiness

The readiness record of a plan binds its Bead projections, packets and release dependencies at one time.
Times are stored with milliseconds.
-/

namespace WorkOrchestration.Native.TransactionReadiness

open Lib.Binary64 Lib.Calendar Lib.Sorting Lib.Text Artifacts
open OperatorApprovals (Parsed)
open TransactionPlans

/-- An aware `datetime` in UTC. -/
structure Moment where
  micros : Nat
  inRange : micros < limit

/-- What the library makes of a text that is not in the form of `isoformat`. -/
inductive IsoReading where
  | invalid
  | naive
  | outOfRange
  | instant (moment : Moment)

/-- `datetime.fromisoformat`, and `astimezone` of that. -/
def fromIsoformat (others : List Char → IsoReading) (text : List Char) : Parsed :=
  match readIso text with
  | some instant => .instant instant
  | none =>
    match others text with
    | .invalid => .invalid
    | .naive => .naive
    | .outOfRange => .outOfRange
    | .instant moment => .instant moment.micros

/-- `_iso`: `isoformat` with its `+00:00` written `Z`. -/
def iso (instant : Int) : Json := .str (String.ofList (isoStem instant.toNat ++ ['Z']))

def overflowError : PyError := ⟨.other, "OverflowError", "date value out of range"⟩

/-- `value + timedelta(milliseconds=milliseconds)`. -/
def addMillis (instant milliseconds : Int) : Except PyError Int :=
  let due := instant + milliseconds * 1000
  if due < limit then .ok due else .error overflowError

/-- `int(value)` of a float. -/
def truncate (value : ℚ) : Int := if 0 ≤ value then ⌊value⌋ else ⌈value⌉

/-- `max(0, int((earliest - created).total_seconds() * 1000))`. -/
def availableLifetimeMs (earliest created : Int) : Int :=
  max 0 (truncate (binary64 (binary64 ((earliest - created : Int) / 1000000) * 1000)))

structure Surroundings where
  others : List Char → IsoReading
  /-- `hexdigest` of a digest -/
  spell : Digest → String
  /-- `execution_authoritative_bead_projection` -/
  projection : Json → Except PyError Json

variable (surroundings : Surroundings)

/-- `_parse_time`. -/
def readTime (value : Json) (label : String) : Except PyError Int :=
  parseTime (fromIsoformat surroundings.others) value label

def textOf : Json → String
  | .str text => text
  | _ => ""

variable (record plan : Json)

/-- `{str(child["child_id"]) for child in plan["children"]}`. -/
def childIdsOf : List String := (childrenOf plan).map fun child => textOf (child.value "child_id")

def dependencyFields : List String := ["child_id", "kind", "evidence_sha256", "issued_at", "expires_at"]

/-- The child and the kind of a dependency, as they are compared. -/
def identityOf (raw : Json) : String × String :=
  (strip (textOf (raw.value "child_id")), strip (textOf (raw.value "kind")))

/-- The fields of a dependency that say what it is about. -/
def readIdentity (childIds : List String) (index : Nat) (raw : Json) :
    Except PyError (String × String) := do
  strict dependencyFields s!"release-dependency[{index}]" raw
  let childId ← nonempty (raw.value "child_id") "release-dependency.child_id"
  let kind ← nonempty (raw.value "kind") "release-dependency.kind"
  require (childIds.contains childId) "release-dependency-child-not-in-plan"
  return (childId, kind)

/-- The dependency as it is stored, if it is live. -/
def readLifetime (now : Int) (raw : Json) : Except PyError Json := do
  requireHash (raw.value "evidence_sha256") "release-dependency.evidence_sha256"
  let issued ← readTime surroundings (raw.value "issued_at") "release-dependency.issued_at"
  let expires ← readTime surroundings (raw.value "expires_at") "release-dependency.expires_at"
  require (issued < expires) "release-dependency-expiry-not-after-issuance"
  require (issued ≤ now && now ≤ expires) "release-dependency-not-live"
  return (raw.set "issued_at" (iso issued)).set "expires_at" (iso expires)

/-- The loop of `_normalize_dependencies`: the stored dependencies and their identities. -/
def readDependencies (childIds : List String) (now : Int) :
    Nat → List Json → List (String × String) → Except PyError (List Json × List (String × String))
  | _, [], identities => .ok ([], identities)
  | index, raw :: rest, identities => do
      let identity ← readIdentity childIds index raw
      require (!identities.contains identity) "release-dependency-duplicate"
      let item ← readLifetime surroundings now raw
      let (items, identities) ← readDependencies childIds now (index + 1) rest (identity :: identities)
      return (item :: items, identities)

/-- The key by which stored dependencies are sorted. -/
def dependencyKey (item : Json) : String ×ₗ String ×ₗ String :=
  toLex (textOf (item.value "expires_at"),
    toLex (textOf (item.value "child_id"), textOf (item.value "kind")))

def sortDependencies (items : List Json) : List Json := sortByKey dependencyKey items

/-- `left == right` for sets. -/
def sameSet {α : Type} [DecidableEq α] (left right : List α) : Bool :=
  left.all (right.contains ·) && right.all (left.contains ·)

def normalizeDependencies (dependencies : List Json) (now : Int) :
    Except PyError (List Json) := do
  let childIds := childIdsOf plan
  let (items, identities) ← readDependencies surroundings childIds now 0 dependencies []
  require (sameSet (identities.map Prod.fst) childIds) "release-dependency-child-coverage-mismatch"
  let operative := items.filter fun item => item.value "kind" == .str "operative-release"
  require (sameSet (operative.map (Json.value "child_id")) (childIds.map .str))
    "release-dependency-operative-release-coverage-mismatch"
  return sortDependencies items

def packetBindingFields : List String :=
  ["child_id", "packet_sha256", "precommit_receipt_sha256", "work_plan_sha256"]

/-- The child of a plan with the given id; of two with one id the later. -/
def childOf? (childId : String) : Option Json :=
  (childrenOf plan).reverse.find? fun child => textOf (child.value "child_id") == childId

def readBinding (index : Nat) (raw : Json) (seen : List String) :
    Except PyError String := do
  strict packetBindingFields s!"packet-binding[{index}]" raw
  let childId ← nonempty (raw.value "child_id") "packet-binding.child_id"
  require ((childOf? plan childId).isSome && !seen.contains childId) "packet-binding-child-set-invalid"
  ["packet_sha256", "precommit_receipt_sha256", "work_plan_sha256"].forM fun field =>
    requireHash (raw.value field) ("packet-binding." ++ field)
  require ((childOf? plan childId).any fun child =>
      raw.value "work_plan_sha256" == child.value "work_plan_sha256")
    "packet-binding-work-plan-mismatch"
  return childId

/-- The loop of `_normalize_packet_bindings`: the children that bindings are about. -/
def readBindings (plan : Json) : Nat → List Json → List String → Except PyError (List String)
  | _, [], seen => .ok seen
  | index, raw :: rest, seen => do
      let childId ← readBinding plan index raw seen
      readBindings plan (index + 1) rest (childId :: seen)

def sortBindings (bindings : List Json) : List Json :=
  sortByKey (fun binding => textOf (binding.value "child_id")) bindings

def normalizePacketBindings (bindings : List Json) : Except PyError (List Json) := do
  let seen ← readBindings plan 0 bindings []
  require (sameSet seen (childIdsOf plan)) "packet-binding-child-coverage-mismatch"
  return sortBindings bindings

/-- `_required_lifetime_ms` of a whole cohort, nothing of which has been allocated. -/
def requiredLifetimeMs : Int :=
  let bound := fun field => intOf ((plan.value "startup_bounds_ms").value field)
  bound "pre_allocation_ms" + bound "per_allocation_ms" * (childrenOf plan).length +
    bound "runtime_binding_ms" + bound "admission_ms" + bound "dispatch_and_first_observation_ms" +
      bound "safety_margin_ms"

def readinessFields : List String :=
  ["readiness_type", "version", "schema", "readiness_id", "plan_sha256", "parent_readiness_sha256",
    "created_at", "bead_projections", "packet_bindings", "release_dependencies",
    "earliest_expires_at", "required_lifetime_ms", "available_lifetime_ms", "valid_through",
    "readiness_sha256"]

def projectionFields : List String := ["child_id", "bead_id", "projection", "projection_sha256"]

/-- A list with something in it. -/
def readItems (value : Json) (message : String) : Except PyError (List Json) :=
  match value.elements? with
  | some (item :: rest) => .ok (item :: rest)
  | _ => .error (transactionError message)

def earliestExpiry (dependencies : List Json) : Except PyError Int := do
  let times ← (dependencies.filter Json.isObject).mapM fun item =>
    readTime surroundings (item.value "expires_at") "release-dependency.expires_at"
  match times with
  | [] => .error (valueError "min() iterable argument is empty")
  | first :: rest => .ok (rest.foldl min first)

/-- `{item.get("child_id") for item in items}`. -/
def childIdSet (items : List Json) : Except PyError (List Json) :=
  items.mapM fun item =>
    if item.isObject then do
      Json.hashable (item.value "child_id")
      return item.value "child_id"
    else .error ⟨.other, "AttributeError", "object has no attribute 'get'"⟩

def checkProjection (item : Json) : Except PyError Unit := do
  strict projectionFields "readiness-record.bead-projection" item
  requireNonempty (item.value "child_id") "readiness-record.child-id"
  requireNonempty (item.value "bead_id") "readiness-record.bead-id"
  requireHash (item.value "projection_sha256") "readiness-record.projection-sha256"
  let digest ← canonicalHash (item.value "projection")
  require (digest == item.value "projection_sha256") "readiness-record-bead-projection-hash-mismatch"

def checkRecordHeader : Except PyError Unit := do
  strict readinessFields "readiness-record" record
  require (record.value "readiness_type" == .str "cwo-native-pool-transaction-readiness" &&
      (record.value "version").equalsNat 1 &&
      record.value "schema" == .str "schemas/native-pool-transaction-readiness.schema.json")
    "readiness-record-header-invalid"
  requireNonempty (record.value "readiness_id") "readiness-record.readiness_id"
  requireHash (record.value "plan_sha256") "readiness-record.plan_sha256"
  if record.value "parent_readiness_sha256" = .null then .ok ()
  else requireHash (record.value "parent_readiness_sha256") "readiness-record.parent_readiness_sha256"

def checkRecordPlan (created requiredMs : Int)
    (projections dependencies bindings : List Json) : Except PyError Unit := do
  let planErrors ← validateTransactionPlan (fromIsoformat surroundings.others) plan
  require planErrors.isEmpty "readiness-record-plan-invalid"
  require (record.value "plan_sha256" == plan.value "plan_sha256")
    "readiness-record-plan-binding-mismatch"
  let childIds := (childrenOf plan).map (Json.value "child_id")
  let projected ← childIdSet projections
  require (sameSet projected childIds) "readiness-record-projection-set-mismatch"
  let released ← childIdSet dependencies
  require (sameSet released childIds) "readiness-record-dependency-set-mismatch"
  let normalized ← normalizeDependencies surroundings plan dependencies created
  require (normalized == dependencies) "readiness-record-dependencies-not-canonical"
  let bound ← normalizePacketBindings plan bindings
  require (bound == bindings) "readiness-record-packet-bindings-not-canonical"
  require (requiredMs == requiredLifetimeMs plan) "readiness-record-required-lifetime-mismatch"

/-- The body of `validate_readiness_record`. -/
def checkRecord (plan : Option Json) : Except PyError Unit := do
  checkRecordHeader record
  let created ← readTime surroundings (record.value "created_at") "readiness-record.created_at"
  let earliest ← readTime surroundings (record.value "earliest_expires_at")
    "readiness-record.earliest_expires_at"
  let validThrough ← readTime surroundings (record.value "valid_through")
    "readiness-record.valid_through"
  let requiredMs ← integer (record.value "required_lifetime_ms")
    "readiness-record.required_lifetime_ms" 0
  let availableMs ← integer (record.value "available_lifetime_ms")
    "readiness-record.available_lifetime_ms" 0
  let due ← addMillis created requiredMs
  require (validThrough == due) "readiness-record-valid-through-mismatch"
  require (availableMs == availableLifetimeMs earliest created)
    "readiness-record-available-lifetime-mismatch"
  let dependencies ← readItems (record.value "release_dependencies")
    "readiness-record-dependencies-invalid"
  let normalizedEarliest ← earliestExpiry surroundings dependencies
  require (normalizedEarliest == earliest) "readiness-record-earliest-expiry-mismatch"
  let projections ← readItems (record.value "bead_projections")
    "readiness-record-bead-projections-invalid"
  projections.forM checkProjection
  let bindings ← readItems (record.value "packet_bindings")
    "readiness-record-packet-bindings-invalid"
  match plan with
  | some plan =>
    checkRecordPlan surroundings record plan created requiredMs projections dependencies bindings
  | none => .ok ()
  let digest ← canonicalHash (record.erase "readiness_sha256")
  require (record.value "readiness_sha256" == digest) "readiness-record-canonical-hash-mismatch"

def validateReadinessRecord (plan : Option Json) : Except PyError (List String) :=
  reported (checkRecord surroundings record plan)

abbrev BeadRecords := String → Option Json

def projectChild (beadRecords : BeadRecords) (child : Json) : Except PyError Json := do
  let beadId := textOf (child.value "bead_id")
  match (beadRecords beadId).filter Json.isObject with
  | none => .error (transactionError ("readiness-bead-missing:" ++ beadId))
  | some raw => do
      let projection ← surroundings.projection raw
      let digest ← canonicalHash projection
      require (digest == child.value "bead_projection_sha256")
        ("readiness-bead-projection-drift:" ++ beadId)
      return .obj [("child_id", child.value "child_id"), ("bead_id", child.value "bead_id"),
          ("projection", projection), ("projection_sha256", digest)]

/-- `f"{parent_readiness_sha256}"`. -/
def spelled (value : Json) : String :=
  match value with
  | .sha256 preimage => surroundings.spell ⟨preimage⟩
  | .str text => text
  | _ => "None"

/-- The id of the record that is made of a plan at a time. -/
def readinessId (current : Int) (parent : Json) : String :=
  let name := joinWith ":"
    [textOf (plan.value "transaction_id"), textOf (iso current), spelled surroundings parent]
  "native-pool-readiness-" ++ String.ofList ((surroundings.spell (textSha256 name)).toList.take 24)

/-- The record but for its hash. -/
def recordBody (parent : Json) (current earliest requiredMs availableMs due : Int)
    (projections bindings dependencies : List Json) : List (String × Json) :=
  [("readiness_type", .str "cwo-native-pool-transaction-readiness"), ("version", .int 1),
    ("schema", .str "schemas/native-pool-transaction-readiness.schema.json"),
    ("readiness_id", .str (readinessId surroundings plan current parent)),
    ("plan_sha256", plan.value "plan_sha256"), ("parent_readiness_sha256", parent),
    ("created_at", iso current), ("bead_projections", .arr projections),
    ("packet_bindings", .arr bindings), ("release_dependencies", .arr dependencies),
    ("earliest_expires_at", iso earliest), ("required_lifetime_ms", .int requiredMs),
    ("available_lifetime_ms", .int availableMs), ("valid_through", iso due)]

/-- `record["readiness_sha256"] = _readiness_hash(record)`. -/
def sealRecord (fields : List (String × Json)) : Except PyError Json := do
  let digest ← canonicalHash (.obj fields)
  return .obj (fields ++ [("readiness_sha256", digest)])

/-- `_hash` of what is not `None`. -/
def checkParent (parent : Json) : Except PyError Unit :=
  if parent = .null then .ok () else requireHash parent "parent-readiness-sha256"

def buildReadinessRecord (beadRecords : BeadRecords) (packetBindings : List Json)
    (releaseDependencies : List Json) (now : Moment) (parent : Json) : Except PyError Json := do
  let planErrors ← validateTransactionPlan (fromIsoformat surroundings.others) plan
  require planErrors.isEmpty ("readiness-plan-invalid:" ++ joinWith ";" planErrors)
  let current : Int := now.micros
  let projections ← (childrenOf plan).mapM (projectChild surroundings beadRecords)
  let bindings ← normalizePacketBindings plan packetBindings
  let dependencies ← normalizeDependencies surroundings plan releaseDependencies current
  let earliest ← earliestExpiry surroundings dependencies
  let requiredMs := requiredLifetimeMs plan
  let persistedCreated ← readTime surroundings (iso current) "readiness-record.created_at"
  let persistedEarliest ← readTime surroundings (iso earliest) "readiness-record.earliest_expires_at"
  let availableMs := availableLifetimeMs persistedEarliest persistedCreated
  checkParent parent
  let due ← addMillis current requiredMs
  let record ← sealRecord (recordBody surroundings plan parent current earliest requiredMs availableMs
    due projections bindings dependencies)
  let errors ← validateReadinessRecord surroundings record (some plan)
  require errors.isEmpty ("invalid-readiness-record:" ++ joinWith ";" errors)
  return record

end WorkOrchestration.Native.TransactionReadiness
