import Mathlib.Logic.Function.Basic
import WorkOrchestration.Native.LiveLedgerStore

/-!
# Callers of one store

Every operation of the store looks something up in one or two locked sections and
appends in another.  A history interleaves the sections of any number of callers
with openings and validations of the store; every section is atomic.
-/

namespace WorkOrchestration.Native.LiveLedger

open Lib.Checks Lib.Programs Audit Artifacts
open Artifacts.Json (hashable isOneOf)
open ActivationLedger (isSha256)

/--
A call of an operation with its arguments.  The identifiers that the store draws
itself, the hash of the evidence and what the verifier of an absence proof says are
arguments as well.
-/
inductive Operation where
  | allocationIntent (role intentId : Json)
  | bindThread (allocationIntentId threadId : Json)
  | turnIntent (threadId turnIntentId : Json)
  | bindTurn (threadId turnIntentId turnId : Json)
  | resolveTurnIntentAbsent (threadId turnIntentId : Json) (proofSha256 : Except PyError Json)
      (verifier : Except PyError (Except PyError (String × FileIdentity)))
  | recordLifecycle (threadId event outcome : Json)
  | recordContainmentAudit (threadId outcome : Json) (evidenceSha256 : Except PyError Json)
  | bindCertification (receiptSha256 : Json)

/-- What a caller is about to do in its next locked section. -/
inductive Stage where
  | reads (operation : Operation)
  | checksResolved (threadId turnIntentId turnId binding latestIntent latestTurn : Json)
  | appends (operation : Operation) (checkedAt : Nat) (guards : Guards) (fields : Fields)

def noGuards : Guards := ⟨none, none⟩

/-- The arguments that are checked before the first section. -/
def Operation.begin : Operation → Except PyError Stage
  | operation@(.allocationIntent role intentId) =>
    if isOneOf expectedRoles role then
      let ordinal := match role with
        | .str role => Json.nat (expectedRoles.idxOf role)
        | _ => .null
      .ok (.appends operation 0 noGuards {
        event := .str "allocation-intent", role := role, ordinal := ordinal,
        allocationIntentId := intentId, outcome := .str "pending" })
    else .error (ledgerError "ledger-role-invalid")
  | operation@(.resolveTurnIntentAbsent _ _ proofSha256 _) => do
      let _ ← proofSha256
      return .reads operation
  | operation@(.recordLifecycle _ event _) => do
      hashable event
      if isOneOf ["interrupt-observed", "archive-observed"] event then return .reads operation
      .error (ledgerError "lifecycle-event-invalid")
  | operation@(.recordContainmentAudit _ outcome _) => do
      if outcome = .str "turn-intent-verified-absent" then
        .error (ledgerError "containment-outcome-reserved-for-turn-intent-resolution")
      hashable outcome
      if isOneOf ["contained", "already-contained"] outcome then return .reads operation
      .error (ledgerError "containment-outcome-not-success")
  | operation@(.bindCertification receiptSha256) =>
    if isSha256 receiptSha256 then
      .ok (.appends operation 0 noGuards {
        event := .str "certification-bound", evidenceSha256 := receiptSha256,
        outcome := .str "bound" })
    else .error (ledgerError "certification-receipt-sha256-invalid")
  | operation => .ok (.reads operation)

/-- `_thread_binding`: the binding, the latest turn intent and the latest turn. -/
def threadBinding (index : SemanticIndex) (threadId : Json) :
    Except PyError (Json × Json × Json) := do
  hashable threadId
  match index.view.threadBinding threadId with
  | none => .error (ledgerError "thread-binding-missing")
  | some binding =>
    return (binding, (index.view.latestTurnIntentId threadId).getD .null,
      (index.view.latestTurnId threadId).getD .null)

def boundFields (binding threadId event outcome : Json) : Fields where
  event := event
  role := binding.value "role"
  ordinal := binding.value "ordinal"
  allocationIntentId := binding.value "allocation_intent_id"
  threadId := threadId
  outcome := outcome

/-- `persist_verified_proof`: the capability is taken first, and what it verifies and writes comes last. -/
def verifiedProof (threadId turnIntentId binding : Json)
    (verifier : Except PyError (Except PyError (String × FileIdentity))) (_ : Json)
    (index : SemanticIndex) : Except PyError (Option (String × FileIdentity)) := do
  let verified ← verifier
  let mismatch := ledgerError "turn-intent-absence-verifier-capability-mismatch"
  match index.view.turnIntent turnIntentId, index.view.threadBinding threadId with
  | some intent, some _ =>
    if intent.value "thread_id" = threadId ∧
        intent.value "allocation_intent_id" = binding.value "allocation_intent_id" ∧
        index.view.turnIntentResolved turnIntentId = false then
      verified.map some
    else .error mismatch
  | _, _ => .error mismatch

/-- `exact_existing_success`: the only success of the thread, if it is the one to be recorded. -/
def exactExistingSuccess (fields : Fields) (state : Json) (_ : SemanticIndex) : Except PyError Json :=
  let successes := (entriesOf state).filter fun entry =>
    entry.value "event" == .str "containment-audited" &&
      entry.value "thread_id" == fields.threadId &&
      isOneOf ["contained", "already-contained"] (entry.value "outcome")
  match successes with
  | [] => .ok .null
  | [existing] =>
    if existing.value "outcome" = fields.outcome ∧
        existing.value "evidence_sha256" = fields.evidenceSha256 ∧
        existing.value "allocation_intent_id" = fields.allocationIntentId ∧
        existing.value "turn_intent_id" = fields.turnIntentId ∧
        existing.value "turn_id" = fields.turnId then .ok existing
    else .error (ledgerError "containment-audit-success-conflict")
  | _ => .error (ledgerError "containment-audit-success-duplicate")

/-- What the first section of an operation makes of the index: the next section, if there is one. -/
def Operation.read (count : Nat) (index : SemanticIndex) : Operation → Except PyError (Option Stage)
  | operation@(.bindThread allocationIntentId threadId) => do
      hashable allocationIntentId
      match index.view.allocationIntent allocationIntentId with
      | none => .error (ledgerError "allocation-intent-missing")
      | some intent =>
        return some (.appends operation count noGuards {
          event := .str "thread-bound", role := intent.value "role",
          ordinal := intent.value "ordinal", allocationIntentId := allocationIntentId,
          threadId := threadId, outcome := .str "bound" })
  | operation@(.turnIntent threadId turnIntentId) => do
      let (binding, latestIntent, _) ← threadBinding index threadId
      if latestIntent ≠ .null then .error (ledgerError "turn-intent-duplicate")
      return some (.appends operation count noGuards {
        boundFields binding threadId (.str "turn-intent") (.str "pending") with
        turnIntentId := turnIntentId })
  | .bindTurn threadId turnIntentId turnId => do
      let (binding, latestIntent, latestTurn) ← threadBinding index threadId
      return some (.checksResolved threadId turnIntentId turnId binding latestIntent latestTurn)
  | operation@(.resolveTurnIntentAbsent threadId turnIntentId proofSha256 verifier) => do
      let (binding, latestIntent, latestTurn) ← threadBinding index threadId
      let proof ← proofSha256
      if latestIntent ≠ turnIntentId ∨ latestTurn ≠ .null then
        .error (ledgerError "turn-intent-resolution-mismatch")
      return some (.appends operation count
        ⟨none, some (verifiedProof threadId turnIntentId binding verifier)⟩ {
          boundFields binding threadId (.str "containment-audited")
            (.str "turn-intent-verified-absent") with
          turnIntentId := turnIntentId, evidenceSha256 := proof })
  | operation@(.recordLifecycle threadId event outcome) => do
      let (binding, latestIntent, latestTurn) ← threadBinding index threadId
      hashable outcome
      if index.view.lifecycleSeen event threadId outcome then return none
      return some (.appends operation count noGuards {
        boundFields binding threadId event outcome with
        turnIntentId := latestIntent, turnId := latestTurn })
  | operation@(.recordContainmentAudit threadId outcome evidenceSha256) => do
      let (binding, latestIntent, latestTurn) ← threadBinding index threadId
      let evidence ← evidenceSha256
      let fields : Fields := {
        boundFields binding threadId (.str "containment-audited") outcome with
        turnIntentId := latestIntent, turnId := latestTurn, evidenceSha256 := evidence }
      return some (.appends operation count ⟨some (exactExistingSuccess fields), none⟩ fields)
  | _ => .ok none

def lockedRead {α : Type} (surroundings : Surroundings)
    (ask : Nat → SemanticIndex → Except PyError α) : StoreProgram α := do
  ofExcept surroundings.lock
  let (state, _, _) ← requireTrusted surroundings
  let index := (← get).object
  ofExcept (ask (entriesOf state).length index)

/-- The next section of a caller, and what it leaves to be done. -/
def Stage.program (spell : Json → String) (surroundings : Surroundings) :
    Stage → StoreProgram (Option Stage)
  | .reads operation => lockedRead surroundings fun count index => operation.read count index
  | .checksResolved threadId turnIntentId turnId binding latestIntent latestTurn =>
    lockedRead surroundings fun count index => do
      hashable turnIntentId
      if latestIntent ≠ turnIntentId ∨ latestTurn ≠ .null ∨
          index.view.turnIntentResolved turnIntentId = true then
        .error (ledgerError "turn-intent-binding-mismatch")
      return some (.appends (.bindTurn threadId turnIntentId turnId) count noGuards {
        boundFields binding threadId (.str "turn-bound") (.str "bound") with
        turnIntentId := turnIntentId, turnId := turnId })
  | .appends _ _ guards fields => do
      let _ ← append spell surroundings guards fields
      return none

/-- One store, its files and everyone who is using it. -/
structure System where
  store : Store
  callers : Nat → Option Stage

/-- The calls that do not append. -/
inductive Upkeep where
  | openStore
  | fullValidation
  | closeStore

def Upkeep.call : Upkeep → StoreCall
  | .openStore => .openStore
  | .fullValidation => .fullValidation
  | .closeStore => .closeStore

inductive Move where
  | begin (caller : Nat) (operation : Operation)
  | lockedSection (caller : Nat) (surroundings : Surroundings)
  | upkeep (surroundings : Surroundings) (call : Upkeep)

/-- The system after a move; a caller that is busy begins nothing, an idle one has no section. -/
def System.move (spell : Json → String) (system : System) : Move → System
  | .begin caller operation =>
    match system.callers caller, operation.begin with
    | none, .ok stage => { system with callers := Function.update system.callers caller (some stage) }
    | _, _ => system
  | .lockedSection caller surroundings =>
    match system.callers caller with
    | none => system
    | some stage =>
      match stage.program spell surroundings system.store with
      | .ok next store => ⟨store, Function.update system.callers caller next⟩
      | .error _ store => ⟨store, Function.update system.callers caller none⟩
  | .upkeep surroundings call =>
    { system with store := StoreCall.next spell system.store (surroundings, call.call) }

/-- A store that has been initialized and not yet opened. -/
def System.initial (ledger : Json) (audit : List Line) : System :=
  ⟨⟨none, false, ⟨.empty⟩, ledger, audit⟩, fun _ => none⟩

def System.run (spell : Json → String) (system : System) (moves : List Move) : System :=
  moves.foldl (System.move spell) system

end WorkOrchestration.Native.LiveLedger
