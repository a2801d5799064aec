import WorkOrchestration.Native.LiveLedger

/-!
# Two indices with the same answers

An entry is checked before its audit event is recorded and indexed without the hash of that event. Apart
from this hash, a check on an overlay and one on a rebuilt index agree.
-/

namespace WorkOrchestration.Native.LiveLedger

open List Lib.Checks Audit Artifacts
open Artifacts.Json (equalsNat hashable isOneOf)
open ActivationLedger (isHexDigit isSha256 uuid?)

def unanchored (entry : Json) : Json := entry.erase "audit_event_hash"

theorem value_unanchored {field : String} (other : field ≠ "audit_event_hash") (entry : Json) :
    (unanchored entry).value field = entry.value field := by
  unfold unanchored Json.value
  rw [Json.get?_erase, if_neg (Ne.symm other)]

theorem unanchored_set {entry : Json} (dictionary : entry.isDict = true) (hash : Json) :
    unanchored (entry.set "audit_event_hash" hash) = unanchored entry :=
  Json.erase_set dictionary _ _

def Update.unanchored : Update → Update
  | .addAllocationIntent allocationId role entry =>
    .addAllocationIntent allocationId role (LiveLedger.unanchored entry)
  | .addThreadBinding threadId entry => .addThreadBinding threadId (LiveLedger.unanchored entry)
  | .addTurnIntent turnIntentId threadId entry =>
    .addTurnIntent turnIntentId threadId (LiveLedger.unanchored entry)
  | change => change

/-- The answers without the audit hashes of the entries that they return. -/
def View.unanchored (view : View) : View :=
  { view with
    allocationIntent := fun key => (view.allocationIntent key).map LiveLedger.unanchored
    threadBinding := fun key => (view.threadBinding key).map LiveLedger.unanchored
    turnIntent := fun key => (view.turnIntent key).map LiveLedger.unanchored }

/-- The same answers to every query, up to audit hashes. -/
def Similar (left right : View) : Prop := left.unanchored = right.unanchored

theorem View.unanchored_update (view : View) (change : Update) :
    (view.update change).unanchored = view.unanchored.update change.unanchored := by
  cases change
  all_goals all_goals
      simp [View.update, View.unanchored, Update.unanchored, apply_ite (Option.map _)]

variable {left right : View}

theorem Similar.update (similar : Similar left right) {first second : Update}
    (same : first.unanchored = second.unanchored) :
    Similar (left.update first) (right.update second) := by
  unfold Similar at similar ⊢
  rw [View.unanchored_update, View.unanchored_update, similar, same]

/-- A run of updates as the answers see it. -/
def View.updates (view : View) (changes : List Update) : View := changes.foldl View.update view

theorem Similar.updates (similar : Similar left right)
    {first second : List Update}
    (same : first.map Update.unanchored = second.map Update.unanchored) :
    Similar (left.updates first) (right.updates second) := by
  induction first generalizing left right second with
  | nil =>
    cases second with
    | nil => exact similar
    | cons change rest => cases same
  | cons change rest ih =>
    cases second with
    | nil => cases same
    | cons other others =>
      obtain ⟨head, tail⟩ := List.cons.inj same
      exact ih (similar.update head) tail

theorem SemanticIndex.view_updates (index : SemanticIndex) (changes : List Update) :
    (changes.foldl SemanticIndex.update index).view = index.view.updates changes := by
  induction changes generalizing index with
  | nil => rfl
  | cons change rest ih =>
    rw [foldl_cons, ih, SemanticIndex.view_update]
    rfl

theorem SemanticCandidate.view_updates (candidate : SemanticCandidate) (changes : List Update) :
    (changes.foldl SemanticCandidate.update candidate).view = candidate.view.updates changes := by
  induction changes generalizing candidate with
  | nil => rfl
  | cons change rest ih =>
    rw [foldl_cons, ih, SemanticCandidate.view_update]
    rfl

def Effect.unanchored (effect : Effect) : Effect :=
  { effect with updates := effect.updates.map Update.unanchored }

section

variable (spell : Json → String) (view : View) (number : Nat) (entry : Json)

theorem allNull_unanchored (fields : List String) (others : "audit_event_hash" ∉ fields) :
    allNull (unanchored entry) fields = allNull entry fields := by
  unfold allNull
  induction fields with
  | nil => rfl
  | cons field rest ih =>
    obtain ⟨other, later⟩ := not_or.mp (mt mem_cons.mpr others)
    rw [all_cons, all_cons, value_unanchored (Ne.symm other), ih later]

theorem any_unanchored {test other : Json → Bool}
    (same : ∀ earlier, test (unanchored earlier) = other earlier) (found : Option Json) :
    (found.map unanchored).any test = found.any other := by
  cases found with
  | none => rfl
  | some earlier => exact same earlier

theorem sameRole_unanchored (earlier : Json) :
    sameRole (unanchored entry) (unanchored earlier) = sameRole entry earlier := by
  unfold sameRole
  rw [value_unanchored (by decide), value_unanchored (by decide), value_unanchored (by decide),
    value_unanchored (by decide)]

theorem bindsRole_unanchored (earlier : Json) :
    bindsRole spell (unanchored entry) (unanchored earlier) = bindsRole spell entry earlier := by
  unfold bindsRole
  rw [sameRole_unanchored, value_unanchored (by decide), value_unanchored (by decide)]

theorem intendsTurn_unanchored (earlier : Json) :
    intendsTurn spell (unanchored entry) (unanchored earlier) = intendsTurn spell entry earlier := by
  unfold intendsTurn
  rw [value_unanchored (by decide), value_unanchored (by decide), value_unanchored (by decide),
    value_unanchored (by decide)]

theorem roleOrdinalValid_unanchored :
    roleOrdinalValid (unanchored entry) = roleOrdinalValid entry := by
  unfold roleOrdinalValid
  rw [value_unanchored (by decide), value_unanchored (by decide)]

theorem certificationBound_unanchored :
    certificationBound number (unanchored entry) = (certificationBound number entry).unanchored := by
  unfold certificationBound Effect.unanchored
  rw [allNull_unanchored entry _ (by decide), value_unanchored (by decide),
    value_unanchored (by decide)]
  rfl

theorem allocationIntentEffect_unanchored :
    allocationIntentEffect spell view.unanchored number (unanchored entry) =
      (allocationIntentEffect spell view number entry).unanchored := by
  unfold allocationIntentEffect
  simp only [allNull_unanchored entry ["thread_id", "turn_intent_id", "turn_id", "evidence_sha256"]
      (by decide), value_unanchored (by decide : "role" ≠ _),
    value_unanchored (by decide : "allocation_intent_id" ≠ _),
    value_unanchored (by decide : "outcome" ≠ _), View.unanchored, Option.isNone_map]
  rw [apply_ite Effect.unanchored]
  rfl

theorem threadBoundEffect_unanchored :
    threadBoundEffect spell view.unanchored number (unanchored entry) =
      (threadBoundEffect spell view number entry).unanchored := by
  unfold threadBoundEffect
  simp only [allNull_unanchored entry ["turn_intent_id", "turn_id", "evidence_sha256"]
      (by decide), value_unanchored (by decide : "thread_id" ≠ _),
    value_unanchored (by decide : "allocation_intent_id" ≠ _),
    value_unanchored (by decide : "outcome" ≠ _), View.unanchored, Option.isNone_map,
    any_unanchored (sameRole_unanchored entry)]
  rw [apply_ite Effect.unanchored]
  rfl

theorem turnIntentEffect_unanchored :
    turnIntentEffect spell view.unanchored number (unanchored entry) =
      (turnIntentEffect spell view number entry).unanchored := by
  unfold turnIntentEffect
  simp only [allNull_unanchored entry ["turn_id", "evidence_sha256"]
      (by decide), value_unanchored (by decide : "thread_id" ≠ _),
    value_unanchored (by decide : "turn_intent_id" ≠ _),
    value_unanchored (by decide : "outcome" ≠ _), View.unanchored, Option.isNone_map,
    any_unanchored (bindsRole_unanchored spell entry)]
  rw [apply_ite Effect.unanchored]
  rfl

theorem turnBoundEffect_unanchored :
    turnBoundEffect spell view.unanchored number (unanchored entry) =
      (turnBoundEffect spell view number entry).unanchored := by
  unfold turnBoundEffect
  simp only [allNull_unanchored entry ["evidence_sha256"] (by decide),
    value_unanchored (by decide : "thread_id" ≠ _),
    value_unanchored (by decide : "turn_intent_id" ≠ _),
    value_unanchored (by decide : "turn_id" ≠ _), value_unanchored (by decide : "outcome" ≠ _),
    View.unanchored, any_unanchored (intendsTurn_unanchored spell entry)]
  rw [apply_ite Effect.unanchored]
  rfl

theorem lifecycleEffect_unanchored :
    lifecycleEffect spell view.unanchored number (unanchored entry) =
      (lifecycleEffect spell view number entry).unanchored := by
  unfold lifecycleEffect isContainment isAbsence Effect.unanchored
  simp only [value_unanchored (by decide : "event" ≠ _),
    value_unanchored (by decide : "thread_id" ≠ _),
    value_unanchored (by decide : "turn_intent_id" ≠ _),
    value_unanchored (by decide : "turn_id" ≠ _), value_unanchored (by decide : "outcome" ≠ _),
    value_unanchored (by decide : "evidence_sha256" ≠ _), View.unanchored,
    View.successfulContainmentSeen, Option.isSome_map,
    any_unanchored (bindsRole_unanchored spell entry),
    any_unanchored (intendsTurn_unanchored spell entry), map_append,
    apply_ite (List.map Update.unanchored), map_cons, map_nil, Update.unanchored]
  rfl

theorem effect_unanchored : effect spell view.unanchored number (unanchored entry) =
      (effect spell view number entry).unanchored := by
  unfold effect
  simp only [value_unanchored (by decide : "event" ≠ _), roleOrdinalValid_unanchored,
    certificationBound_unanchored, allocationIntentEffect_unanchored, threadBoundEffect_unanchored,
    turnIntentEffect_unanchored, turnBoundEffect_unanchored, lifecycleEffect_unanchored,
    apply_ite Effect.unanchored]
  rfl

end

theorem effect_similar (similar : Similar left right) {first second : Json}
    (same : unanchored first = unanchored second) (spell : Json → String) (number : Nat) :
    (effect spell left number first).unanchored = (effect spell right number second).unanchored := by
  rw [← effect_unanchored, ← effect_unanchored, similar, same]

end WorkOrchestration.Native.LiveLedger
