import WorkOrchestration.Native.LiveLedgerOperations

/-!
# What a ledger can hold

Entries that were accepted one after another, the answers that they give, and what
is unique among them.  A thread and a turn intent are checked before the section
that appends them, so these are unique only where nobody comes in between.
-/

namespace WorkOrchestration.Native.LiveLedger

open List Lib.Checks Lib.Programs Audit Artifacts
open Artifacts.Json (hashable isOneOf)
open ActivationLedger (isSha256 uuid?)
open Bool (and_eq_true and_eq_true_iff not_eq_true')

/-! ## Accepted entries -/

/-- Entries of which each was accepted after those before it, and the answers that they give. -/
inductive Walks (spell : Json → String) : List Json → View → Prop where
  | nil : Walks spell [] (SemanticIndex.mk .empty).view
  | snoc {entries : List Json} {view : View} {entry : Json} (walks : Walks spell entries view)
      (named : isOneOf events (entry.value "event") = true)
      (clean : (effect spell view (entries.length + 1) entry).errors = []) :
      Walks spell (entries ++ [entry])
        (view.updates (effect spell view (entries.length + 1) entry).updates)

section

variable {spell : Json → String}

variable {entries : List Json}

theorem Walks.deterministic {first second : View}
    (one : Walks spell entries first) (other : Walks spell entries second) : first = second := by
  induction one generalizing second with
  | nil =>
    generalize same : ([] : List Json) = none at other
    cases other with
    | nil => rfl
    | snoc => simp at same
  | snoc walks _ _ ih =>
    rename_i entries view entry _ _
    generalize same : entries ++ [entry] = whole at other
    cases other with
    | nil => simp at same
    | snoc later _ _ =>
      obtain ⟨front, last⟩ := append_inj' same rfl
      obtain rfl := singleton_inj.mp last
      subst front
      rw [ih later]

theorem walks_of_validateEntries {ledgerId : Json} {audits : List Json} {verify : Bool}
    {head : Json} {index : SemanticIndex}
    (walked : validateEntries spell ledgerId audits verify 1 .null ⟨.empty⟩ entries =
      .ok ([], head, index)) : Walks spell entries index.view := by
  induction entries using List.reverseRecOn generalizing head index with
  | nil =>
    cases walked
    exact .nil
  | append_singleton front entry ih =>
    rw [validateEntries_append] at walked
    obtain ⟨⟨errors, middle, before⟩, walkedFront, walked⟩ := bind_ok walked
    obtain ⟨⟨later, final, after⟩, walkedLast, walked⟩ := bind_ok walked
    have parts := Except.ok.inj walked
    simp only [Prod.mk.injEq, append_eq_nil_iff] at parts
    obtain ⟨⟨rfl, rfl⟩, rfl, rfl⟩ := parts
    obtain ⟨⟨here, next, moved⟩, transition, walkedLast⟩ := bind_ok walkedLast
    obtain ⟨⟨rest, last, finalIndex⟩, nothing, walkedLast⟩ := bind_ok walkedLast
    cases nothing
    have parts := Except.ok.inj walkedLast
    simp only [append_nil] at parts
    obtain ⟨rfl, rfl, rfl⟩ := parts
    by_cases exactly : entry.hasExactly entryFields = true
    · rw [validateEntryTransition_eq exactly] at transition
      cases gate : entryGate entry with
      | error error =>
        rw [gate] at transition
        cases transition
      | ok expected =>
        rw [gate] at transition
        have parts := Except.ok.inj transition
        simp only [Prod.mk.injEq, append_eq_nil_iff] at parts
        obtain ⟨⟨⟨chain, _⟩, clean⟩, _, indexed⟩ := parts
        unfold chainErrors at chain
        simp only [append_eq_nil_iff] at chain
        have named := reject_eq_nil.mp chain.1.1.2
        rw [Nat.add_comm] at clean indexed
        rw [← indexed]
        have walks := Walks.snoc (ih walkedFront) (Bool.eq_true_of_not_eq_false named) clean
        rw [← SemanticIndex.view_updates] at walks
        exact walks
    · unfold validateEntryTransition at transition
      rw [Bool.not_eq_true] at exactly
      rw [exactly] at transition
      cases transition

end

/-! ## What an accepted entry has found -/

def isEvent (event : String) (entry : Json) : Prop := entry.value "event" = .str event

instance (event : String) (entry : Json) : Decidable (isEvent event entry) :=
  inferInstanceAs (Decidable (_ = _))

/-- One of the three kinds of lifecycle entries. -/
def IsLifecycle (entry : Json) : Prop :=
  isOneOf ["interrupt-observed", "archive-observed", "containment-audited"]
    (entry.value "event") = true

def IsSuccess (entry : Json) : Prop := isContainment entry (entry.value "event") = true

def IsAbsent (entry : Json) : Prop := isAbsence entry (entry.value "event") = true

variable {entry : Json}

theorem IsSuccess.event (success : IsSuccess entry) : isEvent "containment-audited" entry :=
  beq_iff_eq.mp (and_eq_true_iff.mp success).1

theorem IsAbsent.event (absent : IsAbsent entry) : isEvent "containment-audited" entry :=
  beq_iff_eq.mp (and_eq_true_iff.mp absent).1

theorem isLifecycle_of_containment (event : isEvent "containment-audited" entry) :
    IsLifecycle entry := by
  unfold IsLifecycle
  rw [event]
  decide

theorem pyStr_of_isText {spell : Json → String} {value : Json} (text : isText value = true) :
    pyStr spell value = value := by
  cases value with
  | str | sha256 => rfl
  | _ => cases text

theorem isText_of_uuid? {value : Json} (uuid : (uuid? value).isSome = true) : isText value = true := by
  obtain ⟨text, spelled⟩ := Option.isSome_iff_exists.mp uuid
  rw [(uuid?_eq_some spelled).1]
  rfl

section

variable {spell : Json → String} {view : View} {number : Nat} {entry : Json}

theorem effect_of_clean {event : String} (named : isEvent event entry)
    (other : event ≠ "certification-bound") (clean : (effect spell view number entry).errors = []) :
    effect spell view number entry =
      if event = "allocation-intent" then allocationIntentEffect spell view number entry
      else if event = "thread-bound" then threadBoundEffect spell view number entry
      else if event = "turn-intent" then turnIntentEffect spell view number entry
      else if event = "turn-bound" then turnBoundEffect spell view number entry
      else if ["interrupt-observed", "archive-observed", "containment-audited"].contains event then
        lifecycleEffect spell view number entry
      else ⟨[], []⟩ := by
  unfold effect at clean ⊢
  have isNot : entry.value "event" ≠ .str "certification-bound" := by
    rw [named]
    simpa using other
  rw [if_neg isNot] at clean ⊢
  by_cases ordinal : roleOrdinalValid entry = false
  · rw [if_pos ordinal] at clean
    cases clean
  · rw [if_neg ordinal, named]
    simp only [Json.str.injEq]
    congr

theorem allocationIntent_clean (event : isEvent "allocation-intent" entry)
    (clean : (effect spell view number entry).errors = []) :
    view.roleSeen (entry.value "role") = false ∧
      (uuid? (entry.value "allocation_intent_id")).isSome = true ∧
      (effect spell view number entry).updates = [.addAllocationIntent
        (entry.value "allocation_intent_id") (entry.value "role") entry] := by
  have unfolded := effect_of_clean event (by decide) clean
  rw [if_pos rfl] at unfolded
  rw [unfolded] at clean ⊢
  unfold allocationIntentEffect at clean ⊢
  dsimp only at clean ⊢
  split at clean
  · rename_i valid
    rw [if_pos valid]
    simp only [and_eq_true, not_eq_true'] at valid
    exact ⟨valid.1.1.2, valid.1.1.1.1, rfl⟩
  · cases clean

theorem threadBound_clean (event : isEvent "thread-bound" entry)
    (clean : (effect spell view number entry).errors = []) :
    (∃ intent, view.allocationIntent (pyStr spell (entry.value "allocation_intent_id")) =
        some intent ∧ intent.value "role" = entry.value "role") ∧
      isText (entry.value "thread_id") = true ∧
      (effect spell view number entry).updates =
        [.addThreadBinding (entry.value "thread_id") entry] := by
  have unfolded := effect_of_clean event (by decide) clean
  rw [if_neg (by decide), if_pos rfl] at unfolded
  rw [unfolded] at clean ⊢
  unfold threadBoundEffect at clean ⊢
  dsimp only at clean ⊢
  split at clean
  · rename_i valid
    rw [if_pos valid]
    simp only [and_eq_true] at valid
    obtain ⟨intent, found, same⟩ := (Option.any_eq_true _ _).mp valid.1.1.1.1
    have role := (and_eq_true_iff.mp same).1
    exact ⟨⟨intent, found, beq_iff_eq.mp role⟩, (and_eq_true_iff.mp valid.1.1.1.2).1, rfl⟩
  · cases clean

theorem turnIntent_clean (event : isEvent "turn-intent" entry)
    (clean : (effect spell view number entry).errors = []) :
    (∃ binding, view.threadBinding (pyStr spell (entry.value "thread_id")) = some binding ∧
        binding.value "role" = entry.value "role") ∧
      (uuid? (entry.value "turn_intent_id")).isSome = true ∧
      view.turnIntent (pyStr spell (entry.value "turn_intent_id")) = none ∧
      (effect spell view number entry).updates =
        [.addTurnIntent (entry.value "turn_intent_id") (pyStr spell (entry.value "thread_id"))
          entry] := by
  have unfolded := effect_of_clean event (by decide) clean
  rw [if_neg (by decide), if_neg (by decide), if_pos rfl] at unfolded
  rw [unfolded] at clean ⊢
  unfold turnIntentEffect at clean ⊢
  dsimp only at clean ⊢
  split at clean
  · rename_i valid
    rw [if_pos valid]
    simp only [and_eq_true, Option.isNone_iff_eq_none] at valid
    obtain ⟨binding, found, same⟩ := (Option.any_eq_true _ _).mp valid.1.1.1.1
    have role := (and_eq_true_iff.mp (and_eq_true_iff.mp same).1).1
    exact ⟨⟨binding, found, beq_iff_eq.mp role⟩, valid.1.1.1.2, valid.1.1.2, rfl⟩
  · cases clean

theorem turnBound_clean (event : isEvent "turn-bound" entry)
    (clean : (effect spell view number entry).errors = []) :
    (∃ intent, view.turnIntent (pyStr spell (entry.value "turn_intent_id")) = some intent ∧
        intent.value "thread_id" = pyStr spell (entry.value "thread_id")) ∧
      view.turnBound (entry.value "turn_id") = false ∧
      view.turnIntentResolved (pyStr spell (entry.value "turn_intent_id")) = false ∧
      (effect spell view number entry).updates =
        [.addBoundTurn (pyStr spell (entry.value "turn_intent_id")) (entry.value "turn_id")
          (pyStr spell (entry.value "thread_id"))] := by
  have unfolded := effect_of_clean event (by decide) clean
  rw [if_neg (by decide), if_neg (by decide), if_neg (by decide), if_pos rfl] at unfolded
  rw [unfolded] at clean ⊢
  unfold turnBoundEffect at clean ⊢
  dsimp only at clean ⊢
  split at clean
  · rename_i valid
    rw [if_pos valid]
    simp only [and_eq_true, not_eq_true'] at valid
    obtain ⟨intent, found, same⟩ := (Option.any_eq_true _ _).mp valid.1.1.1.1.1
    have thread := (and_eq_true_iff.mp same).1
    exact ⟨⟨intent, found, beq_iff_eq.mp thread⟩, valid.1.1.1.2, valid.1.1.2, rfl⟩
  · cases clean

/-- What a lifecycle entry with a text for its thread has found, and what it adds. -/
theorem lifecycle_clean (lifecycle : IsLifecycle entry)
    (text : isText (entry.value "thread_id") = true)
    (clean : (effect spell view number entry).errors = []) :
    (IsSuccess entry → view.successfulContainmentSeen (entry.value "thread_id") = false ∧
        view.lifecycleKindSeen (.str "archive-observed") (entry.value "thread_id") = true) ∧
      (IsAbsent entry →
        (∃ intent, view.turnIntent (pyStr spell (entry.value "turn_intent_id")) = some intent ∧
          (entry.value "turn_intent_id" ≠ .null →
            intent.value "thread_id" = entry.value "thread_id")) ∧
        view.turnIntentResolved (pyStr spell (entry.value "turn_intent_id")) = false) ∧
      (isEvent "containment-audited" entry → IsAbsent entry ∨ IsSuccess entry) ∧
      (effect spell view number entry).updates = (if isAbsence entry (entry.value "event") then
          [.resolveTurnIntent (pyStr spell (entry.value "turn_intent_id"))] else []) ++
        [.addLifecycle (entry.value "event") (entry.value "thread_id") (entry.value "outcome")] := by
  obtain ⟨event, member, named⟩ := isOneOf_eq_true lifecycle
  have unfolded : effect spell view number entry = lifecycleEffect spell view number entry := by
    rw [effect_of_clean named (by rintro rfl; simp at member) clean]
    simp only [mem_cons, not_mem_nil, or_false] at member
    rcases member with rfl | rfl | rfl <;> rfl
  rw [unfolded] at clean ⊢
  unfold lifecycleEffect at clean ⊢
  dsimp only at clean ⊢
  simp only [append_eq_nil_iff, reject_eq_nil, not_and, Bool.not_eq_false] at clean
  obtain ⟨⟨⟨⟨⟨⟨⟨⟨_, intends⟩, _⟩, _⟩, fresh⟩, resolves⟩, outcomes⟩, archived⟩, outcome⟩ := clean
  rw [pyStr_of_isText text] at fresh archived
  have outcomeText : isText (entry.value "outcome") = true := (and_eq_true_iff.mp outcome).1
  refine ⟨?_, ?_, ?_, ?_⟩
  · intro success
    exact ⟨Bool.eq_false_of_not_eq_true (fresh success), archived success⟩
  · intro absent
    have open' := resolves absent
    simp only [and_eq_true, Option.isSome_iff_exists, not_eq_true'] at open'
    obtain ⟨⟨⟨intent, found⟩, unresolved⟩, _⟩ := open'
    refine ⟨⟨intent, found, ?_⟩, unresolved⟩
    intro present
    obtain ⟨other, foundOther, same⟩ := (Option.any_eq_true _ _).mp (intends present)
    rw [found] at foundOther
    obtain rfl := Option.some.inj foundOther
    have thread := beq_iff_eq.mp (and_eq_true_iff.mp same).1
    rw [thread, pyStr_of_isText text]
  · intro audited
    exact Bool.or_eq_true_iff.mp (outcomes (beq_iff_eq.mpr audited))
  · rw [text, outcomeText]
    by_cases absent : isAbsence entry (entry.value "event") = true
    · have open' := resolves absent
      rw [absent]
      rw [open']
      rfl
    · rw [Bool.not_eq_true] at absent
      rw [absent]
      rfl

end

/-! ## What the answers say about the entries -/

/-- Fields that every caller takes from an index, and so are texts. -/
structure Texts (entry : Json) : Prop where
  allocation : isEvent "thread-bound" entry → isText (entry.value "allocation_intent_id") = true
  thread : isEvent "turn-intent" entry ∨ IsLifecycle entry → isText (entry.value "thread_id") = true

/-- The updates of an accepted entry, by its event. -/
inductive Adds (spell : Json → String) (entry : Json) : List Update → Prop where
  | allocationIntent (event : isEvent "allocation-intent" entry)
      (uuid : (uuid? (entry.value "allocation_intent_id")).isSome = true) :
      Adds spell entry [.addAllocationIntent (entry.value "allocation_intent_id")
        (entry.value "role") entry]
  | threadBound (event : isEvent "thread-bound" entry)
      (text : isText (entry.value "thread_id") = true) :
      Adds spell entry [.addThreadBinding (entry.value "thread_id") entry]
  | turnIntent (event : isEvent "turn-intent" entry)
      (uuid : (uuid? (entry.value "turn_intent_id")).isSome = true) :
      Adds spell entry [.addTurnIntent (entry.value "turn_intent_id") (entry.value "thread_id") entry]
  | turnBound (event : isEvent "turn-bound" entry) :
      Adds spell entry [.addBoundTurn (pyStr spell (entry.value "turn_intent_id"))
        (entry.value "turn_id") (pyStr spell (entry.value "thread_id"))]
  | lifecycle (lifecycle : IsLifecycle entry) :
      Adds spell entry ((if isAbsence entry (entry.value "event") then
          [.resolveTurnIntent (pyStr spell (entry.value "turn_intent_id"))] else []) ++
        [.addLifecycle (entry.value "event") (entry.value "thread_id") (entry.value "outcome")])
  | certification (event : isEvent "certification-bound" entry) :
      Adds spell entry [.incrementCertification]

section

variable {spell : Json → String} {view : View} {number : Nat} {entry : Json}

theorem adds_of_clean (texts : Texts entry) (named : isOneOf events (entry.value "event") = true)
    (clean : (effect spell view number entry).errors = []) :
    Adds spell entry (effect spell view number entry).updates := by
  obtain ⟨event, member, same⟩ := isOneOf_eq_true named
  have lifecycle (inside : IsLifecycle entry) :
      Adds spell entry (effect spell view number entry).updates := by
    rw [(lifecycle_clean inside (texts.thread (.inr inside)) clean).2.2.2]
    exact .lifecycle inside
  simp only [events, mem_cons, not_mem_nil, or_false] at member
  rcases member with rfl | rfl | rfl | rfl | rfl | rfl | rfl | rfl
  · obtain ⟨_, uuid, updates⟩ := allocationIntent_clean same clean
    rw [updates]
    exact .allocationIntent same uuid
  · obtain ⟨_, text, updates⟩ := threadBound_clean same clean
    rw [updates]
    exact .threadBound same text
  · obtain ⟨_, uuid, _, updates⟩ := turnIntent_clean same clean
    rw [updates, pyStr_of_isText (texts.thread (.inl same))]
    exact .turnIntent same uuid
  · rw [(turnBound_clean same clean).2.2.2]
    exact .turnBound same
  · exact lifecycle (by unfold IsLifecycle; rw [same]; decide)
  · exact lifecycle (by unfold IsLifecycle; rw [same]; decide)
  · exact lifecycle (by unfold IsLifecycle; rw [same]; decide)
  · have updates : (effect spell view number entry).updates = [.incrementCertification] := by
      unfold effect
      rw [if_pos same]
      rfl
    rw [updates]
    exact .certification same

end

/-- Answers that say at least as much. -/
structure Grows (before after : View) : Prop where
  roleSeen : ∀ role, before.roleSeen role = true → after.roleSeen role = true
  latestTurnIntentId : ∀ id, before.latestTurnIntentId id ≠ none → after.latestTurnIntentId id ≠ none
  turnBound : ∀ id, before.turnBound id = true → after.turnBound id = true
  turnIntentResolved : ∀ id, before.turnIntentResolved id = true → after.turnIntentResolved id = true
  lifecycleSeen : ∀ event thread outcome, before.lifecycleSeen event thread outcome = true →
    after.lifecycleSeen event thread outcome = true
  certificationCount : before.certificationCount ≤ after.certificationCount

theorem Grows.refl (view : View) : Grows view view :=
  ⟨fun _ => id, fun _ => id, fun _ => id, fun _ => id, fun _ _ _ => id, le_rfl⟩

theorem Grows.trans {first second third : View} (one : Grows first second)
    (other : Grows second third) : Grows first third :=
  ⟨fun _ seen => other.roleSeen _ (one.roleSeen _ seen),
    fun _ seen => other.latestTurnIntentId _ (one.latestTurnIntentId _ seen),
    fun _ seen => other.turnBound _ (one.turnBound _ seen),
    fun _ seen => other.turnIntentResolved _ (one.turnIntentResolved _ seen),
    fun _ _ _ seen => other.lifecycleSeen _ _ _ (one.lifecycleSeen _ _ _ seen),
    le_trans one.certificationCount other.certificationCount⟩

theorem grows_update (view : View) (change : Update) : Grows view (view.update change) := by
  cases change with
  | addTurnIntent turnIntentId threadId entry =>
    refine ⟨fun _ => id, ?_, fun _ => id, fun _ => id, fun _ _ _ => id, le_rfl⟩
    intro id seen
    by_cases same : threadId = id
    · simp [View.update, same]
    · simpa [View.update, same] using seen
  | _ =>
    constructor
    all_goals simp +contextual [View.update]

theorem grows_updates (view : View) (changes : List Update) : Grows view (view.updates changes) := by
  induction changes generalizing view with
  | nil => exact .refl view
  | cons change rest ih => exact (grows_update view change).trans (ih _)

/-- The answers of an index are those of the entries that it has indexed. -/
structure Records (spell : Json → String) (entries : List Json) (view : View) : Prop where
  roleSeen : ∀ entry ∈ entries, isEvent "allocation-intent" entry →
    view.roleSeen (entry.value "role") = true
  allocationIntent : ∀ id intent, view.allocationIntent id = some intent →
    intent ∈ entries ∧ isEvent "allocation-intent" intent ∧
      intent.value "allocation_intent_id" = id ∧ isText id = true
  threadBinding : ∀ id binding, view.threadBinding id = some binding →
    binding ∈ entries ∧ isEvent "thread-bound" binding ∧ binding.value "thread_id" = id ∧
      isText id = true
  turnIntent : ∀ id intent, view.turnIntent id = some intent →
    intent ∈ entries ∧ isEvent "turn-intent" intent ∧ intent.value "turn_intent_id" = id ∧
      (uuid? id).isSome = true
  latestTurnIntentId : ∀ entry ∈ entries, isEvent "turn-intent" entry →
    view.latestTurnIntentId (entry.value "thread_id") ≠ none
  latestPresent : ∀ threadId, view.latestTurnIntentId threadId ≠ some .null
  turnBound : ∀ entry ∈ entries, isEvent "turn-bound" entry →
    view.turnBound (entry.value "turn_id") = true
  resolved : ∀ entry ∈ entries, isEvent "turn-bound" entry ∨ IsAbsent entry →
    view.turnIntentResolved (pyStr spell (entry.value "turn_intent_id")) = true
  lifecycleSeen : ∀ entry ∈ entries, IsLifecycle entry →
    view.lifecycleSeen (entry.value "event") (entry.value "thread_id") (entry.value "outcome") = true
  archived : ∀ threadId, view.lifecycleKindSeen (.str "archive-observed") threadId = true →
    ∃ entry ∈ entries, isEvent "archive-observed" entry ∧ entry.value "thread_id" = threadId
  certificationCount : ∀ entry ∈ entries, isEvent "certification-bound" entry →
    1 ≤ view.certificationCount

theorem isEvent_unique {first second : String} (one : isEvent first entry)
    (other : isEvent second entry) : first = second :=
  Json.str.inj (one.symm.trans other)

theorem isLifecycle_events (lifecycle : IsLifecycle entry) {event : String}
    (named : isEvent event entry) :
    event ∈ ["interrupt-observed", "archive-observed", "containment-audited"] := by
  unfold IsLifecycle at lifecycle
  rw [named] at lifecycle
  simpa [isOneOf] using lifecycle

section

variable {spell : Json → String}

theorem records_nil : Records spell [] (SemanticIndex.mk .empty).view := by
  constructor
  all_goals simp [SemanticIndex.view, Tables.empty, lookup]

/-- The answers after an accepted entry are those of the entries with it. -/
theorem Records.snoc {view : View} {entry : Json} {changes : List Update}
    (records : Records spell entries view) (adds : Adds spell entry changes) :
    Records spell (entries ++ [entry]) (view.updates changes) := by
  have grows := grows_updates view changes
  have old {motive : Json → Prop} (before : ∀ other ∈ entries, motive other) (new : motive entry) :
      ∀ other ∈ entries ++ [entry], motive other := by
    intro other member
    rcases mem_append.mp member with inside | last
    · exact before other inside
    · rw [mem_singleton.mp last]
      exact new
  constructor
  · refine old (fun other inside event => grows.roleSeen _ (records.roleSeen other inside event)) ?_
    intro event
    cases adds with
    | allocationIntent => simp [View.updates, View.update]
    | threadBound other | turnIntent other | turnBound other | certification other =>
      exact absurd (isEvent_unique event other) (by decide)
    | lifecycle other => exact absurd (isLifecycle_events other event) (by decide)
  · intro id intent found
    have kept (old : view.allocationIntent id = some intent) :=
      (records.allocationIntent id intent old).imp_left (mem_append_left [entry])
    cases adds with
    | allocationIntent event uuid =>
      simp only [View.updates, foldl_cons, foldl_nil, View.update] at found
      split at found
      · rename_i same
        obtain rfl := Option.some.inj found
        have text := isText_of_uuid? uuid
        rw [same] at text
        exact ⟨mem_append_right _ (mem_singleton_self _), event, same, text⟩
      · exact kept found
    | lifecycle _ =>
      apply kept
      revert found
      split <;> exact fun found => found
    | _ => exact kept found
  · intro id binding found
    have kept (old : view.threadBinding id = some binding) :=
      (records.threadBinding id binding old).imp_left (mem_append_left [entry])
    cases adds with
    | threadBound event text =>
      simp only [View.updates, foldl_cons, foldl_nil, View.update] at found
      split at found
      · rename_i same
        obtain rfl := Option.some.inj found
        rw [same] at text
        exact ⟨mem_append_right _ (mem_singleton_self _), event, same, text⟩
      · exact kept found
    | lifecycle _ =>
      apply kept
      revert found
      split <;> exact fun found => found
    | _ => exact kept found
  · intro id intent found
    have kept (old : view.turnIntent id = some intent) :=
      (records.turnIntent id intent old).imp_left (mem_append_left [entry])
    cases adds with
    | turnIntent event uuid =>
      simp only [View.updates, foldl_cons, foldl_nil, View.update] at found
      split at found
      · rename_i same
        obtain rfl := Option.some.inj found
        rw [same] at uuid
        exact ⟨mem_append_right _ (mem_singleton_self _), event, same, uuid⟩
      · exact kept found
    | lifecycle _ =>
      apply kept
      revert found
      split <;> exact fun found => found
    | _ => exact kept found
  · refine old (fun other inside event =>
      grows.latestTurnIntentId _ (records.latestTurnIntentId other inside event)) ?_
    intro event
    cases adds with
    | turnIntent => simp [View.updates, View.update]
    | allocationIntent other | threadBound other | turnBound other | certification other =>
      exact absurd (isEvent_unique event other) (by decide)
    | lifecycle other => exact absurd (isLifecycle_events other event) (by decide)
  · intro threadId latest
    cases adds with
    | turnIntent _ uuid =>
      simp only [View.updates, foldl_cons, foldl_nil, View.update] at latest
      split at latest
      · rw [Option.some.inj latest] at uuid
        cases uuid
      · exact records.latestPresent threadId latest
    | lifecycle _ =>
      apply records.latestPresent threadId
      revert latest
      split <;> exact fun latest => latest
    | _ => exact records.latestPresent threadId latest
  · refine old (fun other inside event => grows.turnBound _ (records.turnBound other inside event)) ?_
    intro event
    cases adds with
    | turnBound => simp [View.updates, View.update]
    | allocationIntent other | threadBound other | turnIntent other | certification other =>
      exact absurd (isEvent_unique event other) (by decide)
    | lifecycle other => exact absurd (isLifecycle_events other event) (by decide)
  · refine old (fun other inside event =>
      grows.turnIntentResolved _ (records.resolved other inside event)) ?_
    intro event
    have isNot {name : String} (named : isEvent name entry) (apart : name ≠ "turn-bound")
        (distinct : name ≠ "containment-audited") : False := by
      rcases event with bound | absent
      · exact apart (isEvent_unique named bound)
      · exact distinct (isEvent_unique named absent.event)
    cases adds with
    | turnBound => simp [View.updates, View.update]
    | allocationIntent other | threadBound other | turnIntent other | certification other =>
      exact (isNot other (by decide) (by decide)).elim
    | lifecycle other =>
      have absent : IsAbsent entry := event.resolve_left fun bound =>
        absurd (isLifecycle_events other bound) (by decide)
      have resolves : isAbsence entry (entry.value "event") = true := absent
      rw [if_pos resolves]
      simp [View.updates, View.update]
  · refine old (fun other inside event =>
      grows.lifecycleSeen _ _ _ (records.lifecycleSeen other inside event)) ?_
    intro lifecycle
    cases adds with
    | lifecycle =>
      rw [View.updates]
      simp [View.update]
    | allocationIntent other | threadBound other | turnIntent other | turnBound other
    | certification other => exact absurd (isLifecycle_events lifecycle other) (by decide)
  · intro threadId seen
    have kept (old : view.lifecycleKindSeen (.str "archive-observed") threadId = true) :=
      (records.archived threadId old).imp fun _ found => found.imp_left (mem_append_left [entry])
    cases adds with
    | lifecycle _ =>
      have parts : (.str "archive-observed" = entry.value "event" ∧
          threadId = entry.value "thread_id") ∨
          view.lifecycleKindSeen (.str "archive-observed") threadId = true := by
        rw [View.updates] at seen
        revert seen
        split <;> simp [View.update]
      rcases parts with ⟨event, thread⟩ | before
      · exact ⟨entry, mem_append_right _ (mem_singleton_self _), event.symm, thread.symm⟩
      · exact kept before
    | _ => exact kept seen
  · refine old (fun other inside event =>
      le_trans (records.certificationCount other inside event) grows.certificationCount) ?_
    intro event
    cases adds with
    | certification => simp [View.updates, View.update]
    | allocationIntent other | threadBound other | turnIntent other | turnBound other =>
      exact absurd (isEvent_unique event other) (by decide)
    | lifecycle other => exact absurd (isLifecycle_events other event) (by decide)

end

/-! ## Uniqueness -/

def AtMostOne (property : Json → Prop) (entries : List Json) : Prop :=
  entries.Pairwise fun earlier later => ¬ (property earlier ∧ property later)

theorem atMostOne_snoc {property : Json → Prop} (before : AtMostOne property entries)
    (first : property entry → ∀ other ∈ entries, ¬ property other) :
    AtMostOne property (entries ++ [entry]) := by
  refine pairwise_append.mpr ⟨before, pairwise_singleton _ _, ?_⟩
  intro other member last same both
  rw [mem_singleton.mp same] at both
  exact first both.2 other member both.1

theorem AtMostOne.eq {property : Json → Prop} (unique : AtMostOne property entries)
    {first second : Json} (one : first ∈ entries)
    (other : second ∈ entries) (has : property first) (hasOther : property second) :
    first = second := by
  by_contra apart
  have symmetric : ∀ left right : Json, ¬ (property left ∧ property right) →
      ¬ (property right ∧ property left) := fun _ _ fails both => fails both.symm
  have : Std.Symm fun left right : Json => ¬ (property left ∧ property right) := ⟨symmetric⟩
  exact List.Pairwise.forall unique one other apart ⟨has, hasOther⟩

structure Unique (entries : List Json) : Prop where
  intentOfRole : ∀ role, AtMostOne (fun entry =>
    isEvent "allocation-intent" entry ∧ entry.value "role" = role) entries
  threadOfIntent : ∀ id, AtMostOne (fun entry =>
    isEvent "thread-bound" entry ∧ entry.value "allocation_intent_id" = id) entries
  turnIntentOfThread : ∀ id, AtMostOne (fun entry =>
    isEvent "turn-intent" entry ∧ entry.value "thread_id" = id) entries
  threadOfRole : ∀ role, AtMostOne (fun entry =>
    isEvent "thread-bound" entry ∧ entry.value "role" = role) entries
  turnIntentOfRole : ∀ role, AtMostOne (fun entry =>
    isEvent "turn-intent" entry ∧ entry.value "role" = role) entries
  resolutionOfIntent : ∀ id, AtMostOne (fun entry =>
    (isEvent "turn-bound" entry ∨ IsAbsent entry) ∧ entry.value "turn_intent_id" = id) entries
  bindingOfTurn : ∀ id, AtMostOne (fun entry =>
    isEvent "turn-bound" entry ∧ entry.value "turn_id" = id) entries
  lifecycleOnce : ∀ event threadId outcome, AtMostOne (fun entry =>
    IsLifecycle entry ∧ entry.value "event" = event ∧ entry.value "thread_id" = threadId ∧
      entry.value "outcome" = outcome) entries
  successOfThread : ∀ id, AtMostOne (fun entry =>
    IsSuccess entry ∧ entry.value "thread_id" = id) entries
  archivedFirst : ∀ front entry back, entries = front ++ entry :: back → IsSuccess entry →
    ∃ earlier ∈ front, isEvent "archive-observed" earlier ∧
      earlier.value "thread_id" = entry.value "thread_id"
  certification : AtMostOne (isEvent "certification-bound") entries

/-- Every binding, turn intent and absence points to an earlier entry with its role or thread. -/
structure Linked (spell : Json → String) (entries : List Json) : Prop where
  thread : ∀ entry ∈ entries, isEvent "thread-bound" entry → ∃ intent ∈ entries,
    isEvent "allocation-intent" intent ∧
      intent.value "allocation_intent_id" = entry.value "allocation_intent_id" ∧
      intent.value "role" = entry.value "role"
  turnIntent : ∀ entry ∈ entries, isEvent "turn-intent" entry → ∃ binding ∈ entries,
    isEvent "thread-bound" binding ∧ binding.value "thread_id" = entry.value "thread_id" ∧
      binding.value "role" = entry.value "role"
  absence : ∀ entry ∈ entries, IsAbsent entry → ∃ intent ∈ entries, isEvent "turn-intent" intent ∧
      intent.value "turn_intent_id" = pyStr spell (entry.value "turn_intent_id") ∧
      intent.value "thread_id" = entry.value "thread_id"

/-- What the sections before an append have to have left undone. -/
structure Undone (entries : List Json) (entry : Json) : Prop where
  thread : isEvent "thread-bound" entry → ∀ other ∈ entries, isEvent "thread-bound" other →
    other.value "allocation_intent_id" ≠ entry.value "allocation_intent_id"
  turnIntent : isEvent "turn-intent" entry → ∀ other ∈ entries, isEvent "turn-intent" other →
    other.value "thread_id" ≠ entry.value "thread_id"
  lifecycle : isEvent "interrupt-observed" entry ∨ isEvent "archive-observed" entry →
    ∀ other ∈ entries, other.value "event" = entry.value "event" →
      other.value "thread_id" = entry.value "thread_id" →
      other.value "outcome" ≠ entry.value "outcome"

variable {spell : Json → String} {entries : List Json} {view : View} {number : Nat} {entry : Json}

theorem linked_snoc (records : Records spell entries view) (linked : Linked spell entries)
    (texts : Texts entry) (clean : (effect spell view number entry).errors = []) :
    Linked spell (entries ++ [entry]) := by
  have weaken {target : Json → Prop} (found : ∃ other ∈ entries, target other) :
      ∃ other ∈ entries ++ [entry], target other := by
    obtain ⟨other, inside, rest⟩ := found
    exact ⟨other, mem_append_left _ inside, rest⟩
  constructor
  · intro other member event
    rcases mem_append.mp member with inside | last
    · exact weaken (linked.thread other inside event)
    · rw [mem_singleton.mp last] at event ⊢
      obtain ⟨⟨intent, found, role⟩, _⟩ := threadBound_clean event clean
      rw [pyStr_of_isText (texts.allocation event)] at found
      obtain ⟨inside, intends, same, _⟩ := records.allocationIntent _ _ found
      exact weaken ⟨intent, inside, intends, same, role⟩
  · intro other member event
    rcases mem_append.mp member with inside | last
    · exact weaken (linked.turnIntent other inside event)
    · rw [mem_singleton.mp last] at event ⊢
      obtain ⟨⟨binding, found, role⟩, _⟩ := turnIntent_clean event clean
      rw [pyStr_of_isText (texts.thread (.inl event))] at found
      obtain ⟨inside, binds, same, _⟩ := records.threadBinding _ _ found
      exact weaken ⟨binding, inside, binds, same, role⟩
  · intro other member absent
    rcases mem_append.mp member with inside | last
    · exact weaken (linked.absence other inside absent)
    · rw [mem_singleton.mp last] at absent ⊢
      have lifecycle := isLifecycle_of_containment absent.event
      obtain ⟨_, resolves, _⟩ := lifecycle_clean lifecycle (texts.thread (.inr lifecycle)) clean
      obtain ⟨⟨intent, found, thread⟩, _⟩ := resolves absent
      obtain ⟨inside, intends, same, uuid⟩ := records.turnIntent _ _ found
      have present : entry.value "turn_intent_id" ≠ .null := by
        intro missing
        rw [missing] at uuid
        cases uuid
      exact weaken ⟨intent, inside, intends, same, thread present⟩

theorem AtMostOne.of_key {property target : Json → Prop} {key : Json → Json}
    (each : ∀ value, AtMostOne (fun entry => property entry ∧ key entry = value) entries)
    (same : ∀ first ∈ entries, ∀ second ∈ entries, target first → target second →
      property first ∧ property second ∧ key first = key second) : AtMostOne target entries := by
  refine pairwise_iff_getElem.mpr fun i j iBound jBound less both => ?_
  obtain ⟨has, hasOther, equal⟩ := same _ (getElem_mem iBound) _ (getElem_mem jBound) both.1 both.2
  exact pairwise_iff_getElem.mp (each (key entries[i])) i j iBound jBound less
    ⟨⟨has, rfl⟩, hasOther, equal.symm⟩

/-- One more entry keeps everything unique that the earlier sections have left undone. -/
theorem Unique.snoc (unique : Unique entries) (records : Records spell entries view)
    (linked : Linked spell entries) (texts : Texts entry) (undone : Undone entries entry)
    (clean : (effect spell view number entry).errors = [])
    (certification : (view.updates (effect spell view number entry).updates).certificationCount ≤ 1) :
    Unique (entries ++ [entry]) := by
  have links := linked_snoc records linked texts clean
  have lifecycleText (lifecycle : IsLifecycle entry) :=
    lifecycle_clean lifecycle (texts.thread (.inr lifecycle)) clean
  have resolutions : ∀ id, AtMostOne (fun entry => (isEvent "turn-bound" entry ∨ IsAbsent entry) ∧
      entry.value "turn_intent_id" = id) (entries ++ [entry]) := by
    intro id
    refine atMostOne_snoc (unique.resolutionOfIntent id) ?_
    rintro ⟨resolves, same⟩ other inside ⟨resolvesOther, sameOther⟩
    have seen := records.resolved other inside resolvesOther
    rw [sameOther, ← same] at seen
    rcases resolves with bound | absent
    · rw [(turnBound_clean bound clean).2.2.1] at seen
      cases seen
    · rw [((lifecycleText (isLifecycle_of_containment absent.event)).2.1 absent).2] at seen
      cases seen
  have intents : ∀ role, AtMostOne (fun entry => isEvent "allocation-intent" entry ∧
      entry.value "role" = role) (entries ++ [entry]) := by
    intro role
    refine atMostOne_snoc (unique.intentOfRole role) ?_
    rintro ⟨event, rfl⟩ other inside ⟨eventOther, same⟩
    have seen := records.roleSeen other inside eventOther
    rw [same, (allocationIntent_clean event clean).1] at seen
    cases seen
  have threads : ∀ id, AtMostOne (fun entry => isEvent "thread-bound" entry ∧
      entry.value "allocation_intent_id" = id) (entries ++ [entry]) := by
    intro id
    refine atMostOne_snoc (unique.threadOfIntent id) ?_
    rintro ⟨event, rfl⟩ other inside ⟨eventOther, same⟩
    exact undone.thread event other inside eventOther same
  have turns : ∀ id, AtMostOne (fun entry => isEvent "turn-intent" entry ∧
      entry.value "thread_id" = id) (entries ++ [entry]) := by
    intro id
    refine atMostOne_snoc (unique.turnIntentOfThread id) ?_
    rintro ⟨event, rfl⟩ other inside ⟨eventOther, same⟩
    exact undone.turnIntent event other inside eventOther same
  have threadsOfRole : ∀ role, AtMostOne (fun entry => isEvent "thread-bound" entry ∧
      entry.value "role" = role) (entries ++ [entry]) := by
    intro role
    refine AtMostOne.of_key threads fun first one second other hasFirst hasSecond => ?_
    obtain ⟨intent, inside, event, id, sameRole⟩ := links.thread first one hasFirst.1
    obtain ⟨intent', inside', event', id', sameRole'⟩ := links.thread second other hasSecond.1
    have equal := (intents role).eq inside inside' ⟨event, sameRole.trans hasFirst.2⟩
      ⟨event', sameRole'.trans hasSecond.2⟩
    exact ⟨hasFirst.1, hasSecond.1, by rw [← id, ← id', equal]⟩
  have successes : ∀ id, AtMostOne (fun entry => IsSuccess entry ∧ entry.value "thread_id" = id)
      (entries ++ [entry]) := by
    intro id
    refine atMostOne_snoc (unique.successOfThread id) ?_
    rintro ⟨success, rfl⟩ other inside ⟨successOther, same⟩
    have fresh := ((lifecycleText (isLifecycle_of_containment success.event)).1 success).1
    have seen := records.lifecycleSeen other inside (isLifecycle_of_containment successOther.event)
    obtain ⟨outcome, member, named⟩ := isOneOf_eq_true (and_eq_true_iff.mp successOther).2
    rw [successOther.event, same, named] at seen
    unfold View.successfulContainmentSeen at fresh
    simp only [Bool.or_eq_false_iff] at fresh
    simp only [mem_cons, not_mem_nil, or_false] at member
    rcases member with rfl | rfl
    · rw [fresh.1] at seen
      cases seen
    · rw [fresh.2] at seen
      cases seen
  refine ⟨intents, threads, turns, threadsOfRole, ?_, resolutions, ?_, ?_, successes, ?_, ?_⟩
  · intro role
    refine AtMostOne.of_key turns fun first one second other hasFirst hasSecond => ?_
    obtain ⟨binding, inside, event, id, sameRole⟩ := links.turnIntent first one hasFirst.1
    obtain ⟨binding', inside', event', id', sameRole'⟩ := links.turnIntent second other hasSecond.1
    have equal := (threadsOfRole role).eq inside inside' ⟨event, sameRole.trans hasFirst.2⟩
      ⟨event', sameRole'.trans hasSecond.2⟩
    exact ⟨hasFirst.1, hasSecond.1, by rw [← id, ← id', equal]⟩
  · intro id
    refine atMostOne_snoc (unique.bindingOfTurn id) ?_
    rintro ⟨event, rfl⟩ other inside ⟨eventOther, same⟩
    have seen := records.turnBound other inside eventOther
    rw [same, (turnBound_clean event clean).2.1] at seen
    cases seen
  · intro event threadId outcome
    refine atMostOne_snoc (unique.lifecycleOnce event threadId outcome) ?_
    rintro ⟨lifecycle, rfl, rfl, rfl⟩ other inside ⟨lifecycleOther, sameEvent, sameThread, sameOutcome⟩
    obtain ⟨name, member, named⟩ := isOneOf_eq_true lifecycle
    simp only [mem_cons, not_mem_nil, or_false] at member
    rcases member with rfl | rfl | rfl
    · exact undone.lifecycle (.inl named) other inside sameEvent sameThread sameOutcome
    · exact undone.lifecycle (.inr named) other inside sameEvent sameThread sameOutcome
    · rcases (lifecycleText lifecycle).2.2.1 named with absent | success
      · have absentOther : IsAbsent other := by
          unfold IsAbsent isAbsence at absent ⊢
          rw [sameEvent, sameOutcome]
          exact absent
        obtain ⟨intent, insideIntent, intends, id, thread⟩ := links.absence entry
          (mem_append_right _ (mem_singleton_self _)) absent
        obtain ⟨intent', insideIntent', intends', id', thread'⟩ := links.absence other
          (mem_append_left _ inside) absentOther
        have equal := (turns (entry.value "thread_id")).eq insideIntent insideIntent'
          ⟨intends, thread⟩ ⟨intends', thread'.trans sameThread⟩
        have seen := records.resolved other inside (.inr absentOther)
        rw [← id', ← equal, id, ((lifecycleText lifecycle).2.1 absent).2] at seen
        cases seen
      · have successOther : IsSuccess other := by
          unfold IsSuccess isContainment at success ⊢
          rw [sameEvent, sameOutcome]
          exact success
        have pair := pairwise_append.mp (successes (entry.value "thread_id"))
        exact pair.2.2 other inside entry (mem_singleton_self _)
          ⟨⟨successOther, sameThread⟩, success, rfl⟩
  · intro front found back split success
    rcases eq_nil_or_concat back with rfl | ⟨rest, last, rfl⟩
    · obtain ⟨rfl, same⟩ := append_inj' split rfl
      obtain rfl := singleton_inj.mp same
      exact records.archived _
        ((lifecycleText (isLifecycle_of_containment success.event)).1 success).2
    · rw [concat_eq_append, ← cons_append, ← append_assoc] at split
      obtain ⟨before, _⟩ := append_inj' split rfl
      exact unique.archivedFirst front found rest before success
  · refine atMostOne_snoc unique.certification ?_
    intro event other inside eventOther
    have counted := records.certificationCount other inside eventOther
    have updates : (effect spell view number entry).updates = [.incrementCertification] := by
      have named : entry.value "event" = .str "certification-bound" := event
      unfold effect
      rw [if_pos named]
      rfl
    rw [updates] at certification
    simp only [View.updates, foldl_cons, foldl_nil, View.update] at certification
    omega

end WorkOrchestration.Native.LiveLedger
