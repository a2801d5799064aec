import WorkOrchestration.Native.PoolControl

/-!
# Pool-wide fault codes

When the evidence of a child puts the whole pool under a fault.  The coordinator
looks at the first reason of the evidence only, and not at all at the evidence of
a child that it has contained before.
-/

namespace WorkOrchestration.Native.PoolWideFaults

open List Lib.Programs Lib.Text Artifacts PoolContracts
open PoolLeases (Lease)
open Pool Coordinator

variable {setup : Setup} {world : World}

/-- Reading the evidence latched a pool-wide fault exactly when it should by `Latches`. -/
def Judged (setup : Setup) (world : World) : Event → Prop
  | .judged tick before childId evidence after =>
    after.protectedFault = true ↔ Latches setup world tick before childId evidence
  | _ => True

def AllJudged (setup : Setup) (world : World) (coord : Coord) : Prop :=
  ∀ event ∈ coord.history, Judged setup world event

theorem allJudged_of_history {before after : Coord} (holds : AllJudged setup world before)
    (events : after.history = before.history ∨
      ∃ event, after.history = event :: before.history ∧ Judged setup world event) :
    AllJudged setup world after := by
  intro event member
  rcases events with same | ⟨added, same, judged⟩
  · exact holds event (same ▸ member)
  · rw [same] at member
    rcases mem_cons.mp member with rfl | earlier
    · exact judged
    · exact holds event earlier

theorem allJudged_move : Closed (Move setup world) (AllJudged setup world) := by
  intro before after holds moves
  refine allJudged_of_history holds ?_
  cases moves with
  | faulted | contained | absorbed | compared => exact .inr ⟨_, rfl, trivial⟩
  | judged tick core childId evidence latched => exact .inr ⟨_, rfl, latched⟩
  | _ => exact .inl rfl

theorem allJudged_served {coord after : Coord} {childId : Name} {poll : Bool} {turn : Control.Turn}
    {escaped : Option PyError} {events : List Event} {callback : Option Control.Callback}
    {core : Core} (holds : AllJudged setup world coord)
    (serving : Serving childId (entry setup childId poll (coord.core.slots childId)) (turn, escaped)
      events callback)
    (sees : Sees core (events ++ coord.history) after) : AllJudged setup world after := by
  refine allJudged_of_history holds ?_
  rw [sees.2]
  rcases serving.events with rfl | ⟨call, reply, _, rfl, _⟩
  · exact .inl rfl
  · exact .inr ⟨_, rfl, trivial⟩

theorem allJudged_carried : Carried setup world (AllJudged setup world) (AllJudged setup world)
      (AllJudged setup world) where
  wakes _ holds := holds
  fails _ holds := holds
  restAside _ _ holds aside := allJudged_of_history holds (.inl aside.2)
  busyAside _ _ holds aside := allJudged_of_history holds (.inl aside.2)
  moves := allJudged_move
  cursor _ _ _ _ holds _ := holds
  invokes childId poll := by
    refine triple_invokeChild (fun _ _ holds aside => allJudged_of_history holds (.inl aside.2))
      (fun _ => id) ?_ allJudged_move ?_
    · intro coord turn escaped events callback holds _ serving after sees
      exact allJudged_served holds serving sees
    · intro coord turn events callback holds _ serving after sees
      exact allJudged_served holds serving sees
  sealFails _ _ _ _ holds _ _ := allJudged_of_history holds (.inr ⟨_, rfl, trivial⟩)
  sealRests _ _ _ _ holds _ _ _ := allJudged_of_history holds (.inr ⟨_, rfl, trivial⟩)
  assembles _ _ holds _ _ := allJudged_of_history holds (.inr ⟨_, rfl, trivial⟩)
  receives _ _ holds _ _ := allJudged_of_history holds (.inr ⟨_, rfl, trivial⟩)

theorem allJudged_start {registry : List Lease} {coord : Coord}
    (constructed : start setup world registry = .ok coord) : AllJudged setup world coord := by
  obtain ⟨startedNs, evidence, _, _, _, rfl⟩ := start_eq constructed
  intro event member
  rw [mem_singleton.mp member]
  trivial

/-- The circumstances under which a pool-wide code does not escape containment. -/
def Escalating (setup : Setup) (world : World) (tick : Nat) (before : Core) (childId : Name)
    (evidence : ChildEvidence) : Prop :=
  before.protectedFault = true ∨ Exhausts setup before childId evidence ∨
    evidence.controlLoss = true ∨
    (if (before.slots childId).classified then (before.slots childId).contained = false
    else
      evidence.failureClass ≠ some .individualChildFailure ∨
        isPoolWide (evidence.reasons.head?.getD "reason-unavailable") = true ∨
        RefusesRecovery setup world tick childId evidence ∨
        before.refusesContainment childId (protectedFaultReason evidence) = true)

theorem isTypeOrValue_of_usageDelta {previous current : Accounting.Usage} {error : PyError}
    (raised : Accounting.usageDelta previous current = .error error) :
    PyError.isTypeOrValue error = true := by
  unfold Accounting.usageDelta at raised
  -- the token fields are split off first, since both ways through the counters lead to them
  split at raised
  · dsimp only at raised
    split at raised
    · cases raised
      rfl
    · split at raised
      · cases raised
        rfl
      · cases raised
  · dsimp only at raised
    split at raised
    · cases raised
      rfl
    · cases raised
  · dsimp only at raised
    split at raised
    · cases raised
      rfl
    · cases raised
      rfl

/-- What the ledger raises is one of the exceptions that are caught where evidence is read. -/
theorem isTypeOrValue_of_observe {ledger : Accounting.Ledger} {childId : Name} {stateSha256 : Digest}
    {sequence : Nat} {usage : Accounting.Usage} {error : PyError}
    (refused : ledger.observe childId stateSha256 sequence usage = .error error) :
    PyError.isTypeOrValue error = true := by
  unfold Accounting.Ledger.observe at refused
  split at refused
  · cases refused
    rfl
  · split at refused
    · rename_i raised
      cases refused
      exact isTypeOrValue_of_usageDelta raised
    · cases refused

/-- Evidence that the ledger refuses puts the pool under a fault. -/
theorem latches_refused {coord : Coord} {childId : Name} {value : Json} {evidence : ChildEvidence}
    {error : PyError} (answered : world.evidence coord.tick childId = .returned value)
    (normalized : normalizeChildEvidence value = .ok evidence)
    (refused : coord.core.ledger.observe childId evidence.stateSha256
      (coord.core.state.stateSequence + 1) evidence.usage = .error error) :
    ∃ after, readEvidence setup world childId coord = .ok () after ∧
      after.core.protectedFault = true := by
  have observed : observation coord.core childId (.returned value) = .error error := by
    change (normalizeChildEvidence value >>= _) = _
    rw [normalized]
    change (coord.core.ledger.observe childId evidence.stateSha256 _ evidence.usage >>= _) = _
    rw [refused]
    rfl
  refine ⟨{ coord with
    tick := coord.tick + 1
    core := coord.core.enterFault setup
      { reason := (⟨"child-evidence-failed:", by decide⟩ : Name).append error.describe
        controlFailed := true
        affectedChildId := some childId }
    history := .faulted coord.core
      { reason := (⟨"child-evidence-failed:", by decide⟩ : Name).append error.describe
        controlFailed := true
        affectedChildId := some childId } :: coord.history }, ?_, ?_⟩
  · have asked : (ask fun tick => world.evidence tick childId) coord =
        .ok (.returned value) { coord with tick := coord.tick + 1 } := answered ▸ rfl
    refine (ran_bind asked).trans ?_
    refine (ran_bind (show (get : Program Coord) _ = .ok _ _ from rfl)).trans ?_
    simp only [observed, isTypeOrValue_of_observe refused, if_true]
    rfl
  · rfl

/--
In every run of an admitted best-effort pool, evidence of a protected fault leaves the pool under a
fault exactly when the pool or its budget has failed anyway, or control is lost, or the child has
been condemned before, or, for a child not classified yet, its class is not
individual, its first code is pool-wide, or its containment is refused.  Evidence that the ledger refuses
always does.
-/
theorem poolWide_latches_iff (admitted : setup.contract.version = .admittedV2)
    (bestEffort : setup.contract.completionPolicy = .bestEffort) {coord : Coord}
    (left : Left setup world coord) :
    (∀ tick before childId evidence after, .judged tick before childId evidence after ∈ coord.history →
      evidence.protectedFault = true →
        (after.protectedFault = true ↔ Escalating setup world tick before childId evidence)) ∧
      ∀ childId value evidence error, world.evidence coord.tick childId = .returned value →
        normalizeChildEvidence value = .ok evidence →
          coord.core.ledger.observe childId evidence.stateSha256 (coord.core.state.stateSequence + 1)
            evidence.usage = .error error →
          ∃ after, readEvidence setup world childId coord = .ok () after ∧
            after.core.protectedFault = true := by
  refine ⟨fun tick before childId evidence after read faulty => ?_, fun _ _ _ _ => latches_refused⟩
  have judged : after.protectedFault = true ↔ Latches setup world tick before childId evidence :=
    allJudged_carried.left (fun _ _ => allJudged_start) left _ read
  rw [judged]
  simp only [Latches, Escalating, Escalates, faulty, admitted, bestEffort, true_and, ne_eq,
    not_true_eq_false, false_or]

/-- The evidence reports a pool-wide code of a fault, and the pool is under the given fault. -/
def judgesWide (latched : Bool) : Event → Bool
  | .judged _ _ _ evidence after =>
    evidence.protectedFault && evidence.reasons.any isPoolWide && after.protectedFault == latched
  | _ => false

/-- The only child reports the given reasons of a protected fault at its first check. -/
def faultyWorld (reasons : List String) : World :=
  loneWorld (obliging "complete") fun _ => loneEvidence true reasons

theorem exists_judged (latched : Bool) (reasons : List String)
    (judges : (playFrom loneSetup (faultyWorld reasons) loneLeases (List.replicate 5 .step)).any
      (fun coord => coord.history.any (judgesWide latched)) = true) :
    ∃ (coord : Coord) (tick : Nat) (before : Core) (childId : Name) (evidence : ChildEvidence)
      (after : Core), Left loneSetup (faultyWorld reasons) coord ∧
        .judged tick before childId evidence after ∈ coord.history ∧
        evidence.protectedFault = true ∧ (∃ reason ∈ evidence.reasons, isPoolWide reason = true) ∧
        after.protectedFault = latched := by
  obtain ⟨coord, played, judges⟩ := (Option.any_eq_true _ _).mp judges
  obtain ⟨event, member, judges⟩ := any_eq_true.mp judges
  cases event with
  | judged tick before childId evidence after =>
    simp only [judgesWide, Bool.and_eq_true, any_eq_true, beq_iff_eq] at judges
    obtain ⟨⟨faulty, wide⟩, latched⟩ := judges
    exact ⟨coord, tick, before, childId, evidence, after, .reached (reached_playFrom played),
      member, faulty, wide, latched⟩
  | _ => cases judges

/-- A pool-wide code behind the first reason is contained to its child. -/
theorem poolWide_contained :
    ∃ (coord : Coord) (tick : Nat) (before : Core) (childId : Name) (evidence : ChildEvidence)
      (after : Core), Left loneSetup (faultyWorld ["stalled", "security-violation"]) coord ∧
        .judged tick before childId evidence after ∈ coord.history ∧
        evidence.protectedFault = true ∧ (∃ reason ∈ evidence.reasons, isPoolWide reason = true) ∧
        after.protectedFault = false :=
  exists_judged false _ (by decide +kernel)

/-- The same code as the first reason puts the pool under a fault. -/
theorem poolWide_latches_iff_lone :
    ∃ (coord : Coord) (tick : Nat) (before : Core) (childId : Name) (evidence : ChildEvidence)
      (after : Core), .judged tick before childId evidence after ∈ coord.history ∧
        after.protectedFault = true ∧
        Escalating loneSetup (faultyWorld ["security-violation"]) tick before childId evidence := by
  obtain ⟨coord, tick, before, childId, evidence, after, left, read, faulty, _, latched⟩ :=
    exists_judged true ["security-violation"] (by decide +kernel)
  exact ⟨coord, tick, before, childId, evidence, after, read, latched,
    ((poolWide_latches_iff (by decide +kernel) (by decide +kernel) left).1 _ _ _ _ _ read faulty).mp
      latched⟩

end WorkOrchestration.Native.PoolWideFaults
