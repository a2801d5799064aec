import WorkOrchestration.Native.MaintenanceSteps

/-!
# Maintenance operations run once

Over any calls of any verifiers and capabilities on one ledger: an operation is claimed once and settled
once, with the hash that it was claimed with, and a revoked authority admits nothing.
-/

namespace WorkOrchestration.Native.Maintenance

open List Lib.Programs Lib.Runs Artifacts

def outcomeOf (file : File) (operationId : String) : Option Outcome :=
  (rowOf file operationId).bind OperationRow.outcome

namespace Transition

variable (step : Transition)

def claims (operationId : String) : Bool :=
  (rowOf step.before.file operationId).isNone && (rowOf step.after.file operationId).isSome

def settles (operationId : String) : Bool :=
  (outcomeOf step.before.file operationId).isNone && (outcomeOf step.after.file operationId).isSome

/-- The operation for which the ledger's claim has returned in this move. -/
def claimed : Option Operation :=
  match step.move, step.ended with
  | .claimOperation _ _ operationId operationSha256 planSha256 generation, .returned =>
    some ⟨operationId, generation, operationSha256, planSha256⟩
  | .recordClaim handle _, .pending =>
    if (handle, Claiming.checked) ∈ step.before.claiming then
      step.before.capabilities[handle]?.map Capability.operation
    else none
  | _, _ => none

/-- A `claim` or a `revalidate` has returned in this move. -/
def admitted : Bool :=
  match step.move, step.ended with
  | .endClaim _ _, .returned => true
  | .revalidate _ _ _, .returned => true
  | _, _ => step.claimed.isSome

/-- A `settle` has returned in this move. -/
def settledBy : Option String :=
  match step.move, step.ended with
  | .settle _ _ operationId _ _, .returned => some operationId
  | _, _ => none

def Taken (store : Nat → MaintenanceStateStore) (step : Transition) : Prop :=
  step.before.step store step.move = (step.after, step.ended)

end Transition

variable {store : Nat → MaintenanceStateStore} {moves : List Move} {system : System}

theorem run_taken : ∀ step ∈ run store system moves, step.Taken store := by
  induction moves generalizing system with
  | nil =>
    exact forall_mem_nil _
  | cons move rest ih =>
    exact forall_mem_cons.mpr ⟨rfl, ih⟩

open Transition (after claims settledBy)

theorem run_linked :
    Linked Transition.before after system (run store system moves) := by
  induction moves generalizing system with
  | nil => exact True.intro
  | cons move rest ih => exact ⟨rfl, ih⟩

namespace Transition.Taken

variable {store : Nat → MaintenanceStateStore} {step : Transition}

theorem rewrites (taken : step.Taken store) :
    Rewrites step.move step.before.file step.after.file := by
  have rewrites := step.before.step_rewrites store step.move
  rwa [show step.before.step store step.move = (step.after, step.ended) from taken] at rewrites

theorem grows (taken : step.Taken store) : Grows step.before.file step.after.file :=
  taken.rewrites.grows

end Transition.Taken

def unclaimed (operationId : String) (system : System) : Nat :=
  if (rowOf system.file operationId).isNone then 1 else 0

def unsettled (operationId : String) (system : System) : Nat :=
  if (outcomeOf system.file operationId).isNone then 1 else 0

variable {before after : File}

theorem Grows.unclaimed_le (grows : Grows before after) (operationId : String)
    (absent : (rowOf after operationId).isNone) : (rowOf before operationId).isNone := by
  cases here : rowOf before operationId with
  | none => rfl
  | some row =>
    obtain ⟨later, found, _⟩ := grows.rows operationId row here
    rw [found] at absent
    cases absent

theorem Grows.unsettled_le (grows : Grows before after) (operationId : String)
    (absent : (outcomeOf after operationId).isNone) : (outcomeOf before operationId).isNone := by
  unfold outcomeOf at absent ⊢
  cases here : rowOf before operationId with
  | none => rfl
  | some row =>
    obtain ⟨later, found, onward⟩ := grows.rows operationId row here
    rw [found] at absent
    cases settled : row.outcome with
    | none => exact Option.isNone_iff_eq_none.mpr settled
    | some outcome =>
      rw [Option.bind_some, onward.outcome outcome settled] at absent
      cases absent

variable {step : Transition}

theorem claims_spend (grows : Grows step.before.file step.after.file)
    (operationId : String) :
    unclaimed operationId step.after + (if step.claims operationId then 1 else 0) ≤
      unclaimed operationId step.before := by
  have back := grows.unclaimed_le operationId
  unfold unclaimed claims
  cases later : rowOf step.after.file operationId with
  | none =>
    rw [later] at back
    simp [back rfl]
  | some row =>
    cases rowOf step.before.file operationId <;> simp

theorem settles_spend (grows : Grows step.before.file step.after.file)
    (operationId : String) :
    unsettled operationId step.after + (if step.settles operationId then 1 else 0) ≤
      unsettled operationId step.before := by
  have back := grows.unsettled_le operationId
  unfold unsettled Transition.settles
  cases later : outcomeOf step.after.file operationId with
  | none =>
    rw [later] at back
    simp [back rfl]
  | some outcome =>
    cases outcomeOf step.before.file operationId <;> simp

theorem System.perform_returned {system after : System} {program : EStateM PyError File Unit}
    (returned : system.perform program = (after, .returned)) :
    program system.file = .ok () after.file := by
  unfold System.perform at returned
  split at returned
  · rename_i file done
    have same : _ = after := congrArg Prod.fst returned
    rw [done, ← same]
  · cases congrArg Prod.snd returned

variable {operation : Operation}

theorem System.recordClaim_pending {system after : System} {store : MaintenanceStateStore}
    {handle : Nat} {disk : Disk}
    (pending : system.recordClaim store handle disk operation = (after, .pending)) :
    store.claimOperation disk operation.operationId operation.operationSha256
      operation.planSha256 operation.revocationGeneration system.file = .ok () after.file := by
  unfold System.recordClaim at pending
  split at pending
  · rename_i file done
    have same : _ = after := congrArg Prod.fst pending
    rw [done, ← same]
    rfl
  · cases congrArg Prod.snd pending

namespace Transition.Taken

variable {store : Nat → MaintenanceStateStore} {step : Transition}

/-- A claim of the ledger that returned has made the row. -/
theorem claims_of_claimed (taken : step.Taken store) {operation : Operation}
    (claimed : step.claimed = some operation) :
    ∃ state after, step.before.file = some state ∧ step.after.file = some after ∧
      Claims operation state after := by
  obtain ⟨before, move, ended, after⟩ := step
  unfold Transition.claimed at claimed
  split at claimed
  · rename_i ledger disk operationId operationSha256 planSha256 generation returned moved
    cases claimed
    subst returned moved
    exact (claimOperation_updates ledger disk
      ⟨operationId, generation, operationSha256, planSha256⟩).returned
        (System.perform_returned taken)
  · rename_i handle disk pending moved
    subst pending moved
    split at claimed
    · rename_i checked
      obtain ⟨capability, issued, bound⟩ := Option.map_eq_some_iff.mp claimed
      have taken : before.step store (.recordClaim handle disk) = (after, .pending) := taken
      rw [System.step, issued] at taken
      dsimp only at taken
      rw [if_pos checked, bound] at taken
      exact (claimOperation_updates _ disk operation).returned (System.recordClaim_pending taken)
    · cases claimed
  · cases claimed

theorem settles_of_settledBy (taken : step.Taken store) {operationId : String}
    (settled : step.settledBy = some operationId) : step.settles operationId = true := by
  obtain ⟨before, move, ended, after⟩ := step
  unfold settledBy at settled
  split at settled
  · rename_i ledger disk named operationSha256 outcome returned moved
    cases settled
    subst returned moved
    obtain ⟨state, written, here, there, planSha256, live, rfl⟩ :=
      (settle_updates ledger disk operationId operationSha256 outcome).returned
        (System.perform_returned taken)
    have old : outcomeOf before.file operationId = none := by
      rw [here]
      change (state.row operationId).bind _ = none
      rw [live]
      rfl
    have new : outcomeOf after.file operationId = some outcome := by
      rw [there]
      change ((state.setRow operationId _).row operationId).bind _ = some outcome
      rw [State.row_setRow, if_pos rfl]
      rfl
    unfold Transition.settles
    rw [old, new]
    rfl
  · cases settled

end Transition.Taken

def Bound (operationId : String) (operationSha256 planSha256 : Digest) (file : File) : Prop :=
  ∃ outcome, rowOf file operationId = some ⟨operationSha256, planSha256, outcome⟩

theorem rowOf_setRow (state : State) (operationId other : String) (row : OperationRow) :
    rowOf (some (state.setRow operationId row)) other =
      if other = operationId then some row else rowOf (some state) other :=
  state.row_setRow operationId other row

variable {operationId : String}

/-- Hashes are bound where a row is made, as one that is not settled. -/
theorem Rewrites.binds {move : Move} (rewrites : Rewrites move before after)
    {operationSha256 planSha256 : Digest}
    (unbound : ¬ Bound operationId operationSha256 planSha256 before)
    (bound : Bound operationId operationSha256 planSha256 after) :
    rowOf before operationId = none ∧
      rowOf after operationId = some ⟨operationSha256, planSha256, none⟩ := by
  obtain ⟨outcome, there⟩ := bound
  cases rewrites with
  | kept => exact absurd ⟨outcome, there⟩ unbound
  | started => cases there
  | revoked _ revokes =>
    obtain ⟨_, rfl⟩ := revokes
    exact absurd ⟨outcome, there⟩ unbound
  | claimed _ claims =>
    obtain ⟨_, _, fresh, rfl⟩ := claims
    rw [rowOf_setRow] at there ⊢
    split at there
    · rename_i same
      cases there
      rw [if_pos same, same]
      exact ⟨fresh, rfl⟩
    · exact absurd ⟨outcome, there⟩ unbound
  | settled settles =>
    obtain ⟨planned, live, rfl⟩ := settles
    rw [rowOf_setRow] at there
    split at there
    · rename_i same
      cases there
      rw [same] at unbound
      exact absurd ⟨none, live⟩ unbound
    · exact absurd ⟨outcome, there⟩ unbound

/-- Only a `settle` with the hash of the row settles it. -/
theorem Rewrites.settles {move : Move} (rewrites : Rewrites move before after)
    {outcome : Outcome} (open' : outcomeOf before operationId = none)
    (settled : outcomeOf after operationId = some outcome) :
    ∃ store disk operationSha256 planSha256,
      move = .settle store disk operationId operationSha256 outcome ∧
        rowOf before operationId = some ⟨operationSha256, planSha256, none⟩ ∧
        rowOf after operationId = some ⟨operationSha256, planSha256, some outcome⟩ := by
  cases rewrites with
  | kept =>
    rw [open'] at settled
    cases settled
  | started => cases settled
  | revoked _ revokes =>
    obtain ⟨_, rfl⟩ := revokes
    have same := open'.symm.trans settled
    cases same
  | claimed _ claims =>
    obtain ⟨_, _, fresh, rfl⟩ := claims
    unfold outcomeOf at open' settled
    rw [rowOf_setRow] at settled
    split at settled
    · cases settled
    · rw [open'] at settled
      cases settled
  | @settled store disk named operationSha256 decided state _ settles =>
    obtain ⟨planSha256, live, rfl⟩ := settles
    unfold outcomeOf at open' settled
    rw [rowOf_setRow] at settled
    split at settled
    · rename_i same
      cases settled
      subst same
      refine ⟨store, disk, operationSha256, planSha256, rfl, live, ?_⟩
      rw [rowOf_setRow, if_pos rfl]
    · rw [open'] at settled
      cases settled

/-- The capability is one for the operation, and knows that it was claimed. -/
def Marked (handle : Nat) (operation : Operation) (system : System) : Prop :=
  ∃ capability, system.capabilities[handle]? = some capability ∧
    capability.operation = operation ∧ capability.claimed = true

theorem Marked.of_same {handle : Nat} {before after : System}
    (marked : Marked handle operation after) (same : after.capabilities = before.capabilities) :
    Marked handle operation before := by
  obtain ⟨capability, issued, rest⟩ := marked
  exact ⟨capability, same ▸ issued, rest⟩

theorem Marked.of_issued {handle verifier : Nat} {issued : Operation} {before after : System}
    (marked : Marked handle operation after)
    (same : after.capabilities = before.capabilities ++ [⟨verifier, issued, false⟩]) :
    Marked handle operation before := by
  obtain ⟨capability, found, bound, claimed⟩ := marked
  rw [same, getElem?_append] at found
  split at found
  · exact ⟨capability, found, bound, claimed⟩
  · rw [getElem?_singleton] at found
    split at found
    · cases found
      cases claimed
    · cases found

namespace System

theorem perform_capabilities (system : System) (program : EStateM PyError File Unit) :
    (system.perform program).1.capabilities = system.capabilities := by
  unfold System.perform
  split <;> rfl

theorem beginClaim_capabilities (system : System) (store : MaintenanceStateStore) (handle : Nat)
    (sight : Sight) (capability : Capability) :
    (system.beginClaim store handle sight capability).1.capabilities = system.capabilities := by
  unfold System.beginClaim
  split <;> rfl

theorem verify_marks {store : MaintenanceStateStore} {verifier handle : Nat}
    {sight : Sight} {operation issued : Operation}
    (marked : Marked handle operation (system.verify store verifier sight issued).1) :
    Marked handle operation system := by
  unfold System.verify at marked
  split at marked
  · exact marked.of_issued rfl
  · exact marked.of_same rfl

theorem recordClaim_marks {store : MaintenanceStateStore} {handle other : Nat}
    {disk : Disk} {operation claimed : Operation} (unmarked : ¬ Marked handle operation system)
    (marked : Marked handle operation (system.recordClaim store other disk claimed).1) :
    handle = other ∧ (system.recordClaim store other disk claimed).2 = .pending ∧
      system.capabilities[handle]?.map Capability.operation = some operation := by
  unfold System.recordClaim at marked ⊢
  split at marked
  · obtain ⟨capability, found, bound, _⟩ := marked
    have found : (system.capabilities.modify other fun capability =>
        { capability with claimed := true })[handle]? = some capability := found
    rw [getElem?_modify] at found
    split at found
    · rename_i same
      obtain ⟨old, issued, updated⟩ := Option.map_eq_some_iff.mp found
      refine ⟨same.symm, rfl, ?_⟩
      rw [issued, ← bound, ← updated]
      rfl
    · have found : system.capabilities[handle]? = some capability := by simpa using found
      exact absurd ⟨capability, found, bound, by assumption⟩ unmarked
  · exact absurd (marked.of_same rfl) unmarked

end System

namespace Transition.Taken

variable {store : Nat → MaintenanceStateStore} {step : Transition}

variable (taken : step.Taken store)

include taken

variable {handle : Nat}

/-- A capability is marked where the ledger has recorded its own claim. -/
theorem marks {operation : Operation}
    (unmarked : ¬ Marked handle operation step.before)
    (marked : Marked handle operation step.after) :
    (∃ disk, step.move = .recordClaim handle disk) ∧ step.claimed = some operation := by
  obtain ⟨before, move, ended, after⟩ := step
  have after_eq : (before.step store move).1 = after := congrArg Prod.fst taken
  have ended_eq : (before.step store move).2 = ended := congrArg Prod.snd taken
  subst after_eq ended_eq
  cases move with
  | start ledger disk => exact absurd (marked.of_same (before.perform_capabilities _)) unmarked
  | claimOperation | settle | revoke =>
    exact absurd (marked.of_same (before.perform_capabilities _)) unmarked
  | verify verifier sight issued =>
    rw [System.step] at marked
    split at marked
    · exact absurd marked unmarked
    · exact absurd (System.verify_marks marked) unmarked
  | beginClaim other sight =>
    rw [System.step] at marked
    split at marked
    · split at marked
      · exact absurd marked unmarked
      · exact absurd (marked.of_same (before.beginClaim_capabilities _ _ _ _)) unmarked
    · exact absurd marked unmarked
  | recordClaim other disk =>
    unfold Transition.claimed
    rw [System.step] at marked ⊢
    split at marked
    · split at marked
      · rename_i checked
        obtain ⟨rfl, pending, bound⟩ := System.recordClaim_marks unmarked marked
        rw [if_pos checked, pending]
        dsimp only
        rw [if_pos checked]
        exact ⟨⟨disk, rfl⟩, bound⟩
      · exact absurd marked unmarked
    · exact absurd marked unmarked
  | endClaim other sight =>
    rw [System.step] at marked
    split at marked
    · split at marked
      · exact absurd (marked.of_same (before.perform_capabilities _)) unmarked
      · exact absurd marked unmarked
    · exact absurd marked unmarked
  | revalidate other sight requireClaimed =>
    rw [System.step] at marked
    split at marked
    · split at marked
      · exact absurd marked unmarked
      · exact absurd (marked.of_same (before.perform_capabilities _)) unmarked
    · exact absurd marked unmarked

theorem revalidated {sight : Sight}
    {requireClaimed : Bool} (moved : step.move = .revalidate handle sight requireClaimed)
    (returned : step.ended = .returned) :
    ∃ capability state, step.before.capabilities[handle]? = some capability ∧
      step.before.file = some state ∧ Checked capability requireClaimed state := by
  obtain ⟨before, move, ended, after⟩ := step
  subst moved returned
  have taken : before.step store (.revalidate handle sight requireClaimed) = (after, .returned) :=
    taken
  rw [System.step] at taken
  split at taken
  · rename_i capability issued
    split at taken
    · cases congrArg Prod.snd taken
    · obtain ⟨state, here, _, checked⟩ :=
        (checkCapability_looks _ sight capability requireClaimed).returned
          (System.perform_returned taken)
      exact ⟨capability, state, issued, here, checked⟩
  · cases congrArg Prod.snd taken

/-- A `claim` that returned has seen an active authority at its end. -/
theorem claimEnded {sight : Sight}
    (moved : step.move = .endClaim handle sight) (returned : step.ended = .returned) :
    ∃ state, step.before.file = some state ∧ state.status = .active := by
  obtain ⟨before, move, ended, after⟩ := step
  subst moved returned
  have taken : before.step store (.endClaim handle sight) = (after, .returned) := taken
  rw [System.step] at taken
  split at taken
  · rename_i capability issued
    split at taken
    · have done := congrArg Prod.snd taken
      have performed : before.perform (checkCapability (store capability.verifier) sight capability
          true) = ((before.perform (checkCapability (store capability.verifier) sight capability
          true)).1, .returned) := Prod.ext rfl done
      obtain ⟨state, here, _, checked⟩ :=
        (checkCapability_looks _ sight capability true).returned (System.perform_returned performed)
      exact ⟨state, here, checked.1⟩
    · cases congrArg Prod.snd taken
  · cases congrArg Prod.snd taken

theorem active_of_admitted (admitted : step.admitted = true) : ¬ Inactive step.before.file := by
  have active : ∃ state, step.before.file = some state ∧ state.status = .active := by
    unfold Transition.admitted at admitted
    split at admitted
    · rename_i handle sight moved returned
      exact taken.claimEnded moved returned
    · rename_i handle sight requireClaimed moved returned
      obtain ⟨capability, state, _, here, checked⟩ := taken.revalidated moved returned
      exact ⟨state, here, checked.1⟩
    · obtain ⟨operation, claimed⟩ := Option.isSome_iff_exists.mp admitted
      obtain ⟨state, after, here, _, claims⟩ := taken.claims_of_claimed claimed
      exact ⟨state, here, claims.1⟩
  rintro ⟨state, here, inactive⟩
  obtain ⟨current, same, active⟩ := active
  rw [here] at same
  cases same
  exact inactive active

end Transition.Taken

structure RunsOnce (steps : List Transition) : Prop where
  claimedOnce : ∀ operationId, steps.countP (·.claims operationId) ≤ 1
  settledOnce : ∀ operationId, steps.countP (·.settles operationId) ≤ 1
  /-- A claim of the ledger that returned has made the row, with its own hashes. -/
  claim : ∀ step ∈ steps, ∀ operation, step.claimed = some operation →
    step.claims operation.operationId = true ∧ rowOf step.after.file operation.operationId =
        some ⟨operation.operationSha256, operation.planSha256, none⟩
  /-- A `settle` that returned has settled the row. -/
  settle : ∀ step ∈ steps, ∀ operationId, step.settledBy = some operationId →
    step.settles operationId = true
  /-- What settles a row is a `settle` with the hash with which the row was claimed before. -/
  hashes : ∀ past step rest, steps = past ++ step :: rest →
    ∀ operationId, step.settles operationId = true →
      ∃ store disk operationSha256 planSha256 outcome,
        step.move = .settle store disk operationId operationSha256 outcome ∧
        rowOf step.after.file operationId = some ⟨operationSha256, planSha256, some outcome⟩ ∧
        ∃ claim ∈ past, claim.claims operationId = true ∧
          rowOf claim.after.file operationId = some ⟨operationSha256, planSha256, none⟩
  /-- Rows are never removed and the generation never decreases. -/
  grows : (∀ step ∈ steps, Grows step.before.file step.after.file) ∧
    steps.Pairwise fun earlier later => Grows earlier.after.file later.before.file
  /-- Once the authority is revoked, no claim and no `revalidate` succeeds. -/
  revoked : steps.Pairwise fun earlier later =>
    Inactive earlier.after.file → later.admitted = false
  /-- `revalidate` with `require_claimed` returns only where the ledger has recorded the
  capability's own claim and its row is claimed still. -/
  revalidate : ∀ past step rest, steps = past ++ step :: rest →
    ∀ handle sight, step.move = .revalidate handle sight true → step.ended = .returned →
      ∃ capability, step.before.capabilities[handle]? = some capability ∧
        rowOf step.before.file capability.operation.operationId =
          some ⟨capability.operation.operationSha256, capability.operation.planSha256, none⟩ ∧
        ∃ claim ∈ past, (∃ disk, claim.move = .recordClaim handle disk) ∧
          claim.claimed = some capability.operation

theorem claim_of_bound {past rest : List Transition}
    (split : run store System.empty moves = past ++ step :: rest)
    {operationSha256 planSha256 : Digest}
    (bound : Bound operationId operationSha256 planSha256 step.before.file) :
    ∃ claim ∈ past, claim.claims operationId = true ∧
      rowOf claim.after.file operationId = some ⟨operationSha256, planSha256, none⟩ := by
  have linked : Linked Transition.before after System.empty
    (run store System.empty moves) := run_linked
  have unbound : ¬ Bound operationId operationSha256 planSha256 System.empty.file := by
    rintro ⟨outcome, absent⟩
    cases absent
  obtain ⟨claim, found, before, after⟩ := @Linked.origin _ _ _ _ _ _
    (fun system : System => Bound operationId operationSha256 planSha256 system.file) linked unbound
    past rest step split bound
  have taken : claim.Taken store := run_taken claim (split ▸ mem_append_left _ found)
  obtain ⟨fresh, made⟩ := taken.rewrites.binds before after
  refine ⟨claim, found, ?_, made⟩
  unfold claims
  rw [fresh, made]
  rfl

theorem settles_hash (taken : step.Taken store)
    (settles : step.settles operationId = true) :
    ∃ store disk operationSha256 planSha256 outcome,
      step.move = .settle store disk operationId operationSha256 outcome ∧
        rowOf step.before.file operationId = some ⟨operationSha256, planSha256, none⟩ ∧
        rowOf step.after.file operationId = some ⟨operationSha256, planSha256, some outcome⟩ := by
  unfold Transition.settles at settles
  rw [Bool.and_eq_true, Option.isNone_iff_eq_none] at settles
  obtain ⟨open', decided⟩ := settles
  obtain ⟨outcome, settled⟩ := Option.isSome_iff_exists.mp decided
  obtain ⟨store, disk, operationSha256, planSha256, rest⟩ := taken.rewrites.settles open' settled
  exact ⟨store, disk, operationSha256, planSha256, outcome, rest⟩

/-- Whatever verifiers, capabilities and the file system do, operations run at most once. -/
theorem maintenance_runs_once (store : Nat → MaintenanceStateStore) (moves : List Move) :
    RunsOnce (run store System.empty moves) := by
  have taken : ∀ step ∈ run store System.empty moves, step.Taken store := run_taken
  have linked : Linked Transition.before after System.empty
    (run store System.empty moves) := run_linked
  have onward : (run store System.empty moves).Pairwise fun earlier later =>
      Grows earlier.after.file later.before.file :=
    @Linked.pairwise System Transition _ _ _ _ (fun before after => Grows before.file after.file)
      linked (fun system => .refl system.file) (fun early late => Grows.trans early late)
      fun step found => (taken step found).grows
  constructor
  case claimedOnce =>
    intro operationId
    exact linked.count_le fun step found => claims_spend (taken step found).grows operationId
  case settledOnce =>
    intro operationId
    exact linked.count_le fun step found => settles_spend (taken step found).grows operationId
  case claim =>
    intro step found operation claimed
    obtain ⟨state, after, here, there, _, _, fresh, rfl⟩ :=
      (taken step found).claims_of_claimed claimed
    have made : rowOf step.after.file operation.operationId =
        some ⟨operation.operationSha256, operation.planSha256, none⟩ := by
      rw [there, rowOf_setRow, if_pos rfl]
    refine ⟨?_, made⟩
    unfold claims
    rw [made, here]
    change ((state.row operation.operationId).isNone && true) = true
    rw [fresh]
    rfl
  case settle =>
    intro step found operationId settled
    exact (taken step found).settles_of_settledBy settled
  case hashes =>
    intro past step rest split operationId settles
    have member : step ∈ run store System.empty moves := split ▸ mem_append_right past mem_cons_self
    obtain ⟨ledger, disk, operationSha256, planSha256, outcome, moved, before, after⟩ :=
      settles_hash (taken step member) settles
    exact ⟨ledger, disk, operationSha256, planSha256, outcome, moved, after,
      claim_of_bound split ⟨none, before⟩⟩
  case grows => exact ⟨fun step found => (taken step found).grows, onward⟩
  case revoked =>
    apply List.Pairwise.imp_of_mem ?_ onward
    intro earlier later _ found grows inactive
    rw [Bool.eq_false_iff]
    intro admitted
    exact (taken later found).active_of_admitted admitted (grows.inactive inactive)
  case revalidate =>
    intro past step rest split handle sight moved returned
    have member : step ∈ run store System.empty moves := split ▸ mem_append_right past mem_cons_self
    obtain ⟨capability, state, issued, here, _, _, live⟩ :=
      (taken step member).revalidated moved returned
    obtain ⟨claimed, row⟩ := live rfl
    have unmarked : ¬ Marked handle capability.operation System.empty := by
      rintro ⟨other, absent, _⟩
      cases absent
    obtain ⟨claim, found, before, after⟩ :=
      linked.origin unmarked split ⟨capability, issued, rfl, claimed⟩
    refine ⟨capability, issued, ?_, claim, found, ?_⟩
    · rw [here]
      exact row
    · exact (taken claim (split ▸ mem_append_left _ found)).marks before after

/-- The whole call of `claim` for the capability has returned in this move. -/
def Transition.claimReturned (step : Transition) (handle : Nat) : Bool :=
  match step.move, step.ended with
  | .endClaim other _, .returned => other == handle
  | _, _ => false

def sampleStore (_ : Nat) : MaintenanceStateStore := ⟨"mission", textSha256 "mission"⟩

def sampleOperation : Operation := ⟨"operation", 0, textSha256 "operation", textSha256 "plan"⟩

def sampleSight (inPlace : Bool) : Sight := ⟨⟨true, .done⟩, need inPlace "workspace-replaced"⟩

/-- A `claim` during whose last check another directory stands in the workspace's place. -/
def sampleClaim : List Move :=
  [.start (sampleStore 0) ⟨true, .done⟩, .verify 0 (sampleSight true) sampleOperation,
    .beginClaim 0 (sampleSight true), .recordClaim 0 ⟨true, .done⟩,
    .endClaim 0 (sampleSight false)]

/-- A capability passes `revalidate` although its only `claim` has raised. -/
theorem revalidates_after_raised_claim :
    ¬ ∀ (store : Nat → MaintenanceStateStore) (moves : List Move) past step rest,
      run store System.empty moves = past ++ step :: rest →
      ∀ handle sight, step.move = .revalidate handle sight true → step.ended = .returned →
        ∃ claim ∈ past, claim.claimReturned handle = true := by
  intro claimed
  have claim := claimed sampleStore (sampleClaim ++ [.revalidate 0 (sampleSight true) true])
    (run sampleStore System.empty sampleClaim) _ [] rfl 0 (sampleSight true) rfl rfl
  have unclaimed : (run sampleStore System.empty sampleClaim).any (·.claimReturned 0) = false := by
    decide
  rw [any_eq_false] at unclaimed
  obtain ⟨step, found, returned⟩ := claim
  exact unclaimed step found returned

end WorkOrchestration.Native.Maintenance
