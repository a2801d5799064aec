import WorkOrchestration.Native.Maintenance

/-!
# Locked sections of the maintenance ledger

Every section leaves the ledger as it is, or rewrites it in one of four ways.  None of them removes
a row or changes what it binds, and none of them takes a settlement or a revocation back.
-/

namespace WorkOrchestration.Native.Maintenance

open List Lib.Programs Artifacts
open MonadExcept (ofExcept)
open MaintenanceStateStore (claimOperation revoke settle settled)

variable {operationId : String}

theorem lookup_filter_ne {other : String} (apart : other ≠ operationId)
    (rows : List (String × OperationRow)) :
    (rows.filter (·.1 != operationId)).lookup other = rows.lookup other := by
  induction rows with
  | nil => rfl
  | cons entry rest ih =>
    obtain ⟨named, row⟩ := entry
    rw [lookup_cons]
    by_cases same : named = operationId
    · have unnamed : (other == operationId) = false := by simpa using apart
      simp [same, unnamed, ih]
    · simp [same, lookup_cons, ih]

@[simp] theorem State.row_setRow (state : State) (operationId other : String) (row : OperationRow) :
    (state.setRow operationId row).row other =
      if other = operationId then some row else state.row other := by
  unfold State.setRow State.row
  rw [lookup_cons]
  by_cases same : other = operationId
  · subst same
    simp
  · have apart : (other == operationId) = false := by simpa using same
    rw [apart, if_neg same]
    exact lookup_filter_ne same state.operations

variable (system : System) (store : MaintenanceStateStore) (file : File) (disk : Disk)

def rowOf (operationId : String) : Option OperationRow := file.bind (·.row operationId)

def generationOf : Nat := (file.map State.revocationGeneration).getD 0

def Inactive : Prop := ∃ state, file = some state ∧ state.status ≠ .active

variable {α β : Type}

/-- The section raises and has left the file. -/
def Raises (program : EStateM PyError File α) (file : File) : Prop :=
  ∃ error, program file = .error error file

theorem Raises.bind {first : EStateM PyError File α} {next : α → EStateM PyError File β}
    {file : File} (raises : Raises first file) : Raises (first >>= next) file := by
  obtain ⟨error, raised⟩ := raises
  refine ⟨error, ?_⟩
  change EStateM.bind first next file = _
  unfold EStateM.bind
  rw [raised]

theorem ofExcept_bind_cases (computed : Except PyError α) (next : α → EStateM PyError File β)
    (file : File) :
    Raises (ofExcept computed >>= next) file ∨ ∃ value, computed = .ok value ∧
        (ofExcept computed >>= next) file = next value file := by
  cases computed with
  | ok value => exact .inr ⟨value, rfl, rfl⟩
  | error error => exact .inl ⟨error, rfl⟩

variable {value : Unit}

theorem need_returned {condition : Bool} {reason : String}
    (returned : need condition reason = .ok value) : condition = true := by
  unfold need at returned
  split at returned
  · assumption
  · cases returned

theorem need_bind_cases (condition : Bool) (reason : String) (next : Unit → EStateM PyError File β)
    (file : File) :
    Raises (ofExcept (need condition reason) >>= next) file ∨ condition = true ∧
        (ofExcept (need condition reason) >>= next) file = next () file := by
  rcases ofExcept_bind_cases (need condition reason) next file with raises | ⟨value, done, goes⟩
  · exact .inl raises
  · exact .inr ⟨need_returned done, goes⟩

theorem read_cases (file : File) : Raises (store.read disk) file ∨
      ∃ state, file = some state ∧ store.read disk file = .ok state file := by
  obtain ⟨readable, writing⟩ := disk
  cases readable with
  | false => exact .inl ⟨osError, rfl⟩
  | true =>
    cases file with
    | none => exact .inl ⟨_, rfl⟩
    | some state =>
      rcases need_bind_cases (store.belongs state) "state-mission-mismatch"
        (fun _ => (pure state : EStateM PyError File State)) (some state) with raises | ⟨_, done⟩
      · exact .inl raises
      · exact .inr ⟨state, rfl, done⟩

theorem read_bind_cases (next : State → EStateM PyError File β) (file : File) :
    Raises (store.read disk >>= next) file ∨
      ∃ state, file = some state ∧ (store.read disk >>= next) file = next state file := by
  rcases read_cases store disk file with raises | ⟨state, same, done⟩
  · exact .inl raises.bind
  · exact .inr ⟨state, same, ran_bind done⟩

theorem write_cases (value : State) (file : File) :
    Raises (write disk value) file ∨ write disk value file = .ok () (some value) ∨
      ∃ error, write disk value file = .error error (some value) := by
  unfold write Raises
  cases disk.writing with
  | done => exact .inr (.inl rfl)
  | failedBefore => exact .inl ⟨osError, rfl⟩
  | failedAfter => exact .inr (.inr ⟨osError, rfl⟩)

/-- The section raises and leaves the file, or makes the change whether it returns or not. -/
def Updates (program : EStateM PyError File Unit) (change : State → State → Prop) : Prop :=
  ∀ file, Raises program file ∨ ∃ state after, file = some state ∧ change state after ∧
      (program file = .ok () (some after) ∨ ∃ error, program file = .error error (some after))

variable {program : EStateM PyError File Unit} {change : State → State → Prop}

theorem Updates.returned (updates : Updates program change) {file after : File}
    (returned : program file = .ok value after) :
    ∃ state written, file = some state ∧ after = some written ∧ change state written := by
  rcases updates file with ⟨error, raised⟩ | ⟨state, written, same, changed, done | ⟨error, raised⟩⟩
  · rw [returned] at raised
    cases raised
  · rw [returned] at done
    cases done
    exact ⟨state, written, same, rfl, changed⟩
  · rw [returned] at raised
    cases raised

def Looks (program : EStateM PyError File Unit) (seen : State → Prop) : Prop :=
  ∀ file, Raises program file ∨ ∃ state, file = some state ∧ seen state ∧ program file = .ok () file

variable {seen : State → Prop}

theorem Looks.returned (looks : Looks program seen) {file after : File}
    (returned : program file = .ok value after) :
    ∃ state, file = some state ∧ after = file ∧ seen state := by
  rcases looks file with ⟨error, raised⟩ | ⟨state, same, saw, done⟩
  · rw [returned] at raised
    cases raised
  · rw [returned] at done
    cases done
    exact ⟨state, same, rfl, saw⟩

/-- `claim_operation` makes the row of an operation that has none, under an active authority. -/
def Claims (operation : Operation) (state after : State) : Prop :=
  state.status = .active ∧ state.revocationGeneration = operation.revocationGeneration ∧
    state.row operation.operationId = none ∧
    after = state.setRow operation.operationId
      ⟨operation.operationSha256, operation.planSha256, none⟩

/-- `settle` gives an outcome to a claimed row with the hash it was claimed with. -/
def Settles (operationId : String) (operationSha256 : Digest) (outcome : Outcome)
    (state after : State) : Prop :=
  ∃ planSha256, state.row operationId = some ⟨operationSha256, planSha256, none⟩ ∧
    after = state.setRow operationId ⟨operationSha256, planSha256, some outcome⟩

/-- `revoke` ends an active authority and its generation. -/
def Revokes (completed : Bool) (state after : State) : Prop :=
  state.status = .active ∧ after = { state with
      status := if completed then .completed else .revoked
      revocationGeneration := state.revocationGeneration + 1 }

theorem claimOperation_updates (operation : Operation) :
    Updates (store.claimOperation disk operation.operationId operation.operationSha256
      operation.planSha256 operation.revocationGeneration) (Claims operation) := by
  intro file
  unfold claimOperation
  rcases ofExcept_bind_cases (text operation.operationId "operation-id") _ file with
    raises | ⟨_, _, goes⟩
  · exact .inl raises
  rw [Raises, goes]
  rcases read_bind_cases store disk _ file with raises | ⟨state, same, goes⟩
  · exact .inl raises
  rw [goes]
  rcases need_bind_cases _ "authority-not-current" _ file with raises | ⟨held, goes⟩
  · exact .inl raises
  rw [goes]
  rcases need_bind_cases _ "operation-already-consumed" _ file with raises | ⟨fresh, goes⟩
  · exact .inl raises
  rw [goes]
  rcases write_cases disk _ file with raises | ends
  · exact .inl raises
  · simp only [Bool.and_eq_true, decide_eq_true_eq, beq_iff_eq] at held
    exact .inr ⟨state, _, same, ⟨held.1, held.2, Option.isNone_iff_eq_none.mp fresh, rfl⟩, ends⟩

theorem settled_eq {state after : State} {operationSha256 : Digest} {outcome : Outcome}
    (done : settled state operationId operationSha256 outcome = .ok after) :
    Settles operationId operationSha256 outcome state after := by
  unfold settled at done
  split at done
  · rename_i sha256 planSha256 live
    split at done
    · rename_i same
      cases done
      rw [same] at live ⊢
      exact ⟨planSha256, live, rfl⟩
    · cases done
  · cases done

theorem settle_updates (operationId : String) (operationSha256 : Digest) (outcome : Outcome) :
    Updates (store.settle disk operationId operationSha256 outcome)
      (Settles operationId operationSha256 outcome) := by
  intro file
  unfold settle
  rcases read_bind_cases store disk _ file with raises | ⟨state, same, goes⟩
  · exact .inl raises
  rw [Raises, goes]
  rcases ofExcept_bind_cases (settled state operationId operationSha256 outcome)
    _ file with raises | ⟨after, settles, goes⟩
  · exact .inl raises
  rw [goes]
  rcases write_cases disk after file with raises | ends
  · exact .inl raises
  · exact .inr ⟨state, after, same, settled_eq settles, ends⟩

theorem revoke_updates (completed : Bool) :
    Updates (store.revoke disk completed) (Revokes completed) := by
  intro file
  unfold revoke
  rcases read_bind_cases store disk _ file with raises | ⟨state, same, goes⟩
  · exact .inl raises
  rw [Raises, goes]
  rcases need_bind_cases _ "authority-already-inactive" _ file with raises | ⟨held, goes⟩
  · exact .inl raises
  rw [goes]
  rcases write_cases disk _ file with raises | ends
  · exact .inl raises
  · exact .inr ⟨state, _, same, ⟨of_decide_eq_true held, rfl⟩, ends⟩

theorem current_bind_cases (next : State → EStateM PyError File β) (file : File) :
    Raises (current store disk >>= next) file ∨
      ∃ state, file = some state ∧ state.status = .active ∧
        (current store disk >>= next) file = next state file := by
  have ends : Raises (current store disk) file ∨
      ∃ state, file = some state ∧ state.status = .active ∧
        current store disk file = .ok state file := by
    unfold current
    rcases read_bind_cases store disk _ file with raises | ⟨state, same, goes⟩
    · exact .inl raises
    rw [Raises, goes]
    rcases need_bind_cases _ "authority-not-current" _ file with raises | ⟨held, goes⟩
    · exact .inl raises
    · exact .inr ⟨state, same, of_decide_eq_true held, goes⟩
  rcases ends with raises | ⟨state, same, active, done⟩
  · exact .inl raises.bind
  · exact .inr ⟨state, same, active, ran_bind done⟩

/-- What `_check_capability` has seen when it returns. -/
def Checked (capability : Capability) (requireClaimed : Bool) (state : State) : Prop :=
  state.status = .active ∧ state.revocationGeneration = capability.operation.revocationGeneration ∧
    (requireClaimed = true → capability.claimed = true ∧
      state.row capability.operation.operationId =
        some ⟨capability.operation.operationSha256, capability.operation.planSha256, none⟩)

theorem need_cases (condition : Bool) (reason : String) (file : File) :
    Raises (ofExcept (need condition reason) : EStateM PyError File Unit) file ∨
      condition = true ∧
        (ofExcept (need condition reason) : EStateM PyError File Unit) file =
          .ok () file := by
  cases condition with
  | true => exact .inr ⟨rfl, rfl⟩
  | false => exact .inl ⟨maintenanceError reason, rfl⟩

theorem checkCapability_looks (sight : Sight) (capability : Capability) (requireClaimed : Bool) :
    Looks (checkCapability store sight capability requireClaimed)
      (Checked capability requireClaimed) := by
  intro file
  unfold checkCapability
  rcases current_bind_cases store sight.disk _ file with raises | ⟨state, same, active, goes⟩
  · exact .inl raises
  rw [Raises, goes]
  rcases ofExcept_bind_cases sight.unchanged _ file with raises | ⟨_, _, goes⟩
  · exact .inl raises
  rw [goes]
  rcases need_bind_cases _ "revocation-generation-mismatch" _ file with raises | ⟨held, goes⟩
  · exact .inl raises
  rw [goes]
  have generation := beq_iff_eq.mp held
  cases requireClaimed with
  | true =>
    rcases need_cases _ "operation-not-live-claimed" file with raises | ⟨live, goes⟩
    · exact .inl raises
    · simp only [Bool.and_eq_true, decide_eq_true_eq] at live
      exact .inr ⟨state, same, ⟨active, generation, fun _ => live⟩, goes⟩
  | false =>
    rcases need_cases _ "operation-already-consumed" file with raises | ⟨_, goes⟩
    · exact .inl raises
    · exact .inr ⟨state, same, ⟨active, generation, by simp⟩, goes⟩

theorem verifyOperation_looks (sight : Sight)
    (operation : Operation) : Looks (verifyOperation store sight operation) fun _ => True := by
  intro file
  unfold verifyOperation
  rcases current_bind_cases store sight.disk _ file with raises | ⟨state, same, _, goes⟩
  · exact .inl raises
  rw [Raises, goes]
  rcases need_bind_cases _ "revocation-generation-mismatch" _ file with raises | ⟨_, goes⟩
  · exact .inl raises
  rw [goes]
  rcases need_bind_cases _ "operation-already-consumed" _ file with raises | ⟨_, goes⟩
  · exact .inl raises
  rw [goes]
  cases seen : sight.unchanged with
  | ok value => exact .inr ⟨state, same, True.intro, rfl⟩
  | error error => exact .inl ⟨error, rfl⟩

/-- What a move can do to the file. -/
inductive Rewrites : Move → File → File → Prop where
  | kept (move : Move) (file : File) : Rewrites move file file
  | started (move : Move) (store : MaintenanceStateStore) :
      Rewrites move none (some ⟨store.missionId, store.missionSha256, 0, .active, []⟩)
  | claimed (move : Move) {operation : Operation} {state after : State}
      (claims : Claims operation state after) : Rewrites move (some state) (some after)
  | settled {store : MaintenanceStateStore} {disk : Disk} {operationId : String}
      {operationSha256 : Digest} {outcome : Outcome} {state after : State}
      (settles : Settles operationId operationSha256 outcome state after) :
      Rewrites (.settle store disk operationId operationSha256 outcome) (some state) (some after)
  | revoked (move : Move) {completed : Bool} {state after : State}
      (revokes : Revokes completed state after) : Rewrites move (some state) (some after)

/-- The file that a section leaves, however it ends. -/
def leaves (program : EStateM PyError File Unit) (file : File) : File :=
  match program file with
  | .ok _ after => after
  | .error _ after => after

theorem Raises.file_left {file : File} (raises : Raises program file) :
    leaves program file = file := by
  obtain ⟨error, raised⟩ := raises
  unfold leaves
  rw [raised]

theorem Updates.file_left (updates : Updates program change) (file : File) :
    leaves program file = file ∨
      ∃ state after, file = some state ∧ leaves program file = some after ∧ change state after := by
  rcases updates file with raises | ⟨state, after, same, changed, done | ⟨error, raised⟩⟩
  · exact .inl raises.file_left
  · unfold leaves
    rw [done]
    exact .inr ⟨state, after, same, rfl, changed⟩
  · unfold leaves
    rw [raised]
    exact .inr ⟨state, after, same, rfl, changed⟩

theorem Looks.file_left (looks : Looks program seen) (file : File) :
    leaves program file = file := by
  rcases looks file with raises | ⟨state, same, _, done⟩
  · exact raises.file_left
  · unfold leaves
    rw [done]

variable {move : Move}

theorem Updates.rewrites (updates : Updates program change)
    (allowed : ∀ {state after}, change state after → Rewrites move (some state) (some after))
    (file : File) : Rewrites move file (leaves program file) := by
  rcases updates.file_left file with same | ⟨state, after, same, leaves', changed⟩
  · rw [same]
    exact .kept move file
  · rw [leaves', same]
    exact allowed changed

theorem Looks.rewrites (looks : Looks program seen) (file : File) :
    Rewrites move file (leaves program file) := by
  rw [looks.file_left file]
  exact .kept move file

namespace System

theorem perform_file (program : EStateM PyError File Unit) :
    (system.perform program).1.file = leaves program system.file := by
  unfold System.perform leaves
  cases program system.file <;> rfl

theorem verify_file (verifier : Nat) (sight : Sight) (operation : Operation) :
    (system.verify store verifier sight operation).1.file =
      leaves (verifyOperation store sight operation) system.file := by
  unfold System.verify leaves
  cases verifyOperation store sight operation system.file <;> rfl

theorem beginClaim_file (handle : Nat) (sight : Sight) (capability : Capability) :
    (system.beginClaim store handle sight capability).1.file =
      leaves (checkCapability store sight capability false) system.file := by
  unfold System.beginClaim leaves
  cases checkCapability store sight capability false system.file <;> rfl

theorem recordClaim_file (handle : Nat) (disk : Disk) (operation : Operation) :
    (system.recordClaim store handle disk operation).1.file =
      leaves (store.claimOperation disk operation.operationId operation.operationSha256
        operation.planSha256 operation.revocationGeneration) system.file := by
  unfold System.recordClaim leaves
  cases store.claimOperation disk operation.operationId operation.operationSha256
    operation.planSha256 operation.revocationGeneration system.file <;> rfl

theorem endClaim_file (handle : Nat) (sight : Sight) (capability : Capability) :
    (system.endClaim store handle sight capability).1.file =
      leaves (checkCapability store sight capability true) system.file :=
  system.perform_file (checkCapability store sight capability true)

theorem initialize_rewrites (move : Move)
    (file : File) : Rewrites move file (leaves (store.initialize' disk) file) := by
  cases file with
  | some state => exact .kept move (some state)
  | none =>
    have goes : store.initialize' disk none =
        write disk ⟨store.missionId, store.missionSha256, 0, .active, []⟩ none := rfl
    unfold leaves
    rw [goes]
    rcases write_cases disk ⟨store.missionId, store.missionSha256, 0, .active, []⟩ none with
      ⟨error, raised⟩ | done | ⟨error, raised⟩
    · rw [raised]
      exact .kept move none
    · rw [done]
      exact .started move store
    · rw [raised]
      exact .started move store

open Maintenance.System (step)

/-- Every move leaves the file as it is or rewrites it in one of the four ways. -/
theorem step_rewrites (store : Nat → MaintenanceStateStore) (system : System) (move : Move) :
    Rewrites move system.file (system.step store move).1.file := by
  cases move with
  | start store disk =>
    rw [step, perform_file]
    exact initialize_rewrites store disk _ system.file
  | claimOperation store disk operationId operationSha256 planSha256 generation =>
    rw [step, perform_file]
    exact (claimOperation_updates store disk
      ⟨operationId, generation, operationSha256, planSha256⟩).rewrites (.claimed _) system.file
  | settle store disk operationId operationSha256 outcome =>
    rw [step, perform_file]
    exact (settle_updates store disk operationId operationSha256 outcome).rewrites .settled
      system.file
  | revoke store disk completed =>
    rw [step, perform_file]
    exact (revoke_updates store disk completed).rewrites (.revoked _) system.file
  | verify verifier sight operation =>
    rw [step]
    split
    · exact .kept _ _
    · rw [verify_file]
      exact (verifyOperation_looks _ sight operation).rewrites system.file
  | beginClaim handle sight =>
    rw [step]
    split
    · split
      · exact .kept _ _
      · rw [beginClaim_file]
        exact (checkCapability_looks _ sight _ false).rewrites system.file
    · exact .kept _ _
  | recordClaim handle disk =>
    rw [step]
    split
    · split
      · rw [recordClaim_file]
        exact (claimOperation_updates _ disk _).rewrites (.claimed _) system.file
      · exact .kept _ _
    · exact .kept _ _
  | endClaim handle sight =>
    rw [step]
    split
    · split
      · rw [endClaim_file]
        exact (checkCapability_looks _ sight _ true).rewrites system.file
      · exact .kept _ _
    · exact .kept _ _
  | revalidate handle sight requireClaimed =>
    rw [step]
    split
    · split
      · exact .kept _ _
      · rw [perform_file]
        exact (checkCapability_looks _ sight _ requireClaimed).rewrites system.file
    · exact .kept _ _

end System

/-- A later row of the same operation: settled at most, and then for good. -/
structure OperationRow.Onward (row later : OperationRow) : Prop where
  operationSha256 : later.operationSha256 = row.operationSha256
  planSha256 : later.planSha256 = row.planSha256
  outcome : ∀ outcome, row.outcome = some outcome → later.outcome = some outcome

/-- The rows of a file stay, its generation does not fall, and an inactive authority stays so. -/
structure Grows (before after : File) : Prop where
  rows : ∀ operationId row, rowOf before operationId = some row →
    ∃ later, rowOf after operationId = some later ∧ row.Onward later
  generation : generationOf before ≤ generationOf after
  inactive : Inactive before → Inactive after

theorem OperationRow.Onward.refl (row : OperationRow) : row.Onward row :=
  ⟨rfl, rfl, fun _ settled => settled⟩

theorem Grows.refl : Grows file file :=
  ⟨fun _ row here => ⟨row, here, .refl row⟩, Nat.le_refl _, id⟩

theorem Grows.trans {first second third : File} (early : Grows first second)
    (late : Grows second third) : Grows first third := by
  constructor
  · intro operationId row here
    obtain ⟨middle, there, onward⟩ := early.rows operationId row here
    obtain ⟨later, found, further⟩ := late.rows operationId middle there
    refine ⟨later, found, further.operationSha256.trans onward.operationSha256,
      further.planSha256.trans onward.planSha256, ?_⟩
    intro outcome settled
    exact further.outcome outcome (onward.outcome outcome settled)
  · exact Nat.le_trans early.generation late.generation
  · intro inactive
    exact late.inactive (early.inactive inactive)

theorem Grows.setRow {state : State} {row : OperationRow}
    (replaces : ∀ old, state.row operationId = some old → old.Onward row) :
    Grows (some state) (some (state.setRow operationId row)) := by
  constructor
  · intro other old here
    have found : rowOf (some (state.setRow operationId row)) other =
        if other = operationId then some row else state.row other :=
      State.row_setRow state operationId other row
    rw [found]
    split
    · rename_i same
      subst same
      exact ⟨row, rfl, replaces old here⟩
    · exact ⟨old, here, .refl old⟩
  · exact Nat.le_refl _
  · rintro ⟨current, same, inactive⟩
    cases same
    exact ⟨_, rfl, inactive⟩

theorem Rewrites.grows {before after : File} (rewrites : Rewrites move before after) :
    Grows before after := by
  cases rewrites with
  | kept => exact .refl before
  | started =>
    constructor
    · intro operationId row absent
      cases absent
    · exact Nat.zero_le _
    · rintro ⟨state, absent, _⟩
      cases absent
  | claimed _ claims =>
    obtain ⟨_, _, fresh, rfl⟩ := claims
    apply Grows.setRow
    intro old present
    rw [fresh] at present
    cases present
  | settled settles =>
    obtain ⟨planSha256, live, rfl⟩ := settles
    apply Grows.setRow
    intro old present
    rw [live] at present
    cases present
    exact ⟨rfl, rfl, fun _ settled => by cases settled⟩
  | revoked _ revokes =>
    obtain ⟨active, rfl⟩ := revokes
    constructor
    · intro operationId row here
      exact ⟨row, here, .refl row⟩
    · exact Nat.le_succ _
    · rintro ⟨current, same, inactive⟩
      cases same
      exact absurd active inactive

end WorkOrchestration.Native.Maintenance
