import WorkOrchestration.Lib.Binary64
import WorkOrchestration.Lib.Deadlines
import WorkOrchestration.Lib.Runs
import WorkOrchestration.Native.Documents
import WorkOrchestration.Native.Scheduler

/-!
# Deadlines of documents

Children as they are read, the earliest deadline in turn from a cursor on, and the guard that
looks at all peers before a callback.
-/

namespace WorkOrchestration.Native.DeadlineScheduling

open List Lib.Binary64 Lib.Deadlines Lib.Runs Artifacts
open Scheduler (candidate schedulingError)
open Option (bind_eq_some_iff map_eq_some_iff map_some)

/-! ## Children -/

/-- A child as the scheduler reads it. -/
structure Child where
  childId : Json
  deadlineNs : Option Nat

def require (condition : Bool) (code : String) : Except PyError Unit :=
  if condition then .ok () else .error (schedulingError code)

/-- `isinstance(child_id, str) and child_id`. -/
def isChildId : Json → Bool
  | .str text => text ≠ ""
  | .sha256 _ => true
  | _ => false

/-- `next_deadline_ns`. -/
def readDeadline : Json → Except PyError (Option Nat)
  | .null => .ok none
  | .int (.ofNat deadlineNs) => .ok (some deadlineNs)
  | _ => .error (schedulingError "child-deadline-invalid")

/-- The children from a position on, the identifiers before it being taken. -/
def readChildren : List Json → List Json → Except PyError (List Child)
  | _, [] => .ok []
  | seen, child :: rest => do
      let childId := child.value "child_id"
      require (isChildId childId) "child-id-invalid"
      require (childId ∉ seen) "duplicate-child-id"
      let deadlineNs ← readDeadline (child.value "next_deadline_ns")
      return ⟨childId, deadlineNs⟩ :: (← readChildren (childId :: seen) rest)

/-- A cursor within the cohort. -/
def readCursor (count : Nat) : Json → Except PyError Nat
  | .int (.ofNat cursor) =>
    if cursor < count then .ok cursor else .error (schedulingError "scheduler-cursor-out-of-range")
  | _ => .error (schedulingError "scheduler-cursor-out-of-range")

/-! ## Selections -/

/-- `SchedulerSelection`. -/
structure Selection where
  childId : Json
  ordinal : Nat
  deadlineNs : Nat
  nextCursor : Nat

variable (children : List Child)

def deadlineAt (ordinal : Nat) : Option Nat :=
  children[ordinal]?.bind Child.deadlineNs

def earliest? : Option Nat := (children.filterMap Child.deadlineNs).min?

def selection (ordinal deadlineNs : Nat) : Option Selection :=
  children[ordinal]?.map fun child =>
    ⟨child.childId, ordinal, deadlineNs, (ordinal + 1) % children.length⟩

/-- `select_earliest_deadline` of children that have been read. -/
def select (cursor : Nat) : Option Selection := do
  let earliest ← earliest? children
  let ordinal ← (Scheduler.rotation cursor children.length).find? fun ordinal =>
    deadlineAt children ordinal = some earliest
  selection children ordinal earliest

def selectEarliestDeadline (children : List Json) (cursor : Json) :
    Except PyError (Option Selection) :=
  if children = [] then .ok none
  else do
    let cursor ← readCursor children.length cursor
    let children ← readChildren [] children
    return select children cursor

/-! ## The guard -/

/-- `now_ns`. -/
def readTime : Json → Except PyError Nat
  | .int (.ofNat nowNs) => .ok nowNs
  | _ => .error (schedulingError "monotonic-time-invalid")

/-- The largest finite double is less than this. -/
def doubleLimit : ℚ := 2 ^ 1024

/-- `OverflowError`. -/
def overflowError (message : String) : PyError := ⟨.other, "OverflowError", message⟩

/-- `math.ceil(float(value) * 1_000_000)` of a value that is not negative. -/
def nanoseconds (value : ℚ) : Except PyError Nat :=
  if doubleLimit ≤ binary64 value then .error (overflowError "int too large to convert to float")
  else if doubleLimit ≤ binary64 (binary64 value * 1000000) then
    .error (overflowError "cannot convert float infinity to integer")
  else .ok ⌈binary64 (binary64 value * 1000000)⌉.toNat

/-- `duration_ns`; a float with the denominator zero is none of the finite ones. -/
def durationNs (field : String) : Json → Except PyError Nat
  | .int (.ofNat value) => nanoseconds value
  | .ratio numerator denominator =>
    if denominator = 0 ∨ numerator < 0 then .error (schedulingError (field ++ "-invalid"))
    else nanoseconds (numerator / denominator)
  | _ => .error (schedulingError (field ++ "-invalid"))

/-- A peer of the proposed child: where it stands, and its deadline. -/
structure Peer where
  ordinal : Nat
  childId : Json
  deadlineNs : Nat

def peers (proposed : Json) : List Peer :=
  children.zipIdx.filterMap fun entry =>
    if entry.1.childId = proposed then none
    else entry.1.deadlineNs.map fun deadlineNs => ⟨entry.2, entry.1.childId, deadlineNs⟩

/-- Whether a peer is sorted before another one. -/
def Peer.Before (cursor count : Nat) (first second : Peer) : Prop :=
  first.deadlineNs < second.deadlineNs ∨ first.deadlineNs = second.deadlineNs ∧
      turn cursor count first.ordinal ≤ turn cursor count second.ordinal

instance (cursor count : Nat) : DecidableRel (Peer.Before cursor count) :=
  fun _ _ => inferInstanceAs (Decidable (_ ∨ _))

def ordered (proposed : Json) (cursor : Nat) : List Peer :=
  (peers children proposed).insertionSort (Peer.Before cursor children.length)

/-- The peer that is served first where some peer of those in order would be late. -/
def guarded (count startNs checkNs : Nat) (ordered : List Peer) : Option Selection :=
  match ordered with
  | [] => none
  | first :: _ =>
    if ∃ entry ∈ ordered.zipIdx, entry.1.deadlineNs ≤ startNs + (entry.2 + 1) * checkNs then
      some ⟨first.childId, first.ordinal, first.deadlineNs, (first.ordinal + 1) % count⟩
    else none

def peerDeadlineGuard (children : List Json) (cursor proposed nowNs callbackMs checkMs overheadMs : Json) :
    Except PyError (Option Selection) := do
  let nowNs ← readTime nowNs
  require (isChildId proposed) "proposed-child-id-invalid"
  let proposedNs ← durationNs "certified-callback-latency" callbackMs
  let checkNs ← durationNs "certified-peer-check-latency" checkMs
  let overheadNs ← durationNs "certified-scheduler-overhead" overheadMs
  require (proposed ∈ children.map fun child => child.value "child_id") "proposed-child-unknown"
  let cursor ← readCursor children.length cursor
  let children ← readChildren [] children
  return guarded children.length (nowNs + proposedNs + overheadNs) checkNs
    (ordered children proposed cursor)

/-! ## What is selected -/

section

variable {children : List Child} {cursor ordinal other deadlineNs : Nat} {chosen : Selection}

structure Earliest (children : List Child) (ordinal deadlineNs : Nat) : Prop where
  due : deadlineAt children ordinal = some deadlineNs
  least : ∀ other deadlineNs', deadlineAt children other = some deadlineNs' → deadlineNs ≤ deadlineNs'

theorem deadlineAt_lt (due : deadlineAt children ordinal = some deadlineNs) :
    ordinal < children.length := by
  obtain ⟨child, found, _⟩ := bind_eq_some_iff.mp due
  exact (List.getElem?_eq_some_iff.mp found).1

theorem mem_deadlines : deadlineNs ∈ children.filterMap Child.deadlineNs ↔
      ∃ ordinal, deadlineAt children ordinal = some deadlineNs := by
  rw [mem_filterMap]
  constructor
  · rintro ⟨child, member, due⟩
    obtain ⟨ordinal, found⟩ := mem_iff_getElem?.mp member
    exact ⟨ordinal, bind_eq_some_iff.mpr ⟨child, found, due⟩⟩
  · rintro ⟨ordinal, due⟩
    obtain ⟨child, found, due⟩ := bind_eq_some_iff.mp due
    exact ⟨child, mem_of_getElem? found, due⟩

theorem earliest?_eq_some :
    earliest? children = some deadlineNs ↔ ∃ ordinal, Earliest children ordinal deadlineNs := by
  unfold earliest?
  rw [min?_eq_some_iff, mem_deadlines]
  constructor
  · rintro ⟨⟨ordinal, due⟩, least⟩
    exact ⟨ordinal, due, fun other deadlineNs' due' => least _ (mem_deadlines.mpr ⟨other, due'⟩)⟩
  · rintro ⟨ordinal, earliest⟩
    refine ⟨⟨ordinal, earliest.due⟩, fun deadlineNs' member => ?_⟩
    obtain ⟨other, due⟩ := mem_deadlines.mp member
    exact earliest.least other deadlineNs' due

/-- The ordinals take turns from the cursor on. -/
theorem rotation_ascending (within : cursor ≤ children.length) :
    (Scheduler.rotation cursor children.length).Pairwise fun first second =>
      turn cursor children.length first < turn cursor children.length second := by
  refine pairwise_append.mpr ⟨?_, ?_, ?_⟩
  · refine List.Pairwise.imp_of_mem ?_ (pairwise_lt_range' 1 Nat.one_pos)
    intro first second firstMember secondMember ascending
    obtain ⟨firstBehind, firstWithin⟩ := mem_range'_1.mp firstMember
    obtain ⟨secondBehind, secondWithin⟩ := mem_range'_1.mp secondMember
    rw [turn_of_le firstBehind (by omega), turn_of_le secondBehind (by omega)]
    omega
  · refine List.Pairwise.imp_of_mem ?_ pairwise_lt_range
    intro first second firstMember secondMember ascending
    rw [turn_of_lt (mem_range.mp firstMember) within, turn_of_lt (mem_range.mp secondMember) within]
    omega
  · intro first firstMember second secondMember
    obtain ⟨behind, below⟩ := mem_range'_1.mp firstMember
    have ahead := mem_range.mp secondMember
    rw [turn_of_le behind (by omega), turn_of_lt ahead within]
    omega

theorem mem_rotation_iff (within : cursor ≤ children.length) :
    ordinal ∈ Scheduler.rotation cursor children.length ↔ ordinal < children.length := by
  rw [Scheduler.rotation, mem_append, mem_range'_1, mem_range]
  omega

/-- Of the children with the earliest deadline, the one whose turn comes first is selected. -/
structure Selects (children : List Child) (cursor : Nat) (chosen : Selection) : Prop where
  earliest : Earliest children chosen.ordinal chosen.deadlineNs
  first : ∀ other, deadlineAt children other = some chosen.deadlineNs →
    turn cursor children.length chosen.ordinal ≤ turn cursor children.length other
  named : selection children chosen.ordinal chosen.deadlineNs = some chosen

theorem Selects.select (selects : Selects children cursor chosen) (within : cursor ≤ children.length) :
    select children cursor = some chosen := by
  have first : (Scheduler.rotation cursor children.length).find? (fun ordinal =>
      deadlineAt children ordinal = some chosen.deadlineNs) = some chosen.ordinal := by
    refine (find?_eq_some_iff_least (rotation_ascending within)).mpr ⟨?_, ?_, ?_⟩
    · exact (mem_rotation_iff within).mpr (deadlineAt_lt selects.earliest.due)
    · exact decide_eq_true selects.earliest.due
    · intro other _ due
      exact selects.first other (of_decide_eq_true due)
  unfold DeadlineScheduling.select
  rw [earliest?_eq_some.mpr ⟨_, selects.earliest⟩]
  change (List.find? _ _).bind _ = _
  rw [first]
  exact selects.named

theorem select_selects (within : cursor ≤ children.length) (selected : select children cursor = some chosen) :
    Selects children cursor chosen := by
  obtain ⟨earliest, least, selected⟩ := bind_eq_some_iff.mp selected
  obtain ⟨ordinal, found, named⟩ := bind_eq_some_iff.mp selected
  obtain ⟨_, due, first⟩ := (find?_eq_some_iff_least (rotation_ascending within)).mp found
  obtain ⟨child, there, same⟩ := map_eq_some_iff.mp named
  obtain ⟨_, minimal⟩ := earliest?_eq_some.mp least
  have here : deadlineAt children ordinal = some earliest := of_decide_eq_true due
  subst same
  refine ⟨⟨here, minimal.least⟩, fun other due' => ?_, named⟩
  exact first other ((mem_rotation_iff within).mpr (deadlineAt_lt due')) (decide_eq_true due')

end

/-! ## Rotation -/

/-- A call of `select_earliest_deadline` that made a selection. -/
structure Call where
  children : List Json
  cohort : List Child
  cursor : Nat
  chosen : Selection
  read : readChildren [] children = .ok cohort
  returned : selectEarliestDeadline children (.nat cursor) = .ok (some chosen)

namespace Call

/-- The child with this identifier has the earliest deadline of all that have one. -/
def Due (call : Call) (childId : Json) : Prop :=
  ∃ ordinal child deadlineNs, call.cohort[ordinal]? = some child ∧ child.childId = childId ∧
    Earliest call.cohort ordinal deadlineNs

end Call

theorem readCursor_ok {count cursor : Nat} {given : Json} (read : readCursor count given = .ok cursor) :
    given = .nat cursor ∧ cursor < count := by
  unfold readCursor at read
  split at read
  · split at read
    · rename_i within
      cases read
      exact ⟨rfl, within⟩
    · cases read
  · cases read

theorem readCursor_nat {count cursor : Nat} (within : cursor < count) :
    readCursor count (.nat cursor) = .ok cursor := if_pos within

theorem require_ok {condition : Bool} {code : String} {done : Unit}
    (passed : require condition code = .ok done) : condition = true := by
  cases condition with
  | true => rfl
  | false => cases passed

variable {cohort : List Child}

theorem readChildren_cons {seen rest : List Json} {child : Json} :
    readChildren seen (child :: rest) = .ok cohort ↔
      isChildId (child.value "child_id") = true ∧ child.value "child_id" ∉ seen ∧
        ∃ deadlineNs others, readDeadline (child.value "next_deadline_ns") = .ok deadlineNs ∧
          readChildren (child.value "child_id" :: seen) rest = .ok others ∧
          cohort = ⟨child.value "child_id", deadlineNs⟩ :: others := by
  constructor
  · intro read
    obtain ⟨_, named, read⟩ := bind_ok read
    obtain ⟨_, fresh, read⟩ := bind_ok read
    obtain ⟨deadlineNs, due, read⟩ := bind_ok read
    obtain ⟨others, later, read⟩ := bind_ok read
    cases read
    exact ⟨require_ok named, of_decide_eq_true (require_ok fresh), deadlineNs, others, due, later, rfl⟩
  · rintro ⟨named, fresh, deadlineNs, others, due, later, rfl⟩
    unfold readChildren
    dsimp only
    rw [named, decide_eq_true fresh, due, later]
    rfl

variable {seen children : List Json}

theorem readChildren_length
    (read : readChildren seen children = .ok cohort) : cohort.length = children.length := by
  induction children generalizing seen cohort with
  | nil =>
    cases read
    rfl
  | cons child rest ih =>
    obtain ⟨_, _, _, others, _, later, rfl⟩ := readChildren_cons.mp read
    exact congrArg Nat.succ (ih later)

theorem readChildren_distinct (read : readChildren seen children = .ok cohort) :
    (cohort.map Child.childId).Nodup ∧ ∀ childId ∈ cohort.map Child.childId, childId ∉ seen := by
  induction children generalizing seen cohort with
  | nil =>
    cases read
    exact ⟨nodup_nil, by simp⟩
  | cons child rest ih =>
    obtain ⟨_, fresh, _, others, _, later, rfl⟩ := readChildren_cons.mp read
    obtain ⟨distinct, apart⟩ := ih later
    constructor
    · refine nodup_cons.mpr ⟨fun member => ?_, distinct⟩
      exact apart _ member mem_cons_self
    · intro childId member
      rcases mem_cons.mp member with rfl | member
      · exact fresh
      · exact fun old => apart childId member (mem_cons_of_mem _ old)

theorem Call.selects (call : Call) :
    call.cursor < call.cohort.length ∧ Selects call.cohort call.cursor call.chosen := by
  have nonempty : call.children ≠ [] := by
    intro empty
    have returned := call.returned
    rw [empty] at returned
    cases returned
  have returned := call.returned
  unfold selectEarliestDeadline at returned
  rw [if_neg nonempty] at returned
  obtain ⟨cursor, within, returned⟩ := bind_ok returned
  obtain ⟨cohort, read, returned⟩ := bind_ok returned
  obtain ⟨same, within⟩ := readCursor_ok within
  cases same
  cases call.read.symm.trans read
  rw [← readChildren_length call.read] at within
  exact ⟨within, select_selects within.le (Except.ok.inj returned)⟩

/-- A cohort over which the calls rotate: the same children in the same places, one call's next
cursor being the cursor of the next one. -/
structure Rotates (childIds : List Json) (start : Nat) (calls : List Call) : Prop where
  cohort : ∀ call ∈ calls, call.cohort.map Child.childId = childIds
  threaded : Linked Call.cursor (fun call => call.chosen.nextCursor) start calls

/-- A child that was due and was not selected has come closer to its turn. -/
theorem Call.closer {call : Call} {childIds : List Json} {place : Nat} {childId : Json}
    (cohort : call.cohort.map Child.childId = childIds) (there : childIds[place]? = some childId)
    (due : call.Due childId) (passed : call.chosen.childId ≠ childId) :
    turn call.chosen.nextCursor childIds.length place < turn call.cursor childIds.length place := by
  obtain ⟨within, selects⟩ := call.selects
  obtain ⟨ordinal, child, deadlineNs, found, named, earliest⟩ := due
  have distinct := (readChildren_distinct call.read).1
  have count : childIds.length = call.cohort.length := by rw [← cohort, length_map]
  have placed : (call.cohort.map Child.childId)[ordinal]? = some childId := by
    rw [getElem?_map, found, ← named]
    rfl
  have same : ordinal = place := by
    rw [← cohort] at there
    exact (List.getElem?_inj (List.getElem?_eq_some_iff.mp placed).1 distinct).mp
      (placed.trans there.symm)
  subst same
  obtain ⟨chosenChild, chosenThere, same⟩ := map_eq_some_iff.mp selects.named
  have tied : deadlineNs = call.chosen.deadlineNs :=
    le_antisymm (earliest.least _ _ selects.earliest.due) (selects.earliest.least _ _ earliest.due)
  have first := selects.first ordinal (tied ▸ earliest.due)
  have apart : call.chosen.ordinal ≠ ordinal := by
    intro equal
    rw [equal, found] at chosenThere
    cases chosenThere
    exact passed (by rw [← same]; exact named)
  have bound := deadlineAt_lt earliest.due
  have bound' := deadlineAt_lt selects.earliest.due
  rw [count, ← same]
  exact turn_advance within bound' bound (lt_of_le_of_ne first fun equal =>
    apart (turn_injective within.le bound' bound equal))

theorem length_le_turn {childIds : List Json} {start place : Nat} {window : List Call} {childId : Json}
    (linked : Linked Call.cursor (fun call => call.chosen.nextCursor) start window)
    (cohort : ∀ call ∈ window, call.cohort.map Child.childId = childIds)
    (there : childIds[place]? = some childId) (due : ∀ call ∈ window, call.Due childId)
    (passed : ∀ call ∈ window, call.chosen.childId ≠ childId) :
    window.length ≤ turn start childIds.length place := by
  induction window generalizing start with
  | nil => exact Nat.zero_le _
  | cons call rest ih =>
    obtain ⟨begins, later⟩ := linked
    have closer := call.closer (cohort call mem_cons_self) there (due call mem_cons_self)
      (passed call mem_cons_self)
    have others := ih later (forall_mem_cons.mp cohort).2 (forall_mem_cons.mp due).2
      (forall_mem_cons.mp passed).2
    rw [← begins]
    exact Nat.succ_le_of_lt (Nat.lt_of_le_of_lt others closer)

/-- A child that is due in as many consecutive calls as there are children is selected in one of them. -/
theorem rotation_fair {childIds : List Json} {start : Nat} {calls window : List Call} {childId : Json}
    (rotates : Rotates childIds start calls) (consecutive : window <:+: calls)
    (length : window.length = childIds.length) (member : childId ∈ childIds)
    (due : ∀ call ∈ window, call.Due childId) : ∃ call ∈ window, call.chosen.childId = childId := by
  by_contra never
  obtain ⟨place, there⟩ := mem_iff_getElem?.mp member
  obtain ⟨cursor, linked⟩ := rotates.threaded.consecutive consecutive
  have fewer := length_le_turn linked
    (fun call among => rotates.cohort call (consecutive.subset among)) there due
    (fun call among same => never ⟨call, among, same⟩)
  have within := @turn_lt cursor _ _ (List.getElem?_eq_some_iff.mp there).1
  exact absurd fewer (Nat.not_le.mpr (length ▸ within))

def sampleChildren : List Json :=
  [.obj [("child_id", .str "first"), ("next_deadline_ns", .int 5)],
    .obj [("child_id", .str "second"), ("next_deadline_ns", .int 5)]]

def sampleCohort : List Child := [⟨.str "first", some 5⟩, ⟨.str "second", some 5⟩]

theorem sample_read : readChildren [] sampleChildren = .ok sampleCohort := rfl

theorem sample_first : selectEarliestDeadline sampleChildren (.nat 0) =
    .ok (some ⟨.str "first", 0, 5, 1⟩) := rfl

theorem sample_second : selectEarliestDeadline sampleChildren (.nat 1) =
    .ok (some ⟨.str "second", 1, 5, 0⟩) := rfl

def firstCall : Call := ⟨sampleChildren, sampleCohort, 0, _, sample_read, sample_first⟩

def secondCall : Call := ⟨sampleChildren, sampleCohort, 1, _, sample_read, sample_second⟩

theorem sample_due {call : Call} (member : call ∈ [firstCall, secondCall]) :
    call.Due (.str "second") := by
  have earliest : Earliest sampleCohort 1 5 := by
    refine ⟨rfl, fun other deadlineNs due => ?_⟩
    rcases other with _ | _ | other
    · exact (Option.some.inj due).le
    · exact (Option.some.inj due).le
    · cases due
  have same : call.cohort = sampleCohort := by
    rcases mem_pair.mp member with rfl | rfl
    · rfl
    · rfl
  refine ⟨1, ⟨.str "second", some 5⟩, 5, ?_, rfl, same ▸ earliest⟩
  rw [same]
  rfl

theorem rotation_fair_sample :
    ∃ call ∈ [firstCall, secondCall], call.chosen.childId = .str "second" := by
  have cohort (call : Call) (member : call ∈ [firstCall, secondCall]) :
      call.cohort.map Child.childId = [.str "first", .str "second"] := by
    rcases mem_pair.mp member with rfl | rfl
    · rfl
    · rfl
  exact rotation_fair ⟨cohort, rfl, rfl, True.intro⟩ (infix_refl _) rfl
    (mem_cons_of_mem _ mem_cons_self) fun _ member => sample_due member

/-! ## The children of a pool -/

section

open PoolStates (ChildState)

/-- A child of a pool as the scheduler reads it. -/
def entry (child : ChildState) : Child := ⟨.str child.childId.text, child.nextDeadlineNs⟩

def rendered (chosen : Scheduler.Selection) : Selection :=
  ⟨.str chosen.childId.text, chosen.ordinal, chosen.deadlineNs, chosen.nextCursor⟩

theorem candidate_rendered (children : List ChildState) (deadlineNs ordinal : Nat) :
    (candidate children deadlineNs ordinal).map rendered =
      if deadlineAt (children.map entry) ordinal = some deadlineNs then
        selection (children.map entry) ordinal deadlineNs
      else none := by
  unfold candidate deadlineAt selection
  rw [getElem?_map, length_map]
  cases children[ordinal]? with
  | none => rfl
  | some child =>
    have same : (Option.map entry (some child)).bind Child.deadlineNs = child.nextDeadlineNs := rfl
    rw [same]
    dsimp only
    by_cases due : child.nextDeadlineNs = some deadlineNs
    · rw [if_pos due, if_pos due]
      rfl
    · rw [if_neg due, if_neg due]
      rfl

theorem findSome_rendered (children : List ChildState) (deadlineNs : Nat) (ordinals : List Nat) :
    (ordinals.findSome? (candidate children deadlineNs)).map rendered =
      (ordinals.find? fun ordinal => deadlineAt (children.map entry) ordinal = some deadlineNs).bind
        fun ordinal => selection (children.map entry) ordinal deadlineNs := by
  induction ordinals with
  | nil => rfl
  | cons ordinal rest ih =>
    have here := candidate_rendered children deadlineNs ordinal
    by_cases due : deadlineAt (children.map entry) ordinal = some deadlineNs
    · obtain ⟨child, there, _⟩ := bind_eq_some_iff.mp due
      have selected : selection (children.map entry) ordinal deadlineNs =
          some ⟨child.childId, ordinal, deadlineNs, (ordinal + 1) % (children.map entry).length⟩ := by
        unfold selection
        rw [there]
        rfl
      rw [if_pos due, selected] at here
      obtain ⟨chosen, found, _⟩ := map_eq_some_iff.mp here
      rw [findSome?_cons, found, find?_cons, decide_eq_true due]
      change some (rendered chosen) = selection _ _ _
      rw [selected, ← here, found]
      rfl
    · rw [if_neg due] at here
      rw [findSome?_cons, Option.map_eq_none_iff.mp here, find?_cons, decide_eq_false due]
      exact ih

theorem pool_select {children : List ChildState} {cursor : Nat} (within : cursor < children.length)
    (distinct : (children.map ChildState.childId).Nodup) :
    ∃ due, Scheduler.selectEarliestDeadline children cursor = .ok due ∧
      due.map rendered = select (children.map entry) cursor := by
  have nonempty : children ≠ [] := ne_nil_of_length_pos (Nat.zero_lt_of_lt within)
  have deadlines : (children.map entry).filterMap Child.deadlineNs =
      children.filterMap ChildState.nextDeadlineNs := by
    rw [filterMap_map]
    rfl
  unfold Scheduler.selectEarliestDeadline select earliest?
  rw [if_neg nonempty, if_neg (Nat.not_le.mpr within), if_neg (not_not.mpr distinct), deadlines]
  cases (children.filterMap ChildState.nextDeadlineNs).min? with
  | none => exact ⟨none, rfl, rfl⟩
  | some earliest =>
    refine ⟨_, rfl, ?_⟩
    rw [findSome_rendered, length_map]
    rfl

theorem readChildren_pool {children : List ChildState} {seen : List Json}
    (distinct : (children.map ChildState.childId).Nodup)
    (fresh : ∀ child ∈ children, Json.str child.childId.text ∉ seen) :
    readChildren seen (children.map ChildState.json) = .ok (children.map entry) := by
  induction children generalizing seen with
  | nil => rfl
  | cons child rest ih =>
    obtain ⟨apart, distinct⟩ := nodup_cons.mp distinct
    refine readChildren_cons.mpr ⟨?_, fresh child mem_cons_self, child.nextDeadlineNs, rest.map entry, ?_, ?_,
      rfl⟩
    · exact decide_eq_true child.childId.visible.ne_empty
    · cases due : child.nextDeadlineNs <;> simp [ChildState.json, due] <;> rfl
    · refine ih distinct fun other member listed => ?_
      rcases mem_cons.mp listed with same | old
      · have texts : other.childId.text = child.childId.text := Json.str.inj same
        have ids : other.childId = child.childId := Lib.Text.Name.text_injective texts
        exact apart (ids ▸ mem_map_of_mem member)
      · exact fresh other (mem_cons_of_mem _ member) old

/-- The pool selects the child with the earliest deadline, and of several the one whose turn comes first; and
it selects what is selected of its children's documents. -/
theorem earliest_in_turn {children : List ChildState} {cursor : Nat} (within : cursor < children.length)
    (distinct : (children.map ChildState.childId).Nodup) :
    ∃ due, Scheduler.selectEarliestDeadline children cursor = .ok due ∧
      selectEarliestDeadline (children.map ChildState.json) (.nat cursor) = .ok (due.map rendered) ∧
      ∀ chosen, due.map rendered = some chosen ↔ Selects (children.map entry) cursor chosen := by
  obtain ⟨due, done, same⟩ := pool_select within distinct
  have turns : cursor ≤ (children.map entry).length := by
    rw [length_map]
    exact within.le
  refine ⟨due, done, ?_, fun chosen => ?_⟩
  · have nonempty : children.map ChildState.json ≠ [] :=
      ne_nil_of_length_pos (by rw [length_map]; exact Nat.zero_lt_of_lt within)
    unfold selectEarliestDeadline
    rw [if_neg nonempty, length_map, readCursor_nat within, readChildren_pool distinct (by simp), same]
    rfl
  · rw [same]
    exact ⟨select_selects turns, fun selects => selects.select turns⟩

def samplePoolChild (childId : Lib.Text.Name) (deadlineNs : Option Nat) : ChildState :=
  ⟨0, childId, .running, .active, none, none, deadlineNs, none, none, Accounting.zeroUsage,
    PoolContracts.sampleLease⟩

/-- Two children with the same deadline, one with a later one, and one without; the turn of the third comes
before that of the first. -/
def samplePool : List ChildState :=
  [samplePoolChild PoolContracts.sampleChild (some 7), samplePoolChild PoolContracts.sampleUnit none,
    samplePoolChild PoolContracts.sampleBead (some 7), samplePoolChild PoolContracts.sampleTurn (some 9)]

theorem earliest_in_turn_sample : ∃ due, Scheduler.selectEarliestDeadline samplePool 1 = .ok due ∧
    selectEarliestDeadline (samplePool.map ChildState.json) (.nat 1) = .ok (due.map rendered) ∧
    ∀ chosen, due.map rendered = some chosen ↔ Selects (samplePool.map entry) 1 chosen :=
  earliest_in_turn (by decide) (by decide)

end

/-! ## Peers -/

section

variable {children : List Child} {cursor : Nat} {proposed : Json} {peer : Peer}

theorem mem_peers : peer ∈ peers children proposed ↔
      ∃ child, children[peer.ordinal]? = some child ∧ child.childId ≠ proposed ∧
        child.deadlineNs = some peer.deadlineNs ∧ child.childId = peer.childId := by
  unfold peers
  rw [mem_filterMap]
  constructor
  · rintro ⟨⟨child, ordinal⟩, listed, found⟩
    rw [mem_zipIdx_iff_getElem?] at listed
    by_cases same : child.childId = proposed
    · rw [if_pos same] at found
      cases found
    · rw [if_neg same] at found
      obtain ⟨deadlineNs, due, rfl⟩ := map_eq_some_iff.mp found
      exact ⟨child, listed, same, due, rfl⟩
  · rintro ⟨child, found, other, due, named⟩
    refine ⟨(child, peer.ordinal), mem_zipIdx_iff_getElem?.mpr found, ?_⟩
    rw [if_neg other, due, named]
    rfl

def unproposed (children : List Child) (proposed : Json) : List Child :=
  children.map fun child => if child.childId = proposed then { child with deadlineNs := none } else child

theorem deadlineAt_unproposed {ordinal deadlineNs : Nat} :
    deadlineAt (unproposed children proposed) ordinal = some deadlineNs ↔
      ∃ peer ∈ peers children proposed, peer.ordinal = ordinal ∧ peer.deadlineNs = deadlineNs := by
  unfold deadlineAt unproposed
  rw [getElem?_map, bind_eq_some_iff]
  constructor
  · rintro ⟨_, found, due⟩
    obtain ⟨child, there, rfl⟩ := map_eq_some_iff.mp found
    by_cases same : child.childId = proposed
    · rw [if_pos same] at due
      cases due
    · rw [if_neg same] at due
      exact ⟨⟨ordinal, child.childId, deadlineNs⟩, mem_peers.mpr ⟨child, there, same, due, rfl⟩, rfl, rfl⟩
  · rintro ⟨peer, member, rfl, rfl⟩
    obtain ⟨child, there, other, due, _⟩ := mem_peers.mp member
    refine ⟨child, ?_, due⟩
    rw [there]
    exact congrArg some (if_neg other)

theorem Peer.Before.trans {count : Nat} {first second third : Peer}
    (before : first.Before cursor count second) (after : second.Before cursor count third) :
    first.Before cursor count third := by
  unfold Peer.Before at *
  omega

theorem Peer.Before.total (cursor count : Nat) (first second : Peer) :
    first.Before cursor count second ∨ second.Before cursor count first := by
  unfold Peer.Before
  omega

theorem ordered_perm : (ordered children proposed cursor).Perm (peers children proposed) :=
  perm_insertionSort _ _

theorem ordered_sorted :
    (ordered children proposed cursor).Pairwise (Peer.Before cursor children.length) :=
  haveI : Std.Total (Peer.Before cursor children.length) := ⟨Peer.Before.total cursor children.length⟩
  haveI : IsTrans Peer (Peer.Before cursor children.length) := ⟨fun _ _ _ => Peer.Before.trans⟩
  pairwise_insertionSort _ _

theorem guarded_eq_none {count startNs checkNs : Nat} {ordered : List Peer} :
    guarded count startNs checkNs ordered = none ↔
      InTime Peer.deadlineNs (fun _ => checkNs) startNs ordered := by
  rw [inTime_iff_places]
  cases ordered with
  | nil =>
    refine ⟨fun _ place peer found => ?_, fun _ => rfl⟩
    cases found
  | cons first rest =>
    unfold guarded
    dsimp only
    constructor
    · intro passes place peer found
      by_contra late
      rw [if_pos ⟨(peer, place), mem_zipIdx_iff_getElem?.mpr found, Nat.not_lt.mp late⟩] at passes
      cases passes
    · intro inTime
      rw [if_neg]
      rintro ⟨⟨peer, place⟩, member, late⟩
      exact absurd late (Nat.not_le.mpr (inTime place peer (mem_zipIdx_iff_getElem?.mp member)))

theorem guarded_eq_some {count startNs checkNs : Nat} {ordered : List Peer} {chosen : Selection}
    (late : guarded count startNs checkNs ordered = some chosen) :
    ∃ first rest, ordered = first :: rest ∧
      chosen = ⟨first.childId, first.ordinal, first.deadlineNs, (first.ordinal + 1) % count⟩ := by
  cases ordered with
  | nil => cases late
  | cons first rest =>
    unfold guarded at late
    dsimp only at late
    by_cases exceeds : ∃ entry ∈ (first :: rest).zipIdx,
        entry.1.deadlineNs ≤ startNs + (entry.2 + 1) * checkNs
    · rw [if_pos exceeds] at late
      exact ⟨first, rest, rfl, (Option.some.inj late).symm⟩
    · rw [if_neg exceeds] at late
      cases late

/-- The peer that is served first is the one that would be selected without the proposed child. -/
theorem guarded_select {startNs checkNs : Nat} {chosen : Selection} (within : cursor ≤ children.length)
    (late : guarded children.length startNs checkNs (ordered children proposed cursor) = some chosen) :
    select (unproposed children proposed) cursor = some chosen := by
  obtain ⟨first, rest, order, rfl⟩ := guarded_eq_some late
  have count : (unproposed children proposed).length = children.length := length_map _
  have sorted : (first :: rest).Pairwise (Peer.Before cursor children.length) := order ▸ ordered_sorted
  have member : first ∈ peers children proposed := ordered_perm.subset (order ▸ mem_cons_self)
  have least (peer : Peer) (among : peer ∈ peers children proposed) :
      first.Before cursor children.length peer := by
    have listed : peer ∈ first :: rest := order ▸ ordered_perm.symm.subset among
    rcases mem_cons.mp listed with rfl | later
    · exact .inr ⟨rfl, le_refl _⟩
    · exact (pairwise_cons.mp sorted).1 peer later
  apply Selects.select _ (count ▸ within)
  refine ⟨⟨deadlineAt_unproposed.mpr ⟨first, member, rfl, rfl⟩, ?_⟩, ?_, ?_⟩
  · intro other deadlineNs due
    obtain ⟨peer, among, _, rfl⟩ := deadlineAt_unproposed.mp due
    rcases least peer among with sooner | ⟨same, _⟩
    · exact sooner.le
    · exact same.le
  · intro other due
    obtain ⟨peer, among, rfl, same⟩ := deadlineAt_unproposed.mp due
    rw [count]
    rcases least peer among with sooner | ⟨_, turns⟩
    · exact absurd same sooner.ne'
    · exact turns
  · obtain ⟨child, there, other, _, named⟩ := mem_peers.mp member
    unfold selection unproposed
    rw [getElem?_map, length_map]
    rw [there, map_some, map_some, if_neg other, named]

end

/-! ## The guard on documents -/

def withoutDeadline (proposed child : Json) : Json :=
  if child.value "child_id" = proposed then child.set "next_deadline_ns" .null else child

section

variable (read : readChildren seen children = .ok cohort)

include read

theorem readChildren_withoutDeadline {proposed : Json} :
    readChildren seen (children.map (withoutDeadline proposed)) = .ok (unproposed cohort proposed) := by
  induction children generalizing seen cohort with
  | nil =>
    cases read
    rfl
  | cons child rest ih =>
    obtain ⟨named, fresh, deadlineNs, others, due, later, rfl⟩ := readChildren_cons.mp read
    have kept : (withoutDeadline proposed child).value "child_id" = child.value "child_id" := by
      unfold withoutDeadline
      split
      · rw [Json.value, Json.get?_set]
        rfl
      · rfl
    have removed : readDeadline ((withoutDeadline proposed child).value "next_deadline_ns") =
        .ok (if child.value "child_id" = proposed then none else deadlineNs) := by
      unfold withoutDeadline
      split
      · rw [Json.value, Json.get?_set]
        rfl
      · exact due
    refine readChildren_cons.mpr ⟨?_, ?_, _, unproposed others proposed, removed, ?_, ?_⟩
    · rw [kept]
      exact named
    · rw [kept]
      exact fresh
    · rw [kept]
      exact ih later
    · rw [kept]
      unfold unproposed
      rw [map_cons]
      split <;> rfl

theorem readChildren_ids :
    cohort.map Child.childId = children.map fun child => child.value "child_id" := by
  induction children generalizing seen cohort with
  | nil =>
    cases read
    rfl
  | cons child rest ih =>
    obtain ⟨_, _, _, others, _, later, rfl⟩ := readChildren_cons.mp read
    rw [map_cons, map_cons, ih later]

theorem readChildren_valid : ∀ childId ∈ cohort.map Child.childId, isChildId childId = true := by
  induction children generalizing seen cohort with
  | nil =>
    cases read
    simp
  | cons child rest ih =>
    obtain ⟨named, _, _, others, _, later, rfl⟩ := readChildren_cons.mp read
    exact forall_mem_cons.mpr ⟨named, ih later⟩

end

/-- The durations of a call as the guard takes them, in whole nanoseconds. -/
structure Certified (callbackMs checkMs overheadMs : Json) (callbackNs checkNs overheadNs : Nat) : Prop where
  callback : durationNs "certified-callback-latency" callbackMs = .ok callbackNs
  check : durationNs "certified-peer-check-latency" checkMs = .ok checkNs
  overhead : durationNs "certified-scheduler-overhead" overheadMs = .ok overheadNs

/--
The guard lets a callback pass exactly when its peers can be polled behind it in some order, each of
them before its deadline; otherwise it selects what would be selected without the proposed child.
-/
theorem guard_exact {children : List Json} {cohort : List Child} {proposed : Json} {cursor : Nat}
    {callbackMs checkMs overheadMs : Json} {callbackNs checkNs overheadNs : Nat} (nowNs : Nat)
    (read : readChildren [] children = .ok cohort) (within : cursor < children.length)
    (known : proposed ∈ cohort.map Child.childId)
    (certified : Certified callbackMs checkMs overheadMs callbackNs checkNs overheadNs) :
    ∃ guard, peerDeadlineGuard children (.nat cursor) proposed (.nat nowNs) callbackMs checkMs overheadMs =
        .ok guard ∧
      (guard = none ↔ ∃ order, order.Perm (peers cohort proposed) ∧
        InTime Peer.deadlineNs (fun _ => checkNs) (nowNs + callbackNs + overheadNs) order) ∧
      ∀ chosen, guard = some chosen →
        selectEarliestDeadline (children.map (withoutDeadline proposed)) (.nat cursor) =
          .ok (some chosen) := by
  have count : cohort.length = children.length := readChildren_length read
  have named := readChildren_valid read proposed known
  have listed : proposed ∈ children.map fun child => child.value "child_id" :=
    readChildren_ids read ▸ known
  refine ⟨guarded cohort.length (nowNs + callbackNs + overheadNs) checkNs
    (ordered cohort proposed cursor), ?_, ?_, ?_⟩
  · unfold peerDeadlineGuard
    rw [certified.callback, certified.check, certified.overhead, named, decide_eq_true listed,
      readCursor_nat within, read]
    rfl
  · rw [guarded_eq_none]
    constructor
    · exact fun inTime => ⟨_, ordered_perm, inTime⟩
    · rintro ⟨order, same, inTime⟩
      refine inTime.earliest_first ?_ (same.trans ordered_perm.symm)
      refine ordered_sorted.imp fun before => ?_
      rcases before with sooner | ⟨equal, _⟩
      · exact sooner.le
      · exact equal.le
  · intro chosen late
    have selected := guarded_select (count ▸ within.le) late
    have nonempty : children.map (withoutDeadline proposed) ≠ [] := by
      intro empty
      have gone := map_eq_nil_iff.mp empty
      rw [gone] at within
      cases within
    unfold selectEarliestDeadline
    rw [if_neg nonempty, length_map, readCursor_nat within, readChildren_withoutDeadline read]
    change Except.ok (select (unproposed cohort proposed) cursor) = _
    rw [selected]

theorem nanoseconds_natCast {count : ℕ} (small : count * 1000000 < 2 ^ 53) :
    nanoseconds count = .ok (count * 1000000) := by
  have product : binary64 ((count : ℚ) * 1000000) = ((count * 1000000 : ℕ) : ℚ) := by
    rw [← binary64_natCast small]
    push_cast
    rfl
  have bounded : ((count * 1000000 : ℕ) : ℚ) < doubleLimit := by
    have limit : ((2 ^ 53 : ℕ) : ℚ) ≤ doubleLimit := by
      rw [doubleLimit, Nat.cast_pow]
      exact pow_le_pow_right₀ (by norm_num) (by decide)
    exact lt_of_lt_of_le (Nat.cast_lt.mpr small) limit
  have less : (count : ℚ) < doubleLimit :=
    lt_of_le_of_lt (Nat.cast_le.mpr (Nat.le_mul_of_pos_right count (by decide))) bounded
  unfold nanoseconds
  rw [binary64_natCast (lt_of_le_of_lt (Nat.le_mul_of_pos_right count (by decide)) small), product,
    if_neg (not_le.mpr less), if_neg (not_le.mpr bounded), Int.ceil_natCast]
  rfl

theorem sample_certified : Certified (.int 2) (.int 1) (.int 0) 2000000 1000000 0 :=
  ⟨nanoseconds_natCast (by decide), nanoseconds_natCast (by decide), nanoseconds_natCast (by decide)⟩

/-- The third child is due before the second, but its turn comes later. -/
def guardedChildren : List Json :=
  [.obj [("child_id", .str "first"), ("next_deadline_ns", .int 5)],
    .obj [("child_id", .str "second"), ("next_deadline_ns", .int 9000000)],
    .obj [("child_id", .str "third"), ("next_deadline_ns", .int 4000000)]]

def guardedCohort : List Child :=
  [⟨.str "first", some 5⟩, ⟨.str "second", some 9000000⟩, ⟨.str "third", some 4000000⟩]

theorem guard_exact_sample :
    ∃ guard, peerDeadlineGuard guardedChildren (.nat 1) (.str "first") (.nat 4) (.int 2) (.int 1) (.int 0) =
        .ok guard ∧
      (guard = none ↔ ∃ order, order.Perm (peers guardedCohort (.str "first")) ∧
        InTime Peer.deadlineNs (fun _ => 1000000) (4 + 2000000 + 0) order) ∧
      ∀ chosen, guard = some chosen →
        selectEarliestDeadline (guardedChildren.map (withoutDeadline (.str "first"))) (.nat 1) =
          .ok (some chosen) :=
  guard_exact 4 rfl (by decide) mem_cons_self sample_certified

end WorkOrchestration.Native.DeadlineScheduling
