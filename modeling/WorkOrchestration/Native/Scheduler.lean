import WorkOrchestration.Native.PoolStates

/-!
# Deadline scheduling

Earliest deadline first over the children of a cohort, with ties resolved from a
cursor that moves past the selected child, and the guard that serves a peer
first when a proposed callback could make the peer miss its deadline.
-/

namespace WorkOrchestration.Native.Scheduler

open List Lib.Text Artifacts PoolStates
open ChildState (childId nextDeadlineNs)

/-- `SchedulerSelection`. -/
structure Selection where
  childId : Name
  ordinal : Nat
  deadlineNs : Nat
  nextCursor : Nat

/-- `PoolSchedulingError`. -/
def schedulingError (code : String) : PyError := ⟨.value, "PoolSchedulingError", code⟩

/-- The ordinals from the cursor on, and then those before it. -/
def rotation (cursor count : Nat) : List Nat :=
  List.range' cursor (count - cursor) ++ List.range cursor

/-- The selection of the child at an ordinal, if that child has the given deadline. -/
def candidate (children : List ChildState) (deadlineNs ordinal : Nat) : Option Selection :=
  match children[ordinal]? with
  | some child =>
    if child.nextDeadlineNs = some deadlineNs then
      some ⟨child.childId, ordinal, deadlineNs, (ordinal + 1) % children.length⟩
    else none
  | none => none

def selectEarliestDeadline (children : List ChildState) (cursor : Nat) :
    Except PyError (Option Selection) :=
  if children = [] then .ok none
  else if children.length ≤ cursor then .error (schedulingError "scheduler-cursor-out-of-range")
  else if ¬ (children.map childId).Nodup then
    .error (schedulingError "duplicate-child-id")
  else
    match (children.filterMap nextDeadlineNs).min? with
    | none => .ok none
    | some earliest =>
      .ok ((rotation cursor children.length).findSome? (candidate children earliest))

/-- A peer of the proposed child: its ordinal, its id and its deadline. -/
structure Peer where
  ordinal : Nat
  childId : Name
  deadlineNs : Nat

def peers (children : List ChildState) (proposed : Name) : List Peer :=
  children.zipIdx.filterMap fun entry =>
    if entry.1.childId ≠ proposed then
      entry.1.nextDeadlineNs.map fun deadlineNs => ⟨entry.2, entry.1.childId, deadlineNs⟩
    else none

/-- Peers by deadline, ties in rotation order. -/
def orderedPeers (cursor count : Nat) (peers : List Peer) : List Peer :=
  let turn := fun (peer : Peer) => (peer.ordinal + count - cursor) % count
  peers.insertionSort fun first second =>
    first.deadlineNs < second.deadlineNs ∨
      first.deadlineNs = second.deadlineNs ∧ turn first ≤ turn second

/-- `peer_deadline_guard`, with durations in milliseconds. -/
def peerDeadlineGuard (children : List ChildState) (cursor : Nat) (proposed : Name)
    (nowNs callbackMs peerCheckMs overheadMs : Nat) : Except PyError (Option Selection) :=
  if proposed ∉ children.map childId then
    .error (schedulingError "proposed-child-unknown")
  else
    match selectEarliestDeadline children cursor with
    | .error error => .error error
    | .ok _ =>
      let ordered := orderedPeers cursor children.length (peers children proposed)
      let completesAt := fun position =>
        nowNs + (callbackMs + overheadMs + position * peerCheckMs) * 1000000
      match ordered with
      | [] => .ok none
      | first :: _ =>
        if ∃ entry ∈ ordered.zipIdx, entry.1.deadlineNs ≤ completesAt (entry.2 + 1) then
          .ok (some ⟨first.childId, first.ordinal, first.deadlineNs,
            (first.ordinal + 1) % children.length⟩)
        else .ok none

/-- `wait_seconds`, in nanoseconds. -/
def waitNs (nowNs : Nat) : Option Nat → Nat
  | none => 0
  | some deadlineNs => deadlineNs - nowNs

variable {children : List ChildState} {selection : Selection}

theorem candidate_eq_some {deadlineNs ordinal : Nat}
    (found : candidate children deadlineNs ordinal = some selection) :
    ∃ child ∈ children, child.childId = selection.childId ∧
      child.nextDeadlineNs = some selection.deadlineNs ∧
      selection.nextCursor < children.length := by
  unfold candidate at found
  split at found
  · rename_i child listed
    split at found
    · rename_i due
      cases found
      have member := mem_of_getElem? listed
      exact ⟨child, member, rfl, due, Nat.mod_lt _ (length_pos_of_mem member)⟩
    · cases found
  · cases found

variable {cursor : Nat}

theorem selectEarliestDeadline_eq_some
    (selected : selectEarliestDeadline children cursor = .ok (some selection)) :
    ∃ child ∈ children, child.childId = selection.childId ∧
      child.nextDeadlineNs = some selection.deadlineNs ∧
      selection.nextCursor < children.length := by
  unfold selectEarliestDeadline at selected
  split at selected
  · cases selected
  · split at selected
    · cases selected
    · split at selected
      · cases selected
      · split at selected
        · cases selected
        · injection selected with selected
          obtain ⟨_, _, found⟩ := exists_of_findSome?_eq_some selected
          exact candidate_eq_some found

variable {proposed : Name}

theorem mem_peers {peer : Peer} (member : peer ∈ peers children proposed) :
    ∃ child ∈ children, child.childId = peer.childId ∧
      child.nextDeadlineNs = some peer.deadlineNs := by
  obtain ⟨⟨child, ordinal⟩, listed, found⟩ := mem_filterMap.mp member
  split at found
  · obtain ⟨deadlineNs, due, rfl⟩ := Option.map_eq_some_iff.mp found
    exact ⟨child, (mem_zipIdx listed).2.2 ▸ getElem_mem _, rfl, due⟩
  · cases found

theorem peerDeadlineGuard_eq_some {nowNs callbackMs peerCheckMs overheadMs : Nat}
    (guarded : peerDeadlineGuard children cursor proposed nowNs callbackMs peerCheckMs overheadMs =
      .ok (some selection)) :
    ∃ child ∈ children, child.childId = selection.childId ∧
      child.nextDeadlineNs = some selection.deadlineNs ∧
      selection.nextCursor < children.length := by
  unfold peerDeadlineGuard at guarded
  split at guarded
  · cases guarded
  · split at guarded
    · cases guarded
    · simp only at guarded
      split at guarded
      · cases guarded
      · rename_i first rest ordered
        split at guarded
        · cases guarded
          have listed : first ∈ orderedPeers cursor children.length (peers children proposed) := by
            rw [ordered]
            exact mem_cons_self
          obtain ⟨child, member, same, due⟩ := mem_peers ((mem_insertionSort _).mp listed)
          exact ⟨child, member, same, due, Nat.mod_lt _ (length_pos_of_mem member)⟩
        · cases guarded

end WorkOrchestration.Native.Scheduler
