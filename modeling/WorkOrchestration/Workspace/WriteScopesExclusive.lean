import WorkOrchestration.Lib.Exclusion
import WorkOrchestration.Workspace.WriteScopes

/-!
# Exclusive write scopes

The registry is an exclusive table, and every held lease has an entry that covers its scope, as long
as the objects of one process and owner do not get into each other's way.
-/

namespace WorkOrchestration.Workspace.WriteScopes

open List Lib.Exclusion Lib.Runs Native.Artifacts

/-- `left` is `right` or a directory above it. -/
def Contains (left right : String) : Prop := left = "." ∨ right = left ∨ Below right left

instance (left right : String) : Decidable (Contains left right) :=
  inferInstanceAs (Decidable (_ ∨ _))

/-- Every path of the second scope lies in the first. -/
def ScopeContains (first second : List String) : Prop :=
  ∀ right ∈ second, ∃ left ∈ first, Contains left right

instance (first second : List String) : Decidable (ScopeContains first second) :=
  inferInstanceAs (Decidable (∀ right ∈ second, ∃ left ∈ first, Contains left right))

theorem Overlaps.symm {left right : String} (overlaps : Overlaps left right) :
    Overlaps right left := by
  rcases overlaps with root | root | same | below | above
  · exact .inr (.inl root)
  · exact .inl root
  · exact .inr (.inr (.inl same.symm))
  · exact .inr (.inr (.inr (.inr below)))
  · exact .inr (.inr (.inr (.inl above)))

theorem ScopesOverlap.symm {first second : List String} (overlap : ScopesOverlap first second) :
    ScopesOverlap second first := by
  obtain ⟨left, inFirst, right, inSecond, overlaps⟩ := overlap
  exact ⟨right, inSecond, left, inFirst, overlaps.symm⟩

theorem Below.trans {low middle high : String} (lower : Below low middle)
    (upper : Below middle high) : Below low high :=
  List.IsPrefix.trans upper ((prefix_append middle.toList ['/']).trans lower)

/-- Two directories above one path overlap. -/
theorem overlaps_of_below {path left right : String} (first : Below path left)
    (second : Below path right) : Overlaps left right := by
  have shorter {short long : String} (above : short.toList ++ ['/'] <+: long.toList ++ ['/']) :
      long = short ∨ Below long short := by
    by_cases strict : short.toList.length < long.toList.length
    · right
      refine prefix_of_prefix_length_le above (prefix_append _ _) ?_
      rw [length_append]
      exact strict
    · left
      have sizes := above.length_le
      rw [length_append, length_append] at sizes
      have same := above.eq_of_length (by simp only [length_append]; omega)
      exact String.toList_injective (append_cancel_right same).symm
  rcases prefix_or_prefix_of_prefix first second with above | below
  · rcases shorter above with same | below
    · exact .inr (.inr (.inl same.symm))
    · exact .inr (.inr (.inr (.inr below)))
  · rcases shorter below with same | below
    · exact .inr (.inr (.inl same))
    · exact .inr (.inr (.inr (.inl below)))

theorem Contains.overlaps {left right other : String} (contains : Contains left right)
    (overlaps : Overlaps right other) : Overlaps left other := by
  rcases contains with root | rfl | below
  · exact .inl root
  · exact overlaps
  rcases overlaps with root | root | rfl | inside | above
  · rw [root] at below
    -- nothing lies below another path and is the root
    have sizes := below.length_le
    have empty : left.toList = [] := eq_nil_of_length_eq_zero (by simpa using sizes)
    unfold Below at below
    rw [empty] at below
    exact absurd below (by decide)
  · exact .inr (.inl root)
  · exact .inr (.inr (.inr (.inr below)))
  · exact overlaps_of_below below inside
  · exact .inr (.inr (.inr (.inr (above.trans below))))

theorem ScopeContains.overlap {first second other : List String}
    (contains : ScopeContains first second) (overlap : ScopesOverlap second other) :
    ScopesOverlap first other := by
  obtain ⟨right, inSecond, path, inOther, overlaps⟩ := overlap
  obtain ⟨left, inFirst, inside⟩ := contains right inSecond
  exact ⟨left, inFirst, path, inOther, inside.overlaps overlaps⟩

theorem ScopeContains.refl (scope : List String) : ScopeContains scope scope := by
  intro path member
  exact ⟨path, member, .inr (.inl rfl)⟩

abbrev ExclusiveRegistry (file : List Entry) : Prop :=
  Exclusive Entry.key (fun _ => True) (fun left right => ScopesOverlap left.paths right.paths) file

variable {leases : Nat → WriteScopeLease} {kill : Nat → Signal} {file entries : List Entry}
  {lease : WriteScopeLease}

theorem load_exclusive (exclusive : ExclusiveRegistry file) :
    ExclusiveRegistry (loadLeaseRegistry kill file) :=
  exclusive.sublist filter_sublist

variable {entry : Entry}

theorem mem_load : entry ∈ loadLeaseRegistry kill file ↔
    entry ∈ file ∧ processAlive kill entry.pid = true := mem_filter

theorem acquire_exclusive (exclusive : ExclusiveRegistry file)
    (acquired : lease.acquire kill file = .ok entries) : ExclusiveRegistry entries := by
  unfold WriteScopeLease.acquire at acquired
  dsimp only at acquired
  split at acquired
  · cases acquired
  rename_i free
  split at acquired
  · cases acquired
    exact load_exclusive exclusive
  · rename_i absent
    cases acquired
    have fresh : ∀ other ∈ loadLeaseRegistry kill file, other.key ≠ lease.entry.key :=
      fun other found same => absent ⟨other, found, same⟩
    refine (load_exclusive exclusive).concat fresh ?_
    intro other found _ overlap
    exact free ⟨other, found, fresh other found, overlap.symm⟩

theorem load_subset_acquired (acquired : lease.acquire kill file = .ok entries)
    (found : entry ∈ loadLeaseRegistry kill file) : entry ∈ entries := by
  unfold WriteScopeLease.acquire at acquired
  dsimp only at acquired
  split at acquired
  · cases acquired
  split at acquired
  · cases acquired
    exact found
  · cases acquired
    exact mem_append_left _ found

theorem acquire_backed (acquired : lease.acquire kill file = .ok entries) :
    ∃ entry ∈ entries, entry.key = lease.key ∧
      (entry = lease.entry ∨ entry ∈ loadLeaseRegistry kill file) := by
  unfold WriteScopeLease.acquire at acquired
  dsimp only at acquired
  split at acquired
  · cases acquired
  split at acquired
  · rename_i present
    obtain ⟨entry, found, same⟩ := present
    cases acquired
    exact ⟨entry, found, same, .inr found⟩
  · cases acquired
    exact ⟨lease.entry, mem_append_right _ mem_cons_self, rfl, .inl rfl⟩

theorem mem_release : entry ∈ lease.release kill file ↔
    entry ∈ loadLeaseRegistry kill file ∧ entry.key ≠ lease.key := by
  unfold WriteScopeLease.release
  rw [mem_filter, decide_eq_true_eq]

theorem mem_stillHeld {held : List Nat} {object : Nat} : object ∈ stillHeld leases kill held ↔
    object ∈ held ∧ processAlive kill (leases object).pid = true := mem_filter

/-- The registry is exclusive, and every held lease has an entry that covers it. -/
structure Sound (leases : Nat → WriteScopeLease) (system : System) : Prop where
  registry : ExclusiveRegistry system.file
  backed : ∀ object ∈ system.held, ∃ entry ∈ system.file, entry.key = (leases object).key ∧
    ScopeContains entry.paths (leases object).allowedPaths

/-- The objects of one process and owner do not get into each other's way in a call: what is acquired
lies in the scope of the entry that is there already, and nothing that is released shares its process
and owner with a lease that is still held. -/
def Separate (leases : Nat → WriteScopeLease) (system : System) : Move → Prop
  | .acquire object kill => object ∉ system.acquired →
      ∀ entry ∈ loadLeaseRegistry kill system.file, entry.key = (leases object).key →
        ScopeContains entry.paths (leases object).allowedPaths
  | .release object kill => object ∈ system.acquired →
      ∀ other ∈ stillHeld leases kill system.held, other ≠ object →
        (leases other).key ≠ (leases object).key

theorem sound_empty : Sound leases System.empty := by
  constructor
  · exact exclusive_nil
  · exact forall_mem_nil _

variable {system : System}

theorem Sound.loaded (sound : Sound leases system) {object : Nat}
    (held : object ∈ stillHeld leases kill system.held) :
    ∃ entry ∈ loadLeaseRegistry kill system.file, entry.key = (leases object).key ∧
      ScopeContains entry.paths (leases object).allowedPaths := by
  obtain ⟨held, alive⟩ := mem_stillHeld.mp held
  obtain ⟨entry, found, same, contains⟩ := sound.backed object held
  refine ⟨entry, mem_load.mpr ⟨found, ?_⟩, same, contains⟩
  have pid : entry.pid = (leases object).pid := congrArg Prod.fst same
  rw [pid]
  exact alive

theorem Sound.step {system after : System} {move : Move} (sound : Sound leases system)
    (separate : Separate leases system move) (done : system.step leases move = .ok after) :
    Sound leases after := by
  cases move with
  | acquire object kill =>
    unfold System.step at done
    dsimp only at done
    by_cases again : object ∈ system.acquired
    · rw [if_pos again] at done
      cases done
      exact sound
    rw [if_neg again] at done
    cases acquired : (leases object).acquire kill system.file with
    | error error =>
      rw [acquired] at done
      cases done
    | ok entries =>
    rw [acquired] at done
    cases done
    constructor
    · exact acquire_exclusive sound.registry acquired
    · intro other held
      rcases mem_append.mp held with earlier | now
      · obtain ⟨entry, found, backed⟩ := sound.loaded earlier
        exact ⟨entry, load_subset_acquired acquired found, backed⟩
      · rw [mem_singleton.mp now]
        obtain ⟨entry, written, same, rfl | found⟩ := acquire_backed acquired
        · exact ⟨(leases object).entry, written, same, .refl _⟩
        · exact ⟨entry, written, same, separate again entry found same⟩
  | release object kill =>
    unfold System.step at done
    dsimp only at done
    by_cases acquired : object ∈ system.acquired
    · rw [if_pos acquired] at done
      cases done
      constructor
      · exact (load_exclusive sound.registry).sublist filter_sublist
      · intro other held
        obtain ⟨held, apart⟩ := mem_filter.mp held
        have apart : other ≠ object := of_decide_eq_true apart
        obtain ⟨entry, found, same, contains⟩ := sound.loaded held
        refine ⟨entry, mem_release.mpr ⟨found, ?_⟩, same, contains⟩
        rw [same]
        exact separate acquired other held apart
    · rw [if_neg acquired] at done
      cases done
      exact sound

/-- No two held leases of different processes or owners overlap. -/
def Apart (leases : Nat → WriteScopeLease) (system : System) : Prop :=
  ∀ first ∈ system.held, ∀ second ∈ system.held, (leases first).key ≠ (leases second).key →
    ¬ ScopesOverlap (leases first).allowedPaths (leases second).allowedPaths

theorem Sound.apart (sound : Sound leases system) : Apart leases system := by
  intro first inFirst second inSecond different overlap
  obtain ⟨left, foundLeft, sameLeft, containsLeft⟩ := sound.backed first inFirst
  obtain ⟨right, foundRight, sameRight, containsRight⟩ := sound.backed second inSecond
  have apart : left ≠ right := by
    rintro rfl
    exact different (sameLeft.symm.trans sameRight)
  refine sound.registry.not_conflict (fun _ _ clash => clash.symm) foundLeft foundRight apart
    True.intro True.intro ?_
  exact (containsRight.overlap (containsLeft.overlap overlap).symm).symm

namespace Transition

/-- A release writes the entries of the other leases that are still held. -/
def Spares (leases : Nat → WriteScopeLease) (step : Transition) : Prop :=
  ∀ object kill, step.move = .release object kill → ∀ other ∈ step.after.held, other ≠ object →
      ∀ entry ∈ step.before.file, entry.key = (leases other).key → entry ∈ step.after.file

def Taken (leases : Nat → WriteScopeLease) (step : Transition) : Prop :=
  step.before.step leases step.move = step.result

variable {step : Transition}

theorem Taken.sound (taken : step.Taken leases) (separate : Separate leases step.before step.move)
    (sound : Sound leases step.before) : Sound leases step.after := by
  unfold Transition.after
  cases returned : step.result with
  | ok after => exact sound.step separate (taken.trans returned)
  | error error => exact sound

theorem Taken.spares (taken : step.Taken leases)
    (separate : Separate leases step.before step.move) : step.Spares leases := by
  intro object kill moved other held apart entry found same
  unfold Taken at taken
  rw [moved] at taken separate
  unfold System.step at taken
  dsimp only at taken
  unfold Transition.after at held ⊢
  by_cases acquired : object ∈ step.before.acquired
  · rw [if_pos acquired] at taken
    rw [← taken] at held ⊢
    obtain ⟨held, _⟩ := mem_filter.mp held
    obtain ⟨_, alive⟩ := mem_stillHeld.mp held
    have pid : entry.pid = (leases other).pid := congrArg Prod.fst same
    refine mem_release.mpr ⟨mem_load.mpr ⟨found, ?_⟩, ?_⟩
    · rw [pid]
      exact alive
    · rw [same]
      exact separate acquired other held apart
  · rw [if_neg acquired] at taken
    rw [← taken]
    exact found

end Transition

theorem run_taken {moves : List Move} : ∀ step ∈ run leases system moves, step.Taken leases := by
  induction moves generalizing system with
  | nil =>
    exact forall_mem_nil _
  | cons move rest ih =>
    exact forall_mem_cons.mpr ⟨rfl, ih⟩

theorem run_linked {moves : List Move} :
    Linked Transition.before Transition.after system (run leases system moves) := by
  induction moves generalizing system with
  | nil => exact True.intro
  | cons move rest ih => exact ⟨rfl, ih⟩

/-- Leases are exclusive at every moment of a run, and no release drops the entry of another one. -/
def Guarded (leases : Nat → WriteScopeLease) (steps : List Transition) : Prop :=
  ∀ step ∈ steps, Apart leases step.after ∧ step.Spares leases

/-- As long as the objects of one process and owner keep out of each other's way, held leases are
exclusive and keep their entries. -/
theorem write_scopes_exclusive (leases : Nat → WriteScopeLease) (moves : List Move)
    (separate : ∀ step ∈ run leases System.empty moves, Separate leases step.before step.move) :
    Guarded leases (run leases System.empty moves) := by
  intro step found
  have linked : Linked Transition.before Transition.after System.empty
    (run leases System.empty moves) := run_linked
  have sound := linked.invariant
    (fun step found => (run_taken step found).sound (separate step found)) sound_empty
  exact ⟨(sound step found).2.apart, (run_taken step found).spares (separate step found)⟩

def sampleAlive (_ : Nat) : Signal := .delivered

/-- Two objects of one process and owner, and one of another process. -/
def sampleLeases : Nat → WriteScopeLease
  | 0 => ⟨["docs"], "worker", 1⟩
  | 1 => ⟨["src"], "worker", 1⟩
  | _ => ⟨["src/core"], "other", 2⟩

/-- The two processes take and give back different scopes. -/
theorem write_scopes_exclusive_sample : Guarded sampleLeases (run sampleLeases System.empty
      [.acquire 0 sampleAlive, .acquire 2 sampleAlive, .release 0 sampleAlive]) := by
  apply write_scopes_exclusive
  intro step found
  simp only [run, mem_cons, not_mem_nil, or_false] at found
  rcases found with rfl | rfl | rfl <;> unfold Separate <;> decide

/-- The second object of an owner finds the entry of the first and adds nothing to it. -/
theorem second_scope_unguarded : ¬ ∀ (leases : Nat → WriteScopeLease) (moves : List Move),
      Guarded leases (run leases System.empty moves) := by
  intro claimed
  have all := claimed sampleLeases
    [.acquire 0 sampleAlive, .acquire 1 sampleAlive, .acquire 2 sampleAlive]
  have last := (all _ (mem_cons_of_mem _ (mem_cons_of_mem _ mem_cons_self))).1
  exact last 1 (by decide) 2 (by decide) (by decide) (by decide)

/-- The call takes the entry out of the registry: its process is dead, or its owner releases it. -/
def Move.Drops (leases : Nat → WriteScopeLease) (entry : Entry) : Move → Prop
  | .acquire _ kill => processAlive kill entry.pid = false
  | .release object kill => processAlive kill entry.pid = false ∨ entry.key = (leases object).key

theorem Transition.Taken.registry {step : Transition} (taken : step.Taken leases) :
    (ExclusiveRegistry step.before.file → ExclusiveRegistry step.after.file) ∧
      ∀ entry ∈ step.before.file, entry ∉ step.after.file → step.move.Drops leases entry := by
  obtain ⟨before, move, result⟩ := step
  obtain rfl : before.step leases move = result := taken
  have still : (ExclusiveRegistry before.file → ExclusiveRegistry before.file) ∧
      ∀ entry ∈ before.file, entry ∉ before.file → move.Drops leases entry :=
    ⟨id, fun _ present gone => absurd present gone⟩
  cases move with
  | acquire object kill =>
    unfold System.step Transition.after
    dsimp only
    split_ifs
    · exact still
    · cases acquired : (leases object).acquire kill before.file with
      | error error => exact still
      | ok entries =>
        refine ⟨fun exclusive => acquire_exclusive exclusive acquired, fun entry present gone => ?_⟩
        by_contra alive
        exact gone (load_subset_acquired acquired
          (mem_load.mpr ⟨present, by simpa [Move.Drops] using alive⟩))
  | release object kill =>
    unfold System.step Transition.after
    dsimp only
    split_ifs
    · refine ⟨fun exclusive => (load_exclusive exclusive).sublist filter_sublist, fun entry present gone => ?_⟩
      change entry ∉ (leases object).release kill before.file at gone
      rw [mem_release, mem_load] at gone
      by_cases alive : processAlive kill entry.pid = true
      · exact .inr (by simpa [present, alive] using gone)
      · exact .inl (by simpa using alive)
    · exact still

/-- Whoever acquires and releases, the scopes of different entries never overlap, and an entry goes only
with its process or its owner. -/
theorem registry_exclusive (leases : Nat → WriteScopeLease) (moves : List Move) :
    (∀ step ∈ run leases System.empty moves, ExclusiveRegistry step.after.file) ∧
      ∀ step ∈ run leases System.empty moves, ∀ entry ∈ step.before.file, entry ∉ step.after.file →
        step.move.Drops leases entry := by
  have linked : Linked Transition.before Transition.after System.empty
    (run leases System.empty moves) := run_linked
  have kept := @Linked.invariant _ _ _ _ _ _ (fun system => ExclusiveRegistry system.file) linked
    (fun step found => (run_taken step found).registry.1) exclusive_nil
  exact ⟨fun step found => (kept step found).2, fun step found => (run_taken step found).registry.2⟩

end WorkOrchestration.Workspace.WriteScopes
