import Mathlib.Tactic.Common

/-!
# Runs

Steps that are linked end to end.  What every step keeps holds along a run, and a potential that
every step spends bounds how often a run can do what it has to pay for.
-/

namespace WorkOrchestration.Lib.Runs

open List

variable {State Step : Type} (source next : Step → State)

/-- Every step begins where the step before it ended. -/
def Linked : State → List Step → Prop
  | _, [] => True
  | state, step :: rest => source step = state ∧ Linked (next step) rest

variable {source next} {start : State} {steps : List Step}

theorem Linked.invariant {invariant : State → Prop} (linked : Linked source next start steps)
    (keeps : ∀ step ∈ steps, invariant (source step) → invariant (next step))
    (initial : invariant start) : ∀ step ∈ steps, invariant (source step) ∧ invariant (next step) := by
  induction steps generalizing start with
  | nil =>
    exact forall_mem_nil _
  | cons first rest ih =>
    obtain ⟨begins, later⟩ := linked
    have before : invariant (source first) := begins ▸ initial
    have after := keeps first mem_cons_self before
    exact forall_mem_cons.mpr ⟨⟨before, after⟩, ih later (forall_mem_cons.mp keeps).2 after⟩

/-- If a step is good exactly when it keeps an invariant, then all of a run keeps it exactly when all
steps are good. -/
theorem Linked.forall_iff {invariant : State → Prop} {good : Step → Prop}
    (linked : Linked source next start steps)
    (exact' : ∀ step ∈ steps, invariant (source step) → (invariant (next step) ↔ good step))
    (initial : invariant start) :
    (∀ step ∈ steps, invariant (next step)) ↔ ∀ step ∈ steps, good step := by
  induction steps generalizing start with
  | nil =>
    constructor
    · intro _ step absent
      exact absurd absent not_mem_nil
    · intro _ step absent
      exact absurd absent not_mem_nil
  | cons first rest ih =>
    obtain ⟨begins, later⟩ := linked
    have decides := exact' first mem_cons_self (begins ▸ initial)
    have others := fun step found => exact' step (mem_cons_of_mem first found)
    rw [forall_mem_cons, forall_mem_cons, decides]
    constructor
    · rintro ⟨good, rest⟩
      exact ⟨good, (ih later others (decides.mpr good)).mp rest⟩
    · rintro ⟨good, rest⟩
      exact ⟨good, (ih later others (decides.mpr good)).mpr rest⟩

theorem Linked.pairwise {advances : State → State → Prop} (linked : Linked source next start steps)
    (refl : ∀ state, advances state state)
    (trans : ∀ {first second third}, advances first second → advances second third →
      advances first third)
    (each : ∀ step ∈ steps, advances (source step) (next step)) :
    steps.Pairwise fun earlier later => advances (next earlier) (source later) := by
  induction steps generalizing start with
  | nil => exact List.Pairwise.nil
  | cons first rest ih =>
    obtain ⟨_, later⟩ := linked
    have others := fun step found => each step (mem_cons_of_mem first found)
    have onward := later.invariant
      (fun step found reached => trans reached (others step found)) (refl (next first))
    exact List.Pairwise.cons (fun step found => (onward step found).1) (ih later others)

theorem Linked.origin {holds : State → Prop} (linked : Linked source next start steps)
    (absent : ¬ holds start) {past rest : List Step} {step : Step}
    (split : steps = past ++ step :: rest) (here : holds (source step)) :
    ∃ earlier ∈ past, ¬ holds (source earlier) ∧ holds (next earlier) := by
  induction past generalizing start steps with
  | nil =>
    rw [split] at linked
    exact absurd (linked.1 ▸ here) absent
  | cons first past ih =>
    rw [split] at linked
    obtain ⟨begins, later⟩ := linked
    by_cases came : holds (next first)
    · exact ⟨first, mem_cons_self, begins ▸ absent, came⟩
    · obtain ⟨earlier, found, origin⟩ := ih later came rfl
      exact ⟨earlier, mem_cons_of_mem first found, origin⟩

theorem Linked.traced {invariant : List Step → State → Prop}
    (linked : Linked source next start steps)
    (keeps : ∀ past, ∀ step ∈ steps, invariant past (source step) →
      invariant (past ++ [step]) (next step))
    {behind : List Step} (initial : invariant behind start) {past rest : List Step} {step : Step}
    (split : steps = past ++ step :: rest) : invariant (behind ++ past) (source step) := by
  induction past generalizing start steps behind with
  | nil =>
    rw [split] at linked
    rw [append_nil, linked.1]
    exact initial
  | cons first past ih =>
    rw [split] at linked
    obtain ⟨begins, later⟩ := linked
    have here : first ∈ steps := split ▸ mem_cons_self
    have reached := keeps behind first here (begins ▸ initial)
    have others := fun past step found => keeps past step (split ▸ mem_cons_of_mem first found)
    rw [append_cons]
    exact ih later others reached rfl

theorem Linked.consecutive {part : List Step} (linked : Linked source next start steps)
    (inside : part <:+: steps) : ∃ begins, Linked source next begins part := by
  obtain ⟨before, after, rfl⟩ := inside
  induction before generalizing start with
  | nil =>
    refine ⟨start, ?_⟩
    induction part generalizing start with
    | nil => exact True.intro
    | cons step rest ih => exact ⟨linked.1, ih linked.2⟩
  | cons first rest ih => exact ih linked.2

theorem Linked.count_le {pays : Step → Bool} {potential : State → Nat}
    (linked : Linked source next start steps)
    (spends : ∀ step ∈ steps,
      potential (next step) + (if pays step then 1 else 0) ≤ potential (source step)) :
    steps.countP pays ≤ potential start := by
  induction steps generalizing start with
  | nil => exact Nat.zero_le _
  | cons first rest ih =>
    obtain ⟨begins, later⟩ := linked
    have spent := spends first mem_cons_self
    have others := ih later (forall_mem_cons.mp spends).2
    rw [begins] at spent
    rw [countP_cons]
    omega

theorem Linked.takeWhile {good : Step → Bool} (linked : Linked source next start steps) :
    Linked source next start (steps.takeWhile good) := by
  induction steps generalizing start with
  | nil => exact linked
  | cons first rest ih =>
    obtain ⟨begins, later⟩ := linked
    rw [takeWhile_cons]
    split
    · exact ⟨begins, ih later⟩
    · exact True.intro

end WorkOrchestration.Lib.Runs
