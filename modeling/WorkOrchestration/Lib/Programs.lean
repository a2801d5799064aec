import Mathlib.Tactic.Common

/-!
# Programs over a state

Programs return a value or raise an exception, and leave a state either way.
A triple says what holds of that state in both cases.  A relation on states is
kept by a program when every assertion that the relation preserves holds at the
end if it held at the beginning; so what single updates preserve, the program does.
-/

namespace WorkOrchestration.Lib.Programs

variable {σ ε : Type} {α β : Type}

/-- From `pre` the program returns in `post`, or raises in `fail`. -/
structure Triple (pre : σ → Prop) (program : EStateM ε σ α) (post : α → σ → Prop)
    (fail : σ → Prop) : Prop where
  ends : ∀ state, pre state →
    match program state with
    | .ok value after => post value after
    | .error _ after => fail after

/-- The assertion survives every step. -/
def Closed (step : σ → σ → Prop) (assertion : σ → Prop) : Prop :=
  ∀ before after, assertion before → step before after → assertion after

/-- The program takes nothing but steps, however it ends. -/
structure Keeps (step : σ → σ → Prop) (program : EStateM ε σ α) : Prop where
  triple : ∀ {assertion : σ → Prop}, Closed step assertion →
    Triple assertion program (fun _ => assertion) assertion

variable {pre pre' : σ → Prop} {post post' : α → σ → Prop} {fail fail' : σ → Prop}

variable {program : EStateM ε σ α}

theorem Triple.consequence (triple : Triple pre program post fail)
    (stronger : ∀ state, pre' state → pre state)
    (weaker : ∀ value state, post value state → post' value state)
    (weakerFail : ∀ state, fail state → fail' state) : Triple pre' program post' fail' := by
  refine ⟨fun state holds => ?_⟩
  have ends := triple.ends state (stronger state holds)
  revert ends
  cases program state with
  | ok value after => exact weaker value after
  | error error after => exact weakerFail after

theorem Triple.of_state (each : ∀ state, pre state → Triple
    (fun current => current = state) program post fail) :
    Triple pre program post fail :=
  ⟨fun state holds => (each state holds).ends state rfl⟩

theorem Triple.and (first : Triple pre program post fail)
    (second : Triple pre' program post' fail') :
    Triple (fun state => pre state ∧ pre' state) program
      (fun value state => post value state ∧ post' value state)
      (fun state => fail state ∧ fail' state) := by
  refine ⟨fun state holds => ?_⟩
  have left := first.ends state holds.1
  have right := second.ends state holds.2
  revert left right
  cases program state with
  | ok | error => exact And.intro

variable {value : α}

theorem Triple.pure (holds : ∀ state, pre state → post value state) :
    Triple pre (Pure.pure value : EStateM ε σ α) post fail :=
  ⟨holds⟩

theorem Triple.trivial : Triple pre program (fun _ _ => True) fun _ => True := by
  refine ⟨fun state _ => ?_⟩
  cases program state <;> exact True.intro

theorem Triple.throw {error : ε} (holds : ∀ state, pre state → fail state) :
    Triple pre (MonadExcept.throw error : EStateM ε σ α) post fail :=
  ⟨holds⟩

variable {next : α → EStateM ε σ β}

variable {first : EStateM ε σ α}

theorem Triple.bind {m : α → σ → Prop} {post : β → σ → Prop} (before : Triple pre first m fail)
    (after : ∀ value, Triple (m value) (next value) post fail) :
    Triple pre (first >>= next) post fail := by
  refine ⟨fun state holds => ?_⟩
  have ends := before.ends state holds
  change match EStateM.bind first next state with
    | .ok value after => post value after
    | .error _ after => fail after
  unfold EStateM.bind
  revert ends
  cases first state with
  | ok value middle => exact (after value).ends middle
  | error error middle => exact id

theorem Triple.get_bind {next : σ → EStateM ε σ α}
    (after : ∀ state, pre state → Triple (fun current => current = state) (next state) post fail) :
    Triple pre (MonadState.get >>= next) post fail :=
  ⟨fun state holds => (after state holds).ends state rfl⟩

theorem Triple.modify {update : σ → σ} {post : Unit → σ → Prop}
    (holds : ∀ state, pre state → post () (update state)) :
    Triple pre (modify update : EStateM ε σ Unit) post fail :=
  ⟨holds⟩

theorem Triple.modifyGet {update : σ → α × σ}
    (holds : ∀ state, pre state → post (update state).1 (update state).2) :
    Triple pre (MonadStateOf.modifyGet update : EStateM ε σ α) post fail :=
  ⟨holds⟩

theorem Triple.tryCatch {handler : ε → EStateM ε σ α} {caught : σ → Prop}
    (body : Triple pre program post caught)
    (handles : ∀ error, Triple caught (handler error) post fail) :
    Triple pre (MonadExcept.tryCatch program handler) post fail := by
  refine ⟨fun state holds => ?_⟩
  have ends := body.ends state holds
  change match EStateM.tryCatch program handler state with
    | .ok value after => post value after
    | .error _ after => fail after
  unfold EStateM.tryCatch
  revert ends
  cases program state with
  | ok value after => exact id
  | error error after => exact (handles error).ends after

theorem Triple.ofExcept {result : Except ε α}
    (returns : ∀ value, result = .ok value → ∀ state, pre state → post value state)
    (raises : ∀ state, pre state → fail state) :
    Triple pre (MonadExcept.ofExcept result : EStateM ε σ α) post fail := by
  cases result with
  | ok value => exact Triple.pure (returns value rfl)
  | error error => exact Triple.throw raises

/-- The state that a program ends in, whether it returns or raises. -/
def final (program : EStateM ε σ α) (state : σ) : σ :=
  match program state with
  | .ok _ after => after
  | .error _ after => after

theorem Triple.final (triple : Triple pre program (fun _ => fail) fail)
    {state : σ} (holds : pre state) : fail (final program state) := by
  have ends := triple.ends state holds
  unfold Programs.final
  revert ends
  cases program state with
  | ok | error => exact id

theorem ran_bind {before middle : σ}
    (ran : first before = .ok value middle) : (first >>= next) before = next value middle := by
  change EStateM.bind first next before = _
  unfold EStateM.bind
  rw [ran]

variable {computed : Except ε α}

theorem ofExcept_ran (done : computed = .ok value) (state : σ) :
    (MonadExcept.ofExcept computed : EStateM ε σ α) state = .ok value state := by
  rw [done]
  rfl

variable {before after : σ}

theorem bind_returns {result : β} (returned : (first >>= next) before = .ok result after) :
    ∃ value middle, first before = .ok value middle ∧ next value middle = .ok result after := by
  change EStateM.bind first next before = .ok result after at returned
  unfold EStateM.bind at returned
  cases ended : first before with
  | ok value middle =>
    rw [ended] at returned
    exact ⟨value, middle, rfl, returned⟩
  | error error middle =>
    rw [ended] at returned
    cases returned

theorem ofExcept_returns {result : α}
    (returned : (MonadExcept.ofExcept computed : EStateM ε σ α) before = .ok result after) :
    computed = .ok result ∧ after = before := by
  cases computed with
  | ok value =>
    cases returned
    exact ⟨rfl, rfl⟩
  | error error => cases returned

theorem bind_ofExcept_returns
    {result : β} (returned : (MonadExcept.ofExcept computed >>= next) before = .ok result after) :
    ∃ value, computed = .ok value ∧ next value before = .ok result after := by
  obtain ⟨value, middle, first, rest⟩ := bind_returns returned
  obtain ⟨done, same⟩ := ofExcept_returns first
  rw [same] at rest
  exact ⟨value, done, rest⟩

theorem Triple.cleanup {tidy : EStateM ε σ PUnit} {caught : σ → Prop}
    (body : Triple pre program post caught)
    (tidies : Triple caught tidy (fun _ => fail) fail) :
    Triple pre (MonadExcept.tryCatch program fun error => do tidy; MonadExcept.throw error) post fail :=
  Triple.tryCatch body fun _ => Triple.bind tidies fun _ => Triple.throw fun _ holds => holds

theorem Triple.forM {items : List α} {body : α → EStateM ε σ PUnit}
    (round : ∀ item ∈ items, Triple pre (body item) (fun _ => pre) fail) :
    Triple pre (items.forM body) (fun _ => pre) fail := by
  induction items with
  | nil => exact Triple.pure fun _ holds => holds
  | cons item rest ih =>
    refine Triple.bind (round item List.mem_cons_self) fun _ => ?_
    exact ih fun later member => round later (List.mem_cons_of_mem item member)

variable {step : σ → σ → Prop}

theorem Closed.and {first second : σ → Prop} (closed : Closed step first)
    (framed : Closed step second) : Closed step fun state => first state ∧ second state :=
  fun before after holds moves =>
    ⟨closed before after holds.1 moves, framed before after holds.2 moves⟩

theorem Closed.mono {step larger : σ → σ → Prop} {assertion : σ → Prop}
    (closed : Closed larger assertion) (within : ∀ before after, step before after → larger before after) :
    Closed step assertion :=
  fun before after holds moves => closed before after holds (within before after moves)

theorem Keeps.mono {step larger : σ → σ → Prop} (keeps : Keeps step program)
    (within : ∀ before after, step before after → larger before after) : Keeps larger program :=
  ⟨fun closed => keeps.triple (closed.mono within)⟩

theorem Keeps.pure : Keeps step (Pure.pure value : EStateM ε σ α) :=
  ⟨fun _ => Triple.pure fun _ holds => holds⟩

theorem Keeps.throw {error : ε} : Keeps step (MonadExcept.throw error : EStateM ε σ α) :=
  ⟨fun _ => Triple.throw fun _ holds => holds⟩

theorem Keeps.bind (before : Keeps step first) (after : ∀ value, Keeps step (next value)) :
    Keeps step (first >>= next) :=
  ⟨fun closed => Triple.bind (before.triple closed) fun value => (after value).triple closed⟩

theorem Keeps.get_bind {next : σ → EStateM ε σ α}
    (after : ∀ state, Keeps step (next state)) : Keeps step (MonadState.get >>= next) :=
  ⟨fun closed => Triple.get_bind fun state holds =>
    ((after state).triple closed).consequence (fun _ same => same ▸ holds) (fun _ _ => id)
      fun _ => id⟩

theorem Keeps.modify {update : σ → σ} (moves : ∀ state, step state (update state)) :
    Keeps step (modify update : EStateM ε σ Unit) :=
  ⟨fun closed => Triple.modify fun state holds => closed state (update state) holds (moves state)⟩

theorem Keeps.forM {items : List α} {body : α → EStateM ε σ PUnit}
    (round : ∀ item, Keeps step (body item)) : Keeps step (items.forM body) :=
  ⟨fun closed => Triple.forM fun item _ => (round item).triple closed⟩

end WorkOrchestration.Lib.Programs
