import WorkOrchestration.Native.ReplanningRegistry

/-!
# Linear lifecycles

The status of a replanning state changes in three sections that hold the registry lock, with
unlocked code between them.  What each section keeps is stated once, and every run keeps it: no
two calls work on one object, and a lifecycle has one state that is available or in flight.
-/

namespace WorkOrchestration.Native.ReplanningRegistry

open List Artifacts

namespace System

variable {system next : System} {object other address call : Nat} {record : Record}
  {capability : Capability} {status : Status} {current after : Call}

def status? (system : System) (object : Nat) : Option Status :=
  (system.record? object).map Record.status

theorem record?_eq_some : system.record? object = some record ↔
      ∃ capability, system.objects[object]? = some capability ∧
        system.records capability.address = some record ∧ record.reference = object := by
  unfold record?
  constructor
  · intro found
    obtain ⟨capability, there, found⟩ := Option.bind_eq_some_iff.mp found
    obtain ⟨registered, at_address, found⟩ := Option.bind_eq_some_iff.mp found
    by_cases same : registered.reference = object
    · rw [if_pos same] at found
      cases found
      exact ⟨capability, there, at_address, same⟩
    · rw [if_neg same] at found
      cases found
  · rintro ⟨capability, there, at_address, same⟩
    simp [there, at_address, same]

theorem status?_eq_some : system.status? object = some status ↔
      ∃ record, system.record? object = some record ∧ record.status = status := by
  simp [status?]

@[simp] theorem setCall_objects : (system.setCall call after).objects = system.objects := rfl
@[simp] theorem setCall_collected : (system.setCall call after).collected = system.collected := rfl
@[simp] theorem setCall_bootstrapped :
    (system.setCall call after).bootstrapped = system.bootstrapped := rfl
@[simp] theorem setCall_successors :
    (system.setCall call after).successors = system.successors := rfl
@[simp] theorem setCall_calls : (system.setCall call after).calls = system.calls.set call after := rfl
@[simp] theorem setCall_record? :
    (system.setCall call after).record? object = system.record? object := rfl
@[simp] theorem setCall_status? :
    (system.setCall call after).status? object = system.status? object := rfl

/-! ## What one write to the registry changes -/

/-- An object at another address keeps its record. -/
theorem setRecord_elsewhere {written : Option Record}
    (apart : (system.objects[object]?).map Capability.address ≠ some address) :
    (system.setRecord address written).record? object = system.record? object := by
  apply Option.ext
  intro found
  rw [record?_eq_some, record?_eq_some]
  constructor
  · rintro ⟨capability, there, at_address, same⟩
    change system.objects[object]? = some capability at there
    have distinct : capability.address ≠ address := by
      intro equal
      exact apart (by rw [there, ← equal]; rfl)
    have kept : system.records capability.address = some found := by
      simpa [setRecord, distinct] using at_address
    exact ⟨capability, there, kept, same⟩
  · rintro ⟨capability, there, at_address, same⟩
    have distinct : capability.address ≠ address := by
      intro equal
      exact apart (by rw [there, ← equal]; rfl)
    exact ⟨capability, there, by simpa [setRecord, distinct] using at_address, same⟩

theorem setRecord_here (there : system.objects[object]? = some capability)
    (reference : record.reference = object) :
    (system.setRecord capability.address (some record)).record? object = some record :=
  record?_eq_some.mpr ⟨capability, there, by simp [setRecord], reference⟩

theorem setRecord_other {written : Option Record}
    (distinct : ∀ record, written = some record → record.reference ≠ object) :
    (system.setRecord address written).record? object = system.record? object ∨
      (system.setRecord address written).record? object = none := by
  by_cases apart : (system.objects[object]?).map Capability.address = some address
  · right
    apply Option.eq_none_iff_forall_ne_some.mpr
    intro found present
    obtain ⟨capability, there, at_address, same⟩ := record?_eq_some.mp present
    have here : capability.address = address := by
      have equal : (some capability).map Capability.address = some address := there ▸ apart
      exact Option.some.inj equal
    exact distinct found (by simpa [setRecord, here] using at_address) same
  · exact .inl (setRecord_elsewhere apart)

theorem setStatus_eq (there : system.objects[object]? = some capability) :
    system.setStatus object record status =
      system.setRecord capability.address (some { record with status }) := by
  simp [setStatus, there]

theorem setStatus_here (registered : system.record? object = some record) :
    (system.setStatus object record status).record? object = some { record with status } := by
  obtain ⟨capability, there, -, same⟩ := record?_eq_some.mp registered
  rw [setStatus_eq there]
  exact setRecord_here there same

theorem setStatus_other (registered : system.record? object = some record)
    (distinct : other ≠ object) :
    (system.setStatus object record status).record? other = system.record? other := by
  obtain ⟨capability, there, at_address, same⟩ := record?_eq_some.mp registered
  rw [setStatus_eq there]
  by_cases apart : (system.objects[other]?).map Capability.address = some capability.address
  · obtain ⟨twin, twin_there, twin_address⟩ := Option.map_eq_some_iff.mp apart
    have absent : ∀ found, ¬ system.record? other = some found := by
      intro found present
      obtain ⟨twin', there', at', same'⟩ := record?_eq_some.mp present
      rw [twin_there] at there'
      cases there'
      rw [twin_address, at_address] at at'
      cases at'
      exact distinct (same'.symm.trans same)
    have kept := Option.eq_none_iff_forall_ne_some.mpr absent
    have elsewhere : ∀ written, some { record with status } = some written →
        written.reference ≠ other := by
      rintro written ⟨⟩ equal
      exact distinct (equal.symm.trans same)
    rcases setRecord_other elsewhere with unchanged | lost
    · exact unchanged
    · rw [lost, kept]
  · exact setRecord_elsewhere apart

@[simp] theorem setStatus_objects :
    (system.setStatus object record status).objects = system.objects := by
  unfold setStatus
  split <;> rfl

@[simp] theorem setStatus_collected :
    (system.setStatus object record status).collected = system.collected := by
  unfold setStatus
  split <;> rfl

@[simp] theorem setStatus_bootstrapped :
    (system.setStatus object record status).bootstrapped = system.bootstrapped := by
  unfold setStatus
  split <;> rfl

@[simp] theorem setStatus_successors :
    (system.setStatus object record status).successors = system.successors := by
  unfold setStatus
  split <;> rfl

@[simp] theorem setStatus_calls :
    (system.setStatus object record status).calls = system.calls := by
  unfold setStatus
  split <;> rfl

theorem registeredLocked_ok (passed : system.registeredLocked object status = .ok record) :
    system.record? object = some record ∧ record.status = status := by
  unfold registeredLocked at passed
  split at passed
  · rename_i capability found there registered
    split at passed
    · cases passed
    · split at passed
      · rename_i same
        cases passed
        exact ⟨registered, same⟩
      · split at passed <;> cases passed
  · cases passed

theorem registeredLocked_error (absent : system.status? object ≠ some status) :
    ∃ error, system.registeredLocked object status = .error error := by
  cases outcome : system.registeredLocked object status with
  | error error => exact ⟨error, rfl⟩
  | ok record =>
    obtain ⟨registered, same⟩ := registeredLocked_ok outcome
    exact absurd (status?_eq_some.mpr ⟨record, registered, same⟩) absent

end System

/-! ## What holds of every registry -/

/-- The object a call has made and not yet registered. -/
def Call.fresh : Call → Option Nat
  | .minted object => some object
  | .sealing _ successor => some successor
  | _ => none

def Call.source : Call → Option Nat
  | .claimed source => some source
  | .running source => some source
  | .working source => some source
  | .sealing source _ => some source
  | .failing source _ => some source
  | _ => none

theorem Call.fresh_held {call : Call} {object : Nat} (fresh : call.fresh = some object) :
    object ∈ call.holds := by
  cases call <;> simp_all [Call.fresh, Call.holds]

theorem Call.source_held {call : Call} {object : Nat} (source : call.source = some object) :
    object ∈ call.holds := by
  cases call <;> simp_all [Call.source, Call.holds]

namespace System

def Active (system : System) (object : Nat) : Prop :=
  ∃ status, system.status? object = some status ∧ status ≠ .retired

/-- Records lie where their objects lie, and objects that are alive lie apart. -/
structure Heap (system : System) : Prop where
  placed : ∀ address record, system.records address = some record →
    ∃ capability, system.objects[record.reference]? = some capability ∧
      capability.address = address ∧ record.mac = capability.mac
  apart : ∀ object other first second, system.objects[object]? = some first →
    system.objects[other]? = some second → system.Alive object → system.Alive other →
    first.address = second.address → object = other

/-- Every lifecycle that was begun is a single thread of states, at most the last of which is
available or in flight. -/
structure Linear (system : System) : Prop where
  bootstrapped_once : system.bootstrapped.Nodup
  bootstrapped_active : ∀ object capability, system.Active object →
    system.objects[object]? = some capability → capability.identity ∈ system.bootstrapped
  one_active : ∀ object other first second, system.Active object → system.Active other →
    system.objects[object]? = some first → system.objects[other]? = some second →
    first.identity = second.identity → object = other
  one_successor : (system.successors.map Prod.fst).Nodup
  source_retired : ∀ object ∈ system.successors.map Prod.fst, ¬ system.Active object
  retired_source : ∀ object, system.status? object = some .retired →
    object ∈ system.successors.map Prod.fst

end System

/-- What the registry says about the objects that a call works on. -/
structure Call.Sound (system : System) (call : Call) : Prop where
  alive : ∀ object ∈ call.holds, system.Alive object
  fresh : ∀ object, call.fresh = some object →
    system.record? object = none ∧ object ∉ system.successors.map Prod.fst
  source : ∀ object, call.source = some object → system.status? object = some .inFlight

/-- Two calls work on different objects. -/
structure Call.Apart (call other : Call) : Prop where
  fresh : ∀ object, call.fresh = some object → other.fresh ≠ some object
  source : ∀ object, call.source = some object → other.source ≠ some object

theorem Call.Apart.symm {call other : Call} (apart : call.Apart other) : other.Apart call :=
  ⟨fun object here there => apart.fresh object there here,
    fun object here there => apart.source object there here⟩

namespace System

/-- What holds of every state of the process. -/
structure Orderly (system : System) : Prop where
  heap : system.Heap
  made : ∀ object, object ∈ system.collected ∨ object ∈ system.successors.map Prod.fst →
    object < system.objects.length
  linear : system.Linear
  sound : ∀ (index : Nat) call, system.calls[index]? = some call → call.Sound system
  calls_apart : ∀ (first second : Nat) call other, system.calls[first]? = some call →
    system.calls[second]? = some other → first ≠ second → call.Apart other

theorem orderly_initial : Orderly initial where
  heap := {
    placed := by
      intro address record found
      cases found
    apart := by
      intro object other first second there
      cases there }
  made := by
    rintro object (member | member) <;> cases member
  linear := {
    bootstrapped_once := nodup_nil
    bootstrapped_active := by
      intro object capability _ there
      cases there
    one_active := by
      intro object other first second _ _ there
      cases there
    one_successor := nodup_nil
    source_retired := by
      intro object member
      cases member
    retired_source := by
      intro object retired
      cases retired }
  sound := by
    intro index call found
    cases found
  calls_apart := by
    intro first second call other found
    cases found

end System

variable {system next : System} {object other index : Nat} {record : Record}
  {capability : Capability} {current after call : Call}

theorem Call.Sound.idle (alive : ∀ object ∈ call.holds, system.Alive object)
    (fresh : call.fresh = none) (source : call.source = none) : call.Sound system where
  alive := alive
  fresh := by simp [fresh]
  source := by simp [source]

theorem Call.Apart.idle (fresh : call.fresh = none) (source : call.source = none) (other : Call) :
    call.Apart other where
  fresh := by simp [fresh]
  source := by simp [source]

theorem Call.Sound.frame (sound : call.Sound system)
    (alive : ∀ object ∈ call.holds, system.Alive object → next.Alive object)
    (records : ∀ object, call.fresh = some object ∨ call.source = some object →
      next.record? object = system.record? object)
    (successors : ∀ object, call.fresh = some object →
      object ∉ system.successors.map Prod.fst → object ∉ next.successors.map Prod.fst) :
    call.Sound next where
  alive := by
    intro object held
    exact alive object held (sound.alive object held)
  fresh := by
    intro object fresh
    obtain ⟨unregistered, unpublished⟩ := sound.fresh object fresh
    rw [records object (.inl fresh)]
    exact ⟨unregistered, successors object fresh unpublished⟩
  source := by
    intro object source
    have claimed := sound.source object source
    rw [System.status?, records object (.inr source)]
    exact claimed

namespace System

/-- One call has moved and the registry has been changed in a way that the other calls do not
notice. -/
theorem calls_moved (next : System) (after : Call) (orderly : system.Orderly)
    (here : system.calls[index]? = some current)
    (calls : next.calls = system.calls.set index after)
    (sound : after.Sound next)
    (others : ∀ (other : Nat) call, other ≠ index → system.calls[other]? = some call →
      call.Sound system → current.Apart call → call.Sound next ∧ after.Apart call) :
    (∀ (index : Nat) call, next.calls[index]? = some call → call.Sound next) ∧
      ∀ (first second : Nat) call other, next.calls[first]? = some call →
        next.calls[second]? = some other → first ≠ second → call.Apart other := by
  have range : index < system.calls.length := (List.getElem?_eq_some_iff.mp here).1
  have found : ∀ (other : Nat) call, next.calls[other]? = some call →
      (other = index ∧ call = after) ∨ (other ≠ index ∧ system.calls[other]? = some call) := by
    intro other call found
    rw [calls, getElem?_set] at found
    by_cases same : index = other
    · rw [if_pos same, if_pos range] at found
      cases found
      exact .inl ⟨same.symm, rfl⟩
    · rw [if_neg same] at found
      exact .inr ⟨fun equal => same equal.symm, found⟩
  have frame : ∀ (other : Nat) call, other ≠ index → system.calls[other]? = some call →
      call.Sound next ∧ after.Apart call := by
    intro other call distinct found
    exact others other call distinct found (orderly.sound other call found)
      (orderly.calls_apart index other current call here found distinct.symm)
  constructor
  · intro other call there
    rcases found other call there with ⟨-, rfl⟩ | ⟨distinct, there⟩
    · exact sound
    · exact (frame other call distinct there).1
  · intro first second call other first_there second_there distinct
    rcases found first call first_there with ⟨rfl, rfl⟩ | ⟨first_distinct, first_there⟩
    · rcases found second other second_there with ⟨rfl, rfl⟩ | ⟨second_distinct, second_there⟩
      · exact absurd rfl distinct
      · exact (frame second other second_distinct second_there).2
    · rcases found second other second_there with ⟨rfl, rfl⟩ | ⟨second_distinct, second_there⟩
      · exact (frame first call first_distinct first_there).2.symm
      · exact orderly.calls_apart first second call other first_there second_there distinct

/-! ## What each section keeps -/

theorem Heap.setRecord (heap : system.Heap) {address : Nat} {written : Option Record}
    (placed : ∀ record, written = some record →
      ∃ capability, system.objects[record.reference]? = some capability ∧
        capability.address = address ∧ record.mac = capability.mac) :
    (system.setRecord address written).Heap where
  placed := by
    intro elsewhere record found
    by_cases here : elsewhere = address
    · subst here
      exact placed record (by simpa [System.setRecord] using found)
    · exact heap.placed elsewhere record (by simpa [System.setRecord, here] using found)
  apart := heap.apart

variable {status : Status}

theorem Heap.setStatus (heap : system.Heap) (registered : system.record? object = some record) :
    (system.setStatus object record status).Heap := by
  obtain ⟨capability, there, at_address, same⟩ := record?_eq_some.mp registered
  rw [System.setStatus_eq there]
  apply heap.setRecord
  rintro rewritten ⟨⟩
  obtain ⟨held, held_there, held_address, mac⟩ := heap.placed capability.address record at_address
  exact ⟨held, held_there, held_address, mac⟩

theorem Heap.setCall (heap : system.Heap) : (system.setCall index after).Heap :=
  ⟨heap.placed, heap.apart⟩

theorem Linear.setCall (linear : system.Linear) : (system.setCall index after).Linear :=
  ⟨linear.bootstrapped_once, linear.bootstrapped_active, linear.one_active, linear.one_successor,
    linear.source_retired, linear.retired_source⟩

/-- No object has become available or in flight, and none has been retired. -/
theorem Linear.of_fewer (linear : system.Linear)
    (bootstrapped : next.bootstrapped = system.bootstrapped)
    (successors : next.successors = system.successors)
    (objects : ∀ object capability, next.Active object → next.objects[object]? = some capability →
      system.objects[object]? = some capability)
    (active : ∀ object, next.Active object → system.Active object)
    (retired : ∀ object, next.status? object = some .retired →
      system.status? object = some .retired) :
    next.Linear where
  bootstrapped_once := bootstrapped ▸ linear.bootstrapped_once
  bootstrapped_active := by
    intro object capability is_active there
    rw [bootstrapped]
    exact linear.bootstrapped_active object capability (active object is_active)
      (objects object capability is_active there)
  one_active := by
    intro object other first second first_active second_active first_there second_there
    exact linear.one_active object other first second (active object first_active)
      (active other second_active) (objects object first first_active first_there)
      (objects other second second_active second_there)
  one_successor := successors ▸ linear.one_successor
  source_retired := by
    intro object member is_active
    rw [successors] at member
    exact linear.source_retired object member (active object is_active)
  retired_source := by
    intro object is_retired
    rw [successors]
    exact linear.retired_source object (retired object is_retired)

theorem Linear.setStatus (linear : system.Linear) (registered : system.record? object = some record)
    (before : record.status ≠ .retired) (later : status ≠ .retired) :
    (system.setStatus object record status).Linear := by
  apply linear.of_fewer setStatus_bootstrapped setStatus_successors
  · intro other capability _ there
    rwa [setStatus_objects] at there
  · rintro other ⟨found, present, live⟩
    by_cases same : other = object
    · subst same
      exact ⟨record.status, status?_eq_some.mpr ⟨record, registered, rfl⟩, before⟩
    · rw [status?, setStatus_other registered same] at present
      exact ⟨found, present, live⟩
  · intro other retired
    by_cases same : other = object
    · subst same
      rw [status?, setStatus_here registered] at retired
      exact absurd (Option.some.inj retired) later
    · rwa [status?, setStatus_other registered same] at retired

/-- A call goes on while the registry stays as it is. -/
theorem Orderly.setCall (orderly : system.Orderly) (here : system.calls[index]? = some current)
    (holds : ∀ object ∈ after.holds, object ∈ current.holds)
    (fresh : ∀ object, after.fresh = some object → current.fresh = some object)
    (source : ∀ object, after.source = some object → current.source = some object) :
    (system.setCall index after).Orderly := by
  have sound := orderly.sound index current here
  have moved := calls_moved (system.setCall index after) after orderly here rfl
    ⟨fun object held => sound.alive object (holds object held),
      fun object is_fresh => sound.fresh object (fresh object is_fresh),
      fun object is_source => sound.source object (source object is_source)⟩
    (by
      intro other call _ _ other_sound apart
      exact ⟨⟨other_sound.alive, other_sound.fresh, other_sound.source⟩,
        fun object is_fresh => apart.fresh object (fresh object is_fresh),
        fun object is_source => apart.source object (source object is_source)⟩)
  exact ⟨orderly.heap.setCall, orderly.made, orderly.linear.setCall, moved.1, moved.2⟩

theorem Orderly.advance (orderly : system.Orderly) (here : system.calls[index]? = some current)
    (holds : after.holds ⊆ current.holds) (fresh : after.fresh = none)
    (source : after.source = current.source) : (system.setCall index after).Orderly :=
  orderly.setCall here (fun _ held => holds held) (by simp [fresh]) (by simp [source])

theorem Orderly.leave (orderly : system.Orderly) (here : system.calls[index]? = some current)
    (holds : after.holds = []) (fresh : after.fresh = none) (source : after.source = none) :
    (system.setCall index after).Orderly :=
  orderly.setCall here (by simp [holds]) (by simp [fresh]) (by simp [source])

theorem works_elsewhere (sound : call.Sound system)
    (registered : system.record? object = some record) (unclaimed : call.source ≠ some object) :
    ∀ held, call.fresh = some held ∨ call.source = some held → held ≠ object := by
  rintro held (fresh | source) rfl
  · rw [(sound.fresh held fresh).1] at registered
    cases registered
  · exact unclaimed source

/-- The status of an object that no other call has claimed is set. -/
theorem Orderly.setStatus (orderly : system.Orderly) (here : system.calls[index]? = some current)
    (registered : system.record? object = some record) (before : record.status ≠ .retired)
    (later : status ≠ .retired)
    (unclaimed : ∀ (other : Nat) call, other ≠ index → system.calls[other]? = some call →
      call.source ≠ some object)
    (sound : after.Sound ((system.setStatus object record status).setCall index after))
    (fresh : after.fresh = none) (source : ∀ held, after.source = some held → held = object) :
    ((system.setStatus object record status).setCall index after).Orderly := by
  have moved := calls_moved ((system.setStatus object record status).setCall index after) after
    orderly here (by simp) sound
    (by
      intro other call distinct found other_sound apart
      have elsewhere := works_elsewhere other_sound registered (unclaimed other call distinct found)
      constructor
      · apply other_sound.frame
        · simp [Alive]
        · intro held works
          exact setStatus_other registered (elsewhere held works)
        · simp
      · constructor
        · intro held is_fresh
          rw [fresh] at is_fresh
          cases is_fresh
        · intro held is_source other_source
          exact elsewhere held (.inr other_source) (source held is_source))
  exact ⟨(orderly.heap.setStatus registered).setCall, by simpa using orderly.made,
    (orderly.linear.setStatus registered before later).setCall, moved.1, moved.2⟩

variable {error : PyError}

theorem Orderly.raise (orderly : system.Orderly) {error : PyError}
    (here : system.calls[index]? = some current) :
    (system.setCall index (.raised error)).Orderly :=
  orderly.leave here rfl rfl rfl

/-- The claim of an available state. -/
theorem Orderly.claim (orderly : system.Orderly) {argument : Argument}
    (here : system.calls[index]? = some (.calling argument)) :
    (system.claim index argument).Orderly := by
  cases argument with
  | other value => exact orderly.raise here
  | capability object =>
    cases checked : system.registeredLocked object .available with
    | error error =>
      have refused : system.claim index (.capability object) =
          system.setCall index (.raised error) := by
        simp [System.claim, checked]
      rw [refused]
      exact orderly.raise here
    | ok record =>
      have claimed : system.claim index (.capability object) =
          (system.setStatus object record .inFlight).setCall index (.claimed object) := by
        simp [System.claim, checked]
      rw [claimed]
      obtain ⟨registered, available⟩ := registeredLocked_ok checked
      have alive := (orderly.sound index _ here).alive object (mem_singleton_self _)
      apply orderly.setStatus here registered (by simp [available]) (by simp)
      · intro other call _ found source
        have in_flight := (orderly.sound other call found).source object source
        rw [status?, registered, Option.map_some, available] at in_flight
        cases in_flight
      · exact {
          alive := by
            intro held member
            cases mem_singleton.mp member
            simpa [Alive] using alive
          fresh := by
            intro held fresh
            cases fresh
          source := by
            intro held source
            cases source
            simp [status?, setStatus_here registered] }
      · rfl
      · intro held source
        cases source
        rfl

theorem release_failing (orderly : system.Orderly)
    (here : system.calls[index]? = some (.failing object error)) :
    ∃ record, system.record? object = some record ∧ record.status = .inFlight ∧
      system.release index object error =
        (system.setStatus object record .available).setCall index (.raised error) := by
  have in_flight := (orderly.sound index _ here).source object rfl
  obtain ⟨record, registered, status⟩ := status?_eq_some.mp in_flight
  exact ⟨record, registered, status, by simp [System.release, registered, status]⟩

theorem Orderly.release (orderly : system.Orderly)
    (here : system.calls[index]? = some (.failing object error)) :
    (system.release index object error).Orderly := by
  obtain ⟨record, registered, status, released⟩ := release_failing orderly here
  rw [released]
  apply orderly.setStatus here registered (by simp [status]) (by simp)
  · intro other call distinct found
    exact (orderly.calls_apart index other _ call here found distinct.symm).source object rfl
  · exact .idle (by simp [Call.holds]) rfl rfl
  · rfl
  · intro held source
    cases source

variable {source successor : Nat} {old new : Capability}

/-- The record of an object that has just been made. -/
def publish (system : System) (object : Nat) (capability : Capability) : System :=
  system.setRecord capability.address (some ⟨object, capability.mac, .available⟩)

theorem publish_here (there : system.objects[object]? = some capability) :
    (system.publish object capability).status? object = some .available :=
  status?_eq_some.mpr ⟨_, setRecord_here there rfl, rfl⟩

theorem publish_other (distinct : other ≠ object) :
    (system.publish object capability).record? other = system.record? other ∨
      (system.publish object capability).record? other = none := by
  apply setRecord_other
  rintro record ⟨⟩
  exact distinct.symm

theorem publish_alive (heap : system.Heap) (there : system.objects[object]? = some capability)
    (alive : system.Alive object) (other_alive : system.Alive other) (distinct : other ≠ object) :
    (system.publish object capability).record? other = system.record? other := by
  apply setRecord_elsewhere
  intro same
  obtain ⟨second, second_there, address⟩ := Option.map_eq_some_iff.mp same
  exact distinct (heap.apart other object second capability second_there there other_alive alive
    address)

theorem Heap.publish (heap : system.Heap) (there : system.objects[object]? = some capability) :
    (system.publish object capability).Heap := by
  apply heap.setRecord
  rintro record ⟨⟩
  exact ⟨capability, there, rfl, rfl⟩

theorem publish_active (distinct : other ≠ object)
    (active : (system.publish object capability).Active other) : system.Active other := by
  obtain ⟨status, present, live⟩ := active
  refine ⟨status, ?_, live⟩
  rcases publish_other distinct with kept | lost
  · rwa [status?, kept] at present
  · rw [status?, lost] at present
    cases present

theorem publish_status (distinct : other ≠ object)
    (present : (system.publish object capability).status? other = some status) :
    system.status? other = some status := by
  rcases publish_other distinct with kept | lost
  · rwa [status?, kept] at present
  · rw [status?, lost] at present
    cases present

theorem fresh_elsewhere (orderly : system.Orderly) (here : system.calls[index]? = some current)
    (fresh : current.fresh = some object) (sound : call.Sound system)
    (apart : current.Apart call) :
    ∀ held, call.fresh = some held ∨ call.source = some held → held ≠ object := by
  rintro held (is_fresh | is_source) rfl
  · exact apart.fresh held fresh is_fresh
  · have claimed := sound.source held is_source
    rw [status?, ((orderly.sound index current here).fresh held fresh).1] at claimed
    cases claimed

/-- An object that a call has made is published, and no other state of its lifecycle is
available or in flight. -/
theorem Orderly.publish (orderly : system.Orderly) {bootstrapped : List Identity}
    (here : system.calls[index]? = some (.minted object))
    (there : system.objects[object]? = some capability)
    (inactive : ∀ other second, system.Active other → system.objects[other]? = some second →
      capability.identity ≠ second.identity)
    (grown : ∀ identity ∈ system.bootstrapped, identity ∈ bootstrapped)
    (begun : capability.identity ∈ bootstrapped) (once : bootstrapped.Nodup)
    (holds : ∀ held ∈ after.holds, held = object) (fresh : after.fresh = none)
    (source : after.source = none) :
    ({ ((system.publish object capability).setCall index after) with bootstrapped } :
      System).Orderly := by
  have alive := (orderly.sound index _ here).alive object (mem_singleton_self _)
  obtain ⟨-, unpublished⟩ := (orderly.sound index _ here).fresh object rfl
  have active : ∀ other, (system.publish object capability).Active other → other ≠ object →
      system.Active other := by
    intro other is_active distinct
    exact publish_active distinct is_active
  have moved := calls_moved
    { ((system.publish object capability).setCall index after) with bootstrapped } after
    orderly here rfl (.idle (fun held member => holds held member ▸ alive) fresh source)
    (by
      intro other call _ _ sound apart
      have elsewhere := fresh_elsewhere orderly here rfl sound apart
      constructor
      · apply sound.frame
        · intro held _ held_alive
          exact held_alive
        · intro held works
          have held_alive : system.Alive held := by
            rcases works with is_fresh | is_source
            · exact sound.alive held (Call.fresh_held is_fresh)
            · exact sound.alive held (Call.source_held is_source)
          exact publish_alive orderly.heap there alive held_alive (elsewhere held works)
        · intro held _ absent
          exact absent
      · exact .idle fresh source call)
  have heap := orderly.heap.publish there
  refine ⟨⟨heap.placed, heap.apart⟩, orderly.made, ?_, moved.1, moved.2⟩
  constructor
  · exact once
  · intro other second is_active second_there
    by_cases same : other = object
    · subst same
      cases there.symm.trans second_there
      exact begun
    · exact grown _ (orderly.linear.bootstrapped_active other second
        (active other is_active same) second_there)
  · intro first second one two first_active second_active first_there second_there same
    by_cases first_new : first = object
    · by_cases second_new : second = object
      · rw [first_new, second_new]
      · subst first_new
        cases there.symm.trans first_there
        exact absurd same (inactive second two (active second second_active second_new)
          second_there)
    · by_cases second_new : second = object
      · subst second_new
        cases there.symm.trans second_there
        exact absurd same.symm (inactive first one (active first first_active first_new)
          first_there)
      · exact orderly.linear.one_active first second one two
          (active first first_active first_new) (active second second_active second_new)
          first_there second_there same
  · exact orderly.linear.one_successor
  · intro other member is_active
    by_cases same : other = object
    · exact unpublished (same ▸ member)
    · exact orderly.linear.source_retired other member (active other is_active same)
  · intro other retired
    by_cases same : other = object
    · subst same
      change (system.publish other capability).status? other = some .retired at retired
      rw [publish_here there] at retired
      cases retired
    · exact orderly.linear.retired_source other (publish_status same retired)

/-- The registration of the first state of a lifecycle. -/
theorem Orderly.register (orderly : system.Orderly)
    (here : system.calls[index]? = some (.minted object))
    (there : system.objects[object]? = some capability) :
    (system.register index object capability).Orderly := by
  unfold System.register
  by_cases begun : capability.identity ∈ system.bootstrapped
  · rw [if_pos begun]
    exact orderly.raise here
  rw [if_neg begun]
  apply orderly.publish here there
  · intro other second active second_there same
    exact begun (same ▸ orderly.linear.bootstrapped_active other second active second_there)
  · intro identity member
    exact mem_append_left _ member
  · exact mem_append_right _ (mem_singleton_self _)
  · exact nodup_append.mpr ⟨orderly.linear.bootstrapped_once, by simp, by
      intro first member second last same
      cases mem_singleton.mp last
      exact begun (same ▸ member)⟩
  · intro held member
    exact mem_singleton.mp member
  · rfl
  · rfl

/-- The source is retired while its successor is still to be published. -/
def retire (system : System) (index source successor : Nat) (record : Record) : System :=
  { ((system.setStatus source record .retired).setCall index (.minted successor)) with
    successors := system.successors ++ [(source, successor)] }

theorem retire_active (registered : system.record? source = some record)
    (active : (system.retire index source successor record).Active object) :
    system.Active object ∧ object ≠ source := by
  obtain ⟨status, present, live⟩ := active
  change (system.setStatus source record .retired).status? object = some status at present
  have apart : object ≠ source := by
    rintro rfl
    rw [status?, setStatus_here registered] at present
    cases present
    exact live rfl
  rw [status?, setStatus_other registered apart] at present
  exact ⟨⟨status, present, live⟩, apart⟩

theorem Orderly.retire (orderly : system.Orderly)
    (here : system.calls[index]? = some (.sealing source successor))
    (registered : system.record? source = some record) :
    (system.retire index source successor record).Orderly := by
  have sound := orderly.sound index _ here
  obtain ⟨unregistered, unpublished⟩ := sound.fresh successor rfl
  have source_active : system.Active source := ⟨.inFlight, sound.source source rfl, by simp⟩
  have distinct : successor ≠ source := by
    rintro rfl
    rw [unregistered] at registered
    cases registered
  have records : ∀ other, other ≠ source →
      (system.retire index source successor record).record? other = system.record? other := by
    intro other elsewhere
    exact setStatus_other registered elsewhere
  have lives : ∀ other, system.Alive other →
      (system.retire index source successor record).Alive other := by
    simp [Alive, System.retire]
  have absent : ∀ other, other ∉ system.successors.map Prod.fst → other ≠ source →
      other ∉ (system.retire index source successor record).successors.map Prod.fst := by
    intro other absent elsewhere member
    rcases mem_append.mp (map_append ▸ member) with before | last
    · exact absent before
    · exact elsewhere (mem_singleton.mp last)
  have moved := calls_moved (system.retire index source successor record) (.minted successor)
    orderly here (by simp [System.retire])
    { alive := by
        intro held member
        cases mem_singleton.mp member
        exact lives successor (sound.alive successor (mem_cons_of_mem _ (mem_singleton_self _)))
      fresh := by
        intro held fresh
        cases fresh
        rw [records successor distinct]
        exact ⟨unregistered, absent successor unpublished distinct⟩
      source := by
        intro held is_source
        cases is_source }
    (by
      intro other call _ _ other_sound apart
      have unclaimed := works_elsewhere other_sound registered (apart.source source rfl)
      constructor
      · apply other_sound.frame
        · intro held _
          exact lives held
        · intro held works
          exact records held (unclaimed held works)
        · intro held fresh before
          exact absent held before (unclaimed held (.inl fresh))
      · constructor
        · intro held fresh
          cases fresh
          exact apart.fresh successor rfl
        · intro held is_source
          cases is_source)
  have heap : (system.setStatus source record .retired).Heap := orderly.heap.setStatus registered
  refine ⟨⟨heap.placed, heap.apart⟩, ?_, ?_, moved.1, moved.2⟩
  · intro object member
    have source_lt := (sound.alive source (mem_cons_self)).1
    have before : object ∈ system.collected ∨ object ∈ system.successors.map Prod.fst ∨
        object = source := by
      simpa [System.retire, or_assoc] using member
    change object < (system.setStatus source record .retired).objects.length
    rw [setStatus_objects]
    rcases before with collected | published | rfl
    · exact orderly.made object (.inl collected)
    · exact orderly.made object (.inr published)
    · exact source_lt
  constructor
  · simpa [System.retire] using orderly.linear.bootstrapped_once
  · intro other second is_active there
    have before := (retire_active registered is_active).1
    simpa [System.retire] using orderly.linear.bootstrapped_active other second before
      (by simpa [System.retire] using there)
  · intro first other one two first_active other_active first_there other_there
    exact orderly.linear.one_active first other one two
      (retire_active registered first_active).1 (retire_active registered other_active).1
      (by simpa [System.retire] using first_there) (by simpa [System.retire] using other_there)
  · change ((system.successors ++ [(source, successor)]).map Prod.fst).Nodup
    rw [map_append]
    exact nodup_append.mpr ⟨orderly.linear.one_successor, by simp, by
      intro first member second last same
      cases mem_singleton.mp last
      subst same
      exact orderly.linear.source_retired _ member source_active⟩
  · intro other member is_active
    have before := retire_active registered is_active
    rcases mem_append.mp (map_append ▸ member) with earlier | last
    · exact orderly.linear.source_retired other earlier before.1
    · exact before.2 (mem_singleton.mp last)
  · intro other retired
    change other ∈ (system.successors ++ [(source, successor)]).map Prod.fst
    rw [map_append]
    by_cases last : other = source
    · exact mem_append_right _ (by simp [last])
    · rw [status?, records other last] at retired
      exact mem_append_left _ (orderly.linear.retired_source other retired)

/-- The retirement of a source and the publication of its successor. -/
theorem Orderly.finalize (orderly : system.Orderly)
    (here : system.calls[index]? = some (.sealing source successor))
    (source_there : system.objects[source]? = some old)
    (successor_there : system.objects[successor]? = some new) :
    (system.finalize index source successor old new).Orderly := by
  have goes_failing : ∀ error, (system.setCall index (.failing source error)).Orderly :=
    fun error => orderly.advance here (by simp [Call.holds]) rfl rfl
  unfold System.finalize
  by_cases foreign : new.identity ≠ old.identity
  · rw [if_pos foreign]
    exact goes_failing _
  rw [if_neg foreign]
  have identity : new.identity = old.identity := not_not.mp foreign
  cases checked : system.registeredLocked source .inFlight with
  | error error => exact goes_failing error
  | ok record =>
    by_cases taken : (system.records new.address).isSome
    · simp only [taken]
      exact goes_failing _
    simp only [taken]
    obtain ⟨registered, in_flight⟩ := registeredLocked_ok checked
    have source_active : system.Active source :=
      ⟨.inFlight, (orderly.sound index _ here).source source rfl, by simp⟩
    have retired := orderly.retire here registered
    have range : index < system.calls.length := (List.getElem?_eq_some_iff.mp here).1
    have steps : ({ (((system.setStatus source record .retired).setRecord new.address
          (some ⟨successor, new.mac, .available⟩)).setCall index (.returned successor)) with
          successors := system.successors ++ [(source, successor)] } : System) =
        { (((system.retire index source successor record).publish successor new).setCall index
            (.returned successor)) with
          bootstrapped := (system.retire index source successor record).bootstrapped } := by
      simp [System.retire, System.publish, System.setRecord, System.setCall]
    rw [steps]
    apply retired.publish
    · simp [System.retire, range]
    · simpa [System.retire] using successor_there
    · intro other second active there same
      have before := retire_active registered active
      exact before.2 (orderly.linear.one_active other source second old before.1 source_active
        (by simpa [System.retire] using there) source_there (same.symm.trans identity))
    · intro identity member
      exact member
    · rw [identity]
      simpa [System.retire] using
        orderly.linear.bootstrapped_active source old source_active source_there
    · exact retired.linear.bootstrapped_once
    · intro held member
      cases member
    · rfl
    · rfl

theorem mint_there (lt : object < system.objects.length) :
    (system.mint capability).objects[object]? = system.objects[object]? :=
  getElem?_append_left lt

theorem mint_last : (system.mint capability).objects[system.objects.length]? = some capability := by
  simp [mint]

theorem mint_cases {there : Capability}
    (found : (system.mint capability).objects[object]? = some there) :
    system.objects[object]? = some there ∨ (object = system.objects.length ∧ there = capability) := by
  by_cases lt : object < system.objects.length
  · rw [mint_there lt] at found
    exact .inl found
  · have range : object < (system.mint capability).objects.length :=
      (List.getElem?_eq_some_iff.mp found).1
    have last : object = system.objects.length := by
      simp only [mint, List.length_append, List.length_singleton] at range
      omega
    subst last
    rw [mint_last] at found
    exact .inr ⟨rfl, (Option.some.inj found).symm⟩

/-- An object that has just been made has no record, also where an older one lay at its
address. -/
theorem Heap.mint_record? (heap : system.Heap) :
    (system.mint capability).record? object = system.record? object := by
  apply Option.ext
  intro record
  rw [record?_eq_some, record?_eq_some]
  constructor
  · rintro ⟨there, found, at_address, reference⟩
    rcases mint_cases found with before | ⟨last, -⟩
    · exact ⟨there, before, at_address, reference⟩
    · obtain ⟨older, older_there, -, -⟩ := heap.placed there.address record at_address
      rw [reference, last, getElem?_eq_none (le_refl _)] at older_there
      cases older_there
  · rintro ⟨there, found, at_address, reference⟩
    have lt : object < system.objects.length := (List.getElem?_eq_some_iff.mp found).1
    exact ⟨there, (mint_there lt).trans found, at_address, reference⟩

theorem mint_alive (alive : system.Alive object) : (system.mint capability).Alive object := by
  refine ⟨?_, alive.2⟩
  have lt := alive.1
  simp only [mint, List.length_append]
  omega

theorem Heap.mint (heap : system.Heap) (free : system.Free capability.address) :
    (system.mint capability).Heap where
  placed := by
    intro address record found
    obtain ⟨there, object_there, at_address, mac⟩ := heap.placed address record found
    have lt := (List.getElem?_eq_some_iff.mp object_there).1
    exact ⟨there, (mint_there lt).trans object_there, at_address, mac⟩
  apart := by
    intro first second one two first_there second_there first_alive second_alive same
    have older : ∀ object there, system.objects[object]? = some there →
        (system.mint capability).Alive object → there.address ≠ capability.address := by
      intro object there found alive
      have lt := (List.getElem?_eq_some_iff.mp found).1
      intro equal
      exact free object lt ⟨lt, alive.2⟩ (by rw [found, Option.map_some, equal])
    rcases mint_cases first_there with first_older | ⟨first_last, rfl⟩
    · rcases mint_cases second_there with second_older | ⟨second_last, rfl⟩
      · have first_lt := (List.getElem?_eq_some_iff.mp first_older).1
        have second_lt := (List.getElem?_eq_some_iff.mp second_older).1
        exact heap.apart first second one two first_older second_older
          ⟨first_lt, first_alive.2⟩ ⟨second_lt, second_alive.2⟩ same
      · exact absurd same (older first one first_older first_alive)
    · rcases mint_cases second_there with second_older | ⟨second_last, rfl⟩
      · exact absurd same.symm (older second two second_older second_alive)
      · rw [first_last, second_last]

/-- A call makes an object. -/
theorem Orderly.mint (orderly : system.Orderly)
    (here : system.calls[index]? = some current) (free : system.Free capability.address)
    (holds : ∀ held ∈ after.holds, held = system.objects.length ∨ held ∈ current.holds)
    (fresh : ∀ held, after.fresh = some held → held = system.objects.length)
    (source : ∀ held, after.source = some held → current.source = some held) :
    ((system.mint capability).setCall index after).Orderly := by
  have sound := orderly.sound index current here
  have uncollected : system.objects.length ∉ system.collected := by
    intro member
    exact lt_irrefl _ (orderly.made _ (.inl member))
  have unpublished : system.objects.length ∉ system.successors.map Prod.fst := by
    intro member
    exact lt_irrefl _ (orderly.made _ (.inr member))
  have records : ∀ object, ((system.mint capability).setCall index after).record? object =
      system.record? object := fun object => orderly.heap.mint_record?
  have unregistered : system.record? system.objects.length = none := by
    apply Option.eq_none_iff_forall_ne_some.mpr
    intro record found
    obtain ⟨there, found, -⟩ := record?_eq_some.mp found
    rw [getElem?_eq_none (le_refl _)] at found
    cases found
  have active : ∀ object, ((system.mint capability).setCall index after).Active object →
      system.Active object := by
    rintro object ⟨status, present, live⟩
    rw [status?, records object] at present
    exact ⟨status, present, live⟩
  have moved := calls_moved ((system.mint capability).setCall index after) after orderly here rfl
    { alive := by
        intro held member
        rcases holds held member with rfl | before
        · refine ⟨?_, uncollected⟩
          simp [System.mint]
        · exact mint_alive (sound.alive held before)
      fresh := by
        intro held is_fresh
        rw [fresh held is_fresh, records]
        exact ⟨unregistered, unpublished⟩
      source := by
        intro held is_source
        rw [status?, records]
        exact sound.source held (source held is_source) }
    (by
      intro other call _ found other_sound apart
      constructor
      · apply other_sound.frame
        · intro held _ alive
          exact mint_alive alive
        · intro held _
          exact records held
        · intro held _ absent
          exact absent
      · constructor
        · intro held is_fresh other_fresh
          have lt := (other_sound.alive held (Call.fresh_held other_fresh)).1
          rw [fresh held is_fresh] at lt
          exact lt_irrefl _ lt
        · intro held is_source
          exact apart.source held (source held is_source))
  have bootstrapped :
      ((system.mint capability).setCall index after).bootstrapped = system.bootstrapped := rfl
  refine ⟨(orderly.heap.mint free).setCall, ?_, ?_, moved.1, moved.2⟩
  · intro object member
    have lt := orderly.made object member
    change object < (system.objects ++ [capability]).length
    rw [List.length_append]
    omega
  apply orderly.linear.of_fewer bootstrapped rfl
  · intro object there is_active found
    rcases mint_cases found with before | ⟨last, -⟩
    · exact before
    · obtain ⟨status, present, -⟩ := active object is_active
      rw [status?, last, unregistered] at present
      cases present
  · exact active
  · intro object retired
    rwa [status?, records object] at retired

/-! ## Runs -/

theorem proceed_orderly (orderly : system.Orderly) {outcome : Outcome}
    (here : system.calls[index]? = some current) :
    (proceed system index current outcome).Orderly := by
  unfold proceed
  split
  · exact orderly.raise here
  · split
    · rename_i free
      apply orderly.mint here free
      · intro held member
        exact .inl (mem_singleton.mp member)
      · intro held fresh
        cases fresh
        rfl
      · intro held source
        cases source
    · exact orderly
  · split
    · rename_i there
      exact orderly.register here there
    · exact orderly
  · exact orderly.leave here rfl rfl rfl
  · exact orderly.raise here
  · exact orderly.claim here
  · exact orderly.advance here (List.Subset.refl _) rfl rfl
  · exact orderly.advance here (List.Subset.refl _) rfl rfl
  · unfold requireLive
    split <;>
    exact orderly.advance here (List.Subset.refl _) rfl rfl
  · exact orderly.advance here (List.Subset.refl _) rfl rfl
  · split
    · rename_i free
      apply orderly.mint here free
      · intro held member
        rcases mem_cons.mp member with rfl | last
        · exact .inr (mem_singleton_self _)
        · exact .inl (mem_singleton.mp last)
      · intro held fresh
        cases fresh
        rfl
      · intro held source
        exact source
    · exact orderly
  · exact orderly.advance here (by simp [Call.holds]) rfl rfl
  · split
    · rename_i old new source_there successor_there
      exact orderly.finalize here source_there successor_there
    · exact orderly
  · exact orderly.release here
  · exact orderly

/-- A call that begins works on nothing yet. -/
theorem begin_orderly (orderly : system.Orderly) (alive : ∀ held ∈ call.holds, system.Alive held)
    (fresh : call.fresh = none) (source : call.source = none) :
    ({ system with calls := system.calls ++ [call] } : System).Orderly := by
  have found : ∀ (index : Nat) later, (system.calls ++ [call])[index]? = some later →
      system.calls[index]? = some later ∨ (index = system.calls.length ∧ later = call) := by
    intro index later found
    by_cases lt : index < system.calls.length
    · rw [getElem?_append_left lt] at found
      exact .inl found
    · have range := (List.getElem?_eq_some_iff.mp found).1
      rw [List.length_append, List.length_singleton] at range
      have last : index = system.calls.length := by omega
      subst last
      rw [getElem?_concat_length] at found
      exact .inr ⟨rfl, (Option.some.inj found).symm⟩
  have apart : ∀ other, call.Apart other := Call.Apart.idle fresh source
  refine ⟨⟨orderly.heap.placed, orderly.heap.apart⟩, orderly.made,
    ⟨orderly.linear.bootstrapped_once, orderly.linear.bootstrapped_active,
      orderly.linear.one_active, orderly.linear.one_successor, orderly.linear.source_retired,
      orderly.linear.retired_source⟩, ?_, ?_⟩
  · intro index later there
    rcases found index later there with before | ⟨-, rfl⟩
    · have sound := orderly.sound index later before
      exact ⟨sound.alive, sound.fresh, sound.source⟩
    · exact .idle alive fresh source
  · intro first second one two first_there second_there distinct
    rcases found first one first_there with first_before | ⟨-, rfl⟩
    · rcases found second two second_there with second_before | ⟨-, rfl⟩
      · exact orderly.calls_apart first second one two first_before second_before distinct
      · exact (apart one).symm
    · exact apart two

theorem collect_orderly (orderly : system.Orderly) (alive : system.Alive object)
    (unheld : ∀ call ∈ system.calls, object ∉ call.holds) :
    ({ system with collected := object :: system.collected } : System).Orderly := by
  have before : ∀ other,
      ({ system with collected := object :: system.collected } : System).Alive other →
        system.Alive other := by
    intro other later
    exact ⟨later.1, fun member => later.2 (mem_cons_of_mem _ member)⟩
  refine ⟨⟨orderly.heap.placed, ?_⟩, ?_,
    ⟨orderly.linear.bootstrapped_once, orderly.linear.bootstrapped_active,
      orderly.linear.one_active, orderly.linear.one_successor, orderly.linear.source_retired,
      orderly.linear.retired_source⟩, ?_, orderly.calls_apart⟩
  · intro first second one two first_there second_there first_alive second_alive same
    exact orderly.heap.apart first second one two first_there second_there
      (before first first_alive) (before second second_alive) same
  · rintro other (member | member)
    · rcases mem_cons.mp member with rfl | older
      · exact alive.1
      · exact orderly.made other (.inl older)
    · exact orderly.made other (.inr member)
  · intro index call there
    have sound := orderly.sound index call there
    refine ⟨?_, sound.fresh, sound.source⟩
    intro held member
    have held_alive := sound.alive held member
    refine ⟨held_alive.1, ?_⟩
    intro gone
    rcases mem_cons.mp gone with rfl | older
    · exact unheld call (mem_of_getElem? there) member
    · exact held_alive.2 older

theorem removed (object : Nat) (address : Nat) :
    (system.setRecord address none).record? object = system.record? object ∨
      (system.setRecord address none).record? object = none := by
  apply setRecord_other
  intro record impossible
  cases impossible

/-- The record of an object that was collected is removed. -/
theorem remove_orderly (orderly : system.Orderly) (gone : object ∈ system.collected)
    (there : system.objects[object]? = some capability)
    (registered : system.record? object = some record) :
    (system.setRecord capability.address none).Orderly := by
  obtain ⟨same, same_there, here, reference⟩ := record?_eq_some.mp registered
  cases there.symm.trans same_there
  have kept : ∀ other, other ≠ object →
      (system.setRecord capability.address none).record? other = system.record? other := by
    intro other distinct
    rcases removed other capability.address with unchanged | lost
    · exact unchanged
    · cases present : system.record? other with
      | none => rw [lost]
      | some found =>
        obtain ⟨twin, twin_there, at_address, twin_reference⟩ := record?_eq_some.mp present
        rw [← present]
        apply setRecord_elsewhere
        rw [twin_there]
        intro equal
        rw [Option.some.inj equal, here] at at_address
        cases at_address
        exact distinct (twin_reference.symm.trans reference)
  have statuses : ∀ other status,
      (system.setRecord capability.address none).status? other = some status →
        system.status? other = some status := by
    intro other status present
    rcases removed other capability.address with unchanged | lost
    · rwa [status?, unchanged] at present
    · rw [status?, lost] at present
      cases present
  refine ⟨orderly.heap.setRecord ?_, orderly.made, ?_, ?_, orderly.calls_apart⟩
  · intro record impossible
    cases impossible
  · apply orderly.linear.of_fewer
    · rfl
    · rfl
    · intro other capability _ found
      exact found
    · rintro other ⟨status, present, live⟩
      exact ⟨status, statuses other status present, live⟩
    · intro other retired
      exact statuses other .retired retired
  · intro index call found
    have sound := orderly.sound index call found
    apply sound.frame
    · intro held _ alive
      exact alive
    · intro held works
      apply kept
      rintro rfl
      rcases works with fresh | source
      · exact (sound.alive held (Call.fresh_held fresh)).2 gone
      · exact (sound.alive held (Call.source_held source)).2 gone
    · intro held _ absent
      exact absent

theorem step_orderly (orderly : system.Orderly) (move : Move) : (step system move).Orderly := by
  cases move with
  | bootstrap => exact begin_orderly orderly (by simp [Call.holds]) rfl rfl
  | transition argument =>
    cases argument with
    | other value => exact begin_orderly orderly (by simp [Call.holds]) rfl rfl
    | capability object =>
      simp only [step]
      split
      · rename_i alive
        exact begin_orderly orderly (by simpa [Call.holds] using alive) rfl rfl
      · exact orderly
  | proceed index outcome =>
    simp only [step]
    split
    · rename_i here
      exact proceed_orderly orderly here
    · exact orderly
  | collect object =>
    simp only [step]
    split
    · rename_i unheld
      exact collect_orderly orderly unheld.1 unheld.2
    · exact orderly
  | remove object =>
    simp only [step]
    split
    · rename_i capability there
      split
      · rename_i possible
        obtain ⟨record, registered⟩ := Option.isSome_iff_exists.mp possible.2
        exact remove_orderly orderly possible.1 there registered
      · exact orderly
    · exact orderly

theorem foldl_orderly (orderly : system.Orderly) (moves : List Move) :
    (moves.foldl step system).Orderly := by
  induction moves generalizing system with
  | nil => exact orderly
  | cons move moves ih => exact ih (step_orderly orderly move)

theorem run_orderly (moves : List Move) : (run moves).Orderly := foldl_orderly orderly_initial moves

/-! ## What a move does to one call -/

theorem setCall_here (here : system.calls[index]? = some current)
    (calls : next.calls = system.calls) : (next.setCall index after).calls[index]? = some after := by
  have range : index < next.calls.length := by
    rw [calls]
    exact (List.getElem?_eq_some_iff.mp here).1
  simp [setCall, range]

theorem release_calls :
    (system.release index object error).calls = system.calls.set index (.raised error) := by
  unfold release
  split
  · split
    · simp
    · rfl
  · rfl

theorem finalize_moves {source successor : Nat} {old new : Capability} :
    ∃ after, (system.finalize index source successor old new).calls = system.calls.set index after ∧
      system.successors ⊆ (system.finalize index source successor old new).successors ∧
      ∀ error, after ≠ .raised error := by
  have stays : system.successors ⊆ system.successors := List.Subset.refl _
  unfold finalize
  split
  · exact ⟨_, rfl, stays, fun _ => Call.noConfusion⟩
  · split
    · exact ⟨_, rfl, stays, fun _ => Call.noConfusion⟩
    · split
      · exact ⟨_, rfl, stays, fun _ => Call.noConfusion⟩
      · exact ⟨.returned successor, by simp [setRecord, setCall], subset_append_left _ _,
          fun _ => Call.noConfusion⟩

/-- A call goes on alone, and no successor is taken back. -/
theorem proceed_moves (outcome : Outcome) : proceed system index current outcome = system ∨
      ∃ after, (proceed system index current outcome).calls = system.calls.set index after ∧
        system.successors ⊆ (proceed system index current outcome).successors := by
  have stays : system.successors ⊆ system.successors := List.Subset.refl _
  unfold proceed
  split
  · exact .inr ⟨_, rfl, stays⟩
  · split
    · exact .inr ⟨_, rfl, stays⟩
    · exact .inl rfl
  · split
    · unfold register
      split
      · exact .inr ⟨_, rfl, stays⟩
      · exact .inr ⟨_, rfl, stays⟩
    · exact .inl rfl
  · exact .inr ⟨_, rfl, stays⟩
  · exact .inr ⟨_, rfl, stays⟩
  · unfold claim
    split
    · exact .inr ⟨_, rfl, stays⟩
    · split
      · exact .inr ⟨_, rfl, stays⟩
      · exact .inr ⟨_, by simp; rfl, by simp [setCall]⟩
  · exact .inr ⟨_, rfl, stays⟩
  · exact .inr ⟨_, rfl, stays⟩
  · unfold requireLive
    split
    · exact .inr ⟨_, rfl, stays⟩
    · exact .inr ⟨_, rfl, stays⟩
  · exact .inr ⟨_, rfl, stays⟩
  · split
    · exact .inr ⟨_, rfl, stays⟩
    · exact .inl rfl
  · exact .inr ⟨_, rfl, stays⟩
  · split
    · obtain ⟨after, moved, grown, -⟩ := finalize_moves
      exact .inr ⟨after, moved, grown⟩
    · exact .inl rfl
  · exact .inr ⟨_, release_calls, by unfold release; split <;> [split; skip] <;> simp [setCall]⟩
  · exact .inl rfl

variable {move : Move}

/-- Another call, or the garbage collector, leaves a call where it stands. -/
theorem step_elsewhere (here : system.calls[index]? = some current)
    (elsewhere : ∀ outcome, move ≠ .proceed index outcome) :
    (step system move).calls[index]? = some current := by
  have range : index < system.calls.length := (List.getElem?_eq_some_iff.mp here).1
  have begun : ∀ call, (system.calls ++ [call])[index]? = some current := by
    intro call
    rw [getElem?_append_left range]
    exact here
  cases move with
  | bootstrap => exact begun .validating
  | transition argument =>
    cases argument with
    | other value => exact begun _
    | capability object =>
      simp only [step]
      split
      · exact begun _
      · exact here
  | proceed other outcome =>
    have distinct : other ≠ index := by
      rintro rfl
      exact elsewhere outcome rfl
    simp only [step]
    split
    · rcases proceed_moves outcome with same | ⟨after, moved, -⟩
      · rw [same]
        exact here
      · rw [moved, getElem?_set_ne distinct]
        exact here
    · exact here
  | collect object =>
    simp only [step]
    split <;> exact here
  | remove object =>
    simp only [step]
    split
    · split <;> exact here
    · exact here

/-- Among the calls that hold a source only a failing one ends with an error. -/
theorem proceed_raised (here : system.calls[index]? = some current)
    (source : current.source = some object) {outcome : Outcome}
    (raised : (proceed system index current outcome).calls[index]? = some (.raised error)) :
    ∃ failure, current = .failing object failure ∧
      proceed system index current outcome = system.release index object failure := by
  have range : index < system.calls.length := (List.getElem?_eq_some_iff.mp here).1
  have stays : system.calls[index]? ≠ some (.raised error) := by
    rw [here]
    rintro ⟨⟩
    cases source
  have goes : ∀ {next : System} {after : Call}, next.calls = system.calls.set index after →
      next.calls[index]? = some (.raised error) → after = .raised error := by
    intro next after moved found
    rw [moved, getElem?_set_self range] at found
    exact Option.some.inj found
  cases current with
  | validating | minted | registered | calling | returned | raised => cases source
  | claimed held =>
    cases outcome with
    | continues | raises => cases goes rfl raised
    | mints _ => exact absurd raised stays
  | running held =>
    cases outcome with
    | continues =>
      simp only [proceed, requireLive] at raised
      split at raised
      · cases goes rfl raised
      · cases goes rfl raised
    | mints | raises => exact absurd raised stays
  | working held =>
    cases outcome with
    | continues => exact absurd raised stays
    | mints _ =>
      simp only [proceed] at raised
      split at raised
      · cases goes rfl raised
      · exact absurd raised stays
    | raises _ => cases goes rfl raised
  | sealing held successor =>
    cases outcome with
    | continues =>
      simp only [proceed] at raised
      split at raised
      · obtain ⟨after, moved, -, harmless⟩ := finalize_moves
        exact absurd (goes moved raised) (harmless error)
      · exact absurd raised stays
    | mints _ => exact absurd raised stays
    | raises _ => cases goes rfl raised
  | failing held failure =>
    cases source
    cases outcome with
    | continues => exact ⟨failure, rfl, rfl⟩
    | mints | raises => exact absurd raised stays

theorem raise_releases (orderly : system.Orderly) (here : system.calls[index]? = some current)
    (source : current.source = some object)
    (raised : (step system move).calls[index]? = some (.raised error)) :
    (step system move).status? object = some .available := by
  by_cases elsewhere : ∀ outcome, move ≠ .proceed index outcome
  · rw [step_elsewhere here elsewhere] at raised
    cases raised
    cases source
  · obtain ⟨outcome, same⟩ := not_forall.mp elsewhere
    cases not_not.mp same
    have step_eq : step system (.proceed index outcome) =
        proceed system index current outcome := by
      simp [step, here]
    rw [step_eq] at raised ⊢
    obtain ⟨failure, rfl, releases⟩ := proceed_raised here source raised
    obtain ⟨record, registered, -, released⟩ := release_failing orderly here
    rw [releases, released]
    exact status?_eq_some.mpr ⟨_, setStatus_here registered, rfl⟩

theorem step_successors {pair : Nat × Nat} (member : pair ∈ system.successors) :
    pair ∈ (step system move).successors := by
  cases move with
  | bootstrap => exact member
  | transition argument =>
    cases argument with
    | other value => exact member
    | capability object =>
      simp only [step]
      split <;> exact member
  | proceed index outcome =>
    simp only [step]
    split
    · rcases proceed_moves outcome with same | ⟨-, -, grown⟩
      · rw [same]
        exact member
      · exact grown member
    · exact member
  | collect object =>
    simp only [step]
    split <;> exact member
  | remove object =>
    simp only [step]
    split
    · split <;> exact member
    · exact member

theorem foldl_successors (moves : List Move) (member : object ∈ system.successors.map Prod.fst) :
    object ∈ (moves.foldl step system).successors.map Prod.fst := by
  induction moves generalizing system with
  | nil => exact member
  | cons move moves ih =>
    apply ih
    obtain ⟨pair, pair_member, rfl⟩ := mem_map.mp member
    exact mem_map_of_mem (step_successors pair_member)

/-- What a transition may not take any more: a state that was retired or has a successor, and
everything that is no live object, such as a serialized copy. -/
def Spent (system : System) : Argument → Prop
  | .other _ => True
  | .capability object =>
    system.status? object = some .retired ∨ object ∈ system.successors.map Prod.fst

/-- A call that was handed something spent waits, or ends with an error. -/
theorem spent_refused (orderly : system.Orderly) {argument : Argument}
    (here : system.calls[index]? = some (.calling argument)) (spent : system.Spent argument)
    (move : Move) :
    (step system move).calls[index]? = some (.calling argument) ∨
      ∃ error, (step system move).calls[index]? = some (.raised error) := by
  by_cases elsewhere : ∀ outcome, move ≠ .proceed index outcome
  · exact .inl (step_elsewhere here elsewhere)
  · obtain ⟨outcome, same⟩ := not_forall.mp elsewhere
    cases not_not.mp same
    have step_eq : step system (.proceed index outcome) =
        proceed system index (.calling argument) outcome := by
      simp [step, here]
    rw [step_eq]
    cases outcome with
    | mints | raises => exact .inl here
    | continues =>
      right
      change ∃ error, (system.claim index argument).calls[index]? = some (.raised error)
      cases argument with
      | other value => exact ⟨exactError value, setCall_here here rfl⟩
      | capability object =>
        have unavailable : system.status? object ≠ some .available := by
          intro available
          rcases spent with retired | published
          · rw [available] at retired
            cases retired
          · exact orderly.linear.source_retired object published ⟨.available, available, by simp⟩
        obtain ⟨error, refused⟩ := registeredLocked_error unavailable
        have claimed : system.claim index (.capability object) =
            system.setCall index (.raised error) := by
          simp [claim, refused]
        rw [claimed]
        exact ⟨error, setCall_here here rfl⟩

end System

/-- A lifecycle is linear, however the sections of its callers are interleaved and wherever they
fail: it begins once and has at most one state that is available or in flight; no state has two
successors; a call that claimed a state and fails makes it available again; and a state that was
retired, like a copy of a state, is refused from then on. -/
theorem lifecycles_linear (moves : List Move) : (run moves).Linear ∧
      (∀ (index : Nat) current source move error, (run moves).calls[index]? = some current →
        current.source = some source →
        (run (moves ++ [move])).calls[index]? = some (.raised error) →
        (run (moves ++ [move])).status? source = some .available) ∧
      ∀ argument, (run moves).Spent argument → ∀ (later : List Move) (index : Nat) move,
        (run (moves ++ later)).calls[index]? = some (.calling argument) →
        (run (moves ++ later ++ [move])).calls[index]? = some (.calling argument) ∨
          ∃ error, (run (moves ++ later ++ [move])).calls[index]? = some (.raised error) := by
  have snoc : ∀ (before : List Move) move, run (before ++ [move]) = step (run before) move := by
    simp [run]
  refine ⟨(System.run_orderly moves).linear, ?_, ?_⟩
  · intro index current source move error here held raised
    rw [snoc] at raised ⊢
    exact System.raise_releases (System.run_orderly moves) here held raised
  · intro argument spent later index move here
    rw [snoc]
    apply System.spent_refused (System.run_orderly (moves ++ later)) here
    cases argument with
    | other value => exact spent
    | capability object =>
      right
      have published : object ∈ (run moves).successors.map Prod.fst := by
        rcases spent with retired | published
        · exact (System.run_orderly moves).linear.retired_source object retired
        · exact published
      rw [run, foldl_append]
      exact System.foldl_successors later published

/-- Whatever the calls are and wherever they fail, the registry agrees with the objects that are alive,
every call owns what it works on, and no two calls work on one object. -/
theorem registry_coherent (moves : List Move) : (run moves).Heap ∧
    (∀ (index : Nat) call, (run moves).calls[index]? = some call → call.Sound (run moves)) ∧
    ∀ (first second : Nat) call other, (run moves).calls[first]? = some call →
      (run moves).calls[second]? = some other → first ≠ second → call.Apart other := by
  have orderly := System.run_orderly moves
  exact ⟨orderly.heap, orderly.sound, orderly.calls_apart⟩

end WorkOrchestration.Native.ReplanningRegistry
