import WorkOrchestration.Native.PrecommitReservations

/-!
# Receipts are consumed once

Whatever the processes do, an entry of the consumed registry stays, a commit returns at most once, and
a reservation is only taken over when its owner cannot be read back as it was recorded.
-/

namespace WorkOrchestration.Native.PrecommitReservations

open List Lib.Runs Lib.Text Artifacts Precommit
open Registries (commit consumed empty giveWay release reserve)

/-- The calling process is the recorded owner, and is there. -/
structure Owns (sight : Sight) (owner : OwnerIdentity) : Prop where
  pid : owner.pid = sight.pid
  matches' : ownerIdentityMatches sight.host owner = true

section

variable {registries : Registries} {receipt : Json} {sight : Sight} {receiptSha256 : Digest}
  {reservationId : String}

theorem owns_of_current {owner : OwnerIdentity}
    (current : reservationOwnerIsCurrent sight owner = true) : Owns sight owner := by
  obtain ⟨pid, same⟩ := Bool.and_eq_true_iff.mp current
  exact ⟨beq_iff_eq.mp pid, same⟩

theorem current_ok {found : Reservation}
    (current : registries.current receiptSha256 reservationId sight = .ok found) :
    registries.reservations receiptSha256 = some found ∧ found.reservationId = reservationId ∧
      Owns sight found.ownerIdentity := by
  unfold Registries.current at current
  cases held : registries.reservations receiptSha256 with
  | none =>
    rw [held] at current
    cases current
  | some entry =>
    rw [held] at current
    dsimp only at current
    by_cases other : entry.reservationId ≠ reservationId
    · rw [if_pos other] at current
      cases current
    rw [if_neg other] at current
    by_cases foreign : reservationOwnerIsCurrent sight entry.ownerIdentity = false
    · rw [if_pos foreign] at current
      cases current
    rw [if_neg foreign] at current
    cases current
    exact ⟨rfl, not_not.mp other, owns_of_current (Bool.not_eq_false _ ▸ foreign)⟩

/-- An admitted reservation is of a receipt that is not consumed, and it replaces none that can be read
back. -/
theorem reservation_ok {validity : Except PyError Unit} {packetBuildId : String}
    {entry : Reservation}
    (admitted : registries.reservation receipt validity packetBuildId reservationId sight =
      .ok (receiptSha256, entry)) :
    registries.consumed receiptSha256 = none ∧
      (∀ existing, registries.reservations receiptSha256 = some existing →
        ownerIdentityMatches sight.host existing.ownerIdentity = false) ∧
      captureOwnerIdentity sight.host sight.pid reservationId = .ok entry.ownerIdentity ∧
      entry.reservationId = reservationId := by
  obtain ⟨_, _, admitted⟩ := bind_ok admitted
  obtain ⟨hash, _, admitted⟩ := bind_ok admitted
  obtain ⟨_, _, admitted⟩ := bind_ok admitted
  obtain ⟨owner, captured, admitted⟩ := bind_ok admitted
  obtain ⟨_, _, admitted⟩ := bind_ok admitted
  by_cases replayed : (registries.consumed hash).isSome = true
  · rw [if_pos replayed] at admitted
    cases admitted
  rw [if_neg replayed] at admitted
  obtain ⟨_, yields, admitted⟩ := bind_ok admitted
  cases admitted
  refine ⟨Option.not_isSome_iff_eq_none.mp replayed, ?_, captured, rfl⟩
  intro existing held
  rw [held] at yields
  unfold giveWay at yields
  dsimp only at yields
  rw [Bool.eq_false_iff]
  intro live
  rw [if_pos live] at yields
  cases yields

/-- An admitted commit is of the current reservation of the caller, for a receipt that is not
consumed. -/
theorem consumption_ok {packetSha256 : Json} {entry : Consumption}
    (admitted : registries.consumption receipt reservationId packetSha256 sight =
      .ok (receiptSha256, entry)) :
    requireHash (receipt.value "receipt_sha256") "receipt_sha256" = .ok receiptSha256 ∧
      registries.consumed receiptSha256 = none ∧ ∃ found,
      registries.reservations receiptSha256 = some found ∧
      found.reservationId = strip reservationId ∧ Owns sight found.ownerIdentity := by
  obtain ⟨hash, named, admitted⟩ := bind_ok admitted
  obtain ⟨reservation, required, admitted⟩ := bind_ok admitted
  obtain ⟨_, _, admitted⟩ := bind_ok admitted
  obtain ⟨_, _, admitted⟩ := bind_ok admitted
  by_cases replayed : (registries.consumed hash).isSome = true
  · rw [if_pos replayed] at admitted
    cases admitted
  rw [if_neg replayed] at admitted
  obtain ⟨found, current, admitted⟩ := bind_ok admitted
  by_cases packet : found.packetId ≠ receipt.value "packet_id"
  · rw [if_pos packet] at admitted
    cases admitted
  rw [if_neg packet] at admitted
  by_cases nonce : found.attemptNonce ≠ receipt.value "attempt_nonce"
  · rw [if_pos nonce] at admitted
    cases admitted
  rw [if_neg nonce] at admitted
  by_cases state : found.stateId ≠ receipt.value "state_id"
  · rw [if_pos state] at admitted
    cases admitted
  rw [if_neg state] at admitted
  cases admitted
  obtain ⟨held, same, owns⟩ := current_ok current
  refine ⟨named, Option.not_isSome_iff_eq_none.mp replayed, found, held, ?_, owns⟩
  unfold requireString at required
  split at required
  · cases required
  · cases required
    exact same

theorem released_ok
    (admitted : registries.released receipt reservationId sight = .ok receiptSha256) :
    ∃ found, registries.reservations receiptSha256 = some found ∧ Owns sight found.ownerIdentity := by
  obtain ⟨hash, _, admitted⟩ := bind_ok admitted
  obtain ⟨_, _, admitted⟩ := bind_ok admitted
  obtain ⟨_, _, admitted⟩ := bind_ok admitted
  obtain ⟨found, current, admitted⟩ := bind_ok admitted
  cases admitted
  obtain ⟨held, _, owns⟩ := current_ok current
  exact ⟨found, held, owns⟩

theorem leaves_cases {α : Type} (write : Write) (old new : α) :
    write.leaves old new = old ∨ write.leaves old new = new := by
  cases write with
  | done => exact .inr rfl
  | failed replaced error =>
    cases replaced with
    | false => exact .inl rfl
    | true => exact .inr rfl

theorem leaves_update {α : Type} (write : Write) (old : Digest → Option α) (key : Digest)
    (value : Option α) (hash : Digest) :
    write.leaves old (Function.update old key value) hash = old hash ∨
      hash = key ∧ write.leaves old (Function.update old key value) hash = value := by
  rcases leaves_cases write old (Function.update old key value) with kept | replaced
  · rw [kept]
    exact .inl rfl
  · rw [replaced]
    by_cases here : hash = key
    · rw [here, Function.update_self]
      exact .inr ⟨rfl, rfl⟩
    · rw [Function.update_of_ne here]
      exact .inl rfl

variable {after : Registries} {result : Except PyError Unit}

theorem reserve_effect {validity : Except PyError Unit} {packetBuildId : String}
    (reserved : registries.reserve receipt validity packetBuildId reservationId sight =
      (after, result)) :
    after.consumed = registries.consumed ∧
      ∀ hash, after.reservations hash = registries.reservations hash ∨
        ∃ entry, registries.reservation receipt validity packetBuildId reservationId sight =
          .ok (hash, entry) ∧ after.reservations hash = some entry := by
  unfold reserve at reserved
  cases admitted : registries.reservation receipt validity packetBuildId reservationId sight with
  | error error =>
    rw [admitted] at reserved
    cases reserved
    exact ⟨rfl, fun _ => .inl rfl⟩
  | ok found =>
    obtain ⟨key, entry⟩ := found
    rw [admitted] at reserved
    dsimp only at reserved
    have left := leaves_update sight.reservationsWrite registries.reservations key (some entry)
    split at reserved <;> cases reserved
    all_goals
      refine ⟨rfl, fun hash => (left hash).imp_right ?_⟩
      rintro ⟨rfl, written⟩
      exact ⟨entry, rfl, written⟩

theorem release_effect
    (freed : registries.release receipt reservationId sight = (after, result)) :
    after.consumed = registries.consumed ∧
      ∀ hash, after.reservations hash = registries.reservations hash ∨
        registries.released receipt reservationId sight = .ok hash ∧
          after.reservations hash = none := by
  unfold release at freed
  cases admitted : registries.released receipt reservationId sight with
  | error error =>
    rw [admitted] at freed
    cases freed
    exact ⟨rfl, fun _ => .inl rfl⟩
  | ok key =>
    rw [admitted] at freed
    dsimp only at freed
    have left := leaves_update sight.reservationsWrite registries.reservations key none
    split at freed <;> cases freed
    all_goals
      refine ⟨rfl, fun hash => (left hash).imp_right ?_⟩
      rintro ⟨rfl, written⟩
      exact ⟨rfl, written⟩

/-- A commit touches the entries of one receipt, and has consumed it when it returns. -/
theorem commit_effect {packetSha256 : Json}
    (committed : registries.commit receipt reservationId packetSha256 sight = (after, result)) :
    after = registries ∧ result ≠ .ok () ∨
      ∃ key entry, registries.consumption receipt reservationId packetSha256 sight =
          .ok (key, entry) ∧
        (∀ hash, after.consumed hash = registries.consumed hash ∨ hash = key) ∧
        (∀ hash, after.reservations hash = registries.reservations hash ∨
          hash = key ∧ after.reservations hash = none) ∧
        (result = .ok () → after.consumed key = some entry) := by
  unfold commit at committed
  cases admitted : registries.consumption receipt reservationId packetSha256 sight with
  | error error =>
    rw [admitted] at committed
    cases committed
    exact .inl ⟨rfl, fun returned => by cases returned⟩
  | ok found =>
    obtain ⟨key, entry⟩ := found
    rw [admitted] at committed
    dsimp only at committed
    have consumed (hash : Digest) := (leaves_update sight.consumedWrite registries.consumed key
      (some entry) hash).imp_right And.left
    have left := leaves_update sight.reservationsWrite registries.reservations key none
    refine .inr ⟨key, entry, rfl, ?_⟩
    cases first : sight.consumedWrite with
    | failed replaced error =>
      rw [first] at consumed committed
      cases committed
      exact ⟨consumed, fun _ => .inl rfl, fun returned => by cases returned⟩
    | done =>
      rw [first] at consumed committed
      dsimp only at committed
      split at committed <;> cases committed
      all_goals exact ⟨consumed, left, fun _ => Function.update_self ..⟩

end

def Move.sight : Move → Sight
  | .reserve _ _ _ _ sight => sight
  | .commit _ _ _ sight => sight
  | .release _ _ sight => sight

namespace Step

variable (step : Step)

def Taken : Prop := step.before.step step.move = (step.after, step.result)

def Enters (hash : Digest) : Prop :=
  step.before.consumed hash = none ∧ step.after.consumed hash ≠ none

/-- A commit of a reservation of the receipt returns. -/
def Commits (hash : Digest) (reservationId : String) : Prop :=
  ∃ receipt text packetSha256 sight, step.move = .commit receipt text packetSha256 sight ∧
    strip text = reservationId ∧
    requireHash (receipt.value "receipt_sha256") "receipt_sha256" = .ok hash ∧
    step.result = .ok ()

/-- The calling process makes a reservation. -/
def Reserves (hash : Digest) (entry : Reservation) : Prop :=
  ∃ receipt validity packetBuildId sight,
    step.move = .reserve receipt validity packetBuildId entry.reservationId sight ∧
    captureOwnerIdentity sight.host sight.pid entry.reservationId = .ok entry.ownerIdentity ∧
    step.before.reservations hash ≠ some entry ∧ step.after.reservations hash = some entry

end Step

section

variable {step : Step} {hash : Digest}

/-- No consumption is removed or replaced. -/
theorem Step.consumed_kept (taken : step.Taken) {entry : Consumption}
    (held : step.before.consumed hash = some entry) : step.after.consumed hash = some entry := by
  unfold Taken at taken
  cases moved : step.move with
  | reserve receipt validity packetBuildId reservationId sight =>
    rw [moved] at taken
    exact (congrFun (reserve_effect taken).1 hash).trans held
  | release receipt reservationId sight =>
    rw [moved] at taken
    exact (congrFun (release_effect taken).1 hash).trans held
  | commit receipt reservationId packetSha256 sight =>
    rw [moved] at taken
    rcases commit_effect taken with ⟨same, _⟩ | ⟨key, entry, admitted, consumed, _⟩
    · exact (congrFun (congrArg consumed same) hash).trans held
    · rcases consumed hash with same | rfl
      · exact same.trans held
      · have fresh := (consumption_ok admitted).2.1
        rw [held] at fresh
        cases fresh

/-- A commit that returns consumes a receipt that was not consumed, for the current reservation of
the calling process. -/
theorem Step.Commits.spec (taken : step.Taken) {reservationId : String}
    (commits : step.Commits hash reservationId) :
    step.before.consumed hash = none ∧ step.after.consumed hash ≠ none ∧ ∃ reservation,
      step.before.reservations hash = some reservation ∧
      reservation.reservationId = reservationId ∧
      Owns step.move.sight reservation.ownerIdentity := by
  obtain ⟨receipt, text, packetSha256, sight, moved, rfl, named, returned⟩ := commits
  unfold Taken at taken
  rw [moved] at taken ⊢
  rcases commit_effect taken with ⟨_, raised⟩ | ⟨key, entry, admitted, _, _, entered⟩
  · exact absurd returned raised
  · obtain ⟨required, fresh, reservation⟩ := consumption_ok admitted
    have same : key = hash := Except.ok.inj (required.symm.trans named)
    subst same
    refine ⟨fresh, ?_, reservation⟩
    rw [entered returned]
    exact Option.some_ne_none entry

/-- A step leaves a reservation, makes one where none can be read back, or takes away that of the
calling process. -/
theorem Step.reservations_cases (taken : step.Taken) (hash : Digest) :
    step.after.reservations hash = step.before.reservations hash ∨
      (∃ receipt validity packetBuildId reservationId sight entry,
        step.move = .reserve receipt validity packetBuildId reservationId sight ∧
        step.before.reservation receipt validity packetBuildId reservationId sight =
          .ok (hash, entry) ∧
        step.after.reservations hash = some entry) ∨
      step.after.reservations hash = none ∧ ∃ entry, step.before.reservations hash = some entry ∧
        Owns step.move.sight entry.ownerIdentity := by
  unfold Taken at taken
  cases moved : step.move with
  | reserve receipt validity packetBuildId reservationId sight =>
    rw [moved] at taken
    refine ((reserve_effect taken).2 hash).imp_right fun ⟨entry, admitted, found⟩ => .inl ?_
    exact ⟨_, _, _, _, _, entry, rfl, admitted, found⟩
  | release receipt reservationId sight =>
    rw [moved] at taken
    exact ((release_effect taken).2 hash).imp_right fun ⟨admitted, gone⟩ =>
      .inr ⟨gone, released_ok admitted⟩
  | commit receipt reservationId packetSha256 sight =>
    rw [moved] at taken
    rcases commit_effect taken with ⟨same, _⟩ | ⟨key, entry, admitted, _, reservations, _⟩
    · exact .inl (congrFun (congrArg Registries.reservations same) hash)
    · rcases reservations hash with same | ⟨rfl, gone⟩
      · exact .inl same
      · obtain ⟨_, _, found, current, _, owns⟩ := consumption_ok admitted
        exact .inr (.inr ⟨gone, found, current, owns⟩)

theorem Step.reserves_of_new (taken : step.Taken) {entry : Reservation}
    (absent : step.before.reservations hash ≠ some entry)
    (held : step.after.reservations hash = some entry) : step.Reserves hash entry := by
  rcases Step.reservations_cases taken hash with same |
    ⟨receipt, validity, packetBuildId, reservationId, sight, written, moved, admitted, found⟩ |
    ⟨gone, _⟩
  · exact absurd (same.symm.trans held) absent
  · rw [held] at found
    cases found
    obtain ⟨_, _, captured, same⟩ := reservation_ok admitted
    rw [← same] at captured moved
    exact ⟨receipt, validity, packetBuildId, sight, moved, captured, absent, held⟩
  · rw [held] at gone
    cases gone

/-- A reservation that a step takes away was the caller's, or its owner could not be read back. -/
theorem Step.reservation_taken (taken : step.Taken) {entry : Reservation}
    (held : step.before.reservations hash = some entry)
    (gone : step.after.reservations hash ≠ some entry) :
    Owns step.move.sight entry.ownerIdentity ∨
      ownerIdentityMatches step.move.sight.host entry.ownerIdentity = false := by
  rcases Step.reservations_cases taken hash with same | ⟨_, _, _, _, _, _, moved, admitted, _⟩ |
    ⟨_, found, current, owns⟩
  · exact absurd (same.trans held) gone
  · rw [moved]
    exact .inr ((reservation_ok admitted).2.1 entry held)
  · rw [held] at current
    cases current
    exact .inl owns

end

theorem run_taken {registries : Registries} {moves : List Move} :
    ∀ step ∈ run registries moves, step.Taken := by
  induction moves generalizing registries with
  | nil =>
    exact forall_mem_nil _
  | cons move rest ih =>
    exact forall_mem_cons.mpr ⟨rfl, ih⟩

theorem run_linked {registries : Registries} {moves : List Move} :
    Linked Step.before Step.after registries (run registries moves) := by
  induction moves generalizing registries with
  | nil => exact True.intro
  | cons move rest ih => exact ⟨rfl, ih⟩

/-- Consumptions stay, nothing is consumed or committed twice, commits are of the caller's current
reservation, and reservations are only taken from owners that are gone. -/
structure ConsumedOnce (gone : Host → OwnerIdentity → Prop) (steps : List Step) : Prop where
  kept : ∀ step ∈ steps, ∀ hash entry, step.before.consumed hash = some entry →
    step.after.consumed hash = some entry
  entered : steps.Pairwise fun earlier later => ∀ hash, ¬ (earlier.Enters hash ∧ later.Enters hash)
  committed : steps.Pairwise fun earlier later => ∀ hash first second,
    ¬ (earlier.Commits hash first ∧ later.Commits hash second)
  current : ∀ past step rest, steps = past ++ step :: rest → ∀ hash reservationId,
    step.Commits hash reservationId → ∃ reservation,
      step.before.reservations hash = some reservation ∧
      reservation.reservationId = reservationId ∧
      Owns step.move.sight reservation.ownerIdentity ∧
      ∃ earlier ∈ past, earlier.Reserves hash reservation ∧
        earlier.move.sight.pid = step.move.sight.pid
  taken : ∀ step ∈ steps, ∀ hash entry, step.before.reservations hash = some entry →
    step.after.reservations hash ≠ some entry →
      Owns step.move.sight entry.ownerIdentity ∨ gone step.move.sight.host entry.ownerIdentity

/-- The recorded identity cannot be read back. -/
def Unreadable (host : Host) (owner : OwnerIdentity) : Prop :=
  ownerIdentityMatches host owner = false

/-- The recorded process runs: it was started when the owner was, since the same boot. -/
def Runs (host : Host) (owner : OwnerIdentity) : Prop :=
  ∃ process bootId, host.process owner.pid = .ok process ∧ host.bootId = .ok bootId ∧
    process.startTimeTicks = owner.startTimeTicks ∧ textSha256 bootId = owner.bootIdSha256

section

variable {steps : List Step} {start : Registries}

def Keeps (before after : Registries) : Prop :=
  ∀ hash, before.consumed hash ≠ none → after.consumed hash ≠ none

variable {step : Step}

theorem Step.keeps (taken : step.Taken) : Keeps step.before step.after := by
  intro hash held
  obtain ⟨entry, found⟩ := Option.ne_none_iff_exists'.mp held
  rw [Step.consumed_kept taken found]
  exact Option.some_ne_none entry

theorem consumed_later (linked : Linked Step.before Step.after start steps)
    (each : ∀ step ∈ steps, step.Taken) :
    steps.Pairwise fun earlier later => Keeps earlier.after later.before :=
  @Linked.pairwise Registries Step _ _ _ _ Keeps linked (fun _ _ held => held)
    (fun first second hash held => second hash (first hash held))
    (fun step member => Step.keeps (each step member))

theorem reserved_earlier (linked : Linked Step.before Step.after start steps)
    (each : ∀ step ∈ steps, step.Taken) (unreserved : ∀ hash, start.reservations hash = none)
    {past rest : List Step} (split : steps = past ++ step :: rest) {hash : Digest}
    {entry : Reservation} (held : step.before.reservations hash = some entry) :
    ∃ earlier ∈ past, earlier.Reserves hash entry := by
  have absent : ¬ start.reservations hash = some entry := by
    rw [unreserved hash]
    exact fun same => Option.some_ne_none entry same.symm
  obtain ⟨earlier, member, new, made⟩ :=
    @Linked.origin Registries Step _ _ _ _ (fun registries => registries.reservations hash = some entry)
      linked absent _ _ _ split held
  have taken := each earlier (split ▸ mem_append_left _ member)
  exact ⟨earlier, member, Step.reserves_of_new taken new made⟩

theorem Step.Reserves.pid {hash : Digest} {entry : Reservation}
    (reserves : step.Reserves hash entry) : entry.ownerIdentity.pid = step.move.sight.pid := by
  obtain ⟨receipt, validity, packetBuildId, sight, moved, captured, _⟩ := reserves
  rw [moved]
  obtain ⟨process, _, captured⟩ := bind_ok captured
  obtain ⟨bootId, _, captured⟩ := bind_ok captured
  exact (congrArg OwnerIdentity.pid (Except.ok.inj captured)).symm

end

/-- Whatever the processes do, receipts are consumed once, and a reservation is not taken over while
its owner can be read back. -/
theorem receipts_consumed_once (moves : List Move) :
    ConsumedOnce Unreadable (run empty moves) := by
  have linked : Linked Step.before Step.after empty (run empty moves) :=
    run_linked
  have each : ∀ step ∈ run empty moves, step.Taken := run_taken
  constructor
  case kept =>
    intro step member hash entry held
    exact Step.consumed_kept (each step member) held
  case entered =>
    refine (consumed_later linked each).imp ?_
    rintro earlier later keeps hash ⟨⟨_, entered⟩, fresh, _⟩
    exact keeps hash entered fresh
  case committed =>
    refine (consumed_later linked each).imp_of_mem ?_
    rintro earlier later first second keeps hash _ _ ⟨before, after⟩
    have entered := (before.spec (each earlier first)).2.1
    exact keeps hash entered (after.spec (each later second)).1
  case current =>
    intro past step rest split hash reservationId commits
    have member : step ∈ run empty moves :=
      split ▸ mem_append_right _ mem_cons_self
    obtain ⟨_, _, reservation, held, same, owns⟩ := commits.spec (each step member)
    obtain ⟨earlier, before, reserves⟩ := reserved_earlier linked each (fun _ => rfl) split held
    exact ⟨reservation, held, same, owns, earlier, before, reserves,
      reserves.pid.symm.trans owns.pid⟩
  case taken =>
    intro step member hash entry held gone
    exact Step.reservation_taken (each step member) held gone

def sampleReceipt : Json :=
  .obj [("receipt_sha256", (textSha256 "receipt").json), ("packet_id", .str "packet"),
    ("attempt_nonce", .str "nonce"), ("state_id", .str "state"), ("state_file", .str "/state")]

/-- Two processes run; the first is in the given group. -/
def sampleSight (group pid : Nat) : Sight where
  host := ⟨fun process => .ok ⟨process, if process = 1 then group else process, process⟩, .ok "boot"⟩
  pid
  readable := .ok ()
  terminal _ := true
  consumedWrite := .done
  reservationsWrite := .done

/-- The first process reserves the receipt and moves to another group; then the second consumes it. -/
def sampleMoves : List Move :=
  .reserve sampleReceipt (.ok ()) "build" "first" (sampleSight 1 1) ::
    consumePrecommitReceipt sampleReceipt (.ok ()) "second" "second" (sampleSight 2 2)
      (sampleSight 2 2)

theorem live_reservation_taken_over :
    ¬ ∀ moves, ConsumedOnce (fun host owner => ¬ Runs host owner) (run empty moves) := by
  intro claimed
  have once := claimed sampleMoves
  have stolen : (run empty sampleMoves).any (fun step =>
      (step.before.reservations (textSha256 "receipt")).any fun entry =>
        decide (entry.ownerIdentity = ⟨1, 1, 1, 1, textSha256 "boot", "first"⟩) &&
          decide (step.after.reservations (textSha256 "receipt") ≠ some entry) &&
          decide (step.move.sight.pid = 2) &&
          decide (step.move.sight.host.process 1 = .ok ⟨1, 2, 1⟩) &&
          decide (step.move.sight.host.bootId = .ok "boot")) = true := by decide
  obtain ⟨step, member, found⟩ := any_eq_true.mp stolen
  obtain ⟨entry, held, facts⟩ := (Option.any_eq_true _ _).mp found
  simp only [Bool.and_eq_true, decide_eq_true_eq] at facts
  obtain ⟨⟨⟨⟨owner, gone⟩, caller⟩, process⟩, boot⟩ := facts
  rcases once.taken step member _ entry held gone with owns | dead
  · have same := owns.pid
    rw [owner, caller] at same
    cases same
  · apply dead
    rw [owner]
    exact ⟨_, _, process, boot, rfl, rfl⟩

end WorkOrchestration.Native.PrecommitReservations
