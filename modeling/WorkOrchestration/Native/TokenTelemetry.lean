import WorkOrchestration.Native.UsageLedger

/-!
# Token telemetry

Children that count their tokens report cumulative usages to a ledger.  What the
ledger makes of them is decided by the usage it starts every child with: a start
that withholds its tokens refuses the first report of every child that counts.
-/

namespace WorkOrchestration.Native.TokenTelemetry

open List Lib.Programs Artifacts
open Accounting hiding Ledger
open UsageLedger

/-- A report that can be read and counts its tokens. -/
structure Report where
  submission : Submission
  stateHash : Digest
  sequence : Nat
  usage : Usage
  hashed : Digest.ofJson? submission.childStateSha256 = some stateHash
  numbered : nonnegativeInt (some submission.decisionSequence) "decision-sequence" = .ok sequence
  read : normalizeUsage submission.cumulativeUsage = .ok usage
  counted : isAvailable usage.tokens = true

def Report.childId (report : Report) : Json := report.submission.childId

def Rises (before after : Usage) : Prop := ∀ counter : Counter, counter.read before ≤ counter.read after

/-- The children of a cohort. -/
structure Cohort (childIds : List Json) : Prop where
  nonempty : childIds ≠ []
  named : ∀ childId ∈ childIds, isChildId childId = true
  distinct : childIds.Nodup

/-- Reports of a cohort under fresh state hashes whose counters never go back. -/
structure Reporting (childIds : List Json) (reports : List Report) : Prop where
  known : ∀ report ∈ reports, report.childId ∈ childIds
  fresh : (reports.map Report.stateHash).Nodup
  rising : reports.Pairwise fun earlier later =>
    earlier.childId = later.childId → Rises earlier.usage later.usage

/-- Every report is observed, until one is refused. -/
def observeAll (reports : List Report) : EStateM PyError Ledger PUnit :=
  reports.forM fun report => do
    let _ ← observe report.submission

def latestUsage (childId : Json) : List Report → Option Usage
  | [] => none
  | report :: rest =>
    (latestUsage childId rest).or (if report.childId = childId then some report.usage else none)

/--
The ledger made from an initial usage accepts every report; once every child has
reported, its aggregate counts what the children have last counted, as the state
validator does.
-/
def Usable (childIds : List Json) (initialUsage : Json) (reports : List Report) : Prop :=
  ∃ ledger after, create childIds initialUsage = .ok ledger ∧
    observeAll reports ledger = .ok PUnit.unit after ∧
    ∀ usages, childIds.map (latestUsage · reports) = usages.map some →
      isAvailable after.aggregate.tokens = true ∧ after.aggregate = usageSum usages ∧
        ∀ counter : Counter, counter.read after.aggregate = (usages.map counter.read).sum

def Continued (start : Usage) (reports : List Report) : Prop :=
  ∀ report ∈ reports, isAvailable start.tokens = true ∧ Rises start report.usage

theorem firstReset_none {fields : List (String × Nat × Nat)}
    (kept : ∀ entry ∈ fields, entry.2.1 ≤ entry.2.2) : firstReset fields = none := by
  unfold firstReset
  rw [Option.map_eq_none_iff, find?_eq_none]
  intro entry member gone
  exact absurd (kept entry member) (not_le.mpr (of_decide_eq_true gone))

/-- A difference exists where both usages count their tokens and no counter goes back. -/
theorem usageDelta_of_rises {before after : Usage} (counted : isAvailable before.tokens = true)
    (counts : isAvailable after.tokens = true) (rises : Rises before after) :
    ∃ delta, UsageLedger.usageDelta before after = .ok delta := by
  cases first : before.tokens with
  | unavailable reason =>
    rw [first] at counted
    cases counted
  | available start =>
    cases second : after.tokens with
    | unavailable reason =>
      rw [second] at counts
      cases counts
    | available later =>
      have tokens (counter : Counter) (field : TokenCounters → Nat)
          (same : ∀ usage : Usage, counter.read usage = tokenCount field usage.tokens) :
          field start ≤ field later := by
        have advanced := rises counter
        rw [same, same, first, second] at advanced
        exact advanced
      have numeric : firstReset (numericChecks before after) = none := by
        refine firstReset_none ?_
        simp only [numericChecks, forall_mem_cons]
        exact ⟨rises .toolCalls, rises .runtimeSeconds, rises .compactions,
          rises .fullSuiteRuns, rises .mutations, fun _ member => absurd member not_mem_nil⟩
      have kept : firstReset (tokenChecks start later) = none := by
        refine firstReset_none ?_
        simp only [tokenChecks, forall_mem_cons]
        exact ⟨tokens .input _ fun _ => rfl, tokens .cachedInput _ fun _ => rfl,
          tokens .output _ fun _ => rfl, tokens .reasoning _ fun _ => rfl,
          tokens .total _ fun _ => rfl, fun _ member => absurd member not_mem_nil⟩
      unfold UsageLedger.usageDelta numericDelta
      rw [numeric, first, second]
      unfold tokenDelta counterDelta
      simp only [dif_pos kept]
      exact ⟨_, rfl⟩

theorem rises_of_usageDelta {before after delta : Usage}
    (computed : UsageLedger.usageDelta before after = .ok delta) :
    isAvailable after.tokens = isAvailable before.tokens ∧ Rises before after := by
  obtain ⟨available, added⟩ := usageDelta_ok computed
  exact ⟨available, fun counter => by have := added counter; omega⟩

theorem hashable_of_isChildId {childId : Json} (named : isChildId childId = true) :
    Json.hashable childId = .ok () := by
  cases childId <;> first | rfl | cases named

theorem require_of {condition : Bool} {message : String} (holds : condition = true) :
    require condition message = .ok () := by
  rw [holds]
  rfl

def Returns {α : Type} (program : EStateM PyError Ledger α) (state : Ledger) : Prop :=
  ∃ value after, program state = .ok value after

theorem returns_ofExcept_bind {α β : Type} {computed : Except PyError α}
    {next : α → EStateM PyError Ledger β} {state : Ledger} {value : α} (done : computed = .ok value)
    (returns : Returns (next value) state) :
    Returns (MonadExcept.ofExcept computed >>= next) state := by
  obtain ⟨result, after, ran⟩ := returns
  exact ⟨result, after, (ran_bind (ofExcept_ran done state)).trans ran⟩

variable {ledger : Ledger} {report : Report}

theorem observe_returns {delta : Usage} (named : isChildId report.childId = true)
    (member : report.childId ∈ ledger.childIds)
    (fresh : (report.childId, report.stateHash, report.sequence) ∉ ledger.seen)
    (computed : UsageLedger.usageDelta (ledger.latest report.childId) report.usage = .ok delta) :
    Returns (observe report.submission) ledger := by
  have hash : requireSha256 report.submission.childStateSha256 "child-state-sha256" =
      .ok report.stateHash := by
    unfold requireSha256
    rw [report.hashed]
  refine returns_ofExcept_bind (hashable_of_isChildId named) ?_
  refine returns_ofExcept_bind (require_of (decide_eq_true member)) ?_
  refine returns_ofExcept_bind hash ?_
  refine returns_ofExcept_bind report.numbered ?_
  refine returns_ofExcept_bind (require_of (decide_eq_true fresh)) ?_
  refine returns_ofExcept_bind report.read ?_
  exact returns_ofExcept_bind computed ⟨_, _, rfl⟩

/-- What an accepted report leaves behind. -/
structure Observed (report : Report) (before after : Ledger) : Prop where
  childIds : after.childIds = before.childIds
  latest : after.latest = Function.update before.latest report.childId report.usage
  seen : after.seen = (report.childId, report.stateHash, report.sequence) :: before.seen
  computed : ∃ delta, UsageLedger.usageDelta (before.latest report.childId) report.usage = .ok delta

theorem observed_of_returns {before after : Ledger} {observation : Observation}
    (returned : observe report.submission before = .ok observation after) :
    Observed report before after := by
  have ends := (observe_triple report.submission before).ends before rfl
  rw [returned] at ends
  obtain ⟨usage, read, computed, latest⟩ := ends.counted
  cases report.read.symm.trans read
  have hash := Option.some.inj (report.hashed.symm.trans ends.stateHash)
  have sequence := Except.ok.inj (report.numbered.symm.trans ends.sequence)
  refine ⟨ends.childIds, latest, ?_, _, computed⟩
  rw [ends.seen, ends.childId, ← hash, ← sequence]
  rfl

/-- What the ledger holds after the given reports. -/
structure Holds (childIds : List Json) (start : Usage) (past : List Report) (ledger : Ledger) :
    Prop where
  childIds : ledger.childIds = childIds
  latest : ∀ childId, ledger.latest childId = (latestUsage childId past).getD start
  seen : ∀ key ∈ ledger.seen, key.2.1 ∈ past.map Report.stateHash

theorem latestUsage_concat (childId : Json) (past : List Report) (report : Report) :
    latestUsage childId (past ++ [report]) =
      if report.childId = childId then some report.usage else latestUsage childId past := by
  induction past with
  | nil =>
    unfold latestUsage latestUsage
    split <;> simp_all
  | cons first rest ih =>
    rw [cons_append, latestUsage, ih, latestUsage]
    split <;> simp

variable {childIds : List Json} {start : Usage} {past : List Report}

theorem Holds.observed {before after : Ledger}
    (holds : Holds childIds start past before) (observed : Observed report before after) :
    Holds childIds start (past ++ [report]) after where
  childIds := observed.childIds.trans holds.childIds
  latest := by
    intro childId
    rw [observed.latest, latestUsage_concat]
    by_cases same : report.childId = childId
    · rw [if_pos same, ← same, Function.update_self]
      rfl
    · rw [if_neg same, Function.update_of_ne (Ne.symm same), holds.latest]
  seen := by
    intro key member
    rw [observed.seen] at member
    rw [map_append]
    rcases mem_cons.mp member with rfl | old
    · exact mem_append_right _ (mem_singleton_self _)
    · exact mem_append_left _ (holds.seen key old)

variable {reports : List Report}

theorem mem_of_latestUsage {childId : Json} {usage : Usage}
    (last : latestUsage childId reports = some usage) :
    ∃ report ∈ reports, report.childId = childId ∧ report.usage = usage := by
  induction reports with
  | nil => cases last
  | cons first rest ih =>
    unfold latestUsage at last
    cases later : latestUsage childId rest with
    | some other =>
      rw [later] at last
      cases last
      obtain ⟨report, member, found⟩ := ih later
      exact ⟨report, mem_cons_of_mem _ member, found⟩
    | none =>
      rw [later] at last
      by_cases same : first.childId = childId
      · rw [if_pos same] at last
        exact ⟨first, mem_cons_self, same, Option.some.inj last⟩
      · rw [if_neg same] at last
        cases last

/-- Reports that continue a counting start are all accepted. -/
theorem observeAll_returns (cohort : Cohort childIds) (holds : Holds childIds start past ledger)
    (reporting : Reporting childIds (past ++ reports))
    (continued : Continued start (past ++ reports)) :
    ∃ after, observeAll reports ledger = .ok PUnit.unit after ∧
      Holds childIds start (past ++ reports) after := by
  induction reports generalizing past ledger with
  | nil => exact ⟨ledger, rfl, by simpa using holds⟩
  | cons report rest ih =>
    have listed : report ∈ past ++ report :: rest := by simp
    have known := reporting.known report listed
    have fresh : (report.childId, report.stateHash, report.sequence) ∉ ledger.seen := by
      intro member
      have distinct := reporting.fresh
      rw [map_append, nodup_append] at distinct
      exact distinct.2.2 _ (holds.seen _ member) _ mem_cons_self rfl
    have counts : isAvailable (ledger.latest report.childId).tokens = true ∧
        Rises (ledger.latest report.childId) report.usage := by
      rw [holds.latest]
      cases last : latestUsage report.childId past with
      | none => exact continued report listed
      | some usage =>
        obtain ⟨earlier, member, same, rfl⟩ := mem_of_latestUsage last
        have ordered := (pairwise_append.mp reporting.rising).2.2
        exact ⟨earlier.counted, ordered earlier member report mem_cons_self same⟩
    obtain ⟨delta, computed⟩ := usageDelta_of_rises counts.1 report.counted counts.2
    obtain ⟨observation, middle, returned⟩ := observe_returns (cohort.named _ known)
      (holds.childIds ▸ known) fresh computed
    have next := holds.observed (observed_of_returns returned)
    rw [append_cons] at reporting continued
    obtain ⟨after, ran, reached⟩ := ih next reporting continued
    have first : (observe report.submission >>= fun _ => pure PUnit.unit) ledger =
        .ok PUnit.unit middle := ran_bind returned
    refine ⟨after, (ran_bind first).trans ran, ?_⟩
    rw [append_cons]
    exact reached

/-- Reports that have been accepted one after the other continue the start. -/
theorem continued_of_observeAll {after : Ledger} (holds : Holds childIds start past ledger)
    (behind : Continued start past) (reporting : Reporting childIds (past ++ reports))
    (ran : observeAll reports ledger = .ok PUnit.unit after) :
    Continued start (past ++ reports) := by
  induction reports generalizing past ledger with
  | nil => simpa using behind
  | cons report rest ih =>
    obtain ⟨_, middle, first, later⟩ := bind_returns ran
    obtain ⟨observation, reached, returned, same⟩ := bind_returns first
    cases same
    have observed := observed_of_returns returned
    rw [append_cons] at reporting ⊢
    refine ih (holds.observed observed) ?_ reporting later
    intro other member
    rcases mem_append.mp member with old | new
    · exact behind other old
    · rw [mem_singleton.mp new]
      obtain ⟨delta, computed⟩ := observed.computed
      obtain ⟨available, rises⟩ := rises_of_usageDelta computed
      rw [holds.latest] at available rises
      cases last : latestUsage report.childId past with
      | none =>
        rw [last] at available rises
        exact ⟨available.symm.trans report.counted, rises⟩
      | some usage =>
        obtain ⟨earlier, member, _, rfl⟩ := mem_of_latestUsage last
        rw [last] at rises
        obtain ⟨counts, since⟩ := behind earlier member
        exact ⟨counts, fun counter => (since counter).trans (rises counter)⟩

theorem create_returns (cohort : Cohort childIds) {initialUsage : Json}
    (begins : baseline initialUsage = .ok start) :
    create childIds initialUsage = .ok ⟨childIds, fun _ => start, fun _ => none, []⟩ := by
  have named : (!childIds.isEmpty && childIds.all isChildId) = true := by
    rw [Bool.and_eq_true, Bool.not_eq_true', isEmpty_eq_false_iff, all_eq_true]
    exact ⟨cohort.nonempty, cohort.named⟩
  unfold create
  rw [require_of named, begins]
  simp only [require_of (decide_eq_true cohort.distinct)]
  rfl

theorem holds_start (childIds : List Json) (start : Usage) :
    Holds childIds start [] ⟨childIds, fun _ => start, fun _ => none, []⟩ :=
  ⟨rfl, fun _ => rfl, fun _ member => absurd member not_mem_nil⟩

theorem Holds.latest_map (holds : Holds childIds start past ledger) {usages : List Usage}
    (reported : childIds.map (latestUsage · past) = usages.map some) :
    childIds.map ledger.latest = usages := by
  have starts : childIds.map ledger.latest =
      (childIds.map (latestUsage · past)).map fun last => last.getD start := by
    rw [map_map]
    exact map_congr_left fun childId _ => holds.latest childId
  rw [starts, reported, map_map]
  exact map_id'' (fun _ => rfl) usages

/--
The ledger made from an initial usage is usable for the reports of a cohort
exactly when the initial usage counts its tokens and every report continues it,
or when there are no reports.
-/
theorem usable_iff_continued (cohort : Cohort childIds) {initialUsage : Json}
    (begins : baseline initialUsage = .ok start) (reporting : Reporting childIds reports) :
    Usable childIds initialUsage reports ↔ Continued start reports := by
  have made := create_returns cohort begins
  have initial := holds_start childIds start
  constructor
  · rintro ⟨ledger, after, made', ran, _⟩
    cases made.symm.trans made'
    exact continued_of_observeAll initial (fun _ member => absurd member not_mem_nil) reporting ran
  · intro continued
    obtain ⟨after, ran, holds⟩ := observeAll_returns cohort initial reporting continued
    refine ⟨_, after, made, ran, ?_⟩
    intro usages reported
    have latest := holds.latest_map reported
    have counts : ∀ usage ∈ usages, isAvailable usage.tokens = true := by
      intro usage member
      have listed : some usage ∈ childIds.map (latestUsage · reports) := by
        rw [reported]
        exact mem_map_of_mem member
      obtain ⟨childId, _, last⟩ := mem_map.mp listed
      obtain ⟨report, _, _, rfl⟩ := mem_of_latestUsage last
      exact report.counted
    have whole : after.aggregate = sumCumulativeUsage usages := by
      unfold UsageLedger.Ledger.aggregate
      rw [holds.childIds, latest]
    have present : usages ≠ [] := by
      rintro rfl
      exact cohort.nonempty (map_eq_nil_iff.mp latest)
    have summed : sumCumulativeUsage usages = usageSum usages := if_neg present
    refine ⟨?_, whole.trans summed, fun counter => ?_⟩
    · obtain ⟨counters, found, _⟩ := @availableCounters_of (usages.map Usage.tokens) fun tokens member => by
        obtain ⟨usage, among, rfl⟩ := mem_map.mp member
        exact counts usage among
      rw [whole, summed, usageSum, found]
      rfl
    · rw [whole, read_sum counter counts]

/--
The coordinator's ledger, which is given child identifiers only, starts every
child without tokens: it is usable for a cohort that counts its tokens exactly
as long as nobody has reported.
-/
theorem coordinator_usable_iff {childIds : List Json} (cohort : Cohort childIds)
    {reports : List Report} (reporting : Reporting childIds reports) :
    Usable childIds .null reports ↔ reports = [] := by
  have begins : baseline .null = .ok zeroUsage := rfl
  rw [usable_iff_continued cohort begins reporting]
  constructor
  · intro continued
    cases reports with
    | nil => rfl
    | cons report rest =>
      have counts := (continued report mem_cons_self).1
      cases counts
  · rintro rfl
    exact fun _ member => absurd member not_mem_nil

def countedUsage : Usage := ⟨1, 0, 0, 0, 0, .available ⟨1, 0, 0, 0, 1, rfl⟩⟩

def countedReport : Report where
  submission := ⟨.str "child", .sha256 .null, .int 1, countedUsage.json⟩
  stateHash := ⟨.null⟩
  sequence := 1
  usage := countedUsage
  hashed := rfl
  numbered := rfl
  read := rfl
  counted := rfl

theorem single_cohort : Cohort [.str "child"] := ⟨cons_ne_nil _ _, by decide, by decide⟩

theorem single_reporting : Reporting [.str "child"] [countedReport] where
  known := by
    intro report member
    rw [mem_singleton.mp member]
    exact mem_singleton_self _
  fresh := nodup_singleton _
  rising := pairwise_singleton _ _

/-- The first token that is ever reported makes the ledger refuse. -/
theorem first_count_refused : Cohort [.str "child"] ∧ Reporting [.str "child"] [countedReport] ∧
      ¬ Usable [.str "child"] .null [countedReport] := by
  refine ⟨single_cohort, single_reporting, ?_⟩
  have begins : baseline .null = .ok zeroUsage := rfl
  rw [usable_iff_continued single_cohort begins single_reporting]
  intro continued
  cases (continued countedReport (mem_singleton_self _)).1

theorem coordinator_usable_sample : Usable [.str "child"] .null [countedReport] ↔ [countedReport] = [] :=
  coordinator_usable_iff single_cohort single_reporting

end WorkOrchestration.Native.TokenTelemetry
