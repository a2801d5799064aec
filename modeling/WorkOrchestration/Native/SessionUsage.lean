import WorkOrchestration.Native.Session

/-!
# Usage over a growing log

Further records leave the closed segments of a log as they are, let the open one grow and begin new
ones.  So the counts of a segment never fall; those of the selected segment do when another segment
is selected.
-/

namespace WorkOrchestration.Native.Session

open List Artifacts

variable {readers : Readers} {explicit : Bool}

namespace Counts

/-- Every count is at least as large. -/
structure Le (left right : Counts) : Prop where
  toolCalls : left.toolCalls ≤ right.toolCalls
  contextCompactions : left.contextCompactions ≤ right.contextCompactions
  fullSuiteRuns : left.fullSuiteRuns ≤ right.fullSuiteRuns

theorem Le.refl (counts : Counts) : counts.Le counts :=
  ⟨Nat.le_refl _, Nat.le_refl _, Nat.le_refl _⟩

theorem Le.trans {first second third : Counts} (early : first.Le second) (late : second.Le third) :
    first.Le third :=
  ⟨Nat.le_trans early.toolCalls late.toolCalls,
    Nat.le_trans early.contextCompactions late.contextCompactions,
    Nat.le_trans early.fullSuiteRuns late.fullSuiteRuns⟩

theorem le_add (left right : Counts) : left.Le (left.add right) :=
  ⟨Nat.le_add_right _ _, Nat.le_add_right _ _, Nat.le_add_right _ _⟩

theorem add_zero (counts : Counts) : counts.add .zero = counts := rfl

theorem zero_add (counts : Counts) : zero.add counts = counts := by
  simp [add, zero]

theorem add_assoc (first second third : Counts) :
    (first.add second).add third = first.add (second.add third) := by
  simp [add, Nat.add_assoc]

theorem sum_append (first second : List Counts) :
    sum (first ++ second) = (sum first).add (sum second) := by
  induction first with
  | nil => exact (zero_add _).symm
  | cons counts rest ih =>
    change counts.add (sum (rest ++ second)) = (counts.add (sum rest)).add (sum second)
    rw [ih, add_assoc]

end Counts

/-- An open segment after further records. -/
structure OpenSegment.Grows (before after : OpenSegment) : Prop where
  counts : before.counts.Le after.counts
  records : before.records ≤ after.records
  start : after.start = before.start

theorem OpenSegment.Grows.refl (segment : OpenSegment) : segment.Grows segment :=
  ⟨.refl _, Nat.le_refl _, rfl⟩

theorem OpenSegment.Grows.trans {first second third : OpenSegment} (early : first.Grows second)
    (late : second.Grows third) : first.Grows third :=
  ⟨early.counts.trans late.counts, Nat.le_trans early.records late.records,
    late.start.trans early.start⟩

/-- What one record does to a scan. -/
inductive Scan.Moves (before after : Scan) : Prop where
  | passed (segments : after.segments = before.segments) (outside : before.openSegment = none)
  | grew (segment later : OpenSegment) (segments : after.segments = before.segments)
      (was : before.openSegment = some segment) (is : after.openSegment = some later)
      (grows : segment.Grows later)
  | ended (segment later : OpenSegment) (complete : Bool) (endTs : Int)
      (was : before.openSegment = some segment) (grows : segment.Grows later)
      (segments : after.segments = before.segments ++ [later.close complete endTs])

variable (scan : Scan)

open Counts (add_assoc add_zero le_add sum sum_append)

theorem Scan.advance_moves (record : Json) (ts : Int) :
    scan.Moves (scan.advance readers explicit record ts) := by
  unfold Scan.advance
  cases was : scan.openSegment with
  | none =>
    split
    · exact .passed (append_nil _) was
    · exact .passed rfl was
  | some segment =>
    split
    · exact .ended segment segment false (scan.previousTs.getD ts) was (.refl segment) rfl
    · dsimp only
      split
      · exact .ended segment { segment with
            counts := segment.counts.add (recordCounts readers record)
            records := segment.records + 1
            models := segment.models ++ recordModels record } true ts was
          ⟨le_add _ _, Nat.le_succ _, rfl⟩ rfl
      · exact .grew segment _ rfl was rfl ⟨le_add _ _, Nat.le_succ _, rfl⟩

/-- What becomes of the open segment of a log: it is open yet, or it has been closed. -/
inductive Scan.Continues (segment : OpenSegment) (after : Scan) : List Segment → Prop where
  | stillOpen (later : OpenSegment) (is : after.openSegment = some later)
      (grows : segment.Grows later) : Scan.Continues segment after []
  | closed (later : OpenSegment) (complete : Bool) (endTs : Int) (rest : List Segment)
      (grows : segment.Grows later) :
      Scan.Continues segment after (later.close complete endTs :: rest)

/-- A scan after further records. -/
structure Scan.Follows (before after : Scan) (more : List Segment) : Prop where
  segments : after.segments = before.segments ++ more
  continues : ∀ segment, before.openSegment = some segment → Scan.Continues segment after more

theorem Scan.Follows.refl : scan.Follows scan [] :=
  ⟨(append_nil _).symm, fun segment is => .stillOpen segment is (.refl segment)⟩

variable {before after : Scan} {more : List Segment}

theorem Scan.Follows.advance {next : Scan} (follows : before.Follows after more)
    (moves : after.Moves next) :
    ∃ more', before.Follows next more' := by
  cases moves with
  | passed segments outside =>
    refine ⟨more, segments.trans follows.segments, ?_⟩
    intro segment was
    cases follows.continues segment was with
    | stillOpen later is grows =>
      rw [outside] at is
      cases is
    | closed later complete endTs rest grows => exact .closed later complete endTs rest grows
  | grew middle later segments was is grows =>
    refine ⟨more, segments.trans follows.segments, ?_⟩
    intro segment began
    cases follows.continues segment began with
    | stillOpen current here grown =>
      rw [was] at here
      cases here
      exact .stillOpen later is (grown.trans grows)
    | closed later complete endTs rest grown => exact .closed later complete endTs rest grown
  | ended middle later complete endTs was grows segments =>
    refine ⟨more ++ [later.close complete endTs], ?_, ?_⟩
    · rw [segments, follows.segments, append_assoc]
    · intro segment began
      cases follows.continues segment began with
      | stillOpen current here grown =>
        rw [was] at here
        cases here
        exact .closed later complete endTs [] (grown.trans grows)
      | closed ended complete' endTs' rest grown =>
        exact .closed ended complete' endTs' (rest ++ [later.close complete endTs]) grown

theorem scanned_append (entries more : List (Json × Int)) :
    scanned readers explicit (entries ++ more) =
      more.foldl (fun scan entry => scan.advance readers explicit entry.1 entry.2)
        (scanned readers explicit entries) :=
  foldl_append

theorem scanned_follows (entries more : List (Json × Int)) :
    ∃ closed, (scanned readers explicit entries).Follows
      (scanned readers explicit (entries ++ more)) closed := by
  rw [scanned_append]
  generalize scanned readers explicit entries = before
  suffices extends' : ∀ (after : Scan) (closed : List Segment), before.Follows after closed →
      ∃ closed', before.Follows (more.foldl
        (fun scan entry => scan.advance readers explicit entry.1 entry.2) after) closed' from
    extends' before [] (.refl before)
  induction more with
  | nil => exact fun after closed follows => ⟨closed, follows⟩
  | cons entry rest ih =>
    intro after closed follows
    obtain ⟨closed', further⟩ := follows.advance (after.advance_moves entry.1 entry.2)
    exact ih _ closed' further

/-- A segment after further records and a later reading of the clock: its counts have not fallen, and
its runtime has only where it was open and ended before the first reading. -/
structure Segment.Grows (now : Int) (before after : Segment) : Prop where
  counts : before.counts.Le after.counts
  records : before.records ≤ after.records
  runtime : before.runtime ≤ after.runtime ∨ ∃ start ended, ended < now ∧
    before.runtime = max 0 (now - start) ∧ after.runtime = max 0 (ended - start)

theorem Segment.Grows.refl (now : Int) (segment : Segment) : segment.Grows now segment :=
  ⟨.refl _, Nat.le_refl _, .inl (Int.le_refl _)⟩

theorem OpenSegment.Grows.close {segment later : OpenSegment} (grows : segment.Grows later)
    (now endTs : Int) (complete complete' : Bool) :
    (segment.close complete now).Grows now (later.close complete' endTs) := by
  constructor
  · exact grows.counts
  · exact grows.records
  · by_cases early : endTs < now
    · refine .inr ⟨segment.start, endTs, early, rfl, ?_⟩
      change max 0 (endTs - later.start) = max 0 (endTs - segment.start)
      rw [grows.start]
    · left
      change max 0 (now - segment.start) ≤ max 0 (endTs - later.start)
      rw [grows.start]
      omega

theorem Scan.Follows.closed (follows : before.Follows after more) (later : Int) {index : Nat}
    (closed : index < before.segments.length) :
    (after.finish later)[index]? = before.segments[index]? := by
  unfold Scan.finish
  rw [follows.segments, append_assoc, getElem?_append_left closed]

variable {later now : Int}

section

variable (follows : before.Follows after more)

include follows

theorem Scan.Follows.opened (clock : now ≤ later)
    {segment : OpenSegment} (was : before.openSegment = some segment) :
    ∃ next, (after.finish later)[before.segments.length]? = some next ∧
      (segment.close false now).Grows now next := by
  unfold Scan.finish
  rw [follows.segments, append_assoc, getElem?_append_right (Nat.le_refl _), Nat.sub_self]
  cases follows.continues segment was with
  | stillOpen current is grows =>
    rw [is]
    refine ⟨current.close false later, rfl, ?_⟩
    have closed := grows.close now later false false
    refine ⟨closed.counts, closed.records, .inl ?_⟩
    change max 0 (now - segment.start) ≤ max 0 (later - current.start)
    rw [grows.start]
    omega
  | closed current complete endTs rest grows =>
    exact ⟨current.close complete endTs, rfl, grows.close now endTs false complete⟩

/-- Every segment of the shorter log is one of the longer log, at the same place. -/
theorem Scan.Follows.grows (clock : now ≤ later) {index : Nat}
    {segment : Segment} (found : (before.finish now)[index]? = some segment) :
    ∃ next, (after.finish later)[index]? = some next ∧ segment.Grows now next := by
  by_cases closed : index < before.segments.length
  · rw [follows.closed later closed]
    unfold Scan.finish at found
    rw [getElem?_append_left closed] at found
    exact ⟨segment, found, .refl now segment⟩
  · unfold Scan.finish at found
    rw [getElem?_append_right (Nat.le_of_not_lt closed)] at found
    cases was : before.openSegment with
    | none =>
      rw [was] at found
      cases found
    | some current =>
      rw [was] at found
      change [current.close false now][index - before.segments.length]? = some segment at found
      rw [getElem?_singleton] at found
      split at found
      · cases found
        have place : index = before.segments.length := by omega
        rw [place]
        exact follows.opened clock was
      · cases found

theorem Scan.Follows.length_le (clock : now ≤ later) :
    (before.finish now).length ≤ (after.finish later).length := by
  by_contra shorter
  have inside : (after.finish later).length < (before.finish now).length := by omega
  obtain ⟨next, found, _⟩ := follows.grows clock (getElem?_eq_getElem inside)
  rw [getElem?_eq_none (Nat.le_refl _)] at found
  cases found

theorem Scan.Follows.settled (now later : Int) {index : Nat}
    (early : index + 1 < (before.finish now).length) :
    (after.finish later)[index]? = (before.finish now)[index]? := by
  have closed : index < before.segments.length := by
    have length : (before.finish now).length ≤ before.segments.length + 1 := by
      unfold Scan.finish
      cases before.openSegment <;> simp
    omega
  rw [follows.closed later closed]
  unfold Scan.finish
  rw [getElem?_append_left closed]

end

theorem selectedIndex_cases (segments : List Segment) :
    (∃ selected, segments[selectedIndex segments]? = some selected ∧ selected.isOperative = true ∧
      ∀ index segment, selectedIndex segments < index → segments[index]? = some segment →
        segment.isOperative = false) ∨
    ((∀ segment ∈ segments, segment.isOperative = false) ∧
      selectedIndex segments = segments.length - 1) := by
  unfold selectedIndex
  cases found : segments.reverse.findIdx? Segment.isOperative with
  | none =>
    right
    rw [findIdx?_eq_none_iff] at found
    refine ⟨fun segment member => ?_, rfl⟩
    simpa using found segment (mem_reverse.mpr member)
  | some place =>
    left
    rw [findIdx?_eq_some_iff_getElem] at found
    obtain ⟨inside, operative, first⟩ := found
    rw [length_reverse] at inside
    rw [getElem_reverse] at operative
    have bound : segments.length - 1 - place < segments.length := by omega
    refine ⟨segments[segments.length - 1 - place], getElem?_eq_getElem bound, operative, ?_⟩
    intro index segment later at'
    obtain ⟨short, is⟩ := List.getElem?_eq_some_iff.mp at'
    have before : segments.length - 1 - index < place := by
      change segments.length - 1 - place < index at later
      omega
    have idle := first (segments.length - 1 - index) before
    rw [getElem_reverse] at idle
    have same : segments.length - 1 - (segments.length - 1 - index) = index := by omega
    simp only [same, is] at idle
    simpa using idle

theorem Segment.Grows.isOperative {before after : Segment} (grows : before.Grows now after)
    (operative : before.isOperative = true) :
    after.isOperative = true := by
  obtain ⟨⟨calls, compactions, suites⟩, records, _⟩ := grows
  unfold Segment.isOperative at operative ⊢
  simp only [Bool.and_eq_true, Bool.or_eq_true, bne_iff_ne] at operative ⊢
  omega

/-- The selected segment of the longer log is the same or a later one, and a later one only where it
has done work or where no segment has and another one has begun. -/
theorem Scan.Follows.selectedIndex_cases (follows : before.Follows after more) (clock : now ≤ later) :
    selectedIndex (before.finish now) = selectedIndex (after.finish later) ∨
      selectedIndex (before.finish now) < selectedIndex (after.finish later) ∧
        ((∃ selected, (after.finish later)[selectedIndex (after.finish later)]? = some selected ∧
            selected.isOperative = true) ∨
          (∀ segment ∈ after.finish later, segment.isOperative = false) ∧
            (before.finish now).length < (after.finish later).length) := by
  have longer := follows.length_le clock
  rcases Session.selectedIndex_cases (before.finish now) with
    ⟨worked, at', operative, _⟩ | ⟨idle, last⟩
  · obtain ⟨next, there, grows⟩ := follows.grows clock at'
    have works := grows.isOperative operative
    rcases Session.selectedIndex_cases (after.finish later) with
      ⟨selected, found, does, beyond⟩ | ⟨idle, _⟩
    · by_cases same : selectedIndex (before.finish now) = selectedIndex (after.finish later)
      · exact .inl same
      · right
        refine ⟨?_, .inl ⟨selected, found, does⟩⟩
        by_contra back
        have rest := beyond _ next (by omega) there
        rw [works] at rest
        cases rest
    · have rest := idle next (mem_of_getElem? there)
      rw [works] at rest
      cases rest
  · rcases Session.selectedIndex_cases (after.finish later) with
      ⟨selected, found, does, _⟩ | ⟨still, last'⟩
    · by_cases same : selectedIndex (before.finish now) = selectedIndex (after.finish later)
      · exact .inl same
      · right
        refine ⟨?_, .inl ⟨selected, found, does⟩⟩
        by_contra back
        rw [follows.settled now later (by omega)] at found
        have rest := idle selected (mem_of_getElem? found)
        rw [does] at rest
        cases rest
    · by_cases same : selectedIndex (before.finish now) = selectedIndex (after.finish later)
      · exact .inl same
      · exact .inr ⟨by omega, .inr ⟨still, by omega⟩⟩

/-- What the records inside segments count for: those after a boundary, up to the end of its task. -/
def countInside (readers : Readers) (explicit : Bool) : Bool → List Json → Counts
  | _, [] => .zero
  | inside, record :: rest =>
    if isBoundary explicit record then countInside readers explicit true rest
    else if inside then
      (recordCounts readers record).add
        (countInside readers explicit (normalizeEventMsg record != some SEGMENT_END_EVENT) rest)
    else countInside readers explicit false rest

/-- What a scan has counted so far. -/
def Scan.total : Counts :=
  (sum (scan.segments.map Segment.counts)).add
    ((scan.openSegment.map OpenSegment.counts).getD .zero)

theorem Scan.finish_total (now : Int) :
    sum ((scan.finish now).map Segment.counts) = scan.total := by
  unfold Scan.finish Scan.total
  rw [map_append, sum_append]
  cases scan.openSegment with
  | none => rfl
  | some segment => exact congrArg _ (add_zero _)

/-- A record counts for what it adds, and leaves the scan inside a segment or outside. -/
theorem Scan.advance_total (record : Json) (ts : Int) (rest : List Json) :
    (scan.advance readers explicit record ts).total.add
        (countInside readers explicit (scan.advance readers explicit record ts).openSegment.isSome
          rest) =
      scan.total.add (countInside readers explicit scan.openSegment.isSome (record :: rest)) := by
  rw [countInside]
  unfold Scan.advance
  by_cases boundary : isBoundary explicit record = true
  · rw [if_pos boundary, if_pos boundary]
    congr 1
    unfold Scan.total
    cases scan.openSegment with
    | none =>
      dsimp only [Option.map_none, Option.toList_none]
      rw [append_nil]
      rfl
    | some segment =>
      dsimp only [Option.map_some, Option.toList_some]
      rw [map_append, sum_append]
      exact add_zero _
  · rw [if_neg boundary, if_neg boundary]
    cases was : scan.openSegment with
    | none =>
      rw [was]
      rfl
    | some segment =>
      dsimp only [Option.isSome_some]
      rw [if_pos rfl, ← add_assoc]
      by_cases ends : normalizeEventMsg record = some SEGMENT_END_EVENT
      · have ends' : (normalizeEventMsg record != some SEGMENT_END_EVENT) = false := by
          simp [ends]
        rw [if_pos ends, ends']
        congr 1
        unfold Scan.total
        dsimp only [Option.map_none, Option.getD_none]
        rw [was, map_append, sum_append, add_zero, add_assoc]
        rfl
      · have goes : (normalizeEventMsg record != some SEGMENT_END_EVENT) = true := by
          simpa using ends
        rw [if_neg ends, goes]
        congr 1
        unfold Scan.total
        rw [was, add_assoc]
        rfl

theorem scanned_total (entries : List (Json × Int)) : (scanned readers explicit entries).total =
      countInside readers explicit false (entries.map Prod.fst) := by
  suffices counted : ∀ scan : Scan,
      (entries.foldl (fun scan entry => scan.advance readers explicit entry.1 entry.2) scan).total =
        scan.total.add
          (countInside readers explicit scan.openSegment.isSome (entries.map Prod.fst)) by
    have whole := counted .start
    rw [show Scan.start.total = .zero from rfl, Counts.zero_add] at whole
    exact whole
  induction entries with
  | nil =>
    intro scan
    exact (add_zero _).symm
  | cons entry rest ih =>
    intro scan
    rw [foldl_cons, ih, map_cons, Scan.advance_total]

variable {entries : List (Json × Int)}

theorem stamped_cons {record : Json} {rest : List Json}
    (done : stamped readers (record :: rest) = .ok entries) :
    ∃ front later, stamped readers rest = .ok later ∧ entries = front ++ later ∧
      front.map Prod.fst = [record].filter Json.isObject ∧
      ∀ more, stamped readers (record :: more) = (stamped readers more).map (front ++ ·) := by
  unfold stamped at done
  split at done
  · rename_i object
    cases read : readers.parseIsoTimestamp (record.value "timestamp") with
    | error error =>
      rw [read] at done
      cases done
    | ok ts =>
      rw [read] at done
      cases others : stamped readers rest with
      | error error =>
        rw [others] at done
        cases done
      | ok later =>
        rw [others] at done
        cases done
        refine ⟨[(record, ts)], later, rfl, rfl, by simp [object], ?_⟩
        intro more
        rw [stamped, if_pos object, read]
        rfl
  · rename_i other
    refine ⟨[], entries, done, rfl, by simp [other], ?_⟩
    intro more
    rw [stamped, if_neg other]
    cases stamped readers more <;> rfl

variable {records : List Json}

theorem stamped_records (done : stamped readers records = .ok entries) :
    entries.map Prod.fst = records.filter Json.isObject := by
  induction records generalizing entries with
  | nil =>
    cases done
    rfl
  | cons record rest ih =>
    obtain ⟨front, later, others, rfl, first, _⟩ := stamped_cons done
    rw [map_append, first, ih others, ← filter_append]
    rfl

theorem stamped_append {extension : List Json} {all : List (Json × Int)}
    (done : stamped readers records = .ok entries)
    (whole : stamped readers (records ++ extension) = .ok all) :
    ∃ more, all = entries ++ more := by
  induction records generalizing entries all with
  | nil =>
    cases done
    exact ⟨all, rfl⟩
  | cons record rest ih =>
    obtain ⟨front, later, others, rfl, _, reads⟩ := stamped_cons done
    rw [cons_append, reads] at whole
    cases both : stamped readers (rest ++ extension) with
    | error error =>
      rw [both] at whole
      cases whole
    | ok joined =>
      rw [both] at whole
      cases whole
      obtain ⟨more, rfl⟩ := ih others both
      exact ⟨more, (append_assoc _ _ _).symm⟩

theorem evaluateRecords_ok {evaluation : Evaluation}
    (done : evaluateRecords readers records now = .ok evaluation) :
    ∃ entries, stamped readers records = .ok entries ∧
      evaluation.segments = (scanned readers (hasExplicitSegments records) entries).finish now ∧
      evaluation.aggregate = sum (evaluation.segments.map Segment.counts) ∧
      evaluation.segments[selectedIndex evaluation.segments]? = some evaluation.selected := by
  unfold evaluateRecords at done
  split at done
  · cases done
  · cases read : stamped readers records with
    | error error =>
      rw [read] at done
      cases done
    | ok entries =>
      rw [read] at done
      refine ⟨entries, rfl, ?_⟩
      dsimp only [bind, Except.bind] at done
      split at done
      · rename_i selected found
        cases done
        exact ⟨rfl, rfl, found⟩
      · cases done

/-- What further records and a later reading of the clock do to the usage of a log. -/
structure UsageGrows (now : Int) (short long : Evaluation) : Prop where
  /-- Every segment stays at its place. -/
  segments : ∀ (index : Nat) (segment : Segment), short.segments[index]? = some segment →
    ∃ after, long.segments[index]? = some after ∧ segment.Grows now after
  /-- While the same segment is selected, its usage does not go back. -/
  selected : selectedIndex short.segments = selectedIndex long.segments →
    short.selected.Grows now long.selected
  /-- Another one is selected only where it has done work, or has begun and none has. -/
  switched : selectedIndex short.segments ≠ selectedIndex long.segments →
    selectedIndex short.segments < selectedIndex long.segments ∧ (long.selected.isOperative = true ∨
        (∀ segment ∈ long.segments, segment.isOperative = false) ∧
          short.segments.length < long.segments.length)

/-- The usage of a segment never goes backwards, and all items inside segments are counted. -/
theorem supervised_usage_grows (readers : Readers) (records extension : List Json)
    (now later : Int) (short long : Evaluation)
    (first : evaluateRecords readers records now = .ok short)
    (second : evaluateRecords readers (records ++ extension) later = .ok long)
    (clock : now ≤ later)
    (boundaries : hasExplicitSegments (records ++ extension) = hasExplicitSegments records) :
    UsageGrows now short long ∧
      short.aggregate = countInside readers (hasExplicitSegments records) false
        (records.filter Json.isObject) := by
  obtain ⟨entries, read, segments, aggregate, selected⟩ := evaluateRecords_ok first
  obtain ⟨all, readAll, segments', _, selected'⟩ := evaluateRecords_ok second
  obtain ⟨more, rfl⟩ := stamped_append read readAll
  obtain ⟨closed, follows⟩ := @scanned_follows readers (hasExplicitSegments records) entries more
  rw [boundaries] at segments'
  constructor
  · constructor
    · intro index segment found
      rw [segments] at found
      rw [segments']
      exact follows.grows clock found
    · intro same
      rw [segments] at selected same
      obtain ⟨after, found, grows⟩ := follows.grows clock selected
      rw [same, ← segments', selected'] at found
      cases found
      exact grows
    · intro apart
      rw [segments, segments'] at apart ⊢
      rw [segments'] at selected'
      rcases follows.selectedIndex_cases clock with same | ⟨beyond, ⟨worked, found, works⟩ | idle⟩
      · exact absurd same apart
      · rw [selected'] at found
        cases found
        exact ⟨beyond, .inl works⟩
      · exact ⟨beyond, .inr idle⟩
  · rw [aggregate, segments, Scan.finish_total, scanned_total, stamped_records read]

/-- Timestamps in whole seconds, and no text of a command. -/
def sampleReaders : Readers where
  parseIsoTimestamp
    | .int seconds => .ok (seconds * 1000000)
    | _ => .error (sessionError "invalid timestamp type")
  loadsJsonDict _ := none
  shellTokens _ := some []

def sampleEvent (seconds : Int) (event : String) : Json :=
  .obj [("timestamp", .int seconds), ("type", .str "event_msg"),
    ("payload", .obj [("type", .str event)])]

def sampleCall (seconds : Int) : Json :=
  .obj [("timestamp", .int seconds), ("type", .str "response_item"),
    ("payload", .obj [("type", .str "function_call"), ("name", .str "exec_command")])]

def sampleTask : List Json :=
  [sampleEvent 1 SEGMENT_START_EVENT, sampleCall 2, sampleCall 3, sampleEvent 4 SEGMENT_END_EVENT]

def sampleNextTask : List Json := [sampleEvent 5 SEGMENT_START_EVENT, sampleCall 6]

def sampleShort : Evaluation :=
  ⟨[⟨⟨2, 0, 0⟩, 4, [], true, 3000000⟩], ⟨2, 0, 0⟩, ⟨⟨2, 0, 0⟩, 4, [], true, 3000000⟩⟩

def sampleLong : Evaluation :=
  ⟨[⟨⟨2, 0, 0⟩, 4, [], true, 3000000⟩, ⟨⟨1, 0, 0⟩, 2, [], false, 2000000⟩], ⟨3, 0, 0⟩,
    ⟨⟨1, 0, 0⟩, 2, [], false, 2000000⟩⟩

theorem supervised_usage_grows_sample : UsageGrows 4000000 sampleShort sampleLong ∧
      sampleShort.aggregate = countInside sampleReaders (hasExplicitSegments sampleTask) false
        (sampleTask.filter Json.isObject) :=
  supervised_usage_grows sampleReaders sampleTask sampleNextTask 4000000 7000000 sampleShort
    sampleLong (by decide) (by decide) (by decide) (by decide)

/-- The tool calls that a check takes fall when the second task has done its first work. -/
theorem supervised_usage_falls :
    ¬ ∀ (readers : Readers) (records extension : List Json) (entries : List (Json × Int))
      (now later : Int) (short long : Evaluation),
      stamped readers (records ++ extension) = .ok entries →
      (entries.map Prod.snd).Pairwise (· ≤ ·) → now ≤ later →
      evaluateRecords readers records now = .ok short →
      evaluateRecords readers (records ++ extension) later = .ok long →
        short.selected.counts.toolCalls ≤ long.selected.counts.toolCalls := by
  intro grows
  have falls := grows sampleReaders sampleTask sampleNextTask
    ((sampleTask ++ sampleNextTask).zip [1000000, 2000000, 3000000, 4000000, 5000000, 6000000])
    4000000 7000000 sampleShort sampleLong rfl (by decide) (by decide) (by decide) (by decide)
  revert falls
  decide

end WorkOrchestration.Native.Session
