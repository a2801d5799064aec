import Mathlib.Data.List.Basic
import Mathlib.Data.List.Induction
import Mathlib.Tactic.Common
import Mathlib.Tactic.IntervalCases

/-!
# Calendar time

Instants of the proleptic Gregorian calendar from year 1 to year 9999, counted in
microseconds of UTC, and their ISO 8601 texts.  A text with milliseconds names
the instant with the rest of its microseconds dropped.
-/

namespace WorkOrchestration.Lib.Calendar

open List
open Option (bind_eq_some_iff bind_some)

structure Date where
  year : Nat
  month : Nat
  day : Nat

def isLeap (year : Nat) : Bool := year % 4 == 0 && (year % 100 != 0 || year % 400 == 0)

variable (leap : Bool)

def daysBeforeMonth (month : Nat) : Nat :=
  [0, 0, 31, 59, 90, 120, 151, 181, 212, 243, 273, 304, 334].getD month 0 +
    if 2 < month ∧ leap = true then 1 else 0

def daysInMonth (month : Nat) : Nat :=
  if month = 2 ∧ leap = true then 29
  else [0, 31, 28, 31, 30, 31, 30, 31, 31, 30, 31, 30, 31].getD month 0

def daysBeforeYear (year : Nat) : Nat :=
  let past := year - 1
  past * 365 + past / 4 - past / 100 + past / 400

def Date.days (date : Date) : Nat :=
  daysBeforeYear date.year + daysBeforeMonth (isLeap date.year) date.month + (date.day - 1)

/-- The month of a day of the year, from an estimate that is at most one too high. -/
def monthOfDay (day : Nat) : Nat :=
  let estimate := (day + 50) / 32
  if day < daysBeforeMonth leap estimate then estimate - 1 else estimate

/-- The date that a number of days lie before. -/
def Date.ofDays (days : Nat) : Date :=
  let fourCenturies := days / 146097
  let inFourCenturies := days % 146097
  let centuries := inFourCenturies / 36524
  let inCentury := inFourCenturies % 36524
  let fourYears := inCentury / 1461
  let inFourYears := inCentury % 1461
  let years := inFourYears / 365
  let day := inFourYears % 365
  let past := 400 * fourCenturies + 100 * centuries + 4 * fourYears + years
  if years = 4 ∨ centuries = 4 then ⟨past, 12, 31⟩
  else
    let leap := years == 3 && (fourYears != 24 || centuries == 3)
    let month := monthOfDay leap day
    ⟨past + 1, month, day - daysBeforeMonth leap month + 1⟩

structure Date.Valid (date : Date) : Prop where
  year : 1 ≤ date.year
  month : 1 ≤ date.month ∧ date.month ≤ 12
  day : 1 ≤ date.day ∧ date.day ≤ daysInMonth (isLeap date.year) date.month

instance (date : Date) : Decidable date.Valid :=
  decidable_of_iff (1 ≤ date.year ∧ (1 ≤ date.month ∧ date.month ≤ 12) ∧
      1 ≤ date.day ∧ date.day ≤ daysInMonth (isLeap date.year) date.month)
    ⟨fun ⟨year, month, day⟩ => ⟨year, month, day⟩, fun valid => ⟨valid.year, valid.month, valid.day⟩⟩

theorem monthOfDay_spec : ∀ day < (if leap then 366 else 365),
      (1 ≤ monthOfDay leap day ∧ monthOfDay leap day ≤ 12) ∧
        daysBeforeMonth leap (monthOfDay leap day) ≤ day ∧
          day - daysBeforeMonth leap (monthOfDay leap day) <
            daysInMonth leap (monthOfDay leap day) := by
  cases leap <;> decide +kernel

variable {fourCenturies centuries fourYears : Nat}

theorem isLeap_iff {years : Nat} (century : centuries < 4) (four : fourYears < 25)
    (single : years < 4) :
    isLeap (400 * fourCenturies + 100 * centuries + 4 * fourYears + years + 1) =
      (years == 3 && (fourYears != 24 || centuries == 3)) := by
  rw [Bool.eq_iff_iff]
  simp only [isLeap, Bool.and_eq_true, Bool.or_eq_true, beq_iff_eq, bne_iff_ne]
  omega

theorem isLeap_of_fourth (four : fourYears < 24 ∨ centuries = 3 ∧ fourYears = 24) :
    isLeap (400 * fourCenturies + 100 * centuries + 4 * fourYears + 4) = true := by
  simp only [isLeap, Bool.and_eq_true, Bool.or_eq_true, beq_iff_eq, bne_iff_ne]
  omega

theorem daysBeforeYear_eq {years : Nat} (century : centuries < 4) (four : fourYears < 25)
    (single : years < 4) :
    daysBeforeYear (400 * fourCenturies + 100 * centuries + 4 * fourYears + years + 1) =
      146097 * fourCenturies + 36524 * centuries + 1461 * fourYears + 365 * years := by
  simp only [daysBeforeYear, Nat.add_sub_cancel]
  omega

theorem parts_eq (days : Nat) : days = 146097 * (days / 146097) + 36524 * (days % 146097 / 36524) +
      1461 * (days % 146097 % 36524 / 1461) + 365 * (days % 146097 % 36524 % 1461 / 365) +
        days % 146097 % 36524 % 1461 % 365 := by
  omega

theorem lastDay_spec (century : centuries < 4)
    (four : fourYears < 24 ∨ centuries = 3 ∧ fourYears = 24) :
    (Date.mk (400 * fourCenturies + 100 * centuries + 4 * fourYears + 4) 12 31).Valid ∧
      (Date.mk (400 * fourCenturies + 100 * centuries + 4 * fourYears + 4) 12 31).days =
        146097 * fourCenturies + 36524 * centuries + 1461 * fourYears + 1460 := by
  have leap := @isLeap_of_fourth fourCenturies _ _ four
  have before := @daysBeforeYear_eq fourCenturies centuries fourYears 3 century (by omega) (by decide)
  constructor
  · refine ⟨Nat.le_add_left _ _, (by decide : 1 ≤ 12 ∧ 12 ≤ 12), (by decide : 1 ≤ 31), ?_⟩
    exact (by decide : 31 ≤ daysInMonth true 12)
  · change daysBeforeYear (_ + 3 + 1) + daysBeforeMonth (isLeap _) 12 + 30 = _
    rw [leap]
    change _ + 335 + 30 = _
    omega

theorem dayOfYear_spec {years day : Nat} (century : centuries < 4) (four : fourYears < 25)
    (single : years < 4) (inYear : day < 365) :
    let leap := years == 3 && (fourYears != 24 || centuries == 3)
    let date : Date := ⟨400 * fourCenturies + 100 * centuries + 4 * fourYears + years + 1,
      monthOfDay leap day, day - daysBeforeMonth leap (monthOfDay leap day) + 1⟩
    date.Valid ∧ date.days =
      146097 * fourCenturies + 36524 * centuries + 1461 * fourYears + 365 * years + day := by
  intro leap date
  have sameLeap : isLeap date.year = leap := isLeap_iff century four single
  have bound : day < if leap = true then 366 else 365 := by
    split
    · omega
    · exact inYear
  obtain ⟨month, before, within⟩ := monthOfDay_spec leap day bound
  constructor
  · refine ⟨Nat.le_add_left _ _, month, Nat.le_add_left _ _, ?_⟩
    rw [sameLeap]
    exact within
  · rw [Date.days, sameLeap, daysBeforeYear_eq century four single]
    change _ + daysBeforeMonth leap (monthOfDay leap day) +
      (day - daysBeforeMonth leap (monthOfDay leap day) + 1 - 1) = _
    omega

/-- The date found for a number of days is a date, and lies that many days after the first. -/
theorem ofDays_spec (days : Nat) : (Date.ofDays days).Valid ∧ (Date.ofDays days).days = days := by
  have whole := parts_eq days
  unfold Date.ofDays
  extract_lets fourCenturies inFourCenturies centuries inCentury fourYears inFourYears years day past
  have rest : inFourCenturies < 146097 := Nat.mod_lt _ (by decide)
  have restOfCentury : inCentury < 36524 := Nat.mod_lt _ (by decide)
  have inYear : day < 365 := Nat.mod_lt _ (by decide)
  by_cases last : years = 4 ∨ centuries = 4
  · rw [if_pos last]
    rcases last with yearEnd | centuryEnd
    · have century : centuries < 4 := by omega
      have four : fourYears < 24 ∨ centuries = 3 ∧ fourYears = 24 := by omega
      obtain ⟨valid, counted⟩ := @lastDay_spec fourCenturies _ _ century four
      have same : past = 400 * fourCenturies + 100 * centuries + 4 * fourYears + 4 := by omega
      rw [same]
      exact ⟨valid, by omega⟩
    · obtain ⟨valid, counted⟩ := @lastDay_spec fourCenturies 3 24 (by decide) (.inr ⟨rfl, rfl⟩)
      have same : past = 400 * fourCenturies + 100 * 3 + 4 * 24 + 4 := by omega
      rw [same]
      exact ⟨valid, by omega⟩
  · rw [if_neg last]
    have century : centuries < 4 := by omega
    have four : fourYears < 25 := by omega
    have single : years < 4 := by omega
    obtain ⟨valid, counted⟩ := @dayOfYear_spec fourCenturies centuries fourYears years day century four
      single inYear
    exact ⟨valid, counted.trans whole.symm⟩

theorem year_ofDays_le {days : Nat} (inRange : days < 3652059) : (Date.ofDays days).year ≤ 9999 := by
  obtain ⟨valid, counted⟩ := ofDays_spec days
  by_contra late
  have early : 3652059 ≤ daysBeforeYear (Date.ofDays days).year := by
    unfold daysBeforeYear
    simp only
    omega
  rw [Date.days] at counted
  omega

def digit (value : Nat) : Char := Char.ofNat (48 + value)

/-- The last digits of a number, in the given width. -/
def digits : Nat → Nat → List Char
  | 0, _ => []
  | width + 1, value => digits width (value / 10) ++ [digit (value % 10)]

/-- The number that a list of digits spells. -/
def readDigits (text : List Char) : Option Nat :=
  if text.all fun character => decide (48 ≤ character.toNat ∧ character.toNat ≤ 57) then
    some (text.foldl (fun value character => 10 * value + (character.toNat - 48)) 0)
  else none

variable {value : Nat}

theorem toNat_digit (single : value < 10) : (digit value).toNat = 48 + value := by
  interval_cases value <;> rfl

theorem length_digits (width value : Nat) : (digits width value).length = width := by
  induction width generalizing value with
  | zero => rfl
  | succ width ih => rw [digits, length_append, ih, length_singleton]

variable {width : Nat}

theorem mem_digits {character : Char} (member : character ∈ digits width value) :
    48 ≤ character.toNat ∧ character.toNat ≤ 57 := by
  induction width generalizing value with
  | zero => cases member
  | succ width ih =>
    rcases mem_append.mp member with front | last
    · exact ih front
    · have single : value % 10 < 10 := Nat.mod_lt _ (by decide)
      rw [mem_singleton.mp last, toNat_digit single]
      omega

theorem readDigits_digits (fits : value < 10 ^ width) :
    readDigits (digits width value) = some value := by
  have spelled : (digits width value).all
      (fun character => decide (48 ≤ character.toNat ∧ character.toNat ≤ 57)) = true := by
    rw [all_eq_true]
    exact fun character member => decide_eq_true (mem_digits member)
  rw [readDigits, if_pos spelled]
  clear spelled
  induction width generalizing value with
  | zero =>
    have none : value = 0 := by simpa using fits
    rw [none]
    rfl
  | succ width ih =>
    have single : value % 10 < 10 := Nat.mod_lt _ (by decide)
    have front : value / 10 < 10 ^ width := by
      omega
    have earlier := Option.some.inj (ih front)
    rw [digits, foldl_append]
    simp only [foldl_cons, foldl_nil, toNat_digit single]
    congr 1
    omega

/-- A number of exactly the given width, and the rest of the text. -/
def readField (width : Nat) (text : List Char) : Option (Nat × List Char) :=
  if width ≤ text.length then (readDigits (text.take width)).map (·, text.drop width) else none

def readMark (mark text : List Char) : Option (List Char) :=
  if text.take mark.length = mark then some (text.drop mark.length) else none

theorem readField_append (fits : value < 10 ^ width) (rest : List Char) :
    readField width (digits width value ++ rest) = some (value, rest) := by
  have long : width ≤ (digits width value ++ rest).length := by
    rw [length_append, length_digits]
    exact Nat.le_add_right _ _
  rw [readField, if_pos long, take_left' (length_digits width value),
    drop_left' (length_digits width value), readDigits_digits fits]
  rfl

theorem readMark_append (mark rest : List Char) : readMark mark (mark ++ rest) = some rest := by
  rw [readMark, take_left, if_pos rfl, drop_left]

section

variable {α : Type} {mark rest : List Char}

theorem readField_bind {next : Nat × List Char → Option α} (fits : value < 10 ^ width) :
    (readField width (digits width value ++ rest) >>= next) = next (value, rest) := by
  rw [readField_append fits]
  rfl

theorem readMark_bind {next : List Char → Option α} :
    (readMark mark (mark ++ rest) >>= next) = next rest := by
  rw [readMark_append]
  rfl

end

def microsPerDay : Nat := 86400000000

/-- Behind the last microsecond of year 9999. -/
def limit : Nat := 3652059 * microsPerDay

/-- The text of an instant up to its milliseconds. -/
def isoStem (instant : Nat) : List Char :=
  let date := Date.ofDays (instant / microsPerDay)
  let millis := instant % microsPerDay / 1000
  digits 4 date.year ++ ['-'] ++ digits 2 date.month ++ ['-'] ++ digits 2 date.day ++ ['T'] ++
    digits 2 (millis / 3600000) ++ [':'] ++ digits 2 (millis / 60000 % 60) ++ [':'] ++
      digits 2 (millis / 1000 % 60) ++ ['.'] ++ digits 3 (millis % 1000)

def utcOffset : List Char := ['+', '0', '0', ':', '0', '0']

/-- `isoformat(timespec="milliseconds")` of an instant in UTC. -/
def isoformat (instant : Nat) : List Char := isoStem instant ++ utcOffset

/-- A date with a time of day in milliseconds. -/
def instantOf? (date : Date) (hour minute second millis : Nat) : Option Nat :=
  if date.Valid ∧ date.year ≤ 9999 ∧ hour < 24 ∧ minute < 60 ∧ second < 60 then
    some (date.days * microsPerDay + (((hour * 60 + minute) * 60 + second) * 1000 + millis) * 1000)
  else none

/-- The instant that a text of the form of `isoformat` names. -/
def readIso (text : List Char) : Option Nat := do
  let (year, text) ← readField 4 text
  let text ← readMark ['-'] text
  let (month, text) ← readField 2 text
  let text ← readMark ['-'] text
  let (day, text) ← readField 2 text
  let text ← readMark ['T'] text
  let (hour, text) ← readField 2 text
  let text ← readMark [':'] text
  let (minute, text) ← readField 2 text
  let text ← readMark [':'] text
  let (second, text) ← readField 2 text
  let text ← readMark ['.'] text
  let (millis, text) ← readField 3 text
  if text = utcOffset then instantOf? ⟨year, month, day⟩ hour minute second millis else none

/-- The instant with the microseconds below its last millisecond dropped. -/
def truncated (instant : Nat) : Nat := instant / 1000 * 1000

theorem readIso_parts {year month day hour minute second millis : Nat} (fitsYear : year < 10000)
    (fitsMonth : month < 100) (fitsDay : day < 100) (fitsHour : hour < 100) (fitsMinute : minute < 100)
    (fitsSecond : second < 100) (fitsMillis : millis < 1000) :
    readIso (digits 4 year ++ (['-'] ++ (digits 2 month ++ (['-'] ++ (digits 2 day ++ (['T'] ++
      (digits 2 hour ++ ([':'] ++ (digits 2 minute ++ ([':'] ++ (digits 2 second ++ (['.'] ++
        (digits 3 millis ++ utcOffset))))))))))))) =
      instantOf? ⟨year, month, day⟩ hour minute second millis := by
  unfold readIso
  refine (readField_bind fitsYear).trans (readMark_bind.trans ?_)
  refine (readField_bind fitsMonth).trans (readMark_bind.trans ?_)
  refine (readField_bind fitsDay).trans (readMark_bind.trans ?_)
  refine (readField_bind fitsHour).trans (readMark_bind.trans ?_)
  refine (readField_bind fitsMinute).trans (readMark_bind.trans ?_)
  refine (readField_bind fitsSecond).trans (readMark_bind.trans ?_)
  refine (readField_bind fitsMillis).trans ?_
  exact if_pos rfl

theorem daysInMonth_le {month : Nat} (last : month ≤ 12) : daysInMonth leap month ≤ 31 := by
  interval_cases month <;> cases leap <;> decide

variable {instant : Nat}

/-- A text with milliseconds names the instant that it was written for, up to its milliseconds. -/
theorem readIso_isoformat (inRange : instant < limit) :
    readIso (isoformat instant) = some (truncated instant) := by
  have days : instant / microsPerDay < 3652059 := by
    unfold limit microsPerDay at *
    omega
  obtain ⟨valid, counted⟩ := ofDays_spec (instant / microsPerDay)
  have year := year_ofDays_le days
  have dayBound := valid.day.2.trans (daysInMonth_le _ valid.month.2)
  have inDay : instant % microsPerDay < 86400000000 := Nat.mod_lt _ (by decide)
  have monthBound := valid.month.2
  unfold isoformat isoStem
  simp only [append_assoc]
  rw [readIso_parts (by omega) (by omega) (by omega) (by omega) (by omega) (by omega) (by omega)]
  have inClock : instant % microsPerDay / 1000 / 3600000 < 24 ∧
      instant % microsPerDay / 1000 / 60000 % 60 < 60 ∧
        instant % microsPerDay / 1000 / 1000 % 60 < 60 := by
    omega
  rw [instantOf?, if_pos ⟨valid, year, inClock⟩]
  change some ((Date.ofDays (instant / microsPerDay)).days * microsPerDay + _) = _
  refine congrArg some ?_
  unfold truncated microsPerDay at *
  omega

theorem readDigits_lt {text : List Char} (read : readDigits text = some value) :
    value < 10 ^ text.length := by
  unfold readDigits at read
  split at read
  · rename_i spelled
    rw [← Option.some.inj read]
    clear read
    induction text using List.reverseRecOn with
    | nil => decide
    | append_singleton front last ih =>
      rw [all_append, Bool.and_eq_true] at spelled
      have lastDigit : last.toNat ≤ 57 := by
        have both := all_eq_true.mp spelled.2 last mem_cons_self
        exact (of_decide_eq_true both).2
      have earlier := ih spelled.1
      rw [foldl_append, length_append, length_singleton]
      simp only [foldl_cons, foldl_nil]
      omega
  · cases read

theorem readField_lt {text rest : List Char} (read : readField width text = some (value, rest)) :
    value < 10 ^ width := by
  unfold readField at read
  split at read
  · rename_i long
    obtain ⟨found, spelled, same⟩ := Option.map_eq_some_iff.mp read
    cases same
    have bound := readDigits_lt spelled
    rwa [length_take, min_eq_left long] at bound
  · cases read

/-- A date of the years that have four digits is one of the days counted. -/
theorem days_lt {date : Date} (valid : date.Valid) (year : date.year ≤ 9999) :
    date.days < 3652059 := by
  have month := valid.month
  have day := valid.day
  have within : daysBeforeMonth (isLeap date.year) date.month +
      daysInMonth (isLeap date.year) date.month ≤ if isLeap date.year then 366 else 365 := by
    generalize isLeap date.year = leap
    obtain ⟨first, last⟩ := month
    generalize date.month = month at first last
    interval_cases month <;> cases leap <;> decide
  have inYear : daysBeforeMonth (isLeap date.year) date.month + (date.day - 1) <
      if isLeap date.year then 366 else 365 := by omega
  rw [Date.days]
  rcases Nat.lt_or_eq_of_le year with earlier | last
  · have before : daysBeforeYear date.year + 366 ≤ 3652059 := by
      unfold daysBeforeYear
      simp only
      omega
    split at inYear <;> omega
  · rw [last] at inYear ⊢
    have leap : isLeap 9999 = false := by decide
    have before : daysBeforeYear 9999 = 3651694 := by decide
    rw [leap] at inYear ⊢
    simp only [Bool.false_eq_true, if_false] at inYear
    omega

theorem instantOf?_lt {date : Date} {hour minute second millis : Nat} (fits : millis < 1000)
    (named : instantOf? date hour minute second millis = some instant) : instant < limit := by
  unfold instantOf? at named
  split at named
  · rename_i inRange
    obtain ⟨valid, year, hours, minutes, seconds⟩ := inRange
    have days := days_lt valid year
    cases named
    unfold limit microsPerDay
    omega
  · cases named

theorem readIso_lt {text : List Char} (read : readIso text = some instant) : instant < limit := by
  obtain ⟨⟨year, text⟩, _, read⟩ := bind_eq_some_iff.mp read
  obtain ⟨text, _, read⟩ := bind_eq_some_iff.mp read
  obtain ⟨⟨month, text⟩, _, read⟩ := bind_eq_some_iff.mp read
  obtain ⟨text, _, read⟩ := bind_eq_some_iff.mp read
  obtain ⟨⟨day, text⟩, _, read⟩ := bind_eq_some_iff.mp read
  obtain ⟨text, _, read⟩ := bind_eq_some_iff.mp read
  obtain ⟨⟨hour, text⟩, _, read⟩ := bind_eq_some_iff.mp read
  obtain ⟨text, _, read⟩ := bind_eq_some_iff.mp read
  obtain ⟨⟨minute, text⟩, _, read⟩ := bind_eq_some_iff.mp read
  obtain ⟨text, _, read⟩ := bind_eq_some_iff.mp read
  obtain ⟨⟨second, text⟩, _, read⟩ := bind_eq_some_iff.mp read
  obtain ⟨text, _, read⟩ := bind_eq_some_iff.mp read
  obtain ⟨⟨millis, text⟩, spelled, read⟩ := bind_eq_some_iff.mp read
  simp only at read
  split at read
  · exact instantOf?_lt (readField_lt spelled) read
  · cases read

theorem isoStem_truncated (instant : Nat) : isoStem (truncated instant) = isoStem instant := by
  have sameDay : truncated instant / microsPerDay = instant / microsPerDay := by
    unfold truncated microsPerDay
    omega
  have sameMillis : truncated instant % microsPerDay / 1000 = instant % microsPerDay / 1000 := by
    unfold truncated microsPerDay
    omega
  unfold isoStem
  rw [sameDay, sameMillis]

theorem mem_isoStem {character : Char} (member : character ∈ isoStem instant) :
    (48 ≤ character.toNat ∧ character.toNat ≤ 57) ∨ character ∈ ['-', 'T', ':', '.'] := by
  simp only [isoStem, mem_append, mem_singleton] at member
  have number : ∀ {width value : Nat}, character ∈ digits width value →
      (48 ≤ character.toNat ∧ character.toNat ≤ 57) ∨ character ∈ ['-', 'T', ':', '.'] :=
    fun inside => .inl (mem_digits inside)
  rcases member with (((((((((((year | mark) | month) | mark) | day) | mark) | hour) | mark) | minute) | mark) |
    second) | mark) | millis
  · exact number year
  · simp [mark]
  · exact number month
  · simp [mark]
  · exact number day
  · simp [mark]
  · exact number hour
  · simp [mark]
  · exact number minute
  · simp [mark]
  · exact number second
  · simp [mark]
  · exact number millis

end WorkOrchestration.Lib.Calendar
