import Mathlib.Data.List.Infix
import Mathlib.Data.List.Dedup
import Mathlib.Data.List.Sort
import WorkOrchestration.Lib.Lines
import WorkOrchestration.Lib.Results
import WorkOrchestration.Native.Artifacts

/-!
# Reader of session logs

The records of a log that is read while it is written, whatever byte the reading stops at.
-/

namespace WorkOrchestration.Native.SessionReader

open List
open Artifacts (Json)
open Lib.Lines (Chars isBoundary keptLines)
open Lib.Results (bind_eq_ok)
open Lib.Text (isSpace)

inductive ReadError where
  /-- A `UnicodeDecodeError`, which no clause catches. -/
  | undecodable
  | malformed (line : Nat)
  | notObject (record : Nat)
  | noRecords
  deriving DecidableEq

def universalNewlines (afterReturn : Bool) : Chars → Chars
  | [] => []
  | character :: rest =>
    if character = '\r' then '\n' :: universalNewlines true rest
    else if afterReturn && character == '\n' then universalNewlines false rest
    else character :: universalNewlines false rest

/-- `path.read_text(encoding="utf-8")`. -/
def readText (file : ByteArray) : Except ReadError Chars :=
  match file.utf8Decode? with
  | none => .error .undecodable
  | some text => .ok (universalNewlines false text.toList)

/-- The records, and whether a line is left that is not complete. -/
abbrev Read := List Json × Bool

def Read.prepend (value : Json) (later : Read) : Read := (value :: later.1, later.2)

variable (loads : Chars → Option Json)

def readLines (index : Nat) : List Chars → Except ReadError Read
  | [] => .ok ([], false)
  | line :: rest =>
    -- `not line.strip()`
    if line.all isSpace then readLines (index + 1) rest
    else
      match loads line with
      | none =>
        if rest = [] ∧ line.getLast? ≠ some '\n' ∧ line.getLast? ≠ some '\r' then .ok ([], true)
        else .error (.malformed index)
      | some value =>
        if value.isObject then (readLines (index + 1) rest).map (.prepend value)
        else .error (.notObject index)

def readSession (file : ByteArray) : Except ReadError Read := do
  let text ← readText file
  let read ← readLines loads 1 (keptLines text)
  if read.1 = [] then .error .noRecords else .ok read

/-- An object as its writer spells it. -/
structure Line where
  text : Chars
  value : Json

/-- What the parser makes of the line, cut anywhere. -/
structure Encoded (line : Line) : Prop where
  braced : ∃ inner, line.text = '{' :: inner ++ ['}']
  escaped : ∀ character ∈ line.text, 32 ≤ character.toNat
  isObject : line.value.isObject = true
  reads : loads line.text = some line.value
  readsEnded : loads (line.text ++ ['\n']) = some line.value
  unfinished : ∀ front, front <+: line.text → front ≠ line.text → loads front = none

def content (written : List Line) : Chars := written.flatMap (·.text ++ ['\n'])

def fileBytes (written : List Line) : ByteArray := (String.ofList (content written)).toUTF8

def size : Chars → Nat
  | [] => 0
  | character :: rest => character.utf8Size + size rest

/-- The records whose lines are complete but for their newline within so many bytes, and whether another
one is begun. -/
def recordsWithin : List Line → Nat → Read
  | [], _ => ([], false)
  | line :: rest, left =>
    if size line.text < left then .prepend line.value (recordsWithin rest (left - (size line.text + 1)))
    else if left = size line.text then ([line.value], false)
    else ([], decide (left ≠ 0))

/-- No line is taken apart in front of its end. -/
def Unbroken (text : Chars) : Prop :=
  ∀ character ∈ text.dropLast, isBoundary character = true → character = '\n'

/-- The bytes end behind a character of the log, and no line of theirs is taken apart. -/
def Legible (written : List Line) (cut : Nat) : Prop :=
  ∃ text, text <+: content written ∧ size text = cut ∧ Unbroken text

def Plain (text : Chars) : Prop := ∀ character ∈ text, isBoundary character = false

variable {loads} {line : Line} {written : List Line} {front back text : Chars} {character : Char}
  {index cut : Nat}

theorem keptLines_plain (inside : Plain front) (ends : back = [] ∨ isBoundary character = true)
    (single : character ≠ '\r') :
    keptLines (front ++ character :: back) = (front ++ [character]) :: keptLines back := by
  induction front with
  | nil =>
    rw [nil_append, keptLines, beq_eq_false_iff_ne.mpr single, Bool.false_and, Bool.not_false, Bool.and_true]
    split
    · rfl
    · rename_i visible
      rw [ends.resolve_right visible]
      rfl
  | cons first front ih =>
    obtain ⟨visible, others⟩ := forall_mem_cons.mp inside
    rw [cons_append, keptLines, visible, Bool.false_and, if_neg Bool.false_ne_true, ih others]
    rfl

theorem keptLines_ne_nil : keptLines (character :: back) ≠ [] := by
  unfold keptLines
  split
  · exact cons_ne_nil _ _
  · split
    · exact cons_ne_nil _ _
    · exact cons_ne_nil _ _

/-- The first place at which a text is taken apart. -/
theorem exists_break (broken : ¬ Plain text) :
    ∃ front character back, text = front ++ character :: back ∧ isBoundary character = true ∧ Plain front := by
  cases found : text.find? isBoundary with
  | none => exact absurd (fun other member => by simpa using find?_eq_none.mp found other member) broken
  | some character =>
    obtain ⟨boundary, front, back, whole, inside⟩ := find?_eq_some_iff_append.mp found
    exact ⟨front, character, back, whole, boundary, fun other member => by simpa using inside other member⟩

theorem Unbroken.of_plain (inside : Plain front) : Unbroken (front ++ [character]) := by
  intro other member boundary
  rw [dropLast_concat] at member
  rw [inside other member] at boundary
  cases boundary

theorem unbroken_nil : Unbroken [] := fun _ absent => absurd absent not_mem_nil

theorem unbroken_append (inside : Plain front) : Unbroken (front ++ ['\n'] ++ back) ↔ Unbroken back := by
  cases back with
  | nil =>
    rw [append_nil]
    exact ⟨fun _ => unbroken_nil, fun _ => .of_plain inside⟩
  | cons next back =>
    unfold Unbroken
    rw [dropLast_append_of_ne_nil (cons_ne_nil _ _), forall_mem_append, forall_mem_append, forall_mem_singleton]
    refine ⟨fun all => all.2, fun all => ⟨⟨fun other member boundary => ?_, fun _ => rfl⟩, all⟩⟩
    rw [inside other member] at boundary
    cases boundary

theorem universalNewlines_of_noReturn (single : '\r' ∉ text) : universalNewlines false text = text := by
  induction text with
  | nil => rfl
  | cons first rest ih =>
    rw [mem_cons, not_or] at single
    rw [universalNewlines, if_neg (Ne.symm single.1), Bool.false_and, if_neg Bool.false_ne_true, ih single.2]

theorem size_append : size (front ++ back) = size front + size back := by
  induction front with
  | nil => exact (Nat.zero_add _).symm
  | cons first front ih => rw [cons_append, size, size, ih, Nat.add_assoc]

theorem size_utf8Encode (text : Chars) : text.utf8Encode.size = size text := by
  induction text with
  | nil => rfl
  | cons first rest ih =>
    rw [utf8Encode_cons, ByteArray.size_append, ih, utf8Encode_singleton]
    exact congrArg (· + size rest) (by simp)

theorem size_pos (nonempty : text ≠ []) : 0 < size text := by
  obtain ⟨first, rest, rfl⟩ := exists_cons_of_ne_nil nonempty
  exact Nat.lt_add_right (size rest) first.utf8Size_pos

theorem size_lt (begun : front <+: text) (proper : front ≠ text) : size front < size text := by
  obtain ⟨back, rfl⟩ := begun
  rw [size_append]
  exact Nat.lt_add_of_pos_right (size_pos fun empty => proper (by rw [empty, append_nil]))

namespace Encoded

variable (encoded : Encoded loads line)

include encoded

theorem visible (begun : front <+: line.text) (nonempty : front ≠ []) (back : Chars) :
    (front ++ back).all isSpace = false := by
  obtain ⟨inner, shape⟩ := encoded.braced
  obtain ⟨first, rest, rfl⟩ := exists_cons_of_ne_nil nonempty
  rw [shape, cons_append, cons_prefix_cons] at begun
  rw [begun.1]
  rfl

theorem ne_nil : line.text ≠ [] := by
  obtain ⟨inner, shape⟩ := encoded.braced
  rw [shape]
  exact cons_ne_nil _ _

theorem ne_of_mem (member : character ∈ line.text) : character ≠ '\n' ∧ character ≠ '\r' := by
  have visible := encoded.escaped character member
  constructor
  · rintro rfl
    exact absurd visible (by decide)
  · rintro rfl
    exact absurd visible (by decide)

/-- A line that is taken apart in front of its end is reported as malformed. -/
theorem broken_iff (begun : front ++ [character] <+: line.text) (boundary : isBoundary character = true)
    (inside : Plain front) (more : back ≠ []) (exact : Read) :
    readLines loads index (keptLines (front ++ character :: back)) = .ok exact ↔
      Unbroken (front ++ character :: back) := by
  have member := begun.subset (mem_append_right front mem_cons_self)
  have proper : front ++ [character] ≠ line.text := by
    intro whole
    obtain ⟨inner, shape⟩ := encoded.braced
    rw [shape] at whole
    cases (append_singleton_inj.mp whole).2
    cases boundary
  obtain ⟨next, rest, rfl⟩ := exists_cons_of_ne_nil more
  have seen := encoded.visible begun (by simp) []
  rw [append_nil] at seen
  rw [keptLines_plain inside (.inr boundary) (encoded.ne_of_mem member).2, readLines, seen,
    if_neg Bool.false_ne_true, encoded.unfinished _ begun proper]
  constructor
  · intro read
    cases (if_neg fun last => keptLines_ne_nil last.1).symm.trans read
  · intro unbroken
    exact absurd (unbroken character (by simp) boundary) (encoded.ne_of_mem member).1

/-- One whole line, and what is read behind it. -/
theorem readLines_complete (inside : Plain line.text) (back : Chars) :
    readLines loads index (keptLines (line.text ++ ['\n'] ++ back)) =
      (readLines loads (index + 1) (keptLines back)).map (.prepend line.value) := by
  rw [append_assoc, singleton_append, keptLines_plain inside (.inr rfl) (by decide), readLines,
    encoded.visible (prefix_refl _) encoded.ne_nil, if_neg Bool.false_ne_true, encoded.readsEnded]
  exact if_pos encoded.isObject

/-- The last line, whose newline is missing or which is not complete. -/
theorem readLines_last (begun : front ++ [character] <+: line.text) (inside : Plain front) (rest : List Line) :
    readLines loads index (keptLines (front ++ [character])) =
      .ok (recordsWithin (line :: rest) (size (front ++ [character]))) := by
  have unended := encoded.ne_of_mem (begun.subset (mem_append_right front mem_cons_self))
  have seen := encoded.visible begun (by simp) []
  rw [append_nil] at seen
  rw [keptLines_plain inside (.inl rfl) unended.2, readLines, seen, if_neg Bool.false_ne_true, recordsWithin]
  by_cases whole : front ++ [character] = line.text
  · rw [whole, encoded.reads, if_neg (Nat.lt_irrefl _), if_pos rfl]
    exact if_pos encoded.isObject
  · have shorter := size_lt begun whole
    have something : 0 < size (front ++ [character]) := size_pos (by simp)
    rw [encoded.unfinished _ begun whole, if_neg (Nat.lt_asymm shorter), if_neg (Nat.ne_of_lt shorter),
      decide_eq_true (Nat.ne_of_gt something), getLast?_concat]
    exact if_pos ⟨rfl, by simpa using unended.1, by simpa using unended.2⟩

end Encoded

theorem begins {rest : List Line} (begun : text <+: content (line :: rest)) :
    (∃ back, text = line.text ++ ['\n'] ++ back ∧ back <+: content rest) ∨ text <+: line.text := by
  rw [content, flatMap_cons, ← content] at begun
  rcases prefix_or_prefix_of_prefix begun (prefix_append _ _) with short | ⟨back, rfl⟩
  · rcases prefix_concat_iff.mp short with rfl | short
    · exact .inl ⟨[], (append_nil _).symm, nil_prefix⟩
    · exact .inr short
  · exact .inl ⟨back, rfl, (prefix_append_right_inj _).mp begun⟩

theorem map_prepend_eq_ok {result : Except ReadError Read} {value : Json} {later : Read} :
    result.map (Read.prepend value) = .ok (Read.prepend value later) ↔ result = .ok later := by
  cases result with
  | error raised => simp [Except.map]
  | ok found => simp [Except.map, Read.prepend, Prod.ext_iff]

theorem readLines_exact_iff (encoded : ∀ line ∈ written, Encoded loads line) (begun : text <+: content written)
    (index : Nat) :
    readLines loads index (keptLines text) = .ok (recordsWithin written (size text)) ↔ Unbroken text := by
  induction written generalizing text index with
  | nil =>
    cases prefix_nil.mp begun
    exact ⟨fun _ => unbroken_nil, fun _ => rfl⟩
  | cons line rest ih =>
    obtain ⟨first, others⟩ := forall_mem_cons.mp encoded
    rcases begins begun with ⟨back, rfl, later⟩ | within
    · by_cases inside : Plain line.text
      · have whole : size (line.text ++ ['\n'] ++ back) = size line.text + 1 + size back := by
          rw [size_append, size_append]
          rfl
        rw [first.readLines_complete inside, recordsWithin, whole, if_pos (by omega), Nat.add_sub_cancel_left,
          map_prepend_eq_ok, ih others later, unbroken_append inside]
      · obtain ⟨front, character, more, whole, boundary, plain⟩ := exists_break inside
        generalize recordsWithin _ _ = exact
        rw [whole, append_assoc, append_assoc, cons_append]
        exact first.broken_iff ⟨more, by simp [whole]⟩ boundary plain (by simp) exact
    · rcases eq_nil_or_concat text with rfl | ⟨front, last, rfl⟩
      · have missing := (size_pos first.ne_nil).ne
        exact ⟨fun _ => unbroken_nil,
          fun _ => congrArg Except.ok ((if_neg (Nat.not_lt_zero _)).trans (if_neg missing)).symm⟩
      · rw [concat_eq_append] at within ⊢
        by_cases inside : Plain front
        · exact ⟨fun _ => .of_plain inside, fun _ => first.readLines_last within inside rest⟩
        · obtain ⟨front, character, more, rfl, boundary, plain⟩ := exists_break inside
          generalize recordsWithin _ _ = exact
          rw [append_assoc, cons_append] at within ⊢
          exact first.broken_iff (.trans ⟨more ++ [last], by simp⟩ within) boundary plain (by simp) exact

theorem noReturn (encoded : ∀ line ∈ written, Encoded loads line) (begun : text <+: content written) :
    '\r' ∉ text := by
  intro member
  obtain ⟨line, listed, found⟩ := mem_flatMap.mp (begun.subset member)
  rcases mem_append.mp found with found | found
  · exact ((encoded line listed).ne_of_mem found).2 rfl
  · exact absurd (mem_singleton.mp found) (by decide)

theorem fileBytes_eq : fileBytes written = (content written).utf8Encode := String.toByteArray_ofList

/-- What the bytes are decoded to. -/
theorem decoded_iff (within : cut ≤ (fileBytes written).size) (text : Chars) :
    ((fileBytes written).extract 0 cut).utf8Decode? = some text.toArray ↔
      text <+: content written ∧ size text = cut := by
  constructor
  · intro decoded
    obtain ⟨characters, spelled⟩ := ByteArray.isSome_utf8Decode?_iff.mp (Option.isSome_of_eq_some decoded)
    rw [spelled, utf8Decode?_utf8Encode] at decoded
    obtain rfl : characters = text := by simpa using decoded
    have parts := ByteArray.extract_eq_extract_append_extract (a := fileBytes written) cut (Nat.zero_le _) within
    rw [spelled, ByteArray.extract_zero_size, fileBytes_eq] at parts
    refine ⟨isPrefix_of_utf8Encode_append_eq_utf8Encode _ parts.symm, ?_⟩
    rw [← size_utf8Encode, ← spelled, ByteArray.size_extract]
    omega
  · rintro ⟨⟨back, split⟩, reached⟩
    rw [fileBytes_eq, ← split, utf8Encode_append, ByteArray.extract_append_eq_left, utf8Decode?_utf8Encode]
    rw [size_utf8Encode, reached]

theorem kept_iff {records : Read} (found : records.1 ≠ []) {result : Except ReadError Read} :
    (result >>= fun read => if read.1 = [] then .error .noRecords else .ok read) = .ok records ↔
      result = .ok records := by
  constructor
  · intro kept
    obtain ⟨read, same, kept⟩ := bind_eq_ok.mp kept
    split at kept
    · cases kept
    · rw [same, ← kept]
  · rintro rfl
    exact if_neg found

/-- The reader is exact at the cuts that fall between two characters and take no line apart, and at no others. -/
theorem session_exact_iff (written : List Line) (cut : Nat) (encoded : ∀ line ∈ written, Encoded loads line)
    (within : cut ≤ (fileBytes written).size) (complete : ∃ first ∈ written.head?, size first.text < cut) :
    readSession loads ((fileBytes written).extract 0 cut) = .ok (recordsWithin written cut) ↔
      Legible written cut := by
  have found : (recordsWithin written cut).1 ≠ [] := by
    obtain ⟨first, leading, reached⟩ := complete
    obtain ⟨rest, rfl⟩ := head?_eq_some_iff.mp leading
    rw [recordsWithin, if_pos reached]
    exact cons_ne_nil _ _
  have unique := decoded_iff within
  unfold readSession readText
  cases decoded : ((fileBytes written).extract 0 cut).utf8Decode? with
  | none =>
    constructor
    · intro read
      cases read
    · rintro ⟨text, begun, reached, _⟩
      cases decoded.symm.trans ((unique text).mpr ⟨begun, reached⟩)
  | some characters =>
    obtain ⟨begun, reached⟩ := (unique characters.toList).mp decoded
    have exact := readLines_exact_iff encoded begun 1
    rw [reached] at exact
    change (readLines loads 1 (keptLines (universalNewlines false characters.toList)) >>= _) = _ ↔ _
    rw [universalNewlines_of_noReturn (noReturn encoded begun), kept_iff found, exact]
    constructor
    · exact fun unbroken => ⟨_, begun, reached, unbroken⟩
    · rintro ⟨text, begun', reached', unbroken⟩
      cases decoded.symm.trans ((unique text).mpr ⟨begun', reached'⟩)
      exact unbroken

def lineSeparator : Char := Char.ofNat 0x2028

def sampleLines : List Line :=
  [⟨['{', '}'], .objEnd⟩,
    ⟨['{', '"', lineSeparator, '"', ':', '0', '}'], .obj [(String.singleton lineSeparator, .int 0)]⟩]

def sampleLoads (text : Chars) : Option Json :=
  (sampleLines.find? fun line => text == line.text || text == line.text ++ ['\n']).map (·.value)

theorem sampleLines_encoded : ∀ line ∈ sampleLines, Encoded sampleLoads line := by
  have unfinished : ∀ line ∈ sampleLines, ∀ front ∈ line.text.inits, front ≠ line.text → sampleLoads front = none := by
    decide
  intro line member
  have cut := fun front begun => unfinished line member front ((mem_inits _ _).mpr begun)
  rcases mem_pair.mp member with rfl | rfl
  · exact ⟨⟨[], rfl⟩, by simp, rfl, rfl, rfl, cut⟩
  · exact ⟨⟨['"', lineSeparator, '"', ':', '0'], rfl⟩, by simp [lineSeparator], rfl, rfl, rfl, cut⟩

theorem fileBytes_size : (fileBytes written).size = size (content written) := by
  rw [fileBytes_eq, size_utf8Encode]

theorem session_exact_sample :
    readSession sampleLoads ((fileBytes sampleLines).extract 0 4) = .ok (recordsWithin sampleLines 4) ↔
      Legible sampleLines 4 :=
  session_exact_iff sampleLines 4 sampleLines_encoded (by rw [fileBytes_size]; decide) ⟨_, rfl, by decide⟩

/-- A file that is complete, of which a line is reported as malformed. -/
theorem separator_malformed :
    (∀ line ∈ sampleLines, Encoded sampleLoads line) ∧
      recordsWithin sampleLines (fileBytes sampleLines).size = (sampleLines.map (·.value), false) ∧
      readSession sampleLoads (fileBytes sampleLines) = .error (.malformed 2) := by
  refine ⟨sampleLines_encoded, ?_, ?_⟩
  · rw [fileBytes_size]
    decide
  · unfold readSession readText
    rw [fileBytes_eq, utf8Decode?_utf8Encode]
    decide

end WorkOrchestration.Native.SessionReader
