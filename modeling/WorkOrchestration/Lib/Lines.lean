import Mathlib.Data.List.Flatten
import WorkOrchestration.Lib.Text

/-!
# Lines of a text

Texts as lists of characters, trimmed and taken apart into lines the way `strip` and `splitlines` do.
A text that is put together line by line is taken apart into the same lines.
-/

namespace WorkOrchestration.Lib.Lines

open List

open Text (isSpace)

abbrev Chars := List Char

def trimEnd (text : Chars) : Chars := (text.reverse.dropWhile isSpace).reverse

/-- `text.strip()`. -/
def trim (text : Chars) : Chars := trimEnd (text.dropWhile isSpace)

/-- Nothing to trim, and something there. -/
structure Tight (text : Chars) : Prop where
  nonempty : text ≠ []
  first : ∀ character ∈ text.head?, isSpace character = false
  last : ∀ character ∈ text.getLast?, isSpace character = false

variable {text : Chars}

theorem trimEnd_of_last (last : ∀ character ∈ text.getLast?, isSpace character = false) :
    trimEnd text = text := by
  unfold trimEnd
  cases flipped : text.reverse with
  | nil => exact (reverse_eq_nil_iff.mp flipped).symm
  | cons ending front =>
    have visible := last ending (by rw [getLast?_eq_head?_reverse, flipped]; rfl)
    rw [dropWhile_cons_of_neg (by simp [visible]), ← flipped, reverse_reverse]

theorem Tight.trim (tight : Tight text) : trim text = text := by
  have front : text.dropWhile isSpace = text := by
    obtain ⟨first, rest, rfl⟩ := exists_cons_of_ne_nil tight.nonempty
    have visible := tight.first first rfl
    exact dropWhile_cons_of_neg (by simp [visible])
  unfold Lines.trim
  rw [front]
  exact trimEnd_of_last tight.last

variable {character : Char}

theorem trim_cons_space (space : isSpace character = true) (text : Chars) :
    trim (character :: text) = trim text := by
  unfold trim
  rw [dropWhile_cons_of_pos space]

theorem trimEnd_isPrefix (text : Chars) : trimEnd text <+: text := by
  obtain ⟨front, whole⟩ := dropWhile_suffix isSpace (l := text.reverse)
  refine ⟨front.reverse, ?_⟩
  unfold trimEnd
  rw [← reverse_append, whole, reverse_reverse]

theorem trim_cons_visible (visible : isSpace character = false) (text : Chars) :
    trim (character :: text) = trimEnd (character :: text) := by
  unfold trim
  rw [dropWhile_cons_of_neg (by simp [visible])]

theorem trimEnd_concat_space (space : isSpace character = true) (text : Chars) :
    trimEnd (text ++ [character]) = trimEnd text := by
  unfold trimEnd
  rw [reverse_append, reverse_singleton, singleton_append, dropWhile_cons_of_pos space]

theorem tight_trim (left : trim text ≠ []) : Tight (trim text) := by
  refine ⟨left, ?_, ?_⟩
  · intro character first
    obtain ⟨back, split⟩ := trimEnd_isPrefix (text.dropWhile isSpace)
    have leading : (text.dropWhile isSpace).head? = some character := by
      rw [← split, head?_append]
      change (Option.or (trim text).head? _) = _
      rw [Option.mem_def.mp first]
      rfl
    have visible := head?_dropWhile_not isSpace text
    rw [leading] at visible
    simpa using visible
  · intro character last
    unfold trim trimEnd at last
    rw [getLast?_reverse] at last
    have visible := head?_dropWhile_not isSpace (text.dropWhile isSpace).reverse
    rw [Option.mem_def.mp last] at visible
    simpa using visible

/-- The characters at which `str.splitlines` splits. -/
def isBoundary (character : Char) : Bool :=
  let code := character.toNat
  (10 ≤ code && code ≤ 13) || (28 ≤ code && code ≤ 30) || code == 0x85 || code == 0x2028 ||
    code == 0x2029

theorem isSpace_of_isBoundary (boundary : isBoundary character = true) :
    isSpace character = true := by
  unfold isBoundary at boundary
  unfold isSpace
  simp only [Bool.or_eq_true, Bool.and_eq_true, decide_eq_true_eq, beq_iff_eq] at boundary ⊢
  omega

/-- `splitlines` behind a carriage return, with which a line feed makes one boundary, or elsewhere. -/
def splitLinesFrom (afterReturn : Bool) : Chars → List Chars
  | [] => []
  | character :: rest =>
    if afterReturn && character == '\n' then splitLinesFrom false rest
    else if isBoundary character then [] :: splitLinesFrom (character == '\r') rest
    else
      match splitLinesFrom false rest with
      | [] => [[character]]
      | line :: lines => (character :: line) :: lines

/-- `text.splitlines()`. -/
def splitLines (text : Chars) : List Chars := splitLinesFrom false text

/-- `text.splitlines(keepends=True)`. -/
def keptLines : Chars → List Chars
  | [] => []
  | character :: rest =>
    if isBoundary character && !(character == '\r' && rest.head? == some '\n') then
      [character] :: keptLines rest
    else
      match keptLines rest with
      | [] => [[character]]
      | line :: lines => (character :: line) :: lines

theorem splitLines_ne_nil {rest : Chars} : splitLinesFrom false (character :: rest) ≠ [] := by
  unfold splitLinesFrom
  rw [Bool.false_and, if_neg Bool.false_ne_true]
  split
  · exact cons_ne_nil _ _
  · split
    · exact cons_ne_nil _ _
    · exact cons_ne_nil _ _

theorem splitLines_of_line (nonempty : text ≠ []) (line : ∀ character ∈ text, isBoundary character = false) :
    splitLines text = [text] := by
  unfold splitLines
  induction text with
  | nil => exact absurd rfl nonempty
  | cons character rest ih =>
    have inside := line character mem_cons_self
    unfold splitLinesFrom
    rw [Bool.false_and, if_neg Bool.false_ne_true, if_neg (by simp [inside])]
    cases rest with
    | nil => rfl
    | cons next rest =>
      rw [ih (cons_ne_nil _ _) (forall_mem_cons.mp line).2]

/-- The text does not end in the middle of a boundary. -/
def Closed (text : Chars) : Prop := ∀ character ∈ text.getLast?, isBoundary character = false

theorem Closed.of_cons {next : Char} {rest : Chars} (closed : Closed (character :: next :: rest)) :
    Closed (next :: rest) := by
  intro last found
  exact closed last (by rwa [getLast?_cons_cons])

theorem splitLinesFrom_append (closed : Closed text) (nonempty : text ≠ []) (afterReturn : Bool)
    (back : Chars) :
    splitLinesFrom afterReturn (text ++ '\n' :: back) =
      splitLinesFrom afterReturn text ++ splitLines back := by
  induction text generalizing afterReturn with
  | nil => exact absurd rfl nonempty
  | cons character rest ih =>
    rw [cons_append]
    cases rest with
    | nil =>
      have inside : isBoundary character = false := closed character rfl
      have other : (character == '\n') = false := by
        cases same : character == '\n' with
        | false => rfl
        | true =>
          rw [beq_iff_eq.mp same] at inside
          cases inside
      simp only [splitLinesFrom, other, Bool.and_false, Bool.false_eq_true, if_false, inside,
        nil_append]
      rfl
    | cons next rest =>
      have inner := closed.of_cons
      have later := fun behind => ih inner (cons_ne_nil _ _) behind
      unfold splitLinesFrom
      split
      · exact later false
      · split
        · rw [later, cons_append]
        · rw [later]
          cases lines : splitLinesFrom false (next :: rest) with
          | nil => exact absurd lines splitLines_ne_nil
          | cons line lines => rfl

theorem Tight.closed (tight : Tight text) : Closed text := by
  intro character last
  cases boundary : isBoundary character with
  | false => rfl
  | true =>
    have visible := tight.last character last
    rw [isSpace_of_isBoundary boundary] at visible
    cases visible

theorem closed_of_line (line : ∀ character ∈ text, isBoundary character = false) : Closed text :=
  fun character last => line character (mem_of_getLast? last)

theorem line_append {first second : Chars} (left : ∀ character ∈ first, isBoundary character = false)
    (right : ∀ character ∈ second, isBoundary character = false) :
    ∀ character ∈ first ++ second, isBoundary character = false := by
  intro character member
  rcases mem_append.mp member with member | member
  · exact left character member
  · exact right character member

theorem line_toList {characters : Chars} (plain : characters.all (!isBoundary ·) = true) :
    ∀ character ∈ (String.ofList characters).toList, isBoundary character = false := by
  rw [String.toList_ofList]
  intro character member
  simpa using all_eq_true.mp plain character member

theorem tight_toList {characters : Chars}
    (checked : (characters.head?.any (!isSpace ·) && characters.getLast?.any (!isSpace ·)) = true) :
    Tight (String.ofList characters).toList := by
  rw [String.toList_ofList]
  rw [Bool.and_eq_true, Option.any_eq_true, Option.any_eq_true] at checked
  obtain ⟨⟨first, found, visible⟩, last, ending, seen⟩ := checked
  refine ⟨?_, ?_, ?_⟩
  · rintro rfl
    cases found
  · intro character here
    cases found.symm.trans here
    simpa using visible
  · intro character here
    cases ending.symm.trans here
    simpa using seen

/-- The lines that an entry of a list of lines is read back as. -/
def pieces (entry : Chars) : List Chars := if entry = [] then [[]] else splitLines entry

theorem pieces_of_line (line : ∀ character ∈ text, isBoundary character = false) :
    pieces text = [text] := by
  unfold pieces
  split
  · rename_i empty
    rw [empty]
  · rename_i nonempty
    exact splitLines_of_line nonempty line

theorem splitLines_flatMap {entries : List Chars} (closed : ∀ entry ∈ entries, Closed entry) :
    splitLines (entries.flatMap (· ++ ['\n'])) = entries.flatMap pieces := by
  induction entries with
  | nil => rfl
  | cons entry rest ih =>
    have others := ih (forall_mem_cons.mp closed).2
    rw [flatMap_cons, flatMap_cons, ← others, append_assoc, singleton_append]
    unfold pieces
    split
    · rename_i empty
      rw [empty]
      rfl
    · rename_i nonempty
      exact splitLinesFrom_append (closed entry mem_cons_self) nonempty false _

/-- `"\n".join(lines)`. -/
def joinLines (lines : List Chars) : Chars := List.intercalate ['\n'] lines

theorem joinLines_concat_nil (lines : List Chars) :
    joinLines (lines ++ [[]]) = lines.flatMap (· ++ ['\n']) := by
  unfold joinLines
  induction lines with
  | nil => rfl
  | cons line rest ih =>
    have more : rest ++ [[]] ≠ [] := by simp
    obtain ⟨next, others, whole⟩ := exists_cons_of_ne_nil more
    rw [flatMap_cons, ← ih, cons_append, whole, intercalate_cons_cons]

theorem joinLines_singleton (line : Chars) : joinLines [line] = line := intercalate_singleton

theorem joinLines_cons_cons (line next : Chars) (rest : List Chars) :
    joinLines (line :: next :: rest) = line ++ '\n' :: joinLines (next :: rest) := by
  unfold joinLines
  rw [intercalate_cons_cons, append_assoc, singleton_append]

theorem joinLines_ne_nil {line : Chars} (nonempty : line ≠ []) (rest : List Chars) :
    joinLines (line :: rest) ≠ [] := by
  cases rest with
  | nil =>
    rw [joinLines_singleton]
    exact nonempty
  | cons next rest =>
    exact append_ne_nil_of_right_ne_nil _ (cons_ne_nil _ _)

/-- A text of one line that says something. -/
structure OneLine (text : Chars) : Prop where
  nonempty : text ≠ []
  line : ∀ character ∈ text, isBoundary character = false

theorem Closed.append {front back : Chars} (closed : Closed back) (nonempty : back ≠ []) :
    Closed (front ++ back) := by
  intro character last
  rw [getLast?_append_of_ne_nil _ nonempty] at last
  exact closed character last

theorem closed_joinLines {lines : List Chars} (each : ∀ line ∈ lines, OneLine line) :
    Closed (joinLines lines) := by
  induction lines with
  | nil => exact fun _ absent => absurd absent (by simp [joinLines])
  | cons line rest ih =>
    cases rest with
    | nil =>
      rw [joinLines_singleton]
      exact closed_of_line (each line mem_cons_self).line
    | cons next rest =>
      have others := ih (forall_mem_cons.mp each).2
      have nonempty := joinLines_ne_nil (each next (by simp)).nonempty rest
      rw [joinLines_cons_cons, ← singleton_append, ← append_assoc]
      exact others.append nonempty

theorem pieces_joinLines {line : Chars} {rest : List Chars} (each : ∀ other ∈ line :: rest, OneLine other) :
    pieces (joinLines (line :: rest)) = line :: rest := by
  induction rest generalizing line with
  | nil =>
    rw [joinLines_singleton]
    exact pieces_of_line (each line mem_cons_self).line
  | cons next rest ih =>
    have first := each line mem_cons_self
    have later := ih (forall_mem_cons.mp each).2
    have more := joinLines_ne_nil (each next (by simp)).nonempty rest
    unfold pieces at later ⊢
    rw [if_neg more] at later
    rw [if_neg (joinLines_ne_nil first.nonempty _), joinLines_cons_cons]
    unfold splitLines at later ⊢
    rw [splitLinesFrom_append (closed_of_line first.line) first.nonempty, splitLines, later]
    exact congrArg (· ++ next :: rest) (splitLines_of_line first.nonempty first.line)

end WorkOrchestration.Lib.Lines
