import Mathlib.Data.List.Basic
import Mathlib.Data.List.TakeWhile
import Mathlib.Tactic.Common

/-!
# Text operations

The string operations that validators and identifier parsers use, with the
character class of Unicode white space fixed once.  A string is nonempty here
when something is left after trimming.
-/

namespace WorkOrchestration.Lib.Text

open List

/-- The code points that `str.strip` and `str.split` treat as white space. -/
def isSpace (character : Char) : Bool :=
  let code := character.toNat
  (9 ≤ code && code ≤ 13) || (28 ≤ code && code ≤ 32) || code == 0x85 || code == 0xA0 ||
    code == 0x1680 || (0x2000 ≤ code && code ≤ 0x200A) || code == 0x2028 || code == 0x2029 ||
    code == 0x202F || code == 0x205F || code == 0x3000

def strip (text : String) : String :=
  String.ofList (((text.toList.dropWhile isSpace).reverse.dropWhile isSpace).reverse)

/-- `bool(text.strip())`. -/
def Nonempty (text : String) : Prop := ∃ character ∈ text.toList, isSpace character = false

-- named, as a search over all characters would be found first
instance (text : String) : Decidable (Nonempty text) :=
  List.decidableBEx (fun character => isSpace character = false) text.toList

variable {text : String}

theorem Nonempty.append_right (nonempty : Nonempty text) (suffix : String) :
    Nonempty (text ++ suffix) := by
  obtain ⟨character, member, visible⟩ := nonempty
  exact ⟨character, by simp [member], visible⟩

theorem Nonempty.ne_empty (nonempty : Nonempty text) : text ≠ "" := by
  rintro rfl
  obtain ⟨_, member, _⟩ := nonempty
  simp at member

theorem mem_dropWhile_of_visible {characters : List Char} {character : Char}
    (member : character ∈ characters) (visible : isSpace character = false) :
    character ∈ characters.dropWhile isSpace := by
  induction characters with
  | nil => cases member
  | cons first rest ih =>
    by_cases space : isSpace first = true
    · rw [dropWhile_cons_of_pos space]
      rcases mem_cons.mp member with rfl | later
      · rw [space] at visible
        cases visible
      · exact ih later
    · rw [dropWhile_cons_of_neg space]
      exact member

theorem Nonempty.strip (nonempty : Nonempty text) : Nonempty (strip text) := by
  obtain ⟨character, member, visible⟩ := nonempty
  refine ⟨character, ?_, visible⟩
  have inner := mem_dropWhile_of_visible member visible
  have outer := mem_dropWhile_of_visible (mem_reverse.mpr inner) visible
  simpa [Text.strip] using outer

theorem dropWhile_dropWhile (characters : List Char) :
    (characters.dropWhile isSpace).dropWhile isSpace = characters.dropWhile isSpace := by
  induction characters with
  | nil => rfl
  | cons first rest ih =>
    by_cases space : isSpace first = true
    · rw [dropWhile_cons_of_pos space, ih]
    · rw [dropWhile_cons_of_neg space, dropWhile_cons_of_neg space]

/-- Text trimmed in front stays trimmed in front when its end is trimmed. -/
theorem dropWhile_reverse_trim (characters : List Char)
    (trimmed : characters.dropWhile isSpace = characters) :
    ((characters.reverse.dropWhile isSpace).reverse).dropWhile isSpace =
      (characters.reverse.dropWhile isSpace).reverse := by
  cases characters with
  | nil => rfl
  | cons first rest =>
    have visible : ¬ isSpace first = true := by
      intro space
      rw [dropWhile_cons_of_pos space] at trimmed
      have shorter := (dropWhile_suffix isSpace (l := rest)).length_le
      rw [trimmed, length_cons] at shorter
      omega
    have suffix := dropWhile_suffix isSpace (l := (first :: rest).reverse)
    obtain ⟨front, split⟩ := suffix
    have flipped := congrArg List.reverse split
    simp only [reverse_append, reverse_reverse] at flipped
    cases ends : ((first :: rest).reverse.dropWhile isSpace).reverse with
    | nil => rfl
    | cons other tail =>
      rw [ends] at flipped
      have same : other = first := (List.cons.inj flipped).1
      rw [same, dropWhile_cons_of_neg visible]

/-- Trimming is idempotent. -/
@[simp]
theorem strip_strip (text : String) : strip (strip text) = strip text := by
  unfold strip
  have inner := dropWhile_reverse_trim _ (dropWhile_dropWhile text.toList)
  simp only [String.toList_ofList]
  rw [inner, reverse_reverse, dropWhile_dropWhile]

/-- `text.removeprefix(front)`. -/
def removePrefix (front text : String) : String :=
  if front.toList.isPrefixOf text.toList then
    String.ofList (text.toList.drop front.toList.length)
  else text

@[simp]
theorem removePrefix_append (front text : String) : removePrefix front (front ++ text) = text := by
  simp [removePrefix]

/-- `text.partition(":")[0]`. -/
def beforeColon (text : String) : String := String.ofList (text.toList.takeWhile (· != ':'))

/-- `text.lower()`, exact for every text whose lower case is spelled in ASCII. -/
def lower (text : String) : String :=
  String.ofList (text.toList.map fun character =>
    if character.toNat = 0x212A then 'k' else character.toLower)

/-- `text.replace(before, after)` for single characters. -/
def replaceChar (before after : Char) (text : String) : String :=
  String.ofList (text.toList.map fun character => if character = before then after else character)

/-- `text.split()`. -/
def words (text : String) : List String :=
  ((text.toList.splitOnP isSpace).filter (· ≠ [])).map String.ofList

/-- `separator.join(texts)`. -/
def joinWith (separator : String) (texts : List String) : String :=
  String.intercalate separator texts

theorem solid_of_all (all : text.toList.all (!isSpace ·) = true) :
    ∀ character ∈ text.toList, isSpace character = false := by
  intro character member
  simpa using all_eq_true.mp all character member

section

variable (solid : ∀ character ∈ text.toList, isSpace character = false)

include solid

theorem strip_of_solid : strip text = text := by
  have front : text.toList.dropWhile isSpace = text.toList :=
    dropWhile_eq_self_iff.mpr fun nonempty => by simp [solid]
  have back : text.toList.reverse.dropWhile isSpace = text.toList.reverse :=
    dropWhile_eq_self_iff.mpr fun nonempty => by simp [solid]
  rw [strip, front, back, reverse_reverse, String.ofList_toList]

theorem words_of_solid (nonempty : text ≠ "") : words text = [text] := by
  have whole : text.toList.splitOnP isSpace = [text.toList] := splitOnP_eq_singleton solid
  have visible : text.toList ≠ [] := by simpa using nonempty
  rw [words, whole]
  simp [visible]

end

theorem nonempty_strip_of_ne (left : strip text ≠ "") : Nonempty (strip text) := by
  cases trimmed : ((text.toList.dropWhile isSpace).reverse.dropWhile isSpace) with
  | nil =>
    have empty : strip text = "" := by rw [strip, trimmed]; rfl
    exact absurd empty left
  | cons last front =>
    have visible := head?_dropWhile_not isSpace (text.toList.dropWhile isSpace).reverse
    rw [trimmed] at visible
    refine ⟨last, ?_, by simpa using visible⟩
    simp [strip, trimmed]

theorem exists_splitOnP_ne_nil {characters : List Char} {character : Char}
    (member : character ∈ characters) (visible : isSpace character = false) :
    ∃ word ∈ characters.splitOnP isSpace, word ≠ [] := by
  induction characters with
  | nil => cases member
  | cons first rest ih =>
    rw [splitOnP_cons_eq_if_modifyHead]
    by_cases space : isSpace first = true
    · rcases mem_cons.mp member with rfl | later
      · rw [space] at visible
        cases visible
      · obtain ⟨word, inside, nonempty⟩ := ih later
        exact ⟨word, by simp [space, inside], nonempty⟩
    · cases words : rest.splitOnP isSpace with
      | nil => exact absurd words (splitOnP_ne_nil isSpace rest)
      | cons word words => exact ⟨first :: word, by simp [space], cons_ne_nil _ _⟩

theorem joinWith_ne_empty {separator word : String} (words : List String) (nonempty : word ≠ "") :
    joinWith separator (word :: words) ≠ "" := by
  unfold joinWith
  cases words with
  | nil => simpa using nonempty
  | cons next rest =>
    simp [nonempty]

theorem joinWith_words_ne_empty {separator : String} (nonempty : Nonempty text) :
    joinWith separator (words text) ≠ "" := by
  obtain ⟨character, member, visible⟩ := nonempty
  obtain ⟨word, inside, nonempty⟩ := exists_splitOnP_ne_nil member visible
  have kept : word ∈ (text.toList.splitOnP isSpace).filter (· ≠ []) := by simp [inside, nonempty]
  unfold words
  cases filtered : (text.toList.splitOnP isSpace).filter (· ≠ []) with
  | nil =>
    rw [filtered] at kept
    cases kept
  | cons first rest =>
    have first_mem : first ∈ (text.toList.splitOnP isSpace).filter (· ≠ []) := by
      rw [filtered]
      exact mem_cons_self
    have visible : first ≠ [] := by simpa using (mem_filter.mp first_mem).2
    apply joinWith_ne_empty
    simpa using visible

/-- A text in which something is visible, as identifiers are required to be. -/
structure Name where
  text : String
  visible : Nonempty text
  deriving DecidableEq

def Name.append (name : Name) (suffix : String) : Name :=
  ⟨name.text ++ suffix, name.visible.append_right suffix⟩

@[simp]
theorem Name.append_text (name : Name) (suffix : String) :
    (name.append suffix).text = name.text ++ suffix :=
  rfl

theorem Name.text_injective {left right : Name} (same : left.text = right.text) : left = right := by
  cases left
  cases same
  rfl

end WorkOrchestration.Lib.Text
