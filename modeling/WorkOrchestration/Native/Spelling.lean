import WorkOrchestration.Native.Artifacts

/-!
# Spelled digests

One way of spelling digests that never spells two of them alike: every part of
the document that a digest names says where it ends.
-/

namespace WorkOrchestration.Native.Artifacts

namespace Json

def spellText : List Char → List Char
  | [] => ['.']
  | character :: rest => '+' :: character :: spellText rest

def spellNat : Nat → List Char
  | 0 => ['.']
  | value + 1 => '+' :: spellNat value

def spellInt : Int → List Char
  | .ofNat value => '+' :: spellNat value
  | .negSucc value => '-' :: spellNat value

/-- A value, written so that its end can be seen. -/
def spell : Json → List Char
  | null => ['n']
  | bool value => 'b' :: spellNat value.toNat
  | int value => '#' :: spellInt value
  | ratio numerator denominator => '/' :: (spellInt numerator ++ spellNat denominator)
  | str text => '"' :: spellText text.toList
  | arrEnd => [']']
  | item head tail => '[' :: (spell head ++ spell tail)
  | objEnd => ['}']
  | field key value rest => '{' :: (spellText key.toList ++ (spell value ++ spell rest))
  | sha256 preimage => '<' :: spell preimage
  | bytes text => '(' :: spellText text.toList
  | foreign typeName => '?' :: spellText typeName.toList

variable {more other : List Char}

theorem spellText_append {left right : List Char}
    (same : spellText left ++ more = spellText right ++ other) : left = right ∧ more = other := by
  induction left generalizing right with
  | nil =>
    cases right with
    | nil => exact ⟨rfl, by simpa [spellText] using same⟩
    | cons character rest => simp [spellText] at same
  | cons character rest ih =>
    cases right with
    | nil => simp [spellText] at same
    | cons first later =>
      simp only [spellText, List.cons_append, List.cons.injEq, true_and] at same
      obtain ⟨rest, behind⟩ := ih same.2
      exact ⟨by rw [same.1, rest], behind⟩

theorem spellNat_append {left right : Nat} (same : spellNat left ++ more = spellNat right ++ other) :
    left = right ∧ more = other := by
  induction left generalizing right with
  | zero =>
    cases right with
    | zero => exact ⟨rfl, by simpa [spellNat] using same⟩
    | succ later => simp [spellNat] at same
  | succ value ih =>
    cases right with
    | zero => simp [spellNat] at same
    | succ later =>
      simp only [spellNat, List.cons_append, List.cons.injEq, true_and] at same
      obtain ⟨level, behind⟩ := ih same
      exact ⟨by rw [level], behind⟩

theorem spellInt_append {left right : Int} (same : spellInt left ++ more = spellInt right ++ other) :
    left = right ∧ more = other := by
  cases left <;> cases right <;> simp [spellInt] at same
  · obtain ⟨level, behind⟩ := spellNat_append same
    exact ⟨by rw [level], behind⟩
  · obtain ⟨level, behind⟩ := spellNat_append same
    exact ⟨by rw [level], behind⟩

theorem spell_append {left right : Json} (same : spell left ++ more = spell right ++ other) :
    left = right ∧ more = other := by
  induction left generalizing right more other with
  | null | arrEnd | objEnd =>
    cases right <;> simp [spell] at same
    exact ⟨rfl, same⟩
  | bool value =>
    cases right <;> simp [spell] at same
    rename_i found
    obtain ⟨level, behind⟩ := spellNat_append same
    exact ⟨congrArg bool (by cases value <;> cases found <;> first | rfl | cases level), behind⟩
  | int value =>
    cases right <;> simp [spell] at same
    exact (spellInt_append same).imp_left (congrArg int)
  | ratio numerator denominator =>
    cases right <;> simp [spell] at same
    obtain ⟨top, below⟩ := spellInt_append same
    obtain ⟨bottom, behind⟩ := spellNat_append below
    exact ⟨by rw [top, bottom], behind⟩
  | str | bytes | foreign =>
    cases right <;> simp [spell] at same
    obtain ⟨letters, behind⟩ := spellText_append same
    exact ⟨by rw [String.toList_injective letters], behind⟩
  | item head tail ihHead ihTail =>
    cases right <;> simp [spell] at same
    obtain ⟨first, later⟩ := ihHead same
    obtain ⟨rest, behind⟩ := ihTail later
    exact ⟨by rw [first, rest], behind⟩
  | field key value rest ihValue ihRest =>
    cases right <;> simp [spell] at same
    obtain ⟨letters, after⟩ := spellText_append same
    obtain ⟨first, later⟩ := ihValue after
    obtain ⟨others, behind⟩ := ihRest later
    exact ⟨by rw [String.toList_injective letters, first, others], behind⟩
  | sha256 preimage ih =>
    cases right <;> simp [spell] at same
    exact (ih same).imp_left (congrArg sha256)

theorem spell_injective : Function.Injective spell := by
  intro left right same
  have ends : spell left ++ [] = spell right ++ [] := congrArg (· ++ []) same
  exact (spell_append ends).1

end Json

def Digest.spelling (digest : Digest) : List Char := digest.preimage.spell

theorem Digest.spelling_injective : Function.Injective Digest.spelling := by
  intro left right same
  have preimage := Json.spell_injective same
  exact congrArg Digest.mk preimage

end WorkOrchestration.Native.Artifacts
