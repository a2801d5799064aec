import Mathlib.Algebra.Order.Group.Nat
import Mathlib.Algebra.Ring.Nat
import WorkOrchestration.Returns.Sections

/-!
# Returns that are read back

A return that is written section by section is read back as written exactly when no line of its bodies is
read as a header or a fence. For one direction visible characters are counted: a line that is read as a
header loses some of them for good.
-/

namespace WorkOrchestration.Returns.SectionReading

open List Lib.Lines
open Lib.Text (isSpace)
open Sections

variable {line name value text : Chars} {lines : List Chars} {reader : Reader}

/-- The line is neither a header nor a fence. -/
def Ordinary (line : Chars) : Prop := isFence line = false ∧ parseReturnHeader line = none

instance (line : Chars) : Decidable (Ordinary line) := inferInstanceAs (Decidable (_ ∧ _))

/-! ## Visible characters -/

def weight (text : Chars) : Nat := text.countP (!isSpace ·)

theorem weight_append (first second : Chars) : weight (first ++ second) = weight first + weight second :=
  countP_append

theorem weight_cons_space {character : Char} (space : isSpace character = true) (text : Chars) :
    weight (character :: text) = weight text :=
  countP_cons_of_neg (by simp [space])

theorem weight_dropWhile_isSpace (text : Chars) : weight (text.dropWhile isSpace) = weight text := by
  induction text with
  | nil => rfl
  | cons character rest ih =>
    cases space : isSpace character with
    | true => rw [dropWhile_cons_of_pos space, ih, weight_cons_space space]
    | false => rw [dropWhile_cons_of_neg (by simp [space])]

theorem weight_reverse (text : Chars) : weight text.reverse = weight text := countP_reverse

theorem weight_trim (text : Chars) : weight (trim text) = weight text := by
  unfold trim trimEnd
  rw [weight_reverse, weight_dropWhile_isSpace, weight_reverse, weight_dropWhile_isSpace]

theorem weight_dropWhile_le (text : Chars) (p : Char → Bool) : weight (text.dropWhile p) ≤ weight text :=
  (dropWhile_sublist p).countP_le

theorem weight_drop_le (text : Chars) (count : Nat) : weight (text.drop count) ≤ weight text :=
  (drop_sublist count text).countP_le

def weights (lines : List Chars) : Nat := (lines.map weight).sum

theorem weights_append (first second : List Chars) :
    weights (first ++ second) = weights first + weights second := by
  unfold weights
  rw [map_append, sum_append]

theorem weight_joinLines (lines : List Chars) : weight (joinLines lines) = weights lines := by
  unfold joinLines
  induction lines with
  | nil => rfl
  | cons line rest ih =>
    cases rest with
    | nil =>
      rw [intercalate_singleton]
      rfl
    | cons next rest =>
      rw [intercalate_cons_cons, weight_append, weight_append, ih]
      rfl

/-! ## Headers lose visible characters -/

theorem weight_of_head {p : Char → Bool} (visible : ∀ character, p character = true → isSpace character = false)
    (head : text.head?.any p = true) : weight (text.drop 1) < weight text := by
  cases text with
  | nil => cases head
  | cons character rest =>
    have seen := visible character head
    unfold weight
    rw [drop_one, countP_cons_of_pos (by simp [seen])]
    exact Nat.lt_succ_self _

theorem weight_dropWhile_lt {p : Char → Bool}
    (visible : ∀ character, p character = true → isSpace character = false)
    (some : 1 ≤ (text.takeWhile p).length) : weight (text.dropWhile p) < weight text := by
  cases text with
  | nil => cases some
  | cons character rest =>
    by_cases dropped : p character = true
    · have seen := visible character dropped
      have kept := weight_dropWhile_le rest p
      have counted : weight (character :: rest) = weight rest + 1 :=
        countP_cons_of_pos (by simp [seen])
      rw [dropWhile_cons_of_pos dropped]
      omega
    · rw [takeWhile_cons_of_neg dropped] at some
      cases some

theorem visible_of_eq {expected : Char} (visible : isSpace expected = false) (character : Char)
    (same : (character == expected) = true) : isSpace character = false := by
  rw [beq_iff_eq.mp same]
  exact visible

variable {label : Chars}

theorem hashHeader_weight (found : hashHeader line = some (label, value)) :
    weight value < weight line := by
  unfold hashHeader at found
  simp only at found
  split at found
  · rename_i guard
    have fewer : weight ((line.dropWhile isSpace).dropWhile (· == '#')) < weight line := by
      rw [← weight_dropWhile_isSpace line]
      exact weight_dropWhile_lt (visible_of_eq rfl) guard.2.1
    generalize (line.dropWhile isSpace).dropWhile (· == '#') = after at found fewer
    split at found
    · split at found
      · cases found
        exact Nat.lt_of_le_of_lt (Nat.zero_le _) fewer
      · cases found
    · rename_i first rest visible
      cases found
      have step : weight (first :: rest) ≤ weight after := by
        rw [← visible, weight_dropWhile_isSpace]
      have inner : weight rest ≤ weight (first :: rest) := (sublist_cons_self first rest).countP_le
      rw [weight_trim]
      have dropped := weight_drop_le (rest.dropWhile (· != ':')) 1
      have front := weight_dropWhile_le rest (· != ':')
      omega
  · cases found

theorem weight_getD_bullet (text : Chars) : weight ((bullet? text).getD text) ≤ weight text := by
  unfold bullet?
  split
  · rename_i mark rest
    split
    · rw [Option.getD_some, weight_dropWhile_isSpace]
      exact (sublist_cons_self mark rest).countP_le
    · exact Nat.le_refl _
  · exact Nat.le_refl _

theorem weight_boldMark (marked : boldMarks.contains (text.take 2) = true) :
    weight (text.drop 2) < weight text := by
  have whole := weight_append (text.take 2) (text.drop 2)
  rw [take_append_drop] at whole
  have mark : weight (text.take 2) = 2 := by
    have either : text.take 2 = ['*', '*'] ∨ text.take 2 = ['_', '_'] := by
      simpa [boldMarks] using marked
    rcases either with same | same
    · rw [same]
      decide
    · rw [same]
      decide
  omega

theorem boldHeader_weight (found : boldHeader line = some (label, value)) :
    weight value < weight line := by
  unfold boldHeader at found
  simp only at found
  split at found
  · rename_i guard
    obtain ⟨opening, -, -⟩ := guard
    injection found with pair
    injection pair with _ same
    subst same
    have first := weight_boldMark opening
    have start := weight_getD_bullet (line.dropWhile isSpace)
    rw [weight_dropWhile_isSpace] at start
    generalize (bullet? (line.dropWhile isSpace)).getD (line.dropWhile isSpace) = marked at first start ⊢
    generalize closed : ((marked.drop 2).dropWhile fun character => character != '*' && character != '_') = closing
    have inside : weight closing ≤ weight (marked.drop 2) := by
      rw [← closed]
      exact weight_dropWhile_le _ _
    have behind := weight_drop_le closing 2
    rw [weight_trim]
    have trimmed := weight_dropWhile_isSpace (closing.drop 2)
    split
    · have dropped := weight_drop_le ((closing.drop 2).dropWhile isSpace) 1
      omega
    · omega
  · cases found

theorem labelHeader_weight (found : labelHeader line = some (label, value)) :
    weight value < weight line := by
  unfold labelHeader at found
  split at found
  · cases found
  · rename_i first rest text
    simp only at found
    split at found
    · rename_i guard
      obtain ⟨-, -, colon⟩ := guard
      cases found
      have inner : weight rest ≤ weight line := by
        rw [← weight_dropWhile_isSpace line, text]
        exact (sublist_cons_self first rest).countP_le
      have later := weight_dropWhile_le rest isLabelChar
      have spaces := weight_dropWhile_isSpace (rest.dropWhile isLabelChar)
      have fewer : weight (((rest.dropWhile isLabelChar).dropWhile isSpace).drop 1) <
          weight ((rest.dropWhile isLabelChar).dropWhile isSpace) := by
        exact weight_of_head (@visible_of_eq ':' rfl) (by rw [colon]; rfl)
      rw [weight_trim]
      omega
    · cases found

theorem namedSection_some {found : Option (Chars × Chars)} (named : namedSection found = some (name, value)) :
    ∃ label, found = some (label, value) := by
  unfold namedSection at named
  rcases found with _ | ⟨label, text⟩
  · cases named
  · cases canonical : canonicalReturnSection label with
    | none =>
      simp only [Option.bind_eq_bind, Option.bind_some, canonical, Option.bind_none] at named
      cases named
    | some target =>
      simp only [Option.bind_eq_bind, Option.bind_some, canonical] at named
      cases named
      exact ⟨label, rfl⟩

theorem namedSection_of_canonical (canonical : canonicalReturnSection label = some name) :
    namedSection (some (label, value)) = some (name, value) := by
  unfold namedSection
  simp only [Option.bind_eq_bind, Option.bind_some, canonical]
  rfl

theorem parseReturnHeader_weight (found : parseReturnHeader line = some (name, value)) :
    weight value < weight line := by
  unfold parseReturnHeader at found
  rw [Option.or_eq_some_iff, Option.or_eq_some_iff] at found
  rcases found with (hash | ⟨-, bold⟩) | ⟨-, label⟩
  · obtain ⟨_, found⟩ := namedSection_some hash
    exact hashHeader_weight found
  · obtain ⟨_, found⟩ := namedSection_some bold
    exact boldHeader_weight found
  · obtain ⟨_, found⟩ := namedSection_some label
    exact labelHeader_weight found

/-! ## Steps of the reader -/

theorem keep_inFence (reader : Reader) (line : Chars) : (reader.keep line).inFence = reader.inFence := by
  unfold Reader.keep
  cases reader.current <;> rfl

theorem take_ordinary (ordinary : Ordinary line) (outside : reader.inFence = false) :
    reader.take line = reader.keep line := by
  unfold Reader.take
  rw [ordinary.1, if_neg Bool.false_ne_true, outside, if_neg Bool.false_ne_true, ordinary.2]

theorem take_header (unfenced : isFence line = false) (outside : reader.inFence = false)
    (header : parseReturnHeader line = some (name, value)) :
    reader.take line = ⟨reader.close, some name, if value = [] then [] else [value], false⟩ := by
  unfold Reader.take
  rw [unfenced, if_neg Bool.false_ne_true, outside, if_neg Bool.false_ne_true, header]

theorem take_fence (fence : isFence line = true) : (reader.take line).inFence = !reader.inFence := by
  unfold Reader.take
  rw [fence, if_pos rfl]

theorem take_outside (unfenced : isFence line = false) (outside : reader.inFence = false) :
    (reader.take line).inFence = false := by
  cases header : parseReturnHeader line with
  | none => rw [take_ordinary ⟨unfenced, header⟩ outside, keep_inFence, outside]
  | some entry => rw [take_header unfenced outside header]

theorem ordinary_nil : Ordinary [] := by decide +kernel

/-- No fence is open at any point of the reading. -/
def NeverFenced (lines : List Chars) : Prop :=
  ∀ front, front <+: lines → (front.foldl Reader.take .start).inFence = false

theorem fold_outside (unfenced : ∀ line ∈ lines, isFence line = false) (outside : reader.inFence = false) :
    (lines.foldl Reader.take reader).inFence = false := by
  induction lines generalizing reader with
  | nil => exact outside
  | cons line rest ih =>
    exact ih (forall_mem_cons.mp unfenced).2 (take_outside (unfenced line mem_cons_self) outside)

theorem neverFenced_iff : NeverFenced lines ↔ ∀ line ∈ lines, isFence line = false := by
  constructor
  · intro never line member
    obtain ⟨front, back, rfl⟩ := append_of_mem member
    cases fence : isFence line with
    | false => rfl
    | true =>
      have before := never front (prefix_append _ _)
      have after := never (front ++ [line]) ⟨back, by simp⟩
      rw [foldl_append, foldl_cons, foldl_nil, take_fence fence, before] at after
      cases after
  · intro unfenced front split
    exact fold_outside (fun line member => unfenced line (split.subset member)) rfl

/-! ## Storing values -/

def stored (sections : List (Chars × Chars)) : Nat := weights (sections.map Prod.snd)

theorem stored_cons (entry : Chars × Chars) (rest : List (Chars × Chars)) :
    stored (entry :: rest) = weight entry.2 + stored rest := by
  unfold stored weights
  rw [map_cons, map_cons, sum_cons]

theorem stored_store (sections : List (Chars × Chars)) (name value : Chars) :
    stored (store sections name value) = stored (store sections name []) + weight value := by
  induction sections with
  | nil =>
    exact Nat.add_comm _ _
  | cons entry rest ih =>
    unfold store
    by_cases same : entry.1 = name
    · rw [if_pos same, if_pos same, stored_cons, Nat.add_comm]
      exact congrArg (· + weight value) (Nat.zero_add _).symm
    · rw [if_neg same, if_neg same, stored_cons, stored_cons]
      omega

theorem stored_store_nil_le (sections : List (Chars × Chars)) (name : Chars) :
    stored (store sections name []) ≤ stored sections := by
  induction sections with
  | nil => exact Nat.le_refl _
  | cons entry rest ih =>
    unfold store
    by_cases same : entry.1 = name
    · rw [if_pos same, stored_cons]
      exact Nat.add_le_add_right (Nat.zero_le _) _
    · rw [if_neg same, stored_cons]
      exact Nat.add_le_add_left ih _

theorem store_of_fresh {sections : List (Chars × Chars)} (fresh : name ∉ sections.map Prod.fst) :
    store sections name value = sections ++ [(name, value)] := by
  induction sections with
  | nil => rfl
  | cons entry rest ih =>
    rw [map_cons, mem_cons, not_or] at fresh
    unfold store
    rw [if_neg (Ne.symm fresh.1), ih fresh.2, cons_append]

/-! ## What one line adds -/

/-- The visible characters that the reader can keep of a line. -/
def allowance (line : Chars) : Nat :=
  match parseReturnHeader line with
  | some (_, value) => weight value
  | none => weight line

theorem allowance_le (line : Chars) : allowance line ≤ weight line := by
  unfold allowance
  split
  · rename_i _ value header
    exact Nat.le_of_lt (parseReturnHeader_weight header)
  · exact Nat.le_refl _

theorem close_keep (reader : Reader) (line : Chars) :
    stored (reader.keep line).close ≤ stored reader.close + weight line := by
  unfold Reader.keep Reader.close
  cases current : reader.current with
  | none => exact (congrArg (stored · ≤ _) (by rw [current])).mpr (Nat.le_add_right _ _)
  | some name =>
    rw [stored_store, stored_store _ _ (trim (joinLines reader.buffer)), weight_trim, weight_trim,
      weight_joinLines, weight_joinLines, weights_append, Nat.add_assoc]
    exact Nat.le_refl _

theorem take_allowance (unfenced : isFence line = false) (outside : reader.inFence = false) :
    stored (reader.take line).close ≤ stored reader.close + allowance line := by
  unfold allowance
  cases header : parseReturnHeader line with
  | none =>
    rw [take_ordinary ⟨unfenced, header⟩ outside]
    exact close_keep reader line
  | some entry =>
    obtain ⟨name, value⟩ := entry
    rw [take_header unfenced outside header]
    change stored (store reader.close name (trim (joinLines (if value = [] then [] else [value])))) ≤ _
    have buffered : weights (if value = [] then [] else [value]) = weight value := by
      by_cases empty : value = []
      · rw [empty]
        rfl
      · rw [if_neg empty]
        exact Nat.add_zero _
    rw [stored_store, weight_trim, weight_joinLines, buffered]
    exact Nat.add_le_add_right (stored_store_nil_le _ _) _

theorem fold_allowance (unfenced : ∀ line ∈ lines, isFence line = false) (outside : reader.inFence = false) :
    stored (lines.foldl Reader.take reader).close ≤ stored reader.close + (lines.map allowance).sum := by
  induction lines generalizing reader with
  | nil => exact Nat.le_refl _
  | cons line rest ih =>
    have plain := unfenced line mem_cons_self
    have later := ih (forall_mem_cons.mp unfenced).2 (take_outside plain outside)
    have now := take_allowance plain outside
    rw [foldl_cons, map_cons, sum_cons]
    omega

/-! ## Returns written section by section -/

variable {part : Section} {parts : List Section}

theorem named_of_canonical (tight : Tight name) (plain : ':' ∉ name)
    (canonical : canonicalReturnSection name = some name) :
    parseReturnHeader (heading name) = some (name, []) := by
  obtain ⟨first, rest, rfl⟩ := exists_cons_of_ne_nil tight.nonempty
  have visible : isSpace first = false := tight.first first rfl
  rw [mem_cons, not_or] at plain
  have through : ∀ character ∈ rest, (character != ':') = true := by
    intro character member
    rw [bne_iff_ne]
    rintro rfl
    exact plain.2 member
  have after : (' ' :: first :: rest).dropWhile isSpace = first :: rest := by
    rw [dropWhile_cons_of_pos (by decide), dropWhile_cons_of_neg (by simp [visible])]
  have found : hashHeader (heading (first :: rest)) = some (first :: rest, []) := by
    unfold hashHeader heading
    have front : ('#' :: '#' :: ' ' :: first :: rest).dropWhile isSpace =
        '#' :: '#' :: ' ' :: first :: rest := rfl
    have behind : ('#' :: '#' :: ' ' :: first :: rest).dropWhile (· == '#') = ' ' :: first :: rest := rfl
    have none_before : ('#' :: '#' :: ' ' :: first :: rest).takeWhile isSpace = [] := rfl
    have hashes : ('#' :: '#' :: ' ' :: first :: rest).takeWhile (· == '#') = ['#', '#'] := rfl
    simp only [front, behind, none_before, hashes, after]
    rw [if_pos ⟨by decide, by decide, by decide, rfl⟩, takeWhile_eq_self_iff.mpr through,
      dropWhile_eq_nil_iff.mpr through, tight.trim]
    rfl
  unfold parseReturnHeader
  rw [found, namedSection_of_canonical canonical]
  rfl

theorem heading_unfenced (name : Chars) : isFence (heading name) = false := rfl

theorem trim_concat_space {character : Char} (space : isSpace character = true) (text : Chars) :
    trim (text ++ [character]) = trim text := by
  unfold trim
  rw [dropWhile_append]
  split
  · rename_i empty
    rw [dropWhile_cons_of_pos space, isEmpty_iff.mp empty]
    rfl
  · exact trimEnd_concat_space space _

theorem trim_joinLines_concat (lines : List Chars) :
    trim (joinLines (lines ++ [[]])) = trim (joinLines lines) := by
  rcases lines.eq_nil_or_concat with rfl | ⟨front, last, rfl⟩
  · rfl
  · have whole : joinLines (front ++ [last] ++ [[]]) = joinLines (front ++ [last]) ++ ['\n'] := by
      rw [joinLines_concat_nil]
      unfold joinLines
      induction front with
      | nil => simp
      | cons line rest ih =>
        obtain ⟨next, others, same⟩ := exists_cons_of_ne_nil (show rest ++ [last] ≠ [] by simp)
        rw [cons_append, flatMap_cons, ih, same]
        simp
    rw [concat_eq_append, whole]
    exact trim_concat_space (by decide) _

theorem close_keep_nil (reader : Reader) : (reader.keep []).close = reader.close := by
  unfold Reader.keep
  cases current : reader.current with
  | none => rfl
  | some name =>
    unfold Reader.close
    rw [current]
    exact congrArg _ (trim_joinLines_concat reader.buffer)

theorem fold_body (ordinary : ∀ line ∈ lines, Ordinary line) (sections : List (Chars × Chars)) (name : Chars)
    (buffer : List Chars) :
    lines.foldl Reader.take ⟨sections, some name, buffer, false⟩ =
      ⟨sections, some name, buffer ++ lines, false⟩ := by
  induction lines generalizing buffer with
  | nil => rw [append_nil, foldl_nil]
  | cons line rest ih =>
    rw [foldl_cons, take_ordinary (ordinary line mem_cons_self) rfl]
    refine (ih (forall_mem_cons.mp ordinary).2 _).trans ?_
    rw [append_assoc, singleton_append]

theorem fold_section (named : part.Named) (ordinary : ∀ line ∈ part.body, Ordinary line)
    (outside : reader.inFence = false) :
    part.lines.foldl Reader.take reader = ⟨reader.close, some part.name, part.body, false⟩ := by
  unfold Section.lines
  rw [foldl_cons, foldl_cons, take_ordinary ordinary_nil outside,
    take_header (heading_unfenced _) (by rw [keep_inFence, outside]) named, close_keep_nil]
  exact fold_body ordinary _ _ []

theorem fold_sections (named : ∀ part ∈ parts, part.Named)
    (ordinary : ∀ part ∈ parts, ∀ line ∈ part.body, Ordinary line) (outside : reader.inFence = false)
    (distinct : (reader.close.map Prod.fst ++ parts.map Section.name).Nodup) :
    ((parts.flatMap Section.lines).foldl Reader.take reader).close = reader.close ++ written parts := by
  induction parts generalizing reader with
  | nil => exact (append_nil _).symm
  | cons part rest ih =>
    have fresh : part.name ∉ reader.close.map Prod.fst := by
      rw [nodup_append] at distinct
      intro member
      exact distinct.2.2 _ member part.name mem_cons_self rfl
    rw [flatMap_cons, foldl_append,
      fold_section (named part mem_cons_self) (ordinary part mem_cons_self) outside]
    have closed : Reader.close ⟨reader.close, some part.name, part.body, false⟩ =
        reader.close ++ [(part.name, part.value)] := store_of_fresh fresh
    rw [ih (forall_mem_cons.mp named).2 (forall_mem_cons.mp ordinary).2 rfl, closed]
    · rw [append_assoc]
      rfl
    · rw [closed, map_append, append_assoc]
      exact distinct

theorem fold_writtenLines (parts : List Section) :
    (writtenLines parts).foldl Reader.take .start = (parts.flatMap Section.lines).foldl Reader.take .start := by
  cases parts with
  | nil => rfl
  | cons part rest =>
    rfl

/-! ## Exactly the sections that were written -/

theorem ordinary_of_weights {bodies : List Chars} (unfenced : ∀ line ∈ bodies, isFence line = false)
    (enough : weights bodies ≤ (bodies.map allowance).sum) : ∀ line ∈ bodies, Ordinary line := by
  intro line member
  refine ⟨unfenced line member, ?_⟩
  obtain ⟨front, back, rfl⟩ := append_of_mem member
  have bounded : ∀ lines : List Chars, (lines.map allowance).sum ≤ weights lines := by
    intro lines
    induction lines with
    | nil => exact Nat.le_refl _
    | cons line rest ih =>
      exact Nat.add_le_add (allowance_le line) ih
  cases header : parseReturnHeader line with
  | none => rfl
  | some entry =>
    have lost : allowance line < weight line := by
      unfold allowance
      rw [header]
      exact parseReturnHeader_weight header
    have before := bounded front
    have behind := bounded back
    have middle : weights (line :: back) = weight line + weights back := sum_cons
    rw [weights_append, map_append, sum_append, map_cons, sum_cons] at enough
    omega

theorem allowance_lines (named : ∀ part ∈ parts, part.Named) :
    ((parts.flatMap Section.lines).map allowance).sum =
      ((parts.flatMap Section.body).map allowance).sum := by
  induction parts with
  | nil => rfl
  | cons part rest ih =>
    have head : allowance (heading part.name) = 0 := by
      unfold allowance
      rw [named part mem_cons_self]
      rfl
    have gap : allowance [] = 0 := by
      rfl
    rw [flatMap_cons, flatMap_cons, map_append, map_append, sum_append,
      sum_append, ih (forall_mem_cons.mp named).2]
    unfold Section.lines
    rw [map_cons, map_cons, sum_cons, sum_cons, head, gap, Nat.zero_add, Nat.zero_add]

theorem stored_written (parts : List Section) : stored (written parts) = weights (parts.flatMap Section.body) := by
  induction parts with
  | nil => rfl
  | cons part rest ih =>
    have front : weight part.value = weights part.body := by
      unfold Section.value
      rw [weight_trim, weight_joinLines]
    rw [flatMap_cons, weights_append, ← ih, ← front]
    exact stored_cons _ _

theorem mem_writtenLines {part : Section} (member : part ∈ parts) (inside : line ∈ part.body) :
    line ∈ writtenLines parts := by
  obtain ⟨first, rest, rfl⟩ := exists_cons_of_ne_nil (ne_nil_of_mem member)
  rcases mem_cons.mp member with rfl | later
  · exact mem_append_left _ (mem_cons_of_mem _ inside)
  · refine mem_append_right _ (mem_flatMap.mpr ⟨part, later, ?_⟩)
    exact mem_cons_of_mem _ (mem_cons_of_mem _ inside)

theorem unfenced_of_bodies (unfenced : ∀ part ∈ parts, ∀ line ∈ part.body, isFence line = false) :
    ∀ line ∈ parts.flatMap Section.lines, isFence line = false := by
  intro line member
  obtain ⟨part, inside, here⟩ := mem_flatMap.mp member
  rcases mem_cons.mp here with rfl | here
  · exact ordinary_nil.1
  · rcases mem_cons.mp here with rfl | here
    · exact heading_unfenced _
    · exact unfenced part inside line here

/-- What is read is what was written, and never inside a fence, exactly if all bodies are ordinary. -/
theorem reads_iff (named : ∀ part ∈ parts, part.Named) (distinct : (parts.map Section.name).Nodup) :
    (((writtenLines parts).foldl Reader.take .start).close = written parts ∧ NeverFenced (writtenLines parts)) ↔
      ∀ part ∈ parts, ∀ line ∈ part.body, Ordinary line := by
  constructor
  · rintro ⟨same, never⟩ part member line inside
    rw [neverFenced_iff] at never
    have unfenced : ∀ line ∈ parts.flatMap Section.body, isFence line = false := by
      intro line member
      obtain ⟨part, member, inside⟩ := mem_flatMap.mp member
      exact never line (mem_writtenLines member inside)
    have kept := @fold_allowance (parts.flatMap Section.lines) .start
      (unfenced_of_bodies fun part member line inside => never line (mem_writtenLines member inside)) rfl
    rw [← fold_writtenLines, same, stored_written, allowance_lines named] at kept
    exact ordinary_of_weights unfenced (kept.trans_eq (Nat.zero_add _)) line
      (mem_flatMap.mpr ⟨part, member, inside⟩)
  · intro ordinary
    refine ⟨?_, ?_⟩
    · rw [fold_writtenLines, fold_sections named ordinary rfl]
      · rfl
      · exact distinct
    · rw [neverFenced_iff]
      intro line member
      exact unfenced_of_bodies (fun part inside line here => (ordinary part inside line here).1) line
        (mem_of_mem_tail member)

/-! ## The names of the repository's sections -/

def Spelled (names : List String) (texts : List Chars) : Prop := names.map String.toList = texts

theorem Spelled.nil : Spelled [] [] := rfl

theorem Spelled.cons {characters : Chars} {names : List String} {texts : List Chars}
    (rest : Spelled names texts) : Spelled (String.ofList characters :: names) (characters :: texts) := by
  unfold Spelled at rest ⊢
  rw [map_cons, String.toList_ofList, rest]

def SpelledPairs (pairs : List (String × String)) (texts : List (Chars × Chars)) : Prop :=
  pairs.map (fun entry => (entry.1.toList, entry.2.toList)) = texts

theorem SpelledPairs.nil : SpelledPairs [] [] := rfl

theorem SpelledPairs.cons {first second : Chars} {pairs : List (String × String)}
    {texts : List (Chars × Chars)} (rest : SpelledPairs pairs texts) :
    SpelledPairs ((String.ofList first, String.ofList second) :: pairs) ((first, second) :: texts) := by
  unfold SpelledPairs at rest ⊢
  rw [map_cons, String.toList_ofList, String.toList_ofList, rest]

/-- What a table of names and aliases knows a label as. -/
def known (names : List Chars) (aliases : List (Chars × Chars)) (label : Chars) : Option Chars :=
  ((names.map (fun name => (sectionLookupKey name, name)) ++
    aliases.map fun entry => (sectionLookupKey entry.1, entry.2)).reverse.find?
      (·.1 == sectionLookupKey label)).map Prod.snd

theorem canonical_eq_known {required controls : List Chars} {aliases : List (Chars × Chars)}
    (first : Spelled contractorReturnRequiredSections required)
    (second : Spelled returnControlSections controls) (third : SpelledPairs policyAliases aliases)
    (label : Chars) : canonicalReturnSection label = known (required ++ controls) aliases label := by
  unfold canonicalReturnSection returnSectionAliases known
  rw [← first, ← second, ← third, map_append, map_append, map_map, map_map, map_map]
  rfl

def unnamed : List Chars := [['a', 'p', 'p', 'r', 'o', 'v', 'e'], ['r', 'e', 'v', 'i', 's', 'e'],
  ['r', 'e', 'j', 'e', 'c', 't']]

/-- The required names are read as themselves, and the words in front of a summary as no name. -/
structure NamesRead (required : List Chars) : Prop where
  canonical : ∀ name ∈ required, canonicalReturnSection name = some name
  tight : ∀ name ∈ required, Tight name
  plain : ∀ name ∈ required, ':' ∉ name
  line : ∀ name ∈ required, ∀ character ∈ name, isBoundary character = false
  distinct : required.Nodup
  others : ∀ label ∈ unnamed, canonicalReturnSection label = none

def readsNames (required controls : List Chars) (aliases : List (Chars × Chars)) : Bool :=
  required.all (fun name => known (required ++ controls) aliases name == some name &&
      (name.head?.any (!isSpace ·) && name.getLast?.any (!isSpace ·)) && !name.contains ':' &&
      name.all (!isBoundary ·)) &&
    decide required.Nodup && unnamed.all fun label => (known (required ++ controls) aliases label).isNone

theorem namesRead_of_spelled {required controls : List Chars} {aliases : List (Chars × Chars)}
    (first : Spelled contractorReturnRequiredSections required)
    (second : Spelled returnControlSections controls) (third : SpelledPairs policyAliases aliases)
    (checked : readsNames required controls aliases = true) :
    NamesRead (contractorReturnRequiredSections.map String.toList) := by
  unfold readsNames at checked
  simp only [← canonical_eq_known first second third] at checked
  rw [Bool.and_eq_true, Bool.and_eq_true, all_eq_true, decide_eq_true_eq, all_eq_true] at checked
  obtain ⟨⟨each, distinct⟩, others⟩ := checked
  rw [show contractorReturnRequiredSections.map String.toList = required from first]
  have facts : ∀ name ∈ required, canonicalReturnSection name = some name ∧ Tight name ∧ ':' ∉ name ∧
      ∀ character ∈ name, isBoundary character = false := by
    intro name member
    have parts := each name member
    rw [Bool.and_eq_true, Bool.and_eq_true, Bool.and_eq_true, beq_iff_eq] at parts
    have ends := tight_toList parts.1.1.2
    have inside := line_toList parts.2
    rw [String.toList_ofList] at ends inside
    exact ⟨parts.1.1.1, ends, by simpa using parts.1.2, inside⟩
  exact ⟨fun name member => (facts name member).1, fun name member => (facts name member).2.1,
    fun name member => (facts name member).2.2.1, fun name member => (facts name member).2.2.2, distinct,
    fun label member => Option.isNone_iff_eq_none.mp (others label member)⟩

theorem namesRead : NamesRead (contractorReturnRequiredSections.map String.toList) := by
  apply namesRead_of_spelled
  · repeat apply Spelled.cons
    exact Spelled.nil
  · repeat apply Spelled.cons
    exact Spelled.nil
  · repeat apply SpelledPairs.cons
    exact SpelledPairs.nil
  · decide +kernel

theorem named_required (required : name ∈ contractorReturnRequiredSections.map String.toList) :
    parseReturnHeader (heading name) = some (name, []) :=
  named_of_canonical (namesRead.tight name required) (namesRead.plain name required)
    (namesRead.canonical name required)

end WorkOrchestration.Returns.SectionReading
