import Mathlib.Data.List.Induction
import WorkOrchestration.Workgraph.Markdown

/-!
# Reading the Markdown workgraph back

The structured lines of an item are read back as they were written.  The free texts stand between them,
and every line of a free text is read as well.
-/

namespace WorkOrchestration.Workgraph

open List Lib.Lines
open Lib.Text (isSpace)
open Native.Artifacts

/-- A trimmed text on one line without backticks. -/
structure Neat (text : Chars) : Prop extends Tight text where
  line : ∀ character ∈ text, isBoundary character = false
  plain : backtick ∉ text

/-! ## Quoted values -/

theorem codeSpans_plain {span : Option Chars} {character : Char} {rest : Chars}
    (plain : character ≠ backtick) :
    codeSpans span (character :: rest) = codeSpans (span.map (character :: ·)) rest := by
  exact if_neg plain

theorem codeSpans_open (rest : Chars) :
    codeSpans none (backtick :: rest) = codeSpans (some []) rest := rfl

theorem codeSpans_close (last : Char) (front rest : Chars) :
    codeSpans (some (last :: front)) (backtick :: rest) =
      (last :: front).reverse :: codeSpans none rest := rfl

theorem codeSpans_span {value rest span : Chars} (plain : backtick ∉ value) :
    codeSpans (some span) (value ++ rest) = codeSpans (some (value.reverse ++ span)) rest := by
  induction value generalizing span with
  | nil => rfl
  | cons character value ih =>
    rw [mem_cons, not_or] at plain
    rw [cons_append, codeSpans_plain (Ne.symm plain.1), Option.map_some, ih plain.2,
      reverse_cons, append_assoc, singleton_append]

theorem codeSpans_quoted {value rest : Chars} (neat : Neat value) :
    codeSpans none (quoted value ++ rest) = value :: codeSpans none rest := by
  obtain ⟨first, others, flipped⟩ :=
    exists_cons_of_ne_nil (reverse_ne_nil_iff.mpr neat.nonempty)
  have spelled : quoted value ++ rest = backtick :: (value ++ backtick :: rest) := by
    simp [quoted]
  rw [spelled, codeSpans_open, codeSpans_span neat.plain, append_nil, flipped, codeSpans_close,
    ← flipped, reverse_reverse]

variable {values : List Chars}

theorem codeSpans_intercalate (neat : ∀ value ∈ values, Neat value) :
    codeSpans none (List.intercalate ", ".toList (values.map quoted)) = values := by
  induction values with
  | nil => rfl
  | cons value rest ih =>
    have others := ih (forall_mem_cons.mp neat).2
    have first := neat value mem_cons_self
    cases rest with
    | nil =>
      rw [map_singleton, intercalate_singleton, ← append_nil (quoted value),
        codeSpans_quoted first]
      rfl
    | cons next rest =>
      rw [map_cons, map_cons, intercalate_cons_cons, append_assoc,
        codeSpans_quoted first]
      rw [map_cons] at others
      have gap : ∀ text : Chars, codeSpans none (", ".toList ++ text) = codeSpans none text :=
        fun _ => rfl
      rw [gap, others]

theorem tight_quoted (value : Chars) : Tight (quoted value) where
  nonempty := cons_ne_nil _ _
  first := by
    intro character found
    cases found
    rfl
  last := by
    intro character found
    unfold quoted at found
    rw [getLast?_concat] at found
    cases found
    rfl

theorem tight_intercalate (nonempty : values ≠ []) :
    Tight (List.intercalate ", ".toList (values.map quoted)) := by
  induction values with
  | nil => exact absurd rfl nonempty
  | cons value rest ih =>
    cases rest with
    | nil => simpa using tight_quoted value
    | cons next rest =>
      have later := ih (cons_ne_nil _ _)
      rw [map_cons, map_cons, intercalate_cons_cons]
      rw [map_cons] at later
      refine ⟨cons_ne_nil _ _, ?_, ?_⟩
      · intro character found
        cases found
        rfl
      · intro character found
        rw [getLast?_append, getLast?_append,
          getLast?_eq_some_getLast later.nonempty] at found
        exact later.last character (by
          rw [getLast?_eq_some_getLast later.nonempty]
          exact found)

theorem head_intercalate {value : Chars} {rest : List Chars} :
    (List.intercalate ", ".toList ((value :: rest).map quoted)).head? = some backtick := by
  cases rest with
  | nil | cons => rfl

theorem uniqueStringsFrom_of_nodup {seen : List Chars} (tight : ∀ value ∈ values, Tight value)
    (distinct : values.Nodup) (fresh : ∀ value ∈ values, value ∉ seen) :
    uniqueStringsFrom seen values = values := by
  induction values generalizing seen with
  | nil => rfl
  | cons value rest ih =>
    have first := tight value mem_cons_self
    rw [nodup_cons] at distinct
    unfold uniqueStringsFrom
    rw [first.trim, if_neg (by
      rintro (empty | known)
      · exact first.nonempty empty
      · exact fresh value mem_cons_self known)]
    rw [ih (forall_mem_cons.mp tight).2 distinct.2]
    intro other member known
    rcases mem_cons.mp known with rfl | known
    · exact distinct.1 member
    · exact fresh other (mem_cons_of_mem _ member) known

theorem markdownValues_markdownInlineList (neat : ∀ value ∈ values, Neat value)
    (distinct : values.Nodup) : markdownValues (markdownInlineList values) = values := by
  unfold markdownInlineList uniqueStrings
  rw [uniqueStringsFrom_of_nodup (fun value member => (neat value member).toTight) distinct
    fun _ _ => not_mem_nil]
  dsimp only
  split
  · rename_i empty
    rw [empty]
    rfl
  · rename_i nonempty
    obtain ⟨value, rest, whole⟩ := exists_cons_of_ne_nil nonempty
    have unlike : List.intercalate ", ".toList (values.map quoted) ≠ "none".toList := by
      intro same
      have first := congrArg List.head? same
      rw [whole, head_intercalate] at first
      cases first
    unfold markdownValues
    rw [(tight_intercalate nonempty).trim, if_neg unlike, codeSpans_intercalate neat]
    calc
      values.map trim = values.map id :=
        map_congr_left fun value member => (neat value member).trim
      _ = values := map_id values

theorem tight_markdownInlineList (values : List Chars) : Tight (markdownInlineList values) := by
  unfold markdownInlineList
  dsimp only
  split
  · exact tight_toList (by decide)
  · rename_i nonempty
    exact tight_intercalate nonempty

theorem markdownText_quoted {value : Chars} (neat : Neat value) :
    markdownText (quoted value) = value := by
  have one : markdownValues (quoted value) = [value] := by
    have unlike : quoted value ≠ "none".toList := by
      intro same
      cases congrArg List.head? same
    unfold markdownValues
    rw [(tight_quoted value).trim, if_neg unlike, ← append_nil (quoted value),
      codeSpans_quoted neat]
    change [trim value] = [value]
    rw [neat.trim]
  unfold markdownText
  rw [one, intercalate_singleton, if_neg neat.nonempty]

/-! ## Structured lines -/

theorem tight_append {front back : Chars} (tight : Tight back) {character : Char}
    (visible : isSpace character = false) : Tight (character :: front ++ back) where
  nonempty := cons_ne_nil _ _
  first := by
    intro other found
    cases found
    exact visible
  last := by
    intro other found
    rw [getLast?_append, getLast?_eq_some_getLast tight.nonempty] at found
    exact tight.last other (by
      rw [getLast?_eq_some_getLast tight.nonempty]
      exact found)

theorem named_of_colon {mark name value : Chars} (colon : ':' ∉ name) (tightName : Tight name)
    (tightValue : Tight value) :
    named mark (mark ++ (' ' :: name) ++ ':' :: ' ' :: value) = some (name, value) := by
  have free : ∀ character ∈ ' ' :: name, (character != ':') = true := by
    intro character member
    rcases mem_cons.mp member with rfl | member
    · decide
    · exact bne_iff_ne.mpr fun same => colon (same ▸ member)
  have two : 2 ≤ (' ' :: name).length :=
    Nat.succ_le_succ (length_pos_of_ne_nil tightName.nonempty)
  unfold named
  rw [if_pos ( isPrefixOf_iff_prefix.mpr ⟨_, (append_assoc _ _ _).symm⟩), append_assoc,
    drop_left]
  dsimp only
  rw [takeWhile_append_of_pos free, dropWhile_append_of_pos free]
  have stop : List.takeWhile (· != ':') (':' :: ' ' :: value) = [] := rfl
  have rest : (List.dropWhile (· != ':') (':' :: ' ' :: value)).drop 1 = ' ' :: value := rfl
  rw [stop, rest, append_nil, if_pos ⟨two, rfl, cons_ne_nil _ _⟩,
    trim_cons_space rfl, trim_cons_space rfl, tightName.trim, tightValue.trim]

theorem heading_of_title {key title : Chars} (colon : ':' ∉ key) (tightKey : Tight key)
    (tightTitle : Tight title) :
    heading ("### ".toList ++ key ++ ": ".toList ++ title) = some (key, title) := by
  have tight : Tight ("### ".toList ++ key ++ ": ".toList ++ title) :=
    @tight_append ("## ".toList ++ key ++ ": ".toList) title tightTitle '#' rfl
  have spelled : "### ".toList ++ key ++ ": ".toList ++ title =
      "###".toList ++ (' ' :: key) ++ ':' :: ' ' :: title := by simp
  unfold heading
  rw [tight.trim, spelled]
  exact named_of_colon colon tightKey tightTitle

theorem fieldText_eq (name : String) (value : Chars) :
    fieldText name value = "-".toList ++ (' ' :: name.toList) ++ ':' :: ' ' :: value := by
  simp [fieldText]

theorem tight_fieldText (name : String) {value : Chars} (tight : Tight value) :
    Tight (fieldText name value) :=
  @tight_append (" ".toList ++ name.toList ++ ": ".toList) value tight '-' rfl

theorem heading_fieldText (name : String) {value : Chars} (tight : Tight value) :
    heading (fieldText name value) = none := by
  unfold heading
  rw [(tight_fieldText name tight).trim]
  rfl

variable {name : String} {field : Field}

theorem fieldOf_fieldText {value : Chars} (colon : ':' ∉ name.toList)
    (tightName : Tight name.toList) (known : fieldNamed name.toList = some field)
    (tight : Tight value) : fieldOf (fieldText name value) = some (field, value) := by
  have matched : fieldMatch (fieldText name value) = some (name.toList, value) := by
    unfold fieldMatch
    rw [(tight_fieldText name tight).trim, fieldText_eq]
    exact named_of_colon colon tightName tight
  simp [fieldOf, matched, known]

/-! ## Reading lines -/

/-- A line that the reader passes over. -/
def Inert (line : Chars) : Prop := heading line = none ∧ fieldOf line = none

instance (line : Chars) : Decidable (Inert line) := inferInstanceAs (Decidable (_ ∧ _))

variable {current : Option Item} {item : Item} {line : Chars} {lines rest : List Chars}

open Item (readLine)

theorem readLines_inert (inert : Inert line) :
    readLines current (line :: rest) = readLines current rest := by
  have same : current.map (·.readLine line) = current := by
    cases current with
    | none => rfl
    | some item =>
      rw [Option.map_some, readLine, inert.2]
  rw [readLines, inert.1]
  rw [same]

theorem readLines_field {value : Chars} (plain : heading line = none)
    (found : fieldOf line = some (field, value)) :
    readLines (some item) (line :: rest) = readLines (some (item.set field value)) rest := by
  rw [readLines, plain]
  rw [Option.map_some, readLine, found]

theorem readLines_plain (plain : ∀ line ∈ lines, heading line = none) :
    readLines current (lines ++ rest) = readLines (current.map (lines.foldl readLine)) rest := by
  induction lines generalizing current with
  | nil =>
    have same : current.map (List.foldl readLine · []) = current := by cases current <;> rfl
    rw [nil_append, same]
  | cons line lines ih =>
    rw [cons_append, readLines, plain line mem_cons_self]
    rw [ih (forall_mem_cons.mp plain).2, Option.map_map]
    rfl

theorem length_readLines :
    (readLines current lines).length =
      current.toList.length + lines.countP (fun line => (heading line).isSome) := by
  induction lines generalizing current with
  | nil => simp [readLines]
  | cons line lines ih =>
    rw [readLines, countP_cons]
    cases found : heading line with
    | none =>
      rw [ih]
      cases current <;> simp
    | some pair =>
      rw [length_append, ih]
      simp
      omega

def PlanItem.written (item : PlanItem) (index : Nat) : Item where
  id := itemKey item index
  title := itemTitle item index
  status := item.status.getD "open".toList
  labels := item.labels
  type := some (item.type.getD "task".toList)
  lane := some (item.lane.getD "epic".toList)
  dependsOnLanes := some item.dependsOnLanes

/-- What the plan promises of the texts that it writes on structured lines. -/
structure PlanItem.WellFormed (item : PlanItem) (index : Nat) : Prop where
  key : Neat (itemKey item index)
  colon : ':' ∉ itemKey item index
  title : Neat (itemTitle item index)
  type : Neat (item.type.getD "task".toList)
  status : Neat (item.status.getD "open".toList)
  lane : Neat (item.lane.getD "epic".toList)
  labels : ∀ label ∈ item.labels, Neat label
  distinctLabels : item.labels.Nodup
  dependsOnLanes : ∀ lane ∈ item.dependsOnLanes, Neat lane
  distinctLanes : item.dependsOnLanes.Nodup

/-- A name under which a field is written and read. -/
structure Names (name : String) (field : Field) : Prop where
  colon : ':' ∉ name.toList
  tight : Tight name.toList
  known : fieldNamed name.toList = some field

theorem readLines_fieldText (names : Names name field) {value : Chars}
    (tight : Tight value) :
    readLines (some item) (fieldText name value :: rest) =
      readLines (some (item.set field value)) rest :=
  readLines_field (heading_fieldText name tight)
    (fieldOf_fieldText names.colon names.tight names.known tight)

theorem names_type : Names "Type" .type := ⟨by decide, tight_toList (by decide), by decide⟩

theorem names_status : Names "Status" .status :=
  ⟨by decide, tight_toList (by decide), by decide⟩

theorem names_lane : Names "Lane" .lane := ⟨by decide, tight_toList (by decide), by decide⟩

theorem names_labels : Names "Labels" .labels :=
  ⟨by decide, tight_toList (by decide), by decide⟩

theorem names_dependsOnLanes : Names "Depends on lanes" .dependsOnLanes :=
  ⟨by decide, tight_toList (by decide), by decide⟩

variable {item : PlanItem} {index : Nat}

/-- The structured lines start an item and set its fields. -/
theorem readLines_fieldLines (formed : item.WellFormed index) :
    readLines current (fieldLines item index ++ rest) =
      current.toList ++ readLines (some (item.written index)) rest := by
  have started := heading_of_title formed.colon formed.key.toTight formed.title.toTight
  have labels := markdownValues_markdownInlineList formed.labels formed.distinctLabels
  have lanes := markdownValues_markdownInlineList formed.dependsOnLanes formed.distinctLanes
  have blank : Inert [] := by decide
  unfold fieldLines PlanItem.written
  simp only [cons_append, nil_append]
  rw [readLines, started]
  dsimp only
  rw [readLines_inert blank, readLines_fieldText names_type (tight_quoted _),
    readLines_fieldText names_status (tight_quoted _),
    readLines_fieldText names_lane (tight_quoted _),
    readLines_fieldText names_labels (tight_markdownInlineList _),
    readLines_fieldText names_dependsOnLanes (tight_markdownInlineList _)]
  simp only [Item.set, newItem, markdownText_quoted formed.type, markdownText_quoted formed.status,
    markdownText_quoted formed.lane, labels, lanes]

/-! ## Free texts -/

/-- The lines of an item's free texts: its skills, acceptance, design and notes. -/
def freeLines (item : PlanItem) : List Chars :=
  [fieldText "Skills" (markdownInlineList item.skills), markdownBlock item.acceptance,
    markdownBlock item.design, markdownBlock item.notes].flatMap pieces

theorem tight_markdownBlock (value : Option Chars) : Tight (markdownBlock value) := by
  unfold markdownBlock
  dsimp only
  split
  · exact tight_toList (by decide)
  · rename_i left
    exact tight_trim left

theorem readLines_congr {first second : List Chars}
    (same : ∀ current, readLines current first = readLines current second)
    (current : Option Item) (lines : List Chars) :
    readLines current (lines ++ first) = readLines current (lines ++ second) := by
  induction lines generalizing current with
  | nil => exact same current
  | cons line lines ih =>
    rw [cons_append, cons_append, readLines, readLines]
    cases heading line with
    | none => exact ih _
    | some pair => exact congrArg (current.toList ++ ·) (ih _)

theorem readLines_skip {fixed : List Chars} (inert : ∀ line ∈ fixed, Inert line)
    (current : Option Item) : readLines current (fixed ++ rest) = readLines current rest := by
  induction fixed with
  | nil => rfl
  | cons line fixed ih =>
    rw [cons_append, readLines_inert (inert line mem_cons_self)]
    exact ih (forall_mem_cons.mp inert).2

theorem readLines_textLines (current : Option Item) (item : PlanItem) :
    readLines current ((textLines item).flatMap pieces ++ rest) =
      readLines current (freeLines item ++ rest) := by
  have spelled : (textLines item).flatMap pieces ++ rest =
      pieces (fieldText "Skills" (markdownInlineList item.skills)) ++
        ([[], "#### Acceptance".toList, []] ++ (pieces (markdownBlock item.acceptance) ++
          ([[], "#### Design".toList, []] ++ (pieces (markdownBlock item.design) ++
            ([[], "#### Notes".toList, []] ++ (pieces (markdownBlock item.notes) ++
              ([[]] ++ rest))))))) := by
    have one : ∀ line ∈ [[], "#### Acceptance".toList, "#### Design".toList, "#### Notes".toList],
        pieces line = [line] := by decide
    simp only [textLines, flatMap_cons, flatMap_nil, append_assoc,
      one [] (by decide), one "#### Acceptance".toList (by decide),
      one "#### Design".toList (by decide), one "#### Notes".toList (by decide), append_nil,
      cons_append, nil_append]
  have shorter : freeLines item ++ rest =
      pieces (fieldText "Skills" (markdownInlineList item.skills)) ++
        (pieces (markdownBlock item.acceptance) ++ (pieces (markdownBlock item.design) ++
          (pieces (markdownBlock item.notes) ++ rest))) := by
    simp only [freeLines, flatMap_cons, flatMap_nil, append_assoc, append_nil]
  rw [spelled, shorter]
  refine readLines_congr (fun current => ?_) current _
  rw [readLines_skip (by decide)]
  refine readLines_congr (fun current => ?_) current _
  rw [readLines_skip (by decide)]
  refine readLines_congr (fun current => ?_) current _
  rw [readLines_skip (by decide)]
  exact readLines_congr (fun current => readLines_skip (by decide) current) current _

/-! ## The whole file -/

theorem Neat.line_quoted {value : Chars} (neat : Neat value) :
    ∀ character ∈ quoted value, isBoundary character = false := by
  intro character member
  unfold quoted at member
  simp only [cons_append, mem_cons, mem_append, not_mem_nil, or_false] at member
  rcases member with rfl | member | rfl
  · decide
  · exact neat.line character member
  · decide

theorem line_intercalate (neat : ∀ value ∈ values, Neat value) :
    ∀ character ∈ List.intercalate ", ".toList (values.map quoted), isBoundary character = false := by
  induction values with
  | nil => exact fun _ absent => absurd absent not_mem_nil
  | cons value rest ih =>
    have first := (neat value mem_cons_self).line_quoted
    have others := ih (forall_mem_cons.mp neat).2
    cases rest with
    | nil => simpa using first
    | cons next rest =>
      rw [map_cons, map_cons, intercalate_cons_cons]
      exact line_append (line_append first (line_toList (by decide))) others

theorem line_markdownInlineList (neat : ∀ value ∈ values, Neat value) (distinct : values.Nodup) :
    ∀ character ∈ markdownInlineList values, isBoundary character = false := by
  unfold markdownInlineList uniqueStrings
  rw [uniqueStringsFrom_of_nodup (fun value member => (neat value member).toTight) distinct
    fun _ _ => not_mem_nil]
  dsimp only
  split
  · exact line_toList (by decide)
  · exact line_intercalate neat

theorem line_fieldText {value : Chars}
    (plain : ∀ character ∈ name.toList, isBoundary character = false)
    (line : ∀ character ∈ value, isBoundary character = false) :
    ∀ character ∈ fieldText name value, isBoundary character = false :=
  line_append (line_append (line_append (line_toList (by decide)) plain) (line_toList (by decide))) line

theorem line_fieldLines (formed : item.WellFormed index) :
    ∀ entry ∈ fieldLines item index, ∀ character ∈ entry, isBoundary character = false := by
  unfold fieldLines
  simp only [forall_mem_cons, not_mem_nil, false_imp_iff, implies_true, and_true, true_and]
  exact ⟨line_append (line_append (line_append (line_toList (by decide)) formed.key.line)
      (line_toList (by decide))) formed.title.line,
    line_fieldText (line_toList (by decide)) formed.type.line_quoted,
    line_fieldText (line_toList (by decide)) formed.status.line_quoted,
    line_fieldText (line_toList (by decide)) formed.lane.line_quoted,
    line_fieldText (line_toList (by decide)) (line_markdownInlineList formed.labels formed.distinctLabels),
    line_fieldText (line_toList (by decide)) (line_markdownInlineList formed.dependsOnLanes formed.distinctLanes)⟩

theorem closed_textLines (item : PlanItem) : ∀ entry ∈ textLines item, Closed entry := by
  have block := fun value => (tight_markdownBlock value).closed
  have fixed : ∀ entry ∈ [[], "#### Acceptance".toList, "#### Design".toList, "#### Notes".toList],
      Closed entry := by
    intro entry member
    refine closed_of_line ?_
    simp only [mem_cons, not_mem_nil, or_false] at member
    rcases member with rfl | rfl | rfl | rfl
    · exact fun _ absent => absurd absent not_mem_nil
    · exact line_toList (by decide)
    · exact line_toList (by decide)
    · exact line_toList (by decide)
  unfold textLines
  simp only [forall_mem_cons, not_mem_nil, false_imp_iff, implies_true, and_true] at fixed ⊢
  exact ⟨(tight_fieldText _ (tight_markdownInlineList _)).closed, fixed.1, fixed.2.1, fixed.1, block _,
    fixed.1, fixed.2.2.1, fixed.1, block _, fixed.1, fixed.2.2.2, fixed.1, block _, fixed.1⟩

theorem line_introduction :
    ∀ entry ∈ introduction, ∀ character ∈ entry, isBoundary character = false := by
  unfold introduction workgraphFallbackMarker workgraphItemsHeading
  simp only [forall_mem_cons, not_mem_nil, false_imp_iff, implies_true, and_true, true_and]
  exact ⟨line_append (line_append (line_append (line_append (line_append (line_append
      (line_toList (by decide)) (line_toList (by decide))) (line_toList (by decide)))
      (line_toList (by decide))) (line_toList (by decide))) (line_toList (by decide)))
      (line_toList (by decide)),
    line_toList (by decide), line_toList (by decide),
    line_append (line_toList (by decide)) (line_toList (by decide)),
    line_append (line_toList (by decide)) (line_toList (by decide)),
    line_append (line_toList (by decide)) (line_toList (by decide)), line_toList (by decide)⟩

theorem heading_of_other {first : Char} {rest : Chars} (visible : isSpace first = false)
    (other : first ≠ '#') : heading (first :: rest) = none := by
  unfold heading named
  rw [trim_cons_visible visible, if_neg]
  intro front
  obtain ⟨back, split⟩ := ( isPrefixOf_iff_prefix.mp front).trans (trimEnd_isPrefix _)
  exact other (List.cons.inj split).1.symm

theorem heading_toList {first : Char} {characters rest : Chars} (visible : isSpace first = false)
    (other : first ≠ '#') :
    heading ((String.ofList (first :: characters)).toList ++ rest) = none := by
  rw [String.toList_ofList]
  exact heading_of_other visible other

theorem heading_introduction : ∀ line ∈ introduction, heading line = none := by
  unfold introduction
  simp only [forall_mem_cons]
  refine ⟨by decide, ?_, by decide, ?_, by decide, by decide, by decide, ?_, ?_, ?_, by decide,
    by decide, by decide⟩
  · exact @heading_of_other '>' _ (by decide) (by decide)
  · rw [← append_nil (String.toList _)]
    exact heading_toList (by decide) (by decide)
  · exact heading_toList (by decide) (by decide)
  · exact heading_toList (by decide) (by decide)
  · exact heading_toList (by decide) (by decide)

theorem line_preamble {title : Chars} (line : ∀ character ∈ title, isBoundary character = false) :
    ∀ entry ∈ preamble title, ∀ character ∈ entry, isBoundary character = false := by
  intro entry member
  rcases mem_cons.mp member with rfl | member
  · exact line_append (line_toList (by decide)) line
  · exact line_introduction entry member

theorem heading_preamble (title : Chars) : ∀ line ∈ preamble title, heading line = none := by
  intro line member
  rcases mem_cons.mp member with rfl | member
  · unfold heading named
    rw [if_neg]
    intro front
    have whole := ( isPrefixOf_iff_prefix.mp front).trans (trimEnd_isPrefix _)
    obtain ⟨rest, split⟩ := whole
    have second := congrArg (fun text : Chars => text[1]?) split
    cases second
  · exact heading_introduction line member

/-- What the claims about a plan ask of its texts. -/
structure WellFormed (title : Chars) (plan : List PlanItem) : Prop where
  title : ∀ character ∈ title, isBoundary character = false
  items : ∀ entry ∈ plan.zipIdx, entry.1.WellFormed entry.2

/-- What the reader finds of an item. -/
def foundLines (entry : PlanItem × Nat) : List Chars := fieldLines entry.1 entry.2 ++ freeLines entry.1

variable {title : Chars} {plan : List PlanItem}

theorem introduction_ends :
    ∃ front, introduction = front ++ [workgraphItemsHeading] ++ [[]] :=
  ⟨introduction.take 11, rfl⟩

theorem textLines_ends (item : PlanItem) :
    ∃ front, textLines item = front ++ [markdownBlock item.notes] ++ [[]] :=
  ⟨(textLines item).take 12, rfl⟩

theorem planLines_ends (title : Chars) (plan : List PlanItem) :
    ∃ front block, planLines title plan = front ++ [block] ++ [[]] ∧ Tight block := by
  unfold planLines preamble
  cases plan using List.reverseRecOn with
  | nil =>
    obtain ⟨front, whole⟩ := introduction_ends
    refine ⟨("# ".toList ++ title) :: front, workgraphItemsHeading, ?_, tight_toList (by decide)⟩
    rw [zipIdx_nil, flatMap_nil, append_nil, whole, cons_append,
      cons_append]
  | append_singleton items item =>
    obtain ⟨front, whole⟩ := textLines_ends item
    rw [zipIdx_append, flatMap_append, zipIdx_singleton, flatMap_singleton,
      whole, ← append_assoc, ← append_assoc, ← append_assoc, ← append_assoc]
    exact ⟨_, _, rfl, tight_markdownBlock _⟩

theorem closed_planLines (formed : WellFormed title plan) :
    ∀ entry ∈ planLines title plan, Closed entry := by
  intro entry member
  rcases mem_append.mp member with member | member
  · exact closed_of_line (line_preamble formed.title entry member)
  · obtain ⟨item, inside, member⟩ := mem_flatMap.mp member
    rcases mem_append.mp member with member | member
    · exact closed_of_line (line_fieldLines (formed.items item inside) entry member)
    · exact closed_textLines item.1 entry member

theorem flatMap_pieces {entries : List Chars}
    (line : ∀ entry ∈ entries, ∀ character ∈ entry, isBoundary character = false) :
    entries.flatMap pieces = entries := by
  induction entries with
  | nil => rfl
  | cons entry rest ih =>
    rw [flatMap_cons, pieces_of_line (line entry mem_cons_self),
      ih (forall_mem_cons.mp line).2, singleton_append]

theorem markdownWorkgraphPlan_lines (title : Chars) (plan : List PlanItem) :
    ∃ lines, planLines title plan = lines ++ [[]] ∧
      markdownWorkgraphPlan title plan = lines.flatMap (· ++ ['\n']) := by
  obtain ⟨front, block, whole, tight⟩ := planLines_ends title plan
  refine ⟨front ++ [block], whole, ?_⟩
  unfold markdownWorkgraphPlan
  rw [whole, joinLines_concat_nil, flatMap_append, flatMap_singleton,
    ← append_assoc, trimEnd_concat_space (by decide), trimEnd_of_last, append_assoc]
  intro character last
  rw [getLast?_append, getLast?_eq_some_getLast tight.nonempty] at last
  exact tight.last character (by
    rw [getLast?_eq_some_getLast tight.nonempty]
    exact last)

/-- The reader of the file finds the structured lines and the lines of the free texts. -/
theorem readLines_markdownWorkgraphPlan (formed : WellFormed title plan) :
    readLines none (splitLines (markdownWorkgraphPlan title plan)) =
      readLines none (plan.zipIdx.flatMap foundLines) := by
  obtain ⟨lines, whole, text⟩ := markdownWorkgraphPlan_lines title plan
  have closed := closed_planLines formed
  have blank : ∀ current, readLines current ([] : List Chars) = readLines current [[]] :=
    fun current => (readLines_inert (by decide)).symm
  have ended := readLines_congr blank none (lines.flatMap pieces)
  have last : lines.flatMap pieces ++ [[]] = (planLines title plan).flatMap pieces := by
    rw [whole, @flatMap_append _ _ lines [[]]]
    rfl
  rw [append_nil, last] at ended
  rw [text, splitLines_flatMap fun entry member =>
    closed entry (whole ▸ mem_append_left _ member), ended, planLines, flatMap_append,
    flatMap_pieces (line_preamble formed.title), readLines_plain (heading_preamble title),
    Option.map_none]
  have items := formed.items
  generalize plan.zipIdx = entries at items
  generalize (none : Option Item) = current
  induction entries generalizing current with
  | nil => rfl
  | cons entry rest ih =>
    have others := fun current => ih (forall_mem_cons.mp items).2
      current
    rw [flatMap_cons, flatMap_cons, flatMap_append, flatMap_append, foundLines,
      flatMap_pieces (line_fieldLines (items entry mem_cons_self)), append_assoc,
      append_assoc]
    refine readLines_congr (fun current => ?_) current _
    rw [readLines_textLines]
    exact readLines_congr others current _

/-! ## What the free texts change -/

/-- The value of a field as the reader takes it. -/
def Field.reading : Field → Chars → List Chars
  | .labels, value => markdownValues value
  | .type, value => [markdownText value]
  | .status, value => [markdownText value]
  | .lane, value => [markdownText value]
  | .dependsOnLanes, value => markdownValues value

def Item.component (item : Item) : Field → Option (List Chars)
  | .labels => some item.labels
  | .type => item.type.map ([·])
  | .status => some [item.status]
  | .lane => item.lane.map ([·])
  | .dependsOnLanes => item.dependsOnLanes

def PlanItem.value (item : PlanItem) : Field → List Chars
  | .labels => item.labels
  | .type => [item.type.getD "task".toList]
  | .status => [item.status.getD "open".toList]
  | .lane => [item.lane.getD "epic".toList]
  | .dependsOnLanes => item.dependsOnLanes

/-- What a line sets a field to. -/
def setting (field : Field) (line : Chars) : Option Chars :=
  match fieldOf line with
  | some (other, value) => if other = field then some value else none
  | none => none

/-- The last text that a field is set to by lines. -/
def lastSetting (field : Field) (lines : List Chars) : Option Chars :=
  (lines.filterMap (setting field)).getLast?

theorem component_readLine (item : Item) (line : Chars) (field : Field) :
    (item.readLine line).component field =
      ((setting field line).map field.reading).or (item.component field) := by
  unfold readLine setting
  cases fieldOf line with
  | none => rfl
  | some pair =>
    obtain ⟨other, value⟩ := pair
    cases other <;> cases field <;> rfl

theorem component_foldl (item : Item) (lines : List Chars) (field : Field) :
    (lines.foldl readLine item).component field =
      ((lastSetting field lines).map field.reading).or (item.component field) := by
  induction lines using List.reverseRecOn with
  | nil => rfl
  | append_singleton lines line ih =>
    unfold lastSetting at ih ⊢
    rw [foldl_append, foldl_cons, foldl_nil, component_readLine, ih,
      filterMap_append, getLast?_append]
    cases found : setting field line with
    | none | some => simp [found]

theorem id_title_foldl (item : Item) (lines : List Chars) :
    (lines.foldl readLine item).id = item.id ∧
      (lines.foldl readLine item).title = item.title := by
  induction lines generalizing item with
  | nil => exact ⟨rfl, rfl⟩
  | cons line lines ih =>
    have kept : (item.readLine line).id = item.id ∧ (item.readLine line).title = item.title := by
      unfold readLine
      cases fieldOf line with
      | none => exact ⟨rfl, rfl⟩
      | some pair =>
        obtain ⟨field, value⟩ := pair
        cases field <;> exact ⟨rfl, rfl⟩
    rw [foldl_cons, (ih _).1, (ih _).2]
    exact kept

theorem Item.ext_component {first second : Item} (id : first.id = second.id)
    (title : first.title = second.title)
    (same : ∀ field, first.component field = second.component field) : first = second := by
  have single : Function.Injective fun text : Chars => [text] :=
    fun _ _ equal => singleton_inj.mp equal
  have labels : first.labels = second.labels := Option.some.inj (same .labels)
  have type : first.type = second.type := Option.map_injective single (same .type)
  have status : first.status = second.status := singleton_inj.mp (Option.some.inj (same .status))
  have lane : first.lane = second.lane := Option.map_injective single (same .lane)
  have lanes : first.dependsOnLanes = second.dependsOnLanes := same .dependsOnLanes
  obtain ⟨_, _, _, _, _, _, _⟩ := first
  subst id title labels type status lane lanes
  rfl

theorem component_written (item : PlanItem) (index : Nat) (field : Field) :
    (item.written index).component field = some (item.value field) := by
  cases field <;> rfl

theorem foldl_written_iff {lines : List Chars} :
    lines.foldl readLine (item.written index) = item.written index ↔
      ∀ field, ∀ value ∈ lastSetting field lines, field.reading value = item.value field := by
  constructor
  · intro same field value found
    have component := component_foldl (item.written index) lines field
    rw [same, component_written, Option.mem_def.mp found] at component
    exact (Option.some.inj component).symm
  · intro repeats
    obtain ⟨id, title⟩ := id_title_foldl (item.written index) lines
    refine Item.ext_component id title fun field => ?_
    rw [component_foldl, component_written]
    cases found : lastSetting field lines with
    | none => rfl
    | some value => exact congrArg some (repeats field value found)

/-! ## The round trip -/

/-- No free text of the item has a line that starts an item, and where its lines set a field, the last
of them sets it to what it is. -/
structure PlanItem.Harmless (item : PlanItem) : Prop where
  headings : ∀ line ∈ freeLines item, heading line = none
  fields : ∀ field, ∀ value ∈ lastSetting field (freeLines item),
    field.reading value = item.value field

def writtenItems (plan : List PlanItem) : List Item := plan.zipIdx.map fun entry => entry.1.written entry.2

variable {entries : List (PlanItem × Nat)}

theorem readLines_entries (formed : ∀ entry ∈ entries, entry.1.WellFormed entry.2)
    (plain : ∀ entry ∈ entries, ∀ line ∈ freeLines entry.1, heading line = none)
    (current : Option Item) :
    readLines current (entries.flatMap foundLines) = current.toList ++
      entries.map fun entry => (freeLines entry.1).foldl readLine (entry.1.written entry.2) := by
  induction entries generalizing current with
  | nil => cases current <;> rfl
  | cons entry rest ih =>
    have others := ih (forall_mem_cons.mp formed).2
      (forall_mem_cons.mp plain).2
    rw [flatMap_cons, foundLines, append_assoc,
      readLines_fieldLines (formed entry mem_cons_self),
      readLines_plain (plain entry mem_cons_self), others]
    rfl

/-- There are more items than entries as soon as a free text has a heading. -/
theorem headings_of_length (formed : ∀ entry ∈ entries, entry.1.WellFormed entry.2)
    (length : (readLines none (entries.flatMap foundLines)).length = entries.length) :
    ∀ entry ∈ entries, ∀ line ∈ freeLines entry.1, heading line = none := by
  have counted : ∀ entries : List (PlanItem × Nat),
      (∀ entry ∈ entries, entry.1.WellFormed entry.2) →
        (entries.flatMap foundLines).countP (fun line => (heading line).isSome) =
          entries.length + (entries.flatMap fun entry => freeLines entry.1).countP
            (fun line => (heading line).isSome) := by
    intro entries
    induction entries with
    | nil => exact fun _ => rfl
    | cons entry rest ih =>
      intro formed
      have others := ih (forall_mem_cons.mp formed).2
      have items := congrArg List.length (@readLines_fieldLines none (freeLines entry.1) entry.1
        entry.2 (formed entry mem_cons_self))
      rw [length_readLines, length_append, length_readLines] at items
      simp only [Option.toList_none, Option.toList_some, length_nil, length_singleton,
        Nat.zero_add] at items
      rw [flatMap_cons, flatMap_cons, countP_append, countP_append, others]
      unfold foundLines
      rw [length_cons]
      omega
  rw [length_readLines, counted entries formed] at length
  have none' : (entries.flatMap fun entry => freeLines entry.1).countP
      (fun line => (heading line).isSome) = 0 := by
    omega
  intro entry member line inside
  have plain := countP_eq_zero.mp none' line (mem_flatMap.mpr ⟨entry, member, inside⟩)
  simpa using plain

/-- The items of the plan are read back exactly when every item's free texts are harmless. -/
theorem readLines_plan_iff (formed : WellFormed title plan) :
    readLines none (splitLines (markdownWorkgraphPlan title plan)) = writtenItems plan ↔
      ∀ item ∈ plan, item.Harmless := by
  rw [readLines_markdownWorkgraphPlan formed]
  have items := formed.items
  have members : ∀ item, item ∈ plan ↔ ∃ entry ∈ plan.zipIdx, entry.1 = item := by
    intro item
    rw [← mem_map, zipIdx_map_fst]
  simp only [members, forall_exists_index, and_imp, forall_apply_eq_imp_iff₂]
  unfold writtenItems
  constructor
  · intro same
    have plain := headings_of_length items (by rw [same, length_map])
    rw [readLines_entries items plain, Option.toList_none, nil_append, map_inj_left] at same
    exact fun entry member => ⟨plain entry member, foldl_written_iff.mp (same entry member)⟩
  · intro harmless
    rw [readLines_entries items fun entry member => (harmless entry member).headings,
      Option.toList_none, nil_append, map_inj_left]
    exact fun entry member => foldl_written_iff.mpr (harmless entry member).fields

theorem infix_flatMap {line : Chars} {lines : List Chars} (member : line ∈ lines) :
    line <:+: lines.flatMap (· ++ ['\n']) := by
  obtain ⟨front, back, rfl⟩ := append_of_mem member
  simp

theorem infix_markdownWorkgraphPlan {line : Chars} (nonempty : line ≠ [])
    (member : line ∈ planLines title plan) : line <:+: markdownWorkgraphPlan title plan := by
  obtain ⟨lines, whole, text⟩ := markdownWorkgraphPlan_lines title plan
  rw [text]
  rw [whole] at member
  rcases mem_append.mp member with member | member
  · exact infix_flatMap member
  · exact absurd (mem_singleton.mp member) nonempty

theorem parseMarkdownWorkgraph_ok_iff {path : String} {items : List Item} :
    parseMarkdownWorkgraph path (markdownWorkgraphPlan title plan) = .ok items ↔
      readLines none (splitLines (markdownWorkgraphPlan title plan)) = items ∧ items ≠ [] := by
  have introduced : ∀ line ∈ introduction, line ∈ planLines title plan := fun line member =>
    mem_append_left _ (mem_cons_of_mem _ member)
  have marked : workgraphFallbackMarker <:+: markdownWorkgraphPlan title plan := by
    have line : ∃ line ∈ introduction, line ≠ [] ∧ workgraphFallbackMarker <:+: line :=
      ⟨_, mem_cons_of_mem _ mem_cons_self, cons_ne_nil _ _,
        "> ".toList, _, by simp only [append_assoc]; rfl⟩
    obtain ⟨line, member, nonempty, inside⟩ := line
    exact inside.trans (infix_markdownWorkgraphPlan nonempty (introduced line member))
  have headed : workgraphItemsHeading <:+: markdownWorkgraphPlan title plan := by
    obtain ⟨front, whole⟩ := introduction_ends
    have tight : Tight workgraphItemsHeading := tight_toList (by decide)
    exact infix_markdownWorkgraphPlan tight.nonempty (introduced _ (by rw [whole]; simp))
  unfold parseMarkdownWorkgraph
  rw [if_neg (by simp [marked, headed])]
  cases read : readLines none (splitLines (markdownWorkgraphPlan title plan)) with
  | nil =>
    constructor
    · intro refused
      cases refused
    · rintro ⟨rfl, nonempty⟩
      exact absurd rfl nonempty
  | cons first rest =>
    constructor
    · intro accepted
      cases accepted
      exact ⟨rfl, cons_ne_nil _ _⟩
    · rintro ⟨rfl, _⟩
      rfl

/-- What is promised of the file: its items are those of the plan, and so are the open items and the
blockers of every continuation brief. -/
def RoundTrips (path : String) (title : Chars) (plan : List PlanItem) : Prop :=
  parseMarkdownWorkgraph path (markdownWorkgraphPlan title plan) = .ok (writtenItems plan) ∧
    ∀ epicId, (parseMarkdownWorkgraph path (markdownWorkgraphPlan title plan)).map
        (continuationBrief epicId) = .ok (continuationBrief epicId (writtenItems plan))

theorem round_trips_iff (path : String) (title : Chars) (plan : List PlanItem)
    (formed : WellFormed title plan) :
    RoundTrips path title plan ↔ plan ≠ [] ∧ ∀ item ∈ plan, item.Harmless := by
  have nonempty : writtenItems plan ≠ [] ↔ plan ≠ [] := by
    unfold writtenItems
    rw [Ne, map_eq_nil_iff, zipIdx_eq_nil_iff]
  rw [← readLines_plan_iff formed, ← nonempty, and_comm, ← parseMarkdownWorkgraph_ok_iff]
  constructor
  · exact And.left
  · intro parsed
    exact ⟨parsed, fun epicId => by rw [parsed]; rfl⟩

/-! ## Samples -/

theorem neat_toList {characters : Chars}
    (checked : (characters.head?.any (!isSpace ·) && characters.getLast?.any (!isSpace ·)) = true)
    (plain : characters.all (fun character => !isBoundary character && character != backtick) = true) :
    Neat (String.ofList characters).toList where
  toTight := tight_toList checked
  line := line_toList (by
    rw [all_eq_true] at plain ⊢
    exact fun character member => (Bool.and_eq_true _ _ ▸ plain character member).1)
  plain := by
    rw [String.toList_ofList]
    intro member
    have other := all_eq_true.mp plain backtick member
    cases other

def sampleItem (notes : Chars) : PlanItem where
  title := some "Ship the importer".toList
  type := some "epic".toList
  status := none
  lane := none
  labels := ["orchestration".toList]
  dependsOnLanes := []
  skills := []
  acceptance := none
  design := none
  notes := some notes

def samplePlan (notes : Chars) : List PlanItem := [sampleItem notes]

theorem samplePlan_wellFormed (notes : Chars) :
    WellFormed "Importer".toList (samplePlan notes) where
  title := line_toList (by decide)
  items := by
    intro entry member
    cases mem_singleton.mp member
    exact
      { key := neat_toList (by decide) (by decide)
        colon := show ':' ∉ "epic".toList by decide
        title := neat_toList (by decide) (by decide)
        type := neat_toList (by decide) (by decide)
        status := neat_toList (by decide) (by decide)
        lane := neat_toList (by decide) (by decide)
        labels := by
          intro label member
          cases mem_singleton.mp member
          exact neat_toList (by decide) (by decide)
        distinctLabels := by simp [sampleItem]
        dependsOnLanes := fun _ absent => absurd absent not_mem_nil
        distinctLanes := nodup_nil }

theorem round_trips_iff_sample :
    RoundTrips "workgraph.md" "Importer".toList (samplePlan "Ask first.".toList) ↔
      samplePlan "Ask first.".toList ≠ [] ∧
        ∀ item ∈ samplePlan "Ask first.".toList, item.Harmless :=
  round_trips_iff "workgraph.md" "Importer".toList (samplePlan "Ask first.".toList)
    (samplePlan_wellFormed _)

/-- A line of the notes that looks like a heading becomes an item. -/
theorem notes_become_item :
    ¬ RoundTrips "workgraph.md" "Importer".toList (samplePlan "### extra: Not planned".toList) := by
  rintro ⟨parsed, _⟩
  have harmless := (readLines_plan_iff (samplePlan_wellFormed _)).mp
    (parseMarkdownWorkgraph_ok_iff.mp parsed).1 _ mem_cons_self
  have block : markdownBlock (some "### extra: Not planned".toList) =
      "### extra: Not planned".toList := by
    have tight : Tight "### extra: Not planned".toList := tight_toList (by decide)
    unfold markdownBlock
    rw [Option.getD_some, tight.trim, if_neg tight.nonempty]
  have inside : "### extra: Not planned".toList ∈
      freeLines (sampleItem "### extra: Not planned".toList) := by
    have piece : pieces (markdownBlock (sampleItem "### extra: Not planned".toList).notes) =
        ["### extra: Not planned".toList] := by
      change pieces (markdownBlock (some "### extra: Not planned".toList)) = _
      rw [block, pieces_of_line (line_toList (by decide))]
    refine mem_flatMap.mpr ⟨_, ?_, piece ▸ mem_singleton_self _⟩
    simp
  have started := harmless.headings _ inside
  revert started
  decide

end WorkOrchestration.Workgraph
