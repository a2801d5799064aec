import Mathlib.Data.List.Induction
import WorkOrchestration.Lib.Dictionaries
import WorkOrchestration.Returns.AcceptanceConsistency
import WorkOrchestration.Returns.SectionReading

/-!
# Sections that occur more than once

A return may open one section several times.  The reader keeps the last occurrence, so that an earlier
answer counts only when nothing follows it under the same name.
-/

namespace WorkOrchestration.Returns.MaskedSections

open List Lib.Checks Lib.Dictionaries Lib.Lines
open Lib.Text (isSpace)
open Acceptance
open Sections
open String (ofList)
open Option (getD_some map_some)

/-- `SectionReader.value`; of two sections with one lookup key the later counts. -/
def SectionReader.value (sections : List (Chars × Chars)) (names : List Chars) : Chars :=
  ((names.findSome? fun name =>
    (sections.reverse.find? fun entry => sectionLookupKey entry.1 ==
      sectionLookupKey ((canonicalReturnSection name).getD name)).map Prod.snd).map trim).getD []

/-- What `str.lower` and `\w` take from the tables of Unicode. -/
structure Tables where
  lower : Chars → Chars
  isWord : Char → Bool

section

variable (tables : Tables)

def isWordBoundary (before after : Option Char) : Bool :=
  before.any tables.isWord != after.any tables.isWord

/-- One of the phrases stands at the head, and `\b` behind it. -/
def opens (phrases : List String) (text : Chars) : Bool :=
  phrases.any fun phrase => phrase.toList.isPrefixOf text &&
    isWordBoundary tables phrase.toList.getLast? (text.drop phrase.toList.length).head?

/-- The pattern matches behind some `\b`; `before` is the character in front of the text. -/
def search (pattern : Chars → Bool) (before : Option Char) : Chars → Bool
  | [] => isWordBoundary tables before none && pattern []
  | character :: rest =>
    isWordBoundary tables before (some character) && pattern (character :: rest) ||
      search pattern (some character) rest

/-- `(no|not observed|not present|none)\s+(boundary violation|secret|…)\b`. -/
def denies (text : Chars) : Bool :=
  ["no", "not observed", "not present", "none"].any fun denial =>
    let after := text.drop denial.toList.length
    denial.toList.isPrefixOf text && after.head?.any isSpace &&
      opens tables ["boundary violation", "secret", "personal-data spill", "scope creep", "patch"]
        (after.dropWhile isSpace)

def negativeField (value : Chars) : Bool :=
  let normalized := tables.lower (trim value)
  if normalized = [] then false
  else if opens tables ["compliant", "approved", "authorized", "within scope", "in scope"] normalized
  then false
  else opens tables ["no", "false", "none", "not observed", "not present", "not applicable", "n/a", "na"]
      normalized || search tables (denies tables) none normalized

def affirmativeField (value : Chars) : Bool :=
  let normalized := tables.lower (trim value)
  if normalized = [] ∨ negativeField tables value = true then false
  else opens tables ["yes", "true", "required", "present", "observed", "found", "confirmed", "compliant",
      "approved", "authorized", "unauthorized", "unapproved"] normalized ||
    search tables (opens tables ["violation observed", "secret spill", "personal-data spill",
      "outside assigned scope", "broadened scope", "without approval"]) none normalized

/-- Scanners that read the sections of a return and their answers as above. -/
def scannersOf (other : Scanners) : Scanners :=
  { other with
    parseReturnSections := fun text => (parseReturnSections text.toList).map fun entry =>
      (ofList entry.1, ofList entry.2)
    value := fun sections labels => ofList (SectionReader.value
      (sections.map fun entry => (entry.1.toList, entry.2.toList)) (labels.map String.toList))
    negativeField := fun value => negativeField tables value.toList
    affirmativeField := fun value => affirmativeField tables value.toList }

end

/-- One occurrence of a section: the line that opens it, what that line says, and the lines under it. -/
structure Occurrence where
  header : Chars
  name : Chars
  given : Chars
  rest : List Chars

namespace Occurrence

def lines (part : Occurrence) : List Chars := part.header :: part.rest

def body (part : Occurrence) : List Chars := (if part.given = [] then [] else [part.given]) ++ part.rest

def value (part : Occurrence) : Chars := trim (joinLines part.body)

end Occurrence

/-- A return read without forgetting: the lines in front of the first header, and the occurrences,
the last one first. -/
structure Outline where
  skipped : List Chars
  parts : List Occurrence
  inFence : Bool

namespace Outline

def start : Outline := ⟨[], [], false⟩

def keep (found : Outline) (line : Chars) : Outline :=
  match found.parts with
  | [] => { found with skipped := found.skipped ++ [line] }
  | part :: before => { found with parts := { part with rest := part.rest ++ [line] } :: before }

def take (found : Outline) (line : Chars) : Outline :=
  if isFence line then { found.keep line with inFence := !found.inFence }
  else if found.inFence then found.keep line
  else
    match parseReturnHeader line with
    | some (name, given) => ⟨found.skipped, ⟨line, name, given, []⟩ :: found.parts, false⟩
    | none => found.keep line

def lines (found : Outline) : List Chars :=
  found.skipped ++ found.parts.reverse.flatMap Occurrence.lines

end Outline

def outline (text : Chars) : Outline := (splitLines text).foldl Outline.take .start

def stores (parts : List Occurrence) : List (Chars × Chars) :=
  parts.foldr (fun part sections => store sections part.name part.value) []

/-- What the reader remembers of it. -/
def Outline.reader (found : Outline) : Reader where
  sections := stores found.parts.tail
  current := found.parts.head?.map Occurrence.name
  buffer := (found.parts.head?.map Occurrence.body).getD []
  inFence := found.inFence

def lastOf (name text : Chars) : Option Occurrence := (outline text).parts.find? (·.name = name)

variable {found : Outline} {label line name text : Chars} {parts : List Occurrence}

theorem close_reader (found : Outline) : found.reader.close = stores found.parts := by
  unfold Outline.reader Reader.close
  cases found.parts <;> rfl

theorem reader_keep (found : Outline) (line : Chars) :
    (found.keep line).reader = found.reader.keep line := by
  unfold Outline.keep Reader.keep Outline.reader
  cases found.parts with
  | nil => rfl
  | cons part before =>
    simp only [head?_cons, map_some, getD_some, Occurrence.body, append_assoc, tail_cons]

theorem reader_take (found : Outline) (line : Chars) :
    (found.take line).reader = found.reader.take line := by
  unfold Outline.take Reader.take
  by_cases fence : isFence line = true
  · rw [if_pos fence, if_pos fence, ← reader_keep]
    rfl
  · rw [if_neg fence, if_neg fence, show found.reader.inFence = found.inFence from rfl]
    by_cases inside : found.inFence = true
    · rw [if_pos inside, if_pos inside, reader_keep]
    · rw [if_neg inside, if_neg inside]
      cases parseReturnHeader line with
      | none => exact reader_keep found line
      | some entry =>
        rw [close_reader]
        simp only [Outline.reader, Occurrence.body, head?_cons, map_some, getD_some,
          append_nil, tail_cons]

theorem parseReturnSections_eq (text : Chars) : parseReturnSections text = stores (outline text).parts := by
  rw [← close_reader]
  have followed : (splitLines text).foldl Reader.take Outline.start.reader = (outline text).reader :=
    foldl_hom Outline.reader fun found line => (reader_take found line).symm
  exact congrArg Reader.close followed

/-- The lines that were read stand in front of the first header or in one occurrence. -/
structure Reads (lines : List Chars) (found : Outline) : Prop where
  lines : found.lines = lines
  headers : ∀ part ∈ found.parts, parseReturnHeader part.header = some (part.name, part.given)
  unopened : (found.skipped.foldl Outline.take .start).parts = []

theorem reads (lines : List Chars) : Reads lines (lines.foldl Outline.take .start) := by
  induction lines using reverseRecOn with
  | nil => exact ⟨rfl, fun _ member => absurd member not_mem_nil, rfl⟩
  | append_singleton lines line ih =>
    have whole : (lines ++ [line]).foldl Outline.take .start =
        (lines.foldl Outline.take .start).take line := by
      rw [foldl_append]
      rfl
    rw [whole]
    generalize lines.foldl Outline.take .start = found at ih whole
    obtain ⟨split, headers, unopened⟩ := ih
    have kept (inFence : Bool) (taken : found.take line = { found.keep line with inFence }) :
        Reads (lines ++ [line]) (found.take line) := by
      rw [taken] at whole ⊢
      unfold Outline.keep at whole ⊢
      unfold Outline.lines at split
      cases parts : found.parts with
      | nil =>
        rw [parts] at split whole
        rw [reverse_nil, flatMap_nil, append_nil] at split
        refine ⟨by simp [Outline.lines, split], by simp, ?_⟩
        rw [split, whole]
      | cons part before =>
        rw [parts] at split headers
        refine ⟨by simp [Outline.lines, ← split, Occurrence.lines], ?_, unopened⟩
        simpa using headers
    by_cases fence : isFence line = true
    · exact kept _ (by rw [Outline.take, if_pos fence])
    by_cases inside : found.inFence = true
    · exact kept (found.keep line).inFence (by rw [Outline.take, if_neg fence, if_pos inside])
    cases header : parseReturnHeader line with
    | none =>
      exact kept (found.keep line).inFence (by rw [Outline.take, if_neg fence, if_neg inside, header])
    | some entry =>
      have taken : found.take line = ⟨found.skipped, ⟨line, entry.1, entry.2, []⟩ :: found.parts, false⟩ := by
        rw [Outline.take, if_neg fence, if_neg inside, header]
      rw [taken]
      refine ⟨by simp [Outline.lines, ← split, Occurrence.lines], ?_, unopened⟩
      exact forall_mem_cons.mpr ⟨header, headers⟩

theorem store_eq (sections : List (Chars × Chars)) (name value : Chars) :
    store sections name value = assign name value sections := by
  induction sections with
  | nil => rfl
  | cons entry rest ih =>
    unfold store assign
    rw [ih]

theorem mem_assign (name value : Chars) (sections : List (Chars × Chars)) :
    (name, value) ∈ assign name value sections := by
  induction sections with
  | nil => exact mem_singleton_self _
  | cons entry rest ih =>
    unfold assign
    split
    · exact mem_cons_self
    · exact mem_cons_of_mem _ ih

/-- The sections that are kept are those of the last occurrences. -/
structure Latest (parts : List Occurrence) (sections : List (Chars × Chars)) : Prop where
  distinct : (sections.map Prod.fst).Nodup
  last : ∀ entry ∈ sections, ∃ part, parts.find? (·.name = entry.1) = some part ∧ part.value = entry.2
  complete : ∀ part ∈ parts, part.name ∈ sections.map Prod.fst

theorem latest (parts : List Occurrence) : Latest parts (stores parts) := by
  induction parts with
  | nil =>
    exact ⟨nodup_nil, fun _ member => absurd member not_mem_nil, fun _ member => absurd member not_mem_nil⟩
  | cons part before ih =>
    have stored : stores (part :: before) = assign part.name part.value (stores before) :=
      store_eq _ _ _
    have distinct : ((assign part.name part.value (stores before)).map Prod.fst).Nodup :=
      nodup_keys_assign ih.distinct
    rw [stored]
    refine ⟨distinct, ?_, ?_⟩
    · intro entry member
      by_cases same : part.name = entry.1
      · rw [find?_cons_of_pos (by simpa using same)]
        have new := mem_assign part.name part.value (stores before)
        have equal := inj_on_of_nodup_map distinct member new same.symm
        exact ⟨part, rfl, by rw [equal]⟩
      · rw [find?_cons_of_neg (by simpa using same)]
        rcases mem_of_mem_assign member with new | old
        · exact absurd (by rw [new]) same
        · exact ih.last entry old
    · intro other member
      rw [mem_keys_assign]
      rcases mem_cons.mp member with rfl | old
      · exact .inl rfl
      · exact .inr (ih.complete other old)

theorem namedSection_canonical {found : Option (Chars × Chars)} {given : Chars}
    (named : namedSection found = some (name, given)) : ∃ label, canonicalReturnSection label = some name := by
  unfold namedSection at named
  simp only [Option.bind_eq_bind, Option.bind_eq_some_iff] at named
  obtain ⟨entry, _, target, canonical, same⟩ := named
  cases same
  exact ⟨entry.1, canonical⟩

theorem parsed_canonical {given : Chars} (parsed : parseReturnHeader line = some (name, given)) :
    ∃ label, canonicalReturnSection label = some name := by
  unfold parseReturnHeader at parsed
  rw [Option.or_eq_some_iff, Option.or_eq_some_iff] at parsed
  rcases parsed with (hash | ⟨-, bold⟩) | ⟨-, label⟩
  · exact namedSection_canonical hash
  · exact namedSection_canonical bold
  · exact namedSection_canonical label

theorem trim_trim (text : Chars) : trim (trim text) = trim text := by
  by_cases empty : trim text = []
  · rw [empty]
    rfl
  · exact (tight_trim empty).trim

def boundaryViolation : Chars := "Boundary violation".toList

def asciiTables : Tables := ⟨List.map Char.toLower, fun character => character.isAlphanum || character == '_'⟩

/-- A violation that is admitted and then denied. -/
def maskedReturn : Chars := "Boundary violation: yes\nBoundary violation: no".toList

/-- A section that disqualifies a return, with the labels it is read under and the test of its value. -/
structure Control where
  name : String
  labels : List String
  admits : Scanners → String → Bool
  report : String

def controls : List Control :=
  [⟨"Boundary violation", ["Boundary violation"], Scanners.affirmativeField, "boundary violation"⟩,
    ⟨"Secret or personal-data spill",
      ["Secret or personal-data spill", "Secret spill", "Personal-data spill"],
      Scanners.affirmativeField, "suspected secret or personal-data spill"⟩,
    ⟨"Scope compliance", ["Scope compliance"], Scanners.scopeNoncompliant,
      "scope creep beyond assigned bead"⟩]

/-- What the table of sections and the parser say at the texts that are used below. -/
theorem evaluated : ((returnSectionAliases.map Prod.snd).eraseDups.map sectionLookupKey).Nodup ∧
    (controls.all fun control => control.labels ≠ [] &&
      (canonicalReturnSection control.name.toList == some control.name.toList &&
        control.labels.all fun label =>
          canonicalReturnSection label.toList == some control.name.toList)) = true ∧
    ((outline maskedReturn).parts.any fun part =>
      part.name == boundaryViolation && affirmativeField asciiTables part.value) = true ∧
    affirmativeField asciiTables (SectionReader.value (parseReturnSections maskedReturn) [boundaryViolation]) = false := by
  decide +kernel

theorem canonical_listed (canonical : canonicalReturnSection label = some name) :
    name ∈ (returnSectionAliases.map Prod.snd).eraseDups := by
  obtain ⟨entry, hit, rfl⟩ := Option.map_eq_some_iff.mp canonical
  exact mem_eraseDups.mpr (mem_map_of_mem (mem_reverse.mp (mem_of_find?_eq_some hit)))

theorem canonical_injective {other second : Chars} (one : canonicalReturnSection label = some name)
    (two : canonicalReturnSection second = some other)
    (same : sectionLookupKey name = sectionLookupKey other) : name = other :=
  inj_on_of_nodup_map evaluated.1 (canonical_listed one) (canonical_listed two) same

theorem value_stores
    (named : ∀ part ∈ parts, ∃ label, canonicalReturnSection label = some part.name)
    (known : canonicalReturnSection label = some name) :
    SectionReader.value (stores parts) [label] =
      ((parts.find? (·.name = name)).map Occurrence.value).getD [] := by
  have latest := latest parts
  unfold SectionReader.value
  rw [findSome?_singleton, known, getD_some]
  cases hit : (stores parts).reverse.find? fun entry => sectionLookupKey entry.1 == sectionLookupKey name with
  | none =>
    have absent : parts.find? (·.name = name) = none := by
      rw [find?_eq_none]
      intro part member same
      obtain ⟨entry, stored, spelled⟩ := mem_map.mp (latest.complete part member)
      have differs := find?_eq_none.mp hit entry (mem_reverse.mpr stored)
      rw [spelled, of_decide_eq_true same] at differs
      exact differs (beq_self_eq_true _)
    rw [absent]
    rfl
  | some entry =>
    obtain ⟨part, last, value⟩ := latest.last entry (mem_reverse.mp (mem_of_find?_eq_some hit))
    have member := mem_of_find?_eq_some last
    obtain ⟨other, canonical⟩ := named part member
    have spelled : part.name = entry.1 := by simpa using find?_some last
    have keys : sectionLookupKey entry.1 = sectionLookupKey name := by
      simpa using find?_some hit
    rw [← spelled] at keys
    have same := canonical_injective canonical known keys
    rw [← spelled, same] at last
    rw [last, map_some, map_some, map_some, getD_some, getD_some,
      ← value]
    exact trim_trim _

/-- Every line of a return is accounted for, and the last answer to each question counts. -/
structure Accounted (tables : Tables) (text : Chars) : Prop where
  /-- The lines behind the first header lie each in one occurrence. -/
  reads : Reads (splitLines text) (outline text)
  values : ∀ label name, canonicalReturnSection label = some name →
    SectionReader.value (parseReturnSections text) [label] =
      ((lastOf name text).map Occurrence.value).getD []
  /-- What a control section admits is reported unless the section is opened again. -/
  reported : ∀ control ∈ controls, ∀ later part before, (outline text).parts = later ++ part :: before →
    part.name = control.name.toList → (∀ other ∈ later, other.name ≠ control.name.toList) →
    ∀ scanners registry context,
      control.admits (scannersOf tables scanners) (ofList part.value) = true →
        control.report ∈ (makeAcceptanceDecision (scannersOf tables scanners) registry
          (ofList text) context).hardDisqualifiers

theorem value_parsed (text : Chars) (known : canonicalReturnSection label = some name) :
    SectionReader.value (parseReturnSections text) [label] =
      ((lastOf name text).map Occurrence.value).getD [] := by
  rw [parseReturnSections_eq]
  refine value_stores ?_ known
  intro part member
  exact parsed_canonical ((reads _).headers part member)

theorem findSome?_of_eq {labels : List Chars} {read : Chars → Option Chars} {found : Option Chars}
    (nonempty : labels ≠ []) (same : ∀ label ∈ labels, read label = found) :
    labels.findSome? read = found := by
  cases found with
  | none => exact findSome?_eq_none_iff.mpr same
  | some value =>
    cases labels with
    | nil => exact absurd rfl nonempty
    | cons first rest => rw [findSome?_cons, same first mem_cons_self]

/-- The labels of one section are read alike. -/
theorem value_labels {sections : List (Chars × Chars)} {labels : List Chars} (nonempty : labels ≠ [])
    (known : ∀ other ∈ labels, canonicalReturnSection other = some name)
    (single : canonicalReturnSection label = some name) :
    SectionReader.value sections labels = SectionReader.value sections [label] := by
  unfold SectionReader.value
  rw [findSome?_singleton, single]
  refine congrArg (fun found => (Option.map trim found).getD []) (findSome?_of_eq nonempty ?_)
  intro other member
  rw [known other member]
  rfl

theorem canonical_controls : ∀ control ∈ controls, control.labels ≠ [] ∧
    canonicalReturnSection control.name.toList = some control.name.toList ∧
    ∀ label ∈ control.labels, canonicalReturnSection label.toList = some control.name.toList := by
  simpa using evaluated.2.1

/-- What a control section admits is among the disqualifiers. -/
theorem mem_hardDisqualifiers {control : Control} (member : control ∈ controls) {scanners : Scanners}
    {text : String} {context : Context}
    (admits : control.admits scanners (field scanners text control.labels) = true) :
    control.report ∈ hardDisqualifiers scanners text context := by
  unfold hardDisqualifiers reject
  simp only [controls, mem_cons, not_mem_nil, or_false] at member
  rcases member with rfl | rfl | rfl
  · have stated : scanners.affirmativeField (field scanners text ["Boundary violation"]) = true := admits
    simp [stated]
  · have stated : scanners.affirmativeField (field scanners text
      ["Secret or personal-data spill", "Secret spill", "Personal-data spill"]) = true := admits
    simp [stated]
  · have stated : scanners.scopeNoncompliant (field scanners text ["Scope compliance"]) = true := admits
    simp [stated]

theorem field_scannersOf (tables : Tables) (other : Scanners) (text : Chars) (names : List String) :
    field (scannersOf tables other) (ofList text) names =
      ofList (SectionReader.value (parseReturnSections text) (names.map String.toList)) := by
  simp [field, Acceptance.sections, scannersOf, Function.comp_def]

theorem affirmativeField_scannersOf (tables : Tables) (other : Scanners) (value : Chars) :
    (scannersOf tables other).affirmativeField (ofList value) = affirmativeField tables value := by
  simp [scannersOf]

theorem sections_accounted (tables : Tables) (text : Chars) : Accounted tables text where
  reads := reads _
  values := fun _ _ known => value_parsed text known
  reported := by
    intro control member later part before split named final scanners registry context admits
    obtain ⟨nonempty, itself, labels⟩ := canonical_controls control member
    have last : lastOf control.name.toList text = some part := by
      unfold lastOf
      rw [split, find?_append, find?_eq_none.mpr (by simpa using final)]
      simp [named]
    have value := value_parsed text itself
    rw [last, map_some] at value
    rw [makeAcceptanceDecision_hardDisqualifiers]
    apply mem_hardDisqualifiers member
    have known : ∀ label ∈ control.labels.map String.toList,
        canonicalReturnSection label = some control.name.toList := by
      simpa using labels
    rw [field_scannersOf, value_labels (by simpa using nonempty) known itself, value]
    exact admits

theorem masked_violation : ((outline maskedReturn).parts.any fun part =>
      part.name == boundaryViolation && affirmativeField asciiTables part.value) = true ∧
    "boundary violation" ∉ (makeAcceptanceDecision (scannersOf asciiTables emptyScanners) sampleRegistry
      (ofList maskedReturn) brokenDispatch).hardDisqualifiers := by
  refine ⟨evaluated.2.2.1, ?_⟩
  have denied : ¬ (scannersOf asciiTables emptyScanners).affirmativeField
      (field (scannersOf asciiTables emptyScanners) (ofList maskedReturn) ["Boundary violation"]) = true := by
    rw [field_scannersOf, affirmativeField_scannersOf, Bool.not_eq_true]
    exact evaluated.2.2.2
  rw [makeAcceptanceDecision_hardDisqualifiers]
  unfold hardDisqualifiers reject
  simp only [mem_append, mem_ite_nil_right, denied]
  simp [boundaryTaintFindings, scannersOf, emptyScanners]

end WorkOrchestration.Returns.MaskedSections
