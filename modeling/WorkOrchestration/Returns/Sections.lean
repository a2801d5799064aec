import WorkOrchestration.Lib.Lines

/-!
# Return sections

The names under which contractor returns are read, the spellings in which a line can open a section, and
the reader that takes a return apart.
-/

namespace WorkOrchestration.Returns.Sections

open Lib.Lines
open Lib.Text (isSpace)

def returnControlSections : List String :=
  ["Files changed", "Commands run", "Boundary violation", "Patch authorization",
    "Secret or personal-data spill", "Secret spill", "Personal-data spill", "Scope compliance",
    "Provider policy limitations", "Policy limitations", "Patch artifact", "Patch proposal",
    "Provider conflict disposition", "Direct workspace mutation", "Research evidence",
    "Research contradictions", "Research reflection", "Review surface", "Source inspection",
    "Sources inspected", "Sources not inspected", "Independent verification",
    "Packet-reported claims"]

/-- `contractor_return_required_sections` of the acceptance policy. -/
def contractorReturnRequiredSections : List String :=
  ["Status", "Contractor job description", "Summary", "Validation result", "Evidence",
    "Evidence provenance", "Attestation or reproducibility note", "Share-boundary conformance",
    "Peer-review disposition", "Alternatives considered", "Confidence", "Risks or gaps",
    "Recommended next bead", "Escalation needed"]

/-- `return_section_aliases` of the acceptance policy, which is the source that it names. -/
def policyAliases : List (String × String) :=
  [("share boundary conformance", "Share-boundary conformance"),
    ("peer review disposition", "Peer-review disposition"),
    ("attestation repro note", "Attestation or reproducibility note"),
    ("attestation reproducibility note", "Attestation or reproducibility note"),
    ("attestation or reproduction note", "Attestation or reproducibility note"),
    ("risks gaps", "Risks or gaps"),
    ("risks and gaps", "Risks or gaps"),
    ("recommended next Bead", "Recommended next bead"),
    ("recommended next action", "Recommended next bead"),
    ("secret spill", "Secret or personal-data spill"),
    ("personal data spill", "Secret or personal-data spill"),
    ("secret or personal data spill", "Secret or personal-data spill"),
    ("provider limitations", "Provider policy limitations"),
    ("policy limitations", "Provider policy limitations"),
    ("patch branch", "Patch proposal"),
    ("patch diff", "Patch proposal"),
    ("research evidence items", "Research evidence"),
    ("research sources", "Research evidence"),
    ("contradictions", "Research contradictions"),
    ("research replan", "Research reflection"),
    ("evidence surface", "Review surface"),
    ("review source surface", "Review surface"),
    ("source surface", "Review surface"),
    ("sources reviewed", "Sources inspected"),
    ("inspected sources", "Sources inspected"),
    ("sources not reviewed", "Sources not inspected"),
    ("uninspected sources", "Sources not inspected"),
    ("independently verified", "Independent verification"),
    ("independent verification status", "Independent verification"),
    ("packet reported claims", "Packet-reported claims"),
    ("packet only claims", "Packet-reported claims")]

variable (text line : Chars)

/-- `re.sub(r"^\s{0,3}#{1,6}\s*", "", text)`. -/
def dropHashes : Chars :=
  let rest := text.dropWhile isSpace
  if (text.takeWhile isSpace).length ≤ 3 ∧ rest.head? = some '#' then
    (rest.drop (min 6 (rest.takeWhile (· == '#')).length)).dropWhile isSpace
  else text

/-- A bullet and white space in front. -/
def bullet? : Option Chars :=
  match text with
  | mark :: rest =>
    if (mark = '-' ∨ mark = '*') ∧ rest.head?.any isSpace = true then some (rest.dropWhile isSpace)
    else none
  | [] => none

/-- `re.sub(r"^\s*[-*]\s+", "", text)`. -/
def dropBullet : Chars := (bullet? (text.dropWhile isSpace)).getD text

def boldMarks : List Chars := [['*', '*'], ['_', '_']]

/-- `re.sub(r"^(\*\*|__)(.*?)(\1)$", r"\2", text)`. -/
def unwrapBold : Chars :=
  if boldMarks.any (fun mark => mark.isPrefixOf text && mark.isSuffixOf text) ∧ 4 ≤ text.length then
    (text.drop 2).take (text.length - 4)
  else text

/-- `text.strip(characters)`. -/
def stripOf (characters text : Chars) : Chars :=
  ((text.dropWhile (characters.contains ·)).reverse.dropWhile (characters.contains ·)).reverse

def sectionLookupKey (label : Chars) : Chars :=
  let cleaned := stripOf ['\x60', '*', '_', ' ', ':'] (unwrapBold (dropBullet (dropHashes (trim label))))
  let spelled := cleaned.flatMap fun character =>
    if character = '&' then [' ', 'a', 'n', 'd', ' '] else [character]
  let words := (spelled.splitOnP fun character => !character.isAlphanum).filter (· ≠ [])
  (List.intercalate [' '] words).map Char.toLower

/-- `return_section_aliases`: a lookup key and the section that it stands for. -/
def returnSectionAliases : List (Chars × Chars) :=
  ((contractorReturnRequiredSections ++ returnControlSections).map fun name =>
      (sectionLookupKey name.toList, name.toList)) ++
    policyAliases.map fun entry => (sectionLookupKey entry.1.toList, entry.2.toList)

/-- `canonical_return_section`; a later entry replaces an earlier one. -/
def canonicalReturnSection (label : Chars) : Option Chars :=
  (returnSectionAliases.reverse.find? (·.1 == sectionLookupKey label)).map Prod.snd

/-- `^\s{0,3}#{1,6}\s+(.+?)(?:\s*:\s*(.*))?\s*$`: the label and the value. -/
def hashHeader : Option (Chars × Chars) :=
  let text := line.dropWhile isSpace
  let hashes := text.takeWhile (· == '#')
  let after := text.dropWhile (· == '#')
  if (line.takeWhile isSpace).length ≤ 3 ∧ 1 ≤ hashes.length ∧ hashes.length ≤ 6 ∧
      after.head?.any isSpace = true then
    match after.dropWhile isSpace with
    | [] => if 2 ≤ after.length then some ([], []) else none
    | first :: rest =>
      some (trim (first :: rest.takeWhile (· != ':')), trim ((rest.dropWhile (· != ':')).drop 1))
  else none

/-- `^\s*(?:[-*]\s+)?(?:\*\*|__)([^*_]+?)(?::)?(?:\*\*|__)\s*:?\s*(.*)$`. -/
def boldHeader : Option (Chars × Chars) :=
  let text := line.dropWhile isSpace
  let marked := (bullet? text).getD text
  let inner := marked.drop 2
  let content := inner.takeWhile fun character => character != '*' && character != '_'
  let closing := inner.dropWhile fun character => character != '*' && character != '_'
  if boldMarks.contains (marked.take 2) ∧ content ≠ [] ∧ boldMarks.contains (closing.take 2) then
    let label :=
      if content.getLast? = some ':' ∧ 2 ≤ content.length then content.dropLast else content
    let after := (closing.drop 2).dropWhile isSpace
    some (trim label, trim (if after.head? = some ':' then after.drop 1 else after))
  else none

def isLabelChar (character : Char) : Bool :=
  character.isAlpha || character == ' ' || character == '/' || character == '-'

/-- A label of letters, blanks, slashes and hyphens in front of a colon. -/
def labelHeader : Option (Chars × Chars) :=
  match line.dropWhile isSpace with
  | [] => none
  | first :: rest =>
    let more := rest.takeWhile isLabelChar
    let after := (rest.dropWhile isLabelChar).dropWhile isSpace
    if first.isAlpha ∧ more ≠ [] ∧ after.head? = some ':' then
      some (first :: more, trim (after.drop 1))
    else none

def namedSection (found : Option (Chars × Chars)) : Option (Chars × Chars) := do
  let (label, value) ← found
  let name ← canonicalReturnSection label
  return (name, value)

def parseReturnHeader : Option (Chars × Chars) :=
  ((namedSection (hashHeader line)).or (namedSection (boldHeader line))).or
    (namedSection (labelHeader line))

/-- A line that opens or closes a fence. -/
def isFence : Bool :=
  ['\x60', '\x60', '\x60'].isPrefixOf (line.dropWhile isSpace) ||
    ['~', '~', '~'].isPrefixOf (line.dropWhile isSpace)

/-- `sections[name] = value`. -/
def store (sections : List (Chars × Chars)) (name value : Chars) : List (Chars × Chars) :=
  match sections with
  | [] => [(name, value)]
  | entry :: rest =>
    if entry.1 = name then (name, value) :: rest else entry :: store rest name value

/-- The reader's variables. -/
structure Reader where
  sections : List (Chars × Chars)
  current : Option Chars
  buffer : List Chars
  inFence : Bool

namespace Reader

def start : Reader := ⟨[], none, [], false⟩

/-- `if current: sections[current] = "\n".join(buffer).strip()`. -/
def close (reader : Reader) : List (Chars × Chars) :=
  match reader.current with
  | none => reader.sections
  | some name => store reader.sections name (trim (joinLines reader.buffer))

/-- `if current: buffer.append(line)`. -/
def keep (reader : Reader) (line : Chars) : Reader :=
  match reader.current with
  | none => reader
  | some _ => { reader with buffer := reader.buffer ++ [line] }

def take (reader : Reader) (line : Chars) : Reader :=
  if isFence line then { reader.keep line with inFence := !reader.inFence }
  else if reader.inFence then reader.keep line
  else
    match parseReturnHeader line with
    | some (name, value) =>
      ⟨reader.close, some name, if value = [] then [] else [value], false⟩
    | none => reader.keep line

end Reader

def parseReturnSections : List (Chars × Chars) := ((splitLines text).foldl Reader.take .start).close

/-- A section as it is written: its name and the lines of its body. -/
structure Section where
  name : Chars
  body : List Chars

def heading (name : Chars) : Chars := '#' :: '#' :: ' ' :: name

namespace Section

def lines (part : Section) : List Chars := [] :: heading part.name :: part.body

/-- What the body says. -/
def value (part : Section) : Chars := trim (joinLines part.body)

/-- The name is read as itself. -/
def Named (part : Section) : Prop := parseReturnHeader (heading part.name) = some (part.name, [])

end Section

/-- One empty line stands between two sections. -/
def writtenLines (parts : List Section) : List Chars := (parts.flatMap Section.lines).tail

def written (parts : List Section) : List (Chars × Chars) :=
  parts.map fun part => (part.name, part.value)

end WorkOrchestration.Returns.Sections
