import Mathlib.Data.List.Infix
import WorkOrchestration.Lib.Lines
import WorkOrchestration.Native.Artifacts

/-!
# The Markdown workgraph

A scaffold plan written as Markdown when no tracker is there, the line scanner that reads it back, and
what a continuation brief makes of the items.
-/

namespace WorkOrchestration.Workgraph

open Lib.Lines
open Lib.Text (isSpace)
open Native.Artifacts

def workgraphFallbackMarker : Chars := "Reduced durability fallback".toList
def workgraphItemsHeading : Chars := "## Work Items".toList

/-- The fields of a planned item that are written. -/
structure PlanItem where
  title : Option Chars
  type : Option Chars
  status : Option Chars
  lane : Option Chars
  labels : List Chars
  dependsOnLanes : List Chars
  skills : List Chars
  acceptance : Option Chars
  design : Option Chars
  notes : Option Chars

/-- The loop of `unique_strings` behind the texts that it has seen. -/
def uniqueStringsFrom (seen : List Chars) : List Chars → List Chars
  | [] => []
  | item :: rest =>
    let text := trim item
    if text = [] ∨ text ∈ seen then uniqueStringsFrom seen rest
    else text :: uniqueStringsFrom (text :: seen) rest

def uniqueStrings (items : List Chars) : List Chars := uniqueStringsFrom [] items

def backtick : Char := '\x60'

variable (item : Item) (value line : Chars)

def quoted : Chars := backtick :: value ++ [backtick]

def markdownInlineList (items : List Chars) : Chars :=
  let values := uniqueStrings items
  if values = [] then "none".toList else List.intercalate ", ".toList (values.map quoted)

def markdownBlock (value : Option Chars) : Chars :=
  let text := trim (value.getD [])
  if text = [] then "None.".toList else text

/-- `value or ...` for a text. -/
def given (text : Option Chars) : Option Chars := text.filter (· ≠ [])

def itemKey (item : PlanItem) (index : Nat) : Chars :=
  if index = 0 then "epic".toList
  else (given item.lane).getD ("item-".toList ++ (toString index).toList)

def itemTitle (item : PlanItem) (index : Nat) : Chars :=
  (given item.title).getD (itemKey item index)

/-- `- name: value`. -/
def fieldText (name : String) (value : Chars) : Chars :=
  "- ".toList ++ name.toList ++ ": ".toList ++ value

/-- The lines of an item up to its last structured field. -/
def fieldLines (item : PlanItem) (index : Nat) : List Chars :=
  ["### ".toList ++ itemKey item index ++ ": ".toList ++ itemTitle item index, [],
    fieldText "Type" (quoted (item.type.getD "task".toList)),
    fieldText "Status" (quoted (item.status.getD "open".toList)),
    fieldText "Lane" (quoted (item.lane.getD "epic".toList)),
    fieldText "Labels" (markdownInlineList item.labels),
    fieldText "Depends on lanes" (markdownInlineList item.dependsOnLanes)]

def textLines (item : PlanItem) : List Chars :=
  [fieldText "Skills" (markdownInlineList item.skills),
    [], "#### Acceptance".toList, [], markdownBlock item.acceptance,
    [], "#### Design".toList, [], markdownBlock item.design,
    [], "#### Notes".toList, [], markdownBlock item.notes, []]

/-- The lines between the title and the first item. -/
def introduction : List Chars :=
  [[], "> ".toList ++ workgraphFallbackMarker ++
      ": Beads is unavailable or not in use. This ".toList ++
      "Markdown workgraph preserves the task shape for operator resume, but ".toList ++
      "it does not provide ready-work filtering, shared comments, ".toList ++
      "contractor-only semantics, dependency enforcement, or durable ".toList ++
      "external handoff.".toList,
    [],
    "Generated by `scripts/scaffold_workgraph.py --dry-run --format markdown-workgraph`.".toList,
    [],
    "## Resume".toList,
    [],
    "- Treat this file as temporary fallback state until Beads or an equivalent tracker is ".toList ++
      "available.".toList,
    "- Resume with `python3 scripts/summarize_resume_state.py --markdown-workgraph ".toList ++
      "<path>`.".toList,
    "- Move the work into Beads before claiming shared durable handoff or contractor dispatch ".toList ++
      "readiness.".toList,
    [],
    workgraphItemsHeading,
    []]

def preamble (title : Chars) : List Chars := ("# ".toList ++ title) :: introduction

def planLines (title : Chars) (plan : List PlanItem) : List Chars :=
  preamble title ++ plan.zipIdx.flatMap fun entry => fieldLines entry.1 entry.2 ++ textLines entry.1

def markdownWorkgraphPlan (title : Chars) (plan : List PlanItem) : Chars :=
  trimEnd (joinLines (planLines title plan)) ++ ['\n']

/-- An item as it is read back; the fields without a value have not been read. -/
structure Item where
  id : Chars
  title : Chars
  status : Chars
  labels : List Chars
  type : Option Chars
  lane : Option Chars
  dependsOnLanes : Option (List Chars)

/-- What both regular expressions match on a trimmed line: the mark, white space, a name without colon,
a colon, and something behind it. -/
def named (mark line : Chars) : Option (Chars × Chars) :=
  if mark.isPrefixOf line then
    let rest := line.drop mark.length
    let name := rest.takeWhile (· != ':')
    let value := (rest.dropWhile (· != ':')).drop 1
    if 2 ≤ name.length ∧ name.head?.any isSpace = true ∧ value ≠ [] then
      some (trim name, trim value)
    else none
  else none

/-- `WORKGRAPH_HEADING_RE`. -/
def heading : Option (Chars × Chars) := named "###".toList (trim line)

/-- `WORKGRAPH_FIELD_RE`. -/
def fieldMatch : Option (Chars × Chars) := named "-".toList (trim line)

/-- The matches of a backtick, something without backticks, and a backtick; `span` is what has been read
of one, backwards. -/
def codeSpans (span : Option Chars) : Chars → List Chars
  | [] => []
  | character :: rest =>
    if character = backtick then
      match span with
      | none => codeSpans (some []) rest
      | some [] => codeSpans (some []) rest
      | some (last :: front) => (last :: front).reverse :: codeSpans none rest
    else codeSpans (span.map (character :: ·)) rest

def markdownValues : List Chars :=
  if trim value = "none".toList then [] else (codeSpans none value).map trim

/-- `", ".join(markdown_values(value)) or value`. -/
def markdownText : Chars :=
  let joined := List.intercalate ", ".toList (markdownValues value)
  if joined = [] then value else joined

/-- The fields that are read. -/
inductive Field where
  | labels
  | type
  | status
  | lane
  | dependsOnLanes
  deriving DecidableEq

def normalizeFieldLabel (label : Chars) : String := Lib.Text.lower (String.ofList (trim label))

def fieldNamed (label : Chars) : Option Field :=
  let name := normalizeFieldLabel label
  if name = "labels" then some .labels
  else if name = "type" then some .type
  else if name = "status" then some .status
  else if name = "lane" then some .lane
  else if name = "depends on lanes" then some .dependsOnLanes
  else none

/-- The field that a line sets, and the text that it sets it to. -/
def fieldOf : Option (Field × Chars) := do
  let (label, value) ← fieldMatch line
  let field ← fieldNamed label
  return (field, value)

def Item.set : Field → Chars → Item
  | .labels, value => { item with labels := markdownValues value }
  | .type, value => { item with type := some (markdownText value) }
  | .status, value => { item with status := markdownText value }
  | .lane, value => { item with lane := some (markdownText value) }
  | .dependsOnLanes, value => { item with dependsOnLanes := some (markdownValues value) }

def Item.readLine : Item :=
  match fieldOf line with
  | none => item
  | some (field, value) => item.set field value

def newItem (id title : Chars) : Item :=
  ⟨id, title, "markdown-fallback".toList, [], none, none, none⟩

/-- The loop of the reader; `current` is the item that fields are read into. -/
def readLines (current : Option Item) : List Chars → List Item
  | [] => current.toList
  | line :: rest =>
    match heading line with
    | some (id, title) => current.toList ++ readLines (some (newItem id title)) rest
    | none => readLines (current.map (·.readLine line)) rest

def parseMarkdownWorkgraph (path : String) (text : Chars) : Except PyError (List Item) :=
  if ¬ workgraphFallbackMarker <:+: text ∨ ¬ workgraphItemsHeading <:+: text then
    .error ⟨.base, "SystemExit", path ++ " is not a CWO Markdown workgraph fallback"⟩
  else
    match readLines none (splitLines text) with
    | [] =>
      .error ⟨.base, "SystemExit", path ++ " does not contain any Markdown workgraph items"⟩
    | items => .ok items

/-- `[entry.strip() for entry in value.split(",") if entry.strip()]`. -/
def commaList : List Chars := ((value.splitOn ',').map trim).filter (· ≠ [])

def addAll (found : List Chars) (more : List Chars) : List Chars :=
  more.foldl (fun found entry => if entry ∈ found then found else found ++ [entry]) found

namespace Item

def issueStatus : String :=
  Lib.Text.lower (String.ofList (trim (if item.status = [] then "open".toList else item.status)))

def isClosed : Bool := ["closed", "done", "completed", "resolved"].contains item.issueStatus

def issueType : Chars := trim ((given item.type).getD "issue".toList)

def issueLabels : List Chars := (item.labels.map trim).filter (· ≠ [])

def issueDependencies : List Chars := addAll [] ((item.dependsOnLanes.getD []).flatMap commaList)

/-- The keys under which the dependencies of other items find it. -/
def keys : List Chars := ([trim item.id, trim (item.lane.getD [])]).filter (· ≠ [])

end Item

/-- `dependency_lookup`, asked for one key. -/
def dependencyLookup (items : List Item) (key : Chars) : List Item :=
  items.flatMap fun item => (item.keys.filter (· == key)).map fun _ => item

def codexBlockingLabels : List String := ["contractor-only", "local-worker-only", "no-codex-exec"]

def blockerReasons (items : List Item) (item : Item) : List String :=
  (if item.issueStatus = "blocked" then ["status blocked requires operator decision"] else []) ++
  ((codexBlockingLabels.filter fun label => item.issueLabels.contains label.toList).map fun label =>
    "guard label " ++ label ++ " prevents normal Codex pickup") ++
  item.issueDependencies.flatMap fun dependency =>
    let blockers := dependencyLookup items dependency
    let open' := blockers.filter fun blocker => trim blocker.id != trim item.id && !blocker.isClosed
    if blockers = [] then ["depends on unknown work item " ++ String.ofList dependency]
    else open'.map fun blocker =>
      "depends on " ++ String.ofList (trim blocker.id) ++ " (" ++ blocker.issueStatus ++ ")"

/-- `load_markdown_items`: the epic is added where the file does not have it. -/
def withEpic (epicId : Chars) (items : List Item) : List Item :=
  if items.any fun item => trim item.id == epicId then items
  else
    ⟨epicId, epicId, "markdown-fallback".toList, ["orchestration".toList], some "epic".toList, none,
      none⟩ :: items

/-- The open items of a brief about an epic, with what blocks each of them. -/
def continuationBrief (epicId : Chars) (items : List Item) : List (Chars × List String) :=
  let known := (withEpic epicId items).filter fun item => trim item.id ≠ []
  (known.filter fun item => !item.isClosed && trim item.id != epicId &&
      Lib.Text.lower (String.ofList (trim item.issueType)) != "epic").map fun item =>
    (trim item.id, blockerReasons known item)

end WorkOrchestration.Workgraph
