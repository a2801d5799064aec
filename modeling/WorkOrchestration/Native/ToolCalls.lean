import WorkOrchestration.Native.Documents

/-!
# Tool calls in session records

The items that a session record carries, and the recognizers of tool calls and of their outputs.
-/

namespace WorkOrchestration.Native.ToolCalls

open Lib.Text Artifacts

def itemsOf (value : Json) : List Json :=
  if value.isObject then [value] else (value.elements?.getD []).filter Json.isObject

def eventItems (record : Json) : List Json :=
  if record.isObject then
    ((["response_item", "response_items", "items"].map fun key => record.value key) ++
      (if record.value "type" = .str "response_item" then [record.value "payload"] else []) ++
      [record]).flatMap itemsOf
  else []

def STANDARD_TOOL_CALL_TYPES : List String :=
  ["function_call", "functioncall", "custom_tool_call", "customtoolcall", "tool_call", "toolcall"]

/-- `str(item.get("type") or item.get("kind") or "").lower()`, which is empty here for a value that is
no string: none of the recognizers accepts how it is spelled. -/
def itemKind (item : Json) : String :=
  match if (item.value "type").truthy then item.value "type" else item.value "kind" with
  | .str text => lower text
  | _ => ""

def endsWith (text ending : String) : Bool := ending.toList.isSuffixOf text.toList

def isToolCallItem (item : Json) : Bool :=
  let kind := itemKind item
  kind != "" && !endsWith kind "output" &&
    (STANDARD_TOOL_CALL_TYPES.contains kind || endsWith kind "_call" || endsWith kind "call")

def isToolOutputItem (item : Json) : Bool :=
  let kind := itemKind item
  ["function_call_output", "custom_tool_call_output", "tool_output", "function_output"].contains kind
    || endsWith kind "_call_output" || endsWith kind "calloutput"

end WorkOrchestration.Native.ToolCalls
