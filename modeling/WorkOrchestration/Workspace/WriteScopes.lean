import Mathlib.Data.List.Sort
import WorkOrchestration.Lib.Runs
import WorkOrchestration.Native.Artifacts

/-!
# Write scopes

The leases of one working directory.  The registry file has one entry for a process and an owner;
every lease object carries the paths that it was made for.
-/

namespace WorkOrchestration.Workspace.WriteScopes

open Lib.Runs Native.Artifacts

/-- `_canonical_scope`; `relativeTo` resolves a path and gives what is left of it below the working
directory. -/
def canonicalScope (relativeTo : String → Option String) (allowedPaths : List String) :
    Except PyError (List String) :=
  allowedPaths.mapM fun raw =>
    match relativeTo raw with
    | some relative => .ok (if relative = "" then "." else relative)
    | none => .error (valueError "write scope is outside workdir")

variable (left : String) (lease : WriteScopeLease) (kill : Nat → Signal) (right : String)

/-- `left.startswith(right + "/")`. -/
def Below : Prop := right.toList ++ ['/'] <+: left.toList

instance : Decidable (Below left right) := inferInstanceAs (Decidable (_ <+: _))

def Overlaps : Prop := left = "." ∨ right = "." ∨ left = right ∨ Below left right ∨ Below right left

instance : Decidable (Overlaps left right) := inferInstanceAs (Decidable (_ ∨ _))

def ScopesOverlap (first second : List String) : Prop :=
  ∃ left ∈ first, ∃ right ∈ second, Overlaps left right

instance (first second : List String) : Decidable (ScopesOverlap first second) :=
  inferInstanceAs (Decidable (∃ left ∈ first, ∃ right ∈ second, _))

/-- What `os.kill(pid, 0)` does. -/
inductive Signal where
  | delivered
  | processLookupError
  | permissionError
  deriving DecidableEq

def processAlive (pid : Nat) : Bool :=
  if pid = 0 then false else kill pid != .processLookupError

/-- An entry of the registry file. -/
structure Entry where
  owner : String
  pid : Nat
  paths : List String

def Entry.key (entry : Entry) : Nat × String := (entry.pid, entry.owner)

/-- `_load_lease_registry`: the entries of live processes. -/
def loadLeaseRegistry (file : List Entry) : List Entry :=
  file.filter fun entry => processAlive kill entry.pid

structure WriteScopeLease where
  allowedPaths : List String
  owner : String
  pid : Nat

namespace WriteScopeLease

/-- `__init__`, in the process `pid`. -/
def make (relativeTo : String → Option String) (allowedPaths : List String) (owner : String)
    (pid : Nat) : Except PyError WriteScopeLease := do
  let scope ← canonicalScope relativeTo allowedPaths
  return ⟨scope.insertionSort (· ≤ ·), owner, pid⟩

def key : Nat × String := (lease.pid, lease.owner)

def entry : Entry := ⟨lease.owner, lease.pid, lease.allowedPaths⟩

def collision (message : String) : PyError := ⟨.other, "WriteScopeLeaseCollision", message⟩

/-- `acquire`: the entries that are written. -/
def acquire (file : List Entry) :
    Except PyError (List Entry) :=
  let entries := loadLeaseRegistry kill file
  if ∃ entry ∈ entries, entry.key ≠ lease.key ∧ ScopesOverlap lease.allowedPaths entry.paths then
    .error (collision "write-scope lease overlaps an active lease")
  else if ∃ entry ∈ entries, entry.key = lease.key then .ok entries
  else .ok (entries ++ [lease.entry])

/-- `release`: the entries that are written. -/
def release (file : List Entry) : List Entry :=
  (loadLeaseRegistry kill file).filter fun entry => entry.key ≠ lease.key

end WriteScopeLease

/-- The registry file and the objects whose `_acquired` is set.  Of these, `held` are the ones whose
process no call that took effect since has found dead. -/
structure System where
  file : List Entry
  acquired : List Nat
  held : List Nat

inductive Move where
  | acquire (object : Nat) (kill : Nat → Signal)
  | release (object : Nat) (kill : Nat → Signal)

def System.empty : System := ⟨[], [], []⟩

def stillHeld (leases : Nat → WriteScopeLease) (kill : Nat → Signal) (held : List Nat) : List Nat :=
  held.filter fun object => processAlive kill (leases object).pid

def System.step (leases : Nat → WriteScopeLease) (system : System) : Move → Except PyError System
  | .acquire object kill =>
    if object ∈ system.acquired then .ok system
    else
      match (leases object).acquire kill system.file with
      | .ok entries =>
        .ok ⟨entries, system.acquired ++ [object], stillHeld leases kill system.held ++ [object]⟩
      | .error error => .error error
  | .release object kill =>
    if object ∈ system.acquired then
      .ok ⟨(leases object).release kill system.file, system.acquired.filter (· ≠ object),
        (stillHeld leases kill system.held).filter (· ≠ object)⟩
    else .ok system

/-- One call of a run: the system that it leaves, or what it raises. -/
structure Transition where
  before : System
  move : Move
  result : Except PyError System

/-- A call that raises has written nothing. -/
def Transition.after (step : Transition) : System :=
  match step.result with
  | .ok system => system
  | .error _ => step.before

def run (leases : Nat → WriteScopeLease) (system : System) : List Move → List Transition
  | [] => []
  | move :: rest =>
    let step : Transition := ⟨system, move, system.step leases move⟩
    step :: run leases step.after rest

end WorkOrchestration.Workspace.WriteScopes
