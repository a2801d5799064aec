import Mathlib.Data.String.Basic
import WorkOrchestration.Lib.Text

/-!
# Canonical artifacts

Values that cross the adapter boundary and the documents that are sealed with a
SHA-256 of their canonical encoding.  Digests are symbolic: a digest is named by
the document it was taken of, so two digests agree exactly when the encoded
documents agree.  Object fields stand in the order in which the encoder is given
them.
-/

namespace WorkOrchestration.Native.Artifacts

/--
A value exchanged with an adapter or hashed into an artifact.  Arrays end in
`arrEnd` and objects in `objEnd`; `ratio` is a float obtained by true division;
`sha256` is the lowercase digest of the given preimage; `bytes` is hashed text
that is no document; `foreign` is an object of any other type.
-/
inductive Json where
  | null
  | bool (value : Bool)
  | int (value : Int)
  | ratio (numerator : Int) (denominator : Nat)
  | str (text : String)
  | arrEnd
  | item (head tail : Json)
  | objEnd
  | field (key : String) (value rest : Json)
  | sha256 (preimage : Json)
  | bytes (text : String)
  | foreign (typeName : String)
  deriving DecidableEq

namespace Json

def arr (items : List Json) : Json := items.foldr item arrEnd

def obj (fields : List (String × Json)) : Json :=
  fields.foldr (fun entry rest => field entry.1 entry.2 rest) objEnd

/-- `value.get(key)`; a value that is no object has no fields. -/
def get? (key : String) : Json → Option Json
  | field name value rest => if name = key then some value else get? key rest
  | _ => none

def keys : Json → List String
  | field name _ rest => name :: keys rest
  | _ => []

/-- `isinstance(value, Mapping)`. -/
def isObject : Json → Bool
  | field .. => true
  | objEnd => true
  | _ => false

/-- `set(value) == fields`. -/
def hasExactly (fields : List String) (value : Json) : Bool :=
  value.isObject && value.keys.all (fields.contains ·) && fields.all (value.keys.contains ·)

/-- The elements of an array. -/
def elements? : Json → Option (List Json)
  | arrEnd => some []
  | item head tail => (elements? tail).map (head :: ·)
  | _ => none

def optional {α : Type} (encode : α → Json) : Option α → Json
  | none => null
  | some value => encode value

def nat (value : Nat) : Json := .int value

def strings (texts : List String) : Json := arr (texts.map str)

/-- The characters in which a value is written. -/
def encode : Json → List Char
  | null => ['n']
  | bool value => if value then ['t'] else ['f']
  | int value => '#' :: (toString value).toList
  | ratio numerator denominator =>
    '/' :: (toString numerator).toList ++ '|' :: (toString denominator).toList
  | str text => '"' :: text.toList ++ ['"']
  | arrEnd => [']']
  | item head tail => '[' :: encode head ++ encode tail
  | objEnd => ['}']
  | field key value rest => '{' :: key.toList ++ ':' :: encode value ++ encode rest
  | sha256 preimage => '<' :: encode preimage ++ ['>']
  | bytes text => '(' :: text.toList ++ [')']
  | foreign typeName => '?' :: typeName.toList

end Json

/-- A digest, named by the document it was taken of. -/
structure Digest where
  preimage : Json
  deriving DecidableEq

def canonicalSha256 (value : Json) : Digest := ⟨value⟩

/-- `hashlib.sha256(text.encode("utf-8"))`. -/
def textSha256 (text : String) : Digest := ⟨.bytes text⟩

namespace Digest

def json (digest : Digest) : Json := .sha256 digest.preimage

/-- `_is_sha256`: the digest that a value spells, if it spells one. -/
def ofJson? : Json → Option Digest
  | .sha256 preimage => some ⟨preimage⟩
  | _ => none

/-- The characters by which digests are written and sorted. -/
def key (digest : Digest) : List Char := digest.preimage.encode

def hex (digest : Digest) : String := String.ofList digest.key

end Digest

theorem canonicalSha256_injective {left right : Json}
    (same : canonicalSha256 left = canonicalSha256 right) : left = right :=
  congrArg Digest.preimage same

/-- Which `except` clauses catch an exception; `base` is caught by none but `BaseException`. -/
inductive ErrorKind where
  | value
  | type
  | os
  | other
  | base
  deriving DecidableEq

/-- A raised exception: its class name, its text and the clauses that catch it. -/
structure PyError where
  kind : ErrorKind
  typeName : String
  message : String
  deriving DecidableEq

namespace PyError

/-- `f"{type(exc).__name__}:{exc}"`. -/
def describe (error : PyError) : String := error.typeName ++ ":" ++ error.message

/-- Caught by `except Exception`. -/
def isException (error : PyError) : Bool := error.kind != .base

end PyError

theorem bind_ok {α β : Type} {first : Except PyError α} {next : α → Except PyError β} {result : β}
    (done : (first >>= next) = .ok result) :
    ∃ value, first = .ok value ∧ next value = .ok result := by
  cases first with
  | error error => cases done
  | ok value => exact ⟨value, rfl, done⟩

def valueError (message : String) : PyError := ⟨.value, "ValueError", message⟩

/-- What a callback does when it is called. -/
inductive Reply where
  | returned (value : Json)
  | raised (error : PyError)

end WorkOrchestration.Native.Artifacts
