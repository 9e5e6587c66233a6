import SchemaLedger.Text.Utf8

namespace SchemaLedger

/-- A list cut at every element that separates. -/
def splitAtEach {α : Type} (separates : α → Bool) : List α → List (List α)
  | [] => [[]]
  | c :: rest =>
    if separates c then [] :: splitAtEach separates rest
    else match splitAtEach separates rest with
      | [] => [[c]]
      | first :: others => (c :: first) :: others

namespace Path

/-- The components of a path: what stands between slashes and is neither empty nor a dot. A slash at
the front is a component, and so is a dot there. -/
def components (path : String) : List String :=
  let parts := (splitAtEach (· == '/') path.toList).map String.ofList
  let named := parts.filter fun p => p ≠ "" && p ≠ "."
  match parts with
  | "" :: _ :: _ => "/" :: named
  | "." :: _ => "." :: named
  | _ => named

/-- Lengths of paths are counted in bytes. -/
def length (path : String) : Nat := path.utf8ByteSize

/-- How long a path and one component of it may be. -/
structure Limits where
  whole : Nat
  component : Nat
deriving DecidableEq, Repr

inductive Fault
  | tooLong
  | componentTooLong
deriving DecidableEq, Repr

/-- What is wrong with the length of a path, the whole before its parts. -/
def fault? (limits : Limits) (path : String) : Option Fault :=
  if limits.whole < length path then some .tooLong
  else if (components path).any fun c => limits.component < length c then some .componentTooLong
  else none

end Path

end SchemaLedger
