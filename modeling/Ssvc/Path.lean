import Ssvc.Text.Case
import Ssvc.Text.Blank

set_option autoImplicit false

/-! # Paths

A path is a root, if it has one, and its parts. Empty parts and single dots are dropped when it is
read, double dots are kept. -/

namespace Ssvc

/-- A path. The root is empty for a relative one. -/
structure Path where
  root : String
  parts : List String
  deriving DecidableEq, Repr, Inhabited

namespace Path

/-- Read a path. Exactly two slashes at the start are a root of their own. -/
def read (s : String) : Path :=
  let slashes := (s.toList.takeWhile (· = '/')).length
  let root := if slashes = 0 then "" else if slashes = 2 then "//" else "/"
  ⟨root, (Text.split '/' s).filter fun part => part ≠ "" && part ≠ "."⟩

/-- The text of a path; a dot for the one without parts. -/
def text (path : Path) : String :=
  if path.root = "" && path.parts.isEmpty then "."
  else path.root ++ Text.join "/" path.parts

/-- A path with one more part. -/
def join (path : Path) (part : String) : Path :=
  { path with parts := path.parts ++ [part] }

/-- The path without its last part. -/
def parent (path : Path) : Path :=
  { path with parts := path.parts.dropLast }

/-- What stands from the last dot of the name on, unless that is its first or last character. -/
def extension (path : Path) : String :=
  let name := (path.parts.getLast?.getD "").toList
  let behind := (name.reverse.takeWhile (· ≠ '.')).length
  if behind = 0 || behind + 1 ≥ name.length then ""
  else String.ofList (name.drop (name.length - behind - 1))

example : (read "a//./b.json/").text = "a/b.json" ∧ (read "").text = "." := by decide +kernel
example : (read "x/a.tar.YAML").extension = ".YAML" ∧ (read ".yaml").extension = "" := by
  decide +kernel

end Path

end Ssvc
