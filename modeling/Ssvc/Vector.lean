import Ssvc.Tree
import Ssvc.Time.DateTime

set_option autoImplicit false

/-! # Vectors

A vector is the text of a walk through a decision tree:

    scheme/key:choice/…/key:choice/time/

Reading takes the pairs between the scheme and the last two segments. Only the last pair is
resolved against a tree: its decision is told by the number of pairs alone. A walk as long as the
main decisions ends at the last main decision, else one as long as all points ends at the last
point. -/

namespace Ssvc.Vector

/-- The scheme of a vector when none is chosen. -/
def defaultScheme : String := "SSVCv2"

/-! ## Writing -/

/-- The part of a vector for a point and its choice. -/
def fragment (pair : Point × Choice) : String :=
  pair.1.key.text ++ ":" ++ pair.2.key.text

/-- The vector of a walk. -/
def write (scheme : String) (walk : List (Point × Choice)) (stamp : String) : String :=
  Text.join "/" (scheme :: walk.map fragment ++ [stamp]) ++ "/"

/-- The vector of a walk; without a time stamp, or with an empty one, that of `now` is used. There
is no vector when `now` has no time stamp. -/
def encode? (scheme : String) (walk : List (Point × Choice)) (stamp : Option String)
    (now : Time.DateTime) : Option String :=
  match stamp with
  | some stamp =>
    if stamp = "" then now.stamp?.map (write scheme walk) else some (write scheme walk stamp)
  | none => now.stamp?.map (write scheme walk)

/-! ## Reading -/

/-- The short key and the choice key of a fragment: what stands before and after the first colon,
up to the second one. -/
def readFragment (fragment : String) : String × String :=
  match Text.split ':' fragment with
  | key :: choice :: _ => (key, choice)
  | [key] => (key, "")
  | [] => ("", "")

/-- The segments that hold the walk: all but the first and the last two. -/
def inner (segments : List String) : List String :=
  (segments.drop 1).dropLast.dropLast

/-- The pairs of a vector. -/
def pairs (vector : String) : List (String × String) :=
  (inner (Text.split '/' vector)).map readFragment

/-- The pairs of a value; one that is no text has none. -/
def pairsOf : Value → List (String × String)
  | .str vector => pairs vector
  | _ => []

/-! ## Decoding -/

/-- A vector with the label and the colour of its outcome, both empty if it has none. -/
structure Decoded where
  vector : Value
  label : Value
  color : Value
  deriving Inhabited, Repr

/-- Holds when an outcome was found. -/
def Decoded.isResolved (decoded : Decoded) : Bool :=
  decoded.label.truthy

/-- The vector without an outcome. -/
def unresolved (vector : Value) : Decoded :=
  ⟨vector, "", ""⟩

/-- The vector with a choice as its outcome. -/
def resolved (vector : Value) (choice : Choice) : Decoded :=
  ⟨vector, choice.label, choice.color.orElse ""⟩

/-- The point that a walk of some length ends at. -/
def lastPoint? (tree : Tree) (length : Nat) : Option Point :=
  if tree.main ≠ [] ∧ length = tree.main.length then tree.main.getLast?
  else if tree.points ≠ [] ∧ length = tree.points.length then tree.points.getLast?
  else none

/-- The outcome of a vector. -/
def decode (tree : Tree) (vector : Value) : Decoded :=
  match (pairsOf vector).getLast? with
  | none => unresolved vector
  | some (_, key) =>
    match lastPoint? tree (pairsOf vector).length with
    | none => unresolved vector
    | some point =>
      match point.choiceWithKey? (.str key) with
      | none => unresolved vector
      | some choice => resolved vector choice

end Ssvc.Vector
