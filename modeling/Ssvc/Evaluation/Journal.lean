import Ssvc.Evaluation
import Ssvc.Log

set_option autoImplicit false

/-! # Notes about evaluations

What is written to the log while a tree is read, a vector decoded or answers evaluated. The notes
follow the order of the work and stop where the work stops. -/

namespace Ssvc.Journal

open Ssvc.Log

/-- A note of the lowest level. -/
def debugNote (component : Component) (text : String) : Note :=
  ⟨.debug, component, text⟩

/-- The note about a tree that was read. -/
def treeNotes (tree : Tree) : Notes :=
  [debugNote .tree ("Parsed decision tree '" ++ tree.title.text ++ "': "
    ++ toString tree.points.length ++ " points, " ++ toString tree.main.length
    ++ " main decisions")]

/-- The notes about decoding a vector. -/
def decodeNotes (tree : Tree) (vector : Value) : Notes :=
  let pairs := Vector.pairsOf vector
  match pairs.getLast? with
  | none => [debugNote .vector ("Vector has no decision path: " ++ vector.quoted)]
  | some (_, key) =>
    match Vector.lastPoint? tree pairs.length with
    | none =>
      [debugNote .vector ("Path length " ++ toString pairs.length ++ " matches neither "
        ++ toString tree.main.length ++ " main decisions nor " ++ toString tree.points.length
        ++ " decision points")]
    | some point =>
      match point.choiceWithKey? (.str key) with
      | none =>
        [debugNote .vector ("No option '" ++ key ++ "' in decision '" ++ point.label.text ++ "'")]
      | some _ => []

/-- The notes about the children of a point. -/
def childNotes (tree : Tree) (point : Point) : Notes :=
  (tree.danglingOf point).map fun label =>
    debugNote .tree ("Child '" ++ label.text ++ "' of '" ++ point.label.text ++ "' is not declared")

/-- The notes about deriving a choice. -/
def deriveNotes (tree : Tree) (selections : Selections) (point : Point) : Notes :=
  childNotes tree point ++
    match Evaluation.picks? selections (tree.childrenOf point) with
    | none => []
    | some picks =>
      match Evaluation.firstHolding picks point.choices with
      | .ok (some choice) =>
        [debugNote .evaluation ("Derived '" ++ choice.label.text ++ "' for '" ++ point.label.text
          ++ "' from children")]
      | .ok none =>
        [debugNote .evaluation ("No child combination of '" ++ point.label.text ++ "' matches")]
      | .error _ => []

/-- The notes about main decisions, up to the first one without a choice. -/
def resolveNotes (tree : Tree) (selections : Selections) : List Point → Notes
  | [] => []
  | point :: rest =>
    let derived :=
      if (point.pick? (selections.answer point.label)).isNone && point.isComplex then
        deriveNotes tree selections point
      else []
    match Evaluation.resolve tree selections point with
    | .ok _ => derived ++ resolveNotes tree selections rest
    | .error _ => derived

/-- The notes about the outcome and the walk. -/
def walkNotes (tree : Tree) (selections : Selections) (resolved : List Evaluation.Resolved)
    (final : Point) (outcome : Choice) : Notes :=
  let chosen :=
    if (final.pick? (selections.answer final.label)).isSome then
      [⟨.info, .evaluation, "Outcome '" ++ outcome.label.text ++ "' chosen directly for '"
        ++ final.label.text ++ "'"⟩]
    else []
  let missing := tree.points.find? fun point =>
    (Evaluation.choiceOf? selections resolved final outcome point).isNone
  chosen ++
    match missing with
    | some point =>
      if resolved.any (·.derived) then
        [debugNote .evaluation ("'" ++ point.label.text
          ++ "' has no choice; encoding main decisions only")]
      else []
    | none => []

/-- The notes about an evaluation. -/
def evaluateNotes (tree : Tree) (selections : Selections) : Notes :=
  match tree.final? with
  | none => []
  | some final =>
    resolveNotes tree selections tree.inner ++
      match Evaluation.resolveAll tree selections tree.inner with
      | .error _ => []
      | .ok resolved =>
        match Evaluation.findOutcome tree selections final resolved with
        | .error _ => []
        | .ok outcome => walkNotes tree selections resolved final outcome

end Ssvc.Journal
