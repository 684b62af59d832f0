import Ssvc.Evaluation

set_option autoImplicit false

/-! # Selections as arguments

An answer can be written as one argument, with the label before and the choice behind the first
equals sign. White space around the two does not count. Of several answers for a label the last one
counts. -/

namespace Ssvc

/-- An answer for a decision: its label and the choice. -/
structure Selection where
  label : String
  choice : String
  deriving DecidableEq, Repr

namespace Selection

/-- What stands before and behind the first equals sign. -/
def halves? : List Char → Option (List Char × List Char)
  | [] => none
  | c :: rest =>
    if c = '=' then some ([], rest)
    else (halves? rest).map fun (before, behind) => (c :: before, behind)

/-- The message about an argument that is no answer. -/
def refusal (text : String) : String :=
  "Expected LABEL=OPTION, got: " ++ text

/-- Read an argument; the label must not be empty. -/
def read? (text : String) : Option Selection :=
  match halves? text.toList with
  | none => none
  | some (label, choice) =>
    if (Text.trim label).isEmpty then none
    else some ⟨String.ofList (Text.trim label), String.ofList (Text.trim choice)⟩

/-- All answers together. -/
def collect (selections : List Selection) : Selections :=
  selections.foldl (fun all s => Fields.put s.label (.str s.choice) all) []

example : read? " a =b= " = some ⟨"a", "b="⟩ ∧ read? " =x" = none := by decide +kernel

end Selection

end Ssvc
