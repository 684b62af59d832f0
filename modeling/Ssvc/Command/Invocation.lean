import Ssvc.Arguments
import Ssvc.Path
import Ssvc.Selection

set_option autoImplicit false

/-! # Invocations

The command line of triage: a configuration and a level of notes, which both come first and may be
left out, then one of six commands with arguments of its own. -/

namespace Ssvc

/-- What is asked for. -/
inductive Command where
  | steps
  | decode (vectors : List String)
  | evaluate (selections : List Selection)
  | transitions (roles : List Value) (source : Value)
  | check (roles : List Value) (source target : Value)
  | report (file : Path)
  deriving Repr

/-- A command line: the name of the configuration, a level of notes if one is given, and the
command. -/
structure Invocation where
  config : Value
  level : Option Value
  command : Command
  deriving Repr

namespace Invocation

open Arguments

/-- The name of the configuration when none is given. -/
def standardConfig : String := "config.yaml"

/-! ## Grammars -/

/-- The names of the commands. -/
def commandNames : List String :=
  ["steps", "decode", "evaluate", "transitions", "check", "report"]

/-- What is wrong with the name of a command. -/
def commandFault? (name : String) : Option String :=
  if commandNames.contains name then none
  else some ("invalid choice: " ++ Text.quote name ++ " (choose from "
    ++ Text.join ", " (commandNames.map Text.quote) ++ ")")

/-- What is wrong with an argument that is meant as an answer. -/
def selectionFault? (text : String) : Option String :=
  if (Selection.read? text).isSome then none else some (Selection.refusal text)

/-- The grammar of whole command lines. -/
def outerGrammar : Grammar :=
  ⟨[helpFlag, optionalFlag "--config" "config", optionalFlag "--log-level" "level"],
    some ⟨"command", .rest, commandFault?⟩⟩

/-- The grammar of a command that takes an operand. -/
def operandGrammar (name : String) (arity : Arity) (fault? : String → Option String) : Grammar :=
  ⟨[helpFlag], some ⟨name, arity, fault?⟩⟩

/-- The grammar of a command that takes flags. -/
def flagGrammar (flags : List Flag) : Grammar :=
  ⟨helpFlag :: flags, none⟩

/-- The flag for a role. -/
def roleFlag : Flag := requiredFlag "--role" "role"

/-- The flag for the state that a transition leaves. -/
def fromFlag : Flag := requiredFlag "--from" "from"

/-- The flag for the state that a transition leads to. -/
def toFlag : Flag := requiredFlag "--to" "to"

/-- The grammar of the arguments of a command. -/
def grammarOf : String → Grammar
  | "decode" => operandGrammar "vectors" .several fun _ => none
  | "evaluate" => operandGrammar "LABEL=OPTION" .several selectionFault?
  | "transitions" => flagGrammar [roleFlag, fromFlag]
  | "check" => flagGrammar [roleFlag, fromFlag, toFlag]
  | "report" => operandGrammar "vectors_file" .one fun _ => none
  | _ => flagGrammar []

/-! ## Reading -/

/-- The value that a flag was given; where there is none it is an empty list. -/
def given : Option String → Value
  | some text => .str text
  | none => .arr []

/-- The command with a name and the arguments that were read for it. -/
def commandOf (name : String) (reading : Reading) : Command :=
  let operands := reading.operands.getD []
  let roles := (reading.all "role").map given
  let source := given ((reading.last? "from").getD none)
  match name with
  | "decode" => .decode operands
  | "evaluate" => .evaluate (operands.filterMap Selection.read?)
  | "transitions" => .transitions roles source
  | "check" => .check roles source (given ((reading.last? "to").getD none))
  | "report" => .report (Path.read (operands.headD ""))
  | _ => .steps

/-- Read a command line. What both grammars leave over is reported at the end. -/
def read (arguments : List String) : Except Fault Invocation := do
  let outer ← Arguments.read outerGrammar arguments
  let name := (outer.operands.getD []).headD ""
  let inner ← Arguments.read (grammarOf name) ((outer.operands.getD []).drop 1)
  match outer.extras ++ inner.extras with
  | [] =>
    return ⟨given ((outer.last? "config").getD (some standardConfig)),
      (outer.last? "level").map given, commandOf name inner⟩
  | extras => .error (.leftOver extras)

end Invocation

end Ssvc
