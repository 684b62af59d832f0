import Ssvc.Text.Digit
import Ssvc.Value.Quoted

set_option autoImplicit false

/-! # Argument lists

An argument list is read by a grammar: flags, which start with a dash and may take a value, and at
most one kind of operand. A flag may be cut short as long as only one flag starts that way, and its
value may follow an equals sign. After two dashes on their own everything is an operand. Two dashes
are never a value: a flag that gets them has been given, but without a value. What no rule takes is
left over. -/

namespace Ssvc.Arguments

/-! ## Grammars -/

/-- What a flag does: ask for help, or give a value a name. -/
inductive Effect where
  | help
  | store (name : String)
  deriving DecidableEq, Repr

/-- A flag with its spellings. -/
structure Flag where
  spellings : List String
  effect : Effect
  isRequired : Bool
  deriving DecidableEq, Repr

/-- How many arguments an operand takes: one, those up to the next flag but at least one, or one
and everything behind it. -/
inductive Arity where
  | one
  | several
  | rest
  deriving DecidableEq, Repr

/-- An operand: its name in messages, how many arguments it takes, and what is wrong with an
argument, if anything is. -/
structure Operand where
  name : String
  arity : Arity
  fault? : String → Option String

/-- A grammar of argument lists. -/
structure Grammar where
  flags : List Flag
  operand : Option Operand

/-- The flag that asks for help. -/
def helpFlag : Flag := ⟨["-h", "--help"], .help, false⟩

/-- A flag with a value that must be given. -/
def requiredFlag (spelling name : String) : Flag := ⟨[spelling], .store name, true⟩

/-- A flag with a value that may be left out. -/
def optionalFlag (spelling name : String) : Flag := ⟨[spelling], .store name, false⟩

/-- Why an argument list cannot be read, or that help is asked for. -/
inductive Fault where
  | help
  | ambiguous (argument : String) (spellings : List String)
  | ignoredValue (name value : String)
  | missingValue (name : String)
  | refused (name reason : String)
  | missing (names : List String)
  | leftOver (arguments : List String)
  deriving DecidableEq, Repr

/-- The message of a fault. -/
def Fault.message : Fault → String
  | .help => ""
  | .ambiguous argument spellings =>
    "ambiguous option: " ++ argument ++ " could match " ++ Text.join ", " spellings
  | .ignoredValue name value =>
    "argument " ++ name ++ ": ignored explicit argument " ++ Text.quote value
  | .missingValue name => "argument " ++ name ++ ": expected one argument"
  | .refused name reason => "argument " ++ name ++ ": " ++ reason
  | .missing names => "the following arguments are required: " ++ Text.join ", " names
  | .leftOver arguments => "unrecognized arguments: " ++ Text.join " " arguments

/-- The name of a flag in messages. -/
def Flag.name (flag : Flag) : String :=
  Text.join "/" flag.spellings

/-! ## Tokens -/

/-- What an argument is taken for. -/
inductive Token where
  | operand (text : String)
  | separator
  | flag (text : String) (flag : Flag) (value : Option String)
  | unknown (text : String)
  deriving DecidableEq, Repr

/-- The argument that a token was made of. -/
def Token.text : Token → String
  | .operand text => text
  | .separator => "--"
  | .flag text _ _ => text
  | .unknown text => text

/-- Holds of the tokens that are no flags. -/
def Token.isPlain : Token → Bool
  | .operand _ => true
  | .separator => true
  | _ => false

/-- All spellings with their flags. -/
def Grammar.spellings (grammar : Grammar) : List (String × Flag) :=
  grammar.flags.flatMap fun flag => flag.spellings.map fun spelling => (spelling, flag)

/-- What stands before and behind the first equals sign; without one there is nothing behind. -/
def cutValue : List Char → List Char × Option (List Char)
  | [] => ([], none)
  | c :: rest =>
    if c = '=' then ([], some rest)
    else
      let (before, behind) := cutValue rest
      (c :: before, behind)

/-- The digits at the start, and what follows. -/
def spanDigits (cs : List Char) : List Char × List Char :=
  cs.span fun c => (Text.digitValue? c).isSome

/-- Holds of what may follow a negative number. -/
def isEnd (cs : List Char) : Bool :=
  cs.isEmpty || cs == ['\n']

/-- Holds of negative numbers: a dash and digits, with a point somewhere before the last one. -/
def isNegative : List Char → Bool
  | '-' :: cs =>
    match spanDigits cs with
    | (_, '.' :: rest) =>
      let (places, rest) := spanDigits rest
      !places.isEmpty && isEnd rest
    | (digits, rest) => !digits.isEmpty && isEnd rest
  | _ => false

/-- The spellings that an argument with two dashes can be short for, with its value. -/
def longMatches (grammar : Grammar) (argument : List Char) : List (String × Flag × Option String) :=
  let (start, value) := cutValue argument
  (grammar.spellings.filter fun (spelling, _) => start.isPrefixOf spelling.toList).map
    fun (spelling, flag) => (spelling, flag, value.map String.ofList)

/-- The spellings that an argument with one dash can be: the one of its first letter, whose value
is the rest, or those that start with it. -/
def shortMatches (grammar : Grammar) (argument : List Char) :
    List (String × Flag × Option String) :=
  grammar.spellings.filterMap fun (spelling, flag) =>
    if spelling.toList = argument.take 2 then
      some (spelling, flag, some (String.ofList (argument.drop 2)))
    else if argument.isPrefixOf spelling.toList then some (spelling, flag, none)
    else none

/-- What an argument is taken for that starts with a dash and is no spelling as it stands. -/
def classifyDashed (grammar : Grammar) (text : String) : Except Fault Token :=
  let cs := text.toList
  let found :=
    if "--".toList.isPrefixOf cs then longMatches grammar cs else shortMatches grammar cs
  match found with
  | [(_, flag, value)] => .ok (.flag text flag value)
  | [] => .ok (if isNegative cs || cs.contains ' ' then .operand text else .unknown text)
  | several => .error (.ambiguous text (several.map (·.1)))

/-- What an argument is taken for. -/
def classify (grammar : Grammar) (text : String) : Except Fault Token :=
  match text.toList with
  | '-' :: _ :: _ =>
    match grammar.spellings.lookup text with
    | some flag => .ok (.flag text flag none)
    | none =>
      let (start, value) := cutValue text.toList
      match value, grammar.spellings.lookup (String.ofList start) with
      | some value, some flag => .ok (.flag text flag (some (String.ofList value)))
      | _, _ => classifyDashed grammar text
  | _ => .ok (.operand text)

/-- The tokens of an argument list. -/
def tokens (grammar : Grammar) : List String → Except Fault (List Token)
  | [] => .ok []
  | text :: rest =>
    if text = "--" then .ok (.separator :: rest.map .operand)
    else do
      let token ← classify grammar text
      return token :: (← tokens grammar rest)

/-! ## Reading -/

/-- What was read: values by their names, the arguments of the operand, and what is left over. A
value is missing where a flag was given two dashes. -/
structure Reading where
  values : List (String × Option String)
  operands : Option (List String)
  extras : List String
  deriving DecidableEq, Repr

namespace Reading

/-- Nothing read. -/
def empty : Reading := ⟨[], none, []⟩

/-- Add a value. -/
def store (reading : Reading) (name value : String) : Reading :=
  let kept := if value = "--" then none else some value
  { reading with values := reading.values ++ [(name, kept)] }

/-- Leave an argument over. -/
def leave (reading : Reading) (text : String) : Reading :=
  { reading with extras := reading.extras ++ [text] }

/-- All values with a name. -/
def all (reading : Reading) (name : String) : List (Option String) :=
  (reading.values.filter fun value => value.1 = name).map (·.2)

/-- The last value with a name. -/
def last? (reading : Reading) (name : String) : Option (Option String) :=
  (reading.all name).getLast?

/-- Holds when a flag has been given a value. -/
def has (reading : Reading) (flag : Flag) : Bool :=
  match flag.effect with
  | .help => false
  | .store name => !(reading.all name).isEmpty

end Reading

/-- The tokens that an operand takes from the start, and the others. It takes none unless an
argument comes first, maybe behind two dashes. -/
def take (arity : Arity) (tokens : List Token) : Option (List Token × List Token) :=
  let (separators, rest) := tokens.span (· = .separator)
  match rest with
  | .operand text :: rest =>
    let first := separators ++ [.operand text]
    match arity with
    | .one =>
      let (more, rest) := rest.span (· = .separator)
      some (first ++ more, rest)
    | .several =>
      let (more, rest) := rest.span Token.isPlain
      some (first ++ more, rest)
    | .rest => some (first ++ rest, [])
  | _ => none

/-- The arguments of an operand. Two dashes on their own are no argument, unless everything is
taken. -/
def Operand.arguments (operand : Operand) (taken : List Token) : List String :=
  if operand.arity = .rest then taken.map Token.text
  else (taken.filter (· ≠ .separator)).map Token.text

/-- Check the arguments of an operand; of one that takes everything only the first is checked. -/
def Operand.checked (operand : Operand) (arguments : List String) : Except Fault (List String) :=
  let toCheck := if operand.arity = .rest then arguments.take 1 else arguments
  match toCheck.findSome? operand.fault? with
  | some reason => .error (.refused operand.name reason)
  | none => .ok arguments

/-- What asking for help leads to, given the argument that does so and the value in it. Behind a
single dash the letter that asks for help may be repeated; whatever else follows is not used. -/
def helpFault (flag : Flag) (text : String) : Option String → Fault
  | none => .help
  | some value =>
    let isLong := "--".toList.isPrefixOf text.toList
    let unused := if isLong then value.toList else value.toList.dropWhile (· = 'h')
    if unused.isEmpty && value ≠ "" && !isLong then .help
    else .ignoredValue flag.name (String.ofList unused)

/-- Read a flag and the value behind it; the other tokens are returned. -/
def readFlag (flag : Flag) (text : String) (value : Option String) (rest : List Token)
    (reading : Reading) : Except Fault (Reading × List Token) :=
  match flag.effect, value, rest with
  | .help, value, _ => .error (helpFault flag text value)
  | .store name, some value, rest => .ok (reading.store name value, rest)
  | .store name, none, .operand value :: rest => .ok (reading.store name value, rest)
  | .store _, none, _ => .error (.missingValue flag.name)

/-- Read tokens from the left. Each step takes at least one of them, so `fuel` steps are enough for
that many tokens. -/
def readTokens (grammar : Grammar) : Nat → List Token → Reading → Except Fault Reading
  | _, [], reading => .ok reading
  | 0, tokens, reading => .ok { reading with extras := reading.extras ++ tokens.map Token.text }
  | fuel + 1, .unknown text :: rest, reading => readTokens grammar fuel rest (reading.leave text)
  | fuel + 1, .flag text flag value :: rest, reading => do
    let (reading, rest) ← readFlag flag text value rest reading
    readTokens grammar fuel rest reading
  | fuel + 1, token :: rest, reading =>
    match grammar.operand, reading.operands with
    | some operand, none =>
      match take operand.arity (token :: rest) with
      | some (taken, rest) => do
        let arguments ← operand.checked (operand.arguments taken)
        readTokens grammar fuel rest { reading with operands := some arguments }
      | none => readTokens grammar fuel rest (reading.leave token.text)
    | _, _ => readTokens grammar fuel rest (reading.leave token.text)

/-- The names of what must be given and is not. -/
def Grammar.missing (grammar : Grammar) (reading : Reading) : List String :=
  let flags := grammar.flags.filter fun flag => flag.isRequired && !reading.has flag
  flags.map Flag.name ++
    match grammar.operand, reading.operands with
    | some operand, none => [operand.name]
    | _, _ => []

/-- Check that everything is there that must be given. -/
def Grammar.complete (grammar : Grammar) (reading : Reading) : Except Fault Reading :=
  match grammar.missing reading with
  | [] => .ok reading
  | names => .error (.missing names)

/-- Read an argument list. -/
def read (grammar : Grammar) (arguments : List String) : Except Fault Reading := do
  let tokens ← tokens grammar arguments
  grammar.complete (← readTokens grammar tokens.length tokens Reading.empty)

end Ssvc.Arguments
