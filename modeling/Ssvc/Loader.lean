import Ssvc.Evaluation.Journal
import Ssvc.Http.Client
import Ssvc.Tree.Coordinator

set_option autoImplicit false

/-! # Loading trees

A tree comes from a file or a server, or is the one that is built in. Every load reads the document
anew, but a client may keep what it has fetched. A loader reports what is wrong with a source, and
keeps a record of how the last load went; what is wrong with the machine passes it by. -/

namespace Ssvc

/-! ## Sources -/

/-- Where a tree comes from. -/
inductive Source where
  | builtIn
  | named (name : String)
  deriving DecidableEq, Repr

namespace Source

/-- A source as it stands in messages. -/
def text : Source → String
  | .builtIn => "<DEFAULT_TREE>"
  | .named name => name

/-- Holds of the names that belong to a server. -/
def isAddress (name : String) : Bool :=
  "http://".toList.isPrefixOf name.toList || "https://".toList.isPrefixOf name.toList

/-- Holds of the sources that are on a server. -/
def isRemote : Source → Bool
  | .builtIn => false
  | .named name => isAddress name

/-- The source that a configuration names; an empty value stands for the tree that is built in. -/
def read (v : Value) : Source :=
  if v.truthy then .named v.text else .builtIn

end Source

/-! ## Errors -/

/-- What is behind a tree that cannot be loaded. -/
inductive LoadCause where
  | shape (cause : ShapeError)
  | json (fault : Json.Fault) (text : String)
  | markup (message : String)
  | fetch (cause : Http.FetchError)
  | outside (message : String)
  deriving DecidableEq, Repr

/-- The text of a cause. -/
def LoadCause.text : LoadCause → String
  | .shape cause => cause.message
  | .json fault text => fault.message text
  | .markup message => message
  | .fetch cause => cause.message
  | .outside message => message

/-- What a loader reports about a source. -/
inductive LoadError where
  | notFound (path : String)
  | unreadable (path : String) (cause : LoadCause)
  | notMapping (source : String)
  | unreachable (source : String) (cause : LoadCause)
  | malformed (source : String) (cause : LoadCause)
  deriving DecidableEq, Repr

namespace LoadError

/-- The message of an error, with the words that `say` finds for its cause. -/
def messageWith (say : LoadCause → String) : LoadError → String
  | notFound path => "Decision tree file not found: " ++ path
  | unreadable path cause => "Failed to parse decision tree file " ++ path ++ ": " ++ say cause
  | notMapping source => "Decision tree in " ++ source ++ " is not a mapping"
  | unreachable source cause =>
    "Failed to fetch decision tree from " ++ source ++ ": " ++ say cause
  | malformed source cause => "Malformed decision tree in " ++ source ++ ": " ++ say cause

/-- The message of an error as it is recorded; a malformed tree is recorded without its source. -/
def recordWith (say : LoadCause → String) : LoadError → String
  | malformed _ cause => "Malformed decision tree: " ++ say cause
  | other => other.messageWith say

/-- The message of an error. -/
def message : LoadError → String :=
  messageWith LoadCause.text

/-- The message of an error as it is recorded. -/
def record : LoadError → String :=
  recordWith LoadCause.text

end LoadError

/-- Why there is no document or no tree: something that is reported as it arises, or a file that
cannot be read at all, a text that is beyond what is read, a failure of the reader of markup, a
request that cannot be made, or labels that are no texts. -/
inductive LoadFailure where
  | reported (error : LoadError)
  | disk (error : DiskError)
  | beyond (excess : Json.Excess)
  | markup (fault : OutsideFault)
  | fetch (error : Http.FetchError)
  | labels (cause : ShapeError)
  deriving DecidableEq, Repr

namespace LoadFailure

/-- The message of a failure. -/
def message : LoadFailure → String
  | .reported error => error.message
  | .disk error => error.message
  | .beyond excess => excess.message
  | .markup fault => fault.message
  | .fetch error => error.message
  | .labels cause => cause.message

/-- What a load makes of a failure outside: one about the shape of a value is taken for a fault of
the tree. -/
def outside? (source : Source) (fault : OutsideFault) : Option LoadError :=
  if fault.kind = .shape then some (.malformed source.text (.outside fault.message)) else none

/-- What a load reports about its source after a failure, if it does not let it pass by. -/
def report? (source : Source) : LoadFailure → Option LoadError
  | .reported error => some error
  | .markup fault => outside? source fault
  | .fetch (.send (.outside fault)) => outside? source fault
  | .disk _ | .beyond _ | .fetch _ | .labels _ => none

end LoadFailure

/-! ## Documents -/

/-- Holds of the files that are written in markup. -/
def isMarkupFile (path : Path) : Bool :=
  [".yaml", ".yml"].contains (Text.lowerAscii path.extension)

/-- The document in a text that was read from a file in markup. -/
def parseMarkup (read : MarkupReader) (path : Path) (text : String) : Except LoadFailure Value :=
  match read text with
  | .ok document => .ok document
  | .error (.malformed message) => .error (.reported (.unreadable path.text (.markup message)))
  | .error (.outside fault) => .error (.markup fault)

/-- The document in a text that was read from another file. -/
def parseJson (path : Path) (text : String) : Except LoadFailure Value :=
  match Json.read text with
  | .ok document => .ok document
  | .error (.beyond excess) => .error (.beyond excess)
  | .error fault => .error (.reported (.unreadable path.text (.json fault text)))

/-- Read the document in the file with a name. -/
def readDocument (read : MarkupReader) (disk : Disk) (name : String) :
    Except LoadFailure Value := do
  let path := Path.read name
  if ← (disk.hasPath path).mapError .disk then
    if isMarkupFile path then
      parseMarkup read path (← (disk.readText .stream path path.text).mapError .disk)
    else parseJson path (← (disk.readText .whole path path.text).mapError .disk)
  else .error (.reported (.notFound path.text))

/-- Holds of the errors while fetching that are reported: those of requests, an open breaker, and
values that cannot be used. -/
def isReported : Http.FetchError → Bool
  | .circuitOpen _ => true
  | .send (.connection _) | .send (.timeout _) | .send (.request _) => true
  | .send (.outside fault) => fault.kind = .value
  | .status _ _ => true
  | .badBody (.malformed _ _) _ => true
  | .badBody (.beyond (.digits _)) _ => true
  | .badBody (.beyond .listDepth) _ | .badBody (.beyond .objectDepth) _
  | .badBody (.beyond .depth) _ => false
  | .exhausted _ _ => false
  | .delayTooLarge => false
  | .badWait fault => fault.kind = .value
  | .badDate _ => false

/-- What to make of an error while fetching from a source. -/
def fetchFailure (source : String) (error : Http.FetchError) : LoadFailure :=
  if isReported error then .reported (.unreachable source (.fetch error)) else .fetch error

/-- A document, which must be an object. -/
def requireMapping (source : Source) : Value → Except LoadFailure Value
  | .obj fields => .ok (.obj fields)
  | _ => .error (.reported (.notMapping source.text))

/-! ## The loader -/

/-- How the last load went. -/
structure Health where
  source : String
  isHealthy : Bool
  lastLoad : Option Time.DateTime
  points : Nat
  trouble : Option LoadError
  deriving Repr

/-- A loader: its source, the client that it fetches with, and how the last load went. -/
structure Loader (τ : Type) where
  source : Source
  client : Http.Client τ
  health : Health
  deriving Repr

namespace Loader

variable {τ : Type}

/-- A loader that has loaded nothing. -/
def new (source : Source) (client : Http.Client τ) : Loader τ :=
  ⟨source, client, ⟨source.text, false, none, 0, none⟩⟩

/-- Read the settings of a loader. Without a client of its own it gets one whose settings are read
as well. -/
def read [Time.Ticks τ] (config : Value) (own? : Option (Http.Client τ)) :
    Except Http.SettingError (Loader τ) := do
  let fields ← ((config.orElse (.obj [])).fieldsFor "get").mapError .malformed
  let source := Source.read ((fields.lookup "source").getD .null)
  match own? with
  | some client => return new source client
  | none =>
    let retry ← Http.Retry.read ((fields.lookup "http").getD .null)
    return new source (Http.Client.new retry)

/-- Fetch the document at an address. -/
def fetchDocument [Time.Ticks τ] (loader : Loader τ) (address : String) (host : Host τ) :
    Except LoadFailure Value × Loader τ × Host τ :=
  let (result, session) := Http.fetch address .null ⟨loader.client, host⟩
  (result.mapError (fetchFailure address), { loader with client := session.client }, session.host)

/-- The value at the source, whatever its shape. -/
def sourceValue [Time.Ticks τ] (loader : Loader τ) (host : Host τ) :
    Except LoadFailure Value × Loader τ × Host τ :=
  match loader.source with
  | .builtIn => (.ok Coordinator.document, loader, host)
  | .named name =>
    if Source.isAddress name then loader.fetchDocument name host
    else (readDocument host.platform.readMarkup host.disk name, loader, host)

/-- The document at the source. -/
def document [Time.Ticks τ] (loader : Loader τ) (host : Host τ) :
    Except LoadFailure Value × Loader τ × Host τ :=
  let (result, loader, host) := loader.sourceValue host
  (result.bind (requireMapping loader.source), loader, host)

/-- Record that a load has failed. -/
def fail (loader : Loader τ) (error : LoadError) (host : Host τ) :
    Except LoadFailure Tree × Loader τ × Host τ :=
  let health := ⟨loader.source.text, false, some host.civilClock, 0, some error⟩
  (.error (.reported error), { loader with health }, host.note [⟨.error, .loader, error.record⟩])

/-- The note about a tree that was loaded. -/
def loadedNote (source : Source) (tree : Tree) (steps : String) : Log.Note :=
  ⟨.info, .loader, "Loaded decision tree '" ++ tree.title.text ++ "' " ++ tree.version.text
    ++ " from " ++ source.text ++ ": steps=" ++ steps⟩

/-- Record that a load has succeeded. The labels of the main decisions must be texts, as they are
put into the log; the record says healthy all the same. -/
def succeed (loader : Loader τ) (tree : Tree) (host : Host τ) :
    Except LoadFailure Tree × Loader τ × Host τ :=
  let health := ⟨loader.source.text, true, some host.civilClock, tree.points.length, none⟩
  match Value.joinTexts ", " tree.steps with
  | .error cause => (.error (.labels cause), { loader with health }, host)
  | .ok steps => (.ok tree, { loader with health }, host.note [loadedNote loader.source tree steps])

/-- Load the tree. -/
def load [Time.Ticks τ] (loader : Loader τ) (host : Host τ) :
    Except LoadFailure Tree × Loader τ × Host τ :=
  match loader.document host with
  | (.error failure, loader, host) =>
    match failure.report? loader.source with
    | some error => loader.fail error host
    | none => (.error failure, loader, host)
  | (.ok document, loader, host) =>
    match Tree.read document with
    | .error cause => loader.fail (.malformed loader.source.text (.shape cause)) host
    | .ok tree => loader.succeed tree (host.note (Journal.treeNotes tree))

end Loader

end Ssvc
