import Ssvc.Command
import Ssvc.Platform.Standard
import Std.Time.DateTime.Timestamp

set_option autoImplicit false

/-! # The program

Everything that touches the world: the files that a command line names are read before the run, and
those that the run has written are written afterwards. No server is reached from here, so a tree
must be in a file or the one that is built in. -/

open Ssvc

/-- The moment from which the clock of the machine counts. -/
def machineStart : Time.DateTime := ⟨1970, 1, 1, 0, 0, 0, 0, some 0⟩

/-- The clock, in universal time. -/
def readClock : IO Time.DateTime := do
  let now ← Std.Time.Timestamp.now
  return machineStart.plus (now.toNanosecondsSinceUnixEpoch.val / 1000)

/-- Put the file with a name on the disk, if it can be read. -/
def readOnto (disk : Disk) (name : String) : IO Disk := do
  try
    let bytes ← IO.FS.readBinFile name
    return disk.withFile (Path.read name) (.raw bytes.toList)
  catch _ => return disk

/-- The file with the tree, if the configuration names one. -/
def treeFile? (disk : Disk) (config : String) : Option String :=
  let loader? : Except Failure (Loader Float) :=
    Config.parse Platform.standard.readMarkup (disk.readNamed .stream config) >>= Config.loader
  match loader? with
  | .ok loader =>
    match loader.source with
    | .named name => if Source.isAddress name then none else some name
    | .builtIn => none
  | .error _ => none

/-- The file with vectors, if a command names one. -/
def vectorFile? : Command → Option String
  | .report file => some file.text
  | _ => none

/-- The disk with the files that a command line names. -/
def readDisk (invocation : Invocation) : IO Disk := do
  let config := invocation.config.text
  let disk ← readOnto Disk.empty config
  let others := (treeFile? disk config).toList ++ (vectorFile? invocation.command).toList
  others.foldlM readOnto disk

/-- Write the files of a disk that were not on the disk before. -/
def writeNew (before after : Disk) : IO Unit := do
  for (place, content) in after.files do
    if (before.at? place).isNone then
      match content with
      | .text s =>
        IO.FS.createDirAll (Text.join "/" place.dropLast)
        IO.FS.writeFile (Text.join "/" place) s
      | .raw _ => pure ()

/-- A moment in the log. -/
def logTime (t : Time.DateTime) : String :=
  t.dateText 4 ++ " " ++ t.clockText ++ "," ++ Text.digits 3 (t.micro / 1000)

/-- The machine that a run starts on. -/
def readHost (invocation : Invocation) : IO (Host Float) := do
  return {
    platform := .standard
    clock := ← readClock
    ticks := Float.ofNat (← IO.monoNanosNow) / 1000000000.0
    chance := Float.ofNat (← IO.rand 0 1000000) / 1000000.0
    replies := []
    requests := []
    waits := []
    disk := ← readDisk invocation
    notes := [] }

/-- Run the command line. -/
def main (arguments : List String) : IO UInt32 := do
  match Invocation.read arguments with
  | .error .help =>
    IO.println ("commands: " ++ Text.join ", " Invocation.commandNames)
    return 0
  | .error fault =>
    IO.eprintln ("error: " ++ fault.message)
    return 2
  | .ok invocation =>
    let host ← readHost invocation
    let ending := invocation.run host
    writeNew host.disk ending.host.disk
    IO.eprint (ending.shown.text (logTime host.clock))
    IO.print ending.output
    return UInt32.ofNat ending.code
