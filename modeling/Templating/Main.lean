import Templating.Cli.Run

/-!
# The command line

`main` runs the tool on the real system: files are read from the disk and a log file made there,
the configuration files from the project's configuration directory, the environment from the
process, and a benchmark is timed by the monotonic clock. What the run writes goes to the standard output and error, and
its exit code is the process's. A fault that no command handles is written to the standard
error by its kind and message, and the exit code is 1.
-/

namespace Templating.Cli

/-- The error a system error number stands for. -/
def osErrorOfCode (code : UInt32) : OsError :=
  if code == 20 then .notDirectory
  else if code == 21 then .directory
  else if code == 17 then .present
  else if code == 36 then .nameTooLong
  else if code == 13 then .permission
  else .missing

/-- The error of a file that cannot be opened or made. -/
def osErrorOf : IO.Error → OsError
  | .inappropriateType _ code _ | .alreadyExists _ code _ | .invalidArgument _ code _
  | .noFileOrDirectory _ code _ | .permissionDenied _ code _ | .otherError code _ =>
      osErrorOfCode code
  | _ => .missing

/-- Makes one directory. -/
def makeOneDir (path : String) : IO (Except OsError Unit) := do
  try
    IO.FS.createDir path
    pure (.ok ())
  catch e => pure (.error (osErrorOf e))

/-- Whether a path is a directory. -/
def dirAt (path : String) : IO (Except OsError Bool) := do
  try
    let m ← IO.FS.realPath path >>= (·.metadata)
    pure (.ok (m.type == .dir))
  catch e =>
    match osErrorOf e with
    | .nameTooLong => pure (.error .nameTooLong)
    | _ => pure (.ok false)

/-- Opens a file for adding to it, making it when it is missing. -/
def openAppend (path : String) : IO (Except OsError Unit) := do
  try
    let _ ← IO.FS.Handle.mk path .append
    pure (.ok ())
  catch e => pure (.error (osErrorOf e))

/-- The bytes of a file. -/
def readBytes (path : String) : IO (Except OsError (List UInt8)) := do
  try
    let bytes ← IO.FS.readBinFile path
    pure (.ok bytes.toList)
  catch e => pure (.error (osErrorOf e))

/-- The entries of a project's configuration directory, each with the bytes of the file or the
fault of opening it for reading; a directory that cannot be listed has none. -/
def configTexts (root : String) : IO (List Config.DirEntry) := do
  let entries ← try (IO.FS.realPath (root ++ "/.stencil/config") >>= (·.readDir)) catch _ => pure #[]
  entries.toList.mapM fun e => do
    let path := Config.filePath root e.fileName
    if ← e.path.isDir then pure (e.fileName, .error (OsError.directory.fault path))
    else pure (e.fileName, (← readBytes e.path.toString).mapError (·.fault path))

/-- Whether a directory holds `.stencil` or `.git`. -/
def markedDir (dir : String) : IO Bool := do
  let present := fun (p : String) => do
    try
      let _ ← IO.FS.realPath p
      pure true
    catch _ => pure false
  pure ((← present (dir ++ "/.stencil")) || (← present (dir ++ "/.git")))

/-- The rest of a stream. -/
partial def readRest (s : IO.FS.Stream) (acc : String) : IO String := do
  let line ← s.getLine
  if line.isEmpty then pure acc else readRest s (acc ++ line)

/-- The variables of the process's environment, from the system's record of it. -/
def environment : IO (List (String × String)) := do
  try
    let bytes ← IO.FS.readBinFile "/proc/self/environ"
    let entries := (bytes.toList.splitOn 0).filter (!·.isEmpty)
    pure (entries.filterMap fun e =>
      match String.fromUTF8? (ByteArray.mk e.toArray) with
      | some s => (splitEq s)
      | none => none)
  catch _ => pure []

/-- The time per call of each strategy, in nanoseconds. -/
def measureAll (s : Bench.Settings) : IO (List (String × Float)) := do
  let seed ← match s.seed with
    | some n => pure n
    | none => do pure (Int.ofNat (← IO.monoNanosNow))
  let n := s.placeholders.toNat
  let len := s.valueLength.toNat
  let ks := Bench.keywordNames n
  let (defaults, t0) := Bench.randomWords n len (Twister.ofSeed seed)
  let template := Bench.loremTemplate ks defaults
  let mut t := t0
  let mut sink := 0
  let mut out := []
  for name in Bench.strategies do
    for _ in [0:s.warmup.toNat] do
      let (vs, t') := Bench.randomWords n len t
      t := t'
      sink := sink + (Bench.build name ks vs template).length
    let start ← IO.monoNanosNow
    for _ in [0:s.iterations.toNat] do
      let (vs, t') := Bench.randomWords n len t
      t := t'
      sink := sink + (Bench.build name ks vs template).length
    let stop ← IO.monoNanosNow
    out := out ++ [(name, (stop - start).toFloat / s.iterations.toNat.toFloat)]
  if sink == 0 then pure out else pure out

/-- The host of the real system. -/
def systemHost (cwd : String) (env : List (String × String)) : Host IO where
  readFile := readBytes
  configFiles := configTexts
  readInput := do readRest (← IO.getStdin) ""
  env := env
  workDir := cwd
  resolve := absolutePath cwd
  hasMarker := markedDir
  measure := measureAll
  makeDir := makeOneDir
  isDir := dirAt
  appendTo := openAppend

end Templating.Cli

open Templating.Cli in
/-- Runs the tool on the command line's arguments. -/
def main (args : List String) : IO UInt32 := do
  let cwd := (← IO.currentDir).toString
  let env ← environment
  let out ← match ← (systemHost cwd env).invoke args with
    | .ok out => pure out
    | .error f => pure ⟨1, "", f.kind.name ++ ": " ++ f.message ++ "\n"⟩
  let stdout ← IO.getStdout
  stdout.putStr out.stdout
  stdout.flush
  let stderr ← IO.getStderr
  stderr.putStr out.stderr
  stderr.flush
  pure out.exit.toUInt32
