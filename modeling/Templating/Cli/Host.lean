import Templating.Cli.Path
import Templating.Bench.Run
import Templating.Config.Layers

/-!
# What the tool needs from the system

A `Host` gives the tool what it reads from the system it runs on: files by path, the
configuration files of a project, the standard input, the environment and the working
directory, and the timing of a benchmark. The tool is written against any host, in any monad;
one host reads the real system, another a tree of files held in memory.

The tool also makes a log file where the configuration names one: a host makes a directory,
tells whether a path is a directory, and opens a file for adding to it. `Host.makeDirs` makes a
directory with the missing ones above it.

`Host.projectRoot` finds a project's root: the directory given, else the one the environment
names (a leading `~` read as the home directory), else the nearest of the working directory and its parents that holds `.stencil` or `.git`,
else the working directory.
-/

namespace Templating.Cli

/-- What the tool reads from the system it runs on. -/
structure Host (m : Type → Type) where
  /-- The bytes of a file, a relative path taken from the working directory. -/
  readFile : String → m (Except OsError (List UInt8))
  /-- The entries of a project root's configuration directory, each with the bytes of the file
  or the fault of opening it for reading. -/
  configFiles : String → m (List Config.DirEntry)
  /-- The text of the standard input. -/
  readInput : m String
  /-- The environment variables. -/
  env : List (String × String)
  /-- The absolute path of the working directory. -/
  workDir : String
  /-- The absolute form of a path, relative paths taken from the working directory. -/
  resolve : String → String
  /-- Whether a directory holds `.stencil` or `.git`. -/
  hasMarker : String → m Bool
  /-- The time per call of each benchmark strategy, in nanoseconds. -/
  measure : Bench.Settings → m (List (String × Float))
  /-- Makes one directory at an absolute path. -/
  makeDir : String → m (Except OsError Unit)
  /-- Whether an absolute path is a directory; a path too long to look up fails. -/
  isDir : String → m (Except OsError Bool)
  /-- Opens the file at an absolute path for adding to it, making it empty when it is missing. -/
  appendTo : String → m (Except OsError Unit)

/-- The value of an environment variable: its last setting. -/
def envGet (env : List (String × String)) (k : String) : Option String :=
  ((env.filter (·.1 == k)).getLast?).map (·.2)

/-- The absolute form of a path: relative to the working directory, `..` taken back over the
part before it. -/
def absolutePath (workDir raw : String) : String :=
  let (root, parts) := pathParts raw
  if root.isEmpty then
    let (wroot, wparts) := pathParts workDir
    wroot ++ "/".intercalate (collapseParts [] (wparts ++ parts))
  else root ++ "/".intercalate (collapseParts [] parts)

/-- The working directory and its parents, nearest first. -/
def ancestors (workDir : String) : List String :=
  let (root, parts) := pathParts workDir
  (List.range (parts.length + 1)).reverse.map fun n =>
    let text := root ++ "/".intercalate (parts.take n)
    if text.isEmpty then "." else text

namespace Host

variable {m : Type → Type} [Monad m]

/-- The first of some directories that holds a marker. -/
def firstMarked (h : Host m) : List String → m (Option String)
  | [] => pure none
  | d :: rest => do
      if ← h.hasMarker d then pure (some d) else firstMarked h rest

/-- A root named by a path, a leading `~` read as the home directory the environment names. -/
def namedRoot (h : Host m) (raw : String) : Except Failure String :=
  match expandHome (envGet h.env "HOME") raw with
  | some p => .ok (h.resolve p)
  | none => .error (Failure.uncaught "RuntimeError" "Could not determine home directory.")

/-- The root of the project: the directory given, else the one the environment names, else the
nearest marked directory from the working directory up, else the working directory. -/
def projectRoot (h : Host m) (given : Option String) : m (Except Failure String) := do
  match given with
  | some r => if !r.isEmpty then return h.namedRoot r
  | none => pure ()
  match envGet h.env "STENCIL_PROJECT_ROOT" with
  | some e => if !e.isEmpty then return h.namedRoot e
  | none => pure ()
  let found ← h.firstMarked (ancestors h.workDir)
  pure (.ok (found.getD h.workDir))

/-- A directory that could not be made, which is fine when it is a directory already. -/
def keepDir (h : Host m) (p : String) (e : OsError) : m (Except (OsError × String) Unit) := do
  match ← h.isDir p with
  | .ok true => pure (.ok ())
  | .ok false => pure (.error (e, p))
  | .error e' => pure (.error (e', p))

/-- Makes a directory and the missing ones above it, a directory that is there already being
fine: the error and the path it arose at otherwise. A directory whose parent is missing is made
after its parent; `fuel` bounds the depth. -/
def makeDirs (h : Host m) : Nat → String → m (Except (OsError × String) Unit)
  | 0, p => pure (.error (.missing, p))
  | fuel + 1, p => do
      match ← h.makeDir p with
      | .ok () => pure (.ok ())
      | .error .missing =>
          let up := parentPath p
          if up == p then return .error (.missing, p)
          match ← h.makeDirs fuel up with
          | .error e => pure (.error e)
          | .ok () =>
              match ← h.makeDir p with
              | .ok () => pure (.ok ())
              | .error .missing => pure (.error (.missing, p))
              | .error e => h.keepDir p e
      | .error e => h.keepDir p e

end Host

end Templating.Cli
