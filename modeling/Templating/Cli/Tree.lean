import Templating.Cli.Host

/-!
# A tree of files held in memory

A `Tree` is a working directory held in memory: files by their paths below it, directories made
in it, the standard input and the environment. Its directories are the working directory, those
made, and those that some file lies below. Opening a path walks its parts from the working
directory: a part longer than `nameMax` bytes names nothing that can be looked up, a part that
names no file or directory is missing, a file with parts after it is no directory, and a path
that ends at a directory cannot be read as a file. Outside the working directory nothing is
found, and the directories above it are there.

`Tree.host` is the host whose state is the tree, so that a file or directory made by one step is
found by the next; it measures no time.
-/

namespace Templating.Cli

/-- The name the working directory of a tree is shown by. -/
def treeRoot : String := "<root>"

/-- Files below a working directory, the standard input, the environment and the directories
made. -/
structure Tree where
  files : List (List String × List UInt8)
  input : String
  env : List (String × String)
  dirs : List (List String) := []

/-- What a path leads to: a directory, or a file's bytes. -/
inductive Found where
  | dir
  | file (bytes : List UInt8)

namespace Tree

/-- A tree of texts, each stored as its UTF-8 bytes. -/
def ofTexts (files : List (String × String)) (input : String) (env : List (String × String)) : Tree :=
  ⟨files.map (fun (p, text) => ((pathParts p).2, text.toUTF8.toList)), input, env, []⟩

/-- The bytes of the file at a path. -/
def fileAt (t : Tree) (parts : List String) : Option (List UInt8) :=
  (t.files.find? (·.1 == parts)).map (·.2)

/-- Whether a path is a directory: the working directory, one made, or one that some file lies
below. -/
def isDir (t : Tree) (parts : List String) : Bool :=
  parts.isEmpty || t.dirs.contains parts ||
    t.files.any fun (f, _) => f.length > parts.length && f.take parts.length == parts

/-- Whether a path names a file or a directory. -/
def has (t : Tree) (parts : List String) : Bool := (t.fileAt parts).isSome || t.isDir parts

/-- What a path leads to, its parts walked from the directory `here`. -/
def locate (t : Tree) : List String → List String → Except OsError Found
  | _, [] => .ok .dir
  | here, ".." :: rest =>
      if here.isEmpty then (if rest.isEmpty then .ok .dir else .error .missing)
      else locate t here.dropLast rest
  | here, p :: rest =>
      if p.utf8ByteSize > nameMax then .error .nameTooLong
      else
        let next := here ++ [p]
        match t.fileAt next with
        | some bytes => if rest.isEmpty then .ok (.file bytes) else .error .notDirectory
        | none => if t.isDir next then locate t next rest else .error .missing

/-- Opens the file at a path relative to the working directory. -/
def read (t : Tree) (path : String) : Except OsError (List UInt8) :=
  if path.utf8ByteSize ≥ pathMax then .error .nameTooLong
  else
    let (root, parts) := pathParts path
    if root.isEmpty then
      match t.locate [] parts with
      | .ok .dir => .error .directory
      | .ok (.file bytes) => .ok bytes
      | .error e => .error e
    else if parts.isEmpty then .error .directory else .error .missing

/-- The parts below the working directory of an absolute path in it. -/
def inside (path : String) : Option (List String) :=
  if path == treeRoot then some []
  else if path.startsWith (treeRoot ++ "/") then
    some (pathParts (String.ofList (path.toList.drop (treeRoot.length + 1)))).2
  else none

/-- The directory that would hold a new entry at a path: fine when the parts before the last
lead to a directory and the last part is not too long. -/
def placeFor (t : Tree) (parts : List String) : Except OsError Unit :=
  match t.locate [] parts.dropLast with
  | .error e => .error e
  | .ok (.file _) => .error .notDirectory
  | .ok .dir => if (parts.getLast?.getD "").utf8ByteSize > nameMax then .error .nameTooLong else .ok ()

/-- Makes the directory at an absolute path, its parent being a directory already. -/
def makeDirAt (t : Tree) (path : String) : Except OsError Tree :=
  if path.utf8ByteSize ≥ pathMax then .error .nameTooLong
  else match inside path with
    | none | some [] => .error .present
    | some parts => do
        t.placeFor parts
        if t.has parts then throw .present
        pure { t with dirs := t.dirs ++ [parts] }

/-- Whether an absolute path is a directory. -/
def isDirAt (t : Tree) (path : String) : Except OsError Bool :=
  if path.utf8ByteSize ≥ pathMax then .error .nameTooLong
  else match inside path with
    | none => .ok true
    | some parts =>
        match t.locate [] parts with
        | .ok .dir => .ok true
        | .ok (.file _) => .ok false
        | .error .nameTooLong => .error .nameTooLong
        | .error _ => .ok false

/-- Opens the file at an absolute path for adding to it: an empty file when it is missing. -/
def appendAt (t : Tree) (path : String) : Except OsError Tree :=
  if path.utf8ByteSize ≥ pathMax then .error .nameTooLong
  else match inside path with
    | none => .ok t
    | some [] => .error .directory
    | some parts => do
        t.placeFor parts
        match t.fileAt parts with
        | some _ => pure t
        | none =>
            if t.isDir parts then throw .directory
            pure { t with files := t.files ++ [(parts, [])] }

/-- The entries directly in a directory, whose path is `path`: its files with their bytes, then its
directories, which cannot be opened for reading. -/
def filesIn (t : Tree) (path : String) (dir : List String) : List Config.DirEntry :=
  let below := t.files.filter fun (f, _) => f.length > dir.length && f.take dir.length == dir
  let files := below.filterMap fun (f, bytes) =>
    if f.length == dir.length + 1 then (f.getLast?).map fun name => (name, .ok bytes) else none
  let made := t.dirs.filterMap fun d =>
    if d.length == dir.length + 1 && d.take dir.length == dir then d.getLast? else none
  let dirs := ((below.filterMap fun (f, _) =>
    if f.length > dir.length + 1 then f[dir.length]? else none) ++ made).eraseDups
  files ++ dirs.map fun name => (name, .error (OsError.directory.fault (path ++ "/" ++ name)))

/-- A change to the tree that may fail, made in the state. -/
def change (f : Tree → Except OsError Tree) : StateM Tree (Except OsError Unit) := do
  match f (← get) with
  | .ok t => set t; pure (.ok ())
  | .error e => pure (.error e)

/-- The host whose state is the tree; its environment is that of the tree it starts from. -/
def host (t0 : Tree) : Host (StateM Tree) where
  readFile path := do pure ((← get).read path)
  configFiles root := do
    match inside root with
    | some parts => pure ((← get).filesIn (root ++ "/.stencil/config") (parts ++ [".stencil", "config"]))
    | none => pure []
  readInput := do pure (← get).input
  env := t0.env
  workDir := treeRoot
  resolve path :=
    match inside path with
    | some parts => "/".intercalate (treeRoot :: collapseParts [] parts)
    | none =>
        let (root, parts) := pathParts path
        if root.isEmpty then "/".intercalate (treeRoot :: collapseParts [] parts)
        else root ++ "/".intercalate (collapseParts [] parts)
  hasMarker dir := do
    let t ← get
    match inside dir with
    | some parts => pure ([".stencil", ".git"].any fun marker => t.has (parts ++ [marker]))
    | none => pure false
  measure _ := pure (Bench.strategies.map fun name => (name, 0.0))
  makeDir path := change (·.makeDirAt path)
  isDir path := do pure ((← get).isDirAt path)
  appendTo path := change (·.appendAt path)

end Tree

end Templating.Cli
