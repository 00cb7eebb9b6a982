import Templating.Data.Display

/-!
# Paths and file errors

A path is written in a normal form: runs of slashes are one slash, `.` parts are dropped, a
trailing slash is dropped, and the empty path is `.`; a path that starts with exactly two
slashes keeps both. `..` parts are kept as they are.

`expandHome` reads a leading `~` part as the home directory.

`OsError` names the ways a file cannot be opened or made, each with its error number and text,
as in `[Errno 2] No such file or directory: 'x'`. A part of a path holds at most `nameMax` bytes
and a whole path fewer than `pathMax`.
-/

namespace Templating.Cli

/-- The root of a path text: none, one slash, or exactly two. -/
def rootOf (cs : List Char) : String × List Char :=
  match cs with
  | '/' :: '/' :: c :: rest => if c == '/' then ("/", (c :: rest).dropWhile (· == '/')) else ("//", c :: rest)
  | ['/', '/'] => ("//", [])
  | '/' :: rest => ("/", rest.dropWhile (· == '/'))
  | _ => ("", cs)

/-- The parts of a path text after its root, without empty and `.` parts. -/
def pathParts (s : String) : String × List String :=
  let (root, rest) := rootOf s.toList
  (root, ((rest.splitOn '/').filter fun p => !p.isEmpty && p != ['.']).map String.ofList)

/-- The normal form of a path text. -/
def normalPath (s : String) : String :=
  let (root, parts) := pathParts s
  let text := root ++ "/".intercalate parts
  if text.isEmpty then "." else text

/-- Parts with `..` taken back over the part before it, as far as there is one. -/
def collapseParts : List String → List String → List String
  | acc, [] => acc.reverse
  | acc, ".." :: rest => collapseParts acc.tail rest
  | acc, p :: rest => collapseParts (p :: acc) rest

/-- A path whose first part is `~` with that part read as the home directory `home`, its
trailing slashes dropped (the root for a home of slashes only). A path with a root, or whose
first part does not start with `~`, is kept. The home of a named user (`~name`), or an unknown
home, cannot be determined: `none`. -/
def expandHome (home : Option String) (s : String) : Option String :=
  let (root, parts) := pathParts s
  match parts with
  | first :: rest =>
      if !root.isEmpty || !first.startsWith "~" then some s
      else if first != "~" then none
      else match home with
        | none => none
        | some h =>
            let dir := String.ofList (h.toList.reverse.dropWhile (· == '/')).reverse
            if dir.startsWith "~" then none
            else if dir.isEmpty then some ("/" ++ "/".intercalate rest)
            else some ("/".intercalate (dir :: rest))
  | [] => some s

/-- A path with a root put after a root directory, any other path after it and a slash. -/
def joinPath (dir path : String) : String := if path.startsWith "/" then path else dir ++ "/" ++ path

/-- The directory a path is in: the path without its last part. -/
def parentPath (s : String) : String :=
  let (root, parts) := pathParts s
  let text := root ++ "/".intercalate parts.dropLast
  if text.isEmpty then "." else text

/-- The most bytes a part of a path may have. -/
def nameMax : Nat := 255

/-- The most bytes a whole path may have, less one. -/
def pathMax : Nat := 4096

/-- Why a file cannot be opened or made. -/
inductive OsError where
  | missing
  | directory
  | notDirectory
  | present
  | nameTooLong
  | permission
  deriving DecidableEq, Repr

namespace OsError

/-- The error number. -/
def errno : OsError → Nat
  | missing => 2
  | directory => 21
  | notDirectory => 20
  | present => 17
  | nameTooLong => 36
  | permission => 13

/-- The error text. -/
def text : OsError → String
  | missing => "No such file or directory"
  | directory => "Is a directory"
  | notDirectory => "Not a directory"
  | present => "File exists"
  | nameTooLong => "File name too long"
  | permission => "Permission denied"

/-- The message for a path. -/
def message (e : OsError) (path : String) : String :=
  "[Errno " ++ toString e.errno ++ "] " ++ e.text ++ ": " ++ quoteText path

/-- The kind of fault the error is when nothing handles it. -/
def kindName : OsError → String
  | missing => "FileNotFoundError"
  | directory => "IsADirectoryError"
  | notDirectory => "NotADirectoryError"
  | present => "FileExistsError"
  | nameTooLong => "OSError"
  | permission => "PermissionError"

/-- The error at a path as a fault that nothing handles. -/
def fault (e : OsError) (path : String) : Failure := Failure.uncaught e.kindName (e.message path)

end OsError

end Templating.Cli
