import Templating.Data.Display

/-!
# Places in a YAML text and why a text is refused

A `Mark` is a place in a YAML text: the number of characters before it, and its line and column,
both counted from zero. A byte order mark counts as a character but takes no column.

A text that is no YAML is refused for a `Problem`: what the reader was doing and where it began
that, when it tells, and what went wrong where. A problem is described on lines: the context, the
place of the context unless the problem is at the same line and column, the problem, and its
place. A place is described by the name of what was read, its line and its column counted from
one. A text read from a string is named `<unicode string>`, and its places are shown with a
snippet of their line with a caret under it; a line that runs more than 36 characters before or
after the place is cut to 32 characters on that side, and the cut is shown as ` ... `. A text
read from a file is named by the file's path, and its places have no snippet.

A text that holds a character no YAML text may hold is refused before it is read, for that
character and its position.
-/

namespace Templating.Yaml

/-- A place in a YAML text: the number of characters before it, and its line and column, both
counted from zero. -/
structure Mark where
  index : Nat
  line : Nat
  column : Nat
  deriving DecidableEq, Repr, Inhabited

/-- Why a text is no YAML: what the reader was doing and where that began, when it tells, and
what went wrong where. -/
structure Problem where
  context : Option String := none
  contextMark : Option Mark := none
  problem : String
  mark : Mark
  deriving Repr, Inhabited

/-- Why a YAML text is refused: it holds a character that no YAML text may hold, given by its
code and position, or reading it met a problem. -/
inductive Refusal where
  | unprintable (code : Nat) (position : Nat)
  | problem (p : Problem)
  deriving Repr, Inhabited

/-- A character written as a literal, as a problem quotes it. -/
def charLiteral (c : Char) : String := quoteText (String.singleton c)

/-- Whether a character ends the line of a snippet: a line break, or the end of the text. -/
def endsSnippet (c : Char) : Bool :=
  c == '\x00' || c == '\r' || c == '\n' || c == '\x85' || c == '\u2028' || c == '\u2029'

/-- The number of characters of its line just before position `i`, at most `bound`. -/
def widthBefore (src : Array Char) (i : Nat) : Nat → Nat
  | 0 => 0
  | bound + 1 =>
      if 0 < i && !endsSnippet (src.getD (i - 1) '\x00') then widthBefore src (i - 1) bound + 1
      else 0

/-- The number of characters of its line from position `i` on, at most `bound`. -/
def widthFrom (src : Array Char) (i : Nat) : Nat → Nat
  | 0 => 0
  | bound + 1 => if !endsSnippet (src.getD i '\x00') then widthFrom src (i + 1) bound + 1 else 0

/-- The snippet of a place: its line, cut around the place when long, and a caret under the
place, both indented by four spaces. -/
def Mark.snippet (src : Array Char) (m : Mark) : String :=
  let back := widthBefore src m.index 37
  let ahead := widthFrom src m.index 37
  let (head, start) := if back ≥ 37 then (" ... ", m.index - 32) else ("", m.index - back)
  let (tail, stop) := if ahead ≥ 37 then (" ... ", m.index + 32) else ("", m.index + ahead)
  let line := String.ofList (src.extract start stop).toList
  "    " ++ head ++ line ++ tail ++ "\n" ++
    String.ofList (List.replicate (4 + (m.index - start) + head.length) ' ') ++ "^"

/-- Where a YAML text is read from: a string, whose places are shown with snippets of it, or a
file, named by its path. -/
inductive Origin where
  | text (src : Array Char)
  | file (path : String)

/-- The name a place gives for what was read. -/
def Origin.name : Origin → String
  | .text _ => "<unicode string>"
  | .file path => path

/-- A place described by the name of what was read, its line and its column, and its snippet
when read from a string. -/
def Mark.describe (o : Origin) (m : Mark) : String :=
  let place := "  in \"" ++ o.name ++ "\", line " ++ toString (m.line + 1) ++ ", column " ++
    toString (m.column + 1)
  match o with
  | .text src => place ++ ":\n" ++ m.snippet src
  | .file _ => place

/-- A problem described on its lines: the context and its place, unless the place is that of the
problem, then the problem and its place. -/
def Problem.describe (o : Origin) (p : Problem) : String :=
  let contextPlace := match p.contextMark with
    | some m => if m.line == p.mark.line && m.column == p.mark.column then [] else [m.describe o]
    | none => []
  "\n".intercalate (p.context.toList ++ contextPlace ++ [p.problem, p.mark.describe o])

/-- Why a text is refused, described. -/
def Refusal.describe (o : Origin) : Refusal → String
  | .unprintable code position =>
      "unacceptable character #x" ++ String.ofList (hexDigits 4 code) ++
        ": special characters are not allowed\n  in \"" ++ o.name ++ "\", position " ++
        toString position
  | .problem p => p.describe o

/-- Why a YAML text is refused, described with snippets of the text. -/
def Refusal.describeIn (text : String) (r : Refusal) : String := r.describe (.text text.toList.toArray)

end Templating.Yaml
