import Templating.Cli.Args
import Templating.Data.Json.Write

/-!
# Usage lines and help pages

A grammar's usage line is its name, its options, each in brackets, and then its positionals.
When the line would pass the width it is broken into parts: the options follow the name, wrapped
under the first of them, and the positionals start a line of their own. A name too long to be
followed puts every part under it.

A help page shows the usage line, the grammar's description as written, and a section each for
the positionals, the options and the commands the grammar leads to. Every entry's help starts in
one column, the one after the longest entry's name, but never past column 24, and is wrapped to
the width; a name too long for the column puts its help on the next line.

The width is two less than the terminal's columns, which `COLUMNS` gives when it holds a positive
integer, and 80 otherwise.

## Implementation notes

Help texts are wrapped at blanks, a word longer than a line being broken after its last hyphen
that fits, else where the line ends. A blank that ends a line is dropped, as is one that would
start the next.
-/

namespace Templating.Cli

/-- The columns of the terminal: `COLUMNS` when it holds a positive integer, else 80. -/
def terminalColumns (columns : Option String) : Nat :=
  match columns.bind Text.readInteger? with
  | some n => if n > 0 then n.toNat else 80
  | none => 80

/-- The text a usage line starts with. -/
def usageLead : String := "usage: "

/-! ## Usage lines -/

/-- How an option shows in a usage line: its first name and its argument, in brackets. -/
def Opt.usagePart (o : Opt) : String :=
  let first := (o.names.head?).getD o.name
  match o.takes with
  | .nothing => "[" ++ first ++ "]"
  | _ => "[" ++ first ++ " " ++ o.metavar ++ "]"

/-- The parts a positional shows as in a usage line. -/
def Positional.usageParts (p : Positional) : List String :=
  match p.count with
  | .one => [p.dest]
  | .optional => ["[" ++ p.dest ++ "]"]
  | .many => [p.dest, "[" ++ p.dest ++ " ...]"]

namespace Grammar

/-- The usage parts of the options, help first. -/
def optionParts (g : Grammar) : List String := g.allOptions.map Opt.usagePart

/-- The usage parts of the positionals, the command last. -/
def positionalParts (g : Grammar) : List String :=
  g.positionals.flatMap Positional.usageParts ++ (if g.commands.isSome then ["<command>", "..."] else [])

end Grammar

/-- Lays parts out in lines of at most `width` columns: `used` is the column the next part would
follow, and a part that would pass the width starts a new line, after `indent`, unless it is the
first of its line. -/
def layParts (width : Int) (indent : Nat) : List String → Int → List String → List (List String)
  | [], _, line => if line.isEmpty then [] else [line]
  | p :: rest, used, line =>
      if used + 1 + p.length > width && !line.isEmpty then
        line :: layParts width indent rest ((indent : Int) + p.length) [p]
      else layParts width indent rest (used + 1 + p.length) (line ++ [p])

/-- Lines of parts, each after `indent` spaces. -/
def indentedLines (width : Int) (indent : Nat) (parts : List String) : List String :=
  (layParts width indent parts ((indent : Int) - 1) []).map fun line =>
    Json.spaces indent ++ " ".intercalate line

/-- Lines of parts, the first after the usage lead and the others after `indent` spaces. -/
def leadLines (width : Int) (indent : Nat) (parts : List String) : List String :=
  match layParts width indent parts ((usageLead.length : Int) - 1) [] with
  | [] => []
  | first :: rest =>
      " ".intercalate first :: rest.map fun line => Json.spaces indent ++ " ".intercalate line

/-- The usage line of a grammar at a width, broken into lines when it would pass it. -/
def Grammar.usageAt (width : Int) (g : Grammar) : String :=
  let opts := g.optionParts
  let pos := g.positionalParts
  let whole := " ".intercalate (g.prog :: opts ++ pos)
  if ((usageLead.length + whole.length : Nat) : Int) ≤ width then usageLead ++ whole
  else if ((4 * (usageLead.length + g.prog.length) : Nat) : Int) ≤ 3 * width then
    let indent := usageLead.length + g.prog.length + 1
    usageLead ++ "\n".intercalate (leadLines width indent (g.prog :: opts) ++
      indentedLines width indent pos)
  else
    let indent := usageLead.length
    let together := indentedLines width indent (opts ++ pos)
    let lines := if together.length > 1 then
        indentedLines width indent opts ++ indentedLines width indent pos
      else together
    usageLead ++ "\n".intercalate (g.prog :: lines)

/-- The width of a terminal's text: two less than its columns. -/
def textWidth (columns : Nat) : Int := (columns : Int) - 2

/-- The usage line of a grammar on a terminal of some columns. -/
def Grammar.usage (columns : Nat) (g : Grammar) : String := g.usageAt (textWidth columns)

/-! ## Wrapping text -/

/-- The pieces a text is wrapped in: its words, with a single blank between each two. -/
def chunksOf (text : String) : List (List Char) :=
  let words := (text.toList.splitOn ' ').filter (!·.isEmpty) |>.flatMap fun w =>
    (w.splitOn '\n').flatMap (·.splitOn '\t') |>.filter (!·.isEmpty)
  words.intersperse [' ']

/-- Whether a piece is blank. -/
def isBlankChunk (c : List Char) : Bool := c.all (· == ' ')

/-- The pieces that fit in a line from column `used` on, and those left. -/
def fitChunks (width : Nat) : List (List Char) → Nat → List (List Char) → List (List Char) × List (List Char)
  | [], _, line => (line, [])
  | c :: rest, used, line =>
      if used + c.length ≤ width then fitChunks width rest (used + c.length) (line ++ [c])
      else (line, c :: rest)

/-- Where a word too long for the room left is broken: after its last hyphen within the room
when some other character comes before that hyphen, else at the room. -/
def breakPoint (word : List Char) (room : Nat) : Nat :=
  let hyphens := (List.range (min room word.length)).filter fun i => word[i]? == some '-'
  match hyphens.getLast? with
  | some h => if h > 0 && (word.take h).any (· != '-') then h + 1 else room
  | none => room

/-- Wraps pieces in lines of at most `width` columns, after the first line dropping a blank that
would start one. -/
def wrapChunks (width : Nat) : Nat → List (List Char) → Bool → List String
  | 0, _, _ => []
  | fuel + 1, chunks, started =>
      match chunks with
      | [] => []
      | c :: rest =>
          let chunks := if started && isBlankChunk c then rest else c :: rest
          let (line, left) := fitChunks width chunks 0 []
          let used := line.foldl (fun n c => n + c.length) 0
          let (line, left) := match left with
            | long :: more =>
                if long.length > width then
                  let room := if width < 1 then 1 else width - used
                  let cut := breakPoint long room
                  (line ++ [long.take cut], long.drop cut :: more)
                else (line, left)
            | [] => (line, [])
          let line := match line.getLast? with
            | some last => if isBlankChunk last then line.dropLast else line
            | none => line
          let rest := wrapChunks width fuel left true
          if line.isEmpty then rest else String.ofList line.flatten :: rest

/-- A text wrapped to `width` columns. -/
def wrapText (width : Nat) (text : String) : List String :=
  let chunks := chunksOf text
  wrapChunks width (chunks.foldl (fun n c => n + c.length + 1) 1) chunks false

/-! ## Help pages -/

/-- An entry of a help section: how its argument is written, its help, and the entries listed
under it. -/
structure Entry where
  invocation : String
  help : String
  below : List (String × String) := []

/-- A section of a help page: its title, a text that opens it, and its entries. -/
structure Section where
  title : String
  description : Option String := none
  entries : List Entry

/-- How an option is written in its help entry: each name, with the argument after it. -/
def Opt.invocation (o : Opt) : String :=
  match o.takes with
  | .nothing => ", ".intercalate o.names
  | _ => ", ".intercalate (o.names.map (· ++ " " ++ o.metavar))

namespace Grammar

/-- The sections of a grammar's help page. -/
def sections (g : Grammar) : List Section :=
  [{ title := "positional arguments", entries := g.positionals.map fun p => ⟨p.dest, p.help, []⟩ },
   { title := "options", entries := g.allOptions.map fun o => ⟨o.invocation, o.help, []⟩ }] ++
  (g.commands.map fun c =>
    { title := "commands", description := c.description,
      entries := [⟨"<command>", "", c.listed⟩] }).toList

end Grammar

/-- Where the help of entries starts and how wide it is. -/
structure Layout where
  width : Int
  helpColumn : Nat

namespace Layout

/-- The columns of the help after the help column, never fewer than 11. -/
def helpWidth (l : Layout) : Nat := (max (l.width - l.helpColumn) 11).toNat

/-- The help entry of an argument written `invocation`, at `indent` columns. -/
def entry (l : Layout) (indent : Nat) (invocation help : String) : String :=
  if help.isEmpty then Json.spaces indent ++ invocation ++ "\n"
  else
    let lines := wrapText l.helpWidth help
    let first := lines.headD ""
    let rest := String.join (lines.drop 1 |>.map fun s => Json.spaces l.helpColumn ++ s ++ "\n")
    let room : Int := (l.helpColumn : Int) - indent - 2
    if (invocation.length : Int) ≤ room then
      Json.spaces indent ++ invocation ++ Json.spaces (room.toNat - invocation.length) ++ "  " ++
        first ++ "\n" ++ rest
    else
      Json.spaces indent ++ invocation ++ "\n" ++ Json.spaces l.helpColumn ++ first ++ "\n" ++ rest

/-- A text filled to the width after `indent` columns, each line indented. -/
def filled (l : Layout) (indent : Nat) (text : String) : String :=
  let width := (max (l.width - indent) 11).toNat
  "\n".intercalate ((wrapText (width - indent) text).map (Json.spaces indent ++ ·)) ++ "\n\n"

/-- A section: nothing when it has no entries and no description. -/
def part (l : Layout) (s : Section) : String :=
  let items := (s.description.map (l.filled 2)).getD "" ++ String.join (s.entries.map fun e =>
    l.entry 2 e.invocation e.help ++ String.join (e.below.map fun (n, h) => l.entry 4 n h))
  if items.isEmpty then "" else "\n" ++ s.title ++ ":\n" ++ items ++ "\n"

end Layout

/-- The length of the longest name of the entries of some sections. -/
def longestEntry (sections : List Section) : Nat :=
  (sections.flatMap fun s => s.entries.flatMap fun e =>
    e.invocation.length :: e.below.map (·.1.length)).foldl max 0

/-- Collapses every run of three or more line breaks into two: a break is kept while fewer than
two come right before it. -/
def collapseBreaks (cs : List Char) : List Char :=
  let step := fun (acc : List Char × Nat) (c : Char) =>
    if c == '\n' then (if acc.2 ≥ 2 then (acc.1, acc.2 + 1) else (c :: acc.1, acc.2 + 1))
    else (c :: acc.1, 0)
  (cs.foldl step ([], 0)).1.reverse

/-- A text without its leading and trailing line breaks, ended by one. -/
def endedByBreak (cs : List Char) : String :=
  String.ofList (((cs.dropWhile (· == '\n')).reverse.dropWhile (· == '\n')).reverse ++ ['\n'])

/-- The help page of a grammar on a terminal of some columns. -/
def Grammar.helpPage (columns : Nat) (g : Grammar) : String :=
  let width := textWidth columns
  let sections := g.sections
  let most := (min 24 (max (width - 20) 4)).toNat
  let l : Layout := ⟨width, min (longestEntry sections + 2 + 2) most⟩
  let text := g.usageAt width ++ "\n\n" ++ (g.description.map (· ++ "\n\n")).getD "" ++
    String.join (sections.map l.part)
  endedByBreak (collapseBreaks text.toList)

end Templating.Cli
