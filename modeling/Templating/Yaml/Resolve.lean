/-!
# Implicit types of plain YAML scalars

A plain scalar takes its type from its text, by the YAML 1.1 rules:

* null: `~`, `null`, `Null`, `NULL` or nothing;
* truth values: `yes`, `no`, `true`, `false`, `on`, `off`, each in lower case, capitalised or
  in upper case;
* integers: binary `0b…`, octal with a leading `0`, decimal, hexadecimal `0x…`, and base 60 with
  colons, all with an optional sign and with `_` allowed between digits;
* doubles: a decimal with a point and an optional signed exponent, a fraction without leading
  digits, base 60 with colons and a point, and `.inf` and `.nan` in three spellings;
* timestamps: a date `YYYY-MM-DD`, optionally with a time and a time zone;
* the merge key `<<` and the value key `=`.

Any other text is a string. The rules are tried in a fixed order: truth values, doubles,
integers, the merge key, null, timestamps and the value key, each only for the first characters
it can start with; the first that matches gives the type. A rule matches a text that it matches
but for one final line feed.
-/

namespace Templating.Yaml

/-- The implicit types of plain scalars. -/
inductive Kind where
  | null
  | bool
  | int
  | float
  | merge
  | timestamp
  | value
  | str
  deriving DecidableEq, Repr

/-- Whether a character is an ASCII digit. -/
def isDigit (c : Char) : Bool := decide ('0' ≤ c ∧ c ≤ '9')

/-- Drops an optional sign. -/
def dropSign : List Char → List Char
  | '-' :: r => r
  | '+' :: r => r
  | r => r

/-- Whether a text is a run of the given characters, at least one. -/
def runOf (p : Char → Bool) (cs : List Char) : Bool := !cs.isEmpty && cs.all p

/-- Whether a text is `digit (digit | _)*`. -/
def digitsUnderscored (cs : List Char) : Bool :=
  match cs with
  | d :: r => isDigit d && r.all (fun c => isDigit c || c == '_')
  | [] => false

/-- Whether a text is one or more groups `:` followed by one or two digits of base 60: an
optional digit from 0 to 5 and a digit. -/
def sexagesimalTail (cs : List Char) : Bool :=
  let groups := cs.splitOn ':'
  match groups with
  | [] :: gs =>
      !gs.isEmpty && gs.all fun g =>
        match g with
        | [d] => isDigit d
        | [a, b] => decide ('0' ≤ a ∧ a ≤ '5') && isDigit b
        | _ => false
  | _ => false

/-- Splits a text at its first character that satisfies `p`. -/
def breakAt (p : Char → Bool) (cs : List Char) : List Char × List Char :=
  (cs.takeWhile (fun c => !p c), cs.dropWhile (fun c => !p c))

/-- Whether a text is an integer by the YAML 1.1 rules. -/
def isIntText (cs : List Char) : Bool :=
  let r := dropSign cs
  match r with
  | '0' :: 'b' :: ds => runOf (fun c => c == '0' || c == '1' || c == '_') ds
  | '0' :: 'x' :: ds => runOf (fun c => isDigit c || decide ('a' ≤ c ∧ c ≤ 'f') ||
      decide ('A' ≤ c ∧ c ≤ 'F') || c == '_') ds
  | ['0'] => true
  | '0' :: ds => runOf (fun c => decide ('0' ≤ c ∧ c ≤ '7') || c == '_') ds
  | d :: _ =>
      decide ('1' ≤ d ∧ d ≤ '9') &&
        (let (whole, tail) := breakAt (· == ':') r
         digitsUnderscored whole && (tail.isEmpty || sexagesimalTail tail))
  | [] => false

/-- Whether a text is an optional exponent `[eE][-+]digits`. -/
def exponentPart (cs : List Char) : Bool :=
  match cs with
  | [] => true
  | e :: s :: ds => (e == 'e' || e == 'E') && (s == '-' || s == '+') && runOf isDigit ds
  | _ => false

/-- Whether a text is a double by the YAML 1.1 rules. -/
def isFloatText (cs : List Char) : Bool :=
  let r := dropSign cs
  let signed := r.length != cs.length
  let point := fun (cs : List Char) =>
    let (whole, rest) := breakAt (· == '.') cs
    match rest with
    | '.' :: frac =>
        let (fd, ex) := breakAt (fun c => c == 'e' || c == 'E') frac
        if whole.isEmpty then
          -- a fraction without leading digits takes no sign
          !signed && (match fd with
            | d :: _ => isDigit d && fd.all (fun c => isDigit c || c == '_')
            | [] => false) && exponentPart ex
        else
          (digitsUnderscored whole && fd.all (fun c => isDigit c || c == '_') && exponentPart ex) ||
            -- base 60: digits, groups of `:` and base 60 digits, a point and digits
            (let (w, tail) := breakAt (· == ':') whole
             digitsUnderscored w && sexagesimalTail tail && frac.all (fun c => isDigit c || c == '_'))
    | _ => false
  point r || r == ['.', 'i', 'n', 'f'] || r == ['.', 'I', 'n', 'f'] || r == ['.', 'I', 'N', 'F'] ||
    (!signed && (cs == ['.', 'n', 'a', 'n'] || cs == ['.', 'N', 'a', 'N'] || cs == ['.', 'N', 'A', 'N']))

/-- Whether a text is a timestamp by the YAML 1.1 rules. -/
def isTimestampText (cs : List Char) : Bool :=
  let d (n : Nat) := (cs.drop n).head?.map isDigit == some true
  let at_ (n : Nat) := (cs.drop n).head?
  -- the date alone: exactly `YYYY-MM-DD`
  (cs.length == 10 && d 0 && d 1 && d 2 && d 3 && at_ 4 == some '-' && d 5 && d 6 &&
    at_ 7 == some '-' && d 8 && d 9) ||
  -- a date with one- or two-digit month and day, then a time
  (d 0 && d 1 && d 2 && d 3 && at_ 4 == some '-' &&
    (let r := cs.drop 5
     let (mo, r) := (r.takeWhile isDigit, r.dropWhile isDigit)
     (mo.length == 1 || mo.length == 2) &&
     (match r with
      | '-' :: r =>
          let (dy, r) := (r.takeWhile isDigit, r.dropWhile isDigit)
          (dy.length == 1 || dy.length == 2) &&
          (let r := match r with
             | 'T' :: r => some r
             | 't' :: r => some r
             | c :: r => if c == ' ' || c == '\t' then some (r.dropWhile (fun c => c == ' ' || c == '\t')) else none
             | [] => none
           match r with
           | some r =>
               let (hh, r) := (r.takeWhile isDigit, r.dropWhile isDigit)
               (hh.length == 1 || hh.length == 2) &&
               (match r with
                | ':' :: m1 :: m2 :: ':' :: s1 :: s2 :: r =>
                    isDigit m1 && isDigit m2 && isDigit s1 && isDigit s2 &&
                    (let r := match r with
                       | '.' :: r => r.dropWhile isDigit
                       | r => r
                     let r := r.dropWhile (fun c => c == ' ' || c == '\t')
                     match r with
                     | [] => true
                     | ['Z'] => true
                     | s :: r =>
                         (s == '-' || s == '+') &&
                         (let (th, r) := (r.takeWhile isDigit, r.dropWhile isDigit)
                          (th.length == 1 || th.length == 2) &&
                          (match r with
                           | [] => true
                           | [':', a, b] => isDigit a && isDigit b
                           | _ => false)))
                | _ => false)
           | none => false)
      | _ => false)))

/-- Whether a test holds of a text, or of the text without one final line feed: a pattern that
must reach the end of the text may stop before its last line feed. -/
def reachesEnd (p : List Char → Bool) (cs : List Char) : Bool :=
  p cs || (cs.getLast? == some '\n' && p cs.dropLast)

/-- The implicit type of a plain scalar's text. -/
def resolve (text : String) : Kind :=
  let cs := text.toList
  let first := cs.head?
  let starts (chars : String) : Bool := match first with
    | some c => chars.toList.contains c
    | none => false
  let boolWords := ["yes", "Yes", "YES", "no", "No", "NO", "true", "True", "TRUE", "false", "False",
    "FALSE", "on", "On", "ON", "off", "Off", "OFF"]
  let nullWords := ["~", "null", "Null", "NULL"]
  let ends := fun (p : List Char → Bool) => reachesEnd p cs
  if starts "yYnNtTfFoO" && ends (fun cs => boolWords.contains (String.ofList cs)) then .bool
  else if starts "-+0123456789." && ends isFloatText then .float
  else if starts "-+0123456789" && ends isIntText then .int
  else if starts "<" && ends (· == ['<', '<']) then .merge
  else if text.isEmpty || (starts "~nN" && ends (fun cs => cs.isEmpty || nullWords.contains (String.ofList cs))) then .null
  else if starts "0123456789" && ends isTimestampText then .timestamp
  else if starts "=" && ends (· == ['=']) then .value
  else .str

end Templating.Yaml
