import Templating.Text.Integer
import Templating.Data.Display

/-!
# Reading a command line

A command line is read against a grammar of options and positional arguments.

* An argument that starts with `-`, and is neither `-` alone nor a negative number nor holds a
  space, names an option: by its full name, by its name before a `=` that gives its argument, or
  by a prefix that only one option's name starts with. A prefix that several names start with is
  refused.
* An option is a switch or takes one argument, the next one, which may not name an option
  itself; of a repeated option the last argument counts, or every argument for a list option.
* The positional arguments are taken in runs between options: a run fills the next positional,
  which takes one argument, at most one, or one or more.
* `--` makes every later argument positional.

Arguments that no option or positional takes are left over, and a positional that takes one or
more and got none is missing.

`Request.read` reads the command line of the template tool: options before the command, the
command's name, and the command's own arguments.

A replacement given on the command line is written `KEY=VALUE`: the key runs to the first `=`
and may not be empty; the value is all after it and may hold more `=`.
-/

namespace Templating.Cli

/-- How an option takes its argument. -/
inductive Takes where
  | nothing
  | one
  | each
  deriving DecidableEq, Repr

/-- An option of a grammar: its names, where its value goes, how it takes an argument and what
its help page says of it. -/
structure Opt where
  name : String
  short : Option String := none
  dest : String
  takes : Takes
  metavar : String := ""
  choices : List String := []
  integer : Bool := false
  help : String := ""
  deriving Repr

/-- The names an option answers to. -/
def Opt.names (o : Opt) : List String := o.short.toList ++ [o.name]

/-- How many arguments a positional takes. -/
inductive Count where
  | one
  | optional
  | many
  deriving DecidableEq, Repr

/-- A positional argument of a grammar. -/
structure Positional where
  dest : String
  count : Count
  help : String := ""
  deriving Repr

/-- The commands a grammar leads to, as its help page lists them: a description of them and each
command's name with its summary. -/
structure Commands where
  description : Option String := none
  listed : List (String × String)
  deriving Repr

/-- A grammar: the name it reports under, its options and its positional arguments, the text its
help page opens with, and the commands it leads to. -/
structure Grammar where
  prog : String
  options : List Opt
  positionals : List Positional
  description : Option String := none
  commands : Option Commands := none
  deriving Repr

/-- A value read off the command line. -/
inductive Arg where
  | switch
  | text (s : String)
  | texts (ss : List String)
  | integer (n : Int)
  deriving DecidableEq, Repr

/-- The values read, by destination. -/
abbrev Namespace := List (String × Arg)

/-- What an argument is to a grammar. -/
inductive Role where
  | option (o : Option Opt) (explicit : Option String)
  | positional
  | separator
  deriving Repr

/-- The result of reading arguments against a grammar. -/
inductive Reading where
  | done (ns : Namespace) (extras : List String)
  | help
  | refused (message : String)
  deriving Repr

/-- The help option every grammar has. -/
def helpOpt : Opt :=
  { name := "--help", short := some "-h", dest := "help", takes := .nothing,
    help := "show this help message and exit" }

/-- Whether a text looks like a negative number: a minus and decimal digits of any script, with
at most one point that has digits after it, before at most one final line feed. -/
def looksNegative (cs : List Char) : Bool :=
  let body := if cs.getLast? == some '\n' then cs.dropLast else cs
  match body with
  | '-' :: rest =>
      (!rest.isEmpty && rest.all Text.isDecimal) ||
        (match rest.splitOn '.' with
         | [w, f] => w.all Text.isDecimal && !f.isEmpty && f.all Text.isDecimal
         | _ => false)
  | _ => false

/-- Splits a text at its first `=`. -/
def splitEq (s : String) : Option (String × String) :=
  let cs := s.toList
  match cs.dropWhile (· != '=') with
  | _ :: rest => some (String.ofList (cs.takeWhile (· != '=')), String.ofList rest)
  | [] => none

namespace Grammar

/-- Every option of the grammar, help first. -/
def allOptions (g : Grammar) : List Opt := helpOpt :: g.options

/-- The option a name names exactly. -/
def exact (g : Grammar) (name : String) : Option Opt :=
  g.allOptions.find? (·.names.contains name)

/-- The options a text can abbreviate, each with the argument it carries. -/
def prefixMatches (g : Grammar) (arg : String) : List (Opt × String × Option String) :=
  let cs := arg.toList
  match cs with
  | '-' :: '-' :: _ =>
      let (pre, explicit) := match splitEq arg with
        | some (p, v) => (p, some v)
        | none => (arg, none)
      g.allOptions.flatMap fun o =>
        (o.names.filter (·.startsWith pre)).map fun n => (o, n, explicit)
  | '-' :: c :: rest =>
      let short := String.ofList ['-', c]
      g.allOptions.flatMap fun o =>
        o.names.filterMap fun n =>
          if n == short then some (o, n, some (String.ofList rest))
          else if n.startsWith arg then some (o, n, none) else none
  | _ => []

/-- What an argument is to the grammar. -/
def role (g : Grammar) (arg : String) : Except String Role :=
  let cs := arg.toList
  if arg == "--" then .ok .separator
  else if cs.head? != some '-' then .ok .positional
  else match g.exact arg with
    | some o => .ok (.option (some o) none)
    | none =>
        if cs.length == 1 then .ok .positional
        else
          let byEq := (splitEq arg).bind fun (n, v) => (g.exact n).map fun o => (o, v)
          match byEq with
          | some (o, v) => .ok (.option (some o) (some v))
          | none =>
              match g.prefixMatches arg with
              | [(o, _, v)] => .ok (.option (some o) v)
              | _ :: _ :: _ =>
                  .error ("ambiguous option: " ++ arg ++ " could match " ++
                    ", ".intercalate ((g.prefixMatches arg).map (·.2.1)))
              | [] =>
                  if looksNegative cs then .ok .positional
                  else if cs.contains ' ' then .ok .positional
                  else .ok (.option none none)

/-- The roles of the arguments: after a first `--` every argument is positional. -/
def roles (g : Grammar) : List String → Except String (List Role)
  | [] => .ok []
  | a :: rest =>
      if a == "--" then .ok (.separator :: rest.map fun _ => .positional)
      else do
        let r ← g.role a
        let rs ← roles g rest
        pure (r :: rs)

end Grammar

/-- Sets a destination, keeping the first place of a name set before. -/
def Namespace.set (ns : Namespace) (k : String) (v : Arg) : Namespace :=
  if ns.any (·.1 == k) then ns.map fun (k', w) => if k' == k then (k', v) else (k', w) else ns ++ [(k, v)]

/-- The texts of a list destination. -/
def Namespace.texts (ns : Namespace) (k : String) : List String :=
  match ns.lookup k with
  | some (.texts ss) => ss
  | _ => []

/-- The name of an option in messages. -/
def Opt.shown (o : Opt) : String := "/".intercalate o.names

/-- The value of an option's argument, checked against its choices and read as an integer when
it is one. -/
def Opt.value (o : Opt) (s : String) : Except String Arg :=
  if !o.choices.isEmpty && !o.choices.contains s then
    .error ("argument " ++ o.shown ++ ": invalid choice: " ++ quoteText s ++ " (choose from " ++
      ", ".intercalate (o.choices.map quoteText) ++ ")")
  else if o.integer then
    match Text.readInteger? s with
    | some n => .ok (.integer n)
    | none => .error ("argument " ++ o.shown ++ ": invalid int value: " ++ quoteText s)
  else .ok (.text s)

/-- The number of leading separators. -/
def leadingSeparators : List Role → Nat
  | .separator :: rest => 1 + leadingSeparators rest
  | _ => 0

/-- The number of leading positional arguments and separators. -/
def leadingPlain : List Role → Nat
  | .separator :: rest => 1 + leadingPlain rest
  | .positional :: rest => 1 + leadingPlain rest
  | _ => 0

/-- How many of the roles a positional takes: none when it cannot take them. -/
def takeCount (c : Count) (roles : List Role) : Option Nat :=
  let s := leadingSeparators roles
  let after := roles.drop s
  match c, after with
  | .one, .positional :: rest => some (s + 1 + leadingSeparators rest)
  | .one, _ => none
  | .optional, .positional :: rest => some (s + 1 + leadingSeparators rest)
  | .optional, _ => some s
  | .many, .positional :: rest => some (s + 1 + leadingPlain rest)
  | .many, _ => none

/-- Drops the first separator of a run of arguments. -/
def dropSeparator : List String → List String
  | [] => []
  | a :: rest => if a == "--" then rest else a :: dropSeparator rest

/-- The state of reading arguments. -/
structure Pass where
  ns : Namespace
  pending : List Positional
  extras : List String

/-- Fills the next pending positional from position `i`, if it can take the arguments there;
the position after what it took. -/
def fillPositional (args : Array String) (roles : Array Role) (p : Pass) (i : Nat) : Pass × Nat :=
  match p.pending with
  | [] => (p, i)
  | pos :: rest =>
      match takeCount pos.count (roles.toList.drop i) with
      | none => (p, i)
      | some n =>
          let vals := dropSeparator ((args.toList.drop i).take n)
          let v := match pos.count, vals with
            | .many, vs => some (Arg.texts vs)
            | _, v :: _ => some (Arg.text v)
            | _, [] => none
          let ns := match v with
            | some v => p.ns.set pos.dest v
            | none => p.ns
          ({ p with ns := ns, pending := rest }, i + n)

/-- Takes the option at position `i` with its argument; the position after it. -/
def takeOption (args : Array String) (roles : Array Role) (p : Pass) (i : Nat) :
    Except Reading (Pass × Nat) :=
  match roles[i]? with
  | some (.option none _) => .ok ({ p with extras := p.extras ++ [args.getD i ""] }, i + 1)
  | some (.option (some o) explicit) =>
      match o.takes with
      | .nothing =>
          if o.dest == "help" then .error .help
          else match explicit with
            | some v => .error (.refused ("argument " ++ o.shown ++ ": ignored explicit argument '" ++ v ++ "'"))
            | none => .ok ({ p with ns := p.ns.set o.dest .switch }, i + 1)
      | takes =>
          let got : Option (String × Nat) := match explicit with
            | some v => some (v, i + 1)
            | none =>
                let rest := roles.toList.drop (i + 1)
                let s := leadingSeparators rest
                match rest.drop s with
                | .positional :: more =>
                    some (args.getD (i + 1 + s) "", i + 2 + s + leadingSeparators more)
                | _ => none
          match got with
          | none => .error (.refused ("argument " ++ o.shown ++ ": expected one argument"))
          | some (s, j) =>
              match o.value s with
              | .error m => .error (.refused m)
              | .ok v =>
                  let v := match takes, v with
                    | .each, .text t => Arg.texts (p.ns.texts o.dest ++ [t])
                    | _, v => v
                  .ok ({ p with ns := p.ns.set o.dest v }, j)
  | _ => .ok (p, i + 1)

/-- Reads from position `i` on: the positionals before the next option, then the option. -/
def readFrom (args : Array String) (roles : Array Role) (optionAt : List Nat) :
    Nat → Pass → Nat → Except Reading (Pass × Nat)
  | 0, p, i => .ok (p, i)
  | fuel + 1, p, i =>
      match optionAt.filter (· ≥ i) with
      | [] => .ok (p, i)
      | next :: _ =>
          let (p', j) := if i != next then fillPositional args roles p i else (p, i)
          if j > i then readFrom args roles optionAt fuel p' j
          else
            -- arguments before the option that no positional takes are left over
            let p := { p' with extras := p'.extras ++ (args.toList.drop i).take (next - i) }
            match takeOption args roles p next with
            | .ok (p, k) => readFrom args roles optionAt fuel p k
            | .error r => .error r

/-- The names of the positionals that take one or more and got nothing. -/
def missing (p : Pass) : List String :=
  (p.pending.filter fun pos => pos.count != .optional).map (·.dest)

/-- Reads arguments against a grammar. -/
def Grammar.read (g : Grammar) (args : List String) : Reading :=
  match g.roles args with
  | .error m => .refused m
  | .ok roles =>
      let argv := args.toArray
      let rs := roles.toArray
      let optionAt := (List.range roles.length).filter fun i =>
        match rs[i]? with
        | some (.option _ _) => true
        | _ => false
      match readFrom argv rs optionAt (2 * args.length + 2) ⟨[], g.positionals, []⟩ 0 with
      | .error r => r
      | .ok (p, i) =>
          let (p, j) := fillPositional argv rs p i
          let p := { p with extras := p.extras ++ args.drop j }
          match missing p with
          | [] => .done p.ns p.extras
          | names => .refused ("the following arguments are required: " ++ ", ".intercalate names)

/-! ## Replacement entries -/

/-- An entry that is not `KEY=VALUE`. -/
structure BadEntry where
  entry : String
  deriving DecidableEq, Repr

/-- The failure a bad entry reports. -/
def BadEntry.toFailure (e : BadEntry) : Failure :=
  Failure.replacement ("Invalid --var '" ++ e.entry ++ "': expected KEY=VALUE") "--var" e.entry

/-- The key and value of an entry. -/
def parseVar (entry : String) : Except BadEntry (String × String) :=
  let cs := entry.toList
  match cs.dropWhile (· != '=') with
  | [] => .error ⟨entry⟩
  | _ :: value =>
      let key := cs.takeWhile (· != '=')
      if key.isEmpty then .error ⟨entry⟩ else .ok (String.ofList key, String.ofList value)

end Templating.Cli
