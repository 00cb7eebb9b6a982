import Templating.Cli.Help

/-!
# The commands of the template tool

The tool's command line is `stencil [--version] [--profile] <command> ...`, where the command is
one of `bench`, `compose`, `inspect`, `render`, `serialize` and `config show`, each with its own
options. `Request.read` reads a command line into what it asks for: the version, a help text, a
command to run, or a refusal with the message that says why.
-/

namespace Templating.Cli

/-- Where a template's text comes from: the argument itself when `inline`, else the file it
names, `-` naming the standard input. -/
structure SourceArg where
  text : String
  inline : Bool
  deriving DecidableEq, Repr

/-- The options all commands share: JSON output and the project root. -/
structure Shared where
  json : Bool
  repoRoot : Option String
  deriving DecidableEq, Repr

/-- The formats configuration is shown in. -/
inductive Format where
  | json
  | yaml
  | table
  deriving DecidableEq, Repr

/-- The settings a benchmark run takes from its flags; the others come from configuration. -/
structure BenchFlags where
  placeholders : Option Int
  iterations : Option Int
  warmup : Option Int
  valueLength : Option Int
  seed : Option Int
  deriving DecidableEq, Repr

/-- A command of the tool. -/
inductive Command where
  | render (source : SourceArg) (vars : List String) (varsFile : Option String) (o : Shared)
  | serialize (source : SourceArg) (o : Shared)
  | inspect (source : SourceArg) (o : Shared)
  | compose (sources : List String) (separator : String) (o : Shared)
  | showConfig (key : Option String) (format : Format) (o : Shared)
  | bench (flags : BenchFlags) (o : Shared)
  deriving DecidableEq, Repr

/-- The options every command shares. -/
def Command.shared : Command → Shared
  | .render _ _ _ o | .serialize _ o | .inspect _ o | .compose _ _ o | .showConfig _ _ o | .bench _ o => o

/-- What a command line asks for. -/
inductive Request where
  | version
  | help (text : String)
  | run (profile : Bool) (cmd : Command)
  | refused (usage : String) (prog : String) (message : String)
  deriving DecidableEq, Repr

/-- The version the tool reports. -/
def versionText : String := "stencil 1.0.0"

/-- The options every command has. -/
def sharedOptions : List Opt :=
  [{ name := "--json", dest := "json", takes := .nothing, help := "Output as JSON" },
   { name := "--repo-root", dest := "repo_root", takes := .one, metavar := "REPO_ROOT",
     help := "Override project root (where .stencil/config lives)" }]

/-- The options of a command that reads one template. -/
def sourceOptions : List Opt :=
  [{ name := "--inline", dest := "inline", takes := .nothing,
     help := "Treat SOURCE as the template text itself" }]

/-- The template a command reads. -/
def sourcePositional : Positional :=
  { dest := "source", count := .one, help := "Template file path (\x27-\x27 reads stdin)" }

/-- An integer setting of a benchmark. -/
def benchOption (name dest help : String) : Opt :=
  { name := name, dest := dest, takes := .one, metavar := dest.toUpper, integer := true,
    help := help }

/-- The grammar of each command, by name, in the order the tool lists them, with its summary. -/
def commandGrammars : List (String × String × Grammar) :=
  [("bench", "Compare template rendering against plain string building",
     { prog := "stencil bench", positionals := [],
       options := [benchOption "--placeholders" "placeholders" "Number of reserved keywords",
         benchOption "--iterations" "iterations" "Timed calls per strategy",
         benchOption "--warmup" "warmup" "Untimed calls before measuring",
         benchOption "--value-length" "value_length" "Length of random values",
         benchOption "--seed" "seed" "Random seed"] ++ sharedOptions }),
   ("compose", "Concatenate several templates into one",
     { prog := "stencil compose",
       positionals :=
         [{ dest := "sources", count := .many, help := "Template files, composed in order" }],
       options :=
         [{ name := "--separator", dest := "separator", takes := .one, metavar := "SEPARATOR",
            help := "Literal text inserted between templates (default: none)" }] ++
         sharedOptions }),
   ("inspect", "Show the compiled segments and keyword index",
     { prog := "stencil inspect", positionals := [sourcePositional],
       options := sourceOptions ++ sharedOptions }),
   ("render", "Render a template with replacement values",
     { prog := "stencil render", positionals := [sourcePositional],
       options := sourceOptions ++
         [{ name := "--var", dest := "vars", takes := .each, metavar := "KEY=VALUE",
            help := "Replacement value (repeatable; overrides --vars)" },
          { name := "--vars", dest := "vars_file", takes := .one, metavar := "FILE",
            help := "YAML mapping of keyword to replacement value" }] ++ sharedOptions }),
   ("serialize", "Print the normalized template text",
     { prog := "stencil serialize", positionals := [sourcePositional],
       options := sourceOptions ++ sharedOptions })]

/-- The grammar of each command, by name. -/
def grammars : List (String × Grammar) := commandGrammars.map fun (n, _, g) => (n, g)

/-- The grammar of `config show`. -/
def showGrammar : Grammar :=
  { prog := "stencil config show",
    positionals :=
      [{ dest := "key", count := .optional,
         help := "Specific configuration key to show (e.g., \x27bench.iterations\x27)" }],
    options :=
      [{ name := "--format", dest := "format", takes := .one,
         metavar := "\x7bjson,yaml,table\x7d", choices := ["json", "yaml", "table"],
         help := "Output format (default: table)" }] ++ sharedOptions }

/-- The grammar of the `config` commands before the command. -/
def configGrammar : Grammar :=
  { prog := "stencil config", options := [], positionals := [],
    commands := some
      { description := some "Available config commands",
        listed := [("show", "Show current configuration")] } }

/-- The grammar of the tool before its command. -/
def toolGrammar : Grammar :=
  { prog := "stencil", positionals := [],
    options :=
      [{ name := "--version", dest := "version", takes := .nothing,
         help := "show program\x27s version number and exit" },
       { name := "--profile", dest := "profile", takes := .nothing,
         help := "Emit profiling spans for config loading, compilation and execution (sent to stderr)." }],
    description := some "Stencil - compiled $\x7bkeyword:default\x7d placeholder templates",
    commands := some { listed := commandGrammars.map (fun (n, summary, _) => (n, summary)) ++
      [("config", "Config commands")] } }

/-- Splits arguments at the first that a grammar takes as positional: the options before it
and the rest from it. -/
def splitAtPositional (g : Grammar) : List String → Except String (List (Role × String) × List String)
  | [] => .ok ([], [])
  | a :: rest =>
      match g.role a with
      | .error m => .error m
      | .ok .positional => .ok ([], a :: rest)
      | .ok .separator =>
          match rest with
          | b :: more => .ok ([], b :: more)
          | [] => .ok ([], [])
      | .ok r => do
          let (opts, tail) ← splitAtPositional g rest
          pure ((r, a) :: opts, tail)

/-- The outcome of the options before a command: a request that ends reading, or the profile
switch and the arguments left over. -/
def leadingOptions (columns : Nat) :
    List (Role × String) → Bool → List String → Except Request (Bool × List String)
  | [], profile, extras => .ok (profile, extras)
  | (.option (some o) _, a) :: rest, profile, extras =>
      if o.dest == "version" then .error .version
      else if o.dest == "help" then .error (.help (toolGrammar.helpPage columns))
      else if o.dest == "profile" then leadingOptions columns rest true extras
      else leadingOptions columns rest profile (extras ++ [a])
  | (_, a) :: rest, profile, extras => leadingOptions columns rest profile (extras ++ [a])

/-- A switch is set. -/
def Namespace.on (ns : Namespace) (k : String) : Bool := ns.lookup k == some .switch

/-- The text of a destination. -/
def Namespace.text? (ns : Namespace) (k : String) : Option String :=
  match ns.lookup k with
  | some (.text s) => some s
  | _ => none

/-- The integer of a destination. -/
def Namespace.int? (ns : Namespace) (k : String) : Option Int :=
  match ns.lookup k with
  | some (.integer n) => some n
  | _ => none

/-- The shared options read. -/
def Namespace.shared (ns : Namespace) : Shared := ⟨ns.on "json", ns.text? "repo_root"⟩

/-- The template source read. -/
def Namespace.source (ns : Namespace) : SourceArg := ⟨(ns.text? "source").getD "", ns.on "inline"⟩

/-- The command a grammar's reading stands for. -/
def commandOf (name : String) (ns : Namespace) : Command :=
  match name with
  | "bench" => .bench ⟨ns.int? "placeholders", ns.int? "iterations", ns.int? "warmup",
      ns.int? "value_length", ns.int? "seed"⟩ ns.shared
  | "compose" => .compose (ns.texts "sources") ((ns.text? "separator").getD "") ns.shared
  | "inspect" => .inspect ns.source ns.shared
  | "render" => .render ns.source (ns.texts "vars") (ns.text? "vars_file") ns.shared
  | "serialize" => .serialize ns.source ns.shared
  | _ =>
      let format := match ns.text? "format" with
        | some "json" => Format.json
        | some "yaml" => .yaml
        | _ => .table
      .showConfig (ns.text? "key") format ns.shared

/-- The refusal of arguments that nothing takes. -/
def unrecognized (columns : Nat) (extras : List String) : Request :=
  .refused (toolGrammar.usage columns) toolGrammar.prog
    ("unrecognized arguments: " ++ " ".intercalate extras)

/-- The refusal of a command that a grammar does not lead to. -/
def invalidCommand (columns : Nat) (g : Grammar) (name : String) : Request :=
  let names := ((g.commands.map (·.listed)).getD []).map (·.1)
  .refused (g.usage columns) g.prog ("argument <command>: invalid choice: " ++ quoteText name ++
    " (choose from " ++ ", ".intercalate (names.map quoteText) ++ ")")

/-- Reads a command's own arguments; `extras` are left over from before it. -/
def readCommand (columns : Nat) (profile : Bool) (extras : List String) (name : String)
    (g : Grammar) (args : List String) : Request :=
  match g.read args with
  | .help => .help (g.helpPage columns)
  | .refused m => .refused (g.usage columns) g.prog m
  | .done ns more =>
      if (extras ++ more).isEmpty then .run profile (commandOf name ns)
      else unrecognized columns (extras ++ more)

/-- Reads the arguments of the `config` commands. -/
def readConfig (columns : Nat) (profile : Bool) (extras : List String) (args : List String) :
    Request :=
  match splitAtPositional configGrammar args with
  | .error m => .refused (configGrammar.usage columns) configGrammar.prog m
  | .ok (opts, rest) =>
      let helpAsked := opts.any fun (r, _) => match r with
        | .option (some o) _ => o.dest == "help"
        | _ => false
      let extras := extras ++ opts.filterMap fun (r, a) => match r with
        | .option (some _) _ => none
        | _ => some a
      if helpAsked then .help (configGrammar.helpPage columns)
      else match rest with
        | [] =>
            if extras.isEmpty then .help (configGrammar.helpPage columns)
            else unrecognized columns extras
        | name :: more =>
            if name == "show" then readCommand columns profile extras "show" showGrammar more
            else invalidCommand columns configGrammar name

/-- Reads the tool's command line on a terminal of some columns. -/
def Request.read (columns : Nat) (args : List String) : Request :=
  match splitAtPositional toolGrammar args with
  | .error m => .refused (toolGrammar.usage columns) toolGrammar.prog m
  | .ok (opts, rest) =>
      match leadingOptions columns opts false [] with
      | .error r => r
      | .ok (profile, extras) =>
          match rest with
          | [] =>
              if extras.isEmpty then .help (toolGrammar.helpPage columns)
              else unrecognized columns extras
          | name :: more =>
              if name == "config" then readConfig columns profile extras more
              else match grammars.lookup name with
                | some g => readCommand columns profile extras name g more
                | none => invalidCommand columns toolGrammar name

end Templating.Cli
