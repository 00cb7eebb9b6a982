import Templating.Cli.Command
import Templating.Cli.Host
import Templating.Cli.Args
import Templating.Config.Layers
import Templating.Config.Show
import Templating.Codec.Decode
import Templating.Template.Builder
import Templating.Template.Basic
import Templating.Yaml.Load
import Templating.Yaml.Write

/-!
# Running the tool's commands

`Request.answer` answers a request on a host with an `Outcome`: an exit code and the texts written
to the standard output and the standard error. A fault that no command handles, such as a value
that cannot be written or a path with a null character, is raised instead.

* `render` fills a template with the values of a vars file and of `--var` entries, the entries
  winning, and writes the text, or with `--json` the text, the template's keywords and the given
  keys that no slot uses;
* `serialize` writes a template back as text;
* `inspect` lists a template's positions and keywords;
* `compose` joins templates, with a separator between them, and writes the result as text,
  failing when the text would not read back as the same template;
* `config show` shows the configuration, or the value at a key, as a table, JSON or YAML;
* `bench` checks its settings and reports the time per call of each strategy; a setting that is
  a double cannot count anything.

Before any command, the log file the configuration names is opened, made empty with the
directories above it when it is missing. Every command reads the project's configuration first,
and a template is read in the encoding the configuration names. A failure is written to the standard error as `Error: <message>`, or
with `--json` as an object of an error code, the message and, for the tool's own failures, their
report; the exit code is then 1.

`Host.invoke` runs a whole command line: it reads the arguments on a terminal as wide as the
host's `COLUMNS` says and answers the request.
-/

namespace Templating.Cli

open Markup

/-- What a run writes and its exit code. -/
structure Outcome where
  exit : Nat
  stdout : String
  stderr : String
  deriving DecidableEq, Repr

/-- A run that writes a text to the standard output. -/
def Outcome.written (text : String) : Outcome := ⟨0, text, ""⟩

/-- A document of plain values as indented JSON. -/
def plainJson (v : Value) : String :=
  match v.toJsonIndented #[] with
  | .ok s => s
  | .error f => f.message

/-- A run that fails: in JSON an object of the code, the message and the failure's report when
it is the tool's own; else the message after `Error: `. -/
def Outcome.failed (json : Bool) (code message : String) (report : Option Failure) : Outcome :=
  if json then
    let fields := [("error", Value.str code), ("message", .str message)] ++
      (match report with
       | some f => [("details", f.report)]
       | none => [])
    ⟨1, "", plainJson (.record fields) ++ "\n"⟩
  else ⟨1, "", "Error: " ++ message ++ "\n"⟩

/-- A run that fails with one of the tool's failures. -/
def Outcome.failure (json : Bool) (code : String) (f : Failure) : Outcome :=
  Outcome.failed json code f.message (some f)

/-- A document of plain values on its own line. -/
def jsonLine (v : Value) : String := plainJson v ++ "\n"

/-- Sets a binding, in its place when the key is bound already. -/
def bind (σ : Bindings) (k : String) (v : Option String) : Bindings :=
  if σ.any (·.1 == k) then σ.map fun (k', w) => if k' == k then (k', v) else (k', w) else σ ++ [(k, v)]

/-- The encoding a configuration names for templates. -/
def encodingOf (g : Graph) : String :=
  match (Config.lookup g "render.encoding").map (Value.deref g.heap) with
  | some (.str s) => s
  | _ => "utf-8"

/-- The failure of a template that cannot be read. -/
def cannotRead (path message : String) : Failure :=
  ⟨.templateSource, "Cannot read template " ++ path ++ ": " ++ message, [("path", .str path)]⟩

/-- The fault of a path with a null character, which no file can have. -/
def nullInPath : Failure := Failure.badValue "embedded null byte"

/-- The keyword index of a template as an object. -/
def indexValue (t : Template) : Value :=
  .record (t.index.map fun (k, ps) => (k, .list (ps.map fun p => .int (Int.ofNat p))))

/-- A composition of templates: the separator, when it is not empty, between each two. -/
def composeTemplates (sep : String) (parts : List Template) : Template :=
  let steps := parts.zipIdx.flatMap fun (t, i) =>
    (if i > 0 && !sep.isEmpty then [Step.append sep] else []) ++ [Step.appendTemplate (.template t)]
  ⟨addPieces [] (steps.flatMap Step.items)⟩

/-- The lines `inspect` writes for a template. -/
def inspectLines (t : Template) : List String :=
  let pieceLine := fun (p : Piece × Nat) =>
    let pos := "  [" ++ toString p.2 ++ "] "
    match p.1 with
    | .text s => pos ++ "literal " ++ quoteText s
    | .slot k none => pos ++ "$\x7b" ++ k ++ "\x7d (no default)"
    | .slot k (some d) => pos ++ "$\x7b" ++ k ++ "\x7d default " ++ quoteText d
  ["Segments (" ++ toString t.length ++ "):"] ++ t.pieces.zipIdx.map pieceLine ++
    ["Keywords (" ++ toString t.index.length ++ "):"] ++
    t.index.map fun (k, ps) => "  " ++ k ++ ": " ++ ", ".intercalate (ps.map toString)

/-- A time with one decimal, right-aligned in ten places. -/
def timeText (x : Float) : String :=
  let tenths := (x * 10).round.toUInt64.toNat
  let s := toString (tenths / 10) ++ "." ++ toString (tenths % 10)
  String.ofList (List.replicate (10 - s.length) ' ') ++ s

/-- A name left-aligned in sixteen places. -/
def nameText (s : String) : String := s ++ String.ofList (List.replicate (16 - s.length) ' ')

/-- The slowest of some timings: the first of the largest. -/
def slowest : List (String × Float) → Option (String × Float)
  | [] => none
  | r :: rest =>
      match slowest rest with
      | some s => if s.2 > r.2 then some s else some r
      | none => some r

/-- The text without the blank characters at its end. -/
def trimEnd (s : String) : String := String.ofList (s.toList.reverse.dropWhile Text.isBlank).reverse

/-- The fault of counting with a double. -/
def countingWithDouble : Failure :=
  Failure.uncaught "TypeError" "\x27float\x27 object cannot be interpreted as an integer"

/-- A benchmark setting: a flag, else the value the configuration holds, else the fallback. -/
def benchSetting (h : Heap) (part : Entries) (flag : Option Int) (key : String) (fallback : Value) :
    Value :=
  match flag with
  | some n => .int n
  | none => ((Entries.field? part key).map (Value.deref h)).getD fallback

/-- Whether a setting falls below one; none for a setting that is no number. -/
def belowOne (v : Value) : Bool :=
  match v.num? with
  | some n => n.lt (.int 1)
  | none => false

/-- The whole number a setting holds; a double stands for its integral value. -/
def countOf (v : Value) : Int :=
  match v with
  | .int n => n
  | .float x => if x.isNaN || x.isInf then 0 else x.toInt64.toInt
  | .bool b => if b then 1 else 0
  | _ => 0

/-- The bindings a vars file's object gives: each key by its text, the last value of a key
winning in the place the key was first met, null leaving it unset. -/
def varBindings (h : Heap) (kvs : Entries) : Except Failure Bindings :=
  kvs.foldlM (fun σ (kv : Value × Value) => do
    let k ← kv.1.text h
    match kv.2.deref h with
    | .null => pure (bind σ k none)
    | _ => pure (bind σ k (some (← kv.2.text h)))) []

/-- The readers the tool loads a configuration with: a file's YAML read by `Yaml.load`, its places
named by the file's path, and the schema checked by `Schema.issues`. -/
def readers : Config.Readers where
  yaml path text :=
    match Yaml.load text with
    | .ok doc => .ok doc
    | .error (.malformed r) => .error (.malformed (r.describe (.file path)))
    | .error (.fault f) => .error (.fault f)
  issues := Config.Schema.issues

namespace Host

variable {m : Type → Type} [Monad m]

/-- The project's root and its configuration, checked. -/
def configAt (h : Host m) (given : Option String) : m (Except Failure (String × Graph)) :=
  if (given.getD "").toList.contains '\x00' then pure (.error nullInPath)
  else do
    match ← h.projectRoot given with
    | .error f => pure (.error f)
    | .ok root =>
        let files ← h.configFiles root
        pure ((Config.load readers root files h.env true).map (root, ·))

/-- The project's configuration, checked. -/
def config (h : Host m) (given : Option String) : m (Except Failure Graph) := do
  pure ((← h.configAt given).map (·.2))

/-- Opens the log file the configuration names, below the project's root unless its path has a
root, with the directories above it, as is done before every command. A configuration that
fails as such is left for the command to report; any other fault of the configuration, and a
file or directory that cannot be made, is raised. -/
def openLog (h : Host m) (given : Option String) : ExceptT Failure m Unit := do
  match ← ExceptT.lift (h.configAt given) with
  | .error f =>
      match f.kind with
      | .config => pure ()
      | _ => throw f
  | .ok (root, g) =>
      match (Config.lookup g "logging.file").map (Value.deref g.heap) with
      | some (.str file) =>
          if file.isEmpty then return
          let path := h.resolve (joinPath root file)
          let dir := parentPath path
          match ← ExceptT.lift (h.makeDirs ((pathParts dir).2.length + 2) dir) with
          | .error (e, p) => throw (e.fault p)
          | .ok () =>
              match ← ExceptT.lift (h.appendTo path) with
              | .error e => throw (e.fault path)
              | .ok () => pure ()
      | _ => pure ()

/-- The project's configuration, a fault that no command handles raised on. -/
def configOrFault (h : Host m) (given : Option String) : ExceptT Failure m (Except Failure Graph) := do
  match ← ExceptT.lift (h.config given) with
  | .error f => if f.kind.templating then pure (.error f) else throw f
  | .ok g => pure (.ok g)

/-- Reads a template's text from a file, or from the standard input for `-`; `taken` tells
whether the standard input was read before, which leaves it empty. -/
def readSource (h : Host m) (encoding : String) (taken : Bool) (source : String) :
    ExceptT Failure m (Except Failure String × Bool) := do
  if source == "-" then
    if taken then pure (.ok "", true)
    else do
      let text ← h.readInput
      pure (.ok text, true)
  else
    let path := normalPath source
    if path.toList.contains '\x00' then throw nullInPath
    match ← h.readFile path with
    | .error e => pure (.error (cannotRead path (e.message path)), taken)
    | .ok bytes =>
        match Codec.decode encoding bytes with
        | .error (.refused m) => throw (Failure.uncaught "UnicodeError" m)
        | .error .internal => throw (Failure.uncaught "RuntimeError" "internal codec error")
        | .error e => pure (.error (cannotRead path e.message), taken)
        | .ok text => pure (.ok (Text.withUniformLines text), taken)

/-- The template a source argument gives. -/
def template (h : Host m) (encoding : String) (src : SourceArg) :
    ExceptT Failure m (Except Failure Template) := do
  if src.inline then pure (.ok (Template.compile src.text))
  else do
    let (text, _) ← h.readSource encoding false src.text
    pure (text.map Template.compile)

/-- The bindings of a vars file: a YAML mapping of keywords to values, null leaving a keyword
unset; an empty or null document binds nothing. A file that is no YAML fails with the reason,
the places in the file it names shown. -/
def readVars (h : Host m) (file : String) : ExceptT Failure m (Except Failure Bindings) := do
  let path := normalPath file
  if path.toList.contains '\x00' then throw nullInPath
  match ← h.readFile path with
  | .error e =>
      pure (.error ⟨.templateSource, "Cannot read vars file " ++ path ++ ": " ++ e.message path,
        [("path", .str path)]⟩)
  | .ok bytes =>
      match Codec.decode "utf-8" bytes with
      | .error e => throw (Failure.uncaught "UnicodeDecodeError" e.message)
      | .ok text =>
          let text := Text.withUniformLines text
          match Yaml.load text with
          | .error (.malformed r) =>
              pure (.error (Failure.replacement ("Invalid YAML in vars file " ++ path ++ ": " ++ r.describeIn text)
                path ""))
          | .error (.fault f) => throw f
          | .ok none => pure (.ok [])
          | .ok (some g) =>
              match g.root.deref g.heap with
              | .null => pure (.ok [])
              | .obj kvs =>
                  match varBindings g.heap kvs with
                  | .ok σ => pure (.ok σ)
                  | .error f => throw f
              | _ =>
                  pure (.error (Failure.replacement ("Vars file must contain a mapping: " ++ path) path ""))

/-- The bindings of a vars file and of `--var` entries, the entries last. -/
def bindings (h : Host m) (vars : List String) (varsFile : Option String) :
    ExceptT Failure m (Except Failure Bindings) := do
  let fromFile ← match varsFile with
    | some f => if f.isEmpty then pure (.ok []) else h.readVars f
    | none => pure (.ok [])
  pure (fromFile.bind fun σ =>
    vars.foldlM (fun σ e => match parseVar e with
      | .ok (k, v) => .ok (bind σ k (some v))
      | .error b => .error b.toFailure) σ)

/-- Runs `render`. -/
def render (h : Host m) (src : SourceArg) (vars : List String) (varsFile : Option String)
    (o : Shared) : ExceptT Failure m Outcome := do
  match ← h.configOrFault o.repoRoot with
  | .error f => pure (.failure o.json "render_error" f)
  | .ok cfg =>
      match ← h.template (encodingOf cfg) src with
      | .error f => pure (.failure o.json "render_error" f)
      | .ok t =>
          match ← h.bindings vars varsFile with
          | .error f => pure (.failure o.json "render_error" f)
          | .ok σ =>
              let text := t.process σ
              let unused := ((σ.map (·.1)).filter fun k => !t.keywords.contains k).mergeSort
                fun a b => !decide (b < a)
              if o.json then
                pure (.written (jsonLine (.record [("rendered", .str text),
                  ("keywords", .list (t.keywords.map .str)), ("ignored", .list (unused.map .str))])))
              else pure (.written text)

/-- Runs `serialize`. -/
def serialize (h : Host m) (src : SourceArg) (o : Shared) : ExceptT Failure m Outcome := do
  match ← h.configOrFault o.repoRoot with
  | .error f => pure (.failure o.json "serialize_error" f)
  | .ok cfg =>
      match ← h.template (encodingOf cfg) src with
      | .error f => pure (.failure o.json "serialize_error" f)
      | .ok t =>
          if o.json then pure (.written (jsonLine (.record [("template", .str t.write)])))
          else pure (.written t.write)

/-- Runs `inspect`. -/
def inspect (h : Host m) (src : SourceArg) (o : Shared) : ExceptT Failure m Outcome := do
  match ← h.configOrFault o.repoRoot with
  | .error f => pure (.failure o.json "inspect_error" f)
  | .ok cfg =>
      match ← h.template (encodingOf cfg) src with
      | .error f => pure (.failure o.json "inspect_error" f)
      | .ok t =>
          if o.json then
            pure (.written (jsonLine (.record [("segments", .list t.describe), ("index", indexValue t)])))
          else pure (.written (String.join ((inspectLines t).map (· ++ "\n"))))

/-- Reads the templates of sources in order, stopping at the first that cannot be read. -/
def readAll (h : Host m) (encoding : String) :
    Bool → List String → ExceptT Failure m (Except Failure (List Template))
  | _, [] => pure (.ok [])
  | taken, s :: rest => do
      match ← h.readSource encoding taken s with
      | (.error f, _) => pure (.error f)
      | (.ok text, taken) => do
          match ← h.readAll encoding taken rest with
          | .error f => pure (.error f)
          | .ok ts => pure (.ok (Template.compile text :: ts))

/-- The message of a composition that cannot be written as text. -/
def composeConflict : String :=
  "Composed template cannot be written as text: a literal ending in a backslash or an " ++
    "unterminated '$\x7b' is followed by a placeholder"

/-- Runs `compose`. -/
def compose (h : Host m) (sources : List String) (sep : String) (o : Shared) :
    ExceptT Failure m Outcome := do
  match ← h.configOrFault o.repoRoot with
  | .error f => pure (.failure o.json "compose_error" f)
  | .ok cfg =>
      match ← h.readAll (encodingOf cfg) false sources with
      | .error f => pure (.failure o.json "compose_error" f)
      | .ok parts =>
          let t := composeTemplates sep parts
          match t.conflicts with
          | [] =>
              if o.json then
                pure (.written (jsonLine (.record [("template", .str t.write), ("index", indexValue t)])))
              else pure (.written t.write)
          | ps =>
              pure (.failure o.json "compose_error"
                ⟨.general, composeConflict, [("positions", .list (ps.map fun p => .int (Int.ofNat p)))]⟩)

/-- Runs `config show`. -/
def showConfig (h : Host m) (key : Option String) (format : Format) (o : Shared) :
    ExceptT Failure m Outcome := do
  match ← h.configOrFault o.repoRoot with
  | .error f => pure (.failure o.json "config_show_error" f)
  | .ok cfg =>
      let shown : Except String Value := match key with
        | some k =>
            if k.isEmpty then .ok cfg.root
            else match Config.lookup cfg k with
              | some v => .ok (nestKey k v)
              | none => .error k
        | none => .ok cfg.root
      match shown with
      | .error k => pure (.failed o.json "config_key_missing" ("Key not found: " ++ k) none)
      | .ok data =>
          let format := if o.json then Format.json else format
          match format with
          | .json => do
              let text ← liftExcept (data.toJsonIndented cfg.heap)
              pure (.written (text ++ "\n"))
          | .yaml => do
              let text ← liftExcept (data.toYaml cfg.heap)
              pure (.written (trimEnd text ++ "\n"))
          | .table => do
              let text ← liftExcept (data.table cfg.heap 0)
              pure (.written (text ++ "\n"))
where
  liftExcept {α : Type} (x : Except Failure α) : ExceptT Failure m α := ExceptT.mk (pure x)

/-- Runs `bench`. -/
def bench (h : Host m) (flags : BenchFlags) (o : Shared) : ExceptT Failure m Outcome := do
  match ← h.configOrFault o.repoRoot with
  | .error f => pure (.failure o.json "bench_error" f)
  | .ok cfg =>
      let part := match (Config.lookup cfg "bench").map (Value.deref cfg.heap) with
        | some (.obj kvs) => kvs
        | _ => []
      let pick := benchSetting cfg.heap part
      let placeholders := pick flags.placeholders "placeholders" (.int 2)
      let iterations := pick flags.iterations "iterations" (.int 100000)
      let warmup := pick flags.warmup "warmup" (.int 10000)
      let valueLength := pick flags.valueLength "valueLength" (.int 10)
      let seed := match pick flags.seed "seed" .null with
        | .int n => some n
        | _ => none
      if belowOne placeholders then
        return .failed o.json "bench_error" Bench.BadSettings.placeholders.toFailure.message none
      if belowOne iterations then
        return .failed o.json "bench_error" Bench.BadSettings.iterations.toFailure.message none
      let counts := [placeholders, valueLength, warmup, iterations]
      if counts.any fun v => match v with
          | .float _ => true
          | _ => false then
        throw countingWithDouble
      let s : Bench.Settings :=
        ⟨countOf placeholders, countOf iterations, countOf warmup, countOf valueLength, seed⟩
      let results ← h.measure s
      let top := slowest results
      if o.json then
        pure (.written (jsonLine (.record [("placeholders", .int s.placeholders),
          ("iterations", .int s.iterations), ("warmup", .int s.warmup),
          ("results", .list (results.map fun (n, x) =>
            .record [("name", .str n), ("per_call_ns", .float x)])),
          ("slowest", match top with
            | some (n, _) => .str n
            | none => .null)])))
      else
        let head := toString s.placeholders ++ " placeholder(s), " ++ toString s.iterations ++
          " iterations, " ++ toString s.warmup ++ " warm-up"
        let lines := results.map fun (n, x) =>
          "  " ++ nameText n ++ " " ++ timeText x ++ " ns/call" ++
            (if top.map (·.1) == some n then " (slowest)" else "")
        pure (.written (String.join ((head :: lines).map (· ++ "\n"))))

/-- Runs a command. -/
def runCommand (h : Host m) : Command → ExceptT Failure m Outcome
  | .render src vars varsFile o => h.render src vars varsFile o
  | .serialize src o => h.serialize src o
  | .inspect src o => h.inspect src o
  | .compose sources sep o => h.compose sources sep o
  | .showConfig key format o => h.showConfig key format o
  | .bench flags o => h.bench flags o

end Host

/-- Answers a request on a host: the outcome of the run, or the fault no command handles. -/
def Request.answer {m : Type → Type} [Monad m] (h : Host m) : Request → m (Except Failure Outcome)
  | .version => pure (.ok (.written (versionText ++ "\n")))
  | .help text => pure (.ok (.written text))
  | .refused usage prog message => pure (.ok ⟨2, "", usage ++ "\n" ++ prog ++ ": error: " ++ message ++ "\n"⟩)
  | .run _ cmd => (do h.openLog cmd.shared.repoRoot; h.runCommand cmd).run

/-- Runs the tool on a command line, read on a terminal as wide as the environment's `COLUMNS`
says. -/
def Host.invoke {m : Type → Type} [Monad m] (h : Host m) (args : List String) :
    m (Except Failure Outcome) :=
  (Request.read (terminalColumns (envGet h.env "COLUMNS")) args).answer h

end Templating.Cli
