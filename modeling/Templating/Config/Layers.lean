import Templating.Config.Merge
import Templating.Config.Env
import Templating.Config.Schema
import Templating.Codec.Name
import Templating.Codec.Error
import Templating.Codec.Decode
import Templating.Data.Json.Write
import Templating.Data.Display
import Templating.Text.Chars

/-!
# The layers of a project's configuration

A configuration is built in three layers, each over the one before:

1. the bundled defaults;
2. the project's files in `<root>/.stencil/config`: one per stem among the names ending in
   `.yaml` and `.yml`, the `.yaml` one when both exist, in order of stems, each read as UTF-8
   with its line ends made uniform and laid over the configuration by `mergeObjects`; a file
   whose document is empty or false in any way counts as an empty object, one whose document
   is some other value that is no mapping fails, and so does a file that cannot be opened or is
   no UTF-8; the objects of each file go to the heap after those of the files before it;
3. the environment: the variables whose names start with `STENCIL_`, in order of names, but
   for the project root variable and the bare prefix, each set at the path its name gives.

A checked configuration then satisfies `schema`, and names a known codec as its encoding: the
issues the validator finds are sorted by path, and the first is reported with their number.

The configuration reads with `Readers` it is given: a YAML reader for the files and a validator
for the schema. The tool gives its own (`Cli.readers`).

`Config.load` builds the layers; `Config.lookup` follows a dotted key through it.
-/

namespace Templating.Config

/-- The bundled defaults. -/
def bundled : Entries :=
  [(.str "logging", .record [("level", .str "WARNING"), ("file", .null)]),
   (.str "render", .record [("encoding", .str "utf-8")]),
   (.str "bench", .record [("placeholders", .int 2), ("iterations", .int 100000),
      ("warmup", .int 10000), ("valueLength", .int 10), ("seed", .null)])]

/-! ## Logging levels

A level name is read in upper case: `CRITICAL` and `FATAL` are 50, `ERROR` 40, `WARNING` and
`WARN` 30, `INFO` 20, `DEBUG` 10 and `NOTSET` 0; any other name is `INFO`. Only the upper case
of letters that can spell a level name matters: the ASCII letters, and the few other letters
whose upper case is ASCII (the dotless i, the long s, the sharp s and the Latin ligatures).
Every other character keeps itself, which spells no level name either way. -/

/-- The names of the levels a log may take. -/
def levelNames : List String :=
  ["DEBUG", "INFO", "WARNING", "ERROR", "CRITICAL", "debug", "info", "warning", "error", "critical"]

/-- The upper case of a character, as far as it can spell a level name. -/
def levelUpper (c : Char) : List Char :=
  if 'a' ≤ c ∧ c ≤ 'z' then [Char.ofNat (c.toNat - 32)]
  else match c.toNat with
    | 0x131 => ['I']
    | 0x17F => ['S']
    | 0xDF => ['S', 'S']
    | 0xFB00 => ['F', 'F']
    | 0xFB01 => ['F', 'I']
    | 0xFB02 => ['F', 'L']
    | 0xFB03 => ['F', 'F', 'I']
    | 0xFB04 => ['F', 'F', 'L']
    | 0xFB05 => ['S', 'T']
    | 0xFB06 => ['S', 'T']
    | _ => [c]

/-- The number of a logging level name. -/
def levelOf (name : String) : Nat :=
  match String.ofList (name.toList.flatMap levelUpper) with
  | "CRITICAL" | "FATAL" => 50
  | "ERROR" => 40
  | "WARNING" | "WARN" => 30
  | "INFO" => 20
  | "DEBUG" => 10
  | "NOTSET" => 0
  | _ => 20

/-! ## The layers -/

/-- The schema of a configuration: its three sections are objects of the listed keys, and any
other section is free. -/
def schema : Schema :=
  ⟨[.kind [.object],
    .fields [
      ("logging", [.kind [.object],
        .fields [("level", [.kind [.string], .oneOf levelNames]), ("file", [.kind [.string, .null]])],
        .additional false]),
      ("render", [.kind [.object], .fields [("encoding", [.kind [.string], .minLength 1])],
        .additional false]),
      ("bench", [.kind [.object],
        .fields [("placeholders", [.kind [.integer], .minimum 1]),
          ("iterations", [.kind [.integer], .minimum 1]),
          ("warmup", [.kind [.integer], .minimum 0]),
          ("valueLength", [.kind [.integer], .minimum 1]),
          ("seed", [.kind [.integer, .null]])],
        .additional false])],
    .additional true]⟩

/-- A file name split into its stem and whether it ends in `.yaml` rather than `.yml`; nothing
for a name that ends in neither. -/
def stemOf (name : String) : Option (String × Bool) :=
  let cs := name.toList
  -- a name that is all extension is its own stem
  if name == ".yaml" then some (name, true)
  else if name == ".yml" then some (name, false)
  else if cs.length > 5 && cs.drop (cs.length - 5) == ".yaml".toList then
    some (String.ofList (cs.take (cs.length - 5)), true)
  else if cs.length > 4 && cs.drop (cs.length - 4) == ".yml".toList then
    some (String.ofList (cs.take (cs.length - 4)), false)
  else none

/-- Adds a stem to an ordered list of stems. -/
def insertStem (s : String) : List String → List String
  | [] => [s]
  | t :: ts => if s == t then t :: ts else if s < t then s :: t :: ts else t :: insertStem s ts

/-- An entry of the configuration directory: its name, and the bytes of the file or the fault
that opening it for reading raises, as for a directory. -/
abbrev DirEntry := String × Except Failure (List UInt8)

/-- The entries that are layered: one per stem, the `.yaml` one first, in order of stems. -/
def chosenFiles (entries : List DirEntry) : List DirEntry :=
  let named := entries.filterMap fun (n, file) => (stemOf n).map fun (stem, long) => (stem, long, n, file)
  let stems := named.foldr (fun (stem, _) acc => insertStem stem acc) []
  stems.filterMap fun stem =>
    match named.find? (fun (s, long, _) => s == stem && long) with
    | some (_, _, n, file) => some (n, file)
    | none => (named.find? (fun (s, _) => s == stem)).map fun (_, _, n, file) => (n, file)

/-- Where a project's configuration file lies. -/
def filePath (root name : String) : String := root ++ "/.stencil/config/" ++ name

/-- Why a file's text gives no document: it is no YAML, for the reason the reader gives, or
reading it met a fault. -/
inductive YamlError where
  | malformed (reason : String)
  | fault (f : Failure)

/-- What a configuration is read with. -/
structure Readers where
  /-- The document of a file, given its path and its text: nothing for a text with none. -/
  yaml : String → String → Except YamlError (Option Graph)
  /-- The issues of a value under a schema, in the order they are found. -/
  issues : Schema → Heap → Value → Except Failure (List Issue)

section Reading

variable (R : Readers)

/-- The graph of a configuration file, its heap placed after `h`: the heap with the file's
objects added, and the object the file holds, empty for an empty or false document. -/
def readFile (h : Heap) (path : String) (bytes : List UInt8) : Except Failure (Heap × Entries) := do
  let text ← match Codec.decode "utf-8" bytes with
    | .ok text => pure text
    | .error e => throw (Failure.uncaught "UnicodeDecodeError" e.message)
  match R.yaml path (Text.withUniformLines text) with
  | .error (.malformed reason) =>
      .error ⟨.config, "Invalid YAML in " ++ path ++ ": " ++ reason, [("path", .str path)]⟩
  | .error (.fault f) => .error f
  | .ok none => .ok (h, [])
  | .ok (some g) =>
      let (h, v) := g.placeAfter h
      if !v.truthy h then .ok (h, [])
      else match v.deref h with
        | .obj kvs => .ok (h, kvs)
        | _ => .error ⟨.config, "Config file must contain a mapping: " ++ path, [("path", .str path)]⟩

/-- Lays the chosen files over a configuration, in order; a file that cannot be opened fails
with its fault. -/
def layerFiles (root : String) : List DirEntry → Heap × Entries → Except Failure (Heap × Entries)
  | [], cfg => .ok cfg
  | (name, file) :: rest, (h, cfg) => do
      let (h, layer) ← readFile R h (filePath root name) (← file)
      layerFiles root rest (h, ← mergeObjects h cfg layer)

end Reading

/-- Adds a variable to a list ordered by name. -/
def insertVariable (v : String × String) : List (String × String) → List (String × String)
  | [] => [v]
  | w :: ws => if v.1 < w.1 then v :: w :: ws else w :: insertVariable v ws

/-- The overrides of an environment: the key after `STENCIL_` and the text of each variable that
sets the configuration, in order of names. -/
def overrides (env : List (String × String)) : List (String × String) :=
  let sorted := env.foldr insertVariable []
  sorted.filterMap fun (name, text) =>
    if name.startsWith "STENCIL_" && name != "STENCIL_PROJECT_ROOT" && name.length > 8 then
      some (String.ofList (name.toList.drop 8), text)
    else none

/-- Sets the overrides in a configuration, in order. -/
def applyOverrides : List (String × String) → Heap × Entries → Except Failure (Heap × Entries)
  | [], cfg => .ok cfg
  | (key, text) :: rest, (h, cfg) =>
      match parseEnvKey key with
      | .error e => .error e.toFailure
      | .ok path => do
          let v ← coerce text
          applyOverrides rest (← setNested h cfg path v)

section Checking

variable (R : Readers)

/-- Checks the encoding a configuration names: one that names no codec fails it; one with a lone
surrogate or a null character cannot be looked up at all, the name being written in UTF-8 first. -/
def checkEncoding (h : Heap) (cfg : Entries) : Except Failure Unit :=
  match ((Entries.field? cfg "render").map (Value.deref h) : Option Value) with
  | some (.obj r) =>
      match ((Entries.field? r "encoding").map (Value.deref h) : Option Value) with
      | some (.str e) =>
          if e.isEmpty then pure ()
          else if let some err := Codec.utf8Refusal? e then
            throw (Failure.uncaught "UnicodeEncodeError" err.message)
          else if e.toList.contains '\x00' then throw (Failure.badValue "embedded null character")
          else if (Codec.lookup e).isSome then pure ()
          else throw ⟨.config,
            "Invalid configuration at render.encoding: unknown encoding '" ++ e ++ "'",
            [("path", .str "render.encoding")]⟩
      | _ => pure ()
  | _ => pure ()

/-- Checks a configuration: the first issue by path fails it, issues at one path taken in the
order they are found, with the number of all issues; a configuration with no issue is checked
for its encoding. -/
def check (h : Heap) (cfg : Entries) : Except Failure Unit := do
  let all ← R.issues schema h (.obj cfg)
  match all.mergeSort (fun a b => pathLe a.path b.path) with
  | i :: _ =>
      throw ⟨.config, "Invalid configuration at " ++ i.location ++ ": " ++ i.message,
        [("path", .str i.location), ("errors", .int all.length)]⟩
  | [] => checkEncoding h cfg

/-- The configuration of a project: the bundled defaults, the project's configuration directory
under `root` and the overrides of the environment, checked when `checked` is set. -/
def load (root : String) (entries : List DirEntry) (env : List (String × String))
    (checked : Bool) : Except Failure Graph := do
  let cfg ← mergeObjects #[] [] bundled
  let (h, cfg) ← layerFiles R root (chosenFiles entries) (#[], cfg)
  let (h, cfg) ← applyOverrides (overrides env) (h, cfg)
  if checked then check R h cfg
  pure ⟨h, .obj cfg⟩

end Checking

/-- Follows the parts of a path through objects, each part a text key. -/
def follow (h : Heap) : Value → List String → Option Value
  | v, [] => some v
  | v, p :: ps =>
      match v.deref h with
      | .obj kvs => (Entries.field? kvs p).bind (follow h · ps)
      | _ => none

/-- The value at a dotted key of a configuration. -/
def lookup (g : Graph) (key : String) : Option Value :=
  follow g.heap g.root (key.splitOn ".")

end Templating.Config
