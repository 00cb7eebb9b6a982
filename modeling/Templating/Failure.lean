import Templating.Data.Value

/-!
# Failures

Every failure the program reports has a kind, a message and a context: an object of the facts
that go with the message. The kinds form a small hierarchy: all but `invalid` and the faults that no
command handles are failures of templating, and each also counts as one or two of the general kinds of failure of a runtime:
a spent builder as a runtime failure, a missing template source as a missing file and so as an
operating system failure, and bad replacements and bad configuration as bad values.

A failure of templating is reported as an object of its message, its code, which is the name of
its kind, and its context.
-/

namespace Templating

/-- The kinds of failure. -/
inductive FailureKind where
  /-- A failure of templating with no more specific kind. -/
  | general
  /-- A builder step after `build`. -/
  | builderSpent
  /-- A template or replacement source that cannot be read. -/
  | templateSource
  /-- Replacement values that cannot be read. -/
  | replacement
  /-- Configuration that cannot be read or does not fit the schema. -/
  | config
  /-- A bad argument outside templating. -/
  | invalid
  /-- A fault that no command handles, by the name of its kind: a bad value met while reading
  data, a key of a kind that cannot be written, a file that is a directory. -/
  | uncaught (name : String)
  deriving DecidableEq, Repr, Inhabited

namespace FailureKind

/-- The name of a kind, as reported. -/
def name : FailureKind → String
  | general => "StencilError"
  | builderSpent => "BuilderConsumedError"
  | templateSource => "TemplateSourceError"
  | replacement => "ReplacementError"
  | config => "ConfigError"
  | invalid => "ValueError"
  | uncaught name => name

/-- Whether the kind is a failure of templating, which carries a context. -/
def templating : FailureKind → Bool
  | invalid => false
  | uncaught _ => false
  | _ => true

/-- The general kinds a kind counts as, among a runtime failure, a missing file, a bad value and
an operating system failure, in that order. -/
def bases : FailureKind → List String
  | general => []
  | builderSpent => ["RuntimeError"]
  | templateSource => ["FileNotFoundError", "OSError"]
  | replacement => ["ValueError"]
  | config => ["ValueError"]
  | invalid => ["ValueError"]
  | uncaught _ => []

end FailureKind

/-- A reported failure. -/
structure Failure where
  kind : FailureKind
  message : String
  context : List (String × Value) := []
  deriving Inhabited

namespace Failure

/-- The failure as an object of its message, code and context. -/
def report (f : Failure) : Value :=
  .record [("message", .str f.message), ("code", .str f.kind.name), ("context", .record f.context)]

/-- A fault that no command handles, of the kind named. -/
def uncaught (name message : String) : Failure := ⟨.uncaught name, message, []⟩

/-- A bad value met while reading data. -/
def badValue (message : String) : Failure := uncaught "ValueError" message

/-- A failure of bad replacement values: the source and the entry, when they are not empty,
join the context, in that order, a key already there keeping its place. -/
def replacement (message : String) (source entry : String)
    (context : List (String × Value) := []) : Failure :=
  let ctx := if source.isEmpty then context else Value.insert "source" (.str source) context
  let ctx := if entry.isEmpty then ctx else Value.insert "entry" (.str entry) ctx
  ⟨.replacement, message, ctx⟩

end Failure

end Templating
