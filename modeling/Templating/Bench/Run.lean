import Templating.Bench.Lorem
import Templating.Failure

/-!
# Benchmark runs

A comparison times four ways of building the sentence: the compiled template, joining the parts,
a format string and a substitution template, in that order. It needs at least one placeholder
and at least one iteration; the placeholder count is checked first.
-/

namespace Templating.Bench

/-- The settings of a comparison. -/
structure Settings where
  placeholders : Int := 2
  iterations : Int := 100000
  warmup : Int := 10000
  valueLength : Int := 10
  seed : Option Int := none

/-- Settings that no comparison can run with. -/
inductive BadSettings where
  | placeholders
  | iterations
  deriving DecidableEq, Repr

/-- The failure bad settings report. -/
def BadSettings.toFailure : BadSettings → Failure
  | .placeholders => ⟨.invalid, "placeholders must be >= 1", []⟩
  | .iterations => ⟨.invalid, "iterations must be >= 1", []⟩

/-- The names of the compared strategies, in the order they run. -/
def strategies : List String := ["template", "join", "format", "string.Template"]

/-- Checks the settings of a comparison. -/
def Settings.check (s : Settings) : Except BadSettings Unit :=
  if s.placeholders < 1 then .error .placeholders
  else if s.iterations < 1 then .error .iterations
  else .ok ()

/-- The sentence a strategy builds for values: the compiled template fills its slots, the others
join the opening, each value with the text after it, and the close. All build the same text. -/
def build (strategy : String) (keywords values : List String) (t : Template) : String :=
  if strategy == "template" then t.process (keywords.zip (values.map some))
  else opening ++ String.join (values.zipIdx.map fun (v, i) => v ++ after values.length i)

end Templating.Bench
