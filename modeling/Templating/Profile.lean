import Templating.Failure

/-!
# Profiles of nested spans

A run is a forest of spans: each span has a name, facts about it, and the spans run inside it.
A profile records a span when it ends, so its records come in post-order, each node after the
nodes inside it, siblings left to right; a record keeps the span's name, its depth (the number
of spans around it) and its facts. The calls of a profile count the records of each name, the
names in the order their first record came; its summary totals their times, names in the same
order.

A span call reads the profiler active in the current context. With none it only runs the spans
inside it. With one, the profiler opens the span at its current depth, one level deeper for the
spans inside, and when the span ends, whether the spans inside failed or not, goes back up and
records it. Enabling a profiler makes it active for a run of spans, and makes active again the
one that was before, whether the run failed or not.

A span cannot be opened with a fact called `name`, which is the span's own argument, nor, when a
profiler records it, with a fact called `self`, which stands for the profiler. The first span that
cannot be opened, in the order the spans open, fails the run.

## Implementation notes

`Span.records` and `Span.refusal` say in one pass what a run records and where it fails; the run
itself, span call by span call, is `Span.run`.
-/

namespace Templating

/-- A span of a run and the spans run inside it. -/
inductive Span where
  | node (name : String) (facts : List (String × Value)) (inner : List Span)
  deriving Inhabited

/-- A record of a profile. -/
structure SpanRecord where
  name : String
  depth : Nat
  facts : List (String × Value)

namespace Span

mutual

/-- The records of a span run at a depth, in the order they end. -/
def records (depth : Nat) : Span → List SpanRecord
  | node name facts inner => recordsAll (depth + 1) inner ++ [⟨name, depth, facts⟩]

/-- The records of spans run one after another at a depth. -/
def recordsAll (depth : Nat) : List Span → List SpanRecord
  | [] => []
  | s :: rest => records depth s ++ recordsAll depth rest

end

/-- The fault of opening a span with a fact that clashes with an argument of the call. -/
def clash (call arg : String) : Failure :=
  Failure.uncaught "TypeError" (call ++ "() got multiple values for argument \x27" ++ arg ++ "\x27")

mutual

/-- The fault of the first span that cannot be opened, in the order spans open; `recorded` tells
whether a profile records them. -/
def refusal (recorded : Bool) : Span → Option Failure
  | node _ facts inner =>
      if facts.any (·.1 == "name") then some (clash "span" "name")
      else if recorded && facts.any (·.1 == "self") then some (clash "Profiler.span" "self")
      else refusalAll recorded inner

/-- The fault of the first span among spans run one after another that cannot be opened. -/
def refusalAll (recorded : Bool) : List Span → Option Failure
  | [] => none
  | s :: rest =>
      match refusal recorded s with
      | some f => some f
      | none => refusalAll recorded rest

end

end Span

/-! ## Profilers -/

/-- A profiler: the records of the spans that ended in it, in the order they ended, and the
number of its spans that are open. -/
structure Profiler where
  spans : List SpanRecord := []
  depth : Nat := 0

namespace Profiler

/-- Opens a span: the spans inside it run one level deeper. -/
def enter (p : Profiler) : Profiler := { p with depth := p.depth + 1 }

/-- Ends a span that opened at depth `d`: the profiler goes back up and records the span. -/
def close (p : Profiler) (name : String) (d : Nat) (facts : List (String × Value)) : Profiler :=
  { spans := p.spans ++ [⟨name, d, facts⟩], depth := p.depth - 1 }

end Profiler

/-- The profilers a program has made, by number, a number not yet used standing for a fresh
profiler, and the number of the profiler active in the current context, if any. -/
structure Profiling where
  profilers : Nat → Profiler := fun _ => {}
  active : Option Nat := none

/-- Changes the profiler of a number. -/
def Profiling.update (w : Profiling) (i : Nat) (f : Profiler → Profiler) : Profiling :=
  { w with profilers := fun j => if j = i then f (w.profilers i) else w.profilers j }

namespace Span

mutual

/-- Runs a span call and the calls inside it: the profiling after them, and the fault that
stopped them, if any. -/
def run (w : Profiling) : Span → Profiling × Option Failure
  | node name facts inner =>
      if facts.any (·.1 == "name") then (w, some (clash "span" "name"))
      else match w.active with
        | none => runAll w inner
        | some i =>
            if facts.any (·.1 == "self") then (w, some (clash "Profiler.span" "self"))
            else
              let depth := (w.profilers i).depth
              let (w', r) := runAll (w.update i Profiler.enter) inner
              (w'.update i (·.close name depth facts), r)

/-- Runs span calls one after another, up to the first that fails. -/
def runAll (w : Profiling) : List Span → Profiling × Option Failure
  | [] => (w, none)
  | s :: rest =>
      match run w s with
      | (w', some f) => (w', some f)
      | (w', none) => runAll w' rest

end

end Span

/-- Runs span calls with a profiler active, then makes active again the profiler that was. -/
def Profiling.enable (w : Profiling) (i : Nat) (body : List Span) : Profiling × Option Failure :=
  let (w', r) := Span.runAll { w with active := some i } body
  ({ w' with active := w.active }, r)

/-! ## Calls and summaries -/

/-- Adds an amount to the total of a name, starting from zero; a new name goes at the end. -/
def tally {α : Type} [Add α] [OfNat α 0] (name : String) (x : α) :
    List (String × α) → List (String × α)
  | [] => [(name, 0 + x)]
  | (k, t) :: rest => if k = name then (k, t + x) :: rest else (k, t) :: tally name x rest

/-- The number of records of each name, names in the order of their first record. -/
def callCounts (rs : List SpanRecord) : List (String × Nat) :=
  rs.foldl (fun acc r => tally r.name 1 acc) []

/-- The total time of the records of each name, given each record with its time in
milliseconds; names in the order of their first record. -/
def summaryMs (timed : List (SpanRecord × Float)) : List (String × Float) :=
  timed.foldl (fun acc rx => tally rx.1.name rx.2 acc) []

end Templating
