import Templating.Template.Builder
import Templating.Random.Twister

/-!
# The lorem benchmark sentence

The benchmark renders one sentence with `n` substituted words: `Lorem ipsum `, then each word
followed by a filler, the last one by ` magna aliqua.` instead. The keywords are ten lorem words
in turn, from the second round on suffixed by the round's number, so that all are distinct.
Default and replacement words are drawn at random from the ASCII letters and digits.
-/

namespace Templating.Bench

/-- The ten keyword stems. -/
def stems : List String :=
  ["dolor", "consectetur", "sed", "eiusmod", "incididunt", "labore", "dolore", "magna", "aliqua",
    "veniam"]

/-- The ten fillers, one after each word but the last. -/
def fillers : List String :=
  [" amet, ", " elit, ", " do ", " tempor ", " ut ", " et ", " minim ", " quis ", " nostrud ",
    " ullamco "]

/-- The text before the first word. -/
def opening : String := "Lorem ipsum "

/-- The text after the last word. -/
def closing : String := " magna aliqua."

/-- The `i`-th keyword. -/
def keywordName (i : Nat) : String :=
  let stem := stems.getD (i % 10) ""
  if i < 10 then stem else stem ++ toString (i / 10)

/-- The first `count` keywords. -/
def keywordNames (count : Nat) : List String := (List.range count).map keywordName

/-- The text after the `i`-th of `n` words. -/
def after (n i : Nat) : String := if i + 1 < n then fillers.getD (i % 10) "" else closing

/-- The letters and digits random words are drawn from. -/
def alphabet : List Char :=
  (List.range 26).map (fun i => Char.ofNat (97 + i)) ++
    (List.range 26).map (fun i => Char.ofNat (65 + i)) ++
    (List.range 10).map (fun i => Char.ofNat (48 + i))

/-- A random word of `length` characters. -/
def randomWord (length : Nat) (t : Twister) : String × Twister :=
  let (cs, t) := (List.range length).foldl
    (fun (acc : List Char × Twister) _ =>
      let (i, t) := acc.2.below alphabet.length
      (alphabet.getD i 'a' :: acc.1, t))
    ([], t)
  (String.ofList cs.reverse, t)

/-- `count` random words of `length` characters. -/
def randomWords (count length : Nat) (t : Twister) : List String × Twister :=
  let (ws, t) := (List.range count).foldl
    (fun (acc : List String × Twister) _ =>
      let (w, t) := randomWord length acc.2
      (w :: acc.1, t))
    ([], t)
  (ws.reverse, t)

/-- The builder steps of the sentence with the given keywords and defaults. -/
def loremSteps (keywords defaults : List String) : List Step :=
  let n := keywords.length
  .append opening :: ((keywords.zip defaults).zipIdx.flatMap fun ((k, d), i) =>
    [.reserve k (some d), .append (after n i)])

/-- The sentence as a template with the given keywords and defaults. -/
def loremTemplate (keywords defaults : List String) : Template :=
  ⟨addPieces [] ((loremSteps keywords defaults).flatMap Step.items)⟩

end Templating.Bench
