import Templating.Codec.Normal.Data

/-!
# Compatibility composition

`nfkc` puts a text in the normal form that internationalized names are compared in. Each
character is replaced by its full compatibility decomposition, Hangul syllables by their
letters; each run of combining marks is sorted, stably, by combining class; then every starter
takes in, one after another, the following characters it composes with that no mark of the same
or a higher class stands between, and a leading and a vowel letter of Hangul, with a trailing one
after them, make up their syllable again.
-/

namespace Templating.Codec.Normal

/-- The first Hangul syllable. -/
def syllableBase : Nat := 0xAC00

/-- The first leading, vowel and (one before the first) trailing letter of Hangul. -/
def leadBase : Nat := 0x1100
def vowelBase : Nat := 0x1161
def trailBase : Nat := 0x11A7

/-- The number of leading letters, vowels, trailing letters (with none), and syllables. -/
def leadCount : Nat := 19
def vowelCount : Nat := 21
def trailCount : Nat := 28
def syllableCount : Nat := 11172

/-- The canonical combining class of a character. -/
def combiningClass (c : Nat) : Nat :=
  match combiningRuns.find? (fun (lo, hi, _) => lo ≤ c && c ≤ hi) with
  | some (_, _, k) => k
  | none => 0

/-- The letters of a Hangul syllable. -/
def syllableLetters (c : Nat) : List Nat :=
  let i := c - syllableBase
  let t := i % trailCount
  [leadBase + i / (vowelCount * trailCount), vowelBase + i % (vowelCount * trailCount) / trailCount] ++
    (if t == 0 then [] else [trailBase + t])

/-- The full compatibility decomposition of a character. -/
def decompose (c : Nat) : List Nat :=
  if syllableBase ≤ c ∧ c < syllableBase + syllableCount then syllableLetters c
  else (decompositions.lookup c).getD [c]

/-- A run of combining marks in order of class, marks of one class keeping their order. -/
def sortMarks (run : List Nat) : List Nat :=
  run.mergeSort fun a b => combiningClass a ≤ combiningClass b

/-- Sorts every run of combining marks; `run` holds the marks since the last starter, in
reverse. -/
def reorder : List Nat → List Nat → List Nat
  | [], run => sortMarks run.reverse
  | c :: cs, run =>
      if combiningClass c == 0 then sortMarks run.reverse ++ c :: reorder cs []
      else reorder cs (c :: run)

/-- The character a pair composes into. -/
def composePair (a b : Nat) : Option Nat :=
  (compositions.find? fun (x, y, _) => x == a && y == b).map fun (_, _, c) => c

/-- Whether a character composes with one after it. -/
def composesFirst (a : Nat) : Bool := compositions.any fun (x, _, _) => x == a

/-- A starter takes in the characters after it that it composes with. Each character carries
whether it was taken already; `blocking` is the class of the last mark passed over, zero when
none was. -/
def absorb : Nat → Nat → List (Nat × Bool) → Nat × List (Nat × Bool)
  | code, _, [] => (code, [])
  | code, blocking, (c, true) :: rest =>
      let (code, rest) := absorb code blocking rest
      (code, (c, true) :: rest)
  | code, blocking, (c, false) :: rest =>
      let cls := combiningClass c
      if blocking != 0 && cls == 0 then (code, (c, false) :: rest)
      else if blocking != 0 && blocking ≥ cls then
        let (code, rest) := absorb code blocking rest
        (code, (c, false) :: rest)
      else match composePair code c with
        | none =>
            if cls == 0 then (code, (c, false) :: rest)
            else
              let (code, rest) := absorb code cls rest
              (code, (c, false) :: rest)
        | some r =>
            if composesFirst r then
              let (code, rest) := absorb r blocking rest
              (code, (c, true) :: rest)
            else (r, (c, true) :: rest)

theorem absorb_length (code blocking : Nat) (cs : List (Nat × Bool)) :
    (absorb code blocking cs).2.length = cs.length := by
  induction cs generalizing code blocking with
  | nil => simp [absorb]
  | cons p rest ih =>
      obtain ⟨c, used⟩ := p
      cases used
      · simp only [absorb]
        split
        · rfl
        · split
          · simp [ih]
          · split
            · split
              · rfl
              · simp [ih]
            · split
              · simp [ih]
              · rfl
      · simp [absorb, ih]

/-- The Hangul syllable that a leading letter makes up with the letters after it, and how many
of them it takes. -/
def syllableAfter (c : Nat) : List (Nat × Bool) → Option (Nat × Nat)
  | (v, _) :: more =>
      if leadBase ≤ c ∧ c < leadBase + leadCount ∧ vowelBase ≤ v ∧ v < vowelBase + vowelCount then
        let s := syllableBase + ((c - leadBase) * vowelCount + (v - vowelBase)) * trailCount
        match more with
        | (t, _) :: _ =>
            if trailBase < t ∧ t < trailBase + trailCount then some (s + (t - trailBase), 2)
            else some (s, 1)
        | [] => some (s, 1)
      else none
  | [] => none

/-- Composes a decomposed text, each character carrying whether a starter before it took it. -/
def composeAll (cs : List (Nat × Bool)) : List Nat :=
  match cs with
  | [] => []
  | (_, true) :: rest => composeAll rest
  | (c, false) :: rest =>
      match syllableAfter c rest with
      | some (s, taken) => s :: composeAll (rest.drop taken)
      | none =>
          if composesFirst c then
            let r := absorb c 0 rest
            r.1 :: composeAll r.2
          else c :: composeAll rest
termination_by cs.length
decreasing_by
  all_goals first
    | (simp; omega)
    | (simp [absorb_length])

/-- The compatibility composition of a text of code points. -/
def nfkc (text : List Nat) : List Nat :=
  composeAll ((reorder (text.flatMap decompose) []).map fun c => (c, false))

end Templating.Codec.Normal
