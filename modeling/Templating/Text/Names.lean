import Templating.Text.Names.Data
import Templating.Text.Chars

/-!
# Looking characters up by name

`codeOfName?` finds the code point a character name names, as the escape `\N{...}` reads it. A
Hangul syllable is named by the rule of its letters after `HANGUL SYLLABLE `, a unified
ideograph by its code point after `CJK UNIFIED IDEOGRAPH-`, both in capitals only; every other
character by its listed name or one of its aliases (`Text.Names.Data`), ASCII letters in either
case. A name that starts with one of the two prefixes names nothing else.
-/

namespace Templating.Text

/-- The capital form of an ASCII letter; any other character is kept. -/
def upperAscii (c : Char) : Char := if 'a' ≤ c ∧ c ≤ 'z' then Char.ofNat (c.toNat - 32) else c

/-- The capital hexadecimal digits of a number, without leading zeros. -/
def upperHexText (n : Nat) : List Char := (Nat.toDigits 16 n).map fun c => upperAscii c

/-! ## Reading the name table -/

/-- The words of the names, by their index. -/
def nameWords : Array String := (nameWordText.splitOn " ").toArray

/-- The one-byte characters that stand for words, in order: the printable ASCII characters but
the quote, the backslash, the braces, `~` and `|`. -/
def shortMarks : List Char :=
  (List.range 94).filterMap fun i =>
    let c := Char.ofNat (0x21 + i)
    if ['"', '\\', '\x7b', '\x7d', '~', '|'].contains c then none else some c

/-- The index of the word a character of a name line stands for: the one-byte marks first, then
the characters from `U+00A0` on. -/
def wordIndex (c : Char) : Nat :=
  let n := c.toNat
  if n < 0x80 then shortMarks.idxOf c
  else shortMarks.length + (n - 0xA0)

/-- The words that the rest of a name line writes. The first argument holds the letters, last
first, of a word being spelled out after `~`, which a blank or the end of the line closes. -/
def wordsOfLine : Option (List Char) → List Char → List String
  | none, [] => []
  | some w, [] => [String.ofList w.reverse]
  | none, '~' :: rest => wordsOfLine (some []) rest
  | none, c :: rest => nameWords.getD (wordIndex c) "" :: wordsOfLine none rest
  | some w, ' ' :: rest => String.ofList w.reverse :: wordsOfLine none rest
  | some w, c :: rest => wordsOfLine (some (c :: w)) rest

/-- The names of the lines of a part of the name table, each with its code point, in order. The
arguments after the lines are the code point of the next name, the words of the name before and
the names read so far, last first. A line `@` and hexadecimal digits sets the next code point; any
other line starts with the count of the words it keeps of the name before, as a digit. -/
def namesOfLines : List String → Nat → List String → List (String × Nat) → List (String × Nat)
  | [], _, _, acc => acc.reverse
  | line :: rest, code, prev, acc =>
      match line.toList with
      | '@' :: ds => namesOfLines rest ((upperHexValue? ds).getD 0) [] acc
      | k :: cs =>
          let words := prev.take (k.toNat - 0x30) ++ wordsOfLine none cs
          namesOfLines rest (code + 1) words ((" ".intercalate words, code) :: acc)
      | [] => namesOfLines rest code prev acc

/-- Every listed name and alias with the code point it names. -/
def namedCodes : Array (String × Nat) :=
  (nameTexts.flatMap fun t => namesOfLines (t.splitOn "|") 0 [] []).toArray

/-! ## Names by rule -/

/-- The romanized leading consonants of Hangul, in order; the twelfth is written as nothing. -/
def leadLetters : List String :=
  ["G", "GG", "N", "D", "DD", "R", "M", "B", "BB", "S", "SS", "", "J", "JJ", "C", "K", "T", "P", "H"]

/-- The romanized vowels of Hangul, in order. -/
def vowelLetters : List String :=
  ["A", "AE", "YA", "YAE", "EO", "E", "YEO", "YE", "O", "WA", "WAE", "OE", "YO", "U", "WEO", "WE",
    "WI", "YU", "EU", "YI", "I"]

/-- The romanized trailing consonants of Hangul, in order, the first being none. -/
def trailLetters : List String :=
  ["", "G", "GG", "GS", "N", "NJ", "NH", "D", "L", "LG", "LM", "LB", "LS", "LT", "LP", "LH", "M",
    "B", "BS", "S", "SS", "NG", "J", "C", "K", "T", "P", "H"]

/-- The longest of the spellings that starts the letters, the first of equal length: its index
and the letters after it. -/
def longestSpelling (spellings : List String) (cs : List Char) : Option (Nat × List Char) :=
  let step := fun (best : Option (Nat × Nat)) (e : String × Nat) =>
    let len := e.1.length
    if e.1.toList.isPrefixOf cs && (best.all fun b => b.1 < len) then some (len, e.2) else best
  ((spellings.zipIdx.foldl step none).map fun b => (b.2, cs.drop b.1))

/-- The Hangul syllable that the letters of a name after `HANGUL SYLLABLE ` spell, in capitals:
the longest leading consonant, then the longest vowel, then the longest trailing consonant, which
must end the name. -/
def syllableNamed? (cs : List Char) : Option Nat := do
  let (l, cs) ← longestSpelling leadLetters cs
  let (v, cs) ← longestSpelling vowelLetters cs
  let (t, cs) ← longestSpelling trailLetters cs
  if cs.isEmpty then some (0xAC00 + (l * 21 + v) * 28 + t) else none

/-- The blocks of unified ideographs. -/
def ideographBlocks : List (Nat × Nat) :=
  [(0x3400, 0x4DBF), (0x4E00, 0x9FFF), (0x20000, 0x2A6DF), (0x2A700, 0x2B738), (0x2B740, 0x2B81D),
    (0x2B820, 0x2CEA1), (0x2CEB0, 0x2EBE0), (0x30000, 0x3134A)]

/-- The unified ideograph that four or five digits of capital hexadecimal name. -/
def ideographNamed? (cs : List Char) : Option Nat := do
  if cs.length != 4 && cs.length != 5 then none
  let n ← upperHexValue? cs
  if ideographBlocks.any fun (lo, hi) => lo ≤ n && n ≤ hi then some n else none

/-- The code point that a name of a numbered family names: the prefix, then the code point in
capital hexadecimal as it is written, in one of the family's ranges. -/
def numberedNamed? (key : List Char) : Option Nat :=
  numberedNames.findSome? fun (pre, ranges) =>
    if pre.toList.isPrefixOf key then
      let ds := key.drop pre.length
      match upperHexValue? ds with
      | some n =>
          if upperHexText n == ds && ranges.any (fun (lo, hi) => lo ≤ n && n ≤ hi) then some n
          else none
      | none => none
    else none

/-- The code point a character name names. -/
def codeOfName? (name : List Char) : Option Nat :=
  if name.take 16 == "HANGUL SYLLABLE ".toList then syllableNamed? (name.drop 16)
  else if name.take 22 == "CJK UNIFIED IDEOGRAPH-".toList then ideographNamed? (name.drop 22)
  else
    let key := name.map upperAscii
    match numberedNamed? key with
    | some n => some n
    | none =>
        let text := String.ofList key
        (namedCodes.find? (·.1 == text)).map (·.2)

end Templating.Text
