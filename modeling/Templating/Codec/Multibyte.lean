import Templating.Codec.Error

/-!
# Codecs of several bytes per character

A multibyte codec reads each character from one byte, or from a first byte and the bytes after
it, by a `Table`:

* `single` gives what each byte value reads as alone: a character, `noChar` when no character
  starts with it, or `moreChar` when it starts a longer sequence;
* each `Row` gives, for one first byte, what the second bytes from `first` on read as, a second
  byte outside the row reading as nothing; the first row of a byte counts, so that a codec can
  lay its own rows over those of another;
* `several` lists the pairs that read as more than one character, marked `severalChar`;
* a pair marked `moreChar` starts a longer sequence, read by the table's `Extension`: rows of
  third bytes, the eight-byte make-up of a Hangul syllable from its letters, or four bytes
  that count through the code points.

A sequence that reads as nothing fails at its first byte, `illegal multibyte sequence`, or at its
first two bytes where the table marks `noPair`; a sequence cut off by the end of the bytes fails
at all the bytes left, `incomplete multibyte sequence`.
-/

namespace Templating.Codec

/-- The mark of a byte or pair that starts no character. -/
def noChar : Char := '\uFDD0'

/-- The mark of a byte or pair that starts a longer sequence. -/
def moreChar : Char := '\uFDD1'

/-- The mark of a pair that fails as a pair. -/
def noPair : Char := '\uFDD2'

/-- The mark of a pair that reads as several characters. -/
def severalChar : Char := '\uFDD3'

/-- What the bytes after one byte read as, from the byte `first` on. -/
structure Row where
  key : Nat
  first : Nat
  cells : String

/-- The cell of a row at a byte: what the row gives there, `noChar` outside it. -/
def Row.cell (r : Row) (b : Nat) : Char :=
  if b < r.first then noChar else (r.cells.toList.drop (b - r.first)).headD noChar

/-- The cell at a byte of the first row with a key, `noChar` when there is none. -/
def cellIn (rows : List Row) (key b : Nat) : Char :=
  match rows.find? (·.key == key) with
  | some r => r.cell b
  | none => noChar

/-- How a table reads the sequences longer than two bytes. -/
inductive Extension where
  | none
  /-- Rows of third bytes, by the second byte. -/
  | thirds (rows : List Row)
  /-- The make-up of a syllable: four pairs, each led by `0xA4`, of which the last three name the
  initial, medial and final letter, the final one possibly absent. -/
  | makeUp (initials medials finals : List (Nat × Nat))
  /-- Four bytes counting from `0x81 0x30 0x81 0x30`: the first `39420` through ranges of the
  basic plane, each with the code point it starts at or nothing, and those from
  `0x90 0x30 0x81 0x30` on through the planes above it. -/
  | fourBytes (ranges : List (Nat × Option Nat))

/-- The rows of third bytes of an extension. -/
def Extension.thirdRows : Extension → List Row
  | .thirds rows => rows
  | _ => []

/-- The tables of a multibyte codec. -/
structure Table where
  name : String
  single : String
  rows : List Row
  several : List (Nat × Nat × String) := []
  extension : Extension := .none

/-- What a step of reading gives: characters and the number of bytes they take, a failure at a
number of bytes, or a sequence cut off by the end. -/
inductive Step where
  | chars (cs : List Char) (width : Nat)
  | illegal (width : Nat)
  | incomplete

/-- The cell of a single byte. -/
def Table.singleAt (t : Table) (b : Nat) : Char := (t.single.toList.drop b).headD noChar

/-- The characters of a pair marked `severalChar`. -/
def Table.severalAt (t : Table) (b s : Nat) : List Char :=
  match t.several.find? (fun (x, y, _) => x == b && y == s) with
  | some (_, _, cs) => cs.toList
  | none => []

/-- A cell read as a step of `width` bytes. -/
def cellStep (c : Char) (width : Nat) : Step :=
  if c == noChar then .illegal 1
  else if c == noPair then .illegal 2
  else .chars [c] width

/-- The value of a letter of a make-up sequence. -/
def letterOf (letters : List (Nat × Nat)) (b : UInt8) : Option Nat := letters.lookup b.toNat

/-- Reads a sequence longer than two bytes: the first two bytes and the bytes after them. -/
def Extension.step : Extension → Nat → Nat → List UInt8 → Step
  | .none, _, _, _ => .illegal 1
  | .thirds rows, _, s, more =>
      match more with
      | [] => .incomplete
      | u :: _ => cellStep (cellIn rows s u.toNat) 3
  | .makeUp initials medials finals, _, _, more =>
      match more with
      | [a, i, b, m, c, f] | a :: i :: b :: m :: c :: f :: _ =>
          if a != 0xA4 || b != 0xA4 || c != 0xA4 then .illegal 1
          else match letterOf initials i, letterOf medials m, letterOf finals f with
            | some x, some y, some z => .chars [Char.ofNat (0xAC00 + x * 588 + y * 28 + z)] 8
            | _, _, _ => .illegal 1
      | _ => .incomplete
  | .fourBytes ranges, b, s, more =>
      match more with
      | c :: d :: _ =>
          if c.toNat < 0x81 || c.toNat > 0xFE || d.toNat < 0x30 || d.toNat > 0x39 then .illegal 1
          else
            let low := (c.toNat - 0x81) * 10 + (d.toNat - 0x30)
            let lead := b - 0x81
            let high := lead * 10 + (s - 0x30)
            if lead < 4 then
              let seq := high * 1260 + low
              let start := ranges.foldl (fun acc (r : Nat × Option Nat) =>
                if r.1 ≤ seq then some r else acc) Option.none
              match start with
              | some (base, some cp) =>
                  if seq < 39420 then .chars [Char.ofNat (cp + (seq - base))] 4 else .illegal 1
              | _ => .illegal 1
            else if lead ≥ 15 then
              let cp := 0x10000 + (high - 150) * 1260 + low
              if cp ≤ 0x10FFFF then .chars [Char.ofNat cp] 4 else .illegal 1
            else .illegal 1
      | _ => .incomplete

/-- One step of reading bytes by a table. -/
def Table.step (t : Table) : List UInt8 → Step
  | [] => .incomplete
  | b :: rest =>
      let c := t.singleAt b.toNat
      if c == noChar then .illegal 1
      else if c != moreChar then .chars [c] 1
      else match rest with
        | [] => .incomplete
        | s :: more =>
            let d := cellIn t.rows b.toNat s.toNat
            if d == severalChar then .chars (t.severalAt b.toNat s.toNat) 2
            else if d == moreChar then t.extension.step b.toNat s.toNat more
            else cellStep d 2

/-- Reads bytes from position `pos` by a table, a step at a time. -/
def Table.readFrom (t : Table) : Nat → Nat → List UInt8 → List Char → Except DecodeError (List Char)
  | _, _, [], acc => .ok acc.reverse
  | 0, pos, b :: rest, _ => .error ⟨t.name, pos, pos + 1 + rest.length, b, "incomplete multibyte sequence"⟩
  | fuel + 1, pos, b :: rest, acc =>
      match t.step (b :: rest) with
      | .chars cs w => t.readFrom fuel (pos + w) ((b :: rest).drop w) (cs.reverse ++ acc)
      | .illegal w => .error ⟨t.name, pos, pos + w, b, "illegal multibyte sequence"⟩
      | .incomplete => .error ⟨t.name, pos, pos + 1 + rest.length, b, "incomplete multibyte sequence"⟩

/-- Reads bytes by a table. -/
def Table.read (t : Table) (bytes : List UInt8) : Except DecodeError (List Char) :=
  t.readFrom bytes.length 0 bytes []

end Templating.Codec
