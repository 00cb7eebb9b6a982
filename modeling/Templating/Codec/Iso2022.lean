import Templating.Codec.Error
import Templating.Codec.Cjk.EucJp
import Templating.Codec.Cjk.Jis2004
import Templating.Codec.Cjk.Gb
import Templating.Codec.Cjk.Korean

/-!
# ISO-2022

The ISO-2022 codecs read seven-bit text in which escape sequences designate the character sets
that the bytes after them stand for. Text starts in ASCII. `ESC ( F`, `ESC ) F` and `ESC . F`
designate the set of one byte a character with final byte `F` to the first, second or third
place; `ESC $ F`, `ESC $ ( F` and `ESC $ ) F` a set of two bytes to the first or second; and
with the extended designations `ESC & @ ESC $ B` designates JIS X 0208 too. A codec knows only
its own sets, ASCII always among them.

Bytes from `0x20` on are read by the set in the first place, or in the second after a shift out
(`SO`) for the codecs that shift; `SI` shifts back in and so does a line feed. `ESC N` reads the
next byte by the set in the third place. Any other escape passes on, and every byte after it up
to a capital letter or `@` is read as Latin-1. Control bytes stand for themselves, a byte above
ASCII fails, and so does a sequence the set it is read by lacks, at the width of that set.

The sets of two bytes are the tables of the EUC codecs read with the high bits set, but for the
few places where they differ.
-/

namespace Templating.Codec.Iso2022

/-- A character set that an escape sequence can designate. -/
inductive Charset where
  | ascii
  | roman
  | katakana
  | latin1
  | greek
  | jisx0208
  | jisx0208Old
  | jisx0212
  | gb2312
  | ksx1001
  /-- The first plane of JIS X 0213, in the edition of 2004 or of 2000. -/
  | plane1 (edition2004 : Bool)
  /-- The second plane of JIS X 0213. -/
  | plane2 (edition2004 : Bool)
  deriving DecidableEq, Repr

/-- The final byte of the designation of a set, and whether it has two bytes a character. -/
def Charset.mark : Charset → Nat × Bool
  | .ascii => (0x42, false)
  | .roman => (0x4A, false)
  | .katakana => (0x49, false)
  | .latin1 => (0x41, false)
  | .greek => (0x46, false)
  | .jisx0208 => (0x42, true)
  | .jisx0208Old => (0x40, true)
  | .jisx0212 => (0x44, true)
  | .gb2312 => (0x41, true)
  | .ksx1001 => (0x43, true)
  | .plane1 true => (0x51, true)
  | .plane1 false => (0x4F, true)
  | .plane2 _ => (0x50, true)

/-- The bytes a character of a set takes. -/
def Charset.width (c : Charset) : Nat := if c.mark.2 then 2 else 1

/-- An ISO-2022 codec: its name, its sets, whether `SI` and `SO` shift, whether it has a third
place, and whether it knows the extended designation of JIS X 0208. -/
structure Config where
  name : String
  sets : List Charset
  shifts : Bool
  third : Bool
  extended : Bool

/-- The ISO-2022 codecs. -/
def configs : List Config := [
  ⟨"iso2022_jp", [.jisx0208, .roman, .jisx0208Old], false, false, true⟩,
  ⟨"iso2022_jp_1", [.jisx0208, .jisx0212, .roman, .jisx0208Old], false, false, true⟩,
  ⟨"iso2022_jp_2", [.jisx0208, .jisx0212, .ksx1001, .gb2312, .roman, .jisx0208Old, .latin1, .greek],
    false, true, true⟩,
  ⟨"iso2022_jp_2004", [.plane1 true, .jisx0208, .plane2 true], false, false, true⟩,
  ⟨"iso2022_jp_3", [.plane1 false, .jisx0208, .plane2 false], false, false, true⟩,
  ⟨"iso2022_jp_ext", [.jisx0208, .jisx0212, .roman, .katakana, .jisx0208Old], false, false, true⟩,
  ⟨"iso2022_kr", [.ksx1001], true, false, false⟩]

/-- The set of a codec that a designation names. -/
def Config.designated (cfg : Config) (mark : Nat × Bool) : Option Charset :=
  if mark == Charset.ascii.mark then some .ascii else cfg.sets.find? (·.mark == mark)

/-- The cell of a table of two bytes at two bytes of seven bits. -/
def pairCell (t : Table) (rows : List Row) (c d : UInt8) : Option (List Char) :=
  if d.toNat ≥ 0x80 then none
  else
    let lead := c.toNat + 0x80
    let trail := d.toNat + 0x80
    let x := cellIn rows lead trail
    if x == severalChar then some (t.severalAt lead trail)
    else if x == noChar || x == noPair || x == moreChar then none
    else some [x]

/-- The rows of JIS X 0213 that its second plane fills. -/
def plane2Rows : List Nat := [1, 3, 4, 5, 8, 12, 13, 14, 15] ++ (List.range 17).map (· + 78)

/-- JIS X 0201 in its Latin half: ASCII with the yen sign and the overline. -/
def romanChar (c : UInt8) : Char :=
  if c == 0x5C then '¥' else if c == 0x7E then '‾' else Char.ofNat c.toNat

/-- The characters of a set at the bytes of a character. -/
def Charset.decode : Charset → UInt8 → UInt8 → Option (List Char)
  | .ascii, c, _ => some [Char.ofNat c.toNat]
  | .roman, c, _ => some [romanChar c]
  | .katakana, c, _ =>
      if 0x21 ≤ c.toNat ∧ c.toNat ≤ 0x5F then some [Char.ofNat (0xFF40 + c.toNat)] else none
  | .latin1, _, _ => none
  | .greek, _, _ => none
  | .jisx0208, c, d => pairCell eucJp eucJp.rows c d
  | .jisx0208Old, c, d => pairCell eucJp eucJp.rows c d
  | .jisx0212, c, d => pairCell eucJp eucJp.extension.thirdRows c d
  | .gb2312, c, d => pairCell Codec.gb2312 Codec.gb2312.rows c d
  | .ksx1001, c, d => if c == 0x24 && d == 0x54 then some ['ㅤ'] else pairCell eucKr eucKr.rows c d
  | .plane1 e, c, d =>
      if c == 0x22 && d == 0x32 then some ['~']
      else if e then pairCell eucJis2004 eucJis2004.rows c d
      else pairCell eucJisx0213 eucJisx0213.rows c d
  | .plane2 e, c, d =>
      if !e && c == 0x7D && d == 0x3B then some ['鬜']
      else if plane2Rows.contains (c.toNat - 0x20) then
        if e then pairCell eucJis2004 eucJis2004.extension.thirdRows c d
        else pairCell eucJisx0213 eucJisx0213.extension.thirdRows c d
      else none

/-- ISO 8859-7 as the third place reads it, from a byte with its high bit flipped. -/
def greekChar? (x : UInt8) : Option Char :=
  let c := (x ^^^ 0x80).toNat
  let bit := fun (mask i : Nat) => (mask / Nat.pow 2 i) % 2 == 1
  if c < 0xA0 then some (Char.ofNat c)
  else if c < 0xC0 && bit 0x288F3BC9 (c - 0xA0) then some (Char.ofNat c)
  else if 0xB4 ≤ c && c ≤ 0xFE && (c ≥ 0xD4 || bit 0xBFFFFD77 (c - 0xB4)) then
    some (Char.ofNat (0x2D0 + c))
  else if c == 0xA1 then some '‘'
  else if c == 0xA2 then some '’'
  else if c == 0xAF then some '―'
  else none

/-- Where a reading stands: the sets in the three places, whether it is shifted out, and whether
it passes bytes on after an unknown escape. -/
structure State where
  g0 : Charset := .ascii
  g1 : Charset := .ascii
  g2 : Charset := .ascii
  shifted : Bool := false
  passing : Bool := false

/-- A set put in a place. -/
def State.put (s : State) : Nat → Charset → State
  | 0, c => { s with g0 := c }
  | 1, c => { s with g1 := c }
  | _, c => { s with g2 := c }

/-- Whether a byte ends an escape sequence: a capital letter or `@`. -/
def isEscEnd (b : UInt8) : Bool := (0x41 ≤ b.toNat && b.toNat ≤ 0x5A) || b == 0x40

/-- Whether a byte after `ESC` starts a designation. -/
def isDesignation (b : UInt8) : Bool := b == 0x28 || b == 0x29 || b == 0x24 || b == 0x2E || b == 0x26

/-- How long an escape sequence is: `none` when the bytes end inside it, zero when it does not
end within sixteen bytes. -/
def escapeLength (extended : Bool) : Nat → Nat → List UInt8 → Option Nat
  | 0, _, _ => some 0
  | fuel + 1, i, rest =>
      if i ≥ 16 then some 0
      else match rest with
        | [] => none
        | b :: more =>
            if isEscEnd b then some (i + 1)
            else if extended && b == 0x26 && more.head? == some 0x40 then
              escapeLength extended fuel (i + 3) (rest.drop 3)
            else escapeLength extended fuel (i + 1) more

/-- What an escape sequence does. -/
inductive Escape where
  | designate (place : Nat) (set : Charset) (length : Nat)
  | illegal (width : Nat)
  | incomplete

/-- Reads a designation, the bytes starting at its `ESC`. -/
def Config.escape (cfg : Config) (bytes : List UInt8) : Escape :=
  let at_ := fun (i : Nat) => bytes.getD i 0
  match escapeLength cfg.extended 16 1 (bytes.drop 1) with
  | none => .incomplete
  | some 0 => .illegal 1
  | some len =>
      let target : Option (Nat × Nat × Bool) :=
        match len with
        | 3 =>
            if at_ 1 == 0x24 then some (0, (at_ 2).toNat, true)
            else if at_ 1 == 0x28 then some (0, (at_ 2).toNat, false)
            else if at_ 1 == 0x29 then some (1, (at_ 2).toNat, false)
            else if cfg.third && at_ 1 == 0x2E then some (2, (at_ 2).toNat, false)
            else none
        | 4 =>
            if at_ 1 != 0x24 then none
            else if at_ 2 == 0x28 then some (0, (at_ 3).toNat, true)
            else if at_ 2 == 0x29 then some (1, (at_ 3).toNat, true)
            else none
        | 6 =>
            if cfg.extended && at_ 3 == 0x1B && at_ 4 == 0x24 && at_ 5 == 0x42 then
              some (0, 0x42, true)
            else none
        | _ => none
      match target with
      | none => .illegal len
      | some (place, mark) =>
          match cfg.designated mark with
          | some set => .designate place set len
          | none => .illegal len

/-- Reads ISO-2022 text from a position, adding to the characters read so far in reverse. -/
def Config.readFrom (cfg : Config) : Nat → State → Nat → List UInt8 → List Char →
    Except ReadError (List Char)
  | _, _, _, [], acc => .ok acc.reverse
  | 0, _, pos, b :: rest, _ =>
      .error (.undecodable ⟨cfg.name, pos, pos + 1 + rest.length, b, "incomplete multibyte sequence"⟩)
  | fuel + 1, s, pos, b :: rest, acc =>
      let bytes := b :: rest
      let fail := fun (width : Nat) =>
        Except.error (ReadError.undecodable ⟨cfg.name, pos, pos + width, b, "illegal multibyte sequence"⟩)
      let short := Except.error
        (ReadError.undecodable ⟨cfg.name, pos, pos + bytes.length, b, "incomplete multibyte sequence"⟩)
      let next := fun (s : State) (width : Nat) (out : List Char) =>
        cfg.readFrom fuel s (pos + width) (bytes.drop width) (out.reverse ++ acc)
      if s.passing then next { s with passing := !isEscEnd b } 1 [Char.ofNat b.toNat]
      else if b == 0x1B then
        match rest with
        | [] => short
        | c :: more =>
            if isDesignation c then
              match cfg.escape bytes with
              | .designate place set len => next (s.put place set) len []
              | .illegal w => fail w
              | .incomplete => short
            else if cfg.third && c == 0x4E then
              match more with
              | [] => short
              | x :: _ =>
                  match s.g2 with
                  | .ascii => if x.toNat < 0x80 then next s 3 [Char.ofNat x.toNat] else fail 3
                  | .latin1 => if x.toNat < 0x80 then next s 3 [Char.ofNat (x.toNat + 0x80)] else fail 3
                  | .greek =>
                      match greekChar? x with
                      | some ch => next s 3 [ch]
                      | none => fail 3
                  | _ => .error .internal
            else next { s with passing := true } 1 ['\x1b']
      else if b == 0x0F && cfg.shifts then next { s with shifted := false } 1 []
      else if b == 0x0E && cfg.shifts then next { s with shifted := true } 1 []
      else if b == 0x0A then next { s with shifted := false } 1 ['\n']
      else if b.toNat < 0x20 then next s 1 [Char.ofNat b.toNat]
      else if b.toNat ≥ 0x80 then fail 1
      else
        let set := if s.shifted then s.g1 else s.g0
        if set == .ascii then next s 1 [Char.ofNat b.toNat]
        else if bytes.length < set.width then short
        else match set.decode b (rest.headD 0) with
          | some out => next s set.width out
          | none => fail set.width

/-- Reads text by the ISO-2022 codec of a name. -/
def read (name : String) (bytes : List UInt8) : Except ReadError (List Char) :=
  match configs.find? (·.name == name) with
  | some cfg => cfg.readFrom (bytes.length + 1) {} 0 bytes []
  | none => .error (.unknown name)

end Templating.Codec.Iso2022
