/-!
# Lone surrogates in texts

A text is a sequence of code points. Escapes and decoders can name a code point of the surrogate
range `U+D800`–`U+DFFF` on its own, and the text they read then holds it as a character. A string
holds Unicode scalar values only, so each lone surrogate is carried by a character of the last
private-use plane: `U+D800 + k` by `U+10F000 + k`. Carrying keeps equality, length and the place
of every character; the writers that show characters by their code points read a carrier back as
the surrogate it stands for. A text that holds a character of `U+10F000`–`U+10F7FF` itself is
read as holding that surrogate.

`charOfCode` makes the character of a code point and `codeOf` reads it back; the two are inverse
on every code point outside the carrier range (`codeOf_charOfCode`).
-/

namespace Templating.Text

/-- The first surrogate code point. -/
def surrogateFirst : Nat := 0xD800

/-- The first code point of the characters that carry surrogates. -/
def carrierFirst : Nat := 0x10F000

/-- The number of surrogate code points. -/
def surrogateCount : Nat := 0x800

/-- Whether a code point is a surrogate. -/
def isSurrogateCode (n : Nat) : Bool := surrogateFirst ≤ n && n < surrogateFirst + surrogateCount

/-- Whether a code point is one of the carriers. -/
def isCarrierCode (n : Nat) : Bool := carrierFirst ≤ n && n < carrierFirst + surrogateCount

/-- The character of a code point up to `0x10FFFF`: a surrogate's carrier, else the code point's
own character. -/
def charOfCode (n : Nat) : Char :=
  if isSurrogateCode n then Char.ofNat (n - surrogateFirst + carrierFirst) else Char.ofNat n

/-- The code point a character stands for: a carrier's surrogate, else its own. -/
def codeOf (c : Char) : Nat :=
  if isCarrierCode c.toNat then c.toNat - carrierFirst + surrogateFirst else c.toNat

/-- The code points of a text. -/
def codesOf (s : String) : List Nat := s.toList.map codeOf

/-- A character made from a scalar value has that value. -/
theorem toNat_ofNat_valid {n : Nat} (h : n.isValidChar) : (Char.ofNat n).toNat = n := by
  have e : Char.ofNat n = Char.ofNatAux n h := dif_pos h
  rw [e]
  rfl

/-- The surrogates are the code points from `0xD800` below `0xE000`. -/
theorem isSurrogateCode_iff (n : Nat) : isSurrogateCode n = true ↔ 0xD800 ≤ n ∧ n < 0xE000 := by
  unfold isSurrogateCode surrogateFirst surrogateCount
  constructor
  · intro h
    simp only [Bool.and_eq_true] at h
    exact ⟨of_decide_eq_true h.1, of_decide_eq_true h.2⟩
  · intro h
    simp only [Bool.and_eq_true]
    exact ⟨decide_eq_true h.1, decide_eq_true h.2⟩

/-- The carriers are the code points from `0x10F000` below `0x10F800`. -/
theorem isCarrierCode_iff (n : Nat) : isCarrierCode n = true ↔ 0x10F000 ≤ n ∧ n < 0x10F800 := by
  unfold isCarrierCode carrierFirst surrogateCount
  constructor
  · intro h
    simp only [Bool.and_eq_true] at h
    exact ⟨of_decide_eq_true h.1, of_decide_eq_true h.2⟩
  · intro h
    simp only [Bool.and_eq_true]
    exact ⟨decide_eq_true h.1, decide_eq_true h.2⟩

/-- A surrogate is carried by a character that reads back as it. -/
theorem codeOf_charOfCode_surrogate {n : Nat} (h : isSurrogateCode n = true) :
    codeOf (charOfCode n) = n := by
  have hr := (isSurrogateCode_iff n).mp h
  have hv : (n - 0xD800 + 0x10F000).isValidChar := Or.inr ⟨by omega, by omega⟩
  have hc : isCarrierCode (n - 0xD800 + 0x10F000) = true :=
    (isCarrierCode_iff _).mpr ⟨by omega, by omega⟩
  rw [charOfCode, if_pos h, codeOf, surrogateFirst, carrierFirst, toNat_ofNat_valid hv]
  rw [if_pos hc]
  omega

/-- A scalar value outside the carrier range is its own character. -/
theorem codeOf_charOfCode {n : Nat} (hv : n.isValidChar) (hc : isCarrierCode n = false) :
    codeOf (charOfCode n) = n := by
  have hs : isSurrogateCode n = false := by
    cases e : isSurrogateCode n with
    | false => rfl
    | true =>
        have := (isSurrogateCode_iff n).mp e
        simp only [Nat.isValidChar] at hv
        omega
  rw [charOfCode, if_neg (by simp [hs]), codeOf, toNat_ofNat_valid hv, if_neg (by simp [hc])]

end Templating.Text
