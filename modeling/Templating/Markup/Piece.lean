import Templating.Markup.Scan

/-!
# Pieces of a template text

A text reads as a list of pieces: literal text, and slots that name a keyword and may carry a
default. A live marker becomes a slot; an escaped marker is literal text, one backslash of the
run before it dropped, and the rest of that run kept. An even run before a live marker stays in
the literal before it, so `\\${a}` reads as a literal backslash pair and a slot.

The content of a marker splits at its colons: the keyword stands before the first one, the
default between the first and the second, and further fields are dropped.
-/

namespace Templating.Markup

/-- A piece of a template: literal text, or a slot for a keyword with an optional default. -/
inductive Piece where
  | text (s : String)
  | slot (keyword : String) (default : Option String)
  deriving DecidableEq, Repr

namespace Piece

/-- The keyword a piece belongs to; literal text belongs to none. -/
def keyword? : Piece → Option String
  | text _ => none
  | slot k _ => some k

/-- Whether the piece is a slot. -/
def isSlot (p : Piece) : Bool := p.keyword?.isSome

@[simp] theorem keyword?_text (s : String) : (text s).keyword? = none := rfl

@[simp] theorem keyword?_slot (k : String) (d : Option String) : (slot k d).keyword? = some k := rfl

end Piece

/-- Splits a marker content into its keyword and its default. -/
def splitContent (cs : List Char) : String × Option String :=
  match cs.dropWhile (· != ':') with
  | [] => (String.ofList cs, none)
  | _ :: r => (String.ofList (cs.takeWhile (· != ':')), some (String.ofList (r.takeWhile (· != ':'))))

/-- A text without a colon is taken whole up to a colon. -/
theorem takeWhile_notColon {l : List Char} (h : ':' ∉ l) : l.takeWhile (· != ':') = l := by
  induction l with
  | nil => rfl
  | cons c l ih =>
    have hc : c ≠ ':' := fun e => h (e ▸ List.mem_cons_self)
    have hl : ':' ∉ l := fun m => h (List.mem_cons_of_mem _ m)
    simp [hc, ih hl]

/-- Dropping up to a colon passes over a text without one. -/
theorem dropWhile_notColon {l r : List Char} (h : ':' ∉ l) :
    (l ++ r).dropWhile (· != ':') = r.dropWhile (· != ':') := by
  induction l with
  | nil => rfl
  | cons c l ih =>
    have hc : c ≠ ':' := fun e => h (e ▸ List.mem_cons_self)
    have hl : ':' ∉ l := fun m => h (List.mem_cons_of_mem _ m)
    simp [hc, ih hl]

/-- Taking up to a colon keeps a leading text without one. -/
theorem takeWhile_append_notColon {l r : List Char} (h : ':' ∉ l) :
    (l ++ r).takeWhile (· != ':') = l ++ r.takeWhile (· != ':') := by
  induction l with
  | nil => rfl
  | cons c l ih =>
    have hc : c ≠ ':' := fun e => h (e ▸ List.mem_cons_self)
    have hl : ':' ∉ l := fun m => h (List.mem_cons_of_mem _ m)
    simp [hc, ih hl]

/-- A content of a keyword and a default, neither with a colon, splits into the two. -/
theorem splitContent_colonFree {k e : List Char} (hk : ':' ∉ k) (he : ':' ∉ e) :
    splitContent (k ++ ':' :: e) = (String.ofList k, some (String.ofList e)) := by
  simp [splitContent, dropWhile_notColon hk, takeWhile_append_notColon hk, takeWhile_notColon he]

/-- A content without a colon is a keyword without a default. -/
theorem splitContent_of_colonFree {k : List Char} (hk : ':' ∉ k) :
    splitContent k = (String.ofList k, none) := by
  have h := dropWhile_notColon (r := []) hk
  simp only [List.append_nil] at h
  simp [splitContent, h]

/-- The pieces one found marker contributes, its gap included. -/
def Found.pieces (f : Found) : List Piece :=
  if f.escaped then [.text (String.ofList (f.gap.dropLast ++ f.raw))]
  else
    let kd := splitContent f.closed.content
    (if f.gap.isEmpty then [] else [.text (String.ofList f.gap)]) ++ [.slot kd.1 kd.2]

/-- A marker with nothing before it is live and gives one slot. -/
theorem Found.pieces_gap_nil (c : Closed) :
    Found.pieces ⟨[], c⟩ = [.slot (splitContent c.content).1 (splitContent c.content).2] := by
  simp [Found.pieces, Found.escaped, Found.backslashes, trailingBackslashes]

/-- The pieces of a text, in order. Two literal pieces may stand side by side, where an escaped
marker follows literal text. -/
def tokens (s : String) : List Piece :=
  let c := cut s.toList
  c.1.flatMap Found.pieces ++ (if c.2.isEmpty then [] else [.text (String.ofList c.2)])

end Templating.Markup
