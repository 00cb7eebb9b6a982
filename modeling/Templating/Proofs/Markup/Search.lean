import Templating.Proofs.Markup.Reading

/-!
# Searching a text for markers

`markers` takes the first `${` of a text, reads its content up to the brace that closes it, and
searches again from one past that brace; it stops at the first `${` that no brace closes. This
module says the same over positions in the text. `Greedy` is the left to right search as a
relation: each marker opens at the first `${` from where the previous one ended, ends one past the
brace its content scan closes at, and starts where the run of backslashes before it starts; after
the last one no `${` is closed at all. `resumingMarkers` is the search that steps past a `${` that
is never closed and goes on from the next position.

Main statement: `markers_greedy`. The markers of a text are the one list that `Greedy` allows,
and stopping at an unclosed `${` loses none of them: the search that goes on finds the same.

## Implementation notes

A content scan takes its characters one at a time, or two at a time for a backslash followed by a
backslash or a closing brace. A `$` is never the second character of such a pair, so a scan that
meets a later `${` reads it as two plain characters and then reads on exactly as a scan started
after that `${` does (`scanContent_eq_none_of_open`). A content that is never closed therefore
leaves every later `${` unclosed as well.
-/

namespace Templating.Markup

/-! ## Positions in a text -/

/-- `${` is written at index `q` of the text. -/
def OpensAt (cs : List Char) (q : Nat) : Prop := cs[q]? = some '$' ∧ cs[q + 1]? = some '{'

theorem opensAt_drop {cs : List Char} {pos j : Nat} :
    OpensAt (cs.drop pos) j ↔ OpensAt cs (pos + j) := by
  simp [OpensAt, List.getElem?_drop, Nat.add_assoc]

@[simp] theorem opensAt_cons_succ {c : Char} {r : List Char} {j : Nat} :
    OpensAt (c :: r) (j + 1) ↔ OpensAt r j := by
  simp [OpensAt]

theorem OpensAt.lt_length {cs : List Char} {q : Nat} (h : OpensAt cs q) : q + 1 < cs.length :=
  (List.getElem?_eq_some_iff.1 h.2).1

theorem drop_of_opensAt {cs : List Char} {q : Nat} (h : OpensAt cs q) :
    cs.drop q = '$' :: '{' :: cs.drop (q + 2) := by
  obtain ⟨hq, e0⟩ := List.getElem?_eq_some_iff.1 h.1
  obtain ⟨hq1, e1⟩ := List.getElem?_eq_some_iff.1 h.2
  rw [List.drop_eq_getElem_cons hq, List.drop_eq_getElem_cons hq1, e0, e1]

theorem opensAt_zero_iff {cs : List Char} : OpensAt cs 0 ↔ ∃ r, cs = '$' :: '{' :: r :=
  ⟨fun h => ⟨cs.drop 2, drop_of_opensAt h⟩, by rintro ⟨r, rfl⟩; simp [OpensAt]⟩

/-- A character that `findOpen` passes over does not start a `${`. -/
theorem not_opensAt_zero {c : Char} {r : List Char}
    (hne : ∀ r', c = '$' → r = '{' :: r' → False) : ¬ OpensAt (c :: r) 0 := by
  intro h0
  obtain ⟨r', hr'⟩ := opensAt_zero_iff.1 h0
  simp only [List.cons.injEq] at hr'
  exact hne _ hr'.1 hr'.2

/-- `q` is the first index at or after `pos` where `${` is written. -/
structure FirstOpen (cs : List Char) (pos q : Nat) : Prop where
  le : pos ≤ q
  opens : OpensAt cs q
  first : ∀ j, pos ≤ j → j < q → ¬ OpensAt cs j

theorem FirstOpen.unique {cs : List Char} {pos q q' : Nat} (h : FirstOpen cs pos q)
    (h' : FirstOpen cs pos q') : q = q' := by
  rcases Nat.lt_trichotomy q q' with hlt | heq | hgt
  · exact absurd h.opens (h'.first q h.le hlt)
  · exact heq
  · exact absurd h'.opens (h.first q' h'.le hgt)

/-- `findOpen` splits a text at its first `${`. -/
theorem findOpen_firstOpen {x g a : List Char} (h : findOpen x = some (g, a)) :
    FirstOpen x 0 g.length ∧ x.drop (g.length + 2) = a := by
  fun_induction findOpen x generalizing g a with
  | case1 => simp at h
  | case2 r =>
    cases h
    exact ⟨⟨Nat.le_refl 0, opensAt_zero_iff.2 ⟨r, rfl⟩, fun j _ hj => absurd hj (by simp)⟩, rfl⟩
  | case3 c r hne ih =>
    obtain ⟨⟨g', a'⟩, hr, he⟩ := Option.map_eq_some_iff.1 h
    cases he
    obtain ⟨hf, hd⟩ := ih hr
    refine ⟨⟨Nat.zero_le _, by simpa using hf.opens, fun j _ hj => ?_⟩, by simpa using hd⟩
    cases j with
    | zero => exact not_opensAt_zero hne
    | succ j => simpa using hf.first j (Nat.zero_le _) (by simpa using hj)

/-- A text without `${` opens nowhere. -/
theorem findOpen_eq_none {x : List Char} (h : findOpen x = none) : ∀ j, ¬ OpensAt x j := by
  fun_induction findOpen x with
  | case1 => simp [OpensAt]
  | case2 r => simp at h
  | case3 c r hne ih =>
    intro j
    cases j with
    | zero => exact not_opensAt_zero hne
    | succ j => simpa using ih (by simpa using h) j

/-- The first `${` at or after index `pos`. -/
def openFrom (cs : List Char) (pos : Nat) : Option Nat :=
  (findOpen (cs.drop pos)).map fun p => pos + p.1.length

/-- `openFrom` finds the first `${` from `pos` on. -/
theorem openFrom_firstOpen {cs : List Char} {pos q : Nat} (h : openFrom cs pos = some q) :
    FirstOpen cs pos q := by
  obtain ⟨⟨g, a⟩, hf, rfl⟩ := Option.map_eq_some_iff.1 h
  show FirstOpen cs pos (pos + g.length)
  have hg := (findOpen_firstOpen hf).1
  refine ⟨Nat.le_add_right _ _, opensAt_drop.1 hg.opens, fun j hj hjq => ?_⟩
  have := hg.first (j - pos) (Nat.zero_le _) (by omega)
  rwa [opensAt_drop, Nat.add_sub_cancel' hj] at this

theorem openFrom_eq_none {cs : List Char} {pos : Nat} (h : openFrom cs pos = none) :
    ∀ q, pos ≤ q → ¬ OpensAt cs q := by
  intro q hq ho
  have := findOpen_eq_none (Option.map_eq_none_iff.1 h) (q - pos)
  rw [opensAt_drop, Nat.add_sub_cancel' hq] at this
  exact this ho

/-! ## The run of backslashes before a marker -/

/-- `start` is where the run of backslashes that ends at `opening` begins, the run cut at `pos`. -/
structure RunStart (cs : List Char) (pos opening start : Nat) : Prop where
  le : pos ≤ start
  le_opening : start ≤ opening
  backslash : ∀ j, start ≤ j → j < opening → cs[j]? = some '\\'
  maximal : pos < start → cs[start - 1]? ≠ some '\\'

theorem RunStart.unique {cs : List Char} {pos opening s s' : Nat}
    (h : RunStart cs pos opening s) (h' : RunStart cs pos opening s') : s = s' := by
  rcases Nat.lt_trichotomy s s' with hlt | heq | hgt
  · exact absurd (h.backslash (s' - 1) (by omega) (by have := h'.le_opening; omega))
      (h'.maximal (by have := h.le; omega))
  · exact heq
  · exact absurd (h'.backslash (s - 1) (by omega) (by have := h.le_opening; omega))
      (h.maximal (by have := h'.le; omega))

/-- The backslashes that end a text are a run that starts after the last other character. -/
theorem runStart_trailingBackslashes (g : List Char) :
    RunStart g 0 g.length (g.length - trailingBackslashes g) := by
  generalize hn : g.length = n
  induction n generalizing g with
  | zero =>
    obtain rfl := List.eq_nil_of_length_eq_zero hn
    exact ⟨Nat.le_refl 0, Nat.le_refl 0, fun j _ hj => absurd hj (by omega),
      fun h => absurd h (by omega)⟩
  | succ n ih =>
    obtain ⟨g, c, rfl⟩ : ∃ g' c, g = g' ++ [c] := by
      rcases List.eq_nil_or_concat g with rfl | ⟨g', c, rfl⟩
      · simp at hn
      · exact ⟨g', c, List.concat_eq_append⟩
    have hg : g.length = n := by simpa using hn
    have ih := ih g hg
    have hleft : ∀ j, j < n → (g ++ [c])[j]? = g[j]? := fun j hj =>
      List.getElem?_append_left (by omega)
    have hlast : (g ++ [c])[n]? = some c := hg ▸ List.getElem?_concat_length
    rw [trailingBackslashes_concat]
    by_cases hc : c = '\\'
    · -- the last backslash lengthens the run that ends `g`
      subst hc
      have ht := trailingBackslashes_le_length g
      rw [if_pos rfl, show n + 1 - (trailingBackslashes g + 1) = n - trailingBackslashes g by omega]
      refine ⟨Nat.zero_le _, by omega, fun j h1 h2 => ?_, fun h => ?_⟩
      · rcases Nat.lt_or_ge j n with hj | hj
        · rw [hleft j hj]
          exact ih.backslash j (by omega) hj
        · rw [show j = n by omega, hlast]
      · rw [hleft _ (by omega)]
        exact ih.maximal (by omega)
    · -- any other last character leaves no run
      rw [if_neg hc, Nat.sub_zero]
      refine ⟨Nat.zero_le _, Nat.le_refl _, fun j h1 h2 => absurd h2 (by omega), fun _ => ?_⟩
      rw [show n + 1 - 1 = n by omega, hlast]
      simpa using hc

/-- A run found in a piece of the text is found at the same place in the text. -/
theorem RunStart.shift {cs g : List Char} {pos s : Nat}
    (hg : ∀ j, j < g.length → cs[pos + j]? = g[j]?) (h : RunStart g 0 g.length s) :
    RunStart cs pos (pos + g.length) (pos + s) where
  le := Nat.le_add_right _ _
  le_opening := Nat.add_le_add_left h.le_opening _
  backslash j h1 h2 := by
    have := h.backslash (j - pos) (by omega) (by omega)
    rwa [← hg _ (by omega), Nat.add_sub_cancel' (by omega)] at this
  maximal hlt := by
    have := h.maximal (by omega)
    rwa [← hg _ (by have := h.le_opening; omega),
      show pos + (s - 1) = pos + s - 1 by omega] at this

/-- Where the run of backslashes that ends at `opening` begins, the run cut at `pos`. -/
def runFrom (cs : List Char) (pos opening : Nat) : Nat :=
  opening - trailingBackslashes ((cs.drop pos).take (opening - pos))

/-- `runFrom` finds where the run of backslashes before `opening` starts. -/
theorem runFrom_runStart {cs : List Char} {pos opening : Nat} (h1 : pos ≤ opening)
    (h2 : opening ≤ cs.length) : RunStart cs pos opening (runFrom cs pos opening) := by
  have hlen : ((cs.drop pos).take (opening - pos)).length = opening - pos := by simp; omega
  have hg : ∀ j, j < ((cs.drop pos).take (opening - pos)).length →
      cs[pos + j]? = ((cs.drop pos).take (opening - pos))[j]? := by
    intro j hj
    rw [hlen] at hj
    rw [List.getElem?_take, if_pos hj, List.getElem?_drop]
  have h := (runStart_trailingBackslashes _).shift hg
  have ht := trailingBackslashes_le_length ((cs.drop pos).take (opening - pos))
  rw [hlen] at h ht
  rwa [Nat.add_sub_cancel' h1, show pos + (opening - pos - _) = runFrom cs pos opening by
    simp only [runFrom]; omega] at h

/-! ## Scanning a content from a position -/

/-- The content scan from index `pos`: the index of the brace that closes it and the content it
reads, `none` when no brace closes it. -/
def scanContentAt (cs : List Char) (pos : Nat) : Option (Nat × List Char) :=
  (scanContent (cs.drop pos)).map fun c => (cs.length - c.rest.length - 1, c.content)

/-- The closing brace stands at or after the position the scan starts from. -/
theorem scanContentAt_bounds {cs : List Char} {pos i : Nat} {d : List Char}
    (h : scanContentAt cs pos = some (i, d)) : pos ≤ i ∧ i < cs.length := by
  obtain ⟨c, hc, he⟩ := Option.map_eq_some_iff.1 h
  cases he
  have := congrArg List.length (scanContent_spec hc).1
  simp only [List.length_drop, List.length_append, List.length_cons] at this
  omega

/-- A content scan reads a later `${` as two plain characters and from there on reads what a scan
started after that `${` reads; so when it is never closed, neither is that one. -/
theorem scanContent_eq_none_of_open {xs : List Char} (h : scanContent xs = none) :
    ∀ u v, xs = u ++ '$' :: '{' :: v → scanContent v = none := by
  fun_induction scanContent xs with
  | case1 => intro u v he; cases u <;> simp at he
  | case2 r => simp at h
  | case3 r ih | case4 r ih =>
    intro u v he
    -- the pair starts with a backslash and has no `$`, so both its characters lie in `u`
    rcases u with _ | ⟨a, _ | ⟨b, u⟩⟩
    · simp at he
    · simp at he
    · simp only [List.cons_append, List.cons.injEq] at he
      exact ih (by simpa using h) u v he.2.2
  | case5 c r _ _ _ ih =>
    intro u v he
    rcases u with _ | ⟨a, u⟩
    · -- the scan is at the `$`: it reads it and the `{` as themselves
      simp only [List.nil_append, List.cons.injEq] at he
      obtain ⟨rfl, rfl⟩ := he
      have hr : scanContent ('{' :: v) = none := by simpa using h
      rw [scanContent_plain (by decide) (by decide)] at hr
      simpa using hr
    · simp only [List.cons_append, List.cons.injEq] at he
      exact ih (by simpa using h) u v he.2

/-- A content scan from `p` that is never closed leaves every `${` from `p` on unclosed. -/
theorem scanContentAt_eq_none_of_opensAt {cs : List Char} {p q : Nat}
    (h : scanContentAt cs p = none) (hpq : p ≤ q) (hq : OpensAt cs q) :
    scanContentAt cs (q + 2) = none := by
  rw [scanContentAt, Option.map_eq_none_iff] at h ⊢
  have hd : (cs.drop p).drop (q - p) = cs.drop q := by
    rw [List.drop_drop, Nat.add_sub_cancel' hpq]
  have hsplit : cs.drop p = (cs.drop p).take (q - p) ++ '$' :: '{' :: cs.drop (q + 2) := by
    rw [← drop_of_opensAt hq, ← hd, List.take_append_drop]
  exact scanContent_eq_none_of_open h _ _ hsplit

/-- Once the first `${` from `pos` on is never closed, no `${` from `pos` on is closed. -/
theorem FirstOpen.unclosed_after {cs : List Char} {pos q : Nat} (hq : FirstOpen cs pos q)
    (hn : scanContentAt cs (q + 2) = none) :
    ∀ q', pos ≤ q' → OpensAt cs q' → scanContentAt cs (q' + 2) = none := by
  intro q' hq' ho
  rcases Nat.lt_or_ge q' q with hlt | hge
  · exact absurd ho (hq.first q' hq' hlt)
  · rcases Nat.eq_or_lt_of_le hge with rfl | hgt
    · exact hn
    · -- `q + 1` holds the `{` of the first `${`, so a later one opens at `q + 2` or after
      have hne : q' ≠ q + 1 := by
        rintro rfl
        have := ho.1.symm.trans hq.opens.2
        simp at this
      exact scanContentAt_eq_none_of_opensAt hn (by omega) ho

/-! ## The greedy search -/

/-- The markers of a text searched for from index `pos`, left to right. -/
inductive Greedy (cs : List Char) : Nat → List Marker → Prop
  /-- No `${` from `pos` on is ever closed. -/
  | done {pos : Nat}
      (unclosed : ∀ q, pos ≤ q → OpensAt cs q → scanContentAt cs (q + 2) = none) :
      Greedy cs pos []
  /-- The next marker opens at the first `${` from `pos` on, ends one past the brace that closes
  its content, reads as that content and is written as the text between, and starts where the
  backslashes before it start; the search goes on from its end. -/
  | next {pos : Nat} {m : Marker} {ms : List Marker} (first : FirstOpen cs pos m.opening)
      (closes : scanContentAt cs (m.opening + 2) = some (m.stop - 1, m.content.toList))
      (raw : m.raw.toList = (cs.drop m.opening).take (m.stop - m.opening))
      (start : RunStart cs pos m.opening m.start) (rest : Greedy cs m.stop ms) :
      Greedy cs pos (m :: ms)

/-- A text has one greedy list of markers from each position. -/
theorem Greedy.unique {cs : List Char} {pos : Nat} {ms ms' : List Marker} (h : Greedy cs pos ms)
    (h' : Greedy cs pos ms') : ms = ms' := by
  induction h generalizing ms' with
  | done unclosed =>
    cases h' with
    | done => rfl
    | next first closes => rw [unclosed _ first.le first.opens] at closes; cases closes
  | next first closes raw start rest ih =>
    cases h' with
    | done unclosed => rw [unclosed _ first.le first.opens] at closes; cases closes
    | @next _ m' ms' first' closes' raw' start' rest' =>
      rename_i m ms
      obtain ⟨s, o, e, r, c⟩ := m
      obtain ⟨s', o', e', r', c'⟩ := m'
      dsimp only at *
      obtain rfl := first.unique first'
      have hle := (scanContentAt_bounds closes).1
      obtain ⟨he, hc⟩ := Prod.mk.inj (Option.some.inj (closes.symm.trans closes'))
      obtain rfl : e = e' := by omega
      obtain rfl := String.toList_inj.1 hc
      obtain rfl := String.toList_inj.1 (raw.trans raw'.symm)
      obtain rfl := start.unique start'
      rw [ih rest']

/-- The search for markers that steps past a `${` that is never closed and goes on from the next
index, where `markers` stops. -/
def resumingMarkers (cs : List Char) (pos : Nat) : List Marker :=
  match h : openFrom cs pos with
  | none => []
  | some opening =>
    have := openFrom_firstOpen h
    match h' : scanContentAt cs (opening + 2) with
    | none => resumingMarkers cs (opening + 1)
    | some (close, content) =>
      ⟨runFrom cs pos opening, opening, close + 1,
        String.ofList ((cs.drop opening).take (close + 1 - opening)), String.ofList content⟩ ::
        resumingMarkers cs (close + 1)
termination_by cs.length - pos
decreasing_by
  · have h1 := this.opens.lt_length
    have h2 := this.le
    omega
  · have h1 := this.le
    have h2 := scanContentAt_bounds h'
    omega

/-- From a position after which no `${` is closed, the resuming search finds nothing. -/
theorem resumingMarkers_eq_nil {cs : List Char} {pos : Nat}
    (h : ∀ q, pos ≤ q → OpensAt cs q → scanContentAt cs (q + 2) = none) :
    resumingMarkers cs pos = [] := by
  fun_induction resumingMarkers cs pos with
  | case1 pos ho => rfl
  | case2 pos q ho hq hc ih =>
    exact ih fun q' hq' => h q' (by have := hq.le; omega)
  | case3 pos q ho hq i d hc ih =>
    rw [h q hq.le hq.opens] at hc
    cases hc

/-- The resuming search finds the greedy markers. -/
theorem greedy_resumingMarkers (cs : List Char) (pos : Nat) :
    Greedy cs pos (resumingMarkers cs pos) := by
  fun_induction resumingMarkers cs pos with
  | case1 pos ho =>
    exact .done fun q hq hop => absurd hop (openFrom_eq_none ho q hq)
  | case2 pos q ho hq hc ih =>
    -- the first `${` is never closed, so neither is any later one and the search finds nothing
    have hall := hq.unclosed_after hc
    rw [resumingMarkers_eq_nil fun q' hq' => hall q' (by have := hq.le; omega)]
    exact .done hall
  | case3 pos q ho hq i d hc ih =>
    have hi := scanContentAt_bounds hc
    exact .next hq (by simpa using hc) (by simp)
      (runFrom_runStart hq.le (show q ≤ cs.length by omega)) ih

/-! ## The markers of a text -/

/-- When the text from `pos` on has no marker, its first `${` from `pos` on is never closed. -/
theorem scanContentAt_of_nextMarker_drop {cs : List Char} {pos q : Nat}
    (h : nextMarker (cs.drop pos) = none) (ho : openFrom cs pos = some q) :
    scanContentAt cs (q + 2) = none := by
  obtain ⟨⟨g, a⟩, hf, rfl⟩ := Option.map_eq_some_iff.1 ho
  have ha : cs.drop (pos + g.length + 2) = a := by
    rw [Nat.add_assoc, ← List.drop_drop]
    exact (findOpen_firstOpen hf).2
  simp only [nextMarker, hf, Option.map_eq_none_iff] at h
  simp [scanContentAt, ha, h]

/-- A marker found in the text from `pos` on, in positions: it opens at the first `${` from `pos`
on, its content scan closes one before its end, it is written as the text between, its
backslashes start where the run before it starts, and what follows it is the text after it. -/
theorem nextMarker_drop {cs : List Char} {pos : Nat} {f : Found}
    (h : nextMarker (cs.drop pos) = some f) :
    openFrom cs pos = some (pos + f.gap.length) ∧
      scanContentAt cs (pos + f.gap.length + 2) =
        some (pos + f.gap.length + f.raw.length - 1, f.closed.content) ∧
      f.raw = (cs.drop (pos + f.gap.length)).take f.raw.length ∧
      runFrom cs pos (pos + f.gap.length) = pos + f.gap.length - f.backslashes ∧
      cs.drop (pos + f.gap.length + f.raw.length) = f.closed.rest := by
  obtain ⟨hg, hs, hx⟩ := nextMarker_spec h
  have hlen : cs.length = pos + (f.gap.length + f.raw.length + f.closed.rest.length) := by
    have := congrArg List.length hx
    have : 0 < f.raw.length := by simp [Found.raw]
    simp only [List.length_drop, List.length_append] at *
    omega
  have ho : cs.drop (pos + f.gap.length) = f.raw ++ f.closed.rest := by
    rw [← List.drop_drop, hx, List.append_assoc, List.drop_left' rfl]
  have hc : cs.drop (pos + f.gap.length + 2) = f.closed.body ++ '}' :: f.closed.rest := by
    rw [← List.drop_drop, ho]
    simp [Found.raw]
  refine ⟨?_, ?_, by rw [ho, List.take_left' rfl], ?_,
    by rw [← List.drop_drop, ho, List.drop_left' rfl]⟩
  · rw [openFrom, hx, List.append_assoc, Found.raw]
    simp [findOpen_append_open hg]
  · simp only [scanContentAt, hc, hs f.closed.rest, Option.map_some]
    simp only [Found.raw, List.length_cons, List.length_append, List.length_nil] at hlen ⊢
    congr 2
    omega
  · rw [runFrom, Nat.add_sub_cancel_left, hx, List.append_assoc, List.take_left' rfl]
    rfl

/-- The markers of the text from `pos` on, placed from `pos`, are the greedy markers. -/
theorem greedy_place_cut (cs : List Char) :
    ∀ x pos, cs.drop pos = x → Greedy cs pos (place pos (cut x).1) := by
  intro x
  induction x using cut.induct with
  | case1 x h =>
    intro pos hx
    subst hx
    rw [cut_of_none h]
    refine .done fun q hq hop => ?_
    cases ho : openFrom cs pos with
    | none => exact absurd hop (openFrom_eq_none ho q hq)
    | some q0 =>
      exact (openFrom_firstOpen ho).unclosed_after (scanContentAt_of_nextMarker_drop h ho) q hq hop
  | case2 x f h _ ih =>
    intro pos hx
    subst hx
    obtain ⟨ho, hc, hraw, hrun, hrest⟩ := nextMarker_drop h
    have hq := openFrom_firstOpen ho
    have hi := scanContentAt_bounds hc
    rw [cut_of_nextMarker h]
    refine .next hq (by simpa using hc) ?_ ?_ (ih _ hrest)
    · simpa using hraw
    · rw [← hrun]
      exact runFrom_runStart hq.le (show pos + f.gap.length ≤ cs.length by omega)

/-- The markers of a text are its greedy markers from the start, the one list `Greedy` allows
there, and the search that steps past an unclosed `${` and goes on finds the same markers. -/
theorem markers_greedy (s : String) :
    (∀ ms, Greedy s.toList 0 ms ↔ ms = markers s) ∧ markers s = resumingMarkers s.toList 0 := by
  have hg : Greedy s.toList 0 (markers s) := greedy_place_cut s.toList s.toList 0 rfl
  refine ⟨fun ms => ⟨fun h => h.unique hg, ?_⟩, hg.unique (greedy_resumingMarkers s.toList 0)⟩
  rintro rfl
  exact hg

/-- The escaped marker after a backslash starts at the backslash; the `${` after it is never
closed, since its brace is escaped, and neither is the `${` after that. -/
example : markers "\\$\x7bx\x7d$\x7ba\\\x7d$\x7bb\\\x7d" =
    [⟨0, 1, 5, "$\x7bx\x7d", "x"⟩] := by
  decide +kernel

end Templating.Markup
