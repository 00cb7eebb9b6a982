import Templating.Markup.Escape
import Templating.Markup.Piece

/-!
# Reading text that is put together

The scanner reads a text from left to right and never looks back past the end of a marker. So a
text that ends right after a marker is escaped and cut as its two parts are on their own
(`escapeText_append`, `cut_snd_append`), and a marker reads the same wherever it stands, as long
as the text before it holds no `${` (`nextMarker_gap_marker`). Whether it is live depends only on the run of backslashes that ends
that text.

These facts are stated over `List Char`: `read` is `tokens` and `escapeText` is `escapeLiteral`
on the characters of a text.
-/

namespace Templating.Markup

/-! ## Finding the opening -/

/-- A `${` found in a text is found in any longer text at the same place. -/
theorem findOpen_append_of_some {x y g a : List Char} (h : findOpen x = some (g, a)) :
    findOpen (x ++ y) = some (g, a ++ y) := by
  fun_induction findOpen x generalizing g a with
  | case1 => simp at h
  | case2 r => cases h; rfl
  | case3 c r hne ih =>
      obtain ⟨⟨g', a'⟩, hr, he⟩ := Option.map_eq_some_iff.1 h
      cases he
      -- the text after `c` is not empty, so `y` cannot complete a `${` with `c`
      have hne' : ∀ r', c = '$' → r ++ y = '{' :: r' → False := by
        intro r' hc hry
        rcases List.append_eq_cons_iff.1 hry with ⟨rfl, -⟩ | ⟨r'', rfl, -⟩
        · simp [findOpen] at hr
        · exact hne r'' hc rfl
      rw [List.cons_append, findOpen.eq_3 _ _ hne', ih hr]
      rfl

/-- A text without `${` has none in any of its beginnings. -/
theorem findOpen_eq_none_of_append {x y : List Char} (h : findOpen (x ++ y) = none) :
    findOpen x = none := by
  cases hx : findOpen x with
  | none => rfl
  | some p => rw [findOpen_append_of_some hx] at h; cases h

/-- After a text without `${`, the first `${` is the one that follows it. -/
theorem findOpen_append_open {x : List Char} (h : findOpen x = none) (r : List Char) :
    findOpen (x ++ '$' :: '{' :: r) = some (x, r) := by
  fun_induction findOpen x with
  | case1 => rfl
  | case2 r' => simp at h
  | case3 c x hne ih =>
      have hx : findOpen x = none := by simpa using h
      have hne' : ∀ r', c = '$' → x ++ '$' :: '{' :: r = '{' :: r' → False := by
        intro r' hc hxr
        rcases List.append_eq_cons_iff.1 hxr with ⟨-, hr⟩ | ⟨x', rfl, -⟩
        · simp at hr
        · exact hne x' hc rfl
      rw [List.cons_append, findOpen.eq_3 _ _ hne', ih hx]
      rfl

/-- A character other than `{` after a text without `${` makes none. -/
theorem findOpen_append_char {x : List Char} (h : findOpen x = none) {c : Char} (hc : c ≠ '{') :
    findOpen (x ++ [c]) = none := by
  fun_induction findOpen x with
  | case1 => rw [List.nil_append, findOpen.eq_3 _ _ (by simp)]; rfl
  | case2 r' => simp at h
  | case3 c' x hne ih =>
      have hx : findOpen x = none := by simpa using h
      have hne' : ∀ r', c' = '$' → x ++ [c] = '{' :: r' → False := by
        intro r' hc' hxr
        rcases List.append_eq_cons_iff.1 hxr with ⟨-, hr⟩ | ⟨x', rfl, -⟩
        · exact hc (List.cons.inj hr).1
        · exact hne x' hc' rfl
      rw [List.cons_append, findOpen.eq_3 _ _ hne', ih hx]
      rfl

/-- What `findOpen` splits off is a text without `${`, and the two parts rebuild the text. -/
theorem findOpen_spec {cs g a : List Char} (h : findOpen cs = some (g, a)) :
    findOpen g = none ∧ cs = g ++ '$' :: '{' :: a := by
  fun_induction findOpen cs generalizing g a with
  | case1 => simp at h
  | case2 r => cases h; exact ⟨rfl, rfl⟩
  | case3 c r hne ih =>
      obtain ⟨⟨g', a'⟩, hr, he⟩ := Option.map_eq_some_iff.1 h
      cases he
      obtain ⟨hg, rfl⟩ := ih hr
      refine ⟨?_, rfl⟩
      have hne' : ∀ r', c = '$' → g' = '{' :: r' → False := fun r' hc hg' =>
        hne (r' ++ '$' :: '{' :: a') hc (by rw [hg']; rfl)
      rw [findOpen.eq_3 _ _ hne', hg]
      rfl

/-! ## Reading a content -/

/-- A content that reads the same, up to its closing brace, whatever follows the brace. -/
def Closed.Sound (c : Closed) : Prop :=
  ∀ r, scanContent (c.body ++ '}' :: r) = some { c with rest := r }

/-- A content read from a text is its body, its closing brace, and the rest; and it reads the
same whatever follows its brace. -/
theorem scanContent_spec {cs : List Char} {c : Closed} (h : scanContent cs = some c) :
    cs = c.body ++ '}' :: c.rest ∧ c.Sound := by
  fun_induction scanContent cs generalizing c with
  | case1 => simp at h
  | case2 r => cases h; exact ⟨rfl, fun r' => rfl⟩
  | case3 r ih | case4 r ih =>
      obtain ⟨k, hk, rfl⟩ := Option.map_eq_some_iff.1 h
      obtain ⟨rfl, hs⟩ := ih hk
      refine ⟨rfl, fun r' => ?_⟩
      simp [scanContent, hs r']
  | case5 c0 r h1 h2 h3 ih =>
      obtain ⟨k, hk, rfl⟩ := Option.map_eq_some_iff.1 h
      obtain ⟨rfl, hs⟩ := ih hk
      refine ⟨rfl, fun r' => ?_⟩
      -- the text after `c0` starts as it did, so `c0` still reads as itself
      have h2' : ∀ r1, c0 = '\\' → k.body ++ '}' :: r' = '\\' :: r1 → False := by
        intro r1 hc he
        rcases List.append_eq_cons_iff.1 he with ⟨-, hr⟩ | ⟨bs, hb, -⟩
        · exact absurd (List.cons.inj hr).1 (by decide)
        · exact h2 (bs ++ '}' :: k.rest) hc (by rw [hb]; rfl)
      have h3' : ∀ r1, c0 = '\\' → k.body ++ '}' :: r' = '}' :: r1 → False := by
        intro r1 hc he
        rcases List.append_eq_cons_iff.1 he with ⟨hb, -⟩ | ⟨bs, hb, -⟩
        · exact h3 k.rest hc (by rw [hb]; rfl)
        · exact h3 (bs ++ '}' :: k.rest) hc (by rw [hb]; rfl)
      simp only [List.cons_append]
      rw [scanContent.eq_5 _ _ h1 h2' h3', hs r']
      rfl

/-! ## Finding a marker -/

/-- A marker after a text without `${` is found there, with that text as its gap. -/
theorem nextMarker_gap_marker {g : List Char} (hg : findOpen g = none) {c : Closed}
    (hc : c.Sound) (r : List Char) :
    nextMarker (g ++ '$' :: '{' :: (c.body ++ '}' :: r)) = some ⟨g, { c with rest := r }⟩ := by
  rw [nextMarker, findOpen_append_open hg]
  simp [hc r]

theorem nextMarker_of_findOpen {cs : List Char} (h : findOpen cs = none) : nextMarker cs = none := by
  simp [nextMarker, h]

/-- A found marker has a gap without `${` and a sound content, and the text is the gap, the
marker as written, and what follows it. -/
theorem nextMarker_spec {cs : List Char} {f : Found} (h : nextMarker cs = some f) :
    findOpen f.gap = none ∧ f.closed.Sound ∧ cs = f.gap ++ f.raw ++ f.closed.rest := by
  unfold nextMarker at h
  split at h
  · cases h
  · rename_i g a hf
    obtain ⟨c, hc, rfl⟩ := Option.map_eq_some_iff.1 h
    obtain ⟨hg, rfl⟩ := findOpen_spec hf
    obtain ⟨rfl, hs⟩ := scanContent_spec hc
    exact ⟨hg, hs, by simp [Found.raw]⟩

/-- A marker found in a text is found in any longer text, the rest extended. -/
theorem nextMarker_append {x : List Char} {f : Found} (h : nextMarker x = some f) (y : List Char) :
    nextMarker (x ++ y) = some ⟨f.gap, { f.closed with rest := f.closed.rest ++ y }⟩ := by
  obtain ⟨hg, hs, hx⟩ := nextMarker_spec h
  rw [hx, List.append_assoc, List.append_assoc]
  simpa [Found.raw] using nextMarker_gap_marker hg hs (f.closed.rest ++ y)

/-! ## Backslashes before a marker -/

theorem trailingBackslashes_concat (cs : List Char) (c : Char) :
    trailingBackslashes (cs ++ [c]) = if c = '\\' then trailingBackslashes cs + 1 else 0 := by
  by_cases h : c = '\\' <;> simp [trailingBackslashes, h]

/-- An odd run of backslashes at the end loses one with the last character. -/
theorem eq_dropLast_of_odd {cs : List Char} (h : trailingBackslashes cs % 2 = 1) :
    cs = cs.dropLast ++ ['\\'] ∧ trailingBackslashes cs.dropLast % 2 = 0 := by
  rcases List.eq_nil_or_concat cs with rfl | ⟨cs', c, rfl⟩
  · simp [trailingBackslashes] at h
  · rw [List.concat_eq_append, trailingBackslashes_concat] at h
    by_cases hc : c = '\\'
    · subst hc
      simp only [if_true] at h
      simp only [List.concat_eq_append, List.dropLast_concat, true_and]
      omega
    · simp [hc] at h

/-- Text that ends without a backslash hides the run at the end of what it is put before. -/
theorem trailingBackslashes_append {p : List Char} (hp : trailingBackslashes p = 0) (t : List Char) :
    trailingBackslashes (p ++ t) = trailingBackslashes t := by
  have hnil : p.reverse.takeWhile (· == '\\') = [] := List.length_eq_zero_iff.1 hp
  simp only [trailingBackslashes, List.reverse_append, List.takeWhile_append, hnil,
    List.append_nil]
  split <;> simp_all

/-- A marker as written ends with its closing brace. -/
theorem trailingBackslashes_raw (g : List Char) (f : Found) :
    trailingBackslashes (g ++ f.raw) = 0 := by
  simp [Found.raw, trailingBackslashes]

/-! ## Cutting a text into markers -/

theorem cut_of_none {cs : List Char} (h : nextMarker cs = none) : cut cs = ([], cs) := by
  rw [cut]
  split <;> simp_all

/-- The scan ends where no marker is left. -/
theorem nextMarker_cut_snd (cs : List Char) : nextMarker (cut cs).2 = none := by
  induction cs using cut.induct with
  | case1 x h => rw [cut_of_none h]; exact h
  | case2 x f h _ ih => rw [cut_of_nextMarker h]; exact ih

/-- The markers as written, each after its gap, and the text after the last rebuild the text. -/
theorem cut_spec (cs : List Char) :
    cs = (cut cs).1.flatMap (fun f => f.gap ++ f.raw) ++ (cut cs).2 := by
  induction cs using cut.induct with
  | case1 x h => rw [cut_of_none h]; rfl
  | case2 x f h _ ih =>
      rw [cut_of_nextMarker h, List.flatMap_cons, List.append_assoc, ← ih]
      exact (nextMarker_spec h).2.2

/-- The run of backslashes at the end of a text is the one at the end of its last part. -/
theorem trailingBackslashes_cut (cs : List Char) :
    trailingBackslashes (cut cs).2 = trailingBackslashes cs := by
  induction cs using cut.induct with
  | case1 x h => rw [cut_of_none h]
  | case2 x f h _ ih =>
      rw [cut_of_nextMarker h]
      dsimp only
      rw [ih, (nextMarker_spec h).2.2]
      exact (trailingBackslashes_append (trailingBackslashes_raw f.gap f) f.closed.rest).symm

/-- Every marker of a text has a gap without `${` and a sound content. -/
theorem cut_sound {cs : List Char} : ∀ f ∈ (cut cs).1, findOpen f.gap = none ∧ f.closed.Sound := by
  induction cs using cut.induct with
  | case1 x h => simp [cut_of_none h]
  | case2 x f h _ ih =>
      rw [cut_of_nextMarker h]
      intro f' hf'
      rcases List.mem_cons.1 hf' with rfl | hf'
      · exact ⟨(nextMarker_spec h).1, (nextMarker_spec h).2.1⟩
      · exact ih f' hf'

/-! ## Reading and escaping by characters -/

/-- The literal piece of what is left after the last marker, when something is left. -/
def tailPieces (cs : List Char) : List Piece :=
  if cs.isEmpty then [] else [.text (String.ofList cs)]

@[simp] theorem tailPieces_nil : tailPieces [] = [] := rfl

/-- The pieces of a text given by its characters. -/
def read (cs : List Char) : List Piece := (cut cs).1.flatMap Found.pieces ++ tailPieces (cut cs).2

theorem tokens_eq_read (s : String) : tokens s = read s.toList := rfl

/-- A text with a backslash put before each live marker, given by its characters. -/
def escapeText (cs : List Char) : List Char :=
  (cut cs).1.flatMap (fun f => f.gap ++ if f.escaped then f.raw else '\\' :: f.raw) ++ (cut cs).2

theorem escapeLiteral_eq (s : String) : escapeLiteral s = String.ofList (escapeText s.toList) :=
  rfl

@[simp] theorem read_nil : read [] = [] := by simp [read, cut_nil, tailPieces]

theorem read_of_none {cs : List Char} (h : nextMarker cs = none) : read cs = tailPieces cs := by
  simp [read, cut_of_none h]

theorem read_of_some {cs : List Char} {f : Found} (h : nextMarker cs = some f) :
    read cs = f.pieces ++ read f.closed.rest := by
  simp [read, cut_of_nextMarker h]

theorem escapeText_of_none {cs : List Char} (h : nextMarker cs = none) : escapeText cs = cs := by
  simp [escapeText, cut_of_none h]

theorem escapeText_of_some {cs : List Char} {f : Found} (h : nextMarker cs = some f) :
    escapeText cs =
      f.gap ++ (if f.escaped then f.raw else '\\' :: f.raw) ++ escapeText f.closed.rest := by
  simp [escapeText, cut_of_nextMarker h]

/-- What a marker reads as does not depend on what follows it. -/
@[simp] theorem Found.pieces_rest (g : List Char) (c : Closed) (r : List Char) :
    Found.pieces ⟨g, { c with rest := r }⟩ = Found.pieces ⟨g, c⟩ := rfl

@[simp] theorem Found.escaped_rest (g : List Char) (c : Closed) (r : List Char) :
    Found.escaped ⟨g, { c with rest := r }⟩ = Found.escaped ⟨g, c⟩ := rfl

@[simp] theorem Found.raw_rest (g : List Char) (c : Closed) (r : List Char) :
    Found.raw ⟨g, { c with rest := r }⟩ = Found.raw ⟨g, c⟩ := rfl

/-- A marker is live exactly when an even run of backslashes ends its gap. -/
theorem Found.escaped_eq_false_iff (f : Found) :
    f.escaped = false ↔ trailingBackslashes f.gap % 2 = 0 := by
  simp [Found.escaped, Found.backslashes]

theorem Found.escaped_eq_true_iff (f : Found) :
    f.escaped = true ↔ trailingBackslashes f.gap % 2 = 1 := by
  simp [Found.escaped, Found.backslashes]

/-- A marker whose gap ends in one backslash more than an even run is escaped, and reads as the
literal text of the gap without that backslash and the marker as written. -/
theorem Found.pieces_escapedBy {g : List Char} (hg : trailingBackslashes g % 2 = 0) (c : Closed) :
    Found.pieces ⟨g ++ ['\\'], c⟩ = [.text (String.ofList (g ++ Found.raw ⟨g, c⟩))] := by
  have he : Found.escaped ⟨g ++ ['\\'], c⟩ = true :=
    (Found.escaped_eq_true_iff _).2 (by simp [trailingBackslashes_concat, Nat.add_mod, hg])
  simp [Found.pieces, he, Found.raw]

/-- A text that ends right after a marker is escaped part by part. -/
theorem escapeText_append {x : List Char} (hx : (cut x).2 = []) (y : List Char) :
    escapeText (x ++ y) = escapeText x ++ escapeText y := by
  induction x using cut.induct with
  | case1 x h =>
      rw [cut_of_none h] at hx
      subst hx
      rw [List.nil_append, escapeText_of_none h, List.nil_append]
  | case2 x f h _ ih =>
      rw [cut_of_nextMarker h] at hx
      rw [escapeText_of_some (nextMarker_append h y), escapeText_of_some h]
      simp only [Found.escaped_rest, Found.raw_rest, List.append_assoc]
      rw [ih hx]
      rfl

/-- A text that ends right after a marker leaves, put before another, what the other leaves. -/
theorem cut_snd_append {x : List Char} (hx : (cut x).2 = []) (y : List Char) :
    (cut (x ++ y)).2 = (cut y).2 := by
  induction x using cut.induct with
  | case1 x h =>
      rw [cut_of_none h] at hx
      subst hx
      rfl
  | case2 x f h _ ih =>
      rw [cut_of_nextMarker h] at hx
      rw [cut_of_nextMarker (nextMarker_append h y)]
      exact ih hx

/-- What a marker of a text reads as once the text is escaped: one literal of its gap and the
marker as written, less the backslash that escaped it if it was escaped already. -/
def Found.escapedText (f : Found) : Piece :=
  .text (String.ofList ((if f.escaped then f.gap.dropLast else f.gap) ++ f.raw))

/-- Escaping a text and reading it back before any text gives each marker with its gap as
literal text, then what is left after the last marker read with what follows. -/
theorem read_escapeText_append_cut (cs y : List Char) :
    read (escapeText cs ++ y) = (cut cs).1.map Found.escapedText ++ read ((cut cs).2 ++ y) := by
  induction cs using cut.induct with
  | case1 x h => rw [escapeText_of_none h, cut_of_none h]; rfl
  | case2 x f h _ ih =>
      obtain ⟨hg, hs, -⟩ := nextMarker_spec h
      rw [cut_of_nextMarker h, List.map_cons, List.cons_append, ← ih]
      cases hf : f.escaped
      case false =>
        have hg' : findOpen (f.gap ++ ['\\']) = none := findOpen_append_char hg (by decide)
        have hb : trailingBackslashes f.gap % 2 = 0 := (Found.escaped_eq_false_iff f).1 hf
        -- the inserted backslash makes the marker escaped, and it reads as it was written
        have hm : nextMarker (escapeText x ++ y) =
            some ⟨f.gap ++ ['\\'], { f.closed with rest := escapeText f.closed.rest ++ y }⟩ := by
          rw [escapeText_of_some h, hf, if_neg Bool.false_ne_true]
          simpa [Found.raw, List.append_assoc] using
            nextMarker_gap_marker hg' hs (escapeText f.closed.rest ++ y)
        rw [read_of_some hm, Found.pieces_rest, Found.pieces_escapedBy hb]
        simp [Found.escapedText, hf]
      case true =>
        -- an escaped marker is kept as written and reads as it did
        have hm : nextMarker (escapeText x ++ y) =
            some ⟨f.gap, { f.closed with rest := escapeText f.closed.rest ++ y }⟩ := by
          rw [escapeText_of_some h, hf, if_pos rfl]
          simpa [Found.raw, List.append_assoc] using
            nextMarker_gap_marker hg hs (escapeText f.closed.rest ++ y)
        rw [read_of_some hm, Found.pieces_rest]
        simp [Found.pieces, Found.escapedText, hf]

/-- Escaping a text whose markers are all live, and reading it back before any text, gives
each marker with its gap as literal text, then what is left read with what follows. -/
theorem read_escapeText_append {cs : List Char} (hlive : ∀ f ∈ (cut cs).1, f.escaped = false)
    (y : List Char) :
    read (escapeText cs ++ y) =
      (cut cs).1.map (fun f => .text (String.ofList (f.gap ++ f.raw))) ++ read ((cut cs).2 ++ y) := by
  rw [read_escapeText_append_cut]
  congr 1
  exact List.map_congr_left fun f hf => by simp [Found.escapedText, hlive f hf]

/-! ## Placed markers -/

theorem trailingBackslashes_le_length (cs : List Char) : trailingBackslashes cs ≤ cs.length := by
  simpa [trailingBackslashes] using (List.takeWhile_sublist (· == '\\') (l := cs.reverse)).length_le

/-- Placing markers keeps which of them are escaped: the backslashes before a marker all stand in
its gap. -/
theorem place_escaped (pos : Nat) (fs : List Found) :
    (place pos fs).map Marker.escaped = fs.map Found.escaped := by
  induction fs generalizing pos with
  | nil => rfl
  | cons f fs ih =>
      have hb : f.backslashes ≤ pos + f.gap.length :=
        Nat.le_trans (trailingBackslashes_le_length f.gap) (Nat.le_add_left _ _)
      simp only [place, List.map_cons, ih]
      simp [Marker.escaped, Marker.backslashes, Found.escaped, Nat.sub_sub_self hb]

/-- A text whose placed markers are all live has only live markers. -/
theorem escaped_eq_false_of_markers {s : String} (h : ∀ m ∈ markers s, m.escaped = false) :
    ∀ f ∈ (cut s.toList).1, f.escaped = false := by
  intro f hf
  have hm : f.escaped ∈ (markers s).map Marker.escaped := by
    rw [markers, place_escaped]
    exact List.mem_map_of_mem hf
  obtain ⟨m, hm, he⟩ := List.mem_map.1 hm
  rw [← he]
  exact h m hm

end Templating.Markup
