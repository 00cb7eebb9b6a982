import Mathlib.Data.List.Nodup
import Templating.Bench.Run
import Templating.Proofs.Template.Process

/-!
# The benchmark sentence

The compared strategies build the same sentence. A keyword is a stem followed by the digits of
its round, stems hold no digit and differ from each other, so the keywords are distinct; the
bindings of the keywords to values then have one entry for each keyword, and filling the sentence
template renders the opening, then each value followed by the text after it: what joining the
parts gives. Without bindings it renders the defaults the same way.

Main statement: `loremTemplate_renders_join`.
-/

namespace Templating.Bench

open Markup

/-! ## Distinct keywords -/

/-- The digits after the stem of the `i`-th keyword: none in the first round, then the round. -/
def roundSuffix (i : Nat) : String := if i < 10 then "" else toString (i / 10)

theorem keywordName_eq (i : Nat) : keywordName i = stems.getD (i % 10) "" ++ roundSuffix i := by
  unfold keywordName roundSuffix
  split <;> simp

theorem stem_no_digit (i : Nat) : ∀ c ∈ (stems.getD (i % 10) "").toList, c.isDigit = false := by
  have hall : stems.all (fun s => s.toList.all fun c => !c.isDigit) = true := by decide
  have hi : i % 10 < stems.length := Nat.mod_lt i (by decide)
  rw [List.getD_eq_getElem?_getD, List.getElem?_eq_getElem hi, Option.getD_some]
  intro c hc
  simpa using List.all_eq_true.1 (List.all_eq_true.1 hall _ (List.getElem_mem hi)) c hc

theorem stems_getD_inj {a b : Nat} (ha : a < 10) (hb : b < 10)
    (h : stems.getD a "" = stems.getD b "") : a = b := by
  have hall : ∀ a < 10, ∀ b < 10, stems.getD a "" = stems.getD b "" → a = b := by decide
  exact hall a ha b hb h

theorem roundSuffix_digits (i : Nat) : ∀ c ∈ (roundSuffix i).toList, c.isDigit = true := by
  unfold roundSuffix
  split
  · simp
  · intro c hc
    simp only [toString, Nat.repr, String.toList_ofList] at hc
    exact Nat.isDigit_of_mem_toDigits (by decide) (by decide) hc

theorem roundSuffix_inj {i j : Nat} (h : roundSuffix i = roundSuffix j) : i / 10 = j / 10 := by
  -- a round past the first is written with at least one digit
  have hne : ∀ m : Nat, toString m ≠ "" := fun m hm => by
    have := congrArg String.toList hm
    simp only [toString, Nat.repr, String.toList_ofList, String.toList_empty] at this
    exact Nat.toDigits_ne_nil this
  unfold roundSuffix at h
  split at h <;> split at h
  · omega
  · exact absurd h.symm (hne _)
  · exact absurd h (hne _)
  · -- reading the digits back gives the round
    have hnum := congrArg (fun s : String => Nat.ofDigitChars 10 s.toList 0) h
    simpa [Nat.toString_eq_ofList_toDigits] using hnum

/-- A text without digits followed by digits splits back into the two. -/
theorem append_digits_inj {a b d e : String} (ha : ∀ c ∈ a.toList, c.isDigit = false)
    (hb : ∀ c ∈ b.toList, c.isDigit = false) (hd : ∀ c ∈ d.toList, c.isDigit = true)
    (he : ∀ c ∈ e.toList, c.isDigit = true) (h : a ++ d = b ++ e) : a = b ∧ d = e := by
  -- dropping the digits leaves the text before them
  have hl := congrArg (fun s : String => s.toList.filter fun c => !c.isDigit) h
  have hfa : a.toList.filter (fun c => !c.isDigit) = a.toList :=
    List.filter_eq_self.2 fun c hc => by simp [ha c hc]
  have hfb : b.toList.filter (fun c => !c.isDigit) = b.toList :=
    List.filter_eq_self.2 fun c hc => by simp [hb c hc]
  have hfd : d.toList.filter (fun c => !c.isDigit) = [] :=
    List.filter_eq_nil_iff.2 fun c hc => by simp [hd c hc]
  have hfe : e.toList.filter (fun c => !c.isDigit) = [] :=
    List.filter_eq_nil_iff.2 fun c hc => by simp [he c hc]
  simp only [String.toList_append, List.filter_append, hfa, hfb, hfd, hfe, List.append_nil] at hl
  have hab : a = b := String.toList_inj.1 hl
  subst hab
  have hde : a.toList ++ d.toList = a.toList ++ e.toList := by
    simpa using congrArg String.toList h
  exact ⟨rfl, String.toList_inj.1 (List.append_cancel_left hde)⟩

/-- Keywords of different places differ: the stem gives the place in the round, the digits the
round. -/
theorem keywordName_injective : Function.Injective keywordName := by
  intro i j h
  rw [keywordName_eq, keywordName_eq] at h
  obtain ⟨hstem, hsuffix⟩ := append_digits_inj (stem_no_digit i) (stem_no_digit j)
    (roundSuffix_digits i) (roundSuffix_digits j) h
  have hmod := stems_getD_inj (Nat.mod_lt i (by decide)) (Nat.mod_lt j (by decide)) hstem
  have hdiv := roundSuffix_inj hsuffix
  omega

theorem length_keywordNames (n : Nat) : (keywordNames n).length = n := by
  simp [keywordNames]

theorem nodup_keywordNames (n : Nat) : (keywordNames n).Nodup :=
  List.nodup_range.map keywordName_injective

/-! ## Rendering the sentence -/

/-- A run of steps renders to what each step renders to, joined. -/
theorem join_fill_flatMap_items (σ : Bindings) (steps : List Step) :
    String.join ((steps.flatMap Step.items).map (Piece.fill σ)) =
      String.join (steps.map (Step.render σ)) := by
  induction steps with
  | nil => rfl
  | cons s steps ih =>
      rw [List.flatMap_cons, List.map_append, String.join_append, ih, List.map_cons,
        String.join_cons, Step.render_eq]

/-- Slots each followed by a text render to the slots' texts, each followed by its text. -/
theorem join_render_slots {g : (String × String) × Nat → List Step} {σ : Bindings}
    {a : Nat → String} (hg : ∀ k d i, g ((k, d), i) = [.reserve k (some d), .append (a i)]) :
    ∀ (kds : List (String × String)) (s : Nat),
      String.join (((kds.zipIdx s).flatMap g).map (Step.render σ)) =
        String.join (((kds.map fun kd => slotText σ kd.1 (some kd.2)).zipIdx s).map
          fun p => p.1 ++ a p.2)
  | [], _ => rfl
  | (k, d) :: kds, s => by
      have ih := join_render_slots (σ := σ) hg kds (s + 1)
      simp only [List.zipIdx_cons, List.flatMap_cons, hg, List.map_append, List.map_cons,
        List.map_nil, String.join_append, String.join_cons, String.join_nil, ih]
      simp [Step.render, String.append_assoc]

/-- The sentence renders to the opening, then each slot's text followed by the text after it. -/
theorem render_loremTemplate (ks ds : List String) (σ : Bindings) :
    (loremTemplate ks ds).render σ =
      opening ++ String.join ((((ks.zip ds).map fun kd => slotText σ kd.1 (some kd.2)).zipIdx).map
        fun p => p.1 ++ after ks.length p.2) := by
  rw [loremTemplate, addPieces_nil, render_coalesce, join_fill_flatMap_items, loremSteps,
    List.map_cons, String.join_cons, join_render_slots (fun _ _ _ => rfl)]
  rfl

/-- Under bindings of each keyword to its value, the slots render the values. -/
theorem map_slotText_bound {σ : Bindings} :
    ∀ (ks ds vs : List String), ks.length = vs.length → ds.length = vs.length →
      (∀ k v, (k, v) ∈ ks.zip vs → σ.lookup k = some (some v)) →
        (ks.zip ds).map (fun kd => slotText σ kd.1 (some kd.2)) = vs
  | [], _, [], _, _, _ => by simp
  | k :: ks, d :: ds, v :: vs, hk, hd, hσ => by
      have hv : σ.lookup k = some (some v) := hσ k v List.mem_cons_self
      have hrest := map_slotText_bound ks ds vs (by simpa using hk) (by simpa using hd)
        fun k' v' h => hσ k' v' (List.mem_cons_of_mem _ h)
      simp only [List.zip_cons_cons, List.map_cons, hrest]
      simp [slotText, hv]
  | [], _, _ :: _, hk, _, _ | _ :: _, _, [], hk, _, _ => by simp at hk
  | _ :: _, [], _ :: _, _, hd, _ => by simp at hd

/-- Without bindings, the slots render their defaults. -/
theorem map_slotText_nil (ks ds : List String) (h : ds.length ≤ ks.length) :
    (ks.zip ds).map (fun kd => slotText [] kd.1 (some kd.2)) = ds := by
  rw [List.map_congr_left fun kd _ => (rfl : slotText [] kd.1 (some kd.2) = kd.2)]
  exact List.map_snd_zip h

/-- Binding the keywords to values binds each keyword once. -/
theorem nodup_keys_zip_keywordNames (n : Nat) (vs : List (Option String)) (hv : vs.length = n) :
    (((keywordNames n).zip vs).map Prod.fst).Nodup := by
  rw [List.map_fst_zip (by rw [length_keywordNames, hv])]
  exact nodup_keywordNames n

/-- Binding the keywords to values binds each keyword to its value. -/
theorem lookup_zip_keywordNames (n : Nat) (values : List String) (hv : values.length = n) :
    ∀ k v, (k, v) ∈ (keywordNames n).zip values →
      ((keywordNames n).zip (values.map some)).lookup k = some (some v) := by
  intro k v hkv
  rw [lookup_eq_some_iff_mem (nodup_keys_zip_keywordNames n _ (by simp [hv])),
    List.zip_map_right]
  exact List.mem_map_of_mem (f := Prod.map id some) hkv

/-- For every number of placeholders, the keywords are that many distinct texts, and for defaults
and values of that many texts, filling the sentence template with the keywords bound to the
values renders the opening, then each value followed by its filler, the last by the closing text:
the sentence that joining the parts builds. Without bindings it renders the defaults so. -/
theorem loremTemplate_renders_join (n : Nat) :
    (keywordNames n).length = n ∧ (keywordNames n).Nodup ∧
      ∀ defaults values : List String, defaults.length = n → values.length = n →
        build "template" (keywordNames n) values (loremTemplate (keywordNames n) defaults) =
            opening ++ String.join (values.zipIdx.map fun p => p.1 ++ after n p.2) ∧
          build "join" (keywordNames n) values (loremTemplate (keywordNames n) defaults) =
            opening ++ String.join (values.zipIdx.map fun p => p.1 ++ after n p.2) ∧
          (loremTemplate (keywordNames n) defaults).process [] =
            opening ++ String.join (defaults.zipIdx.map fun p => p.1 ++ after n p.2) := by
  refine ⟨length_keywordNames n, nodup_keywordNames n, fun defaults values hd hv => ⟨?_, ?_, ?_⟩⟩
  · -- the bindings have one entry for each keyword, each bound to its value
    have hslots := map_slotText_bound (keywordNames n) defaults values
      (by rw [length_keywordNames, hv]) (by rw [hd, hv]) (lookup_zip_keywordNames n values hv)
    simp only [build, beq_self_eq_true, if_true]
    rw [Template.process_eq_render _ (nodup_keys_zip_keywordNames n _ (by simp [hv])),
      render_loremTemplate, hslots, length_keywordNames]
  · have hjoin : ("join" == "template") = false := by decide
    simp only [build, hjoin, hv]
    rfl
  · rw [Template.process_eq_render _ (by simp), render_loremTemplate,
      map_slotText_nil _ _ (by rw [length_keywordNames, hd]), length_keywordNames]

/-- Two placeholders, with their defaults and with values. -/
theorem loremTemplate_renders_join_two :
    ["sit", "amet"].length = 2 ∧ ["A", "B"].length = 2 ∧
      build "template" (keywordNames 2) ["A", "B"] (loremTemplate (keywordNames 2) ["sit", "amet"]) =
          opening ++ String.join (["A", "B"].zipIdx.map fun p => p.1 ++ after 2 p.2) ∧
        build "join" (keywordNames 2) ["A", "B"] (loremTemplate (keywordNames 2) ["sit", "amet"]) =
          opening ++ String.join (["A", "B"].zipIdx.map fun p => p.1 ++ after 2 p.2) ∧
        (loremTemplate (keywordNames 2) ["sit", "amet"]).process [] =
          opening ++ String.join (["sit", "amet"].zipIdx.map fun p => p.1 ++ after 2 p.2) := by
  obtain ⟨-, -, h⟩ := loremTemplate_renders_join 2
  exact ⟨rfl, rfl, h ["sit", "amet"] ["A", "B"] rfl rfl⟩

end Templating.Bench
