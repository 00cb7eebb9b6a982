import Mathlib.Data.String.Basic
import Templating.Config.Layers
import Templating.Cli.Run

/-!
# The layers of a configuration, in order

`Config.load` builds a project's configuration from the bundled defaults, the files of its
configuration directory and its environment. For every directory of files, every environment and
whatever readers the configuration is read with, this module says which files and variables are
laid, in which order, and what each one does:

* one file is chosen per stem among the names ending in `.yaml` and `.yml`, the `.yaml` one when
  a stem has both, in ascending order of stems (`Layering`, `layering_chosenFiles`);
* the variables set are those whose names start with `STENCIL_`, but for the bare prefix and the
  project root's, each once, in ascending order of names (`OverrideOrder`, `overrides_spec`);
* the configuration is the fold of the chosen files, each read and merged in turn, continued by
  the fold of the variables, each read into a path and a value and set in turn (`layered`).

Main statement: `load_layers`. Each variable is read whole, its key and then its value, before
the next one is met, so a value that cannot be read fails the load before the malformed key of a
later variable is reached (`load_value_before_malformed_key`).

What the readers answer enters as a hypothesis: a file in which the YAML reader finds no document
leaves the configuration as it was (`layerFile_of_noDocument`), and a configuration in which the
validator finds issues is refused for the first of them by path, with their number
(`check_firstIssue`).
-/

namespace Templating.Config

/-! ## Stems in order -/

theorem mem_insertStem {s x : String} {l : List String} :
    x ∈ insertStem s l ↔ x = s ∨ x ∈ l := by
  induction l with
  | nil => simp [insertStem]
  | cons t ts ih =>
      simp only [insertStem]
      split_ifs with h1 h2
      · have : s = t := by simpa using h1
        subst this
        simp
      · simp
      · simp only [List.mem_cons, ih]
        exact or_left_comm

theorem pairwise_insertStem (s : String) {l : List String} (h : l.Pairwise (· < ·)) :
    (insertStem s l).Pairwise (· < ·) := by
  induction l with
  | nil => simp [insertStem]
  | cons t ts ih =>
      obtain ⟨ht, hts⟩ := List.pairwise_cons.1 h
      simp only [insertStem]
      split_ifs with h1 h2
      · exact h
      · -- `s` goes in front of `t`, and so below everything after it
        refine List.Pairwise.cons (fun x hx => ?_) h
        rcases List.mem_cons.1 hx with rfl | hx
        · exact h2
        · exact lt_trans h2 (ht x hx)
      · -- `s` goes after `t`, which is below it
        have hts' : t < s := lt_of_le_of_ne (not_lt.1 h2) (fun e => h1 (by simp [e]))
        refine List.Pairwise.cons (fun x hx => ?_) (ih hts)
        rcases mem_insertStem.1 hx with rfl | hx
        · exact hts'
        · exact ht x hx

/-! ## The files chosen from a directory -/

/-- The entries named `<stem>.yaml` or `<stem>.yml`, each with its stem and whether it is the
`.yaml` one. -/
def yamlEntries (entries : List DirEntry) :
    List (String × Bool × String × Except Failure (List UInt8)) :=
  entries.filterMap fun (n, file) => (stemOf n).map fun (stem, long) => (stem, long, n, file)

/-- The stems of the entries, each once, ascending. -/
def yamlStems (entries : List DirEntry) : List String :=
  (yamlEntries entries).foldr (fun (stem, _) acc => insertStem stem acc) []

/-- The entry chosen for a stem: its `.yaml` one if it has one, else its `.yml` one. -/
def pickEntry (entries : List DirEntry) (stem : String) : Option DirEntry :=
  match (yamlEntries entries).find? (fun (s, long, _) => s == stem && long) with
  | some (_, _, n, file) => some (n, file)
  | none =>
    ((yamlEntries entries).find? (fun (s, _) => s == stem)).map fun (_, _, n, file) => (n, file)

theorem chosenFiles_eq (entries : List DirEntry) :
    chosenFiles entries = (yamlStems entries).filterMap (pickEntry entries) := rfl

theorem mem_yamlEntries {entries : List DirEntry} {s : String} {long : Bool} {n : String}
    {file : Except Failure (List UInt8)} :
    (s, long, n, file) ∈ yamlEntries entries ↔
      (n, file) ∈ entries ∧ stemOf n = some (s, long) := by
  simp only [yamlEntries, List.mem_filterMap, Option.map_eq_some_iff]
  constructor
  · rintro ⟨⟨n', t'⟩, he, ⟨s', l'⟩, hs, h⟩
    simp only [Prod.mk.injEq] at h
    obtain ⟨rfl, rfl, rfl, rfl⟩ := h
    exact ⟨he, hs⟩
  · rintro ⟨he, hs⟩
    exact ⟨(n, file), he, (s, long), hs, rfl⟩

theorem mem_yamlStems {entries : List DirEntry} {s : String} :
    s ∈ yamlStems entries ↔ ∃ x ∈ yamlEntries entries, x.1 = s := by
  unfold yamlStems
  induction yamlEntries entries with
  | nil => simp
  | cons x xs ih =>
      rw [List.foldr_cons, mem_insertStem, ih]
      simp [eq_comm]

theorem pairwise_yamlStems (entries : List DirEntry) : (yamlStems entries).Pairwise (· < ·) := by
  unfold yamlStems
  induction yamlEntries entries with
  | nil => simp
  | cons x xs ih => exact pairwise_insertStem _ ih

/-- Every stem of the entries has an entry chosen for it: one of its entries, and its `.yaml`
one when it has one. -/
theorem pickEntry_spec {entries : List DirEntry} {s : String} (hs : s ∈ yamlStems entries) :
    ∃ e, pickEntry entries s = some e ∧ e ∈ entries ∧
      (∃ long, stemOf e.1 = some (s, long)) ∧
      ∀ f ∈ entries, stemOf f.1 = some (s, true) → stemOf e.1 = some (s, true) := by
  unfold pickEntry
  cases hl : (yamlEntries entries).find? (fun (s', long, _) => s' == s && long) with
  | some x =>
      obtain ⟨s', long, n, file⟩ := x
      have hx := List.mem_of_find?_eq_some hl
      have hp := List.find?_some hl
      simp only [Bool.and_eq_true, beq_iff_eq] at hp
      obtain ⟨rfl, rfl⟩ := hp
      obtain ⟨he, hst⟩ := mem_yamlEntries.1 hx
      exact ⟨(n, file), rfl, he, ⟨true, hst⟩, fun _ _ _ => hst⟩
  | none =>
      -- no `.yaml` entry has the stem, so any entry of it is chosen
      have hno := List.find?_eq_none.1 hl
      obtain ⟨y, hy, rfl⟩ := mem_yamlStems.1 hs
      cases hf : (yamlEntries entries).find? (fun (s', _) => s' == y.1) with
      | none =>
          have := List.find?_eq_none.1 hf y hy
          simp at this
      | some x =>
          obtain ⟨s', long, n, file⟩ := x
          have hx := List.mem_of_find?_eq_some hf
          have hp := List.find?_some hf
          simp only [beq_iff_eq] at hp
          subst hp
          obtain ⟨he, hst⟩ := mem_yamlEntries.1 hx
          refine ⟨(n, file), rfl, he, ⟨long, hst⟩, fun f hf' hfs => ?_⟩
          have hfy : (y.1, true, f.1, f.2) ∈ yamlEntries entries :=
            mem_yamlEntries.2 ⟨hf', hfs⟩
          have := hno _ hfy
          simp at this

/-- The stem of a name that ends in `.yaml` or `.yml`; empty for any other name. -/
def stemName (n : String) : String := ((stemOf n).map Prod.fst).getD ""

theorem stemName_of_stemOf {n s : String} {long : Bool} (h : stemOf n = some (s, long)) :
    stemName n = s := by
  simp [stemName, h]

/-- What a list of files chosen from a directory to be layered in order satisfies: each is a file
of the directory named `<stem>.yaml` or `<stem>.yml`, every stem is chosen, the stems ascend,
so each stem is chosen once, and a stem with a `.yaml` file is chosen as a `.yaml` file. -/
structure Layering {β : Type} (files chosen : List (String × β)) : Prop where
  chosen_mem : ∀ g ∈ chosen, g ∈ files ∧ (stemOf g.1).isSome
  stem_chosen : ∀ f ∈ files, (stemOf f.1).isSome →
    ∃ g ∈ chosen, stemName g.1 = stemName f.1
  ascending : chosen.Pairwise fun f g => stemName f.1 < stemName g.1
  yaml_first : ∀ g ∈ chosen, ∀ f ∈ files, stemOf f.1 = some (stemName g.1, true) →
    stemOf g.1 = some (stemName g.1, true)

/-- The files a directory's entries are layered from are chosen as the configuration asks. -/
theorem layering_chosenFiles (entries : List DirEntry) :
    Layering entries (chosenFiles entries) := by
  rw [chosenFiles_eq]
  -- what is chosen for a stem has that stem
  have hpick : ∀ s e, pickEntry entries s = some e → s ∈ yamlStems entries →
      stemName e.1 = s := by
    intro s e he hs
    obtain ⟨e', he', -, ⟨long, hst⟩, -⟩ := pickEntry_spec hs
    rw [he] at he'
    cases he'
    exact stemName_of_stemOf hst
  refine ⟨?_, ?_, ?_, ?_⟩
  · intro g hg
    obtain ⟨s, hs, hgs⟩ := List.mem_filterMap.1 hg
    obtain ⟨e, he, hmem, ⟨long, hst⟩, -⟩ := pickEntry_spec hs
    rw [hgs] at he
    cases he
    exact ⟨hmem, by simp [hst]⟩
  · intro f hf hfs
    obtain ⟨⟨s, long⟩, hst⟩ := Option.isSome_iff_exists.1 hfs
    have hs : s ∈ yamlStems entries :=
      mem_yamlStems.2 ⟨(s, long, f.1, f.2), mem_yamlEntries.2 ⟨hf, hst⟩, rfl⟩
    obtain ⟨e, he, -, -, -⟩ := pickEntry_spec hs
    refine ⟨e, List.mem_filterMap.2 ⟨s, hs, he⟩, ?_⟩
    rw [hpick s e he hs, stemName_of_stemOf hst]
  · rw [List.pairwise_filterMap]
    refine (pairwise_yamlStems entries).imp_of_mem fun {s t} hs ht hst => ?_
    intro e he e' he'
    rw [hpick s e he hs, hpick t e' he' ht]
    exact hst
  · intro g hg f hf hfs
    obtain ⟨s, hs, hgs⟩ := List.mem_filterMap.1 hg
    obtain ⟨e, he, -, -, hyaml⟩ := pickEntry_spec hs
    rw [hgs] at he
    cases he
    rw [hpick s g hgs hs] at hfs ⊢
    exact hyaml f hf hfs

/-- The entry of a directory that a file is: its name and its bytes. -/
def fileEntry (f : String × List UInt8) : DirEntry := (f.1, .ok f.2)

theorem fileEntry_injective : Function.Injective fileEntry := by
  rintro ⟨n, t⟩ ⟨n', t'⟩ h
  simpa [fileEntry] using h

/-- Files chosen among files are chosen the same way among their entries. -/
theorem Layering.of_map {files chosen : List (String × List UInt8)}
    (h : Layering (files.map fileEntry) (chosen.map fileEntry)) : Layering files chosen where
  chosen_mem g hg := by
    obtain ⟨hm, hs⟩ := h.chosen_mem (fileEntry g) (List.mem_map_of_mem hg)
    exact ⟨(List.mem_map_of_injective fileEntry_injective).1 hm, hs⟩
  stem_chosen f hf hs := by
    obtain ⟨g', hg', hn⟩ := h.stem_chosen (fileEntry f) (List.mem_map_of_mem hf) hs
    obtain ⟨g, hg, rfl⟩ := List.mem_map.1 hg'
    exact ⟨g, hg, hn⟩
  ascending := by
    have h' := h.ascending
    rw [List.pairwise_map] at h'
    exact h'
  yaml_first g hg f hf hfs :=
    h.yaml_first (fileEntry g) (List.mem_map_of_mem hg) (fileEntry f) (List.mem_map_of_mem hf) hfs

/-- The entries chosen among a directory of files are the entries of some of its files. -/
theorem chosenFiles_files (files : List (String × List UInt8)) :
    ∃ chosen, chosenFiles (files.map fileEntry) = chosen.map fileEntry ∧
      Layering files chosen := by
  have h := layering_chosenFiles (files.map fileEntry)
  have hall : ∀ g ∈ chosenFiles (files.map fileEntry), ∃ f, fileEntry f = g := by
    intro g hg
    obtain ⟨f, -, hf⟩ := List.mem_map.1 (h.chosen_mem g hg).1
    exact ⟨f, hf⟩
  have hc : chosenFiles (files.map fileEntry) =
      ((chosenFiles (files.map fileEntry)).map fun g => (g.1, g.2.toOption.getD [])).map fileEntry := by
    rw [List.map_map]
    conv_lhs => rw [← List.map_id (chosenFiles (files.map fileEntry))]
    refine List.map_congr_left fun g hg => ?_
    obtain ⟨f, rfl⟩ := hall g hg
    rfl
  refine ⟨_, hc, Layering.of_map ?_⟩
  rw [← hc]
  exact h

/-! ## The overrides of an environment -/

theorem perm_insertVariable (v : String × String) (l : List (String × String)) :
    (insertVariable v l).Perm (v :: l) := by
  induction l with
  | nil => exact List.Perm.refl _
  | cons w ws ih =>
      simp only [insertVariable]
      split_ifs
      · exact List.Perm.refl _
      · exact (ih.cons w).trans (List.Perm.swap v w ws)

theorem pairwise_insertVariable (v : String × String) {l : List (String × String)}
    (h : l.Pairwise fun v w => v.1 ≤ w.1) :
    (insertVariable v l).Pairwise fun v w => v.1 ≤ w.1 := by
  induction l with
  | nil => simp [insertVariable]
  | cons w ws ih =>
      obtain ⟨hw, hws⟩ := List.pairwise_cons.1 h
      simp only [insertVariable]
      split_ifs with hlt
      · refine List.Pairwise.cons (fun x hx => ?_) h
        rcases List.mem_cons.1 hx with rfl | hx
        · exact le_of_lt hlt
        · exact le_trans (le_of_lt hlt) (hw x hx)
      · refine List.Pairwise.cons (fun x hx => ?_) (ih hws)
        rcases List.mem_cons.1 ((perm_insertVariable v ws).mem_iff.1 hx) with rfl | hx
        · exact not_lt.1 hlt
        · exact hw x hx

/-- A variable that sets the configuration: its name starts with `STENCIL_` and is neither the
bare prefix nor the variable of the project root. -/
def IsOverride (name : String) : Prop :=
  "STENCIL_".toList <+: name.toList ∧ name ≠ "STENCIL_" ∧ name ≠ "STENCIL_PROJECT_ROOT"

instance : DecidablePred IsOverride := fun _ => inferInstanceAs (Decidable (_ ∧ _ ∧ _))

/-- The key a variable's name gives: what follows `STENCIL_`. -/
def keyOf (name : String) : String := String.ofList (name.toList.drop 8)

theorem prefix_append_keyOf {name : String} (h : IsOverride name) :
    "STENCIL_" ++ keyOf name = name := by
  unfold IsOverride at h
  obtain ⟨⟨t, ht⟩, -, -⟩ := h
  apply String.toList_injective
  rw [String.toList_append, keyOf, String.toList_ofList, ← ht]
  simp

/-- Past the prefix, a name longer than it is one other than the bare prefix. -/
theorem length_gt_iff_ne_bare {name : String} (hp : "STENCIL_".toList <+: name.toList) :
    name.length > 8 ↔ name ≠ "STENCIL_" := by
  have hle : 8 ≤ name.toList.length := by simpa using hp.length_le
  rw [← String.length_toList]
  constructor
  · rintro hl rfl
    simp at hl
  · intro hne
    by_contra hl
    exact hne (String.toList_injective (hp.eq_of_length (by simp; omega)).symm)

/-- The test the overrides are chosen by is `IsOverride`. -/
theorem overrideTest_eq (name : String) :
    (name.startsWith "STENCIL_" && name != "STENCIL_PROJECT_ROOT" && decide (name.length > 8)) =
      decide (IsOverride name) := by
  rw [Bool.eq_iff_iff]
  simp only [Bool.and_eq_true, bne_iff_ne, decide_eq_true_eq, String.startsWith_string_iff]
  unfold IsOverride
  constructor
  · rintro ⟨⟨hp, hr⟩, hl⟩
    exact ⟨hp, (length_gt_iff_ne_bare hp).1 hl, hr⟩
  · rintro ⟨hp, hn, hr⟩
    exact ⟨⟨hp, hr⟩, (length_gt_iff_ne_bare hp).2 hn⟩

/-- The variables of an environment that set the configuration, in the order they are set: all
of them, each once, in ascending order of names. -/
structure OverrideOrder (env vars : List (String × String)) : Prop where
  perm : vars.Perm (env.filter fun v => decide (IsOverride v.1))
  ascending : vars.Pairwise fun v w => v.1 ≤ w.1

theorem filterMap_overrideTest (l : List (String × String)) :
    l.filterMap (fun (name, text) =>
        if name.startsWith "STENCIL_" && name != "STENCIL_PROJECT_ROOT" && name.length > 8 then
          some (keyOf name, text)
        else none) =
      (l.filter fun v => decide (IsOverride v.1)).map fun v => (keyOf v.1, v.2) := by
  simp only [overrideTest_eq, decide_eq_true_eq]
  induction l with
  | nil => rfl
  | cons v l ih =>
      by_cases h : IsOverride v.1 <;> simp [h, ih]

theorem perm_foldr_insertVariable (env : List (String × String)) :
    (env.foldr insertVariable []).Perm env := by
  induction env with
  | nil => exact List.Perm.refl _
  | cons v env ih => exact (perm_insertVariable v _).trans (ih.cons v)

theorem pairwise_foldr_insertVariable (env : List (String × String)) :
    (env.foldr insertVariable []).Pairwise fun v w => v.1 ≤ w.1 := by
  induction env with
  | nil => exact List.Pairwise.nil
  | cons v env ih => exact pairwise_insertVariable v ih

theorem overrides_eq (env : List (String × String)) :
    overrides env = ((env.foldr insertVariable []).filter fun v => decide (IsOverride v.1)).map
      fun v => (keyOf v.1, v.2) :=
  filterMap_overrideTest _

/-- The overrides of an environment are its variables that set the configuration, ascending by
name, each with its key. -/
theorem overrides_spec (env : List (String × String)) :
    ∃ vars, OverrideOrder env vars ∧ overrides env = vars.map fun v => (keyOf v.1, v.2) := by
  refine ⟨_, ⟨(perm_foldr_insertVariable env).filter _,
    (pairwise_foldr_insertVariable env).filter _⟩, overrides_eq env⟩

/-! ## The layers, one after the other -/

section Layers

variable (R : Readers)

/-- Lays a project file over a configuration: the file's objects go to the heap, and the object
it holds is merged over the configuration. -/
def layerFile (root : String) (acc : Heap × Entries) (f : String × List UInt8) :
    Except Failure (Heap × Entries) := do
  let (h, layer) ← readFile R acc.1 (filePath root f.1) f.2
  return (h, ← mergeObjects h acc.2 layer)

/-- Sets a variable of the environment in a configuration: the path its key names, then the value
its text stands for. -/
def setVariable (acc : Heap × Entries) (v : String × String) :
    Except Failure (Heap × Entries) := do
  let path ← (parseEnvKey (keyOf v.1)).mapError MalformedKey.toFailure
  setNested acc.1 acc.2 path (← coerce v.2)

/-- The configuration built from the bundled defaults, then the given files in order, then the
given variables in order; the first failure met on the way is the answer. -/
def layered (root : String) (files : List (String × List UInt8)) (vars : List (String × String)) :
    Except Failure Graph := do
  let cfg ← mergeObjects #[] [] bundled
  let acc ← files.foldlM (layerFile R root) (#[], cfg)
  let (h, cfg) ← vars.foldlM setVariable acc
  return ⟨h, .obj cfg⟩

theorem layerFiles_map (root : String) (files : List (String × List UInt8)) (acc : Heap × Entries) :
    layerFiles R root (files.map fileEntry) acc = files.foldlM (layerFile R root) acc := by
  induction files generalizing acc with
  | nil => rfl
  | cons f files ih =>
      obtain ⟨h, cfg⟩ := acc
      simp only [List.map_cons, fileEntry, layerFiles, List.foldlM_cons, layerFile]
      -- the file's bytes are at hand, so only reading and merging can fail
      dsimp only [bind, Except.bind]
      rcases readFile R h (filePath root f.1) f.2 with e | ⟨h', layer⟩
      · rfl
      · dsimp only
        rcases mergeObjects h' cfg layer with e | c
        · rfl
        · exact ih (h', c)

end Layers

theorem applyOverrides_map (vars : List (String × String)) (acc : Heap × Entries) :
    applyOverrides (vars.map fun v => (keyOf v.1, v.2)) acc = vars.foldlM setVariable acc := by
  induction vars generalizing acc with
  | nil => rfl
  | cons v vars ih =>
      obtain ⟨h, cfg⟩ := acc
      simp only [List.map_cons, applyOverrides, List.foldlM_cons, setVariable]
      rcases parseEnvKey (keyOf v.1) with e | path
      · rfl
      · dsimp only [bind, Except.bind, Except.mapError]
        rcases coerce v.2 with e | x
        · rfl
        · dsimp only
          rcases setNested h cfg path x with e | r
          · rfl
          · exact ih r

theorem mergeObjects_nil (h : Heap) (cfg : Entries) : mergeObjects h cfg [] = .ok cfg := rfl

/-- A UTF-8 file in which the reader finds no document is read as no object. -/
theorem readFile_of_noDocument {R : Readers} {h : Heap} {path : String} {bytes : List UInt8}
    {text : String} (hutf : Codec.decode "utf-8" bytes = .ok text)
    (hdoc : R.yaml path (Text.withUniformLines text) = .ok none) :
    readFile R h path bytes = .ok (h, []) := by
  simp only [readFile, hutf, pure_bind, hdoc]

/-- A UTF-8 file in which the reader finds no document leaves the configuration as it was. -/
theorem layerFile_of_noDocument {R : Readers} {root : String} {f : String × List UInt8}
    {text : String} (hutf : Codec.decode "utf-8" f.2 = .ok text)
    (hdoc : R.yaml (filePath root f.1) (Text.withUniformLines text) = .ok none)
    (acc : Heap × Entries) :
    layerFile R root acc f = .ok acc := by
  simp only [layerFile, readFile_of_noDocument hutf hdoc]
  rfl

theorem parseEnvKey_error {raw : String} {e : MalformedKey} (h : parseEnvKey raw = .error e) :
    e.raw = raw := by
  unfold parseEnvKey at h
  dsimp only at h
  split_ifs at h <;> cases h <;> rfl

/-- A variable whose key has an empty part fails as malformed, with the variable's own name as
the key it reports. -/
theorem setVariable_malformed {v : String × String} (hv : IsOverride v.1) {e : MalformedKey}
    (he : parseEnvKey (keyOf v.1) = .error e) (acc : Heap × Entries) :
    setVariable acc v = .error ⟨.config,
      "Malformed STENCIL_* key: empty segment in '" ++ keyOf v.1 ++ "'",
      [("key", .str v.1)]⟩ := by
  have hraw := parseEnvKey_error he
  simp only [setVariable, he, Except.mapError, bind, Except.bind, MalformedKey.toFailure, hraw,
    prefix_append_keyOf hv]

/-- The configuration of a project's files and an environment is built from the bundled defaults,
then the files chosen from the directory (one per stem, the `.yaml` one when there is one, in
ascending order of stems), each merged over the configuration in turn, then the variables that set
the configuration (each once, in ascending order of names), each set at its key in turn; the
first failure met on the way is the answer, and a variable whose key is malformed reports its own
name. -/
theorem load_layers (R : Readers) (root : String) (files : List (String × List UInt8))
    (env : List (String × String)) :
    ∃ chosen vars, Layering files chosen ∧ OverrideOrder env vars ∧
      load R root (files.map fileEntry) env false = layered R root chosen vars ∧
      ∀ v ∈ vars, ∀ (e : MalformedKey) (acc : Heap × Entries),
        parseEnvKey (keyOf v.1) = .error e →
          setVariable acc v = .error ⟨.config,
            "Malformed STENCIL_* key: empty segment in '" ++ keyOf v.1 ++ "'",
            [("key", .str v.1)]⟩ := by
  obtain ⟨chosen, hc, hl⟩ := chosenFiles_files files
  obtain ⟨vars, hv, ho⟩ := overrides_spec env
  refine ⟨chosen, vars, hl, hv, ?_, fun v hmem e acc he => ?_⟩
  · simp only [load, layered, hc, ho, layerFiles_map, applyOverrides_map]
    rfl
  · -- every variable set is one that sets the configuration
    have hov : IsOverride v.1 := by
      simpa using (List.mem_filter.1 (hv.perm.mem_iff.1 hmem)).2
    exact setVariable_malformed hov he acc

/-! ## Checking: the first issue by path -/

theorem pathLe_refl : ∀ p : List String, pathLe p p = true
  | [] => rfl
  | a :: as => by simp [pathLe, pathLe_refl as]

theorem pathLe_total : ∀ p q : List String, (pathLe p q || pathLe q p) = true
  | [], _ => rfl
  | _ :: _, [] => by simp [pathLe]
  | a :: as, b :: bs => by
      by_cases hab : a = b
      · subst hab
        simpa [pathLe] using pathLe_total as bs
      · -- distinct keys are ordered one way or the other
        have hba : b ≠ a := Ne.symm hab
        rcases lt_or_gt_of_ne hab with hlt | hgt
        · simp [pathLe, hab, hba, hlt]
        · simp [pathLe, hab, hba, hgt]

theorem pathLe_trans : ∀ p q r : List String, pathLe p q = true → pathLe q r = true →
    pathLe p r = true
  | [], _, _, _, _ => rfl
  | _ :: _, [], _, hpq, _ => by simp [pathLe] at hpq
  | _ :: _, _ :: _, [], _, hqr => by simp [pathLe] at hqr
  | a :: as, b :: bs, c :: cs, hpq, hqr => by
      by_cases hab : a = b <;> by_cases hbc : b = c
      · subst hab hbc
        simp only [pathLe, beq_self_eq_true, if_true] at hpq hqr ⊢
        exact pathLe_trans as bs cs hpq hqr
      · subst hab
        simpa [pathLe, hbc] using hqr
      · subst hbc
        simpa [pathLe, hab] using hpq
      · -- both steps go down at the first key
        simp only [pathLe, beq_iff_eq, hab, hbc, if_false, decide_eq_true_eq] at hpq hqr
        have hac : a ≠ c := ne_of_lt (lt_trans hpq hqr)
        simp [pathLe, hac, lt_trans hpq hqr]

/-- The issues sorted by path: the same issues, each path at most the next. -/
theorem pairwise_mergeSort_pathLe (all : List Issue) :
    (all.mergeSort fun a b => pathLe a.path b.path).Pairwise
      fun a b => pathLe a.path b.path = true :=
  List.pairwise_mergeSort (fun a b c => pathLe_trans a.path b.path c.path)
    (fun a b => pathLe_total a.path b.path) all

section Checking

variable {R : Readers} {h : Heap} {cfg : Entries} {all : List Issue}

/-- A configuration in which the validator finds no issue is checked for its encoding alone. -/
theorem check_of_noIssue (hissues : R.issues schema h (.obj cfg) = .ok []) :
    check R h cfg = checkEncoding h cfg := by
  simp only [check, hissues, bind, Except.bind, List.mergeSort_nil]

/-- A configuration in which the validator finds issues is refused for the first of them by
path, with the number of all of them. -/
theorem check_firstIssue (hissues : R.issues schema h (.obj cfg) = .ok all) (hne : all ≠ []) :
    ∃ i ∈ all, (∀ j ∈ all, pathLe i.path j.path = true) ∧
      check R h cfg = .error ⟨.config, "Invalid configuration at " ++ i.location ++ ": " ++
        i.message, [("path", .str i.location), ("errors", .int all.length)]⟩ := by
  have hperm := List.mergeSort_perm all fun a b => pathLe a.path b.path
  have hsorted := pairwise_mergeSort_pathLe all
  cases hs : all.mergeSort (fun a b => pathLe a.path b.path) with
  | nil =>
      rw [hs] at hperm
      exact absurd (List.Perm.nil_eq hperm) hne.symm
  | cons i rest =>
      rw [hs] at hperm hsorted
      -- the first sorted issue is below every other one
      refine ⟨i, hperm.mem_iff.1 List.mem_cons_self, fun j hj => ?_, ?_⟩
      · rcases List.mem_cons.1 (hperm.mem_iff.2 hj) with rfl | hj
        · exact pathLe_refl _
        · exact List.rel_of_pairwise_cons hsorted hj
      · simp only [check, hissues, bind, Except.bind, hs]
        rfl

end Checking

/-! ## A value that fails before a key -/

section Ones

open Text

variable {m : Nat}

/-- A one is no blank, is its own lower case and is the digit one. -/
theorem isBlank_one : isBlank '1' = false := by decide

theorem lowerChar_one : lowerChar '1' = ['1'] := by decide

theorem digitValue_one : digitValue? '1' = some 1 := by decide

theorem trim_ones (m : Nat) :
    trim (String.ofList (List.replicate m '1')) = String.ofList (List.replicate m '1') := by
  simp [trim, isBlank_one]

theorem lowerAfter_ones (before : List Char) (n : Nat) :
    lowerAfter before (List.replicate n '1') = List.replicate n '1' := by
  induction n generalizing before with
  | zero => rfl
  | succ n ih => simp [lowerAfter, List.replicate_succ, lowerChar_one, ih]

theorem mapM_digitValue_ones (n : Nat) :
    (List.replicate n '1').mapM digitValue? = some (List.replicate n 1) := by
  induction n with
  | zero => rfl
  | succ n ih => simp [List.replicate_succ, List.mapM_cons, digitValue_one, ih]

theorem signedDigits_ones (hm : 0 < m) :
    signedDigits (List.replicate m '1') = some (false, List.replicate m 1) := by
  -- the text starts with a one, so it has no sign
  obtain ⟨k, rfl⟩ : ∃ k, m = k + 1 := ⟨m - 1, by omega⟩
  rw [List.replicate_succ]
  simp [signedDigits, digitValue_one, mapM_digitValue_ones, List.replicate_succ]

theorem ones_beq_of_head {t : String} (hm : 0 < m) (ht : t.toList.head? ≠ some '1') :
    (String.ofList (List.replicate m '1') == t) = false := by
  rw [beq_eq_false_iff_ne]
  rintro rfl
  simp [List.head?_replicate, Nat.pos_iff_ne_zero.1 hm] at ht

/-- A text of more ones than the digit limit stands for an integer too long to read. -/
theorem coerce_ones (hm : digitLimit < m) :
    coerce (String.ofList (List.replicate m '1')) =
      .error (Failure.badValue ("Exceeds the limit (4300 digits) for integer string conversion: " ++
        "value has " ++ toString m ++ " digits; use sys.set_int_max_str_digits() to " ++
        "increase the limit")) := by
  have hpos : 0 < m := lt_of_le_of_lt (Nat.zero_le _) hm
  simp only [coerce, trim_ones, lower, String.toList_ofList, lowerAfter_ones,
    signedDigits_ones hpos]
  rw [ones_beq_of_head hpos (by decide), ones_beq_of_head hpos (by decide),
    ones_beq_of_head hpos (by decide), ones_beq_of_head hpos (by decide)]
  simp [hm]

end Ones

/-- A variable whose value cannot be read fails the tool's configuration before a malformed
variable after it is reached. -/
theorem load_value_before_malformed_key :
    parseEnvKey "B_" = .error ⟨"B_"⟩ ∧
      load Cli.readers "<root>" [] [("STENCIL_A", String.ofList (List.replicate 4301 '1')),
          ("STENCIL_B_", "x")] false =
        .error (Failure.badValue
          ("Exceeds the limit (4300 digits) for integer string conversion: value has 4301 " ++
            "digits; use sys.set_int_max_str_digits() to increase the limit")) := by
  refine ⟨by decide, ?_⟩
  have ho : ∀ t u, overrides [("STENCIL_A", t), ("STENCIL_B_", u)] = [("A", t), ("B_", u)] := by
    intro t u
    have hlt : "STENCIL_A" < "STENCIL_B_" := by decide
    have hA : IsOverride "STENCIL_A" := by decide
    have hB : IsOverride "STENCIL_B_" := by decide
    have kA : keyOf "STENCIL_A" = "A" := by decide
    have kB : keyOf "STENCIL_B_" = "B_" := by decide
    simp [overrides_eq, insertVariable, hlt, hA, hB, kA, kB]
  obtain ⟨d, hd⟩ : ∃ d, mergeObjects #[] [] bundled = .ok d := ⟨_, rfl⟩
  have hkey : parseEnvKey "A" = .ok ["a"] := by decide
  simp only [load, hd, ho, chosenFiles, applyOverrides, hkey, coerce_ones (m := 4301) (by decide)]
  rfl

end Templating.Config
