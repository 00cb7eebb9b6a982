import Templating.Profile
import Templating.Proofs.Template.Build

/-!
# Profiled runs follow the call tree

Run under a fresh profiler, a forest of span calls leaves in the profiler one record per node, in
post-order, each with the node's depth and facts (`Span.recordsAll`); the profiler's depth is back
to zero, the profiler that was active before is active again, and no other profiler changes. The
call counts give each name its number of nodes, names in the order their first record came, and
the summary has the same names. Span calls with no profiler active record nothing anywhere.

A span that cannot be opened stops the run with its fault (`Span.refusalAll`); the depth and the
active profiler are restored all the same. Such a span has a fact called `name`, or, under a
profiler, one called `self`: the profiler refuses what the same call with no profiler accepts
(`profiled_self_refused`).

Main statement: `enable_followsCallTree`.

## Implementation notes

The step lemma is `run_active`: under an active profiler `i`, a span call only changes profiler `i`,
which ends at the depth it started with and with records appended, the span's own records when the
span can be opened. It is proved together with `runAll_active` by recursion on the forest. The
calls and the summary are folds of `tally`, whose law on a list of distinct names
(`tally_map`) gives both.
-/

namespace Templating

/-! ## Changing one profiler -/

namespace Profiling

@[simp] theorem update_active (w : Profiling) (i : Nat) (f : Profiler → Profiler) :
    (w.update i f).active = w.active := rfl

@[simp] theorem update_self (w : Profiling) (i : Nat) (f : Profiler → Profiler) :
    (w.update i f).profilers i = f (w.profilers i) := by
  simp [update]

theorem update_ne (w : Profiling) {i j : Nat} (h : j ≠ i) (f : Profiler → Profiler) :
    (w.update i f).profilers j = w.profilers j := by
  simp [update, h]

/-- Setting a profiler twice is setting it once, to what the second change makes of the first. -/
theorem update_update (w : Profiling) (i : Nat) (f g : Profiler → Profiler) :
    (w.update i f).update i g = w.update i fun p => g (f p) := by
  simp only [update]
  congr 1
  funext j
  split <;> simp

/-- Setting a profiler to what it holds changes nothing. -/
theorem update_of_eq (w : Profiling) {i : Nat} {p : Profiler} (h : w.profilers i = p) :
    w.update i (fun _ => p) = w := by
  cases w with
  | mk profilers active =>
      simp only [update, Profiling.mk.injEq, and_true]
      funext j
      split
      · subst j
        exact h.symm
      · rfl

end Profiling

/-! ## Span calls under a profiler -/

namespace Span

variable {i : Nat}

mutual

/-- Under the active profiler `i`, at depth `d` with records `S`, a span call appends records to
`i` and ends at depth `d`, changing nothing else; it reports the span's refusal, and when there is
none the records appended are the span's. -/
theorem run_active (s : Span) (w : Profiling) (S : List SpanRecord) (d : Nat)
    (ha : w.active = some i) (hp : w.profilers i = ⟨S, d⟩) :
    ∃ recs, run w s = (w.update i (fun _ => ⟨S ++ recs, d⟩), s.refusal true) ∧
      (s.refusal true = none → recs = s.records d) := by
  cases s with
  | node name facts inner =>
      by_cases hn : facts.any (·.1 == "name") = true
      · refine ⟨[], ?_, fun h => by simp [refusal, hn] at h⟩
        simp [run, refusal, hn, Profiling.update_of_eq w hp]
      by_cases hs : facts.any (·.1 == "self") = true
      · refine ⟨[], ?_, fun h => by simp [refusal, hn, hs] at h⟩
        simp [run, refusal, hn, hs, ha, Profiling.update_of_eq w hp]
      -- the spans inside run one level deeper, then the span is recorded at depth `d`
      obtain ⟨recs, hrun, hrecs⟩ := runAll_active inner (w.update i Profiler.enter) S (d + 1)
        (by simp [ha]) (by simp [hp, Profiler.enter])
      have hrefusal : (node name facts inner).refusal true = refusalAll true inner := by
        simp [refusal, hn, hs]
      refine ⟨recs ++ [⟨name, d, facts⟩], ?_, fun h => ?_⟩
      · simp only [run, hn, hs, ha, hp, hrun, hrefusal, Profiling.update_update, Bool.false_eq_true,
          if_false]
        simp [Profiler.close]
      · rw [hrecs (hrefusal ▸ h), records]
termination_by sizeOf s

/-- Under the active profiler `i`, span calls one after another append records to `i` and end at
the depth they started at; they report the first refusal, and when there is none the records
appended are the spans'. -/
theorem runAll_active (F : List Span) (w : Profiling) (S : List SpanRecord) (d : Nat)
    (ha : w.active = some i) (hp : w.profilers i = ⟨S, d⟩) :
    ∃ recs, runAll w F = (w.update i (fun _ => ⟨S ++ recs, d⟩), refusalAll true F) ∧
      (refusalAll true F = none → recs = recordsAll d F) := by
  cases F with
  | nil => exact ⟨[], by simp [runAll, refusalAll, Profiling.update_of_eq w hp], fun _ => rfl⟩
  | cons s rest =>
      obtain ⟨recs, hrun, hrecs⟩ := run_active s w S d ha hp
      cases hr : s.refusal true with
      | some f =>
          -- the run stops at `s`
          refine ⟨recs, ?_, fun h => by simp [refusalAll, hr] at h⟩
          simp [runAll, hrun, hr, refusalAll]
      | none =>
          -- the rest runs from where `s` left the profiler
          obtain ⟨recs', hrun', hrecs'⟩ := runAll_active rest
            (w.update i (fun _ => ⟨S ++ recs, d⟩)) (S ++ recs) d (by simp [ha]) (by simp)
          refine ⟨recs ++ recs', ?_, fun h => ?_⟩
          · simp [runAll, hrun, hr, hrun', refusalAll, Profiling.update_update]
          · have h' : refusalAll true rest = none := by simpa [refusalAll, hr] using h
            rw [hrecs hr, hrecs' h', recordsAll]
termination_by sizeOf F

end

mutual

/-- With no profiler active a span call changes nothing; it reports the span's refusal. -/
theorem run_inactive (s : Span) (w : Profiling) (ha : w.active = none) :
    run w s = (w, s.refusal false) := by
  cases s with
  | node name facts inner =>
      by_cases hn : facts.any (·.1 == "name") = true
      · simp [run, refusal, hn]
      · simp [run, refusal, hn, ha, runAll_inactive inner w ha]
termination_by sizeOf s

/-- With no profiler active span calls change nothing; they report the first refusal. -/
theorem runAll_inactive (F : List Span) (w : Profiling) (ha : w.active = none) :
    runAll w F = (w, refusalAll false F) := by
  cases F with
  | nil => rfl
  | cons s rest =>
      cases hr : s.refusal false with
      | some f => simp [runAll, run_inactive s w ha, hr, refusalAll]
      | none => simp [runAll, run_inactive s w ha, hr, refusalAll, runAll_inactive rest w ha]
termination_by sizeOf F

end

end Span

/-- Enabling a fresh profiler for span calls: they report their first refusal; the profiler that
was active is active again, no other profiler changes, and the fresh one is back at depth zero
holding the records the calls appended, the forest's records when no span was refused. -/
theorem Profiling.enable_fresh (w : Profiling) (i : Nat) (hfresh : w.profilers i = {})
    (F : List Span) :
    ∃ recs, w.enable i F =
        ({ w with profilers := fun j => if j = i then ⟨recs, 0⟩ else w.profilers j },
          Span.refusalAll true F) ∧
      (Span.refusalAll true F = none → recs = Span.recordsAll 0 F) := by
  obtain ⟨recs, hrun, hrecs⟩ := Span.runAll_active F { w with active := some i } [] 0 rfl hfresh
  refine ⟨recs, ?_, hrecs⟩
  simp [enable, hrun, update]

/-! ## Calls and summaries -/

section Tallies

variable {α : Type} [Add α] [OfNat α 0]

/-- Tallying a name over distinct names, each with its total, adds to the name's total, or puts
the name last with the amount. -/
theorem tally_map (n : String) (x : α) (P : String → α) :
    ∀ E : List String, E.Nodup → (n ∉ E → P n = 0) →
      tally n x (E.map fun k => (k, P k)) =
        (E ++ if n ∈ E then [] else [n]).map fun k => (k, if k = n then P k + x else P k)
  | [], _, hn => by simp [tally, hn]
  | k :: E, hnd, hn => by
      obtain ⟨hk, hE⟩ := List.nodup_cons.1 hnd
      by_cases hkn : k = n
      · subst hkn
        -- the name is there: only its total changes
        have hrest : ∀ k' ∈ E, (k', P k') = (k', if k' = k then P k' + x else P k') := by
          intro k' hk'
          have : k' ≠ k := fun h => hk (h ▸ hk')
          simp [this]
        simp [tally, List.map_congr_left hrest]
      · have hnE : n ∉ E → P n = 0 := fun h => hn (by simp [h, Ne.symm hkn])
        simp only [List.map_cons, tally, if_neg hkn, tally_map n x P E hE hnE, List.mem_cons,
          List.cons_append]
        simp [Ne.symm hkn]

/-- Tallying keeps the names, with a new one last. -/
theorem keys_tally (n : String) (x : α) :
    ∀ acc : List (String × α),
      (tally n x acc).map Prod.fst = acc.map Prod.fst ++ if n ∈ acc.map Prod.fst then [] else [n]
  | [] => by simp [tally]
  | (k, t) :: acc => by
      by_cases hk : k = n
      · simp [tally, hk]
      · rw [tally, if_neg hk, List.map_cons, List.map_cons, keys_tally n x acc]
        by_cases hm : n ∈ acc.map Prod.fst <;> simp [hm, Ne.symm hk]

/-- Names distinct in the order of their first occurrence, the last one appended. -/
theorem eraseDups_append_singleton (L : List String) (n : String) :
    (L ++ [n]).eraseDups = L.eraseDups ++ if n ∈ L then [] else [n] := by
  rw [List.eraseDups_append]
  by_cases h : n ∈ L
  · simp [List.removeAll, h]
  · simp [List.removeAll, h, List.eraseDups_cons]

/-- Tallying a list of named amounts keeps each name once, in the order the names first come. -/
theorem keys_foldl_tally (xs : List (String × α)) :
    ∀ (L : List String) (acc : List (String × α)), acc.map Prod.fst = L.eraseDups →
      (xs.foldl (fun acc nx => tally nx.1 nx.2 acc) acc).map Prod.fst =
        (L ++ xs.map Prod.fst).eraseDups := by
  induction xs with
  | nil => intro L acc h; simpa using h
  | cons nx xs ih =>
      intro L acc h
      have hstep : (tally nx.1 nx.2 acc).map Prod.fst = (L ++ [nx.1]).eraseDups := by
        rw [keys_tally, h, eraseDups_append_singleton]
        simp only [List.mem_eraseDups]
      rw [List.foldl_cons, ih (L ++ [nx.1]) _ hstep, List.map_cons, List.append_assoc,
        List.singleton_append]

end Tallies

/-- Tallying one more name over the counts of a list of names gives the counts of the longer list. -/
theorem tally_counts (L : List String) (n : String) :
    tally n 1 (L.eraseDups.map fun k => (k, L.count k)) =
      (L ++ [n]).eraseDups.map fun k => (k, (L ++ [n]).count k) := by
  rw [tally_map n 1 (fun k => L.count k) L.eraseDups (nodup_eraseDups L)
    (fun h => List.count_eq_zero.2 (by simpa [List.mem_eraseDups] using h)),
    eraseDups_append_singleton]
  simp only [List.mem_eraseDups]
  congr 1
  funext k
  by_cases hk : k = n
  · simp [List.count_append, hk]
  · simp [List.count_append, hk, Ne.symm hk]

/-- Counting names one after another, from the counts of a list of names, counts them all. -/
theorem foldl_tally_counts (names : List String) :
    ∀ L : List String,
      names.foldl (fun acc n => tally n 1 acc) (L.eraseDups.map fun k => (k, L.count k)) =
        (L ++ names).eraseDups.map fun k => (k, (L ++ names).count k) := by
  induction names with
  | nil => simp
  | cons n names ih =>
      intro L
      rw [List.foldl_cons, tally_counts, ih, List.append_assoc, List.singleton_append]

/-- The calls count each name's records, names in the order of their first record. -/
theorem callCounts_eq (rs : List SpanRecord) :
    callCounts rs = (rs.map (·.name)).eraseDups.map fun k => (k, (rs.map (·.name)).count k) := by
  simpa [callCounts, List.foldl_map] using foldl_tally_counts (rs.map (·.name)) []

/-- Whatever the times of the records, the summary has the names of the calls, in their order. -/
theorem keys_summaryMs (rs : List SpanRecord) (ms : List Float) (h : ms.length = rs.length) :
    (summaryMs (rs.zip ms)).map Prod.fst = (callCounts rs).map Prod.fst := by
  have hfst : (rs.zip ms).map Prod.fst = rs := List.map_fst_zip (by omega)
  have hnames : ((rs.zip ms).map fun rx => (rx.1.name, rx.2)).map Prod.fst =
      rs.map SpanRecord.name := by
    calc ((rs.zip ms).map fun rx => (rx.1.name, rx.2)).map Prod.fst
        = ((rs.zip ms).map Prod.fst).map SpanRecord.name := by simp [Function.comp_def]
      _ = rs.map SpanRecord.name := by rw [hfst]
  have hkeys := keys_foldl_tally ((rs.zip ms).map fun rx => (rx.1.name, rx.2)) [] [] rfl
  rw [List.foldl_map, hnames, List.nil_append] at hkeys
  rw [summaryMs, hkeys, callCounts_eq, List.map_map]
  simp [Function.comp_def]

/-! ## Runs -/

/-- A forest of span calls run under a fresh profiler reports the first span that cannot be
opened, if any; afterwards the profiler that was active is active again, the fresh profiler is
back at depth zero, and no other profiler has changed. When every span opens, the fresh profiler
holds one record per node in post-order, each node after the nodes inside it and siblings left to
right, with the node's depth and facts; the calls give each name its number of nodes, names in
the order of their first record, and the summary has the same names whatever the times. Span
calls with no profiler active are recorded nowhere. -/
theorem enable_followsCallTree (w : Profiling) (i : Nat) (hfresh : w.profilers i = {})
    (F : List Span) :
    (w.enable i F).2 = Span.refusalAll true F ∧
      (w.enable i F).1.active = w.active ∧
      ((w.enable i F).1.profilers i).depth = 0 ∧
      (∀ j, j ≠ i → (w.enable i F).1.profilers j = w.profilers j) ∧
      (Span.refusalAll true F = none →
        ((w.enable i F).1.profilers i).spans = Span.recordsAll 0 F ∧
        callCounts ((w.enable i F).1.profilers i).spans =
          ((Span.recordsAll 0 F).map (·.name)).eraseDups.map
            (fun k => (k, ((Span.recordsAll 0 F).map (·.name)).count k)) ∧
        ∀ ms : List Float, ms.length = (Span.recordsAll 0 F).length →
          (summaryMs ((Span.recordsAll 0 F).zip ms)).map Prod.fst =
            (callCounts (Span.recordsAll 0 F)).map Prod.fst) ∧
      ∀ w' : Profiling, w'.active = none → Span.runAll w' F = (w', Span.refusalAll false F) := by
  obtain ⟨recs, henable, hrecs⟩ := Profiling.enable_fresh w i hfresh F
  refine ⟨by rw [henable], by rw [henable], by simp [henable], fun j hj => by simp [henable, hj],
    fun hnone => ?_, fun w' hw' => Span.runAll_inactive F w' hw'⟩
  have hspans : ((w.enable i F).1.profilers i).spans = Span.recordsAll 0 F := by
    simp [henable, hrecs hnone]
  exact ⟨hspans, by rw [hspans, callCounts_eq],
    fun ms hms => keys_summaryMs _ ms hms⟩

/-- Two spans run one inside the other under a fresh profiler, with no profiler active before. -/
theorem enable_followsCallTree_nested :
    ({} : Profiling).profilers 0 = {} ∧
      (({} : Profiling).enable 0 [.node "a" [] [.node "b" [] []]]).2 =
          Span.refusalAll true [.node "a" [] [.node "b" [] []]] ∧
        (({} : Profiling).enable 0 [.node "a" [] [.node "b" [] []]]).1.active =
          ({} : Profiling).active ∧
        ((({} : Profiling).enable 0 [.node "a" [] [.node "b" [] []]]).1.profilers 0).depth = 0 ∧
        (∀ j, j ≠ 0 → (({} : Profiling).enable 0 [.node "a" [] [.node "b" [] []]]).1.profilers j =
          ({} : Profiling).profilers j) ∧
        (Span.refusalAll true [.node "a" [] [.node "b" [] []]] = none →
          ((({} : Profiling).enable 0 [.node "a" [] [.node "b" [] []]]).1.profilers 0).spans =
            Span.recordsAll 0 [.node "a" [] [.node "b" [] []]] ∧
          callCounts ((({} : Profiling).enable 0 [.node "a" [] [.node "b" [] []]]).1.profilers 0).spans =
            ((Span.recordsAll 0 [.node "a" [] [.node "b" [] []]]).map (·.name)).eraseDups.map
              (fun k => (k, ((Span.recordsAll 0 [.node "a" [] [.node "b" [] []]]).map (·.name)).count k)) ∧
          ∀ ms : List Float, ms.length = (Span.recordsAll 0 [.node "a" [] [.node "b" [] []]]).length →
            (summaryMs ((Span.recordsAll 0 [.node "a" [] [.node "b" [] []]]).zip ms)).map Prod.fst =
              (callCounts (Span.recordsAll 0 [.node "a" [] [.node "b" [] []]])).map Prod.fst) ∧
        ∀ w' : Profiling, w'.active = none →
          Span.runAll w' [.node "a" [] [.node "b" [] []]] =
            (w', Span.refusalAll false [.node "a" [] [.node "b" [] []]]) :=
  ⟨rfl, enable_followsCallTree {} 0 rfl [.node "a" [] [.node "b" [] []]]⟩

/-- A span with a fact called `self` runs with no profiler active, but a fresh profiler refuses it
and records nothing: the forest's one node gets no record. -/
theorem profiled_self_refused :
    (Span.runAll {} [.node "a" [("self", .int 1)] []]).2 = none ∧
      (({} : Profiling).enable 0 [.node "a" [("self", .int 1)] []]).2 =
        some (Span.clash "Profiler.span" "self") ∧
      ((({} : Profiling).enable 0 [.node "a" [("self", .int 1)] []]).1.profilers 0).spans = [] ∧
      (Span.recordsAll 0 [.node "a" [("self", .int 1)] []]).length = 1 := by
  refine ⟨rfl, rfl, rfl, rfl⟩

end Templating
