import Templating.Proofs.Template.Build

/-!
# A builder is built once

A builder takes every step until it builds; the build hands out the template of the pieces so
far and spends the builder. From then on every step is refused: the refusal names the check the
step makes and the number of pieces the builder held when it was built, and the caller keeps
the builder and the templates it has built as they were.

Main statement: `run_build_once`, for a caller that goes on after refused steps, over the steps
before the first build and any steps after it.
-/

namespace Templating

open Markup

namespace Builder

variable {b : Builder}

/-- A spent builder refuses every step, naming the step's check and its own size. -/
theorem step_spent (h : b.spent = true) (s : Step) : b.step s = .error ⟨s.check, b.size⟩ := by
  cases s <;> simp [step, build, h, Step.check, Except.map]

/-- A builder that is not spent builds the template of its pieces and is spent after. -/
theorem step_build (h : b.spent = false) :
    b.step .build = .ok ({ b with spent := true }, some b.template) := by
  simp [step, build, h, Except.map]

end Builder

namespace Session

variable {ss : Session}

@[simp] theorem run_nil (ss : Session) : ss.run [] = (ss, []) := rfl

theorem run_cons (ss : Session) (s : Step) (rest : List Step) :
    ss.run (s :: rest) =
      (((ss.step s).1.run rest).1, (ss.step s).2 :: ((ss.step s).1.run rest).2) := rfl

/-- Running two lists of steps is running the first, then the second from where it ended. -/
theorem run_append (ss : Session) (xs ys : List Step) :
    ss.run (xs ++ ys) =
      (((ss.run xs).1.run ys).1, (ss.run xs).2 ++ ((ss.run xs).1.run ys).2) := by
  induction xs generalizing ss with
  | nil => rfl
  | cons s xs ih => simp [run_cons, ih]

/-- A refused step leaves the session as it was. -/
theorem step_spent (h : ss.builder.spent = true) (s : Step) :
    ss.step s = (ss, .error ⟨s.check, ss.builder.size⟩) := by
  simp [step, Builder.step_spent h]

/-- Once the builder is spent, every step is refused with the same size, and the session stays as
it was. -/
theorem run_spent (ss : Session) (h : ss.builder.spent = true) (steps : List Step) :
    ss.run steps = (ss, steps.map fun s => .error ⟨s.check, ss.builder.size⟩) := by
  induction steps with
  | nil => rfl
  | cons s steps ih => simp [run_cons, step_spent h, ih]

/-- A step other than `build` appends its pieces, and the builder stays open. -/
theorem step_open (h : ss.builder.spent = false) {s : Step} (hs : s.check ≠ .build) :
    ss.step s = (⟨s.items.foldl Builder.add ss.builder, ss.built⟩, .ok none) := by
  simp [step, Builder.step_append h hs]

/-- Steps other than `build` on an open builder all succeed, appending their pieces in order. -/
theorem run_open (ss : Session) (h : ss.builder.spent = false) {steps : List Step}
    (hs : ∀ s ∈ steps, s.check ≠ .build) :
    ss.run steps =
      (⟨(steps.flatMap Step.items).foldl Builder.add ss.builder, ss.built⟩,
        steps.map fun _ => .ok none) := by
  induction steps generalizing ss with
  | nil => rfl
  | cons s steps ih =>
      have hstep := step_open h (hs s List.mem_cons_self)
      -- appending keeps the builder open, so the rest of the steps succeed as well
      have hopen : (s.items.foldl Builder.add ss.builder).spent = false := by
        rw [Builder.foldl_add_spent, h]
      have hrest := ih ⟨s.items.foldl Builder.add ss.builder, ss.built⟩ hopen
        fun s' hs' => hs s' (List.mem_cons_of_mem _ hs')
      simp [run_cons, hstep, hrest, List.foldl_append]

/-- Building an open builder hands out its template, which joins the built ones. -/
theorem step_build (h : ss.builder.spent = false) :
    ss.step .build =
      (⟨{ ss.builder with spent := true }, ss.built ++ [ss.builder.template]⟩,
        .ok (some ss.builder.template)) := by
  simp [step, Builder.step_build h]

end Session

/-- A fresh builder takes every step before its first `build`, appending the steps' pieces with
their literals merged; the build succeeds and hands out their template; every step after it,
`build` included, is refused, naming its check and the number of pieces at the build, and
leaves the builder, with its pieces, index and size, and the built templates as they were. The
refusal is reported with its message and context. -/
theorem run_build_once (pre post : List Step) (hpre : ∀ s ∈ pre, s.check ≠ .build) :
    let b : Builder := { pieces := coalesce (pre.flatMap Step.items),
                         index := (Template.mk (coalesce (pre.flatMap Step.items))).index,
                         literalOpen := endsInLiteral (coalesce (pre.flatMap Step.items)) }
    ({} : Session).run pre = (⟨b, []⟩, pre.map fun _ => .ok none) ∧
      ({} : Session).run (pre ++ .build :: post) =
        (⟨{ b with spent := true }, [b.template]⟩,
          pre.map (fun _ => .ok none) ++
            .ok (some b.template) :: post.map fun s => .error ⟨s.check, b.size⟩) ∧
      ∀ s : Step, (Spent.toFailure ⟨s.check, b.size⟩) =
        ⟨.builderSpent, "TemplateBuilder." ++ s.check.name ++ "() called after build()",
          [("operation", .str s.check.name), ("segments", .int b.size)]⟩ := by
  intro b
  -- the steps before the build leave the fresh builder holding `b`
  have hpre_run : ({} : Session).run pre = (⟨b, []⟩, pre.map fun _ => .ok none) := by
    rw [Session.run_open {} rfl hpre, Builder.foldl_add_fresh]
  have hbuild : (⟨b, []⟩ : Session).step .build =
      (⟨{ b with spent := true }, [b.template]⟩, .ok (some b.template)) :=
    Session.step_build rfl
  have hpost := Session.run_spent ⟨{ b with spent := true }, [b.template]⟩ rfl post
  refine ⟨hpre_run, ?_, fun s => rfl⟩
  rw [Session.run_append, hpre_run, Session.run_cons, hbuild, hpost]
  rfl

/-- A literal appended, built, then composed onto and built again: the later steps are refused
with the size at the build. -/
theorem run_build_once_append :
    (∀ s ∈ [Step.append "x"], s.check ≠ .build) ∧
      let b : Builder := { pieces := coalesce ([Step.append "x"].flatMap Step.items),
                           index := (Template.mk (coalesce ([Step.append "x"].flatMap
                             Step.items))).index,
                           literalOpen := endsInLiteral (coalesce ([Step.append "x"].flatMap
                             Step.items)) }
      ({} : Session).run [Step.append "x"] = (⟨b, []⟩, [Step.append "x"].map fun _ => .ok none) ∧
        ({} : Session).run ([Step.append "x"] ++ .build :: [.format (.text "y"), .build]) =
          (⟨{ b with spent := true }, [b.template]⟩,
            [Step.append "x"].map (fun _ => .ok none) ++
              .ok (some b.template) ::
                [Step.format (.text "y"), .build].map fun s => .error ⟨s.check, b.size⟩) ∧
        ∀ s : Step, (Spent.toFailure ⟨s.check, b.size⟩) =
          ⟨.builderSpent, "TemplateBuilder." ++ s.check.name ++ "() called after build()",
            [("operation", .str s.check.name), ("segments", .int b.size)]⟩ :=
  ⟨by decide, run_build_once [Step.append "x"] [.format (.text "y"), .build] (by decide)⟩

/-- A builder spent by a build refuses `format` as the `append_template` it hands over to: the
refusal names `append_template`, not `format`. -/
theorem run_format_after_build :
    (({} : Session).run [.build, .format (.text "x")]).2 =
        [.ok (some ⟨[]⟩), .error ⟨.appendTemplate, 0⟩] ∧
      (Spent.toFailure ⟨.appendTemplate, 0⟩).message ≠
        "TemplateBuilder.format() called after build()" ∧
      (Spent.toFailure ⟨.appendTemplate, 0⟩).context ≠
        [("operation", .str "format"), ("segments", .int 0)] := by
  refine ⟨rfl, by decide, ?_⟩
  simp [Spent.toFailure, Check.name]

end Templating
