import Mathlib.Data.List.Forall2
import Assay.Proofs.Series

/-!
# Series in lockstep

Two runs over the same tests, each in a world of its own, go side by side as long as every test does
to both what matters to the rest. The worlds may differ, and the results too, as far as a relation
allows; the error that ends the one ends the other, and the calls are the same.

* `Alike` — two attempts that end with the same error or with related values.
* `Session.InStep R related work work'` — work on the next test keeps worlds related by `R`, and has
  related results.
* `Session.PrintsAlike` — reports of related results leave related consoles.
* `Session.series_in_step` — series of such work have the same end.
-/

namespace Assay

variable {ε α β γ σ τ : Type}

/-- Two attempts end with the same error or with related values. -/
inductive Alike (related : α → β → Prop) : Except ε α → Except ε β → Prop
  | error (e : ε) : Alike related (.error e) (.error e)
  | ok {a : α} {b : β} (values : related a b) : Alike related (.ok a) (.ok b)

/-- Attempts that are alike are so still when their errors are put in other words. -/
theorem Alike.mapError {related : α → β → Prop} {ε' : Type} {r : Except ε α} {r' : Except ε β}
    (h : Alike related r r') (f : ε → ε') : Alike related (r.mapError f) (r'.mapError f) := by
  cases h with
  | error e => exact .error (f e)
  | ok values => exact .ok values

/-- An attempt is like itself. -/
theorem Alike.refl {related : α → α → Prop} (hrefl : ∀ a, related a a) (r : Except ε α) :
    Alike related r r := by
  cases r with
  | error e => exact .error e
  | ok a => exact .ok (hrefl a)

namespace Session

/-- Work in two worlds, side by side. Where the worlds are such that the tests to come may be worked
on in this way, the next one makes the same calls in both and has the same error or related results,
and after a result the worlds are again such for the rest. -/
structure InStep (R : List Test → σ → τ → Prop) (related : β → β → Prop) (work : Work σ β)
    (work' : Work τ β) : Prop where
  silent : Silent work
  silent' : Silent work'
  step : ∀ {test tests s s'}, R (test :: tests) s.world s'.world → s.calls = s'.calls →
    Alike related (work test s).1 (work' test s').1 ∧
      (work test s).2.calls = (work' test s').2.calls ∧
      ∀ result, (work test s).1 = .ok result →
        R tests (work test s).2.world (work' test s').2.world

/-- Reports of related results on related consoles end in the same way and leave related
consoles. -/
def PrintsAlike (related : β → β → Prop) (K : Sink → Sink → Prop)
    (pieces : Test → β → List String) : Prop :=
  ∀ test result result' c c', related result result' → K c c' →
    (c.print (pieces test result)).1 = (c'.print (pieces test result')).1 ∧
      K (c.print (pieces test result)).2 (c'.print (pieces test result')).2

/-- The same results leave the same console. -/
theorem prints_alike_eq (pieces : Test → β → List String) : PrintsAlike Eq Eq pieces := by
  rintro test result _ c _ rfl rfl
  exact ⟨rfl, rfl⟩

/-- Consoles that never fail stay so whatever is printed. -/
theorem prints_alike_unfailing (related : β → β → Prop) (pieces : Test → β → List String) :
    PrintsAlike related (fun c c' => c.Unfailing ∧ c'.Unfailing) pieces := by
  rintro test result result' c c' - ⟨hc, hc'⟩
  rw [Sink.print_of_takes (hc.takes _), Sink.print_of_takes (hc'.takes _)]
  exact ⟨rfl, hc.taking _, hc'.taking _⟩

/-- Two courses with the same end. -/
structure EndAlike (related : β → β → Prop) (K : Sink → Sink → Prop)
    (run : Course β × Session σ) (run' : Course β × Session τ) : Prop where
  stop : run.1.stop = run'.1.stop
  reported : List.Forall₂ related run.1.reported run'.1.reported
  calls : run.2.calls = run'.2.calls
  console : K run.2.console run'.2.console

variable {R : List Test → σ → τ → Prop} {related : β → β → Prop} {K : Sink → Sink → Prop}
  {work : Work σ β} {work' : Work τ β} {pieces : Test → β → List String}

/-- Series of work that is in step have the same end. -/
theorem series_in_step (hstep : InStep R related work work')
    (hprints : PrintsAlike related K pieces) (tests : List Test) (s : Session σ) (s' : Session τ)
    (hworlds : R tests s.world s'.world) (hcalls : s.calls = s'.calls)
    (hconsoles : K s.console s'.console) :
    EndAlike related K (series work pieces tests s) (series work' pieces tests s') := by
  induction tests generalizing s s' with
  | nil => exact ⟨rfl, .nil, hcalls, hconsoles⟩
  | cons test tests ih =>
    obtain ⟨hresults, hmade, hrest⟩ := hstep.step hworlds hcalls
    have hconsole := hstep.silent.console test s
    have hconsole' := hstep.silent'.console test s'
    rcases h : work test s with ⟨r, s₁⟩
    rcases h' : work' test s' with ⟨r', s₁'⟩
    rw [h] at hresults hmade hrest hconsole
    rw [h'] at hresults hmade hrest hconsole'
    simp only at hresults hmade hrest hconsole hconsole'
    cases hresults with
    | error e =>
      rw [series_cons_of_error h, series_cons_of_error h']
      refine ⟨rfl, .nil, hmade, ?_⟩
      rw [hconsole, hconsole']
      exact hconsoles
    | @ok result result' hvalues =>
      rw [← hconsole, ← hconsole'] at hconsoles
      obtain ⟨hsame, hK⟩ := hprints test _ _ _ _ hvalues hconsoles
      rcases hprint : s₁.console.print (pieces test result) with ⟨cause | _, c⟩
      all_goals
        rcases hprint' : s₁'.console.print (pieces test result') with ⟨r'', c'⟩
        rw [hprint, hprint'] at hsame hK
        simp only at hsame hK
        subst hsame
      · rw [series_cons_of_unreported h hprint, series_cons_of_unreported h' hprint']
        exact ⟨rfl, .nil, hmade, hK⟩
      · rw [series_cons_of_reported h hprint, series_cons_of_reported h' hprint']
        have hlater := ih (s₁.withConsole c) (s₁'.withConsole c')
          (hrest result rfl) hmade hK
        exact ⟨hlater.stop, .cons hvalues hlater.reported, hlater.calls, hlater.console⟩

/-- Runs that end as courses with the same end do are the same, as far as reports go. -/
theorem EndAlike.run_eq {f : List β → γ} {c : Course β × Session σ} {c' : Course β × Session τ}
    (h : EndAlike Eq Eq c c') {run : Except RunError γ × Session σ}
    {run' : Except RunError γ × Session τ} (hrun : EndsAs f run c) (hrun' : EndsAs f run' c') :
    run.1 = run'.1 ∧ run.2.calls = run'.2.calls ∧ run.2.console = run'.2.console := by
  have hreported : c.1.reported = c'.1.reported := by
    rw [← List.forall₂_eq_eq_eq]
    exact h.reported
  refine ⟨?_, ?_, ?_⟩
  · rw [hrun.result, hrun'.result, Course.result, Course.result, h.stop, hreported]
  · rw [hrun.calls, hrun'.calls, h.calls]
  · rw [hrun.console, hrun'.console, h.console]

end Session

end Assay
