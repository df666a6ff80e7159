import AgentFiles.Proofs.Tips.Effects

/-!
# Dismissal

Once the tips are dismissed the panel never shows itself again. The stored mark
of a dismissal survives every step but a restart that empties it, and while it
is there a panel is due at no time. A dismissed panel that is hidden therefore
stays hidden until it is opened on demand.
-/

namespace AgentFiles
namespace Tips
namespace Panel

def Dismissed (panel : Panel) : Prop :=
  exists mark, panel.store.value? dismissedKey = some mark ∧ mark ≠ ""

/-- A restart that empties the mark of a dismissal, the only step that takes it away. -/
def erasure : Step :=
  .restart (some (dismissedKey, ""))

/-!
## The mark is kept
-/

theorem written_mark_ne_empty {panel : Panel} {s : Step} {mark : String}
    (hs : s ≠ erasure)
    (hwritten : panel.written? s = some (dismissedKey, mark)) :
    mark ≠ "" := by
  cases s with
  | close now =>
      by_cases hwritable : panel.store.writable = true <;>
        simp [written?, hwritable, lastShownKey, dismissedKey] at hwritten
  | dismiss =>
      by_cases hwritable : panel.store.writable = true
      · simp [written?, hwritable] at hwritten
        simp [<- hwritten]
      · simp [written?, hwritable] at hwritten
  | restart entry =>
      change entry = some (dismissedKey, mark) at hwritten
      intro hmark
      rw [hmark] at hwritten
      exact hs (by rw [hwritten, erasure])
  | shouldShow | openIfDue | isDismissed | reopen | next | previous | current
  | get | fail =>
      cases hwritten

theorem dismissed_step {panel : Panel} {s : Step} (hs : s ≠ erasure)
    (h : panel.Dismissed) : (panel.step s).2.Dismissed := by
  rcases h with ⟨mark, hvalue, hmark⟩
  cases hwritten : panel.written? s with
  | none =>
      exists mark
      rw [value?_step, hwritten]
      exact ⟨hvalue, hmark⟩
  | some entry =>
      rcases entry with ⟨key, value⟩
      by_cases hkey : key = dismissedKey
      · subst hkey
        exists value
        rw [value?_step, hwritten]
        exact ⟨by simp, written_mark_ne_empty hs hwritten⟩
      · exists mark
        rw [value?_step, hwritten]
        exact ⟨by simpa [hkey] using hvalue, hmark⟩

theorem dismissed_run {panel : Panel} {steps : List Step}
    (hsteps : forall s, s ∈ steps -> s ≠ erasure) (h : panel.Dismissed) :
    (panel.run steps).Dismissed :=
  run_keeps (fun _ _ hs hpanel => dismissed_step hs hpanel) hsteps h

/-!
## A dismissed panel is never due
-/

theorem isDismissed_of_dismissed {panel : Panel} (h : panel.Dismissed) :
    panel.isDismissed = .ok true ∨
      panel.isDismissed = .error .unreadableStore := by
  rcases h with ⟨mark, hvalue, hmark⟩
  cases hreadable : panel.store.readable with
  | true =>
      apply Or.inl
      have hget : panel.store.get dismissedKey = .ok (some mark) := by
        simp [Store.get, hreadable, hvalue]
      simp [isDismissed, hget, hmark, bind, Except.bind, pure, Except.pure]
  | false =>
      apply Or.inr
      have hget : panel.store.get dismissedKey = .error .unreadableStore := by
        simp [Store.get, hreadable]
      simp [isDismissed, hget, bind, Except.bind]

theorem shouldShow_of_dismissed {panel : Panel} (h : panel.Dismissed)
    (now : Int) :
    panel.shouldShow now = .ok false ∨
      panel.shouldShow now = .error .unreadableStore := by
  rcases isDismissed_of_dismissed h with hmark | hfail
  · apply Or.inl
    simp [shouldShow, hmark, bind, Except.bind, pure, Except.pure]
  · apply Or.inr
    simp [shouldShow, hfail, bind, Except.bind]

theorem openIfDue_of_dismissed {panel : Panel} (h : panel.Dismissed)
    (now : Int) : (panel.step (.openIfDue now)).2 = panel := by
  rcases shouldShow_of_dismissed h now with hshow | hshow <;>
    simp [step, hshow]

theorem reopen_of_shown {panel : Panel} {s : Step} (h : panel.Dismissed)
    (hhidden : panel.visible = false)
    (hshown : (panel.step s).2.visible = true) : s = .reopen := by
  rcases shown_step hhidden hshown with hreopen | ⟨now, _, hdue⟩
  · exact hreopen
  · rcases shouldShow_of_dismissed h now with hshow | hshow <;>
      rw [hdue] at hshow <;> cases hshow

/-!
## Hidden until it is opened on demand
-/

theorem hidden_step {panel : Panel} {s : Step} (h : panel.Dismissed)
    (hhidden : panel.visible = false) (hs : s ≠ .reopen) :
    (panel.step s).2.visible = false := by
  cases hvisible : (panel.step s).2.visible with
  | false =>
      rfl
  | true =>
      exact absurd (reopen_of_shown h hhidden hvisible) hs

theorem hidden_run {panel : Panel} {steps : List Step}
    (hsteps : forall s, s ∈ steps -> s ≠ erasure ∧ s ≠ .reopen)
    (h : panel.Dismissed) (hhidden : panel.visible = false) :
    (panel.run steps).visible = false := by
  have hkept :
      (panel.run steps).Dismissed ∧ (panel.run steps).visible = false :=
    run_keeps
      (P := fun panel => panel.Dismissed ∧ panel.visible = false)
      (fun _ _ hs hpanel =>
        ⟨dismissed_step hs.left hpanel.left,
          hidden_step hpanel.left hpanel.right hs.right⟩)
      hsteps ⟨h, hhidden⟩
  exact hkept.right

theorem dismissed_of_dismiss {panel : Panel} {answer : Answer}
    (hok : (panel.step .dismiss).1 = .ok answer) :
    (panel.step .dismiss).2.Dismissed ∧
      (panel.step .dismiss).2.visible = false := by
  constructor
  · cases hwritable : panel.store.writable with
    | true =>
        exists "true"
        rw [value?_step]
        simp [written?, hwritable]
    | false =>
        simp [step, hideWith_of_not_writable, hwritable, Except.map] at hok
  · exact panel.hideWith_visible dismissedKey "true"

/-!
## Dismissal is permanent
-/

/--
After any run without an erasure a dismissed panel is not due, is not opened
because of the time, and is shown by nothing but a step that opens it on demand.
A dismissal that succeeds begins such a run, with a hidden panel.
-/
theorem dismissal_permanent :
    (forall (panel : Panel) (steps : List Step),
      panel.Dismissed -> (forall s, s ∈ steps -> s ≠ erasure) ->
        (forall now,
          ((panel.run steps).step (.shouldShow now)).1 = .ok (.flag false) ∨
            ((panel.run steps).step (.shouldShow now)).1 =
              .error .unreadableStore) ∧
        (forall now,
          ((panel.run steps).step (.openIfDue now)).2.visible =
            (panel.run steps).visible) ∧
        (forall s, (panel.run steps).visible = false ->
          ((panel.run steps).step s).2.visible = true -> s = .reopen)) ∧
    (forall (panel : Panel) (answer : Answer),
      (panel.step .dismiss).1 = .ok answer ->
        (panel.step .dismiss).2.Dismissed ∧
        (panel.step .dismiss).2.visible = false ∧
        forall steps : List Step,
          (forall s, s ∈ steps -> s ≠ erasure ∧ s ≠ .reopen) ->
            ((panel.step .dismiss).2.run steps).visible = false) := by
  constructor
  · intro panel steps h hsteps
    have hreached := dismissed_run hsteps h
    refine ⟨?_, ?_, ?_⟩
    · intro now
      rcases shouldShow_of_dismissed hreached now with hshow | hshow
      · exact Or.inl (by simp [step, hshow, Except.map])
      · exact Or.inr (by simp [step, hshow, Except.map])
    · intro now
      rw [openIfDue_of_dismissed hreached now]
    · intro s hhidden hshown
      exact reopen_of_shown hreached hhidden hshown
  · intro panel answer hok
    rcases dismissed_of_dismiss hok with ⟨hmark, hhidden⟩
    refine ⟨hmark, hhidden, ?_⟩
    intro steps hsteps
    exact hidden_run hsteps hmark hhidden

theorem dismissal_permanent_new_panel :
    (({} : Panel).step .dismiss).1 = .ok .done ∧
      (({} : Panel).step .dismiss).2.Dismissed ∧
      (forall s, s ∈ [Step.fail true false, .close (-5), .restart none, .next] ->
        s ≠ erasure ∧ s ≠ .reopen) ∧
      ((({} : Panel).step .dismiss).2.run
        [.fail true false, .close (-5), .restart none, .next]).visible = false ∧
      (((({} : Panel).step .dismiss).2.run
            [.fail true false, .close (-5), .restart none, .next]).step
          (.openIfDue 604800000)).2.visible =
        ((({} : Panel).step .dismiss).2.run
          [.fail true false, .close (-5), .restart none, .next]).visible := by
  have hok : (({} : Panel).step .dismiss).1 = .ok .done := rfl
  have hsteps :
      forall s, s ∈ [Step.fail true false, .close (-5), .restart none, .next] ->
        s ≠ erasure ∧ s ≠ .reopen := by
    decide
  rcases dismissal_permanent.right {} .done hok with ⟨hmark, _, hhidden⟩
  have hrun := dismissal_permanent.left _ _ hmark fun s hs => (hsteps s hs).left
  exact ⟨hok, hmark, hsteps, hhidden _ hsteps, hrun.right.left 604800000⟩

end Panel
end Tips
end AgentFiles
