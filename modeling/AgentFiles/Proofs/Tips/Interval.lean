import AgentFiles.Proofs.Tips.Dismissal
import AgentFiles.Proofs.Tips.StoredTime

/-!
# The interval between two showings

A close that succeeds leaves its time in the store as a decimal text. The text
stays there until another close succeeds or a restart writes over it, and it
reads as the time that was written. From then on the panel is due exactly when
more than the interval has passed since the close, and it never opens by itself
before that. A panel that was never closed or dismissed is always due.
-/

namespace AgentFiles
namespace Tips

namespace Panel

/-!
## The stored time
-/

/-- The step is no close that succeeds and no restart that writes the time of one. -/
def KeepsClose (panel : Panel) (s : Step) : Prop :=
  (forall t, s = .close t -> ¬ panel.Succeeds s) ∧
    forall value, s ≠ .restart (some (lastShownKey, value))

def KeepsMark (panel : Panel) (s : Step) : Prop :=
  (s = .dismiss -> ¬ panel.Succeeds s) ∧
    forall value, s ≠ .restart (some (dismissedKey, value))

theorem value?_of_close {panel : Panel} {c : Int}
    (hclose : panel.Succeeds (.close c)) :
    (panel.step (.close c)).2.store.value? lastShownKey =
      some (toString c) := by
  have hwritable := (succeeds_close_iff panel c).mp hclose
  rw [value?_step]
  simp [written?, hwritable]

theorem value?_of_keepsClose {panel : Panel} {s : Step}
    (hs : panel.KeepsClose s) :
    (panel.step s).2.store.value? lastShownKey =
      panel.store.value? lastShownKey := by
  rw [value?_step]
  cases s with
  | close t =>
      have hfails := hs.left t rfl
      rw [succeeds_close_iff] at hfails
      simp [written?, hfails]
  | dismiss =>
      cases hwritable : panel.store.writable <;>
        simp [written?, hwritable, dismissedKey, lastShownKey]
  | restart entry =>
      cases entry with
      | none =>
          rfl
      | some entry =>
          rcases entry with ⟨key, value⟩
          have hkey : key ≠ lastShownKey := by
            intro h
            subst h
            exact hs.right value rfl
          simp [written?, hkey]
  | shouldShow | openIfDue | isDismissed | reopen | next | previous | current
  | get | fail =>
      rfl

theorem value?_of_keepsMark {panel : Panel} {s : Step}
    (hs : panel.KeepsMark s) :
    (panel.step s).2.store.value? dismissedKey =
      panel.store.value? dismissedKey := by
  rw [value?_step]
  cases s with
  | close t =>
      cases hwritable : panel.store.writable <;>
        simp [written?, hwritable, dismissedKey, lastShownKey]
  | dismiss =>
      have hfails := hs.left rfl
      rw [succeeds_dismiss_iff] at hfails
      simp [written?, hfails]
  | restart entry =>
      cases entry with
      | none =>
          rfl
      | some entry =>
          rcases entry with ⟨key, value⟩
          have hkey : key ≠ dismissedKey := by
            intro h
            subst h
            exact hs.right value rfl
          simp [written?, hkey]
  | shouldShow | openIfDue | isDismissed | reopen | next | previous | current
  | get | fail =>
      rfl

/-- After a close that succeeds its time stays in the store. -/
theorem value?_run_of_close {panel : Panel} {c : Int} {after : List Step}
    (hclose : panel.Succeeds (.close c))
    (hafter : Throughout KeepsClose (panel.step (.close c)).2 after) :
    (panel.run (.close c :: after)).store.value? lastShownKey =
      some (toString c) := by
  rw [run_cons]
  refine hafter.keeps
    (Q := fun panel => panel.store.value? lastShownKey = some (toString c))
    ?_ (value?_of_close hclose)
  intro panel s hs hvalue
  rw [value?_of_keepsClose hs, hvalue]

/-!
## When a panel is due
-/

theorem isDismissed_of_not_dismissed {panel : Panel}
    (hreadable : panel.store.readable = true) (h : ¬ panel.Dismissed) :
    panel.isDismissed = .ok false := by
  have hget :
      panel.store.get dismissedKey = .ok (panel.store.value? dismissedKey) := by
    simp [Store.get, hreadable]
  cases hvalue : panel.store.value? dismissedKey with
  | none =>
      simp [isDismissed, hget, hvalue, bind, Except.bind, pure, Except.pure]
  | some mark =>
      by_cases hmark : mark = ""
      · simp [isDismissed, hget, hvalue, hmark, bind, Except.bind, pure,
          Except.pure]
      · exact absurd ⟨mark, hvalue, hmark⟩ h

theorem shouldShow_of_not_dismissed {panel : Panel}
    (hreadable : panel.store.readable = true) (h : ¬ panel.Dismissed)
    (now : Int) :
    panel.shouldShow now =
      .ok (isDue now (panel.store.value? lastShownKey)) := by
  apply shouldShow_of_stored (isDismissed_of_not_dismissed hreadable h)
  simp [Store.get, hreadable]

theorem isDue_of_shouldShow {panel : Panel} {now : Int}
    (hshow : panel.shouldShow now = .ok true) :
    isDue now (panel.store.value? lastShownKey) = true := by
  have hdismissed : ¬ panel.Dismissed := by
    intro h
    rcases shouldShow_of_dismissed h now with hfalse | herror
    · rw [hshow] at hfalse
      cases hfalse
    · rw [hshow] at herror
      cases herror
  cases hreadable : panel.store.readable with
  | false =>
      simp [shouldShow, isDismissed, Store.get, hreadable, bind,
        Except.bind] at hshow
  | true =>
      rw [shouldShow_of_not_dismissed hreadable hdismissed] at hshow
      exact Except.ok.inj hshow

/-!
## The interval over whole runs
-/

/--
After the last close that succeeds the panel is due when more than the interval
has passed since, and only then does it open by itself. A panel whose store was
never written by a close, a dismissal or a restart is due at any time.
-/
theorem due_after_interval :
    (forall (before after : List Step) (c : Int), IsTime c ->
      (({} : Panel).run before).Succeeds (.close c) ->
      Throughout KeepsClose ((({} : Panel).run before).step (.close c)).2
        after ->
        ((({} : Panel).run (before ++ .close c :: after)).store.readable =
            true ->
          ¬ (({} : Panel).run (before ++ .close c :: after)).Dismissed ->
          forall now,
            ((({} : Panel).run (before ++ .close c :: after)).step
                (.shouldShow now)).1 =
              .ok (.flag (decide (interval < now - c)))) ∧
        (forall t,
          (({} : Panel).run (before ++ .close c :: after)).visible = false ->
          ((({} : Panel).run (before ++ .close c :: after)).step
              (.openIfDue t)).2.visible = true ->
            interval < t - c)) ∧
    (forall steps : List Step,
      Throughout (fun panel s => panel.KeepsClose s ∧ panel.KeepsMark s)
        {} steps ->
      (({} : Panel).run steps).store.readable = true ->
        forall now,
          ((({} : Panel).run steps).step (.shouldShow now)).1 =
            .ok (.flag true)) := by
  constructor
  · intro before after c hc hclose hafter
    have hvalue := value?_run_of_close hclose hafter
    rw [<- run_append] at hvalue
    constructor
    · intro hreadable hdismissed now
      have hshow := shouldShow_of_not_dismissed hreadable hdismissed now
      rw [hvalue, isDue_toString hc] at hshow
      simp [step, hshow, Except.map]
    · intro t hhidden hshown
      rcases shown_step hhidden hshown with hreopen | ⟨now, hopen, hshow⟩
      · cases hreopen
      · cases hopen
        have hdue := isDue_of_shouldShow hshow
        rw [hvalue, isDue_toString hc] at hdue
        exact of_decide_eq_true hdue
  · intro steps hsteps hreadable now
    have hstore :
        (({} : Panel).run steps).store.value? lastShownKey = none ∧
          (({} : Panel).run steps).store.value? dismissedKey = none := by
      refine hsteps.keeps
        (Q := fun panel =>
          panel.store.value? lastShownKey = none ∧
            panel.store.value? dismissedKey = none)
        ?_ ⟨rfl, rfl⟩
      intro panel s hs hvalues
      rw [value?_of_keepsClose hs.left, value?_of_keepsMark hs.right]
      exact hvalues
    have hdismissed : ¬ (({} : Panel).run steps).Dismissed := by
      rintro ⟨mark, hmark, _⟩
      rw [hstore.right] at hmark
      cases hmark
    have hshow := shouldShow_of_not_dismissed hreadable hdismissed now
    rw [hstore.left] at hshow
    simp [step, hshow, isDue, Except.map]

def failedSteps : List Step :=
  [.reopen, .fail false true, .close 7, .dismiss, .fail false false,
    .restart (some ("theme", "dark"))]

theorem failedSteps_keep (panel : Panel) :
    Throughout (fun panel s => panel.KeepsClose s ∧ panel.KeepsMark s) panel
      failedSteps := by
  simp [failedSteps, Throughout, KeepsClose, KeepsMark, succeeds_close_iff,
    succeeds_dismiss_iff, step, lastShownKey, dismissedKey,
    hideWith_of_not_writable, hide]

/-- A close before the epoch, seven days to the millisecond and one more. -/
theorem due_after_interval_at_boundary :
    IsTime (-5) ∧
      (({} : Panel).run [.next]).Succeeds (.close (-5)) ∧
      Throughout KeepsClose ((({} : Panel).run [.next]).step (.close (-5))).2
        failedSteps ∧
      (({} : Panel).run ([.next] ++ .close (-5) :: failedSteps)).store.readable =
        true ∧
      ¬ (({} : Panel).run ([.next] ++ .close (-5) :: failedSteps)).Dismissed ∧
      ((({} : Panel).run ([.next] ++ .close (-5) :: failedSteps)).step
          (.shouldShow 604799995)).1 = .ok (.flag false) ∧
      ((({} : Panel).run ([.next] ++ .close (-5) :: failedSteps)).step
          (.shouldShow 604799996)).1 = .ok (.flag true) ∧
      (({} : Panel).run ([.next] ++ .close (-5) :: failedSteps)).visible =
        false ∧
      ((({} : Panel).run ([.next] ++ .close (-5) :: failedSteps)).step
          (.openIfDue 604799996)).2.visible = true ∧
      interval < 604799996 - (-5) ∧
      ((({} : Panel).run failedSteps).step (.shouldShow (-5))).1 =
        .ok (.flag true) := by
  have hc : IsTime (-5) := by
    simp [IsTime, leastTime, mostTime]
  have hclose : (({} : Panel).run [.next]).Succeeds (.close (-5)) :=
    ⟨.done, rfl⟩
  have hafter :
      Throughout KeepsClose ((({} : Panel).run [.next]).step (.close (-5))).2
        failedSteps :=
    (failedSteps_keep _).imp fun _ _ hs => hs.left
  have hdismissed :
      ¬ (({} : Panel).run ([.next] ++ .close (-5) :: failedSteps)).Dismissed := by
    rintro ⟨mark, hmark, _⟩
    have hnone :
        (({} : Panel).run
          ([.next] ++ .close (-5) :: failedSteps)).store.value? dismissedKey =
            none := by
      decide +kernel
    rw [hnone] at hmark
    cases hmark
  have hshown :
      ((({} : Panel).run ([.next] ++ .close (-5) :: failedSteps)).step
        (.openIfDue 604799996)).2.visible = true := by
    decide +kernel
  rcases due_after_interval.left [.next] failedSteps (-5) hc hclose hafter with
    ⟨hdue, hopen⟩
  have hflag := hdue rfl hdismissed
  exact ⟨hc, hclose, hafter, rfl, hdismissed, hflag 604799995, hflag 604799996,
    rfl, hshown, hopen 604799996 rfl hshown,
    due_after_interval.right failedSteps (failedSteps_keep _) rfl (-5)⟩

end Panel
end Tips
end AgentFiles
