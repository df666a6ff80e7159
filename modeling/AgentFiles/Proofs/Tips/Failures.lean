import AgentFiles.Proofs.Tips.Effects

/-!
# Failures of the store

A step fails exactly if the store refuses what the step has to do with it. Whatever fails,
the store and the tip on show are left as they were. A step that had to read leaves the
panel as it was, and one that had to write leaves it hidden, which makes no difference to
whether it is due.
-/

namespace AgentFiles
namespace Tips

namespace Step

def reads : Step -> Bool
  | .shouldShow _ | .openIfDue _ | .isDismissed | .get _ => true
  | _ => false

/-- The step has to write the store, and hides the panel before. -/
def writes : Step -> Bool
  | .close _ | .dismiss => true
  | _ => false

end Step

namespace Panel

/-!
## Steps that read
-/

section Reading

variable {panel : Panel} {s : Step}

theorem isDismissed_of_not_readable (hreadable : panel.store.readable = false) :
    panel.isDismissed = .error .unreadableStore := by
  simp [isDismissed, Store.get, hreadable, bind, Except.bind]

theorem shouldShow_of_not_readable (hreadable : panel.store.readable = false) (now : Int) :
    panel.shouldShow now = .error .unreadableStore := by
  simp [shouldShow, isDismissed_of_not_readable hreadable, bind, Except.bind]

theorem step_of_not_readable (hs : s.reads = true)
    (hreadable : panel.store.readable = false) :
    panel.step s = (.error .unreadableStore, panel) := by
  cases s with
  | shouldShow now =>
      rw [step, shouldShow_of_not_readable hreadable]
      rfl
  | openIfDue now =>
      rw [step, shouldShow_of_not_readable hreadable]
  | isDismissed =>
      rw [step, isDismissed_of_not_readable hreadable]
      rfl
  | get key =>
      simp [step, Store.get, hreadable, Except.map]
  | close | dismiss | reopen | next | previous | current | restart | fail =>
      cases hs

theorem isDismissed_of_readable (hreadable : panel.store.readable = true) :
    exists dismissed, panel.isDismissed = .ok dismissed := by
  simp [isDismissed, Store.get, hreadable, bind, Except.bind, pure, Except.pure]

theorem shouldShow_of_readable (hreadable : panel.store.readable = true) (now : Int) :
    exists due, panel.shouldShow now = .ok due := by
  rcases isDismissed_of_readable hreadable with ⟨dismissed, hdismissed⟩
  cases dismissed <;>
    simp [shouldShow, hdismissed, Store.get, hreadable, bind, Except.bind, pure,
      Except.pure]

theorem succeeds_of_readable (hs : s.reads = true)
    (hreadable : panel.store.readable = true) : panel.Succeeds s := by
  cases s with
  | shouldShow now =>
      rcases shouldShow_of_readable hreadable now with ⟨due, hdue⟩
      exact ⟨.flag due, by rw [step, hdue]; rfl⟩
  | openIfDue now =>
      rcases shouldShow_of_readable hreadable now with ⟨due, hdue⟩
      exact ⟨.flag (panel.visible || due), by rw [step, hdue]⟩
  | isDismissed =>
      rcases isDismissed_of_readable hreadable with ⟨dismissed, hdismissed⟩
      exact ⟨.flag dismissed, by rw [step, hdismissed]; rfl⟩
  | get key =>
      exact ⟨.value (panel.store.value? key), by simp [step, Store.get, hreadable, Except.map]⟩
  | close | dismiss | reopen | next | previous | current | restart | fail =>
      cases hs

end Reading

/-!
## Steps that write
-/

section Writing

variable {panel : Panel} {s : Step}

theorem step_of_not_writable (hs : s.writes = true)
    (hwritable : panel.store.writable = false) :
    panel.step s = (.error .readOnlyStore, panel.hide) := by
  cases s with
  | close now =>
      rw [step, hideWith_of_not_writable _ _ hwritable]
      rfl
  | dismiss =>
      rw [step, hideWith_of_not_writable _ _ hwritable]
      rfl
  | shouldShow | openIfDue | isDismissed | reopen | next | previous | current | get
  | restart | fail =>
      cases hs

theorem succeeds_of_writable (hs : s.writes = true)
    (hwritable : panel.store.writable = true) : panel.Succeeds s := by
  cases s with
  | close now =>
      exact (succeeds_close_iff panel now).mpr hwritable
  | dismiss =>
      exact (succeeds_dismiss_iff panel).mpr hwritable
  | shouldShow | openIfDue | isDismissed | reopen | next | previous | current | get
  | restart | fail =>
      cases hs

theorem shouldShow_hide (panel : Panel) (now : Int) :
    panel.hide.shouldShow now = panel.shouldShow now :=
  rfl

end Writing

/-!
## Steps that fail
-/

section Failing

variable {panel : Panel} {s : Step}

def Fails (panel : Panel) (s : Step) : Prop :=
  exists failure, (panel.step s).1 = .error failure

theorem not_fails_of_succeeds (h : panel.Succeeds s) : ¬ panel.Fails s := by
  intro hfails
  rcases h with ⟨answer, hanswer⟩
  rcases hfails with ⟨failure, hfailure⟩
  rw [hanswer] at hfailure
  cases hfailure

theorem succeeds_of_no_access (hreads : s.reads = false) (hwrites : s.writes = false) :
    panel.Succeeds s := by
  cases s with
  | restart entry =>
      cases entry <;>
        exact ⟨.done, rfl⟩
  | reopen | fail =>
      exact ⟨.done, rfl⟩
  | next | previous | current =>
      exact ⟨.tip _, rfl⟩
  | shouldShow | openIfDue | isDismissed | get =>
      cases hreads
  | close | dismiss =>
      cases hwrites

theorem fails_iff :
    panel.Fails s <->
      (s.reads = true ∧ panel.store.readable = false) ∨
        (s.writes = true ∧ panel.store.writable = false) := by
  constructor
  · intro hfails
    cases hreads : s.reads with
    | true =>
        cases hreadable : panel.store.readable with
        | true =>
            exact absurd hfails (not_fails_of_succeeds (succeeds_of_readable hreads hreadable))
        | false =>
            exact Or.inl ⟨rfl, rfl⟩
    | false =>
        cases hwrites : s.writes with
        | true =>
            cases hwritable : panel.store.writable with
            | true =>
                exact absurd hfails
                  (not_fails_of_succeeds (succeeds_of_writable hwrites hwritable))
            | false =>
                exact Or.inr ⟨rfl, rfl⟩
        | false =>
            exact absurd hfails (not_fails_of_succeeds (succeeds_of_no_access hreads hwrites))
  · intro hrefused
    rcases hrefused with ⟨hreads, hreadable⟩ | ⟨hwrites, hwritable⟩
    · exact ⟨_, by rw [step_of_not_readable hreads hreadable]⟩
    · exact ⟨_, by rw [step_of_not_writable hwrites hwritable]⟩

theorem step_of_fails (hfails : panel.Fails s) :
    (panel.step s).2 = panel ∨ (panel.step s).2 = panel.hide := by
  rcases fails_iff.mp hfails with ⟨hreads, hreadable⟩ | ⟨hwrites, hwritable⟩
  · exact Or.inl (by rw [step_of_not_readable hreads hreadable])
  · exact Or.inr (by rw [step_of_not_writable hwrites hwritable])

/-- A run of steps that all fail changes no more than that the panel is hidden. -/
theorem run_of_fails {steps : List Step} (hsteps : Throughout Fails panel steps) :
    panel.run steps = panel ∨ panel.run steps = panel.hide := by
  refine hsteps.keeps (Q := fun reached => reached = panel ∨ reached = panel.hide) ?_
    (Or.inl rfl)
  intro reached s hfails hreached
  rcases step_of_fails hfails with hsame | hhidden
  · rw [hsame]
    exact hreached
  · rw [hhidden]
    rcases hreached with rfl | rfl <;>
      exact Or.inr rfl

end Failing

/-!
## Opening a panel that is due
-/

theorem openIfDue_of_ok {panel : Panel} {now : Int} {answer : Answer}
    (hok : (panel.step (.openIfDue now)).1 = .ok answer) :
    exists due, panel.shouldShow now = .ok due ∧ answer = .flag (panel.visible || due) ∧
      (panel.step (.openIfDue now)).2 = { panel with visible := panel.visible || due } := by
  cases hdue : panel.shouldShow now with
  | error failure =>
      rw [step, hdue] at hok
      cases hok
  | ok due =>
      rw [step, hdue] at hok ⊢
      cases hok
      exact ⟨due, rfl, rfl, rfl⟩

/--
A step that cannot read fails and changes nothing. A step that cannot write fails and does
no more than hide the panel, which is due when it was. Opening a panel that is due answers
whether it is visible then, hides no panel and writes nothing. A run of failures changes
no more than that the panel is hidden.
-/
theorem failures_keep_store (panel : Panel) :
    (forall s : Step, s.reads = true -> panel.store.readable = false ->
      panel.step s = (.error .unreadableStore, panel)) ∧
    (forall s : Step, s.writes = true -> panel.store.writable = false ->
      (panel.step s).1 = .error .readOnlyStore ∧
      (panel.step s).2.store = panel.store ∧
      (panel.step s).2.index = panel.index ∧
      (panel.step s).2.visible = false ∧
      forall now, ((panel.step s).2.step (.shouldShow now)).1 =
        (panel.step (.shouldShow now)).1) ∧
    (forall (now : Int) (answer : Answer), (panel.step (.openIfDue now)).1 = .ok answer ->
      answer = .flag (panel.step (.openIfDue now)).2.visible ∧
      (panel.visible = true -> (panel.step (.openIfDue now)).2.visible = true) ∧
      (panel.step (.openIfDue now)).2.store = panel.store) ∧
    (forall steps : List Step, Throughout Fails panel steps ->
      panel.run steps = panel ∨ panel.run steps = panel.hide) := by
  refine ⟨fun s => step_of_not_readable, ?_, ?_, fun steps => run_of_fails⟩
  · intro s hwrites hwritable
    rw [step_of_not_writable hwrites hwritable]
    refine ⟨rfl, rfl, rfl, rfl, ?_⟩
    intro now
    rw [step, step, shouldShow_hide]
  · intro now answer hok
    rcases openIfDue_of_ok hok with ⟨due, _, hanswer, hpanel⟩
    rw [hpanel]
    refine ⟨hanswer, ?_, rfl⟩
    intro hvisible
    rw [hvisible, Bool.true_or]

def fourthTip (readable writable : Bool) : Panel :=
  { store :=
      { values := [(lastShownKey, "5")], readable := readable, writable := writable },
    index := 3, visible := true }

theorem failures_keep_store_fourth :
    ((Step.openIfDue 7).reads = true ∧ (fourthTip false true).store.readable = false ∧
      (fourthTip false true).step (.openIfDue 7) =
        (.error .unreadableStore, fourthTip false true)) ∧
    ((Step.close 7).writes = true ∧ (fourthTip true false).store.writable = false ∧
      ((fourthTip true false).step (.close 7)).1 = .error .readOnlyStore ∧
      ((fourthTip true false).step (.close 7)).2.visible = false ∧
      (((fourthTip true false).step (.close 7)).2.step (.shouldShow 604800006)).1 =
        ((fourthTip true false).step (.shouldShow 604800006)).1) ∧
    (((fourthTip true false).step (.openIfDue 7)).1 = .ok (.flag true) ∧
      ((fourthTip true false).step (.openIfDue 7)).2.store =
        (fourthTip true false).store) ∧
    (Throughout Fails (fourthTip false false) [.openIfDue 7, .dismiss, .isDismissed] ∧
      ((fourthTip false false).run [.openIfDue 7, .dismiss, .isDismissed] =
          fourthTip false false ∨
        (fourthTip false false).run [.openIfDue 7, .dismiss, .isDismissed] =
          (fourthTip false false).hide)) := by
  rcases failures_keep_store (fourthTip false true) with ⟨hunread, _, _, _⟩
  rcases failures_keep_store (fourthTip true false) with ⟨_, hunwritten, hopened, _⟩
  rcases failures_keep_store (fourthTip false false) with ⟨_, _, _, hrun⟩
  rcases hunwritten (.close 7) rfl rfl with ⟨hfailure, _, _, hhidden, hdue⟩
  have hok : ((fourthTip true false).step (.openIfDue 7)).1 = .ok (.flag true) :=
    rfl
  have hfails :
      Throughout Fails (fourthTip false false) [.openIfDue 7, .dismiss, .isDismissed] :=
    ⟨⟨_, rfl⟩, ⟨_, rfl⟩, ⟨_, rfl⟩, trivial⟩
  exact ⟨⟨rfl, rfl, hunread (.openIfDue 7) rfl rfl⟩,
    ⟨rfl, rfl, hfailure, hhidden, hdue 604800006⟩,
    ⟨hok, (hopened 7 _ hok).right.right⟩, hfails, hrun _ hfails⟩

end Panel
end Tips
end AgentFiles
