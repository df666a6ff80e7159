import AgentFiles.Tips

/-!
# What a step changes

A step may write one value into the store, and it may show or hide the panel.
Both are said here once for all steps, so that what a run keeps follows from what
its steps write and show.
-/

namespace AgentFiles
namespace Tips

/-!
## The store
-/

theorem Store.value?_put (store : Store) (key value other : String) :
    (store.put key value).value? other =
      if key = other then some value else store.value? other :=
  Keyed.find?_insert key other value store.values

namespace Panel

/-- The entry that a step writes. A store that refuses to be written takes only that of a
restart. -/
def written? (panel : Panel) : Step -> Option (String × String)
  | .close now =>
    if panel.store.writable then some (lastShownKey, toString now) else none
  | .dismiss =>
    if panel.store.writable then some (dismissedKey, "true") else none
  | .restart entry => entry
  | _ => none

theorem hideWith_of_writable {panel : Panel} (key value : String)
    (hwritable : panel.store.writable = true) :
    panel.hideWith key value =
      (.ok (), { panel.hide with store := panel.store.put key value }) := by
  simp [hideWith, Store.set, hwritable]

theorem hideWith_of_not_writable {panel : Panel} (key value : String)
    (hwritable : panel.store.writable = false) :
    panel.hideWith key value = (.error .readOnlyStore, panel.hide) := by
  simp [hideWith, Store.set, hwritable]

theorem value?_hideWith (panel : Panel) (key value other : String) :
    (panel.hideWith key value).2.store.value? other =
      match if panel.store.writable then some (key, value) else none with
      | some entry =>
        if entry.1 = other then some entry.2 else panel.store.value? other
      | none => panel.store.value? other := by
  cases hwritable : panel.store.writable with
  | true =>
      simp [hwritable, hideWith_of_writable, Store.value?_put]
  | false =>
      simp [hwritable, hideWith_of_not_writable, hide]

theorem value?_step (panel : Panel) (s : Step) (key : String) :
    (panel.step s).2.store.value? key =
      match panel.written? s with
      | some entry =>
        if entry.1 = key then some entry.2 else panel.store.value? key
      | none => panel.store.value? key := by
  cases s with
  | close now =>
      exact panel.value?_hideWith lastShownKey (toString now) key
  | dismiss =>
      exact panel.value?_hideWith dismissedKey "true" key
  | openIfDue now =>
      cases hshow : panel.shouldShow now <;>
        simp [step, hshow, written?]
  | restart entry =>
      cases entry with
      | none =>
          rfl
      | some entry =>
          exact Store.value?_put panel.store entry.1 entry.2 key
  | shouldShow | isDismissed | reopen | next | previous | current | get | fail =>
      rfl

/-!
## The panel on show
-/

/-- The panel is hidden whether the store can be written or not. -/
theorem exists_store_hideWith (panel : Panel) (key value : String) :
    exists store, (panel.hideWith key value).2 = { panel.hide with store := store } := by
  cases hwritable : panel.store.writable with
  | true =>
      rw [hideWith_of_writable key value hwritable]
      exact ⟨_, rfl⟩
  | false =>
      rw [hideWith_of_not_writable key value hwritable]
      exact ⟨_, rfl⟩

theorem hideWith_visible (panel : Panel) (key value : String) :
    (panel.hideWith key value).2.visible = false := by
  rcases panel.exists_store_hideWith key value with ⟨store, hhidden⟩
  rw [hhidden]
  rfl

theorem shown_step {panel : Panel} {s : Step}
    (hhidden : panel.visible = false)
    (hshown : (panel.step s).2.visible = true) :
    s = .reopen ∨
      exists now, s = .openIfDue now ∧ panel.shouldShow now = .ok true := by
  cases s with
  | reopen =>
      exact Or.inl rfl
  | openIfDue now =>
      apply Or.inr
      exists now
      constructor
      · rfl
      · cases hdue : panel.shouldShow now with
        | error failure =>
            simp [step, hdue, hhidden] at hshown
        | ok due =>
            simp [step, hdue, hhidden] at hshown
            rw [hshown]
  | close now =>
      have hhide := panel.hideWith_visible lastShownKey (toString now)
      change (panel.hideWith lastShownKey (toString now)).2.visible = true
        at hshown
      rw [hhide] at hshown
      cases hshown
  | dismiss =>
      have hhide := panel.hideWith_visible dismissedKey "true"
      change (panel.hideWith dismissedKey "true").2.visible = true at hshown
      rw [hhide] at hshown
      cases hshown
  | restart entry =>
      cases entry <;> cases hshown
  | shouldShow | isDismissed | next | previous | current | get | fail =>
      change panel.visible = true at hshown
      rw [hhidden] at hshown
      cases hshown

/-!
## Runs
-/

theorem run_nil (panel : Panel) : panel.run [] = panel :=
  rfl

theorem run_cons (panel : Panel) (s : Step) (steps : List Step) :
    panel.run (s :: steps) = (panel.step s).2.run steps :=
  rfl

/-- What every allowed step keeps, every run of allowed steps keeps. -/
theorem run_keeps {allowed : Step -> Prop} {P : Panel -> Prop}
    (hstep : forall (panel : Panel) (s : Step),
      allowed s -> P panel -> P (panel.step s).2)
    {panel : Panel} {steps : List Step}
    (hsteps : forall s, s ∈ steps -> allowed s) (h : P panel) :
    P (panel.run steps) := by
  induction steps generalizing panel with
  | nil =>
      rw [run_nil]
      exact h
  | cons s rest ih =>
      rw [run_cons]
      apply ih
      · intro t ht
        exact hsteps t (List.mem_cons_of_mem s ht)
      · exact hstep panel s (hsteps s List.mem_cons_self) h

/-!
## Runs with a condition on their steps

What is said of a step may depend on the panel on which it is taken, such as
whether it succeeds.
-/

/-- Every step of a run has a property, on the panel on which it is taken. -/
def Throughout (P : Panel -> Step -> Prop) : Panel -> List Step -> Prop
  | _, [] => True
  | panel, s :: rest => P panel s ∧ Throughout P (panel.step s).2 rest

theorem run_append (panel : Panel) (steps rest : List Step) :
    panel.run (steps ++ rest) = (panel.run steps).run rest := by
  simp [run, List.foldl_append]

theorem Throughout.keeps {P : Panel -> Step -> Prop} {Q : Panel -> Prop}
    (hstep : forall (panel : Panel) (s : Step),
      P panel s -> Q panel -> Q (panel.step s).2)
    {panel : Panel} {steps : List Step} (hsteps : Throughout P panel steps)
    (h : Q panel) : Q (panel.run steps) := by
  induction steps generalizing panel with
  | nil =>
      rw [run_nil]
      exact h
  | cons s rest ih =>
      rw [run_cons]
      exact ih hsteps.right (hstep panel s hsteps.left h)

theorem Throughout.imp {P Q : Panel -> Step -> Prop}
    (himp : forall panel s, P panel s -> Q panel s)
    {panel : Panel} {steps : List Step} (hsteps : Throughout P panel steps) :
    Throughout Q panel steps := by
  induction steps generalizing panel with
  | nil =>
      trivial
  | cons s rest ih =>
      exact ⟨himp panel s hsteps.left, ih hsteps.right⟩

/-- The step does what it is for, and does not fail on the store. -/
def Succeeds (panel : Panel) (s : Step) : Prop :=
  exists answer, (panel.step s).1 = .ok answer

theorem exists_answer_hideWith_iff (panel : Panel) (key value : String) :
    (exists answer, (panel.hideWith key value).1.map (fun _ => Answer.done) = .ok answer) <->
      panel.store.writable = true := by
  cases hwritable : panel.store.writable with
  | true =>
      simp [hideWith_of_writable, hwritable, Except.map]
  | false =>
      simp [hideWith_of_not_writable, hwritable, Except.map]

theorem succeeds_close_iff (panel : Panel) (c : Int) :
    panel.Succeeds (.close c) <-> panel.store.writable = true :=
  panel.exists_answer_hideWith_iff lastShownKey (toString c)

theorem succeeds_dismiss_iff (panel : Panel) :
    panel.Succeeds .dismiss <-> panel.store.writable = true :=
  panel.exists_answer_hideWith_iff dismissedKey "true"

end Panel
end Tips
end AgentFiles
