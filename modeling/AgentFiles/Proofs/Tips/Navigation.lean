import AgentFiles.Proofs.Tips.Effects
import Mathlib.Data.List.DropRight
import Mathlib.Data.List.Induction

/-!
# Turning over the tips

The tips stand in a circle. A step ahead and a step back undo each other, a panel that is
new or opened on demand shows the first tip, and no other step turns the tips over. So
the tip on show is found by counting the steps in both directions since the first tip was
last put on show.
-/

namespace AgentFiles
namespace Tips

namespace Step

def startsOver : Step -> Bool
  | .reopen | .restart _ => true
  | _ => false

def selects : Step -> Bool
  | .next | .previous => true
  | s => s.startsOver

def turn : Step -> Int
  | .next => 1
  | .previous => -1
  | _ => 0

end Step

/-- The steps ahead less the steps back since the last step that starts over. -/
def lead (steps : List Step) : Int :=
  let since := steps.rtakeWhile fun s => !s.startsOver
  (since.count .next : Int) - since.count .previous

theorem lead_append_of_startsOver (steps : List Step) {s : Step}
    (hs : s.startsOver = true) : lead (steps ++ [s]) = 0 := by
  simp [lead, hs]

theorem lead_append_of_not_startsOver (steps : List Step) {s : Step}
    (hs : s.startsOver = false) : lead (steps ++ [s]) = lead steps + s.turn := by
  simp only [lead, List.rtakeWhile_concat, hs, Bool.not_false, if_true, List.count_append]
  cases s with
  | next | previous =>
      simp [Step.turn]
      omega
  | reopen | restart =>
      cases hs
  | shouldShow | openIfDue | close | dismiss | isDismissed | current | get | fail =>
      simp [Step.turn]

namespace Panel

/-!
## The place of the tip on show
-/

theorem hideWith_index (panel : Panel) (key value : String) :
    (panel.hideWith key value).2.index = panel.index := by
  rcases panel.exists_store_hideWith key value with ⟨store, hhidden⟩
  rw [hhidden]
  rfl

theorem index_of_startsOver (panel : Panel) {s : Step} (hs : s.startsOver = true) :
    (panel.step s).2.index = 0 := by
  cases s with
  | reopen =>
      rfl
  | restart entry =>
      cases entry <;>
        rfl
  | shouldShow | openIfDue | close | dismiss | isDismissed | next | previous | current
  | get | fail =>
      cases hs

theorem index_of_not_selects (panel : Panel) {s : Step} (hs : s.selects = false) :
    (panel.step s).2.index = panel.index := by
  cases s with
  | openIfDue now =>
      cases hshow : panel.shouldShow now <;>
        simp [step, hshow]
  | close now =>
      exact panel.hideWith_index lastShownKey (toString now)
  | dismiss =>
      exact panel.hideWith_index dismissedKey "true"
  | next | previous | reopen | restart =>
      cases hs
  | shouldShow | isDismissed | current | get | fail =>
      rfl

theorem index_next (panel : Panel) :
    (panel.next.index : Int) = (panel.index + 1) % count := by
  rw [next, Int.natCast_emod]
  rfl

/-- The place before the first is the last one. Nothing is subtracted from zero for it. -/
theorem index_previous (panel : Panel) :
    (panel.previous.index : Int) = (panel.index + -1) % count := by
  have hcast : ((panel.index + count - 1 : Nat) : Int) = panel.index + -1 + count := by
    have hcount : 0 < count := by
      decide
    omega
  rw [previous, Int.natCast_emod, hcast, Int.add_emod_right]

/-- A step that does not start over turns the tips by as much as it says. -/
theorem index_of_not_startsOver {panel : Panel} {s : Step} {d : Int}
    (hs : s.startsOver = false) (hindex : (panel.index : Int) = d % count) :
    ((panel.step s).2.index : Int) = (d + s.turn) % count := by
  cases s with
  | next =>
      change (panel.next.index : Int) = (d + 1) % count
      rw [index_next, hindex, Int.emod_add_emod]
  | previous =>
      change (panel.previous.index : Int) = (d + -1) % count
      rw [index_previous, hindex, Int.emod_add_emod]
  | reopen | restart =>
      cases hs
  | shouldShow | openIfDue | close | dismiss | isDismissed | current | get | fail =>
      rw [index_of_not_selects panel rfl, hindex]
      simp [Step.turn]

def reached (store : Store) (steps : List Step) : Panel :=
  ({ store := store } : Panel).run steps

theorem reached_append_singleton (store : Store) (steps : List Step) (s : Step) :
    reached store (steps ++ [s]) = ((reached store steps).step s).2 := by
  rw [reached, run_append]
  rfl

theorem index_reached (store : Store) (steps : List Step) :
    ((reached store steps).index : Int) = lead steps % count := by
  -- From the end, as the lead is counted back from the last step.
  induction steps using List.reverseRecOn with
  | nil =>
      rfl
  | append_singleton steps s ih =>
      rw [reached_append_singleton]
      cases hs : s.startsOver with
      | true =>
          rw [index_of_startsOver _ hs, lead_append_of_startsOver steps hs]
          rfl
      | false =>
          rw [index_of_not_startsOver hs ih, lead_append_of_not_startsOver steps hs]

theorem index_reached_lt (store : Store) (steps : List Step) :
    (reached store steps).index < count := by
  have hless : lead steps % count < count :=
    Int.emod_lt_of_pos (lead steps) (by decide)
  rw [<- index_reached store steps] at hless
  exact Int.ofNat_lt.mp hless

/-!
## Steps ahead and back
-/

section Undoing

variable {panel : Panel}

theorem index_there_and_back (hindex : panel.index < count) (there back : Step)
    (hthere : there.startsOver = false) (hback : back.startsOver = false)
    (hturn : there.turn + back.turn = 0) :
    ((panel.step there).2.step back).2.index = panel.index := by
  have hstart : (panel.index : Int) % count = panel.index :=
    Int.emod_eq_of_lt (Int.natCast_nonneg _) (Int.ofNat_lt.mpr hindex)
  have hend := index_of_not_startsOver hback (index_of_not_startsOver hthere hstart.symm)
  rw [Int.add_assoc, hturn, Int.add_zero, hstart] at hend
  exact Int.ofNat_inj.mp hend

theorem previous_next (hindex : panel.index < count) : panel.next.previous = panel := by
  have hback : panel.next.previous.index = panel.index :=
    index_there_and_back hindex .next .previous rfl rfl rfl
  change { panel with index := panel.next.previous.index } = panel
  rw [hback]

theorem next_previous (hindex : panel.index < count) : panel.previous.next = panel := by
  have hahead : panel.previous.next.index = panel.index :=
    index_there_and_back hindex .previous .next rfl rfl rfl
  change { panel with index := panel.previous.next.index } = panel
  rw [hahead]

end Undoing

theorem answer_eq_current (panel : Panel) {s : Step}
    (hs : s = .next ∨ s = .previous ∨ s = .current) :
    (panel.step s).1 = .ok (.tip (panel.step s).2.current) := by
  rcases hs with rfl | rfl | rfl <;>
    rfl

/--
After any run the place of the tip on show is that of a tip, and it is the number of steps
ahead less the number of steps back since the first tip was last put on show, counted around
the circle of eight. No step changes it but those ahead and back and those that start over.
Steps ahead and back undo each other, and each answers the tip at the place it leads to.
-/
theorem tips_turn_in_circle (store : Store) (steps : List Step) :
    (reached store steps).index < count ∧
    ((reached store steps).position.1 : Int) = 1 + lead steps % 8 ∧
    (reached store steps).position.2 = 8 ∧
    (forall s : Step, s.selects = false ->
      ((reached store steps).step s).2.position = (reached store steps).position) ∧
    (reached store (steps ++ [.next, .previous]) = reached store steps ∧
      reached store (steps ++ [.previous, .next]) = reached store steps) ∧
    (forall s : Step, s = .next ∨ s = .previous ∨ s = .current ->
      exists tip, ((reached store steps).step s).1 = .ok (.tip (some tip)) ∧
        Tip.all[((reached store steps).step s).2.position.1 - 1]? = some tip) := by
  have hindex := index_reached_lt store steps
  refine ⟨hindex, ?_, rfl, ?_, ⟨?_, ?_⟩, ?_⟩
  · have hplace : ((reached store steps).index : Int) = lead steps % 8 :=
      index_reached store steps
    rw [position, <- hplace]
    omega
  · intro s hs
    rw [position, position, index_of_not_selects _ hs]
  · rw [reached, run_append]
    exact previous_next hindex
  · rw [reached, run_append]
    exact next_previous hindex
  · intro s hs
    have hreached := index_reached_lt store (steps ++ [s])
    rw [reached_append_singleton] at hreached
    rw [answer_eq_current _ hs]
    exact ⟨Tip.all[((reached store steps).step s).2.index],
      by rw [current, List.getElem?_eq_getElem hreached], List.getElem?_eq_getElem hreached⟩

def backSteps : List Step :=
  [.next, .next, .reopen, .next, .previous, .openIfDue 7, .previous, .dismiss]

theorem tips_turn_in_circle_one_back :
    Step.selects (.close 7) = false ∧
      (reached { readable := false, writable := false } backSteps).position = (8, 8) ∧
      ((reached { readable := false, writable := false } backSteps).step
        (.close 7)).2.position = (8, 8) ∧
      exists tip,
        ((reached { readable := false, writable := false } backSteps).step .next).1 =
          .ok (.tip (some tip)) ∧
        tip.title = "Welcome to ClaudeStash!" := by
  rcases tips_turn_in_circle { readable := false, writable := false } backSteps with
    ⟨_, _, _, hkept, _, htip⟩
  have hplace :
      (reached { readable := false, writable := false } backSteps).position = (8, 8) := by
    decide
  have hclose : Step.selects (.close 7) = false := rfl
  rcases htip .next (Or.inl rfl) with ⟨tip, hanswer, hat⟩
  have hfirst :
      Tip.all[((reached { readable := false, writable := false } backSteps).step
        .next).2.position.1 - 1]? = Tip.all[0]? := by
    decide
  rw [hat] at hfirst
  refine ⟨hclose, hplace, (hkept _ hclose).trans hplace, tip, hanswer, ?_⟩
  cases hfirst
  rfl

end Panel
end Tips
end AgentFiles
