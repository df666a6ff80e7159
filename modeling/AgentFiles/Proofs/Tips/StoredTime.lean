import AgentFiles.Proofs.Text.Numeral
import AgentFiles.Proofs.Text.Trimming
import AgentFiles.Tips

/-!
# Stored times

A stored text is read as the number at its start, and every time of 64 bits is read as it was
written. The difference of two times may need more than 64 bits, but what is cut off lies far
beyond the interval. So a stored text decides whether the panel is due by the number that it
begins with, in exact arithmetic.
-/

namespace AgentFiles
namespace Tips

variable {text : String} {i : Int}

/-- Times that fit 64 bits. The times of a calendar do. -/
def IsTime (i : Int) : Prop :=
  leastTime ≤ i ∧ i ≤ mostTime

/-- The text begins with the number: blanks, a sign or none, and a run of digits up to its end. -/
def BeginsWith (text : String) (i : Int) : Prop :=
  exists blanks sign digits tail n,
    text.toList = blanks ++ sign ++ digits ++ tail ∧ Text.allBlank blanks = true ∧
      Text.Signed sign n i ∧ Text.Decimal digits n ∧
      forall c, tail.head? = some c -> Text.isDigit c = false

/-!
## The number at the start of a text
-/

theorem findIdx_not_isDigit_eq_zero_iff (s : List Char) :
    s.findIdx (fun c => !Text.isDigit c) = 0 <-> s.takeWhile Text.isDigit = [] := by
  cases s with
  | nil =>
      simp
  | cons c rest =>
      cases hc : Text.isDigit c <;> simp [List.findIdx_cons, hc]

theorem leadingTime?_eq_some_iff_read? {s : List Char} (hs : Text.trimStart text.toList = s) :
    leadingTime? text = some i <->
      (s.drop (Text.signLength s)).takeWhile Text.isDigit ≠ [] ∧
        width.read? (s.take (Text.signLength s) ++
          (s.drop (Text.signLength s)).takeWhile Text.isDigit) = some i := by
  simp only [leadingTime?, hs]
  rw [Option.ite_none_left_eq_some, Nat.add_eq_left, findIdx_not_isDigit_eq_zero_iff,
    List.take_add, List.takeWhile_eq_take_findIdx_not]

theorem signLength_append {sign digits : List Char} {n : Nat} (hsigned : Text.Signed sign n i)
    (hdecimal : Text.Decimal digits n) (tail : List Char) :
    Text.signLength (sign ++ digits ++ tail) = sign.length := by
  cases hsigned with
  | bare =>
      rcases List.exists_cons_of_ne_nil hdecimal.ne_nil with ⟨c, rest, rfl⟩
      have hc := Text.isSign_of_isDigit (hdecimal.all_digits c List.mem_cons_self)
      simp [Text.signLength, hc]
  | plus | minus =>
      rfl

theorem beginsWith_of_leadingTime? (htime : leadingTime? text = some i) :
    BeginsWith text i ∧ IsTime i := by
  rcases Text.exists_trimStart_append text.toList with ⟨blanks, htext, hblank⟩
  rw [leadingTime?_eq_some_iff_read? rfl] at htime
  generalize Text.trimStart text.toList = s at htime htext
  rcases Text.Width.read?_eq_some_iff.mp htime.right with
    ⟨sign, digits, n, hread, hdecimal, hsigned, _, hholds⟩
  refine ⟨⟨blanks, sign, digits, (s.drop (Text.signLength s)).dropWhile Text.isDigit, n, ?_,
    hblank, hsigned, hdecimal, ?_⟩, hholds⟩
  · calc
      text.toList = blanks ++ (s.take (Text.signLength s) ++ s.drop (Text.signLength s)) := by
        rw [List.take_append_drop, htext]
      _ = blanks ++ (sign ++ digits) ++
            (s.drop (Text.signLength s)).dropWhile Text.isDigit := by
        rw [<- hread, List.append_assoc, List.append_assoc, List.takeWhile_append_dropWhile]
      _ = blanks ++ sign ++ digits ++
            (s.drop (Text.signLength s)).dropWhile Text.isDigit := by
        rw [List.append_assoc blanks sign]
  · intro c hc
    have hnot := List.head?_dropWhile_not Text.isDigit (s.drop (Text.signLength s))
    rw [hc] at hnot
    simpa using hnot

theorem leadingTime?_of_beginsWith (hbegins : BeginsWith text i) (hi : IsTime i) :
    leadingTime? text = some i := by
  rcases hbegins with
    ⟨blanks, sign, digits, tail, n, htext, hblank, hsigned, hdecimal, htail⟩
  -- A sign or a digit stands where the blanks end, so trimming stops there.
  have hs : Text.trimStart text.toList = sign ++ digits ++ tail := by
    rw [htext, List.append_assoc, List.append_assoc, Text.trimStart_append_blank _ hblank,
      <- List.append_assoc]
    apply Text.trimStart_eq_self_of_head
    intro c hc
    apply Text.isBlank_of_mem_numeral hsigned hdecimal.all_digits
    rw [List.head?_append_of_ne_nil _ (List.append_ne_nil_of_right_ne_nil _ hdecimal.ne_nil)]
      at hc
    exact List.mem_of_head? hc
  rw [leadingTime?_eq_some_iff_read? hs, signLength_append hsigned hdecimal,
    List.append_assoc, List.drop_left, List.take_left,
    Text.takeWhile_isDigit_append hdecimal.all_digits htail]
  refine ⟨hdecimal.ne_nil, Text.Width.read?_eq_some_iff.mpr ?_⟩
  exact ⟨sign, digits, n, rfl, hdecimal, hsigned, fun _ => by decide, hi⟩

theorem leadingTime?_eq_some_iff :
    leadingTime? text = some i <-> BeginsWith text i ∧ IsTime i :=
  ⟨beginsWith_of_leadingTime?, fun h => leadingTime?_of_beginsWith h.left h.right⟩

theorem leadingTime?_toString (hi : IsTime i) : leadingTime? (toString i) = some i := by
  apply leadingTime?_eq_some_iff.mpr
  refine ⟨?_, hi⟩
  by_cases hneg : i < 0
  · refine ⟨[], ['-'], Nat.toDigits 10 i.natAbs, [], i.natAbs, ?_, rfl, ?_,
      Text.decimal_toDigits i.natAbs, nofun⟩
    · rw [Text.toList_toString_int, if_pos hneg, List.append_nil]
      rfl
    · have hsigned := Text.Signed.minus i.natAbs
      rwa [show -(i.natAbs : Int) = i by omega] at hsigned
  · refine ⟨[], [], Nat.toDigits 10 i.natAbs, [], i.natAbs, ?_, rfl, ?_,
      Text.decimal_toDigits i.natAbs, nofun⟩
    · rw [Text.toList_toString_int, if_neg hneg, List.append_nil]
      rfl
    · have hsigned := Text.Signed.bare i.natAbs
      rwa [show (i.natAbs : Int) = i by omega] at hsigned

/-!
## The interval

Cutting a difference off at 64 bits never takes it over the interval, in either direction.
-/

theorem interval_lt_saturate_iff (i : Int) :
    interval < saturate i <-> interval < i := by
  have hleast : leastTime = -9223372036854775808 := rfl
  have hmost : mostTime = 9223372036854775807 := rfl
  simp only [interval, saturate, hleast, hmost]
  omega

/-- A stored text lets the panel be due by the number that it begins with, without any cut. -/
theorem isDue_some_iff (now : Int) (text : String) :
    Panel.isDue now (some text) = true <->
      exists i, leadingTime? text = some i ∧ interval < now - i := by
  cases htime : leadingTime? text with
  | none =>
      simp [Panel.isDue, htime]
  | some i =>
      simp [Panel.isDue, htime, interval_lt_saturate_iff]

theorem isDue_toString {c : Int} (hc : IsTime c) (now : Int) :
    Panel.isDue now (some (toString c)) = decide (interval < now - c) := by
  apply Bool.eq_iff_iff.mpr
  rw [isDue_some_iff, leadingTime?_toString hc, decide_eq_true_iff]
  simp

namespace Panel

theorem shouldShow_of_stored {panel : Panel} {stored : Option String}
    (hdismissed : panel.isDismissed = .ok false)
    (hstored : panel.store.get lastShownKey = .ok stored) (now : Int) :
    panel.shouldShow now = .ok (isDue now stored) := by
  simp [shouldShow, hdismissed, hstored, bind, Except.bind, pure, Except.pure]

/--
A stored text is read as a time exactly when it begins with the number, behind blanks and a sign or
without them, and the number fits 64 bits; every time is so read back from its text. A panel that is
not dismissed and has a text stored for its last close always knows whether it is due, and it is due
exactly when the text is read as a time that lies more than seven days back.
-/
theorem stored_time_decides :
    (forall (text : String) (i : Int),
      leadingTime? text = some i <-> BeginsWith text i ∧ IsTime i) ∧
    (forall i, IsTime i -> leadingTime? (toString i) = some i) ∧
    (forall (panel : Panel) (text : String), panel.isDismissed = .ok false ->
      panel.store.get lastShownKey = .ok (some text) ->
        forall now, exists due, panel.shouldShow now = .ok due ∧
          (due = true <->
            exists i, leadingTime? text = some i ∧ 604800000 < now - i)) := by
  refine ⟨fun text i => leadingTime?_eq_some_iff, fun i => leadingTime?_toString, ?_⟩
  intro panel text hdismissed hstored now
  exact ⟨isDue now (some text), shouldShow_of_stored hdismissed hstored now,
    isDue_some_iff now text⟩

def closedLongAgo : Panel where
  store := { values := [(lastShownKey, "\u2003-9223372036854775808.5 \u0661")] }

/-- The latest time of the calendar lies further from that close than 64 bits reach. -/
theorem stored_time_decides_far_apart :
    IsTime leastTime ∧ leadingTime? (toString leastTime) = some leastTime ∧
      closedLongAgo.isDismissed = .ok false ∧
      closedLongAgo.store.get lastShownKey =
        .ok (some "\u2003-9223372036854775808.5 \u0661") ∧
      BeginsWith "\u2003-9223372036854775808.5 \u0661" leastTime ∧
      mostTime < 8210266876799999 - leastTime ∧
      closedLongAgo.shouldShow 8210266876799999 = .ok true := by
  have hleast : IsTime leastTime := by
    constructor <;> decide
  have htime : leadingTime? "\u2003-9223372036854775808.5 \u0661" = some leastTime := by
    decide +kernel
  rcases stored_time_decides with ⟨hread, htext, hshow⟩
  rcases hshow closedLongAgo _ rfl rfl 8210266876799999 with ⟨due, hdue, hiff⟩
  have htrue : due = true := hiff.mpr ⟨leastTime, htime, by decide⟩
  rw [htrue] at hdue
  exact ⟨hleast, htext leastTime hleast, rfl, rfl, ((hread _ _).mp htime).left, by decide, hdue⟩

end Panel
end Tips
end AgentFiles
