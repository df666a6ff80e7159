import AgentFiles.Json.Printer
import AgentFiles.Proofs.Json.Shows
import AgentFiles.Proofs.Text.Decimal

/-!
# Printed tokens are read back

A printed string is read as the string and a printed integer of 64 bits as the
integer, and reading goes on behind the token. A string ends by itself; a number
ends where nothing follows that could belong to it.
-/

namespace AgentFiles
namespace Json

/-!
## Sources
-/

namespace Source

variable {s : Source} {c : Char} {rest : List Char}

theorem rest_next (hs : s.rest = c :: rest) : s.next.rest = rest := by
  rw [next, hs]

theorem rest_after {run : List Char} (hs : s.rest = run ++ rest) :
    (s.after run).rest = rest := by
  simp [after, hs]

theorem startsWith_of_head (hs : s.rest = c :: rest) (d : Char) :
    s.startsWith d = (c == d) := by
  rw [startsWith, hs]
  rfl

theorem skipBlanks_of_head (hs : s.rest = c :: rest)
    (hc : isBlank c = false) : s.skipBlanks = s := by
  have hrun : s.rest.takeWhile isBlank = [] := by
    rw [hs]
    exact List.takeWhile_cons_of_neg (by simp [hc])
  rw [skipBlanks, hrun]
  rfl

end Source

/-!
## Strings

A character is printed with a short escape, with an escape by its number, or as
it is, and the reader takes it back in one step in each of these cases.
-/

section Strings

variable {s : Source} {c : Char} {rest : List Char}

def shortEscaped : List Char :=
  ['\x22', '\\', '\x08', '\x0c', '\n', '\r', '\t']

theorem escapedChar_of_short (hshort : c ∈ shortEscaped) :
    exists d, escapedChar c = ['\\', d] ∧ d ≠ 'u' ∧ shortEscape? d = some c := by
  simp only [shortEscaped, List.mem_cons, List.not_mem_nil, or_false] at hshort
  rcases hshort with rfl | rfl | rfl | rfl | rfl | rfl | rfl <;>
    exact ⟨_, rfl, by decide, rfl⟩

theorem escapedChar_of_control (hshort : c ∉ shortEscaped)
    (hcontrol : c.toNat < 0x20) :
    escapedChar c =
      ['\\', 'u', '0', '0', hexDigit (c.toNat / 16), hexDigit (c.toNat % 16)] := by
  simp only [shortEscaped, List.mem_cons, not_or] at hshort
  simp [escapedChar, hshort, hcontrol]

theorem escapedChar_of_plain (hshort : c ∉ shortEscaped)
    (hcontrol : ¬ c.toNat < 0x20) : escapedChar c = [c] := by
  simp only [shortEscaped, List.mem_cons, not_or] at hshort
  simp [escapedChar, hshort, hcontrol]

theorem escapedChar_ne_nil (c : Char) : escapedChar c ≠ [] := by
  unfold escapedChar
  repeat' split
  all_goals simp

theorem hexValue?_hexDigit {n : Nat} (hn : n < 16) :
    Text.hexValue? (hexDigit n) = some n := by
  revert n
  decide

theorem utf8Size_hexDigit {n : Nat} (hn : n < 16) : (hexDigit n).utf8Size = 1 := by
  revert n
  decide

theorem hexFour_control {n : Nat} (hn : n < 0x20)
    (hs : s.rest = '0' :: '0' :: hexDigit (n / 16) :: hexDigit (n % 16) :: rest) :
    exists after, hexFour s = .ok (n, after) ∧ after.rest = rest := by
  have hhigh : n / 16 < 16 := by omega
  have hlow : n % 16 < 16 := by omega
  have htake :
      s.rest.take 4 = ['0', '0', hexDigit (n / 16), hexDigit (n % 16)] := by
    rw [hs]
    rfl
  have hzero : Text.hexValue? '0' = some 0 := rfl
  have hone : '0'.utf8Size = 1 := rfl
  have hwidth : Source.width (s.rest.take 4) = 4 := by
    rw [htake]
    simp [Source.width, hone, utf8Size_hexDigit hhigh, utf8Size_hexDigit hlow]
  have hvalue : Text.natOf? 16 (s.rest.take 4) = some n := by
    rw [htake]
    simp [Text.natOf?, hzero, hexValue?_hexDigit hhigh, hexValue?_hexDigit hlow, hhigh, hlow]
    omega
  exists s.after (s.rest.take 4)
  constructor
  · rw [hexFour, if_neg (by omega), hvalue]
  · apply Source.rest_after
    rw [htake, hs]
    rfl

theorem escaped_control (hcontrol : c.toNat < 0x20) (s : Source) :
    escaped c.toNat s = .ok (.ok c, s) := by
  have hlow : isLowSurrogate c.toNat = false := by
    simp [isLowSurrogate]
    omega
  have hhigh : isHighSurrogate c.toNat = false := by
    simp [isHighSurrogate]
    omega
  simp [escaped, hlow, hhigh]

/-- One step of the reader takes back a printed character. -/
theorem readString_escapedChar (fuel : Nat) (content : Except Fault (List Char))
    (hs : s.rest = escapedChar c ++ rest) :
    exists after,
      readString (fuel + 1) s content =
        readString fuel after (content.map (c :: ·)) ∧
      after.rest = rest := by
  by_cases hshort : c ∈ shortEscaped
  · rcases escapedChar_of_short hshort with ⟨d, htext, hd, hescape⟩
    rw [htext] at hs
    exists s.next.next
    constructor
    · rw [readString.eq_6 s content fuel d hd rest hs, hescape]
    · exact Source.rest_next (Source.rest_next hs)
  · by_cases hcontrol : c.toNat < 0x20
    · rw [escapedChar_of_control hshort hcontrol] at hs
      rcases hexFour_control hcontrol (Source.rest_next (Source.rest_next hs)) with
        ⟨after, hfour, hafter⟩
      exists after
      constructor
      · rw [readString.eq_5 s content fuel _ hs, hfour]
        simp only [escaped_control hcontrol]
      · exact hafter
    · rw [escapedChar_of_plain hshort hcontrol] at hs
      simp only [shortEscaped, List.mem_cons, not_or] at hshort
      exists s.next
      constructor
      · rw [readString.eq_7 s content fuel c hshort.1 rest
          (fun h _ => hshort.2.1 h) (fun _ h _ => hshort.2.1 h)
          (fun _ _ h _ => hshort.2.1 h) hs, if_neg hcontrol]
      · exact Source.rest_next hs

theorem readString_escaped (text : List Char) {fuel : Nat} {before : List Char}
    (hfuel : text.length < fuel)
    (hs : s.rest = text.flatMap escapedChar ++ '\x22' :: rest) :
    exists after,
      readString fuel s (.ok before) =
        .closed (.ok (String.ofList (before.reverse ++ text))) after ∧
      after.rest = rest := by
  induction text generalizing fuel s before with
  | nil =>
      cases fuel with
      | zero =>
          cases hfuel
      | succ fuel =>
          exists s.next
          constructor
          · rw [readString.eq_3 s _ fuel rest hs, List.append_nil]
            rfl
          · exact Source.rest_next hs
  | cons c text ih =>
      cases fuel with
      | zero =>
          cases hfuel
      | succ fuel =>
          rw [List.flatMap_cons, List.append_assoc] at hs
          rcases readString_escapedChar fuel (.ok before) hs with
            ⟨middle, hstep, hmiddle⟩
          have hlength : text.length < fuel := Nat.lt_of_succ_lt_succ hfuel
          rcases ih hlength hmiddle with ⟨after, hread, hafter⟩
          exists after
          constructor
          · rw [hstep, Except.map, hread]
            simp
          · exact hafter

theorem length_le_escaped (text : List Char) :
    text.length ≤ (text.flatMap escapedChar).length := by
  induction text with
  | nil =>
      exact Nat.le_refl 0
  | cons c text ih =>
      have hpositive := List.length_pos_iff.mpr (escapedChar_ne_nil c)
      rw [List.flatMap_cons, List.length_append, List.length_cons]
      omega

theorem stringAt_stringText (text : String)
    (hs : s.rest = stringText text ++ rest) :
    exists after, stringAt s = .closed (.ok text) after ∧ after.rest = rest := by
  have hinside :
      s.next.rest = text.toList.flatMap escapedChar ++ '\x22' :: rest := by
    apply Source.rest_next (c := '\x22')
    simpa [stringText] using hs
  have hfuel : text.toList.length < s.rest.length + 1 := by
    have hlength := length_le_escaped text.toList
    rw [hs, stringText]
    simp only [List.length_append, List.length_cons]
    omega
  rcases readString_escaped text.toList hfuel hinside with ⟨after, hread, hafter⟩
  exists after
  constructor
  · rw [stringAt, hread]
    simp
  · exact hafter

end Strings

/-!
## Numbers
-/

section Numbers

variable {s : Source} {rest : List Char}

/-- A number that stands before the text ends there. -/
def EndsNumber (rest : List Char) : Prop :=
  forall c, rest.head? = some c ->
    Text.isDigit c = false ∧ c ≠ '.' ∧ c ≠ 'e' ∧ c ≠ 'E'

theorem endsNumber_nil : EndsNumber [] := by
  intro c hc
  cases hc

theorem endsNumber_cons {c : Char} (hc : c ∈ [',', ']', '\x7d'])
    (rest : List Char) : EndsNumber (c :: rest) := by
  intro d hd
  injection hd with hd
  subst hd
  simp only [List.mem_cons, List.not_mem_nil, or_false] at hc
  rcases hc with rfl | rfl | rfl <;>
    decide

theorem startsWith_of_endsNumber (hrest : EndsNumber s.rest) :
    s.startsWith '.' = false ∧
      (s.startsWith 'e' || s.startsWith 'E') = false := by
  cases htext : s.rest with
  | nil =>
      simp [Source.startsWith, htext]
  | cons c rest =>
      have hc := hrest c (by rw [htext]; rfl)
      simp [Source.startsWith, htext, hc]

theorem someDigits_toDigits {n : Nat} (place : Nat)
    (hs : s.rest = Nat.toDigits 10 n ++ rest) (hrest : EndsNumber rest) :
    someDigits s place =
      .ok (Nat.toDigits 10 n, s.after (Nat.toDigits 10 n)) := by
  have hrun : s.rest.takeWhile Text.isDigit = Nat.toDigits 10 n := by
    rw [hs]
    exact Text.takeWhile_isDigit_append
      (fun c hc => Text.isDigit_of_mem_toDigits hc) (fun c hc => (hrest c hc).1)
  have hsome : (Nat.toDigits 10 n).isEmpty = false := by
    simp [Nat.toDigits_ne_nil]
  simp [someDigits, hrun, hsome]

def integerLexeme (i : Int) : Lexeme :=
  ⟨decide (i < 0), Nat.toDigits 10 i.natAbs, [], none⟩

theorem value_integerLexeme {i : Int} (hfits : (Number.integer i).Fits) :
    (integerLexeme i).value = .ok (.integer i) := by
  rcases hfits with ⟨hlow, hhigh⟩
  have hword : i.natAbs < Lexeme.wordLimit := by
    simp only [Lexeme.wordLimit]
    have hbounds : Nat.pow 2 63 < Nat.pow 2 64 := by decide
    omega
  simp only [Lexeme.value, integerLexeme, Text.natOf_toDigits]
  rw [if_pos (by simp [hword])]
  by_cases hnegative : i < 0
  · have hsmall : i.natAbs ≠ 0 ∧ i.natAbs ≤ Nat.pow 2 63 := by omega
    rw [if_neg (by simp [hnegative]), if_pos (by simpa using hsmall)]
    congr 2
    omega
  · rw [if_pos (by simp [hnegative])]
    congr 2
    omega

theorem ne_of_number {c : Char} (hc : (c == '-' || Text.isDigit c) = true) :
    Source.isBlank c = false ∧ c ≠ ']' ∧ c ≠ 'n' ∧ c ≠ 't' ∧ c ≠ 'f' := by
  refine ⟨?_, ?_, ?_, ?_, ?_⟩
  · cases hblank : Source.isBlank c with
    | false =>
        rfl
    | true =>
        simp only [Source.isBlank, Bool.or_eq_true, beq_iff_eq] at hblank
        rcases hblank with ((rfl | rfl) | rfl) | rfl <;>
          exact absurd hc (by decide)
  all_goals
    intro heq
    subst heq
    exact absurd hc (by decide)

theorem integerText_head (i : Int) :
    exists c text, integerText i = c :: text ∧
      (c == '-') = decide (i < 0) ∧ (c == '-' || Text.isDigit c) = true := by
  by_cases hnegative : i < 0
  · exists '-', Nat.toDigits 10 i.natAbs
    simp [integerText, hnegative]
  · cases hdigits : Nat.toDigits 10 i.natAbs with
    | nil =>
        exact absurd hdigits Nat.toDigits_ne_nil
    | cons c digits =>
        have hc : Text.isDigit c = true :=
          Text.isDigit_of_mem_toDigits (n := i.natAbs) (by simp [hdigits])
        have hne : c ≠ '-' := by
          intro heq
          subst heq
          exact absurd hc (by decide)
        exists c, digits
        simp [integerText, hnegative, hdigits, hc, hne]

theorem readNumber_integerText {i : Int}
    (hs : s.rest = integerText i ++ rest) (hrest : EndsNumber rest) :
    exists after,
      readNumber s = .ok (integerLexeme i, after) ∧ after.rest = rest := by
  have hminus : s.startsWith '-' = decide (i < 0) := by
    rcases integerText_head i with ⟨c, text, htext, hsign, _⟩
    rw [htext] at hs
    rw [Source.startsWith_of_head hs, hsign]
  have hdigits :
      (if s.startsWith '-' then s.next else s).rest =
        Nat.toDigits 10 i.natAbs ++ rest := by
    rw [hminus]
    by_cases hnegative : i < 0
    · rw [if_pos (by simpa using hnegative)]
      apply Source.rest_next (c := '-')
      rw [hs, integerText, if_pos hnegative]
      rfl
    · rw [if_neg (by simpa using hnegative), hs, integerText, if_neg hnegative]
  generalize hbehind : (if s.startsWith '-' then s.next else s) = behind at hdigits
  have hafter : (behind.after (Nat.toDigits 10 i.natAbs)).rest = rest :=
    Source.rest_after hdigits
  have hends := startsWith_of_endsNumber (hafter ▸ hrest)
  have hzero :
      (decide (1 < (Nat.toDigits 10 i.natAbs).length) &&
        (Nat.toDigits 10 i.natAbs).head? == some '0') = false := by
    by_cases hhead : (Nat.toDigits 10 i.natAbs).head? = some '0'
    · simp [Text.length_toDigits_of_head? hhead]
    · simp [hhead]
  exists behind.after (Nat.toDigits 10 i.natAbs)
  constructor
  · simp only [readNumber, hbehind, someDigits_toDigits _ hdigits hrest, bind,
      Except.bind, hzero, hends, pure, Except.pure, Bool.false_eq_true, if_false]
    rw [hminus, integerLexeme]
  · exact hafter

end Numbers

end Json
end AgentFiles
