import AgentFiles.Text.Lowercase

/-!
# Lower case

The small letters of a text are small letters already, so a text is put into lower case
once and for all. A small letter is never a point or a slash, and outside of the Latin
alphabet only two characters have a small letter inside of it: the dotted capital I and
the Kelvin sign.

What a capital sigma becomes depends on whether it ends a word. Every way to write a text
in lower case, with either of the two small sigmas for each capital one, is related to the
text here, and the small letters of such a text are its own letters.
-/

namespace AgentFiles
namespace Text

/-!
## The table of capital letters
-/

abbrev CapitalRun := Nat × Nat × Nat × Int

def smallEnds (run : CapitalRun) : Nat × Nat :=
  ((run.1 + run.2.2.2).toNat, (run.2.1 + run.2.2.2).toNat)

/-- No small letter of the first run is a capital letter of the second. Where the code
points of the two runs overlap, small and capital letters take turns. -/
def apart (run other : CapitalRun) : Bool :=
  Nat.blt (smallEnds run).2 other.1 || Nat.blt other.2.1 (smallEnds run).1 ||
    ((run.2.2.1 == 2 || run.1 == run.2.1) && other.2.2.1 == 2 &&
      ((smallEnds run).1 + other.1) % 2 == 1)

def latin : CapitalRun := (0x41, 0x5A, 1, 32)

/-- The run of the Kelvin sign, whose small letter is the small k. -/
def kelvin : CapitalRun := (0x212A, 0x212A, 1, -8383)

/-- The small letters of a run are characters from the small a on, without the dotted
capital I, and only two runs have theirs in ASCII. -/
def Placed (run : CapitalRun) : Prop :=
  97 ≤ (smallEnds run).1 ∧
    ((smallEnds run).2 < 0x130 ∨ 0x130 < (smallEnds run).1) ∧
    ((smallEnds run).2 < 0xD800 ∨
      (0xDFFF < (smallEnds run).1 ∧ (smallEnds run).2 < 0x110000)) ∧
    (128 ≤ (smallEnds run).1 ∨ run = latin ∨ run = kelvin)

instance (run : CapitalRun) : Decidable (Placed run) :=
  inferInstanceAs (Decidable (_ ∧ _))

theorem apart_capitalRuns :
    (capitalRuns.all fun run => capitalRuns.all (apart run)) = true := by
  decide +kernel

theorem placed_of_mem_capitalRuns :
    forall run, run ∈ capitalRuns -> Placed run := by
  decide +kernel

section Runs

variable {run other : CapitalRun} {n : Nat}

theorem inRun_iff :
    inRun n run = true <-> run.1 ≤ n ∧ n ≤ run.2.1 ∧ (n - run.1) % run.2.2.1 = 0 := by
  simp [inRun, and_assoc]

theorem smallEnds_le (hn : inRun n run = true) :
    (smallEnds run).1 ≤ (n + run.2.2.2).toNat ∧
      (n + run.2.2.2).toNat ≤ (smallEnds run).2 := by
  rcases inRun_iff.mp hn with ⟨hfirst, hlast, _⟩
  simp only [smallEnds]
  omega

theorem inRun_of_apart (hrun : Placed run) (hn : inRun n run = true)
    (hapart : apart run other = true) : inRun (n + run.2.2.2).toNat other = false := by
  rcases smallEnds_le hn with ⟨hfirst, hlast⟩
  rcases inRun_iff.mp hn with ⟨hlow, hhigh, hstep⟩
  have hsmall := hrun.left
  apply Bool.eq_false_iff.mpr
  intro hother
  rcases inRun_iff.mp hother with ⟨hlow', hhigh', hstep'⟩
  simp only [apart, Bool.or_eq_true, Bool.and_eq_true, beq_iff_eq, Nat.blt_eq] at hapart
  rcases hapart with (hbelow | habove) | ⟨⟨hsteps, htwo⟩, hparity⟩
  · omega
  · omega
  · -- The two numbers lie in one range, but one of them is odd and the other one is not.
    rw [htwo] at hstep'
    simp only [smallEnds] at hparity hsmall hfirst
    rcases hsteps with hsteps | hsingle
    · rw [hsteps] at hstep
      omega
    · omega

theorem find?_small (hrun : run ∈ capitalRuns) (hn : inRun n run = true) :
    capitalRuns.find? (inRun (n + run.2.2.2).toNat) = none := by
  rw [List.find?_eq_none]
  intro other hother
  have hall := List.all_eq_true.mp apart_capitalRuns run hrun
  have hapart := List.all_eq_true.mp hall other hother
  simp [inRun_of_apart (placed_of_mem_capitalRuns run hrun) hn hapart]

theorem toNat_small (hrun : run ∈ capitalRuns) (hn : inRun n run = true) :
    (Char.ofNat (n + run.2.2.2).toNat).toNat = (n + run.2.2.2).toNat := by
  rcases placed_of_mem_capitalRuns run hrun with ⟨_, _, hplaced, _⟩
  rcases smallEnds_le hn with ⟨hfirst, hlast⟩
  have hvalid : (n + run.2.2.2).toNat.isValidChar := by
    simp only [Nat.isValidChar]
    omega
  rw [Char.ofNat, dif_pos hvalid]
  rfl

end Runs

/-!
## Small letters of one character
-/

theorem lowerChar_cases (c : Char) :
    (c.toNat = 0x130 ∧ lowerChar c = ['i', Char.ofNat 0x307]) ∨
    (exists run, run ∈ capitalRuns ∧ inRun c.toNat run = true ∧
      lowerChar c = [Char.ofNat (c.toNat + run.2.2.2).toNat]) ∨
    (capitalRuns.find? (inRun c.toNat) = none ∧ lowerChar c = [c]) := by
  by_cases hdotted : c.toNat = 0x130
  · exact Or.inl ⟨hdotted, by rw [lowerChar, if_pos hdotted]⟩
  · apply Or.inr
    cases hfind : capitalRuns.find? (inRun c.toNat) with
    | none =>
        exact Or.inr ⟨rfl, by rw [lowerChar, if_neg hdotted, hfind]⟩
    | some run =>
        exact Or.inl ⟨run, List.mem_of_find?_eq_some hfind,
          by simpa using List.find?_some hfind,
          by rw [lowerChar, if_neg hdotted, hfind]⟩

theorem mem_dotted {d : Char} (hd : d ∈ ['i', Char.ofNat 0x307]) :
    lowerChar d = [d] ∧ 97 ≤ d.toNat := by
  rw [List.mem_cons, List.mem_singleton] at hd
  rcases hd with rfl | rfl
  · decide
  · decide

theorem lowerChar_of_mem {c d : Char} (hd : d ∈ lowerChar c) : lowerChar d = [d] := by
  rcases lowerChar_cases c with ⟨_, hc⟩ | ⟨run, hrun, hn, hc⟩ | ⟨hfind, hc⟩
  · rw [hc] at hd
    exact (mem_dotted hd).left
  · rw [hc, List.mem_singleton] at hd
    rcases placed_of_mem_capitalRuns run hrun with ⟨_, hdotted, _, _⟩
    rcases smallEnds_le hn with ⟨hfirst, hlast⟩
    have hne : d.toNat ≠ 0x130 := by
      rw [hd, toNat_small hrun hn]
      omega
    have hfind : capitalRuns.find? (inRun d.toNat) = none := by
      rw [hd, toNat_small hrun hn, find?_small hrun hn]
    rw [lowerChar, if_neg hne, hfind]
  · rw [hc, List.mem_singleton] at hd
    rw [hd, hc]

/-- Only letters are small letters of other characters. -/
theorem eq_or_letter_of_mem_lowerChar {c d : Char} (hd : d ∈ lowerChar c) :
    d = c ∨ 97 ≤ d.toNat := by
  rcases lowerChar_cases c with ⟨_, hc⟩ | ⟨run, hrun, hn, hc⟩ | ⟨_, hc⟩
  · rw [hc] at hd
    exact Or.inr (mem_dotted hd).right
  · rw [hc, List.mem_singleton] at hd
    apply Or.inr
    rw [hd, toNat_small hrun hn]
    exact Nat.le_trans (placed_of_mem_capitalRuns run hrun).left (smallEnds_le hn).left
  · rw [hc, List.mem_singleton] at hd
    exact Or.inl hd

/-!
## Letters of ASCII
-/

theorem inRun_latin_iff (c : Char) :
    inRun c.toNat latin = true <-> c.val ≥ 'A'.val ∧ c.val ≤ 'Z'.val := by
  rw [inRun_iff]
  simp [latin, UInt32.le_iff_toNat_le, Nat.mod_one]

theorem toLower_of_not_latin {c : Char} (hc : inRun c.toNat latin = false) :
    c.toLower = c := by
  have hrange : ¬ (c.val ≥ 'A'.val ∧ c.val ≤ 'Z'.val) := by
    rw [<- inRun_latin_iff, hc]
    exact Bool.false_ne_true
  exact dif_neg hrange

theorem lowerChar_of_latin {c : Char} (hc : inRun c.toNat latin = true) :
    lowerChar c = [c.toLower] := by
  have hbounds : 65 ≤ c.toNat ∧ c.toNat ≤ 90 ∧ _ := inRun_iff.mp hc
  have hfind : capitalRuns.find? (inRun c.toNat) = some latin :=
    List.find?_cons_of_pos hc
  have hval : c.toLower.val = c.val + ('a'.val - 'A'.val) :=
    congrArg Char.val (dif_pos ((inRun_latin_iff c).mp hc))
  have hlower : c.toLower.toNat = c.toNat + 32 := by
    rw [<- Char.toNat_val, hval]
    simp [UInt32.toNat_add]
    omega
  rw [lowerChar, if_neg (by omega), hfind, <- Char.ofNat_toNat c.toLower, hlower]
  rfl

theorem lowerChar_toLower (c : Char) : lowerChar c.toLower = lowerChar c := by
  cases hc : inRun c.toNat latin with
  | true =>
      have hlower := lowerChar_of_latin hc
      rw [hlower, lowerChar_of_mem (c := c) (by simp [hlower])]
  | false =>
      rw [toLower_of_not_latin hc]

/-- Characters of ASCII that are no small letters of characters outside of it. The small i
belongs to the dotted capital I too, and the small k to the Kelvin sign. -/
def FromAscii (s : List Char) : Prop :=
  forall c, c ∈ s -> c.toNat < 128 ∧ c ≠ 'i' ∧ c ≠ 'k'

-- The characters of the list are looked at, and not all the characters that there are.
instance (s : List Char) : Decidable (FromAscii s) :=
  List.decidableBAll (fun c : Char => c.toNat < 128 ∧ c ≠ 'i' ∧ c ≠ 'k') s

theorem lowerChar_eq_toLower {c : Char} (hc : FromAscii (lowerChar c)) :
    lowerChar c = [c.toLower] := by
  cases hlatin : inRun c.toNat latin with
  | true =>
      exact lowerChar_of_latin hlatin
  | false =>
      rw [toLower_of_not_latin hlatin]
      rcases lowerChar_cases c with ⟨_, hlower⟩ | ⟨run, hrun, hn, hlower⟩ | ⟨_, hlower⟩
      · exact absurd rfl (hc 'i' (by simp [hlower])).right.left
      · rcases hc _ (by rw [hlower]; exact List.mem_singleton_self _) with ⟨hascii, _, hk⟩
        rw [toNat_small hrun hn] at hascii
        rcases (placed_of_mem_capitalRuns run hrun).right.right.right with
          hbeyond | rfl | rfl
        · have hfirst := (smallEnds_le hn).left
          omega
        · rw [hlatin] at hn
          cases hn
        · have hsign : c.toNat = 0x212A := by
            have hbounds := inRun_iff.mp hn
            simp only [kelvin] at hbounds
            omega
          rw [hsign] at hk
          exact absurd rfl hk
      · exact hlower

/-!
## Texts
-/

theorem lowercase_append (s t : List Char) :
    lowercase (s ++ t) = lowercase s ++ lowercase t :=
  List.flatMap_append

theorem lowercase_eq_self {s : List Char} (hs : forall c, c ∈ s -> lowerChar c = [c]) :
    lowercase s = s := by
  induction s with
  | nil =>
      rfl
  | cons c rest ih =>
      have hrest := ih fun d hd => hs d (List.mem_cons_of_mem c hd)
      rw [lowercase] at hrest
      rw [lowercase, List.flatMap_cons, hs c List.mem_cons_self, hrest]
      rfl

theorem lowercase_map_toLower (s : List Char) :
    lowercase (s.map Char.toLower) = lowercase s := by
  have hchars : (fun c => lowerChar (Char.toLower c)) = lowerChar :=
    funext lowerChar_toLower
  rw [lowercase, lowercase, List.flatMap_map, hchars]

/-- A text without an i and a k is in ASCII if its lower case is. -/
theorem map_toLower_of_lowercase {s t : List Char} (ht : FromAscii t)
    (hs : lowercase s = t) : s.map Char.toLower = t := by
  induction s generalizing t with
  | nil =>
      exact hs
  | cons c rest ih =>
      rw [lowercase, List.flatMap_cons] at hs
      subst hs
      have hc := lowerChar_eq_toLower fun d hd => ht d (List.mem_append_left _ hd)
      have hrest := ih (fun d hd => ht d (List.mem_append_right _ hd)) rfl
      rw [List.map_cons, hc, hrest]
      rfl

theorem mem_lowercase_iff {mark : Char} (hmark : lowerChar mark = [mark])
    (hlow : mark.toNat < 97) (s : List Char) : mark ∈ lowercase s <-> mark ∈ s := by
  rw [lowercase, List.mem_flatMap]
  constructor
  · intro h
    rcases h with ⟨c, hc, hmem⟩
    rcases eq_or_letter_of_mem_lowerChar hmem with rfl | hletter
    · exact hc
    · omega
  · intro hmem
    exact ⟨mark, hmem, by rw [hmark]; exact List.mem_singleton_self mark⟩

/-- Where the lower case of a text is cut at a character that is no letter, the text is. -/
theorem split_of_lowercase {mark : Char} (hmark : lowerChar mark = [mark])
    (hlow : mark.toNat < 97) {s front back : List Char}
    (hs : lowercase s = front ++ mark :: back) :
    exists front' back', s = front' ++ mark :: back' ∧
      lowercase front' = front ∧ lowercase back' = back := by
  induction s generalizing front with
  | nil =>
      cases front <;>
        cases hs
  | cons c rest ih =>
      rw [lowercase, List.flatMap_cons] at hs
      -- The cut is behind the first character's small letters, or it is one of them.
      rcases List.append_eq_append_iff.mp hs with ⟨others, hfront, hrest⟩ | ⟨others, hc, hback⟩
      · rcases ih hrest with ⟨front', back', rfl, hfront', hback'⟩
        refine ⟨c :: front', back', rfl, ?_, hback'⟩
        rw [hfront, <- hfront', lowercase, lowercase, List.flatMap_cons]
      · cases others with
        | nil =>
            have hrest : lowercase rest = [] ++ mark :: back := hback.symm
            rcases ih hrest with ⟨front', back', rfl, hfront', hback'⟩
            refine ⟨c :: front', back', rfl, ?_, hback'⟩
            rw [lowercase] at hfront'
            rw [lowercase, List.flatMap_cons, hfront', hc, List.append_nil, List.append_nil]
        | cons d others =>
            cases hback
            have hmem : mark ∈ lowerChar c := by
              simp [hc]
            rcases eq_or_letter_of_mem_lowerChar hmem with rfl | hletter
            · rw [hmark] at hc
              rcases List.singleton_eq_append_iff.mp hc with ⟨rfl, h⟩ | ⟨_, h⟩
              · cases h
                exact ⟨[], rest, rfl, rfl, rfl⟩
              · cases h
            · omega

/-!
## Sigmas
-/

def capitalSigma : Char := Char.ofNat 0x3A3

def smallSigma : Char := Char.ofNat 0x3C3

def finalSigma : Char := Char.ofNat 0x3C2

/-- The second text is the first one in lower case, in one of the ways to write sigmas. -/
inductive Lowered : List Char -> List Char -> Prop where
  | nil : Lowered [] []
  | char (c : Char) {s t : List Char} (h : Lowered s t) : Lowered (c :: s) (lowerChar c ++ t)
  | final {s t : List Char} (h : Lowered s t) :
      Lowered (capitalSigma :: s) (finalSigma :: t)

theorem lowered_lowercase (s : List Char) : Lowered s (lowercase s) := by
  induction s with
  | nil =>
      exact .nil
  | cons c rest ih =>
      exact .char c ih

theorem Lowered.lowercase_eq {s t : List Char} (h : Lowered s t) : lowercase t = t := by
  apply lowercase_eq_self
  induction h with
  | nil =>
      simp
  | char c _ ih =>
      intro d hd
      rcases List.mem_append.mp hd with hchar | hrest
      · exact lowerChar_of_mem hchar
      · exact ih d hrest
  | final _ ih =>
      intro d hd
      rcases List.mem_cons.mp hd with rfl | hrest
      · decide
      · exact ih d hrest

def plainSigma (c : Char) : Char :=
  if c = finalSigma then smallSigma else c

theorem Lowered.map_plainSigma {s t : List Char} (h : Lowered s t) :
    t.map plainSigma = (lowercase s).map plainSigma := by
  induction h with
  | nil =>
      rfl
  | char c _ ih =>
      rw [List.map_append, ih, lowercase, lowercase, List.flatMap_cons, List.map_append]
  | final _ ih =>
      rw [List.map_cons, ih]
      rfl

end Text
end AgentFiles
