import AgentFiles.FileName
import AgentFiles.Proofs.Text.Lowercase

/-!
# Names in any case

The kind of a name does not depend on the case of its letters, and for a capital sigma it
does not matter which small sigma is taken. In a Markdown name a word may have any text
around it: the name is then never known as a whole, and the word is found, unless another
one that comes earlier in the order of the kinds is found first.
-/

namespace AgentFiles

/-!
## Looking through a list
-/

section Lists

variable {α : Type} {p q : α -> Bool} {xs : List α}

theorem find?_eq_of_agree (h : forall x, x ∈ xs -> p x = q x) :
    xs.find? p = xs.find? q := by
  induction xs with
  | nil =>
      rfl
  | cons x rest ih =>
      rw [List.find?_cons, List.find?_cons, h x List.mem_cons_self,
        ih fun y hy => h y (List.mem_cons_of_mem x hy)]

/-- In a list in the order of ranks, more matches give a first one of no higher rank. -/
theorem find?_le_of_imp {rank : α -> Nat}
    (hsorted : xs.Pairwise fun x y => rank x ≤ rank y)
    (himp : forall x, p x = true -> q x = true) {a : α} (ha : xs.find? p = some a) :
    exists b, xs.find? q = some b ∧ rank b ≤ rank a := by
  induction xs with
  | nil =>
      cases ha
  | cons x rest ih =>
      rcases List.pairwise_cons.mp hsorted with ⟨hfirst, hrest⟩
      cases hq : q x with
      | true =>
          refine ⟨x, List.find?_cons_of_pos hq, ?_⟩
          rcases List.mem_cons.mp (List.mem_of_find?_eq_some ha) with rfl | hmem
          · exact Nat.le_refl _
          · exact hfirst a hmem
      | false =>
          have hp : ¬ p x = true := by
            intro h
            rw [himp x h] at hq
            cases hq
          rw [List.find?_cons_of_neg hp] at ha
          rw [List.find?_cons_of_neg (by simp [hq])]
          exact ih hrest ha

end Lists

/-!
## Characters of ASCII in a text
-/

namespace Text

def IsAscii (s : List Char) : Prop :=
  forall c, c ∈ s -> c.toNat < 128

instance (s : List Char) : Decidable (IsAscii s) :=
  List.decidableBAll (fun c : Char => c.toNat < 128) s

section Changed

variable {g : Char -> Char} {w : List Char}

/-- The function neither takes a character out of ASCII nor one into it. -/
def KeepsAscii (g : Char -> Char) : Prop :=
  forall c d : Char, d.toNat < 128 -> (g c = d <-> c = d)

theorem map_eq_ascii_iff (hg : KeepsAscii g) (hw : IsAscii w) (s : List Char) :
    s.map g = w <-> s = w := by
  induction s generalizing w with
  | nil =>
      simp
  | cons c rest ih =>
      cases w with
      | nil =>
          simp
      | cons d others =>
          have hd := hw d List.mem_cons_self
          have hothers : IsAscii others := fun e he => hw e (List.mem_cons_of_mem d he)
          rw [List.map_cons, List.cons_eq_cons, List.cons_eq_cons, hg c d hd, ih hothers]

theorem split_of_map_ascii (hg : KeepsAscii g) (hw : IsAscii w) {s front back : List Char}
    (h : s.map g = front ++ w ++ back) :
    exists front' back', s = front' ++ w ++ back' ∧ back'.map g = back := by
  rcases List.map_eq_append_iff.mp h with ⟨start, back', hs, hstart, hback⟩
  rcases List.map_eq_append_iff.mp hstart with ⟨front', w', hstart', _, hw'⟩
  refine ⟨front', back', ?_, hback⟩
  rw [hs, hstart', (map_eq_ascii_iff hg hw w').mp hw']

theorem infix_map_ascii_iff (hg : KeepsAscii g) (hw : IsAscii w) (s : List Char) :
    w <:+: s.map g <-> w <:+: s := by
  constructor
  · intro h
    rcases h with ⟨front, back, h⟩
    rcases split_of_map_ascii hg hw h.symm with ⟨front', back', hs, _⟩
    exact ⟨front', back', hs.symm⟩
  · intro h
    have hmap := h.map g
    rw [(map_eq_ascii_iff hg hw w).mpr rfl] at hmap
    exact hmap

theorem suffix_map_ascii_iff (hg : KeepsAscii g) (hw : IsAscii w) (s : List Char) :
    w <:+ s.map g <-> w <:+ s := by
  constructor
  · intro h
    rcases h with ⟨front, h⟩
    have hsplit : s.map g = front ++ w ++ [] := by
      rw [List.append_nil, h]
    rcases split_of_map_ascii hg hw hsplit with ⟨front', back', hs, hback⟩
    rw [List.map_eq_nil_iff.mp hback, List.append_nil] at hs
    exact ⟨front', hs.symm⟩
  · intro h
    have hmap := h.map g
    rw [(map_eq_ascii_iff hg hw w).mpr rfl] at hmap
    exact hmap

theorem keepsAscii_plainSigma : KeepsAscii plainSigma := by
  intro c d hd
  by_cases hc : c = finalSigma
  · subst hc
    constructor <;>
      intro heq <;>
      subst heq <;>
      exact absurd hd (by decide)
  · rw [plainSigma, if_neg hc]

end Changed

/-- A text that is found across a character it does not have is found on one side of it. -/
theorem infix_append_cons {part s t : List Char} {c : Char} (hc : c ∉ part)
    (h : part <:+: s ++ c :: t) : part <:+: s ∨ part <:+: t := by
  rcases h with ⟨front, back, h⟩
  -- The part ends before the character, or else it begins behind it.
  rcases List.append_eq_append_iff.mp h with ⟨others, rfl, _⟩ | ⟨others, hfront, hback⟩
  · exact Or.inl ⟨front, others, rfl⟩
  · cases others with
    | nil =>
        rw [List.append_nil] at hfront
        exact Or.inl ⟨front, [], by rw [List.append_nil, hfront]⟩
    | cons d others =>
        cases hback
        rcases List.append_eq_append_iff.mp hfront with ⟨inner, _, hpart⟩ | ⟨inner, _, hinner⟩
        · exact absurd (by simp [hpart]) hc
        · cases inner with
          | nil =>
              rw [List.nil_append] at hinner
              exact absurd (by simp [<- hinner]) hc
          | cons e inner =>
              cases hinner
              exact Or.inr ⟨inner, back, rfl⟩

end Text

namespace FileName

/-!
## Kinds of names
-/

theorem kindOf?_cases {name : List Char} {kind : Kind} (h : kindOf? name = some kind) :
    (exists entry, entry ∈ wholeNames ∧ entry.1.toList = name ∧ entry.2 = kind) ∨
    (".md".toList <:+ name ∧
      exists entry, entry ∈ words ∧ entry.1.toList <:+: name ∧ entry.2 = kind) := by
  rw [kindOf?] at h
  split at h
  · rename_i entry hentry
    cases h
    exact Or.inl ⟨entry, List.mem_of_find?_eq_some hentry,
      by simpa using List.find?_some hentry, rfl⟩
  · split at h
    · rename_i hmarkdown
      rcases Option.map_eq_some_iff.mp h with ⟨entry, hentry, hkind⟩
      refine Or.inr ⟨List.isSuffixOf_iff_suffix.mp hmarkdown, entry,
        List.mem_of_find?_eq_some hentry, ?_, hkind⟩
      exact Text.holds_iff_infix.mp (by simpa using List.find?_some hentry)
    · cases h

theorem mem_of_kindOf? {name : List Char} {kind : Kind} (h : kindOf? name = some kind) :
    kind ∈ (wholeNames ++ words).map (·.2) := by
  rw [List.map_append, List.mem_append]
  rcases kindOf?_cases h with ⟨entry, hentry, _, rfl⟩ | ⟨_, entry, hentry, _, rfl⟩
  · exact Or.inl (List.mem_map_of_mem hentry)
  · exact Or.inr (List.mem_map_of_mem hentry)

theorem ne_command_of_detect {fileName : String} {kind : Kind}
    (h : detect fileName = some kind) : kind ≠ .command := by
  intro hcommand
  subst hcommand
  exact absurd (mem_of_kindOf? h) (by decide)

theorem isAscii_of_mem : forall entry, entry ∈ wholeNames ++ words ->
    Text.IsAscii entry.1.toList := by
  decide

theorem kindOf?_map {g : Char -> Char} (hg : Text.KeepsAscii g) (name : List Char) :
    kindOf? (name.map g) = kindOf? name := by
  have hwhole : wholeNames.find? (fun entry => entry.1.toList == name.map g) =
      wholeNames.find? (fun entry => entry.1.toList == name) := by
    apply find?_eq_of_agree
    intro entry hentry
    have hascii := isAscii_of_mem entry (List.mem_append_left words hentry)
    rw [Bool.eq_iff_iff, beq_iff_eq, beq_iff_eq, eq_comm,
      Text.map_eq_ascii_iff hg hascii, eq_comm]
  have hwords : words.find? (fun entry => Text.holds entry.1.toList (name.map g)) =
      words.find? (fun entry => Text.holds entry.1.toList name) := by
    apply find?_eq_of_agree
    intro entry hentry
    have hascii := isAscii_of_mem entry (List.mem_append_right wholeNames hentry)
    rw [Bool.eq_iff_iff, Text.holds_iff_infix, Text.holds_iff_infix,
      Text.infix_map_ascii_iff hg hascii]
  have hsuffix : ".md".toList.isSuffixOf (name.map g) = ".md".toList.isSuffixOf name := by
    rw [Bool.eq_iff_iff, List.isSuffixOf_iff_suffix, List.isSuffixOf_iff_suffix,
      Text.suffix_map_ascii_iff hg (by decide)]
  rw [kindOf?, kindOf?, hwhole, hwords, hsuffix]

theorem kindOf?_of_lowered {name : String} {t : List Char}
    (h : Text.Lowered name.toList t) : kindOf? t = detect name := by
  rw [detect, <- kindOf?_map Text.keepsAscii_plainSigma t, h.map_plainSigma,
    kindOf?_map Text.keepsAscii_plainSigma]

theorem detect_of_lowered {name lower : String}
    (h : Text.Lowered name.toList lower.toList) : detect lower = detect name := by
  rw [detect, h.lowercase_eq, kindOf?_of_lowered h]

theorem detect_of_same_letters {a b : String}
    (h : a.toList.map Char.toLower = b.toList.map Char.toLower) : detect a = detect b := by
  rw [detect, <- Text.lowercase_map_toLower, h, Text.lowercase_map_toLower, <- detect]

/-!
## Words in Markdown names
-/

theorem eq_claude_of_mem : forall entry, entry ∈ wholeNames ->
    ".md".toList <:+ entry.1.toList -> entry.1.toList = "claude".toList ++ ".md".toList := by
  decide

theorem find?_wholeNames {stem : List Char} (hstem : stem ≠ "claude".toList) :
    wholeNames.find? (fun entry => entry.1.toList == stem ++ ".md".toList) = none := by
  rw [List.find?_eq_none]
  intro entry hentry hname
  rw [beq_iff_eq] at hname
  have hclaude := eq_claude_of_mem entry hentry ⟨stem, hname.symm⟩
  exact hstem (List.append_cancel_right (hname.symm.trans hclaude))

theorem word_apart : forall entry, entry ∈ words ->
    '.' ∉ entry.1.toList ∧ ¬ entry.1.toList <:+: "md".toList := by
  decide

theorem holds_markdown {entry : String × Kind} (hentry : entry ∈ words) (stem : List Char) :
    Text.holds entry.1.toList (stem ++ ".md".toList) = Text.holds entry.1.toList stem := by
  rcases word_apart entry hentry with ⟨hpoint, hmd⟩
  rw [Bool.eq_iff_iff, Text.holds_iff_infix, Text.holds_iff_infix]
  constructor
  · intro h
    rcases Text.infix_append_cons (t := "md".toList) hpoint h with hstem | hextension
    · exact hstem
    · exact absurd hextension hmd
  · intro h
    exact h.trans (List.prefix_append stem _).isInfix

def wordKind? (stem : List Char) : Option Kind :=
  (words.find? fun entry => Text.holds entry.1.toList stem).map (·.2)

/-- One Markdown name is known as a whole, and of any other the stem is looked at. -/
theorem kindOf?_markdown (stem : List Char) :
    kindOf? (stem ++ ".md".toList) =
      if stem = "claude".toList then some .memory else wordKind? stem := by
  by_cases hstem : stem = "claude".toList
  · rw [if_pos hstem, hstem]
    decide
  · have hmarkdown : ".md".toList.isSuffixOf (stem ++ ".md".toList) = true :=
      List.isSuffixOf_iff_suffix.mpr (List.suffix_append stem _)
    rw [if_neg hstem, kindOf?, find?_wholeNames hstem]
    simp only [hmarkdown, if_true, wordKind?]
    rw [find?_eq_of_agree fun entry hentry => holds_markdown hentry stem]

theorem detect_markdown (stem : String) :
    detect (stem ++ ".md") =
      if Text.lowercase stem.toList = "claude".toList then some .memory
      else wordKind? (Text.lowercase stem.toList) := by
  have hextension : Text.lowercase ".md".toList = ".md".toList := by
    decide
  rw [detect, String.toList_append, Text.lowercase_append, hextension, kindOf?_markdown]

def wordKinds : List Kind :=
  [.agent, .skill, .hook, .outputStyle]

theorem words_in_order :
    words.Pairwise fun x y => wordKinds.idxOf x.2 ≤ wordKinds.idxOf y.2 := by
  decide

theorem mem_wordKinds : forall entry, entry ∈ words -> entry.2 ∈ wordKinds := by
  decide

/-- A text around a text with a word in it has that word or one that counts more. -/
theorem wordKind?_of_infix {s t : List Char} (hst : s <:+: t) {kind : Kind}
    (h : wordKind? s = some kind) :
    exists kind', wordKind? t = some kind' ∧ kind' ∈ wordKinds ∧
      wordKinds.idxOf kind' ≤ wordKinds.idxOf kind := by
  rcases Option.map_eq_some_iff.mp h with ⟨entry, hentry, rfl⟩
  have himp : forall entry : String × Kind,
      Text.holds entry.1.toList s = true -> Text.holds entry.1.toList t = true := by
    intro entry hs
    rw [Text.holds_iff_infix] at hs ⊢
    exact hs.trans hst
  rcases find?_le_of_imp words_in_order himp hentry with ⟨first, hfirst, hle⟩
  refine ⟨first.2, ?_, mem_wordKinds first (List.mem_of_find?_eq_some hfirst), hle⟩
  rw [wordKind?, hfirst]
  rfl

theorem wordKind?_claude : wordKind? "claude".toList = none := by
  decide

theorem wordKind?_of_detect {stem : String} {kind : Kind} (hkind : kind ∈ wordKinds)
    (h : detect (stem ++ ".md") = some kind) :
    wordKind? (Text.lowercase stem.toList) = some kind := by
  rw [detect_markdown] at h
  split at h
  · cases h
    exact absurd hkind (by decide)
  · exact h

theorem detect_around {p s q : String} {kind : Kind} (hkind : kind ∈ wordKinds)
    (h : detect (s ++ ".md") = some kind) :
    exists kind', detect (p ++ s ++ q ++ ".md") = some kind' ∧ kind' ∈ wordKinds ∧
      wordKinds.idxOf kind' ≤ wordKinds.idxOf kind := by
  have hinside :
      Text.lowercase s.toList <:+: Text.lowercase (p ++ s ++ q).toList := by
    rw [String.toList_append, String.toList_append, Text.lowercase_append,
      Text.lowercase_append]
    exact List.infix_append _ _ _
  rcases wordKind?_of_infix hinside (wordKind?_of_detect hkind h) with ⟨kind', hword, hrank⟩
  refine ⟨kind', ?_, hrank⟩
  have hnot : Text.lowercase (p ++ s ++ q).toList ≠ "claude".toList := by
    intro hclaude
    rw [hclaude, wordKind?_claude] at hword
    cases hword
  rw [detect_markdown, if_neg hnot, hword]

/--
The kind of a name is that of its lower case, in every way to write that. Names that differ
in the case of letters of ASCII have one kind. A word is found with any text around it, or
one that counts more, and no name stands for a command.
-/
theorem detection_by_letters_and_words :
    (forall name : String,
      detect (String.ofList (Text.lowercase name.toList)) = detect name) ∧
    (forall name lower : String, Text.Lowered name.toList lower.toList ->
      detect lower = detect name ∧ kindOf? lower.toList = detect name) ∧
    (forall a b : String, a.toList.map Char.toLower = b.toList.map Char.toLower ->
      detect a = detect b) ∧
    (forall (p s q : String) (kind : Kind), kind ∈ wordKinds ->
      detect (s ++ ".md") = some kind ->
        exists kind', detect (p ++ s ++ q ++ ".md") = some kind' ∧ kind' ∈ wordKinds ∧
          wordKinds.idxOf kind' ≤ wordKinds.idxOf kind) ∧
    (forall name : String, detect name ≠ some .command) := by
  refine ⟨?_, ?_, fun a b => detect_of_same_letters, fun p s q kind => detect_around, ?_⟩
  · intro name
    apply detect_of_lowered
    rw [String.toList_ofList]
    exact Text.lowered_lowercase name.toList
  · intro name lower h
    exact ⟨detect_of_lowered h, kindOf?_of_lowered h⟩
  · intro name h
    exact ne_command_of_detect h rfl

theorem lowered_sigma_style :
    Text.Lowered "\u039f\u03a3-Style.MD".toList "\u03bf\u03c2-style.md".toList :=
  .char _ (.final (Text.lowered_lowercase "-Style.MD".toList))

/-- A final sigma, capital letters, and a word behind one that counts less. -/
theorem detection_by_letters_and_words_skill :
    (Text.Lowered "\u039f\u03a3-Style.MD".toList "\u03bf\u03c2-style.md".toList ∧
      detect "\u03bf\u03c2-style.md" = detect "\u039f\u03a3-Style.MD" ∧
      kindOf? "\u03bf\u03c2-style.md".toList = detect "\u039f\u03a3-Style.MD") ∧
    ("CLAUDE.md".toList.map Char.toLower = "Claude.MD".toList.map Char.toLower ∧
      detect "CLAUDE.md" = detect "Claude.MD") ∧
    (Kind.hook ∈ wordKinds ∧ detect ("Hook" ++ ".md") = some .hook ∧
      exists kind', detect ("claude" ++ "Hook" ++ "-skill" ++ ".md") = some kind' ∧
        kind' ∈ wordKinds ∧ wordKinds.idxOf kind' ≤ wordKinds.idxOf Kind.hook) := by
  rcases detection_by_letters_and_words with ⟨_, hlower, hcase, haround, _⟩
  have hletters :
      "CLAUDE.md".toList.map Char.toLower = "Claude.MD".toList.map Char.toLower := by
    decide
  have hmem : Kind.hook ∈ wordKinds := by
    decide
  have hhook : detect ("Hook" ++ ".md") = some .hook := by
    decide
  exact ⟨⟨lowered_sigma_style, hlower _ _ lowered_sigma_style⟩,
    ⟨hletters, hcase _ _ hletters⟩,
    hmem, hhook, haround "claude" "Hook" "-skill" .hook hmem hhook⟩

end FileName
end AgentFiles
