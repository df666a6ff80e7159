import AgentFiles.Proofs.Check.HeaderAndBody
import AgentFiles.Proofs.Outcome

/-!
# Line endings

A carriage return before each line feed is a blank at the end of each line. A fence with
blanks behind it is a fence, and blanks make no other line one, so the header ends where
it did. The verdict is then the same, unless the returns change what the header means.
-/

namespace AgentFiles

/-!
## Texts with a carriage return in each line
-/

namespace Text

def crlf (s : List Char) : List Char :=
  s.flatMap fun c => if c = '\n' then ['\r', '\n'] else [c]

theorem crlf_append (s t : List Char) : crlf (s ++ t) = crlf s ++ crlf t :=
  List.flatMap_append

theorem crlf_feed_cons (s : List Char) : crlf ('\n' :: s) = '\r' :: '\n' :: crlf s :=
  rfl

theorem crlf_cons {c : Char} (hc : c ≠ '\n') (s : List Char) :
    crlf (c :: s) = c :: crlf s := by
  simp [crlf, hc]

theorem crlf_singleton {c : Char} (hc : c ≠ '\n') : crlf [c] = [c] :=
  crlf_cons hc []

theorem crlf_eq_self {s : List Char} (hs : '\n' ∉ s) : crlf s = s := by
  induction s with
  | nil =>
      rfl
  | cons c rest ih =>
      have hc : c ≠ '\n' := fun h => hs (h ▸ List.mem_cons_self)
      rw [crlf_cons hc, ih fun h => hs (List.mem_cons_of_mem _ h)]

theorem allBlank_crlf (s : List Char) : allBlank (crlf s) = allBlank s := by
  induction s with
  | nil =>
      rfl
  | cons c rest ih =>
      by_cases hc : c = '\n'
      · subst hc
        rw [crlf_feed_cons]
        simpa [allBlank, isBlank] using ih
      · rw [crlf_cons hc, allBlank, List.all_cons, allBlank, List.all_cons]
        rw [allBlank, allBlank] at ih
        rw [ih]

theorem ne_feed_of_not_blank {c : Char} (hc : isBlank c = false) : c ≠ '\n' := by
  rintro rfl
  revert hc
  decide

theorem trimStart_crlf (s : List Char) : trimStart (crlf s) = crlf (trimStart s) := by
  induction s with
  | nil =>
      rfl
  | cons c rest ih =>
      cases hc : isBlank c with
      | false =>
          rw [crlf_cons (ne_feed_of_not_blank hc), trimStart, trimStart,
            List.dropWhile_cons_of_neg (by simp [hc]),
            List.dropWhile_cons_of_neg (by simp [hc]),
            crlf_cons (ne_feed_of_not_blank hc)]
      | true =>
          have hrest : trimStart (c :: rest) = trimStart rest :=
            List.dropWhile_cons_of_pos hc
          rw [hrest, <- ih]
          by_cases hfeed : c = '\n'
          · subst hfeed
            rfl
          · rw [crlf_cons hfeed]
            exact List.dropWhile_cons_of_pos hc

theorem trimEnd_crlf (s : List Char) : trimEnd (crlf s) = crlf (trimEnd s) := by
  -- Blanks are taken off one by one at the end, so the induction goes that way.
  induction s using List.reverseRecOn with
  | nil =>
      rfl
  | append_singleton front c ih =>
      cases hc : isBlank c with
      | false =>
          rw [crlf_append, crlf_singleton (ne_feed_of_not_blank hc),
            trimEnd_append_of_not_blank _ hc, trimEnd_append_of_not_blank _ hc,
            crlf_append, crlf_singleton (ne_feed_of_not_blank hc)]
      | true =>
          have hlast : allBlank [c] = true := by
            simp [allBlank, hc]
          have hlast' : allBlank (crlf [c]) = true := by
            rw [allBlank_crlf, hlast]
          rw [crlf_append, trimEnd_append_blank _ hlast', trimEnd_append_blank _ hlast, ih]

theorem trim_crlf (s : List Char) : trim (crlf s) = crlf (trim s) := by
  rw [trim, trim, trimStart_crlf, trimEnd_crlf]

end Text

/-!
## Files with a carriage return in each line
-/

namespace Markdown

open Text (crlf)

def returned (line : List Char) : List Char :=
  line ++ ['\r']

theorem lines_crlf (s : List Char) :
    lines (crlf s) = ((lines s).1.map returned, (lines s).2) := by
  induction s with
  | nil =>
      rfl
  | cons c rest ih =>
      by_cases hc : c = '\n'
      · subst hc
        simp [Text.crlf_feed_cons, lines, ih, returned]
      · rw [Text.crlf_cons hc, lines, lines, ih, if_neg hc, if_neg hc]
        rcases lines rest with ⟨_ | ⟨line, others⟩, tail⟩ <;>
          rfl

theorem isFence_returned (line : List Char) : isFence (returned line) = isFence line := by
  rw [isFence, isFence, returned, Text.trimEnd_append_blank line (by decide)]

theorem joinLines_returned {inner : List (List Char)}
    (hinner : forall line, line ∈ inner -> '\n' ∉ line) :
    joinLines (inner.map returned) = crlf (joinLines inner) := by
  induction inner with
  | nil =>
      rfl
  | cons line others ih =>
      have hline : crlf line = line := Text.crlf_eq_self (hinner line List.mem_cons_self)
      have hothers := ih fun l hl => hinner l (List.mem_cons_of_mem _ hl)
      rw [List.map_cons, joinLines_cons, joinLines_cons, Text.crlf_append,
        Text.crlf_feed_cons, hline, hothers, returned, List.append_assoc]
      rfl

theorem split_of_crlf (content : List Char) :
    split (crlf content) = (split content).map fun parts => (crlf parts.1, crlf parts.2) := by
  have hfeed : forall line, line ∈ (lines content).1 -> '\n' ∉ line :=
    fun _ hline => feed_not_mem_of_mem_lines hline
  have htail := feed_not_mem_tail content
  rw [split, split, lines_crlf]
  cases hlines : lines content with
  | mk full tail =>
      rw [hlines] at hfeed htail
      cases full with
      | nil =>
          rfl
      | cons first others =>
          have hothers : forall line, line ∈ others -> '\n' ∉ line :=
            fun line hline => hfeed line (List.mem_cons_of_mem _ hline)
          -- A carriage return makes no line a fence, so the same lines are kept inside.
          have hkept : ((fun line => !isFence line) ∘ returned) = fun line => !isFence line := by
            funext line
            rw [Function.comp_apply, isFence_returned]
          simp only [List.map_cons, isFence_returned, List.dropWhile_map, List.takeWhile_map,
            hkept]
          cases hfirst : isFence first with
          | false =>
              rfl
          | true =>
              cases hdrop : others.dropWhile fun line => !isFence line with
              | nil =>
                  rfl
              | cons closing below =>
                  have hbelow : forall line, line ∈ below -> '\n' ∉ line := by
                    intro line hline
                    apply hothers line
                    apply (List.dropWhile_sublist _).mem
                    rw [hdrop]
                    exact List.mem_cons_of_mem _ hline
                  have htaken : forall line,
                      line ∈ others.takeWhile (fun line => !isFence line) -> '\n' ∉ line :=
                    fun line hline => hothers line ((List.takeWhile_sublist _).mem hline)
                  simp [joinLines_returned hbelow, joinLines_returned htaken,
                    Text.crlf_append, Text.crlf_eq_self htail]

section Documents

variable {content : String} {block rest : List Char}

theorem split_crlf_of_split (hsplit : split content.toList = some (block, rest)) :
    split (String.ofList (crlf content.toList)).toList = some (crlf block, crlf rest) := by
  rw [String.toList_ofList, split_of_crlf, hsplit]
  rfl

/-- The block has one meaning, or none, with the returns and without them. -/
def ReadAlike (content : String) : Prop :=
  forall block rest, split content.toList = some (block, rest) ->
    (Yaml.Value.ofText (String.ofList (crlf block))).toOption =
      (Yaml.Value.ofText (String.ofList block)).toOption

theorem ReadAlike.eq_ok_iff (halike : ReadAlike content)
    (hsplit : split content.toList = some (block, rest)) (value : Yaml.Value) :
    Yaml.Value.ofText (String.ofList (crlf block)) = .ok value <->
      Yaml.Value.ofText (String.ofList block) = .ok value := by
  rw [<- Outcome.toOption_eq_some_iff, halike block rest hsplit,
    Outcome.toOption_eq_some_iff]

theorem parse_crlf (halike : ReadAlike content) :
    (parse (String.ofList (crlf content.toList))).entries? = (parse content).entries? ∧
      (parse (String.ofList (crlf content.toList))).hasBody = (parse content).hasBody := by
  cases hsplit : split content.toList with
  | none =>
      have hsplit' : split (String.ofList (crlf content.toList)).toList = none := by
        rw [String.toList_ofList, split_of_crlf, hsplit]
        rfl
      rw [parse_of_no_split hsplit, parse_of_no_split hsplit', Document.hasBody,
        Document.hasBody, String.toList_ofList, Text.allBlank_crlf]
      exact ⟨rfl, rfl⟩
  | some parts =>
      rcases parts with ⟨block, rest⟩
      have hsplit' := split_crlf_of_split hsplit
      by_cases hmapping : exists entries,
          Yaml.Value.ofText (String.ofList block) = .ok (.mapping entries)
      · rcases hmapping with ⟨entries, hmapping⟩
        have hmapping' := (halike.eq_ok_iff hsplit _).mpr hmapping
        rw [hasBody_of_mapping hsplit hmapping, hasBody_of_mapping hsplit' hmapping',
          Text.allBlank_crlf, parse_of_mapping hsplit hmapping,
          parse_of_mapping hsplit' hmapping']
        exact ⟨rfl, rfl⟩
      · have hnone := fun entries h => hmapping ⟨entries, h⟩
        rcases parse_of_no_mapping hsplit hnone with ⟨hentries, hbody⟩
        rcases parse_of_no_mapping hsplit'
            (fun entries h => hnone entries ((halike.eq_ok_iff hsplit _).mp h)) with
          ⟨hentries', hbody'⟩
        rw [hentries, hentries', hbody, hbody']
        exact ⟨rfl, rfl⟩

end Documents

end Markdown

/-!
## Verdicts
-/

namespace Check

open Text (crlf)
open Markdown (split)

/--
With a carriage return before each line feed a file is split at the same lines or not at
all, each part gets the returns in it, and a body that is trimmed gets those that are left
in it. If the block means the same with the returns, the verdict is the same.
-/
theorem line_endings_do_not_matter (content : String) :
    (split (crlf content.toList) = none <-> split content.toList = none) ∧
      (forall block rest, split content.toList = some (block, rest) ->
        split (crlf content.toList) = some (crlf block, crlf rest) ∧
          Text.trim (crlf rest) = crlf (Text.trim rest)) ∧
      (Markdown.ReadAlike content ->
        forall (limits : Limits) (kind : Kind), kind.holdsJson = false ->
          contentOf limits kind (String.ofList (crlf content.toList)) =
            contentOf limits kind content) := by
  rw [Markdown.split_of_crlf]
  refine ⟨Option.map_eq_none_iff, ?_, ?_⟩
  · intro block rest hsplit
    rw [hsplit]
    exact ⟨rfl, Text.trim_crlf rest⟩
  · intro halike limits kind hkind
    rcases Markdown.parse_crlf halike with ⟨hentries, hbody⟩
    exact contentOf_congr hkind limits (congrArg (headerFindings limits kind) hentries) hbody

def soleText? : Yaml.Value -> Option (String × String)
  | .mapping [(.string key, .string text)] => some (key, text)
  | _ => none

theorem eq_of_soleText? {value : Yaml.Value} {key text : String}
    (h : soleText? value = some (key, text)) :
    value = .mapping [(.string key, .string text)] := by
  unfold soleText? at h
  split at h
  · cases h
    rfl
  · cases h

/-- A file with a header, a blank behind its closing fence and blank lines around its body. -/
def returnedSkill : String :=
  "---\nname: a\n--- \n\nB\n\n"

theorem line_endings_do_not_matter_skill :
    Markdown.ReadAlike returnedSkill ∧ Kind.skill.holdsJson = false ∧
      split returnedSkill.toList = some ("name: a\n".toList, "\nB\n\n".toList) ∧
      split (crlf returnedSkill.toList) =
        some (crlf "name: a\n".toList, crlf "\nB\n\n".toList) ∧
      contentOf {} .skill (String.ofList (crlf returnedSkill.toList)) =
        contentOf {} .skill returnedSkill := by
  have hsplit : split returnedSkill.toList = some ("name: a\n".toList, "\nB\n\n".toList) := by
    decide
  have hread : (Yaml.Value.ofText (String.ofList "name: a\n".toList)).toOption.bind soleText? =
      some ("name", "a") := by
    decide +kernel
  have hread' : (Yaml.Value.ofText
      (String.ofList (crlf "name: a\n".toList))).toOption.bind soleText? =
        some ("name", "a") := by
    decide +kernel
  have halike : Markdown.ReadAlike returnedSkill := by
    intro block rest h
    rw [hsplit] at h
    cases h
    rcases Option.bind_eq_some_iff.mp hread with ⟨value, hvalue, hsole⟩
    rcases Option.bind_eq_some_iff.mp hread' with ⟨value', hvalue', hsole'⟩
    rw [hvalue, hvalue', eq_of_soleText? hsole, eq_of_soleText? hsole']
  rcases line_endings_do_not_matter returnedSkill with ⟨_, hparts, hverdict⟩
  exact ⟨halike, rfl, hsplit, (hparts _ _ hsplit).left, hverdict halike {} .skill rfl⟩

end Check
end AgentFiles
