import AgentFiles.Proofs.Json.Agreement
import AgentFiles.Proofs.Json.Printed
import AgentFiles.Proofs.Json.Schemas
import AgentFiles.Proofs.Json.Skipping
import AgentFiles.Report

/-!
# Runs on a report

Every step sets the flag of a report and its lists by itself. Over a run they stay
in accord: the flag says whether there are errors, and the lists hold what was there
after the last reset together with what was recorded since then. A stored report is
read as the report that was stored, and a flag in it that says otherwise is ignored.
-/

namespace AgentFiles
namespace Report

open Json

/-!
## The flag
-/

section Flag

variable {r : Report} {json : String}

def Consistent (r : Report) : Prop :=
  r.valid = r.errors.isEmpty

theorem Consistent.valid_iff (h : r.Consistent) : r.valid = true <-> r.errors = [] := by
  rw [h, List.isEmpty_iff]

theorem Consistent.isClean_iff (h : r.Consistent) :
    r.isClean = true <-> r.errors = [] ∧ r.warnings = [] := by
  rw [isClean, Bool.and_eq_true, h.valid_iff, List.isEmpty_iff]

theorem Consistent.eq_ofVerdict (h : r.Consistent) :
    r = ofVerdict ⟨r.errors, r.warnings⟩ := by
  cases r
  rw [ofVerdict, <- h]

theorem consistent_new : new.Consistent :=
  rfl

theorem consistent_addError (r : Report) (message : String) :
    (r.addError message).Consistent := by
  simp [Consistent, addError]

theorem Consistent.addWarning (h : r.Consistent) (message : String) :
    (r.addWarning message).Consistent :=
  h

theorem consistent_of_load (h : codec.load json = .ok r) : r.Consistent := by
  rcases Outcome.map_eq_ok_iff.mp (read_of_load h) with ⟨v, _, hr⟩
  rw [<- hr]
  rfl

theorem next_of_load (r : Report) {stored : Report} (h : codec.load json = .ok stored) :
    r.next (.parse json) = stored := by
  rw [next, step, h]
  rfl

theorem next_of_no_load (r : Report) {fault : Fault} (h : codec.load json = .error fault) :
    r.next (.parse json) = r := by
  rw [next, step, h]
  rfl

/-- No step can set the flag apart from the errors. -/
theorem Consistent.next (h : r.Consistent) (s : Step) : (r.next s).Consistent := by
  cases s with
  | new | default =>
      exact consistent_new
  | failure message =>
      exact consistent_addError new message
  | error message =>
      exact consistent_addError r message
  | warning message =>
      exact h.addWarning message
  | parts =>
      exact h
  | parse json =>
      cases hload : codec.load json with
      | ok stored =>
          rw [next_of_load r hload]
          exact consistent_of_load hload
      | error fault =>
          rw [next_of_no_load r hload]
          exact h

theorem run_cons (r : Report) (s : Step) (steps : List Step) :
    r.run (s :: steps) = (r.next s).run steps :=
  rfl

theorem run_append (r : Report) (steps rest : List Step) :
    r.run (steps ++ rest) = (r.run steps).run rest :=
  List.foldl_append

theorem Consistent.run (h : r.Consistent) (steps : List Step) :
    (r.run steps).Consistent := by
  induction steps generalizing r with
  | nil =>
      exact h
  | cons s rest ih =>
      rw [run_cons]
      exact ih (h.next s)

end Flag

/-!
## The findings since the last reset
-/

section Findings

variable {steps : List Step} {s : Step}

/-- Whether a step puts another report in the place of the one at hand. -/
def Step.resets : Step -> Bool
  | .new | .default | .failure _ => true
  | .parse json => (codec.load json).toOption.isSome
  | .error _ | .warning _ | .parts => false

def Step.error? : Step -> Option String
  | .error message => some message
  | _ => none

def Step.warning? : Step -> Option String
  | .warning message => some message
  | _ => none

theorem findings_next_of_not_resets (r : Report) (hs : s.resets = false) :
    (r.next s).errors = r.errors ++ s.error?.toList ∧
      (r.next s).warnings = r.warnings ++ s.warning?.toList := by
  cases s with
  | new | default | failure =>
      cases hs
  | parse json =>
      cases hload : codec.load json with
      | ok stored =>
          rw [Step.resets, hload] at hs
          cases hs
      | error fault =>
          simp [next_of_no_load r hload, Step.error?, Step.warning?]
  | error | warning | parts =>
      simp [next, step, Except.toOption, addError, addWarning, Step.error?, Step.warning?]

theorem filterMap_cons_eq_append {α β : Type} (f : α -> Option β) (a : α) (rest : List α) :
    (a :: rest).filterMap f = (f a).toList ++ rest.filterMap f := by
  cases hfound : f a <;>
    simp [hfound]

theorem findings_run_of_not_resets (r : Report)
    (hsteps : forall s, s ∈ steps -> s.resets = false) :
    (r.run steps).errors = r.errors ++ steps.filterMap Step.error? ∧
      (r.run steps).warnings = r.warnings ++ steps.filterMap Step.warning? := by
  induction steps generalizing r with
  | nil =>
      simp [run]
  | cons s rest ih =>
      rcases findings_next_of_not_resets r (hsteps s List.mem_cons_self) with
        ⟨herrors, hwarnings⟩
      rcases ih (r.next s) fun t ht => hsteps t (List.mem_cons_of_mem s ht) with
        ⟨herrors', hwarnings'⟩
      rw [run_cons, herrors', hwarnings', herrors, hwarnings, filterMap_cons_eq_append,
        filterMap_cons_eq_append]
      simp only [List.append_assoc, and_self]

def EndsInReset (steps : List Step) : Prop :=
  steps = [] ∨ exists before s, s.resets = true ∧ steps = before ++ [s]

theorem EndsInReset.cons {before : List Step} (h : EndsInReset before)
    (hbefore : before ≠ [] ∨ s.resets = true) : EndsInReset (s :: before) := by
  rcases h with rfl | ⟨front, t, ht, rfl⟩
  · exact Or.inr ⟨[], s, hbefore.resolve_left (fun hne => hne rfl), rfl⟩
  · exact Or.inr ⟨s :: front, t, ht, rfl⟩

/-- A run can be cut behind its last reset. -/
theorem exists_last_reset (steps : List Step) :
    exists before since, steps = before ++ since ∧ EndsInReset before ∧
      forall s, s ∈ since -> s.resets = false := by
  induction steps with
  | nil =>
      exact ⟨[], [], rfl, Or.inl rfl, fun _ hnone => absurd hnone List.not_mem_nil⟩
  | cons s rest ih =>
      rcases ih with ⟨before, since, rfl, hends, hsince⟩
      by_cases hbefore : before ≠ [] ∨ s.resets = true
      · exact ⟨s :: before, since, rfl, hends.cons hbefore, hsince⟩
      · rw [not_or, not_not] at hbefore
        rcases hbefore with ⟨rfl, hs⟩
        refine ⟨[], s :: since, rfl, Or.inl rfl, ?_⟩
        exact List.forall_mem_cons.mpr ⟨by simpa using hs, hsince⟩

theorem findings_run (r : Report) (steps : List Step) :
    exists before since, steps = before ++ since ∧ EndsInReset before ∧
      (forall s, s ∈ since -> s.resets = false) ∧
      (r.run steps).errors = (r.run before).errors ++ since.filterMap Step.error? ∧
      (r.run steps).warnings = (r.run before).warnings ++ since.filterMap Step.warning? := by
  rcases exists_last_reset steps with ⟨before, since, rfl, hends, hsince⟩
  rw [run_append]
  exact ⟨before, since, rfl, hends, hsince, findings_run_of_not_resets _ hsince⟩

end Findings

/-!
## Stored reports
-/

section Stored

def texts (items : List String) : Value :=
  .array (items.map .string)

def findingMembers (errors warnings : List String) : List (String × Value) :=
  [("errors", texts errors), ("warnings", texts warnings)]

theorem numbers_texts (items : List String) : (texts items).numbers = [] := by
  change itemNumbers (items.map .string) = []
  induction items with
  | nil =>
      rfl
  | cons item rest ih =>
      rw [List.map_cons, itemNumbers, ih]
      rfl

theorem numbers_findingMembers (errors warnings : List String) :
    memberNumbers (findingMembers errors warnings) = [] := by
  simp [findingMembers, memberNumbers, numbers_texts]

theorem fits_of_no_numbers {value : Value} (hvalue : value.numbers = []) : value.Fits := by
  intro n hn
  rw [hvalue] at hn
  cases hn

theorem texts_keep (items : List String) : (Codec.list .text).Keeps 127 items := by
  have hdescend : descend 127 0 = .ok 126 := rfl
  exact Codec.list_keeps hdescend fun s _ => Codec.text_keeps s

theorem findings_keep (v : Verdict) : Verdict.record.Keeps 127 v := by
  simp only [Record.Keeps, Verdict.record, List.forall_mem_cons]
  refine ⟨?_, ?_, ?_⟩
  · exact Field.defaulted_keeps (fun _ _ => rfl) (texts_keep v.errors)
  · exact Field.defaulted_keeps (fun _ _ => rfl) (texts_keep v.warnings)
  · exact fun _ hnone => absurd hnone List.not_mem_nil

/-- Besides the flag there are only members with a field. -/
theorem known_eq_findingMembers {entries : List (String × Value)}
    {errors warnings : List String}
    (hfindings : (entries.filter fun entry => entry.1 != "valid") =
      findingMembers errors warnings) :
    (entries.filter fun entry => (Verdict.record.field? entry.1).isSome) =
      findingMembers errors warnings := by
  have hvalid : Verdict.record.field? "valid" = none := rfl
  have hknown : (fun entry : String × Value => (Verdict.record.field? entry.1).isSome) =
      fun entry => (Verdict.record.field? entry.1).isSome && entry.1 != "valid" := by
    funext entry
    by_cases hkey : entry.1 = "valid"
    · simp [hkey, hvalid]
    · simp [hkey]
  rw [hknown, <- List.filter_filter, hfindings]
  rfl

theorem read_of_findings {depth : Nat} {node : Node} {v : Verdict}
    (hread : Verdict.record.codec.read depth node = .ok v) :
    codec.read depth node = .ok (ofVerdict v) :=
  congrArg (Except.map ofVerdict) hread

/-- Stored findings are read with the flag that they call for, whatever is stored as the
flag, how often and where. -/
theorem load_of_findings {entries : List (String × Value)} {errors warnings : List String}
    (hwhole : (Value.object entries).Whole) (hfits : (Value.object entries).Fits)
    (hfindings : (entries.filter fun entry => entry.1 != "valid") =
      findingMembers errors warnings) :
    codec.load (Value.object entries).text = .ok (ofVerdict ⟨errors, warnings⟩) := by
  apply load_text hwhole hfits
  intro node hshows
  exact read_of_findings
    (Record.codec_read_of_known (fun _ => rfl) (Verdict.lawful 125) Verdict.determined
      (findings_keep _) (known_eq_findingMembers hfindings) hshows)

theorem load_of_array (errors warnings : List String) :
    codec.load (Value.array [texts errors, texts warnings]).text =
      .ok (ofVerdict ⟨errors, warnings⟩) := by
  have hnumbers : (Value.array [texts errors, texts warnings]).numbers = [] := by
    simp [Value.numbers, itemNumbers, numbers_texts]
  apply load_text (Codec.whole_of_no_numbers hnumbers) (fits_of_no_numbers hnumbers)
  intro node hshows
  apply read_of_findings
  have hdescend : forall start, descend fullDepth start = .ok 127 := fun _ => rfl
  cases hshows with
  | array hitems =>
      cases hitems with
      | item herrors hrest =>
          cases hrest with
          | item hwarnings hend =>
              cases hend
              have hreadErrors := (texts_keep errors).again _ herrors
              have hreadWarnings := (texts_keep warnings).again _ hwarnings
              simp [Record.codec, hdescend, Record.readItems, Verdict.record,
                Field.defaulted, hreadErrors, hreadWarnings, bind, Except.bind, Except.map]

theorem load_of_consistent {r : Report} (h : r.Consistent) :
    codec.load (codec.write r).text = .ok r := by
  have hnumbers : (codec.write r).numbers = [] :=
    numbers_findingMembers r.errors r.warnings
  have hload := load_of_findings (Codec.whole_of_no_numbers hnumbers)
    (fits_of_no_numbers hnumbers) rfl
  rw [<- h.eq_ofVerdict] at hload
  exact hload

end Stored

/--
At any time of a run the flag says whether there are errors, and the lists hold what
was there after the last reset and every message since then. A text that cannot be
read changes nothing, a text that can be read brings its findings but not its flag,
and whatever is reached in a run is read again from its own text.
-/
theorem run_keeps_flag_and_findings :
    (forall steps : List Step,
      ((new.run steps).valid = true <-> (new.run steps).errors = []) ∧
      ((new.run steps).isClean = true <->
        (new.run steps).errors = [] ∧ (new.run steps).warnings = []) ∧
      (exists before since, steps = before ++ since ∧ EndsInReset before ∧
        (forall s, s ∈ since -> s.resets = false) ∧
        (new.run steps).errors =
          (new.run before).errors ++ since.filterMap Step.error? ∧
        (new.run steps).warnings =
          (new.run before).warnings ++ since.filterMap Step.warning?) ∧
      codec.load (codec.write (new.run steps)).text = .ok (new.run steps)) ∧
    (forall r : Report,
      r.next .new = ⟨true, [], []⟩ ∧ r.next .default = ⟨true, [], []⟩ ∧
        (forall message, r.next (.failure message) = ⟨false, [message], []⟩) ∧
        r.next .parts = r) ∧
    (forall (r : Report) (json : String),
      (exists stored, codec.load json = .ok stored ∧ r.next (.parse json) = stored) ∨
      (exists fault, codec.load json = .error fault ∧
        r.step (.parse json) = .error fault ∧ r.next (.parse json) = r)) ∧
    (forall (json : String) (r : Report), codec.load json = .ok r ->
      (r.valid = true <-> r.errors = [])) ∧
    (forall (entries : List (String × Value)) (errors warnings : List String),
      (Value.object entries).Whole -> (Value.object entries).Fits ->
      (entries.filter fun entry => entry.1 != "valid") =
        [("errors", .array (errors.map .string)),
          ("warnings", .array (warnings.map .string))] ->
      codec.load (Value.object entries).text =
        .ok ⟨errors.isEmpty, errors, warnings⟩) ∧
    (forall errors warnings : List String,
      codec.load (Value.array
          [.array (errors.map .string), .array (warnings.map .string)]).text =
        .ok ⟨errors.isEmpty, errors, warnings⟩) := by
  refine ⟨?_, ?_, ?_, ?_, ?_, ?_⟩
  · intro steps
    have hrun := consistent_new.run steps
    exact ⟨hrun.valid_iff, hrun.isClean_iff, findings_run new steps,
      load_of_consistent hrun⟩
  · intro r
    exact ⟨rfl, rfl, fun _ => rfl, rfl⟩
  · intro r json
    cases hload : codec.load json with
    | ok stored =>
        exact Or.inl ⟨stored, rfl, next_of_load r hload⟩
    | error fault =>
        exact Or.inr ⟨fault, rfl, hload, next_of_no_load r hload⟩
  · intro json r hload
    exact (consistent_of_load hload).valid_iff
  · intro entries errors warnings hwhole hfits hfindings
    exact load_of_findings hwhole hfits hfindings
  · intro errors warnings
    exact load_of_array errors warnings

/-- A stored report with an error, whose flag is given twice and never says so. -/
def contradicted : List (String × Value) :=
  [("valid", .bool true), ("errors", .array [.string "e"]), ("valid", .array [.null]),
    ("warnings", .array [])]

theorem run_keeps_flag_and_findings_contradicted :
    (Value.object contradicted).Whole ∧ (Value.object contradicted).Fits ∧
      (contradicted.filter fun entry => entry.1 != "valid") =
        [("errors", .array (["e"].map .string)), ("warnings", .array ([].map .string))] ∧
      codec.load (Value.object contradicted).text = .ok ⟨false, ["e"], []⟩ ∧
      exists r, codec.load "\x7b\"valid\":0,\"warnings\":[\"w\"]\x7d" = .ok r ∧
        (r.valid = true <-> r.errors = []) := by
  rcases run_keeps_flag_and_findings with ⟨_, _, _, hflag, hentries, _⟩
  have hwhole : (Value.object contradicted).Whole := by
    decide
  have hfits : (Value.object contradicted).Fits := fits_of_no_numbers rfl
  have hstored :
      (codec.load "\x7b\"valid\":0,\"warnings\":[\"w\"]\x7d").toOption =
        some ⟨true, [], ["w"]⟩ := by
    decide +kernel
  have hload := Outcome.toOption_eq_some_iff.mp hstored
  exact ⟨hwhole, hfits, rfl, hentries contradicted ["e"] [] hwhole hfits rfl,
    _, hload, hflag _ _ hload⟩

end Report
end AgentFiles
