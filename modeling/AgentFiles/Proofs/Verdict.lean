import AgentFiles.Verdict

/-!
# Verdicts as pairs of lists

A verdict is its list of errors and its list of warnings, and verdicts are
appended list by list.
-/

namespace AgentFiles
namespace Verdict

theorem mk_append_mk (errors warnings errors' warnings' : List String) :
    (⟨errors, warnings⟩ : Verdict) ++ (⟨errors', warnings'⟩ : Verdict) =
      ⟨errors ++ errors', warnings ++ warnings'⟩ :=
  rfl

theorem errors_append (v w : Verdict) : (v ++ w).errors = v.errors ++ w.errors :=
  rfl

theorem errorIf_eq (found : Bool) (message : String) :
    errorIf found message = ⟨if found then [message] else [], []⟩ := by
  cases found <;>
    rfl

theorem warningIf_eq (found : Bool) (message : String) :
    warningIf found message = ⟨[], if found then [message] else []⟩ := by
  cases found <;>
    rfl

end Verdict
end AgentFiles
