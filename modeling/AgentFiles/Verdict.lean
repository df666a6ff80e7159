import AgentFiles.Json.Codec

/-!
# Verdicts

A verdict lists errors and warnings in the order in which checks found them. A file is valid when
there is no error; warnings do not count.
-/

namespace AgentFiles

open Json

structure Verdict where
  errors : List String := []
  warnings : List String := []
deriving DecidableEq, Repr

namespace Verdict

def empty : Verdict := {}

def failure (message : String) : Verdict :=
  { errors := [message] }

def addError (v : Verdict) (message : String) : Verdict :=
  { v with errors := v.errors ++ [message] }

def isValid (v : Verdict) : Bool :=
  v.errors.isEmpty

def append (v w : Verdict) : Verdict :=
  ⟨v.errors ++ w.errors, v.warnings ++ w.warnings⟩

instance : Append Verdict := ⟨append⟩

def errorIf (found : Bool) (message : String) : Verdict :=
  if found then ⟨[message], []⟩ else empty

def warningIf (found : Bool) (message : String) : Verdict :=
  if found then ⟨[], [message]⟩ else empty

def record : Record Verdict where
  name := "VerdictRepr"
  fields := [
    .defaulted "errors" (.list .text) (·.errors) (fun es v => { v with errors := es }),
    .defaulted "warnings" (.list .text) (·.warnings) (fun ws v => { v with warnings := ws })]
  blank := {}

end Verdict
end AgentFiles
