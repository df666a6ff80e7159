import AgentFiles.Verdict

/-!
# Reports

A report is what is shown and stored of a verdict. It has the flag beside the findings: the flag
starts out as true and falls with the first error. Where a stored report is read, the flag is worked
out from the errors, whatever is stored as the flag, so that it cannot contradict them.
-/

namespace AgentFiles

open Json

structure Report where
  valid : Bool
  errors : List String
  warnings : List String
deriving DecidableEq, Repr

namespace Report

def new : Report where
  valid := true
  errors := []
  warnings := []

instance : Inhabited Report := ⟨new⟩

def addError (r : Report) (message : String) : Report :=
  { r with valid := false, errors := r.errors ++ [message] }

def addWarning (r : Report) (message : String) : Report :=
  { r with warnings := r.warnings ++ [message] }

def failure (message : String) : Report :=
  new.addError message

def isClean (r : Report) : Bool :=
  r.valid && r.warnings.isEmpty

def parts (r : Report) : List String × List String :=
  (r.errors, r.warnings)

def ofVerdict (v : Verdict) : Report where
  valid := v.errors.isEmpty
  errors := v.errors
  warnings := v.warnings

/-- The flag is written as it is, and only the findings are read. -/
def codec : Codec Report where
  read depth node := (Verdict.record.codec.read depth node).map ofVerdict
  write r :=
    .object (("valid", .bool r.valid) :: Verdict.record.writeMembers ⟨r.errors, r.warnings⟩)

/-!
## Recording
-/

inductive Step where
  | new
  | default
  | failure (message : String)
  | error (message : String)
  | warning (message : String)
  | parse (json : String)
  | parts
deriving DecidableEq, Repr

def step (r : Report) : Step -> Except Fault Report
  | .new => .ok new
  | .default => .ok default
  | .failure message => .ok (failure message)
  | .error message => .ok (r.addError message)
  | .warning message => .ok (r.addWarning message)
  | .parse json => codec.load json
  | .parts => .ok r

/-- A text that cannot be parsed leaves the report as it is. -/
def next (r : Report) (s : Step) : Report :=
  (r.step s).toOption.getD r

def run (r : Report) (steps : List Step) : Report :=
  steps.foldl next r

end Report

def Verdict.codec : Codec Verdict where
  read := Verdict.record.codec.read
  write v := Report.codec.write (.ofVerdict v)

end AgentFiles
