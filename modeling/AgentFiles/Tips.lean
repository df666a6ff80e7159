import AgentFiles.Failure
import AgentFiles.Keyed
import AgentFiles.Text.Blank
import AgentFiles.Text.Numeral

/-!
# Tips

A panel shows one tip of eight at a time. It may show itself until the user dismisses it, and after
a close not before seven days have passed. What it has to remember is in a store of texts, which may
refuse to be read or to be written. Times are milliseconds since the epoch.
-/

namespace AgentFiles

structure Tip where
  title : String
  description : String
deriving DecidableEq, Repr

namespace Tip

def all : List Tip :=
  [
    ⟨"Welcome to ClaudeStash!",
      "Store and manage your Claude Code configuration files with validation, " ++
        "templates, and auto-tagging."⟩,
    ⟨"File Templates",
      "Click \"New File\" and choose from 9 pre-built templates: Agents, Commands, " ++
        "Skills, Hooks, Output Styles, and more!"⟩,
    ⟨"Real-Time Validation",
      "Your Claude Code files are validated as you type. Red for errors, yellow for " ++
        "warnings, green for success!"⟩,
    ⟨"Auto-Tagging",
      "Files are automatically tagged with their Claude Code type for easy filtering " ++
        "and organization."⟩,
    ⟨"YAML Frontmatter",
      "All agent, skill, and output style files support YAML frontmatter with name, " ++
        "description, and configuration."⟩,
    ⟨"File Type Sidebar",
      "Use the left sidebar to filter files by type: agents, commands, skills, hooks, and more."⟩,
    ⟨"Full-Screen Editor",
      "The editor uses most of your screen space for an immersive editing experience."⟩,
    ⟨"Search & Filter",
      "Quickly find files using the search bar. Filter by language, sort by date, and " ++
        "organize with categories."⟩]

end Tip

namespace Tips

/-!
## The store
-/

structure Store where
  values : List (String × String) := []
  readable : Bool := true
  writable : Bool := true
deriving DecidableEq, Repr

namespace Store

/-- The value of a key, even where reading fails. -/
def value? (store : Store) (key : String) : Option String :=
  Keyed.find? key store.values

/-- The store with a value under a key, even where writing fails. -/
def put (store : Store) (key value : String) : Store :=
  { store with values := Keyed.insert key value store.values }

def get (store : Store) (key : String) : Except Failure (Option String) :=
  if store.readable then .ok (store.value? key) else .error .unreadableStore

def set (store : Store) (key value : String) : Except Failure Store :=
  if store.writable then .ok (store.put key value) else .error .readOnlyStore

end Store

/-- Holds a text that is not empty once the tips are dismissed. -/
def dismissedKey : String := "claudestash-tips-dismissed"

/-- Holds the time of the last close. -/
def lastShownKey : String := "claudestash-tips-last-shown"

/-- Seven days. -/
def interval : Int := 604800000

/-!
## Stored times
-/

def leastTime : Int := -(Nat.pow 2 63 : Nat)

def mostTime : Int := (Nat.pow 2 63 : Nat) - 1

/-- The nearest number of 64 bits. -/
def saturate (i : Int) : Int :=
  max leastTime (min mostTime i)

def width : Text.Width where
  least := leastTime
  most := mostTime

/-- The time at the start of a text, after blanks and a sign if there are any. It ends in front of
the first character that is no digit. -/
def leadingTime? (text : String) : Option Int :=
  let s := Text.trimStart text.toList
  let first := Text.signLength s
  let last := first + (s.drop first).findIdx fun c => !Text.isDigit c
  if last = first then none else width.read? (s.take last)

/-!
## The panel
-/

structure Panel where
  store : Store := {}
  index : Nat := 0
  visible : Bool := false
deriving DecidableEq, Repr

def count : Nat := Tip.all.length

namespace Panel

def isDismissed (panel : Panel) : Except Failure Bool := do
  let value? <- panel.store.get dismissedKey
  return (value?.map (· != "")).getD false

/-- Whether the interval since a stored close has passed. It has if there was no close, and it has
not if the stored time cannot be read. -/
def isDue (now : Int) (stored : Option String) : Bool :=
  match stored with
  | none => true
  | some text =>
    match leadingTime? text with
    | some time => interval < saturate (now - time)
    | none => false

def shouldShow (panel : Panel) (now : Int) : Except Failure Bool := do
  if <- panel.isDismissed then return false
  return isDue now (<- panel.store.get lastShownKey)

def current (panel : Panel) : Option Tip :=
  Tip.all[panel.index]?

/-- The number of the tip that is shown, counted from one, and the number of tips. -/
def position (panel : Panel) : Nat × Nat :=
  (panel.index + 1, count)

def hide (panel : Panel) : Panel :=
  { panel with visible := false }

def next (panel : Panel) : Panel :=
  { panel with index := (panel.index + 1) % count }

def previous (panel : Panel) : Panel :=
  { panel with index := (panel.index + count - 1) % count }

/-- The hidden panel with a value written. It stays hidden where writing fails. -/
def hideWith (panel : Panel) (key value : String) : Except Failure Unit × Panel :=
  match panel.store.set key value with
  | .ok store => (.ok (), { panel.hide with store := store })
  | .error failure => (.error failure, panel.hide)

end Panel

/-!
## Runs
-/

inductive Step where
  | shouldShow (now : Int)
  | openIfDue (now : Int)
  | close (now : Int)
  | dismiss
  | isDismissed
  | reopen
  | next
  | previous
  | current
  | get (key : String)
  /-- A new panel on the same store, into which a value may be written first. -/
  | restart (entry : Option (String × String))
  /-- From now on reading or writing fails, or neither does. -/
  | fail (reading writing : Bool)
deriving DecidableEq, Repr

inductive Answer where
  | done
  | flag (b : Bool)
  | tip (t : Option Tip)
  | value (text : Option String)
deriving DecidableEq, Repr

abbrev Outcome := Except Failure Answer

namespace Panel

def step (panel : Panel) : Step -> Outcome × Panel
  | .shouldShow now => ((panel.shouldShow now).map .flag, panel)
  | .openIfDue now =>
    match panel.shouldShow now with
    | .ok due =>
      let visible := panel.visible || due
      (.ok (.flag visible), { panel with visible := visible })
    | .error failure => (.error failure, panel)
  | .close now =>
    let (result, panel) := panel.hideWith lastShownKey (toString now)
    (result.map fun _ => .done, panel)
  | .dismiss =>
    let (result, panel) := panel.hideWith dismissedKey "true"
    (result.map fun _ => .done, panel)
  | .isDismissed => (panel.isDismissed.map .flag, panel)
  | .reopen => (.ok .done, { panel with visible := true, index := 0 })
  | .next => (.ok (.tip panel.next.current), panel.next)
  | .previous => (.ok (.tip panel.previous.current), panel.previous)
  | .current => (.ok (.tip panel.current), panel)
  | .get key => ((panel.store.get key).map .value, panel)
  | .restart none => (.ok .done, { store := panel.store })
  | .restart (some (key, value)) => (.ok .done, { store := panel.store.put key value })
  | .fail reading writing =>
    (.ok .done,
      { panel with store := { panel.store with readable := !reading, writable := !writing } })

def run (panel : Panel) (steps : List Step) : Panel :=
  steps.foldl (fun panel step => (panel.step step).2) panel

end Panel
end Tips
end AgentFiles
