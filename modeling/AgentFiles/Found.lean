import AgentFiles.Binary64.Layout
import AgentFiles.Number
import AgentFiles.Text.Quoted

/-!
# What was found in place of the expected

A type mismatch names what stood in the file. Both file formats name it alike, but for the empty
value and for the layout of decimal numbers.
-/

namespace AgentFiles

inductive Found where
  | unit
  | bool (b : Bool)
  | number (n : Number)
  | string (s : String)
  | sequence
  | mapping
  /-- An integer beyond 64 bits; `negative` tells the two ranges of 128 bits apart. -/
  | wide (i : Int) (negative : Bool)
deriving Repr

structure Found.Wording where
  unit : String
  decimal : Binary64.Layout

def Found.describe (wording : Found.Wording) : Found -> String
  | .unit => wording.unit
  | .bool true => "boolean `true`"
  | .bool false => "boolean `false`"
  | .number (.integer i) => s!"integer `{i}`"
  | .number (.decimal x) => s!"floating point `{x.text wording.decimal}`"
  | .string s => s!"string {Text.quoted s}"
  | .sequence => "sequence"
  | .mapping => "map"
  | .wide i true => s!"integer `{i}` as i128"
  | .wide i false => s!"integer `{i}` as u128"

end AgentFiles
