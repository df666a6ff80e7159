import AgentFiles.Json.Node
import AgentFiles.Json.Untyped
import AgentFiles.Proofs.Outcome

/-!
# Syntax that shows a value

Syntax shows a value when every piece of it stands for the piece of the value at
the same position and nothing in it is broken or flawed. What is read from the
text of a value shows the value, whatever its places are.
-/

namespace AgentFiles

/-!
## The numbers in a value
-/

namespace Number

def IsInteger : Number -> Prop
  | integer _ => True
  | decimal _ => False

instance : DecidablePred IsInteger
  | integer _ => inferInstanceAs (Decidable True)
  | decimal _ => inferInstanceAs (Decidable False)

/-- An integer of 64 bits, signed or not, or a double. -/
def Fits : Number -> Prop
  | integer i => -(Nat.pow 2 63 : Nat) ≤ i ∧ i < (Nat.pow 2 64 : Nat)
  | decimal _ => True

end Number

namespace Json

mutual

def Value.numbers : Value -> List Number
  | .number n => [n]
  | .array items => itemNumbers items
  | .object members => memberNumbers members
  | _ => []

def itemNumbers : List Value -> List Number
  | [] => []
  | value :: rest => value.numbers ++ itemNumbers rest

def memberNumbers : List (String × Value) -> List Number
  | [] => []
  | (_, value) :: rest => value.numbers ++ memberNumbers rest

end

def Value.Fits (value : Value) : Prop :=
  forall n, n ∈ value.numbers -> n.Fits

def Value.Whole (value : Value) : Prop :=
  forall n, n ∈ value.numbers -> n.IsInteger

instance (value : Value) : Decidable value.Whole :=
  inferInstanceAs (Decidable (forall n, n ∈ value.numbers -> n.IsInteger))

theorem mem_itemNumbers {n : Number} {values : List Value} :
    n ∈ itemNumbers values <->
      exists value, value ∈ values ∧ n ∈ value.numbers := by
  induction values with
  | nil =>
      simp [itemNumbers]
  | cons value rest ih =>
      simp [itemNumbers, ih]

theorem mem_memberNumbers {n : Number} {members : List (String × Value)} :
    n ∈ memberNumbers members <->
      exists member, member ∈ members ∧ n ∈ member.2.numbers := by
  induction members with
  | nil =>
      simp [memberNumbers]
  | cons member rest ih =>
      rcases member with ⟨key, value⟩
      rw [memberNumbers, List.mem_append, ih]
      simp

theorem Lexeme.fits_of_value {lexeme : Lexeme} {n : Number}
    (hvalue : lexeme.value = .ok n) : n.Fits := by
  simp only [Lexeme.value] at hvalue
  split at hvalue
  · rename_i hplain
    rw [Bool.and_eq_true] at hplain
    have hless : Text.natOf lexeme.whole < Nat.pow 2 64 :=
      of_decide_eq_true hplain.2
    split at hvalue
    · injection hvalue with hn
      rw [<- hn]
      constructor <;>
        omega
    · split at hvalue
      · rename_i hsmall
        rw [Bool.and_eq_true] at hsmall
        have hpositive := of_decide_eq_true hsmall.1
        have hbound := of_decide_eq_true hsmall.2
        injection hvalue with hn
        rw [<- hn]
        constructor <;>
          omega
      · injection hvalue with hn
        rw [<- hn]
        trivial
  · rcases Outcome.map_eq_ok_iff.mp hvalue with ⟨x, _, hn⟩
    rw [<- hn]
    trivial

/-!
## Showing
-/

mutual

inductive Node.Shows : Node -> Value -> Prop where
  | null {start stop : Nat} : Node.Shows (.null start stop) .null
  | bool {b : Bool} {start stop : Nat} : Node.Shows (.bool b start stop) (.bool b)
  | number {lexeme : Lexeme} {n : Number} {start stop : Nat}
      (hvalue : lexeme.value = .ok n) :
      Node.Shows (.number lexeme start stop) (.number n)
  | string {s : String} {start stop : Nat} :
      Node.Shows (.string (.ok s) start stop) (.string s)
  | array {start : Nat} {items : Items} {values : List Value}
      (hitems : Items.Shows items values) :
      Node.Shows (.array start items) (.array values)
  | object {start : Nat} {inside : Source} {members : Members}
      {entries : List (String × Value)} (hmembers : Members.Shows members entries) :
      Node.Shows (.object start inside members) (.object entries)

inductive Items.Shows : Items -> List Value -> Prop where
  | closed {stop : Nat} : Items.Shows (.closed stop) []
  | item {start : Nat} {node : Node} {rest : Items} {value : Value}
      {values : List Value} (hnode : Node.Shows node value)
      (hrest : Items.Shows rest values) :
      Items.Shows (.item start node rest) (value :: values)

inductive Members.Shows : Members -> List (String × Value) -> Prop where
  | closed {stop : Nat} : Members.Shows (.closed stop) []
  | member {key : String} {settled : Nat} {node : Node} {rest : Members}
      {value : Value} {entries : List (String × Value)}
      (hnode : Node.Shows node value) (hrest : Members.Shows rest entries) :
      Members.Shows (.member (.ok key) settled node rest) ((key, value) :: entries)

end

end Json
end AgentFiles
