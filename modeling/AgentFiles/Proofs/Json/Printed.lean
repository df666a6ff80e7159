import AgentFiles.Proofs.Json.Tokens
import AgentFiles.Proofs.Text.Commas

/-!
# Printed texts are read back

The text of a value is read as syntax that shows the value, and reading goes on
behind it. The value may hold integers of 64 bits but no doubles. Whatever follows
the text must not go on with a number.
-/

namespace AgentFiles
namespace Json

/-!
## Values
-/

section Values

variable {s : Source} {rest : List Char}

theorem readWord_append (letters : List Char) (hs : s.rest = letters ++ rest) :
    exists after, readWord s letters = .ok after ∧ after.rest = rest := by
  induction letters generalizing s with
  | nil =>
      exact ⟨s, rfl, hs⟩
  | cons letter letters ih =>
      rcases ih (Source.rest_next hs) with ⟨after, hread, hafter⟩
      exists after
      constructor
      · rw [readWord, hs]
        simpa using hread
      · exact hafter

/-- The outcome of reading is syntax that shows the value, and `rest` is left. -/
def NodeRead (value : Value) (rest : List Char)
    (outcome : Node × Option Source) : Prop :=
  exists node after,
    outcome = (node, some after) ∧ node.Shows value ∧ after.rest = rest

def ItemsRead (values : List Value) (rest : List Char)
    (outcome : Items × Option Source) : Prop :=
  exists items after,
    outcome = (items, some after) ∧ items.Shows values ∧ after.rest = rest

def MembersRead (entries : List (String × Value)) (rest : List Char)
    (outcome : Members × Option Source) : Prop :=
  exists members after,
    outcome = (members, some after) ∧ members.Shows entries ∧ after.rest = rest

theorem readNode_null (fuel : Nat) (hs : s.rest = ['n', 'u', 'l', 'l'] ++ rest) :
    NodeRead .null rest (readNode (fuel + 1) s) := by
  rcases readWord_append _ hs with ⟨after, hread, hafter⟩
  have hskip : s.skipBlanks = s := Source.skipBlanks_of_head hs rfl
  refine ⟨.null s.offset after.offset, after, ?_, .null, hafter⟩
  simp [readNode, hskip, hs, hread]

theorem readNode_true (fuel : Nat) (hs : s.rest = ['t', 'r', 'u', 'e'] ++ rest) :
    NodeRead (.bool true) rest (readNode (fuel + 1) s) := by
  rcases readWord_append _ hs with ⟨after, hread, hafter⟩
  have hskip : s.skipBlanks = s := Source.skipBlanks_of_head hs rfl
  refine ⟨.bool true s.offset after.offset, after, ?_, .bool, hafter⟩
  simp [readNode, hskip, hs, hread]

theorem readNode_false (fuel : Nat)
    (hs : s.rest = ['f', 'a', 'l', 's', 'e'] ++ rest) :
    NodeRead (.bool false) rest (readNode (fuel + 1) s) := by
  rcases readWord_append _ hs with ⟨after, hread, hafter⟩
  have hskip : s.skipBlanks = s := Source.skipBlanks_of_head hs rfl
  refine ⟨.bool false s.offset after.offset, after, ?_, .bool, hafter⟩
  simp [readNode, hskip, hs, hread]

theorem readNode_integer (fuel : Nat) {i : Int} (hfits : (Number.integer i).Fits)
    (hs : s.rest = integerText i ++ rest) (hrest : EndsNumber rest) :
    NodeRead (.number (.integer i)) rest (readNode (fuel + 1) s) := by
  rcases readNumber_integerText hs hrest with ⟨after, hread, hafter⟩
  rcases integerText_head i with ⟨c, text, htext, _, hc⟩
  rw [htext] at hs
  have hne := ne_of_number hc
  have hskip : s.skipBlanks = s := Source.skipBlanks_of_head hs hne.1
  refine ⟨.number (integerLexeme i) s.offset after.offset, after, ?_,
    .number (value_integerLexeme hfits), hafter⟩
  simp [readNode, hskip, hs, hread, hne, hc]

theorem readNode_string (fuel : Nat) (text : String)
    (hs : s.rest = stringText text ++ rest) :
    NodeRead (.string text) rest (readNode (fuel + 1) s) := by
  rcases stringAt_stringText text hs with ⟨after, hread, hafter⟩
  have hskip : s.skipBlanks = s := Source.skipBlanks_of_head hs rfl
  have hquote : Text.isDigit '\x22' = false := rfl
  refine ⟨.string (.ok text) s.offset after.offset, after, ?_, .string, hafter⟩
  simp [readNode, hskip, hs, hread, stringText, hquote]

theorem readNode_array {fuel : Nat} {values : List Value} {text : List Char}
    (hs : s.rest = '[' :: text)
    (hitems : ItemsRead values rest (readItems fuel true s.next)) :
    NodeRead (.array values) rest (readNode (fuel + 1) s) := by
  rcases hitems with ⟨items, after, hread, hshows, hafter⟩
  have hskip : s.skipBlanks = s := Source.skipBlanks_of_head hs rfl
  have hbracket : Text.isDigit '[' = false := rfl
  refine ⟨.array s.offset items, after, ?_, .array hshows, hafter⟩
  simp [readNode, hskip, hs, hread, hbracket]

theorem readNode_object {fuel : Nat} {entries : List (String × Value)}
    {text : List Char} (hs : s.rest = '\x7b' :: text)
    (hmembers : MembersRead entries rest (readMembers fuel true s.next)) :
    NodeRead (.object entries) rest (readNode (fuel + 1) s) := by
  rcases hmembers with ⟨members, after, hread, hshows, hafter⟩
  have hskip : s.skipBlanks = s := Source.skipBlanks_of_head hs rfl
  have hbrace : Text.isDigit '\x7b' = false := rfl
  refine ⟨.object s.offset s.next members, after, ?_, .object hshows, hafter⟩
  simp [readNode, hskip, hs, hread, hbrace]

/-- The text of a value begins neither with a blank nor with a closing bracket. -/
theorem chars_head {value : Value} (hwhole : value.Whole) :
    exists c text, value.chars = c :: text ∧
      Source.isBlank c = false ∧ c ≠ ']' := by
  cases value with
  | null =>
      exact ⟨_, _, rfl, rfl, by decide⟩
  | bool b =>
      cases b <;>
        exact ⟨_, _, rfl, rfl, by decide⟩
  | number n =>
      cases n with
      | integer i =>
          rcases integerText_head i with ⟨c, text, htext, _, hc⟩
          have hne := ne_of_number hc
          exact ⟨c, text, htext, hne.1, hne.2.1⟩
      | decimal x =>
          exact absurd (hwhole (.decimal x) List.mem_cons_self) id
  | string s =>
      exact ⟨_, _, rfl, rfl, by decide⟩
  | array items =>
      exact ⟨_, _, rfl, rfl, by decide⟩
  | object members =>
      exact ⟨_, _, rfl, rfl, by decide⟩

end Values

/-!
## Items and members

The texts of the items of an array follow each other with a comma before each
but the first, and so do those of the members of an object.
-/

section Sequences

variable {s : Source} {rest : List Char}

/-- Texts with a comma before each, or before each but the first. -/
def separated (first : Bool) (texts : List (List Char)) : List Char :=
  if first then Text.joinCommas texts else texts.flatMap (',' :: ·)

theorem separated_cons (first : Bool) (text : List Char)
    (texts : List (List Char)) :
    separated first (text :: texts) =
      (if first then text else ',' :: text) ++ separated false texts := by
  cases first with
  | true =>
      exact Text.joinCommas_cons text texts
  | false =>
      rfl

theorem length_separated_cons (first : Bool) (text : List Char)
    (texts : List (List Char)) :
    text.length + (separated false texts).length ≤
      (separated first (text :: texts)).length := by
  rw [separated_cons]
  cases first <;>
    simp

theorem endsNumber_separated {c : Char} (hc : c ∈ [',', ']', '\x7d'])
    (texts : List (List Char)) (rest : List Char) :
    EndsNumber (separated false texts ++ c :: rest) := by
  cases texts with
  | nil =>
      exact endsNumber_cons hc _
  | cons text texts =>
      exact endsNumber_cons (by decide) _

theorem itemStep_closed (first : Bool) (hs : s.rest = ']' :: rest) :
    itemStep first s = .closed s.next := by
  have hskip : s.skipBlanks = s := Source.skipBlanks_of_head hs rfl
  simp [itemStep, hskip, hs]

theorem itemStep_item {first : Bool} {c : Char} {text : List Char}
    (hblank : Source.isBlank c = false) (hc : c ≠ ']')
    (hs : s.rest = (if first then c :: text else ',' :: c :: text) ++ rest) :
    exists behind, itemStep first s = .item behind ∧
      behind.rest = c :: text ++ rest := by
  cases first with
  | true =>
      have hskip : s.skipBlanks = s := Source.skipBlanks_of_head hs hblank
      exists s
      simp [itemStep, hskip, hs, hc]
  | false =>
      have hnext : s.next.rest = c :: text ++ rest := Source.rest_next hs
      have hskip : s.skipBlanks = s := Source.skipBlanks_of_head hs rfl
      have hskip' : s.next.skipBlanks = s.next :=
        Source.skipBlanks_of_head hnext hblank
      exists s.next
      simp [itemStep, hskip, hs, hskip', hnext, Source.isAtEnd, Source.startsWith, hc]

theorem readItems_closed (fuel : Nat) (first : Bool) (hs : s.rest = ']' :: rest) :
    ItemsRead [] rest (readItems (fuel + 1) first s) := by
  refine ⟨.closed s.next.offset, s.next, ?_, .closed, Source.rest_next hs⟩
  rw [readItems, itemStep_closed first hs]

theorem readItems_item {fuel : Nat} {first : Bool} {behind : Source}
    {value : Value} {values : List Value} {text : List Char}
    (hstep : itemStep first s = .item behind)
    (hnode : NodeRead value text (readNode fuel behind))
    (hitems : forall middle : Source, middle.rest = text ->
      ItemsRead values rest (readItems fuel false middle)) :
    ItemsRead (value :: values) rest (readItems (fuel + 1) first s) := by
  rcases hnode with ⟨node, middle, hnode, hshows, hmiddle⟩
  rcases hitems middle hmiddle with ⟨items, after, hitems, hshows', hafter⟩
  refine ⟨.item behind.offset node items, after, ?_, .item hshows hshows', hafter⟩
  rw [readItems, hstep]
  simp only [hnode, hitems]

theorem memberStep_closed (first : Bool) (hs : s.rest = '\x7d' :: rest) :
    memberStep first s = .closed s.next := by
  have hskip : s.skipBlanks = s := Source.skipBlanks_of_head hs rfl
  simp [memberStep, hskip, hs]

theorem keyStep_stringText (key : String)
    (hs : s.rest = stringText key ++ ':' :: rest) :
    exists settled behind, keyStep s = .member (.ok key) settled behind ∧
      behind.rest = rest := by
  rcases stringAt_stringText key hs with ⟨colon, hread, hcolon⟩
  have hskip : colon.skipBlanks = colon := Source.skipBlanks_of_head hcolon rfl
  refine ⟨colon.offset, colon.next, ?_, Source.rest_next hcolon⟩
  simp [keyStep, hread, hskip, Source.startsWith_of_head hcolon]

theorem memberStep_member {first : Bool} {key : String} {text : List Char}
    (hs : s.rest =
      (if first then stringText key ++ ':' :: text
        else ',' :: (stringText key ++ ':' :: text)) ++ rest) :
    exists settled behind,
      memberStep first s = .member (.ok key) settled behind ∧
      behind.rest = text ++ rest := by
  cases first with
  | true =>
      have hkey : s.rest = stringText key ++ ':' :: (text ++ rest) := by
        simpa using hs
      have hskip : s.skipBlanks = s := Source.skipBlanks_of_head hs rfl
      rcases keyStep_stringText key hkey with ⟨settled, behind, hstep, hbehind⟩
      refine ⟨settled, behind, ?_, hbehind⟩
      rw [<- hstep]
      simp [memberStep, hskip, hs, stringText]
  | false =>
      have hkey : s.next.rest = stringText key ++ ':' :: (text ++ rest) := by
        rw [Source.rest_next hs]
        simp
      have hskip : s.skipBlanks = s := Source.skipBlanks_of_head hs rfl
      have hskip' : s.next.skipBlanks = s.next :=
        Source.skipBlanks_of_head hkey rfl
      rcases keyStep_stringText key hkey with ⟨settled, behind, hstep, hbehind⟩
      refine ⟨settled, behind, ?_, hbehind⟩
      rw [<- hstep]
      simp [memberStep, hskip, hs, hskip', hkey, stringText, Source.isAtEnd,
        Source.startsWith]

theorem readMembers_closed (fuel : Nat) (first : Bool)
    (hs : s.rest = '\x7d' :: rest) :
    MembersRead [] rest (readMembers (fuel + 1) first s) := by
  refine ⟨.closed s.next.offset, s.next, ?_, .closed, Source.rest_next hs⟩
  rw [readMembers, memberStep_closed first hs]

theorem readMembers_member {fuel : Nat} {first : Bool} {key : String}
    {settled : Nat} {behind : Source} {value : Value}
    {entries : List (String × Value)} {text : List Char}
    (hstep : memberStep first s = .member (.ok key) settled behind)
    (hnode : NodeRead value text (readNode fuel behind))
    (hmembers : forall middle : Source, middle.rest = text ->
      MembersRead entries rest (readMembers fuel false middle)) :
    MembersRead ((key, value) :: entries) rest (readMembers (fuel + 1) first s) := by
  rcases hnode with ⟨node, middle, hnode, hshows, hmiddle⟩
  rcases hmembers middle hmiddle with ⟨members, after, hmembers, hshows', hafter⟩
  refine ⟨.member (.ok key) settled node members, after, ?_,
    .member hshows hshows', hafter⟩
  rw [readMembers, hstep]
  simp only [hnode, hmembers]

end Sequences

/-!
## The texts of whole values

The recursion follows the value. A step of the reader takes fuel, but at least a
character of the text as well, so that twice the length of the text is enough.
-/

mutual

theorem readNode_chars (value : Value) {fuel : Nat} {s : Source} {rest : List Char}
    (hwhole : value.Whole) (hfits : value.Fits)
    (hs : s.rest = value.chars ++ rest) (hrest : EndsNumber rest)
    (hfuel : 2 * value.chars.length ≤ fuel) :
    NodeRead value rest (readNode fuel s) := by
  cases fuel with
  | zero =>
      -- Without fuel the text would be empty.
      rcases chars_head hwhole with ⟨c, text, htext, _⟩
      rw [htext, List.length_cons] at hfuel
      omega
  | succ fuel =>
      cases value with
      | null =>
          exact readNode_null fuel hs
      | bool b =>
          cases b with
          | false =>
              exact readNode_false fuel hs
          | true =>
              exact readNode_true fuel hs
      | number n =>
          cases n with
          | integer i =>
              exact readNode_integer fuel (hfits _ List.mem_cons_self) hs hrest
          | decimal x =>
              exact absurd (hwhole (.decimal x) List.mem_cons_self) id
      | string text =>
          exact readNode_string fuel text hs
      | array values =>
          rw [Value.chars] at hs hfuel
          simp only [List.length_cons, List.length_append, List.length_nil] at hfuel
          have hinside :
              s.next.rest = separated true (itemChars values) ++ ']' :: rest := by
            apply Source.rest_next (c := '[')
            simpa [separated] using hs
          have hlength :
              2 * (separated true (itemChars values)).length + 1 ≤ fuel := by
            simp only [separated, if_true]
            omega
          exact readNode_array hs
            (readItems_chars values true hwhole hfits hinside hlength)
      | object entries =>
          rw [Value.chars] at hs hfuel
          simp only [List.length_cons, List.length_append, List.length_nil] at hfuel
          have hinside :
              s.next.rest = separated true (memberChars entries) ++ '\x7d' :: rest := by
            apply Source.rest_next (c := '\x7b')
            simpa [separated] using hs
          have hlength :
              2 * (separated true (memberChars entries)).length + 1 ≤ fuel := by
            simp only [separated, if_true]
            omega
          exact readNode_object hs
            (readMembers_chars entries true hwhole hfits hinside hlength)

theorem readItems_chars (values : List Value) (first : Bool) {fuel : Nat}
    {s : Source} {rest : List Char}
    (hwhole : (Value.array values).Whole) (hfits : (Value.array values).Fits)
    (hs : s.rest = separated first (itemChars values) ++ ']' :: rest)
    (hfuel : 2 * (separated first (itemChars values)).length + 1 ≤ fuel) :
    ItemsRead values rest (readItems fuel first s) := by
  cases fuel with
  | zero =>
      omega
  | succ fuel =>
      cases values with
      | nil =>
          have hbracket : s.rest = ']' :: rest := by
            cases first <;>
              exact hs
          exact readItems_closed fuel first hbracket
      | cons value values =>
          have hwhole' : value.Whole ∧ (Value.array values).Whole :=
            List.forall_mem_append.mp hwhole
          have hfits' : value.Fits ∧ (Value.array values).Fits :=
            List.forall_mem_append.mp hfits
          rcases chars_head hwhole'.1 with ⟨c, text, htext, hblank, hc⟩
          -- A comma or the text itself pays for the step from item to item.
          have hpositive : 0 < value.chars.length := by
            simp [htext]
          have hlength :=
            length_separated_cons first value.chars (itemChars values)
          rw [itemChars] at hs hfuel
          have hnodeFuel : 2 * value.chars.length ≤ fuel := by omega
          have hitemsFuel :
              2 * (separated false (itemChars values)).length + 1 ≤ fuel := by
            omega
          rw [separated_cons, htext, List.append_assoc] at hs
          rcases itemStep_item hblank hc hs with ⟨behind, hstep, hbehind⟩
          rw [<- htext] at hbehind
          have hends :
              EndsNumber (separated false (itemChars values) ++ ']' :: rest) :=
            endsNumber_separated (by decide) _ _
          exact readItems_item hstep
            (readNode_chars value hwhole'.1 hfits'.1 hbehind hends hnodeFuel)
            fun _ hmiddle => readItems_chars values false hwhole'.2 hfits'.2
              hmiddle hitemsFuel

theorem readMembers_chars (entries : List (String × Value)) (first : Bool)
    {fuel : Nat} {s : Source} {rest : List Char}
    (hwhole : (Value.object entries).Whole) (hfits : (Value.object entries).Fits)
    (hs : s.rest = separated first (memberChars entries) ++ '\x7d' :: rest)
    (hfuel : 2 * (separated first (memberChars entries)).length + 1 ≤ fuel) :
    MembersRead entries rest (readMembers fuel first s) := by
  cases fuel with
  | zero =>
      omega
  | succ fuel =>
      cases entries with
      | nil =>
          have hbrace : s.rest = '\x7d' :: rest := by
            cases first <;>
              exact hs
          exact readMembers_closed fuel first hbrace
      | cons entry entries =>
          rcases entry with ⟨key, value⟩
          have hwhole' : value.Whole ∧ (Value.object entries).Whole :=
            List.forall_mem_append.mp hwhole
          have hfits' : value.Fits ∧ (Value.object entries).Fits :=
            List.forall_mem_append.mp hfits
          have hlength :=
            length_separated_cons first (stringText key ++ ':' :: value.chars)
              (memberChars entries)
          rw [memberChars] at hs hfuel
          rw [List.length_append, List.length_cons] at hlength
          have hnodeFuel : 2 * value.chars.length ≤ fuel := by omega
          have hmembersFuel :
              2 * (separated false (memberChars entries)).length + 1 ≤ fuel := by
            omega
          rw [separated_cons, List.append_assoc] at hs
          rcases memberStep_member hs with ⟨settled, behind, hstep, hbehind⟩
          have hends :
              EndsNumber (separated false (memberChars entries) ++ '\x7d' :: rest) :=
            endsNumber_separated (by decide) _ _
          exact readMembers_member hstep
            (readNode_chars value hwhole'.1 hfits'.1 hbehind hends hnodeFuel)
            fun _ hmiddle => readMembers_chars entries false hwhole'.2 hfits'.2
              hmiddle hmembersFuel

end

theorem ofText_chars {value : Value} (hwhole : value.Whole) (hfits : value.Fits) :
    NodeRead value [] (Node.ofText value.chars) := by
  have hs : (Source.start value.chars).rest = value.chars ++ [] :=
    (List.append_nil _).symm
  have hfuel :
      2 * value.chars.length ≤ (Source.start value.chars).fuel :=
    Nat.le_add_right _ _
  exact readNode_chars value hwhole hfits hs endsNumber_nil hfuel

/-- What reads all syntax that shows a value also reads the text of the value. -/
theorem load_text {α : Type} {read : Node -> Except Fault α} {value : Value} {a : α}
    (hwhole : value.Whole) (hfits : value.Fits)
    (hread : forall node, node.Shows value -> read node = .ok a) :
    load read value.text = .ok a := by
  rcases ofText_chars hwhole hfits with ⟨node, after, hnode, hshows, hafter⟩
  have htext : value.text.toList = value.chars := by
    simp [Value.text]
  have hend : after.skipBlanks.isAtEnd = true := by
    simp [Source.skipBlanks, Source.after, Source.isAtEnd, hafter]
  simp only [load, htext, hnode, hread node hshows, bind, Except.bind, hend]
  rfl

end Json
end AgentFiles
