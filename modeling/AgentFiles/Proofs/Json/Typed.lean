import AgentFiles.Proofs.Json.Records

/-!
# What typed values are written as

A typed codec writes no double: doubles can only stand in the untyped parts of a
value.
-/

namespace AgentFiles
namespace Json

variable {R α : Type}

namespace Codec

class Typed (codec : Codec α) : Prop where
  whole : forall a, (codec.write a).Whole

theorem whole_of_no_numbers {value : Value} (hvalue : value.numbers = []) :
    value.Whole := by
  intro n hn
  rw [hvalue] at hn
  cases hn

instance : Typed text where
  whole := fun _ => whole_of_no_numbers rfl

instance : Typed flag where
  whole := fun _ => whole_of_no_numbers rfl

instance {expected : String} {low high : Int} : Typed (integer expected low high) where
  whole := by
    intro i n hn
    rw [List.mem_singleton.mp hn]
    trivial

instance : Typed signed64 :=
  inferInstanceAs (Typed (integer _ _ _))

instance : Typed unsigned32 :=
  inferInstanceAs (Typed (integer _ _ _))

instance : Typed Kind.codec where
  whole := fun _ => whole_of_no_numbers rfl

instance {codec : Codec α} [hcodec : Typed codec] : Typed (list codec) where
  whole := by
    intro as n hn
    rcases mem_itemNumbers.mp hn with ⟨value, hvalue, hmem⟩
    rcases List.mem_map.mp hvalue with ⟨a, _, heq⟩
    rw [<- heq] at hmem
    exact hcodec.whole a n hmem

instance {codec : Codec α} [hcodec : Typed codec] : Typed (map codec) where
  whole := by
    intro entries n hn
    rcases mem_memberNumbers.mp hn with ⟨member, hmember, hmem⟩
    rcases List.mem_map.mp hmember with ⟨entry, _, heq⟩
    rw [<- heq] at hmem
    exact hcodec.whole entry.2 n hmem

instance : Typed ToolList.codec where
  whole := by
    intro tools
    cases tools with
    | list items =>
        intro n hn
        rcases mem_itemNumbers.mp hn with ⟨value, hvalue, hmem⟩
        rcases List.mem_map.mp hvalue with ⟨item, _, heq⟩
        rw [<- heq] at hmem
        cases hmem
    | inline line =>
        exact whole_of_no_numbers rfl

end Codec

/-!
## Fields
-/

namespace Field

class Typed (field : Field R) : Prop where
  whole : forall r value, field.write r = some value -> value.Whole

section Kinds

variable {key : String} {codec : Codec α} [hcodec : codec.Typed]

instance {get : R -> α} {set : α -> R -> R} :
    Typed (mandatory key codec get set) where
  whole := by
    intro r value hwrite
    injection hwrite with hvalue
    rw [<- hvalue]
    exact hcodec.whole (get r)

instance {get : R -> α} {set : α -> R -> R} :
    Typed (defaulted key codec get set) where
  whole := by
    intro r value hwrite
    injection hwrite with hvalue
    rw [<- hvalue]
    exact hcodec.whole (get r)

instance {get : R -> Option α} {set : Option α -> R -> R} :
    Typed (optional key codec get set) where
  whole := by
    intro r value hwrite
    rcases Option.map_eq_some_iff.mp hwrite with ⟨a, _, hvalue⟩
    rw [<- hvalue]
    exact hcodec.whole a

end Kinds

class AllTyped (fields : List (Field R)) : Prop where
  typed : forall field, field ∈ fields -> field.Typed

instance : AllTyped ([] : List (Field R)) :=
  ⟨fun _ hnil => absurd hnil List.not_mem_nil⟩

instance {field : Field R} {fields : List (Field R)} [hfield : field.Typed]
    [hfields : AllTyped fields] : AllTyped (field :: fields) :=
  ⟨List.forall_mem_cons.mpr ⟨hfield, hfields.typed⟩⟩

end Field

/-!
## Records
-/

namespace Record

variable {record : Record R}

theorem whole_writeMembers {r : R}
    (hfields : forall field, field ∈ record.fields -> forall value,
      field.write r = some value -> value.Whole) :
    (Value.object (record.writeMembers r)).Whole := by
  intro n hn
  rcases mem_memberNumbers.mp hn with ⟨member, hmember, hmem⟩
  rcases List.mem_filterMap.mp hmember with ⟨field, hfield, hwritten⟩
  rcases Option.map_eq_some_iff.mp hwritten with ⟨value, hvalue, heq⟩
  rw [<- heq] at hmem
  exact hfields field hfield value hvalue n hmem

theorem whole_withExtra {extra : R -> List (String × Value)}
    {setExtra : List (String × Value) -> R -> R} {r : R}
    (hfields : forall field, field ∈ record.fields -> forall value,
      field.write r = some value -> value.Whole)
    (hextra : (Value.object (extra r)).Whole) :
    ((record.codecWithExtra extra setExtra).write r).Whole := by
  intro n hn
  rcases mem_memberNumbers.mp hn with ⟨member, hmember, hmem⟩
  rcases List.mem_append.mp hmember with hwritten | hadded
  · exact whole_writeMembers hfields n
      (mem_memberNumbers.mpr ⟨member, hwritten, hmem⟩)
  · exact hextra n (mem_memberNumbers.mpr ⟨member, hadded, hmem⟩)

theorem typed_codec (hfields : Field.AllTyped record.fields) :
    record.codec.Typed where
  whole := fun r => whole_writeMembers fun field hfield =>
    (hfields.typed field hfield).whole r

end Record

end Json
end AgentFiles
