import AgentFiles.Load
import AgentFiles.Proofs.Json.Records
import Mathlib.Data.List.Forall2

/-!
# Typed and untyped readings of one syntax

The same syntax can be read with a codec and as an untyped value. Where both succeed,
what the codec reads is what the value has at the same position: a text is the same
text, a list has as many items, and a field of a record is what its key finds among
the members, or has its place in an array. A declared key does not occur twice in an
object, so that it does not matter which of two members counts.
-/

namespace AgentFiles
namespace Json

variable {R α ε : Type} {depth : Nat}

/-!
## Codecs
-/

theorem read_array_eq_ok {start : Nat} {items : Items} {value : Value}
    (hread : Node.read depth (.array start items) = .ok value) :
    exists inner values, descend depth start = .ok inner ∧
      items.read inner = .ok values ∧ value = .array values := by
  rcases Outcome.bind_eq_ok_iff.mp hread with ⟨inner, hdescend, hread⟩
  rcases Outcome.bind_eq_ok_iff.mp hread with ⟨values, hvalues, heq⟩
  injection heq with heq
  exact ⟨inner, values, hdescend, hvalues, heq.symm⟩

theorem read_object_eq_ok {start : Nat} {inside : Source} {members : Members}
    {value : Value} (hread : Node.read depth (.object start inside members) = .ok value) :
    exists inner raw, descend depth start = .ok inner ∧ members.read inner = .ok raw ∧
      value = .object (Keyed.ofList raw) := by
  rcases Outcome.bind_eq_ok_iff.mp hread with ⟨inner, hdescend, hread⟩
  rcases Outcome.bind_eq_ok_iff.mp hread with ⟨raw, hraw, heq⟩
  injection heq with heq
  exact ⟨inner, raw, hdescend, hraw, heq.symm⟩

theorem read_member_eq_ok {key : String} {settled : Nat} {node : Node} {rest : Members}
    {raw : List (String × Value)}
    (hread : Members.read depth (.member (.ok key) settled node rest) = .ok raw) :
    exists value later, node.read depth = .ok value ∧ rest.read depth = .ok later ∧
      raw = (key, value) :: later := by
  rcases Outcome.bind_eq_ok_iff.mp hread with ⟨k, hkey, hread⟩
  rcases Outcome.bind_eq_ok_iff.mp hread with ⟨value, hvalue, hread⟩
  rcases Outcome.bind_eq_ok_iff.mp hread with ⟨later, hlater, heq⟩
  injection hkey with hkey
  injection heq with heq
  rw [<- hkey] at heq
  exact ⟨value, later, hvalue, hlater, heq.symm⟩

theorem eq_null_of_read {node : Node} (hread : node.read depth = .ok .null) :
    exists start stop, node = .null start stop := by
  cases node with
  | null start stop =>
      exact ⟨start, stop, rfl⟩
  | number | string =>
      rcases Outcome.map_eq_ok_iff.mp hread with ⟨_, _, heq⟩
      cases heq
  | array =>
      rcases read_array_eq_ok hread with ⟨_, _, _, _, heq⟩
      cases heq
  | object =>
      rcases read_object_eq_ok hread with ⟨_, _, _, _, heq⟩
      cases heq
  | bool | broken =>
      cases hread

theorem Value.isObject_iff {value : Value} :
    value.isObject = true <-> exists members, value = .object members := by
  cases value <;>
    simp [isObject]

theorem read_of_load {a : α} {read : Node -> Except Fault α} {text : String}
    (hload : load read text = .ok a) : read (Node.ofText text.toList).1 = .ok a := by
  rw [load] at hload
  rcases hnode : Node.ofText text.toList with ⟨node, rest⟩
  rw [hnode] at hload
  rcases Outcome.bind_eq_ok_iff.mp hload with ⟨b, hread, hrest⟩
  cases rest with
  | none =>
      injection hrest with hb
      rw [<- hb]
      exact hread
  | some rest =>
      simp only at hrest
      split at hrest
      · injection hrest with hb
        rw [<- hb]
        exact hread
      · cases hrest

namespace Codec

variable {codec : Codec α} {a : α} {value : Value}

/-- Some syntax is read with the codec as the one and without it as the other. -/
def Agrees (codec : Codec α) (depth : Nat) (a : α) (value : Value) : Prop :=
  exists node, codec.read depth node = .ok a ∧ node.read depth = .ok value

theorem text_agrees {s : String} (h : text.Agrees depth s value) : value = .string s := by
  rcases h with ⟨node, hread, hvalue⟩
  cases node with
  | string content start stop =>
      have hcontent : content = .ok s := hread
      rw [hcontent] at hvalue
      injection hvalue with hvalue
      exact hvalue.symm
  | null | bool | number | array | object | broken =>
      cases hread

theorem items_agree :
    forall (items : Items) (as : List α) (values : List Value),
      readItems (codec.read depth) items = .ok as -> items.read depth = .ok values ->
        List.Forall₂ (codec.Agrees depth) as values
  | .closed _, as, values, hread, hvalues => by
      injection hread with has
      injection hvalues with hvalues
      rw [<- has, <- hvalues]
      exact .nil
  | .broken _ _ _, _, _, hread, _ => by
      cases hread
  | .item _ node rest, as, values, hread, hvalues => by
      rcases Outcome.bind_eq_ok_iff.mp hread with ⟨a, ha, hread⟩
      rcases Outcome.bind_eq_ok_iff.mp hread with ⟨as', has', heq⟩
      rcases Outcome.bind_eq_ok_iff.mp hvalues with ⟨value, hvalue, hvalues⟩
      rcases Outcome.bind_eq_ok_iff.mp hvalues with ⟨values', hvalues', heq'⟩
      injection heq with heq
      injection heq' with heq'
      rw [<- heq, <- heq']
      exact .cons ⟨node, ha, hvalue⟩ (items_agree rest as' values' has' hvalues')

theorem list_agrees {as : List α} (h : (list codec).Agrees depth as value) :
    exists inner values, value = .array values ∧
      List.Forall₂ (codec.Agrees inner) as values := by
  rcases h with ⟨node, hread, hvalue⟩
  cases node with
  | array start items =>
      rcases Outcome.bind_eq_ok_iff.mp hread with ⟨inner, hdescend, hitems⟩
      rcases read_array_eq_ok hvalue with ⟨inner', values, hdescend', hvalues, heq⟩
      rw [hdescend] at hdescend'
      injection hdescend' with hinner
      subst hinner
      exact ⟨inner, values, heq, items_agree items as values hitems hvalues⟩
  | null | bool | number | string | object | broken =>
      cases hread

theorem isArray_of_list_agrees {as : List α} (h : (list codec).Agrees depth as value) :
    value.isArray = true := by
  rcases list_agrees h with ⟨_, _, hvalue, _⟩
  rw [hvalue]
  rfl

theorem isObject_of_map_agrees {entries : List (String × α)}
    (h : (map codec).Agrees depth entries value) : value.isObject = true := by
  rcases h with ⟨node, hread, hvalue⟩
  cases node with
  | object start inside members =>
      rcases read_object_eq_ok hvalue with ⟨_, _, _, _, heq⟩
      rw [heq]
      rfl
  | null | bool | number | string | array | broken =>
      cases hread

theorem agrees_of_load {content : String} (hload : loadJson codec content = .ok a)
    (hvalue : Value.ofText content = .ok value) : codec.Agrees fullDepth a value := by
  have hread : codec.load content = .ok a := Outcome.mapError_eq_ok_iff.mp hload
  exact ⟨_, read_of_load hread, read_of_load hvalue⟩

end Codec

/-!
## Fields

A field that was given was read into some record, and nothing else changed what it
writes.
-/

namespace Field

variable {field : Field R} {start r : R} {value? : Option Value}

/-- How the field got from one record to the other, and what an untyped reading has in
its place, if anything. -/
inductive Agrees (field : Field R) (depth : Nat) (start r : R) : Option Value -> Prop where
  | missing (hoptional : field.required = false)
      (hwrite : field.write r = field.write start) : Agrees field depth start r none
  | given {node : Node} {update : R -> R} {value : Value} {middle : R}
      (hread : field.read depth node = .ok update)
      (hvalue : node.read depth = .ok value)
      (hwrite : field.write r = field.write (update middle)) :
      Agrees field depth start r (some value)

theorem Agrees.of_start {start' : R} (h : field.Agrees depth start' r value?)
    (hwrite : field.write start' = field.write start) : field.Agrees depth start r value? := by
  cases h with
  | missing hoptional hsame =>
      exact .missing hoptional (hsame.trans hwrite)
  | given hread hvalue hsame =>
      exact .given hread hvalue hsame

theorem Agrees.of_write {r' : R} (h : field.Agrees depth start r' value?)
    (hwrite : field.write r = field.write r') : field.Agrees depth start r value? := by
  cases h with
  | missing hoptional hsame =>
      exact .missing hoptional (hwrite.trans hsame)
  | given hread hvalue hsame =>
      exact .given hread hvalue (hwrite.trans hsame)

section Kinds

variable {key : String} {codec : Codec α} [hcodec : codec.Faithful]

theorem mandatory_agrees {get : R -> α} {set : α -> R -> R}
    (hget : forall a r, get (set a r) = a)
    (h : (mandatory key codec get set).Agrees depth start r value?) :
    exists value, value? = some value ∧ codec.Agrees depth (get r) value := by
  cases h with
  | missing hoptional hwrite =>
      cases hoptional
  | given hread hvalue hwrite =>
      rename_i node update value middle
      rcases Outcome.map_eq_ok_iff.mp hread with ⟨a, ha, hupdate⟩
      rw [mandatory_write_iff, <- hupdate, hget] at hwrite
      exact ⟨value, rfl, node, by rw [hwrite]; exact ha, hvalue⟩

theorem optional_agrees {get : R -> Option α} {set : Option α -> R -> R}
    (hget : forall a? r, get (set a? r) = a?) (hstart : get start = none)
    (h : (optional key codec get set).Agrees depth start r value?) :
    ((value? = none ∨ value? = some .null) ∧ get r = none) ∨
      exists a value, value? = some value ∧ value ≠ .null ∧ get r = some a ∧
        codec.Agrees depth a value := by
  cases h with
  | missing hoptional hwrite =>
      rw [optional_write_iff] at hwrite
      exact .inl ⟨.inl rfl, hwrite.trans hstart⟩
  | given hread hvalue hwrite =>
      rename_i node update value middle
      rw [optional_write_iff] at hwrite
      cases node with
      | null =>
          injection hread with hupdate
          injection hvalue with hvalue
          rw [<- hupdate, hget] at hwrite
          exact .inl ⟨.inr (congrArg some hvalue.symm), hwrite⟩
      | bool | number | string | array | object | broken =>
          rcases Outcome.map_eq_ok_iff.mp hread with ⟨a, ha, hupdate⟩
          rw [<- hupdate, hget] at hwrite
          refine .inr ⟨a, value, rfl, ?_, hwrite, _, ha, hvalue⟩
          rintro rfl
          rcases eq_null_of_read hvalue with ⟨_, _, hnode⟩
          cases hnode

end Kinds

end Field

/-!
## Records
-/

namespace Record

variable {record : Record R} {unknown : String -> Node -> Except Fault (List ε)}
variable {field : Field R}

/-- Every field agrees with what its key finds among the members. -/
def Agrees (record : Record R) (depth : Nat) (r : R) (members : List (String × Value)) :
    Prop :=
  forall field, field ∈ record.fields ->
    field.Agrees depth record.blank r (Keyed.find? field.key members)

/-- A member moves its own field from unseen to seen and leaves every other field as it
is. -/
theorem readMembers_member_step {key : Except Fault String} {settled : Nat}
    {node : Node} {rest : Members} {seen : List String} {r r' : R} {others : List ε}
    (hlawful : record.Lawful depth)
    (hread : record.readMembers unknown depth seen r
      (.member key settled node rest) = .ok (r', others)) :
    exists k seen' middle later, key = .ok k ∧
      record.readMembers unknown depth seen' middle rest = .ok (r', later) ∧
      forall field, field ∈ record.fields ->
        (field.key = k -> field.key ∉ seen ∧ field.key ∈ seen' ∧
          exists update, field.read depth node = .ok update ∧ middle = update r) ∧
        (field.key ≠ k -> (field.key ∈ seen' <-> field.key ∈ seen) ∧
          field.write middle = field.write r) := by
  rcases readMembers_member_eq_ok hread with
    ⟨k, hk, ⟨given, update, hfound, hunseen, hupdate, hrest⟩ |
      ⟨found, later, hfound, _, hrest, _⟩⟩
  · rcases mem_of_field? hfound with ⟨hgiven, hkey⟩
    refine ⟨k, k :: seen, update r, others, hk, hrest, ?_⟩
    intro field hfield
    constructor
    · rintro rfl
      have heq : given = field := eq_of_key hlawful.apart hfield hgiven hkey
      subst heq
      exact ⟨hunseen, List.mem_cons_self, update, hupdate, rfl⟩
    · intro hne
      refine ⟨by simp [hne], ?_⟩
      rcases Field.eq_or_apart hlawful.apart hfield hgiven with rfl | happart
      · exact absurd hkey hne
      · exact happart.right depth node update hupdate r
  · refine ⟨k, seen, r, later, hk, hrest, ?_⟩
    intro field hfield
    constructor
    · rintro rfl
      rw [field?_of_mem hlawful.apart hfield] at hfound
      cases hfound
    · exact fun _ => ⟨Iff.rfl, rfl⟩

theorem unchanged_of_seen (hlawful : record.Lawful depth) (hfield : field ∈ record.fields) :
    forall (members : Members) (seen : List String) (r r' : R) (others : List ε)
      (raw : List (String × Value)),
      record.readMembers unknown depth seen r members = .ok (r', others) ->
      members.read depth = .ok raw -> field.key ∈ seen ->
        field.key ∉ raw.map (·.1) ∧ field.write r' = field.write r
  | .closed _, seen, r, r', others, raw, hread, hraw, hseen => by
      rcases readMembers_closed_eq_ok hread with ⟨hr, _, _⟩
      injection hraw with hraw
      rw [<- hraw, hr]
      exact ⟨List.not_mem_nil, rfl⟩
  | .broken _ _, _, _, _, _, _, hread, _, _ => by
      cases hread
  | .member _ _ node rest, seen, r, r', others, raw, hread, hraw, hseen => by
      rcases readMembers_member_step hlawful hread with
        ⟨k, seen', middle, others', rfl, hrest, hstep⟩
      rcases read_member_eq_ok hraw with ⟨value, later, _, hlater, heq⟩
      rcases hstep field hfield with ⟨hgiven, hkept⟩
      have hne : field.key ≠ k := fun h => (hgiven h).left hseen
      rcases hkept hne with ⟨hseen', hwrite⟩
      rcases unchanged_of_seen hlawful hfield rest seen' middle r' others' later hrest
        hlater (hseen'.mpr hseen) with ⟨habsent, hsame⟩
      exact ⟨by simp [heq, hne, habsent], hsame.trans hwrite⟩

theorem agrees_of_unseen (hlawful : record.Lawful depth) (hfield : field ∈ record.fields) :
    forall (members : Members) (seen : List String) (r r' : R) (others : List ε)
      (raw : List (String × Value)),
      record.readMembers unknown depth seen r members = .ok (r', others) ->
      members.read depth = .ok raw -> field.key ∉ seen ->
        field.Agrees depth r r' (Keyed.find? field.key raw.reverse)
  | .closed _, seen, r, r', others, raw, hread, hraw, hunseen => by
      rcases readMembers_closed_eq_ok hread with ⟨hr, _, hrequired⟩
      injection hraw with hraw
      rw [<- hraw, hr]
      refine .missing ?_ rfl
      rw [<- Bool.not_eq_true]
      exact fun hneeded => hunseen (hrequired field hfield hneeded)
  | .broken _ _, _, _, _, _, _, hread, _, _ => by
      cases hread
  | .member _ _ node rest, seen, r, r', others, raw, hread, hraw, hunseen => by
      rcases readMembers_member_step hlawful hread with
        ⟨k, seen', middle, others', rfl, hrest, hstep⟩
      rcases read_member_eq_ok hraw with ⟨value, later, hvalue, hlater, heq⟩
      rcases hstep field hfield with ⟨hgiven, hkept⟩
      rw [heq, List.reverse_cons, Keyed.find?_append]
      by_cases hkey : field.key = k
      · rcases hgiven hkey with ⟨_, hseen', update, hupdate, hmiddle⟩
        rcases unchanged_of_seen hlawful hfield rest seen' middle r' others' later hrest
          hlater hseen' with ⟨habsent, hwrite⟩
        have hnone : Keyed.find? field.key later.reverse = none := by
          rw [Keyed.find?_eq_none_iff]
          simpa using habsent
        rw [hmiddle] at hwrite
        rw [hnone, Keyed.find?, if_pos hkey.symm]
        exact .given hupdate hvalue hwrite
      · rcases hkept hkey with ⟨hseen', hwrite⟩
        have hagrees := agrees_of_unseen hlawful hfield rest seen' middle r' others' later
          hrest hlater (hseen'.not.mpr hunseen)
        rw [Keyed.find?, if_neg (Ne.symm hkey), Keyed.find?, Option.or_none]
        exact hagrees.of_start hwrite

theorem agrees_of_readMembers {members : Members} {r : R} {others : List ε}
    {raw : List (String × Value)} (hlawful : record.Lawful depth)
    (hread : record.readMembers unknown depth [] record.blank members = .ok (r, others))
    (hraw : members.read depth = .ok raw) : record.Agrees depth r (Keyed.ofList raw) := by
  intro field hfield
  rw [Keyed.find?_ofList]
  exact agrees_of_unseen hlawful hfield members [] record.blank r others raw hread hraw
    List.not_mem_nil

theorem codec_agrees {r : R} {value : Value} (hlawful : forall depth, record.Lawful depth)
    (h : record.codec.Agrees depth r value) :
    (exists items, value = .array items) ∨
      exists inner members, value = .object members ∧ record.Agrees inner r members := by
  rcases h with ⟨node, hread, hvalue⟩
  cases node with
  | array start items =>
      rcases read_array_eq_ok hvalue with ⟨_, values, _, _, heq⟩
      exact .inl ⟨values, heq⟩
  | object start inside members =>
      rcases Outcome.bind_eq_ok_iff.mp hread with ⟨inner, hdescend, hread⟩
      rcases Outcome.bind_eq_ok_iff.mp hread with ⟨⟨r', others⟩, hmembers, hr⟩
      rcases read_object_eq_ok hvalue with ⟨inner', raw, hdescend', hraw, heq⟩
      rw [hdescend] at hdescend'
      injection hdescend' with hinner
      subst hinner
      injection hr with hr
      subst hr
      exact .inr ⟨inner, _, heq, agrees_of_readMembers (hlawful inner) hmembers hraw⟩
  | null | bool | number | string | broken =>
      cases hread

theorem agrees_of_object {r : R} {members : List (String × Value)}
    (hlawful : forall depth, record.Lawful depth)
    (h : record.codec.Agrees depth r (.object members)) :
    exists inner, record.Agrees inner r members := by
  rcases codec_agrees hlawful h with ⟨_, harray⟩ | ⟨inner, members', hobject, hagrees⟩
  · cases harray
  · injection hobject with hmembers
    rw [hmembers]
    exact ⟨inner, hagrees⟩

/-!
## Extra members
-/

section Extra

variable {extra : R -> List (String × Value)}
variable {setExtra : List (String × Value) -> R -> R}

def undeclared (record : Record R) (members : List (String × Value)) :
    List (String × Value) :=
  members.filter fun member => (record.field? member.1).isNone

theorem kept_eq_undeclared :
    forall (members : Members) (seen : List String) (r r' : R)
      (others raw : List (String × Value)),
      record.readMembers (keep depth) depth seen r members = .ok (r', others) ->
      members.read depth = .ok raw -> others = record.undeclared raw
  | .closed _, seen, r, r', others, raw, hread, hraw => by
      rcases readMembers_closed_eq_ok hread with ⟨_, hothers, _⟩
      injection hraw with hraw
      rw [<- hraw, hothers]
      rfl
  | .broken _ _, _, _, _, _, _, hread, _ => by
      cases hread
  | .member _ _ node rest, seen, r, r', others, raw, hread, hraw => by
      rcases readMembers_member_eq_ok hread with
        ⟨k, rfl, ⟨field, update, hfound, _, _, hrest⟩ |
          ⟨found, others', hfound, hkept, hrest, hothers⟩⟩
      · rcases read_member_eq_ok hraw with ⟨value, later, _, hlater, heq⟩
        rw [kept_eq_undeclared rest _ _ r' others later hrest hlater, heq]
        simp [undeclared, hfound]
      · rcases read_member_eq_ok hraw with ⟨value, later, hvalue, hlater, heq⟩
        rw [keep, hvalue] at hkept
        injection hkept with hkept
        rw [hothers, kept_eq_undeclared rest _ _ r' others' later hrest hlater, heq,
          <- hkept]
        simp [undeclared, hfound]

/-- A record with extra members is read from an object. Its extra members are those
that the object has under undeclared keys. -/
theorem codecWithExtra_agrees {r : R} {value : Value}
    (hlawful : forall depth, record.Lawful depth)
    (hholds : record.HoldsExtra extra setExtra)
    (h : (record.codecWithExtra extra setExtra).Agrees depth r value) :
    exists inner members, value = .object members ∧ Keyed.Sorted members ∧
      record.Agrees inner r members ∧ extra r = record.undeclared members := by
  rcases h with ⟨node, hread, hvalue⟩
  cases node with
  | object start inside members =>
      rcases Outcome.bind_eq_ok_iff.mp hread with ⟨inner, hdescend, hread⟩
      rcases Outcome.bind_eq_ok_iff.mp hread with ⟨⟨r', others⟩, hmembers, hr⟩
      rcases read_object_eq_ok hvalue with ⟨inner', raw, hdescend', hraw, heq⟩
      rw [hdescend] at hdescend'
      injection hdescend' with hinner
      subst hinner
      injection hr with hr
      refine ⟨inner, _, heq, Keyed.sorted_ofList raw, ?_, ?_⟩
      · intro field hfield
        have hagrees := agrees_of_readMembers (hlawful inner) hmembers hraw field hfield
        apply hagrees.of_write
        rw [<- hr, hholds.write_set _ r' field hfield]
      · rw [<- hr, hholds.extra_set,
          kept_eq_undeclared members [] record.blank r' others raw hmembers hraw]
        exact Keyed.ofList_filter fun key => (record.field? key).isNone
  | null | bool | number | string | array | broken =>
      cases hread

end Extra

end Record

end Json
end AgentFiles
