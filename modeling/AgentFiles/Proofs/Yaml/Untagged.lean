import AgentFiles.Proofs.Yaml.Reading
import AgentFiles.Proofs.Yaml.Resolution

/-!
# Values with and without tags

A value in which no tag is kept can also be read where tags are faults, in the
same way. A value that is a text, under a tag or not, was read from a scalar
with that text, and null without a tag was read from a scalar that is written as
null, unless the document is empty.
-/

namespace AgentFiles
namespace Yaml

open Reading

namespace Value

theorem under_of_hasName_false {tag : Option Tag} (value : Value)
    (htag : Document.hasName tag = false) : value.under tag = value := by
  cases tag with
  | none =>
      rfl
  | some t =>
      cases t with
      | named name =>
          cases htag
      | bool | int | float | null | undecodable | other =>
          rfl

theorem under_of_hasName {tag : Option Tag} (value : Value)
    (htag : Document.hasName tag = true) :
    exists name, value.under tag = .tagged (Tag.text name) value := by
  cases tag with
  | none =>
      cases htag
  | some t =>
      cases t with
      | named name =>
          exact ⟨name, rfl⟩
      | bool | int | float | null | undecodable | other =>
          cases htag

theorem text?_under (tag : Option Tag) (value : Value) :
    (value.under tag).text? = value.text? := by
  cases htag : Document.hasName tag with
  | false =>
      rw [under_of_hasName_false value htag]
  | true =>
      rcases under_of_hasName value htag with ⟨name, hunder⟩
      rw [hunder]
      rfl

theorem under_eq_iff {other : Value} (tag : Option Tag) (value : Value)
    (hother : forall name inner, other ≠ .tagged name inner) :
    value.under tag = other <->
      Document.hasName tag = false ∧ value = other := by
  cases htag : Document.hasName tag with
  | false =>
      rw [under_of_hasName_false value htag]
      simp
  | true =>
      rcases under_of_hasName value htag with ⟨name, hunder⟩
      rw [hunder]
      simp [Ne.symm (hother (Tag.text name) value)]

theorem under_eq_null_iff (tag : Option Tag) (value : Value) :
    value.under tag = .null <->
      Document.hasName tag = false ∧ value = .null :=
  under_eq_iff tag value (by simp)

theorem under_eq_mapping_iff (tag : Option Tag) (value : Value)
    (entries : List (Value × Value)) :
    value.under tag = .mapping entries <->
      Document.hasName tag = false ∧ value = .mapping entries :=
  under_eq_iff tag value (by simp)

theorem hasTag_under_eq_false_iff (tag : Option Tag) (value : Value) :
    (value.under tag).hasTag = false <->
      Document.hasName tag = false ∧ value.hasTag = false := by
  cases htag : Document.hasName tag with
  | false =>
      rw [under_of_hasName_false value htag]
      simp
  | true =>
      rcases under_of_hasName value htag with ⟨name, hunder⟩
      rw [hunder]
      simp [hasTag]

end Value

namespace Document

/-!
## Reading without tags
-/

/-- What the first reading reads without a tag in it, the second one reads as well. -/
def SameUntagged (read read' : Path -> Node -> Reading Value) : Prop :=
  forall path path' node jumps value after,
    read path node jumps = .ok (value, after) -> value.hasTag = false ->
      read' path' node jumps = .ok (value, after)

theorem readItems_untagged {read read' : Path -> Node -> Reading Value}
    (hread : SameUntagged read read') (path path' : Path) {index : Nat}
    {items : List Node} {jumps last : Nat} {values : List Value}
    (h : readItems read path index items jumps = .ok (values, last))
    (htag : Value.itemsHaveTag values = false) :
    readItems read' path' index items jumps = .ok (values, last) := by
  induction items generalizing index jumps values with
  | nil =>
      exact h
  | cons node rest ih =>
      simp only [readItems, bind_eq_ok_iff, pure_eq_ok_iff] at h
      rcases h with ⟨value, after, hvalue, values', last', hvalues, heq⟩
      cases heq
      rw [Value.itemsHaveTag, Bool.or_eq_false_iff] at htag
      simp only [readItems, bind_eq_ok_iff, pure_eq_ok_iff]
      exact ⟨value, after, hread _ _ _ _ _ _ hvalue htag.left,
        values', last, ih hvalues htag.right, rfl⟩

theorem readEntries_untagged {read read' : Path -> Node -> Reading Value}
    (hread : SameUntagged read read') (path path' : Path)
    {entries : List (Node × Node)} {jumps last : Nat}
    {values : List (Value × Value)}
    (h : readEntries read path entries jumps = .ok (values, last))
    (htag : Value.entriesHaveTag values = false) :
    readEntries read' path' entries jumps = .ok (values, last) := by
  induction entries generalizing jumps values with
  | nil =>
      exact h
  | cons entry rest ih =>
      rcases entry with ⟨keyNode, valueNode⟩
      simp only [readEntries, bind_eq_ok_iff, pure_eq_ok_iff] at h
      rcases h with
        ⟨key, after, hkey, value, after', hvalue, values', last', hvalues, heq⟩
      cases heq
      rw [Value.entriesHaveTag, Bool.or_eq_false_iff,
        Bool.or_eq_false_iff] at htag
      simp only [readEntries, bind_eq_ok_iff, pure_eq_ok_iff]
      exact ⟨key, after, hread _ _ _ _ _ _ hkey htag.left.left,
        value, after', hread _ _ _ _ _ _ hvalue htag.left.right,
        values', last, ih hvalues htag.right, rfl⟩

theorem readAt_untagged {doc : Document}
    {inner inner' : Option (Path -> Node -> Reading Value)}
    (hinner : forall read, inner = some read ->
      exists read', inner' = some read' ∧ SameUntagged read read') :
    SameUntagged (doc.readAt true inner) (doc.readAt false inner') := by
  intro path path' node jumps value last h htag
  rcases readAt_eq_ok h with ⟨found, after, hfollow, hfound⟩
  rw [readAt_of_follow hfollow]
  cases found with
  | scalar mark anchor tag text style =>
      rcases readAt_scalar_iff.mp hfound with ⟨_, bare, hbare, heq⟩
      cases heq
      have hname := (Value.hasTag_under_eq_false_iff tag bare).mp htag
      apply readAt_scalar_iff.mpr
      exact ⟨by simp [hname.left], bare, hbare, rfl⟩
  | sequence mark anchor tag items =>
      rcases readAt_sequence_iff.mp hfound with
        ⟨_, read, values, last', hread, hitems, heq⟩
      cases heq
      have hname := (Value.hasTag_under_eq_false_iff tag _).mp htag
      rcases hinner read hread with ⟨read', hread', hsame⟩
      apply readAt_sequence_iff.mpr
      exact ⟨by simp [hname.left], read', values, last, hread',
        readItems_untagged hsame path path' hitems hname.right, rfl⟩
  | mapping mark anchor tag entries =>
      rcases readAt_mapping_iff.mp hfound with
        ⟨_, read, values, last', hread, hentries, heq⟩
      cases heq
      have hname := (Value.hasTag_under_eq_false_iff tag _).mp htag
      rcases hinner read hread with ⟨read', hread', hsame⟩
      apply readAt_mapping_iff.mpr
      exact ⟨by simp [hname.left], read', values, last, hread',
        readEntries_untagged hsame path path' hentries hname.right, rfl⟩
  | void mark =>
      exact hfound
  | «alias» mark number =>
      exact absurd rfl (not_alias_of_follow hfollow mark number)
  | cut =>
      exact absurd hfound readAt_cut_ne_ok

theorem read_untagged (doc : Document) (depth : Nat) :
    SameUntagged (doc.read true depth) (doc.read false depth) := by
  induction depth with
  | zero =>
      apply readAt_untagged
      intro read hread
      cases hread
  | succ depth ih =>
      apply readAt_untagged
      intro read hread
      cases hread
      exact ⟨doc.read false depth, rfl, ih⟩

/-!
## Texts and nulls
-/

theorem readScalar_eq_ok_iff {tag : Option Tag} {text : String} {style : Style}
    {value : Value} :
    readScalar tag text style = .ok value <->
      Scalar.resolve tag text style = .ok (.value value) := by
  unfold readScalar
  cases Scalar.resolve tag text style with
  | error expected =>
      simp
  | ok scalar =>
      cases scalar <;> simp

section Shapes

variable {doc : Document} {tags : Bool}
variable {inner : Option (Path -> Node -> Reading Value)}
variable {path : Path} {node : Node} {jumps last : Nat} {value : Value}

theorem scalar_of_readAt_text {s : String}
    (h : doc.readAt tags inner path node jumps = .ok (value, last))
    (hs : value.text? = some s) :
    exists mark anchor tag style,
      doc.follow node jumps = .ok (.scalar mark anchor tag s style, last) := by
  rcases readAt_eq_ok h with ⟨found, after, hfollow, hfound⟩
  cases found with
  | scalar mark anchor tag text style =>
      rcases readAt_scalar_iff.mp hfound with ⟨_, bare, hbare, heq⟩
      cases heq
      rw [Value.text?_under] at hs
      rw [readScalar_eq_ok_iff] at hbare
      rw [(Scalar.meaning_of_resolve hbare).text_eq hs]
      exact ⟨mark, anchor, tag, style, hfollow⟩
  | sequence mark anchor tag items =>
      rcases readAt_sequence_iff.mp hfound with ⟨_, _, _, _, _, _, heq⟩
      cases heq
      rw [Value.text?_under] at hs
      cases hs
  | mapping mark anchor tag entries =>
      rcases readAt_mapping_iff.mp hfound with ⟨_, _, _, _, _, _, heq⟩
      cases heq
      rw [Value.text?_under] at hs
      cases hs
  | void mark =>
      cases hfound
      cases hs
  | «alias» mark number =>
      exact absurd rfl (not_alias_of_follow hfollow mark number)
  | cut =>
      exact absurd hfound readAt_cut_ne_ok

theorem mapping_of_readAt {values : List (Value × Value)}
    (h : doc.readAt tags inner path node jumps = .ok (.mapping values, last))
    (hself : doc.follow node jumps = .ok (node, jumps)) :
    exists mark anchor tag nodes read,
      node = .mapping mark anchor tag nodes ∧ inner = some read ∧
        readEntries read path nodes jumps = .ok (values, last) := by
  cases node with
  | mapping mark anchor tag nodes =>
      rcases readAt_mapping_iff.mp h with
        ⟨_, read, values', last', hinner, hentries, heq⟩
      rw [Prod.mk.injEq, eq_comm, Value.under_eq_mapping_iff] at heq
      rcases heq with ⟨⟨_, hvalues⟩, rfl⟩
      cases hvalues
      exact ⟨mark, anchor, tag, nodes, read, rfl, hinner, hentries⟩
  | sequence mark anchor tag items =>
      rcases readAt_sequence_iff.mp h with ⟨_, _, _, _, _, _, heq⟩
      rw [Prod.mk.injEq, eq_comm, Value.under_eq_mapping_iff] at heq
      cases heq.left.right
  | scalar mark anchor tag text style =>
      rcases readAt_scalar_iff.mp h with ⟨_, bare, hbare, heq⟩
      rw [Prod.mk.injEq, eq_comm, Value.under_eq_mapping_iff] at heq
      rw [readScalar_eq_ok_iff, heq.left.right] at hbare
      cases Scalar.meaning_of_resolve hbare
  | void mark =>
      cases h
  | «alias» mark number =>
      exact absurd rfl (not_alias_of_follow hself mark number)
  | cut =>
      exact absurd h readAt_cut_ne_ok

end Shapes

end Document

theorem Value.mapping_of_ofText {text : String}
    {values : List (Value × Value)}
    (h : Value.ofText text = .ok (.mapping values)) :
    exists mark anchor tag nodes last,
      (Document.ofText text).root = .mapping mark anchor tag nodes ∧
        Document.readEntries ((Document.ofText text).read true (fullDepth - 1))
          .root nodes 0 = .ok (values, last) ∧
        (Document.ofText text).flaw = none ∧
        (Document.ofText text).more = false := by
  rcases Document.readRoot_eq_ok_iff.mp (Value.readRoot_of_ofText h) with
    ⟨last, hread, hflaw, hmore⟩
  rcases Document.readAt_eq_ok hread with ⟨found, after, hfollow, hfound⟩
  rcases Document.root_of_follow_root hfollow with ⟨rfl, rfl⟩
  rcases Document.mapping_of_readAt hfound hfollow with
    ⟨mark, anchor, tag, nodes, read, hroot, hinner, hentries⟩
  cases hinner
  exact ⟨mark, anchor, tag, nodes, last, hroot, hentries, hflaw, hmore⟩

end Yaml
end AgentFiles
