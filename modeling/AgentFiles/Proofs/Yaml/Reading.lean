import AgentFiles.Proofs.Outcome
import AgentFiles.Yaml.Reading

/-!
# Reading nodes

A successful reading is taken apart once for each shape of a node: first the
node is followed to what it stands for, then its tag is looked at, then its
content is read. What is read without any tag in it can be read where tags are
faults, with the same number of jumps.
-/

namespace AgentFiles
namespace Yaml

namespace Reading

/-!
## Successful steps
-/

theorem bind_eq_ok_iff {α β : Type} {x : Reading α} {f : α -> Reading β}
    {jumps : Nat} {result : β × Nat} :
    (x >>= f) jumps = .ok result <->
      exists a after, x jumps = .ok (a, after) ∧ f a after = .ok result := by
  cases hx : x jumps with
  | error fault =>
      have hbind : (x >>= f) jumps = .error fault := by
        simp [bind, StateT.bind, hx, Except.bind]
      simp [hbind]
  | ok first =>
      rcases first with ⟨a, after⟩
      have hbind : (x >>= f) jumps = f a after := by
        simp [bind, StateT.bind, hx, Except.bind]
      rw [hbind]
      constructor
      · intro h
        exact ⟨a, after, rfl, h⟩
      · intro h
        rcases h with ⟨_, _, hfirst, h⟩
        cases hfirst
        exact h

theorem pure_eq_ok_iff {α : Type} {a : α} {jumps : Nat} {result : α × Nat} :
    (pure a : Reading α) jumps = .ok result <-> result = (a, jumps) := by
  have hpure : (pure a : Reading α) jumps = .ok (a, jumps) := rfl
  rw [hpure, Except.ok.injEq, eq_comm]

theorem throw_ne_ok {α : Type} {fault : Fault} {jumps : Nat}
    {result : α × Nat} :
    (throw fault : Reading α) jumps ≠ .ok result := by
  intro h
  cases h

theorem lift_eq_ok_iff {α : Type} {x : Except Fault α} {jumps : Nat}
    {result : α × Nat} :
    (liftM x : Reading α) jumps = .ok result <->
      x = .ok result.1 ∧ result.2 = jumps := by
  cases x with
  | error fault =>
      simp [liftM, monadLift, MonadLift.monadLift, StateT.lift, bind,
        Except.bind]
  | ok a =>
      simp [liftM, monadLift, MonadLift.monadLift, StateT.lift, bind,
        Except.bind, pure, Except.pure, Prod.ext_iff, eq_comm]

end Reading

open Reading

/-!
## What an alias stands for
-/

namespace Node

def isContent : Node -> Bool
  | .scalar .. => true
  | .sequence .. => true
  | .mapping .. => true
  | _ => false

mutual

theorem isContent_of_last? {number : Nat} {found : Node} :
    forall node : Node,
      node.last? number = some found -> found.isContent = true
  | .scalar mark anchor tag text style, h => by
      rw [last?, Option.ite_none_right_eq_some] at h
      rcases h with ⟨_, hself⟩
      cases hself
      rfl
  | .sequence mark anchor tag items, h => by
      rw [last?, Option.or_eq_some_iff, Option.ite_none_right_eq_some] at h
      rcases h with hitems | ⟨_, _, hself⟩
      · exact isContent_of_lastOfItems? items hitems
      · cases hself
        rfl
  | .mapping mark anchor tag entries, h => by
      rw [last?, Option.or_eq_some_iff, Option.ite_none_right_eq_some] at h
      rcases h with hentries | ⟨_, _, hself⟩
      · exact isContent_of_lastOfEntries? entries hentries
      · cases hself
        rfl
  | .alias _ _, h => by
      cases h
  | .void _, h => by
      cases h
  | .cut, h => by
      cases h

theorem isContent_of_lastOfItems? {number : Nat} {found : Node} :
    forall items : List Node,
      lastOfItems? number items = some found -> found.isContent = true
  | [], h => by
      cases h
  | node :: rest, h => by
      rw [lastOfItems?, Option.or_eq_some_iff] at h
      rcases h with hrest | ⟨_, hnode⟩
      · exact isContent_of_lastOfItems? rest hrest
      · exact isContent_of_last? node hnode

theorem isContent_of_lastOfEntries? {number : Nat} {found : Node} :
    forall entries : List (Node × Node),
      lastOfEntries? number entries = some found -> found.isContent = true
  | [], h => by
      cases h
  | (key, value) :: rest, h => by
      rw [lastOfEntries?, Option.or_eq_some_iff, Option.or_eq_some_iff] at h
      rcases h with hrest | ⟨_, hvalue | ⟨_, hkey⟩⟩
      · exact isContent_of_lastOfEntries? rest hrest
      · exact isContent_of_last? value hvalue
      · exact isContent_of_last? key hkey

end

end Node

namespace Document

/-- The node itself, or the one that an alias stands for, with no count of jumps. -/
def target (doc : Document) : Node -> Node
  | .alias _ number => (doc.root.last? number).getD .cut
  | node => node

theorem last?_of_follow_alias {doc : Document} {mark : Mark}
    {number jumps after : Nat} {found : Node}
    (h : doc.follow (.alias mark number) jumps = .ok (found, after)) :
    doc.root.last? number = some found := by
  unfold follow jump at h
  simp only at h
  rw [bind_eq_ok_iff] at h
  rcases h with ⟨count, start, _, h⟩
  split at h
  · cases h
  · rw [bind_eq_ok_iff] at h
    rcases h with ⟨_, _, _, h⟩
    cases hlast : doc.root.last? number with
    | none =>
        rw [hlast] at h
        cases h
    | some node =>
        rw [hlast] at h
        cases h
        rfl

theorem target_of_follow {doc : Document} {node found : Node}
    {jumps after : Nat} (h : doc.follow node jumps = .ok (found, after)) :
    doc.target node = found := by
  cases node with
  | «alias» mark number =>
      rw [target, last?_of_follow_alias h]
      rfl
  | scalar | sequence | mapping | void | cut =>
      cases h
      rfl

theorem isContent_or_eq_of_follow {doc : Document} {node found : Node}
    {jumps after : Nat} (h : doc.follow node jumps = .ok (found, after)) :
    found.isContent = true ∨
      (found = node ∧ forall mark number, node ≠ .alias mark number) := by
  cases node with
  | «alias» mark number =>
      exact Or.inl
        (Node.isContent_of_last? doc.root (last?_of_follow_alias h))
  | scalar | sequence | mapping | void | cut =>
      cases h
      exact Or.inr ⟨rfl, by simp⟩

theorem not_alias_of_follow {doc : Document} {node found : Node}
    {jumps after : Nat} (h : doc.follow node jumps = .ok (found, after))
    (mark : Mark) (number : Nat) : found ≠ .alias mark number := by
  rcases isContent_or_eq_of_follow h with hcontent | ⟨hnode, hself⟩
  · intro halias
    rw [halias] at hcontent
    cases hcontent
  · rw [hnode]
    exact hself mark number

theorem follow_again {doc : Document} {node found : Node} {jumps after : Nat}
    (h : doc.follow node jumps = .ok (found, after)) (count : Nat) :
    doc.follow found count = .ok (found, count) := by
  cases found with
  | «alias» mark number =>
      exact absurd rfl (not_alias_of_follow h mark number)
  | scalar | sequence | mapping | void | cut =>
      rfl

theorem void_of_follow {doc : Document} {node : Node} {mark : Mark}
    {jumps after : Nat}
    (h : doc.follow node jumps = .ok (.void mark, after)) :
    node = .void mark := by
  rcases isContent_or_eq_of_follow h with hcontent | ⟨hnode, _⟩
  · cases hcontent
  · exact hnode.symm

theorem follow_eq_of_follow {doc : Document} {node found : Node}
    {jumps after : Nat} (h : doc.follow node jumps = .ok (found, after)) :
    doc.follow node jumps = doc.follow found after := by
  rw [h, follow_again h]

/-!
## One lemma for each shape of a node
-/

section Shapes

variable {doc : Document} {tags : Bool}
variable {inner : Option (Path -> Node -> Reading Value)}
variable {path : Path} {node : Node} {jumps after : Nat}
variable {result : Value × Nat}

/-- A reading depends on what a node stands for only. -/
theorem readAt_of_follow {found : Node}
    (h : doc.follow node jumps = .ok (found, after)) :
    doc.readAt tags inner path node jumps =
      doc.readAt tags inner path found after := by
  have hfollow := follow_eq_of_follow h
  unfold readAt
  simp only [bind, StateT.bind, hfollow]

theorem readAt_eq_ok {value : Value} {last : Nat}
    (h : doc.readAt tags inner path node jumps = .ok (value, last)) :
    exists found after, doc.follow node jumps = .ok (found, after) ∧
      doc.readAt tags inner path found after = .ok (value, last) := by
  have hagain := h
  unfold readAt at h
  rw [bind_eq_ok_iff] at h
  rcases h with ⟨found, after, hfollow, _⟩
  exists found, after
  rw [<- readAt_of_follow hfollow]
  exact ⟨hfollow, hagain⟩

theorem checkTag_eq_ok_iff {tag : Option Tag} {fault : Fault} {u : Unit} :
    (if (hasName tag && !tags) = true then .error fault else .ok () :
        Except Fault Unit) = .ok u <->
      (hasName tag = true -> tags = true) := by
  cases hasName tag <;> cases tags <;> simp

theorem readAt_scalar_iff {mark : Mark} {anchor : Option Nat}
    {tag : Option Tag} {text : String} {style : Style} :
    doc.readAt tags inner path (.scalar mark anchor tag text style) jumps =
        .ok result <->
      (hasName tag = true -> tags = true) ∧
        exists bare, readScalar tag text style = .ok bare ∧
          result = (Value.under tag bare, jumps) := by
  have hself : doc.follow (.scalar mark anchor tag text style) =
      pure (.scalar mark anchor tag text style) := rfl
  unfold readAt
  rw [hself, pure_bind]
  simp only [bind_eq_ok_iff, lift_eq_ok_iff]
  constructor
  · intro h
    rcases h with ⟨_, _, ⟨htag, rfl⟩, h⟩
    cases hscalar : readScalar tag text style with
    | error cause =>
        rw [hscalar] at h
        cases h
    | ok bare =>
        rw [hscalar] at h
        exact ⟨checkTag_eq_ok_iff.mp htag, bare, rfl, pure_eq_ok_iff.mp h⟩
  · intro h
    rcases h with ⟨htag, bare, hscalar, rfl⟩
    exists (), jumps
    rw [hscalar]
    exact ⟨⟨checkTag_eq_ok_iff.mpr htag, rfl⟩, rfl⟩

theorem enter_eq_ok_iff {mark : Mark} {read : Path -> Node -> Reading Value} :
    (match inner with
      | some read => .ok read
      | none => .error (.tooDeep mark) :
        Except Fault (Path -> Node -> Reading Value)) = .ok read <->
      inner = some read := by
  cases inner <;> simp

theorem readAt_sequence_iff {mark : Mark} {anchor : Option Nat}
    {tag : Option Tag} {items : List Node} :
    doc.readAt tags inner path (.sequence mark anchor tag items) jumps =
        .ok result <->
      (hasName tag = true -> tags = true) ∧
        exists read values last, inner = some read ∧
          readItems read path 0 items jumps = .ok (values, last) ∧
          result = (Value.under tag (.sequence values), last) := by
  have hself : doc.follow (.sequence mark anchor tag items) =
      pure (.sequence mark anchor tag items) := rfl
  unfold readAt
  rw [hself, pure_bind]
  simp only [bind_eq_ok_iff, lift_eq_ok_iff, pure_eq_ok_iff]
  constructor
  · intro h
    rcases h with
      ⟨_, _, ⟨htag, rfl⟩, read, _, ⟨hinner, rfl⟩, values, last, hitems, rfl⟩
    exact ⟨checkTag_eq_ok_iff.mp htag, read, values, last,
      enter_eq_ok_iff.mp hinner, hitems, rfl⟩
  · intro h
    rcases h with ⟨htag, read, values, last, hinner, hitems, rfl⟩
    exact ⟨(), jumps, ⟨checkTag_eq_ok_iff.mpr htag, rfl⟩, read, jumps,
      ⟨enter_eq_ok_iff.mpr hinner, rfl⟩, values, last, hitems, rfl⟩

theorem readAt_mapping_iff {mark : Mark} {anchor : Option Nat}
    {tag : Option Tag} {entries : List (Node × Node)} :
    doc.readAt tags inner path (.mapping mark anchor tag entries) jumps =
        .ok result <->
      (hasName tag = true -> tags = true) ∧
        exists read values last, inner = some read ∧
          readEntries read path entries jumps = .ok (values, last) ∧
          result = (Value.under tag (.mapping values), last) := by
  have hself : doc.follow (.mapping mark anchor tag entries) =
      pure (.mapping mark anchor tag entries) := rfl
  unfold readAt
  rw [hself, pure_bind]
  simp only [bind_eq_ok_iff, lift_eq_ok_iff, pure_eq_ok_iff]
  constructor
  · intro h
    rcases h with
      ⟨_, _, ⟨htag, rfl⟩, read, _, ⟨hinner, rfl⟩, values, last, hentries, rfl⟩
    exact ⟨checkTag_eq_ok_iff.mp htag, read, values, last,
      enter_eq_ok_iff.mp hinner, hentries, rfl⟩
  · intro h
    rcases h with ⟨htag, read, values, last, hinner, hentries, rfl⟩
    exact ⟨(), jumps, ⟨checkTag_eq_ok_iff.mpr htag, rfl⟩, read, jumps,
      ⟨enter_eq_ok_iff.mpr hinner, rfl⟩, values, last, hentries, rfl⟩

theorem readAt_cut_ne_ok :
    doc.readAt tags inner path .cut jumps ≠ .ok result := by
  intro h
  cases h

end Shapes

/-!
## Roots
-/

theorem readRoot_eq_ok_iff {α : Type} {doc : Document}
    {read : Node -> Reading α} {a : α} :
    doc.readRoot read = .ok a <->
      exists last, read doc.root 0 = .ok (a, last) ∧
        doc.flaw = none ∧ doc.more = false := by
  unfold readRoot StateT.run
  cases hread : read doc.root 0 with
  | error fault =>
      simp [bind, Except.bind]
  | ok result =>
      rcases result with ⟨b, last⟩
      cases doc.flaw <;> cases doc.more <;>
        simp [bind, Except.bind, pure, Except.pure, throw, throwThe,
          MonadExceptOf.throw]

/-- The root of a document is no alias that can be followed. -/
theorem root_of_follow_root {doc : Document} {found : Node}
    {jumps after : Nat} (h : doc.follow doc.root jumps = .ok (found, after)) :
    found = doc.root ∧ after = jumps := by
  cases hroot : doc.root with
  | «alias» mark number =>
      rw [hroot] at h
      have hlast := last?_of_follow_alias h
      rw [hroot] at hlast
      cases hlast
  | scalar | sequence | mapping | void | cut =>
      rw [hroot] at h
      cases h
      exact ⟨rfl, rfl⟩

end Document

theorem Value.ofText_eq_ok_iff {text : String} {value : Value} :
    Value.ofText text = .ok value <->
      (Document.ofText text).readRoot
          ((Document.ofText text).read true fullDepth .root) = .ok value ∧
        value.repeatedKey? = none := by
  simp only [Value.ofText, Outcome.bind_eq_ok_iff]
  constructor
  · rintro ⟨read, hread, hvalue⟩
    split at hvalue
    · cases hvalue
    · rename_i hrepeated
      cases hvalue
      exact ⟨hread, hrepeated⟩
  · rintro ⟨hread, hrepeated⟩
    exact ⟨value, hread, by rw [hrepeated]; rfl⟩

theorem Value.readRoot_of_ofText {text : String} {value : Value}
    (h : Value.ofText text = .ok value) :
    (Document.ofText text).readRoot
      ((Document.ofText text).read true fullDepth .root) = .ok value :=
  (Value.ofText_eq_ok_iff.mp h).left

end Yaml
end AgentFiles
