import AgentFiles.Yaml.Document

/-!
# The tree of a document

A void stands for a document without any node and is found nowhere else: every
node that is built while events are taken has content, is an alias or is cut
off. So the root of a document has no void below it.
-/

namespace AgentFiles
namespace Yaml

namespace Node

def isVoid : Node -> Bool
  | .void _ => true
  | _ => false

def children : Node -> List Node
  | .sequence _ _ _ items => items
  | .mapping _ _ _ entries => entries.flatMap fun entry => [entry.1, entry.2]
  | _ => []

def IsFilled (node : Node) : Prop :=
  node.isVoid = false ∧ forall child, child ∈ node.children -> child.isVoid = false

theorem isFilled_of_no_children {node : Node} (hvoid : node.isVoid = false)
    (hchildren : node.children = []) : node.IsFilled := by
  refine ⟨hvoid, ?_⟩
  rw [hchildren]
  intro child hchild
  cases hchild

end Node

namespace Frame

def nodes : Frame -> List Node
  | .sequence _ _ _ items => items
  | .mapping _ _ _ entries key =>
    key.toList ++ entries.flatMap fun entry => [entry.1, entry.2]

def IsFilled (frame : Frame) : Prop :=
  forall node, node ∈ frame.nodes -> node.isVoid = false

theorem mem_nodes_add {frame : Frame} {node other : Node}
    (h : other ∈ (frame.add node).nodes) :
    other = node ∨ other ∈ frame.nodes := by
  cases frame with
  | sequence mark anchor tag items =>
      exact List.mem_cons.mp h
  | mapping mark anchor tag entries key =>
      cases key with
      | none =>
          simpa [add, nodes] using h
      | some key =>
          simp only [add, nodes, List.flatMap_cons, Option.toList_none,
            Option.toList_some, List.mem_append, List.mem_cons] at h ⊢
          grind

theorem mem_children_close {frame : Frame} {child : Node}
    (h : child ∈ frame.close.children) : child ∈ frame.nodes := by
  cases frame with
  | sequence mark anchor tag items =>
      simpa [close, Node.children, nodes] using h
  | mapping mark anchor tag entries key =>
      simp only [close, Node.children, nodes, List.mem_flatMap,
        List.mem_reverse, List.mem_append] at h ⊢
      exact Or.inr h

theorem isVoid_close (frame : Frame) : frame.close.isVoid = false := by
  cases frame <;>
    rfl

theorem IsFilled.add {frame : Frame} {node : Node} (hframe : frame.IsFilled)
    (hnode : node.isVoid = false) : (frame.add node).IsFilled := by
  intro other hother
  rcases mem_nodes_add hother with rfl | hmem
  · exact hnode
  · exact hframe other hmem

theorem IsFilled.close {frame : Frame} (hframe : frame.IsFilled) :
    frame.close.IsFilled :=
  ⟨frame.isVoid_close, fun child hchild =>
    hframe child (mem_children_close hchild)⟩

theorem IsFilled.cutOff {frame : Frame} {node : Node}
    (hframe : frame.IsFilled) (hnode : node.isVoid = false) :
    (frame.cutOff node).IsFilled := by
  cases frame with
  | sequence mark anchor tag items =>
      exact (hframe.add hnode).close
  | mapping mark anchor tag entries key =>
      cases key with
      | some key =>
          exact (hframe.add hnode).close
      | none =>
          have hcut :
              Frame.cutOff node (.mapping mark anchor tag entries none) =
                (Frame.mapping mark anchor tag ((node, .cut) :: entries)
                  none).close := rfl
          rw [hcut]
          apply IsFilled.close
          intro other hother
          simp only [nodes, Option.toList_none, List.nil_append,
            List.flatMap_cons, List.mem_append, List.mem_cons,
            List.not_mem_nil, or_false] at hother
          rcases hother with (rfl | rfl) | hmem
          · exact hnode
          · rfl
          · exact hframe other (by simpa [nodes] using hmem)

end Frame

namespace Assembly

/-- No void was added to an open collection, and the root has none. -/
structure IsFilled (a : Assembly) : Prop where
  frames : forall frame, frame ∈ a.frames -> frame.IsFilled
  root : forall node, a.root = some node -> node.IsFilled

theorem isFilled_empty : ({} : Assembly).IsFilled where
  frames := by
    intro frame hframe
    cases hframe
  root := by
    intro node hnode
    cases hnode

theorem IsFilled.add {a : Assembly} {node : Node} (ha : a.IsFilled)
    (hnode : node.IsFilled) : (a.add node).IsFilled := by
  unfold Assembly.add
  cases hframes : a.frames with
  | nil =>
      refine ⟨?_, ?_⟩
      · intro frame hframe
        cases hframe
      · intro other hother
        cases hother
        exact hnode
  | cons frame frames =>
      have hall := ha.frames
      rw [hframes] at hall
      refine ⟨?_, ha.root⟩
      intro other hother
      rcases List.mem_cons.mp hother with rfl | hmem
      · exact (hall frame List.mem_cons_self).add hnode.left
      · exact hall other (List.mem_cons_of_mem _ hmem)

theorem IsFilled.close {a : Assembly} (ha : a.IsFilled) : a.close.IsFilled := by
  unfold Assembly.close
  cases hframes : a.frames with
  | nil =>
      exact ha
  | cons frame frames =>
      have hall := ha.frames
      rw [hframes] at hall
      apply IsFilled.add
      · exact ⟨fun other hother => hall other (List.mem_cons_of_mem _ hother),
          ha.root⟩
      · exact (hall frame List.mem_cons_self).close

theorem IsFilled.push {a : Assembly} {frame : Frame} (ha : a.IsFilled)
    (hframe : frame.nodes = []) :
    IsFilled { a with frames := frame :: a.frames } := by
  refine ⟨?_, ha.root⟩
  intro other hother
  rcases List.mem_cons.mp hother with rfl | hmem
  · intro node hnode
    rw [hframe] at hnode
    cases hnode
  · exact ha.frames other hmem

theorem IsFilled.number {a : Assembly} (ha : a.IsFilled)
    (name : Option (List Char)) : (a.number name).2.IsFilled := by
  cases name with
  | none =>
      exact ha
  | some name =>
      exact ⟨ha.frames, ha.root⟩

theorem IsFilled.take {a a' : Assembly} {event : Event} (ha : a.IsFilled)
    (h : a.take event = .ok a') : a'.IsFilled := by
  have hcounted : IsFilled { a with size := a.size + 1 } :=
    ⟨ha.frames, ha.root⟩
  unfold Assembly.take at h
  cases hbody : event.body with
  | «alias» name =>
      simp only [hbody] at h
      split at h
      · cases h
        exact hcounted.add (Node.isFilled_of_no_children rfl rfl)
      · cases h
  | scalar anchor tag text style =>
      simp only [hbody] at h
      cases h
      exact (hcounted.number anchor).add (Node.isFilled_of_no_children rfl rfl)
  | sequenceStart anchor tag =>
      simp only [hbody] at h
      cases h
      exact (hcounted.number anchor).push rfl
  | mappingStart anchor tag =>
      simp only [hbody] at h
      cases h
      exact (hcounted.number anchor).push rfl
  | sequenceEnd =>
      simp only [hbody] at h
      cases h
      exact hcounted.close
  | mappingEnd =>
      simp only [hbody] at h
      cases h
      exact hcounted.close
  | streamEnd | documentStart | documentEnd =>
      simp only [hbody] at h
      cases h
      exact hcounted

theorem isFilled_foldl_cutOff {frames : List Frame} {node : Node}
    (hframes : forall frame, frame ∈ frames -> frame.IsFilled)
    (hnode : node.IsFilled) :
    (frames.foldl (fun node frame => frame.cutOff node) node).IsFilled := by
  induction frames generalizing node with
  | nil =>
      exact hnode
  | cons frame rest ih =>
      apply ih
      · intro other hother
        exact hframes other (List.mem_cons_of_mem _ hother)
      · exact (hframes frame List.mem_cons_self).cutOff hnode.left

theorem IsFilled.tree {a : Assembly} (ha : a.IsFilled) : a.tree.IsFilled := by
  unfold Assembly.tree
  cases hroot : a.root with
  | some node =>
      exact ha.root node hroot
  | none =>
      exact isFilled_foldl_cutOff ha.frames
        (Node.isFilled_of_no_children rfl rfl)

end Assembly

namespace Document

theorem children_of_assemble (fuel : Nat) {a : Assembly} (g : Grammar)
    (ha : a.IsFilled) :
    forall child, child ∈ (assemble fuel a g).root.children ->
      child.isVoid = false := by
  induction fuel generalizing a g with
  | zero =>
      exact ha.tree.right
  | succ fuel ih =>
      unfold assemble
      cases hnext : g.next with
      | error problem =>
          exact ha.tree.right
      | ok next =>
          rcases next with ⟨event, rest⟩
          cases hbody : event.body with
          | documentStart =>
              simp only [hbody]
              exact ih rest ha
          | documentEnd =>
              simp only [hbody]
              exact ha.tree.right
          | streamEnd =>
              simp only [hbody]
              intro child hchild
              cases hchild
          | «alias» | scalar | sequenceStart | sequenceEnd | mappingStart
          | mappingEnd =>
              simp only [hbody]
              cases htake : a.take event with
              | error fault =>
                  exact ha.tree.right
              | ok a' =>
                  exact ih rest (ha.take htake)

theorem children_of_bodyOf (text : List Char) (offset : Nat) :
    forall child, child ∈ (bodyOf text offset).root.children ->
      child.isVoid = false := by
  unfold bodyOf
  cases findControl? offset text with
  | some place =>
      exact Assembly.isFilled_empty.tree.right
  | none =>
      exact children_of_assemble _ _ Assembly.isFilled_empty

theorem isVoid_of_child (text : String) {child : Node}
    (h : child ∈ (Document.ofText text).root.children) :
    child.isVoid = false := by
  unfold Document.ofText at h
  split at h
  · exact children_of_bodyOf _ _ child h
  · exact children_of_bodyOf _ _ child h

end Document
end Yaml
end AgentFiles
