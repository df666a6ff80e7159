import AgentFiles.Header.Text
import AgentFiles.Proofs.Header.Entries
import AgentFiles.Proofs.Yaml.Tree
import AgentFiles.Proofs.Yaml.Untagged

/-!
# Single entries from texts and from values

An entry of a header is read straight from its node, or a value is read from the
node first and the entry is taken from the value. Where the second way succeeds
the first one gives the same, but for scalars that stand for null and are not
taken as absent: quoted ones under the tag of null, and plain ones under a local
tag that is no text.
-/

namespace AgentFiles

/-- Whether a scalar is null as a value and yet not absent as an entry of a header. -/
def Yaml.Node.isHiddenNull : Yaml.Node -> Bool
  | .scalar _ _ (some .null) text style =>
    style != .plain && isNullWord text.toList
  | .scalar _ _ (some .undecodable) text style =>
    style == .plain && (text == "" || isNullWord text.toList)
  | _ => false

namespace Header

open Yaml (Document Node Reading Path Mark Fault Cause Style Tag)
open Yaml.Reading
open Yaml.Document

/-!
## Absent entries
-/

theorem isAbsent_of_null {mark : Mark} {anchor : Option Nat}
    {tag : Option Tag} {text : String} {style : Style}
    (h : Yaml.Scalar.resolve tag text style = .ok (.value .null))
    (hname : hasName tag = false) :
    isAbsent (.scalar mark anchor tag text style) =
      .ok (!(Node.scalar mark anchor tag text style).isHiddenNull) := by
  rcases (Yaml.Scalar.resolve_eq_null_iff tag text style).mp h with
    ⟨rfl, hword⟩ | ⟨hlocal, rfl, hword⟩
  · cases style <;>
      simp [isAbsent, Node.isHiddenNull, hword]
  · cases tag with
    | none =>
        simp only [isAbsent, Node.isHiddenNull, hword]
        rfl
    | some t =>
        cases t with
        | undecodable =>
            simp only [isAbsent, Node.isHiddenNull, hword]
            rfl
        | named name =>
            cases hname
        | bool | int | float | null | other =>
            cases hlocal _ rfl

theorem isAbsent_of_ne_null {mark : Mark} {anchor : Option Nat}
    {tag : Option Tag} {text : String} {style : Style} {bare : Yaml.Value}
    (h : Yaml.Scalar.resolve tag text style = .ok (.value bare))
    (hvalue : bare.under tag ≠ .null) :
    isAbsent (.scalar mark anchor tag text style) = .ok false := by
  have hnull : hasName tag = false ->
      Yaml.Scalar.resolve tag text style ≠ .ok (.value .null) := by
    intro hname hnull
    rw [hnull] at h
    cases h
    exact hvalue ((Yaml.Value.under_eq_null_iff tag .null).mpr ⟨hname, rfl⟩)
  cases style with
  | plain =>
      cases tag with
      | none =>
          have hword := hnull rfl
          rw [Ne, Yaml.Scalar.resolve_eq_null_iff, Yaml.Scalar.IsNull] at hword
          simpa [isAbsent] using hword
      | some t =>
          cases t with
          | null =>
              exfalso
              apply hnull rfl
              cases hword : Yaml.isNullWord text.toList <;>
                simp [Yaml.Scalar.resolve, hword] at h ⊢
          | bool | int | float | named | undecodable | other =>
              rfl
  | singleQuoted | doubleQuoted | literal | folded =>
      rfl

section Reading

variable {doc : Document} {tags : Bool}
variable {inner : Option (Path -> Node -> Reading Yaml.Value)}
variable {path : Path} {node : Node} {jumps last : Nat} {value : Yaml.Value}

theorem scalar_of_readAt_null
    (h : doc.readAt tags inner path node jumps = .ok (.null, last))
    (hvoid : node.isVoid = false) :
    exists mark anchor tag text style,
      doc.follow node jumps =
          .ok (.scalar mark anchor tag text style, last) ∧
        Yaml.Scalar.resolve tag text style = .ok (.value .null) ∧
        hasName tag = false := by
  rcases readAt_eq_ok h with ⟨found, after, hfollow, hfound⟩
  cases found with
  | scalar mark anchor tag text style =>
      rcases readAt_scalar_iff.mp hfound with ⟨_, bare, hbare, heq⟩
      rw [Prod.mk.injEq, eq_comm, Yaml.Value.under_eq_null_iff] at heq
      rcases heq with ⟨⟨hname, rfl⟩, rfl⟩
      rw [readScalar_eq_ok_iff] at hbare
      exact ⟨mark, anchor, tag, text, style, hfollow, hbare, hname⟩
  | sequence mark anchor tag items =>
      rcases readAt_sequence_iff.mp hfound with ⟨_, _, _, _, _, _, heq⟩
      rw [Prod.mk.injEq, eq_comm, Yaml.Value.under_eq_null_iff] at heq
      cases heq.left.right
  | mapping mark anchor tag entries =>
      rcases readAt_mapping_iff.mp hfound with ⟨_, _, _, _, _, _, heq⟩
      rw [Prod.mk.injEq, eq_comm, Yaml.Value.under_eq_null_iff] at heq
      cases heq.left.right
  | void mark =>
      rw [void_of_follow hfollow] at hvoid
      cases hvoid
  | «alias» mark number =>
      exact absurd rfl (not_alias_of_follow hfollow mark number)
  | cut =>
      exact absurd hfound readAt_cut_ne_ok

theorem isAbsent_of_readAt_ne_null {found : Node}
    (h : doc.readAt tags inner path found jumps = .ok (value, last))
    (hself : doc.follow found jumps = .ok (found, jumps))
    (hvalue : value ≠ .null) : isAbsent found = .ok false := by
  cases found with
  | scalar mark anchor tag text style =>
      rcases readAt_scalar_iff.mp h with ⟨_, bare, hbare, heq⟩
      cases heq
      exact isAbsent_of_ne_null (readScalar_eq_ok_iff.mp hbare) hvalue
  | sequence | mapping | void | cut =>
      rfl
  | «alias» mark number =>
      exact absurd rfl (not_alias_of_follow hself mark number)

/-!
## Parts
-/

theorem readText_eq_ok_iff {expected s : String} :
    readText doc expected path node jumps = .ok (s, last) <->
      exists mark anchor tag style,
        doc.follow node jumps = .ok (.scalar mark anchor tag s style, last) := by
  unfold readText
  rw [bind_eq_ok_iff]
  constructor
  · intro h
    rcases h with ⟨found, after, hfollow, h⟩
    cases found with
    | scalar mark anchor tag text style =>
        cases h
        exact ⟨mark, anchor, tag, style, hfollow⟩
    | «alias» | sequence | mapping | void | cut =>
        cases h
  · intro h
    rcases h with ⟨mark, anchor, tag, style, hfollow⟩
    exact ⟨_, _, hfollow, rfl⟩

/-- A value that is read inside of the mapping of a header. -/
def ReadInside (doc : Document) (node : Node) (jumps : Nat)
    (value : Yaml.Value) (last : Nat) : Prop :=
  exists path,
    doc.read true (Yaml.fullDepth - 1) path node jumps = .ok (value, last)

theorem ReadInside.readText {expected s : String}
    (h : ReadInside doc node jumps value last) (hs : value.text? = some s) :
    readText doc expected path node jumps = .ok (s, last) := by
  rcases h with ⟨path', h⟩
  exact readText_eq_ok_iff.mpr (scalar_of_readAt_text h hs)

theorem ReadInside.readUntagged (h : ReadInside doc node jumps value last)
    (htag : value.hasTag = false) :
    readUntagged doc path node jumps = .ok (value, last) := by
  rcases h with ⟨path', h⟩
  exact read_untagged doc _ path' path node jumps value last h htag

theorem ReadInside.readPart {entry : Entry} {part : Part}
    (h : ReadInside doc node jumps value last)
    (hpart : partOf entry value = .ok part) :
    readPart doc entry path node jumps = .ok (part, last) := by
  cases htools : entry.listsTools with
  | true =>
      rcases (partOf_tools_iff htools).mp hpart with ⟨htag, list, hlist, rfl⟩
      simp only [Header.readPart, htools, if_true, bind_eq_ok_iff]
      exists value, last
      rw [hlist]
      exact ⟨h.readUntagged htag, rfl⟩
  | false =>
      rcases (partOf_text_iff htools).mp hpart with ⟨s, hs, rfl⟩
      simp only [Header.readPart, htools, Bool.false_eq_true, if_false,
        bind_eq_ok_iff]
      exact ⟨s, last, h.readText hs, rfl⟩

/-!
## Parts that may be absent
-/

theorem ReadInside.followed (h : ReadInside doc node jumps value last) :
    exists found after,
      doc.follow node jumps = .ok (found, after) ∧
        doc.follow found after = .ok (found, after) ∧
        ReadInside doc found after value last := by
  rcases h with ⟨path', h⟩
  rcases readAt_eq_ok h with ⟨found, after, hfollow, hfound⟩
  exact ⟨found, after, hfollow, follow_again hfollow after, path', hfound⟩

theorem failing_eq_ok_iff {α : Type} {outcome : Except Cause α}
    {result : α × Nat} :
    failing outcome jumps = .ok result <->
      outcome = .ok result.1 ∧ result.2 = jumps := by
  unfold failing
  cases outcome with
  | error cause =>
      simp [throw_ne_ok]
  | ok a =>
      rw [pure_eq_ok_iff, Prod.ext_iff, Except.ok.injEq, eq_comm (a := a)]

/-- An optional part is looked at once before it is read. -/
theorem readPart?_of_optional {entry : Entry} {part : Option Part}
    (hoptional : entry.required = false) :
    readPart? doc entry path node jumps = .ok (part, last) <->
      exists found after, doc.follow node jumps = .ok (found, after) ∧
        ((isAbsent found = .ok true ∧ part = none ∧ last = after) ∨
          (isAbsent found = .ok false ∧ exists p,
            readPart doc entry path found after = .ok (p, last) ∧
              part = some p)) := by
  unfold readPart?
  simp only [hoptional, Bool.false_eq_true, if_false, bind_eq_ok_iff,
    failing_eq_ok_iff]
  constructor
  · intro h
    rcases h with ⟨found, _, hfollow, absent, after, ⟨habsent, rfl⟩, h⟩
    exists found, after
    cases absent with
    | true =>
        cases h
        exact ⟨hfollow, Or.inl ⟨habsent, rfl, rfl⟩⟩
    | false =>
        simp only [Bool.false_eq_true, if_false, bind_eq_ok_iff,
          pure_eq_ok_iff] at h
        rcases h with ⟨p, last', hp, heq⟩
        cases heq
        exact ⟨hfollow, Or.inr ⟨habsent, p, hp, rfl⟩⟩
  · intro h
    rcases h with
      ⟨found, after, hfollow,
        ⟨habsent, rfl, rfl⟩ | ⟨habsent, p, hp, rfl⟩⟩
    · exact ⟨found, last, hfollow, true, last, ⟨habsent, rfl⟩, rfl⟩
    · refine ⟨found, after, hfollow, false, after, ⟨habsent, rfl⟩, ?_⟩
      simp only [Bool.false_eq_true, if_false, bind_eq_ok_iff, pure_eq_ok_iff]
      exact ⟨p, last, hp, rfl⟩

theorem readPart?_of_required {entry : Entry} {p : Part}
    (hrequired : entry.required = true)
    (hp : readPart doc entry path node jumps = .ok (p, last)) :
    readPart? doc entry path node jumps = .ok (some p, last) := by
  unfold readPart?
  simp only [hrequired, if_true, bind_eq_ok_iff, pure_eq_ok_iff]
  exact ⟨p, last, hp, rfl⟩

theorem ReadInside.readPart? {entry : Entry} {part : Option Part}
    (h : ReadInside doc node jumps value last) (hvoid : node.isVoid = false)
    (hpart : partOf? entry value = .ok part)
    (hhidden : entry.required = false ->
      (doc.target node).isHiddenNull = false) :
    readPart? doc entry path node jumps = .ok (part, last) := by
  rcases partOf?_eq_ok_iff.mp hpart with
    ⟨hoptional, rfl, rfl⟩ | ⟨hgiven, p, hp, rfl⟩
  · rw [readPart?_of_optional hoptional]
    rcases h with ⟨path', h⟩
    rcases scalar_of_readAt_null h hvoid with
      ⟨mark, anchor, tag, text, style, hfollow, hresolve, hname⟩
    have habsent : isAbsent (.scalar mark anchor tag text style) =
        .ok (!(Node.scalar mark anchor tag text style).isHiddenNull) :=
      isAbsent_of_null hresolve hname
    have hshown := hhidden hoptional
    rw [target_of_follow hfollow] at hshown
    rw [hshown] at habsent
    exact ⟨_, last, hfollow, Or.inl ⟨habsent, rfl, rfl⟩⟩
  · cases hrequired : entry.required with
    | true =>
        exact readPart?_of_required hrequired (h.readPart hp)
    | false =>
        rw [readPart?_of_optional hrequired]
        rcases h.followed with ⟨found, after, hfollow, hself, hinside⟩
        have hread := hinside
        rcases hinside with ⟨path', hfound⟩
        have habsent := isAbsent_of_readAt_ne_null hfound hself (hgiven hrequired)
        exact ⟨found, after, hfollow,
          Or.inr ⟨habsent, p, hread.readPart hp, rfl⟩⟩

/-!
## Hidden nulls
-/

theorem scalar_of_isHiddenNull {found : Node}
    (h : found.isHiddenNull = true) :
    exists mark anchor tag text style,
      found = .scalar mark anchor tag text style ∧
        Yaml.Scalar.resolve tag text style = .ok (.value .null) ∧
        hasName tag = false ∧ isAbsent found = .ok false := by
  cases found with
  | scalar mark anchor tag text style =>
      have hhidden := h
      refine ⟨mark, anchor, tag, text, style, rfl, ?_⟩
      have hresolve :
          Yaml.Scalar.resolve tag text style = .ok (.value .null) ∧
            hasName tag = false := by
        rw [Yaml.Scalar.resolve_eq_null_iff]
        unfold Node.isHiddenNull at h
        split at h
        · rename_i heq
          cases heq
          rw [Bool.and_eq_true] at h
          exact ⟨Or.inl ⟨rfl, h.right⟩, rfl⟩
        · rename_i heq
          cases heq
          rw [Bool.and_eq_true, beq_iff_eq] at h
          refine ⟨Or.inr ⟨?_, h⟩, rfl⟩
          intro t ht
          cases ht
          rfl
        · cases h
      refine ⟨hresolve.left, hresolve.right, ?_⟩
      rw [isAbsent_of_null hresolve.left hresolve.right, hhidden]
      rfl
  | «alias» | sequence | mapping | void | cut =>
      cases h

theorem eq_null_of_readAt_of_hidden
    (h : doc.readAt tags inner path node jumps = .ok (value, last))
    (hhidden : (doc.target node).isHiddenNull = true) : value = .null := by
  rcases readAt_eq_ok h with ⟨found, after, hfollow, hfound⟩
  rw [target_of_follow hfollow] at hhidden
  rcases scalar_of_isHiddenNull hhidden with
    ⟨mark, anchor, tag, text, style, rfl, hresolve, hname, _⟩
  rcases readAt_scalar_iff.mp hfound with ⟨_, bare, hbare, heq⟩
  rw [readScalar_eq_ok_iff, hresolve] at hbare
  cases hbare
  cases heq
  exact Yaml.Value.under_of_hasName_false .null hname

/-- A hidden null is a text as an entry of a header, and no list of tools. -/
theorem text_of_readPart?_of_hidden {entry : Entry} {part : Option Part}
    (hoptional : entry.required = false)
    (hhidden : (doc.target node).isHiddenNull = true)
    (h : Header.readPart? doc entry path node jumps = .ok (part, last)) :
    exists s, part = some (.text s) := by
  rcases (readPart?_of_optional hoptional).mp h with
    ⟨found, after, hfollow, habsent⟩
  rw [target_of_follow hfollow] at hhidden
  rcases scalar_of_isHiddenNull hhidden with ⟨_, _, _, _, _, _, _, _, hgiven⟩
  rcases habsent with ⟨habsent, _⟩ | ⟨_, p, hp, rfl⟩
  · rw [hgiven] at habsent
    cases habsent
  · unfold Header.readPart at hp
    cases htools : entry.listsTools with
    | false =>
        simp only [htools, Bool.false_eq_true, if_false, bind_eq_ok_iff,
          pure_eq_ok_iff] at hp
        rcases hp with ⟨s, _, _, heq⟩
        cases heq
        exact ⟨s, rfl⟩
    | true =>
        simp only [htools, if_true, bind_eq_ok_iff] at hp
        rcases hp with ⟨other, after', hread, hp⟩
        change doc.read false (Yaml.fullDepth - 1) path found after =
          .ok (other, after') at hread
        have htarget : doc.target found = found :=
          target_of_follow (follow_again hfollow after)
        have hnull : other = .null :=
          eq_null_of_readAt_of_hidden hread (by rw [htarget, hhidden])
        rw [hnull] at hp
        cases hp

end Reading

end Header
end AgentFiles
