import AgentFiles.Proofs.Header.Scalars

/-!
# Entries from nodes and from values

The entries of a header are added one after the other, each read from its nodes
or taken from its values. Both ways end with the same draft where no optional
entry is a hidden null. Under the key of a hidden null they differ.
-/

namespace AgentFiles

def Yaml.Node.text? : Yaml.Node -> Option String
  | .scalar _ _ _ text _ => some text
  | _ => none

namespace Header

open Yaml (Document Node Reading Path Mark Fault Cause)
open Yaml.Reading
open Yaml.Document

/-- Whether an entry is declared, optional and a hidden null. -/
def hidesNull (schema : Schema) (doc : Document) (entry : Node × Node) : Bool :=
  match (doc.target entry.1).text?.bind schema.find? with
  | some declared =>
    !declared.required && (doc.target entry.2).isHiddenNull
  | none => false

section Entries

variable {schema : Schema} {doc : Document} {draft draft' : Draft}
variable {keyNode valueNode : Node} {jumps last : Nat}

theorem hidesNull_eq_true_iff {entry : Node × Node} :
    hidesNull schema doc entry = true <->
      exists key declared, (doc.target entry.1).text? = some key ∧
        schema.find? key = some declared ∧ declared.required = false ∧
        (doc.target entry.2).isHiddenNull = true := by
  unfold hidesNull
  cases htext : (doc.target entry.1).text? with
  | none =>
      simp
  | some key =>
      cases hfind : schema.find? key <;>
        simp [hfind]

/-!
## One entry
-/

theorem readEntry_eq_ok_iff :
    readEntry schema doc draft keyNode valueNode jumps = .ok (draft', last) <->
      exists key middle,
        readText doc "field identifier" .root keyNode jumps =
            .ok (key, middle) ∧
          ((exists entry part, schema.find? key = some entry ∧
              draft.isGiven key = false ∧
              readPart? doc entry (valuePath .root keyNode) valueNode middle =
                .ok (part, last) ∧
              draft' = draft.declare key part) ∨
            (exists value, schema.find? key = none ∧
              readUntagged doc (valuePath .root keyNode) valueNode middle =
                .ok (value, last) ∧
              draft' = draft.keep key value)) := by
  unfold readEntry
  rw [bind_eq_ok_iff]
  constructor
  · intro h
    rcases h with ⟨key, middle, hkey, h⟩
    refine ⟨key, middle, hkey, ?_⟩
    cases hfind : schema.find? key with
    | none =>
        simp only [hfind, bind_eq_ok_iff, pure_eq_ok_iff] at h
        rcases h with ⟨value, _, hvalue, heq⟩
        cases heq
        exact Or.inr ⟨value, rfl, hvalue, rfl⟩
    | some entry =>
        cases hgiven : draft.isGiven key with
        | true =>
            simp only [hfind, hgiven, if_true] at h
            cases h
        | false =>
            simp only [hfind, hgiven, Bool.false_eq_true, if_false,
              bind_eq_ok_iff, pure_eq_ok_iff] at h
            rcases h with ⟨part, _, hpart, heq⟩
            cases heq
            exact Or.inl ⟨entry, part, rfl, rfl, hpart, rfl⟩
  · intro h
    rcases h with
      ⟨key, middle, hkey,
        ⟨entry, part, hfind, hgiven, hpart, rfl⟩ | ⟨value, hfind, hvalue, rfl⟩⟩
    · refine ⟨key, middle, hkey, ?_⟩
      simp only [hfind, hgiven, Bool.false_eq_true, if_false, bind_eq_ok_iff,
        pure_eq_ok_iff]
      exact ⟨part, last, hpart, rfl⟩
    · refine ⟨key, middle, hkey, ?_⟩
      simp only [hfind, bind_eq_ok_iff, pure_eq_ok_iff]
      exact ⟨value, last, hvalue, rfl⟩

/-- An entry that is taken from values is read from its nodes, unless it is a hidden null. -/
theorem readEntry_of_addValue {key value : Yaml.Value} {middle : Nat}
    (hkey : ReadInside doc keyNode jumps key middle)
    (hvalue : ReadInside doc valueNode middle value last)
    (hvoid : valueNode.isVoid = false)
    (hhidden : hidesNull schema doc (keyNode, valueNode) = false)
    (hadd : addValue schema draft key value = .ok draft') :
    readEntry schema doc draft keyNode valueNode jumps = .ok (draft', last) := by
  rcases addValue_eq_ok_iff.mp hadd with ⟨s, hs, hadded⟩
  apply readEntry_eq_ok_iff.mpr
  refine ⟨s, middle, hkey.readText hs, ?_⟩
  cases hadded with
  | declared hfind hgiven hpart =>
      rename_i entry part
      refine Or.inl ⟨entry, part, hfind, hgiven, ?_, rfl⟩
      apply hvalue.readPart? hvoid hpart
      intro hoptional
      rcases hkey with ⟨path, hkey⟩
      rcases scalar_of_readAt_text hkey hs with
        ⟨mark, anchor, tag, style, hfollow⟩
      cases hnull : (doc.target valueNode).isHiddenNull with
      | false =>
          rfl
      | true =>
          have htrue : hidesNull schema doc (keyNode, valueNode) = true := by
            apply hidesNull_eq_true_iff.mpr
            refine ⟨s, entry, ?_, hfind, hoptional, hnull⟩
            rw [target_of_follow hfollow]
            rfl
          rw [hhidden] at htrue
          cases htrue
  | extra hfind htag =>
      exact Or.inr ⟨value, hfind, hvalue.readUntagged htag, rfl⟩

/-!
## All entries
-/

theorem readEntries_cons_eq_ok_iff {rest : List (Node × Node)} :
    readEntries schema doc draft ((keyNode, valueNode) :: rest) jumps =
        .ok (draft', last) <->
      exists next middle,
        readEntry schema doc draft keyNode valueNode jumps =
            .ok (next, middle) ∧
          readEntries schema doc next rest middle = .ok (draft', last) := by
  rw [readEntries, bind_eq_ok_iff]

def ReadAllInside (doc : Document) (nodes : List (Node × Node)) (jumps : Nat)
    (values : List (Yaml.Value × Yaml.Value)) (last : Nat) : Prop :=
  exists path,
    Document.readEntries (doc.read true (Yaml.fullDepth - 1)) path nodes
      jumps = .ok (values, last)

theorem ReadAllInside.cons {rest : List (Node × Node)}
    {values : List (Yaml.Value × Yaml.Value)}
    (h : ReadAllInside doc ((keyNode, valueNode) :: rest) jumps values last) :
    exists key middle value middle' values',
      ReadInside doc keyNode jumps key middle ∧
        ReadInside doc valueNode middle value middle' ∧
        ReadAllInside doc rest middle' values' last ∧
        values = (key, value) :: values' := by
  rcases h with ⟨path, h⟩
  simp only [Document.readEntries, bind_eq_ok_iff, pure_eq_ok_iff] at h
  rcases h with
    ⟨key, middle, hkey, value, middle', hvalue, values', _, hvalues, heq⟩
  cases heq
  exact ⟨key, middle, value, middle', values', ⟨_, hkey⟩, ⟨_, hvalue⟩,
    ⟨_, hvalues⟩, rfl⟩

theorem readEntries_of_addValues {nodes : List (Node × Node)}
    {values : List (Yaml.Value × Yaml.Value)}
    (hread : ReadAllInside doc nodes jumps values last)
    (hvoid : forall entry, entry ∈ nodes -> entry.2.isVoid = false)
    (hhidden : nodes.any (hidesNull schema doc) = false)
    (hadd : addValues schema draft values = .ok draft') :
    readEntries schema doc draft nodes jumps = .ok (draft', last) := by
  induction nodes generalizing jumps values draft with
  | nil =>
      rcases hread with ⟨path, hread⟩
      cases hread
      cases hadd
      rfl
  | cons entry rest ih =>
      rcases entry with ⟨keyNode, valueNode⟩
      rcases hread.cons with
        ⟨key, middle, value, middle', values', hkey, hvalue, hvalues, rfl⟩
      rcases addValues_cons_eq_ok_iff.mp hadd with ⟨next, hentry, hrest⟩
      rw [List.any_cons, Bool.or_eq_false_iff] at hhidden
      apply readEntries_cons_eq_ok_iff.mpr
      exists next, middle'
      constructor
      · exact readEntry_of_addValue hkey hvalue
          (hvoid _ List.mem_cons_self) hhidden.left hentry
      · exact ih hvalues
          (fun other hother => hvoid other (List.mem_cons_of_mem _ hother))
          hhidden.right hrest

/-!
## A hidden null tells the two ways apart

Under the key of a hidden null the values add nothing, and the nodes add a text.
-/

theorem readEntries_part?_of_some {nodes : List (Node × Node)} {key : String}
    {given : Option Part}
    (h : readEntries schema doc draft nodes jumps = .ok (draft', last))
    (hgiven : draft.part? key = some given) :
    draft'.part? key = some given := by
  induction nodes generalizing draft jumps with
  | nil =>
      cases h
      exact hgiven
  | cons entry rest ih =>
      rcases entry with ⟨keyNode, valueNode⟩
      rcases readEntries_cons_eq_ok_iff.mp h with
        ⟨next, middle, hentry, hrest⟩
      apply ih hrest
      rcases readEntry_eq_ok_iff.mp hentry with
        ⟨_, _, _, ⟨_, _, _, _, _, rfl⟩ | ⟨_, _, _, rfl⟩⟩
      · exact Draft.part?_declare_of_some hgiven
      · exact hgiven

theorem addValues_part?_of_hidden {nodes : List (Node × Node)}
    {values : List (Yaml.Value × Yaml.Value)} {entry : Node × Node}
    {key : String} {declared : Entry}
    (hread : ReadAllInside doc nodes jumps values last)
    (hadd : addValues schema draft values = .ok draft')
    (hentry : entry ∈ nodes)
    (hkey : (doc.target entry.1).text? = some key)
    (hfind : schema.find? key = some declared)
    (hoptional : declared.required = false)
    (hnull : (doc.target entry.2).isHiddenNull = true) :
    draft'.part? key = some none := by
  induction nodes generalizing jumps values draft with
  | nil =>
      cases hentry
  | cons first rest ih =>
      rcases first with ⟨keyNode, valueNode⟩
      rcases hread.cons with
        ⟨keyValue, middle, value, middle', values', ⟨_, hkeyRead⟩,
          ⟨_, hvalueRead⟩, hvalues, rfl⟩
      rcases addValues_cons_eq_ok_iff.mp hadd with ⟨next, hfirst, hrest⟩
      cases hentry with
      | tail _ htail =>
          exact ih hvalues hrest htail
      | head =>
          rcases addValue_eq_ok_iff.mp hfirst with ⟨s, hs, hadded⟩
          rcases scalar_of_readAt_text hkeyRead hs with
            ⟨mark, anchor, tag, style, hfollow⟩
          rw [target_of_follow hfollow] at hkey
          cases hkey
          rw [eq_null_of_readAt_of_hidden hvalueRead hnull] at hadded
          apply addValues_part?_of_some hrest
          cases hadded with
          | declared hfind' hgiven hpart =>
              rw [hfind] at hfind'
              cases hfind'
              rcases partOf?_eq_ok_iff.mp hpart with
                ⟨_, _, rfl⟩ | ⟨hpresent, _⟩
              · exact Draft.part?_declare_self hgiven
              · exact absurd rfl (hpresent hoptional)
          | extra hfind' htag =>
              rw [hfind] at hfind'
              cases hfind'

theorem readEntries_part?_of_hidden {nodes : List (Node × Node)}
    {entry : Node × Node} {key : String} {declared : Entry}
    (h : readEntries schema doc draft nodes jumps = .ok (draft', last))
    (hentry : entry ∈ nodes)
    (hkey : (doc.target entry.1).text? = some key)
    (hfind : schema.find? key = some declared)
    (hoptional : declared.required = false)
    (hnull : (doc.target entry.2).isHiddenNull = true) :
    exists s, draft'.part? key = some (some (.text s)) := by
  induction nodes generalizing jumps draft with
  | nil =>
      cases hentry
  | cons first rest ih =>
      rcases first with ⟨keyNode, valueNode⟩
      rcases readEntries_cons_eq_ok_iff.mp h with
        ⟨next, middle, hfirst, hrest⟩
      cases hentry with
      | tail _ htail =>
          exact ih hrest htail
      | head =>
          rcases readEntry_eq_ok_iff.mp hfirst with ⟨s, after, hs, hadded⟩
          rcases readText_eq_ok_iff.mp hs with
            ⟨mark, anchor, tag, style, hfollow⟩
          rw [target_of_follow hfollow] at hkey
          cases hkey
          rcases hadded with
            ⟨declared', part, hfind', hgiven, hpart, rfl⟩ |
              ⟨value, hfind', _, rfl⟩
          · rw [hfind] at hfind'
            cases hfind'
            rcases text_of_readPart?_of_hidden hoptional hnull hpart with
              ⟨t, rfl⟩
            exact ⟨t, readEntries_part?_of_some hrest
              (Draft.part?_declare_self hgiven)⟩
          · rw [hfind] at hfind'
            cases hfind'

end Entries

end Header
end AgentFiles
