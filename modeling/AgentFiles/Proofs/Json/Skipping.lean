import AgentFiles.Proofs.Json.Records

/-!
# Members that are skipped

A record without extra members takes no notice of a member that none of its fields
has the key of. Such members may stand anywhere between the others, more than once
and with any value: what is read is what would be read without them.
-/

namespace AgentFiles
namespace Json

/-!
## Skipping what shows a value
-/

mutual

theorem Node.skip_of_shows : forall {node : Node} {value : Value},
    node.Shows value -> node.skip = .ok ()
  | .null _ _, _, _ => rfl
  | .bool _ _ _, _, _ => rfl
  | .number _ _ _, _, _ => rfl
  | .string _ _ _, _, _ => rfl
  | .array _ items, _, hshows => by
      cases hshows with
      | array hitems =>
          exact Items.skip_of_shows hitems
  | .object _ _ members, _, hshows => by
      cases hshows with
      | object hmembers =>
          exact Members.skip_of_shows hmembers
  | .broken _ _ _ _, _, hshows => by
      cases hshows

theorem Items.skip_of_shows : forall {items : Items} {values : List Value},
    items.Shows values -> items.skip = .ok ()
  | .closed _, _, _ => rfl
  | .broken _ _ _, _, hshows => by
      cases hshows
  | .item _ node rest, _, hshows => by
      cases hshows with
      | item hnode hrest =>
          rw [Items.skip, Node.skip_of_shows hnode]
          exact Items.skip_of_shows hrest

theorem Members.skip_of_shows : forall {members : Members}
    {entries : List (String × Value)},
    members.Shows entries -> members.skip = .ok ()
  | .closed _, _, _ => rfl
  | .broken _ _, _, hshows => by
      cases hshows
  | .member _ _ node rest, _, hshows => by
      cases hshows with
      | member hnode hrest =>
          rw [Members.skip, Node.skip_of_shows hnode]
          exact Members.skip_of_shows hrest

end

namespace Record

variable {R : Type} {record : Record R} {depth : Nat} {r : R}

def skipUnknown (_ : String) (node : Node) : Except Fault (List Empty) :=
  node.skip.map fun _ => []

theorem codec_read_object (start : Nat) (inside : Source) (members : Members) :
    record.codec.read depth (.object start inside members) = (do
      let inner <- descend depth start
      return (<- record.readMembers skipUnknown inner [] record.blank members).1) :=
  rfl

theorem readMembers_unknown {key : String} {settled : Nat} {node : Node} {rest : Members}
    {seen : List String} (hunknown : record.field? key = none)
    (hskip : node.skip = .ok ()) :
    record.readMembers skipUnknown depth seen r (.member (.ok key) settled node rest) =
      record.readMembers skipUnknown depth seen r rest := by
  simp only [readMembers, hunknown, skipUnknown, hskip, Except.map, bind, Except.bind]
  cases record.readMembers skipUnknown depth seen r rest <;>
    rfl

theorem readMembers_congr {key : String} {settled : Nat} {node : Node}
    {rest rest' : Members} {seen : List String}
    (hrest : forall seen r, record.readMembers skipUnknown depth seen r rest =
      record.readMembers skipUnknown depth seen r rest') :
    record.readMembers skipUnknown depth seen r (.member (.ok key) settled node rest) =
      record.readMembers skipUnknown depth seen r (.member (.ok key) settled node rest') := by
  simp only [readMembers, hrest]

/-- The members that are known are read by themselves as they are among all others. -/
theorem readMembers_skipping (record : Record R) (depth : Nat)
    {entries : List (String × Value)} {members : Members}
    (hshows : members.Shows entries) :
    exists known : Members,
      known.Shows (entries.filter fun entry => (record.field? entry.1).isSome) ∧
        forall seen r, record.readMembers skipUnknown depth seen r members =
          record.readMembers skipUnknown depth seen r known := by
  induction entries generalizing members with
  | nil =>
      exact ⟨members, hshows, fun _ _ => rfl⟩
  | cons entry entries ih =>
      cases hshows with
      | member hnode hrest =>
          rename_i key settled node rest value
          rcases ih hrest with ⟨known, hknown, hread⟩
          cases hfield : record.field? key with
          | none =>
              refine ⟨known, ?_, ?_⟩
              · rw [List.filter_cons_of_neg (by simp [hfield])]
                exact hknown
              · intro seen r
                rw [readMembers_unknown hfield (Node.skip_of_shows hnode), hread]
          | some field =>
              refine ⟨.member (.ok key) settled node known, ?_, ?_⟩
              · rw [List.filter_cons_of_pos (by simp [hfield])]
                exact .member hnode hknown
              · intro seen r
                exact readMembers_congr hread

theorem codec_read_of_known {inner : Nat} {entries : List (String × Value)} {node : Node}
    (hdescend : forall start, descend depth start = .ok inner)
    (hlawful : record.Lawful inner) (hdetermined : record.Determined)
    (hkeeps : record.Keeps inner r)
    (hknown : (entries.filter fun entry => (record.field? entry.1).isSome) =
      record.writeMembers r)
    (hshows : node.Shows (.object entries)) : record.codec.read depth node = .ok r := by
  cases hshows with
  | object hmembers =>
      rename_i start inside members
      rcases readMembers_skipping record inner hmembers with ⟨known, hshown, hread⟩
      rw [hknown] at hshown
      simp only [codec_read_object, hdescend, hread, bind, Except.bind,
        readMembers_writeMembers skipUnknown hlawful hdetermined hkeeps hshown]
      rfl

end Record
end Json
end AgentFiles
