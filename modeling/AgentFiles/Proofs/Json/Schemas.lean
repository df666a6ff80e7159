import AgentFiles.Metadata
import AgentFiles.Proofs.Json.Typed
import AgentFiles.Report
import AgentFiles.Schema.Marketplace
import AgentFiles.Schema.Settings
import AgentFiles.Stored

/-!
# The records of data files

Every record is lawful: each of its fields is read and written through one part
of the record, and no two fields share a part or a key. Every record is also
determined by what its fields write.
-/

namespace AgentFiles

open Json

/-!
## Parts of larger records
-/

namespace Permissions

theorem lawful (depth : Nat) : record.Lawful depth where
  lossless := by simp [record]
  apart := by simp [record]

theorem determined : record.Determined := by
  rintro ⟨⟩ ⟨⟩ hsame
  simpa [Record.SameWriting, record] using hsame

instance : record.codec.Faithful :=
  Record.faithful_codec lawful determined

instance : record.codec.Typed :=
  Record.typed_codec (by unfold record; infer_instance)

end Permissions

namespace StatusLine

theorem lawful (depth : Nat) : record.Lawful depth where
  lossless := by simp [record]
  apart := by simp [record]

theorem determined : record.Determined := by
  rintro ⟨⟩ ⟨⟩ hsame
  simpa [Record.SameWriting, record] using hsame

instance : record.codec.Faithful :=
  Record.faithful_codec lawful determined

instance : record.codec.Typed :=
  Record.typed_codec (by unfold record; infer_instance)

end StatusLine

namespace Contact

variable {name : String}

theorem lawful (depth : Nat) : (record name).Lawful depth where
  lossless := by simp [record]
  apart := by simp [record]

theorem determined : (record name).Determined := by
  rintro ⟨⟩ ⟨⟩ hsame
  simpa [Record.SameWriting, record] using hsame

instance : (record name).codec.Faithful :=
  Record.faithful_codec lawful determined

instance : (record name).codec.Typed :=
  Record.typed_codec (by unfold record; infer_instance)

end Contact

namespace Listing

theorem lawful (depth : Nat) : record.Lawful depth where
  lossless := by simp [record]
  apart := by simp [record]

theorem determined : record.Determined := by
  rintro ⟨⟩ ⟨⟩ hsame
  simpa [Record.SameWriting, record] using hsame

instance : record.codec.Faithful :=
  Record.faithful_codec lawful determined

instance : record.codec.Typed :=
  Record.typed_codec (by unfold record; infer_instance)

end Listing

namespace Fragment

theorem lawful (depth : Nat) : record.Lawful depth where
  lossless := by simp [record]
  apart := by simp [record]

theorem determined : record.Determined := by
  rintro ⟨⟩ ⟨⟩ hsame
  simpa [Record.SameWriting, record] using hsame

instance : codec.Faithful :=
  Record.faithful_codec lawful determined

instance : codec.Typed :=
  Record.typed_codec (by unfold record; infer_instance)

end Fragment

/-!
## Manifests and settings

These keep their extra members, which no field reads or writes.
-/

namespace Settings

theorem lawful (depth : Nat) : record.Lawful depth where
  lossless := by simp [record]
  apart := by simp [record]

theorem holdsExtra :
    record.HoldsExtra (·.extra) (fun extra r => { r with extra := extra }) where
  extra_set := fun _ _ => rfl
  write_set := by simp [Record.SameWriting, record]
  determined := by
    rintro ⟨⟩ ⟨⟩ hsame hextra
    simp_all [Record.SameWriting, record]

theorem lossless_codec (depth : Nat) : codec.Lossless depth :=
  Record.lossless_codecWithExtra (fun inner _ => lawful inner) holdsExtra

theorem whole_hooks {settings : Settings}
    (hhooks : (Value.object (settings.hooks.getD [])).Whole) {value : Value}
    (hwrite : settings.hooks.map (Codec.map .untyped).write = some value) :
    value.Whole := by
  rcases Option.map_eq_some_iff.mp hwrite with ⟨entries, hentries, hvalue⟩
  have hobject : value = .object entries := by
    rw [<- hvalue]
    exact congrArg Value.object (List.map_id entries)
  rw [hobject]
  simpa [hentries] using hhooks

/-- Doubles can only come from the hooks and the extra members. -/
theorem whole_write {settings : Settings}
    (hhooks : (Value.object (settings.hooks.getD [])).Whole)
    (hextra : (Value.object settings.extra).Whole) :
    (codec.write settings).Whole := by
  apply Record.whole_withExtra _ hextra
  simp only [record, List.forall_mem_cons, List.not_mem_nil, false_implies,
    implies_true, and_true]
  exact ⟨Field.Typed.whole _, Field.Typed.whole _, Field.Typed.whole _,
    fun _ => whole_hooks hhooks, Field.Typed.whole _, Field.Typed.whole _,
    Field.Typed.whole _⟩

end Settings

namespace Plugin

theorem lawful (depth : Nat) : record.Lawful depth where
  lossless := by simp [record]
  apart := by simp [record]

theorem holdsExtra :
    record.HoldsExtra (·.extra) (fun extra r => { r with extra := extra }) where
  extra_set := fun _ _ => rfl
  write_set := by simp [Record.SameWriting, record]
  determined := by
    rintro ⟨⟩ ⟨⟩ hsame hextra
    simp_all [Record.SameWriting, record]

theorem lossless_codec (depth : Nat) : codec.Lossless depth :=
  Record.lossless_codecWithExtra (fun inner _ => lawful inner) holdsExtra

instance : Field.AllTyped record.fields := by
  unfold record
  infer_instance

theorem whole_write {plugin : Plugin}
    (hextra : (Value.object plugin.extra).Whole) : (codec.write plugin).Whole :=
  Record.whole_withExtra
    (fun field hfield => (Field.AllTyped.typed field hfield).whole plugin) hextra

end Plugin

namespace Marketplace

theorem lawful (depth : Nat) : record.Lawful depth where
  lossless := by simp [record]
  apart := by simp [record]

theorem holdsExtra :
    record.HoldsExtra (·.extra) (fun extra r => { r with extra := extra }) where
  extra_set := fun _ _ => rfl
  write_set := by simp [Record.SameWriting, record]
  determined := by
    rintro ⟨⟩ ⟨⟩ hsame hextra
    simp_all [Record.SameWriting, record]

theorem lossless_codec (depth : Nat) : codec.Lossless depth :=
  Record.lossless_codecWithExtra (fun inner _ => lawful inner) holdsExtra

instance : Field.AllTyped record.fields := by
  unfold record
  infer_instance

theorem whole_write {catalog : Marketplace}
    (hextra : (Value.object catalog.extra).Whole) : (codec.write catalog).Whole :=
  Record.whole_withExtra
    (fun field hfield => (Field.AllTyped.typed field hfield).whole catalog) hextra

end Marketplace

/-!
## Summaries and stored files
-/

namespace Metadata

theorem lawful (depth : Nat) : record.Lawful depth where
  lossless := by simp [record]
  apart := by simp [record]

theorem determined : record.Determined := by
  rintro ⟨⟩ ⟨⟩ hsame
  simpa [Record.SameWriting, record] using hsame

instance : codec.Faithful :=
  Record.faithful_codec lawful determined

instance : codec.Typed :=
  Record.typed_codec (by unfold record; infer_instance)

end Metadata

namespace StoredFile

theorem lawful (depth : Nat) : record.Lawful depth where
  lossless := by simp [record]
  apart := by simp [record]

theorem determined : record.Determined := by
  rintro ⟨⟩ ⟨⟩ hsame
  simpa [Record.SameWriting, record] using hsame

instance : codec.Faithful :=
  Record.faithful_codec lawful determined

instance : codec.Typed :=
  Record.typed_codec (by unfold record; infer_instance)

end StoredFile

/-!
## Records with defaults

A list that is missing is written as an empty one, which needs some depth.
-/

namespace Snippet

theorem lawful (depth : Nat) : record.Lawful (depth + 2) where
  lossless := by simp [record]
  apart := by simp [record]

theorem determined : record.Determined := by
  rintro ⟨⟩ ⟨⟩ hsame
  simpa [Record.SameWriting, record] using hsame

theorem lossless_codec (depth : Nat) : codec.Lossless (depth + 3) := by
  apply Record.lossless_codec _ determined
  intro inner hinner
  injection hinner with hinner
  rw [<- hinner]
  exact lawful depth

instance : codec.Typed :=
  Record.typed_codec (by unfold record; infer_instance)

end Snippet

namespace Verdict

theorem lawful (depth : Nat) : record.Lawful (depth + 2) where
  lossless := by simp [record]
  apart := by simp [record]

theorem determined : record.Determined := by
  rintro ⟨⟩ ⟨⟩ hsame
  simpa [Record.SameWriting, record] using hsame

/-- The flag is written before the fields, and skipped when it is read. -/
theorem lossless_codec (depth : Nat) : codec.Lossless (depth + 3) := by
  have hlawful : forall inner, depth + 3 = inner + 1 -> record.Lawful inner := by
    intro inner hinner
    injection hinner with hinner
    rw [<- hinner]
    exact lawful depth
  intro node verdict hread
  rcases Record.keeps_of_codec hlawful hread with ⟨inner, hdescend, hkeeps⟩
  constructor
  · exact Record.writtenBy_fits hkeeps
  · intro again hshows
    cases hshows with
    | object hmembers =>
        cases hmembers with
        | member hnode hrest =>
            cases hnode
            have hinner := hlawful inner (descend_eq_ok_iff.mp (hdescend 0)).1
            have hvalid : record.field? "valid" = none := rfl
            simp only [codec, Record.codec, hdescend, Record.readMembers, hvalid,
              Node.skip, Except.map, bind, Except.bind]
            rw [Record.readMembers_writeMembers _ hinner determined hkeeps hrest]
            rfl

instance : Field.AllTyped record.fields := by
  unfold record
  infer_instance

instance : codec.Typed where
  whole := by
    intro verdict
    have hfields : (Value.object (record.writeMembers verdict)).Whole :=
      Record.whole_writeMembers fun field hfield =>
        (Field.AllTyped.typed field hfield).whole verdict
    exact hfields

end Verdict

end AgentFiles
