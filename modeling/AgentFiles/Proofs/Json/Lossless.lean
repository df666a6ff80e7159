import AgentFiles.Json.Codec
import AgentFiles.Proofs.Json.Shows
import AgentFiles.Proofs.Keyed
import AgentFiles.Schema.Kind
import AgentFiles.ToolList

/-!
# Codecs that keep what they read

A value is kept at a depth if its numbers fit and whatever syntax shows what is
written for it is read as the value itself, with that much depth left. A codec is
lossless if it keeps every value that it reads. Nothing is claimed about values
that cannot be read, such as a map whose keys are out of order.
-/

namespace AgentFiles
namespace Json

section Inversion

variable {lexeme : Lexeme} {n : Number} {stop depth start inner : Nat}

theorem Lexeme.value_of_read (hread : lexeme.read stop = .ok n) :
    lexeme.value = .ok n := by
  simp only [Lexeme.read] at hread
  split at hread
  · rename_i m hvalue
    injection hread with hm
    rw [hvalue, hm]
  · cases hread
  · cases hread

theorem Lexeme.read_of_value (hvalue : lexeme.value = .ok n) (stop : Nat) :
    lexeme.read stop = .ok n := by
  simp only [Lexeme.read, hvalue]

theorem descend_eq_ok_iff :
    descend depth start = .ok inner <-> depth = inner + 1 ∧ 0 < inner := by
  unfold descend
  split
  · rename_i n
    constructor
    · intro h
      injection h with h
      omega
    · rintro ⟨h, _⟩
      have hn : n + 1 = inner := by omega
      rw [hn]
  · rename_i hshallow
    constructor
    · intro h
      cases h
    · rintro ⟨h, hpositive⟩
      exact absurd (by omega) (hshallow (inner - 1))

theorem descend_moves (h : descend depth start = .ok inner) (start' : Nat) :
    descend depth start' = .ok inner :=
  descend_eq_ok_iff.mpr (descend_eq_ok_iff.mp h)

theorem lt_of_descend (h : descend depth start = .ok inner) : inner < depth := by
  have hdepth := (descend_eq_ok_iff.mp h).1
  omega

end Inversion

namespace Codec

variable {α : Type} {codec : Codec α} {depth : Nat}

structure Keeps (codec : Codec α) (depth : Nat) (a : α) : Prop where
  fits : (codec.write a).Fits
  again : forall node, node.Shows (codec.write a) -> codec.read depth node = .ok a

def Lossless (codec : Codec α) (depth : Nat) : Prop :=
  forall node a, codec.read depth node = .ok a -> codec.Keeps depth a

/-!
## Texts, flags and integers
-/

theorem text_keeps (s : String) : text.Keeps depth s where
  fits := by
    intro n hn
    cases hn
  again := by
    intro node hshows
    cases hshows
    rfl

theorem flag_keeps (b : Bool) : flag.Keeps depth b where
  fits := by
    intro n hn
    cases hn
  again := by
    intro node hshows
    cases hshows
    rfl

theorem lossless_text : text.Lossless depth :=
  fun _ s _ => text_keeps s

theorem lossless_flag : flag.Lossless depth :=
  fun _ b _ => flag_keeps b

section Integers

variable {expected : String} {low high i : Int}

theorem bounds_of_read {node : Node}
    (hread : (integer expected low high).read depth node = .ok i) :
    low ≤ i ∧ i < high := by
  cases node with
  | number lexeme start stop =>
      rcases Outcome.bind_eq_ok_iff.mp hread with ⟨n, _, hn⟩
      cases n with
      | integer j =>
          simp only at hn
          split at hn
          · rename_i hbounds
            injection hn with hj
            simpa [hj] using hbounds
          · cases hn
      | decimal x =>
          cases hn
  | null | bool | string | array | object | broken =>
      cases hread

theorem integer_keeps (hlow : low ≤ i) (hhigh : i < high)
    (hfits : (Number.integer i).Fits) :
    (integer expected low high).Keeps depth i where
  fits := by
    intro n hn
    rw [List.mem_singleton.mp hn]
    exact hfits
  again := by
    intro node hshows
    cases hshows with
    | number hvalue =>
        have hbounds : (decide (low ≤ i) && decide (i < high)) = true := by
          simp [hlow, hhigh]
        simp only [integer, Lexeme.read_of_value hvalue, bind, Except.bind, hbounds,
          if_true]
        rfl

theorem lossless_integer (hlow : -(Nat.pow 2 63 : Nat) ≤ low)
    (hhigh : high ≤ (Nat.pow 2 64 : Nat)) :
    (integer expected low high).Lossless depth := by
  intro node i hread
  rcases bounds_of_read hread with ⟨hi, hi'⟩
  exact integer_keeps hi hi' ⟨Int.le_trans hlow hi, Int.lt_of_lt_of_le hi' hhigh⟩

theorem lossless_signed64 : signed64.Lossless depth :=
  lossless_integer (by decide) (by decide)

theorem lossless_unsigned32 : unsigned32.Lossless depth :=
  lossless_integer (by decide) (by decide)

end Integers

/-!
## Lists and maps

The entries of a map come from the members that were read, in the order of their
keys, so that reading them again leaves them as they are.
-/

section Containers

theorem readItems_keeps (hcodec : codec.Lossless depth) :
    forall (items : Items) (values : List α),
      readItems (codec.read depth) items = .ok values ->
        forall a, a ∈ values -> codec.Keeps depth a
  | .closed _, values, hread => by
      injection hread with hvalues
      subst hvalues
      intro a ha
      cases ha
  | .broken _ _ _, _, hread => by
      cases hread
  | .item _ node rest, values, hread => by
      rcases Outcome.bind_eq_ok_iff.mp hread with ⟨first, hfirst, htail⟩
      rcases Outcome.bind_eq_ok_iff.mp htail with ⟨others, hothers, hvalues⟩
      injection hvalues with hvalues
      subst hvalues
      intro a ha
      rcases List.mem_cons.mp ha with heq | hmem
      · rw [heq]
        exact hcodec node first hfirst
      · exact readItems_keeps hcodec rest others hothers a hmem

theorem readItems_shows {values : List α} {items : Items}
    (hkeeps : forall a, a ∈ values -> codec.Keeps depth a)
    (hshows : items.Shows (values.map codec.write)) :
    readItems (codec.read depth) items = .ok values := by
  induction values generalizing items with
  | nil =>
      cases hshows
      rfl
  | cons a values ih =>
      cases hshows with
      | item hnode hrest =>
          have hfirst := (hkeeps a List.mem_cons_self).again _ hnode
          have hothers := ih (fun b hb => hkeeps b (List.mem_cons_of_mem _ hb)) hrest
          simp only [readItems, hfirst, hothers, bind, Except.bind]
          rfl

theorem list_keeps {start inner : Nat} {values : List α}
    (hdescend : descend depth start = .ok inner)
    (hkeeps : forall a, a ∈ values -> codec.Keeps inner a) :
    (list codec).Keeps depth values where
  fits := by
    intro n hn
    rcases mem_itemNumbers.mp hn with ⟨value, hvalue, hmem⟩
    rcases List.mem_map.mp hvalue with ⟨a, ha, heq⟩
    rw [<- heq] at hmem
    exact (hkeeps a ha).fits n hmem
  again := by
    intro node hshows
    cases hshows with
    | array hitems =>
        simp only [list, descend_moves hdescend, bind, Except.bind]
        exact readItems_shows hkeeps hitems

@[simp]
theorem nil_keeps (depth : Nat) : (list codec).Keeps (depth + 2) [] := by
  have hdescend : descend (depth + 2) 0 = .ok (depth + 1) := rfl
  exact list_keeps hdescend fun _ hnil => absurd hnil List.not_mem_nil

theorem lossless_list (hcodec : forall inner, inner < depth -> codec.Lossless inner) :
    (list codec).Lossless depth := by
  intro node values hread
  cases node with
  | array start items =>
      rcases Outcome.bind_eq_ok_iff.mp hread with ⟨inner, hdescend, hitems⟩
      exact list_keeps hdescend
        (readItems_keeps (hcodec inner (lt_of_descend hdescend)) items values hitems)
  | null | bool | number | string | object | broken =>
      cases hread

theorem readMembers_keeps (hcodec : codec.Lossless depth) :
    forall (members : Members) (entries : List (String × α)),
      readMembers (codec.read depth) members = .ok entries ->
        forall entry, entry ∈ entries -> codec.Keeps depth entry.2
  | .closed _, entries, hread => by
      injection hread with hentries
      subst hentries
      intro entry hentry
      cases hentry
  | .broken _ _, _, hread => by
      cases hread
  | .member key _ node rest, entries, hread => by
      rcases Outcome.bind_eq_ok_iff.mp hread with ⟨k, _, hread⟩
      rcases Outcome.bind_eq_ok_iff.mp hread with ⟨first, hfirst, htail⟩
      rcases Outcome.bind_eq_ok_iff.mp htail with ⟨others, hothers, hentries⟩
      injection hentries with hentries
      subst hentries
      intro entry hentry
      rcases List.mem_cons.mp hentry with heq | hmem
      · rw [heq]
        exact hcodec node first hfirst
      · exact readMembers_keeps hcodec rest others hothers entry hmem

def written (codec : Codec α) (entries : List (String × α)) :
    List (String × Value) :=
  entries.map fun entry => (entry.1, codec.write entry.2)

theorem readMembers_shows {entries : List (String × α)} {members : Members}
    (hkeeps : forall entry, entry ∈ entries -> codec.Keeps depth entry.2)
    (hshows : members.Shows (written codec entries)) :
    readMembers (codec.read depth) members = .ok entries := by
  induction entries generalizing members with
  | nil =>
      cases hshows
      rfl
  | cons entry entries ih =>
      cases hshows with
      | member hnode hrest =>
          have hfirst := (hkeeps entry List.mem_cons_self).again _ hnode
          have hothers := ih (fun e he => hkeeps e (List.mem_cons_of_mem _ he)) hrest
          simp only [readMembers, hfirst, hothers, bind, Except.bind]
          rfl

theorem written_fits {entries : List (String × α)}
    (hkeeps : forall entry, entry ∈ entries -> codec.Keeps depth entry.2) :
    (Value.object (written codec entries)).Fits := by
  intro n hn
  rcases mem_memberNumbers.mp hn with ⟨member, hmember, hmem⟩
  rcases List.mem_map.mp hmember with ⟨entry, hentry, heq⟩
  rw [<- heq] at hmem
  exact (hkeeps entry hentry).fits n hmem

theorem map_keeps {start inner : Nat} {entries : List (String × α)}
    (hdescend : descend depth start = .ok inner) (hsorted : Keyed.Sorted entries)
    (hkeeps : forall entry, entry ∈ entries -> codec.Keeps inner entry.2) :
    (map codec).Keeps depth entries where
  fits := written_fits hkeeps
  again := by
    intro node hshows
    cases hshows with
    | object hmembers =>
        simp only [map, descend_moves hdescend, readMembers_shows hkeeps hmembers,
          bind, Except.bind, Keyed.ofList_of_sorted hsorted]
        rfl

theorem lossless_map (hcodec : forall inner, inner < depth -> codec.Lossless inner) :
    (map codec).Lossless depth := by
  intro node entries hread
  cases node with
  | object start inside members =>
      rcases Outcome.bind_eq_ok_iff.mp hread with ⟨inner, hdescend, hread⟩
      rcases Outcome.bind_eq_ok_iff.mp hread with ⟨raw, hraw, hentries⟩
      injection hentries with hentries
      subst hentries
      have hkeeps :=
        readMembers_keeps (hcodec inner (lt_of_descend hdescend)) members raw hraw
      exact map_keeps hdescend (Keyed.sorted_ofList raw)
        fun entry hentry => hkeeps entry (Keyed.mem_ofList hentry)
  | null | bool | number | string | array | broken =>
      cases hread

end Containers

/-!
## Untyped values

An untyped array is read like a list of untyped values and an untyped object like
a map of them, each with less depth inside, so the proof is by induction on the
depth.
-/

section Untyped

theorem items_read (depth : Nat) :
    forall items : Items,
      items.read depth = readItems (untyped.read depth) items
  | .closed _ => rfl
  | .broken _ _ _ => rfl
  | .item _ node rest => by
      rw [Items.read, readItems, items_read depth rest]
      rfl

theorem members_read (depth : Nat) :
    forall members : Members,
      members.read depth = readMembers (untyped.read depth) members
  | .closed _ => rfl
  | .broken _ _ => rfl
  | .member _ _ node rest => by
      rw [Members.read, readMembers, members_read depth rest]
      rfl

theorem untyped_read_array (start : Nat) (items : Items) :
    untyped.read depth (.array start items) =
      ((list untyped).read depth (.array start items)).map .array := by
  change Node.read depth (.array start items) = _
  rw [Node.read]
  simp only [list, items_read]
  cases descend depth start with
  | error fault =>
      rfl
  | ok inner =>
      rfl

theorem untyped_read_object (start : Nat) (inside : Source) (members : Members) :
    untyped.read depth (.object start inside members) =
      ((map untyped).read depth (.object start inside members)).map .object := by
  change Node.read depth (.object start inside members) = _
  rw [Node.read]
  simp only [map, members_read]
  cases descend depth start with
  | error fault =>
      rfl
  | ok inner =>
      simp only [bind, Except.bind]
      cases readMembers (untyped.read inner) members <;>
        rfl

theorem array_keeps {values : List Value}
    (hkeeps : (list untyped).Keeps depth values) :
    untyped.Keeps depth (.array values) := by
  have hwrite : (list untyped).write values = .array values :=
    congrArg Value.array (List.map_id values)
  constructor
  · have hfits := hkeeps.fits
    rw [hwrite] at hfits
    exact hfits
  · intro node hshows
    have hread := hkeeps.again node (by rw [hwrite]; exact hshows)
    cases hshows with
    | array hitems =>
        rw [untyped_read_array, hread]
        rfl

theorem object_keeps {entries : List (String × Value)}
    (hkeeps : (map untyped).Keeps depth entries) :
    untyped.Keeps depth (.object entries) := by
  have hwrite : (map untyped).write entries = .object entries :=
    congrArg Value.object (List.map_id entries)
  constructor
  · have hfits := hkeeps.fits
    rw [hwrite] at hfits
    exact hfits
  · intro node hshows
    have hread := hkeeps.again node (by rw [hwrite]; exact hshows)
    cases hshows with
    | object hmembers =>
        rw [untyped_read_object, hread]
        rfl

theorem number_keeps {n : Number} (hfits : n.Fits) :
    untyped.Keeps depth (.number n) where
  fits := by
    intro m hm
    rw [List.mem_singleton.mp hm]
    exact hfits
  again := by
    intro node hshows
    cases hshows with
    | number hvalue =>
        exact congrArg (Except.map Value.number) (Lexeme.read_of_value hvalue _)

/-- A value without a number or anything inside. -/
theorem word_keeps {value : Value} (hvalue : value = .null ∨
      (exists b, value = .bool b) ∨ exists s, value = .string s) :
    untyped.Keeps depth value := by
  rcases hvalue with rfl | ⟨b, rfl⟩ | ⟨s, rfl⟩
  all_goals
    constructor
    · intro n hn
      cases hn
    · intro node hshows
      cases hshows
      rfl

theorem lossless_untyped : untyped.Lossless depth := by
  induction depth using Nat.strongRecOn with
  | ind depth ih =>
      intro node value hread
      cases node with
      | null start stop =>
          injection hread with hvalue
          exact word_keeps (.inl hvalue.symm)
      | bool b start stop =>
          injection hread with hvalue
          exact word_keeps (.inr (.inl ⟨b, hvalue.symm⟩))
      | number lexeme start stop =>
          rcases Outcome.map_eq_ok_iff.mp hread with ⟨n, hn, hvalue⟩
          subst hvalue
          exact number_keeps (Lexeme.fits_of_value (Lexeme.value_of_read hn))
      | string content start stop =>
          rcases Outcome.map_eq_ok_iff.mp hread with ⟨s, _, hvalue⟩
          exact word_keeps (.inr (.inr ⟨s, hvalue.symm⟩))
      | array start items =>
          rw [untyped_read_array] at hread
          rcases Outcome.map_eq_ok_iff.mp hread with ⟨values, hvalues, hvalue⟩
          subst hvalue
          exact array_keeps (lossless_list ih _ values hvalues)
      | object start inside members =>
          rw [untyped_read_object] at hread
          rcases Outcome.map_eq_ok_iff.mp hread with ⟨entries, hentries, hvalue⟩
          subst hvalue
          exact object_keeps (lossless_map ih _ entries hentries)
      | broken start first read skip =>
          cases hread

end Untyped

/-!
## Faithful codecs

A faithful codec is lossless at every depth and writes different values for
different things.
-/

section Classes

class Faithful (codec : Codec α) : Prop where
  lossless : forall depth, codec.Lossless depth
  eq_of_write : forall a b, codec.write a = codec.write b -> a = b

class NeverNull (codec : Codec α) : Prop where
  ne_null : forall a, codec.write a ≠ .null

instance : Faithful text where
  lossless := fun _ => lossless_text
  eq_of_write := fun _ _ h => Value.string.inj h

instance : Faithful flag where
  lossless := fun _ => lossless_flag
  eq_of_write := fun _ _ h => Value.bool.inj h

theorem eq_of_write_integer {expected : String} {low high i j : Int}
    (h : (integer expected low high).write i = (integer expected low high).write j) :
    i = j :=
  Number.integer.inj (Value.number.inj h)

instance : Faithful signed64 where
  lossless := fun _ => lossless_signed64
  eq_of_write := fun _ _ => eq_of_write_integer

instance : Faithful unsigned32 where
  lossless := fun _ => lossless_unsigned32
  eq_of_write := fun _ _ => eq_of_write_integer

instance : Faithful untyped where
  lossless := fun _ => lossless_untyped
  eq_of_write := fun _ _ h => h

instance {codec : Codec α} [hcodec : Faithful codec] : Faithful (list codec) where
  lossless := fun _ => lossless_list fun inner _ => hcodec.lossless inner
  eq_of_write := fun _ _ h =>
    (List.map_inj_right hcodec.eq_of_write).mp (Value.array.inj h)

instance {codec : Codec α} [hcodec : Faithful codec] : Faithful (map codec) where
  lossless := fun _ => lossless_map fun inner _ => hcodec.lossless inner
  eq_of_write := by
    intro entries others h
    apply (List.map_inj_right _).mp (Value.object.inj h)
    intro entry other hwritten
    injection hwritten with hkey hvalue
    exact Prod.ext hkey (hcodec.eq_of_write entry.2 other.2 hvalue)

instance : NeverNull text :=
  ⟨nofun⟩

instance : NeverNull flag :=
  ⟨nofun⟩

instance : NeverNull unsigned32 :=
  ⟨nofun⟩

instance {codec : Codec α} : NeverNull (list codec) :=
  ⟨nofun⟩

instance {codec : Codec α} : NeverNull (map codec) :=
  ⟨nofun⟩

end Classes

end Codec

end Json

/-!
## Tags and lists of tools
-/

namespace Kind

open Json

theorem codec_keeps (depth : Nat) (kind : Kind) : codec.Keeps depth kind where
  fits := by
    intro n hn
    cases hn
  again := by
    intro node hshows
    cases hshows
    simp only [codec, readTag, bind, Except.bind, ofTag?_tag]
    rfl

instance : codec.Faithful where
  lossless := fun depth _ kind _ => codec_keeps depth kind
  eq_of_write := fun _ _ h => tag_injective (Value.string.inj h)

end Kind

namespace ToolList

open Json

theorem toJson_texts {values : List Value} {items : List String}
    (htexts : texts? values = some items) : values = items.map .string := by
  induction values generalizing items with
  | nil =>
      injection htexts with htexts
      subst htexts
      rfl
  | cons value values ih =>
      cases value with
      | string s =>
          rcases Option.map_eq_some_iff.mp htexts with ⟨others, hothers, heq⟩
          subst heq
          rw [ih hothers]
          rfl
      | null | bool | number | array | object =>
          cases htexts

theorem toJson_of_ofJson? {value : Value} {tools : ToolList}
    (hjson : ofJson? value = some tools) : toJson tools = value := by
  cases value with
  | array items =>
      rcases Option.map_eq_some_iff.mp hjson with ⟨texts, htexts, heq⟩
      subst heq
      rw [toJson_texts htexts]
      rfl
  | string line =>
      injection hjson with hjson
      subst hjson
      rfl
  | null | bool | number | object =>
      cases hjson

theorem lossless_codec (depth : Nat) : codec.Lossless depth := by
  intro node tools hread
  rcases Outcome.bind_eq_ok_iff.mp hread with ⟨value, hvalue, htools⟩
  have hkeeps : Codec.untyped.Keeps depth value :=
    Codec.lossless_untyped node value hvalue
  cases hjson : ofJson? value with
  | none =>
      simp only [hjson] at htools
      cases htools
  | some tools' =>
      simp only [hjson] at htools
      injection htools with htools
      subst htools
      have hwrite : codec.write tools' = value := toJson_of_ofJson? hjson
      constructor
      · rw [hwrite]
        exact hkeeps.fits
      · intro again hshows
        rw [hwrite] at hshows
        have hagain : again.read depth = .ok value := hkeeps.again again hshows
        simp only [codec, hagain, bind, Except.bind, hjson]
        rfl

end ToolList
end AgentFiles
