import AgentFiles.Proofs.Json.Fields

/-!
# Records

A record that was read, from an object or from an array, has every field in a
state that its field keeps. What is written for such a record puts all fields
into the same states again, and if the record is determined by what its fields
write, it is the record itself.
-/

namespace AgentFiles
namespace Json
namespace Record

variable {R ε : Type} {record : Record R} {depth : Nat}

structure Lawful (record : Record R) (depth : Nat) : Prop where
  lossless : forall field, field ∈ record.fields ->
    field.Lossless record.blank depth
  apart : record.fields.Pairwise Field.Apart

def SameWriting (record : Record R) (r t : R) : Prop :=
  forall field, field ∈ record.fields -> field.write r = field.write t

/-- Records are the same if their fields write the same. -/
def Determined (record : Record R) : Prop :=
  forall r t, record.SameWriting r t -> r = t

def Keeps (record : Record R) (depth : Nat) (r : R) : Prop :=
  forall field, field ∈ record.fields ->
    field.Keeps record.blank depth (field.write r)

section Lookup

variable {field : Field R} {key : String} {seen : List String} {stop : Nat}

theorem mem_of_field? (hfield : record.field? key = some field) :
    field ∈ record.fields ∧ field.key = key := by
  constructor
  · exact List.mem_of_find?_eq_some hfield
  · simpa using List.find?_some hfield

theorem eq_of_key {other : Field R} (hapart : record.fields.Pairwise Field.Apart)
    (hfield : field ∈ record.fields) (hother : other ∈ record.fields)
    (hkey : other.key = field.key) : other = field := by
  rcases Field.eq_or_apart hapart hother hfield with heq | happart
  · exact heq
  · exact absurd hkey happart.keys

theorem field?_of_mem (hapart : record.fields.Pairwise Field.Apart)
    (hmem : field ∈ record.fields) : record.field? field.key = some field := by
  cases hfound : record.field? field.key with
  | none =>
      exact absurd (beq_self_eq_true field.key)
        (List.find?_eq_none.mp hfound field hmem)
  | some other =>
      rcases mem_of_field? hfound with ⟨hother, hkey⟩
      rw [eq_of_key hapart hmem hother hkey]

theorem missing?_eq_none_iff :
    record.missing? seen stop = none <->
      forall field, field ∈ record.fields -> field.required = true ->
        field.key ∈ seen := by
  simp [missing?]

end Lookup

/-!
## What reading a member does
-/

section Steps

variable {unknown : String -> Node -> Except Fault (List ε)} {seen : List String}
variable {r r' : R} {others : List ε}

theorem readMembers_closed_eq_ok {stop : Nat}
    (hread : record.readMembers unknown depth seen r (.closed stop) =
      .ok (r', others)) :
    r' = r ∧ others = [] ∧
      forall field, field ∈ record.fields -> field.required = true ->
        field.key ∈ seen := by
  rw [readMembers] at hread
  cases hmissing : record.missing? seen stop with
  | some fault =>
      rw [hmissing] at hread
      cases hread
  | none =>
      rw [hmissing] at hread
      injection hread with hread
      injection hread with hr hothers
      exact ⟨hr.symm, hothers.symm, missing?_eq_none_iff.mp hmissing⟩

/-- A member belongs to a field that was not seen yet, or it is unknown and leaves the
record as it is. -/
theorem readMembers_member_eq_ok {key : Except Fault String} {settled : Nat}
    {node : Node} {rest : Members}
    (hread : record.readMembers unknown depth seen r
      (.member key settled node rest) = .ok (r', others)) :
    exists k, key = .ok k ∧
      ((exists field update, record.field? k = some field ∧ k ∉ seen ∧
        field.read depth node = .ok update ∧
        record.readMembers unknown depth (k :: seen) (update r) rest =
          .ok (r', others)) ∨
      (exists found later, record.field? k = none ∧ unknown k node = .ok found ∧
        record.readMembers unknown depth seen r rest = .ok (r', later) ∧
        others = found ++ later)) := by
  rcases Outcome.bind_eq_ok_iff.mp hread with ⟨k, hkey, hread⟩
  refine ⟨k, hkey, ?_⟩
  cases hfound : record.field? k with
  | some field =>
      simp only [hfound] at hread
      split at hread
      · cases hread
      · rename_i hunseen
        rcases Outcome.bind_eq_ok_iff.mp hread with ⟨update, hupdate, hrest⟩
        exact .inl ⟨field, update, rfl, by simpa using hunseen, hupdate, hrest⟩
  | none =>
      simp only [hfound] at hread
      rcases Outcome.bind_eq_ok_iff.mp hread with ⟨found, hkept, hread⟩
      rcases Outcome.bind_eq_ok_iff.mp hread with ⟨⟨r1, later⟩, hrest, hread⟩
      injection hread with hread
      injection hread with hr hothers
      subst hr
      exact .inr ⟨found, later, rfl, hkept, hrest, hothers.symm⟩

end Steps

/-!
## Reading

While a record is read, the fields that are done are in a state that they keep,
and all others are as in the blank record.
-/

section Reading

variable {done done' : Field R -> Prop} {field : Field R} {r : R}

structure Partly (record : Record R) (depth : Nat) (done : Field R -> Prop)
    (r : R) : Prop where
  keeps : forall field, field ∈ record.fields -> done field ->
    field.Keeps record.blank depth (field.write r)
  blank : forall field, field ∈ record.fields -> ¬ done field ->
    field.write r = field.write record.blank

theorem partly_blank (hnone : forall field, ¬ done field) :
    record.Partly depth done record.blank where
  keeps := fun field _ hdone => absurd hdone (hnone field)
  blank := fun _ _ _ => rfl

theorem Partly.update {node : Node} {update : R -> R} (hlawful : record.Lawful depth)
    (hpartly : record.Partly depth done r) (hfield : field ∈ record.fields)
    (hread : field.read depth node = .ok update)
    (hdone : forall other, other ∈ record.fields ->
      (done' other <-> other = field ∨ done other)) :
    record.Partly depth done' (update r) where
  keeps := by
    intro other hother hnew
    rcases Field.eq_or_apart hlawful.apart hother hfield with heq | happart
    · rw [heq]
      exact (hlawful.lossless field hfield).read node update hread r
    · rw [happart.right depth node update hread r]
      rcases (hdone other hother).mp hnew with heq | hold
      · exact absurd (congrArg Field.key heq) happart.keys
      · exact hpartly.keeps other hother hold
  blank := by
    intro other hother hopen
    have hopen' : ¬ (other = field ∨ done other) := by
      rw [<- hdone other hother]
      exact hopen
    rcases Field.eq_or_apart hlawful.apart hother hfield with heq | happart
    · exact absurd (.inl heq) hopen'
    · rw [happart.right depth node update hread r]
      exact hpartly.blank other hother fun hold => hopen' (.inr hold)

theorem Partly.skip (hlawful : record.Lawful depth)
    (hpartly : record.Partly depth done r)
    (hdone : forall other, other ∈ record.fields -> done' other ->
      ¬ done other -> other.required = false)
    (hkept : forall other, other ∈ record.fields -> done other -> done' other) :
    record.Partly depth done' r where
  keeps := by
    intro other hother hnew
    by_cases hold : done other
    · exact hpartly.keeps other hother hold
    · rw [hpartly.blank other hother hold]
      exact (hlawful.lossless other hother).missing (hdone other hother hnew hold)
  blank := by
    intro other hother hopen
    exact hpartly.blank other hother fun hold => hopen (hkept other hother hold)

theorem keeps_of_readMembers {unknown : String -> Node -> Except Fault (List ε)}
    (hlawful : record.Lawful depth) :
    forall (members : Members) (seen : List String) (r r' : R) (others : List ε),
      record.Partly depth (fun field => field.key ∈ seen) r ->
      record.readMembers unknown depth seen r members = .ok (r', others) ->
        record.Keeps depth r'
  | .closed stop, seen, r, r', others, hpartly, hread => by
      rcases readMembers_closed_eq_ok hread with ⟨hr, _, hrequired⟩
      -- What was not seen is not required, so that every field is done.
      have hall : record.Partly depth (fun _ => True) r := by
        apply hpartly.skip hlawful
        · intro other hother _ hunseen
          cases hcase : other.required with
          | false =>
              rfl
          | true =>
              exact absurd (hrequired other hother hcase) hunseen
        · intro _ _ _
          trivial
      rw [hr]
      exact fun field hfield => hall.keeps field hfield trivial
  | .broken _ _, _, _, _, _, _, hread => by
      cases hread
  | .member key _ node rest, seen, r, r', others, hpartly, hread => by
      rcases readMembers_member_eq_ok hread with
        ⟨k, _, ⟨field, update, hfound, _, hupdate, hrest⟩ |
          ⟨found, later, _, _, hrest, _⟩⟩
      · rcases mem_of_field? hfound with ⟨hmem, hkey⟩
        have hupdated :
            record.Partly depth (fun other => other.key ∈ k :: seen) (update r) := by
          apply hpartly.update hlawful hmem hupdate
          intro other hother
          rw [List.mem_cons, <- hkey]
          constructor
          · exact Or.imp_left (eq_of_key hlawful.apart hmem hother)
          · exact Or.imp_left (congrArg Field.key)
        exact keeps_of_readMembers hlawful rest (k :: seen) (update r) r' others
          hupdated hrest
      · exact keeps_of_readMembers hlawful rest seen r r' later hpartly hrest

theorem keeps_of_readItems (hlawful : record.Lawful depth) :
    forall (fields : List (Field R)) (index : Nat) (items : Items) (r r' : R),
      fields.Sublist record.fields ->
      record.Partly depth (fun field => field ∉ fields) r ->
      record.readItems depth r fields index items = .ok r' ->
        record.Keeps depth r'
  | [], _, .closed _, r, r', _, hpartly, hread => by
      injection hread with hr
      subst hr
      exact fun field hfield => hpartly.keeps field hfield List.not_mem_nil
  | [], _, .item _ _ _, _, _, _, _, hread => by
      cases hread
  | [], _, .broken _ _ _, _, _, _, _, hread => by
      cases hread
  | field :: fields, index, .closed stop, r, r', hsub, hpartly, hread => by
      rw [readItems] at hread
      split at hread
      · cases hread
      · rename_i hrequired
        have hskipped : record.Partly depth (fun other => other ∉ fields) r := by
          apply hpartly.skip hlawful
          · intro other _ hnew hold
            rcases List.mem_cons.mp (Classical.not_not.mp hold) with heq | hmem
            · rw [heq]
              exact Bool.eq_false_iff.mpr hrequired
            · exact absurd hmem hnew
          · intro other _ hold hmem
            exact hold (List.mem_cons_of_mem field hmem)
        exact keeps_of_readItems hlawful fields (index + 1) (.closed stop) r r'
          (List.sublist_of_cons_sublist hsub) hskipped hread
  | _ :: _, _, .broken _ _ _, _, _, _, _, hread => by
      cases hread
  | field :: fields, index, .item _ node rest, r, r', hsub, hpartly, hread => by
      rcases Outcome.bind_eq_ok_iff.mp hread with ⟨update, hupdate, hrest⟩
      have hfield : field ∈ record.fields := hsub.subset List.mem_cons_self
      have hupdated : record.Partly depth (fun other => other ∉ fields) (update r) := by
        apply hpartly.update hlawful hfield hupdate
        intro other _
        rw [List.mem_cons, not_or]
        constructor
        · intro hnew
          by_cases heq : other = field
          · exact .inl heq
          · exact .inr ⟨heq, hnew⟩
        · rintro (rfl | ⟨_, hnew⟩)
          · exact Field.not_mem_of_apart (hlawful.apart.sublist hsub)
          · exact hnew
      exact keeps_of_readItems hlawful fields (index + 1) rest (update r) r'
        (List.sublist_of_cons_sublist hsub) hupdated hrest

end Reading

/-!
## Reading what was written

The members are written in the order of the fields, without those that write
nothing. Reading them puts one field after the other into its state.
-/

section Writing

variable {r t : R} {seen : List String} {fields : List (Field R)}
variable {others : List (String × Value)} {members : Members}

def writtenBy (fields : List (Field R)) (r : R) : List (String × Value) :=
  fields.filterMap fun field => (field.write r).map fun value => (field.key, value)

theorem writtenBy_of_none {field : Field R} (hwrite : field.write r = none) :
    writtenBy (field :: fields) r = writtenBy fields r :=
  List.filterMap_cons_none (by rw [hwrite]; rfl)

theorem writtenBy_of_some {field : Field R} {value : Value}
    (hwrite : field.write r = some value) :
    writtenBy (field :: fields) r = (field.key, value) :: writtenBy fields r :=
  List.filterMap_cons_some (by rw [hwrite]; rfl)

/-- The fields of `fields` are still as in the blank record. All others are as in
`r`, and seen if they are required. -/
structure Restoring (record : Record R) (fields : List (Field R)) (r t : R)
    (seen : List String) : Prop where
  unseen : forall field, field ∈ fields -> field.key ∉ seen
  blank : forall field, field ∈ fields -> field.write t = field.write record.blank
  same : forall field, field ∈ record.fields -> field ∉ fields ->
    field.write t = field.write r
  seen : forall field, field ∈ record.fields -> field ∉ fields ->
    field.required = true -> field.key ∈ seen

theorem restoring_blank (r : R) :
    record.Restoring record.fields r record.blank [] where
  unseen := fun _ _ => List.not_mem_nil
  blank := fun _ _ => rfl
  same := fun _ hfield hopen => absurd hfield hopen
  seen := fun _ hfield hopen => absurd hfield hopen

theorem Restoring.skip {field : Field R}
    (hrestoring : record.Restoring (field :: fields) r t seen)
    (hkeeps : field.Keeps record.blank depth (field.write r))
    (hwrite : field.write r = none) : record.Restoring fields r t seen := by
  rw [hwrite] at hkeeps
  rcases hkeeps with ⟨hrequired, hblank⟩
  constructor
  · exact fun other hother => hrestoring.unseen other (List.mem_cons_of_mem _ hother)
  · exact fun other hother => hrestoring.blank other (List.mem_cons_of_mem _ hother)
  · intro other hother hopen
    by_cases heq : other = field
    · rw [heq, hwrite, hrestoring.blank field List.mem_cons_self, hblank]
    · exact hrestoring.same other hother (by simp [heq, hopen])
  · intro other hother hopen hneeded
    by_cases heq : other = field
    · rw [heq, hrequired] at hneeded
      cases hneeded
    · exact hrestoring.seen other hother (by simp [heq, hopen]) hneeded

theorem Restoring.update {field : Field R} {node : Node} {update : R -> R}
    {value : Value} (hlawful : record.Lawful depth)
    (hsub : (field :: fields).Sublist record.fields)
    (hrestoring : record.Restoring (field :: fields) r t seen)
    (hwrite : field.write r = some value)
    (hread : field.read depth node = .ok update)
    (hupdate : field.write (update t) = some value) :
    record.Restoring fields r (update t) (field.key :: seen) := by
  have hfield : field ∈ record.fields := hsub.subset List.mem_cons_self
  have hframe : forall other, other ∈ record.fields -> other ≠ field ->
      other.key ≠ field.key ∧ other.write (update t) = other.write t := by
    intro other hother hne
    rcases Field.eq_or_apart hlawful.apart hother hfield with heq | happart
    · exact absurd heq hne
    · exact ⟨happart.keys, happart.right depth node update hread t⟩
  have hlater : forall other, other ∈ fields ->
      other ∈ record.fields ∧ other ≠ field := by
    intro other hother
    refine ⟨hsub.subset (List.mem_cons_of_mem _ hother), ?_⟩
    rintro rfl
    exact Field.not_mem_of_apart (hlawful.apart.sublist hsub) hother
  constructor
  · intro other hother
    rcases hlater other hother with ⟨hmem, hne⟩
    have hunseen := hrestoring.unseen other (List.mem_cons_of_mem _ hother)
    simp [(hframe other hmem hne).1, hunseen]
  · intro other hother
    rcases hlater other hother with ⟨hmem, hne⟩
    rw [(hframe other hmem hne).2]
    exact hrestoring.blank other (List.mem_cons_of_mem _ hother)
  · intro other hother hopen
    by_cases heq : other = field
    · rw [heq, hwrite, hupdate]
    · rw [(hframe other hother heq).2]
      exact hrestoring.same other hother (by simp [heq, hopen])
  · intro other hother hopen hneeded
    by_cases heq : other = field
    · rw [heq]
      exact List.mem_cons_self
    · exact List.mem_cons_of_mem _
        (hrestoring.seen other hother (by simp [heq, hopen]) hneeded)

/-- Reading the written members restores the fields one by one. -/
theorem readMembers_writtenBy (unknown : String -> Node -> Except Fault (List ε))
    (hlawful : record.Lawful depth) (hkeeps : record.Keeps depth r)
    (hsub : fields.Sublist record.fields)
    (hrestoring : record.Restoring fields r t seen)
    (hshows : members.Shows (writtenBy fields r ++ others)) :
    exists t' seen' rest,
      record.readMembers unknown depth seen t members =
        record.readMembers unknown depth seen' t' rest ∧
      rest.Shows others ∧ record.Restoring [] r t' seen' := by
  induction fields generalizing t seen members with
  | nil =>
      exact ⟨t, seen, members, rfl, hshows, hrestoring⟩
  | cons field fields ih =>
      have hfield : field ∈ record.fields := hsub.subset List.mem_cons_self
      have hsub' : fields.Sublist record.fields := List.sublist_of_cons_sublist hsub
      have hkept := hkeeps field hfield
      cases hwrite : field.write r with
      | none =>
          rw [writtenBy_of_none hwrite] at hshows
          exact ih hsub' (hrestoring.skip hkept hwrite) hshows
      | some value =>
          rw [writtenBy_of_some hwrite, List.cons_append] at hshows
          rw [hwrite] at hkept
          cases hshows with
          | member hnode hrest =>
              rcases hkept.2 _ hnode with ⟨update, hread, hupdate⟩
              have hunseen := hrestoring.unseen field List.mem_cons_self
              rcases ih hsub'
                  (hrestoring.update hlawful hsub hwrite hread (hupdate t)) hrest with
                ⟨t', seen', rest, hstep, hothers, hrestored⟩
              refine ⟨t', seen', rest, ?_, hothers, hrestored⟩
              rw [<- hstep]
              simp [readMembers, field?_of_mem hlawful.apart hfield, hunseen, hread,
                bind, Except.bind]

theorem Restoring.missing? (hrestoring : record.Restoring [] r t seen) (stop : Nat) :
    record.missing? seen stop = none :=
  missing?_eq_none_iff.mpr fun field hfield =>
    hrestoring.seen field hfield List.not_mem_nil

theorem Restoring.sameWriting (hrestoring : record.Restoring [] r t seen) :
    record.SameWriting t r :=
  fun field hfield => hrestoring.same field hfield List.not_mem_nil

theorem writtenBy_fits (hkeeps : record.Keeps depth r) :
    (Value.object (record.writeMembers r)).Fits := by
  intro n hn
  rcases mem_memberNumbers.mp hn with ⟨member, hmember, hmem⟩
  rcases List.mem_filterMap.mp hmember with ⟨field, hfield, hwritten⟩
  rcases Option.map_eq_some_iff.mp hwritten with ⟨value, hvalue, heq⟩
  have hkept := hkeeps field hfield
  rw [hvalue] at hkept
  rw [<- heq] at hmem
  exact hkept.1 n hmem

theorem readMembers_writeMembers (unknown : String -> Node -> Except Fault (List ε))
    (hlawful : record.Lawful depth) (hdetermined : record.Determined)
    (hkeeps : record.Keeps depth r)
    (hshows : members.Shows (record.writeMembers r)) :
    record.readMembers unknown depth [] record.blank members = .ok (r, []) := by
  have hshows' : members.Shows (writtenBy record.fields r ++ []) := by
    rw [List.append_nil]
    exact hshows
  rcases readMembers_writtenBy unknown hlawful hkeeps (List.Sublist.refl _)
      (restoring_blank r) hshows' with
    ⟨t, seen, rest, hread, hrest, hrestored⟩
  cases hrest
  rw [hread, readMembers, hrestored.missing?,
    hdetermined t r hrestored.sameWriting]

end Writing

/-!
## The codec of a record

Unknown members are skipped, whatever they are.
-/

section Skipping

variable {r : R}

theorem keeps_of_codec {node : Node}
    (hlawful : forall inner, depth = inner + 1 -> record.Lawful inner)
    (hread : record.codec.read depth node = .ok r) :
    exists inner, (forall start, descend depth start = .ok inner) ∧
      record.Keeps inner r := by
  cases node with
  | array start items =>
      rcases Outcome.bind_eq_ok_iff.mp hread with ⟨inner, hdescend, hitems⟩
      refine ⟨inner, descend_moves hdescend, ?_⟩
      apply keeps_of_readItems (hlawful inner (descend_eq_ok_iff.mp hdescend).1)
        record.fields 0 items record.blank r (List.Sublist.refl _) _ hitems
      constructor
      · exact fun field hfield hdone => absurd hfield hdone
      · exact fun _ _ _ => rfl
  | object start inside members =>
      rcases Outcome.bind_eq_ok_iff.mp hread with ⟨inner, hdescend, hread⟩
      rcases Outcome.bind_eq_ok_iff.mp hread with ⟨⟨r', others⟩, hmembers, hr⟩
      injection hr with hr
      subst hr
      refine ⟨inner, descend_moves hdescend, ?_⟩
      exact keeps_of_readMembers (hlawful inner (descend_eq_ok_iff.mp hdescend).1)
        members [] record.blank r' others
        (partly_blank fun _ => List.not_mem_nil) hmembers
  | null | bool | number | string | broken =>
      cases hread

theorem lossless_codec
    (hlawful : forall inner, depth = inner + 1 -> record.Lawful inner)
    (hdetermined : record.Determined) : record.codec.Lossless depth := by
  intro node r hread
  rcases keeps_of_codec hlawful hread with ⟨inner, hdescend, hkeeps⟩
  constructor
  · exact writtenBy_fits hkeeps
  · intro again hshows
    cases hshows with
    | object hmembers =>
        have hinner := hlawful inner (descend_eq_ok_iff.mp (hdescend 0)).1
        simp only [codec, hdescend, bind, Except.bind]
        rw [readMembers_writeMembers _ hinner hdetermined hkeeps hmembers]
        rfl

theorem mem_writeMembers_iff (hapart : record.fields.Pairwise Field.Apart)
    {field : Field R} (hfield : field ∈ record.fields) {value : Value} {r : R} :
    (field.key, value) ∈ record.writeMembers r <-> field.write r = some value := by
  rw [writeMembers, List.mem_filterMap]
  constructor
  · rintro ⟨other, hother, hwritten⟩
    rcases Option.map_eq_some_iff.mp hwritten with ⟨written, hwrite, heq⟩
    injection heq with hkey hvalue
    rw [<- eq_of_key hapart hfield hother hkey, hwrite, hvalue]
  · intro hwrite
    exact ⟨field, hfield, by rw [hwrite]; rfl⟩

/-- What is written for a record tells what its fields write. -/
theorem sameWriting_of_write (hapart : record.fields.Pairwise Field.Apart) {r t : R}
    (hwrite : record.codec.write r = record.codec.write t) :
    record.SameWriting r t := by
  have hmembers : record.writeMembers r = record.writeMembers t :=
    Value.object.inj hwrite
  intro field hfield
  have hiff : forall value,
      field.write r = some value <-> field.write t = some value := by
    intro value
    rw [<- mem_writeMembers_iff hapart hfield, <- mem_writeMembers_iff hapart hfield,
      hmembers]
  exact Option.ext hiff

instance : record.codec.NeverNull :=
  ⟨nofun⟩

theorem faithful_codec (hlawful : forall depth, record.Lawful depth)
    (hdetermined : record.Determined) : record.codec.Faithful where
  lossless := fun _ => lossless_codec (fun inner _ => hlawful inner) hdetermined
  eq_of_write := fun r t h =>
    hdetermined r t (sameWriting_of_write (hlawful 0).apart h)

end Skipping

/-!
## The codec of a record with extra members

Unknown members are kept as untyped values, each under a key that no field has.
-/

section Keeping

variable {extra : R -> List (String × Value)}
variable {setExtra : List (String × Value) -> R -> R} {r : R}

/-- The extra members are a part of the record by itself. -/
structure HoldsExtra (record : Record R) (extra : R -> List (String × Value))
    (setExtra : List (String × Value) -> R -> R) : Prop where
  extra_set : forall entries r, extra (setExtra entries r) = entries
  write_set : forall entries r, record.SameWriting (setExtra entries r) r
  determined : forall r t, record.SameWriting r t -> extra r = extra t -> r = t

def KeepsExtra (record : Record R) (depth : Nat)
    (entries : List (String × Value)) : Prop :=
  forall entry, entry ∈ entries ->
    record.field? entry.1 = none ∧ Codec.untyped.Keeps depth entry.2

def keep (depth : Nat) (key : String) (node : Node) :
    Except Fault (List (String × Value)) :=
  (node.read depth).map fun value => [(key, value)]

theorem keepsExtra_of_readMembers :
    forall (members : Members) (seen : List String) (r r' : R)
      (others : List (String × Value)),
      record.readMembers (keep depth) depth seen r members = .ok (r', others) ->
        record.KeepsExtra depth others
  | .closed stop, seen, r, r', others, hread => by
      rcases readMembers_closed_eq_ok hread with ⟨_, hothers, _⟩
      subst hothers
      intro entry hentry
      cases hentry
  | .broken _ _, _, _, _, _, hread => by
      cases hread
  | .member key _ node rest, seen, r, r', others, hread => by
      rcases readMembers_member_eq_ok hread with
        ⟨k, _, ⟨field, update, _, _, _, hrest⟩ |
          ⟨found, later, hfield, hkept, hrest, hothers⟩⟩
      · exact keepsExtra_of_readMembers rest (k :: seen) (update r) r' others hrest
      · rcases Outcome.map_eq_ok_iff.mp hkept with ⟨value, hvalue, hfound⟩
        subst hfound
        subst hothers
        intro entry hentry
        rcases List.mem_cons.mp hentry with rfl | hentry
        · exact ⟨hfield, Codec.lossless_untyped node value hvalue⟩
        · exact keepsExtra_of_readMembers rest seen r r' later hrest entry hentry

theorem readMembers_extra {seen : List String} {entries : List (String × Value)}
    {members : Members} (hextra : record.KeepsExtra depth entries)
    (hmissing : forall stop, record.missing? seen stop = none)
    (hshows : members.Shows entries) :
    record.readMembers (keep depth) depth seen r members = .ok (r, entries) := by
  induction entries generalizing members with
  | nil =>
      cases hshows
      rw [readMembers, hmissing]
  | cons entry entries ih =>
      rcases hextra entry List.mem_cons_self with ⟨hfield, hkeeps⟩
      cases hshows with
      | member hnode hrest =>
          have hread : Node.read depth _ = .ok _ := hkeeps.again _ hnode
          have hothers := ih (fun e he => hextra e (List.mem_cons_of_mem _ he)) hrest
          simp only [readMembers, bind, Except.bind, hfield, keep, hread, Except.map,
            hothers]
          rfl

theorem fits_withExtra (hkeeps : record.Keeps depth r)
    (hextra : record.KeepsExtra depth (extra r)) :
    (Value.object (record.writeMembers r ++ extra r)).Fits := by
  intro n hn
  rcases mem_memberNumbers.mp hn with ⟨member, hmember, hmem⟩
  rcases List.mem_append.mp hmember with hwritten | hadded
  · exact writtenBy_fits hkeeps n (mem_memberNumbers.mpr ⟨member, hwritten, hmem⟩)
  · exact (hextra member hadded).2.fits n hmem

theorem readMembers_withExtra {members : Members} (hlawful : record.Lawful depth)
    (hholds : record.HoldsExtra extra setExtra) (hkeeps : record.Keeps depth r)
    (hextra : record.KeepsExtra depth (extra r)) (hsorted : Keyed.Sorted (extra r))
    (hshows : members.Shows (record.writeMembers r ++ extra r)) :
    exists t,
      record.readMembers (keep depth) depth [] record.blank members =
        .ok (t, extra r) ∧
      setExtra (Keyed.ofList (extra r)) t = r := by
  rcases readMembers_writtenBy (keep depth) hlawful hkeeps (List.Sublist.refl _)
      (restoring_blank r) hshows with ⟨t, seen, rest, hstep, hrest, hrestored⟩
  exists t
  constructor
  · rw [hstep]
    exact readMembers_extra hextra hrestored.missing? hrest
  · rw [Keyed.ofList_of_sorted hsorted]
    apply hholds.determined
    · intro field hfield
      rw [hholds.write_set _ t field hfield]
      exact hrestored.sameWriting field hfield
    · rw [hholds.extra_set]

theorem lossless_codecWithExtra
    (hlawful : forall inner, depth = inner + 1 -> record.Lawful inner)
    (hholds : record.HoldsExtra extra setExtra) :
    (record.codecWithExtra extra setExtra).Lossless depth := by
  intro node r hread
  cases node with
  | object start inside members =>
      rcases Outcome.bind_eq_ok_iff.mp hread with ⟨inner, hdescend, hread⟩
      rcases Outcome.bind_eq_ok_iff.mp hread with ⟨⟨r1, others⟩, hmembers, hr⟩
      injection hr with hr
      have hinner := hlawful inner (descend_eq_ok_iff.mp hdescend).1
      have hothers : record.KeepsExtra inner others :=
        keepsExtra_of_readMembers members [] record.blank r1 others hmembers
      have hentries : extra r = Keyed.ofList others := by
        rw [<- hr, hholds.extra_set]
      have hsorted : Keyed.Sorted (extra r) := by
        rw [hentries]
        exact Keyed.sorted_ofList others
      have hextra : record.KeepsExtra inner (extra r) := by
        rw [hentries]
        exact fun entry hentry => hothers entry (Keyed.mem_ofList hentry)
      have hkeeps : record.Keeps inner r := by
        intro field hfield
        rw [<- hr, hholds.write_set _ r1 field hfield]
        exact keeps_of_readMembers hinner members [] record.blank r1 others
          (partly_blank fun _ => List.not_mem_nil) hmembers field hfield
      constructor
      · exact fits_withExtra hkeeps hextra
      · intro again hshows
        cases hshows with
        | object hagain =>
            rcases readMembers_withExtra hinner hholds hkeeps hextra hsorted hagain with
              ⟨t, hread, hresult⟩
            have hkeep :
                (fun key node => (Node.read inner node).map fun value =>
                  [(key, value)]) = keep inner := rfl
            simp only [codecWithExtra, descend_moves hdescend, bind, Except.bind, hkeep,
              hread, pure, Except.pure, hresult]
  | null | bool | number | string | array | broken =>
      cases hread

end Keeping

end Record

end Json
end AgentFiles
