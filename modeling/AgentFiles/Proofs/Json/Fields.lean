import AgentFiles.Proofs.Json.Lossless

/-!
# Fields

A record is followed through a reader by what its fields would write. A field is
lossless if an update that it reads makes it write something from which the same
is read again, and if it may be missing, if that also holds of what it writes for
a blank record. Two fields are apart if they have different keys and reading one
leaves what the other writes as it is.
-/

namespace AgentFiles
namespace Json
namespace Field

variable {R α : Type}

/-- What a field writes can be read again: a value as an update that makes the
field write the value, and nothing at all as the part of a blank record. -/
def Keeps (field : Field R) (blank : R) (depth : Nat) : Option Value -> Prop
  | some value =>
      value.Fits ∧
        forall node, node.Shows value ->
          exists update, field.read depth node = .ok update ∧
            forall r, field.write (update r) = some value
  | none => field.required = false ∧ field.write blank = none

structure Lossless (field : Field R) (blank : R) (depth : Nat) : Prop where
  read : forall node update, field.read depth node = .ok update ->
    forall r, field.Keeps blank depth (field.write (update r))
  missing : field.required = false -> field.Keeps blank depth (field.write blank)

def Frames (field other : Field R) : Prop :=
  forall depth node update, field.read depth node = .ok update ->
    forall r, other.write (update r) = other.write r

structure Apart (field other : Field R) : Prop where
  keys : field.key ≠ other.key
  left : field.Frames other
  right : other.Frames field

@[simp]
theorem apart_iff {field other : Field R} :
    field.Apart other <->
      field.key ≠ other.key ∧ field.Frames other ∧ other.Frames field := by
  constructor
  · intro h
    exact ⟨h.keys, h.left, h.right⟩
  · rintro ⟨hkeys, hleft, hright⟩
    exact ⟨hkeys, hleft, hright⟩

theorem Apart.symm {field other : Field R} (h : field.Apart other) :
    other.Apart field :=
  ⟨Ne.symm h.keys, h.right, h.left⟩

theorem eq_or_apart {fields : List (Field R)} (hapart : fields.Pairwise Apart)
    {field other : Field R} (hfield : field ∈ fields) (hother : other ∈ fields) :
    field = other ∨ field.Apart other := by
  induction fields with
  | nil =>
      cases hfield
  | cons first rest ih =>
      rcases List.pairwise_cons.mp hapart with ⟨hfirst, hrest⟩
      rcases List.mem_cons.mp hfield with rfl | hfield
      · rcases List.mem_cons.mp hother with rfl | hother
        · exact .inl rfl
        · exact .inr (hfirst other hother)
      · rcases List.mem_cons.mp hother with heq | hother
        · rw [heq]
          exact .inr (hfirst field hfield).symm
        · exact ih hrest hfield hother

theorem not_mem_of_apart {field : Field R} {fields : List (Field R)}
    (hapart : (field :: fields).Pairwise Apart) : field ∉ fields := by
  intro hmem
  exact ((List.pairwise_cons.mp hapart).1 field hmem).keys rfl

/-!
## The kinds of fields

What a field reads is put into its part of the record, so that these lemmas reduce
the laws of a field to equations between parts, which hold by computation.
-/

section Kinds

variable {key : String} {codec : Codec α} {depth : Nat} {blank : R}

@[simp]
theorem mandatory_key {get : R -> α} {set : α -> R -> R} :
    (mandatory key codec get set).key = key :=
  rfl

@[simp]
theorem defaulted_key {get : R -> α} {set : α -> R -> R} :
    (defaulted key codec get set).key = key :=
  rfl

@[simp]
theorem optional_key {get : R -> Option α} {set : Option α -> R -> R} :
    (optional key codec get set).key = key :=
  rfl

theorem keeps_of_codec {field : Field R} {a : α} {update : R -> R}
    (hkeeps : codec.Keeps depth a)
    (hread : forall node, node.Shows (codec.write a) ->
      codec.read depth node = .ok a -> field.read depth node = .ok update)
    (hwrite : forall r, field.write (update r) = some (codec.write a)) :
    field.Keeps blank depth (some (codec.write a)) := by
  refine ⟨hkeeps.fits, ?_⟩
  intro node hshows
  exact ⟨update, hread node hshows (hkeeps.again node hshows), hwrite⟩

section Always

variable {get : R -> α} {set : α -> R -> R}

@[simp]
theorem frames_mandatory {other : Field R}
    (hset : forall a r, other.write (set a r) = other.write r) :
    (mandatory key codec get set).Frames other := by
  intro depth node update hread r
  rcases Outcome.map_eq_ok_iff.mp hread with ⟨a, _, hupdate⟩
  rw [<- hupdate, hset]

@[simp]
theorem frames_defaulted {other : Field R}
    (hset : forall a r, other.write (set a r) = other.write r) :
    (defaulted key codec get set).Frames other := by
  intro depth node update hread r
  rcases Outcome.map_eq_ok_iff.mp hread with ⟨a, _, hupdate⟩
  rw [<- hupdate, hset]

theorem mandatory_keeps {a : α} (hget : forall a r, get (set a r) = a)
    (hkeeps : codec.Keeps depth a) :
    (mandatory key codec get set).Keeps blank depth (some (codec.write a)) := by
  apply keeps_of_codec hkeeps
  · intro node _ hread
    exact congrArg (Except.map set) hread
  · intro r
    simp only [mandatory, hget]

theorem defaulted_keeps {a : α} (hget : forall a r, get (set a r) = a)
    (hkeeps : codec.Keeps depth a) :
    (defaulted key codec get set).Keeps blank depth (some (codec.write a)) := by
  apply keeps_of_codec hkeeps
  · intro node _ hread
    exact congrArg (Except.map set) hread
  · intro r
    simp only [defaulted, hget]

@[simp]
theorem lossless_mandatory [hcodec : codec.Faithful]
    (hget : forall a r, get (set a r) = a) :
    (mandatory key codec get set).Lossless blank depth where
  read := by
    intro node update hread r
    rcases Outcome.map_eq_ok_iff.mp hread with ⟨a, ha, hupdate⟩
    subst hupdate
    have hwrite :
        (mandatory key codec get set).write (set a r) = some (codec.write a) := by
      simp only [mandatory, hget]
    rw [hwrite]
    exact mandatory_keeps hget (hcodec.lossless depth node a ha)
  missing := by
    intro hrequired
    cases hrequired

@[simp]
theorem lossless_defaulted [hcodec : codec.Faithful]
    (hget : forall a r, get (set a r) = a) (hblank : codec.Keeps depth (get blank)) :
    (defaulted key codec get set).Lossless blank depth where
  read := by
    intro node update hread r
    rcases Outcome.map_eq_ok_iff.mp hread with ⟨a, ha, hupdate⟩
    subst hupdate
    have hwrite :
        (defaulted key codec get set).write (set a r) = some (codec.write a) := by
      simp only [defaulted, hget]
    rw [hwrite]
    exact defaulted_keeps hget (hcodec.lossless depth node a ha)
  missing := fun _ => defaulted_keeps hget hblank

end Always

section Sometimes

variable {get : R -> Option α} {set : Option α -> R -> R}

theorem optional_read {node : Node} {a : α}
    (hnull : forall start stop, node ≠ .null start stop)
    (hread : codec.read depth node = .ok a) :
    (optional key codec get set).read depth node = .ok (set (some a)) := by
  cases node with
  | null start stop =>
      exact absurd rfl (hnull start stop)
  | bool | number | string | array | object | broken =>
      exact congrArg (Except.map fun a => set (some a)) hread

theorem optional_update {node : Node} {update : R -> R}
    (hread : (optional key codec get set).read depth node = .ok update) :
    update = set none ∨
      exists a, codec.read depth node = .ok a ∧ update = set (some a) := by
  cases node with
  | null start stop =>
      injection hread with hupdate
      exact .inl hupdate.symm
  | bool | number | string | array | object | broken =>
      rcases Outcome.map_eq_ok_iff.mp hread with ⟨a, ha, hupdate⟩
      exact .inr ⟨a, ha, hupdate.symm⟩

@[simp]
theorem frames_optional {other : Field R}
    (hset : forall a? r, other.write (set a? r) = other.write r) :
    (optional key codec get set).Frames other := by
  intro depth node update hread r
  rcases optional_update hread with hnone | ⟨a, _, hsome⟩
  · rw [hnone, hset]
  · rw [hsome, hset]

theorem optional_write (hget : forall a? r, get (set a? r) = a?) (a? : Option α)
    (r : R) :
    (optional key codec get set).write (set a? r) = a?.map codec.write := by
  simp only [optional, hget]

theorem ne_null_of_shows {node : Node} {value : Value} (hvalue : value ≠ .null)
    (hshows : node.Shows value) (start stop : Nat) : node ≠ .null start stop := by
  intro heq
  subst heq
  cases hshows
  exact hvalue rfl

@[simp]
theorem lossless_optional [hcodec : codec.Faithful] [hwrite : codec.NeverNull]
    (hget : forall a? r, get (set a? r) = a?) (hblank : get blank = none) :
    (optional key codec get set).Lossless blank depth := by
  have hmissing :
      (optional key codec get set).Keeps blank depth none := by
    refine ⟨rfl, ?_⟩
    simp only [optional, hblank, Option.map_none]
  constructor
  · intro node update hread r
    rcases optional_update hread with hnone | ⟨a, ha, hsome⟩
    · rw [hnone, optional_write hget]
      exact hmissing
    · rw [hsome, optional_write hget]
      apply keeps_of_codec (hcodec.lossless depth node a ha)
      · intro again hshows hagain
        exact optional_read (ne_null_of_shows (hwrite.ne_null a) hshows) hagain
      · intro t
        exact optional_write hget (some a) t
  · intro _
    rw [hmissing.2]
    exact hmissing

end Sometimes

section Writes

variable [hcodec : codec.Faithful] {r t : R}

@[simp]
theorem mandatory_write_iff {get : R -> α} {set : α -> R -> R} :
    (mandatory key codec get set).write r = (mandatory key codec get set).write t <->
      get r = get t := by
  constructor
  · intro h
    exact hcodec.eq_of_write _ _ (Option.some.inj h)
  · intro h
    simp only [mandatory, h]

@[simp]
theorem defaulted_write_iff {get : R -> α} {set : α -> R -> R} :
    (defaulted key codec get set).write r = (defaulted key codec get set).write t <->
      get r = get t := by
  constructor
  · intro h
    exact hcodec.eq_of_write _ _ (Option.some.inj h)
  · intro h
    simp only [defaulted, h]

@[simp]
theorem optional_write_iff {get : R -> Option α} {set : Option α -> R -> R} :
    (optional key codec get set).write r = (optional key codec get set).write t <->
      get r = get t := by
  constructor
  · intro h
    exact Option.map_injective hcodec.eq_of_write h
  · intro h
    simp only [optional, h]

end Writes

end Kinds

end Field

end Json
end AgentFiles
