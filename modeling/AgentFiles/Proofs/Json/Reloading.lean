import AgentFiles.Proofs.Json.Agreement
import AgentFiles.Proofs.Json.Printed
import AgentFiles.Proofs.Json.Schemas

/-!
# Loaded values are loaded again

A value that was loaded from any text is loaded again from the text that is
written for it, unless a double stands in one of its untyped parts. So the text
that is written the second time is the same. The texts that are read need not
look like those that are written: members may come in any order, records may be
given as arrays, and fields may be null instead of missing.
-/

namespace AgentFiles

open Json

namespace Json
namespace Codec

variable {α : Type} {codec : Codec α} {content : String} {a : α}

/-- What is written for `a` is loaded as `a`, and then written as the same text. -/
def Reloads (codec : Codec α) (a : α) : Prop :=
  loadJson codec (codec.write a).text = .ok a ∧
    (loadJson codec (codec.write a).text).map (fun b => (codec.write b).text) =
      .ok (codec.write a).text

theorem read_of_loadJson (hload : loadJson codec content = .ok a) :
    exists node, codec.read fullDepth node = .ok a :=
  ⟨_, read_of_load (Outcome.mapError_eq_ok_iff.mp hload)⟩

theorem reloads_of_lossless (hcodec : codec.Lossless fullDepth)
    (hload : loadJson codec content = .ok a) (hwhole : (codec.write a).Whole) :
    codec.Reloads a := by
  rcases read_of_loadJson hload with ⟨node, hread⟩
  have hkeeps := hcodec node a hread
  have hagain : loadJson codec (codec.write a).text = .ok a := by
    rw [loadJson, Codec.load, load_text hwhole hkeeps.fits hkeeps.again]
    rfl
  constructor
  · exact hagain
  · rw [hagain]
    rfl

theorem reloads_of_typed [codec.Typed] (hcodec : codec.Lossless fullDepth)
    (hload : loadJson codec content = .ok a) : codec.Reloads a :=
  reloads_of_lossless hcodec hload (Typed.whole a)

end Codec
end Json

/-- Whatever is loaded with any of the schemas is loaded again from what is written
for it, if there is no double in its untyped parts. -/
theorem loaded_reloads (content : String) :
    (forall settings : Settings, loadJson Settings.codec content = .ok settings ->
      (Value.object (settings.hooks.getD [])).Whole ->
      (Value.object settings.extra).Whole ->
        Settings.codec.Reloads settings) ∧
    (forall plugin : Plugin, loadJson Plugin.codec content = .ok plugin ->
      (Value.object plugin.extra).Whole -> Plugin.codec.Reloads plugin) ∧
    (forall catalog : Marketplace, loadJson Marketplace.codec content = .ok catalog ->
      (Value.object catalog.extra).Whole -> Marketplace.codec.Reloads catalog) ∧
    (forall metadata : Metadata, loadJson Metadata.codec content = .ok metadata ->
      Metadata.codec.Reloads metadata) ∧
    (forall verdict : Verdict, loadJson Verdict.codec content = .ok verdict ->
      Verdict.codec.Reloads verdict) ∧
    (forall kind : Kind, loadJson Kind.codec content = .ok kind ->
      Kind.codec.Reloads kind) ∧
    (forall file : StoredFile, loadJson StoredFile.codec content = .ok file ->
      StoredFile.codec.Reloads file) ∧
    (forall snippet : Snippet, loadJson Snippet.codec content = .ok snippet ->
      Snippet.codec.Reloads snippet) ∧
    (forall fragment : Fragment, loadJson Fragment.codec content = .ok fragment ->
      Fragment.codec.Reloads fragment) ∧
    (forall tools : ToolList, loadJson ToolList.codec content = .ok tools ->
      ToolList.codec.Reloads tools) := by
  refine ⟨?_, ?_, ?_, ?_, ?_, ?_, ?_, ?_, ?_, ?_⟩
  · intro settings hload hhooks hextra
    exact Codec.reloads_of_lossless (Settings.lossless_codec _) hload
      (Settings.whole_write hhooks hextra)
  · intro plugin hload hextra
    exact Codec.reloads_of_lossless (Plugin.lossless_codec _) hload
      (Plugin.whole_write hextra)
  · intro catalog hload hextra
    exact Codec.reloads_of_lossless (Marketplace.lossless_codec _) hload
      (Marketplace.whole_write hextra)
  · intro metadata hload
    exact Codec.reloads_of_typed (Codec.Faithful.lossless _) hload
  · intro verdict hload
    exact Codec.reloads_of_typed (Verdict.lossless_codec 125) hload
  · intro kind hload
    exact Codec.reloads_of_typed (Codec.Faithful.lossless _) hload
  · intro file hload
    exact Codec.reloads_of_typed (Codec.Faithful.lossless _) hload
  · intro snippet hload
    exact Codec.reloads_of_typed (Snippet.lossless_codec 125) hload
  · intro fragment hload
    exact Codec.reloads_of_typed (Codec.Faithful.lossless _) hload
  · intro tools hload
    exact Codec.reloads_of_typed (ToolList.lossless_codec _) hload

/-- Settings with a null for what is missing, a record that is given as an array and
members out of order. -/
def shuffledSettings : String :=
  "\x7b\"b\":[-1,\"\\u00e9\"],\"a\":\x7b\x7d,\"model\":null," ++
    "\"permissions\":[[\"Read\"]],\"hooks\":\x7b\"Stop\":7\x7d\x7d"

theorem loaded_reloads_shuffled :
    (exists settings, loadJson Settings.codec shuffledSettings = .ok settings ∧
      Settings.codec.Reloads settings) ∧
    (exists verdict, loadJson Verdict.codec "\x7b\"errors\":[\"\"],\"valid\":true\x7d" =
      .ok verdict ∧ Verdict.codec.Reloads verdict) ∧
    (exists kind, loadJson Kind.codec "\x7b\"claude-hook\":null\x7d" = .ok kind ∧
      Kind.codec.Reloads kind) := by
  refine ⟨?_, ?_, ?_⟩
  · have hloads :
        ((loadJson Settings.codec shuffledSettings).toOption.any fun settings =>
          decide (Value.object (settings.hooks.getD [])).Whole &&
            decide (Value.object settings.extra).Whole) = true := by
      decide +kernel
    rcases (Option.any_eq_true _ _).mp hloads with ⟨settings, hload, hwhole⟩
    rw [Bool.and_eq_true] at hwhole
    have hload := Outcome.toOption_eq_some_iff.mp hload
    exact ⟨settings, hload, (loaded_reloads shuffledSettings).1 settings hload
      (of_decide_eq_true hwhole.1) (of_decide_eq_true hwhole.2)⟩
  · have hloads :
        (loadJson Verdict.codec "\x7b\"errors\":[\"\"],\"valid\":true\x7d").toOption =
          some ⟨[""], []⟩ := by
      decide +kernel
    have hload := Outcome.toOption_eq_some_iff.mp hloads
    exact ⟨_, hload, (loaded_reloads _).2.2.2.2.1 _ hload⟩
  · have hloads :
        (loadJson Kind.codec "\x7b\"claude-hook\":null\x7d").toOption =
          some .hook := by
      decide +kernel
    have hload := Outcome.toOption_eq_some_iff.mp hloads
    exact ⟨_, hload, (loaded_reloads _).2.2.2.2.2.1 _ hload⟩

end AgentFiles
