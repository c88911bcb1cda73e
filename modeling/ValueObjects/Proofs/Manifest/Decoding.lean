import ValueObjects.Manifest.Load
import ValueObjects.Proofs.Manifest.ShapeWalk
import ValueObjects.Proofs.Toml.KeyOrder

/-!
# Reading the shape

Which texts are read as manifests and what is reported of the others. A text that is a document is walked through table
by table, in depth. In each table the keys come in the order in which the text mentions them first, but a table that was
only implied by what is inside it comes where its own header stands.
-/

namespace ValueObjects

open Toml (Entries Mention)
open Toml.Document (parse? TextMentions)

/-! ## All documents -/

namespace ManifestText

/-- The refusal of a text with something wrong in it. -/
def misfit (t : ManifestText) (visit : Visit) : Diagnostic :=
  ⟨t.source, some visit.report.span, .misshapen visit.report.value⟩

variable {t : ManifestText} {entries : Entries}

theorem decode_eq_of_parse? (h : parse? t.text = some entries) :
    t.decode = (Manifest.ofEntries entries).mapError fun e => ⟨t.source, some e.span, .misshapen e.value⟩ := by
  unfold decode
  rw [h]
  dsimp only
  cases Manifest.ofEntries entries <;> rfl

theorem exists_decode_iff (h : parse? t.text = some entries) (harrays : entries.NoArrays) :
    (∃ m, t.decode = .ok m) ↔ entries.Shaped := by
  rw [← Manifest.exists_ofEntries_iff harrays, decode_eq_of_parse? h]
  cases Manifest.ofEntries entries <;> simp [Except.mapError]

theorem decode_eq_error (h : parse? t.text = some entries) (harrays : entries.NoArrays) {d : Diagnostic} :
    t.decode = .error d ↔ ∃ before visit after, entries.walk = before ++ visit :: after
      ∧ (∀ w ∈ before, ¬ w.Offends) ∧ visit.Offends ∧ d = t.misfit visit := by
  have hshape : t.decode = .error d ↔ ∃ e, Manifest.ofEntries entries = .error e
      ∧ d = ⟨t.source, some e.span, .misshapen e.value⟩ := by
    rw [decode_eq_of_parse? h]
    cases Manifest.ofEntries entries <;> simp [Except.mapError, eq_comm]
  rw [hshape]
  constructor
  · rintro ⟨e, he, rfl⟩
    obtain ⟨before, visit, after, hwalk, hbefore, hoffends, rfl⟩ := (Manifest.ofEntries_eq_error harrays).mp he
    exact ⟨before, visit, after, hwalk, hbefore, hoffends, rfl⟩
  · rintro ⟨before, visit, after, hwalk, hbefore, hoffends, rfl⟩
    exact ⟨_, (Manifest.ofEntries_eq_error harrays).mpr ⟨before, visit, after, hwalk, hbefore, hoffends, rfl⟩, rfl⟩

/-- A document without arrays in the place of records is read as a manifest exactly if it has the shape of one. Of any
other, the first thing is reported that is wrong on the way through its tables, and their keys come in the order in
which the text mentions them. -/
theorem decode_follows_walk (h : parse? t.text = some entries) (harrays : entries.NoArrays) :
    ((∃ m, t.decode = .ok m) ↔ entries.Shaped)
      ∧ (∀ d, t.decode = .error d ↔ ∃ before visit after, entries.walk = before ++ visit :: after
        ∧ (∀ w ∈ before, ¬ w.Offends) ∧ visit.Offends ∧ d = t.misfit visit)
      ∧ ∃ ms, TextMentions t.text ms ∧ (ms.map (·.place.offset)).Pairwise (· < ·) ∧ entries.Follows ms :=
  ⟨exists_decode_iff h harrays, fun _ => decode_eq_error h harrays, Toml.Document.exists_follows_of_parse? h⟩

end ManifestText

/-- A text with two mistakes: the output is a number, and `B` has no inner type. -/
def twoMistakesText : ManifestText :=
  ⟨"tvo.toml", "[value_objects.A]\ninner = \"int\"\n[generator]\noutput = 3\n[value_objects.B]\nguid = true\n"⟩

/-- The document in that text. The table of `B` stands in front of the settings of the generator. -/
def twoMistakes : Entries :=
  [(⟨⟨1, 13⟩, "value_objects"⟩, ⟨⟨1, 13⟩, .table .implied
      [(⟨⟨15, 1⟩, "A"⟩, ⟨⟨0, 17⟩, .table .headed [(⟨⟨18, 5⟩, "inner"⟩, ⟨⟨26, 5⟩, .text "int"⟩)]⟩),
        (⟨⟨70, 1⟩, "B"⟩, ⟨⟨55, 17⟩, .table .headed [(⟨⟨73, 4⟩, "guid"⟩, ⟨⟨80, 4⟩, .boolean true⟩)]⟩)]⟩),
    (⟨⟨33, 9⟩, "generator"⟩, ⟨⟨32, 11⟩, .table .headed
      [(⟨⟨44, 6⟩, "output"⟩, ⟨⟨53, 1⟩, .integer ⟨false, 10, ['3']⟩⟩)]⟩)]

theorem decode_twoMistakesText :
    parse? twoMistakesText.text = some twoMistakes ∧ twoMistakes.NoArrays ∧ ¬ twoMistakes.Shaped
      ∧ twoMistakesText.decode = .error ⟨"tvo.toml", some ⟨55, 17⟩, .misshapen (.missingKey "inner")⟩
      ∧ ∃ ms, TextMentions twoMistakesText.text ms ∧ (ms.map (·.place.offset)).Pairwise (· < ·)
        ∧ twoMistakes.Follows ms := by
  have hparse : parse? twoMistakesText.text = some twoMistakes := rfl
  have harrays : twoMistakes.NoArrays := by simp [Entries.NoArrays, twoMistakes, or_imp, forall_and]
  obtain ⟨hshaped, herror, hfollows⟩ := ManifestText.decode_follows_walk hparse harrays
  have hdecode : twoMistakesText.decode = .error ⟨"tvo.toml", some ⟨55, 17⟩, .misshapen (.missingKey "inner")⟩ := by
    refine (herror _).mpr ⟨twoMistakes.walk.take 9, twoMistakes.walk[9], twoMistakes.walk.drop 10, rfl, ?_, ?_, rfl⟩
    · decide
    · decide
  refine ⟨hparse, harrays, ?_, hdecode, hfollows⟩
  rw [← hshaped, hdecode]
  simp

/-! ## Late headers -/

/-- A mention like any other, even if it is a header. -/
def Toml.Mention.plain (m : Mention) : Mention := { m with own := false }

/-- A text that mentions the value objects first, but their own header stands behind the generator. There are two
mistakes: neither the generator nor a value object has such a key. -/
def lateHeaderText : ManifestText := ⟨"tvo.toml", "[value_objects.A.x]\n[generator]\nz=1\n[value_objects]"⟩

namespace LateHeader

/-- The value objects, under a key at some place. -/
def valueObjects (place : Span) : Toml.Key × Located Toml.Value :=
  (⟨place, "value_objects"⟩, ⟨⟨36, 15⟩, .table .headed
    [(⟨⟨15, 1⟩, "A"⟩, ⟨⟨15, 1⟩, .table .implied [(⟨⟨17, 1⟩, "x"⟩, ⟨⟨0, 19⟩, .table .headed []⟩)]⟩)]⟩)

def generator : Toml.Key × Located Toml.Value :=
  (⟨⟨21, 9⟩, "generator"⟩, ⟨⟨20, 11⟩, .table .headed [(⟨⟨32, 1⟩, "z"⟩, ⟨⟨34, 1⟩, .integer ⟨false, 10, ['1']⟩⟩)]⟩)

/-- The statements of the text. -/
def statements : List Toml.Statement :=
  [.table ⟨[⟨⟨1, 13⟩, "value_objects"⟩, ⟨⟨15, 1⟩, "A"⟩], ⟨⟨17, 1⟩, "x"⟩⟩ ⟨0, 19⟩,
    .table ⟨[], ⟨⟨21, 9⟩, "generator"⟩⟩ ⟨20, 11⟩,
    .assignment ⟨[], ⟨⟨32, 1⟩, "z"⟩⟩ ⟨⟨34, 1⟩, .integer ⟨false, 10, ['1']⟩⟩,
    .table ⟨[], ⟨⟨37, 13⟩, "value_objects"⟩⟩ ⟨36, 15⟩]

/-- The keys that the text mentions. -/
def mentions : List Mention :=
  [⟨⟨[⟨⟨1, 13⟩, "value_objects"⟩, ⟨⟨15, 1⟩, "A"⟩], ⟨⟨17, 1⟩, "x"⟩⟩, true⟩,
    ⟨⟨[], ⟨⟨21, 9⟩, "generator"⟩⟩, true⟩,
    ⟨⟨[⟨⟨21, 9⟩, "generator"⟩], ⟨⟨32, 1⟩, "z"⟩⟩, false⟩,
    ⟨⟨[], ⟨⟨37, 13⟩, "value_objects"⟩⟩, true⟩]

theorem textMentions : TextMentions lateHeaderText.text mentions := by
  have hscalar : Toml.Value.ofScalar? ['1'] = some (.integer ⟨false, 10, ['1']⟩) := rfl
  refine ⟨statements, [⟨⟨37, 13⟩, "value_objects"⟩], rfl, ?_⟩
  exact (((Toml.Document.Mentions.nil.table _ _).table _ _).assignment _ (.scalar hscalar)).table _ _

/-- The document with the value objects where they are mentioned first. -/
def reordered : Entries := [valueObjects ⟨1, 13⟩, generator]

/-- The value objects would come first if headers counted like other mentions. -/
theorem follows_plain : reordered.Follows (mentions.map (·.plain)) := by
  refine ⟨rfl, ?_⟩
  rintro _ (_ | ⟨_, _ | ⟨_, ⟨⟩⟩⟩) _ _ ⟨⟩
  · refine ⟨rfl, ?_⟩
    rintro _ (_ | ⟨_, ⟨⟩⟩) _ _ ⟨⟩
    refine ⟨rfl, ?_⟩
    rintro _ (_ | ⟨_, ⟨⟩⟩) _ _ ⟨⟩
    exact ⟨rfl, by simp⟩
  · refine ⟨rfl, ?_⟩
    rintro _ (_ | ⟨_, ⟨⟩⟩) _ _ ⟨⟩

end LateHeader

open LateHeader in
/-- A table whose own header is late does not come where it is mentioned first: walked in the order of first mentions,
the document has another first mistake than the one that is reported. -/
theorem not_first_mention_lateHeaderText : ∃ entries ms sorted before visit after,
    parse? lateHeaderText.text = some entries ∧ entries.NoArrays ∧ TextMentions lateHeaderText.text ms
      ∧ Entries.Follows sorted (ms.map (·.plain))
      ∧ (sorted.map fun e => (e.1.value, e.2)).Perm (entries.map fun e => (e.1.value, e.2))
      ∧ sorted.walk = before ++ visit :: after ∧ (∀ w ∈ before, ¬ w.Offends) ∧ visit.Offends
      ∧ lateHeaderText.decode ≠ .error (lateHeaderText.misfit visit) := by
  have hdecode : lateHeaderText.decode =
      .error ⟨"tvo.toml", some ⟨32, 1⟩, .misshapen (.unknownKey "z" ["namespace", "output"])⟩ := rfl
  refine ⟨[generator, valueObjects ⟨37, 13⟩], mentions, reordered, reordered.walk.take 3, reordered.walk[3],
    reordered.walk.drop 4, rfl, ?_, textMentions, follows_plain, .swap .., rfl, ?_, ?_, ?_⟩
  · simp [Entries.NoArrays, generator, valueObjects]
  · decide
  · decide
  · rw [hdecode]
    decide

end ValueObjects
