import ValueObjects.Manifest.Load
import ValueObjects.Proofs.Files.Directories

/-!
# Sources of manifests

What is read as a manifest is a matter of the text alone. The name of a text goes to the diagnostics and nowhere else,
so a file gives what its text gives under any name. The two ways of reading a file agree, also on why it has no text.
All this holds for every account of texts that are no documents, and such a text is refused with what the account says.
-/

namespace ValueObjects

open FileAccess

/-! ## Names of texts -/

/-- A diagnostic for a text of another name. -/
def Diagnostic.named (d : Diagnostic) (source : String) : Diagnostic := { d with source := source }

namespace ManifestText

/-- Two texts that differ in their names have the same result, or the same diagnostic but for the name in it. -/
def CarriesName {α : Type} (f : ManifestText → Except Diagnostic α) : Prop :=
  ∀ text source other, f ⟨other, text⟩ = (f ⟨source, text⟩).mapError (·.named other)

namespace CarriesName

variable {α β : Type}

/-- A diagnostic whose place is found in the text. -/
theorem error (place : String → Option Span) (cause : Cause) :
    CarriesName fun t => (.error ⟨t.source, place t.text, cause⟩ : Except Diagnostic α) :=
  fun _ _ _ => rfl

theorem ok (a : α) : CarriesName fun _ => .ok a := fun _ _ _ => rfl

/-- The name is carried on as long as nothing but the text decides how to go on. -/
theorem bind {f : ManifestText → Except Diagnostic α} {g : α → ManifestText → Except Diagnostic β}
    (hf : CarriesName f) (hg : ∀ a, CarriesName (g a)) : CarriesName fun t => f t >>= fun a => g a t := by
  intro text source other
  have hfirst := hf text source other
  dsimp only
  rw [hfirst]
  cases f ⟨source, text⟩ with
  | error d => rfl
  | ok a => exact hg a text source other

theorem forM {check : α → ManifestText → Except Diagnostic Unit} (hcheck : ∀ a, CarriesName (check a))
    (l : List α) : CarriesName fun t => l.forM fun a => check a t := by
  induction l with
  | nil => exact .ok ()
  | cons a l ih => exact (hcheck a).bind fun _ => ih

end CarriesName

/-! ## Checks -/

theorem carriesName_checkTypeName (name : String) : CarriesName (·.checkTypeName name) := by
  unfold checkTypeName
  cases Cause.ofName? name .valueObject with
  | none => exact .ok ()
  | some cause => exact .error (Places.ofName? · name) cause

theorem carriesName_checkNamespace (name : String) : CarriesName (·.checkNamespace name) := by
  unfold checkNamespace
  cases (namespaceSegments name).findSome? (Cause.ofName? · .namespaceSegment) with
  | none => exact .ok ()
  | some cause => exact .error (Places.ofValue? · "namespace" name) cause

theorem carriesName_checkInnerType (valueObject inner : String) :
    CarriesName (·.checkInnerType valueObject inner) := by
  unfold checkInnerType
  cases typeFlaw? inner with
  | none => exact .ok ()
  | some flaw => exact .error (Places.ofValue? · "inner" inner) (.invalidInnerType valueObject inner flaw)

theorem carriesName_checkValueObject (name : String) (s : ValueObjectSettings) :
    CarriesName (·.checkValueObject name s) := by
  unfold checkValueObject
  refine (carriesName_checkTypeName name).bind fun _ => (carriesName_checkInnerType name s.inner).bind fun _ => ?_
  split
  · exact .error (Places.ofName? · name) (.inconsistent ("value object '" ++ name ++ "' cannot wrap itself"))
  · exact .ok ()

theorem carriesName_checkManifest (m : Manifest) : CarriesName (·.checkManifest m) := by
  unfold checkManifest
  refine CarriesName.bind ?_ fun _ => .forM (fun e => carriesName_checkValueObject e.1 e.2) m.valueObjects
  cases m.generator.namespaceName with
  | none => exact .ok ()
  | some name => exact carriesName_checkNamespace name

/-! ## Reading -/

section

variable (explain : String → Toml.SyntaxError)

theorem carriesName_decode : CarriesName (·.decode explain) := by
  intro text source other
  dsimp only [decode]
  cases Toml.Document.parse? text with
  | none => rfl
  | some entries =>
    dsimp only
    cases Manifest.ofEntries entries <;> rfl

theorem carriesName_load : CarriesName (·.load explain) :=
  (carriesName_decode explain).bind fun m => (carriesName_checkManifest m).bind fun _ => .ok m

/-- A text that is no document is refused with what the account says about it. -/
theorem load_of_parse?_eq_none {t : ManifestText} (h : Toml.Document.parse? t.text = none) :
    t.load explain = .error ⟨t.source, (explain t.text).span, .malformed (explain t.text).message⟩ := by
  simp only [load, decode, h]
  rfl

/-- The account is asked for nothing else. -/
theorem load_of_parse?_eq_some {t : ManifestText} {entries : Toml.Entries}
    (h : Toml.Document.parse? t.text = some entries) : t.load explain = t.load := by
  simp only [load, decode, h]

end

end ManifestText

/-! ## Texts in files -/

theorem decode_of_not_isValidUTF8 {bytes : ByteArray} (h : ¬ bytes.IsValidUTF8) :
    decode bytes = .error .notText := by
  unfold decode String.fromUTF8?
  rw [dif_neg h]

namespace FileSystem

variable {fs : FileSystem} {p : Path}

/-- Why there is no text to be read at a path: it leads nowhere, or to a directory, or to bytes that are no text. -/
inductive Unreadable (fs : FileSystem) (p : Path) : Fault → Prop
  | nowhere {fault : Fault} (h : fs.locate p = .error fault) : Unreadable fs p fault
  | directory {l : Location} (h : fs.locate p = .ok l) (hdir : fs.node? l = some .directory) :
    Unreadable fs p .isADirectory
  | notText {l : Location} {bytes : ByteArray} (h : fs.locate p = .ok l) (hfile : fs.node? l = some (.file bytes))
    (hbytes : ¬ bytes.IsValidUTF8) : Unreadable fs p .notText

/-- At every path there is a text, or a reason why there is none. -/
theorem holds_or_unreadable (fs : FileSystem) (p : Path) :
    (∃ content, fs.Holds p content) ∨ ∃ fault, fs.Unreadable p fault := by
  cases hlocate : fs.locate p with
  | error fault => exact .inr ⟨fault, .nowhere hlocate⟩
  | ok l =>
    obtain ⟨node, hnode⟩ := Option.isSome_iff_exists.mp (isThere_of_locate hlocate)
    cases node with
    | directory => exact .inr ⟨_, .directory hlocate hnode⟩
    | file bytes =>
      by_cases hbytes : bytes.IsValidUTF8
      · exact .inl ⟨String.fromUTF8 bytes hbytes, holds_iff.mpr ⟨l, hlocate, hnode⟩⟩
      · exact .inr ⟨_, .notText hlocate hnode hbytes⟩

/-- Reading a text gives the text that is there, and looks at the files only. -/
theorem Holds.run_readText {content : String} (h : fs.Holds p content) :
    (readText p : StateM FileSystem _).run fs = (.ok content, fs) :=
  Prod.ext (readText_eq_ok.mpr h) rfl

theorem read_of_directory {l : Location} (h : fs.locate p = .ok l) (hdir : fs.node? l = some .directory) :
    fs.read p = .error .isADirectory := by
  obtain ⟨e, hentry, hnode⟩ := Option.map_eq_some_iff.mp (node?_eq fs l ▸ hdir)
  cases e with
  | file bytes => cases hnode
  | directory body =>
    simp only [read, h, bind, Except.bind, hentry]
    rfl

/-- Reading a text is refused for the reason why there is none. -/
theorem Unreadable.run_readText {fault : Fault} (h : fs.Unreadable p fault) :
    (readText p : StateM FileSystem _).run fs = (.error fault, fs) := by
  have hrun : (readText p : StateM FileSystem _).run fs = ((fs.read p).bind decode, fs) := rfl
  cases h with
  | nowhere hlocate =>
    rw [hrun, read, hlocate]
    rfl
  | directory hlocate hdir =>
    rw [hrun, read_of_directory hlocate hdir]
    rfl
  | notText hlocate hfile hbytes =>
    rw [hrun, read_eq_ok.mpr ⟨_, hlocate, hfile⟩, Except.bind, decode_of_not_isValidUTF8 hbytes]

/-- There is no text where there is a reason for that. -/
theorem Unreadable.not_holds {fault : Fault} (h : fs.Unreadable p fault) (content : String) :
    ¬ fs.Holds p content := by
  intro hholds
  have hresult := hholds.run_readText.symm.trans h.run_readText
  cases congrArg Prod.fst hresult

end FileSystem

/-! ## Manifests in files -/

open FileSystem

namespace ManifestFile

section

variable (explain : String → Toml.SyntaxError)

/-- A file gives what its text gives under any name, kept together with the path and the text itself. Only a diagnostic
names the path. -/
theorem ofContent_eq (path : Path) (content source : String) :
    ofContent path content explain =
      ((ManifestText.load ⟨source, content⟩ explain).map (⟨path, content, ·⟩)).mapError
        fun d => .rejected (d.named path.text) := by
  have hname := ManifestText.carriesName_load explain content source path.text
  dsimp only at hname
  unfold ofContent
  rw [hname]
  cases ManifestText.load ⟨source, content⟩ explain <;> rfl

theorem map_manifest_ofContent (path : Path) (content : String) :
    (ofContent path content explain).map manifest =
      (ManifestText.load ⟨path.text, content⟩ explain).mapError .rejected := by
  unfold ofContent
  cases ManifestText.load ⟨path.text, content⟩ explain <;> rfl

/-- Wherever the files are, reading the manifest alone gives the manifest of the file. -/
theorem read_manifest_eq_map {m : Type → Type} [Monad m] [LawfulMonad m] [FileAccess m] (p : Path) :
    (Manifest.read p explain : m _) = Except.map manifest <$> read p explain := by
  unfold Manifest.read read
  rw [map_bind]
  -- both begin with the same text, so only what is made of it has to be compared
  congr 1
  funext result
  cases result with
  | error fault =>
    rw [map_pure]
    rfl
  | ok content => rw [map_pure, map_manifest_ofContent]

variable {fs : FileSystem} {p : Path}

theorem run_read_of_holds {content : String} (h : fs.Holds p content) :
    (read p explain : StateM FileSystem _).run fs = (ofContent p content explain, fs) := by
  rw [read, run_bind, h.run_readText]
  rfl

theorem run_read_of_unreadable {fault : Fault} (h : fs.Unreadable p fault) :
    (read p explain : StateM FileSystem _).run fs = (.error (.unreadable p fault), fs) := by
  rw [read, run_bind, h.run_readText]
  rfl

/-- Reading only the manifest ends like reading its file. -/
theorem run_read_manifest {result : Except LoadError ManifestFile}
    (h : (read p explain : StateM FileSystem _).run fs = (result, fs)) :
    (Manifest.read p explain : StateM FileSystem _).run fs = (result.map manifest, fs) := by
  rw [read_manifest_eq_map, StateT.run_map, h]
  rfl

end

/-- All ways of reading a manifest agree, whatever account there is of texts that are no documents. Where there is no
text at a path, both ways of reading a file say why. Where there is one, both give what the text gives by itself, but
the path is its name in a diagnostic, and one of them keeps the path and the text with the manifest. They change
nothing, and one gives the manifest of the other wherever the files are. By itself, a text gives the same manifest under
any two names, or the same diagnostic but for the name. A text that is no document is refused at the place and with the
message of the account, and for every other text the account makes no difference. -/
theorem reads_agree (explain : String → Toml.SyntaxError) (fs : FileSystem) (p : Path) :
    (∀ fault, fs.Unreadable p fault →
      (read p explain : StateM FileSystem _).run fs = (.error (.unreadable p fault), fs)
        ∧ (Manifest.read p explain : StateM FileSystem _).run fs = (.error (.unreadable p fault), fs))
    ∧ (∀ content, fs.Holds p content →
      (∀ m, ManifestText.load ⟨ManifestText.standardSource, content⟩ explain = .ok m →
        (read p explain : StateM FileSystem _).run fs = (.ok ⟨p, content, m⟩, fs)
          ∧ (Manifest.read p explain : StateM FileSystem _).run fs = (.ok m, fs))
      ∧ ∀ d, ManifestText.load ⟨ManifestText.standardSource, content⟩ explain = .error d →
        (read p explain : StateM FileSystem _).run fs = (.error (.rejected (d.named p.text)), fs)
          ∧ (Manifest.read p explain : StateM FileSystem _).run fs = (.error (.rejected (d.named p.text)), fs))
    ∧ ((∃ content, fs.Holds p content) ∨ ∃ fault, fs.Unreadable p fault)
    ∧ (∀ (m : Type → Type) [Monad m] [LawfulMonad m] [FileAccess m],
      (Manifest.read p explain : m _) = Except.map manifest <$> read p explain)
    ∧ (∀ text source other, ManifestText.load ⟨other, text⟩ explain =
      (ManifestText.load ⟨source, text⟩ explain).mapError (·.named other))
    ∧ ∀ t : ManifestText,
      (Toml.Document.parse? t.text = none →
        t.load explain = .error ⟨t.source, (explain t.text).span, .malformed (explain t.text).message⟩)
      ∧ (Toml.Document.parse? t.text ≠ none → t.load explain = t.load) := by
  refine ⟨?_, ?_, holds_or_unreadable fs p, fun _ => read_manifest_eq_map explain p,
    ManifestText.carriesName_load explain, fun t => ⟨ManifestText.load_of_parse?_eq_none explain, ?_⟩⟩
  · intro fault hunreadable
    have hread := run_read_of_unreadable explain hunreadable
    exact ⟨hread, run_read_manifest explain hread⟩
  · intro content hholds
    have hread := run_read_of_holds explain hholds
    rw [ofContent_eq explain p content ManifestText.standardSource] at hread
    constructor
    · intro m hload
      rw [hload] at hread
      exact ⟨hread, run_read_manifest explain hread⟩
    · intro d hload
      rw [hload] at hread
      exact ⟨hread, run_read_manifest explain hread⟩
  · intro hparse
    obtain ⟨entries, hentries⟩ := Option.ne_none_iff_exists'.mp hparse
    exact ManifestText.load_of_parse?_eq_some explain hentries

/-- A text that declares one value object. -/
def leafText : String := "[value_objects.Leaf]\ninner = \"int\"\n"

/-- A text that declares one value object, with a reserved name. -/
def caseText : String := "[value_objects.case]\ninner = \"int\"\n"

/-- A text that is no document: it sets a key twice. -/
def twiceText : String := "[value_objects.A]\ninner = \"int\"\ninner = \"int\"\n"

/-- An account of the text that sets a key twice. -/
def explainTwice (text : String) : Toml.SyntaxError :=
  if text = twiceText then ⟨some ⟨32, 5⟩, "duplicate key"⟩ else Toml.unexplained text

/-- A directory with a manifest, a text that is refused, one that is no document, and bytes that are no text. -/
def shelf : FileSystem where
  root := .directory "shelf" (.file "leaf.toml" leafText.toUTF8 (.file "case.toml" caseText.toUTF8
    (.file "twice.toml" twiceText.toUTF8 (.file "raw.toml" ⟨#[0x5b, 0xff]⟩ .empty)))) .empty
  workingDirectory := ["shelf"]

theorem reads_agree_shelf :
    ((read ⟨"raw.toml"⟩ explainTwice : StateM FileSystem _).run shelf =
        (.error (.unreadable ⟨"raw.toml"⟩ .notText), shelf)
      ∧ (Manifest.read ⟨"raw.toml"⟩ explainTwice : StateM FileSystem _).run shelf =
        (.error (.unreadable ⟨"raw.toml"⟩ .notText), shelf))
    ∧ (∃ m, (read ⟨"leaf.toml"⟩ explainTwice : StateM FileSystem _).run shelf =
        (.ok ⟨⟨"leaf.toml"⟩, leafText, m⟩, shelf)
      ∧ (Manifest.read ⟨"leaf.toml"⟩ explainTwice : StateM FileSystem _).run shelf = (.ok m, shelf))
    ∧ ManifestText.load ⟨"tvo.toml", caseText⟩ explainTwice =
      .error ⟨"tvo.toml", some ⟨15, 4⟩, .reservedKeyword "case" .valueObject⟩
    ∧ (Manifest.read ⟨"./case.toml"⟩ explainTwice : StateM FileSystem _).run shelf =
      (.error (.rejected ⟨"./case.toml", some ⟨15, 4⟩, .reservedKeyword "case" .valueObject⟩), shelf)
    ∧ ManifestText.load ⟨"tvo.toml", twiceText⟩ explainTwice =
      .error ⟨"tvo.toml", some ⟨32, 5⟩, .malformed "duplicate key"⟩
    ∧ (read ⟨"./twice.toml"⟩ explainTwice : StateM FileSystem _).run shelf =
      (.error (.rejected ⟨"./twice.toml", some ⟨32, 5⟩, .malformed "duplicate key"⟩), shelf)
    ∧ (Manifest.read ⟨"./twice.toml"⟩ explainTwice : StateM FileSystem _).run shelf =
      (.error (.rejected ⟨"./twice.toml", some ⟨32, 5⟩, .malformed "duplicate key"⟩), shelf)
    ∧ (Manifest.read ⟨"./case.toml"⟩ explainTwice : StateM FileSystem _) =
      Except.map manifest <$> read ⟨"./case.toml"⟩ explainTwice := by
  have hraw : shelf.Unreadable ⟨"raw.toml"⟩ .notText := by
    have hlocate : shelf.locate ⟨"raw.toml"⟩ = .ok ["shelf", "raw.toml"] := eq_ok_of_toOption (by decide +kernel)
    exact .notText hlocate rfl (by decide +kernel)
  have hleaf : shelf.Holds ⟨"leaf.toml"⟩ leafText := by decide +kernel
  have hcase : shelf.Holds ⟨"./case.toml"⟩ caseText := by decide +kernel
  have htwice : shelf.Holds ⟨"./twice.toml"⟩ twiceText := by decide +kernel
  obtain ⟨m, hm⟩ : ∃ m, ManifestText.load ⟨"tvo.toml", leafText⟩ explainTwice = .ok m := ⟨_, rfl⟩
  have hrefused : ManifestText.load ⟨"tvo.toml", caseText⟩ explainTwice =
      .error ⟨"tvo.toml", some ⟨15, 4⟩, .reservedKeyword "case" .valueObject⟩ :=
    eq_error_of_refusal? (by decide +kernel)
  obtain ⟨hunreadable, -⟩ := reads_agree explainTwice shelf ⟨"raw.toml"⟩
  obtain ⟨-, haccepted, -⟩ := reads_agree explainTwice shelf ⟨"leaf.toml"⟩
  obtain ⟨-, hrejected, -, hworlds, -⟩ := reads_agree explainTwice shelf ⟨"./case.toml"⟩
  obtain ⟨-, hmalformed, -, -, -, hdocuments⟩ := reads_agree explainTwice shelf ⟨"./twice.toml"⟩
  have hnone : ManifestText.load ⟨"tvo.toml", twiceText⟩ explainTwice =
      .error ⟨"tvo.toml", some ⟨32, 5⟩, .malformed "duplicate key"⟩ := by
    have hparse : Toml.Document.parse? twiceText = none := by
      rw [← Option.isNone_iff_eq_none]
      decide +kernel
    have hexplained : explainTwice twiceText = ⟨some ⟨32, 5⟩, "duplicate key"⟩ := if_pos rfl
    have hload := (hdocuments ⟨"tvo.toml", twiceText⟩).1 hparse
    rwa [hexplained] at hload
  obtain ⟨hread, hreadManifest⟩ := (hmalformed _ htwice).2 _ hnone
  exact ⟨hunreadable _ hraw, ⟨m, (haccepted _ hleaf).1 m hm⟩, hrefused, ((hrejected _ hcase).2 _ hrefused).2, hnone,
    hread, hreadManifest, hworlds (StateM FileSystem)⟩

end ManifestFile

end ValueObjects
