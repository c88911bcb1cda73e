import ValueObjects.Proofs.Generate.DryRun
import ValueObjects.Proofs.Manifest.Written
import ValueObjects.Report.Check

/-!
# Reading back what was written

A text that declares value objects one after another, and the generator in front of them, behind them or among them, is
read as exactly these declarations. Neither the order of the lines below a header nor the place of the generator makes
a difference, and everything that is made of the manifest keeps the order of the declarations.
-/

namespace ValueObjects

open Toml (Section Line IsTable Entries IsBareName IsVerbatim)

/-! ## Characters -/

/-- A text of printable characters that can stand between double quotes as it is. -/
def IsPrintable (s : String) : Prop := ∀ c ∈ s.toList, ' ' ≤ c ∧ c ≤ '~' ∧ c ≠ '"' ∧ c ≠ '\\'

theorem isPlain_of_le {c : Char} (hfirst : ' ' ≤ c) (hlast : c ≤ '~') : Toml.Quotation.isPlain c := by
  have hfirst : 0x20 ≤ c.toNat := hfirst
  have hlast : c.toNat ≤ 0x7E := hlast
  simp only [Toml.Quotation.isPlain, Bool.or_eq_true, Bool.and_eq_true, decide_eq_true_eq, bne_iff_ne]
  exact .inr ⟨hfirst, by omega⟩

theorem le_of_isAlphanum {c : Char} (h : c.isAlphanum) : ' ' ≤ c ∧ c ≤ '~' := by
  delta Char.isAlphanum Char.isAlpha Char.isUpper Char.isLower Char.isDigit at h
  simp only [Bool.or_eq_true, Bool.and_eq_true, decide_eq_true_eq] at h
  have hbetween : ∀ {a b : Char}, ' ' ≤ a → b ≤ '~' → a ≤ c ∧ c ≤ b → ' ' ≤ c ∧ c ≤ '~' :=
    fun ha hb hc => ⟨Char.le_trans ha hc.1, Char.le_trans hc.2 hb⟩
  rcases h with (h | h) | h
  · exact hbetween (by decide : ' ' ≤ 'A') (by decide : 'Z' ≤ '~') h
  · exact hbetween (by decide : ' ' ≤ 'a') (by decide : 'z' ≤ '~') h
  · exact hbetween (by decide : ' ' ≤ '0') (by decide : '9' ≤ '~') h

theorem le_of_isHarmless {c : Char} (h : isHarmless c) : ' ' ≤ c ∧ c ≤ '~' := by
  simp only [isHarmless, Bool.or_eq_true] at h
  rcases h with h | h
  · exact le_of_isAlphanum h
  · have hall : "_.:<>, []?".toList.all fun c => ' ' ≤ c ∧ c ≤ '~' := by decide
    exact of_decide_eq_true (List.all_eq_true.mp hall c (List.contains_iff_mem.mp h))

theorem IsPrintable.isVerbatim {s : String} (h : IsPrintable s) : IsVerbatim s.toList := by
  intro c hc
  obtain ⟨hfirst, hlast, hquote, hescape⟩ := h c hc
  exact ⟨isPlain_of_le hfirst hlast, hquote, hescape⟩

theorem Harmless.isPrintable {s : String} (h : Harmless s) : IsPrintable s := by
  intro c hc
  obtain ⟨hfirst, hlast⟩ := le_of_isHarmless (h c hc)
  refine ⟨hfirst, hlast, ?_, ?_⟩ <;>
  · rintro rfl
    exact h.notMem (by decide) hc

/-- Identifiers are keys as they are. -/
theorem IsIdentifier.isBareName {name : String} (h : IsIdentifier name) : IsBareName name where
  nonempty := by
    obtain ⟨⟨c, cs, hname, -⟩, -⟩ := h
    simp [hname]
  bare := by
    apply List.all_eq_true.mpr
    intro c hc
    have hpart := h.isNamePart hc
    simp only [ValueObjects.isNamePart, Bool.or_eq_true] at hpart
    simp only [Bool.or_eq_true]
    exact .inl hpart

/-! ## Lines -/

theorem ValueObjectLine.isBareName_key (l : ValueObjectLine) : IsBareName l.setting.1 := by
  cases l <;>
  · dsimp only [setting]
    exact ⟨by decide, by decide⟩

theorem GeneratorLine.isBareName_key (l : GeneratorLine) : IsBareName l.setting.1 := by
  cases l <;>
  · dsimp only [setting]
    exact ⟨by decide, by decide⟩

namespace ValueObjectDeclaration

/-- Everything that is written about a value object that fits its name can be written as it is. -/
theorem WrittenAs.isPlain {d : ValueObjectDeclaration} {s : Section} (h : d.WrittenAs s) (hfits : d.settings.Fits d.name) :
    ∀ l ∈ s.lines, l.IsPlain := by
  obtain ⟨lines, hperm, rfl⟩ := h
  have hinner : IsVerbatim d.inner.toList := (harmless_of_typeFlaw? hfits.inner).isPrintable.isVerbatim
  simp only [Section.lines, toSection, List.map_map, List.forall_mem_cons, List.forall_mem_map]
  constructor
  · have hgroup : IsBareName "value_objects" := ⟨by decide, by decide⟩
    exact ⟨by simpa using hgroup, hfits.isIdentifier.isBareName, by decide⟩
  · intro l hl
    refine ⟨l.isBareName_key, ?_⟩
    have hmem := hperm.subset hl
    cases l with
    | inner type =>
      obtain rfl : type = d.inner := by simpa [ValueObjectDeclaration.lines] using hmem
      exact hinner
    | nullable | defaultValue | defaultEqualityComparer | guid => exact trivial

end ValueObjectDeclaration

namespace GeneratorDeclaration

theorem WrittenAs.isPlain {d : GeneratorDeclaration} {written : Option Section} (h : d.WrittenAs written)
    (hnamespace : ∀ name, d.namespaceName = some name → IsPrintable name)
    (houtput : ∀ path, d.output = some path → IsPrintable path) : ∀ s ∈ written, ∀ l ∈ s.lines, l.IsPlain := by
  rintro s rfl
  obtain ⟨lines, hperm, rfl⟩ := h
  simp only [Section.lines, toSection, List.map_map, List.forall_mem_cons, List.forall_mem_map]
  constructor
  · exact ⟨by simp, ⟨by decide, by decide⟩, by decide⟩
  · intro l hl
    refine ⟨l.isBareName_key, ?_⟩
    have hmem := hperm.subset hl
    cases l with
    | namespaceName name =>
      have hname : d.namespaceName = some name := by simpa [GeneratorDeclaration.lines] using hmem
      exact (hnamespace name hname).isVerbatim
    | output path =>
      have hpath : d.output = some path := by simpa [GeneratorDeclaration.lines] using hmem
      exact (houtput path hpath).isVerbatim

end GeneratorDeclaration

/-! ## Manifests -/

/-- The items of a report, in order. -/
def ReportLine.items (lines : List ReportLine) : List String :=
  lines.filterMap fun
    | .item text => some text
    | _ => none

/-- What is written in a whole manifest. -/
structure ManifestDeclaration where
  generator : GeneratorDeclaration
  valueObjects : List ValueObjectDeclaration
deriving DecidableEq, Repr

namespace ManifestDeclaration

/-- The manifest that is meant. -/
def manifest (d : ManifestDeclaration) : Manifest :=
  ⟨d.generator.settings, d.valueObjects.map fun o => (o.name, o.settings)⟩

/-- A text consists of one section for each value object, in order, and a section for the generator somewhere, with any
number of empty lines in between. -/
def WrittenAs (d : ManifestDeclaration) (text : String) : Prop :=
  ∃ (front back : List Section) (generator : Option Section) (rows : List (Option Line)),
    List.Forall₂ ValueObjectDeclaration.WrittenAs d.valueObjects (front ++ back)
      ∧ d.generator.WrittenAs generator
      ∧ rows.reduceOption = (front ++ generator.toList ++ back).flatMap Section.lines
      ∧ Toml.HasLines text rows

/-- What is meant is a manifest that passes all checks, and the output directory needs no escapes. -/
structure IsValid (d : ManifestDeclaration) : Prop where
  wellFormed : d.manifest.WellFormed
  output : ∀ path, d.generator.output = some path → IsPrintable path

variable {d : ManifestDeclaration}

/-- Tables of value objects are read one by one. -/
theorem declarations_eq_ok {declared : List ValueObjectDeclaration} {sections : List Section} {members : Entries}
    (hwritten : List.Forall₂ ValueObjectDeclaration.WrittenAs declared sections)
    (htables : List.Forall₂ IsTable members sections) (span : Span) (kind : Toml.TableKind) :
    Manifest.declarations ⟨span, .table kind members⟩ = .ok (declared.map fun o => (o.name, o.settings)) := by
  simp only [Manifest.declarations]
  induction hwritten generalizing members with
  | nil =>
    cases htables
    rfl
  | cons hfirst _ ih =>
    obtain ⟨e, members, htable, hrest, rfl⟩ := List.forall₂_cons_right_iff.mp htables
    simp only [List.mapM_cons, hfirst.ofValue_eq_ok htable, ih hrest, List.map_cons, ← hfirst.last, ← htable.1]
    rfl

/-- The table of the generator sets what is written about it, and without one the standard settings stay. -/
theorem foldlM_generator {g : GeneratorDeclaration} {written : Option Section} (h : g.WrittenAs written) {es : Entries}
    (hes : List.Forall₂ IsTable es written.toList) (valueObjects : List (String × ValueObjectSettings)) :
    es.foldlM Manifest.withEntry ⟨.standard, valueObjects⟩ = .ok ⟨g.settings, valueObjects⟩ := by
  cases written with
  | none =>
    cases hes
    rw [h.settings_eq_standard]
    rfl
  | some s =>
    obtain ⟨e, es, he, hnil, rfl⟩ := List.forall₂_cons_right_iff.mp hes
    cases hnil
    have hkey : e.1.value = "generator" := by
      obtain ⟨lines, -, rfl⟩ := h
      exact he.1
    simp [Manifest.withEntry, hkey, h.ofValue_eq_ok he, bind, Except.bind, pure, Except.pure]

/-- The table of the generator may stand in front of the one with all value objects or behind it, and each may be
missing if there is nothing to say. -/
theorem ofEntries_eq_ok {generator : Option Section} {sections : List Section} {root pre members post : Entries}
    (hgroup : Toml.Document.HasGroup "value_objects" pre members post root)
    (hgenerator : d.generator.WrittenAs generator) (htables : List.Forall₂ IsTable (pre ++ post) generator.toList)
    (hwritten : List.Forall₂ ValueObjectDeclaration.WrittenAs d.valueObjects sections)
    (hmembers : List.Forall₂ IsTable members sections) : Manifest.ofEntries root = .ok d.manifest := by
  have hgroupEntry : ∀ (m : Manifest) (key : Toml.Key) (span : Span), key.value = "value_objects" →
      m.withEntry (key, ⟨span, .table .implied members⟩) = .ok { m with valueObjects := d.manifest.valueObjects } := by
    intro m key span hkey
    simp [Manifest.withEntry, hkey, declarations_eq_ok hwritten hmembers, bind, Except.bind, pure, Except.pure, manifest]
  rw [Manifest.ofEntries]
  obtain ⟨-, ⟨rfl, rfl, rfl⟩ | ⟨key, span, hkey, rfl⟩⟩ := hgroup
  · -- there are no value objects
    obtain rfl : sections = [] := by simpa using hmembers
    have hnone : d.valueObjects = [] := by simpa using hwritten
    rw [List.append_nil] at htables
    rw [foldlM_generator hgenerator htables, manifest, hnone]
    rfl
  · obtain rfl | rfl : pre = [] ∨ post = [] := by
      have hlength : (pre ++ post).length ≤ 1 := by
        rw [htables.length_eq]
        cases generator <;> simp
      rw [List.length_append] at hlength
      simp only [← List.length_eq_zero_iff]
      omega
    · rw [List.nil_append, List.foldlM_cons, hgroupEntry _ key span hkey]
      exact foldlM_generator hgenerator htables _
    · rw [List.append_nil] at htables
      have hlast : [(key, ⟨span, .table .implied members⟩)].foldlM Manifest.withEntry ⟨d.generator.settings, []⟩ =
          .ok d.manifest := by
        rw [List.foldlM_cons, hgroupEntry _ key span hkey]
        rfl
      rw [List.foldlM_append, foldlM_generator hgenerator htables]
      exact hlast

/-! ## Texts -/

/-- Everything on the lines of a valid declaration can be read as it is. -/
theorem IsValid.isPlain (h : d.IsValid) {front back : List Section} {generator : Option Section}
    (hwritten : List.Forall₂ ValueObjectDeclaration.WrittenAs d.valueObjects (front ++ back))
    (hgenerator : d.generator.WrittenAs generator) :
    ∀ l ∈ (front ++ generator.toList ++ back).flatMap Section.lines, l.IsPlain := by
  have hsections : ∀ s ∈ front ++ back, ∀ l ∈ s.lines, l.IsPlain := by
    intro s hs
    obtain ⟨o, ho, hos⟩ := Toml.exists_mem_of_forall₂ hwritten hs
    exact hos.isPlain (h.wellFormed.valueObjects (o.name, o.settings) (List.mem_map_of_mem ho))
  have hnamespace : ∀ name, d.generator.namespaceName = some name → IsPrintable name := by
    intro name hname
    exact (harmless_of_segments (h.wellFormed.segments name hname)).isPrintable
  have hother := hgenerator.isPlain hnamespace h.output
  intro l hl
  obtain ⟨s, hs, hl⟩ := List.mem_flatMap.mp hl
  simp only [List.mem_append, Option.mem_toList] at hs hsections
  rcases hs with (hs | hs) | hs
  · exact hsections s (.inl hs) l hl
  · exact hother s hs l hl
  · exact hsections s (.inr hs) l hl

/-- A text is read as what is written in it. -/
theorem IsValid.decode_eq_ok (h : d.IsValid) {t : ManifestText} (ht : d.WrittenAs t.text) :
    t.decode = .ok d.manifest := by
  obtain ⟨front, back, generator, rows, hwritten, hgenerator, hrows, hlines⟩ := ht
  have hplain : ∀ row ∈ rows, ∀ l ∈ row, l.IsPlain := by
    rintro row hrow l rfl
    have hl : l ∈ rows.reduceOption := List.reduceOption_mem_iff.mpr hrow
    exact h.isPlain hwritten hgenerator l (hrows ▸ hl)
  obtain ⟨statements, hsaid, hparse⟩ := Toml.exists_statements_of_hasLines hlines hplain
  rw [hrows] at hsaid
  have hsections : ∀ s ∈ front ++ back, s.front = ["value_objects"] ∧ (s.settings.map (·.1)).Nodup := by
    intro s hs
    obtain ⟨o, -, hos⟩ := Toml.exists_mem_of_forall₂ hwritten hs
    have hkeys := hos.nodup_keys
    obtain ⟨lines, -, rfl⟩ := hos
    exact ⟨rfl, hkeys⟩
  have hother : ∀ s ∈ generator, s.front = [] ∧ s.last ≠ "value_objects" ∧ (s.settings.map (·.1)).Nodup := by
    rintro s rfl
    have hkeys := hgenerator.nodup_keys
    obtain ⟨lines, -, rfl⟩ := hgenerator
    exact ⟨rfl, by simp [GeneratorDeclaration.toSection], hkeys⟩
  have hnames : ((front ++ back).map (·.last)).Nodup := by
    rw [← Toml.map_eq_map_of_forall₂ (fun _ _ hos => hos.last.symm) hwritten]
    simpa [manifest, Function.comp_def] using h.wellFormed.names
  obtain ⟨root, pre, members, post, hroot, hgroup, hmembers, htables⟩ :=
    Toml.Document.exists_root_of_sections hsections hother hnames hsaid
  have hentries := ofEntries_eq_ok hgroup hgenerator htables hwritten hmembers
  simp [ManifestText.decode, hparse, hroot, hentries]

/-! ## Reading back -/

/-- A manifest says what was written, and everything that is made of it has the value objects in the order in which
they were written. -/
structure Keeps (d : ManifestDeclaration) (m : Manifest) : Prop where
  namespaceName : m.generator.namespaceName = d.generator.namespaceName
  output : m.generator.output = ⟨d.generator.output.getD "Generated"⟩
  /-- Flags that are left out stay open or are off. -/
  valueObjects : m.valueObjects = d.valueObjects.map fun o =>
    (o.name, ⟨o.inner, o.nullable, o.defaultValue.getD false, o.defaultEqualityComparer.getD false, o.guid⟩)
  descriptors : m.descriptors = d.valueObjects.map fun o => o.settings.descriptor o.name
  sourceFiles : m.sourceFiles = d.valueObjects.map fun o => ⟨o.settings.descriptor o.name, d.generator.namespaceName⟩
  checked : ∀ config output, (m.check config output).valueObjects =
    d.valueObjects.map fun o => ⟨o.name, o.inner, o.settings.capabilities⟩
  listed : ∀ config output, ReportLine.items (m.check config output).lines =
    d.valueObjects.map fun o => ValueObjectSummary.text ⟨o.name, o.inner, o.settings.capabilities⟩
  /-- A dry run shows one file for each value object. -/
  previewed : ∀ base fs, ∃ r files, (m.generate base true : StateM FileSystem _).run fs = (.ok r, fs)
    ∧ r.result = .preview files ∧ files = d.valueObjects.map fun o =>
      ⟨o.name ++ ".g.cs", SourceFile.render ⟨o.settings.descriptor o.name, d.generator.namespaceName⟩⟩

theorem checked_manifest (d : ManifestDeclaration) (config output : Path) :
    (d.manifest.check config output).valueObjects =
      d.valueObjects.map fun o => ⟨o.name, o.inner, o.settings.capabilities⟩ := by
  simp [Manifest.check, manifest, ValueObjectDeclaration.settings]

theorem keeps_manifest (d : ManifestDeclaration) : d.Keeps d.manifest where
  namespaceName := rfl
  output := by
    obtain ⟨⟨_, output⟩, _⟩ := d
    cases output <;> rfl
  valueObjects := rfl
  descriptors := by simp [Manifest.descriptors, manifest, Function.comp_def]
  sourceFiles := by simp [Manifest.sourceFiles, Manifest.descriptors, manifest, GeneratorDeclaration.settings]
  checked := d.checked_manifest
  listed config output := by
    have hitems : ReportLine.items (d.manifest.check config output).lines =
        (d.manifest.check config output).valueObjects.map (·.text) := by
      cases hname : (d.manifest.check config output).namespaceName <;>
        simp [ReportLine.items, CheckReport.lines, ReportLine.namespaceLines, hname]
    rw [hitems, d.checked_manifest, List.map_map]
    rfl
  previewed base fs := by
    refine ⟨_, _, Manifest.run_generate_dryRun _ _ _, rfl, ?_⟩
    simp [Manifest.preview, Manifest.sourceFiles, Manifest.descriptors, manifest, GeneratorDeclaration.settings,
      SourceFile.fileName_eq, ValueObjectSettings.descriptor]

/-- What was written is read back, and all texts that it can be written as are read alike. -/
theorem load_of_writtenAs (hd : d.IsValid) {t : ManifestText} (ht : d.WrittenAs t.text) :
    ∃ m, t.load = .ok m ∧ d.Keeps m ∧ ∀ u : ManifestText, d.WrittenAs u.text → u.load = .ok m := by
  have hload : ∀ u : ManifestText, d.WrittenAs u.text → u.load = .ok d.manifest := by
    intro u hu
    have hdecode := hd.decode_eq_ok hu
    have hcheck := ManifestText.checkManifest_eq_ok (t := u).mpr ⟨hd.wellFormed.segments, hd.wellFormed.valueObjects⟩
    exact ManifestText.load_eq_ok.mpr ⟨hdecode, hcheck⟩
  exact ⟨d.manifest, hload t ht, d.keeps_manifest, hload⟩

/-- An identifier and a name, and a generator for them. -/
def shop : ManifestDeclaration :=
  ⟨⟨some "Shop", some ""⟩, [⟨"Id", "Guid", none, none, none, none⟩, ⟨"Name", "string", some true, some false, none, none⟩]⟩

/-- The declarations with the generator in front of them. -/
def shopInOrder : ManifestText :=
  ⟨"tvo.toml", "[generator]\nnamespace = \"Shop\"\noutput = \"\"\n[value_objects.Id]\ninner = \"Guid\"\n"
    ++ "[value_objects.Name]\ninner = \"string\"\nnullable = true\ndefault_value = false\n"⟩

/-- The same with the generator in between, other lines first, and some empty lines. -/
def shopReordered : ManifestText :=
  ⟨"tvo.toml", "\n[value_objects.Id]\ninner = \"Guid\"\n\n[generator]\noutput = \"\"\nnamespace = \"Shop\"\n"
    ++ "[value_objects.Name]\ndefault_value = false\nnullable = true\ninner = \"string\""⟩

theorem isValid_shop : shop.IsValid where
  wellFormed := by
    have hcheck : shopInOrder.checkManifest shop.manifest = .ok () := eq_ok_of_toOption (by decide +kernel)
    obtain ⟨hsegments, hvalueObjects⟩ := ManifestText.checkManifest_eq_ok.mp hcheck
    exact ⟨by decide, hsegments, hvalueObjects⟩
  output := by
    rintro _ ⟨rfl⟩ c hc
    cases hc

theorem writtenAs_shopInOrder : shop.WrittenAs shopInOrder.text := by
  let ids := shop.valueObjects[0].toSection [.inner "Guid"]
  let names := shop.valueObjects[1].toSection [.inner "string", .nullable true, .defaultValue false]
  let generator := GeneratorDeclaration.toSection [.namespaceName "Shop", .output ""]
  let rows : List (Option Line) := (generator.lines ++ ids.lines ++ names.lines).map some ++ [none]
  refine ⟨[], [ids, names], some generator, rows, ?_, ?_, by decide, by decide +kernel⟩
  · exact .cons ⟨_, by decide, rfl⟩ (.cons ⟨_, by decide, rfl⟩ .nil)
  · exact ⟨_, by decide, rfl⟩

theorem writtenAs_shopReordered : shop.WrittenAs shopReordered.text := by
  let ids := shop.valueObjects[0].toSection [.inner "Guid"]
  let names := shop.valueObjects[1].toSection [.defaultValue false, .nullable true, .inner "string"]
  let generator := GeneratorDeclaration.toSection [.output "", .namespaceName "Shop"]
  let rows : List (Option Line) :=
    none :: ids.lines.map some ++ none :: generator.lines.map some ++ names.lines.map some
  refine ⟨[ids], [names], some generator, rows, ?_, ?_, by decide, by decide +kernel⟩
  · exact .cons ⟨_, by decide, rfl⟩ (.cons ⟨_, by decide, rfl⟩ .nil)
  · exact ⟨_, by decide, rfl⟩

theorem load_shop_of_writtenAs : shop.IsValid ∧ shop.WrittenAs shopInOrder.text ∧ shop.WrittenAs shopReordered.text
    ∧ ∃ m, shopInOrder.load = .ok m ∧ shop.Keeps m ∧ shopReordered.load = .ok m := by
  obtain ⟨m, hload, hkeeps, hother⟩ := load_of_writtenAs isValid_shop writtenAs_shopInOrder
  exact ⟨isValid_shop, writtenAs_shopInOrder, writtenAs_shopReordered, m, hload, hkeeps,
    hother shopReordered writtenAs_shopReordered⟩

end ManifestDeclaration

end ValueObjects
