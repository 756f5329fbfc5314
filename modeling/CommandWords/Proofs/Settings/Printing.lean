import CommandWords.CommandLine
import CommandWords.Proofs.Settings.Merging
import CommandWords.Proofs.Toml.Integers
import CommandWords.Proofs.Toml.Written

/-!
# `CommandWords.Proofs.Settings.Printing` — printed settings are read back

The program prints the settings that it works with as a document. Such a document can be kept as overrides: it names
every setting, so that none is left to a default. This file proves that printing and loading undo each other. Numbers
are the one thing that could be in the way, since not all of them can be written as integers of a document; but only
those that can have been loaded from one.

## Contents
- **Limits.** `Settings.maxDepth_load_lt`: a limit that was loaded has 64 bits, so that the settings can be printed.
- **Documents.** `Settings.fields`, the fields of a printed document, and `Settings.toml_read?_document`.
- **Reading back.** `Settings.overrides_read?_document`, `Settings.read?_document` and `Settings.load_document`.
- **Reports.** `CommandLine.report_printed_settings`.
-/

namespace CommandWords

/-! ## Limits -/

section Limits

variable {document : Toml.Fields} {g : Group} {name setting : Text} {o : Overrides} {t : Text} {n : Nat}

/-- The settings of a group are values of the document. -/
theorem Group.fits_of_get? {place : Nat} {v : Toml} (h : document.Fits) (hg : Group.find? document name = some g)
    (hv : g.get? setting place = some v) : v.Fits := by
  unfold find? at hg
  split at hg
  case h_1 =>
    obtain rfl := Option.some.inj hg
    cases hv
  case h_2 value hvalue =>
    have hfits : value.Fits := h.get? hvalue
    cases hfits with
    | text | integer | float | boolean => cases hg
    | date =>
      obtain rfl := Option.some.inj hg
      cases hv
    | array hitems =>
      obtain rfl := Option.some.inj hg
      exact hitems v (List.mem_of_getElem? hv)
    | table hfields =>
      obtain rfl := Option.some.inj hg
      exact Toml.Fields.Fits.get? hfields hv
    | tables hitems =>
      obtain rfl := Option.some.inj hg
      obtain ⟨fields, hfields, rfl⟩ := List.mem_map.mp (List.mem_of_getElem? hv)
      exact .table (hitems fields hfields)

/-- **A limit in overrides has 64 bits.** -/
theorem Overrides.maxDepth_lt (h : Overrides.read? t = some o) (hn : o.maxDepth = some n) : n < 2 ^ 63 := by
  obtain ⟨document, hdocument, hoverrides⟩ := Option.bind_eq_some_iff.mp h
  obtain ⟨_, limits, _, hlimits, _, _, _, hlimit⟩ := Overrides.ofDocument?_eq_some_iff.mp hoverrides
  obtain ⟨hvalue, -⟩ := Group.override?_eq_some_iff.mp hlimit
  rw [hn] at hvalue
  unfold Group.value? at hvalue
  split at hvalue
  case h_1 => cases hvalue
  case h_2 v hv =>
    obtain ⟨m, hm, heq⟩ := Option.map_eq_some_iff.mp hvalue
    obtain rfl := Option.some.inj heq
    have hfits : v.Fits := Group.fits_of_get? (Toml.fits_of_read? hdocument) hlimits hv
    cases hfits with
    | integer _ hlt =>
      unfold Toml.natural? at hm
      dsimp only at hm
      split at hm
      · obtain rfl := Option.some.inj hm
        omega
      · cases hm
    | text | float | boolean | date | array | table | tables => cases hm

/-- **A limit that was loaded has 64 bits.** -/
theorem Settings.maxDepth_load_lt (overrides : Option Text) : (Settings.load overrides).maxDepth < 2 ^ 63 := by
  unfold load
  rw [shipped_eq]
  split
  case h_1 o ho =>
    obtain ⟨t, -, hread⟩ := Option.bind_eq_some_iff.mp ho
    show o.maxDepth.getD 64 < 2 ^ 63
    cases hlimit : o.maxDepth with
    | none => decide
    | some n => exact Overrides.maxDepth_lt hread hlimit
  case h_2 => decide

end Limits

/-! ## Documents -/

namespace Settings

variable {s : Settings}

/-- The fields of the document with all settings. -/
def fields (s : Settings) : Toml.Fields :=
  [(featuresName,
      .table .header
        [(substitutionsName, .boolean s.features.substitutions), (backslashesName, .boolean s.features.backslashes),
          (ansiStringsName, .boolean s.features.ansiStrings)]),
    (limitsName, .table .header [(maxDepthName, .integer s.maxDepth)])]

/-- The lines of the document with all settings. -/
def lines (s : Settings) : List (Text × Toml.Line) :=
  [(headerLine featuresName, .header (.table [] featuresName)),
    (settingLine substitutionsName (booleanText s.features.substitutions),
      .entry { path := [], key := substitutionsName, value := .boolean s.features.substitutions }),
    (settingLine backslashesName (booleanText s.features.backslashes),
      .entry { path := [], key := backslashesName, value := .boolean s.features.backslashes }),
    (settingLine ansiStringsName (booleanText s.features.ansiStrings),
      .entry { path := [], key := ansiStringsName, value := .boolean s.features.ansiStrings }),
    (['\n'], .blank),
    (headerLine limitsName, .header (.table [] limitsName)),
    (settingLine maxDepthName (decimal s.maxDepth),
      .entry { path := [], key := maxDepthName, value := .integer s.maxDepth })]

theorem document_eq : s.document = s.lines.flatMap (·.1) := by
  simp [document, lines]

theorem isLine_of_mem_lines (h : s.maxDepth < 2 ^ 63) : ∀ p ∈ s.lines, Toml.IsLine p.1 p.2 := by
  -- All names are bare keys.
  have hbare {name : Text} (hall : name.all Toml.isBareKey = true) : ∀ c ∈ name, Toml.isBareKey c = true :=
    List.all_eq_true.mp hall
  simp only [lines, List.forall_mem_cons]
  refine ⟨?_, ?_, ?_, ?_, Toml.isLine_empty, ?_, ?_, List.forall_mem_nil _⟩
  · exact Toml.isLine_headerLine (by decide) (hbare (by decide))
  · exact Toml.isLine_settingLine (by decide) (hbare (by decide)) (Toml.isWritten_booleanText _)
  · exact Toml.isLine_settingLine (by decide) (hbare (by decide)) (Toml.isWritten_booleanText _)
  · exact Toml.isLine_settingLine (by decide) (hbare (by decide)) (Toml.isWritten_booleanText _)
  · exact Toml.isLine_headerLine (by decide) (hbare (by decide))
  · exact Toml.isLine_settingLine (by decide) (hbare (by decide)) (Toml.isWritten_decimal h)

/-- The lines of the document define its fields. -/
theorem addSections?_lines :
    Toml.Fields.addSections? []
      ({ header := .document, entries := (Toml.sectionsOf (s.lines.map (·.2))).1 } ::
        (Toml.sectionsOf (s.lines.map (·.2))).2) = some s.fields := by
  rfl

theorem toml_read?_document (h : s.maxDepth < 2 ^ 63) : Toml.read? s.document = some s.fields := by
  have hlines : Toml.readLines (Toml.dropMark s.document) = some (s.lines.map (·.2)) := by
    show Toml.readLines s.document = _
    rw [document_eq]
    exact Toml.readLines_of_isLine (isLine_of_mem_lines h)
  rw [Toml.read?, hlines]
  exact addSections?_lines

/-! ## Reading back -/

/-- Overrides that name every setting. -/
def toOverrides (s : Settings) : Overrides :=
  { substitutions := some s.features.substitutions
    backslashes := some s.features.backslashes
    ansiStrings := some s.features.ansiStrings
    maxDepth := some s.maxDepth }

/-- Nothing is left of the settings that are overridden. -/
theorem override_toOverrides (s s' : Settings) : s'.override s.toOverrides = s := rfl

theorem overrides_ofDocument?_fields : Overrides.ofDocument? s.fields = some s.toOverrides := by
  have hlimit : Toml.natural? (.integer s.maxDepth) = some s.maxDepth := by
    rw [Toml.natural?, if_pos (Int.natCast_nonneg s.maxDepth), Int.toNat_natCast]
  have hvalue : Group.value? Toml.natural? (.named [(maxDepthName, .integer s.maxDepth)]) maxDepthName 0 =
      some (some s.maxDepth) := by
    show (Toml.natural? (.integer s.maxDepth)).map some = _
    rw [hlimit]
    rfl
  rw [Overrides.ofDocument?_eq_some_iff]
  refine ⟨_, _, rfl, rfl, rfl, rfl, rfl, ?_⟩
  exact Group.override?_eq_some_iff.mpr ⟨hvalue, Or.inl rfl⟩

/-- **A printed document can be read as overrides**, and names every setting. -/
theorem overrides_read?_document (h : s.maxDepth < 2 ^ 63) : Overrides.read? s.document = some s.toOverrides := by
  rw [Overrides.read?, toml_read?_document h]
  exact overrides_ofDocument?_fields

/-- **A printed document can be read as settings**, the ones that were printed. -/
theorem read?_document (h : s.maxDepth < 2 ^ 63) : Settings.read? s.document = some s := by
  rw [Settings.read?, toml_read?_document h]
  exact ofDocument?_of_overrides overrides_ofDocument?_fields

/-- **A printed document can be kept as overrides**: the settings that were printed are loaded. -/
theorem load_document (h : s.maxDepth < 2 ^ 63) : Settings.load (some s.document) = s := by
  rw [load, Option.bind_some, overrides_read?_document h]
  exact override_toOverrides s .shipped

end Settings

/-! ## Reports -/

namespace CommandLine

/-- There is no message about overrides that can be read. -/
theorem overridesMessages_of_isSome {t : Text} (h : (Overrides.read? t).isSome = true) :
    overridesMessages (some t) = [] := by
  obtain ⟨o, ho⟩ := Option.isSome_iff_exists.mp h
  rw [overridesMessages, Option.map_some, ho]
  rfl

/-- **Printed settings are a fixed point.** Whatever text the overrides have, if any, the settings that are loaded
    can be printed. What is printed is a document of the same settings and a document of overrides; where it takes the
    place of the overrides, the same settings are loaded, and the same document is printed, without a message. -/
theorem report_printed_settings (args : List Text) (hknown : ∀ a ∈ args, a ∈ flags) (hsettings : settingsFlag ∈ args)
    (overrides input : Option Text) :
    ∃ t, (Settings.load overrides).document? = some t ∧
      report args overrides input = { output := t, messages := overridesMessages overrides } ∧
      Settings.read? t = some (Settings.load overrides) ∧ (Overrides.read? t).isSome = true ∧
      Settings.load (some t) = Settings.load overrides ∧
      ∀ input', report args (some t) input' = { output := t } := by
  have hlimit : (Settings.load overrides).maxDepth < 2 ^ 63 := Settings.maxDepth_load_lt overrides
  let t := (Settings.load overrides).document
  have hprinted : (Settings.load overrides).document? = some t := if_pos hlimit
  have hoverrides : (Overrides.read? t).isSome = true := by
    rw [Settings.overrides_read?_document hlimit]
    rfl
  have hload : Settings.load (some t) = Settings.load overrides := Settings.load_document hlimit
  refine ⟨t, hprinted, report_of_settingsFlag hknown hsettings hprinted input, Settings.read?_document hlimit,
    hoverrides, hload, fun input' => ?_⟩
  have hagain : (Settings.load (some t)).document? = some t := by rw [hload, hprinted]
  rw [report_of_settingsFlag hknown hsettings hagain input', overridesMessages_of_isSome hoverrides]

/-- The largest limit by its place in a list, and a feature by a dotted key. -/
theorem report_printed_settings_largest :
    let overrides : Text := "features.interpolation = false\nlimits = [0x7fff_ffff_ffff_ffff]\n".toList
    let args := [verboseFlag, settingsFlag]
    let s : Settings := { features := { substitutions := false }, maxDepth := 2 ^ 63 - 1 }
    (∀ a ∈ args, a ∈ flags) ∧ settingsFlag ∈ args ∧ Settings.load (some overrides) = s ∧
      ∃ t, report args (some overrides) none = { output := t } ∧ Settings.load (some t) = s ∧
        report args (some t) none = { output := t } := by
  intro overrides args s
  have hload : Settings.load (some overrides) = s := by decide +kernel
  have hknown : ∀ a ∈ args, a ∈ flags := by decide
  have hsettings : settingsFlag ∈ args := by decide
  obtain ⟨t, -, hreport, -, -, hagain, hfixed⟩ := report_printed_settings args hknown hsettings (some overrides) none
  have hsilent : overridesMessages (some overrides) = [] := by decide +kernel
  rw [hsilent] at hreport
  exact ⟨hknown, hsettings, hload, t, hreport, hagain.trans hload, hfixed none⟩

end CommandLine
end CommandWords
