import Mathlib.Data.Option.Basic
import CommandWords.Settings.Document

/-!
# `CommandWords.Proofs.Settings.Merging` — two ways from a document to settings

A document can be read as settings, where whatever it leaves out has its default, or as overrides, which are put
into the settings that the program comes with. The defaults of the first way are part of the reader, those of the
second one stand in a document of their own. This file proves that both ways lead to the same settings wherever the
second one can be gone. The first one can be gone more often: a group that is listed in order has to be complete
only in overrides.

## Contents
- **Defaults.** `Settings.read?_defaultDocument`: the document that the program comes with holds the defaults of
  the reader, and `Settings.shipped_eq`.
- **Groups.** `Group.override?_eq_some_iff`: a setting of an override is one of the settings, and is not missing
  from a list.
- **Documents.** `Overrides.ofDocument?_eq_some_iff`, what a document of overrides holds,
  `Settings.ofDocument?_of_overrides`, and `Settings.read?_eq_load`.
-/

namespace CommandWords

/-! ## Defaults -/

/-- **The document that the program comes with holds the defaults** that settings have in every other document. -/
theorem Settings.read?_defaultDocument : Settings.read? Settings.defaultDocument = some .default := by
  decide +kernel

/-- The settings that the program comes with are the defaults. -/
theorem Settings.shipped_eq : Settings.shipped = .default := by
  rw [shipped, read?_defaultDocument, Option.getD_some]

/-! ## Groups -/

namespace Group

variable {α : Type} {kind : Toml → Option α} {g : Group} {name : Text} {place : Nat} {v : Option α}

/-- **A setting of an override** is the setting of that name or place, and it is not missing from a list. -/
theorem override?_eq_some_iff :
    g.override? kind name place = some v ↔
      g.value? kind name place = some v ∧ (v.isSome = true ∨ g.isNamed = true) := by
  simp only [override?, Option.bind_eq_bind, Option.bind_eq_some_iff, Option.guard_eq_some', Bool.or_eq_true,
    Option.pure_def, Option.some.injEq]
  constructor
  · rintro ⟨w, hw, _, hnamed, rfl⟩
    exact ⟨hw, hnamed⟩
  · rintro ⟨hv, hnamed⟩
    exact ⟨v, hv, (), hnamed, rfl⟩

end Group

/-! ## Documents -/

section Documents

variable {document : Toml.Fields} {o : Overrides}

/-- **What a document of overrides holds**: its groups have the settings of the overrides, and where a group is a
    list none is missing. -/
theorem Overrides.ofDocument?_eq_some_iff :
    Overrides.ofDocument? document = some o ↔
      ∃ features limits,
        Group.find? document featuresName = some features ∧ Group.find? document limitsName = some limits ∧
        features.override? Toml.boolean? substitutionsName 0 = some o.substitutions ∧
        features.override? Toml.boolean? backslashesName 1 = some o.backslashes ∧
        features.override? Toml.boolean? ansiStringsName 2 = some o.ansiStrings ∧
        limits.override? Toml.natural? maxDepthName 0 = some o.maxDepth := by
  obtain ⟨substitutions, backslashes, ansiStrings, maxDepth⟩ := o
  simp only [ofDocument?, Option.bind_eq_bind, Option.bind_eq_some_iff, Option.pure_def, Option.some.injEq,
    Overrides.mk.injEq]
  constructor
  · rintro ⟨features, hfeatures, _, hs, _, hb, _, ha, limits, hlimits, _, hm, rfl, rfl, rfl, rfl⟩
    exact ⟨features, limits, hfeatures, hlimits, hs, hb, ha, hm⟩
  · rintro ⟨features, limits, hfeatures, hlimits, hs, hb, ha, hm⟩
    exact ⟨features, hfeatures, _, hs, _, hb, _, ha, limits, hlimits, _, hm, rfl, rfl, rfl, rfl⟩

/-- **A document of overrides is one of settings**: of the defaults with the overrides in them. -/
theorem Settings.ofDocument?_of_overrides (h : Overrides.ofDocument? document = some o) :
    Settings.ofDocument? document = some (Settings.default.override o) := by
  obtain ⟨features, limits, hfeatures, hlimits, hs, hb, ha, hm⟩ := Overrides.ofDocument?_eq_some_iff.mp h
  obtain ⟨hs, -⟩ := Group.override?_eq_some_iff.mp hs
  obtain ⟨hb, -⟩ := Group.override?_eq_some_iff.mp hb
  obtain ⟨ha, -⟩ := Group.override?_eq_some_iff.mp ha
  obtain ⟨hm, -⟩ := Group.override?_eq_some_iff.mp hm
  simp only [ofDocument?, Option.bind_eq_bind, hfeatures, hlimits, hs, hb, ha, hm, Option.bind_some]
  rfl

end Documents

namespace Settings

/-- **The two ways agree.** A text that can be read as overrides can be read as settings, and these are the ones
    that are loaded with the text as overrides. -/
theorem read?_eq_load (t : Text) (h : (Overrides.read? t).isSome = true) :
    Settings.read? t = some (Settings.load (some t)) := by
  obtain ⟨o, ho⟩ := Option.isSome_iff_exists.mp h
  obtain ⟨document, hdocument, hoverrides⟩ := Option.bind_eq_some_iff.mp ho
  have hload : Settings.load (some t) = Settings.default.override o := by
    rw [load, Option.bind_some, ho, shipped_eq]
  rw [read?, hdocument, hload]
  exact ofDocument?_of_overrides hoverrides

/-- A list of features, a limit by a dotted key, and a group and a field of other names. -/
theorem read?_eq_load_list :
    let t : Text := "limits.max_depth = 0x10\nother = [1]\nfeatures = [true, false, true, 'x']\n".toList
    (Overrides.read? t).isSome = true ∧
      Settings.read? t = some (Settings.load (some t)) ∧
      Settings.load (some t) = { features := { backslashes := false }, maxDepth := 16 } := by
  intro t
  have h : (Overrides.read? t).isSome = true := by decide +kernel
  refine ⟨h, read?_eq_load t h, ?_⟩
  decide +kernel

/-- The ways differ in where they can be gone: a list of two features is no override. -/
example :
    let t : Text := "features = [false, false]\n".toList
    Overrides.read? t = none ∧ Settings.read? t = some { features := ⟨false, false, true⟩ } := by
  constructor
  · decide +kernel
  · decide +kernel

end Settings

end CommandWords
