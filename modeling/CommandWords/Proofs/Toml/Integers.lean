import Mathlib.Algebra.Group.Int.Defs
import Mathlib.Algebra.Group.Nat.Defs
import Mathlib.Data.Option.Basic
import CommandWords.Toml.Document

/-!
# `CommandWords.Proofs.Toml.Integers` — the integers of a document have 64 bits

An integer can be written to four bases, and stand in a table, an array, or a table of an array. Wherever it stands,
it has been read as one of 64 bits. This file proves that nothing larger gets into a document: each reader yields
values whose integers fit, and whatever is added to a table keeps them.

## Contents
- **Values.** `Toml.Fits`, and `Toml.Fields.Fits` for fields.
- **Adding.** `Fields.Fits.put`, and along the names of keys and headers `Fields.Fits.addAt?` and
  `Fields.Fits.changeAt?`; `Fields.Fits.addSections?` for a whole document.
- **Reading.** `fits_of_readScalar?`, and by induction on the levels of nesting `fits_of_readNested?`.
- **Documents.** `fits_of_read?`.
-/

namespace CommandWords

namespace Toml

/-! ## Values -/

/-- Every integer in a value has 64 bits. -/
inductive Fits : Toml → Prop where
  | text (t : Text) : Fits (.text t)
  | integer {n : Int} : -2 ^ 63 ≤ n → n < 2 ^ 63 → Fits (.integer n)
  | float : Fits .float
  | boolean (b : Bool) : Fits (.boolean b)
  | date : Fits .date
  | array {items : List Toml} : (∀ v ∈ items, Fits v) → Fits (.array items)
  | table {origin : Origin} {fields : List (Text × Toml)} : (∀ f ∈ fields, Fits f.2) → Fits (.table origin fields)
  | tables {items : List (List (Text × Toml))} :
    (∀ fields ∈ items, ∀ f ∈ fields, Fits f.2) → Fits (.tables items)

/-- Every integer in some fields has 64 bits. -/
def Fields.Fits (fields : Fields) : Prop := ∀ f ∈ fields, f.2.Fits

/-- Every integer in a value with a key has 64 bits. -/
def Entry.Fits (e : Entry) : Prop := e.value.Fits

/-- Every integer under a header has 64 bits. -/
def Section.Fits (s : Section) : Prop := ∀ e ∈ s.entries, e.Fits

theorem Fits.fields {origin : Origin} {fields : Fields} (h : Fits (.table origin fields)) : fields.Fits := by
  cases h with
  | table h => exact h

/-- An array of tables with one more table. -/
theorem Fits.append {items : List Fields} {inner : Fields} (h : ∀ fields ∈ items, fields.Fits) (hinner : inner.Fits) :
    Fits (.tables (items ++ [inner])) := by
  refine .tables fun fields hfields => ?_
  rcases List.mem_append.mp hfields with hmem | hmem
  · exact h fields hmem
  · obtain rfl := List.mem_singleton.mp hmem
    exact hinner

theorem Fits.items {items : List Fields} (h : Fits (.tables items)) : ∀ fields ∈ items, fields.Fits := by
  cases h with
  | tables h => exact h

theorem Fits.last {items : List Fields} {inner : Fields} (h : Fits (.tables items))
    (hlast : items.getLast? = some inner) : inner.Fits := h.items inner (List.mem_of_getLast? hlast)

theorem Fits.setLast {items : List Fields} {inner : Fields} (h : Fits (.tables items)) (hinner : inner.Fits) :
    Fits (.tables (items.dropLast ++ [inner])) :=
  .append (fun fields hmem => h.items fields (List.dropLast_subset items hmem)) hinner

/-! ## Adding -/

namespace Fields

variable {fields fields' : Fields} {key : Text} {path : List Text} {v : Toml}

theorem fits_nil : Fields.Fits [] := fun _ hf => absurd hf List.not_mem_nil

theorem Fits.get? (h : fields.Fits) (hv : fields.get? key = some v) : v.Fits := by
  induction fields with
  | nil => cases hv
  | cons f fields ih =>
    obtain ⟨hf, hfields⟩ := List.forall_mem_cons.mp h
    unfold Fields.get? at hv
    rw [List.lookup_cons] at hv
    split at hv
    · obtain rfl := Option.some.inj hv
      exact hf
    · exact ih hfields hv

theorem Fits.put (h : fields.Fits) (key : Text) (hv : v.Fits) : (fields.put key v).Fits := by
  induction fields with
  | nil => exact List.forall_mem_singleton.mpr hv
  | cons f fields ih =>
    obtain ⟨k, w⟩ := f
    obtain ⟨hf, hfields⟩ := List.forall_mem_cons.mp h
    unfold Fields.put
    split
    · exact List.forall_mem_cons.mpr ⟨hv, hfields⟩
    · exact List.forall_mem_cons.mpr ⟨hf, ih hfields⟩

/-- A field with a value that may not have been found. -/
theorem Fits.put_of_map {α : Type} {value : α → Toml} {o : Option α} (h : fields.Fits)
    (hput : o.map (fun x => fields.put key (value x)) = some fields') (hvalue : ∀ x, o = some x → (value x).Fits) :
    fields'.Fits := by
  obtain ⟨x, hx, rfl⟩ := Option.map_eq_some_iff.mp hput
  exact h.put key (hvalue x hx)

/-- **A field below a dotted key** brings no larger integer than its own. -/
theorem Fits.addAt? (h : fields.Fits) (hv : v.Fits) (hadd : fields.addAt? path key v = some fields') :
    fields'.Fits := by
  induction path generalizing fields fields' with
  | nil =>
    unfold Fields.addAt? at hadd
    split at hadd
    · cases hadd
    · obtain rfl := Option.some.inj hadd
      exact h.put key hv
  | cons p path ih =>
    unfold Fields.addAt? at hadd
    split at hadd
    case h_1 =>
      exact h.put_of_map hadd fun _ hinner => .table (ih fits_nil hinner)
    case h_2 inner hp =>
      exact h.put_of_map hadd fun _ hinner => .table (ih (h.get? hp).fields hinner)
    case h_3 inner hp =>
      split at hadd
      · cases hadd
      · exact h.put_of_map hadd fun _ hinner => .table (ih (h.get? hp).fields hinner)
    case h_4 items hp =>
      split at hadd
      · cases hadd
      · split at hadd
        · cases hadd
        · rename_i inner hlast
          exact h.put_of_map hadd fun _ hinner => (h.get? hp).setLast (ih ((h.get? hp).last hlast) hinner)
    case h_5 => cases hadd

/-- **A change below the names of a header** brings no larger integer than the change itself. -/
theorem Fits.changeAt? {change : Fields → Option Fields}
    (hchange : ∀ inner inner', Fields.Fits inner → change inner = some inner' → Fields.Fits inner')
    (h : fields.Fits) (hresult : Fields.changeAt? change fields path = some fields') : fields'.Fits := by
  induction path generalizing fields fields' with
  | nil => exact hchange fields fields' h hresult
  | cons p path ih =>
    unfold Fields.changeAt? at hresult
    split at hresult
    case h_1 =>
      exact h.put_of_map hresult fun _ hinner => .table (ih fits_nil hinner)
    case h_2 => cases hresult
    case h_3 inner hp =>
      exact h.put_of_map hresult fun _ hinner => .table (ih (h.get? hp).fields hinner)
    case h_4 items hp =>
      split at hresult
      · cases hresult
      · rename_i inner hlast
        exact h.put_of_map hresult fun _ hinner => (h.get? hp).setLast (ih ((h.get? hp).last hlast) hinner)
    case h_5 => cases hresult

theorem Fits.addEntries? {es : List Entry} (h : fields.Fits) (hes : ∀ e ∈ es, e.Fits)
    (hadd : fields.addEntries? es = some fields') : fields'.Fits := by
  induction es generalizing fields with
  | nil =>
    obtain rfl := Option.some.inj hadd
    exact h
  | cons e es ih =>
    obtain ⟨he, hes⟩ := List.forall_mem_cons.mp hes
    obtain ⟨inner, hinner, hadd⟩ := Option.bind_eq_some_iff.mp hadd
    exact ih (h.addAt? he hinner) hes hadd

theorem Fits.addSection? {s : Section} (h : fields.Fits) (hs : s.Fits) (hadd : fields.addSection? s = some fields') :
    fields'.Fits := by
  unfold Fields.addSection? at hadd
  split at hadd
  case h_1 => exact h.addEntries? hs hadd
  case h_2 key _ =>
    refine h.changeAt? (fun around around' haround hput => ?_) hadd
    split at hput
    case h_1 =>
      exact haround.put_of_map hput fun _ hinner => .table (fits_nil.addEntries? hs hinner)
    case h_2 inner hkey =>
      exact haround.put_of_map hput fun _ hinner => .table ((haround.get? hkey).fields.addEntries? hs hinner)
    case h_3 => cases hput
  case h_3 key _ =>
    refine h.changeAt? (fun around around' haround hput => ?_) hadd
    split at hput
    case h_1 =>
      refine haround.put_of_map hput fun _ hinner => ?_
      exact Toml.Fits.append (List.forall_mem_nil _) (fits_nil.addEntries? hs hinner)
    case h_2 items hkey =>
      exact haround.put_of_map hput fun _ hinner => .append (haround.get? hkey).items (fits_nil.addEntries? hs hinner)
    case h_3 => cases hput

/-- **Sections** bring no larger integers than their own. -/
theorem Fits.addSections? {ss : List Section} (h : fields.Fits) (hss : ∀ s ∈ ss, s.Fits)
    (hadd : fields.addSections? ss = some fields') : fields'.Fits := by
  induction ss generalizing fields with
  | nil =>
    obtain rfl := Option.some.inj hadd
    exact h
  | cons s ss ih =>
    obtain ⟨hs, hss⟩ := List.forall_mem_cons.mp hss
    obtain ⟨inner, hinner, hadd⟩ := Option.bind_eq_some_iff.mp hadd
    exact ih (h.addSection? hs hinner) hss hadd

end Fields

/-! ## Reading -/

section Reading

variable {t rest : Text} {v : Toml}

theorem fits_of_integer? {negative : Bool} {n : Nat} (h : integer? negative n = some v) : v.Fits := by
  have hpow : Nat.pow 2 63 = 2 ^ 63 := rfl
  unfold integer? at h
  split at h
  · split at h
    · obtain rfl := Option.some.inj h
      exact .integer (by omega) (by omega)
    · cases h
  · split at h
    · obtain rfl := Option.some.inj h
      exact .integer (by omega) (by omega)
    · cases h

theorem fits_of_readInteger? (h : readInteger? t = some (v, rest)) : v.Fits := by
  unfold readInteger? at h
  dsimp only at h
  split at h
  all_goals
    simp only [Option.bind_eq_bind, Option.bind_eq_some_iff, Option.pure_def, Option.some.injEq,
      Prod.mk.injEq] at h
    obtain ⟨_, _, w, hw, rfl, _⟩ := h
    exact fits_of_integer? hw

theorem eq_float_of_readFloat? (h : readFloat? t = some (v, rest)) : v = .float := by
  unfold readFloat? at h
  dsimp only at h
  split at h
  · exact (Prod.mk.inj (Option.some.inj h)).1.symm
  · obtain ⟨whole, -, h⟩ := Option.bind_eq_some_iff.mp h
    -- Whichever parts the number has, nothing of them is kept.
    split at h
    · split at h
      all_goals
        simp only [Option.bind_eq_bind, Option.bind_some, Option.bind_eq_some_iff, Option.pure_def,
          Option.some.injEq, Prod.mk.injEq] at h
        obtain ⟨_, _, hv, _⟩ := h
        exact hv.symm
    · simp only [Option.bind_eq_bind, Option.bind_eq_some_iff, Option.pure_def, Option.some.injEq,
        Prod.mk.injEq] at h
      obtain ⟨_, _, _, _, hv, _⟩ := h
      exact hv.symm

theorem eq_date_of_readDate? (h : readDate? t = some (v, rest)) : v = .date := by
  unfold readDate? at h
  split at h
  · obtain ⟨_, _, heq⟩ := Option.map_eq_some_iff.mp h
    exact (Prod.mk.inj heq).1.symm
  · dsimp only at h
    split at h
    · exact (Prod.mk.inj (Option.some.inj h)).1.symm
    · exact (Prod.mk.inj (Option.some.inj h)).1.symm

/-- **A scalar** is read with 64 bits if it is an integer. -/
theorem fits_of_readScalar? (h : readScalar? t = some (v, rest)) : v.Fits := by
  unfold readScalar? at h
  split at h
  case h_1 => cases h
  case h_2 c u =>
    split at h
    · obtain ⟨_, _, heq⟩ := Option.map_eq_some_iff.mp h
      obtain ⟨rfl, -⟩ := Prod.mk.inj heq
      exact .text _
    · split at h
      · obtain ⟨_, _, heq⟩ := Option.map_eq_some_iff.mp h
        obtain ⟨rfl, -⟩ := Prod.mk.inj heq
        exact .boolean true
      · split at h
        · obtain ⟨_, _, heq⟩ := Option.map_eq_some_iff.mp h
          obtain ⟨rfl, -⟩ := Prod.mk.inj heq
          exact .boolean false
        · rcases Option.or_eq_some_iff.mp h with h | ⟨-, h⟩
          · rw [eq_date_of_readDate? h]
            exact .date
          · rcases Option.or_eq_some_iff.mp h with h | ⟨-, h⟩
            · rw [eq_float_of_readFloat? h]
              exact .float
            · exact fits_of_readInteger? h

/-- Whatever is read one by one fits. -/
def ReadsFitting (readOne? : Text → Option (Toml × Text)) : Prop :=
  ∀ t v rest, readOne? t = some (v, rest) → v.Fits

variable {readOne? : Text → Option (Toml × Text)}

/-- The items of an array fit. -/
theorem ReadsFitting.items {items : List Toml} (hone : ReadsFitting readOne?)
    (h : readItems? readOne? t = some (items, rest)) : ∀ v ∈ items, v.Fits := by
  fun_induction readItems? readOne? t generalizing items
  case case1 =>
    obtain ⟨rfl, -⟩ := Prod.mk.inj (Option.some.inj h)
    exact List.forall_mem_nil _
  case case3 _ _ _ _ _ _ hitem =>
    obtain ⟨rfl, -⟩ := Prod.mk.inj (Option.some.inj h)
    exact List.forall_mem_singleton.mpr (hone _ _ _ hitem)
  case case4 _ _ _ _ _ _ _ hitem ih =>
    obtain ⟨⟨later, _⟩, hlater, heq⟩ := Option.map_eq_some_iff.mp h
    obtain ⟨rfl, rfl⟩ := Prod.mk.inj heq
    exact List.forall_mem_cons.mpr ⟨hone _ _ _ hitem, ih hlater⟩
  all_goals cases h

theorem ReadsFitting.entry {e : Entry} (hone : ReadsFitting readOne?) (h : readEntry? readOne? t = some (e, rest)) :
    e.Fits := by
  simp only [ readEntry?, Option.bind_eq_bind, Option.bind_eq_some_iff, Option.pure_def, Option.some.injEq,
    Prod.mk.injEq] at h
  obtain ⟨_, _, _, _, ⟨v, _⟩, hv, rfl, _⟩ := h
  exact hone _ _ _ hv

/-- The entries of a table between braces fit. -/
theorem ReadsFitting.pairs {es : List Entry} (hone : ReadsFitting readOne?)
    (h : readPairs? readOne? t = some (es, rest)) : ∀ e ∈ es, e.Fits := by
  fun_induction readPairs? readOne? t generalizing es
  case case2 _ _ _ he _ _ =>
    obtain ⟨rfl, -⟩ := Prod.mk.inj (Option.some.inj h)
    exact List.forall_mem_singleton.mpr (hone.entry he)
  case case3 _ _ _ he _ _ _ ih =>
    obtain ⟨⟨later, _⟩, hlater, heq⟩ := Option.map_eq_some_iff.mp h
    obtain ⟨rfl, rfl⟩ := Prod.mk.inj heq
    exact List.forall_mem_cons.mpr ⟨hone.entry he, ih hlater⟩
  all_goals cases h

/-- **A value fits**, at every level of nesting. -/
theorem fits_of_readNested? (levels : Nat) : ReadsFitting (readNested? levels) := by
  induction levels with
  | zero => exact fun t v rest h => fits_of_readScalar? h
  | succ levels ih =>
    intro t v rest h
    unfold readNested? at h
    split at h
    case h_1 => exact fits_of_readScalar? h
    case h_2 n _ heq =>
      obtain rfl := Nat.succ.inj heq
      obtain ⟨⟨items, _⟩, hitems, heq⟩ := Option.map_eq_some_iff.mp h
      obtain ⟨rfl, -⟩ := Prod.mk.inj heq
      exact .array (ih.items hitems)
    case h_3 n _ heq =>
      obtain rfl := Nat.succ.inj heq
      split at h
      · obtain ⟨rfl, -⟩ := Prod.mk.inj (Option.some.inj h)
        exact .table Fields.fits_nil
      · obtain ⟨⟨es, _⟩, hes, h⟩ := Option.bind_eq_some_iff.mp h
        obtain ⟨fields, hfields, h⟩ := Option.bind_eq_some_iff.mp h
        obtain ⟨rfl, -⟩ := Prod.mk.inj (Option.some.inj h)
        exact .table (Fields.fits_nil.addEntries? (ih.pairs hes) hfields)
    case h_4 => exact fits_of_readScalar? h

theorem fits_of_readValue? : ReadsFitting readValue? := fits_of_readNested? _

end Reading

/-! ## Documents -/

/-- Every integer in a line has 64 bits. -/
def Line.Fits : Line → Prop
  | .blank | .header _ => True
  | .entry e => e.Fits

theorem fits_of_readLine? {t rest : Text} {line : Line} (h : readLine? t = some (line, rest)) : line.Fits := by
  have hblank : ∀ u : Text, ((endLine? u).map fun rest => (Line.blank, rest)) = some (line, rest) → line.Fits := by
    intro u hu
    obtain ⟨_, _, heq⟩ := Option.map_eq_some_iff.mp hu
    obtain ⟨rfl, -⟩ := Prod.mk.inj heq
    trivial
  unfold readLine? at h
  split at h
  case h_1 => exact hblank _ h
  case h_2 => exact hblank _ h
  case h_3 => exact hblank _ h
  case h_4 =>
    obtain ⟨⟨header, _⟩, _, h⟩ := Option.bind_eq_some_iff.mp h
    obtain ⟨_, _, h⟩ := Option.bind_eq_some_iff.mp h
    obtain ⟨rfl, -⟩ := Prod.mk.inj (Option.some.inj h)
    trivial
  case h_5 =>
    obtain ⟨⟨e, _⟩, he, h⟩ := Option.bind_eq_some_iff.mp h
    obtain ⟨_, _, h⟩ := Option.bind_eq_some_iff.mp h
    obtain ⟨rfl, -⟩ := Prod.mk.inj (Option.some.inj h)
    exact fits_of_readValue?.entry he

theorem fits_of_readLines {t : Text} {lines : List Line} (h : readLines t = some lines) : ∀ l ∈ lines, l.Fits := by
  fun_induction readLines t generalizing lines
  case case1 =>
    obtain rfl := Option.some.inj h
    exact List.forall_mem_nil _
  case case3 _ _ _ _ _ hline ih =>
    obtain ⟨later, hlater, rfl⟩ := Option.map_eq_some_iff.mp h
    exact List.forall_mem_cons.mpr ⟨fits_of_readLine? hline, ih hlater⟩
  all_goals cases h

/-- Sections hold the entries of the lines. -/
theorem fits_of_sectionsOf {lines : List Line} (h : ∀ l ∈ lines, l.Fits) :
    (∀ e ∈ (sectionsOf lines).1, e.Fits) ∧ ∀ s ∈ (sectionsOf lines).2, s.Fits := by
  fun_induction sectionsOf lines
  case case1 => exact ⟨List.forall_mem_nil _, List.forall_mem_nil _⟩
  case case2 lines ih => exact ih (List.forall_mem_cons.mp h).2
  case case3 e lines entries sections heq ih =>
    obtain ⟨he, hlines⟩ := List.forall_mem_cons.mp h
    rw [heq] at ih
    obtain ⟨hentries, hsections⟩ := ih hlines
    exact ⟨List.forall_mem_cons.mpr ⟨he, hentries⟩, hsections⟩
  case case4 header lines entries sections heq ih =>
    rw [heq] at ih
    obtain ⟨hentries, hsections⟩ := ih (List.forall_mem_cons.mp h).2
    exact ⟨List.forall_mem_nil _, List.forall_mem_cons.mpr ⟨hentries, hsections⟩⟩

/-- **The integers of a document have 64 bits.** -/
theorem fits_of_read? {t : Text} {fields : Fields} (h : read? t = some fields) : fields.Fits := by
  obtain ⟨lines, hlines, hsections⟩ := Option.bind_eq_some_iff.mp h
  obtain ⟨hentries, hheaded⟩ := fits_of_sectionsOf (fits_of_readLines hlines)
  refine Fields.fits_nil.addSections? ?_ hsections
  exact List.forall_mem_cons.mpr ⟨hentries, hheaded⟩

end Toml
end CommandWords
