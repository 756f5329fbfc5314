import CommandWords.Proofs.Grammar.Table
import CommandWords.Proofs.Regex.Literals

/-!
# `CommandWords.Proofs.Openers` — openers that do not occur

A stop looks for the closer and for all openers of a context at once. This file proves that those which do not occur
in a source make no difference there: what is found is the same without them. So the texts of two contexts may be
compared up to them. For marks this is seen from the list in which they are tried. A written pattern has to be
complete up to the end of the text, so that the literal texts behind it are branches of their own.

## Contents
- **Order.** `Stop.filter_sortOpeners`: openers are sorted without regard to those left out.
- **Search.** `Mark.firstLength?_texts` and `Regex.matchLength?_texts` leave out what is not there at a place;
  `Mark.findFrom?_congr` and `Program.findFrom?_congr` go from place to place.
- **Stops.** `Stop.IsComplete`, and `Stop.find?_inContext`.
-/

namespace CommandWords

namespace Stop

variable {a b x : Text} {bs openers openers' : List Text}

/-! ## Order -/

theorem tryBefore_iff : tryBefore a b = true ↔ b.byteSize < a.byteSize ∨ a.byteSize = b.byteSize ∧ a < b := by
  simp [tryBefore]

/-- Openers are tried in an order of their own. -/
theorem ordersBy_tryBefore : OrdersBy (fun t : Text => t) tryBefore where
  same a b h := by
    obtain rfl : a = b := h
    rw [← Bool.not_eq_true, tryBefore_iff]
    simp
  trans a b c hab hbc := by
    rw [tryBefore_iff] at hab hbc ⊢
    rcases hab with hab | ⟨hab, hab'⟩
    · exact Or.inl (by omega)
    · rcases hbc with hbc | ⟨hbc, hbc'⟩
      · exact Or.inl (by omega)
      · exact Or.inr ⟨hab.trans hbc, lt_trans hab' hbc'⟩
  total a b hab hba := by
    rw [← Bool.not_eq_true, tryBefore_iff, not_or, not_and] at hab hba
    have hsize : a.byteSize = b.byteSize := by omega
    exact le_antisymm (not_lt.mp (hba.2 hsize.symm)) (not_lt.mp (hab.2 hsize))

/-- No opener in the list is to be tried before an earlier one. -/
def InOrder (bs : List Text) : Prop := bs.Pairwise fun a b => tryBefore b a = false

theorem InOrder.insertOpener (h : InOrder bs) (a : Text) : InOrder (insertOpener a bs) := by
  induction bs with
  | nil => exact List.pairwise_singleton _ _
  | cons b bs ih =>
    obtain ⟨hb, hbs⟩ := List.pairwise_cons.mp h
    unfold Stop.insertOpener
    by_cases hab : tryBefore a b = true
    · rw [if_pos hab]
      refine List.pairwise_cons.mpr ⟨fun x hx => ?_, h⟩
      rw [← Bool.not_eq_true]
      intro hxa
      have hxb : tryBefore x b = true := ordersBy_tryBefore.trans x a b hxa hab
      rcases List.mem_cons.mp hx with rfl | hx
      · exact ordersBy_tryBefore.key_ne hxb rfl
      · rw [hb x hx] at hxb
        cases hxb
    · rw [if_neg hab]
      refine List.pairwise_cons.mpr ⟨fun x hx => ?_, ih hbs⟩
      rcases List.mem_cons.mp ((perm_insertOpener a bs).mem_iff.mp hx) with rfl | hx
      · simpa using hab
      · exact hb x hx

theorem inOrder_sortOpeners (openers : List Text) : InOrder (sortOpeners openers) := by
  induction openers with
  | nil => exact List.Pairwise.nil
  | cons a openers ih => exact ih.insertOpener a

/-- **Openers are sorted without regard to those left out.** -/
theorem filter_sortOpeners (p : Text → Bool) (openers : List Text) :
    (sortOpeners openers).filter p = sortOpeners (openers.filter p) := by
  have hperm : ((sortOpeners openers).filter p).Perm (sortOpeners (openers.filter p)) :=
    ((perm_sortOpeners openers).filter p).trans (perm_sortOpeners _).symm
  apply List.Perm.eq_of_pairwise _ ((inOrder_sortOpeners openers).filter p) (inOrder_sortOpeners _) hperm
  intro a b _ _ hab hba
  exact ordersBy_tryBefore.total a b hba hab

end Stop

/-! ## Search -/

/-- What finds nothing may be left out of a search. -/
theorem findSome?_filter_of_none {β : Type} {f : Text → Option β} {p : Text → Bool}
    (hp : ∀ t, p t = false → f t = none) (ts : List Text) : (ts.filter p).findSome? f = ts.findSome? f := by
  induction ts with
  | nil => rfl
  | cons t ts ih =>
    cases ht : p t with
    | false =>
      rw [List.filter_cons_of_neg (by simp [ht]), List.findSome?_cons, hp t ht]
      exact ih
    | true => rw [List.filter_cons_of_pos ht, List.findSome?_cons, List.findSome?_cons, ih]

/-- Two lists that are the same up to what finds nothing come to the same. -/
theorem findSome?_congr_filter {β : Type} {f : Text → Option β} {p : Text → Bool} {ts ts' : List Text}
    (hp : ∀ t, p t = false → f t = none) (h : ts'.filter p = ts.filter p) : ts'.findSome? f = ts.findSome? f := by
  rw [← findSome?_filter_of_none hp ts', h, findSome?_filter_of_none hp ts]

section Texts

variable {p : Text → Bool} {ts ts' : List Text} {u : Text}

/-- Texts that are not there may be left out of the texts at the end of some marks. -/
theorem Mark.firstLength?_texts (ms : List Mark) (hp : ∀ t, p t = false → ¬t <+: u)
    (h : ts'.filter p = ts.filter p) :
    firstLength? (ms ++ ts'.map exact) u = firstLength? (ms ++ ts.map exact) u := by
  have hnone : ∀ t, p t = false → (exact t).length? u = none := fun t ht => if_neg (by simpa using hp t ht)
  unfold firstLength?
  rw [List.findSome?_append, List.findSome?_append, List.findSome?_map, List.findSome?_map]
  congr 1
  exact findSome?_congr_filter hnone h

/-- Texts that are not there may be left out of the texts at the end of a choice. -/
theorem Regex.matchLength?_texts (rs : List Regex) (last : Option Char) (hp : ∀ t, p t = false → ¬t <+: u)
    (h : ts'.filter p = ts.filter p) :
    (altOf (rs ++ ts'.map ofText)).program.matchLength? last u =
      (altOf (rs ++ ts.map ofText)).program.matchLength? last u := by
  have hnone : ∀ t, p t = false → (ofText t).program.matchLength? last u = none := by
    intro t ht
    rw [matchLength?_ofText]
    exact if_neg (hp t ht)
  rw [matchLength?_altOf, matchLength?_altOf, List.findSome?_append, List.findSome?_append, List.findSome?_map,
    List.findSome?_map]
  congr 1
  exact findSome?_congr_filter hnone h

end Texts

/-- Marks that are the same at all places are found at the same place. -/
theorem Mark.findFrom?_congr {ms ms' : List Mark} {t : Text}
    (h : ∀ u, u <:+ t → firstLength? ms' u = firstLength? ms u) (start : Nat) :
    findFrom? ms' start t = findFrom? ms start t := by
  induction t generalizing start with
  | nil =>
    unfold findFrom?
    rw [h [] (List.suffix_refl _)]
  | cons c t ih =>
    unfold findFrom?
    rw [h (c :: t) (List.suffix_refl _), ih fun u hu => h u (hu.trans (List.suffix_cons c t))]

/-- Programs that match the same at all places find the same. -/
theorem Program.findFrom?_congr {p p' : Program} {t : Text}
    (h : ∀ u last, u <:+ t → p'.matchLength? last u = p.matchLength? last u) (last : Option Char) (start : Nat) :
    p'.findFrom? last start t = p.findFrom? last start t := by
  induction t generalizing last start with
  | nil =>
    unfold findFrom?
    rw [h [] last (List.suffix_refl _)]
  | cons c t ih =>
    unfold findFrom?
    rw [h (c :: t) last (List.suffix_refl _), ih fun u last hu => h u last (hu.trans (List.suffix_cons c t))]

/-! ## Stops -/

namespace Stop

/-- The written pattern of the stop is complete up to the end of the text, which is its last branch. -/
def IsComplete : Stop → Prop
  | .marks _ => True
  | .written source => ∃ p, source = p ++ Regex.ending [] ∧ Regex.IsComplete p

/-- The texts that a context adds to a stop, in the order in which they are tried. -/
def texts (closer : Text) (openers : List Text) : List Text :=
  (if closer = [] then [] else [closer]) ++ sortOpeners openers

theorem filter_texts {x : Text} (h : openers'.filter (· ≠ x) = openers.filter (· ≠ x)) (closer : Text) :
    (texts closer openers').filter (· ≠ x) = (texts closer openers).filter (· ≠ x) := by
  unfold texts
  rw [List.filter_append, List.filter_append, filter_sortOpeners, filter_sortOpeners, h]

/-- **Texts that do not occur make no difference** to what a stop finds, if its written patterns are well formed with
    the texts of either context. -/
theorem find?_inContext {stop : Stop} (hstop : stop.IsComplete) {p : Text → Bool} {closer closer' : Text}
    (htexts : (texts closer' openers').filter p = (texts closer openers).filter p) {f f' : Finder}
    (hf : (stop.inContext closer openers).finder = .ok f)
    (hf' : (stop.inContext closer' openers').finder = .ok f') {source : Text}
    (hp : ∀ t, p t = false → ¬t <:+: source) : f'.find? source = f.find? source := by
  have habsent : ∀ u, u <:+ source → ∀ t, p t = false → ¬t <+: u := by
    intro u hu t ht htu
    exact hp t ht (htu.isInfix.trans hu.isInfix)
  cases stop with
  | marks ms =>
    obtain ⟨-, rfl⟩ := finder_marks_eq_ok_iff.mp hf
    obtain ⟨-, rfl⟩ := finder_marks_eq_ok_iff.mp hf'
    show (Mark.findFrom? _ 0 source).map _ = (Mark.findFrom? _ 0 source).map _
    rw [Mark.findFrom?_congr]
    intro u hu
    exact Mark.firstLength?_texts ms (habsent u hu) htexts
  | written text =>
    obtain ⟨pattern, rfl, hpattern⟩ := hstop
    obtain ⟨rs, hrs⟩ := Regex.exists_branches_of_isComplete hpattern
    obtain ⟨r, hr, rfl⟩ := finder_written_eq_ok_iff.mp hf
    obtain ⟨r', hr', rfl⟩ := finder_written_eq_ok_iff.mp hf'
    -- The ending of the pattern alone, with the texts behind it, is the ending with these texts.
    rw [List.append_assoc] at hr hr'
    obtain rfl := hrs _ r hr
    obtain rfl := hrs _ r' hr'
    show (Program.findFrom? _ none 0 source).map _ = (Program.findFrom? _ none 0 source).map _
    rw [Program.findFrom?_congr]
    intro u last hu
    have hlast : ∀ ts : List Text, rs ++ .anchor .textEnd :: ts.map Regex.ofText =
        (rs ++ [.anchor .textEnd]) ++ ts.map Regex.ofText := fun ts => List.append_cons rs _ _
    rw [hlast, hlast]
    exact Regex.matchLength?_texts (rs ++ [.anchor .textEnd]) last (habsent u hu) htexts

end Stop

end CommandWords
