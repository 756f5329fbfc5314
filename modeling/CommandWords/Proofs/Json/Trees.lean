import CommandWords.Proofs.Json.Unambiguous
import CommandWords.Word.Json

/-!
# `CommandWords.Proofs.Json.Trees` — the text of a reading says all but two fields

The text of a reading shows its words and their substitutions, down to the innermost ones. It leaves out how a
reading joins a word and what problem it has, and texts that are empty. Nothing else is lost: two readings have
the same text just if they are the same but for how they join a word and for their problems.

## Contents
- **What is written.** `Reading.written` forgets the two fields on every level, and `Reading.toJson_written`
  says that the value does not depend on them.
- **Reading it back.** `Reading.toJson_eq_iff`, by recursion on the reading, and
  `Reading.text_eq_iff_written_eq`.
-/

namespace CommandWords

/-! ## What is written -/

mutual

/-- A reading without how it joins a word and without its problem, on every level. -/
def Reading.written : Reading → Reading
  | ⟨words, rest, closer, trailing, _, _⟩ => { words := writtenWords words, rest, closer, trailing }

/-- What is written of each word. -/
def writtenWords : List (Word Reading) → List (Word Reading)
  | [] => []
  | w :: ws => w.written :: writtenWords ws

/-- A word with what is written of its substitutions. -/
def Word.written : Word Reading → Word Reading
  | ⟨content, raw, quoted, ending, substitutions, leading⟩ =>
    { content, raw, quoted, ending, substitutions := writtenSubstitutions substitutions, leading }

/-- What is written of each substitution. -/
def writtenSubstitutions : List (Substitution Reading) → List (Substitution Reading)
  | [] => []
  | s :: ss => s.written :: writtenSubstitutions ss

/-- A substitution with what is written of the reading inside. -/
def Substitution.written : Substitution Reading → Substitution Reading
  | ⟨offset, opener, body⟩ => { offset, opener, body := body.written }

end

mutual

theorem Reading.jsonFields_written (r : Reading) : r.written.jsonFields = r.jsonFields := by
  match r with
  | ⟨words, rest, closer, trailing, _, _⟩ =>
    rw [Reading.written, Reading.jsonFields, Reading.jsonFields, wordsToJson_written words]

theorem wordsToJson_written (ws : List (Word Reading)) : wordsToJson (writtenWords ws) = wordsToJson ws := by
  match ws with
  | [] => rfl
  | w :: ws => rw [writtenWords, wordsToJson, wordsToJson, w.toJson_written, wordsToJson_written ws]

theorem Word.toJson_written (w : Word Reading) : w.written.toJson = w.toJson := by
  match w with
  | ⟨content, raw, quoted, ending, substitutions, leading⟩ =>
    rw [Word.written, Word.toJson, Word.toJson, substitutionsToJson_written substitutions]

theorem substitutionsToJson_written (ss : List (Substitution Reading)) :
    substitutionsToJson (writtenSubstitutions ss) = substitutionsToJson ss := by
  match ss with
  | [] => rfl
  | s :: ss =>
    rw [writtenSubstitutions, substitutionsToJson, substitutionsToJson, s.toJson_written,
      substitutionsToJson_written ss]

theorem Substitution.toJson_written (s : Substitution Reading) : s.written.toJson = s.toJson := by
  match s with
  | ⟨offset, opener, body⟩ =>
    rw [Substitution.written, Substitution.toJson, Substitution.toJson, body.jsonFields_written]

end

/-- How a reading joins a word and its problem are not written. -/
theorem Reading.toJson_written (r : Reading) : r.written.toJson = r.toJson :=
  congrArg Json.obj r.jsonFields_written

/-! ## Reading it back -/

/-- A field that may be left out still tells its text, since only the empty one is left out. -/
theorem fieldUnlessEmpty_inj {name t u : Text} (h : fieldUnlessEmpty name t = fieldUnlessEmpty name u) : t = u := by
  cases t with
  | nil =>
    cases u with
    | nil => rfl
    | cons d u => cases h
  | cons c t =>
    cases u with
    | nil => cases h
    | cons d u => exact Json.str.inj (Prod.mk.inj (List.cons.inj h).1).2

mutual

theorem Reading.written_eq_of_jsonFields (r r' : Reading) (h : r.jsonFields = r'.jsonFields) :
    r.written = r'.written := by
  match r, r' with
  | ⟨words, rest, closer, trailing, _, _⟩, ⟨words', rest', closer', trailing', _, _⟩ =>
    simp only [Reading.jsonFields, List.cons_append, List.nil_append, List.cons.injEq, Prod.mk.injEq,
      Json.arr.injEq, Json.str.injEq, true_and] at h
    obtain ⟨hwords, rfl, rfl, htrailing⟩ := h
    obtain rfl := fieldUnlessEmpty_inj htrailing
    rw [Reading.written, Reading.written, writtenWords_eq_of_toJson words words' hwords]

theorem writtenWords_eq_of_toJson (ws ws' : List (Word Reading)) (h : wordsToJson ws = wordsToJson ws') :
    writtenWords ws = writtenWords ws' := by
  match ws, ws' with
  | [], [] => rfl
  | [], _ :: _ | _ :: _, [] => cases h
  | w :: ws, w' :: ws' =>
    obtain ⟨hw, hws⟩ := List.cons.inj h
    rw [writtenWords, writtenWords, w.written_eq_of_toJson w' hw, writtenWords_eq_of_toJson ws ws' hws]

theorem Word.written_eq_of_toJson (w w' : Word Reading) (h : w.toJson = w'.toJson) : w.written = w'.written := by
  match w, w' with
  | ⟨content, raw, quoted, ending, substitutions, leading⟩,
    ⟨content', raw', quoted', ending', substitutions', leading'⟩ =>
    simp only [Word.toJson, List.cons_append, List.nil_append, Json.obj.injEq, List.cons.injEq, Prod.mk.injEq,
      Json.arr.injEq, Json.str.injEq, Json.bool.injEq, true_and] at h
    obtain ⟨rfl, rfl, rfl, rfl, hsubstitutions, hleading⟩ := h
    obtain rfl := fieldUnlessEmpty_inj hleading
    rw [Word.written, Word.written, writtenSubstitutions_eq_of_toJson substitutions substitutions' hsubstitutions]

theorem writtenSubstitutions_eq_of_toJson (ss ss' : List (Substitution Reading))
    (h : substitutionsToJson ss = substitutionsToJson ss') :
    writtenSubstitutions ss = writtenSubstitutions ss' := by
  match ss, ss' with
  | [], [] => rfl
  | [], _ :: _ | _ :: _, [] => cases h
  | s :: ss, s' :: ss' =>
    obtain ⟨hs, hss⟩ := List.cons.inj h
    rw [writtenSubstitutions, writtenSubstitutions, s.written_eq_of_toJson s' hs,
      writtenSubstitutions_eq_of_toJson ss ss' hss]

theorem Substitution.written_eq_of_toJson (s s' : Substitution Reading) (h : s.toJson = s'.toJson) :
    s.written = s'.written := by
  match s, s' with
  | ⟨offset, opener, body⟩, ⟨offset', opener', body'⟩ =>
    simp only [Substitution.toJson, List.cons_append, List.nil_append, Json.obj.injEq, List.cons.injEq,
      Prod.mk.injEq, Json.num.injEq, Json.str.injEq, true_and] at h
    obtain ⟨rfl, rfl, hbody⟩ := h
    rw [Substitution.written, Substitution.written, body.written_eq_of_jsonFields body' hbody]

end

/-- The value of a reading is what is written of it. -/
theorem Reading.toJson_eq_iff {r r' : Reading} : r.toJson = r'.toJson ↔ r.written = r'.written := by
  constructor
  · intro h
    exact r.written_eq_of_jsonFields r' (Json.obj.inj h)
  · intro h
    rw [← r.toJson_written, h, r'.toJson_written]

/-- **The text of a reading says all of it** but how readings join a word and what problems they have, in the
    layout with a line for each part and in the one without blanks. -/
theorem Reading.text_eq_iff_written_eq (r r' : Reading) :
    (r.toJson.pretty = r'.toJson.pretty ↔ r.written = r'.written) ∧
      (r.toJson.compact = r'.toJson.compact ↔ r.written = r'.written) := by
  rw [← Reading.toJson_eq_iff]
  constructor
  · exact ⟨Json.write_inj Json.Layout.blank_pretty, congrArg Json.pretty⟩
  · exact ⟨Json.write_inj Json.Layout.blank_compact, congrArg Json.compact⟩

end CommandWords
