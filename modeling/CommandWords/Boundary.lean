import CommandWords.Failure
import CommandWords.Regex.Program
import CommandWords.Regex.Syntax

/-!
# `CommandWords.Boundary` — where words and regions end

A boundary says which text separates words or closes a region. While a word is read, several texts may stop
it at once: the separator, the closer of the region, the closer of the context and every opener that the
context knows. A `Stop` joins them in the order of their precedence.

A boundary that is written as a regular expression takes part by its text: the pattern that is read is the
text of all parts with bars between them, so flags that one part sets outside all groups are in force in the
parts behind it. Where no part is written in this way, the parts are marks, which are looked for directly. They are
found where the pattern of all parts would find them, and refused where it would be.

Whatever is looked for is an expression whose automaton takes memory, and too large a one is refused. This goes
for marks as well as for written patterns: a text or a set may be long, and so may the openers of a context. An
expression is made ready each time that it is needed. To keep it for the next time makes no difference, since the
same pattern makes the same expression.

## Contents
- **Marks.** `Mark`, `Mark.length?` and `Mark.find?`, the first of several marks in a text; `Mark.expr`, the
  expression for a mark.
- **Finders.** `Finder` and `Finder.find?`; `Finder.find?_whole` says that nothing of the text is lost.
- **Boundaries.** `Boundary`, its pattern `Boundary.pattern?` and its mark `Boundary.mark?`.
- **Closing.** `Boundary.closing`, which looks for a closer at the start of a text.
- **Stops.** `Stop.outer`, `Stop.inContext` and `Stop.finder`, with what it says of marks and of written patterns.
-/

namespace CommandWords

/-! ## Marks -/

/-- Plain texts to look for. -/
inductive Mark where
  /-- A run of blanks, as long as it is. -/
  | blanks
  /-- Any one character of the set. -/
  | oneOf (set : Text)
  /-- The text itself. -/
  | exact (text : Text)
  /-- The end of the text. -/
  | textEnd
deriving DecidableEq, Repr

namespace Mark

/-- The expression for a mark. -/
def expr : Mark → Regex
  | .blanks => .repeated (.set Unicode.blanks) 1 none true
  | .oneOf set => .set (.ofList set)
  | .exact text => .ofText text
  | .textEnd => .anchor .textEnd

/-- The length of a mark at the start of a text. -/
def length? : Mark → Text → Option Nat
  | .blanks, t =>
    match (t.takeWhile Unicode.isBlank).length with
    | 0 => none
    | n => some n
  | .oneOf set, t =>
    match t with
    | [] => none
    | c :: _ => if set.contains c then some 1 else none
  | .exact text, t => if text.isPrefixOf t then some text.length else none
  | .textEnd, t => if t.isEmpty then some 0 else none

/-- The length of the first of several marks that is at the start of a text. -/
def firstLength? (ms : List Mark) (t : Text) : Option Nat := ms.findSome? (·.length? t)

/-- Where a text has a mark for the first time and how long it is, `start` characters being passed already. -/
def findFrom? (ms : List Mark) (start : Nat) : Text → Option (Nat × Nat)
  | [] => (firstLength? ms []).map fun n => (start, n)
  | c :: t =>
    match firstLength? ms (c :: t) with
    | some n => some (start, n)
    | none => findFrom? ms (start + 1) t

/-- A text cut around the first place that has a mark. Of several marks at that place the first one counts. -/
def find? (ms : List Mark) (t : Text) : Option Cut :=
  (findFrom? ms 0 t).map fun (start, length) => Cut.around t start length

theorem find?_whole {ms : List Mark} {t : Text} {c : Cut} (h : find? ms t = some c) : c.whole = t := by
  obtain ⟨⟨start, length⟩, -, rfl⟩ := Option.map_eq_some_iff.mp h
  exact Cut.whole_around t start length

end Mark

/-! ## Finders -/

/-- What to look for in a text. -/
inductive Finder where
  /-- The first of several marks anywhere. -/
  | marks (ms : List Mark)
  /-- A mark at the start. -/
  | atStart (m : Mark)
  /-- What an expression matches. -/
  | regex (r : Regex)
deriving DecidableEq, Repr

namespace Finder

/-- A text cut around what is found in it. -/
def find? : Finder → Text → Option Cut
  | .marks ms, t => Mark.find? ms t
  | .atStart m, t => (m.length? t).map (Cut.around t 0)
  | .regex r, t => r.find? t

/-- Whether there is something to find in the text. -/
def isIn (f : Finder) (t : Text) : Bool := (f.find? t).isSome

theorem find?_whole {f : Finder} {t : Text} {c : Cut} (h : f.find? t = some c) : c.whole = t := by
  cases f with
  | marks ms => exact Mark.find?_whole h
  | atStart m =>
    obtain ⟨length, -, rfl⟩ := Option.map_eq_some_iff.mp h
    exact Cut.whole_around t 0 length
  | regex r => exact Regex.find?_whole h

end Finder

/-! ## Boundaries -/

/-- Texts that end a word or a region. -/
inductive Boundary where
  /-- No text. -/
  | never
  /-- A run of blanks. -/
  | blanks
  /-- Any one character of the set. -/
  | oneOf (set : Text)
  /-- The text itself. -/
  | exact (text : Text)
  /-- What a written pattern matches. -/
  | pattern (source : Text)
deriving DecidableEq, Repr, Inhabited

namespace Boundary

/-- Any one character of the set; with an empty set, no text. -/
def ofSet (set : Text) : Boundary := if set = [] then .never else .oneOf set

/-- The text itself; the empty text ends nothing. -/
def ofText (text : Text) : Boundary := if text = [] then .never else .exact text

/-- The boundary as a written pattern, none if it ends nothing. An empty set makes a pattern that is not
    well formed. -/
def pattern? : Boundary → Option Text
  | .never => none
  | .blanks => some ['\\', 's', '+']
  | .oneOf set => some ('[' :: Regex.escape set ++ [']'])
  | .exact text => some (Regex.escape text)
  | .pattern source => some ('(' :: '?' :: ':' :: source ++ [')'])

/-- Whether the boundary takes part as a mark, and not by the text of its pattern. -/
def isPlain : Boundary → Bool
  | .never | .blanks | .exact _ => true
  | .oneOf set => !set.isEmpty
  | .pattern _ => false

/-- The boundary as a mark, for a plain one that ends something. -/
def mark? : Boundary → Option Mark
  | .never => none
  | .blanks => some .blanks
  | .oneOf set => if set = [] then none else some (.oneOf set)
  | .exact text => some (.exact text)
  | .pattern _ => none

/-- What looks for the boundary at the start of a text, none if it ends nothing, or why its pattern is refused.
    A plain boundary is refused only if it is too large. A written pattern with unbalanced parentheses may look
    elsewhere, too. -/
def closing (b : Boundary) : Except Failure (Option Finder) :=
  if b.isPlain then
    match b.mark? with
    | none => .ok none
    | some m => (Regex.inOrder [.anchor .textStart, m.expr]).limited.map fun _ => some (.atStart m)
  else
    match b.pattern? with
    | none => .ok none
    | some source => (Regex.read ("^(?:".toList ++ source ++ [')'])).map fun r => some (.regex r)

/-- A plain closer is looked for as it is, unless it is refused. -/
theorem eq_of_closing {b : Boundary} (hplain : b.isPlain = true) {closing? : Option Finder}
    (h : b.closing = .ok closing?) : closing? = b.mark?.map .atStart := by
  unfold closing at h
  rw [if_pos hplain] at h
  cases hm : b.mark? with
  | none =>
    rw [hm] at h
    exact (Except.ok.inj h).symm
  | some m =>
    rw [hm] at h
    obtain ⟨_, -, rfl⟩ := map_eq_ok_iff.mp h
    rfl

/-- A plain closer is refused only because of its size. -/
theorem closing_eq_tooLarge {b : Boundary} (hplain : b.isPlain = true) {f : Failure} (h : b.closing = .error f) :
    f = .tooLarge := by
  unfold closing at h
  rw [if_pos hplain] at h
  cases hm : b.mark? with
  | none =>
    rw [hm] at h
    cases h
  | some m =>
    rw [hm] at h
    exact (Regex.limited_eq_error_iff.mp (map_eq_error_iff.mp h)).2

/-- A closer is refused for a fault of its pattern. -/
theorem closing_eq_error {b : Boundary} {f : Failure} (h : b.closing = .error f) :
    ∃ fault, f = @Failure.badPattern fault := by
  unfold closing at h
  split at h
  · split at h
    · cases h
    · exact ⟨_, (Regex.limited_eq_error_iff.mp (map_eq_error_iff.mp h)).2⟩
  · split at h
    · cases h
    · exact Regex.read_eq_error (map_eq_error_iff.mp h)

end Boundary

/-! ## Stops -/

/-- What may stop a word. -/
inductive Stop where
  /-- Marks, the first one preferred. -/
  | marks (ms : List Mark)
  /-- A written pattern. -/
  | written (source : Text)
deriving DecidableEq, Repr

namespace Stop

/-- A separator, then the closer of the region, then the end of the text. -/
def outer (separator closer : Boundary) : Stop :=
  if separator.isPlain && closer.isPlain then
    .marks (separator.mark?.toList ++ closer.mark?.toList ++ [.textEnd])
  else
    .written (Text.joinWith ['|']
      (separator.pattern?.toList ++ closer.pattern?.toList ++ [['\\', 'z']]))

/-- Whether one opener is tried before another: longer ones first, and ones of the same length by their
    characters. -/
def tryBefore (a b : Text) : Bool :=
  decide (b.byteSize < a.byteSize) || (a.byteSize == b.byteSize && decide (a < b))

/-- Puts an opener in front of the first one that it is tried before. -/
def insertOpener (a : Text) : List Text → List Text
  | [] => [a]
  | b :: bs => if tryBefore a b then a :: b :: bs else b :: insertOpener a bs

/-- The openers in the order in which they are tried. -/
def sortOpeners (openers : List Text) : List Text := openers.foldr insertOpener []

theorem perm_insertOpener (a : Text) (bs : List Text) : (insertOpener a bs).Perm (a :: bs) := by
  induction bs with
  | nil => exact List.Perm.refl _
  | cons b bs ih =>
    unfold insertOpener
    split
    · exact List.Perm.refl _
    · exact (ih.cons b).trans (List.Perm.swap a b bs)

/-- Sorting neither adds nor drops openers. -/
theorem perm_sortOpeners (openers : List Text) : (sortOpeners openers).Perm openers := by
  induction openers with
  | nil => exact List.Perm.refl _
  | cons a openers ih => exact (perm_insertOpener a _).trans (ih.cons a)

/-- A stop together with the literal texts of a context: its closer, unless that is empty, and its openers. -/
def inContext (stop : Stop) (closer : Text) (openers : List Text) : Stop :=
  let texts := (if closer = [] then [] else [closer]) ++ sortOpeners openers
  match stop with
  | .marks ms => .marks (ms ++ texts.map .exact)
  | .written source => .written (source ++ texts.flatMap fun t => '|' :: Regex.escape t)

/-- What looks for a stop, or why its pattern is refused. Marks are refused only if together they are too
    large. -/
def finder : Stop → Except Failure Finder
  | .marks ms => (Regex.altOf (ms.map (·.expr))).limited.map fun _ => .marks ms
  | .written source => (Regex.read source).map .regex

theorem finder_marks (ms : List Mark) :
    (marks ms).finder = if (Regex.altOf (ms.map (·.expr))).fits then .ok (.marks ms) else .error .tooLarge := by
  show (Regex.limited _).map _ = _
  unfold Regex.limited
  split <;> rfl

theorem finder_marks_eq_ok_iff {ms : List Mark} {f : Finder} :
    (marks ms).finder = .ok f ↔ (Regex.altOf (ms.map (·.expr))).fits = true ∧ f = .marks ms := by
  unfold finder
  simp only [map_eq_ok_iff, Regex.limited_eq_ok_iff]
  exact ⟨fun ⟨_, ⟨hfits, _⟩, hf⟩ => ⟨hfits, hf.symm⟩, fun ⟨hfits, hf⟩ => ⟨_, ⟨hfits, rfl⟩, hf.symm⟩⟩

theorem finder_written_eq_ok_iff {source : Text} {f : Finder} :
    (written source).finder = .ok f ↔ ∃ r, Regex.read source = .ok r ∧ f = .regex r := by
  unfold finder
  rw [map_eq_ok_iff]
  simp only [eq_comm]

/-- A stop is refused for a fault of its pattern. -/
theorem finder_eq_error {stop : Stop} {e : Failure} (h : stop.finder = .error e) :
    ∃ fault, e = @Failure.badPattern fault := by
  cases stop with
  | marks ms => exact ⟨_, (Regex.limited_eq_error_iff.mp (map_eq_error_iff.mp h)).2⟩
  | written source => exact Regex.read_eq_error (map_eq_error_iff.mp h)

end Stop
end CommandWords
