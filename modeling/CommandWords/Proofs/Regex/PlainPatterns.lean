import CommandWords.Proofs.Regex.Marks

/-!
# `CommandWords.Proofs.Regex.PlainPatterns` — marks and their patterns

Every boundary can be written as a pattern, and a stop as the patterns of its parts with bars between them. Where all
parts are plain, the stop is a list of marks, and no pattern is read. This file proves that this makes no difference.
The pattern of a plain stop is well formed; what it writes is the choice between the marks, which is what is measured;
and it finds what the marks find. The same holds of a closer that is looked for at the start of a text.

## Contents
- **Marks.** `Mark.pattern` and `Mark.items`, with `Syntax.PatternReader.items?_mark`.
- **Patterns.** `Regex.parse?_marks` for the pattern of a stop, and `Regex.parse?_closing` for that of a closer.
- **Stops and closers.** `Stop.finder_outer` and `Boundary.closing_eq`, which hold of all boundaries.
-/

namespace CommandWords

/-! ## Marks -/

namespace Mark

/-- The pattern for a mark. -/
def pattern : Mark → Text
  | .blanks => ['\\', 's', '+']
  | .oneOf set => '[' :: Regex.escape set ++ [']']
  | .exact text => Regex.escape text
  | .textEnd => ['\\', 'z']

open Syntax in
/-- What is read for the pattern of a mark. -/
def items : Mark → List Item
  | .blanks => [{ expr := .repeated (.set Unicode.blanks) 1 none true, depth := 1 }]
  | .oneOf set => [{ expr := .set (.ofList set), depth := setDepth set }]
  | .exact text => text.map charItem
  | .textEnd => [{ expr := .anchor .textEnd }]

theorem inOrder_items (m : Mark) : Regex.inOrder (m.items.map (·.expr)) = m.expr := by
  cases m with
  | blanks | oneOf _ | textEnd => rfl
  | exact text =>
    rw [items, List.map_map, Regex.inOrder, List.flatMap_map]
    exact congrArg Regex.seqOf List.map_eq_flatMap.symm

theorem branches_expr (m : Mark) : m.expr.branches = [m.expr] := by
  cases m with
  | blanks | oneOf _ | textEnd => rfl
  | exact text => exact Regex.branches_ofText text

end Mark

namespace Syntax

/-- Each level of a pattern adds one to what is nested in it, or two if there are several parts. -/
theorem depthOf_le {n : Nat} {depths : List Nat} (h : ∀ d ∈ depths, d ≤ n) : depthOf depths ≤ n + 1 := by
  have hmax : ∀ (m : Nat) (depths : List Nat), m ≤ n → (∀ d ∈ depths, d ≤ n) → depths.foldl max m ≤ n := by
    intro m depths
    induction depths generalizing m with
    | nil => exact fun hm _ => hm
    | cons d depths ih =>
      intro hm h
      obtain ⟨hd, hdepths⟩ := List.forall_mem_cons.mp h
      exact ih (max m d) (Nat.max_le.mpr ⟨hm, hd⟩) hdepths
  have hle := hmax 0 depths (Nat.zero_le n) h
  unfold depthOf
  split <;> omega

theorem depth_items (m : Mark) : ∀ i ∈ m.items, i.depth ≤ 2 := by
  cases m with
  | blanks => simp [Mark.items]
  | oneOf set =>
    have hdepth : setDepth set ≤ 2 := Nat.succ_le_succ (depthOf_le fun d hd => by simp_all)
    simpa [Mark.items] using hdepth
  | exact text => simp [Mark.items, charItem]
  | textEnd => simp [Mark.items]

namespace PatternReader

variable {r : PatternReader} {rest : Text}

/-- The reader with more items in its branch. -/
def pushAll (r : PatternReader) (items : List Item) : PatternReader :=
  { r with current := { r.current with items := items.reverse ++ r.current.items } }

/-- **The pattern of a mark** is read as its items, unless the text behind it makes its repetition lazy. -/
theorem items?_mark (m : Mark) (hm : m ≠ .oneOf []) (h : r.flags = {}) (hrest : rest.head? ≠ some '?') :
    r.items? (m.pattern ++ rest) = (r.pushAll m.items).items? rest := by
  cases m with
  | blanks =>
    let behind : PatternReader := r.push { expr := .set Unicode.blanks }
    have hset : r.item? '\\' ('s' :: '+' :: rest) = some (behind, '+' :: rest) := by
      have hescape : readEscape? r.flags ('s' :: '+' :: rest) = some (.set Unicode.blanks, '+' :: rest) := by
        rw [h]
        rfl
      unfold item?
      simp only [hescape, Option.map_some]
      rfl
    have hlazy : readLazy rest = (false, rest) := by
      unfold readLazy
      split
      · simp at hrest
      · rfl
    have hplus : behind.item? '+' rest = some (r.pushAll Mark.blanks.items, rest) := by
      have hrepeat : behind.item? '+' rest = behind.repeated? 1 none rest := rfl
      have hgreedy : (false == behind.flags.swapGreed) = true := by
        show (false == r.flags.swapGreed) = true
        rw [h]
        rfl
      rw [hrepeat, repeated?, hlazy]
      show some _ = some _
      rw [hgreedy]
      rfl
    show r.items? ('\\' :: 's' :: '+' :: rest) = _
    rw [items?_of_cons (skipBlanks_of_flags h _), hset, Option.bind_some]
    refine (if_pos (Nat.le_succ _)).trans ?_
    rw [items?_of_cons (skipBlanks_of_flags (r := behind) h _), hplus, Option.bind_some]
    exact if_pos (Nat.le_refl _)
  | oneOf set =>
    have hset : set ≠ [] := fun hnil => hm (congrArg Mark.oneOf hnil)
    show r.items? (('[' :: Regex.escape set ++ [']']) ++ rest) = _
    rw [List.append_assoc, List.cons_append, items?_of_cons (skipBlanks_of_flags h _)]
    show ((readSet? r.flags (Regex.escape set ++ ']' :: rest)).map _).bind _ = _
    rw [h, readSet?_escape hset]
    show (if rest.length ≤ (Regex.escape set ++ ']' :: rest).length then _ else _) = _
    rw [if_pos (by simp only [List.length_append, List.length_cons]; omega)]
    rfl
  | exact text =>
    rw [Mark.pattern, items?_escape h, foldl_push]
    rfl
  | textEnd => exact items?_textEnd h rest

end PatternReader

/-! ## Patterns -/

/-- The group with its branch finished and a mark as the next one. -/
def OpenGroup.addMark (g : OpenGroup) (m : Mark) : OpenGroup := { g.nextBranch with items := m.items.reverse }

/-- The reader behind more marks, each of them with a bar in front. -/
theorem PatternReader.items?_marks {r : PatternReader} (h : r.flags = {}) {ms : List Mark} (hms : .oneOf [] ∉ ms) :
    r.items? (ms.flatMap fun m => '|' :: m.pattern) =
      some { r with current := ms.foldl OpenGroup.addMark r.current } := by
  induction ms generalizing r with
  | nil => exact items?_of_blank (skipBlanks_nil _)
  | cons m ms ih =>
    obtain ⟨hm, hms⟩ := not_or.mp (mt List.mem_cons.mpr hms)
    have hrest : (ms.flatMap fun m => '|' :: m.pattern).head? ≠ some '?' := by cases ms <;> simp
    have hpush : PatternReader.pushAll { r with current := r.current.nextBranch } m.items =
        { r with current := r.current.addMark m } := by
      simp [pushAll, OpenGroup.addMark, OpenGroup.nextBranch]
    rw [List.flatMap_cons, List.cons_append, items?_bar h,
      items?_mark (r := { r with current := r.current.nextBranch }) m (Ne.symm hm) h hrest, hpush]
    exact ih (r := { r with current := r.current.addMark m }) h hms

theorem OpenGroup.exprs_foldl_addMark (g : OpenGroup) (ms : List Mark) :
    (ms.foldl OpenGroup.addMark g).exprs = g.exprs ++ ms.map (·.expr) := by
  induction ms generalizing g with
  | nil => exact (List.append_nil _).symm
  | cons m ms ih =>
    rw [List.foldl_cons, ih, addMark, exprs_nextBranch, List.reverse_reverse, m.inOrder_items, List.append_assoc]
    rfl

theorem OpenGroup.depth_branch_le {g : OpenGroup} {m : Mark} (h : g.items = m.items.reverse) : g.branch.depth ≤ 3 := by
  refine depthOf_le fun d hd => ?_
  rw [h] at hd
  obtain ⟨i, hi, rfl⟩ := List.mem_map.mp hd
  exact depth_items m i (List.mem_reverse.mp hi)

theorem OpenGroup.depth_value_le {g : OpenGroup} {n : Nat} (h : ∀ i ∈ g.branch :: g.branches, i.depth ≤ n) :
    g.value.depth ≤ n + 1 := by
  refine depthOf_le fun d hd => ?_
  obtain ⟨i, hi, rfl⟩ := List.mem_map.mp hd
  exact h i (List.mem_reverse.mp hi)

/-- Marks do not nest deep. -/
theorem OpenGroup.depth_foldl_addMark {g : OpenGroup} (h : ∀ i ∈ g.branch :: g.branches, i.depth ≤ 3) (ms : List Mark) :
    (ms.foldl OpenGroup.addMark g).value.depth ≤ 4 := by
  induction ms generalizing g with
  | nil => exact depth_value_le h
  | cons m ms ih =>
    refine ih fun i hi => ?_
    rcases List.mem_cons.mp hi with rfl | hi
    · exact depth_branch_le rfl
    · exact h i hi

end Syntax

namespace Regex

open Syntax

/-- **The pattern of a plain stop** writes the choice between its marks. -/
theorem parse?_marks {m : Mark} {ms : List Mark} (hend : .textEnd ∈ m :: ms) (hset : .oneOf [] ∉ m :: ms) :
    parse? (m.pattern ++ ms.flatMap fun m => '|' :: m.pattern) = some (altOf ((m :: ms).map (·.expr))) := by
  obtain ⟨hm, hms⟩ := not_or.mp (mt List.mem_cons.mpr hset)
  let g : OpenGroup := { before := {}, items := m.items.reverse }
  have hread : ({} : PatternReader).items? (m.pattern ++ ms.flatMap fun m => '|' :: m.pattern) =
      some { current := ms.foldl OpenGroup.addMark g } := by
    have hrest : (ms.flatMap fun m => '|' :: m.pattern).head? ≠ some '?' := by cases ms <;> simp
    have hpush : ({} : PatternReader).pushAll m.items = { current := g } := by simp [PatternReader.pushAll, g]
    rw [PatternReader.items?_mark m (Ne.symm hm) rfl hrest, hpush]
    exact PatternReader.items?_marks rfl hms
  have hexprs : (ms.foldl OpenGroup.addMark g).exprs = (m :: ms).map (·.expr) := by
    rw [OpenGroup.exprs_foldl_addMark]
    show [inOrder (m.items.reverse.reverse.map (·.expr))] ++ _ = _
    rw [List.reverse_reverse, m.inOrder_items]
    rfl
  have hdepth : (ms.foldl OpenGroup.addMark g).value.depth ≤ 4 := by
    refine OpenGroup.depth_foldl_addMark (fun i hi => ?_) ms
    obtain rfl := List.mem_singleton.mp hi
    exact OpenGroup.depth_branch_le rfl
  have hbranches : ((m :: ms).map (·.expr)).flatMap branches = (m :: ms).map (·.expr) := by
    rw [List.flatMap_map, List.map_eq_flatMap]
    exact congrArg ((m :: ms).flatMap ·) (funext Mark.branches_expr)
  have hmem : .anchor .textEnd ∈ (m :: ms).map (·.expr) := List.mem_map_of_mem hend
  unfold parse?
  rw [hread]
  dsimp only
  rw [if_pos (Nat.le_trans hdepth (by decide)), OpenGroup.expr_value, hexprs, anyOf_of_anchor hmem, hbranches]

/-- What is read for the pattern of a plain closer: a condition, and a group with the mark. -/
theorem items?_closing {m : Mark} (hm : m ≠ .oneOf []) :
    ({} : PatternReader).items? ("^(?:".toList ++ m.pattern ++ [')']) =
      some { current :=
        { before := {}
          items := [OpenGroup.item { before := {}, items := m.items.reverse }, { expr := .anchor .textStart }] } } := by
  let start : PatternReader := { current := { before := {}, items := [{ expr := .anchor .textStart }] } }
  let inside : PatternReader := start.openGroup {} none
  have hpush : inside.pushAll m.items = { inside with current := { before := {}, items := m.items.reverse } } := by
    simp [PatternReader.pushAll, inside, start, PatternReader.openGroup]
  show ({} : PatternReader).items? ('^' :: '(' :: '?' :: ':' :: (m.pattern ++ [')'])) = _
  calc ({} : PatternReader).items? ('^' :: '(' :: '?' :: ':' :: (m.pattern ++ [')']))
      = start.items? ('(' :: '?' :: ':' :: (m.pattern ++ [')'])) := by
        rw [PatternReader.items?_of_cons (r := {}) rfl]
        exact if_pos (Nat.le_refl _)
    _ = inside.items? (m.pattern ++ [')']) := by
        rw [PatternReader.items?_of_cons (r := start) rfl]
        exact if_pos (Nat.le_add_right _ 2)
    _ = (inside.pushAll m.items).items? [')'] := PatternReader.items?_mark m hm rfl (by simp)
    _ = _ := by
        rw [hpush, PatternReader.items?_of_cons rfl]
        exact PatternReader.items?_of_blank rfl

/-- **The pattern of a plain closer** writes the mark behind a condition for the start of the text. -/
theorem parse?_closing {m : Mark} (hm : m ≠ .oneOf []) :
    parse? ("^(?:".toList ++ m.pattern ++ [')']) = some (inOrder [.anchor .textStart, m.expr]) := by
  have hsingle : ∀ r : Regex, r.branches = [r] → anyOf [r] = r := by
    intro r hr
    unfold anyOf
    rw [List.flatMap_singleton, hr]
    rfl
  let group : OpenGroup := { before := {}, items := m.items.reverse }
  let whole : OpenGroup := { before := {}, items := [group.item, { expr := .anchor .textStart }] }
  have hgroup : group.item.expr = m.expr := by
    have hexprs : group.exprs = [inOrder (m.items.reverse.reverse.map (·.expr))] := rfl
    rw [List.reverse_reverse, m.inOrder_items] at hexprs
    show group.value.expr = _
    rw [OpenGroup.expr_value, hexprs, hsingle _ m.branches_expr]
  have hwhole : whole.value.expr = inOrder [.anchor .textStart, m.expr] := by
    have hexprs : whole.exprs = [inOrder [.anchor .textStart, group.item.expr]] := rfl
    have hbranches : (inOrder [.anchor .textStart, m.expr]).branches = [inOrder [.anchor .textStart, m.expr]] := by
      rw [m.expr_closing]
      split <;> rfl
    rw [OpenGroup.expr_value, hexprs, hgroup, hsingle _ hbranches]
  have hinside : group.item.depth ≤ 5 := by
    refine Nat.succ_le_succ (OpenGroup.depth_value_le fun i hi => ?_)
    obtain rfl := List.mem_singleton.mp hi
    exact OpenGroup.depth_branch_le rfl
  have hdepth : whole.value.depth ≤ 7 := by
    refine OpenGroup.depth_value_le fun i hi => ?_
    obtain rfl := List.mem_singleton.mp hi
    refine depthOf_le fun d hd => ?_
    have hd' : d ∈ [group.item.depth, 0] := hd
    obtain rfl | rfl : d = group.item.depth ∨ d = 0 := by simpa using hd'
    · exact hinside
    · exact Nat.zero_le _
  unfold parse?
  rw [items?_closing hm]
  exact (if_pos (Nat.le_trans hdepth (by decide))).trans (congrArg some hwhole)

end Regex

/-! ## Stops and closers -/

namespace Boundary

variable {b : Boundary}

/-- A plain boundary is written as its mark. -/
theorem pattern?_eq (hplain : b.isPlain = true) : b.pattern? = b.mark?.map (·.pattern) := by
  cases b with
  | never | blanks | exact _ => rfl
  | oneOf set =>
    have hset : set ≠ [] := by simpa [isPlain] using hplain
    rw [mark?, if_neg hset]
    rfl
  | pattern source => cases hplain

theorem mark?_ne (b : Boundary) : b.mark? ≠ some (.oneOf []) := by
  cases b with
  | never | blanks | exact _ | pattern _ => simp [mark?]
  | oneOf set => by_cases hset : set = [] <;> simp [mark?, hset]

/-- The closer as a written pattern, whatever it is. -/
def closingPattern (b : Boundary) : Except Failure (Option Finder) :=
  match b.pattern? with
  | none => .ok none
  | some source => (Regex.read ("^(?:".toList ++ source ++ [')'])).map fun r => some (.regex r)

/-- **A closer is what its pattern is.** It is refused for the same fault, and finds the same. -/
theorem closing_eq (b : Boundary) :
    b.closing.map (·.map Finder.find?) = b.closingPattern.map (·.map Finder.find?) := by
  unfold closing
  split
  · rename_i hplain
    rw [closingPattern, pattern?_eq hplain]
    cases hm : b.mark? with
    | none => rfl
    | some m =>
      have hne : m ≠ .oneOf [] := fun h => b.mark?_ne (h ▸ hm)
      have hfind : (Regex.inOrder [.anchor .textStart, m.expr]).find? = Finder.find? (.atStart m) :=
        funext m.find?_closing
      show _ = ((Regex.read _).map _).map _
      rw [Regex.read, Regex.parse?_closing hne]
      dsimp only
      unfold Regex.limited
      split
      · exact congrArg (fun find => Except.ok (some find)) hfind.symm
      · rfl
  · rfl

end Boundary

namespace Stop

/-- A separator, then the closer of the region, then the end of the text, as a written pattern. -/
def outerPattern (separator closer : Boundary) : Stop :=
  .written (Text.joinWith ['|'] (separator.pattern?.toList ++ closer.pattern?.toList ++ [['\\', 'z']]))

/-- Patterns with bars between them have a bar in front of each but the first. -/
theorem joinWith_bar (p : Text) (ps : List Text) :
    Text.joinWith ['|'] (p :: ps) = p ++ ps.flatMap ('|' :: ·) := by
  induction ps generalizing p with
  | nil => simp [Text.joinWith]
  | cons q ps ih =>
    rw [Text.joinWith, ih, List.flatMap_cons]
    simp

/-- Marks with some texts behind them are what the joined patterns write. -/
theorem finder_marks_texts {ms : List Mark} (hend : .textEnd ∈ ms) (hset : .oneOf [] ∉ ms) (texts : List Text) :
    (marks (ms ++ texts.map .exact)).finder.map Finder.find? =
      (written (Text.joinWith ['|'] (ms.map Mark.pattern) ++ texts.flatMap fun t => '|' :: Regex.escape t)).finder.map
        Finder.find? := by
  obtain ⟨m, ms, rfl⟩ := List.exists_cons_of_ne_nil (List.ne_nil_of_mem hend)
  have hsource : Text.joinWith ['|'] ((m :: ms).map Mark.pattern) ++ texts.flatMap (fun t => '|' :: Regex.escape t) =
      m.pattern ++ (ms ++ texts.map Mark.exact).flatMap fun m => '|' :: m.pattern := by
    rw [List.map_cons, joinWith_bar, List.append_assoc, List.flatMap_append, List.flatMap_map, List.flatMap_map]
    rfl
  rw [hsource, List.cons_append]
  have hend' : .textEnd ∈ m :: (ms ++ texts.map Mark.exact) := by
    rw [← List.cons_append]
    exact List.mem_append_left _ hend
  have hset' : .oneOf [] ∉ m :: (ms ++ texts.map Mark.exact) := by
    rw [← List.cons_append, List.mem_append, not_or]
    exact ⟨hset, by simp⟩
  generalize ms ++ texts.map Mark.exact = ms at hend' hset' ⊢
  have hfind : (Regex.altOf ((m :: ms).map (·.expr))).find? = Finder.find? (.marks (m :: ms)) :=
    funext (Mark.find?_eq (m :: ms))
  show ((Regex.limited _).map _).map _ = ((Regex.read _).map _).map _
  rw [Regex.read, Regex.parse?_marks hend' hset']
  dsimp only
  unfold Regex.limited
  split
  · exact congrArg Except.ok hfind.symm
  · rfl

/-- **A stop is what its pattern is**, in every context. It is refused for the same fault, and finds the same. -/
theorem finder_outer (separator closer : Boundary) (text : Text) (openers : List Text) :
    ((outer separator closer).inContext text openers).finder.map Finder.find? =
      ((outerPattern separator closer).inContext text openers).finder.map Finder.find? := by
  unfold outer
  split
  · rename_i hplain
    obtain ⟨hseparator, hcloser⟩ := Bool.and_eq_true_iff.mp hplain
    have hpattern : outerPattern separator closer = written (Text.joinWith ['|']
        ((separator.mark?.toList ++ closer.mark?.toList ++ [Mark.textEnd]).map Mark.pattern)) := by
      unfold outerPattern
      rw [Boundary.pattern?_eq hseparator, Boundary.pattern?_eq hcloser, List.map_append, List.map_append,
        Option.toList_map, Option.toList_map]
      rfl
    have hset : .oneOf [] ∉ separator.mark?.toList ++ closer.mark?.toList ++ [.textEnd] := by
      simp [Boundary.mark?_ne]
    rw [hpattern]
    exact finder_marks_texts (by simp) hset _
  · rfl

end Stop

end CommandWords
