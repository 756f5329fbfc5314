import CommandWords.Proofs.Blanks
import CommandWords.Proofs.Precedence
import CommandWords.Proofs.Splitting

/-!
# `CommandWords.Proofs.UpTo` — regions that go up to the closer of their context

The region of a rule without a reader goes up to the closer of its context, with blanks between words. The blanks are
looked for first, so a closer that begins with blanks may be swallowed by a run of them before it is seen. This file
settles when such a region ends at the first place that has its closer, and when it is refused.

## Contents
- **Regions.** `Lookout.UpTo`: what is looked out for in such a region, if no rule is known there.
- **Stops.** `Level.exists_stop`: the first stop in front of a closer is where blanks begin, or the closer itself.
- **Closers.** `Level.closes_iff_clearOfBlanks`, word by word, and for the whole region `Level.exists_readAll_of_upTo`
  and `Level.outcome_readAll_of_refused`.
-/

namespace CommandWords

/-! ## Regions -/

/-- Looks for a text at the start. -/
def Finder.text (t : Text) : Finder := .atStart (.exact t)

/-- The marks of a region that goes up to the closer of its context, with blanks between words, if no rule is known
    there. -/
def Lookout.marksUpTo (k : Lookout) (closer : Text) : List Mark := marksOf .blanks (.exact closer) k.context []

/-- What is looked out for in such a region. -/
structure Lookout.UpTo (k : Lookout) (closer : Text) : Prop where
  rules : k.rules = []
  stop : k.stop = .marks (k.marksUpTo closer)
  context : k.context.closer = closer
  ne_nil : closer ≠ []

namespace Level

variable {l : Level} {k : Lookout} {region : Region} {closing : Option Finder} {P : Note → Prop}
variable {closer rest source pending ending body front : Text} {c : Context}

theorem closesWith_text (closer t : Text) : closesWith (some (.text closer)) t = closer.isPrefixOf t := by
  show ((Mark.length? (.exact closer) t).map (Cut.around t 0)).isSome = _
  rw [Mark.length?]
  cases closer.isPrefixOf t <;> rfl

theorem closesWith_text_nil (hne : closer ≠ []) : closesWith (some (.text closer)) [] = false := by
  rw [closesWith_text, Bool.eq_false_iff]
  exact fun h => hne (List.prefix_nil.mp (List.isPrefixOf_iff_prefix.mp h))

/-- A closer at the start of the rest is taken from there. -/
theorem readWords_text (hending : closesWith (some (.text closer)) ending = false) :
    l.readWords region (some (.text closer)) pending ending (closer ++ rest) =
      pure { rest, closer, trailing := pending ++ closer } := by
  have hclosing : closesWith (some (.text closer)) (closer ++ rest) = true := by simp [closesWith_text]
  have hfind : (Finder.text closer).find? (closer ++ rest) = some ⟨[], closer, rest⟩ := by
    show (Mark.length? (.exact closer) (closer ++ rest)).map (Cut.around (closer ++ rest) 0) = _
    rw [Mark.length?_exact, if_pos (List.prefix_append closer rest)]
    simp [Cut.around]
  rw [readWords_of_end (by rw [hclosing, Bool.or_true, Bool.true_or]), endRegion,
    if_neg (Bool.eq_false_iff.mp hending), Option.bind_some, hfind]

/-- A region that was not closed by the word before is closed in front of its end. -/
theorem closer_suffix_of_closesWith {r : Reading}
    (h : (l.readWords region closing pending ending source).Yields P r)
    (hending : closesWith closing ending = false) (hr : closesWith closing r.closer = true) :
    r.closer ++ r.rest <:+ source := by
  rcases readWords_yields h with ⟨-, rfl⟩ | ⟨s, r', -, hs, -, hr', rfl⟩
  · unfold endRegion at hr ⊢
    rw [hending, if_neg Bool.false_ne_true] at hr ⊢
    split
    · rename_i cut hcut
      obtain ⟨f, -, hf⟩ := Option.bind_eq_some_iff.mp hcut
      have hwhole : cut.before ++ cut.matched ++ cut.after = source := Finder.find?_whole hf
      exact ⟨cut.before, by rw [← hwhole, List.append_assoc]⟩
    · rename_i hnone
      rw [hnone] at hr
      exact absurd (hr.symm.trans hending) (by decide)
  · exact (closer_suffix hr').trans (scanWord_end_suffix hs.1)

/-- What is found in front of the first place of the closer does not close the region. -/
theorem closesWith_text_of_first (hfirst : ∀ u v, body = u ++ v → v ≠ [] → ¬closer <+: v ++ (closer ++ rest))
    {u v x y : Text} (hbody : body = u ++ v) (hv : v ≠ []) (hx : v ++ (closer ++ rest) = x ++ y) :
    closesWith (some (.text closer)) x = false := by
  rw [closesWith_text, Bool.eq_false_iff]
  intro hprefix
  refine hfirst u v hbody hv ?_
  rw [hx]
  exact (List.isPrefixOf_iff_prefix.mp hprefix).trans (List.prefix_append x y)

/-- A place that was passed closes nothing any more. -/
theorem not_closes_of_length_lt (hending : closesWith closing ending = false)
    (hcloser : closesWith closing closer = true) (hlt : source.length < (closer ++ rest).length) :
    ¬(l.readWords region closing pending ending source).Closes closer rest := by
  rintro ⟨r, hr, rfl, rfl⟩
  have hsuffix := closer_suffix_of_closesWith (Run.yields_of_outcome hr) hending hcloser
  exact absurd hsuffix.length_le (Nat.not_le.mpr hlt)

/-- Without rules a region can be read, if every word consumes some text. -/
theorem exists_reading_of_rules_nil
    (hlookout : l.lookout (.outer region.separator region.closer) region.context = .ok k) (hk : k.rules = [])
    (hprogress : ∀ source, source ≠ [] → (k.cut source).after.length < source.length)
    (pending ending source : Text) : ∃ r, (l.readWords region closing pending ending source).outcome = .ok r := by
  induction hn : source.length using Nat.strongRecOn generalizing pending ending source with
  | _ n ih =>
    subst hn
    by_cases hend : (source.isEmpty || closesWith closing source || closesWith closing ending) = true
    · rw [readWords_of_end hend]
      exact ⟨_, rfl⟩
    · simp only [Bool.or_eq_true, not_or, Bool.not_eq_true, List.isEmpty_eq_false_iff] at hend
      obtain ⟨⟨hne, hclosing⟩, hending⟩ := hend
      have hlt := hprogress source hne
      obtain ⟨r, hr⟩ := ih _ hlt (pendingAfter pending (k.plainWord source)) (k.cut source).matched _ rfl
      rw [outcome_readWords_of_rules_nil hlookout hk hne hclosing hending hlt, hr]
      exact ⟨_, rfl⟩

/-- Without rules a region is closed as what is read behind the next stop. -/
theorem closes_of_rules_nil
    (hlookout : l.lookout (.outer region.separator region.closer) region.context = .ok k) (hk : k.rules = [])
    (hne : source ≠ []) (hclosing : closesWith closing source = false) (hending : closesWith closing ending = false)
    (hlt : (k.cut source).after.length < source.length) :
    (l.readWords region closing pending ending source).Closes closer rest ↔
      (l.readWords region closing (pendingAfter pending (k.plainWord source)) (k.cut source).matched
        (k.cut source).after).Closes closer rest := by
  unfold Run.Closes
  rw [outcome_readWords_of_rules_nil hlookout hk hne hclosing hending hlt]
  cases (l.readWords region closing (pendingAfter pending (k.plainWord source)) (k.cut source).matched
    (k.cut source).after).outcome with
  | error e => simp [Except.map]
  | ok r => simp [Except.map, prepend]

/-! ## Stops -/

section Stops

variable {run after : Text}

/-- The marks of such a region are runs of blanks and the closer. -/
theorem firstLength?_of_upTo (hk : k.UpTo closer) {t : Text} (ht : t ≠ []) :
    Mark.firstLength? (k.marksUpTo closer) t = (Mark.length? .blanks t).or (Mark.length? (.exact closer) t) := by
  obtain ⟨d, t, rfl⟩ := List.exists_cons_of_ne_nil ht
  have htexts : Stop.texts k.context.closer ([].map Rule.opener) = [closer] := by
    rw [Stop.texts, hk.context, if_neg hk.ne_nil]
    rfl
  rw [Lookout.marksUpTo, firstLength?_marksOf, htexts]
  show (Mark.firstLength? [.blanks, .exact closer] (d :: t)).or _ = _
  rw [Mark.firstLength?_cons, Mark.firstLength?_cons, Mark.firstLength?_nil, Option.or_none, Option.or_assoc]
  congr 1
  -- The closer of the context adds nothing to that of the region.
  rw [Mark.length?, List.find?_singleton]
  cases closer.isPrefixOf (d :: t) <;> rfl

/-- In front of a stop there are no blanks. -/
theorem endsBlank_of_noneIn (hk : k.UpTo closer) {behind : Text}
    (h : Mark.NoneIn (k.marksUpTo closer) front behind) : endsBlank front = false := by
  rcases List.eq_nil_or_concat' front with rfl | ⟨front, d, rfl⟩
  · rfl
  · have hnone := h [d] (List.suffix_append front [d]) (List.cons_ne_nil d [])
    rw [firstLength?_of_upTo hk (by simp), Option.or_eq_none_iff, List.singleton_append, Mark.length?_blanks] at hnone
    simpa [endsBlank] using hnone.1

/-- A stop at a run of blanks. -/
theorem cut_of_blanks (hk : k.UpTo closer) (h : Mark.NoneIn (k.marksUpTo closer) front (run ++ after))
    (hne : run ≠ []) (hrun : ∀ d ∈ run, Unicode.isBlank d = true) (hafter : beginsBlank after = false) :
    k.cut (front ++ (run ++ after)) = ⟨front, run, after⟩ := by
  have hbehind : run ++ after ≠ [] := by simp [hne]
  refine Lookout.cut_of_first_append hk.stop h hbehind ?_
  rw [firstLength?_of_upTo hk hbehind, Mark.length?_blanks_append hne hrun hafter, Option.some_or]

/-- A stop at the closer, if that does not begin with a blank. -/
theorem cut_of_closer (hk : k.UpTo closer) (h : Mark.NoneIn (k.marksUpTo closer) front (closer ++ rest))
    (hblank : beginsBlank closer = false) : k.cut (front ++ (closer ++ rest)) = ⟨front, closer, rest⟩ := by
  have hbehind : closer ++ rest ≠ [] := by simp [hk.ne_nil]
  refine Lookout.cut_of_first_append hk.stop h hbehind ?_
  have hnone : Mark.length? .blanks (closer ++ rest) = none :=
    Mark.length?_blanks_eq_none ((beginsBlank_append hk.ne_nil rest).trans hblank)
  rw [firstLength?_of_upTo hk hbehind, hnone, Option.none_or, Mark.length?_exact,
    if_pos (List.prefix_append closer rest)]

/-- Every word of such a region consumes some text. -/
theorem length_after_lt_of_upTo (hk : k.UpTo closer) (hsource : source ≠ []) :
    (k.cut source).after.length < source.length := by
  refine Lookout.length_after_lt_of_marks hk.stop hsource fun n hn => ?_
  rw [firstLength?_of_upTo hk hsource] at hn
  rcases Option.or_eq_some_iff.mp hn with hn | ⟨-, hn⟩
  · cases hlength : (source.takeWhile Unicode.isBlank).length with
    | zero => simp [Mark.length?, hlength] at hn
    | succ m =>
      obtain rfl : m + 1 = n := by simpa [Mark.length?, hlength] using hn
      exact Nat.succ_pos m
  · rw [Mark.length?_exact] at hn
    split at hn
    · obtain rfl := Option.some.inj hn
      exact List.length_pos_iff.mpr hk.ne_nil
    · cases hn

/-- **The first stop in front of a closer** is where blanks begin, or it is the closer itself. -/
theorem exists_stop (hk : k.UpTo closer)
    (hfirst : ∀ u v, body = u ++ v → v ≠ [] → ¬closer <+: v ++ (closer ++ rest)) :
    ∃ front behind, body = front ++ behind ∧
      Mark.NoneIn (k.marksUpTo closer) front (behind ++ (closer ++ rest)) ∧
      (behind = [] ∨ beginsBlank behind = true) := by
  have hplace : closer ++ rest ≠ [] := by simp [hk.ne_nil]
  obtain ⟨front, behind, hsplit, hfront, hmark⟩ := Mark.exists_first (k.marksUpTo closer) (body ++ (closer ++ rest))
  rcases List.append_eq_append_iff.mp hsplit with ⟨extra, rfl, hextra⟩ | ⟨behind', rfl, rfl⟩
  · -- At the place of the closer there is a mark, so the first one is not behind it.
    have hnil : extra = [] := by
      by_contra hextra'
      have hnone := hfront extra (List.suffix_append body extra) hextra'
      rw [← hextra, firstLength?_of_upTo hk hplace, Option.or_eq_none_iff, Mark.length?_exact,
        if_pos (List.prefix_append closer rest)] at hnone
      cases hnone.2
    subst hnil
    rw [List.append_nil] at hfront
    exact ⟨body, [], (List.append_nil body).symm, by simpa [hextra] using hfront, Or.inl rfl⟩
  · refine ⟨front, behind', rfl, hfront, ?_⟩
    by_cases hbehind : behind' = []
    · exact Or.inl hbehind
    · have hne : behind' ++ (closer ++ rest) ≠ [] := by simp [hbehind]
      obtain ⟨n, hn⟩ := hmark.resolve_left hne
      rw [firstLength?_of_upTo hk hne, Mark.length?_exact, if_neg (hfirst front behind' rfl hbehind),
        Option.or_none] at hn
      refine Or.inr ?_
      by_contra hblank
      rw [Bool.not_eq_true, ← beginsBlank_append hbehind (closer ++ rest)] at hblank
      rw [Mark.length?_blanks_eq_none hblank] at hn
      cases hn

end Stops

/-! ## Closers -/

/-- What follows a closer that begins with blanks, if blanks are found at its place. -/
theorem closes_of_blanks_at_closer {run after : Text} (hsplit : closer ++ rest = run ++ after) (hne : run ≠ [])
    (hrun : ∀ d ∈ run, Unicode.isBlank d = true) (hafter : beginsBlank after = false) :
    (l.readWords region (some (.text closer)) pending run after).Closes closer rest ↔
      (∀ d ∈ closer, Unicode.isBlank d = true) ∧ beginsBlank rest = false := by
  by_cases hprefix : closer <+: run
  · have hcloses : closesWith (some (.text closer)) run = true := by
      rw [closesWith_text]
      exact List.isPrefixOf_iff_prefix.mpr hprefix
    rw [← blank_run_eq_iff hsplit hrun hafter hprefix, Run.Closes, readWords_of_closesWith hcloses]
    constructor
    · rintro ⟨r, hr, hcloser, hrest⟩
      obtain rfl := Except.ok.inj hr
      exact ⟨(prefix_blank_run_iff hsplit hrun hafter).mp hprefix, hcloser, hrest⟩
    · rintro ⟨-, hcloser, hrest⟩
      exact ⟨_, rfl, hcloser, hrest⟩
  · have hopen : closesWith (some (.text closer)) run = false := by
      rw [closesWith_text, Bool.eq_false_iff]
      exact mt List.isPrefixOf_iff_prefix.mp hprefix
    have hlt : after.length < (closer ++ rest).length := by
      rw [hsplit, List.length_append]
      exact Nat.lt_add_of_pos_left (List.length_pos_iff.mpr hne)
    refine iff_of_false (not_closes_of_length_lt hopen (by simp [closesWith_text]) hlt) fun h => ?_
    exact hprefix ((prefix_blank_run_iff hsplit hrun hafter).mpr h.1)

/-- A region whose first stop is at the place of the closer. -/
theorem closes_of_stop_at_closer (hk : k.UpTo closer) (hbody : body ≠ [])
    (hfront : Mark.NoneIn (k.marksUpTo closer) body (closer ++ rest)) :
    (l.readWords region (some (.text closer)) pending (k.cut (body ++ (closer ++ rest))).matched
      (k.cut (body ++ (closer ++ rest))).after).Closes closer rest ↔ ClearOfBlanks body closer rest := by
  by_cases hblank : beginsBlank closer = false
  · have hcloses : closesWith (some (.text closer)) closer = true := by simp [closesWith_text]
    rw [cut_of_closer hk hfront hblank, Run.Closes, readWords_of_closesWith hcloses]
    exact iff_of_true ⟨_, rfl, rfl, rfl⟩ (Or.inl hblank)
  · have hblank' : beginsBlank (closer ++ rest) = true := by
      rw [beginsBlank_append hk.ne_nil]
      exact (Bool.not_eq_false _).mp hblank
    obtain ⟨run, after, hsplit, hne, hrun, hafter⟩ := exists_blank_run_of_beginsBlank hblank'
    have hcut : k.cut (body ++ (closer ++ rest)) = ⟨body, run, after⟩ := by
      rw [hsplit] at hfront ⊢
      exact cut_of_blanks hk hfront hne hrun hafter
    rw [hcut, closes_of_blanks_at_closer hsplit hne hrun hafter]
    simp [ClearOfBlanks, hblank, hbody, endsBlank_of_noneIn hk hfront]

/-- A region whose first stop is a run of blanks that goes on into the closer. -/
theorem not_closes_of_blanks_into_closer (hk : k.UpTo closer) {run : Text} (hne : run ≠ [])
    (hrun : ∀ d ∈ run, Unicode.isBlank d = true) (hblank : beginsBlank closer = true)
    (hfront : Mark.NoneIn (k.marksUpTo closer) front (run ++ (closer ++ rest)))
    (hopen : ∀ x y, run ++ (closer ++ rest) = x ++ y → closesWith (some (.text closer)) x = false) :
    ¬(l.readWords region (some (.text closer)) pending (k.cut (front ++ (run ++ (closer ++ rest)))).matched
      (k.cut (front ++ (run ++ (closer ++ rest)))).after).Closes closer rest := by
  obtain ⟨run', after, hsplit, hne', hrun', hafter⟩ :=
    exists_blank_run_of_beginsBlank ((beginsBlank_append hk.ne_nil rest).trans hblank)
  have hall : ∀ d ∈ run ++ run', Unicode.isBlank d = true := by
    intro d hd
    exact (List.mem_append.mp hd).elim (hrun d) (hrun' d)
  have hsplit' : run ++ (closer ++ rest) = run ++ run' ++ after := by rw [hsplit, List.append_assoc]
  have hcut : k.cut (front ++ (run ++ (closer ++ rest))) = ⟨front, run ++ run', after⟩ := by
    rw [hsplit'] at hfront ⊢
    exact cut_of_blanks hk hfront (by simp [hne]) hall hafter
  have hlt : after.length < (closer ++ rest).length := by
    rw [hsplit, List.length_append]
    exact Nat.lt_add_of_pos_left (List.length_pos_iff.mpr hne')
  rw [hcut]
  exact not_closes_of_length_lt (hopen _ _ hsplit') (by simp [closesWith_text]) hlt

/-- **A region ends at the first place of its closer, exactly if blanks do not swallow it.** The induction is on the
    text in front of that place, word by word. -/
theorem closes_iff_clearOfBlanks (hk : k.UpTo closer)
    (hlookout : l.lookout (.outer region.separator region.closer) region.context = .ok k)
    (hfirst : ∀ u v, body = u ++ v → v ≠ [] → ¬closer <+: v ++ (closer ++ rest))
    (hending : closesWith (some (.text closer)) ending = false) :
    (l.readWords region (some (.text closer)) pending ending (body ++ (closer ++ rest))).Closes closer rest ↔
      ClearOfBlanks body closer rest := by
  induction hn : body.length using Nat.strongRecOn generalizing pending ending body with
  | _ n ih =>
    subst hn
    by_cases hbody : body = []
    · subst hbody
      rw [List.nil_append, Run.Closes, readWords_text hending]
      exact iff_of_true ⟨_, rfl, rfl, rfl⟩ (Or.inr (Or.inl rfl))
    have hsource : body ++ (closer ++ rest) ≠ [] := by simp [hbody]
    have hclosing : closesWith (some (.text closer)) (body ++ (closer ++ rest)) = false :=
      closesWith_text_of_first hfirst (List.nil_append body).symm hbody (List.append_nil _).symm
    rw [closes_of_rules_nil hlookout hk.rules hsource hclosing hending (length_after_lt_of_upTo hk hsource)]
    obtain ⟨front, behind, rfl, hfront, rfl | hblank⟩ := exists_stop hk hfirst
    · rw [List.append_nil] at hbody ⊢
      exact closes_of_stop_at_closer hk hbody hfront
    obtain ⟨run, behind, rfl, hne, hrun, hbehind⟩ := exists_blank_run_of_beginsBlank hblank
    by_cases hover : beginsBlank (behind ++ (closer ++ rest)) = false
    · -- The blanks end in front of the closer, and the region goes on behind them.
      have hcut : k.cut (front ++ (run ++ behind) ++ (closer ++ rest)) =
          ⟨front, run, behind ++ (closer ++ rest)⟩ := by
        rw [List.append_assoc] at hfront
        rw [List.append_assoc, List.append_assoc]
        exact cut_of_blanks hk hfront hne hrun hover
      have hlt : behind.length < (front ++ (run ++ behind)).length := by
        have hpos := List.length_pos_iff.mpr hne
        simp only [List.length_append]
        omega
      have hfirst' : ∀ u v, behind = u ++ v → v ≠ [] → ¬closer <+: v ++ (closer ++ rest) := by
        rintro u v rfl
        exact hfirst (front ++ (run ++ u)) v (by simp)
      have hending' : closesWith (some (.text closer)) run = false :=
        closesWith_text_of_first hfirst rfl (by simp [hne]) (List.append_assoc run behind _)
      rw [hcut, ih _ hlt hfirst' hending' rfl, ← List.append_assoc front run behind]
      exact (clearOfBlanks_append_iff hk.ne_nil (by simp [hne]) hover).symm
    · -- The run of blanks goes on into the closer.
      have hnil : behind = [] := by
        by_contra hnil
        rw [beginsBlank_append hnil] at hover
        exact hover hbehind
      subst hnil
      rw [List.nil_append, beginsBlank_append hk.ne_nil, Bool.not_eq_false] at hover
      rw [List.append_nil] at hbody hfront hfirst ⊢
      have hends : endsBlank (front ++ run) = true := by
        rw [endsBlank_append hne]
        exact endsBlank_of_forall hne hrun
      rw [List.append_assoc]
      refine iff_of_false ?_ (by simp [ClearOfBlanks, hover, hbody, hends])
      exact not_closes_of_blanks_into_closer hk hne hrun hover hfront fun x y =>
        closesWith_text_of_first hfirst rfl hne

/-- A region that begins with its closer is closed there, and nothing is looked out for. -/
theorem exists_readAll_of_text (hclosing : region.closer.closing = .ok (some (.text closer))) (hne : closer ≠ [])
    (rest : Text) :
    ∃ r, (l.readAll (closer ++ rest) region).outcome = .ok r ∧ r.source ++ r.rest = closer ++ rest ∧
      r.closer = closer ∧ r.rest = rest := by
  rw [readAll_of_closing hclosing, readWords_text (closesWith_text_nil hne)]
  exact ⟨_, rfl, rfl, rfl, rfl⟩

/-- **A region with text in front of its closer is refused** if its closer is, or what stops its words. -/
theorem outcome_readAll_of_refused (hplain : region.separator.isPlain = true) (hregion : region.closer = .exact closer)
    (hne : closer ≠ []) (hc : l.grammar.context? region.context = some c) {rules : List Rule}
    (hrules : l.grammar.visible region.context = .ok rules)
    (hfirst : ∀ u v, body = u ++ v → v ≠ [] → ¬closer <+: v ++ (closer ++ rest)) {e : Failure}
    (h : region.closer.closing = .error e ∨ body ≠ [] ∧ l.grammar.refusedStop? region = some e) :
    (l.readAll (body ++ (closer ++ rest)) region).outcome = .error .tooLarge := by
  have hcloser : region.closer.isPlain = true := by
    rw [hregion]
    rfl
  cases hclosing : region.closer.closing with
  | error f =>
    obtain rfl := Boundary.closing_eq_tooLarge hcloser hclosing
    exact outcome_readAll_of_closing_error hclosing _
  | ok closing =>
    rw [hclosing] at h
    obtain ⟨hbody, hrefused⟩ := h.resolve_left (by simp)
    obtain rfl := Grammar.eq_tooLarge_of_isPlain hc hrules hplain hcloser hrefused
    obtain rfl : closing = some (.text closer) := by
      rw [Boundary.eq_of_closing hcloser hclosing, hregion]
      rfl
    refine readAll_of_refusedStop? hrefused hclosing (by simp [hbody]) ?_ (closesWith_text_nil hne)
    exact closesWith_text_of_first hfirst (List.nil_append body).symm hbody (List.append_nil _).symm

/-- **The reading of a region up to the closer of its context.** It succeeds and keeps its source, and it ends at the
    first place of the closer exactly if blanks do not swallow that. -/
theorem exists_readAll_of_upTo (hk : k.UpTo closer) {id : Text}
    (hlookout : l.lookout (.outer .blanks (.exact closer)) id = .ok k)
    (hclosing : (Boundary.exact closer).closing = .ok (some (.text closer)))
    (hfirst : ∀ u v, body = u ++ v → v ≠ [] → ¬closer <+: v ++ (closer ++ rest)) :
    let region : Region := { closer := .exact closer, separator := .blanks, context := id }
    ∃ r, (l.readAll (body ++ (closer ++ rest)) region).outcome = .ok r ∧
      r.source ++ r.rest = body ++ (closer ++ rest) ∧
      (r.closer = closer ∧ r.rest = rest ↔ ClearOfBlanks body closer rest) := by
  intro region
  have hread : ∀ source, l.readAll source region = l.readWords region (some (.text closer)) [] [] source :=
    readAll_of_closing hclosing
  have hending : closesWith (some (.text closer)) [] = false := closesWith_text_nil hk.ne_nil
  obtain ⟨r, hr⟩ : ∃ r,
      (l.readWords region (some (.text closer)) [] [] (body ++ (closer ++ rest))).outcome = .ok r :=
    exists_reading_of_rules_nil hlookout hk.rules (fun source => length_after_lt_of_upTo hk) [] [] _
  have hstart : ∀ f ∈ some (Finder.text closer), ∀ t cut, f.find? t = some cut → cut.before = [] := by
    rintro f ⟨⟩ t cut hcut
    obtain ⟨length, -, rfl⟩ := Option.map_eq_some_iff.mp hcut
    rfl
  obtain ⟨kept, hkept, hsource⟩ := source_of_rules_nil hlookout hk.rules hstart (Run.yields_of_outcome hr)
  refine ⟨r, by rw [hread]; exact hr, ?_, ?_⟩
  · rw [hsource, List.nil_append]
    exact hkept.symm
  · have hiff : (l.readWords region (some (.text closer)) [] [] (body ++ (closer ++ rest))).Closes closer rest ↔
        ClearOfBlanks body closer rest := closes_iff_clearOfBlanks hk hlookout hfirst hending
    rw [← hiff, Run.Closes, hr]
    simp

end Level

end CommandWords
