import Mathlib
import CommandWords.Proofs.Grammar.Requests

/-!
# `CommandWords.Proofs.Grammar.InPlace` — definitions that change a grammar in place

`Grammar.define` yields a new grammar or a failure. A registration that changes one grammar in place could do
worse: refuse a definition when a part of it has been entered already. This file defines in place, check after
check and then entry after entry, in a monad whose failures keep the grammar as it is at that moment. It turns
out that nothing has been entered when a check fails, so that both ways to define are the same.

What is registered stays registered. A definition adds one rule for each of its owners and takes no rule away,
and a context keeps its closer and its parent for good.

## Contents
- **Edits.** `Edit`, and `Edit.define`, `Edit.carryOut` and `Edit.session`, which define in place.
- **Agreement.** `Edit.run_define`, `Edit.left_carryOut` and `Edit.run_session`: definitions, requests and whole
  sessions in place come to what they come to elsewhere.
- **Entries.** `Grammar.ruleFor?` with `Grammar.Sorted.ruleFor?_extend`, and `Grammar.Sorted.rules_extend_perm`,
  which counts the rules.
- **Sessions.** `Grammar.KeptBy`, what a session keeps, and `Dialect.session_keeps`.
-/

namespace CommandWords

/-! ## Edits -/

/-- A change of a grammar in place. A failure leaves the grammar as it is at that moment. -/
abbrev Edit := EStateM Failure Grammar Unit

namespace Grammar

/-- The grammar with one more rule, in the place of one with the same owner and opener. -/
def addRule (g : Grammar) (r : Rule) : Grammar := { g with rules := insertSorted Rule.before r g.rules }

/-- The grammar with one more context, in the place of one with the same name. -/
def addContext (g : Grammar) (c : Context) : Grammar :=
  { g with contexts := insertSorted Context.before c g.contexts }

end Grammar

namespace Edit

/-- Fails if the grammar has a property. -/
def refuseIf (p : Grammar → Bool) (f : Failure) : Edit := do
  let g ← get
  if p g then throw f

/-- Fails for the first owner that has a rule for the opener. -/
def refuseRules (opener : Text) (owners : List Text) : Edit :=
  forM owners fun owner => refuseIf (·.hasRule owner opener) (.duplicateRule owner opener)

/-- Enters the rules of a definition, one for each owner. -/
def addRules (d : Definition) (owners : List Text) : Edit :=
  forM owners fun owner => modify (·.addRule (d.rule owner))

/-- Defines a context and its rules in place. -/
def define (d : Definition) : Edit := do
  refuseIf (·.conflicts d) (.contextConflict d.name)
  refuseIf (fun _ => !d.owners.isEmpty && d.opener.isEmpty) (.emptyOpener d.name)
  refuseRules d.opener (sortedSet d.owners)
  refuseIf (fun g => (g.climb [d.name] d.parent).isNone) (.cyclicParents d.name)
  addRules d (sortedSet d.owners)
  modify (·.addContext d.context)

/-- Makes definitions one after the other, up to the first one that is refused. -/
def defineAll (ds : List Definition) : Edit := forM ds define

/-- Carries out a request in place. -/
def carryOut : Request → Edit
  | .define d => define d
  | .interpolate opener closer reader => define { opener, closer, owners := [[]], reader }
  | .install features => defineAll (Shell.definitions features)

/-- Carries out one request after the other; a failure does not stop the session. -/
def session (requests : List Request) : Edit := forM requests fun q => tryCatch (carryOut q) fun _ => pure ()

/-! ## Agreement -/

theorem run_refuseIf (p : Grammar → Bool) (f : Failure) (g : Grammar) :
    (refuseIf p f).run g = if p g then .error f g else .ok () g := by
  unfold refuseIf
  rw [EStateM.run_bind, EStateM.run_get]
  by_cases h : p g = true
  · rw [if_pos h]
    simp [h]
  · rw [if_neg h]
    simp [h]

/-- The owners are looked at without a change, up to the first one that has a rule. -/
theorem run_refuseRules (opener : Text) (owners : List Text) (g : Grammar) :
    (refuseRules opener owners).run g =
      match owners.find? (g.hasRule · opener) with
      | some owner => .error (.duplicateRule owner opener) g
      | none => .ok () g := by
  unfold refuseRules
  induction owners with
  | nil => rfl
  | cons owner owners ih =>
    rw [List.forM_cons, EStateM.run_bind, run_refuseIf, List.find?_cons]
    cases g.hasRule owner opener with
    | true => rfl
    | false => exact ih

theorem run_addRules (d : Definition) (owners : List Text) (g : Grammar) :
    (addRules d owners).run g =
      .ok () { g with
        rules := owners.foldl (fun rules owner => insertSorted Rule.before (d.rule owner) rules) g.rules } := by
  unfold addRules
  induction owners generalizing g with
  | nil => rfl
  | cons owner owners ih =>
    rw [List.forM_cons, EStateM.run_bind, EStateM.run_modify]
    exact ih (g.addRule (d.rule owner))

/-- **A definition in place.** All checks come before the first entry, so a refused definition leaves the grammar
    as it was, whatever the cause is; an accepted one has entered everything. -/
theorem run_define (d : Definition) (g : Grammar) :
    (define d).run g =
      match g.define d with
      | .ok g' => .ok () g'
      | .error f => .error f g := by
  unfold define Grammar.define Grammar.refusal?
  rw [EStateM.run_bind, run_refuseIf]
  by_cases hconflict : g.conflicts d = true
  · rw [if_pos hconflict, if_pos hconflict]
  rw [if_neg hconflict, if_neg hconflict]
  dsimp only
  rw [EStateM.run_bind, run_refuseIf]
  by_cases hempty : d.owners ≠ [] ∧ d.opener = []
  · rw [if_pos (by simpa using hempty), if_pos hempty]
  rw [if_neg (by simpa using hempty), if_neg hempty]
  dsimp only
  rw [EStateM.run_bind, run_refuseRules]
  cases (sortedSet d.owners).find? (g.hasRule · d.opener) with
  | some owner => rfl
  | none =>
    dsimp only
    rw [EStateM.run_bind, run_refuseIf]
    by_cases hcycle : (g.climb [d.name] d.parent).isNone = true
    · rw [if_pos hcycle, if_pos hcycle]
    rw [if_neg hcycle, if_neg hcycle]
    dsimp only
    rw [EStateM.run_bind, run_addRules]
    rfl

/-- The grammar that is left, be it after a failure or not. -/
def left (x : EStateM.Result Failure Grammar Unit) : Grammar :=
  match x with
  | .ok _ g => g
  | .error _ g => g

/-- **Several definitions in place**, of which the ones before the first refused one stay. -/
theorem run_defineAll (ds : List Definition) (d : Dialect) :
    (defineAll ds).run d.grammar =
      match d.defineAll ds with
      | (d', none) => .ok () d'.grammar
      | (d', some f) => .error f d'.grammar := by
  unfold defineAll
  induction ds generalizing d with
  | nil => rfl
  | cons x ds ih =>
    rw [List.forM_cons, EStateM.run_bind, run_define]
    unfold Dialect.defineAll Dialect.define
    cases d.grammar.define x with
    | error f => rfl
    | ok g' => exact ih { d with grammar := g' }

/-- A definition that is settled leaves what it leaves in place. -/
theorem left_define (x : Definition) (d : Dialect) :
    left ((define x).run d.grammar) = (d.settle (d.define x)).grammar := by
  rw [run_define]
  unfold Dialect.define
  cases d.grammar.define x <;> rfl

/-- **A request in place.** -/
theorem left_carryOut (q : Request) (d : Dialect) : left ((carryOut q).run d.grammar) = (d.obey q).grammar := by
  cases q with
  | define x => exact left_define x d
  | interpolate opener closer reader => exact left_define _ d
  | install features =>
    show left ((defineAll (Shell.definitions features)).run d.grammar) =
      (d.defineAll (Shell.definitions features)).1.grammar
    rw [run_defineAll]
    cases d.defineAll (Shell.definitions features) with
    | mk d' refused => cases refused <;> rfl

/-- **A session in place.** -/
theorem run_session (requests : List Request) (d : Dialect) :
    (session requests).run d.grammar = .ok () (requests.foldl Dialect.obey d).grammar := by
  unfold session
  induction requests generalizing d with
  | nil => rfl
  | cons q requests ih =>
    have hone : (tryCatch (carryOut q) fun _ => pure ()).run d.grammar = .ok () (d.obey q).grammar := by
      rw [EStateM.run_tryCatch, ← left_carryOut]
      cases (carryOut q).run d.grammar <;> rfl
    rw [List.forM_cons, EStateM.run_bind, hone]
    exact ih (d.obey q)

end Edit

namespace Grammar

variable {g g' : Grammar} {d : Definition} {r : Rule} {owner opener : Text}

/-! ## Entries -/

/-- The rule of an owner for an opener. -/
def ruleFor? (g : Grammar) (owner opener : Text) : Option Rule :=
  g.rules.find? fun r => r.owner == owner && r.opener == opener

theorem Sorted.ruleFor?_eq_some_iff (h : g.Sorted) :
    g.ruleFor? owner opener = some r ↔ r ∈ g.rules ∧ r.owner = owner ∧ r.opener = opener := by
  unfold ruleFor?
  rw [find?_eq_some_iff .rule h.rules (k := (owner, opener)) fun s => by simp]
  simp

/-- **The rules after a definition**: each owner has the new rule for the opener, and all others stay. -/
theorem Sorted.ruleFor?_extend (h : g.Sorted) (d : Definition) (owner opener : Text) :
    (g.extend d).ruleFor? owner opener =
      if owner ∈ d.owners ∧ opener = d.opener then some (d.rule owner) else g.ruleFor? owner opener := by
  apply Option.ext
  intro r
  rw [(h.extend d).ruleFor?_eq_some_iff, h.mem_rules_extend_iff]
  by_cases hnew : owner ∈ d.owners ∧ opener = d.opener
  · rw [if_pos hnew, Option.some.injEq]
    constructor
    · rintro ⟨⟨o, -, rfl⟩ | ⟨-, hold⟩, rfl, rfl⟩
      · rfl
      · exact absurd hnew hold
    · rintro rfl
      exact ⟨Or.inl ⟨owner, hnew.1, rfl⟩, rfl, hnew.2.symm⟩
  · rw [if_neg hnew, h.ruleFor?_eq_some_iff]
    constructor
    · rintro ⟨⟨o, ho, rfl⟩ | ⟨hr, -⟩, rfl, rfl⟩
      · exact absurd ⟨ho, rfl⟩ hnew
      · exact ⟨hr, rfl, rfl⟩
    · rintro ⟨hr, rfl, rfl⟩
      exact ⟨Or.inr ⟨hr, hnew⟩, rfl, rfl⟩

/-- A table has each of its entries once. -/
theorem Sorted.nodup_rules (h : g.Sorted) : g.rules.Nodup := by
  refine List.Pairwise.imp (fun {r s} hrs heq => ?_) h.rules
  exact OrdersBy.rule.key_ne hrs (by rw [heq])

/-- **An admitted definition adds one rule for each owner**, however often it names the owner. -/
theorem Sorted.rules_extend_perm (h : g.Sorted) (hd : g.Admits d) :
    (g.extend d).rules.Perm (d.owners.dedup.map d.rule ++ g.rules) := by
  have hfresh : ∀ r ∈ g.rules, ¬(r.owner ∈ d.owners ∧ r.opener = d.opener) := by
    rintro r hr ⟨howner, hopener⟩
    have hnone := hd.fresh r.owner howner
    rw [hasRule, List.any_eq_false] at hnone
    exact hnone r hr (by simp [hopener])
  have hnodup : (d.owners.dedup.map d.rule ++ g.rules).Nodup := by
    refine List.nodup_append.mpr ⟨?_, h.nodup_rules, ?_⟩
    · refine List.Nodup.map (fun o o' heq => ?_) (List.nodup_dedup d.owners)
      exact congrArg Rule.owner heq
    · rintro r hr s hs rfl
      obtain ⟨o, ho, rfl⟩ := List.mem_map.mp hr
      exact hfresh _ hs ⟨List.mem_dedup.mp ho, rfl⟩
  refine (List.perm_ext_iff_of_nodup (h.extend d).nodup_rules hnodup).mpr fun r => ?_
  rw [h.mem_rules_extend_iff, List.mem_append, List.mem_map]
  constructor
  · rintro (⟨o, ho, rfl⟩ | ⟨hr, -⟩)
    · exact Or.inl ⟨o, List.mem_dedup.mpr ho, rfl⟩
    · exact Or.inr hr
  · rintro (⟨o, ho, rfl⟩ | hr)
    · exact Or.inl ⟨o, List.mem_dedup.mp ho, rfl⟩
    · exact Or.inr ⟨hr, hfresh r hr⟩

/-! ## Sessions -/

/-- What is registered in the one grammar is registered in the other: every context with its closer and its
    parent, and every rule. -/
structure KeptBy (g g' : Grammar) : Prop where
  contexts : ∀ id c, g.context? id = some c →
    ∃ c', g'.context? id = some c' ∧ c'.closer = c.closer ∧ c'.parent = c.parent
  rules : ∀ owner opener r, g.ruleFor? owner opener = some r → g'.ruleFor? owner opener = some r

theorem KeptBy.refl (g : Grammar) : g.KeptBy g :=
  ⟨fun _ c hc => ⟨c, hc, rfl, rfl⟩, fun _ _ _ hr => hr⟩

theorem KeptBy.trans {g'' : Grammar} (h : g.KeptBy g') (h' : g'.KeptBy g'') : g.KeptBy g'' := by
  refine ⟨fun id c hc => ?_, fun owner opener r hr => h'.rules owner opener r (h.rules owner opener r hr)⟩
  obtain ⟨c', hc', hcloser, hparent⟩ := h.contexts id c hc
  obtain ⟨c'', hc'', hcloser', hparent'⟩ := h'.contexts id c' hc'
  exact ⟨c'', hc'', hcloser'.trans hcloser, hparent'.trans hparent⟩

/-- **One definition keeps everything.** A context that is defined again has its closer and its parent checked,
    and no owner may get a second rule for an opener. -/
theorem Sorted.keptBy_extend (h : g.Sorted) (hd : g.Admits d) : g.KeptBy (g.extend d) := by
  refine ⟨fun id c hc => ?_, fun owner opener r hr => ?_⟩
  · rw [h.context?_extend]
    by_cases hid : id = d.name
    · subst hid
      have hagrees := hd.agrees
      rw [conflicts, hc] at hagrees
      simp only [Option.any_some, Bool.or_eq_false_iff, bne_eq_false_iff_eq] at hagrees
      exact ⟨d.context, if_pos rfl, hagrees.1.symm, hagrees.2.symm⟩
    · exact ⟨c, by rw [if_neg hid, hc], rfl, rfl⟩
  · rw [h.ruleFor?_extend]
    by_cases hnew : owner ∈ d.owners ∧ opener = d.opener
    · obtain ⟨howner, rfl⟩ := hnew
      obtain ⟨hmem, rfl, hopener⟩ := h.ruleFor?_eq_some_iff.mp hr
      have hnone := hd.fresh r.owner howner
      rw [hasRule, List.any_eq_false] at hnone
      exact absurd (by simp [hopener]) (hnone r hmem)
    · rw [if_neg hnew, hr]

end Grammar

namespace Dialect

/-- What is registered after some requests is still registered after more of them. -/
theorem keptBy_after (requests later : List Request) :
    (after requests).grammar.KeptBy (after (requests ++ later)).grammar := by
  have hstep : ∀ g x g', (after requests).grammar.KeptBy g ∧ g.WellFormed → g.define x = .ok g' →
      (after requests).grammar.KeptBy g' ∧ g'.WellFormed := by
    rintro g x g' ⟨hkept, hwf⟩ hx
    have hwf' : g'.WellFormed := hwf.define hx
    obtain ⟨hadmits, -, rfl⟩ := hwf.define_eq_ok_iff.mp hx
    exact ⟨hkept.trans (hwf.sorted.keptBy_extend hadmits), hwf'⟩
  have hrun : after (requests ++ later) = later.foldl obey (after requests) := List.foldl_append
  rw [hrun]
  exact (foldl_obey_induction hstep later _ ⟨.refl _, wellFormed_after requests⟩).1

/-- **Registration in place is all or nothing.** A session of requests that is carried out in place leaves the
    grammar that it leaves elsewhere. After any session, a definition in place either fails, for the cause for
    which it is refused, and the grammar is the same as before; or it comes to the defined grammar, which has one
    more rule for each owner of the definition and the rules of before, owner by owner and opener by opener.
    Whatever is registered, a context with its closer and its parent or a rule, stays so in the rest of the
    session. -/
theorem session_keeps (requests : List Request) :
    let g := (after requests).grammar
    (Edit.session requests).run {} = .ok () g ∧
      (∀ d f g', (Edit.define d).run g = .error f g' ↔ g.define d = .error f ∧ g' = g) ∧
      (∀ d g', (Edit.define d).run g = .ok () g' ↔ g.define d = .ok g') ∧
      (∀ d g', g.define d = .ok g' →
        g'.rules.Perm (d.owners.dedup.map d.rule ++ g.rules) ∧
          ∀ owner opener r, g.ruleFor? owner opener = some r → g'.ruleFor? owner opener = some r) ∧
      ∀ later, g.KeptBy (after (requests ++ later)).grammar := by
  intro g
  have hwf : g.WellFormed := wellFormed_after requests
  refine ⟨Edit.run_session requests {}, fun d f g' => ?_, fun d g' => ?_, fun d g' hd => ?_,
    keptBy_after requests⟩
  · rw [Edit.run_define]
    cases g.define d with
    | error f' => simp [eq_comm]
    | ok g₁ => simp
  · rw [Edit.run_define]
    cases g.define d with
    | error f' => simp
    | ok g₁ => simp
  · obtain ⟨hadmits, -, rfl⟩ := hwf.define_eq_ok_iff.mp hd
    exact ⟨hwf.sorted.rules_extend_perm hadmits, (hwf.sorted.keptBy_extend hadmits).rules⟩

/-- On top of a command line: a definition for each cause of a refusal, where of two owners only the last one has
    a rule; a definition that names an owner twice and adds two rules; and its context after the command line is
    installed again, which is refused halfway. -/
theorem session_keeps_refusals :
    let angles : Definition := { opener := ['<'], closer := ['>'], owners := [[], ['"'], []] }
    let g := (after [.install {}]).grammar
    let refusals : List (Definition × Failure) :=
      [({ angles with id := some ['"'] }, .contextConflict ['"']),
        ({ angles with id := some ['x'], opener := [] }, .emptyOpener ['x']),
        ({ angles with opener := ['\\'], closer := [], owners := [['@'], ['"']] }, .duplicateRule ['"'] ['\\']),
        ({ angles with parent := some ['<'] }, .cyclicParents ['<'])]
    (∀ x ∈ refusals, g.define x.1 = .error x.2 ∧ (Edit.define x.1).run g = .error x.2 g) ∧
      (∃ g', g.define angles = .ok g' ∧ g'.rules.length = g.rules.length + 2) ∧
      (Edit.session [.install {}, .define angles, .install {}]).run {} =
        .ok () (after [.install {}, .define angles, .install {}]).grammar ∧
      ∃ c, (after [.install {}, .define angles, .install {}]).grammar.context? ['<'] = some c ∧ c.closer = ['>'] := by
  intro angles g refusals
  obtain ⟨-, hrefused, -, haccepted, -⟩ := session_keeps [.install {}]
  obtain ⟨hsession, -⟩ := session_keeps [.install {}, .define angles, .install {}]
  obtain ⟨-, -, -, -, hlater⟩ := session_keeps [.install {}, .define angles]
  refine ⟨?_, ?_, hsession, ?_⟩
  · have hcauses : ∀ x ∈ refusals, g.define x.1 = .error x.2 := by
      subst refusals g angles
      simp only [List.forall_mem_cons, List.not_mem_nil, false_imp_iff, implies_true, and_true]
      refine ⟨?_, ?_, ?_, ?_⟩
      · cbv
      · cbv
      · cbv
      · cbv
    exact fun x hx => ⟨hcauses x hx, (hrefused x.1 x.2 g).mpr ⟨hcauses x hx, rfl⟩⟩
  · have hok : (g.define angles).toOption.isSome = true := by
      subst g angles
      cbv
    cases hd : g.define angles with
    | error f =>
      rw [hd] at hok
      cases hok
    | ok g' =>
      have hlength := (haccepted angles g' hd).1.length_eq
      have hdedup : angles.owners.dedup.length = 2 := by
        subst angles
        decide
      rw [List.length_append, List.length_map, hdedup, Nat.add_comm] at hlength
      exact ⟨g', rfl, hlength⟩
  · have hcontext : (after [.install {}, .define angles]).grammar.context? ['<'] = some angles.context := by
      subst angles
      cbv
    obtain ⟨c, hc, hcloser, -⟩ := (hlater [.install {}]).contexts ['<'] _ hcontext
    exact ⟨c, hc, hcloser⟩

end Dialect

end CommandWords
