import CommandWords.Plan

/-!
# `CommandWords.Grammar` — contexts and rules

A context is a lexical mode: plain text, a quoted string, a substitution. A rule says that inside its owner a
certain opener begins a region in a certain context. A context may have a parent whose rules are known in it,
too. A grammar holds both in tables that are sorted by their keys, so that it does not depend on the order in
which compatible definitions were made.

## Contents
- **Tables.** `insertSorted` puts an entry in the place of its key.
- **Grammars.** `Context`, `Rule`, `Grammar` and the look-ups `context?` and `rulesOf`.
- **Parents.** `Grammar.climb` follows parents and detects a cycle; `Grammar.chain` lists a context and its
  ancestors, and `Grammar.visible` the rules that are known in a context.
- **Definitions.** `Definition`, `Grammar.refusal?` with the causes to refuse one, and `Grammar.define`.
-/

namespace CommandWords

/-! ## Tables -/

/-- Puts an entry in front of the first one that it comes before; an entry that is neither before nor behind
    the new one gives way to it. -/
def insertSorted {α : Type} (before : α → α → Bool) (a : α) : List α → List α
  | [] => [a]
  | b :: bs =>
    if before a b then a :: b :: bs
    else if before b a then b :: insertSorted before a bs
    else a :: bs

/-- The texts in ascending order, each one once. -/
def sortedSet (ts : List Text) : List Text := ts.foldr (insertSorted fun a b => decide (a < b)) []

/-! ## Grammars -/

/-- A lexical mode. -/
structure Context where
  id : Text
  /-- The text that opens it. -/
  opener : Text
  /-- The text that closes it, empty if there is none. -/
  closer : Text
  /-- The context whose rules are known here, too. -/
  parent : Option Text
  /-- Whether a word that the closer ends is a quoted one. -/
  quoting : Bool
deriving DecidableEq, Repr

/-- Inside `owner`, the text `opener` begins a region in `context`. -/
structure Rule where
  owner : Text
  opener : Text
  context : Text
  /-- How the region is read. Without a reader it goes up to its context's closer, with blanks between
      words. -/
  reader : Option Reader

/-- Contexts by name, and rules by owner and opener. -/
structure Grammar where
  contexts : List Context := []
  rules : List Rule := []

instance : Inhabited Grammar := ⟨{}⟩

/-- The order of contexts in a grammar. -/
def Context.before (c d : Context) : Bool := decide (c.id < d.id)

/-- The order of rules in a grammar. -/
def Rule.before (r s : Rule) : Bool :=
  decide (r.owner < s.owner) || (r.owner == s.owner && decide (r.opener < s.opener))

namespace Grammar

/-- The context with a name. -/
def context? (g : Grammar) (id : Text) : Option Context := g.contexts.find? (·.id == id)

/-- The rules of an owner, by opener. -/
def rulesOf (g : Grammar) (owner : Text) : List Rule := g.rules.filter (·.owner == owner)

/-- Whether an owner has a rule for an opener. -/
def hasRule (g : Grammar) (owner opener : Text) : Bool :=
  g.rules.any fun r => r.owner == owner && r.opener == opener

/-- The closer of a context, empty if there is no such context. -/
def closerOf (g : Grammar) (id : Text) : Text := ((g.context? id).map (·.closer)).getD []

/-! ## Parents -/

/-- The contexts that are not among the visited ones. -/
def unvisited (g : Grammar) (visited : List Text) : List Context :=
  g.contexts.filter fun c => !visited.contains c.id

theorem length_unvisited_lt {g : Grammar} {visited : List Text} {id : Text} {c : Context}
    (hc : g.context? id = some c) (hid : ¬visited.contains id) :
    (g.unvisited (visited ++ [id])).length < (g.unvisited visited).length := by
  have hmem : c ∈ g.contexts := List.mem_of_find?_eq_some hc
  have hname : c.id = id := by simpa using List.find?_some hc
  have hsplit : g.unvisited (visited ++ [id]) = (g.unvisited visited).filter fun c => !(c.id == id) := by
    simp only [unvisited, List.filter_filter]
    refine List.filter_congr fun d _ => ?_
    by_cases h : d.id = id <;> simp [h]
  rw [hsplit]
  refine List.length_filter_lt_length_iff_exists.mpr ⟨c, ?_, by simp [hname]⟩
  simp only [unvisited, List.mem_filter]
  exact ⟨hmem, by simpa [hname] using hid⟩

/-- The visited contexts and then the given one and its ancestors, none where a parent was visited before. -/
def climb (g : Grammar) (visited : List Text) (next : Option Text) : Option (List Text) :=
  match next with
  | none => some visited
  | some id =>
    if _hid : visited.contains id then none
    else
      match _hc : g.context? id with
      -- A parent that is not defined has no parent, but may own rules.
      | none => some (visited ++ [id])
      | some c => climb g (visited ++ [id]) c.parent
termination_by (g.unvisited visited).length
decreasing_by exact length_unvisited_lt _hc _hid

/-- A context and its ancestors, the nearest first. Parents need not be defined. -/
def chain (g : Grammar) (id : Text) : Except Failure (List Text) :=
  match g.context? id with
  | none => .error (.unknownContext id)
  | some c =>
    match g.climb [id] c.parent with
    | some ids => .ok ids
    | none => .error (.cyclicParents id)

/-- Adds the rules whose openers no rule has yet. -/
def addHidden (known new : List Rule) : List Rule :=
  known ++ new.filter fun r => !known.any (·.opener == r.opener)

/-- The rules that are known in a context: its own, then those of its ancestors whose openers no nearer rule
    has. -/
def visible (g : Grammar) (id : Text) : Except Failure (List Rule) :=
  (g.chain id).map fun ids => ids.foldl (fun known owner => addHidden known (g.rulesOf owner)) []

/-! ## Definitions -/

end Grammar

/-- A request to define a context together with the rules that open it. -/
structure Definition where
  /-- The name of the context, by default its opener. -/
  id : Option Text := none
  opener : Text
  closer : Text
  parent : Option Text := none
  /-- Whether the context quotes, by default yes. -/
  quoting : Option Bool := none
  /-- The contexts in which the opener is known. -/
  owners : List Text := []
  /-- The reader of each of the rules. -/
  reader : Option Reader := none

namespace Definition

/-- The name of the defined context. -/
def name (d : Definition) : Text := d.id.getD d.opener

/-- The defined context. -/
def context (d : Definition) : Context :=
  { id := d.name, opener := d.opener, closer := d.closer, parent := d.parent, quoting := d.quoting.getD true }

/-- The rule that a definition gives to an owner. -/
def rule (d : Definition) (owner : Text) : Rule :=
  { owner, opener := d.opener, context := d.name, reader := d.reader }

end Definition

namespace Grammar

/-- Whether a context of that name is there with another closer or another parent. -/
def conflicts (g : Grammar) (d : Definition) : Bool :=
  (g.context? d.name).any fun c => c.closer != d.closer || c.parent != d.parent

/-- Why a definition is refused, if it is: the name is taken by a different context, the opener of a rule is
    empty, an owner has a rule for the opener, or the parents would form a cycle. -/
def refusal? (g : Grammar) (d : Definition) : Option Failure :=
  if g.conflicts d then some (.contextConflict d.name)
  else if d.owners ≠ [] ∧ d.opener = [] then some (.emptyOpener d.name)
  else
    match (sortedSet d.owners).find? (g.hasRule · d.opener) with
    | some owner => some (.duplicateRule owner d.opener)
    | none => if (g.climb [d.name] d.parent).isNone then some (.cyclicParents d.name) else none

/-- The grammar with the context and the rules of a definition. -/
def extend (g : Grammar) (d : Definition) : Grammar :=
  { contexts := insertSorted Context.before d.context g.contexts
    rules := (sortedSet d.owners).foldl (fun rules owner => insertSorted Rule.before (d.rule owner) rules)
      g.rules }

/-- Defines a context and its rules, or says why not. -/
def define (g : Grammar) (d : Definition) : Except Failure Grammar :=
  match g.refusal? d with
  | some f => .error f
  | none => .ok (g.extend d)

end Grammar
end CommandWords
