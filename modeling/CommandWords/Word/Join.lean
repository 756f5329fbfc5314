import CommandWords.Word.Source

/-!
# `CommandWords.Word.Join` — how the reading of a region joins a word

## Contents
- `Word.addText` takes text over as it stands.
- `Word.absorb` takes over the contents of nested words, each but the last followed by what ended it, and
  moves their substitutions to where they now stand.
- `Word.join` does what the `Merge` of a reading asks for.
-/

namespace CommandWords

/-- The substitution moved by some bytes. Offsets that a rule's own reader has made up may get past every bound; as
    long as they fit in 64 bits, this is the sum that is stored. -/
def Substitution.shift {β : Type} (s : Substitution β) (bytes : Nat) : Substitution β :=
  { s with offset := s.offset + bytes }

namespace Word

variable {β : Type}

/-- Takes text over as content and as raw text. -/
def addText (w : Word β) (t : Text) : Word β := { w with content := w.content ++ t, raw := w.raw ++ t }

/-- Takes text over as content alone. -/
def addContent (w : Word β) (t : Text) : Word β := { w with content := w.content ++ t }

/-- Takes text over as raw text alone. -/
def addRaw (w : Word β) (t : Text) : Word β := { w with raw := w.raw ++ t }

/-- Takes over the content of one word with its substitutions. -/
def absorbOne (w v : Word β) : Word β :=
  { w with
    content := w.content ++ v.content
    substitutions := w.substitutions ++ v.substitutions.map (·.shift w.content.byteSize) }

/-- Takes over the contents of words, a separator before the first one and behind each the text that ended
    it, but for the last. -/
def absorb (w : Word β) (separator : Text) : List (Word β) → Word β
  | [] => w
  | v :: vs => ((w.addContent separator).absorbOne v).absorb v.ending vs

/-- Whether a reading was closed by the closer of its context. -/
def closedBy (closer : Text) (r : Reading) : Bool := !closer.isEmpty && r.closer == closer

/-- Takes over the reading of a region that `opener` opened in a context with the given closer. A deferred
    region without words leaves no trace. -/
def join (w : Word Reading) (opener closer : Text) (r : Reading) : Word Reading :=
  match r.merge with
  | .defer =>
    if r.words.isEmpty then w
    else
      { w with
        substitutions := w.substitutions ++ [{ offset := w.content.byteSize, opener, body := r }] }
  | .fold => (w.absorb [] r.words).addRaw (opener ++ r.source)
  | .plain =>
    (((w.addContent opener).absorb [] r.words).addContent (if closedBy closer r then closer else [])).addRaw
      (opener ++ r.source)
  | .strip => w.addText (opener ++ r.source)

end Word
end CommandWords
