import CommandWords.Unicode.Age
import CommandWords.Unicode.Binary
import CommandWords.Unicode.Script

/-!
# `CommandWords.Unicode.Names` — sets of characters by name

## Contents
- `setNamed?`: by the name of a property that a character has or has not, of a category or of a script.
- `setValued?`: by the names of a property and of one of its values.
-/

namespace CommandWords.Unicode

/-- The set that a single name stands for: a property, or else a category, or else a script. -/
def setNamed? (name : Text) : Option Ranges :=
  let name := looseName name
  binaryNamed? name <|> categoryNamed? name <|> scriptNamed? name

/-- The characters whose property has the value. -/
def setValued? (property value : Text) : Option Ranges :=
  let property := looseName property
  let value := looseName value
  let is (p : Valued) : Bool := isAmong property p.names.toList
  let with? (p : Valued) : Option Ranges := (p.key? value).map fun key => p.ranges [key]
  if is category then categoryNamed? value
  else if is script then scriptNamed? value
  else if is scriptExtensions then scriptUseNamed? value
  else if is age then ageNamed? value
  else if is clusterBreak then with? clusterBreak
  else if is wordBreak then with? wordBreak
  else if is sentenceBreak then with? sentenceBreak
  else none

end CommandWords.Unicode
