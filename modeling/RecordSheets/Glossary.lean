import RecordSheets.Json.Value
import RecordSheets.Text.Lower

/-!
# Glossaries

A glossary gives localized texts for tokens in lower case. Two of them localize a sheet: the names, whose entries are objects
with a Chinese name, and the i18n texts. Empty texts are left out of both.
-/

namespace RecordSheets

/-- Tokens in lower case with their texts. -/
structure Glossary where
  /-- The tokens with their texts, none of which is empty. -/
  entries : List (String × String)
  deriving DecidableEq, Repr

namespace Glossary

def empty : Glossary := ⟨[]⟩

/-- The text that a value gives a token, if it is a string and not empty. -/
def text? : Json → Option String
  | .str s => if s.isEmpty then none else some s
  | _ => none

/-- The Chinese name that an entry gives a token. -/
def name? (entry : Json) : Option String :=
  entry.fields?.bind fun fields => (fields.get? "zh").bind text?

/-- The glossary of the texts that a function finds in the members of an object. -/
def ofFields (find? : Json → Option String) (fields : Fields) : Glossary :=
  ⟨fields.filterMap fun (token, entry) => (find? entry).map fun text => (token, text)⟩

/-- The glossary of the names in a table. -/
def names (table : Fields) : Glossary := ofFields name? table

/-- The glossary of the i18n texts in a table. -/
def texts (table : Fields) : Glossary := ofFields text? table

/-- The text of a token, whatever its letter case. -/
def lookup? (g : Glossary) (token : String) : Option String := g.entries.lookup (Text.lower token)

def size (g : Glossary) : Nat := g.entries.length

def isEmpty (g : Glossary) : Bool := g.entries.isEmpty

end Glossary

/-- The two glossaries that localize a sheet. -/
structure Presets where
  /-- The names. -/
  names : Glossary
  /-- The i18n texts. -/
  texts : Glossary
  deriving DecidableEq, Repr

/-- The presets that localize nothing. -/
def Presets.empty : Presets := ⟨.empty, .empty⟩

end RecordSheets
