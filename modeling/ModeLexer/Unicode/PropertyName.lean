import ModeLexer.Unicode.Property
import ModeLexer.Unicode.ScriptExtension

/-!
# Naming a set of characters

A pattern names a set by a binary property, a general category or a script (`\p{Alphabetic}`,
`\p{Lu}`, `\p{Greek}`), or by a property and its value (`\p{sc=Greek}`). Names are compared loosely:
case, spaces, underscores, hyphens and a leading `is` do not count, and neither does a character
beyond ASCII.
-/

namespace ModeLexer.Unicode

/-- A name without what does not count in a comparison. One name keeps its `is`: without it, the
abbreviation `isc` would be read as that of a category. -/
def normalizeName (name : List Char) : List Char :=
  let lower := name.map Char.toLower
  let startsWithIs := lower.take 2 = ['i', 's']
  let kept := (if startsWithIs then lower.drop 2 else lower).filter fun c ↦
    c.toNat < 128 && c ≠ ' ' && c ≠ '_' && c ≠ '-'
  if startsWithIs ∧ kept = ['c'] then ['i', 's', 'c'] else kept

/-- Looks a normalized name up in a table of sets. -/
def lookupName (table : List (List String × CharSet)) (name : String) : Option CharSet :=
  (table.find? (·.1.contains name)).map (·.2)

open CharSet in
/-- The general categories and their unions, with their names. -/
def categoryNames : List (List String × CharSet) := [
  (["any"], all),
  (["assigned"], assigned),
  (["ascii"], range '\x00' '\x7f'),
  (["c", "other"], union (categories [.control, .format, .privateUse]) (compl assigned)),
  (["cc", "control", "cntrl"], categories [.control]),
  (["cf", "format"], categories [.format]),
  (["cn", "unassigned"], compl assigned),
  (["co", "privateuse"], categories [.privateUse]),
  (["l", "letter"], letters),
  (["lc", "casedletter"],
    categories [.uppercaseLetter, .lowercaseLetter, .titlecaseLetter]),
  (["ll", "lowercaseletter"], categories [.lowercaseLetter]),
  (["lm", "modifierletter"], categories [.modifierLetter]),
  (["lo", "otherletter"], categories [.otherLetter]),
  (["lt", "titlecaseletter"], categories [.titlecaseLetter]),
  (["lu", "uppercaseletter"], categories [.uppercaseLetter]),
  (["m", "mark", "combiningmark"],
    categories [.nonspacingMark, .spacingMark, .enclosingMark]),
  (["mc", "spacingmark"], categories [.spacingMark]),
  (["me", "enclosingmark"], categories [.enclosingMark]),
  (["mn", "nonspacingmark"], categories [.nonspacingMark]),
  (["n", "number"], categories [.decimalNumber, .letterNumber, .otherNumber]),
  (["nd", "decimalnumber", "digit"], categories [.decimalNumber]),
  (["nl", "letternumber"], categories [.letterNumber]),
  (["no", "othernumber"], categories [.otherNumber]),
  (["p", "punctuation", "punct"],
    categories [.connectorPunctuation, .dashPunctuation, .closePunctuation, .finalPunctuation,
      .initialPunctuation, .otherPunctuation, .openPunctuation]),
  (["pc", "connectorpunctuation"], categories [.connectorPunctuation]),
  (["pd", "dashpunctuation"], categories [.dashPunctuation]),
  (["pe", "closepunctuation"], categories [.closePunctuation]),
  (["pf", "finalpunctuation"], categories [.finalPunctuation]),
  (["pi", "initialpunctuation"], categories [.initialPunctuation]),
  (["po", "otherpunctuation"], categories [.otherPunctuation]),
  (["ps", "openpunctuation"], categories [.openPunctuation]),
  (["s", "symbol"], categories [.currencySymbol, .modifierSymbol, .mathSymbol, .otherSymbol]),
  (["sc", "currencysymbol"], categories [.currencySymbol]),
  (["sk", "modifiersymbol"], categories [.modifierSymbol]),
  (["sm", "mathsymbol"], categories [.mathSymbol]),
  (["so", "othersymbol"], categories [.otherSymbol]),
  (["z", "separator"], categories [.lineSeparator, .paragraphSeparator, .spaceSeparator]),
  (["zl", "lineseparator"], categories [.lineSeparator]),
  (["zp", "paragraphseparator"], categories [.paragraphSeparator]),
  (["zs", "spaceseparator"], categories [.spaceSeparator])]

namespace CharSet

/-- The set with a given name: a binary property, else a category, else a script. -/
def named? (name : List Char) : Option CharSet :=
  let name := String.ofList (normalizeName name)
  lookupName properties name
    <|> lookupName categoryNames name
    <|> lookupName (scripts.map fun s ↦ (s.1, table s.2)) name

/-- The characters for which a property has a given value. -/
def valued? (property value : List Char) : Option CharSet :=
  let property := String.ofList (normalizeName property)
  let value := String.ofList (normalizeName value)
  if property = "gc" ∨ property = "generalcategory" then lookupName categoryNames value
  else if property = "sc" ∨ property = "script" then
    lookupName (scripts.map fun s ↦ (s.1, table s.2)) value
  else if property = "scx" ∨ property = "scriptextensions" then
    lookupName (scriptExtensions.map fun s ↦ (s.1, table s.2)) value
  else none

end CharSet

end ModeLexer.Unicode
