import Guideline.Collection.Sorted
import Guideline.Unicode.Age
import Guideline.Unicode.Alphanumeric
import Guideline.Unicode.Binary
import Guideline.Unicode.Break
import Guideline.Unicode.Script
import Guideline.Unicode.ScriptExtension

/-!
# Properties by name

Names of properties and of their values are matched loosely: case, blanks, underscores, dashes and
a leading `is` do not count.
-/

namespace Guideline.Unicode

/-- The form of a name in which loosely equal names are equal. -/
def looseName (name : List Char) : String :=
  let body := match name with
    | i :: s :: rest => if i.toLower = 'i' && s.toLower = 's' then rest else name
    | _ => name
  let kept := (body.filter fun c => c ≠ ' ' && c ≠ '_' && c ≠ '-' && c.toNat < 128).map Char.toLower
  String.ofList (if kept = ['c'] && body.length < name.length then ['i', 's', 'c'] else kept)

/-- The entry of a table under a name or one of its other names. -/
def lookup (aliases : List (String × String)) (table : List (String × List String)) (name : String) :
    Option Ranges :=
  (Collection.find? ((Collection.find? name aliases).getD name) table).map Ranges.ofRows

/-- The short names of the general categories under a name. -/
def categoryNames? (name : String) : Option (List String) :=
  Collection.find? name
    [("other", ["Cc", "Cf", "Cn", "Co"]), ("c", ["Cc", "Cf", "Cn", "Co"]),
      ("control", ["Cc"]), ("cc", ["Cc"]), ("cntrl", ["Cc"]), ("format", ["Cf"]), ("cf", ["Cf"]),
      ("unassigned", ["Cn"]), ("cn", ["Cn"]), ("privateuse", ["Co"]), ("co", ["Co"]),
      ("letter", ["Ll", "Lm", "Lo", "Lt", "Lu"]), ("l", ["Ll", "Lm", "Lo", "Lt", "Lu"]),
      ("casedletter", ["Ll", "Lt", "Lu"]), ("lc", ["Ll", "Lt", "Lu"]),
      ("lowercaseletter", ["Ll"]), ("ll", ["Ll"]), ("modifierletter", ["Lm"]), ("lm", ["Lm"]),
      ("otherletter", ["Lo"]), ("lo", ["Lo"]), ("titlecaseletter", ["Lt"]), ("lt", ["Lt"]),
      ("uppercaseletter", ["Lu"]), ("lu", ["Lu"]), ("mark", ["Mc", "Me", "Mn"]),
      ("m", ["Mc", "Me", "Mn"]), ("combiningmark", ["Mc", "Me", "Mn"]), ("spacingmark", ["Mc"]),
      ("mc", ["Mc"]), ("enclosingmark", ["Me"]), ("me", ["Me"]), ("nonspacingmark", ["Mn"]),
      ("mn", ["Mn"]), ("number", ["Nd", "Nl", "No"]), ("n", ["Nd", "Nl", "No"]),
      ("decimalnumber", ["Nd"]), ("nd", ["Nd"]), ("digit", ["Nd"]), ("letternumber", ["Nl"]),
      ("nl", ["Nl"]), ("othernumber", ["No"]), ("no", ["No"]),
      ("punctuation", ["Pc", "Pd", "Pe", "Pf", "Pi", "Po", "Ps"]),
      ("p", ["Pc", "Pd", "Pe", "Pf", "Pi", "Po", "Ps"]),
      ("punct", ["Pc", "Pd", "Pe", "Pf", "Pi", "Po", "Ps"]), ("connectorpunctuation", ["Pc"]),
      ("pc", ["Pc"]), ("dashpunctuation", ["Pd"]), ("pd", ["Pd"]), ("closepunctuation", ["Pe"]),
      ("pe", ["Pe"]), ("finalpunctuation", ["Pf"]), ("pf", ["Pf"]), ("initialpunctuation", ["Pi"]),
      ("pi", ["Pi"]), ("otherpunctuation", ["Po"]), ("po", ["Po"]), ("openpunctuation", ["Ps"]),
      ("ps", ["Ps"]), ("symbol", ["Sc", "Sk", "Sm", "So"]), ("s", ["Sc", "Sk", "Sm", "So"]),
      ("currencysymbol", ["Sc"]), ("sc", ["Sc"]), ("modifiersymbol", ["Sk"]), ("sk", ["Sk"]),
      ("mathsymbol", ["Sm"]), ("sm", ["Sm"]), ("othersymbol", ["So"]), ("so", ["So"]),
      ("separator", ["Zl", "Zp", "Zs"]), ("z", ["Zl", "Zp", "Zs"]), ("lineseparator", ["Zl"]),
      ("zl", ["Zl"]), ("paragraphseparator", ["Zp"]), ("zp", ["Zp"]), ("spaceseparator", ["Zs"]),
      ("zs", ["Zs"])]

/-- A general category, or one of the sets defined from them. -/
def category? (name : String) : Option Ranges :=
  if name = "any" then some [(0, 0x10FFFF)]
  else if name = "ascii" then some [(0, 0x7F)]
  else if name = "assigned" then
    some (categories ((categoryTable.map (·.1)).filter (· ≠ "Cn")))
  else (categoryNames? name).map categories

def script? (name : String) : Option Ranges :=
  lookup scriptAliases scriptTable name

/-- The code points used with a script, its own if nothing else is known. -/
def scriptExtension? (name : String) : Option Ranges :=
  (lookup scriptAliases scriptExtensionTable name).or (script? name)

/-- The code points of a binary property. -/
def binary? (name : String) : Option Ranges :=
  if name = "alphabetic" || name = "alpha" then
    some ((0x41, 0x5A) :: (0x61, 0x7A) :: alphabeticTable)
  else lookup binaryAliases binaryTable name

/-- The code points that a version of the standard knows: those it added and all earlier ones. -/
def age? (name : String) : Option Ranges :=
  let version := (Collection.find? name ageAliases).getD name
  let upTo := (ageTable.takeWhile fun (v, _) => v ≠ version).length
  if upTo < ageTable.length then
    some ((ageTable.take (upTo + 1)).flatMap fun (_, rows) => Ranges.ofRows rows)
  else none

/-- The set under a single name: a binary property, a general category or a script. The
abbreviations that a category shares with another property mean the category. -/
def propertySet? (name : List Char) : Option Ranges :=
  let name := looseName name
  (binary? name).or ((category? name).or (script? name))

/-- The set of the code points whose property has the given value. -/
def valueSet? (property value : List Char) : Option Ranges :=
  let property := looseName property
  let value := looseName value
  if property = "generalcategory" || property = "gc" then category? value
  else if property = "script" || property = "sc" then script? value
  else if property = "scriptextensions" || property = "scx" then scriptExtension? value
  else if property = "age" then age? value
  else if property = "graphemeclusterbreak" || property = "gcb" then
    lookup graphemeBreakAliases graphemeBreakTable value
  else if property = "sentencebreak" || property = "sb" then
    lookup sentenceBreakAliases sentenceBreakTable value
  else if property = "wordbreak" || property = "wb" then
    lookup wordBreakAliases wordBreakTable value
  else none

end Guideline.Unicode
