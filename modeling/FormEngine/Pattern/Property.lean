import FormEngine.Pattern.CharClass
import FormEngine.Pattern.Unicode.Age
import FormEngine.Pattern.Unicode.Break
import FormEngine.Pattern.Unicode.Category
import FormEngine.Pattern.Unicode.Later
import FormEngine.Pattern.Unicode.Script
import FormEngine.Pattern.Unicode.SharedScript
import FormEngine.Pattern.Unicode.Property

/-!
Classes of characters by the name of a Unicode property. Names are compared without case, blanks,
underscores, hyphens and a leading "is". A name alone is a binary property, a general category or a
script, looked for in this order; a name with a value is one of the properties that have values.
-/

namespace FormEngine.Pattern

def lowerAscii (char : Char) : Char :=
  if 'A' ≤ char && char ≤ 'Z' then Char.ofNat (char.toNat + 32) else char

def looseName (name : List Char) : String :=
  let (prefixed, body) : Bool × List Char :=
    match name with
    | first :: second :: rest =>
        if lowerAscii first = 'i' && lowerAscii second = 's' then (true, rest) else (false, name)
    | _ => (false, name)
  let kept := body.filter fun char =>
    char.toNat < 128 && char != ' ' && char != '_' && char != '-'
  let loose := kept.map lowerAscii
  -- The abbreviation of a property that starts with "is" itself.
  if prefixed && loose = ['c'] then "isc" else String.ofList loose

def findRows (name : String) (table : List (List String × List String)) : Option CharClass :=
  (table.find? fun entry => entry.1.contains name).map fun entry => .ofRows entry.2

def category (name : String) : CharClass :=
  (findRows name Unicode.categoryRows).getD CharClass.none

def categories (names : List String) : CharClass := CharClass.unions (names.map category)

def letterCategories : List String := ["lu", "ll", "lt", "lm", "lo"]
def markCategories : List String := ["mn", "mc", "me"]
def numberCategories : List String := ["nd", "nl", "no"]
def punctuationCategories : List String := ["pc", "pd", "ps", "pe", "pi", "pf", "po"]
def symbolCategories : List String := ["sm", "sc", "sk", "so"]
def separatorCategories : List String := ["zs", "zl", "zp"]

def graphicCategories : List String :=
  letterCategories ++ markCategories ++ numberCategories ++ punctuationCategories ++
    symbolCategories ++ separatorCategories

def assignedCategories : List String := graphicCategories ++ ["cc", "cf", "co"]

def everyCode : CharClass := .span 0 0x10FFFF

def assigned : CharClass := categories assignedCategories

/-- Groups of categories, under all their names. -/
def categoryGroups : List (List String × CharClass) :=
  [(["any"], everyCode),
   (["ascii"], .span 0 0x7F),
   (["assigned"], assigned),
   (["unassigned", "cn"], assigned.complement),
   (["casedletter", "lc"], categories ["lu", "ll", "lt"]),
   (["letter", "l"], categories letterCategories),
   (["mark", "m", "combiningmark"], categories markCategories),
   (["number", "n"], categories numberCategories),
   (["punctuation", "p", "punct"], categories punctuationCategories),
   (["symbol", "s"], categories symbolCategories),
   (["separator", "z"], categories separatorCategories),
   (["other", "c"], (categories graphicCategories).complement)]

def categoryClass? (name : String) : Option CharClass :=
  match findRows name Unicode.categoryRows with
  | some found => some found
  | none => (categoryGroups.find? fun entry => entry.1.contains name).map Prod.snd

def scriptClass? (name : String) : Option CharClass := findRows name Unicode.scriptRows

/-- Three abbreviations name a category, though a property is abbreviated so too. -/
def propertyClass? (name : String) : Option CharClass :=
  if ["cf", "sc", "lc"].contains name then none else findRows name Unicode.propertyRows

def classNamed? (name : List Char) : Option CharClass :=
  let loose := looseName name
  ((propertyClass? loose).or (categoryClass? loose)).or (scriptClass? loose)

/-- The rows of characters that came with one of the first versions, up to the one named. -/
def upToAge? (version : String) : List (List String × List String) → Option (List String)
  | [] => none
  | (names, rows) :: rest =>
      if names.contains version then some rows
      else (upToAge? version rest).map fun later => rows ++ later

def classValued? (name value : List Char) : Option CharClass :=
  let property := looseName name
  let given := looseName value
  let named (names : List String) : Bool := names.contains property
  if named ["generalcategory", "gc"] then categoryClass? given
  else if named ["script", "sc"] then scriptClass? given
  else if named ["scriptextensions", "scx"] then findRows given Unicode.sharedScriptRows
  else if named ["age"] then (upToAge? given Unicode.ageRows).map CharClass.ofRows
  else if named ["graphemeclusterbreak", "gcb"] then findRows given Unicode.graphemeBreakRows
  else if named ["wordbreak", "wb"] then findRows given Unicode.wordBreakRows
  else if named ["sentencebreak", "sb"] then findRows given Unicode.sentenceBreakRows
  else none

section Common

def propertyNamed (name : String) : CharClass :=
  (findRows name Unicode.propertyRows).getD CharClass.none

def whiteSpace : CharClass := propertyNamed "whitespace"
def decimalDigit : CharClass := category "nd"
def alphabetic : CharClass := propertyNamed "alphabetic"

/-- Letters, marks, decimal digits, connectors and joiners. -/
def wordChar : CharClass :=
  CharClass.unions [alphabetic, categories markCategories, decimalDigit, category "pc",
    propertyNamed "joincontrol"]

/-- The letters that a name may begin with. -/
def nameLetter : CharClass := alphabetic.union (.ofRows Unicode.laterLetterRows)

/-- The letters and numbers that a name may go on with. -/
def nameChar : CharClass :=
  CharClass.unions [nameLetter, categories numberCategories, .ofRows Unicode.laterNumberRows]

end Common

end FormEngine.Pattern
