import FormEngine.Schema.Basic

/-!
Visibility of fields. A rule holds when all its conditions do, each read from the value that its
field holds at present; a field without a rule is always visible. Comparison is by kind and value,
so a flag never equals a text.
-/

namespace FormEngine

/-- Where present values come from: a tree of values, or anything that answers for a path. -/
abbrev ValueSource := String → Option FormValue

def FormValues.source (values : FormValues) : ValueSource := fun path => values.getPath path

/-- Whether one text occurs within another; the empty text occurs everywhere. -/
def occursIn (needle : List Char) : List Char → Bool
  | [] => needle.isEmpty
  | char :: rest => needle.isPrefixOf (char :: rest) || occursIn needle rest

namespace Condition

def operandEquals : Operand → Option FormValue → Bool
  | .text expected, some (.text actual) => expected == actual
  | .flag expected, some (.flag actual) => expected == actual
  | _, _ => false

def holds (condition : Condition) (observed : Option FormValue) : Bool :=
  match condition.comparison with
  | .equals => operandEquals condition.operand observed
  | .notEquals => !operandEquals condition.operand observed
  | .contains =>
      match condition.operand, observed with
      | .text needle, some (.text text) => occursIn needle.toList text.toList
      | _, _ => false
  | .among =>
      match condition.operand, observed with
      | .list candidates, some (.text text) => candidates.contains text
      | _, _ => false
  | .unrecognized => true

end Condition

def VisibilityRule.holds (rule : VisibilityRule) (source : ValueSource) : Bool :=
  rule.conditions.all fun condition => condition.holds (source condition.field)

def isVisible (rule : Option VisibilityRule) (source : ValueSource) : Bool :=
  match rule with
  | some rule => rule.holds source
  | none => true

end FormEngine
