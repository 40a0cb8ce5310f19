import FormEngine.Form.Visibility

/-!
Constraints on the value of a field, compiled from its rules. There is one slot for each kind of
constraint, and of the rules that fill a slot the last one wins. A pattern that the pattern language
does not accept fills nothing.

Rules may depend on other fields: a guarded rule counts only while its field holds the given value,
and a controlling field may choose the pattern. `FieldConstraints` keeps the compiled set together
with the values it was compiled from, and compiles again only when one of those has changed.
-/

namespace FormEngine

/-- Which texts are patterns, and which texts a pattern matches. -/
structure PatternLanguage where
  accepts : String → Bool
  matchesText : String → String → Bool

structure LengthBound where
  value : Nat
  message : String
  deriving DecidableEq

structure ConstraintSet where
  required : Option String
  minLength : Option LengthBound
  maxLength : Option LengthBound
  pattern : Option PatternRule
  deriving DecidableEq

namespace ConstraintSet

def requiredMessage : String := "This field is required"

def empty : ConstraintSet := ⟨none, none, none, none⟩

def isEmpty (constraints : ConstraintSet) : Bool := constraints = empty

section Slots

variable (language : PatternLanguage)

def requiredSlot (rule : ValidationRule) : Option String :=
  if rule.required = some true then
    some (if rule.message.isEmpty then requiredMessage else rule.message)
  else none

/-- A bound of zero is no bound. -/
def boundSlot (bound : Option Nat) (message : String) : Option LengthBound :=
  match bound with
  | some value => if 0 < value then some ⟨value, message⟩ else none
  | none => none

def patternSlot (pattern message : String) : Option PatternRule :=
  if !pattern.isEmpty && language.accepts pattern then some ⟨pattern, message⟩ else none

def add (constraints : ConstraintSet) (rule : ValidationRule) : ConstraintSet :=
  { required := (requiredSlot rule).or constraints.required
    minLength := (boundSlot rule.minLength rule.message).or constraints.minLength
    maxLength := (boundSlot rule.maxLength rule.message).or constraints.maxLength
    pattern := (rule.pattern.bind fun pattern => patternSlot language pattern rule.message).or
      constraints.pattern }

end Slots

section Checking

def isFilled : Option FormValue → Bool
  | some (.text value) => !value.isEmpty
  | some (.flag value) => value
  | some (.group entries) => !entries.isEmpty
  | none => false

/-- Lengths count characters. -/
def checkText (language : PatternLanguage) (constraints : ConstraintSet) (text : String) :
    Option String :=
  let short := constraints.minLength.filter fun bound => text.length < bound.value
  let long := constraints.maxLength.filter fun bound => bound.value < text.length
  let odd := constraints.pattern.filter fun rule => !language.matchesText rule.pattern text
  ((short.map LengthBound.message).or (long.map LengthBound.message)).or
    (odd.map PatternRule.message)

/-- The message of the first constraint that the value fails. Only a text that is not empty has a
length and a form. -/
def check (language : PatternLanguage) (constraints : ConstraintSet) (value : Option FormValue) :
    Option String :=
  match constraints.required with
  | some message =>
      if isFilled value then checkFilled value else some message
  | none => checkFilled value
where
  checkFilled : Option FormValue → Option String
    | some (.text text) => if text.isEmpty then none else checkText language constraints text
    | _ => none

end Checking

end ConstraintSet

/-- The rules of a field without regard to other fields. -/
structure CompiledRules where
  constraints : ConstraintSet
  isRequired : Bool
  deriving DecidableEq

def CompiledRules.add (language : PatternLanguage) (compiled : CompiledRules)
    (rule : ValidationRule) : CompiledRules :=
  ⟨compiled.constraints.add language rule, compiled.isRequired || rule.required = some true⟩

def compileRules (language : PatternLanguage) (rules : List ValidationRule) : CompiledRules :=
  rules.foldl (CompiledRules.add language) ⟨.empty, false⟩

section Dependent

def ValidationRule.isActive (source : ValueSource) (rule : ValidationRule) : Bool :=
  match rule.guard with
  | none => true
  | some guard =>
      match source guard.field with
      | some observed => guard.equals.Matches observed
      | none => false

/-- The rule under the text of the controlling field; the empty text chooses none. -/
def DynamicValidation.chosen (source : ValueSource) (dynamic : DynamicValidation) :
    Option PatternRule :=
  match source dynamic.dependsOn with
  | some (.text key) => if key.isEmpty then none else Keyed.find? key dynamic.rules
  | _ => none

/-- A rule that is not active is passed over. -/
def ConstraintSet.addActive (language : PatternLanguage) (source : ValueSource)
    (constraints : ConstraintSet) (rule : ValidationRule) : ConstraintSet :=
  if rule.isActive source then constraints.add language rule else constraints

def compileDependent (language : PatternLanguage) (rules : List ValidationRule)
    (dynamic : Option DynamicValidation) (source : ValueSource) : ConstraintSet :=
  let constraints := rules.foldl (ConstraintSet.addActive language source) .empty
  match dynamic.bind (DynamicValidation.chosen source) with
  | some rule =>
      { constraints with
        pattern := (ConstraintSet.patternSlot language rule.pattern rule.message).or
          constraints.pattern }
  | none => constraints

/-- Every field that the rules may read, once, in the order of the rules. -/
def referencedFields (rules : List ValidationRule) (dynamic : Option DynamicValidation) :
    List String :=
  let guarded := rules.filterMap fun rule => rule.guard.map RuleGuard.field
  let controlling := (dynamic.map DynamicValidation.dependsOn).toList
  (guarded ++ controlling).foldl
    (fun fields field =>
      if field.isEmpty || fields.contains field then fields else fields ++ [field]) []

end Dependent

structure FieldConstraints where
  rules : List ValidationRule
  dynamic : Option DynamicValidation
  referenced : List String
  observed : List (Option FormValue)
  constraints : ConstraintSet

namespace FieldConstraints

variable (language : PatternLanguage)

def create (rules : List ValidationRule) (dynamic : Option DynamicValidation)
    (source : ValueSource) : FieldConstraints :=
  let referenced := referencedFields rules dynamic
  { rules, dynamic, referenced
    observed := referenced.map source
    constraints := compileDependent language rules dynamic source }

def ofField (field : Field) (source : ValueSource) : FieldConstraints :=
  create language (field.info.validations.getD []) field.dynamicValidation source

/-- The constraints for the present values, and whether they had to be compiled. -/
def refresh (source : ValueSource) (held : FieldConstraints) : FieldConstraints × Bool :=
  let observed := held.referenced.map source
  if observed = held.observed then (held, false)
  else
    ({ held with
        observed
        constraints := compileDependent language held.rules held.dynamic source }, true)

end FieldConstraints

end FormEngine
