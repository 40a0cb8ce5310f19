import FormEngine.Schema.Basic

/-!
Initial values. A leaf starts with its declared default, and a group only where some leaf below it
has one. Values of a saved session replace whole top-level entries.
-/

namespace FormEngine

mutual
def Field.addDefault (values : FormValues) : Field → FormValues
  | .leaf info _ =>
      match info.default with
      | some default => Keyed.insert info.id default.toValue values
      | none => values
  | .group info _ fields =>
      let nested := Field.addDefaults FormValues.empty fields
      if nested.isEmpty then values else Keyed.insert info.id (.group nested) values

/-- Of two fields under one id the later one with a value wins. -/
def Field.addDefaults (values : FormValues) : List Field → FormValues
  | [] => values
  | field :: rest => Field.addDefaults (Field.addDefault values field) rest
end

def Field.defaultValues (fields : List Field) : FormValues :=
  Field.addDefaults FormValues.empty fields

def FormValues.mergeSaved (defaults : FormValues) : Option FormValues → FormValues
  | some saved => defaults.mergedWith saved
  | none => defaults

end FormEngine
