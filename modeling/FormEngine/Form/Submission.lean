import FormEngine.Form.Visibility

/-!
The values of a submission: those of the visible fields, and nothing else. Visibility is always
judged against the whole tree of values; a group stays only if something below it does.
-/

namespace FormEngine.Field

mutual
-- `level` holds the values beside the field and `root` all of them.
def keepVisible (root level kept : FormValues) : Field → FormValues
  | .leaf info _ =>
      if isVisible info.visibility root.source then
        match Keyed.find? info.id level with
        | some value => Keyed.insert info.id value kept
        | none => kept
      else kept
  | .group info _ fields =>
      if isVisible info.visibility root.source then
        match Keyed.find? info.id level with
        | some (.group entries) =>
            let nested := keepVisibleAll root entries FormValues.empty fields
            if nested.isEmpty then kept else Keyed.insert info.id (.group nested) kept
        | _ => kept
      else kept

def keepVisibleAll (root level kept : FormValues) : List Field → FormValues
  | [] => kept
  | field :: rest => keepVisibleAll root level (keepVisible root level kept field) rest
end

def submission (fields : List Field) (values : FormValues) : FormValues :=
  keepVisibleAll values values FormValues.empty fields

end FormEngine.Field
