import FormEngine.Form.Constraints
import FormEngine.Pattern.Matcher
import FormEngine.Pattern.Program
import FormEngine.Pattern.Reader

/-!
The pattern language of form schemas: texts that can be read as patterns and whose programs stay
within a size limit, tried at every place of a text.
-/

namespace FormEngine.Pattern

def compile? (text : String) : Option Pattern := (read? text).filter hasPrograms

/-- Only patterns that are accepted are tried, so their size is not measured again. -/
def language : PatternLanguage where
  accepts pattern := (compile? pattern).isSome
  matchesText pattern text :=
    match read? pattern with
    | some found => found.matchesChars text.toList
    | none => false

end FormEngine.Pattern
