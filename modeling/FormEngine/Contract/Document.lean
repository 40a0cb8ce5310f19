import FormEngine.Contract.Basic

/-!
A contract written down as a JSON Schema document, draft 2020-12.
-/

namespace FormEngine.Contract

def textItems (texts : List String) : Json := .arr (texts.map .str)

def tagDocument : TagGuard → Json
  | .oneOf tags => .ofMembers [("enum", textItems tags)]
  | .noneOf tags => .ofMembers [("not", .ofMembers [("enum", textItems tags)])]

def guardDocument (guard : TagGuard) : Json :=
  .ofMembers [("properties", .ofMembers [("type", tagDocument guard)]),
    ("required", textItems ["type"])]

mutual
def document : Contract → Json
  | .never => .bool false
  | .node keywords => .ofMembers (keywordMembers keywords)

def keywordMembers : List Keyword → List (String × Json)
  | [] => []
  | keyword :: rest => keywordMember keyword ++ keywordMembers rest

def keywordMember : Keyword → List (String × Json)
  | .types [kind] => [("type", .str kind.name)]
  | .types kinds => [("type", textItems (kinds.map Json.Kind.name))]
  | .constants texts => [("enum", textItems texts)]
  | .notNegative => [("minimum", .ofNat 0)]
  | .minLength length => [("minLength", .ofNat length)]
  | .minItems count => [("minItems", .ofNat count)]
  | .required names => [("required", textItems names)]
  | .segment => [("pattern", .str "^[^.]+$")]
  | .properties true known =>
      [("additionalProperties", .bool false), ("properties", .ofMembers (knownDocuments known))]
  | .properties false known => [("properties", .ofMembers (knownDocuments known))]
  | .everyMember value => [("additionalProperties", document value)]
  | .items item => [("items", document item)]
  | .all parts => [("allOf", .arr (partDocuments parts))]
  | .exactlyOne options => [("oneOf", .arr (partDocuments options))]
  | .tagged guard consequence =>
      [("if", guardDocument guard), ("then", document consequence)]
  | .definition name => [("$ref", .str ("#/$defs/" ++ name))]

def knownDocuments : List (String × Contract) → List (String × Json)
  | [] => []
  | (name, contract) :: rest => (name, document contract) :: knownDocuments rest

def partDocuments : List Contract → List Json
  | [] => []
  | part :: rest => document part :: partDocuments rest
end

/-- The members of a whole document: its title, its definitions and the contract itself. -/
def titledDocument (title : String) (definitions : List (String × Contract))
    (keywords : List Keyword) : Json :=
  .ofMembers ([("$schema", .str "https://json-schema.org/draft/2020-12/schema"),
    ("title", .str title), ("$defs", .ofMembers (knownDocuments definitions))] ++
    keywordMembers keywords)

end FormEngine.Contract
