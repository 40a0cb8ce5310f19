import FormEngine.Pattern.CharClass

/-!
Characters as bytes. The UTF-8 forms of the characters of a span fall into sequences of byte spans:
a text of bytes belongs to a sequence when each byte lies in the span at its place. The sequences
of a class are in the order of its characters.
-/

namespace FormEngine.Pattern

structure ByteSpan where
  first : Nat
  last : Nat
  deriving DecidableEq

section Encoding

def continuation (code : Nat) : Nat := 0x80 + code % 64

def utf8 (code : Nat) : List Nat :=
  if code < 0x80 then [code]
  else if code < 0x800 then [0xC0 + code / 64, continuation code]
  else if code < 0x10000 then
    [0xE0 + code / 4096, continuation (code / 64), continuation code]
  else
    [0xF0 + code / 262144, continuation (code / 4096), continuation (code / 64), continuation code]

def utf8Text (text : List Char) : List Nat := text.flatMap fun char => utf8 char.toNat

end Encoding

section Splitting

/-- A span is divided into the codes below and those from the given one on. -/
def splitAtLength (span : CodeSpan) : Option Nat :=
  [0x80, 0x800, 0x10000].find? fun code => span.first < code && code ≤ span.last

/-- The codes of one length whose higher bytes differ are divided until all continuation bytes range
freely below the first that differs. -/
def splitAtBlock (span : CodeSpan) : Option Nat :=
  [64, 4096, 262144].findSome? fun block =>
    if span.first / block = span.last / block then none
    else if span.first % block ≠ 0 then some ((span.first / block + 1) * block)
    else if span.last % block ≠ block - 1 then some (span.last / block * block)
    else none

def byteSpans (span : CodeSpan) : List ByteSpan :=
  (utf8 span.first).zipWith ByteSpan.mk (utf8 span.last)

/-- The sequences for a span; `fuel` bounds how often it is divided. -/
def sequencesOf (fuel : Nat) (span : CodeSpan) : List (List ByteSpan) :=
  match fuel with
  | 0 => []
  | fuel + 1 =>
      let divided (left right : CodeSpan) := sequencesOf fuel left ++ sequencesOf fuel right
      if span.last < span.first then []
      else if span.first < 0xE000 ∧ 0xD7FF < span.last then
        divided ⟨span.first, 0xD7FF⟩ ⟨0xE000, span.last⟩
      else
        match splitAtLength span with
        | some code => divided ⟨span.first, code - 1⟩ ⟨code, span.last⟩
        | none =>
            if span.last < 0x80 then [byteSpans span]
            else
              match splitAtBlock span with
              | some code => divided ⟨span.first, code - 1⟩ ⟨code, span.last⟩
              | none => [byteSpans span]

/-- No span is divided this deep: there are the surrogates, three lengths and two ends of three
blocks. -/
def divisionDepth : Nat := 16

def CharClass.sequences (charClass : CharClass) : List (List ByteSpan) :=
  charClass.spans.flatMap (sequencesOf divisionDepth)

end Splitting

end FormEngine.Pattern
