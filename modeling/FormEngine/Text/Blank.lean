/-!
Blank characters, which are those with the Unicode property White_Space, and text without the blanks
around it.
-/

namespace FormEngine.Text

def isBlank (char : Char) : Bool :=
  let code := char.toNat
  (9 ≤ code && code ≤ 13) || code == 0x20 || code == 0x85 || code == 0xA0 || code == 0x1680 ||
    (0x2000 ≤ code && code ≤ 0x200A) || code == 0x2028 || code == 0x2029 || code == 0x202F ||
    code == 0x205F || code == 0x3000

def trimChars (chars : List Char) : List Char :=
  ((chars.dropWhile isBlank).reverse.dropWhile isBlank).reverse

def trim (text : String) : String := String.ofList (trimChars text.toList)

/-- Nothing is left of a blank text once it is trimmed. -/
def isBlankText (text : String) : Bool := text.toList.all isBlank

end FormEngine.Text
