import ScalpBot.Web.Percent

/-!
# Form bodies

`Form.encode` writes named values as a form body: `&` between the pairs, `=` within them, a blank as
`+`, and all bytes but letters, digits and `* - . _` as `%` and two digits. `Form.decode` reads a body.
-/

namespace ScalpBot

namespace Form

/-- The media type of a form body. -/
def mediaType : String := "application/x-www-form-urlencoded"

/-- Whether a character stands for itself. -/
def keeps (c : Char) : Bool :=
  c.isAlphanum || c = '*' || c = '-' || c = '.' || c = '_'

/-- A character of a name or a value. -/
def encodeChar (c : Char) : List Char :=
  if c = ' ' then ['+']
  else if keeps c then [c]
  else (String.utf8EncodeChar c).flatMap Percent.encodeByte

/-- A name or a value. -/
def encodeText (text : String) : List Char := text.toList.flatMap encodeChar

/-- The pairs after the first or from the first on. -/
def encodePairs (first : Bool) : List (String × String) → List Char
  | [] => []
  | (name, value) :: rest =>
    (if first then [] else ['&']) ++ encodeText name ++ '=' :: encodeText value
      ++ encodePairs false rest

/-- The body of these pairs. -/
def encode (pairs : List (String × String)) : String := String.ofList (encodePairs true pairs)

/-! ## Reading -/

/-- A name or a value of a body; nothing if its bytes are no text. -/
def decodeText (cs : List Char) : Option String :=
  String.fromUTF8? ⟨(Percent.decode (cs.map fun c => if c = '+' then ' ' else c)).toArray⟩

/-- A pair of a body. Without an equals sign all is the name. -/
def decodePair (cs : List Char) : Option (String × String) := do
  let name ← decodeText (cs.takeWhile (· ≠ '='))
  let value ← decodeText ((cs.dropWhile (· ≠ '=')).drop 1)
  return (name, value)

/-- The pairs of a body, in order; nothing if it holds bytes that are no text. -/
def decode (body : String) : Option (List (String × String)) :=
  ((body.toList.splitOn '&').filter (!·.isEmpty)).mapM decodePair

end Form

end ScalpBot
