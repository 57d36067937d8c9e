import ShareProvisioner.Json.Value

/-!
# Writing JSON

A value is written without white space and in ASCII: a text is escaped wherever its
code points are no visible ASCII characters, those above `0xFFFF` as two surrogates.
-/

namespace ShareProvisioner.Json

def unicodeEscape (number : Nat) : Text :=
  "\\u" ++ Text.hexadecimal 4 number

def writeCodePoint (codePoint : CodePoint) : Text :=
  if codePoint = .char '"' then "\\\""
  else if codePoint = .char '\\' then "\\\\"
  else if 0x20 ≤ codePoint.toNat && codePoint.toNat < 0x7F then [codePoint]
  else if codePoint.toNat < 0x10000 then unicodeEscape codePoint.toNat
  else
    unicodeEscape (0xD800 + (codePoint.toNat - 0x10000) / 0x400)
      ++ unicodeEscape (0xDC00 + (codePoint.toNat - 0x10000) % 0x400)

def writeText (value : Text) : Text :=
  .char '"' :: value.flatMap writeCodePoint ++ [.char '"']

def writeFloat : Binary64 → Text
  | .infinity negative => if negative then "-Infinity" else "Infinity"
  | .nan => "NaN"
  | value => value.display

mutual

def write : Json → Text
  | null => "null"
  | bool value => if value then "true" else "false"
  | integer value => Text.ofInt value
  | float value => writeFloat value
  | text value => writeText value
  | array items => "[" ++ Text.join "," (writeItems items) ++ "]"
  | object members => "\x7b" ++ Text.join "," (writeMembers members) ++ "\x7d"

def writeItems : List Json → List Text
  | [] => []
  | item :: items => write item :: writeItems items

def writeMembers : List (Text × Json) → List Text
  | [] => []
  | (name, value) :: members => (writeText name ++ ":" ++ write value) :: writeMembers members

end

end ShareProvisioner.Json
