import ShareProvisioner.Text.Hexadecimal
import ShareProvisioner.Text.Printable

/-!
# Quoted texts

Messages show a text between quotes, with what cannot be seen written as an
escape.  Single quotes are used unless the text holds a single quote and no
double quote, so that the fewest escapes are needed.
-/

namespace ShareProvisioner.Text

def escaped (quote : Char) : CodePoint → Text
  | .char '\\' => "\\\\"
  | .char '\n' => "\\n"
  | .char '\r' => "\\r"
  | .char '\t' => "\\t"
  | codePoint =>
      if codePoint = .char quote then ['\\', codePoint]
      else if codePoint.isPrintable then [codePoint]
      else if codePoint.toNat < 0x100 then "\\x" ++ hexadecimal 2 codePoint.toNat
      else if codePoint.toNat < 0x10000 then "\\u" ++ hexadecimal 4 codePoint.toNat
      else "\\U" ++ hexadecimal 8 codePoint.toNat

def quoteFor (text : Text) : Char :=
  if text.contains (CodePoint.char '\'') && !text.contains (CodePoint.char '"') then '"' else '\''

def quoted (text : Text) : Text :=
  let quote := quoteFor text
  .char quote :: text.flatMap (escaped quote) ++ [.char quote]

example : quoted (ofString "it's") = ofString "\"it's\"" := by decide
example : quoted (ofString "a\u200b\t") = ofString "'a\\u200b\\t'" := by decide +kernel

end ShareProvisioner.Text
