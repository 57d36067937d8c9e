import ShareProvisioner.Json.Reader
import ShareProvisioner.Text.Utf16

/-!
# Documents as octets

A document sent as octets may be in UTF-8, UTF-16 or UTF-32.  A byte order mark names
the encoding; without one, the zero octets among the first four do, since the first
characters of a document are ASCII.
-/

namespace ShareProvisioner.Json

/-- The text of a document, if its octets fit the encoding they show. -/
def decode? : Octets → Option Text
  | 0x00 :: 0x00 :: 0xFE :: 0xFF :: rest => Text.ofUtf32? true rest
  | 0xFF :: 0xFE :: 0x00 :: 0x00 :: rest => Text.ofUtf32? false rest
  | 0xFE :: 0xFF :: rest => Text.ofUtf16? true rest
  | 0xFF :: 0xFE :: rest => Text.ofUtf16? false rest
  | 0xEF :: 0xBB :: 0xBF :: rest => Text.ofUtf8? rest
  | octets =>
      match octets with
      | first :: second :: third :: fourth :: _ =>
          if first = 0 then
            if second = 0 then Text.ofUtf32? true octets else Text.ofUtf16? true octets
          else if second = 0 then
            if third = 0 && fourth = 0 then Text.ofUtf32? false octets
            else Text.ofUtf16? false octets
          else Text.ofUtf8? octets
      | [first, second] =>
          if first = 0 then Text.ofUtf16? true octets
          else if second = 0 then Text.ofUtf16? false octets
          else Text.ofUtf8? octets
      | _ => Text.ofUtf8? octets

end ShareProvisioner.Json
