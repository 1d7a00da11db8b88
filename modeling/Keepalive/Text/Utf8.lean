import Keepalive.Bytes

/-!
# Text as bytes

Files hold bytes; a text is read from them only when they are UTF-8 throughout.
-/

namespace Keepalive.Text

/-- The bytes of a text. -/
def utf8 (s : String) : Bytes := s.toUTF8.toList

/-- The text of a byte string, if it is one. -/
def ofUtf8? (b : Bytes) : Option String := String.fromUTF8? ⟨b.toArray⟩

end Keepalive.Text
