/-!
# Bytes

## Main definitions

* `Bytes` — the contents of files, streams and images.
* `Bytes.utf8`, `Bytes.text?` — the bytes of a text, and the text of bytes.
-/

namespace CellScript

abbrev Bytes := List UInt8

namespace Bytes

def utf8 (s : String) : Bytes :=
  s.toUTF8.toList

/-- The text of bytes, when they are valid. -/
def text? (bytes : Bytes) : Option String :=
  String.fromUTF8? ⟨bytes.toArray⟩

end Bytes

end CellScript
