import MeshSurvey.Json.Reader
import MeshSurvey.Wire.Message

/-!
# JSON in bytes

What comes over a network is bytes. They denote a JSON value when they are the UTF-8 encoding of a
text that does.
-/

namespace MeshSurvey.Json

/-- The value that bytes denote, with the last of several members of one name. -/
def ofBytes? (bytes : Wire.Bytes) : Option Json :=
  (Wire.Codec.textOfBytes? bytes).bind ofText?

/-- The value that bytes denote, with all members of objects as they are written. -/
def ofBytesAsWritten? (bytes : Wire.Bytes) : Option Json :=
  (Wire.Codec.textOfBytes? bytes).bind ofTextAsWritten?

end MeshSurvey.Json
