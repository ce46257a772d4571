/-!
# Bytes

Everything that crosses the line, every file and every argument is a list of octets.
-/

namespace BaudSwitch

abbrev Bytes := List UInt8

namespace Bytes

/-- The octets of a text that is known to be ASCII. -/
def ascii (text : String) : Bytes :=
  text.toList.map fun character => character.toNat.toUInt8

end Bytes

end BaudSwitch
