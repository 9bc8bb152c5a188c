/-!
# ASCII

The characters whose numbers fit into seven bits, and which are written as a
single octet.
-/

namespace PushRelay.Text

/-- Whether a character is one of ASCII. -/
def isAscii (c : Char) : Bool := c.toNat < 0x80

end PushRelay.Text
