/-!
Characters that only separate others: the property White_Space.
-/

namespace LoRaNetwork.Text

/-- Whether a character is white space. -/
def isBlank (c : Char) : Bool :=
  let code := c.toNat
  (9 ≤ code && code ≤ 13) || code == 0x20 || code == 0x85 || code == 0xa0 || code == 0x1680 ||
    (0x2000 ≤ code && code ≤ 0x200a) || code == 0x2028 || code == 0x2029 || code == 0x202f ||
    code == 0x205f || code == 0x3000

/-- Drops white space from the front. -/
def dropBlank (input : List Char) : List Char :=
  input.dropWhile isBlank

end LoRaNetwork.Text
