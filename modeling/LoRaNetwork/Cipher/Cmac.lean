import LoRaNetwork.Cipher.Aes

/-!
A message authentication code from a block cipher. The message is cut into blocks that are chained
through the cipher; one of two values derived from the key marks whether the last block was full
or had to be padded, so that a padded message differs from one that ends in its padding.
-/

namespace LoRaNetwork.Cipher

/-- A block as a number shifted left by one bit, reduced modulo x¹²⁸ + x⁷ + x² + x + 1. -/
def doubleBlock (block : Block) : Block :=
  .ofFn fun i =>
    let shifted := block.get i <<< 1
    if last : i.val = 15 then
      if block[0] &&& 0x80 = 0 then shifted else shifted ^^^ 0x87
    else shifted ||| (block.get ⟨i.val + 1, by omega⟩ >>> 7)

/-- The sixteen bytes from `start` on, with zeros past the end. -/
def blockAt (bytes : List UInt8) (start : Nat) : Block :=
  .ofFn fun i => (bytes.drop start).getD i 0

/-- The block that ends the message. A full one is marked by the first derived value; a shorter
one is filled with a single set bit and zeros, and marked by the second. -/
def finalBlock (key : Block) (rest : List UInt8) : Block :=
  let first := doubleBlock (encrypt key (.zero 16))
  if rest.length = 16 then (blockAt rest 0).xor first
  else (blockAt (rest ++ [0x80]) 0).xor (doubleBlock first)

/-- The authentication code of a message. -/
def cmac (key : Block) (message : List UInt8) : Block :=
  let full := (message.length - 1) / 16
  let chained := (List.range full).foldl
    (fun state index => encrypt key (state.xor (blockAt message (16 * index)))) (.zero 16)
  encrypt key (chained.xor (finalBlock key (message.drop (16 * full))))

end LoRaNetwork.Cipher
