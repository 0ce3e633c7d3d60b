import LoRaNetwork.Octets

/-!
The block cipher AES with a key of 128 bits. A byte is a polynomial over the field of two elements
modulo x⁸ + x⁴ + x³ + x + 1. The substitution box is not a table of constants: each entry is the
inverse of its index in that field, carried through a fixed linear map. A block is held column by
column, so place `4 * c + r` is row `r` of column `c`.
-/

namespace LoRaNetwork.Cipher

abbrev Block := Octets 16

/-- Multiplication by x in the field of the cipher. -/
def double (byte : UInt8) : UInt8 :=
  if byte &&& 0x80 = 0 then byte <<< 1 else (byte <<< 1) ^^^ 0x1B

/-- Sum of the first `count` shifted copies of `a` that the bits of `b` select. -/
def multiplyBits : Nat → UInt8 → UInt8 → UInt8
  | 0, _, _ => 0
  | count + 1, a, b =>
    (if b &&& 1 = 0 then 0 else a) ^^^ multiplyBits count (double a) (b >>> 1)

/-- Multiplication in the field of the cipher. -/
def multiply (a b : UInt8) : UInt8 :=
  multiplyBits 8 a b

/-- The inverse of a nonzero byte, and zero for zero: the power 254 = 2 + 4 + ⋯ + 128. -/
def inverse (byte : UInt8) : UInt8 :=
  let powers := (List.range 7).foldl
    (fun (square, product) _ =>
      let square := multiply square square
      (square, multiply product square))
    (byte, 1)
  powers.2

/-- A byte turned left by a number of bits. -/
def rotate (byte : UInt8) (bits : UInt8) : UInt8 :=
  (byte <<< bits) ||| (byte >>> (8 - bits))

def substitution (byte : UInt8) : UInt8 :=
  let b := inverse byte
  b ^^^ rotate b 1 ^^^ rotate b 2 ^^^ rotate b 3 ^^^ rotate b 4 ^^^ 0x63

/-- The substitution box, computed once. -/
def substitutionBox : Vector UInt8 256 :=
  Vector.ofFn fun index => substitution (UInt8.ofNat index)

def substitute (byte : UInt8) : UInt8 :=
  substitutionBox.get byte.toFin

def substituteBytes (block : Block) : Block :=
  .ofFn fun i => substitute (block.get i)

/-- Turns row `r` left by `r` places. -/
def shiftRows (block : Block) : Block :=
  .ofFn fun i => block.get (Fin.ofNat 16 (i.val + 4 * (i.val % 4)))

/-- The byte `rows` below place `i` in the same column, turning around at the end. -/
def inColumn (block : Block) (i : Fin 16) (rows : Nat) : UInt8 :=
  block.get (Fin.ofNat 16 (i.val / 4 * 4 + (i.val + rows) % 4))

/-- Multiplies each column by the polynomial 3x³ + x² + x + 2. -/
def mixColumns (block : Block) : Block :=
  .ofFn fun i =>
    double (inColumn block i 0) ^^^ (double (inColumn block i 1) ^^^ inColumn block i 1) ^^^
      inColumn block i 2 ^^^ inColumn block i 3

/-- The next round key: the last column, turned, substituted and marked with the round's constant,
is added to the first column, and each further column adds the new one before it. -/
def nextRoundKey (constant : UInt8) (key : Block) : Block :=
  .ofFn fun i =>
    let row := i.val % 4
    let start := substitute (key.get (Fin.ofNat 16 (12 + (row + 1) % 4))) ^^^
      (if row = 0 then constant else 0)
    (List.range (i.val / 4 + 1)).foldl
      (fun sum column => sum ^^^ key.get (Fin.ofNat 16 (4 * column + row))) start

/-- The rounds that are left: `count` full ones, then the last, which does not mix columns. -/
def rounds : Nat → UInt8 → Block → Block → Block
  | 0, constant, key, block =>
    (shiftRows (substituteBytes block)).xor (nextRoundKey constant key)
  | count + 1, constant, key, block =>
    let key := nextRoundKey constant key
    rounds count (double constant) key ((mixColumns (shiftRows (substituteBytes block))).xor key)

/-- The cipher: the key itself is added first, then ten rounds follow. -/
def encrypt (key block : Block) : Block :=
  rounds 9 1 key (block.xor key)

end LoRaNetwork.Cipher
