/-!
Byte strings whose length is part of their type. Identifiers, keys and nonces are held most
significant byte first, the way people write them, and travel in the opposite order; `reverse` is
the one step between a value and its place in a frame.
-/

namespace LoRaNetwork

/-- A string of exactly `n` bytes. -/
structure Octets (n : Nat) where
  /-- The bytes, most significant first. -/
  toList : List UInt8
  length_toList : toList.length = n
  deriving DecidableEq

namespace Octets

variable {n : Nat}

attribute [simp] length_toList

@[ext]
theorem ext {a b : Octets n} (same : a.toList = b.toList) : a = b := by
  cases a
  cases b
  cases same
  rfl

instance : GetElem (Octets n) Nat UInt8 (fun _ i => i < n) where
  getElem octets i inside := octets.toList.get ⟨i, by rw [octets.length_toList]; exact inside⟩

/-- The string whose byte at place `i` is `f i`. -/
def ofFn (f : Fin n → UInt8) : Octets n :=
  ⟨List.ofFn f, List.length_ofFn⟩

def get (octets : Octets n) (i : Fin n) : UInt8 :=
  octets.toList.get ⟨i, by rw [octets.length_toList]; exact i.isLt⟩

def zero (n : Nat) : Octets n :=
  ⟨List.replicate n 0, List.length_replicate⟩

def xor (a b : Octets n) : Octets n :=
  ⟨List.zipWith (· ^^^ ·) a.toList b.toList, by
    rw [List.length_zipWith, a.length_toList, b.length_toList, Nat.min_self]⟩

/-- The same bytes in the opposite order. -/
def reverse (octets : Octets n) : Octets n :=
  ⟨octets.toList.reverse, by rw [List.length_reverse, octets.length_toList]⟩

@[simp]
theorem reverse_reverse (octets : Octets n) : octets.reverse.reverse = octets :=
  ext (List.reverse_reverse octets.toList)

/-- A byte list of the right length, or nothing. -/
def ofList? (bytes : List UInt8) : Option (Octets n) :=
  if same : bytes.length = n then some ⟨bytes, same⟩ else none

@[simp]
theorem ofList?_toList (octets : Octets n) : ofList? octets.toList = some octets := by
  simp [ofList?, octets.length_toList]

/-- The `n` bytes that start at `start`. -/
def slice (bytes : List UInt8) (start n : Nat) (inside : start + n ≤ bytes.length) : Octets n :=
  ⟨(bytes.drop start).take n, by rw [List.length_take, List.length_drop]; omega⟩

@[simp]
theorem toList_slice (bytes : List UInt8) (start n : Nat) (inside : start + n ≤ bytes.length) :
    (slice bytes start n inside).toList = (bytes.drop start).take n := rfl

/-- A piece of a longer byte string stands where the bytes before it end. -/
theorem slice_eq {bytes before after : List UInt8} {piece : Octets n} {start : Nat}
    (layout : bytes = before ++ (piece.toList ++ after)) (place : before.length = start)
    (inside : start + n ≤ bytes.length) : slice bytes start n inside = piece := by
  subst layout place
  apply ext
  rw [toList_slice, List.drop_left, List.take_left' piece.length_toList]

/-- A byte string from some place on is a piece of it and the rest. -/
theorem toList_slice_append_drop (bytes : List UInt8) (start n : Nat)
    (inside : start + n ≤ bytes.length) :
    (slice bytes start n inside).toList ++ bytes.drop (start + n) = bytes.drop start := by
  rw [toList_slice, ← List.drop_drop, List.take_append_drop]

theorem getElem_slice (bytes : List UInt8) (start n i : Nat) (inside : start + n ≤ bytes.length)
    (bound : i < n) : (slice bytes start n inside)[i] = bytes[start + i] := by
  change ((bytes.drop start).take n).get ⟨i, _⟩ = _
  rw [List.get_eq_getElem, List.getElem_take, List.getElem_drop]

instance : Inhabited (Octets n) := ⟨zero n⟩

end Octets

end LoRaNetwork
