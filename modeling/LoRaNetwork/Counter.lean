import LoRaNetwork.Device

/-!
Frame counters. A device counts in 32 bits but a frame shows only the lower 16. The whole counter is
found again from the last one, on the assumption that fewer than 2¹⁶ frames were lost in between.
-/

namespace LoRaNetwork

/-- The first counter from `last` on, modulo 2³², whose lower half is `low`. -/
def wholeCounter (last : UInt32) (low : UInt16) : UInt32 :=
  let candidate := (last &&& 0xFFFF0000) ||| low.toUInt32
  if candidate < last then candidate + 0x10000 else candidate

/-- Whether the device may have sent an uplink with this counter. Only devices that are already
ahead of it are ruled out; several may be left. -/
def Device.maySend (device : Device) (counter : UInt32) : Bool :=
  device.options.uncheckedCounter ||
    decide (device.counterUp ≤ counter) ||
    (device.options.wideCounter &&
      decide (device.counterUp ≤ wholeCounter device.counterUp counter.toUInt16))

end LoRaNetwork
