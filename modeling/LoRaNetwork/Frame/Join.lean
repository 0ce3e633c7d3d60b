import LoRaNetwork.Address
import LoRaNetwork.Frame.Error

/-!
The two payloads of joining a network. A device asks with a payload of fixed length; the network
accepts with one of fixed length too, which a list of five channels may follow. The acceptance is
in the clear here, whoever holds the application's key encrypts it.
-/

namespace LoRaNetwork

structure JoinRequest where
  appEui : Eui
  devEui : Eui
  /-- Two bytes that the device does not use twice, most significant first. -/
  nonce : Octets 2
  deriving DecidableEq

namespace JoinRequest

def size : Nat := 18

/-- Each part least significant byte first. -/
def encode (request : JoinRequest) : List UInt8 :=
  request.appEui.octets.reverse.toList ++ request.devEui.octets.reverse.toList ++
    request.nonce.reverse.toList

/-- Accepts every payload of the right length. -/
def decode (body : List UInt8) : Except FrameError JoinRequest :=
  if body.length < size then .error (.tooShort size body.length)
  else if exact : body.length = size then
    .ok {
      appEui := ⟨(Octets.slice body 0 8 (by simp only [exact, size]; omega)).reverse⟩
      devEui := ⟨(Octets.slice body 8 8 (by simp only [exact, size]; omega)).reverse⟩
      nonce := (Octets.slice body 16 2 (by simp only [exact, size]; omega)).reverse }
  else .error (.invalidLength size body.length)

end JoinRequest

/-- How a device is to listen after it has sent. -/
structure DownlinkSettings where
  /-- The data rate of the second window; four bits in a frame. -/
  rx2DataRate : UInt8
  /-- The offset of the data rate of the first window; three bits in a frame. -/
  rx1DataRateOffset : UInt8
  deriving DecidableEq

namespace DownlinkSettings

/-- One byte, if both values fit their bits. -/
def encode (settings : DownlinkSettings) : Except FrameError UInt8 :=
  if 0x0F < settings.rx2DataRate then
    .error (.fieldOutOfRange .rx2DataRate settings.rx2DataRate.toUInt32)
  else if 0x07 < settings.rx1DataRateOffset then
    .error (.fieldOutOfRange .rx1DataRateOffset settings.rx1DataRateOffset.toUInt32)
  else .ok (settings.rx1DataRateOffset <<< 4 ||| settings.rx2DataRate)

/-- The highest bit is reserved and ignored. -/
def decode (byte : UInt8) : DownlinkSettings where
  rx2DataRate := byte &&& 0x0F
  rx1DataRateOffset := (byte >>> 4) &&& 0x07

end DownlinkSettings

/-- The frequencies of five further channels, in hertz. -/
structure ChannelList where
  frequencies : List UInt32
  length_frequencies : frequencies.length = 5
  deriving DecidableEq

namespace ChannelList

/-- The length of the list in a frame: three bytes a channel and one that is reserved. -/
def size : Nat := 16

/-- A list of exactly five frequencies. -/
def ofList? (frequencies : List UInt32) : Option ChannelList :=
  if five : frequencies.length = 5 then some ⟨frequencies, five⟩ else none

@[ext]
theorem ext {a b : ChannelList} (same : a.frequencies = b.frequencies) : a = b := by
  cases a
  cases b
  cases same
  rfl

/-- Frequencies in units of 100 Hz, three bytes each. The first one that does not fit is named. -/
def encodeFrequencies : List UInt32 → Except FrameError (List UInt8)
  | [] => .ok []
  | frequency :: rest =>
    if 0xFFFFFF < frequency / 100 then .error (.fieldOutOfRange .channelList frequency)
    else do
      let bytes ← encodeFrequencies rest
      .ok (littleEndian 3 (frequency / 100) ++ bytes)

/-- The frequencies and a zero byte. -/
def encode (channels : ChannelList) : Except FrameError (List UInt8) := do
  let bytes ← encodeFrequencies channels.frequencies
  .ok (bytes ++ [0])

/-- No list means no bytes. -/
def encode? : Option ChannelList → Except FrameError (List UInt8)
  | none => .ok []
  | some channels => channels.encode

/-- The reserved byte is ignored. -/
def ofOctets (octets : Octets 16) : ChannelList where
  frequencies := List.ofFn fun i : Fin 5 =>
    ofLittleEndian (Octets.slice octets.toList (3 * i.val) 3
      (by rw [octets.length_toList]; omega)).toList * 100
  length_frequencies := List.length_ofFn

/-- No bytes mean no list, sixteen mean a list. -/
def decode? (bytes : List UInt8) : Except FrameError (Option ChannelList) :=
  if bytes = [] then .ok none
  else if exact : bytes.length = size then .ok (some (ofOctets ⟨bytes, exact⟩))
  else .error (.invalidChannelList bytes.length)

end ChannelList

/-- The network accepts a device. -/
structure JoinAccept where
  /-- Three bytes that the network does not use twice, most significant first. -/
  nonce : Octets 3
  netId : NetId
  address : Address
  settings : DownlinkSettings
  /-- Seconds until the first window; four bits in a frame. -/
  delay : UInt8
  channels : Option ChannelList
  deriving DecidableEq

namespace JoinAccept

/-- The length of the payload without channels. -/
def size : Nat := 12

/-- The delay is looked at first, then the settings, then the channels. -/
def encode (accept : JoinAccept) : Except FrameError (List UInt8) :=
  if 0x0F < accept.delay then .error (.fieldOutOfRange .rxDelay accept.delay.toUInt32)
  else do
    let settings ← accept.settings.encode
    let channels ← ChannelList.encode? accept.channels
    .ok (accept.nonce.reverse.toList ++ accept.netId.octets.reverse.toList ++
      littleEndian 4 accept.address.word ++ [settings, accept.delay] ++ channels)

/-- Reserved bits are ignored. -/
def decode (body : List UInt8) : Except FrameError JoinAccept :=
  if enough : size ≤ body.length then do
    let fixed := Octets.slice body 0 12 (by simp only [size] at enough; omega)
    let channels ← ChannelList.decode? (body.drop size)
    .ok {
      nonce := (Octets.slice body 0 3 (by simp only [size] at enough; omega)).reverse
      netId := ⟨(Octets.slice body 3 3 (by simp only [size] at enough; omega)).reverse⟩
      address := ⟨ofLittleEndian
        (Octets.slice body 6 4 (by simp only [size] at enough; omega)).toList⟩
      settings := .decode fixed[10]
      delay := fixed[11] &&& 0x0F
      channels := channels }
  else .error (.tooShort size body.length)

end JoinAccept

end LoRaNetwork
