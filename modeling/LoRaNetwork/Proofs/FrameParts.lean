import LoRaNetwork.Frame
import LoRaNetwork.Proofs.Outcome

/-! The parts of a frame one by one. Each reader is described on bytes that are laid out piece by
piece, and every accepted byte string has such a layout; from the two follow both round trips of
the part. What a part loses on the way is said here too: the upper half of a counter, the remainder
of a frequency below 100 Hz, and the reserved bits. -/
namespace LoRaNetwork

theorem modify_append_left {before after : List UInt8} {place : Nat} (f : UInt8 → UInt8)
    (inside : place < before.length) :
    (before ++ after).modify place f = before.modify place f ++ after := by
  induction before generalizing place with
  | nil => exact absurd inside (Nat.not_lt_zero _)
  | cons byte before ih =>
    cases place with
    | zero => rfl
    | succ place =>
      rw [List.cons_append, List.modify_succ_cons, List.modify_succ_cons,
        ih (Nat.lt_of_succ_lt_succ inside), List.cons_append]

theorem modify_append_right {before after : List UInt8} {place : Nat} (f : UInt8 → UInt8)
    (past : before.length ≤ place) :
    (before ++ after).modify place f = before ++ after.modify (place - before.length) f := by
  induction before generalizing place with
  | nil => rfl
  | cons byte before ih =>
    cases place with
    | zero => exact absurd past (Nat.not_succ_le_zero _)
    | succ place =>
      rw [List.cons_append, List.modify_succ_cons, ih (Nat.le_of_succ_le_succ past),
        List.length_cons, Nat.add_sub_add_right, List.cons_append]

namespace FrameControl

/-- The flags and the number of commands share a byte without touching each other. -/
theorem decode_encode (control : FrameControl) {count : Nat} (short : count ≤ 15) :
    decode (control.encode count) = control ∧
      FrameHeader.commandBytes (control.encode count) = count := by
  have table : ∀ (rate request acknowledge pending : Bool) (count : Fin 16),
      let control : FrameControl := ⟨rate, request, acknowledge, pending⟩
      decode (control.encode count) = control ∧
        FrameHeader.commandBytes (control.encode count) = count := by
    decide +kernel
  exact table _ _ _ _ ⟨count, Nat.lt_succ_of_le short⟩

/-- No bit of the byte is reserved. -/
theorem encode_decode (byte : UInt8) :
    (decode byte).encode (FrameHeader.commandBytes byte) = byte := by
  have table : ∀ place : Fin 256, (decode (.ofFin place)).encode
      (FrameHeader.commandBytes (.ofFin place)) = .ofFin place := by
    decide +kernel
  exact table byte.toFin

end FrameControl

namespace FrameHeader

/-- The header as a receiver reads it: only the lower half of the counter is sent. -/
def received (header : FrameHeader) : FrameHeader :=
  { header with counter := header.counter % 65536 }

theorem length_encode (header : FrameHeader) :
    header.encode.length = size + header.options.bytes.length := by
  simp only [encode, size, List.length_append, length_littleEndian, List.length_cons,
    List.length_nil]

/-- A header of seven bytes is read as an address, a control byte and a counter, and the control
byte says how many of the bytes after it are commands. -/
theorem decode_eq (a b c d control low high : UInt8) (rest : List UInt8) :
    decode (a :: b :: c :: d :: control :: low :: high :: rest) =
      if rest.length + 7 < size + commandBytes control then
        .error (.tooShort (size + commandBytes control) (rest.length + 7))
      else .ok ({
        address := ⟨ofLittleEndian [a, b, c, d]⟩
        control := .decode control
        counter := ofLittleEndian [low, high]
        options := ⟨rest.take (commandBytes control), by
          rw [List.length_take]
          exact Nat.le_trans (Nat.min_le_left _ _) (commandBytes_le _)⟩ },
        rest.drop (commandBytes control)) := by
  have enough : size ≤ (a :: b :: c :: d :: control :: low :: high :: rest).length :=
    Nat.le_add_left 7 rest.length
  have after : (a :: b :: c :: d :: control :: low :: high :: rest).drop
      (size + commandBytes control) = rest.drop (commandBytes control) := by
    rw [Nat.add_comm]
    rfl
  rw [← after]
  exact dif_pos enough

/-- Whatever follows a written header is left over when it is read. -/
theorem decode_encode_append (header : FrameHeader) (rest : List UInt8) :
    decode (header.encode ++ rest) = .ok (header.received, rest) := by
  obtain ⟨address, control, counter, options, short⟩ := header
  obtain ⟨flags, count⟩ := control.decode_encode short
  have enough : ¬ (options ++ rest).length + 7 < size + options.length := by
    rw [List.length_append, size]
    omega
  have layout : encode ⟨address, control, counter, ⟨options, short⟩⟩ ++ rest =
      littleEndian 4 address.word ++ control.encode options.length ::
        (littleEndian 2 counter ++ (options ++ rest)) := by
    simp only [encode, List.append_assoc, List.cons_append, List.nil_append]
  rw [layout]
  change decode (_ :: _ :: _ :: _ :: _ :: _ :: _ :: (options ++ rest)) = _
  rw [decode_eq]
  simp only [count, enough, ↓reduceIte, flags, List.take_left, List.drop_left]
  have word : ofLittleEndian (littleEndian 4 address.word) = address.word :=
    ofLittleEndian_littleEndian_four _
  have half := ofLittleEndian_littleEndian_two counter
  simp only [littleEndian] at word half
  simp only [received, word, half]

theorem exists_header_bytes {body : List UInt8} (enough : size ≤ body.length) :
    ∃ a b c d control low high rest,
      body = a :: b :: c :: d :: control :: low :: high :: rest := by
  rcases body with
    _ | ⟨a, _ | ⟨b, _ | ⟨c, _ | ⟨d, _ | ⟨control, _ | ⟨low, _ | ⟨high, rest⟩⟩⟩⟩⟩⟩⟩
  case cons.cons.cons.cons.cons.cons.cons => exact ⟨a, b, c, d, control, low, high, rest, rfl⟩
  all_goals simp only [List.length_cons, List.length_nil, size] at enough; omega

/-- A header that was read is written with the same bytes, and it has nothing left to lose. -/
theorem encode_of_decode {body rest : List UInt8} {header : FrameHeader}
    (ran : decode body = .ok (header, rest)) :
    header.encode ++ rest = body ∧ header.received = header := by
  by_cases enough : size ≤ body.length
  · obtain ⟨a, b, c, d, control, low, high, tail, rfl⟩ := exists_header_bytes enough
    rw [decode_eq] at ran
    split at ran
    · cases ran
    · rename_i long
      cases ran
      have count : (tail.take (commandBytes control)).length = commandBytes control := by
        rw [List.length_take]
        rw [size] at long
        omega
      have word := littleEndian_ofLittleEndian [a, b, c, d] (by simp)
      have half := littleEndian_ofLittleEndian [low, high] (by simp)
      constructor
      · simp only [List.length_cons, List.length_nil] at word half
        simp only [encode, word, half, count, FrameControl.encode_decode,
          List.take_append_drop, List.cons_append, List.nil_append]
      · simp only [received, FrameHeader.mk.injEq, true_and, and_true]
        apply UInt32.toNat_inj.mp
        exact Nat.mod_eq_of_lt (toNat_ofLittleEndian_lt [low, high] (by simp))
  · rw [decode, dif_neg enough] at ran
    cases ran

end FrameHeader

namespace DataPayload

/-- The payload as a receiver reads it. -/
def received (payload : DataPayload) : DataPayload :=
  { payload with header := payload.header.received }

/-- Application data is written only behind a port. -/
theorem encode_eq_ok_iff {payload : DataPayload} {body : List UInt8} :
    payload.encode = .ok body ↔
      (payload.port = none → payload.content = []) ∧
        body = payload.header.encode ++ (payload.port.toList ++ payload.content) := by
  obtain ⟨header, port, content⟩ := payload
  cases port with
  | none =>
    by_cases bare : content = []
    · simp [encode, bare, eq_comm]
    · simp [encode, bare]
  | some port => simp [encode, eq_comm]

theorem decode_of_encode {payload : DataPayload} {body : List UInt8}
    (wrote : payload.encode = .ok body) : decode body = .ok payload.received := by
  obtain ⟨bare, rfl⟩ := encode_eq_ok_iff.mp wrote
  obtain ⟨header, port, content⟩ := payload
  cases port with
  | none =>
    cases bare rfl
    simp only [decode, FrameHeader.decode_encode_append]
    rfl
  | some port =>
    simp only [decode, FrameHeader.decode_encode_append]
    rfl

theorem encode_of_decode {payload : DataPayload} {body : List UInt8}
    (ran : decode body = .ok payload) :
    payload.encode = .ok body ∧ payload.received = payload := by
  rw [decode] at ran
  obtain ⟨⟨header, rest⟩, first, carried⟩ := bind_eq_ok_iff.mp ran
  obtain ⟨rfl, settled⟩ := FrameHeader.encode_of_decode first
  cases rest with
  | nil =>
    cases carried
    simp [encode, received, settled]
  | cons port content =>
    cases carried
    simp [encode, received, settled]

end DataPayload

namespace JoinRequest

theorem length_encode (request : JoinRequest) : request.encode.length = size := by
  simp only [encode, List.length_append, Octets.length_toList, size]

theorem decode_encode (request : JoinRequest) : decode request.encode = .ok request := by
  have layout : request.encode = request.appEui.octets.reverse.toList ++
      (request.devEui.octets.reverse.toList ++ (request.nonce.reverse.toList ++ [])) := by
    simp only [encode, List.append_assoc, List.append_nil]
  have appEui : ∀ inside, Octets.slice request.encode 0 8 inside =
      request.appEui.octets.reverse :=
    Octets.slice_eq (layout.trans (List.nil_append _).symm) rfl
  have devEui : ∀ inside, Octets.slice request.encode 8 8 inside =
      request.devEui.octets.reverse :=
    Octets.slice_eq layout (Octets.length_toList _)
  have nonce : ∀ inside, Octets.slice request.encode 16 2 inside = request.nonce.reverse :=
    Octets.slice_eq (layout.trans (List.append_assoc ..).symm)
      (by simp only [List.length_append, Octets.length_toList])
  simp only [decode, length_encode, Nat.lt_irrefl, ↓reduceIte, ↓reduceDIte, appEui, devEui, nonce,
    Octets.reverse_reverse]

theorem encode_of_decode {body : List UInt8} {request : JoinRequest}
    (ran : decode body = .ok request) : request.encode = body := by
  simp only [decode] at ran
  split at ran
  · cases ran
  · split at ran
    · rename_i exact
      rw [size] at exact
      cases ran
      have whole := Octets.toList_slice_append_drop body 0 8 (by omega)
      rw [← Octets.toList_slice_append_drop body (0 + 8) 8 (by omega),
        ← Octets.toList_slice_append_drop body (0 + 8 + 8) 2 (by omega),
        List.drop_eq_nil_of_le (by omega)] at whole
      simpa only [encode, Octets.reverse_reverse, List.append_assoc, List.append_nil, Nat.zero_add,
        Nat.reduceAdd, List.drop_zero] using whole
    · cases ran

end JoinRequest

namespace DownlinkSettings

/-- Two values in four and three bits make up a byte from which both come back. -/
theorem decode_of_encode {settings : DownlinkSettings} {byte : UInt8}
    (wrote : settings.encode = .ok byte) : decode byte = settings := by
  have table : ∀ (rate : Fin 16) (offset : Fin 8),
      decode ((UInt8.ofNat offset <<< 4) ||| UInt8.ofNat rate) =
        ⟨UInt8.ofNat rate, UInt8.ofNat offset⟩ := by
    decide +kernel
  obtain ⟨rate, offset⟩ := settings
  simp only [encode] at wrote
  split at wrote
  · cases wrote
  · split at wrote
    · cases wrote
    · rename_i rateFits offsetFits
      cases wrote
      have rateBound := UInt8.le_iff_toNat_le.mp (UInt8.not_lt.mp rateFits)
      have offsetBound := UInt8.le_iff_toNat_le.mp (UInt8.not_lt.mp offsetFits)
      simpa only [UInt8.ofNat_toNat] using
        table ⟨rate.toNat, Nat.lt_succ_of_le rateBound⟩
          ⟨offset.toNat, Nat.lt_succ_of_le offsetBound⟩

/-- Whatever was read fits its bits; only the highest bit is lost. -/
theorem encode_decode (byte : UInt8) : (decode byte).encode = .ok (byte &&& 0x7F) := by
  have table : ∀ place : Fin 256,
      ((decode (.ofFin place)).encode).toOption = some (.ofFin place &&& 0x7F) := by
    decide +kernel
  have found := table byte.toFin
  cases written : (decode byte).encode with
  | error cause => simp [written, Except.toOption] at found
  | ok value => simpa [written, Except.toOption] using found

end DownlinkSettings

namespace ChannelList

/-- The list as a receiver reads it: a frame counts frequencies in units of 100 Hz. -/
def rounded (channels : ChannelList) : ChannelList where
  frequencies := channels.frequencies.map fun frequency => frequency / 100 * 100
  length_frequencies := by rw [List.length_map, channels.length_frequencies]

/-- Frequencies that groups of three bytes spell, one after the other. -/
def readFrequencies : Nat → List UInt8 → List UInt32
  | 0, _ => []
  | count + 1, bytes => ofLittleEndian (bytes.take 3) * 100 :: readFrequencies count (bytes.drop 3)

theorem frequencies_ofOctets (octets : Octets 16) :
    (ofOctets octets).frequencies = readFrequencies 5 octets.toList := by
  simp only [ofOctets, Octets.toList_slice, readFrequencies, List.ofFn_succ, List.ofFn_zero,
    List.drop_drop]
  rfl

/-- A list is written when each frequency fits three bytes in units of 100 Hz. -/
theorem encodeFrequencies_eq_ok_iff {frequencies : List UInt32} {bytes : List UInt8} :
    encodeFrequencies frequencies = .ok bytes ↔
      (∀ frequency ∈ frequencies, frequency / 100 ≤ 0xFFFFFF) ∧
        bytes = frequencies.flatMap fun frequency => littleEndian 3 (frequency / 100) := by
  induction frequencies generalizing bytes with
  | nil => simp [encodeFrequencies, eq_comm]
  | cons frequency rest ih =>
    rw [encodeFrequencies, List.forall_mem_cons, List.flatMap_cons]
    by_cases large : 0xFFFFFF < frequency / 100
    · simp [large, UInt32.not_le.mpr large]
    · rw [if_neg large, bind_eq_ok_iff]
      constructor
      · rintro ⟨tail, written, same⟩
        cases same
        obtain ⟨fit, rfl⟩ := ih.mp written
        exact ⟨⟨UInt32.not_lt.mp large, fit⟩, rfl⟩
      · rintro ⟨⟨_, fit⟩, rfl⟩
        exact ⟨_, ih.mpr ⟨fit, rfl⟩, rfl⟩

theorem readFrequencies_append {frequencies : List UInt32}
    (fit : ∀ frequency ∈ frequencies, frequency / 100 ≤ 0xFFFFFF) (tail : List UInt8) :
    readFrequencies frequencies.length
        ((frequencies.flatMap fun frequency => littleEndian 3 (frequency / 100)) ++ tail) =
      frequencies.map fun frequency => frequency / 100 * 100 := by
  induction frequencies with
  | nil => rfl
  | cons frequency rest ih =>
    obtain ⟨here, others⟩ := List.forall_mem_cons.mp fit
    rw [List.length_cons, readFrequencies, List.flatMap_cons, List.append_assoc,
      List.take_left' (length_littleEndian 3 _), List.drop_left' (length_littleEndian 3 _),
      ofLittleEndian_littleEndian_three _ here, ih others, List.map_cons]

/-- Three bytes spell a number that keeps its value when it is counted in hertz and back. -/
private theorem three_bytes_in_hertz {bytes : List UInt8} (three : bytes.length = 3) :
    ofLittleEndian bytes * 100 / 100 = ofLittleEndian bytes ∧ ofLittleEndian bytes ≤ 0xFFFFFF := by
  have bound := toNat_ofLittleEndian_lt bytes (by omega)
  rw [three] at bound
  simp only [byteRange] at bound
  have hundred : (100 : UInt32).toNat = 100 := rfl
  constructor
  · apply UInt32.toNat_inj.mp
    rw [UInt32.toNat_div, UInt32.toNat_mul, hundred]
    omega
  · exact UInt32.le_iff_toNat_le.mpr (Nat.le_of_lt_succ bound)

theorem encodeFrequencies_readFrequencies (count : Nat) (bytes : List UInt8)
    (enough : 3 * count ≤ bytes.length) :
    encodeFrequencies (readFrequencies count bytes) = .ok (bytes.take (3 * count)) := by
  induction count generalizing bytes with
  | zero => rfl
  | succ count ih =>
    have three : (bytes.take 3).length = 3 := by rw [List.length_take]; omega
    obtain ⟨same, fits⟩ := three_bytes_in_hertz three
    have back := littleEndian_ofLittleEndian (bytes.take 3) (by omega)
    rw [three] at back
    rw [readFrequencies, encodeFrequencies, same, if_neg (UInt32.not_lt.mpr fits),
      ih (bytes.drop 3) (by rw [List.length_drop]; omega), back, Nat.mul_succ, Nat.add_comm,
      List.take_add]
    rfl

theorem map_readFrequencies (count : Nat) (bytes : List UInt8)
    (enough : 3 * count ≤ bytes.length) :
    (readFrequencies count bytes).map (fun frequency => frequency / 100 * 100) =
      readFrequencies count bytes := by
  induction count generalizing bytes with
  | zero => rfl
  | succ count ih =>
    have three : (bytes.take 3).length = 3 := by rw [List.length_take]; omega
    rw [readFrequencies, List.map_cons, (three_bytes_in_hertz three).1,
      ih (bytes.drop 3) (by rw [List.length_drop]; omega)]

theorem length_of_encode {channels : ChannelList} {bytes : List UInt8}
    (wrote : channels.encode = .ok bytes) : bytes.length = size := by
  rw [encode] at wrote
  obtain ⟨groups, written, same⟩ := bind_eq_ok_iff.mp wrote
  cases same
  obtain ⟨_, rfl⟩ := encodeFrequencies_eq_ok_iff.mp written
  simp [List.length_flatMap, List.map_const', channels.length_frequencies, size]

theorem decode?_of_encode {channels : ChannelList} {bytes : List UInt8}
    (wrote : channels.encode = .ok bytes) : decode? bytes = .ok (some channels.rounded) := by
  have length := length_of_encode wrote
  rw [encode] at wrote
  obtain ⟨groups, written, same⟩ := bind_eq_ok_iff.mp wrote
  cases same
  obtain ⟨fit, rfl⟩ := encodeFrequencies_eq_ok_iff.mp written
  rw [decode?, if_neg (by simp), dif_pos length]
  congr 2
  ext1
  have back := readFrequencies_append fit [0]
  rw [channels.length_frequencies] at back
  rw [frequencies_ofOctets, back, rounded]

/-- Of sixteen bytes only the last, which is reserved, is lost. -/
theorem encode_ofOctets (octets : Octets 16) :
    (ofOctets octets).encode = .ok (octets.toList.set 15 0) := by
  have length := octets.length_toList
  rw [encode, frequencies_ofOctets, encodeFrequencies_readFrequencies 5 _ (by omega),
    List.set_eq_take_append_cons_drop, if_pos (by omega), List.drop_eq_nil_of_le (by omega)]
  rfl

theorem rounded_ofOctets (octets : Octets 16) : (ofOctets octets).rounded = ofOctets octets := by
  have settled := map_readFrequencies 5 octets.toList (by rw [octets.length_toList]; omega)
  rw [← frequencies_ofOctets] at settled
  exact ext settled

theorem decode?_of_encode? {channels : Option ChannelList} {bytes : List UInt8}
    (wrote : encode? channels = .ok bytes) : decode? bytes = .ok (channels.map rounded) := by
  cases channels with
  | none => cases wrote; rfl
  | some channels => exact decode?_of_encode wrote

/-- A list that was read is written with the same bytes but for the reserved one. -/
theorem encode?_of_decode? {bytes : List UInt8} {channels : Option ChannelList}
    (ran : decode? bytes = .ok channels) :
    encode? channels = .ok (bytes.set 15 0) ∧ channels.map rounded = channels ∧
      (bytes.length = 0 ∨ bytes.length = size) := by
  rw [decode?] at ran
  split at ran
  · rename_i empty
    cases ran
    subst empty
    exact ⟨rfl, rfl, .inl rfl⟩
  · split at ran
    · rename_i exact
      cases ran
      exact ⟨encode_ofOctets _, congrArg some (rounded_ofOctets _), .inr exact⟩
    · cases ran

end ChannelList

namespace JoinAccept

/-- The acceptance as a receiver reads it. -/
def received (accept : JoinAccept) : JoinAccept :=
  { accept with channels := accept.channels.map ChannelList.rounded }

/-- Twelve bytes of fixed layout are read each in its place, and the rest is the list of
channels. -/
theorem decode_eq (nonce netId : Octets 3) (address : Octets 4) (settings delay : UInt8)
    (channels : List UInt8) :
    decode (nonce.toList ++ (netId.toList ++
        (address.toList ++ settings :: delay :: channels))) =
      (ChannelList.decode? channels).map fun channels => {
        nonce := nonce.reverse
        netId := ⟨netId.reverse⟩
        address := ⟨ofLittleEndian address.toList⟩
        settings := .decode settings
        delay := delay &&& 0x0F
        channels := channels } := by
  generalize layout : nonce.toList ++ (netId.toList ++
    (address.toList ++ settings :: delay :: channels)) = body
  have enough : size ≤ body.length := by
    simp only [← layout, List.length_append, List.length_cons, Octets.length_toList, size]
    omega
  have nonceAt : ∀ inside, Octets.slice body 0 3 inside = nonce :=
    Octets.slice_eq (layout.symm.trans (List.nil_append _).symm) rfl
  have netIdAt : ∀ inside, Octets.slice body 3 3 inside = netId :=
    Octets.slice_eq layout.symm nonce.length_toList
  have addressAt : ∀ inside, Octets.slice body 6 4 inside = address :=
    Octets.slice_eq (layout.symm.trans (List.append_assoc ..).symm)
      (by simp only [List.length_append, Octets.length_toList])
  have settingsAt : (Octets.slice body 0 12 enough)[10] = settings :=
    (Octets.getElem_slice body 0 12 10 enough (by decide)).trans
      (by simp [← layout])
  have delayAt : (Octets.slice body 0 12 enough)[11] = delay :=
    (Octets.getElem_slice body 0 12 11 enough (by decide)).trans
      (by simp [← layout])
  have restAt : body.drop size = channels := by
    simp [← layout, List.drop_append, size, List.drop_eq_nil_of_le]
  rw [decode, dif_pos enough]
  simp only [nonceAt, netIdAt, addressAt, settingsAt, delayAt, restAt]
  cases ChannelList.decode? channels <;> rfl

theorem exists_accept_bytes {body : List UInt8} (enough : size ≤ body.length) :
    ∃ (nonce netId : Octets 3) (address : Octets 4) (settings delay : UInt8)
      (channels : List UInt8), body = nonce.toList ++ (netId.toList ++
        (address.toList ++ settings :: delay :: channels)) := by
  rw [size] at enough
  obtain ⟨settings, tail, last⟩ := List.exists_cons_of_length_pos
    (l := body.drop 10) (by rw [List.length_drop]; omega)
  obtain ⟨delay, channels, rfl⟩ := List.exists_cons_of_length_pos
    (l := tail) (by
      have length := congrArg List.length last
      rw [List.length_drop, List.length_cons] at length
      omega)
  refine ⟨.slice body 0 3 (by omega), .slice body 3 3 (by omega), .slice body 6 4 (by omega),
    settings, delay, channels, ?_⟩
  rw [← last, Octets.toList_slice_append_drop body 6 4 (by omega),
    Octets.toList_slice_append_drop body 3 3 (by omega),
    Octets.toList_slice_append_drop body 0 3 (by omega), List.drop_zero]

/-- The delay and both settings have to fit their bits, and the channels theirs. -/
theorem encode_eq_ok_iff {accept : JoinAccept} {body : List UInt8} :
    accept.encode = .ok body ↔ accept.delay ≤ 0x0F ∧ ∃ settings channels,
      accept.settings.encode = .ok settings ∧
        ChannelList.encode? accept.channels = .ok channels ∧
        body = accept.nonce.reverse.toList ++ (accept.netId.octets.reverse.toList ++
          (littleEndian 4 accept.address.word ++ settings :: accept.delay :: channels)) := by
  rw [encode]
  by_cases large : 0x0F < accept.delay
  · simp [large, UInt8.not_le.mpr large]
  · rw [if_neg large]
    simp only [bind_eq_ok_iff, UInt8.not_lt.mp large, true_and, Except.ok.injEq,
      List.append_assoc, List.cons_append, List.nil_append, eq_comm (b := body)]
    constructor
    · rintro ⟨settings, first, channels, second, same⟩
      exact ⟨settings, channels, first, second, same⟩
    · rintro ⟨settings, channels, first, second, same⟩
      exact ⟨settings, first, channels, second, same⟩

/-- A value that fits in four bits is not changed by taking them. -/
private theorem and_four_bits {value : UInt8} (fits : value ≤ 0x0F) : value &&& 0x0F = value := by
  have table : ∀ value : Fin 16, UInt8.ofNat value &&& 0x0F = UInt8.ofNat value := by
    decide +kernel
  simpa only [UInt8.ofNat_toNat] using
    table ⟨value.toNat, Nat.lt_succ_of_le (UInt8.le_iff_toNat_le.mp fits)⟩

theorem decode_of_encode {accept : JoinAccept} {body : List UInt8}
    (wrote : accept.encode = .ok body) : decode body = .ok accept.received := by
  obtain ⟨fits, settings, channels, settingsWrote, channelsWrote, rfl⟩ :=
    encode_eq_ok_iff.mp wrote
  have ran := decode_eq accept.nonce.reverse accept.netId.octets.reverse
    ⟨littleEndian 4 accept.address.word, length_littleEndian 4 _⟩ settings accept.delay channels
  rw [ran, ChannelList.decode?_of_encode? channelsWrote]
  simp only [Except.map, Octets.reverse_reverse, ofLittleEndian_littleEndian_four,
    DownlinkSettings.decode_of_encode settingsWrote, and_four_bits fits, received]

/-- The bytes with the reserved bits cleared: one of the settings, four beside the delay, and the
last byte of the channels. -/
def clearReserved (body : List UInt8) : List UInt8 :=
  ((body.modify 10 (· &&& 0x7F)).modify 11 (· &&& 0x0F)).set 27 0

/-- An acceptance that was read is written with the same bytes but for the reserved bits, and it
has nothing left to lose. -/
theorem encode_of_decode {body : List UInt8} {accept : JoinAccept}
    (ran : decode body = .ok accept) :
    accept.encode = .ok (clearReserved body) ∧ accept.received = accept ∧
      (body.length = 12 ∨ body.length = 28) := by
  by_cases enough : size ≤ body.length
  · obtain ⟨nonce, netId, address, settings, delay, tail, rfl⟩ := exists_accept_bytes enough
    rw [decode_eq] at ran
    obtain ⟨channels, found, rfl⟩ := map_eq_ok_iff.mp ran
    obtain ⟨wrote, settled, length⟩ := ChannelList.encode?_of_decode? found
    have word := littleEndian_ofLittleEndian address.toList (by simp)
    rw [address.length_toList] at word
    have cleared : clearReserved (nonce.toList ++ (netId.toList ++
        (address.toList ++ settings :: delay :: tail))) =
        nonce.toList ++ (netId.toList ++ (address.toList ++
          (settings &&& 0x7F) :: (delay &&& 0x0F) :: tail.set 15 0)) := by
      simp [clearReserved, modify_append_right]
    have fits : delay &&& 0x0F ≤ 0x0F :=
      UInt8.le_iff_toNat_le.mpr (by rw [UInt8.toNat_and]; exact Nat.and_le_right)
    refine ⟨encode_eq_ok_iff.mpr ⟨fits, _, _, DownlinkSettings.encode_decode settings, wrote, ?_⟩,
      ?_, ?_⟩
    · rw [cleared, word, Octets.reverse_reverse, Octets.reverse_reverse]
    · simp only [received, settled]
    · simp only [ChannelList.size] at length
      simp only [List.length_append, List.length_cons, Octets.length_toList]
      omega
  · rw [decode, dif_neg enough] at ran
    cases ran

end JoinAccept

end LoRaNetwork
