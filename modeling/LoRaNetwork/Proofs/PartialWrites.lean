import LoRaNetwork.Server.Traffic
import LoRaNetwork.Proofs.DirectoryIndex
import LoRaNetwork.Proofs.Outcome

/-! Writing parts of a record. A record is its identity and its parts, and a write takes the listed parts
from the copy it is given and all others from the record that is stored. So the order of the list does
not matter, a copy that is out of date does no harm in the parts that are not listed, and two writes
that have no part of one record in common may come in either order. The index follows the records, so
it ends up the same as well. -/
namespace LoRaNetwork

namespace DeviceField

/-- What a part of a record can be. -/
def Content : DeviceField → Type
  | appId | devId => String
  | address => Address
  | sessionKey => Key
  | counterUp | counterDown => UInt32
  | options => DeviceOptions
  | lastSeen => Option Instant

/-- A part of a record. -/
def part : (field : DeviceField) → Device → field.Content
  | appId, device => device.appId
  | devId, device => device.devId
  | address, device => device.address
  | sessionKey, device => device.sessionKey
  | counterUp, device => device.counterUp
  | counterDown, device => device.counterDown
  | options, device => device.options
  | lastSeen, device => device.lastSeen

variable {source target : Device} {fields otherFields : List DeviceField}

theorem part_copy (field other : DeviceField) (source target : Device) :
    field.part (other.copy source target) =
      if field = other then field.part source else field.part target := by
  cases other <;> cases field <;> rfl

/-- A part is taken from the source when it is listed, at whatever place and however often. -/
theorem part_copyAll (field : DeviceField) (fields : List DeviceField) (source target : Device) :
    field.part (copyAll fields source target) =
      if field ∈ fields then field.part source else field.part target := by
  induction fields generalizing target with
  | nil => rfl
  | cons other rest ih =>
    rw [copyAll, List.foldl_cons]
    refine (ih _).trans ?_
    rw [part_copy]
    by_cases here : field = other
    · simp [here]
    · simp [here]

/-- A record is its identity and its parts. -/
theorem eq_of_part {one other : Device} (named : one.identity = other.identity)
    (parts : ∀ field : DeviceField, field.part one = field.part other) : one = other := by
  obtain ⟨⟩ := one
  obtain ⟨⟩ := other
  cases named
  cases parts appId
  cases parts devId
  cases parts address
  cases parts sessionKey
  cases parts counterUp
  cases parts counterDown
  cases parts options
  cases parts lastSeen
  rfl

/-- Lists of the same parts copy the same. -/
theorem copyAll_congr (same : ∀ field, field ∈ fields ↔ field ∈ otherFields)
    (source target : Device) : copyAll fields source target = copyAll otherFields source target := by
  apply eq_of_part
  · rw [identity_copyAll, identity_copyAll]
  · intro field
    rw [part_copyAll, part_copyAll]
    simp only [same field]

/-- Parts that are not the same can be copied in either order. -/
theorem copyAll_comm (apart : ∀ field ∈ fields, field ∉ otherFields) (one other target : Device) :
    copyAll fields one (copyAll otherFields other target) =
      copyAll otherFields other (copyAll fields one target) := by
  apply eq_of_part
  · simp only [identity_copyAll]
  · intro field
    simp only [part_copyAll]
    by_cases listed : field ∈ fields
    · rw [if_pos listed, if_pos listed, if_neg (apart field listed)]
    · rw [if_neg listed, if_neg listed]

end DeviceField

open DeviceField

theorem StoreWrite.callAll_cons {σ : Type} [DeviceStore σ] (store : σ) (write : StoreWrite)
    (rest : List StoreWrite) :
    callAll store (write :: rest) = callAll (callAll store [write]) rest := by
  rw [callAll, callAll]
  cases write.call store <;> rfl

namespace Directory

/-- A record after a write of some parts from a copy: it has these parts of the copy, and is else what
it was. -/
structure Takes (fields : List DeviceField) (copy stored updated : Device) : Prop where
  identity : updated.identity = stored.identity
  taken : ∀ field ∈ fields, field.part updated = field.part copy
  kept : ∀ field, field ∉ fields → field.part updated = field.part stored

/-- Two directories hold the same. The order in which they list things may differ. -/
structure SameContents (directory other : Directory) : Prop where
  get : ∀ identity, directory.get identity = other.get identity
  size : directory.size = other.size
  members : ∀ address, (directory.index.members address).Perm (other.index.members address)
  used : ∀ address, directory.index.get? address = none ↔ other.index.get? address = none
  withAddress : ∀ address, (directory.withAddress address).Perm (other.withAddress address)

variable {directory : Directory} {device one other : Device} {fields otherFields : List DeviceField}

theorem takes_copyAll (fields : List DeviceField) (copy stored : Device) :
    Takes fields copy stored (copyAll fields copy stored) where
  identity := identity_copyAll fields copy stored
  taken field listed := by rw [part_copyAll, if_pos listed]
  kept field unlisted := by rw [part_copyAll, if_neg unlisted]

/-- What a write of some parts does to the records: where its device is stored it copies the parts, and
everywhere else, or if the device is not stored, nothing. -/
theorem get?_after_set (some_fields : fields ≠ []) (identity : Identity) :
    (StoreWrite.callAll directory [.set device fields]).get? identity =
      if identity = device.identity then (directory.get? identity).map (copyAll fields device)
      else directory.get? identity := by
  cases found : directory.get? device.identity with
  | none =>
    have failed : (StoreWrite.set device fields).call directory =
        .error (.notFound (.device device.identity)) := set_missing some_fields found
    rw [StoreWrite.callAll, failed]
    dsimp only [StoreWrite.callAll]
    by_cases own : identity = device.identity
    · rw [if_pos own, own, found]
      rfl
    · rw [if_neg own]
  | some stored =>
    have done : (StoreWrite.set device fields).call directory = .ok (directory.put device.identity
        (some stored.address) (copyAll fields device stored)) := set_fields some_fields found
    rw [StoreWrite.callAll, done]
    dsimp only [StoreWrite.callAll]
    rw [get?_put]
    by_cases own : identity = device.identity
    · rw [if_pos own.symm, if_pos own, own, found]
      rfl
    · rw [if_neg (Ne.symm own), if_neg own]

/-- A write of some parts fails when its device is not stored, and only then. -/
theorem failure?_set (some_fields : fields ≠ []) : failure? (directory.set device fields) =
    if (directory.get? device.identity).isSome then none
    else some (.notFound (.device device.identity)) := by
  cases found : directory.get? device.identity with
  | none =>
    rw [set_missing some_fields found]
    rfl
  | some stored =>
    rw [set_fields some_fields found]
    rfl

/-- A write of some parts makes no record and takes none away. -/
theorem isSome_get?_after_set (some_fields : fields ≠ []) (identity : Identity) :
    ((StoreWrite.callAll directory [.set device fields]).get? identity).isSome =
      (directory.get? identity).isSome := by
  rw [get?_after_set some_fields]
  split
  · exact Option.isSome_map
  · rfl

/-- Whether a write of some parts fails does not hang on another such write before it. -/
theorem failure?_set_after_set (some_fields : fields ≠ []) (some_others : otherFields ≠ []) :
    failure? ((StoreWrite.callAll directory [.set other otherFields]).set one fields) =
      failure? (directory.set one fields) := by
  rw [failure?_set some_fields, failure?_set some_fields, isSome_get?_after_set some_others]

/-- Writes of some parts that concern different records, or different parts, leave the same record
in either order. -/
theorem get?_after_sets (some_fields : fields ≠ []) (some_others : otherFields ≠ [])
    (apart : one.identity ≠ other.identity ∨ ∀ field ∈ fields, field ∉ otherFields)
    (identity : Identity) :
    (StoreWrite.callAll directory [.set one fields, .set other otherFields]).get? identity =
      (StoreWrite.callAll directory [.set other otherFields, .set one fields]).get? identity := by
  rw [StoreWrite.callAll_cons, StoreWrite.callAll_cons directory (.set other otherFields)]
  simp only [get?_after_set some_fields, get?_after_set some_others]
  by_cases first : identity = one.identity
  · by_cases second : identity = other.identity
    · have unlisted := apart.resolve_left fun different => different (first.symm.trans second)
      simp only [if_pos first, if_pos second, Option.map_map]
      congr 1
      funext stored
      exact (copyAll_comm unlisted one other stored).symm
    · simp only [if_pos first, if_neg second]
  · simp only [if_neg first]

theorem Consistent.index_eq_none_iff (consistent : directory.Consistent) {address : Address} :
    directory.index.get? address = none ↔ directory.index.members address = [] := by
  have occupied := consistent.tidy.occupied address
  rw [AddressIndex.members]
  cases found : directory.index.get? address with
  | none => simp
  | some list =>
    rw [found] at occupied
    simpa using occupied

/-- The index follows the records, so directories with the same records hold the same. -/
theorem Consistent.sameContents {directory other : Directory} (consistent : directory.Consistent)
    (otherConsistent : other.Consistent)
    (records : ∀ identity, directory.get? identity = other.get? identity) :
    SameContents directory other := by
  have members (address : Address) :
      (directory.index.members address).Perm (other.index.members address) := by
    refine (List.perm_ext_iff_of_nodup (consistent.tidy.distinct address)
      (otherConsistent.tidy.distinct address)).mpr fun identity => ?_
    rw [consistent.listed, otherConsistent.listed, records]
  constructor
  · intro identity
    rw [Directory.get, Directory.get, records]
  · have keys : directory.records.keys.Perm other.records.keys := by
      refine (List.perm_ext_iff_of_nodup directory.records.nodup other.records.nodup).mpr
        fun identity => ?_
      have same : directory.records.get? identity = other.records.get? identity := records identity
      change identity ∈ directory.records.keys ↔ identity ∈ other.records.keys
      rw [Table.mem_keys_iff, Table.mem_keys_iff, same]
    exact (List.length_map _).symm.trans (keys.length_eq.trans (List.length_map _))
  · exact members
  · intro address
    rw [consistent.index_eq_none_iff, otherConsistent.index_eq_none_iff]
    constructor
    · intro none
      exact List.nil_perm.mp (none ▸ members address)
    · intro none
      exact List.perm_nil.mp (none ▸ members address)
  · intro address
    refine (List.perm_ext_iff_of_nodup (consistent.nodup_withAddress address)
      (otherConsistent.nodup_withAddress address)).mpr fun device => ?_
    rw [consistent.mem_withAddress, otherConsistent.mem_withAddress, records]

/-- Lists of the same parts write the same. -/
theorem set_congr (some_fields : fields ≠ [])
    (same : ∀ field, field ∈ otherFields ↔ field ∈ fields) :
    directory.set device otherFields = directory.set device fields := by
  have some_others : otherFields ≠ [] := by
    obtain ⟨field, listed⟩ := List.exists_mem_of_ne_nil fields some_fields
    exact List.ne_nil_of_mem ((same field).mpr listed)
  rw [set, set, if_neg some_fields, if_neg some_others]
  simp only [copyAll_congr same]

/-- The record after an uplink and a downlink that were written from copies read before, in either
order. -/
theorem get?_after_heard_and_counted {identity : Identity} {stored seen read : Device}
    (found : directory.get? identity = some stored) (seenNamed : seen.identity = identity)
    (readNamed : read.identity = identity) (now : Instant) (message : UplinkMessage)
    (data : DataPayload) :
    let hears := StoreWrite.set (Server.heard seen now message data) [.counterUp, .lastSeen]
    let counts := StoreWrite.set (Server.counted read) [.counterDown]
    ∀ order ∈ [[hears, counts], [counts, hears]],
      (StoreWrite.callAll directory order).get? identity = some { stored with
        counterUp := Server.uplinkCounter message data
        counterDown := read.counterDown + 1
        lastSeen := some now } := by
  intro hears counts order listed
  have heardNamed : (Server.heard seen now message data).identity = identity := seenNamed
  have countedNamed : (Server.counted read).identity = identity := readNamed
  have some_heard : [DeviceField.counterUp, .lastSeen] ≠ [] := by simp
  have some_counted : [DeviceField.counterDown] ≠ [] := by simp
  have disjoint : ∀ field ∈ [DeviceField.counterUp, .lastSeen],
      field ∉ [DeviceField.counterDown] := by decide
  have last : (StoreWrite.callAll directory [counts, hears]).get? identity = some { stored with
      counterUp := Server.uplinkCounter message data
      counterDown := read.counterDown + 1
      lastSeen := some now } := by
    rw [StoreWrite.callAll_cons, get?_after_set some_heard, if_pos heardNamed.symm,
      get?_after_set some_counted, if_pos countedNamed.symm, found]
    rfl
  obtain rfl | rfl := List.mem_pair.mp listed
  · exact (get?_after_sets some_heard some_counted (.inr disjoint) identity).trans last
  · exact last

/-- Partial writes touch the listed parts alone, and writes that have nothing in common commute. In
every directory that comes about, a write of some parts of a device that is not stored fails and
changes nothing. If the device is stored, its record takes the listed parts from the copy that is
written and keeps the others, all other records stay, and neither the order of the list nor repetitions
matter. Two such writes, of different devices or of different parts, fail or succeed alike in either
order and leave the same directory, with the same devices at every address. So an uplink and a downlink
of one device, each written from whatever copy was read before, leave the counter and the time of the
one and the counter of the other, whichever is written last. -/
theorem partial_writes_commute (writes : List StoreWrite) :
    let directory := StoreWrite.callAll Directory.empty writes
    (∀ device fields, fields ≠ [] →
      (directory.get? device.identity = none →
        directory.set device fields = .error (.notFound (.device device.identity)) ∧
          StoreWrite.callAll directory [.set device fields] = directory) ∧
      (∀ stored, directory.get? device.identity = some stored → ∃ next updated,
        directory.set device fields = .ok next ∧ next.get? device.identity = some updated ∧
          Takes fields device stored updated ∧
          ∀ identity, identity ≠ device.identity → next.get? identity = directory.get? identity) ∧
      ∀ others, (∀ field, field ∈ others ↔ field ∈ fields) →
        directory.set device others = directory.set device fields) ∧
    (∀ one other fields otherFields, fields ≠ [] → otherFields ≠ [] →
      (one.identity ≠ other.identity ∨ ∀ field ∈ fields, field ∉ otherFields) →
      let first := StoreWrite.set one fields
      let second := StoreWrite.set other otherFields
      failure? (first.call (StoreWrite.callAll directory [second])) =
          failure? (first.call directory) ∧
        failure? (second.call (StoreWrite.callAll directory [first])) =
          failure? (second.call directory) ∧
        SameContents (StoreWrite.callAll directory [first, second])
          (StoreWrite.callAll directory [second, first])) ∧
    ∀ identity stored seen read now message data, directory.get? identity = some stored →
      seen.identity = identity → read.identity = identity →
      let hears := StoreWrite.set (Server.heard seen now message data) [.counterUp, .lastSeen]
      let counts := StoreWrite.set (Server.counted read) [.counterDown]
      ∀ order ∈ [[hears, counts], [counts, hears]],
        (StoreWrite.callAll directory order).get? identity = some { stored with
          counterUp := Server.uplinkCounter message data
          counterDown := read.counterDown + 1
          lastSeen := some now } := by
  intro directory
  have consistent : directory.Consistent := (consistent_empty.callAll writes).1
  refine ⟨fun device fields some_fields => ⟨?_, ?_, fun others => set_congr some_fields⟩, ?_, ?_⟩
  · intro missing
    have failed : (StoreWrite.set device fields).call directory =
        .error (.notFound (.device device.identity)) := set_missing some_fields missing
    refine ⟨failed, ?_⟩
    rw [StoreWrite.callAll, failed, StoreWrite.callAll]
  · intro stored found
    refine ⟨_, _, set_fields some_fields found, ?_, takes_copyAll fields device stored, ?_⟩
    · rw [get?_put, if_pos rfl]
    · intro identity different
      rw [get?_put, if_neg (Ne.symm different)]
  · intro one other fields otherFields some_fields some_others apart first second
    have after (order : List StoreWrite) := (consistent.callAll order).1
    exact ⟨failure?_set_after_set some_fields some_others,
      failure?_set_after_set some_others some_fields,
      (after [first, second]).sameContents (after [second, first])
        (get?_after_sets some_fields some_others apart)⟩
  · intro identity stored seen read now message data found seenNamed readNamed
    exact get?_after_heard_and_counted found seenNamed readNamed now message data

/-- Two devices that move to one address, and a device that is sent to while an uplink of it is under
way. -/
theorem partial_writes_commute_moved :
    let named (name : UInt8) : Device := Device.unknown ⟨default, ⟨.ofFn fun _ => name⟩⟩
    let one := { named 1 with address := ⟨0x26000001⟩, counterDown := 7 }
    let other := { named 2 with address := ⟨0x26000001⟩ }
    let writes : List StoreWrite := [.set one [], .set other []]
    let directory := StoreWrite.callAll Directory.empty writes
    let first := StoreWrite.set { one with address := ⟨0x26000002⟩ } [.address, .options, .address]
    let second := StoreWrite.set { other with address := ⟨0x26000002⟩ } [.counterUp, .address]
    let hears := StoreWrite.set { one with counterUp := 9, lastSeen := some default }
      [.counterUp, .lastSeen]
    let counts := StoreWrite.set { one with counterDown := 8 } [.counterDown]
    SameContents (StoreWrite.callAll directory [first, second])
        (StoreWrite.callAll directory [second, first]) ∧
      (StoreWrite.callAll directory [first, second]).withAddress ⟨0x26000001⟩ = [] ∧
      ((StoreWrite.callAll directory [first, second]).withAddress ⟨0x26000002⟩).length = 2 ∧
      SameContents (StoreWrite.callAll directory [counts, hears])
        (StoreWrite.callAll directory [hears, counts]) ∧
      ((StoreWrite.callAll directory [counts, hears]).get? one.identity).map (·.counterDown) =
        some 8 := by
  intro named one other writes directory first second hears counts
  obtain ⟨_, commute, _⟩ := partial_writes_commute writes
  obtain ⟨_, _, moved⟩ := commute { one with address := ⟨0x26000002⟩ }
    { other with address := ⟨0x26000002⟩ } [.address, .options, .address] [.counterUp, .address]
    (by simp) (by simp) (.inl (by decide))
  obtain ⟨_, _, sent⟩ := commute { one with counterDown := 8 }
    { one with counterUp := 9, lastSeen := some default } [.counterDown] [.counterUp, .lastSeen]
    (by simp) (by simp) (.inr (by decide))
  exact ⟨moved, by decide +kernel, by decide +kernel, sent, by decide +kernel⟩

end Directory

end LoRaNetwork
