import LoRaNetwork.DeviceStore
import Mathlib.Data.List.Nodup

/-! The index of the directory never drifts from the records. One invariant says that each identity
is listed under the address of its record and nowhere else; every write keeps it, also one whose old
address was never listed. So looking an address up in the index gives what searching all records
would give, and the directory answers as a plain map of records does. -/
namespace LoRaNetwork

namespace AddressIndex

/-- Who is listed under an address. -/
def members (index : AddressIndex) (address : Address) : List Identity :=
  (index.get? address).getD []

/-- Every list under an address names someone, and nobody twice. -/
structure Tidy (index : AddressIndex) : Prop where
  occupied : ∀ address, index.get? address ≠ some []
  distinct : ∀ address, (index.members address).Nodup

theorem members_insert (index : AddressIndex) (address place : Address) (list : List Identity) :
    members (index.insert address list) place =
      if address = place then list else index.members place := by
  rw [members, Table.get?_insert]
  split <;> rfl

theorem members_erase (index : AddressIndex) (address place : Address) :
    members (index.erase address) place =
      if address = place then [] else index.members place := by
  rw [members, Table.get?_erase]
  split <;> rfl

/-- Leaving an address takes the identity out of its list and out of no other. -/
theorem members_leave (index : AddressIndex) (identity : Identity) (address place : Address) :
    (index.leave identity address).members place =
      if address = place then (index.members place).filter (· ≠ identity)
      else index.members place := by
  rw [leave]
  cases found : index.get? address with
  | none =>
    by_cases here : address = place
    · subst here
      simp [members, found]
    · simp [here]
  | some list =>
    have listed : index.members address = list := by rw [members, found]; rfl
    dsimp only
    split
    · rename_i nobody
      rw [members_erase]
      by_cases here : address = place
      · subst here
        rw [if_pos rfl, if_pos rfl, listed, nobody]
      · rw [if_neg here, if_neg here]
    · rw [members_insert]
      by_cases here : address = place
      · subst here
        rw [if_pos rfl, if_pos rfl, listed]
      · rw [if_neg here, if_neg here]

/-- Entering an address adds the identity to its list, if it is not there yet. -/
theorem members_enter (index : AddressIndex) (identity : Identity) (address place : Address) :
    (index.enter identity address).members place =
      if address = place ∧ identity ∉ index.members place then index.members place ++ [identity]
      else index.members place := by
  rw [enter, members_insert]
  by_cases here : address = place
  · subst here
    rw [if_pos rfl]
    change (if identity ∈ index.members address then index.members address
      else index.members address ++ [identity]) = _
    by_cases listed : identity ∈ index.members address
    · rw [if_pos listed, if_neg (fun both => both.2 listed)]
    · rw [if_neg listed, if_pos ⟨rfl, listed⟩]
  · rw [if_neg here, if_neg (fun both => here both.1)]

theorem mem_members_leave {index : AddressIndex} {identity other : Identity}
    {address place : Address} :
    other ∈ (index.leave identity address).members place ↔
      other ∈ index.members place ∧ ¬ (address = place ∧ other = identity) := by
  rw [members_leave]
  by_cases here : address = place <;> simp [here]

theorem mem_members_enter {index : AddressIndex} {identity other : Identity}
    {address place : Address} :
    other ∈ (index.enter identity address).members place ↔
      other ∈ index.members place ∨ (address = place ∧ other = identity) := by
  rw [members_enter]
  by_cases here : address = place
  · by_cases listed : identity ∈ index.members place
    · rw [if_neg (fun both => both.2 listed)]
      exact ⟨.inl, fun either => either.elim id fun both => both.2 ▸ listed⟩
    · simp [here, listed]
  · simp [here]

/-- A move lists the identity under the new address and nowhere else, and nobody else moves. The
old address only has to be right for an identity that is listed at all. -/
theorem mem_members_move {index : AddressIndex} {identity other : Identity} {old : Option Address}
    {new place : Address} (only : ∀ place, identity ∈ index.members place → old = some place) :
    other ∈ (index.move identity old new).members place ↔
      if other = identity then new = place else other ∈ index.members place := by
  cases old with
  | none =>
    have nowhere : identity ∉ index.members place := fun listed => by cases only place listed
    rw [move, mem_members_enter]
    by_cases same : other = identity
    · subst same
      simp [nowhere]
    · simp [same]
  | some old =>
    have place_eq (listed : identity ∈ index.members place) : old = place :=
      Option.some.inj (only place listed)
    rw [move, mem_members_enter]
    by_cases same : other = identity
    · subst same
      by_cases still : old = new
      · subst still
        simpa using place_eq
      · rw [if_neg still, mem_members_leave]
        simpa using fun listed elsewhere => absurd (place_eq listed) elsewhere
    · by_cases still : old = new
      · simp [same, still]
      · simp [same, still, mem_members_leave]

theorem tidy_empty : Tidy Table.empty where
  occupied _ := by simp
  distinct _ := by simp [members]

theorem Tidy.leave {index : AddressIndex} (tidy : Tidy index) (identity : Identity)
    (address : Address) : Tidy (index.leave identity address) where
  occupied place := by
    have others := tidy.occupied place
    rw [AddressIndex.leave]
    cases index.get? address with
    | none => exact others
    | some list =>
      dsimp only
      split
      · rw [Table.get?_erase]
        split
        · exact Option.some_ne_none _ |>.symm
        · exact others
      · rename_i someone
        rw [Table.get?_insert]
        split
        · exact fun nobody => someone (Option.some.inj nobody)
        · exact others
  distinct place := by
    rw [members_leave]
    split
    · exact (tidy.distinct place).filter _
    · exact tidy.distinct place

theorem Tidy.enter {index : AddressIndex} (tidy : Tidy index) (identity : Identity)
    (address : Address) : Tidy (index.enter identity address) where
  occupied place := by
    rw [AddressIndex.enter, Table.get?_insert]
    split
    · intro nobody
      have empty := Option.some.inj nobody
      split at empty
      · rename_i listed
        rw [empty] at listed
        cases listed
      · simp at empty
    · exact tidy.occupied place
  distinct place := by
    rw [members_enter]
    split
    · rename_i both
      exact List.Nodup.append (tidy.distinct place) (List.nodup_singleton identity)
        (by simpa using both.2)
    · exact tidy.distinct place

theorem Tidy.move {index : AddressIndex} (tidy : Tidy index) (identity : Identity)
    (old : Option Address) (new : Address) : Tidy (index.move identity old new) := by
  cases old with
  | none => exact tidy.enter identity new
  | some old =>
    rw [AddressIndex.move]
    split
    · exact tidy.enter identity new
    · exact (tidy.leave identity old).enter identity new

end AddressIndex

/-- Parts of a record can be written, but not whose record it is. -/
theorem DeviceField.identity_copyAll (fields : List DeviceField) (source target : Device) :
    (copyAll fields source target).identity = target.identity := by
  induction fields generalizing target with
  | nil => rfl
  | cons field rest ih =>
    rw [copyAll, List.foldl_cons]
    refine (ih _).trans ?_
    cases field <;> rfl

namespace Directory

/-- The index says where the records say that the devices are. -/
structure Consistent (directory : Directory) : Prop where
  /-- A record is stored under its own identity. -/
  own : ∀ {identity device}, directory.get? identity = some device → device.identity = identity
  /-- An identity is listed under the address of its record and nowhere else. -/
  listed : ∀ {identity address}, identity ∈ directory.index.members address ↔
    ∃ device, directory.get? identity = some device ∧ device.address = address
  tidy : directory.index.Tidy

theorem consistent_empty : Consistent empty where
  own stored := by cases stored
  listed := by simp [empty, get?, AddressIndex.members]
  tidy := AddressIndex.tidy_empty

@[simp]
theorem get?_put (directory : Directory) (identity other : Identity) (old : Option Address)
    (device : Device) : (directory.put identity old device).get? other =
      if identity = other then some device else directory.get? other :=
  Table.get?_insert directory.records identity other device

@[simp]
theorem get?_activate (directory : Directory) (identity other : Identity) (address : Address)
    (key : Key) (now : Instant) : (directory.activate identity address key now).get? other =
      if identity = other then
        some (((directory.get? identity).getD (.unknown identity)).join address key now)
      else directory.get? other :=
  get?_put ..

theorem get_eq_ok_iff {directory : Directory} {identity : Identity} {device : Device} :
    directory.get identity = .ok device ↔ directory.get? identity = some device := by
  rw [get]
  cases directory.get? identity <;> simp

/-- Storing a record under its identity keeps the index right as long as the old address is that of
the record it replaces. For a new record any old address does, as none is listed. -/
theorem Consistent.put {directory : Directory} (consistent : Consistent directory)
    {identity : Identity} {old : Option Address} {device : Device}
    (named : device.identity = identity)
    (replaced : ∀ stored, directory.get? identity = some stored → old = some stored.address) :
    Consistent (directory.put identity old device) where
  own {other found} stored := by
    rw [get?_put] at stored
    split at stored
    · rename_i same
      cases stored
      exact named.trans same
    · exact consistent.own stored
  listed {other place} := by
    have only (place : Address) (member : identity ∈ directory.index.members place) :
        old = some place := by
      obtain ⟨stored, found, here⟩ := consistent.listed.mp member
      rw [replaced stored found, here]
    change other ∈ (directory.index.move identity old device.address).members place ↔ _
    rw [AddressIndex.mem_members_move only, get?_put]
    by_cases same : other = identity
    · simp [same]
    · rw [if_neg same, if_neg (Ne.symm same), consistent.listed]
  tidy := consistent.tidy.move identity old device.address

/-- A record may be replaced by another of the same device. -/
theorem Consistent.replace {directory : Directory} (consistent : Consistent directory)
    {identity : Identity} {stored device : Device}
    (found : directory.get? identity = some stored) (kept : device.identity = stored.identity) :
    Consistent (directory.put identity (some stored.address) device) := by
  refine consistent.put (kept.trans (consistent.own found)) fun other same => ?_
  rw [found] at same
  cases same
  rfl

theorem Consistent.write {directory : Directory} (consistent : Consistent directory)
    (device : Device) : Consistent (directory.write device) :=
  consistent.put rfl fun stored found => by rw [found]; rfl

theorem Consistent.activate {directory : Directory} (consistent : Consistent directory)
    (identity : Identity) (address : Address) (key : Key) (now : Instant) :
    Consistent (directory.activate identity address key now) := by
  have named : ((directory.get? identity).getD (.unknown identity)).identity = identity := by
    cases found : directory.get? identity with
    | none => rfl
    | some stored => exact consistent.own found
  exact consistent.put named fun stored found => by rw [found]; rfl

/-- What a write of some parts does: there is a record, and it takes these parts. -/
theorem set_fields {directory : Directory} {device stored : Device} {fields : List DeviceField}
    (some_fields : fields ≠ []) (found : directory.get? device.identity = some stored) :
    directory.set device fields = .ok (directory.put device.identity (some stored.address)
      (DeviceField.copyAll fields device stored)) := by
  rw [set, if_neg some_fields, found]

theorem set_missing {directory : Directory} {device : Device} {fields : List DeviceField}
    (some_fields : fields ≠ []) (missing : directory.get? device.identity = none) :
    directory.set device fields = .error (.notFound (.device device.identity)) := by
  rw [set, if_neg some_fields, missing]

theorem Consistent.set {directory next : Directory} (consistent : Consistent directory)
    {device : Device} {fields : List DeviceField} (ran : directory.set device fields = .ok next) :
    Consistent next := by
  by_cases whole : fields = []
  · rw [Directory.set, if_pos whole] at ran
    cases ran
    exact consistent.write device
  · cases found : directory.get? device.identity with
    | none =>
      rw [set_missing whole found] at ran
      cases ran
    | some stored =>
      rw [set_fields whole found] at ran
      cases ran
      exact consistent.replace found (DeviceField.identity_copyAll fields device stored)

/-- A device is found under an address when its record has that address. -/
theorem Consistent.mem_withAddress {directory : Directory} (consistent : Consistent directory)
    {address : Address} {device : Device} : device ∈ directory.withAddress address ↔
      directory.get? device.identity = some device ∧ device.address = address := by
  have searched : device ∈ directory.withAddress address ↔ ∃ identity ∈
      directory.index.members address, directory.get? identity = some device :=
    List.mem_filterMap
  rw [searched]
  constructor
  · rintro ⟨identity, member, found⟩
    obtain ⟨stored, same, here⟩ := consistent.listed.mp member
    rw [found] at same
    cases same
    rw [consistent.own found]
    exact ⟨found, here⟩
  · rintro ⟨found, here⟩
    exact ⟨device.identity, consistent.listed.mpr ⟨device, found, here⟩, found⟩

/-- No device is found twice under an address. -/
theorem Consistent.nodup_withAddress {directory : Directory} (consistent : Consistent directory)
    (address : Address) : (directory.withAddress address).Nodup := by
  refine List.Nodup.filterMap ?_ (consistent.tidy.distinct address)
  intro identity other device found otherFound
  exact (consistent.own found).symm.trans (consistent.own otherFound)

end Directory

/-- A call that writes to a store. -/
inductive StoreWrite where
  | set (device : Device) (fields : List DeviceField)
  | activate (identity : Identity) (address : Address) (key : Key) (now : Instant)

namespace StoreWrite

variable {σ : Type} [DeviceStore σ]

/-- Makes the call. -/
def call (store : σ) : StoreWrite → Except Error σ
  | .set device fields => DeviceStore.set store device fields
  | .activate identity address key now => DeviceStore.activate store identity address key now

/-- The store after calls made one after the other. A call that fails leaves it as it was. -/
def callAll (store : σ) : List StoreWrite → σ
  | [] => store
  | write :: rest =>
    match write.call store with
    | .ok next => callAll next rest
    | .error _ => callAll store rest

end StoreWrite

/-- Nothing but the records. An address is looked up by going through all of them. -/
structure PlainDirectory where
  records : Table Identity Device

namespace PlainDirectory

/-- No devices. -/
def empty : PlainDirectory := ⟨.empty⟩

/-- How many devices there are. -/
def size (plain : PlainDirectory) : Nat := plain.records.size

/-- The record of a device that has to be there. -/
def get (plain : PlainDirectory) (identity : Identity) : Except Error Device :=
  match plain.records.get? identity with
  | some device => .ok device
  | none => .error (.notFound (.device identity))

/-- The records with an address. -/
def withAddress (plain : PlainDirectory) (address : Address) : List Device :=
  plain.records.values.filter (·.address = address)

/-- Writes a record whole or in parts. -/
def set (plain : PlainDirectory) (device : Device) (fields : List DeviceField) :
    Except Error PlainDirectory :=
  if fields = [] then .ok ⟨plain.records.insert device.identity device⟩
  else (plain.get device.identity).map fun stored =>
    ⟨plain.records.insert device.identity (DeviceField.copyAll fields device stored)⟩

/-- Starts a new session, for a new record if there is none. -/
def activate (plain : PlainDirectory) (identity : Identity) (address : Address) (key : Key)
    (now : Instant) : PlainDirectory :=
  let stored := (plain.records.get? identity).getD (.unknown identity)
  ⟨plain.records.insert identity (stored.join address key now)⟩

instance : DeviceStore PlainDirectory where
  withAddress plain address := .ok (plain.withAddress address)
  get := get
  set := set
  activate plain identity address key now := .ok (plain.activate identity address key now)

end PlainDirectory

namespace Directory

/-- The directory without its index. -/
def plain (directory : Directory) : PlainDirectory := ⟨directory.records⟩

theorem get_plain (directory : Directory) (identity : Identity) :
    directory.plain.get identity = directory.get identity := rfl

/-- A call does to the records what it would do without an index, and fails alike. -/
theorem call_plain (directory : Directory) (write : StoreWrite) :
    write.call directory.plain = (write.call directory).map plain := by
  cases write with
  | activate identity address key now => rfl
  | set device fields =>
    change directory.plain.set device fields = (directory.set device fields).map plain
    by_cases whole : fields = []
    · rw [Directory.set, PlainDirectory.set, if_pos whole, if_pos whole]
      rfl
    · rw [PlainDirectory.set, if_neg whole, get_plain, Directory.get]
      cases found : directory.get? device.identity with
      | none => rw [set_missing whole found]; rfl
      | some stored => rw [set_fields whole found]; rfl

theorem Consistent.call {directory next : Directory} (consistent : Consistent directory)
    {write : StoreWrite} (ran : write.call directory = .ok next) : Consistent next := by
  cases write with
  | set device fields => exact consistent.set ran
  | activate identity address key now =>
    cases ran
    exact consistent.activate identity address key now

/-- What one call preserves, a sequence of calls preserves: the index stays right, and the records
stay those of the plain map. -/
theorem Consistent.callAll {directory : Directory} (consistent : Consistent directory)
    (writes : List StoreWrite) : Consistent (StoreWrite.callAll directory writes) ∧
      (StoreWrite.callAll directory writes).plain =
        StoreWrite.callAll directory.plain writes := by
  induction writes generalizing directory with
  | nil => exact ⟨consistent, rfl⟩
  | cons write rest ih =>
    rw [StoreWrite.callAll, StoreWrite.callAll, call_plain]
    cases ran : write.call directory with
    | error cause => exact ih consistent
    | ok next => exact ih (consistent.call ran)

theorem Consistent.mem_values {directory : Directory} (consistent : Consistent directory)
    {device : Device} :
    device ∈ directory.records.values ↔ directory.get? device.identity = some device := by
  rw [Table.values, List.mem_map]
  constructor
  · rintro ⟨⟨identity, stored⟩, member, rfl⟩
    have found := (directory.records.mem_entries_iff identity stored).mp member
    rw [consistent.own found]
    exact found
  · intro found
    exact ⟨_, (directory.records.mem_entries_iff _ device).mpr found, rfl⟩

/-- Distinct identities have distinct records. -/
theorem Consistent.nodup_values {directory : Directory} (consistent : Consistent directory) :
    directory.records.values.Nodup := by
  have keys : directory.records.values.map (·.identity) = directory.records.keys := by
    rw [Table.values, Table.keys, List.map_map]
    refine List.map_congr_left fun entry member => ?_
    exact consistent.own ((directory.records.mem_entries_iff entry.1 entry.2).mp member)
  refine List.Nodup.of_map (·.identity) ?_
  rw [keys]
  exact directory.records.nodup

/-- Searching the records gives the devices that the index gives. -/
theorem Consistent.withAddress_perm {directory : Directory} (consistent : Consistent directory)
    (address : Address) :
    (directory.withAddress address).Perm (directory.plain.withAddress address) := by
  refine (List.perm_ext_iff_of_nodup (consistent.nodup_withAddress address)
    (consistent.nodup_values.filter _)).mpr fun device => ?_
  rw [consistent.mem_withAddress, List.mem_filter, decide_eq_true_eq]
  exact and_congr_left fun _ => consistent.mem_values.symm

/-- A store that answers every call as the plain map does, up to the order of what it finds under
an address. -/
structure AnswersAs (directory : Directory) (plain : PlainDirectory) : Prop where
  get : ∀ identity, directory.get identity = plain.get identity
  withAddress : ∀ address, (directory.withAddress address).Perm (plain.withAddress address)
  size : directory.size = plain.size
  write : ∀ write : StoreWrite,
    (write.call directory).map (fun _ => ()) = (write.call plain).map fun _ => ()

theorem Consistent.answersAs_plain {directory : Directory} (consistent : Consistent directory) :
    directory.AnswersAs directory.plain where
  get _ := rfl
  withAddress := consistent.withAddress_perm
  size := rfl
  write write := by
    rw [call_plain]
    cases write.call directory <;> rfl

/-- The index never drifts from the records. After any sequence of writes, whole or in parts,
failed or not, and of activations of known and unknown devices, each record stands under its own
identity; the index lists an identity under exactly the address of its record and keeps no empty
list; so looking an address up gives the records with that address, each once, and every answer of
the directory is that of a plain map whose addresses are looked up by searching. -/
theorem index_follows_records (writes : List StoreWrite) :
    let directory := StoreWrite.callAll Directory.empty writes
    (∀ identity device, directory.get? identity = some device → device.identity = identity) ∧
      (∀ identity address, identity ∈ directory.index.members address ↔
        ∃ device, directory.get? identity = some device ∧ device.address = address) ∧
      (∀ address, directory.index.get? address ≠ some []) ∧
      (∀ address, (directory.withAddress address).Nodup ∧
        ∀ device, device ∈ directory.withAddress address ↔
          directory.get device.identity = .ok device ∧ device.address = address) ∧
      directory.AnswersAs (StoreWrite.callAll PlainDirectory.empty writes) := by
  intro directory
  obtain ⟨consistent, same⟩ := consistent_empty.callAll writes
  have answers := consistent.answersAs_plain
  rw [same] at answers
  refine ⟨fun _ _ => consistent.own, fun _ _ => consistent.listed, consistent.tidy.occupied,
    fun address => ⟨consistent.nodup_withAddress address, fun device => ?_⟩, answers⟩
  rw [consistent.mem_withAddress, get_eq_ok_iff]

end Directory

end LoRaNetwork
