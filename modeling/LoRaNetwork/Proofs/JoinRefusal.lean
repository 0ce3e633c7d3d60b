import LoRaNetwork.Proofs.FrameLimits
import LoRaNetwork.Proofs.JoinPreparation

/-! Why a device is not prepared for joining. Chance chooses the address, and no address is refused:
it is the device, the request and the registered prefixes that decide whether there is one, and the
settings that decide whether it can be said in a frame. The settings are looked at twice, once for
their type and once for their place in the frame, and not in the same order. -/
namespace LoRaNetwork

/-- Splitting leaves no separator in a piece. -/
theorem not_mem_of_mem_splitOn {α : Type} [BEq α] [LawfulBEq α] {separator : α}
    {text piece : List α} (member : piece ∈ text.splitOn separator) : separator ∉ piece := by
  induction text generalizing piece with
  | nil =>
    rw [List.splitOn_nil, List.mem_singleton] at member
    subst member
    exact List.not_mem_nil
  | cons first text ih =>
    rw [List.splitOn_cons_eq_if_modifyHead] at member
    split at member
    · rcases List.mem_cons.mp member with rfl | later
      · exact List.not_mem_nil
      · exact ih later
    · rename_i other
      -- The first piece is the one that the character before the text is put into.
      obtain ⟨head, tail, pieces⟩ :=
        List.exists_cons_of_ne_nil (List.splitOn_ne_nil separator text)
      rw [pieces, List.modifyHead_cons, List.mem_cons] at member
      rcases member with rfl | later
      · have own : separator ∉ head := ih (pieces ▸ List.mem_cons_self)
        rintro (_ | ⟨_, inside⟩)
        · exact other BEq.rfl
        · exact own inside
      · exact ih (pieces ▸ List.mem_cons_of_mem head later)

namespace DeviceOptions

/-- The constraints that a text with commas spells. An empty text spells none; any other spells the
pieces between its commas, also the empty ones. -/
def Spells (text : String) (pieces : List String) : Prop :=
  if text = "" then pieces = []
  else (∀ piece ∈ pieces, ',' ∉ piece.toList) ∧ ",".intercalate pieces = text

/-- The constraints of a device are those that its text spells, and a text spells only one list. -/
theorem constraints_eq_iff {options : DeviceOptions} {pieces : List String} :
    options.constraints = pieces ↔ Spells options.activationConstraints pieces := by
  unfold constraints Spells
  split
  · exact eq_comm
  · rename_i present
    constructor
    · rintro rfl
      constructor
      · intro piece member
        obtain ⟨letters, split, rfl⟩ := List.mem_map.mp member
        rw [String.toList_ofList]
        exact not_mem_of_mem_splitOn split
      · have letters : (List.map String.ofList
            (options.activationConstraints.toList.splitOn ',')).map String.toList =
              options.activationConstraints.toList.splitOn ',' := by
          simp [Function.comp_def]
        rw [← String.toList_inj, String.toList_intercalate, letters]
        exact List.intercalate_splitOn ','
    · rintro ⟨apart, whole⟩
      have some_pieces : pieces ≠ [] := by
        rintro rfl
        exact present whole.symm
      have split : options.activationConstraints.toList.splitOn ',' =
          pieces.map String.toList := by
        rw [← whole, String.toList_intercalate]
        apply List.splitOn_intercalate ','
        · intro letters member
          obtain ⟨piece, held, rfl⟩ := List.mem_map.mp member
          exact apart piece held
        · exact fun empty => some_pieces (List.map_eq_nil_iff.mp empty)
      rw [split, List.map_map]
      simp [Function.comp_def]

example : constraints ⟨false, false, "local,,site,"⟩ = ["local", "", "site", ""] := by decide

end DeviceOptions

namespace PrefixRegistry

/-- No registered prefix serves all that is required. -/
def Lacks (registry : PrefixRegistry) (required : List String) : Prop :=
  ∀ range served, registry.usages.get? range = some served →
    ∃ usage ∈ required, usage ∉ served.toList

theorem prefixesFor_eq_nil_iff {registry : PrefixRegistry} {required : List String} :
    registry.prefixesFor required = [] ↔ registry.Lacks required := by
  rw [List.eq_nil_iff_forall_not_mem]
  constructor
  · intro none range served held
    by_contra covered
    push Not at covered
    exact none range (mem_prefixesFor.mpr ⟨served, held, covered⟩)
  · intro lacks range member
    obtain ⟨served, held, covers⟩ := mem_prefixesFor.mp member
    obtain ⟨usage, required, missing⟩ := lacks range served held
    exact missing (covers usage required)

instance (registry : PrefixRegistry) (required : List String) : Decidable (registry.Lacks required) :=
  decidable_of_iff _ prefixesFor_eq_nil_iff

/-- Whether there is an address does not depend on the draw. -/
theorem failure?_allocate (registry : PrefixRegistry) (required : List String) (draw : Draw) :
    failure? (registry.allocate required draw) =
      if registry.Lacks required then some (.notFound (.addressPrefix required)) else none := by
  split
  · rename_i lacks
    rw [allocate_of_none (prefixesFor_eq_nil_iff.mpr lacks)]
    rfl
  · rename_i serves
    obtain ⟨range, member⟩ := List.exists_mem_of_ne_nil _ fun none =>
      serves (prefixesFor_eq_nil_iff.mp none)
    exact failure?_eq_none_iff.mpr (exists_allocate_of_mem member draw)

end PrefixRegistry

namespace ActivationSettings

/-- The first setting that is too large for a byte. -/
def beyondByte? (settings : ActivationSettings) : Option FrameError :=
  if 255 < settings.rx2DataRate.toNat then
    some (.fieldOutOfRange .rx2DataRate settings.rx2DataRate)
  else if 255 < settings.rx1DataRateOffset.toNat then
    some (.fieldOutOfRange .rx1DataRateOffset settings.rx1DataRateOffset)
  else if 255 < settings.rxDelay.toNat then some (.fieldOutOfRange .rxDelay settings.rxDelay)
  else none

/-- The first setting that is too large for its place in the frame. The frequencies are looked at only
if there are five. -/
def beyondPlace? (settings : ActivationSettings) : Option FrameError :=
  if 15 < settings.rxDelay.toNat then some (.fieldOutOfRange .rxDelay settings.rxDelay)
  else if 15 < settings.rx2DataRate.toNat then
    some (.fieldOutOfRange .rx2DataRate settings.rx2DataRate)
  else if 7 < settings.rx1DataRateOffset.toNat then
    some (.fieldOutOfRange .rx1DataRateOffset settings.rx1DataRateOffset)
  else if settings.channels.length = 5 then
    (settings.channels.find? fun frequency => 0xFFFFFF < frequency.toNat / 100).map
      (.fieldOutOfRange .channelList)
  else none

/-- The setting that is named when the settings cannot be said in an acceptance. -/
def misfit? (settings : ActivationSettings) : Option FrameError :=
  settings.beyondByte?.or settings.beyondPlace?

end ActivationSettings

namespace Server

variable {σ : Type} [DeviceStore σ] {store : Server σ}

/-- A setting is narrowed unless it is too large for a byte. -/
theorem failure?_narrow (field : FrameField) (value : UInt32) :
    failure? (narrow field value) =
      if 255 < value.toNat then some (.fieldOutOfRange field value) else none := by
  have small : value < 256 ↔ ¬ 255 < value.toNat := by
    rw [UInt32.lt_iff_toNat_lt, Nat.not_lt]
    exact Nat.lt_succ_iff
  rw [narrow, failure?_ite]
  by_cases large : 255 < value.toNat
  · rw [if_neg fun below => small.mp below large, if_pos large]
    rfl
  · rw [if_pos (small.mpr large), if_neg large]
    rfl

theorem failure?_acceptFrame (netId : NetId) (address : Address) (settings : ActivationSettings) :
    failure? (acceptFrame netId address settings) = settings.beyondByte? := by
  rw [acceptFrame, failure?_bind fun _ _ => failure?_bind fun _ _ =>
    failure?_bind_total fun _ => rfl, failure?_narrow, failure?_narrow, failure?_narrow,
    ActivationSettings.beyondByte?]
  split_ifs <;> rfl

/-- What the frame has no place for has been narrowed, so it is named with its value in the settings. -/
theorem refusal?_acceptFrame {netId : NetId} {address : Address} {settings : ActivationSettings}
    {frame : Frame} (made : acceptFrame netId address settings = .ok frame) :
    frame.refusal? = settings.beyondPlace? := by
  have widened {byte : UInt8} {value : UInt32} (kept : byte.toNat = value.toNat) :
      byte.toUInt32 = value :=
    UInt32.toNat_inj.mp ((UInt8.toNat_toUInt32 byte).trans kept)
  have listed : (ChannelList.ofList? settings.channels).elim [] ChannelList.frequencies =
      if settings.channels.length = 5 then settings.channels else [] := by
    unfold ChannelList.ofList?
    split <;> rfl
  simp only [acceptFrame, bind_eq_ok_iff, narrow_eq_ok_iff] at made
  obtain ⟨rx2DataRate, rx2Kept, rx1DataRateOffset, rx1Kept, delay, delayKept, same⟩ := made
  cases same
  change JoinAccept.misfit? _ = _
  rw [JoinAccept.misfit?, delayKept, rx2Kept, rx1Kept, widened delayKept, widened rx2Kept,
    widened rx1Kept, listed, ActivationSettings.beyondPlace?]
  split_ifs <;> rfl

/-- Neither the address nor the network can make an acceptance impossible. -/
theorem failure?_acceptBytes (netId : NetId) (address : Address) (settings : ActivationSettings) :
    failure? (acceptBytes netId address settings) = settings.misfit?.map .frame := by
  have packed : ∀ frame, acceptFrame netId address settings = .ok frame →
      failure? frame.encode = settings.beyondPlace? :=
    fun frame made => frame.failure?_encode.trans (refusal?_acceptFrame made)
  rw [acceptBytes_eq, failure?_mapError, failure?_bind packed, failure?_acceptFrame,
    ActivationSettings.misfit?]

/-- Why a device is not prepared for joining: the first that applies, in the order in which a request
is looked at. -/
def joinRefusal? (store : Server σ) (request : ActivationRequest) : Option Error :=
  match request.appEui, request.devEui with
  | some appEui, some devEui =>
    match DeviceStore.get store.devices ⟨appEui, devEui⟩ with
    | .error cause => some cause
    | .ok device =>
      match request.metadata, request.template with
      | none, _ | some ⟨none⟩, _ => some (.invalidArgument .activation .missingSettings)
      | some ⟨some _⟩, none => some (.invalidArgument .activation .missingTemplate)
      | some ⟨some settings⟩, some _ =>
        if store.registry.Lacks (requiredUsages device) then
          some (.notFound (.addressPrefix (requiredUsages device)))
        else settings.misfit?.map .frame
  | _, _ => some (.invalidArgument .activation .missingIdentity)

/-- The draw is not asked for: no address that it gives stands in the way of the acceptance. -/
theorem failure?_prepare (store : Server σ) (draw : Draw) (request : ActivationRequest) :
    failure? (store.prepare draw request) = store.joinRefusal? request := by
  obtain ⟨payload, appEui, devEui, appId, devId, metadata, template⟩ := request
  unfold joinRefusal? prepare
  match appEui, devEui with
  | none, _ => rfl
  | some _, none => rfl
  | some appEui, some devEui =>
    dsimp only [identify]
    rw [ok_bind]
    cases DeviceStore.get store.devices ⟨appEui, devEui⟩ with
    | error cause => rfl
    | ok device =>
      rw [ok_bind]
      match metadata, template with
      | none, _ => rfl
      | some ⟨none⟩, _ => rfl
      | some ⟨some settings⟩, none => rfl
      | some ⟨some settings⟩, some template =>
        dsimp only [Option.bind_some]
        rw [failure?_bind fun address _ => (failure?_bind_total fun _ => rfl).trans
          (failure?_acceptBytes _ address settings), PrefixRegistry.failure?_allocate]
        split_ifs <;> rfl

/-- Whether a device is prepared for joining is decided by what is asked for. Over any store, a request
for which `joinRefusal?` has a cause fails for it whatever is drawn, and any other request succeeds
whatever is drawn. What is required of a prefix are the constraints that the text of the device
spells, in their order, and the usage of joining after them. -/
theorem preparation_decided_by_request (store : Server σ) (request : ActivationRequest) :
    (match store.joinRefusal? request with
    | some cause => ∀ draw, store.prepare draw request = .error cause
    | none => ∀ draw, ∃ prepared, store.prepare draw request = .ok prepared) ∧
    ∀ (device : Device) (pieces : List String), requiredUsages device = pieces ++ ["otaa"] ↔
      DeviceOptions.Spells device.options.activationConstraints pieces := by
  constructor
  · have outcome (draw : Draw) := failure?_prepare store draw request
    cases refused : store.joinRefusal? request with
    | some cause =>
      intro draw
      exact failure?_eq_some_iff.mp ((outcome draw).trans refused)
    | none =>
      intro draw
      exact failure?_eq_none_iff.mp ((outcome draw).trans refused)
  · intro device pieces
    rw [← DeviceOptions.constraints_eq_iff]
    exact List.append_left_inj ["otaa"]

end Server

end LoRaNetwork
