import LoRaNetwork.Config
import LoRaNetwork.Device
import LoRaNetwork.Json.Value
import LoRaNetwork.Time.Rfc3339

/-!
The JSON forms of identifiers, of device records and of configurations. Identifiers and keys are
lists of bytes, most significant first; prefixes and instants are strings.
-/

namespace LoRaNetwork

open Json

instance {n : Nat} : JsonForm (Octets n) where
  encode octets := JsonForm.encode octets.toList
  decode value := (JsonForm.decode value).bind Octets.ofList?

instance : JsonForm Eui where
  encode eui := JsonForm.encode eui.octets
  decode value := (JsonForm.decode value).map Eui.mk

instance : JsonForm Key where
  encode key := JsonForm.encode key.octets
  decode value := (JsonForm.decode value).map Key.mk

instance : JsonForm NetId where
  encode netId := JsonForm.encode netId.octets
  decode value := (JsonForm.decode value).map NetId.mk

instance : JsonForm Address where
  encode address := JsonForm.encode address.octets
  decode value := (JsonForm.decode value).map Address.ofOctets

instance : JsonForm AddressPrefix where
  encode range := .string range.text
  decode
    | .string text => (AddressPrefix.parse text).toOption
    | _ => none

instance : JsonForm Instant where
  encode instant := .string instant.text
  decode
    | .string text => Instant.parse text
    | _ => none

instance : JsonForm DeviceOptions where
  encode options := .object [
    ("uses_32bit_fcnt", JsonForm.encode options.wideCounter),
    ("disable_fcnt_check", JsonForm.encode options.uncheckedCounter),
    ("activation_constraints", JsonForm.encode options.activationConstraints)]
  decode value := do
    let members ← value.members
    let wideCounter ← required members "uses_32bit_fcnt"
    let uncheckedCounter ← required members "disable_fcnt_check"
    let activationConstraints ← required members "activation_constraints"
    some ⟨wideCounter, uncheckedCounter, activationConstraints⟩

instance : JsonForm Device where
  encode device := .object [
    ("app_eui", JsonForm.encode device.identity.appEui),
    ("dev_eui", JsonForm.encode device.identity.devEui),
    ("app_id", JsonForm.encode device.appId),
    ("dev_id", JsonForm.encode device.devId),
    ("dev_addr", JsonForm.encode device.address),
    ("nwk_skey", JsonForm.encode device.sessionKey),
    ("fcnt_up", JsonForm.encode device.counterUp),
    ("fcnt_down", JsonForm.encode device.counterDown),
    ("options", JsonForm.encode device.options),
    ("last_seen", JsonForm.encode device.lastSeen)]
  decode value := do
    let members ← value.members
    let appEui ← required members "app_eui"
    let devEui ← required members "dev_eui"
    let appId ← required members "app_id"
    let devId ← required members "dev_id"
    let address ← required members "dev_addr"
    let sessionKey ← required members "nwk_skey"
    let counterUp ← required members "fcnt_up"
    let counterDown ← required members "fcnt_down"
    let options ← required members "options"
    let lastSeen ← optional members "last_seen"
    some {
      identity := ⟨appEui, devEui⟩
      appId := appId
      devId := devId
      address := address
      sessionKey := sessionKey
      counterUp := counterUp
      counterDown := counterDown
      options := options
      lastSeen := lastSeen }

instance : JsonForm PrefixConfig where
  encode entry := .object [
    ("prefix", JsonForm.encode entry.range),
    ("usages", JsonForm.encode entry.usages)]
  decode value := do
    let members ← value.members
    let range ← required members "prefix"
    let usages ← defaulted members "usages" []
    some ⟨range, usages⟩

instance : JsonForm Config where
  encode config := .object [
    ("net_id", JsonForm.encode config.netId),
    ("prefixes", JsonForm.encode config.prefixes)]
  decode value := do
    let members ← value.members
    let netId ← required members "net_id"
    let prefixes ← defaulted members "prefixes" []
    some ⟨netId, prefixes⟩

end LoRaNetwork
