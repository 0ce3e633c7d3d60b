import LoRaNetwork.Json.Record
import LoRaNetwork.Message

/-!
The JSON forms of messages. Every member is written; those that may be null may be left out on the
way in.
-/

namespace LoRaNetwork

open Json

instance : JsonForm DevicesRequest where
  encode request := .object [
    ("dev_addr", JsonForm.encode request.address),
    ("fcnt", JsonForm.encode request.counter)]
  decode value := do
    let members ← value.members
    let address ← optional members "dev_addr"
    let counter ← required members "fcnt"
    some ⟨address, counter⟩

instance : JsonForm DeviceInfo where
  encode info := .object [
    ("app_eui", JsonForm.encode info.identity.appEui),
    ("app_id", JsonForm.encode info.appId),
    ("dev_eui", JsonForm.encode info.identity.devEui),
    ("dev_id", JsonForm.encode info.devId),
    ("nwk_skey", JsonForm.encode info.sessionKey),
    ("fcnt_up", JsonForm.encode info.counterUp),
    ("uses_32bit_fcnt", JsonForm.encode info.wideCounter),
    ("disable_fcnt_check", JsonForm.encode info.uncheckedCounter)]
  decode value := do
    let members ← value.members
    let appEui ← required members "app_eui"
    let appId ← required members "app_id"
    let devEui ← required members "dev_eui"
    let devId ← required members "dev_id"
    let sessionKey ← required members "nwk_skey"
    let counterUp ← required members "fcnt_up"
    let wideCounter ← required members "uses_32bit_fcnt"
    let uncheckedCounter ← required members "disable_fcnt_check"
    some {
      identity := ⟨appEui, devEui⟩
      appId := appId
      devId := devId
      sessionKey := sessionKey
      counterUp := counterUp
      wideCounter := wideCounter
      uncheckedCounter := uncheckedCounter }

instance : JsonForm DevicesResponse where
  encode response := .object [("results", JsonForm.encode response.results)]
  decode value := do
    let members ← value.members
    let results ← required members "results"
    some ⟨results⟩

instance : JsonForm Transmission where
  encode transmission := .object [
    ("fcnt", JsonForm.encode transmission.counter),
    ("data_rate", JsonForm.encode transmission.dataRate),
    ("coding_rate", JsonForm.encode transmission.codingRate)]
  decode value := do
    let members ← value.members
    let counter ← required members "fcnt"
    let dataRate ← required members "data_rate"
    let codingRate ← required members "coding_rate"
    some ⟨counter, dataRate, codingRate⟩

instance {α : Type} [JsonForm α] : JsonForm (ProtocolPart α) where
  encode part := .object [("lorawan", JsonForm.encode part.lorawan)]
  decode value := do
    let members ← value.members
    let lorawan ← optional members "lorawan"
    some ⟨lorawan⟩

instance : JsonForm ActivationSettings where
  encode settings := .object [
    ("app_eui", JsonForm.encode settings.appEui),
    ("dev_eui", JsonForm.encode settings.devEui),
    ("dev_addr", JsonForm.encode settings.address),
    ("nwk_skey", JsonForm.encode settings.sessionKey),
    ("rx1_dr_offset", JsonForm.encode settings.rx1DataRateOffset),
    ("rx2_dr", JsonForm.encode settings.rx2DataRate),
    ("rx_delay", JsonForm.encode settings.rxDelay),
    ("cf_list", JsonForm.encode settings.channels)]
  decode value := do
    let members ← value.members
    let appEui ← optional members "app_eui"
    let devEui ← optional members "dev_eui"
    let address ← optional members "dev_addr"
    let sessionKey ← optional members "nwk_skey"
    let rx1DataRateOffset ← required members "rx1_dr_offset"
    let rx2DataRate ← required members "rx2_dr"
    let rxDelay ← required members "rx_delay"
    let channels ← required members "cf_list"
    some {
      appEui := appEui
      devEui := devEui
      address := address
      sessionKey := sessionKey
      rx1DataRateOffset := rx1DataRateOffset
      rx2DataRate := rx2DataRate
      rxDelay := rxDelay
      channels := channels }

instance : JsonForm DownlinkOption where
  encode option := .object [
    ("identifier", JsonForm.encode option.identifier),
    ("gateway_id", JsonForm.encode option.gatewayId),
    ("protocol_config", JsonForm.encode option.protocol)]
  decode value := do
    let members ← value.members
    let identifier ← required members "identifier"
    let gatewayId ← required members "gateway_id"
    let protocol ← optional members "protocol_config"
    some ⟨identifier, gatewayId, protocol⟩

instance : JsonForm DownlinkMessage where
  encode message := .object [
    ("payload", JsonForm.encode message.payload),
    ("app_eui", JsonForm.encode message.appEui),
    ("dev_eui", JsonForm.encode message.devEui),
    ("app_id", JsonForm.encode message.appId),
    ("dev_id", JsonForm.encode message.devId),
    ("downlink_option", JsonForm.encode message.option)]
  decode value := do
    let members ← value.members
    let payload ← required members "payload"
    let appEui ← optional members "app_eui"
    let devEui ← optional members "dev_eui"
    let appId ← required members "app_id"
    let devId ← required members "dev_id"
    let option ← optional members "downlink_option"
    some ⟨payload, appEui, devEui, appId, devId, option⟩

instance : JsonForm UplinkMessage where
  encode message := .object [
    ("payload", JsonForm.encode message.payload),
    ("app_eui", JsonForm.encode message.appEui),
    ("dev_eui", JsonForm.encode message.devEui),
    ("app_id", JsonForm.encode message.appId),
    ("dev_id", JsonForm.encode message.devId),
    ("protocol_metadata", JsonForm.encode message.metadata),
    ("response_template", JsonForm.encode message.template)]
  decode value := do
    let members ← value.members
    let payload ← required members "payload"
    let appEui ← optional members "app_eui"
    let devEui ← optional members "dev_eui"
    let appId ← required members "app_id"
    let devId ← required members "dev_id"
    let metadata ← optional members "protocol_metadata"
    let template ← optional members "response_template"
    some ⟨payload, appEui, devEui, appId, devId, metadata, template⟩

instance : JsonForm ActivationRequest where
  encode request := .object [
    ("payload", JsonForm.encode request.payload),
    ("app_eui", JsonForm.encode request.appEui),
    ("dev_eui", JsonForm.encode request.devEui),
    ("app_id", JsonForm.encode request.appId),
    ("dev_id", JsonForm.encode request.devId),
    ("activation_metadata", JsonForm.encode request.metadata),
    ("response_template", JsonForm.encode request.template)]
  decode value := do
    let members ← value.members
    let payload ← required members "payload"
    let appEui ← optional members "app_eui"
    let devEui ← optional members "dev_eui"
    let appId ← required members "app_id"
    let devId ← required members "dev_id"
    let metadata ← optional members "activation_metadata"
    let template ← optional members "response_template"
    some ⟨payload, appEui, devEui, appId, devId, metadata, template⟩

instance : JsonForm ActivationResponse where
  encode response := .object [
    ("payload", JsonForm.encode response.payload),
    ("activation_metadata", JsonForm.encode response.metadata)]
  decode value := do
    let members ← value.members
    let payload ← required members "payload"
    let metadata ← optional members "activation_metadata"
    some ⟨payload, metadata⟩

end LoRaNetwork
