import AvensysEsp32.Foundation.Json
import AvensysEsp32.Mqtt.CloudIdentity

/-!
# Status and log messages

The client reports its state and its events in objects of JSON, each with the
hardware id and the active serial.  Their texts, numbers and identities never
come near the 384 bytes of the buffer.  The serial is put between quotes as the
unit has it, and a unit may have any printable characters there.
-/

namespace AvensysEsp32
namespace Mqtt

open Foundation Serial UnitComm

/-! ## Texts -/

/-- What `mqtt_set_last_error` is given. -/
def MqttError.text : MqttError → List UInt8
  -- "none"
  | .none =>
      [110, 111, 110, 101]
  -- "discovery skipped: wifi disconnected"
  | .discoverySkipped =>
      [100, 105, 115, 99, 111, 118, 101, 114, 121, 32, 115, 107, 105, 112, 112, 101, 100, 58, 32,
       119, 105, 102, 105, 32, 100, 105, 115, 99, 111, 110, 110, 101, 99, 116, 101, 100]
  -- "discovery nvs save failed"
  | .discoveryNvsSaveFailed =>
      [100, 105, 115, 99, 111, 118, 101, 114, 121, 32, 110, 118, 115, 32, 115, 97, 118, 101, 32,
       102, 97, 105, 108, 101, 100]
  -- "discovery failed fallback nvs"
  | .discoveryFallbackNvs =>
      [100, 105, 115, 99, 111, 118, 101, 114, 121, 32, 102, 97, 105, 108, 101, 100, 32, 102, 97,
       108, 108, 98, 97, 99, 107, 32, 110, 118, 115]
  -- "discovery failed fallback default"
  | .discoveryFallbackDefault =>
      [100, 105, 115, 99, 111, 118, 101, 114, 121, 32, 102, 97, 105, 108, 101, 100, 32, 102, 97,
       108, 108, 98, 97, 99, 107, 32, 100, 101, 102, 97, 117, 108, 116]
  -- "mqtt disconnected"
  | .mqttDisconnected =>
      [109, 113, 116, 116, 32, 100, 105, 115, 99, 111, 110, 110, 101, 99, 116, 101, 100]
  -- "eeprom write invalid payload length"
  | .eepromWriteInvalid =>
      [101, 101, 112, 114, 111, 109, 32, 119, 114, 105, 116, 101, 32, 105, 110, 118, 97, 108, 105,
       100, 32, 112, 97, 121, 108, 111, 97, 100, 32, 108, 101, 110, 103, 116, 104]
  -- "mqtt transport error"
  | .mqttTransportError =>
      [109, 113, 116, 116, 32, 116, 114, 97, 110, 115, 112, 111, 114, 116, 32, 101, 114, 114, 111,
       114]

/-- The calls of `mqtt_publish_log_event`. -/
inductive LogEvent
  | discoveryOk
  | discoverySaveNvsFail
  | discoveryFallbackNvs
  | discoveryFallbackDefault
  | mqttConnected
  | mqttDisconnected
  | eepromWriteLenInvalid
  | eepromWriteOk
  | mqttTransportError
deriving DecidableEq, Repr

/-- `"INFO"`, `"WARN"` or `"ERROR"` -/
def LogEvent.level : LogEvent → List UInt8
  | .discoveryOk | .mqttConnected | .eepromWriteOk => [73, 78, 70, 79]
  | .discoverySaveNvsFail | .discoveryFallbackNvs | .discoveryFallbackDefault
  | .mqttDisconnected | .eepromWriteLenInvalid => [87, 65, 82, 78]
  | .mqttTransportError => [69, 82, 82, 79, 82]

def LogEvent.code : LogEvent → List UInt8
  -- "DISCOVERY_OK"
  | .discoveryOk =>
      [68, 73, 83, 67, 79, 86, 69, 82, 89, 95, 79, 75]
  -- "DISCOVERY_SAVE_NVS_FAIL"
  | .discoverySaveNvsFail =>
      [68, 73, 83, 67, 79, 86, 69, 82, 89, 95, 83, 65, 86, 69, 95, 78, 86, 83, 95, 70, 65, 73, 76]
  -- "DISCOVERY_FALLBACK_NVS"
  | .discoveryFallbackNvs =>
      [68, 73, 83, 67, 79, 86, 69, 82, 89, 95, 70, 65, 76, 76, 66, 65, 67, 75, 95, 78, 86, 83]
  -- "DISCOVERY_FALLBACK_DEFAULT"
  | .discoveryFallbackDefault =>
      [68, 73, 83, 67, 79, 86, 69, 82, 89, 95, 70, 65, 76, 76, 66, 65, 67, 75, 95, 68, 69, 70, 65,
       85, 76, 84]
  -- "MQTT_CONNECTED"
  | .mqttConnected =>
      [77, 81, 84, 84, 95, 67, 79, 78, 78, 69, 67, 84, 69, 68]
  -- "MQTT_DISCONNECTED"
  | .mqttDisconnected =>
      [77, 81, 84, 84, 95, 68, 73, 83, 67, 79, 78, 78, 69, 67, 84, 69, 68]
  -- "EEPROM_WRITE_LEN_INVALID"
  | .eepromWriteLenInvalid =>
      [69, 69, 80, 82, 79, 77, 95, 87, 82, 73, 84, 69, 95, 76, 69, 78, 95, 73, 78, 86, 65, 76, 73,
       68]
  -- "EEPROM_WRITE_OK"
  | .eepromWriteOk =>
      [69, 69, 80, 82, 79, 77, 95, 87, 82, 73, 84, 69, 95, 79, 75]
  -- "MQTT_TRANSPORT_ERROR"
  | .mqttTransportError =>
      [77, 81, 84, 84, 95, 84, 82, 65, 78, 83, 80, 79, 82, 84, 95, 69, 82, 82, 79, 82]

def LogEvent.message : LogEvent → List UInt8
  -- "endpoint discovery success"
  | .discoveryOk =>
      [101, 110, 100, 112, 111, 105, 110, 116, 32, 100, 105, 115, 99, 111, 118, 101, 114, 121, 32,
       115, 117, 99, 99, 101, 115, 115]
  -- "endpoint discovery save to nvs failed"
  | .discoverySaveNvsFail =>
      [101, 110, 100, 112, 111, 105, 110, 116, 32, 100, 105, 115, 99, 111, 118, 101, 114, 121, 32,
       115, 97, 118, 101, 32, 116, 111, 32, 110, 118, 115, 32, 102, 97, 105, 108, 101, 100]
  -- "endpoint discovery failed fallback nvs"
  | .discoveryFallbackNvs =>
      [101, 110, 100, 112, 111, 105, 110, 116, 32, 100, 105, 115, 99, 111, 118, 101, 114, 121, 32,
       102, 97, 105, 108, 101, 100, 32, 102, 97, 108, 108, 98, 97, 99, 107, 32, 110, 118, 115]
  -- "endpoint discovery failed fallback default"
  | .discoveryFallbackDefault =>
      [101, 110, 100, 112, 111, 105, 110, 116, 32, 100, 105, 115, 99, 111, 118, 101, 114, 121, 32,
       102, 97, 105, 108, 101, 100, 32, 102, 97, 108, 108, 98, 97, 99, 107, 32, 100, 101, 102, 97,
       117, 108, 116]
  -- "mqtt connected"
  | .mqttConnected =>
      [109, 113, 116, 116, 32, 99, 111, 110, 110, 101, 99, 116, 101, 100]
  -- "mqtt disconnected"
  | .mqttDisconnected =>
      [109, 113, 116, 116, 32, 100, 105, 115, 99, 111, 110, 110, 101, 99, 116, 101, 100]
  -- "eeprom write rejected invalid payload length"
  | .eepromWriteLenInvalid =>
      [101, 101, 112, 114, 111, 109, 32, 119, 114, 105, 116, 101, 32, 114, 101, 106, 101, 99, 116,
       101, 100, 32, 105, 110, 118, 97, 108, 105, 100, 32, 112, 97, 121, 108, 111, 97, 100, 32,
       108, 101, 110, 103, 116, 104]
  -- "eeprom write completed"
  | .eepromWriteOk =>
      [101, 101, 112, 114, 111, 109, 32, 119, 114, 105, 116, 101, 32, 99, 111, 109, 112, 108, 101,
       116, 101, 100]
  -- "mqtt transport error"
  | .mqttTransportError =>
      [109, 113, 116, 116, 32, 116, 114, 97, 110, 115, 112, 111, 114, 116, 32, 101, 114, 114, 111,
       114]

/-! ## Messages -/

/-- `sizeof(json_buffer)` of a report -/
abbrev sizeofReportBuffer : Nat := 384

/-- `configTICK_RATE_HZ` -/
abbrev configTickRateHz : UInt32 := 1000

/-- `"serial"` -/
def serialKey : List UInt8 := [115, 101, 114, 105, 97, 108]

/-- What `mqtt_publish_status` prints:
`{"online":true,"wifi":%d,"mqtt":%d,"hw_id":"%s","serial":"%s","uptime_s":%lu,`
`"reconnect_attempts":%lu,"consecutive_failures":%lu,"last_error":"%s"}`. -/
def statusText (tick : UInt32) (s : MqttState) : List UInt8 :=
  [123, 34, 111, 110, 108, 105, 110, 101, 34, 58, 116, 114, 117, 101, 44, 34, 119, 105, 102, 105,
   34, 58] ++
  decimal (if s.wifiConnectedFlag then 1 else 0) ++
  [44, 34, 109, 113, 116, 116, 34, 58] ++
  decimal (if s.mqttConnected then 1 else 0) ++
  [44, 34, 104, 119, 95, 105, 100, 34, 58, 34] ++
  s.deviceHwId ++
  [34, 44, 34, 115, 101, 114, 105, 97, 108, 34, 58, 34] ++
  s.activeSerial ++
  [34, 44, 34, 117, 112, 116, 105, 109, 101, 95, 115, 34, 58] ++
  decimal (tick / configTickRateHz).toNat ++
  [44, 34, 114, 101, 99, 111, 110, 110, 101, 99, 116, 95, 97, 116, 116, 101, 109, 112, 116, 115,
   34, 58] ++
  decimal s.mqttReconnectAttempts.toNat ++
  [44, 34, 99, 111, 110, 115, 101, 99, 117, 116, 105, 118, 101, 95, 102, 97, 105, 108, 117, 114,
   101, 115, 34, 58] ++
  decimal s.mqttConsecutiveFailures.toNat ++
  [44, 34, 108, 97, 115, 116, 95, 101, 114, 114, 111, 114, 34, 58, 34] ++
  s.lastError.text ++
  [34, 125]

/-- What `mqtt_publish_log_event` prints:
`{"seq":%lu,"level":"%s","code":"%s","msg":"%s","hw_id":"%s","serial":"%s",`
`"uptime_s":%lu}`. -/
def logText (event : LogEvent) (tick : UInt32) (s : MqttState) : List UInt8 :=
  [123, 34, 115, 101, 113, 34, 58] ++
  decimal s.logSeq.toNat ++
  [44, 34, 108, 101, 118, 101, 108, 34, 58, 34] ++
  event.level ++
  [34, 44, 34, 99, 111, 100, 101, 34, 58, 34] ++
  event.code ++
  [34, 44, 34, 109, 115, 103, 34, 58, 34] ++
  event.message ++
  [34, 44, 34, 104, 119, 95, 105, 100, 34, 58, 34] ++
  s.deviceHwId ++
  [34, 44, 34, 115, 101, 114, 105, 97, 108, 34, 58, 34] ++
  s.activeSerial ++
  [34, 44, 34, 117, 112, 116, 105, 109, 101, 95, 115, 34, 58] ++
  decimal (tick / configTickRateHz).toNat ++
  [125]

/-- `mqtt_publish_status`: the message, if the status is published. -/
def statusReport (force : Bool) (now tick : UInt32) (s : MqttState) : Option (List UInt8) :=
  if s.client = none ∨ s.mqttConnected = false ∨
      (force = false ∧ s.lastStatusPublishTick ≠ 0 ∧
        now - s.lastStatusPublishTick < mqttStatusInterval) then
    none
  else some (statusText tick s)

/-- `mqtt_publish_log_event`: the message, if the event is published. -/
def logReport (event : LogEvent) (tick : UInt32) (s : MqttState) : Option (List UInt8) :=
  if s.client = none ∨ s.mqttConnected = false then none
  else some (logText event tick (mqttPublishLogEvent s))

/-- The string that `snprintf` leaves in the buffer. -/
def reportPayload (text : List UInt8) : List UInt8 :=
  text.take (sizeofReportBuffer - 1)

/-- `mqtt_publish_json_identity`: the topic and the payload the client is given. -/
def mqttPublishJsonIdentity (identity suffix payload : List UInt8) (s : MqttState) :
    List (List UInt8 × List UInt8) :=
  if identity = [] ∨ s.client = none ∨ s.mqttConnected = false then []
  else [(mqttBuildTopic 96 identity suffix, payload)]

/-- `mqtt_publish_json_dual_channel` -/
def mqttPublishJsonDualChannel (suffix payload : List UInt8) (s : MqttState) :
    List (List UInt8 × List UInt8) :=
  mqttPublishJsonIdentity s.deviceHwId suffix payload s ++
    if s.activeSerial ≠ [] ∧ s.activeSerial ≠ s.deviceHwId then
      mqttPublishJsonIdentity s.activeSerial suffix payload s
    else []

/-- `"esp/status"` -/
def espStatus : List UInt8 :=
  [101, 115, 112, 47, 115, 116, 97, 116, 117, 115]

/-- `"esp/log"` -/
def espLog : List UInt8 :=
  [101, 115, 112, 47, 108, 111, 103]

/-- What `mqtt_publish_status` publishes. -/
def statusMessages (force : Bool) (now tick : UInt32) (s : MqttState) :
    List (List UInt8 × List UInt8) :=
  match statusReport force now tick s with
  | some text => mqttPublishJsonDualChannel espStatus (reportPayload text) s
  | none => []

/-- What `mqtt_publish_log_event` publishes. -/
def logMessages (event : LogEvent) (tick : UInt32) (s : MqttState) :
    List (List UInt8 × List UInt8) :=
  match logReport event tick s with
  | some text => mqttPublishJsonDualChannel espLog (reportPayload text) s
  | none => []

/-- The message fits its buffer, and is an object with the serial for its member
of that name. -/
structure ValidReport (text serial : List UInt8) : Prop where
  complete : text.length < sizeofReportBuffer
  object : ∃ v, parseJson (reportPayload text) = some v ∧
    v.values (units serialKey) = [.string (units serial)]

/-- Whatever is published of the state and of the event is a valid report. -/
def ReportsValid (force : Bool) (now tick : UInt32) (event : LogEvent) (s : MqttState) : Prop :=
  (∀ text ∈ statusReport force now tick s, ValidReport text s.activeSerial) ∧
    ∀ text ∈ logReport event tick s, ValidReport text s.activeSerial

section Published

variable (force : Bool) (now tick : UInt32) (event : LogEvent) (s : MqttState)

end Published

/-! ## The identities in a message -/

/-- The hardware id is that of the board, and the serial that of some mirror, as
soon as they are known. -/
structure Identified (s : MqttState) : Prop where
  hwId : s.deviceHwId = [] ∨ s.deviceHwId = hwIdOf s.efuseMac
  serial : ∃ m, s.activeSerial = serialIn m

section Identities

/-- The digits and letters of a hardware id can stand between quotes. -/
theorem plain_hwIdOf
    (mac : Option (Vector UInt8 6)) :
    Plain (hwIdOf mac) := by
  have hdigit : ∀ value < 16, 32 ≤ hexDigit value ∧ hexDigit value < 128 ∧
      hexDigit value ≠ 34 ∧ hexDigit value ≠ 92 := by
    intro value h
    interval_cases value <;> decide
  cases mac with
  | none => decide
  | some mac =>
      intro c hc
      obtain ⟨b, -, hc⟩ := List.mem_flatMap.mp hc
      have hb : b.toNat < 256 := b.toNat_lt
      rcases List.mem_pair.mp hc with rfl | rfl
      · exact hdigit _ (by omega)
      · exact hdigit _ (by omega)

/-- A serial prints, so that only two characters are in its way. -/
theorem plain_serialIn_iff
    (m : Memory) :
    Plain (serialIn m) ↔ 34 ∉ serialIn m ∧ 92 ∉ serialIn m := by
  constructor
  · intro hplain
    exact ⟨fun hquote => (hplain 34 hquote).2.2.1 rfl, fun hslash => (hplain 92 hslash).2.2.2 rfl⟩
  · rintro ⟨hquote, hslash⟩ c hc
    have hprint := (plainSerial_serialIn (List.ne_nil_of_mem hc)).printable c hc
    unfold isprint at hprint
    simp only [Bool.and_eq_true, decide_eq_true_eq] at hprint
    refine ⟨hprint.1, by grind, ?_, ?_⟩
    · rintro rfl
      exact hquote hc
    · rintro rfl
      exact hslash hc

variable {s : MqttState}

theorem Identified.plain_hwId
    (h : Identified s) :
    Plain s.deviceHwId := by
  rcases h.hwId with hnil | hhwId
  · rw [hnil]
    decide
  · rw [hhwId]
    exact plain_hwIdOf _

theorem Identified.length_hwId
    (h : Identified s) :
    s.deviceHwId.length ≤ eepromSerialMaxLen := by
  rcases h.hwId with hnil | hhwId
  · rw [hnil]
    decide
  · rw [hhwId]
    exact length_hwIdOf_le _

theorem Identified.length_serial
    (h : Identified s) :
    s.activeSerial.length ≤ eepromSerialMaxLen := by
  obtain ⟨m, hm⟩ := h.serial
  rw [hm]
  exact length_serialIn_le m

theorem Identified.plain_serial_iff
    (h : Identified s) :
    Plain s.activeSerial ↔ 34 ∉ s.activeSerial ∧ 92 ∉ s.activeSerial := by
  obtain ⟨m, hm⟩ := h.serial
  rw [hm]
  exact plain_serialIn_iff m

end Identities

/-! ## What is read of a message -/

section Status

variable (s : MqttState)

/-- The members of a status before the serial. -/
def statusLeading (hhwId : Plain s.deviceHwId) : List JsonField :=
  [.ofTrue [111, 110, 108, 105, 110, 101] (by decide),
    .ofNat [119, 105, 102, 105] (if s.wifiConnectedFlag then 1 else 0) (by decide),
    .ofNat [109, 113, 116, 116] (if s.mqttConnected then 1 else 0) (by decide),
    .ofString [104, 119, 95, 105, 100] s.deviceHwId (by decide) hhwId]

/-- The numbers of a status after the serial. -/
def statusFollowing (tick : UInt32) : List JsonField :=
  [.ofNat [117, 112, 116, 105, 109, 101, 95, 115] (tick / configTickRateHz).toNat (by decide),
    .ofNat
      [114, 101, 99, 111, 110, 110, 101, 99, 116, 95, 97, 116, 116, 101, 109, 112, 116, 115]
      s.mqttReconnectAttempts.toNat (by decide),
    .ofNat
      [99, 111, 110, 115, 101, 99, 117, 116, 105, 118, 101, 95, 102, 97, 105, 108, 117, 114, 101,
       115]
      s.mqttConsecutiveFailures.toNat (by decide)]

theorem plain_errorText
    (error : MqttError) :
    Plain error.text := by
  cases error <;> decide

/-- The last member of a status. -/
def statusLast : JsonField :=
  .ofString [108, 97, 115, 116, 95, 101, 114, 114, 111, 114] s.lastError.text (by decide)
    (plain_errorText s.lastError)

theorem statusText_eq
    (tick : UInt32) (hhwId : Plain s.deviceHwId) :
    statusText tick s =
      123 :: fieldsText (statusLeading s hhwId) (quoted serialKey ++ 58 ::
        (quoted s.activeSerial ++ 44 :: fieldsText (statusFollowing s tick)
          (quoted (statusLast s).key ++ 58 :: ((statusLast s).text ++ [125])))) := by
  simp [statusText, statusLeading, statusFollowing, statusLast, fieldsText, JsonField.ofTrue,
    JsonField.ofNat, JsonField.ofString, quoted, serialKey]

end Status

section Log

variable (event : LogEvent) (s : MqttState)

theorem plain_level :
    Plain event.level := by
  cases event <;> decide

theorem plain_code :
    Plain event.code := by
  cases event <;> decide

theorem plain_message :
    Plain event.message := by
  cases event <;> decide

/-- The members of a log message before the serial. -/
def logLeading (hhwId : Plain s.deviceHwId) : List JsonField :=
  [.ofNat [115, 101, 113] s.logSeq.toNat (by decide),
    .ofString [108, 101, 118, 101, 108] event.level (by decide) (plain_level event),
    .ofString [99, 111, 100, 101] event.code (by decide) (plain_code event),
    .ofString [109, 115, 103] event.message (by decide) (plain_message event),
    .ofString [104, 119, 95, 105, 100] s.deviceHwId (by decide) hhwId]

/-- The last member of a log message. -/
def logLast (tick : UInt32) : JsonField :=
  .ofNat [117, 112, 116, 105, 109, 101, 95, 115] (tick / configTickRateHz).toNat (by decide)

theorem logText_eq
    (tick : UInt32) (hhwId : Plain s.deviceHwId) :
    logText event tick s =
      123 :: fieldsText (logLeading event s hhwId) (quoted serialKey ++ 58 ::
        (quoted s.activeSerial ++ 44 :: fieldsText []
          (quoted (logLast tick).key ++ 58 :: ((logLast tick).text ++ [125])))) := by
  simp [logText, logLeading, logLast, fieldsText, JsonField.ofNat, JsonField.ofString, quoted,
    serialKey]

end Log

section Lengths

variable {s : MqttState} (tick : UInt32)

theorem length_decimal_uint32
    (n : UInt32) :
    (decimal n.toNat).length ≤ 10 :=
  length_decimal_le (by decide) (lt_of_lt_of_le n.toNat_lt (by decide))

theorem length_decimal_flag
    (flag : Bool) :
    (decimal (if flag then 1 else 0)).length ≤ 1 := by
  cases flag <;> decide

/-- The longest status is shorter than its buffer. -/
theorem length_statusText_lt
    (h : Identified s) :
    (statusText tick s).length < sizeofReportBuffer := by
  have hhwId := h.length_hwId
  have hserial := h.length_serial
  have hwifi := length_decimal_flag s.wifiConnectedFlag
  have hmqtt := length_decimal_flag s.mqttConnected
  have huptime := length_decimal_uint32 (tick / configTickRateHz)
  have hattempts := length_decimal_uint32 s.mqttReconnectAttempts
  have hfailures := length_decimal_uint32 s.mqttConsecutiveFailures
  have herror : s.lastError.text.length ≤ 36 := by
    cases s.lastError <;> decide
  unfold eepromSerialMaxLen at hhwId hserial
  unfold statusText sizeofReportBuffer
  simp only [List.length_append, List.length_cons, List.length_nil]
  omega

/-- The longest log message is shorter than its buffer. -/
theorem length_logText_lt
    (event : LogEvent) (h : Identified s) :
    (logText event tick s).length < sizeofReportBuffer := by
  have hhwId := h.length_hwId
  have hserial := h.length_serial
  have huptime := length_decimal_uint32 (tick / configTickRateHz)
  have hseq := length_decimal_uint32 s.logSeq
  have hlevel : event.level.length ≤ 5 := by
    cases event <;> decide
  have hcode : event.code.length ≤ 26 := by
    cases event <;> decide
  have hmessage : event.message.length ≤ 44 := by
    cases event <;> decide
  unfold eepromSerialMaxLen at hhwId hserial
  unfold logText sizeofReportBuffer
  simp only [List.length_append, List.length_cons, List.length_nil]
  omega

end Lengths

section Valid

variable {s : MqttState} (tick : UInt32)

/-- A message that fits its buffer is valid if it is read as it is meant. -/
theorem validReport_iff
    {text serial : List UInt8} (hlength : text.length < sizeofReportBuffer) :
    ValidReport text serial ↔
      ∃ v, parseJson text = some v ∧ v.values (units serialKey) = [.string (units serial)] := by
  have hpayload : reportPayload text = text := by
    unfold reportPayload
    exact List.take_of_length_le (by omega)
  constructor
  · intro h
    rw [← hpayload]
    exact h.object
  · intro h
    refine ⟨hlength, ?_⟩
    rwa [hpayload]

theorem validStatus_iff
    (h : Identified s) :
    ValidReport (statusText tick s) s.activeSerial ↔
      34 ∉ s.activeSerial ∧ 92 ∉ s.activeSerial := by
  rw [validReport_iff (length_statusText_lt tick h), statusText_eq s tick h.plain_hwId,
    string_between_fields_iff (by decide) s.activeSerial, h.plain_serial_iff]
  · simp [Unnamed, statusLeading, JsonField.ofTrue, JsonField.ofNat, JsonField.ofString, serialKey]
  · simp [Unnamed, statusFollowing, statusLast, JsonField.ofNat, JsonField.ofString, serialKey]

theorem validLog_iff
    (event : LogEvent) (h : Identified s) :
    ValidReport (logText event tick s) s.activeSerial ↔
      34 ∉ s.activeSerial ∧ 92 ∉ s.activeSerial := by
  rw [validReport_iff (length_logText_lt tick event h), logText_eq event s tick h.plain_hwId,
    string_between_fields_iff (by decide) s.activeSerial, h.plain_serial_iff]
  · simp [Unnamed, logLeading, JsonField.ofNat, JsonField.ofString, serialKey]
  · simp [Unnamed, logLast, JsonField.ofNat, serialKey]

/-- What is published is valid if there is nothing published, or the serial has
neither quote nor backslash. -/
theorem reportsValid_iff
    (force : Bool) (now : UInt32) (event : LogEvent) (h : Identified s) :
    ReportsValid force now tick event s ↔
      s.client = none ∨ s.mqttConnected = false ∨
        (34 ∉ s.activeSerial ∧ 92 ∉ s.activeSerial) := by
  have hlogged : Identified (mqttPublishLogEvent s) := ⟨h.hwId, h.serial⟩
  have hlog := validLog_iff tick event hlogged
  unfold ReportsValid statusReport logReport
  by_cases hsilent : s.client = none ∨ s.mqttConnected = false
  · rw [if_pos (hsilent.imp id Or.inl), if_pos hsilent]
    constructor
    · intro _
      exact hsilent.imp id Or.inl
    · intro _
      refine ⟨?_, ?_⟩
      · intro text htext
        cases htext
      · intro text htext
        cases htext
  · rw [if_neg hsilent]
    constructor
    · intro hvalid
      exact Or.inr (Or.inr (hlog.mp (hvalid.2 _ rfl)))
    · intro hplain
      have hserial : 34 ∉ s.activeSerial ∧ 92 ∉ s.activeSerial := by
        rcases hplain with hclient | hconnected | hserial
        · exact absurd (Or.inl hclient) hsilent
        · exact absurd (Or.inr hconnected) hsilent
        · exact hserial
      refine ⟨?_, ?_⟩
      · intro text htext
        split at htext
        · cases htext
        · obtain rfl := Option.some.inj htext
          exact (validStatus_iff tick h).mpr hserial
      · intro text htext
        obtain rfl := Option.some.inj htext
        exact hlog.mpr hserial

end Valid

/-! ## Runs -/

section Runs

variable {s s' : MqttState}

theorem identified_initial
    (efuseMac : Option (Vector UInt8 6)) (nvs : EndpointNvs) :
    Identified (MqttState.initial efuseMac nvs) :=
  ⟨Or.inl rfl, fun _ => 0, (by decide : [] = serialIn fun _ => 0)⟩

theorem SameConnection.identified
    (hsame : SameConnection s s') (h : Identified s) :
    Identified s' where
  hwId := by
    rw [hsame.deviceHwId, hsame.efuseMac]
    exact h.hwId
  serial := by
    rw [hsame.activeSerial]
    exact h.serial

/-- Noticing the identities makes them those of the board and of the mirror. -/
theorem identified_noticed
    (h : Identified s) :
    Identified (noticed s) where
  hwId := by
    right
    show (if s.deviceHwId = [] then hwIdOf s.efuseMac else s.deviceHwId) = hwIdOf s.efuseMac
    split
    · rfl
    · rename_i hne
      exact h.hwId.resolve_left hne
  serial := ⟨s.gRDEeprom, rfl⟩

theorem identified_refresh
    (force : Bool) (h : Identified s) :
    Identified (mqttRefreshAppSubscriptions force s) := by
  obtain ⟨client, last, subscribed, heq, -⟩ := mqttRefreshAppSubscriptions_frame force s
  rw [heq]
  have hnoticed := identified_noticed h
  exact ⟨hnoticed.hwId, hnoticed.serial⟩

theorem identified_startSelected
    (inp : PassInput) (h : Identified s) :
    Identified (startSelected inp s).1 := by
  cases hvalid : mqttEndpointIsValid s.selectedEndpoint with
  | false =>
      rw [startSelected_invalid inp hvalid]
      exact ⟨h.hwId, h.serial⟩
  | true =>
      rw [startSelected_valid inp hvalid]
      split
      · exact ⟨h.hwId, h.serial⟩
      · exact ⟨h.hwId, h.serial⟩

theorem identified_keptUp
    {s₁ : MqttState} (h : Identified s₁) :
    Identified (keptUp s s₁) := by
  unfold keptUp
  split
  · exact identified_refresh false h
  · exact h

theorem identified_maintenance
    (inp : PassInput) (h : Identified s) :
    Identified (mqttConnectionMaintenance inp s).1 := by
  have hnoticed := identified_noticed h
  have hcase := mqttConnectionMaintenance_case inp s
  generalize mqttConnectionMaintenance inp s = result at hcase
  cases hcase with
  | idle hsame hidle => exact hsame.identified hnoticed
  | kept hwifi hstarted hkept hsame₁ hsame hkeeps =>
      exact hsame.identified (identified_keptUp (hsame₁.identified hnoticed))
  | restarted hsame₁ hsame hrestarts hvalid =>
      exact identified_startSelected inp
        (hsame.identified (identified_keptUp (hsame₁.identified hnoticed)))
  | started hwifi hstopped hsame =>
      exact identified_startSelected inp (hsame.identified hnoticed)
  | recreated hwifi hstarted hready hconnected hheld hsame =>
      exact identified_startSelected inp (hsame.identified hnoticed)
  | reconnected hwifi hstarted hready hconnected hheld hsame hclient =>
      have hsame' := hsame.identified hnoticed
      split
      · exact hsame'
      · exact ⟨hsame'.hwId, hsame'.serial⟩

theorem identified_writeEeprom
    (tick : UInt32) (payload : List UInt8) (h : Identified s) :
    Identified (writeEeprom tick payload s) := by
  unfold writeEeprom
  split
  · exact ⟨h.hwId, h.serial⟩
  · rename_i gRDEeprom _
    dsimp only
    unfold refreshIfChanged
    rw [mqttUpdateActiveSerialFromEeprom_eq]
    dsimp only
    split
    · exact identified_refresh false ⟨h.hwId, gRDEeprom, rfl⟩
    · exact ⟨h.hwId, gRDEeprom, rfl⟩

theorem identified_mqttEventHandler
    (tick : UInt32) (event : ClientEvent) (h : Identified s) :
    Identified (mqttEventHandler tick event s) := by
  have hnoticed := identified_noticed h
  rw [mqttEventHandler_eq]
  cases event with
  | connected =>
      refine (sameConnection_publish true tick _).identified (identified_refresh true ?_)
      exact ⟨hnoticed.hwId, hnoticed.serial⟩
  | disconnected => exact ⟨hnoticed.hwId, hnoticed.serial⟩
  | subscribed =>
      dsimp only
      split
      · exact ⟨hnoticed.hwId, hnoticed.serial⟩
      · exact ⟨hnoticed.hwId, hnoticed.serial⟩
  | data topic payload =>
      dsimp only
      split
      · exact identified_writeEeprom tick payload hnoticed
      · exact hnoticed
  | error => exact ⟨hnoticed.hwId, hnoticed.serial⟩
  | unsubscribed => exact hnoticed
  | published => exact hnoticed
  | other => exact hnoticed

theorem identified_mqttStep
    (e : MqttEvent) (h : Identified s) :
    Identified (mqttStep e s) := by
  cases e with
  | taskStarted reads =>
      unfold mqttStep
      rw [mqttUpdateActiveSerialFromEeprom_eq]
      exact (sameConnection_endpointInitOnce reads _).identified (identified_noticed h)
  | pass inp => exact identified_maintenance inp h
  | client tick event =>
      cases hclient : s.client with
      | none => simpa only [mqttStep, hclient] using h
      | some client =>
          have hafter : Identified { s with client := some (client.after event) } :=
            ⟨h.hwId, h.serial⟩
          simpa only [mqttStep, hclient] using identified_mqttEventHandler tick event hafter
  | subscribeAppTopics => exact identified_refresh false h
  | eeprom gRDEeprom => exact ⟨h.hwId, h.serial⟩
  | wifi connected => exact ⟨h.hwId, h.serial⟩

theorem identified_run
    (es : List MqttEvent) (h : Identified s) :
    Identified (run mqttStep es s) := by
  induction es generalizing s with
  | nil => exact h
  | cons e es ih => exact ih (identified_mqttStep e h)

end Runs

/-- What else a report says, or depends on, at the moment of a step at which it is
made. -/
structure ReportMoment where
  wifiConnectedFlag : Bool
  client : Option MqttClient
  mqttConnected : Bool
  mqttConsecutiveFailures : UInt32
  mqttReconnectAttempts : UInt32
  lastStatusPublishTick : UInt32
  logSeq : UInt32
  lastError : MqttError

/-- The state at that moment, with the identities of the given one. -/
def ReportMoment.of (moment : ReportMoment) (s : MqttState) : MqttState :=
  { s with
    wifiConnectedFlag := moment.wifiConnectedFlag
    client := moment.client
    mqttConnected := moment.mqttConnected
    mqttConsecutiveFailures := moment.mqttConsecutiveFailures
    mqttReconnectAttempts := moment.mqttReconnectAttempts
    lastStatusPublishTick := moment.lastStatusPublishTick
    logSeq := moment.logSeq
    lastError := moment.lastError }

/-- After any run, and whatever the flags, the counters and the last error are by
then, the reports are valid exactly if there are none or the active serial has
neither quote nor backslash. -/
theorem reports_valid_along_iff
    (efuseMac : Option (Vector UInt8 6)) (nvs : EndpointNvs) (es : List MqttEvent)
    (moment : ReportMoment) (force : Bool) (now tick : UInt32) (event : LogEvent) :
    ReportsValid force now tick event
        (moment.of (run mqttStep es (MqttState.initial efuseMac nvs))) ↔
      moment.client = none ∨ moment.mqttConnected = false ∨
        (34 ∉ (run mqttStep es (MqttState.initial efuseMac nvs)).activeSerial ∧
          92 ∉ (run mqttStep es (MqttState.initial efuseMac nvs)).activeSerial) := by
  have hrun := identified_run es (identified_initial efuseMac nvs)
  exact reportsValid_iff tick force now event ⟨hrun.hwId, hrun.serial⟩

/-- A mirror with the serial `a"b`. -/
def quotedSerialImage : Memory :=
  store (fun _ => 0) serialStringOffset [97, 34, 98]

/-- The client of a unit with that serial is started and connects. -/
def quotedSerialRun : List MqttEvent :=
  [.eeprom quotedSerialImage, .wifi true, .taskStarted .ok, passAt 0 none, .client 1 .connected]

/-- The status is published, and is no JSON text. -/
def statusUnread (force : Bool) (now tick : UInt32) (s : MqttState) : Bool :=
  (statusReport force now tick s).any fun text => (parseJson (reportPayload text)).isNone

theorem not_valid_of_unread
    {force : Bool} {now tick : UInt32} {s : MqttState} (h : statusUnread force now tick s = true)
    (event : LogEvent) :
    ¬ ReportsValid force now tick event s := by
  unfold statusUnread at h
  rintro ⟨hstatus, -⟩
  cases hreport : statusReport force now tick s with
  | none =>
      rw [hreport] at h
      cases h
  | some text =>
      obtain ⟨v, hv, -⟩ := (hstatus text hreport).object
      rw [hreport, Option.any_some, hv] at h
      cases h

/-- Its status is not an object of JSON. -/
theorem quotedSerial_report :
    (run mqttStep quotedSerialRun (MqttState.initial none .empty)).activeSerial = [97, 34, 98] ∧
      statusUnread true 1 1 (run mqttStep quotedSerialRun (MqttState.initial none .empty)) = true ∧
      ¬ ReportsValid true 1 1 .mqttConnected
        (run mqttStep quotedSerialRun (MqttState.initial none .empty)) := by
  have hunread : statusUnread true 1 1
      (run mqttStep quotedSerialRun (MqttState.initial none .empty)) = true := by
    decide +kernel
  exact ⟨by decide +kernel, hunread, not_valid_of_unread hunread .mqttConnected⟩

end Mqtt
end AvensysEsp32
