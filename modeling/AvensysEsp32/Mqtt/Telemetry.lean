import AvensysEsp32.Foundation.Json
import AvensysEsp32.Foundation.Printing
import AvensysEsp32.Mqtt.CloudIdentity

/-!
# Telemetry

`publish_debug_message` prints the bytes it publishes as decimal numbers into an
object of JSON, piece by piece into a buffer of 1024 bytes, and passes the sum of
the results on as the length of the message.  The numbers alone always fit; with
the topic and the address behind them the message may be longer than the buffer,
and then the client is given bytes that lie behind it.
-/

namespace AvensysEsp32
namespace Mqtt

open Foundation Serial UnitComm

/-- `"esp/eeprom"` -/
def espEeprom : List UInt8 :=
  [101, 115, 112, 47, 101, 101, 112, 114, 111, 109]

/-- `"esp/polling"` -/
def espPolling : List UInt8 :=
  [101, 115, 112, 47, 112, 111, 108, 108, 105, 110, 103]

/-- `"esp/debug"` -/
def espDebug : List UInt8 :=
  [101, 115, 112, 47, 100, 101, 98, 117, 103]

/-- `sizeof(json_buffer)` -/
abbrev sizeofJsonBuffer : Nat := 1024

/-- A call of `esp_mqtt_client_publish`: the topic, the length, and as many bytes
from the beginning of the buffer. -/
structure Publication where
  topic : List UInt8
  len : Int
  payload : List UInt8

/-- The publication of what was printed. -/
def Publication.ofBuffer (topic : List UInt8) (b : PrintBuffer) : Publication where
  topic := topic
  len := b.len
  payload := readBytes b.memory 0 b.len.toNat

/-- `{"message":"` -/
def messageHead : List UInt8 :=
  [123, 34, 109, 101, 115, 115, 97, 103, 101, 34, 58, 34]

/-- `","topic":"%s","address":"%s"}` -/
def messageTail (topic address : List UInt8) : List UInt8 :=
  [34, 44, 34, 116, 111, 112, 105, 99, 34, 58, 34] ++ topic ++
    [34, 44, 34, 97, 100, 100, 114, 101, 115, 115, 34, 58, 34] ++ address ++ [34, 125]

/-- The loop of `publish_debug_message` -/
def publishLoop : List UInt8 → PrintBuffer → PrintBuffer
  | [], b => b
  | c :: rest, b =>
      let b := b.print sizeofJsonBuffer (decimal c.toNat)
      publishLoop rest (if rest ≠ [] then b.print sizeofJsonBuffer [44] else b)

/-- The buffer of `publish_debug_message` as it is published; `stack` are the bytes
that it holds before. -/
def messageBuffer (stack : Memory) (data topic address : List UInt8) : PrintBuffer :=
  let b := PrintBuffer.print sizeofJsonBuffer messageHead ⟨stack, 0, []⟩
  let b := publishLoop data b
  b.print sizeofJsonBuffer (messageTail topic address)

/-- `publish_debug_message`: the buffer, and what is published. -/
def publishDebugMessage (isMqttReady : Bool) (stack : Memory) (data topic address : List UInt8) :
    PrintBuffer × Option Publication :=
  let b := messageBuffer stack data topic address
  (b, if isMqttReady then some (.ofBuffer topic b) else none)

/-- `mqtt_publish_with_suffix` -/
def mqttPublishWithSuffix (isMqttReady : Bool) (stack : Memory)
    (address suffix data : List UInt8) : PrintBuffer × Option Publication :=
  publishDebugMessage isMqttReady stack data (mqttBuildTopic 64 address suffix) address

/-- `mqtt_publish_eeprom` -/
def mqttPublishEeprom (isMqttReady : Bool) (stack : Memory) (address data : List UInt8) :
    PrintBuffer × Option Publication :=
  mqttPublishWithSuffix isMqttReady stack address espEeprom data

/-- `mqtt_publish_polling` -/
def mqttPublishPolling (isMqttReady : Bool) (stack : Memory) (address data : List UInt8) :
    PrintBuffer × Option Publication :=
  mqttPublishWithSuffix isMqttReady stack address espPolling data

/-- `mqtt_publish_debug` -/
def mqttPublishDebug (isMqttReady : Bool) (stack : Memory) (address data : List UInt8) :
    PrintBuffer × Option Publication :=
  mqttPublishWithSuffix isMqttReady stack address espDebug data

/-- What the unit reports of a kind is published by its own function. -/
def mqttPublishOf (kind : BleAttribute) :
    Bool → Memory → List UInt8 → List UInt8 → PrintBuffer × Option Publication :=
  match kind with
  | .eepromData => mqttPublishEeprom
  | .polling => mqttPublishPolling
  | .debugData => mqttPublishDebug

/-- The suffix of a kind's topic. -/
def espSuffix (kind : BleAttribute) : List UInt8 :=
  match kind with
  | .eepromData => espEeprom
  | .polling => espPolling
  | .debugData => espDebug

/-! ## What the message should be -/

/-- The bytes as decimal numbers, with commas between them. -/
def commaSeparated (data : List UInt8) : List UInt8 :=
  [44].intercalate (data.map fun c => decimal c.toNat)

/-- `"message"` -/
def messageKey : List UInt8 := [109, 101, 115, 115, 97, 103, 101]

/-- `"topic"` -/
def topicKey : List UInt8 := [116, 111, 112, 105, 99]

/-- `"address"` -/
def addressKey : List UInt8 := [97, 100, 100, 114, 101, 115, 115]

/-- Every text is printed into room that is left, and what is published is shorter
than the buffer and is an object with the numbers, the topic and the address. -/
structure CompleteTelemetry (data topic address : List UInt8)
    (run : PrintBuffer × Option Publication) : Prop where
  room : ∀ room ∈ run.1.rooms, 0 < room
  fits : ∀ p ∈ run.2, p.len < sizeofJsonBuffer ∧ p.len = p.payload.length
  object : ∀ p ∈ run.2, p.topic = topic ∧ ∃ v, parseJson p.payload = some v ∧
    v.values (units messageKey) = [.string (units (commaSeparated data))] ∧
    v.values (units topicKey) = [.string (units topic)] ∧
    v.values (units addressKey) = [.string (units address)]

/-- How many digits a byte has. -/
def decimalWidth (c : UInt8) : Nat :=
  if c < 10 then 1 else if c < 100 then 2 else 3

/-- An address of printable characters that can stand between quotes. -/
structure PrintableAddress (address : List UInt8) : Prop where
  nonempty : 1 ≤ address.length
  fits : address.length ≤ eepromSerialMaxLen
  printable : ∀ c ∈ address, isprint c = true ∧ c ≠ 34 ∧ c ≠ 92

section Lengths

theorem commaSeparated_cons
    (c : UInt8) (rest : List UInt8) :
    commaSeparated (c :: rest) =
      decimal c.toNat ++ (if rest ≠ [] then 44 :: commaSeparated rest else []) := by
  cases rest with
  | nil => simp [commaSeparated]
  | cons d rest => simp [commaSeparated, List.intercalate]

theorem length_decimal_byte (c : UInt8) :
    (decimal c.toNat).length = decimalWidth c := by
  have h : ∀ n : Fin 256, (decimal n).length = decimalWidth (UInt8.ofNat n) := by
    decide +kernel
  simpa using h ⟨c.toNat, c.toNat_lt⟩

theorem length_commaSeparated
    (data : List UInt8) :
    (commaSeparated data).length = (data.map decimalWidth).sum + (data.length - 1) := by
  induction data with
  | nil => rfl
  | cons c rest ih =>
      rw [commaSeparated_cons, List.length_append, length_decimal_byte]
      cases rest with
      | nil => simp
      | cons d rest =>
          simp [ih]
          omega

theorem length_commaSeparated_le
    (data : List UInt8) :
    (commaSeparated data).length ≤ 4 * data.length := by
  have hwidth : ∀ c : UInt8, decimalWidth c ≤ 3 := by
    intro c
    unfold decimalWidth
    split
    · decide
    · split <;> decide
  rw [length_commaSeparated]
  induction data with
  | nil => rfl
  | cons c rest ih =>
      have := hwidth c
      simp only [List.map_cons, List.sum_cons, List.length_cons]
      omega

end Lengths

section Loop

variable {text : List UInt8} {b : PrintBuffer}

/-- The room left for every text printed so far. -/
def RoomLeft (b : PrintBuffer) : Prop :=
  ∀ room ∈ b.rooms, 0 < room

/-- One more text, printed where there is room. -/
theorem roomLeft_print
    (hb : Printed sizeofJsonBuffer text b) (hroom : RoomLeft b)
    (h : text.length < sizeofJsonBuffer) (more : List UInt8) :
    Printed sizeofJsonBuffer (text ++ more) (b.print sizeofJsonBuffer more) ∧
      RoomLeft (b.print sizeofJsonBuffer more) := by
  obtain ⟨hprinted, hrooms⟩ := hb.print (by decide) h.le more
  refine ⟨hprinted, ?_⟩
  unfold RoomLeft
  rw [hrooms]
  intro room hmem
  rcases List.mem_append.mp hmem with hmem | hmem
  · exact hroom room hmem
  · rw [List.mem_singleton.mp hmem]
    omega

/-- While the numbers fit, the loop prints all of them. -/
theorem publishLoop_prints
    (data : List UInt8) (hb : Printed sizeofJsonBuffer text b) (hroom : RoomLeft b)
    (h : text.length + (commaSeparated data).length < sizeofJsonBuffer) :
    Printed sizeofJsonBuffer (text ++ commaSeparated data) (publishLoop data b) ∧
      RoomLeft (publishLoop data b) := by
  induction data generalizing text b with
  | nil =>
      simpa [publishLoop, commaSeparated] using And.intro hb hroom
  | cons c rest ih =>
      rw [commaSeparated_cons] at h ⊢
      rw [List.length_append] at h
      obtain ⟨hnumber, hroom₁⟩ := roomLeft_print hb hroom (by omega) (decimal c.toNat)
      unfold publishLoop
      dsimp only
      rw [← List.append_assoc]
      cases rest with
      | nil =>
          simpa [publishLoop] using And.intro hnumber hroom₁
      | cons d rest =>
          rw [if_pos (List.cons_ne_nil d rest)] at h ⊢
          rw [if_pos (List.cons_ne_nil d rest)]
          simp only [List.length_cons] at h
          obtain ⟨hcomma, hroom₂⟩ := roomLeft_print hnumber hroom₁
            (by rw [List.length_append]; omega) [44]
          have hrest := ih hcomma hroom₂
            (by simp only [List.length_append, List.length_cons]; simp; omega)
          rwa [List.append_assoc _ [44]] at hrest

end Loop

section Message

variable {data topic address : List UInt8}

/-- The whole message. -/
def telemetryText (data topic address : List UInt8) : List UInt8 :=
  messageHead ++ commaSeparated data ++ messageTail topic address

theorem length_telemetryText :
    (telemetryText data topic address).length =
      (commaSeparated data).length + topic.length + address.length + 38 := by
  simp [telemetryText, messageHead, messageTail]
  omega

theorem plain_commaSeparated (data : List UInt8) :
    Plain (commaSeparated data) := by
  have hdigit : ∀ d : UInt8, isdigit d = true → 32 ≤ d ∧ d < 128 ∧ d ≠ 34 ∧ d ≠ 92 := by
    intro d hd
    unfold isdigit at hd
    simp only [Bool.and_eq_true, decide_eq_true_eq] at hd
    grind
  induction data with
  | nil => simp [Plain, commaSeparated]
  | cons c rest ih =>
      rw [commaSeparated_cons]
      intro d hd
      rcases List.mem_append.mp hd with hd | hd
      · exact hdigit d (isdigit_of_mem_decimal _ hd)
      · split at hd
        · rcases List.mem_cons.mp hd with rfl | hd
          · decide
          · exact ih d hd
        · cases hd

theorem PrintableAddress.plain
    (h : PrintableAddress address) :
    Plain address := by
  intro c hc
  obtain ⟨hprint, hquote, hslash⟩ := h.printable c hc
  unfold isprint at hprint
  simp only [Bool.and_eq_true, decide_eq_true_eq] at hprint
  exact ⟨hprint.1, by grind, hquote, hslash⟩

/-- The whole message is the object that is meant. -/
theorem parseJson_telemetryText
    (htopic : Plain topic) (haddress : Plain address) :
    parseJson (telemetryText data topic address) =
      some (.object [(units messageKey, .string (units (commaSeparated data))),
        (units topicKey, .string (units topic)), (units addressKey, .string (units address))]) := by
  have hfields := parseJson_fields
    [.ofString messageKey (commaSeparated data) (by decide) (plain_commaSeparated data),
      .ofString topicKey topic (by decide) htopic]
    (.ofString addressKey address (by decide) haddress)
  have htext : telemetryText data topic address =
      123 :: fieldsText [.ofString messageKey (commaSeparated data) (by decide)
        (plain_commaSeparated data), .ofString topicKey topic (by decide) htopic]
        (quoted addressKey ++ 58 :: (quoted address ++ [125])) := by
    simp [telemetryText, messageHead, messageTail, fieldsText, JsonField.ofString, quoted,
      messageKey, topicKey, addressKey]
  rw [htext]
  exact hfields

/-- What the buffer has been given when the message is published. -/
theorem messageBuffer_prints
    (topic address : List UInt8) (stack : Memory) (hdata : data.length ≤ sizeofEeprom) :
    Printed sizeofJsonBuffer (telemetryText data topic address)
        (messageBuffer stack data topic address) ∧
      RoomLeft (messageBuffer stack data topic address) := by
  have hlength := length_commaSeparated_le data
  rw [sizeofEeprom_eq] at hdata
  have hstart : Printed sizeofJsonBuffer [] ⟨stack, 0, []⟩ := ⟨rfl, fun _ => rfl⟩
  obtain ⟨hhead, hroom⟩ := roomLeft_print hstart (by simp [RoomLeft]) (by decide) messageHead
  obtain ⟨hloop, hroom⟩ := publishLoop_prints data hhead hroom (by
    simp only [List.nil_append, messageHead, List.length_cons, List.length_nil, sizeofJsonBuffer]
    omega)
  exact roomLeft_print hloop hroom (by
    simp only [List.nil_append, List.length_append, messageHead, List.length_cons,
      List.length_nil, sizeofJsonBuffer]
    omega) (messageTail topic address)

/-- The length passed on is that of the whole message, whether it fits or not. -/
theorem ofBuffer_of_printed
    (topic : List UInt8) {capacity : Nat} {text : List UInt8} {b : PrintBuffer}
    (h : Printed capacity text b) :
    (Publication.ofBuffer topic b).len = text.length ∧
      (Publication.ofBuffer topic b).payload.length = text.length ∧
      (text.length < capacity → (Publication.ofBuffer topic b).payload = text) := by
  unfold Publication.ofBuffer
  dsimp only
  rw [h.len, Int.toNat_natCast]
  exact ⟨rfl, length_readBytes _ _ _, h.memory⟩

end Message

section Complete

variable {data address : List UInt8} (kind : BleAttribute) (isMqttReady : Bool) (stack : Memory)

/-- The topic of an address, which is not shortened. -/
theorem telemetryTopic
    (haddress : PrintableAddress address) :
    mqttBuildTopic 64 address (espSuffix kind) = 47 :: address ++ 47 :: espSuffix kind ∧
      Plain (mqttBuildTopic 64 address (espSuffix kind)) := by
  have hlength : (espSuffix kind).length ≤ 11 := by
    cases kind <;> decide
  have hplain : Plain (espSuffix kind) := by
    cases kind <;> decide
  have htopic := mqttBuildTopic_of_fits haddress.fits hlength
  rw [htopic]
  refine ⟨rfl, ?_⟩
  intro c hc
  rcases List.mem_append.mp hc with hc | hc
  · rcases List.mem_cons.mp hc with rfl | hc
    · decide
    · exact haddress.plain c hc
  · rcases List.mem_cons.mp hc with rfl | hc
    · decide
    · exact hplain c hc

/-- A message is complete if it is not published, or shorter than the buffer. -/
theorem publishDebugMessage_complete_iff
    {topic : List UInt8} (hdata : data.length ≤ sizeofEeprom)
    (htopic : Plain topic) (haddress : Plain address) :
    CompleteTelemetry data topic address
        (publishDebugMessage isMqttReady stack data topic address) ↔
      isMqttReady = false ∨ (telemetryText data topic address).length < sizeofJsonBuffer := by
  obtain ⟨hprinted, hroom⟩ := messageBuffer_prints topic address stack hdata
  obtain ⟨hlen, hbytes, hpayload⟩ := ofBuffer_of_printed topic hprinted
  unfold publishDebugMessage
  dsimp only
  cases isMqttReady with
  | false =>
      exact ⟨fun _ => Or.inl rfl, fun _ =>
        { room := hroom
          fits := fun p hp => by cases hp
          object := fun p hp => by cases hp }⟩
  | true =>
      constructor
      · intro hcomplete
        have hlt := (hcomplete.fits _ rfl).1
        rw [hlen] at hlt
        exact Or.inr (by exact_mod_cast hlt)
      · rintro (hready | hlt)
        · cases hready
        · refine ⟨hroom, ?_, ?_⟩
          · intro p hp
            obtain rfl := Option.some.inj hp
            rw [hlen, hbytes]
            exact ⟨by exact_mod_cast hlt, rfl⟩
          · intro p hp
            obtain rfl := Option.some.inj hp
            rw [hpayload hlt]
            refine ⟨rfl, _, parseJson_telemetryText htopic haddress, ?_, ?_, ?_⟩
            · rfl
            · rfl
            · rfl

theorem mqttPublishOf_eq
    (address data : List UInt8) :
    mqttPublishOf kind isMqttReady stack address data =
      mqttPublishWithSuffix isMqttReady stack address (espSuffix kind) data := by
  cases kind <;> rfl

/-- Telemetry is complete exactly if it is not published, or the digits of the
bytes, the commas between them, the address twice and the suffix together take no
more than 983 characters. -/
theorem telemetry_complete_iff
    (hdata : data.length ≤ sizeofEeprom) (haddress : PrintableAddress address) :
    CompleteTelemetry data (mqttBuildTopic 64 address (espSuffix kind)) address
        (mqttPublishOf kind isMqttReady stack address data) ↔
      isMqttReady = false ∨
        (data.map decimalWidth).sum + (data.length - 1) + 2 * address.length +
          (espSuffix kind).length ≤ 983 := by
  obtain ⟨htopic, hplain⟩ := telemetryTopic kind haddress
  have hlength : (mqttBuildTopic 64 address (espSuffix kind)).length =
      address.length + (espSuffix kind).length + 2 := by
    rw [htopic]
    simp only [List.cons_append, List.length_cons, List.length_append]
    omega
  rw [mqttPublishOf_eq, mqttPublishWithSuffix,
    publishDebugMessage_complete_iff isMqttReady stack hdata hplain haddress.plain,
    length_telemetryText, length_commaSeparated, hlength]
  refine or_congr_right ?_
  unfold sizeofJsonBuffer
  omega

/-- Three bytes published under the address that the unit task begins with. -/
theorem shortTelemetry_complete :
    CompleteTelemetry [1, 20, 255] (mqttBuildTopic 64 defaultAddress espDebug) defaultAddress
      (mqttPublishDebug true (fun _ => 0) defaultAddress [1, 20, 255]) :=
  (telemetry_complete_iff .debugData true (fun _ => 0) (by decide)
    ⟨by decide, by decide, by decide +kernel⟩).2 (Or.inr (by decide))

/-- An image with a serial of seventeen letters, and with bytes of three digits
everywhere but in its NUL. -/
def fullImage : Memory :=
  fun i => if i < 11 then 255 else if i < 28 then 122 else if i = 28 then 0 else 255

/-- The serial in it. -/
def fullSerial : List UInt8 :=
  List.replicate 17 122

/-- The mirror of that unit does not fit the buffer. -/
theorem fullImage_not_complete :
    ShowsString fullImage serialStringOffset fullSerial ∧ PrintableAddress fullSerial ∧
      ¬ CompleteTelemetry (readBytes fullImage 0 sizeofEeprom)
        (mqttBuildTopic 64 fullSerial espEeprom) fullSerial
        (mqttPublishEeprom true (fun _ => 0) fullSerial (readBytes fullImage 0 sizeofEeprom)) := by
  have haddress : PrintableAddress fullSerial := ⟨by decide, by decide, by decide +kernel⟩
  refine ⟨by decide, haddress, ?_⟩
  have hplain : Plain (mqttBuildTopic 64 fullSerial espEeprom) :=
    (telemetryTopic .eepromData haddress).2
  unfold mqttPublishEeprom mqttPublishWithSuffix
  rw [publishDebugMessage_complete_iff true _ (by simp) hplain haddress.plain]
  rintro (hready | hlt)
  · cases hready
  · revert hlt
    decide +kernel

end Complete

end Mqtt
end AvensysEsp32
