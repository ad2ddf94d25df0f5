import AvensysEsp32.UnitComm.Task
import AvensysEsp32.Mqtt.Subscriptions

/-!
# The identity a unit has in the cloud

The unit task publishes under the text that `gRDEeprom.SerialString` shows as a
C string, though the field has eighteen bytes and need not end in a NUL.  The
MQTT client takes the identity from the same field with more care, and falls
back on the hardware id when the field holds no serial.  The two are one
identity only for a field filled in properly.
-/

namespace AvensysEsp32
namespace Mqtt

open Foundation Serial UnitComm

/-- `"a0001"` -/
def defaultAddress : List UInt8 :=
  [97, 48, 48, 48, 49]

/-- What `address` points to reads as the text. -/
def addressShows (address : DeviceAddress) (gRDEeprom : Memory) (text : List UInt8) : Prop :=
  match address with
  | .default => text = defaultAddress
  | .serialString => ShowsString gRDEeprom serialStringOffset text

/-- `serial_valid ? serial_address : s_device_hw_id` -/
def cloudIdentity (gRDEeprom : Memory) (mac : Option (Vector UInt8 6)) : List UInt8 :=
  if serialIn gRDEeprom = [] then hwIdOf mac else serialIn gRDEeprom

/-- A text that is a serial as it stands: it fits the field, prints, does not end
in a blank, and is more than zeros and blanks. -/
structure PlainSerial (text : List UInt8) : Prop where
  fits : text.length ≤ eepromSerialMaxLen
  printable : ∀ c ∈ text, isprint c = true
  trimmed : text.rdropWhile isspace = text
  valid : mqttIsSerialValid text = true

instance (text : List UInt8) : Decidable (PlainSerial text) :=
  -- By going through the text, not through all bytes there are.
  let _ : Decidable (∀ c ∈ text, isprint c = true) := List.decidableBAll _ _
  decidable_of_iff
    (text.length ≤ eepromSerialMaxLen ∧ (∀ c ∈ text, isprint c = true) ∧
      text.rdropWhile isspace = text ∧ mqttIsSerialValid text = true)
    ⟨fun h => ⟨h.1, h.2.1, h.2.2.1, h.2.2.2⟩, fun h => ⟨h.1, h.2, h.3, h.4⟩⟩

/-- Twelve zeros: the hardware id of a board whose MAC address is zero. -/
def zeroHwId : List UInt8 :=
  List.replicate 12 48

section Serials

variable {m : Memory} {text : List UInt8}

/-- A printable text without a blank at its end is extracted as it is. -/
theorem mqttExtractSerialFromEeprom_of_shows
    (hshows : ShowsString m serialStringOffset text)
    (hfits : text.length ≤ eepromSerialMaxLen)
    (hprint : ∀ c ∈ text, isprint c = true)
    (htrim : text.rdropWhile isspace = text) :
    mqttExtractSerialFromEeprom m = text := by
  obtain ⟨rest, hread, hrest⟩ := hshows.readBytes hfits
  have hkeep : ∀ c ∈ text, (c ≠ 0 && isprint c) = true := by
    intro c hc
    have hne : c ≠ 0 := fun h => hshows.2.1 (h ▸ hc)
    simp [hne, hprint c hc]
  have hstop : rest.takeWhile (fun c => c ≠ 0 && isprint c) = [] := by
    rcases hrest with rfl | hhead
    · rfl
    · obtain ⟨tail, rfl⟩ := List.head?_eq_some_iff.mp hhead
      rfl
  unfold mqttExtractSerialFromEeprom
  rw [hread, List.takeWhile_append_of_pos hkeep, hstop, List.append_nil, htrim]

/-- A plain serial is the one in the mirror. -/
theorem serialIn_of_plain
    (hshows : ShowsString m serialStringOffset text)
    (hplain : PlainSerial text) :
    serialIn m = text := by
  have hextract := mqttExtractSerialFromEeprom_of_shows hshows hplain.fits hplain.printable
    hplain.trimmed
  have hne : text ≠ [] := by
    rintro rfl
    exact absurd hplain.valid (by decide)
  unfold serialIn
  dsimp only
  rw [hextract, if_pos ⟨hne, hplain.valid⟩]

/-- The serial in a mirror is plain. -/
theorem plainSerial_serialIn
    (hne : serialIn m ≠ []) :
    PlainSerial (serialIn m) := by
  have hfits := length_serialIn_le m
  unfold serialIn at hne hfits ⊢
  dsimp only at hne hfits ⊢
  split at hne
  · rename_i hvalid
    rw [if_pos hvalid] at hfits ⊢
    refine ⟨hfits, ?_, ?_, hvalid.2⟩
    · intro c hc
      have hmem := (List.rdropWhile_prefix isspace _).subset hc
      have hkept := List.mem_takeWhile_imp hmem
      simp only [Bool.and_eq_true] at hkept
      exact hkept.2
    · exact List.rdropWhile_idempotent isspace _
  · exact absurd rfl hne

end Serials

section HardwareId

variable (mac : Option (Vector UInt8 6))

theorem hexDigit_printable {value : Nat} (h : value < 16) :
    isprint (hexDigit value) = true ∧ isspace (hexDigit value) = false := by
  interval_cases value <;> decide

/-- The hardware id prints and has no blanks. -/
theorem hwIdOf_chars :
    ∀ c ∈ hwIdOf mac, isprint c = true ∧ isspace c = false := by
  cases mac with
  | none => decide +kernel
  | some mac =>
      intro c hc
      obtain ⟨b, -, hc⟩ := List.mem_flatMap.mp hc
      have hb : b.toNat < 256 := b.toNat_lt
      rcases List.mem_pair.mp hc with rfl | rfl
      · exact hexDigit_printable (by omega)
      · exact hexDigit_printable (by omega)

theorem hwIdOf_trimmed :
    (hwIdOf mac).rdropWhile isspace = hwIdOf mac := by
  rw [List.rdropWhile_eq_self_iff]
  intro hne
  rw [(hwIdOf_chars mac _ (List.getLast_mem hne)).2]
  decide

/-- A hardware id is a plain serial, unless it is all zeros. -/
theorem hwIdOf_plain_or_zero :
    PlainSerial (hwIdOf mac) ∨ hwIdOf mac = zeroHwId := by
  cases hvalid : mqttIsSerialValid (hwIdOf mac) with
  | true =>
      exact Or.inl ⟨length_hwIdOf_le mac, fun c hc => (hwIdOf_chars mac c hc).1,
        hwIdOf_trimmed mac, hvalid⟩
  | false =>
      right
      have hzeros : ∀ c ∈ hwIdOf mac, c = 48 := by
        intro c hc
        have hnot := List.any_eq_false.mp hvalid c hc
        rw [(hwIdOf_chars mac c hc).2] at hnot
        simpa using hnot
      cases mac with
      | none => exact absurd (hzeros 85 (by decide)) (by decide)
      | some mac =>
          have hlength : (hwIdOf (some mac)).length = 12 := by
            have hsix : mac.toList.length = 6 := Vector.length_toList
            simp [hwIdOf, List.length_flatMap, hsix]
          exact List.eq_replicate_iff.mpr ⟨hlength, hzeros⟩

end HardwareId

/-- Once connected the unit task publishes under the serial string. -/
theorem connected_address
    (inp : IterationInput) (s : UnitState) :
    (connected inp s).address = .serialString := by
  obtain ⟨outputs, -, heq⟩ := connected_eq inp s
  rw [heq]

section Identity

variable (inp : IterationInput) (s : UnitState) (m : Memory) (mac : Option (Vector UInt8 6))

/-- The address that the unit task publishes under once connected shows the
identity that the MQTT client computes exactly when the field shows a plain
serial with its NUL, or shows the twelve zeros that are also the hardware id. -/
theorem oneIdentity_iff :
    addressShows (connected inp s).address m (cloudIdentity m mac) ↔
      (∃ text, ShowsString m serialStringOffset text ∧ PlainSerial text) ∨
        (hwIdOf mac = zeroHwId ∧ ShowsString m serialStringOffset zeroHwId) := by
  rw [connected_address]
  constructor
  · intro hshows
    unfold addressShows cloudIdentity at hshows
    dsimp only at hshows
    split at hshows
    · rcases hwIdOf_plain_or_zero mac with hplain | hzero
      · exact Or.inl ⟨_, hshows, hplain⟩
      · rw [hzero] at hshows
        exact Or.inr ⟨hzero, hshows⟩
    · rename_i hserial
      exact Or.inl ⟨_, hshows, plainSerial_serialIn hserial⟩
  · rintro (⟨text, hshows, hplain⟩ | ⟨hzero, hshows⟩)
    · have hserial := serialIn_of_plain hshows hplain
      have hne : text ≠ [] := by
        rintro rfl
        exact absurd hplain.valid (by decide)
      unfold addressShows cloudIdentity
      rwa [hserial, if_neg hne]
    · have hextract := mqttExtractSerialFromEeprom_of_shows hshows (by decide)
        (by decide +kernel) (by decide)
      have hnone : serialIn m = [] := by
        unfold serialIn
        dsimp only
        rw [hextract]
        decide
      unfold addressShows cloudIdentity
      rwa [hnone, if_pos rfl, hzero]

/-- A unit whose serial is blank is published under no name by the unit task, and
under its hardware id by the MQTT client. -/
theorem blankSerial_two_identities :
    addressShows .serialString (fun _ => 0) [] ∧
      cloudIdentity (fun _ => 0) none = unknownHwId ∧
      ¬ addressShows .serialString (fun _ => 0) (cloudIdentity (fun _ => 0) none) := by
  have hserial : serialIn (fun _ => 0) = [] := by
    decide
  have hidentity : cloudIdentity (fun _ => 0) none = unknownHwId := by
    unfold cloudIdentity
    rw [hserial, if_pos rfl]
    rfl
  refine ⟨?_, hidentity, ?_⟩
  · show ShowsString _ _ _
    decide
  · rw [hidentity]
    show ¬ ShowsString _ _ _
    decide

end Identity

end Mqtt
end AvensysEsp32
