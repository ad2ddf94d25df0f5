import Mathlib.Algebra.GroupWithZero.Nat
import Mathlib.Logic.Function.Basic
import Mathlib.Order.Interval.Set.Basic
import Mathlib.Tactic.Common

/-!
# The serial protocol with the unit board

Constants and index maps of `protocol_serial.h`, and the EEPROM image
`S_EEPROM` of `eeprom_data_struct.h` with the sections it is read and written
by.  Field offsets are computed from the packed layout of the structure, as
`offsetof` does.
-/

namespace AvensysEsp32
namespace Serial

/-! ## Head of a message and receive states -/

@[simp] abbrev ihm1StartMsg0 : Nat := 0
@[simp] abbrev ihm1StartMsg1 : Nat := 1
/-- Position of the low checksum byte, the last byte but one of the message. -/
@[simp] abbrev ihm1PosCrcLo : Nat := 2
@[simp] abbrev ihm1TypeComand : Nat := 3
@[simp] abbrev ihm1StartData : Nat := 4

@[simp] abbrev protoStartMsg0 : UInt8 := 115
@[simp] abbrev protoStartMsg1 : UInt8 := 109

@[simp] abbrev runDownload : Int := 1
@[simp] abbrev bufferRxEmpy : Int := 0
@[simp] abbrev errorHeadMessage : Int := -1
@[simp] abbrev errorLenMessage : Int := -2
@[simp] abbrev errorCksum16 : Int := -3

/-- `'D'` -/
@[simp] abbrev commandDataDebug : UInt8 := 68
/-- `'P'` -/
@[simp] abbrev commandPollingBase : UInt8 := 80
/-- `'R'` -/
@[simp] abbrev commandReadEeprom : UInt8 := 82
/-- `'W'` -/
@[simp] abbrev commandWriteEeprom : UInt8 := 87

/-! ## Requests and replies on the EEPROM -/

@[simp] abbrev irqrAddrByteStartEep : Nat := 4
@[simp] abbrev irqrAddrNumByteEep : Nat := 5
@[simp] abbrev irqrCrcLo : Nat := 6

@[simp] abbrev irqdCrcLo : Nat := 6

@[simp] abbrev irsrAddrByteStartEep : Nat := 4
@[simp] abbrev irsrAddrNumByteEep : Nat := 5
@[simp] abbrev irsrStartDataEeprom : Nat := 6

@[simp] abbrev irqwAddrByteStartEep : Nat := 4
@[simp] abbrev irqwAddrNumByteEep : Nat := 5
@[simp] abbrev irqwStartDataEeprom : Nat := 6

@[simp] abbrev irswAddrByteStartEep : Nat := 4
@[simp] abbrev irswResultW : Nat := 6
@[simp] abbrev irswCntUpdateEepInfo : Nat := 7
@[simp] abbrev irswCntUpdateEepSettingPar : Nat := 8
@[simp] abbrev irswCntUpdateEepSetpTemp : Nat := 9
@[simp] abbrev irswCntUpdateEepWeekly : Nat := 10

/-- `'0'`: the result byte of an accepted write. -/
@[simp] abbrev writeAccepted : UInt8 := 48

/-! ## Polling and debug replies -/

@[simp] abbrev irspMeasureTemp1Lo : Nat := 4
@[simp] abbrev irspMeasureTemp1Hi : Nat := 5
@[simp] abbrev irspMeasureTemp2Lo : Nat := 6
@[simp] abbrev irspMeasureTemp2Hi : Nat := 7
@[simp] abbrev irspMeasureTemp3Lo : Nat := 8
@[simp] abbrev irspMeasureTemp3Hi : Nat := 9
@[simp] abbrev irspMeasureTemp4Lo : Nat := 10
@[simp] abbrev irspMeasureTemp4Hi : Nat := 11
@[simp] abbrev irspMeasureIn1 : Nat := 12
@[simp] abbrev irspMeasureIn2 : Nat := 13
@[simp] abbrev irspMeasureRhSens : Nat := 15
@[simp] abbrev irspMeasureCo2SensLo : Nat := 16
@[simp] abbrev irspMeasureCo2SensHi : Nat := 17
@[simp] abbrev irspMeasureVocSensLo : Nat := 18
@[simp] abbrev irspMeasureVocSensHi : Nat := 19
@[simp] abbrev irspStatusUnitLo : Nat := 20
@[simp] abbrev irspStatusUnitHi : Nat := 21
@[simp] abbrev irspStatusWeekly : Nat := 22
@[simp] abbrev irspEventByte00 : Nat := 23
@[simp] abbrev irspIncreaseSpeedRhCo2 : Nat := 37
@[simp] abbrev irspCntUpdateEepInfo : Nat := 38
@[simp] abbrev irspCntUpdateEepSettingPar : Nat := 39
@[simp] abbrev irspCntUpdateEepSetpTemp : Nat := 40
@[simp] abbrev irspCntUpdateEepWeekly : Nat := 41
@[simp] abbrev irspMeasureAwpSensLo : Nat := 42
@[simp] abbrev irspMeasureAwpSensHi : Nat := 43
@[simp] abbrev irspCrcLo : Nat := 44

@[simp] abbrev irsdStatusPreheater : Nat := 29
@[simp] abbrev irsdStatusHeater : Nat := 30
@[simp] abbrev irsdStatusCooler : Nat := 31
@[simp] abbrev irsdStatusDsc : Nat := 51
@[simp] abbrev irsdMeasurPaCapsLo : Nat := 52
@[simp] abbrev irsdMeasurPaCapsHi : Nat := 53
@[simp] abbrev irsdMeasurPaCaprLo : Nat := 54
@[simp] abbrev irsdMeasurPaCaprHi : Nat := 55
@[simp] abbrev irsdMeasurAfCapsLo : Nat := 56
@[simp] abbrev irsdMeasurAfCapsHi : Nat := 57
@[simp] abbrev irsdMeasurAfCaprLo : Nat := 58
@[simp] abbrev irsdMeasurAfCaprHi : Nat := 59
@[simp] abbrev irsdLevLinkCapr : Nat := 60
@[simp] abbrev irsdLevLinkCaps : Nat := 61
@[simp] abbrev irsdStatusCaps : Nat := 62
@[simp] abbrev irsdStatusCapr : Nat := 63
@[simp] abbrev irsdCrcLo : Nat := 64

/-! ## The EEPROM image -/

/-- The fields of `S_EEPROM`, in order. -/
inductive EepromField
  | addrUnit | typeFunc | hwVers | swVers | serialString | swVersModBus
  | signTest | codeErrTest | hourRunnig | timeLastCloggedFilters
  | accessoyHw | enabFuction | mskEnabFuction | dscSdcardUpdateDelay
  | pirUpdateDelay | timeFireTestCounter | imbalanceSpeed2
  | imbalanceSpeed3 | cntUpdateInfo
  | numMotors | numPulseMotors | typeMotors | chWireless | depotMotors
  | numNtc | posizNtc | rotazioneBypass | imbalanceIaqSpeed | size2Free
  | setPowerOn | configBypass | setInput | setOutput | selIdxStepMotors
  | setStepMotorsCfsCaf | setStepMotorsCap | setImbalance | setTimeBoost
  | setPointCo2 | setPointRh | setPointVoc | ggManutFilter
  | servicePassword | userPassword | calibraCap | manualReset
  | dppCalibrationvalue | setMbfFresh | setMbfReturn | setPointAirflowCo2
  | timeFireTest | fireConfig | cntUpdateSettingPar
  | calibr
  | bypassMinTempExt | setPointTemp | idxSetPointT | histerAwpTempHot
  | histerAwpTempCold | histerTempHot | histerTempCold | refTSetting
  | deltaTempSupply | setEhdMod | setBpdMod | cntUpdateSetTemp
  | sDayProg | cntUpdateDayProg
  | versionEeprom | checkEeprom
deriving DecidableEq, Repr

namespace EepromField

/-- The structure is packed: fields follow one another without padding. -/
def layout : List EepromField :=
  [addrUnit, typeFunc, hwVers, swVers, serialString, swVersModBus,
    signTest, codeErrTest, hourRunnig, timeLastCloggedFilters,
    accessoyHw, enabFuction, mskEnabFuction, dscSdcardUpdateDelay,
    pirUpdateDelay, timeFireTestCounter, imbalanceSpeed2,
    imbalanceSpeed3, cntUpdateInfo,
    numMotors, numPulseMotors, typeMotors, chWireless, depotMotors,
    numNtc, posizNtc, rotazioneBypass, imbalanceIaqSpeed, size2Free,
    setPowerOn, configBypass, setInput, setOutput, selIdxStepMotors,
    setStepMotorsCfsCaf, setStepMotorsCap, setImbalance, setTimeBoost,
    setPointCo2, setPointRh, setPointVoc, ggManutFilter,
    servicePassword, userPassword, calibraCap, manualReset,
    dppCalibrationvalue, setMbfFresh, setMbfReturn, setPointAirflowCo2,
    timeFireTest, fireConfig, cntUpdateSettingPar,
    calibr,
    bypassMinTempExt, setPointTemp, idxSetPointT, histerAwpTempHot,
    histerAwpTempCold, histerTempHot, histerTempCold, refTSetting,
    deltaTempSupply, setEhdMod, setBpdMod, cntUpdateSetTemp,
    sDayProg, cntUpdateDayProg,
    versionEeprom, checkEeprom]

/-- `sizeof` of a field. -/
def size : EepromField → Nat
  | hwVers | hourRunnig | timeLastCloggedFilters | accessoyHw
  | timeFireTestCounter | setPointTemp => 4
  | swVers | servicePassword | userPassword => 5
  | serialString => 18
  | swVersModBus | signTest | enabFuction | mskEnabFuction | setInput
  | setOutput | setImbalance | setPointCo2 | setPointVoc | ggManutFilter
  | calibraCap | bypassMinTempExt | histerAwpTempHot | histerAwpTempCold
  | histerTempHot | histerTempCold | checkEeprom => 2
  | size2Free | setStepMotorsCfsCaf | setStepMotorsCap => 8
  | calibr => 6
  | sDayProg => 7 * 12
  | _ => 1

/-- `offsetof(S_EEPROM, field)`. -/
def offsetof (field : EepromField) : Nat :=
  ((layout.takeWhile (· ≠ field)).map size).sum

end EepromField

/-- `sizeof(S_EEPROM)`. -/
def sizeofEeprom : Nat :=
  (EepromField.layout.map EepromField.size).sum

/-- The packed structure takes 243 bytes, one more than its comment says. -/
@[simp] theorem sizeofEeprom_eq :
    sizeofEeprom = 243 := by
  decide

/-! ## Sections -/

inductive EepromSection
  | info
  | configuration
  | settingPar
  | setTemp
  | dayProg
  | hwSetting
deriving DecidableEq, Repr

namespace EepromSection

open EepromField

def firstField : EepromSection → EepromField
  | info => addrUnit
  | configuration => numMotors
  | settingPar => setPowerOn
  | setTemp => bypassMinTempExt
  | dayProg => sDayProg
  | hwSetting => numMotors

def lastField : EepromSection → EepromField
  | info => cntUpdateInfo
  | configuration => size2Free
  | settingPar => cntUpdateSettingPar
  | setTemp => cntUpdateSetTemp
  | dayProg => cntUpdateDayProg
  | hwSetting => size2Free

/-- `Eeprom_*_StartAddress` -/
def startAddress (sec : EepromSection) : Nat :=
  offsetof sec.firstField

/-- `Eeprom_*_EndAddress` -/
def endAddress (sec : EepromSection) : Nat :=
  offsetof sec.lastField + sec.lastField.size - 1

/-- `Eeprom_*_Count` -/
def count (sec : EepromSection) : Nat :=
  (sec.endAddress - sec.startAddress) + 1

/-- The addresses of the section. -/
def range (sec : EepromSection) : Set Nat :=
  Set.Ico sec.startAddress (sec.startAddress + sec.count)

theorem startAddress_eq (sec : EepromSection) :
    sec.startAddress =
      match sec with
      | info => 0
      | configuration => 59
      | settingPar => 76
      | setTemp => 135
      | dayProg => 155
      | hwSetting => 59 := by
  cases sec <;> decide

theorem count_eq (sec : EepromSection) :
    sec.count =
      match sec with
      | info => 59
      | configuration => 17
      | settingPar => 53
      | setTemp => 20
      | dayProg => 85
      | hwSetting => 17 := by
  cases sec <;> decide

theorem mem_range_iff (sec : EepromSection) (i : Nat) :
    i ∈ sec.range ↔
      sec.startAddress ≤ i ∧ i < sec.startAddress + sec.count := by
  rfl

/-- Every section lies inside the image, before its last three bytes. -/
theorem end_le (sec : EepromSection) :
    sec.startAddress + sec.count ≤ 240 := by
  cases sec <;> decide

end EepromSection

/-! ## Sections with an update counter -/

/-- The sections whose changes the unit board counts. -/
inductive CountedSection
  | info
  | settingPar
  | setTemp
  | dayProg
deriving DecidableEq, Repr

namespace CountedSection

/-- The order in which the program goes through them. -/
def all : List CountedSection :=
  [info, settingPar, setTemp, dayProg]

def eepromSection : CountedSection → EepromSection
  | info => .info
  | settingPar => .settingPar
  | setTemp => .setTemp
  | dayProg => .dayProg

/-- The address of the section's counter in the image. -/
def cntUpdateAddress : CountedSection → Nat
  | info => EepromField.cntUpdateInfo.offsetof
  | settingPar => EepromField.cntUpdateSettingPar.offsetof
  | setTemp => EepromField.cntUpdateSetTemp.offsetof
  | dayProg => EepromField.cntUpdateDayProg.offsetof

/-- The position of the section's counter in a polling reply. -/
def irspCntUpdate : CountedSection → Nat
  | info => irspCntUpdateEepInfo
  | settingPar => irspCntUpdateEepSettingPar
  | setTemp => irspCntUpdateEepSetpTemp
  | dayProg => irspCntUpdateEepWeekly

/-- The position of the section's counter in the reply to a write. -/
def irswCntUpdate : CountedSection → Nat
  | info => irswCntUpdateEepInfo
  | settingPar => irswCntUpdateEepSettingPar
  | setTemp => irswCntUpdateEepSetpTemp
  | dayProg => irswCntUpdateEepWeekly

theorem mem_all (sec : CountedSection) :
    sec ∈ all := by
  cases sec <;> decide

theorem cntUpdateAddress_eq (sec : CountedSection) :
    sec.cntUpdateAddress =
      match sec with
      | info => 58
      | settingPar => 128
      | setTemp => 154
      | dayProg => 239 := by
  cases sec <;> decide

/-- The counter of a section is its last byte. -/
theorem cntUpdateAddress_eq_last (sec : CountedSection) :
    sec.cntUpdateAddress + 1 =
      sec.eepromSection.startAddress + sec.eepromSection.count := by
  cases sec <;> decide

theorem eepromSection_injective :
    Function.Injective eepromSection := by
  intro a b h
  cases a <;> cases b <;> first | rfl | cases h

end CountedSection

end Serial
end AvensysEsp32
