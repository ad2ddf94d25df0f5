import Mathlib.Logic.Function.Basic
import AvensysEsp32.Gateway.Refinement
import AvensysEsp32.Mqtt.Messages

/-!
# Gateways at one broker

Any number of gateways publish at the broker, each from its MQTT client and from
its unit task, in any order of their steps.  What one of them publishes is never
acted upon by another, nor by itself; a message of the app is acted upon by the
gateways that have the identity it names, and by these alone.
-/

namespace AvensysEsp32
namespace Gateway

open Foundation Serial UnitComm Ble Wifi Mqtt

/-- What a gateway finds when it starts. -/
structure Board where
  device : DeviceIdentity
  firmwareBin : Option (List UInt8)
  unitPartitionState : Bool
  millis : UInt32
  nvsSsid : Option (List UInt8)
  nvsPass : Option (List UInt8)
  efuseMac : Option (Vector UInt8 6)
  nvs : EndpointNvs

def Board.boot (board : Board) : GatewayState :=
  GatewayState.boot board.device board.firmwareBin board.unitPartitionState board.millis
    board.nvsSsid board.nvsPass board.efuseMac board.nvs

/-- The gateways, and the topics on which any of them has published. -/
structure Fleet (ι : Type*) where
  gateways : ι → GatewayState
  published : Set (List UInt8)

def Fleet.boot {ι : Type*} (boards : ι → Board) : Fleet ι where
  gateways := fun i => (boards i).boot
  published := ∅

/-! ## Steps -/

/-- The client publishes on the topic in the course of the events. -/
def ClientPublishes (es : List MqttEvent) (s : MqttState) (topic : List UInt8) : Prop :=
  ∃ before e after env, es = before ++ e :: after ∧
    ∃ message ∈ mqttMessages env e (run mqttStep before s), message.1 = topic

/-- The unit task publishes on the topic, under what its address shows then. -/
def UnitPublishes (os : List Output) (topic : List UInt8) : Prop :=
  ∃ kind address data, Output.mqttPublish kind address data ∈ os ∧
    ∃ gRDEeprom text, addressShows address gRDEeprom text ∧
      topic = mqttBuildTopic 64 text (espSuffix kind)

section Fleet

variable {ι : Type*} [DecidableEq ι] (handles : HandleTable)

/-- The topics that a step of a gateway publishes on. -/
def stepTopics (e : GatewayEvent) (g : GatewayState) : Set (List UInt8) :=
  {topic | ClientPublishes (mqttEvents handles e g) g.mqtt topic ∨
    UnitPublishes (newOutputs g.unit (gatewayStep handles e g).unit) topic}

/-- One gateway of the fleet makes a step. -/
def fleetStep (e : ι × GatewayEvent) (f : Fleet ι) : Fleet ι where
  gateways := Function.update f.gateways e.1 (gatewayStep handles e.2 (f.gateways e.1))
  published := f.published ∪ stepTopics handles e.2 (f.gateways e.1)

/-- The step of the fleet as one of its gateways sees it. -/
def gatewayEvents (i : ι) (e : ι × GatewayEvent) (_ : Fleet ι) : List GatewayEvent :=
  if e.1 = i then [e.2] else []

/-- Each gateway of the fleet runs as it would alone. -/
theorem gateway_simulation (i : ι) :
    Simulation (fleetStep handles) (gatewayStep handles) (fun _ _ => True)
      (fun f g => f.gateways i = g) (gatewayEvents i) where
  step := by
    rintro e f g - rfl
    unfold fleetStep gatewayEvents
    dsimp only
    by_cases hself : e.1 = i
    · rw [if_pos hself, ← hself, Function.update_self]
      rfl
    · rw [if_neg hself, Function.update_of_ne (Ne.symm hself)]
      rfl

/-! ## What is published -/

theorem espTopic_of_clientPublishes
    {es : List MqttEvent} {s : MqttState} {topic : List UInt8} (h : ClientPublishes es s topic) :
    EspTopic topic := by
  obtain ⟨_, _, _, _, _, message, hmem, rfl⟩ := h
  exact espTopic_of_mem_mqttMessages hmem

theorem espTopic_of_unitPublishes
    {os : List Output} {topic : List UInt8} (h : UnitPublishes os topic) :
    EspTopic topic := by
  obtain ⟨kind, _, _, _, _, text, _, rfl⟩ := h
  refine ⟨64, text, espSuffix kind, Or.inl rfl, ?_, rfl⟩
  cases kind <;> decide

/-- Only the topics of gateways have been published on. -/
def PublishesAsEsp (f : Fleet ι) : Prop :=
  ∀ topic ∈ f.published, EspTopic topic

theorem publishesAsEsp_fleetStep
    (e : ι × GatewayEvent) {f : Fleet ι} (h : PublishesAsEsp f) :
    PublishesAsEsp (fleetStep handles e f) := by
  rintro topic (hbefore | hnow)
  · exact h topic hbefore
  · rcases hnow with hclient | hunit
    · exact espTopic_of_clientPublishes hclient
    · exact espTopic_of_unitPublishes hunit

/-! ## What is acted upon -/

/-- The texts that name a gateway at a moment. -/
def identities (board : Board) (g : GatewayState) : Set (List UInt8) :=
  {identity | identity = hwIdOf board.efuseMac ∨
    (identity = serialIn g.unit.gRDEeprom ∧ identity ≠ [])}

/-- What a gateway knows of itself in every run. -/
structure Known (board : Board) (g : GatewayState) : Prop where
  identified : Identified g.mqtt
  mac : g.mqtt.efuseMac = board.efuseMac
  mirror : g.mqtt.gRDEeprom = g.unit.gRDEeprom

theorem known_run
    (board : Board) (es : List GatewayEvent) :
    Known board (run (gatewayStep handles) es board.boot) := by
  have hall : Along (gatewayStep handles) (fun _ _ => True) es board.boot :=
    Along.of_forall fun _ _ => trivial
  have hmqtt := (mqtt_simulation handles).run hall rfl
  refine ⟨?_, ?_, ?_⟩
  · rw [hmqtt]
    exact identified_run _ (identified_initial board.efuseMac board.nvs)
  · rw [hmqtt]
    exact efuseMac_run _
  · have hcoherent := hall.invariant (fun e _ _ h => coherent_gatewayStep handles e h)
      (coherent_boot board.device board.firmwareBin board.unitPartitionState board.millis
        board.nvsSsid board.nvsPass board.efuseMac board.nvs)
    exact hcoherent.mirror

/-- A gateway acts upon the topics of the app that name it. -/
theorem Known.actsOn_iff
    {board : Board} {g : GatewayState} (h : Known board g) (topic : List UInt8) :
    ActsOn topic g.mqtt ↔ ∃ identity ∈ identities board g, topic ∈ appTopics identity := by
  rw [Mqtt.actsOn_iff h.identified, h.mac, h.mirror]
  unfold channels
  constructor
  · rintro (hw | hs)
    · exact ⟨_, Or.inl rfl, hw⟩
    · split at hs
      · exact absurd hs (Set.notMem_empty _)
      · rename_i hne
        exact ⟨_, Or.inr ⟨rfl, hne⟩, hs⟩
  · rintro ⟨identity, rfl | ⟨rfl, hne⟩, hmem⟩
    · exact Or.inl hmem
    · right
      rw [if_neg hne]
      exact hmem

theorem length_identity_le
    {board : Board} {g : GatewayState} {identity : List UInt8}
    (h : identity ∈ identities board g) :
    identity.length ≤ eepromSerialMaxLen := by
  rcases h with rfl | ⟨rfl, -⟩
  · exact length_hwIdOf_le _
  · exact length_serialIn_le _

/-! ## Runs -/

/-- Whatever the order of the gateways' steps: a gateway acts upon the app's topics
that name it, and two act upon the same message only when they have an identity
in common; on a topic that any of them has published on none acts, and such a
message makes no gateway publish in turn. -/
theorem fleet_isolated
    (boards : ι → Board) (es : List (ι × GatewayEvent)) :
    let f := run (fleetStep handles) es (Fleet.boot boards)
    (∀ i topic, ActsOn topic (f.gateways i).mqtt ↔
        ∃ identity ∈ identities (boards i) (f.gateways i), topic ∈ appTopics identity) ∧
      (∀ i j topic, ActsOn topic (f.gateways i).mqtt → ActsOn topic (f.gateways j).mqtt →
        ∃ identity ∈ identities (boards i) (f.gateways i),
          identity ∈ identities (boards j) (f.gateways j)) ∧
      ∀ topic ∈ f.published, ∀ i env tick payload,
        mqttEventHandler tick (.data topic payload) (f.gateways i).mqtt =
            noticed (f.gateways i).mqtt ∧
          eventMessages env tick (.data topic payload) (f.gateways i).mqtt = [] := by
  intro f
  have hall : Along (fleetStep handles) (fun _ _ => True) es (Fleet.boot boards) :=
    Along.of_forall fun _ _ => trivial
  have hknown : ∀ i, Known (boards i) (f.gateways i) := by
    intro i
    have hrun := (gateway_simulation handles i).run hall rfl
    have hboot : (Fleet.boot boards).gateways i = (boards i).boot := rfl
    rw [hboot] at hrun
    rw [hrun]
    exact known_run handles (boards i) _
  have hpublished : PublishesAsEsp f :=
    hall.invariant (fun e _ _ h => publishesAsEsp_fleetStep handles e h)
      fun topic hmem => absurd hmem (Set.notMem_empty topic)
  refine ⟨fun i topic => (hknown i).actsOn_iff topic, fun i j topic hi hj => ?_, ?_⟩
  · obtain ⟨identity, hidentity, hmem⟩ := ((hknown i).actsOn_iff topic).mp hi
    obtain ⟨identity', hidentity', hmem'⟩ := ((hknown j).actsOn_iff topic).mp hj
    have hsame := eq_of_mem_appTopics (length_identity_le hidentity)
      (length_identity_le hidentity') hmem hmem'
    exact ⟨identity, hidentity, hsame ▸ hidentity'⟩
  · intro topic htopic i env tick payload
    exact handled_of_not_actsOn
      (not_actsOn_espTopic (hknown i).identified (hpublished topic htopic)) env tick payload

end Fleet

end Gateway
end AvensysEsp32
