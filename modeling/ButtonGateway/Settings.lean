import ButtonGateway.Broker.Location
import ButtonGateway.Button
import ButtonGateway.ClickFilter
import ButtonGateway.Gesture
import ButtonGateway.Invocation

namespace ButtonGateway

structure DaemonSettings where
  host : String := "localhost"
  port : UInt16 := Invocation.daemonPort
  deriving DecidableEq, Repr

structure BrokerSettings where
  url : String
  topicBase : String
  clientId : String := "Flic2MQTT/1.0"
  deriving DecidableEq, Repr

structure Settings where
  daemon : DaemonSettings := {}
  broker : BrokerSettings
  buttons : List Button := []
  filter : ClickFilter := .standard
  /-- The length of an epoch in seconds. -/
  epochLength : UInt64 := 3600
  deriving DecidableEq, Repr

namespace Settings

def slotTable (settings : Settings) : SlotTable := .ofButtons settings.buttons

def topics (settings : Settings) : Topics := ⟨settings.broker.topicBase, settings.slotTable.names⟩

def account (settings : Settings) : Except Broker.InvalidUrl Broker.Account :=
  Broker.Account.ofUrl settings.broker.url settings.broker.clientId

end Settings

end ButtonGateway
