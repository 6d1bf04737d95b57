import ButtonGateway.Button
import ButtonGateway.ClickFilter
import ButtonGateway.Notice

namespace ButtonGateway.Notice

open Daemon
open Enumeration (name code)

/-- The slot byte of a connection channel: channels carry the number of their slot. -/
def slotOfChannel? (channel : UInt32) : Option UInt8 :=
  if channel.toNat < slotCount then some channel.toUInt8 else none

/-- The slot byte of a channel, or the one that stands for no slot. -/
def slotOfChannel (channel : UInt32) : UInt8 :=
  (slotOfChannel? channel).getD noSlot

/-- The notice that an event gives rise to. Clicks that the filter drops and clicks on channels
that belong to no slot give rise to none. -/
def ofEvent? (filter : ClickFilter) : Event → Option Notice
  | .info daemon =>
    some (ofText .info (code daemon.controller) noSlot
      (toString daemon.verified.length ++ " verified buttons"))
  | .pong token => some (ofText .ping 0 noSlot ("pong " ++ toString token.toNat))
  | .channelCreated channel error status =>
    some (ofText .connect (code error) (slotOfChannel channel) (name status))
  | .statusChanged channel status reason =>
    some (ofText .status (code status) (slotOfChannel channel)
      (if status = .disconnected then name status ++ " " ++ name reason else name status))
  | .channelRemoved channel reason =>
    some (ofText .status (code ConnectionStatus.disconnected) (slotOfChannel channel)
      (name reason))
  | .button kind press =>
    if filter.forwards kind press.click then
      (slotOfChannel? press.channel).map fun slot =>
        ofText .upDown (code press.click) slot (name press.click)
    else none
  | _ => none

end ButtonGateway.Notice
