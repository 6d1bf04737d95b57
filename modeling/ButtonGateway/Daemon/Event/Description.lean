import ButtonGateway.Calendar
import ButtonGateway.Daemon.Event

namespace ButtonGateway.Daemon

open Enumeration (name)

private def word (flag : Bool) (yes no : String) : String := if flag then yes else no

def Advertisement.describe (seen : Advertisement) : String :=
  String.intercalate " "
    ["ADV:", seen.address.text, seen.name, toString seen.signal.toInt,
      word seen.isPrivate "private" "public", word seen.alreadyVerified "verified" "unverified"] ++
    word seen.connectedHere " already connected to this device" "" ++
    word seen.connectedElsewhere " already connected to other device" ""

/-- The verified buttons, one a line. -/
private def verifiedLines (verified : List Address) : List String :=
  if verified.isEmpty then ["No verified buttons yet"]
  else "Verified buttons:" :: verified.map Address.text

def DaemonInfo.describe (info : DaemonInfo) : String :=
  String.intercalate "\n"
    (String.intercalate ", "
      ["Got info: " ++ name info.controller,
        info.address.text ++ " (" ++ name info.addressKind ++ ")",
        "max pending connections: " ++ toString info.maxPending.toNat,
        "max conns: " ++ toString info.maxConnected.toInt,
        "current pending conns: " ++ toString info.pending.toNat,
        "currently no space: " ++ word info.full "y" "n"] ::
      verifiedLines info.verified)

def ButtonInfo.describe (info : ButtonInfo) : String :=
  String.intercalate " "
    ["Button info response:", info.address.text, Text.Hex.text info.uuid.val, info.color,
      info.serial, toString info.version.toNat, toString info.firmware.toNat]

def Press.describe (kind : ButtonClass) (press : Press) : String :=
  kind.name ++ ": " ++ String.intercalate ", "
    [toString press.channel.toNat, name press.click, word press.wasQueued "queued" "not queued",
      toString press.age.toNat ++ " seconds ago"]

def Event.describe : Event → String
  | .advertisement seen => seen.describe
  | .channelCreated channel error status =>
    String.intercalate " " ["Create conn:", toString channel.toNat, name error, name status]
  | .statusChanged channel status reason =>
    String.intercalate " " (["Connection status changed:", toString channel.toNat, name status] ++
      if status = .disconnected then [name reason] else [])
  | .channelRemoved channel reason =>
    String.intercalate " " ["Connection removed:", toString channel.toNat, name reason]
  | .button kind press => press.describe kind
  | .newVerifiedButton address => "New verified button: " ++ address.text
  | .info daemon => daemon.describe
  | .noSpace maxConnected =>
    "No space for new connection, max: " ++ toString maxConnected.toNat
  | .gotSpace maxConnected =>
    "Got space for new connection, max: " ++ toString maxConnected.toNat
  | .controllerChanged state => "Bluetooth state change: " ++ name state
  | .pong token => "Ping response: " ++ toString token.toNat
  | .buttonInfo known => known.describe
  | .wizardFoundPrivate _ =>
    "Found private button. Please hold down it for 7 seconds to make it public."
  | .wizardFoundPublic _ address found =>
    "Found public button " ++ address.text ++ " " ++ found ++ ", connecting..."
  | .wizardConnected _ => "Connected, now pairing and verifying..."
  | .wizardCompleted _ result => "Scan wizard done with status " ++ name result
  | .buttonDeleted address byThisClient =>
    "Button " ++ address.text ++ " deleted " ++
      word byThisClient "by this client" "not by this client"
  | .battery listener percentage timestamp =>
    "Battery status report for id " ++ toString listener.toNat ++ ", percentage: " ++
      toString percentage.toInt ++ "%, timestamp: " ++ Calendar.instantText timestamp.toInt
  | .unknown opcode => "Unknown packet opcode: " ++ toString opcode.toNat

end ButtonGateway.Daemon
