import ButtonGateway.Console.Session
import ButtonGateway.Daemon.Event.Description
import ButtonGateway.Service.Stream

namespace ButtonGateway.Service.Terminal

open Console

def print (text : String) : IO Unit := do
  let output ← IO.getStdout
  output.putStr text
  output.flush

/-- Prints every event that a daemon sends. Packets that cannot be read are passed over. -/
partial def printEvents (stream : Stream) (incomplete : Wire.Bytes) : IO Unit := do
  match ← stream.read with
  | none => return
  | some chunk =>
    let (bodies, rest) := Wire.Frame.split (incomplete ++ chunk.toList)
    for body in bodies do
      match Daemon.Event.decode body with
      | .ok event => print (event.describe ++ "\n")
      | .error _ => pure ()
    printEvents stream rest

def perform (stream : Stream) : Act → IO Unit
  | .print text => print text
  | .complain text => IO.eprint text
  | .send command => do
    match ← stream.send command with
    | some failure => throw (IO.userError failure.text)
    | none => return

/-- Reads lines until one ends the session or there are no more. -/
partial def readLines (stream : Stream) (input : IO.FS.Stream) : IO Unit := do
  let typed ← input.getLine
  if typed.isEmpty then return
  let line := Line.parse typed
  if isQuit line then return
  for act in acts line do perform stream act
  readLines stream input

def run (host : String) (port : UInt16) : IO Unit := do
  let stream ← Stream.dial host port
  let printer ← IO.asTask (printEvents stream []) .dedicated
  print help
  try readLines stream (← IO.getStdin)
  finally
    IO.cancel printer
    stream.cancel

end ButtonGateway.Service.Terminal
