import ButtonGateway.Notice

namespace ButtonGateway

inductive Delivery where
  | sent
  | full
  | closed
  deriving DecidableEq, Repr

def Delivery.name : Delivery → String
  | .sent => "sent"
  | .full => "full"
  | .closed => "closed"

structure Inbox where
  /-- What has arrived, first come first. -/
  waiting : List Notice
  /-- What will arrive and when, in the order of arrival. -/
  expected : List (Nat × Notice)
  /-- Whether no more than what is expected will arrive. -/
  last : Bool
  deriving DecidableEq, Repr

namespace Inbox

def empty : Inbox := ⟨[], [], false⟩

def closed (inbox : Inbox) : Bool := inbox.last && inbox.expected.isEmpty

/-- Puts notices in, whatever the room: senders wait until there is some. -/
def put (inbox : Inbox) (notices : List Notice) : Inbox :=
  { inbox with waiting := inbox.waiting ++ notices }

def offer (inbox : Inbox) (notice : Notice) : Inbox × Delivery :=
  if inbox.last then (inbox, .closed)
  else if inbox.waiting.length < Notice.capacity then (inbox.put [notice], .sent)
  else (inbox, .full)

/-- Puts a notice that will arrive behind all that come no later. -/
def schedule (expected : List (Nat × Notice)) (entry : Nat × Notice) : List (Nat × Notice) :=
  expected.takeWhile (·.1 ≤ entry.1) ++ entry :: expected.dropWhile (·.1 ≤ entry.1)

/-- Adds a notice to those that will arrive. Once no more can arrive than is expected, it is
lost. -/
def expect (inbox : Inbox) (instant : Nat) (notice : Notice) : Inbox :=
  if inbox.last then inbox else { inbox with expected := schedule inbox.expected (instant, notice) }

/-- Adds notices that will arrive behind all that are expected. -/
def await (inbox : Inbox) (notices : List (Nat × Notice)) : Inbox :=
  { inbox with expected := inbox.expected ++ notices }

/-- Lets in what has arrived by a given time. -/
def arrive (inbox : Inbox) (now : Nat) : Inbox where
  waiting := inbox.waiting ++ (inbox.expected.takeWhile (·.1 ≤ now)).map (·.2)
  expected := inbox.expected.dropWhile (·.1 ≤ now)
  last := inbox.last

/-- How much an inbox can still keep a session busy. -/
def load (inbox : Inbox) : Nat := 2 * inbox.expected.length + inbox.waiting.length

theorem load_arrive_lt {inbox : Inbox} {instant now : Nat} {notice : Notice}
    {rest : List (Nat × Notice)} (first : inbox.expected = (instant, notice) :: rest)
    (reached : instant ≤ now) : (inbox.arrive now).load < inbox.load := by
  have split := congrArg List.length
    (List.takeWhile_append_dropWhile (p := fun entry => entry.1 ≤ now) (l := inbox.expected))
  have taken : 0 < (inbox.expected.takeWhile (·.1 ≤ now)).length := by
    simp [first, reached]
  simp only [List.length_append] at split
  simp only [load, arrive, List.length_append, List.length_map]
  omega

end Inbox

end ButtonGateway
