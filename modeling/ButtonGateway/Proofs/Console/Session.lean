import ButtonGateway.Console.Session
import ButtonGateway.Proofs.Daemon.Command
import ButtonGateway.Proofs.Wire.Intake

namespace ButtonGateway.Daemon.Command

open Wire

private theorem length_body_lt (command : Command) : command.body.length < Frame.limit := by
  rw [length_body]
  exact Nat.lt_of_le_of_lt (size_le command.opcode) (by decide)

private theorem mapM_frame (commands : List Command) :
    commands.mapM frame = .ok (commands.map fun command => Frame.framed command.body) := by
  have narrow : ∀ part ∈ commands.map body, part.length < Frame.limit := by
    intro part member
    obtain ⟨command, -, rfl⟩ := List.mem_map.mp member
    exact length_body_lt command
  have framed := Frame.mapM_encode narrow
  rw [List.mapM_map, List.map_map] at framed
  exact framed

private theorem mapM_decode_body (commands : List Command) :
    (commands.map body).mapM decode = .ok commands := by
  induction commands with
  | nil => rfl
  | cons command later ih =>
    rw [List.map_cons, List.mapM_cons, decode_body, ih]
    rfl

end ButtonGateway.Daemon.Command

namespace ButtonGateway.Console

open Daemon Wire Wire.Frame

/-- A line asks for nothing that concerns the daemon, and the session goes on. -/
inductive Silent (line : String) : Prop where
  | blank (read : Line.parse line = .ok .blank)
  | help (read : Line.parse line = .ok .help)
  | faulty (refusal : Refusal) (read : Line.parse line = .error refusal)

/-- What lines send to the daemon. Nothing is sent once a line has ended the session. -/
inductive Sends : List String → List Command → Prop where
  | done : Sends [] []
  | quit {line : String} (ends : Line.parse line = .ok .quit) (later : List String) :
      Sends (line :: later) []
  | send {line : String} {command : Command} {later : List String} {commands : List Command}
      (asks : Line.parse line = .ok (.send command)) (further : Sends later commands) :
      Sends (line :: later) (command :: commands)
  | pass {line : String} {later : List String} {commands : List Command}
      (silent : Silent line) (further : Sends later commands) : Sends (line :: later) commands

private theorem cases_of_line (line : String) :
    Line.parse line = .ok .quit ∨ (∃ command, Line.parse line = .ok (.send command)) ∨
      Silent line := by
  cases read : Line.parse line with
  | error refusal => exact .inr (.inr (.faulty refusal read))
  | ok asked =>
    cases asked with
    | blank => exact .inr (.inr (.blank read))
    | help => exact .inr (.inr (.help read))
    | quit => exact .inl rfl
    | send command => exact .inr (.inl ⟨command, rfl⟩)

theorem session_cons (line : String) (later : List String) :
    session (line :: later) =
      if isQuit (Line.parse line) then [] else acts (Line.parse line) ++ session later := by
  rw [session, List.map_cons, List.takeWhile_cons]
  cases isQuit (Line.parse line) <;> rfl

/-- A session goes on after some lines as if it began there, unless one of them has ended it. -/
theorem session_append (first second : List String) :
    session (first ++ second) = session first ++
      if first.any fun line => isQuit (Line.parse line) then [] else session second := by
  induction first with
  | nil => rfl
  | cons line later ih =>
    rw [List.cons_append, session_cons, session_cons, List.any_cons]
    cases isQuit (Line.parse line) with
    | true => rfl
    | false =>
      rw [ih]
      exact (List.append_assoc _ _ _).symm

theorem commands_append (first second : List Act) :
    Act.commands (first ++ second) = Act.commands first ++ Act.commands second :=
  List.filterMap_append

theorem written_append (first second : List Act) :
    Act.written (first ++ second) = Act.written first ++ Act.written second := by
  rw [Act.written, commands_append, Command.written, List.flatMap_append]
  rfl

private theorem commands_send (command : Command) :
    Act.commands (acts (.ok (.send command))) = [command] := by
  cases command <;> rfl

namespace Silent

variable {line : String}

private theorem isQuit_eq (silent : Silent line) : isQuit (Line.parse line) = false := by
  cases silent with
  | blank read | help read | faulty refusal read => rw [read]; rfl

private theorem commands_acts (silent : Silent line) :
    Act.commands (acts (Line.parse line)) = [] := by
  cases silent with
  | blank read | help read | faulty refusal read => rw [read]; rfl

end Silent

private theorem commands_of_sends {lines : List String} {commands : List Command}
    (sends : Sends lines commands) : Act.commands (session lines) = commands := by
  induction sends with
  | done => rfl
  | quit ends later => rw [session_cons, ends]; rfl
  | send asks further ih =>
    rw [session_cons, asks]
    change Act.commands (acts _ ++ _) = _
    rw [commands_append, commands_send, ih]
    rfl
  | pass silent further ih =>
    rw [session_cons, silent.isQuit_eq]
    change Act.commands (acts _ ++ _) = _
    rw [commands_append, silent.commands_acts, ih]
    rfl

private theorem exists_sends (lines : List String) : ∃ commands, Sends lines commands := by
  induction lines with
  | nil => exact ⟨[], .done⟩
  | cons line later ih =>
    obtain ⟨commands, further⟩ := ih
    rcases cases_of_line line with ends | ⟨command, asks⟩ | silent
    · exact ⟨[], .quit ends later⟩
    · exact ⟨command :: commands, .send asks further⟩
    · exact ⟨commands, .pass silent further⟩

/-- The daemon gets back what was written, as it was typed, however it was cut on the way. -/
theorem read_written {acts : List Act} {turns : List Turn} (whole : fed turns = Act.written acts)
    {calls : Nat} (enough : (Act.commands acts).length ≤ calls) :
    Intake.start.run (turns ++ List.replicate calls .decode) =
      ⟨[], (Act.commands acts).map Command.body⟩ := by
  have short : ∀ body ∈ (Act.commands acts).map Command.body, body.length < lengthBound := by
    intro body member
    obtain ⟨command, -, rfl⟩ := List.mem_map.mp member
    exact Nat.lt_trans command.length_body_lt (by decide)
  have parts : split (fed turns) = ((Act.commands acts).map Command.body, []) := by
    rw [whole, Act.written, Command.written, ← split_framed short, List.flatMap_map]
  rw [Intake.run_eq_split turns (by rw [parts, List.length_map]; exact enough), parts]

/-- Without a line that sends nothing the daemon would get the same. -/
theorem written_of_silent {line : String} (silent : Silent line) (before behind : List String) :
    Act.written (session (before ++ line :: behind)) =
      Act.written (session (before ++ behind)) := by
  have nothing : Act.written (acts (Line.parse line)) = [] := by
    rw [Act.written, silent.commands_acts]
    rfl
  rw [session_append, session_append, session_cons, silent.isQuit_eq, written_append,
    written_append]
  congr 1
  split
  · rfl
  · exact (written_append _ _).trans (by rw [nothing, List.nil_append])

/-- Lines behind one that ends the session do not count, nor does that line. -/
theorem session_of_quit {line : String} (ends : Line.parse line = .ok .quit)
    (before behind : List String) : session (before ++ line :: behind) = session before := by
  have ended : session (line :: behind) = [] := by
    rw [session_cons, ends]
    rfl
  rw [session_append, ended, ite_self, List.append_nil]

/-- The daemon gets the frames of the commands of all lines in front of the first one that ends the
session, in their order, and from these bytes it reads the same commands again, wherever they were
cut. Lines that are blank, ask for help or cannot be understood make no difference. -/
theorem daemon_reads_what_was_typed (lines : List String) :
    ∃ commands frames, (∀ others, Sends lines others ↔ others = commands) ∧
      commands.mapM Command.frame = .ok frames ∧
      Act.written (session lines) = frames.flatten ∧
      (∀ turns, fed turns = Act.written (session lines) → ∀ calls, commands.length ≤ calls →
        ∃ bodies, Intake.start.run (turns ++ List.replicate calls .decode) = ⟨[], bodies⟩ ∧
          bodies.mapM Command.decode = .ok commands) ∧
      ∀ before line behind, lines = before ++ line :: behind →
        (Silent line → Act.written (session lines) = Act.written (session (before ++ behind))) ∧
        (Line.parse line = .ok .quit → session lines = session before) := by
  let commands := Act.commands (session lines)
  obtain ⟨sent, sends⟩ := exists_sends lines
  have same : commands = sent := commands_of_sends sends
  refine ⟨commands, _, fun others => ⟨fun other => (commands_of_sends other).symm, ?_⟩,
    Command.mapM_frame commands, ?_, ?_, ?_⟩
  · rintro rfl
    rwa [same]
  · rw [Act.written, Command.written, List.flatMap_def]
  · intro turns whole calls enough
    exact ⟨_, read_written whole enough, Command.mapM_decode_body commands⟩
  · rintro before line behind rfl
    exact ⟨fun silent => written_of_silent silent before behind,
      fun ends => session_of_quit ends before behind⟩

/-- Two commands with a mistake and a request for help between them, and one that comes too late;
the frames are cut within a length and within a body. -/
theorem two_typed_commands_are_read :
    let lines := ["ping 7", "pong", "help", "startScan", "quit", "getInfo"]
    let turns : List Turn := [.feed [5], .decode, .feed [0, 7, 7, 0], .feed [0, 0, 5, 0, 1, 0, 0],
      .decode, .feed [0, 0]]
    Act.written (session lines) = [5, 0, 7, 7, 0, 0, 0, 5, 0, 1, 0, 0, 0, 0] ∧
      fed turns = Act.written (session lines) ∧
      ∃ bodies, Intake.start.run (turns ++ List.replicate 2 .decode) = ⟨[], bodies⟩ ∧
        bodies.mapM Command.decode = .ok [.ping 7, .createScanner 0] := by
  intro lines turns
  have sends : Sends lines [.ping 7, .createScanner 0] :=
    .send (by decide) (.pass (.faulty (.unknown "pong") (by decide))
      (.pass (.help (by decide)) (.send (by decide) (.quit (by decide) ["getInfo"]))))
  obtain ⟨commands, frames, only, framed, written, read, -⟩ := daemon_reads_what_was_typed lines
  obtain rfl := (only _).mp sends
  cases framed
  have whole : fed turns = Act.written (session lines) := written.symm
  exact ⟨written, whole, read turns whole 2 (by decide)⟩

end ButtonGateway.Console
