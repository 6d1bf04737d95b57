import ButtonGateway.Proofs.Wire.Frame

namespace ButtonGateway.Wire.Frame

inductive Turn where
  | feed (chunk : Bytes)
  | decode
  deriving DecidableEq, Repr

def fed : List Turn → Bytes
  | [] => []
  | .feed chunk :: rest => chunk ++ fed rest
  | .decode :: rest => fed rest

private theorem fed_cons (turn : Turn) (rest : List Turn) :
    fed (turn :: rest) = fed [turn] ++ fed rest := by
  cases turn <;> simp [fed]

structure Intake where
  buffer : Bytes
  bodies : List Bytes
  deriving DecidableEq, Repr

namespace Intake

def start : Intake := ⟨[], []⟩

def step (intake : Intake) : Turn → Intake
  | .feed chunk => { intake with buffer := intake.buffer ++ chunk }
  | .decode =>
    match next? intake.buffer with
    | some (body, rest) => ⟨rest, intake.bodies ++ [body]⟩
    | none => intake

def run (intake : Intake) (turns : List Turn) : Intake := turns.foldl step intake

theorem step_of_next? {intake : Intake} {body rest : Bytes}
    (found : next? intake.buffer = some (body, rest)) :
    intake.step .decode = ⟨rest, intake.bodies ++ [body]⟩ := by
  rw [step, found]

theorem step_of_stuck {intake : Intake} (stuck : next? intake.buffer = none) :
    intake.step .decode = intake := by
  rw [step, stuck]

private theorem run_append (intake : Intake) (first second : List Turn) :
    intake.run (first ++ second) = (intake.run first).run second :=
  List.foldl_append

/-- The frames of the bodies that were taken, and behind them the buffer. -/
def stream (intake : Intake) : Bytes := intake.bodies.flatMap framed ++ intake.buffer

private theorem stream_step (intake : Intake) (turn : Turn) :
    (intake.step turn).stream = intake.stream ++ fed [turn] := by
  cases turn with
  | feed chunk => simp [stream, step, fed]
  | decode =>
    cases found : next? intake.buffer with
    | none => simp [step_of_stuck found, fed]
    | some parts =>
      have whole := (framed_of_next? found).2
      rw [step_of_next? found, stream, stream, whole]
      simp [fed]

private theorem stream_run (intake : Intake) (turns : List Turn) :
    (intake.run turns).stream = intake.stream ++ fed turns := by
  induction turns generalizing intake with
  | nil => simp [run, fed]
  | cons turn rest ih =>
    have further := ih (intake.step turn)
    rw [stream_step, List.append_assoc, ← fed_cons] at further
    exact further

/-- Only bodies have been taken whose length fits in front of them. -/
def Short (intake : Intake) : Prop := ∀ body ∈ intake.bodies, body.length < lengthBound

private theorem short_step {intake : Intake} (short : intake.Short) (turn : Turn) :
    (intake.step turn).Short := by
  cases turn with
  | feed chunk => exact short
  | decode =>
    cases found : next? intake.buffer with
    | none =>
      rw [step_of_stuck found]
      exact short
    | some parts =>
      rw [step_of_next? found]
      intro other member
      rcases List.mem_append.mp member with earlier | last
      · exact short other earlier
      · rw [List.mem_singleton.mp last]
        exact (framed_of_next? found).1

private theorem short_run {intake : Intake} (short : intake.Short) (turns : List Turn) :
    (intake.run turns).Short := by
  induction turns generalizing intake with
  | nil => exact short
  | cons turn rest ih => exact ih (short_step short turn)

/-- So many calls of the reader as there are complete frames take all of them. -/
theorem run_decode (intake : Intake) {calls : Nat}
    (enough : (split intake.buffer).1.length ≤ calls) :
    intake.run (List.replicate calls .decode) =
      ⟨(split intake.buffer).2, intake.bodies ++ (split intake.buffer).1⟩ := by
  induction calls generalizing intake with
  | zero =>
    cases found : next? intake.buffer with
    | none =>
      rw [split_of_stuck found]
      simp [run]
    | some parts =>
      rw [split_of_next? found] at enough
      cases enough
  | succ calls ih =>
    rw [List.replicate_succ]
    change (intake.step .decode).run (List.replicate calls .decode) = _
    cases found : next? intake.buffer with
    | none =>
      have nothing : (split intake.buffer).1.length ≤ calls := by
        rw [split_of_stuck found]
        exact Nat.zero_le calls
      rw [step_of_stuck found, ih intake nothing]
    | some parts =>
      rw [split_of_next? found] at enough ⊢
      rw [step_of_next? found, ih _ (Nat.le_of_succ_le_succ enough), List.append_assoc]
      rfl

private theorem short_start : start.Short := by
  intro body member
  cases member

/-- Bodies that were taken and those still in the buffer are those of all bytes that were fed. -/
theorem split_fed (turns : List Turn) :
    split (fed turns) = ((start.run turns).bodies ++ (split (start.run turns).buffer).1,
      (split (start.run turns).buffer).2) := by
  have whole : (start.run turns).stream = fed turns := stream_run start turns
  have taken := short_run short_start turns
  have left := splits_split (start.run turns).buffer
  refine split_eq_iff.mpr ⟨?_, ?_, left.incomplete⟩
  · rw [List.flatMap_append, List.append_assoc, ← left.whole]
    exact whole.symm
  · intro body member
    rcases List.mem_append.mp member with earlier | later
    · exact taken body earlier
    · exact left.short body later

theorem run_eq_split (turns : List Turn) {calls : Nat}
    (enough : (split (fed turns)).1.length ≤ calls) :
    start.run (turns ++ List.replicate calls .decode) =
      ⟨(split (fed turns)).2, (split (fed turns)).1⟩ := by
  rw [split_fed, List.length_append] at enough
  rw [split_fed, run_append, run_decode]
  omega

end Intake

private theorem encode_eq_ok {body : Bytes} (narrow : body.length < limit) :
    encode body = .ok (framed body) := if_pos narrow

private theorem encode_eq_error_iff {body : Bytes} :
    (∃ fault, encode body = .error fault) ↔ limit ≤ body.length := by
  constructor
  · rintro ⟨fault, failed⟩
    by_cases narrow : body.length < limit
    · rw [encode_eq_ok narrow] at failed
      cases failed
    · exact Nat.le_of_not_lt narrow
  · intro wide
    exact ⟨_, if_neg (Nat.not_lt.mpr wide)⟩

theorem mapM_encode {bodies : List Bytes} (narrow : ∀ body ∈ bodies, body.length < limit) :
    bodies.mapM encode = .ok (bodies.map framed) := by
  induction bodies with
  | nil => rfl
  | cons body others ih =>
    obtain ⟨here, there⟩ := List.forall_mem_cons.mp narrow
    rw [List.mapM_cons, encode_eq_ok here, ih there]
    rfl

theorem split_framed {bodies : List Bytes} (short : ∀ body ∈ bodies, body.length < lengthBound) :
    split (bodies.flatMap framed) = (bodies, []) :=
  split_eq_iff.mpr ⟨(List.append_nil _).symm, short, incomplete_of_next?_eq_none rfl⟩

private theorem next?_eq_none_iff {buffer : Bytes} : next? buffer = none ↔
    ¬ ∃ body rest, body.length < lengthBound ∧ buffer = framed body ++ rest := by
  constructor
  · rintro stuck ⟨body, rest, short, rfl⟩
    rw [next?_framed short rest] at stuck
    cases stuck
  · intro missing
    cases found : next? buffer with
    | none => rfl
    | some parts => exact absurd ⟨parts.1, parts.2, framed_of_next? found⟩ missing

/-- Whatever is fed to a buffer and whenever the reader is called: the frames of the bodies taken so
far and the bytes still in the buffer make up all bytes that were fed. The reader takes nothing only
if no complete frame is there, and then it changes nothing. So bodies that can be framed come out of
their frames as they were, wherever these were cut; and only those of 4094 bytes or more cannot. -/
theorem framing_loses_nothing :
    (∀ turns, (Intake.start.run turns).bodies.flatMap framed ++ (Intake.start.run turns).buffer =
        fed turns ∧
      (∀ body ∈ (Intake.start.run turns).bodies, body.length < 65536) ∧
      (next? (Intake.start.run turns).buffer = none ↔ ¬ ∃ body rest, body.length < 65536 ∧
        (Intake.start.run turns).buffer = framed body ++ rest) ∧
      (next? (Intake.start.run turns).buffer = none →
        Intake.start.run (turns ++ [.decode]) = Intake.start.run turns)) ∧
    (∀ bodies : List Bytes, (∀ body ∈ bodies, body.length < 4094) →
      ∃ frames, bodies.mapM encode = .ok frames ∧ ∀ turns, fed turns = frames.flatten →
        ∀ calls, bodies.length ≤ calls →
          Intake.start.run (turns ++ List.replicate calls .decode) = ⟨[], bodies⟩) ∧
    ∀ body, (∃ fault, encode body = .error fault) ↔ 4094 ≤ body.length := by
  refine ⟨?_, ?_, fun _ => encode_eq_error_iff⟩
  · intro turns
    refine ⟨Intake.stream_run _ turns, Intake.short_run Intake.short_start turns,
      next?_eq_none_iff, ?_⟩
    intro stuck
    rw [Intake.run_append]
    exact Intake.step_of_stuck stuck
  · intro bodies narrow
    refine ⟨bodies.map framed, mapM_encode narrow, ?_⟩
    intro turns whole calls enough
    have short : ∀ body ∈ bodies, body.length < lengthBound :=
      fun body member => Nat.lt_trans (narrow body member) (by decide)
    have parts : split (fed turns) = (bodies, []) := by
      rw [whole, ← List.flatMap_def, split_framed short]
    have taken : (split (fed turns)).1.length ≤ calls := by
      rw [parts]
      exact enough
    rw [Intake.run_eq_split turns taken, parts]

/-- Three frames, the last with an empty body, cut within their lengths and read too early. -/
theorem three_cut_frames_come_out :
    (∀ body ∈ ([[0x0f], [0x0c, 2], []] : List Bytes), body.length < 4094) ∧
      [[0x0f], [0x0c, 2], []].mapM encode = .ok [[1, 0, 0x0f], [2, 0, 0x0c, 2], [0, 0]] ∧
      Intake.start.run ([.decode, .feed [1], .decode, .feed [0, 0x0f, 2], .decode, .decode,
        .feed [0, 0x0c, 2, 0], .feed [0]] ++ List.replicate 3 .decode) =
          ⟨[], [[0x0f], [0x0c, 2], []]⟩ := by
  have narrow : ∀ body ∈ ([[0x0f], [0x0c, 2], []] : List Bytes), body.length < 4094 := by decide
  obtain ⟨frames, encoded, out⟩ := framing_loses_nothing.2.1 _ narrow
  cases encoded
  exact ⟨narrow, rfl, out _ rfl 3 (by decide)⟩

end ButtonGateway.Wire.Frame
