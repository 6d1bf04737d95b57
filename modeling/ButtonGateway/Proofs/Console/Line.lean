import ButtonGateway.Proofs.Console.Argument

namespace ButtonGateway.Console

open Daemon Text

/-- The commands that can be typed, with their names and their arguments in the order of the
line. -/
inductive Typed : String → List Value → Command → Prop where
  | getInfo : Typed "getInfo" [] .getInfo
  | startScanWizard : Typed "startScanWizard" [] (.createWizard 0)
  | cancelScanWizard : Typed "cancelScanWizard" [] (.cancelWizard 0)
  | startScan : Typed "startScan" [] (.createScanner 0)
  | stopScan : Typed "stopScan" [] (.removeScanner 0)
  | connect (address : Address) (channel : UInt32) :
      Typed "connect" [.address address, .identifier channel]
        (.createChannel channel address .normal 511)
  | disconnect (channel : UInt32) :
      Typed "disconnect" [.identifier channel] (.removeChannel channel)
  | changeModeParameters (channel : UInt32) (mode : LatencyMode) (time : Int16) :
      Typed "changeModeParameters" [.identifier channel, .latency mode, .time time]
        (.changeMode channel mode time)
  | forceDisconnect (address : Address) :
      Typed "forceDisconnect" [.address address] (.forceDisconnect address)
  | getButtonInfo (address : Address) :
      Typed "getButtonInfo" [.address address] (.getButtonInfo address)
  | createBatteryStatusListener (address : Address) (listener : UInt32) :
      Typed "createBatteryStatusListener" [.address address, .identifier listener]
        (.createBatteryListener listener address)
  | removeBatteryStatusListener (listener : UInt32) :
      Typed "removeBatteryStatusListener" [.identifier listener] (.removeBatteryListener listener)
  | delete (address : Address) : Typed "delete" [.address address] (.deleteButton address)
  | ping (token : UInt32) : Typed "ping" [.identifier token] (.ping token)

def Takes (name : String) (parameters : List Parameter) : Prop :=
  ∃ values command, Typed name values command ∧ values.map Value.parameter = parameters

/-- The first argument that is missing or that no value spells, from left to right. -/
inductive Faulty (command : String) : List Parameter → List (List Char) → Refusal → Prop where
  | missing (parameter : Parameter) (others : List Parameter) :
      Faulty command (parameter :: others) [] (.missing command parameter.title)
  | invalid {parameter : Parameter} (others : List Parameter) {word : List Char}
      (words : List (List Char))
      (unspelled : ∀ value : Value, value.parameter = parameter → ¬ value.Spelled word) :
      Faulty command (parameter :: others) (word :: words) (parameter.complaint command word)
  | later {parameter : Parameter} {value : Value} {others : List Parameter} {word : List Char}
      {words : List (List Char)} {refusal : Refusal} (same : value.parameter = parameter)
      (spelled : value.Spelled word) (faulty : Faulty command others words refusal) :
      Faulty command (parameter :: others) (word :: words) refusal

/-- What the words of a line ask for, or why they are refused. -/
inductive Means : List (List Char) → Except Refusal Line → Prop where
  | blank : Means [] (.ok .blank)
  | help (behind : List (List Char)) : Means ("help".toList :: behind) (.ok .help)
  | quit (behind : List (List Char)) : Means ("quit".toList :: behind) (.ok .quit)
  | send {name : String} {values : List Value} {command : Command} {words : List (List Char)}
      (typed : Typed name values command) (spelled : List.Forall₂ Value.Spelled values words)
      (behind : List (List Char)) :
      Means (name.toList :: (words ++ behind)) (.ok (.send command))
  | faulty {name : String} {parameters : List Parameter} {words : List (List Char)}
      {refusal : Refusal} (takes : Takes name parameters)
      (faulty : Faulty name parameters words refusal) :
      Means (name.toList :: words) (.error refusal)
  | unknown {name : String} (notHelp : name ≠ "help") (notQuit : name ≠ "quit")
      (untyped : ∀ values command, ¬ Typed name values command) (words : List (List Char)) :
      Means (name.toList :: words) (.error (.unknown name))

namespace Arguments

def parameters {α : Type} : Arguments α → List Parameter
  | .nil => []
  | .cons argument rest => argument.parameter :: rest.parameters

def values {α : Type} : Arguments α → α → List Value
  | .nil, () => []
  | .cons argument rest, (carried, others) => argument.value carried :: rest.values others

variable {α : Type} {command : String}

private theorem map_parameter_values (arguments : Arguments α) (record : α) :
    (arguments.values record).map Value.parameter = arguments.parameters := by
  induction arguments with
  | nil => rfl
  | cons argument rest ih =>
    rw [values, List.map_cons, argument.parameter_value, ih]
    rfl

private theorem read_cons_eq_ok_iff {β : Type} {argument : Argument α} {rest : Arguments β}
    {word : List Char} {words : List (List Char)} {carried : α} {others : β} :
    (cons argument rest).read command (word :: words) = .ok (carried, others) ↔
      argument.read command word = .ok carried ∧ rest.read command words = .ok others := by
  rw [read]
  cases argument.read command word with
  | error refusal => simp
  | ok first => cases rest.read command words <;> simp [Except.map]

private theorem read_cons_eq_error_iff {β : Type} {argument : Argument α} {rest : Arguments β}
    {word : List Char} {words : List (List Char)} {refusal : Refusal} :
    (cons argument rest).read command (word :: words) = .error refusal ↔
      argument.read command word = .error refusal ∨
        ∃ carried, argument.read command word = .ok carried ∧
          rest.read command words = .error refusal := by
  rw [read]
  cases argument.read command word with
  | error first => simp
  | ok carried => cases rest.read command words <;> simp [Except.map]

/-- Words are read as the values that the first of them spell, one word for each argument. -/
theorem read_eq_ok_iff {arguments : Arguments α} {words : List (List Char)}
    (solid : ∀ word ∈ words, Solid word) {record : α} :
    arguments.read command words = .ok record ↔ ∃ spelled behind, words = spelled ++ behind ∧
      List.Forall₂ Value.Spelled (arguments.values record) spelled := by
  induction arguments generalizing words with
  | nil => exact iff_of_true rfl ⟨[], words, rfl, .nil⟩
  | cons argument rest ih =>
    obtain ⟨carried, others⟩ := record
    cases words with
    | nil =>
      refine iff_of_false (by simp [read]) ?_
      rintro ⟨spelled, behind, same, all⟩
      cases all with
      | cons here further => cases same
    | cons word words =>
      obtain ⟨first, later⟩ := List.forall_mem_cons.mp solid
      rw [read_cons_eq_ok_iff, Argument.read_eq_ok_iff first, ih later, values]
      constructor
      · rintro ⟨here, spelled, behind, rfl, further⟩
        exact ⟨word :: spelled, behind, rfl, .cons here further⟩
      · rintro ⟨spelled, behind, same, all⟩
        cases all with
        | cons here further =>
          obtain ⟨rfl, tail⟩ := List.cons.inj same
          exact ⟨here, _, behind, tail, further⟩

/-- The refusal is that of the first argument that is missing or invalid. -/
theorem read_eq_error_iff {arguments : Arguments α} {words : List (List Char)}
    (solid : ∀ word ∈ words, Solid word) {refusal : Refusal} :
    arguments.read command words = .error refusal ↔
      Faulty command arguments.parameters words refusal := by
  induction arguments generalizing words with
  | nil => exact iff_of_false (by simp [read]) (by rintro ⟨⟩)
  | cons argument rest ih =>
    rw [parameters]
    cases words with
    | nil =>
      rw [read]
      constructor
      · intro failed
        rw [← Except.error.inj failed, ← argument.title_parameter]
        exact .missing argument.parameter rest.parameters
      · rintro ⟨⟩
        rw [argument.title_parameter]
    | cons word words =>
      obtain ⟨first, later⟩ := List.forall_mem_cons.mp solid
      rw [read_cons_eq_error_iff, ih later]
      simp only [Argument.read_eq_error_iff first, Argument.read_eq_ok_iff first]
      constructor
      · rintro (⟨unspelled, rfl⟩ | ⟨carried, spelled, faulty⟩)
        · exact .invalid rest.parameters words unspelled
        · exact .later (argument.parameter_value carried) spelled faulty
      · intro faulty
        cases faulty with
        | invalid _ _ unspelled => exact .inl ⟨unspelled, rfl⟩
        | later same spelled faulty =>
          obtain ⟨carried, rfl⟩ := Argument.exists_value same
          exact .inr ⟨carried, spelled, faulty⟩

/-- Words behind the last argument do not count. -/
theorem read_append {arguments : Arguments α} {words : List (List Char)}
    (enough : words.length = arguments.parameters.length) (behind : List (List Char)) :
    arguments.read command (words ++ behind) = arguments.read command words := by
  induction arguments generalizing words with
  | nil => rfl
  | cons argument rest ih =>
    cases words with
    | nil => cases enough
    | cons word words =>
      rw [List.cons_append, read, read, ih (Nat.succ.inj enough)]

theorem nonempty (arguments : Arguments α) : Nonempty α := by
  induction arguments with
  | nil => exact ⟨()⟩
  | cons argument rest ih =>
    obtain ⟨carried⟩ := argument.nonempty
    obtain ⟨others⟩ := ih
    exact ⟨(carried, others)⟩

end Arguments

/-- The forms of the commands are those that can be typed. -/
theorem typed_iff {name : String} {values : List Value} {command : Command} :
    Typed name values command ↔ ∃ form, form? name = some form ∧
      ∃ record, form.arguments.values record = values ∧ form.make record = command := by
  constructor
  · intro typed
    cases typed with
    | getInfo => exact ⟨_, rfl, (), rfl, rfl⟩
    | startScanWizard => exact ⟨_, rfl, (), rfl, rfl⟩
    | cancelScanWizard => exact ⟨_, rfl, (), rfl, rfl⟩
    | startScan => exact ⟨_, rfl, (), rfl, rfl⟩
    | stopScan => exact ⟨_, rfl, (), rfl, rfl⟩
    | connect address channel => exact ⟨_, rfl, (address, channel, ()), rfl, rfl⟩
    | disconnect channel => exact ⟨_, rfl, (channel, ()), rfl, rfl⟩
    | changeModeParameters channel mode time =>
      exact ⟨_, rfl, (channel, mode, time, ()), rfl, rfl⟩
    | forceDisconnect address => exact ⟨_, rfl, (address, ()), rfl, rfl⟩
    | getButtonInfo address => exact ⟨_, rfl, (address, ()), rfl, rfl⟩
    | createBatteryStatusListener address listener =>
      exact ⟨_, rfl, (address, listener, ()), rfl, rfl⟩
    | removeBatteryStatusListener listener => exact ⟨_, rfl, (listener, ()), rfl, rfl⟩
    | delete address => exact ⟨_, rfl, (address, ()), rfl, rfl⟩
    | ping token => exact ⟨_, rfl, (token, ()), rfl, rfl⟩
  · rintro ⟨form, found, record, rfl, rfl⟩
    unfold form? at found
    split at found <;> cases found <;> constructor

theorem takes_iff {name : String} {parameters : List Parameter} : Takes name parameters ↔
    ∃ form, form? name = some form ∧ form.arguments.parameters = parameters := by
  constructor
  · rintro ⟨values, command, typed, rfl⟩
    obtain ⟨form, found, record, rfl, -⟩ := typed_iff.mp typed
    exact ⟨form, found, (form.arguments.map_parameter_values record).symm⟩
  · rintro ⟨form, found, rfl⟩
    obtain ⟨record⟩ := form.arguments.nonempty
    exact ⟨form.arguments.values record, form.make record,
      typed_iff.mpr ⟨form, found, record, rfl, rfl⟩, form.arguments.map_parameter_values record⟩

/-- The name of a command is one word. -/
theorem Typed.proper {name : String} {values : List Value} {command : Command}
    (typed : Typed name values command) : name.toList ≠ [] ∧ Solid name.toList := by
  cases typed <;> decide

namespace Line

theorem ofWords_name {name : String} (notHelp : name ≠ "help") (notQuit : name ≠ "quit")
    (words : List (List Char)) : ofWords (name.toList :: words) =
      match form? name with
      | some form => (form.arguments.read name words).map fun record => .send (form.make record)
      | none => .error (.unknown name) := by
  rw [ofWords, String.ofList_toList]
  split
  · contradiction
  · contradiction
  · rfl

theorem ofWords_of_form {name : String} {form : Form} (found : form? name = some form)
    (words : List (List Char)) : ofWords (name.toList :: words) =
      (form.arguments.read name words).map fun record => .send (form.make record) := by
  have notHelp : name ≠ "help" := by
    rintro rfl
    cases found
  have notQuit : name ≠ "quit" := by
    rintro rfl
    cases found
  rw [ofWords_name notHelp notQuit, found]

private theorem means_ofWords {words : List (List Char)} (solid : ∀ word ∈ words, Solid word) :
    Means words (ofWords words) := by
  cases words with
  | nil => exact .blank
  | cons first words =>
    obtain ⟨name, rfl⟩ : ∃ name : String, first = name.toList := ⟨_, String.toList_ofList.symm⟩
    by_cases help : name = "help"
    · rw [help]
      exact .help words
    by_cases quit : name = "quit"
    · rw [quit]
      exact .quit words
    cases found : form? name with
    | none =>
      rw [ofWords_name help quit, found]
      refine .unknown help quit ?_ words
      intro values command typed
      obtain ⟨form, known, -⟩ := typed_iff.mp typed
      rw [found] at known
      cases known
    | some form =>
      have later := (List.forall_mem_cons.mp solid).2
      rw [ofWords_of_form found]
      cases outcome : form.arguments.read name words with
      | error refusal =>
        exact .faulty (takes_iff.mpr ⟨form, found, rfl⟩)
          ((Arguments.read_eq_error_iff later).mp outcome)
      | ok record =>
        obtain ⟨spelled, behind, rfl, all⟩ := (Arguments.read_eq_ok_iff later).mp outcome
        exact .send (typed_iff.mpr ⟨form, found, record, rfl, rfl⟩) all behind

private theorem ofWords_of_means {words : List (List Char)} {outcome : Except Refusal Line}
    (solid : ∀ word ∈ words, Solid word) (means : Means words outcome) :
    ofWords words = outcome := by
  cases means with
  | blank => rfl
  | help behind => rfl
  | quit behind => rfl
  | send typed spelled behind =>
    obtain ⟨form, found, record, rfl, rfl⟩ := typed_iff.mp typed
    have later := (List.forall_mem_cons.mp solid).2
    rw [ofWords_of_form found, (Arguments.read_eq_ok_iff later).mpr ⟨_, behind, rfl, spelled⟩]
    rfl
  | faulty takes faulty =>
    obtain ⟨form, found, rfl⟩ := takes_iff.mp takes
    have later := (List.forall_mem_cons.mp solid).2
    rw [ofWords_of_form found, (Arguments.read_eq_error_iff later).mpr faulty]
    rfl
  | @unknown name notHelp notQuit untyped words =>
    rw [ofWords_name notHelp notQuit]
    cases found : form? name with
    | none => rfl
    | some form =>
      obtain ⟨record⟩ := form.arguments.nonempty
      exact absurd (typed_iff.mpr ⟨form, found, record, rfl, rfl⟩) (untyped _ _)

/-- A line is read as its words. -/
theorem parse_of_worded {line : String} {words : List (List Char)}
    (worded : Worded line.toList words) : parse line = ofWords words := by
  rw [parse, words_of_worded worded]

private theorem parse_eq_iff {line : String} {words : List (List Char)}
    (worded : Worded line.toList words) {outcome : Except Refusal Line} :
    parse line = outcome ↔ Means words outcome := by
  have solid : ∀ word ∈ words, Solid word := fun word member => (worded.mem member).2
  rw [parse_of_worded worded]
  constructor
  · rintro rfl
    exact means_ofWords solid
  · exact ofWords_of_means solid

private theorem ofWords_append {name : String} {parameters : List Parameter}
    (takes : Takes name parameters)
    {words : List (List Char)} (enough : words.length = parameters.length)
    (behind : List (List Char)) :
    ofWords (name.toList :: (words ++ behind)) = ofWords (name.toList :: words) := by
  obtain ⟨form, found, rfl⟩ := takes_iff.mp takes
  rw [ofWords_of_form found, ofWords_of_form found, Arguments.read_append enough]

private theorem worded_canonical {name : String} {values : List Value} {command : Command}
    (typed : Typed name values command) :
    Worded (" ".intercalate (name :: values.map Value.canonical)).toList
      (name.toList :: values.map fun value => value.canonical.toList) := by
  have words : (name :: values.map Value.canonical).map String.toList =
      name.toList :: values.map fun value => value.canonical.toList := by
    rw [List.map_cons, List.map_map]
    rfl
  rw [String.toList_intercalate, words]
  refine worded_intercalate (List.forall_mem_cons.mpr ⟨typed.proper, ?_⟩)
  intro word member
  obtain ⟨value, -, rfl⟩ := List.mem_map.mp member
  exact value.canonical_proper

/-- Each line is a row of words, and those words alone say what it asks for or why it is refused;
words behind the last argument say nothing. The line made of the name of a command and the canonical
texts of its arguments asks for that command. -/
theorem lines_are_read_by_grammar :
    (∀ line : String, ∃ words, Worded line.toList words ∧
      ∀ outcome, parse line = outcome ↔ Means words outcome) ∧
    (∀ (line other : String) (words : List (List Char)), Worded line.toList words →
      Worded other.toList words → parse line = parse other) ∧
    (∀ (name : String) (parameters : List Parameter), Takes name parameters →
      ∀ (line longer : String) (words behind : List (List Char)), words.length = parameters.length →
        Worded line.toList (name.toList :: words) →
        Worded longer.toList (name.toList :: (words ++ behind)) → parse longer = parse line) ∧
    ∀ (name : String) (values : List Value) (command : Command), Typed name values command →
      parse (" ".intercalate (name :: values.map Value.canonical)) = .ok (.send command) := by
  refine ⟨?_, ?_, ?_, ?_⟩
  · intro line
    obtain ⟨words, worded⟩ := exists_worded line.toList
    exact ⟨words, worded, fun outcome => parse_eq_iff worded⟩
  · intro line other words worded wordedToo
    rw [parse_of_worded worded, parse_of_worded wordedToo]
  · intro name parameters takes line longer words behind enough worded wordedToo
    rw [parse_of_worded worded, parse_of_worded wordedToo, ofWords_append takes enough]
  · intro name values command typed
    have spelled : List.Forall₂ Value.Spelled values
        (values.map fun value => value.canonical.toList) :=
      List.forall₂_map_right_iff.mpr (List.forall₂_same.mpr fun value _ => value.spelled_canonical)
    refine (parse_eq_iff (worded_canonical typed)).mpr ?_
    have means := Means.send typed spelled []
    rwa [List.append_nil] at means

/-- A line with white space around its words and a word behind them asks for what the canonical one
asks for. -/
theorem slack_line_is_read :
    let line := "\tconnect\u00a080:E4:DA:7a:0b:1c  +007\n"
    let longer := "connect 80:E4:DA:7a:0b:1c +007 twice"
    let address : Address := ⟨[0x1c, 0x0b, 0x7a, 0xda, 0xe4, 0x80], rfl⟩
    let values := [Value.address address, .identifier 7]
    let command := Command.createChannel 7 address .normal 511
    parse line = .ok (.send command) ∧ parse longer = parse line ∧
      parse (" ".intercalate ("connect" :: values.map Value.canonical)) = .ok (.send command) := by
  intro line longer address values command
  let words := ["80:E4:DA:7a:0b:1c".toList, "+007".toList]
  have worded : Worded line.toList ("connect".toList :: words) := words_eq_iff.mp (by decide)
  have wordedToo : Worded longer.toList ("connect".toList :: (words ++ ["twice".toList])) :=
    words_eq_iff.mp (by decide)
  have typed : Typed "connect" values command := .connect address 7
  have takes : Takes "connect" [.address, .identifier] := ⟨values, command, typed, rfl⟩
  have named : (Value.address address).Spelled "80:E4:DA:7a:0b:1c".toList := by
    rw [Value.Spelled]
    decide
  have spelled : List.Forall₂ Value.Spelled values words :=
    .cons named (.cons (.inr ⟨_, rfl, 2, rfl⟩) .nil)
  obtain ⟨read, -, cut, canonical⟩ := lines_are_read_by_grammar
  obtain ⟨found, row, answer⟩ := read line
  have same : found = "connect".toList :: words :=
    (words_of_worded row).symm.trans (words_of_worded worded)
  refine ⟨?_, cut _ _ takes line longer words _ rfl worded wordedToo,
    canonical _ values command typed⟩
  rw [answer, same]
  exact .send typed spelled []

example : parse "changeModeParameters 3 LOWlatency" =
    .error (.missing "changeModeParameters" "auto_disconnect_time") := by decide

end Line

end ButtonGateway.Console
