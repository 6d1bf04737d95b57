import Mathlib.Data.List.Forall2
import ButtonGateway.Console.Line
import ButtonGateway.Proofs.Address
import ButtonGateway.Proofs.Text.Decimal

namespace ButtonGateway.Console

open Daemon Text

inductive Parameter where
  | address
  | identifier
  | latency
  | time
  deriving DecidableEq, Repr

inductive Value where
  | address (address : Address)
  | identifier (number : UInt32)
  | latency (mode : LatencyMode)
  | time (seconds : Int16)
  deriving DecidableEq, Repr

/-- What a refusal calls the argument. -/
def Parameter.title : Parameter → String
  | .address => "address"
  | .identifier => "id"
  | .latency => "latency_mode"
  | .time => "auto_disconnect_time"

def Parameter.complaint : Parameter → String → List Char → Refusal
  | .address, command, word => .address command (.invalidAddress (String.ofList word))
  | parameter, command, word => .invalid command parameter.title (String.ofList word)

namespace Value

def parameter : Value → Parameter
  | .address _ => .address
  | .identifier _ => .identifier
  | .latency _ => .latency
  | .time _ => .time

/-- The text that a value is shown as. -/
def canonical : Value → String
  | .address device => device.text
  | .identifier number => toString number
  | .latency mode => Enumeration.name mode
  | .time seconds => toString seconds

/-- A word spells an address or a latency mode in any letter case, and a number with any zeros in
front and with a sign that fits. The name of a latency mode may be followed by `latency` any number
of times. -/
def Spelled : Value → List Char → Prop
  | .address device, word => word.map Char.toLower = device.text.toList
  | .identifier number, word => Decimal.Unsigned word number.toNat
  | .latency mode, word => ∃ times, word.map Char.toLower =
      (Enumeration.name mode).toList.map Char.toLower ++
        (List.replicate times "latency".toList).flatten
  | .time seconds, word => Decimal.Signed word seconds.toInt

theorem spelled_canonical (value : Value) : value.Spelled value.canonical.toList := by
  cases value with
  | address device => exact device.map_toLower_text
  | identifier number =>
    have digits : (toString number).toList = Nat.toDigits 10 number.toNat := Nat.toList_repr
    rw [Spelled, canonical, digits]
    exact Decimal.unsigned_toDigits number.toNat
  | latency mode => exact ⟨0, (List.append_nil _).symm⟩
  | time seconds => exact Decimal.signed_repr seconds.toInt

theorem solid_toDigits (number : Nat) : Solid (Nat.toDigits 10 number) := by
  intro char member
  obtain ⟨above, below⟩ :=
    Decimal.bounds_of_isDigit (Nat.isDigit_of_mem_toDigits (by decide) (by decide) member)
  exact isBlank_of_visible (by omega) (by omega)

/-- The text of a value is one word. -/
theorem canonical_proper (value : Value) :
    value.canonical.toList ≠ [] ∧ Solid value.canonical.toList := by
  cases value with
  | address device => exact ⟨device.toList_text_ne_nil, device.solid_text⟩
  | identifier number =>
    have digits : (toString number).toList = Nat.toDigits 10 number.toNat := Nat.toList_repr
    rw [canonical, digits]
    exact ⟨Nat.toDigits_ne_nil, solid_toDigits number.toNat⟩
  | latency mode => cases mode <;> decide
  | time seconds =>
    have shown : canonical (.time seconds) = seconds.toInt.repr := rfl
    rw [shown, Int.repr_eq_if]
    split
    · rw [Nat.toList_repr]
      exact ⟨Nat.toDigits_ne_nil, solid_toDigits _⟩
    · rw [String.toList_append, Nat.toList_repr]
      exact ⟨List.cons_ne_nil _ _, List.forall_mem_cons.mpr ⟨by decide, solid_toDigits _⟩⟩

end Value

private theorem dropLatency_append (times : Nat) (chars : List Char) :
    dropLatency ((List.replicate times "latency".toList.reverse).flatten ++ chars) =
      dropLatency chars := by
  induction times with
  | zero => rfl
  | succ times ih =>
    rw [List.replicate_succ, List.flatten_cons, List.append_assoc]
    exact ih

private theorem exists_dropLatency (chars : List Char) : ∃ times,
    chars = (List.replicate times "latency".toList.reverse).flatten ++ dropLatency chars := by
  fun_induction dropLatency chars with
  | case1 rest ih =>
    obtain ⟨times, same⟩ := ih
    refine ⟨times + 1, ?_⟩
    rw [List.replicate_succ, List.flatten_cons, List.append_assoc, ← same]
    rfl
  | case2 chars => exact ⟨0, rfl⟩

/-- What is left of a word is its beginning, if `latency` does not stand at the end of that. -/
theorem reverse_dropLatency_eq_iff {chars core : List Char}
    (kept : dropLatency core.reverse = core.reverse) :
    (dropLatency chars.reverse).reverse = core ↔
      ∃ times, chars = core ++ (List.replicate times "latency".toList).flatten := by
  have mirrored (times : Nat) : (List.replicate times "latency".toList).flatten.reverse =
      (List.replicate times "latency".toList.reverse).flatten := by
    rw [List.reverse_flatten, List.map_replicate, List.reverse_replicate]
  rw [List.reverse_eq_iff]
  constructor
  · intro left
    obtain ⟨times, same⟩ := exists_dropLatency chars.reverse
    refine ⟨times, ?_⟩
    rw [← List.reverse_inj, List.reverse_append, mirrored, ← left]
    exact same
  · rintro ⟨times, rfl⟩
    rw [List.reverse_append, mirrored, dropLatency_append, kept]

private theorem latency?_eq_some_iff {word : List Char} {mode : LatencyMode} :
    latency? word = some mode ↔ (Value.latency mode).Spelled word := by
  have kept : dropLatency ((Enumeration.name mode).toList.map Char.toLower).reverse =
      ((Enumeration.name mode).toList.map Char.toLower).reverse := by
    cases mode <;> decide
  rw [Value.Spelled, ← reverse_dropLatency_eq_iff kept, ← String.ofList_inj]
  unfold latency?
  generalize String.ofList _ = left
  constructor
  · intro found
    split at found <;> cases found <;> decide
  · rintro rfl
    cases mode <;> decide

theorem mapError_eq_ok_iff {ε δ α : Type} {f : ε → δ} {result : Except ε α} {value : α} :
    result.mapError f = .ok value ↔ result = .ok value := by
  cases result <;> simp [Except.mapError]

theorem eq_of_mapError {ε δ α : Type} {f : ε → δ} {result : Except ε α} {refusal : δ}
    (failed : result.mapError f = .error refusal) :
    ∃ reason, result = .error reason ∧ f reason = refusal := by
  cases result with
  | error reason => exact ⟨reason, rfl, Except.error.inj failed⟩
  | ok value => cases failed

namespace Argument

variable {α : Type}

def parameter : Argument α → Parameter
  | .address => .address
  | .identifier => .identifier
  | .latency => .latency
  | .time => .time

def value : Argument α → α → Value
  | .address => .address
  | .identifier => .identifier
  | .latency => .latency
  | .time => .time

theorem nonempty (argument : Argument α) : Nonempty α := by
  cases argument with
  | address => exact ⟨⟨List.replicate 6 0, rfl⟩⟩
  | identifier => exact ⟨0⟩
  | latency => exact ⟨.normal⟩
  | time => exact ⟨0⟩

theorem title_parameter (argument : Argument α) : argument.parameter.title = argument.name := by
  cases argument <;> rfl

theorem parameter_value (argument : Argument α) (carried : α) :
    (argument.value carried).parameter = argument.parameter := by
  cases argument <;> rfl

theorem exists_value {argument : Argument α} {value : Value}
    (same : value.parameter = argument.parameter) : ∃ carried, argument.value carried = value := by
  cases argument <;> cases value <;> first | exact ⟨_, rfl⟩ | cases same

variable {argument : Argument α} {command : String} {word : List Char}

/-- A word is read as the value that it spells. -/
theorem read_eq_ok_iff (solid : Solid word) {carried : α} :
    argument.read command word = .ok carried ↔ (argument.value carried).Spelled word := by
  cases argument with
  | address =>
    rw [read, mapError_eq_ok_iff, Address.parse_eq_ok_iff, String.toList_ofList, trim_eq_self solid]
    rfl
  | identifier => exact mapError_eq_ok_iff.trans Decimal.uint32_eq_ok_iff
  | latency =>
    rw [value, ← latency?_eq_some_iff, read]
    cases latency? word <;> simp
  | time => exact mapError_eq_ok_iff.trans Decimal.int16_eq_ok_iff

private theorem eq_of_read_error {refusal : Refusal}
    (failed : argument.read command word = .error refusal) :
    refusal = argument.parameter.complaint command word := by
  cases argument with
  | address =>
    obtain ⟨fault, wrong, rfl⟩ := eq_of_mapError failed
    rw [Address.eq_of_parse_error wrong]
    rfl
  | identifier =>
    obtain ⟨reason, -, same⟩ := eq_of_mapError failed
    exact same.symm
  | latency =>
    rw [read] at failed
    split at failed
    · cases failed
    · exact (Except.error.inj failed).symm
  | time =>
    obtain ⟨reason, -, same⟩ := eq_of_mapError failed
    exact same.symm

/-- A word is refused exactly if it spells no value of the argument. -/
theorem read_eq_error_iff (solid : Solid word) {refusal : Refusal} :
    argument.read command word = .error refusal ↔
      (∀ value : Value, value.parameter = argument.parameter → ¬ value.Spelled word) ∧
        refusal = argument.parameter.complaint command word := by
  constructor
  · intro failed
    refine ⟨?_, eq_of_read_error failed⟩
    intro value same spelled
    obtain ⟨carried, rfl⟩ := exists_value same
    rw [(read_eq_ok_iff solid).mpr spelled] at failed
    cases failed
  · rintro ⟨unspelled, rfl⟩
    cases outcome : argument.read command word with
    | ok carried =>
      exact absurd ((read_eq_ok_iff solid).mp outcome)
        (unspelled _ (argument.parameter_value carried))
    | error refusal => rw [eq_of_read_error outcome]

end Argument

end ButtonGateway.Console
