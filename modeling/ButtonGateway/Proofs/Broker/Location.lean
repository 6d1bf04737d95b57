import ButtonGateway.Broker.Location
import ButtonGateway.Proofs.Text.Decimal
import ButtonGateway.Proofs.Text.Split

namespace ButtonGateway.Broker.Location

open Text

/-- A text can stand for a host. -/
def IsHost (host : List Char) : Prop := host ≠ [] ∧ '/' ∉ host

/-- A text names a host and a port. The port may be left out if no colon is in the host. -/
inductive Names : List Char → Location → Prop where
  | withPort {host : String} {numeral : List Char} {port : UInt16} (proper : IsHost host.toList)
      (written : Decimal.Unsigned numeral port.toNat) :
      Names (host.toList ++ ':' :: numeral) ⟨host, port⟩
  | withoutPort {host : String} (proper : IsHost host.toList) (single : ':' ∉ host.toList) :
      Names host.toList ⟨host, 1883⟩

/-- What may stand in front of a host. -/
def IsScheme (scheme : List Char) : Prop :=
  scheme = [] ∨ scheme = "tcp://".toList ∨ scheme = "mqtt://".toList

/-- An address names a location behind a scheme and before any number of slashes. -/
def Denotes (url : List Char) (location : Location) : Prop :=
  ∃ scheme name slashes, IsScheme scheme ∧ Names name location ∧
    url = scheme ++ name ++ List.replicate slashes '/'

private theorem isHost_iff {host : List Char} : isHost host = true ↔ IsHost host := by
  simp [isHost, IsHost]

/-- A text is taken apart into the host and the port that it names. -/
theorem names_iff {name : List Char} {host : String} {port : UInt16} :
    Names name ⟨host, port⟩ ↔
      split? name = some (host.toList, port) ∧ IsHost host.toList := by
  constructor
  · intro names
    cases names with
    | withPort proper written =>
      refine ⟨?_, proper⟩
      rw [split?, splitLast?_eq_some_iff.mpr ⟨rfl, written.not_mem ':' rfl (by decide)⟩]
      dsimp only
      rw [Decimal.uint16_eq_ok_iff.mpr written]
    | withoutPort proper single =>
      refine ⟨?_, proper⟩
      rw [split?, splitLast?_eq_none_iff.mpr single]
      rfl
  · rintro ⟨parts, proper⟩
    rw [split?] at parts
    split at parts
    · rename_i before numeral found
      split at parts
      · rename_i number read
        cases parts
        rw [(splitLast?_eq_some_iff.mp found).1]
        exact .withPort proper (Decimal.uint16_eq_ok_iff.mp read)
      · cases parts
    · rename_i missing
      cases parts
      exact .withoutPort proper (splitLast?_eq_none_iff.mp missing)

/-- What names a location holds no slash and does not end with a colon. -/
theorem Names.tidy {name : List Char} {location : Location} (names : Names name location) :
    '/' ∉ name ∧ name.getLast? ≠ some ':' := by
  cases names with
  | @withPort host numeral port proper written =>
    have slash := written.not_mem '/' rfl (by decide)
    have colon := written.not_mem ':' rfl (by decide)
    constructor
    · simp [proper.2, slash]
    · have behind : (host.toList ++ ':' :: numeral).getLast? = numeral.getLast? := by
        rw [List.getLast?_append_of_ne_nil _ (List.cons_ne_nil ':' numeral),
          List.getLast?_cons_of_ne_nil written.ne_nil]
      rw [behind]
      intro last
      exact colon (List.mem_of_getLast? last)
  | withoutPort proper single =>
    refine ⟨proper.2, ?_⟩
    intro last
    exact single (List.mem_of_getLast? last)

private theorem takeWhile_append_slashes {name : List Char} (unslashed : '/' ∉ name)
    (slashes : Nat) :
    (name ++ List.replicate slashes '/').takeWhile (· != '/') = name := by
  have all : ∀ char ∈ name, (char != '/') = true := by
    intro char member
    exact bne_iff_ne.mpr fun same => unslashed (same ▸ member)
  rw [List.takeWhile_append_of_pos all]
  cases slashes with
  | zero => exact List.append_nil name
  | succ more => exact List.append_nil name

/-- A scheme has a colon before its slashes, so that none is in front of a text without one
there. -/
theorem withoutScheme_eq_self {name : List Char} (unslashed : '/' ∉ name)
    (noColon : name.getLast? ≠ some ':') (slashes : Nat) :
    withoutScheme (name ++ List.replicate slashes '/') = name ++ List.replicate slashes '/' := by
  have none : schemes.find? (fun scheme =>
      scheme.isPrefixOf (name ++ List.replicate slashes '/')) = none := by
    rw [List.find?_eq_none]
    intro scheme known front
    obtain ⟨rest, whole⟩ := List.isPrefixOf_iff_prefix.mp front
    have cut := congrArg (List.takeWhile (· != '/')) whole
    rw [takeWhile_append_slashes unslashed slashes] at cut
    rcases List.mem_pair.mp known with rfl | rfl
    · exact noColon (cut ▸ rfl)
    · exact noColon (cut ▸ rfl)
  rw [withoutScheme, none]

private theorem withoutScheme_append {scheme : List Char} (known : scheme ∈ schemes)
    (rest : List Char) :
    withoutScheme (scheme ++ rest) = rest := by
  rcases List.mem_pair.mp known with rfl | rfl
  · rfl
  · rfl

private theorem isScheme_iff {scheme : List Char} :
    IsScheme scheme ↔ scheme = [] ∨ scheme ∈ schemes := by
  rw [schemes, List.mem_pair]
  rfl

private theorem exists_scheme (url : List Char) :
    ∃ scheme, IsScheme scheme ∧ url = scheme ++ withoutScheme url := by
  rw [withoutScheme]
  split
  · rename_i scheme found
    have front := List.find?_some found
    exact ⟨scheme, isScheme_iff.mpr (.inr (List.mem_of_find?_eq_some found)),
      (List.prefix_iff_eq_append.mp (List.isPrefixOf_iff_prefix.mp front)).symm⟩
  · exact ⟨[], .inl rfl, rfl⟩

/-- What is left without scheme and slashes names the location, if anything does. -/
theorem denotes_iff_names {url : List Char} {location : Location} :
    Denotes url location ↔ Names (dropTrailing '/' (withoutScheme url)) location := by
  constructor
  · rintro ⟨scheme, name, slashes, known, names, rfl⟩
    obtain ⟨unslashed, noColon⟩ := names.tidy
    have bare : withoutScheme (scheme ++ name ++ List.replicate slashes '/') =
        name ++ List.replicate slashes '/' := by
      rw [List.append_assoc]
      rcases isScheme_iff.mp known with rfl | listed
      · exact withoutScheme_eq_self unslashed noColon slashes
      · exact withoutScheme_append listed _
    rwa [bare, dropTrailing_append unslashed]
  · intro names
    obtain ⟨scheme, known, whole⟩ := exists_scheme url
    obtain ⟨slashes, behind⟩ := exists_dropTrailing '/' (withoutScheme url)
    refine ⟨scheme, _, slashes, known, names, ?_⟩
    rw [List.append_assoc, ← behind]
    exact whole

theorem parse_eq_ok_iff {url : String} {location : Location} :
    parse url = .ok location ↔ Denotes url.toList location := by
  obtain ⟨host, port⟩ := location
  rw [denotes_iff_names, names_iff, ← isHost_iff, parse]
  split
  · rename_i found number parts
    rw [parts]
    by_cases proper : isHost found = true
    · rw [if_pos proper]
      constructor
      · rintro ⟨⟩
        rw [String.toList_ofList]
        exact ⟨rfl, proper⟩
      · rintro ⟨⟨⟩, -⟩
        rw [String.ofList_toList]
    · rw [if_neg proper]
      refine iff_of_false nofun ?_
      rintro ⟨⟨⟩, named⟩
      exact proper named
  · rename_i nothing
    rw [nothing]
    exact iff_of_false nofun nofun

theorem eq_of_parse_error {url : String} {refusal : InvalidUrl}
    (failed : parse url = .error refusal) : refusal = ⟨url⟩ := by
  unfold parse at failed
  split at failed
  · split at failed
    · cases failed
    · exact (Except.error.inj failed).symm
  · exact (Except.error.inj failed).symm

private theorem parse_eq_error_iff {url : String} :
    parse url = .error ⟨url⟩ ↔ ¬ ∃ location, Denotes url.toList location := by
  simp only [← parse_eq_ok_iff]
  cases outcome : parse url with
  | ok location => exact iff_of_false nofun fun none => none ⟨location, rfl⟩
  | error refusal =>
    rw [eq_of_parse_error outcome]
    exact iff_of_true rfl nofun

private theorem isHost_of_denotes {url : List Char} {location : Location}
    (denotes : Denotes url location) : IsHost location.host.toList := by
  obtain ⟨scheme, name, slashes, -, names, -⟩ := denotes
  cases names with
  | withPort proper written => exact proper
  | withoutPort proper single => exact proper

private theorem isScheme_toList {scheme : String} (known : scheme ∈ ["", "tcp://", "mqtt://"]) :
    IsScheme scheme.toList := by
  simp only [List.mem_cons, List.not_mem_nil, or_false] at known
  rcases known with rfl | rfl | rfl
  · exact .inl String.toList_empty
  · exact .inr (.inl rfl)
  · exact .inr (.inr rfl)

/-- An address is read as the location that it denotes, so that a host is never empty and holds no
slash; an address that denotes none is refused. Behind each scheme a host, a colon, the digits of a
port and any number of slashes denote that host and that port, and if no colon is in the host, the
same without a port denotes the port 1883. -/
theorem urls_name_host_and_port :
    (∀ url location, parse url = .ok location ↔ Denotes url.toList location) ∧
    (∀ url, parse url = .error ⟨url⟩ ↔ ¬ ∃ location, Denotes url.toList location) ∧
    (∀ url location, parse url = .ok location →
      location.host ≠ "" ∧ '/' ∉ location.host.toList) ∧
    ∀ scheme ∈ ["", "tcp://", "mqtt://"], ∀ (host : String) (port : UInt16) (slashes : Nat),
      host ≠ "" → '/' ∉ host.toList →
        let ending := String.ofList (List.replicate slashes '/')
        parse (scheme ++ host ++ ":" ++ port.toNat.repr ++ ending) = .ok ⟨host, port⟩ ∧
          (':' ∉ host.toList → parse (scheme ++ host ++ ending) = .ok ⟨host, 1883⟩) := by
  refine ⟨fun _ _ => parse_eq_ok_iff, fun _ => parse_eq_error_iff, ?_, ?_⟩
  · intro url location read
    obtain ⟨filled, unslashed⟩ := isHost_of_denotes (parse_eq_ok_iff.mp read)
    exact ⟨fun empty => filled (String.toList_eq_nil_iff.mpr empty), unslashed⟩
  · intro scheme known host port slashes filled unslashed ending
    have proper : IsHost host.toList :=
      ⟨fun empty => filled (String.toList_eq_nil_iff.mp empty), unslashed⟩
    constructor
    · have written := Decimal.unsigned_toDigits port.toNat
      refine parse_eq_ok_iff.mpr
        ⟨_, _, slashes, isScheme_toList known, .withPort proper written, ?_⟩
      simp [ending, Nat.toList_repr]
    · intro single
      refine parse_eq_ok_iff.mpr
        ⟨_, _, slashes, isScheme_toList known, .withoutPort proper single, ?_⟩
      simp [ending]

/-- With two slashes at the end, an address with a port and the same without one. -/
theorem slashes_behind_port_are_dropped :
    "mqtt://" ∈ ["", "tcp://", "mqtt://"] ∧ "broker" ≠ "" ∧ '/' ∉ "broker".toList ∧
      ':' ∉ "broker".toList ∧ parse "mqtt://broker:1884//" = .ok ⟨"broker", 1884⟩ ∧
      parse "mqtt://broker//" = .ok ⟨"broker", 1883⟩ := by
  obtain ⟨-, -, -, canonical⟩ := urls_name_host_and_port
  have known : "mqtt://" ∈ ["", "tcp://", "mqtt://"] := by decide
  obtain ⟨named, unnamed⟩ := canonical _ known "broker" 1884 2 (by decide) (by decide)
  exact ⟨known, by decide, by decide, by decide, named, unnamed (by decide)⟩

example : parse "tcp://host:+0080/" = .ok ⟨"host", 80⟩ := by decide

example : parse "ssl://host:8883" = .error ⟨"ssl://host:8883"⟩ := by decide

end ButtonGateway.Broker.Location
