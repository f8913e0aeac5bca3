import CompanionBus.Text.Hex
/-
  Services of the device and the commands they take.

  A command byte means something only together with the service it is sent to: the network service
  and the clock service both count from 1. So a command here is a value of its own, and `ofWire?`
  reads it from the pair of bytes; `ofWire?_eq_some_iff` says that it reads back exactly the pairs
  that `service` and `code` write.
-/
namespace CompanionBus

/-! ## Services -/

/-- A service of the device, each with an id of its own on the bus. -/
inductive Service where
  | clock
  | config
  | disk
  | network
  | file
  deriving DecidableEq, Repr

namespace Service

/-- The id on the bus. -/
def code : Service → UInt8
  | .clock => 0x45
  | .config => 0x70
  | .disk => 0xFC
  | .network => 0xFD
  | .file => 0xFE

/-- The service that answers to an id. -/
def ofCode? (code : UInt8) : Option Service :=
  match code with
  | 0x45 => some .clock
  | 0x70 => some .config
  | 0xFC => some .disk
  | 0xFD => some .network
  | 0xFE => some .file
  | _ => none

/-- The name of a service. -/
def name : Service → String
  | .clock => "CLOCK"
  | .config => "FUJI"
  | .disk => "DISK"
  | .network => "NETWORK"
  | .file => "FILE"

theorem ofCode?_eq_some_iff {b : UInt8} {s : Service} : ofCode? b = some s ↔ b = s.code := by
  constructor
  · unfold ofCode?
    split <;> intro h <;> cases h <;> rfl
  · rintro rfl
    cases s <;> rfl

end Service

/-! ## Commands -/

/-- A command that this library can send. -/
inductive Command where
  | openUrl
  | read
  | write
  | close
  | info
  | clockGet
  | clockSet
  | clockFormat
  | timezoneGet
  | timezoneSet
  | timezoneSave
  | clockSync
  deriving DecidableEq, Repr

namespace Command

/-- The service that takes a command. -/
def service : Command → Service
  | .openUrl | .read | .write | .close | .info => .network
  | .clockGet | .clockSet | .clockFormat | .timezoneGet | .timezoneSet | .timezoneSave
  | .clockSync => .clock

/-- The byte of a command, which means it within its service only. -/
def code : Command → UInt8
  | .openUrl => 1
  | .read => 2
  | .write => 3
  | .close => 4
  | .info => 5
  | .clockGet => 1
  | .clockSet => 2
  | .clockFormat => 3
  | .timezoneGet => 4
  | .timezoneSet => 5
  | .timezoneSave => 6
  | .clockSync => 7

/-- The command that a byte means to a service. -/
def ofCode? : Service → UInt8 → Option Command
  | .network, code =>
    match code with
    | 1 => some .openUrl
    | 2 => some .read
    | 3 => some .write
    | 4 => some .close
    | 5 => some .info
    | _ => none
  | .clock, code =>
    match code with
    | 1 => some .clockGet
    | 2 => some .clockSet
    | 3 => some .clockFormat
    | 4 => some .timezoneGet
    | 5 => some .timezoneSet
    | 6 => some .timezoneSave
    | 7 => some .clockSync
    | _ => none
  | .config, _ | .disk, _ | .file, _ => none

theorem ofCode?_eq_some_iff {s : Service} {b : UInt8} {c : Command} :
    ofCode? s b = some c ↔ s = c.service ∧ b = c.code := by
  constructor
  · cases s <;> simp only [ofCode?]
    case clock | network => split <;> intro h <;> cases h <;> exact ⟨rfl, rfl⟩
    all_goals exact fun h => nomatch h
  · rintro ⟨rfl, rfl⟩
    cases c <;> rfl

/-! ## Names -/

/-- The name of a command. -/
def name : Command → String
  | .openUrl => "OPEN"
  | .read => "READ"
  | .write => "WRITE"
  | .close => "CLOSE"
  | .info => "INFO"
  | .clockGet => "CLOCK_GET"
  | .clockSet => "CLOCK_SET"
  | .clockFormat => "CLOCK_GET_FORMAT"
  | .timezoneGet => "CLOCK_GET_TZ"
  | .timezoneSet => "CLOCK_SET_TZ"
  | .timezoneSave => "CLOCK_SET_TZ_SAVE"
  | .clockSync => "CLOCK_SYNC"

/-- The long title of a command. -/
def title : Command → String
  | .openUrl => "Open"
  | .read => "Read"
  | .write => "Write"
  | .close => "Close"
  | .info => "Info"
  | .clockGet => "ClockGet"
  | .clockSet => "ClockSet"
  | .clockFormat => "ClockGetFormat"
  | .timezoneGet => "ClockGetTimezone"
  | .timezoneSet => "ClockSetTimezone"
  | .timezoneSave => "ClockSetTimezoneSave"
  | .clockSync => "ClockSyncNetworkTime"

/-- The name, followed by the service and the byte that carry it. -/
def render (c : Command) : String :=
  c.name ++ "(" ++ c.service.name ++ ":" ++ Hex.byte c.code ++ ")"

/-- Every command. -/
def all : List Command :=
  [.openUrl, .read, .write, .close, .info, .clockGet, .clockSet, .clockFormat, .timezoneGet,
    .timezoneSet, .timezoneSave, .clockSync]

theorem mem_all (c : Command) : c ∈ all := by cases c <;> decide

/-- The command with a given title. -/
def ofTitle? (t : String) : Option Command := all.find? (·.title == t)

example : write.render = "WRITE(NETWORK:0x03)" := by decide

end Command

end CompanionBus
