import CompanionBus.Proofs.Request.Limits
/-
  The layouts of requests, from the side of the device.

  1. **Program** — a `Reader` takes its part off the front of a byte string and hands on the rest.
     `Request.layout` is the reader for each command: version, numbers of fixed width, and texts and
     data behind their length. `Request.ofPayload?` reads a whole payload, of which nothing may be
     left over.

  2. **Specification (`ofPayload?_payload`)** — every request that keeps to its limits is read back
     from its payload, in each of its parts.

  3. **The crux** — `Reads` says that a reader takes exactly some bytes, *whatever follows them*. So
     readers can be put one after the other (`Reads.bind`), in the order in which the payload was
     written, and no position is ever counted.
-/
namespace CompanionBus

/-! ## Readers -/

/-- A reader takes its part off the front of a byte string, or refuses it. -/
abbrev Reader (α : Type) := StateT (List UInt8) Option α

namespace Reader

variable {α β : Type}

/-- Takes so many bytes. -/
def bytes (n : Nat) : Reader (List UInt8) := fun bs =>
  if n ≤ bs.length then some (bs.take n, bs.drop n) else none

/-- Reads on with what a part stands for, if it stands for something. -/
def meaning (m : Reader α) (f : α → Option β) : Reader β := do
  let a ← m
  match f a with
  | some b => return b
  | none => failure

/-- Takes a number of so many bytes, the lowest first. -/
def number (w : Nat) : Reader Nat := do return LittleEndian.decode (← bytes w)

/-- Takes a byte that stands for something. -/
def code (f : UInt8 → Option α) : Reader α := meaning (number 1) fun n => f (UInt8.ofNat n)

/-- Takes a byte. -/
def byte : Reader UInt8 := code some

/-- Takes a byte that has to have a given value. -/
def constant (b : UInt8) : Reader Unit := code fun got => if got = b then some () else none

/-- Takes a number of two bytes. -/
def half : Reader UInt16 := do return UInt16.ofNat (← number 2)

/-- Takes a number of four bytes. -/
def word : Reader UInt32 := do return UInt32.ofNat (← number 4)

/-- Takes a number of eight bytes. -/
def long : Reader UInt64 := do return UInt64.ofNat (← number 8)

/-- Takes a length of `w` bytes, and as many bytes as it says. -/
def data (w : Nat) : Reader (List UInt8) := do bytes (← number w)

/-- Takes a length of `w` bytes, and a text of as many bytes as it says. -/
def text (w : Nat) : Reader String := meaning (data w) Utf8.text?

/-- What a reader makes of a byte string, if it takes all of it. -/
def whole? (m : Reader α) (bs : List UInt8) : Option α :=
  match m.run bs with
  | some (a, []) => some a
  | _ => none

end Reader

/-! ## What readers take -/

/-- `Reads m bs a` — the reader takes the bytes `bs`, whatever follows them, for `a`. -/
def Reads {α : Type} (m : Reader α) (bs : List UInt8) (a : α) : Prop :=
  ∀ rest, m.run (bs ++ rest) = some (a, rest)

namespace Reads

variable {α β : Type} {m : Reader α} {a : α} {b : β} {bs bs' : List UInt8}

theorem of_eq (h : Reads m bs a) (hbs : bs' = bs) : Reads m bs' a := hbs ▸ h

theorem pure (a : α) : Reads (Pure.pure a) [] a := fun _ => rfl

/-- Readers one after the other take bytes one after the other. -/
theorem bind {f : α → Reader β} (h : Reads m bs a) (h' : Reads (f a) bs' b) :
    Reads (m >>= f) (bs ++ bs') b := by
  intro rest
  rw [StateT.run_bind, List.append_assoc, h]
  exact h' rest

/-- The last of several readers. -/
theorem last {f : α → β} (h : Reads m bs a) : Reads (do return f (← m)) bs (f a) := by
  have hall := h.bind (f := fun a => Pure.pure (f a)) (.pure (f a))
  rwa [List.append_nil] at hall

theorem meaning {f : α → Option β} (h : Reads m bs a) (hf : f a = some b) :
    Reads (m.meaning f) bs b := by
  intro rest
  have hall := h rest
  rw [Reader.meaning, StateT.run_bind, hall]
  show (match f a with
    | some b => (Pure.pure b : Reader β)
    | none => failure).run rest = _
  rw [hf]
  rfl

theorem bytes (bs : List UInt8) : Reads (Reader.bytes bs.length) bs bs := by
  intro rest
  have hlong : bs.length ≤ (bs ++ rest).length := by
    rw [List.length_append]
    omega
  show (if bs.length ≤ (bs ++ rest).length then _ else _) = _
  rw [if_pos hlong, List.take_left, List.drop_left]

/-- A number that fits its width is read where it was written. -/
theorem number {w n : Nat} (h : n < LittleEndian.span w) :
    Reads (Reader.number w) (LittleEndian.encode w n) n := by
  have hbytes := bytes (LittleEndian.encode w n)
  rw [LittleEndian.length_encode] at hbytes
  have hall := hbytes.last (f := LittleEndian.decode)
  rwa [LittleEndian.decode_encode h] at hall

theorem code {f : UInt8 → Option β} {c : UInt8} (hf : f c = some b) :
    Reads (Reader.code f) [c] b := by
  have hbyte : LittleEndian.encode 1 c.toNat = [c] := by
    rw [LittleEndian.encode, UInt8.ofNat_toNat, LittleEndian.encode]
  rw [← hbyte]
  refine (number c.toNat_lt).meaning ?_
  rwa [UInt8.ofNat_toNat]

theorem byte (c : UInt8) : Reads Reader.byte [c] c := code rfl

theorem constant (c : UInt8) : Reads (Reader.constant c) [c] () := code (if_pos rfl)

theorem half (n : UInt16) : Reads Reader.half (Request.half n.toNat) n := by
  have hall := (number (w := 2) n.toNat_lt).last (f := UInt16.ofNat)
  rwa [UInt16.ofNat_toNat] at hall

theorem word (n : UInt32) : Reads Reader.word (Request.word n.toNat) n := by
  have hall := (number (w := 4) n.toNat_lt).last (f := UInt32.ofNat)
  rwa [UInt32.ofNat_toNat] at hall

theorem long (n : UInt64) : Reads Reader.long (LittleEndian.encode 8 n.toNat) n := by
  have hall := (number (w := 8) n.toNat_lt).last (f := UInt64.ofNat)
  rwa [UInt64.ofNat_toNat] at hall

/-- Data is read by the length in front of it, which has to fit its width. -/
theorem data {w : Nat} (bs : List UInt8) (h : bs.length < LittleEndian.span w) :
    Reads (Reader.data w) (LittleEndian.encode w bs.length ++ bs) bs :=
  (number h).bind (bytes bs)

theorem text {w : Nat} {s : String} (h : s.utf8ByteSize < LittleEndian.span w) :
    Reads (Reader.text w) (LittleEndian.encode w s.utf8ByteSize ++ Utf8.encode s) s := by
  refine (data (Utf8.encode s) h).meaning ?_
  rw [Utf8.text?, Utf8.decode_encode]
  rfl

theorem whole? (h : Reads m bs a) : m.whole? bs = some a := by
  have hall := h []
  rw [List.append_nil] at hall
  rw [Reader.whole?, hall]

end Reads

/-! ## Layouts -/

namespace Request

open Reader (constant)

/-- Takes the number of headers, which has to be zero. -/
def noHeaders : Reader Unit := (Reader.number 2).meaning fun n => if n = 0 then some () else none

/-- The layout of the request with a command. -/
def layout : Command → Reader Request
  | .openUrl => do
    constant networkVersion
    let method ← Reader.code Method.ofCode?
    let flags ← Reader.byte
    let url ← Reader.text 2
    -- none are sent
    noHeaders
    let bodyLength ← Reader.word
    -- and none are asked for
    noHeaders
    return .openUrl method ⟨flags⟩ url bodyLength
  | .read => do
    constant networkVersion
    let handle ← Reader.half
    let offset ← Reader.word
    return .read handle offset (← Reader.half)
  | .write => do
    constant networkVersion
    let handle ← Reader.half
    let offset ← Reader.word
    return .write handle offset (← Reader.data 2)
  | .close => do
    constant networkVersion
    return .close (← Reader.half)
  | .info => do
    constant networkVersion
    return .info (← Reader.half)
  | .clockGet => return .clockGet
  | .clockSet => do
    constant clockVersion
    return .clockSet ⟨← Reader.long⟩
  | .clockFormat => do
    constant clockVersion
    let format ← Reader.code TimeFormat.ofCode?
    -- an empty timezone is none
    let timezone ← Reader.text 1
    return .clockFormat format (if timezone = "" then none else some timezone)
  | .timezoneGet => do
    constant clockVersion
    return .timezoneGet
  | .timezoneSet => do
    constant clockVersion
    return .timezoneSet (← Reader.text 1) false
  | .timezoneSave => do
    constant clockVersion
    return .timezoneSet (← Reader.text 1) true
  | .clockSync => do
    constant clockVersion
    return .clockSync

/-- The request that a payload carries, given the command. -/
def ofPayload? (command : Command) (payload : List UInt8) : Option Request :=
  (layout command).whole? payload

/-! ## Every request is read back -/

theorem reads_noHeaders : Reads noHeaders (half 0) () :=
  (Reads.number (by decide)).meaning (if_pos rfl)

theorem reads_openUrl (method : Method) (flags : Flags OpenFlag) {url : String}
    (h : url.utf8ByteSize ≤ maxUrl) (bodyLength : UInt32) :
    Reads (layout .openUrl) (openUrl method flags url bodyLength).payload
      (openUrl method flags url bodyLength) := by
  have hlen : url.utf8ByteSize < LittleEndian.span 2 := Nat.lt_of_le_of_lt h (by decide)
  refine Reads.of_eq ((Reads.constant networkVersion).bind <|
    (Reads.code (Method.ofCode?_eq_some_iff.mpr rfl)).bind <| (Reads.byte flags.bits).bind <|
    (Reads.text hlen).bind <| reads_noHeaders.bind <| (Reads.word bodyLength).bind <|
    reads_noHeaders.bind <| .pure _) ?_
  simp [payload, half]

theorem reads_read (handle : UInt16) (offset : UInt32) (maxBytes : UInt16) :
    Reads (layout .read) (read handle offset maxBytes).payload (read handle offset maxBytes) := by
  refine Reads.of_eq ((Reads.constant networkVersion).bind <| (Reads.half handle).bind <|
    (Reads.word offset).bind <| (Reads.half maxBytes).last) ?_
  simp [payload]

theorem reads_write (handle : UInt16) (offset : UInt32) {data : List UInt8}
    (h : data.length ≤ maxChunk) :
    Reads (layout .write) (write handle offset data).payload (write handle offset data) := by
  have hlen : data.length < LittleEndian.span 2 := Nat.lt_of_le_of_lt h (by decide)
  refine Reads.of_eq ((Reads.constant networkVersion).bind <| (Reads.half handle).bind <|
    (Reads.word offset).bind <| (Reads.data data hlen).last) ?_
  simp [payload, half]

theorem reads_clockFormat (format : TimeFormat) {timezone : Option String}
    (h : (clockFormat format timezone).WithinLimits) :
    Reads (layout .clockFormat) (clockFormat format timezone).payload
      (clockFormat format timezone) := by
  have hlen : (timezone.getD "").utf8ByteSize < LittleEndian.span 1 := by
    cases timezone with
    | none => decide
    | some timezone => exact Nat.lt_of_le_of_lt h.2 (by decide)
  have hback : (if timezone.getD "" = "" then none else some (timezone.getD "")) = timezone := by
    cases timezone with
    | none => rfl
    | some timezone => exact if_neg h.1
  have hread : Reads (layout .clockFormat) _
      (clockFormat format (if timezone.getD "" = "" then none else some (timezone.getD ""))) :=
    (Reads.constant clockVersion).bind <|
      (Reads.code (TimeFormat.ofCode?_eq_some_iff.mpr rfl)).bind <| (Reads.text hlen).last
  rw [hback] at hread
  exact hread.of_eq (by simp [payload, LittleEndian.encode])

/-- The name of a timezone is read back behind the version, whichever request has it. -/
theorem reads_timezone {timezone : String} (h : timezone.utf8ByteSize ≤ maxTimezone)
    (persist : Bool) :
    Reads (do
        constant clockVersion
        return timezoneSet (← Reader.text 1) persist)
      (timezoneSet timezone persist).payload (timezoneSet timezone persist) := by
  have hlen : timezone.utf8ByteSize < LittleEndian.span 1 := Nat.lt_of_le_of_lt h (by decide)
  refine Reads.of_eq ((Reads.constant clockVersion).bind (Reads.text hlen).last) ?_
  simp [payload, LittleEndian.encode]

/-- **A request is read back from its payload**, in each of its parts. -/
theorem reads_payload {r : Request} (h : r.WithinLimits) : Reads (layout r.command) r.payload r := by
  cases r with
  | openUrl method flags url bodyLength => exact reads_openUrl method flags h.2 bodyLength
  | read handle offset maxBytes => exact reads_read handle offset maxBytes
  | write handle offset data => exact reads_write handle offset h.2
  | close handle => exact (Reads.constant networkVersion).bind (Reads.half handle).last
  | info handle => exact (Reads.constant networkVersion).bind (Reads.half handle).last
  | clockGet => exact .pure _
  | clockSet time => exact (Reads.constant clockVersion).bind (Reads.long time.seconds).last
  | clockFormat format timezone => exact reads_clockFormat format h
  | timezoneGet => exact (Reads.constant clockVersion).last
  | clockSync => exact (Reads.constant clockVersion).last
  | timezoneSet timezone persist =>
    -- whether it is saved is told by the command
    cases persist with
    | false => exact reads_timezone h.2 false
    | true => exact reads_timezone h.2 true

theorem ofPayload?_payload {r : Request} (h : r.WithinLimits) :
    ofPayload? r.command r.payload = some r :=
  (reads_payload h).whole?

/-- Without a name it is the timezone of the device. -/
example : ofPayload? .clockFormat [0x01, 0x03, 0x00] = some (clockFormat .tzIso none) := by
  decide

end Request

end CompanionBus
