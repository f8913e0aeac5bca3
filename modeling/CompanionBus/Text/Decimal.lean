/-
  Decimal numbers as text: zero-padded for dates, and read back for settings.
-/
namespace CompanionBus.Decimal

/-! ## Writing -/

/-- The decimal digits of `n`, with zeros in front up to `width` characters. -/
def padded (width n : Nat) : String :=
  let ds := Nat.toDigits 10 n
  String.ofList (List.replicate (width - ds.length) '0' ++ ds)

/-! ## Reading -/

/-- The value of one ASCII digit. -/
def digit? (c : Char) : Option Nat :=
  if '0' ≤ c ∧ c ≤ '9' then some (c.toNat - '0'.toNat) else none

/-- Goes on reading digits behind a number already read. -/
def readFrom : Nat → List Char → Option Nat
  | n, [] => some n
  | n, c :: rest =>
    match digit? c with
    | some d => readFrom (10 * n + d) rest
    | none => none

/-- A number in ASCII digits, at least one of them, behind at most one `+`. -/
def read? : List Char → Option Nat
  | [] => none
  | ['+'] => none
  | '+' :: rest => readFrom 0 rest
  | cs => readFrom 0 cs

/-! ## Spellings -/

example : padded 4 33 = "0033" := by decide
example : padded 2 12345 = "12345" := by decide
example : read? ['+', '0', '7'] = some 7 := by decide
example : read? ['+', '+', '7'] = none := by decide

end CompanionBus.Decimal
