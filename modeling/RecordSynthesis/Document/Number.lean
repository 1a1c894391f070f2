import RecordSynthesis.Document.Quoted
import RecordSynthesis.Document.Value

/-!
# Numbers

Integers are decimal, hexadecimal, octal or binary and have 64 bits with a sign. Floats have a
fraction or an exponent. Single underscores may stand between digits, and no decimal number has
needless zeros in front. A positive float must be less than the least number that a 64-bit float
rounds to infinity; how far a negative one reaches is not checked.
-/

set_option autoImplicit false

namespace RecordSynthesis.Document

open Scanner

/-! ## Digits -/

/-- Takes further digits with single underscores between them. -/
def moreDigits (isDigit : Char → Bool) : Scanner (List Char) :=
  loop do
    match ← peek with
    | some '_' =>
      exactly '_'
      return some (← satisfying isDigit)
    | some c =>
      if isDigit c then
        exactly c
        return some c
      else return none
    | none => return none

/-- Takes one digit and further ones. -/
def digits (isDigit : Char → Bool) : Scanner (List Char) := do
  let first ← satisfying isDigit
  return first :: (← moreDigits isDigit)

/-- Takes a sign and tells whether it is a minus. -/
def sign : Scanner Bool := do
  match ← peek with
  | some '-' =>
    exactly '-'
    return true
  | some '+' =>
    exactly '+'
    return false
  | _ => return false

/-- Takes a decimal number without needless zeros in front. -/
def plainDigits : Scanner (List Char) := do
  match ← peek with
  | some '0' =>
    exactly '0'
    return ['0']
  | _ => digits Char.isDigit

/-! ## Integers -/

/-- The least number that does not fit into 64 bits with a sign. -/
def integerLimit : Nat := 1 <<< 63

/-- Takes an integer behind the mark of its base. -/
def basedInteger (mark : String) (base : Nat) (isDigit : Char → Bool) : Scanner Value := do
  word mark
  let n := numberOf base (← digits isDigit)
  if n < integerLimit then return .integer n else refuse

/-- Takes a decimal integer. -/
def decimalInteger : Scanner Value := do
  let negative ← sign
  let n := numberOf 10 (← plainDigits)
  if negative then
    if n ≤ integerLimit then return .integer (-n) else refuse
  else if n < integerLimit then return .integer n else refuse

/-- Takes an integer in any base. -/
def integer : Scanner Value := do
  if ← comesNext "0x" then basedInteger "0x" 16 isHexDigit
  else if ← comesNext "0o" then basedInteger "0o" 8 fun c => '0' ≤ c && c ≤ '7'
  else if ← comesNext "0b" then basedInteger "0b" 2 fun c => c = '0' || c = '1'
  else decimalInteger

/-! ## Floats -/

/-- The least number that rounds to infinity. -/
def floatLimit : Nat := (1 <<< 1024) - (1 <<< 970)

/-- Whether `m` times ten to the power `e` reaches the limit. The number of digits decides unless
the two are close. -/
def reachesLimit (m : Nat) (e : Int) : Bool :=
  if m = 0 then false
  else
    let top : Int := (Nat.toDigits 10 m).length + e
    if 310 < top then true
    else if top < 308 then false
    else if 0 ≤ e then decide (floatLimit ≤ m * Nat.pow 10 e.toNat)
    else decide (floatLimit * Nat.pow 10 (-e).toNat ≤ m)

/-- Takes an exponent. -/
def exponent : Scanner Int := do
  discard (satisfying fun c => c = 'e' || c = 'E')
  let negative ← sign
  let n : Int := numberOf 10 (← digits Char.isDigit)
  return if negative then -n else n

/-- Takes a fraction and gives its digits. -/
def fraction : Scanner (List Char) := do
  exactly '.'
  digits Char.isDigit

/-- Takes a float that is written in digits. -/
def digitFloat : Scanner Unit := do
  let negative ← sign
  let whole ← plainDigits
  let part ← attempt fraction
  let power ← attempt exponent
  if part.isNone && power.isNone then refuse
  let part := part.getD []
  if !negative && reachesLimit (numberOf 10 (whole ++ part)) (power.getD 0 - part.length) then
    refuse

/-- Takes an infinity or a value that is no number. -/
def specialFloat : Scanner Unit := do
  discard sign
  either (word "inf") (word "nan")

/-- Takes a float. -/
def float : Scanner Value := do return .float (← written (either digitFloat specialFloat))

end RecordSynthesis.Document
