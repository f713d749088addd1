import RecordFarm.Toml.Text
/-!
# Numbers, dates and times

Integers have 64 bits and a sign; what does not fit is not read. Of a float it only matters that it
is one and that it is not too large above zero, and of a date or a time that there is such a day
and such a minute.
-/

namespace RecordFarm

namespace Toml

/-- Digits with single underscores between them. -/
def digitRun (isDigit : Char → Bool) : Reader (List Char) := do
  let first ← Reader.char isDigit
  let rest ← Reader.many (Reader.char isDigit <|> (do Reader.just '_'; Reader.char isDigit))
  return first :: rest

def sign : Reader Bool :=
  (do Reader.just '-'; return true) <|> (do Reader.just '+'; return false) <|> pure false

/-- The digits of a number without a needless zero in front. -/
def plainDigits : Reader (List Char) := do
  let digits ← (do
    let first ← Reader.char fun c => isDecimal c && c != '0'
    let rest ← Reader.many (Reader.char isDecimal <|> (do Reader.just '_'; Reader.char isDecimal))
    return first :: rest) <|> (return [← Reader.char (· == '0')])
  return digits

/-! ### Integers -/

def isInt64 (n : Int) : Bool := -0x8000000000000000 ≤ n && n < 0x8000000000000000

def fitting (n : Int) : Reader Int := if isInt64 n then pure n else failure

/-- An integer with a mark that names its base. -/
def basedInteger (mark : Char) (base : Nat) (isDigit : Char → Bool) : Reader Int := do
  Reader.word ['0', mark]
  fitting (numberOf base (← digitRun isDigit))

def decimalInteger : Reader Int := do
  let isNegative ← sign
  let n : Int := numberOf 10 (← plainDigits)
  fitting (if isNegative then -n else n)

def integer : Reader Int :=
  basedInteger 'x' 16 isHex <|>
    basedInteger 'o' 8 (fun c => '0' ≤ c && c ≤ '7') <|>
    basedInteger 'b' 2 (fun c => c == '0' || c == '1') <|>
    decimalInteger

/-! ### Floats -/

/-- Whether `digits · 10 ^ scale` lies so far beyond the largest number of double precision that it
does not round to it. -/
def isTooLarge (digits : Nat) (scale : Int) : Bool :=
  -- Half-way between the largest number and what would come next.
  let bound := Nat.pow 2 1024 - Nat.pow 2 970
  if digits = 0 then false
  else
    -- A number with so many digits before its point.
    let size := (Nat.toDigits 10 digits).length + scale
    if size < 300 then false
    else if 320 < size then true
    else if 0 ≤ scale then bound ≤ digits * Nat.pow 10 scale.toNat
    else bound * Nat.pow 10 (-scale).toNat ≤ digits

def exponent : Reader Int := do
  discard (Reader.char fun c => c == 'e' || c == 'E')
  let isNegative ← sign
  let n : Int := numberOf 10 (← digitRun isDecimal)
  return if isNegative then -n else n

/-- A float in digits, with a fraction or an exponent or both. -/
def digitFloat : Reader Unit := do
  let isNegative ← sign
  let whole ← plainDigits
  let (fraction, scale) ←
    (do
      Reader.just '.'
      let fraction ← digitRun isDecimal
      return (fraction, ← exponent <|> pure 0)) <|>
    (return ([], ← exponent))
  let digits := numberOf 10 (whole ++ fraction)
  if !isNegative && isTooLarge digits (scale - fraction.length) then failure else return ()

/-- A float that is no number of digits. -/
def namedFloat : Reader Unit := do
  discard sign
  Reader.word ['i', 'n', 'f'] <|> Reader.word ['n', 'a', 'n']

def float : Reader Unit := digitFloat <|> namedFloat

/-! ### Dates and times -/

/-- A number of so many digits within bounds. -/
def bounded (digits low high : Nat) : Reader Nat := do
  let n := numberOf 10 (← Reader.times digits isDecimal)
  if low ≤ n && n ≤ high then return n else failure

def daysIn (year month : Nat) : Nat :=
  if month = 2 then
    if year % 4 = 0 ∧ (year % 100 ≠ 0 ∨ year % 400 = 0) then 29 else 28
  else if month ∈ [4, 6, 9, 11] then 30
  else 31

def date : Reader Unit := do
  let year ← bounded 4 0 9999
  Reader.just '-'
  let month ← bounded 2 1 12
  Reader.just '-'
  discard (bounded 2 1 (daysIn year month))

/-- A time of day; a minute may have a second more. -/
def time : Reader Unit := do
  discard (bounded 2 0 23)
  Reader.just ':'
  discard (bounded 2 0 59)
  Reader.just ':'
  discard (bounded 2 0 60)
  Reader.maybe (do Reader.just '.'; Reader.span1 isDecimal)

/-- The distance of a time from universal time. -/
def offset : Reader Unit :=
  discard (Reader.char fun c => c == 'Z' || c == 'z') <|> do
    discard (Reader.char fun c => c == '+' || c == '-')
    discard (bounded 2 0 23)
    Reader.just ':'
    discard (bounded 2 0 59)

def moment : Reader Unit :=
  (do
    date
    Reader.maybe do
      discard (Reader.char fun c => c == 'T' || c == 't' || c == ' ')
      time
      Reader.maybe offset) <|> time

end Toml

end RecordFarm
