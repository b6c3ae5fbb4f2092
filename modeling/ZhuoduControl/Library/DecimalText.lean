import ZhuoduControl.Library.Binary32

/-! Decimal numbers as text: the conversions of `sscanf` and `snprintf`. -/

set_option autoImplicit false

namespace ZhuoduControl.Library.DecimalText

def isSpace (c : Char) : Bool := c = ' ' || (9 ≤ c.toNat && c.toNat ≤ 13)

def isDigit (c : Char) : Bool := 48 ≤ c.toNat && c.toNat ≤ 57

def digitsValue (digits : List Char) : Nat :=
  digits.foldl (fun value digit => 10 * value + (digit.toNat - 48)) 0

/-- The leading digits; there has to be one. -/
def scanDigits (text : List Char) : Option Nat :=
  match text.takeWhile isDigit with
  | [] => none
  | digits => some (digitsValue digits)

/-- The conversion `%<width>d`; `none` where nothing is assigned. -/
def scanInt (width : Nat) (text : List Char) : Option Int :=
  match (text.dropWhile isSpace).take width with
  | '-' :: rest => (scanDigits rest).map fun value : Nat => -(value : Int)
  | '+' :: rest => (scanDigits rest).map fun value : Nat => (value : Int)
  | field => (scanDigits field).map fun value : Nat => (value : Int)

/-- A number as `%lf` assigns it. -/
inductive Number
  | nan
  | infinite (negative : Bool)
  | finite (value : Rat)
deriving DecidableEq

/-- The comparison of two numbers, false if one of them is not ordered. -/
def Number.lt : Number → Number → Bool
  | .nan, _ => false
  | _, .nan => false
  | .infinite negative, .infinite other => negative && !other
  | .infinite negative, .finite _ => negative
  | .finite _, .infinite negative => !negative
  | .finite value, .finite other => decide (value < other)

def scale (digits : List Char) : Nat := digits.foldl (fun scale _ => 10 * scale) 1

/-- An unsigned number: the words for the numbers that are not finite, or digits with at
most one point. Exponents and hexadecimal digits are left out. -/
def scanMagnitude (negative : Bool) (text : List Char) : Option Number :=
  let word := (text.take 3).map Char.toLower
  if word = ['n', 'a', 'n'] then some .nan
  else if word = ['i', 'n', 'f'] then some (.infinite negative)
  else
    let whole := text.takeWhile isDigit
    let fraction := match text.drop whole.length with
      | '.' :: rest => rest.takeWhile isDigit
      | _ => []
    if whole = [] ∧ fraction = [] then none
    else
      let magnitude : Int := digitsValue (whole ++ fraction)
      some (.finite (mkRat (if negative then -magnitude else magnitude) (scale fraction)))

/-- The conversion `%<width>lf`. -/
def scanReal (width : Nat) (text : List Char) : Option Number :=
  match (text.dropWhile isSpace).take width with
  | '-' :: rest => scanMagnitude true rest
  | '+' :: rest => scanMagnitude false rest
  | field => scanMagnitude false field

def signText (negative : Bool) : List Char := if negative then ['-'] else []

/-- The flag `0`: zeros between the sign and the digits. -/
def zeroPadded (width : Nat) (negative : Bool) (digits : List Char) : List Char :=
  signText negative ++
    List.replicate (width - (signText negative).length - digits.length) '0' ++ digits

/-- The conversion `%0<width>d`. -/
def formatInt (width : Nat) (value : Int) : List Char :=
  zeroPadded width (decide (value < 0)) (Nat.toDigits 10 value.natAbs)

/-- The conversion `%0<width>.1f` of a quotient. -/
def formatTenths (width : Nat) (negative : Bool) (dividend divisor : Nat) : List Char :=
  let tenths := Binary32.roundHalfEven (10 * dividend) divisor
  zeroPadded width negative
    (Nat.toDigits 10 (tenths / 10) ++ '.' :: Nat.toDigits 10 (tenths % 10))

/-- The conversion `%0<width>.<places>f` of a quotient. -/
def formatFixed (places width : Nat) (negative : Bool) (dividend divisor : Nat) : List Char :=
  let scaled := Binary32.roundHalfEven (10 ^ places * dividend) divisor
  zeroPadded width negative
    (Nat.toDigits 10 (scaled / 10 ^ places) ++
      '.' :: zeroPadded places false (Nat.toDigits 10 (scaled % 10 ^ places)))

/-- The conversion of a number that is not finite. -/
def formatWord (width : Nat) (negative : Bool) (word : List Char) : List Char :=
  let text := signText negative ++ word
  List.replicate (width - text.length) ' ' ++ text

/-- The flag `-`. -/
def leftJustified (width : Nat) (text : List Char) : List Char :=
  text ++ List.replicate (width - text.length) ' '

end ZhuoduControl.Library.DecimalText
