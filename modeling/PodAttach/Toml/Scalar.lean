import PodAttach.Text.Decimal
import PodAttach.Toml.Reader
import PodAttach.Toml.Value
import PodAttach.Unicode.Table

/-!
# TOML scalars

Numbers, dates and truth values. Whole numbers fit into 64 bits with a sign, and numbers with a fraction are rounded to
64 bits; of dates and times only the form counts.
-/

namespace PodAttach.Toml

open Text Reader

/-- Reads more digits, in which single underscores stand between digits. -/
def moreDigits (isDigit : Char → Bool) : List Char → Except Trouble (List Char × List Char)
  | [] => .ok ([], [])
  | c :: cs =>
    if isDigit c then (moreDigits isDigit cs).map fun (digits, rest) => (c :: digits, rest)
    else if c = '_' then
      match cs with
      | [] => .error ⟨true, 0, Complaint.none.want "digit"⟩
      | d :: cs =>
        if isDigit d then (moreDigits isDigit cs).map fun (digits, rest) => (d :: digits, rest)
        else .error ⟨true, cs.length + 1, Complaint.none.want "digit"⟩
    else .ok ([], c :: cs)

def readDigits (isDigit : Char → Bool) : Reader (List Char) := do
  let first ← char isDigit
  let others ← moreDigits isDigit
  return first :: others

/-- Reads a sign, if there is one, and says whether it is a minus. -/
def readSign : Reader Bool := do
  let sign ← optional (char fun c => c == '+' || c == '-')
  return sign == some '-'

/-- Reads a sign and a whole number without leading zeros. -/
def readWhole : Reader (Bool × List Char) := about "integer" do
  let isNegative ← readSign
  let digits ← or (do
      let first ← char fun c => c.isDigit && c != '0'
      let others ← moreDigits Char.isDigit
      return first :: others)
    (do return [← char Char.isDigit])
  return (isNegative, digits)

/-! ### Whole numbers -/

/-- A whole number, if 64 bits with a sign can hold it. -/
def wholeNumber (isNegative : Bool) (n : Nat) : Except Complaint Value :=
  if isNegative then if n ≤ UInt64.size / 2 then .ok (.integer (-n)) else .error (.of .tooSmall)
  else if n < UInt64.size / 2 then .ok (.integer n) else .error (.of .tooLarge)

/-- Reads a number of a base behind the two characters that announce it. -/
def readBased (base : Nat) (announced : List Char) (name : String) : Reader Value :=
  let isDigit := fun c => match Unicode.hexDigit? c with
    | some d => decide (d < base)
    | none => false
  converted true
    (about name do
      word announced
      must (readDigits isDigit))
    (fun digits => wholeNumber false (digits.foldl (fun n c => n * base + (Unicode.hexDigit? c).getD 0) 0))

def readInteger : Reader Value := fun cs =>
  match cs with
  | '0' :: 'x' :: _ => readBased 16 ['0', 'x'] "hexadecimal integer" cs
  | '0' :: 'o' :: _ => readBased 8 ['0', 'o'] "octal integer" cs
  | '0' :: 'b' :: _ => readBased 2 ['0', 'b'] "binary integer" cs
  | _ => converted true readWhole (fun (isNegative, digits) => wholeNumber isNegative (digitsValue digits)) cs

/-! ### Numbers with a fraction -/

def readExponent : Reader Int := do
  let _ ← char fun c => c == 'e' || c == 'E'
  let isNegative ← readSign
  let digits ← must (readDigits Char.isDigit)
  return if isNegative then -(digitsValue digits : Int) else digitsValue digits

def readPlaces : Reader (List Char) := do
  let _ ← exactly '.'
  wanting "digit" (must (readDigits Char.isDigit))

/-- A number written with a fraction or an exponent: digits, and the power of ten to multiply them with. -/
structure Decimal where
  isNegative : Bool
  digits : Nat
  power : Int
deriving DecidableEq, Repr

def readDecimal : Reader Decimal := do
  let (isNegative, whole) ← readWhole
  or (do
      let exponent ← readExponent
      return ⟨isNegative, digitsValue whole, exponent⟩)
    (do
      let places ← readPlaces
      let exponent ← optional readExponent
      return ⟨isNegative, digitsValue (whole ++ places), exponent.getD 0 - places.length⟩)

/-- The number of 64 bits next to a decimal, `none` for those beyond all of them. -/
def Decimal.magnitude? (d : Decimal) : Option Number.Binary64 :=
  -- the first digit stands for a power of ten that is one less than `scale`
  let scale : Int := d.power + (Nat.toDigits 10 d.digits).length
  if d.digits = 0 ∨ scale < -330 then some .zero
  else if 310 < scale then none
  else if 0 ≤ d.power then Number.Binary64.ofNat (d.digits * Nat.pow 10 d.power.toNat)
  else Number.Binary64.ofRatio d.digits (Nat.pow 10 (-d.power).toNat)

/-- Rounds a decimal. Large numbers may be infinite only below zero. -/
def Decimal.round (d : Decimal) : Except Complaint Fraction :=
  match d.magnitude? with
  | some magnitude => .ok (.finite d.isNegative magnitude)
  | none => if d.isNegative then .ok (.infinite true) else .error .none

def readSpecial (isNegative : Bool) : Reader Fraction :=
  or (do
      word ['i', 'n', 'f']
      return .infinite isNegative)
    (do
      word ['n', 'a', 'n']
      return .undefined)

def readFraction : Reader Value := about "floating-point number" do
  let fraction ← or (converted true readDecimal Decimal.round) (do readSpecial (← readSign))
  return .fraction fraction

/-! ### Dates and times -/

def readPart (count low high : Nat) : Reader Nat :=
  converted false (exactCount count Char.isDigit) fun digits =>
    let n := digitsValue digits
    if low ≤ n ∧ n ≤ high then .ok n else .error (.of .outOfRange)

def isLeapYear (year : Nat) : Bool := year % 4 = 0 && (year % 100 ≠ 0 || year % 400 = 0)

def daysOf (year month : Nat) : Nat :=
  if month = 2 then if isLeapYear year then 29 else 28
  else if month = 4 ∨ month = 6 ∨ month = 9 ∨ month = 11 then 30
  else 31

def readDate : Reader Unit := do
  let year ← readPart 4 0 9999
  let _ ← exactly '-'
  let month ← must (readPart 2 1 12)
  let _ ← must (exactly '-')
  let _ ← converted true (must (readPart 2 1 31)) fun day =>
    if day ≤ daysOf year month then .ok () else .error (.of .outOfRange)

def readSubsecond : Reader Unit := do
  let _ ← exactly '.'
  let _ ← char Char.isDigit
  let _ ← many Char.isDigit

/-- Reads a time with seconds. A leap second may follow the sixtieth. -/
def readTime : Reader Unit := do
  let _ ← readPart 2 0 23
  let _ ← exactly ':'
  must do
    let _ ← readPart 2 0 59
    let _ ← exactly ':'
    let _ ← readPart 2 0 60
    let _ ← optional readSubsecond

def readOffset : Reader Unit := about "time offset" <|
  or (do let _ ← char fun c => c == 'Z' || c == 'z') do
    let _ ← char fun c => c == '+' || c == '-'
    must do
      let _ ← readPart 2 0 23
      let _ ← exactly ':'
      let _ ← readPart 2 0 59

/-- Reads a date with a time behind it, if there is one, or a time alone. -/
def readMoment : Reader Value := do
  or
    (about "date-time" do
      readDate
      let _ ← optional do
        let _ ← char fun c => c == 'T' || c == 't' || c == ' '
        readTime
        optional readOffset)
    (about "time" readTime)
  return .moment

/-! ### Words -/

def noValue : Complaint := ⟨some "string", ["`\"`", "`'`"], none⟩

def readWord (letters : List Char) (value : Value) : Reader Value := fun cs =>
  if letters.isPrefixOf cs then .ok (value, cs.drop letters.length) else fail noValue cs

/-- Reads a bare value, by its first character. -/
def readBare (first : Char) : Reader Value :=
  if first.isDigit || first == '+' || first == '-' then or readMoment (or readFraction readInteger)
  else if first == '_' then wanting "leading digit" readInteger
  else if first == '.' then wanting "leading digit" readFraction
  else if first == 't' then must (readWord ['t', 'r', 'u', 'e'] (.flag true))
  else if first == 'f' then must (readWord ['f', 'a', 'l', 's', 'e'] (.flag false))
  else if first == 'i' then readWord ['i', 'n', 'f'] (.fraction (.infinite false))
  else if first == 'n' then readWord ['n', 'a', 'n'] (.fraction .undefined)
  else fail noValue

end PodAttach.Toml
