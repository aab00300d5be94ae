import ItemQuery.Text.Digit

/-! Integers in decimal text. Written without a sign or with a minus; read with blanks around, a
sign of either kind, digits of any script and a single underscore between two digits. -/
namespace ItemQuery

def twoTo (n : Nat) : Nat := Nat.pow 2 n

def tenTo (n : Nat) : Nat := Nat.pow 10 n

/-- Texts with more digits than this are not converted, leading zeros counted. -/
def digitLimit : Nat := 4300

def asciiDigit? (c : Char) : Option Nat :=
  if '0' ≤ c ∧ c ≤ '9' then some (c.toNat - '0'.toNat) else none

def isAsciiDigit (c : Char) : Bool := (asciiDigit? c).isSome

/-- The number that a sequence of digits denotes, most significant first. -/
def digitsValue (digits : List Nat) : Nat := digits.foldl (fun value d => 10 * value + d) 0

def natText (n : Nat) : Text := Nat.toDigits 10 n

def intText : Int → Text
  | .ofNat n => natText n
  | .negSucc n => '-' :: natText (n + 1)

/-- Whether an integer has no more digits than are converted, be it from text or into it. -/
def isReadable (n : Int) : Bool := (natText n.natAbs).length ≤ digitLimit

/-- A leading sign and what follows it; `true` stands for a minus. -/
def takeSign : Text → Bool × Text
  | '-' :: rest => (true, rest)
  | '+' :: rest => (false, rest)
  | t => (false, t)

def applySign (negative : Bool) (n : Nat) : Int := if negative then -(n : Int) else n

/-- Digits of any script, with at most one underscore between two of them and none at the ends. -/
def separatedDigits? : Text → Option (List Nat)
  | [] => none
  | [c] => (Text.digitValue? c).map ([·])
  | c :: '_' :: rest => do
    let d ← Text.digitValue? c
    let ds ← separatedDigits? rest
    return d :: ds
  | c :: rest => do
    let d ← Text.digitValue? c
    let ds ← separatedDigits? rest
    return d :: ds

/-- The blanks that may surround an integer: the four information separators are not among them. -/
def isNumberBlank (c : Char) : Bool := Text.isBlank c && !(0x1c ≤ c.toNat && c.toNat ≤ 0x1f)

/-- A text without the characters of a class at its ends. -/
def stripClass (member : Char → Bool) (t : Text) : Text :=
  ((t.dropWhile member).reverse.dropWhile member).reverse

/-- The integer that a text denotes, none when it denotes none or has too many digits. -/
def parseInt? (t : Text) : Option Int :=
  let (negative, body) := takeSign (stripClass isNumberBlank t)
  match separatedDigits? body with
  | some digits =>
    if digits.length ≤ digitLimit then some (applySign negative (digitsValue digits)) else none
  | none => none

end ItemQuery
