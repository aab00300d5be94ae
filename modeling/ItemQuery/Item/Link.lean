import ItemQuery.Number.Literal
import ItemQuery.Text.Digit

/-! Item links. A reference names its item by the first `item:` that a number follows, with a minus
or not and in digits of any script. -/
namespace ItemQuery.Link

def idMark : Text := "item:".toList

/-- The sign and digits at the start of a text, when at least one digit is there. -/
def leadingNumber? (t : Text) : Option (Bool × List Nat) :=
  let (negative, body) := match t with
    | '-' :: rest => (true, rest)
    | _ => (false, t)
  match (body.takeWhile Text.isDigit).filterMap Text.digitValue? with
  | [] => none
  | digits => some (negative, digits)

/-- The number after the first mark that one follows. -/
def firstNumber? : Text → Option (Bool × List Nat)
  | [] => none
  | c :: rest =>
    match (Text.after? idMark (c :: rest)).bind leadingNumber? with
    | some found => some found
    | none => firstNumber? rest

/-- The id that a link carries. It fails when the first number has too many digits to be read. -/
def itemId? (link : Text) : Except Fault (Option Int) :=
  match firstNumber? link with
  | none => .ok none
  | some (negative, digits) =>
    if digits.length ≤ digitLimit then .ok (some (applySign negative (digitsValue digits)))
    else .error .tooManyDigits

def defaultColor : Text := "ffffffff".toList

/-- The chat link around an id that is written: colour, id, seven empty bonus fields and the name. -/
def around (written name color : Text) : Text :=
  "|c".toList ++ color ++ "|Hitem:".toList ++ written ++ ":0:0:0:0:0:0:0|h[".toList ++ name ++
    "]|h|r".toList

/-- The chat link of an item, if its id can be written. -/
def build (id : Int) (name color : Text) : Except Fault Text :=
  (writeInt id).map (around · name color)

end ItemQuery.Link
