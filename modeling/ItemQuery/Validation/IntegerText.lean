import ItemQuery.Number.Plain
import ItemQuery.Validation.Issue

/-! Integers that a schema finds as text. A text in plain form is read as it stands; any other is
cleaned once and then has to be plain. Cleaning drops surrounding blanks, a plus, leading zeros, a
fraction of zeros and the underscores between digits. Zeros are dropped whatever follows them, so
that a minus may also stand after them. -/
namespace ItemQuery.IntegerText

/-- Reads a whole text as a plain integer. One that begins with too many digits is too large,
whatever follows them. -/
def readPlain (t : Text) : Except Defect Int :=
  match PlainInt.take? t with
  | none => .error .unreadableInteger
  | some (n, rest) =>
    if n.isOverlong then .error .integerTooLarge
    else if rest.isEmpty then .ok n.value
    else .error .unreadableInteger

/-- What follows a run of zeros and underscores. The last of them, which is given, stays where
nothing or a point comes next. -/
def afterZeros (last : Char) : Text → Text
  | [] => [last]
  | c :: rest =>
    if c = '0' ∨ c = '_' then afterZeros c rest
    else if c = '.' then last :: c :: rest
    else c :: rest

/-- A text that begins with a digit, without its leading zeros. -/
def dropZeros? : Text → Option Text
  | [] => none
  | c :: rest =>
    if c = '0' then some (afterZeros c rest) else if isAsciiDigit c then some (c :: rest) else none

/-- Drops a fraction of at least one digit, all of them zeros. -/
def dropFraction (t : Text) : Text :=
  let whole := Text.before '.' t
  match t.drop whole.length with
  | _ :: c :: zeros => if (c :: zeros).all (· == '0') then whole else t
  | _ => t

/-- Drops the underscores, if each stands alone and none at an end. -/
def dropUnderscores (t : Text) : Text :=
  if t.head? = some '_' ∨ t.getLast? = some '_' ∨ Text.occursIn ['_', '_'] t then t
  else t.filter (· != '_')

def clean? (t : Text) : Option Text := do
  let (negative, body) := takeSign (stripClass isNumberBlank t)
  let cleaned := dropUnderscores (dropFraction (← dropZeros? body))
  return if negative then '-' :: cleaned else cleaned

/-- The integer that a text denotes. A text that needs cleaning is never reported as too large. -/
def read (t : Text) : Except Defect Int :=
  match readPlain t with
  | .error .unreadableInteger =>
    match (clean? t).map readPlain with
    | some (.ok n) => .ok n
    | _ => .error .unreadableInteger
  | result => result

end ItemQuery.IntegerText
