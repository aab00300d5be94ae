import ItemQuery.Json.Basic
import ItemQuery.Number.Plain

/-! Reading JSON text. The grammar is the standard's, with `NaN`, `Infinity` and `-Infinity` added;
a number with a fraction or an exponent is a double and any other an integer. Refused are escapes
of surrogates that form no pair, numbers whose whole part is beyond the digit limit and containers
nested too deep.

This is the reader of the validation library, which is no part of the program. All that is proved of
it is that the integers in what it reads can be written again (`Catalog.isWritable_of_parse`). -/
namespace ItemQuery.Json

def skipSpace (t : Text) : Text :=
  t.dropWhile fun c => c = ' ' || c = '\t' || c = '\n' || c = '\r'

def hexValue? (c : Char) : Option Nat :=
  if '0' ≤ c ∧ c ≤ '9' then some (c.toNat - '0'.toNat)
  else if 'a' ≤ c ∧ c ≤ 'f' then some (c.toNat - 'a'.toNat + 10)
  else if 'A' ≤ c ∧ c ≤ 'F' then some (c.toNat - 'A'.toNat + 10)
  else none

/-- The code unit that four hexadecimal digits denote. -/
def codeUnit? (a b c d : Char) : Option Nat := do
  return (((← hexValue? a) * 16 + (← hexValue? b)) * 16 + (← hexValue? c)) * 16 + (← hexValue? d)

def isHighSurrogate (n : Nat) : Bool := 0xd800 ≤ n && n ≤ 0xdbff

def isLowSurrogate (n : Nat) : Bool := 0xdc00 ≤ n && n ≤ 0xdfff

def pairOf (high low : Nat) : Char :=
  Char.ofNat (0x10000 + (high - 0xd800) * 0x400 + (low - 0xdc00))

def simpleEscape? : Char → Option Char
  | '"' => some '"'
  | '\\' => some '\\'
  | '/' => some '/'
  | 'b' => some '\x08'
  | 'f' => some '\x0c'
  | 'n' => some '\n'
  | 'r' => some '\r'
  | 't' => some '\t'
  | _ => none

/-- The text up to the closing quote and what follows it. `seen` is what was read, last first. -/
def readText (seen : Text) : Text → Option (Text × Text)
  | [] => none
  | '"' :: rest => some (seen.reverse, rest)
  | '\\' :: 'u' :: a :: b :: c :: d :: '\\' :: 'u' :: e :: f :: g :: h :: rest =>
    match codeUnit? a b c d with
    | none => none
    | some n =>
      if isHighSurrogate n then
        match codeUnit? e f g h with
        | some m => if isLowSurrogate m then readText (pairOf n m :: seen) rest else none
        | none => none
      else if isLowSurrogate n then none
      else readText (Char.ofNat n :: seen) ('\\' :: 'u' :: e :: f :: g :: h :: rest)
  | '\\' :: 'u' :: a :: b :: c :: d :: rest =>
    match codeUnit? a b c d with
    | none => none
    | some n =>
      if isHighSurrogate n || isLowSurrogate n then none
      else readText (Char.ofNat n :: seen) rest
  | '\\' :: c :: rest =>
    match simpleEscape? c with
    | some e => readText (e :: seen) rest
    | none => none
  | c :: rest => if c.toNat < 0x20 then none else readText (c :: seen) rest

/-- The digits of a fraction, when a point stands first: at least one has to follow. -/
def readFraction : Text → Option (Option (List Nat) × Text)
  | '.' :: rest =>
    match takeDigits rest with
    | ([], _) => none
    | (digits, rest) => some (some digits, rest)
  | t => some (none, t)

def readExponent : Text → Option (Option Int × Text)
  | c :: rest =>
    if c = 'e' || c = 'E' then
      let (negative, rest) := takeSign rest
      match takeDigits rest with
      | ([], _) => none
      | (digits, rest) => some (some (applySign negative (digitsValue digits)), rest)
    else some (none, c :: rest)
  | [] => some (none, [])

def readNumber (t : Text) : Option (Number × Text) :=
  match Text.after? "-Infinity".toList t with
  | some rest => some (.double (.infinite true), rest)
  | none => do
    let (whole, rest) ← PlainInt.take? t
    if whole.isOverlong then failure
    let (fraction?, rest) ← readFraction rest
    let (exponent?, rest) ← readExponent rest
    match fraction?, exponent? with
    | none, none => return (.int whole.value, rest)
    | _, _ =>
      let fraction := fraction?.getD []
      let digits := digitsValue (whole.digits ++ fraction)
      let scale := exponent?.getD 0 - fraction.length
      return (.double (.ofDecimal whole.negative digits scale), rest)

/-- The words that stand for a value. -/
def words : List (String × Json) :=
  [("null", .null), ("true", .bool true), ("false", .bool false),
   ("NaN", .number (.double .quietNan)), ("Infinity", .number (.double (.infinite false)))]

def readWord (t : Text) : Option (Json × Text) :=
  words.findSome? fun (word, value) => (Text.after? word.toList t).map (value, ·)

/-- What a container that has begun goes on with: its end, or its first element. -/
def closedBy (mark : Char) (t : Text) : Option Text :=
  match skipSpace t with
  | c :: rest => if c = mark then some rest else none
  | [] => none

mutual

/-- A value and what follows it. `depth` counts the containers that may still be opened around an
element; the fuel bounds the nesting of the calls and twice the length of the text suffices. -/
def readValue (depth : Nat) : Nat → Text → Option (Json × Text)
  | 0, _ => none
  | fuel + 1, t =>
    match skipSpace t with
    | '"' :: rest => (readText [] rest).map fun (t, rest) => (.text t, rest)
    | '[' :: rest =>
      match closedBy ']' rest, depth with
      | some rest, _ => some (.array [], rest)
      | none, 0 => none
      | none, depth + 1 => readItems depth fuel [] rest
    | '\x7b' :: rest =>
      match closedBy '\x7d' rest, depth with
      | some rest, _ => some (.object [], rest)
      | none, 0 => none
      | none, depth + 1 => readMembers depth fuel [] rest
    | rest =>
      match readWord rest with
      | some found => some found
      | none => (readNumber rest).map fun (n, rest) => (.number n, rest)

/-- The elements up to the closing bracket; `seen` is what was read, last first. -/
def readItems (depth : Nat) : Nat → List Json → Text → Option (Json × Text)
  | 0, _, _ => none
  | fuel + 1, seen, t =>
    match readValue depth fuel t with
    | none => none
    | some (value, rest) =>
      match skipSpace rest with
      | ',' :: rest => readItems depth fuel (value :: seen) rest
      | ']' :: rest => some (.array (value :: seen).reverse, rest)
      | _ => none

def readMembers (depth : Nat) : Nat → List (Text × Json) → Text → Option (Json × Text)
  | 0, _, _ => none
  | fuel + 1, seen, t =>
    match skipSpace t with
    | '"' :: rest =>
      match readText [] rest with
      | none => none
      | some (name, rest) =>
        match skipSpace rest with
        | ':' :: rest =>
          match readValue depth fuel rest with
          | none => none
          | some (value, rest) =>
            match skipSpace rest with
            | ',' :: rest => readMembers depth fuel (insertMember name value seen) rest
            | '\x7d' :: rest => some (.object (insertMember name value seen), rest)
            | _ => none
        | _ => none
    | _ => none

end

/-- How deep elements may be nested in the containers of a document. -/
def depthLimit : Nat := 200

/-- The value of a whole text, none when it is not JSON or nests deeper than `depth`. -/
def parseWithin? (depth : Nat) (t : Text) : Option Json :=
  match readValue depth (2 * t.length + 2) t with
  | some (value, rest) => if (skipSpace rest).isEmpty then some value else none
  | none => none

def parse? (t : Text) : Option Json := parseWithin? depthLimit t

end ItemQuery.Json
