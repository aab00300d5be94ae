import ItemQuery.Fault

/-! File paths. A path is kept without empty and `.` parts; exactly two slashes at the start stay
two, and a leading `~` stands for a home directory. -/
namespace ItemQuery

/-- The home directories that the host knows of: of the account that the program runs under, and of
accounts by their names. -/
structure Homes where
  own : Option Text
  ofName : Text → Option Text

structure Path where
  /-- Nothing for a relative path, else one slash or two. -/
  root : Text
  parts : List Text
  deriving DecidableEq, Repr

namespace Path

def rootOf : Text → Text
  | '/' :: '/' :: '/' :: _ => ['/']
  | '/' :: '/' :: _ => ['/', '/']
  | '/' :: _ => ['/']
  | _ => []

def ofText (t : Text) : Path where
  root := rootOf t
  parts := (Text.split '/' t).filter fun part => part ≠ [] ∧ part ≠ ['.']

/-- The path with no root and no parts is the current directory. -/
def text (p : Path) : Text :=
  if p.root = [] ∧ p.parts = [] then ['.'] else p.root ++ Text.join ['/'] p.parts

/-- The directory that the part at the start of a path stands for, when it begins with `~`. A bare `~`
is the home that the environment names, or else that of the account. -/
def homeOf? (homes : Homes) (home : Option Text) : Text → Option Text
  | '~' :: [] => home.or homes.own
  | '~' :: name => homes.ofName name
  | _ => none

/-- Replaces a leading `~` or `~user`. A home that begins with `~` itself is none. -/
def expand (homes : Homes) (home : Option Text) (p : Path) : Except Fault Path :=
  match p.root, p.parts with
  | [], ('~' :: rest) :: parts =>
    match (homeOf? homes home ('~' :: rest)).map fun directory =>
        (directory.reverse.dropWhile (· == '/')).reverse with
    | none => .error .homeUnknown
    | some ('~' :: _) => .error .homeUnknown
    | some directory =>
      let start := ofText (if directory.isEmpty then ['/'] else directory)
      .ok { start with parts := start.parts ++ parts }
  | _, _ => .ok p

end Path

end ItemQuery
