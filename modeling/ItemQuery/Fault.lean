import ItemQuery.Validation.Issue

/-! Why an operation failed. Each cause is a constructor; its words, where it has words of its own,
are given by `Fault.message?`. -/
namespace ItemQuery

/-- The two operations that every predicate has to have. -/
inductive Method where
  | canSearch
  | evaluate
  deriving DecidableEq, Repr

def Method.name : Method → String
  | .canSearch => "can_search"
  | .evaluate => "evaluate"

inductive Fault where
  | referenceRequired
  /-- A candidate predicate, shown as it shows itself, has no usable id. -/
  | missingId (shown : Text)
  | missingMethod (id : Text) (method : Method)
  /-- One text stands where a collection of tags is asked for; the id is given on registration. -/
  | tagsAreText (id? : Option Text) (tags : Text)
  | malformedTags (id : Text)
  | unknownBackend (name : Text)
  /-- Raised by a scripted collaborator. -/
  | scripted (words : Text)
  | tooManyDigits
  | notAnInteger
  | infiniteInteger
  /-- A value has a shape that the operation does not take. -/
  | unsuitable
  /-- A value has no part of the name that the operation asks for. -/
  | noSuchPart
  | homeUnknown
  | unknownLevel
  | fileNotFound
  | notUtf8
  | invalid (issues : List Issue)
  /-- A tool was called with arguments that it does not take, or failed. -/
  | toolFailed
  deriving DecidableEq, Repr

namespace Fault

def tagsAreTextMessage (tags : Text) : Text :=
  "Predicate tags must be a collection of strings, not ".toList ++ Text.quoted tags

def message? : Fault → Option Text
  | .referenceRequired => some "Item reference is required".toList
  | .missingId shown => some ("Predicate must have a non-empty string id: ".toList ++ shown)
  | .missingMethod id method => some <|
    "Predicate '".toList ++ id ++ "' has no callable ".toList ++ method.name.toList ++ "()".toList
  | .tagsAreText none tags => some (tagsAreTextMessage tags)
  | .tagsAreText (some id) tags => some <|
    "Predicate '".toList ++ id ++ "': ".toList ++ tagsAreTextMessage tags
  | .malformedTags id => some <|
    "Predicate '".toList ++ id ++ "' tags must be non-empty strings".toList
  | .unknownBackend name => some <|
    "Unknown set backend '".toList ++ name ++
      "' (expected one of ['equipment', 'outfit', 'rack'])".toList
  | .scripted words => some ("fake: ".toList ++ words)
  | _ => none

/-- Whether a fault is a value error: it refuses a value, as unknown or malformed. The others say that
something could not be done with a value of such a shape, or that something else went wrong. -/
def isRefusal : Fault → Bool
  | .referenceRequired => true
  | .missingId _ => true
  | .missingMethod .. => true
  | .tagsAreText .. => true
  | .malformedTags _ => true
  | .unknownBackend _ => true
  | .scripted _ => false
  | .tooManyDigits => true
  | .notAnInteger => true
  | .infiniteInteger => false
  | .unsuitable => false
  | .noSuchPart => false
  | .homeUnknown => false
  | .unknownLevel => true
  | .fileNotFound => false
  | .notUtf8 => true
  | .invalid _ => true
  | .toolFailed => false

end Fault

end ItemQuery
