import ItemQuery.Number.Integer
import ItemQuery.Text.Quoted

/-! What is wrong with a value that was read against a schema: where it stands, and which rule it
breaks. -/
namespace ItemQuery

/-- A step from a value to one inside it. -/
inductive PathStep where
  | field (name : String)
  | index (i : Nat)
  deriving DecidableEq, Repr

inductive Defect where
  | missing
  | notAnInteger
  | unreadableInteger
  | integerTooLarge
  | fractional
  | notFinite
  | negative
  | notABoolean
  | unreadableBoolean
  | notAText
  | notAList
  | notAnObject
  | malformedJson
  /-- A link that carries another id than its item, or none. -/
  | foreignLink (link : Text) (id : Int)
  /-- A link whose id has too many digits to be read. -/
  | unreadableLink (digits : Nat)
  deriving DecidableEq, Repr

structure Issue where
  path : List PathStep
  defect : Defect
  deriving DecidableEq, Repr

namespace Defect

/-- The name of the rule, as reports give it. -/
def code : Defect → String
  | .missing => "missing"
  | .notAnInteger => "int_type"
  | .unreadableInteger => "int_parsing"
  | .integerTooLarge => "int_parsing_size"
  | .fractional => "int_from_float"
  | .notFinite => "finite_number"
  | .negative => "greater_than_equal"
  | .notABoolean => "bool_type"
  | .unreadableBoolean => "bool_parsing"
  | .notAText => "string_type"
  | .notAList => "list_type"
  | .notAnObject => "model_type"
  | .malformedJson => "json_invalid"
  | .foreignLink .. => "value_error"
  | .unreadableLink _ => "value_error"

/-- The words of a defect that a rule of the catalog found; the others go by their code alone. Where
the id that is to be named cannot be written, it is this that they complain of. -/
def message? : Defect → Option Text
  | .foreignLink link id => some <|
    if isReadable id then "Value error, link ".toList ++ Text.quoted link ++
      " does not refer to item ".toList ++ intText id
    else "Value error, Exceeds the limit (4300 digits) for integer string conversion".toList ++ advice
  | .unreadableLink digits => some <|
    "Value error, Exceeds the limit (4300 digits) for integer string conversion: value has ".toList ++
      natText digits ++ " digits".toList ++ advice
  | _ => none
where
  advice : Text := "; use sys.set_int_max_str_digits() to increase the limit".toList

end Defect

end ItemQuery
