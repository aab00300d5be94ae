import ItemQuery.Query.Predicate
import ItemQuery.Text.Lower

/-! Matching a fragment of text against what is known of an item, without regard to case. -/
namespace ItemQuery

namespace Text

/-- Whether some candidate contains the fragment. Missing and empty candidates never do. -/
def containsAny (fragment : Text) (candidates : List (Option Text)) : Bool :=
  candidates.any fun
    | some (c :: rest) => occursIn (lower fragment) (lower (c :: rest))
    | _ => false

end Text

/-- The text of a capture that is to be matched. -/
def Json.asText? : Json → Option Text
  | .text t => some t
  | _ => none

namespace Attribute

/-- The capture of an attribute that takes any text but no operator. -/
def plainCapture (operator : Option Text) (text : Text) : Option Json :=
  if Operator.isGiven operator || text.isEmpty then none else some (.text text)

/-- Matches a capture, which has to be a text, against candidates. -/
def matchCapture {σ : Type} (capture : Json) (candidates : List (Option Text)) : Search σ Bool :=
  match capture.asText? with
  | some fragment => return Text.containsAny fragment candidates
  | none => throw .noSuchPart

end Attribute

end ItemQuery
