import VideoPosters.Json.Value
import VideoPosters.Text.Quoted

/-!
# What can be wrong with a JSON document

## Main definitions

* `Break` — why a text stops being JSON: it ends too early, or it is malformed.
* `Found` — the shape of a value met where another was expected.
* `Mismatch` — a well-formed value that is not of the expected form.
* `ReadError` — a break or a mismatch.
-/

namespace VideoPosters.Json

/-- Why a text stops being a JSON document. -/
inductive Break where
  /-- The text ends before the document does. -/
  | ended
  /-- The text goes on as no document could. -/
  | malformed
  deriving DecidableEq, Repr

/-- The shape of a value met where another was expected. -/
inductive Found where
  | null
  | bool (b : Bool)
  | int (n : Int)
  | real (x : Decimal.Binary64)
  | text (s : String)
  | sequence
  | map
  deriving DecidableEq, Repr

/-- The words for a shape. -/
def Found.describe : Found → String
  | .null => "null"
  | .bool true => "boolean `true`"
  | .bool false => "boolean `false`"
  | .int n => String.ofList ("integer `".toList ++ renderInt n ++ "`".toList)
  | .real x => String.ofList ("floating point `".toList ++ Decimal.render x ++ "`".toList)
  | .text s => String.ofList ("string ".toList ++ Text.quote s.toList)
  | .sequence => "sequence"
  | .map => "map"

/-- A well-formed value that is not of the expected form. -/
inductive Mismatch where
  | missingField (name : String)
  | duplicateField (name : String)
  | wrongType (found : Found) (expected : String)
  | outOfRange (n : Int) (expected : String)
  | wrongLength (length : Nat) (expected : String)
  | unknownVariant (name : String) (expected : List String)
  deriving DecidableEq, Repr

/-- The names of the variants, as an error lists them. -/
def describeVariants : List String → String
  | [] => "there are no variants"
  | [a] => "expected `" ++ a ++ "`"
  | [a, b] => "expected `" ++ a ++ "` or `" ++ b ++ "`"
  | names => "expected one of " ++ String.intercalate ", " (names.map fun a => "`" ++ a ++ "`")

/-- The text of a mismatch. -/
def Mismatch.message : Mismatch → String
  | .missingField name => "missing field `" ++ name ++ "`"
  | .duplicateField name => "duplicate field `" ++ name ++ "`"
  | .wrongType found expected => "invalid type: " ++ found.describe ++ ", expected " ++ expected
  | .outOfRange n expected =>
    "invalid value: integer `" ++ String.ofList (renderInt n) ++ "`, expected " ++ expected
  | .wrongLength length expected =>
    "invalid length " ++ String.ofList (Decimal.numeral length) ++ ", expected " ++ expected
  | .unknownVariant name expected =>
    "unknown variant `" ++ name ++ "`, " ++ describeVariants expected

/-- Why a document cannot be read. -/
inductive ReadError where
  | broken (b : Break)
  | mismatch (m : Mismatch)
  deriving DecidableEq, Repr

end VideoPosters.Json
