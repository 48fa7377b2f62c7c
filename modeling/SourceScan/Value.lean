import SourceScan.Text.Literal

/-! # Loose values

Descriptions of comment styles and settings come as values whose shape nobody has checked
yet: nothing, truth values, numbers, texts, lists, and objects with their keys in order.
-/

namespace SourceScan

/-- A value of unchecked shape. -/
inductive Value where
  | null
  | bool (value : Bool)
  | int (value : Int)
  /-- A number that is no integer: the mantissa with its last so many digits behind the point. -/
  | decimal (mantissa : Int) (places : Nat)
  | text (value : Text)
  | list (items : List Value)
  | object (fields : List (Text × Value))
deriving Inhabited

namespace Value

/-- The number that a value counts as; a truth value counts as zero or one. -/
def number? : Value → Option (Int × Nat)
  | .bool value => some (if value then 1 else 0, 0)
  | .int value => some (value, 0)
  | .decimal mantissa places => some (mantissa, places)
  | _ => none

mutual

/-- Whether two values are the same: numbers by what they count as, all else by shape. -/
def same : Value → Value → Bool
  | .null, .null => true
  | .text left, .text right => left == right
  | .list left, .list right => sameItems left right
  | .object left, .object right => sameFields left right
  | left, right =>
      match left.number?, right.number? with
      | some x, some y => x == y
      | _, _ => false

/-- Whether two lists hold the same values in the same order. -/
def sameItems : List Value → List Value → Bool
  | [], [] => true
  | left :: lefts, right :: rights => same left right && sameItems lefts rights
  | _, _ => false

/-- Whether two objects have the same keys with the same values in the same order. -/
def sameFields : List (Text × Value) → List (Text × Value) → Bool
  | [], [] => true
  | (key, left) :: lefts, (other, right) :: rights =>
      key == other && same left right && sameFields lefts rights
  | _, _ => false

end

instance : BEq Value := ⟨same⟩

def decimalLiteral (mantissa : Int) (places : Nat) : String :=
  let digits := Nat.toDigits 10 mantissa.natAbs
  let padded := List.replicate (places + 1 - digits.length) '0' ++ digits
  let whole := padded.take (padded.length - places)
  (if mantissa < 0 then "-" else "") ++ String.ofList whole ++ "."
    ++ String.ofList (padded.drop (padded.length - places))

def commaSeparated (parts : List String) : String := ", ".intercalate parts

/-- Parts in parentheses; a comma tells a single part from one in mere parentheses. -/
def tupleLiteral (parts : List String) : String :=
  match parts with
  | [part] => "(" ++ part ++ ",)"
  | _ => "(" ++ commaSeparated parts ++ ")"

mutual

/-- A value as messages show it. -/
def literal : Value → String
  | .null => "None"
  | .bool true => "True"
  | .bool false => "False"
  | .int value => toString value
  | .decimal mantissa places => decimalLiteral mantissa places
  | .text value => value.literal
  | .list items => "[" ++ commaSeparated (itemLiterals items) ++ "]"
  | .object fields => "\x7b" ++ commaSeparated (fieldLiterals fields) ++ "\x7d"

def itemLiterals : List Value → List String
  | [] => []
  | item :: items => literal item :: itemLiterals items

def fieldLiterals : List (Text × Value) → List String
  | [] => []
  | (key, value) :: fields => (key.literal ++ ": " ++ literal value) :: fieldLiterals fields

end

/-- The literal of a text that may be missing. -/
def optionalLiteral : Option String → String
  | none => "None"
  | some value => Text.literal value.toList

end Value

end SourceScan
