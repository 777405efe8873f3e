import BoundSql.Json.Basic

/-!
# Equality of JSON values

Two values are the same if they differ at most in the order of object members and in which zero a
double is. An integer is never the same as a double. Keys are assumed to be distinct within an
object, so two objects of equal size are the same once every member of one has an equal
counterpart under its key in the other.
-/

namespace BoundSql

/-- Equality of numbers of the same kind. -/
def Number.same : Number → Number → Bool
  | .integer m, .integer n => m == n
  | .double x, .double y => x.same y
  | _, _ => false

namespace Json

mutual

/-- Equality up to the order of members. -/
def same : Json → Json → Bool
  | .null, .null => true
  | .bool a, .bool b => a == b
  | .number m, .number n => m.same n
  | .text s, .text t => s == t
  | .array xs, .array ys => sameItems xs ys
  | .object xs, .object ys => xs.length == ys.length && sameMembers xs ys
  | _, _ => false

/-- Equality of items, one by one. -/
def sameItems : List Json → List Json → Bool
  | [], [] => true
  | x :: xs, y :: ys => same x y && sameItems xs ys
  | _, _ => false

/-- Whether each of the members has an equal counterpart among `ys`. -/
def sameMembers : List (String × Json) → Members → Bool
  | [], _ => true
  | (key, x) :: xs, ys =>
    (match Members.get? ys key with
      | some y => same x y
      | none => false) && sameMembers xs ys

end

end Json

end BoundSql
