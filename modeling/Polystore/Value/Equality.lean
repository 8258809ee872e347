import Polystore.Value

/-!
Equality of values. Numbers are equal when they stand for the same quantity, whatever their type;
lists are compared item by item and objects member by member, in any order. `same` is reflexive
also at values that are not a number, `equals` is not.
-/

namespace Polystore

/-- What a number stands for. -/
inductive Quantity where
  | exact (d : Dyadic)
  | infinite (negative : Bool)
  | undefined
  deriving DecidableEq

namespace Value

def quantity? : Value → Option Quantity
  | bool b => some (.exact (if b then 1 else 0))
  | int i => some (.exact (.ofInt i))
  | float x =>
    match x, x.toDyadic? with
    | _, some d => some (.exact d)
    | .infinite negative, none => some (.infinite negative)
    | _, none => some .undefined
  | _ => none

mutual

/-- Whether two values count as one wherever values are looked up. -/
def same : Value → Value → Bool
  | null, null => true
  | text s, text t => s == t
  | octets a, octets b => a == b
  | list xs, list ys => sameItems xs ys
  | object xs, object ys => xs.length == ys.length && sameMembers xs ys
  | bool b, y => sameQuantity (bool b) y
  | int i, y => sameQuantity (int i) y
  | float x, y => sameQuantity (float x) y
  | _, _ => false
where
  sameQuantity (x y : Value) : Bool :=
    match x.quantity?, y.quantity? with
    | some p, some q => p == q
    | _, _ => false

def sameItems : List Value → List Value → Bool
  | [], [] => true
  | x :: xs, y :: ys => same x y && sameItems xs ys
  | _, _ => false

/-- Whether every member has one of the same name and value among others. -/
def sameMembers : List (String × Value) → List (String × Value) → Bool
  | [], _ => true
  | (name, x) :: xs, ys =>
    (match ys.lookup name with
      | some y => same x y
      | none => false)
      && sameMembers xs ys

end

instance : BEq Value := ⟨same⟩

def isUndefined : Value → Bool
  | float .nan => true
  | _ => false

/-- Whether two values compare as equal: as `same`, but no value that is not a number is equal
to anything. -/
def equals (x y : Value) : Bool := !x.isUndefined && same x y

/-- Whether a value is among others. -/
def isAmong (x : Value) (values : List Value) : Bool := values.any (same · x)

/-- The values that are not the same as an earlier one. -/
def distinct (values : List Value) : List Value :=
  values.foldl (fun kept x => if x.isAmong kept then kept else kept ++ [x]) []

end Value

end Polystore
