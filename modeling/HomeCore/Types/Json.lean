import Mathlib

/-! JSON values as serde_json keeps them: integers and floats are distinct
numbers, and an object holds each key once in key order. Floats are the finite
doubles, so a rational value determines one up to the sign of zero, which no
comparison sees. -/
namespace HomeCore

/-- `serde_json::Number`: `u64`, negative `i64`, or a finite `f64`. -/
inductive Number where
  | posInt (n : Nat)
  | negInt (n : Int)
  | float (q : Rat)
  deriving DecidableEq, Repr

inductive Json where
  | null
  | bool (b : Bool)
  | num (n : Number)
  | str (s : String)
  | arr (items : List Json)
  | obj (fields : List (String × Json))
  deriving Repr

abbrev AttrMap := Std.ExtTreeMap String Json

namespace Number

/-- A natural number as the nearest double, ties to the even significand. -/
def roundNat (n : Nat) : Nat :=
  let unit := 2 ^ (Nat.log2 n - 52)
  let low := n / unit
  let rest := n % unit
  if 2 * rest < unit then low * unit
  else if unit < 2 * rest then (low + 1) * unit
  else (low + low % 2) * unit

def asF64 : Number → Rat
  | .posInt n => roundNat n
  | .negInt n => -(roundNat n.natAbs : Rat)
  | .float q => q

def asU64 : Number → Option Nat
  | .posInt n => some n
  | _ => none

end Number

namespace Json

mutual

/-- Structural comparison, which is serde_json's on canonical objects. -/
def same : Json → Json → Bool
  | .null, .null => true
  | .bool a, .bool b => a == b
  | .num a, .num b => a == b
  | .str a, .str b => a == b
  | .arr as, .arr bs => sameItems as bs
  | .obj as, .obj bs => sameFields as bs
  | _, _ => false

def sameItems : List Json → List Json → Bool
  | [], [] => true
  | a :: as, b :: bs => same a b && sameItems as bs
  | _, _ => false

def sameFields : List (String × Json) → List (String × Json) → Bool
  | [], [] => true
  | (k, a) :: as, (l, b) :: bs => k == l && same a b && sameFields as bs
  | _, _ => false

end

mutual

theorem same_iff : ∀ a b : Json, same a b = true ↔ a = b
  | .null, b => by cases b <;> simp [same]
  | .bool x, b => by cases b <;> simp [same]
  | .num x, b => by cases b <;> simp [same]
  | .str x, b => by cases b <;> simp [same]
  | .arr as, b => by cases b <;> simp [same, sameItems_iff as]
  | .obj as, b => by cases b <;> simp [same, sameFields_iff as]

theorem sameItems_iff : ∀ as bs : List Json, sameItems as bs = true ↔ as = bs
  | [], bs => by cases bs <;> simp [sameItems]
  | a :: as, bs => by
    cases bs with
    | nil => simp [sameItems]
    | cons b bs => simp [sameItems, same_iff a b, sameItems_iff as bs]

theorem sameFields_iff : ∀ as bs : List (String × Json), sameFields as bs = true ↔ as = bs
  | [], bs => by cases bs <;> simp [sameFields]
  | (k, a) :: as, bs => by
    cases bs with
    | nil => simp [sameFields]
    | cons b bs =>
      obtain ⟨l, b⟩ := b
      simp [sameFields, same_iff a b, sameFields_iff as bs]

end

instance : DecidableEq Json := fun a b => decidable_of_iff _ (same_iff a b)

def asObject : Json → Option AttrMap
  | .obj fields => some (Std.ExtTreeMap.ofList fields)
  | _ => none

def asStr : Json → Option String
  | .str s => some s
  | _ => none

def asBool : Json → Option Bool
  | .bool b => some b
  | _ => none

def asF64 : Json → Option Rat
  | .num n => some n.asF64
  | _ => none

def asU64 : Json → Option Nat
  | .num n => n.asU64
  | _ => none

/-- `Value::get` with a string index. -/
def get (value : Json) (key : String) : Option Json :=
  value.asObject.bind (·[key]?)

end Json
end HomeCore
