import ToolRelay.Decimal.Shortest

/-!
# JSON values

A JSON value keeps integers apart from floats. The members of an object are a list ordered by key,
each key once; `Json.insert` keeps that order and lets the last write win. `Json.WellFormed` says
that a value has this order everywhere and that its integers fit a 64-bit word, signed or not.
-/

namespace ToolRelay

/-- A JSON value. -/
inductive Json where
  /-- The value `null`. -/
  | null
  /-- A truth value. -/
  | bool (b : Bool)
  /-- A number written without point or exponent that fits a 64-bit word. -/
  | int (n : Int)
  /-- Any other number. -/
  | float (x : Double)
  /-- A text. -/
  | str (s : String)
  /-- A sequence. -/
  | arr (items : List Json)
  /-- Members in the order of their keys. -/
  | obj (members : List (String × Json))
  deriving Repr, Inhabited

namespace Json

mutual

/-- Whether two values are equal. -/
def decEq : (a b : Json) → Decidable (a = b)
  | .null, b => by
    cases b with
    | null => exact isTrue rfl
    | _ => exact isFalse nofun
  | .bool a, b => by
    cases b with
    | bool b => exact decidable_of_iff (a = b) (by simp)
    | _ => exact isFalse nofun
  | .int a, b => by
    cases b with
    | int b => exact decidable_of_iff (a = b) (by simp)
    | _ => exact isFalse nofun
  | .float a, b => by
    cases b with
    | float b => exact decidable_of_iff (a = b) (by simp)
    | _ => exact isFalse nofun
  | .str a, b => by
    cases b with
    | str b => exact decidable_of_iff (a = b) (by simp)
    | _ => exact isFalse nofun
  | .arr a, b => by
    cases b with
    | arr b => exact @decidable_of_iff _ (a = b) (by simp) (decEqItems a b)
    | _ => exact isFalse nofun
  | .obj a, b => by
    cases b with
    | obj b => exact @decidable_of_iff _ (a = b) (by simp) (decEqMembers a b)
    | _ => exact isFalse nofun

/-- Whether two sequences are equal. -/
def decEqItems : (a b : List Json) → Decidable (a = b)
  | [], [] => isTrue rfl
  | [], _ :: _ => isFalse nofun
  | _ :: _, [] => isFalse nofun
  | a :: as, b :: bs =>
    have := decEq a b
    have := decEqItems as bs
    decidable_of_iff (a = b ∧ as = bs) (by simp)

/-- Whether two lists of members are equal. -/
def decEqMembers : (a b : List (String × Json)) → Decidable (a = b)
  | [], [] => isTrue rfl
  | [], _ :: _ => isFalse nofun
  | _ :: _, [] => isFalse nofun
  | (k, a) :: as, (l, b) :: bs =>
    have := decEq a b
    have := decEqMembers as bs
    decidable_of_iff (k = l ∧ a = b ∧ as = bs) (by simp [and_assoc])

end

instance : DecidableEq Json := decEq

/-- The integers that JSON text keeps exact. -/
def IntInRange (n : Int) : Prop :=
  Int64.minValue.toInt ≤ n ∧ n < UInt64.size

instance (n : Int) : Decidable (IntInRange n) := inferInstanceAs (Decidable (_ ∧ _))

/-- Put a member among ordered ones; a member of the same key is replaced. -/
def insertMember (k : String) (v : Json) : List (String × Json) → List (String × Json)
  | [] => [(k, v)]
  | (k', v') :: rest =>
    if k < k' then (k, v) :: (k', v') :: rest
    else if k = k' then (k, v) :: rest
    else (k', v') :: insertMember k v rest

/-- The member of a key. -/
def findMember (k : String) : List (String × Json) → Option Json
  | [] => none
  | (k', v) :: rest => if k = k' then some v else findMember k rest

/-- An object from members in any order; of equal keys the last wins. -/
def ofMembers (members : List (String × Json)) : Json :=
  .obj (members.foldl (fun acc m => insertMember m.1 m.2 acc) [])

/-- The member of a key, when the value is an object that has it. -/
def get? (v : Json) (k : String) : Option Json :=
  match v with
  | .obj members => findMember k members
  | _ => none

/-- An object has a member of this key. -/
def hasMember (v : Json) (k : String) : Bool :=
  (v.get? k).isSome

/-- The text, when the value is one. -/
def asString? : Json → Option String
  | .str s => some s
  | _ => none

/-- The truth value, when the value is one. -/
def asBool? : Json → Option Bool
  | .bool b => some b
  | _ => none

/-- The items, when the value is a sequence. -/
def asArray? : Json → Option (List Json)
  | .arr items => some items
  | _ => none

/-- The unsigned 64-bit integer, when the value is one. -/
def asUInt64? : Json → Option UInt64
  | .int n => if 0 ≤ n ∧ n < UInt64.size then some (UInt64.ofNat n.toNat) else none
  | _ => none

/-- The signed 64-bit integer, when the value is one. -/
def asInt64? : Json → Option Int64
  | .int n =>
    if Int64.minValue.toInt ≤ n ∧ n ≤ Int64.maxValue.toInt then some (Int64.ofInt n) else none
  | _ => none

/-- The value is an object. -/
def isObject : Json → Bool
  | .obj _ => true
  | _ => false

/-- The number of an unsigned word. -/
def ofUInt64 (n : UInt64) : Json := .int n.toNat

/-- The object without members. -/
def emptyObject : Json := .obj []

mutual

/-- Ordered members everywhere, and integers that fit a 64-bit word. -/
def wellFormed : Json → Bool
  | .null | .bool _ | .float _ | .str _ => true
  | .int n => decide (IntInRange n)
  | .arr items => wellFormedItems items
  | .obj members => wellFormedMembers members

/-- Every item is well formed. -/
def wellFormedItems : List Json → Bool
  | [] => true
  | v :: rest => wellFormed v && wellFormedItems rest

/-- Every member is well formed and the keys ascend. -/
def wellFormedMembers : List (String × Json) → Bool
  | [] => true
  | (k, v) :: rest =>
    wellFormed v && (rest.head?.all fun m => decide (k < m.1)) && wellFormedMembers rest

end

/-- A value as a reader or a program builds it: keys ascend, integers fit a word. -/
def WellFormed (v : Json) : Prop := v.wellFormed = true

instance (v : Json) : Decidable v.WellFormed := inferInstanceAs (Decidable (_ = true))

mutual

/-- How deep sequences and objects are nested. -/
def depth : Json → Nat
  | .null | .bool _ | .int _ | .float _ | .str _ => 0
  | .arr items => 1 + depthItems items
  | .obj members => 1 + depthMembers members

/-- The deepest item. -/
def depthItems : List Json → Nat
  | [] => 0
  | v :: rest => max (depth v) (depthItems rest)

/-- The deepest member. -/
def depthMembers : List (String × Json) → Nat
  | [] => 0
  | (_, v) :: rest => max (depth v) (depthMembers rest)

end

mutual

/-- No number with a point or an exponent occurs. -/
def floatFree : Json → Bool
  | .null | .bool _ | .int _ | .str _ => true
  | .float _ => false
  | .arr items => floatFreeItems items
  | .obj members => floatFreeMembers members

/-- No item holds a float. -/
def floatFreeItems : List Json → Bool
  | [] => true
  | v :: rest => floatFree v && floatFreeItems rest

/-- No member holds a float. -/
def floatFreeMembers : List (String × Json) → Bool
  | [] => true
  | (_, v) :: rest => floatFree v && floatFreeMembers rest

end

end Json

end ToolRelay
