import WatchRelay.Decimal.Double

/-! JSON values: numbers are integers or doubles, and an object holds each key once, in order. -/

namespace WatchRelay

/-- A number of a JSON value. -/
inductive Number where
  | integer (value : Int)
  | double (value : Double)
deriving DecidableEq, Repr, Inhabited

/-- A JSON value. -/
inductive Json where
  | null
  | bool (value : Bool)
  | number (value : Number)
  | string (text : String)
  | array (items : List Json)
  | object (members : List (String × Json))
deriving Repr, Inhabited

namespace Json

mutual

/-- Whether two values are the same. -/
def decEq : (a b : Json) → Decidable (a = b)
  | .null, b => match b with
    | .null => isTrue rfl
    | .bool _ | .number _ | .string _ | .array _ | .object _ => isFalse (by simp)
  | .bool x, b => match b with
    | .bool y => decidable_of_iff (x = y) (by simp)
    | .null | .number _ | .string _ | .array _ | .object _ => isFalse (by simp)
  | .number x, b => match b with
    | .number y => decidable_of_iff (x = y) (by simp)
    | .null | .bool _ | .string _ | .array _ | .object _ => isFalse (by simp)
  | .string x, b => match b with
    | .string y => decidable_of_iff (x = y) (by simp)
    | .null | .bool _ | .number _ | .array _ | .object _ => isFalse (by simp)
  | .array xs, b => match b with
    | .array ys => have := decEqItems xs ys; decidable_of_iff (xs = ys) (by simp)
    | .null | .bool _ | .number _ | .string _ | .object _ => isFalse (by simp)
  | .object xs, b => match b with
    | .object ys => have := decEqMembers xs ys; decidable_of_iff (xs = ys) (by simp)
    | .null | .bool _ | .number _ | .string _ | .array _ => isFalse (by simp)

/-- Whether two lists of values are the same. -/
def decEqItems : (xs ys : List Json) → Decidable (xs = ys)
  | [], [] => isTrue rfl
  | [], _ :: _ => isFalse (by simp)
  | _ :: _, [] => isFalse (by simp)
  | x :: xs, y :: ys =>
    have := decEq x y
    have := decEqItems xs ys
    decidable_of_iff (x = y ∧ xs = ys) (by simp)

/-- Whether two lists of members are the same. -/
def decEqMembers : (xs ys : List (String × Json)) → Decidable (xs = ys)
  | [], [] => isTrue rfl
  | [], _ :: _ => isFalse (by simp)
  | _ :: _, [] => isFalse (by simp)
  | (k, x) :: xs, (l, y) :: ys =>
    have := decEq x y
    have := decEqMembers xs ys
    decidable_of_iff ((k = l ∧ x = y) ∧ xs = ys) (by simp)

end

instance : DecidableEq Json := decEq

/-- Whether the value is `null`. -/
def isNull : Json → Bool
  | .null => true
  | _ => false

/-- The text of a string value. -/
def asString? : Json → Option String
  | .string s => some s
  | _ => none

end Json

/-- Members of an object in the order of their keys, which is the order of their UTF-8 bytes. -/
abbrev Members := List (String × Json)

namespace Members

/-- The value under a key. -/
def find? (key : String) : Members → Option Json
  | [] => none
  | (k, v) :: rest => if k = key then some v else find? key rest

/-- The members with a key set to a value. -/
def insert (key : String) (value : Json) : Members → Members
  | [] => [(key, value)]
  | (k, v) :: rest =>
    if k = key then (key, value) :: rest
    else if key < k then (key, value) :: (k, v) :: rest
    else (k, v) :: insert key value rest

/-- The members without a key. -/
def erase (key : String) : Members → Members
  | [] => []
  | (k, v) :: rest => if k = key then rest else (k, v) :: erase key rest

/-- The members given in any order; of a repeated key the last value stays. -/
def ofList (members : List (String × Json)) : Members :=
  members.foldl (fun m (k, v) => insert k v m) []

/-- What is put under a key is found there. -/
@[simp] theorem find?_insert_self (key : String) (value : Json) (m : Members) :
    find? key (insert key value m) = some value := by
  induction m with
  | nil => simp [insert, find?]
  | cons member rest ih =>
    simp only [insert]
    split
    -- The key is there already, and its value is replaced.
    · simp [find?]
    · split
      -- The key comes before all that are there.
      · simp [find?]
      -- The key belongs behind a member with another key.
      · next differ _ => simp [find?, differ, ih]

/-- What is put under a key changes nothing under another. -/
theorem find?_insert_of_ne {key other : String} (differ : key ≠ other) (value : Json)
    (m : Members) :
    find? other (insert key value m) = find? other m := by
  induction m with
  | nil => simp [insert, find?, differ]
  | cons member rest ih =>
    simp only [insert]
    split
    -- The replaced member is not the one that is looked for.
    · next same => simp [find?, differ, same]
    · split
      · simp [find?, differ]
      · simp [find?, ih]

end Members

end WatchRelay
