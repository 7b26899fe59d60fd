/-!
# JSON Values

The JSON values that structured columns and settings files hold.

Integers are kept apart from other numbers, because a 64-bit key must survive a
write and a read. The members of an object are kept in the order of their keys,
each key once, so two objects with the same members are the same value.

## Main definitions

* `Number`: An integer or a floating-point number.
* `Json`: A JSON value.
* `Json.get?`: Looking a key up among members.
* `Json.put`: Setting a key among members.
* `Json.ofPairs`: Members from pairs in any order; the last of equal keys wins.

## Theorems

* `Json.get?_put_self`: A key that was just set is found.
* `Json.get?_put_ne`: Setting one key leaves the others.
-/

namespace SqlMapper

/-- A JSON number: an integer between `-2 ^ 63` and `2 ^ 64`, or any other number as a
    floating-point number. -/
inductive Number where
  /-- An integer. -/
  | int (n : Int)
  /-- Any other number. -/
  | float (x : Float)
  deriving DecidableEq

/-- A JSON value. -/
inductive Json where
  /-- The value `null`. -/
  | null
  /-- A truth value. -/
  | bool (b : Bool)
  /-- A number. -/
  | number (n : Number)
  /-- A text. -/
  | string (s : String)
  /-- A list of values. -/
  | array (items : List Json)
  /-- Values under keys, in the order of the keys. -/
  | object (members : List (String × Json))

namespace Json

/-- The value under a key. -/
def get? (key : String) : List (String × Json) → Option Json
  | [] => none
  | (k, v) :: rest => if k = key then some v else get? key rest

/-- Members with a key set, in the place its order demands. -/
def put (key : String) (value : Json) : List (String × Json) → List (String × Json)
  | [] => [(key, value)]
  | (k, v) :: rest =>
    if key = k then (key, value) :: rest
    else if key < k then (key, value) :: (k, v) :: rest
    else (k, v) :: put key value rest

/-- Members from pairs in any order; of equal keys the last wins. -/
def ofPairs (pairs : List (String × Json)) : List (String × Json) :=
  pairs.foldl (fun members p => put p.1 p.2 members) []

/-- Whether this is `null`. -/
def isNull : Json → Bool
  | .null => true
  | _ => false

theorem get?_put_self (key : String) (value : Json) (members : List (String × Json)) :
    get? key (put key value members) = some value := by
  induction members with
  | nil => simp [put, get?]
  | cons m rest ih =>
      by_cases hk : key = m.1
      · simp [put, get?, hk]
      · by_cases hlt : key < m.1
        · simp [put, get?, hk, hlt]
        · have hk' : ¬ m.1 = key := fun h => hk h.symm
          simp [put, get?, hk, hlt, hk', ih]

theorem get?_put_ne {key other : String} (h : other ≠ key) (value : Json)
    (members : List (String × Json)) :
    get? other (put key value members) = get? other members := by
  have h' : ¬ key = other := fun e => h e.symm
  induction members with
  | nil => simp [put, get?, h']
  | cons m rest ih =>
      by_cases hk : key = m.1
      · have hm : ¬ m.1 = other := fun e => h' (hk.trans e)
        simp [put, get?, hk, hm]
      · by_cases hlt : key < m.1
        · simp [put, get?, hk, hlt, h']
        · simp [put, get?, hk, hlt, ih]

end Json

end SqlMapper
