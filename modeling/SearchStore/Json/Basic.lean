import SearchStore.Assoc
import SearchStore.Decimal.Binary64

/-!
# JSON values

Values keep the order of object entries. A number is a natural of 64 bits, a negative integer of 64
bits, or a binary64 number, and the three kinds are told apart: `2` is an integer and `2.0` is not.
`HasUniqueKeys` says of a value that no object in it carries a key twice, which holds of every value
that is read from text.
-/

namespace SearchStore

/-- The numbers of a JSON value. -/
inductive Number where
  /-- An integer from `0` to `2^64 - 1`. -/
  | natural (n : UInt64)
  /-- The integer `-(n + 1)`, from `-2^63` to `-1`. -/
  | negative (n : Fin 0x8000000000000000)
  /-- A finite binary64 number. -/
  | binary (x : Binary64)
deriving DecidableEq, Repr

/-- A JSON value; an object is the list of its entries in order. -/
inductive Json where
  | null
  | bool (b : Bool)
  | number (n : Number)
  | string (s : String)
  | array (items : List Json)
  | object (fields : List (String × Json))
deriving Repr, Inhabited

/-- The entries of an object. -/
abbrev Fields := List (String × Json)

namespace Json

/-! ### Equality -/

mutual
/-- Decides equality of values. -/
def decEq : (a b : Json) → Decidable (a = b)
  | .null, b => by
    cases b with
    | null => exact isTrue rfl
    | _ => exact isFalse nofun
  | .bool x, b => by
    cases b with
    | bool y => exact decidable_of_iff (x = y) (by simp)
    | _ => exact isFalse nofun
  | .number x, b => by
    cases b with
    | number y => exact decidable_of_iff (x = y) (by simp)
    | _ => exact isFalse nofun
  | .string x, b => by
    cases b with
    | string y => exact decidable_of_iff (x = y) (by simp)
    | _ => exact isFalse nofun
  | .array xs, b =>
    match b with
    | .array ys =>
      match decEqItems xs ys with
      | isTrue h => isTrue (by rw [h])
      | isFalse h => isFalse fun e => h (Json.array.inj e)
    | .null | .bool _ | .number _ | .string _ | .object _ => isFalse nofun
  | .object xs, b =>
    match b with
    | .object ys =>
      match decEqFields xs ys with
      | isTrue h => isTrue (by rw [h])
      | isFalse h => isFalse fun e => h (Json.object.inj e)
    | .null | .bool _ | .number _ | .string _ | .array _ => isFalse nofun

/-- Decides equality of item lists. -/
def decEqItems : (xs ys : List Json) → Decidable (xs = ys)
  | [], [] => isTrue rfl
  | [], _ :: _ => isFalse nofun
  | _ :: _, [] => isFalse nofun
  | x :: xs, y :: ys =>
    match decEq x y with
    | isFalse h => isFalse fun e => h (List.cons.inj e).1
    | isTrue h =>
      match decEqItems xs ys with
      | isFalse h' => isFalse fun e => h' (List.cons.inj e).2
      | isTrue h' => isTrue (by rw [h, h'])

/-- Decides equality of entry lists. -/
def decEqFields : (xs ys : List (String × Json)) → Decidable (xs = ys)
  | [], [] => isTrue rfl
  | [], _ :: _ => isFalse nofun
  | _ :: _, [] => isFalse nofun
  | (k, x) :: xs, (l, y) :: ys =>
    if hk : k = l then
      match decEq x y with
      | isFalse h => isFalse fun e => h (Prod.mk.inj (List.cons.inj e).1).2
      | isTrue h =>
        match decEqFields xs ys with
        | isFalse h' => isFalse fun e => h' (List.cons.inj e).2
        | isTrue h' => isTrue (by rw [hk, h, h'])
    else isFalse fun e => hk (Prod.mk.inj (List.cons.inj e).1).1
end

instance : DecidableEq Json := decEq

/-! ### Unique keys -/

mutual
/-- No object in the value carries a key twice. -/
def HasUniqueKeys : Json → Prop
  | .array items => UniqueInItems items
  | .object fields => (Assoc.keys fields).Nodup ∧ UniqueInFields fields
  | .null | .bool _ | .number _ | .string _ => True

/-- `HasUniqueKeys` of every item. -/
def UniqueInItems : List Json → Prop
  | [] => True
  | item :: rest => HasUniqueKeys item ∧ UniqueInItems rest

/-- `HasUniqueKeys` of every value. -/
def UniqueInFields : List (String × Json) → Prop
  | [] => True
  | (_, value) :: rest => HasUniqueKeys value ∧ UniqueInFields rest
end

/-! ### Views -/

/-- The empty object. -/
def empty : Json := .object []

/-- An integer from `0` to `2^64 - 1`. -/
def natural (n : UInt64) : Json := .number (.natural n)

/-- An array of strings. -/
def strings (items : List String) : Json := .array (items.map .string)

/-- A value that may be missing, with `null` for none. -/
def ofOption {α : Type} (toJson : α → Json) : Option α → Json
  | some value => toJson value
  | none => .null

/-- The entries of an object. -/
def asObject? : Json → Option Fields
  | .object fields => some fields
  | _ => none

/-- The items of an array. -/
def asArray? : Json → Option (List Json)
  | .array items => some items
  | _ => none

/-- The text of a string. -/
def asString? : Json → Option String
  | .string s => some s
  | _ => none

/-- A truth value. -/
def asBool? : Json → Option Bool
  | .bool b => some b
  | _ => none

/-- An integer from `0` to `2^64 - 1`; `2.0` is none. -/
def asNatural? : Json → Option UInt64
  | .number (.natural n) => some n
  | _ => none

/-- An integer of either sign. -/
def asInteger? : Json → Option Int
  | .number (.natural n) => some n.toNat
  | .number (.negative n) => some (Int.negSucc n.val)
  | _ => none

/-- A number of any kind, rounded to binary64. -/
def asBinary? : Json → Option Binary64
  | .number (.natural n) => some (Binary64.ofNat n.toNat)
  | .number (.negative n) => some ((Binary64.ofNat (n.val + 1)).withSign true)
  | .number (.binary x) => some x
  | _ => none

/-- The value at a key of an object. -/
def get? (key : String) : Json → Option Json
  | .object fields => Assoc.get? key fields
  | _ => none

/-- The value at a chain of keys. -/
def path? : List String → Json → Option Json
  | [], value => some value
  | key :: rest, value => (value.get? key).bind (path? rest)

theorem path?_single (value : Json) (key : String) : value.path? [key] = value.get? key := by
  rw [path?]
  cases value.get? key <;> rfl

theorem path?_pair (value : Json) (key name : String) :
    value.path? [key, name] = (value.get? key).bind (get? name) := by
  rw [path?]
  cases value.get? key with
  | none => rfl
  | some inner => exact path?_single inner name

/-- The object with `key` set; a value that is no object stays as it is. -/
def set (target : Json) (key : String) (value : Json) : Json :=
  match target with
  | .object fields => .object (Assoc.insert key value fields)
  | other => other

end Json

end SearchStore
