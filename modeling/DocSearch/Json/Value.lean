import DocSearch.Number.Binary64

/-!
# JSON values

A value keeps what a reader of its text could tell apart: the order of object members, and whether
a number was written as an integer or as a double. Integers are those of 64 bits, signed or
unsigned; a double is finite by its type. Whether object keys are distinct is a predicate, since
the constructors cannot enforce it; every operation here keeps it.
-/
namespace DocSearch

namespace Json

/-- Whether an integer is one of 64 bits, signed or unsigned. -/
abbrev IsWord (n : Int) : Prop := -0x8000000000000000 ≤ n ∧ n < 0x10000000000000000

/-- A number: an integer of 64 bits, signed or unsigned, or a finite double. -/
inductive Number where
  | integer (value : Int) (inRange : IsWord value)
  | double (value : Finite64)
  deriving DecidableEq, Repr

end Json

/-- A JSON value. -/
inductive Json where
  | null
  | bool (value : Bool)
  | number (value : Json.Number)
  | string (value : String)
  | array (items : List Json)
  | object (members : List (String × Json))
  deriving Repr, Inhabited

namespace Json

/-- The members of an object, in order. -/
abbrev Members := List (String × Json)

mutual

/-- Equality of values is decided member by member, in order. -/
def decideEq : (a b : Json) → Decidable (a = b)
  | .null, .null => .isTrue rfl
  | .bool a, .bool b =>
    if h : a = b then .isTrue (h ▸ rfl) else .isFalse fun e => h (Json.bool.inj e)
  | .number a, .number b =>
    if h : a = b then .isTrue (h ▸ rfl) else .isFalse fun e => h (Json.number.inj e)
  | .string a, .string b =>
    if h : a = b then .isTrue (h ▸ rfl) else .isFalse fun e => h (Json.string.inj e)
  | .array a, .array b =>
    match decideItemsEq a b with
    | .isTrue h => .isTrue (h ▸ rfl)
    | .isFalse h => .isFalse fun e => h (Json.array.inj e)
  | .object a, .object b =>
    match decideMembersEq a b with
    | .isTrue h => .isTrue (h ▸ rfl)
    | .isFalse h => .isFalse fun e => h (Json.object.inj e)
  | .null, .bool _ | .null, .number _ | .null, .string _ | .null, .array _ | .null, .object _
  | .bool _, .null | .bool _, .number _ | .bool _, .string _ | .bool _, .array _
  | .bool _, .object _
  | .number _, .null | .number _, .bool _ | .number _, .string _ | .number _, .array _
  | .number _, .object _
  | .string _, .null | .string _, .bool _ | .string _, .number _ | .string _, .array _
  | .string _, .object _
  | .array _, .null | .array _, .bool _ | .array _, .number _ | .array _, .string _
  | .array _, .object _
  | .object _, .null | .object _, .bool _ | .object _, .number _ | .object _, .string _
  | .object _, .array _ => .isFalse nofun

def decideItemsEq : (a b : List Json) → Decidable (a = b)
  | [], [] => .isTrue rfl
  | [], _ :: _ => .isFalse nofun
  | _ :: _, [] => .isFalse nofun
  | x :: xs, y :: ys =>
    match decideEq x y with
    | .isFalse h => .isFalse fun e => h (List.cons.inj e).1
    | .isTrue h =>
      match decideItemsEq xs ys with
      | .isFalse h' => .isFalse fun e => h' (List.cons.inj e).2
      | .isTrue h' => .isTrue (h ▸ h' ▸ rfl)

def decideMembersEq : (a b : List (String × Json)) → Decidable (a = b)
  | [], [] => .isTrue rfl
  | [], _ :: _ => .isFalse nofun
  | _ :: _, [] => .isFalse nofun
  | (k, x) :: xs, (l, y) :: ys =>
    if hk : k = l then
      match decideEq x y with
      | .isFalse h => .isFalse fun e => h (Prod.mk.inj (List.cons.inj e).1).2
      | .isTrue h =>
        match decideMembersEq xs ys with
        | .isFalse h' => .isFalse fun e => h' (List.cons.inj e).2
        | .isTrue h' => .isTrue (hk ▸ h ▸ h' ▸ rfl)
    else .isFalse fun e => hk (Prod.mk.inj (List.cons.inj e).1).1

end

instance : DecidableEq Json := decideEq

namespace Number

def ofUInt64 (n : UInt64) : Number :=
  .integer n.toNat ⟨by omega, by have := n.toNat_lt; omega⟩

/-- The integer, if it is one of 64 bits. -/
def ofInt? (n : Int) : Option Number :=
  if h : IsWord n then some (.integer n h) else none

/-- The number as an unsigned integer of 64 bits. A double never is one. -/
def toUInt64? : Number → Option UInt64
  | .integer n _ => if 0 ≤ n then some (UInt64.ofNat n.toNat) else none
  | .double _ => none

/-- The nearest binary64 number. -/
def toBinary64 : Number → Binary64
  | .integer n _ => .ofInt n
  | .double x => .finite x

end Number

def ofUInt64 (n : UInt64) : Json := .number (.ofUInt64 n)

/-- A binary64 number as a value; JSON has no text for the others, and they become `null`. -/
def ofBinary64 : Binary64 → Json
  | .finite x => .number (.double x)
  | .nan | .infinite _ => .null

def isNull : Json → Bool
  | .null => true
  | _ => false

def toBool? : Json → Option Bool
  | .bool b => some b
  | _ => none

def toString? : Json → Option String
  | .string s => some s
  | _ => none

def toUInt64? : Json → Option UInt64
  | .number n => n.toUInt64?
  | _ => none

namespace Members

/-- The value of the first member with the given key. -/
def find? (key : String) : Members → Option Json
  | [] => none
  | (k, v) :: rest => if k = key then some v else find? key rest

/-- Sets a member: in place if the key is there, at the end if not. -/
def insert (key : String) (value : Json) : Members → Members
  | [] => [(key, value)]
  | (k, v) :: rest => if k = key then (k, value) :: rest else (k, v) :: insert key value rest

def keys (members : Members) : List String := members.map Prod.fst

theorem find?_insert_self (key : String) (value : Json) (members : Members) :
    find? key (insert key value members) = some value := by
  induction members with
  | nil => simp [insert, find?]
  | cons m rest ih =>
    obtain ⟨k, v⟩ := m
    by_cases h : k = key <;> simp [insert, find?, h, ih]

theorem find?_insert_of_ne {key other : String} (value : Json) (members : Members)
    (h : key ≠ other) : find? other (insert key value members) = find? other members := by
  induction members with
  | nil => simp [insert, find?, h]
  | cons m rest ih =>
    obtain ⟨k, v⟩ := m
    by_cases hk : k = key
    · subst hk; simp [insert, find?, h]
    · simp [insert, find?, hk, ih]

/-- Setting a member keeps the keys where they are, and adds at most its own at the end. -/
theorem keys_insert (key : String) (value : Json) (members : Members) :
    keys (insert key value members)
      = if key ∈ keys members then keys members else keys members ++ [key] := by
  induction members with
  | nil => simp [insert, keys]
  | cons m rest ih =>
    obtain ⟨k, v⟩ := m
    by_cases hk : k = key
    · simp [insert, keys, hk]
    · have hk' : ¬ key = k := fun e => hk e.symm
      simp only [keys] at ih
      by_cases hm : key ∈ rest.map Prod.fst <;> simp_all [insert, keys]

end Members

/-- The member of an object; other values have none. -/
def member? (key : String) : Json → Option Json
  | .object members => Members.find? key members
  | _ => none

mutual

/-- In every object of the value no key stands twice. -/
def DistinctKeys : Json → Prop
  | .null | .bool _ | .number _ | .string _ => True
  | .array items => itemsDistinctKeys items
  | .object members => (Members.keys members).Nodup ∧ membersDistinctKeys members

def itemsDistinctKeys : List Json → Prop
  | [] => True
  | v :: rest => v.DistinctKeys ∧ itemsDistinctKeys rest

def membersDistinctKeys : List (String × Json) → Prop
  | [] => True
  | (_, v) :: rest => v.DistinctKeys ∧ membersDistinctKeys rest

end

end Json
end DocSearch
