import PropertyGate.Decimal.Double
import PropertyGate.TextMap.Basic

/-!
# Json/Value — JSON documents

A number is an integer where its text is one that fits 64 bits, and a double otherwise. The members
of an object are entries in ascending key order wherever a document was read; documents that the
program writes may list them in another order. `Value.Canonical` says that a document is in the form
that reading gives.
-/

namespace PropertyGate.Json

/-- A number: a whole one of at most 64 bits, or a double. -/
inductive Number where
  | integer (value : Int)
  | double (value : Double)
deriving DecidableEq, Repr

/-- **A JSON document.** -/
inductive Value where
  | null
  | bool (value : Bool)
  | number (value : Number)
  | text (value : String)
  | array (items : List Value)
  | object (members : List (String × Value))
deriving Repr

instance : Inhabited Value := ⟨.null⟩

/-- The integers that a document keeps as integers. -/
def Number.IsInteger64 : Number → Prop
  | .integer n => -9223372036854775808 ≤ n ∧ n < 18446744073709551616
  | .double _ => False

/-- Numbers that compare equal: integers and doubles are never equal, the two zeros always. -/
def Number.same : Number → Number → Bool
  | .integer a, .integer b => a = b
  | .double a, .double b => a.sameNumber b
  | _, _ => false

namespace Value

mutual

/-- Whether two documents are the same, their numbers compared by value. -/
def same : Value → Value → Bool
  | .null, .null => true
  | .bool a, .bool b => a == b
  | .number a, .number b => a.same b
  | .text a, .text b => a == b
  | .array a, .array b => sameItems a b
  | .object a, .object b => sameMembers a b
  | _, _ => false

def sameItems : List Value → List Value → Bool
  | [], [] => true
  | a :: as, b :: bs => same a b && sameItems as bs
  | _, _ => false

def sameMembers : List (String × Value) → List (String × Value) → Bool
  | [], [] => true
  | (k, a) :: as, (l, b) :: bs => k == l && same a b && sameMembers as bs
  | _, _ => false

end

mutual

/-- The number of arrays and objects that nest, the document itself included. -/
def depth : Value → Nat
  | .array items => itemsDepth items + 1
  | .object members => membersDepth members + 1
  | _ => 0

def itemsDepth : List Value → Nat
  | [] => 0
  | item :: rest => max (depth item) (itemsDepth rest)

def membersDepth : List (String × Value) → Nat
  | [] => 0
  | (_, value) :: rest => max (depth value) (membersDepth rest)

end

mutual

/-- **The form that reading gives**: the members of every object have ascending keys, and every
integer fits 64 bits. -/
def Canonical : Value → Prop
  | .number (.integer n) => (Number.integer n).IsInteger64
  | .array items => ItemsCanonical items
  | .object members => Entries.Ascending members ∧ MembersCanonical members
  | _ => True

def ItemsCanonical : List Value → Prop
  | [] => True
  | item :: rest => Canonical item ∧ ItemsCanonical rest

def MembersCanonical : List (String × Value) → Prop
  | [] => True
  | (_, value) :: rest => Canonical value ∧ MembersCanonical rest

end

end Value

end PropertyGate.Json
