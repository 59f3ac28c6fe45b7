import EchoProbe.Json.Number

/-!
# JSON values

A value is a tree; the members of an object are listed. What a text denotes
is always *canonical*: the members stand in increasing order of their names,
each name once. `Members.insert` keeps that order and lets a later member of
the same name take the place of the earlier one.
-/

namespace EchoProbe.Json

/-- **A JSON value.** -/
inductive Value where
  /-- The value `null`. -/
  | null
  /-- `true` or `false`. -/
  | bool (b : Bool)
  /-- A number, kept by its text. -/
  | number (n : Number)
  /-- A string, without its escapes. -/
  | string (s : String)
  /-- An array. -/
  | array (items : List Value)
  /-- An object: its members in the order in which they are written. -/
  | object (members : List (String × Value))
deriving Inhabited, Repr

/-- The members of an object, or a list of them. -/
abbrev Members := List (String × Value)

namespace Value

mutual

/-- Whether two values are the same, decided member by member. -/
def same : Value → Value → Bool
  | .null, .null => true
  | .bool a, .bool b => a == b
  | .number m, .number n => decide (m = n)
  | .string s, .string t => decide (s = t)
  | .array as, .array bs => sameItems as bs
  | .object ms, .object ns => sameMembers ms ns
  | _, _ => false

/-- Whether two lists of values are the same. -/
def sameItems : List Value → List Value → Bool
  | [], [] => true
  | a :: as, b :: bs => same a b && sameItems as bs
  | _, _ => false

/-- Whether two lists of members are the same. -/
def sameMembers : List (String × Value) → List (String × Value) → Bool
  | [], [] => true
  | m :: ms, n :: ns => decide (m.1 = n.1) && same m.2 n.2 && sameMembers ms ns
  | _, _ => false

end

mutual

/-- The test answers equality. -/
theorem same_iff : (v w : Value) → (same v w = true ↔ v = w)
  | .null, w => by cases w <;> simp [same]
  | .bool a, w => by cases w <;> simp [same]
  | .number a, w => by cases w <;> simp [same]
  | .string a, w => by cases w <;> simp [same]
  | .array as, w => by
    cases w with
    | array bs => simp [same, sameItems_iff as bs]
    | _ => simp [same]
  | .object ms, w => by
    cases w with
    | object ns => simp [same, sameMembers_iff ms ns]
    | _ => simp [same]

/-- The test on lists of values answers equality. -/
theorem sameItems_iff : (as bs : List Value) → (sameItems as bs = true ↔ as = bs)
  | [], bs => by cases bs <;> simp [sameItems]
  | a :: as, bs => by
    cases bs with
    | nil => simp [sameItems]
    | cons b bs => simp [sameItems, same_iff a b, sameItems_iff as bs]

/-- The test on lists of members answers equality. -/
theorem sameMembers_iff : (ms ns : List (String × Value)) →
    (sameMembers ms ns = true ↔ ms = ns)
  | [], ns => by cases ns <;> simp [sameMembers]
  | (k, v) :: ms, ns => by
    cases ns with
    | nil => simp [sameMembers]
    | cons n ns =>
      simp [sameMembers, same_iff v n.2, sameMembers_iff ms ns, Prod.ext_iff]

end

instance : DecidableEq Value := fun v w => decidable_of_iff _ (same_iff v w)

end Value

namespace Members

/-- Put a member into a list that is ordered by name: it takes the place of
a member of the same name, else it goes in front of the first larger name. -/
def insert (name : String) (value : Value) : Members → Members
  | [] => [(name, value)]
  | m :: ms =>
    if name < m.1 then (name, value) :: m :: ms
    else if name = m.1 then (name, value) :: ms
    else m :: insert name value ms

/-- The members that a written list amounts to: ordered by name, and of two
of the same name the later one. -/
def collect (written : Members) : Members :=
  written.foldl (fun ms m => insert m.1 m.2 ms) []

/-- The value of the first member of this name. -/
def get? (ms : Members) (name : String) : Option Value := ms.lookup name

end Members

namespace Value

/-- The member of an object; nothing else has one. -/
def get? (v : Value) (name : String) : Option Value :=
  match v with
  | .object ms => Members.get? ms name
  | _ => none

/-- The text of a string. -/
def asString? : Value → Option String
  | .string s => some s
  | _ => none

/-- The number of a number. -/
def asNumber? : Value → Option Number
  | .number n => some n
  | _ => none

mutual

/-- How many arrays and objects stand inside each other at most. -/
def depth : Value → Nat
  | .array items => depthItems items + 1
  | .object members => depthMembers members + 1
  | _ => 0

/-- The largest depth among some values. -/
def depthItems : List Value → Nat
  | [] => 0
  | v :: vs => max (depth v) (depthItems vs)

/-- The largest depth among some members. -/
def depthMembers : List (String × Value) → Nat
  | [] => 0
  | m :: ms => max (depth m.2) (depthMembers ms)

end

mutual

/-- **Canonical values**: in every object the names increase. -/
def Canonical : Value → Prop
  | .array items => CanonicalItems items
  | .object members => members.Pairwise (fun m n => m.1 < n.1) ∧ CanonicalMembers members
  | _ => True

/-- Every value of the list is canonical. -/
def CanonicalItems : List Value → Prop
  | [] => True
  | v :: vs => Canonical v ∧ CanonicalItems vs

/-- Every member of the list has a canonical value. -/
def CanonicalMembers : List (String × Value) → Prop
  | [] => True
  | m :: ms => Canonical m.2 ∧ CanonicalMembers ms

end

end Value

end EchoProbe.Json
