import EchoProbe.Binary64

/-!
# TOML documents

A document is a tree of tables. It is written as a list of statements: a
header opens a table, the header of an array opens a further element of it,
and an assignment puts a value under a dotted name of the table that is
open. `Document.build` follows the statements and refuses what would define
a table or a name twice.

For that, a table remembers how it came about, because that decides who may
still add to it. The order of the entries is the order in which they are
defined; a table that is implied by the name of another one and opened later
moves to the end.
-/

namespace EchoProbe.Toml

/-- **How a table came about.** -/
inductive Origin where
  /-- Written between braces; complete at once. -/
  | inline
  /-- Opened by a header. -/
  | header
  /-- Implied by the header of a table inside it. -/
  | implied
  /-- Implied by a dotted name. -/
  | dotted
deriving DecidableEq, Repr

/-- **A value of a document.** -/
inductive Node where
  /-- A string. -/
  | string (s : String)
  /-- A whole number. -/
  | integer (n : Int)
  /-- A number with a point or an exponent, or one without a value. -/
  | float (x : Binary64)
  /-- True or false. -/
  | boolean (b : Bool)
  /-- A date, a time or both. -/
  | moment
  /-- An array of values. -/
  | array (items : List Node)
  /-- A table. -/
  | table (origin : Origin) (entries : List (String × Node))
  /-- An array of tables, each opened by a header. -/
  | tables (elements : List (List (String × Node)))
deriving Inhabited, Repr

/-- The entries of a table, in the order in which they are defined. -/
abbrev Entries := List (String × Node)

namespace Entries

/-- Put another value in the place of the one of a name. -/
def replace (name : String) (node : Node) (es : Entries) : Entries :=
  es.map fun e => if e.1 = name then (name, node) else e

/-- Take the value of a name out. -/
def erase (name : String) (es : Entries) : Entries := es.filter fun e => e.1 != name

/-- Assign a value to a name that is not taken, inside the table that a
dotted name leads to. Only tables that dotted names have made may be added
to in this way. -/
def assign (path : List String) (name : String) (node : Node) (es : Entries) : Option Entries :=
  match path with
  | [] => if (es.lookup name).isSome then none else some (es ++ [(name, node)])
  | p :: ps =>
    match es.lookup p with
    | none => (assign ps name node []).map fun sub => es ++ [(p, .table .dotted sub)]
    | some (.table .dotted sub) =>
      (assign ps name node sub).map fun sub => es.replace p (.table .dotted sub)
    | some (.table .implied sub) =>
      if ps.isEmpty then none
      else (assign ps name node sub).map fun sub => es.replace p (.table .implied sub)
    | some (.tables elements) =>
      match ps.isEmpty, elements.getLast? with
      | false, some sub =>
        (assign ps name node sub).map fun sub =>
          es.replace p (.tables (elements.dropLast ++ [sub]))
      | _, _ => none
    | _ => none

/-- Change the table that the path of a header leads to. Tables on the way
are implied; of an array of tables the last element is meant. -/
def atHeader {α : Type} (path : List String) (f : Entries → Option (Entries × α))
    (es : Entries) : Option (Entries × α) :=
  match path with
  | [] => f es
  | p :: ps =>
    match es.lookup p with
    | none => (atHeader ps f []).map fun (sub, a) => (es ++ [(p, .table .implied sub)], a)
    | some (.table .inline _) => none
    | some (.table origin sub) =>
      (atHeader ps f sub).map fun (sub, a) => (es.replace p (.table origin sub), a)
    | some (.tables elements) =>
      match elements.getLast? with
      | none => none
      | some sub =>
        (atHeader ps f sub).map fun (sub, a) =>
          (es.replace p (.tables (elements.dropLast ++ [sub])), a)
    | _ => none

end Entries

/-- **A statement of a document.** -/
inductive Statement where
  /-- Give a value to a dotted name of the open table. -/
  | assign (path : List String) (name : String) (node : Node)
  /-- Open a table. -/
  | openTable (path : List String) (name : String)
  /-- Open a further element of an array of tables. -/
  | openElement (path : List String) (name : String)
deriving Repr

/-- The table that a header has opened. -/
structure Opened where
  /-- The path to the table around it. -/
  path : List String
  /-- Its name there. -/
  name : String
  /-- Whether it is an element of an array. -/
  element : Bool
deriving DecidableEq, Repr

/-- **A document that is being built.** -/
structure Builder where
  /-- The tables that are complete so far. -/
  root : Entries
  /-- The entries of the open table. -/
  current : Entries
  /-- The open table; at the start it is the whole document. -/
  opened : Option Opened

namespace Builder

/-- The builder of a document without statements. -/
def start : Builder := ⟨[], [], none⟩

/-- The document with the open table put into its place. -/
def close (b : Builder) : Option Entries :=
  match b.opened with
  | none => some b.current
  | some ⟨path, name, false⟩ =>
    (b.root.atHeader path fun es =>
      some (es ++ [(name, .table .header b.current)], ())).map (·.1)
  | some ⟨path, name, true⟩ =>
    (b.root.atHeader path fun es =>
      match es.lookup name with
      | some (.tables elements) => some (es.replace name (.tables (elements ++ [b.current])), ())
      | _ => none).map (·.1)

/-- Follow a header: a table that was only implied so far is taken up, every
other one of the name is a fault. -/
def openTable (b : Builder) (path : List String) (name : String) : Option Builder := do
  let root ← b.close
  let (root, current) ← root.atHeader path fun es =>
    match es.lookup name with
    | none => some (es, [])
    | some (.table .implied sub) => some (es.erase name, sub)
    | _ => none
  return ⟨root, current, some ⟨path, name, false⟩⟩

/-- Follow the header of an array of tables. -/
def openElement (b : Builder) (path : List String) (name : String) : Option Builder := do
  let root ← b.close
  let (root, _) ← root.atHeader path fun es =>
    match es.lookup name with
    | none => some (es ++ [(name, .tables [])], ())
    | some (.tables _) => some (es, ())
    | _ => none
  return ⟨root, [], some ⟨path, name, true⟩⟩

/-- Follow a statement. -/
def step (b : Builder) : Statement → Option Builder
  | .assign path name node =>
    (b.current.assign path name node).map fun current => { b with current }
  | .openTable path name => b.openTable path name
  | .openElement path name => b.openElement path name

end Builder

/-- **The document that some statements make**, if none of them contradicts
those before it. -/
def build (statements : List Statement) : Option Entries :=
  (statements.foldlM Builder.step Builder.start).bind Builder.close

/-- The table between two braces. -/
def inlineTable (pairs : List (List String × String × Node)) : Option Node :=
  (pairs.foldlM (fun es (path, name, node) => Entries.assign path name node es) []).map
    fun es => .table .inline es

end EchoProbe.Toml
