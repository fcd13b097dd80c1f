import PromptBudget.Json.Basic

/-!
# PromptBudget — tables of a TOML document

A document is a table of keys. A table can be opened by a header, by a dotted key, between braces,
or only because a header names a table inside it. How it was opened decides what may still be added
to it: a key is never given twice, and a table that is closed stays as it is.

Main statements:

* `addField_nil` — a key of an open table is new, or it is refused.
* `openTable_fresh` — a header opens a table that nothing has named before.
-/

namespace PromptBudget.Toml

/-- How a table was opened. -/
inductive Opening where
  /-- By a header with its name. -/
  | header
  /-- By a header with the name of a table inside it. -/
  | implied
  /-- By a dotted key. -/
  | dotted
  /-- Between braces. -/
  | braces
  deriving DecidableEq, Repr

end Toml

/-- A value of a TOML document. -/
inductive Toml where
  | string (s : String)
  | integer (n : Int)
  | float (x : Floating)
  | boolean (b : Bool)
  /-- A date, a time, or both, as written. -/
  | moment (text : String)
  /-- Values between brackets. -/
  | array (items : List Toml)
  /-- A table. -/
  | table (opening : Toml.Opening) (fields : List (String × Toml))
  /-- Tables that are opened one after another by headers with one name. -/
  | tables (elements : List (List (String × Toml)))
  deriving Repr, Inhabited

namespace Toml

/-- The fields of a table. -/
abbrev Fields := List (String × Toml)

/-- The fields with another value for a key that is among them. -/
def replace (key : String) (value : Toml) (fields : Fields) : Fields :=
  fields.map fun field => if field.1 = key then (key, value) else field

/-- How a path goes through tables: on the way to a table with a header, or along a dotted key. -/
inductive Route where
  | header
  | dotted
  deriving DecidableEq

/-- Whether a route may lead through a table. -/
def Route.admits : Route → Opening → Bool
  | .header, opening => opening != .braces
  | .dotted, opening => opening == .implied || opening == .dotted

/-- How a table is opened that a route leads through for the first time. -/
def Route.opens : Route → Opening
  | .header => .implied
  | .dotted => .dotted

/-- Edits the table at the end of a path, where missing tables are opened. The edit is told how the
table was opened. In a list of tables the path goes through the last one. -/
def editAt (route : Route) (edit : Opening → Fields → Option Fields) :
    Opening → List String → Fields → Option Fields
  | opening, [], fields => edit opening fields
  | _, key :: path, fields =>
    match Json.lookup key fields with
    | none =>
      (editAt route edit route.opens path []).map fun inner => fields ++ [(key, .table route.opens inner)]
    | some (.table opening inner) =>
      if route.admits opening then
        (editAt route edit opening path inner).map fun inner => replace key (.table opening inner) fields
      else none
    | some (.tables elements) =>
      match elements.reverse with
      | [] => none
      | last :: before =>
        (editAt route edit .header path last).map fun last => replace key (.tables (before.reverse ++ [last])) fields
    | some _ => none

/-- Adds a field under a dotted key to an open table. The last table on its path must have been
opened by dotted keys too, and must not have the key. -/
def addField (path : List String) (key : String) (value : Toml) (fields : Fields) : Option Fields :=
  editAt .dotted (fun opening inner =>
    if (path.isEmpty || opening == .dotted) && (Json.lookup key inner).isNone then some (inner ++ [(key, value)])
    else none) .header path fields

/-- Opens the table of a header among the tables around it. -/
def openTable (key : String) (_ : Opening) (fields : Fields) : Option Fields :=
  match Json.lookup key fields with
  | none => some (fields ++ [(key, .table .header [])])
  | some (.table .implied inner) => some (replace key (.table .header inner) fields)
  | some _ => none

/-- Opens one more of the tables with one name. -/
def openElement (key : String) (_ : Opening) (fields : Fields) : Option Fields :=
  match Json.lookup key fields with
  | none => some (fields ++ [(key, .tables [[]])])
  | some (.tables elements) => some (replace key (.tables (elements ++ [[]])) fields)
  | some _ => none

/-! ## Documents as trees -/

mutual

/-- The value without a trace of how it was written. A date or time is an object with a key of its own. -/
def tree : Toml → Json
  | .string s => .string s
  | .integer n => .number (.int n)
  | .float x => .number (.float x)
  | .boolean b => .bool b
  | .moment text => .object [("moment", .string text)]
  | .array items => .array (treeItems items)
  | .table _ fields => .object (treeFields fields)
  | .tables elements => .array (treeElements elements)

/-- The trees of values. -/
def treeItems : List Toml → List Json
  | [] => []
  | value :: rest => tree value :: treeItems rest

/-- Fields with the trees of their values. -/
def treeFields : List (String × Toml) → List (String × Json)
  | [] => []
  | (key, value) :: rest => (key, tree value) :: treeFields rest

/-- The trees of tables. -/
def treeElements : List (List (String × Toml)) → List Json
  | [] => []
  | fields :: rest => .object (treeFields fields) :: treeElements rest

end

theorem addField_nil (key : String) (value : Toml) (fields : Fields) :
    addField [] key value fields = if (Json.lookup key fields).isNone then some (fields ++ [(key, value)]) else none := by
  simp [addField, editAt]

theorem openTable_fresh (key : String) (opening : Opening) (fields : Fields) (h : Json.lookup key fields = none) :
    openTable key opening fields = some (fields ++ [(key, .table .header [])]) := by
  simp [openTable, h]

end Toml

end PromptBudget
