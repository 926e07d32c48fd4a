set_option autoImplicit false

/-!
# JSON values

The values of reports and of file snapshots. Numbers are whole, and the members of an object keep
their order, since a report is read by people too.

## Main definitions

* `Json` — a JSON value.
* `Json.member?` — the value of an object's member.
* `Json.ofList` — an array of encoded items.
-/

namespace SourceLint

/-- A JSON value. Numbers are whole; the members of an object are in order. -/
inductive Json
  | null
  | bool (value : Bool)
  | number (value : Int)
  | string (value : String)
  | array (items : List Json)
  | object (members : List (String × Json))
deriving Inhabited, BEq

namespace Json

/-- The value of an object's member; the first one, should a name occur twice. -/
def member? (name : String) : Json → Option Json
  | .object members => (members.find? (·.1 == name)).map (·.2)
  | _ => none

/-- The value of an object's member, where `null` counts as absent. -/
def present? (name : String) (json : Json) : Option Json :=
  match json.member? name with
  | some .null => none
  | found => found

/-- The text of a string value. -/
def string? : Json → Option String
  | .string s => some s
  | _ => none

/-- The number of a numeric value. -/
def number? : Json → Option Int
  | .number n => some n
  | _ => none

/-- The truth value of a Boolean. -/
def bool? : Json → Option Bool
  | .bool b => some b
  | _ => none

/-- The items of an array. -/
def array? : Json → Option (List Json)
  | .array items => some items
  | _ => none

/-- The members of an object. -/
def object? : Json → Option (List (String × Json))
  | .object members => some members
  | _ => none

/-- An array of encoded items. -/
def ofList {α : Type} (encode : α → Json) (items : List α) : Json :=
  .array (items.map encode)

/-- An array of strings. -/
def ofStrings (items : List String) : Json :=
  ofList .string items

/-- A value that may be missing; `null` stands for a missing one. -/
def ofOption {α : Type} (encode : α → Json) : Option α → Json
  | some a => encode a
  | none => .null

/-- A string that may be missing. -/
def ofString? (s : Option String) : Json :=
  ofOption .string s

end Json

end SourceLint
