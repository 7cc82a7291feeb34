/-!
# JSON values

Values of JSON texts. Numbers keep the text they were written with, and the
members of an object their order and their repetitions.
-/

namespace Docloom

inductive Json where
  | null
  | bool (value : Bool)
  | number (text : String)
  | string (value : String)
  | array (items : List Json)
  | object (members : List (String × Json))
  deriving Inhabited

namespace Json

def ofNat (n : Nat) : Json := .number (toString n)

def ofOption (f : α → Json) : Option α → Json
  | none => .null
  | some a => f a

def strings (texts : List String) : Json := .array (texts.map .string)

/-- The first member with the given name. -/
def get? (json : Json) (name : String) : Option Json :=
  match json with
  | .object members => (members.find? fun member => member.1 == name).map Prod.snd
  | _ => none

/-!
# Records

A record is written as an object, or as an array of its fields in order. Members of
an object that are no fields are passed over, but no field may come twice.
-/

/-- The values of fields; none for a field that is missing. -/
def fields? (names : List String) : Json → Option (List (Option Json))
  | .object members =>
      if names.all fun name => (members.filter fun member => member.1 == name).length ≤ 1 then
        some (names.map fun name => members.lookup name)
      else
        none
  | .array items =>
      if items.length ≤ names.length then
        some (items.map some ++ List.replicate (names.length - items.length) none)
      else
        none
  | _ => none

def text? : Json → Option String
  | .string text => some text
  | _ => none

def bool? : Json → Option Bool
  | .bool value => some value
  | _ => none

def items? : Json → Option (List Json)
  | .array items => some items
  | _ => none

def members? : Json → Option (List (String × Json))
  | .object members => some members
  | _ => none

end Json
end Docloom
