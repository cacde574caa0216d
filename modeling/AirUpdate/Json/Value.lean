/-
  Air updates — what a settings file says, as a JSON value.

  A value keeps what settings are read from: of a number, whether it is
  written as a plain natural number and which one; of a string, its text, if
  it has one (an escaped surrogate without its partner has none).
-/
namespace AirUpdate

inductive Json where
  | null
  | bool (value : Bool)
  /-- a number; natural if it is written in digits alone -/
  | number (natural : Option Nat)
  /-- a string; without a text if it holds half a surrogate pair -/
  | string (text : Option String)
  | array (items : List Json)
  /-- an object; like a string, a name may be without a text -/
  | object (members : List (Option String × Json))

end AirUpdate
