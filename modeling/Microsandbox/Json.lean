import Mathlib.Logic.Basic

namespace Microsandbox.Json

inductive Value where
  | null
  | bool (b : Bool)
  | number (text : String)
  | string (s : String)
  | array (items : List Value)
  | object (fields : List (String × Value))
  deriving Repr

def Value.get (v : Value) (key : String) : Option Value :=
  match v with
  | .object fields => fields.lookup key
  | _ => none

def Value.asStr : Value → Option String
  | .string s => some s
  | _ => none

def Value.getStr (v : Value) (key : String) : Option String :=
  (v.get key).bind Value.asStr

@[simp] theorem Value.get_array (items : List Value) (key : String) :
    (Value.array items).get key = none := rfl

@[simp] theorem Value.getStr_array (items : List Value) (key : String) :
    (Value.array items).getStr key = none := rfl

end Microsandbox.Json
