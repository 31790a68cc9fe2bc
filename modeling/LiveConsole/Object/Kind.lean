import LiveConsole.ErrorKind

/-!
# Built-in kinds of objects

Each kind has a name and stands in a short line of more general kinds that ends with `object`.
-/

set_option autoImplicit false

namespace LiveConsole

inductive Kind where
  | object
  | type
  | none
  | flag
  | int
  | float
  | text
  | octets
  | tuple
  | list
  | dict
  | range
  | slice
  | ellipsis
  | notImplemented
  | function
  | builtin
  | method
  | descriptor
  | module
  | keys
  | values
  | items
  | settings
  | error (kind : ErrorKind)
deriving DecidableEq

namespace Kind

def name : Kind → String
  | object => "object"
  | type => "type"
  | none => "NoneType"
  | flag => "bool"
  | int => "int"
  | float => "float"
  | text => "str"
  | octets => "bytes"
  | tuple => "tuple"
  | list => "list"
  | dict => "dict"
  | range => "range"
  | slice => "slice"
  | ellipsis => "ellipsis"
  | notImplemented => "NotImplementedType"
  | function => "function"
  | builtin => "builtin_function_or_method"
  | method => "method"
  | descriptor => "method_descriptor"
  | module => "module"
  | keys => "dict_keys"
  | values => "dict_values"
  | items => "dict_items"
  | settings => "ReplConfig"
  | error kind => kind.name

/-- The kind and all more general ones. -/
def lineage : Kind → List Kind
  | object => [object]
  | flag => [flag, int, object]
  | error kind => kind.lineage.map error ++ [object]
  | k => [k, object]

/-- Kinds that scripts can name, errors aside. -/
def named : List Kind :=
  [object, type, flag, int, float, text, octets, tuple, list, dict, range, slice]

/-- Error kinds of the console and of its surroundings have no name in scripts. -/
def isScriptError (kind : ErrorKind) : Bool :=
  !(kind.isA .replError || kind = .addressError || kind = .jsonDecodeError
    || kind = .frozenInstanceError)

def ofName? (id : String) : Option Kind :=
  match named.find? (fun k => k.name = id) with
  | .some k => k
  | .none =>
    if id = "IOError" ∨ id = "EnvironmentError" then some (error .systemError)
    else ((ErrorKind.ofName? id).filter isScriptError).map error

/-- Whether a kind may stand as a base of a class. -/
def isBase : Kind → Bool
  | object | type | int | float | text | octets | tuple | list | dict | error _ => true
  | _ => false

end Kind

end LiveConsole
