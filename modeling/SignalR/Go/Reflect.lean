import SignalR.Go.Bytes

/-! # Types and values as `reflect` sees them

What `streamClient` looks at when it routes a stream item: the element type of a channel, the dynamic
type of a decoded JSON item, whether a value of one type can be sent on a channel of another, and the
values a `panic` carries. -/

namespace SignalR

/-! ### Types -/

/-- The predeclared types that `reflect` tells apart by their kind. -/
inductive BasicKind where
  | int | int8 | int16 | int32 | int64
  | uint | uint8 | uint16 | uint32 | uint64 | uintptr
  | float32 | float64 | complex64 | complex128 | string | bool
  deriving DecidableEq, Repr

/-- The direction of a channel type. -/
inductive ChanDir where
  | recv | send | both
  deriving DecidableEq, Repr

/-- A Go type. A struct or function type is given by its Go spelling (`struct { X int }`, `func(int)`),
    since nothing the code does looks inside it; a defined type (`type MyInt int`) by its name and
    underlying type. -/
inductive GoType where
  | basic (k : BasicKind)
  | iface (methods : List String)
  | slice (elem : GoType)
  | array (len : Nat) (elem : GoType)
  | map (key elem : GoType)
  | struct (spelling : String)
  | chan (dir : ChanDir) (elem : GoType)
  | func (spelling : String)
  | pointer (elem : GoType)
  | unsafePointer
  | named (name : String) (underlying : GoType)
  deriving DecidableEq, Repr

/-- `reflect.Kind`. -/
inductive Kind where
  | basic (k : BasicKind)
  | interface | slice | array | map | struct | chan | func | ptr | unsafePointer
  deriving DecidableEq, Repr

namespace GoType

def underlying : GoType → GoType
  | named _ u => u.underlying
  | t => t

/-- `Type.Kind()`: the kind of the underlying type. -/
def kind : GoType → Kind
  | basic k => .basic k
  | iface _ => .interface
  | slice _ => .slice
  | array _ _ => .array
  | map _ _ => .map
  | struct _ => .struct
  | chan _ _ => .chan
  | func _ => .func
  | pointer _ => .ptr
  | unsafePointer => .unsafePointer
  | named _ u => u.kind

/-- Predeclared and defined types are named, and so is `unsafe.Pointer`; type literals are not. -/
def hasName : GoType → Bool
  | basic _ | unsafePointer | named _ _ => true
  | _ => false

end GoType

def BasicKind.name : BasicKind → String
  | .int => "int" | .int8 => "int8" | .int16 => "int16" | .int32 => "int32" | .int64 => "int64"
  | .uint => "uint" | .uint8 => "uint8" | .uint16 => "uint16" | .uint32 => "uint32"
  | .uint64 => "uint64" | .uintptr => "uintptr" | .float32 => "float32" | .float64 => "float64"
  | .complex64 => "complex64" | .complex128 => "complex128" | .string => "string" | .bool => "bool"

/-- `Kind.String()`. -/
def Kind.name : Kind → String
  | .basic k => k.name
  | .interface => "interface" | .slice => "slice" | .array => "array" | .map => "map"
  | .struct => "struct" | .chan => "chan" | .func => "func" | .ptr => "ptr"
  | .unsafePointer => "unsafe.Pointer"

/-- `Type.String()`. -/
def GoType.name : GoType → String
  | .basic k => k.name
  | .iface [] => "interface \x7b\x7d"
  | .iface ms => "interface \x7b " ++ String.intercalate "; " ms ++ " \x7d"
  | .slice e => "[]" ++ e.name
  | .array n e => "[" ++ toString n ++ "]" ++ e.name
  | .map k v => "map[" ++ k.name ++ "]" ++ v.name
  | .struct spelling => spelling
  | .chan .both e => "chan " ++ e.name
  | .chan .recv e => "<-chan " ++ e.name
  | .chan .send e => "chan<- " ++ e.name
  | .func spelling => spelling
  | .pointer e => "*" ++ e.name
  | .unsafePointer => "unsafe.Pointer"
  | .named n _ => n

/-! ### Values -/

/-- A stream item as the JSON decoder leaves it in an `interface{}`: numbers are `float64`. -/
inductive JsonValue where
  | null
  | bool (b : Bool)
  | number (f : Float)
  | string (s : String)
  | array (items : List JsonValue)
  | object (fields : List (String × JsonValue))
  deriving Repr, Inhabited

/-- `reflect.TypeOf(item)`; `none` for `nil`, whose `reflect.Type` is itself `nil`. -/
def JsonValue.goType : JsonValue → Option GoType
  | .null => none
  | .bool _ => some (.basic .bool)
  | .number _ => some (.basic .float64)
  | .string _ => some (.basic .string)
  | .array _ => some (.slice (.iface []))
  | .object _ => some (.map (.basic .string) (.iface []))

/-- A value sent on an upstream channel. -/
inductive GoValue where
  /-- A value of basic type `k` made from a number: `k(number)`, or `fmt.Sprint(number)` for `string`. -/
  | ofNumber (k : BasicKind) (number : Float)
  /-- `reflect.ValueOf(item)` of a decoded stream item. -/
  | item (v : JsonValue)
  deriving Repr

def GoValue.goType : GoValue → Option GoType
  | .ofNumber k _ => some (.basic k)
  | .item v => v.goType

/-- Whether a value of type `v` with no methods may be sent on a channel of element type `t`:
    `reflect`'s `directlyAssignable` (identical types, or identical underlying types and one of them
    unnamed) or `implements` (an interface with no methods). -/
def assignable (v t : GoType) : Bool :=
  v == t || (!(v.hasName && t.hasName) && v.underlying == t.underlying) || t.underlying == .iface []

/-- The value a `panic` carries, as `recover` hands it back: `reflect` panics with strings, the runtime
    with `runtime.Error` values. -/
inductive PanicValue where
  | error (e : GoError)
  | string (s : String)
  deriving DecidableEq, Repr

end SignalR
