import BoxMin.Binary.Rounding

set_option autoImplicit false

namespace BoxMin

inductive IntType where
  | int8 | int16 | int32 | int64 | uint8 | uint16 | uint32 | uint64
  deriving DecidableEq, Repr

namespace IntType

def bits : IntType → Nat
  | .int8 | .uint8 => 8
  | .int16 | .uint16 => 16
  | .int32 | .uint32 => 32
  | .int64 | .uint64 => 64

def signed : IntType → Bool
  | .int8 | .int16 | .int32 | .int64 => true
  | _ => false

def name : IntType → String
  | .int8 => "int8"
  | .int16 => "int16"
  | .int32 => "int32"
  | .int64 => "int64"
  | .uint8 => "uint8"
  | .uint16 => "uint16"
  | .uint32 => "uint32"
  | .uint64 => "uint64"

def all : List IntType := [.int8, .int16, .int32, .int64, .uint8, .uint16, .uint32, .uint64]

def least (t : IntType) : Int := if t.signed then -Nat.pow 2 (t.bits - 1) else 0

def beyond (t : IntType) : Int := if t.signed then Nat.pow 2 (t.bits - 1) else Nat.pow 2 t.bits

def holds (t : IntType) (k : Int) : Bool := decide (t.least ≤ k ∧ k < t.beyond)

def wrap (t : IntType) (k : Int) : Int :=
  if t.signed then Int.bmod k (Nat.pow 2 t.bits) else k % Nat.pow 2 t.bits

def common? (s t : IntType) : Option IntType :=
  if s.signed = t.signed then some (if s.bits < t.bits then t else s)
  else
    let (signedType, unsignedType) := if s.signed then (s, t) else (t, s)
    if unsignedType.bits < signedType.bits then some signedType
    else all.find? fun u => u.signed && u.bits == 2 * unsignedType.bits

def places : IntType → Nat
  | .int8 => 4
  | .int16 => 6
  | .int32 => 11
  | .int64 => 21
  | .uint8 => 3
  | .uint16 => 5
  | .uint32 => 10
  | .uint64 => 20

end IntType

/-- Binary floating numbers; those of the narrower types are held as the double of the same
value. -/
inductive FloatType where
  | float16 | float32 | float64
  deriving DecidableEq, Repr

namespace FloatType

def format : FloatType → Format
  | .float16 => .binary16
  | .float32 => .binary32
  | .float64 => .binary64

def bits : FloatType → Nat
  | .float16 => 16
  | .float32 => 32
  | .float64 => 64

def name : FloatType → String
  | .float16 => "float16"
  | .float32 => "float32"
  | .float64 => "float64"

def complexName : FloatType → String
  | .float64 => "complex128"
  | _ => "complex64"

def round (t : FloatType) (x : Float) : Float :=
  match t with
  | .float64 => x
  | t => t.format.roundFloat x

/-- The number of the type nearest to a whole number; half precision is reached by way of
single. -/
def ofInt (t : FloatType) (k : Int) : Float :=
  match t with
  | .float16 => Format.binary16.roundFloat (Format.binary32.ofInt k)
  | t => t.format.ofInt k

end FloatType

inductive ElementType where
  | bool
  | int (t : IntType)
  | float (t : FloatType)
  | text (width : Nat)
  | complex (t : FloatType)
  | object
  /-- Types that can be named and made of zeros, but hold nothing here. -/
  | longFloat
  | longComplex
  deriving DecidableEq, Repr

namespace ElementType

def int32 : ElementType := .int .int32
def int64 : ElementType := .int .int64
def float64 : ElementType := .float .float64

def name : ElementType → String
  | .bool => "bool"
  | .int t => t.name
  | .float t => t.name
  | .text width => "<U" ++ toString width
  | .complex t => t.complexName
  | .object => "object"
  | .longFloat => "float128"
  | .longComplex => "complex256"

def bytes : ElementType → Nat
  | .bool => 1
  | .int t => t.bits / 8
  | .float t => t.bits / 8
  | .text width => 4 * width
  | .complex t => 2 * t.bits / 8
  | .object => 8
  | .longFloat => 16
  | .longComplex => 32

/-- The names by which a type is asked for where only these count. -/
def named : List (String × ElementType) :=
  [("bool", .bool), ("bool_", .bool),
    ("int8", .int .int8), ("byte", .int .int8), ("uint8", .int .uint8), ("ubyte", .int .uint8),
    ("int16", .int .int16), ("short", .int .int16),
    ("uint16", .int .uint16), ("ushort", .int .uint16),
    ("int32", .int .int32), ("intc", .int .int32), ("uint32", .int .uint32),
    ("uintc", .int .uint32),
    ("int64", .int .int64), ("int_", .int .int64), ("intp", .int .int64), ("long", .int .int64),
    ("longlong", .int .int64),
    ("uint64", .int .uint64), ("uint", .int .uint64), ("uintp", .int .uint64),
    ("ulong", .int .uint64), ("ulonglong", .int .uint64),
    ("float16", .float .float16), ("half", .float .float16),
    ("float32", .float .float32), ("single", .float .float32),
    ("float64", .float .float64), ("double", .float .float64),
    ("float128", .longFloat), ("longdouble", .longFloat),
    ("complex64", .complex .float32), ("csingle", .complex .float32),
    ("complex128", .complex .float64), ("cdouble", .complex .float64),
    ("complex256", .longComplex), ("clongdouble", .longComplex),
    ("object_", .object)]

/-- More names, for the elements of an array: plain kinds, and letters with the bytes of an
element. -/
def coded : List (String × ElementType) :=
  [("int", .int .int64), ("float", .float .float64), ("complex", .complex .float64),
    ("object", .object), ("O", .object),
    ("?", .bool), ("b1", .bool),
    ("b", .int .int8), ("i1", .int .int8), ("B", .int .uint8), ("u1", .int .uint8),
    ("h", .int .int16), ("i2", .int .int16), ("H", .int .uint16), ("u2", .int .uint16),
    ("i", .int .int32), ("i4", .int .int32), ("I", .int .uint32), ("u4", .int .uint32),
    ("l", .int .int64), ("q", .int .int64), ("p", .int .int64), ("n", .int .int64),
    ("i8", .int .int64),
    ("L", .int .uint64), ("Q", .int .uint64), ("P", .int .uint64), ("N", .int .uint64),
    ("u8", .int .uint64),
    ("e", .float .float16), ("f2", .float .float16), ("f", .float .float32),
    ("f4", .float .float32), ("d", .float .float64), ("f8", .float .float64),
    ("g", .longFloat), ("f16", .longFloat),
    ("F", .complex .float32), ("c8", .complex .float32), ("D", .complex .float64),
    ("c16", .complex .float64),
    ("G", .longComplex), ("c32", .longComplex),
    ("str", .text 0), ("str_", .text 0), ("U", .text 0)]

def ofName? (s : String) : Option ElementType := named.lookup s

/-- The type that goes by any name or code; a code may have the mark of its byte order in front. -/
def ofCode? (s : String) : Option ElementType :=
  match named.lookup s, coded.lookup s with
  | some t, _ => some t
  | none, some t => some t
  | none, none =>
    match s.toList with
    | c :: cs => if c = '<' || c = '=' || c = '|' then coded.lookup (String.ofList cs) else none
    | [] => none

end ElementType

end BoxMin
