import ByteMachine.Integer
import ByteMachine.Significand
import ByteMachine.Tagging.Token

/-!
# Types of tags

A number becomes a tag by a cast to the type in the arguments. Integer types
wrap. Floating-point types round to as many binary digits as they have, and are
written with the fewest decimal digits that are read back as the same value.
-/

namespace ByteMachine.Tagging

inductive TagType where
  | integer (type : IntegerType)
  /-- A floating-point type with that many significant binary digits. -/
  | float (digits : Nat)
  deriving DecidableEq, Repr

namespace TagType

def cast (number : Nat) : TagType → Int
  | integer type => type.toInt (type.ofInt number)
  | float digits => Significand.round digits number

def spell (tag : Int) : TagType → String
  | integer _ => toString tag
  | float digits => toString (Significand.shortest digits tag.toNat)

/-- The primitive types by name; machine-sized integers have 64 bits. -/
def ofName? : String → Option TagType
  | "usize" => some (integer ⟨false, 64⟩)
  | "isize" => some (integer ⟨true, 64⟩)
  | "f32" => some (float 24)
  | "f64" => some (float 53)
  | name => (IntegerType.ofName? name).map integer

def ofForeignName? : String → Option TagType
  | "c_char" | "c_schar" => some (integer ⟨true, 8⟩)
  | "c_uchar" => some (integer ⟨false, 8⟩)
  | "c_short" => some (integer ⟨true, 16⟩)
  | "c_ushort" => some (integer ⟨false, 16⟩)
  | "c_int" => some (integer ⟨true, 32⟩)
  | "c_uint" => some (integer ⟨false, 32⟩)
  | "c_long" | "c_longlong" => some (integer ⟨true, 64⟩)
  | "c_ulong" | "c_ulonglong" => some (integer ⟨false, 64⟩)
  | "c_float" => some (float 24)
  | "c_double" => some (float 53)
  | _ => none

end TagType

/-- Why the annotated enumeration does not compile. -/
inductive Rejection where
  | unknownType
  | unknownModule
  | castToBool
  | castToChar
  | castToOther
  | duplicateVariant
  | duplicateConstant
  /-- A reference to an enumeration without variants still has to be matched. -/
  | noVariants
  deriving DecidableEq, Repr

/-- The compiler's number for the error. -/
def Rejection.code : Rejection → String
  | unknownType => "E0425"
  | unknownModule => "E0433"
  | castToBool => "E0054"
  | castToChar => "E0604"
  | castToOther => "E0605"
  | duplicateVariant => "E0428"
  | duplicateConstant => "E0592"
  | noVariants => "E0004"

/-! ### Names of types -/

def plainName (word : String) : String :=
  match word.toList with
  | 'r' :: '#' :: name => String.ofList name
  | _ => word

/-- The names of a path without arguments. -/
def pathNames : List Token → Option (List String)
  | [.word name] => some [plainName name]
  | .word name :: .mark ':' true :: .mark ':' _ :: rest =>
      (pathNames rest).map (plainName name :: ·)
  | _ => none

/-- Types known everywhere that numbers cannot be cast to. -/
def otherTypes : List String := ["String", "Vec", "Option", "Box", "Result", "str"]

def typeOfName (name : String) : Except Rejection TagType :=
  match TagType.ofName? name with
  | some type => .ok type
  | none =>
      if name = "bool" then .error .castToBool
      else if name = "char" then .error .castToChar
      else if otherTypes.contains name then .error .castToOther
      else .error .unknownType

def typeOfForeignName (name : String) : Except Rejection TagType :=
  match TagType.ofForeignName? name with
  | some type => .ok type
  | none => .error (if name = "c_void" then .castToOther else .unknownType)

/-- The first names of paths that lead somewhere. -/
def knownRoots : List String := ["core", "std", "crate", "self", "super", "Self"]

/-- The type that a path of names names. Primitive types also go by their module. -/
def typeOfNames : List String → Except Rejection TagType
  | [name] | ["core", "primitive", name] | ["std", "primitive", name] => typeOfName name
  | ["core", "ffi", name] | ["std", "ffi", name] | ["std", "os", "raw", name] =>
      typeOfForeignName name
  | root :: _ => .error (if knownRoots.contains root then .unknownType else .unknownModule)
  | [] => .error .unknownType

def typeOfPath (path : List Token) : Except Rejection TagType :=
  match pathNames path with
  | some names => typeOfNames names
  | none => .error .castToOther

/-- The type that a path among the libraries names: a single name there is a library. -/
def typeOfLibraryPath (path : List Token) : Except Rejection TagType :=
  match pathNames path with
  | some [_] => .error .unknownType
  | _ => typeOfPath path

/-- The type that tokens name; parentheses around it do not matter. -/
def typeOfTokens : List Token → Except Rejection TagType
  | [.group .parenthesis []] => .error .castToOther
  | [.group .parenthesis content] => typeOfTokens content
  | .mark ':' true :: .mark ':' _ :: path => typeOfLibraryPath path
  | path => typeOfPath path

end ByteMachine.Tagging
