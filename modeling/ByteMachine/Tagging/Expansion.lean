import ByteMachine.Tagging.Arguments
import ByteMachine.Tagging.Numbering
import ByteMachine.Tagging.TagType
import ByteMachine.Text.Composition

/-!
# Expanding an annotation

From the arguments and the numbered variants follow the constants and functions
that the annotation adds: `expansion` gives them as tokens, `tagTable` what they
evaluate to.
-/

namespace ByteMachine.Tagging

/-- An annotated item. Only enumerations have variants. -/
inductive ItemKind where
  | enumeration | record | union
  deriving DecidableEq, Repr

structure Item where
  kind : ItemKind
  name : String
  variants : List WrittenVariant
  deriving DecidableEq, Repr

/-- The item as the compiler sees it: all spellings of a name are the same. -/
def Item.composed (item : Item) : Item :=
  { item with
    name := ByteMachine.composed item.name
    variants := item.variants.map fun variant =>
      { variant with name := ByteMachine.composed variant.name } }

/-- Why an annotation fails. -/
inductive Failure where
  | arguments (error : ArgumentError)
  /-- The item is not read to its end. -/
  | item (error : SyntaxError)
  | notEnumeration
  | numbering (error : NumberingError)
  | rejected (reasons : List Rejection)
  deriving DecidableEq, Repr

/-- How a failure ends the compilation: by a message at the item, by the
annotation breaking off, or by errors in what it produced. -/
inductive FailureStage where
  | message | breakdown | compilation
  deriving DecidableEq, Repr

namespace Failure

def stage : Failure → FailureStage
  | arguments _ | item _ | notEnumeration => .message
  | numbering (.invalidName _) | numbering .noNextNumber => .breakdown
  | numbering _ => .message
  | rejected _ => .compilation

/-- The message of a failure. Numbers of errors stand in their order. -/
def message (host : Host) : Failure → String
  | arguments error => "\n".intercalate error.messages
  | item error => error.message
  | notEnumeration => "Item must be an `enum`"
  | numbering error => error.message host
  | rejected reasons =>
      " ".intercalate ((reasons.map Rejection.code).mergeSort fun a b => decide (a ≤ b))

end Failure

def readArguments (host : Host) (text : String) : Except Failure Arguments :=
  (Arguments.read host text).mapError .arguments

/-- The numbered variants of an annotated item. It is read to its end before its kind
matters. -/
def numberItem (host : Host) (item : Item) : Except Failure (List Numbered) := do
  let variants ← (WrittenVariant.readAll host item.variants).mapError .item
  if item.kind = .enumeration then (numberVariants variants).mapError .numbering
  else .error .notEnumeration

/-! ### Values -/

/-- What the added constants and functions give for one variant. -/
structure TagRow where
  constant : String
  tag : Int
  tagText : String
  operandCount : Nat
  mnemonic : String
  deriving DecidableEq, Repr

def TagRow.ofNumbered (type : TagType) (numbered : Numbered) : TagRow where
  constant := numbered.variant.constant
  tag := type.cast numbered.number
  tagText := type.spell (type.cast numbered.number)
  operandCount := numbered.variant.fields.count
  mnemonic := numbered.variant.mnemonic

/-- What is wrong with names that variants share. -/
def sharedNames (variants : List Numbered) : List Rejection :=
  (if (variants.map (·.variant.name)).Nodup then [] else [.duplicateVariant])
    ++ if (variants.map (·.variant.constant)).Nodup then [] else [.duplicateConstant]

/-- Compile the numbered variants with tags of a type. -/
def compileTags (type : List Token) (variants : List Numbered) :
    Except (List Rejection) (List TagRow) :=
  if variants.isEmpty then
    .error [.noVariants]
  else
    match typeOfTokens type, sharedNames variants with
    | .ok type, [] => .ok (variants.map (TagRow.ofNumbered type))
    | .ok _, shared => .error shared
    | .error reason, shared => .error (reason :: shared)

/-- What an annotation adds to an item: who can see it and the rows of its variants. -/
structure TagTable where
  visibility : Visibility
  rows : List TagRow
  deriving DecidableEq, Repr

/-- Annotate an item and compile it. Errors in the arguments come before those in the
item. -/
def tagTable (arguments : String) (item : Item) : Except Failure TagTable := do
  let arguments ← readArguments .compiler arguments
  let variants ← numberItem .compiler item.composed
  let rows ← (compileTags arguments.type variants).mapError .rejected
  pure { visibility := arguments.visibility, rows }

/-! ### Tokens -/

/-- A word, or the marks of an operator, by the first character. -/
def plainToken (text : String) : List Token :=
  if text.toList.head?.any Lexeme.isWordStart then [.word text] else marks text

/-- Words and operators as tokens. -/
def plainTokens (texts : List String) : List Token :=
  texts.flatMap plainToken

def parenthesized (content : List Token) : Token := .group .parenthesis content
def bracketed (content : List Token) : Token := .group .bracket content
def braced (content : List Token) : Token := .group .brace content

/-- A number as a literal of the machine's size. -/
def sizeLiteral (n : Nat) : Token :=
  .literal (toString n ++ "usize")

/-- An attribute that documents what follows. -/
def documented (text : List Token) : List Token :=
  marks "#" ++ [bracketed (plainTokens ["doc", "="] ++ text)]

def selfPath (name : String) : List Token :=
  plainTokens ["Self", "::", name]

/-- The pattern of a variant with any fields. -/
def Variant.pattern (variant : Variant) : List Token :=
  selfPath variant.name ++
    match variant.fields with
    | .unit => []
    | .tuple _ => [parenthesized (marks "..")]
    | .named _ => [braced (marks "..")]

def Visibility.tokens : Visibility → List Token
  | .exported => [.word "pub"]
  | .internal => []

def constantTokens (arguments : Arguments) (numbered : Numbered) : List Token :=
  documented (plainTokens ["concat", "!"] ++ [parenthesized
    ([stringLiteral "`#[enum_tags]`-generated tag for the variant `Self::"]
      ++ plainTokens [",", "stringify", "!"] ++ [parenthesized [.word numbered.variant.name]]
      ++ marks "," ++ [stringLiteral "`."])])
    ++ arguments.visibility.tokens ++ plainTokens ["const", numbered.variant.constant, ":"]
    ++ arguments.type ++ marks "=" ++ sizeLiteral numbered.number :: plainTokens ["as", "_", ";"]

/-- A function that matches on the variants. -/
def functionTokens (arguments : Arguments) (documentation name : String) (result : List Token)
    (variants : List Numbered) (value : Numbered → List Token) : List Token :=
  let cases := variants.map fun numbered =>
    numbered.variant.pattern ++ marks "=>" ++ value numbered
  documented [stringLiteral documentation]
    ++ arguments.visibility.tokens ++ plainTokens ["const", "fn", name]
    ++ parenthesized (plainTokens ["&", "self"]) :: marks "->" ++ result
    ++ [braced (plainTokens ["match", "self"] ++ [braced (separated (marks ",") cases)])]

/-- All that an annotation adds to an enumeration. -/
def expansion (name : String) (arguments : Arguments) (variants : List Numbered) : List Token :=
  plainTokens ["impl", name] ++ [braced (
    variants.flatMap (constantTokens arguments)
    ++ documented [stringLiteral
      "`#[enum_tags]`-generated list of every tag, in declaration order."]
    ++ arguments.visibility.tokens ++ plainTokens ["const", "TAGS", ":"]
    ++ bracketed (arguments.type ++ marks ";" ++ [sizeLiteral variants.length]) :: marks "="
    ++ bracketed (separated (marks ",")
        (variants.map fun numbered => selfPath numbered.variant.constant)) :: marks ";"
    ++ functionTokens arguments "`#[enum_tags]`-generated getter for this variant's tag." "tag"
      arguments.type variants (fun numbered => selfPath numbered.variant.constant)
    ++ functionTokens arguments
      "`#[enum_tags]`-generated count of the fields this variant carries." "operand_count"
      [.word "usize"] variants (fun numbered => [sizeLiteral numbered.variant.fields.count])
    ++ functionTokens arguments
      "`#[enum_tags]`-generated upper-case name of this variant." "mnemonic"
      (marks "&" ++ [.lifetime "'static", .word "str"]) variants
      (fun numbered => [stringLiteral numbered.variant.mnemonic]))]

end ByteMachine.Tagging
