/-!
The types of what crosses a module's boundary, the kinds the linker binds, and when a value of one
type may stand where another is declared.
-/

namespace Linkage

inductive ValType where
  | i32
  | i64
  | f32
  | f64
  | v128
  | externref
  | funcref
  deriving DecidableEq, Repr

structure FuncType where
  params : List ValType
  results : List ValType
  deriving DecidableEq, Repr

structure GlobalType where
  content : ValType
  mutable : Bool
  deriving DecidableEq, Repr

/-- Sizes are in pages. -/
structure MemoryType where
  min : Nat
  max : Option Nat
  shared : Bool
  deriving DecidableEq, Repr

structure TableType where
  element : ValType
  min : Nat
  max : Option Nat
  deriving DecidableEq, Repr

structure TagType where
  params : List ValType
  deriving DecidableEq, Repr

inductive ExternType where
  | func (type : FuncType)
  | global (type : GlobalType)
  | memory (type : MemoryType)
  | table (type : TableType)
  | tag (type : TagType)
  deriving DecidableEq, Repr

/-- The kinds that can be bound. A tag is none of them. -/
inductive ExternKind where
  | function
  | global
  | memory
  | table
  deriving DecidableEq, Repr

def ExternKind.name : ExternKind → String
  | .function => "function"
  | .global => "global"
  | .memory => "memory"
  | .table => "table"

def ExternType.kind? : ExternType → Option ExternKind
  | .func _ => some .function
  | .global _ => some .global
  | .memory _ => some .memory
  | .table _ => some .table
  | .tag _ => none

/-- Whether a value of type `found` may be bound to an import declared with `expected`. Kinds have
to agree; signatures and global types have to be equal; sizes of memories and tables change while
programs run and are left to instantiation. -/
def ExternType.accepts (expected found : ExternType) : Bool :=
  match expected, found with
  | .func a, .func b => a = b
  | .global a, .global b => a = b
  | .memory _, .memory _ => true
  | .table a, .table b => a.element = b.element
  | _, _ => false

def ValType.text : ValType → String
  | .i32 => "I32"
  | .i64 => "I64"
  | .f32 => "F32"
  | .f64 => "F64"
  | .v128 => "V128"
  | .externref => "ExternRef"
  | .funcref => "FuncRef"

def ValType.listText (types : List ValType) : String :=
  "[" ++ ", ".intercalate (types.map ValType.text) ++ "]"

def FuncType.signature (type : FuncType) : String :=
  ValType.listText type.params ++ " -> " ++ ValType.listText type.results

def maximumText (unit : String) : Option Nat → String
  | none => "None"
  | some limit => "Some(" ++ toString limit ++ unit ++ ")"

def ExternType.text : ExternType → String
  | .func type =>
      "Function(FunctionType \x7b params: " ++ ValType.listText type.params ++ ", results: "
        ++ ValType.listText type.results ++ " \x7d)"
  | .global type =>
      "Global(GlobalType \x7b ty: " ++ type.content.text ++ ", mutability: "
        ++ (if type.mutable then "Var" else "Const") ++ " \x7d)"
  | .memory type =>
      "Memory(MemoryType \x7b minimum: " ++ toString type.min ++ " pages, maximum: "
        ++ maximumText " pages" type.max ++ ", shared: " ++ toString type.shared ++ " \x7d)"
  | .table type =>
      "Table(TableType \x7b ty: " ++ type.element.text ++ ", minimum: " ++ toString type.min
        ++ ", maximum: " ++ maximumText "" type.max ++ " \x7d)"
  | .tag type =>
      "Tag(TagType \x7b kind: Exception, params: " ++ ValType.listText type.params ++ " \x7d)"

end Linkage
