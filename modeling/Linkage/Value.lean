import Linkage.ExternType
import Linkage.Number.Integer
import Linkage.Number.Shortest

/-!
Values of the machine, as bit patterns. Of the reference types only the null reference is a value
that programs handle directly; functions held by a table stay inside the store.
-/

namespace Linkage

inductive Value where
  | i32 (bits : BitVec 32)
  | i64 (bits : BitVec 64)
  | f32 (bits : BitVec 32)
  | f64 (bits : BitVec 64)
  | v128 (bits : BitVec 128)
  | nullExtern
  | nullFunc
  deriving DecidableEq, Repr

namespace Value

def type : Value → ValType
  | .i32 _ => .i32
  | .i64 _ => .i64
  | .f32 _ => .f32
  | .f64 _ => .f64
  | .v128 _ => .v128
  | .nullExtern => .externref
  | .nullFunc => .funcref

def zero : ValType → Value
  | .i32 => .i32 0
  | .i64 => .i64 0
  | .f32 => .f32 0
  | .f64 => .f64 0
  | .v128 => .v128 0
  | .externref => .nullExtern
  | .funcref => .nullFunc

def text : Value → String
  | .i32 bits => Number.showInt bits.toInt
  | .i64 bits => Number.showInt bits.toInt
  | .f32 bits => Number.showBinary .binary32 bits.toNat
  | .f64 bits => Number.showBinary .binary64 bits.toNat
  | .v128 bits => "V128(" ++ Number.showNat bits.toNat ++ ")"
  | .nullExtern => "Null ExternRef"
  | .nullFunc => "Null FuncRef"

def typedText (value : Value) : String :=
  let typed (content : String) := value.type.text ++ "(" ++ content ++ ")"
  match value with
  | .i32 _ | .i64 _ => typed value.text
  | .f32 bits => typed (Number.showBinaryCompact .binary32 bits.toNat)
  | .f64 bits => typed (Number.showBinaryCompact .binary64 bits.toNat)
  | .v128 _ | .nullExtern | .nullFunc => value.text

end Value

end Linkage
