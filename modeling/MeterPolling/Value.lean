import MeterPolling.Decimal.Style
import MeterPolling.Json
import MeterPolling.Text.Quoted

namespace MeterPolling

inductive Value where
  | text (s : String)
  | u16 (n : UInt16)
  | i16 (n : Int16)
  | u32 (n : UInt32)
  | i32 (n : Int32)
  | u64 (n : UInt64)
  | i64 (n : Int64)
  | f32 (x : Binary32)
  | f64 (x : Binary64)
  | bytes (bs : List UInt8)
  deriving DecidableEq, Repr

namespace Value

/-- The value as a number of 64 bits, rounded if need be; text and bytes are no numbers. -/
def toBinary64? : Value → Option Binary64
  | .text _ => none
  | .u16 n => some (.ofInt n.toNat)
  | .i16 n => some (.ofInt n.toInt)
  | .u32 n => some (.ofInt n.toNat)
  | .i32 n => some (.ofInt n.toInt)
  | .u64 n => some (.ofInt n.toNat)
  | .i64 n => some (.ofInt n.toInt)
  | .f32 x => some x.widen
  | .f64 x => some x
  | .bytes _ => none

def byteChars (b : UInt8) : List Char := '0' :: 'x' :: Text.hexPadded true 2 b.toNat

def moreBytes (bs : List UInt8) : List Char := bs.flatMap fun b => ',' :: ' ' :: byteChars b

def bytesChars : List UInt8 → List Char
  | [] => ['[', ']']
  | b :: bs => '[' :: (byteChars b ++ moreBytes bs ++ [']'])

def display : Value → String
  | .text s => Text.quoted s
  | .u16 n => toString n.toNat
  | .i16 n => toString n.toInt
  | .u32 n => toString n.toNat
  | .i32 n => toString n.toInt
  | .u64 n => toString n.toNat
  | .i64 n => toString n.toInt
  | .f32 x => x.plain
  | .f64 x => x.plain
  | .bytes bs => String.ofList (bytesChars bs)

def json : Value → Json
  | .text s => .string s
  | .u16 n => .int n.toNat
  | .i16 n => .int n.toInt
  | .u32 n => .int n.toNat
  | .i32 n => .int n.toInt
  | .u64 n => .int n.toNat
  | .i64 n => .int n.toInt
  | .f32 x => .decimal x.json
  | .f64 x => .decimal x.json
  | .bytes bs => .array (bs.map fun b => .int b.toNat)

end Value

end MeterPolling
