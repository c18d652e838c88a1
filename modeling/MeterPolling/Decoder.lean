import MeterPolling.BigEndian
import MeterPolling.Text.Padding
import MeterPolling.Text.Utf8
import MeterPolling.Value

namespace MeterPolling

inductive Encoding where
  | ascii
  | utf8
  | u16
  | i16
  | u32
  | i32
  | u64
  | i64
  | f32
  /-- The bytes as they are, for what only the meter's maker can explain. -/
  | raw
  deriving DecidableEq, Repr

namespace Encoding

def words : Encoding → Option Nat
  | .ascii | .utf8 | .raw => none
  | .u16 | .i16 => some 1
  | .u32 | .i32 | .f32 => some 2
  | .u64 | .i64 => some 4

def name : Encoding → String
  | .ascii => "ascii"
  | .utf8 => "utf8"
  | .u16 => "u16"
  | .i16 => "i16"
  | .u32 => "u32"
  | .i32 => "i32"
  | .u64 => "u64"
  | .i64 => "i64"
  | .f32 => "f32"
  | .raw => "raw"

end Encoding

inductive DecodeError where
  | sizeMismatch (expected actual : Nat)
  | notAscii
  | utf8 (defect : Text.Utf8Defect)
  | notNumeric
  deriving DecidableEq, Repr

namespace DecodeError

def chain : DecodeError → List String
  | .sizeMismatch expected actual => [s!"expected {expected} register words, got {actual}"]
  | .notAscii => ["register words do not hold ASCII text"]
  | .utf8 defect => ["register words do not hold UTF-8 text", defect.message]
  | .notNumeric => ["only numeric values can be scaled"]

end DecodeError

/-- Whether an encoding takes that many words, and the number it wants if not. -/
def Encoding.checkSize (e : Encoding) (count : Nat) : Except DecodeError Unit :=
  match e.words with
  | some expected => if count = expected then .ok () else .error (.sizeMismatch expected count)
  | none => if count = 0 then .error (.sizeMismatch 1 0) else .ok ()

def Encoding.read (e : Encoding) (ws : List UInt16) : Except DecodeError Value :=
  let n := natOfWords ws
  match e with
  | .ascii =>
    let bs := bytesOfWords ws
    if bs.all (· < 0x80) then
      .ok (.text (String.ofList (Text.trimPadding (bs.map fun b => Char.ofNat b.toNat))))
    else .error .notAscii
  | .utf8 =>
    match Text.decodeUtf8 (bytesOfWords ws) with
    | .ok cs => .ok (.text (String.ofList (Text.trimPadding cs)))
    | .error defect => .error (.utf8 defect)
  | .u16 => .ok (.u16 (UInt16.ofNat n))
  | .i16 => .ok (.i16 (UInt16.ofNat n).toInt16)
  | .u32 => .ok (.u32 (UInt32.ofNat n))
  | .i32 => .ok (.i32 (UInt32.ofNat n).toInt32)
  | .u64 => .ok (.u64 (UInt64.ofNat n))
  | .i64 => .ok (.i64 (UInt64.ofNat n).toInt64)
  | .f32 => .ok (.f32 ⟨UInt32.ofNat n⟩)
  | .raw => .ok (.bytes (bytesOfWords ws))

def Value.scale (v : Value) (factor : Binary64) : Except DecodeError Value :=
  match v.toBinary64? with
  | some x => .ok (.f64 (x * factor))
  | none => .error .notNumeric

/-- An encoding and the factors applied to what it reads, the first one first. -/
structure Decoder where
  encoding : Encoding
  factors : List Binary64 := []
  deriving DecidableEq, Repr

namespace Decoder

def words (d : Decoder) : Option Nat := d.encoding.words

def decode (d : Decoder) (ws : List UInt16) : Except DecodeError Value := do
  d.encoding.checkSize ws.length
  let base ← d.encoding.read ws
  d.factors.foldlM Value.scale base

def display (d : Decoder) : String :=
  d.factors.foldl (fun text factor => text ++ "*" ++ factor.plain) d.encoding.name

end Decoder

end MeterPolling
