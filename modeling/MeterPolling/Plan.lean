import MeterPolling.Category
import MeterPolling.Command

namespace MeterPolling

def maxRegisters : Nat := 123

inductive CommandDefect where
  | emptyRead
  | longRead
  | countMismatch
  | emptyWrite
  | longWrite
  deriving DecidableEq, Repr

def CommandDefect.message : CommandDefect → String
  | .emptyRead => "reads must request at least one register"
  | .longRead => "reads of > 123 registers aren't universally supported"
  | .countMismatch => "read count does not match its decoder"
  | .emptyWrite => "writes must carry at least one value"
  | .longWrite => "writes of > 123 registers aren't supported"

def Command.defect? : Command → Option CommandDefect
  | .read c =>
    if c.count.toNat = 0 then some .emptyRead
    else if maxRegisters < c.count.toNat then some .longRead
    else
      match c.decoder.words with
      | some n => if n = c.count.toNat then none else some .countMismatch
      | none => none
  | .write c =>
    if c.values.length = 0 then some .emptyWrite
    else if maxRegisters < c.values.length then some .longWrite
    else none

/--
The commands of one cycle, in order. Each of them fits a single request, and a read asks for as many words as its
decoder takes.
-/
structure Plan where
  category : Category
  commands : List Command
  sound : ∀ c ∈ commands, c.defect? = none := by decide
  deriving Repr

namespace Plan

/-- The plan of these commands, or what is wrong with the first one that does not fit. -/
def ofCommands (category : Category) (commands : List Command) : Except CommandDefect Plan :=
  match h : commands.findSome? Command.defect? with
  | some defect => .error defect
  | none => .ok ⟨category, commands, by simpa using h⟩

def abb : Plan where
  category := .abb
  commands := [
    .read ⟨"Type designation", 0x8960, 6, ⟨.ascii, []⟩⟩,
    .read ⟨"Serial number", 0x8900, 2, ⟨.u32, []⟩⟩,
    .read ⟨"Active power", 0x5B14, 2, ⟨.i32, []⟩⟩,
    .read ⟨"Active power export L1", 0x546C, 4, ⟨.raw, []⟩⟩,
    .read ⟨"Reactive power", 0x5B1C, 2, ⟨.raw, []⟩⟩,
    .read ⟨"Reactive import", 0x500C, 2, ⟨.u32, []⟩⟩,
    .read ⟨"Reactive export", 0x5010, 2, ⟨.u32, []⟩⟩,
    .read ⟨"Reactive net", 0x5014, 2, ⟨.i32, []⟩⟩,
    .read ⟨"Active import", 0x5000, 2, ⟨.u32, []⟩⟩,
    .read ⟨"Active export", 0x5004, 2, ⟨.u32, []⟩⟩,
    .read ⟨"Active net", 0x5008, 2, ⟨.i32, []⟩⟩,
    .read ⟨"Tariff configuration", 0x8C90, 1, ⟨.raw, []⟩⟩,
    .read ⟨"Tariff", 0x8A07, 1, ⟨.raw, []⟩⟩]

def schneiderTariff : UInt16 := 0x105E

/-- Each tariff that is selected is read back, to see that the meter took it. -/
def schneider : Plan where
  category := .schneider
  commands := [
    .read ⟨"Model", 0x0031, 20, ⟨.utf8, []⟩⟩,
    .read ⟨"Serial number", 0x0081, 2, ⟨.u32, []⟩⟩,
    .read ⟨"Active power", 0x0BF3, 2, ⟨.f32, []⟩⟩,
    .read ⟨"Active energy import total", 0x0C83, 4, ⟨.i64, []⟩⟩,
    .read ⟨"Active energy import L1", 0x0DBD, 4, ⟨.i64, []⟩⟩,
    .read ⟨"Active energy import L2", 0x0DC1, 4, ⟨.i64, []⟩⟩,
    .read ⟨"Active energy import L3", 0x0DC5, 4, ⟨.i64, []⟩⟩,
    .write ⟨"Tariff daily", schneiderTariff, [1]⟩,
    .read ⟨"Tariff", schneiderTariff, 1, ⟨.raw, []⟩⟩,
    .write ⟨"Tariff nightly", schneiderTariff, [2]⟩,
    .read ⟨"Tariff", schneiderTariff, 1, ⟨.raw, []⟩⟩]

end Plan

structure Registry where
  plans : List Plan := []

namespace Registry

/-- A plan replaces an earlier one of its category. -/
def add (r : Registry) (p : Plan) : Registry := ⟨p :: r.plans⟩

def get (r : Registry) (c : Category) : Except UnsupportedDevice Plan :=
  match r.plans.find? (·.category = c) with
  | some p => .ok p
  | none => .error ⟨c.name⟩

def builtin : Registry := (({} : Registry).add .abb).add .schneider

end Registry

end MeterPolling
