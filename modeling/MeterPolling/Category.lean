namespace MeterPolling

inductive Category where
  | abb
  | schneider
  deriving DecidableEq, Repr

structure UnsupportedDevice where
  name : String
  deriving DecidableEq, Repr

def UnsupportedDevice.message (e : UnsupportedDevice) : String := s!"device `{e.name}` is not supported"

namespace Category

def all : List Category := [.abb, .schneider]

def name : Category → String
  | .abb => "abb"
  | .schneider => "schneider"

def parse (s : String) : Except UnsupportedDevice Category :=
  match all.find? (·.name = s) with
  | some c => .ok c
  | none => .error ⟨s⟩

end Category

end MeterPolling
