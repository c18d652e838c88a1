namespace MeterPolling.Options

inductive UsageError where
  | unknown
  | invalidValue
  | rejected (reason : String)
  /-- A value on which the reading breaks off at once, with the complaint. -/
  | broken (complaint : String)
  | conflict
  | missing
  | unexpectedValue
  | help
  | version
  deriving DecidableEq, Repr

inductive Action (α : Type) where
  | switch (set : α → α)
  | value (set : String → α → Except UsageError α)
  | instead (request : UsageError)

structure Spec (α : Type) where
  long : String
  short : Option Char := none
  action : Action α

structure Progress (α : Type) where
  settings : α
  given : List String := []
  /-- The option whose value is not read yet, with the value once it is there. -/
  pending : Option (Spec α × Option String) := none

namespace Progress

variable {α : Type}

def apply (p : Progress α) (o : Spec α) (value : String) : Except UsageError (Progress α) :=
  if o.long ∈ p.given then .error .conflict
  else
    let done settings := { settings, given := o.long :: p.given, pending := none }
    match o.action with
    | .switch set => .ok (done (set p.settings))
    | .value set => (set value p.settings).map done
    | .instead request => .error request

def settle (p : Progress α) : Except UsageError (Progress α) :=
  match p.pending with
  | none => .ok p
  | some (_, none) => .error .invalidValue
  | some (o, some value) => { p with pending := none }.apply o value

/-- An error at the argument at hand. The value before it is still read, but only a break of that is noticed. -/
def refuse {β : Type} (p : Progress α) (e : UsageError) : Except UsageError β :=
  match p.settle with
  | .error (.broken complaint) => .error (.broken complaint)
  | _ => .error e

def meet (p : Progress α) (o : Spec α) (attached : Option String) : Except UsageError (Progress α) :=
  match o.action, attached with
  | .value _, none => p.settle.map fun p => { p with pending := some (o, none) }
  | .value _, some value => p.settle.bind (·.apply o value)
  | _, none => p.settle.bind (·.apply o "")
  | _, some _ => p.refuse .unexpectedValue

/-- The options of a group of short ones; the first that takes a value takes the rest. -/
def meetShort (specs : List (Spec α)) (p : Progress α) : List Char → Except UsageError (Progress α)
  | [] => .ok p
  | c :: rest =>
    match specs.find? (·.short = some c) with
    | none => p.refuse .unknown
    | some o =>
      match o.action with
      | .value _ =>
        let attached := match rest with
          | [] => none
          | '=' :: value => some (String.ofList value)
          | value => some (String.ofList value)
        p.meet o attached
      | _ => do meetShort specs (← p.meet o none) rest

def splitEquals (cs : List Char) : String × Option String :=
  let name := cs.takeWhile (· ≠ '=')
  match cs.dropWhile (· ≠ '=') with
  | [] => (String.ofList name, none)
  | _ :: value => (String.ofList name, some (String.ofList value))

/--
Reads arguments up to the end. The value of an option is read when the next option is met, so that an unknown
argument behind it is reported first, unless reading the value breaks off.
-/
def readAll (specs : List (Spec α)) : List String → Progress α → Except UsageError (Progress α)
  | [], p => p.settle
  | argument :: rest, p =>
    match argument.toList with
    | ['-', '-'] => if rest.isEmpty then p.settle else p.refuse .unknown
    | '-' :: '-' :: cs =>
      let (name, value) := splitEquals cs
      match specs.find? (·.long = name) with
      | none => p.refuse .unknown
      | some o => do readAll specs rest (← p.meet o value)
    | '-' :: c :: cs => do readAll specs rest (← p.meetShort specs (c :: cs))
    | _ =>
      match p.pending with
      | some (o, none) => readAll specs rest { p with pending := some (o, some argument) }
      | _ => p.refuse .unknown

end Progress

def helpSpec {α : Type} : Spec α := ⟨"help", some 'h', .instead .help⟩

end MeterPolling.Options
