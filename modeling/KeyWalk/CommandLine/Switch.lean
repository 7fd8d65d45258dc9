/-
Switches: the options of a command line, level by level.

A level has switches and the names of the levels below it.  `Switch.readLevel` goes through the
arguments of a level up to such a name; the caller goes on with the rest.

* A long switch is `--name`, its value `--name=value` or the next argument; a short one is `-n`,
  its value `-nvalue`, `-n=value` or the next argument.  Short switches without values may share
  one argument.
* A value in an argument of its own must not look like a switch, a single `-` aside.
* A switch is given once.

Design notes.  A value in an argument of its own is checked when the next switch of its level is
read, or at the end of the level, and so after the levels below it.
-/

namespace KeyWalk

/-- Why reading ends early. -/
inductive Stop where
  /-- The arguments are not as they should be. -/
  | misuse
  /-- A text was asked for instead. -/
  | answer (text : String)
  deriving DecidableEq, Repr

/-- What a switch does to the options of its level. -/
inductive Effect (ρ : Type) where
  | flag (set : ρ → ρ)
  /-- A value that is not accepted gives `none`. -/
  | value (set : String → ρ → Option ρ)
  | stop (text : String)

/-- A switch. -/
structure Switch (ρ : Type) where
  long : String
  short : Option Char := none
  effect : Effect ρ

/-- What was read of a level: its options, the switches given, and a value that is still to be
checked. -/
structure Progress (ρ : Type) where
  options : ρ
  given : List String := []
  waiting : Option (String × (ρ → Option ρ)) := none

namespace Progress

variable {ρ : Type}

/-- Takes a switch that is given for the first time. -/
def take (name : String) (set : ρ → Option ρ) (p : Progress ρ) : Except Stop (Progress ρ) :=
  if p.given.contains name then .error .misuse
  else match set p.options with
    | none => .error .misuse
    | some options => .ok { p with options, given := name :: p.given }

/-- Checks the value that is waiting. -/
def settle (p : Progress ρ) : Except Stop (Progress ρ) :=
  match p.waiting with
  | none => .ok p
  | some (name, set) => { p with waiting := none }.take name set

end Progress

namespace Switch

variable {ρ : Type}

/-- The argument looks like a switch. -/
def looksLike (arg : String) : Bool :=
  match arg.toList with
  | '-' :: _ :: _ => true
  | _ => false

/-- A long switch with an optional value; the answer names a switch that needs the next
argument. -/
def readLong (switches : List (Switch ρ)) (name : String) (attached : Option String)
    (p : Progress ρ) : Except Stop (Progress ρ × Option (String × (String → ρ → Option ρ))) := do
  match switches.find? fun s => s.long == name with
  | none => .error .misuse
  | some s =>
    let p ← p.settle
    match s.effect, attached with
    | .flag set, none => return (← p.take s.long fun o => some (set o), none)
    | .stop text, none => .error (.answer text)
    | .value set, some v => return (← p.take s.long (set v), none)
    | .value set, none => return (p, some (s.long, set))
    | _, some _ => .error .misuse

/-- The short switches that share an argument. -/
def readShorts (switches : List (Switch ρ)) : List Char → Progress ρ →
    Except Stop (Progress ρ × Option (String × (String → ρ → Option ρ)))
  | [], p => .ok (p, none)
  | c :: cs, p => do
    match switches.find? fun s => s.short == some c with
    | none => .error .misuse
    | some s =>
      let p ← p.settle
      match s.effect with
      | .flag set => readShorts switches cs (← p.take s.long fun o => some (set o))
      | .stop text => .error (.answer text)
      | .value set =>
        match cs with
        | [] => return (p, some (s.long, set))
        | '=' :: v => return (← p.take s.long (set (String.ofList v)), none)
        | v => return (← p.take s.long (set (String.ofList v)), none)

/-- One argument with switches; a single `-` has none. -/
def readArgument (switches : List (Switch ρ)) (cs : List Char) (p : Progress ρ) :
    Except Stop (Progress ρ × Option (String × (String → ρ → Option ρ))) :=
  match cs with
  | '-' :: '-' :: r =>
    let attached := match r.dropWhile (· ≠ '=') with
      | [] => none
      | _ :: v => some (String.ofList v)
    readLong switches (String.ofList (r.takeWhile (· ≠ '='))) attached p
  | '-' :: c :: r => readShorts switches (c :: r) p
  | _ => .error .misuse

/-- The arguments of a level up to the name of a level below, which is returned with the arguments
behind it.  Nothing may follow `--`, as no level has arguments without a switch. -/
def readLevel (switches : List (Switch ρ)) (below : List String) :
    Progress ρ → List String → Except Stop (Progress ρ × Option (String × List String))
  | p, [] => .ok (p, none)
  | p, arg :: rest =>
    if below.contains arg then .ok (p, some (arg, rest))
    else if arg = "--" then
      if rest.isEmpty then .ok (p, none) else .error .misuse
    else
      match readArgument switches arg.toList p with
      | .error stop => .error stop
      | .ok (p, none) => readLevel switches below p rest
      | .ok (p, some (name, set)) =>
        match rest with
        | [] => .error .misuse
        | v :: rest =>
          if looksLike v then .error .misuse
          else readLevel switches below { p with waiting := some (name, set v) } rest

end Switch

end KeyWalk
