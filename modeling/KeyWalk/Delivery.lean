import KeyWalk.Reply

/-!
Delivery: the elements of a reply, one at a time, into a channel.

A `Reader` says how many tokens make an element and how they are read.  A `Channel` takes
elements and may refuse one; its state is whatever it keeps.

* `deliver` refuses a token list that does not split into whole elements before anything is
  accepted; then it accepts elements in order until one cannot be read or is refused, and nothing
  after it,
* `collect` is delivery into a channel that takes everything.
-/

namespace KeyWalk

/-! ### Elements -/

/-- A field of a hash with its value. -/
structure KeyValue where
  key : Bytes
  value : Bytes
  deriving DecidableEq, Repr

/-- A member of a sorted set with its score. -/
structure ScoredValue where
  score : Score
  value : Bytes
  deriving DecidableEq, Repr

/-- How one element is read: from a single token, or from a pair of neighbours.  The text is the
name of the command, for complaints. -/
inductive Reader (ε : Type) where
  | single (read : String → Reply → Outcome ε)
  | paired (read : String → Reply → Reply → Outcome ε)

namespace Reader

variable {ε : Type}

/-- The number of tokens of one element. -/
def arity : Reader ε → Nat
  | single _ => 1
  | paired _ => 2

/-- A byte string. -/
def bytes : Reader Bytes := single Reply.readRequiredBulk

/-- A byte string or nothing. -/
def optionalBytes : Reader (Option Bytes) := single Reply.readBulk

/-- A field and its value. -/
def keyValue : Reader KeyValue := paired fun command k v => do
  let key ← k.readRequiredBulk command
  let value ← v.readRequiredBulk command
  return ⟨key, value⟩

/-- A member and its score. -/
def scoredValue : Reader ScoredValue := paired fun command m s => do
  let value ← m.readRequiredBulk command
  let score ← s.readRequiredScore command "nil score"
  return ⟨score, value⟩

/-- The elements of a token list, each read or failed on its own; tokens that do not make a whole
element at the end are left out. -/
def elements (command : String) : Reader ε → List Reply → List (Outcome ε)
  | single read, tokens => tokens.map (read command)
  | paired _, [] => []
  | paired _, [_] => []
  | paired read, a :: b :: rest => read command a b :: elements command (paired read) rest

end Reader

/-! ### Channels -/

/-- A channel with state `γ`: an element is accepted, or refused with a failure. -/
structure Channel (ε γ : Type) where
  accept : ε → γ → Option Failure × γ

namespace Channel

variable {ε γ : Type}

/-- Takes everything and keeps it. -/
def collector : Channel ε (List ε) := ⟨fun e taken => (none, taken ++ [e])⟩

/-- Takes `n` elements and keeps them, then refuses with `fault`. -/
def refusingAfter (n : Nat) (fault : Failure) : Channel ε (List ε) :=
  ⟨fun e taken => if taken.length < n then (none, taken ++ [e]) else (some fault, taken)⟩

end Channel

/-! ### Delivery -/

/-- The failure of a command whose channel refused the element at `position`: the full text of the
refusal is the reason, and its contexts are carried over. -/
def Failure.ofRefusal (position : Nat) (fault : Failure) : Failure :=
  ⟨.channelFault position fault.message, fault.contexts⟩

/-- Accepts the elements in order, `position` being the number accepted before, until one failed to
be read or is refused. -/
def feed {ε γ : Type} (channel : Channel ε γ) : Nat → List (Outcome ε) → γ → Outcome Nat × γ
  | position, [], g => (.ok position, g)
  | _, .error f :: _, g => (.error f, g)
  | position, .ok e :: rest, g =>
    match channel.accept e g with
    | (none, g₁) => feed channel (position + 1) rest g₁
    | (some fault, g₁) => (.error (.ofRefusal position fault), g₁)

/-- Delivers the elements of a token list; the answer is their number. -/
def deliver {ε γ : Type} (reader : Reader ε) (command : String) (channel : Channel ε γ)
    (tokens : List Reply) (g : γ) : Outcome Nat × γ :=
  if tokens.length % reader.arity ≠ 0 then
    (fail (.malformed command (toString tokens.length ++
      " tokens do not form whole elements of arity " ++ toString reader.arity)), g)
  else feed channel 0 (reader.elements command tokens) g

/-- The elements of a token list. -/
def collect {ε : Type} (reader : Reader ε) (command : String) (tokens : List Reply) :
    Outcome (List ε) :=
  match deliver reader command Channel.collector tokens [] with
  | (.ok _, taken) => .ok taken
  | (.error f, _) => .error f

end KeyWalk
