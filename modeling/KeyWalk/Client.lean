import KeyWalk.Call.SortedSet
import KeyWalk.Client.Transport
import KeyWalk.Walk

/-!
The client: calls and walks over a transport.

`client.run` makes one round trip.  The walks repeat scan steps until the store says that it is
done: `scanAll` gathers all pages, `scanAllStream` pushes all elements into one channel, `Pages`
yields page after page.  Nothing is sent twice, and the first failure ends a walk.

A blocking client and a client that waits for handles are the same client over two transports;
only the wording of a context differs.

Design notes.  A store may hand out cursors for ever, so a walk takes the greatest number of steps
that it may make, and its result is `none` if the walk is not over by then.
-/

namespace KeyWalk

/-- The knobs of a client. -/
structure ClientOptions where
  /-- The milliseconds to wait for a handle; `none` waits as long as it takes. -/
  timeout : Option Nat := some 30000
  /-- The count hint of scans that were given no arguments. -/
  scanCount : Option Nat := none
  deriving DecidableEq, Repr

/-- The scan arguments to send: the caller's, else the default count hint. -/
def ClientOptions.scanArgs (o : ClientOptions) (args : Option ScanArgs) : Option ScanArgs :=
  args.or (o.scanCount.map fun n => { count := some n })

/-- A transport with options and the wordings for a call and for a walk step that the transport
did not complete. -/
structure Client (σ : Type) where
  transport : Transport σ
  options : ClientOptions
  callContext : String → String
  stepContext : String → String

namespace Client

variable {σ γ ε α : Type}

/-- The context of a command that did not complete. -/
def incomplete (name : String) : String := name ++ " did not complete"

/-- A client that is answered at once. -/
def blocking (t : Transport σ) (options : ClientOptions) : Client σ :=
  ⟨t, options, incomplete, fun name => incomplete (name ++ " step")⟩

/-- A client that waits for handles. -/
def awaiting (d : Dispatcher σ) (options : ClientOptions) : Client σ :=
  ⟨d.awaited options.timeout, options, incomplete, incomplete⟩

/-! ### One round trip -/

/-- Sends a command and reads its reply. -/
def run (c : Client σ) (p : Prepared γ α) (s : σ) (g : γ) : Outcome α × σ × γ :=
  match c.transport.send p.command s with
  | (.error f, s₁) => (.error (f.context (c.callContext p.command.name)), s₁, g)
  | (.ok reply, s₁) =>
    let (result, g₁) := p.decode reply g
    (result, s₁, g₁)

/-- Runs a call unless its arguments were refused. -/
def attempt (c : Client σ) (p : Outcome (Prepared γ α)) (s : σ) (g : γ) : Outcome α × σ × γ :=
  match p with
  | .error f => (.error f, s, g)
  | .ok p => c.run p s g

/-- One scan step as a page. -/
def scan (c : Client σ) (kind : ScanKind ε) (key : Bytes) (cursor : Option Cursor)
    (args : Option ScanArgs) (s : σ) (g : γ) : Outcome (ScanPage ε) × σ × γ :=
  c.attempt (Call.scan kind key cursor (c.options.scanArgs args)) s g

/-- One scan step into a channel. -/
def scanStream (c : Client σ) (kind : ScanKind ε) (channel : Channel ε γ) (key : Bytes)
    (cursor : Option Cursor) (args : Option ScanArgs) (s : σ) (g : γ) :
    Outcome StreamedPage × σ × γ :=
  c.attempt (Call.scanStream kind channel key cursor (c.options.scanArgs args)) s g

/-! ### Walks -/

/-- Sends the command of a walk step. -/
def sendStep (c : Client σ) (command : Command) (s : σ) : Outcome Reply × σ :=
  let (result, s₁) := c.transport.send command s
  (withContext (c.stepContext command.name) result, s₁)

/-- The walk of a whole collection. -/
def walk (c : Client σ) (kind : ScanKind ε) (key : Bytes) (args : Option ScanArgs) : Walk ε :=
  .start kind key (c.options.scanArgs args)

/-- The rest of a walk, its pages behind `taken`. -/
def gather (c : Client σ) (limit : Nat) (w : Walk ε) (taken : List ε) (s : σ) :
    Option (Outcome (List ε)) × σ :=
  match w.nextCommand? with
  | .error f => (some (.error f), s)
  | .ok none => (some (.ok taken), s)
  | .ok (some command) =>
    match limit with
    | 0 => (none, s)
    | n + 1 =>
      match c.sendStep command s with
      | (.error f, s₁) => (some (.error f), s₁)
      | (.ok reply, s₁) =>
        match w.advance reply with
        | (.error f, _) => (some (.error f), s₁)
        | (.ok page, w₁) => c.gather n w₁ (taken ++ page) s₁

/-- The rest of a walk into a channel, behind `total` elements. -/
def pour (c : Client σ) (channel : Channel ε γ) (limit : Nat) (w : Walk ε) (total : Nat)
    (s : σ) (g : γ) : Option (Outcome Nat) × σ × γ :=
  match w.nextCommand? with
  | .error f => (some (.error f), s, g)
  | .ok none => (some (.ok total), s, g)
  | .ok (some command) =>
    match limit with
    | 0 => (none, s, g)
    | n + 1 =>
      match c.sendStep command s with
      | (.error f, s₁) => (some (.error f), s₁, g)
      | (.ok reply, s₁) =>
        match w.advanceStreaming channel reply g with
        | (.error f, _, g₁) => (some (.error f), s₁, g₁)
        | (.ok count, w₁, g₁) => c.pour channel n w₁ (total + count) s₁ g₁

/-- All elements of a collection, in at most `limit` steps.  Elements are not deduplicated. -/
def scanAll (c : Client σ) (limit : Nat) (kind : ScanKind ε) (key : Bytes)
    (args : Option ScanArgs) (s : σ) : Option (Outcome (List ε)) × σ :=
  c.gather limit (c.walk kind key args) [] s

/-- All elements of a collection into a channel, in at most `limit` steps; the result is their
number. -/
def scanAllStream (c : Client σ) (limit : Nat) (kind : ScanKind ε) (channel : Channel ε γ)
    (key : Bytes) (args : Option ScanArgs) (s : σ) (g : γ) : Option (Outcome Nat) × σ × γ :=
  c.pour channel limit (c.walk kind key args) 0 s g

end Client

/-! ### Page by page -/

/-- The pages of a walk that are yet to come: none after the last page or a failure. -/
structure Pages (ε : Type) where
  walk : Walk ε
  failed : Bool := false

namespace Pages

variable {σ ε : Type}

/-- The next page, one round trip away; `none` once the walk is over. -/
def next (c : Client σ) (p : Pages ε) (s : σ) : Option (Outcome (List ε)) × Pages ε × σ :=
  if p.failed then (none, p, s)
  else
    match p.walk.nextCommand? with
    | .error f => (some (.error f), { p with failed := true }, s)
    | .ok none => (none, p, s)
    | .ok (some command) =>
      match c.sendStep command s with
      | (.error f, s₁) => (some (.error f), { p with failed := true }, s₁)
      | (.ok reply, s₁) =>
        match p.walk.advance reply with
        | (.error f, w₁) => (some (.error f), ⟨w₁, true⟩, s₁)
        | (.ok page, w₁) => (some (.ok page), ⟨w₁, false⟩, s₁)

/-- The pages to come, at most `limit`, each with the walk behind it. -/
def take (c : Client σ) (limit : Nat) (p : Pages ε) (s : σ) :
    List (Outcome (List ε) × Walk ε) × Pages ε × σ :=
  match limit with
  | 0 => ([], p, s)
  | n + 1 =>
    match p.next c s with
    | (none, p₁, s₁) => ([], p₁, s₁)
    | (some page, p₁, s₁) =>
      let (rest, p₂, s₂) := p₁.take c n s₁
      ((page, p₁.walk) :: rest, p₂, s₂)

end Pages

/-- The pages of a whole collection. -/
def Client.pages {σ ε : Type} (c : Client σ) (kind : ScanKind ε) (key : Bytes)
    (args : Option ScanArgs) : Pages ε :=
  { walk := c.walk kind key args }

/-- A number of steps that is enough to walk a collection that does not change: each step moves
on by at least one entry, and there is at least one step. -/
def Store.walkLimit (s : Store) (key : Bytes) : Nat := s.cardinality key + 1

end KeyWalk
