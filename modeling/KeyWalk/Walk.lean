import KeyWalk.Cursor

/-!
Walks over a whole collection.

A walk holds the key, the scan arguments and the cursor state.  A round is `nextCommand?`, then
`advance` or `advanceStreaming` with the reply.  A failed step leaves the walk as it was, and no
step is ever sent again by the walk itself.
-/

namespace KeyWalk

/-- A walk over the collection under a key. -/
structure Walk (ε : Type) where
  kind : ScanKind ε
  key : Bytes
  args : Option ScanArgs
  state : CursorState
  /-- The steps that this walk has completed. -/
  steps : Nat

namespace Walk

variable {ε γ : Type}

/-- A fresh walk. -/
def start (kind : ScanKind ε) (key : Bytes) (args : Option ScanArgs) : Walk ε :=
  ⟨kind, key, args, .initial, 0⟩

/-- A walk that continues from a cursor obtained earlier. -/
def resume (kind : ScanKind ε) (key : Bytes) (cursor : Cursor) (args : Option ScanArgs) : Walk ε :=
  ⟨kind, key, args, .after cursor, 0⟩

/-- The walk is over. -/
def isDone (w : Walk ε) : Bool := w.state.isDone

/-- The request of the next step, `none` once the walk is over. -/
def nextCommand? (w : Walk ε) : Outcome (Option Command) :=
  if w.isDone then .ok none
  else some <$> scanCommand w.kind w.key w.state.cursor? w.args

/-- The walk after one more step that handed back a cursor. -/
def record (w : Walk ε) (cursor : Cursor) : Walk ε :=
  { w with steps := w.steps + 1, state := .after cursor }

/-- Takes the reply of a step as a list of elements. -/
def advance (w : Walk ε) (reply : Reply) : Outcome (List ε) × Walk ε :=
  match scanPage w.kind reply with
  | .ok page => (.ok page.elements, w.record page.cursor)
  | .error f => (.error f, w)

/-- Takes the reply of a step into a channel; the answer is the number of elements. -/
def advanceStreaming (w : Walk ε) (channel : Channel ε γ) (reply : Reply) (g : γ) :
    Outcome Nat × Walk ε × γ :=
  match scanStream w.kind channel reply g with
  | (.ok page, g₁) => (.ok page.count, w.record page.cursor, g₁)
  | (.error f, g₁) => (.error f, w, g₁)

end Walk

end KeyWalk
