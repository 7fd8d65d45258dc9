import KeyWalk.Store.Request

/-!
The store: collections under keys.

`Store.apply` answers a command.  The request is read first; then it acts on the collection under
its key, an absent key counting as an empty collection.

* `s.read shape key` is the collection of one shape under a key,
* `s.write shape key change` changes it in place; a collection that comes out empty is not kept,
* `s.putSet key z` replaces whatever the key held.

Design notes.  A change that fails is not undone: whatever it made of a collection that was there
stays in the store.  That a refused command changes nothing is a property of the changes.
-/

namespace KeyWalk

/-- What a key holds. -/
inductive Collection where
  | hash (h : Hash)
  | sortedSet (z : SortedSet)
  deriving DecidableEq

/-- One of the types of collections: its empty one, and the collections of that type. -/
structure Shape (α : Type) where
  empty : α
  isEmpty : α → Bool
  pack : α → Collection
  unpack? : Collection → Option α
  isEmpty_empty : isEmpty empty = true
  unpack?_eq_some_iff : ∀ c a, unpack? c = some a ↔ c = pack a

namespace Shape

/-- Hashes. -/
def hash : Shape Hash where
  empty := ByteMap.empty
  isEmpty := ByteMap.isEmpty
  pack := .hash
  unpack?
    | .hash h => some h
    | .sortedSet _ => none
  isEmpty_empty := rfl
  unpack?_eq_some_iff c a := by cases c <;> simp

/-- Sorted sets. -/
def sortedSet : Shape SortedSet where
  empty := SortedSet.empty
  isEmpty := SortedSet.isEmpty
  pack := .sortedSet
  unpack?
    | .sortedSet z => some z
    | .hash _ => none
  isEmpty_empty := rfl
  unpack?_eq_some_iff c a := by cases c <;> simp

end Shape

/-- Collections under keys. -/
structure Store where
  collections : ByteMap Collection
  deriving DecidableEq

namespace Store

variable {α β : Type}

/-- The store without keys. -/
def empty : Store := ⟨ByteMap.empty⟩

instance : Inhabited Store := ⟨empty⟩

/-- The number of keys. -/
def size (s : Store) : Nat := s.collections.size

/-- The store has no keys. -/
def isEmpty (s : Store) : Bool := s.collections.isEmpty

/-- What the key holds. -/
def get? (s : Store) (key : Bytes) : Option Collection := s.collections.get? key

/-- The key holds something. -/
def contains (s : Store) (key : Bytes) : Bool := s.collections.contains key

/-- The store with a collection under a key. -/
def put (s : Store) (key : Bytes) (c : Collection) : Store := ⟨s.collections.insert key c⟩

/-- The store without a key. -/
def delete (s : Store) (key : Bytes) : Store := ⟨s.collections.erase key⟩

/-! ### Collections under a key -/

/-- The collection of a shape under a key; an absent key counts as an empty one. -/
def read (s : Store) (shape : Shape α) (key : Bytes) : Except Fault α :=
  match s.get? key with
  | none => .ok shape.empty
  | some c =>
    match shape.unpack? c with
    | none => .error .wrongType
    | some a => .ok a

/-- Changes the collection of a shape under a key in place.  An absent key gets a collection only
from a change that succeeds and does not leave it empty; a collection that is emptied goes with
its key. -/
def write (s : Store) (shape : Shape α) (key : Bytes) (change : α → Except Fault β × α) :
    Except Fault β × Store :=
  match s.get? key with
  | none =>
    match change shape.empty with
    | (.error f, _) => (.error f, s)
    | (.ok r, a) => (.ok r, if shape.isEmpty a then s else s.put key (shape.pack a))
  | some c =>
    match shape.unpack? c with
    | none => (.error .wrongType, s)
    | some a =>
      match change a with
      | (.error f, a₁) => (.error f, s.put key (shape.pack a₁))
      | (.ok r, a₁) =>
        (.ok r, if shape.isEmpty a₁ then s.delete key else s.put key (shape.pack a₁))

/-- Puts a sorted set under a key, whatever the key held; an empty one drops the key. -/
def putSet (s : Store) (key : Bytes) (z : SortedSet) : Store :=
  if z.isEmpty then s.delete key else s.put key (.sortedSet z)

/-- The scores of the weighted sources of a combination, in order. -/
def readSources (s : Store) (sources : List (Score × Bytes)) :
    Except Fault (List (Score × ByteMap Score)) :=
  sources.mapM fun (w, key) => do
    let z ← s.read .sortedSet key
    return (w, z.scores)

/-! ### Commands -/

/-- The reply to a request or a fault, and the store afterwards. -/
def answer (s : Store) : Request → Except Fault Reply × Store
  | .askHash key query => ((s.read .hash key).map query.answer, s)
  | .changeHash key update => s.write .hash key update.run
  | .askSet key query => ((s.read .sortedSet key).map query.answer, s)
  | .changeSet key update => s.write .sortedSet key update.run
  | .combine mode destination sources op =>
    match s.readSources sources with
    | .error f => (.error f, s)
    | .ok weighted =>
      let result := aggregate mode op weighted
      (.ok (.count result.size), s.putSet destination (.ofScores result))

/-- The reply to a command, and the store afterwards.  A refusal is an error reply. -/
def apply [GlobEngine] (s : Store) (c : Command) : Reply × Store :=
  match Request.ofCommand c with
  | .error f => (.error (f.message c.kind), s)
  | .ok request =>
    match s.answer request with
    | (.error f, s₁) => (.error (f.message c.kind), s₁)
    | (.ok reply, s₁) => (reply, s₁)

/-- The number of entries under a key. -/
def cardinality (s : Store) (key : Bytes) : Nat :=
  match s.get? key with
  | none => 0
  | some (.hash h) => h.size
  | some (.sortedSet z) => z.size

end Store

end KeyWalk
