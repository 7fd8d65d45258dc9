import KeyWalk.Call.SortedSet
import KeyWalk.Store.Fault
import KeyWalk.Store.ScanWindow

/-!
What becomes of the error replies of a store.

Of the faults that stored data or a pattern are blamed for (`Fault.OfData`), only that of the wrong
type begins with `WRONGTYPE`, and none speaks of a cursor (`Fault.OfData.startsWith_message`,
`Fault.OfData.not_isCursorRejection`), as long as no reason for which a pattern is refused does
(`GlobEngine.OfPatterns`).  So a caller sees the status of the fault:

* `Reply.Checked read`: the reader looks for an error reply first,
* `Prepared.Relays p fault`: the call hands the error reply on as a failure with the status of the
  fault, whatever it expected; calls are made of checked readers, so all of them do,
* `Prepared.splitScanReply_message`: a scan step also tells that its cursor was refused.
-/

namespace KeyWalk

/-! ### The texts of faults -/

/-- The reasons for which patterns are refused are about patterns: none is taken for a complaint
about a cursor. -/
def GlobEngine.OfPatterns [GlobEngine] : Prop :=
  ∀ pattern reason, compile pattern = .error reason → isCursorRejection reason = false

namespace Fault

/-- The kind of failure that the fault becomes. -/
def status : Fault → StatusCode
  | wrongType => .wrongType
  | invalidCursor => .invalidCursor
  | _ => .serverError

/-- The fault is in what the store holds or in a pattern, not in the form of the arguments, and the
reason that a pattern is refused for does not speak of a cursor. -/
def OfData : Fault → Prop
  | wrongType | hashNotInteger | hashNotFloat | overflow | notFinite => True
  | pattern reason => isCursorRejection reason = false
  | _ => False

theorem OfData.startsWith_message {f : Fault} (h : f.OfData) (kind : CommandKind) :
    (f.message kind).startsWith "WRONGTYPE" = decide (f = wrongType) := by
  rw [Bool.eq_iff_iff, String.startsWith_string_iff, decide_eq_true_iff]
  delta message
  cases f with
  | wrongType | hashNotInteger | hashNotFloat | overflow | notFinite =>
    rw [String.toList_ofList, String.toList_ofList]
    decide
  | pattern reason =>
    dsimp only
    rw [String.toList_append, String.toList_ofList, String.toList_ofList]
    simp
  | badSyntax | arity | notInteger | notFloat | scoreRange | lexRange | invalidCursor | noKeys =>
    exact h.elim

theorem OfData.not_isCursorRejection {f : Fault} (h : f.OfData) (kind : CommandKind) :
    isCursorRejection (f.message kind) = false := by
  rw [isCursorRejection, String.toList_ofList]
  delta message
  cases f with
  | wrongType | hashNotInteger | hashNotFloat | overflow | notFinite =>
    rw [String.toList_ofList]
    decide
  | pattern reason =>
    -- what is in front of the reason has no beginning of the words in it that the reason could end
    replace h : isCursorRejection reason = false := h
    rw [isCursorRejection, String.toList_ofList] at h
    dsimp only
    rw [String.toList_append, String.toList_ofList]
    simpa [Text.lower, occursIn, List.isPrefixOf] using h
  | badSyntax | arity | notInteger | notFloat | scoreRange | lexRange | invalidCursor | noKeys =>
    exact h.elim

end Fault

/-! ### Readers -/

namespace Reply

variable {α β : Type}

/-- The reader looks for an error reply first. -/
def Checked (read : Reply → Outcome α) : Prop := ∀ r f, r.check = .error f → read r = .error f

theorem Checked.bind {read : Reply → Outcome α} (h : Checked read) (next : α → Outcome β) :
    Checked fun r => read r >>= next := by
  intro r f hf
  show read r >>= next = _
  rw [h r f hf]
  rfl

theorem checked_check : Checked check := fun _ _ h => h

theorem checked_readInteger (command : String) : Checked (readInteger command) :=
  checked_check.bind _

theorem checked_readBool (command : String) : Checked (readBool command) :=
  (checked_readInteger command).bind _

theorem checked_readOptionalInteger (command : String) : Checked (readOptionalInteger command) :=
  checked_check.bind _

theorem checked_readStatus (command : String) : Checked (readStatus command) :=
  checked_check.bind _

theorem checked_readBulk (command : String) : Checked (readBulk command) := checked_check.bind _

theorem checked_readScore (command : String) : Checked (readScore command) := checked_check.bind _

theorem checked_readRequiredScore (command absent : String) :
    Checked (readRequiredScore command absent) :=
  (checked_readScore command).bind _

theorem checked_readArray (command : String) : Checked (readArray command) := checked_check.bind _

/-- The failure of an error reply has the status of the fault. -/
theorem check_message {fault : Fault} (h : fault.OfData) (kind : CommandKind) :
    ∃ f, check (.error (fault.message kind)) = .error f ∧ f.status = fault.status := by
  rw [check, h.startsWith_message]
  -- a reader knows the fault of the wrong type by its text, and takes every other for the server's
  by_cases hwrong : fault = .wrongType
  · subst hwrong
    exact ⟨_, rfl, rfl⟩
  · rw [decide_eq_false hwrong]
    refine ⟨_, rfl, ?_⟩
    cases fault with
    | wrongType => exact absurd rfl hwrong
    | invalidCursor => exact h.elim
    | _ => rfl

end Reply

/-! ### Calls -/

namespace Prepared

variable {γ α β ε : Type} {c : Command} {fault : Fault}

/-- The call hands the error reply for a fault on as a failure with the status of the fault, and
nothing goes into a channel. -/
def Relays (p : Prepared γ α) (fault : Fault) : Prop :=
  ∀ g, ∃ f, p.decode (.error (fault.message p.command.kind)) g = (.error f, g) ∧
    f.status = fault.status

theorem relays_reading {read : Reply → Outcome α} (h : Reply.Checked read)
    (hfault : fault.OfData) : (reading (γ := γ) c read).Relays fault := by
  intro g
  obtain ⟨f, hcheck, hstatus⟩ := Reply.check_message hfault c.kind
  refine ⟨f, ?_, hstatus⟩
  show (read (.error (fault.message c.kind)), g) = _
  rw [h _ f hcheck]

theorem relays_collected (reader : Reader ε) (hfault : fault.OfData) :
    (collected (γ := γ) reader c).Relays fault :=
  relays_reading ((Reply.checked_readArray c.name).bind _) hfault

theorem relays_streamed (reader : Reader ε) (channel : Channel ε γ) (hfault : fault.OfData) :
    (streamed reader channel c).Relays fault := by
  intro g
  obtain ⟨f, hcheck, hstatus⟩ := Reply.check_message hfault c.kind
  refine ⟨f, ?_, hstatus⟩
  simp only [streamed, Reply.checked_readArray c.name _ f hcheck]

theorem Relays.map {p : Prepared γ α} (h : p.Relays fault) (next : α → β) :
    (p.map next).Relays fault := by
  intro g
  obtain ⟨f, hdecode, hstatus⟩ := h g
  refine ⟨f, ?_, hstatus⟩
  simp only [Prepared.map, hdecode]
  rfl

/-! ### Scan steps -/

/-- A step says so when its cursor was refused, and takes every other error for what it is. -/
theorem splitScanReply_message (hfault : fault.OfData ∨ fault = .invalidCursor)
    (kind : CommandKind) (command : String) :
    ∃ f, splitScanReply command (.error (fault.message kind)) = .error f ∧
      f.status = fault.status := by
  rcases hfault with hdata | rfl
  · -- no fault of the data speaks of a cursor, so it is left to the reader
    obtain ⟨f, hcheck, hstatus⟩ := Reply.check_message hdata kind
    refine ⟨f, ?_, hstatus⟩
    simp only [splitScanReply, hdata.not_isCursorRejection, Bool.false_eq_true, if_false,
      Reply.checked_readArray command _ f hcheck]
    rfl
  · have hrejected : isCursorRejection (Fault.invalidCursor.message kind) = true := by
      rw [isCursorRejection, String.toList_ofList]
      delta Fault.message
      rw [String.toList_ofList]
      decide
    refine ⟨.ofCause (.invalidCursor (Fault.invalidCursor.message kind)), ?_, rfl⟩
    simp only [splitScanReply, hrejected, if_true]
    rfl

variable {kind : ScanKind ε}

theorem relays_scan (hfault : fault.OfData ∨ fault = .invalidCursor) :
    (reading (γ := γ) c (scanPage kind)).Relays fault := by
  intro g
  obtain ⟨f, hsplit, hstatus⟩ := splitScanReply_message hfault c.kind kind.command.name
  refine ⟨f, ?_, hstatus⟩
  show (scanPage kind (.error (fault.message c.kind)), g) = _
  rw [scanPage, hsplit]
  rfl

theorem relays_scanStream (channel : Channel ε γ)
    (hfault : fault.OfData ∨ fault = .invalidCursor) :
    (⟨c, scanStream kind channel⟩ : Prepared γ StreamedPage).Relays fault := by
  intro g
  obtain ⟨f, hsplit, hstatus⟩ := splitScanReply_message hfault c.kind kind.command.name
  refine ⟨f, ?_, hstatus⟩
  simp only [scanStream, hsplit]

end Prepared

end KeyWalk
