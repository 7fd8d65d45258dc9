import KeyWalk.Proofs.Course

/-!
Walks into a channel.

A walk into a channel and the walk that gathers its pages go through the same legs.  So the two
differ by what the channel does alone: if it takes everything then they end in the same way, and if
it refuses an element then the walk into it ends with the page of that element.
-/

namespace KeyWalk.Client

variable {σ ε γ : Type} {kind : ScanKind ε} {key : Bytes} {args : Option ScanArgs} {limit : Nat}
  {channel : Channel ε γ}

/-- **A walk into a channel that takes everything** goes the way of the walk that gathers its
pages, over every transport.  Both send the same commands and leave the transport in the same
state; both are over, fail or are cut short alike; the count is the number of elements gathered,
and they all went into the channel.  If the walks fail then with the same failure, and the channel
got all pages that were read before, and of the page that could not be read some first elements. -/
theorem scanAllStream_of_accepts (t : Transport σ) (options : ClientOptions) (kind : ScanKind ε)
    (key : Bytes) (args : Option ScanArgs) (limit : Nat) (s : σ) (log : List Command)
    (h : ∀ e g, (channel.accept e g).1 = none) (g : γ) :
    let c := blocking t.recording options
    let bulk := c.scanAll limit kind key args (s, log)
    let stream := c.scanAllStream limit kind channel key args (s, log) g
    stream.2.1 = bulk.2 ∧ stream.1 = bulk.1.map (Except.map List.length) ∧
      (∀ v, bulk.1 = some (.ok v) → stream.2.2 = channel.after g v) ∧
      (∀ f, bulk.1 = some (.error f) → ∃ (pages : List (List ε)) (part : List ε),
        ((c.pages kind key args).take c (limit + 1) (s, log)).1.map (·.1) =
            pages.map .ok ++ [.error f] ∧
          stream.2.2 = channel.after g (pages.flatten ++ part)) := by
  intro c bulk stream
  obtain ⟨legs, n, w', s', ending, s'', rfl, htravels, hhalts⟩ :=
    c.exists_course limit (c.walk kind key args) (s, log)
  have hbulk : bulk = (ending.result (Leg.elements legs), s'') := gather_of_course htravels hhalts
  obtain ⟨part, hpart, hpour⟩ := exists_pour_of_accepts hhalts h (0 + (Leg.elements legs).length)
    (channel.after g (Leg.elements legs))
  have hstream : stream = (ending.result (Leg.elements legs).length, s'',
      channel.after g (Leg.elements legs ++ part)) := by
    show c.pour _ _ _ _ _ _ = _
    rw [pour_travels htravels (Channel.takes_of_accepts h), hpour, Nat.zero_add,
      Channel.after_append]
  rw [hbulk, hstream]
  refine ⟨rfl, by cases ending <;> rfl, fun v hv => ?_, fun f hf => ?_⟩
  · cases ending with
    | finished =>
      cases hv
      show channel.after g (Leg.elements legs ++ part) = _
      rw [hpart rfl, List.append_nil]
    | failed f => nomatch hv
    | cut => nomatch hv
  · cases ending with
    | finished => nomatch hf
    | cut => nomatch hf
    | failed f =>
      cases hf
      refine ⟨Leg.pages legs, part, ?_, by rw [Leg.flatten_pages]⟩
      rw [pages, outcomes_of_halts htravels hhalts nofun]
      rfl

/-- Two fields on the first page, none on the second, and another one on the last. -/
theorem scanAllStream_three_pages :
    let script : List (Outcome Reply) :=
      [.ok (.array [.value [0x37], .array [.value [1], .value [2], .value [3], .value [4]]]),
        .ok (.array [.value [], .null]),
        .ok (.array [.value [0x30], .array [.value [5], .value [6]]])]
    (blocking (Transport.scripted (.ok .null)).recording {}).scanAllStream 5 hashScan
        Channel.collector [9] none (script, []) [] =
      (some (.ok 3),
        ([], [⟨.hscan, [[9], [0x30]]⟩, ⟨.hscan, [[9], [0x37]]⟩, ⟨.hscan, [[9], []]⟩]),
        [⟨[1], [2]⟩, ⟨[3], [4]⟩, ⟨[5], [6]⟩]) := by
  intro script
  have haccepts : ∀ (e : KeyValue) (taken : List KeyValue),
      (Channel.collector.accept e taken).1 = none := fun _ _ => rfl
  obtain ⟨hstate, hresult, htaken, -⟩ := scanAllStream_of_accepts
    (Transport.scripted (.ok .null)) {} hashScan [9] none 5 script [] haccepts []
  exact Prod.ext (hresult.trans rfl) (Prod.ext (hstate.trans rfl) (htaken _ rfl))

/-- **A walk into a channel that refuses an element** fails there, where the walk that gathers the
pages would be over.  The channel got the elements in front and the one that it refused.  The
position in the failure counts from the start of the page that holds the element; the reason and the
contexts are those of the refusal.  The commands are those of the gathering walk up to that page. -/
theorem scanAllStream_of_refuses (t : Transport σ) (options : ClientOptions) {s : σ}
    {log : List Command} {v : List ε} {k : Nat} (hk : k < v.length) {g : γ} {fault : Failure}
    (hbulk : ((blocking t.recording options).scanAll limit kind key args (s, log)).1 =
      some (.ok v))
    (htakes : channel.Takes g (v.take k))
    (hrefused : (channel.accept v[k] (channel.after g (v.take k))).1 = some fault) :
    let c := blocking t.recording options
    ∃ (pages : List (List ε)) (j : Nat) (sent : List Command) (s₁ : σ) (f : Failure),
      ((c.pages kind key args).take c (limit + 1) (s, log)).1.map (·.1) = pages.map .ok ∧
        pages.flatten = v ∧
        (c.scanAll limit kind key args (s, log)).2.2 = log ++ sent ∧
        sent.length = pages.length ∧
        (pages.take j).flatten.length ≤ k ∧ k < (pages.take (j + 1)).flatten.length ∧
        c.scanAllStream limit kind channel key args (s, log) g =
          (some (.error f), (s₁, log ++ sent.take (j + 1)),
            (channel.accept v[k] (channel.after g (v.take k))).2) ∧
        f = ⟨.channelFault (k - (pages.take j).flatten.length) fault.message, fault.contexts⟩ ∧
        f.status = .channelFault := by
  intro c
  obtain ⟨legs, n, w', s', rfl, rfl, htravels, hhalts, hsent⟩ := exists_course_of_gather hbulk
  -- the refused element is on the page of some leg, and the walk ends with that leg
  have hsplit : Leg.elements legs =
      (Leg.elements legs).take k ++ (Leg.elements legs)[k] :: (Leg.elements legs).drop (k + 1) := by
    rw [← List.drop_eq_getElem_cons hk, List.take_append_drop]
  obtain ⟨l₁, leg, l₂, a, b, w₁, s₁, hlegs, hpage, hfront, hfirst, hpour⟩ :=
    pour_refused htravels hsplit htakes hrefused n 0
  have hlength : k = (Leg.elements l₁).length + a.length := by
    rw [← List.length_append, ← hfront, List.length_take_of_le (Nat.le_of_lt hk)]
  have hbefore : legs.take l₁.length = l₁ := by rw [hlegs, List.take_left]
  have hto : legs.take (l₁.length + 1) = l₁ ++ [leg] := by
    rw [hlegs, List.append_cons, List.take_left' (by simp)]
  refine ⟨Leg.pages legs, l₁.length, legs.map (·.command), s₁.1, _, ?_,
    Leg.flatten_pages legs, ?_, ?_, ?_, ?_, ?_, rfl, rfl⟩
  · rw [pages, outcomes_of_halts htravels hhalts nofun]
    exact List.append_nil _
  · rw [scanAll, hsent]
    exact htravels.log
  · rw [List.length_map, Leg.length_pages]
  · rw [Leg.take_pages, hbefore, Leg.flatten_pages]
    omega
  · rw [Leg.take_pages, hto, Leg.flatten_pages, Leg.elements_append, Leg.elements_cons, hpage]
    simp only [List.length_append, List.length_cons]
    omega
  · have hposition : k - (Leg.elements l₁).length = a.length := by omega
    have hsent₁ : s₁ = (s₁.1, log ++ (legs.map (·.command)).take (l₁.length + 1)) := by
      rw [← List.map_take, hto]
      exact Prod.ext rfl hfirst.log
    rw [scanAllStream, hpour, ← hsent₁, Leg.take_pages, hbefore, Leg.flatten_pages, hposition,
      Failure.ofRefusal]

/-- The second element of the last page is refused. -/
theorem scanAllStream_refused_field :
    let script : List (Outcome Reply) :=
      [.ok (.array [.value [0x37], .array [.value [1], .value [2]]]),
        .ok (.array [.value [], .null]),
        .ok (.array [.value [8], .array [.value [3], .value [4], .value [5], .value [6]]]),
        .ok (.array [.value [0x30], .null])]
    let fault : Failure := .ofCause (.other .internal "full")
    ∃ s₁, (blocking (Transport.scripted (.ok .null)).recording {}).scanAllStream 5 hashScan
        (Channel.refusingAfter 2 fault) [9] none (script, []) [] =
      (some (.error (.ofCause (.channelFault 1 "full"))),
        (s₁, [⟨.hscan, [[9], [0x30]]⟩, ⟨.hscan, [[9], [0x37]]⟩, ⟨.hscan, [[9], []]⟩]),
        [⟨[1], [2]⟩, ⟨[3], [4]⟩]) := by
  intro script fault
  have htakes : (Channel.refusingAfter 2 fault).Takes [] [(⟨[1], [2]⟩ : KeyValue), ⟨[3], [4]⟩] :=
    ⟨rfl, rfl, trivial⟩
  have hbulk : ((blocking (Transport.scripted (.ok .null)).recording {}).scanAll 5 hashScan [9]
      none (script, [])).1 = some (.ok [⟨[1], [2]⟩, ⟨[3], [4]⟩, ⟨[5], [6]⟩]) := rfl
  obtain ⟨pages, j, sent, s₁, f, hpages, -, hsent, -, hle, hlt, hstream, rfl, -⟩ :=
    scanAllStream_of_refuses (Transport.scripted (.ok .null)) {} (by decide : 2 < 3) hbulk htakes
      rfl
  obtain rfl : pages = [[⟨[1], [2]⟩], [], [⟨[3], [4]⟩, ⟨[5], [6]⟩], []] :=
    (List.map_inj_right fun _ _ h => Except.ok.inj h).1 hpages.symm
  obtain rfl : j = 2 := by
    match j, hle, hlt with
    | 2, _, _ => rfl
  obtain rfl : sent = [⟨.hscan, [[9], [0x30]]⟩, ⟨.hscan, [[9], [0x37]]⟩, ⟨.hscan, [[9], []]⟩,
      ⟨.hscan, [[9], [8]]⟩] := hsent.symm
  exact ⟨s₁, hstream⟩

end KeyWalk.Client
