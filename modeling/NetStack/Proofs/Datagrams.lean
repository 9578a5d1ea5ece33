import NetStack.Proofs.Receive
import NetStack.Transport

/-!
# The datagrams of stored frames

A frame belongs either to the ARP responder or to UDP: no frame is read as both
(`Udp.receive_of_arp`). What a stored frame means for the host does therefore not depend on who
takes it from the ring, and `datagrams` reads a list of frames as the datagrams that they carry.
`Transport.receiveUntil_spec` says that receiving drains the ring up to the first datagram, and
waits only when the ring is empty and carried none.
-/

namespace NetStack

/-- What a reader took off as a hardware address stood in front. -/
theorem Mac.eq_append_of_reader {bytes rest : Bytes} {mac : Mac}
    (h : Mac.reader bytes = some (mac, rest)) : bytes = mac.toBytes ++ rest := by
  unfold Mac.reader at h
  split at h
  · cases h
    rfl
  · cases h

/-- A frame's kind is the one that its header names. -/
theorem Ethernet.kindOf?_of_parse? {frame : Bytes} {header : EthernetHeader}
    (h : EthernetHeader.parse? frame = some header) : kindOf? frame = some header.kind := by
  unfold EthernetHeader.parse? Reader.parse? at h
  obtain ⟨⟨header', left⟩, hread, rfl⟩ := Option.map_eq_some_iff.1 h
  simp only [EthernetHeader.reader, Reader.bind_apply, Reader.pure_apply,
    Option.bind_eq_some_iff] at hread
  obtain ⟨⟨dest, afterDest⟩, hdest, ⟨source, afterSource⟩, hsource, ⟨kind, afterKind⟩, hkind,
    hpure⟩ := hread
  cases hpure
  have hframe := Mac.eq_append_of_reader hdest
  have hbehind := Mac.eq_append_of_reader hsource
  subst hframe
  simp only at hbehind
  subst hbehind
  unfold kindOf? Reader.parse?
  have hdrop : (dest.toBytes ++ (source.toBytes ++ afterSource)).drop 12 = afterSource := rfl
  rw [hdrop, hkind]
  rfl

/-- A frame that is read as ARP is announced as ARP by its header. -/
theorem ArpFrame.kindOf?_of_decode {frame : Bytes} {request : ArpFrame}
    (h : decode frame = .ok request) : Ethernet.kindOf? frame = some EtherType.arp.toWord := by
  unfold decode at h
  by_cases hshort : frame.length < size
  · rw [if_pos hshort] at h
    cases h
  rw [if_neg hshort] at h
  cases hheader : EthernetHeader.parse? frame with
  | none =>
    rw [hheader] at h
    cases h
  | some header =>
    rw [hheader] at h
    by_cases harp : header.etherType? = some .arp
    · rw [Ethernet.kindOf?_of_parse? hheader]
      unfold EthernetHeader.etherType? EtherType.ofWord? at harp
      split at harp
      · cases harp
      · split at harp
        · next hkind => rw [hkind]
        · cases harp
    · simp only [harp, if_false] at h
      cases h

/-- A frame that is read as ARP is not read as a datagram. -/
theorem Udp.receive_of_arp {frame : Bytes} {request : ArpFrame} (capacity : Nat)
    (h : ArpFrame.decode frame = .ok request) :
    (Udp.receive frame capacity).toOption = none := by
  have hkind : ¬Ethernet.kindOf? frame = some EtherType.ipv4.toWord := by
    rw [ArpFrame.kindOf?_of_decode h]
    decide
  unfold receive decode
  by_cases hshort : frame.length < frameOverhead
  · rw [if_pos hshort]
    rfl
  · rw [if_neg hshort]
    simp only [hkind, if_false]
    rfl

/-- The datagrams of at most `capacity` bytes that frames carry. -/
def datagrams (capacity : Nat) (frames : List Bytes) : List Datagram :=
  frames.filterMap fun frame => (Udp.receive frame capacity).toOption

@[simp] theorem datagrams_nil (capacity : Nat) : datagrams capacity [] = [] := rfl

theorem datagrams_cons (capacity : Nat) (frame : Bytes) (frames : List Bytes) :
    datagrams capacity (frame :: frames) =
      (Udp.receive frame capacity).toOption.toList ++ datagrams capacity frames := by
  cases h : (Udp.receive frame capacity).toOption <;> simp [datagrams, h]

theorem datagrams_append (capacity : Nat) (first later : List Bytes) :
    datagrams capacity (first ++ later) = datagrams capacity first ++ datagrams capacity later :=
  List.filterMap_append

/-- A driver before and after some frames left its ring, from the oldest on. Nobody was woken, and
no interrupt cause of reception came or went. -/
structure Drains (consumed : List Bytes) (adapter next : Adapter Emulated) : Prop where
  linked : next.RxLinked
  stored : adapter.stored = consumed ++ next.stored
  received : next.bus.registers.icr &&& Bits.causeReceived =
    adapter.bus.registers.icr &&& Bits.causeReceived
  arrival : next.arrival = adapter.arrival

/-- An untouched receive side is drained of nothing. -/
theorem Drains.of_sameRx {adapter next : Adapter Emulated} (h : adapter.RxLinked)
    (hsame : adapter.SameRx next) : Drains [] adapter next :=
  ⟨h.of_sameRx hsame, hsame.stored_eq.symm, hsame.card.received, hsame.arrival⟩

/-- Taking a frame drains the ring of it. -/
theorem Drains.of_takes {adapter next : Adapter Emulated} {frame : Bytes}
    (h : Adapter.Takes frame adapter next) : Drains [frame] adapter next :=
  ⟨h.linked, h.stored, by rw [h.icr], h.arrival⟩

/-- What leaves the ring first, and then, leaves it together. -/
theorem Drains.trans {first later : List Bytes} {a b c : Adapter Emulated} (h : Drains first a b)
    (h' : Drains later b c) : Drains (first ++ later) a c where
  linked := h'.linked
  stored := by
    rw [h.stored, h'.stored, List.append_assoc]
  received := h'.received.trans h.received
  arrival := h'.arrival.trans h.arrival

namespace Transport

/-- Dealing with a frame finds the datagram that it carries, and leaves the receive side alone. -/
theorem dispatch_spec (transport : Transport Emulated) (frame : Bytes) (capacity : Nat) :
    (transport.dispatch frame capacity).value.1 = (Udp.receive frame capacity).toOption ∧
      transport.adapter.SameRx (transport.dispatch frame capacity).value.2.adapter := by
  have hsame := Adapter.sameRx_handle transport.responder transport.adapter frame
  have harp : (transport.responder.handle transport.adapter frame).value.1 = true →
      (Udp.receive frame capacity).toOption = none := by
    unfold Responder.handle
    cases hdecode : ArpFrame.decode frame with
    | error _ => simp
    | ok request => exact fun _ => Udp.receive_of_arp capacity hdecode
  simp only [dispatch, Logged.value_bind]
  split
  · next hhandled => exact ⟨(harp hhandled).symm, hsame⟩
  · cases hreceive : Udp.receive frame capacity with
    | error _ => exact ⟨rfl, hsame⟩
    | ok _ => exact ⟨rfl, hsame⟩

/-- What a receiver has when it stops running, and which datagrams it passed on the way. -/
inductive Found (capacity : Nat) (stop : Stop) (consumed left : List Bytes) :
    Progress Datagram → Prop
  | done {datagram : Datagram} (h : datagrams capacity consumed = [datagram]) :
      Found capacity stop consumed left (.done datagram)
  | stopped (h : datagrams capacity consumed = []) (hstop : stop ≠ .never) :
      Found capacity stop consumed left .stopped
  | waiting (h : datagrams capacity consumed = []) (hleft : left = []) :
      Found capacity stop consumed left .waiting

/-- Who asks never to be stopped still does so the next time. -/
theorem ne_never_of_ask {stop rest : Stop} (hask : stop.ask = some rest) (h : rest ≠ .never) :
    stop ≠ .never := by
  rintro rfl
  cases hask
  exact h rfl

/-- Receiving drains the ring up to the first datagram; it waits only when the ring is empty. -/
theorem receiveUntil_spec {transport next : Transport Emulated} {capacity : Nat} {stop rest : Stop}
    {progress : Progress Datagram} (h : transport.adapter.RxLinked)
    (hvalue : (transport.receiveUntil capacity stop).value = (progress, rest, next)) :
    ∃ consumed, Drains consumed transport.adapter next.adapter ∧
      Found capacity stop consumed next.adapter.stored progress := by
  fun_induction receiveUntil transport capacity stop with
  | case1 transport stop _ _ adapter hframe =>
    cases hvalue
    rcases h.waitFrame_cases hframe with ⟨-, hask, rfl⟩ | ⟨hstopped, -⟩ | ⟨_, hstopped, -⟩
    · refine ⟨[], Drains.of_sameRx h (Adapter.SameRx.refl _), .stopped rfl ?_⟩
      rintro rfl
      cases hask
    · cases hstopped
    · cases hstopped
  | case2 transport stop _ _ adapter hframe =>
    cases hvalue
    rcases h.waitFrame_cases hframe with ⟨hwaiting, -⟩ | ⟨-, -, rfl, hempty⟩ | ⟨_, hwaiting, -⟩
    · cases hwaiting
    · exact ⟨[], Drains.of_sameRx h (Adapter.SameRx.refl _), .waiting rfl hempty⟩
    · cases hwaiting
  | case3 transport stop _ frame _ adapter hframe _ _ datagram _ hnext =>
    cases hvalue
    obtain ⟨-, htakes⟩ := h.takes_of_done hframe
    obtain ⟨hfound, hsame⟩ := dispatch_spec { transport with adapter } frame capacity
    rw [hnext] at hfound hsame
    have hall := (Drains.of_takes htakes).trans (Drains.of_sameRx htakes.linked hsame)
    refine ⟨[frame], hall, .done ?_⟩
    rw [datagrams_cons, ← hfound]
    rfl
  | case4 transport stop _ frame _ adapter hframe _ _ _ hnext _ ih =>
    obtain ⟨hask, htakes⟩ := h.takes_of_done hframe
    obtain ⟨hfound, hsame⟩ := dispatch_spec { transport with adapter } frame capacity
    rw [hnext] at hfound hsame
    -- the frame carries no datagram, so what is found further on is all that is found
    obtain ⟨later, hdrains, hlater⟩ := ih (htakes.linked.of_sameRx hsame) hvalue
    have hdispatched := (Drains.of_takes htakes).trans (Drains.of_sameRx htakes.linked hsame)
    have hall := hdispatched.trans hdrains
    have hdatagrams : datagrams capacity (frame :: later) = datagrams capacity later := by
      rw [datagrams_cons, ← hfound]
      rfl
    refine ⟨frame :: later, hall, ?_⟩
    cases hlater with
    | done hone => exact .done (hdatagrams.trans hone)
    | stopped hnone hstop => exact .stopped (hdatagrams.trans hnone) (ne_never_of_ask hask hstop)
    | waiting hnone hleft => exact .waiting (hdatagrams.trans hnone) hleft

end Transport

end NetStack
