import NetStack.Proofs.Datagrams
import NetStack.Proofs.Parking
import NetStack.Stack

/-!
# Readers of a port

A reader takes the oldest datagram of its port's queue, or drains the ring up to the first datagram
for its port. The datagrams that it passes on the way go to the queues of their ports, if those have
a socket, and each of them wakes the readers that wait. `Passes` is what all this does to a stack,
and `receiveOn_spec` says which of the cases occurs when.
-/

namespace NetStack

/-- A port is bound if some open socket has it as its local port. -/
theorem SocketTable.isBound_iff (table : SocketTable) (port : UInt16) :
    table.isBound port = true ↔
      ∃ fd socket, table.get? fd = some socket ∧ socket.localPort = some port := by
  unfold isBound get?
  rw [Vector.any_eq_true]
  constructor
  · rintro ⟨fd, hfd, hplace⟩
    split at hplace
    · next socket heq => exact ⟨fd, socket, by simp [hfd, heq], by simpa using hplace⟩
    · cases hplace
  · rintro ⟨fd, socket, hplace, hport⟩
    obtain ⟨hfd, heq⟩ := Vector.getElem?_eq_some_iff.1 (Option.join_eq_some_iff.1 hplace)
    exact ⟨fd, hfd, by simp [heq, hport]⟩

namespace Stack

/-- A datagram for a port with a socket is parked, and wakes the readers. -/
theorem park_of_bound {β : Type} {stack : Stack β} {datagram : Datagram}
    (h : stack.table.isBound datagram.dport = true) : (stack.park datagram).value =
      { stack with backlog := stack.backlog.park datagram }.wake := by
  unfold park
  simp only [h, if_true]
  rfl

/-- A datagram for a port without a socket is lost. -/
theorem park_of_free {β : Type} {stack : Stack β} {datagram : Datagram}
    (h : ¬stack.table.isBound datagram.dport = true) : (stack.park datagram).value = stack := by
  unfold park
  simp only [h]
  rfl

/-- The datagrams among those passed by a reader that are parked: their ports have a socket. -/
def parked (table : SocketTable) (passed : List Datagram) : List Datagram :=
  passed.filter fun datagram => table.isBound datagram.dport

theorem parked_append (table : SocketTable) (passed further : List Datagram) :
    parked table (passed ++ further) = parked table passed ++ parked table further :=
  List.filter_append _ _

/-- A stack before and after a reader drained the ring of some frames and passed some datagrams on.
-/
structure Passes (consumed : List Bytes) (passed : List Datagram) (stack next : Stack Emulated) :
    Prop where
  linked : next.adapter.RxLinked
  stored : stack.adapter.stored = consumed ++ next.adapter.stored
  received : next.adapter.bus.registers.icr &&& Bits.causeReceived =
    stack.adapter.bus.registers.icr &&& Bits.causeReceived
  table : next.table = stack.table
  backlog : next.backlog = stack.backlog.parkAll (parked stack.table passed)
  /-- The readers are woken once for each parked datagram. -/
  generation : next.adapter.arrival.generation =
    stack.adapter.arrival.generation + UInt64.ofNat (parked stack.table passed).length

/-- Draining the ring, without passing on a datagram. -/
theorem Passes.of_drains {stack : Stack Emulated} {transport : Transport Emulated}
    {consumed : List Bytes} (h : Drains consumed stack.adapter transport.adapter) :
    Passes consumed [] stack { stack with transport } where
  linked := h.linked
  stored := h.stored
  received := h.received
  table := rfl
  backlog := rfl
  generation := (congrArg Condition.generation h.arrival).trans (UInt64.add_zero _).symm

/-- Passing on a datagram. -/
theorem Passes.of_park {stack : Stack Emulated} (h : stack.adapter.RxLinked)
    (datagram : Datagram) : Passes [] [datagram] stack (stack.park datagram).value := by
  by_cases hbound : stack.table.isBound datagram.dport = true
  · have hparked : parked stack.table [datagram] = [datagram] :=
      List.filter_cons_of_pos hbound
    rw [park_of_bound hbound]
    refine ⟨h, rfl, rfl, rfl, ?_, ?_⟩
    · rw [hparked]
      rfl
    · rw [hparked]
      rfl
  · have hparked : parked stack.table [datagram] = [] := List.filter_cons_of_neg hbound
    rw [park_of_free hbound]
    refine ⟨h, rfl, rfl, rfl, ?_, ?_⟩
    · rw [hparked]
      rfl
    · rw [hparked]
      exact (UInt64.add_zero _).symm

/-- What is passed on first, and then, is passed on together. -/
theorem Passes.trans {first later : List Bytes} {passed further : List Datagram}
    {a b c : Stack Emulated} (h : Passes first passed a b) (h' : Passes later further b c) :
    Passes (first ++ later) (passed ++ further) a c where
  linked := h'.linked
  stored := by
    rw [h.stored, h'.stored, List.append_assoc]
  received := h'.received.trans h.received
  table := h'.table.trans h.table
  backlog := by
    rw [h'.backlog, h.backlog, h.table, parked_append, Backlog.parkAll_append]
  generation := by
    rw [h'.generation, h.generation, h.table, parked_append, List.length_append, UInt64.ofNat_add,
      UInt64.add_assoc]

/-- What a reader of a port has when it stops running, once its queue was empty. The datagrams of
the frames that it drained are those passed on, and its own. -/
inductive Served (port : UInt16) (consumed : List Bytes) (passed : List Datagram)
    (left : List Bytes) : Progress Datagram → Prop
  | done {datagram : Datagram} (hport : datagram.dport = port)
      (h : datagrams Host.frameCapacity consumed = passed ++ [datagram]) :
      Served port consumed passed left (.done datagram)
  | waiting (hleft : left = []) (h : datagrams Host.frameCapacity consumed = passed) :
      Served port consumed passed left .waiting

/-- What is parked was passed on. -/
theorem mem_of_mem_parked {table : SocketTable} {passed : List Datagram} {datagram : Datagram}
    (h : datagram ∈ parked table passed) : datagram ∈ passed :=
  (List.mem_filter.1 h).1

/-- A reader that passes on datagrams for other ports leaves its own queue alone. -/
theorem Passes.queue_eq {consumed : List Bytes} {passed : List Datagram}
    {stack next : Stack Emulated} {port : UInt16} (h : Passes consumed passed stack next)
    (hports : ∀ datagram ∈ passed, datagram.dport ≠ port) :
    next.backlog.queue port = stack.backlog.queue port := by
  rw [h.backlog]
  exact Backlog.queue_parkAll_of_forall_ne _ fun datagram hmem =>
    hports datagram (mem_of_mem_parked hmem)

/-- A reader whose queue is not empty takes the oldest datagram from there. -/
theorem receiveOn_of_take? {β : Type} [RegisterBus β] {stack : Stack β} {port : UInt16}
    {datagram : Datagram} {rest : Backlog}
    (htake : stack.backlog.take? port = some (datagram, rest)) :
    (stack.receiveOn port).value = (.done datagram, { stack with backlog := rest }) := by
  unfold receiveOn
  split
  · next hsome =>
    rw [htake] at hsome
    cases hsome
    rfl
  · next hnone =>
    rw [htake] at hnone
    cases hnone

/-- A reader takes the oldest datagram of its port's queue; if there is none, it drains the ring up
to the first datagram for its port. -/
theorem receiveOn_spec {stack next : Stack Emulated} {port : UInt16}
    {progress : Progress Datagram} (h : stack.adapter.RxLinked)
    (hvalue : (stack.receiveOn port).value = (progress, next)) :
    (∃ datagram rest, stack.backlog.take? port = some (datagram, rest) ∧
      progress = .done datagram ∧ next = { stack with backlog := rest }) ∨
    (∃ consumed passed, stack.backlog.queue port = [] ∧ Passes consumed passed stack next ∧
      (∀ datagram ∈ passed, datagram.dport ≠ port) ∧
      Served port consumed passed next.adapter.stored progress) := by
  fun_induction receiveOn stack port with
  | case1 stack datagram rest htake =>
    cases hvalue
    exact .inl ⟨datagram, rest, htake, rfl, rfl⟩
  | case2 stack _ _ _ transport hreceived =>
    -- a reader asks never to be stopped
    obtain ⟨consumed, -, hfound⟩ := Transport.receiveUntil_spec h hreceived
    cases hfound with
    | stopped _ hstop => exact absurd rfl hstop
  | case3 stack htake _ _ transport hreceived =>
    cases hvalue
    obtain ⟨consumed, hdrains, hfound⟩ := Transport.receiveUntil_spec h hreceived
    cases hfound with
    | waiting hnone hleft =>
      exact .inr ⟨consumed, [], (Backlog.take?_eq_none_iff _ _).1 htake, .of_drains hdrains,
        by simp, .waiting hleft hnone⟩
  | case4 stack htake _ datagram _ transport hreceived hport =>
    cases hvalue
    obtain ⟨consumed, hdrains, hfound⟩ := Transport.receiveUntil_spec h hreceived
    cases hfound with
    | done hone =>
      exact .inr ⟨consumed, [], (Backlog.take?_eq_none_iff _ _).1 htake, .of_drains hdrains,
        by simp, .done hport hone⟩
  | case5 stack htake _ datagram _ transport hreceived hport _ _ ih =>
    have hqueue := (Backlog.take?_eq_none_iff _ _).1 htake
    obtain ⟨consumed, hdrains, hfound⟩ := Transport.receiveUntil_spec h hreceived
    cases hfound with
    | done hone =>
      -- the datagram found is for another port: it is parked, and the rest is by induction
      have hlinked : ({ stack with transport } : Stack Emulated).adapter.RxLinked := hdrains.linked
      have hpark := (Passes.of_drains hdrains).trans (Passes.of_park hlinked datagram)
      rw [List.append_nil] at hpark
      have hports : ∀ passed ∈ [] ++ [datagram], passed.dport ≠ port := by
        simpa using hport
      have hqueue' := (hpark.queue_eq hports).trans hqueue
      rcases ih hpark.linked hvalue with ⟨_, _, htake', -⟩ |
        ⟨later, passed, -, hpasses, hothers, hserved⟩
      · -- nothing came into the reader's own queue meanwhile
        rw [(Backlog.take?_eq_none_iff _ _).2 hqueue'] at htake'
        cases htake'
      · refine .inr ⟨consumed ++ later, [datagram] ++ passed, hqueue, hpark.trans hpasses, ?_, ?_⟩
        · intro other hmem
          rcases List.mem_append.1 hmem with hfirst | hlater
          · exact hports other hfirst
          · exact hothers other hlater
        · cases hserved with
          | done hport' hlast =>
            exact .done hport' (by rw [datagrams_append, hone, hlast, List.append_assoc])
          | waiting hleft hlast =>
            exact .waiting hleft (by rw [datagrams_append, hone, hlast])

/-- No more datagrams are passed on than frames are drained. -/
theorem Passes.length_le {consumed : List Bytes} {passed : List Datagram}
    {stack next : Stack Emulated} {port : UInt16} {progress : Progress Datagram}
    (h : Passes consumed passed stack next)
    (hserved : Served port consumed passed next.adapter.stored progress) :
    (parked stack.table passed).length < Host.rxRingSize := by
  have hparked : (parked stack.table passed).length ≤ passed.length := List.length_filter_le _ _
  have hdatagrams : (datagrams Host.frameCapacity consumed).length ≤ consumed.length :=
    List.length_filterMap_le _ _
  have hpassed : passed.length ≤ (datagrams Host.frameCapacity consumed).length := by
    cases hserved with
    | done _ hall => simp [hall]
    | waiting _ hall => simp [hall]
  have hstored := congrArg List.length h.stored
  have hlt := stack.adapter.bus.filled_lt stack.adapter.last
  have hlength : stack.adapter.stored.length = stack.adapter.bus.filled stack.adapter.last :=
    Slot.length_window _ _ _
  rw [hlength, List.length_append] at hstored
  omega

end Stack

end NetStack
