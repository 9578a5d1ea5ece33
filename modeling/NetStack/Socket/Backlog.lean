import NetStack.Frame.Udp
import NetStack.Host

/-!
# Parked datagrams

A reader that takes a datagram for another port from the ring parks it for that port's readers. The
backlog keeps parked datagrams in the order of parking; the queue of a port is those addressed to
it. A full queue loses its oldest datagram to a new one. `queue_take?` and `queue_park` say what
taking and parking do to the queues.
-/

namespace NetStack

/-- The parked datagrams, oldest first. -/
structure Backlog where
  parked : List Datagram
  deriving DecidableEq, Repr

namespace Backlog

/-- Nothing is parked. -/
def empty : Backlog := ⟨[]⟩

/-- The datagrams parked for a port, oldest first. -/
def queue (backlog : Backlog) (port : UInt16) : List Datagram :=
  backlog.parked.filter (·.dport == port)

/-- The backlog without the oldest datagram of a port. -/
def dropOldest (backlog : Backlog) (port : UInt16) : Backlog :=
  ⟨backlog.parked.eraseP (·.dport == port)⟩

/-- Takes the oldest datagram parked for a port. -/
def take? (backlog : Backlog) (port : UInt16) : Option (Datagram × Backlog) :=
  match (backlog.queue port).head? with
  | some datagram => some (datagram, backlog.dropOldest port)
  | none => none

/-- Whether a port's queue has no room. -/
def isFull (backlog : Backlog) (port : UInt16) : Bool :=
  Host.socketBacklog ≤ (backlog.queue port).length

/-- Parks a datagram for its port, at the cost of the oldest one if the queue is full. -/
def park (backlog : Backlog) (datagram : Datagram) : Backlog :=
  let kept := if backlog.isFull datagram.dport then backlog.dropOldest datagram.dport else backlog
  ⟨kept.parked ++ [datagram]⟩

/-- The backlog without the datagrams parked for a port. -/
def discard (backlog : Backlog) (port : UInt16) : Backlog :=
  ⟨backlog.parked.filter (·.dport != port)⟩

/-- Dropping the oldest datagram of a port shortens its queue and no other. -/
theorem queue_dropOldest (backlog : Backlog) (port other : UInt16) :
    (backlog.dropOldest port).queue other =
      if other = port then (backlog.queue port).tail else backlog.queue other := by
  obtain ⟨parked⟩ := backlog
  simp only [queue, dropOldest]
  induction parked with
  | nil => simp
  | cons datagram rest ih =>
    by_cases hport : datagram.dport = port
    -- the first parked datagram is the one that is dropped
    · by_cases hother : other = port
      · simp [hport, hother]
      · simp [hport, hother, Ne.symm hother]
    -- the dropped one stands further back
    · by_cases hother : other = port
      · subst hother
        simpa [hport] using ih
      · by_cases hmine : datagram.dport = other
        · subst hmine
          simpa [hport] using ih
        · simpa [hport, hother, hmine] using ih

/-- A taken datagram was the oldest of its port's queue, and is gone from there. -/
theorem queue_take? {backlog rest : Backlog} {port : UInt16} {datagram : Datagram}
    (h : backlog.take? port = some (datagram, rest)) :
    backlog.queue port = datagram :: rest.queue port := by
  unfold take? at h
  split at h
  · next found hfound =>
    cases h
    obtain ⟨others, hqueue⟩ := List.head?_eq_some_iff.1 hfound
    rw [queue_dropOldest, if_pos rfl, hqueue, List.tail_cons]
  · contradiction

/-- A parked datagram stands last in its port's queue; a full queue has lost its oldest. -/
theorem queue_park (backlog : Backlog) (datagram : Datagram) :
    (backlog.park datagram).queue datagram.dport =
      (if backlog.isFull datagram.dport then (backlog.queue datagram.dport).tail
        else backlog.queue datagram.dport) ++ [datagram] := by
  unfold park
  split
  · have h := backlog.queue_dropOldest datagram.dport datagram.dport
    simp only [if_true] at h
    simp only [queue, List.filter_append] at h ⊢
    simp [h]
  · simp [queue]

/-- Discarding a port's datagrams empties its queue and no other. -/
theorem queue_discard (backlog : Backlog) (port other : UInt16) :
    (backlog.discard port).queue other =
      if other = port then [] else backlog.queue other := by
  by_cases h : other = port
  · subst h
    simp [queue, discard, List.filter_filter]
  · simp only [queue, discard, List.filter_filter, h, if_false]
    apply List.filter_congr
    intro datagram _
    by_cases hd : datagram.dport = other <;> simp [hd, h]

end Backlog

end NetStack
