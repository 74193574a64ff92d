import Liveness.Proofs.Net.Connection
import Mathlib.Data.List.Basic

/-! The life of a connection as the wire shows it: dialled, open, released, each once and in this
order. What is sent over it begins a head, and an answer is awaited once the head is out. -/
namespace Liveness.Net

/-- Where a connection stands, with what has been sent over it. -/
inductive Life where
  | absent
  | dialled
  | opened (sent : List UInt8)
  | released (sent : List UInt8)

namespace Life

def openings : Life → Nat
  | .absent | .dialled => 0
  | .opened _ | .released _ => 1

theorem openings_le_one (life : Life) : life.openings ≤ 1 := by
  cases life <;> simp [openings]

def releases : Life → Nat
  | .absent | .dialled | .opened _ => 0
  | .released _ => 1

def sent : Life → List UInt8
  | .absent | .dialled => []
  | .opened sent | .released sent => sent

/-- What an event makes of a connection that is for sending `head`. -/
inductive Step (head : List UInt8) : Life → WireEvent → Life → Prop
  | dialled (peer : SocketAddress) : Step head .absent (.dialled peer) .dialled
  | unanswered : Step head .dialled .stalled .dialled
  | connected : Step head .dialled .connected (.opened [])
  | secured {sent : List UInt8} : Step head (.opened sent) .secured (.opened sent)
  | stalled {sent : List UInt8} : Step head (.opened sent) .stalled (.opened sent)
  | sent {sent bytes : List UInt8} (within : sent ++ bytes <+: head) :
      Step head (.opened sent) (.sent bytes) (.opened (sent ++ bytes))
  | awaited : Step head (.opened head) .awaited (.opened head)
  | released {sent : List UInt8} : Step head (.opened sent) .released (.released sent)

end Life

/-- The events of a wire lead from one standing of a connection to another. -/
inductive Lives (head : List UInt8) : Life → List WireEvent → Life → Prop
  | nil (life : Life) : Lives head life [] life
  | cons {k l m : Life} {event : WireEvent} {wire : List WireEvent}
      (first : Life.Step head k event l) (later : Lives head l wire m) :
      Lives head k (event :: wire) m

def sentBytes (wire : List WireEvent) : List UInt8 :=
  wire.flatMap fun
    | .sent bytes => bytes
    | _ => []

variable {head : List UInt8} {k l m : Life} {event : WireEvent} {wire before after : List WireEvent}

theorem sentBytes_cons : sentBytes (event :: wire) = sentBytes [event] ++ sentBytes wire := by
  simp [sentBytes]

theorem Life.Step.counts (h : Step head k event l) :
    l.openings = k.openings + [event].count .connected ∧
      l.releases = k.releases + [event].count .released ∧ l.sent = k.sent ++ sentBytes [event] := by
  cases h <;> simp [openings, releases, Life.sent, sentBytes]

theorem Life.Step.sent_prefix (h : Step head k event l) (hk : k.sent <+: head) : l.sent <+: head := by
  cases h with
  | dialled peer => exact hk
  | unanswered => exact hk
  | connected => exact List.nil_prefix
  | secured => exact hk
  | stalled => exact hk
  | sent within => exact within
  | awaited => exact hk
  | released => exact hk

namespace Lives

theorem append (hbefore : Lives head k before l) (hafter : Lives head l after m) :
    Lives head k (before ++ after) m := by
  induction hbefore with
  | nil life => exact hafter
  | cons first later ih => exact .cons first (ih hafter)

theorem exists_step (h : Lives head k (before ++ event :: after) m) :
    ∃ l l', Lives head k before l ∧ Life.Step head l event l' ∧ Lives head l' after m := by
  induction before generalizing k with
  | nil =>
    cases h with
    | cons first later => exact ⟨k, _, .nil k, first, later⟩
  | cons e before ih =>
    cases h with
    | cons first later =>
      obtain ⟨l, l', hbefore, hstep, hafter⟩ := ih later
      exact ⟨l, l', .cons first hbefore, hstep, hafter⟩

theorem counts (h : Lives head k wire m) :
    m.openings = k.openings + wire.count .connected ∧
      m.releases = k.releases + wire.count .released ∧ m.sent = k.sent ++ sentBytes wire := by
  induction h with
  | nil life => simp [sentBytes]
  | @cons k l m event wire first later ih =>
    obtain ⟨hopened, hreleased, hsent⟩ := first.counts
    obtain ⟨hopened', hreleased', hsent'⟩ := ih
    have hcount (e : WireEvent) : (event :: wire).count e = [event].count e + wire.count e := by
      rw [← List.count_append, List.singleton_append]
    rw [hcount, hcount, sentBytes_cons, ← List.append_assoc, ← hsent]
    exact ⟨by omega, by omega, hsent'⟩

theorem sent_prefix (h : Lives head k wire m) (hk : k.sent <+: head) : m.sent <+: head := by
  induction h with
  | nil life => exact hk
  | cons first later ih => exact ih (first.sent_prefix hk)

/-- Nothing follows the release. -/
theorem eq_nil {sent : List UInt8} (h : Lives head (.released sent) wire m) : wire = [] := by
  cases h with
  | nil life => rfl
  | cons first later => nomatch first

end Lives

/-- At most one connection: what is opened is released, once and last, and bytes pass in between. -/
structure OneConnection (wire : List WireEvent) : Prop where
  opened : wire.count .connected ≤ 1
  released : wire.count .released = wire.count .connected
  last : ∀ before after, wire = before ++ .released :: after → .connected ∈ before ∧ after = []
  sent : ∀ before bytes after, wire = before ++ .sent bytes :: after →
    .connected ∈ before ∧ .released ∉ before
  awaited : ∀ before after, wire = before ++ .awaited :: after →
    .connected ∈ before ∧ .released ∉ before

/-- A head goes out, from its beginning, and all of it before an answer is awaited. -/
structure Sends (head : List UInt8) (wire : List WireEvent) : Prop where
  beginning : sentBytes wire <+: head
  whole : ∀ before after, wire = before ++ .awaited :: after → sentBytes before = head

namespace Lives

theorem mem_of_opened {sent : List UInt8} (h : Lives head .absent before (.opened sent)) :
    .connected ∈ before ∧ .released ∉ before ∧ sentBytes before = sent := by
  obtain ⟨hopened, hreleased, hsent⟩ := h.counts
  simp only [Life.openings, Life.releases, Life.sent, Nat.zero_add, List.nil_append] at *
  refine ⟨?_, ?_, hsent.symm⟩
  · rw [← List.count_pos_iff]
    omega
  · rw [← List.count_eq_zero]
    omega

theorem oneConnection (h : Lives head .absent wire m) (hm : m.releases = m.openings) :
    OneConnection wire := by
  obtain ⟨hopened, hreleased, -⟩ := h.counts
  have hnone : Life.absent.openings = 0 ∧ Life.absent.releases = 0 := ⟨rfl, rfl⟩
  have hbound := m.openings_le_one
  refine ⟨?_, ?_, ?_, ?_, ?_⟩
  · omega
  · omega
  · rintro before after rfl
    obtain ⟨l, l', hbefore, hstep, hafter⟩ := h.exists_step
    cases hstep
    exact ⟨hbefore.mem_of_opened.1, hafter.eq_nil⟩
  · rintro before bytes after rfl
    obtain ⟨l, l', hbefore, hstep, -⟩ := h.exists_step
    cases hstep
    exact ⟨hbefore.mem_of_opened.1, hbefore.mem_of_opened.2.1⟩
  · rintro before after rfl
    obtain ⟨l, l', hbefore, hstep, -⟩ := h.exists_step
    cases hstep
    exact ⟨hbefore.mem_of_opened.1, hbefore.mem_of_opened.2.1⟩

theorem sends (h : Lives head .absent wire m) : Sends head wire := by
  constructor
  · obtain ⟨-, -, hsent⟩ := h.counts
    have hprefix := h.sent_prefix List.nil_prefix
    rw [hsent] at hprefix
    exact hprefix
  · rintro before after rfl
    obtain ⟨l, l', hbefore, hstep, -⟩ := h.exists_step
    cases hstep
    exact hbefore.mem_of_opened.2.2

end Lives

namespace Connection
variable {address : SocketAddress} {secure : Bool} {host : String} {transport : Transport}
  {peer : Peer} {c : Connection} {e : ProbeError}

theorem lives_open (h : («open» address secure host transport peer).result = .ok c) :
    Lives head .absent («open» address secure host transport peer).wire (.opened []) := by
  rw [(open_eq_ok h).2]
  cases secure with
  | false => exact .cons (.dialled address) (.cons .connected (.nil _))
  | true => exact .cons (.dialled address) (.cons .connected (.cons .secured (.nil _)))

/-- A connection is opened where TLS does not keep it from that and the peer accepts it. -/
theorem connected_mem_open_iff :
    .connected ∈ («open» address secure host transport peer).wire ↔
      tlsFault? secure host transport = none ∧ peer.accepting = .accepts := by
  unfold «open»
  cases tlsFault? secure host transport with
  | some fault => simp
  | none =>
    cases peer.accepting with
    | fails fault => simp
    | stalls => simp
    | accepts =>
      cases secure with
      | false => simp
      | true => cases peer.handshake <;> simp

/-- A connection that does not come about is released if it was opened. -/
theorem lives_open_error (h : («open» address secure host transport peer).result = .error e) :
    ∃ m, Lives head .absent («open» address secure host transport peer).wire m ∧
      m.releases = m.openings := by
  unfold «open» at h ⊢
  split at h
  · exact ⟨.absent, .nil _, rfl⟩
  split at h
  · exact ⟨.dialled, .cons (.dialled address) (.nil _), rfl⟩
  · exact ⟨.dialled, .cons (.dialled address) (.cons .unanswered (.nil _)), rfl⟩
  · cases secure with
    | false => nomatch h
    | true =>
      rw [if_neg (by decide)] at h ⊢
      have hopened : Lives head .absent [.dialled address, .connected] (.opened []) :=
        .cons (.dialled address) (.cons .connected (.nil _))
      split at h
      · nomatch h
      · exact ⟨.released [], hopened.append (.cons .released (.nil _)), rfl⟩
      · exact ⟨.released [], hopened.append (.cons .stalled (.cons .released (.nil _))), rfl⟩

/-- What is written is the beginning of what there is to write, and all of it unless writing
fails. -/
theorem lives_write (c : Connection) (head : List UInt8) :
    ∃ taken, taken <+: head ∧ Lives head (.opened []) (c.write head).wire (.opened taken) ∧
      ((c.write head).result = .ok () → taken = head) := by
  have hwhole : Lives head (.opened []) [.sent head] (.opened head) :=
    .cons (.sent (List.prefix_refl _)) (.nil _)
  have hpart (n : Nat) : Lives head (.opened []) [.sent (head.take n)] (.opened (head.take n)) :=
    .cons (.sent (List.take_prefix n head)) (.nil _)
  unfold write
  split
  · exact ⟨[], List.nil_prefix, .nil _, nofun⟩
  split
  · exact ⟨[], List.nil_prefix, .nil _, nofun⟩
  dsimp only
  split
  · exact ⟨head, List.prefix_refl _, hwhole, fun _ => rfl⟩
  · split_ifs
    · exact ⟨head, List.prefix_refl _, hwhole, fun _ => rfl⟩
    · exact ⟨_, List.take_prefix _ head, hpart _, nofun⟩
  · split_ifs
    · exact ⟨head, List.prefix_refl _, hwhole, fun _ => rfl⟩
    · exact ⟨_, List.take_prefix _ head, (hpart _).append (.cons .stalled (.nil _)), nofun⟩

theorem lives_readLine (c : Connection) (head : List UInt8) :
    Lives head (.opened head) c.readLine.wire (.opened head) := by
  have hawaited : Lives head (.opened head) [.awaited] (.opened head) := .cons .awaited (.nil _)
  have hstalled : Lives head (.opened head) [.awaited, .stalled] (.opened head) :=
    .cons .awaited (.cons .stalled (.nil _))
  unfold readLine
  split
  · exact .nil _
  dsimp only
  split_ifs
  · exact hstalled
  · exact hawaited
  · split
    · exact hawaited
    · exact hstalled
    · exact hawaited

theorem lives_close {sent : List UInt8} (h : c.isClosed = false) :
    Lives head (.opened sent) c.close.wire (.released sent) := by
  unfold close
  split
  next hnone =>
    rw [isClosed, hnone] at h
    cases h
  · dsimp only
    split_ifs
    · exact .cons .stalled (.cons .released (.nil _))
    · exact .cons .released (.nil _)

theorem isClosed_write {bytes : List UInt8} (h : c.isClosed = false) :
    (c.write bytes).connection.isClosed = false := by
  unfold write
  split
  · exact h
  split
  · exact h
  dsimp only
  split
  · rfl
  · split_ifs <;> rfl
  · split_ifs <;> rfl

theorem isClosed_readLine (h : c.isClosed = false) : c.readLine.connection.isClosed = false := by
  unfold readLine
  split
  · exact h
  dsimp only
  split_ifs
  · exact h
  · rfl
  · split <;> rfl

end Connection
end Liveness.Net
