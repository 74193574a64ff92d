import Liveness.Net.Connection
import Mathlib.Data.List.Basic

/-! The lines of a stream: what a read of one gives depends on the bytes that are left and not on the
pieces they come in. -/
namespace Liveness.Net

/-- The bytes up to and with the first LF, or all of them. -/
def firstLine : List UInt8 → List UInt8
  | [] => []
  | b :: bytes => if b = 10 then [b] else b :: firstLine bytes

theorem firstLine_append {first : List UInt8} (h : 10 ∉ first) (bytes : List UInt8) :
    firstLine (first ++ bytes) = first ++ firstLine bytes := by
  induction first with
  | nil => rfl
  | cons b first ih =>
    rw [List.mem_cons, not_or] at h
    rw [List.cons_append, firstLine, if_neg (Ne.symm h.1), ih h.2, List.cons_append]

variable {limit : Nat} {bytes buffer line behind : List UInt8} {chunks : List (List UInt8)}

/-- What is taken for a line stays one whatever comes after. -/
theorem take_firstLine_of_takeLine? (h : takeLine? limit bytes = some (line, behind))
    (later : List UInt8) : (firstLine (bytes ++ later)).take limit = line := by
  fun_induction takeLine? limit bytes generalizing line behind with
  | case1 bytes =>
    obtain ⟨rfl, -⟩ := Prod.mk.inj (Option.some.inj h)
    exact List.take_zero
  | case2 limit => nomatch h
  | case3 limit bytes =>
    obtain ⟨rfl, -⟩ := Prod.mk.inj (Option.some.inj h)
    rw [List.cons_append, firstLine, if_pos rfl, List.take_succ_cons, List.take_nil]
  | case4 limit b bytes hb ih =>
    obtain ⟨⟨first, rest⟩, hfirst, heq⟩ := Option.map_eq_some_iff.1 h
    obtain ⟨rfl, -⟩ := Prod.mk.inj heq
    rw [List.cons_append, firstLine, if_neg hb, List.take_succ_cons, ih hfirst]

theorem of_takeLine?_eq_none (h : takeLine? limit bytes = none) :
    bytes.length < limit ∧ 10 ∉ bytes := by
  fun_induction takeLine? limit bytes with
  | case1 bytes => nomatch h
  | case2 limit => exact ⟨Nat.succ_pos limit, List.not_mem_nil⟩
  | case3 limit bytes => nomatch h
  | case4 limit b bytes hb ih =>
    obtain ⟨hlength, hmem⟩ := ih (Option.map_eq_none_iff.1 h)
    rw [List.mem_cons, not_or]
    exact ⟨Nat.succ_lt_succ hlength, Ne.symm hb, hmem⟩

/-- A line is the first one of all the bytes, cut off at the limit. -/
theorem gather_line :
    (gather limit buffer chunks).line = (firstLine (buffer ++ chunks.flatten)).take limit := by
  induction chunks generalizing limit buffer with
  | nil =>
    rw [gather]
    cases htake : takeLine? limit buffer with
    | some found => exact (take_firstLine_of_takeLine? htake []).symm
    | none =>
      obtain ⟨hlength, hmem⟩ := of_takeLine?_eq_none htake
      rw [List.flatten_nil, firstLine_append hmem, firstLine, List.append_nil,
        List.take_of_length_le (Nat.le_of_lt hlength)]
  | cons chunk chunks ih =>
    rw [gather]
    cases htake : takeLine? limit buffer with
    | some found => exact (take_firstLine_of_takeLine? htake _).symm
    | none =>
      obtain ⟨hlength, hmem⟩ := of_takeLine?_eq_none htake
      -- The buffer goes into the line as it is, and the rest is gathered with what remains of the
      -- limit.
      rw [firstLine_append hmem, List.take_append, List.take_of_length_le (Nat.le_of_lt hlength),
        List.flatten_cons]
      exact congrArg (buffer ++ ·) ih

def Stream.unread (s : Stream) : List UInt8 := s.buffer ++ s.peer.chunks.flatten

@[simp] theorem Stream.unread_new (peer : Peer) :
    (Stream.new peer).unread = peer.chunks.flatten := rfl

/-- A stream that is read until its end, without a wait that is in vain. -/
structure Stream.Steady (s : Stream) : Prop where
  ready : s.waiting = false
  ending : s.peer.ending = .endOfStream

namespace Connection
variable {c : Connection} {s : Stream}

theorem readLine_result (h : c.stream = some s) (hs : s.Steady) :
    c.readLine.result = .ok ((firstLine s.unread).take maxLineLength) := by
  have hline : (gather maxLineLength s.buffer s.peer.chunks).line = _ := gather_line
  rw [readLine, h]
  simp only [hs.ready, hs.ending, Bool.false_eq_true, if_false, ite_self, hline, Stream.unread]

end Connection
end Liveness.Net
