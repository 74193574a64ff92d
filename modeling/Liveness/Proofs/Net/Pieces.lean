import Liveness.Proofs.Net.Line

/-! Successive reads of one stream. Each gives the next piece of it, and the pieces in order are the
stream, so nothing is lost or read twice. How the stream was cut into chunks leaves no trace. -/
namespace Liveness.Net

/-- The next piece of some bytes, and the bytes behind it: a line with its LF, or the first 1024 bytes
of a longer one, or what is left at the end. -/
inductive Piece : (bytes piece behind : List UInt8) → Prop
  | line {front behind : List UInt8} (within : front.length < 1024) (unbroken : 10 ∉ front) :
      Piece (front ++ 10 :: behind) (front ++ [10]) behind
  | cut {front behind : List UInt8} (full : front.length = 1024) (unbroken : 10 ∉ front) :
      Piece (front ++ behind) front behind
  | last {bytes : List UInt8} (short : bytes.length < 1024) (unbroken : 10 ∉ bytes) :
      Piece bytes bytes []

/-- Bytes that are read piece by piece, and what is left of them. -/
inductive Pieces : (bytes : List UInt8) → (pieces : List (List UInt8)) → (behind : List UInt8) → Prop
  | nil (bytes : List UInt8) : Pieces bytes [] bytes
  | cons {bytes piece rest behind : List UInt8} {pieces : List (List UInt8)}
      (first : Piece bytes piece rest) (later : Pieces rest pieces behind) :
      Pieces bytes (piece :: pieces) behind

variable {bytes piece behind buffer line : List UInt8} {pieces chunks : List (List UInt8)}
  {limit : Nat}

namespace Piece

theorem append_eq (h : Piece bytes piece behind) : piece ++ behind = bytes := by
  cases h with
  | line within unbroken => rw [List.append_assoc, List.singleton_append]
  | cut full unbroken => rfl
  | last short unbroken => exact List.append_nil bytes

theorem eq_take (h : Piece bytes piece behind) : piece = (firstLine bytes).take maxLineLength := by
  cases h with
  | @line front behind within unbroken =>
    have hlength : (front ++ [10]).length ≤ maxLineLength := by
      rw [List.length_append, List.length_singleton]
      exact within
    rw [firstLine_append unbroken, firstLine, if_pos rfl, List.take_of_length_le hlength]
  | cut full unbroken =>
    have hlength : maxLineLength = piece.length := full.symm
    rw [firstLine_append unbroken, hlength, List.take_left]
  | last short unbroken =>
    have hall : firstLine bytes = bytes := by
      simpa [firstLine] using firstLine_append unbroken []
    have hlength : bytes.length ≤ maxLineLength := Nat.le_of_lt short
    rw [hall, List.take_of_length_le hlength]

theorem eq_nil_of_nil (h : Piece [] piece behind) : piece = [] ∧ behind = [] :=
  List.append_eq_nil_iff.1 h.append_eq

/-- Nothing is read only where nothing is left. -/
theorem eq_nil_of_piece_eq_nil (h : Piece bytes piece behind) (hpiece : piece = []) :
    bytes = [] := by
  cases h with
  | line within unbroken => exact absurd hpiece (List.append_ne_nil_of_right_ne_nil _ nofun)
  | cut full unbroken =>
    subst hpiece
    nomatch full
  | last short unbroken => exact hpiece

end Piece

theorem exists_piece (bytes : List UInt8) : ∃ piece behind, Piece bytes piece behind := by
  -- A stretch of 1024 bytes without an LF is cut wherever it stands.
  have hcut (front behind : List UInt8) (hlong : 1024 ≤ front.length) (hunbroken : 10 ∉ front) :
      ∃ piece rest, Piece (front ++ behind) piece rest := by
    refine ⟨front.take 1024, front.drop 1024 ++ behind, ?_⟩
    have hpiece : Piece (front.take 1024 ++ (front.drop 1024 ++ behind)) (front.take 1024)
        (front.drop 1024 ++ behind) :=
      .cut (List.length_take_of_le hlong) fun hmem => hunbroken (List.mem_of_mem_take hmem)
    rwa [← List.append_assoc, List.take_append_drop] at hpiece
  by_cases hbreak : 10 ∈ bytes
  · obtain ⟨front, behind, rfl, hunbroken⟩ := List.eq_append_cons_of_mem hbreak
    by_cases hwithin : front.length < 1024
    · exact ⟨_, _, .line hwithin hunbroken⟩
    · exact hcut front (10 :: behind) (Nat.le_of_not_lt hwithin) hunbroken
  · by_cases hshort : bytes.length < 1024
    · exact ⟨_, _, .last hshort hbreak⟩
    · have hwhole := hcut bytes [] (Nat.le_of_not_lt hshort) hbreak
      rwa [List.append_nil] at hwhole

theorem piece_iff :
    Piece bytes piece behind ↔
      piece = (firstLine bytes).take maxLineLength ∧ piece ++ behind = bytes := by
  refine ⟨fun h => ⟨h.eq_take, h.append_eq⟩, fun ⟨hpiece, happend⟩ => ?_⟩
  obtain ⟨found, rest, hfound⟩ := exists_piece bytes
  obtain rfl : found = piece := hfound.eq_take.trans hpiece.symm
  have hrest : rest = behind := List.append_cancel_left (hfound.append_eq.trans happend.symm)
  exact hrest ▸ hfound

namespace Pieces

/-- Nothing is lost, and nothing is read twice. -/
theorem flatten_append (h : Pieces bytes pieces behind) : pieces.flatten ++ behind = bytes := by
  induction h with
  | nil bytes => rfl
  | cons first later ih => rw [List.flatten_cons, List.append_assoc, ih, first.append_eq]

theorem unique {pieces' : List (List UInt8)} {behind' : List UInt8}
    (h : Pieces bytes pieces behind) (h' : Pieces bytes pieces' behind')
    (hlength : pieces'.length = pieces.length) : pieces' = pieces := by
  induction h generalizing pieces' with
  | nil bytes => exact List.length_eq_zero_iff.1 hlength
  | @cons bytes piece rest behind pieces first later ih =>
    cases h' with
    | nil => nomatch hlength
    | @cons _ piece' rest' _ pieces' first' later' =>
      obtain rfl : piece' = piece := first'.eq_take.trans first.eq_take.symm
      obtain rfl : rest' = rest :=
        List.append_cancel_left (first'.append_eq.trans first.append_eq.symm)
      rw [ih later' (Nat.succ.inj hlength)]

theorem eq_nil_of_mem (h : Pieces bytes pieces behind) (hbytes : bytes = []) :
    ∀ p ∈ pieces, p = [] := by
  induction h with
  | nil bytes => exact fun p hp => nomatch hp
  | cons first later ih =>
    subst hbytes
    obtain ⟨hpiece, hrest⟩ := first.eq_nil_of_nil
    intro p hp
    obtain rfl | hp := List.mem_cons.1 hp
    · exact hpiece
    · exact ih hrest p hp

/-- An empty piece means that all has been read, and so are all pieces after it. -/
theorem ended (h : Pieces bytes pieces behind) {before later : List (List UInt8)}
    (hpieces : pieces = before ++ [] :: later) :
    before.flatten = bytes ∧ ∀ p ∈ later, p = [] := by
  induction h generalizing before with
  | nil bytes => exact absurd hpieces.symm (List.append_ne_nil_of_right_ne_nil _ nofun)
  | @cons bytes piece rest behind pieces first later' ih =>
    cases before with
    | nil =>
      obtain ⟨rfl, rfl⟩ := List.cons.inj hpieces
      obtain rfl := first.eq_nil_of_piece_eq_nil rfl
      exact ⟨rfl, later'.eq_nil_of_mem first.eq_nil_of_nil.2⟩
    | cons head before =>
      obtain ⟨rfl, hrest⟩ := List.cons.inj hpieces
      obtain ⟨hbefore, hlater⟩ := ih hrest
      rw [List.flatten_cons, hbefore, first.append_eq]
      exact ⟨rfl, hlater⟩

end Pieces

theorem append_of_takeLine? (h : takeLine? limit bytes = some (line, behind)) :
    line ++ behind = bytes := by
  fun_induction takeLine? limit bytes generalizing line behind with
  | case1 bytes =>
    obtain ⟨rfl, rfl⟩ := Prod.mk.inj (Option.some.inj h)
    rfl
  | case2 limit => cases h
  | case3 limit bytes =>
    obtain ⟨rfl, rfl⟩ := Prod.mk.inj (Option.some.inj h)
    rfl
  | case4 limit b bytes hb ih =>
    obtain ⟨⟨first, rest⟩, hfirst, heq⟩ := Option.map_eq_some_iff.1 h
    obtain ⟨rfl, rfl⟩ := Prod.mk.inj heq
    rw [List.cons_append, ih hfirst]

/-- What is not gathered into the line is kept for the next one. -/
theorem gather_append :
    (gather limit buffer chunks).line ++
      ((gather limit buffer chunks).buffer ++ (gather limit buffer chunks).chunks.flatten) =
      buffer ++ chunks.flatten := by
  induction chunks generalizing limit buffer with
  | nil =>
    rw [gather]
    cases htake : takeLine? limit buffer with
    | some found =>
      rw [List.flatten_nil, List.append_nil, List.append_nil]
      exact append_of_takeLine? htake
    | none => rfl
  | cons chunk chunks ih =>
    rw [gather]
    cases htake : takeLine? limit buffer with
    | some found => rw [← List.append_assoc, append_of_takeLine? htake]
    | none =>
      dsimp only
      rw [List.append_assoc, ih, List.flatten_cons]

/-- A line is not given up before it has its LF or its full length. -/
theorem of_gather_incomplete (h : (gather limit buffer chunks).complete = false) :
    (gather limit buffer chunks).line.length < limit ∧ 10 ∉ (gather limit buffer chunks).line := by
  induction chunks generalizing limit buffer with
  | nil =>
    rw [gather] at h ⊢
    cases htake : takeLine? limit buffer with
    | some found =>
      rw [htake] at h
      cases h
    | none => exact of_takeLine?_eq_none htake
  | cons chunk chunks ih =>
    rw [gather] at h ⊢
    cases htake : takeLine? limit buffer with
    | some found =>
      rw [htake] at h
      cases h
    | none =>
      rw [htake] at h
      obtain ⟨hbuffer, hunbroken⟩ := of_takeLine?_eq_none htake
      obtain ⟨hrest, hunbroken'⟩ := ih h
      dsimp only
      rw [List.length_append, List.mem_append, not_or]
      exact ⟨by omega, hunbroken, hunbroken'⟩

namespace Connection
variable {c : Connection} {s : Stream}

def readLines (c : Connection) : Nat → List (Except ProbeError (List UInt8))
  | 0 => []
  | n + 1 => c.readLine.result :: c.readLine.connection.readLines n

/-- A read gives the next piece and keeps what is behind it. -/
theorem readLine_piece (h : c.stream = some s) (hs : s.Steady) :
    ∃ piece later, c.readLine.result = .ok piece ∧ c.readLine.connection.stream = some later ∧
      later.Steady ∧ Piece s.unread piece later.unread := by
  let g := gather maxLineLength s.buffer s.peer.chunks
  let later : Stream := { s with buffer := g.buffer, peer := { s.peer with chunks := g.chunks } }
  have hlater : later.Steady := ⟨hs.ready, hs.ending⟩
  have hnext : c.readLine.connection.stream = some later := by
    have hending := hs.ending
    rw [readLine, h]
    simp only [hs.ready, Bool.false_eq_true, if_false]
    split
    · rfl
    · split
      · rfl
      next hsilence => cases hending.symm.trans hsilence
      next fault hfault => cases hending.symm.trans hfault
  have hpiece : Piece s.unread ((firstLine s.unread).take maxLineLength) later.unread := by
    refine piece_iff.2 ⟨rfl, ?_⟩
    have hall : g.line ++ later.unread = s.unread := gather_append
    have hline : g.line = (firstLine s.unread).take maxLineLength := gather_line
    rw [← hline, hall]
  exact ⟨_, later, readLine_result h hs, hnext, hlater, hpiece⟩

theorem readLines_pieces (h : c.stream = some s) (hs : s.Steady) (n : Nat) :
    ∃ pieces behind, c.readLines n = pieces.map .ok ∧ pieces.length = n ∧
      Pieces s.unread pieces behind := by
  induction n generalizing c s with
  | zero => exact ⟨[], s.unread, rfl, rfl, .nil _⟩
  | succ n ih =>
    obtain ⟨piece, later, hresult, hstream, hlater, hpiece⟩ := readLine_piece h hs
    obtain ⟨pieces, behind, hrest, hlength, hpieces⟩ := ih hstream hlater
    refine ⟨piece :: pieces, behind, ?_, congrArg Nat.succ hlength, .cons hpiece hpieces⟩
    rw [readLines, hresult, hrest, List.map_cons]

/-- A piece that is over by itself is read whatever follows it, or follows it in vain. -/
theorem readLine_of_whole (h : c.stream = some s) (hready : s.waiting = false)
    (hpiece : Piece s.unread piece behind) (hwhole : 10 ∈ piece ∨ piece.length = 1024) :
    c.readLine.result = .ok piece := by
  have hline : (gather maxLineLength s.buffer s.peer.chunks).line = piece :=
    gather_line.trans hpiece.eq_take.symm
  have hcomplete : (gather maxLineLength s.buffer s.peer.chunks).complete = true := by
    by_contra hnot
    obtain ⟨hlength, hunbroken⟩ := of_gather_incomplete (Bool.not_eq_true _ ▸ hnot)
    rw [hline] at hlength hunbroken
    exact hwhole.elim hunbroken (Nat.ne_of_lt hlength)
  rw [readLine, h]
  simp only [hready, hcomplete, hline, Bool.false_eq_true, if_false, if_true]

theorem stream_write {bytes : List UInt8} (h : c.stream = some s)
    (hwritten : (c.write bytes).result = .ok ()) :
    (c.write bytes).connection.stream = some (s.record bytes) := by
  unfold write at hwritten ⊢
  rw [h] at hwritten ⊢
  dsimp only at hwritten ⊢
  split at hwritten
  · nomatch hwritten
  next hbroken =>
  rw [if_neg hbroken]
  split at hwritten
  · rfl
  all_goals
    split at hwritten
    next hroom => rw [if_pos hroom]
    · nomatch hwritten

end Connection
end Liveness.Net
