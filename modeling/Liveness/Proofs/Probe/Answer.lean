import Liveness.Probe
import Liveness.Proofs.Net.Line
import Liveness.Proofs.Text.Trimming
import Liveness.Proofs.Text.Utf8

/-! What a probe makes of the first line of an answer. The line is cut off by its bytes and judged by
its characters, so a long one is accepted only if the cut falls between two of them. -/
namespace Liveness
open Net Text

namespace StatusLine

def ofText (text : String) : StatusLine := ⟨String.ofList (dropEnd isLineEnd text.toList)⟩

theorem ofText_prefix (p t : String) : (ofText p).text.toList <+: (p ++ t).toList := by
  rw [ofText, String.toList_ofList, String.toList_append]
  exact (List.rdropWhile_prefix isLineEnd p.toList).trans (List.prefix_append _ _)

theorem ofBytes_encode {text : String} (h : "HTTP/".toList <+: text.toList) :
    ofBytes (Utf8.encode text) = .ok (ofText text) := by
  obtain ⟨rest, hrest⟩ := h
  have hne : (Utf8.encode text).isEmpty = false := by
    rw [List.isEmpty_eq_false_iff]
    intro hnil
    have hempty := Utf8.decode?_encode text
    rw [hnil, Utf8.decode?_nil, Option.some.injEq] at hempty
    rw [← hempty] at hrest
    nomatch hrest
  have hlast : ∀ c ∈ "HTTP/".toList.getLast?, isLineEnd c = false := by
    intro c hc
    obtain rfl : '/' = c := by simpa using hc
    rfl
  have hhttp : "HTTP/".toList <+: dropEnd isLineEnd text.toList := by
    rw [← hrest, dropEnd_append_of_getLast? hlast]
    exact List.prefix_append _ _
  rw [ofBytes, hne, if_neg Bool.false_ne_true, Utf8.decode?_encode]
  exact if_pos (List.isPrefixOf_iff_prefix.2 hhttp)

theorem ofBytes_of_decode?_eq_none {bytes : List UInt8} (h : Utf8.decode? bytes = none) :
    ofBytes bytes = .error .notUtf8 := by
  have hne : bytes.isEmpty = false := by
    rw [List.isEmpty_eq_false_iff]
    rintro rfl
    nomatch h
  rw [ofBytes, hne, if_neg Bool.false_ne_true, h]

end StatusLine

namespace Probe
variable {c : Connection} {s : Stream} {text : String}

def readStatus (c : Connection) : Except ProbeError StatusLine :=
  match c.readLine.result with
  | .error e => .error e
  | .ok line => (StatusLine.ofBytes line).mapError .protocol

theorem exchange_result {head : List UInt8} (h : (c.write head).result = .ok ()) :
    (exchange c head).result = readStatus (c.write head).connection := by
  rw [exchange]
  simp only [h]
  rfl

theorem readStatus_of_steady (hstream : c.stream = some s) (hs : s.Steady)
    (hline : firstLine s.unread = Utf8.encode text) :
    readStatus c =
      (StatusLine.ofBytes ((Utf8.encode text).take maxLineLength)).mapError .protocol := by
  rw [readStatus, Connection.readLine_result hstream hs, hline]

theorem readStatus_short (hstream : c.stream = some s) (hs : s.Steady)
    (hline : firstLine s.unread = Utf8.encode text) (hhttp : "HTTP/".toList <+: text.toList)
    (hshort : (Utf8.encode text).length ≤ maxLineLength) :
    readStatus c = .ok (.ofText text) := by
  rw [readStatus_of_steady hstream hs hline, List.take_of_length_le hshort,
    StatusLine.ofBytes_encode hhttp]
  rfl

/-- The protocol's name survives a cut behind it. -/
theorem http_prefix_of_cut {p t : String} (hhttp : "HTTP/".toList <+: (p ++ t).toList)
    (hlength : (Utf8.encode "HTTP/").length < (Utf8.encode p).length) :
    "HTTP/".toList <+: p.toList := by
  rw [String.toList_append] at hhttp
  obtain hp | ⟨rest, hrest⟩ :=
    List.prefix_or_prefix_of_prefix hhttp (List.prefix_append p.toList t.toList)
  · exact hp
  · rw [Utf8.encode, ← hrest, List.flatMap_append, List.length_append] at hlength
    exact absurd hlength (Nat.not_lt.2 (Nat.le_add_right _ _))

theorem readStatus_cut {p t : String} (hstream : c.stream = some s) (hs : s.Steady)
    (hline : firstLine s.unread = Utf8.encode text) (hhttp : "HTTP/".toList <+: text.toList)
    (htext : text = p ++ t) (hcut : (Utf8.encode p).length = maxLineLength) :
    readStatus c = .ok (.ofText p) := by
  subst htext
  have hp : "HTTP/".toList <+: p.toList := by
    apply http_prefix_of_cut hhttp
    rw [hcut]
    decide
  rw [readStatus_of_steady hstream hs hline, Utf8.encode_append, ← hcut, List.take_left,
    StatusLine.ofBytes_encode hp]
  rfl

theorem readStatus_cut_inside (hstream : c.stream = some s) (hs : s.Steady)
    (hline : firstLine s.unread = Utf8.encode text)
    (hlong : maxLineLength < (Utf8.encode text).length)
    (hcut : ∀ p t, text = p ++ t → (Utf8.encode p).length ≠ maxLineLength) :
    readStatus c = .error (.protocol .notUtf8) := by
  have hnone := Utf8.decode?_take_eq_none (Nat.le_of_lt hlong) hcut
  rw [readStatus_of_steady hstream hs hline, StatusLine.ofBytes_of_decode?_eq_none hnone]
  rfl

/-- An answer whose first line is text that names the protocol is accepted, cut off or not, unless
the cut falls inside a character. -/
theorem readStatus_firstLine (hstream : c.stream = some s) (hs : s.Steady)
    (hline : firstLine s.unread = Utf8.encode text) (hhttp : "HTTP/".toList <+: text.toList) :
    ((Utf8.encode text).length ≤ maxLineLength → readStatus c = .ok (.ofText text)) ∧
      (∀ p t, text = p ++ t → (Utf8.encode p).length = maxLineLength →
        readStatus c = .ok (.ofText p) ∧ (StatusLine.ofText p).text.toList <+: text.toList) ∧
      (maxLineLength < (Utf8.encode text).length →
        (∀ p t, text = p ++ t → (Utf8.encode p).length ≠ maxLineLength) →
          readStatus c = .error (.protocol .notUtf8)) := by
  refine ⟨readStatus_short hstream hs hline hhttp, fun p t htext hcut => ?_,
    readStatus_cut_inside hstream hs hline⟩
  refine ⟨readStatus_cut hstream hs hline hhttp htext hcut, ?_⟩
  rw [htext]
  exact StatusLine.ofText_prefix p t

/-- One in two chunks, with a character of two bytes. -/
theorem readStatus_firstLine_chunks :
    let chunks : List (List UInt8) :=
      [Utf8.encode "HTTP/1.1 200 tr", Utf8.encode "ès\r\nServer: x\r\n"]
    let peer : Peer := ⟨.accepts, .completes, .unbounded, false, chunks, .endOfStream, .completes⟩
    let c : Connection := ⟨⟨.v4 0x0A000001, 80, 0⟩, false, .ofSecs 3, some (.new peer)⟩
    (Stream.new peer).Steady ∧
      firstLine (Stream.new peer).unread = Utf8.encode "HTTP/1.1 200 très\r\n" ∧
      "HTTP/".toList <+: "HTTP/1.1 200 très\r\n".toList ∧
      readStatus c = .ok ⟨"HTTP/1.1 200 très"⟩ := by
  intro chunks peer c
  have hs : (Stream.new peer).Steady := ⟨rfl, rfl⟩
  have hline : firstLine (Stream.new peer).unread = Utf8.encode "HTTP/1.1 200 très\r\n" := by
    decide +kernel
  have hhttp : "HTTP/".toList <+: "HTTP/1.1 200 très\r\n".toList := by decide +kernel
  have hshort : (Utf8.encode "HTTP/1.1 200 très\r\n").length ≤ maxLineLength := by decide +kernel
  have htext : StatusLine.ofText "HTTP/1.1 200 très\r\n" = ⟨"HTTP/1.1 200 très"⟩ := by
    decide +kernel
  have hstatus := (readStatus_firstLine (c := c) rfl hs hline hhttp).1 hshort
  rw [htext] at hstatus
  exact ⟨hs, hline, hhttp, hstatus⟩

/-- A character of two bytes across the limit: its answer is refused, though it is text and names the
protocol. -/
theorem readStatus_of_cut_character :
    let before := "HTTP/1.0 200 " ++ String.ofList (List.replicate 1010 'a')
    let text := before ++ String.singleton 'é' ++ "\r\n"
    let peer : Peer :=
      ⟨.accepts, .completes, .unbounded, false, [Utf8.encode text], .endOfStream, .completes⟩
    let c : Connection := ⟨⟨.v4 0x0A000001, 80, 0⟩, false, .ofSecs 3, some (.new peer)⟩
    (Stream.new peer).Steady ∧ firstLine (Stream.new peer).unread = Utf8.encode text ∧
      "HTTP/".toList <+: text.toList ∧ readStatus c = .error (.protocol .notUtf8) := by
  intro before text peer c
  have hs : (Stream.new peer).Steady := ⟨rfl, rfl⟩
  have hbefore : (Utf8.encode before).length = 1023 := by
    have hhead : (Utf8.encode "HTTP/1.0 200 ").length = 13 := by decide +kernel
    have hsize : 'a'.utf8Size = 1 := by decide
    have htail (n : Nat) : (Utf8.encode (String.ofList (List.replicate n 'a'))).length = n := by
      simp [Utf8.encode, hsize]
    rw [Utf8.encode_append, List.length_append, hhead, htail]
  have hbreak : 10 ∉ Utf8.encode before := by
    rw [Utf8.mem_encode_iff (by decide), String.toList_append, List.mem_append, not_or]
    refine ⟨by decide, ?_⟩
    rw [@String.toList_ofList (List.replicate 1010 'a'), List.mem_replicate]
    decide
  have hsplit : Utf8.encode text = Utf8.encode before ++ [0xC3, 0xA9, 13, 10] := by
    rw [Utf8.encode_append, Utf8.encode_append, List.append_assoc]
    congr 1
  have hline : firstLine (Stream.new peer).unread = Utf8.encode text := by
    have hchunks : peer.chunks = [Utf8.encode text] := rfl
    have hend : firstLine [0xC3, 0xA9, 13, 10] = [0xC3, 0xA9, 13, 10] := by decide
    rw [Stream.unread_new, hchunks, List.flatten_singleton, hsplit, firstLine_append hbreak, hend]
  have hhttp : "HTTP/".toList <+: text.toList := by
    have hlonger (s t : String) : s.toList <+: (s ++ t).toList := by
      rw [String.toList_append]
      exact List.prefix_append _ _
    have hhead : "HTTP/".toList <+: "HTTP/1.0 200 ".toList := hlonger "HTTP/" "1.0 200 "
    have hbefore : "HTTP/1.0 200 ".toList <+: before.toList := hlonger _ _
    have hname : before.toList <+: (before ++ String.singleton 'é').toList := hlonger _ _
    exact hhead.trans (hbefore.trans (hname.trans (hlonger _ _)))
  have hlong : maxLineLength < (Utf8.encode text).length := by
    rw [hsplit, List.length_append, hbefore]
    decide
  refine ⟨hs, hline, hhttp, readStatus_cut_inside rfl hs hline hlong fun p t hcut => ?_⟩
  apply Utf8.length_encode_ne hcut
  · rw [hbefore]
    decide
  · rw [hbefore]
    decide +kernel

end Probe
end Liveness
