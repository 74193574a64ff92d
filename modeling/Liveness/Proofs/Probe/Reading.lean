import Liveness.Proofs.Net.Pieces
import Liveness.Proofs.Probe.Answer
import Liveness.Proofs.Request.Framing

/-! What is read over a connection. The reads depend on the bytes that the peer sends and on nothing
else, and an exchange on the first piece of them only. -/
namespace Liveness.Probe
open Net Text
variable {c : Connection} {s : Stream}

theorem headEnd_suffix_encode (method : Method) (target : Endpoint) (token : Option String) :
    Stream.headEnd <:+ Request.encode method target token := by
  have hend : Utf8.encode "\r\n" ++ Utf8.encode "\r\n" = Stream.headEnd := by decide
  unfold Request.encode Request.headText
  cases token with
  | none =>
    refine ⟨Utf8.encode (method.name ++ " /" ++ target.path ++ " HTTP/1.0\r\nHost: " ++ target.host), ?_⟩
    simp only [Utf8.encode_append, ← hend, List.append_assoc, String.append_empty]
  | some t =>
    refine ⟨Utf8.encode (method.name ++ " /" ++ target.path ++ " HTTP/1.0\r\nHost: " ++ target.host ++
      "\r\n" ++ ("Authorization: " ++ t)), ?_⟩
    simp only [Utf8.encode_append, ← hend, List.append_assoc]

/-- Once a head is written, no peer waits for more. -/
theorem waiting_record_encode (s : Stream) (method : Method) (target : Endpoint)
    (token : Option String) : (s.record (Request.encode method target token)).waiting = false := by
  have hseen : Stream.headEnd.isSuffixOf (s.sent ++ Request.encode method target token) = true :=
    List.isSuffixOf_iff_suffix.2
      ((headEnd_suffix_encode method target token).trans (List.suffix_append _ _))
  unfold Stream.record Stream.waiting
  dsimp only
  rw [hseen, Bool.or_true, Bool.not_true, Bool.and_false]

/-- An exchange takes its status line from the first piece of the answer. -/
theorem exchange_of_piece {method : Method} {target : Endpoint} {token : Option String}
    {piece behind : List UInt8} (h : c.stream = some s)
    (hwritten : (c.write (Request.encode method target token)).result = .ok ())
    (hpiece : Piece s.unread piece behind)
    (hover : s.peer.ending = .endOfStream ∨ 10 ∈ piece ∨ piece.length = 1024) :
    (exchange c (Request.encode method target token)).result =
      (StatusLine.ofBytes piece).mapError .protocol := by
  have hstream := Connection.stream_write h hwritten
  have hready := waiting_record_encode s method target token
  have hread :
      (c.write (Request.encode method target token)).connection.readLine.result = .ok piece := by
    obtain hending | hwhole := hover
    · have hresult := Connection.readLine_result hstream ⟨hready, hending⟩
      rw [hresult, hpiece.eq_take]
      rfl
    · exact Connection.readLine_of_whole hstream hready hpiece hwhole
  rw [exchange_result hwritten, readStatus, hread]

/-- Reads give the pieces of what the peer sends, in order and none of it lost, and then nothing for
ever, however it was cut into chunks. An exchange depends on the first piece alone: what follows it,
and even whether the stream ends, matters only where the piece is not over by itself. -/
theorem reads_pieces (h : c.stream = some s) :
    (s.Steady → ∀ n, ∃ pieces behind, c.readLines n = pieces.map .ok ∧ pieces.length = n ∧
      Pieces s.unread pieces behind ∧ pieces.flatten <+: s.unread ∧
      (∀ before later, pieces = before ++ [] :: later →
        before.flatten = s.unread ∧ ∀ p ∈ later, p = []) ∧
      ∀ (c' : Connection) (s' : Stream), c'.stream = some s' → s'.Steady →
        s'.unread = s.unread → c'.readLines n = c.readLines n) ∧
    ∀ method target token piece behind,
      (c.write (Request.encode method target token)).result = .ok () →
      Piece s.unread piece behind →
      (s.peer.ending = .endOfStream ∨ 10 ∈ piece ∨ piece.length = 1024) →
        (exchange c (Request.encode method target token)).result =
          (StatusLine.ofBytes piece).mapError .protocol := by
  refine ⟨fun hs n => ?_, fun method target token piece behind => exchange_of_piece h⟩
  obtain ⟨pieces, behind, hread, hlength, hpieces⟩ := Connection.readLines_pieces h hs n
  refine ⟨pieces, behind, hread, hlength, hpieces, ⟨behind, hpieces.flatten_append⟩,
    fun before later => hpieces.ended, fun c' s' h' hs' hsame => ?_⟩
  obtain ⟨pieces', behind', hread', hlength', hpieces'⟩ := Connection.readLines_pieces h' hs' n
  rw [hsame] at hpieces'
  rw [hread', hread, hpieces.unique hpieces' (hlength'.trans hlength.symm)]

/-- A line whose CR and LF come in different chunks, a line without an end, and the end. -/
theorem reads_pieces_chunks :
    let chunks : List (List UInt8) :=
      [Utf8.encode "HTTP/1.0 200 OK\r", Utf8.encode "\nServer", [], Utf8.encode ": x"]
    let peer : Peer := ⟨.accepts, .completes, .unbounded, false, chunks, .endOfStream, .completes⟩
    let whole : Peer := { peer with chunks := [chunks.flatten] }
    let address : SocketAddress := ⟨.v4 0x0A000001, 80, 0⟩
    let c : Connection := ⟨address, false, .ofSecs 3, some (.new peer)⟩
    let head := Request.encode .get ⟨.plain, "10.0.0.1", 80, livenessPath⟩ none
    (Stream.new peer).Steady ∧ (Stream.new whole).Steady ∧ (c.write head).result = .ok () ∧
      Piece (Stream.new peer).unread (Utf8.encode "HTTP/1.0 200 OK\r\n") (Utf8.encode "Server: x") ∧
      c.readLines 4 = [.ok (Utf8.encode "HTTP/1.0 200 OK\r\n"), .ok (Utf8.encode "Server: x"),
        .ok [], .ok []] ∧
      { c with stream := some (.new whole) }.readLines 4 = c.readLines 4 ∧
      (exchange c head).result = .ok ⟨"HTTP/1.0 200 OK"⟩ := by
  intro chunks peer whole address c head
  have hs : (Stream.new peer).Steady := ⟨rfl, rfl⟩
  have hwhole : (Stream.new whole).Steady := ⟨rfl, rfl⟩
  have hwritten : (c.write head).result = .ok () := rfl
  have hpiece : Piece (Stream.new peer).unread (Utf8.encode "HTTP/1.0 200 OK\r\n")
      (Utf8.encode "Server: x") :=
    @Piece.line (Utf8.encode "HTTP/1.0 200 OK\r") _ (by decide +kernel) (by decide +kernel)
  obtain ⟨hreads, hexchange⟩ := reads_pieces (c := c) (s := .new peer) rfl
  obtain ⟨pieces, behind, hread, hlength, hpieces, -, -, hchunks⟩ := hreads hs 4
  have hend : Piece [] [] [] := .last (by decide) (by decide)
  have hlast : Piece (Utf8.encode "Server: x") (Utf8.encode "Server: x") [] :=
    .last (by decide +kernel) (by decide +kernel)
  obtain rfl := (Pieces.cons hpiece (.cons hlast (.cons hend (.cons hend (.nil _))))).unique hpieces
    hlength
  have hsame : (Stream.new whole).unread = (Stream.new peer).unread := by decide +kernel
  have hline : StatusLine.ofBytes (Utf8.encode "HTTP/1.0 200 OK\r\n") = .ok ⟨"HTTP/1.0 200 OK"⟩ := by
    decide +kernel
  have hresult := hexchange _ _ _ _ _ hwritten hpiece (.inl rfl)
  rw [hline] at hresult
  exact ⟨hs, hwhole, hwritten, hpiece, hread, hchunks _ _ rfl hwhole hsame, hresult⟩

end Liveness.Probe
