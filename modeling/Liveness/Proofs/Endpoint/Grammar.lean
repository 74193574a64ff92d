import Liveness.Proofs.Endpoint.Spelling
import Liveness.Proofs.Endpoint.WellFormed
import Liveness.Proofs.Text.Numeral

/-! The grammar of URLs: a scheme in any case, `://`, a host, and then a port or none and a path or
none. Reading accepts it and nothing else. -/
namespace Liveness
open Text

theorem Scheme.ofToken?_eq_some_iff {token : List Char} {s : Scheme} :
    ofToken? token = some s ↔ token.map Char.toLower = s.name.toList := by
  have hne : "https".toList ≠ "http".toList := by decide
  unfold ofToken?
  dsimp only
  constructor
  · intro h
    split_ifs at h with hplain hsecure
    · obtain rfl := Option.some.inj h
      exact hplain
    · obtain rfl := Option.some.inj h
      exact hsecure
  · intro h
    rw [h]
    cases s with
    | plain => exact if_pos rfl
    | secure => exact (if_neg hne).trans (if_pos rfl)

namespace Endpoint

/-- What stands for a port behind a host: nothing for the default port of the scheme, or a colon and a
numeral. -/
inductive PortPart (scheme : Scheme) (port : UInt16) : List Char → Prop
  | absent (default : port = scheme.defaultPort) : PortPart scheme port []
  | given {numeral : List Char} (denotes : IsNumeral numeral port.toNat)
      (range : 1 ≤ port.toNat ∧ port.toNat ≤ 65535) : PortPart scheme port (':' :: numeral)

/-- What stands for a path: nothing for the empty one, or a slash and the path. -/
inductive PathPart (path : List Char) : List Char → Prop
  | absent (empty : path = []) : PathPart path []
  | given (clean : ∀ c ∈ path, isBlank c = false ∧ isControl c = false) :
      PathPart path ('/' :: path)

/-- A URL for an endpoint, with its parts for the scheme, the port and the path. -/
structure Written (url : String) (e : Endpoint) (token port path : List Char) : Prop where
  url_eq : url.toList = token ++ "://".toList ++ e.host.toList ++ port ++ path
  token : token.map Char.toLower = e.scheme.name.toList
  host_ne_nil : e.host.toList ≠ []
  host : ∀ c ∈ e.host.toList, c.isAlphanum ∨ c = '.' ∨ c = '-' ∨ c = '_'
  port : PortPart e.scheme e.port port
  path : PathPart e.path.toList path

variable {scheme : Scheme} {port : UInt16} {digits authority host portPart path tail : List Char}
  {token : List Char} {url : String} {e : Endpoint} {c : Char}

theorem isHostChar_iff : isHostChar c ↔ c.isAlphanum ∨ c = '.' ∨ c = '-' ∨ c = '_' := by
  simp only [isHostChar, Bool.or_eq_true, beq_iff_eq, or_assoc]

theorem isPathChar_iff : isPathChar c ↔ isBlank c = false ∧ isControl c = false := by
  simp [isPathChar]

theorem readPort_eq_ok_iff :
    readPort digits = .ok port ↔ IsNumeral digits port.toNat ∧ 1 ≤ port.toNat := by
  have hbound : port.toNat ≤ max16 := Nat.le_of_lt_succ port.toNat_lt
  constructor
  · intro h
    have hpos : 1 ≤ port.toNat := by
      rw [Nat.one_le_iff_ne_zero]
      intro hzero
      exact readPort_ne_zero h (UInt16.toNat_inj.1 hzero)
    unfold readPort at h
    split at h
    · nomatch h
    next n hne hn =>
      obtain ⟨hnumeral, hle⟩ := readNumeral_eq_ok_iff.1 hn
      obtain rfl := Except.ok.inj h
      have hvalue : (UInt16.ofNat n).toNat = n := UInt16.toNat_ofNat_of_lt (Nat.lt_succ_of_le hle)
      rw [hvalue] at hpos ⊢
      exact ⟨hnumeral, hpos⟩
    · nomatch h
  · rintro ⟨hnumeral, hpos⟩
    have hread : readNumeral max16 digits = .ok port.toNat :=
      readNumeral_eq_ok_iff.2 ⟨hnumeral, hbound⟩
    have hport : UInt16.ofNat port.toNat = port := UInt16.ofNat_toNat
    obtain ⟨n, hn⟩ : ∃ n, port.toNat = n + 1 := ⟨port.toNat - 1, by omega⟩
    rw [hn] at hread hport
    unfold readPort
    rw [hread]
    exact congrArg Except.ok hport

theorem notMem_of_isHostChar (h : ∀ d ∈ host, isHostChar d) (hc : isHostChar c = false) :
    c ∉ host := by
  intro hmem
  rw [h c hmem] at hc
  nomatch hc

/-- A host holds no colon, so the first colon of an authority ends it. -/
theorem readAuthority_eq_ok_iff (hhost : ∀ c ∈ host, isHostChar c) :
    readAuthority scheme authority = .ok (host, port) ↔
      ∃ portPart, authority = host ++ portPart ∧ PortPart scheme port portPart := by
  have hcolon : ':' ∉ host := notMem_of_isHostChar hhost (by decide)
  have hbound : port.toNat ≤ 65535 := Nat.le_of_lt_succ port.toNat_lt
  constructor
  · intro h
    unfold readAuthority at h
    split at h
    next first digits hcut =>
      obtain ⟨rfl, -⟩ := cut?_single_eq_some.1 hcut
      cases hread : readPort digits with
      | error fault =>
        rw [hread] at h
        nomatch h
      | ok p =>
        rw [hread] at h
        obtain ⟨rfl, rfl⟩ := Prod.mk.inj (Except.ok.inj h)
        obtain ⟨hnumeral, hpos⟩ := readPort_eq_ok_iff.1 hread
        exact ⟨':' :: digits, rfl, .given hnumeral ⟨hpos, hbound⟩⟩
    · obtain ⟨rfl, rfl⟩ := Prod.mk.inj (Except.ok.inj h)
      exact ⟨[], (List.append_nil _).symm, .absent rfl⟩
  · rintro ⟨portPart, rfl, hport⟩
    unfold readAuthority
    cases hport with
    | absent hdefault => rw [List.append_nil, cut?_single_eq_none.2 hcolon, hdefault]
    | given hnumeral hrange =>
      rw [cut?_single_eq_some.2 ⟨rfl, hcolon⟩]
      dsimp only
      rw [readPort_eq_ok_iff.2 ⟨hnumeral, hrange.1⟩]
      rfl

theorem PortPart.slash_notMem (h : PortPart scheme port portPart) : '/' ∉ portPart := by
  cases h with
  | absent hdefault => exact List.not_mem_nil
  | given hnumeral hrange =>
    intro hmem
    obtain hslash | hslash := List.mem_cons.1 hmem
    · nomatch hslash
    · obtain hplus | hdigit := hnumeral.of_mem hslash
      · nomatch hplus
      · nomatch hdigit

theorem pathPart_iff : PathPart path tail ↔
    (∀ c ∈ tail.head?, c = '/') ∧ path = tail.tail ∧ ∀ c ∈ path, isPathChar c := by
  constructor
  · rintro (rfl | hclean)
    · exact ⟨nofun, rfl, nofun⟩
    · exact ⟨by simp, rfl, fun c hc => isPathChar_iff.2 (hclean c hc)⟩
  · rintro ⟨hhead, rfl, hpath⟩
    cases tail with
    | nil => exact .absent rfl
    | cons c path =>
      obtain rfl := hhead c rfl
      exact .given fun c hc => isPathChar_iff.1 (hpath c hc)

theorem Written.spells (h : Written url e token portPart path) :
    Spells url.toList e token (e.host.toList ++ portPart) path := by
  have hhost : ∀ c ∈ e.host.toList, isHostChar c := fun c hc => isHostChar_iff.2 (h.host c hc)
  have hslash : '/' ∉ e.host.toList := notMem_of_isHostChar hhost (by decide)
  obtain ⟨hhead, htail, hpath⟩ := pathPart_iff.1 h.path
  exact {
    url_eq := by rw [h.url_eq]; simp only [List.append_assoc]
    scheme := Scheme.ofToken?_eq_some_iff.2 h.token
    slash_notMem := by
      rw [List.mem_append, not_or]
      exact ⟨hslash, h.port.slash_notMem⟩
    authority := (readAuthority_eq_ok_iff hhost).2 ⟨portPart, rfl, h.port⟩
    host_ne_nil := h.host_ne_nil
    isHostChar_of_mem := hhost
    tail_head? := hhead
    path := htail
    isPathChar_of_mem := hpath }

theorem Spells.exists_written (h : Spells url.toList e token authority path) :
    ∃ portPart, Written url e token portPart path := by
  obtain ⟨portPart, rfl, hport⟩ := (readAuthority_eq_ok_iff h.isHostChar_of_mem).1 h.authority
  exact ⟨portPart, {
    url_eq := by rw [h.url_eq]; simp only [List.append_assoc]
    token := Scheme.ofToken?_eq_some_iff.1 h.scheme
    host_ne_nil := h.host_ne_nil
    host := fun c hc => isHostChar_iff.1 (h.isHostChar_of_mem c hc)
    port := hport
    path := pathPart_iff.2 ⟨h.tail_head?, h.path, h.isPathChar_of_mem⟩ }⟩

theorem parse_eq_ok_iff_written :
    parse url = .ok e ↔ ∃ token portPart path, Written url e token portPart path := by
  rw [parse_eq_ok_iff, read_eq_ok_iff]
  constructor
  · rintro ⟨token, authority, tail, h⟩
    obtain ⟨portPart, hwritten⟩ := h.exists_written
    exact ⟨token, portPart, tail, hwritten⟩
  · rintro ⟨token, portPart, path, h⟩
    exact ⟨token, _, path, h.spells⟩

/-- A text is a URL for an endpoint or malformed, and the fault bears the text. -/
theorem parse_grammar (url : String) :
    (∀ e, parse url = .ok e ↔ ∃ token port path, Written url e token port path) ∧
      ((∃ fault, parse url = .error ⟨url, fault⟩) ↔
        ∀ e token port path, ¬ Written url e token port path) := by
  refine ⟨fun e => parse_eq_ok_iff_written, ?_⟩
  constructor
  · rintro ⟨fault, hfault⟩ e token port path hwritten
    have hok := parse_eq_ok_iff_written.2 ⟨token, port, path, hwritten⟩
    rw [hfault] at hok
    nomatch hok
  · intro hnone
    cases hparse : parse url with
    | ok e =>
      obtain ⟨token, port, path, hwritten⟩ := parse_eq_ok_iff_written.1 hparse
      exact absurd hwritten (hnone e token port path)
    | error malformed =>
      obtain ⟨text, fault⟩ := malformed
      obtain rfl : text = url := parse_error_url hparse
      exact ⟨fault, rfl⟩

example : parse "HtTp://a_b.-:+000000081/x://y:0" = .ok ⟨.plain, "a_b.-", 81, "x://y:0"⟩ := by
  decide +kernel

end Endpoint
end Liveness
