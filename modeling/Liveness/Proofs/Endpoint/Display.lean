import Liveness.Proofs.Endpoint.Grammar

/-! The canonical text of an endpoint. It is a URL for the endpoint exactly where any URL is, so among
the endpoints that URLs name it tells one from another. -/
namespace Liveness.Endpoint
open Text

def shownPort (e : Endpoint) : List Char :=
  if e.port = e.scheme.defaultPort then [] else ':' :: Nat.toDigits 10 e.port.toNat

variable {d e : Endpoint}

theorem toList_display : e.display.toList =
    e.scheme.name.toList ++ "://".toList ++ e.host.toList ++ e.shownPort ++ '/' :: e.path.toList := by
  have hport : (if e.port = e.scheme.defaultPort then "" else ":" ++ toString e.port.toNat).toList =
      e.shownPort := by
    unfold shownPort
    split_ifs with hdefault
    · rfl
    · rw [String.toList_append, Nat.toString_eq_repr, Nat.toList_repr]
      rfl
  have hslash : "/".toList = ['/'] := rfl
  simp only [display, String.toList_append, hport, hslash, List.append_assoc, List.cons_append,
    List.nil_append]

theorem portPart_shownPort (h : e.port ≠ 0) : PortPart e.scheme e.port e.shownPort := by
  have hbound : e.port.toNat ≤ 65535 := Nat.le_of_lt_succ e.port.toNat_lt
  have hpos : 1 ≤ e.port.toNat := by
    rw [Nat.one_le_iff_ne_zero]
    exact fun hzero => h (UInt16.toNat_inj.1 hzero)
  unfold shownPort
  split_ifs with hdefault
  · exact .absent hdefault
  · exact .given isNumeral_toDigits ⟨hpos, hbound⟩

theorem WellFormed.written (h : e.WellFormed) :
    Written e.display e e.scheme.name.toList e.shownPort ('/' :: e.path.toList) where
  url_eq := toList_display
  token := Scheme.ofToken?_eq_some_iff.1 (Scheme.ofToken?_name e.scheme)
  host_ne_nil := h.host_ne_nil
  host := fun c hc => isHostChar_iff.1 (h.isHostChar_of_mem c hc)
  port := portPart_shownPort h.port_ne_zero
  path := .given fun c hc => isPathChar_iff.1 (h.isPathChar_of_mem c hc)

theorem parse_display_eq_ok_iff : parse e.display = .ok e ↔ e.WellFormed := by
  constructor
  · exact wellFormed_of_parse
  · intro h
    exact parse_eq_ok_iff_written.2 ⟨_, _, _, h.written⟩

theorem WellFormed.display_inj (hd : d.WellFormed) (he : e.WellFormed) :
    d.display = e.display ↔ d = e := by
  constructor
  · intro h
    have hparse := parse_display_eq_ok_iff.2 hd
    rw [h, parse_display_eq_ok_iff.2 he] at hparse
    exact (Except.ok.inj hparse).symm
  · exact congrArg display

/-- An endpoint is read back from its canonical text exactly if its host, its port and its path are
such as URLs have. All endpoints that are read from URLs or joined are, so their canonical texts tell
them apart and are kept by reading. -/
theorem display_canonical :
    (∀ e : Endpoint, parse e.display = .ok e ↔ e.WellFormed) ∧
      (∀ url e, parse url = .ok e → e.WellFormed) ∧
      (∀ base relative e, join base relative = .ok e → e.WellFormed) ∧
      (∀ u v d e, parse u = .ok d → parse v = .ok e → (d = e ↔ d.display = e.display)) ∧
      ∀ u e, parse u = .ok e → (parse e.display).map display = .ok e.display := by
  refine ⟨fun e => parse_display_eq_ok_iff, fun url e => wellFormed_of_parse,
    fun base relative e => wellFormed_of_join, fun u v d e hu hv => ?_, fun u e hu => ?_⟩
  · exact ((wellFormed_of_parse hu).display_inj (wellFormed_of_parse hv)).symm
  · rw [parse_display_eq_ok_iff.2 (wellFormed_of_parse hu)]
    rfl

example : display ⟨.secure, "h", 80, "/a://b:1/"⟩ = "https://h:80//a://b:1/" := by decide +kernel

end Liveness.Endpoint
