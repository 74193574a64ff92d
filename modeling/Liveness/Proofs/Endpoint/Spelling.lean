import Liveness.Endpoint
import Mathlib.Data.Char

/-! How the URLs of endpoints are spelled: a scheme in any case, an authority without slashes, and
behind the next slash the path. A URL is read as an endpoint exactly if it is one of its
spellings. -/
namespace Liveness
open Text

theorem Scheme.notMem_of_ofToken? {token : List Char} {s : Scheme} (h : ofToken? token = some s)
    {c : Char} (hplain : c.toLower ∉ "http".toList) (hsecure : c.toLower ∉ "https".toList) :
    c ∉ token := by
  intro hc
  have hlower : c.toLower ∈ token.map Char.toLower := List.mem_map_of_mem hc
  unfold ofToken? at h
  dsimp only at h
  split at h
  next heq => exact hplain (heq ▸ hlower)
  next =>
    split at h
    next heq => exact hsecure (heq ▸ hlower)
    next => nomatch h

namespace Endpoint

/-- A URL in its parts. Behind the authority there is nothing, or a slash and the path. -/
structure Spells (url : List Char) (e : Endpoint) (token authority tail : List Char) : Prop where
  url_eq : url = token ++ "://".toList ++ (authority ++ tail)
  scheme : Scheme.ofToken? token = some e.scheme
  slash_notMem : '/' ∉ authority
  authority : readAuthority e.scheme authority = .ok (e.host.toList, e.port)
  host_ne_nil : e.host.toList ≠ []
  isHostChar_of_mem : ∀ c ∈ e.host.toList, isHostChar c
  tail_head? : ∀ c ∈ tail.head?, c = '/'
  path : e.path.toList = tail.tail
  isPathChar_of_mem : ∀ c ∈ e.path.toList, isPathChar c

theorem parse_eq_ok_iff {url : String} {e : Endpoint} :
    parse url = .ok e ↔ read url.toList = .ok e := by
  unfold parse
  cases read url.toList <;> simp [Except.mapError]

variable {url rest token authority tail path : List Char} {e : Endpoint}

theorem cut?_slash_eq_iff : (cut? ['/'] rest).getD (rest, []) = (authority, path) ↔
    '/' ∉ authority ∧
      ∃ tail, rest = authority ++ tail ∧ (∀ c ∈ tail.head?, c = '/') ∧ path = tail.tail := by
  constructor
  · intro h
    cases hcut : cut? ['/'] rest with
    | none =>
      rw [hcut] at h
      obtain ⟨rfl, rfl⟩ := Prod.mk.inj h
      exact ⟨cut?_single_eq_none.1 hcut, [], by simp, nofun, rfl⟩
    | some parts =>
      rw [hcut] at h
      obtain rfl : parts = (authority, path) := h
      obtain ⟨hrest, hslash⟩ := cut?_single_eq_some.1 hcut
      exact ⟨hslash, '/' :: path, hrest, by simp, rfl⟩
  · rintro ⟨hslash, tail, rfl, hhead, rfl⟩
    cases tail with
    | nil => simp [cut?_single_eq_none.2 hslash]
    | cons c path =>
      obtain rfl := hhead c rfl
      simp [cut?_single_eq_some.2 ⟨rfl, hslash⟩]

theorem Spells.read_eq (h : Spells url e token authority tail) : read url = .ok e := by
  have hcolon : ':' ∉ token := Scheme.notMem_of_ofToken? h.scheme (by decide) (by decide)
  have hcut : cut? "://".toList url = some (token, authority ++ tail) := by
    rw [h.url_eq]
    exact cut?_append hcolon
  have hslash : (cut? ['/'] (authority ++ tail)).getD (authority ++ tail, []) =
      (authority, e.path.toList) :=
    cut?_slash_eq_iff.2 ⟨h.slash_notMem, tail, rfl, h.tail_head?, h.path⟩
  have hempty : e.host.toList.isEmpty = false := by simpa using h.host_ne_nil
  have hhost : e.host.toList.find? (!isHostChar ·) = none := by simpa using h.isHostChar_of_mem
  have hpath : e.path.toList.all isPathChar = true := by simpa using h.isPathChar_of_mem
  simp only [read, hcut, h.scheme, hslash, h.authority, hempty, hhost, hpath, if_true,
    Bool.false_eq_true, if_false, String.ofList_toList]

theorem exists_spells_of_read (h : read url = .ok e) :
    ∃ token authority tail, Spells url e token authority tail := by
  unfold read at h
  split at h
  · nomatch h
  next token rest hurl =>
  split at h
  · nomatch h
  next scheme hscheme =>
  cases hparts : (cut? ['/'] rest).getD (rest, []) with
  | mk authority path =>
  rw [hparts] at h
  dsimp only at h
  split at h
  · nomatch h
  next host port hauthority =>
  have hempty : host ≠ [] := by
    rintro rfl
    nomatch h
  rw [if_neg (by simpa using hempty)] at h
  split at h
  · nomatch h
  next hhost =>
  split at h
  next hpath =>
    obtain rfl := Except.ok.inj h
    obtain ⟨hslash, tail, rfl, hhead, rfl⟩ := cut?_slash_eq_iff.1 hparts
    exact ⟨token, authority, tail, {
      url_eq := eq_of_cut?_eq_some hurl
      scheme := hscheme
      slash_notMem := hslash
      authority := by simpa using hauthority
      host_ne_nil := by simpa using hempty
      isHostChar_of_mem := by simpa using hhost
      tail_head? := hhead
      path := by simp
      isPathChar_of_mem := by simpa using hpath }⟩
  · nomatch h

theorem read_eq_ok_iff :
    read url = .ok e ↔ ∃ token authority tail, Spells url e token authority tail :=
  ⟨exists_spells_of_read, fun ⟨_, _, _, h⟩ => h.read_eq⟩

theorem Spells.authority_ne_nil (h : Spells url e token authority tail) : authority ≠ [] := by
  rintro rfl
  have hnil : readAuthority e.scheme [] = .ok ([], e.scheme.defaultPort) := rfl
  have heq := Except.ok.inj (hnil.symm.trans h.authority)
  exact h.host_ne_nil (Prod.mk.inj heq).1.symm

end Endpoint
end Liveness
