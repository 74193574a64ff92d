import Liveness.Proofs.Agent.Validation
import Liveness.Proofs.Endpoint.WellFormed
import Liveness.Proofs.Text.Utf8
import Liveness.Request.Reader
import Mathlib.Data.List.Chain

/-! The head of an accepted configuration is framed by nothing but its own line ends and spaces, so
that a peer reads from its bytes what was configured. -/
namespace Liveness.Request
open Text

/-- CR and LF stand together or not at all. -/
structure PairedBreaks (bytes : List UInt8) : Prop where
  isChain : bytes.IsChain fun a b => a = cr ↔ b = lf
  head?_ne : bytes.head? ≠ some lf
  getLast?_ne : bytes.getLast? ≠ some cr

/-- Bytes with no part of a line end. -/
def IsLine (line : List UInt8) : Prop := cr ∉ line ∧ lf ∉ line

def ofLines (ls : List (List UInt8)) : List UInt8 := ls.flatMap (· ++ [cr, lf])

@[simp] theorem ofLines_nil : ofLines [] = [] := rfl

@[simp] theorem ofLines_cons (l : List UInt8) (ls : List (List UInt8)) :
    ofLines (l :: ls) = l ++ cr :: lf :: ofLines ls := by
  simp [ofLines]

theorem lines_cons_of_ne {b : UInt8} {s : List UInt8} (hb : b ≠ cr) {line : List UInt8}
    {later : List (List UInt8)} (hs : lines s = line :: later) :
    lines (b :: s) = (b :: line) :: later := by
  cases s with
  | nil =>
    obtain ⟨rfl, rfl⟩ := List.cons.inj hs
    rfl
  | cons c s => simp [lines, hb, hs]

theorem lines_append_break {l s : List UInt8} (hl : cr ∉ l) :
    lines (l ++ cr :: lf :: s) = l :: lines s := by
  induction l with
  | nil => simp [lines]
  | cons b l ih =>
    have hb : b ≠ cr := fun h => hl (h ▸ List.mem_cons_self)
    exact lines_cons_of_ne hb (ih fun h => hl (List.mem_cons_of_mem _ h))

/-- Lines without CR are the lines of their text; nothing follows the last end. -/
theorem lines_ofLines {ls : List (List UInt8)} (h : ∀ l ∈ ls, IsLine l) :
    lines (ofLines ls) = ls ++ [[]] := by
  induction ls with
  | nil => rfl
  | cons l ls ih =>
    rw [List.forall_mem_cons] at h
    rw [ofLines_cons, lines_append_break h.1.1, ih h.2, List.cons_append]

theorem count_ofLines {ls : List (List UInt8)} (h : ∀ l ∈ ls, IsLine l) :
    (ofLines ls).count cr = ls.length ∧ (ofLines ls).count lf = ls.length := by
  induction ls with
  | nil => exact ⟨rfl, rfl⟩
  | cons l ls ih =>
    rw [List.forall_mem_cons] at h
    obtain ⟨hcr, hlf⟩ := ih h.2
    have hne : cr ≠ lf := by decide
    simp [List.count_eq_zero.2 h.1.1, List.count_eq_zero.2 h.1.2, hcr, hlf, hne, hne.symm]

namespace PairedBreaks
variable {b : UInt8} {s : List UInt8}

theorem cons (hcr : b ≠ cr) (hlf : b ≠ lf) (hs : s ≠ []) (h : PairedBreaks s) :
    PairedBreaks (b :: s) where
  isChain := by
    refine List.isChain_cons.2 ⟨fun c hc => iff_of_false hcr ?_, h.isChain⟩
    rintro rfl
    exact h.head?_ne hc
  head?_ne := by simpa using hlf
  getLast?_ne := by
    rw [List.getLast?_cons_of_ne_nil hs]
    exact h.getLast?_ne

theorem cons_break (h : PairedBreaks s) : PairedBreaks (cr :: lf :: s) where
  isChain := by
    have hne : lf ≠ cr := by decide
    refine .cons_cons (by simp) (List.isChain_cons.2 ⟨fun c hc => iff_of_false hne ?_, h.isChain⟩)
    rintro rfl
    exact h.head?_ne hc
  head?_ne := by simp [show cr ≠ lf by decide]
  getLast?_ne := by
    cases s with
    | nil => decide
    | cons c s => simpa using h.getLast?_ne

theorem ofLines {ls : List (List UInt8)} (h : ∀ l ∈ ls, IsLine l) :
    PairedBreaks (ofLines ls) := by
  induction ls with
  | nil => exact ⟨.nil, by simp, by simp⟩
  | cons l ls ih =>
    rw [List.forall_mem_cons] at h
    obtain ⟨⟨hcr, hlf⟩, hls⟩ := h
    rw [ofLines_cons]
    induction l with
    | nil => exact (ih hls).cons_break
    | cons b l ihl =>
      rw [List.mem_cons, not_or] at hcr hlf
      exact (ihl hcr.2 hlf.2).cons (Ne.symm hcr.1) (Ne.symm hlf.1) (by simp)

end PairedBreaks

def headLines (method : Method) (endpoint : Endpoint) (token : Option String) : List String :=
  [method.name ++ " /" ++ endpoint.path ++ " HTTP/1.0", "Host: " ++ endpoint.host] ++
    (token.map ("Authorization: " ++ ·)).toList ++ [""]

theorem encode_eq_ofLines (method : Method) (endpoint : Endpoint) (token : Option String) :
    encode method endpoint token = ofLines ((headLines method endpoint token).map Utf8.encode) := by
  have hb : Utf8.encode " HTTP/1.0\r\nHost: " =
      Utf8.encode " HTTP/1.0" ++ cr :: lf :: Utf8.encode "Host: " := by decide
  have he : Utf8.encode "\r\n" = [cr, lf] := by decide
  have hn : Utf8.encode "" = [] := by decide
  cases token <;> simp [encode, headText, headLines, hb, he, hn]

theorem isLine_encode {s : String} (h : ∀ c ∈ s.toList, isControl c = false) :
    IsLine (Utf8.encode s) := by
  constructor
  · rw [Utf8.mem_encode_iff (by decide)]
    intro hc
    exact absurd (h _ hc) (by decide)
  · rw [Utf8.mem_encode_iff (by decide)]
    intro hc
    exact absurd (h _ hc) (by decide)

section
variable {method : Method} {e : Endpoint} {token : Option String}

/-- What keeps a head within its lines: path, host and token hold no control characters. -/
theorem not_isControl_of_mem_headLines (he : e.WellFormed)
    (ht : ∀ t, token = some t → ∀ x ∈ t.toList, isControl x = false) {s : String}
    (hs : s ∈ headLines method e token) : ∀ c ∈ s.toList, isControl c = false := by
  have hclean {s : String} (hs : s.toList.all (! isControl ·) = true) :
      ∀ c ∈ s.toList, isControl c = false := by simpa using hs
  have hname : ∀ c ∈ method.name.toList, isControl c = false :=
    hclean (by cases method <;> decide)
  have hpath : ∀ c ∈ e.path.toList, isControl c = false := fun c hc =>
    Endpoint.not_isControl_of_isPathChar (he.isPathChar_of_mem c hc)
  have hhost : ∀ c ∈ e.host.toList, isControl c = false := fun c hc =>
    Endpoint.not_isControl_of_isHostChar (he.isHostChar_of_mem c hc)
  simp only [headLines, List.mem_append, List.mem_cons, List.not_mem_nil, or_false,
    Option.mem_toList, Option.map_eq_some_iff] at hs
  obtain ((rfl | rfl) | ⟨t, htoken, rfl⟩) | rfl := hs
  · simp only [String.toList_append, List.forall_mem_append]
    exact ⟨⟨⟨hname, hclean (by decide)⟩, hpath⟩, hclean (by decide)⟩
  · simp only [String.toList_append, List.forall_mem_append]
    exact ⟨hclean (by decide), hhost⟩
  · simp only [String.toList_append, List.forall_mem_append]
    exact ⟨hclean (by decide), ht t htoken⟩
  · simp

theorem isLine_of_mem_headLines (he : e.WellFormed)
    (ht : ∀ t, token = some t → ∀ x ∈ t.toList, isControl x = false) :
    ∀ l ∈ (headLines method e token).map Utf8.encode, IsLine l := by
  intro l hl
  obtain ⟨s, hs, rfl⟩ := List.mem_map.1 hl
  exact isLine_encode (not_isControl_of_mem_headLines he ht hs)

def requestParts (method : Method) (path : String) : List (List UInt8) :=
  [Utf8.encode method.name, Utf8.encode ("/" ++ path), Utf8.encode "HTTP/1.0"]

/-- The parts hold no spaces, so the two between them are the only ones of the line. -/
theorem requestLine_parts (he : e.WellFormed) :
    let first := Utf8.encode (method.name ++ " /" ++ e.path ++ " HTTP/1.0")
    first.count space = 2 ∧ splitAt (· == space) first = requestParts method e.path := by
  have hslash : Utf8.encode " /" = space :: Utf8.encode "/" := by decide
  have hversion : Utf8.encode " HTTP/1.0" = space :: Utf8.encode "HTTP/1.0" := by decide
  have hname : space ∉ Utf8.encode method.name := by cases method <;> decide
  have hlast : space ∉ Utf8.encode "HTTP/1.0" := by decide
  have hpath : space ∉ Utf8.encode "/" ++ Utf8.encode e.path := by
    rw [List.mem_append, not_or]
    refine ⟨by decide, fun hb => ?_⟩
    have hc := (Utf8.mem_encode_iff (by decide)).1 hb
    exact absurd (Endpoint.not_isBlank_of_isPathChar (he.isPathChar_of_mem _ hc)) (by decide)
  have hfirst : Utf8.encode (method.name ++ " /" ++ e.path ++ " HTTP/1.0") =
      Utf8.encode method.name ++ space :: ((Utf8.encode "/" ++ Utf8.encode e.path) ++
        space :: Utf8.encode "HTTP/1.0") := by
    simp [hslash, hversion]
  have hne {l : List UInt8} (h : space ∉ l) : ∀ b ∈ l, (b == space) = false := by
    rintro b hb
    exact beq_eq_false_iff_ne.2 fun h' => h (h' ▸ hb)
  rw [hfirst]
  constructor
  · rw [List.count_append, List.count_cons_self, List.count_append, List.count_cons_self,
      List.count_eq_zero.2 hname, List.count_eq_zero.2 hpath, List.count_eq_zero.2 hlast]
  · rw [splitAt_append_cons (hne hname) (by simp), splitAt_append_cons (hne hpath) (by simp),
      splitAt_of_all_not (hne hlast), requestParts, Utf8.encode_append]

theorem requestLine?_encode (he : e.WellFormed) :
    requestLine? (Utf8.encode (method.name ++ " /" ++ e.path ++ " HTTP/1.0")) =
      some (method, e.path) := by
  have hslash : Utf8.encode "/" = [slash] := by decide
  have hfind : Method.all.find? (Utf8.encode ·.name == Utf8.encode method.name) = some method := by
    cases method <;> decide
  rw [requestLine?, (requestLine_parts he).2]
  simp [requestParts, hslash, hfind, Utf8.decode?_encode]

theorem field?_encode (name value : String) :
    field? name (Utf8.encode (name ++ value)) = some value := by
  simp [field?, Utf8.decode?_encode]

/-- What the bytes of a head tell: their line ends, the parts of their lines, and what they say. -/
structure Framed (head : List UInt8) (method : Method) (e : Endpoint) (token : Option String) :
    Prop where
  pairedBreaks : PairedBreaks head
  count_cr : head.count cr = if token.isSome then 4 else 3
  lines_eq : ∃ first fields, lines head = first :: fields ++ [[], []] ∧ [] ∉ first :: fields ∧
    first.count space = 2 ∧ splitAt (· == space) first = requestParts method e.path ∧
    fields = Utf8.encode ("Host: " ++ e.host) ::
      (token.map fun t => Utf8.encode ("Authorization: " ++ t)).toList
  decode?_eq : decode? head = some ⟨method, e.path, e.host, token⟩

theorem lines_encode (he : e.WellFormed)
    (ht : ∀ t, token = some t → ∀ x ∈ t.toList, isControl x = false) :
    lines (encode method e token) =
      Utf8.encode (method.name ++ " /" ++ e.path ++ " HTTP/1.0") ::
        Utf8.encode ("Host: " ++ e.host) ::
          ((token.map fun t => Utf8.encode ("Authorization: " ++ t)).toList ++ [[], []]) := by
  have hempty : Utf8.encode "" = [] := by decide
  rw [encode_eq_ofLines, lines_ofLines (isLine_of_mem_headLines he ht)]
  cases token <;> simp [headLines, hempty]

theorem framed_encode (he : e.WellFormed)
    (ht : ∀ t, token = some t → ∀ x ∈ t.toList, isControl x = false) :
    Framed (encode method e token) method e token where
  pairedBreaks := by
    rw [encode_eq_ofLines]
    exact .ofLines (isLine_of_mem_headLines he ht)
  count_cr := by
    rw [encode_eq_ofLines, (count_ofLines (isLine_of_mem_headLines he ht)).1]
    cases token <;> rfl
  lines_eq := by
    have hhost : Utf8.encode "Host: " ≠ [] := by decide
    have htoken : Utf8.encode "Authorization: " ≠ [] := by decide
    have hslash : Utf8.encode " /" ≠ [] := by decide
    refine ⟨_, _, lines_encode he ht, ?_, requestLine_parts he |>.1, requestLine_parts he |>.2, rfl⟩
    cases token <;> simp [hhost, htoken, hslash]
  decode?_eq := by
    unfold decode?
    rw [lines_encode he ht]
    cases token <;> simp [-Utf8.encode_append, requestLine?_encode he, field?_encode]

end

/-- **The head of an accepted configuration.** It is framed by its own line ends and spaces only, so
that no text of the configuration adds a line or a field, and what it says is what was configured.
Two accepted configurations with one head agree in all that a head says. -/
theorem head_of_accepted :
    (∀ (c : AgentConfig) (e : Endpoint), c.validate = .ok e →
      Endpoint.join c.probe.baseUrl c.probe.path = .ok e ∧
        Framed (encode c.probe.method e c.probe.token) c.probe.method e c.probe.token) ∧
    ∀ (c d : AgentConfig) (e f : Endpoint), c.validate = .ok e → d.validate = .ok f →
      encode c.probe.method e c.probe.token = encode d.probe.method f d.probe.token →
      c.probe.method = d.probe.method ∧ e.path = f.path ∧ e.host = f.host ∧
        c.probe.token = d.probe.token := by
  have framed (c : AgentConfig) (e : Endpoint) (h : c.validate = .ok e) :
      Endpoint.join c.probe.baseUrl c.probe.path = .ok e ∧
        Framed (encode c.probe.method e c.probe.token) c.probe.method e c.probe.token := by
    obtain ⟨-, hjoin, htoken, -⟩ := AgentConfig.validate_eq_ok_iff.1 h
    exact ⟨hjoin, framed_encode (Endpoint.wellFormed_of_join hjoin) htoken⟩
  refine ⟨framed, fun c d e f hc hd heq => ?_⟩
  have hdecode := (framed c e hc).2.decode?_eq
  rw [heq, (framed d f hd).2.decode?_eq] at hdecode
  injection hdecode with hhead
  injection hhead with hmethod hpath hhost htoken
  exact ⟨hmethod.symm, hpath.symm, hhost.symm, htoken.symm⟩

/-- A token that is present and empty is told from an absent one. -/
theorem head_of_accepted_empty_token :
    let c : AgentConfig := ⟨.fixed, ⟨"", ""⟩, ⟨"HTTP://a-b.c:080//", "//ü/", .put, some ""⟩,
      ⟨.disabled, .ofSecs 3⟩, .standard⟩
    let e : Endpoint := ⟨.plain, "a-b.c", 80, "ü/"⟩
    c.validate = .ok e ∧ Framed (encode .put e (some "")) .put e (some "") := by
  intro c e
  have hc : c.validate = .ok e := by decide +kernel
  exact ⟨hc, (head_of_accepted.1 c e hc).2⟩

end Liveness.Request
