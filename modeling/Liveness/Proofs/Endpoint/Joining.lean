import Liveness.Proofs.Endpoint.Spelling
import Liveness.Proofs.Text.Trimming

/-! A relative part that is joined to a base URL becomes path and nothing else: it moves neither the
end of the scheme nor that of the authority, and the slashes at the joint do not matter. -/
namespace Liveness.Endpoint
open Text

def below (relative : String) : List Char := relative.toList.dropWhile (· == '/')

/-- The path of a relative part below another path. The other one counts up to its last slashes, and
not at all where it holds nothing else. -/
def pathBelow (path relative : String) : String :=
  if path.toList.all (· == '/') then String.ofList (below relative)
  else String.ofList (dropEnd (· == '/') path.toList ++ '/' :: below relative)

def under (b : Endpoint) (relative : String) : Endpoint :=
  { b with path := pathBelow b.path relative }

variable {base token authority tail : List Char} {b e : Endpoint} {path relative : String}

theorem head?_below_ne : (below relative).head? ≠ some '/' := by
  intro h
  have hnot := List.head?_dropWhile_not (· == '/') relative.toList
  rw [← below, h] at hnot
  exact absurd hnot (by decide)

theorem isPathChar_of_mem_pathBelow (hpath : ∀ c ∈ path.toList, isPathChar c)
    (hbelow : ∀ c ∈ below relative, isPathChar c) :
    ∀ c ∈ (pathBelow path relative).toList, isPathChar c := by
  unfold pathBelow
  split_ifs
  · simpa using hbelow
  · rw [String.toList_ofList, List.forall_mem_append, List.forall_mem_cons]
    exact ⟨fun c hc => hpath c (mem_of_mem_dropEnd hc), by decide, hbelow⟩

/-- What follows the authority of a base, trimmed, with the relative part behind a slash. -/
theorem dropEnd_tail (hhead : ∀ c ∈ tail.head?, c = '/') (hpath : path.toList = tail.tail) :
    dropEnd (· == '/') tail ++ '/' :: below relative =
      '/' :: (pathBelow path relative).toList := by
  cases tail with
  | nil => simp [pathBelow, hpath, dropEnd]
  | cons c rest =>
    obtain rfl := hhead c rfl
    rw [dropEnd_cons (by decide), pathBelow, hpath, List.tail_cons]
    split_ifs <;> simp

/-- The authority of a base does not end in a slash, so trimming never reaches it. -/
theorem Spells.getLast?_not (h : Spells base b token authority tail) :
    ∀ c ∈ (token ++ "://".toList ++ authority).getLast?, (c == '/') = false := by
  intro c hc
  rw [List.getLast?_append_of_ne_nil _ h.authority_ne_nil] at hc
  rw [beq_eq_false_iff_ne]
  rintro rfl
  exact h.slash_notMem (List.mem_of_mem_getLast? hc)

theorem Spells.under (h : Spells base b token authority tail)
    (hbelow : ∀ c ∈ below relative, isPathChar c) :
    Spells (dropEnd (· == '/') base ++ '/' :: below relative) (b.under relative) token authority
      ('/' :: (pathBelow b.path relative).toList) where
  url_eq := by
    have htrim := dropEnd_append_of_getLast? (t := tail) h.getLast?_not
    rw [h.url_eq, ← List.append_assoc, htrim, ← dropEnd_tail h.tail_head? h.path]
    simp only [List.append_assoc]
  scheme := h.scheme
  slash_notMem := h.slash_notMem
  authority := h.authority
  host_ne_nil := h.host_ne_nil
  isHostChar_of_mem := h.isHostChar_of_mem
  tail_head? := by simp
  path := rfl
  isPathChar_of_mem := isPathChar_of_mem_pathBelow h.isPathChar_of_mem hbelow

/-- Where two slashes are all that a text has, one of them is where it is cut at a slash. -/
theorem cut_eq_of_two_slashes {u v s t : List Char} (hu : '/' ∉ u) (hv : '/' ∉ v)
    (h : u ++ '/' :: '/' :: v = s ++ '/' :: t) :
    (s = u ∧ t = '/' :: v) ∨ (s = u ++ ['/'] ∧ t = v) := by
  obtain ⟨a, rfl, ha⟩ | ⟨a, rfl, ha⟩ := List.append_eq_append_iff.1 h
  · cases a with
    | nil => exact .inl ⟨by simp, (List.cons.inj ha).2.symm⟩
    | cons c a =>
      rw [List.cons_append, List.cons.injEq] at ha
      obtain ⟨rfl, ha⟩ := ha
      cases a with
      | nil => exact .inr ⟨rfl, (List.cons.inj ha).2.symm⟩
      | cons d a =>
        rw [List.cons_append, List.cons.injEq] at ha
        exact absurd (by simp [ha.2]) hv
  · cases a with
    | nil => exact .inl ⟨by simp, (List.cons.inj ha).2⟩
    | cons c a =>
      rw [List.cons_append, List.cons.injEq] at ha
      exact absurd (by simp [← ha.1]) hu

/-- The slash of the joint stands behind the authority. -/
theorem exists_eq_append_of_joint {s : List Char} (hs : ∀ c ∈ s.getLast?, (c == '/') = false)
    (htoken : '/' ∉ token) (hauthority : '/' ∉ authority)
    (h : s ++ '/' :: below relative = token ++ "://".toList ++ (authority ++ tail)) :
    ∃ rest, s = token ++ "://".toList ++ authority ++ rest ∧
      tail = rest ++ '/' :: below relative := by
  rw [← List.append_assoc] at h
  obtain ⟨a, hurl, hbelow⟩ | ⟨rest, rfl, htail⟩ := List.append_eq_append_iff.1 h
  · cases a with
    | nil => exact ⟨[], by simpa using hurl.symm, by simpa using hbelow.symm⟩
    | cons c a =>
      rw [List.cons_append, List.cons.injEq] at hbelow
      obtain ⟨rfl, hbelow⟩ := hbelow
      -- Before the end of the authority there are only the two slashes behind the scheme. What is
      -- below begins with no slash, so the joint is not the first; `s` ends in none, so it is not the
      -- second.
      have hcolon : '/' ∉ token ++ [':'] := by simpa using htoken
      have hslashes : (token ++ [':']) ++ '/' :: '/' :: authority = s ++ '/' :: a := by
        simpa using hurl
      obtain ⟨-, rfl⟩ | ⟨rfl, -⟩ := cut_eq_of_two_slashes hcolon hauthority hslashes
      · have hhead : (below relative).head? = some '/' := by rw [hbelow]; rfl
        exact absurd hhead head?_below_ne
      · exact absurd (hs '/' (by simp)) (by decide)
  · exact ⟨rest, rfl, htail⟩

/-- Where a joined text is a URL, so is the base, and the relative part stands in the path. -/
theorem exists_spells_of_joined
    (h : Spells (dropEnd (· == '/') base ++ '/' :: below relative) e token authority tail) :
    (∃ b tail, Spells base b token authority tail) ∧ ∀ c ∈ below relative, isPathChar c := by
  have htoken : '/' ∉ token := Scheme.notMem_of_ofToken? h.scheme (by decide) (by decide)
  obtain ⟨rest, hbase, rfl⟩ :=
    exists_eq_append_of_joint getLast?_dropEnd_not htoken h.slash_notMem h.url_eq
  -- The slashes that were trimmed off the base belong behind what is left of its path.
  obtain ⟨slashes, hsplit, hall⟩ := exists_eq_dropEnd_append (p := (· == '/')) (s := base)
  have hslashes : ∀ c ∈ slashes, c = '/' := by simpa using hall
  have hurl : base = token ++ "://".toList ++ (authority ++ (rest ++ slashes)) := by
    rw [hsplit, hbase]
    simp only [List.append_assoc]
  have hpath := h.isPathChar_of_mem
  rw [h.path] at hpath
  have hhead := h.tail_head?
  refine ⟨⟨{ e with path := String.ofList (rest ++ slashes).tail }, rest ++ slashes, hurl,
    h.scheme, h.slash_notMem, h.authority, h.host_ne_nil, h.isHostChar_of_mem, ?_, by simp, ?_⟩, ?_⟩
  · cases rest with
    | nil => exact fun c hc => hslashes c (List.mem_of_mem_head? hc)
    | cons c rest => simpa using hhead
  · rw [String.toList_ofList]
    cases rest with
    | nil =>
      intro c hc
      rw [hslashes c (List.mem_of_mem_tail hc)]
      decide
    | cons c rest =>
      rw [List.cons_append, List.tail_cons, List.forall_mem_append] at hpath ⊢
      refine ⟨hpath.1, fun d hd => ?_⟩
      rw [hslashes d hd]
      decide
  · intro c hc
    refine hpath c ?_
    cases rest with
    | nil => exact hc
    | cons d rest => exact List.mem_append_right _ (List.mem_cons_of_mem _ hc)

theorem join_eq_ok_iff {base : String} : join base relative = .ok e ↔
    ∃ b, parse base = .ok b ∧ (∀ c ∈ below relative, isPathChar c) ∧ e = b.under relative := by
  rw [join, parse_eq_ok_iff, joinedUrl, String.toList_ofList, ← below]
  simp only [parse_eq_ok_iff]
  constructor
  · intro h
    obtain ⟨token, authority, tail, hjoined⟩ := exists_spells_of_read h
    obtain ⟨⟨b, tail', hbase⟩, hbelow⟩ := exists_spells_of_joined hjoined
    have hunder := (hbase.under hbelow).read_eq
    exact ⟨b, hbase.read_eq, hbelow, Except.ok.inj (h.symm.trans hunder)⟩
  · rintro ⟨b, hbase, hbelow, rfl⟩
    obtain ⟨token, authority, tail, hspells⟩ := exists_spells_of_read hbase
    exact (hspells.under hbelow).read_eq

theorem joinedUrl_slashes (base relative : String) (m n : ℕ) :
    joinedUrl (base ++ String.ofList (List.replicate m '/'))
      (String.ofList (List.replicate n '/') ++ relative) = joinedUrl base relative := by
  have htrim : dropEnd (· == '/') (base.toList ++ List.replicate m '/') =
      dropEnd (· == '/') base.toList := dropEnd_append_of_all (by simp)
  have hbelow : (List.replicate n '/' ++ relative.toList).dropWhile (· == '/') =
      relative.toList.dropWhile (· == '/') := List.dropWhile_append_of_pos (by simp)
  simp only [joinedUrl, String.toList_append, String.toList_ofList, htrim, hbelow]

/-- Joining succeeds exactly if the base is a URL and the relative part has neither white space nor
control characters. The target then differs from that of the base in its path alone. Slashes at the
joint are free, also where joining fails. -/
theorem join_confined (base relative : String) :
    (∀ e, join base relative = .ok e ↔
      ∃ b, parse base = .ok b ∧ (∀ c ∈ below relative, isBlank c = false ∧ isControl c = false) ∧
        e = ⟨b.scheme, b.host, b.port, pathBelow b.path relative⟩) ∧
    ∀ m n : ℕ, join (base ++ String.ofList (List.replicate m '/'))
      (String.ofList (List.replicate n '/') ++ relative) = join base relative := by
  refine ⟨fun e => ?_, fun m n => ?_⟩
  · have hclean (c : Char) : isPathChar c ↔ isBlank c = false ∧ isControl c = false := by
      simp [isPathChar]
    simpa only [hclean, under] using join_eq_ok_iff
  · rw [join, joinedUrl_slashes]
    rfl

example : join "HTTP://h:8080//a//" "//x://y:1@z/" = .ok ⟨.plain, "h", 8080, "/a/x://y:1@z/"⟩ := by
  decide +kernel

end Liveness.Endpoint
