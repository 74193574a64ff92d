import Liveness.Text.Utf8
import Mathlib.Data.Char

/-! UTF-8 text reads back as itself, a cut inside a character is noticed, and an ASCII byte of an encoded
text is a character of it. -/
namespace Liveness.Text.Utf8

section Reading
variable {p : Pending} {b : UInt8} {bs : List UInt8}

private theorem pieces_lead (hp : Pending.start? b.toNat = some p) (ho : p.owed ≠ 0) :
    pieces none (b :: bs) = pieces (some p) bs := by
  simp [pieces, advance, begin, hp, ho]

private theorem pieces_next (hl : p.low ≤ b.toNat) (hh : b.toNat ≤ p.high) (ho : 1 < p.owed) :
    pieces (some p) (b :: bs) =
      pieces (some ⟨p.bits * 64 + (b.toNat - 0x80), p.owed - 1, 0x80, 0xBF⟩) bs := by
  have hne : p.owed - 1 ≠ 0 := by omega
  simp [pieces, advance, Pending.push?, hl, hh, hne]

private theorem pieces_last (hl : p.low ≤ b.toNat) (hh : b.toNat ≤ p.high) (ho : p.owed = 1) :
    pieces (some p) (b :: bs) =
      some (Char.ofNat (p.bits * 64 + (b.toNat - 0x80))) :: pieces none bs := by
  simp [pieces, advance, Pending.push?, hl, hh, ho]

end Reading

private theorem start?_two {v : Nat} (hl : 0x7F < v) (hh : v ≤ 0x7FF) :
    Pending.start? (v / 64 % 0x20 + 0xC0) = some ⟨v / 64, 1, 0x80, 0xBF⟩ := by
  have hv : v / 64 % 0x20 = v / 64 := by omega
  rw [hv, Pending.start?, if_neg (by omega), if_neg (by omega), if_pos (by omega)]
  simp

/-- The narrowed ranges after E0 and ED leave out no character. -/
private theorem start?_three {v : Nat} (hl : 0x7FF < v) (hh : v ≤ 0xFFFF)
    (hv : v < 0xD800 ∨ 0xDFFF < v) :
    ∃ low high, Pending.start? (v / 4096 % 0x10 + 0xE0) = some ⟨v / 4096, 2, low, high⟩ ∧
      low ≤ v / 64 % 0x40 + 0x80 ∧ v / 64 % 0x40 + 0x80 ≤ high := by
  have hq : v / 4096 % 0x10 = v / 4096 := by omega
  rw [hq]
  unfold Pending.start?
  rw [if_neg (by omega), if_neg (by omega), if_neg (by omega)]
  split_ifs with h0 hd hf
  · exact ⟨0xA0, 0xBF, by simp; omega, by omega, by omega⟩
  · exact ⟨0x80, 0x9F, by simp; omega, by omega, by omega⟩
  · exact ⟨0x80, 0xBF, by simp, by omega, by omega⟩
  all_goals omega

/-- Nor do those after F0 and F4. -/
private theorem start?_four {v : Nat} (hl : 0xFFFF < v) (hh : v < 0x110000) :
    ∃ low high, Pending.start? (v / 262144 % 0x08 + 0xF0) = some ⟨v / 262144, 3, low, high⟩ ∧
      low ≤ v / 4096 % 0x40 + 0x80 ∧ v / 4096 % 0x40 + 0x80 ≤ high := by
  have hq : v / 262144 % 0x08 = v / 262144 := by omega
  rw [hq]
  unfold Pending.start?
  rw [if_neg (by omega), if_neg (by omega), if_neg (by omega), if_neg (by omega),
    if_neg (by omega), if_neg (by omega)]
  split_ifs with h0 h3 h4
  · exact ⟨0x90, 0xBF, by simp; omega, by omega, by omega⟩
  · exact ⟨0x80, 0xBF, by simp, by omega, by omega⟩
  · exact ⟨0x80, 0x8F, by simp; omega, by omega, by omega⟩
  · omega

private theorem toNat_ofNat {n : Nat} (h : n < 256) : (UInt8.ofNat n).toNat = n := by
  rw [UInt8.toNat_ofNat', Nat.mod_eq_of_lt h]

/-- An encoded character is read as that character, whatever follows it. -/
theorem pieces_utf8EncodeChar (c : Char) (bs : List UInt8) :
    pieces none (String.utf8EncodeChar c ++ bs) = some c :: pieces none bs := by
  have hc : Char.ofNat c.val.toNat = c := Char.ofNat_toNat c
  have hv : c.val.toNat < 0xD800 ∨ 0xDFFF < c.val.toNat ∧ c.val.toNat < 0x110000 := c.valid
  unfold String.utf8EncodeChar
  generalize c.val.toNat = v at hc hv
  have cont (n : Nat) : (UInt8.ofNat (n % 0x40 + 0x80)).toNat = n % 0x40 + 0x80 :=
    toNat_ofNat (by omega)
  have contLow (n : Nat) : 0x80 ≤ (UInt8.ofNat (n % 0x40 + 0x80)).toNat := by rw [cont]; omega
  have contHigh (n : Nat) : (UInt8.ofNat (n % 0x40 + 0x80)).toNat ≤ 0xBF := by rw [cont]; omega
  dsimp only
  split_ifs with h1 h2 h3
  · have hb : (UInt8.ofNat v).toNat = v := toNat_ofNat (by omega)
    have hs : Pending.start? v = some ⟨v, 0, 0x80, 0xBF⟩ := if_pos (by omega)
    simp [pieces, advance, begin, hb, hs, hc]
  · have hs := start?_two (by omega : 0x7F < v) h2
    rw [← toNat_ofNat (by omega : v / 64 % 0x20 + 0xC0 < 256)] at hs
    have hsum : v / 64 * 64 + (v % 0x40 + 0x80 - 0x80) = v := by omega
    rw [List.cons_append, pieces_lead hs (by simp), List.cons_append,
      pieces_last (contLow _) (contHigh _) rfl, cont, hsum, hc]
    rfl
  · obtain ⟨low, high, hs, hlow, hhigh⟩ := start?_three (by omega : 0x7FF < v) h3 (by omega)
    rw [← toNat_ofNat (by omega : v / 4096 % 0x10 + 0xE0 < 256)] at hs
    rw [← cont] at hlow hhigh
    have hsum : (v / 4096 * 64 + (v / 64 % 0x40 + 0x80 - 0x80)) * 64 + (v % 0x40 + 0x80 - 0x80) = v := by
      omega
    rw [List.cons_append, pieces_lead hs (by simp), List.cons_append,
      pieces_next hlow hhigh (by simp), List.cons_append,
      pieces_last (contLow _) (contHigh _) rfl, cont, cont, hsum, hc]
    rfl
  · obtain ⟨low, high, hs, hlow, hhigh⟩ := start?_four (by omega : 0xFFFF < v) (by omega)
    rw [← toNat_ofNat (by omega : v / 262144 % 0x08 + 0xF0 < 256)] at hs
    rw [← cont] at hlow hhigh
    have hsum : ((v / 262144 * 64 + (v / 4096 % 0x40 + 0x80 - 0x80)) * 64 +
        (v / 64 % 0x40 + 0x80 - 0x80)) * 64 + (v % 0x40 + 0x80 - 0x80) = v := by
      omega
    rw [List.cons_append, pieces_lead hs (by simp), List.cons_append,
      pieces_next hlow hhigh (by simp), List.cons_append,
      pieces_next (contLow _) (contHigh _) (by simp), List.cons_append,
      pieces_last (contLow _) (contHigh _) rfl, cont, cont, cont, hsum, hc]
    rfl

theorem decode?_encode (s : String) : decode? (encode s) = some s := by
  have hp (cs : List Char) : pieces none (cs.flatMap String.utf8EncodeChar) = cs.map some := by
    induction cs with
    | nil => rfl
    | cons c cs ih => rw [List.flatMap_cons, pieces_utf8EncodeChar, ih, List.map_cons]
  simp [decode?, encode, hp, Function.comp_def]

@[simp] theorem encode_append (s t : String) : encode (s ++ t) = encode s ++ encode t := by
  simp [encode]

theorem pieces_cons (p : Option Pending) (b : UInt8) (bs : List UInt8) :
    pieces p (b :: bs) = (advance p b.toNat).1 ++ pieces (advance p b.toNat).2 bs := by
  rw [pieces]

/-- Whatever is not pending after a byte has given a piece. -/
theorem advance_eq_nil {p : Option Pending} {b : Nat} (h : (advance p b).1 = []) :
    (advance p b).2 ≠ none := by
  have hbegin : (begin b).1 = [] → (begin b).2 ≠ none := by
    unfold begin
    split
    · exact nofun
    · split_ifs <;> simp
  cases p with
  | none => exact hbegin h
  | some p =>
    unfold advance at h ⊢
    dsimp only at h ⊢
    cases hpush : p.push? b with
    | none =>
      rw [hpush] at h
      nomatch h
    | some q =>
      rw [hpush] at h
      dsimp only at h ⊢
      split_ifs at h ⊢
      simp

/-- No bytes are read to no effect. -/
theorem eq_nil_of_pieces_eq_nil {p : Option Pending} {bs : List UInt8} (h : pieces p bs = []) :
    p = none ∧ bs = [] := by
  induction bs generalizing p with
  | nil =>
    cases p with
    | none => exact ⟨rfl, rfl⟩
    | some p => nomatch h
  | cons b bs ih =>
    rw [pieces_cons, List.append_eq_nil_iff] at h
    exact absurd (ih h.2).1 (advance_eq_nil h.1)

/-- No more pieces than bytes, but for one that is pending. -/
theorem length_pieces_le (p : Option Pending) (bs : List UInt8) :
    (pieces p bs).length ≤ bs.length + p.toList.length := by
  have hbegin (b : Nat) : (begin b).1.length + (begin b).2.toList.length ≤ 1 := by
    unfold begin
    split
    · exact le_rfl
    · split_ifs <;> exact le_rfl
  have hadvance (p : Option Pending) (b : Nat) :
      (advance p b).1.length + (advance p b).2.toList.length ≤ 1 + p.toList.length := by
    unfold advance
    split
    · exact hbegin b
    · split
      · have hb := hbegin b
        simp only [List.length_cons, Option.toList_some, List.length_nil]
        omega
      · split_ifs <;> simp
  induction bs generalizing p with
  | nil => cases p <;> simp [pieces]
  | cons b bs ih =>
    have hfirst := hadvance p b.toNat
    have hrest := ih (advance p b.toNat).2
    rw [pieces_cons, List.length_append, List.length_cons]
    omega

theorem length_le_of_decode? {bs : List UInt8} {s : String} (h : decode? bs = some s) :
    s.toList.length ≤ bs.length := by
  simp only [decode?, Option.ite_none_right_eq_some, Option.some.injEq] at h
  obtain ⟨-, rfl⟩ := h
  have hpieces := length_pieces_le none bs
  have hfilter := List.length_filterMap_le id (pieces none bs)
  rw [String.toList_ofList]
  exact Nat.le_trans hfilter hpieces

/-- Valid bytes end between two characters, so what follows them is read on its own. -/
theorem pieces_append_of_isSome {p : Option Pending} {bs : List UInt8}
    (h : ∀ piece ∈ pieces p bs, piece.isSome) (later : List UInt8) :
    pieces p (bs ++ later) = pieces p bs ++ pieces none later := by
  induction bs generalizing p with
  | nil =>
    cases p with
    | none => rfl
    | some p => nomatch h none List.mem_cons_self
  | cons b bs ih =>
    rw [pieces_cons] at h
    have hlater := ih fun piece hpiece => h piece (List.mem_append_right _ hpiece)
    rw [List.cons_append, pieces_cons, pieces_cons, hlater, List.append_assoc]

/-- A part of a character is no character. -/
theorem none_mem_pieces_take {c : Char} {n : Nat} (hpos : 0 < n)
    (hlt : n < (String.utf8EncodeChar c).length) :
    none ∈ pieces none ((String.utf8EncodeChar c).take n) := by
  by_contra hnone
  have hsome (piece) (hpiece : piece ∈ pieces none ((String.utf8EncodeChar c).take n)) :
      piece.isSome := by
    rw [Option.isSome_iff_ne_none]
    rintro rfl
    exact hnone hpiece
  have hone : pieces none (String.utf8EncodeChar c) = [some c] := by
    simpa [pieces] using pieces_utf8EncodeChar c []
  -- The two parts are read apart, and one of them would have to give nothing.
  have hparts := pieces_append_of_isSome hsome ((String.utf8EncodeChar c).drop n)
  rw [List.take_append_drop, hone, eq_comm, List.append_eq_singleton_iff] at hparts
  obtain ⟨hfirst, -⟩ | ⟨-, hlast⟩ := hparts
  · have hnil := (eq_nil_of_pieces_eq_nil hfirst).2
    rw [← List.length_eq_zero_iff, List.length_take] at hnil
    omega
  · have hnil := (eq_nil_of_pieces_eq_nil hlast).2
    rw [← List.length_eq_zero_iff, List.length_drop] at hnil
    omega

/-- A cut that does not fall between two characters leaves a part of one. -/
theorem none_mem_pieces_of_cut {cs : List Char} {n : Nat}
    (hn : n ≤ (cs.flatMap String.utf8EncodeChar).length)
    (hcut : ∀ p, p <+: cs → (p.flatMap String.utf8EncodeChar).length ≠ n) :
    none ∈ pieces none ((cs.flatMap String.utf8EncodeChar).take n) := by
  have hpos : 0 < n := Nat.pos_of_ne_zero (hcut [] List.nil_prefix).symm
  induction cs generalizing n with
  | nil =>
    rw [List.flatMap_nil, List.length_nil] at hn
    omega
  | cons c cs ih =>
    rw [List.flatMap_cons] at hn ⊢
    rw [List.length_append] at hn
    rcases Nat.lt_or_ge n (String.utf8EncodeChar c).length with hlt | hge
    · rw [List.take_append_of_le_length (Nat.le_of_lt hlt)]
      exact none_mem_pieces_take hpos hlt
    · have hlater (p) (hp : p <+: cs) : (p.flatMap String.utf8EncodeChar).length ≠
          n - (String.utf8EncodeChar c).length := by
        have hlonger := hcut (c :: p) ((List.prefix_cons_inj c).2 hp)
        rw [List.flatMap_cons, List.length_append] at hlonger
        omega
      have hne := hlater [] List.nil_prefix
      rw [List.take_append, List.take_of_length_le hge, pieces_utf8EncodeChar]
      refine List.mem_cons_of_mem _ (ih (by omega) hlater (Nat.pos_of_ne_zero hne.symm))

/-- No cut falls where a character stands. -/
theorem length_encode_ne {before after p t : String} {c : Char} {n : Nat}
    (h : before ++ String.singleton c ++ after = p ++ t) (hlt : (encode before).length < n)
    (hgt : n < (encode before).length + (String.utf8EncodeChar c).length) :
    (encode p).length ≠ n := by
  have hlist : before.toList ++ c :: after.toList = p.toList ++ t.toList := by
    simpa using congrArg String.toList h
  rcases List.append_eq_append_iff.1 hlist with ⟨more, hp, hmore⟩ | ⟨less, hbefore, -⟩
  · rw [encode] at hlt hgt ⊢
    rw [hp, List.flatMap_append, List.length_append]
    cases more with
    | nil => simpa using Nat.ne_of_lt hlt
    | cons d more =>
      obtain ⟨rfl, -⟩ := List.cons.inj hmore
      rw [List.flatMap_cons, List.length_append]
      omega
  · rw [encode, hbefore, List.flatMap_append, List.length_append] at hlt
    rw [encode]
    omega

/-- Text that is cut inside a character is no longer valid. -/
theorem decode?_take_eq_none {s : String} {n : Nat} (hn : n ≤ (encode s).length)
    (hcut : ∀ p t, s = p ++ t → (encode p).length ≠ n) : decode? ((encode s).take n) = none := by
  have hnone : none ∈ pieces none ((encode s).take n) := by
    apply none_mem_pieces_of_cut hn
    rintro p ⟨t, ht⟩
    have hs : s = String.ofList p ++ String.ofList t := by
      rw [← String.ofList_append, ht, String.ofList_toList]
    simpa [encode] using hcut _ _ hs
  rw [decode?]
  refine if_neg fun hall => ?_
  rw [List.all_eq_true] at hall
  exact Bool.false_ne_true (hall none hnone)

private theorem eq_ofNat_iff {n : Nat} (hn : n < 0x80) {c : Char} :
    c = Char.ofNat n ↔ c.val.toNat = n := by
  constructor
  · rintro rfl
    rw [Char.ofNat, dif_pos (Or.inl (by omega))]
    rfl
  · rintro rfl
    exact (Char.ofNat_toNat c).symm

private theorem mem_utf8EncodeChar {b : UInt8} (hb : b.toNat < 0x80) {c : Char} :
    b ∈ String.utf8EncodeChar c ↔ c = Char.ofNat b.toNat := by
  have high {n : Nat} (hl : 0x80 ≤ n) (hn : n < 256) : b ≠ UInt8.ofNat n := by
    rintro rfl
    rw [toNat_ofNat hn] at hb
    omega
  rw [eq_ofNat_iff hb]
  unfold String.utf8EncodeChar
  generalize c.val.toNat = v
  dsimp only
  split_ifs with h1 h2 h3
  · rw [List.mem_singleton, ← UInt8.toNat_inj, toNat_ofNat (by omega), eq_comm]
  all_goals
    have hv : v ≠ b.toNat := by omega
    simp only [List.mem_cons, List.not_mem_nil, or_false, hv, iff_false, not_or]
    repeat' apply And.intro
    all_goals exact high (by omega) (by omega)

/-- An ASCII byte stands for itself only: no other character has it among its bytes. -/
theorem mem_encode_iff {b : UInt8} (hb : b.toNat < 0x80) {s : String} :
    b ∈ encode s ↔ Char.ofNat b.toNat ∈ s.toList := by
  simp [encode, mem_utf8EncodeChar hb]

end Liveness.Text.Utf8
