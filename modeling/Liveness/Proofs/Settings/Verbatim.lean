import Liveness.Proofs.Settings.Setting
import Liveness.Proofs.Settings.Variables
import Liveness.Proofs.Text.Trimming
import Liveness.Proofs.Text.Utf8
import Mathlib.Algebra.Ring.Nat

/-! The texts that a variable passes on as they are: those that read as no value as a whole, and
plain words. Marks around a text always go, so no marked text comes out as it is. -/
namespace Liveness

namespace Toml.TextForm
variable {form : TextForm} {place place' : Place} {c : Char} {s out text rest : List Char}

theorem length_step (h : form.step place c = some (out, place')) : out.length ≤ 1 := by
  unfold step at h
  split at h
  · split at h
    · cases h
      exact le_rfl
    · split_ifs at h <;> cases h <;> exact Nat.zero_le 1
  · split at h
    · nomatch h
    · simp only at h
      split_ifs at h
      · obtain ⟨d, -, hd⟩ := Option.map_eq_some_iff.1 h
        cases hd
        exact le_rfl
      · cases h
        exact Nat.zero_le 1
  · split_ifs at h <;> cases h
    · exact le_rfl
    · exact Nat.zero_le 1
  · split_ifs at h <;> cases h <;> exact Nat.zero_le 1
  · split_ifs at h <;> cases h <;> first | exact le_rfl | exact Nat.zero_le 1

theorem length_body (hshort : form.long = false) (h : form.body place s = some (text, rest)) :
    text.length < s.length := by
  induction s generalizing place text with
  | nil => nomatch h
  | cons c s ih =>
    rw [body] at h
    split_ifs at h with hmark
    · rw [close?, hshort] at h
      cases h
      exact Nat.succ_pos _
    · cases hstep : form.step place c with
      | none => rw [hstep] at h; nomatch h
      | some r =>
        obtain ⟨out, place'⟩ := r
        rw [hstep] at h
        obtain ⟨⟨more, left⟩, hmore, hr⟩ := Option.map_eq_some_iff.1 h
        cases hr
        have hone := length_step hstep
        have hlater := ih hmore
        simp only [List.length_append, List.length_cons]
        omega

end Toml.TextForm

namespace Settings.Environment
open Text
variable {s rest : List Char} {t : String} {depth : Nat} {v : Value}

theorem length_shortened? {u : List Char} (h : shortened? s = some u) : u.length ≤ s.length := by
  obtain ⟨w, hw, rfl⟩ := Option.map_eq_some_iff.1 h
  have hlength := Utf8.length_le_of_decode? hw
  exact hlength.trans (List.length_take_le _ _)

theorem length_plainQuotedText? (h : Toml.quotedText? [⟨false, false⟩] s = some (t, rest)) :
    t.toList.length + 2 ≤ s.length := by
  rw [Toml.quotedText?] at h
  cases hform : [(⟨false, false⟩ : Toml.TextForm)].find? (·.marks.isPrefixOf s) with
  | none => rw [hform] at h; nomatch h
  | some form =>
    rw [hform] at h
    obtain rfl := List.mem_singleton.1 (List.mem_of_find?_eq_some hform)
    obtain ⟨⟨text, left⟩, hbody, hr⟩ := Option.map_eq_some_iff.1 h
    cases hr
    have hlength := Toml.TextForm.length_body rfl hbody
    have hdrop : (s.drop 1).length = s.length - 1 := List.length_drop
    rw [String.toList_ofList]
    change text.length < (s.drop 1).length at hlength
    omega

theorem length_quotedText? (h : quotedText? s = some (t, rest)) : t.toList.length + 2 ≤ s.length := by
  obtain ⟨⟨text, left⟩, htext, h⟩ := Option.bind_eq_some_iff.1 h
  have hlength := length_plainQuotedText? htext
  simp only at h
  split_ifs at h with hescape
  · obtain ⟨u, hu, hr⟩ := Option.bind_eq_some_iff.1 h
    cases hr
    have hshort := length_shortened? hu
    obtain ⟨after, hafter⟩ := List.head?_eq_some_iff.1 hescape
    have hlonger := congrArg List.length hafter
    rw [List.length_drop, List.length_cons] at hlonger
    rw [String.toList_ofList, List.length_append, List.length_drop]
    omega
  · cases h
    exact hlength

/-- A text that is a bare value as a whole: it begins like no other kind of value, and nothing in it
or around it makes it end early. -/
structure Bare (s : List Char) : Prop where
  plain : Plain s
  whole : s.takeWhile (!isDelimiter ·) = s
  trimmed : dropAround isBlank s = s

/-- A text that is passed on as it is: one that is no value as a whole, or a bare value that is no
number. -/
def Kept (t : String) : Prop :=
  (∀ v, value? (t.length + 1) t.toList ≠ some (v, [])) ∨
    Bare t.toList ∧ bareScalar t.toList = .text t

theorem bareScalar_cases (s : List Char) :
    (∃ x, bareScalar s = .real x) ∨ (∃ n, bareScalar s = .unsigned n) ∨
      (∃ n, bareScalar s = .signed n) ∨ bareScalar s = .text (String.ofList s) := by
  unfold bareScalar
  split
  · exact .inl ⟨_, rfl⟩
  · split
    · exact .inr (.inl ⟨_, rfl⟩)
    · split
      · exact .inr (.inr (.inl ⟨_, rfl⟩))
      · exact .inr (.inr (.inr rfl))

/-- A bare value is a text only as it stands. -/
theorem bareScalar_of_denotes {o : Origin}
    (h : Kind.text.denotes (.scalar o (bareScalar s)) = some (.text (some t))) :
    bareScalar s = .text t ∧ s = t.toList := by
  rcases bareScalar_cases s with ⟨x, hx⟩ | ⟨n, hn⟩ | ⟨n, hn⟩ | hs
  · rw [hx] at h; nomatch h
  · rw [hn] at h; nomatch h
  · rw [hn] at h; nomatch h
  · rw [hs] at h ⊢
    cases h
    exact ⟨rfl, String.toList_ofList.symm⟩

theorem isBlank_of_isGap {c : Char} (h : isGap c) : isBlank c := by
  simp only [isGap, Bool.or_eq_true, beq_iff_eq] at h
  rcases h with (((rfl | rfl) | rfl) | rfl) | rfl <;> decide

theorem length_dropAround_le (s : List Char) : (dropAround isBlank s).length ≤ s.length := by
  have hend := (List.rdropWhile_prefix isBlank (s.dropWhile isBlank)).length_le
  have hfront := (List.dropWhile_suffix isBlank (l := s)).length_le
  exact hend.trans hfront

/-- No value but a bare one reads as the text that it is read from: all others have marks. -/
theorem bare_of_value? (h : value? depth t.toList = some (v, []))
    (hv : Kind.text.denotes v = some (.text (some t))) :
    Bare t.toList ∧ bareScalar t.toList = .text t := by
  obtain ⟨left, hreads, hleft⟩ := reads_of_value? h
  have hgaps : skipGaps t.toList <:+ t.toList := List.dropWhile_suffix _
  have hgapsLength := hgaps.length_le
  generalize skipGaps t.toList = front at hreads hgaps hgapsLength
  cases hreads with
  | truth => nomatch hv
  | falsehood => nomatch hv
  | list => nomatch hv
  | table => nomatch hv
  | quoted hquoted =>
    cases hv
    have hlength := length_quotedText? hquoted
    omega
  | @character _ c rest =>
    cases hv
    have hone : c.toString.toList = [c] := String.toList_singleton c
    rw [hone] at hgapsLength
    simp only [List.length_cons, List.length_nil] at hgapsLength
    omega
  | bare hplain =>
    -- Skipping, cutting and trimming can only shorten; as the whole text is left, none of them did.
    obtain ⟨htext, hs⟩ := bareScalar_of_denotes hv
    have hstretch := (List.takeWhile_prefix (!isDelimiter ·) (l := front)).length_le
    have htrim := length_dropAround_le (front.takeWhile (!isDelimiter ·))
    rw [hs] at htrim
    obtain rfl : front = t.toList := hgaps.eq_of_length (by omega)
    have hwhole : t.toList.takeWhile (!isDelimiter ·) = t.toList :=
      (List.takeWhile_prefix (!isDelimiter ·)).eq_of_length (by omega)
    rw [hwhole] at htext hs
    exact ⟨⟨hplain, hwhole, hs⟩, hs ▸ htext⟩

theorem skipGaps_of_trimmed (h : dropAround isBlank s = s) : skipGaps s = s := by
  have hend := (List.rdropWhile_prefix isBlank (s.dropWhile isBlank)).length_le
  have hfront : s.dropWhile isBlank <:+ s := List.dropWhile_suffix isBlank
  have hlength := hfront.length_le
  have hall : s.length ≤ (s.dropWhile isBlank).length := by
    calc s.length = (dropAround isBlank s).length := by rw [h]
      _ ≤ (s.dropWhile isBlank).length := hend
  have hfix := hfront.eq_of_length (by omega)
  cases s with
  | nil => rfl
  | cons c s =>
    have hblank : isBlank c = false := by
      by_contra hc
      rw [List.dropWhile_cons_of_pos (by simpa using hc)] at hfix
      have hshort := (List.dropWhile_suffix isBlank (l := s)).length_le
      rw [hfix, List.length_cons] at hshort
      omega
    have hgap : ¬ isGap c = true := fun hc => by
      rw [isBlank_of_isGap hc] at hblank
      nomatch hblank
    exact List.dropWhile_cons_of_neg hgap

theorem value?_of_bare (h : Bare s) :
    value? (depth + 1) s = some (.scalar .environment (bareScalar s), []) := by
  have hgaps := skipGaps_of_trimmed h.trimmed
  have hrest : s.dropWhile (!isDelimiter ·) = [] := by
    have happend := List.takeWhile_append_dropWhile (p := (!isDelimiter ·)) (l := s)
    rw [h.whole] at happend
    exact List.append_right_eq_self.1 happend
  have hopen : ∀ c s', s = c :: s' → isDelimiter c = false := by
    intro c s' hs
    have hwhole := h.whole
    rw [hs, List.takeWhile_cons] at hwhole
    cases hc : isDelimiter c with
    | false => rfl
    | true => rw [hc] at hwhole; nomatch hwhole
  unfold value?
  split
  case h_1 s' hs => exact absurd ⟨s', (hgaps.symm.trans hs).symm⟩ h.plain.truth
  case h_2 s' hs => exact absurd ⟨s', (hgaps.symm.trans hs).symm⟩ h.plain.falsehood
  case h_3 s' hs => nomatch hopen _ _ (hgaps.symm.trans hs)
  case h_4 s' hs => nomatch hopen _ _ (hgaps.symm.trans hs)
  case h_5 s' hs => exact absurd (congrArg List.head? (hgaps.symm.trans hs)) h.plain.quote
  case h_6 s' hs => exact absurd (congrArg List.head? (hgaps.symm.trans hs)) h.plain.apostrophe
  case h_7 s' hs => exact absurd (congrArg List.head? (hgaps.symm.trans hs)) h.plain.apostrophe
  case h_8 =>
    rw [hgaps, h.whole, h.trimmed, hrest]
    rfl

theorem valueOf_of_bare (h : Bare t.toList) :
    valueOf t = .scalar .environment (bareScalar t.toList) := by
  rw [valueOf, value?_of_bare h]

/-- The texts that a variable passes on as they are. -/
theorem denotes_valueOf_iff :
    Kind.text.denotes (valueOf t) = some (.text (some t)) ↔ Kept t := by
  constructor
  · intro h
    rw [valueOf] at h
    split at h
    · rename_i v hv
      exact .inr (bare_of_value? hv h)
    · rename_i hv
      exact .inl fun v => hv v
  · rintro (h | ⟨hbare, htext⟩)
    · rw [valueOf]
      split
      · rename_i v hv
        exact absurd hv (h v)
      · rfl
    · rw [valueOf_of_bare hbare, htext]
      rfl

/-- Digits alone make a number, if it is not too large. -/
theorem readDigits_of_digits {max value : Nat} (h : ∀ c ∈ s, c.isDigit)
    (hmax : (value + 1) * 10 ^ s.length ≤ max + 1) : ∃ n, readDigits 10 max value s = .ok n := by
  induction s generalizing value with
  | nil => exact ⟨value, rfl⟩
  | cons c s ih =>
    obtain ⟨hdigit, hnine⟩ := digit?_of_isDigit (h c List.mem_cons_self)
    have hnext : (value * 10 + (c.toNat - 0x30) + 1) * 10 ^ s.length ≤ max + 1 := by
      calc (value * 10 + (c.toNat - 0x30) + 1) * 10 ^ s.length
          ≤ ((value + 1) * 10) * 10 ^ s.length := Nat.mul_le_mul_right _ (by omega)
        _ = (value + 1) * 10 ^ (c :: s).length := by
          rw [List.length_cons, Nat.pow_succ', Nat.mul_assoc]
        _ ≤ max + 1 := hmax
    have hle : value * 10 + (c.toNat - 0x30) ≤ max := by
      have hpow : 0 < 10 ^ s.length := Nat.pow_pos (by decide)
      have hone := Nat.le_mul_of_pos_right (value * 10 + (c.toNat - 0x30) + 1) hpow
      omega
    rw [readDigits, hdigit]
    simp only [hle, if_true]
    exact ih (fun d hd => h d (List.mem_cons_of_mem c hd)) hnext

theorem bare_of_digits (h : ∀ c ∈ s, c.isDigit) : Bare s := by
  have hno : ∀ c, c.isDigit = false → c ∉ s := by
    intro c hc hmem
    rw [h c hmem] at hc
    nomatch hc
  have hdelimiter : ∀ c ∈ s, isDelimiter c = false := by
    intro c hc
    by_contra hdelimiter
    simp only [isDelimiter, Bool.not_eq_false, Bool.or_eq_true, beq_iff_eq] at hdelimiter
    rcases hdelimiter with (((rfl | rfl) | rfl) | rfl) | rfl <;> exact hno _ (by decide) hc
  have hblank : ∀ c ∈ s, isBlank c = false := by
    intro c hc
    have hdigit := h c hc
    rw [Char.isDigit, Bool.and_eq_true, decide_eq_true_eq, decide_eq_true_eq] at hdigit
    have hlow : 0x30 ≤ c.toNat := hdigit.1
    have hhigh : c.toNat ≤ 0x39 := hdigit.2
    by_contra hblank
    simp only [isBlank, Bool.not_eq_false, Bool.or_eq_true, Bool.and_eq_true, decide_eq_true_eq,
      beq_iff_eq] at hblank
    omega
  refine ⟨⟨fun hpre => ?_, fun hpre => ?_, fun hhead => ?_, fun hhead => ?_⟩, ?_, ?_⟩
  · exact hno 't' (by decide) (hpre.subset (by decide))
  · exact hno 'f' (by decide) (hpre.subset (by decide))
  · exact hno '"' (by decide) (List.mem_of_mem_head? hhead)
  · exact hno '\'' (by decide) (List.mem_of_mem_head? hhead)
  · rw [List.takeWhile_eq_self_iff]
    intro c hc
    rw [hdelimiter c hc]
    rfl
  · have hfront : s.dropWhile isBlank = s := by
      cases s with
      | nil => rfl
      | cons c s =>
        apply List.dropWhile_cons_of_neg
        rw [hblank c List.mem_cons_self]
        exact nofun
    rw [dropAround, hfront]
    exact dropEnd_eq_self fun c hc => hblank c (List.mem_of_getLast? hc)

theorem readNumeral_of_digits {max : Nat} (hpos : s ≠ []) (h : ∀ c ∈ s, c.isDigit)
    (hmax : 10 ^ s.length ≤ max + 1) : ∃ n, readNumeral max s = .ok n := by
  have hread : ∃ n, readDigits 10 max 0 s = .ok n :=
    readDigits_of_digits h (by rwa [Nat.zero_add, Nat.one_mul])
  unfold readNumeral
  split
  · exact absurd rfl hpos
  · nomatch h '+' List.mem_cons_self
  · nomatch h '+' List.mem_cons_self
  · exact hread

/-- Between one and nineteen digits, and nothing else, never arrive as they are. -/
theorem not_kept_of_digits (hpos : t.toList ≠ []) (h : ∀ c ∈ t.toList, c.isDigit)
    (hlength : t.toList.length ≤ 19) : ¬ Kept t := by
  have hmax : 10 ^ t.toList.length ≤ max64 + 1 :=
    calc 10 ^ t.toList.length ≤ 10 ^ 19 := Nat.pow_le_pow_right (by decide) hlength
      _ ≤ max64 + 1 := by decide
  obtain ⟨n, hn⟩ := readNumeral_of_digits hpos h hmax
  have hpoint : t.toList.contains '.' = false := by
    by_contra hpoint
    rw [Bool.not_eq_false, List.contains_iff_mem] at hpoint
    nomatch h '.' hpoint
  have hnumber : bareScalar t.toList = .unsigned n := by
    simp only [bareScalar, hpoint, hn]
    rfl
  rw [← denotes_valueOf_iff, valueOf_of_bare (bare_of_digits h), hnumber]
  exact nofun

end Settings.Environment
end Liveness
