import Liveness.Proofs.Toml.Text
import Liveness.Toml.Document
import Mathlib.Data.List.Basic
import Mathlib.Tactic.IntervalCases

/-! Documents read back: what is written for a table, line by line, is read as the table. Each reader
is asked for what is written for one thing with whatever follows it. -/
namespace Liveness.Toml
open Text

section Numbers
variable {n count low high : Nat} {ds rest t : List Char}

theorem digitRun_of_digits (h : ∀ c ∈ ds, c.isDigit) : digitRun 10 (ds ++ '\n' :: rest) =
    (ds.map fun c => c.toNat - 0x30, '\n' :: rest) := by
  induction ds with
  | nil => rfl
  | cons c ds ih =>
    have hdigit := h c List.mem_cons_self
    have hc : c ≠ '_' := by
      rintro rfl
      nomatch hdigit
    rw [List.cons_append, digitRun]
    · rw [(digit?_of_isDigit hdigit).1, ih fun d hd => h d (List.mem_cons_of_mem c hd)]
      rfl
    · exact fun _ _ heq => absurd heq hc

theorem ofDigits_map : ofDigits 10 (ds.map fun c => c.toNat - 0x30) = Nat.ofDigitChars 10 ds 0 := by
  rw [ofDigits, List.foldl_map, Nat.ofDigitChars]
  congr 1
  funext m c
  rw [Nat.mul_comm]
  rfl

/-- No number but zero is written with a leading zero. -/
theorem head?_toDigits (h : 0 < n) : (Nat.toDigits 10 n).head? ≠ some '0' := by
  induction n using Nat.strongRecOn with
  | ind n ih =>
    rw [Nat.toDigits_eq_if (by decide)]
    split_ifs with hsmall
    · interval_cases n <;> decide
    · have hhead := ih (n / 10) (by omega) (by omega)
      cases hdigits : Nat.toDigits 10 (n / 10) with
      | nil => exact absurd hdigits Nat.toDigits_ne_nil
      | cons c ds =>
        rw [hdigits] at hhead
        exact hhead

/-- A run of digits is as long as it is written, so no more of them are taken. -/
theorem digits_of_fixedDigits? {x : Nat} (h : ∀ c ∈ ds, c.isDigit)
    (hx : fixedDigits? count low high (ds ++ '\n' :: rest) = some (x, t)) :
    ∃ es, (∀ c ∈ es, c.isDigit) ∧ t = es ++ '\n' :: rest := by
  simp only [fixedDigits?, Option.ite_none_right_eq_some, Option.some.injEq, Prod.mk.injEq] at hx
  obtain ⟨⟨hlength, -, -⟩, -, rfl⟩ := hx
  by_cases hcount : count ≤ ds.length
  · refine ⟨ds.drop count, fun c hc => h c (List.mem_of_mem_drop hc), ?_⟩
    rw [List.drop_append_of_le_length hcount]
  · -- The line feed is none of the digits.
    obtain ⟨k, rfl⟩ : ∃ k, count = ds.length + (k + 1) := ⟨count - ds.length - 1, by omega⟩
    rw [List.take_append, List.take_of_length_le (by omega), Nat.add_sub_cancel_left,
      List.take_succ_cons, List.filterMap_append, List.filterMap_cons] at hlength
    have hfeed : digit? 10 '\n' = none := by decide
    have hfront := List.length_filterMap_le (digit? 10) ds
    have hback := List.length_filterMap_le (digit? 10) (rest.take k)
    have hshort := List.length_take_le k rest
    rw [hfeed, List.length_append] at hlength
    dsimp only at hlength
    omega

theorem expect?_of_digits {c : Char} (h : ∀ c ∈ ds, c.isDigit) (hc : c.isDigit = false)
    (hfeed : c ≠ '\n') : expect? c (ds ++ '\n' :: rest) = none := by
  cases ds with
  | nil => exact if_neg (Ne.symm hfeed)
  | cons d ds =>
    have hd : d ≠ c := by
      rintro rfl
      have hdigit := h d List.mem_cons_self
      rw [hc] at hdigit
      nomatch hdigit
    exact if_neg hd

theorem moment?_of_digits (h : ∀ c ∈ ds, c.isDigit) : moment? (ds ++ '\n' :: rest) = none := by
  have hno {count low high : Nat} (c : Char) (hc : c.isDigit = false) (hfeed : c ≠ '\n') :
      ∀ x t, fixedDigits? count low high (ds ++ '\n' :: rest) = some (x, t) → expect? c t = none := by
    intro x t hx
    obtain ⟨es, hes, rfl⟩ := digits_of_fixedDigits? h hx
    exact expect?_of_digits hes hc hfeed
  have hdate : date? (ds ++ '\n' :: rest) = none := by
    unfold date?
    cases hyear : fixedDigits? 4 0 9999 (ds ++ '\n' :: rest) with
    | none => rfl
    | some year =>
      have hdash := hno '-' (by decide) (by decide) year.1 year.2 hyear
      simp only [Option.bind_eq_bind, Option.bind_some, hdash, Option.bind_none]
  have htime : time? (ds ++ '\n' :: rest) = none := by
    unfold time?
    cases hhour : fixedDigits? 2 0 23 (ds ++ '\n' :: rest) with
    | none => rfl
    | some hour =>
      have hcolon := hno ':' (by decide) (by decide) hour.1 hour.2 hhour
      simp only [Option.bind_eq_bind, Option.bind_some, hcolon, Option.bind_none]
  rw [moment?, hdate]
  exact htime

theorem digits?_of_digits (hpos : ds ≠ []) (h : ∀ c ∈ ds, c.isDigit) :
    digits? 10 (ds ++ '\n' :: rest) = some (ds.map fun c => c.toNat - 0x30, '\n' :: rest) := by
  obtain ⟨c, ds, rfl⟩ := List.exists_cons_of_ne_nil hpos
  have hc : (c :: ds ++ '\n' :: rest).head? ≠ some '_' := by
    intro heq
    obtain rfl : c = '_' := Option.some.inj heq
    nomatch h '_' List.mem_cons_self
  rw [digits?, if_neg hc, digitRun_of_digits h]
  rfl

theorem isDigit_toDigits : ∀ c ∈ Nat.toDigits 10 n, c.isDigit :=
  fun _ hc => Nat.isDigit_of_mem_toDigits (by decide) (by decide) hc

theorem decimalNumber?_toDigits (hn : n < 0x8000000000000000) :
    decimalNumber? false (Nat.toDigits 10 n ++ '\n' :: rest) = some (.integer n, '\n' :: rest) := by
  have hrun := @digits?_of_digits _ rest Nat.toDigits_ne_nil (@isDigit_toDigits n)
  have hvalue : ofDigits 10 ((Nat.toDigits 10 n).map fun c => c.toNat - 0x30) = n := by
    rw [ofDigits_map, Nat.ofDigitChars_ten_toDigits]
  have hzero : ¬ (((Nat.toDigits 10 n).map fun c => c.toNat - 0x30).head? = some 0 ∧
      ((Nat.toDigits 10 n).map fun c => c.toNat - 0x30).length ≠ 1) := by
    rintro ⟨hhead, hlength⟩
    rcases Nat.eq_zero_or_pos n with rfl | hpos
    · exact hlength rfl
    · rw [List.head?_map] at hhead
      obtain ⟨c, hc, hvalue⟩ := Option.map_eq_some_iff.1 hhead
      have hdigit := isDigit_toDigits c (List.mem_of_head? hc)
      rw [Char.isDigit, Bool.and_eq_true, decide_eq_true_eq, decide_eq_true_eq] at hdigit
      have hlow : 0x30 ≤ c.toNat := hdigit.1
      have hchar : c = '0' := Char.toNat_inj.1 (show c.toNat = 0x30 by omega)
      exact head?_toDigits hpos (hchar ▸ hc)
  have hrange : (-0x8000000000000000 : Int) ≤ n ∧ (n : Int) < 0x8000000000000000 := by omega
  have hnumber : Number.ofInt? n = some (.integer n) := if_pos hrange
  have hfraction : fraction? ('\n' :: rest) = some ([], '\n' :: rest) := rfl
  have hexponent : exponent? ('\n' :: rest) = some (0, '\n' :: rest) := rfl
  simp only [decimalNumber?, hrun, Option.bind_eq_bind, Option.bind_some, if_neg hzero, hfraction,
    hexponent, if_true, Bool.false_eq_true, if_false, hvalue, hnumber]
  rfl

theorem number?_toDigits (hn : n < 0x8000000000000000) :
    number? (Nat.toDigits 10 n ++ '\n' :: rest) = some (.integer n, '\n' :: rest) := by
  rw [← decimalNumber?_toDigits hn]
  rcases Nat.eq_zero_or_pos n with rfl | hpos
  · rfl
  · have hhead := head?_toDigits hpos
    obtain ⟨c, ds, hdigits⟩ := List.exists_cons_of_ne_nil (@Nat.toDigits_ne_nil n 10)
    have hc : c.isDigit := isDigit_toDigits c (hdigits ▸ List.mem_cons_self)
    rw [hdigits] at hhead ⊢
    have hne : ∀ d, d = '0' ∨ d.isDigit = false → c ≠ d := by
      rintro d (rfl | hd) rfl
      · exact hhead rfl
      · rw [hc] at hd
        nomatch hd
    have hsign : sign (c :: ds ++ '\n' :: rest) = (false, c :: ds ++ '\n' :: rest) := by
      rw [List.cons_append, sign]
      · exact fun _ heq => hne '-' (.inr rfl) (List.head_eq_of_cons_eq heq)
      · exact fun _ heq => hne '+' (.inr rfl) (List.head_eq_of_cons_eq heq)
    rw [List.cons_append] at hsign ⊢
    unfold number?
    split
    · rename_i heq
      exact absurd (List.head_eq_of_cons_eq heq) (hne '0' (.inl rfl))
    · rename_i heq
      exact absurd (List.head_eq_of_cons_eq heq) (hne '0' (.inl rfl))
    · rename_i heq
      exact absurd (List.head_eq_of_cons_eq heq) (hne '0' (.inl rfl))
    · rw [hsign]
      split
      · rename_i heq
        have htext := (Prod.mk.inj heq).2
        exact absurd (List.head_eq_of_cons_eq htext) (hne 'i' (.inr rfl))
      · rename_i heq
        have htext := (Prod.mk.inj heq).2
        exact absurd (List.head_eq_of_cons_eq htext) (hne 'n' (.inr rfl))
      · rename_i heq
        obtain ⟨rfl, rfl⟩ := Prod.mk.inj heq
        rfl

end Numbers

section Values
variable {v : Written} {depth : Nat} {rest : List Char}

def Written.node : Written → Node
  | .text s => .scalar (.text s)
  | .integer n => .scalar (.integer n)
  | .boolean b => .scalar (.boolean b)

/-- An integer that is written is in the range of those that are read. -/
def Written.Fits : Written → Prop
  | .integer n => n < 0x8000000000000000
  | _ => True

theorem value?_of_digit {c : Char} {s : List Char} (h : c.isDigit) :
    value? depth (c :: s) = (plainScalar? (c :: s)).map fun (v, s) => (.scalar v, s) := by
  have hne : ∀ d, d.isDigit = false → c ≠ d := by
    rintro d hd rfl
    rw [h] at hd
    nomatch hd
  unfold value?
  split
  · rename_i heq
    exact absurd (List.head_eq_of_cons_eq heq) (hne '"' rfl)
  · rename_i heq
    exact absurd (List.head_eq_of_cons_eq heq) (hne '\'' rfl)
  · rename_i heq
    exact absurd (List.head_eq_of_cons_eq heq) (hne '[' rfl)
  · rename_i heq
    exact absurd (List.head_eq_of_cons_eq heq) (hne '\x7b' rfl)
  · rfl

theorem plainScalar?_toDigits {n : Nat} (hn : n < 0x8000000000000000) :
    plainScalar? (Nat.toDigits 10 n ++ '\n' :: rest) = some (.integer n, '\n' :: rest) := by
  have hmoment : moment? (Nat.toDigits 10 n ++ '\n' :: rest) = none :=
    moment?_of_digits isDigit_toDigits
  have hnumber : number? (Nat.toDigits 10 n ++ '\n' :: rest) = some (.integer n, '\n' :: rest) :=
    number?_toDigits hn
  obtain ⟨c, ds, hdigits⟩ := List.exists_cons_of_ne_nil (@Nat.toDigits_ne_nil n 10)
  have hc : c.isDigit := isDigit_toDigits c (hdigits ▸ List.mem_cons_self)
  rw [hdigits] at hmoment hnumber ⊢
  unfold plainScalar?
  split
  · rename_i heq
    rw [List.head_eq_of_cons_eq heq] at hc
    nomatch hc
  · rename_i heq
    rw [List.head_eq_of_cons_eq heq] at hc
    nomatch hc
  · rw [hmoment, hnumber]
    rfl

/-- A value that is written is read as itself, up to the end of its line. -/
theorem value?_written (h : v.Fits) :
    value? depth (v.toText.toList ++ '\n' :: rest) = some (v.node, '\n' :: rest) := by
  cases v with
  | text s =>
    have hrest : ('\n' :: rest).head? ≠ some '"' ∧ ('\n' :: rest).head? ≠ some '\'' :=
      ⟨nofun, nofun⟩
    have hquoted := @quotedText?_write s.toList _ hrest
    have hmarked : value? depth ((TextForm.fitting s.toList).write s.toList ++ '\n' :: rest) =
        (quotedText? allForms ((TextForm.fitting s.toList).write s.toList ++ '\n' :: rest)).map
          fun r => (.scalar (.text r.1), r.2) := by
      obtain ⟨t, hwrite | hwrite⟩ := exists_write s.toList
      · rw [hwrite]
        cases depth <;> rfl
      · rw [hwrite]
        cases depth <;> rfl
    rw [Written.toText, writeText, String.toList_ofList, hmarked, hquoted, String.ofList_toList]
    rfl
  | integer n =>
    have hplain : plainScalar? (Nat.toDigits 10 n ++ '\n' :: rest) = _ := plainScalar?_toDigits h
    obtain ⟨c, ds, hdigits⟩ := List.exists_cons_of_ne_nil (@Nat.toDigits_ne_nil n 10)
    have hc : c.isDigit := isDigit_toDigits c (hdigits ▸ List.mem_cons_self)
    rw [Written.toText, Nat.toString_eq_repr, Nat.toList_repr, hdigits, List.cons_append,
      value?_of_digit hc, ← List.cons_append, ← hdigits, hplain]
    rfl
  | boolean b => cases b <;> cases depth <;> rfl

end Values

section Lines
variable {key name : String} {v : Written} {depth fuel : Nat} {c : Char} {s rest : List Char}

structure Bare (key : String) : Prop where
  pos : key.toList ≠ []
  plain : ∀ c ∈ key.toList, isKeyChar c

theorem bare_iff : Bare key ↔ key.toList ≠ [] ∧ key.toList.all isKeyChar = true :=
  ⟨fun h => ⟨h.pos, List.all_eq_true.2 h.plain⟩, fun h => ⟨h.1, List.all_eq_true.1 h.2⟩⟩

instance : Decidable (Bare key) := decidable_of_iff _ bare_iff.symm

/-- What no key without quotes begins with. -/
theorem Bare.head_ne (h : Bare key) (hc : isKeyChar c = false) : ∀ t, key.toList ++ s ≠ c :: t := by
  intro t heq
  obtain ⟨d, ds, hkey⟩ := List.exists_cons_of_ne_nil h.pos
  have hd := h.plain d (hkey ▸ List.mem_cons_self)
  rw [hkey] at heq
  rw [List.head_eq_of_cons_eq heq, hc] at hd
  nomatch hd

theorem Bare.skipSpace_eq (h : Bare key) : skipSpace (key.toList ++ s) = key.toList ++ s := by
  obtain ⟨d, ds, hkey⟩ := List.exists_cons_of_ne_nil h.pos
  have hd := h.plain d (hkey ▸ List.mem_cons_self)
  have hspace : ¬ isSpace d = true := by
    simp only [isSpace, Bool.or_eq_true, beq_iff_eq]
    rintro (rfl | rfl)
    · exact absurd hd (by decide)
    · exact absurd hd (by decide)
  rw [hkey]
  exact List.dropWhile_cons_of_neg hspace

theorem Bare.keyPart?_eq (h : Bare key) (hc : isKeyChar c = false) :
    keyPart? (key.toList ++ c :: s) = some (key, c :: s) := by
  have hno : ¬ isKeyChar c = true := Bool.not_eq_true _ ▸ hc
  have htake : (key.toList ++ c :: s).takeWhile isKeyChar = key.toList := by
    rw [List.takeWhile_append_of_pos h.plain, List.takeWhile_cons_of_neg hno, List.append_nil]
  have hdrop : (key.toList ++ c :: s).dropWhile isKeyChar = c :: s := by
    rw [List.dropWhile_append_of_pos h.plain, List.dropWhile_cons_of_neg hno]
  have hpos : key.toList.isEmpty = false := List.isEmpty_eq_false_iff.2 h.pos
  unfold keyPart?
  split
  · rename_i heq
    exact absurd heq (h.head_ne (by decide) _)
  · rename_i heq
    exact absurd heq (h.head_ne (by decide) _)
  · simp only [htake, hdrop, hpos, Bool.false_eq_true, if_false, String.ofList_toList]

/-- A key of one part, up to what follows it and is no part of it. -/
theorem Bare.key?_eq (h : Bare key) (hc : isKeyChar c = false)
    (hdot : ∀ t, skipSpace (c :: s) ≠ '.' :: t) :
    key? (key.toList ++ c :: s) = some (([], key), skipSpace (c :: s)) := by
  have hparts {fuel : Nat} : keyParts? (fuel + 1) (key.toList ++ c :: s) =
      some ([key], skipSpace (c :: s)) := by
    rw [keyParts?, h.skipSpace_eq, h.keyPart?_eq hc]
    simp only [Option.bind_eq_bind, Option.bind_some]
    rfl
  rw [key?, show depthBound - 1 = 78 + 1 from rfl, hparts]
  rfl

def pairLine (p : String × Written) : List Char :=
  p.1.toList ++ ' ' :: '=' :: ' ' :: (p.2.toText.toList ++ ['\n'])

theorem exists_toText (v : Written) : ∃ c t, v.toText.toList = c :: t ∧ isSpace c = false := by
  cases v with
  | text s =>
    rw [Written.toText, writeText, String.toList_ofList]
    obtain ⟨t, hwrite | hwrite⟩ := exists_write s.toList
    · exact ⟨'"', t, hwrite, rfl⟩
    · exact ⟨'\'', t, hwrite, rfl⟩
  | integer n =>
    obtain ⟨c, ds, hdigits⟩ := List.exists_cons_of_ne_nil (@Nat.toDigits_ne_nil n 10)
    have hc : c.isDigit := isDigit_toDigits c (hdigits ▸ List.mem_cons_self)
    refine ⟨c, ds, by rw [Written.toText, Nat.toString_eq_repr, Nat.toList_repr, hdigits], ?_⟩
    simp only [isSpace, Bool.or_eq_false_iff, beq_eq_false_iff_ne]
    constructor
    · rintro rfl
      exact absurd hc (by decide)
    · rintro rfl
      exact absurd hc (by decide)
  | boolean b =>
    cases b
    · exact ⟨'f', _, rfl, rfl⟩
    · exact ⟨'t', _, rfl, rfl⟩

theorem Bare.statement?_pair (h : Bare key) (hv : v.Fits) :
    statement? (pairLine (key, v) ++ rest) = some (.pair ⟨[], key, v.node⟩, '\n' :: rest) := by
  have hvalue {depth : Nat} : value? depth (v.toText.toList ++ '\n' :: rest) =
      some (v.node, '\n' :: rest) := value?_written hv
  have hskip : skipSpace (' ' :: (v.toText.toList ++ '\n' :: rest)) =
      v.toText.toList ++ '\n' :: rest := by
    obtain ⟨d, t, htext, hd⟩ := exists_toText v
    have hno : ¬ isSpace d = true := Bool.not_eq_true _ ▸ hd
    rw [htext, skipSpace, List.dropWhile_cons_of_pos rfl]
    exact List.dropWhile_cons_of_neg hno
  have hkey : key? (key.toList ++ ' ' :: '=' :: ' ' :: (v.toText.toList ++ '\n' :: rest)) =
      some (([], key), '=' :: ' ' :: (v.toText.toList ++ '\n' :: rest)) :=
    h.key?_eq (by decide) nofun
  have hpair {depth : Nat} : pair? (value? depth)
      (key.toList ++ ' ' :: '=' :: ' ' :: (v.toText.toList ++ '\n' :: rest)) =
        some (⟨[], key, v.node⟩, '\n' :: rest) := by
    rw [pair?, hkey]
    simp only [Option.bind_eq_bind, Option.bind_some, expect?, if_true, hskip, hvalue]
    rfl
  have hline : pairLine (key, v) ++ rest =
      key.toList ++ ' ' :: '=' :: ' ' :: (v.toText.toList ++ '\n' :: rest) := by
    simp [pairLine]
  rw [hline]
  unfold statement?
  split
  · rename_i heq
    exact absurd heq (h.head_ne (by decide) _)
  · rename_i heq
    exact absurd heq (h.head_ne (by decide) _)
  · rw [hpair]
    rfl

theorem Bare.statement?_header (h : Bare name) (rest : List Char) :
    statement? ('[' :: (name.toList ++ ']' :: '\n' :: rest)) =
      some (.header false [] name, '\n' :: rest) := by
  have hkey : key? (name.toList ++ ']' :: '\n' :: rest) = some (([], name), ']' :: '\n' :: rest) :=
    h.key?_eq (by decide) nofun
  unfold statement?
  split
  · rename_i heq
    exact absurd (List.tail_eq_of_cons_eq heq) (h.head_ne (by decide) _)
  · rename_i heq
    obtain rfl := List.tail_eq_of_cons_eq heq
    rw [hkey]
    rfl
  · rename_i hno
    exact absurd rfl (hno _)

end Lines

section Statements
variable {fuel : Nat} {s rest : List Char} {st : Statement} {t : WrittenTable}
  {ps : List (String × Written)} {ts : List WrittenTable}

theorem statements?_lineFeed : statements? (fuel + 1) ('\n' :: s) = statements? (fuel + 1) s := rfl

theorem statements?_cons (fuel : Nat) (hs : skipLines false s = s) (h : statement? s = some (st, '\n' :: rest)) :
    statements? (fuel + 1) s = (statements? fuel rest).map (st :: ·) := by
  have hend : lineEnd? ('\n' :: rest) = some rest := rfl
  rw [statements?, hs]
  split
  · nomatch h
  · rw [h]
    simp only [Option.bind_eq_bind, Option.bind_some, hend]
    cases statements? fuel rest <;> rfl

theorem Bare.skipLines_eq {key : String} (h : Bare key) :
    skipLines false (key.toList ++ s) = key.toList ++ s := by
  unfold skipLines
  split
  · rename_i heq
    exact heq.symm
  · rename_i heq
    exact absurd heq (h.head_ne (by decide) _)
  · rename_i heq
    exact absurd heq (h.head_ne (by decide) _)
  · rename_i hcomment _
    nomatch hcomment
  · rename_i c t _ _ _ heq
    have hspace : ¬ isSpace c = true := by
      simp only [isSpace, Bool.or_eq_true, beq_iff_eq]
      rintro (rfl | rfl)
      · exact h.head_ne (by decide) t heq
      · exact h.head_ne (by decide) t heq
    have hcomment : c ≠ '#' := by
      rintro rfl
      exact h.head_ne (by decide) t heq
    rw [if_neg hspace, if_neg hcomment, heq]

def Written.pair (p : String × Written) : Pair := ⟨[], p.1, p.2.node⟩

theorem statements?_pairs (fuel : Nat) (rest : List Char) (h : ∀ p ∈ ps, Bare p.1 ∧ p.2.Fits) :
    statements? (fuel + ps.length) (ps.flatMap pairLine ++ rest) =
      (statements? fuel rest).map (ps.map (.pair ∘ Written.pair) ++ ·) := by
  induction ps with
  | nil => cases h : statements? fuel rest <;> simp [h]
  | cons p ps ih =>
    obtain ⟨key, v⟩ := p
    obtain ⟨hkey, hv⟩ := h (key, v) List.mem_cons_self
    have hrest : ∀ q ∈ ps, Bare q.1 ∧ q.2.Fits := fun q hq => h q (List.mem_cons_of_mem _ hq)
    have hskip : skipLines false (pairLine (key, v) ++ (ps.flatMap pairLine ++ rest)) =
        pairLine (key, v) ++ (ps.flatMap pairLine ++ rest) := by
      rw [pairLine, List.append_assoc]
      exact hkey.skipLines_eq
    have hone := statements?_cons (fuel + ps.length) hskip (hkey.statement?_pair hv)
    rw [List.flatMap_cons, List.append_assoc, List.length_cons, ← Nat.add_assoc, hone, ih hrest,
      Option.map_map]
    rfl

/-- A table that can be written: its name and its keys need no quotes, and no key occurs twice. -/
structure WrittenTable.Plain (t : WrittenTable) : Prop where
  name : Bare t.name
  pairs : ∀ p ∈ t.pairs, Bare p.1 ∧ p.2.Fits
  keys : (t.pairs.map Prod.fst).Nodup

def WrittenTable.statements (t : WrittenTable) : List Statement :=
  .header false [] t.name :: t.pairs.map (.pair ∘ Written.pair)

theorem toList_toText : t.toText.toList = '[' :: (t.name.toList ++ ']' :: '\n' ::
    t.pairs.flatMap pairLine) := by
  unfold pairLine
  simp [WrittenTable.toText, String.toList_join, List.flatMap_map]

theorem statements?_table (fuel : Nat) (rest : List Char) (h : t.Plain) :
    statements? (fuel + t.statements.length) (t.toText.toList ++ rest) =
      (statements? fuel rest).map (t.statements ++ ·) := by
  have hskip : ∀ u, skipLines false ('[' :: u) = '[' :: u := fun _ => rfl
  have hpairs := statements?_pairs fuel rest h.pairs
  have hheader := statements?_cons (fuel + t.pairs.length) (hskip _)
    (h.name.statement?_header (t.pairs.flatMap pairLine ++ rest))
  rw [toList_toText, WrittenTable.statements, List.length_cons, List.length_map, ← Nat.add_assoc]
  simp only [List.cons_append, List.append_assoc]
  rw [hheader, hpairs, Option.map_map]
  rfl

theorem statements?_tables (fuel : Nat) (h : ∀ t ∈ ts, t.Plain) :
    statements? (fuel + 1 + (ts.flatMap WrittenTable.statements).length)
      (ts.flatMap fun t => '\n' :: t.toText.toList) =
        some (ts.flatMap WrittenTable.statements) := by
  induction ts with
  | nil => rfl
  | cons t ts ih =>
    have ht := h t List.mem_cons_self
    have hrest : ∀ u ∈ ts, u.Plain := fun u hu => h u (List.mem_cons_of_mem t hu)
    have htable := statements?_table (fuel + 1 + (ts.flatMap WrittenTable.statements).length)
      (ts.flatMap fun t => '\n' :: t.toText.toList) ht
    obtain ⟨n, hn⟩ : ∃ n, fuel + 1 + ((t :: ts).flatMap WrittenTable.statements).length = n + 1 :=
      ⟨fuel + ((t :: ts).flatMap WrittenTable.statements).length, by omega⟩
    have hsum : fuel + 1 + (ts.flatMap WrittenTable.statements).length + t.statements.length =
        fuel + 1 + ((t :: ts).flatMap WrittenTable.statements).length := by
      rw [List.flatMap_cons, List.length_append]
      omega
    rw [hsum, hn, ih hrest] at htable
    rw [hn, List.flatMap_cons, List.cons_append, statements?_lineFeed, htable]
    rfl

theorem toList_writeDocument :
    (writeDocument (t :: ts)).toList = t.toText.toList ++ ts.flatMap fun t => '\n' :: t.toText.toList := by
  rw [writeDocument]
  induction ts generalizing t with
  | nil => simp
  | cons u ts ih =>
    rw [List.map_cons, List.map_cons, String.intercalate_cons_cons, ← List.map_cons,
      String.toList_append, String.toList_append, ih, List.flatMap_cons]
    simp

end Statements

section Assembly
variable {key : String} {node : Node} {es : Entries} {t : WrittenTable}
  {ps : List (String × Written)} {ts : List WrittenTable}

def WrittenTable.section (t : WrittenTable) : Section :=
  ⟨false, [], t.name, t.pairs.map Written.pair⟩

def WrittenTable.entry (t : WrittenTable) : String × Node :=
  (t.name, .table .header (t.pairs.map fun p => (p.1, p.2.node)))

theorem sections_pairs (rest : List Statement) :
    sections (ps.map (.pair ∘ Written.pair) ++ rest) =
      (ps.map Written.pair ++ (sections rest).1, (sections rest).2) := by
  induction ps with
  | nil => rfl
  | cons p ps ih =>
    rw [List.map_cons, List.cons_append]
    simp only [Function.comp_apply, sections, ih]
    rfl

theorem sections_tables :
    sections (ts.flatMap WrittenTable.statements) = ([], ts.map WrittenTable.section) := by
  induction ts with
  | nil => rfl
  | cons t ts ih =>
    rw [List.flatMap_cons, WrittenTable.statements, List.cons_append, sections, sections_pairs, ih]
    simp only [List.append_nil]
    rfl

theorem lookup_eq_none (h : key ∉ es.map Prod.fst) : es.lookup key = none := by
  rw [List.lookup_eq_none_iff]
  intro e he
  have hne : key ≠ e.1 := fun heq => h (heq ▸ List.mem_map_of_mem he)
  simpa using hne

theorem put_of_absent (h : key ∉ es.map Prod.fst) : es.put key node = es ++ [(key, node)] := by
  induction es with
  | nil => rfl
  | cons e es ih =>
    obtain ⟨k, v⟩ := e
    rw [List.map_cons, List.mem_cons, not_or] at h
    rw [Entries.put, if_neg (Ne.symm h.1), ih h.2]
    rfl

theorem insert_of_absent (h : key ∉ es.map Prod.fst) :
    es.insert [] key node = some (es ++ [(key, node)]) := by
  have hno : ¬ ((([] : List String) ≠ [] ∧ TableKind.header ≠ .dotted) ∨
      (es.lookup key).isSome) := by
    rw [lookup_eq_none h]
    simp
  exact if_neg hno

theorem insertAll_pairs (hkeys : (es.map Prod.fst ++ ps.map Prod.fst).Nodup) :
    Entries.insertAll (ps.map Written.pair) es =
      some (es ++ ps.map fun p => (p.1, p.2.node)) := by
  induction ps generalizing es with
  | nil => exact congrArg some (List.append_nil es).symm
  | cons p ps ih =>
    rw [List.map_cons] at hkeys
    have habsent : p.1 ∉ es.map Prod.fst := by
      intro hmem
      exact (List.nodup_append.1 hkeys).2.2 p.1 hmem p.1 List.mem_cons_self rfl
    have hrest : ((es ++ [(p.1, p.2.node)]).map Prod.fst ++ ps.map Prod.fst).Nodup := by
      simpa using hkeys
    have hinsert : es.insert [] p.1 p.2.node = some (es ++ [(p.1, p.2.node)]) :=
      insert_of_absent habsent
    have hlater := ih hrest
    rw [Entries.insertAll] at hlater ⊢
    rw [List.map_cons, List.foldlM_cons]
    simp only [Written.pair, hinsert, Option.bind_eq_bind, Option.bind_some] at hlater ⊢
    rw [hlater, List.append_assoc]
    rfl

theorem addTo_section (h : t.Plain) (hname : t.name ∉ es.map Prod.fst) :
    t.section.addTo es = some (es ++ [t.entry]) := by
  have hpairs : Entries.insertAll (t.pairs.map Written.pair) [] =
      some (t.pairs.map fun p => (p.1, p.2.node)) := insertAll_pairs h.keys
  have hadd : t.section.addTo es = (Entries.insertAll (t.pairs.map Written.pair) []).map fun sub =>
      es.put t.name (.table .header sub) := by
    have hlookup : es.lookup t.name = none := lookup_eq_none hname
    rw [Section.addTo, WrittenTable.section, Entries.atHeader, Entries.descend]
    simp only [Bool.false_eq_true, if_false, hlookup]
  rw [hadd, hpairs, Option.map_some, put_of_absent hname]
  rfl

theorem foldlM_sections (h : ∀ t ∈ ts, t.Plain)
    (hnames : (es.map Prod.fst ++ ts.map WrittenTable.name).Nodup) :
    (ts.map WrittenTable.section).foldlM (fun es s => s.addTo es) es =
      some (es ++ ts.map WrittenTable.entry) := by
  induction ts generalizing es with
  | nil => exact congrArg some (List.append_nil es).symm
  | cons t ts ih =>
    rw [List.map_cons] at hnames
    have habsent : t.name ∉ es.map Prod.fst := by
      intro hmem
      exact (List.nodup_append.1 hnames).2.2 t.name hmem t.name List.mem_cons_self rfl
    have hrest : ((es ++ [t.entry]).map Prod.fst ++ ts.map WrittenTable.name).Nodup := by
      simpa [WrittenTable.entry] using hnames
    have hplain : ∀ u ∈ ts, u.Plain := fun u hu => h u (List.mem_cons_of_mem t hu)
    rw [List.map_cons, List.foldlM_cons, addTo_section (h t List.mem_cons_self) habsent]
    simp only [Option.bind_eq_bind, Option.bind_some]
    rw [ih hplain hrest, List.append_assoc]
    rfl

theorem length_flatMap_le {α β γ : Type} {l : List α} {f : α → List β} {g : α → List γ}
    (h : ∀ a ∈ l, (f a).length ≤ (g a).length) : (l.flatMap f).length ≤ (l.flatMap g).length := by
  induction l with
  | nil => exact le_rfl
  | cons a l ih =>
    rw [List.flatMap_cons, List.flatMap_cons, List.length_append, List.length_append]
    exact Nat.add_le_add (h a List.mem_cons_self) (ih fun b hb => h b (List.mem_cons_of_mem a hb))

theorem length_statements_le (t : WrittenTable) : t.statements.length ≤ t.toText.toList.length := by
  have hlines : t.pairs.length ≤ (t.pairs.flatMap pairLine).length := by
    have hone : t.pairs.flatMap (fun p => [p]) = t.pairs := List.flatMap_singleton' t.pairs
    have hline : ∀ p ∈ t.pairs, [p].length ≤ (pairLine p).length := by
      intro p hp
      simp only [pairLine, List.length_append, List.length_cons]
      omega
    calc t.pairs.length = (t.pairs.flatMap fun p => [p]).length := by rw [hone]
      _ ≤ (t.pairs.flatMap pairLine).length := length_flatMap_le hline
  rw [WrittenTable.statements, toList_toText]
  simp only [List.length_cons, List.length_map, List.length_append]
  omega

/-- A document is read as the tables that it is written for. -/
theorem read?_writeDocument (h : ∀ t ∈ ts, t.Plain) (hnames : (ts.map WrittenTable.name).Nodup) :
    read? (writeDocument ts) = some (ts.map WrittenTable.entry) := by
  have hassemble : assemble? (ts.flatMap WrittenTable.statements) =
      some (ts.map WrittenTable.entry) := by
    have hsections : (ts.map WrittenTable.section).foldlM (fun es s => s.addTo es) [] =
        some (ts.map WrittenTable.entry) := foldlM_sections h hnames
    rw [assemble?, sections_tables]
    exact hsections
  cases ts with
  | nil => rfl
  | cons t ts =>
    have hlength : ((t :: ts).flatMap WrittenTable.statements).length ≤
        (writeDocument (t :: ts)).toList.length := by
      have hrest : (ts.flatMap WrittenTable.statements).length ≤
          (ts.flatMap fun t => '\n' :: t.toText.toList).length :=
        length_flatMap_le fun u _ => Nat.le_succ_of_le (length_statements_le u)
      rw [toList_writeDocument, List.flatMap_cons, List.length_append, List.length_append]
      exact Nat.add_le_add (length_statements_le t) hrest
    have hstatements := statements?_tables
      ((writeDocument (t :: ts)).toList.length - ((t :: ts).flatMap WrittenTable.statements).length) h
    have hsum : (writeDocument (t :: ts)).toList.length -
        ((t :: ts).flatMap WrittenTable.statements).length + 1 +
          ((t :: ts).flatMap WrittenTable.statements).length =
        (writeDocument (t :: ts)).toList.length + 1 := by omega
    rw [hsum, List.flatMap_cons, List.cons_append, statements?_lineFeed, ← toList_writeDocument]
      at hstatements
    have hmark : ∀ s, (writeDocument (t :: ts)).toList ≠ '\uFEFF' :: s := by
      intro s heq
      rw [toList_writeDocument, toList_toText] at heq
      exact absurd (List.head_eq_of_cons_eq heq) (by decide)
    rw [read?]
    split
    · rename_i heq
      exact absurd heq (hmark _)
    · rw [hstatements]
      exact hassemble

end Assembly

end Liveness.Toml
