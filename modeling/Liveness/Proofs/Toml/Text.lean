import Liveness.Toml.Printer
import Mathlib.Tactic.ByContra
import Mathlib.Tactic.SplitIfs

/-! Quoted texts read back. A text is spelled character by character, so what reads it goes character by
character too, but for the marks of a long text: up to two of them may stand in a row, and which
of them end the text shows only behind them. -/
namespace Liveness.Toml

section Characters
variable {form : TextForm} {place next : Place} {c : Char} {u rest out : List Char}

/-- Steps of a reader through characters none of which it takes for a mark: from where, over what,
with what it finds, and to where. -/
inductive Walks (form : TextForm) : Place → List Char → List Char → Place → Prop
  | nil (place : Place) : Walks form place [] [] place
  | cons {place between next : Place} {c : Char} {u out found : List Char}
    (hmark : c ≠ form.mark ∨ (place ≠ .inside ∧ place ≠ .afterBreak))
    (hstep : form.step place c = some (out, between)) (h : Walks form between u found next) :
    Walks form place (c :: u) (out ++ found) next

theorem Walks.body_append (h : Walks form place u out next) : form.body place (u ++ rest) =
    (form.body next rest).map fun (text, rest) => (out ++ text, rest) := by
  induction h with
  | nil place => rw [List.nil_append]; cases form.body place rest <;> rfl
  | @cons place between next c u out found hmark hstep h ih =>
    have hno : ¬ (c = form.mark ∧ (place = .inside ∨ place = .afterBreak)) := by
      rintro ⟨heq, hplace | hplace⟩
      · exact hmark.elim (· heq) (fun h => h.1 hplace)
      · exact hmark.elim (· heq) (fun h => h.2 hplace)
    rw [List.cons_append, TextForm.body, if_neg hno, hstep]
    dsimp only
    rw [ih, Option.map_map]
    cases form.body next rest with
    | none => rfl
    | some ended => simp

/-- What is written for one character: it begins with no mark and with no line break but its own, and
it reads as the character. -/
structure Spells (form : TextForm) (u : List Char) (c : Char) : Prop where
  head : ∃ d t, u = d :: t ∧ d ≠ form.mark ∧ d ≠ '\r' ∧ (d = '\n' → c = '\n')
  walks : Walks form .inside u [c] .inside

theorem spells_self (hmark : c ≠ form.mark) (hplain : isPlain c)
    (hescape : form.literal ∨ c ≠ '\\') : Spells form [c] c := by
  have hstep : form.step .inside c = some ([c], .inside) := by
    have hno : ¬ (c = '\\' ∧ (!form.literal) = true) := by
      rintro ⟨rfl, hliteral⟩
      rcases hescape with h | h
      · rw [h] at hliteral
        nomatch hliteral
      · exact h rfl
    simp only [TextForm.step, reduceCtorEq, false_and, if_false, if_neg hno, if_pos hplain]
  refine ⟨⟨c, [], rfl, hmark, ?_, fun h => h⟩, .cons (.inl hmark) hstep (.nil .inside)⟩
  rintro rfl
  nomatch hplain

theorem spells_lineFeed (hlong : form.long) : Spells form ['\n'] '\n' := by
  have hmark : '\n' ≠ form.mark := by
    rw [TextForm.mark]
    split_ifs <;> decide
  have hstep : form.step .inside '\n' = some (['\n'], .inside) := by
    simp [TextForm.step, hlong, show isPlain '\n' = false by decide]
  exact ⟨⟨'\n', [], rfl, hmark, by decide, fun h => h⟩,
    .cons (.inl hmark) hstep (.nil .inside)⟩

theorem backslash_ne_mark {long : Bool} : '\\' ≠ (TextForm.mk false long).mark := by
  show '\\' ≠ '"'
  decide

theorem step_backslash {long : Bool} :
    (TextForm.mk false long).step .inside '\\' = some ([], .escape) := by
  simp [TextForm.step]

theorem spells_escaped {long : Bool} {letter : Char} (h : escaped? letter = some c) :
    Spells ⟨false, long⟩ ['\\', letter] c := by
  have hletter : (TextForm.mk false long).step .escape letter = some ([c], .inside) := by
    rw [TextForm.step, h]
  refine ⟨⟨'\\', [letter], rfl, backslash_ne_mark, by decide, fun h => by cases h⟩, ?_⟩
  exact .cons (.inl backslash_ne_mark) step_backslash
    (.cons (.inr (by decide)) hletter (.nil .inside))

theorem spells_number {long : Bool} (h : c.toNat < 0x80) :
    Spells ⟨false, long⟩ (['\\', 'u', '0', '0'] ++ twoHexDigits c.toNat) c := by
  have hdigit : ∀ n < 16, Text.digit? 16 (Nat.digitChar n).toUpper = some n := by decide
  have hhigh := hdigit (c.toNat / 16) (by omega)
  have hlow := hdigit (c.toNat % 16) (by omega)
  have hchar : charOfNumber? (c.toNat / 16 * 16 + c.toNat % 16) = some c := by
    have hlt : c.toNat / 16 * 16 + c.toNat % 16 < 0xD800 := by omega
    rw [charOfNumber?, if_pos (.inl hlt), Nat.div_add_mod', Char.ofNat_toNat]
  have hu : (TextForm.mk false long).step .escape 'u' = some ([], .number 4 0) := by
    simp [TextForm.step, escaped?]
  have hzero {owed value : Nat} (howed : 1 < owed) :
      (TextForm.mk false long).step (.number owed value) '0' =
        some ([], .number (owed - 1) (value * 16)) := by
    have hvalue : Text.digit? 16 '0' = some 0 := by decide
    simp [TextForm.step, hvalue, howed]
  have hfirst : (TextForm.mk false long).step (.number 2 0) (Nat.digitChar (c.toNat / 16)).toUpper =
      some ([], .number 1 (c.toNat / 16)) := by
    simp [TextForm.step, hhigh]
  have hsecond : (TextForm.mk false long).step (.number 1 (c.toNat / 16))
      (Nat.digitChar (c.toNat % 16)).toUpper = some ([c], .inside) := by
    simp [TextForm.step, hlow, hchar]
  refine ⟨⟨'\\', _, rfl, backslash_ne_mark, by decide, fun h => by cases h⟩, ?_⟩
  have howed : Walks ⟨false, long⟩ (.number 2 0) (twoHexDigits c.toNat) [c] .inside :=
    .cons (.inr (by decide)) hfirst (.cons (.inr (by simp)) hsecond (.nil .inside))
  exact .cons (.inl backslash_ne_mark) step_backslash <| .cons (.inr (by decide)) hu <|
    .cons (.inr (by decide)) (hzero (by decide)) <|
    .cons (.inr (by decide)) (hzero (by decide)) howed

end Characters

section Texts
variable {form : TextForm} {run : Nat} {w s rest : List Char}

/-- What is written for a text, behind `run` marks of it: marks, in a long text and no more than two
in a row, and what is written for the other characters. -/
inductive Spelled (form : TextForm) : Nat → List Char → List Char → Prop
  | nil (run : Nat) : Spelled form run [] []
  | mark {run : Nat} {w s : List Char} (hlong : form.long) (hrun : run < 2)
    (h : Spelled form (run + 1) w s) : Spelled form run (form.mark :: w) (form.mark :: s)
  | char {run : Nat} {u w s : List Char} {c : Char} (hu : Spells form u c)
    (h : Spelled form 0 w s) : Spelled form run (u ++ w) (c :: s)

theorem takeWhile_mark : (form.mark :: s).takeWhile (· == form.mark) =
    form.mark :: s.takeWhile (· == form.mark) :=
  List.takeWhile_cons_of_pos (beq_self_eq_true _)

/-- A text ends in marks, of which there are few, or few stand in front of its other characters. -/
theorem Spelled.marks (h : Spelled form run w s) (hrun : run ≤ 2) :
    (∃ j, run + j ≤ 2 ∧ w = List.replicate j form.mark ∧ s = List.replicate j form.mark) ∨
      ∀ t, ((w ++ t).takeWhile (· == form.mark)).length ≤ 2 - run := by
  induction h with
  | nil run => exact .inl ⟨0, hrun, rfl, rfl⟩
  | @mark run w s hlong hless h ih =>
    rcases ih hless with ⟨j, hj, rfl, rfl⟩ | hfew
    · exact .inl ⟨j + 1, by omega, rfl, rfl⟩
    · right
      intro t
      have ht := hfew t
      rw [List.cons_append, takeWhile_mark, List.length_cons]
      omega
  | @char run u w s c hu h ih =>
    right
    intro t
    obtain ⟨d, rest, rfl, hd, -⟩ := hu.head
    rw [List.cons_append, List.cons_append, List.takeWhile_cons_of_neg (by simpa using hd)]
    exact Nat.zero_le _

theorem body_mark : form.body .inside (form.mark :: s) = match form.close? s with
    | some ended => some ended
    | none => (form.body .inside s).map fun (text, rest) => (form.mark :: text, rest) := by
  rewrite [TextForm.body, if_pos ⟨rfl, .inl rfl⟩]
  cases form.close? s <;> rfl

theorem takeWhile_marks {j : Nat} (hrest : rest.head? ≠ some form.mark) :
    (List.replicate j form.mark ++ rest).takeWhile (· == form.mark) =
      List.replicate j form.mark := by
  have hnone : rest.takeWhile (· == form.mark) = [] := by
    cases rest with
    | nil => rfl
    | cons c rest =>
      have hc : c ≠ form.mark := fun heq => hrest (congrArg some heq)
      exact List.takeWhile_cons_of_neg (by simpa using hc)
  induction j with
  | zero => exact hnone
  | succ j ih =>
    rw [List.replicate_succ, List.cons_append, takeWhile_mark, ih]

/-- Behind the first of them, the marks that end a long text, and up to two that belong to it. -/
theorem close?_of_marks {j : Nat} (hlong : form.long) (hj : j ≤ 2)
    (hrest : rest.head? ≠ some form.mark) :
    form.close? (List.replicate j form.mark ++ (List.replicate 2 form.mark ++ rest)) =
      some (List.replicate j form.mark, rest) := by
  have hjoin : List.replicate j form.mark ++ (List.replicate 2 form.mark ++ rest) =
      List.replicate (j + 2) form.mark ++ rest := by
    rw [← List.append_assoc, List.replicate_append_replicate]
  have hmore : ¬ j + 2 < 2 := by omega
  have hkept : min (j + 2 - 2) 2 = j := by omega
  have hdrop : (List.replicate (j + 2) form.mark ++ rest).drop (j + 2) = rest := by
    rw [List.drop_left' List.length_replicate]
  rw [hjoin, TextForm.close?, if_pos hlong]
  simp only [takeWhile_marks hrest, List.length_replicate, if_neg hmore, hkept, hdrop]

theorem close?_of_few (hlong : form.long)
    (h : (s.takeWhile (· == form.mark)).length < 2) : form.close? s = none := by
  simp only [TextForm.close?, hlong, if_true, if_pos h]

/-- What is written for a text reads as the text, up to the marks behind it. -/
theorem Spelled.body_eq (h : Spelled form run w s) (hrun : run ≤ 2)
    (hrest : rest.head? ≠ some form.mark) :
    form.body .inside (w ++ (form.marks ++ rest)) = some (s, rest) := by
  have hmarks (hlong : form.long) : form.marks =
      form.mark :: List.replicate 2 form.mark := by
    rw [TextForm.marks, if_pos hlong]
    rfl
  induction h with
  | nil run =>
    by_cases hlong : form.long
    · have hclose := close?_of_marks hlong (Nat.zero_le 2) hrest
      rw [List.replicate_zero, List.nil_append] at hclose
      rw [List.nil_append, hmarks hlong, List.cons_append, body_mark, hclose]
    · have hone : form.marks = [form.mark] := by
        rw [TextForm.marks, if_neg hlong]
        rfl
      rw [List.nil_append, hone, List.singleton_append, body_mark, TextForm.close?, if_neg hlong]
  | @mark run w s hlong hless h ih =>
    rw [List.cons_append, body_mark]
    rcases h.marks hless with ⟨j, hj, rfl, rfl⟩ | hfew
    · -- Only marks are left of the text, and all of them are followed by those that end it.
      have hless : j + 1 ≤ 2 := by omega
      have hclose := close?_of_marks hlong hless hrest
      have hjoin : List.replicate j form.mark ++ (form.marks ++ rest) =
          List.replicate (j + 1) form.mark ++ (List.replicate 2 form.mark ++ rest) := by
        rw [hmarks hlong, ← List.replicate_succ, ← List.append_assoc, ← List.append_assoc,
          List.replicate_append_replicate, List.replicate_append_replicate]
      rw [hjoin, hclose, List.replicate_succ]
    · rw [close?_of_few hlong]
      · dsimp only
        rw [ih hless]
        rfl
      · have hless' := hfew (form.marks ++ rest)
        omega
  | @char run u w s c hu h ih =>
    rw [List.append_assoc, hu.walks.body_append, ih (Nat.zero_le 2)]
    rfl

end Texts

section Forms
variable {form : TextForm} {long : Bool} {run : Nat} {c : Char} {w s rest : List Char}

theorem isPlain_of_not_hard (h : isHardControl c = false) (hc : c ≠ '\n') : isPlain c := by
  simp only [isHardControl, Bool.and_eq_false_iff, Bool.or_eq_false_iff, decide_eq_false_iff_not,
    bne_eq_false_iff_eq, beq_eq_false_iff_ne] at h
  simp only [isPlain, Bool.or_eq_true, beq_iff_eq, Bool.and_eq_true, decide_eq_true_eq, bne_iff_ne]
  rcases h with (⟨hlow, hdelete⟩ | htab) | hfeed
  · exact .inr ⟨by omega, hdelete⟩
  · exact .inl htab
  · exact absurd hfeed hc

theorem spells_escapedChar (hc : c ≠ '"') : Spells ⟨false, long⟩ (escapedChar long c) c := by
  unfold escapedChar
  split_ifs with hback htab hfeed hlong hform hreturn hslash hhard
  · exact spells_escaped (hback ▸ rfl)
  · exact spells_escaped (htab ▸ rfl)
  · rw [hfeed]
    exact spells_lineFeed hlong
  · exact spells_escaped (hfeed ▸ rfl)
  · exact spells_escaped (hform ▸ rfl)
  · exact spells_escaped (hreturn ▸ rfl)
  · subst hslash
    exact spells_escaped rfl
  · apply spells_number
    simp only [isHardControl, Bool.and_eq_true, Bool.or_eq_true, decide_eq_true_eq,
      beq_iff_eq] at hhard
    omega
  · exact spells_self hc (isPlain_of_not_hard (by simpa using hhard) hfeed) (.inr hslash)

theorem spelled_escapedText : Spelled ⟨false, long⟩ run (escapedText long run s) s := by
  induction s generalizing run with
  | nil => exact .nil run
  | cons c s ih =>
    rw [escapedText]
    split_ifs with hc hroom
    · subst hc
      simp only [Bool.and_eq_true, decide_eq_true_eq] at hroom
      exact .mark hroom.1 hroom.2 ih
    · subst hc
      exact .char (spells_escaped rfl) ih
    · exact .char (spells_escapedChar hc) ih

theorem spelled_literal_short (h : ∀ c ∈ s, c ≠ '\'' ∧ isPlain c) : Spelled ⟨true, false⟩ run s s := by
  induction s generalizing run with
  | nil => exact .nil run
  | cons c s ih =>
    obtain ⟨hmark, hplain⟩ := h c List.mem_cons_self
    have hrest : ∀ d ∈ s, d ≠ '\'' ∧ isPlain d := fun d hd => h d (List.mem_cons_of_mem c hd)
    exact .char (spells_self hmark hplain (.inl rfl)) (ih hrest)

theorem hasRun_of_append {mark : Char} {t : List Char} (h : hasRun mark (t ++ s) = false) :
    hasRun mark s = false := by
  induction t with
  | nil => exact h
  | cons c t ih =>
    have htail : ∀ l, hasRun mark (c :: l) = false → hasRun mark l = false := by
      intro l hl
      match l, hl with
      | [], _ => rfl
      | [_], _ => rfl
      | a :: b :: l, hl =>
        rw [hasRun, Bool.or_eq_false_iff] at hl
        exact hl.2
    exact ih (htail _ h)

theorem spelled_literal_long (hplain : ∀ c ∈ s, isHardControl c = false)
    (hmarks : hasRun '\'' (List.replicate run '\'' ++ s) = false) :
    Spelled ⟨true, true⟩ run s s := by
  induction s generalizing run with
  | nil => exact .nil run
  | cons c s ih =>
    have hrest : ∀ d ∈ s, isHardControl d = false :=
      fun d hd => hplain d (List.mem_cons_of_mem c hd)
    by_cases hc : c = '\''
    · subst hc
      have hrun : run < 2 := by
        by_contra hmany
        obtain ⟨k, rfl⟩ : ∃ k, run = k + 2 := ⟨run - 2, by omega⟩
        rw [← List.replicate_append_replicate, List.append_assoc] at hmarks
        have hthree : hasRun '\'' (['\'', '\''] ++ '\'' :: s) = false := hasRun_of_append hmarks
        simp [hasRun] at hthree
      refine .mark rfl hrun (ih hrest ?_)
      rw [List.replicate_succ', List.append_assoc]
      exact hmarks
    · have hlater : hasRun '\'' s = false := by
        rw [List.append_cons] at hmarks
        exact hasRun_of_append hmarks
      by_cases hfeed : c = '\n'
      · subst hfeed
        exact .char (spells_lineFeed rfl) (ih hrest hlater)
      · have hself := isPlain_of_not_hard (hplain c List.mem_cons_self) hfeed
        exact .char (spells_self hc hself (.inl rfl)) (ih hrest hlater)

def TextForm.content (form : TextForm) (s : List Char) : List Char :=
  if form.literal then s else escapedText form.long 0 s

theorem spelled_fitting :
    Spelled (TextForm.fitting s) 0 ((TextForm.fitting s).content s) s := by
  unfold TextForm.fitting
  dsimp only
  split_ifs with h₁ h₂ h₃ h₄
  · exact spelled_escapedText
  · simp only [Bool.and_eq_true, Bool.not_eq_true', List.any_eq_false,
      Bool.not_eq_true] at h₂
    obtain ⟨⟨hhard, hlines⟩, hmarks⟩ := h₂
    show Spelled ⟨true, false⟩ 0 s s
    apply spelled_literal_short
    intro c hc
    have hmark : c ≠ '\'' := by
      rintro rfl
      rw [List.contains_iff_mem.2 hc] at hmarks
      nomatch hmarks
    have hfeed : c ≠ '\n' := by
      rintro rfl
      rw [List.contains_iff_mem.2 hc] at hlines
      nomatch hlines
    exact ⟨hmark, isPlain_of_not_hard (hhard c hc) hfeed⟩
  · exact spelled_escapedText
  · simp only [Bool.and_eq_true, Bool.not_eq_true', List.any_eq_false, Bool.not_eq_true] at h₄
    exact spelled_literal_long h₄.1 h₄.2
  · exact spelled_escapedText

theorem Spelled.lineBreak?_eq (h : Spelled form run w s) (hs : '\n' ∉ s) :
    lineBreak? (w ++ (form.marks ++ rest)) = none := by
  have hmark : ∀ t, lineBreak? (form.mark :: t) = none := by
    intro t
    rw [TextForm.mark]
    split_ifs <;> rfl
  cases h with
  | nil =>
    rw [List.nil_append, TextForm.marks]
    split_ifs <;> exact hmark _
  | mark hlong hrun h => exact hmark _
  | char hu h =>
    obtain ⟨d, t, rfl, -, hreturn, hfeed⟩ := hu.head
    have hd : d ≠ '\n' := fun heq => hs (hfeed heq ▸ List.mem_cons_self)
    rw [List.cons_append, List.cons_append, lineBreak?]
    · exact fun _ heq => hd (List.head_eq_of_cons_eq heq)
    · exact fun _ heq => hreturn (List.head_eq_of_cons_eq heq)

/-- A short text does not begin like a long one. -/
theorem Spelled.not_long (h : Spelled form 0 w s) (hshort : form.long = false)
    (hrest : rest.head? ≠ some form.mark) :
    ¬ List.replicate 3 form.mark <+: form.mark :: (w ++ form.mark :: rest) := by
  rintro ⟨t, ht⟩
  have ht := List.tail_eq_of_cons_eq ht
  cases h with
  | nil =>
    have hhead := List.tail_eq_of_cons_eq ht
    exact hrest (hhead ▸ rfl)
  | mark hlong => nomatch hshort.symm.trans hlong
  | char hu h =>
    obtain ⟨d, u, rfl, hd, -⟩ := hu.head
    exact hd (List.head_eq_of_cons_eq ht).symm

/-- The form of a text is found by its marks. -/
theorem find?_form {t : List Char}
    (h : form.long = false → ¬ List.replicate 3 form.mark <+: form.mark :: t) :
    (allForms.find? fun f => f.marks.isPrefixOf (form.marks ++ t)) = some form := by
  obtain ⟨literal, long⟩ := form
  cases long with
  | true => cases literal <;> rfl
  | false =>
    have hno {mark : Char} (hmark : (TextForm.mk literal false).mark = mark) :
        [mark, mark].isPrefixOf t = false := by
      rw [← Bool.not_eq_true, List.isPrefixOf_iff_prefix, ← hmark]
      exact fun hpre => h rfl ((List.prefix_cons_inj _).2 hpre)
    cases literal with
    | false =>
      simp [allForms, shortForms, TextForm.marks, TextForm.mark, List.find?, List.isPrefixOf,
        @hno '"' rfl]
    | true =>
      simp [allForms, shortForms, TextForm.marks, TextForm.mark, List.find?, List.isPrefixOf,
        @hno '\'' rfl]

theorem exists_write (s : List Char) : ∃ t, (TextForm.fitting s).write s = '"' :: t ∨
    (TextForm.fitting s).write s = '\'' :: t := by
  generalize TextForm.fitting s = form
  obtain ⟨literal, long⟩ := form
  cases literal <;> cases long
  · exact ⟨_, .inl rfl⟩
  · exact ⟨_, .inl rfl⟩
  · exact ⟨_, .inr rfl⟩
  · exact ⟨_, .inr rfl⟩

/-- A text that is written reads as what it was written for. -/
theorem quotedText?_write (hrest : rest.head? ≠ some '"' ∧ rest.head? ≠ some '\'') :
    quotedText? allForms ((TextForm.fitting s).write s ++ rest) = some (String.ofList s, rest) := by
  have hspelled : Spelled (TextForm.fitting s) 0 ((TextForm.fitting s).content s) s :=
    spelled_fitting
  generalize hform : TextForm.fitting s = form at hspelled ⊢
  have hmark : rest.head? ≠ some form.mark := by
    rw [TextForm.mark]
    split_ifs
    · exact hrest.2
    · exact hrest.1
  have hbody : form.body .inside (form.content s ++ (form.marks ++ rest)) = some (s, rest) :=
    hspelled.body_eq (Nat.zero_le 2) hmark
  have hwrite : form.write s ++ rest =
      form.marks ++ ((if form.long && s.contains '\n' then ['\n'] else []) ++
        (form.content s ++ (form.marks ++ rest))) := by
    simp only [TextForm.write, TextForm.content, List.append_assoc]
  have hshort (hlong : form.long = false) : ¬ List.replicate 3 form.mark <+: form.mark ::
      ((if form.long && s.contains '\n' then ['\n'] else []) ++
        (form.content s ++ (form.marks ++ rest))) := by
    have hone : form.marks = [form.mark] := by
      rw [TextForm.marks, hlong]
      rfl
    rw [hlong, hone]
    exact hspelled.not_long hlong hmark
  rw [hwrite, quotedText?, find?_form hshort]
  dsimp only
  rw [List.drop_left]
  by_cases hlong : form.long
  · by_cases hlines : '\n' ∈ s
    · -- The line break behind the opening marks is passed over.
      rw [if_pos hlong, hlong, List.contains_iff_mem.2 hlines]
      exact congrArg (Option.map _) hbody
    · have hnone : lineBreak? (form.content s ++ (form.marks ++ rest)) = none :=
        hspelled.lineBreak?_eq hlines
      have hno : s.contains '\n' = false := by simpa using hlines
      rw [if_pos hlong, hlong, hno, Bool.and_false, if_neg Bool.false_ne_true, List.nil_append, hnone]
      exact congrArg (Option.map _) hbody
  · have hno : form.long = false := Bool.not_eq_true _ ▸ hlong
    rw [if_neg hlong, hno, Bool.false_and, if_neg Bool.false_ne_true, List.nil_append]
    exact congrArg (Option.map _) hbody

end Forms

end Liveness.Toml
