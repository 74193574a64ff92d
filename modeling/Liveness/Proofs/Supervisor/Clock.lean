import Liveness.Proofs.Event.Stamps
import Liveness.Proofs.Supervisor.Turns

/-! How the clock of a run passes over a step and over the wait after it. -/
namespace Liveness

theorem Duration.asWait_of_le {d : Duration} (h : d.nanos ≤ longestWait.nanos) : d.asWait = d :=
  if_neg (Nat.not_lt.2 h)

theorem Duration.asWait_of_isZero {d : Duration} (h : d.isZero = true) : d.asWait.nanos = 0 := by
  have hnanos : d.nanos = 0 := beq_iff_eq.1 h
  rw [asWait_of_le (by omega), hnanos]

theorem Event.span_le (e : Event) : e.span.nanos ≤ Duration.longestWait.nanos := by
  unfold span
  split <;> first | exact Duration.asWait_le _ | exact Nat.zero_le _

/-- The calls to devices, and what is reported outside of them. They take no time. -/
def Event.isPunctual : Event → Bool
  | .activate _ | .status _ | .address | .probe | .report _ => true
  | _ => false

theorem Event.span_of_isPunctual {e : Event} (h : e.isPunctual) : e.span = .zero := by
  cases e <;> first | rfl | nomatch h

theorem Event.eq_false_of_not_isPunctual {p : Event → Bool} (hp : ∀ e, p e → e.isPunctual)
    {e : Event} (he : e.isPunctual = false) : p e = false := by
  rw [Bool.eq_false_iff] at he ⊢
  exact fun h => he (hp e h)

namespace Cancellation
open Event
variable {c : Cancellation} {es : List Event} {wait : Duration}

def clock? : Cancellation → Option Nat
  | .never => none
  | .due left => some left.nanos
  | .done => some 0

/-- What becomes of a cancellation some time later, if nobody cancels meanwhile. -/
def after (span : Nat) : Cancellation → Cancellation
  | .due left => .due ⟨left.nanos - span⟩
  | c => c

theorem mem_clock?_after {span left : Nat} :
    left ∈ (c.after span).clock? ↔ ∃ whole ∈ c.clock?, whole - span = left := by
  cases c with
  | never => simp [after, clock?]
  | due whole => simp [after, clock?]
  | done => simp [after, clock?]

theorem after_add {first second : Nat} : c.after (first + second) = (c.after first).after second := by
  cases c with
  | due left => simp [after, Nat.sub_sub]
  | never => rfl
  | done => rfl

theorem ne_done_of_lt {span : Nat} (h : ∀ left ∈ c.clock?, span < left) : c ≠ .done := by
  rintro rfl
  exact Nat.not_lt_zero span (h 0 rfl)

/-- A step that ends before the clock's time, with nobody else cancelling, happens as it is. -/
theorem pass_of_lt (hnone : ∀ e ∈ es, e.canceller? = none)
    (hlt : ∀ left ∈ c.clock?, total es < left) : c.pass es = (es, c.after (total es)) := by
  induction es generalizing c with
  | nil => cases c <;> rfl
  | cons e es ih =>
    rw [List.forall_mem_cons] at hnone
    have hcancel : e.canceller?.isSome = false := by
      rw [hnone.1]
      rfl
    cases c with
    | done => rfl
    | never =>
      have hlater := ih (c := .never) hnone.2 nofun
      simp [pass, hcancel, hlater, after]
    | due left =>
      have htime : e.span.nanos + total es < left.nanos := hlt left.nanos rfl
      have hspan : e.span.nanos = 0 ∨ e.span.nanos < left.nanos := by omega
      have hlater := ih (c := .due ⟨left.nanos - e.span.nanos⟩) hnone.2 fun d hd => by
        obtain rfl := Option.some.inj hd
        dsimp only
        omega
      simp [pass, hcancel, hspan, hlater, after, Nat.sub_sub]

/-- A step in which somebody cancels, or the clock's time comes. -/
theorem pass_of_le (h : (∃ e ∈ es, e.canceller?.isSome) ∨
    ∃ left ∈ c.clock?, 0 < left ∧ left ≤ total es) : (c.pass es).2 = .done := by
  induction es generalizing c with
  | nil =>
    obtain ⟨e, he, -⟩ | ⟨left, -, hpos, hle⟩ := h
    · exact absurd he List.not_mem_nil
    · exact absurd hpos (Nat.not_lt.2 hle)
  | cons e es ih =>
    cases hcancel : e.canceller?.isSome with
    | true => cases c <;> simp [pass, hcancel]
    | false =>
      have hlater (d : Cancellation) (hd : ∀ left ∈ c.clock?, 0 < left → left ≤ total (e :: es) →
          ∃ more ∈ d.clock?, 0 < more ∧ more ≤ total es) : (d.pass es).2 = .done := by
        apply ih
        obtain ⟨f, hf, hcancels⟩ | ⟨left, hleft, hpos, hle⟩ := h
        · rw [List.mem_cons] at hf
          obtain rfl | hf := hf
          · exact absurd hcancels (Bool.eq_false_iff.1 hcancel)
          · exact .inl ⟨f, hf, hcancels⟩
        · exact .inr (hd left hleft hpos hle)
      cases c with
      | done => rfl
      | never =>
        have hrest := hlater .never fun left hleft => absurd hleft (Option.not_mem_none left)
        simp [pass, hcancel, hrest]
      | due left =>
        by_cases hspan : e.span.nanos = 0 ∨ e.span.nanos < left.nanos
        · have hrest := hlater (.due ⟨left.nanos - e.span.nanos⟩) fun d hd hpos hle => by
            obtain rfl := Option.some.inj hd
            rw [total_cons] at hle
            refine ⟨_, rfl, ?_, ?_⟩ <;> dsimp only <;> omega
          simp [pass, hcancel, hspan, hrest]
        · simp [pass, hcancel, hspan]

theorem span_firstPart {left : Duration} {e : Event} (hspan : e.span.nanos ≠ 0)
    (hle : left.nanos ≤ e.span.nanos) : (firstPart left e).span = left := by
  have hleft : left.asWait = left := Duration.asWait_of_le (Nat.le_trans hle e.span_le)
  unfold firstPart
  split
  · exact hleft
  · exact hleft
  · exact hleft
  next htakes hpoll hrest =>
    refine absurd ?_ hspan
    unfold span
    split
    next d => exact (htakes d rfl).elim
    next d => exact (hpoll d rfl).elim
    next d => exact (hrest d rfl).elim
    · rfl

theorem total_lastPart {left : Duration} {e : Event} :
    total (lastPart left e) = e.span.nanos - left.nanos := by
  unfold lastPart
  split
  next h =>
    rw [h, Nat.sub_self]
    rfl
  next =>
    have hspan : e.span.nanos - left.nanos ≤ Duration.longestWait.nanos :=
      Nat.le_trans (Nat.sub_le _ _) e.span_le
    exact congrArg Duration.nanos (Duration.asWait_of_le hspan)

theorem isPunctual_firstPart {left : Duration} {e : Event} :
    (firstPart left e).isPunctual = e.isPunctual := by
  unfold firstPart
  split <;> rfl

theorem not_isPunctual_of_mem_lastPart {left : Duration} {e : Event} :
    ∀ part ∈ lastPart left e, part.isPunctual = false := by
  unfold lastPart
  split
  · exact nofun
  · simp [isPunctual]

theorem total_parts {left : Duration} {e : Event} (hspan : e.span.nanos ≠ 0)
    (hle : left.nanos ≤ e.span.nanos) :
    total (firstPart left e :: byClock :: lastPart left e) = e.span.nanos := by
  have hclock : byClock.span.nanos = 0 := rfl
  rw [total_cons, total_cons, total_lastPart, span_firstPart hspan hle, hclock]
  omega

/-- The clock takes nothing from a step's time, nor from its calls. -/
theorem timed_pass {p : Event → Bool} (hp : ∀ e, p e → e.isPunctual) (c : Cancellation)
    (now : Nat) :
    timed p now (c.pass es).1 = timed p now es ∧ total (c.pass es).1 = total es := by
  induction es generalizing c now with
  | nil => cases c <;> exact ⟨rfl, rfl⟩
  | cons e es ih =>
    have hlater (d : Cancellation) (h : (c.pass (e :: es)).1 = e :: (d.pass es).1) :
        timed p now (c.pass (e :: es)).1 = timed p now (e :: es) ∧
          total (c.pass (e :: es)).1 = total (e :: es) := by
      obtain ⟨htimed, htotal⟩ := ih d (now + e.span.nanos)
      rw [h, timed_cons, timed_cons, htimed, total_cons, total_cons, htotal]
      exact ⟨rfl, rfl⟩
    cases c with
    | done => exact ⟨rfl, rfl⟩
    | never =>
      cases hcancel : e.canceller?.isSome with
      | true => simp [pass, hcancel]
      | false => exact hlater .never (by simp [pass, hcancel])
    | due left =>
      cases hcancel : e.canceller?.isSome with
      | true => simp [pass, hcancel]
      | false =>
        by_cases htime : e.span.nanos = 0 ∨ e.span.nanos < left.nanos
        · exact hlater (.due ⟨left.nanos - e.span.nanos⟩) (by simp [pass, hcancel, htime])
        · obtain ⟨hspan, hle⟩ := not_or.1 htime
          have hsplit : ((Cancellation.due left).pass (e :: es)).1 =
              (firstPart left e :: byClock :: lastPart left e) ++ es := by
            simp [pass, hcancel, htime]
          have htotal := total_parts hspan (Nat.not_lt.1 hle)
          have hpunctual : e.isPunctual = false := by
            rw [Bool.eq_false_iff]
            intro h
            exact hspan (congrArg Duration.nanos (span_of_isPunctual h))
          have hnot {f : Event} := @eq_false_of_not_isPunctual p hp f
          have hquiet : timed p now (firstPart left e :: byClock :: lastPart left e) = [] := by
            apply timed_eq_nil
            rw [List.forall_mem_cons, List.forall_mem_cons]
            refine ⟨hnot (isPunctual_firstPart.trans hpunctual), hnot rfl, fun f hf => ?_⟩
            exact hnot (not_isPunctual_of_mem_lastPart f hf)
          rw [hsplit, timed_append, total_append, hquiet, htotal, timed_cons, hnot hpunctual]
          exact ⟨rfl, rfl⟩

theorem sleep_of_lt (h : ∀ left ∈ c.clock?, wait.asWait.nanos < left) :
    c.sleep wait = (if wait.isZero then [] else [.rest wait], some (c.after wait.asWait.nanos)) := by
  cases c with
  | done => exact absurd rfl (ne_done_of_lt h)
  | never => rfl
  | due left =>
    have hleft : wait.asWait.nanos < left.nanos := h left.nanos rfl
    rw [sleep, if_pos hleft]
    cases hwait : wait.isZero with
    | true =>
      rw [Duration.asWait_of_isZero hwait]
      rfl
    | false => rfl

theorem sleep_of_ge {left : Duration} (hpos : 0 < left.nanos) (h : left.nanos ≤ wait.asWait.nanos) :
    (Cancellation.due left).sleep wait = ([.rest left, byClock], none) := by
  have hwait : wait.isZero = false := by
    rw [Bool.eq_false_iff]
    intro hzero
    rw [Duration.asWait_of_isZero hzero] at h
    omega
  rw [sleep, hwait, if_neg (Nat.not_lt.2 h)]
  rfl

end Cancellation
end Liveness
