import Liveness.Proofs.Association.Polling
import Liveness.Proofs.Link.NetworkManager
import Mathlib.Tactic.SplitIfs

/-! An attempt over NetworkManager cannot poll for ever on a dead link: its polls go on exactly as
long as the readings are at most fifteen times "disconnected" and then states of progress. -/
namespace Liveness.NetworkManager
open Text
variable {nm : NetworkManager} {name : String} {network : Credentials} {j n state : Nat}

/-- The device states of a join under way. -/
def progressStates : List Nat := [40, 50, 60, 70, 80, 90]

/-- The first `n` readings are `j` times "disconnected" and then nothing but progress. -/
structure Shape (nm : NetworkManager) (j n : Nat) : Prop where
  le : j ≤ n
  waiting : ∀ k < j, nm.reading? k = some 30
  progress : ∀ k, j ≤ k → k < n → ∃ state ∈ progressStates, nm.reading? k = some state

/-- The first `n` readings have that shape within the grace. -/
def Steady (nm : NetworkManager) (n : Nat) : Prop := ∃ j ≤ downGrace, nm.Shape j n

/-- How the first reading out of shape ends an attempt. `waiting` says that all readings before it
were "disconnected". -/
def verdict (waiting : Bool) : Option Nat → AssociationOutcome
  | none => .rejected Link.failed
  | some state =>
    if state = 100 then .associated Link.up
    else if state = 10 ∨ state = 20 ∨ (state = 30 ∧ waiting) then .rejected Link.noNetwork
    else .rejected Link.failed

def heard (nm : NetworkManager) (j n : Nat) : NetworkManager :=
  { nm with answers := nm.answers.drop n, downPolls := j, seenProgress := decide (j < n) }

theorem linkStatus_eq_down : linkStatus state = Link.down ↔ state = 30 := by
  unfold linkStatus
  split_ifs <;> simp_all [Link.up, Link.noAddress, Link.joining, Link.down, Link.noNetwork,
    Link.failed] <;> omega

theorem isTerminal_linkStatus :
    Link.isTerminal (linkStatus state) = false ↔ state = 30 ∨ state ∈ progressStates := by
  unfold linkStatus progressStates
  split_ifs <;> simp_all [Link.isTerminal, Link.up, Link.noAddress, Link.joining, Link.down,
    Link.noNetwork, Link.failed]

/-- A state that is neither "disconnected" nor progress ends an attempt by itself. -/
theorem outcomeOf_linkStatus (waiting : Bool) (hstate : state ≠ 30)
    (hprogress : state ∉ progressStates) :
    Association.outcomeOf (linkStatus state) = verdict waiting (some state) := by
  simp only [progressStates, List.mem_cons, List.not_mem_nil, or_false, not_or] at hprogress
  obtain ⟨h40, h50, h60, h70, h80, h90⟩ := hprogress
  have hnoAddress : ¬ (state = 70 ∨ state = 80 ∨ state = 90) := by omega
  have hjoining : ¬ (state = 40 ∨ state = 50 ∨ state = 60) := by omega
  unfold linkStatus
  dsimp only [verdict]
  rw [if_neg hnoAddress, if_neg hjoining, if_neg hstate]
  by_cases hup : state = 100
  · rw [if_pos hup, if_pos hup]
    rfl
  · rw [if_neg hup, if_neg hup]
    by_cases hgone : state = 10 ∨ state = 20
    · rw [if_pos hgone, if_pos (by omega)]
      rfl
    · rw [if_neg hgone, if_neg (by omega)]
      rfl

theorem heard_reading? (nm : NetworkManager) (j n : Nat) :
    (nm.heard j n).reading? 0 = nm.reading? n := by
  simp [reading?, heard, List.getD_eq_getElem?_getD]

theorem Ready.heard (h : nm.Ready name) (j n : Nat) : (nm.heard j n).Ready name :=
  ⟨h.interface, h.name, h.program⟩

theorem status_heard (h : nm.Ready name) (j n : Nat) :
    (((nm.heard j n).status).value, ((nm.heard j n).status).next) = match nm.reading? n with
      | none => (Link.failed, (nm.heard j n).ran)
      | some state => (((nm.heard j n).ran.poll (linkStatus state)).2,
          ((nm.heard j n).ran.poll (linkStatus state)).1) := by
  have hstatus := status_of_ready (h.heard j n)
  rw [heard_reading?] at hstatus
  exact hstatus

theorem heard_progress (h : nm.Ready name) (hj : j ≤ n) (hstate : state ∈ progressStates)
    (hread : nm.reading? n = some state) : ((nm.heard j n).status).next = nm.heard j (n + 1) := by
  have hstatus := status_heard h j n
  have hdown : ¬ linkStatus state = Link.down := by
    rw [linkStatus_eq_down]
    rintro rfl
    exact absurd hstate (by decide)
  have hseen : j < n + 1 := Nat.lt_succ_of_le hj
  rw [hread] at hstatus
  dsimp only at hstatus
  rw [poll, if_neg hdown] at hstatus
  rw [(Prod.mk.inj hstatus).2]
  simp [heard, ran, hseen]

theorem heard_waiting (h : nm.Ready name) (hread : nm.reading? n = some 30) :
    ((nm.heard n n).status).next = nm.heard (n + 1) (n + 1) := by
  have hstatus := status_heard h n n
  rw [hread] at hstatus
  dsimp only at hstatus
  rw [poll, if_pos (linkStatus_eq_down.2 rfl)] at hstatus
  rw [if_neg (by simp [heard, ran])] at hstatus
  rw [(Prod.mk.inj hstatus).2]
  simp [heard, ran]

theorem polled_of_shape (hbegun : nm.Begun) (h : nm.Shape j n) :
    Radio.polled n nm = nm.heard j n := by
  obtain ⟨⟨name, hready⟩, hseen, hdown⟩ := hbegun
  induction n generalizing j with
  | zero =>
    obtain rfl := Nat.le_zero.1 h.le
    have hstart : nm.heard 0 0 = nm := by
      cases nm
      simp_all [heard]
    exact hstart.symm
  | succ n ih =>
    by_cases hj : j ≤ n
    · have hshape : nm.Shape j n := ⟨hj, h.waiting, fun k hk hn => h.progress k hk (by omega)⟩
      obtain ⟨state, hstate, hread⟩ := h.progress n hj (Nat.lt_succ_self n)
      rw [Radio.polled_succ, ih hshape]
      exact heard_progress hready hj hstate hread
    · have hjn : j = n + 1 := by have := h.le; omega
      subst hjn
      have hshape : nm.Shape n n :=
        ⟨Nat.le_refl n, fun k hk => h.waiting k (by omega), fun k hk hn => by omega⟩
      rw [Radio.polled_succ, ih hshape]
      exact heard_waiting hready (h.waiting n (Nat.lt_succ_self n))

theorem statusAt_of_shape (hbegun : nm.Begun) (h : nm.Shape j n) :
    Radio.statusAt n nm = match nm.reading? n with
      | none => Link.failed
      | some state =>
        if state = 30 then
          if j < n then Link.failed else if downGrace < j + 1 then Link.noNetwork else Link.down
        else linkStatus state := by
  obtain ⟨name, hready⟩ := hbegun.ready
  have hstatus := congrArg Prod.fst (status_heard hready j n)
  rw [Radio.statusAt, polled_of_shape hbegun h]
  cases hread : nm.reading? n with
  | none =>
    rw [hread] at hstatus
    exact hstatus
  | some state =>
    rw [hread] at hstatus
    dsimp only at hstatus ⊢
    rw [poll] at hstatus
    by_cases hstate : state = 30
    · rw [if_pos (linkStatus_eq_down.2 hstate)] at hstatus
      rw [if_pos hstate]
      by_cases hj : j < n
      · rw [if_pos (by simp [heard, ran, hj])] at hstatus
        rw [if_pos hj]
        exact hstatus
      · rw [if_neg (by simp [heard, ran, hj]), linkStatus_eq_down.2 hstate] at hstatus
        rw [if_neg hj]
        exact hstatus
    · rw [if_neg (fun hdown => hstate (linkStatus_eq_down.1 hdown))] at hstatus
      rw [if_neg hstate]
      exact hstatus

theorem steady_succ_of_shape (h : nm.Shape j n) (hj : j ≤ downGrace) :
    nm.Steady (n + 1) ↔ (∃ state ∈ progressStates, nm.reading? n = some state) ∨
      nm.reading? n = some 30 ∧ j = n ∧ n < downGrace := by
  constructor
  · rintro ⟨i, hi, hshape⟩
    by_cases hin : i ≤ n
    · exact .inl (hshape.progress n hin (Nat.lt_succ_self n))
    · have hle := hshape.le
      have hread := hshape.waiting n (by omega)
      have hjn : j = n := by
        by_contra hne
        have hlt : j < n := Nat.lt_of_le_of_ne h.le hne
        obtain ⟨state, hstate, hprogress⟩ := h.progress j (Nat.le_refl j) hlt
        have hwait := hshape.waiting j (by omega)
        rw [hprogress] at hwait
        obtain rfl := Option.some.inj hwait
        exact absurd hstate (by decide)
      exact .inr ⟨hread, hjn, by omega⟩
  · rintro (⟨state, hstate, hread⟩ | ⟨hread, rfl, hlt⟩)
    · refine ⟨j, hj, Nat.le_succ_of_le h.le, h.waiting, fun k hk hn => ?_⟩
      by_cases hkn : k = n
      · subst hkn
        exact ⟨state, hstate, hread⟩
      · exact h.progress k hk (by omega)
    · refine ⟨j + 1, hlt, Nat.le_refl _, fun k hk => ?_, fun k hk hn => by omega⟩
      by_cases hkj : k = j
      · rw [hkj]
        exact hread
      · exact h.waiting k (by omega)

theorem isTerminal_statusAt (hbegun : nm.Begun) (h : nm.Shape j n) (hj : j ≤ downGrace) :
    Link.isTerminal (Radio.statusAt n nm) = false ↔ nm.Steady (n + 1) := by
  rw [steady_succ_of_shape h hj, statusAt_of_shape hbegun h]
  cases hread : nm.reading? n with
  | none => simp [Link.isTerminal, Link.failed]
  | some state =>
    dsimp only
    by_cases hstate : state = 30
    · subst hstate
      have hle := h.le
      have hwaiting : ((∃ state ∈ progressStates, some 30 = some state) ∨
          some 30 = some 30 ∧ j = n ∧ n < downGrace) ↔ j = n ∧ n < downGrace := by
        simp [progressStates]
      rw [if_pos rfl, hwaiting]
      by_cases hlt : j < n
      · rw [if_pos hlt]
        exact iff_of_false (by decide) (by omega)
      · rw [if_neg hlt]
        by_cases hgrace : downGrace < j + 1
        · rw [if_pos hgrace]
          exact iff_of_false (by decide) (by omega)
        · rw [if_neg hgrace]
          exact iff_of_true (by decide) (by omega)
    · rw [if_neg hstate, isTerminal_linkStatus]
      simp [hstate]

theorem Steady.of_succ (h : nm.Steady (n + 1)) : nm.Steady n := by
  obtain ⟨j, hj, hshape⟩ := h
  by_cases hjn : j ≤ n
  · exact ⟨j, hj, hjn, hshape.waiting, fun k hk hn => hshape.progress k hk (by omega)⟩
  · have hle := hshape.le
    exact ⟨n, by omega, Nat.le_refl n, fun k hk => hshape.waiting k (by omega), by omega⟩

/-- Polls go on exactly as long as the readings have their shape. -/
theorem unsettled_iff_steady (hbegun : nm.Begun) : Radio.Unsettled n nm ↔ nm.Steady n := by
  induction n with
  | zero =>
    refine iff_of_true (fun k hk => nomatch hk) ⟨0, Nat.zero_le _, Nat.le_refl 0, ?_, ?_⟩
    · exact fun k hk => nomatch hk
    · exact fun k hk hn => nomatch hn
  | succ n ih =>
    constructor
    · intro hunsettled
      obtain ⟨j, hj, hshape⟩ := ih.1 fun k hk => hunsettled k (Nat.lt_succ_of_lt hk)
      exact (isTerminal_statusAt hbegun hshape hj).1 (hunsettled n (Nat.lt_succ_self n))
    · intro hsteady k hk
      obtain ⟨j, hj, hshape⟩ := hsteady.of_succ
      by_cases hkn : k = n
      · rw [hkn]
        exact (isTerminal_statusAt hbegun hshape hj).2 hsteady
      · exact ih.2 hsteady.of_succ k (by omega)

/-- The reading that ends an attempt decides how it ends. -/
theorem outcomeOf_statusAt (hbegun : nm.Begun) (h : nm.Shape j n) (hj : j ≤ downGrace)
    (hends : ¬ nm.Steady (n + 1)) :
    Association.outcomeOf (Radio.statusAt n nm) = verdict (decide (j = n)) (nm.reading? n) := by
  rw [steady_succ_of_shape h hj] at hends
  rw [statusAt_of_shape hbegun h]
  cases hread : nm.reading? n with
  | none => rfl
  | some state =>
    rw [hread] at hends
    dsimp only
    by_cases hstate : state = 30
    · subst hstate
      have hle := h.le
      rw [if_pos rfl]
      by_cases hlt : j < n
      · have hne : ¬ j = n := Nat.ne_of_lt hlt
        rw [if_pos hlt]
        rw [decide_eq_false hne]
        rfl
      · have hjn : j = n := Nat.le_antisymm hle (Nat.le_of_not_lt hlt)
        have hgrace : downGrace < j + 1 := by
          by_contra hroom
          exact hends (.inr ⟨rfl, hjn, by omega⟩)
        rw [if_neg hlt, if_pos hgrace]
        rw [decide_eq_true hjn]
        rfl
    · have hprogress : state ∉ progressStates := fun hp => hends (.inl ⟨state, hp, rfl⟩)
      rw [if_neg hstate]
      exact outcomeOf_linkStatus _ hstate hprogress

theorem status_downPolls (h : nm.Ready name) (hle : nm.downPolls ≤ downGrace) :
    (nm.status).next.downPolls ≤ downGrace + 1 ∧
      (Link.isTerminal (nm.status).value = false →
        (nm.status).next.Ready name ∧ (nm.status).next.downPolls ≤ downGrace) := by
  have hstatus := status_of_ready h
  have hfailed : ¬ Link.isTerminal Link.failed = false := by decide
  have hnone : ¬ Link.isTerminal Link.noNetwork = false := by decide
  cases hread : nm.reading? 0 with
  | none =>
    rw [hread] at hstatus
    obtain ⟨hvalue, hnext⟩ := Prod.mk.inj hstatus
    rw [hvalue, hnext]
    exact ⟨Nat.le_succ_of_le hle, fun hterminal => absurd hterminal hfailed⟩
  | some state =>
    rw [hread] at hstatus
    obtain ⟨hvalue, hnext⟩ := Prod.mk.inj hstatus
    rw [hvalue, hnext]
    unfold poll
    by_cases hdown : linkStatus state = Link.down
    · rw [if_pos hdown]
      cases hseen : nm.ran.seenProgress with
      | true =>
        rw [if_pos rfl]
        exact ⟨Nat.le_succ_of_le hle, fun hterminal => absurd hterminal hfailed⟩
      | false =>
        refine ⟨Nat.succ_le_succ hle, fun hterminal => ⟨⟨h.interface, h.name, h.program⟩, ?_⟩⟩
        by_contra hover
        have hover' : downGrace < nm.downPolls + 1 := Nat.lt_of_not_le hover
        rw [if_neg Bool.false_ne_true] at hterminal
        dsimp only [ran] at hterminal
        rw [if_pos hover'] at hterminal
        exact hnone hterminal
    · rw [if_neg hdown]
      exact ⟨Nat.le_succ_of_le hle, fun _ => ⟨⟨h.interface, h.name, h.program⟩, hle⟩⟩

theorem poll_downPolls (interval : Duration) (limit : Nat) (a : Association) (h : nm.Ready name)
    (hle : nm.downPolls ≤ downGrace) :
    (Association.poll interval limit a nm).radio.downPolls ≤ downGrace + 1 := by
  induction limit generalizing a nm with
  | zero => exact Nat.le_succ_of_le hle
  | succ limit ih =>
    obtain ⟨hbound, hgoesOn⟩ := status_downPolls h hle
    cases hterminal : Link.isTerminal (Radio.status nm).value with
    | true =>
      rw [Association.poll_succ_of_terminal hterminal]
      dsimp only
      rw [(Association.conclude_eq _).2.1]
      exact hbound
    | false =>
      obtain ⟨hready, hroom⟩ := hgoesOn hterminal
      rw [Association.poll_succ_of_not_terminal hterminal]
      exact ih _ hready hroom

/-- The radios that attempts lead to, whatever the client answers. An attempt may be cut off after
any number of polls. -/
inductive Reachable : NetworkManager → Prop
  | new (interface : Option String) (program : String) (answers : List CommandAnswer)
      (later : CommandAnswer) : Reachable (.new interface program answers later)
  | attempt {nm : NetworkManager} (h : Reachable nm) (limit : Nat) (network : Credentials)
      (interval : Duration) (earlier : Association) :
      Reachable (Association.run limit network interval earlier nm).radio
  | address {nm : NetworkManager} (h : Reachable nm) : Reachable nm.address.next

/-- One attempt keeps the count of waiting polls within the grace and one more. -/
theorem run_downPolls (limit : Nat) (network : Credentials) (interval : Duration)
    (earlier : Association) (nm : NetworkManager) :
    (Association.run limit network interval earlier nm).radio.downPolls ≤ downGrace + 1 := by
  cases hactivated : (Radio.activate nm network).value with
  | error e =>
    obtain ⟨-, hradio⟩ := Association.run_of_refused limit interval earlier hactivated
    rw [hradio]
    have hdown : (Radio.activate nm network).next.downPolls = 0 := (activate_resets nm network).2
    rw [hdown]
    exact Nat.zero_le _
  | ok =>
    obtain ⟨-, -, hradio⟩ := Association.run_of_activated limit interval earlier hactivated
    obtain ⟨⟨name, hready⟩, -, hdown⟩ := begun_of_activate hactivated
    rw [hradio]
    exact poll_downPolls interval limit _ hready (hdown ▸ Nat.zero_le _)

theorem Reachable.downPolls_le (h : Reachable nm) : nm.downPolls ≤ downGrace + 1 := by
  induction h with
  | new interface program answers later => exact Nat.zero_le _
  | attempt h limit network interval earlier ih => exact run_downPolls limit network interval _ _
  | @address nm h ih =>
    rw [address_downPolls]
    exact ih

/-- After a successful activation the polls go on exactly as long as the readings have their shape,
and the first reading out of it ends the attempt. The count of waiting polls stays within the grace
and one more, whatever came before. -/
theorem polls_end :
    (∀ (nm : NetworkManager) (network : Credentials), (nm.activate network).value = .ok () →
      let begun := (nm.activate network).next
      (∀ n, Radio.Unsettled n begun ↔ begun.Steady n) ∧
        ∀ limit interval earlier,
          let attempt := Association.run limit network interval earlier nm
          (attempt.outcome = none ↔ begun.Steady limit) ∧
            ∀ n < limit, ∀ j ≤ downGrace, begun.Shape j n → ¬ begun.Steady (n + 1) →
              attempt.outcome = some (verdict (decide (j = n)) (begun.reading? n)) ∧
              attempt.association.polls = n + 1 ∧
              (begun.reading? n = some 30 → j = n → n = downGrace)) ∧
      ∀ nm : NetworkManager, Reachable nm → nm.downPolls ≤ downGrace + 1 := by
  refine ⟨fun nm network h => ?_, fun nm hreached => hreached.downPolls_le⟩
  intro begun
  have hbegun : begun.Begun := begun_of_activate h
  refine ⟨fun n => unsettled_iff_steady hbegun, fun limit interval earlier => ?_⟩
  intro attempt
  obtain ⟨houtcome, hassociation, -⟩ := Association.run_of_activated limit interval earlier h
  constructor
  · rw [houtcome, Association.poll_outcome_eq_none_iff]
    exact unsettled_iff_steady hbegun
  · intro n hn j hj hshape hends
    have hunsettled : Radio.Unsettled n begun := (unsettled_iff_steady hbegun).2 ⟨j, hj, hshape⟩
    have hterminal : Link.isTerminal (Radio.statusAt n begun) = true := by
      rw [← isTerminal_statusAt hbegun hshape hj] at hends
      exact Bool.not_eq_false _ ▸ hends
    obtain ⟨hended, -, hpolls, -⟩ := Association.poll_of_settled interval
      { earlier with lastStatus := none, polls := 0, state := .associating } hn hunsettled hterminal
    rw [outcomeOf_statusAt hbegun hshape hj hends] at hended
    refine ⟨houtcome.trans hended, ?_, ?_⟩
    · rw [hassociation]
      exact hpolls.trans (Nat.zero_add _)
    · intro hread hjn
      rw [steady_succ_of_shape hshape hj, not_or] at hends
      have hgrace : ¬ n < downGrace := fun hlt => hends.2 ⟨hread, hjn, hlt⟩
      omega

/-- Fifteen times "disconnected", a state of progress, and the link is up. -/
theorem polls_end_up :
    let said (text : List UInt8) : CommandAnswer := .exited (.code 0) text []
    let nm : NetworkManager := .new (some "wlan0") "nmcli" ([said [], said []] ++
      List.replicate 15 (said [0x33, 0x30]) ++ [said [0x35, 0x30]]) (said [0x31, 0x30, 0x30])
    let network : Credentials := ⟨"lab", ""⟩
    let attempt := Association.run 20 network .zero .new nm
    (nm.activate network).value = .ok () ∧
      attempt.outcome = some (.associated Link.up) ∧ attempt.association.polls = 17 := by
  intro said nm network attempt
  have hok : (nm.activate network).value = .ok () := by decide
  have hwaiting : ∀ k < 15, (nm.activate network).next.reading? k = some 30 := by decide
  have hprogress : (nm.activate network).next.reading? 15 = some 50 := by decide
  have hup : (nm.activate network).next.reading? 16 = some 100 := by decide
  have hshape : (nm.activate network).next.Shape 15 16 := by
    refine ⟨by decide, hwaiting, fun k hk hn => ?_⟩
    obtain rfl : k = 15 := by omega
    exact ⟨50, by decide, hprogress⟩
  have hends : ¬ (nm.activate network).next.Steady 17 := by
    rintro ⟨j, hj, hlonger⟩
    obtain ⟨state, hstate, hread⟩ := hlonger.progress 16 (Nat.le_succ_of_le hj) (by decide)
    rw [hup] at hread
    obtain rfl := Option.some.inj hread
    exact absurd hstate (by decide)
  obtain ⟨-, hrun⟩ := polls_end.1 nm network hok
  obtain ⟨houtcome, hpolls, -⟩ :=
    (hrun 20 .zero .new).2 16 (by decide) 15 (Nat.le_refl _) hshape hends
  rw [hup] at houtcome
  exact ⟨hok, houtcome, hpolls⟩

end Liveness.NetworkManager
