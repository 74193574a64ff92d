import Liveness.Proofs.Settings.Layers
import Liveness.Proofs.Settings.Setting

/-! Reading the settings from a value: each of them comes from its own place and from nowhere else,
and whether it can be read does not hang on the others. -/
namespace Liveness.Settings

section Verdicts
variable {α β σ ε : Type}

/-- Whether a reading succeeds, and how it fails. -/
def verdict (x : Except ε α) : Except ε Unit := x.map fun _ => ()

theorem verdict_map (x : Except ε α) (f : α → β) : verdict (x.map f) = verdict x := by
  cases x <;> rfl

theorem verdict_eq_ok_iff {x : Except ε α} : verdict x = .ok () ↔ ∃ a, x = .ok a := by
  cases x with
  | error e => exact ⟨nofun, nofun⟩
  | ok a => exact ⟨fun _ => ⟨a, rfl⟩, fun _ => rfl⟩

theorem verdict_eq_error_iff {x : Except ε α} {e : ε} : verdict x = .error e ↔ x = .error e := by
  cases x with
  | error e' => exact ⟨fun h => congrArg _ (Except.error.inj h), fun h => h ▸ rfl⟩
  | ok a => exact ⟨nofun, nofun⟩

theorem verdict_bind_congr {x x' : Except ε α} {f f' : α → Except ε β} (hx : verdict x = verdict x')
    (hf : ∀ a a', verdict (f a) = verdict (f' a')) : verdict (x >>= f) = verdict (x' >>= f') := by
  cases x with
  | error e =>
    have hx' := verdict_eq_error_iff.1 hx.symm
    rw [hx']
    rfl
  | ok a =>
    obtain ⟨a', hx'⟩ := verdict_eq_ok_iff.1 hx.symm
    rw [hx']
    exact hf a a'

/-- A second part that never fails does not count. -/
theorem verdict_bind_ok {x : Except ε α} {f : α → Except ε β} (hf : ∀ a, verdict (f a) = .ok ()) :
    verdict (x >>= f) = verdict x := by
  cases x with
  | error e => rfl
  | ok a => exact hf a

theorem exists_of_bind_eq_ok {x : Except ε α} {f : α → Except ε β} {b : β}
    (h : (x >>= f) = .ok b) : ∃ a, x = .ok a ∧ f a = .ok b := by
  cases x with
  | error e => nomatch h
  | ok a => exact ⟨a, rfl, h⟩

@[simp] theorem map_bind_ok (x : Except ε α) (put : α → σ) (get : σ → β) :
    (x >>= fun a => .ok (put a)).map get = x.map fun a => get (put a) := by
  cases x <;> rfl

@[simp] theorem map_self (x : Except ε α) : x.map (fun a => a) = x := by
  cases x <;> rfl

@[simp] theorem verdict_bind_put (x : Except ε α) (put : α → σ) :
    verdict (x >>= fun a => .ok (put a)) = verdict x :=
  verdict_bind_ok fun _ => rfl

end Verdicts

section Records
variable {σ β : Type} {fields : List (Field σ)} {key k : String} {get : σ → β}
  {read : List String → Value → β → Except BadValue β} {path : List String} {es : Fields}
  {v : Value} {s s' : σ} {f : Field σ}

/-- Whether a field takes a value does not hang on what is set already. -/
def Field.Steady (f : Field σ) : Prop := ∀ p v s s', verdict (f.set p v s) = verdict (f.set p v s')

/-- Of some fields, the one under `key` changes what `get` shows, in the way of `read`, and no other
one does. -/
structure Governs (fields : List (Field σ)) (key : String) (get : σ → β)
    (read : List String → Value → β → Except BadValue β) : Prop where
  listed : key ∈ fields.map Field.name
  sets : ∀ f ∈ fields, ∀ p v s, (f.set p v s).map get =
    if f.name = key then read p v (get s) else (f.set p v s).map fun _ => get s

theorem find?_eq_some (h : fields.find? (·.name == key) = some f) : f ∈ fields ∧ f.name = key := by
  have hname := List.find?_some h
  exact ⟨List.mem_of_find?_eq_some h, beq_iff_eq.1 hname⟩

theorem Governs.exists_field (h : Governs fields key get read) :
    ∃ f, fields.find? (·.name == key) = some f := by
  obtain ⟨f, hf, hname⟩ := List.mem_map.1 h.listed
  cases hfind : fields.find? (·.name == key) with
  | some g => exact ⟨g, rfl⟩
  | none =>
    have hno := List.find?_eq_none.1 hfind f hf
    exact absurd (beq_iff_eq.2 hname) hno

theorem readTable_cons_unknown (h : fields.find? (·.name == k) = none) :
    readTable fields path ((k, v) :: es) s = readTable fields path es s := by
  rw [readTable, h]

theorem readTable_cons_known (h : fields.find? (·.name == k) = some f) :
    readTable fields path ((k, v) :: es) s =
      f.set (path ++ [k]) v s >>= readTable fields path es := by
  rw [readTable, h]

/-- A table sets what it names, as what stands there reads, and leaves everything else. -/
theorem Governs.get_readTable (h : Governs fields key get read) (hes : es.Increasing)
    (hs : readTable fields path es s = .ok s') :
    (match es.lookup key with
      | some v => read (path ++ [key]) v (get s)
      | none => .ok (get s)) = .ok (get s') := by
  induction es generalizing s with
  | nil =>
    cases hs
    rfl
  | cons e es ih =>
    obtain ⟨k, v⟩ := e
    obtain ⟨hfirst, hrest⟩ := List.pairwise_cons.1 hes
    rw [Fields.lookup_cons_eq]
    by_cases hk : key = k
    · subst hk
      obtain ⟨f, hf⟩ := h.exists_field
      obtain ⟨hmem, hname⟩ := find?_eq_some hf
      rw [readTable_cons_known hf] at hs
      obtain ⟨s₁, hset, hs⟩ := exists_of_bind_eq_ok hs
      have hsets := h.sets f hmem (path ++ [key]) v s
      rw [if_pos hname] at hsets
      -- No later entry has this key, so nothing undoes what is set here.
      have hlater := ih hrest hs
      rw [Fields.lookup_eq_none_of_lt hfirst] at hlater
      rw [hset] at hsets
      rw [if_pos rfl]
      exact hsets.symm.trans hlater
    · rw [if_neg hk]
      cases hf : fields.find? (·.name == k) with
      | none =>
        rw [readTable_cons_unknown hf] at hs
        exact ih hrest hs
      | some f =>
        obtain ⟨hmem, hname⟩ := find?_eq_some hf
        rw [readTable_cons_known hf] at hs
        obtain ⟨s₁, hset, hs⟩ := exists_of_bind_eq_ok hs
        have hne : f.name ≠ key := fun heq => hk (heq.symm.trans hname)
        have hkeeps := h.sets f hmem (path ++ [k]) v s
        rw [if_neg hne, hset] at hkeeps
        have hsame : get s₁ = get s := Except.ok.inj hkeeps
        rw [← hsame]
        exact ih hrest hs

theorem verdict_readTable (h : ∀ f ∈ fields, f.Steady) :
    verdict (readTable fields path es s) = verdict (readTable fields path es s') := by
  induction es generalizing s s' with
  | nil => rfl
  | cons e es ih =>
    obtain ⟨k, v⟩ := e
    cases hf : fields.find? (·.name == k) with
    | none =>
      rw [readTable_cons_unknown hf, readTable_cons_unknown hf]
      exact ih
    | some f =>
      rw [readTable_cons_known hf, readTable_cons_known hf]
      apply verdict_bind_congr
      · exact h f (find?_eq_some hf).1 (path ++ [k]) v s s'
      · intro a a'
        exact ih

theorem verdict_readList {short : Nat → BadValue} {index : Nat} {items : List Value}
    (h : ∀ f ∈ fields, f.Steady) :
    verdict (readList path short index fields items s) =
      verdict (readList path short index fields items s') := by
  induction fields generalizing index items s s' with
  | nil => rfl
  | cons f fields ih =>
    have hfields : ∀ g ∈ fields, g.Steady := fun g hg => h g (List.mem_cons_of_mem f hg)
    cases items with
    | nil =>
      rw [readList, readList]
      cases f.optional with
      | true => exact ih hfields
      | false => rfl
    | cons v items =>
      rw [readList, readList]
      apply verdict_bind_congr
      · exact h f List.mem_cons_self (path ++ [toString index]) v s s'
      · intro a a'
        exact ih hfields

theorem verdict_readRecord {name : String} (h : ∀ f ∈ fields, f.Steady) :
    verdict (readRecord name fields path v s) = verdict (readRecord name fields path v s') := by
  cases v with
  | scalar => rfl
  | list => exact verdict_readList h
  | table => exact verdict_readTable h

/-- Where a table can be read, another value under one of its keys decides about it alone. -/
theorem Governs.verdict_readTable_put (h : Governs fields key get read)
    (hsteady : ∀ f ∈ fields, f.Steady) (hes : es.Increasing) {v₀ : Value}
    (hv₀ : es.lookup key = some v₀) (hs : readTable fields path es s = .ok s') :
    verdict (readTable fields path (es.put key v) s) = verdict (read (path ++ [key]) v (get s)) := by
  obtain ⟨f, hf⟩ := h.exists_field
  obtain ⟨hmem, hname⟩ := find?_eq_some hf
  have hsets := h.sets f hmem (path ++ [key]) v s
  rw [if_pos hname] at hsets
  rw [← hsets, verdict_map]
  clear hsets
  induction es generalizing s with
  | nil => cases hv₀
  | cons e es ih =>
    obtain ⟨k, u⟩ := e
    obtain ⟨hfirst, hrest⟩ := List.pairwise_cons.1 hes
    rw [Fields.put]
    by_cases hk : key = k
    · subst hk
      rw [readTable_cons_known hf] at hs
      obtain ⟨s₁, -, hs⟩ := exists_of_bind_eq_ok hs
      rw [if_pos rfl, readTable_cons_known hf]
      -- What stands behind the key was read after another value; it can be read after this one too.
      apply verdict_bind_ok
      intro s₂
      rw [verdict_readTable hsteady, verdict_eq_ok_iff]
      exact ⟨s', hs⟩
    · rw [Fields.lookup_cons_eq, if_neg hk] at hv₀
      have hnlt : ¬ key < k := by
        intro hlt
        have hnone := Fields.lookup_eq_none_of_lt fun e he => String.lt_trans hlt (hfirst e he)
        rw [hnone] at hv₀
        cases hv₀
      rw [if_neg hk, if_neg hnlt]
      cases hg : fields.find? (·.name == k) with
      | none =>
        rw [readTable_cons_unknown hg] at hs
        rw [readTable_cons_unknown hg]
        exact ih hrest hv₀ hs
      | some g =>
        rw [readTable_cons_known hg] at hs
        obtain ⟨s₁, hset, hs⟩ := exists_of_bind_eq_ok hs
        rw [readTable_cons_known hg, hset]
        exact (ih hrest hv₀ hs).trans (hsteady f hmem _ v s₁ s)

end Records

section Settings

theorem Wifi.governs : ∀ slot ∈ Wifi.slots,
    Governs Wifi.fields slot.key slot.value fun p v _ => slot.kind.read p v := by
  simp only [Wifi.slots, List.forall_mem_cons]
  refine ⟨?_, ?_, ?_, ?_, ?_, List.forall_mem_nil _⟩
  all_goals
    constructor
    · decide
    · simp [Wifi.fields, Kind.read, Function.comp_def]

theorem Monitor.governs : ∀ slot ∈ Monitor.slots,
    Governs Monitor.fields slot.key slot.value fun p v _ => slot.kind.read p v := by
  simp only [Monitor.slots, List.forall_mem_cons]
  refine ⟨?_, ?_, ?_, ?_, ?_, ?_, ?_, List.forall_mem_nil _⟩
  all_goals
    constructor
    · decide
    · simp [Monitor.fields, Kind.read, Function.comp_def]

theorem Timing.governs : ∀ slot ∈ Timing.slots,
    Governs Timing.fields slot.key slot.value fun p v _ => slot.kind.read p v := by
  simp only [Timing.slots, List.forall_mem_cons]
  refine ⟨?_, ?_, ?_, ?_, ?_, List.forall_mem_nil _⟩
  all_goals
    constructor
    · decide
    · simp [Timing.fields, Kind.read]

theorem governs_indicator : ∀ slot ∈ indicatorSlots,
    Governs indicatorFields slot.key slot.value fun p v _ => slot.kind.read p v := by
  simp only [indicatorSlots, List.forall_mem_cons]
  refine ⟨?_, List.forall_mem_nil _⟩
  constructor
  · decide
  · simp [indicatorFields, Kind.read, Function.comp_def]

theorem governs_wifi : Governs fields "wifi" wifi (readRecord "Wifi" Wifi.fields) := by
  constructor
  · decide
  · simp [fields]

theorem governs_monitor :
    Governs fields "monitor" monitor (readRecord "Monitor" Monitor.fields) := by
  constructor
  · decide
  · simp [fields]

theorem governs_timing : Governs fields "timing" timing (readRecord "Timing" Timing.fields) := by
  constructor
  · decide
  · simp [fields]

theorem governs_led :
    Governs fields "indicator" led (readRecord "IndicatorSection" indicatorFields) := by
  constructor
  · decide
  · simp [fields]

theorem steady_wifi : ∀ f ∈ Wifi.fields, f.Steady := by
  simp [Wifi.fields, Field.Steady]

theorem steady_monitor : ∀ f ∈ Monitor.fields, f.Steady := by
  simp [Monitor.fields, Field.Steady]

theorem steady_timing : ∀ f ∈ Timing.fields, f.Steady := by
  simp [Timing.fields, Field.Steady]

theorem steady_indicator : ∀ f ∈ indicatorFields, f.Steady := by
  simp [indicatorFields, Field.Steady]

theorem steady_fields : ∀ f ∈ fields, f.Steady := by
  simp only [fields, List.forall_mem_cons, Field.Steady, verdict_bind_put]
  refine ⟨?_, ?_, ?_, ?_, List.forall_mem_nil _⟩ <;> intro p v s s'
  · exact verdict_readRecord steady_wifi
  · exact verdict_readRecord steady_monitor
  · exact verdict_readRecord steady_timing
  · exact verdict_readRecord steady_indicator

/-- How a setting comes out of a value: its group is a record among all settings, and it is a field
of that record. -/
inductive Placed : Setting → Prop
  | within {σ : Type} {group name : String} {part : Settings → σ} {recs : List (Field σ)}
    {slot : Slot σ} (outer : Governs fields group part (readRecord name recs))
    (inner : Governs recs slot.key slot.value fun p v _ => slot.kind.read p v)
    (steady : ∀ f ∈ recs, f.Steady) : Placed (slot.within group part)

theorem placed : ∀ k ∈ all, Placed k := by
  apply forall_mem_all
  · exact fun slot hslot => .within governs_wifi (Wifi.governs slot hslot) steady_wifi
  · exact fun slot hslot => .within governs_monitor (Monitor.governs slot hslot) steady_monitor
  · exact fun slot hslot => .within governs_timing (Timing.governs slot hslot) steady_timing
  · exact fun slot hslot => .within governs_led (governs_indicator slot hslot) steady_indicator

variable {k : Setting} {v v' u u₀ : Value} {o o' p p' : Origin} {es gs : Fields} {s s' : Settings}

theorem Kind.read_eq_ok_iff {kind : Kind} {path : List String} {d : Datum} :
    kind.read path u = .ok d ↔ kind.denotes u = some d := by
  rw [← kind.toOption_read path u]
  cases kind.read path u with
  | error b => exact ⟨nofun, nofun⟩
  | ok d' => exact ⟨fun h => congrArg _ (Except.ok.inj h), fun h => congrArg _ (Option.some.inj h)⟩

theorem Kind.denotes_onto {kind : Kind} {w : Option Value} :
    kind.denotes (v.onto w) = kind.denotes v := by
  cases w with
  | none => rfl
  | some w =>
    cases v with
    | scalar => rfl
    | list => rfl
    | table o es => cases w <;> cases kind <;> rfl

theorem at?_of_group {group key : String} (h : es.lookup group = some (.table o' gs)) :
    (Value.table o es).at? [group, key] = gs.lookup key := by
  rw [Value.at?, h, Option.bind_some, Value.at?]
  exact Option.bind_fun_some _

theorem at?_of_no_group {group key : String} (h : es.lookup group = none) :
    (Value.table o es).at? [group, key] = none := by
  rw [Value.at?, h, Option.bind_none]

/-- A loaded setting is what stands at its place, or what it is from the start. -/
theorem value_of_ofValue (hk : k ∈ all) (hv : v.Ordered) (hroom : v.blocks k.path = false)
    (hs : ofValue v = .ok s) :
    (match v.at? k.path with
      | some u => k.kind.denotes u
      | none => some (k.value standard)) = some (k.value s) := by
  cases v with
  | scalar => nomatch hs
  | list => nomatch hroom
  | table o es =>
    obtain ⟨outer, inner, -⟩ := placed k hk
    rename_i group name part recs slot
    have houter := outer.get_readTable hv.increasing hs
    have hbelow : (es.lookup group).any (Value.blocks [slot.key]) = false := hroom
    rw [show (slot.within group part).path = [group, slot.key] from rfl]
    cases hgroup : es.lookup group with
    | none =>
      rw [hgroup] at houter
      have hpart : part standard = part s := Except.ok.inj houter
      rw [at?_of_no_group hgroup]
      exact congrArg (fun x => some (slot.value x)) hpart
    | some w =>
      rw [hgroup] at houter hbelow
      cases w with
      | scalar => nomatch hbelow
      | list => nomatch hbelow
      | table o' gs =>
        have hinner := inner.get_readTable (hv.of_lookup hgroup).increasing houter
        rw [at?_of_group hgroup]
        cases hkey : gs.lookup slot.key with
        | none =>
          rw [hkey] at hinner
          exact congrArg some (Except.ok.inj hinner)
        | some u =>
          rw [hkey] at hinner
          exact Kind.read_eq_ok_iff.1 hinner

/-- A setting is a function of what stands at its group, be it a table or a list. -/
theorem value_congr (hk : k ∈ all) (hv : (Value.table o es).Ordered)
    (hv' : (Value.table o' gs).Ordered) (hs : ofValue (.table o es) = .ok s)
    (hs' : ofValue (.table o' gs) = .ok s') (h : es.lookup k.group = gs.lookup k.group) :
    k.value s = k.value s' := by
  obtain ⟨outer, -, -⟩ := placed k hk
  rename_i group name part recs slot
  have hpart := outer.get_readTable hv.increasing hs
  rw [show es.lookup group = gs.lookup group from h] at hpart
  have hpart' := outer.get_readTable hv'.increasing hs'
  exact congrArg slot.value (Except.ok.inj (hpart.symm.trans hpart'))

/-- Where settings load, another value in the place of one of them decides alone whether they still
do, and how they fail. -/
theorem verdict_ofValue_put (hk : k ∈ all) (hv : (Value.table o es).Ordered)
    (hgroup : es.lookup k.group = some (.table o' gs)) (hkey : gs.lookup k.key = some u₀)
    (hs : ofValue (.table o es) = .ok s) :
    verdict (ofValue (.table p (es.put k.group (.table p' (gs.put k.key u))))) =
      verdict (k.kind.read k.path u) := by
  obtain ⟨outer, inner, steady⟩ := placed k hk
  rename_i group name part recs slot
  have hgs : gs.Increasing := (hv.of_lookup hgroup).increasing
  have houter := outer.get_readTable hv.increasing hs
  rw [show es.lookup group = _ from hgroup] at houter
  have hrest := outer.verdict_readTable_put (v := .table p' (gs.put slot.key u)) steady_fields
    hv.increasing hgroup hs
  exact hrest.trans (inner.verdict_readTable_put steady hgs hkey houter)

end Settings

section Loading
variable {file : String} {content : Option (List UInt8)} {environment : Environment}
  {v below : Value} {s : Settings}

theorem ordered_fileLayer {content : Option (List UInt8)} (h : fileLayer content = .ok v) :
    v.Ordered := by
  unfold fileLayer at h
  split at h
  · cases h
    exact .table _ List.Pairwise.nil nofun
  · split at h
    · nomatch h
    · split at h
      · nomatch h
      · cases h
        exact Fields.ordered_ofEntries _

theorem load_eq (h : fileLayer content = .ok below) : load file content environment =
    (ofValue (environment.layer.over below)).mapError fun b => .unreadable file (.badValue b) := by
  simp only [load, h]
  cases ofValue (environment.layer.over below) <;> rfl

theorem exists_fileLayer (hs : load file content environment = .ok s) :
    ∃ below, fileLayer content = .ok below := by
  rw [load] at hs
  cases hfile : fileLayer content with
  | error fault => rw [hfile] at hs; nomatch hs
  | ok below => exact ⟨below, rfl⟩

theorem load_eq_ok_iff (h : fileLayer content = .ok below) :
    load file content environment = .ok s ↔ ofValue (environment.layer.over below) = .ok s := by
  rw [load_eq h]
  cases ofValue (environment.layer.over below) with
  | error b => exact ⟨nofun, nofun⟩
  | ok s' => exact ⟨fun h => congrArg _ (Except.ok.inj h), fun h => congrArg _ (Except.ok.inj h)⟩

end Loading

end Liveness.Settings
