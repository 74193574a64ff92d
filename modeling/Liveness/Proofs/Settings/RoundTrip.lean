import Liveness.Proofs.Settings.Disclosure
import Liveness.Proofs.Settings.Reading
import Liveness.Proofs.Settings.Secrets
import Liveness.Proofs.Toml.Document
import Liveness.Settings.Printer

/-! Settings that are shown load back. An absent setting is left out of the document, and what is
left out is what it is from the start, which is absent. -/
namespace Liveness.Settings
open Toml (Written WrittenTable)

section Documents
variable {key group : String} {ns : List (String × Toml.Node)}

theorem lookup_ofEntries : (Fields.ofEntries ns).lookup key = (ns.lookup key).map Value.ofNode := by
  induction ns with
  | nil => rw [Fields.ofEntries]; rfl
  | cons n ns ih =>
    obtain ⟨k, node⟩ := n
    rw [Fields.ofEntries, Fields.ofEntry, Fields.lookup_put, ih, List.lookup_cons]
    by_cases hk : key = k
    · rw [if_pos hk, hk, beq_self_eq_true]
      rfl
    · rw [if_neg hk, beq_false_of_ne hk]

theorem increasing_ofEntries : (Fields.ofEntries ns).Increasing :=
  (Fields.ordered_ofEntries ns).increasing

theorem ofNode_entry (t : WrittenTable) : Value.ofNode t.entry.2 =
    .table .file (Fields.ofEntries (t.pairs.map fun p => (p.1, p.2.node))) := rfl

theorem lookup_pairs (ps : List (String × Written)) :
    (ps.map fun p => (p.1, p.2.node)).lookup key = (ps.lookup key).map Written.node := by
  induction ps with
  | nil => rfl
  | cons p ps ih =>
    obtain ⟨k, v⟩ := p
    rw [List.map_cons, List.lookup_cons, List.lookup_cons]
    by_cases hk : key = k
    · rw [hk, beq_self_eq_true]
      rfl
    · rw [beq_false_of_ne hk]
      exact ih

end Documents

section Telling
variable {σ : Type} {recs : List (Field σ)} {slots : List (Slot σ)} {t : WrittenTable} {x₀ x a : σ}
  {fs : List (Field σ)} {es : Fields} {path : List String} {name : String}

theorem exists_readTable (hes : es.Increasing)
    (h : ∀ f ∈ recs, ∀ v, es.lookup f.name = some v → ∀ p s, ∃ s', f.set p v s = .ok s') :
    ∃ a', readTable recs path es a = .ok a' := by
  induction es generalizing a with
  | nil => exact ⟨a, rfl⟩
  | cons e es ih =>
    obtain ⟨k, v⟩ := e
    obtain ⟨hfirst, hrest⟩ := List.pairwise_cons.1 hes
    have hlater : ∀ f ∈ recs, ∀ u, es.lookup f.name = some u → ∀ p s, ∃ s', f.set p u s = .ok s' := by
      intro f hf u hu
      apply h f hf u
      have hne : f.name ≠ k := by
        intro heq
        rw [heq, Fields.lookup_eq_none_of_lt hfirst] at hu
        nomatch hu
      rwa [Fields.lookup_cons_eq, if_neg hne]
    cases hfind : recs.find? (·.name == k) with
    | none =>
      rw [readTable_cons_unknown hfind]
      exact ih hrest hlater
    | some f =>
      obtain ⟨hmem, hname⟩ := find?_eq_some hfind
      have hvalue : ((k, v) :: es).lookup f.name = some v := by
        rw [Fields.lookup_cons_eq, if_pos hname]
      obtain ⟨a₁, ha₁⟩ := h f hmem v hvalue (path ++ [k]) a
      rw [readTable_cons_known hfind, ha₁]
      exact ih hrest hlater

/-- A table that tells a record: its settings are what the table says, or what they are from the
start, where the table says nothing. -/
def Tells (t : WrittenTable) (slots : List (Slot σ)) (x₀ x : σ) : Prop :=
  ∀ slot ∈ slots, (match t.pairs.lookup slot.key with
    | some v => slot.kind.denotes (.ofNode v.node)
    | none => some (slot.value x₀)) = some (slot.value x)

theorem Tells.exists_readRecord (h : Tells t slots x₀ x)
    (hgoverns : ∀ slot ∈ slots, Governs recs slot.key slot.value fun p v _ => slot.kind.read p v)
    (hkeys : recs.map Field.name = slots.map Slot.key) :
    ∃ a', readRecord name recs path (.ofNode t.entry.2) a = .ok a' := by
  rw [ofNode_entry]
  apply exists_readTable increasing_ofEntries
  intro f hf v hv p s
  obtain ⟨slot, hslot, hkey⟩ := List.mem_map.1 (hkeys ▸ List.mem_map_of_mem hf)
  rw [lookup_ofEntries, lookup_pairs, Option.map_map] at hv
  obtain ⟨w, hw, rfl⟩ := Option.map_eq_some_iff.1 hv
  have htells := h slot hslot
  rw [hkey, hw] at htells
  have hread : slot.kind.read p (.ofNode w.node) = .ok (slot.value x) :=
    Kind.read_eq_ok_iff.2 htells
  have hset := (hgoverns slot hslot).sets f hf p (.ofNode w.node) s
  rw [if_pos hkey.symm, hread] at hset
  have hverdict := verdict_map (f.set p (.ofNode w.node) s) slot.value
  rw [hset] at hverdict
  exact verdict_eq_ok_iff.1 hverdict.symm

end Telling

section Records
variable {key k : String} {o : Option String}

theorem lookup_optional :
    (optional k o).lookup key = if key = k then o.map Written.text else none := by
  cases o with
  | none => simp [optional]
  | some t =>
    rw [optional, List.lookup_cons]
    by_cases hk : key = k
    · rw [hk, beq_self_eq_true, if_pos rfl]
      rfl
    · rw [beq_false_of_ne hk, if_neg hk]
      rfl

theorem denotes_integer (n : UInt64) :
    Kind.natural.denotes (.ofNode (Written.node (.integer n.toNat))) = some (.natural n) := by
  have hpos : ¬ (n.toNat : Int) < 0 := by omega
  simp [Written.node, Value.ofNode, Kind.denotes, hpos]

theorem denotes_backend (b : Backend) :
    Kind.backend.denotes (.ofNode (Written.node (.text b.name))) = some (.backend b) := by
  cases b <;> decide

theorem Wifi.tells (w : Wifi) : Tells w.written Wifi.slots .standard w := by
  simp only [Tells, Wifi.slots, List.forall_mem_cons, Wifi.written, List.lookup_append,
    lookup_optional]
  refine ⟨?_, ?_, ?_, ?_, ?_, List.forall_mem_nil _⟩
  · exact denotes_backend w.backend
  · rfl
  · cases w.secret <;> rfl
  · cases w.secretVariable <;> rfl
  · cases w.interface <;> rfl

theorem Monitor.tells (m : Monitor) : Tells m.written Monitor.slots .standard m := by
  simp only [Tells, Monitor.slots, List.forall_mem_cons, Monitor.written, List.lookup_append,
    lookup_optional]
  refine ⟨?_, ?_, ?_, ?_, ?_, ?_, ?_, List.forall_mem_nil _⟩
  · cases m.url <;> rfl
  · rfl
  · rfl
  · cases m.token <;> rfl
  · cases m.tokenVariable <;> rfl
  · rfl
  · exact denotes_integer m.timeout

theorem Timing.tells (t : Timing) : Tells t.written Timing.slots .standard t := by
  simp only [Tells, Timing.slots, List.forall_mem_cons, Timing.written]
  refine ⟨?_, ?_, ?_, ?_, ?_, List.forall_mem_nil _⟩
  · exact denotes_integer t.activationError
  · exact denotes_integer t.associationFailed
  · exact denotes_integer t.probeFailed
  · exact denotes_integer t.probeInterval
  · exact denotes_integer t.pollInterval

theorem tells_led (led : Option String) :
    Tells ⟨"indicator", optional "led" led⟩ indicatorSlots none led := by
  simp only [Tells, indicatorSlots, List.forall_mem_cons, lookup_optional]
  refine ⟨?_, List.forall_mem_nil _⟩
  cases led <;> rfl

end Records

section Tables
open Toml (Bare)
variable {s : Settings} {key : String}

theorem map_fst_optional (key : String) (o : Option String) :
    ((optional key o).map Prod.fst).Sublist [key] := by
  cases o with
  | none => exact List.nil_sublist _
  | some t => exact List.Sublist.refl _

theorem fits_optional {o : Option String} : ∀ p ∈ optional key o, p.2.Fits := by
  cases o with
  | none => exact List.forall_mem_nil _
  | some t =>
    intro p hp
    obtain rfl := List.mem_singleton.1 hp
    exact trivial

/-- Settings that can be shown: no number is larger than a document can hold. -/
def Writable (s : Settings) : Prop := ∀ n ∈ s.numbers, n.toNat ≤ maxInteger

theorem plain_of_keys {t : WrittenTable} {keys : List String} (hname : Bare t.name)
    (hkeys : (t.pairs.map Prod.fst).Sublist keys) (hnodup : keys.Nodup)
    (hbare : ∀ key ∈ keys, Bare key) (hfits : ∀ p ∈ t.pairs, p.2.Fits) : t.Plain := by
  refine ⟨hname, fun p hp => ⟨?_, hfits p hp⟩, hkeys.nodup hnodup⟩
  exact hbare p.1 (hkeys.subset (List.mem_map_of_mem hp))

theorem Wifi.plain_written (w : Wifi) : w.written.Plain := by
  have hkeys : (w.written.pairs.map Prod.fst).Sublist (Wifi.slots.map Slot.key) := by
    have hsplit : Wifi.slots.map Slot.key =
        ["backend", "ssid"] ++ ["psk"] ++ ["psk_env"] ++ ["interface"] := rfl
    rw [hsplit, written, List.map_append, List.map_append, List.map_append]
    apply List.Sublist.append _ (map_fst_optional _ _)
    apply List.Sublist.append _ (map_fst_optional _ _)
    exact List.Sublist.append (List.Sublist.refl _) (map_fst_optional _ _)
  apply plain_of_keys _ hkeys (by decide) (by decide +kernel)
  · simp only [written, List.forall_mem_append, List.forall_mem_cons]
    exact ⟨⟨⟨⟨trivial, trivial, List.forall_mem_nil _⟩, fits_optional⟩, fits_optional⟩,
      fits_optional⟩
  · show Bare "wifi"
    decide +kernel

theorem fits_integer {n : UInt64} (h : n.toNat ≤ maxInteger) :
    (Written.integer n.toNat).Fits := by
  rw [maxInteger] at h
  show n.toNat < 0x8000000000000000
  omega

theorem Monitor.plain_written {m : Monitor} (h : m.timeout.toNat ≤ maxInteger) :
    m.written.Plain := by
  have hkeys : (m.written.pairs.map Prod.fst).Sublist (Monitor.slots.map Slot.key) := by
    have hsplit : Monitor.slots.map Slot.key =
        ["url"] ++ ["path", "method"] ++ ["token"] ++ ["token_env"] ++ ["insecure", "timeout"] := rfl
    rw [hsplit, written, List.map_append, List.map_append, List.map_append, List.map_append]
    apply List.Sublist.append _ (List.Sublist.refl _)
    apply List.Sublist.append _ (map_fst_optional _ _)
    apply List.Sublist.append _ (map_fst_optional _ _)
    exact List.Sublist.append (map_fst_optional _ _) (List.Sublist.refl _)
  apply plain_of_keys _ hkeys (by decide) (by decide +kernel)
  · simp only [written, List.forall_mem_append, List.forall_mem_cons]
    exact ⟨⟨⟨⟨fits_optional, trivial, trivial, List.forall_mem_nil _⟩, fits_optional⟩,
      fits_optional⟩, trivial, fits_integer h, List.forall_mem_nil _⟩
  · show Bare "monitor"
    decide +kernel

theorem Timing.plain_written {t : Timing} (h : ∀ n ∈ [t.activationError, t.associationFailed,
    t.probeFailed, t.probeInterval, t.pollInterval], n.toNat ≤ maxInteger) : t.written.Plain := by
  have hkeys : (t.written.pairs.map Prod.fst).Sublist (Timing.slots.map Slot.key) :=
    List.Sublist.refl _
  apply plain_of_keys _ hkeys (by decide) (by decide +kernel)
  · simp only [List.forall_mem_cons] at h
    simp only [written, List.forall_mem_cons]
    exact ⟨fits_integer h.1, fits_integer h.2.1, fits_integer h.2.2.1, fits_integer h.2.2.2.1,
      fits_integer h.2.2.2.2.1, List.forall_mem_nil _⟩
  · show Bare "timing"
    decide +kernel

theorem plain_written (h : s.Writable) : ∀ t ∈ s.written, t.Plain := by
  simp only [Writable, numbers, List.forall_mem_cons] at h
  simp only [written, List.forall_mem_cons]
  refine ⟨s.wifi.plain_written, Monitor.plain_written h.1, Timing.plain_written ?_, ?_,
    List.forall_mem_nil _⟩
  · simpa only [List.forall_mem_cons] using h.2
  · have hkeys : ((optional "led" s.led).map Prod.fst).Sublist (indicatorSlots.map Slot.key) :=
      map_fst_optional _ _
    apply plain_of_keys _ hkeys (by decide) (by decide +kernel) fits_optional
    show Bare "indicator"
    decide +kernel

theorem nodup_names : (s.written.map WrittenTable.name).Nodup := by
  have hnames : s.written.map WrittenTable.name = ["wifi", "monitor", "timing", "indicator"] := rfl
  rw [hnames]
  decide

theorem lookup_written :
    (s.written.map WrittenTable.entry).lookup "wifi" = some s.wifi.written.entry.2 ∧
    (s.written.map WrittenTable.entry).lookup "monitor" = some s.monitor.written.entry.2 ∧
    (s.written.map WrittenTable.entry).lookup "timing" = some s.timing.written.entry.2 ∧
    (s.written.map WrittenTable.entry).lookup "indicator" =
      some (WrittenTable.mk "indicator" (optional "led" s.led)).entry.2 :=
  ⟨rfl, rfl, rfl, rfl⟩

end Tables

section Reading
variable {σ : Type} {s s' : Settings} {part : Settings → σ} {slots : List (Slot σ)} {slot : Slot σ}
  {t : WrittenTable} {group : String}

theorem ext_of_value (h : ∀ k ∈ all, k.value s = k.value s') : s = s' := by
  simp only [all, List.forall_mem_append, List.forall_mem_map, Slot.within] at h
  obtain ⟨⟨⟨hwifi, hmonitor⟩, htiming⟩, hled⟩ := h
  obtain ⟨⟨⟩, ⟨⟩, ⟨⟩, led⟩ := s
  obtain ⟨⟨⟩, ⟨⟩, ⟨⟩, led'⟩ := s'
  simp_all [Wifi.slots, Monitor.slots, Timing.slots, indicatorSlots]

def shownLayer (s : Settings) : Value :=
  .table .file (Fields.ofEntries (s.written.map WrittenTable.entry))

theorem ordered_shownLayer : s.shownLayer.Ordered :=
  Fields.ordered_ofEntries _

theorem given?_shownLayer {key : String}
    (ht : (s.written.map WrittenTable.entry).lookup group = some t.entry.2) :
    s.shownLayer.given? group key = (t.pairs.lookup key).map fun v => .ofNode v.node := by
  rw [Value.given?, shownLayer, at?_group, lookup_ofEntries, ht, Option.map_some, ofNode_entry]
  dsimp only
  rw [lookup_ofEntries, lookup_pairs, Option.map_map]
  rfl

theorem Tells.value_eq (h : Tells t slots (part standard) (part s)) (hslot : slot ∈ slots)
    (hall : slot.within group part ∈ all)
    (ht : (s.written.map WrittenTable.entry).lookup group = some t.entry.2)
    (hs' : ofValue s.shownLayer = .ok s') : slot.value (part s') = slot.value (part s) := by
  have hvalue := value_of_given hall ordered_shownLayer hs'
  rw [Slot.within, ← shownLayer, given?_shownLayer ht] at hvalue
  have htells := h slot hslot
  cases hlookup : t.pairs.lookup slot.key with
  | none =>
    rw [hlookup] at htells hvalue
    exact Option.some.inj (hvalue.symm.trans htells)
  | some v =>
    rw [hlookup] at htells hvalue
    exact Option.some.inj (hvalue.symm.trans htells)

theorem Tells.exists_set {τ : Type} {recs : List (Field τ)} {name : String} {x₀ x : τ}
    {slots : List (Slot τ)} {get : σ → τ} {put : σ → τ → σ} (h : Tells t slots x₀ x)
    (hgoverns : ∀ slot ∈ slots, Governs recs slot.key slot.value fun p v _ => slot.kind.read p v)
    (hkeys : recs.map Field.name = slots.map Slot.key)
    (ht : (s.written.map WrittenTable.entry).lookup group = some t.entry.2) :
    ∀ v, ((s.written.map WrittenTable.entry).lookup group).map Value.ofNode = some v → ∀ p a, ∃ a',
      (readRecord name recs p v (get a) >>= fun y => .ok (put a y) : Except BadValue σ) = .ok a' := by
  intro v hv p a
  rw [ht, Option.map_some] at hv
  obtain rfl := Option.some.inj hv
  obtain ⟨y, hy⟩ := h.exists_readRecord hgoverns hkeys
  rw [hy]
  exact ⟨put a y, rfl⟩

/-- What is read from a document is what it was written for. -/
theorem ofValue_shownLayer (s : Settings) : ofValue s.shownLayer = .ok s := by
  obtain ⟨hwifi, hmonitor, htiming, hled⟩ := @lookup_written s
  obtain ⟨s', hs'⟩ : ∃ s', ofValue s.shownLayer = .ok s' := by
    apply exists_readTable increasing_ofEntries
    simp only [fields, List.forall_mem_cons, lookup_ofEntries]
    refine ⟨?_, ?_, ?_, ?_, List.forall_mem_nil _⟩
    · exact s.wifi.tells.exists_set Wifi.governs rfl hwifi
    · exact s.monitor.tells.exists_set Monitor.governs rfl hmonitor
    · exact s.timing.tells.exists_set Timing.governs rfl htiming
    · exact (tells_led s.led).exists_set governs_indicator rfl hled
  have hvalues : ∀ k ∈ all, k ∈ all → k.value s' = k.value s := by
    apply forall_mem_all
    · exact fun slot hslot hk => Tells.value_eq s.wifi.tells hslot hk hwifi hs'
    · exact fun slot hslot hk => Tells.value_eq s.monitor.tells hslot hk hmonitor hs'
    · exact fun slot hslot hk => Tells.value_eq s.timing.tells hslot hk htiming hs'
    · exact fun slot hslot hk => Tells.value_eq (tells_led s.led) hslot hk hled hs'
  rw [hs', ext_of_value fun k hk => hvalues k hk hk]

end Reading

section Loading
open Environment
variable {s : Settings} {environment : Environment}

theorem layer_of_unnamed (h : ∀ v ∈ environment, path? v.1 = none) :
    environment.layer = .table .environment [] := by
  have hnamed : environment.named = [] := by
    rw [named, List.filterMap_eq_nil_iff]
    exact fun v hv => Option.map_eq_none_iff.2 (h v hv)
  exact layer_of_sorted hnamed .nil

theorem fileLayer_writeDocument (h : s.Writable) :
    fileLayer (some (Text.Utf8.encode (Toml.writeDocument s.written))) = .ok s.shownLayer := by
  have hread : Toml.read? (Toml.writeDocument s.written) =
      some (s.written.map WrittenTable.entry) :=
    Toml.read?_writeDocument (plain_written h) nodup_names
  rw [fileLayer]
  simp only [Text.Utf8.decode?_encode, hread]
  rfl

/-- The document of settings loads as these settings, where no variable stands for one. -/
theorem load_writeDocument (h : s.Writable) (henvironment : ∀ v ∈ environment, path? v.1 = none)
    (file : String) : load file (some (Text.Utf8.encode (Toml.writeDocument s.written))) environment =
      .ok s := by
  have hover : ofValue (environment.layer.over s.shownLayer) = ofValue s.shownLayer := by
    rw [layer_of_unnamed henvironment, shownLayer, Value.over, Fields.over]
    rfl
  rw [load, fileLayer_writeDocument h]
  simp only [hover, ofValue_shownLayer]

theorem render_eq : s.render =
    if ∃ n ∈ s.numbers, maxInteger < n.toNat then .error .notWritable
    else .ok (Toml.writeDocument s.redacted.written) := by
  simp only [render, List.any_eq_true, decide_eq_true_eq]

theorem render_eq_ok (h : s.Writable) : s.render = .ok (Toml.writeDocument s.redacted.written) := by
  rw [render_eq, if_neg]
  rintro ⟨n, hn, hlarge⟩
  exact absurd (h n hn) (Nat.not_le.2 hlarge)

theorem value_redacted {k : Setting} (hk : k ∈ all) (hopen : k.path ∉ secretPaths) :
    k.value s.redacted = k.value s := by
  revert k
  apply forall_mem_all
  all_goals
    simp [Wifi.slots, Monitor.slots, Timing.slots, indicatorSlots, Slot.within, Setting.path,
      secretPaths, redacted]

/-- Settings are shown where no number among them is too large for a document, and what is shown
loads back where no variable stands for a setting: as they are, with a placeholder for each of the
secrets that is set. -/
theorem render_loads (s : Settings) :
    ((∀ n ∈ s.numbers, n.toNat ≤ 2 ^ 63 - 1) → ∃ text, s.render = .ok text ∧
      ∀ file environment, (∀ v ∈ environment, path? v.1 = none) →
        load file (some (Text.Utf8.encode text)) environment = .ok s.redacted) ∧
    ((∃ n ∈ s.numbers, 2 ^ 63 - 1 < n.toNat) → s.render = .error .notWritable) ∧
    (∀ k ∈ all, k.path ∉ secretPaths → k.value s.redacted = k.value s) ∧
    s.redacted.wifi.secret = s.wifi.secret.map (fun _ => placeholder) ∧
    s.redacted.monitor.token = s.monitor.token.map (fun _ => placeholder) := by
  refine ⟨fun h => ⟨_, render_eq_ok h, ?_⟩, ?_, fun k hk => value_redacted hk, rfl, rfl⟩
  · have hshown : s.redacted.Writable := h
    intro file environment henvironment
    exact load_writeDocument hshown henvironment file
  · intro hlarge
    rw [render_eq]
    exact if_pos hlarge

/-- A text of every kind of character survives, and a secret does not. -/
theorem render_loads_quoted :
    let told : Settings := ⟨⟨.fixed, "a\"\'\'\'\\\n\t\x01é", some "secret", none, none⟩,
      { Monitor.standard with url := some "", timeout := 0x7FFFFFFFFFFFFFFF }, .standard, some " "⟩
    let large : Settings :=
      { standard with timing := { Timing.standard with probeFailed := 0x8000000000000000 } }
    (∃ text, told.render = .ok text ∧
      load "upbeat.toml" (some (Text.Utf8.encode text)) [("HOME", "/root")] =
        .ok { told with wifi := { told.wifi with secret := some "********" } }) ∧
    large.render = .error .notWritable ∧
    Setting.value ⟨"wifi", "ssid", .text, fun s => .text (some s.wifi.ssid)⟩ told.redacted =
      .text (some "a\"\'\'\'\\\n\t\x01é") := by
  intro told large
  obtain ⟨hsmall, -, hopen, -⟩ := render_loads told
  have hfit : told.numbers.all (·.toNat ≤ 2 ^ 63 - 1) = true := by decide
  obtain ⟨text, htext, hload⟩ := hsmall fun n hn => of_decide_eq_true (List.all_eq_true.1 hfit n hn)
  refine ⟨⟨text, htext, hload _ _ (by decide)⟩, ?_, ?_⟩
  · exact (render_loads large).2.1 ⟨0x8000000000000000, by decide, by decide⟩
  · exact hopen _ (by simp [all, Wifi.slots, Slot.within]) (by decide)

end Loading
end Liveness.Settings
