import Liveness.CommandLine.Execution
import Liveness.Proofs.Settings.OneProbe
import Liveness.Proofs.Settings.Reading
import Liveness.Proofs.Settings.Variables

/-! Which layer a secret comes from. It is given as a text or by the name of a variable, under a key
each. The layers are merged key by key, and the name of a variable counts before a text; so a layer
that gives nothing but a text does not keep a lower one from naming a variable. -/
namespace Liveness.Settings

section Giving
variable {σ β : Type} {recs : List (Field σ)} {group key : String} {get : σ → β}
  {read : List String → Value → β → Except BadValue β} {path : List String} {o : Origin}
  {es : Fields} {v w : Value} {k : Setting} {s : Settings}

def keys (group : String) : List String := (all.filter (·.group = group)).map Setting.key

/-- What a value gives for a key of a group, which is a table, or a list in the order of the keys. -/
def Value.given? (v : Value) (group key : String) : Option Value :=
  match v.at? [group] with
  | some (.table _ es) => es.lookup key
  | some (.list _ items) => ((keys group).zip items).lookup key
  | _ => none

/-- What a lower value gives below an upper one. A table lets a table through, key by key; of a group in
the place of which the upper value holds anything else, nothing is left. -/
def Value.givenBelow? (upper lower : Value) (group key : String) : Option Value :=
  match upper.at? [group], lower.at? [group] with
  | none, _ => lower.given? group key
  | some (.table _ _), some (.table _ es) => es.lookup key
  | _, _ => none

theorem at?_group : (Value.table o es).at? [group] = es.lookup group := Option.bind_fun_some _

theorem at?_group_over (hv : (Value.table o es).Ordered) :
    ((Value.table o es).over w).at? [group] = match es.lookup group with
      | some u => some (u.onto (w.at? [group]))
      | none => w.at? [group] := by
  have hroom : (Value.table o es).blocks [group] = false := by
    rw [Value.blocks]
    cases es.lookup group <;> rfl
  rw [Value.at?_over hv, at?_group, hroom]
  rfl

/-- Of two layers, the upper one decides about each key that it gives. -/
theorem given?_over (hv : (Value.table o es).Ordered) :
    ((Value.table o es).over w).given? group key =
      match (Value.table o es).given? group key with
      | some u => some (u.onto ((Value.table o es).givenBelow? w group key))
      | none => (Value.table o es).givenBelow? w group key := by
  unfold Value.given? Value.givenBelow?
  rw [at?_group_over hv, at?_group]
  cases hgroup : es.lookup group with
  | none => rfl
  | some u =>
    cases u with
    | scalar p x => cases w.at? [group] <;> rfl
    | list p items =>
      have honto : (Value.list p items).onto (w.at? [group]) = .list p items := by
        cases w.at? [group] <;> rfl
      simp only [honto]
      cases ((keys group).zip items).lookup key <;> cases w.at? [group] <;> rfl
    | table p fs =>
      have hfs := (hv.of_lookup hgroup).increasing
      cases hbelow : w.at? [group] with
      | none => cases hkey : fs.lookup key <;> simp [Value.onto, hkey]
      | some below =>
        cases below with
        | scalar q x => cases hkey : fs.lookup key <;> simp [Value.onto, Value.over, hkey]
        | list q items => cases hkey : fs.lookup key <;> simp [Value.onto, Value.over, hkey]
        | table q gs =>
          simp only [Value.onto, Value.over]
          rw [Fields.lookup_over hfs]
          cases fs.lookup key <;> rfl

/-- A list sets what it reaches, as what stands there reads. -/
theorem Governs.get_readList {short : Nat → BadValue} {index : Nat} {items : List Value} {a a' : σ}
    (h : Governs recs key get read) (hnames : (recs.map Field.name).Nodup)
    (ha : readList path short index recs items a = .ok a') :
    ∃ p, (match ((recs.map Field.name).zip items).lookup key with
      | some v => read p v (get a)
      | none => .ok (get a)) = .ok (get a') := by
  have hsets := h.sets
  clear h
  induction recs generalizing index items a with
  | nil =>
    cases ha
    exact ⟨path, rfl⟩
  | cons f recs ih =>
    obtain ⟨hfirst, hnames⟩ := List.nodup_cons.1 hnames
    have hrest : ∀ g ∈ recs, ∀ p v a, (g.set p v a).map get =
        if g.name = key then read p v (get a) else (g.set p v a).map fun _ => get a :=
      fun g hg => hsets g (List.mem_cons_of_mem f hg)
    cases items with
    | nil =>
      rw [readList] at ha
      split_ifs at ha
      simpa using ih hnames ha hrest
    | cons v items =>
      rw [readList] at ha
      obtain ⟨a₁, hset, ha⟩ := exists_of_bind_eq_ok ha
      obtain ⟨p, hp⟩ := ih hnames ha hrest
      have hf := hsets f List.mem_cons_self (path ++ [toString index]) v a
      rw [hset] at hf
      rw [List.map_cons, List.zip_cons_cons]
      by_cases hkey : f.name = key
      · -- No later field has this name, so nothing undoes what is set here.
        have hlater : ((recs.map Field.name).zip items).lookup key = none := by
          rw [List.lookup_eq_none_iff]
          intro e he
          have hmem := (List.of_mem_zip he).1
          have hne : key ≠ e.1 := fun heq => hfirst (hkey.trans heq ▸ hmem)
          simpa using hne
        rw [hlater] at hp
        rw [if_pos hkey] at hf
        rw [hkey, List.lookup_cons_self]
        exact ⟨_, hf.symm.trans hp⟩
      · have hne : key ≠ f.name := Ne.symm hkey
        rw [if_neg hkey] at hf
        have hsame : get a₁ = get a := Except.ok.inj hf
        rw [List.lookup_cons, beq_false_of_ne hne, ← hsame]
        exact ⟨p, hp⟩

/-- A setting of a group is what is given for its key, be the group a table or a list. -/
theorem value_of_given_within {name : String} {part : Settings → σ} {slot : Slot σ}
    (outer : Governs fields group part (readRecord name recs))
    (inner : Governs recs slot.key slot.value fun p v _ => slot.kind.read p v)
    (hnames : (recs.map Field.name).Nodup) (hkeys : recs.map Field.name = keys group)
    (hv : (Value.table o es).Ordered) (hs : ofValue (.table o es) = .ok s) :
    (match (Value.table o es).given? group slot.key with
      | some u => slot.kind.denotes u
      | none => some (slot.value (part standard))) = some (slot.value (part s)) := by
  have houter := outer.get_readTable hv.increasing hs
  rw [Value.given?, at?_group]
  cases hgroup : es.lookup group with
  | none =>
    rw [hgroup] at houter
    exact congrArg (fun x => some (slot.value x)) (Except.ok.inj houter)
  | some u =>
    rw [hgroup] at houter
    cases u with
    | scalar => nomatch houter
    | list p items =>
      obtain ⟨path, hread⟩ := inner.get_readList hnames houter
      rw [hkeys] at hread
      dsimp only
      cases hitem : ((keys group).zip items).lookup slot.key with
      | none =>
        rw [hitem] at hread
        exact congrArg some (Except.ok.inj hread)
      | some u =>
        rw [hitem] at hread
        exact Kind.read_eq_ok_iff.1 hread
    | table p fs =>
      have hinner := inner.get_readTable (hv.of_lookup hgroup).increasing houter
      dsimp only
      cases hitem : fs.lookup slot.key with
      | none =>
        rw [hitem] at hinner
        exact congrArg some (Except.ok.inj hinner)
      | some u =>
        rw [hitem] at hinner
        exact Kind.read_eq_ok_iff.1 hinner

theorem value_of_given (hk : k ∈ all) (hv : (Value.table o es).Ordered)
    (hs : ofValue (.table o es) = .ok s) :
    (match (Value.table o es).given? k.group k.key with
      | some u => k.kind.denotes u
      | none => some (k.value standard)) = some (k.value s) := by
  revert k
  apply forall_mem_all
  · intro slot hslot
    exact value_of_given_within governs_wifi (Wifi.governs slot hslot) (by decide) rfl hv hs
  · intro slot hslot
    exact value_of_given_within governs_monitor (Monitor.governs slot hslot) (by decide) rfl hv hs
  · intro slot hslot
    exact value_of_given_within governs_timing (Timing.governs slot hslot) (by decide) rfl hv hs
  · intro slot hslot
    exact value_of_given_within governs_led (governs_indicator slot hslot) (by decide) rfl hv hs

def Value.asText? (v : Value) : Option String := (v.text []).toOption

theorem denotes_text : Kind.text.denotes v = v.asText?.map fun t => .text (some t) := by
  rw [← Kind.toOption_read .text [], Value.asText?, Kind.read]
  cases v.text [] <;> rfl

/-- A setting that is a text, and absent from the start, is what the upper of two layers gives for
it, or else the lower one. -/
theorem value_of_two (hk : k ∈ all) (hkind : k.kind = .text) (hstandard : k.value standard = .text none)
    (hv : (Value.table o es).Ordered) (hw : w.Ordered)
    (hs : ofValue ((Value.table o es).over w) = .ok s) :
    k.value s = .text (((Value.table o es).given? k.group k.key).bind Value.asText? <|>
      ((Value.table o es).givenBelow? w k.group k.key).bind Value.asText?) := by
  obtain ⟨fs, hover⟩ : ∃ fs, (Value.table o es).over w = .table o fs := by
    cases w with
    | scalar => exact ⟨es, rfl⟩
    | list => exact ⟨es, rfl⟩
    | table => exact ⟨_, rfl⟩
  have hmerged := hv.over hw
  rw [hover] at hmerged hs
  have hvalue := value_of_given hk hmerged hs
  rw [← hover, given?_over hv, hkind, hstandard] at hvalue
  cases hupper : (Value.table o es).given? k.group k.key with
  | some u =>
    rw [hupper] at hvalue
    simp only [Kind.denotes_onto, denotes_text] at hvalue
    obtain ⟨t, ht, hvalue⟩ := Option.map_eq_some_iff.1 hvalue
    rw [Option.bind_some, ht, ← hvalue]
    rfl
  | none =>
    rw [hupper] at hvalue
    cases hlower : (Value.table o es).givenBelow? w k.group k.key with
    | some u =>
      rw [hlower] at hvalue
      simp only [denotes_text] at hvalue
      obtain ⟨t, ht, hvalue⟩ := Option.map_eq_some_iff.1 hvalue
      rw [Option.bind_some, ht, ← hvalue]
      rfl
    | none =>
      rw [hlower] at hvalue
      exact (Option.some.inj hvalue).symm

end Giving

section Variables
open Environment
variable {environment : Environment} {name : String} {path : List String}

theorem Environment.path_ne_nil (h : path? name = some path) : path ≠ [] := by
  unfold path? at h
  dsimp only at h
  split_ifs at h
  obtain rfl := Option.some.inj h
  intro hnil
  exact Text.splitAt_ne_nil (List.map_eq_nil_iff.1 hnil)

theorem Environment.exists_table_stack {vs : List (String × List String × String)} {es : Fields}
    (h : ∀ v ∈ vs, v.2.1 ≠ []) :
    ∃ fs, stack (.table .environment es) vs = .table .environment fs := by
  induction vs generalizing es with
  | nil => exact ⟨es, rfl⟩
  | cons v vs ih =>
    obtain ⟨key, rest, hpath⟩ := List.exists_cons_of_ne_nil (h v List.mem_cons_self)
    have hrest : ∀ u ∈ vs, u.2.1 ≠ [] := fun u hu => h u (List.mem_cons_of_mem v hu)
    have hnest : (nest (valueOf v.2.2) v.2.1).over (.table .environment es) =
        .table .environment (Fields.over [(key, nest (valueOf v.2.2) rest)] es) := by
      rw [hpath, nest, Value.over]
    obtain ⟨fs, hfs⟩ := @ih (Fields.over [(key, nest (valueOf v.2.2) rest)] es) hrest
    refine ⟨fs, ?_⟩
    rw [← hfs, ← hnest]
    rfl

theorem Environment.exists_table_layer (environment : Environment) :
    ∃ es, environment.layer = .table .environment es := by
  rw [layer_eq]
  apply exists_table_stack
  intro v hv
  exact path_ne_nil (mem_named.1 (List.mem_mergeSort.1 hv)).2

end Variables

/-- What a layer gives of a secret: its text, the name of a variable that holds it, or both. -/
structure Secret where
  plain : Option String
  named : Option String
deriving DecidableEq, Repr

namespace Secret
variable {environment : Environment} {field : String} {upper lower : Secret}

/-- What is given of a secret under a key, where the variable is named under a key of its own. -/
def of (given : String → Option Value) (key : String) : Secret :=
  ⟨(given key).bind Value.asText?, (given (key ++ "_env")).bind Value.asText?⟩

def isGiven (x : Secret) : Bool := x.plain.isSome || x.named.isSome

def resolved (environment : Environment) (field : String) (x : Secret) :
    Except SettingsError (Option String) :=
  resolve environment field x.plain x.named

/-- The uppermost of two layers that gives the secret at all. -/
def orElse (upper lower : Secret) : Secret := if upper.isGiven then upper else lower

/-- A text is all that the upper layer gives, and the lower one names a variable. -/
def overruled (upper lower : Secret) : Bool :=
  upper.plain.isSome && upper.named.isNone && lower.named.isSome

/-- What two layers come to: the uppermost that gives the secret, if the lower one does not overrule
it. -/
def effective (upper lower : Secret) : Secret :=
  if upper.overruled lower then lower else upper.orElse lower

/-- Two layers merged key by key. -/
def above (upper lower : Secret) : Secret :=
  ⟨upper.plain <|> lower.plain, upper.named <|> lower.named⟩

theorem resolved_of_named {x y : Secret} {name : String} (hx : x.named = some name)
    (hy : y.named = some name) : x.resolved environment field = y.resolved environment field := by
  rw [resolved, resolved, hx, hy]
  rfl

/-- Merged key by key, a secret is that of the uppermost layer that gives it, or a lower one has
named a variable over its text. -/
theorem resolved_above : (upper.above lower).resolved environment field =
    (upper.effective lower).resolved environment field := by
  obtain ⟨plain, named⟩ := upper
  cases named with
  | some name =>
    have hupper : effective ⟨plain, some name⟩ lower = ⟨plain, some name⟩ := by
      simp [effective, overruled, orElse, isGiven]
    rw [hupper]
    exact resolved_of_named rfl rfl
  | none =>
    cases plain with
    | none => simp [above, effective, overruled, orElse, isGiven]
    | some text =>
      cases hname : lower.named with
      | some name =>
        have hlower : effective ⟨some text, none⟩ lower = lower := by
          simp [effective, overruled, hname]
        rw [hlower]
        exact resolved_of_named hname hname
      | none => simp [above, effective, overruled, orElse, isGiven, hname]

end Secret

section Loading
open CommandLine (Given Surroundings)
variable {environment : Environment} {below : Value} {s : Settings} {file : String}
  {content : Option (List UInt8)}

theorem text_of_load {k : Setting} (hk : k ∈ all) (hkind : k.kind = .text)
    (hstandard : k.value standard = .text none) (hfile : fileLayer content = .ok below)
    (hs : load file content environment = .ok s) :
    k.value s = .text ((environment.layer.given? k.group k.key).bind Value.asText? <|>
      (environment.layer.givenBelow? below k.group k.key).bind Value.asText?) := by
  have hof := (load_eq_ok_iff hfile).1 hs
  have hordered : environment.layer.Ordered := Environment.ordered_layer
  obtain ⟨es, hlayer⟩ := environment.exists_table_layer
  rw [hlayer] at hof hordered ⊢
  exact value_of_two hk hkind hstandard hordered (ordered_fileLayer hfile) hof

/-- What is loaded for a secret of a record, and for the variable that is named for it. -/
theorem secret_of_load {σ : Type} {group key : String} {part : Settings → σ}
    {plain named : σ → Option String}
    (hplain : Slot.within group part ⟨key, .text, fun x => .text (plain x)⟩ ∈ all)
    (hnamed : Slot.within group part ⟨key ++ "_env", .text, fun x => .text (named x)⟩ ∈ all)
    (hstart : plain (part standard) = none ∧ named (part standard) = none)
    (hfile : fileLayer content = .ok below) (hs : load file content environment = .ok s) :
    Secret.mk (plain (part s)) (named (part s)) =
      (Secret.of (environment.layer.given? group) key).above
        (Secret.of (environment.layer.givenBelow? below group) key) := by
  have htext := text_of_load hplain rfl (congrArg Datum.text hstart.1) hfile hs
  have hname := text_of_load hnamed rfl (congrArg Datum.text hstart.2) hfile hs
  exact congrArg₂ Secret.mk (Datum.text.inj htext) (Datum.text.inj hname)

theorem token_of_load (hfile : fileLayer content = .ok below)
    (hs : load file content environment = .ok s) :
    Secret.mk s.monitor.token s.monitor.tokenVariable =
      (Secret.of (environment.layer.given? "monitor") "token").above
        (Secret.of (environment.layer.givenBelow? below "monitor") "token") := by
  apply secret_of_load _ _ ⟨rfl, rfl⟩ hfile hs
  · exact within_monitor_mem_all (by simp [Monitor.slots])
  · exact within_monitor_mem_all (by simp [Monitor.slots])

theorem psk_of_load (hfile : fileLayer content = .ok below)
    (hs : load file content environment = .ok s) :
    Secret.mk s.wifi.secret s.wifi.secretVariable =
      (Secret.of (environment.layer.given? "wifi") "psk").above
        (Secret.of (environment.layer.givenBelow? below "wifi") "psk") := by
  apply secret_of_load _ _ ⟨rfl, rfl⟩ hfile hs
  · exact within_wifi_mem_all (by simp [Wifi.slots])
  · exact within_wifi_mem_all (by simp [Wifi.slots])

theorem resolved_of_compose {agent : AgentConfig} (h : s.compose environment = .ok agent) :
    s.monitor.resolvedToken environment = .ok agent.probe.token ∧
      s.wifi.resolvedSecret environment = .ok agent.network.secret := by
  rw [compose] at h
  obtain ⟨url, -, h⟩ := exists_of_bind_eq_ok h
  obtain ⟨method, -, h⟩ := exists_of_bind_eq_ok h
  obtain ⟨token, htoken, h⟩ := exists_of_bind_eq_ok h
  obtain ⟨secret, hsecret, h⟩ := exists_of_bind_eq_ok h
  obtain rfl := Except.ok.inj h
  exact ⟨htoken, hsecret⟩

theorem compose_of_toAgent {agent : AgentConfig} {target : Endpoint}
    (h : s.toAgent environment = .ok (agent, target)) : s.compose environment = .ok agent := by
  rw [toAgent] at h
  obtain ⟨agent', hcompose, h⟩ := exists_of_bind_eq_ok h
  obtain ⟨target', -, h⟩ := exists_of_bind_eq_ok h
  obtain ⟨rfl, -⟩ := Prod.mk.inj (Except.ok.inj h)
  exact hcompose

theorem token_of_toProbeAgent {agent : AgentConfig} (h : s.toProbeAgent environment = .ok agent) :
    s.monitor.resolvedToken environment = .ok agent.probe.token := by
  have hagent : (s.unlinked.toAgent environment).map Prod.fst = .ok agent := h
  cases hboth : s.unlinked.toAgent environment with
  | error e =>
    rw [hboth] at hagent
    nomatch hagent
  | ok both =>
    rw [hboth] at hagent
    obtain rfl : both.1 = agent := Except.ok.inj hagent
    exact (resolved_of_compose (compose_of_toAgent hboth)).1

/-- The settings that come of a layer of variables over a file. -/
theorem settings_of_value {g : Given} {here : Surroundings} {v : Value}
    (hlayer : here.environment.layer = v)
    (hvalue : (fileLayer (here.file (g.file here.accountHome here.environment))).toOption.map
      (fun below => ofValue (v.over below)) = some (.ok s)) :
    g.settings here = .ok (g.override s) := by
  obtain ⟨below, hbelow, hof⟩ := Option.map_eq_some_iff.1 hvalue
  have hfile : fileLayer (here.file (g.file here.accountHome here.environment)) = .ok below := by
    cases hlayer : fileLayer (here.file (g.file here.accountHome here.environment)) with
    | error fault =>
      rw [hlayer] at hbelow
      nomatch hbelow
    | ok w =>
      rw [hlayer] at hbelow
      exact congrArg Except.ok (Option.some.inj hbelow)
  rw [Given.settings, load_eq hfile, hlayer, hof]
  rfl

/-- The secrets in effect. A token that is an option comes first. Otherwise the variables decide, if
they give the secret at all, and else the file does; but where the variables give a text and the file
names a variable, the file decides. An agent is made with these secrets, or not at all. -/
theorem secrets_of_layers {g : Given} {here : Surroundings} (h : g.settings here = .ok s) :
    ∃ below, fileLayer (here.file (g.file here.accountHome here.environment)) = .ok below ∧
      (let set := Secret.of (here.environment.layer.given? "monitor") "token"
       let filed := Secret.of (here.environment.layer.givenBelow? below "monitor") "token"
       s.monitor.resolvedToken here.environment =
         ((Secret.mk g.token none).orElse (set.effective filed)).resolved here.environment
           "monitor.token_env") ∧
      (let set := Secret.of (here.environment.layer.given? "wifi") "psk"
       let filed := Secret.of (here.environment.layer.givenBelow? below "wifi") "psk"
       s.wifi.resolvedSecret here.environment =
         ((set.effective filed).resolved here.environment "wifi.psk_env").map (·.getD "")) ∧
      (∀ agent target, s.toAgent here.environment = .ok (agent, target) →
        s.monitor.resolvedToken here.environment = .ok agent.probe.token ∧
          s.wifi.resolvedSecret here.environment = .ok agent.network.secret) ∧
      ∀ agent, s.toProbeAgent here.environment = .ok agent →
        s.monitor.resolvedToken here.environment = .ok agent.probe.token := by
  obtain ⟨s₀, hload, rfl⟩ := Given.settings_eq_ok_iff.1 h
  obtain ⟨below, hfile⟩ := exists_fileLayer hload
  have htoken := token_of_load hfile hload
  have hsecret := psk_of_load hfile hload
  refine ⟨below, hfile, ?_, ?_, fun agent target hagent => ?_, fun agent hagent => ?_⟩
  · intro set filed
    cases hoption : g.token with
    | some token =>
      simp only [Monitor.resolvedToken, Given.override, hoption]
      rfl
    | none =>
      have hresolved := @Secret.resolved_above here.environment "monitor.token_env" set filed
      rw [← htoken] at hresolved
      simp only [Monitor.resolvedToken, Given.override, hoption]
      exact hresolved
  · intro set filed
    have hresolved := @Secret.resolved_above here.environment "wifi.psk_env" set filed
    rw [← hsecret] at hresolved
    exact congrArg (Except.map (·.getD "")) hresolved
  · exact resolved_of_compose (compose_of_toAgent hagent)
  · exact token_of_toProbeAgent hagent

/-- The file gives a token and names a variable for the network's secret; the variables name one for
the token and give the network's secret as a text. Both times the variable that is named counts. -/
theorem secrets_of_layers_crossed :
    let file := "[wifi]\npsk_env = \"FILE_PSK\"\n[monitor]\ntoken = \"old\"\n"
    let here : Surroundings := ⟨[("FILE_PSK", "hunter22"), ("NEW_TOKEN", "fresh"),
      ("UPBEAT_MONITOR__TOKEN_ENV", "NEW_TOKEN"), ("UPBEAT_WIFI__PSK", "above")], some "/home/u",
      fun _ => some (Text.Utf8.encode file), ⟨fun _ _ => none, fun _ => .unreachable .refused⟩⟩
    ∃ s : Settings, Given.nothing.settings here = .ok s ∧
      s.monitor.resolvedToken here.environment = .ok (some "fresh") ∧
      s.wifi.resolvedSecret here.environment = .ok "hunter22" := by
  intro file here
  let v := Environment.stack (.table .environment [])
    [("UPBEAT_MONITOR__TOKEN_ENV", ["monitor", "token_env"], "NEW_TOKEN"),
      ("UPBEAT_WIFI__PSK", ["wifi", "psk"], "above")]
  have hlayer : here.environment.layer = v :=
    Environment.layer_of_sorted (by decide +kernel) (by decide)
  have hset : (Secret.of (v.given? "monitor") "token", Secret.of (v.given? "wifi") "psk") =
      (⟨none, some "NEW_TOKEN"⟩, ⟨some "above", none⟩) := by
    decide +kernel
  have hfiled : (fileLayer (some (Text.Utf8.encode file))).toOption.map (fun below =>
      (Secret.of (v.givenBelow? below "monitor") "token",
        Secret.of (v.givenBelow? below "wifi") "psk")) =
      some (⟨some "old", none⟩, ⟨none, some "FILE_PSK"⟩) := by
    decide +kernel
  have hvalue : (fileLayer (some (Text.Utf8.encode file))).toOption.map (fun below =>
      ofValue (v.over below)) =
      some (.ok ⟨{ Wifi.standard with secret := some "above", secretVariable := some "FILE_PSK" },
        { Monitor.standard with token := some "old", tokenVariable := some "NEW_TOKEN" },
        .standard, none⟩) := by
    decide +kernel
  have hsettings : Given.nothing.settings here = .ok _ := settings_of_value hlayer hvalue
  obtain ⟨below, hfile, htoken, hsecret, -⟩ := secrets_of_layers hsettings
  rw [show fileLayer (some (Text.Utf8.encode file)) = .ok below from hfile] at hfiled
  obtain ⟨hfiledToken, hfiledSecret⟩ := Prod.mk.inj (Option.some.inj hfiled)
  obtain ⟨hsetToken, hsetSecret⟩ := Prod.mk.inj hset
  dsimp only at htoken hsecret
  rw [hlayer, hsetToken, hfiledToken] at htoken
  rw [hlayer, hsetSecret, hfiledSecret] at hsecret
  exact ⟨_, hsettings, htoken, hsecret⟩

/-- The variables give the token as a text and name none; the one that the file names counts. -/
theorem secret_of_lower_layer :
    let file := "[monitor]\ntoken_env = \"FILE_TOKEN\"\n"
    let here : Surroundings := ⟨[("FILE_TOKEN", "below"), ("UPBEAT_MONITOR__TOKEN", "above")],
      some "/home/u", fun _ => some (Text.Utf8.encode file),
      ⟨fun _ _ => none, fun _ => .unreachable .refused⟩⟩
    Secret.of (here.environment.layer.given? "monitor") "token" = ⟨some "above", none⟩ ∧
      ∃ s : Settings, Given.nothing.settings here = .ok s ∧
        s.monitor.resolvedToken here.environment = .ok (some "below") := by
  intro file here
  have hlayer : here.environment.layer = Environment.stack (.table .environment [])
      [("UPBEAT_MONITOR__TOKEN", ["monitor", "token"], "above")] :=
    Environment.layer_of_sorted (by decide +kernel) (by decide)
  constructor
  · rw [hlayer]
    decide +kernel
  · have hvalue : (fileLayer (some (Text.Utf8.encode file))).toOption.map (fun below =>
        ofValue ((Environment.stack (.table .environment [])
          [("UPBEAT_MONITOR__TOKEN", ["monitor", "token"], "above")]).over below)) =
        some (.ok ⟨.standard,
          { Monitor.standard with token := some "above", tokenVariable := some "FILE_TOKEN" },
          .standard, none⟩) := by
      decide +kernel
    exact ⟨_, settings_of_value hlayer hvalue, by decide +kernel⟩

end Loading

end Liveness.Settings
