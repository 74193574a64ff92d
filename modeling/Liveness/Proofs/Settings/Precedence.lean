import Liveness.CommandLine.Execution
import Liveness.Proofs.Settings.Reading
import Liveness.Proofs.Settings.Variables

/-! Which layer a setting comes from: an option, a variable, the file, or none of them. -/
namespace Liveness.Settings
open CommandLine (Given Surroundings)

variable {environment : Environment} {k : Setting} {g : Given} {v : Value} {s s' : Settings}

section Variables
open Environment

/-- The text of the variable that stands for a path, in whatever case its name is written. -/
def Environment.textFor? (environment : Environment) (path : List String) : Option String :=
  (environment.find? fun v => path? v.1 = some path).map Prod.snd

theorem Environment.textFor?_cons_of_ne {name text : String} {path : List String}
    (h : Environment.path? name ≠ some path) :
    Environment.textFor? ((name, text) :: environment) path = environment.textFor? path := by
  rw [textFor?, List.find?_cons_of_neg (by simpa using h), textFor?]

/-- No two variables stand for one path, and none of them for a part of a setting or for a whole
group. -/
structure Environment.Exact (environment : Environment) : Prop where
  distinct : (environment.filterMap fun v => path? v.1).Nodup
  exact : ∀ v ∈ environment, ∀ path, path? v.1 = some path → ∀ k ∈ all,
    path = k.path ∨ Apart k.path path

theorem apart_of_ne {k' : Setting} (h : k.path ≠ k'.path) : Apart k.path k'.path := by
  constructor
  · intro hpath
    exact h (hpath.eq_of_length rfl)
  · intro hpath
    exact h (hpath.eq_of_length rfl).symm

/-- Variables each of which names one setting, and none the same as another. -/
theorem Environment.exact_of_settings
    (hdistinct : (environment.filterMap fun v => path? v.1).Nodup)
    (h : ∀ v ∈ environment, ∀ path ∈ path? v.1, path ∈ all.map Setting.path) :
    environment.Exact := by
  refine ⟨hdistinct, fun v hv path hpath k hk => ?_⟩
  obtain ⟨k', hk', rfl⟩ := List.mem_map.1 (h v hv path hpath)
  by_cases heq : k'.path = k.path
  · exact .inl heq
  · exact .inr (apart_of_ne (Ne.symm heq))

/-- What the variables say of a setting: the value of its own variable, if that one is set. -/
theorem Environment.Exact.at?_layer (h : environment.Exact) (hk : k ∈ all) :
    environment.layer.at? k.path = (environment.textFor? k.path).map valueOf ∧
      environment.layer.blocks k.path = false := by
  unfold textFor?
  cases hfind : environment.find? fun v => path? v.1 = some k.path with
  | none =>
    have hothers : ∀ v ∈ environment.named.mergeSort byName, Apart k.path v.2.1 := by
      intro v hv
      obtain ⟨hmem, hpath⟩ := mem_named.1 (List.mem_mergeSort.1 hv)
      have hne := List.find?_eq_none.1 hfind _ hmem
      rcases h.exact _ hmem _ hpath k hk with heq | hapart
      · exact absurd (decide_eq_true (heq ▸ hpath)) hne
      · exact hapart
    rw [layer_eq]
    exact ⟨at?_stack_of_apart hothers, blocks_stack_of_apart hothers rfl⟩
  | some e =>
    obtain ⟨name, text⟩ := e
    obtain ⟨hname, before, after, rfl, -⟩ := List.find?_eq_some_iff_append.1 hfind
    have hpath : path? name = some k.path := of_decide_eq_true hname
    obtain ⟨x, y, hlayer, hmem, -⟩ := exists_stack before after hpath
    have hothers : ∀ v ∈ x ++ y, Apart k.path v.2.1 := by
      intro v hv
      obtain ⟨hin, hvpath⟩ := (hmem v).1 hv
      have hin' : (v.1, v.2.2) ∈ before ++ (name, text) :: after := by
        rw [List.mem_append] at hin
        exact List.mem_append.2 (hin.imp_right (List.mem_cons_of_mem _))
      -- Another variable for the same path would be listed twice.
      rcases h.exact _ hin' _ hvpath k hk with heq | hapart
      · have hdistinct := h.distinct
        rw [List.filterMap_append, List.filterMap_cons, hpath, List.nodup_middle,
          List.nodup_cons, ← List.filterMap_append] at hdistinct
        exact absurd (List.mem_filterMap.2 ⟨_, hin, heq ▸ hvpath⟩) hdistinct.1
      · exact hapart
    have hbelow : (stack (.table .environment []) x).at? k.path = none :=
      at?_stack_of_apart fun v hv => hothers v (List.mem_append_left y hv)
    have hat : (layer (before ++ (name, text) :: after)).at? k.path = some (valueOf text) := by
      rw [hlayer, at?_stack_of_apart fun v hv => hothers v (List.mem_append_right x hv),
        at?_nest_over (ordered_valueOf text), hbelow]
      rfl
    exact ⟨hat, Value.blocks_of_at? hat⟩

end Variables

section Options

/-- What the options say of the setting at a path. A token also takes away the variable that is
named for one. -/
def said (g : Given) : List String → Option Datum
  | ["monitor", "url"] => g.url.map fun url => .text (some url)
  | ["monitor", "token"] => g.token.map fun token => .text (some token)
  | ["monitor", "token_env"] => g.token.map fun _ => .text none
  | ["monitor", "insecure"] => if g.insecure then some (.boolean true) else none
  | ["monitor", "timeout"] => g.timeout.map .natural
  | _ => none

theorem value_override :
    ∀ k ∈ all, k.value (g.override s) = (said g k.path).getD (k.value s) := by
  apply forall_mem_all
  · exact fun _ _ => rfl
  · simp only [Monitor.slots, List.forall_mem_cons, Slot.within, Setting.path, said, Given.override]
    refine ⟨?_, rfl, rfl, ?_, ?_, ?_, ?_, List.forall_mem_nil _⟩
    · cases g.url <;> rfl
    · cases g.token <;> rfl
    · cases g.token <;> rfl
    · cases g.insecure <;> rfl
    · cases g.timeout <;> rfl
  · exact fun _ _ => rfl
  · exact fun _ _ => rfl

end Options

/-- What variables say of a setting, or else a file, or else the values from the start. -/
def recorded (environment : Environment) (below : Value) (k : Setting) : Option Datum :=
  match environment.textFor? k.path with
  | some text => k.kind.denotes (Environment.valueOf text)
  | none => match below.at? k.path with
    | some v => k.kind.denotes v
    | none => some (k.value standard)

/-- What options say of a setting, or else what is recorded. -/
def layered (g : Given) (environment : Environment) (below : Value) (k : Setting) : Option Datum :=
  match said g k.path with
  | some d => some d
  | none => recorded environment below k

theorem recorded_of_load {file : String} {content : Option (List UInt8)} {below : Value}
    (hfile : fileLayer content = .ok below) (hgroups : ∀ k ∈ all, below.blocks k.path = false)
    (hnames : environment.Exact) (hs : load file content environment = .ok s) (hk : k ∈ all) :
    recorded environment below k = some (k.value s) := by
  have hlayer : environment.layer.Ordered := Environment.ordered_layer
  have hof := (load_eq_ok_iff hfile).1 hs
  obtain ⟨hat, hroom⟩ := hnames.at?_layer hk
  have hvalue := value_of_ofValue hk (hlayer.over (ordered_fileLayer hfile))
    (Value.blocks_over hlayer hroom (hgroups k hk)) hof
  rw [Value.at?_over hlayer, hat, hroom] at hvalue
  rw [recorded]
  cases htext : environment.textFor? k.path with
  | some text =>
    rw [htext] at hvalue
    exact Kind.denotes_onto.symm.trans hvalue
  | none =>
    rw [htext] at hvalue
    exact hvalue

/-- A command that loads its settings, with what its file says: no group of the file is anything but
a table. -/
structure Loads (g : Given) (here : Surroundings) (below : Value) (s : Settings) : Prop where
  file : fileLayer (here.file (g.file here.accountHome here.environment)) = .ok below
  groups : ∀ k ∈ all, below.blocks k.path = false
  names : here.environment.Exact
  loaded : g.settings here = .ok s

namespace Loads
variable {here there : Surroundings} {below below' : Value} {g' : Given}

theorem exists_loaded (h : Loads g here below s) :
    ∃ file content s₀, load file content here.environment = .ok s₀ ∧
      fileLayer content = .ok below ∧ s = g.override s₀ := by
  obtain ⟨s₀, hload, hs⟩ := Given.settings_eq_ok_iff.1 h.loaded
  exact ⟨_, _, s₀, hload, h.file, hs⟩

theorem layered_eq (h : Loads g here below s) (hk : k ∈ all) :
    layered g here.environment below k = some (k.value s) := by
  obtain ⟨file, content, s₀, hload, hfile, rfl⟩ := h.exists_loaded
  rw [value_override k hk, layered]
  cases said g k.path with
  | some d => rfl
  | none => exact recorded_of_load hfile h.groups h.names hload hk

/-- A setting is a function of what the layers say of it. -/
theorem value_congr (h : Loads g here below s) (h' : Loads g' there below' s') (hk : k ∈ all)
    (hsaid : said g' k.path = said g k.path)
    (htext : there.environment.textFor? k.path = here.environment.textFor? k.path)
    (hat : below'.at? k.path = below.at? k.path) : k.value s' = k.value s := by
  have hthere := h'.layered_eq hk
  rw [layered, recorded, hsaid, htext, hat] at hthere
  exact Option.some.inj (hthere.symm.trans (h.layered_eq hk))

end Loads

/-- Every setting is what the uppermost layer that speaks of it says. Each option sets what it
names; and whatever else changes, in the options, the variables or the file, a setting of which they
say the same is the same. -/
theorem settings_of_layers {here : Surroundings} {below : Value} (h : Loads g here below s) :
    (∀ k ∈ all, layered g here.environment below k = some (k.value s)) ∧
    (∀ url, g.url = some url → s.monitor.url = some url) ∧
    (∀ token, g.token = some token →
      s.monitor.token = some token ∧ s.monitor.tokenVariable = none) ∧
    (g.insecure = true → s.monitor.insecure = true) ∧
    (∀ timeout, g.timeout = some timeout → s.monitor.timeout = timeout) ∧
    ∀ g' there below' s', Loads g' there below' s' → ∀ k ∈ all, said g' k.path = said g k.path →
      there.environment.textFor? k.path = here.environment.textFor? k.path →
      below'.at? k.path = below.at? k.path → k.value s' = k.value s := by
  refine ⟨fun k hk => h.layered_eq hk, ?_, ?_, ?_, ?_,
    fun g' there below' s' h' k hk hsaid htext hat => h.value_congr h' hk hsaid htext hat⟩
  all_goals obtain ⟨file, content, s₀, -, -, rfl⟩ := h.exists_loaded
  · intro url hurl
    simp only [Given.override, hurl]
    rfl
  · intro token htoken
    simp only [Given.override, htoken]
    exact ⟨rfl, rfl⟩
  · intro hinsecure
    simp only [Given.override, hinsecure, Bool.true_or]
  · intro timeout htimeout
    simp only [Given.override, htimeout, Option.getD_some]

/-- A file, a variable and an option, and the same without the variable. -/
theorem settings_of_layers_secret :
    let file := "[wifi]\nssid = \"home\"\npsk = \"old\"\n[monitor]\ntimeout = 9\nurl = \"http://a\"\n"
    let here (environment : Environment) : Surroundings :=
      ⟨environment, some "/home/u", fun _ => some (Text.Utf8.encode file), fun _ _ => none,
        fun _ => .unreachable (.system 111)⟩
    let g : Given := { CommandLine.Given.nothing with url := some "http://b" }
    let one : Environment := [("UPBEAT_WIFI__PSK", "hunter2"), ("PATH", "/bin")]
    let other : Environment := [("PATH", "/bin")]
    let s : Settings := ⟨⟨.networkManager, "home", some "hunter2", none, none⟩,
      { Monitor.standard with url := some "http://b", timeout := 9 }, .standard, none⟩
    let s' : Settings := { s with wifi := { s.wifi with secret := some "old" } }
    ∃ below, Loads g (here one) below s ∧ Loads g (here other) below s' ∧
      (∀ k ∈ all, layered g one below k = some (k.value s)) ∧
      ∀ k ∈ all, k.path ≠ ["wifi", "psk"] → k.value s' = k.value s := by
  intro file here g one other s s'
  have hone : one.named = [("UPBEAT_WIFI__PSK", ["wifi", "psk"], "hunter2")] := by decide +kernel
  have hother : other.named = [] := by decide +kernel
  have hcheck : (fileLayer (some (Text.Utf8.encode file))).toOption.map (fun below =>
      (all.all fun k => !below.blocks k.path,
        (ofValue ((Environment.stack (.table .environment []) one.named).over below)).map g.override,
        (ofValue ((Environment.stack (.table .environment []) []).over below)).map g.override)) =
      some (true, .ok s, .ok s') := by
    decide +kernel
  cases hfile : fileLayer (some (Text.Utf8.encode file)) with
  | error fault => rw [hfile] at hcheck; nomatch hcheck
  | ok below =>
    rw [hfile] at hcheck
    obtain ⟨hgroups, hvalues⟩ := Prod.mk.inj (Option.some.inj hcheck)
    obtain ⟨hs, hs'⟩ := Prod.mk.inj hvalues
    have hroom : ∀ k ∈ all, below.blocks k.path = false := by
      simpa only [List.all_eq_true, Bool.not_eq_true'] using hgroups
    have hloads {environment : Environment} {s : Settings} (hnames : environment.Exact)
        (hs : (ofValue (environment.layer.over below)).map g.override = .ok s) :
        Loads g (here environment) below s := by
      refine ⟨hfile, hroom, hnames, ?_⟩
      show (load _ (some (Text.Utf8.encode file)) environment).map g.override = _
      rw [load_eq hfile]
      cases hof : ofValue (environment.layer.over below) with
      | error b => rw [hof] at hs; nomatch hs
      | ok s₀ => rw [hof] at hs; exact congrArg _ (Except.ok.inj hs)
    have hloads₁ : Loads g (here one) below s := by
      apply hloads
      · apply Environment.exact_of_settings
        · decide +kernel
        · decide +kernel
      · rw [Environment.layer_eq, hone, List.mergeSort_singleton, ← hone]
        exact hs
    have hloads₂ : Loads g (here other) below s' := by
      apply hloads
      · apply Environment.exact_of_settings
        · decide +kernel
        · decide +kernel
      · rw [Environment.layer_eq, hother, List.mergeSort_nil]
        exact hs'
    have hlayers := settings_of_layers hloads₁
    refine ⟨below, hloads₁, hloads₂, hlayers.1, fun k hk hne => ?_⟩
    apply hlayers.2.2.2.2.2 g (here other) below s' hloads₂ k hk rfl _ rfl
    have hname : Environment.path? "UPBEAT_WIFI__PSK" = some ["wifi", "psk"] := by decide +kernel
    refine (Environment.textFor?_cons_of_ne ?_).symm
    rw [hname]
    exact fun heq => hne (Option.some.inj heq).symm

end Liveness.Settings
