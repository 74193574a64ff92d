import Liveness.Proofs.Settings.OneProbe
import Liveness.Proofs.Text.Trimming

/-! The demands on settings from which an agent is made. Each is stated on its own, and so is what it
reports where it is not met. One relation, `Decided`, carries the order: a check that is made of parts
asks the demands of the first part, then those of the next. -/
namespace Liveness.Settings
open Text (isBlank isControl)

inductive Demand where
  | url
  | method
  | tokenVariable
  | secretVariable
  | ssid
  | endpoint
  | token
  | trust
  | timeout
  | activationError
  | associationFailed
  | probeFailed
deriving DecidableEq, Repr

/-- The demands in the order in which they are checked. -/
def Demand.all : List Demand :=
  [.url, .method, .tokenVariable, .secretVariable, .ssid, .endpoint, .token, .trust, .timeout,
    .activationError, .associationFailed, .probeFailed]

/-- The variable that is named, if one is, is set: it has a text. Bytes that are no text do not count. -/
def NameSet (environment : Environment) (named : Option String) : Prop :=
  ∀ name, named = some name → ∃ text, environment.text? name = some text

/-- A secret is given: by the variable that is named, and as it is only where none is named. -/
inductive Gives (environment : Environment) (given : Option String) : Option String → String → Prop
  | byName {name text : String} (set : environment.text? name = some text) :
      Gives environment given (some name) text
  | asIs {text : String} (plain : given = some text) : Gives environment given none text

/-- The target that the URL, without the blanks around it, and the path make. -/
def Monitor.joined (m : Monitor) : Except MalformedUrl Endpoint :=
  Endpoint.join (Text.trim (m.url.getD "")) m.path

def Met (environment : Environment) (s : Settings) : Demand → Prop
  | .url => ∃ url, s.monitor.url = some url ∧ ∃ c ∈ url.toList, isBlank c = false
  | .method => ∃ m : Method, m.name.toList = s.monitor.method.toList.map Char.toUpper
  | .tokenVariable => NameSet environment s.monitor.tokenVariable
  | .secretVariable => NameSet environment s.wifi.secretVariable
  | .ssid => s.wifi.backend = .fixed ∨ ∃ c ∈ s.wifi.ssid.toList, isBlank c = false
  | .endpoint => ∃ target, s.monitor.joined = .ok target
  | .token => ∀ t, Gives environment s.monitor.token s.monitor.tokenVariable t →
      ∀ c ∈ t.toList, isControl c = false
  | .trust => ∀ target, s.monitor.joined = .ok target → target.scheme = .plain ∨ s.monitor.insecure
  | .timeout => s.monitor.timeout ≠ 0
  | .activationError => s.timing.activationError ≠ 0
  | .associationFailed => s.timing.associationFailed ≠ 0
  | .probeFailed => s.timing.probeFailed ≠ 0

/-- The settings do not meet a demand, and what is reported for it. -/
inductive Unmet (environment : Environment) (s : Settings) : Demand → SettingsError → Prop
  | url (blank : ∀ url, s.monitor.url = some url → ∀ c ∈ url.toList, isBlank c) :
      Unmet environment s .url (.setting .urlMissing)
  | method (unknown : ∀ m : Method, m.name.toList ≠ s.monitor.method.toList.map Char.toUpper) :
      Unmet environment s .method (.setting (.methodUnknown s.monitor.method))
  | tokenVariable {name : String} (named : s.monitor.tokenVariable = some name)
      (unset : environment.text? name = none) :
      Unmet environment s .tokenVariable (.variableMissing "monitor.token_env" name)
  | secretVariable {name : String} (named : s.wifi.secretVariable = some name)
      (unset : environment.text? name = none) :
      Unmet environment s .secretVariable (.variableMissing "wifi.psk_env" name)
  | ssid (managed : s.wifi.backend = .networkManager) (blank : ∀ c ∈ s.wifi.ssid.toList, isBlank c) :
      Unmet environment s .ssid (.agent (.setup .ssidMissing))
  | endpoint {fault : MalformedUrl} (malformed : s.monitor.joined = .error fault) :
      Unmet environment s .endpoint (.agent (.malformedUrl fault))
  | token {t : String} {c : Char}
      (given : Gives environment s.monitor.token s.monitor.tokenVariable t) (mem : c ∈ t.toList)
      (control : isControl c) :
      Unmet environment s .token (.agent (.setup .tokenControl))
  | trust {target : Endpoint} (joined : s.monitor.joined = .ok target)
      (secure : target.scheme = .secure) (strict : s.monitor.insecure = false) :
      Unmet environment s .trust (.agent (.setup (.insecureRefused target)))
  | timeout (zero : s.monitor.timeout = 0) :
      Unmet environment s .timeout (.agent (.setup .timeoutZero))
  | activationError (zero : s.timing.activationError = 0) :
      Unmet environment s .activationError (.agent (.setup (.waitZero "activation_error")))
  | associationFailed (zero : s.timing.associationFailed = 0) :
      Unmet environment s .associationFailed (.agent (.setup (.waitZero "association_failed")))
  | probeFailed (zero : s.timing.probeFailed = 0) :
      Unmet environment s .probeFailed (.agent (.setup (.waitZero "probe_failed")))

/-- What is reported for the first of some demands that is not met. -/
inductive FirstUnmet (environment : Environment) (s : Settings) : List Demand → SettingsError → Prop
  | here {d : Demand} {ds : List Demand} {e : SettingsError} (unmet : Unmet environment s d e) :
      FirstUnmet environment s (d :: ds) e
  | later {d : Demand} {ds : List Demand} {e : SettingsError} (met : Met environment s d)
      (rest : FirstUnmet environment s ds e) : FirstUnmet environment s (d :: ds) e

structure Carries (environment : Environment) (s : Settings) (agent : AgentConfig) : Prop where
  link : agent.link = s.wifi.link
  ssid : agent.network.ssid = s.wifi.ssid
  secret : Gives environment s.wifi.secret s.wifi.secretVariable agent.network.secret ∨
    s.wifi.secret = none ∧ s.wifi.secretVariable = none ∧ agent.network.secret = ""
  url : agent.probe.baseUrl = Text.trim (s.monitor.url.getD "")
  path : agent.probe.path = s.monitor.path
  method : agent.probe.method.name.toList = s.monitor.method.toList.map Char.toUpper
  token : ∀ t, agent.probe.token = some t ↔
    Gives environment s.monitor.token s.monitor.tokenVariable t
  tls : agent.transport.tls = if s.monitor.insecure then .acceptAny else .disabled
  timeout : agent.transport.timeout = .ofSecs s.monitor.timeout.toNat
  backoff : agent.backoff = ⟨.ofSecs s.timing.activationError.toNat,
    .ofSecs s.timing.associationFailed.toNat, .ofSecs s.timing.probeFailed.toNat,
    .ofSecs s.timing.probeInterval.toNat, .ofSecs s.timing.pollInterval.toNat⟩

/-- A secret that is read is the one that is given, if there is one. -/
structure Resolved (environment : Environment) (given named : Option String) (r : Option String) :
    Prop where
  some_iff : ∀ t, r = some t ↔ Gives environment given named t
  of_none : r = none → given = none ∧ named = none

/-- Some demands decide an outcome: it is refused for the first that is not met, else it succeeds and
has a property. -/
inductive Decided {α : Type} (environment : Environment) (s : Settings) (ds : List Demand)
    (P : α → Prop) : Except SettingsError α → Prop
  | accepted {a : α} (met : ∀ d ∈ ds, Met environment s d) (holds : P a) :
      Decided environment s ds P (.ok a)
  | refused {e : SettingsError} (first : FirstUnmet environment s ds e) :
      Decided environment s ds P (.error e)

variable {environment : Environment} {s : Settings} {d : Demand} {ds more : List Demand}
  {e e' : SettingsError} {agent : AgentConfig} {α β : Type}

theorem Demand.mem_all (d : Demand) : d ∈ all := by
  cases d <;> decide

theorem Unmet.not_met (h : Unmet environment s d e) : ¬ Met environment s d := by
  intro hmet
  cases h with
  | url blank =>
    obtain ⟨url, hurl, c, hc, hblank⟩ := hmet
    exact Bool.eq_false_iff.1 hblank (blank url hurl c hc)
  | method unknown =>
    obtain ⟨m, hm⟩ := hmet
    exact unknown m hm
  | tokenVariable named unset =>
    obtain ⟨text, htext⟩ := hmet _ named
    nomatch unset.symm.trans htext
  | secretVariable named unset =>
    obtain ⟨text, htext⟩ := hmet _ named
    nomatch unset.symm.trans htext
  | ssid managed blank =>
    obtain hfixed | ⟨c, hc, hblank⟩ := hmet
    · nomatch managed.symm.trans hfixed
    · exact Bool.eq_false_iff.1 hblank (blank c hc)
  | endpoint malformed =>
    obtain ⟨target, htarget⟩ := hmet
    nomatch malformed.symm.trans htarget
  | token given mem control => exact Bool.eq_false_iff.1 (hmet _ given _ mem) control
  | trust joined secure strict =>
    obtain hplain | hinsecure := hmet _ joined
    · nomatch secure.symm.trans hplain
    · exact Bool.eq_false_iff.1 strict hinsecure
  | timeout zero => exact hmet zero
  | activationError zero => exact hmet zero
  | associationFailed zero => exact hmet zero
  | probeFailed zero => exact hmet zero

theorem Unmet.unique (h : Unmet environment s d e) (h' : Unmet environment s d e') : e = e' := by
  cases h with
  | tokenVariable named unset =>
    cases h' with
    | tokenVariable named' unset' => rw [Option.some.inj (named.symm.trans named')]
  | secretVariable named unset =>
    cases h' with
    | secretVariable named' unset' => rw [Option.some.inj (named.symm.trans named')]
  | endpoint malformed =>
    cases h' with
    | endpoint malformed' => rw [Except.error.inj (malformed.symm.trans malformed')]
  | trust joined secure strict =>
    cases h' with
    | trust joined' secure' strict' => rw [Except.ok.inj (joined.symm.trans joined')]
  | _ =>
    cases h'
    rfl

namespace FirstUnmet

theorem exists_unmet (h : FirstUnmet environment s ds e) : ∃ d ∈ ds, ¬ Met environment s d := by
  induction h with
  | here unmet => exact ⟨_, List.mem_cons_self, unmet.not_met⟩
  | later met rest ih =>
    obtain ⟨d, hd, hunmet⟩ := ih
    exact ⟨d, List.mem_cons_of_mem _ hd, hunmet⟩

theorem unique (h : FirstUnmet environment s ds e) (h' : FirstUnmet environment s ds e') :
    e = e' := by
  induction h with
  | here unmet =>
    cases h' with
    | here unmet' => exact unmet.unique unmet'
    | later met rest => exact absurd met unmet.not_met
  | later met rest ih =>
    cases h' with
    | here unmet => exact absurd met unmet.not_met
    | later met' rest' => exact ih rest'

theorem append_right (h : FirstUnmet environment s ds e) (more : List Demand) :
    FirstUnmet environment s (ds ++ more) e := by
  induction h with
  | here unmet => exact .here unmet
  | later met rest ih => exact .later met ih

theorem append_left (hmet : ∀ d ∈ ds, Met environment s d) (h : FirstUnmet environment s more e) :
    FirstUnmet environment s (ds ++ more) e := by
  induction ds with
  | nil => exact h
  | cons d ds ih =>
    obtain ⟨hd, hds⟩ := List.forall_mem_cons.1 hmet
    exact .later hd (ih hds)

end FirstUnmet

namespace Decided
variable {P : α → Prop} {Q : β → Prop} {r : Except SettingsError α}
  {f : α → Except SettingsError β}

theorem pure {a : α} (h : P a) : Decided environment s [] P (.ok a) := .accepted nofun h

theorem unmet (h : Unmet environment s d e) : Decided environment s (d :: ds) P (.error e) :=
  .refused (.here h)

theorem met (hd : Met environment s d) (h : Decided environment s ds P r) :
    Decided environment s (d :: ds) P r := by
  cases h with
  | accepted hmet holds => exact .accepted (List.forall_mem_cons.2 ⟨hd, hmet⟩) holds
  | refused first => exact .refused (.later hd first)

theorem bind (h : Decided environment s ds P r)
    (h' : ∀ a, P a → Decided environment s more Q (f a)) :
    Decided environment s (ds ++ more) Q (r >>= f) := by
  cases h with
  | refused first => exact .refused (first.append_right more)
  | @accepted a hmet holds =>
    change Decided environment s (ds ++ more) Q (f a)
    have hnext := h' a holds
    generalize f a = r at hnext ⊢
    cases hnext with
    | accepted hmore holds' =>
      refine .accepted (fun d hd => ?_) holds'
      obtain hd | hd := List.mem_append.1 hd
      · exact hmet d hd
      · exact hmore d hd
    | refused first => exact .refused (.append_left hmet first)

theorem map {g : α → β} (h : Decided environment s ds P r)
    (h' : ∀ a, P a → Q (g a)) : Decided environment s ds Q (r.map g) := by
  cases h with
  | accepted hmet holds => exact .accepted hmet (h' _ holds)
  | refused first => exact .refused first

end Decided

theorem exists_not_blank {t : String} (h : ¬ ∀ c ∈ t.toList, isBlank c) :
    ∃ c ∈ t.toList, isBlank c = false := by
  simpa using h

theorem decided_baseUrl :
    Decided environment s [.url] (· = Text.trim (s.monitor.url.getD "")) s.monitor.baseUrl := by
  unfold Monitor.baseUrl
  dsimp only
  split
  next hempty =>
    refine .unmet (.url ?_)
    intro url hurl
    rw [hurl, Option.getD_some, Text.trim_eq_empty_iff] at hempty
    exact hempty
  next hgiven =>
    refine .met ?_ (.pure rfl)
    rw [Text.trim_eq_empty_iff] at hgiven
    cases hurl : s.monitor.url with
    | none => exact absurd (hurl ▸ nofun) hgiven
    | some url =>
      rw [hurl] at hgiven
      exact ⟨url, hurl, exists_not_blank hgiven⟩

theorem decided_probeMethod :
    Decided environment s [.method]
      (fun m : Method => m.name.toList = s.monitor.method.toList.map Char.toUpper)
      s.monitor.probeMethod := by
  unfold Monitor.probeMethod
  cases hname : Method.ofName? s.monitor.method with
  | none =>
    refine .unmet (.method fun m hm => ?_)
    have hnone := List.find?_eq_none.1 hname m (by cases m <;> decide)
    exact hnone (beq_iff_eq.2 hm)
  | some m =>
    have hm := Method.name_of_ofName? hname
    exact .met ⟨m, hm⟩ (.pure hm)

/-- A secret is looked for where it is named, and fails for its name alone. -/
theorem decided_resolve {field : String} {given named : Option String}
    (hmet : NameSet environment named → Met environment s d)
    (hunmet : ∀ name, named = some name → environment.text? name = none →
      Unmet environment s d (.variableMissing field name)) :
    Decided environment s [d] (Resolved environment given named)
      (resolve environment field given named) := by
  unfold resolve
  cases hnamed : named with
  | none =>
    refine .met (hmet (hnamed ▸ nofun)) (.pure ⟨fun t => ⟨.asIs, ?_⟩, fun hnone => ⟨hnone, rfl⟩⟩)
    rintro ⟨⟩
    assumption
  | some name =>
    dsimp only
    cases htext : environment.text? name with
    | none => exact .unmet (hunmet name hnamed htext)
    | some text =>
      refine .met (hmet ?_) (.pure ⟨fun t => ⟨?_, ?_⟩, nofun⟩)
      · intro name' hname'
        obtain rfl := Option.some.inj (hnamed.symm.trans hname')
        exact ⟨text, htext⟩
      · intro ht
        exact .byName (htext.trans ht)
      · rintro ⟨hset⟩
        exact htext.symm.trans hset

theorem decided_resolvedSecret :
    Decided environment s [.secretVariable]
      (fun secret => Gives environment s.wifi.secret s.wifi.secretVariable secret ∨
        s.wifi.secret = none ∧ s.wifi.secretVariable = none ∧ secret = "")
      (s.wifi.resolvedSecret environment) := by
  refine .map (decided_resolve id fun _ => .secretVariable) ?_
  intro r hr
  cases r with
  | none =>
    obtain ⟨hgiven, hnamed⟩ := hr.of_none rfl
    exact .inr ⟨hgiven, hnamed, rfl⟩
  | some text => exact .inl ((hr.some_iff text).1 rfl)

theorem decided_compose :
    Decided environment s [.url, .method, .tokenVariable, .secretVariable] (Carries environment s)
      (s.compose environment) := by
  unfold compose
  refine decided_baseUrl.bind fun url hurl => ?_
  refine decided_probeMethod.bind fun method hmethod => ?_
  have htokenVariable := @decided_resolve environment s .tokenVariable "monitor.token_env"
    s.monitor.token s.monitor.tokenVariable id fun _ => .tokenVariable
  refine htokenVariable.bind fun token htoken => ?_
  refine decided_resolvedSecret.bind fun secret hsecret => ?_
  exact .pure ⟨rfl, rfl, hsecret, hurl, rfl, hmethod, htoken.some_iff, rfl, rfl, rfl⟩

theorem seconds_isZero (n : UInt64) : (Duration.ofSecs n.toNat).isZero = true ↔ n = 0 := by
  rw [Duration.isZero_ofSecs, beq_iff_eq, ← UInt64.toNat_inj]
  rfl

/-- The waits after failures are checked one after another. -/
theorem decided_waits (h : Carries environment s agent) {P : Endpoint → Prop} {target : Endpoint}
    (holds : P target) :
    Decided environment s [.activationError, .associationFailed, .probeFailed] P
      (Except.mapError .agent (match agent.backoff.afterFailures.find? (·.2.isZero) with
        | some (name, _) => .error (.setup (.waitZero name))
        | none => .ok target)) := by
  have hactivation : agent.backoff.activationError.isZero = true ↔ s.timing.activationError = 0 := by
    rw [h.backoff]
    exact seconds_isZero _
  have hassociation :
      agent.backoff.associationFailed.isZero = true ↔ s.timing.associationFailed = 0 := by
    rw [h.backoff]
    exact seconds_isZero _
  have hprobe : agent.backoff.probeFailed.isZero = true ↔ s.timing.probeFailed = 0 := by
    rw [h.backoff]
    exact seconds_isZero _
  rw [Backoff.afterFailures]
  simp only [List.find?_cons]
  cases hzero : agent.backoff.activationError.isZero with
  | true => exact .unmet (.activationError (hactivation.1 hzero))
  | false =>
    refine .met (hactivation.not.1 (Bool.eq_false_iff.1 hzero)) ?_
    cases hzero : agent.backoff.associationFailed.isZero with
    | true => exact .unmet (.associationFailed (hassociation.1 hzero))
    | false =>
      refine .met (hassociation.not.1 (Bool.eq_false_iff.1 hzero)) ?_
      cases hzero : agent.backoff.probeFailed.isZero with
      | true => exact .unmet (.probeFailed (hprobe.1 hzero))
      | false => exact .met (hprobe.not.1 (Bool.eq_false_iff.1 hzero)) (.pure holds)

theorem ssidPresent_iff (h : Carries environment s agent) :
    agent.ssidPresent = true ↔ Met environment s .ssid := by
  unfold AgentConfig.ssidPresent
  rw [h.link, h.ssid, Wifi.link]
  cases hbackend : s.wifi.backend with
  | fixed => exact iff_of_true rfl (.inl hbackend)
  | networkManager => simp [LinkBackend.needsCredentials, Text.isBlankText, Met, hbackend]

theorem unmet_ssid (h : ¬ Met environment s .ssid) :
    Unmet environment s .ssid (.agent (.setup .ssidMissing)) := by
  obtain ⟨hbackend, hblank⟩ := not_or.1 h
  refine .ssid ?_ ?_
  · cases hmanaged : s.wifi.backend with
    | networkManager => rfl
    | fixed => exact absurd hmanaged hbackend
  · by_contra hgiven
    exact hblank (exists_not_blank hgiven)

theorem token_any_iff (h : Carries environment s agent) :
    (agent.probe.token.getD "").toList.any isControl = true ↔
      ∃ t, Gives environment s.monitor.token s.monitor.tokenVariable t ∧
        ∃ c ∈ t.toList, isControl c := by
  simp only [← h.token]
  cases agent.probe.token <;> simp

/-- An agent that carries the settings is valid once the other demands are met. -/
theorem decided_validate (h : Carries environment s agent) :
    Decided environment s
      [.ssid, .endpoint, .token, .trust, .timeout, .activationError, .associationFailed, .probeFailed]
      (fun target => s.monitor.joined = .ok target) (agent.validate.mapError .agent) := by
  have hendpoint : agent.probe.endpoint = s.monitor.joined := by
    rw [ProbeRequest.endpoint, h.url, h.path]
    rfl
  have hstrict : agent.transport.tls = .disabled ↔ s.monitor.insecure = false := by
    rw [h.tls]
    cases s.monitor.insecure <;> decide
  have htimeout : agent.transport.timeout.isZero = true ↔ s.monitor.timeout = 0 := by
    rw [h.timeout]
    exact seconds_isZero _
  unfold AgentConfig.validate
  rw [hendpoint]
  split
  next hssid =>
    rw [Bool.not_eq_true', ← Bool.not_eq_true, ssidPresent_iff h] at hssid
    exact .unmet (unmet_ssid hssid)
  next hssid =>
  refine .met ((ssidPresent_iff h).1 (by simpa using hssid)) ?_
  split
  next fault hfault => exact .unmet (.endpoint hfault)
  next target htarget =>
  refine .met ⟨target, htarget⟩ ?_
  split
  next htoken =>
    obtain ⟨t, ht, c, hc, hcontrol⟩ := (token_any_iff h).1 htoken
    exact .unmet (.token ht hc hcontrol)
  next htoken =>
  refine .met ?_ ?_
  · intro t ht c hc
    by_contra hcontrol
    exact htoken ((token_any_iff h).2 ⟨t, ht, c, hc, Bool.not_eq_false _ ▸ hcontrol⟩)
  split
  next htrust => exact .unmet (.trust htarget htrust.1 (hstrict.1 htrust.2))
  next htrust =>
  refine .met ?_ ?_
  · intro target' htarget'
    obtain rfl := Except.ok.inj (htarget.symm.trans htarget')
    rw [hstrict, not_and, Bool.not_eq_false] at htrust
    cases hscheme : target.scheme with
    | plain => exact .inl rfl
    | secure => exact .inr (htrust hscheme)
  split
  next hzero => exact .unmet (.timeout (htimeout.1 hzero))
  next hzero =>
  exact .met (htimeout.not.1 hzero) (decided_waits h htarget)

/-- What comes of settings is decided by the demands. -/
theorem decided_toAgent :
    Decided environment s Demand.all
      (fun made => Carries environment s made.1 ∧ s.monitor.joined = .ok made.2)
      (s.toAgent environment) := by
  unfold toAgent
  refine decided_compose.bind fun agent hcarries => ?_
  refine (decided_validate hcarries).bind fun target htarget => ?_
  exact .pure ⟨hcarries, htarget⟩

/-- Exactly settings that meet all demands make an agent. Otherwise the first demand that is not met
is reported, whatever else is wrong. An agent that is made carries what the settings say: its secrets
are those of the variables that are named, or else the plain ones. -/
theorem toAgent_exact (environment : Environment) (s : Settings) :
    ((∃ made, s.toAgent environment = .ok made) ↔ ∀ d, Met environment s d) ∧
      (∀ e, s.toAgent environment = .error e ↔ FirstUnmet environment s Demand.all e) ∧
      ∀ agent target, s.toAgent environment = .ok (agent, target) →
        Carries environment s agent ∧ s.monitor.joined = .ok target := by
  have hdecided := @decided_toAgent environment s
  generalize s.toAgent environment = r at hdecided ⊢
  cases hdecided with
  | @accepted made hmet holds =>
    refine ⟨iff_of_true ⟨made, rfl⟩ fun d => hmet d d.mem_all, fun e => ⟨nofun, fun hfirst => ?_⟩, ?_⟩
    · obtain ⟨d, hd, hunmet⟩ := hfirst.exists_unmet
      exact absurd (hmet d hd) hunmet
    · intro agent target h
      obtain rfl := Except.ok.inj h
      exact holds
  | @refused e first =>
    obtain ⟨d, -, hunmet⟩ := first.exists_unmet
    refine ⟨iff_of_false ?_ fun hmet => hunmet (hmet d), fun e' => ⟨?_, fun hfirst => ?_⟩,
      fun _ _ h => nomatch h⟩
    · rintro ⟨made, h⟩
      cases h
    · intro h
      obtain rfl := Except.error.inj h
      exact first
    · rw [first.unique hfirst]

/-- Of a name that is not set, a blank network and no time, the first is reported; mended, they make
an agent that sends the token of the variable. -/
theorem toAgent_exact_faults :
    let environment : Environment := [("TOKEN", "from the variable")]
    let monitor (named : String) (timeout : UInt64) : Monitor :=
      ⟨some " http://monitor.lan ", livenessPath, "get", some "as it is", some named, false,
        timeout⟩
    let wifi (ssid : String) : Wifi := { Wifi.standard with ssid }
    let faulty : Settings := ⟨wifi " ", monitor "TOKENS" 0, .standard, none⟩
    let mended : Settings := ⟨wifi "lab", monitor "TOKEN" 3, .standard, none⟩
    faulty.toAgent environment = .error (.variableMissing "monitor.token_env" "TOKENS") ∧
      ¬ Met environment faulty .ssid ∧ ¬ Met environment faulty .timeout ∧
      ∃ agent target, mended.toAgent environment = .ok (agent, target) ∧
        agent.probe.token = some "from the variable" := by
  intro environment monitor wifi faulty mended
  have hurl : Met environment faulty .url := ⟨_, rfl, 'h', by decide +kernel, by decide⟩
  have hunset : environment.text? "TOKENS" = none := by decide +kernel
  have hfails := ((toAgent_exact environment faulty).2.1 _).2
    (.later hurl (.later ⟨.get, by decide +kernel⟩ (.here (.tokenVariable rfl hunset))))
  have hblank : Unmet environment faulty .ssid _ :=
    .ssid rfl (List.all_eq_true.1 (by decide +kernel))
  have htimeout : ¬ Met environment faulty .timeout := fun hmet => hmet rfl
  have hset : environment.text? "TOKEN" = some "from the variable" := by decide +kernel
  have hmade : (mended.toAgent environment).isOk := by decide +kernel
  cases hmended : mended.toAgent environment with
  | error e => exact absurd (hmended ▸ hmade) nofun
  | ok made =>
    obtain ⟨agent, target⟩ := made
    have hcarries := ((toAgent_exact environment mended).2.2 agent target hmended).1
    have htoken := (hcarries.token _).2 (.byName hset)
    exact ⟨hfails, hblank.not_met, htimeout, agent, target, rfl, htoken⟩

end Liveness.Settings
