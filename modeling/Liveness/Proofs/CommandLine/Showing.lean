import Liveness.CommandLine.Execution
import Liveness.Proofs.Settings.Disclosure

/-! What the command that shows the settings tells of their secrets, whether it succeeds or fails. -/
namespace Liveness

namespace Settings
open Environment
variable {environment other : Environment}

/-- Two environments in which every variable that stands for no secret has the same text. -/
def Environment.SameOpenly (environment other : Environment) : Prop :=
  ∀ name, (∀ path ∈ secretPaths, path? name ≠ some path) →
    other.text? name = environment.text? name

theorem usualFile_congr {accountHome : Option String} (h : environment.SameOpenly other) :
    usualFile accountHome other = usualFile accountHome environment := by
  have hhome := h "HOME" (by decide +kernel)
  have hconfig := h "XDG_CONFIG_HOME" (by decide +kernel)
  rw [usualFile, usualFile, hhome, hconfig]

theorem Environment.sameOpenly_of_swap {name t₀ t : String} {before after : Environment}
    (h : ∃ path ∈ secretPaths, path? name = some path) :
    SameOpenly (before ++ (name, t₀) :: after) (before ++ (name, t) :: after) := by
  intro n hn
  obtain ⟨path, hsecret, hpath⟩ := h
  have hne : n ≠ name := fun heq => hn path hsecret (heq ▸ hpath)
  rw [text?, text?, List.lookup_append, List.lookup_append, List.lookup_cons, List.lookup_cons,
    beq_false_of_ne hne]

theorem disclosed_eq_some_iff {v : Value} {found : String} : v.disclosed = some found ↔
    Kind.text.denotes v = none ∧ v.description = found := by
  rw [Value.disclosed]
  cases Kind.text.denotes v <;> simp

theorem load_of_disclosed {k : Setting} {name file t₀ t found : String}
    {content : Option (List UInt8)} {before after : Environment} {s₀ : Settings} (hk : k ∈ all)
    (hsecret : k.path ∈ secretPaths) (hname : path? name = some k.path)
    (hlast : Prevails name k.path (before ++ after))
    (hs₀ : load file content (before ++ (name, t₀) :: after) = .ok s₀)
    (hfound : (valueOf t).disclosed = some found) :
    load file content (before ++ (name, t) :: after) =
      .error (.unreadable file (.badValue ⟨.mismatch found .text, k.path, .environment⟩)) := by
  obtain ⟨hdenotes, rfl⟩ := disclosed_eq_some_iff.1 hfound
  have hkind : k.kind = .text := by
    have hall : ∀ k ∈ all, k.path ∈ secretPaths → k.kind = .text := by decide
    exact hall k hk hsecret
  obtain ⟨below, hfile⟩ := exists_fileLayer hs₀
  obtain ⟨w, w', hswapped⟩ := swapped_of_prevails hname hlast (ordered_fileLayer hfile) t₀ t
  have hnone : Kind.text.denotes (((valueOf t).onto w).onto w') = none := by
    rw [Kind.denotes_onto, Kind.denotes_onto, hdenotes]
  have hof := hswapped.ofValue_of_no_text hk hkind ((load_eq_ok_iff hfile).1 hs₀) hnone
  rw [load_eq hfile, hof, description_onto, description_onto, origin_onto, origin_onto,
    origin_valueOf]
  rfl

end Settings

namespace CommandLine
open Settings Environment
variable {environment other : Environment} {words : List String} {g : Given} {s : Surroundings}

theorem read_congr (h : environment.SameOpenly other) : read other words = read environment words := by
  have hvariables : ofVariables other = ofVariables environment := by
    have hconfig := h configVariable (by decide +kernel)
    have htoken := h tokenVariable (by decide +kernel)
    rw [ofVariables, ofVariables, hconfig, htoken]
  have hfinish : Level.finish other = Level.finish environment := by
    funext l
    rw [Level.finish, Level.finish, hvariables]
  have hlast : checkLast other = checkLast environment := by
    funext c given
    rw [checkLast, checkLast, hvariables]
  rw [read, read, hfinish, hlast, hvariables]

theorem perform_of_show (h : read s.environment words = .ok ⟨.show, g⟩) :
    perform words s = .ended (showOutcome g s) := by
  rw [perform, h]
  rfl

theorem override_congr {x y : Settings} (h : x.redacted = y.redacted) :
    (g.override x).redacted = (g.override y).redacted := by
  rw [redacted_eq_iff] at h ⊢
  obtain ⟨hwifi, hmonitor, htiming, hled⟩ := h
  refine ⟨hwifi, ?_, htiming, hled⟩
  simp only [Monitor.redacted, Monitor.mk.injEq] at hmonitor
  obtain ⟨hurl, hpath, hmethod, htoken, hvariable, hinsecure, htimeout⟩ := hmonitor
  simp only [Monitor.redacted, Given.override, hurl, hpath, hmethod, hvariable, hinsecure, htimeout]
  cases g.token with
  | none => simpa using htoken
  | some token => rfl

/-- Where loading comes out alike but for the secrets, so does the command. -/
theorem showOutcome_congr {s' : Surroundings}
    (h : (g.settings s').map redacted = (g.settings s).map redacted) :
    showOutcome g s' = showOutcome g s := by
  have hrendered : (g.settings s' >>= render) = (g.settings s >>= render) := by
    generalize g.settings s = x at h ⊢
    generalize g.settings s' = y at h ⊢
    cases x with
    | error e =>
      cases y with
      | error e' => exact congrArg Except.error (Except.error.inj h)
      | ok b => nomatch h
    | ok a =>
      cases y with
      | error e' => nomatch h
      | ok b => exact render_congr (Except.ok.inj h)
  rw [showOutcome, showOutcome, hrendered]

theorem settings_retold {tell : String → Option String} (h : Covers tell s.environment) :
    (g.settings { s with environment := s.environment.retold tell }).map redacted =
      (g.settings s).map redacted := by
  have hopenly : s.environment.SameOpenly (s.environment.retold tell) := fun _ => h.text?_eq
  have hpath : g.file s.accountHome (s.environment.retold tell) =
      g.file s.accountHome s.environment := by
    rw [Given.file, Given.file, usualFile_congr hopenly]
  have hload (file : String) (content : Option (List UInt8)) :
      (load file content (s.environment.retold tell)).map redacted =
        (load file content s.environment).map redacted := h.load_eq
  replace hload := hload (Path.tidy (g.file s.accountHome s.environment))
    (s.file (g.file s.accountHome s.environment))
  simp only [Given.settings, hpath]
  generalize load _ _ (s.environment.retold tell) = y at hload ⊢
  generalize load _ _ s.environment = x at hload ⊢
  cases x with
  | error e =>
    cases y with
    | error e' => exact congrArg Except.error (Except.error.inj hload)
    | ok b => cases hload
  | ok a =>
    cases y with
    | error e' => cases hload
    | ok b => exact congrArg Except.ok (override_congr (Except.ok.inj hload))

theorem report_configuration : ∃ back, ∀ m, report (.configuration m) =
    "Invalid configuration: " ++ (m ++ back) := by
  obtain ⟨help, hhelp⟩ : ∃ help, ∀ m, (Diagnostic.configuration m).help? = some help :=
    ⟨_, fun _ => rfl⟩
  obtain ⟨code, hcode⟩ : ∃ code, ∀ m, (Diagnostic.configuration m).code? = some code :=
    ⟨_, fun _ => rfl⟩
  refine ⟨"\n    Diagnostic severity: error" ++ ("\ndiagnostic " ++ "help" ++ ": " ++ help) ++
    ("\ndiagnostic " ++ "code" ++ ": " ++ code) ++ "\n", fun m => ?_⟩
  rw [report, hhelp, hcode]
  dsimp only [Diagnostic.message]
  simp only [String.append_assoc]

theorem failed_of_mismatch (file : String) (path : List String) (o : Origin) :
    ∃ front back, ∀ found, Outcome.failed (.ofSettings
      (.unreadable file (.badValue ⟨.mismatch found .text, path, o⟩))) =
        ⟨3, "", front ++ found ++ back⟩ := by
  obtain ⟨behind, hreport⟩ := report_configuration
  refine ⟨"Invalid configuration: " ++ ("config loading failed: " ++ "invalid type: found "),
    ", expected " ++ Shape.text.name ++ " for key " ++ Text.quoted (o.keyText path) ++ " in " ++
      o.source file ++ behind, fun found => ?_⟩
  have hmessage : (SettingsError.unreadable file
      (.badValue ⟨.mismatch found .text, path, o⟩)).message = "config loading failed: " ++
        ("invalid type: found " ++ found ++ ", expected " ++ Shape.text.name ++ " for key " ++
          Text.quoted (o.keyText path) ++ " in " ++ o.source file) := rfl
  rw [Outcome.failed, Diagnostic.ofSettings, hreport, hmessage]
  · simp only [String.append_assoc]
    rfl
  · exact nofun

/-- Showing the settings keeps a secret that reads as a text: whatever it is, the outcome is the same,
printed or failed. Of one that reads as anything else the report tells what it is, and where the rest
loads, that is all there is to the outcome. -/
theorem show_discloses (hread : read s.environment words = .ok ⟨.show, g⟩) :
    (∀ tell, Covers tell s.environment →
      perform words { s with environment := s.environment.retold tell } = perform words s) ∧
    ∀ k ∈ all, k.path ∈ secretPaths → ∀ name before t₀ after, path? name = some k.path →
      s.environment = before ++ (name, t₀) :: after → Prevails name k.path (before ++ after) →
      (∃ settings, g.settings s = .ok settings) →
      ∃ front back, ∀ t found, (valueOf t).disclosed = some found →
        perform words { s with environment := before ++ (name, t) :: after } =
          .ended ⟨3, "", front ++ found ++ back⟩ := by
  constructor
  · intro tell h
    have hsame : s.environment.SameOpenly (s.environment.retold tell) := fun _ => h.text?_eq
    have hread' : read (s.environment.retold tell) words = .ok ⟨.show, g⟩ := by
      rw [read_congr hsame, hread]
    rw [perform_of_show hread, perform_of_show hread', showOutcome_congr (settings_retold h)]
  · rintro k hk hsecret name before t₀ after hname henvironment hlast ⟨settings, hsettings⟩
    obtain ⟨front, back, hfailed⟩ := failed_of_mismatch
      (Path.tidy (g.file s.accountHome s.environment)) k.path .environment
    refine ⟨front, back, fun t found hfound => ?_⟩
    have hsame : s.environment.SameOpenly (before ++ (name, t) :: after) := by
      rw [henvironment]
      exact sameOpenly_of_swap ⟨k.path, hsecret, hname⟩
    have hread' : read (before ++ (name, t) :: after) words = .ok ⟨.show, g⟩ := by
      rw [read_congr hsame, hread]
    have hpath : g.file s.accountHome (before ++ (name, t) :: after) =
        g.file s.accountHome s.environment := by
      rw [Given.file, Given.file, usualFile_congr hsame]
    obtain ⟨s₀, hload⟩ : ∃ s₀, load (Path.tidy (g.file s.accountHome s.environment))
        (s.file (g.file s.accountHome s.environment)) (before ++ (name, t₀) :: after) = .ok s₀ := by
      obtain ⟨s₀, hload, -⟩ := Given.settings_eq_ok_iff.1 hsettings
      exact ⟨s₀, by rwa [henvironment] at hload ⊢⟩
    have hbad := load_of_disclosed hk hsecret hname hlast hload hfound
    rw [perform_of_show hread', ← hfailed found, showOutcome, Given.settings]
    dsimp only
    rw [hpath, hbad]
    rfl

/-- A secret of other words changes nothing; one of digits is all that is different. -/
theorem show_discloses_secret :
    let s (psk : String) : Surroundings :=
      ⟨[("UPBEAT_MONITOR__TOKEN", "abc123"), ("UPBEAT_WIFI__PSK", psk)], some "/home/u",
        fun _ => none, ⟨fun _ _ => none, fun _ => .unreachable .refused⟩⟩
    read (s "hunter22").environment ["config", "show"] = .ok ⟨.show, .nothing⟩ ∧
      perform ["config", "show"] (s "correct horse") = perform ["config", "show"] (s "hunter22") ∧
      ∃ front back,
        perform ["config", "show"] (s "12345678") =
            .ended ⟨3, "", front ++ "unsigned int `12345678`" ++ back⟩ ∧
        perform ["config", "show"] (s "[1]") = .ended ⟨3, "", front ++ "sequence" ++ back⟩ := by
  intro s
  have hread : read (s "hunter22").environment ["config", "show"] = .ok ⟨.show, .nothing⟩ := by
    decide +kernel
  have hloads : ∃ settings, Given.nothing.settings (s "hunter22") = .ok settings := by
    have hnamed : (s "hunter22").environment.named =
        [("UPBEAT_MONITOR__TOKEN", ["monitor", "token"], "abc123"),
          ("UPBEAT_WIFI__PSK", ["wifi", "psk"], "hunter22")] := by decide +kernel
    have hlayer := layer_of_sorted hnamed (by decide)
    refine ⟨Given.nothing.override ⟨{ Wifi.standard with secret := some "hunter22" },
      { Monitor.standard with token := some "abc123" }, .standard, none⟩, ?_⟩
    rw [Given.settings, load_eq rfl, hlayer]
    decide +kernel
  obtain ⟨hsame, hdigits⟩ := show_discloses hread
  constructor
  · exact hread
  constructor
  · let tell (name : String) : Option String :=
      if name = "UPBEAT_WIFI__PSK" then some "correct horse" else none
    have hcovers : Covers tell (s "hunter22").environment := by
      intro v hv t ht
      obtain ⟨hname, rfl⟩ : v.1 = "UPBEAT_WIFI__PSK" ∧ t = "correct horse" := by
        simpa [tell, eq_comm] using ht
      have hv' : v = ("UPBEAT_WIFI__PSK", "hunter22") := by
        simp only [s, List.mem_cons, List.not_mem_nil, or_false] at hv
        rcases hv with rfl | rfl
        · nomatch hname
        · rfl
      subst hv'
      exact ⟨⟨["wifi", "psk"], by decide, by decide +kernel⟩, by decide +kernel⟩
    exact hsame tell hcovers
  · let psk : Slot Wifi := ⟨"psk", .text, fun w => .text w.secret⟩
    have hpsk : psk.within "wifi" wifi ∈ all := within_wifi_mem_all (by simp [Wifi.slots, psk])
    have hlast : Prevails "UPBEAT_WIFI__PSK" ["wifi", "psk"]
        ([("UPBEAT_MONITOR__TOKEN", "abc123")] ++ []) := by
      intro e he q hq
      obtain rfl := List.mem_singleton.1 he
      exact .inr (by decide)
    obtain ⟨front, back, h⟩ := hdigits _ hpsk (by decide) "UPBEAT_WIFI__PSK"
      [("UPBEAT_MONITOR__TOKEN", "abc123")] "hunter22" [] (by decide +kernel) rfl hlast hloads
    exact ⟨front, back, h "12345678" _ (by decide +kernel), h "[1]" _ (by decide +kernel)⟩

/-- A secret of digits stands in the report, and so one differs from any other. -/
theorem show_tells_digits :
    let s (psk : String) : Surroundings :=
      ⟨[("UPBEAT_MONITOR__TOKEN", "abc123"), ("UPBEAT_WIFI__PSK", psk)], some "/home/u",
        fun _ => none, ⟨fun _ _ => none, fun _ => .unreachable .refused⟩⟩
    perform ["config", "show"] (s "12345678") ≠ perform ["config", "show"] (s "hunter22") ∧
      perform ["config", "show"] (s "12345678") = .ended (.failed (.configuration <|
        "config loading failed: invalid type: found unsigned int `12345678`, expected a string " ++
        "for key \"WIFI.PSK\" in `UPBEAT_` environment variable(s)")) := by
  intro s
  have hperform (t : String) : perform ["config", "show"] (s t) =
      .ended (showOutcome .nothing (s t)) :=
    perform_of_show rfl
  have hlayer (t : String) : (s t).environment.layer = stack (.table .environment [])
      [("UPBEAT_MONITOR__TOKEN", ["monitor", "token"], "abc123"),
        ("UPBEAT_WIFI__PSK", ["wifi", "psk"], t)] := by
    have htoken : path? "UPBEAT_MONITOR__TOKEN" = some ["monitor", "token"] := by decide +kernel
    have hpsk : path? "UPBEAT_WIFI__PSK" = some ["wifi", "psk"] := by decide +kernel
    apply layer_of_sorted
    · simp [named, s, htoken, hpsk]
    · simp [byName]
  have hwords : ∃ shown, showOutcome .nothing (s "hunter22") = .printed shown := by
    have hof : ofValue ((s "hunter22").environment.layer.over (.table .file [])) =
        .ok ⟨{ Wifi.standard with secret := some "hunter22" },
          { Monitor.standard with token := some "abc123" }, .standard, none⟩ := by
      rw [hlayer]
      decide +kernel
    rw [showOutcome, Given.settings, load_eq rfl, hof]
    exact ⟨_, rfl⟩
  have hdigits : showOutcome .nothing (s "12345678") = .failed (.configuration <|
      "config loading failed: invalid type: found unsigned int `12345678`, expected a string " ++
      "for key \"WIFI.PSK\" in `UPBEAT_` environment variable(s)") := by
    have hof : ofValue ((s "12345678").environment.layer.over (.table .file [])) =
        .error ⟨.mismatch "unsigned int `12345678`" .text, ["wifi", "psk"], .environment⟩ := by
      rw [hlayer]
      decide +kernel
    rw [showOutcome, Given.settings, load_eq rfl, hof]
    decide +kernel
  refine ⟨fun h => ?_, by rw [hperform, hdigits]⟩
  obtain ⟨shown, hshown⟩ := hwords
  rw [hperform, hperform, hdigits, hshown] at h
  have hexit : 3 = 0 := congrArg Outcome.exit (Performed.ended.inj h)
  exact absurd hexit (by decide)

end CommandLine
end Liveness
