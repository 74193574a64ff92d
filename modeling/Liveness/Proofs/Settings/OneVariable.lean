import Liveness.Proofs.Settings.Reading
import Liveness.Proofs.Settings.Verbatim

/-! What the text of one variable does to loading, all else being equal: it decides about its own
setting, and about nothing else. -/
namespace Liveness.Settings

namespace Environment
variable {name : String} {path p : List String} {before after : Environment} {v : Value}
  {w : Option Value}

/-- Of the other variables, those that come later than `name` speak of nothing at, above or below
a path. -/
def Prevails (name : String) (path : List String) (others : Environment) : Prop :=
  ∀ e ∈ others, ∀ q, path? e.1 = some q → Apart path q ∨ e.1 < name

/-- The layer holds the value of such a variable at its path, over what others say there, and
elsewhere the text makes no difference. -/
theorem at?_layer_of_prevails (hname : path? name = some path)
    (hlast : Prevails name path (before ++ after)) :
    (∃ w, ∀ t, (layer (before ++ (name, t) :: after)).at? path = some ((valueOf t).onto w)) ∧
    ∀ t t₀ p, Apart p path → (layer (before ++ (name, t) :: after)).at? p =
      (layer (before ++ (name, t₀) :: after)).at? p := by
  obtain ⟨x, y, hlayer, hmem, hlater⟩ := exists_stack before after hname
  have hy : ∀ v ∈ y, Apart path v.2.1 := by
    intro v hv
    obtain ⟨hin, hpath⟩ := (hmem v).1 (List.mem_append_right x hv)
    rcases hlast _ hin _ hpath with hapart | hlt
    · exact hapart
    · exact absurd hlt (String.not_lt.2 (hlater v hv))
  refine ⟨⟨(stack (.table .environment []) x).at? path, fun t => ?_⟩, fun t t₀ p hp => ?_⟩
  · rw [hlayer, at?_stack_of_apart hy, at?_nest_over (ordered_valueOf t)]
  · rw [hlayer, hlayer]
    apply at?_stack_congr
    rw [at?_nest_over_of_apart (ordered_valueOf t) hp,
      at?_nest_over_of_apart (ordered_valueOf t₀) hp]

theorem origin_valueOf (t : String) : (valueOf t).origin = .environment := by
  rw [valueOf]
  split
  · rename_i v h
    obtain ⟨left, hreads, -⟩ := reads_of_value? h
    generalize skipGaps t.toList = front at hreads
    cases hreads <;> rfl
  · rfl

end Environment

section Places
variable {v v' u u' : Value} {w : Option Value} {group key : String} {k : Setting} {s s' : Settings}

theorem at?_one {o : Origin} {es : Fields} : (Value.table o es).at? [key] = es.lookup key :=
  Option.bind_fun_some _

theorem exists_of_at?_pair (h : v.at? [group, key] = some u) :
    ∃ (o p : Origin) (es gs : Fields), v = .table o es ∧ es.lookup group = some (.table p gs) ∧
      gs.lookup key = some u := by
  cases v with
  | scalar => nomatch h
  | list => nomatch h
  | table o es =>
    obtain ⟨g, hgroup, hkey⟩ := Option.bind_eq_some_iff.1 h
    cases g with
    | scalar => nomatch hkey
    | list => nomatch hkey
    | table p gs => exact ⟨o, p, es, gs, rfl, hgroup, at?_one.symm.trans hkey⟩

theorem blocks_beside {g f : String} (h : v.at? [group, key] = some u) :
    v.blocks [g] = false ∧ v.blocks [group, f] = false := by
  obtain ⟨o, p, es, gs, rfl, hgroup, -⟩ := exists_of_at?_pair h
  constructor
  · rw [Value.blocks]
    cases es.lookup g <;> rfl
  · rw [Value.blocks, hgroup, Option.any_some, Value.blocks]
    cases gs.lookup f <;> rfl

/-- Two values that hold `u` and `u'` in the place of one setting, and the same elsewhere. -/
structure Swapped (k : Setting) (u u' v v' : Value) : Prop where
  ordered : v.Ordered
  ordered' : v'.Ordered
  held : v.at? k.path = some u
  held' : v'.at? k.path = some u'
  groups : ∀ g, g ≠ k.group → v'.at? [g] = v.at? [g]
  keys : ∀ f, f ≠ k.key → v'.at? [k.group, f] = v.at? [k.group, f]

theorem Swapped.exists_put (h : Swapped k u u' v v') :
    ∃ (o p o' p' : Origin) (es gs : Fields), v = .table o es ∧
      es.lookup k.group = some (.table p gs) ∧ gs.lookup k.key = some u ∧
      v' = .table o' (es.put k.group (.table p' (gs.put k.key u'))) := by
  -- Fields in order are equal where they hold the same under every key: first the group's, then all.
  obtain ⟨hv, hv', hu, hu', hgroups, hkeys⟩ := h
  obtain ⟨o, p, es, gs, rfl, hgroup, hkey⟩ := exists_of_at?_pair hu
  obtain ⟨o', p', es', gs', rfl, hgroup', hkey'⟩ := exists_of_at?_pair hu'
  have hgs : gs.Increasing := (hv.of_lookup hgroup).increasing
  have hgs' : gs'.Increasing := (hv'.of_lookup hgroup').increasing
  have hinner : gs' = gs.put k.key u' := by
    apply hgs'.ext hgs.put
    intro f
    rw [Fields.lookup_put]
    by_cases hf : f = k.key
    · rw [if_pos hf, hf, hkey']
    · rw [if_neg hf, ← at?_of_group hgroup', ← at?_of_group hgroup]
      exact hkeys f hf
  have houter : es' = es.put k.group (.table p' gs') := by
    apply hv'.increasing.ext hv.increasing.put
    intro g
    rw [Fields.lookup_put]
    by_cases hg : g = k.group
    · rw [if_pos hg, hg, hgroup']
    · have hsame := hgroups g hg
      rw [at?_one, at?_one] at hsame
      rw [if_neg hg, hsame]
  exact ⟨o, p, o', p', es, gs, rfl, hgroup, hkey, by rw [houter, hinner]⟩

theorem Swapped.verdict_ofValue (h : Swapped k u u' v v') (hk : k ∈ all) (hs : ofValue v = .ok s) :
    verdict (ofValue v') = verdict (k.kind.read k.path u') := by
  have hordered := h.ordered
  obtain ⟨o, p, o', p', es, gs, rfl, hgroup, hkey, rfl⟩ := h.exists_put
  exact verdict_ofValue_put hk hordered hgroup hkey hs

theorem Swapped.value_of_ne (h : Swapped k u u' v v') {k' : Setting} (hk' : k' ∈ all)
    (hne : k'.path ≠ k.path) (hs : ofValue v = .ok s) (hs' : ofValue v' = .ok s') :
    k'.value s' = k'.value s := by
  by_cases hgroup : k'.group = k.group
  · have hkey : k'.key ≠ k.key := by
      intro heq
      apply hne
      rw [Setting.path, Setting.path, hgroup, heq]
    have hpath : k'.path = [k.group, k'.key] := by rw [Setting.path, hgroup]
    have hroom : v.blocks k'.path = false := hpath ▸ (blocks_beside (g := k.group) h.held).2
    have hroom' : v'.blocks k'.path = false := hpath ▸ (blocks_beside (g := k.group) h.held').2
    have hvalue := value_of_ofValue hk' h.ordered hroom hs
    have hvalue' := value_of_ofValue hk' h.ordered' hroom' hs'
    rw [hpath, h.keys _ hkey, ← hpath] at hvalue'
    exact Option.some.inj (hvalue'.symm.trans hvalue)
  · have hsame := h.groups _ hgroup
    have hv := h.ordered
    have hv' := h.ordered'
    obtain ⟨o, p, es, gs, rfl, -, -⟩ := exists_of_at?_pair h.held
    obtain ⟨o', p', es', gs', rfl, -, -⟩ := exists_of_at?_pair h.held'
    rw [at?_one, at?_one] at hsame
    exact value_congr hk' hv' hv hs' hs hsame

/-- A value that denotes something sets its setting to it, and leaves the others. -/
theorem Swapped.ofValue_of_denotes (h : Swapped k u u' v v') (hk : k ∈ all) (hs : ofValue v = .ok s)
    {d : Datum} (hd : k.kind.denotes u' = some d) :
    ∃ s', ofValue v' = .ok s' ∧ k.value s' = d ∧ ∀ k' ∈ all, k' ≠ k → k'.value s' = k'.value s := by
  have hverdict := h.verdict_ofValue hk hs
  rw [Kind.read_eq_ok_iff.2 hd] at hverdict
  obtain ⟨s', hs'⟩ := verdict_eq_ok_iff.1 hverdict
  have hvalue := value_of_ofValue hk h.ordered' (Value.blocks_of_at? h.held') hs'
  rw [h.held'] at hvalue
  refine ⟨s', hs', Option.some.inj (hvalue.symm.trans hd), fun k' hk' hne => ?_⟩
  apply h.value_of_ne hk' _ hs hs'
  intro hpath
  exact hne (eq_of_path_eq hk' hk hpath)

theorem Swapped.ofValue_of_no_text (h : Swapped k u u' v v') (hk : k ∈ all) (hkind : k.kind = .text)
    (hs : ofValue v = .ok s) (hd : Kind.text.denotes u' = none) :
    ofValue v' = .error ⟨.mismatch u'.description .text, k.path, u'.origin⟩ := by
  have hread : Kind.text.read k.path u' =
      .error ⟨.mismatch u'.description .text, k.path, u'.origin⟩ := by
    cases u' with
    | scalar o s => cases s <;> first | rfl | nomatch hd
    | list => rfl
    | table => rfl
  have hverdict := h.verdict_ofValue hk hs
  rw [hkind, hread] at hverdict
  exact verdict_eq_error_iff.1 hverdict

theorem description_onto : (v.onto w).description = v.description := by
  cases w with
  | none => rfl
  | some w =>
    cases v with
    | scalar => rfl
    | list => rfl
    | table => cases w <;> rfl

theorem origin_onto : (v.onto w).origin = v.origin := by
  cases w with
  | none => rfl
  | some w =>
    cases v with
    | scalar => rfl
    | list => rfl
    | table => cases w <;> rfl

end Places

section Loading
open Environment
variable {k : Setting} {name file : String} {content : Option (List UInt8)}
  {before after : Environment} {t t₀ : String} {s₀ : Settings} {below : Value}

theorem apart_group {g : String} (h : g ≠ k.group) : Apart [g] k.path := by
  constructor <;> intro hpath
  · exact h (List.cons_prefix_cons.1 hpath).1
  · exact h (List.cons_prefix_cons.1 hpath).1.symm

theorem apart_key {f : String} (h : f ≠ k.key) : Apart [k.group, f] k.path := by
  constructor <;> intro hpath
  · exact h (List.cons_prefix_cons.1 (List.cons_prefix_cons.1 hpath).2).1
  · exact h (List.cons_prefix_cons.1 (List.cons_prefix_cons.1 hpath).2).1.symm

/-- Two texts of one variable make the merged values differ in its place alone. -/
theorem swapped_of_prevails (hname : path? name = some k.path)
    (hlast : Prevails name k.path (before ++ after)) (hbelow : below.Ordered) (t₀ t : String) :
    ∃ w w', Swapped k (((valueOf t₀).onto w).onto w') (((valueOf t).onto w).onto w')
      ((layer (before ++ (name, t₀) :: after)).over below)
      ((layer (before ++ (name, t) :: after)).over below) := by
  obtain ⟨⟨w, hat⟩, hsame⟩ := at?_layer_of_prevails hname hlast
  have hplace (t : String) : ((layer (before ++ (name, t) :: after)).over below).at? k.path =
      some (((valueOf t).onto w).onto (below.at? k.path)) := by
    rw [Value.at?_over ordered_layer, hat]
  have hbeside {q : List String} (hq : Apart q k.path)
      (hroom : ∀ t, (layer (before ++ (name, t) :: after)).blocks q = false) :
      ((layer (before ++ (name, t) :: after)).over below).at? q =
        ((layer (before ++ (name, t₀) :: after)).over below).at? q := by
    rw [Value.at?_over ordered_layer, Value.at?_over ordered_layer, hsame t t₀ q hq, hroom, hroom]
  refine ⟨w, below.at? k.path, ordered_layer.over hbelow, ordered_layer.over hbelow, hplace t₀,
    hplace t, fun g hg => ?_, fun f hf => ?_⟩
  · exact hbeside (apart_group hg) fun t => (blocks_beside (f := k.key) (hat t)).1
  · exact hbeside (apart_key hf) fun t => (blocks_beside (g := k.group) (hat t)).2

/-- The layer of one variable that stands for a path, with any others that stand for none. -/
theorem layer_of_named {environment : Environment} {path : List String}
    (h : environment.named = [(name, path, t)]) :
    environment.layer = (nest (valueOf t) path).over (.table .environment []) := by
  rw [layer_eq, h, List.mergeSort_singleton]
  rfl

/-- One variable among others, for a setting that is a text. Where everything else loads, the text
of the variable decides: it gives the setting the text that it denotes, and no other setting
anything; or it denotes none, and loading fails for it. It arrives unchanged just where it is
kept. -/
theorem load_of_variable (hk : k ∈ all) (hkind : k.kind = .text)
    (hname : path? name = some k.path) (hlast : Prevails name k.path (before ++ after))
    (hs₀ : load file content (before ++ (name, t₀) :: after) = .ok s₀) (t : String) :
    (∀ d, Kind.text.denotes (valueOf t) = some d →
      ∃ s, load file content (before ++ (name, t) :: after) = .ok s ∧ k.value s = d ∧
        ∀ k' ∈ all, k' ≠ k → k'.value s = k'.value s₀) ∧
    (Kind.text.denotes (valueOf t) = none →
      load file content (before ++ (name, t) :: after) = .error (.unreadable file
        (.badValue ⟨.mismatch (valueOf t).description .text, k.path, .environment⟩))) ∧
    ((∃ s, load file content (before ++ (name, t) :: after) = .ok s ∧
      k.value s = .text (some t)) ↔ Kept t) := by
  obtain ⟨below, hfile⟩ := exists_fileLayer hs₀
  obtain ⟨w, w', hswapped⟩ := swapped_of_prevails hname hlast (ordered_fileLayer hfile) t₀ t
  have hof₀ := (load_eq_ok_iff hfile).1 hs₀
  have hdenotes : Kind.text.denotes (((valueOf t).onto w).onto w') =
      Kind.text.denotes (valueOf t) := by
    rw [Kind.denotes_onto, Kind.denotes_onto]
  have hgood : ∀ d, Kind.text.denotes (valueOf t) = some d →
      ∃ s, load file content (before ++ (name, t) :: after) = .ok s ∧ k.value s = d ∧
        ∀ k' ∈ all, k' ≠ k → k'.value s = k'.value s₀ := by
    intro d hd
    rw [← hdenotes, ← hkind] at hd
    obtain ⟨s, hs, hvalue, hothers⟩ := hswapped.ofValue_of_denotes hk hof₀ hd
    exact ⟨s, (load_eq_ok_iff hfile).2 hs, hvalue, hothers⟩
  have hbad : Kind.text.denotes (valueOf t) = none →
      load file content (before ++ (name, t) :: after) = .error (.unreadable file
        (.badValue ⟨.mismatch (valueOf t).description .text, k.path, .environment⟩)) := by
    intro hd
    rw [← hdenotes] at hd
    rw [load_eq hfile, hswapped.ofValue_of_no_text hk hkind hof₀ hd, description_onto,
      description_onto, origin_onto, origin_onto, origin_valueOf]
    rfl
  refine ⟨hgood, hbad, ?_⟩
  rw [← denotes_valueOf_iff]
  constructor
  · rintro ⟨s, hs, hvalue⟩
    cases hd : Kind.text.denotes (valueOf t) with
    | some d =>
      obtain ⟨s', hs', hvalue', -⟩ := hgood d hd
      obtain rfl : s' = s := Except.ok.inj (hs'.symm.trans hs)
      rw [← hvalue, hvalue']
    | none =>
      rw [hbad hd] at hs
      nomatch hs
  · intro hd
    obtain ⟨s, hs, hvalue, -⟩ := hgood _ hd
    exact ⟨s, hs, hvalue⟩

/-- A secret of words arrives, and one of digits does not load. -/
theorem load_of_variable_secret :
    let psk : Slot Wifi := ⟨"psk", .text, fun w => .text w.secret⟩
    let k := psk.within "wifi" wifi
    let environment (t : String) : Environment := [("PATH", "/bin")] ++ ("UPBEAT_WIFI__PSK", t) :: []
    k ∈ all ∧ k.kind = .text ∧ path? "UPBEAT_WIFI__PSK" = some k.path ∧
      Prevails "UPBEAT_WIFI__PSK" k.path ([("PATH", "/bin")] ++ []) ∧
      (∃ s₀, load "config.toml" none (environment "hunter22") = .ok s₀) ∧
      (∃ s, load "config.toml" none (environment "correct horse") = .ok s ∧
        k.value s = .text (some "correct horse")) ∧
      load "config.toml" none (environment "12345678") = .error (.unreadable "config.toml"
        (.badValue ⟨.mismatch "unsigned int `12345678`" .text, ["wifi", "psk"], .environment⟩)) := by
  intro psk k environment
  have hk : k ∈ all := by
    have hpsk : psk ∈ Wifi.slots := by simp [Wifi.slots, psk]
    exact List.mem_append_left _ (List.mem_append_left _ (List.mem_append_left _
      (List.mem_map_of_mem hpsk)))
  have hname : path? "UPBEAT_WIFI__PSK" = some k.path := by decide +kernel
  have hlast : Prevails "UPBEAT_WIFI__PSK" k.path ([("PATH", "/bin")] ++ []) := by
    intro e he q hq
    obtain rfl := List.mem_singleton.1 he
    rw [show path? "PATH" = none by decide +kernel] at hq
    cases hq
  have hs₀ : load "config.toml" none (environment "hunter22") =
      .ok { standard with wifi := { Wifi.standard with secret := some "hunter22" } } := by
    have hnamed : (environment "hunter22").named =
        [("UPBEAT_WIFI__PSK", ["wifi", "psk"], "hunter22")] := by decide +kernel
    rw [load_eq rfl, layer_of_named hnamed]
    decide +kernel
  have hwords := load_of_variable hk rfl hname hlast hs₀ "correct horse"
  have hdigits := load_of_variable hk rfl hname hlast hs₀ "12345678"
  have hkept : Kept "correct horse" := by
    rw [← denotes_valueOf_iff]
    decide +kernel
  have hnone : Kind.text.denotes (valueOf "12345678") = none := by decide +kernel
  have hfails := hdigits.2.1 hnone
  rw [show (valueOf "12345678").description = "unsigned int `12345678`" by decide +kernel] at hfails
  exact ⟨hk, rfl, hname, hlast, ⟨_, hs₀⟩, hwords.2.2.2 hkept, hfails⟩

/-- The secret of digits, alone: everything else loads, and with it nothing does. -/
theorem load_of_secret_of_digits :
    load "config.toml" none [("UPBEAT_WIFI__PSK", "hunter22")] =
        .ok { standard with wifi := { Wifi.standard with secret := some "hunter22" } } ∧
      load "config.toml" none [("UPBEAT_WIFI__PSK", "12345678")] =
        .error (.unreadable "config.toml" (.badValue
          ⟨.mismatch "unsigned int `12345678`" .text, ["wifi", "psk"], .environment⟩)) := by
  have hname (t : String) : Environment.named [("UPBEAT_WIFI__PSK", t)] =
      [("UPBEAT_WIFI__PSK", ["wifi", "psk"], t)] :=
    @named_split [] [] "UPBEAT_WIFI__PSK" t ["wifi", "psk"] (by decide +kernel)
  constructor
  · rw [load_eq rfl, layer_of_named (hname _)]
    decide +kernel
  · rw [load_eq rfl, layer_of_named (hname _)]
    decide +kernel

end Loading
end Liveness.Settings
