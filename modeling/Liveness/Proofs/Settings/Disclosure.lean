import Liveness.Proofs.Settings.OneVariable
import Liveness.Settings.Printer

/-! Two readings of settings that differ where a secret stands. What is shown of the settings is the
same, and so is the report of a failure, unless the secret is no text: then the report tells what it
is. -/
namespace Liveness.Settings

def secretPaths : List (List String) := [["wifi", "psk"], ["monitor", "token"]]

section Relations

/-- What a report tells of a value in the place of a text: nothing, if it is a text. -/
def Value.disclosed (v : Value) : Option String :=
  if (Kind.text.denotes v).isSome then none else some v.description

/-- Two values that no report tells apart. -/
structure Value.Veiled (v w : Value) : Prop where
  origin : v.origin = w.origin
  disclosed : v.disclosed = w.disclosed

/-- Fields under the same keys, in the same order, whose values are related as their key says. -/
abbrev Fields.Matched (Q : String → Value → Value → Prop) (es fs : Fields) : Prop :=
  List.Forall₂ (fun a b => a.1 = b.1 ∧ Q a.1 a.2 b.2) es fs

/-- The same value, or two tables with matching fields. -/
inductive Value.Lift (Q : String → Value → Value → Prop) : Value → Value → Prop
  | same (v : Value) : Lift Q v v
  | table (o : Origin) {es fs : Fields} (h : Fields.Matched Q es fs) :
    Lift Q (.table o es) (.table o fs)

/-- The values of a key in a group: they may differ unseen if the key names a secret. -/
def InGroup (group key : String) (v w : Value) : Prop :=
  if [group, key] ∈ secretPaths then v.Veiled w else v = w

/-- Two values that differ, unseen, at most where the secrets stand. -/
def Value.Alike : Value → Value → Prop := Lift fun group => Lift (InGroup group)

/-- A relation that one layer over another keeps. -/
structure Layerwise (R : Value → Value → Prop) : Prop where
  refl : ∀ v, R v v
  above : ∀ {v w v' w'}, R v w → R v' w' → R (v.over v') (w.over w')

variable {Q : String → Value → Value → Prop} {es fs es' fs' : Fields} {key : String}
  {v w : Value}

theorem Fields.Matched.refl (hQ : ∀ k v, Q k v v) : Fields.Matched Q es es :=
  List.forall₂_same.2 fun e _ => ⟨rfl, hQ e.1 e.2⟩

theorem Fields.Matched.lookup (h : Fields.Matched Q es fs) :
    Option.Rel (Q key) (es.lookup key) (fs.lookup key) := by
  induction h with
  | nil => exact .none
  | @cons a b es fs hab h ih =>
    obtain ⟨k, v⟩ := a
    obtain ⟨k', w⟩ := b
    obtain ⟨rfl, hvalue⟩ : k = k' ∧ Q k v w := hab
    rw [Fields.lookup_cons_eq, Fields.lookup_cons_eq]
    by_cases hk : key = k
    · subst hk
      rw [if_pos rfl, if_pos rfl]
      exact .some hvalue
    · rw [if_neg hk, if_neg hk]
      exact ih

theorem Fields.Matched.put (h : Fields.Matched Q es fs) (hvw : Q key v w) :
    Fields.Matched Q (Fields.put key v es) (Fields.put key w fs) := by
  induction h with
  | nil => exact .cons ⟨rfl, hvw⟩ .nil
  | @cons a b es fs hab h ih =>
    obtain ⟨k, v'⟩ := a
    obtain ⟨k', w'⟩ := b
    obtain ⟨rfl, hvalue⟩ : k = k' ∧ Q k v' w' := hab
    rw [Fields.put, Fields.put]
    split_ifs with heq hlt
    · subst heq
      exact .cons ⟨rfl, hvw⟩ h
    · exact .cons ⟨rfl, hvw⟩ (.cons ⟨rfl, hvalue⟩ h)
    · exact .cons ⟨rfl, hvalue⟩ ih

theorem Fields.Matched.over (hQ : ∀ k, Layerwise (Q k)) (h : Fields.Matched Q es fs)
    (h' : Fields.Matched Q es' fs') :
    Fields.Matched Q (Fields.over es es') (Fields.over fs fs') := by
  induction h generalizing es' fs' with
  | nil =>
    rw [Fields.over, Fields.over]
    exact h'
  | @cons a b es fs hab h ih =>
    obtain ⟨k, v⟩ := a
    obtain ⟨k', w⟩ := b
    obtain ⟨rfl, hvalue⟩ : k = k' ∧ Q k v w := hab
    rw [Fields.over, Fields.over, Fields.enter_eq, Fields.enter_eq]
    apply ih
    apply h'.put
    have hlookup : Option.Rel (Q k) (es'.lookup k) (fs'.lookup k) := h'.lookup
    generalize es'.lookup k = below at hlookup ⊢
    generalize fs'.lookup k = below' at hlookup ⊢
    cases hlookup with
    | none => exact hvalue
    | some hbelow => exact (hQ k).above hvalue hbelow

theorem layerwise_eq : Layerwise (fun v w => v = w) :=
  ⟨fun _ => rfl, fun h h' => by rw [h, h']⟩

theorem layerwise_veiled : Layerwise Value.Veiled := by
  have hkeeps (v w : Value) : (v.over w).origin = v.origin ∧ (v.over w).disclosed = v.disclosed := by
    have horigin : (v.onto (some w)).origin = v.origin := origin_onto
    have hdescription : (v.onto (some w)).description = v.description := description_onto
    have hdenotes : Kind.text.denotes (v.onto (some w)) = Kind.text.denotes v := Kind.denotes_onto
    refine ⟨horigin, ?_⟩
    rw [Value.disclosed, Value.disclosed, ← hdescription, ← hdenotes]
    rfl
  refine ⟨fun v => ⟨rfl, rfl⟩, fun {v w v' w'} h _ => ⟨?_, ?_⟩⟩
  · rw [(hkeeps v v').1, (hkeeps w w').1, h.origin]
  · rw [(hkeeps v v').2, (hkeeps w w').2, h.disclosed]

theorem Layerwise.lift (hQ : ∀ k, Layerwise (Q k)) : Layerwise (Value.Lift Q) := by
  have hrefl (es : Fields) : Fields.Matched Q es es := .refl fun k => (hQ k).refl
  refine ⟨.same, fun {v w v' w'} h h' => ?_⟩
  cases h with
  | same v =>
    cases h' with
    | same => exact .same _
    | table p h' =>
      cases v with
      | scalar => exact .same _
      | list => exact .same _
      | table o es =>
        rw [Value.over, Value.over]
        exact .table o (.over hQ (hrefl es) h')
  | table o h =>
    cases h' with
    | same v' =>
      cases v' with
      | scalar => exact .table o h
      | list => exact .table o h
      | table p es' =>
        rw [Value.over, Value.over]
        exact .table o (.over hQ h (hrefl es'))
    | table p h' =>
      rw [Value.over, Value.over]
      exact .table o (.over hQ h h')

theorem layerwise_inGroup (group key : String) : Layerwise (InGroup group key) := by
  unfold InGroup
  split_ifs
  · exact layerwise_veiled
  · exact layerwise_eq

theorem layerwise_alike : Layerwise Value.Alike :=
  .lift fun group => .lift (layerwise_inGroup group)

theorem alike_nest {path : List String} (hpath : path ∈ secretPaths) (h : v.Veiled w) :
    (Environment.nest v path).Alike (Environment.nest w path) := by
  obtain ⟨group, key, rfl⟩ : ∃ group key, path = [group, key] := by
    simp only [secretPaths, List.mem_cons, List.not_mem_nil, or_false] at hpath
    rcases hpath with rfl | rfl
    · exact ⟨_, _, rfl⟩
    · exact ⟨_, _, rfl⟩
  have hkey : InGroup group key v w := by
    rw [InGroup, if_pos hpath]
    exact h
  exact .table _ (.cons ⟨rfl, .table _ (.cons ⟨rfl, hkey⟩ .nil)⟩ .nil)

end Relations

section Variables
open Environment
variable {environment : Environment} {tell : String → Option String}

def Environment.retold (tell : String → Option String) (environment : Environment) : Environment :=
  environment.map fun v => (v.1, (tell v.1).getD v.2)

/-- Only secrets are told anew, and what reports disclose of them stays. -/
def Environment.Covers (tell : String → Option String) (environment : Environment) : Prop :=
  ∀ v ∈ environment, ∀ t, tell v.1 = some t →
    (∃ path ∈ secretPaths, path? v.1 = some path) ∧
      (valueOf t).disclosed = (valueOf v.2).disclosed

theorem Environment.named_retold : (environment.retold tell).named =
    environment.named.map fun v => (v.1, v.2.1, (tell v.1).getD v.2.2) := by
  rw [retold, named, named, List.filterMap_map, List.map_filterMap]
  congr 1
  funext v
  simp only [Function.comp_apply, Option.map_map]
  rfl

theorem alike_stack {base base' : Value} {vs : List (String × List String × String)}
    {text : String × List String × String → String} (hbase : base.Alike base')
    (h : ∀ v ∈ vs, (nest (valueOf v.2.2) v.2.1).Alike (nest (valueOf (text v)) v.2.1)) :
    (stack base vs).Alike (stack base' (vs.map fun v => (v.1, v.2.1, text v))) := by
  induction vs generalizing base base' with
  | nil => exact hbase
  | cons v vs ih =>
    apply ih
    · exact layerwise_alike.above (h v List.mem_cons_self) hbase
    · exact fun u hu => h u (List.mem_cons_of_mem v hu)

theorem Environment.Covers.alike_layer (h : environment.Covers tell) :
    environment.layer.Alike (environment.retold tell).layer := by
  let anew (v : String × List String × String) : String × List String × String :=
    (v.1, v.2.1, (tell v.1).getD v.2.2)
  have hsorted : (environment.named.map anew).mergeSort byName =
      (environment.named.mergeSort byName).map anew :=
    (List.map_mergeSort (r := byName) (f := anew) (fun _ _ _ _ => rfl)).symm
  rw [layer_eq, layer_eq, named_retold, hsorted]
  apply alike_stack (layerwise_alike.refl _)
  intro v hv
  obtain ⟨hmem, hpath⟩ := mem_named.1 (List.mem_mergeSort.1 hv)
  cases htell : tell v.1 with
  | none => exact layerwise_alike.refl _
  | some t =>
    obtain ⟨⟨path, hsecret, hpath'⟩, hdisclosed⟩ := h _ hmem t htell
    obtain rfl : v.2.1 = path := Option.some.inj (hpath.symm.trans hpath')
    apply alike_nest hsecret
    exact ⟨by rw [origin_valueOf, Option.getD_some, origin_valueOf], hdisclosed.symm⟩

theorem Environment.lookup_retold {name : String} :
    (environment.retold tell).lookup name = (environment.lookup name).map (tell name).getD := by
  induction environment with
  | nil => rfl
  | cons v environment ih =>
    rw [retold, List.map_cons, List.lookup_cons, List.lookup_cons]
    by_cases hname : name = v.1
    · subst hname
      rw [beq_self_eq_true]
      rfl
    · rw [beq_false_of_ne hname]
      exact ih

/-- A variable that stands for no secret keeps its text. -/
theorem Environment.Covers.text?_eq (h : environment.Covers tell) {name : String}
    (hname : ∀ path ∈ secretPaths, path? name ≠ some path) :
    (environment.retold tell).text? name = environment.text? name := by
  rw [text?, text?, lookup_retold]
  congr 1
  cases hlookup : environment.lookup name with
  | none => rfl
  | some t =>
    obtain ⟨before, after, rfl, -⟩ := List.lookup_eq_some_iff.1 hlookup
    cases htell : tell name with
    | none => rfl
    | some t' =>
      have hmem : (name, t) ∈ before ++ (name, t) :: after :=
        List.mem_append_right _ List.mem_cons_self
      obtain ⟨⟨path, hsecret, hpath⟩, -⟩ := h _ hmem t' htell
      exact absurd hpath (hname path hsecret)

end Variables

section Reading
variable {α β σ τ ρ π ε : Type}

theorem map_bind_congr {x y : Except ε α} {f : α → ρ} {k l : α → Except ε β} {g : β → π}
    (hxy : x.map f = y.map f) (hkl : ∀ a b, f a = f b → (k a).map g = (l b).map g) :
    (x >>= k).map g = (y >>= l).map g := by
  cases x with
  | error e =>
    cases y with
    | error e' =>
      obtain rfl : e = e' := Except.error.inj hxy
      rfl
    | ok b => nomatch hxy
  | ok a =>
    cases y with
    | error e => nomatch hxy
    | ok b => exact hkl a b (Except.ok.inj hxy)

variable {Q : String → Value → Value → Prop} {R : Value → Value → Prop}
  {fields : List (Field σ)} {path : List String} {es fs : Fields} {v w : Value} {s s' : σ}

/-- A field that sets related values, and fails on them, without a difference in what `shown` shows
of the record. -/
def Field.Hides (shown : σ → ρ) (R : Value → Value → Prop) (f : Field σ) : Prop :=
  ∀ p v w s s', R v w → shown s = shown s' → (f.set p v s).map shown = (f.set p w s').map shown

variable {shown : σ → ρ}

theorem readTable_hides (hfields : ∀ f ∈ fields, f.Hides shown (Q f.name))
    (h : Fields.Matched Q es fs) (hs : shown s = shown s') :
    (readTable fields path es s).map shown = (readTable fields path fs s').map shown := by
  induction h generalizing s s' with
  | nil => exact congrArg Except.ok hs
  | @cons a b es fs hab h ih =>
    obtain ⟨k, v⟩ := a
    obtain ⟨k', w⟩ := b
    obtain ⟨rfl, hvalue⟩ : k = k' ∧ Q k v w := hab
    cases hfind : fields.find? (·.name == k) with
    | none =>
      rw [readTable_cons_unknown hfind, readTable_cons_unknown hfind]
      exact ih hs
    | some f =>
      obtain ⟨hmem, rfl⟩ := find?_eq_some hfind
      rw [readTable_cons_known hfind, readTable_cons_known hfind]
      apply map_bind_congr
      · exact hfields f hmem _ v w s s' hvalue hs
      · exact fun _ _ => ih

theorem readList_hides {short : Nat → BadValue} {index : Nat} {items : List Value}
    (hQ : ∀ k v, Q k v v) (hfields : ∀ f ∈ fields, f.Hides shown (Q f.name))
    (hs : shown s = shown s') :
    (readList path short index fields items s).map shown =
      (readList path short index fields items s').map shown := by
  induction fields generalizing index items s s' with
  | nil => exact congrArg Except.ok hs
  | cons f fields ih =>
    have hrest : ∀ g ∈ fields, g.Hides shown (Q g.name) :=
      fun g hg => hfields g (List.mem_cons_of_mem f hg)
    cases items with
    | nil =>
      rw [readList, readList]
      cases f.optional with
      | true => exact ih hrest hs
      | false => rfl
    | cons v items =>
      rw [readList, readList]
      apply map_bind_congr
      · exact hfields f List.mem_cons_self _ v v s s' (hQ f.name v) hs
      · exact fun _ _ => ih hrest

theorem readRecord_hides {name : String} (hQ : ∀ k v, Q k v v)
    (hfields : ∀ f ∈ fields, f.Hides shown (Q f.name)) (h : Value.Lift Q v w)
    (hs : shown s = shown s') :
    (readRecord name fields path v s).map shown = (readRecord name fields path w s').map shown := by
  cases h with
  | same v =>
    cases v with
    | scalar => rfl
    | list => exact readList_hides hQ hfields hs
    | table => exact readTable_hides hfields (.refl hQ) hs
  | table o h => exact readTable_hides hfields h hs

/-- A field that takes the same value in both cases. -/
theorem hides_of_eq {name : String} {optional : Bool} {read : List String → Value → Except BadValue α}
    {put : σ → α → σ} (hR : ∀ v w, R v w → v = w)
    (hput : ∀ x s s', shown s = shown s' → shown (put s x) = shown (put s' x)) :
    Field.Hides shown R ⟨name, optional, fun p v s => read p v >>= fun x => .ok (put s x)⟩ := by
  intro p v w s s' hvw hs
  obtain rfl := hR v w hvw
  refine map_bind_congr (f := id) rfl fun x y hxy => ?_
  obtain rfl : x = y := hxy
  exact congrArg Except.ok (hput x s s' hs)

theorem verdict_text : verdict (v.text path) = match v.disclosed with
    | none => .ok ()
    | some found => .error ⟨.mismatch found .text, path, v.origin⟩ := by
  cases v with
  | scalar o s => cases s <;> rfl
  | list => rfl
  | table => rfl

theorem hides_of_veiled {name : String} {optional : Bool} {put : σ → String → σ}
    (hR : ∀ v w, R v w → v.Veiled w)
    (hput : ∀ x y s s', shown s = shown s' → shown (put s x) = shown (put s' y)) :
    Field.Hides shown R ⟨name, optional, fun p v s => v.text p >>= fun x => .ok (put s x)⟩ := by
  intro p v w s s' hvw hs
  have hveiled := hR v w hvw
  have hverdict : verdict (v.text p) = verdict (w.text p) := by
    rw [verdict_text, verdict_text, hveiled.disclosed, hveiled.origin]
  exact map_bind_congr hverdict fun x y _ => congrArg Except.ok (hput x y s s' hs)

/-- A field for a record of which some part is shown. -/
theorem hides_of_record {key name : String} {optional : Bool} {inner : List (Field τ)} {part : σ → τ}
    {put : σ → τ → σ} {seen : τ → π} (hQ : ∀ k v, Q k v v)
    (hinner : ∀ f ∈ inner, f.Hides seen (Q f.name))
    (hpart : ∀ s s', shown s = shown s' → seen (part s) = seen (part s'))
    (hput : ∀ x y s s', seen x = seen y → shown s = shown s' → shown (put s x) = shown (put s' y)) :
    Field.Hides shown (Value.Lift Q) ⟨key, optional, fun p v s =>
      readRecord name inner p v (part s) >>= fun x => .ok (put s x)⟩ := by
  intro p v w s s' hvw hs
  apply map_bind_congr
  · exact readRecord_hides hQ hinner hvw (hpart s s' hs)
  · exact fun x y hxy => congrArg Except.ok (hput x y s s' hxy hs)

end Reading

section Records

def Wifi.redacted (w : Wifi) : Wifi := { w with secret := w.secret.map fun _ => placeholder }

def Monitor.redacted (m : Monitor) : Monitor := { m with token := m.token.map fun _ => placeholder }

theorem inGroup_of_open {group key : String} (h : [group, key] ∉ secretPaths) (v w : Value)
    (hvw : InGroup group key v w) : v = w := by
  rwa [InGroup, if_neg h] at hvw

theorem inGroup_of_secret {group key : String} (h : [group, key] ∈ secretPaths) (v w : Value)
    (hvw : InGroup group key v w) : v.Veiled w := by
  rwa [InGroup, if_pos h] at hvw

theorem Wifi.hides : ∀ f ∈ Wifi.fields, f.Hides Wifi.redacted (InGroup "wifi" f.name) := by
  simp only [Wifi.fields, List.forall_mem_cons]
  refine ⟨?_, ?_, ?_, ?_, ?_, List.forall_mem_nil _⟩
  case refine_3 =>
    exact hides_of_veiled (inGroup_of_secret (by decide)) (by simp +contextual [Wifi.redacted])
  all_goals
    exact hides_of_eq (inGroup_of_open (by decide)) (by simp +contextual [Wifi.redacted])

theorem Monitor.hides : ∀ f ∈ Monitor.fields, f.Hides Monitor.redacted (InGroup "monitor" f.name) := by
  simp only [Monitor.fields, List.forall_mem_cons]
  refine ⟨?_, ?_, ?_, ?_, ?_, ?_, ?_, List.forall_mem_nil _⟩
  case refine_4 =>
    exact hides_of_veiled (inGroup_of_secret (by decide)) (by simp +contextual [Monitor.redacted])
  all_goals
    exact hides_of_eq (inGroup_of_open (by decide)) (by simp +contextual [Monitor.redacted])

theorem Timing.hides : ∀ f ∈ Timing.fields, f.Hides id (InGroup "timing" f.name) := by
  simp only [Timing.fields, List.forall_mem_cons]
  refine ⟨?_, ?_, ?_, ?_, ?_, List.forall_mem_nil _⟩
  all_goals
    exact hides_of_eq (inGroup_of_open (by decide)) (by simp +contextual)

theorem hides_indicator :
    ∀ f ∈ indicatorFields, f.Hides id (InGroup "indicator" f.name) := by
  simp only [indicatorFields, List.forall_mem_cons]
  refine ⟨?_, List.forall_mem_nil _⟩
  exact hides_of_eq (inGroup_of_open (by decide)) (by simp)

theorem redacted_eq_iff {s s' : Settings} : s.redacted = s'.redacted ↔
    s.wifi.redacted = s'.wifi.redacted ∧ s.monitor.redacted = s'.monitor.redacted ∧
      s.timing = s'.timing ∧ s.led = s'.led :=
  Settings.mk.injEq .. ▸ Iff.rfl

theorem hides_fields : ∀ f ∈ fields, f.Hides redacted (Value.Lift (InGroup f.name)) := by
  have hrefl (group key : String) (v : Value) : InGroup group key v v :=
    (layerwise_inGroup group key).refl v
  simp only [fields, List.forall_mem_cons]
  refine ⟨?_, ?_, ?_, ?_, List.forall_mem_nil _⟩
  · exact hides_of_record (hrefl _) Wifi.hides (by simp +contextual [redacted_eq_iff])
      (by simp +contextual [redacted_eq_iff])
  · exact hides_of_record (hrefl _) Monitor.hides (by simp +contextual [redacted_eq_iff])
      (by simp +contextual [redacted_eq_iff])
  · exact hides_of_record (hrefl _) Timing.hides (by simp +contextual [redacted_eq_iff])
      (by simp +contextual [redacted_eq_iff])
  · exact hides_of_record (hrefl _) hides_indicator (by simp +contextual [redacted_eq_iff])
      (by simp +contextual [redacted_eq_iff])

/-- Values that differ unseen give settings that are shown the same, or fail the same. -/
theorem ofValue_alike {v w : Value} (h : v.Alike w) :
    (ofValue v).map redacted = (ofValue w).map redacted :=
  readRecord_hides (fun group => (Layerwise.lift (layerwise_inGroup group)).refl) hides_fields h rfl

theorem render_congr {s s' : Settings} (h : s.redacted = s'.redacted) : s.render = s'.render := by
  have hnumbers : s.redacted.numbers = s'.redacted.numbers := congrArg numbers h
  have hsame : s.numbers = s'.numbers := hnumbers
  rw [render, render, hsame, h]

end Records

section Loading
variable {environment : Environment} {tell : String → Option String} {file : String}
  {content : Option (List UInt8)}

/-- Secrets told anew, with nothing more disclosed of them, leave what is shown of the settings, or
the failure of loading them. -/
theorem Environment.Covers.load_eq (h : environment.Covers tell) :
    (load file content (environment.retold tell)).map redacted =
      (load file content environment).map redacted := by
  unfold load
  cases fileLayer content with
  | error fault => rfl
  | ok below =>
    have hsame := ofValue_alike (layerwise_alike.above h.alike_layer (layerwise_alike.refl below))
    dsimp only
    generalize ofValue (environment.layer.over below) = x at hsame ⊢
    generalize ofValue ((environment.retold tell).layer.over below) = y at hsame ⊢
    cases x with
    | error b =>
      cases y with
      | error b' =>
        obtain rfl : b = b' := Except.error.inj hsame
        rfl
      | ok s' => nomatch hsame
    | ok s =>
      cases y with
      | error b' => nomatch hsame
      | ok s' => exact congrArg Except.ok (Except.ok.inj hsame).symm

end Loading
end Liveness.Settings
