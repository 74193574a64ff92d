import Liveness.Proofs.Settings.Layers

/-! The layer of the variables: what each form of a text reads as, and what the layer holds at the
path that a variable stands for. -/
namespace Liveness.Settings.Environment
open Text

section Values

/-- A text that begins like no truth value and with no quotation mark. -/
structure Plain (s : List Char) : Prop where
  truth : ¬ "true".toList <+: s
  falsehood : ¬ "false".toList <+: s
  quote : s.head? ≠ some '"'
  apostrophe : s.head? ≠ some '\''

/-- What stands at the front of a text without blanks before it, and what is left behind it. -/
inductive Reads : Nat → List Char → Value → List Char → Prop
  | truth {depth rest} :
    Reads depth ('t' :: 'r' :: 'u' :: 'e' :: rest) (.scalar .environment (.boolean true)) rest
  | falsehood {depth rest} :
    Reads depth ('f' :: 'a' :: 'l' :: 's' :: 'e' :: rest) (.scalar .environment (.boolean false)) rest
  | list {depth fuel s items rest} (h : collect? ']' (value? depth) fuel s = some (items, rest)) :
    Reads (depth + 1) ('[' :: s) (.list .environment items) rest
  | table {depth fuel s fields rest}
    (h : collect? '\x7d' (field? (value? depth)) fuel s = some (fields, rest)) :
    Reads (depth + 1) ('\x7b' :: s)
      (.table .environment (fields.foldl (fun es (k, v) => Fields.put k v es) [])) rest
  | quoted {depth s t rest} (h : quotedText? ('"' :: s) = some (t, rest)) :
    Reads depth ('"' :: s) (.scalar .environment (.text t)) rest
  | character {depth c rest} :
    Reads depth ('\'' :: c :: '\'' :: rest) (.scalar .environment (.character c)) rest
  | bare {depth s} (h : Plain s) :
    Reads depth s
      (.scalar .environment (bareScalar (dropAround isBlank (s.takeWhile (!isDelimiter ·)))))
      (s.dropWhile (!isDelimiter ·))

variable {depth fuel : Nat} {s rest : List Char} {v : Value}

theorem reads_of_value? (h : value? depth s = some (v, rest)) :
    ∃ left, Reads depth (skipGaps s) v left ∧ rest = skipGaps left := by
  unfold value? at h
  split at h
  case h_1 hs =>
    cases h
    rw [hs]
    exact ⟨_, .truth, rfl⟩
  case h_2 hs =>
    cases h
    rw [hs]
    exact ⟨_, .falsehood, rfl⟩
  case h_3 s' hs =>
    rw [hs]
    cases hitems : collect? ']' (value? _) (s'.length + 1) s' with
    | none => rw [hitems] at h; nomatch h
    | some r =>
      rw [hitems] at h
      cases h
      exact ⟨_, .list hitems, rfl⟩
  case h_4 s' hs =>
    rw [hs]
    cases hfields : collect? '\x7d' (field? (value? _)) (s'.length + 1) s' with
    | none => rw [hfields] at h; nomatch h
    | some r =>
      rw [hfields] at h
      cases h
      exact ⟨_, .table hfields, rfl⟩
  case h_5 s' hs =>
    rw [hs]
    cases hquoted : quotedText? ('"' :: s') with
    | none => rw [hquoted] at h; nomatch h
    | some r =>
      rw [hquoted] at h
      cases h
      exact ⟨_, .quoted hquoted, rfl⟩
  case h_6 hs =>
    cases h
    rw [hs]
    exact ⟨_, .character, rfl⟩
  case h_7 => nomatch h
  case h_8 htruth hfalse hquote _ happ _ _ =>
    cases h
    refine ⟨_, .bare ⟨?_, ?_, ?_, ?_⟩, rfl⟩
    · rintro ⟨left, hleft⟩
      exact htruth left hleft.symm
    · rintro ⟨left, hleft⟩
      exact hfalse left hleft.symm
    · intro hhead
      obtain ⟨left, hleft⟩ := List.head?_eq_some_iff.1 hhead
      exact hquote left hleft
    · intro hhead
      obtain ⟨left, hleft⟩ := List.head?_eq_some_iff.1 hhead
      exact happ left hleft

/-- Whatever holds of each thing that is read holds of all that are collected. -/
theorem forall_of_collect? {α : Type} {close : Char} {item : Reader α} {P : α → Prop} {l : List α}
    (hitem : ∀ s a rest, item s = some (a, rest) → P a)
    (h : collect? close item fuel s = some (l, rest)) : ∀ a ∈ l, P a := by
  induction fuel generalizing s l rest with
  | zero => nomatch h
  | succ fuel ih =>
    rw [collect?] at h
    split_ifs at h with hclose
    · cases h
      exact nofun
    · obtain ⟨⟨a, left⟩, ha, h⟩ := Option.bind_eq_some_iff.1 h
      have hfirst : P a := hitem _ _ _ ha
      simp only at h
      split at h
      · obtain ⟨⟨more, later⟩, hmore, h⟩ := Option.bind_eq_some_iff.1 h
        cases h
        exact List.forall_mem_cons.2 ⟨hfirst, ih hmore⟩
      · split_ifs at h
        cases h
        exact List.forall_mem_singleton.2 hfirst
      · nomatch h

theorem exists_of_field? {value : Reader Value} {field : String × Value}
    (h : field? value s = some (field, rest)) : ∃ s', value s' = some (field.2, rest) := by
  obtain ⟨⟨key, left⟩, -, h⟩ := Option.bind_eq_some_iff.1 h
  simp only at h
  split at h
  · obtain ⟨⟨v, later⟩, hv, h⟩ := Option.bind_eq_some_iff.1 h
    cases h
    exact ⟨_, hv⟩
  · nomatch h

theorem ordered_foldl_put {fields : Fields} (h : ∀ e ∈ fields, e.2.Ordered) {es : Fields}
    (hes : (Value.table .environment es).Ordered) :
    (Value.table .environment (fields.foldl (fun es (k, v) => Fields.put k v es) es)).Ordered := by
  induction fields generalizing es with
  | nil => exact hes
  | cons e fields ih =>
    apply ih
    · exact fun f hf => h f (List.mem_cons_of_mem e hf)
    · exact hes.put (h e List.mem_cons_self)

theorem ordered_of_value? (h : value? depth s = some (v, rest)) : v.Ordered := by
  induction depth generalizing s v rest with
  | zero =>
    obtain ⟨left, hreads, -⟩ := reads_of_value? h
    generalize skipGaps s = front at hreads
    cases hreads <;> exact .scalar _ _
  | succ depth ih =>
    obtain ⟨left, hreads, -⟩ := reads_of_value? h
    generalize skipGaps s = front at hreads
    cases hreads with
    | list hitems => exact .list _ (forall_of_collect? (fun _ _ _ => ih) hitems)
    | table hfields =>
      have hvalues := forall_of_collect? (P := fun e => e.2.Ordered) (fun s e rest hfield => by
        obtain ⟨s', hv⟩ := exists_of_field? hfield
        exact ih hv) hfields
      exact ordered_foldl_put hvalues (.table _ List.Pairwise.nil nofun)
    | _ => exact .scalar _ _

theorem ordered_valueOf (text : String) : (valueOf text).Ordered := by
  unfold valueOf
  split
  · rename_i v h
    exact ordered_of_value? h
  · exact .scalar _ _

end Values

section Stacks
variable {base base' : Value} {path : List String} {vs : List (String × List String × String)}

/-- Variables over a value, each of them below its path; a variable is a name, a path and a text. -/
def stack (base : Value) (vs : List (String × List String × String)) : Value :=
  vs.foldl (fun below v => (nest (valueOf v.2.2) v.2.1).over below) base

theorem stack_append {ws : List (String × List String × String)} :
    stack base (vs ++ ws) = stack (stack base vs) ws := List.foldl_append

theorem ordered_stack (h : base.Ordered) : (stack base vs).Ordered := by
  induction vs generalizing base with
  | nil => exact h
  | cons v vs ih => exact ih ((ordered_nest (ordered_valueOf v.2.2)).over h)

theorem at?_stack_of_apart (h : ∀ v ∈ vs, Apart path v.2.1) :
    (stack base vs).at? path = base.at? path := by
  induction vs generalizing base with
  | nil => rfl
  | cons v vs ih =>
    have hrest : ∀ w ∈ vs, Apart path w.2.1 := fun w hw => h w (List.mem_cons_of_mem v hw)
    exact (ih hrest).trans (at?_nest_over_of_apart (ordered_valueOf _) (h v List.mem_cons_self))

theorem blocks_stack_of_apart (h : ∀ v ∈ vs, Apart path v.2.1)
    (hroom : base.blocks path = false) : (stack base vs).blocks path = false := by
  induction vs generalizing base with
  | nil => exact hroom
  | cons v vs ih =>
    apply ih
    · exact fun w hw => h w (List.mem_cons_of_mem v hw)
    · exact Value.blocks_over (ordered_nest (ordered_valueOf _))
        (at?_nest_of_apart (h v List.mem_cons_self)).2 hroom

/-- Variables show of what is below them no more than what stands at the same path. -/
theorem at?_stack_congr (h : base.at? path = base'.at? path) :
    (stack base vs).at? path = (stack base' vs).at? path := by
  induction vs generalizing base base' with
  | nil => exact h
  | cons v vs ih =>
    apply ih
    have hv : (nest (valueOf v.2.2) v.2.1).Ordered := ordered_nest (ordered_valueOf _)
    rw [Value.at?_over hv, Value.at?_over hv, h]

end Stacks

section Sorting
variable {β : Type}

def byName (a b : String × β) : Bool := a.1 ≤ b.1

theorem pairwise_byName (l : List (String × β)) :
    (l.mergeSort byName).Pairwise fun a b => a.1 ≤ b.1 := by
  have hsorted := @List.pairwise_mergeSort _ (byName (β := β))
    (fun a b c hab hbc => by
      simp only [byName, decide_eq_true_eq] at hab hbc ⊢
      exact String.le_trans hab hbc)
    (fun a b => by
      simp only [byName, Bool.or_eq_true, decide_eq_true_eq]
      exact String.le_total a.1 b.1) l
  exact hsorted.imp fun h => of_decide_eq_true h

/-- Sorting by names puts what has a name in a place that does not hang on what it is. -/
theorem exists_place [Inhabited β] (a c : List (String × β)) (name : String) :
    ∃ x y, (∀ b, (a ++ (name, b) :: c).mergeSort byName = x ++ (name, b) :: y) ∧
      (x ++ y).Perm (a ++ c) ∧ ∀ e ∈ y, name ≤ e.1 := by
  -- The list with a gap, and what fills the gap.
  let known (e : String × β) : String × Option β := (e.1, some e.2)
  let fill (b : β) (e : String × Option β) : String × β := (e.1, e.2.getD b)
  let gap : String × Option β := (name, none)
  let marked := a.map known ++ gap :: c.map known
  have hfill (b : β) : marked.map (fill b) = a ++ (name, b) :: c := by
    simp only [marked, gap, known, fill, List.map_append, List.map_cons, List.map_map,
      Function.comp_def, Option.getD_some, Option.getD_none, List.map_id']
  have hperm := List.mergeSort_perm marked byName
  have hgap : gap ∈ marked.mergeSort byName :=
    hperm.mem_iff.2 (List.mem_append_right _ List.mem_cons_self)
  obtain ⟨x, y, hsorted⟩ := List.append_of_mem hgap
  have hrest : (x ++ y).Perm (a.map known ++ c.map known) := by
    rw [hsorted] at hperm
    exact (List.perm_middle.symm.trans (hperm.trans List.perm_middle)).cons_inv
  have hfull : ∀ e ∈ x ++ y, ∀ b b', fill b e = fill b' e := by
    intro e he b b'
    have hmem := hrest.mem_iff.1 he
    rw [← List.map_append] at hmem
    obtain ⟨d, -, rfl⟩ := List.mem_map.1 hmem
    rfl
  have hplace (b : β) : (a ++ (name, b) :: c).mergeSort byName =
      x.map (fill default) ++ (name, b) :: y.map (fill default) := by
    rw [← hfill b, ← List.map_mergeSort (r := byName) (f := fill b) (fun _ _ _ _ => rfl), hsorted,
      List.map_append, List.map_cons]
    congr 1
    · exact List.map_congr_left fun e he => hfull e (List.mem_append_left y he) b default
    · congr 1
      exact List.map_congr_left fun e he => hfull e (List.mem_append_right x he) b default
  refine ⟨x.map (fill default), y.map (fill default), hplace, ?_, ?_⟩
  · have hmap := hrest.map (fill default)
    rw [List.map_append, List.map_append, List.map_map, List.map_map] at hmap
    have hid : fill default ∘ known = id := rfl
    rwa [hid, List.map_id, List.map_id] at hmap
  · have hpairwise := pairwise_byName (a ++ (name, default) :: c)
    rw [hplace default] at hpairwise
    exact fun e he => List.rel_of_pairwise_cons (List.pairwise_append.1 hpairwise).2.1 he

end Sorting

section Layer
variable {environment before after : Environment} {name text : String} {path : List String}

def named (environment : Environment) : List (String × List String × String) :=
  environment.filterMap fun (name, text) => (path? name).map fun keys => (name, keys, text)

theorem mem_named {v : String × List String × String} :
    v ∈ environment.named ↔ (v.1, v.2.2) ∈ environment ∧ path? v.1 = some v.2.1 := by
  obtain ⟨name, keys, text⟩ := v
  simp only [named, List.mem_filterMap, Option.map_eq_some_iff, Prod.mk.injEq, Prod.exists]
  constructor
  · rintro ⟨_, _, hmem, _, hpath, rfl, rfl, rfl⟩
    exact ⟨hmem, hpath⟩
  · rintro ⟨hmem, hpath⟩
    exact ⟨name, text, hmem, keys, hpath, rfl, rfl, rfl⟩

theorem named_split (h : path? name = some path) :
    named (before ++ (name, text) :: after) = before.named ++ (name, path, text) :: after.named := by
  simp only [named, List.filterMap_append, List.filterMap_cons, h, Option.map_some]

theorem layer_eq : environment.layer =
    stack (.table .environment []) (environment.named.mergeSort byName) := by
  let entry (v : String × List String × String) : String × Value :=
    (v.1, nest (valueOf v.2.2) v.2.1)
  have hentries : environment.filterMap (fun (name, text) =>
      (path? name).map fun keys => (name, nest (valueOf text) keys)) =
        environment.named.map entry := by
    rw [named, List.map_filterMap]
    congr 1
    funext e
    rw [Option.map_map]
    rfl
  rw [layer, hentries, stack]
  show (List.mergeSort (environment.named.map entry) byName).foldl _ _ = _
  rw [← List.map_mergeSort (r := byName) (f := entry) (fun _ _ _ _ => rfl), List.foldl_map]

theorem layer_of_sorted {vs : List (String × List String × String)} (h : environment.named = vs)
    (hsorted : vs.Pairwise fun a b => byName a b) :
    environment.layer = stack (.table .environment []) vs := by
  rw [layer_eq, h, List.mergeSort_of_pairwise hsorted]

theorem ordered_layer : environment.layer.Ordered := by
  rw [layer_eq]
  exact ordered_stack (.table _ List.Pairwise.nil nofun)

/-- The text of one variable in its layer: the others come before or after it, whatever it is. -/
theorem exists_stack (before after : Environment) (h : path? name = some path) :
    ∃ x y, (∀ text, layer (before ++ (name, text) :: after) =
        stack ((nest (valueOf text) path).over (stack (.table .environment []) x)) y) ∧
      (∀ v, v ∈ x ++ y ↔ (v.1, v.2.2) ∈ before ++ after ∧ path? v.1 = some v.2.1) ∧
      ∀ v ∈ y, name ≤ v.1 := by
  obtain ⟨x, y, hsorted, hperm, hlater⟩ := exists_place before.named after.named name
  refine ⟨x, y, fun text => ?_, fun v => ?_, hlater⟩
  · rw [layer_eq, named_split h, hsorted, stack_append]
    rfl
  · have happend : before.named ++ after.named = (before ++ after).named :=
      List.filterMap_append.symm
    rw [hperm.mem_iff, happend, mem_named]

end Layer

end Liveness.Settings.Environment
