import Liveness.Settings.Environment
import Mathlib.Data.List.Basic

/-! What a path of keys leads to in a value, and what it leads to in one value over another. -/
namespace Liveness.Settings

/-- What a path of keys leads to. -/
def Value.at? : List String → Value → Option Value
  | [], v => some v
  | key :: keys, .table _ es => (es.lookup key).bind (Value.at? keys)
  | _ :: _, _ => none

/-- A value without keys stands before the end of a path. -/
def Value.blocks : List String → Value → Bool
  | [], _ => false
  | key :: keys, .table _ es => (es.lookup key).any (Value.blocks keys)
  | _ :: _, _ => true

/-- A value in which every table has its keys in order, so that none occurs twice. -/
inductive Value.Ordered : Value → Prop
  | scalar (o : Origin) (s : Scalar) : Ordered (.scalar o s)
  | list (o : Origin) {items : List Value} (h : ∀ v ∈ items, Ordered v) : Ordered (.list o items)
  | table (o : Origin) {es : Fields} (keys : es.Pairwise fun a b => a.1 < b.1)
    (values : ∀ e ∈ es, Ordered e.2) : Ordered (.table o es)

def Value.onto (v : Value) : Option Value → Value
  | none => v
  | some w => v.over w

abbrev Fields.Increasing (es : Fields) : Prop := es.Pairwise fun a b => a.1 < b.1

namespace Fields
variable {key key' : String} {v : Value} {es es' fs : Fields}

theorem lookup_cons_eq :
    ((key, v) :: es).lookup key' = if key' = key then some v else es.lookup key' := by
  rw [List.lookup_cons]
  by_cases h : key' = key
  · rw [h, beq_self_eq_true, if_pos rfl]
  · rw [beq_false_of_ne h, if_neg h]

theorem lookup_put : (put key v es).lookup key' = if key' = key then some v else es.lookup key' := by
  induction es with
  | nil => rw [put, lookup_cons_eq]
  | cons e es ih =>
    obtain ⟨k, u⟩ := e
    rw [put]
    by_cases heq : key = k
    · subst heq
      rw [if_pos rfl, lookup_cons_eq, lookup_cons_eq]
      split_ifs <;> rfl
    · rw [if_neg heq]
      by_cases hlt : key < k
      · rw [if_pos hlt, lookup_cons_eq]
      · rw [if_neg hlt, lookup_cons_eq, lookup_cons_eq, ih]
        by_cases hk : key' = k
        · have hne : key' ≠ key := fun h => heq (h.symm.trans hk)
          rw [if_pos hk, if_neg hne, if_pos hk]
        · rw [if_neg hk, if_neg hk]

theorem mem_put {e : String × Value} (h : e ∈ put key v es) : e = (key, v) ∨ e ∈ es := by
  induction es with
  | nil => exact .inl (List.mem_singleton.1 h)
  | cons f es ih =>
    obtain ⟨k, u⟩ := f
    rw [put] at h
    split_ifs at h with heq hlt
    · obtain rfl | h := List.mem_cons.1 h
      · exact .inl (heq ▸ rfl)
      · exact .inr (List.mem_cons_of_mem _ h)
    · exact (List.mem_cons.1 h).imp_right id
    · obtain rfl | h := List.mem_cons.1 h
      · exact .inr List.mem_cons_self
      · exact (ih h).imp_right (List.mem_cons_of_mem _)

theorem Increasing.put (h : Increasing es) : Increasing (Fields.put key v es) := by
  induction es with
  | nil => exact List.pairwise_singleton _ _
  | cons e es ih =>
    obtain ⟨k, u⟩ := e
    obtain ⟨hfirst, hrest⟩ := List.pairwise_cons.1 h
    rw [Fields.put]
    split_ifs with heq hlt
    · exact List.pairwise_cons.2 ⟨hfirst, hrest⟩
    · refine List.pairwise_cons.2 ⟨fun f hf => ?_, h⟩
      obtain rfl | hf := List.mem_cons.1 hf
      · exact hlt
      · exact String.lt_trans hlt (hfirst f hf)
    · refine List.pairwise_cons.2 ⟨fun f hf => ?_, ih hrest⟩
      obtain rfl | hf := mem_put hf
      · exact Std.lt_of_le_of_ne (String.not_lt.1 hlt) (Ne.symm heq)
      · exact hfirst f hf

theorem lookup_eq_none_of_lt (h : ∀ e ∈ es, key < e.1) : es.lookup key = none := by
  rw [List.lookup_eq_none_iff]
  intro e he
  have hne : key ≠ e.1 := fun heq => String.lt_irrefl key (heq ▸ h e he)
  simpa using hne

/-- In order, fields are known by what they hold under each key. -/
theorem Increasing.ext (h : Increasing es) (h' : Increasing es')
    (hsame : ∀ key, es.lookup key = es'.lookup key) : es = es' := by
  induction es generalizing es' with
  | nil =>
    cases es' with
    | nil => rfl
    | cons f fs =>
      have hf := hsame f.1
      rw [List.lookup_nil, List.lookup_cons_self] at hf
      nomatch hf
  | cons e es ih =>
    obtain ⟨hfirst, hrest⟩ := List.pairwise_cons.1 h
    cases es' with
    | nil =>
      have he := hsame e.1
      rw [List.lookup_nil, List.lookup_cons_self] at he
      nomatch he
    | cons f fs =>
      obtain ⟨hfirst', hrest'⟩ := List.pairwise_cons.1 h'
      -- The lesser of the two first keys would be missing on the other side.
      have hkey : e.1 = f.1 := by
        by_contra hne
        rcases String.le_total e.1 f.1 with hle | hle
        · have hlt := Std.lt_of_le_of_ne hle hne
          have hnone : (f :: fs).lookup e.1 = none := by
            apply lookup_eq_none_of_lt
            intro g hg
            obtain rfl | hg := List.mem_cons.1 hg
            · exact hlt
            · exact String.lt_trans hlt (hfirst' g hg)
          rw [← hsame, List.lookup_cons_self] at hnone
          nomatch hnone
        · have hlt := Std.lt_of_le_of_ne hle (Ne.symm hne)
          have hnone : (e :: es).lookup f.1 = none := by
            apply lookup_eq_none_of_lt
            intro g hg
            obtain rfl | hg := List.mem_cons.1 hg
            · exact hlt
            · exact String.lt_trans hlt (hfirst g hg)
          rw [hsame, List.lookup_cons_self] at hnone
          nomatch hnone
      have hvalue := hsame e.1
      rw [List.lookup_cons_self, hkey, List.lookup_cons_self] at hvalue
      have hhead : e = f := Prod.ext hkey (Option.some.inj hvalue)
      subst hhead
      congr 1
      apply ih hrest hrest'
      intro key
      by_cases hk : key = e.1
      · rw [hk, lookup_eq_none_of_lt hfirst, lookup_eq_none_of_lt hfirst']
      · have hrestSame := hsame key
        rw [lookup_cons_eq, lookup_cons_eq, if_neg hk, if_neg hk] at hrestSame
        exact hrestSame

theorem enter_eq : enter (key, v) es = put key (v.onto (es.lookup key)) es := by
  rw [enter]
  cases es.lookup key <;> rfl

theorem lookup_over (h : Increasing fs) :
    (Fields.over fs es).lookup key = match fs.lookup key with
      | some v => some (v.onto (es.lookup key))
      | none => es.lookup key := by
  induction fs generalizing es with
  | nil => rw [Fields.over]; rfl
  | cons f fs ih =>
    obtain ⟨k, u⟩ := f
    obtain ⟨hfirst, hrest⟩ := List.pairwise_cons.1 h
    rw [Fields.over, ih hrest, enter_eq, lookup_put, lookup_cons_eq]
    by_cases hk : key = k
    · rw [hk, lookup_eq_none_of_lt hfirst, if_pos rfl, if_pos rfl]
    · rw [if_neg hk, if_neg hk]

theorem Increasing.over (h : Increasing es) : Increasing (Fields.over fs es) := by
  induction fs generalizing es with
  | nil => rwa [Fields.over]
  | cons f fs ih =>
    rw [Fields.over]
    apply ih
    rw [enter_eq]
    exact h.put

end Fields

namespace Value
variable {v w : Value} {path : List String}

theorem Ordered.over (hv : v.Ordered) (hw : w.Ordered) : (v.over w).Ordered := by
  induction hv generalizing w with
  | scalar o s => exact .scalar o s
  | list o h => exact .list o h
  | @table o fs keys values ih =>
    cases hw with
    | scalar => exact .table o keys values
    | list => exact .table o keys values
    | @table p es keys' values' =>
      rw [Value.over]
      refine .table o (Fields.Increasing.over keys') ?_
      clear keys keys'
      induction fs generalizing es with
      | nil => rwa [Fields.over]
      | cons f fs ihfs =>
        obtain ⟨k, u⟩ := f
        rw [Fields.over]
        apply ihfs
        · exact fun e he => values e (List.mem_cons_of_mem _ he)
        · exact fun e he => ih e (List.mem_cons_of_mem _ he)
        · intro e he
          rw [Fields.enter_eq] at he
          obtain rfl | he := Fields.mem_put he
          · cases hlookup : es.lookup k with
            | none => exact values _ List.mem_cons_self
            | some below =>
              have hbelow : (k, below) ∈ es := by
                obtain ⟨before, after, rfl, -⟩ := List.lookup_eq_some_iff.1 hlookup
                exact List.mem_append_right _ List.mem_cons_self
              exact ih _ List.mem_cons_self (values' _ hbelow)
          · exact values' e he

theorem Ordered.increasing {o : Origin} {es : Fields} (h : (Value.table o es).Ordered) :
    Fields.Increasing es := by
  cases h with
  | table _ keys _ => exact keys

theorem Ordered.of_lookup {o : Origin} {es : Fields} {key : String}
    (h : (Value.table o es).Ordered) (hv : es.lookup key = some v) : v.Ordered := by
  cases h with
  | table _ _ values =>
    obtain ⟨before, after, rfl, -⟩ := List.lookup_eq_some_iff.1 hv
    exact values (key, v) (List.mem_append_right _ List.mem_cons_self)

/-- One layer over another: what the upper one has at a path stands over what the lower one has
there, and the lower one shows where the upper one leaves room. -/
theorem at?_over (hv : v.Ordered) :
    (v.over w).at? path = match v.at? path with
      | some u => some (u.onto (w.at? path))
      | none => if v.blocks path then none else w.at? path := by
  induction path generalizing v w with
  | nil => rfl
  | cons key keys ih =>
    cases hv with
    | scalar => rfl
    | list => rfl
    | @table o fs hkeys hvalues =>
      have hupper : (Value.table o fs).Ordered := .table o hkeys hvalues
      have halone (hover : (Value.table o fs).over w = .table o fs)
          (hnone : w.at? (key :: keys) = none) : ((Value.table o fs).over w).at? (key :: keys) =
            match (Value.table o fs).at? (key :: keys) with
            | some u => some (u.onto (w.at? (key :: keys)))
            | none => if (Value.table o fs).blocks (key :: keys) then none
              else w.at? (key :: keys) := by
        rw [hover, hnone, ite_self]
        cases (Value.table o fs).at? (key :: keys) <;> rfl
      cases w with
      | scalar p s => exact halone (by rw [Value.over]; exact nofun) rfl
      | list p items => exact halone (by rw [Value.over]; exact nofun) rfl
      | table p es =>
        have hlookup := @Fields.lookup_over key es fs hkeys
        rw [Value.over]
        cases hfs : fs.lookup key with
        | none =>
          rw [hfs] at hlookup
          simp only [at?, blocks, hlookup, hfs]
          rfl
        | some u =>
          rw [hfs] at hlookup
          simp only [at?, blocks, hlookup, hfs, Option.bind_some, Option.any_some]
          cases hes : es.lookup key with
          | none =>
            simp only [onto, Option.bind_none, ite_self]
            cases u.at? keys <;> rfl
          | some below => exact ih (hupper.of_lookup hfs)

theorem blocks_over (hv : v.Ordered) (hupper : v.blocks path = false)
    (hlower : w.blocks path = false) : (v.over w).blocks path = false := by
  induction path generalizing v w with
  | nil => rfl
  | cons key keys ih =>
    cases hv with
    | scalar => nomatch hupper
    | list => nomatch hupper
    | @table o fs hkeys hvalues =>
      cases w with
      | scalar => nomatch hlower
      | list => nomatch hlower
      | table p es =>
        have htable : (Value.table o fs).Ordered := .table o hkeys hvalues
        rw [Value.over, blocks, Fields.lookup_over hkeys]
        rw [blocks] at hupper hlower
        cases hfs : fs.lookup key with
        | none => exact hlower
        | some u =>
          rw [hfs] at hupper
          cases hes : es.lookup key with
          | none => exact hupper
          | some below =>
            rw [hes] at hlower
            exact ih (htable.of_lookup hfs) hupper hlower

theorem blocks_of_at? {u : Value} (h : v.at? path = some u) : v.blocks path = false := by
  induction path generalizing v with
  | nil => rfl
  | cons key keys ih =>
    cases v with
    | scalar => nomatch h
    | list => nomatch h
    | table o es =>
      rw [at?] at h
      rw [blocks]
      cases hes : es.lookup key with
      | none => rfl
      | some below =>
        rw [hes] at h
        exact ih h

theorem Ordered.put {o : Origin} {es : Fields} {key : String} (h : (Value.table o es).Ordered)
    (hv : v.Ordered) : (Value.table o (Fields.put key v es)).Ordered := by
  cases h with
  | table _ keys values =>
    refine .table o (Fields.Increasing.put keys) fun e he => ?_
    obtain rfl | he := Fields.mem_put he
    · exact hv
    · exact values e he

end Value

/-- Neither of two paths leads to the other's end or beyond. -/
def Apart (path other : List String) : Prop := ¬ path <+: other ∧ ¬ other <+: path

section Nesting
open Environment
variable {v w : Value} {path keys : List String}

theorem ordered_nest (h : v.Ordered) : (nest v keys).Ordered := by
  induction keys with
  | nil => exact h
  | cons key keys ih =>
    refine .table .environment (List.pairwise_singleton _ _) fun e he => ?_
    rw [List.mem_singleton.1 he]
    exact ih

theorem at?_nest : (nest v keys).at? keys = some v := by
  induction keys with
  | nil => rfl
  | cons key keys ih =>
    rw [nest, Value.at?, List.lookup_cons_self, Option.bind_some]
    exact ih

/-- A value below one path says nothing about what is apart from it. -/
theorem at?_nest_of_apart (h : Apart path keys) :
    (nest v keys).at? path = none ∧ (nest v keys).blocks path = false := by
  induction keys generalizing path with
  | nil => exact absurd List.nil_prefix h.2
  | cons key keys ih =>
    cases path with
    | nil => exact absurd List.nil_prefix h.1
    | cons first path =>
      rw [nest, Value.at?, Value.blocks, Fields.lookup_cons_eq]
      by_cases hfirst : first = key
      · subst hfirst
        rw [if_pos rfl, Option.bind_some, Option.any_some]
        refine ih ⟨fun hprefix => h.1 ?_, fun hprefix => h.2 ?_⟩
        · exact (List.prefix_cons_inj first).2 hprefix
        · exact (List.prefix_cons_inj first).2 hprefix
      · rw [if_neg hfirst]
        exact ⟨rfl, rfl⟩

theorem at?_nest_over (h : v.Ordered) :
    ((nest v keys).over w).at? keys = some (v.onto (w.at? keys)) := by
  rw [Value.at?_over (ordered_nest h), at?_nest]

theorem at?_nest_over_of_apart (hv : v.Ordered) (h : Apart path keys) :
    ((nest v keys).over w).at? path = w.at? path := by
  obtain ⟨hnone, hroom⟩ := at?_nest_of_apart (v := v) h
  rw [Value.at?_over (ordered_nest hv), hnone, hroom]
  rfl

end Nesting

section Documents

mutual

theorem Value.ordered_ofNode : (n : Toml.Node) → (Value.ofNode n).Ordered
  | .scalar (.text s) => .scalar _ _
  | .scalar (.integer n) => .scalar _ _
  | .scalar (.real x) => .scalar _ _
  | .scalar (.boolean b) => .scalar _ _
  | .scalar (.moment written) => by
    refine .table .file (List.pairwise_singleton _ _) fun e he => ?_
    rw [List.mem_singleton.1 he]
    exact .scalar _ _
  | .array items => .list .file (Value.ordered_ofNodes items)
  | .tables elements => .list .file (Value.ordered_ofNodes elements)
  | .table _ entries => Fields.ordered_ofEntries entries

theorem Value.ordered_ofNodes : (ns : List Toml.Node) → ∀ v ∈ Value.ofNodes ns, v.Ordered
  | [], v, hv => nomatch hv
  | n :: ns, v, hv => by
    rw [Value.ofNodes, List.mem_cons] at hv
    obtain rfl | hv := hv
    · exact Value.ordered_ofNode n
    · exact Value.ordered_ofNodes ns v hv

theorem Fields.ordered_ofEntries :
    (es : List (String × Toml.Node)) → (Value.table .file (Fields.ofEntries es)).Ordered
  | [] => .table .file List.Pairwise.nil nofun
  | (_, n) :: es => (Fields.ordered_ofEntries es).put (Value.ordered_ofNode n)

end

end Documents
end Liveness.Settings
