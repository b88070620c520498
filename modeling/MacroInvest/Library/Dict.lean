import Mathlib

/-! # Dictionaries in insertion order

A dictionary lists its entries in the order in which their keys first came, and no key twice.
Setting a key that is there changes its value and keeps its place.
-/
namespace MacroInvest

structure Dict (K V : Type*) where
  entries : List (K × V)
  distinct : (entries.map Prod.fst).Nodup

namespace Dict
variable {K V : Type*}

def empty : Dict K V := ⟨[],List.nodup_nil⟩

def keys (d : Dict K V) : List K := d.entries.map Prod.fst

def values (d : Dict K V) : List V := d.entries.map Prod.snd

variable [DecidableEq K]

def get? (d : Dict K V) (k : K) : Option V := d.entries.lookup k

def setEntries (k : K) (v : V) : List (K × V) → List (K × V)
  | [] => [(k,v)]
  | p :: entries => if p.1 = k then (k,v) :: entries else p :: setEntries k v entries

theorem mem_keys_setEntries {k j : K} {v : V} {entries : List (K × V)} :
    j ∈ (setEntries k v entries).map Prod.fst ↔ j = k ∨ j ∈ entries.map Prod.fst := by
  induction entries with
  | nil => simp [setEntries]
  | cons p entries ih =>
    rw [setEntries]
    split
    · rename_i hp
      subst hp
      simp
    · rw [List.map_cons,List.mem_cons,ih,List.map_cons,List.mem_cons]
      tauto

theorem nodup_setEntries (k : K) (v : V) {entries : List (K × V)}
    (h : (entries.map Prod.fst).Nodup) : ((setEntries k v entries).map Prod.fst).Nodup := by
  induction entries with
  | nil => exact List.nodup_singleton k
  | cons p entries ih =>
    obtain ⟨hp,hrest⟩ := List.nodup_cons.mp h
    rw [setEntries]
    split
    · rename_i hk
      rw [List.map_cons,← hk]
      exact h
    · rename_i hk
      refine List.nodup_cons.mpr ⟨?_,ih hrest⟩
      rw [mem_keys_setEntries]
      exact fun hmem => hmem.elim hk hp

/-- `d[k] = v` -/
def set (d : Dict K V) (k : K) (v : V) : Dict K V :=
  ⟨setEntries k v d.entries,nodup_setEntries k v d.distinct⟩

/-- `{k: v for k, v in entries}` -/
def ofList (entries : List (K × V)) : Dict K V := entries.foldl (fun d p => d.set p.1 p.2) empty

/-- `for v in vs: d[key(v)] = v` -/
def setAll (key : V → K) (vs : List V) : Dict K V := vs.foldl (fun d v => d.set (key v) v) empty

section Lookup
variable {d : Dict K V} {k j : K} {v w : V}

theorem lookup_cons (p : K × V) (entries : List (K × V)) (k : K) :
    (p :: entries).lookup k = if k = p.1 then some p.2 else entries.lookup k := by
  by_cases h : k = p.1
  · simp [List.lookup,h]
  · simp [List.lookup,h,beq_false_of_ne h]

theorem lookup_setEntries (entries : List (K × V)) :
    (setEntries k v entries).lookup j = if j = k then some v else entries.lookup j := by
  induction entries with
  | nil => rw [setEntries,lookup_cons]
  | cons p entries ih =>
    rw [setEntries,lookup_cons]
    by_cases hp : p.1 = k
    · rw [if_pos hp,lookup_cons,hp]
      split <;> rfl
    · rw [if_neg hp,lookup_cons,ih]
      by_cases hj : j = p.1
      · have hk : j ≠ k := fun h => hp (hj.symm.trans h)
        rw [if_pos hj,if_neg hk,if_pos hj]
      · rw [if_neg hj,if_neg hj]

@[simp] theorem get?_empty (k : K) : (empty : Dict K V).get? k = none := rfl

theorem get?_set (d : Dict K V) (k j : K) (v : V) :
    (d.set k v).get? j = if j = k then some v else d.get? j := lookup_setEntries d.entries

theorem lookup_eq_some_iff {entries : List (K × V)} (h : (entries.map Prod.fst).Nodup) :
    entries.lookup k = some v ↔ (k,v) ∈ entries := by
  induction entries with
  | nil => simp
  | cons p entries ih =>
    obtain ⟨hp,hrest⟩ := List.nodup_cons.mp h
    rw [lookup_cons,List.mem_cons]
    by_cases hk : k = p.1
    · have hnot : (k,v) ∉ entries := fun hmem => hp (hk ▸ List.mem_map_of_mem hmem)
      simp only [if_pos hk,Option.some_inj,hnot,or_false]
      rw [Prod.eq_iff_fst_eq_snd_eq]
      exact ⟨fun h => ⟨hk,h.symm⟩,fun h => h.2.symm⟩
    · rw [if_neg hk,ih hrest]
      exact ⟨.inr,fun h => h.resolve_left (fun heq => hk (congrArg Prod.fst heq))⟩

theorem get?_eq_some_iff : d.get? k = some v ↔ (k,v) ∈ d.entries := lookup_eq_some_iff d.distinct

theorem get?_eq_none_iff : d.get? k = none ↔ k ∉ d.keys := by
  rw [Option.eq_none_iff_forall_not_mem]
  constructor
  · intro h hk
    obtain ⟨p,hp,rfl⟩ := List.mem_map.mp hk
    exact h p.2 (get?_eq_some_iff.mpr hp)
  · intro hk v hv
    exact hk (List.mem_map_of_mem (f := Prod.fst) (get?_eq_some_iff.mp hv))

theorem mem_values_iff : v ∈ d.values ↔ ∃ k, d.get? k = some v := by
  simp only [values,List.mem_map,get?_eq_some_iff]
  constructor
  · rintro ⟨p,hp,rfl⟩
    exact ⟨p.1,hp⟩
  · rintro ⟨k,hk⟩
    exact ⟨(k,v),hk,rfl⟩

/-- Where every value knows its key, the values of different keys are different. -/
theorem values_pairwise {key : V → K} (h : ∀ k v, d.get? k = some v → key v = k) :
    d.values.Pairwise (fun v w => key v ≠ key w) := by
  have hkeys : d.values.map key = d.keys := by
    rw [values,keys,List.map_map]
    exact List.map_congr_left (fun p hp => h p.1 p.2 (get?_eq_some_iff.mpr hp))
  have hnodup := d.distinct
  rw [← keys,← hkeys,List.Nodup,List.pairwise_map] at hnodup
  exact hnodup

theorem mem_values_iff_get? {key : V → K} (h : ∀ k v, d.get? k = some v → key v = k) :
    v ∈ d.values ↔ d.get? (key v) = some v := by
  rw [mem_values_iff]
  constructor
  · rintro ⟨k,hk⟩
    rwa [h k v hk]
  · exact fun h => ⟨_,h⟩

theorem setEntries_of_not_mem {entries : List (K × V)} (h : k ∉ entries.map Prod.fst) :
    setEntries k v entries = entries ++ [(k,v)] := by
  induction entries with
  | nil => rfl
  | cons p entries ih =>
    rw [List.map_cons,List.mem_cons,not_or] at h
    rw [setEntries,if_neg (Ne.symm h.1),ih h.2,List.cons_append]

/-- Entries with different keys are kept as they come. -/
theorem entries_ofList {entries : List (K × V)} (h : (entries.map Prod.fst).Nodup) :
    (ofList entries).entries = entries := by
  induction entries using List.reverseRecOn with
  | nil => rfl
  | append_singleton entries p ih =>
    rw [List.map_append,List.nodup_append] at h
    obtain ⟨hentries,-,hdisjoint⟩ := h
    have hnew : p.1 ∉ entries.map Prod.fst := fun hp => hdisjoint _ hp _ (by simp) rfl
    have hbefore := ih hentries
    rw [ofList,List.foldl_append,← ofList,List.foldl_cons,List.foldl_nil,set]
    simp only [hbefore,setEntries_of_not_mem hnew]

/-- An entry of a dictionary built from a list is one of the list. -/
theorem mem_of_mem_ofList {entries : List (K × V)} {p : K × V} (h : p ∈ (ofList entries).entries) :
    p ∈ entries := by
  induction entries using List.reverseRecOn with
  | nil => exact absurd h List.not_mem_nil
  | append_singleton entries e ih =>
    rw [ofList,List.foldl_append,← ofList,List.foldl_cons,List.foldl_nil] at h
    have hlookup := get?_eq_some_iff.mpr h
    rw [get?_set] at hlookup
    by_cases hk : p.1 = e.1
    · rw [if_pos hk,Option.some_inj] at hlookup
      exact List.mem_append_right _ (List.mem_singleton.mpr (Prod.ext hk hlookup.symm))
    · rw [if_neg hk] at hlookup
      exact List.mem_append_left _ (ih (get?_eq_some_iff.mp hlookup))

end Lookup

section SetAll
variable {key : V → K} {vs : List V} {k : K} {v : V}

theorem setAll_concat (key : V → K) (vs : List V) (v : V) :
    setAll key (vs ++ [v]) = (setAll key vs).set (key v) v := by
  rw [setAll,List.foldl_append]
  rfl

/-- A key has the last value that was set under it. -/
theorem get?_setAll (key : V → K) (vs : List V) (k : K) :
    (setAll key vs).get? k = vs.reverse.find? (fun v => decide (key v = k)) := by
  induction vs using List.reverseRecOn with
  | nil => rfl
  | append_singleton vs v ih =>
    rw [setAll_concat,get?_set,List.reverse_append,List.reverse_singleton,List.singleton_append,
      List.find?_cons,← ih]
    by_cases hk : k = key v
    · simp [hk]
    · simp [hk,Ne.symm hk]

theorem get?_setAll_some (h : (setAll key vs).get? k = some v) : v ∈ vs ∧ key v = k := by
  rw [get?_setAll] at h
  exact ⟨List.mem_reverse.mp (List.mem_of_find?_eq_some h),by simpa using List.find?_some h⟩

/-- The values are those that were set last under their keys. -/
theorem mem_values_setAll_iff : v ∈ (setAll key vs).values ↔
    (setAll key vs).get? (key v) = some v :=
  mem_values_iff_get? (fun _ _ h => (get?_setAll_some h).2)

/-- A key that was set has a value. -/
theorem exists_mem_values_setAll (key : V → K) (h : v ∈ vs) :
    ∃ w ∈ (setAll key vs).values, w ∈ vs ∧ key w = key v := by
  cases hget : (setAll key vs).get? (key v) with
  | none =>
    rw [get?_setAll,List.find?_eq_none] at hget
    exact absurd (decide_eq_true rfl) (hget v (List.mem_reverse.mpr h))
  | some w =>
    obtain ⟨hw,hkey⟩ := get?_setAll_some hget
    exact ⟨w,mem_values_setAll_iff.mpr (hkey ▸ hget),hw,hkey⟩

theorem values_setAll_pairwise (key : V → K) (vs : List V) :
    (setAll key vs).values.Pairwise (fun v w => key v ≠ key w) :=
  values_pairwise (fun _ _ h => (get?_setAll_some h).2)

theorem get?_setAll_eq_getLast? (key : V → K) (vs : List V) (k : K) :
    (setAll key vs).get? k = (vs.filter (fun v => decide (key v = k))).getLast? := by
  rw [get?_setAll,← List.head?_filter,List.filter_reverse,List.head?_reverse]

theorem setAll_eq_ofList (key : V → K) (vs : List V) :
    setAll key vs = ofList (vs.map (fun v => (key v,v))) := by
  rw [setAll,ofList,List.foldl_map]

/-- Under distinct keys the values are those that were set, in their order. -/
theorem values_setAll_of_nodup (h : (vs.map key).Nodup) : (setAll key vs).values = vs := by
  have hkeys : ((vs.map (fun v => (key v,v))).map Prod.fst).Nodup := by
    rw [List.map_map]
    exact h
  rw [setAll_eq_ofList,values,entries_ofList hkeys,List.map_map]
  exact List.map_id vs

/-- Under one key the value is the last one that was set. -/
theorem values_setAll_of_eq (h : ∀ v ∈ vs, key v = k) :
    (setAll key vs).values = vs.getLast?.toList := by
  have hentries : (setAll key vs).entries = (vs.getLast?.map (fun v => (k,v))).toList := by
    induction vs using List.reverseRecOn with
    | nil => rfl
    | append_singleton vs v ih =>
      have hv : key v = k := h v (List.mem_append_right _ (List.mem_singleton_self v))
      rw [setAll_concat,hv,List.getLast?_concat]
      change setEntries k v (setAll key vs).entries = [(k,v)]
      rw [ih (fun w hw => h w (List.mem_append_left _ hw))]
      cases vs.getLast? <;> simp [setEntries]
  rw [values,hentries]
  cases vs.getLast? <;> rfl

section Filter
variable {entries : List (K × V)} {P : V → Bool}

theorem filter_setEntries_of_false (hv : P v = false) (h : ∀ p ∈ entries, p.1 = k → P p.2 = false) :
    (setEntries k v entries).filter (fun p => P p.2) = entries.filter (fun p => P p.2) := by
  induction entries with
  | nil => simp [setEntries,hv]
  | cons p entries ih =>
    rw [setEntries]
    split
    · rename_i hp
      simp [hv,h p List.mem_cons_self hp]
    · rw [List.filter_cons,List.filter_cons,ih (fun q hq => h q (List.mem_cons_of_mem _ hq))]

theorem filter_setEntries_of_true (hv : P v = true) (h : ∀ p ∈ entries, p.1 = k → P p.2 = true) :
    (setEntries k v entries).filter (fun p => P p.2) =
      setEntries k v (entries.filter (fun p => P p.2)) := by
  induction entries with
  | nil => simp [setEntries,hv]
  | cons p entries ih =>
    have hrest := ih (fun q hq => h q (List.mem_cons_of_mem _ hq))
    rw [setEntries]
    split
    · rename_i hp
      simp [hv,h p List.mem_cons_self hp,setEntries,hp]
    · rename_i hp
      rw [List.filter_cons,List.filter_cons,hrest]
      split
      · rw [setEntries,if_neg hp]
      · rfl

/-- Where a key tells whether its values pass, passing can be asked before they are set. -/
theorem values_setAll_filter (h : ∀ v ∈ vs, ∀ w ∈ vs, key v = key w → P v = P w) :
    (setAll key vs).values.filter P = (setAll key (vs.filter P)).values := by
  have hentries : (setAll key vs).entries.filter (fun p => P p.2) =
      (setAll key (vs.filter P)).entries := by
    induction vs using List.reverseRecOn with
    | nil => rfl
    | append_singleton vs v ih =>
      have hold := ih (fun v hv w hw => h v (List.mem_append_left _ hv) w
        (List.mem_append_left _ hw))
      have hsame : ∀ p ∈ (setAll key vs).entries, p.1 = key v → P p.2 = P v := by
        intro p hp hkey
        obtain ⟨hmem,hkeyed⟩ := get?_setAll_some (get?_eq_some_iff.mpr hp)
        exact h p.2 (List.mem_append_left _ hmem) v
          (List.mem_append_right _ (List.mem_singleton_self v)) (hkeyed.trans hkey)
      rw [setAll_concat,List.filter_append]
      change (setEntries (key v) v (setAll key vs).entries).filter _ = _
      cases hv : P v with
      | false =>
        rw [filter_setEntries_of_false hv (fun p hp hk => (hsame p hp hk).trans hv),hold]
        simp [hv]
      | true =>
        rw [filter_setEntries_of_true hv (fun p hp hk => (hsame p hp hk).trans hv),hold]
        simp only [List.filter_cons,List.filter_nil,hv,if_true,setAll_concat]
        rfl
  rw [values,values,← hentries,List.filter_map]
  rfl

end Filter

end SetAll

section Update
variable {d e : Dict K V} {k : K}

/-- `d.update(e)` -/
def update (d e : Dict K V) : Dict K V := e.entries.foldl (fun d p => d.set p.1 p.2) d

theorem get?_foldl_set (entries : List (K × V)) (h : (entries.map Prod.fst).Nodup) (d : Dict K V)
    (k : K) : (entries.foldl (fun d p => d.set p.1 p.2) d).get? k =
      (entries.lookup k).or (d.get? k) := by
  induction entries generalizing d with
  | nil => rfl
  | cons p entries ih =>
    obtain ⟨hp,hrest⟩ := List.nodup_cons.mp h
    rw [List.foldl_cons,ih hrest,get?_set,lookup_cons]
    by_cases hk : k = p.1
    · have hnone : entries.lookup k = none := by
        rw [Option.eq_none_iff_forall_not_mem]
        intro v hv
        exact hp (hk ▸ List.mem_map_of_mem (f := Prod.fst) ((lookup_eq_some_iff hrest).mp hv))
      rw [if_pos hk,if_pos hk,hnone,Option.none_or,Option.some_or]
    · rw [if_neg hk,if_neg hk]

/-- The new entries first, the old ones for the other keys. -/
theorem get?_update (d e : Dict K V) (k : K) : (d.update e).get? k = (e.get? k).or (d.get? k) :=
  get?_foldl_set e.entries e.distinct d k

theorem setEntries_append {done entries : List (K × V)} {p : K × V}
    (h : p.1 ∉ done.map Prod.fst) (v : V) :
    setEntries p.1 v (done ++ p :: entries) = done ++ (p.1,v) :: entries := by
  induction done with
  | nil => rw [List.nil_append,setEntries,if_pos rfl,List.nil_append]
  | cons q done ih =>
    rw [List.map_cons,List.mem_cons,not_or] at h
    rw [List.cons_append,setEntries,if_neg (Ne.symm h.1),ih h.2,List.cons_append]

/-- An update that has the keys in their order replaces every entry in its place. -/
theorem entries_foldl_set (done entries old : List (K × V)) (d : Dict K V)
    (hold : old.map Prod.fst = entries.map Prod.fst) (hd : d.entries = done ++ old) :
    (entries.foldl (fun d p => d.set p.1 p.2) d).entries = done ++ entries := by
  induction entries generalizing done old d with
  | nil =>
    rw [List.map_nil,List.map_eq_nil_iff] at hold
    rw [List.foldl_nil,hd,hold]
  | cons p entries ih =>
    cases old with
    | nil => cases hold
    | cons q old =>
      obtain ⟨hq,hrest⟩ := List.cons.inj hold
      have hnew : q.1 ∉ done.map Prod.fst := by
        have hdistinct := d.distinct
        rw [hd,List.map_append,List.nodup_append] at hdistinct
        exact fun hmem => hdistinct.2.2 _ hmem _ (by simp) rfl
      have hset : (d.set p.1 p.2).entries = (done ++ [p]) ++ old := by
        show setEntries p.1 p.2 d.entries = _
        rw [hd,← hq,setEntries_append hnew,hq]
        simp
      rw [List.foldl_cons,ih (done ++ [p]) old (d.set p.1 p.2) hrest hset]
      simp

omit [DecidableEq K] in
theorem eq_of_entries (h : d.entries = e.entries) : d = e := by
  cases d
  cases e
  cases h
  rfl

theorem update_of_keys_eq (h : d.keys = e.keys) : d.update e = e := by
  apply eq_of_entries
  rw [update,entries_foldl_set [] e.entries d.entries d h rfl,List.nil_append]

theorem update_empty (e : Dict K V) : empty.update e = e :=
  eq_of_entries (entries_ofList e.distinct)

end Update
end Dict
end MacroInvest
