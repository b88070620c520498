import Mathlib

/-! # Named objects

Objects live in a heap and are changed through references. A store gives a name to some of them:
a name is for one object, and an object has at most one name. What is done through a reference
is seen under its name only.
-/
namespace MacroInvest.ObjectStore
variable {K A : Type*} [DecidableEq K]

structure Store (K A : Type*) where
  objects : List A
  names : List (K × ℕ)
  allocated : ∀ p ∈ names, p.2 < objects.length
  distinct : (names.map Prod.snd).Nodup

namespace Store

def ref (store : Store K A) (key : K) : Option ℕ := store.names.lookup key

def object (store : Store K A) (i : ℕ) : Option A := store.objects[i]?

/-- A new object under a name. -/
def insert (store : Store K A) (key : K) (a : A) : Store K A where
  objects := store.objects ++ [a]
  names := store.names ++ [(key,store.objects.length)]
  allocated := by
    intro p hp
    rw [List.length_append,List.length_singleton]
    rcases List.mem_append.mp hp with hp | hp
    · exact Nat.lt_succ_of_lt (store.allocated p hp)
    · rw [List.mem_singleton.mp hp]
      exact Nat.lt_succ_self _
  distinct := by
    rw [List.map_append,List.nodup_append]
    refine ⟨store.distinct,List.nodup_singleton _,?_⟩
    rintro i hi j hj rfl
    obtain ⟨p,hp,rfl⟩ := List.mem_map.mp hi
    have hlt := store.allocated p hp
    have hlen : p.2 = store.objects.length := by simpa using hj
    omega

/-- The object of a name, made and named when there is none; making it may fail. -/
def getOrCreate (store : Store K A) (key : K) (make : Option A) : Option (Store K A × ℕ) :=
  match store.ref key with
  | some i => some (store,i)
  | none => make.map (fun a => (store.insert key a,store.objects.length))

def update (store : Store K A) (i : ℕ) (f : A → A) : Store K A where
  objects := store.objects.modify i f
  names := store.names
  allocated := by
    intro p hp
    rw [List.length_modify]
    exact store.allocated p hp
  distinct := store.distinct

/-- What a name stands for; a name not given yet stands for `fresh`. -/
def valueOr (store : Store K A) (fresh : A) (key : K) : A :=
  ((store.ref key).bind store.object).getD fresh

/-- An object of the heap without a name. -/
structure Unnamed (store : Store K A) (i : ℕ) : Prop where
  lt : i < store.objects.length
  ne : ∀ key, store.ref key ≠ some i

section Names
variable {store : Store K A} {key key' : K} {i : ℕ} {a fresh : A}

theorem mem_names_of_ref (h : store.ref key = some i) : (key,i) ∈ store.names := by
  obtain ⟨l,l',hnames,-⟩ := List.lookup_eq_some_iff.mp h
  rw [hnames]
  simp

theorem ref_lt (h : store.ref key = some i) : i < store.objects.length :=
  store.allocated _ (mem_names_of_ref h)

theorem ref_injective (h : store.ref key = some i) (h' : store.ref key' = some i) :
    key = key' := by
  have hpair : (key,i) = (key',i) := List.inj_on_of_nodup_map store.distinct
    (mem_names_of_ref h) (mem_names_of_ref h') rfl
  exact (Prod.mk.inj hpair).1

theorem ref_insert (h : store.ref key = none) : (store.insert key a).ref key' =
    if key' = key then some store.objects.length else store.ref key' := by
  unfold ref at h
  by_cases hkey : key' = key
  · subst hkey
    simp [ref,insert,List.lookup_append,h,List.lookup]
  · simp [ref,insert,List.lookup_append,hkey,List.lookup,beq_false_of_ne hkey]

omit [DecidableEq K] in
theorem object_insert_of_lt (hi : i < store.objects.length) :
    (store.insert key a).object i = store.object i := List.getElem?_append_left hi

omit [DecidableEq K] in
theorem object_insert_new : (store.insert key a).object store.objects.length = some a :=
  List.getElem?_concat_length

omit [DecidableEq K] in
theorem object_update (f : A → A) : (store.update i f).object i = (store.object i).map f := by
  simp [object,update]

omit [DecidableEq K] in
theorem object_update_of_ne {j : ℕ} (hij : i ≠ j) (f : A → A) :
    (store.update i f).object j = store.object j := by
  simp [object,update,hij]

@[simp] theorem ref_update (f : A → A) : (store.update i f).ref key = store.ref key := rfl

theorem Unnamed.update (h : store.Unnamed i) (j : ℕ) (f : A → A) : (store.update j f).Unnamed i :=
  ⟨(List.length_modify f store.objects j).symm ▸ h.lt,h.ne⟩

theorem Unnamed.insert (h : store.Unnamed i) (hkey : store.ref key = none) :
    (store.insert key a).Unnamed i where
  lt := by
    show i < (store.objects ++ [a]).length
    rw [List.length_append]
    exact Nat.lt_add_right _ h.lt
  ne := by
    intro key'
    rw [ref_insert hkey]
    split
    · intro hi
      exact h.lt.ne' (Option.some.inj hi)
    · exact h.ne key'

end Names

section Created
variable {store after : Store K A} {key : K} {make : Option A} {i : ℕ}

/-- A creation gives the old store and the name's object, or the store with one object more. -/
theorem getOrCreate_cases (h : store.getOrCreate key make = some (after,i)) :
    (store.ref key = some i ∧ after = store) ∨
    (store.ref key = none ∧ ∃ a, make = some a ∧ after = store.insert key a ∧
      i = store.objects.length) := by
  unfold getOrCreate at h
  split at h
  · rename_i j hj
    obtain ⟨rfl,rfl⟩ := Prod.mk.inj (Option.some.inj h)
    exact .inl ⟨hj,rfl⟩
  · rename_i hnone
    obtain ⟨a,hmake,hpair⟩ := Option.map_eq_some_iff.mp h
    obtain ⟨rfl,rfl⟩ := Prod.mk.inj hpair
    exact .inr ⟨hnone,a,hmake,rfl,rfl⟩

theorem exists_getOrCreate (store : Store K A) (key : K) (a : A) :
    ∃ p, store.getOrCreate key (some a) = some p := by
  unfold getOrCreate
  split
  · exact ⟨_,rfl⟩
  · exact ⟨_,rfl⟩

theorem ref_getOrCreate (h : store.getOrCreate key make = some (after,i)) :
    after.ref key = some i := by
  rcases getOrCreate_cases h with ⟨href,rfl⟩ | ⟨hnone,a,-,rfl,rfl⟩
  · exact href
  · rw [ref_insert hnone,if_pos rfl]

theorem ref_getOrCreate_of_some (h : store.getOrCreate key make = some (after,i)) {key' : K}
    {j : ℕ} (hj : store.ref key' = some j) : after.ref key' = some j := by
  rcases getOrCreate_cases h with ⟨-,rfl⟩ | ⟨hnone,a,-,rfl,-⟩
  · exact hj
  · have hkey : key' ≠ key := by
      rintro rfl
      rw [hnone] at hj
      cases hj
    rw [ref_insert hnone,if_neg hkey,hj]

theorem Unnamed.getOrCreate (h : store.getOrCreate key make = some (after,i)) {j : ℕ}
    (hj : store.Unnamed j) : after.Unnamed j := by
  rcases getOrCreate_cases h with ⟨-,rfl⟩ | ⟨hnone,a,-,rfl,-⟩
  · exact hj
  · exact hj.insert hnone

variable {fresh : A}

/-- No name stands for something else after a creation. -/
theorem valueOr_getOrCreate (h : store.getOrCreate key (some fresh) = some (after,i)) (key' : K) :
    after.valueOr fresh key' = store.valueOr fresh key' := by
  rcases getOrCreate_cases h with ⟨-,rfl⟩ | ⟨hnone,a,hmake,rfl,-⟩
  · rfl
  · obtain rfl := Option.some.inj hmake
    unfold valueOr
    rw [ref_insert hnone]
    split
    · rename_i hkey
      rw [hkey,hnone]
      simp [object_insert_new]
    · cases href : store.ref key' with
      | none => rfl
      | some j => simp [object_insert_of_lt (ref_lt href)]

theorem object_getOrCreate (h : store.getOrCreate key (some fresh) = some (after,i)) :
    after.object i = some (store.valueOr fresh key) := by
  rw [← valueOr_getOrCreate h key,valueOr,ref_getOrCreate h]
  have hlt := ref_lt (ref_getOrCreate h)
  simp [object,hlt]

theorem valueOr_update (href : store.ref key = some i) (f : A → A) :
    (store.update i f).valueOr fresh key = f (store.valueOr fresh key) := by
  have hlt := ref_lt href
  unfold valueOr
  rw [ref_update,href,Option.bind_some,Option.bind_some,object_update]
  simp [object,hlt]

theorem valueOr_update_of_ne (href : store.ref key ≠ some i) (f : A → A) :
    (store.update i f).valueOr fresh key = store.valueOr fresh key := by
  unfold valueOr
  rw [ref_update]
  cases hkey : store.ref key with
  | none => rfl
  | some j =>
    have hij : i ≠ j := by
      rintro rfl
      exact href hkey
    exact congrArg (Option.getD · fresh) (object_update_of_ne hij f)

end Created

end Store

end MacroInvest.ObjectStore
