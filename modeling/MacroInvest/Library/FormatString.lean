import Mathlib

/-! # Format strings

A template is text with named fields between two braces; a doubled brace stands for itself.
Formatting fails on a brace without partner and on a field that has no value. The grammar of
the templates that can be formatted says where a text may be put together from parts: at any
character that no field name contains.
-/
namespace MacroInvest.FormatString
variable {α : Type*}

inductive Piece (α : Type*) where
  | char (c : α)
  | field (name : List α)
  deriving DecidableEq

/-- Where a scan stands: in the text, after one brace, or in a field with the name so far. -/
inductive Mode (α : Type*) where
  | text
  | opened
  | closed
  | field (name : List α)

inductive FormatError (α : Type*) where
  | unmatched
  | unknownName (name : List α)
  deriving DecidableEq

section Scan
variable [DecidableEq α] (op cl : α)

/-- One character; `none` when a brace has no partner. -/
def scanChar : Mode α → α → Option (Mode α × List (Piece α))
  | .text, c =>
    if c = op then some (.opened,[])
    else if c = cl then some (.closed,[])
    else some (.text,[.char c])
  | .opened, c =>
    if c = op then some (.text,[.char op])
    else if c = cl then some (.text,[.field []])
    else some (.field [c],[])
  | .closed, c => if c = cl then some (.text,[.char cl]) else none
  | .field name, c =>
    if c = op then none
    else if c = cl then some (.text,[.field name])
    else some (.field (name ++ [c]),[])

def scanFrom : Mode α → List α → Option (List (Piece α))
  | .text, [] => some []
  | _, [] => none
  | mode, c :: cs =>
    match scanChar op cl mode c with
    | none => none
    | some (next,pieces) => (scanFrom next cs).map (pieces ++ ·)

def scan (template : List α) : Option (List (Piece α)) := scanFrom op cl .text template

/-- The text of the pieces with the fields filled in. -/
def fill (value : List α → Option (List α)) : List (Piece α) → Except (FormatError α) (List α)
  | [] => .ok []
  | .char c :: rest => (fill value rest).map (c :: ·)
  | .field name :: rest =>
    match value name with
    | none => .error (.unknownName name)
    | some text => (fill value rest).map (text ++ ·)

def format (value : List α → Option (List α)) (template : List α) :
    Except (FormatError α) (List α) :=
  match scan op cl template with
  | none => .error .unmatched
  | some pieces => fill value pieces

end Scan

section Grammar

/-- The templates whose braces match and whose fields are known. -/
inductive WellFormed (op cl : α) (known : List α → Prop) : List α → Prop
  | nil : WellFormed op cl known []
  | char {c : α} {rest : List α} : c ≠ op → c ≠ cl → WellFormed op cl known rest →
      WellFormed op cl known (c :: rest)
  | opened {rest : List α} : WellFormed op cl known rest → WellFormed op cl known (op :: op :: rest)
  | closed {rest : List α} : WellFormed op cl known rest → WellFormed op cl known (cl :: cl :: rest)
  | field {name rest : List α} : known name → op ∉ name → cl ∉ name → WellFormed op cl known rest →
      WellFormed op cl known (op :: (name ++ cl :: rest))

/-- A character that separates texts: no brace and in no known name. -/
def Separates (op cl : α) (known : List α → Prop) (x : α) : Prop :=
  x ≠ op ∧ x ≠ cl ∧ ∀ name, known name → x ∉ name

variable {op cl : α} {known : List α → Prop} {a b : List α} {x : α}

theorem WellFormed.append (ha : WellFormed op cl known a) (hb : WellFormed op cl known b) :
    WellFormed op cl known (a ++ b) := by
  induction ha with
  | nil => exact hb
  | char hop hcl _ ih => exact .char hop hcl ih
  | opened _ ih => exact .opened ih
  | closed _ ih => exact .closed ih
  | field hname hop hcl _ ih =>
    rw [List.cons_append,List.append_assoc,List.cons_append]
    exact .field hname hop hcl ih

theorem wellFormed_char_iff (hop : x ≠ op) (hcl : x ≠ cl) :
    WellFormed op cl known (x :: b) ↔ WellFormed op cl known b := by
  constructor
  · intro h
    cases h with
    | char _ _ h => exact h
    | opened => exact absurd rfl hop
    | closed => exact absurd rfl hcl
    | field => exact absurd rfl hop
  · exact .char hop hcl

/-- Text without braces in front changes nothing. -/
theorem wellFormed_literal_iff {text : List α} (hop : op ∉ text) (hcl : cl ∉ text) :
    WellFormed op cl known (text ++ b) ↔ WellFormed op cl known b := by
  induction text with
  | nil => rfl
  | cons c text ih =>
    rw [List.mem_cons,not_or] at hop hcl
    rw [List.cons_append,wellFormed_char_iff (Ne.symm hop.1) (Ne.symm hcl.1),ih hop.2 hcl.2]

theorem wellFormed_of_literal {text : List α} (hop : op ∉ text) (hcl : cl ∉ text) :
    WellFormed op cl known text := by
  have h : WellFormed op cl known (text ++ []) ↔ _ := wellFormed_literal_iff hop hcl
  rw [List.append_nil] at h
  exact h.mpr .nil

/-- A doubled brace is on one side of any other character. -/
theorem doubled_split {c : α} {rest : List α} (hx : x ≠ c) (h : c :: c :: rest = a ++ x :: b) :
    ∃ a', a = c :: c :: a' ∧ rest = a' ++ x :: b := by
  cases a with
  | nil => exact absurd (List.cons.inj h).1.symm hx
  | cons d a =>
    obtain ⟨rfl,h'⟩ := List.cons.inj h
    cases a with
    | nil => exact absurd (List.cons.inj h').1.symm hx
    | cons e a =>
      obtain ⟨rfl,hrest⟩ := List.cons.inj h'
      exact ⟨a,rfl,hrest⟩

/-- What stands before a separator is well formed on its own. -/
theorem WellFormed.split {t : List α} (h : WellFormed op cl known t)
    (hx : Separates op cl known x) (ht : t = a ++ x :: b) :
    WellFormed op cl known a ∧ WellFormed op cl known b := by
  induction h generalizing a with
  | nil => simp at ht
  | @char c rest hop hcl hrest ih =>
    cases a with
    | nil =>
      obtain ⟨rfl,rfl⟩ := List.cons.inj ht
      exact ⟨.nil,hrest⟩
    | cons d a =>
      obtain ⟨rfl,hrest⟩ := List.cons.inj ht
      obtain ⟨ha,hb⟩ := ih hrest
      exact ⟨.char hop hcl ha,hb⟩
  | opened hrest ih =>
    obtain ⟨a',rfl,hrest'⟩ := doubled_split hx.1 ht
    obtain ⟨ha,hb⟩ := ih hrest'
    exact ⟨.opened ha,hb⟩
  | closed hrest ih =>
    obtain ⟨a',rfl,hrest'⟩ := doubled_split hx.2.1 ht
    obtain ⟨ha,hb⟩ := ih hrest'
    exact ⟨.closed ha,hb⟩
  | @field name rest hname hop hcl hrest ih =>
    cases a with
    | nil => exact absurd (List.cons.inj ht).1.symm hx.1
    | cons d a =>
      obtain ⟨rfl,ht'⟩ := List.cons.inj ht
      rcases List.append_eq_append_iff.mp ht' with ⟨tail,rfl,htail⟩ | ⟨tail,rfl,htail⟩
      · -- the separator lies after the field
        cases tail with
        | nil => exact absurd (List.cons.inj htail).1.symm hx.2.1
        | cons e tail =>
          obtain ⟨rfl,hrest'⟩ := List.cons.inj htail
          obtain ⟨ha,hb⟩ := ih hrest'
          exact ⟨.field hname hop hcl ha,hb⟩
      · -- it lies in the name
        cases tail with
        | nil => exact absurd (List.cons.inj htail).1 hx.2.1
        | cons e tail =>
          obtain ⟨rfl,-⟩ := List.cons.inj htail
          exact absurd (by simp) (hx.2.2 _ hname)

theorem wellFormed_append_iff (hx : Separates op cl known x) :
    WellFormed op cl known (a ++ x :: b) ↔
      WellFormed op cl known a ∧ WellFormed op cl known b := by
  constructor
  · intro h
    exact h.split hx rfl
  · rintro ⟨ha,hb⟩
    exact ha.append (.char hx.1 hx.2.1 hb)

/-- `sep.join(parts)`. -/
def join (sep : List α) : List (List α) → List α
  | [] => []
  | [p] => p
  | p :: q :: rest => p ++ (sep ++ join sep (q :: rest))

theorem wellFormed_join_iff {tail : List α} (hx : Separates op cl known x) (hop : op ∉ tail)
    (hcl : cl ∉ tail) (parts : List (List α)) :
    WellFormed op cl known (join (x :: tail) parts) ↔ ∀ p ∈ parts, WellFormed op cl known p := by
  induction parts with
  | nil => simpa [join] using WellFormed.nil
  | cons p rest ih =>
    cases rest with
    | nil => simp [join]
    | cons q rest =>
      rw [join,List.cons_append,wellFormed_append_iff hx,wellFormed_literal_iff hop hcl,ih]
      exact List.forall_mem_cons.symm

end Grammar

section Exact
variable {op cl : α} {known : List α → Prop} {name cs : List α}

theorem not_wellFormed_closed {c : α} (hne : op ≠ cl) (hc : c ≠ cl) :
    ¬WellFormed op cl known (cl :: c :: cs) := by
  intro h
  generalize ht : cl :: c :: cs = t at h
  cases h with
  | nil => cases ht
  | char _ hcl => exact hcl (List.cons.inj ht).1.symm
  | opened => exact hne (List.cons.inj ht).1.symm
  | closed => exact hc (List.cons.inj (List.cons.inj ht).2).1
  | field => exact hne (List.cons.inj ht).1.symm

theorem not_wellFormed_closed_end (hne : op ≠ cl) : ¬WellFormed op cl known [cl] := by
  intro h
  generalize ht : [cl] = t at h
  cases h with
  | nil => cases ht
  | char _ hcl => exact hcl (List.cons.inj ht).1.symm
  | opened => exact hne (List.cons.inj ht).1.symm
  | closed => exact absurd (List.cons.inj ht).2 (by simp)
  | field => exact hne (List.cons.inj ht).1.symm

theorem wellFormed_opened_iff (hne : op ≠ cl) :
    WellFormed op cl known (op :: op :: cs) ↔ WellFormed op cl known cs := by
  constructor
  · intro h
    generalize ht : op :: op :: cs = t at h
    cases h with
    | nil => cases ht
    | char hop => exact absurd (List.cons.inj ht).1.symm hop
    | opened h => exact (List.cons.inj (List.cons.inj ht).2).2 ▸ h
    | closed => exact absurd (List.cons.inj ht).1 hne
    | @field name rest _ hop _ _ =>
      cases name with
      | nil => exact absurd (List.cons.inj (List.cons.inj ht).2).1 hne
      | cons d name => exact absurd (List.cons.inj (List.cons.inj ht).2).1 (by simp_all)
  · exact .opened

theorem wellFormed_closed_iff (hne : op ≠ cl) :
    WellFormed op cl known (cl :: cl :: cs) ↔ WellFormed op cl known cs := by
  constructor
  · intro h
    generalize ht : cl :: cl :: cs = t at h
    cases h with
    | nil => cases ht
    | char _ hcl => exact absurd (List.cons.inj ht).1.symm hcl
    | opened => exact absurd (List.cons.inj ht).1.symm hne
    | closed h => exact (List.cons.inj (List.cons.inj ht).2).2 ▸ h
    | field => exact absurd (List.cons.inj ht).1.symm hne
  · exact .closed

/-- After an opening brace and some characters of a name only a closing brace can follow. -/
theorem wellFormed_field_iff (hne : op ≠ cl) (hop : op ∉ name) (hcl : cl ∉ name) :
    WellFormed op cl known (op :: (name ++ cl :: cs)) ↔ known name ∧ WellFormed op cl known cs := by
  constructor
  · intro h
    generalize ht : op :: (name ++ cl :: cs) = t at h
    cases h with
    | nil => cases ht
    | char hop => exact absurd (List.cons.inj ht).1.symm hop
    | opened =>
      cases name with
      | nil => exact absurd (List.cons.inj (List.cons.inj ht).2).1.symm hne
      | cons d name => exact absurd (List.cons.inj (List.cons.inj ht).2).1.symm (by simp_all)
    | closed => exact absurd (List.cons.inj ht).1 hne
    | @field name' rest hknown hop' hcl' hrest =>
      rcases List.append_eq_append_iff.mp (List.cons.inj ht).2 with ⟨l,rfl,hl⟩ | ⟨l,rfl,hl⟩
      · cases l with
        | nil => exact ⟨by simpa using hknown,(List.cons.inj hl).2 ▸ hrest⟩
        | cons d l => exact absurd (List.cons.inj hl).1 (by simp_all)
      · cases l with
        | nil => exact ⟨by simpa using hknown,(List.cons.inj hl).2 ▸ hrest⟩
        | cons d l => exact absurd (List.cons.inj hl).1 (by simp_all)
  · rintro ⟨hknown,h⟩
    exact .field hknown hop hcl h

theorem not_wellFormed_field_end (hne : op ≠ cl) (hop : op ∉ name) (hcl : cl ∉ name) :
    ¬WellFormed op cl known (op :: name) := by
  intro h
  generalize ht : op :: name = t at h
  cases h with
  | nil => cases ht
  | char hop => exact hop (List.cons.inj ht).1.symm
  | opened => exact hop (by simp [(List.cons.inj ht).2])
  | closed => exact hne (List.cons.inj ht).1
  | field => exact hcl (by simp [(List.cons.inj ht).2])

theorem not_wellFormed_field_opened (hne : op ≠ cl) (hname : name ≠ []) (hop : op ∉ name)
    (hcl : cl ∉ name) : ¬WellFormed op cl known (op :: (name ++ op :: cs)) := by
  intro h
  generalize ht : op :: (name ++ op :: cs) = t at h
  cases h with
  | nil => cases ht
  | char hop => exact hop (List.cons.inj ht).1.symm
  | opened =>
    obtain ⟨d,name,rfl⟩ := List.exists_cons_of_ne_nil hname
    exact absurd (List.cons.inj (List.cons.inj ht).2).1.symm (by simp_all)
  | closed => exact hne (List.cons.inj ht).1
  | @field name' rest _ hop' hcl' _ =>
    rcases List.append_eq_append_iff.mp (List.cons.inj ht).2 with ⟨l,rfl,hl⟩ | ⟨l,rfl,hl⟩
    · cases l with
      | nil => exact hne (List.cons.inj hl).1
      | cons d l => exact absurd (List.cons.inj hl).1 (by simp_all)
    · cases l with
      | nil => exact hne (List.cons.inj hl).1.symm
      | cons d l => exact absurd (List.cons.inj hl).1 (by simp_all)

theorem fill_isOk_iff {value : List α → Option (List α)} (pieces : List (Piece α)) :
    (∃ text, fill value pieces = .ok text) ↔
      ∀ name, .field name ∈ pieces → (value name).isSome := by
  induction pieces with
  | nil => simp [fill]
  | cons piece pieces ih =>
    have hmap : ∀ f : List α → List α, (∃ text, (fill value pieces).map f = .ok text) ↔
        ∃ text, fill value pieces = .ok text := by
      intro f
      cases fill value pieces with
      | error e => simp [Except.map]
      | ok text => simp [Except.map]
    cases piece with
    | char c => simp [fill,hmap,ih]
    | field name =>
      cases hvalue : value name with
      | none => simp [fill,hvalue]
      | some text =>
        simp only [fill,hvalue,hmap,ih,List.mem_cons,Piece.field.injEq]
        constructor
        · rintro h other (rfl | hother)
          · simp [hvalue]
          · exact h other hother
        · exact fun h other hother => h other (.inr hother)

variable [DecidableEq α]

/-- The scan from a mode ends in the text, and every field it finds is known. -/
def Accepts (op cl : α) (known : List α → Prop) (mode : Mode α) (cs : List α) : Prop :=
  ∃ pieces, scanFrom op cl mode cs = some pieces ∧ ∀ name, .field name ∈ pieces → known name

/-- The characters that a mode stands for. -/
def Mode.taken (op cl : α) : Mode α → List α
  | .text => []
  | .opened => [op]
  | .closed => [cl]
  | .field name => op :: name

def Mode.Begun (op cl : α) : Mode α → Prop
  | .field name => name ≠ [] ∧ op ∉ name ∧ cl ∉ name
  | _ => True

theorem accepts_cons {mode : Mode α} {c : α} : Accepts op cl known mode (c :: cs) ↔
    ∃ next pieces, scanChar op cl mode c = some (next,pieces) ∧
      (∀ name, .field name ∈ pieces → known name) ∧ Accepts op cl known next cs := by
  have hscan : scanFrom op cl mode (c :: cs) = match scanChar op cl mode c with
      | none => none
      | some (next,pieces) => (scanFrom op cl next cs).map (pieces ++ ·) := by
    cases mode <;> rfl
  rw [Accepts,hscan]
  cases scanChar op cl mode c with
  | none => simp
  | some p =>
    obtain ⟨next,pieces⟩ := p
    constructor
    · rintro ⟨all,hall,hknown⟩
      obtain ⟨rest,hrest,rfl⟩ := Option.map_eq_some_iff.mp hall
      exact ⟨next,pieces,rfl,fun name h => hknown name (List.mem_append_left _ h),
        rest,hrest,fun name h => hknown name (List.mem_append_right _ h)⟩
    · rintro ⟨_,_,⟨⟩,hpieces,rest,hrest,hknown⟩
      refine ⟨pieces ++ rest,by simp [hrest],fun name h => ?_⟩
      rcases List.mem_append.mp h with h | h
      · exact hpieces name h
      · exact hknown name h

/-- Only a scan that is in the text may end. -/
theorem accepts_nil_iff (hne : op ≠ cl) {m : Mode α} (hmode : m.Begun op cl) :
    Accepts op cl known m [] ↔ WellFormed op cl known (m.taken op cl) := by
  cases m with
  | text => simpa [Accepts,scanFrom,Mode.taken] using WellFormed.nil
  | opened =>
    have h : ¬WellFormed op cl known [op] :=
      not_wellFormed_field_end hne List.not_mem_nil List.not_mem_nil
    simpa [Accepts,scanFrom,Mode.taken] using h
  | closed =>
    have h : ¬WellFormed op cl known [cl] := not_wellFormed_closed_end hne
    simpa [Accepts,scanFrom,Mode.taken] using h
  | field name =>
    have h : ¬WellFormed op cl known (op :: name) :=
      not_wellFormed_field_end hne hmode.2.1 hmode.2.2
    simpa [Accepts,scanFrom,Mode.taken] using h

/-- A scan accepts exactly the rests of well formed templates. -/
theorem accepts_iff (hne : op ≠ cl) {m : Mode α} (hmode : m.Begun op cl) :
    Accepts op cl known m cs ↔ WellFormed op cl known (m.taken op cl ++ cs) := by
  induction cs generalizing m with
  | nil =>
    rw [List.append_nil]
    exact accepts_nil_iff hne hmode
  | cons c cs ih =>
    rw [accepts_cons]
    cases m with
    | text =>
      by_cases hop : c = op
      · subst hop
        simpa [scanChar,Mode.taken] using ih (m := .opened) trivial
      · by_cases hcl : c = cl
        · subst hcl
          simpa [scanChar,Mode.taken,hop] using ih (m := .closed) trivial
        · simpa [scanChar,Mode.taken,hop,hcl,wellFormed_char_iff hop hcl] using
            ih (m := .text) trivial
    | opened =>
      by_cases hop : c = op
      · subst hop
        simpa [scanChar,Mode.taken,wellFormed_opened_iff hne] using ih (m := .text) trivial
      · by_cases hcl : c = cl
        · subst hcl
          have h : WellFormed op c known (op :: ([] ++ c :: cs)) ↔ _ :=
            wellFormed_field_iff hne List.not_mem_nil List.not_mem_nil
          rw [List.nil_append] at h
          simpa [scanChar,Mode.taken,hop,h] using fun _ => ih (m := .text) trivial
        · simpa [scanChar,Mode.taken,hop,hcl] using
            ih (m := .field [c]) ⟨by simp,by simpa using Ne.symm hop,by simpa using Ne.symm hcl⟩
    | closed =>
      by_cases hcl : c = cl
      · subst hcl
        simpa [scanChar,Mode.taken,wellFormed_closed_iff hne] using ih (m := .text) trivial
      · simpa [scanChar,Mode.taken,hcl] using not_wellFormed_closed hne hcl
    | field name =>
      obtain ⟨hname,hopn,hcln⟩ := hmode
      by_cases hop : c = op
      · subst hop
        simpa [scanChar,Mode.taken] using not_wellFormed_field_opened hne hname hopn hcln
      · by_cases hcl : c = cl
        · subst hcl
          simpa [scanChar,Mode.taken,hop,wellFormed_field_iff hne hopn hcln] using
            fun _ => ih (m := .text) trivial
        · have hbegun : (Mode.field (name ++ [c])).Begun op cl :=
            ⟨by simp,by simp [hopn,Ne.symm hop],by simp [hcln,Ne.symm hcl]⟩
          simpa [scanChar,Mode.taken,hop,hcl] using ih hbegun

/-- A template can be formatted exactly when it is well formed for the names that have a value. -/
theorem format_isOk_iff (hne : op ≠ cl) {value : List α → Option (List α)} (template : List α) :
    (∃ text, format op cl value template = .ok text) ↔
      WellFormed op cl (fun name => (value name).isSome) template := by
  have haccepts : Accepts op cl (fun name => (value name).isSome) .text template ↔ _ :=
    accepts_iff hne trivial
  rw [Mode.taken,List.nil_append] at haccepts
  rw [← haccepts,format,scan,Accepts]
  cases hscan : scanFrom op cl .text template with
  | none => simp
  | some pieces => simpa using fill_isOk_iff pieces

end Exact

end MacroInvest.FormatString
