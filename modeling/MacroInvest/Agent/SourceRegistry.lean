import Mathlib

/-! # The source registry

The registry scans its sources for the highest priority among those that supply an indicator.
The scan starts below zero, so a source with a negative priority is passed over as if it did not
supply the indicator.
-/
namespace MacroInvest.Agent

structure SourceMetadata where
  sourceId : String
  priority : ℤ
  supportedIndicators : List String := []

/-- The registered sources in insertion order. -/
structure SourceRegistry (S : Type) where
  sources : List S

section Registry
variable {S : Type} (metadata : S → Option SourceMetadata)

def SourceRegistry.register (registry : SourceRegistry S) (source : S) : SourceRegistry S :=
  ⟨registry.sources ++ [source]⟩

/-- The best source of the scan so far, and its priority. -/
structure Best (S : Type) where
  source : Option S := none
  priority : ℤ := -1

def Best.consider (indicator : String) (best : Best S) (source : S) : Best S :=
  match metadata source with
  | none => best
  | some info =>
    if indicator ∈ info.supportedIndicators then
      if best.priority < info.priority then ⟨some source,info.priority⟩ else best
    else best

def SourceRegistry.select (registry : SourceRegistry S) (indicator : String) : Option S :=
  (registry.sources.foldl (Best.consider metadata indicator) {}).source

/-- The priority of a source that supplies the indicator. -/
def offer (indicator : String) (source : S) : Option ℤ :=
  ((metadata source).filter (fun info => indicator ∈ info.supportedIndicators)).map
    SourceMetadata.priority

end Registry

section Scan
variable {S : Type} {metadata : S → Option SourceMetadata} {indicator : String}
  {sources : List S} {best : Best S}

/-- A source is looked at by its offer only. -/
theorem consider_eq (best : Best S) (source : S) : best.consider metadata indicator source =
    match offer metadata indicator source with
    | none => best
    | some p => if best.priority < p then ⟨some source,p⟩ else best := by
  unfold Best.consider offer
  cases metadata source with
  | none => rfl
  | some info =>
    by_cases hsupports : indicator ∈ info.supportedIndicators
    · simp [hsupports,Option.filter]
    · simp [hsupports,Option.filter]

/-- The best of the sources scanned: the greatest offer, or nothing where all are negative. -/
structure Scanned (metadata : S → Option SourceMetadata) (indicator : String) (sources : List S)
    (best : Best S) : Prop where
  bound : ∀ s ∈ sources, ∀ p, offer metadata indicator s = some p → p ≤ best.priority
  chosen : ∀ s, best.source = some s → s ∈ sources ∧ 0 ≤ best.priority ∧
    offer metadata indicator s = some best.priority
  start : best.source = none → best.priority = -1

theorem Scanned.consider (h : Scanned metadata indicator sources best) (source : S) :
    Scanned metadata indicator (sources ++ [source])
      (best.consider metadata indicator source) := by
  have hstart : -1 ≤ best.priority := by
    cases hsource : best.source with
    | none => exact (h.start hsource).ge
    | some s =>
      have hnonneg := (h.chosen s hsource).2.1
      omega
  have hkept : (∀ p, offer metadata indicator source = some p → p ≤ best.priority) →
      Scanned metadata indicator (sources ++ [source]) best := by
    intro hsmall
    refine ⟨?_,?_,h.start⟩
    · intro s hs
      rcases List.mem_append.mp hs with hs | hs
      · exact h.bound s hs
      · rw [List.mem_singleton.mp hs]
        exact hsmall
    · intro s hsource
      obtain ⟨hmem,hrest⟩ := h.chosen s hsource
      exact ⟨List.mem_append_left _ hmem,hrest⟩
  rw [consider_eq]
  cases hoffer : offer metadata indicator source with
  | none => exact hkept (by simp [hoffer])
  | some p =>
    dsimp only
    split
    · rename_i hgreater
      refine ⟨?_,?_,nofun⟩
      · intro s hs q hq
        rcases List.mem_append.mp hs with hs | hs
        · exact (h.bound s hs q hq).trans hgreater.le
        · rw [List.mem_singleton.mp hs,hoffer] at hq
          cases hq
          exact le_rfl
      · rintro s ⟨⟩
        exact ⟨by simp,by dsimp only; omega,hoffer⟩
    · rename_i hsmall
      refine hkept ?_
      rw [hoffer]
      rintro q ⟨⟩
      exact not_lt.mp hsmall

theorem scan_spec (metadata : S → Option SourceMetadata) (indicator : String) (sources : List S) :
    Scanned metadata indicator sources
      (sources.foldl (Best.consider metadata indicator) {}) := by
  induction sources using List.reverseRecOn with
  | nil => exact ⟨by simp,nofun,fun _ => rfl⟩
  | append_singleton sources source ih =>
    rw [List.foldl_append]
    exact ih.consider source

end Scan

/-- The selected source supplies the indicator with the greatest priority of all that do, there
is one where any source does, and the priority does not depend on the order. -/
structure SelectsGreatest {S : Type} (metadata : S → Option SourceMetadata)
    (registry : SourceRegistry S) (indicator : String) : Prop where
  greatest : ∀ s, registry.select metadata indicator = some s → s ∈ registry.sources ∧
    ∃ p, offer metadata indicator s = some p ∧
      ∀ t ∈ registry.sources, ∀ q, offer metadata indicator t = some q → q ≤ p
  unsupported : registry.select metadata indicator = none →
    ∀ s ∈ registry.sources, offer metadata indicator s = none
  rearranged : ∀ registry' : SourceRegistry S, registry'.sources.Perm registry.sources →
    (registry'.select metadata indicator).bind (offer metadata indicator) =
      (registry.select metadata indicator).bind (offer metadata indicator)

section Select
variable {S : Type} {metadata : S → Option SourceMetadata} {indicator : String}
  {registry registry' : SourceRegistry S}

theorem select_some {s : S} (h : registry.select metadata indicator = some s) :
    s ∈ registry.sources ∧ ∃ p, 0 ≤ p ∧ offer metadata indicator s = some p ∧
      ∀ t ∈ registry.sources, ∀ q, offer metadata indicator t = some q → q ≤ p := by
  have hscan := scan_spec metadata indicator registry.sources
  obtain ⟨hmem,hnonneg,hoffer⟩ := hscan.chosen s h
  exact ⟨hmem,_,hnonneg,hoffer,hscan.bound⟩

/-- Nothing is selected exactly where every offer is negative. -/
theorem select_none_iff : registry.select metadata indicator = none ↔
    ∀ s ∈ registry.sources, ∀ p, offer metadata indicator s = some p → p < 0 := by
  have hscan := scan_spec metadata indicator registry.sources
  constructor
  · intro hnone s hs p hp
    have hbound := hscan.bound s hs p hp
    rw [hscan.start hnone] at hbound
    omega
  · intro hnegative
    by_contra hsome
    obtain ⟨s,hs⟩ := Option.ne_none_iff_exists'.mp hsome
    obtain ⟨hmem,p,hnonneg,hoffer,-⟩ := select_some hs
    exact absurd (hnegative s hmem p hoffer) (not_lt.mpr hnonneg)

theorem selected_offer_perm (hperm : registry'.sources.Perm registry.sources) :
    (registry'.select metadata indicator).bind (offer metadata indicator) =
      (registry.select metadata indicator).bind (offer metadata indicator) := by
  cases hselect : registry.select metadata indicator with
  | none =>
    have hnone : registry'.select metadata indicator = none := by
      rw [select_none_iff] at hselect ⊢
      intro s hs
      exact hselect s (hperm.mem_iff.mp hs)
    rw [hnone]
  | some s =>
    obtain ⟨hmem,p,hnonneg,hoffer,hbound⟩ := select_some hselect
    cases hselect' : registry'.select metadata indicator with
    | none =>
      have hnegative := select_none_iff.mp hselect' s (hperm.mem_iff.mpr hmem) p hoffer
      exact absurd hnegative (not_lt.mpr hnonneg)
    | some t =>
      obtain ⟨hmem',p',-,hoffer',hbound'⟩ := select_some hselect'
      rw [Option.bind_some,Option.bind_some,hoffer,hoffer']
      have hle := hbound t (hperm.mem_iff.mp hmem') p' hoffer'
      have hge := hbound' s (hperm.mem_iff.mpr hmem) p hoffer
      exact congrArg some (le_antisymm hle hge)

end Select

/-- The selection is the greatest one exactly where no source supplies the indicator, or one does
with a priority that is not negative. -/
theorem selects_greatest_iff {S : Type} (metadata : S → Option SourceMetadata)
    (registry : SourceRegistry S) (indicator : String) :
    SelectsGreatest metadata registry indicator ↔
      (∀ s ∈ registry.sources, offer metadata indicator s = none) ∨
      ∃ s ∈ registry.sources, ∃ p, 0 ≤ p ∧ offer metadata indicator s = some p := by
  constructor
  · intro hlaw
    cases hselect : registry.select metadata indicator with
    | none => exact .inl (hlaw.unsupported hselect)
    | some s =>
      obtain ⟨hmem,p,hnonneg,hoffer,-⟩ := select_some hselect
      exact .inr ⟨s,hmem,p,hnonneg,hoffer⟩
  · intro hcondition
    refine ⟨?_,?_,fun _ => selected_offer_perm⟩
    · intro s hs
      obtain ⟨hmem,p,-,hoffer,hbound⟩ := select_some hs
      exact ⟨hmem,p,hoffer,hbound⟩
    · intro hnone
      rcases hcondition with hunsupported | ⟨s,hs,p,hnonneg,hoffer⟩
      · exact hunsupported
      · exact absurd (select_none_iff.mp hnone s hs p hoffer) (not_lt.mpr hnonneg)

/-- One source that supplies an indicator at priority minus one. -/
def lowPriority : SourceRegistry SourceMetadata := ⟨[⟨"archive",-1,["GDP"]⟩]⟩

theorem lowPriority_unselected : lowPriority.select some "GDP" = none ∧
    ¬SelectsGreatest some lowPriority "GDP" := by
  have hnone : lowPriority.select some "GDP" = none := by decide +kernel
  refine ⟨hnone,?_⟩
  intro hlaw
  have hoffer := hlaw.unsupported hnone ⟨"archive",-1,["GDP"]⟩ (by simp [lowPriority])
  exact absurd hoffer (by decide +kernel)

end MacroInvest.Agent
