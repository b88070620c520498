import Mathlib

/-! # The conflict surface

Supporting and conflicting drivers and the quant support decide in a cascade how much conviction
a signal has. The cascade tests fewer supporting drivers and weaker support first, so the status
moves one way with each of its inputs.
-/
namespace MacroInvest.Signals

/-- From the most to the least conviction. -/
inductive ConflictStatus where
  | clean
  | tension
  | mixed
  | lowConviction
  deriving DecidableEq, Repr

/-- The place in the order `clean > tension > mixed > low_conviction`, counted down. -/
def ConflictStatus.depth : ConflictStatus → ℕ
  | .clean => 0
  | .tension => 1
  | .mixed => 2
  | .lowConviction => 3

structure ConflictSurface where
  conflictStatus : ConflictStatus
  isMixed : Bool
  conflictingDrivers : List String
  supportingDrivers : List String
  conflictNote : Option String
  quantSupportLevel : String
  deriving DecidableEq, Repr

def quantSupportLabel : Option ℚ → String
  | none => "unknown"
  | some overallSupport =>
    if 0.65 ≤ overallSupport then "strong"
    else if 0.40 ≤ overallSupport then "moderate"
    else "weak"

/-- The quant support is given and very weak. -/
def QuantWeak (overallSupport : Option ℚ) : Prop := ∃ x, overallSupport = some x ∧ x < 0.35

instance (overallSupport : Option ℚ) : Decidable (QuantWeak overallSupport) :=
  match overallSupport with
  | none => isFalse (fun ⟨_,h,_⟩ => nomatch h)
  | some x => decidable_of_iff (x < 0.35) ⟨fun h => ⟨x,rfl,h⟩,fun ⟨_,h,hx⟩ => Option.some.inj h ▸ hx⟩

def lowConvictionNote (nSup : ℕ) (quantLabel : String) (quantWeak : Bool) : String :=
  if nSup = 0 ∧ quantWeak then
    "No supporting drivers identified and quant support is weak. " ++
      "Signal lacks analytical backing — treat as indicative only."
  else if nSup = 0 then
    "No supporting drivers identified for this signal. " ++
      "Quant support: " ++ quantLabel ++ ". Treat as low-conviction."
  else
    "Quant support is very weak (" ++ quantLabel ++ "). " ++
      "Signal may not be backed by sufficient macroeconomic evidence."

/-- The status and the note, by the number of drivers on each side. -/
def statusAndNote (nSup nCon : ℕ) (quantOverallSupport : Option ℚ) :
    ConflictStatus × Option String :=
  let quantLabel := quantSupportLabel quantOverallSupport
  if nSup = 0 ∨ QuantWeak quantOverallSupport then
    (.lowConviction,some (lowConvictionNote nSup quantLabel (QuantWeak quantOverallSupport)))
  else if nSup ≤ nCon then
    (.mixed,some ("Conflicting drivers (" ++ toString nCon ++
      ") match or outnumber supporting drivers (" ++ toString nSup ++ "). " ++
      "Signal direction is contested — quant support: " ++ quantLabel ++ "."))
  else if 0 < nCon then
    (.tension,some ("Signal direction supported (" ++ toString nSup ++ " factors) but " ++
      toString nCon ++ " conflicting " ++ "driver(s) reduce conviction. Quant support: " ++
      quantLabel ++ "."))
  else (.clean,none)

/-- `is_degraded` is taken and not read. -/
def deriveConflict (supportingDrivers conflictingDrivers : List String)
    (quantOverallSupport : Option ℚ) (_isDegraded : Bool) : ConflictSurface :=
  let decided := statusAndNote supportingDrivers.length conflictingDrivers.length
    quantOverallSupport
  { conflictStatus := decided.1
    isMixed := decided.1 = .mixed ∨ decided.1 = .lowConviction
    conflictingDrivers := conflictingDrivers
    supportingDrivers := supportingDrivers
    conflictNote := decided.2
    quantSupportLevel := quantSupportLabel quantOverallSupport }

section Cascade
variable {nSup nCon : ℕ} {q : Option ℚ}

theorem status_low_iff : (statusAndNote nSup nCon q).1 = .lowConviction ↔ nSup = 0 ∨ QuantWeak q := by
  unfold statusAndNote
  by_cases hlow : nSup = 0 ∨ QuantWeak q
  · simp only [hlow,if_true]
  · simp only [hlow,if_false,iff_false]
    split_ifs <;> nofun

theorem status_of_supported (h : ¬(nSup = 0 ∨ QuantWeak q)) : (statusAndNote nSup nCon q).1 =
    if nSup ≤ nCon then .mixed else if 0 < nCon then .tension else .clean := by
  unfold statusAndNote
  simp only [h,if_false]
  split_ifs <;> rfl

theorem depth_le_three (status : ConflictStatus) : status.depth ≤ 3 := by
  cases status <;> decide

theorem note_none_iff : (statusAndNote nSup nCon q).2 = none ↔
    (statusAndNote nSup nCon q).1 = .clean := by
  unfold statusAndNote
  simp only
  split_ifs
  · exact iff_of_false nofun nofun
  · exact iff_of_false nofun nofun
  · exact iff_of_false nofun nofun
  · exact iff_of_true rfl rfl

/-- Support that is no weaker: the same absence, or a number that is at least as large. -/
def NoWeaker : Option ℚ → Option ℚ → Prop
  | some x, some y => x ≤ y
  | none, none => True
  | _, _ => False

theorem NoWeaker.refl (q : Option ℚ) : NoWeaker q q := by
  cases q with
  | none => trivial
  | some x => exact le_rfl

theorem NoWeaker.quantWeak {q q' : Option ℚ} (h : NoWeaker q q') (hweak : QuantWeak q') :
    QuantWeak q := by
  obtain ⟨y,rfl,hy⟩ := hweak
  cases q with
  | none => exact h.elim
  | some x => exact ⟨x,rfl,lt_of_le_of_lt h hy⟩

/-- More supporting drivers, fewer conflicting ones and stronger support leave the status where
it is or move it up. -/
theorem depth_mono {nSup' nCon' : ℕ} {q' : Option ℚ} (hsup : nSup ≤ nSup') (hcon : nCon' ≤ nCon)
    (hq : NoWeaker q q') : (statusAndNote nSup' nCon' q').1.depth ≤
      (statusAndNote nSup nCon q).1.depth := by
  by_cases hlow : nSup = 0 ∨ QuantWeak q
  · rw [status_low_iff.mpr hlow]
    exact depth_le_three _
  · have hlow' : ¬(nSup' = 0 ∨ QuantWeak q') := by
      rintro (hzero | hweak)
      · exact hlow (.inl (Nat.le_zero.mp (hzero ▸ hsup)))
      · exact hlow (.inr (hq.quantWeak hweak))
    rw [status_of_supported hlow,status_of_supported hlow']
    split_ifs
    all_goals first | exact Nat.le_refl _ | decide | omega

end Cascade

/-- What holds of the surface of two lists of drivers and a support. -/
structure ConflictLaw (supporting conflicting : List String) (q : Option ℚ) : Prop where
  supported : ∀ supporting' degraded degraded', supporting.Subperm supporting' →
    (deriveConflict supporting' conflicting q degraded').conflictStatus.depth ≤
      (deriveConflict supporting conflicting q degraded).conflictStatus.depth
  raised : ∀ x y degraded degraded', q = some x → x ≤ y →
    (deriveConflict supporting conflicting (some y) degraded').conflictStatus.depth ≤
      (deriveConflict supporting conflicting q degraded).conflictStatus.depth
  opposed : ∀ conflicting' degraded degraded', conflicting.Subperm conflicting' →
    (deriveConflict supporting conflicting q degraded).conflictStatus.depth ≤
      (deriveConflict supporting conflicting' q degraded').conflictStatus.depth
  mixed : ∀ degraded, (deriveConflict supporting conflicting q degraded).isMixed = true ↔
    (deriveConflict supporting conflicting q degraded).conflictStatus ∈
      [ConflictStatus.mixed,.lowConviction]
  note : ∀ degraded, (deriveConflict supporting conflicting q degraded).conflictNote = none ↔
    (deriveConflict supporting conflicting q degraded).conflictStatus = .clean
  degraded : ∀ degraded degraded',
    (deriveConflict supporting conflicting q degraded).conflictStatus =
      (deriveConflict supporting conflicting q degraded').conflictStatus

theorem conflict_law (supporting conflicting : List String) (q : Option ℚ) :
    ConflictLaw supporting conflicting q where
  supported _ _ _ hadd := depth_mono hadd.length_le le_rfl (NoWeaker.refl q)
  raised x y _ _ hx hxy := by
    subst hx
    exact depth_mono le_rfl le_rfl hxy
  opposed _ _ _ hadd := depth_mono le_rfl hadd.length_le (NoWeaker.refl q)
  mixed degraded := by
    simp only [deriveConflict,decide_eq_true_iff,List.mem_cons,List.not_mem_nil,or_false]
  note _ := note_none_iff
  degraded _ _ := rfl

end MacroInvest.Signals
