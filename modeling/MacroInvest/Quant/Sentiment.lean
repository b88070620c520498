import MacroInvest.Library.Arithmetic
import MacroInvest.Library.LineStream
import MacroInvest.Events.Normalizer
import MacroInvest.Quant.Persona

/-! # The sentiment of headlines

Headlines are cut into words, the words are looked up in a weighted lexicon, and the sum is
scaled by the number of words. A few crisis words, or a large share of them, switch the regime.
The weights are added as they are read, so that another order of the words moves the score by the
roundings of the sums.
-/
namespace MacroInvest.Quant
open Rounding Words

section Score

def weightedLexicon : Dict String ℚ := Dict.ofList [
  ("breakout",0.90),("bullish",0.85),("surge",0.85),("rally",0.80),("record",0.80),
  ("beat",0.80),("exceed",0.80),("outperform",0.80),("surpass",0.75),("boom",0.80),
  ("growth",0.70),("expansion",0.70),("boost",0.65),("recovery",0.65),("upgrade",0.65),
  ("profit",0.60),("gain",0.60),("upside",0.55),("positive",0.55),("strong",0.55),
  ("optimistic",0.55),("resilient",0.35),("stabilize",0.30),("support",0.25),
  ("tightening",-0.25),("inflation",-0.30),("uncertainty",-0.20),("headwind",-0.35),
  ("pressure",-0.35),("concern",-0.35),("risk",-0.30),("warn",-0.45),("weak",-0.45),
  ("below",-0.35),("decline",-0.50),("cut",-0.45),("drag",-0.55),("miss",-0.60),
  ("loss",-0.70),("bearish",-0.85),("drop",-0.70),("fall",-0.65),("crisis",-0.85),
  ("plunge",-0.85),("sell-off",-0.80),("slump",-0.75),("recession",-0.85),
  ("contraction",-0.70),("downgrade",-0.70),("underperform",-0.70)]

def stripChars : List Char := ['.',',','!','?',';',':','\x27','"','(',')','\n','\t']

def sentScale : ℚ := 20

def crisisKeywords : List String := ["inflation","hawkish","tightening","crisis"]

def crisisSwitchCountThreshold : ℕ := 3
def crisisSwitchRatioThreshold : ℚ := 0.03

/-- `t.strip(_STRIP_CHARS)` -/
def stripPunctuation (w : List Char) : List Char :=
  (w.dropWhile (· ∈ stripChars)).rdropWhile (· ∈ stripChars)

/-- `[t.strip(_STRIP_CHARS) for t in text.lower().split()]`, lowered as far as it can yield a
word of the lexicon. -/
def tokens (text : String) : List String :=
  (words Events.isSpace (text.toList.flatMap Events.lowerChar)).map
    (fun w => String.ofList (stripPunctuation w))

structure Tally where
  weightedSum : ℚ := 0
  totalTokens : ℕ := 0
  positiveHits : ℕ := 0
  negativeHits : ℕ := 0
  crisisKeywordCount : ℕ := 0

section Reading
variable (A : Arithmetic)

def weightOf (token : String) : ℚ := A.fl ((weightedLexicon.get? token).getD 0)

def Tally.token (t : Tally) (token : String) : Tally :=
  let t := if token ∈ crisisKeywords then
    {t with crisisKeywordCount := t.crisisKeywordCount + 1} else t
  let weight := weightOf A token
  if weight ≠ 0 then
    let t := {t with weightedSum := A.add t.weightedSum weight}
    if 0 < weight then {t with positiveHits := t.positiveHits + 1}
    else {t with negativeHits := t.negativeHits + 1}
  else t

def Tally.text (t : Tally) (text : String) : Tally :=
  (tokens text).foldl (Tally.token A) {t with totalTokens := t.totalTokens + (tokens text).length}

def clipUnit (x : ℚ) : ℚ := min (max x (-1)) 1

/-- `SentimentEngine._score` -/
def sentimentScore (ticker : String) (texts : List String) : SentimentResult :=
  let t := texts.foldl (Tally.text A) {}
  if t.totalTokens = 0 then noSentiment ticker
  else
    let raw := A.mul (A.div t.weightedSum t.totalTokens) sentScale
    let crisisRatio := A.div t.crisisKeywordCount t.totalTokens
    { ticker := ticker
      sentimentScore := clipUnit raw
      positiveRatio := A.div t.positiveHits t.totalTokens
      negativeRatio := A.div t.negativeHits t.totalTokens
      sampleSize := texts.length
      regimeSwitch := decide (crisisSwitchCountThreshold ≤ t.crisisKeywordCount ∨
        A.fl crisisSwitchRatioThreshold < crisisRatio)
      crisisKeywordCount := t.crisisKeywordCount }

end Reading

end Score

section Bag

/-- All words of the headlines, as they are read. -/
def bag (texts : List String) : List String := texts.flatMap tokens

section Counters
variable (A : Arithmetic)

/-- The weights that are added, as they are read. -/
def weights (ws : List String) : List ℚ := (ws.map (weightOf A)).filter (· ≠ 0)

def positiveCount (ws : List String) : ℕ := ws.countP (fun w => 0 < weightOf A w)

def negativeCount (ws : List String) : ℕ := ws.countP (fun w => weightOf A w < 0)

/-- What the counters are after some words more, which are not counted as read. -/
def Tally.after (t : Tally) (ws : List String) : Tally where
  weightedSum := (weights A ws).foldl A.add t.weightedSum
  totalTokens := t.totalTokens
  positiveHits := t.positiveHits + positiveCount A ws
  negativeHits := t.negativeHits + negativeCount A ws
  crisisKeywordCount := t.crisisKeywordCount + ws.countP (· ∈ crisisKeywords)

theorem weights_append (ws vs : List String) :
    weights A (ws ++ vs) = weights A ws ++ weights A vs := by
  rw [weights,List.map_append,List.filter_append,weights,weights]

theorem Tally.after_append (t : Tally) (ws vs : List String) :
    t.after A (ws ++ vs) = (t.after A ws).after A vs := by
  simp only [Tally.after,weights_append,List.foldl_append,positiveCount,negativeCount,
    List.countP_append,Nat.add_assoc]

theorem token_eq (t : Tally) (w : String) : t.token A w = t.after A [w] := by
  rcases lt_trichotomy (weightOf A w) 0 with h | h | h
  · by_cases hc : w ∈ crisisKeywords <;>
      simp [Tally.token,Tally.after,weights,positiveCount,negativeCount,h,h.ne,h.le,hc]
  · by_cases hc : w ∈ crisisKeywords <;>
      simp [Tally.token,Tally.after,weights,positiveCount,negativeCount,h,hc]
  · by_cases hc : w ∈ crisisKeywords <;>
      simp [Tally.token,Tally.after,weights,positiveCount,negativeCount,h,h.ne',h.le,hc]

theorem foldl_token (ws : List String) (t : Tally) :
    ws.foldl (Tally.token A) t = t.after A ws := by
  induction ws generalizing t with
  | nil => simp [Tally.after,weights,positiveCount,negativeCount]
  | cons w ws ih => rw [List.foldl_cons,ih,token_eq,← Tally.after_append,List.singleton_append]

theorem tally_eq (texts : List String) (t : Tally) : texts.foldl (Tally.text A) t =
    {t.after A (bag texts) with totalTokens := t.totalTokens + (bag texts).length} := by
  induction texts generalizing t with
  | nil => simp [Tally.after,weights,positiveCount,negativeCount,bag]
  | cons text texts ih =>
    have hbag : bag (text :: texts) = tokens text ++ bag texts := rfl
    rw [List.foldl_cons,ih,Tally.text,foldl_token,hbag,Tally.after_append,List.length_append,
      ← Nat.add_assoc]
    rfl

end Counters

theorem bag_perm {texts texts' : List String} (h : texts.Perm texts') :
    (bag texts).Perm (bag texts') := h.flatMap_right tokens

theorem lowerChar_blank : Events.lowerChar ' ' = [' '] := by decide

theorem tokens_join (a b : String) : tokens (a ++ " " ++ b) = tokens a ++ tokens b := by
  have hlist : (a ++ " " ++ b).toList.flatMap Events.lowerChar =
      a.toList.flatMap Events.lowerChar ++ ' ' :: b.toList.flatMap Events.lowerChar := by
    simp [lowerChar_blank]
  rw [tokens,hlist,words_append_cons (by decide),List.map_append]
  rfl

/-- Two headlines are as good as one that joins them with a blank. -/
theorem bag_join (a b : String) (texts : List String) :
    bag ((a ++ " " ++ b) :: texts) = bag (a :: b :: texts) := by
  simp [bag,tokens_join]

end Bag

section Law
variable (A : Arithmetic)

def crisisCount (texts : List String) : ℕ := (bag texts).countP (· ∈ crisisKeywords)

/-- What is promised of a score: its range, the shares of the words that weigh on either side,
and when the regime is switched. -/
structure SentimentLaw (texts : List String) (r : SentimentResult) : Prop where
  score : -1 ≤ r.sentimentScore ∧ r.sentimentScore ≤ 1
  positive : r.positiveRatio = A.div (positiveCount A (bag texts)) (bag texts).length
  negative : r.negativeRatio = A.div (negativeCount A (bag texts)) (bag texts).length
  ratios : (0 ≤ r.positiveRatio ∧ r.positiveRatio ≤ 1) ∧ 0 ≤ r.negativeRatio ∧ r.negativeRatio ≤ 1
  hits : positiveCount A (bag texts) + negativeCount A (bag texts) ≤ (bag texts).length
  count : r.crisisKeywordCount = crisisCount texts
  switched : r.regimeSwitch = true ↔
    3 ≤ crisisCount texts ∨ 3 * (bag texts).length < 100 * crisisCount texts

theorem clipUnit_bounds (x : ℚ) : -1 ≤ clipUnit x ∧ clipUnit x ≤ 1 :=
  ⟨le_min (le_max_right _ _) (by norm_num),min_le_right _ _⟩

/-- What is cut off is the sum of the weights over the number of words, scaled. -/
def rawScore (ws : List String) : ℚ :=
  A.mul (A.div ((weights A ws).foldl A.add 0) ws.length) sentScale

theorem sentimentScore_eq (ticker : String) (texts : List String) :
    sentimentScore A ticker texts =
      if (bag texts).length = 0 then noSentiment ticker
      else
        { ticker := ticker
          sentimentScore := clipUnit (rawScore A (bag texts))
          positiveRatio := A.div (positiveCount A (bag texts)) (bag texts).length
          negativeRatio := A.div (negativeCount A (bag texts)) (bag texts).length
          sampleSize := texts.length
          regimeSwitch := decide (crisisSwitchCountThreshold ≤ crisisCount texts ∨
            A.fl crisisSwitchRatioThreshold < A.div (crisisCount texts) (bag texts).length)
          crisisKeywordCount := crisisCount texts } := by
  simp only [sentimentScore,tally_eq,Tally.after,crisisCount,rawScore,zero_add]
  rfl

/-- No word weighs on both sides. -/
theorem hits_le (ws : List String) :
    positiveCount A ws + negativeCount A ws ≤ ws.length := by
  induction ws with
  | nil => simp [positiveCount,negativeCount]
  | cons w ws ih =>
    have hw : ¬(0 < weightOf A w ∧ weightOf A w < 0) := fun h => absurd h.1 (not_lt.mpr h.2.le)
    by_cases hpos : 0 < weightOf A w <;> by_cases hneg : weightOf A w < 0 <;>
      simp_all [positiveCount,negativeCount] <;> omega

/-- A share of the words is one of a whole. -/
theorem ratio_bounds {k n : ℕ} (h : k ≤ n) : 0 ≤ A.div k n ∧ A.div k n ≤ 1 := by
  have hcast : (k : ℚ) ≤ n := by exact_mod_cast h
  constructor
  · exact A.fl_nonneg (by positivity)
  · exact A.fl_le_one (div_le_one_of_le₀ hcast (Nat.cast_nonneg n))

/-- With fewer than three crisis words no share of them is near the threshold. -/
theorem crisisRatio_iff {c n : ℕ} (hn : 0 < n) (hc : c < 3) :
    A.fl crisisSwitchRatioThreshold < A.div c n ↔ 3 * n < 100 * c := by
  have hpos : (0 : ℚ) < n := by exact_mod_cast hn
  constructor
  · intro hlt
    by_contra! hmany
    have hcast : 100 * (c : ℚ) ≤ 3 * n := by exact_mod_cast hmany
    refine hlt.not_ge (A.mono ?_)
    rw [div_le_iff₀ hpos,crisisSwitchRatioThreshold]
    linarith
  · intro hfew
    have hshare : (1 : ℚ) / 33 ≤ c / n := by
      have hcount : n ≤ 33 * c := by omega
      have hcast : (n : ℚ) ≤ 33 * c := by exact_mod_cast hcount
      rw [div_le_div_iff₀ (by norm_num) hpos]
      linarith
    have hthreshold := abs_le.mp (A.near crisisSwitchRatioThreshold)
    have hleast := abs_le.mp (A.near (1 / 33))
    rw [abs_of_pos (by norm_num [crisisSwitchRatioThreshold])] at hthreshold
    rw [abs_of_pos (by norm_num)] at hleast
    calc A.fl crisisSwitchRatioThreshold < A.fl (1 / 33) := by
          norm_num [crisisSwitchRatioThreshold] at hthreshold hleast ⊢
          linarith [hthreshold.2,hleast.1]
      _ ≤ A.div c n := A.mono hshare

theorem sentiment_law (ticker : String) (texts : List String) :
    SentimentLaw A texts (sentimentScore A ticker texts) := by
  have hhits := hits_le A (bag texts)
  rw [sentimentScore_eq]
  by_cases hempty : (bag texts).length = 0
  · have hnone : bag texts = [] := List.length_eq_zero_iff.mp hempty
    rw [if_pos hempty]
    constructor <;>
      simp [noSentiment,hnone,crisisCount,positiveCount,negativeCount,Arithmetic.div]
  · rw [if_neg hempty]
    refine ⟨clipUnit_bounds _,rfl,rfl,⟨?_,?_⟩,hhits,rfl,?_⟩
    · exact ratio_bounds A (by omega)
    · exact ratio_bounds A (by omega)
    · rw [decide_eq_true_eq,crisisSwitchCountThreshold]
      by_cases hc : 3 ≤ crisisCount texts
      · simp [hc]
      · rw [crisisRatio_iff A (Nat.pos_of_ne_zero hempty) (by omega)]

end Law

section Order
variable (A : Arithmetic)

theorem weight_values : ∀ p ∈ weightedLexicon.entries, |p.2| ≤ 1 := by decide +kernel

theorem abs_weightOf_le (w : String) : |weightOf A w| ≤ 1 := by
  have hvalue : |(weightedLexicon.get? w).getD 0| ≤ 1 := by
    cases h : weightedLexicon.get? w with
    | none => norm_num
    | some x =>
      have hmem : (w,x) ∈ weightedLexicon.entries := Dict.get?_eq_some_iff.mp h
      rw [Option.getD_some]
      exact weight_values (w,x) hmem
  exact A.abs_fl_le_one hvalue

theorem abs_weights_le (ws : List String) : ∀ x ∈ weights A ws, |x| ≤ 1 := by
  intro x hx
  obtain ⟨w,-,rfl⟩ := List.mem_map.mp (List.mem_of_mem_filter hx)
  exact abs_weightOf_le A w

theorem length_weights_le (ws : List String) : (weights A ws).length ≤ ws.length := by
  rw [← List.length_map (weightOf A)]
  exact List.length_filter_le _ _

theorem weights_perm {ws vs : List String} (h : ws.Perm vs) :
    (weights A ws).Perm (weights A vs) := (h.map _).filter _

/-- The score is within some roundings of the one without any. -/
theorem abs_rawScore_sub_le {ws : List String} (hne : 0 < ws.length)
    (hlen : ws.length ≤ 2 ^ 53) :
    |rawScore A ws - sentScale * ((weights A ws).sum / ws.length)| ≤
      20 * (ws.length + 2) / 2 ^ 53 := by
  have hpos : (0 : ℚ) < ws.length := by exact_mod_cast hne
  have hcast : ((weights A ws).length : ℚ) ≤ ws.length := by exact_mod_cast length_weights_le A ws
  obtain ⟨htotal,herror⟩ := A.abs_foldl_sub_le (abs_weights_le A ws)
    ((length_weights_le A ws).trans hlen)
  rw [rawScore]
  generalize (weights A ws).foldl A.add 0 = t at htotal herror ⊢
  have hmean : |t / ws.length| ≤ 1 := by
    rw [abs_div,abs_of_pos hpos]
    exact div_le_one_of_le₀ (htotal.trans hcast) hpos.le
  have hdiv := A.near (t / ws.length)
  have hquotient : |A.div t ws.length| ≤ 1 := A.abs_fl_le_one hmean
  have hmul := A.near (A.div t ws.length * sentScale)
  rw [abs_mul,abs_of_pos (show (0 : ℚ) < sentScale by norm_num [sentScale])] at hmul
  have hsum : |t / ws.length - (weights A ws).sum / ws.length| ≤ ws.length / 2 ^ 53 := by
    rw [← sub_div,abs_div,abs_of_pos hpos,div_le_iff₀ hpos]
    refine herror.trans ?_
    have hsquare : ((weights A ws).length : ℚ) ^ 2 ≤ ws.length ^ 2 := by gcongr
    linarith
  have hsplit : A.mul (A.div t ws.length) sentScale -
      sentScale * ((weights A ws).sum / ws.length) =
        A.fl (A.div t ws.length * sentScale) - A.div t ws.length * sentScale +
          (sentScale * (A.fl (t / ws.length) - t / ws.length) +
            sentScale * (t / ws.length - (weights A ws).sum / ws.length)) := by
    rw [Arithmetic.mul,Arithmetic.div]
    ring
  rw [hsplit]
  refine (abs_add_le _ _).trans ((add_le_add_right (abs_add_le _ _) _).trans ?_)
  rw [abs_mul,abs_mul,abs_of_pos (show (0 : ℚ) < sentScale by norm_num [sentScale])]
  rw [sentScale] at hmul ⊢
  linarith

theorem abs_clipUnit_sub_le (x y : ℚ) : |clipUnit x - clipUnit y| ≤ |x - y| := by
  have hmin := abs_min_sub_min_le_max (max x (-1)) 1 (max y (-1)) 1
  rw [sub_self,abs_zero,max_eq_left (abs_nonneg (max x (-1) - max y (-1)))] at hmin
  exact hmin.trans (abs_max_sub_max_le_abs x y (-1))

/-- Another order of the words moves the score by roundings only. -/
theorem abs_score_sub_le {ws vs : List String} (h : ws.Perm vs) (hne : 0 < ws.length) :
    |clipUnit (rawScore A ws) - clipUnit (rawScore A vs)| ≤ 40 * (ws.length + 2) / 2 ^ 53 := by
  by_cases hlen : ws.length ≤ 2 ^ 53
  · have hws := abs_rawScore_sub_le A hne hlen
    have hvs := abs_rawScore_sub_le A (h.length_eq ▸ hne) (h.length_eq ▸ hlen)
    rw [← h.length_eq,← (weights_perm A h).sum_eq,abs_sub_comm] at hvs
    have hboth := abs_sub_le (rawScore A ws) (sentScale * ((weights A ws).sum / ws.length))
      (rawScore A vs)
    refine (abs_clipUnit_sub_le _ _).trans (hboth.trans ?_)
    linarith
  · have hmany : (2 : ℚ) ^ 53 ≤ ws.length := by exact_mod_cast (not_le.mp hlen).le
    have hrange : |clipUnit (rawScore A ws) - clipUnit (rawScore A vs)| ≤ 2 := by
      have hws := clipUnit_bounds (rawScore A ws)
      have hvs := clipUnit_bounds (rawScore A vs)
      rw [abs_le]
      constructor
      · linarith
      · linarith
    refine hrange.trans ?_
    rw [le_div_iff₀ (by norm_num)]
    linarith

/-- The score is one of the words as they are read, whether two headlines come as one or not, and
another order moves it by the roundings of the sums. All the rest is one of the bag of words. The
range of the score and the switch of the regime follow the law, and three crisis words switch it
for good, however many other words there are. -/
theorem sentiment_of_words (ticker : String) (texts texts' : List String)
    (h : (bag texts).Perm (bag texts')) :
    (bag texts = bag texts' → (sentimentScore A ticker texts).sentimentScore =
      (sentimentScore A ticker texts').sentimentScore) ∧
    |(sentimentScore A ticker texts).sentimentScore -
      (sentimentScore A ticker texts').sentimentScore| ≤ 40 * ((bag texts).length + 2) / 2 ^ 53 ∧
    {sentimentScore A ticker texts with sentimentScore := 0,sampleSize := 0} =
      {sentimentScore A ticker texts' with sentimentScore := 0,sampleSize := 0} ∧
    SentimentLaw A texts (sentimentScore A ticker texts) ∧
    ∀ more,3 ≤ crisisCount texts →
      (sentimentScore A ticker (texts ++ more)).regimeSwitch = true := by
  refine ⟨?_,?_,?_,sentiment_law A ticker texts,?_⟩
  · intro hsame
    rw [sentimentScore_eq,sentimentScore_eq,hsame]
    split <;> rfl
  · rw [sentimentScore_eq,sentimentScore_eq,← h.length_eq]
    split
    · rw [sub_self,abs_zero]
      positivity
    · exact abs_score_sub_le A h (by omega)
  · rw [sentimentScore_eq,sentimentScore_eq,crisisCount,crisisCount,h.length_eq,positiveCount,
      positiveCount,negativeCount,negativeCount,h.countP_eq,h.countP_eq,h.countP_eq]
    split <;> rfl
  · intro more hcount
    refine (sentiment_law A ticker (texts ++ more)).switched.mpr (.inl (le_trans hcount ?_))
    simp [crisisCount,bag,List.flatMap_append]

/-- Two headlines in one order, and joined in the other. -/
theorem sentiment_of_words_joined :
    |(sentimentScore .double "AAPL" ["rally","Rate cut; risk"]).sentimentScore -
      (sentimentScore .double "AAPL" ["Rate cut; risk rally"]).sentimentScore| ≤
        40 * ((bag ["rally","Rate cut; risk"]).length + 2) / 2 ^ 53 := by
  refine (sentiment_of_words .double "AAPL" ["rally","Rate cut; risk"] ["Rate cut; risk rally"]
    ?_).2.1
  rw [show "Rate cut; risk rally" = "Rate cut; risk" ++ " " ++ "rally" by decide,bag_join]
  exact bag_perm (List.Perm.swap _ _ _)

end Order

end MacroInvest.Quant
