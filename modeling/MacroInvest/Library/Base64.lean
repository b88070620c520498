import Mathlib

/-! # Base64 with the alphabet for URLs

Three bytes make four characters, and the last group is padded. The decoder is lenient: it reads
the characters of both alphabets one after another, skips all others and stops at a full padding.
-/
namespace MacroInvest.Base64

def alphabet : List Char :=
  "ABCDEFGHIJKLMNOPQRSTUVWXYZabcdefghijklmnopqrstuvwxyz0123456789-_".toList

/-- The character of a number of six bits. -/
def sixBits (n : ℕ) : Char := alphabet.getD n 'A'

def encode : List UInt8 → List Char
  | [] => []
  | [a] => [sixBits (a.toNat / 4),sixBits (a.toNat % 4 * 16),'=','=']
  | [a,b] =>
    [sixBits (a.toNat / 4),sixBits (a.toNat % 4 * 16 + b.toNat / 16),sixBits (b.toNat % 16 * 4),'=']
  | a :: b :: c :: rest =>
    sixBits (a.toNat / 4) :: sixBits (a.toNat % 4 * 16 + b.toNat / 16) ::
      sixBits (b.toNat % 16 * 4 + c.toNat / 64) :: sixBits (c.toNat % 64) :: encode rest

section Decoder

inductive DecodeError where
  | notAscii
  | oneMore
  | incorrectPadding
  deriving DecidableEq

/-- The six bits of a character of either alphabet. -/
def value (c : Char) : Option ℕ :=
  if 'A' ≤ c ∧ c ≤ 'Z' then some (c.toNat - 65)
  else if 'a' ≤ c ∧ c ≤ 'z' then some (c.toNat - 71)
  else if '0' ≤ c ∧ c ≤ '9' then some (c.toNat + 4)
  else if c = '-' ∨ c = '+' then some 62
  else if c = '_' ∨ c = '/' then some 63
  else none

/-- The place in the group of four, the bits left over, the pads seen and the bytes read. -/
structure State where
  quadPos : ℕ := 0
  leftchar : ℕ := 0
  pads : ℕ := 0
  bytes : List UInt8 := []

def State.take (s : State) (v : ℕ) : State :=
  match s.quadPos with
  | 0 => ⟨1,v,0,s.bytes⟩
  | 1 => ⟨2,v % 16,0,s.bytes ++ [UInt8.ofNat (s.leftchar * 4 + v / 16)]⟩
  | 2 => ⟨3,v % 4,0,s.bytes ++ [UInt8.ofNat (s.leftchar * 16 + v / 4)]⟩
  | _ => ⟨0,0,0,s.bytes ++ [UInt8.ofNat (s.leftchar * 64 + v)]⟩

def decodeFrom (s : State) : List Char → Except DecodeError (List UInt8)
  | [] =>
    if s.quadPos = 0 then .ok s.bytes
    else if s.quadPos = 1 then .error .oneMore
    else .error .incorrectPadding
  | c :: cs =>
    if c = '=' then
      -- a pad counts from the third place of a group on
      if s.quadPos < 2 then decodeFrom s cs
      else if 4 ≤ s.quadPos + (s.pads + 1) then .ok s.bytes
      else decodeFrom { s with pads := s.pads + 1 } cs
    else match value c with
      | none => decodeFrom s cs
      | some v => decodeFrom (s.take v) cs

def decode (text : List Char) : Except DecodeError (List UInt8) :=
  if ∀ c ∈ text, c.toNat < 128 then decodeFrom {} text else .error .notAscii

end Decoder

section RoundTrip

theorem sixBits_spec : ∀ n < 64, value (sixBits n) = some n ∧ sixBits n ≠ '=' ∧
    (sixBits n).toNat < 128 := by
  decide +kernel

theorem decodeFrom_sixBits {n : ℕ} (h : n < 64) (s : State) (cs : List Char) :
    decodeFrom s (sixBits n :: cs) = decodeFrom (s.take n) cs := by
  obtain ⟨hvalue,hpad,-⟩ := sixBits_spec n h
  rw [decodeFrom,if_neg hpad,hvalue]

theorem byte_eq {n : ℕ} {a : UInt8} (h : n = a.toNat) : UInt8.ofNat n = a := by
  rw [h,UInt8.ofNat_toNat]

/-- The decoder reads what was encoded after the bytes it has. -/
theorem decodeFrom_encode (bytes out : List UInt8) :
    decodeFrom {bytes := out} (encode bytes) = .ok (out ++ bytes) := by
  induction bytes using encode.induct generalizing out with
  | case1 => simp [encode,decodeFrom]
  | case2 a =>
    have ha := a.toNat_lt
    have hfirst : UInt8.ofNat (a.toNat / 4 * 4 + a.toNat % 4 * 16 / 16) = a := byte_eq (by omega)
    rw [encode,decodeFrom_sixBits (by omega),decodeFrom_sixBits (by omega)]
    simp only [State.take,hfirst]
    simp [decodeFrom]
  | case3 a b =>
    have ha := a.toNat_lt
    have hb := b.toNat_lt
    have hfirst : UInt8.ofNat (a.toNat / 4 * 4 + (a.toNat % 4 * 16 + b.toNat / 16) / 16) = a :=
      byte_eq (by omega)
    have hsecond : UInt8.ofNat ((a.toNat % 4 * 16 + b.toNat / 16) % 16 * 16 +
        b.toNat % 16 * 4 / 4) = b := byte_eq (by omega)
    rw [encode,decodeFrom_sixBits (by omega),decodeFrom_sixBits (by omega),
      decodeFrom_sixBits (by omega)]
    simp only [State.take,hfirst,hsecond]
    simp [decodeFrom]
  | case4 a b c rest ih =>
    have ha := a.toNat_lt
    have hb := b.toNat_lt
    have hc := c.toNat_lt
    have hfirst : UInt8.ofNat (a.toNat / 4 * 4 + (a.toNat % 4 * 16 + b.toNat / 16) / 16) = a :=
      byte_eq (by omega)
    have hsecond : UInt8.ofNat ((a.toNat % 4 * 16 + b.toNat / 16) % 16 * 16 +
        (b.toNat % 16 * 4 + c.toNat / 64) / 4) = b := byte_eq (by omega)
    have hthird : UInt8.ofNat ((b.toNat % 16 * 4 + c.toNat / 64) % 4 * 64 + c.toNat % 64) = c :=
      byte_eq (by omega)
    rw [encode,decodeFrom_sixBits (by omega),decodeFrom_sixBits (by omega),
      decodeFrom_sixBits (by omega),decodeFrom_sixBits (by omega)]
    simp only [State.take,hfirst,hsecond,hthird]
    rw [ih]
    simp

theorem encode_ascii (bytes : List UInt8) : ∀ c ∈ encode bytes, c.toNat < 128 := by
  have hsix : ∀ n < 64, (sixBits n).toNat < 128 := fun n hn => (sixBits_spec n hn).2.2
  induction bytes using encode.induct with
  | case1 => simp [encode]
  | case2 a =>
    have ha := a.toNat_lt
    simp only [encode,List.forall_mem_cons]
    exact ⟨hsix _ (by omega),hsix _ (by omega),by decide,by decide,nofun⟩
  | case3 a b =>
    have ha := a.toNat_lt
    have hb := b.toNat_lt
    simp only [encode,List.forall_mem_cons]
    exact ⟨hsix _ (by omega),hsix _ (by omega),hsix _ (by omega),by decide,nofun⟩
  | case4 a b c rest ih =>
    have ha := a.toNat_lt
    have hb := b.toNat_lt
    have hc := c.toNat_lt
    simp only [encode,List.forall_mem_cons]
    exact ⟨hsix _ (by omega),hsix _ (by omega),hsix _ (by omega),hsix _ (by omega),ih⟩

theorem decode_encode (bytes : List UInt8) : decode (encode bytes) = .ok bytes := by
  rw [decode,if_pos (encode_ascii bytes)]
  exact decodeFrom_encode bytes []

end RoundTrip

section Padding

/-- `text.rstrip("=")` -/
def stripPadding (text : List Char) : List Char := text.rdropWhile (· = '=')

/-- The text with pads up to a multiple of four. -/
def restorePadding (text : List Char) : List Char :=
  text ++ List.replicate ((4 - text.length % 4) % 4) '='

/-- An encoding is its data characters and the pads to a multiple of four. -/
theorem encode_split (bytes : List UInt8) : ∃ body pads, encode bytes = body ++
    List.replicate pads '=' ∧ '=' ∉ body ∧ pads < 4 ∧ (body.length + pads) % 4 = 0 := by
  have hsix : ∀ n < 64, '=' ≠ sixBits n := fun n hn => (sixBits_spec n hn).2.1.symm
  induction bytes using encode.induct with
  | case1 => exact ⟨[],0,rfl,by simp,by decide,rfl⟩
  | case2 a =>
    have ha := a.toNat_lt
    refine ⟨[sixBits (a.toNat / 4),sixBits (a.toNat % 4 * 16)],2,rfl,?_,by decide,by simp⟩
    simp [hsix (a.toNat / 4) (by omega),hsix (a.toNat % 4 * 16) (by omega)]
  | case3 a b =>
    have ha := a.toNat_lt
    have hb := b.toNat_lt
    refine ⟨[sixBits (a.toNat / 4),sixBits (a.toNat % 4 * 16 + b.toNat / 16),
      sixBits (b.toNat % 16 * 4)],1,rfl,?_,by decide,by simp⟩
    simp [hsix (a.toNat / 4) (by omega),hsix (a.toNat % 4 * 16 + b.toNat / 16) (by omega),
      hsix (b.toNat % 16 * 4) (by omega)]
  | case4 a b c rest ih =>
    have ha := a.toNat_lt
    have hb := b.toNat_lt
    have hc := c.toNat_lt
    obtain ⟨body,pads,hencode,hbody,hpads,hlength⟩ := ih
    refine ⟨_ :: _ :: _ :: _ :: body,pads,by rw [encode,hencode]; rfl,?_,hpads,?_⟩
    · simp [hsix (a.toNat / 4) (by omega),hsix (a.toNat % 4 * 16 + b.toNat / 16) (by omega),
        hsix (b.toNat % 16 * 4 + c.toNat / 64) (by omega),hsix (c.toNat % 64) (by omega),hbody]
    · simp only [List.length_cons]
      omega

theorem stripPadding_append {body : List Char} (hbody : '=' ∉ body) (pads : ℕ) :
    stripPadding (body ++ List.replicate pads '=') = body := by
  rw [stripPadding,List.rdropWhile,List.reverse_append,List.reverse_replicate,
    List.dropWhile_append_of_pos (by simp +contextual [List.mem_replicate])]
  have hkeep : body.reverse.dropWhile (fun c => decide (c = '=')) = body.reverse := by
    rw [List.dropWhile_eq_self_iff]
    intro hlength
    simp only [decide_eq_true_eq]
    exact fun heq => hbody (heq ▸ List.mem_reverse.mp (List.getElem_mem hlength))
  rw [hkeep,List.reverse_reverse]

/-- The padding that is stripped is the padding that is restored. -/
theorem restorePadding_stripPadding (bytes : List UInt8) :
    restorePadding (stripPadding (encode bytes)) = encode bytes := by
  obtain ⟨body,pads,hencode,hbody,hpads,hlength⟩ := encode_split bytes
  have hcount : (4 - body.length % 4) % 4 = pads := by omega
  rw [hencode,stripPadding_append hbody,restorePadding,hcount]

end Padding

end MacroInvest.Base64
