import MacroInvest.Library.FixedWidth

/-! # JSON texts

Values, a writer with the two choices that programs make differently (escaping outside
ASCII, blanks after separators), and a reader. The reader returns the value a writer was
given, whatever its choices, and a written text has no control character in it, so it
fits on one line of a protocol. A number is kept as its lexeme.
-/
namespace MacroInvest.JsonText
open FixedWidth

abbrev Text := List Char

section Numerals

def digits (s : Text) : Text × Text := s.span Char.isDigit

/-- An exponent, or nothing. -/
def isExponent : Text → Bool
  | [] => true
  | e :: s => (e = 'e' ∨ e = 'E') ∧
      (let s := match s with
        | c :: t => if c = '+' ∨ c = '-' then t else s
        | [] => s
      s ≠ [] ∧ s.all Char.isDigit)

/-- A fraction and an exponent, each of which may be missing. -/
def isFraction : Text → Bool
  | '.' :: s => (digits s).1 ≠ [] ∧ isExponent (digits s).2
  | s => isExponent s

def isUnsigned (s : Text) : Bool :=
  (digits s).1 ≠ [] ∧ ((digits s).1.head? ≠ some '0' ∨ (digits s).1.length = 1) ∧
    isFraction (digits s).2

def isNumeral : Text → Bool
  | '-' :: s => isUnsigned s
  | s => isUnsigned s

/-- The characters a number may be written with. -/
def isNumeralChar (c : Char) : Bool := c.isDigit ∨ c ∈ ['-','+','.','e','E']

structure Numeral where
  lexeme : Text
  chars : lexeme.all isNumeralChar = true
  grammar : isNumeral lexeme = true

end Numerals

inductive Json where
  | null
  | bool (b : Bool)
  | num (n : Numeral)
  | str (s : Text)
  | arr (items : List Json)
  | obj (fields : List (Text × Json))

/-- What a writer may choose. -/
structure Style where
  ascii : Bool
  spaced : Bool

section Strings

def hexValue (c : Char) : Option ℕ :=
  if '0' ≤ c ∧ c ≤ '9' then some (c.toNat - 48)
  else if 'a' ≤ c ∧ c ≤ 'f' then some (c.toNat - 87)
  else if 'A' ≤ c ∧ c ≤ 'F' then some (c.toNat - 55)
  else none

/-- `\uXXXX` -/
def codeUnit (n : ℕ) : Text :=
  ['\\','u',hexDigit (n / 4096 % 16),hexDigit (n / 256 % 16),hexDigit (n / 16 % 16),
    hexDigit (n % 16)]

/-- The characters with an escape of their own, and the letter of it. -/
def shortEscapes : List (Char × Char) :=
  [('"','"'),('\\','\\'),('\n','n'),('\r','r'),('\t','t'),('\u000c','f'),('\u0008','b')]

def escape (style : Style) (c : Char) : Text :=
  match shortEscapes.lookup c with
  | some letter => ['\\',letter]
  | none =>
    if c.toNat < 32 then codeUnit c.toNat
    else if style.ascii ∧ 127 ≤ c.toNat then
      if c.toNat < 0x10000 then codeUnit c.toNat
      else codeUnit (0xd800 + (c.toNat - 0x10000) / 0x400) ++
        codeUnit (0xdc00 + (c.toNat - 0x10000) % 0x400)
    else [c]

def quoted (style : Style) (s : Text) : Text := '"' :: s.flatMap (escape style) ++ ['"']

def readUnit : Text → Option (ℕ × Text)
  | a :: b :: c :: d :: s => do
    let a ← hexValue a
    let b ← hexValue b
    let c ← hexValue c
    let d ← hexValue d
    some (((a * 16 + b) * 16 + c) * 16 + d,s)
  | _ => none

/-- The character after `\u`. A lone surrogate is no character and is refused here. -/
def readUnicode (s : Text) : Option (Char × Text) := do
  let (u,s) ← readUnit s
  if 0xd800 ≤ u ∧ u < 0xdc00 then
    match s with
    | '\\' :: 'u' :: s => do
      let (v,s) ← readUnit s
      if 0xdc00 ≤ v ∧ v < 0xe000 then
        some (Char.ofNat (0x10000 + (u - 0xd800) * 0x400 + (v - 0xdc00)),s)
      else none
    | _ => none
  else if 0xdc00 ≤ u ∧ u < 0xe000 then none
  else some (Char.ofNat u,s)

def letters : List (Char × Char) :=
  [('"','"'),('\\','\\'),('/','/'),('n','\n'),('r','\r'),('t','\t'),('f','\u000c'),
    ('b','\u0008')]

/-- One character of a string, escaped or not. -/
def readChar : Text → Option (Char × Text)
  | [] => none
  | c :: s =>
    if c = '\\' then
      match s with
      | [] => none
      | e :: s => if e = 'u' then readUnicode s else (letters.lookup e).map (·,s)
    else if c.toNat < 32 then none
    else some (c,s)

/-- A string after its opening quote. -/
def readBody : ℕ → Text → Option (Text × Text)
  | 0,_ => none
  | n + 1,s =>
    if s.head? = some '"' then some ([],s.tail)
    else do
      let (c,s) ← readChar s
      let (cs,s) ← readBody n s
      some (c :: cs,s)

theorem hexValue_hexDigit : ∀ d < 16, hexValue (hexDigit d) = some d := by decide

theorem le_toNat_hexDigit : ∀ d < 16, 32 ≤ (hexDigit d).toNat := by decide

theorem readUnit_hex (n : ℕ) (h : n < 0x10000) (s : Text) :
    readUnit (hexDigit (n / 4096 % 16) :: hexDigit (n / 256 % 16) ::
      hexDigit (n / 16 % 16) :: hexDigit (n % 16) :: s) = some (n,s) := by
  have hd (k : ℕ) : hexValue (hexDigit (k % 16)) = some (k % 16) :=
    hexValue_hexDigit _ (Nat.mod_lt _ (by omega))
  simp only [readUnit,hd,Option.bind_eq_bind,Option.bind_some,Option.some.injEq,Prod.mk.injEq,
    and_true]
  omega

theorem toNat_scalar (c : Char) : c.toNat < 0xd800 ∨ 0xdfff < c.toNat ∧ c.toNat < 0x110000 := by
  have hc := c.valid
  simp only [UInt32.isValidChar,Nat.isValidChar] at hc
  exact hc

theorem readUnicode_codeUnit (c : Char) (h : c.toNat < 0x10000) (s : Text) :
    readUnicode ((codeUnit c.toNat).drop 2 ++ s) = some (c,s) := by
  have hc := toNat_scalar c
  simp only [codeUnit,List.drop_succ_cons,List.drop_zero,List.cons_append,List.nil_append,
    readUnicode,readUnit_hex _ h,Option.bind_eq_bind,Option.bind_some]
  have hlead : ¬ (0xd800 ≤ c.toNat ∧ c.toNat < 0xdc00) := by omega
  have htrail : ¬ (0xdc00 ≤ c.toNat ∧ c.toNat < 0xe000) := by omega
  simp only [if_neg hlead,if_neg htrail,Char.ofNat_toNat]

theorem readUnicode_surrogates (u v : ℕ) (hu : 0xd800 ≤ u ∧ u < 0xdc00)
    (hv : 0xdc00 ≤ v ∧ v < 0xe000) (s : Text) :
    readUnicode ((codeUnit u ++ codeUnit v).drop 2 ++ s) =
      some (Char.ofNat (0x10000 + (u - 0xd800) * 0x400 + (v - 0xdc00)),s) := by
  have hu' : u < 0x10000 := by omega
  have hv' : v < 0x10000 := by omega
  simp only [codeUnit,List.cons_append,List.nil_append,List.drop_succ_cons,List.drop_zero,
    readUnicode,readUnit_hex _ hu',readUnit_hex _ hv',Option.bind_eq_bind,Option.bind_some,
    if_pos hu,if_pos hv]

/-- A character beyond the first plane comes back from its two code units. -/
theorem readUnicode_pair (c : Char) (h : 0x10000 ≤ c.toNat) (s : Text) :
    readUnicode ((codeUnit (0xd800 + (c.toNat - 0x10000) / 0x400) ++
      codeUnit (0xdc00 + (c.toNat - 0x10000) % 0x400)).drop 2 ++ s) = some (c,s) := by
  have hc := toNat_scalar c
  rw [readUnicode_surrogates _ _ (by omega) (by omega)]
  have hback : 0x10000 + (0xd800 + (c.toNat - 0x10000) / 0x400 - 0xd800) * 0x400 +
      (0xdc00 + (c.toNat - 0x10000) % 0x400 - 0xdc00) = c.toNat := by omega
  simp only [hback,Char.ofNat_toNat]

theorem letters_shortEscapes : ∀ p ∈ shortEscapes,
    letters.lookup p.2 = some p.1 ∧ p.2 ≠ 'u' ∧ 32 ≤ p.2.toNat := by decide

theorem escape_eq (style : Style) (c : Char) :
    (∃ letter,(c,letter) ∈ shortEscapes ∧ escape style c = ['\\',letter]) ∨
    (c ≠ '"' ∧ c ≠ '\\' ∧
      ((c.toNat < 0x10000 ∧ escape style c = codeUnit c.toNat) ∨
      (0x10000 ≤ c.toNat ∧ escape style c = codeUnit (0xd800 + (c.toNat - 0x10000) / 0x400) ++
        codeUnit (0xdc00 + (c.toNat - 0x10000) % 0x400)) ∨
      (32 ≤ c.toNat ∧ escape style c = [c]))) := by
  unfold escape
  cases hl : shortEscapes.lookup c with
  | some letter =>
    left
    obtain ⟨l₁,l₂,hmem,-⟩ := List.lookup_eq_some_iff.mp hl
    exact ⟨letter,by rw [hmem]; simp,rfl⟩
  | none =>
    right
    have hne := List.lookup_eq_none_iff.mp hl
    refine ⟨?_,?_,?_⟩
    · simpa using hne ('"','"') (by simp [shortEscapes])
    · simpa using hne ('\\','\\') (by simp [shortEscapes])
    · dsimp only
      split_ifs with hlow hhigh hbmp
      · exact .inl ⟨by omega,rfl⟩
      · exact .inl ⟨hbmp,rfl⟩
      · exact .inr (.inl ⟨by omega,rfl⟩)
      · exact .inr (.inr ⟨by omega,rfl⟩)

/-- Reading undoes writing, one character at a time. -/
theorem readChar_escape (style : Style) (c : Char) (s : Text) :
    readChar (escape style c ++ s) = some (c,s) := by
  rcases escape_eq style c with ⟨letter,hmem,he⟩ | ⟨-,hback,⟨hc,he⟩ | ⟨hc,he⟩ | ⟨hc,he⟩⟩
  · obtain ⟨hl,hu,-⟩ := letters_shortEscapes _ hmem
    rw [he]
    simp [readChar,hu,hl]
  · rw [he]
    simpa [codeUnit,readChar] using readUnicode_codeUnit c hc s
  · rw [he]
    simpa [codeUnit,readChar] using readUnicode_pair c hc s
  · rw [he]
    simp [readChar,hback,hc]

theorem escape_head_ne (style : Style) (c : Char) (s : Text) :
    (escape style c ++ s).head? ≠ some '"' := by
  rcases escape_eq style c with ⟨letter,-,he⟩ | ⟨hquote,-,⟨-,he⟩ | ⟨-,he⟩ | ⟨-,he⟩⟩ <;>
    simp_all [codeUnit]

theorem le_toNat_codeUnit (n : ℕ) : ∀ c ∈ codeUnit n, 32 ≤ c.toNat := by
  have hd (k : ℕ) : 32 ≤ (hexDigit (k % 16)).toNat :=
    le_toNat_hexDigit _ (Nat.mod_lt _ (by omega))
  simp [codeUnit,hd]

theorem le_toNat_escape (style : Style) (c : Char) : ∀ d ∈ escape style c, 32 ≤ d.toNat := by
  rcases escape_eq style c with ⟨letter,hmem,he⟩ | ⟨-,-,⟨-,he⟩ | ⟨-,he⟩ | ⟨hc,he⟩⟩
  · rw [he]
    simp [(letters_shortEscapes _ hmem).2.2]
  · rw [he]
    exact le_toNat_codeUnit _
  · rw [he]
    intro d hd
    rcases List.mem_append.mp hd with hd | hd
    · exact le_toNat_codeUnit _ d hd
    · exact le_toNat_codeUnit _ d hd
  · rw [he]
    simpa using hc

theorem escape_ne_nil (style : Style) (c : Char) : escape style c ≠ [] := by
  rcases escape_eq style c with ⟨letter,-,he⟩ | ⟨-,-,⟨-,he⟩ | ⟨-,he⟩ | ⟨-,he⟩⟩ <;>
    simp [he,codeUnit]

/-- A written string is read back, with any fuel beyond its length. -/
theorem readBody_flatMap (style : Style) (cs : Text) (rest : Text) {n : ℕ}
    (h : cs.length < n) :
    readBody n (cs.flatMap (escape style) ++ '"' :: rest) = some (cs,rest) := by
  induction cs generalizing n with
  | nil =>
    obtain _ | n := n
    · omega
    · simp [readBody]
  | cons c cs ih =>
    obtain _ | n := n
    · omega
    · rw [List.flatMap_cons,List.append_assoc,readBody,if_neg (escape_head_ne style c _),
        readChar_escape]
      simp [ih (by simpa using h)]

theorem length_le_flatMap (style : Style) (cs : Text) :
    cs.length ≤ (cs.flatMap (escape style)).length := by
  induction cs with
  | nil => simp
  | cons c cs ih =>
    have hc := List.length_pos_iff.mpr (escape_ne_nil style c)
    rw [List.flatMap_cons,List.length_append,List.length_cons]
    omega

theorem le_toNat_quoted (style : Style) (s : Text) : ∀ c ∈ quoted style s, 32 ≤ c.toNat := by
  intro c hc
  simp only [quoted,List.cons_append,List.mem_cons,List.mem_append,List.mem_flatMap,
    List.not_mem_nil,or_false] at hc
  rcases hc with rfl | ⟨d,-,hd⟩ | rfl
  · decide
  · exact le_toNat_escape style d c hd
  · decide

end Strings

section Writer

def Style.pad (style : Style) : Text := if style.spaced then [' '] else []
def Style.comma (style : Style) : Text := ',' :: style.pad
def Style.colon (style : Style) : Text := ':' :: style.pad

mutual

def dumps (style : Style) : Json → Text
  | .null => "null".toList
  | .bool true => "true".toList
  | .bool false => "false".toList
  | .num n => n.lexeme
  | .str s => quoted style s
  | .arr items => '[' :: dumpsItems style [] items ++ [']']
  | .obj fields => '{' :: dumpsFields style [] fields ++ ['}']

/-- The items of an array, each after what leads it in. -/
def dumpsItems (style : Style) (lead : Text) : List Json → Text
  | [] => []
  | v :: vs => lead ++ dumps style v ++ dumpsItems style style.comma vs

def dumpsFields (style : Style) (lead : Text) : List (Text × Json) → Text
  | [] => []
  | (k,v) :: fs =>
    lead ++ quoted style k ++ style.colon ++ dumps style v ++ dumpsFields style style.comma fs

end

end Writer

section Reader

def isBlank (c : Char) : Bool := c ∈ [' ','\t','\n','\r']

def skip (s : Text) : Text := s.dropWhile isBlank

def Numeral.ofText? (s : Text) : Option Numeral :=
  if h : s.all isNumeralChar = true ∧ isNumeral s = true then some ⟨s,h.1,h.2⟩ else none

def literals : List (Text × Json) :=
  [("null".toList,.null),("true".toList,.bool true),("false".toList,.bool false)]

/-- A literal or a number. -/
def readAtom (s : Text) : Option (Json × Text) :=
  match literals.find? (fun l => l.1.isPrefixOf s) with
  | some (name,v) => some (v,s.drop name.length)
  | none => (Numeral.ofText? (s.takeWhile isNumeralChar)).map (.num ·,s.dropWhile isNumeralChar)

mutual

def readValue : ℕ → Text → Option (Json × Text)
  | 0,_ => none
  | n + 1,s =>
    match skip s with
    | [] => none
    | c :: s =>
      if c = '"' then (readBody (s.length + 1) s).map fun r => (.str r.1,r.2)
      else if c = '[' then (readItems n s).map fun r => (.arr r.1,r.2)
      else if c = '{' then (readFields n s).map fun r => (.obj r.1,r.2)
      else readAtom (c :: s)

/-- The items after the opening bracket. -/
def readItems : ℕ → Text → Option (List Json × Text)
  | 0,_ => none
  | n + 1,s =>
    if (skip s).head? = some ']' then some ([],(skip s).tail)
    else do
      let (v,s) ← readValue n s
      let (vs,s) ← readMoreItems n s
      some (v :: vs,s)

def readMoreItems : ℕ → Text → Option (List Json × Text)
  | 0,_ => none
  | n + 1,s =>
    match skip s with
    | [] => none
    | c :: s =>
      if c = ']' then some ([],s)
      else if c = ',' then do
        let (v,s) ← readValue n s
        let (vs,s) ← readMoreItems n s
        some (v :: vs,s)
      else none

def readFields : ℕ → Text → Option (List (Text × Json) × Text)
  | 0,_ => none
  | n + 1,s =>
    if (skip s).head? = some '}' then some ([],(skip s).tail)
    else do
      let (f,s) ← readField n s
      let (fs,s) ← readMoreFields n s
      some (f :: fs,s)

def readMoreFields : ℕ → Text → Option (List (Text × Json) × Text)
  | 0,_ => none
  | n + 1,s =>
    match skip s with
    | [] => none
    | c :: s =>
      if c = '}' then some ([],s)
      else if c = ',' then do
        let (f,s) ← readField n s
        let (fs,s) ← readMoreFields n s
        some (f :: fs,s)
      else none

def readField : ℕ → Text → Option ((Text × Json) × Text)
  | 0,_ => none
  | n + 1,s =>
    match skip s with
    | [] => none
    | c :: s =>
      if c = '"' then do
        let (k,s) ← readBody (s.length + 1) s
        match skip s with
        | [] => none
        | c :: s =>
          if c = ':' then do
            let (v,s) ← readValue n s
            some ((k,v),s)
          else none
      else none

end

/-- `JSON.parse`, with a depth bound no text reaches. -/
def parse (s : Text) : Option Json := do
  let (v,s) ← readValue (2 * s.length + 2) s
  if skip s = [] then some v else none

theorem skip_cons {c : Char} (h : isBlank c = false) (s : Text) : skip (c :: s) = c :: s := by
  simp [skip,h]

theorem skip_pad (style : Style) (s : Text) : skip (style.pad ++ s) = skip s := by
  rw [Style.pad]
  split
  · simp [skip,isBlank]
  · rfl

theorem readValue_pad (style : Style) (n : ℕ) (s : Text) :
    readValue n (style.pad ++ s) = readValue n s := by
  cases n with
  | zero => simp [readValue]
  | succ n => simp only [readValue,skip_pad]

theorem readField_pad (style : Style) (n : ℕ) (s : Text) :
    readField n (style.pad ++ s) = readField n s := by
  cases n with
  | zero => simp [readField]
  | succ n => simp only [readField,skip_pad]

end Reader

section RoundTrip

theorem digits_ne_nil {s : Text} (h : (digits s).1 ≠ []) :
    ∃ c t, s = c :: t ∧ c.isDigit = true := by
  cases s with
  | nil => simp [digits] at h
  | cons c t =>
    refine ⟨c,t,rfl,?_⟩
    by_contra hc
    simp [digits,List.span_eq_takeWhile_dropWhile,hc] at h

theorem Numeral.head (n : Numeral) :
    ∃ c t, n.lexeme = c :: t ∧ (c = '-' ∨ c.isDigit = true) := by
  have hg := n.grammar
  unfold isNumeral at hg
  split at hg
  · exact ⟨'-',_,by assumption,.inl rfl⟩
  · simp only [isUnsigned,decide_eq_true_eq] at hg
    obtain ⟨c,t,hs,hc⟩ := digits_ne_nil hg.1
    exact ⟨c,t,hs,.inr hc⟩

theorem Numeral.ofText?_lexeme (n : Numeral) : Numeral.ofText? n.lexeme = some n := by
  rw [Numeral.ofText?,dif_pos ⟨n.chars,n.grammar⟩]

theorem not_mem_of_isDigit {c : Char} (h : c.isDigit = true) {cs : List Char}
    (hcs : cs.all (fun d => ! d.isDigit) = true) : c ∉ cs := by
  intro hc
  simpa [h] using List.all_eq_true.mp hcs c hc

/-- What may follow a value: nothing a number could go on with. -/
def Ends (rest : Text) : Prop := ∀ c ∈ rest.head?, isNumeralChar c = false

theorem readAtom_numeral (n : Numeral) {rest : Text} (h : Ends rest) :
    readAtom (n.lexeme ++ rest) = some (.num n,rest) := by
  have hchars := List.all_eq_true.mp n.chars
  have htake : (n.lexeme ++ rest).takeWhile isNumeralChar = n.lexeme := by
    rw [List.takeWhile_append_of_pos hchars]
    cases rest with
    | nil => simp
    | cons c rest => simp [h c (by simp)]
  have hdrop : (n.lexeme ++ rest).dropWhile isNumeralChar = rest := by
    rw [List.dropWhile_append_of_pos hchars]
    cases rest with
    | nil => simp
    | cons c rest => simp [h c (by simp)]
  have hliteral : literals.find? (fun l => l.1.isPrefixOf (n.lexeme ++ rest)) = none := by
    obtain ⟨c,t,hlex,hc⟩ := n.head
    have hne : c ∉ ['n','t','f'] := by
      rcases hc with rfl | hc
      · decide
      · exact not_mem_of_isDigit hc (by decide)
    simp only [List.mem_cons,List.not_mem_nil,or_false] at hne
    rw [not_or,not_or] at hne
    simp [literals,hlex,List.isPrefixOf,Ne.symm hne.1,Ne.symm hne.2.1,Ne.symm hne.2.2]
  rw [readAtom,hliteral,htake,hdrop,Numeral.ofText?_lexeme]
  rfl

theorem Ends.cons {c : Char} (h : isNumeralChar c = false) (rest : Text) : Ends (c :: rest) := by
  simpa [Ends] using h

theorem readValue_quoted (style : Style) (s rest : Text) {n : ℕ} (hn : 0 < n) :
    readValue n (quoted style s ++ rest) = some (.str s,rest) := by
  obtain _ | n := n
  · omega
  · have hlen := length_le_flatMap style s
    rw [quoted,List.cons_append,List.cons_append,readValue,skip_cons (by decide),List.append_assoc]
    simp only [if_true,List.singleton_append]
    rw [readBody_flatMap style s rest (by
      rw [List.length_append,List.length_cons]
      omega)]
    rfl

theorem readValue_atom {c : Char} {s : Text} (h : c ∉ ['"','[','{',' ','\t','\n','\r']) {n : ℕ}
    (hn : 0 < n) : readValue n (c :: s) = readAtom (c :: s) := by
  simp only [List.mem_cons,List.not_mem_nil,or_false] at h
  rw [not_or,not_or,not_or] at h
  obtain ⟨h₁,h₂,h₃,h₄⟩ := h
  obtain _ | n := n
  · omega
  · rw [readValue,skip_cons (by simp [isBlank,h₄])]
    simp only [h₁,h₂,h₃,if_false]

theorem readField_quoted (style : Style) (k s : Text) {n : ℕ} :
    readField (n + 1) (quoted style k ++ style.colon ++ s) =
      (readValue n s).map fun r => ((k,r.1),r.2) := by
  have hlen := length_le_flatMap style k
  rw [quoted,Style.colon,List.cons_append,List.cons_append,List.cons_append,readField,
    skip_cons (by decide)]
  simp only [if_true,List.append_assoc,List.nil_append,List.cons_append]
  rw [readBody_flatMap style k _ (by
    rw [List.length_append,List.length_cons]
    omega)]
  simp only [Option.bind_eq_bind,Option.bind_some,skip_cons (c := ':') (by decide),if_true,
    readValue_pad]
  cases readValue n s <;> rfl

/-- The character a written value begins with is neither a blank nor a closing bracket. -/
theorem dumps_head (style : Style) (v : Json) :
    ∃ c t, dumps style v = c :: t ∧ c ∉ [']',' ','\t','\n','\r'] := by
  cases v with
  | null => exact ⟨_,_,by rw [dumps]; rfl,by decide⟩
  | bool b => cases b <;> exact ⟨_,_,by rw [dumps]; rfl,by decide⟩
  | num n =>
    obtain ⟨c,t,hlex,hc⟩ := n.head
    refine ⟨c,t,by rw [dumps,hlex],?_⟩
    rcases hc with rfl | hc
    · decide
    · exact not_mem_of_isDigit hc (by decide)
  | str s => exact ⟨'"',_,by rw [dumps,quoted,List.cons_append],by decide⟩
  | arr items => exact ⟨'[',_,by rw [dumps,List.cons_append],by decide⟩
  | obj fields => exact ⟨'{',_,by rw [dumps,List.cons_append],by decide⟩

theorem length_quoted (style : Style) (s : Text) : 2 ≤ (quoted style s).length := by
  simp [quoted]

mutual

/-- Every written value is read back, whatever follows that is not part of a number. -/
theorem readValue_dumps (style : Style) : ∀ (v : Json) (rest : Text) (n : ℕ), Ends rest →
    2 * (dumps style v).length < n → readValue n (dumps style v ++ rest) = some (v,rest)
  | .null,rest,n,_,hn => by
    rw [dumps] at hn ⊢
    exact readValue_atom (by decide) (by omega)
  | .bool true,rest,n,_,hn => by
    rw [dumps] at hn ⊢
    exact readValue_atom (by decide) (by omega)
  | .bool false,rest,n,_,hn => by
    rw [dumps] at hn ⊢
    exact readValue_atom (by decide) (by omega)
  | .num m,rest,n,h,hn => by
    rw [dumps] at hn ⊢
    rw [← readAtom_numeral m h]
    obtain ⟨c,t,hlex,hc⟩ := m.head
    rw [hlex,List.cons_append]
    refine readValue_atom ?_ (by omega)
    rcases hc with rfl | hc
    · decide
    · exact not_mem_of_isDigit hc (by decide)
  | .str s,rest,n,_,hn => by
    rw [dumps] at hn ⊢
    exact readValue_quoted style s rest (by omega)
  | .arr items,rest,n,_,hn => by
    rw [dumps] at hn ⊢
    obtain _ | n := n
    · omega
    · have hitems := (readItems_dumps style items).1 rest n
        (by simp at hn; omega)
      rw [List.cons_append,List.cons_append,readValue,skip_cons (by decide),List.append_assoc,
        List.singleton_append]
      simp [hitems]
  | .obj fields,rest,n,_,hn => by
    rw [dumps] at hn ⊢
    obtain _ | n := n
    · omega
    · have hfields := (readFields_dumps style fields).1 rest n
        (by simp at hn; omega)
      rw [List.cons_append,List.cons_append,readValue,skip_cons (by decide),List.append_assoc,
        List.singleton_append]
      simp [hfields]

theorem readItems_dumps (style : Style) : ∀ (vs : List Json),
    (∀ (rest : Text) (n : ℕ), 2 * (dumpsItems style [] vs).length + 1 < n →
      readItems n (dumpsItems style [] vs ++ ']' :: rest) = some (vs,rest)) ∧
    (∀ (rest : Text) (n : ℕ), 2 * (dumpsItems style style.comma vs).length < n →
      readMoreItems n (dumpsItems style style.comma vs ++ ']' :: rest) = some (vs,rest))
  | [] => by
    constructor
    · rintro rest (_ | n) hn
      · omega
      · simp [dumpsItems,readItems,skip_cons (c := ']') (by decide)]
    · rintro rest (_ | n) hn
      · omega
      · simp [dumpsItems,readMoreItems,skip_cons (c := ']') (by decide)]
  | v :: vs => by
    have hends (rest : Text) : Ends (dumpsItems style style.comma vs ++ ']' :: rest) := by
      cases vs with
      | nil => exact Ends.cons (by decide) _
      | cons w ws =>
        simp only [dumpsItems,Style.comma,List.append_assoc,List.cons_append]
        exact Ends.cons (by decide) _
    constructor
    · rintro rest (_ | n) hn
      · omega
      · simp only [dumpsItems,List.nil_append,List.length_append] at hn
        have hv := readValue_dumps style v _ n (hends rest) (by omega)
        have hvs := (readItems_dumps style vs).2 rest n (by omega)
        have hhead : (skip (dumps style v ++
            (dumpsItems style style.comma vs ++ ']' :: rest))).head? ≠ some ']' := by
          obtain ⟨c,t,hd,hc⟩ := dumps_head style v
          simp only [List.mem_cons,List.not_mem_nil,or_false] at hc
          rw [not_or] at hc
          rw [hd,List.cons_append,skip_cons (by simp [isBlank,hc.2])]
          simpa using hc.1
        simp only [dumpsItems,List.nil_append,List.append_assoc]
        rw [readItems,if_neg hhead,hv]
        simp [hvs]
    · rintro rest (_ | n) hn
      · omega
      · simp only [dumpsItems,List.length_append,Style.comma,List.length_cons] at hn
        have hv := readValue_dumps style v _ n (hends rest) (by omega)
        have hvs := (readItems_dumps style vs).2 rest n
          (by simp only [Style.comma]; omega)
        simp only [dumpsItems,List.append_assoc]
        rw [Style.comma,List.cons_append,readMoreItems,skip_cons (by decide)]
        simp only [Char.reduceEq,if_false,if_true,readValue_pad]
        rw [← Style.comma,hv]
        simp [hvs]

theorem readFields_dumps (style : Style) : ∀ (fs : List (Text × Json)),
    (∀ (rest : Text) (n : ℕ), 2 * (dumpsFields style [] fs).length + 1 < n →
      readFields n (dumpsFields style [] fs ++ '}' :: rest) = some (fs,rest)) ∧
    (∀ (rest : Text) (n : ℕ), 2 * (dumpsFields style style.comma fs).length < n →
      readMoreFields n (dumpsFields style style.comma fs ++ '}' :: rest) = some (fs,rest))
  | [] => by
    constructor
    · rintro rest (_ | n) hn
      · omega
      · simp [dumpsFields,readFields,skip_cons (c := '}') (by decide)]
    · rintro rest (_ | n) hn
      · omega
      · simp [dumpsFields,readMoreFields,skip_cons (c := '}') (by decide)]
  | (k,v) :: fs => by
    have hends (rest : Text) : Ends (dumpsFields style style.comma fs ++ '}' :: rest) := by
      cases fs with
      | nil => exact Ends.cons (by decide) _
      | cons g gs =>
        simp only [dumpsFields,Style.comma,List.append_assoc,List.cons_append]
        exact Ends.cons (by decide) _
    have hfield (rest : Text) (n : ℕ) (hn : 2 * (dumps style v).length + 1 < n) :
        readField n (quoted style k ++ style.colon ++
          (dumps style v ++ (dumpsFields style style.comma fs ++ '}' :: rest))) =
          some ((k,v),dumpsFields style style.comma fs ++ '}' :: rest) := by
      obtain _ | n := n
      · omega
      · rw [readField_quoted,readValue_dumps style v _ n (hends rest) (by omega)]
        rfl
    have hlen := length_quoted style k
    constructor
    · rintro rest (_ | n) hn
      · omega
      · simp only [dumpsFields,List.nil_append,List.length_append] at hn
        have hvs := (readFields_dumps style fs).2 rest n (by omega)
        have hf := hfield rest n (by omega)
        have hhead : (skip (quoted style k ++ style.colon ++ (dumps style v ++
            (dumpsFields style style.comma fs ++ '}' :: rest)))).head? ≠ some '}' := by
          rw [quoted,List.cons_append,List.cons_append,List.cons_append,skip_cons (by decide)]
          simp
        rw [dumpsFields,List.nil_append,List.append_assoc,List.append_assoc]
        rw [readFields,if_neg hhead,hf]
        simp [hvs]
    · rintro rest (_ | n) hn
      · omega
      · simp only [dumpsFields,List.length_append,Style.comma,List.length_cons] at hn
        have hvs := (readFields_dumps style fs).2 rest n
          (by simp only [Style.comma]; omega)
        have hf := hfield rest n (by omega)
        simp only [dumpsFields,List.append_assoc] at hf ⊢
        rw [Style.comma,List.cons_append,readMoreFields,skip_cons (by decide)]
        simp only [Char.reduceEq,if_false,if_true,readField_pad]
        rw [← Style.comma,hf]
        simp [hvs]

end

theorem parse_pad_dumps (style : Style) (v : Json) (tail : Text) (h : tail.all isBlank = true) :
    parse (dumps style v ++ tail) = some v := by
  have hends : Ends tail := by
    cases tail with
    | nil => simp [Ends]
    | cons c tail =>
      have hc : isBlank c = true := by simpa using List.all_eq_true.mp h c (by simp)
      refine Ends.cons ?_ tail
      simp only [isBlank,decide_eq_true_eq,List.mem_cons,List.not_mem_nil,or_false] at hc
      rcases hc with rfl | rfl | rfl | rfl <;> decide
  have hskip : skip tail = [] := by
    simpa [skip,List.dropWhile_eq_nil_iff] using h
  rw [parse,readValue_dumps style v tail _ hends (by
    rw [List.length_append]
    omega)]
  simp [hskip]

end RoundTrip

section OneLine

/-- A text without control characters. -/
def Printable (s : Text) : Prop := ∀ c ∈ s, 32 ≤ c.toNat

theorem Printable.append {a b : Text} (ha : Printable a) (hb : Printable b) :
    Printable (a ++ b) := fun c hc => (List.mem_append.mp hc).elim (ha c) (hb c)

theorem Printable.cons {c : Char} {s : Text} (hc : 32 ≤ c.toNat) (hs : Printable s) :
    Printable (c :: s) := by
  rintro d (_ | ⟨_,hd⟩)
  · exact hc
  · exact hs d hd

theorem Printable.not_mem {s : Text} (h : Printable s) {c : Char} (hc : c.toNat < 32) :
    c ∉ s := fun hmem => absurd (h c hmem) (by omega)

theorem Numeral.printable (n : Numeral) : Printable n.lexeme := by
  intro c hc
  have h := List.all_eq_true.mp n.chars c hc
  simp only [isNumeralChar,decide_eq_true_eq,List.mem_cons,List.not_mem_nil,or_false] at h
  rcases h with h | rfl | rfl | rfl | rfl | rfl
  · have h48 : 48 ≤ c.toNat ∧ c.toNat ≤ 57 := by
      simpa [Char.isDigit,Char.le_def,UInt32.le_iff_toNat_le] using h
    omega
  all_goals decide

theorem Style.printable_pad (style : Style) : Printable style.pad := by
  rw [Style.pad]
  split
  · exact .cons (by decide) (by simp [Printable])
  · simp [Printable]

mutual

theorem printable_dumps (style : Style) : ∀ v : Json, Printable (dumps style v)
  | .null => by simp [dumps,Printable]
  | .bool true => by simp [dumps,Printable]
  | .bool false => by simp [dumps,Printable]
  | .num n => by
    rw [dumps]
    exact n.printable
  | .str s => by
    rw [dumps]
    exact le_toNat_quoted style s
  | .arr items => by
    rw [dumps]
    exact ((printable_dumpsItems style items [] (by simp [Printable])).cons (by decide)).append
      (.cons (by decide) (by simp [Printable]))
  | .obj fields => by
    rw [dumps]
    exact ((printable_dumpsFields style fields [] (by simp [Printable])).cons (by decide)).append
      (.cons (by decide) (by simp [Printable]))

theorem printable_dumpsItems (style : Style) : ∀ (vs : List Json) (lead : Text),
    Printable lead → Printable (dumpsItems style lead vs)
  | [],_,_ => by simp [dumpsItems,Printable]
  | v :: vs,_,h => by
    rw [dumpsItems]
    exact (h.append (printable_dumps style v)).append
      (printable_dumpsItems style vs _ (style.printable_pad.cons (by decide)))

theorem printable_dumpsFields (style : Style) : ∀ (fs : List (Text × Json)) (lead : Text),
    Printable lead → Printable (dumpsFields style lead fs)
  | [],_,_ => by simp [dumpsFields,Printable]
  | (k,v) :: fs,_,h => by
    rw [dumpsFields]
    exact (((h.append (le_toNat_quoted style k)).append
      (style.printable_pad.cons (by decide))).append (printable_dumps style v)).append
      (printable_dumpsFields style fs _ (style.printable_pad.cons (by decide)))

end

end OneLine

/-- A field of an object; the last of two with one name counts. -/
def Json.field? (key : Text) : Json → Option Json
  | .obj fields => (fields.reverse.find? (fun f => f.1 = key)).map (·.2)
  | _ => none

@[simp] theorem Json.field?_nil (key : Text) : (Json.obj []).field? key = none := rfl

theorem Json.field?_cons_of_ne {key k : Text} (h : k ≠ key) (v : Json)
    (fields : List (Text × Json)) :
    (Json.obj ((k,v) :: fields)).field? key = (Json.obj fields).field? key := by
  simp [Json.field?,List.find?_append,h]

theorem Json.field?_cons_self {key : Text} (v : Json) {fields : List (Text × Json)}
    (h : key ∉ fields.map (·.1)) :
    (Json.obj ((key,v) :: fields)).field? key = some v := by
  have hnone : fields.reverse.find? (fun f => decide (f.1 = key)) = none := by
    rw [List.find?_eq_none]
    intro f hf hk
    exact h (List.mem_map.mpr ⟨f,List.mem_reverse.mp hf,by simpa using hk⟩)
  simp [Json.field?,List.find?_append,hnone]

end MacroInvest.JsonText
