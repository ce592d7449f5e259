import Mathlib.Data.List.Chain
import VirtualShell.Json.Reader
import VirtualShell.Json.Writer
import VirtualShell.Proofs.Numeral
/-
  Text read back from JSON strings.

  A code point stands for itself or for an escape, and each escape is read as the code point it
  was made from. The one exception are surrogates: a high one that is directly followed by a
  low one is read as the code point that the pair encodes. So what comes back is the text with
  its pairs merged, and text without such neighbours comes back as it was.
-/

namespace VirtualShell

/-! ## Hexadecimal digits -/

/-- The hexadecimal digit with the value `d`. -/
def CodePoint.ofHexDigit (d : Nat) : CodePoint := ofChar (Nat.digitChar d)

theorem CodePoint.hexDigit?_ofHexDigit {d : Nat} (h : d < 16) :
    (ofHexDigit d).hexDigit? = some d := by
  have : ∀ d : Fin 16, (ofHexDigit d).hexDigit? = some d.val := by decide
  exact this ⟨d, h⟩

theorem Text.hex_one {n : Nat} (h : n < 0x10) : hex 1 n = [CodePoint.ofHexDigit n] := by
  rw [hex, Nat.toDigits_eq_if (by decide), if_pos h]
  rfl

theorem Text.hex_succ (width n : Nat) :
    hex (width + 2) n = hex (width + 1) (n / 0x10) ++ [CodePoint.ofHexDigit (n % 0x10)] := by
  have hzero : hex (width + 1) 0 = List.replicate (width + 1) (CodePoint.ofChar '0') := by
    rw [hex, List.replicate_succ']
    rfl
  rw [hex, Nat.toDigits_eq_if (by decide)]
  split
  · rename_i h
    rw [Nat.div_eq_of_lt h, hzero, Nat.mod_eq_of_lt h]
    rfl
  · simp [hex, CodePoint.ofHexDigit]

theorem Text.hex_eq {n : Nat} (h : n < 0x10000) :
    hex 4 n = [CodePoint.ofHexDigit (n / 0x1000), CodePoint.ofHexDigit (n / 0x100 % 0x10),
      CodePoint.ofHexDigit (n / 0x10 % 0x10), CodePoint.ofHexDigit (n % 0x10)] := by
  have htwo : n / 0x10 / 0x10 = n / 0x100 := by omega
  have hthree : n / 0x100 / 0x10 = n / 0x1000 := by omega
  rw [hex_succ, hex_succ, hex_succ, htwo, hthree, hex_one (by omega)]
  rfl

namespace Json

/-- Four hexadecimal digits are read as the number they were made from. -/
theorem readUnit_hex {n : Nat} (h : n < 0x10000) (rest : Text) :
    readUnit (Text.hex 4 n ++ rest) = some (n, rest) := by
  rw [Text.hex_eq h]
  simp only [List.cons_append, List.nil_append, readUnit,
    CodePoint.hexDigit?_ofHexDigit (show n / 0x1000 < 16 by omega),
    CodePoint.hexDigit?_ofHexDigit (show n / 0x100 % 0x10 < 16 by omega),
    CodePoint.hexDigit?_ofHexDigit (show n / 0x10 % 0x10 < 16 by omega),
    CodePoint.hexDigit?_ofHexDigit (show n % 0x10 < 16 by omega)]
  simp only [Option.bind_eq_bind, Option.bind_some, Option.pure_def, Option.some.injEq,
    Prod.mk.injEq, and_true]
  omega

end Json

/-! ## Surrogates -/

namespace CodePoint

/-- The first half of a surrogate pair. -/
def IsHighSurrogate (c : CodePoint) : Prop := 0xD800 ≤ c.val ∧ c.val ≤ 0xDBFF

/-- The second half of a surrogate pair. -/
def IsLowSurrogate (c : CodePoint) : Prop := 0xDC00 ≤ c.val ∧ c.val ≤ 0xDFFF

instance : DecidablePred IsHighSurrogate :=
  fun c => inferInstanceAs (Decidable (0xD800 ≤ c.val ∧ c.val ≤ 0xDBFF))

instance : DecidablePred IsLowSurrogate :=
  fun c => inferInstanceAs (Decidable (0xDC00 ≤ c.val ∧ c.val ≤ 0xDFFF))

theorem not_isHighSurrogate {c : CodePoint} (hc : c.val < 0xD800) : ¬ c.IsHighSurrogate :=
  fun h => absurd h.1 (Nat.not_le.mpr hc)

end CodePoint

/-- No high surrogate is directly followed by a low one. -/
def Text.IsUnpaired (t : Text) : Prop :=
  t.IsChain fun c d => ¬ (c.IsHighSurrogate ∧ d.IsLowSurrogate)

/-- The code point that a surrogate pair encodes. -/
def CodePoint.ofPair (high low : CodePoint) : CodePoint :=
  ofNat (0x10000 + (high.val - 0xD800) * 0x400 + (low.val - 0xDC00))

namespace Text

/-- The text with the two halves of each surrogate pair merged into the code point they encode. -/
def merged : Text → Text
  | [] => []
  | [c] => [c]
  | c :: d :: rest =>
    if c.IsHighSurrogate ∧ d.IsLowSurrogate then CodePoint.ofPair c d :: merged rest
    else c :: merged (d :: rest)

theorem IsUnpaired.merged_eq_self {t : Text} (h : t.IsUnpaired) : t.merged = t := by
  fun_induction merged t with
  | case1 | case2 => rfl
  | case3 c d rest hpair => exact absurd hpair (List.isChain_cons_cons.mp h).1
  | case4 c d rest hpair ih => rw [ih (List.isChain_cons_cons.mp h).2]

instance (t : Text) : Decidable t.IsUnpaired :=
  inferInstanceAs (Decidable (t.IsChain fun c d => ¬ (c.IsHighSurrogate ∧ d.IsLowSurrogate)))

theorem isUnpaired_of_forall_not_high {t : Text} (h : ∀ c ∈ t, ¬ c.IsHighSurrogate) :
    t.IsUnpaired := by
  induction t with
  | nil => exact List.isChain_nil
  | cons c t ih =>
    obtain ⟨hc, ht⟩ := List.forall_mem_cons.mp h
    exact List.isChain_cons.mpr ⟨fun d _ hpair => hc hpair.1, ih ht⟩

theorem isUnpaired_of_forall_lt {t : Text} (h : ∀ c ∈ t, c.val < 0xD800) : t.IsUnpaired :=
  isUnpaired_of_forall_not_high fun c hc => CodePoint.not_isHighSurrogate (h c hc)

/-- Two texts with a code point below the surrogates between them. -/
theorem IsUnpaired.append_cons {s t : Text} (hs : s.IsUnpaired) {c : CodePoint}
    (hc : c.val < 0xD800) (ht : t.IsUnpaired) : IsUnpaired (s ++ c :: t) := by
  refine List.IsChain.append hs (List.isChain_cons.mpr ⟨fun d _ hpair => ?_, ht⟩) ?_
  · have hhigh := hpair.1.1
    omega
  · rintro d - e he ⟨-, hlow⟩
    cases he
    have := hlow.1
    omega

end Text

namespace Json

theorem escapedUnit_eq (n : Nat) :
    escapedUnit n = CodePoint.ofChar '\\' :: CodePoint.ofChar 'u' :: Text.hex 4 n := rfl

theorem readLowHalf_escapedUnit {n : Nat} (h : n < 0x10000) (rest : Text) :
    readLowHalf (escapedUnit n ++ rest) =
      if 0xDC00 ≤ n && n ≤ 0xDFFF then some (n, rest) else none := by
  rw [escapedUnit_eq, List.cons_append, List.cons_append, readLowHalf, if_pos (by decide),
    readUnit_hex h]

theorem readLowHalf_of_ne {c : CodePoint} (h : c ≠ CodePoint.ofChar '\\') (rest : Text) :
    readLowHalf (c :: rest) = none := by
  cases rest with
  | nil => rfl
  | cons d rest => simp [readLowHalf, h]

/-! ## Escapes -/

/-- The code points with an escape of one letter. -/
def lettered : List CodePoint :=
  [CodePoint.ofChar '"', CodePoint.ofChar '\\', CodePoint.ofChar '\n', CodePoint.ofChar '\r',
    CodePoint.ofChar '\t', CodePoint.ofNat 0x8, CodePoint.ofNat 0xc]

theorem readEscape_lettered {c : CodePoint} (h : c ∈ lettered) :
    ∃ d, c.jsonEscaped = [CodePoint.ofChar '\\', d] ∧
      ∀ tail, readEscape (d :: tail) = some (c, tail) := by
  have letter : ∀ d, c.jsonEscaped = [CodePoint.ofChar '\\', d] → d ≠ CodePoint.ofChar 'u' →
      shortEscape? d = some c → ∃ d, c.jsonEscaped = [CodePoint.ofChar '\\', d] ∧
        ∀ tail, readEscape (d :: tail) = some (c, tail) := by
    intro d hc hd hshort
    refine ⟨d, hc, fun tail => ?_⟩
    rw [readEscape, if_neg hd, hshort]
    rfl
  simp only [lettered, List.mem_cons, List.not_mem_nil, or_false] at h
  rcases h with rfl | rfl | rfl | rfl | rfl | rfl | rfl
  · exact letter (CodePoint.ofChar '"') rfl (by decide) rfl
  · exact letter (CodePoint.ofChar '\\') rfl (by decide) rfl
  · exact letter (CodePoint.ofChar 'n') rfl (by decide) rfl
  · exact letter (CodePoint.ofChar 'r') rfl (by decide) rfl
  · exact letter (CodePoint.ofChar 't') rfl (by decide) rfl
  · exact letter (CodePoint.ofChar 'b') rfl (by decide) rfl
  · exact letter (CodePoint.ofChar 'f') rfl (by decide) rfl

theorem jsonEscaped_of_not_lettered {c : CodePoint} (h : c ∉ lettered) :
    c.jsonEscaped = if 0x20 ≤ c.val && c.val < 0x7f then [c]
      else if c.val < 0x10000 then escapedUnit c.val
      else escapedUnit (0xD800 + (c.val - 0x10000) / 0x400) ++
        escapedUnit (0xDC00 + c.val % 0x400) := by
  simp only [lettered, List.mem_cons, List.not_mem_nil, or_false, not_or] at h
  obtain ⟨hquote, hbackslash, hfeed, hreturn, htab, hback, hform⟩ := h
  have hvalback : c.val ≠ 0x8 := fun e => hback (CodePoint.ext_val e)
  have hvalform : c.val ≠ 0xc := fun e => hform (CodePoint.ext_val e)
  rw [CodePoint.jsonEscaped, if_neg hquote, if_neg hbackslash, if_neg hfeed, if_neg hreturn,
    if_neg htab, if_neg hvalback, if_neg hvalform]

theorem readEscape_unit {c : CodePoint} (h : c.val < 0x10000) {tail : Text}
    (hpair : c.IsHighSurrogate → readLowHalf tail = none) :
    readEscape (CodePoint.ofChar 'u' :: (Text.hex 4 c.val ++ tail)) = some (c, tail) := by
  have hself : CodePoint.ofNat c.val = c := by rw [CodePoint.ofNat, dif_pos c.isValid]
  rw [readEscape, if_pos rfl, readUnit_hex h]
  dsimp only
  split
  · rename_i hhigh
    simp only [Bool.and_eq_true, decide_eq_true_eq] at hhigh
    rw [hpair hhigh, hself]
  · rw [hself]

/-- Two escapes are read together if they are the halves of a pair. -/
theorem readEscape_units {high low : Nat} (hhigh : 0xD800 ≤ high ∧ high ≤ 0xDBFF)
    (hlow : 0xDC00 ≤ low ∧ low ≤ 0xDFFF) (tail : Text) :
    readEscape (CodePoint.ofChar 'u' :: (Text.hex 4 high ++ (escapedUnit low ++ tail))) =
      some (CodePoint.ofNat (0x10000 + (high - 0xD800) * 0x400 + (low - 0xDC00)), tail) := by
  rw [readEscape, if_pos rfl, readUnit_hex (by omega)]
  dsimp only
  rw [if_pos (by simpa using hhigh), readLowHalf_escapedUnit (by omega),
    if_pos (by simpa using hlow)]

/-- Past the first plane two escapes are read together. -/
theorem readEscape_pair {c : CodePoint} (h : 0x10000 ≤ c.val) (tail : Text) :
    readEscape (CodePoint.ofChar 'u' :: (Text.hex 4 (0xD800 + (c.val - 0x10000) / 0x400) ++
      (escapedUnit (0xDC00 + c.val % 0x400) ++ tail))) = some (c, tail) := by
  have hvalid := c.isValid
  rw [readEscape_units (by omega) (by omega)]
  -- the halves put together again
  have hself : 0x10000 + (0xD800 + (c.val - 0x10000) / 0x400 - 0xD800) * 0x400 +
      (0xDC00 + c.val % 0x400 - 0xDC00) = c.val := by omega
  rw [hself, CodePoint.ofNat, dif_pos c.isValid]

/-- A code point stands for itself, or for an escape that is read as the code point unless it
is the first half of a pair. -/
theorem jsonEscaped_cases (c : CodePoint) :
    (c.jsonEscaped = [c] ∧ c ≠ CodePoint.ofChar '"' ∧ c ≠ CodePoint.ofChar '\\' ∧ 0x20 ≤ c.val) ∨
      ∃ e, c.jsonEscaped = CodePoint.ofChar '\\' :: e ∧
        ∀ tail, (c.IsHighSurrogate → readLowHalf tail = none) →
          readEscape (e ++ tail) = some (c, tail) := by
  by_cases hc : c ∈ lettered
  · obtain ⟨d, hd, hread⟩ := readEscape_lettered hc
    exact Or.inr ⟨[d], hd, fun tail _ => hread tail⟩
  rw [jsonEscaped_of_not_lettered hc]
  split
  · rename_i hvisible
    simp only [Bool.and_eq_true, decide_eq_true_eq] at hvisible
    refine Or.inl ⟨rfl, ?_, ?_, hvisible.1⟩
    · rintro rfl
      exact hc (by decide)
    · rintro rfl
      exact hc (by decide)
  split
  · rename_i hplane
    exact Or.inr ⟨_, escapedUnit_eq c.val, fun tail hpair => readEscape_unit hplane hpair⟩
  · rename_i hplane
    refine Or.inr ⟨_, by rw [escapedUnit_eq, List.cons_append], fun tail _ => ?_⟩
    rw [List.append_assoc, List.cons_append]
    exact readEscape_pair (Nat.not_lt.mp hplane) tail

/-- No second half of a pair is found where none was written. -/
theorem readLowHalf_escaped {t : Text} (ht : ∀ c ∈ t.head?, ¬ c.IsLowSurrogate) (rest : Text) :
    readLowHalf (t.flatMap CodePoint.jsonEscaped ++ CodePoint.ofChar '"' :: rest) = none := by
  cases t with
  | nil => exact readLowHalf_of_ne (by decide) rest
  | cons c t =>
    have hc : ¬ c.IsLowSurrogate := ht c rfl
    rw [List.flatMap_cons, List.append_assoc]
    -- whatever is written for the code point, it is not the escape of a second half
    by_cases hl : c ∈ lettered
    · obtain ⟨d, hd, hread⟩ := readEscape_lettered hl
      have hletter : d ≠ CodePoint.ofChar 'u' := by
        rintro rfl
        exact absurd (hread []) (by simp [readEscape, readUnit])
      rw [hd, List.cons_append, List.cons_append, readLowHalf, if_neg (by simp [hletter])]
    rw [jsonEscaped_of_not_lettered hl]
    split
    · refine readLowHalf_of_ne ?_ _
      rintro rfl
      exact hl (by decide)
    split
    · rename_i hplane
      rw [readLowHalf_escapedUnit hplane, if_neg]
      simpa [CodePoint.IsLowSurrogate] using hc
    · rename_i hplane
      have hvalid := c.isValid
      rw [List.append_assoc, readLowHalf_escapedUnit (by omega), if_neg]
      simp
      omega

theorem jsonEscaped_of_isSurrogate {c : CodePoint} (h : 0xD800 ≤ c.val ∧ c.val ≤ 0xDFFF) :
    c.jsonEscaped = escapedUnit c.val := by
  have hlettered : c ∉ lettered := by
    intro hc
    have hall : ∀ c ∈ lettered, c.val < 0x80 := by decide
    have := hall c hc
    omega
  rw [jsonEscaped_of_not_lettered hlettered, if_neg (by simp; omega), if_pos (by omega)]

/-- A code point is read back before what follows it, unless the two make a pair. -/
theorem readString_cons {c : CodePoint} {t u rest : Text} {n : Nat}
    (hnext : c.IsHighSurrogate → ∀ d ∈ t.head?, ¬ d.IsLowSurrogate)
    (hread : readString n (t.flatMap CodePoint.jsonEscaped ++ CodePoint.ofChar '"' :: rest) =
      .ok (u, rest)) :
    readString (n + 1) ((c :: t).flatMap CodePoint.jsonEscaped ++ CodePoint.ofChar '"' :: rest) =
      .ok (c :: u, rest) := by
  rw [List.flatMap_cons, List.append_assoc]
  rcases jsonEscaped_cases c with ⟨hc, hquote, hbackslash, hvisible⟩ | ⟨e, hc, hescape⟩
  · rw [hc, List.singleton_append, readString, if_neg hquote, if_neg (by omega),
      if_neg hbackslash, hread]
    rfl
  · have hlow := hescape (t.flatMap CodePoint.jsonEscaped ++ CodePoint.ofChar '"' :: rest)
      fun hhigh => readLowHalf_escaped (hnext hhigh) rest
    rw [hc, List.cons_append, readString, if_neg (by decide), if_neg (by decide), if_pos rfl,
      hlow]
    dsimp only
    rw [hread]
    rfl

/-- A JSON string is read as the text it was written for, with its pairs merged. -/
theorem readString_escaped (t : Text) (n : Nat) (rest : Text) (hn : t.length < n) :
    readString n (t.flatMap CodePoint.jsonEscaped ++ CodePoint.ofChar '"' :: rest) =
      .ok (t.merged, rest) := by
  fun_induction Text.merged t generalizing n with
  | case1 =>
    obtain ⟨n, rfl⟩ := Nat.exists_eq_succ_of_ne_zero (Nat.ne_of_gt hn)
    rw [List.flatMap_nil, List.nil_append, readString, if_pos rfl]
  | case2 c =>
    obtain ⟨n, rfl⟩ : ∃ m, n = m + 2 := ⟨n - 2, by simp at hn; omega⟩
    refine readString_cons (by simp) ?_
    rw [List.flatMap_nil, List.nil_append, readString, if_pos rfl]
  | case3 c d t hpair ih =>
    obtain ⟨n, rfl⟩ := Nat.exists_eq_succ_of_ne_zero (Nat.ne_of_gt (Nat.zero_lt_of_lt hn))
    obtain ⟨hhigh, hlow⟩ := hpair
    have hread := ih n (by simp at hn; omega)
    rw [List.flatMap_cons, List.flatMap_cons,
      jsonEscaped_of_isSurrogate ⟨hhigh.1, hhigh.2.trans (by decide)⟩,
      jsonEscaped_of_isSurrogate ⟨(show 0xD800 ≤ 0xDC00 by decide).trans hlow.1, hlow.2⟩,
      List.append_assoc, List.append_assoc, escapedUnit_eq c.val, List.cons_append,
      List.cons_append, readString, if_neg (by decide), if_neg (by decide), if_pos rfl,
      readEscape_units hhigh hlow]
    dsimp only
    rw [hread]
    rfl
  | case4 c d t hpair ih =>
    obtain ⟨n, rfl⟩ := Nat.exists_eq_succ_of_ne_zero (Nat.ne_of_gt (Nat.zero_lt_of_lt hn))
    refine readString_cons ?_ (ih n (by simpa using hn))
    rintro hhigh e he
    cases he
    exact fun hlow => hpair ⟨hhigh, hlow⟩

end Json

end VirtualShell
