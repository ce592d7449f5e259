import VirtualShell.Proofs.Json.Visible
import VirtualShell.Proofs.Text.Encodable
import VirtualShell.Text.Utf8
/-
  Text through UTF-8 and back.

  Every code point but a surrogate has a form, and a form that is followed by anything is read as
  its code point and then the rest; nothing but forms is read at all. So text without surrogates
  comes back as it was, and no two byte strings are the same text. The form of a code point below
  80 is that one byte, and no such byte is in any other form. What reading from a file does beyond
  all this is to make all line endings the same, and that leaves a text alone exactly when no
  carriage return is in it.
-/

namespace VirtualShell

/-! ## Forms -/

namespace CodePoint

variable {c : CodePoint} {form : List UInt8}

/-- The form of a code point, by its length. -/
inductive IsForm (c : CodePoint) : List UInt8 → Prop
  | one : c.val < 0x80 → IsForm c [UInt8.ofNat c.val]
  | two : 0x80 ≤ c.val → c.val < 0x800 →
    IsForm c [UInt8.ofNat (0xC0 + c.val / 0x40), UInt8.ofNat (0x80 + c.val % 0x40)]
  | three : c.isSurrogate = false → 0x800 ≤ c.val → c.val < 0x10000 →
    IsForm c [UInt8.ofNat (0xE0 + c.val / 0x1000), UInt8.ofNat (0x80 + c.val / 0x40 % 0x40),
      UInt8.ofNat (0x80 + c.val % 0x40)]
  | four : 0x10000 ≤ c.val →
    IsForm c [UInt8.ofNat (0xF0 + c.val / 0x40000), UInt8.ofNat (0x80 + c.val / 0x1000 % 0x40),
      UInt8.ofNat (0x80 + c.val / 0x40 % 0x40), UInt8.ofNat (0x80 + c.val % 0x40)]

theorem isSurrogate_of_not_mem_range (h : c.val < 0xD800 ∨ 0xDFFF < c.val) :
    c.isSurrogate = false := by
  simp only [isSurrogate, Bool.and_eq_false_iff, decide_eq_false_iff_not]
  omega

theorem isSurrogate_of_lt (h : c.val < 0x80) : c.isSurrogate = false :=
  isSurrogate_of_not_mem_range (by omega)

theorem IsForm.isSurrogate (h : c.IsForm form) : c.isSurrogate = false := by
  cases h with
  | one hmax => exact isSurrogate_of_lt hmax
  | two _ hmax => exact isSurrogate_of_not_mem_range (by omega)
  | three hc => exact hc
  | four hleast => exact isSurrogate_of_not_mem_range (by omega)

theorem IsForm.utf8?_eq (h : c.IsForm form) : c.utf8? = some form := by
  rw [utf8?, h.isSurrogate]
  dsimp only
  rw [if_neg Bool.false_ne_true]
  cases h with
  | one hmax => rw [if_pos hmax]
  | two hleast hmax => rw [if_neg (by omega), if_pos hmax]
  | three _ hleast hmax => rw [if_neg (by omega), if_neg (by omega), if_pos hmax]
  | four hleast => rw [if_neg (by omega), if_neg (by omega), if_neg (by omega)]

theorem exists_isForm (h : c.isSurrogate = false) : ∃ form, c.IsForm form := by
  by_cases hone : c.val < 0x80
  · exact ⟨_, .one hone⟩
  by_cases htwo : c.val < 0x800
  · exact ⟨_, .two (by omega) htwo⟩
  by_cases hthree : c.val < 0x10000
  · exact ⟨_, .three h (by omega) hthree⟩
  · exact ⟨_, .four (by omega)⟩

theorem utf8?_eq_some_iff : c.utf8? = some form ↔ c.IsForm form := by
  constructor
  · intro h
    have hc : c.isSurrogate = false := by
      rw [utf8?] at h
      dsimp only at h
      split at h
      · cases h
      · rename_i hc
        simpa using hc
    obtain ⟨found, hfound⟩ := exists_isForm hc
    rw [hfound.utf8?_eq] at h
    exact Option.some.inj h ▸ hfound
  · exact IsForm.utf8?_eq

theorem utf8?_of_lt (h : c.val < 0x80) : c.utf8? = some [UInt8.ofNat c.val] :=
  (IsForm.one h).utf8?_eq

theorem toNat_ofNat_of_lt {n : Nat} (h : n < 0x100) : (UInt8.ofNat n).toNat = n := by
  simp only [UInt8.toNat_ofNat']
  omega

theorem toNat_ofNat_val (h : c.val < 0x80) : (UInt8.ofNat c.val).toNat = c.val :=
  toNat_ofNat_of_lt (by omega)

theorem ofNat_val (c : CodePoint) : ofNat c.val = c := by
  rw [ofNat, dif_pos c.isValid]

/-- ASCII is its own form, and no ASCII byte is in any other. -/
theorem IsForm.low_or_high (h : c.IsForm form) :
    (c.val < 0x80 ∧ form = [UInt8.ofNat c.val]) ∨
      (0x80 ≤ c.val ∧ ∀ b ∈ form, 0x80 ≤ b.toNat) := by
  have hmax := c.isValid
  have hlow : ∀ n, 0x80 ≤ (UInt8.ofNat (0x80 + n % 0x40)).toNat := by
    intro n
    rw [toNat_ofNat_of_lt] <;> omega
  have hlead : ∀ n, 0x80 ≤ n → n < 0x100 → 0x80 ≤ (UInt8.ofNat n).toNat := by
    intro n hn hn'
    rwa [toNat_ofNat_of_lt hn']
  cases h with
  | one hone => exact .inl ⟨hone, rfl⟩
  | two hleast htwo =>
    refine .inr ⟨hleast, ?_⟩
    rw [List.forall_mem_cons, List.forall_mem_singleton]
    exact ⟨hlead _ (by omega) (by omega), hlow _⟩
  | three _ hleast hthree =>
    refine .inr ⟨by omega, ?_⟩
    rw [List.forall_mem_cons, List.forall_mem_cons, List.forall_mem_singleton]
    exact ⟨hlead _ (by omega) (by omega), hlow _, hlow _⟩
  | four hleast =>
    refine .inr ⟨by omega, ?_⟩
    rw [List.forall_mem_cons, List.forall_mem_cons, List.forall_mem_cons, List.forall_mem_singleton]
    exact ⟨hlead _ (by omega) (by omega), hlow _, hlow _, hlow _⟩

end CodePoint

namespace Text

variable {t : Text} {bytes rest : List UInt8}

/-! ## Reading one form -/

/-- A continuation byte carries six bits. -/
theorem continuation?_ofNat (n : Nat) :
    continuation? (UInt8.ofNat (0x80 + n % 0x40)) = some (n % 0x40) := by
  rw [continuation?, CodePoint.toNat_ofNat_of_lt (by omega), if_pos (by simp; omega),
    Nat.add_sub_cancel_left]

theorem eq_ofNat_of_continuation? {b : UInt8} {n : Nat} (h : continuation? b = some n) :
    b = UInt8.ofNat (0x80 + n) ∧ n < 0x40 := by
  rw [continuation?] at h
  split at h
  · rename_i hb
    simp only [Bool.and_eq_true, decide_eq_true_eq] at hb
    have hn := Option.some.inj h
    exact ⟨by rw [← hn, Nat.add_sub_cancel' hb.1, UInt8.ofNat_toNat], by omega⟩
  · cases h

theorem scalar?_eq_some_iff {c : CodePoint} {least n : Nat} :
    scalar? least n = some c ↔ n = c.val ∧ least ≤ n ∧ c.isSurrogate = false := by
  rw [scalar?]
  constructor
  · intro h
    split at h
    · cases h
    split at h
    · dsimp only at h
      split at h
      · cases h
      · rename_i hleast hmax hscalar
        cases h
        exact ⟨rfl, by omega, by simpa using hscalar⟩
    · cases h
  · rintro ⟨rfl, hleast, hscalar⟩
    rw [if_neg (by omega), dif_pos c.isValid]
    dsimp only
    rw [if_neg (by simp [hscalar])]

theorem ofUtf8?_cons_of_lt {a : UInt8} (h : a.toNat < 0x80) (bytes : List UInt8) :
    ofUtf8? (a :: bytes) = (ofUtf8? bytes).map (CodePoint.ofNat a.toNat :: ·) := by
  rw [ofUtf8?.eq_def]
  dsimp only
  rw [if_pos h]
  cases ofUtf8? bytes <;> rfl

section

variable {a b d e : UInt8} {n m k : Nat} {c : CodePoint}

theorem ofUtf8?_of_two (hfirst : 0xC0 ≤ a.toNat ∧ a.toNat < 0xE0) (hb : continuation? b = some n)
    (hc : scalar? 0x80 ((a.toNat - 0xC0) * 0x40 + n) = some c) (rest : List UInt8) :
    ofUtf8? (a :: b :: rest) = (ofUtf8? rest).map (c :: ·) := by
  rw [ofUtf8?.eq_def]
  dsimp only
  rw [if_neg (by omega), if_pos (by simpa using hfirst), hb, Option.bind_eq_bind, Option.bind_some,
    hc]
  cases ofUtf8? rest <;> rfl

theorem ofUtf8?_of_three (hfirst : 0xE0 ≤ a.toNat ∧ a.toNat < 0xF0) (hb : continuation? b = some n)
    (hd : continuation? d = some m)
    (hc : scalar? 0x800 ((a.toNat - 0xE0) * 0x1000 + n * 0x40 + m) = some c)
    (rest : List UInt8) : ofUtf8? (a :: b :: d :: rest) = (ofUtf8? rest).map (c :: ·) := by
  rw [ofUtf8?.eq_def]
  dsimp only
  rw [if_neg (by omega), if_neg (by simp; omega), if_pos (by simpa using hfirst), hb,
    Option.bind_eq_bind, Option.bind_some, hd, Option.bind_eq_bind, Option.bind_some, hc]
  cases ofUtf8? rest <;> rfl

theorem ofUtf8?_of_four (hfirst : 0xF0 ≤ a.toNat ∧ a.toNat < 0xF8) (hb : continuation? b = some n)
    (hd : continuation? d = some m) (he : continuation? e = some k)
    (hc : scalar? 0x10000 ((a.toNat - 0xF0) * 0x40000 + n * 0x1000 + m * 0x40 + k) = some c)
    (rest : List UInt8) : ofUtf8? (a :: b :: d :: e :: rest) = (ofUtf8? rest).map (c :: ·) := by
  rw [ofUtf8?.eq_def]
  dsimp only
  rw [if_neg (by omega), if_neg (by simp; omega), if_neg (by simp; omega),
    if_pos (by simpa using hfirst), hb, Option.bind_eq_bind, Option.bind_some, hd,
    Option.bind_eq_bind, Option.bind_some, he, Option.bind_eq_bind, Option.bind_some, hc]
  cases ofUtf8? rest <;> rfl

end

/-- A form is read as its code point, whatever comes after it. -/
theorem ofUtf8?_append_of_isForm {c : CodePoint} {form : List UInt8} (h : c.IsForm form)
    (rest : List UInt8) : ofUtf8? (form ++ rest) = (ofUtf8? rest).map (c :: ·) := by
  have hmax := c.isValid
  have hscalar := h.isSurrogate
  cases h with
  | one hone =>
    rw [List.singleton_append, ofUtf8?_cons_of_lt (by rwa [CodePoint.toNat_ofNat_val hone]),
      CodePoint.toNat_ofNat_val hone, CodePoint.ofNat_val]
  | two hleast htwo =>
    have hlead := CodePoint.toNat_ofNat_of_lt (n := 0xC0 + c.val / 0x40) (by omega)
    exact ofUtf8?_of_two (by omega) (continuation?_ofNat _)
      (scalar?_eq_some_iff.mpr ⟨by omega, by omega, hscalar⟩) rest
  | three _ hleast hthree =>
    have hlead := CodePoint.toNat_ofNat_of_lt (n := 0xE0 + c.val / 0x1000) (by omega)
    exact ofUtf8?_of_three (by omega) (continuation?_ofNat _) (continuation?_ofNat _)
      (scalar?_eq_some_iff.mpr ⟨by omega, by omega, hscalar⟩) rest
  | four hleast =>
    have hlead := CodePoint.toNat_ofNat_of_lt (n := 0xF0 + c.val / 0x40000) (by omega)
    exact ofUtf8?_of_four (by omega) (continuation?_ofNat _) (continuation?_ofNat _)
      (continuation?_ofNat _) (scalar?_eq_some_iff.mpr ⟨by omega, by omega, hscalar⟩) rest

/-- Bytes are read form by form. -/
theorem exists_isForm_of_ofUtf8?_cons {a : UInt8} (h : ofUtf8? (a :: rest) = some t) :
    ∃ c t' form rest', t = c :: t' ∧ a :: rest = form ++ rest' ∧ c.IsForm form ∧
      ofUtf8? rest' = some t' := by
  rw [ofUtf8?.eq_def] at h
  dsimp only at h
  -- one case for each length of a form, which the first byte tells
  split at h
  · rename_i hone
    simp only [Option.bind_eq_bind, Option.bind_eq_some_iff, Option.pure_def,
      Option.some.injEq] at h
    obtain ⟨t', ht', rfl⟩ := h
    have hval : (CodePoint.ofNat a.toNat).val = a.toNat := by
      rw [CodePoint.ofNat, dif_pos (by omega)]
    have hform := CodePoint.IsForm.one (c := CodePoint.ofNat a.toNat) (by omega)
    rw [hval, UInt8.ofNat_toNat] at hform
    exact ⟨_, t', _, rest, rfl, rfl, hform, ht'⟩
  rename_i hone
  split at h
  · rename_i hfirst
    simp only [Bool.and_eq_true, decide_eq_true_eq] at hfirst
    split at h
    · rename_i b rest'
      simp only [Option.bind_eq_bind, Option.bind_eq_some_iff, Option.pure_def,
        Option.some.injEq] at h
      obtain ⟨n, hn, c, hc, t', ht', rfl⟩ := h
      obtain ⟨rfl, hn⟩ := eq_ofNat_of_continuation? hn
      obtain ⟨hval, hleast, -⟩ := scalar?_eq_some_iff.mp hc
      have hform := CodePoint.IsForm.two (c := c) (by omega) (by omega)
      rw [show 0xC0 + c.val / 0x40 = a.toNat by omega, show c.val % 0x40 = n by omega,
        UInt8.ofNat_toNat] at hform
      exact ⟨c, t', _, rest', rfl, rfl, hform, ht'⟩
    · cases h
  split at h
  · rename_i hfirst
    simp only [Bool.and_eq_true, decide_eq_true_eq] at hfirst
    split at h
    · rename_i b d rest'
      simp only [Option.bind_eq_bind, Option.bind_eq_some_iff, Option.pure_def,
        Option.some.injEq] at h
      obtain ⟨n, hn, m, hm, c, hc, t', ht', rfl⟩ := h
      obtain ⟨rfl, hn⟩ := eq_ofNat_of_continuation? hn
      obtain ⟨rfl, hm⟩ := eq_ofNat_of_continuation? hm
      obtain ⟨hval, hleast, hscalar⟩ := scalar?_eq_some_iff.mp hc
      have hform := CodePoint.IsForm.three (c := c) hscalar (by omega) (by omega)
      rw [show 0xE0 + c.val / 0x1000 = a.toNat by omega, show c.val / 0x40 % 0x40 = n by omega,
        show c.val % 0x40 = m by omega, UInt8.ofNat_toNat] at hform
      exact ⟨c, t', _, rest', rfl, rfl, hform, ht'⟩
    · cases h
  split at h
  · rename_i hfirst
    simp only [Bool.and_eq_true, decide_eq_true_eq] at hfirst
    split at h
    · rename_i b d e rest'
      simp only [Option.bind_eq_bind, Option.bind_eq_some_iff, Option.pure_def,
        Option.some.injEq] at h
      obtain ⟨n, hn, m, hm, k, hk, c, hc, t', ht', rfl⟩ := h
      obtain ⟨rfl, hn⟩ := eq_ofNat_of_continuation? hn
      obtain ⟨rfl, hm⟩ := eq_ofNat_of_continuation? hm
      obtain ⟨rfl, hk⟩ := eq_ofNat_of_continuation? hk
      obtain ⟨hval, hleast, -⟩ := scalar?_eq_some_iff.mp hc
      have hform := CodePoint.IsForm.four (c := c) (by omega)
      rw [show 0xF0 + c.val / 0x40000 = a.toNat by omega,
        show c.val / 0x1000 % 0x40 = n by omega, show c.val / 0x40 % 0x40 = m by omega,
        show c.val % 0x40 = k by omega, UInt8.ofNat_toNat] at hform
      exact ⟨c, t', _, rest', rfl, rfl, hform, ht'⟩
    · cases h
  · cases h

/-! ## Texts -/

theorem utf8?_cons_eq_some_iff {c : CodePoint} : utf8? (c :: t) = some bytes ↔
    ∃ form more, c.IsForm form ∧ t.utf8? = some more ∧ bytes = form ++ more := by
  rw [utf8?]
  simp only [Option.bind_eq_bind, Option.bind_eq_some_iff, Option.pure_def, Option.some.injEq,
    CodePoint.utf8?_eq_some_iff]
  constructor
  · rintro ⟨form, hform, more, hmore, rfl⟩
    exact ⟨form, more, hform, hmore, rfl⟩
  · rintro ⟨form, more, hform, hmore, rfl⟩
    exact ⟨form, hform, more, hmore, rfl⟩

/-- What a text is written as is read as the text. -/
theorem ofUtf8?_of_utf8? (h : t.utf8? = some bytes) : ofUtf8? bytes = some t := by
  induction t generalizing bytes with
  | nil =>
    cases h
    rfl
  | cons c t ih =>
    obtain ⟨form, more, hform, hmore, rfl⟩ := utf8?_cons_eq_some_iff.mp h
    rw [ofUtf8?_append_of_isForm hform, ih hmore]
    rfl

theorem utf8?_of_ofUtf8? (h : ofUtf8? bytes = some t) : t.utf8? = some bytes := by
  induction t generalizing bytes with
  | nil =>
    cases bytes with
    | nil => rfl
    | cons a rest =>
      obtain ⟨c, t', -, -, ht, -⟩ := exists_isForm_of_ofUtf8?_cons h
      cases ht
  | cons c t ih =>
    cases bytes with
    | nil => cases h
    | cons a rest =>
      obtain ⟨d, t', form, rest', ht, hbytes, hform, hrest⟩ := exists_isForm_of_ofUtf8?_cons h
      cases ht
      exact utf8?_cons_eq_some_iff.mpr ⟨form, rest', hform, ih hrest, hbytes⟩

/-- Bytes are read as a text exactly when they are what the text is written as. -/
theorem ofUtf8?_eq_some_iff : ofUtf8? bytes = some t ↔ t.utf8? = some bytes :=
  ⟨utf8?_of_ofUtf8?, ofUtf8?_of_utf8?⟩

/-- Bytes are read as a single code point exactly when they are its form. -/
theorem ofUtf8?_eq_singleton_iff {c : CodePoint} : ofUtf8? bytes = some [c] ↔ c.IsForm bytes := by
  rw [ofUtf8?_eq_some_iff, utf8?_cons_eq_some_iff]
  constructor
  · rintro ⟨form, more, hform, hmore, rfl⟩
    cases hmore
    rwa [List.append_nil]
  · intro hform
    exact ⟨bytes, [], hform, rfl, (List.append_nil _).symm⟩

theorem exists_utf8?_of_isEncodable (h : t.IsEncodable) : ∃ bytes, t.utf8? = some bytes := by
  induction t with
  | nil => exact ⟨[], rfl⟩
  | cons c t ih =>
    obtain ⟨hc, ht⟩ := isEncodable_cons.mp h
    obtain ⟨form, hform⟩ := CodePoint.exists_isForm hc
    obtain ⟨more, hmore⟩ := ih ht
    exact ⟨form ++ more, utf8?_cons_eq_some_iff.mpr ⟨form, more, hform, hmore, rfl⟩⟩

/-! ## ASCII -/

/-- Code points below 80 alone. -/
def IsAscii (t : Text) : Prop := ∀ c ∈ t, c.val < 0x80

/-- The bytes of ASCII text, one for each code point. -/
def asciiBytes (t : Text) : List UInt8 := t.map fun c => UInt8.ofNat c.val

theorem IsVisible.isAscii {t : Text} (h : t.IsVisible) : t.IsAscii := by
  intro c hc
  have := h c hc
  omega

theorem utf8?_of_isAscii {t : Text} (h : t.IsAscii) : t.utf8? = some t.asciiBytes := by
  induction t with
  | nil => rfl
  | cons c t ih =>
    have hrest := ih fun d hd => h d (List.mem_cons_of_mem _ hd)
    exact utf8?_cons_eq_some_iff.mpr ⟨_, _, .one (h c List.mem_cons_self), hrest, rfl⟩

/-! ## Line endings -/

theorem not_mem_lineFeedsAfter (afterReturn : Bool) (t : Text) :
    CodePoint.ofChar '\r' ∉ lineFeedsAfter afterReturn t := by
  induction t generalizing afterReturn with
  | nil => exact List.not_mem_nil
  | cons c t ih =>
    rw [lineFeedsAfter]
    split
    · exact List.not_mem_cons_of_ne_of_not_mem (by decide) (ih true)
    split
    · exact ih false
    · rename_i hc _
      exact List.not_mem_cons_of_ne_of_not_mem (Ne.symm hc) (ih false)

theorem lineFeedsAfter_of_not_mem (h : CodePoint.ofChar '\r' ∉ t) :
    lineFeedsAfter false t = t := by
  induction t with
  | nil => rfl
  | cons c t ih =>
    rw [List.mem_cons, not_or] at h
    obtain ⟨hc, ht⟩ := h
    rw [lineFeedsAfter, if_neg (Ne.symm hc), Bool.false_and, if_neg (by simp), ih ht]

/-- Making all line endings the same leaves a text alone exactly when no carriage return is in
it. -/
theorem withLineFeeds_eq_self_iff : t.withLineFeeds = t ↔ CodePoint.ofChar '\r' ∉ t := by
  constructor
  · intro h
    rw [← h]
    exact not_mem_lineFeedsAfter false t
  · exact lineFeedsAfter_of_not_mem

theorem withLineFeeds_of_isVisible (h : t.IsVisible) : t.withLineFeeds = t :=
  withLineFeeds_eq_self_iff.mpr fun hreturn => absurd (h _ hreturn) (by decide)

end Text

end VirtualShell
