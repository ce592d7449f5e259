import VirtualShell.Json.Reader
import VirtualShell.Json.Writer
import VirtualShell.Proofs.Decimal.Shortest
import VirtualShell.Proofs.Numeral
/-
  Numbers read back from JSON.

  The reader of numbers takes digits, perhaps a fraction and perhaps an exponent, as far as
  they go. What stands after a number in a snapshot is none of these, and so the reader stops
  where the number ends. Each of the three layouts of a floating-point number spells the same
  value, and the value is all that reading depends on.
-/

namespace VirtualShell

/-! ## Digits at the start of a text -/

/-- A text of decimal digits alone. -/
def Text.IsDigits (t : Text) : Prop := ∀ c ∈ t, c.isAsciiDigit = true

/-- No digit stands at the start of the text. -/
def Text.NoDigit (t : Text) : Prop := ∀ c more, t = c :: more → c.isAsciiDigit = false

/-- Nothing at the start of the text would prolong a number. -/
def Text.EndsNumber (t : Text) : Prop :=
  ∀ c more, t = c :: more →
    c.isAsciiDigit = false ∧ c ≠ CodePoint.ofChar '.' ∧ c ≠ CodePoint.ofChar 'e' ∧
      c ≠ CodePoint.ofChar 'E'

theorem Text.EndsNumber.noDigit {t : Text} (h : t.EndsNumber) : t.NoDigit :=
  fun c more e => (h c more e).1

theorem Text.noDigit_cons {c : CodePoint} (h : c.isAsciiDigit = false) (t : Text) :
    Text.NoDigit (c :: t) := by
  rintro d more e
  cases e
  exact h

theorem CodePoint.ne_of_isAsciiDigit {c d : CodePoint} (h : c.isAsciiDigit = true)
    (hd : d.isAsciiDigit = false) : c ≠ d := by
  rintro rfl
  rw [h] at hd
  cases hd

theorem takeDigits_append {ds t : Text} (hds : ds.IsDigits) (ht : t.NoDigit) :
    takeDigits (ds ++ t) = (Text.digitValues ds, t) := by
  have htake : t.takeWhile CodePoint.isAsciiDigit = [] := by
    cases t with
    | nil => rfl
    | cons c more => rw [List.takeWhile_cons, ht c more rfl]; rfl
  have hdrop : t.dropWhile CodePoint.isAsciiDigit = t := by
    cases t with
    | nil => rfl
    | cons c more => rw [List.dropWhile_cons, ht c more rfl]; rfl
  rw [takeDigits, List.takeWhile_append_of_pos hds, List.dropWhile_append_of_pos hds, htake, hdrop,
    List.append_nil]
  rfl

theorem digitValues_ne_nil {ds : Text} (h : ds ≠ []) : Text.digitValues ds ≠ [] := by
  simpa [Text.digitValues] using h

/-! ## The parts of a number -/

theorem takeFraction_point {ds t : Text} (hds : ds.IsDigits) (ht : t.NoDigit) :
    takeFraction (CodePoint.ofChar '.' :: (ds ++ t)) = (Text.digitValues ds, t) := by
  rw [takeFraction, if_pos rfl, takeDigits_append hds ht]

theorem takeFraction_of_ne {t : Text} (h : ∀ c more, t = c :: more → c ≠ CodePoint.ofChar '.') :
    takeFraction t = ([], t) := by
  cases t with
  | nil => rfl
  | cons c more => rw [takeFraction, if_neg (h c more rfl)]

theorem takeSign_minus (t : Text) : takeSign (CodePoint.ofChar '-' :: t) = (true, t) := by
  rw [takeSign, if_pos rfl]

theorem takeSign_plus (t : Text) : takeSign (CodePoint.ofChar '+' :: t) = (false, t) := by
  rw [takeSign, if_neg (by decide), if_pos rfl]

theorem takeExponent_mark {e : Int} {ds t : Text} (hds : ds.IsDigits) (hne : ds ≠ [])
    (ht : t.NoDigit) (he : Text.natOfDigits (Text.digitValues ds) = e.natAbs) :
    takeExponent ((if e < 0 then Text.ofString "e-" else Text.ofString "e+") ++ (ds ++ t)) =
      (some e, t) := by
  have hrun := takeDigits_append hds ht
  obtain ⟨d, more, hd⟩ := List.exists_cons_of_ne_nil (digitValues_ne_nil hne)
  rw [hd] at hrun he
  generalize hn : e.natAbs = n at he
  split
  · show takeExponent (CodePoint.ofChar 'e' :: CodePoint.ofChar '-' :: (ds ++ t)) = _
    simp only [takeExponent, takeSign_minus, hrun, he]
    simp
    omega
  · show takeExponent (CodePoint.ofChar 'e' :: CodePoint.ofChar '+' :: (ds ++ t)) = _
    simp only [takeExponent, takeSign_plus, hrun, he]
    simp
    omega

theorem takeExponent_of_endsNumber {t : Text} (h : t.EndsNumber) : takeExponent t = (none, t) := by
  cases t with
  | nil => rfl
  | cons c more =>
    obtain ⟨-, -, he, hE⟩ := h c more rfl
    simp [takeExponent, he, hE]

/-! ## A whole number -/

/-- The digits before the point: one at least, and the first is not a zero unless it is all. -/
structure Text.IsWhole (ds : Text) : Prop where
  isDigits : ds.IsDigits
  ne_nil : ds ≠ []
  leading : ∀ c more, ds = c :: more → c.val = 48 → more = []

theorem Text.IsWhole.cases {ds : Text} (h : ds.IsWhole) :
    ds = [CodePoint.ofDigit 0] ∨ ∃ d more, Text.digitValues ds = (d + 1) :: more := by
  obtain ⟨c, more, rfl⟩ := List.exists_cons_of_ne_nil h.ne_nil
  have hc := h.isDigits c List.mem_cons_self
  simp only [CodePoint.isAsciiDigit, Bool.and_eq_true, decide_eq_true_eq] at hc
  by_cases hzero : c.val = 48
  · refine Or.inl ?_
    rw [h.leading c more rfl hzero]
    exact congrArg (fun c => [c]) (CodePoint.ext_val hzero)
  · refine Or.inr ⟨c.val - 49, Text.digitValues more, ?_⟩
    simp only [Text.digitValues, List.map_cons]
    congr 1
    omega

namespace Json

/-- The reader of numbers in terms of the parts that it finds. -/
theorem readUnsignedNumber_eq {negative : Bool} {whole t : Text} (hw : whole.IsWhole)
    (ht : t.NoDigit) :
    readUnsignedNumber negative (whole ++ t) =
      (let (fraction, afterFraction) := match takeFraction t with
        | ([], _) => ([], t)
        | found => found
      let (exponent, rest) := takeExponent afterFraction
      if fraction = [] && exponent = none then
        if (Text.digitValues whole).length > Text.digitLimit then .error .tooManyDigits
        else
          let n := Text.natOfDigits (Text.digitValues whole)
          .ok (.number (.integer (if negative then -(n : Int) else n)), rest)
      else
        .ok (.number (.real ((Decimal.ofDigits (Text.digitValues whole) fraction
          (exponent.getD 0)).toFloat negative)), rest)) := by
  simp only [readUnsignedNumber, takeDigits_append hw.isDigits ht]
  rcases hw.cases with rfl | ⟨d, more, hd⟩
  · rfl
  · rw [hd]
    rfl

theorem readUnsignedNumber_fraction {negative : Bool} {whole ds t rest : Text}
    {exponent : Option Int}
    (hw : whole.IsWhole) (hds : ds.IsDigits) (hne : ds ≠ []) (ht : t.NoDigit)
    (hexponent : takeExponent t = (exponent, rest)) :
    readUnsignedNumber negative (whole ++ CodePoint.ofChar '.' :: (ds ++ t)) =
      .ok (.number (.real ((Decimal.ofDigits (Text.digitValues whole) (Text.digitValues ds)
        (exponent.getD 0)).toFloat negative)), rest) := by
  obtain ⟨d, more, hd⟩ := List.exists_cons_of_ne_nil (digitValues_ne_nil hne)
  have hfraction := takeFraction_point hds ht
  rw [hd] at hfraction
  rw [readUnsignedNumber_eq hw (Text.noDigit_cons rfl _)]
  simp only [hfraction, hexponent, hd]
  rfl

theorem readUnsignedNumber_exponent {negative : Bool} {whole t rest : Text} {exponent : Int}
    (hw : whole.IsWhole) (ht : t.NoDigit)
    (hpoint : ∀ c more, t = c :: more → c ≠ CodePoint.ofChar '.')
    (hexponent : takeExponent t = (some exponent, rest)) :
    readUnsignedNumber negative (whole ++ t) =
      .ok (.number (.real ((Decimal.ofDigits (Text.digitValues whole) []
        exponent).toFloat negative)), rest) := by
  rw [readUnsignedNumber_eq hw ht]
  simp only [takeFraction_of_ne hpoint, hexponent]
  rfl

theorem readUnsignedNumber_integer {negative : Bool} {whole rest : Text} (hw : whole.IsWhole)
    (hlimit : whole.length ≤ Text.digitLimit) (hrest : rest.EndsNumber) :
    readUnsignedNumber negative (whole ++ rest) =
      .ok (.number (.integer (if negative then
        -(Text.natOfDigits (Text.digitValues whole) : Int)
        else Text.natOfDigits (Text.digitValues whole))), rest) := by
  have hpoint := takeFraction_of_ne fun c more e => (hrest c more e).2.1
  have hlength : ¬ (Text.digitValues whole).length > Text.digitLimit := by
    rw [Text.digitValues, List.length_map]
    omega
  rw [readUnsignedNumber_eq hw hrest.noDigit]
  simp only [hpoint, takeExponent_of_endsNumber hrest, if_neg hlength]
  rfl

end Json

/-! ## The value of a layout -/

namespace Text

/-- The number that the digits of a text spell. -/
def spelled (ds : Text) : Nat := natOfDigits (digitValues ds)

@[simp] theorem digitValues_nil : digitValues [] = [] := rfl

theorem spelled_append (ds more : Text) :
    spelled (ds ++ more) = spelled ds * 10 ^ more.length + spelled more := by
  rw [spelled, digitValues, List.map_append, natOfDigits_append, List.length_map]
  rfl

theorem spelled_zeros (n : Nat) : spelled (List.replicate n (CodePoint.ofChar '0')) = 0 := by
  induction n with
  | zero => rfl
  | succ n ih =>
    have hzero : spelled [CodePoint.ofChar '0'] = 0 := rfl
    rw [List.replicate_succ, ← List.singleton_append, spelled_append, ih, hzero, Nat.zero_mul]

theorem isDigits_zeros (n : Nat) : IsDigits (List.replicate n (CodePoint.ofChar '0')) := by
  intro c hc
  rw [List.eq_of_mem_replicate hc]
  rfl

theorem IsDigits.append {ds more : Text} (h : ds.IsDigits) (hmore : more.IsDigits) :
    IsDigits (ds ++ more) := by
  intro c hc
  rcases List.mem_append.mp hc with hc | hc
  · exact h c hc
  · exact hmore c hc

theorem isDigits_ofNat (n : Nat) : (ofNat n).IsDigits := isAsciiDigit_of_mem_ofNat

theorem isWhole_zero : IsWhole [CodePoint.ofDigit 0] :=
  ⟨isDigits_zeros 1, by simp, by simp⟩

/-- Digits of which the first is no zero. -/
structure IsLeading (ds : Text) : Prop where
  isDigits : ds.IsDigits
  head : ∃ c more, ds = c :: more ∧ c.val ≠ 48

theorem IsLeading.isWhole {ds : Text} (h : ds.IsLeading) : ds.IsWhole := by
  obtain ⟨c, more, rfl, hc⟩ := h.head
  refine ⟨h.isDigits, by simp, ?_⟩
  rintro d more' e hd
  cases e
  exact absurd hd hc

theorem IsLeading.take {ds : Text} (h : ds.IsLeading) {n : Nat} (hn : 0 < n) :
    IsLeading (ds.take n) := by
  obtain ⟨c, more, rfl, hc⟩ := h.head
  obtain ⟨n, rfl⟩ := Nat.exists_eq_succ_of_ne_zero hn.ne'
  exact ⟨fun c hc => h.isDigits c (List.mem_of_mem_take hc), c, more.take n, rfl, hc⟩

theorem IsLeading.append {ds more : Text} (h : ds.IsLeading) (hmore : more.IsDigits) :
    IsLeading (ds ++ more) := by
  obtain ⟨c, rest, rfl, hc⟩ := h.head
  exact ⟨h.isDigits.append hmore, c, rest ++ more, rfl, hc⟩

end Text

namespace Decimal

theorem value_ofDigits (whole fraction : Text) (exponent : Int) :
    (ofDigits (Text.digitValues whole) (Text.digitValues fraction) exponent).value =
      (Text.spelled (whole ++ fraction) : ℚ) * 10 ^ (exponent - fraction.length) := by
  simp only [value, ofDigits, Text.spelled, Text.digitValues, List.map_append, List.length_map]

/-- What a number spells at the start of a text, with the rest after it. -/
def Reads (negative : Bool) (t rest : Text) (q : ℚ) : Prop :=
  ∃ d : Decimal, Json.readUnsignedNumber negative t =
    .ok (.number (.real (d.toFloat negative)), rest) ∧ d.value = q

variable {negative : Bool} {whole fraction ds t rest : Text} {e : Int}

theorem reads_fraction {exponent : Option Int} (hw : whole.IsWhole) (hf : fraction.IsDigits)
    (hne : fraction ≠ []) (ht : t.NoDigit) (hexponent : takeExponent t = (exponent, rest)) :
    Reads negative (whole ++ CodePoint.ofChar '.' :: (fraction ++ t)) rest
      (Text.spelled (whole ++ fraction) * 10 ^ (exponent.getD 0 - fraction.length)) :=
  ⟨_, Json.readUnsignedNumber_fraction hw hf hne ht hexponent, value_ofDigits _ _ _⟩

theorem reads_exponent (hw : whole.IsWhole) (ht : t.NoDigit)
    (hpoint : ∀ c more, t = c :: more → c ≠ CodePoint.ofChar '.')
    (hexponent : takeExponent t = (some e, rest)) :
    Reads negative (whole ++ t) rest (Text.spelled whole * 10 ^ e) := by
  refine ⟨_, Json.readUnsignedNumber_exponent hw ht hpoint hexponent, ?_⟩
  rw [← Text.digitValues_nil, value_ofDigits]
  simp

/-- Below one there is a zero before the point. -/
theorem reads_small (h : ds.IsLeading) (hrest : rest.EndsNumber) (hlow : -4 ≤ e) (hhigh : e < 0) :
    Reads negative (layOut ds e ++ rest) rest (Text.spelled ds * 10 ^ (e + 1 - ds.length)) := by
  have hlay : layOut ds e ++ rest = [CodePoint.ofDigit 0] ++ CodePoint.ofChar '.' ::
      ((List.replicate (-e - 1).toNat (CodePoint.ofChar '0') ++ ds) ++ rest) := by
    rw [layOut, if_pos (by simp; omega), if_pos hhigh]
    simp only [List.append_assoc]
    rfl
  have hspelled : Text.spelled ([CodePoint.ofDigit 0] ++
      (List.replicate (-e - 1).toNat (CodePoint.ofChar '0') ++ ds)) = Text.spelled ds := by
    have hzeros : [CodePoint.ofDigit 0] ++ List.replicate (-e - 1).toNat (CodePoint.ofChar '0') =
        List.replicate ((-e - 1).toNat + 1) (CodePoint.ofChar '0') := rfl
    rw [← List.append_assoc, Text.spelled_append, hzeros, Text.spelled_zeros, Nat.zero_mul,
      Nat.zero_add]
  have hpower : (none : Option Int).getD 0 -
      ((List.replicate (-e - 1).toNat (CodePoint.ofChar '0') ++ ds).length : Int) =
      e + 1 - ds.length := by
    simp only [Option.getD_none, List.length_append, List.length_replicate]
    omega
  obtain ⟨c, more, hc, -⟩ := h.head
  rw [hlay, ← hspelled, ← hpower]
  exact reads_fraction Text.isWhole_zero ((Text.isDigits_zeros _).append h.isDigits) (by simp [hc])
    hrest.noDigit (takeExponent_of_endsNumber hrest)

/-- From one on there is a digit after the point, if only a zero. -/
theorem reads_plain (h : ds.IsLeading) (hrest : rest.EndsNumber) (hlow : 0 ≤ e) (hhigh : e < 16) :
    Reads negative (layOut ds e ++ rest) rest (Text.spelled ds * 10 ^ (e + 1 - ds.length)) := by
  obtain ⟨n, rfl⟩ := Int.eq_ofNat_of_zero_le hlow
  have hlay : layOut ds (n : Int) = ds.take (n + 1) ++
      List.replicate (n + 1 - ds.length) (CodePoint.ofChar '0') ++ Text.ofString "." ++
      (if ds.drop (n + 1) = [] then Text.ofString "0" else ds.drop (n + 1)) := by
    rw [layOut, if_pos (by simp; omega), if_neg (by omega)]
    rfl
  rw [hlay]
  -- either the digits are filled up with zeros before the point, or some stand after it
  by_cases hlong : ds.length ≤ n + 1
  · have hspelled : (Text.spelled (ds ++ List.replicate (n + 1 - ds.length) (CodePoint.ofChar '0') ++
        Text.ofString "0") : ℚ) * 10 ^ ((none : Option Int).getD 0 - (Text.ofString "0").length) =
        Text.spelled ds * 10 ^ ((n : Int) + 1 - ds.length) := by
      have hzero : Text.ofString "0" = List.replicate 1 (CodePoint.ofChar '0') := rfl
      rw [List.append_assoc, Text.spelled_append, hzero, ← List.replicate_add, Text.spelled_zeros]
      push_cast
      rw [add_zero, mul_assoc, ← zpow_natCast, ← zpow_add₀ (by norm_num)]
      congr 2
      simp only [Option.getD_none, List.length_replicate, List.length_singleton]
      omega
    rw [if_pos (List.drop_eq_nil_of_le hlong), List.take_of_length_le hlong, ← hspelled,
      List.append_assoc, List.append_assoc]
    exact reads_fraction (h.append (Text.isDigits_zeros _)).isWhole (Text.isDigits_zeros 1)
      (by decide)
      hrest.noDigit (takeExponent_of_endsNumber hrest)
  · have hnil : List.replicate (n + 1 - ds.length) (CodePoint.ofChar '0') = [] := by
      rw [Nat.sub_eq_zero_of_le (by omega), List.replicate_zero]
    have hdrop : ds.drop (n + 1) ≠ [] := by
      rw [Ne, List.drop_eq_nil_iff]
      exact hlong
    have hspelled : (Text.spelled (ds.take (n + 1) ++ ds.drop (n + 1)) : ℚ) *
        10 ^ ((none : Option Int).getD 0 - (ds.drop (n + 1)).length) =
        Text.spelled ds * 10 ^ ((n : Int) + 1 - ds.length) := by
      rw [List.take_append_drop]
      congr 2
      simp only [Option.getD_none, List.length_drop]
      omega
    rw [if_neg hdrop, hnil, List.append_nil, ← hspelled, List.append_assoc, List.append_assoc]
    exact reads_fraction (h.take (Nat.succ_pos n)).isWhole
      (fun c hc => h.isDigits c (List.mem_of_mem_drop hc)) hdrop hrest.noDigit
      (takeExponent_of_endsNumber hrest)

/-- An exponent as it is laid out, with its sign and two digits at least. -/
def mark (e : Int) : Text :=
  (if e < 0 then Text.ofString "e-" else Text.ofString "e+") ++
    (List.replicate (2 - (Text.ofNat e.natAbs).length) (CodePoint.ofChar '0') ++
      Text.ofNat e.natAbs)

theorem takeExponent_mark_append (hrest : rest.NoDigit) (e : Int) :
    takeExponent (mark e ++ rest) = (some e, rest) := by
  rw [mark, List.append_assoc]
  refine takeExponent_mark ((Text.isDigits_zeros _).append (Text.isDigits_ofNat _))
    (by simp [Text.ofNat_ne_nil]) hrest ?_
  show Text.spelled _ = _
  rw [Text.spelled_append, Text.spelled_zeros, Nat.zero_mul, Nat.zero_add]
  exact Text.natOfDigits_ofNat _

theorem mark_eq_cons (e : Int) : ∃ more, mark e = CodePoint.ofChar 'e' :: more := by
  rw [mark]
  split <;> exact ⟨_, rfl⟩

theorem layOut_far (c : CodePoint) (more : Text) (hfar : e < -4 ∨ 16 ≤ e) :
    layOut (c :: more) e = [c] ++ ((if more = [] then [] else CodePoint.ofChar '.' :: more) ++
      mark e) := by
  rw [layOut, if_neg (by simp; omega), mark]
  cases more <;> simp [List.append_assoc, Text.ofString]

/-- Else there is one digit before the point, and an exponent. -/
theorem reads_scientific (h : ds.IsLeading) (hrest : rest.EndsNumber) (hfar : e < -4 ∨ 16 ≤ e) :
    Reads negative (layOut ds e ++ rest) rest (Text.spelled ds * 10 ^ (e + 1 - ds.length)) := by
  obtain ⟨c, more, rfl, hc⟩ := h.head
  have hwhole : Text.IsWhole [c] := (h.take Nat.one_pos).isWhole
  have hpower := takeExponent_mark_append hrest.noDigit e
  obtain ⟨after, hafter⟩ := mark_eq_cons e
  rw [layOut_far c more hfar, List.append_assoc, List.append_assoc, hafter]
  rw [hafter] at hpower
  -- a single digit is followed by the exponent at once, without a point
  by_cases hmore : more = []
  · subst hmore
    have hexp : e + 1 - (([c] : Text).length : Int) = e := by simp
    rw [if_pos rfl, List.nil_append, hexp]
    refine reads_exponent hwhole (Text.noDigit_cons rfl _) ?_ hpower
    rintro d after' hd
    cases hd
    decide
  · have hexp : e + 1 - ((c :: more).length : Int) = (some e).getD 0 - more.length := by
      simp only [List.length_cons, Option.getD_some]
      push_cast
      omega
    rw [if_neg hmore, hexp, List.cons_append]
    exact reads_fraction hwhole (fun d hd => h.isDigits d (List.mem_cons_of_mem _ hd)) hmore
      (Text.noDigit_cons rfl _) hpower

/-- Each layout of digits spells the same number. -/
theorem reads_layOut (h : ds.IsLeading) (hrest : rest.EndsNumber) (e : Int) :
    Reads negative (layOut ds e ++ rest) rest (Text.spelled ds * 10 ^ (e + 1 - ds.length)) := by
  by_cases hfar : e < -4 ∨ 16 ≤ e
  · exact reads_scientific h hrest hfar
  · rcases lt_or_ge e 0 with hneg | hpos
    · exact reads_small h hrest (by omega) hneg
    · exact reads_plain h hrest hpos (by omega)

/-! ## What is written -/

theorem ofNat_eq_significantDigits (d : Decimal) :
    ∃ k, Text.ofNat d.digits =
      d.significantDigits.1 ++ List.replicate k (CodePoint.ofChar '0') := by
  generalize hall : Text.ofNat d.digits = all
  refine ⟨(all.reverse.takeWhile fun c : CodePoint => c == CodePoint.ofChar '0').length, ?_⟩
  have hzeros : (all.reverse.takeWhile fun c : CodePoint => c == CodePoint.ofChar '0') =
      List.replicate (all.reverse.takeWhile fun c : CodePoint => c == CodePoint.ofChar '0').length
        (CodePoint.ofChar '0') := by
    rw [List.eq_replicate_iff]
    refine ⟨rfl, fun c hc => ?_⟩
    simpa using List.all_eq_true.mp List.all_takeWhile c hc
  have hsplit := congrArg List.reverse
    (List.takeWhile_append_dropWhile (p := fun c : CodePoint => c == CodePoint.ofChar '0')
      (l := all.reverse))
  rw [List.reverse_append, List.reverse_reverse, hzeros, List.reverse_replicate] at hsplit
  rw [significantDigits, hall]
  exact hsplit.symm

theorem isLeading_significantDigits {d : Decimal} (hd : d.digits ≠ 0) :
    d.significantDigits.1.IsLeading := by
  obtain ⟨k, hk⟩ := ofNat_eq_significantDigits d
  obtain ⟨first, others, hfirst, hpos, hlt⟩ := Text.head?_ofNat (Nat.pos_of_ne_zero hd)
  have hdigits : d.significantDigits.1.IsDigits := fun c hc =>
    Text.isDigits_ofNat d.digits c (by rw [hk]; exact List.mem_append_left _ hc)
  have hval : (CodePoint.ofDigit first).val ≠ 48 := by
    rw [CodePoint.val_ofDigit hlt]
    omega
  refine ⟨hdigits, ?_⟩
  rw [hfirst] at hk
  cases hds : d.significantDigits.1 with
  | nil =>
    rw [hds, List.nil_append] at hk
    have hmem : CodePoint.ofDigit first ∈ List.replicate k (CodePoint.ofChar '0') := by
      rw [← hk]
      exact List.mem_cons_self
    rw [List.eq_of_mem_replicate hmem] at hval
    exact absurd rfl hval
  | cons c more =>
    rw [hds, List.cons_append] at hk
    cases hk
    exact ⟨_, more, rfl, hval⟩

/-- A decimal is written as its value is read. -/
theorem reads_written {d : Decimal} (hd : d.digits ≠ 0) (hrest : rest.EndsNumber) :
    Reads negative (d.written ++ rest) rest d.value := by
  obtain ⟨k, hk⟩ := ofNat_eq_significantDigits d
  have hcount : d.significantDigits.2 = d.significantDigits.1.length + k := by
    show (Text.ofNat d.digits).length = _
    rw [hk, List.length_append, List.length_replicate]
  have hdigits : (d.digits : ℚ) = Text.spelled d.significantDigits.1 * 10 ^ k := by
    have hspelled := Text.natOfDigits_ofNat d.digits
    rw [hk] at hspelled
    have happend := Text.spelled_append d.significantDigits.1
      (List.replicate k (CodePoint.ofChar '0'))
    rw [Text.spelled, hspelled, Text.spelled_zeros, List.length_replicate, Nat.add_zero] at happend
    rw [happend]
    push_cast
    rfl
  have hvalue : (Text.spelled d.significantDigits.1 : ℚ) * 10 ^
      (d.exponent + d.significantDigits.2 - 1 + 1 - d.significantDigits.1.length) = d.value := by
    have hexp : d.exponent + d.significantDigits.2 - 1 + 1 - d.significantDigits.1.length =
        k + d.exponent := by
      rw [hcount]
      push_cast
      ring
    rw [value, hdigits, hexp, zpow_add₀ (by norm_num), zpow_natCast, mul_assoc]
  rw [← hvalue]
  exact reads_layOut (isLeading_significantDigits hd) hrest _

end Decimal

namespace Json

/-! ## A number among other values -/

/-- Only digits are read as an unsigned number. -/
theorem head_of_readUnsignedNumber {negative : Bool} {t : Text} {r : Json × Text}
    (h : readUnsignedNumber negative t = .ok r) :
    ∃ c more, t = c :: more ∧ c.isAsciiDigit = true := by
  cases t with
  | nil => cases h
  | cons c more =>
    refine ⟨c, more, rfl, ?_⟩
    by_contra hc
    have hrun : takeDigits (c :: more) = ([], c :: more) := by simp [takeDigits, hc]
    simp [readUnsignedNumber, hrun] at h

theorem readAtom_signed {negative : Bool} {t : Text} {r : Json × Text}
    (h : readUnsignedNumber negative t = .ok r) :
    readAtom (if negative then CodePoint.ofChar '-' :: t else t) = .ok r := by
  obtain ⟨c, more, rfl, hc⟩ := head_of_readUnsignedNumber h
  have hne : ∀ d : CodePoint, d.isAsciiDigit = false → c ≠ d :=
    fun d => CodePoint.ne_of_isAsciiDigit hc
  cases negative with
  | true =>
    rw [if_pos rfl, readAtom, if_neg (by decide), if_neg (by decide), if_neg (by decide),
      if_neg (by decide), if_neg (by decide), if_pos rfl, if_neg (hne _ rfl)]
    exact h
  | false =>
    rw [if_neg (by decide), readAtom.eq_def]
    dsimp only
    rw [if_neg (hne _ rfl), if_neg (hne _ rfl), if_neg (hne _ rfl), if_neg (hne _ rfl),
      if_neg (hne _ rfl), if_neg (hne _ rfl)]
    exact h

theorem expectWord_append (word : Text) (v : Json) (t : Text) :
    expectWord word v (word ++ t) = .ok (v, t) := by
  rw [expectWord, if_pos (List.isPrefixOf_iff_prefix.mpr (List.prefix_append word t)),
    List.drop_left]

theorem isWhole_ofNat (n : Nat) : (Text.ofNat n).IsWhole := by
  rcases Nat.eq_zero_or_pos n with rfl | hpos
  · exact Text.isWhole_zero
  · obtain ⟨d, more, hd, hdpos, hlt⟩ := Text.head?_ofNat hpos
    refine ⟨Text.isDigits_ofNat n, by simp [hd], fun c rest hc hzero => ?_⟩
    rw [hd] at hc
    cases hc
    rw [CodePoint.val_ofDigit hlt] at hzero
    omega

theorem readAtom_ofInt {n : Int} {rest : Text}
    (hlimit : (Text.ofNat n.natAbs).length ≤ Text.digitLimit) (hrest : rest.EndsNumber) :
    readAtom (Text.ofInt n ++ rest) = .ok (.number (.integer n), rest) := by
  cases n with
  | ofNat n =>
    have hread := @readUnsignedNumber_integer false _ _ (isWhole_ofNat n) hlimit hrest
    rw [Text.natOfDigits_ofNat] at hread
    exact readAtom_signed hread
  | negSucc n =>
    have hread := @readUnsignedNumber_integer true _ _ (isWhole_ofNat (n + 1)) hlimit hrest
    rw [Text.natOfDigits_ofNat] at hread
    exact readAtom_signed hread

/-- The digits of a finite number are read as the number. -/
theorem readUnsignedNumber_finite {x : Float} {negative : Bool} {significand : Nat} {exponent : Int}
    (hx : Binary64.ofFloat x = .finite negative significand exponent) {rest : Text}
    (hrest : rest.EndsNumber) :
    readUnsignedNumber negative
      ((if significand = 0 then Text.ofString "0.0"
        else (Decimal.shortest significand exponent).written) ++ rest) =
      .ok (.number (.real x), rest) := by
  obtain ⟨hf, hbits⟩ := Binary64.ofFloat_finite hx
  split
  -- zero has the lowest exponent, so that only one of its patterns is written like this
  · rename_i hzero
    subst hzero
    have hlowest : exponent = -1074 := by
      by_contra hne
      exact absurd (hf.full hne) (by decide)
    subst hlowest
    rw [← hbits]
    exact readUnsignedNumber_fraction Text.isWhole_zero
      (Text.isDigits_zeros 1) (by decide) hrest.noDigit (takeExponent_of_endsNumber hrest)
  · rename_i hzero
    have hround := Decimal.rounds_shortest hf (Nat.pos_of_ne_zero hzero)
    have hdigits : (Decimal.shortest significand exponent).digits ≠ 0 := by
      intro e
      have hlow := (Decimal.value_bounds hf (Nat.pos_of_ne_zero hzero) hround).1
      rw [Decimal.value, e, Nat.cast_zero, zero_mul] at hlow
      exact absurd hlow (not_le.mpr (by positivity))
    obtain ⟨d, hread, hvalue⟩ := Decimal.reads_written hdigits hrest
    rw [← hvalue] at hround
    rw [hread, Decimal.toFloat_of_rounds negative hf (Nat.pos_of_ne_zero hzero) hround, hbits]

theorem readAtom_writtenFloat (x : Float) {rest : Text} (hrest : rest.EndsNumber) :
    readAtom (writtenFloat ⟨"Infinity", "NaN"⟩ x ++ rest) = .ok (.number (.real x), rest) := by
  rw [writtenFloat]
  cases hx : Binary64.ofFloat x with
  | nan =>
    rw [← Binary64.ofFloat_nan hx]
    exact expectWord_append (Text.ofString "NaN") _ rest
  | infinite negative =>
    rw [← Binary64.ofFloat_infinite hx]
    cases negative <;> exact expectWord_append (Text.ofString "Infinity") _ rest
  | finite negative significand exponent =>
    have hread := readAtom_signed (readUnsignedNumber_finite hx hrest)
    cases negative <;> exact hread

end Json

/-- Whether the reader takes the number: an integer must not have too many digits. -/
def Number.IsReadable : Number → Prop
  | .integer n => (Text.ofNat n.natAbs).length ≤ Text.digitLimit
  | .real _ => True

/-- A number is read back, wherever it stands. -/
theorem Json.readAtom_writeNumber {n : Number} (hn : n.IsReadable) {rest : Text}
    (hrest : rest.EndsNumber) :
    readAtom (writeNumber n ++ rest) = .ok (.number n, rest) := by
  cases n with
  | integer n => exact readAtom_ofInt hn hrest
  | real x => exact readAtom_writtenFloat x hrest

end VirtualShell
