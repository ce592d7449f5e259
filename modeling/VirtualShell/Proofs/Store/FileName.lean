import VirtualShell.Proofs.Text.Utf8
import VirtualShell.Store.Basic
/-
  Names with an ending.

  The text under a key lies in a file whose name is the key with an ending, and it is first
  written to one with a longer ending. What a name is on a disk goes by its bytes; but an ending
  of ASCII never melts into what stands before it, since no form of several bytes takes an
  ASCII byte. So both files lie in one folder, and their names differ.
-/

namespace VirtualShell

namespace Text

/-- A form of several bytes has no ASCII byte in it. -/
theorem ofUtf8?_append_cons_ne {bytes more : List UInt8} {a : UInt8} (hne : bytes ≠ [])
    (ha : a.toNat < 0x80) (c : CodePoint) : ofUtf8? (bytes ++ a :: more) ≠ some [c] := by
  intro h
  rcases (ofUtf8?_eq_singleton_iff.mp h).low_or_high with ⟨-, hone⟩ | ⟨-, hhigh⟩
  · have hlength := congrArg List.length hone
    have hpos := List.length_pos_iff.mpr hne
    simp at hlength
    omega
  · have := hhigh a (by simp)
    omega

end Text

namespace FileName

/-- The one code point that bytes encode. -/
def form? (n : Nat) (bytes : List UInt8) : Option (CodePoint × Nat) :=
  match Text.ofUtf8? (bytes.take n) with
  | some [c] => some (c, n)
  | _ => none

theorem leadingForm?_eq (bytes : List UInt8) :
    leadingForm? bytes = [1, 2, 3, 4].findSome? fun n => form? n bytes := rfl

theorem form?_append {n : Nat} {bytes more : List UInt8} {a : UInt8} (hne : bytes ≠ [])
    (ha : a.toNat < 0x80) :
    form? n (bytes ++ a :: more) = if n ≤ bytes.length then form? n bytes else none := by
  split
  · rename_i hn
    rw [form?, List.take_append_of_le_length hn]
    rfl
  · rename_i hn
    obtain ⟨m, hm⟩ : ∃ m, n = bytes.length + (m + 1) := ⟨n - bytes.length - 1, by omega⟩
    rw [form?, hm, List.take_length_add_append, List.take_succ_cons]
    split
    · rename_i c hc
      exact absurd hc (Text.ofUtf8?_append_cons_ne hne ha c)
    · rfl

theorem form?_of_length_le {n : Nat} {bytes : List UInt8} (h : bytes.length ≤ n)
    (hnone : form? bytes.length bytes = none) : form? n bytes = none := by
  rw [form?, List.take_length] at hnone
  rw [form?, List.take_of_length_le h]
  cases hread : Text.ofUtf8? bytes with
  | none => rfl
  | some t =>
    rw [hread] at hnone
    match t with
    | [] => rfl
    | [c] => cases hnone
    | c :: d :: t => rfl

theorem widths_eq (k : Nat) :
    [1, 2, 3, 4] = List.range' 1 (min k 4) ++ List.range' (1 + min k 4) (4 - min k 4) := by
  rw [List.range'_append_1, Nat.add_sub_cancel' (Nat.min_le_right _ _)]
  rfl

/-- Only as many bytes are tried as there are. -/
theorem leadingForm?_eq_range (bytes : List UInt8) :
    leadingForm? bytes = (List.range' 1 (min bytes.length 4)).findSome? fun n => form? n bytes := by
  rw [leadingForm?_eq, widths_eq bytes.length, List.findSome?_append]
  cases hfirst : (List.range' 1 (min bytes.length 4)).findSome? fun n => form? n bytes with
  | some found => rfl
  | none =>
    rw [Option.none_or, List.findSome?_eq_none_iff]
    intro n hn
    rw [List.mem_range'_1] at hn
    refine form?_of_length_le (by omega) ?_
    by_cases hne : bytes = []
    · rw [hne]
      rfl
    · have hpos := List.length_pos_iff.mpr hne
      refine List.findSome?_eq_none_iff.mp hfirst _ ?_
      rw [List.mem_range'_1]
      omega

theorem length_of_leadingForm? {bytes : List UInt8} {c : CodePoint} {n : Nat}
    (h : leadingForm? bytes = some (c, n)) : 0 < n ∧ n ≤ bytes.length := by
  rw [leadingForm?_eq_range] at h
  obtain ⟨m, hm, hform⟩ := List.exists_of_findSome?_eq_some h
  rw [List.mem_range'_1] at hm
  rw [form?] at hform
  split at hform
  · cases hform
    omega
  · cases hform

/-- An ASCII byte after them changes nothing about the form that bytes start with. -/
theorem leadingForm?_append {bytes : List UInt8} {a : UInt8} (hne : bytes ≠ [])
    (ha : a.toNat < 0x80) (more : List UInt8) :
    leadingForm? (bytes ++ a :: more) = leadingForm? bytes := by
  have hpast : (List.range' (1 + min bytes.length 4) (4 - min bytes.length 4)).findSome?
      (fun n => form? n (bytes ++ a :: more)) = none := by
    rw [List.findSome?_eq_none_iff]
    intro n hn
    rw [List.mem_range'_1] at hn
    rw [form?_append hne ha, if_neg (by omega)]
  have hwithin : (List.range' 1 (min bytes.length 4)).findSome?
      (fun n => form? n (bytes ++ a :: more)) =
      (List.range' 1 (min bytes.length 4)).findSome? fun n => form? n bytes := by
    rw [← List.head?_filterMap, ← List.head?_filterMap]
    refine congrArg List.head? (List.filterMap_congr fun n hn => ?_)
    rw [List.mem_range'_1] at hn
    rw [form?_append hne ha, if_pos (by omega)]
  rw [leadingForm?_eq, widths_eq bytes.length, List.findSome?_append, hpast, Option.or_none,
    hwithin, leadingForm?_eq_range]

/-- An ASCII byte starts a form of its own. -/
theorem ofBytes_cons_of_lt {a : UInt8} (ha : a.toNat < 0x80) (more : List UInt8) :
    ofBytes (a :: more) = CodePoint.ofNat a.toNat :: ofBytes more := by
  have hform : leadingForm? (a :: more) = some (CodePoint.ofNat a.toNat, 1) := by
    have hone : form? 1 (a :: more) = some (CodePoint.ofNat a.toNat, 1) := by
      rw [form?, List.take_succ_cons, List.take_zero, Text.ofUtf8?_cons_of_lt ha]
      rfl
    rw [leadingForm?_eq, List.findSome?_cons, hone]
  rw [ofBytes, hform]
  rfl

theorem ofBytes_append {a : UInt8} (ha : a.toNat < 0x80) (more : List UInt8) (bytes : List UInt8) :
    ofBytes (bytes ++ a :: more) = ofBytes bytes ++ ofBytes (a :: more) := by
  -- the first form is the same with the byte as without it, and fewer bytes are left
  induction h : bytes.length using Nat.strongRecOn generalizing bytes with
  | ind k ih =>
    cases bytes with
    | nil =>
      rw [List.nil_append, ofBytes.eq_def []]
      rfl
    | cons b rest =>
      have hform := leadingForm?_append (List.cons_ne_nil b rest) ha more
      rw [List.length_cons] at h
      rw [List.cons_append] at hform ⊢
      rw [ofBytes.eq_def (b :: rest), ofBytes.eq_def (b :: (rest ++ a :: more))]
      dsimp only
      rw [hform]
      cases hlead : leadingForm? (b :: rest) with
      | none =>
        dsimp only
        rw [ih rest.length (by omega) rest rfl]
        rfl
      | some found =>
        obtain ⟨c, n⟩ := found
        have hn := length_of_leadingForm? hlead
        rw [List.length_cons] at hn
        dsimp only
        rw [List.drop_append_of_le_length (by omega),
          ih (rest.drop (n - 1)).length (by rw [List.length_drop]; omega) _ rfl]
        rfl

/-! ## An ASCII ending -/

theorem ofBytes_asciiBytes {t : Text} (h : t.IsAscii) : ofBytes t.asciiBytes = t := by
  induction t with
  | nil =>
    rw [Text.asciiBytes, List.map_nil, ofBytes]
  | cons c t ih =>
    have hc := h c List.mem_cons_self
    have htail := ih fun d hd => h d (List.mem_cons_of_mem _ hd)
    rw [Text.asciiBytes] at htail ⊢
    rw [List.map_cons, ofBytes_cons_of_lt (by rw [CodePoint.toNat_ofNat_val hc]; exact hc),
      CodePoint.toNat_ofNat_val hc, CodePoint.ofNat_val, htail]

theorem strayByte?_of_lt {c : CodePoint} (h : c.val < 0x80) : strayByte? c = none := by
  rw [strayByte?, if_neg]
  simp
  omega

theorem bytes?_of_isAscii {t : Text} (h : t.IsAscii) : bytes? t = some t.asciiBytes := by
  induction t with
  | nil => rfl
  | cons c t ih =>
    have hc := h c List.mem_cons_self
    rw [bytes?, strayByte?_of_lt hc, CodePoint.utf8?_of_lt hc,
      ih fun d hd => h d (List.mem_cons_of_mem _ hd)]
    rfl

theorem bytes?_append (s t : Text) :
    bytes? (s ++ t) = (bytes? s).bind fun first => (bytes? t).map (first ++ ·) := by
  induction s with
  | nil => cases h : bytes? t <;> simp [bytes?, h]
  | cons c s ih =>
    rw [List.cons_append, bytes?, bytes?, ih]
    cases bytes? s <;> cases bytes? t <;> cases strayByte? c <;> cases c.utf8? <;> simp

/-- An ending stays as it is. -/
theorem canonical?_append {ending : Text} (h : ending.IsAscii) (hne : ending ≠ []) (t : Text) :
    canonical? (t ++ ending) = (canonical? t).map (· ++ ending) := by
  have hending : ending.any CodePoint.isSurrogate = false := by
    rw [List.any_eq_false]
    exact fun c hc => by simp [CodePoint.isSurrogate_of_lt (h c hc)]
  obtain ⟨c, rest, rfl⟩ := List.exists_cons_of_ne_nil hne
  have hc := h c List.mem_cons_self
  rw [canonical?, canonical?, List.any_append, hending, Bool.or_false]
  split
  · rw [bytes?_append, bytes?_of_isAscii h]
    cases bytes? t with
    | none => rfl
    | some first =>
      have hbytes := ofBytes_append (a := UInt8.ofNat c.val)
        (by rw [CodePoint.toNat_ofNat_val hc]; exact hc) (Text.asciiBytes rest) first
      have hself := ofBytes_asciiBytes h
      show some (ofBytes (first ++ UInt8.ofNat c.val :: Text.asciiBytes rest)) = _
      rw [hbytes]
      rw [Text.asciiBytes, List.map_cons] at hself
      rw [Text.asciiBytes, hself]
      rfl
  · rfl

end FileName

/-! ## The last name of a path -/

/-- The end of a name: some ASCII in which no name ends. -/
structure Text.IsEnding (ending : Text) : Prop where
  isAscii : ending.IsAscii
  ne_nil : ending ≠ []
  no_slash : CodePoint.ofChar '/' ∉ ending
  no_nul : ∀ c ∈ ending, c.val ≠ 0

namespace DiskPath

/-- Whether a text with an ending makes a path does not depend on the ending, and all of the path
but the end of its last name is the same. -/
theorem steps?_append (t : Text) :
    (∃ fault, ∀ ending : Text, ending.IsEnding → steps? (t ++ ending) = .error fault) ∨
      ∃ way last, ∀ ending : Text, ending.IsEnding →
        steps? (t ++ ending) = .ok (way ++ [last ++ ending]) := by
  have hcanonical : ∀ ending : Text, ending.IsEnding →
      FileName.canonical? (t ++ ending) = (FileName.canonical? t).map (· ++ ending) :=
    fun ending he => FileName.canonical?_append he.isAscii he.ne_nil t
  cases hname : FileName.canonical? t with
  | none =>
    refine Or.inl ⟨.noBytes, fun ending he => ?_⟩
    rw [steps?, hcanonical ending he, hname]
    rfl
  | some name =>
    have hnul : ∀ ending : Text, ending.IsEnding →
        (name ++ ending).any (·.val == 0) = name.any (·.val == 0) := by
      intro ending he
      have hending : ending.any (·.val == 0) = false := by
        rw [List.any_eq_false]
        exact fun c hc => by simpa using he.no_nul c hc
      rw [List.any_append, hending, Bool.or_false]
    by_cases hzero : name.any (·.val == 0) = true
    · refine Or.inl ⟨.hasNul, fun ending he => ?_⟩
      rw [steps?, hcanonical ending he, hname, Option.map_some]
      dsimp only
      rw [hnul ending he, if_pos hzero]
    · obtain ⟨pieces, last, hpieces⟩ := Text.splitOn_append_ending (CodePoint.ofChar '/') name
      refine Or.inr ⟨pieces.filter (· ≠ []), last, fun ending he => ?_⟩
      rw [steps?, hcanonical ending he, hname, Option.map_some]
      dsimp only
      rw [hnul ending he, if_neg hzero, hpieces ending he.no_slash]
      simp

/-- The same for the path that a text leads to from a folder. -/
theorem followed?_append (path : DiskPath) (t : Text) :
    (∃ fault, ∀ ending : Text, ending.IsEnding → path.followed? (t ++ ending) = .error fault) ∨
      ∃ way last, ∀ ending : Text, ending.IsEnding →
        path.followed? (t ++ ending) = .ok (way ++ [last ++ ending]) := by
  have hstart : ∃ absolute : Bool, ∀ ending : Text, ending.IsEnding →
      Text.startsWith (t ++ ending) (Text.ofString "/") = absolute := by
    cases t with
    | nil =>
      refine ⟨false, fun ending he => ?_⟩
      obtain ⟨c, rest, rfl⟩ := List.exists_cons_of_ne_nil he.ne_nil
      have hc : CodePoint.ofChar '/' ≠ c := fun e => he.no_slash (e ▸ List.mem_cons_self)
      show (CodePoint.ofChar '/' == c && true) = false
      rw [Bool.and_true, beq_eq_false_iff_ne]
      exact hc
    | cons c t => exact ⟨CodePoint.ofChar '/' == c, fun ending _ => Bool.and_true _⟩
  obtain ⟨absolute, habsolute⟩ := hstart
  rcases steps?_append t with ⟨fault, hfault⟩ | ⟨way, last, hway⟩
  · refine Or.inl ⟨fault, fun ending he => ?_⟩
    rw [followed?, hfault ending he]
    rfl
  · cases absolute with
    | true =>
      refine Or.inr ⟨way, last, fun ending he => ?_⟩
      rw [followed?, hway ending he, habsolute ending he]
      rfl
    | false =>
      refine Or.inr ⟨path ++ way, last, fun ending he => ?_⟩
      rw [followed?, hway ending he, habsolute ending he, List.append_assoc]
      rfl

end DiskPath

/-- The file of a key and the one that is written first lie in one folder, under names that
differ in their ending. -/
theorem Backing.draftPath?_of_textPath? {path final : DiskPath} {key : Text}
    (h : textPath? path key = .ok final) :
    ∃ way last, final = way ++ [last ++ Text.ofString ".json"] ∧
      draftPath? path key = .ok (way ++ [last ++ Text.ofString ".json.tmp"]) := by
  have hjson : Text.IsEnding ".json" :=
    ⟨by unfold Text.IsAscii; decide, by decide, by decide, by decide⟩
  have hdraft : Text.IsEnding ".json.tmp" :=
    ⟨by unfold Text.IsAscii; decide, by decide, by decide, by decide⟩
  rw [textPath?] at h
  rcases path.followed?_append key with ⟨fault, hfault⟩ | ⟨way, last, hway⟩
  · rw [hfault _ hjson] at h
    cases h
  · rw [hway _ hjson] at h
    cases h
    exact ⟨way, last, rfl, hway _ hdraft⟩

end VirtualShell
