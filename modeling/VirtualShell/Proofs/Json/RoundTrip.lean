import VirtualShell.Proofs.Json.Distinct
import VirtualShell.Proofs.Json.Number
import VirtualShell.Proofs.Json.Quotation
import VirtualShell.Proofs.Text
/-
  JSON read back.

  A value that is written is read whatever stands after it, if its integers do not have too many
  digits. What comes back is `merged`: surrogate pairs in two halves are put together, and of
  the fields of an object that then have one key the last counts. The value itself comes back
  if its texts hold no such pair and no object has a key twice. Every call of the reader takes
  one from its bound and at least one code point from the text, so twice the length of what is
  written is bound enough.
-/

namespace VirtualShell.Json

/-- A value whose numbers are read back. -/
inductive HasReadableNumbers : Json → Prop
  | null : HasReadableNumbers .null
  | boolean (b : Bool) : HasReadableNumbers (.boolean b)
  | number {n : Number} : n.IsReadable → HasReadableNumbers (.number n)
  | text (t : Text) : HasReadableNumbers (.text t)
  | array {items : List Json} : (∀ v ∈ items, HasReadableNumbers v) →
    HasReadableNumbers (.array items)
  | object {fields : List (Text × Json)} : (∀ p ∈ fields, HasReadableNumbers p.2) →
    HasReadableNumbers (.object fields)

mutual

/-- The value that is read where this one was written. -/
def merged : Json → Json
  | .null => .null
  | .boolean b => .boolean b
  | .number n => .number n
  | .text t => .text t.merged
  | .array items => .array (mergedItems items)
  | .object fields => .object (Entries.ofPairs (mergedFields fields))

/-- The same for each value of an array. -/
def mergedItems : List Json → List Json
  | [] => []
  | v :: rest => merged v :: mergedItems rest

/-- The same for each field of an object, its key included. -/
def mergedFields : List (Text × Json) → List (Text × Json)
  | [] => []
  | (key, v) :: rest => (key.merged, merged v) :: mergedFields rest

end

theorem mergedItems_eq_map (items : List Json) : mergedItems items = items.map merged := by
  induction items with
  | nil => rfl
  | cons v rest ih => rw [mergedItems, List.map_cons, ih]

/-- A field as it is read. -/
def mergedField (p : Text × Json) : Text × Json := (p.1.merged, p.2.merged)

theorem mergedFields_eq_map (fields : List (Text × Json)) :
    mergedFields fields = fields.map mergedField := by
  induction fields with
  | nil => rfl
  | cons p rest ih =>
    rw [mergedFields, List.map_cons, ih]
    rfl

/-- A value that the reader gives back. -/
inductive IsReadable : Json → Prop
  | null : IsReadable .null
  | boolean (b : Bool) : IsReadable (.boolean b)
  | number {n : Number} : n.IsReadable → IsReadable (.number n)
  | text {t : Text} : t.IsUnpaired → IsReadable (.text t)
  | array {items : List Json} : (∀ v ∈ items, IsReadable v) → IsReadable (.array items)
  | object {fields : List (Text × Json)} : (Entries.keys fields).Nodup →
    (∀ p ∈ fields, p.1.IsUnpaired) → (∀ p ∈ fields, IsReadable p.2) →
    IsReadable (.object fields)

theorem IsReadable.hasReadableNumbers {v : Json} (h : v.IsReadable) : v.HasReadableNumbers := by
  induction h with
  | null => exact .null
  | boolean b => exact .boolean b
  | number hn => exact .number hn
  | text => exact .text _
  | array _ ih => exact .array ih
  | object _ _ _ ih => exact .object ih

theorem IsReadable.merged_eq_self {v : Json} (h : v.IsReadable) : v.merged = v := by
  induction h with
  | null | boolean | number => rw [merged]
  | text ht => rw [merged, ht.merged_eq_self]
  | array _ ih =>
    rw [merged, mergedItems_eq_map, List.map_congr_left ih, List.map_id']
  | @object fields hnodup hkeys _ ih =>
    have hfields : fields.map mergedField = fields := by
      refine (List.map_congr_left fun p hp => ?_).trans (List.map_id fields)
      rw [mergedField, (hkeys p hp).merged_eq_self, ih p hp]
      rfl
    rw [merged, mergedFields_eq_map, hfields, Entries.ofPairs_eq hnodup]

/-! ## How a value starts -/

theorem skipSpace_cons {c : CodePoint} (h : isSpace c = false) (t : Text) :
    skipSpace (c :: t) = c :: t := by
  rw [skipSpace, List.dropWhile_cons, h]
  rfl

theorem skipSpace_space {c : CodePoint} (h : isSpace c = false) (t : Text) :
    skipSpace (CodePoint.ofChar ' ' :: c :: t) = c :: t :=
  skipSpace_cons h t

/-- What the text of a number, of a word or of a name starts with. -/
structure StartsAtom (c : CodePoint) : Prop where
  not_space : isSpace c = false
  ne_quote : c ≠ CodePoint.ofChar '"'
  ne_bracket : c ≠ CodePoint.ofChar '['
  ne_brace : c ≠ CodePoint.ofChar '{'
  ne_closing : c ≠ CodePoint.ofChar ']'

theorem startsAtom_of_isAsciiDigit {c : CodePoint} (h : c.isAsciiDigit = true) : StartsAtom c := by
  have hval := h
  simp only [CodePoint.isAsciiDigit, Bool.and_eq_true, decide_eq_true_eq] at hval
  refine ⟨?_, CodePoint.ne_of_isAsciiDigit h rfl, CodePoint.ne_of_isAsciiDigit h rfl,
    CodePoint.ne_of_isAsciiDigit h rfl, CodePoint.ne_of_isAsciiDigit h rfl⟩
  simp only [isSpace, Bool.or_eq_false_iff, beq_eq_false_iff_ne]
  omega

theorem startsAtom_of_readAtom {t : Text} {r : Json × Text} (h : readAtom t = .ok r) :
    ∃ c more, t = c :: more ∧ StartsAtom c := by
  cases t with
  | nil => cases h
  | cons c more =>
    refine ⟨c, more, rfl, ?_⟩
    by_cases hword : c ∈ Text.ofString "ntfNI-"
    · have hall : ∀ c ∈ Text.ofString "ntfNI-", isSpace c = false ∧ c ≠ CodePoint.ofChar '"' ∧
          c ≠ CodePoint.ofChar '[' ∧ c ≠ CodePoint.ofChar '{' ∧ c ≠ CodePoint.ofChar ']' := by
        decide
      obtain ⟨hspace, hquote, hbracket, hbrace, hclosing⟩ := hall c hword
      exact ⟨hspace, hquote, hbracket, hbrace, hclosing⟩
    · have hne : ∀ d ∈ Text.ofString "ntfNI-", c ≠ d := by
        rintro d hd rfl
        exact hword hd
      rw [readAtom.eq_def] at h
      dsimp only at h
      rw [if_neg (hne _ (by decide)), if_neg (hne _ (by decide)), if_neg (hne _ (by decide)),
        if_neg (hne _ (by decide)), if_neg (hne _ (by decide)), if_neg (hne _ (by decide))] at h
      obtain ⟨d, others, hd, hdigit⟩ := head_of_readUnsignedNumber h
      cases hd
      exact startsAtom_of_isAsciiDigit hdigit

/-- An atom is read as one. -/
theorem readValue_of_readAtom {t : Text} {r : Json × Text} (h : readAtom t = .ok r) (n : Nat) :
    readValue (n + 1) t = .ok r := by
  obtain ⟨c, more, rfl, hc⟩ := startsAtom_of_readAtom h
  rw [readValue, if_neg hc.ne_quote, if_neg hc.ne_bracket, if_neg hc.ne_brace, h]

theorem endsNumber_nil : Text.EndsNumber [] := by
  rintro c more e
  cases e

/-- No value starts with blank space or with the end of a list. -/
theorem head_write {v : Json} (hv : v.HasReadableNumbers) :
    ∃ c more, v.write = c :: more ∧ isSpace c = false ∧ c ≠ CodePoint.ofChar ']' := by
  cases hv with
  | null => exact ⟨_, _, rfl, by decide, by decide⟩
  | boolean b => cases b <;> exact ⟨_, _, rfl, by decide, by decide⟩
  | number hn =>
    obtain ⟨c, more, hc, hstart⟩ :=
      startsAtom_of_readAtom (readAtom_writeNumber hn endsNumber_nil)
    rw [List.append_nil] at hc
    exact ⟨c, more, hc, hstart.not_space, hstart.ne_closing⟩
  | text | array | object => exact ⟨_, _, rfl, by decide, by decide⟩

/-! ## Lists and objects -/

theorem writeItems_eq_map (items : List Json) : writeItems items = items.map write := by
  induction items with
  | nil => rfl
  | cons v rest ih => rw [writeItems, List.map_cons, ih]

/-- A field as it is written. -/
def writeField (p : Text × Json) : Text := writeText p.1 ++ Text.ofString ": " ++ p.2.write

theorem writeFields_eq_map (fields : List (Text × Json)) :
    writeFields fields = fields.map writeField := by
  induction fields with
  | nil => rfl
  | cons p rest ih =>
    rw [writeFields, List.map_cons, ih]
    rfl

/-- The value is read, merged, when the bound allows for twice its length. -/
def ReadsBack (v : Json) : Prop :=
  ∀ (n : Nat) (rest : Text), 2 * v.write.length ≤ n → rest.EndsNumber →
    readValue n (v.write ++ rest) = .ok (v.merged, rest)

theorem endsNumber_cons {c : CodePoint} (h : c ∈ Text.ofString ",]\x7d") (t : Text) :
    Text.EndsNumber (c :: t) := by
  rintro d more e
  cases e
  have hall : ∀ c ∈ Text.ofString ",]\x7d", c.isAsciiDigit = false ∧ c ≠ CodePoint.ofChar '.' ∧
      c ≠ CodePoint.ofChar 'e' ∧ c ≠ CodePoint.ofChar 'E' := by decide
  exact hall c h

theorem head_join_write {v : Json} (hv : v.HasReadableNumbers) (items : List Json) :
    ∃ c more, Text.join (Text.ofString ", ") ((v :: items).map write) = c :: more ∧
      isSpace c = false ∧ c ≠ CodePoint.ofChar ']' := by
  obtain ⟨c, more, hc, hspace, hclosing⟩ := head_write hv
  cases items with
  | nil => exact ⟨c, more, by rw [List.map_singleton, Text.join_singleton, hc], hspace, hclosing⟩
  | cons w items =>
    rw [List.map_cons, List.map_cons, Text.join_cons_cons, hc]
    exact ⟨c, _, rfl, hspace, hclosing⟩

theorem readItems_write {v : Json} {items : List Json}
    (hreadable : ∀ w ∈ v :: items, w.HasReadableNumbers) (hback : ∀ w ∈ v :: items, w.ReadsBack) :
    ∀ (n : Nat) (rest : Text),
      2 * (Text.join (Text.ofString ", ") ((v :: items).map write)).length + 1 ≤ n →
      readItems n (Text.join (Text.ofString ", ") ((v :: items).map write) ++
        CodePoint.ofChar ']' :: rest) = .ok ((v :: items).map merged, rest) := by
  induction items generalizing v with
  | nil =>
    intro n rest hn
    obtain ⟨n, rfl⟩ := Nat.exists_eq_succ_of_ne_zero (Nat.ne_of_gt (Nat.zero_lt_of_lt hn))
    rw [List.map_singleton, Text.join_singleton] at hn ⊢
    have hread := hback v List.mem_cons_self n (CodePoint.ofChar ']' :: rest) (by omega)
      (endsNumber_cons (by decide) _)
    rw [readItems, hread]
    rfl
  | cons w items ih =>
    intro n rest hn
    obtain ⟨n, rfl⟩ := Nat.exists_eq_succ_of_ne_zero (Nat.ne_of_gt (Nat.zero_lt_of_lt hn))
    have htail := ih (fun u hu => hreadable u (List.mem_cons_of_mem _ hu))
      (fun u hu => hback u (List.mem_cons_of_mem _ hu)) n rest
    obtain ⟨c, more, hc, hspace, -⟩ := head_join_write (hreadable w (by simp)) items
    -- of what follows the comma only its first code point matters
    rw [List.map_cons, List.map_cons, Text.join_cons_cons, ← List.map_cons] at hn ⊢
    generalize Text.join (Text.ofString ", ") ((w :: items).map write) = others at *
    have hskip : skipSpace (CodePoint.ofChar ' ' :: (others ++ CodePoint.ofChar ']' :: rest)) =
        others ++ CodePoint.ofChar ']' :: rest := by
      rw [hc]
      exact skipSpace_space hspace _
    simp only [List.length_append] at hn
    have hread := hback v List.mem_cons_self n
      (CodePoint.ofChar ',' :: CodePoint.ofChar ' ' :: (others ++ CodePoint.ofChar ']' :: rest))
      (by omega) (endsNumber_cons (by decide) _)
    have hlay : v.write ++ Text.ofString ", " ++ others ++ CodePoint.ofChar ']' :: rest =
        v.write ++ CodePoint.ofChar ',' :: CodePoint.ofChar ' ' ::
          (others ++ CodePoint.ofChar ']' :: rest) := by
      simp [Text.ofString]
    have hcomma : (Text.ofString ", ").length = 2 := rfl
    rw [hlay, readItems, hread]
    dsimp only [bind, Except.bind]
    rw [skipSpace_cons rfl]
    dsimp only
    rw [if_neg (by decide), if_pos rfl, hskip, htail (by omega)]
    rfl

theorem writeText_append (t rest : Text) :
    writeText t ++ rest = CodePoint.ofChar '"' ::
      (t.flatMap CodePoint.jsonEscaped ++ CodePoint.ofChar '"' :: rest) := by
  simp [writeText, Text.ofString]

theorem length_lt_writeText (t : Text) : t.length + 2 ≤ (writeText t).length := by
  have hescaped : t.length ≤ (t.flatMap CodePoint.jsonEscaped).length := by
    induction t with
    | nil => exact Nat.le_refl 0
    | cons c t ih =>
      have hc : 1 ≤ c.jsonEscaped.length := by
        rcases jsonEscaped_cases c with ⟨hc, -⟩ | ⟨e, hc, -⟩ <;> simp [hc]
      rw [List.flatMap_cons, List.length_append, List.length_cons]
      omega
  have hquotes : (writeText t).length = (t.flatMap CodePoint.jsonEscaped).length + 2 := by
    simp [writeText, Text.ofString]
  omega

theorem head_join_writeField (p : Text × Json) (fields : List (Text × Json)) :
    ∃ more, Text.join (Text.ofString ", ") ((p :: fields).map writeField) =
      CodePoint.ofChar '"' :: more := by
  cases fields with
  | nil => exact ⟨_, by rw [List.map_singleton, Text.join_singleton]; rfl⟩
  | cons q fields => exact ⟨_, by rw [List.map_cons, List.map_cons, Text.join_cons_cons]; rfl⟩

theorem writeField_append (p : Text × Json) (t : Text) :
    writeField p ++ t = CodePoint.ofChar '"' :: (p.1.flatMap CodePoint.jsonEscaped ++
      CodePoint.ofChar '"' :: CodePoint.ofChar ':' :: CodePoint.ofChar ' ' :: (p.2.write ++ t)) := by
  rw [writeField, List.append_assoc, List.append_assoc, writeText_append]
  rfl

/-- What reading a field comes to, given what stands after it. -/
theorem readPairs_step {p : Text × Json} (hp : p.2.HasReadableNumbers)
    (hback : p.2.ReadsBack) {n : Nat} {c : CodePoint} {t : Text}
    (hn : 2 * (writeField p).length ≤ n) (hc : c ∈ Text.ofString ",]\x7d") :
    readPairs (n + 1) (writeField p ++ c :: t) =
      if c = CodePoint.ofChar '}' then .ok ([mergedField p], t)
      else if c = CodePoint.ofChar ',' then
        readPairs n (skipSpace t) >>= fun found => .ok (mergedField p :: found.1, found.2)
      else .error .malformed := by
  have hlength := length_lt_writeText p.1
  have hfield : (writeField p).length = (writeText p.1).length + 2 + p.2.write.length := by
    simp [writeField, Text.ofString]
    omega
  have hspace : isSpace c = false := by
    have hall : ∀ c ∈ Text.ofString ",]\x7d", isSpace c = false := by decide
    exact hall c hc
  obtain ⟨d, more, hd, hdspace, -⟩ := head_write hp
  have hskip : skipSpace (CodePoint.ofChar ' ' :: (p.2.write ++ c :: t)) = p.2.write ++ c :: t := by
    rw [hd]
    exact skipSpace_space hdspace _
  rw [writeField_append, readPairs, if_pos rfl, readString_escaped p.1 n _ (by omega)]
  dsimp only [bind, Except.bind]
  rw [skipSpace_cons rfl]
  dsimp only
  rw [if_pos rfl, hskip, hback n _ (by omega) (endsNumber_cons hc t)]
  dsimp only
  rw [skipSpace_cons hspace]
  rfl

theorem readPairs_write {p : Text × Json} {fields : List (Text × Json)}
    (hreadable : ∀ q ∈ p :: fields, q.2.HasReadableNumbers)
    (hback : ∀ q ∈ p :: fields, q.2.ReadsBack) :
    ∀ (n : Nat) (rest : Text),
      2 * (Text.join (Text.ofString ", ") ((p :: fields).map writeField)).length + 1 ≤ n →
      readPairs n (Text.join (Text.ofString ", ") ((p :: fields).map writeField) ++
        CodePoint.ofChar '}' :: rest) = .ok ((p :: fields).map mergedField, rest) := by
  induction fields generalizing p with
  | nil =>
    intro n rest hn
    obtain ⟨n, rfl⟩ := Nat.exists_eq_succ_of_ne_zero (Nat.ne_of_gt (Nat.zero_lt_of_lt hn))
    rw [List.map_singleton, Text.join_singleton] at hn ⊢
    rw [readPairs_step (hreadable p List.mem_cons_self)
      (hback p List.mem_cons_self) (by omega) (by decide), if_pos rfl]
    rfl
  | cons q fields ih =>
    intro n rest hn
    obtain ⟨n, rfl⟩ := Nat.exists_eq_succ_of_ne_zero (Nat.ne_of_gt (Nat.zero_lt_of_lt hn))
    have htail := ih (fun r hr => hreadable r (List.mem_cons_of_mem _ hr))
      (fun r hr => hback r (List.mem_cons_of_mem _ hr)) n rest
    obtain ⟨more, hmore⟩ := head_join_writeField q fields
    rw [List.map_cons, List.map_cons, Text.join_cons_cons, ← List.map_cons] at hn ⊢
    generalize Text.join (Text.ofString ", ") ((q :: fields).map writeField) = others at *
    have hskip : skipSpace (CodePoint.ofChar ' ' :: (others ++ CodePoint.ofChar '}' :: rest)) =
        others ++ CodePoint.ofChar '}' :: rest := by
      rw [hmore]
      rfl
    simp only [List.length_append] at hn
    have hlay : writeField p ++ Text.ofString ", " ++ others ++ CodePoint.ofChar '}' :: rest =
        writeField p ++ CodePoint.ofChar ',' :: CodePoint.ofChar ' ' ::
          (others ++ CodePoint.ofChar '}' :: rest) := by
      simp [Text.ofString]
    have hcomma : (Text.ofString ", ").length = 2 := rfl
    rw [hlay, readPairs_step (hreadable p List.mem_cons_self)
      (hback p List.mem_cons_self) (by omega) (by decide), if_neg (by decide), if_pos rfl, hskip,
      htail (by omega)]
    rfl

/-! ## Any value -/

/-- What is read as an atom is read back. -/
theorem readsBack_of_readAtom {v : Json} (hself : v.merged = v)
    (h : ∀ rest : Text, rest.EndsNumber → readAtom (v.write ++ rest) = .ok (v, rest)) :
    v.ReadsBack := by
  intro n rest hn hrest
  have hread := h rest hrest
  -- the bound is no zero, because an empty text is not read as an atom
  obtain ⟨n, rfl⟩ : ∃ m, n = m + 1 := by
    refine Nat.exists_eq_succ_of_ne_zero ?_
    rintro rfl
    have hempty : v.write = [] := List.length_eq_zero_iff.mp (by omega)
    have hnone := h [] endsNumber_nil
    rw [hempty] at hnone
    cases hnone
  rw [hself]
  exact readValue_of_readAtom hread n

theorem readsBack_text (t : Text) : (Json.text t).ReadsBack := by
  intro n rest hn _
  have hlength := length_lt_writeText t
  rw [write] at hn ⊢
  obtain ⟨n, rfl⟩ := Nat.exists_eq_succ_of_ne_zero (show n ≠ 0 by omega)
  rw [writeText_append, readValue, if_pos rfl, readString_escaped t n rest (by omega)]
  rfl

theorem readsBack_array {items : List Json} (hreadable : ∀ v ∈ items, v.HasReadableNumbers)
    (hback : ∀ v ∈ items, v.ReadsBack) : (Json.array items).ReadsBack := by
  intro n rest hn _
  rw [write, writeItems_eq_map] at hn ⊢
  simp only [List.length_append] at hn
  have hbracket : (Text.ofString "[").length = 1 := rfl
  obtain ⟨n, rfl⟩ := Nat.exists_eq_succ_of_ne_zero (show n ≠ 0 by omega)
  rw [List.append_assoc, List.append_assoc]
  cases items with
  | nil => rfl
  | cons v items =>
    have hitems := readItems_write hreadable hback n rest (by omega)
    obtain ⟨c, more, hc, hspace, hclosing⟩ :=
      head_join_write (hreadable v List.mem_cons_self) items
    rw [hc] at hitems ⊢
    show readValue (n + 1) (CodePoint.ofChar '[' :: c :: (more ++ CodePoint.ofChar ']' :: rest)) = _
    rw [readValue, if_neg (by decide), if_pos rfl, skipSpace_cons hspace]
    dsimp only
    rw [if_neg hclosing, ← List.cons_append, hitems, merged, mergedItems_eq_map]
    rfl

theorem readsBack_object {fields : List (Text × Json)}
    (hreadable : ∀ p ∈ fields, p.2.HasReadableNumbers)
    (hback : ∀ p ∈ fields, p.2.ReadsBack) : (Json.object fields).ReadsBack := by
  intro n rest hn _
  rw [write, writeFields_eq_map] at hn ⊢
  simp only [List.length_append] at hn
  have hbrace : (Text.ofString "\x7b").length = 1 := rfl
  obtain ⟨n, rfl⟩ := Nat.exists_eq_succ_of_ne_zero (show n ≠ 0 by omega)
  rw [List.append_assoc, List.append_assoc]
  cases fields with
  | nil => rfl
  | cons p fields =>
    have hpairs := readPairs_write hreadable hback n rest (by omega)
    obtain ⟨more, hmore⟩ := head_join_writeField p fields
    rw [hmore] at hpairs ⊢
    show readValue (n + 1) (CodePoint.ofChar '{' :: CodePoint.ofChar '"' ::
      (more ++ CodePoint.ofChar '}' :: rest)) = _
    rw [readValue, if_neg (by decide), if_neg (by decide), if_pos rfl, skipSpace_cons rfl]
    dsimp only
    rw [if_neg (by decide), ← List.cons_append, hpairs, merged, mergedFields_eq_map]
    rfl

/-- A value with readable numbers is read, merged, wherever it stands. -/
theorem HasReadableNumbers.readsBack {v : Json} (h : v.HasReadableNumbers) : v.ReadsBack := by
  induction h with
  | null =>
    exact readsBack_of_readAtom rfl fun rest _ => expectWord_append (Text.ofString "null") _ rest
  | boolean b =>
    cases b with
    | true =>
      exact readsBack_of_readAtom rfl fun rest _ => expectWord_append (Text.ofString "true") _ rest
    | false =>
      exact readsBack_of_readAtom rfl fun rest _ => expectWord_append (Text.ofString "false") _ rest
  | number hn => exact readsBack_of_readAtom rfl fun rest hrest => readAtom_writeNumber hn hrest
  | text t => exact readsBack_text t
  | array hitems ih => exact readsBack_array hitems ih
  | object hfields ih => exact readsBack_object hfields ih

/-- A value with readable numbers comes back merged from its text. -/
theorem read_write_merged {v : Json} (h : v.HasReadableNumbers) : read v.write = .ok v.merged := by
  have hback := h.readsBack (2 * v.write.length + 2) [] (by omega) endsNumber_nil
  obtain ⟨c, more, hc, hspace, -⟩ := head_write h
  have hskip : skipSpace v.write = v.write := by
    rw [hc]
    exact skipSpace_cons hspace more
  rw [List.append_nil] at hback
  rw [read, hskip, hback]
  rfl

/-- A readable value comes back from its text. -/
theorem read_write {v : Json} (h : v.IsReadable) : read v.write = .ok v := by
  rw [read_write_merged h.hasReadableNumbers, h.merged_eq_self]

end VirtualShell.Json
