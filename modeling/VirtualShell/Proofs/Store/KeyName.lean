import VirtualShell.Proofs.Store.FileName
/-
  Keys that are single steps of a path.

  A key without slashes and NULs stays one step, also where it is brought into its proper form as a
  name: a byte below 80 is in the bytes of a name only if it is in the text, and the other way
  round. So both files of such a key lie in the folder of the store itself, under the name of the
  key with an ending. A key can still have no name, or one that is too long for the disk.
-/

namespace VirtualShell

/-! ## ASCII in a name and in its bytes -/

namespace FileName

variable {t name : Text} {bytes : List UInt8} {c : CodePoint} {b : UInt8}

theorem le_of_strayByte? (h : strayByte? c = some b) : 0x80 ≤ b.toNat := by
  rw [strayByte?] at h
  split at h
  · rename_i hc
    simp only [Bool.and_eq_true, decide_eq_true_eq] at hc
    rw [← Option.some.inj h, UInt8.toNat_ofNat']
    omega
  · cases h

theorem mem_of_mem_bytes? (h : bytes? t = some bytes) (hb : b ∈ bytes) (hlow : b.toNat < 0x80) :
    CodePoint.ofNat b.toNat ∈ t := by
  induction t generalizing bytes with
  | nil =>
    cases h
    cases hb
  | cons c t ih =>
    rw [bytes?] at h
    split at h
    all_goals
      simp only [Option.bind_eq_bind, Option.bind_some, Option.bind_eq_some_iff, Option.pure_def,
        Option.some.injEq] at h
    -- stray bytes lie above, and of the forms only that of an ASCII code point has such a byte
    · rename_i stray hstray
      obtain ⟨more, hmore, rfl⟩ := h
      rcases List.mem_cons.mp hb with rfl | hb
      · have := le_of_strayByte? hstray
        omega
      · exact List.mem_cons_of_mem c (ih hmore hb)
    · obtain ⟨form, hform, more, hmore, rfl⟩ := h
      rcases List.mem_append.mp hb with hb | hb
      · rcases (CodePoint.utf8?_eq_some_iff.mp hform).low_or_high with ⟨hc, rfl⟩ | ⟨-, hhigh⟩
        · rw [List.mem_singleton.mp hb, CodePoint.toNat_ofNat_val hc, CodePoint.ofNat_val]
          exact List.mem_cons_self
        · have := hhigh b hb
          omega
      · exact List.mem_cons_of_mem c (ih hmore hb)

theorem isForm_of_leadingForm? {n : Nat} (h : leadingForm? bytes = some (c, n)) :
    c.IsForm (bytes.take n) := by
  obtain ⟨m, -, hform⟩ := List.exists_of_findSome?_eq_some h
  split at hform
  · rename_i found hread
    cases hform
    exact Text.ofUtf8?_eq_singleton_iff.mp hread
  · cases hform

theorem mem_of_mem_ofBytes (hc : c ∈ ofBytes bytes) (hlow : c.val < 0x80) :
    UInt8.ofNat c.val ∈ bytes := by
  fun_induction ofBytes bytes with
  | case1 => cases hc
  | case2 b rest d n hlead ih =>
    rcases List.mem_cons.mp hc with rfl | hc
    · rcases (isForm_of_leadingForm? hlead).low_or_high with ⟨-, hone⟩ | ⟨hhigh, -⟩
      · exact List.mem_of_mem_take (hone ▸ List.mem_singleton_self _)
      · omega
    · exact List.mem_cons_of_mem b (List.mem_of_mem_drop (ih hc))
  | case3 b rest hlead ih =>
    rcases List.mem_cons.mp hc with rfl | hc
    · -- the code points for stray bytes lie far above
      have hbyte := b.toNat_lt
      rw [CodePoint.ofNat, dif_pos (by omega)] at hlow
      dsimp only at hlow
      omega
    · exact List.mem_cons_of_mem b (ih hc)

/-- Of ASCII, the proper form of a name has nothing in it that the name does not have. -/
theorem mem_of_mem_canonical? (h : canonical? t = some name) (hc : c ∈ name)
    (hlow : c.val < 0x80) : c ∈ t := by
  rw [canonical?] at h
  split at h
  · obtain ⟨bytes, hbytes, rfl⟩ := Option.map_eq_some_iff.mp h
    have hmem := mem_of_mem_bytes? hbytes (mem_of_mem_ofBytes hc hlow)
      (by rwa [CodePoint.toNat_ofNat_val hlow])
    rwa [CodePoint.toNat_ofNat_val hlow, CodePoint.ofNat_val] at hmem
  · cases h
    exact hc

theorem canonical?_of_isEncodable (h : t.IsEncodable) : canonical? t = some t := by
  rw [canonical?, Text.any_isSurrogate_eq_false h]
  rfl

end FileName

/-! ## One step of a path -/

/-- A key that is one step of a path: no slash is in it and no NUL. -/
structure Text.IsStep (key : Text) : Prop where
  no_slash : CodePoint.ofChar '/' ∉ key
  no_nul : ∀ c ∈ key, c.val ≠ 0

instance : DecidablePred Text.IsStep := fun key =>
  decidable_of_iff (CodePoint.ofChar '/' ∉ key ∧ ∀ c ∈ key, c.val ≠ 0)
    ⟨fun h => ⟨h.1, h.2⟩, fun h => ⟨h.no_slash, h.no_nul⟩⟩

theorem Text.IsStep.of_canonical? {key name : Text} (hkey : key.IsStep)
    (h : FileName.canonical? key = some name) : name.IsStep := by
  refine ⟨fun hmem => hkey.no_slash ?_, fun c hc hnul => hkey.no_nul c ?_ hnul⟩
  · exact FileName.mem_of_mem_canonical? h hmem (by decide)
  · exact FileName.mem_of_mem_canonical? h hc (by omega)

theorem Text.IsStep.append_ending {name ending : Text} (h : name.IsStep) (he : ending.IsEnding) :
    (name ++ ending).IsStep := by
  refine ⟨?_, List.forall_mem_append.mpr ⟨h.no_nul, he.no_nul⟩⟩
  rw [List.mem_append, not_or]
  exact ⟨h.no_slash, he.no_slash⟩

theorem Text.startsWith_slash_eq_false {t : Text} (h : CodePoint.ofChar '/' ∉ t) :
    t.startsWith "/" = false := by
  cases t with
  | nil => rfl
  | cons c t =>
    rw [List.mem_cons, not_or] at h
    show (CodePoint.ofChar '/' == c && true) = false
    rw [Bool.and_true, beq_eq_false_iff_ne]
    exact h.1

namespace DiskPath

variable {key name ending : Text}

theorem steps?_of_isStep (h : FileName.canonical? key = some name) (hname : name.IsStep) :
    steps? key = .ok [name] := by
  have hnul : name.any (·.val == 0) = false := by
    rw [List.any_eq_false]
    exact fun c hc => by simpa using hname.no_nul c hc
  rw [steps?, h]
  dsimp only
  rw [if_neg (by simp [hnul]), Text.splitOn_of_not_mem hname.no_slash]
  rfl

/-- A step with an ending leads into the folder, to the name of the step with the ending. -/
theorem followed?_of_isStep (path : DiskPath) (hkey : key.IsStep) (he : ending.IsEnding) :
    path.followed? (key ++ ending) = match FileName.canonical? key with
      | none => .error .noBytes
      | some name => .ok (path ++ [name ++ ending]) := by
  have hcanonical := FileName.canonical?_append he.isAscii he.ne_nil key
  rw [followed?, Text.startsWith_slash_eq_false (hkey.append_ending he).no_slash]
  cases hname : FileName.canonical? key with
  | none =>
    rw [hname] at hcanonical
    rw [steps?, hcanonical]
    rfl
  | some name =>
    rw [hname] at hcanonical
    rw [steps?_of_isStep hcanonical ((hkey.of_canonical? hname).append_ending he)]
    rfl

/-! ## Lengths -/

theorem size_append (path way : DiskPath) : size (path ++ way) = size path + size way := by
  have hfoldl : ∀ (n : Nat) (way : DiskPath),
      way.foldl (fun n name => n + (FileName.size name + 1)) n = n + size way := by
    intro n way
    induction way generalizing n with
    | nil => rfl
    | cons name way ih =>
      show _ = n + List.foldl _ 0 (name :: way)
      rw [List.foldl_cons, List.foldl_cons, ih, ih]
      omega
  rw [size, List.foldl_append, hfoldl]
  rfl

theorem size_singleton (name : Text) : size [name] = FileName.size name + 1 := by
  rw [size, List.foldl_cons, List.foldl_nil]
  omega

theorem size_filter_le (p : Text → Bool) (path : DiskPath) : size (path.filter p) ≤ size path := by
  induction path with
  | nil => exact Nat.le_refl _
  | cons name path ih =>
    have hsize := size_append [name] path
    rw [List.singleton_append] at hsize
    rw [List.filter_cons]
    split
    · have hkept := size_append [name] (path.filter p)
      rw [List.singleton_append] at hkept
      omega
    · omega

theorem isTooLong_mono {path way : DiskPath} (h : size way ≤ size path)
    (hshort : path.isTooLong = false) : way.isTooLong = false := by
  rw [isTooLong, decide_eq_false_iff_not] at hshort ⊢
  omega

end DiskPath

theorem FileName.size_append_mono {ending longer : Text} (he : ending.IsAscii)
    (hl : longer.IsAscii) (h : ending.length ≤ longer.length) (name : Text) :
    size (name ++ ending) ≤ size (name ++ longer) := by
  rw [size, size, bytes?_append, bytes?_append, bytes?_of_isAscii he, bytes?_of_isAscii hl]
  cases bytes? name with
  | none => rfl
  | some first => simpa [Text.asciiBytes] using h

/-! ## The name of a key -/

/-- Whether a name is not too long for a disk, nor the path with the name at its end. -/
def DiskPath.Fits (path : DiskPath) (name : Text) : Prop :=
  FileName.size name ≤ 255 ∧ isTooLong (path ++ [name]) = false

instance (path : DiskPath) (name : Text) : Decidable (path.Fits name) :=
  inferInstanceAs (Decidable (_ ∧ _))

namespace Backing

/-- The name of the file that holds the text under a name. -/
abbrev textName (name : Text) : Text := name ++ ".json"

/-- The name of the file in which the text is first written. -/
abbrev draftName (name : Text) : Text := name ++ ".json.tmp"

/-- The name under which a folder keeps the text under a key, or why there is none. -/
def nameFor? (path : DiskPath) (key : Text) : Except StoreFault Text :=
  match FileName.canonical? key with
  | none => .error (.name .noBytes)
  | some name => if path.Fits (draftName name) then .ok name else .error (.disk .nameTooLong)

variable {path : DiskPath} {key name other : Text}

instance (path : DiskPath) (key name : Text) : Decidable (nameFor? path key = .ok name) :=
  match h : nameFor? path key with
  | .ok found => decidable_of_iff (found = name) (by simp)
  | .error fault => isFalse (by simp)

theorem isEnding_text : Text.IsEnding ".json" :=
  ⟨by unfold Text.IsAscii; decide, by decide, by decide, by decide⟩

theorem isEnding_draft : Text.IsEnding ".json.tmp" :=
  ⟨by unfold Text.IsAscii; decide, by decide, by decide, by decide⟩

theorem textName_injective (h : textName name = textName other) : name = other :=
  List.append_cancel_right h

theorem textName_ne_draftName (name other : Text) : textName name ≠ draftName other := by
  intro h
  have hlast := congrArg List.getLast? h
  rw [textName, draftName, List.getLast?_append_of_ne_nil _ (by decide),
    List.getLast?_append_of_ne_nil _ (by decide)] at hlast
  exact absurd hlast (by decide)

/-- Where there is room for the draft there is room for the text itself. -/
theorem fits_text (h : path.Fits (draftName name)) : path.Fits (textName name) := by
  obtain ⟨hsize, hlong⟩ := h
  have hmono := FileName.size_append_mono isEnding_text.isAscii isEnding_draft.isAscii
    (by decide) name
  refine ⟨hmono.trans hsize, DiskPath.isTooLong_mono ?_ hlong⟩
  rw [DiskPath.size_append, DiskPath.size_append, DiskPath.size_singleton, DiskPath.size_singleton]
  exact Nat.add_le_add_left (Nat.succ_le_succ hmono) _

theorem nameFor?_of_isEncodable (h : key.IsEncodable) (hfits : path.Fits (draftName key)) :
    nameFor? path key = .ok key := by
  rw [nameFor?, FileName.canonical?_of_isEncodable h]
  exact if_pos hfits

theorem textPath?_of_isStep (path : DiskPath) (hkey : key.IsStep) :
    textPath? path key = match FileName.canonical? key with
      | none => .error .noBytes
      | some name => .ok (path ++ [textName name]) :=
  path.followed?_of_isStep hkey isEnding_text

theorem draftPath?_of_isStep (path : DiskPath) (hkey : key.IsStep) :
    draftPath? path key = match FileName.canonical? key with
      | none => .error .noBytes
      | some name => .ok (path ++ [draftName name]) :=
  path.followed?_of_isStep hkey isEnding_draft

end Backing

end VirtualShell
