import Mathlib.Data.List.Destutter
import Mathlib.Data.List.DropRight
import Mathlib.Data.List.Induction
import VirtualShell.Session.History
/-
  What a history holds, and how one goes back and forth in it.

  Repeats are told by the last line that is kept, and of the lines only the latest are kept. The
  two do not get in each other's way: what is dropped stands at the other end, and where nothing at
  all is kept nothing is lost by taking a line for a new one. So the lines are the latest of those
  that were entered, each run of repeats counted once. The place never leaves them, and as many
  steps forth as back lead to where one was.
-/

namespace VirtualShell

/-- A call of a history. -/
inductive HistoryCall where
  | add (line : Text)
  | previous
  | next
  deriving DecidableEq, Repr

namespace History

/-! ## Runs of repeats -/

section Repeats

variable {α : Type}

theorem destutter'_ne_concat [DecidableEq α] (a : α) (l : List α) (x : α) :
    (l ++ [x]).destutter' (· ≠ ·) a =
      if (l.destutter' (· ≠ ·) a).getLast? = some x then l.destutter' (· ≠ ·) a
      else l.destutter' (· ≠ ·) a ++ [x] := by
  induction l generalizing a with
  | nil =>
    rw [List.nil_append, List.destutter'_singleton, List.destutter'_nil, List.getLast?_singleton]
    by_cases h : a = x <;> simp [h]
  | cons b l ih =>
    rw [List.cons_append]
    by_cases h : a = b
    · rw [List.destutter'_cons_neg _ (not_not.mpr h), List.destutter'_cons_neg _ (not_not.mpr h)]
      exact ih a
    · obtain ⟨first, rest, hrest⟩ :=
        List.exists_cons_of_ne_nil (List.destutter'_ne_nil l (· ≠ ·) (a := b))
      rw [List.destutter'_cons_pos _ h, List.destutter'_cons_pos _ h, ih b, hrest,
        List.getLast?_cons_cons]
      split <;> rfl

/-- One more element at the end of a list is a repeat just if it is the last that is kept. -/
theorem destutter_ne_concat [DecidableEq α] (l : List α) (x : α) :
    (l ++ [x]).destutter (· ≠ ·) =
      if (l.destutter (· ≠ ·)).getLast? = some x then l.destutter (· ≠ ·)
      else l.destutter (· ≠ ·) ++ [x] := by
  cases l with
  | nil => rfl
  | cons a l => exact destutter'_ne_concat a l x

theorem getLast?_rtake_succ (l : List α) (n : Nat) : (l.rtake (n + 1)).getLast? = l.getLast? := by
  induction l using List.reverseRecOn with
  | nil => simp
  | append_singleton l x => simp

theorem length_rtake (l : List α) (n : Nat) : (l.rtake n).length = min n l.length := by
  simp only [List.rtake, List.length_drop]
  omega

/-- Where one element more than fits is held, it is the first that is to go. -/
theorem rtake_concat (l : List α) (x : α) (n : Nat) :
    (l ++ [x]).rtake n =
      if n < (l.rtake n ++ [x]).length then (l.rtake n ++ [x]).drop 1 else l.rtake n ++ [x] := by
  rw [List.length_append, List.length_singleton, length_rtake]
  cases n with
  | zero => simp
  | succ n =>
    rw [List.rtake_concat_succ, List.rtake, List.rtake]
    split
    · rename_i hfull
      rw [List.drop_append_of_le_length (by simp; omega), List.drop_drop]
      congr 2
      omega
    · rename_i hroom
      congr 2
      omega

end Repeats

/-! ## Calls -/

/-- A history in which nothing was entered yet, with room for some lines. -/
def fresh (limit : Nat) : History := { limit := limit }

/-- What a call comes back with, which for an added line is nothing, and the history after it. -/
def answer (h : History) : HistoryCall → Option Text × History
  | .add line => (none, h.add line)
  | .previous => h.previous
  | .next => (some h.next.1, h.next.2)

/-- The history after the calls. -/
def after (h : History) (calls : List HistoryCall) : History :=
  calls.foldl (fun h call => (h.answer call).2) h

/-- What the calls come back with, one after another. -/
def answers (h : History) : List HistoryCall → List (Option Text)
  | [] => []
  | call :: calls => (h.answer call).1 :: (h.answer call).2.answers calls

/-- The lines that the calls add, but for blank ones. -/
def entered (calls : List HistoryCall) : List Text :=
  calls.filterMap fun
    | .add line => if line.isBlank then none else some line
    | .previous | .next => none

variable {h : History}

theorem after_append (h : History) (calls more : List HistoryCall) :
    h.after (calls ++ more) = (h.after calls).after more := List.foldl_append

theorem after_cons (h : History) (call : HistoryCall) (calls : List HistoryCall) :
    h.after (call :: calls) = (h.answer call).2.after calls := rfl

theorem answers_append (h : History) (calls more : List HistoryCall) :
    h.answers (calls ++ more) = h.answers calls ++ (h.after calls).answers more := by
  induction calls generalizing h with
  | nil => rfl
  | cons call calls ih => exact congrArg ((h.answer call).1 :: ·) (ih _)

/-! ## The steps -/

/-- One step back leads to the line before the place, if there is one. -/
theorem previous_eq (h : History) :
    h.previous = (if h.position = 0 then none else some (h.lines.getD (h.position - 1) []),
      { h with position := h.position - 1 }) := by
  unfold previous
  split
  · rename_i hfirst
    cases h
    subst hfirst
    rfl
  · rfl

/-- One step forth leads to the line after the place, or past the last to an empty one. -/
theorem next_eq (h : History) :
    h.next = (h.lines.getD (h.position + 1) [],
      { h with position := min (h.position + 1) h.lines.length }) := by
  unfold next
  split
  · rename_i hlt
    rw [Nat.min_eq_left (Nat.le_of_lt hlt)]
  · rename_i hend
    rw [Nat.min_eq_right (by omega)]
    simp [List.getD, Nat.le_of_not_lt hend]

theorem limit_answer (h : History) (call : HistoryCall) : (h.answer call).2.limit = h.limit := by
  cases call with
  | add line => rfl
  | previous => simp only [answer, previous_eq]
  | next => simp only [answer, next_eq]

theorem limit_after (h : History) (calls : List HistoryCall) :
    (h.after calls).limit = h.limit := by
  induction calls generalizing h with
  | nil => rfl
  | cons call calls ih => exact (ih _).trans (limit_answer h call)

/-! ## The lines -/

/-- Entering a line that is not blank, where the lines are the latest of some without repeats. -/
theorem linesWith_of_eq_rtake {limit : Nat} {all : List Text} {line : Text}
    (hlimit : h.limit = limit) (hlines : h.lines = (all.destutter (· ≠ ·)).rtake limit)
    (hblank : line.isBlank = false) :
    h.linesWith line = ((all ++ [line]).destutter (· ≠ ·)).rtake limit := by
  generalize hkept : all.destutter (· ≠ ·) = kept at hlines
  have hconcat := rtake_concat kept line limit
  rw [linesWith, if_neg (by simp [hblank]), destutter_ne_concat, hkept, hlimit, hlines]
  simp only [Int.ofNat_lt]
  cases limit with
  | zero =>
    -- nothing is kept, so no line is taken for a repeat, and each is dropped at once
    rw [List.rtake_zero, List.rtake_zero]
    rfl
  | succ n =>
    rw [getLast?_rtake_succ]
    by_cases hsame : kept.getLast? = some line
    · rw [if_pos hsame, if_pos hsame, length_rtake, if_neg (by omega)]
    · rw [if_neg hsame, if_neg hsame, hconcat]

theorem lines_after (limit : Nat) (calls : List HistoryCall) :
    ((fresh limit).after calls).lines = ((entered calls).destutter (· ≠ ·)).rtake limit := by
  induction calls using List.reverseRecOn with
  | nil => simp [after, fresh, entered]
  | append_singleton calls call ih =>
    have hlimit : ((fresh limit).after calls).limit = limit := limit_after _ calls
    have hentered : entered (calls ++ [call]) = entered calls ++ entered [call] :=
      List.filterMap_append
    rw [after_append, hentered]
    generalize (fresh limit).after calls = h at ih hlimit
    cases call with
    | previous =>
      show h.previous.2.lines = _
      rw [previous_eq, ih]
      simp [entered]
    | next =>
      show h.next.2.lines = _
      rw [next_eq, ih]
      simp [entered]
    | add line =>
      show h.linesWith line = _
      cases hblank : line.isBlank with
      | true =>
        rw [linesWith, if_pos hblank, ih]
        simp [entered, hblank]
      | false =>
        rw [linesWith_of_eq_rtake hlimit ih hblank]
        simp [entered, hblank]

/-! ## The place -/

/-- The place is that of a line or past the last. -/
def IsPlaced (h : History) : Prop := h.position ≤ h.lines.length

theorem isPlaced_answer (hp : h.IsPlaced) (call : HistoryCall) : (h.answer call).2.IsPlaced := by
  unfold IsPlaced at *
  cases call with
  | add line => exact Nat.le_refl _
  | previous =>
    simp only [answer, previous_eq]
    omega
  | next =>
    simp only [answer, next_eq]
    omega

theorem isPlaced_after (hp : h.IsPlaced) (calls : List HistoryCall) : (h.after calls).IsPlaced := by
  induction calls generalizing h with
  | nil => exact hp
  | cons call calls ih => exact ih (isPlaced_answer hp call)

/-- Back from a place there is a line, unless it is the first. -/
theorem previous_of_isPlaced (hp : h.IsPlaced) (hpos : 0 < h.position) :
    ∃ hlt : h.position - 1 < h.lines.length,
      h.previous = (some h.lines[h.position - 1], { h with position := h.position - 1 }) := by
  unfold IsPlaced at hp
  have hlt : h.position - 1 < h.lines.length := by omega
  refine ⟨hlt, ?_⟩
  rw [previous_eq, if_neg (by omega)]
  simp [List.getD, hlt]

/-! ## Back and forth -/

/-- Some steps back pass the lines before the place, the nearest first. -/
theorem back_of_le (hp : h.IsPlaced) {k : Nat} (hk : k ≤ h.position) :
    h.answers (List.replicate k .previous) =
        (List.range k).map (fun j => h.lines[h.position - (j + 1)]?) ∧
      h.after (List.replicate k .previous) = { h with position := h.position - k } := by
  induction k with
  | zero => exact ⟨rfl, rfl⟩
  | succ k ih =>
    obtain ⟨hanswers, hafter⟩ := ih (by omega)
    have hplaced := isPlaced_after hp (List.replicate k .previous)
    rw [hafter] at hplaced
    obtain ⟨hlt, hprevious⟩ := previous_of_isPlaced hplaced (by simp only; omega)
    simp only [Nat.sub_sub] at hlt hprevious
    rw [List.replicate_succ', answers_append, after_append, hanswers, hafter, List.range_succ,
      List.map_append]
    constructor
    · apply congrArg (_ ++ ·)
      simp only [answers, answer, hprevious, List.map_cons, List.map_nil, List.getElem?_eq_getElem hlt]
    · simp only [after_cons, answer, hprevious]
      rfl

/-- Some steps forth pass the lines after the place, and past the last an empty one. -/
theorem forth_of_le {k : Nat} (hk : h.position + k ≤ h.lines.length) :
    h.answers (List.replicate k .next) =
        (List.range k).map (fun j => some (h.lines.getD (h.position + (j + 1)) [])) ∧
      h.after (List.replicate k .next) = { h with position := h.position + k } := by
  induction k with
  | zero => exact ⟨rfl, rfl⟩
  | succ k ih =>
    obtain ⟨hanswers, hafter⟩ := ih (by omega)
    have hroom : min (h.position + k + 1) h.lines.length = h.position + (k + 1) := by omega
    rw [List.replicate_succ', answers_append, after_append, hanswers, hafter, List.range_succ,
      List.map_append]
    constructor
    · apply congrArg (_ ++ ·)
      simp only [answers, answer, next_eq, Nat.add_assoc, List.map_cons, List.map_nil]
    · simp only [after_cons, answer, next_eq, hroom]
      rfl

/-! ## The result -/

/-- After any calls of a history that started with nothing in it. Its lines are the latest of those
that were entered and are not blank, with each run of repeats counted once. The place is that of a
line or past the last, where adding puts it. A step back leads to the line before the place, and
from the first nowhere; a step forth leads to the line after it, and from the last one past it, to
an empty line. Every line that a step looks up is there. As many steps forth as back, and not more
than there are, lead to the place again and past the same lines. -/
theorem recalls_entered (limit : Nat) (calls : List HistoryCall) :
    let h := (fresh limit).after calls
    h.lines = ((entered calls).destutter (· ≠ ·)).rtake limit ∧
    h.position ≤ h.lines.length ∧
    (∀ line, (h.add line).position = (h.add line).lines.length) ∧
    (h.position = 0 → h.previous = (none, h)) ∧
    (0 < h.position → ∃ hlt : h.position - 1 < h.lines.length,
      h.previous = (some h.lines[h.position - 1], { h with position := h.position - 1 })) ∧
    (∀ hlt : h.position + 1 < h.lines.length,
      h.next = (h.lines[h.position + 1], { h with position := h.position + 1 })) ∧
    (h.lines.length ≤ h.position + 1 → h.next = ([], { h with position := h.lines.length })) ∧
    ∀ k ≤ h.position,
      h.answers (List.replicate k .previous ++ List.replicate k .next) =
        (List.range k).map (fun j => h.lines[h.position - (j + 1)]?) ++
          (List.range k).map (fun j => some (h.lines.getD (h.position - k + (j + 1)) [])) ∧
      (∀ j < k, h.position - (j + 1) < h.lines.length) ∧
      h.after (List.replicate k .previous ++ List.replicate k .next) = h := by
  intro h
  have hplaced : h.IsPlaced := isPlaced_after (h := fresh limit) (Nat.le_refl 0) calls
  refine ⟨lines_after limit calls, hplaced, fun line => rfl, fun hfirst => ?_,
    previous_of_isPlaced hplaced, fun hlt => ?_, fun hend => ?_, fun k hk => ?_⟩
  · rw [previous, if_pos hfirst]
  · rw [next, if_pos hlt]
    simp [List.getD, hlt]
  · rw [next, if_neg (by omega)]
  · obtain ⟨hback, hthere⟩ := back_of_le hplaced hk
    unfold IsPlaced at hplaced
    have hroom : h.position - k + k ≤ h.lines.length := by omega
    obtain ⟨hforth, hreturned⟩ :=
      forth_of_le (h := { h with position := h.position - k }) hroom
    refine ⟨?_, fun j hj => by omega, ?_⟩
    · rw [answers_append, hback, hthere, hforth]
    · rw [after_append, hthere, hreturned, Nat.sub_add_cancel hk]

/-- A repeat, a blank line and one more than fits, and then back and forth from the end. -/
theorem recalls_entered_of_three :
    let calls : List HistoryCall :=
      [.add "ls", .add "ls", .add "pwd", .add " ", .previous, .add "date"]
    let h := (fresh 2).after calls
    h.lines = [Text.ofString "pwd", Text.ofString "date"] ∧ h.position = 2 ∧
      h.answers [.previous, .previous, .next, .next] =
        [some (Text.ofString "date"), some (Text.ofString "pwd"), some (Text.ofString "date"),
          some []] ∧
      h.after [.previous, .previous, .next, .next] = h := by
  intro calls h
  obtain ⟨hlines, -, -, -, -, -, -, hback⟩ := recalls_entered 2 calls
  have hposition : h.position = 2 := by decide
  have hkept : h.lines = [Text.ofString "pwd", Text.ofString "date"] := hlines.trans (by decide)
  obtain ⟨hanswers, -, hreturned⟩ := hback 2 (by decide)
  exact ⟨hkept, hposition, hanswers.trans (by decide), hreturned⟩

end History

end VirtualShell
