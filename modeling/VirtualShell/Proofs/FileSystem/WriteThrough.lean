import VirtualShell.Proofs.FileSystem.Volume
import VirtualShell.Proofs.Store.Failure
/-
  Every change is written, and a failed write changes nothing else.

  A call either leaves the tree, the mark for damage and the store as they are, or it writes the
  text of the volume that it leaves, once. What it makes of the tree and the mark depends on
  these two alone; so a run over a store that fails now and then goes through the same trees as
  one over a store that never does, and what is stored is the text as of the last success.
-/

namespace VirtualShell

/-- What is kept of a volume after a verdict, given what was kept before. -/
def Verdict.snapshot (old : Snapshot) : Verdict → Snapshot
  | accepted root => ⟨root, old.corrupted⟩
  | guarded => ⟨old.root, true⟩
  | _ => old

/-- Whether a verdict comes with a write. -/
def Verdict.IsWritten : Verdict → Prop
  | accepted _ | guarded => True
  | _ => False

namespace Volume

variable {σ : Type} {v w : Volume}

/-! ## Calls -/

/-- A call on a volume. -/
inductive Call where
  /-- Something is looked up. -/
  | look (ask : Volume → Bool)
  | change (m : Mutation)
  | reset
  /-- The tree is damaged, with a bound on the search for a free name. -/
  | corrupt (attempts : Nat)

/-- A call on the volume alone. -/
def onVolume {α : Type} (call : Action Volume α) : Action (Volume × σ) α :=
  Action.onPart (fun p : Volume × σ => p.1) (fun v p => (v, p.2)) call

/-- The call made at the instant `now`; for a reset or damage the answer is always the same. -/
def perform (source : Source σ) (now : Float) : Call → Action (Volume × σ) Bool
  | .look ask => do return ask (← get).1
  | .change m => onVolume (apply now m)
  | .reset => do
    onVolume (reset now)
    return true
  | .corrupt attempts => do
    corruptWithin attempts source now
    return true

theorem onVolume_apply {α : Type} (call : Action Volume α) (v : Volume) (s : σ) :
    onVolume call (v, s) = ((call v).1, (call v).2, s) := rfl

theorem perform_change (source : Source σ) (now : Float) (m : Mutation) (v : Volume) (s : σ) :
    perform source now (.change m) (v, s) =
      ((settle (m.verdict now v.root) v).1, (settle (m.verdict now v.root) v).2, s) := rfl

theorem perform_reset (source : Source σ) (now : Float) (v : Volume) (s : σ) :
    perform source now .reset (v, s) =
      ((v.replacing (Node.defaultTree now) false).outcome.map fun _ => true,
        (v.replacing (Node.defaultTree now) false).saved, s) := by
  rw [perform, Action.bind_apply, onVolume_apply, reset, replaceRoot_eq]
  cases (v.replacing (Node.defaultTree now) false).outcome <;> rfl

theorem perform_corrupt (source : Source σ) (now : Float) (attempts : Nat) (v : Volume) (s : σ) :
    perform source now (.corrupt attempts) (v, s) =
      match Corruption.damage source attempts now v.root s with
      | none => (.error .unfinished, v, s)
      | some (root, s) =>
        ((v.replacing root true).outcome.map fun _ => true, (v.replacing root true).saved, s) := by
  rw [perform, Action.bind_apply, corruptWithin_eq]
  cases Corruption.damage source attempts now v.root s with
  | none => rfl
  | some found =>
    dsimp only
    rw [replaceRoot_eq]
    cases (v.replacing found.1 true).outcome <;> rfl

/-! ## The tree and the mark -/

theorem snapshot_settle (verdict : Verdict) (v : Volume) :
    (settle verdict v).2.snapshot = verdict.snapshot v.snapshot := by
  cases verdict with
  | accepted root => rw [settle_accepted]; rfl
  | refused reason => rfl
  | guarded => rw [settle_guarded]; dsimp only; split <;> rfl
  | unencodable content => rfl

/-- What a call makes of the tree, of the mark and of the draws depends on these alone. -/
theorem perform_congr (source : Source σ) (now : Float) (call : Call) (s : σ)
    (h : v.snapshot = w.snapshot) :
    (perform source now call (v, s)).2.1.snapshot = (perform source now call (w, s)).2.1.snapshot ∧
      (perform source now call (v, s)).2.2 = (perform source now call (w, s)).2.2 := by
  have hroot : v.root = w.root := congrArg Snapshot.root h
  cases call with
  | look ask => exact ⟨h, rfl⟩
  | change m =>
    rw [perform_change, perform_change, hroot]
    refine ⟨?_, rfl⟩
    rw [snapshot_settle, snapshot_settle, h]
  | reset =>
    rw [perform_reset, perform_reset]
    exact ⟨rfl, rfl⟩
  | corrupt attempts =>
    rw [perform_corrupt, perform_corrupt, hroot]
    cases Corruption.damage source attempts now w.root s with
    | none => exact ⟨h, rfl⟩
    | some found => exact ⟨rfl, rfl⟩

/-! ## The writes of a call -/

/-- Nothing that is written, and nothing that was, is another. -/
structure IsQuiet (v w : Volume) : Prop where
  snapshot : w.snapshot = v.snapshot
  key : w.key = v.key
  store : w.store = v.store

/-- The text of the volume was written, once, and the call failed just if the write did. -/
structure IsSaved (v w : Volume) (result : Except Fault Bool) : Prop where
  key : w.key = v.key
  store : w.store = (v.store.write v.key w.toJson).2
  result : result.isOk = (v.store.write v.key w.toJson).1.isOk

theorem isOk_outcome_map (answer : Bool) (v : Volume) :
    (v.outcome.map fun _ => answer).isOk = (v.store.write v.key v.toJson).1.isOk := by
  rw [outcome]
  cases (v.store.write v.key v.toJson).1 <;> rfl

/-- A changed volume that is saved, where neither the store nor the key was changed. -/
theorem isSaved_saved (hkey : w.key = v.key) (hstore : w.store = v.store) (answer : Bool) :
    IsSaved v w.saved (w.outcome.map fun _ => answer) := by
  refine ⟨hkey, ?_, ?_⟩
  · rw [← hkey, ← hstore]
    rfl
  · rw [← hkey, ← hstore]
    exact isOk_outcome_map answer w

theorem IsSaved.refusing {result : Except Fault Bool} (h : IsSaved v w result)
    (reason : Refusal) : IsSaved v (w.refusing reason) result := ⟨h.key, h.store, h.result⟩

theorem isSaved_settle {verdict : Verdict} (h : verdict.IsWritten) (v : Volume) :
    IsSaved v (settle verdict v).2 (settle verdict v).1 := by
  cases verdict with
  | accepted root =>
    rw [settle_accepted]
    exact isSaved_saved (v := v) (w := v.accepting root) rfl rfl true
  | guarded =>
    rw [settle_guarded]
    have hsaved := isSaved_saved (v := v) (w := v.marked) rfl rfl false
    dsimp only
    split
    · exact hsaved.refusing .protectedPath
    · exact hsaved
  | refused | unencodable => exact absurd h id

theorem isQuiet_settle {verdict : Verdict} (h : ¬ verdict.IsWritten) (v : Volume) :
    IsQuiet v (settle verdict v).2 := by
  cases verdict with
  | accepted | guarded => exact absurd trivial h
  | refused | unencodable => exact ⟨rfl, rfl, rfl⟩

/-- The volume over another store. -/
def withStore (store : Store) (v : Volume) : Volume := { v with store := store }

/-- Whether a call is to write: a reset always is, a change if it is made or runs into the
protected directory, and damage if it comes to an end. This is told by what the call would answer
over a store that never fails. -/
def IsToWrite (source : Source σ) (now : Float) (call : Call) (v : Volume) (s : σ) : Prop :=
  let reply := perform source now call (v.withStore Store.empty, s)
  match call with
  | .look _ => False
  | .change _ => reply.1 = .ok true ∨ reply.1 = .ok false ∧ reply.2.1.lastError = some .protectedPath
  | .reset => True
  | .corrupt _ => ∃ answer, reply.1 = .ok answer

theorem isToWrite_change_iff {source : Source σ} {now : Float} {m : Mutation} {s : σ} :
    IsToWrite source now (.change m) v s ↔ (m.verdict now v.root).IsWritten := by
  rw [IsToWrite, perform_change]
  dsimp only
  have hroot : (v.withStore Store.empty).root = v.root := rfl
  rw [hroot]
  cases hm : m.verdict now v.root with
  | accepted root =>
    rw [settle_accepted]
    exact iff_of_true (.inl rfl) trivial
  | refused reason =>
    rw [settle_refused]
    refine iff_of_false ?_ id
    rintro (h | ⟨-, h⟩)
    · cases h
    · cases h
      exact Mutation.ne_protectedPath_of_refused hm rfl
  | guarded =>
    rw [settle_guarded]
    exact iff_of_true (.inr ⟨rfl, rfl⟩) trivial
  | unencodable content =>
    rw [settle_unencodable]
    refine iff_of_false ?_ id
    rintro (h | ⟨h, -⟩) <;> cases h

theorem isToWrite_corrupt_iff {source : Source σ} {now : Float} {attempts : Nat} {s : σ} :
    IsToWrite source now (.corrupt attempts) v s ↔
      (Corruption.damage source attempts now v.root s).isSome := by
  rw [IsToWrite, perform_corrupt]
  have hroot : (v.withStore Store.empty).root = v.root := rfl
  rw [hroot]
  cases Corruption.damage source attempts now v.root s with
  | none =>
    refine iff_of_false ?_ Bool.false_ne_true
    rintro ⟨answer, h⟩
    cases h
  | some found => exact iff_of_true ⟨true, rfl⟩ rfl

/-- A call that is to write does so once, with the text of the volume that it leaves. -/
theorem isSaved_perform {source : Source σ} {now : Float} {call : Call} {s : σ}
    (h : IsToWrite source now call v s) :
    IsSaved v (perform source now call (v, s)).2.1 (perform source now call (v, s)).1 := by
  cases call with
  | look ask => exact absurd h id
  | change m =>
    rw [perform_change]
    exact isSaved_settle (isToWrite_change_iff.mp h) v
  | reset =>
    rw [perform_reset]
    exact isSaved_saved (v := v) (w := v.replacing _ false) rfl rfl true
  | corrupt attempts =>
    rw [isToWrite_corrupt_iff, Option.isSome_iff_exists] at h
    obtain ⟨found, hfound⟩ := h
    rw [perform_corrupt, hfound]
    exact isSaved_saved (v := v) (w := v.replacing found.1 true) rfl rfl true

/-- Any other call changes nothing that is written, and writes nothing. -/
theorem isQuiet_perform {source : Source σ} {now : Float} {call : Call} {s : σ}
    (h : ¬ IsToWrite source now call v s) :
    IsQuiet v (perform source now call (v, s)).2.1 := by
  cases call with
  | look ask => exact ⟨rfl, rfl, rfl⟩
  | change m =>
    rw [perform_change]
    exact isQuiet_settle (mt isToWrite_change_iff.mpr h) v
  | reset => exact absurd trivial h
  | corrupt attempts =>
    rw [isToWrite_corrupt_iff, Option.not_isSome_iff_eq_none] at h
    rw [perform_corrupt, h]
    exact ⟨rfl, rfl, rfl⟩

/-! ## Runs -/

/-- A volume in use, with what is known of its writes. -/
structure Watched (σ : Type) where
  volume : Volume
  draws : σ
  /-- The text of the volume right after the last call whose write succeeded. -/
  saved : Option Text := none
  /-- Whether a write was tried, and the latest succeeded. -/
  isUpToDate : Bool := false

namespace Watched

/-- One more call, made at its instant. Whether it tries a write is seen by the count of the
store, and whether the write succeeds by its returning. -/
def after (source : Source σ) (r : Watched σ) (call : Float × Call) : Watched σ :=
  let (result, v, draws) := perform source call.1 call.2 (r.volume, r.draws)
  if v.store.writes = r.volume.store.writes then { r with volume := v, draws := draws }
  else if result.isOk then ⟨v, draws, some v.toJson, true⟩
  else ⟨v, draws, r.saved, false⟩

/-- Any number of calls, one after another. -/
def run (source : Source σ) (calls : List (Float × Call)) (r : Watched σ) : Watched σ :=
  calls.foldl (after source) r

variable {r : Watched σ}

theorem volume_after (source : Source σ) (r : Watched σ) (call : Float × Call) :
    (r.after source call).volume = (perform source call.1 call.2 (r.volume, r.draws)).2.1 := by
  rcases hreply : perform source call.1 call.2 (r.volume, r.draws) with ⟨result, v, draws⟩
  simp only [after, hreply]
  split
  · rfl
  · split <;> rfl

theorem draws_after (source : Source σ) (r : Watched σ) (call : Float × Call) :
    (r.after source call).draws = (perform source call.1 call.2 (r.volume, r.draws)).2.2 := by
  rcases hreply : perform source call.1 call.2 (r.volume, r.draws) with ⟨result, v, draws⟩
  simp only [after, hreply]
  split
  · rfl
  · split <;> rfl

/-- Runs that start with the same tree, mark and draws go on with the same. -/
theorem agree_run (r r' : Watched σ) (source : Source σ) (calls : List (Float × Call))
    (h : r.volume.snapshot = r'.volume.snapshot) (hdraws : r.draws = r'.draws) :
    (r.run source calls).volume.snapshot = (r'.run source calls).volume.snapshot ∧
      (r.run source calls).draws = (r'.run source calls).draws := by
  induction calls generalizing r r' with
  | nil => exact ⟨h, hdraws⟩
  | cons call calls ih =>
    have hstep := perform_congr source call.1 call.2 r.draws h
    refine ih _ _ ?_ ?_
    · rw [volume_after, volume_after, ← hdraws]
      exact hstep.1
    · rw [draws_after, draws_after, ← hdraws]
      exact hstep.2

/-- What is known of the writes is true of the store, given the volume at the start. -/
structure IsTrue (first : Volume) (r : Watched σ) : Prop where
  key : r.volume.key = first.key
  saved : ∀ t, r.saved = some t → r.volume.store.read first.key = .ok (some t)
  unsaved : r.saved = none → first.store.IsDirect first.key →
    r.volume.store.read first.key = first.store.read first.key ∧
      r.volume.store.IsDirect first.key
  upToDate : r.isUpToDate → r.saved = some r.volume.toJson

theorem isTrue_start (v : Volume) (draws : σ) : IsTrue v (⟨v, draws, none, false⟩ : Watched σ) :=
  ⟨rfl, by simp, fun _ h => ⟨rfl, h⟩, by simp⟩

variable {first w : Volume} {draws : σ}

/-- A call that writes nothing leaves the store and the text, and with them all that is known. -/
theorem IsTrue.quiet (h : IsTrue first r) (hq : IsQuiet r.volume w) :
    IsTrue first { r with volume := w, draws := draws } := by
  refine ⟨hq.key.trans h.key, fun t ht => ?_, fun ht hd => ?_, fun hu => ?_⟩
  · rw [hq.store]
    exact h.saved t ht
  · rw [hq.store]
    exact h.unsaved ht hd
  · have htext : w.toJson = r.volume.toJson := by rw [toJson, hq.snapshot, toJson]
    rw [htext]
    exact h.upToDate hu

/-- After a write that succeeds the text of the volume is what is stored. -/
theorem IsTrue.succeeded (h : IsTrue first r) {answer : Bool}
    (hs : IsSaved r.volume w (.ok answer)) : IsTrue first ⟨w, draws, some w.toJson, true⟩ := by
  have hread : w.store.read first.key = .ok (some w.toJson) := by
    rw [hs.store, h.key]
    have hok := hs.result
    rw [h.key] at hok
    generalize hwrite : r.volume.store.write first.key w.toJson = found at hok
    obtain ⟨_ | _, store⟩ := found
    · cases hok
    · exact Store.read_of_write w.isVisible_toJson hwrite
  refine ⟨hs.key.trans h.key, fun t ht => ?_, fun ht => ?_, fun _ => rfl⟩
  · cases ht
    exact hread
  · cases ht

/-- After a write that fails what was stored before still is. -/
theorem IsTrue.failed (h : IsTrue first r) {fault : Fault}
    (hs : IsSaved r.volume w (.error fault)) : IsTrue first ⟨w, draws, r.saved, false⟩ := by
  have hkept : r.volume.store.IsDirect first.key →
      w.store.read first.key = r.volume.store.read first.key ∧ w.store.IsDirect first.key := by
    intro hd
    rw [hs.store, h.key]
    have hok := hs.result
    rw [h.key] at hok
    cases hresult : (r.volume.store.write first.key w.toJson).1 with
    | error fault => exact Store.read_of_failed_write hd hresult
    | ok =>
      rw [hresult] at hok
      cases hok
  refine ⟨hs.key.trans h.key, fun t ht => ?_, fun ht hd => ?_, fun hu => by cases hu⟩
  -- where a text is read already the way to it is direct, whatever it was at the start
  · have hread := h.saved t ht
    exact (hkept (Store.isDirect_of_read hread)).1.trans hread
  · obtain ⟨hread, hdirect⟩ := h.unsaved ht hd
    obtain ⟨hread', hdirect'⟩ := hkept hdirect
    exact ⟨hread'.trans hread, hdirect'⟩

theorem IsTrue.after (h : IsTrue first r) (source : Source σ) (call : Float × Call) :
    IsTrue first (r.after source call) := by
  rcases hreply : perform source call.1 call.2 (r.volume, r.draws) with ⟨result, w, draws⟩
  -- the count tells which of the two kinds of calls it was
  by_cases hwrite : IsToWrite source call.1 call.2 r.volume r.draws
  · have hs := isSaved_perform hwrite
    rw [hreply] at hs
    have hcount : w.store.writes ≠ r.volume.store.writes := by
      rw [hs.store, Store.writes_write]
      omega
    simp only [Watched.after, hreply, if_neg hcount]
    cases result with
    | ok answer => exact h.succeeded hs
    | error fault => exact h.failed hs
  · have hq := isQuiet_perform hwrite
    rw [hreply] at hq
    have hcount : w.store.writes = r.volume.store.writes := by rw [hq.store]
    simp only [Watched.after, hreply, if_pos hcount]
    exact h.quiet hq

theorem IsTrue.run (h : IsTrue first r) (source : Source σ) (calls : List (Float × Call)) :
    IsTrue first (r.run source calls) := by
  induction calls generalizing r with
  | nil => exact h
  | cons call calls ih => exact ih (h.after source call)

end Watched

theorem writes_perform {source : Source σ} {now : Float} {call : Call} {s : σ} :
    (IsToWrite source now call v s →
      (perform source now call (v, s)).2.1.store.writes = v.store.writes + 1) ∧
    (¬ IsToWrite source now call v s →
      (perform source now call (v, s)).2.1.store.writes = v.store.writes) := by
  constructor
  · intro h
    rw [(isSaved_perform h).store, Store.writes_write]
  · intro h
    rw [(isQuiet_perform h).store]

/-- For every run of calls, whichever of its writes fail: the tree, the mark and the draws are
those of the same run over any other store, one that never fails among them; the next call writes
once if it is to write, and else not at all; and what is stored is the text as of the last
success, which is the text of the volume if the latest write succeeded. As long as none has,
it is the text stored at first. If there was none at first, there is still none if the way to it
is direct; a folder that a failed write made could otherwise open the way to another file. -/
theorem writesThrough (source : Source σ) (calls : List (Float × Call)) (v : Volume) (draws : σ) :
    let r := Watched.run source calls ⟨v, draws, none, false⟩
    (∀ store, let r' := Watched.run source calls ⟨v.withStore store, draws, none, false⟩
      r.volume.root = r'.volume.root ∧ r.volume.corrupted = r'.volume.corrupted ∧
        r.draws = r'.draws) ∧
    (∀ now call, let w := (perform source now call (r.volume, r.draws)).2.1
      (IsToWrite source now call r.volume r.draws →
        w.store.writes = r.volume.store.writes + 1) ∧
      (¬ IsToWrite source now call r.volume r.draws →
        w.store.writes = r.volume.store.writes)) ∧
    (∀ t, r.saved = some t → r.volume.store.read v.key = .ok (some t)) ∧
    (r.saved = none → ∀ t, v.store.read v.key = .ok (some t) →
      r.volume.store.read v.key = .ok (some t)) ∧
    (r.saved = none → v.store.IsDirect v.key →
      r.volume.store.read v.key = v.store.read v.key) ∧
    (r.isUpToDate → r.volume.store.read v.key = .ok (some r.volume.toJson)) := by
  intro r
  have htrue : Watched.IsTrue v r := (Watched.isTrue_start v draws).run source calls
  refine ⟨fun store => ?_, fun now call => writes_perform, htrue.saved, fun hs t ht => ?_,
    fun hs hd => (htrue.unsaved hs hd).1, fun hu => htrue.saved _ (htrue.upToDate hu)⟩
  · have hv : v.snapshot = (v.withStore store).snapshot := rfl
    obtain ⟨hsnapshot, hdraws⟩ := Watched.agree_run
      ⟨v, draws, none, false⟩ ⟨v.withStore store, draws, none, false⟩ source calls hv rfl
    exact ⟨congrArg Snapshot.root hsnapshot, congrArg Snapshot.corrupted hsnapshot, hdraws⟩
  · obtain ⟨hread, -⟩ := htrue.unsaved hs (Store.isDirect_of_read ht)
    exact hread.trans ht

/-- A write refused before the folder of the store is there, one refused in memory over a text that
stays, and one that succeeds after it. -/
theorem writesThrough_after_refusal :
    let script : Script := ⟨0, [], none, [], []⟩
    let create : Float × Call := (1, .change (.createDirectory "/" "a"))
    let guarded : Float × Call := (2, .change (.delete "/System"))
    let onDisk : Store := ⟨.folder ["state"] (.folder []), 0, fun _ => true⟩
    let inMemory : Store := ⟨.memory [(defaultKey, "old")], 0, fun n => n == 1⟩
    let refused := Watched.run Script.source [create]
      ⟨⟨Node.defaultTree 0, false, none, onDisk, defaultKey⟩, script, none, false⟩
    let held := Watched.run Script.source [create]
      ⟨⟨Node.defaultTree 0, false, none, inMemory, defaultKey⟩, script, none, false⟩
    let written := Watched.run Script.source [create, guarded]
      ⟨⟨Node.defaultTree 0, false, none, inMemory, defaultKey⟩, script, none, false⟩
    onDisk.IsDirect defaultKey ∧ refused.saved = none ∧ refused.volume.has "/a" ∧
      refused.volume.store.read defaultKey = .ok none ∧
      held.saved = none ∧ held.volume.store.read defaultKey = .ok (some "old") ∧
      written.isUpToDate ∧ written.volume.corrupted ∧
      written.volume.store.read defaultKey = .ok (some written.volume.toJson) := by
  intro script create guarded onDisk inMemory refused held written
  have hpath : Backing.textPath? ["state"] defaultKey =
      .ok [Text.ofString "state", Text.ofString "treeshell-filesystem.json"] := by decide +kernel
  have hdirect : onDisk.IsDirect defaultKey := by
    intro final hfinal
    cases hpath.symm.trans hfinal
    exact ⟨[], [Text.ofString "state"], [], rfl, rfl, ⟨[], rfl⟩, by decide⟩
  have hrefused : refused.saved = none := rfl
  have hheld : held.saved = none := rfl
  have hwritten : written.isUpToDate = true := rfl
  obtain ⟨-, -, -, -, hfirst, -⟩ := writesThrough Script.source [create]
    ⟨Node.defaultTree 0, false, none, onDisk, defaultKey⟩ script
  obtain ⟨-, -, -, hstays, -⟩ := writesThrough Script.source [create]
    ⟨Node.defaultTree 0, false, none, inMemory, defaultKey⟩ script
  obtain ⟨-, -, -, -, -, hlatest⟩ := writesThrough Script.source [create, guarded]
    ⟨Node.defaultTree 0, false, none, inMemory, defaultKey⟩ script
  have hinitial : onDisk.read defaultKey = .ok none := by
    show Backing.read defaultKey (.folder ["state"] (.folder [])) = .ok none
    rw [Backing.read, hpath]
    rfl
  exact ⟨hdirect, hrefused, rfl, (hfirst hrefused hdirect).trans hinitial, hheld,
    hstays hheld "old" rfl, hwritten, rfl, hlatest hwritten⟩

end Volume

end VirtualShell
