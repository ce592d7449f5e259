import VirtualShell.Proofs.FileSystem.Mark
import VirtualShell.Proofs.Session.Restored
/-
  The mark for damage, from the opening of a volume to the next one.

  In between is any run of calls. The mark is part of the snapshot, so each write that succeeds
  stores it, and nothing that the snapshot of a consistent tree goes through on its way back loses
  it: names may come back merged, but the text is never dropped for the starting tree.
-/

namespace VirtualShell.Volume

/-- For every run of calls, whichever of its writes fail. The next call leaves the mark up just if
it is no reset and the mark was up or the call is one that raises it, a trespass or damage; and a
change that is answered is refused for the protected directory just if it is a trespass, whatever
the tree is like. So the mark is up after the run just if some call raised it, or it was up at
first, and no reset came later. Once a write has succeeded the mark is found again by whoever
opens the store, as long as nothing else has been written and no size is a number that is too long
to be read. -/
theorem corrupted_over_run {σ : Type} {v : Volume} (h : v.IsOpened) (source : Source σ)
    (calls : List (Float × Call)) (draws : σ) :
    let r := Watched.run source calls ⟨v, draws, none, false⟩
    (∀ now call, let reply := perform source now call (r.volume, r.draws)
      (reply.2.1.corrupted = true ↔ call ≠ .reset ∧
        (r.volume.corrupted = true ∨ call.Raises source now r.volume r.draws)) ∧
      ∀ m, call = .change m → reply.1.isOk →
        (reply.1 = .ok false ∧ reply.2.1.lastError = some .protectedPath ↔ m.IsTrespass)) ∧
    (r.volume.corrupted = true ↔
      (v.corrupted = true ∧ ∀ call ∈ calls, call.2 ≠ .reset) ∨
      ∃ before call later, calls = before ++ call :: later ∧
        (let reached := Watched.run source before ⟨v, draws, none, false⟩;
          call.2.Raises source call.1 reached.volume reached.draws) ∧
        ∀ call ∈ later, call.2 ≠ .reset) ∧
    (r.isUpToDate → (∀ n ∈ r.volume.root.walk, n.size < 10 ^ Text.digitLimit) →
      ∀ more, let later := r.run source more
        later.saved = r.saved → ∀ now, ∃ w,
          load now later.volume.store v.key = .ok w ∧ w.corrupted = r.volume.corrupted) := by
  intro r
  refine ⟨fun now call => ⟨corrupted_perform source now call r.volume r.draws, ?_⟩,
    Watched.corrupted_run source _ calls, ?_⟩
  · rintro m rfl hok
    exact refused_iff_isTrespass hok
  · intro hu hsize more later hsaved now
    have hc : r.volume.root.IsConsistent :=
      Run.isConsistent (Watched.leads_run source _ calls) (Session.isConsistent_of_isOpened h)
    have htrue : Watched.IsTrue v r := (Watched.isTrue_start v draws).run source calls
    have hread := (htrue.run source more).saved _ (hsaved.trans (htrue.upToDate hu))
    exact ⟨_, load_of_read_merged hc hsize now hread, rfl⟩

/-- A copy out of the protected directory leaves the mark down. An attempt at the directory itself,
by a way around, puts it up, and so it is found by whoever opens the store. -/
theorem corrupted_over_run_of_attempt :
    let v : Volume := ⟨Node.defaultTree 0, false, none, Store.empty, defaultKey⟩
    let script : Script := ⟨0, [], none, [], []⟩
    let copy : Float × Call := (1, .change (.copy "/System/config.sys" "/Desktop"))
    let delete : Float × Call := (2, .change (.delete "Desktop/../System"))
    let copied := Watched.run Script.source [copy] ⟨v, script, none, false⟩
    let attempted := Watched.run Script.source [copy, delete] ⟨v, script, none, false⟩
    v.IsOpened ∧ copied.volume.corrupted = false ∧ attempted.volume.corrupted = true ∧
      attempted.isUpToDate ∧
      ∃ w, load 3 attempted.volume.store v.key = .ok w ∧ w.corrupted = true := by
  intro v script copy delete copied attempted
  have hopened : v.IsOpened := .load (show load 0 Store.empty defaultKey = .ok v from rfl)
  have hcopied : copied.volume.corrupted = false := rfl
  have htrespass : Mutation.IsTrespass (.delete "Desktop/../System") := ⟨[], by simp, by decide⟩
  obtain ⟨hnext, -, -⟩ := corrupted_over_run hopened Script.source [copy] script
  have hattempted : attempted.volume.corrupted = true :=
    (hnext 2 (.change (.delete "Desktop/../System"))).1.mpr ⟨by simp, .inr htrespass⟩
  have hwritten : attempted.isUpToDate = true := rfl
  have hsize : ∀ n ∈ attempted.volume.root.walk, n.size < 10 ^ Text.digitLimit := by
    decide +kernel
  obtain ⟨-, -, hrestart⟩ := corrupted_over_run hopened Script.source [copy, delete] script
  obtain ⟨w, hload, hw⟩ := hrestart hwritten hsize [] rfl 3
  exact ⟨hopened, hcopied, hattempted, hwritten, w, hload, hw.trans hattempted⟩

end VirtualShell.Volume
