import Mathlib.Data.List.Induction
import VirtualShell.Proofs.Store.FolderTexts
/-
  A store in a folder and a store in memory under the same calls.

  In memory the text under a key is the one that was written last under that key. In a folder it is
  the one that was written last under any key of the same name, with all line endings made the
  same. So where the keys have names, and different keys different ones, the two stores give the
  same answers but for the line endings, and the very same exactly if no text with a carriage
  return is ever answered.
-/

namespace VirtualShell

/-- A call of a store. -/
inductive StoreCall where
  | read (key : Text)
  | write (key data : Text)

namespace StoreCall

variable {isKey isKey' : Text → Prop} [DecidablePred isKey] [DecidablePred isKey']

/-- The key that a call names. -/
def key : StoreCall → Text
  | read key => key
  | write key _ => key

/-- The key is a single step of a path, and a text that is written has a form in bytes. -/
def IsProper : StoreCall → Prop
  | read key => key.IsStep
  | write key data => key.IsStep ∧ data.IsEncodable

instance : DecidablePred IsProper
  | read key => inferInstanceAs (Decidable key.IsStep)
  | write key data => inferInstanceAs (Decidable (key.IsStep ∧ data.IsEncodable))

/-- Of the texts that the calls write under keys as told, the last. -/
def lastWritten (isKey : Text → Prop) [DecidablePred isKey] (calls : List StoreCall) :
    Option Text :=
  (calls.filterMap fun
    | read _ => none
    | write key data => if isKey key then some data else none).getLast?

theorem lastWritten_concat_read (calls : List StoreCall) (key : Text) :
    lastWritten isKey (calls ++ [read key]) = lastWritten isKey calls := by
  simp [lastWritten]

theorem lastWritten_concat_write (calls : List StoreCall) (key data : Text) :
    lastWritten isKey (calls ++ [write key data]) =
      if isKey key then some data else lastWritten isKey calls := by
  by_cases h : isKey key <;> simp [lastWritten, h]

theorem lastWritten_congr {calls : List StoreCall}
    (h : ∀ call ∈ calls, isKey call.key ↔ isKey' call.key) :
    lastWritten isKey calls = lastWritten isKey' calls := by
  refine congrArg List.getLast? (List.filterMap_congr fun call hcall => ?_)
  cases call with
  | read key => rfl
  | write key data =>
    have hkey : isKey key ↔ isKey' key := h _ hcall
    simp [hkey]

end StoreCall

namespace Store

open StoreCall

variable {path : DiskPath} {disk : DiskEntry} {calls : List StoreCall} {key data : Text}

/-- A store in a folder of a disk, not yet used. -/
def inFolder (path : DiskPath) (disk : DiskEntry) : Store := ⟨.folder path disk, 0, fun _ => false⟩

/-- What a call comes back with, which for a write that succeeds is nothing, and the store after
it. -/
def answer (store : Store) : StoreCall → Except StoreFault (Option Text) × Store
  | .read key => (store.read key, store)
  | .write key data =>
    let (result, store) := store.write key data
    (result.map fun _ => none, store)

/-- The store after the calls. -/
def after (store : Store) (calls : List StoreCall) : Store :=
  calls.foldl (fun store call => (store.answer call).2) store

/-- What the calls come back with, one after another. -/
def answers (store : Store) : List StoreCall → List (Except StoreFault (Option Text))
  | [] => []
  | call :: calls => (store.answer call).1 :: (store.answer call).2.answers calls

theorem after_concat (store : Store) (calls : List StoreCall) (call : StoreCall) :
    store.after (calls ++ [call]) = ((store.after calls).answer call).2 := by
  rw [after, List.foldl_append]
  rfl

theorem answers_concat (store : Store) (calls : List StoreCall) (call : StoreCall) :
    store.answers (calls ++ [call]) =
      store.answers calls ++ [((store.after calls).answer call).1] := by
  induction calls generalizing store with
  | nil => rfl
  | cons first calls ih => exact congrArg ((store.answer first).1 :: ·) (ih _)

/-! ## In memory -/

theorem exists_memory_after (calls : List StoreCall) :
    ∃ texts writes, empty.after calls = ⟨.memory texts, writes, fun _ => false⟩ ∧
      ∀ key, texts.get? key = lastWritten (· = key) calls := by
  induction calls using List.reverseRecOn with
  | nil => exact ⟨[], 0, rfl, fun key => rfl⟩
  | append_singleton calls call ih =>
    obtain ⟨texts, writes, hafter, htexts⟩ := ih
    rw [after_concat, hafter]
    cases call with
    | read key =>
      exact ⟨texts, writes, rfl, fun other => by rw [lastWritten_concat_read, htexts]⟩
    | write key data =>
      refine ⟨texts.put key data, writes + 1, rfl, fun other => ?_⟩
      rw [lastWritten_concat_write]
      split
      · rename_i hkey
        rw [hkey, Entries.get?_put_self]
      · rename_i hkey
        rw [Entries.get?_put_of_ne (Ne.symm hkey), htexts]

theorem read_memory_after (calls : List StoreCall) (key : Text) :
    (empty.after calls).read key = .ok (lastWritten (· = key) calls) := by
  obtain ⟨texts, writes, hafter, htexts⟩ := exists_memory_after calls
  rw [hafter, ← htexts]
  rfl

theorem write_memory_after (calls : List StoreCall) (key data : Text) :
    ((empty.after calls).write key data).1 = .ok () := by
  obtain ⟨texts, writes, hafter, -⟩ := exists_memory_after calls
  rw [hafter]
  rfl

/-! ## In a folder -/

/-- The texts that calls leave under the names of their keys. -/
def textsAfter (path : DiskPath) (calls : List StoreCall) (name : Text) : Option Text :=
  lastWritten (fun key => Backing.nameFor? path key = .ok name) calls

theorem exists_keeps_after (hfresh : Backing.IsFresh path disk)
    (hcalls : ∀ call ∈ calls, call.IsProper) :
    ∃ disk' writes, (inFolder path disk).after calls =
        ⟨.folder path disk', writes, fun _ => false⟩ ∧
      Backing.Keeps path (textsAfter path calls) disk' := by
  induction calls using List.reverseRecOn with
  | nil => exact ⟨disk, 0, rfl, hfresh.keeps⟩
  | append_singleton calls call ih =>
    obtain ⟨before, writes, hbefore, hkeeps⟩ :=
      ih fun call hcall => hcalls call (List.mem_append_left _ hcall)
    have hcall := hcalls call (List.mem_append_right _ (List.mem_singleton_self call))
    rw [after_concat, hbefore]
    cases call with
    | read key =>
      refine ⟨before, writes, rfl, ?_⟩
      have htexts : textsAfter path (calls ++ [.read key]) = textsAfter path calls :=
        funext fun name => lastWritten_concat_read calls key
      rwa [htexts]
    | write key data =>
      obtain ⟨disk', hwrite, hkeeps'⟩ := hkeeps.writeToFolder hcall.1 hcall.2
      refine ⟨disk', writes + 1, ?_, ?_⟩
      · rw [answer, write, Backing.write, Backing.writeIn]
        dsimp only
        rw [hwrite]
        rfl
      · have htexts : textsAfter path (calls ++ [.write key data]) = fun name =>
            if Backing.nameFor? path key = .ok name then some data
            else textsAfter path calls name :=
          funext fun name => lastWritten_concat_write calls key data
        rwa [htexts]

theorem read_folder_after (hfresh : Backing.IsFresh path disk)
    (hcalls : ∀ call ∈ calls, call.IsProper) (hkey : key.IsStep) :
    ((inFolder path disk).after calls).read key =
      Backing.readBack path (textsAfter path calls) key := by
  obtain ⟨disk', writes, hafter, hkeeps⟩ := exists_keeps_after hfresh hcalls
  rw [hafter]
  exact hkeeps.read hkey

theorem write_folder_after (hfresh : Backing.IsFresh path disk)
    (hcalls : ∀ call ∈ calls, call.IsProper) (hkey : key.IsStep) (hdata : data.IsEncodable) :
    (((inFolder path disk).after calls).write key data).1 =
      (Backing.nameFor? path key).map fun _ => () := by
  obtain ⟨disk', writes, hafter, hkeeps⟩ := exists_keeps_after hfresh hcalls
  obtain ⟨disk'', hwrite, -⟩ := hkeeps.writeToFolder hkey hdata
  rw [hafter, write, Backing.write, Backing.writeIn]
  dsimp only
  rw [hwrite]
  rfl

/-! ## Keys that are told apart -/

/-- The keys of the calls have names, and different keys have different ones. -/
structure HasNames (path : DiskPath) (calls : List StoreCall) : Prop where
  named : ∀ call ∈ calls, ∃ name, Backing.nameFor? path call.key = .ok name
  distinct : ∀ call ∈ calls, ∀ other ∈ calls,
    Backing.nameFor? path call.key = Backing.nameFor? path other.key → call.key = other.key

/-- Keys without surrogates are their own names if they are not too long. -/
theorem HasNames.of_isEncodable (h : ∀ call ∈ calls, call.key.IsEncodable ∧
    path.Fits (Backing.draftName call.key)) : HasNames path calls := by
  have hname : ∀ call ∈ calls, Backing.nameFor? path call.key = .ok call.key :=
    fun call hcall => Backing.nameFor?_of_isEncodable (h call hcall).1 (h call hcall).2
  refine ⟨fun call hcall => ⟨_, hname call hcall⟩, fun call hcall other hother hsame => ?_⟩
  rw [hname call hcall, hname other hother] at hsame
  exact Except.ok.inj hsame

theorem HasNames.of_concat {call : StoreCall} (h : HasNames path (calls ++ [call])) :
    HasNames path calls :=
  ⟨fun call hcall => h.named call (List.mem_append_left _ hcall), fun call hcall other hother =>
    h.distinct call (List.mem_append_left _ hcall) other (List.mem_append_left _ hother)⟩

/-- An answer with all line endings in its text made the same. -/
def unified (answer : Except StoreFault (Option Text)) : Except StoreFault (Option Text) :=
  answer.map fun found => found.map Text.withLineFeeds

theorem unified_eq_self_iff (answer : Except StoreFault (Option Text)) :
    unified answer = answer ↔
      ∀ t : Text, answer = .ok (some t) → CodePoint.ofChar '\r' ∉ t := by
  match answer with
  | .error fault => simp [unified, Except.map]
  | .ok none => simp [unified, Except.map]
  | .ok (some t) => simp [unified, Except.map, Text.withLineFeeds_eq_self_iff]

theorem answers_folder (hfresh : Backing.IsFresh path disk)
    (hcalls : ∀ call ∈ calls, call.IsProper) (hnames : HasNames path calls) :
    (inFolder path disk).answers calls = (empty.answers calls).map unified := by
  induction calls using List.reverseRecOn with
  | nil => rfl
  | append_singleton calls call ih =>
    have hbefore : ∀ call ∈ calls, call.IsProper :=
      fun call hcall => hcalls call (List.mem_append_left _ hcall)
    have hlast : call ∈ calls ++ [call] := List.mem_append_right _ (List.mem_singleton_self call)
    obtain ⟨name, hname⟩ := hnames.named call hlast
    rw [answers_concat, answers_concat, List.map_append, ih hbefore hnames.of_concat]
    refine congrArg (_ ++ [·]) ?_
    cases call with
    | read key =>
      -- no other key of the calls has the name, so what lies under it was written under the key
      have hsame : textsAfter path calls name = lastWritten (· = key) calls := by
        refine lastWritten_congr fun call hcall => ⟨fun h => ?_, fun h => h ▸ hname⟩
        exact hnames.distinct call (List.mem_append_left _ hcall) _ hlast (h.trans hname.symm)
      have hname : Backing.nameFor? path key = .ok name := hname
      rw [answer, answer, read_folder_after hfresh hbefore (hcalls _ hlast), read_memory_after,
        Backing.readBack, hname]
      dsimp only
      rw [hsame]
      rfl
    | write key data =>
      have hname : Backing.nameFor? path key = .ok name := hname
      obtain ⟨hkey, hdata⟩ := hcalls _ hlast
      show Except.map _ (write _ key data).1 = unified (Except.map _ (write _ key data).1)
      rw [write_folder_after hfresh hbefore hkey hdata, write_memory_after, hname]
      rfl

end Store

/-! ## The result -/

/-- Whatever calls come before, a store in memory reads what was written last under the key, and a
store in a folder that was fresh reads, with all line endings made the same, what was written last
under any key of the same name; under a key with too long a name it finds nothing and refuses to
write, and with a key that has no name both fail. If the keys of the calls have names, and different
keys different ones, the answers of the two stores are therefore the same but for the line endings.
They are the very same exactly if no text that the one in memory answers holds a carriage return. -/
theorem folder_answers_as_memory (path : DiskPath) (disk : DiskEntry)
    (hfresh : Backing.IsFresh path disk) (calls : List StoreCall)
    (hcalls : ∀ call ∈ calls, call.IsProper) :
    let file := Store.inFolder path disk
    let memory := Store.empty
    (∀ key : Text, (memory.after calls).read key = .ok (StoreCall.lastWritten (· = key) calls) ∧
      ∀ data, ((memory.after calls).write key data).1 = .ok ()) ∧
    (∀ key : Text, key.IsStep →
      (file.after calls).read key = (match Backing.nameFor? path key with
        | .ok name => .ok ((StoreCall.lastWritten (fun other =>
            Backing.nameFor? path other = .ok name) calls).map Text.withLineFeeds)
        | .error (.disk _) => .ok none
        | .error fault => .error fault) ∧
      ∀ data : Text, data.IsEncodable →
        ((file.after calls).write key data).1 = (Backing.nameFor? path key).map fun _ => ()) ∧
    (Store.HasNames path calls →
      file.answers calls = (memory.answers calls).map Store.unified ∧
      (file.answers calls = memory.answers calls ↔
        ∀ t : Text, .ok (some t) ∈ memory.answers calls → CodePoint.ofChar '\r' ∉ t)) := by
  intro file memory
  refine ⟨fun key => ⟨Store.read_memory_after calls key, Store.write_memory_after calls key⟩,
    fun key hkey => ⟨Store.read_folder_after hfresh hcalls hkey, fun data hdata =>
      Store.write_folder_after hfresh hcalls hkey hdata⟩, fun hnames => ?_⟩
  have hanswers := Store.answers_folder hfresh hcalls hnames
  refine ⟨hanswers, ?_⟩
  rw [hanswers]
  constructor
  · intro hsame t ht
    have hunified : ∀ answer ∈ memory.answers calls, Store.unified answer = id answer :=
      List.map_inj_left.mp (hsame.trans (List.map_id _).symm)
    exact (Store.unified_eq_self_iff _).mp (hunified _ ht) t rfl
  · intro hreturn
    have hunified : ∀ answer ∈ memory.answers calls, Store.unified answer = id answer :=
      fun answer hanswer => (Store.unified_eq_self_iff answer).mpr
        fun t ht => hreturn t (ht ▸ hanswer)
    rw [List.map_congr_left hunified, List.map_id]

/-- Two keys, of which one is the other with the ending of its file, in a folder that is yet to be
made. One text has a line ending of two code points, which is read as one. -/
theorem folder_answers_as_memory_of_two_keys :
    let path : DiskPath := ["state"]
    let disk : DiskEntry := .folder []
    let first := Text.ofString "a\r\nb"
    let second := Text.ofString "Größe"
    let calls : List StoreCall := [.read "k", .write "k" first, .write "k.json" second, .read "k",
      .read "k.json"]
    Backing.IsFresh path disk ∧ (∀ call ∈ calls, call.IsProper) ∧ Store.HasNames path calls ∧
      Store.empty.answers calls = [.ok none, .ok none, .ok none, .ok (some first), .ok (some second)] ∧
      (Store.inFolder path disk).answers calls =
        [.ok none, .ok none, .ok none, .ok (some "a\nb"), .ok (some second)] := by
  intro path disk first second calls
  have hfresh : Backing.IsFresh path disk := ⟨_, rfl, rfl⟩
  have hcalls : ∀ call ∈ calls, call.IsProper := by decide
  have hnames : Store.HasNames path calls := Store.HasNames.of_isEncodable (by decide)
  have hmemory : Store.empty.answers calls =
      [.ok none, .ok none, .ok none, .ok (some first), .ok (some second)] := rfl
  obtain ⟨-, -, hanswers⟩ := folder_answers_as_memory path disk hfresh calls hcalls
  refine ⟨hfresh, hcalls, hnames, hmemory, ?_⟩
  rw [(hanswers hnames).1, hmemory]
  rfl

/-- A carriage return alone comes back from memory as it is, and from a folder as a line feed. -/
theorem folder_answers_ne_memory_of_carriage_return :
    let path : DiskPath := ["state"]
    let disk : DiskEntry := .folder []
    let calls : List StoreCall := [.write "k" "a\r", .read "k"]
    Backing.IsFresh path disk ∧ (∀ call ∈ calls, call.IsProper) ∧ Store.HasNames path calls ∧
      Store.empty.answers calls = [.ok none, .ok (some "a\r")] ∧
      (Store.inFolder path disk).answers calls = [.ok none, .ok (some "a\n")] ∧
      (Store.inFolder path disk).answers calls ≠ Store.empty.answers calls := by
  intro path disk calls
  have hmemory : Store.empty.answers calls = [.ok none, .ok (some "a\r")] := rfl
  have hfile : (Store.inFolder path disk).answers calls = [.ok none, .ok (some "a\n")] := rfl
  refine ⟨⟨_, rfl, rfl⟩, by decide, Store.HasNames.of_isEncodable (by decide), hmemory, hfile, ?_⟩
  rw [hmemory, hfile]
  intro hsame
  simp only [List.cons.injEq, Except.ok.injEq, Option.some.injEq] at hsame
  exact absurd hsame.2.1 (by decide)

end VirtualShell
