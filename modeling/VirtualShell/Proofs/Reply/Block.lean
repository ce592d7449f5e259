import VirtualShell.Proofs.Json.Visible
import VirtualShell.Reply
/-
  Replies with a block of actions in them.

  Neither fence can overlap with another place where it stands, so a block that is put into a text
  is found where it was put, unless the text before it holds an opening fence already; and of the
  text around it nothing is lost but white space at the ends. JSON is written on one line, so a
  block of it never holds a closing fence, whatever the texts in it say.
-/

namespace VirtualShell.Reply

/-- Both fences are such that two of them never overlap. -/
theorem isUnbordered_fences : openingFence.IsUnbordered ∧ closingFence.IsUnbordered := by
  decide

/-! ## Where a block is found -/

/-- A block behind a text without an opening fence. -/
theorem cutBlock_append {before block : Text} (hbefore : ¬openingFence <:+: before)
    (hblock : ¬closingFence <:+: block) (after : Text) :
    cutBlock (before ++ openingFence ++ block ++ closingFence ++ after) =
      some (before, block, after) := by
  have hopening := Text.cutText_append isUnbordered_fences.1 (by decide) hbefore
    (block ++ closingFence ++ after)
  have hclosing := Text.cutText_append isUnbordered_fences.2 (by decide) hblock after
  simp only [List.append_assoc] at hopening hclosing ⊢
  rw [cutBlock, hopening]
  dsimp only [bind, Option.bind]
  rw [hclosing]
  rfl

/-- A block that is found is there. -/
theorem eq_of_cutBlock {reply before block after : Text}
    (h : cutBlock reply = some (before, block, after)) :
    reply = before ++ openingFence ++ block ++ closingFence ++ after := by
  rw [cutBlock] at h
  obtain ⟨⟨front, rest⟩, hopening, h⟩ := Option.bind_eq_some_iff.mp h
  obtain ⟨⟨inner, back⟩, hclosing, h⟩ := Option.bind_eq_some_iff.mp h
  cases h
  rw [Text.eq_of_cutText hopening, Text.eq_of_cutText hclosing]
  simp only [List.append_assoc]

theorem ofText_append {before block : Text} (hbefore : ¬openingFence <:+: before)
    (hblock : ¬closingFence <:+: block) (after : Text) :
    ofText (before ++ openingFence ++ block ++ closingFence ++ after) =
      ⟨Text.trim (before ++ after), actionsOf block⟩ := by
  rw [ofText, cutBlock_append hbefore hblock]

theorem ofText_of_no_block {reply : Text} (h : ∀ before block after : Text,
    reply ≠ before ++ openingFence ++ block ++ closingFence ++ after) :
    ofText reply = ⟨reply.trim, []⟩ := by
  rw [ofText]
  cases hcut : cutBlock reply with
  | none => rfl
  | some found => exact absurd (eq_of_cutBlock hcut) (h _ _ _)

/-! ## What a block holds -/

/-- Written JSON holds no closing fence, which starts with a new line. -/
theorem not_closingFence_infix_write (v : Json) : ¬closingFence <:+: v.write := by
  intro h
  have hmem : CodePoint.ofChar '\n' ∈ v.write := h.subset (by decide)
  have hvisible := (Json.isVisible_write v _ hmem).1
  exact absurd hvisible (by decide)

theorem actionsOf_array {block : Text} {items : List Json}
    (h : Json.read block = .ok (.array items)) : actionsOf block = items.filterMap fields? := by
  rw [actionsOf, h]

theorem actionsOf_object {block : Text} {fields : Entries Json}
    (h : Json.read block = .ok (.object fields)) : actionsOf block = [fields] := by
  rw [actionsOf, h]
  rfl

theorem filterMap_fields?_map_object (actions : List (Entries Json)) :
    (actions.map Json.object).filterMap fields? = actions := by
  rw [List.filterMap_map]
  exact List.filterMap_some

/-- What is taken out of a list are its objects, in order. -/
theorem map_object_filterMap_fields? (items : List Json) :
    (items.filterMap fields?).map Json.object = items.filter fun v => (fields? v).isSome := by
  induction items with
  | nil => rfl
  | cons v rest ih =>
    cases v with
    | object fields => exact congrArg (Json.object fields :: ·) ih
    | _ => exact ih

/-! ## The result -/

/-- A block behind a text without an opening fence, whatever comes after it. Where the block is
written from a list of objects that its text is read back as, the actions are those objects. In any
block, however it is laid out, a list holds its objects as actions, in order and without what is no
object, and an object is one action. The prose is what stands before and after the block, without
the white space at its ends, and further blocks are part of it. A reply without a complete block is
all prose. -/
theorem ofText_fenced (before after : Text) (hbefore : ¬openingFence <:+: before) :
    (∀ actions : List (Entries Json),
      Json.read (Json.array (actions.map .object)).write = .ok (.array (actions.map .object)) →
      ofText (before ++ openingFence ++ (Json.array (actions.map .object)).write ++ closingFence ++
        after) = ⟨Text.trim (before ++ after), actions⟩) ∧
    (∀ block : Text, ¬closingFence <:+: block →
      let reply := ofText (before ++ openingFence ++ block ++ closingFence ++ after)
      reply.prose = Text.trim (before ++ after) ∧
        (∀ items, Json.read block = .ok (.array items) →
          reply.actions.map Json.object = items.filter fun v => (fields? v).isSome) ∧
        ∀ fields, Json.read block = .ok (.object fields) → reply.actions = [fields]) ∧
    ∀ reply : Text, (∀ front block back : Text,
        reply ≠ front ++ openingFence ++ block ++ closingFence ++ back) →
      ofText reply = ⟨reply.trim, []⟩ := by
  refine ⟨fun actions hread => ?_, fun block hblock => ?_, fun reply => ofText_of_no_block⟩
  · rw [ofText_append hbefore (not_closingFence_infix_write _), actionsOf_array hread,
      filterMap_fields?_map_object]
  · intro reply
    have hreply : reply = ⟨Text.trim (before ++ after), actionsOf block⟩ :=
      ofText_append hbefore hblock after
    rw [hreply]
    refine ⟨rfl, fun items hread => ?_, fun fields hread => actionsOf_object hread⟩
    rw [actionsOf_array hread]
    exact map_object_filterMap_fields? items

/-- A block between text that looks like a fence, with an action that quotes both fences. The block
after it stays. -/
theorem ofText_fenced_among_fences :
    let before := Text.ofString " ```json ``"
    let quoting : Entries Json := [("action", .text (openingFence ++ closingFence))]
    let opening : Entries Json := [("action", .text "openApp"), ("payload", .array [.null])]
    let after := openingFence ++ "[]" ++ closingFence ++ " "
    let actions := [quoting, opening]
    ¬openingFence <:+: before ∧
      Json.read (Json.array (actions.map .object)).write = .ok (.array (actions.map .object)) ∧
      ofText (before ++ openingFence ++ (Json.array (actions.map .object)).write ++ closingFence ++
        after) = ⟨"```json `````json\n[]\n```", actions⟩ := by
  intro before quoting opening after actions
  have hbefore : ¬openingFence <:+: before := by decide
  have hquoting : (Json.object quoting).IsReadable := by
    refine .object (by decide) ?_ ?_ <;> simp only [quoting, List.forall_mem_cons]
    · exact ⟨by decide, nofun⟩
    · exact ⟨.text (by decide), nofun⟩
  have hopening : (Json.object opening).IsReadable := by
    refine .object (by decide) ?_ ?_ <;> simp only [opening, List.forall_mem_cons]
    · exact ⟨by decide, by decide, nofun⟩
    · refine ⟨.text (by decide), .array ?_, nofun⟩
      simp only [List.forall_mem_cons]
      exact ⟨.null, nofun⟩
  have hread : Json.read (Json.array (actions.map .object)).write =
      .ok (.array (actions.map .object)) := by
    refine Json.read_write (.array ?_)
    simp only [actions, List.map_cons, List.forall_mem_cons]
    exact ⟨hquoting, hopening, nofun⟩
  refine ⟨hbefore, hread, ?_⟩
  rw [(ofText_fenced before after hbefore).1 actions hread]
  have hprose : Text.trim (before ++ after) = "```json `````json\n[]\n```" := by decide +kernel
  rw [hprose]

end VirtualShell.Reply
