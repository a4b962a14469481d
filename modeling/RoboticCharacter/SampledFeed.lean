import RoboticCharacter.EventHistory

/-! A sender samples a source into a queue, a receiver takes what it can read from the head of the
queue, and any part of the queue can get lost: what the receiver has read is a part of the samples,
in their order. -/
namespace SampledFeed

variable {β γ : Type*} (read : β → Option γ)

/-- What was read, and after it what can be read of the queue, is in the order of the samples. -/
def InOrder (samples shown : List γ) (queue : List β) : Prop :=
  (shown ++ queue.filterMap read).Sublist samples

theorem inOrder_nil (samples : List γ) : InOrder read samples [] [] :=
  List.nil_sublist samples

variable {read} {samples shown : List γ} {queue : List β}

theorem InOrder.later (h : InOrder read samples shown queue) (more : List γ) :
    InOrder read (samples ++ more) shown queue :=
  h.trans (List.sublist_append_left samples more)

theorem InOrder.push (h : InOrder read samples shown queue) (b : β) :
    InOrder read (samples ++ (read b).toList) shown (queue ++ [b]) := by
  unfold InOrder
  rw [Machine.filterMap_snoc, ← List.append_assoc]
  exact List.Sublist.append_right h _

theorem InOrder.take {b : β} (h : InOrder read samples shown (b :: queue)) :
    InOrder read samples (shown ++ (read b).toList) queue := by
  have hqueue : (b :: queue).filterMap read = (read b).toList ++ queue.filterMap read := by
    cases hread : read b with
    | none => simp [hread]
    | some c => simp [hread]
  unfold InOrder at h ⊢
  rwa [hqueue, ← List.append_assoc] at h

theorem InOrder.lose (h : InOrder read samples shown queue) {kept : List β}
    (hkept : kept.Sublist queue) : InOrder read samples shown kept :=
  (List.Sublist.append_left (hkept.filterMap read) shown).trans h

theorem InOrder.shown_sublist (h : InOrder read samples shown queue) : shown.Sublist samples :=
  (List.sublist_append_left shown _).trans h

end SampledFeed
