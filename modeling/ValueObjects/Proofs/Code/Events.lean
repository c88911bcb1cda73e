import ValueObjects.Code.Outline

/-!
# Events

What happens to a builder, one change at a time. As long as no block is closed that was not opened, the depth says how
many blocks are open, and once they are all closed again the events are those of an outline, whose printed form is what
the builder was given.
-/

namespace ValueObjects

/-- A single change of a builder. -/
inductive Event
  | line (text : String)
  | raw (text : String)
  | blank
  | opened
  | closed
deriving DecidableEq, Repr

/-- Make a change. -/
def Event.apply (b : CodeBuilder) : Event → CodeBuilder
  | line t => b.line t
  | raw t => b.raw t
  | blank => b.blank
  | opened => b.openBlock
  | closed => b.closeBlock

namespace CodeBuilder

/-- The builder after some changes. -/
def after (b : CodeBuilder) (es : List Event) : CodeBuilder := es.foldl Event.apply b

@[simp] theorem after_nil (b : CodeBuilder) : b.after [] = b := rfl

@[simp] theorem after_cons (b : CodeBuilder) (e : Event) (es : List Event) :
    b.after (e :: es) = (e.apply b).after es := rfl

theorem after_append (b : CodeBuilder) (es fs : List Event) : b.after (es ++ fs) = (b.after es).after fs :=
  List.foldl_append

/-- The text only grows. -/
theorem text_after (b : CodeBuilder) (es : List Event) : ∃ added, (b.after es).text = b.text ++ added := by
  induction es generalizing b with
  | nil => exact ⟨"", by simp⟩
  | cons e es ih =>
    obtain ⟨added, hadded⟩ := ih (e.apply b)
    cases e with
    | line t => exact ⟨_, by rw [after_cons, hadded, Event.apply, text_line, String.append_assoc]⟩
    | raw t => exact ⟨_, by rw [after_cons, hadded, Event.apply, text_raw, String.append_assoc]⟩
    | blank => exact ⟨_, by rw [after_cons, hadded, Event.apply, text_blank, String.append_assoc]⟩
    | opened => exact ⟨_, by rw [after_cons, hadded, Event.apply, text_openBlock, String.append_assoc]⟩
    | closed =>
      exact ⟨_, by rw [after_cons, hadded, Event.apply, text_closeBlock, String.append_assoc, String.append_assoc]⟩

end CodeBuilder

/-! ## Open blocks -/

/-- The number of open blocks after a change, if there is one to close. -/
def Event.openAfter (n : Nat) : Event → Option Nat
  | opened => some (n + 1)
  | closed => match n with
    | 0 => none
    | k + 1 => some k
  | _ => some n

/-- The number of open blocks after some changes. -/
def openAfter (n : Nat) (es : List Event) : Option Nat := es.foldlM Event.openAfter n

@[simp] theorem openAfter_nil (n : Nat) : openAfter n [] = some n := rfl

@[simp] theorem openAfter_cons (n : Nat) (e : Event) (es : List Event) :
    openAfter n (e :: es) = (e.openAfter n).bind (openAfter · es) := rfl

theorem openAfter_opened {n m : Nat} (h : m = n + 1) : openAfter n [.opened] = some m := by
  subst h
  rfl

theorem openAfter_closed {n m : Nat} (h : n = m + 1) : openAfter n [.closed] = some m := by
  subst h
  rfl

theorem openAfter_append (n : Nat) (es fs : List Event) :
    openAfter n (es ++ fs) = (openAfter n es).bind (openAfter · fs) :=
  List.foldlM_append

namespace CodeBuilder

/-- A change moves the depth together with the number of open blocks. -/
theorem depth_apply {b : CodeBuilder} {d n m : Nat} {e : Event} (hb : b.depth = d + n)
    (h : e.openAfter n = some m) : (e.apply b).depth = d + m := by
  cases e with
  | opened =>
    cases h
    simp [Event.apply, hb, Nat.add_assoc]
  | closed =>
    cases n with
    | zero => cases h
    | succ k =>
      cases h
      simp [Event.apply, hb, ← Nat.add_assoc]
  | _ =>
    cases h
    exact hb

/-- The depth counts the open blocks on top of where it started. -/
theorem depth_after {b : CodeBuilder} {d n m : Nat} {es : List Event} (hb : b.depth = d + n)
    (h : openAfter n es = some m) : (b.after es).depth = d + m := by
  induction es generalizing b n with
  | nil =>
    cases h
    exact hb
  | cons e es ih =>
    obtain ⟨k, he, hes⟩ := Option.bind_eq_some_iff.mp h
    exact ih (depth_apply hb he) hes

end CodeBuilder

/-! ## Outlines -/

namespace Outline

/-- What happens when an outline is written. -/
def events : Outline → List Event
  | done => []
  | line t rest => .line t :: rest.events
  | raw t rest => .raw t :: rest.events
  | blank rest => .blank :: rest.events
  | block body rest => .opened :: body.events ++ .closed :: rest.events

theorem after_events (b : CodeBuilder) (o : Outline) : b.after o.events = b.write o := by
  induction o generalizing b with
  | done => rfl
  | line t rest ih => exact ih _
  | raw t rest ih => exact ih _
  | blank rest ih => exact ih _
  | block body rest ihb ihr =>
    simp only [events, List.cons_append, CodeBuilder.after_cons, CodeBuilder.after_append, Event.apply, ihb, ihr,
      CodeBuilder.write, CodeBuilder.block]

/-- In front of a block that is closed without being opened, events are those of one outline only. -/
theorem eq_of_events_append {o p : Outline} {es fs : List Event}
    (h : o.events ++ .closed :: es = p.events ++ .closed :: fs) : o = p ∧ es = fs := by
  -- the first event tells how both outlines begin, and the events of a body end at the first block that is closed there
  induction o generalizing p es fs with
  | done => cases p <;> simp_all [events]
  | line t o ih =>
    cases p <;> simp only [events, List.cons_append, List.nil_append, List.cons.injEq, reduceCtorEq, false_and] at h
    obtain ⟨⟨⟩, h⟩ := h
    obtain ⟨rfl, rfl⟩ := ih h
    exact ⟨rfl, rfl⟩
  | raw t o ih =>
    cases p <;> simp only [events, List.cons_append, List.nil_append, List.cons.injEq, reduceCtorEq, false_and] at h
    obtain ⟨⟨⟩, h⟩ := h
    obtain ⟨rfl, rfl⟩ := ih h
    exact ⟨rfl, rfl⟩
  | blank o ih =>
    cases p <;> simp only [events, List.cons_append, List.nil_append, List.cons.injEq, reduceCtorEq, false_and] at h
    obtain ⟨-, h⟩ := h
    obtain ⟨rfl, rfl⟩ := ih h
    exact ⟨rfl, rfl⟩
  | block body o ihb ihr =>
    cases p <;> simp only [events, List.cons_append, List.nil_append, List.append_assoc, List.cons.injEq, reduceCtorEq,
      false_and] at h
    obtain ⟨-, h⟩ := h
    obtain ⟨rfl, hrest⟩ := ihb h
    obtain ⟨rfl, rfl⟩ := ihr hrest
    exact ⟨rfl, rfl⟩

/-- An outline is told by its events. -/
theorem events_injective {o p : Outline} (h : o.events = p.events) : o = p :=
  (eq_of_events_append (show o.events ++ [.closed] = p.events ++ [.closed] by rw [h])).1

/-- Up to the end, or up to the first block that is closed without being opened there, events are those of an
outline. -/
theorem exists_events {n : Nat} {es : List Event} (h : openAfter n es = some 0) :
    ∃ (o : Outline) (rest : List Event), es = o.events ++ rest
      ∧ (n = 0 ∧ rest = [] ∨ ∃ k later, n = k + 1 ∧ rest = .closed :: later ∧ openAfter k later = some 0) := by
  match es with
  | [] =>
    cases h
    exact ⟨.done, [], rfl, .inl ⟨rfl, rfl⟩⟩
  | .line t :: es =>
    have hes : openAfter n es = some 0 := h
    obtain ⟨o, rest, rfl, hrest⟩ := exists_events hes
    exact ⟨.line t o, rest, rfl, hrest⟩
  | .raw t :: es =>
    have hes : openAfter n es = some 0 := h
    obtain ⟨o, rest, rfl, hrest⟩ := exists_events hes
    exact ⟨.raw t o, rest, rfl, hrest⟩
  | .blank :: es =>
    have hes : openAfter n es = some 0 := h
    obtain ⟨o, rest, rfl, hrest⟩ := exists_events hes
    exact ⟨.blank o, rest, rfl, hrest⟩
  | .opened :: es =>
    -- the body ends where its block is closed, and what is behind it is shorter
    have hes : openAfter (n + 1) es = some 0 := h
    obtain ⟨body, rest, rfl, ⟨hn, -⟩ | ⟨k, later, hk, rfl, hlater⟩⟩ := exists_events hes
    · cases hn
    · cases hk
      obtain ⟨o, rest, rfl, hrest⟩ := exists_events hlater
      exact ⟨.block body o, rest, by simp [events], hrest⟩
  | .closed :: es =>
    cases n with
    | zero => cases h
    | succ k => exact ⟨.done, .closed :: es, rfl, .inr ⟨k, es, rfl, rfl, h⟩⟩
termination_by es.length

/-- If all blocks are closed again, there is an outline that tells all that happened. -/
theorem exists_events_eq {es : List Event} (h : openAfter 0 es = some 0) : ∃ o : Outline, o.events = es := by
  obtain ⟨o, rest, rfl, ⟨-, rfl⟩ | ⟨k, later, hk, -⟩⟩ := exists_events h
  · exact ⟨o, by simp⟩
  · cases hk

end Outline

end ValueObjects
