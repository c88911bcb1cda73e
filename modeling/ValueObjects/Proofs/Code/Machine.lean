import ValueObjects.Code.Script
import ValueObjects.Proofs.Code.Events

/-!
# Scripts step by step

A script as a machine that makes one change of its builder at a time. Bodies are on a stack, each with the number of its
own blocks that are open; a body that is not the outermost one is inside a block that its caller opened for it. Running a
script is running the machine to its end, and every snapshot shows a state of the machine. Whichever way bodies are
left, the blocks that were opened are closed, innermost first.
-/

namespace ValueObjects

/-! ## States -/

/-- The script that writes an outline piece by piece and then goes on. -/
def Outline.script : Outline → Script → Script
  | done, next => next
  | line t rest, next => .act (.line t) (rest.script next)
  | raw t rest, next => .act (.raw t) (rest.script next)
  | blank rest, next => .act .blank (rest.script next)
  | block body rest, next => .block (body.script .done) (rest.script next)

/-- A body at work. -/
structure Frame where
  /-- What it has not done yet. -/
  rest : Script
  /-- How many of the blocks that it opened itself are open. -/
  live : Nat

/-- The bodies at work: the innermost one, and those around it from the inside out. -/
inductive Control
  | running (frame : Frame) (outer : List Frame)
  /-- After a panic, until the outermost body takes over. -/
  | unwinding (frame : Frame) (outer : List Frame)

namespace Control

/-- A script that nothing was done of. -/
def start (script : Script) : Control := running ⟨script, 0⟩ []

/-- A script that everything was done of. -/
def finished : Control := running ⟨.done, 0⟩ []

/-- How many blocks are open: those that bodies opened themselves, and one around each body but the outermost. -/
def live : Control → Nat
  | running frame outer | unwinding frame outer => outer.foldr (·.live + 1 + ·) 0 + frame.live

/-- The next step, with the change that it makes if it makes one. -/
def next : Control → Option (Option Event × Control)
  | running ⟨.act (.line t) rest, n⟩ outer => some (some (.line t), running ⟨rest, n⟩ outer)
  | running ⟨.act (.raw t) rest, n⟩ outer => some (some (.raw t), running ⟨rest, n⟩ outer)
  | running ⟨.act .blank rest, n⟩ outer => some (some .blank, running ⟨rest, n⟩ outer)
  | running ⟨.act (.write o) rest, n⟩ outer => some (none, running ⟨o.script rest, n⟩ outer)
  | running ⟨.act .look rest, n⟩ outer => some (none, running ⟨rest, n⟩ outer)
  | running ⟨.act (.fork _) rest, n⟩ outer => some (none, running ⟨rest, n⟩ outer)
  | running ⟨.openBlock rest, n⟩ outer => some (some .opened, running ⟨rest, n + 1⟩ outer)
  | running ⟨.closeBlock rest, 0⟩ outer => some (none, running ⟨rest, 0⟩ outer)
  | running ⟨.closeBlock rest, n + 1⟩ outer => some (some .closed, running ⟨rest, n⟩ outer)
  | running ⟨.block body rest, n⟩ outer => some (some .opened, running ⟨body, 0⟩ (⟨rest, n⟩ :: outer))
  | running ⟨.leave _, n⟩ outer => some (none, running ⟨.done, n⟩ outer)
  | running ⟨.panic rest, n⟩ outer => some (none, unwinding ⟨rest, n⟩ outer)
  | running ⟨.done, n + 1⟩ outer => some (some .closed, running ⟨.done, n⟩ outer)
  | running ⟨.done, 0⟩ (frame :: outer) => some (some .closed, running frame outer)
  | running ⟨.done, 0⟩ [] => none
  | unwinding ⟨rest, n + 1⟩ outer => some (some .closed, unwinding ⟨rest, n⟩ outer)
  | unwinding ⟨_, 0⟩ (frame :: outer) => some (some .closed, unwinding frame outer)
  | unwinding ⟨rest, 0⟩ [] => some (none, running ⟨rest, 0⟩ [])

/-- The machine gets from one state to another by a number of steps, which make some changes. -/
inductive Reaches : Control → List Event → Control → Prop
  | refl (c : Control) : Reaches c [] c
  | step {c mid last : Control} {e : Option Event} {es : List Event} (h : c.next = some (e, mid))
      (hrest : Reaches mid es last) : Reaches c (e.toList ++ es) last

theorem Reaches.trans {c mid last : Control} {es fs : List Event} (h : Reaches c es mid) (h' : Reaches mid fs last) :
    Reaches c (es ++ fs) last := by
  induction h with
  | refl c => exact h'
  | step hnext _ ih =>
    rw [List.append_assoc]
    exact .step hnext (ih h')

theorem Reaches.quiet {c mid last : Control} {es : List Event} (h : c.next = some (none, mid))
    (hrest : Reaches mid es last) : Reaches c es last :=
  .step h hrest

theorem Reaches.event {c mid last : Control} {e : Event} {es : List Event} (h : c.next = some (some e, mid))
    (hrest : Reaches mid es last) : Reaches c (e :: es) last :=
  .step h hrest

/-! ## Open blocks -/

/-- A step opens and closes as many blocks as the machine counts, and closes none if there is none. -/
theorem openAfter_next {c mid : Control} {e : Option Event} (h : c.next = some (e, mid)) :
    openAfter c.live e.toList = some mid.live := by
  unfold next at h
  split at h <;> cases h
  -- most steps leave the count alone, and the others change it by one, whichever body the block belongs to
  all_goals first
    | rfl
    | exact openAfter_opened (by simp only [live, List.foldr_cons]; omega)
    | exact openAfter_closed (by simp only [live, List.foldr_cons]; omega)

/-- So does any number of steps. -/
theorem openAfter_reaches {c last : Control} {es : List Event} (h : Reaches c es last) :
    openAfter c.live es = some last.live := by
  induction h with
  | refl c => rfl
  | step hnext _ ih => rw [openAfter_append, openAfter_next hnext, Option.bind_some, ih]

/-! ## Running -/

/-- The machine gets from one state to another while a session does, and it comes past every snapshot that is taken. -/
def Follows (c : Control) (s : Session) (last : Control) (s' : Session) : Prop :=
  ∃ es, Reaches c es last ∧ s'.builder = s.builder.after es
    ∧ ∀ shot ∈ s'.seen, shot ∈ s.seen ∨ ∃ fs mid, Reaches c fs mid ∧ shot.builder = s.builder.after fs

namespace Follows

variable {c mid last : Control} {s t s' : Session}

theorem refl (c : Control) (s : Session) : Follows c s c s :=
  ⟨[], .refl c, rfl, fun _ hshot => .inl hshot⟩

theorem trans (h : Follows c s mid t) (h' : Follows mid t last s') : Follows c s last s' := by
  obtain ⟨es, hreaches, hbuilder, hseen⟩ := h
  obtain ⟨fs, hreaches', hbuilder', hseen'⟩ := h'
  refine ⟨es ++ fs, hreaches.trans hreaches', by rw [hbuilder', hbuilder, CodeBuilder.after_append], ?_⟩
  intro shot hshot
  rcases hseen' shot hshot with hold | ⟨gs, between, hbetween, hshows⟩
  · exact hseen shot hold
  · exact .inr ⟨es ++ gs, between, hreaches.trans hbetween, by rw [hshows, hbuilder, CodeBuilder.after_append]⟩

/-- Changes without a snapshot. -/
theorem of_reaches {es : List Event} (h : Reaches c es last) (s : Session) :
    Follows c s last (s.quietly (·.after es)) :=
  ⟨es, h, rfl, fun _ hshot => .inl hshot⟩

theorem quiet (h : c.next = some (none, last)) (s : Session) : Follows c s last s :=
  of_reaches (.quiet h (.refl last)) s

theorem event (e : Event) (h : c.next = some (some e, last)) (s : Session) :
    Follows c s last (s.quietly fun b => e.apply b) :=
  of_reaches (.event h (.refl last)) s

/-- A snapshot shows the state that the machine is in. -/
theorem snap (h : Follows c s last s') (note : Note) : Follows c s last (s'.snap note) := by
  obtain ⟨es, hreaches, hbuilder, hseen⟩ := h
  refine ⟨es, hreaches, hbuilder, fun shot hshot => ?_⟩
  rcases List.mem_cons.mp hshot with rfl | hshot
  · exact .inr ⟨es, last, hreaches, hbuilder⟩
  · exact hseen shot hshot

theorem step (e : Event) (h : c.next = some (some e, last)) (s : Session) :
    Follows c s last (s.step fun b => e.apply b) :=
  (event e h s).snap .nothing

theorem look (h : c.next = some (none, last)) (note : Note) (s : Session) : Follows c s last (s.snap note) :=
  (quiet h s).snap note

end Follows

theorem reaches_script (o : Outline) (rest : Script) (n : Nat) (outer : List Frame) :
    Reaches (running ⟨o.script rest, n⟩ outer) o.events (running ⟨rest, n⟩ outer) := by
  induction o generalizing rest n outer with
  | done => exact .refl _
  | line t o ih => exact .event rfl (ih rest n outer)
  | raw t o ih => exact .event rfl (ih rest n outer)
  | blank o ih => exact .event rfl (ih rest n outer)
  | block body o ihb ihr =>
    have hbody := ihb .done 0 (⟨o.script rest, n⟩ :: outer)
    exact .event rfl (hbody.trans (.event rfl (ihr rest n outer)))

theorem follows_act (a : Action) (rest : Script) (n : Nat) (outer : List Frame) (s : Session) :
    Follows (running ⟨.act a rest, n⟩ outer) s (running ⟨rest, n⟩ outer) (a.run s) := by
  cases a with
  | line t => exact .step (.line t) rfl s
  | raw t => exact .step (.raw t) rfl s
  | blank => exact .step .blank rfl s
  | write o =>
    have hwrite : Follows (running ⟨.act (.write o) rest, n⟩ outer) s (running ⟨rest, n⟩ outer)
        (s.quietly (·.after o.events)) := .of_reaches (.quiet rfl (reaches_script o rest n outer)) s
    simp only [Outline.after_events] at hwrite
    exact hwrite.snap .nothing
  | look => exact .look rfl .text s
  | fork t => exact .look rfl _ s

/-- Blocks are closed one after another, whether the body came to its end or is unwound. -/
theorem follows_closeBlocks (stage : Nat → Control) (h : ∀ n, (stage (n + 1)).next = some (some .closed, stage n))
    (n : Nat) (s : Session) : Follows (stage n) s (stage 0) (s.quietly (.closeBlocks n)) := by
  induction n generalizing s with
  | zero => exact .refl _ s
  | succ n ih => exact (Follows.event .closed (h n) s).trans (ih _)

/-- What the machine does while a body is run: it comes to the end of the body, or it unwinds the body. -/
def Ends (c : Control) (outer : List Frame) (s : Session) : Exit × Session → Prop
  | (.finished, s') => Follows c s (running ⟨.done, 0⟩ outer) s'
  | (.panicked, s') => outer ≠ [] ∧ ∃ rest, Follows c s (unwinding ⟨rest, 0⟩ outer) s'

theorem Follows.ends {c mid : Control} {outer : List Frame} {s t : Session} {r : Exit × Session}
    (h : Follows c s mid t) (h' : Ends mid outer t r) : Ends c outer s r := by
  obtain ⟨exit, s'⟩ := r
  cases exit with
  | finished => exact h.trans h'
  | panicked => exact ⟨h'.1, h'.2.imp fun _ hrest => h.trans hrest⟩

theorem follows_done (n : Nat) (outer : List Frame) (s : Session) :
    Follows (running ⟨.done, n⟩ outer) s (running ⟨.done, 0⟩ outer) (s.quietly (.closeBlocks n)) :=
  follows_closeBlocks (fun n => running ⟨.done, n⟩ outer) (fun _ => rfl) n s

/-- A panic is passed on by a nested body, and the outermost one goes on. -/
theorem ends_unwinding {rest : Script} (live : Nat) (outer : List Frame) (s : Session)
    (hrest : ∀ t, Ends (running ⟨rest, 0⟩ []) [] t (rest.run false 0 t)) :
    Ends (unwinding ⟨rest, live⟩ outer) outer s
      (if !outer.isEmpty then (.panicked, s.quietly (.closeBlocks live))
        else rest.run (!outer.isEmpty) 0 ((s.quietly (.closeBlocks live)).snap .panicked)) := by
  have hclose : Follows (unwinding ⟨rest, live⟩ outer) s (unwinding ⟨rest, 0⟩ outer) (s.quietly (.closeBlocks live)) :=
    follows_closeBlocks (fun n => unwinding ⟨rest, n⟩ outer) (fun _ => rfl) live s
  cases outer with
  -- only the outermost body goes on with what it has left
  | nil => exact (hclose.trans (.look rfl .panicked _)).ends (hrest _)
  | cons frame outer => exact ⟨by simp, rest, hclose⟩

/-- The machine does what running a body does. -/
theorem ends_run (script : Script) (live : Nat) (outer : List Frame) (s : Session) :
    Ends (running ⟨script, live⟩ outer) outer s (script.run (!outer.isEmpty) live s) := by
  induction script generalizing live outer s with
  | done => exact follows_done live outer s
  | act a rest ih => exact (follows_act a rest live outer s).ends (ih live outer _)
  | openBlock rest ih => exact (Follows.step .opened rfl s).ends (ih (live + 1) outer _)
  | closeBlock rest ih =>
    cases live with
    | zero => exact (Follows.look rfl .ignored s).ends (ih 0 outer _)
    | succ n => exact (Follows.step .closed rfl s).ends (ih n outer _)
  | block body rest ihb ihr =>
    have hopen : Follows (running ⟨.block body rest, live⟩ outer) s (running ⟨body, 0⟩ (⟨rest, live⟩ :: outer))
        (s.step (·.openBlock)) := .step .opened rfl s
    have hbody := ihb 0 (⟨rest, live⟩ :: outer) (s.step (·.openBlock))
    unfold Script.run
    cases hrun : body.run true 0 (s.step (·.openBlock)) with
    | mk exit t =>
      have hends : Ends (running ⟨body, 0⟩ (⟨rest, live⟩ :: outer)) (⟨rest, live⟩ :: outer) (s.step (·.openBlock))
          (exit, t) := hrun ▸ hbody
      -- either way the caller's block is closed behind the body; after a panic the caller is unwound, too
      cases exit with
      | finished =>
        have hclosed : Follows (running ⟨.done, 0⟩ (⟨rest, live⟩ :: outer)) t (running ⟨rest, live⟩ outer)
            (t.step (·.closeBlock)) := .step .closed rfl t
        exact ((hopen.trans hends).trans hclosed).ends (ihr live outer _)
      | panicked =>
        obtain ⟨-, left, hunwind⟩ := hends
        have hclosed : Follows (unwinding ⟨left, 0⟩ (⟨rest, live⟩ :: outer)) t (unwinding ⟨rest, live⟩ outer)
            (t.quietly (·.closeBlock)) := .event .closed rfl t
        exact ((hopen.trans hunwind).trans hclosed).ends (ends_unwinding live outer _ (ihr 0 []))
  | leave rest ih => exact (Follows.quiet rfl s).trans (follows_done live outer s)
  | panic rest ih => exact (Follows.quiet rfl s).ends (ends_unwinding live outer s (ih 0 []))

/-- Playing a script leads the machine from its start to its end, past all snapshots. -/
theorem reaches_play (script : Script) (b : CodeBuilder) :
    (∃ es, Reaches (start script) es finished ∧ (script.play b).1 = b.after es)
      ∧ ∀ shot ∈ (script.play b).2, ∃ es c, Reaches (start script) es c ∧ shot.builder = b.after es := by
  have hends : Ends (start script) [] ⟨b, []⟩ (script.run false 0 ⟨b, []⟩) := ends_run script 0 [] ⟨b, []⟩
  unfold Script.play
  cases hrun : script.run false 0 ⟨b, []⟩ with
  | mk exit s =>
    rw [hrun] at hends
    cases exit with
    | panicked => exact absurd rfl hends.1
    | finished =>
      obtain ⟨es, hreaches, hbuilder, hseen⟩ := hends
      refine ⟨⟨es, hreaches, hbuilder⟩, fun shot hshot => ?_⟩
      exact (hseen shot (List.mem_reverse.mp hshot)).resolve_left (List.not_mem_nil)

end Control

/-! ## Blocks -/

/-- What is known of a builder when a script made some changes of it and has not come further than to a state. -/
structure BlocksKept (b : CodeBuilder) (es : List Event) (c : Control) : Prop where
  /-- The depth counts the open blocks on top of those that were open at first. -/
  depth : (b.after es).depth = b.depth + c.live
  /-- Nothing of the text is taken back later. -/
  grows : ∀ fs later, c.Reaches fs later → ∃ added, (b.after (es ++ fs)).text = (b.after es).text ++ added
  /-- Only a block that the script opened is closed, so the depth is never cut off. -/
  closes : ∀ mid, c.next = some (some .closed, mid) → b.depth < (b.after es).depth
  /-- When all blocks are closed, there is exactly one outline that tells what happened, and its printed form is what
  was added. -/
  released : c.live = 0 → ∃ o : Outline, o.events = es ∧ (∀ p : Outline, p.events = es → p = o)
    ∧ b.after es = ⟨b.depth, b.text ++ o.print b.depth⟩

/-- Wherever a script is, its blocks are in order. -/
theorem blocksKept_of_reaches {script : Script} (b : CodeBuilder) {es : List Event} {c : Control}
    (h : (Control.start script).Reaches es c) : BlocksKept b es c := by
  have hlive : openAfter 0 es = some c.live := Control.openAfter_reaches h
  have hdepth : (b.after es).depth = b.depth + c.live := CodeBuilder.depth_after rfl hlive
  constructor
  case depth => exact hdepth
  case grows =>
    intro fs later _
    rw [CodeBuilder.after_append]
    exact (b.after es).text_after fs
  case closes =>
    intro mid hnext
    have hopen := Control.openAfter_next hnext
    cases hc : c.live with
    | zero =>
      rw [hc] at hopen
      cases hopen
    | succ n => omega
  case released =>
    intro hnone
    rw [hnone] at hlive
    obtain ⟨o, rfl⟩ := Outline.exists_events_eq hlive
    refine ⟨o, rfl, fun p hp => Outline.events_injective hp, ?_⟩
    rw [Outline.after_events, CodeBuilder.write_eq]

/-- Whatever a script does, in every state on the way its blocks are in order. It comes to its end with all of them
closed, so it adds the printed form of the outline that tells what it did. -/
theorem Script.play_keeps_blocks (script : Script) (b : CodeBuilder) :
    (∀ es c, (Control.start script).Reaches es c → BlocksKept b es c)
      ∧ (∀ shot ∈ (script.play b).2, ∃ es c, (Control.start script).Reaches es c ∧ shot.builder = b.after es)
      ∧ ∃ o : Outline, (Control.start script).Reaches o.events .finished
        ∧ (script.play b).1 = ⟨b.depth, b.text ++ o.print b.depth⟩ := by
  obtain ⟨⟨es, hreaches, hbuilder⟩, hseen⟩ := Control.reaches_play script b
  obtain ⟨o, rfl, -, hprint⟩ := (blocksKept_of_reaches b hreaches).released rfl
  exact ⟨fun es c h => blocksKept_of_reaches b h, hseen, o, hreaches, hbuilder.trans hprint⟩

end ValueObjects
