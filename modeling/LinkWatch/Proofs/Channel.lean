import Mathlib.Data.List.Induction
import LinkWatch.Observer

/-!
# What comes through an event channel

The observer at one end of a channel turns every call back into an event again (`notify_observer`),
so that the reader at the other end gets what the observer was told. The two ends are used and dropped
in any order (`run`).

What was polled and what is still queued are always the events that were sent while somebody could
read them (`Carries`). So the reader gets these events in order, is told to wait when there is none
left and the end when none can come any more (`polled_events_are_sent`).
-/

namespace LinkWatch

/-- The event that a poll gives. -/
def Poll.event? : Poll → Option Event
  | .event e => some e
  | _ => none

/-- The events that polls give. -/
def Poll.events (answers : List Poll) : List Event := answers.filterMap Poll.event?

theorem Poll.events_concat (answers : List Poll) (p : Poll) :
    events (answers ++ [p]) = events answers ++ p.event?.toList := by
  rw [events, List.filterMap_append]
  cases p <;> rfl

namespace Channel

variable {c : Channel}

/-! ## Sending -/

/-- Whatever the channel is told of is sent as it is. -/
theorem notify_observer (e : Event) (c : Channel) : e.notify observer c = c.send e := by
  cases e with
  | added i => rfl
  | removed i => rfl
  | changed i f => cases f <;> rfl

/-- As long as somebody can read them, events queue up in the order in which they were told. -/
theorem queue_foldl_notify (es : List Event) (h : c.streamAlive = true) :
    (es.foldl (fun c e => e.notify observer c) c).queue = c.queue ++ es := by
  induction es generalizing c with
  | nil => simp
  | cons e es ih =>
    have hsend : c.send e = { c with queue := c.queue ++ [e] } := if_pos h
    have hrest := ih (c := { c with queue := c.queue ++ [e] }) h
    rw [List.foldl_cons, notify_observer, hsend, hrest, List.append_assoc, List.singleton_append]

/-! ## Reading -/

/-- With nothing queued, a poll says to wait as long as something may still come. -/
theorem poll_of_queue_eq_nil (h : c.queue = []) :
    c.poll = (if c.observerAlive && c.streamAlive then .pending else .finished, c) := by
  rw [poll, h]

/-- What was queued first is polled first, whoever was dropped in the meantime. -/
theorem poll_of_queue_eq_cons {e : Event} {r : List Event} (h : c.queue = e :: r) :
    c.poll = (.event e, { c with queue := r }) := by
  rw [poll, h]

/-- Reading takes events from the front of the queue. -/
theorem readAll_eq_take (n : Nat) (c : Channel) : (c.readAll n).1 = c.queue.take n := by
  induction n generalizing c with
  | zero => rfl
  | succ n ih =>
    obtain ⟨_ | ⟨e, r⟩, observer, stream⟩ := c
    · rw [readAll, poll]
      cases observer <;> cases stream <;> rfl
    · exact congrArg (e :: ·) (ih ⟨r, observer, stream⟩)

/-! ## Runs -/

/-- What can be done with the two ends of a channel. -/
inductive Action where
  /-- The observer is told of an event. -/
  | notify (e : Event)
  | poll
  | dropObserver
  | dropStream
deriving DecidableEq

/-- The event that the observer is told of. -/
def Action.event? : Action → Option Event
  | .notify e => some e
  | _ => none

/-- One action, with the answer if it is a poll. -/
def act (c : Channel) : Action → Option Poll × Channel
  | .notify e => (none, e.notify observer c)
  | .poll => (some c.poll.1, c.poll.2)
  | .dropObserver => (none, c.dropObserver)
  | .dropStream => (none, c.dropStream)

/-- Actions in order, with the answers of the polls. -/
def run (c : Channel) : List Action → List Poll × Channel
  | [] => ([], c)
  | a :: r =>
    let (answer, c) := c.act a
    let (answers, c) := c.run r
    (answer.toList ++ answers, c)

theorem run_append_singleton (actions : List Action) (a : Action) :
    c.run (actions ++ [a]) =
      ((c.run actions).1 ++ ((c.run actions).2.act a).1.toList, ((c.run actions).2.act a).2) := by
  induction actions generalizing c with
  | nil => simp [run]
  | cons b actions ih => simp [run, ih]

/-! ## The ends -/

/-- An end stays alive until it is dropped. -/
theorem alive_act (c : Channel) (a : Action) :
    ((c.act a).2.observerAlive = true ↔ c.observerAlive = true ∧ a ≠ .dropObserver) ∧
      ((c.act a).2.streamAlive = true ↔ c.streamAlive = true ∧ a ≠ .dropStream) := by
  cases a with
  | notify e =>
    rw [act, notify_observer, send]
    split <;> simp
  | poll =>
    rw [act, poll]
    split <;> simp
  | dropObserver => simp [act, dropObserver]
  | dropStream => simp [act, dropStream]

/-- An end of the channel is alive until it is dropped. -/
theorem alive_run (actions : List Action) :
    ((new.run actions).2.observerAlive = true ↔ .dropObserver ∉ actions) ∧
      ((new.run actions).2.streamAlive = true ↔ .dropStream ∉ actions) := by
  induction actions using List.reverseRecOn with
  | nil => simp [run, new]
  | append_singleton actions a ih =>
    obtain ⟨hobserver, hstream⟩ := alive_act (new.run actions).2 a
    simp only [run_append_singleton, hobserver, hstream, ih.1, ih.2, List.mem_append,
      List.mem_singleton, not_or, ne_comm, ne_eq, and_self]

/-- Every poll is answered, and nothing else. -/
theorem length_run (actions : List Action) (c : Channel) :
    (c.run actions).1.length = actions.count .poll := by
  induction actions generalizing c with
  | nil => rfl
  | cons a actions ih =>
    rw [run, List.length_append, ih, List.count_cons, Nat.add_comm]
    cases a <;> rfl

/-! ## What is sent -/

/-- The events of which the observer was told while the stream was alive. -/
def sent (actions : List Action) : List Event :=
  (actions.takeWhile (· ≠ .dropStream)).filterMap Action.event?

/-- Nothing counts as sent after the stream was dropped. -/
theorem sent_cons (a : Action) (actions : List Action) :
    sent (a :: actions) = if a = .dropStream then [] else a.event?.toList ++ sent actions := by
  by_cases ha : a = .dropStream
  · simp [sent, ha]
  · cases hevent : a.event? <;> simp [sent, ha, hevent]

/-- What the observer is told after the stream was dropped does not count. -/
theorem sent_append_singleton (actions : List Action) (a : Action) :
    sent (actions ++ [a]) =
      sent actions ++ if .dropStream ∈ actions then [] else a.event?.toList := by
  induction actions with
  | nil => cases a <;> rfl
  | cons b actions ih =>
    rw [List.cons_append, sent_cons, sent_cons, ih]
    by_cases hb : b = .dropStream
    · simp [hb]
    · have hne : ¬ Action.dropStream = b := fun heq => hb heq.symm
      simp [hb, hne]

/-- An action by which the observer is told nothing sends nothing. -/
theorem sent_append_of_event?_eq_none (actions : List Action) {a : Action}
    (ha : a.event? = none) : sent (actions ++ [a]) = sent actions := by
  rw [sent_append_singleton, ha]
  split <;> exact List.append_nil _

/-! ## What is carried -/

/-- After some actions and answers: what was polled and what is still queued are the events that
were sent, and once the stream was dropped nothing is queued. -/
structure Carries (actions : List Action) (answers : List Poll) (c : Channel) : Prop where
  queue : c.streamAlive = true → Poll.events answers ++ c.queue = sent actions
  lost : c.streamAlive = false → c.queue = []
  polled : Poll.events answers <+: sent actions

theorem carries_new : Carries [] [] new where
  queue _ := rfl
  lost _ := rfl
  polled := List.prefix_rfl

namespace Carries

variable {actions : List Action} {answers : List Poll}

/-- An event that can be read is queued behind the others. -/
theorem notify (h : Carries actions answers c)
    (hstream : c.streamAlive = true ↔ .dropStream ∉ actions) (e : Event) :
    Carries (actions ++ [.notify e]) answers (e.notify observer c) := by
  have hpolled : Poll.events answers <+: sent (actions ++ [.notify e]) := by
    rw [sent_append_singleton]
    exact h.polled.trans (List.prefix_append _ _)
  rw [notify_observer, send]
  split
  · next halive =>
    refine ⟨fun _ => ?_, fun hdropped => ?_, hpolled⟩
    · rw [sent_append_singleton, if_neg (hstream.1 halive), ← h.queue halive, List.append_assoc]
      rfl
    · exact absurd (halive.symm.trans hdropped) (by decide)
  · next hdropped =>
    -- nobody is left to read the event
    exact ⟨fun halive => absurd halive hdropped, h.lost, hpolled⟩

/-- A poll moves the first event of the queue to the answers. -/
theorem poll (h : Carries actions answers c) :
    Carries (actions ++ [.poll]) (answers ++ [c.poll.1]) c.poll.2 := by
  have hsent : sent (actions ++ [.poll]) = sent actions := sent_append_of_event?_eq_none _ rfl
  cases hq : c.queue with
  | nil =>
    -- nothing is taken, and the answer is no event
    have hevents : Poll.events (answers ++ [c.poll.1]) = Poll.events answers := by
      rw [Poll.events_concat, poll_of_queue_eq_nil hq]
      split <;> exact List.append_nil _
    have hsame : c.poll.2 = c := by rw [poll_of_queue_eq_nil hq]
    rw [hsame]
    refine ⟨fun halive => ?_, h.lost, ?_⟩
    · rw [hevents, hsent]
      exact h.queue halive
    · rw [hevents, hsent]
      exact h.polled
  | cons e r =>
    -- an event is queued, so that the stream cannot have been dropped
    have halive : c.streamAlive = true := by
      by_contra hdropped
      have hnil : c.queue = [] := h.lost (Bool.eq_false_iff.2 hdropped)
      exact List.cons_ne_nil e r (hq.symm.trans hnil)
    have hmoved : Poll.events (answers ++ [.event e]) ++ r = sent (actions ++ [.poll]) := by
      rw [hsent, Poll.events_concat, ← h.queue halive, hq, List.append_assoc]
      rfl
    rw [poll_of_queue_eq_cons hq]
    refine ⟨fun _ => hmoved, fun hdropped => ?_, ⟨r, hmoved⟩⟩
    exact absurd (halive.symm.trans hdropped) (by decide)

/-- Dropping the observer leaves what is queued. -/
theorem dropObserver (h : Carries actions answers c) :
    Carries (actions ++ [.dropObserver]) answers c.dropObserver := by
  have hsent : sent (actions ++ [.dropObserver]) = sent actions :=
    sent_append_of_event?_eq_none _ rfl
  exact ⟨fun halive => (h.queue halive).trans hsent.symm, h.lost, hsent ▸ h.polled⟩

/-- Once the stream is dropped, no event that is told counts as sent. -/
theorem dropStream (h : Carries actions answers c) :
    Carries (actions ++ [.dropStream]) answers c.dropStream := by
  have hsent : sent (actions ++ [.dropStream]) = sent actions :=
    sent_append_of_event?_eq_none _ rfl
  refine ⟨fun halive => ?_, fun _ => rfl, hsent ▸ h.polled⟩
  exact absurd halive (by simp [Channel.dropStream])

theorem act (h : Carries actions answers c)
    (hstream : c.streamAlive = true ↔ .dropStream ∉ actions) (a : Action) :
    Carries (actions ++ [a]) (answers ++ (c.act a).1.toList) (c.act a).2 := by
  cases a with
  | notify e => simpa [Channel.act] using h.notify hstream e
  | poll => exact h.poll
  | dropObserver => simpa [Channel.act] using h.dropObserver
  | dropStream => simpa [Channel.act] using h.dropStream

/-- Whatever is done, the channel carries what was sent. -/
theorem run (actions : List Action) : Carries actions (new.run actions).1 (new.run actions).2 := by
  induction actions using List.reverseRecOn with
  | nil => exact carries_new
  | append_singleton actions a ih =>
    rw [run_append_singleton]
    exact ih.act (alive_run actions).2 a

/-- What the next poll answers, in terms of what was sent and what was polled. -/
theorem answer (h : Carries actions answers c) (halive : c.streamAlive = true) :
    (∀ e, c.poll.1 = .event e ↔ Poll.events answers ++ [e] <+: sent actions) ∧
      (c.poll.1 = .pending ↔ Poll.events answers = sent actions ∧ c.observerAlive = true) ∧
      (c.poll.1 = .finished ↔ Poll.events answers = sent actions ∧ ¬ c.observerAlive = true) := by
  have hnext (e : Event) : Poll.events answers ++ [e] <+: Poll.events answers ++ c.queue ↔
      [e] <+: c.queue := List.prefix_append_right_inj _
  -- what is still to be polled is what is queued
  have hall : Poll.events answers = sent actions ↔ c.queue = [] := by
    rw [← h.queue halive, List.self_eq_append_right]
  rw [hall, ← h.queue halive]
  simp only [hnext]
  cases hq : c.queue with
  | nil =>
    rw [poll_of_queue_eq_nil hq, halive]
    cases c.observerAlive <;> simp
  | cons e r =>
    rw [poll_of_queue_eq_cons hq]
    have hfirst (e' : Event) : Poll.event e = .event e' ↔ [e'] <+: e :: r := by
      rw [Poll.event.injEq, eq_comm]
      simp [List.cons_prefix_cons]
    exact ⟨hfirst, by simp, by simp⟩

end Carries

/-! ## Main result -/

/-- However the observer is told of events, the stream is polled and either end is dropped, every
poll is answered, and the polled events are the first of those of which the observer was told while
the stream was alive, in order and each once. As long as the stream is alive, the next poll gives an
event if and only if it is the next of these; it says to wait if and only if all of them were polled
and the observer is alive, and the end if and only if all were polled and the observer was dropped.
After the stream was dropped, telling the observer of events changes nothing. -/
theorem polled_events_are_sent (actions : List Action) :
    (new.run actions).1.length = actions.count .poll ∧
      Poll.events (new.run actions).1 <+: sent actions ∧
      (.dropStream ∉ actions →
        ∃ p, (new.run (actions ++ [.poll])).1 = (new.run actions).1 ++ [p] ∧
          (∀ e, p = .event e ↔ Poll.events (new.run actions).1 ++ [e] <+: sent actions) ∧
          (p = .pending ↔
            Poll.events (new.run actions).1 = sent actions ∧ .dropObserver ∉ actions) ∧
          (p = .finished ↔
            Poll.events (new.run actions).1 = sent actions ∧ .dropObserver ∈ actions)) ∧
      (.dropStream ∈ actions → ∀ e, new.run (actions ++ [.notify e]) = new.run actions) := by
  have h := Carries.run actions
  obtain ⟨hobserver, hstream⟩ := alive_run actions
  refine ⟨length_run actions new, h.polled, fun hkept => ?_, fun hdropped e => ?_⟩
  · obtain ⟨hevent, hpending, hfinished⟩ := h.answer (hstream.2 hkept)
    refine ⟨(new.run actions).2.poll.1, ?_, hevent, ?_, ?_⟩
    · rw [run_append_singleton]
      rfl
    · rw [hpending, hobserver]
    · rw [hfinished, hobserver, not_not]
  · have hgone : ¬ (new.run actions).2.streamAlive = true := fun halive => hstream.1 halive hdropped
    rw [run_append_singleton, act, notify_observer, send, if_neg hgone]
    exact congrArg (·, (new.run actions).2) (List.append_nil _)

example (i : Interface) :
    (new.run [.notify (.added i), .poll, .poll, .notify (.removed i), .dropObserver, .poll,
      .poll]).1 = [.event (.added i), .pending, .event (.removed i), .finished] := rfl

end Channel
end LinkWatch
