import ComposingProxy.Shutdown
import Mathlib.Data.List.GetD
import Mathlib.Data.Set.Card

/-!
# What has happened since

The channel of a shutdown keeps one message, so a second telling of the event pushes the first
one out, and a listener that has not asked in time is told that it has missed it. For someone who
waits this makes no difference: what counts is where the listener stands among all
messages that were ever sent. Whoever waits is ready as soon as one was sent after it came,
kept or not, or the sender is gone:

> `Shutdown.answer_eq`: waiting goes on only where the listener has come to the end of an open
> channel.
> `Shutdown.answer_iff_foretold`: so what waiting comes to is known from what was done with the
> shutdown since the listener came, and the event is told to those that have not gone since.

`Tracks` is the invariant: it relates the channel to the actions so far, and each action
keeps it (`Tracks.act`).
-/

namespace ComposingProxy

/-! ## Listeners -/

namespace Listener

/-- One more listener is found behind the others. -/
theorem getD_concat (listeners : List Listener) (last : Listener) (number : Nat) :
    (listeners ++ [last]).getD number .gone =
      if number = listeners.length then last else listeners.getD number .gone := by
  by_cases hlt : number < listeners.length
  · rw [List.getD_append _ _ _ _ hlt, if_neg (Nat.ne_of_lt hlt)]
  · have hge := Nat.not_lt.mp hlt
    rw [List.getD_append_right _ _ _ _ hge, List.getD_eq_default _ _ hge]
    by_cases heq : number = listeners.length
    · rw [if_pos heq, heq, Nat.sub_self]
      rfl
    · rw [if_neg heq, List.getD_eq_default]
      simp only [List.length_singleton]
      omega

/-- As many listeners are there as there are numbers of such. -/
theorem countP_isThere (listeners : List Listener) :
    listeners.countP isThere = {number | listeners.getD number .gone ≠ .gone}.ncard := by
  induction listeners using List.reverseRecOn with
  | nil => simp
  | append_singleton front last ih =>
    rw [List.countP_append, ih]
    cases last with
    | gone =>
      -- whoever is gone adds no number
      have hsame : ∀ number,
          (front ++ [Listener.gone]).getD number .gone = front.getD number .gone := by
        intro number
        rw [getD_concat]
        split
        · next heq => rw [heq, List.getD_eq_default _ _ (Nat.le_refl _)]
        · rfl
      simp only [hsame]
      rfl
    | awaits next =>
      have hnumbers : {number | (front ++ [Listener.awaits next]).getD number .gone ≠ .gone} =
          insert front.length {number | front.getD number .gone ≠ .gone} := by
        ext number
        rw [Set.mem_ofPred_eq, getD_concat, Set.mem_insert_iff, Set.mem_ofPred_eq]
        split
        · next heq => simp [heq]
        · next hne => simp [hne]
      have hfinite : {number | front.getD number .gone ≠ .gone}.Finite := by
        refine (Set.finite_lt_nat front.length).subset fun number hthere => ?_
        by_contra hlt
        exact hthere (List.getD_eq_default _ _ (Nat.not_lt.mp hlt))
      have hnew : front.length ∉ {number | front.getD number .gone ≠ .gone} := by
        simp
      rw [hnumbers, Set.ncard_insert_of_notMem hnew hfinite]
      rfl

end Listener

namespace Broadcast

variable {α : Type} {channel : Broadcast α} {number next : Nat}

/-! ## The channel -/

theorem listener_setListener_gone (channel : Broadcast α) (number other : Nat) :
    (channel.setListener number .gone).listener other =
      if other = number then .gone else channel.listener other := by
  unfold listener setListener
  simp only [List.getD_eq_getElem?_getD, List.getElem?_set]
  by_cases heq : other = number
  · subst heq
    by_cases hlt : other < channel.listeners.length <;> simp [hlt]
  · rw [if_neg (Ne.symm heq), if_neg heq]

/-- Who waits has a number that was given out. -/
theorem lt_length_of_listener (h : channel.listener number = .awaits next) :
    number < channel.listeners.length := by
  by_contra hlt
  rw [listener, List.getD_eq_default _ _ (Nat.not_lt.mp hlt)] at h
  exact absurd h (by simp)

/-- A listener that stays where it is leaves the channel as it is. -/
theorem setListener_self (h : channel.listener number = .awaits next) :
    channel.setListener number (.awaits next) = channel := by
  have hlt := lt_length_of_listener h
  rw [listener, List.getD_eq_getElem _ _ hlt] at h
  rw [setListener, ← h, List.set_getElem_self]

/-- A new listener waits for the next message and the others for what they waited for. -/
theorem listener_subscribe (channel : Broadcast α) (number : Nat) :
    channel.subscribe.listener number =
      if number = channel.listeners.length then .awaits channel.sent
      else channel.listener number :=
  Listener.getD_concat channel.listeners _ number

/-- The audience counts the listeners that are not gone. -/
theorem audience_eq_ncard (channel : Broadcast α) :
    channel.audience = {number | channel.listener number ≠ .gone}.ncard :=
  Listener.countP_isThere channel.listeners

/-- However few messages are kept, one more was sent. -/
theorem sent_store (channel : Broadcast α) (value : α) :
    (channel.store value).sent = channel.sent + 1 := by
  simp only [sent, store, List.length_drop, List.length_append, List.length_singleton]
  omega

/-- A listener hears nothing only at the end of an open channel, and stays there then. -/
theorem hear_fst_eq_nothing_iff :
    (channel.hear next).1 = .nothing ↔ channel.sent ≤ next ∧ channel.isOpen = true := by
  unfold hear sent
  by_cases hmissed : next < channel.forgotten
  · rw [if_pos hmissed]
    simp only [reduceCtorEq, false_iff, not_and]
    omega
  · rw [if_neg hmissed]
    by_cases hkept : next - channel.forgotten < channel.kept.length
    · rw [List.getElem?_eq_getElem hkept]
      simp only [reduceCtorEq, false_iff, not_and]
      omega
    · rw [List.getElem?_eq_none (Nat.not_lt.mp hkept)]
      have hle : channel.forgotten + channel.kept.length ≤ next := by omega
      cases channel.isOpen <;> simp [hle]

/-- Where there is nothing to hear, a listener goes on waiting for the same message. -/
theorem hear_snd_of_nothing (h : (channel.hear next).1 = .nothing) :
    (channel.hear next).2 = next := by
  unfold hear at h ⊢
  split at h
  · exact absurd h (by simp)
  · next hkept =>
    rw [if_neg hkept]
    split at h
    · exact absurd h (by simp)
    · rfl

/-- No listener waits for a later message than the next one. -/
def IsCurrent (channel : Broadcast α) : Prop :=
  ∀ number next, channel.listener number = .awaits next → next ≤ channel.sent

end Broadcast

/-! ## What waiting comes to -/

namespace Shutdown

variable {shutdown : Shutdown} {number other : Nat}

/-- What someone who waits is told. -/
def answer (shutdown : Shutdown) (number : Nat) : Waiting := (shutdown.ask number).1

/-- What a listener is told when so many messages were sent. -/
def told (sent : Nat) (isOpen : Bool) : Listener → Waiting
  | .gone => .gone
  | .awaits next => if sent ≤ next ∧ isOpen = true then .pending else .ready

theorem told_eq_gone_iff {sent : Nat} {isOpen : Bool} {listener : Listener} :
    told sent isOpen listener = .gone ↔ listener = .gone := by
  cases listener with
  | gone => simp [told]
  | awaits next =>
    rw [told]
    split <;> simp

/-- Waiting goes on only at the end of an open channel. All that can be heard ends it, also that a
message was missed. -/
theorem answer_eq (shutdown : Shutdown) (number : Nat) :
    shutdown.answer number =
      told shutdown.channel.sent shutdown.channel.isOpen (shutdown.channel.listener number) := by
  unfold answer ask
  cases shutdown.channel.listener number with
  | gone => rfl
  | awaits next =>
    dsimp only [told]
    by_cases hnothing : (shutdown.channel.hear next).1 = .nothing
    · rw [if_pos hnothing, if_pos (Broadcast.hear_fst_eq_nothing_iff.mp hnothing)]
    · rw [if_neg hnothing, if_neg (mt Broadcast.hear_fst_eq_nothing_iff.mpr hnothing)]

theorem answer_eq_gone_iff :
    shutdown.answer number = .gone ↔ shutdown.channel.listener number = .gone := by
  rw [answer_eq, told_eq_gone_iff]

/-- Being told that the event has happened uses a listener up, and being told nothing changes
nothing. -/
theorem ask_snd (shutdown : Shutdown) (number : Nat) :
    (shutdown.ask number).2 =
      if shutdown.answer number = .ready then (shutdown.leave number).2 else shutdown := by
  have hanswer := shutdown.answer_eq number
  unfold ask
  cases hlistener : shutdown.channel.listener number with
  | gone =>
    rw [hlistener, told] at hanswer
    rw [if_neg (by simp [hanswer])]
  | awaits next =>
    rw [hlistener, told] at hanswer
    dsimp only
    by_cases hnothing : (shutdown.channel.hear next).1 = .nothing
    · rw [if_pos (Broadcast.hear_fst_eq_nothing_iff.mp hnothing)] at hanswer
      rw [if_pos hnothing, if_neg (by simp [hanswer]), Broadcast.hear_snd_of_nothing hnothing,
        Broadcast.setListener_self hlistener]
    · rw [if_neg (mt Broadcast.hear_fst_eq_nothing_iff.mpr hnothing)] at hanswer
      rw [if_neg hnothing, if_pos hanswer]

/-- Asking once uses a listener up, whatever it is told. -/
theorem wait_snd (shutdown : Shutdown) (number : Nat) :
    (shutdown.wait number).2 = (shutdown.leave number).2 := by
  show ((shutdown.ask number).2.leave number).2 = _
  rw [ask_snd]
  split
  · -- it is taken away twice
    simp only [leave, Broadcast.setListener, List.set_set]
  · rfl

/-! ### After one action -/

/-- Leaving changes the answer for who leaves. -/
theorem answer_leave (shutdown : Shutdown) (number other : Nat) :
    (shutdown.leave number).2.answer other =
      if other = number then .gone else shutdown.answer other := by
  rw [answer_eq, answer_eq, leave, Broadcast.listener_setListener_gone]
  by_cases heq : other = number
  · rw [if_pos heq, if_pos heq]
    rfl
  · rw [if_neg heq, if_neg heq]
    rfl

/-- Asking uses up the answer if it is there, and changes nothing for others. -/
theorem answer_ask (shutdown : Shutdown) (number other : Nat) :
    (shutdown.ask number).2.answer other =
      if other = number ∧ shutdown.answer number = .ready then .gone
      else shutdown.answer other := by
  rw [ask_snd]
  by_cases hready : shutdown.answer number = .ready
  · rw [if_pos hready, answer_leave]
    simp only [hready, and_true]
  · rw [if_neg hready, if_neg fun hboth => hready hboth.2]

/-- Waiting uses up the listener. -/
theorem answer_wait (shutdown : Shutdown) (number other : Nat) :
    (shutdown.wait number).2.answer other =
      if other = number then .gone else shutdown.answer other := by
  rw [wait_snd, answer_leave]

/-- A new listener has everything still to come. -/
theorem answer_subscribe (hopen : shutdown.channel.isOpen = true) (number : Nat) :
    answer { channel := shutdown.channel.subscribe } number =
      if number = shutdown.channel.listeners.length then .pending
      else shutdown.answer number := by
  rw [answer_eq, answer_eq, Broadcast.listener_subscribe]
  by_cases heq : number = shutdown.channel.listeners.length
  · rw [if_pos heq, if_pos heq]
    exact if_pos ⟨Nat.le_refl _, hopen⟩
  · rw [if_neg heq, if_neg heq]
    rfl

/-- Whoever is there when the event is told is ready from then on. -/
theorem answer_store (hcurrent : shutdown.channel.IsCurrent) (number : Nat) :
    answer { channel := shutdown.channel.store () } number =
      if shutdown.answer number = .gone then .gone else .ready := by
  simp only [answer_eq_gone_iff]
  rw [answer_eq]
  show told _ _ (shutdown.channel.listener number) = _
  cases hthere : shutdown.channel.listener number with
  | gone => rfl
  | awaits next =>
    have hle := hcurrent number next hthere
    rw [told, Broadcast.sent_store, if_neg fun hend => by omega, if_neg (by simp)]

/-- When the sender goes, all who wait are ready. -/
theorem answer_close (shutdown : Shutdown) (number : Nat) :
    answer { channel := { shutdown.channel with isOpen := false } } number =
      if shutdown.answer number = .gone then .gone else .ready := by
  simp only [answer_eq_gone_iff]
  rw [answer_eq]
  show told _ _ (shutdown.channel.listener number) = _
  cases shutdown.channel.listener number with
  | gone => rfl
  | awaits next => rw [told, if_neg (by simp), if_neg (by simp)]

/-! ## Histories -/

/-- What may be done with a shutdown. -/
inductive Action where
  | subscribe
  | trigger
  /-- The sender is dropped. -/
  | close
  /-- A listener is dropped. -/
  | leave (number : Nat)
  /-- Someone who waits asks, and waits on if nothing has happened. -/
  | ask (number : Nat)
  /-- Someone asks once and does not wait on. -/
  | wait (number : Nat)
  deriving DecidableEq, Repr

/-- A shutdown after an action. What needs a sender that is gone cannot be done. -/
def act (shutdown : Shutdown) : Action → Shutdown
  | .subscribe => (shutdown.subscribe?.map (·.2)).getD shutdown
  | .trigger => (shutdown.trigger?.map (·.2)).getD shutdown
  | .close => shutdown.close?.getD shutdown
  | .leave number => (shutdown.leave number).2
  | .ask number => (shutdown.ask number).2
  | .wait number => (shutdown.wait number).2

/-- What an action makes of the answer that a listener would get. -/
def turned (action : Action) (number : Nat) (answer : Waiting) : Waiting :=
  match action with
  | .subscribe => answer
  | .trigger | .close => if answer = .gone then .gone else .ready
  | .leave other | .wait other => if number = other then .gone else answer
  | .ask other => if number = other ∧ answer = .ready then .gone else answer

/-- Where there is a sender, a listener is added. -/
theorem act_subscribe (shutdown : Shutdown) :
    shutdown.act .subscribe =
      if shutdown.channel.isOpen = true then ⟨shutdown.channel.subscribe⟩ else shutdown := by
  show (shutdown.subscribe?.map (·.2)).getD shutdown = _
  rw [subscribe?]
  split <;> rfl

/-- A message that nobody would hear is not sent. -/
theorem act_trigger (shutdown : Shutdown) :
    shutdown.act .trigger =
      if shutdown.channel.isOpen = true ∧ shutdown.channel.audience ≠ 0 then
        ⟨shutdown.channel.store ()⟩
      else shutdown := by
  show (shutdown.trigger?.map (·.2)).getD shutdown = _
  rw [trigger?, Broadcast.send?]
  by_cases hopen : shutdown.channel.isOpen = true <;>
    by_cases hnobody : shutdown.channel.audience = 0 <;> simp [hopen, hnobody]

/-- Where there is a sender, it goes. -/
theorem act_close (shutdown : Shutdown) :
    shutdown.act .close =
      if shutdown.channel.isOpen = true then ⟨{ shutdown.channel with isOpen := false }⟩
      else shutdown := by
  show shutdown.close?.getD shutdown = _
  rw [close?]
  split <;> rfl

/-- A listener gets the number of those that came before it. -/
theorem subscribe?_map_fst (shutdown : Shutdown) :
    shutdown.subscribe?.map (·.1) =
      if shutdown.channel.isOpen = true then some shutdown.channel.listeners.length
      else none := by
  rw [subscribe?]
  split <;> rfl

/-- All that are there hear the event, and they may be none. -/
theorem trigger?_map_fst (shutdown : Shutdown) :
    shutdown.trigger?.map (·.1) =
      if shutdown.channel.isOpen = true then some shutdown.channel.audience else none := by
  rw [trigger?, Broadcast.send?]
  by_cases hopen : shutdown.channel.isOpen = true <;>
    by_cases hnobody : shutdown.channel.audience = 0 <;> simp [hopen, hnobody]

/-- All that an action can do. -/
theorem act_cases (shutdown : Shutdown) (action : Action) :
    shutdown.act action = shutdown ∨
      (action = .subscribe ∧ shutdown.act action = ⟨shutdown.channel.subscribe⟩) ∨
      (action = .trigger ∧ shutdown.act action = ⟨shutdown.channel.store ()⟩) ∨
      (action = .close ∧ shutdown.act action = ⟨{ shutdown.channel with isOpen := false }⟩) ∨
      ∃ number, shutdown.act action = (shutdown.leave number).2 := by
  cases action with
  | subscribe =>
    rw [act_subscribe]
    split
    · exact Or.inr (Or.inl ⟨rfl, rfl⟩)
    · exact Or.inl rfl
  | trigger =>
    rw [act_trigger]
    split
    · exact Or.inr (Or.inr (Or.inl ⟨rfl, rfl⟩))
    · exact Or.inl rfl
  | close =>
    rw [act_close]
    split
    · exact Or.inr (Or.inr (Or.inr (Or.inl ⟨rfl, rfl⟩)))
    · exact Or.inl rfl
  | leave number => exact Or.inr (Or.inr (Or.inr (Or.inr ⟨number, rfl⟩)))
  | ask number =>
    show (shutdown.ask number).2 = _ ∨ _
    by_cases hready : shutdown.answer number = .ready
    · refine Or.inr (Or.inr (Or.inr (Or.inr ⟨number, ?_⟩)))
      exact (shutdown.ask_snd number).trans (if_pos hready)
    · exact Or.inl ((shutdown.ask_snd number).trans (if_neg hready))
  | wait number =>
    exact Or.inr (Or.inr (Or.inr (Or.inr ⟨number, shutdown.wait_snd number⟩)))

/-- Only closing takes the sender away. -/
theorem isOpen_act (shutdown : Shutdown) (action : Action) :
    (shutdown.act action).channel.isOpen = true ↔
      shutdown.channel.isOpen = true ∧ action ≠ .close := by
  by_cases hclose : action = .close
  · subst hclose
    rw [act_close, iff_false_right (by simp)]
    split
    · simp
    · assumption
  · rw [and_iff_left hclose]
    rcases shutdown.act_cases action with
      heq | ⟨-, heq⟩ | ⟨-, heq⟩ | ⟨hclosed, -⟩ | ⟨number, heq⟩
    · rw [heq]
    · rw [heq]
      exact Iff.rfl
    · rw [heq]
      exact Iff.rfl
    · exact absurd hclosed hclose
    · rw [heq]
      exact Iff.rfl

/-- The listeners are as many as have come. -/
theorem length_act (hopen : shutdown.channel.isOpen = true) (action : Action) :
    (shutdown.act action).channel.listeners.length =
      shutdown.channel.listeners.length + if action = .subscribe then 1 else 0 := by
  by_cases hsubscribe : action = .subscribe
  · rw [hsubscribe, act_subscribe, if_pos hopen]
    exact List.length_append
  · rw [if_neg hsubscribe]
    rcases shutdown.act_cases action with
      heq | ⟨hcomes, -⟩ | ⟨-, heq⟩ | ⟨-, heq⟩ | ⟨number, heq⟩
    · rw [heq, Nat.add_zero]
    · exact absurd hcomes hsubscribe
    · rw [heq]
      rfl
    · rw [heq]
      rfl
    · rw [heq]
      exact List.length_set

/-- No action makes a listener wait for a later message than the next one. -/
theorem isCurrent_act (h : shutdown.channel.IsCurrent) (action : Action) :
    (shutdown.act action).channel.IsCurrent := by
  rcases shutdown.act_cases action with
    heq | ⟨-, heq⟩ | ⟨-, heq⟩ | ⟨-, heq⟩ | ⟨left, heq⟩ <;> rw [heq]
  · exact h
  · intro number next hnext
    rw [Broadcast.listener_subscribe] at hnext
    split at hnext
    · cases hnext
      exact Nat.le_refl _
    · exact h number next hnext
  · intro number next hnext
    rw [Broadcast.sent_store]
    exact Nat.le_succ_of_le (h number next hnext)
  · exact h
  · intro number next hnext
    rw [leave, Broadcast.listener_setListener_gone] at hnext
    split at hnext
    · exact absurd hnext (by simp)
    · exact h number next hnext

theorem ready_of_not_pending {waiting : Waiting} (h : waiting ≠ .pending) :
    (if waiting = .gone then .gone else .ready) = waiting := by
  cases waiting with
  | ready => rfl
  | pending => exact absurd rfl h
  | gone => rfl

/-- Who is gone stays gone. -/
theorem turned_gone (action : Action) (number : Nat) : turned action number .gone = .gone := by
  cases action <;> simp [turned]

/-- Leaving, waiting, and asking when it is time use a listener up. -/
theorem turned_of_usesUp {action : Action} {waiting : Waiting}
    (h : action = .leave number ∨ action = .wait number ∨
      action = .ask number ∧ waiting = .ready) :
    turned action number waiting = .gone := by
  rcases h with rfl | rfl | ⟨rfl, rfl⟩
  · exact if_pos rfl
  · exact if_pos rfl
  · exact if_pos ⟨rfl, rfl⟩

/-- Whoever goes on listening through an action has heard it, if it was to be heard. -/
theorem turned_of_spared {action : Action} {waiting : Waiting} (hthere : waiting ≠ .gone)
    (h : ¬(action = .leave number ∨ action = .wait number ∨
      action = .ask number ∧ waiting = .ready)) :
    turned action number waiting =
      if action = .trigger ∨ action = .close then .ready else waiting := by
  cases action with
  | subscribe => rfl
  | trigger | close => simp [turned, hthere]
  | leave other | wait other | ask other =>
    simp only [reduceCtorEq, Action.leave.injEq, Action.wait.injEq, Action.ask.injEq, false_or,
      false_and, or_false] at h
    rw [if_neg (by simp)]
    exact if_neg fun heq => h (by simp [heq])

/-- Whoever goes on waiting is there to be told, and there is a sender. -/
theorem isOpen_and_audience_of_pending (h : shutdown.answer number = .pending) :
    shutdown.channel.isOpen = true ∧ shutdown.channel.audience ≠ 0 := by
  rw [answer_eq] at h
  cases hthere : shutdown.channel.listener number with
  | gone =>
    rw [hthere] at h
    exact absurd h (by simp [told])
  | awaits next =>
    have hlt := Broadcast.lt_length_of_listener hthere
    rw [Broadcast.listener, List.getD_eq_getElem _ _ hlt] at hthere
    rw [Broadcast.listener, List.getD_eq_getElem _ _ hlt, hthere, told] at h
    refine ⟨?_, ?_⟩
    · by_contra hclosed
      rw [if_neg fun hboth => hclosed hboth.2] at h
      exact absurd h (by simp)
    · rw [Broadcast.audience, Ne, List.countP_eq_zero]
      exact fun hnobody => hnobody _ (List.getElem_mem hlt) (by simp [hthere, Listener.isThere])

/-- Every action turns the answers of those that are there already. -/
theorem answer_act (hcurrent : shutdown.channel.IsCurrent) {action : Action}
    (hold : ¬(action = .subscribe ∧ shutdown.channel.isOpen = true ∧
      shutdown.channel.listeners.length = number)) :
    (shutdown.act action).answer number = turned action number (shutdown.answer number) := by
  cases action with
  | subscribe =>
    rw [act_subscribe]
    split
    · next hopen =>
      rw [answer_subscribe hopen, if_neg fun heq => hold ⟨rfl, hopen, heq.symm⟩]
      rfl
    · rfl
  | trigger =>
    rw [act_trigger]
    split
    · exact answer_store hcurrent number
    · next hsilent =>
      -- the event is not told where nobody is there, or the sender is gone
      refine (ready_of_not_pending fun hpending => hsilent ?_).symm
      exact isOpen_and_audience_of_pending hpending
  | close =>
    rw [act_close]
    split
    · exact answer_close shutdown number
    · next hclosed =>
      refine (ready_of_not_pending fun hpending => hclosed ?_).symm
      exact (isOpen_and_audience_of_pending hpending).1
  | leave other => exact answer_leave shutdown other number
  | ask other =>
    show (shutdown.ask other).2.answer number = _
    rw [answer_ask, turned]
    by_cases heq : number = other
    · rw [heq]
    · rw [if_neg fun hboth => heq hboth.1, if_neg fun hboth => heq hboth.1]
  | wait other => exact answer_wait shutdown other number

/-- The shutdown after a series of actions, the earliest first. -/
def after (past : List Action) : Shutdown := past.foldl act {}

/-- The event was told, or nobody is left to tell it. -/
def Happened (events : List Action) : Prop := .trigger ∈ events ∨ .close ∈ events

/-- The listener was dropped or has used itself up by waiting. -/
def UsedUp (number : Nat) (events : List Action) : Prop :=
  .leave number ∈ events ∨ .wait number ∈ events ∨
    ∃ front back, events = front ++ .ask number :: back ∧ Happened front

/-- The listener of a number came while there was a sender; `events` is what was done since. -/
def CameBefore (past : List Action) (number : Nat) (events : List Action) : Prop :=
  ∃ front, past = front ++ .subscribe :: events ∧ .close ∉ front ∧
    front.count .subscribe = number

/-- The listener came before the events and is still there. -/
def Listens (past : List Action) (number : Nat) (events : List Action) : Prop :=
  CameBefore past number events ∧ ¬UsedUp number events

/-- What must be told to someone who waits, by what was done so far. -/
def Foretold (past : List Action) (number : Nat) : Waiting → Prop
  | .ready => ∃ events, Listens past number events ∧ Happened events
  | .pending => ∃ events, Listens past number events ∧ ¬Happened events
  | .gone => ¬∃ events, Listens past number events

section Concat

variable {past events : List Action} {action : Action}

/-- One action more is done to the shutdown after those before it. -/
theorem after_concat (past : List Action) (action : Action) :
    after (past ++ [action]) = (after past).act action := by
  rw [after, List.foldl_append]
  rfl

/-- One action more is the event, or the event was told before. -/
theorem happened_concat :
    Happened (events ++ [action]) ↔ Happened events ∨ action = .trigger ∨ action = .close := by
  simp only [Happened, List.mem_append, List.mem_singleton, eq_comm (a := action)]
  tauto

/-- One action more uses a listener up, or it was used up before. -/
theorem usedUp_concat :
    UsedUp number (events ++ [action]) ↔ UsedUp number events ∨ action = .leave number ∨
      action = .wait number ∨ action = .ask number ∧ Happened events := by
  have hask : (∃ front back, events ++ [action] = front ++ .ask number :: back ∧
      Happened front) ↔ (∃ front back, events = front ++ .ask number :: back ∧ Happened front) ∨
        action = .ask number ∧ Happened events := by
    constructor
    · rintro ⟨front, back, hsplit, hfront⟩
      rcases List.eq_nil_or_concat back with rfl | ⟨rest, last, rfl⟩
      · obtain ⟨rfl, hlast⟩ := List.append_inj' hsplit rfl
        exact Or.inr ⟨(List.singleton_inj.mp hlast), hfront⟩
      · rw [List.concat_eq_append, ← List.cons_append, ← List.append_assoc] at hsplit
        obtain ⟨hevents, -⟩ := List.append_inj' hsplit rfl
        exact Or.inl ⟨front, rest, hevents, hfront⟩
    · rintro (⟨front, back, rfl, hfront⟩ | ⟨rfl, hhappened⟩)
      · exact ⟨front, back ++ [action], by simp, hfront⟩
      · exact ⟨events, [], rfl, hhappened⟩
  unfold UsedUp
  rw [hask, List.mem_append, List.mem_append, List.mem_singleton, List.mem_singleton]
  grind

/-- Whoever has come by an action came before it or comes with it. -/
theorem cameBefore_concat {now : List Action} :
    CameBefore (past ++ [action]) number now ↔
      (∃ events, now = events ++ [action] ∧ CameBefore past number events) ∨
        now = [] ∧ action = .subscribe ∧ .close ∉ past ∧ past.count .subscribe = number := by
  constructor
  · rintro ⟨front, hsplit, hopen, hcount⟩
    rcases List.eq_nil_or_concat now with rfl | ⟨events, last, rfl⟩
    · obtain ⟨rfl, hlast⟩ := List.append_inj' hsplit rfl
      exact Or.inr ⟨rfl, List.singleton_inj.mp hlast, hopen, hcount⟩
    · rw [List.concat_eq_append, ← List.cons_append, ← List.append_assoc] at hsplit
      obtain ⟨hpast, hlast⟩ := List.append_inj' hsplit rfl
      refine Or.inl ⟨events, ?_, front, hpast, hopen, hcount⟩
      rw [List.concat_eq_append, hlast]
  · rintro (⟨events, rfl, front, rfl, hopen, hcount⟩ | ⟨rfl, rfl, hopen, hcount⟩)
    · exact ⟨front, by simp, hopen, hcount⟩
    · exact ⟨past, rfl, hopen, hcount⟩

/-- The listeners are numbered in the order they come. -/
theorem CameBefore.lt_count (h : CameBefore past number events) :
    number < past.count .subscribe := by
  obtain ⟨front, rfl, -, rfl⟩ := h
  rw [List.count_append, List.count_cons_self]
  omega

/-- A number belongs to one listener. -/
theorem CameBefore.unique {events' : List Action} (h : CameBefore past number events)
    (h' : CameBefore past number events') : events = events' := by
  induction past using List.reverseRecOn generalizing events events' with
  | nil =>
    obtain ⟨front, hsplit, -⟩ := h
    exact absurd hsplit (by simp)
  | append_singleton past action ih =>
    rcases cameBefore_concat.mp h with ⟨known, rfl, hknown⟩ | ⟨rfl, -, -, hnew⟩ <;>
      rcases cameBefore_concat.mp h' with ⟨known', rfl, hknown'⟩ | ⟨rfl, -, -, hnew'⟩
    · rw [ih hknown hknown']
    · exact absurd hknown.lt_count (by omega)
    · exact absurd hknown'.lt_count (by omega)
    · rfl

/-- Whoever listens after an action listened before it and was not used up by it, or comes with
it. -/
theorem listens_concat {now : List Action} :
    Listens (past ++ [action]) number now ↔
      (∃ events, now = events ++ [action] ∧ Listens past number events ∧
        ¬(action = .leave number ∨ action = .wait number ∨
          action = .ask number ∧ Happened events)) ∨
        now = [] ∧ action = .subscribe ∧ .close ∉ past ∧ past.count .subscribe = number := by
  have hnil : ¬UsedUp number [] := by simp [UsedUp]
  rw [Listens, cameBefore_concat]
  constructor
  · rintro ⟨⟨events, rfl, hcame⟩ | hnew, hthere⟩
    · rw [usedUp_concat, not_or] at hthere
      exact Or.inl ⟨events, rfl, ⟨hcame, hthere.1⟩, hthere.2⟩
    · exact Or.inr hnew
  · rintro (⟨events, rfl, ⟨hcame, hthere⟩, hspared⟩ | ⟨rfl, hnew⟩)
    · exact ⟨Or.inl ⟨events, rfl, hcame⟩, usedUp_concat.not.mpr (not_or.mpr ⟨hthere, hspared⟩)⟩
    · exact ⟨Or.inr ⟨rfl, hnew⟩, hnil⟩

/-- Who is not gone listens, and is ready just if the event has happened. -/
theorem Foretold.exists_listens {waiting : Waiting} (h : Foretold past number waiting)
    (hthere : waiting ≠ .gone) :
    ∃ events, Listens past number events ∧ (Happened events ↔ waiting = .ready) := by
  cases waiting with
  | ready =>
    obtain ⟨events, hlistens, hhappened⟩ := h
    exact ⟨events, hlistens, by simp [hhappened]⟩
  | pending =>
    obtain ⟨events, hlistens, hnot⟩ := h
    exact ⟨events, hlistens, by simp [hnot]⟩
  | gone => exact absurd rfl hthere

/-- Who listens is foretold to be ready just if the event has happened. -/
theorem foretold_of_listens {waiting : Waiting} (hlistens : Listens past number events)
    (hthere : waiting ≠ .gone) (hready : Happened events ↔ waiting = .ready) :
    Foretold past number waiting := by
  cases waiting with
  | ready => exact ⟨events, hlistens, hready.mpr rfl⟩
  | pending => exact ⟨events, hlistens, hready.not.mpr (by simp)⟩
  | gone => exact absurd rfl hthere

/-- Every listener has one answer. -/
theorem Foretold.unique {waiting waiting' : Waiting} (h : Foretold past number waiting)
    (h' : Foretold past number waiting') : waiting = waiting' := by
  by_cases hgone : waiting = .gone <;> by_cases hgone' : waiting' = .gone
  · rw [hgone, hgone']
  · obtain ⟨events, hlistens, -⟩ := h'.exists_listens hgone'
    exact absurd ⟨events, hlistens⟩ (hgone ▸ h)
  · obtain ⟨events, hlistens, -⟩ := h.exists_listens hgone
    exact absurd ⟨events, hlistens⟩ (hgone' ▸ h')
  · obtain ⟨events, hlistens, hready⟩ := h.exists_listens hgone
    obtain ⟨events', hlistens', hready'⟩ := h'.exists_listens hgone'
    rw [hlistens'.1.unique hlistens.1, hready] at hready'
    cases waiting <;> cases waiting' <;> simp at hready' hgone hgone' ⊢

/-- A new listener is not told anything yet. -/
theorem foretold_concat_of_comes (hopen : .close ∉ past) :
    Foretold (past ++ [.subscribe]) (past.count .subscribe) .pending :=
  ⟨[], listens_concat.mpr (Or.inr ⟨rfl, rfl, hopen, rfl⟩), by simp [Happened]⟩

/-- What must be told to the others changes as the action says. -/
theorem foretold_concat {waiting : Waiting} (h : Foretold past number waiting)
    (hold : ¬(action = .subscribe ∧ .close ∉ past ∧ past.count .subscribe = number)) :
    Foretold (past ++ [action]) number (turned action number waiting) := by
  have hlistens : ∀ now, Listens (past ++ [action]) number now ↔
      ∃ events, now = events ++ [action] ∧ Listens past number events ∧
        ¬(action = .leave number ∨ action = .wait number ∨
          action = .ask number ∧ Happened events) := by
    intro now
    rw [listens_concat, or_iff_left fun hnew => hold hnew.2]
  by_cases hgone : waiting = .gone
  · -- whoever is gone does not come back
    subst hgone
    rw [turned_gone]
    rintro ⟨now, hnow⟩
    obtain ⟨events, -, hevents, -⟩ := (hlistens now).mp hnow
    exact h ⟨events, hevents⟩
  · obtain ⟨events, hevents, hready⟩ := h.exists_listens hgone
    by_cases husedUp : action = .leave number ∨ action = .wait number ∨
        action = .ask number ∧ waiting = .ready
    · -- a listener that is used up now would have to be spared to listen later
      rw [turned_of_usesUp husedUp]
      rintro ⟨now, hnow⟩
      obtain ⟨events', -, hevents', hspared⟩ := (hlistens now).mp hnow
      rw [hevents'.1.unique hevents.1, hready] at hspared
      exact hspared husedUp
    · rw [turned_of_spared hgone husedUp]
      have hnow := (hlistens _).mpr ⟨events, rfl, hevents, by rwa [hready]⟩
      by_cases htold : action = .trigger ∨ action = .close
      · rw [if_pos htold]
        exact ⟨_, hnow, happened_concat.mpr (Or.inr htold)⟩
      · rw [if_neg htold]
        exact foretold_of_listens hnow hgone (by rw [happened_concat, hready, or_iff_left htold])

end Concat

/-! ## The invariant -/

/-- A shutdown is as it must be after the actions. -/
structure Tracks (past : List Action) (shutdown : Shutdown) : Prop where
  isOpen_iff : shutdown.channel.isOpen = true ↔ .close ∉ past
  /-- The next listener gets the number of those that came. -/
  numbered : .close ∉ past → shutdown.channel.listeners.length = past.count .subscribe
  isCurrent : shutdown.channel.IsCurrent
  foretold : ∀ number, Foretold past number (shutdown.answer number)

/-- Nothing is done at the start: there is a sender and no listener. -/
theorem tracks_nil : Tracks [] {} where
  isOpen_iff := by simp
  numbered _ := rfl
  isCurrent number next h := by simp [Broadcast.listener] at h
  foretold number := by
    rw [answer_eq]
    rintro ⟨events, ⟨front, hsplit, -⟩, -⟩
    exact absurd hsplit (by simp)

/-- What one action does keeps the shutdown as it must be. -/
theorem Tracks.act {past : List Action} (h : Tracks past shutdown) (action : Action) :
    Tracks (past ++ [action]) (shutdown.act action) where
  isOpen_iff := by
    rw [isOpen_act, h.isOpen_iff, List.mem_append, List.mem_singleton, not_or,
      ne_comm (a := action)]
  numbered hopen := by
    rw [List.mem_append, not_or] at hopen
    rw [length_act (h.isOpen_iff.mpr hopen.1), h.numbered hopen.1, List.count_append,
      List.count_singleton]
    simp only [beq_iff_eq]
  isCurrent := isCurrent_act h.isCurrent action
  foretold number := by
    -- one who comes has no answer yet, and gets the next number
    by_cases hnew : action = .subscribe ∧ .close ∉ past ∧ past.count .subscribe = number
    · obtain ⟨rfl, hopen, rfl⟩ := hnew
      have hisOpen := h.isOpen_iff.mpr hopen
      rw [act_subscribe, if_pos hisOpen, answer_subscribe hisOpen, h.numbered hopen, if_pos rfl]
      exact foretold_concat_of_comes hopen
    · rw [answer_act h.isCurrent fun hcomes => hnew ?_]
      · exact foretold_concat (h.foretold number) hnew
      · have hopen := h.isOpen_iff.mp hcomes.2.1
        exact ⟨hcomes.1, hopen, (h.numbered hopen).symm.trans hcomes.2.2⟩

/-- Whatever is done with a shutdown, it is as it must be. -/
theorem tracks_after (past : List Action) : Tracks past (after past) := by
  induction past using List.reverseRecOn with
  | nil => exact tracks_nil
  | append_singleton past action ih =>
    rw [after_concat]
    exact ih.act action

/-- In every history of a shutdown, waiting is over for a listener exactly where the event was
told or the sender dropped since it came, and it goes on for the others that are there. The next
listener is told how many came before it, and the event goes to all that are still there. -/
theorem answer_iff_foretold (past : List Action) :
    (∀ number waiting,
      (((after past).wait number).1 = waiting ↔ Foretold past number waiting) ∧
      (((after past).ask number).1 = waiting ↔ Foretold past number waiting)) ∧
    (after past).subscribe?.map (·.1) =
      (if .close ∈ past then none else some (past.count .subscribe)) ∧
    (after past).trigger?.map (·.1) =
      (if .close ∈ past then none
        else some {number | ∃ events, Listens past number events}.ncard) := by
  have htracks := tracks_after past
  have hanswer : ∀ number waiting,
      (after past).answer number = waiting ↔ Foretold past number waiting := by
    intro number waiting
    constructor
    · rintro rfl
      exact htracks.foretold number
    · exact (htracks.foretold number).unique
  -- the audience are those whose answer is not that they are gone
  have hthere : {number | (after past).channel.listener number ≠ .gone} =
      {number | ∃ events, Listens past number events} := by
    ext number
    rw [Set.mem_ofPred_eq, Set.mem_ofPred_eq, Ne, ← answer_eq_gone_iff, hanswer]
    exact not_not
  refine ⟨fun number waiting => ⟨hanswer number waiting, hanswer number waiting⟩, ?_, ?_⟩
  · rw [subscribe?_map_fst]
    by_cases hclose : .close ∈ past
    · rw [if_neg (mt htracks.isOpen_iff.mp (not_not.mpr hclose)), if_pos hclose]
    · rw [if_pos (htracks.isOpen_iff.mpr hclose), if_neg hclose, htracks.numbered hclose]
  · rw [trigger?_map_fst, Broadcast.audience_eq_ncard, hthere]
    by_cases hclose : .close ∈ past
    · rw [if_neg (mt htracks.isOpen_iff.mp (not_not.mpr hclose)), if_pos hclose]
    · rw [if_pos (htracks.isOpen_iff.mpr hclose), if_neg hclose]

/-- The second message pushes the first one out, and having missed it is as good as hearing it. -/
example : ((after [.subscribe, .trigger, .trigger]).ask 0).1 = .ready := by decide

end Shutdown

end ComposingProxy
