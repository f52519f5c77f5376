import CellStation.Proofs.AdapterRuns
import CellStation.Proofs.ScriptedRadio
import CellStation.Proofs.SocketHistory
import Mathlib.Data.List.Induction
import Mathlib.Order.Monotone.Basic

/-!
# Episodes of a binding

An adapter is bound to a socket for a stretch of its run, an episode (`MqttAdapter.Episode`). An
episode ends when a frame shows that the socket is gone, when a send has failed, or when the
adapter is bound to something else; only the last of these has the engine start afresh.

How often an engine has started afresh is counted by one that keeps count (`Counted`) and
does otherwise what the engine does (`MqttAdapter.after_counted`). An episode begins with one
start, and the bytes of two episodes have a start between them
(`MqttAdapter.episodes_start_afresh`).
-/

namespace CellStation

/-! ## Engines that count -/

/-- A step with another result. -/
def Session.map {α β : Type} (f : α → β) : Session α → Session β
  | .done result => .done (f result)
  | .send bytes next => .send bytes fun taken => (next taken).map f
  | .receive size next => .receive size fun bytes => (next bytes).map f
  | .publish message next => .publish message (next.map f)

theorem Session.run_map {α β : Type} (f : α → β) : ∀ (session : Session α) (window : Window),
    (session.map f).run window = (f (session.run window).1, (session.run window).2)
  | .done _, _ => rfl
  | .send bytes next, window => by simp only [map, run, run_map f (next _)]
  | .receive size next, window => by simp only [map, run, run_map f (next _)]
  | .publish _ next, window => by simp only [map, run, run_map f next]

/-- An engine, and how often it has started afresh. -/
structure Counted (ε : Type) where
  engine : ε
  starts : Nat
  deriving DecidableEq, Repr

instance {ε : Type} [MqttEngine ε] : MqttEngine (Counted ε) where
  init tx rx counted := { counted with engine := MqttEngine.init tx rx counted.engine }
  reinit counted := ⟨MqttEngine.reinit counted.engine, counted.starts + 1⟩
  sync counted := (MqttEngine.sync counted.engine).map fun engine => { counted with engine }

/-- A call of an engine moves a byte. -/
def EngineCall.Moves (call : EngineCall) : Prop := call.accepted ≠ [] ∨ call.handed ≠ []

namespace MqttAdapter

variable {ε : Type}

/-- The adapter with an engine that has started afresh so often. -/
def counted (adapter : MqttAdapter ε) (starts : Nat) : MqttAdapter (Counted ε) :=
  { adapter with engine := ⟨adapter.engine, starts⟩ }

theorem release_counted (adapter : MqttAdapter ε) (starts : Nat) (frame : Inbound) :
    (adapter.counted starts).release frame = (adapter.release frame).counted starts := by
  simp only [release, counted]
  split
  · rfl
  · split
    · split <;> rfl
    · split <;> rfl

theorem settleClose_counted (adapter : MqttAdapter ε) (starts : Nat) (frame : Inbound)
    (space : Nat) :
    (adapter.counted starts).settleClose frame space =
      ((adapter.settleClose frame space).1,
        (adapter.settleClose frame space).2.counted starts) := by
  simp only [settleClose, counted]
  split
  · rfl
  · split
    · rfl
    · split <;> rfl

variable [MqttEngine ε]

theorem sync_counted (adapter : MqttAdapter ε) (starts : Nat) (frame : Inbound) (space : Nat) :
    ((adapter.counted starts).sync frame space).adapter =
      (adapter.sync frame space).adapter.counted starts := by
  have hwindow : (adapter.counted starts).window frame space = adapter.window frame space := rfl
  simp only [sync, hwindow]
  simp only [counted, MqttEngine.sync, Session.run_map]

theorem process_counted (adapter : MqttAdapter ε) (starts : Nat) (frame : Frame) (space : Nat) :
    ((adapter.counted starts).process frame space).adapter =
      (adapter.process frame space).adapter.counted starts := by
  simp only [process, release_counted, settleClose_counted]
  rcases (adapter.release frame.inbound).settleClose frame.inbound space with ⟨_ | socket, settled⟩
  · exact settled.sync_counted starts frame.inbound space
  · rfl

/-- How often a call has the engine start afresh : once, if it changes the socket. -/
def startsIn (adapter : MqttAdapter ε) : Call → Nat
  | .useSocket socket => if socket = adapter.socket then 0 else 1
  | _ => 0

theorem answer_counted (adapter : MqttAdapter ε) (starts : Nat) (call : Call) :
    (adapter.counted starts).answer call =
      (adapter.answer call).counted (starts + adapter.startsIn call) := by
  cases call with
  | process frame space => exact adapter.process_counted starts frame space
  | takeAbandoned => rfl
  | useSocket socket =>
    by_cases hsame : socket = adapter.socket
    · simp [answer, useSocket, startsIn, counted, hsame]
    · simp [answer, useSocket, startsIn, counted, hsame, MqttEngine.reinit]

/-- How often the engine of an adapter starts afresh in calls. -/
def starts (adapter : MqttAdapter ε) (calls : List Call) : Nat :=
  ((adapter.counted 0).after calls).engine.starts

/-- To count changes nothing : an adapter whose engine counts is the adapter, and the count. -/
theorem after_counted (adapter : MqttAdapter ε) (calls : List Call) :
    (adapter.counted 0).after calls = (adapter.after calls).counted (adapter.starts calls) := by
  induction calls using List.reverseRecOn with
  | nil => rfl
  | append_singleton calls call ih =>
    have hstep : (adapter.counted 0).after (calls ++ [call]) =
        (adapter.after (calls ++ [call])).counted
          (adapter.starts calls + (adapter.after calls).startsIn call) := by
      rw [after_concat, after_concat, ih, answer_counted]
    rw [starts, hstep]
    rfl

theorem starts_concat (adapter : MqttAdapter ε) (calls : List Call) (call : Call) :
    adapter.starts (calls ++ [call]) =
      adapter.starts calls + (adapter.after calls).startsIn call := by
  rw [starts, after_concat, after_counted, answer_counted]
  rfl

/-! ## Bytes moved -/

theorem moves_sync {adapter : MqttAdapter ε} {frame : Inbound} {space : Nat} {call : EngineCall}
    (hcall : call ∈ (adapter.sync frame space).calls) (hmoves : call.Moves) :
    adapter.socket ≠ none := by
  intro hunbound
  have hcalls : call ∈ ((MqttEngine.sync adapter.engine).run ⟨0, [], []⟩).2.2 := by
    rw [← window_of_unbound hunbound frame space]
    exact hcall
  rcases hmoves with hsent | hhanded
  · cases call with
    | send bytes taken =>
      obtain rfl := Session.taken_of_room_zero _ rfl hcalls
      exact hsent rfl
    | receive | publish => exact hsent rfl
  · have hempty : Window.unread ⟨0, [], []⟩ = [] := rfl
    have hnone := ((MqttEngine.sync adapter.engine).handed_of_unread_nil hempty).1
    exact hhanded (List.flatMap_eq_nil_iff.mp hnone call hcalls)

/-- Bytes are moved only over a socket that the adapter is bound to, and keeps. -/
theorem bound_of_moves {adapter : MqttAdapter ε} {frame : Frame} {space : Nat}
    {call : EngineCall} (hcall : call ∈ (adapter.process frame space).calls)
    (hmoves : call.Moves) :
    ∃ socket, adapter.socket = some socket ∧
      (adapter.process frame space).adapter.socket = some socket := by
  have hkept : (adapter.release frame.inbound).socket ≠ none := by
    have hprocessed := adapter.processed_process frame space
    generalize adapter.process frame space = step at hprocessed hcall
    cases hprocessed with
    | closes => simp at hcall
    | drops | syncs => exact moves_sync hcall hmoves
  obtain ⟨socket, hsocket⟩ := Option.ne_none_iff_exists'.mp hkept
  exact ⟨socket, (socket_release hsocket).1,
    (adapter.socket_process frame space).1.trans hsocket⟩

/-! ## One call of a run -/

/-- The socket that the adapter is bound to at a point of a run. -/
def boundAt (adapter : MqttAdapter ε) (calls : List Call) (point : Nat) : Option UInt8 :=
  (adapter.after (calls.take point)).socket

/-- How often the engine has started afresh by a point of a run. -/
def startsAt (adapter : MqttAdapter ε) (calls : List Call) (point : Nat) : Nat :=
  adapter.starts (calls.take point)

/-- In a call of a run the engine moves a byte. -/
def MovesAt (adapter : MqttAdapter ε) (calls : List Call) (index : Nat) : Prop :=
  ∃ frame space, calls[index]? = some (.process frame space) ∧
    ∃ call ∈ ((adapter.after (calls.take index)).process frame space).calls, call.Moves

/-- What a call makes of the binding and of the number of starts. -/
inductive Rebinding (bound : Option UInt8) (starts : Nat) :
    Call → Option UInt8 → Nat → Prop where
  | keeps (call : Call) : Rebinding bound starts call bound starts
  | letsGo (call : Call) : Rebinding bound starts call none starts
  | binds (socket : Option UInt8) (hchanges : socket ≠ bound) :
    Rebinding bound starts (.useSocket socket) socket (starts + 1)

theorem rebinding_answer (adapter : MqttAdapter ε) (starts : Nat) (call : Call) :
    Rebinding adapter.socket starts call (adapter.answer call).socket
      (starts + adapter.startsIn call) := by
  cases call with
  | process frame space =>
    have hkept : (adapter.answer (.process frame space)).socket =
        (adapter.release frame.inbound).socket := (adapter.socket_process frame space).1
    rw [hkept]
    cases hsocket : (adapter.release frame.inbound).socket with
    | none => exact .letsGo _
    | some socket => exact (socket_release hsocket).1 ▸ .keeps _
  | useSocket socket =>
    by_cases hsame : socket = adapter.socket
    · simp only [answer, useSocket, startsIn, if_pos hsame]
      exact .keeps _
    · simp only [answer, useSocket, startsIn, if_neg hsame]
      exact .binds socket hsame
  | takeAbandoned => exact .keeps _

section Points

variable {adapter : MqttAdapter ε} {calls : List Call} {socket : UInt8} {point : Nat}

theorem rebinding_at {call : Call} (h : calls[point]? = some call) :
    Rebinding (adapter.boundAt calls point) (adapter.startsAt calls point) call
      (adapter.boundAt calls (point + 1)) (adapter.startsAt calls (point + 1)) := by
  have htake : calls.take (point + 1) = calls.take point ++ [call] := by
    rw [List.take_add_one, h, Option.toList_some]
  rw [boundAt, boundAt, startsAt, startsAt, htake, after_concat, starts_concat]
  exact rebinding_answer _ _ call

theorem startsAt_mono (adapter : MqttAdapter ε) (calls : List Call) :
    Monotone (adapter.startsAt calls) := by
  refine monotone_nat_of_le_succ fun point => ?_
  cases hcall : calls[point]? with
  | none =>
    have htake : calls.take (point + 1) = calls.take point := by
      rw [List.take_add_one, hcall, Option.toList_none, List.append_nil]
    rw [startsAt, startsAt, htake]
  | some call =>
    have hstep := adapter.rebinding_at hcall
    generalize adapter.startsAt calls (point + 1) = starts at hstep ⊢
    generalize adapter.boundAt calls (point + 1) = bound at hstep
    cases hstep with
    | keeps | letsGo => exact Nat.le_refl _
    | binds => exact Nat.le_succ _

/-- The engine moves bytes only over a socket that the adapter is bound to, and keeps. -/
theorem bound_of_movesAt (h : adapter.MovesAt calls point) :
    point < calls.length ∧ ∃ socket, adapter.boundAt calls point = some socket ∧
      adapter.boundAt calls (point + 1) = some socket := by
  obtain ⟨frame, space, hprocess, call, hcall, hmoves⟩ := h
  obtain ⟨hpoint, -⟩ := List.getElem?_eq_some_iff.mp hprocess
  obtain ⟨socket, hbefore, hafter⟩ := bound_of_moves hcall hmoves
  refine ⟨hpoint, socket, hbefore, ?_⟩
  rw [boundAt, List.take_add_one, hprocess, Option.toList_some, after_concat]
  exact hafter

end Points

/-! ## Episodes -/

/-- A longest stretch of a run, from one point to another, in which the adapter is bound to a
socket. -/
structure Episode (adapter : MqttAdapter ε) (calls : List Call) (socket : UInt8)
    (first last : Nat) : Prop where
  ordered : first ≤ last
  inside : last ≤ calls.length
  bound : ∀ point, first ≤ point → point ≤ last → adapter.boundAt calls point = some socket
  begins : ∀ point, point + 1 = first → adapter.boundAt calls point ≠ some socket
  ends : last < calls.length → adapter.boundAt calls (last + 1) ≠ some socket

variable {adapter : MqttAdapter ε} {calls : List Call} {socket other : UInt8}
  {first last first' last' point : Nat}

namespace Episode

/-- An episode begins when the adapter is bound to the socket, and the engine starts once. -/
theorem opened (h : Episode adapter calls socket first last) (hnew : adapter.socket = none) :
    ∃ point, first = point + 1 ∧ calls[point]? = some (.useSocket (some socket)) ∧
      adapter.startsAt calls first = adapter.startsAt calls point + 1 := by
  have hbound := h.bound first (Nat.le_refl first) h.ordered
  cases first with
  | zero => cases hnew.symm.trans hbound
  | succ point =>
    have hpoint : point < calls.length := Nat.lt_of_lt_of_le h.ordered h.inside
    have hcall := List.getElem?_eq_getElem hpoint
    have hbefore := h.begins point rfl
    have hstep := adapter.rebinding_at hcall
    rw [hbound] at hstep
    refine ⟨point, rfl, ?_⟩
    rw [hcall]
    generalize calls[point] = call at hstep ⊢
    generalize adapter.startsAt calls (point + 1) = starts at hstep ⊢
    generalize adapter.boundAt calls point = before at hstep hbefore
    cases hstep with
    | keeps => exact absurd rfl hbefore
    | binds => exact ⟨rfl, rfl⟩

/-- In an episode the engine does not start afresh. -/
theorem startsAt_eq (h : Episode adapter calls socket first last) :
    ∀ point, first ≤ point → point ≤ last →
      adapter.startsAt calls point = adapter.startsAt calls first := by
  intro point hfirst
  induction point, hfirst using Nat.le_induction with
  | base => exact fun _ => rfl
  | succ point hfirst ih =>
    intro hlast
    have hpoint : point < calls.length := Nat.lt_of_lt_of_le hlast h.inside
    have hstep := adapter.rebinding_at (List.getElem?_eq_getElem hpoint)
    rw [← ih (Nat.le_of_lt hlast)]
    rw [h.bound point hfirst (Nat.le_of_lt hlast),
      h.bound (point + 1) (Nat.le_succ_of_le hfirst) hlast] at hstep
    generalize calls[point] = call at hstep
    generalize adapter.startsAt calls (point + 1) = starts at hstep ⊢
    cases hstep with
    | keeps => rfl
    | binds _ hchanges => exact absurd rfl hchanges

/-- An episode that does not go on to a point of another ends before that begins. -/
theorem last_lt_first (h : Episode adapter calls socket first last)
    (h' : Episode adapter calls other first' last') (hlast : last < last') : last < first' := by
  refine Nat.lt_of_not_le fun hfirst => ?_
  have hsame := (h.bound last h.ordered (Nat.le_refl last)).symm.trans
    (h'.bound last hfirst (Nat.le_of_lt hlast))
  have hgoes := h'.bound (last + 1) (Nat.le_succ_of_le hfirst) hlast
  exact h.ends (Nat.lt_of_lt_of_le hlast h'.inside) (hgoes.trans hsame.symm)

end Episode

/-- Back from a point at which the adapter is bound, to where the binding began. -/
theorem exists_first (h : adapter.boundAt calls point = some socket) :
    ∃ first ≤ point,
      (∀ earlier, first ≤ earlier → earlier ≤ point →
        adapter.boundAt calls earlier = some socket) ∧
      ∀ before, before + 1 = first → adapter.boundAt calls before ≠ some socket := by
  induction point with
  | zero => exact ⟨0, Nat.le_refl 0, fun earlier _ hzero => Nat.le_zero.mp hzero ▸ h, nofun⟩
  | succ point ih =>
    by_cases hbefore : adapter.boundAt calls point = some socket
    · obtain ⟨first, hfirst, hbound, hbegins⟩ := ih hbefore
      refine ⟨first, Nat.le_succ_of_le hfirst, fun earlier hearlier hpoint => ?_, hbegins⟩
      rcases Nat.le_succ_iff.mp hpoint with hle | rfl
      · exact hbound earlier hearlier hle
      · exact h
    · refine ⟨point + 1, Nat.le_refl _, fun earlier hge hle => ?_, fun before hbegins => ?_⟩
      · exact Nat.le_antisymm hle hge ▸ h
      · exact Nat.succ_inj.mp hbegins ▸ hbefore

/-- On from a point at which the adapter is bound, as long as the binding lasts. -/
theorem exists_last {limit : Nat} (hlimit : point ≤ limit)
    (h : adapter.boundAt calls point = some socket) :
    ∃ last ≤ limit, point ≤ last ∧
      (∀ later, point ≤ later → later ≤ last → adapter.boundAt calls later = some socket) ∧
      (last < limit → adapter.boundAt calls (last + 1) ≠ some socket) := by
  induction limit, hlimit using Nat.le_induction with
  | base =>
    exact ⟨point, Nat.le_refl _, Nat.le_refl _, fun later hge hle => Nat.le_antisymm hge hle ▸ h,
      fun hlt => absurd hlt (Nat.lt_irrefl _)⟩
  | succ limit hlimit ih =>
    obtain ⟨last, hlast, hpoint, hbound, hends⟩ := ih
    rcases Nat.lt_or_eq_of_le hlast with hlt | rfl
    · exact ⟨last, Nat.le_succ_of_le hlast, hpoint, hbound, fun _ => hends hlt⟩
    by_cases hnext : adapter.boundAt calls (last + 1) = some socket
    · refine ⟨last + 1, Nat.le_refl _, Nat.le_succ_of_le hpoint, fun later hge hle => ?_,
        fun hlt => absurd hlt (Nat.lt_irrefl _)⟩
      rcases Nat.le_succ_iff.mp hle with hle | rfl
      · exact hbound later hge hle
      · exact hnext
    · exact ⟨last, Nat.le_succ last, hpoint, hbound, fun _ => hnext⟩

/-- Every point at which the adapter is bound lies in an episode. -/
theorem exists_episode (hpoint : point ≤ calls.length)
    (h : adapter.boundAt calls point = some socket) :
    ∃ first last, Episode adapter calls socket first last ∧ first ≤ point ∧ point ≤ last := by
  obtain ⟨first, hfirst, hearlier, hbegins⟩ := exists_first h
  obtain ⟨last, hinside, hlast, hlater, hends⟩ := exists_last hpoint h
  refine ⟨first, last, ⟨Nat.le_trans hfirst hlast, hinside, fun between hge hle => ?_, hbegins,
    hends⟩, hfirst, hlast⟩
  rcases Nat.le_total between point with hbefore | hafter
  · exact hearlier between hge hbefore
  · exact hlater between hafter hle

/-- A call that moves bytes lies in an episode, from before it to after it. -/
theorem exists_episode_of_movesAt (h : adapter.MovesAt calls point) :
    ∃ socket first last, Episode adapter calls socket first last ∧ first ≤ point ∧
      point < last := by
  obtain ⟨hpoint, socket, hbefore, hafter⟩ := bound_of_movesAt h
  obtain ⟨first, last, hepisode, hfirst, hlast⟩ := exists_episode (Nat.le_of_lt hpoint) hbefore
  refine ⟨socket, first, last, hepisode, hfirst, Nat.lt_of_le_of_ne hlast ?_⟩
  rintro rfl
  exact hepisode.ends hpoint hafter

/-- An engine starts afresh for each episode. However an adapter is bound and whatever frames
come, an episode begins in the call that binds the adapter to its socket, which has the engine
start afresh once; until the end of the episode the engine does not start again. Bytes are moved
in episodes only. So between two calls that move bytes, and that no episode holds both of, the
engine starts afresh, even if both are over one socket. -/
theorem episodes_start_afresh {engine : ε} {config : MqttConfig}
    (hnew : ofConfig engine config = .ok adapter) (calls : List Call) :
    (∀ socket first last, Episode adapter calls socket first last →
      (∃ point, first = point + 1 ∧ calls[point]? = some (.useSocket (some socket)) ∧
        adapter.startsAt calls first = adapter.startsAt calls point + 1) ∧
      adapter.startsAt calls last = adapter.startsAt calls first) ∧
    (∀ index, adapter.MovesAt calls index →
      ∃ socket first last, Episode adapter calls socket first last ∧ first ≤ index ∧
        index < last) ∧
    ∀ earlier later, earlier < later → adapter.MovesAt calls earlier →
      adapter.MovesAt calls later →
      (¬ ∃ socket first last, Episode adapter calls socket first last ∧ first ≤ earlier ∧
        later < last) →
      adapter.startsAt calls (earlier + 1) < adapter.startsAt calls later := by
  have hunbound : adapter.socket = none := by
    unfold ofConfig at hnew
    split at hnew
    · cases hnew
    · cases hnew
      rfl
  refine ⟨fun socket first last hepisode => ⟨hepisode.opened hunbound, ?_⟩,
    fun index hmoves => exists_episode_of_movesAt hmoves, ?_⟩
  · exact hepisode.startsAt_eq last hepisode.ordered (Nat.le_refl last)
  · intro earlier later hlt hearlier hlater hapart
    obtain ⟨socket, first, last, hepisode, hfirst, hlast⟩ := exists_episode_of_movesAt hearlier
    obtain ⟨other, first', last', hepisode', hfirst', hlast'⟩ := exists_episode_of_movesAt hlater
    have hends : last ≤ later :=
      Nat.le_of_not_lt fun hboth => hapart ⟨socket, first, last, hepisode, hfirst, hboth⟩
    have hafter : last < first' :=
      hepisode.last_lt_first hepisode' (Nat.lt_of_le_of_lt hends hlast')
    obtain ⟨point, rfl, -, hstarts⟩ := hepisode'.opened hunbound
    calc adapter.startsAt calls (earlier + 1)
        ≤ adapter.startsAt calls point :=
          adapter.startsAt_mono calls (Nat.le_trans hlast (Nat.le_of_lt_succ hafter))
      _ < adapter.startsAt calls (point + 1) := hstarts ▸ Nat.lt_succ_self _
      _ ≤ adapter.startsAt calls later := adapter.startsAt_mono calls hfirst'

/-- An adapter as it starts out, with bytes to be sent. -/
def unboundThree : MqttAdapter OutboxEngine := ⟨⟨[1, 2, 3]⟩, none, none, none⟩

/-- The adapter sends over socket 5, loses it, is bound to it anew and sends again. -/
def twiceFive : List Call :=
  [.useSocket (some 5), .process .empty 9,
    .process (.ofHeader .socketStatus (5, ⟨0x07⟩, ()) []) 1000,
    .useSocket (some 5), .process .empty 9]

/-- The engine starts afresh when it is given socket 5, and again when it is given socket 5 once
more, before it sends on. -/
theorem episodes_start_afresh_twice :
    ofConfig ⟨[1, 2, 3]⟩ {} = .ok unboundThree ∧
      unboundThree.MovesAt twiceFive 1 ∧ unboundThree.MovesAt twiceFive 4 ∧
      unboundThree.startsAt twiceFive 2 = 1 ∧
      unboundThree.startsAt twiceFive 2 < unboundThree.startsAt twiceFive 4 := by
  have hnew : ofConfig ⟨[1, 2, 3]⟩ {} = .ok unboundThree := rfl
  have hfirst : unboundThree.MovesAt twiceFive 1 :=
    ⟨.empty, 9, rfl, .send [1, 2, 3] 1, by decide +kernel, .inl (by decide)⟩
  have hagain : unboundThree.MovesAt twiceFive 4 :=
    ⟨.empty, 9, rfl, .send [2, 3] 1, by decide +kernel, .inl (by decide)⟩
  have hlost : unboundThree.boundAt twiceFive 3 = none := by decide +kernel
  obtain ⟨-, -, hbetween⟩ := episodes_start_afresh hnew twiceFive
  refine ⟨hnew, hfirst, hagain, by decide +kernel, hbetween 1 4 (by decide) hfirst hagain ?_⟩
  rintro ⟨socket, first, last, hepisode, hbefore, hafter⟩
  have hbound := hepisode.bound 3 (by omega) (by omega)
  cases hlost.symm.trans hbound

end MqttAdapter

end CellStation
