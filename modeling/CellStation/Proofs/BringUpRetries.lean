import CellStation.Proofs.Acknowledgements

/-!
# The bring-up never stands still

Every state but API mode is left once its timer has run out, and no timer is longer than the
reply timeout. The timer is set again by every change of state and by nothing else
(`Modem.getLast?_changes`), so that whatever the line does, a poll more than 1500 milliseconds
after the last change makes another one.

As long as no awaited answer is read (`Modem.Unanswered`), the changes go round through four
states (`LinkState.retryState`), and the escape text is said at either rate in turn
(`LinkState.retryOrder`). `Modem.bringUp_retries` puts both together.
-/

namespace CellStation

namespace LinkState

variable {state : LinkState} {elapsed : Millis} {heard : List UInt8} {transition : Transition}

theorem Edge.next_ne (h : Edge elapsed heard state transition) : transition.next ≠ state := by
  cases h <;> simp

/-- No state but API mode outlasts the longest timer, and the first is left at once. -/
theorem exists_step_of_late (hstate : state ≠ .apiMode)
    (hlate : state ≠ .start → replyTimeoutMillis < elapsed) :
    ∃ transition, state.step elapsed heard = some transition := by
  have hguard : guardMillis < replyTimeoutMillis := by decide
  have hsettle : settleMillis < replyTimeoutMillis := by decide
  cases state with
  | start => exact ⟨_, rfl⟩
  | guard9600 | guard115200 => exact ⟨_, if_pos (UInt64.lt_trans hguard (hlate (by simp)))⟩
  | switching => exact ⟨_, if_pos (UInt64.lt_trans hsettle (hlate (by simp)))⟩
  | expectOk9600 | expectOk115200 =>
    cases hanswer : answered 1 heard with
    | true => exact ⟨_, if_pos hanswer⟩
    | false => exact ⟨_, by rw [step, hanswer, if_neg (by simp), if_pos (hlate (by simp))]⟩
  | expectApi =>
    cases hanswer : answered 2 heard with
    | true => exact ⟨_, if_pos hanswer⟩
    | false => exact ⟨_, by rw [step, hanswer, if_neg (by simp), if_pos (hlate (by simp))]⟩
  | apiMode => exact absurd rfl hstate

/-! ## The round of retries -/

/-- The states that are entered one after the other when no answer comes. -/
def retryState : Nat → LinkState
  | 0 => guard9600
  | 1 => expectOk9600
  | 2 => guard115200
  | 3 => expectOk115200
  | n + 4 => retryState n

/-- The orders that are given as they are entered. -/
def retryOrder : Nat → LineOrder
  | 0 => .setBaud commandBaud
  | 1 => .say escapeText
  | 2 => .setBaud apiBaud
  | 3 => .say escapeText
  | n + 4 => retryOrder n

/-- The state after a number of changes without an answer. -/
def afterRetries : Nat → LinkState
  | 0 => start
  | n + 1 => retryState n

theorem retryState_ne_apiMode : ∀ n, retryState n ≠ .apiMode
  | 0 | 1 | 2 | 3 => by simp [retryState]
  | n + 4 => retryState_ne_apiMode n

theorem afterRetries_ne_apiMode : ∀ n, afterRetries n ≠ .apiMode
  | 0 => by simp [afterRetries]
  | n + 1 => retryState_ne_apiMode n

/-- Without an answer there is one way on. -/
theorem Edge.of_unanswered : ∀ {n : Nat}, Edge elapsed heard (afterRetries n) transition →
    (∀ awaited ∈ (afterRetries n).awaits?, answered awaited.1 heard = false) →
    transition.orders = [retryOrder n] ∧ transition.next = retryState n
  | 0, h, _ => by
    cases h
    exact ⟨rfl, rfl⟩
  | 1, h, _ => by
    cases h
    exact ⟨rfl, rfl⟩
  | 2, h, hsilent => by
    cases h with
    | answered9600 hanswer =>
      rw [hsilent _ rfl] at hanswer
      cases hanswer
    | unanswered9600 => exact ⟨rfl, rfl⟩
  | 3, h, _ => by
    cases h
    exact ⟨rfl, rfl⟩
  | 4, h, hsilent => by
    cases h with
    | answered115200 hanswer =>
      rw [hsilent _ rfl] at hanswer
      cases hanswer
    | unanswered115200 => exact ⟨rfl, rfl⟩
  | n + 5, h, hsilent => Edge.of_unanswered (n := n + 1) h hsilent

end LinkState

/-- A change of state : the reading of the poll that made it, and the state entered. -/
structure StateChange where
  now : Millis
  entered : LinkState
  deriving DecidableEq, Repr

namespace Modem

open LinkState (answered retryState retryOrder afterRetries)
open Radio (Call answer after)

variable {σ : Type} [SerialLink σ]

/-! ## Changes of state -/

/-- The change of state that a call makes. -/
def change? (modem : Modem σ) : Call → Option StateChange
  | .poll now =>
    if (modem.poll now).2.state = modem.state then none else some ⟨now, (modem.poll now).2.state⟩
  | .enqueue _ => none

/-- The changes of state that calls make, in order. -/
def changes : List Call → Modem σ → List StateChange
  | [], _ => []
  | call :: calls, modem => (modem.change? call).toList ++ changes calls (answer call modem).2

theorem changes_append : ∀ (calls later : List Call) (modem : Modem σ),
    changes (calls ++ later) modem = changes calls modem ++ changes later (after calls modem)
  | [], _, _ => rfl
  | call :: calls, later, modem => by
    rw [List.cons_append, changes, changes, changes_append calls later, List.append_assoc]
    rfl

theorem changes_concat (calls : List Call) (call : Call) (modem : Modem σ) :
    changes (calls ++ [call]) modem =
      changes calls modem ++ ((after calls modem).change? call).toList := by
  rw [changes_append, changes, changes, List.append_nil]

/-- A poll on which a transition is due makes its change. -/
theorem change?_of_due {modem : Modem σ} {now : Millis} {transition : Transition}
    (h : modem.fillInput.due now = some transition) :
    modem.change? (.poll now) = some ⟨now, transition.next⟩ := by
  have hstate := modem.state_poll now
  rw [advance_of_some h] at hstate
  have hedge := LinkState.step_eq_some_iff.mp h
  rw [state_fillInput] at hedge
  rw [change?, hstate, if_neg hedge.next_ne]

theorem due_of_change?_eq_none {modem : Modem σ} {now : Millis}
    (h : modem.change? (.poll now) = none) : modem.fillInput.due now = none := by
  cases hdue : modem.fillInput.due now with
  | none => rfl
  | some transition =>
    rw [change?_of_due hdue] at h
    cases h

/-- A call keeps the state and its timer, or it is a poll that goes along an edge and sets the
timer. -/
theorem answer_cases (modem : Modem σ) (call : Call) :
    (modem.change? call = none ∧ (answer call modem).2.state = modem.state ∧
      (answer call modem).2.since = modem.since) ∨
    ∃ now transition, call = .poll now ∧ modem.fillInput.due now = some transition ∧
      (answer call modem).2.state = transition.next ∧ (answer call modem).2.since = now := by
  cases call with
  | enqueue frame =>
    obtain ⟨outBuf, h⟩ := enqueue_eq frame modem
    have hanswer : (answer (.enqueue frame) modem).2 = { modem with outBuf } := h
    rw [hanswer]
    exact .inl ⟨rfl, rfl, rfl⟩
  | poll now =>
    have hstate := modem.state_poll now
    have hsince := modem.since_poll now
    cases hdue : modem.fillInput.due now with
    | none =>
      rw [advance_of_none hdue, state_fillInput] at hstate
      rw [advance_of_none hdue, since_fillInput] at hsince
      exact .inl ⟨if_pos hstate, hstate, hsince⟩
    | some transition =>
      rw [advance_of_some hdue] at hstate hsince
      exact .inr ⟨now, transition, rfl, hdue, hstate, hsince⟩

/-- A change is made by one of the polls. -/
theorem poll_mem_of_mem_changes : ∀ {calls : List Call} {modem : Modem σ} {change : StateChange},
    change ∈ changes calls modem → .poll change.now ∈ calls
  | [], _, _, h => by cases h
  | call :: calls, modem, change, h => by
    rcases List.mem_append.mp h with hfirst | hlater
    · cases call with
      | poll now =>
        simp only [change?] at hfirst
        split at hfirst
        · cases hfirst
        · obtain rfl := List.mem_singleton.mp hfirst
          exact List.mem_cons_self
      | enqueue frame => cases hfirst
    · exact List.mem_cons_of_mem _ (poll_mem_of_mem_changes hlater)

/-- The state and the reading of its timer are those of the last change. -/
theorem getLast?_changes (link : σ) (start : Millis) (calls : List Call) :
    let modem := after calls (ofLink link start)
    (changes calls (ofLink link start) = [] ∧ modem.state = .start) ∨
      (changes calls (ofLink link start)).getLast? = some ⟨modem.since, modem.state⟩ := by
  induction calls using List.reverseRecOn with
  | nil => exact .inl ⟨rfl, rfl⟩
  | append_singleton calls call ih =>
    simp only [changes_concat, Radio.after_concat]
    rcases (after calls (ofLink link start)).answer_cases call with
      ⟨hnone, hstate, hsince⟩ | ⟨now, transition, rfl, hdue, hstate, hsince⟩
    · rw [hnone, hstate, hsince, Option.toList_none, List.append_nil]
      exact ih
    · rw [change?_of_due hdue, hstate, hsince]
      exact .inr (by simp)

/-- A poll after the longest timer, counted from the last change, makes another change. -/
theorem exists_change_of_late (link : σ) (start : Millis) (calls : List Call) (now : Millis)
    (hstate : (after calls (ofLink link start)).state ≠ .apiMode)
    (hlate : ∀ change, (changes calls (ofLink link start)).getLast? = some change →
      change.now.toNat + 1500 < now.toNat) :
    ∃ change, (after calls (ofLink link start)).change? (.poll now) = some change := by
  have htimer : (after calls (ofLink link start)).state ≠ .start →
      replyTimeoutMillis < now.since (after calls (ofLink link start)).since := by
    intro hne
    have hlong : (after calls (ofLink link start)).since.toNat + 1500 < now.toNat :=
      hlate _ ((getLast?_changes link start calls).resolve_left fun h => hne h.2)
    have htimeout : replyTimeoutMillis.toNat = 1500 := rfl
    rw [UInt64.lt_iff_toNat_lt, Millis.toNat_since, htimeout]
    omega
  obtain ⟨transition, hdue⟩ : ∃ transition,
      (after calls (ofLink link start)).fillInput.due now = some transition := by
    rw [due, state_fillInput, since_fillInput]
    exact LinkState.exists_step_of_late hstate htimer
  exact ⟨_, change?_of_due hdue⟩

/-! ## Retries -/

/-- What a poll is going to look at lacks the answer that is awaited. -/
def HearsNoAnswer (modem : Modem σ) : Prop :=
  ∀ awaited ∈ modem.state.awaits?, answered awaited.1 modem.fillInput.inBuf = false

instance (modem : Modem σ) : Decidable (HearsNoAnswer modem) :=
  inferInstanceAs (Decidable (∀ awaited ∈ modem.state.awaits?, _))

/-- No poll finds the answer that is awaited. -/
def Unanswered : List Call → Modem σ → Prop
  | [], _ => True
  | .poll now :: calls, modem => HearsNoAnswer modem ∧ Unanswered calls (modem.poll now).2
  | .enqueue frame :: calls, modem => Unanswered calls (modem.enqueue frame)

theorem unanswered_append : ∀ {calls later : List Call} {modem : Modem σ},
    Unanswered (calls ++ later) modem ↔
      Unanswered calls modem ∧ Unanswered later (after calls modem)
  | [], _, _ => ⟨fun h => ⟨trivial, h⟩, And.right⟩
  | .poll now :: calls, later, modem => by
    rw [List.cons_append, Unanswered, Unanswered, unanswered_append, and_assoc]
    rfl
  | .enqueue frame :: calls, later, modem => by
    rw [List.cons_append, Unanswered, Unanswered, unanswered_append]
    rfl

/-- The orders that went out over a line. -/
def ordersIn (calls : List LinkCall) : List LineOrder := calls.filterMap LinkCall.order?

/-- With nothing queued, a poll gives the orders that are due. -/
theorem ordersIn_poll {modem : Modem (Recorded σ)} (now : Millis) (hidle : modem.outBuf.size = 0) :
    ordersIn (modem.poll now).2.link.calls =
      ordersIn modem.link.calls ++ modem.fillInput.dueOrders now := by
  obtain ⟨asked, hasked, hquiet, -⟩ := modem.extends_hear
  obtain ⟨said, hsaid, horders⟩ := modem.fillInput.extends_advance now
  rw [link_fillInput] at hsaid
  have hcalls := hasked.trans hsaid
  rw [poll_of_idle now hidle]
  split
  · have hroom := hcalls.trans (Recorded.extends_writable (modem.fillInput.advance now).link)
    rw [ordersIn, ordersIn, hroom, List.filterMap_append,
      filterMap_order hquiet horders (by simp [LinkCall.order?])]
  · have hspoken := filterMap_order hquiet horders (List.forall_mem_nil _)
    rw [List.append_nil] at hspoken
    rw [ordersIn, ordersIn, hcalls, List.filterMap_append, hspoken]

/-- A run in which no answer has come, after a number of changes. -/
structure Retrying (calls : List Call) (fresh : Modem (Recorded σ)) (count : Nat) : Prop where
  state : (after calls fresh).state = afterRetries count
  states : (changes calls fresh).map StateChange.entered = (List.range count).map retryState
  orders : ordersIn (after calls fresh).link.calls = (List.range count).map retryOrder
  idle : (after calls fresh).outBuf.size = 0

namespace Retrying

variable {calls : List Call} {fresh : Modem (Recorded σ)} {count : Nat}

/-- A call that leaves the modem as it is, but for what it read, changes nothing. -/
theorem concat_of_none (h : Retrying calls fresh count) {call : Call}
    (hchange : (after calls fresh).change? call = none)
    (hstate : (answer call (after calls fresh)).2.state = (after calls fresh).state)
    (horders : ordersIn (answer call (after calls fresh)).2.link.calls =
      ordersIn (after calls fresh).link.calls)
    (hidle : (answer call (after calls fresh)).2.outBuf.size = 0) :
    Retrying (calls ++ [call]) fresh count where
  state := by rw [Radio.after_concat, hstate, h.state]
  states := by rw [changes_concat, hchange, Option.toList_none, List.append_nil, h.states]
  orders := by rw [Radio.after_concat, horders, h.orders]
  idle := by rw [Radio.after_concat, hidle]

/-- Before API mode nothing is queued. -/
theorem enqueue (h : Retrying calls fresh count) (frame : Frame) :
    Retrying (calls ++ [.enqueue frame]) fresh count := by
  have hdropped : (answer (.enqueue frame) (after calls fresh)).2 = after calls fresh := by
    refine if_neg ?_
    rw [h.state]
    exact LinkState.afterRetries_ne_apiMode count
  refine h.concat_of_none rfl ?_ ?_ ?_
  · rw [hdropped]
  · rw [hdropped]
  · rw [hdropped, h.idle]

/-- A poll that hears no answer lets time pass, or goes on to the next retry. -/
theorem poll (h : Retrying calls fresh count) (now : Millis)
    (hsilent : HearsNoAnswer (after calls fresh)) :
    ∃ count, Retrying (calls ++ [.poll now]) fresh count := by
  have hidle : (answer (.poll now) (after calls fresh)).2.outBuf.size = 0 := by
    rw [show (answer (.poll now) (after calls fresh)).2.outBuf = _ from
      (poll_fields now h.idle).2.2.1, h.idle]
  have horders := ordersIn_poll now h.idle
  rcases (after calls fresh).answer_cases (.poll now) with
    ⟨hnone, hstate, -⟩ | ⟨reading, transition, hnow, hdue, hstate, -⟩
  · rw [dueOrders, due_of_change?_eq_none hnone] at horders
    exact ⟨count, h.concat_of_none hnone hstate (horders.trans (List.append_nil _)) hidle⟩
  · obtain rfl := Call.poll.inj hnow
    have hedge := LinkState.step_eq_some_iff.mp hdue
    rw [state_fillInput, h.state] at hedge
    rw [HearsNoAnswer, h.state] at hsilent
    obtain ⟨hsaid, hnext⟩ := hedge.of_unanswered hsilent
    refine ⟨count + 1, ?_, ?_, ?_, ?_⟩
    · rw [Radio.after_concat, hstate, hnext, afterRetries]
    · rw [changes_concat, change?_of_due hdue, List.map_append, h.states, List.range_succ,
        List.map_append, hnext]
      rfl
    · rw [Radio.after_concat, List.range_succ, List.map_append, ← h.orders]
      rw [dueOrders, hdue] at horders
      rw [show ordersIn (answer (.poll now) (after calls fresh)).2.link.calls = _ from horders]
      simp [hsaid]
    · rw [Radio.after_concat, hidle]

end Retrying

/-- A run without an answer is a number of retries. -/
theorem exists_retrying (line : σ) (start : Millis) {calls : List Call}
    (h : Unanswered calls (ofLink (Recorded.ofLine line) start)) :
    ∃ count, Retrying calls (ofLink (Recorded.ofLine line) start) count := by
  induction calls using List.reverseRecOn with
  | nil => exact ⟨0, rfl, rfl, rfl, rfl⟩
  | append_singleton calls call ih =>
    obtain ⟨hbefore, hcall⟩ := unanswered_append.mp h
    obtain ⟨count, hcount⟩ := ih hbefore
    cases call with
    | poll now => exact hcount.poll now hcall.1
    | enqueue frame => exact ⟨count, hcount.enqueue frame⟩

/-- However the run goes on, it makes a change by a poll that comes after the longest timer. -/
theorem length_changes_lt (link : σ) (start : Millis) (calls later : List Call) (now : Millis)
    (hstate : (after (calls ++ later) (ofLink link start)).state ≠ .apiMode)
    (hlate : ∀ reading, .poll reading ∈ calls → reading.toNat + 1500 < now.toNat) :
    (changes calls (ofLink link start)).length <
      (changes (calls ++ later ++ [.poll now]) (ofLink link start)).length := by
  have hsplit := changes_append calls later (ofLink link start)
  rw [changes_concat, List.length_append]
  by_cases hnone : changes later (after calls (ofLink link start)) = []
  · -- The last change was made by one of the earlier polls, so this poll is late.
    rw [hnone, List.append_nil] at hsplit
    obtain ⟨change, hchange⟩ := exists_change_of_late link start (calls ++ later) now hstate
      fun last hlast => hlate _ (poll_mem_of_mem_changes (List.mem_of_getLast? (hsplit ▸ hlast)))
    rw [hchange, hsplit, Option.toList_some, List.length_singleton]
    exact Nat.lt_succ_self _
  · have hmore := List.length_pos_iff.mpr hnone
    rw [hsplit, List.length_append]
    omega

/-- The bring-up never stands still, whatever its line does. In every state but API mode, a
poll more than 1500 milliseconds after the last change of state makes another change. As long as
no answer comes, the changes and the orders are those of the retries, and however the run goes
on, there are more of them by any poll that comes 1500 milliseconds later. -/
theorem bringUp_retries (line : σ) (start : Millis) (calls : List Call) :
    let fresh := ofLink (Recorded.ofLine line) start
    (∀ now, (after calls fresh).state ≠ .apiMode →
      (∀ change, (changes calls fresh).getLast? = some change →
        change.now.toNat + 1500 < now.toNat) →
      ((after calls fresh).poll now).2.state ≠ (after calls fresh).state) ∧
    (Unanswered calls fresh →
      ∃ count, (changes calls fresh).map StateChange.entered = (List.range count).map retryState ∧
        ordersIn (after calls fresh).link.calls = (List.range count).map retryOrder ∧
        ∀ later now, Unanswered later (after calls fresh) →
          (∀ reading, .poll reading ∈ calls → reading.toNat + 1500 < now.toNat) →
          count < (changes (calls ++ later ++ [.poll now]) fresh).length) := by
  intro fresh
  constructor
  · intro now hstate hlate hkept
    obtain ⟨change, hchange⟩ := exists_change_of_late _ start calls now hstate hlate
    rw [change?, if_pos hkept] at hchange
    cases hchange
  · intro hsilent
    obtain ⟨count, hcount⟩ := exists_retrying line start hsilent
    refine ⟨count, hcount.states, hcount.orders, fun later now hlater hlate => ?_⟩
    obtain ⟨_, hmore⟩ := exists_retrying line start (unanswered_append.mpr ⟨hsilent, hlater⟩)
    have hlength : (changes calls fresh).length = count := by
      simpa using congrArg List.length hcount.states
    rw [← hlength]
    refine length_changes_lt _ start calls later now ?_ hlate
    rw [hmore.state]
    exact LinkState.afterRetries_ne_apiMode _

/-- A line on which nothing like an answer comes : the escape text is said at 9600, at 115200
and at 9600 again. -/
theorem bringUp_retries_noise :
    let line : PacedLine := ⟨[[0x0D], [0x4B], [0x4F, 0x4B], [0x0A]]⟩
    let fresh := ofLink (Recorded.ofLine line) 0
    let calls : List Call :=
      [.poll 0, .poll 1101, .poll 1200, .poll 2602, .poll 3703, .poll 5204, .poll 6305]
    Unanswered calls fresh ∧ (changes calls fresh).map StateChange.entered =
      [.guard9600, .expectOk9600, .guard115200, .expectOk115200, .guard9600, .expectOk9600] ∧
    ordersIn (after calls fresh).link.calls =
      [.setBaud commandBaud, .say escapeText, .setBaud apiBaud, .say escapeText,
        .setBaud commandBaud, .say escapeText] ∧
    6 < (changes (calls ++ [.poll 7806]) fresh).length := by
  intro line fresh calls
  have hsilent : Unanswered calls fresh := by
    refine ⟨?_, ?_, ?_, ?_, ?_, ?_, ?_, trivial⟩ <;> decide +kernel
  have hlate : ∀ reading, .poll reading ∈ calls →
      reading.toNat + 1500 < (7806 : Millis).toNat := by
    intro reading hmem
    simp only [calls, List.mem_cons, Call.poll.injEq, List.not_mem_nil, or_false] at hmem
    rcases hmem with rfl | rfl | rfl | rfl | rfl | rfl | rfl <;> decide
  obtain ⟨count, hstates, horders, hmore⟩ := (bringUp_retries line 0 calls).2 hsilent
  have hcount : (changes calls fresh).length = 6 := by decide +kernel
  have hlength := congrArg List.length hstates
  rw [List.length_map, List.length_map, List.length_range] at hlength
  obtain rfl : 6 = count := hcount.symm.trans hlength
  have hnext := hmore [] 7806 trivial hlate
  rw [List.append_nil] at hnext
  simp only [fresh]
  exact ⟨hsilent, hstates.trans rfl, horders.trans rfl, hnext⟩

end Modem

end CellStation
