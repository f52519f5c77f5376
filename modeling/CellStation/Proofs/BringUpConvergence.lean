import CellStation.Proofs.CommandModem
import CellStation.Proofs.LineLog

/-!
# The bring-up comes to an end

With a modem that answers commands the bring-up reaches API mode, at whichever of the two
rates the modem listens. It goes through the stages of `Stage`. A stage is left by the first
poll after its timer has run out, or by the next poll if an answer is waiting; so when polls
are at most `gap` milliseconds apart, a stage lasts at most `gap` longer than its timer, and
`Stage.left` bounds the time to API mode.

Readings have 64 bits and cannot grow for ever. `bringUp_converges` therefore speaks of every
poll whose reading has passed the bound, in every schedule.
-/

namespace CellStation

namespace Modem

open Radio (Call after)

/-! ## Stages -/

/-- Where the bring-up of a command modem stands. -/
inductive Stage where
  /-- Keeping silence at 9600, where the modem listens. -/
  | guard9600
  /-- The escape text has been answered at 9600. -/
  | asked9600
  /-- The modem has gone to 115200. -/
  | switching
  /-- The escape text or the probe has been answered at 115200. -/
  | asked115200
  /-- The modem has gone to API mode. -/
  | askedApi
  /-- Keeping silence at 9600, while the modem listens at 115200. -/
  | missedGuard9600
  /-- The escape text was lost. -/
  | missed9600
  /-- Keeping silence at 115200, where the modem listens. -/
  | guard115200
  deriving DecidableEq, Repr

namespace Stage

/-- The state of the bring-up. -/
def state : Stage → LinkState
  | guard9600 => .guard9600
  | asked9600 => .expectOk9600
  | switching => .switching
  | asked115200 => .expectOk115200
  | askedApi => .expectApi
  | missedGuard9600 => .guard9600
  | missed9600 => .expectOk9600
  | guard115200 => .guard115200

/-- The answer that has been sent since the stage was entered. -/
def reply : Stage → List UInt8
  | asked9600 | switching | asked115200 => okReply
  | askedApi => okReply ++ okReply
  | _ => []

/-- The modem, with the answer not read yet. -/
def line (toHost : List UInt8) : Stage → CommandModem
  | guard9600 => ⟨commandBaud, commandBaud, false, false, [], toHost, [], 64⟩
  | asked9600 => ⟨commandBaud, commandBaud, true, false, [], toHost, [], 64⟩
  | switching => ⟨apiBaud, commandBaud, true, false, [], toHost, [], 64⟩
  | asked115200 => ⟨apiBaud, apiBaud, true, false, [], toHost, [], 64⟩
  | askedApi => ⟨apiBaud, apiBaud, false, true, [], toHost, [], 64⟩
  | missedGuard9600 => ⟨apiBaud, commandBaud, false, false, [], toHost, [], 64⟩
  | missed9600 => ⟨apiBaud, commandBaud, false, false, [], toHost, [], 64⟩
  | guard115200 => ⟨apiBaud, apiBaud, false, false, [], toHost, [], 64⟩

/-- The timer that must run out before the stage is left; none where an answer is waiting. -/
def timer? : Stage → Option Millis
  | guard9600 | missedGuard9600 | guard115200 => some guardMillis
  | switching => some settleMillis
  | missed9600 => some replyTimeoutMillis
  | _ => none

/-- The next stage; none for API mode. -/
def next? : Stage → Option Stage
  | guard9600 => some asked9600
  | asked9600 => some switching
  | switching => some asked115200
  | asked115200 => some askedApi
  | askedApi => none
  | missedGuard9600 => some missed9600
  | missed9600 => some guard115200
  | guard115200 => some asked115200

/-- How long after it was entered a stage may last until a poll can leave it. -/
def stay (stage : Stage) : Nat := (stage.timer?.map UInt64.toNat).getD 0

/-- Time to API mode from the entry of a stage, with polls `gap` apart. -/
def left (gap : Nat) : Stage → Nat
  | guard9600 => 1200 + 5 * gap
  | asked9600 => 100 + 4 * gap
  | switching => 100 + 3 * gap
  | asked115200 => 2 * gap
  | askedApi => gap
  | missedGuard9600 => 3700 + 5 * gap
  | missed9600 => 2600 + 4 * gap
  | guard115200 => 1100 + 3 * gap

theorem state_ne_apiMode (stage : Stage) : stage.state ≠ .apiMode := by
  cases stage <;> simp [state]

theorem length_reply_le (stage : Stage) : stage.reply.length ≤ bufferCapacity := by
  cases stage <;> decide

theorem toHost_line (stage : Stage) (toHost : List UInt8) :
    (stage.line toHost).toHost = toHost := by
  cases stage <;> rfl

/-- The line when all that was sent has been read. -/
theorem line_read (stage : Stage) (toHost : List UInt8) :
    { stage.line toHost with toHost := [] } = stage.line [] := by
  cases stage <;> rfl

/-- A stage lasts until its timer has run out, and until the next poll. -/
theorem left_eq (gap : Nat) (stage : Stage) :
    stage.left gap = stage.stay + gap + (stage.next?.map (left gap)).getD 0 := by
  cases stage <;> simp only [left, stay, timer?, next?, Option.map, Option.getD] <;>
    simp [guardMillis, settleMillis, replyTimeoutMillis] <;> omega

/-- The bring-up leaves a stage along the edge to the next one. -/
theorem step_of_left (stage : Stage) {elapsed : Millis}
    (h : ∀ timer, stage.timer? = some timer → timer < elapsed) :
    ∃ transition, stage.state.step elapsed stage.reply = some transition ∧
      match stage.next? with
      | none => transition.next = .apiMode
      | some next =>
        transition.next = next.state ∧
          (if transition.forgets then [] else stage.reply) = [] ∧
          transition.orders.foldl carryOut (stage.line []) = next.line next.reply := by
  cases stage with
  | guard9600 | missedGuard9600 =>
    exact ⟨_, LinkState.step_eq_some_iff.mpr (.escape9600 (h _ rfl)), rfl, rfl, rfl⟩
  | asked9600 =>
    exact ⟨_, LinkState.step_eq_some_iff.mpr (.answered9600 (by decide)), rfl, rfl, rfl⟩
  | missed9600 =>
    exact ⟨_, LinkState.step_eq_some_iff.mpr (.unanswered9600 (by decide) (h _ rfl)), rfl, rfl, rfl⟩
  | switching =>
    exact ⟨_, LinkState.step_eq_some_iff.mpr (.settled (h _ rfl)), rfl, rfl, rfl⟩
  | guard115200 =>
    exact ⟨_, LinkState.step_eq_some_iff.mpr (.escape115200 (h _ rfl)), rfl, rfl, rfl⟩
  | asked115200 =>
    exact ⟨_, LinkState.step_eq_some_iff.mpr (.answered115200 (by decide)), rfl, rfl, rfl⟩
  | askedApi =>
    exact ⟨_, LinkState.step_eq_some_iff.mpr (.answeredApi (by decide)), rfl⟩

/-- Until its timer has run out, a stage is not left. -/
theorem step_of_early (stage : Stage) {elapsed timer : Millis} (htimer : stage.timer? = some timer)
    (h : elapsed ≤ timer) : stage.state.step elapsed stage.reply = none := by
  have hearly := UInt64.not_lt.mpr h
  cases stage with
  | missed9600 =>
    obtain rfl := Option.some.inj htimer
    have hsilent : LinkState.answered 1 (missed9600.reply) = false := by decide
    simp [state, LinkState.step, hsilent, hearly]
  | guard9600 | missedGuard9600 | switching | guard115200 =>
    obtain rfl := Option.some.inj htimer
    simp only [state, LinkState.step, if_neg hearly]
  | _ => cases htimer

end Stage

/-! ## One poll -/

/-- Before API mode, a modem at the end of the line hands over all it has sent. -/
theorem fillInput_commandModem {modem : Modem CommandModem} (hstate : modem.state ≠ .apiMode)
    (hroom : modem.inBuf.length + modem.link.toHost.length ≤ bufferCapacity) :
    modem.fillInput =
      { modem with
        link := { modem.link with toHost := [] }
        inBuf := modem.inBuf ++ modem.link.toHost } := by
  have hwanted : modem.wanted modem.link.toHost.length = modem.link.toHost.length := by
    rw [wanted, if_neg hstate]
  have hask : SerialLink.available modem.link =
    (.ok modem.link.toHost.length, modem.link) := rfl
  have hread : SerialLink.read modem.link.toHost.length modem.link =
      (.ok modem.link.toHost, { modem.link with toHost := [] }) := by
    simp [SerialLink.read]
  simp only [fillInput, hask, hwanted]
  split
  · rename_i hnone
    rw [List.length_eq_zero_iff] at hnone
    rcases modem with ⟨link, state, since, inBuf, outBuf⟩
    rcases link with ⟨modemBaud, lineBaud, commandMode, apiMode, command, toHost, collected, room⟩
    obtain rfl : toHost = [] := hnone
    simp
  · rw [hread]
    simp only [List.take_length]
    rw [newest_of_le (by simpa using hroom)]

/-- The bring-up of a command modem stands where it can still reach API mode by the deadline,
with polls `gap` apart. -/
inductive OnTime (deadline gap now : Nat) : Modem CommandModem → Prop where
  /-- API mode is reached. -/
  | done {modem : Modem CommandModem} (hstate : modem.state = .apiMode) :
    OnTime deadline gap now modem
  /-- A stage was entered and its answer has been read up to `toHost`. -/
  | standing (stage : Stage) (since : Millis) (text toHost : List UInt8)
    (hreply : text ++ toHost = stage.reply) (hentered : since.toNat ≤ now)
    (hstay : now ≤ since.toNat + stage.stay) (hleft : since.toNat + stage.left gap ≤ deadline) :
    OnTime deadline gap now
      ⟨stage.line toHost, stage.state, since, text, .empty bufferCapacity⟩

theorem OnTime.apiMode_of_late {deadline gap now : Nat} {modem : Modem CommandModem}
    (h : OnTime deadline gap now modem) (hlate : deadline < now) : modem.state = .apiMode := by
  cases h with
  | done hstate => exact hstate
  | standing stage since text toHost hreply hentered hstay hleft =>
    have := stage.left_eq gap
    omega

/-- A poll reads the answer that a stage has brought. -/
theorem fillInput_standing (stage : Stage) (since : Millis) {text toHost : List UInt8}
    (hreply : text ++ toHost = stage.reply) :
    fillInput ⟨stage.line toHost, stage.state, since, text, .empty bufferCapacity⟩ =
      ⟨stage.line [], stage.state, since, stage.reply, .empty bufferCapacity⟩ := by
  have hroom : text.length + (stage.line toHost).toHost.length ≤ bufferCapacity := by
    rw [stage.toHost_line, ← List.length_append, hreply]
    exact stage.length_reply_le
  rw [fillInput_commandModem stage.state_ne_apiMode hroom]
  simp only [stage.toHost_line, stage.line_read, hreply]

theorem OnTime.poll {deadline gap now : Nat} {modem : Modem CommandModem}
    (h : OnTime deadline gap now modem) {next : Millis} (hle : now ≤ next.toNat)
    (hgap : next.toNat ≤ now + gap) : OnTime deadline gap next.toNat (modem.poll next).2 := by
  cases h with
  | done hstate => exact .done (state_answer (.poll next) hstate)
  | standing stage since text toHost hreply hentered hstay hleft =>
    let filled : Modem CommandModem :=
      ⟨stage.line [], stage.state, since, stage.reply, .empty bufferCapacity⟩
    have hfill := fillInput_standing stage since hreply
    have hpoll : (Modem.poll next (⟨stage.line toHost, stage.state, since, text,
      .empty bufferCapacity⟩ : Modem CommandModem)).2 = _ := poll_of_idle next rfl
    rw [hfill] at hpoll
    have hsince : since ≤ next := UInt64.le_iff_toNat_le.mpr (Nat.le_trans hentered hle)
    by_cases hleaves : ∀ timer, stage.timer? = some timer → timer < next.since since
    · obtain ⟨transition, hstep, hnext⟩ := stage.step_of_left hleaves
      have hdue : filled.due next = some transition := hstep
      rw [advance_of_some hdue] at hpoll
      have hend := stage.left_eq gap
      cases hstage : stage.next? with
      | none =>
        simp only [hstage] at hnext
        rw [hpoll, if_pos hnext]
        exact .done hnext
      | some following =>
        simp only [hstage] at hnext
        obtain ⟨hstate, hforgets, hline⟩ := hnext
        rw [hstage, Option.map_some, Option.getD_some] at hend
        rw [if_neg (by rw [hstate]; exact following.state_ne_apiMode)] at hpoll
        rw [hpoll, hstate, hforgets, hline]
        exact .standing following next [] following.reply rfl (Nat.le_refl _)
          (Nat.le_add_right _ _) (by omega)
    · obtain ⟨timer, hleaves⟩ := Classical.not_forall.mp hleaves
      obtain ⟨htimer, hearly⟩ := Classical.not_imp.mp hleaves
      have hdue : filled.due next = none := stage.step_of_early htimer (UInt64.not_lt.mp hearly)
      rw [advance_of_none hdue, if_neg stage.state_ne_apiMode] at hpoll
      rw [hpoll]
      have hstay' : next.toNat ≤ since.toNat + stage.stay := by
        have hshort := mt (Millis.lt_since_iff hsince).mpr hearly
        rw [Stage.stay, htimer, Option.map_some, Option.getD_some]
        omega
      exact .standing stage since stage.reply [] (List.append_nil _) (Nat.le_trans hentered hle)
        hstay' hleft

/-! ## Schedules -/

/-- Polls that go on for ever, at most `gap` milliseconds apart. -/
structure Schedule (gap : Nat) where
  /-- The clock reading of each poll. -/
  reading : Nat → Millis
  mono (n : Nat) : reading n ≤ reading (n + 1)
  close (n : Nat) : (reading (n + 1)).toNat ≤ (reading n).toNat + gap

namespace Schedule

variable {gap : Nat}

/-- The polls from the first one to poll `n`. -/
def upTo (schedule : Schedule gap) (n : Nat) : List Call :=
  polls ((List.range (n + 1)).map schedule.reading)

theorem after_upTo_succ (schedule : Schedule gap) (n : Nat) (modem : Modem CommandModem) :
    after (schedule.upTo (n + 1)) modem =
      ((after (schedule.upTo n) modem).poll (schedule.reading (n + 1))).2 := by
  rw [upTo, List.range_succ, List.map_append, polls, List.map_append, Radio.after_append]
  rfl

/-- A bring-up that is on time after the first poll stays so. -/
theorem onTime (schedule : Schedule gap) {deadline : Nat} {modem : Modem CommandModem}
    (hfirst : OnTime deadline gap (schedule.reading 0).toNat
      (modem.poll (schedule.reading 0)).2) :
    ∀ n, OnTime deadline gap (schedule.reading n).toNat (after (schedule.upTo n) modem)
  | 0 => hfirst
  | n + 1 => by
    rw [schedule.after_upTo_succ]
    exact (schedule.onTime hfirst n).poll (UInt64.le_iff_toNat_le.mp (schedule.mono n))
      (schedule.close n)

end Schedule

/-- The first poll sets the line to 9600 and enters the stage of keeping silence. -/
theorem onTime_first (gap : Nat) (start now : Millis) {baud : UInt32} (stage : Stage)
    (hstate : stage.state = .guard9600) (hreply : stage.reply = [])
    (hline : stage.line [] = { CommandModem.atRate baud with lineBaud := commandBaud }) :
    OnTime (now.toNat + stage.left gap) gap now.toNat
      ((ofLink (CommandModem.atRate baud) start).poll now).2 := by
  have hpoll : ((ofLink (CommandModem.atRate baud) start).poll now).2 =
      ⟨stage.line [], stage.state, now, [], .empty bufferCapacity⟩ := by
    rw [hstate, hline]
    rfl
  rw [hpoll]
  exact .standing stage now [] [] hreply.symm (Nat.le_refl _) (Nat.le_add_right _ _)
    (Nat.le_refl _)

/-- A modem that answers commands is brought to API mode : within 1200 milliseconds and five
polls of the first one if it listens at 9600, and within 3700 milliseconds and five polls if it
listens at 115200. -/
theorem bringUp_converges {gap : Nat} (schedule : Schedule gap) (start : Millis) (n : Nat) :
    ((schedule.reading 0).toNat + 1200 + 5 * gap < (schedule.reading n).toNat →
      (after (schedule.upTo n) (ofLink (CommandModem.atRate commandBaud) start)).state =
        .apiMode) ∧
    ((schedule.reading 0).toNat + 3700 + 5 * gap < (schedule.reading n).toNat →
      (after (schedule.upTo n) (ofLink (CommandModem.atRate apiBaud) start)).state =
        .apiMode) := by
  constructor
  · intro hlate
    refine (schedule.onTime (onTime_first gap start _ .guard9600 rfl rfl rfl) n).apiMode_of_late ?_
    rw [Stage.left, ← Nat.add_assoc]
    exact hlate
  · intro hlate
    refine (schedule.onTime
      (onTime_first gap start _ .missedGuard9600 rfl rfl rfl) n).apiMode_of_late ?_
    rw [Stage.left, ← Nat.add_assoc]
    exact hlate

/-- Readings 50 milliseconds apart for ten seconds, and then a clock at rest. -/
def restingClock (n : Nat) : Millis := .ofNat (min (50 * n) 10000)

theorem toNat_restingClock (n : Nat) : (restingClock n).toNat = min (50 * n) 10000 :=
  UInt64.toNat_ofNat_of_lt' (by simp only [UInt64.size]; omega)

/-- Polls for ten seconds, and then for ever at the same reading. -/
def tenSeconds : Schedule 50 where
  reading := restingClock
  mono n := by
    rw [UInt64.le_iff_toNat_le, toNat_restingClock, toNat_restingClock]
    omega
  close n := by
    rw [toNat_restingClock, toNat_restingClock]
    omega

/-- At either rate the modem is in API mode after the poll at five seconds. -/
theorem bringUp_converges_tenSeconds :
    (after (tenSeconds.upTo 100) (ofLink (CommandModem.atRate commandBaud) 0)).state =
        .apiMode ∧
      (after (tenSeconds.upTo 100) (ofLink (CommandModem.atRate apiBaud) 0)).state =
        .apiMode :=
  have hboth := bringUp_converges tenSeconds 0 100
  ⟨hboth.1 (by decide), hboth.2 (by decide)⟩

end Modem

end CellStation
