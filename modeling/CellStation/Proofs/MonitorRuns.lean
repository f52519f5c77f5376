import CellStation.Monitor.Outgoing
import CellStation.Proofs.ComponentRequests
import CellStation.Proofs.MonitorSteps

/-!
# Runs of a monitor

A monitor handles frames, takes turns, and is given values to write. Each of these is a
`Monitor.Call`, in any order. What holds of every run holds up to where the program stops, since
such a turn changes nothing (`Monitor.takeTurn`). A turn in place comes to the same
(`Monitor.eq_of_fill`).
-/

namespace CellStation.Monitor

/-- What is asked of a monitor. -/
inductive Call where
  | incoming (now : Millis) (frame : Frame)
  | turn (now : Millis) (space : Nat)
  | configureCarrier (profile : CarrierProfile)
  | configureApn (apn : String)
  deriving DecidableEq, Repr

theorem turn_takeTurn (monitor : Monitor) (now : Millis) (space : Nat) :
    Turn now monitor (monitor.takeTurn now space).1 (monitor.takeTurn now space).2 := by
  unfold takeTurn
  split
  · rename_i hturn
    exact turn_of_nextRequest hturn
  · exact .rest

/-- The request that a call makes. -/
def made (monitor : Monitor) : Call → Option Request
  | .turn now space => (monitor.takeTurn now space).1
  | _ => none

/-- The monitor after a call. -/
def answer (monitor : Monitor) : Call → Monitor
  | .incoming now frame => monitor.onIncoming now frame
  | .turn now space => (monitor.takeTurn now space).2
  | .configureCarrier profile => monitor.configureCarrier profile
  | .configureApn apn => monitor.configureApn apn

/-- The monitor after calls. -/
def after (monitor : Monitor) (calls : List Call) : Monitor := calls.foldl answer monitor

theorem after_append (monitor : Monitor) (calls later : List Call) :
    monitor.after (calls ++ later) = (monitor.after calls).after later :=
  List.foldl_append

theorem after_concat (monitor : Monitor) (calls : List Call) (call : Call) :
    monitor.after (calls ++ [call]) = (monitor.after calls).answer call :=
  after_append monitor calls [call]

/-- What a monitor makes of a turn. -/
theorem turn_made (monitor : Monitor) (now : Millis) (space : Nat) :
    Turn now monitor (monitor.made (.turn now space)) (monitor.answer (.turn now space)) :=
  monitor.turn_takeTurn now space

/-- What a turn in place leaves in the frame is what the turn makes. -/
theorem eq_of_fill {monitor : Monitor} {now : Millis} {space : Nat} {out : Frame}
    {turn : FilledTurn Monitor} (h : monitor.fill now space out = .ok turn) :
    turn = ⟨monitor.answer (.turn now space), (monitor.made (.turn now space)).isSome,
      Request.fill (monitor.made (.turn now space)) out⟩ := by
  rw [fill_eq] at h
  cases hnext : monitor.nextRequest now space with
  | error stop =>
    rw [hnext] at h
    cases h
  | ok made =>
    rw [hnext] at h
    obtain rfl := Except.ok.inj h
    simp only [answer, Monitor.made, takeTurn_of_ok hnext, FilledTurn.ofRequest]

/-- A new monitor knows nothing. -/
theorem status_of_ofConfig {config : MonitorConfig} {monitor : Monitor}
    (h : ofConfig config = .ok monitor) : monitor.status = .initial := by
  rcases config with ⟨interval, carrier, apn⟩
  cases carrier <;> cases apn <;>
  · simp only [ofConfig] at h
    grind [fresh, configureCarrier, configureApn]

/-- The poll interval is the configured one, in whole milliseconds. -/
theorem pollInterval_of_ofConfig {config : MonitorConfig} {monitor : Monitor}
    (h : ofConfig config = .ok monitor) :
    monitor.pollInterval = config.pollInterval.clampedMillis := by
  rcases config with ⟨interval, carrier, apn⟩
  cases carrier <;> cases apn <;>
  · simp only [ofConfig] at h
    grind [fresh, configureCarrier, configureApn]

/-- The poll interval stays. -/
@[simp] theorem pollInterval_answer (monitor : Monitor) (call : Call) :
    (monitor.answer call).pollInterval = monitor.pollInterval := by
  cases call with
  | incoming now frame =>
    cases hin : frame.inbound with
    | reply id command status value =>
      simp only [answer, onIncoming, hin]
      have hreads := monitor.reads_onReply now id command status value
      generalize monitor.onReply now id command status value = next at hreads ⊢
      cases hreads <;> rfl
    | _ => simp only [answer, onIncoming, hin] <;> rfl
  | turn now space =>
    have hturn := monitor.turn_made now space
    generalize monitor.made (.turn now space) = request at hturn
    generalize monitor.answer (.turn now space) = next at hturn ⊢
    cases hturn <;> rfl
  | configureCarrier | configureApn => rfl

@[simp] theorem pollInterval_after (monitor : Monitor) (calls : List Call) :
    (monitor.after calls).pollInterval = monitor.pollInterval :=
  calls.foldlRecOn (motive := fun reached => reached.pollInterval = monitor.pollInterval) answer rfl
    fun reached hreached call _ => (reached.pollInterval_answer call).trans hreached

end CellStation.Monitor
