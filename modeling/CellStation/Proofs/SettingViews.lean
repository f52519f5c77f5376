import CellStation.Proofs.SettingsModem
import Mathlib.Data.List.Induction

/-!
# An exchange seen from one setting

What an exchange comes to for one setting is its `Setting.View` : whether the slot is polled,
what is shown, the answers to come in order, wherever they are by now, and what the modem will
keep. A move changes it in one of four ways (`Setting.View.Step`) : not at all, a poll is sent,
a value is sent, or an answer comes (`Setting.step_view`).

This needs every value in an exchange to be one that the setting can have (`Setting.Sound`),
so that an answer is shown as the modem gave it. Moves keep it so (`Setting.Sound.after`).
-/

namespace CellStation

namespace Setting

variable {setting : Setting}

/-! ## What is to come -/

/-- The value that is kept once requests have been taken. -/
def kept (setting : Setting) (value : List UInt8) : List Request → List UInt8
  | [] => value
  | request :: requests => setting.kept ((setting.sets? request).getD value) requests

/-- The values that polls among requests are answered with. -/
def answers (setting : Setting) (value : List UInt8) : List Request → List (List UInt8)
  | [] => []
  | request :: requests =>
    (if request = setting.poll then [value] else []) ++
      setting.answers ((setting.sets? request).getD value) requests

theorem kept_append (value : List UInt8) (requests later : List Request) :
    setting.kept value (requests ++ later) = setting.kept (setting.kept value requests) later := by
  induction requests generalizing value with
  | nil => rfl
  | cons request requests ih => exact ih _

theorem answers_append (value : List UInt8) (requests later : List Request) :
    setting.answers value (requests ++ later) =
      setting.answers value requests ++ setting.answers (setting.kept value requests) later := by
  induction requests generalizing value with
  | nil => rfl
  | cons request requests ih => rw [List.cons_append, answers, ih, answers, List.append_assoc]; rfl

theorem kept_of_unset {value : List UInt8} {requests : List Request}
    (h : ∀ request ∈ requests, setting.sets? request = none) :
    setting.kept value requests = value := by
  induction requests with
  | nil => rfl
  | cons request requests ih =>
    rw [List.forall_mem_cons] at h
    rw [kept, h.1, Option.getD_none, ih h.2]

/-- What an exchange comes to for one setting. -/
structure View where
  /-- The slot is polled, and the next answer is taken. -/
  polled : Bool
  /-- What the snapshot shows. -/
  shown : List UInt8
  /-- What the polls that have been sent will be answered with, in order. -/
  coming : List (List UInt8)
  /-- What the modem keeps once it has taken every request that has been sent. -/
  kept : List UInt8

/-- The part of an exchange that concerns a setting. -/
def view (setting : Setting) (exchange : Exchange) : View where
  polled := (exchange.monitor.slot setting.query).enabled
  shown := setting.shown exchange.monitor.status
  coming := exchange.frames.filterMap setting.told? ++
    setting.answers (exchange.settings setting) exchange.requests
  kept := setting.kept (exchange.settings setting) exchange.requests

/-- The value that a move sends to be set. -/
def writes? (setting : Setting) (exchange : Exchange) : Move → Option (List UInt8)
  | .turn now space => (exchange.monitor.takeTurn now space).1.bind setting.sets?
  | _ => none

/-- What a move can come to for one setting, told by the value that it sends to be set. -/
inductive View.Step (view : View) : Option (List UInt8) → View → Prop where
  | rest : Step view none view
  /-- A poll is sent. -/
  | asked : Step view none { view with coming := view.coming ++ [view.kept] }
  /-- A value is sent, and is to be read back. -/
  | wrote (value : List UInt8) : Step view (some value) { view with polled := true, kept := value }
  /-- An answer comes. -/
  | told (value : List UInt8) (coming : List (List UInt8)) (h : view.coming = value :: coming) :
    Step view none
      { view with
        polled := false
        shown := if view.polled then value else view.shown
        coming }

/-! ## Moves -/

/-- The values of an exchange are such as settings have. -/
structure Sound (exchange : Exchange) : Prop where
  waiting : ∀ setting : Setting, ∀ value ∈ setting.waiting exchange.monitor,
    setting.Admits value ∧ value ≠ []
  coming : ∀ setting : Setting, ∀ value ∈ (setting.view exchange).coming, setting.Admits value
  kept : ∀ setting : Setting, setting.Admits (setting.view exchange).kept

section Steps

variable {exchange : Exchange}

/-- What an exchange comes to once one more request is sent. -/
theorem view_send (setting : Setting) (exchange : Exchange) (monitor : Monitor)
    (request : Request) :
    setting.view { exchange with monitor, requests := exchange.requests ++ [request] } =
      { polled := (monitor.slot setting.query).enabled
        shown := setting.shown monitor.status
        coming := (setting.view exchange).coming ++
          if request = setting.poll then [(setting.view exchange).kept] else []
        kept := (setting.sets? request).getD (setting.view exchange).kept } := by
  simp only [view, answers_append, kept_append, Setting.kept, answers, List.append_nil,
    List.append_assoc]

/-- A poll is sent, for the setting or for another fact. -/
theorem step_poll (setting : Setting) (exchange : Exchange) (query : Query) (due : Millis) :
    View.Step (setting.view exchange) none
      (setting.view
        { exchange with
          monitor := exchange.monitor.setSlot query
            { exchange.monitor.slot query with nextDue := due }
          requests :=
            exchange.requests ++ [.command (Monitor.pollId query) query.command []] }) := by
  rw [view_send, sets?_ask]
  by_cases hquery : query = setting.query
  · subst hquery
    have hsame : Request.command (Monitor.pollId setting.query) setting.query.command [] =
        setting.poll := rfl
    rw [Monitor.slot_setSlot, if_pos hsame]
    exact .asked
  · have hne : Request.command (Monitor.pollId query) query.command [] ≠ setting.poll := by
      intro h
      exact hquery (Monitor.pollId_injective (Request.command.inj h).1)
    rw [Monitor.slot_setSlot_of_ne _ _ hquery, if_neg hne, List.append_nil]
    exact .rest

/-- A value is sent, for the setting or for another. -/
theorem step_write (setting : Setting) (exchange : Exchange) (written : Setting)
    {value : List UInt8} (hvalue : value ≠ []) {cleared : Monitor}
    (hslots : cleared.slots = exchange.monitor.slots)
    (hstatus : cleared.status = exchange.monitor.status) :
    View.Step (setting.view exchange)
      (setting.sets? (.command writeFrameId written.query.command value))
      (setting.view
        { exchange with
          monitor := cleared.forcePoll written.query
          requests := exchange.requests ++
            [.command writeFrameId written.query.command value] }) := by
  have hne : Request.command writeFrameId written.query.command value ≠ setting.poll := by
    intro h
    exact hvalue (Request.command.inj h).2.2
  have hshown : setting.shown (cleared.forcePoll written.query).status =
      setting.shown exchange.monitor.status := congrArg setting.shown hstatus
  rw [view_send, if_neg hne, List.append_nil, hshown]
  by_cases hwritten : written = setting
  · subst hwritten
    rw [sets?_write, if_pos ⟨rfl, hvalue⟩, Monitor.forcePoll, Monitor.slot_setSlot]
    exact .wrote value
  · have hquery : written.query ≠ setting.query := fun h => hwritten (query_injective h)
    have hslot : cleared.slot setting.query = exchange.monitor.slot setting.query := by
      rw [Monitor.slot, hslots, Monitor.slot]
    rw [sets?_write, if_neg fun h => hwritten h.1, Monitor.forcePoll,
      Monitor.slot_setSlot_of_ne _ _ hquery, hslot]
    exact .rest

theorem step_turn (setting : Setting) (h : Sound exchange) (now : Millis) (space : Nat) :
    View.Step (setting.view exchange) (setting.writes? exchange (.turn now space))
      (setting.view (exchange.step (.turn now space))) := by
  have hturn := exchange.monitor.turn_takeTurn now space
  simp only [writes?, Exchange.step]
  generalize (exchange.monitor.takeTurn now space).1 = request at hturn ⊢
  generalize (exchange.monitor.takeTurn now space).2 = next at hturn ⊢
  cases hturn with
  | rest =>
    rw [Option.toList_none, List.append_nil]
    exact .rest
  | writeCarrier profile hpending =>
    have hvalue : [profile.raw] ∈ waiting .carrierProfile exchange.monitor := by
      rw [waiting, hpending]
      rfl
    exact setting.step_write exchange .carrierProfile (h.waiting .carrierProfile _ hvalue).2 rfl rfl
  | writeApn apn hcarrier hpending =>
    have hvalue : Text.toBytes apn ∈ waiting .apn exchange.monitor := by
      rw [waiting, hpending]
      rfl
    exact setting.step_write exchange .apn (h.waiting .apn _ hvalue).2 rfl rfl
  | poll query hcarrier hapn hdue =>
    rw [Option.bind_some, sets?_ask]
    exact setting.step_poll exchange query _

theorem step_take (setting : Setting) (exchange : Exchange)
    (answer : Option (AtStatus × List UInt8)) :
    setting.view (exchange.step (.take answer)) = setting.view exchange := by
  cases hrequests : exchange.requests with
  | nil => simp only [Exchange.step, hrequests]
  | cons request requests =>
    obtain ⟨hset, htold⟩ := setting.take_eq exchange.settings answer request
    simp only [Exchange.step, hrequests, view, hset, List.filterMap_append, htold, Setting.kept,
      answers, List.append_assoc]

/-- A frame is taken for an answer while the slot is polled, and settles it. -/
theorem onIncoming_fields (setting : Setting) (monitor : Monitor) (now : Millis) {frame : Frame}
    (h : ∀ value ∈ setting.told? frame, setting.Admits value) :
    ((monitor.onIncoming now frame).slot setting.query).enabled =
        ((monitor.slot setting.query).enabled && (setting.told? frame).isNone) ∧
      setting.shown (monitor.onIncoming now frame).status =
        if (monitor.slot setting.query).enabled then
          (setting.told? frame).getD (setting.shown monitor.status)
        else setting.shown monitor.status := by
  cases hin : frame.inbound with
  | reply id command status value =>
    have hreads := monitor.reads_onReply now id command status value
    have htold : setting.told? frame =
        if id = Monitor.pollId setting.query ∧ command = setting.query.command ∧ status = .ok then
          some value
        else none := by rw [told?, hin]
    simp only [Monitor.onIncoming, hin]
    generalize monitor.onReply now id command status value = next at hreads ⊢
    cases hreads with
    | ignored hignored =>
      cases henabled : (monitor.slot setting.query).enabled with
      | false => simp
      | true =>
        rw [htold, if_neg fun hpoll => hignored _ henabled hpoll.1 hpoll.2.1 hpoll.2.2]
        simp
    | taken query henabled hid hcommand hstatus =>
      by_cases hquery : query = setting.query
      · subst hquery
        rw [if_pos ⟨hid, hcommand, hstatus⟩] at htold
        obtain ⟨hshown, hsettled⟩ := apply_of_admits (h value htold) monitor.status now
        rw [Monitor.slot_setSlot, htold, henabled, hsettled, if_pos rfl]
        exact ⟨rfl, hshown⟩
      · have hne : ¬ (id = Monitor.pollId setting.query ∧ command = setting.query.command ∧
            status = .ok) := fun hpoll => hquery (Monitor.pollId_injective (hid.symm.trans hpoll.1))
        rw [if_neg hne] at htold
        have hshown := shown_apply_of_ne hquery monitor.status value now
        rw [Monitor.slot_setSlot_of_ne _ _ hquery, htold]
        refine ⟨by simp [Monitor.slot], ?_⟩
        rw [Option.getD_none, ite_self]
        exact hshown
  | event code =>
    have htold : setting.told? frame = none := by rw [told?, hin]
    have hshown : setting.shown (monitor.onEvent code).status = setting.shown monitor.status := by
      cases setting <;> rfl
    simp [Monitor.onIncoming, hin, htold, hshown]
  | _ => simp [Monitor.onIncoming, hin, told?]

theorem step_deliver (setting : Setting) (h : Sound exchange) (now : Millis) :
    View.Step (setting.view exchange) none (setting.view (exchange.step (.deliver now))) := by
  cases hframes : exchange.frames with
  | nil =>
    simp only [Exchange.step, hframes]
    exact .rest
  | cons frame frames =>
    have hadmits : ∀ value ∈ setting.told? frame, setting.Admits value := by
      intro value hvalue
      refine h.coming setting value (List.mem_append_left _ ?_)
      rw [hframes]
      exact List.mem_filterMap.mpr ⟨frame, List.mem_cons_self, hvalue⟩
    obtain ⟨hpolled, hshown⟩ := setting.onIncoming_fields exchange.monitor now hadmits
    have hview : setting.view (exchange.step (.deliver now)) =
        { polled := (setting.view exchange).polled && (setting.told? frame).isNone
          shown :=
            if (setting.view exchange).polled then
              (setting.told? frame).getD (setting.view exchange).shown
            else (setting.view exchange).shown
          coming := frames.filterMap setting.told? ++
            setting.answers (exchange.settings setting) exchange.requests
          kept := (setting.view exchange).kept } := by
      simp only [Exchange.step, hframes, view, hpolled, hshown]
    have hcoming : (setting.view exchange).coming =
        (setting.told? frame).toList ++ (frames.filterMap setting.told? ++
          setting.answers (exchange.settings setting) exchange.requests) := by
      rw [view, hframes, ← List.append_assoc]
      cases htold : setting.told? frame <;> simp [htold]
    rw [hview]
    cases htold : setting.told? frame with
    | none =>
      rw [htold, Option.toList_none, List.nil_append] at hcoming
      simp only [Option.isNone_none, Bool.and_true, Option.getD_none, ite_self, ← hcoming]
      exact .rest
    | some value =>
      rw [htold] at hcoming
      simp only [Option.isNone_some, Bool.and_false, Option.getD_some]
      exact .told value _ hcoming

theorem step_unasked (setting : Setting) (exchange : Exchange) (now : Millis) {frame : Frame}
    (h : ∀ id command status value, frame.inbound ≠ .reply id command status value) :
    setting.view (exchange.step (.unasked now frame h)) = setting.view exchange := by
  have htold : setting.told? frame = none := by
    rw [told?]
    split
    · rename_i heq
      exact absurd heq (h _ _ _ _)
    · rfl
  have hadmits : ∀ value ∈ setting.told? frame, setting.Admits value := by simp [htold]
  obtain ⟨hpolled, hshown⟩ := setting.onIncoming_fields exchange.monitor now hadmits
  simp only [Exchange.step, view, hpolled, hshown, htold, Option.isNone_none, Bool.and_true,
    Option.getD_none, ite_self]

/-- What a move comes to for a setting. -/
theorem step_view (setting : Setting) (h : Sound exchange) (move : Move) :
    View.Step (setting.view exchange) (setting.writes? exchange move)
      (setting.view (exchange.step move)) := by
  cases move with
  | configureCarrier profile => exact .rest
  | configureApn name => exact .rest
  | turn now space => exact setting.step_turn h now space
  | take answer =>
    rw [step_take]
    exact .rest
  | deliver now => exact setting.step_deliver h now
  | unasked now frame hreply =>
    rw [step_unasked]
    exact .rest

/-! ## Values stay such as settings have -/

theorem waiting_onIncoming (setting : Setting) (monitor : Monitor) (now : Millis) (frame : Frame) :
    setting.waiting (monitor.onIncoming now frame) = setting.waiting monitor := by
  obtain ⟨hcarrier, hapn⟩ := monitor.pending_onIncoming now frame
  cases setting with
  | carrierProfile => rw [waiting, waiting, hcarrier]
  | apn => rw [waiting, waiting, hapn]

/-- A turn leaves no value to wait that did not, and sends only values that waited. -/
theorem waiting_turn (setting : Setting) {monitor next : Monitor} {now : Millis}
    {request : Option Request} (h : monitor.Turn now request next) :
    (∀ value ∈ setting.waiting next, value ∈ setting.waiting monitor) ∧
      ∀ value ∈ request.bind setting.sets?, value ∈ setting.waiting monitor := by
  cases h with
  | rest => exact ⟨fun _ => id, nofun⟩
  | writeCarrier profile hpending =>
    have hsets := setting.sets?_write .carrierProfile [profile.raw]
    simp only [query] at hsets
    cases setting <;> simp [waiting, Monitor.forcePoll, Monitor.setSlot, hsets, hpending]
  | writeApn apn hcarrier hpending =>
    have hsets := setting.sets?_write .apn (Text.toBytes apn)
    simp only [query] at hsets
    cases setting <;> simp [waiting, Monitor.forcePoll, Monitor.setSlot, hsets, hpending]
  | poll query hcarrier hapn hdue =>
    refine ⟨fun value hvalue => ?_, fun value hvalue => ?_⟩
    · cases setting <;> exact hvalue
    · rw [Option.bind_some, sets?_ask] at hvalue
      cases hvalue

/-- A value that waits has waited before the move, or has just been configured. -/
theorem waiting_step (setting : Setting) (exchange : Exchange) (move : Move) {value : List UInt8}
    (h : value ∈ setting.waiting (exchange.step move).monitor) :
    value ∈ setting.waiting exchange.monitor ∨ (setting.Admits value ∧ value ≠ []) := by
  cases move with
  | configureCarrier profile =>
    cases setting with
    | carrierProfile =>
      obtain rfl : [profile.raw] = value := Option.some.inj h
      exact .inr ⟨⟨_, rfl⟩, List.cons_ne_nil _ _⟩
    | apn => exact .inl h
  | configureApn name =>
    cases setting with
    | carrierProfile => exact .inl h
    | apn =>
      simp only [Exchange.step, Monitor.configureApn, Text.cut_of_le name.size_le] at h
      obtain rfl : Text.toBytes name.text = value := Option.some.inj h
      exact .inr ⟨name.admits, name.toBytes_ne_nil⟩
  | turn now space => exact .inl ((setting.waiting_turn (Monitor.turn_takeTurn _ _ _)).1 _ h)
  | take answer =>
    left
    simp only [Exchange.step] at h
    split at h
    · exact h
    · exact h
  | deliver now =>
    left
    simp only [Exchange.step] at h
    split at h
    · exact h
    · rwa [waiting_onIncoming] at h
  | unasked now frame hreply =>
    simp only [Exchange.step, waiting_onIncoming] at h
    exact .inl h

/-- A value that is sent has waited. -/
theorem waiting_of_writes {setting : Setting} {move : Move} {value : List UInt8}
    (h : value ∈ setting.writes? exchange move) : value ∈ setting.waiting exchange.monitor := by
  cases move with
  | turn now space => exact (setting.waiting_turn (Monitor.turn_takeTurn _ _ _)).2 value h
  | _ => cases h

theorem Sound.step (h : Sound exchange) (move : Move) : Sound (exchange.step move) := by
  have hwrites : ∀ setting : Setting, ∀ value ∈ setting.writes? exchange move,
      setting.Admits value := fun setting value hvalue =>
    (h.waiting setting value (waiting_of_writes hvalue)).1
  refine ⟨fun setting value hvalue => ?_, fun setting => ?_, fun setting => ?_⟩
  · exact (setting.waiting_step exchange move hvalue).elim (h.waiting setting value) id
  · have hcoming := h.coming setting
    have hkept := h.kept setting
    have hstep := setting.step_view h move
    generalize setting.view (exchange.step move) = next at hstep ⊢
    generalize setting.writes? exchange move = written at hstep
    cases hstep with
    | rest => exact hcoming
    | asked =>
      simp only [List.forall_mem_append, List.forall_mem_singleton]
      exact ⟨hcoming, hkept⟩
    | wrote value => exact hcoming
    | told value coming hfirst =>
      rw [hfirst] at hcoming
      exact (List.forall_mem_cons.mp hcoming).2
  · have hkept := h.kept setting
    have hwritten := hwrites setting
    have hstep := setting.step_view h move
    generalize setting.view (exchange.step move) = next at hstep ⊢
    generalize setting.writes? exchange move = written at hstep hwritten
    cases hstep with
    | wrote value => exact hwritten value rfl
    | _ => exact hkept

theorem Sound.after {exchange : Exchange} (h : Sound exchange) (moves : List Move) :
    Sound (exchange.after moves) := by
  induction moves using List.reverseRecOn with
  | nil => exact h
  | append_singleton moves move ih =>
    rw [Exchange.after_concat]
    exact ih.step move

end Steps

end Setting

end CellStation
