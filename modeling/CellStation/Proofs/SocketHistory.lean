import CellStation.Proofs.AdapterRuns
import CellStation.Proofs.StationRuns

/-!
# Sockets in a history

What happened to a socket is read off the history of the station. A socket is `Opened` when
the modem assigned it in answer to a create request of the keeper, and no frame has said
since that it has gone. It is `Live` when a frame has also said that it is connected.

The keeper remembers opened sockets and hands out live ones, whatever frames come
(`Keeper.Tracked.onIncoming`) and whatever it sends (`Keeper.Tracked.turn`). The adapter
lets go of a socket on every frame that ends it, and sends data over the socket it keeps
(`MqttAdapter.socket_release`, `MqttAdapter.socket_process`).
-/

namespace CellStation

/-! ## Frames -/

namespace Inbound

/-- The frame says that a socket is not connected, or that it has been closed. -/
def Ends (socket : UInt8) : Inbound → Prop
  | .socketState which state => which = socket ∧ state ≠ .connected
  | .closed which status => which = socket ∧ status = .ok
  | _ => False

/-- The frame answers a create request of the keeper. -/
def AnswersCreate : Inbound → Prop
  | .created id _ _ => id = createFrameId
  | _ => False

end Inbound

/-! ## Sockets in a history -/

/-- No frame of a kind was handled in what came `later`. -/
def Without (kind : Inbound → Prop) (later : List Happening) : Prop :=
  ∀ frame, .handled frame ∈ later → ¬ kind frame.inbound

/-- One more happening is not the handling of a frame of a kind. -/
def Spares (kind : Inbound → Prop) (item : Happening) : Prop :=
  ∀ frame, item = .handled frame → ¬ kind frame.inbound

/-- A create request of the keeper was queued, and has not been answered. -/
def Asked (history : List Happening) : Prop :=
  ∃ before protocol waiting,
    history = before ++ .queued (.create createFrameId protocol) :: waiting ∧
      Without Inbound.AnswersCreate waiting

/-- The modem assigned the socket in answer to a create request of the keeper, and no frame
of what came `later` has said that it has gone. -/
structure OpenedBefore (socket : UInt8) (history later : List Happening) : Prop where
  assigned : ∃ before frame, history = before ++ .handled frame :: later ∧
    frame.inbound = .created createFrameId socket .ok ∧ Asked before
  lasting : Without (Inbound.Ends socket) later

/-- The socket was assigned to the keeper and has not gone. -/
def Opened (socket : UInt8) (history : List Happening) : Prop :=
  ∃ later, OpenedBefore socket history later

/-- The socket was assigned to the keeper, was connected then, and has not gone. -/
def Live (socket : UInt8) (history : List Happening) : Prop :=
  ∃ later, OpenedBefore socket history later ∧
    ∃ frame, .handled frame ∈ later ∧ frame.inbound = .socketState socket .connected

variable {history : List Happening} {item : Happening} {socket : UInt8}

theorem spares_queued (kind : Inbound → Prop) (request : Request) :
    Spares kind (.queued request) := fun _ h => by cases h

theorem spares_handled {kind : Inbound → Prop} {frame : Frame} :
    Spares kind (.handled frame) ↔ ¬ kind frame.inbound :=
  ⟨fun h => h frame rfl, fun h _ heq => Happening.handled.inj heq ▸ h⟩

theorem Without.concat {kind : Inbound → Prop} {later : List Happening} (h : Without kind later)
    (hitem : Spares kind item) : Without kind (later ++ [item]) := by
  intro frame hframe
  rcases List.mem_append.mp hframe with hold | hnew
  · exact h frame hold
  · exact hitem frame (List.mem_singleton.mp hnew).symm

theorem Asked.concat (h : Asked history) (hitem : Spares Inbound.AnswersCreate item) :
    Asked (history ++ [item]) := by
  obtain ⟨before, protocol, waiting, rfl, hwaiting⟩ := h
  exact ⟨before, protocol, waiting ++ [item], by simp, hwaiting.concat hitem⟩

theorem OpenedBefore.concat {later : List Happening} (h : OpenedBefore socket history later)
    (hitem : Spares (Inbound.Ends socket) item) :
    OpenedBefore socket (history ++ [item]) (later ++ [item]) where
  assigned := by
    obtain ⟨before, frame, rfl, hframe, hasked⟩ := h.assigned
    exact ⟨before, frame, by simp, hframe, hasked⟩
  lasting := h.lasting.concat hitem

theorem Live.opened (h : Live socket history) : Opened socket history := by
  obtain ⟨later, hopened, -⟩ := h
  exact ⟨later, hopened⟩

theorem Opened.concat (h : Opened socket history) (hitem : Spares (Inbound.Ends socket) item) :
    Opened socket (history ++ [item]) := by
  obtain ⟨later, hopened⟩ := h
  exact ⟨later ++ [item], hopened.concat hitem⟩

theorem Live.concat (h : Live socket history) (hitem : Spares (Inbound.Ends socket) item) :
    Live socket (history ++ [item]) := by
  obtain ⟨later, hopened, frame, hframe, hconnected⟩ := h
  exact ⟨later ++ [item], hopened.concat hitem, frame, List.mem_append_left _ hframe, hconnected⟩

/-- The answer to the create request opens a socket. -/
theorem Asked.opened {frame : Frame} (h : Asked history)
    (hframe : frame.inbound = .created createFrameId socket .ok) :
    Opened socket (history ++ [.handled frame]) :=
  ⟨[], ⟨history, frame, rfl, hframe, h⟩, fun frame hframe => by simp at hframe⟩

/-- An opened socket is live once it is connected. -/
theorem Opened.live {frame : Frame} (h : Opened socket history)
    (hframe : frame.inbound = .socketState socket .connected) :
    Live socket (history ++ [.handled frame]) := by
  obtain ⟨later, hopened⟩ := h
  have hspares : Spares (Inbound.Ends socket) (.handled frame) := by
    rw [spares_handled, hframe]
    exact fun hends => hends.2 rfl
  exact ⟨later ++ [.handled frame], hopened.concat hspares, frame, by simp, hframe⟩

/-! ## The keeper -/

/-- What a keeper in a phase, with a socket, knows of the history. -/
structure Tracks (history : List Happening) (phase : Phase) (socketId : Option UInt8) : Prop where
  asked : phase = .createWait → socketId = none ∧ Asked history
  opened : ∀ socket ∈ socketId, Opened socket history
  live : phase = .ready → ∀ socket ∈ socketId, Live socket history

namespace Tracks

variable {phase : Phase} {socketId : Option UInt8}

theorem ofNone (hnone : socketId = none) : Tracks history .ready socketId where
  asked hphase := by cases hphase
  opened socket hsocket := by
    rw [hnone] at hsocket
    cases hsocket
  live _ socket hsocket := by
    rw [hnone] at hsocket
    cases hsocket

theorem ofAsked (hnone : socketId = none) (h : Asked history) :
    Tracks history .createWait socketId where
  asked _ := ⟨hnone, h⟩
  opened socket hsocket := by
    rw [hnone] at hsocket
    cases hsocket
  live hphase := by cases hphase

theorem ofOpened (h : Opened socket history) : Tracks history .connect (some socket) where
  asked hphase := by cases hphase
  opened := by
    rintro _ ⟨⟩
    exact h
  live hphase := by cases hphase

theorem ofLive (h : Live socket history) : Tracks history .ready (some socket) where
  asked hphase := by cases hphase
  opened := by
    rintro _ ⟨⟩
    exact h.opened
  live := by
    rintro - _ ⟨⟩
    exact h

/-- What does not end the socket, nor answers a create request, changes nothing. -/
theorem concat (h : Tracks history phase socketId)
    (hcreate : phase = .createWait → Spares Inbound.AnswersCreate item)
    (hends : ∀ socket ∈ socketId, Spares (Inbound.Ends socket) item) :
    Tracks (history ++ [item]) phase socketId where
  asked hphase := ⟨(h.asked hphase).1, (h.asked hphase).2.concat (hcreate hphase)⟩
  opened socket hsocket := (h.opened socket hsocket).concat (hends socket hsocket)
  live hphase socket hsocket := (h.live hphase socket hsocket).concat (hends socket hsocket)

/-- In the phases of connecting and closing only the socket matters. -/
theorem leave {next : Phase} (h : Tracks history phase socketId) (hready : next ≠ .ready)
    (hcreate : next ≠ .createWait) : Tracks history next socketId where
  asked hphase := absurd hphase hcreate
  opened := h.opened
  live hphase := absurd hphase hready

end Tracks

namespace Keeper

/-- What a keeper knows of the history. -/
def Tracked (history : List Happening) (keeper : Keeper) : Prop :=
  Tracks history keeper.phase keeper.socketId

/-- What does not end the socket, nor answers a create request, is missed without harm. -/
theorem Tracked.concat {keeper : Keeper} {frame : Frame} (h : keeper.Tracked history)
    (hcreate : keeper.phase = .createWait → ¬ frame.inbound.AnswersCreate)
    (hends : ∀ socket ∈ keeper.socketId, ¬ frame.inbound.Ends socket) :
    keeper.Tracked (history ++ [.handled frame]) :=
  Tracks.concat h (fun hphase => spares_handled.mpr (hcreate hphase))
    fun socket hsocket => spares_handled.mpr (hends socket hsocket)

/-- The keeper reads every frame that concerns its socket, in whatever phase it is. -/
theorem Tracked.onIncoming {keeper : Keeper} (h : keeper.Tracked history) (frame : Frame) :
    (keeper.onIncoming frame).Tracked (history ++ [.handled frame]) := by
  -- Most frames neither answer a create request nor end a socket.
  have hmissed (hcreate : ¬ frame.inbound.AnswersCreate)
      (hends : ∀ socket, ¬ frame.inbound.Ends socket) :
      keeper.Tracked (history ++ [.handled frame]) :=
    h.concat (fun _ => hcreate) fun socket _ => hends socket
  cases hin : frame.inbound with
  | created id socket status =>
    simp only [Keeper.onIncoming, hin]
    split
    · rename_i hanswer
      obtain ⟨hphase, rfl⟩ := hanswer
      obtain ⟨-, hasked⟩ := h.asked hphase
      split
      · rename_i hok
        exact .ofOpened (hasked.opened (hok ▸ hin))
      · exact .ofNone rfl
    · rename_i hother
      refine h.concat ?_ ?_
      · rw [hin]
        exact fun hphase hid => hother ⟨hphase, hid⟩
      · simp [hin, Inbound.Ends]
  | connecting socket status =>
    simp only [hin, Inbound.Ends, Inbound.AnswersCreate] at hmissed
    have hkept := hmissed id fun _ => id
    simp only [Keeper.onIncoming, hin]
    split
    · exact Tracks.leave hkept (by simp) (by simp)
    · exact hkept
  | socketState socket state =>
    simp only [Keeper.onIncoming, hin]
    split
    · rename_i hmine
      by_cases hstate : state = .connected
      · have hlive : Live socket (history ++ [.handled frame]) :=
          (h.opened socket hmine).live (hstate ▸ hin)
        simp only [if_pos hstate, hmine]
        exact .ofLive hlive
      · simp only [if_neg hstate]
        exact .ofNone rfl
    · rename_i hother
      refine h.concat ?_ ?_
      · simp [hin, Inbound.AnswersCreate]
      · rw [hin]
        rintro _ hmine ⟨rfl, -⟩
        exact hother hmine
  | closed socket status =>
    simp only [Keeper.onIncoming, hin]
    split
    · exact .ofNone rfl
    · rename_i hother
      refine h.concat ?_ ?_
      · simp [hin, Inbound.AnswersCreate]
      · rw [hin]
        rintro _ hmine ⟨rfl, hok⟩
        exact hother ⟨hmine, hok⟩
  | event code =>
    simp only [hin, Inbound.Ends, Inbound.AnswersCreate] at hmissed
    simp only [Keeper.onIncoming, hin]
    exact hmissed id fun _ => id
  | reply _ command status value =>
    simp only [hin, Inbound.Ends, Inbound.AnswersCreate] at hmissed
    have hkept := hmissed id fun _ => id
    rcases value with _ | ⟨association, _ | ⟨second, rest⟩⟩
    · simp only [Keeper.onIncoming, hin]
      exact hkept
    · simp only [Keeper.onIncoming, hin]
      split
      · exact hkept
      · exact hkept
    · simp only [Keeper.onIncoming, hin]
      exact hkept
  | delivery | data | other =>
    simp only [hin, Inbound.Ends, Inbound.AnswersCreate] at hmissed
    simp only [Keeper.onIncoming, hin]
    exact hmissed id fun _ => id

/-- Giving up a connected socket, or having it closed, opens no other. -/
theorem Tracked.closeStarted {keeper : Keeper} (h : keeper.Tracked history) (socket : UInt8) :
    (keeper.closeStarted socket).Tracked history := by
  unfold Keeper.closeStarted
  split
  · exact Tracks.leave h (by simp) (by simp)
  · exact h

theorem Tracked.reconnect {keeper : Keeper} (h : keeper.Tracked history) :
    keeper.reconnect.Tracked history := by
  unfold Keeper.reconnect
  split
  · exact Tracks.leave h (by simp) (by simp)
  · exact h

theorem Tracked.queued {keeper : Keeper} (h : keeper.Tracked history) (request : Option Request) :
    keeper.Tracked (history ++ request.toList.map .queued) := by
  cases request with
  | none => simpa using h
  | some made => exact Tracks.concat h (fun _ => spares_queued _ _) fun _ _ => spares_queued _ _

theorem Tracked.turn {keeper next : Keeper} {now : Millis} {space : Nat}
    {request : Option Request} (h : keeper.Tracked history)
    (hturn : Turn now space keeper request next) :
    next.Tracked (history ++ request.toList.map .queued) := by
  cases hturn with
  | rest => exact h.queued none
  | giveUp _ hsocket => exact .ofNone hsocket
  | create _ hsocket =>
    have hasked : Asked (history ++ [.queued (.create createFrameId keeper.protocol)]) :=
      ⟨history, keeper.protocol, [], rfl, fun frame hframe => by simp at hframe⟩
    exact .ofAsked hsocket hasked
  | connect socket => exact Tracks.leave (h.queued (some _)) (by simp) (by simp)
  | close socket => exact Tracks.leave (h.queued (some _)) (by simp) (by simp)

/-- The socket that the keeper hands out is live. -/
theorem Tracked.live {keeper : Keeper} (h : keeper.Tracked history)
    (hsocket : keeper.socket = some socket) : Live socket history := by
  unfold Keeper.socket at hsocket
  split at hsocket
  · rename_i hready
    exact Tracks.live h hready socket hsocket
  · cases hsocket

end Keeper

/-! ## The adapter -/

namespace MqttAdapter

variable {ε : Type}

theorem isGone_of_ends {frame : Inbound} (h : frame.Ends socket) : isGone frame socket = true := by
  cases frame with
  | socketState which state => simpa [isGone, Inbound.Ends] using h
  | closed which status => exact decide_eq_true h.1
  | _ => exact h.elim

/-- A socket that a frame ends is let go of. -/
theorem socket_release {adapter : MqttAdapter ε} {frame : Inbound}
    (h : (adapter.release frame).socket = some socket) :
    adapter.socket = some socket ∧ ¬ frame.Ends socket := by
  cases hbound : adapter.socket with
  | none =>
    rw [release, hbound] at h
    cases hbound.symm.trans h
  | some bound =>
    simp only [release, hbound] at h
    split at h
    · split at h
      · cases h
      · exact ⟨hbound.symm.trans h, id⟩
    · split at h
      · cases h
      · rename_i hkept
        obtain rfl : bound = socket := Option.some.inj (hbound.symm.trans h)
        exact ⟨rfl, fun hends => hkept (isGone_of_ends hends)⟩

variable [MqttEngine ε]

/-- A step changes the binding only by letting go of the socket, and data is sent over the
socket that is kept. -/
theorem socket_process (adapter : MqttAdapter ε) (frame : Frame) (space : Nat) :
    (adapter.process frame space).adapter.socket = (adapter.release frame.inbound).socket ∧
      ∀ id socket bytes, (adapter.process frame space).request = some (.send id socket bytes) →
        (adapter.release frame.inbound).socket = some socket := by
  have hprocessed := adapter.processed_process frame space
  generalize adapter.process frame space = step at hprocessed ⊢
  cases hprocessed with
  | closes => exact ⟨rfl, nofun⟩
  | drops | syncs =>
    refine ⟨rfl, fun id socket bytes h => ?_⟩
    obtain ⟨bound, sent, hsend, hbound, -⟩ := fits_of_request_sync h
    cases hsend
    exact hbound

end MqttAdapter

end CellStation
