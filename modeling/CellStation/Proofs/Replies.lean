import CellStation.Proofs.MonitorSteps

/-!
# Replies to status queries

What a monitor keeps for a query is a slot and a fact (`Query.Cell`). The cells hold the whole
poll table and the whole snapshot (`Monitor.eq_of_cells`), and a reply acts on the cell that its
frame id names and on nothing else (`Monitor.cell_onReply`). What it makes of this cell depends on
the cell and on the reply alone.

So only a reply to the query of a slot that is polled changes anything, and then only what belongs
to this query (`Monitor.only_answers_change`). Replies with different ids act on different cells,
so the order in which they come is of no account, and a reply that comes twice does what it does
once (`Monitor.replies_commute`).
-/

namespace CellStation

/-! ## Frames that reply -/

namespace Frame

/-- The id that a frame replies to, if it is the answer to a command. -/
def replyId? (frame : Frame) : Option UInt8 :=
  (frame.decodeAs? .atCommandResponse).map fun read => read.1.1

variable {frame : Frame} {id : UInt8} {command : Command} {status : AtStatus} {value : List UInt8}

theorem inbound_eq_reply_iff :
    frame.inbound = .reply id command status value ↔
      frame.decodeAs? .atCommandResponse = some ((id, command, status, ()), value) := by
  constructor
  · intro h
    simp only [inbound] at h
    split at h
    · rename_i hread
      obtain ⟨rfl, rfl, rfl, rfl⟩ := Inbound.reply.inj h
      exact hread
    · repeat (split at h; · cases h)
      cases h
  · intro h
    simp only [inbound, h]

theorem exists_reply (h : frame.replyId?.isSome) :
    ∃ id command status value, frame.inbound = .reply id command status value ∧
      frame.replyId? = some id := by
  rw [replyId?, Option.isSome_map] at h
  obtain ⟨⟨⟨id, command, status, _⟩, value⟩, hread⟩ := Option.isSome_iff_exists.mp h
  refine ⟨id, command, status, value, inbound_eq_reply_iff.mpr hread, ?_⟩
  rw [replyId?, hread]
  rfl

/-- A frame that does not read as an event of the modem is not taken for one. -/
theorem inbound_ne_event (h : frame.decodeAs? .modemStatus = none) (code : ModemStatusCode) :
    frame.inbound ≠ .event code := by
  intro hevent
  simp only [inbound, h] at hevent
  repeat (split at hevent; · cases hevent)
  cases hevent

end Frame

/-! ## Cells -/

namespace Query

theorem index_all (index : Fin 15) : ∃ query : Query, query.index = index :=
  ⟨all[index], by revert index; decide⟩

/-- What is kept for a query : its slot in the poll table, and the fact that it reads. -/
structure Cell (query : Query) where
  slot : Slot
  fact : query.Fact

namespace Cell

variable {query : Query}

/-- What a reply makes of the cell of the query that it names. It is taken if the slot is polled,
the command is the one that was sent, and it was carried out. -/
def take (cell : query.Cell) (now : Millis) (command : Command) (status : AtStatus)
    (value : List UInt8) : query.Cell :=
  if cell.slot.enabled ∧ command = query.command ∧ status = .ok then
    { slot := { cell.slot with enabled := !query.settles value }
      fact := (query.told value now).getD cell.fact }
  else cell

/-- A reply that is taken again finds its fact already told, or its slot settled. -/
theorem take_take (cell : query.Cell) (now : Millis) (command : Command) (status : AtStatus)
    (value : List UInt8) :
    (cell.take now command status value).take now command status value =
      cell.take now command status value := by
  by_cases h : cell.slot.enabled ∧ command = query.command ∧ status = .ok
  · have htaken : cell.take now command status value =
      ⟨{ cell.slot with enabled := !query.settles value },
        (query.told value now).getD cell.fact⟩ := if_pos h
    rw [htaken, take]
    split
    · cases query.told value now <;> rfl
    · rfl
  · have hkept : cell.take now command status value = cell := if_neg h
    rw [hkept, hkept]

end Cell

end Query

namespace Monitor

variable {id : UInt8} {command : Command} {status : AtStatus} {value : List UInt8} {query : Query}

/-- What the monitor keeps for a query. -/
def cell (monitor : Monitor) (query : Query) : query.Cell :=
  ⟨monitor.slot query, query.fact monitor.status⟩

/-- The cells, the interval and the values that wait to be written are all of a monitor. -/
theorem eq_of_cells {monitor next : Monitor}
    (hrest : monitor.pollInterval = next.pollInterval ∧
      monitor.pendingCarrier = next.pendingCarrier ∧ monitor.pendingApn = next.pendingApn)
    (hcells : ∀ query, monitor.cell query = next.cell query) : monitor = next := by
  have hslots : monitor.slots = next.slots := by
    apply Vector.ext
    intro index hindex
    obtain ⟨query, hquery⟩ := Query.index_all ⟨index, hindex⟩
    obtain rfl : (query.index : Nat) = index := congrArg Fin.val hquery
    exact congrArg Query.Cell.slot (hcells query)
  have hstatus : monitor.status = next.status :=
    Query.eq_of_facts fun query => congrArg Query.Cell.fact (hcells query)
  obtain ⟨hinterval, hcarrier, hapn⟩ := hrest
  cases monitor
  cases next
  exact (Monitor.mk.injEq ..).mpr ⟨hinterval, hslots, hstatus, hcarrier, hapn⟩

/-- A reply acts on the cell that its frame id names. -/
theorem cell_onReply (monitor : Monitor) (now : Millis) (id : UInt8) (command : Command)
    (status : AtStatus) (value : List UInt8) (query : Query) :
    (monitor.onReply now id command status value).cell query =
      if id = pollId query then (monitor.cell query).take now command status value
      else monitor.cell query := by
  have hreads := monitor.reads_onReply now id command status value
  generalize monitor.onReply now id command status value = next at hreads ⊢
  cases hreads with
  | ignored hignored =>
    split
    · rename_i hid
      exact (if_neg fun h => hignored query h.1 hid h.2.1 h.2.2).symm
    · rfl
  | taken answered henabled hid hcommand hstatus =>
    by_cases hquery : answered = query
    · subst hquery
      have htaken : (monitor.cell answered).take now command status value = _ :=
        if_pos ⟨henabled, hcommand, hstatus⟩
      rw [if_pos hid, htaken, cell, slot_setSlot, Query.settled_apply]
      exact congrArg (Query.Cell.mk _) (answered.fact_apply monitor.status value now)
    · rw [if_neg fun hother => hquery (pollId_injective (hid.symm.trans hother)), cell,
        slot_setSlot_of_ne _ _ hquery]
      exact congrArg (Query.Cell.mk _) (Query.fact_apply_of_ne hquery monitor.status value now)

/-- A reply leaves the interval and the values that wait to be written as they are. -/
theorem onReply_fields (monitor : Monitor) (now : Millis) (id : UInt8) (command : Command)
    (status : AtStatus) (value : List UInt8) :
    (monitor.onReply now id command status value).pollInterval = monitor.pollInterval ∧
      (monitor.onReply now id command status value).pendingCarrier = monitor.pendingCarrier ∧
      (monitor.onReply now id command status value).pendingApn = monitor.pendingApn := by
  have hreads := monitor.reads_onReply now id command status value
  generalize monitor.onReply now id command status value = next at hreads ⊢
  cases hreads <;> exact ⟨rfl, rfl, rfl⟩

theorem onIncoming_of_reply {frame : Frame} (h : frame.inbound = .reply id command status value)
    (monitor : Monitor) (now : Millis) :
    monitor.onIncoming now frame = monitor.onReply now id command status value := by
  rw [onIncoming, h]

/-! ## What a reply changes -/

/-- A frame answers the query of a slot that is polled : it has the id of the slot's polls and the
command of the query, and the command was carried out. -/
structure Answers (monitor : Monitor) (query : Query) (value : List UInt8) (frame : Frame) :
    Prop where
  enabled : (monitor.slot query).enabled = true
  reads : frame.decodeAs? .atCommandResponse =
    some ((pollId query, query.command, AtStatus.ok, ()), value)

/-- A monitor has taken a value for a query, and has changed nothing else. -/
structure Takes (query : Query) (value : List UInt8) (now : Millis) (monitor next : Monitor) :
    Prop where
  /-- The fact is the one that the value tells, if it tells one. -/
  fact : query.fact next.status = (query.told value now).getD (query.fact monitor.status)
  /-- The slot is polled on unless the value settles the fact. -/
  enabled : (next.slot query).enabled = !query.settles value
  /-- No slot that was settled is polled again. -/
  settled : ∀ other, (next.slot other).enabled = true → (monitor.slot other).enabled = true
  /-- No slot is due at another time. -/
  nextDue : ∀ other, (next.slot other).nextDue = (monitor.slot other).nextDue
  others : ∀ other, other ≠ query →
    other.fact next.status = other.fact monitor.status ∧ next.slot other = monitor.slot other
  pending : next.pendingCarrier = monitor.pendingCarrier ∧ next.pendingApn = monitor.pendingApn
  pollInterval : next.pollInterval = monitor.pollInterval

theorem Answers.inbound {monitor : Monitor} {frame : Frame}
    (h : monitor.Answers query value frame) :
    frame.inbound = .reply (pollId query) query.command .ok value :=
  Frame.inbound_eq_reply_iff.mpr h.reads

theorem Answers.cell {monitor : Monitor} {frame : Frame} (h : monitor.Answers query value frame)
    (now : Millis) :
    (monitor.onIncoming now frame).cell query =
      ⟨{ monitor.slot query with enabled := !query.settles value },
        (query.told value now).getD (query.fact monitor.status)⟩ := by
  rw [onIncoming_of_reply h.inbound, cell_onReply, if_pos rfl]
  exact if_pos ⟨h.enabled, rfl, rfl⟩

theorem Answers.cell_of_ne {monitor : Monitor} {frame : Frame} {other : Query}
    (h : monitor.Answers query value frame) (now : Millis) (hne : other ≠ query) :
    (monitor.onIncoming now frame).cell other = monitor.cell other := by
  have hid : pollId query ≠ pollId other := fun hid => hne (pollId_injective hid.symm)
  rw [onIncoming_of_reply h.inbound, cell_onReply, if_neg hid]

theorem Answers.takes {monitor : Monitor} {frame : Frame} (h : monitor.Answers query value frame)
    (now : Millis) : Takes query value now monitor (monitor.onIncoming now frame) := by
  have hcell := h.cell now
  have hslot : (monitor.onIncoming now frame).slot query = _ := congrArg Query.Cell.slot hcell
  have hothers : ∀ other, other ≠ query →
      (monitor.onIncoming now frame).slot other = monitor.slot other := fun other hne =>
    congrArg Query.Cell.slot (h.cell_of_ne now hne)
  obtain ⟨hinterval, hpending⟩ := monitor.onReply_fields now (pollId query) query.command .ok value
  rw [← onIncoming_of_reply h.inbound] at hinterval hpending
  refine ⟨congrArg Query.Cell.fact hcell, by rw [hslot], fun other => ?_, fun other => ?_,
    fun other hne => ⟨congrArg Query.Cell.fact (h.cell_of_ne now hne), hothers other hne⟩,
    hpending, hinterval⟩
  · by_cases hother : other = query
    · subst hother
      exact fun _ => h.enabled
    · rw [hothers other hother]
      exact id
  · by_cases hother : other = query
    · subst hother
      rw [hslot]
    · rw [hothers other hother]

/-- A value that tells nothing leaves everything as it is. -/
theorem Answers.ignored {monitor : Monitor} {frame : Frame} (h : monitor.Answers query value frame)
    (now : Millis) (htold : query.told value now = none) (hsettles : query.settles value = false) :
    monitor.onIncoming now frame = monitor := by
  have htakes := h.takes now
  refine eq_of_cells ⟨htakes.pollInterval, htakes.pending⟩ fun other => ?_
  by_cases hother : other = query
  · subst hother
    rw [h.cell, htold, hsettles, Bool.not_false, ← h.enabled]
    rfl
  · exact h.cell_of_ne now hother

/-- A frame that is no answer to a slot that is polled, and no event, is passed over. -/
theorem onIncoming_of_no_answer {monitor : Monitor} {frame : Frame}
    (hevent : frame.decodeAs? .modemStatus = none)
    (h : ∀ query value, ¬ monitor.Answers query value frame) (now : Millis) :
    monitor.onIncoming now frame = monitor := by
  cases hin : frame.inbound with
  | reply id command status value =>
    rw [onIncoming_of_reply hin]
    have hreads := monitor.reads_onReply now id command status value
    generalize monitor.onReply now id command status value = next at hreads ⊢
    cases hreads with
    | ignored => rfl
    | taken query henabled hid hcommand hstatus =>
      subst hid hcommand hstatus
      exact absurd ⟨henabled, Frame.inbound_eq_reply_iff.mp hin⟩ (h query value)
  | event code => exact absurd hin (Frame.inbound_ne_event hevent code)
  | _ => simp only [onIncoming, hin]

/-- Only an answer changes a monitor, and it changes only what it is about. A frame that is not
an event of the modem leaves the whole monitor as it is, unless it answers the query of a slot
that is polled. Then only the fact of this query changes, to what the value tells, and its slot
may be settled. A value of another size than the query asks for changes nothing at all. -/
theorem only_answers_change (monitor : Monitor) (now : Millis) {frame : Frame}
    (hevent : frame.decodeAs? .modemStatus = none) :
    ((∀ query value, ¬ monitor.Answers query value frame) →
      monitor.onIncoming now frame = monitor) ∧
    ∀ query value, monitor.Answers query value frame →
      Takes query value now monitor (monitor.onIncoming now frame) ∧
      ∀ size, query.replySize? = some size → value.length ≠ size →
        monitor.onIncoming now frame = monitor := by
  refine ⟨fun h => onIncoming_of_no_answer hevent h now, fun query value h => ⟨h.takes now, ?_⟩⟩
  intro size hsize hne
  obtain ⟨htold, hsettles⟩ := Query.told_of_ne hsize hne now
  exact h.ignored now htold hsettles

/-- A reply with the id of a slot, the command of a query, and a value. -/
def replyTo (slot query : Query) (value : List UInt8) : Frame :=
  .ofHeader .atCommandResponse (pollId slot, query.command, AtStatus.ok, ()) value

/-- The reply with the version of the firmware. -/
def versionReply : Frame := replyTo .firmwareVersion .firmwareVersion [0x00, 0x01, 0x14, 0x0B]

/-- A reply of four bytes is taken as the version of the firmware. One of three bytes changes
nothing, and neither does one with the id of another slot. -/
theorem only_answers_change_firmware :
    versionReply.decodeAs? .modemStatus = none ∧
      Takes .firmwareVersion [0x00, 0x01, 0x14, 0x0B] 500 (fresh 10000)
        ((fresh 10000).onIncoming 500 versionReply) ∧
      ((fresh 10000).onIncoming 500 versionReply).status.firmwareVersion = 0x1140B ∧
      (fresh 10000).onIncoming 500 (replyTo .firmwareVersion .firmwareVersion [1, 2, 3]) =
        fresh 10000 ∧
      (fresh 10000).onIncoming 500 (replyTo .hardwareVersion .firmwareVersion [0, 0, 0, 1]) =
        fresh 10000 := by
  have hread : ∀ slot query value, (replyTo slot query value).decodeAs? .atCommandResponse =
    some ((pollId slot, query.command, AtStatus.ok, ()), value) := fun _ _ _ =>
      Frame.decodeAs?_ofHeader _ _
  have hevent : ∀ slot query value, (replyTo slot query value).decodeAs? .modemStatus = none :=
    fun slot query value => Frame.decodeAs?_of_ne (hread slot query value) (by decide)
  have hanswers : ∀ value, (fresh 10000).Answers .firmwareVersion value
      (replyTo .firmwareVersion .firmwareVersion value) := fun value =>
    ⟨enabled_fresh 10000 .firmwareVersion, hread _ _ value⟩
  have hwhole := only_answers_change (fresh 10000) 500
    (hevent .firmwareVersion .firmwareVersion [0x00, 0x01, 0x14, 0x0B])
  have hshort := only_answers_change (fresh 10000) 500
    (hevent .firmwareVersion .firmwareVersion [1, 2, 3])
  have hastray := only_answers_change (fresh 10000) 500
    (hevent .hardwareVersion .firmwareVersion [0, 0, 0, 1])
  refine ⟨hevent _ _ _, (hwhole.2 _ _ (hanswers _)).1, by decide +kernel,
    (hshort.2 _ _ (hanswers _)).2 4 rfl (by decide), hastray.1 ?_⟩
  rintro query value ⟨-, hreads⟩
  obtain ⟨hheader, -⟩ := Prod.mk.inj (Option.some.inj ((hread _ _ _).symm.trans hreads))
  obtain ⟨hid, hrest⟩ := Prod.mk.inj hheader
  obtain rfl := pollId_injective hid
  exact absurd (Prod.mk.inj hrest).1 (by decide)

/-! ## Replies in any order -/

/-- Replies with different ids act on different cells. -/
theorem onIncoming_comm {first second : Frame} (hfirst : first.replyId?.isSome)
    (hsecond : second.replyId?.isSome) (hne : first.replyId? ≠ second.replyId?)
    (monitor : Monitor) (now : Millis) :
    (monitor.onIncoming now first).onIncoming now second =
      (monitor.onIncoming now second).onIncoming now first := by
  obtain ⟨id, command, status, value, hin, hid⟩ := Frame.exists_reply hfirst
  obtain ⟨other, command', status', value', hin', hother⟩ := Frame.exists_reply hsecond
  simp only [onIncoming_of_reply hin, onIncoming_of_reply hin']
  refine eq_of_cells (by simp only [onReply_fields, and_self]) fun query => ?_
  simp only [cell_onReply]
  split
  · rename_i hsecond
    have hfirst : id ≠ pollId query := fun h => hne (by rw [hid, hother, h, hsecond])
    rw [if_neg hfirst, if_neg hfirst]
  · rfl

theorem onIncoming_idem {frame : Frame} (h : frame.replyId?.isSome) (monitor : Monitor)
    (now : Millis) :
    (monitor.onIncoming now frame).onIncoming now frame = monitor.onIncoming now frame := by
  obtain ⟨id, command, status, value, hin, -⟩ := Frame.exists_reply h
  simp only [onIncoming_of_reply hin]
  refine eq_of_cells (by simp only [onReply_fields, and_self]) fun query => ?_
  simp only [cell_onReply]
  split
  · exact Query.Cell.take_take _ now command status value
  · rfl

/-- Handle frames, one after the other, at one clock reading. -/
def onAll (monitor : Monitor) (now : Millis) (frames : List Frame) : Monitor :=
  frames.foldl (fun monitor frame => monitor.onIncoming now frame) monitor

/-- Replies commute, and a reply is handled once and for all. Two replies with different ids come
to the same in either order, so any replies of which no two have the same id come to the same in
every order. A reply that is handled twice comes to what it comes to once. -/
theorem replies_commute (monitor : Monitor) (now : Millis) :
    (∀ first second : Frame, first.replyId?.isSome → second.replyId?.isSome →
      first.replyId? ≠ second.replyId? →
      (monitor.onIncoming now first).onIncoming now second =
        (monitor.onIncoming now second).onIncoming now first) ∧
    (∀ frames other : List Frame, (∀ frame ∈ frames, frame.replyId?.isSome) →
      (frames.map Frame.replyId?).Nodup → frames.Perm other →
      monitor.onAll now frames = monitor.onAll now other) ∧
    ∀ frame : Frame, frame.replyId?.isSome →
      (monitor.onIncoming now frame).onIncoming now frame = monitor.onIncoming now frame := by
  refine ⟨fun first second hfirst hsecond hne => onIncoming_comm hfirst hsecond hne monitor now,
    fun frames other hreplies hnodup hperm => ?_, fun frame h => onIncoming_idem h monitor now⟩
  refine hperm.foldl_eq' (fun first hfirst second hsecond reached => ?_) monitor
  by_cases hsame : first = second
  · rw [hsame]
  · refine onIncoming_comm (hreplies first hfirst) (hreplies second hsecond) (fun hid => hsame ?_)
      reached now
    exact List.inj_on_of_nodup_map hnodup hfirst hsecond hid

/-- The replies to three polls. The time is kept with the reading at which it came. -/
def answered : List Frame :=
  [replyTo .imei .imei (Text.toBytes "352656100123456"),
    replyTo .networkTime .networkTime [1, 2, 3, 4],
    replyTo .carrierProfile .carrierProfile [2]]

/-- Three replies come to the same from the last to the first, and with the last of them handled
twice. -/
theorem replies_commute_answered :
    (∀ frame ∈ answered, frame.replyId?.isSome) ∧ (answered.map Frame.replyId?).Nodup ∧
      ((fresh 10000).onAll 500 answered).status.imei = "352656100123456" ∧
      ((fresh 10000).onAll 500 answered).status.networkTimeAt = 500 ∧
      (fresh 10000).onAll 500 answered = (fresh 10000).onAll 500 answered.reverse ∧
      (fresh 10000).onAll 500 (answered ++ [replyTo .carrierProfile .carrierProfile [2]]) =
        (fresh 10000).onAll 500 answered := by
  have hreplies : ∀ frame ∈ answered, frame.replyId?.isSome := by decide +kernel
  have hnodup : (answered.map Frame.replyId?).Nodup := by decide +kernel
  obtain ⟨-, horder, -⟩ := replies_commute (fresh 10000) 500
  obtain ⟨-, -, htwice⟩ := replies_commute ((fresh 10000).onAll 500 (answered.take 2)) 500
  exact ⟨hreplies, hnodup, by decide +kernel, by decide +kernel,
    horder answered answered.reverse hreplies hnodup answered.reverse_perm.symm,
    htwice (replyTo .carrierProfile .carrierProfile [2]) (by decide +kernel)⟩

end Monitor

end CellStation
