import CellStation.Proofs.MonitorRuns
import CellStation.Proofs.QueryFacts

/-!
# Identities are written once

A call on the monitor does one of two things to an identity. It leaves the slot and the fact as
they are (`Monitor.Keeps`), or it is a reply that the fact is read off, and then the slot was
polled until then (`Monitor.Learns`). Neither a modem event nor a written value is a third. So
a settled identity stays settled, with its fact, and is not asked for again
(`Monitor.Settled.after`, `Monitor.Settled.made_ne`). An identity that is a text is settled
exactly when the text is not empty (`Monitor.IsText.enabled_iff`).
-/

namespace CellStation.Monitor

variable {query : Query} {monitor next : Monitor} {now : Millis} {value : List UInt8}

/-! ## One call -/

/-- The slot is polled or settled as before, and the fact is the same. -/
structure Keeps (query : Query) (monitor next : Monitor) : Prop where
  enabled : (next.slot query).enabled = (monitor.slot query).enabled
  fact : query.fact next.status = query.fact monitor.status

/-- The slot was polled, and the fact is read off a value. -/
structure Learns (query : Query) (value : List UInt8) (now : Millis) (monitor next : Monitor) :
    Prop where
  polled : (monitor.slot query).enabled = true
  enabled : (next.slot query).enabled = !(query.apply monitor.status value now).2
  fact : query.fact next.status = query.fact (query.apply monitor.status value now).1

theorem Reads.keeps_or_learns {id : UInt8} {command : Command} {status : AtStatus}
    (h : Reads now id command status value monitor next) (query : Query) :
    Keeps query monitor next ∨ Learns query value now monitor next := by
  cases h with
  | ignored => exact .inl ⟨rfl, rfl⟩
  | taken answered henabled =>
    by_cases hquery : answered = query
    · subst hquery
      exact .inr ⟨henabled, congrArg Slot.enabled (slot_setSlot _ answered _), rfl⟩
    · exact .inl ⟨congrArg Slot.enabled (slot_setSlot_of_ne _ _ hquery),
        Query.fact_apply_of_ne hquery monitor.status value now⟩

theorem keeps_onEvent (hquery : query ∈ Query.identities) (monitor : Monitor)
    (code : ModemStatusCode) : Keeps query monitor (monitor.onEvent code) :=
  ⟨enabled_onEvent monitor code query, Query.fact_identity_event hquery monitor.status _⟩

/-- A turn polls an identity or leaves it alone : the values that it writes are others. -/
theorem Turn.keeps {request : Option Request} (h : Turn now monitor request next)
    (hquery : query ∈ Query.identities) : Keeps query monitor next := by
  obtain ⟨hcarrier, hapn⟩ := Query.identity_ne_setting hquery
  cases h with
  | rest => exact ⟨rfl, rfl⟩
  | writeCarrier => exact ⟨congrArg Slot.enabled (slot_setSlot_of_ne _ _ hcarrier), rfl⟩
  | writeApn => exact ⟨congrArg Slot.enabled (slot_setSlot_of_ne _ _ hapn), rfl⟩
  | poll polled =>
    by_cases hpolled : polled = query
    · subst hpolled
      exact ⟨by rw [slot_setSlot], rfl⟩
    · exact ⟨congrArg Slot.enabled (slot_setSlot_of_ne _ _ hpolled), rfl⟩

/-- What a call does to an identity. -/
theorem keeps_or_learns (hquery : query ∈ Query.identities) (monitor : Monitor) (call : Call) :
    Keeps query monitor (monitor.answer call) ∨
      ∃ value now, Learns query value now monitor (monitor.answer call) := by
  cases call with
  | incoming now frame =>
    cases hin : frame.inbound with
    | reply id command status value =>
      simp only [answer, onIncoming, hin]
      exact ((monitor.reads_onReply now id command status value).keeps_or_learns query).imp_right
        fun hlearns => ⟨value, now, hlearns⟩
    | event code =>
      simp only [answer, onIncoming, hin]
      exact .inl (keeps_onEvent hquery monitor code)
    | _ =>
      simp only [answer, onIncoming, hin]
      exact .inl ⟨rfl, rfl⟩
  | turn now space => exact .inl ((monitor.turn_takeTurn now space).keeps hquery)
  | configureCarrier => exact .inl ⟨rfl, rfl⟩
  | configureApn => exact .inl ⟨rfl, rfl⟩

/-! ## Settled identities -/

/-- The slot of a query is settled, and its fact is known. -/
structure Settled (query : Query) (fact : query.Fact) (monitor : Monitor) : Prop where
  enabled : (monitor.slot query).enabled = false
  fact : query.fact monitor.status = fact

theorem Settled.answer {fact : query.Fact} (h : Settled query fact monitor)
    (hquery : query ∈ Query.identities) (call : Call) :
    Settled query fact (monitor.answer call) := by
  rcases keeps_or_learns hquery monitor call with hkeeps | ⟨value, now, hlearns⟩
  · exact ⟨hkeeps.enabled.trans h.enabled, hkeeps.fact.trans h.fact⟩
  · exact absurd hlearns.polled (Bool.eq_false_iff.mp h.enabled)

theorem Settled.after {fact : query.Fact} (h : Settled query fact monitor)
    (hquery : query ∈ Query.identities) (calls : List Call) :
    Settled query fact (monitor.after calls) :=
  calls.foldlRecOn Monitor.answer h fun _ hsettled call _ => hsettled.answer hquery call

/-- No request asks for a settled identity : polls are of other slots, and writes carry other
commands. -/
theorem Settled.made_ne {fact : query.Fact} (h : Settled query fact monitor)
    (hquery : query ∈ Query.identities) (call : Call) (id : UInt8) (value : List UInt8) :
    monitor.made call ≠ some (.command id query.command value) := by
  cases call with
  | turn now space =>
    have hturn := monitor.turn_takeTurn now space
    obtain ⟨hcarrier, hapn⟩ := Query.identity_ne_setting hquery
    simp only [made]
    generalize (monitor.takeTurn now space).1 = request at hturn ⊢
    generalize (monitor.takeTurn now space).2 = next at hturn
    rintro rfl
    generalize hcommand : query.command = command at hturn
    cases hturn with
    | writeCarrier => exact hcarrier (Query.command_injective hcommand.symm)
    | writeApn => exact hapn (Query.command_injective hcommand.symm)
    | poll polled _ _ hdue =>
      obtain rfl := Query.command_injective hcommand
      have henabled := (isDue_iff.mp (mostOverdue?_eq_some hdue).1).1
      exact Bool.eq_false_iff.mp h.enabled henabled
  | _ => exact (Option.some_ne_none _).symm

/-! ## Texts -/

/-- The query reads a text, and is settled by a text that is not empty. -/
structure IsText (query : Query) (text : Status → String) : Prop where
  initial : text .initial = ""
  settles : ∀ status value now,
    (query.apply status value now).2 = decide (text (query.apply status value now).1 ≠ "")
  of_fact : ∀ {status next}, query.fact next = query.fact status → text next = text status

theorem isText_iccid : IsText .iccid Status.iccid := ⟨rfl, fun _ _ _ => rfl, id⟩

theorem isText_imei : IsText .imei Status.imei := ⟨rfl, fun _ _ _ => rfl, id⟩

theorem isText_imsi : IsText .imsi Status.imsi := ⟨rfl, fun _ _ _ => rfl, id⟩

/-- A text is asked for as long as it is empty. -/
theorem IsText.enabled_iff {text : Status → String} (htext : IsText query text)
    (hquery : query ∈ Query.identities) {config : MonitorConfig} {new : Monitor}
    (h : ofConfig config = .ok new) (calls : List Call) :
    ((new.after calls).slot query).enabled = true ↔ text (new.after calls).status = "" := by
  have hnew : (new.slot query).enabled = true ↔ text new.status = "" := by
    rw [status_of_ofConfig h]
    exact iff_of_true ((ofConfig_eq_ok h).1 query) htext.initial
  refine calls.foldlRecOn (motive := fun monitor =>
    (monitor.slot query).enabled = true ↔ text monitor.status = "") answer hnew ?_
  intro monitor hmonitor call _
  rcases keeps_or_learns hquery monitor call with hkeeps | ⟨value, now, hlearns⟩
  · rw [hkeeps.enabled, htext.of_fact hkeeps.fact, hmonitor]
  · rw [hlearns.enabled, htext.of_fact hlearns.fact, htext.settles]
    simp

/-! ## Runs -/

/-- Identities are written once. In every run of a monitor, an identity whose slot is settled
stays so whatever calls follow, its fact is the same after them, and no call after them asks
for it. The slots of the three texts are polled exactly as long as the texts are empty. -/
theorem identity_final {config : MonitorConfig} {new : Monitor} (h : ofConfig config = .ok new) :
    (∀ query ∈ Query.identities, ∀ before later : List Call,
      ((new.after before).slot query).enabled = false →
        ((new.after (before ++ later)).slot query).enabled = false ∧
        query.fact (new.after (before ++ later)).status = query.fact (new.after before).status ∧
        ∀ call id value,
          (new.after (before ++ later)).made call ≠ some (.command id query.command value)) ∧
    ∀ calls : List Call,
      (((new.after calls).slot .iccid).enabled = true ↔ (new.after calls).status.iccid = "") ∧
      (((new.after calls).slot .imei).enabled = true ↔ (new.after calls).status.imei = "") ∧
      (((new.after calls).slot .imsi).enabled = true ↔ (new.after calls).status.imsi = "") := by
  constructor
  · intro query hquery before later hsettled
    have hbefore : Settled query (query.fact (new.after before).status) (new.after before) :=
      ⟨hsettled, rfl⟩
    have hlater := hbefore.after hquery later
    rw [← after_append] at hlater
    exact ⟨hlater.enabled, hlater.fact, hlater.made_ne hquery⟩
  · intro calls
    exact ⟨isText_iccid.enabled_iff (by decide) h calls,
      isText_imei.enabled_iff (by decide) h calls, isText_imsi.enabled_iff (by decide) h calls⟩

/-- The identity of the SIM card is asked for and read. -/
def identified : List Call :=
  [.incoming 1000 (.ofHeader .atCommandResponse
    (pollId .iccid, Query.iccid.command, AtStatus.ok, ()) (Text.toBytes "8901260"))]

/-- The modem starts anew, another carrier profile is written, and another card answers. -/
def startedAnew : List Call :=
  [.incoming 2000 (.ofHeader .modemStatus (ModemStatusCode.powerUp, ()) []),
   .configureCarrier ⟨2⟩, .turn 2010 100, .turn 2020 100,
   .incoming 2030 (.ofHeader .atCommandResponse
    (pollId .iccid, Query.iccid.command, AtStatus.ok, ()) (Text.toBytes "8949000"))]

/-- The identity of the first card stays, although the modem has started anew. The other
texts are still asked for. -/
theorem identity_final_startedAnew :
    (((fresh 10000).after identified).slot .iccid).enabled = false ∧
      ((fresh 10000).after identified).status.iccid = "8901260" ∧
      ((fresh 10000).after (identified ++ startedAnew)).status.iccid = "8901260" ∧
      (((fresh 10000).after (identified ++ startedAnew)).slot .imei).enabled = true := by
  have hnew : ofConfig {} = .ok (fresh 10000) := by decide +kernel
  have hsettled : (((fresh 10000).after identified).slot .iccid).enabled = false := by
    decide +kernel
  have hread : ((fresh 10000).after identified).status.iccid = "8901260" := by decide +kernel
  obtain ⟨hfinal, htexts⟩ := identity_final hnew
  obtain ⟨-, hfact, -⟩ := hfinal .iccid (by decide) identified startedAnew hsettled
  obtain ⟨-, himei, -⟩ := htexts (identified ++ startedAnew)
  exact ⟨hsettled, hread, hfact.trans hread, himei.mpr (by decide +kernel)⟩

end CellStation.Monitor
