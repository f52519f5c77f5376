import CellStation.Proofs.HandedOutSockets

/-!
# When a socket is asked for

A keeper asks for a socket when it holds none, waits for none, was told last that the modem is
registered, and the retry interval has passed since it asked before. All of this is told by
the calls made on it (`Keeper.creates_turn_after_iff`) : which socket is held (`Keeper.Held`),
whether a request waits (`Keeper.Waiting`), what was told last (`Keeper.SaidRegistered`), and
when the keeper has asked (`Keeper.creates`). So any two requests are more than the interval
apart.
-/

namespace CellStation.Keeper

variable {keeper : Keeper} {call : Call} {now : Millis} {space : Nat}

/-! ## One call -/

/-- The call makes a create request. -/
def Creates (keeper : Keeper) (call : Call) : Prop :=
  ∃ id protocol, keeper.made call = some (.create id protocol)

theorem creates_turn_iff (hsum : now.toNat + keeper.retryInterval.toNat < UInt64.size) :
    keeper.Creates (.turn now space) ↔
      (keeper.phase = .ready ∧ keeper.socketId = none) ∧ keeper.networkUp = true ∧ 7 ≤ space ∧
        keeper.nextRetry < now := by
  have hturn := keeper.turn_takeTurn now space
  constructor
  · rintro ⟨id, protocol, hmade⟩
    rw [made] at hmade
    rw [hmade] at hturn
    generalize (keeper.takeTurn now space).2 = next at hturn
    cases hturn with
    | create hphase hsocket hup hdue hroom => exact ⟨⟨hphase, hsocket⟩, hup, hroom, hdue⟩
  · rintro ⟨⟨hphase, hsocket⟩, hup, hroom, hdue⟩
    have hready : keeper.networkUp = true ∧ Layout.socketCreate.wireSizeOf 0 ≤ space ∧
      keeper.nextRetry < now := ⟨hup, hroom, hdue⟩
    have hlater : now.later keeper.retryInterval = .ok (now + keeper.retryInterval) := if_pos hsum
    have hnext : keeper.nextRequest now space = .ok (some (.create createFrameId keeper.protocol),
        { keeper with nextRetry := now + keeper.retryInterval, phase := .createWait }) := by
      rw [nextRequest, hphase, hsocket]
      refine (if_pos hready).trans ?_
      rw [hlater]
      rfl
    exact ⟨createFrameId, keeper.protocol, congrArg Prod.fst (takeTurn_of_ok hnext)⟩

/-- The reading at which a call makes a create request. -/
def createdAt? (keeper : Keeper) (call : Call) : Option Millis :=
  match call, keeper.made call with
  | .turn now _, some (.create _ _) => some now
  | _, _ => none

/-- The clock readings at which a keeper makes create requests as it is called. -/
def creates (keeper : Keeper) : List Call → List Millis
  | [] => []
  | call :: calls => (keeper.createdAt? call).toList ++ (keeper.answer call).creates calls

theorem creates_concat (keeper : Keeper) (calls : List Call) (call : Call) :
    keeper.creates (calls ++ [call]) =
      keeper.creates calls ++ ((keeper.after calls).createdAt? call).toList := by
  induction calls generalizing keeper with
  | nil => simp [creates, after]
  | cons first calls ih =>
    rw [List.cons_append, creates, ih, creates, List.append_assoc]
    rfl

/-- A call that makes a create request puts the next one off by the retry interval. No other
call changes when the next one may be made. -/
theorem nextRetry_answer (keeper : Keeper) (call : Call) :
    (keeper.answer call).retryInterval = keeper.retryInterval ∧
      ((keeper.createdAt? call = none ∧ (keeper.answer call).nextRetry = keeper.nextRetry) ∨
        ∃ now, keeper.createdAt? call = some now ∧ keeper.nextRetry < now ∧
          (keeper.answer call).nextRetry.toNat = now.toNat + keeper.retryInterval.toNat) := by
  cases call with
  | turn now space =>
    have hturn := keeper.turn_takeTurn now space
    simp only [answer, createdAt?, made]
    generalize (keeper.takeTurn now space).1 = request at hturn ⊢
    generalize (keeper.takeTurn now space).2 = next at hturn ⊢
    cases hturn with
    | create _ _ _ hdue _ nextRetry hsum => exact ⟨rfl, .inr ⟨now, rfl, hdue, hsum⟩⟩
    | _ => exact ⟨rfl, .inl ⟨rfl, rfl⟩⟩
  | incoming frame =>
    simp only [answer, createdAt?, onIncoming]
    grind
  | reconnect =>
    simp only [answer, createdAt?, reconnect]
    grind
  | closeStarted socket =>
    simp only [answer, createdAt?, closeStarted]
    grind

/-- Without a socket, the keeper is at rest or waits for one. -/
def Rests (keeper : Keeper) : Prop :=
  keeper.socketId = none → keeper.phase = .ready ∨ keeper.phase = .createWait

theorem Turn.rests {next : Keeper} {request : Option Request}
    (hturn : Turn now space keeper request next) (h : keeper.Rests) : next.Rests := by
  cases hturn with
  | rest => exact h
  | giveUp => exact fun _ => .inl rfl
  | create => exact fun _ => .inr rfl
  | connect socket _ hsocket | close socket _ hsocket => simp [Rests, hsocket]

theorem Rests.answer (h : keeper.Rests) (call : Call) : (keeper.answer call).Rests := by
  cases call with
  | turn now space => exact (keeper.turn_takeTurn now space).rests h
  | incoming frame =>
    unfold Rests at h ⊢
    cases hin : frame.inbound <;> simp only [Keeper.answer, onIncoming, hin] <;> grind
  | reconnect =>
    unfold Rests at h ⊢
    simp only [Keeper.answer, reconnect]
    grind
  | closeStarted socket =>
    unfold Rests at h ⊢
    simp only [Keeper.answer, closeStarted]
    grind

theorem Rests.after (h : keeper.Rests) (calls : List Call) : (keeper.after calls).Rests :=
  calls.foldlRecOn Keeper.answer h fun _ hrests call _ => hrests.answer call

/-! ## Runs -/

/-- The latest of the calls that tell of the network said that the modem is registered. -/
def SaidRegistered : List Call → Prop :=
  Since (fun _ call => call.registered? = some true) fun _ call => call.registered? = none

theorem networkUp_after_iff (h : keeper.networkUp = false) (calls : List Call) :
    (keeper.after calls).networkUp = true ↔ SaidRegistered calls := by
  induction calls using List.reverseRecOn with
  | nil => simp [after, h, SaidRegistered, not_since_nil]
  | append_singleton calls call ih =>
    rw [after_concat, networkUp_answer, SaidRegistered, since_concat, ← SaidRegistered, ← ih]
    cases hsaid : call.registered? with
    | none => simp
    | some registered => simp

/-- The moment up to which the next create request is put off by those made. -/
def putOff (interval : Millis) (creates : List Millis) : Nat :=
  creates.getLast?.elim 0 fun last => last.toNat + interval.toNat

/-- What a keeper that has made create requests keeps of them. -/
structure Paced (interval : Millis) (creates : List Millis) (keeper : Keeper) : Prop where
  retryInterval : keeper.retryInterval = interval
  nextRetry : keeper.nextRetry.toNat = putOff interval creates
  early : ∀ made ∈ creates, made.toNat + interval.toNat ≤ putOff interval creates
  apart : creates.Pairwise fun first second => first.toNat + interval.toNat < second.toNat

theorem putOff_concat (interval : Millis) (creates : List Millis) (now : Millis) :
    putOff interval (creates ++ [now]) = now.toNat + interval.toNat := by
  rw [putOff, List.getLast?_concat, Option.elim_some]

theorem Paced.answer {interval : Millis} {creates : List Millis} (h : Paced interval creates keeper)
    (call : Call) :
    Paced interval (creates ++ (keeper.createdAt? call).toList) (keeper.answer call) := by
  obtain ⟨hinterval, ⟨hnone, hretry⟩ | ⟨now, hsome, hdue, hretry⟩⟩ := keeper.nextRetry_answer call
  · rw [hnone, Option.toList_none, List.append_nil]
    exact ⟨hinterval.trans h.retryInterval, by rw [hretry, h.nextRetry], h.early, h.apart⟩
  · rw [UInt64.lt_iff_toNat_lt, h.nextRetry] at hdue
    have hbefore : ∀ made ∈ creates, made.toNat + interval.toNat < now.toNat :=
      fun made hmade => Nat.lt_of_le_of_lt (h.early made hmade) hdue
    rw [hsome, Option.toList_some]
    refine ⟨hinterval.trans h.retryInterval, ?_, ?_, ?_⟩
    · rw [hretry, h.retryInterval, putOff_concat]
    · simp only [putOff_concat, List.forall_mem_append, List.forall_mem_singleton,
        Nat.le_refl, and_true]
      intro made hmade
      exact Nat.le_trans (Nat.le_of_lt (hbefore made hmade)) (Nat.le_add_right _ _)
    · refine List.pairwise_append.mpr ⟨h.apart, List.pairwise_singleton _ _, ?_⟩
      simpa only [List.mem_singleton, forall_eq] using hbefore

theorem Paced.after {interval : Millis} (h : Paced interval [] keeper) (calls : List Call) :
    Paced interval (keeper.creates calls) (keeper.after calls) := by
  induction calls using List.reverseRecOn with
  | nil => exact h
  | append_singleton calls call ih =>
    rw [creates_concat, after_concat]
    exact ih.answer call

variable {config : SocketConfig} {new : Keeper} {calls : List Call}

/-- A keeper that holds no socket and waits for none is at rest. -/
theorem ready_iff (h : ofConfig config = .ok new) :
    (new.after calls).phase = .ready ∧ (new.after calls).socketId = none ↔
      (∀ socket, ¬ Held socket new calls) ∧ ¬ Waiting new calls := by
  have hrests : new.Rests := fun _ => .inl (ofConfig_eq_ok h).1
  rw [← phase_eq_createWait_iff h]
  simp only [← socketId_eq_some_iff_held h, ← Option.eq_none_iff_forall_ne_some]
  constructor
  · rintro ⟨hready, hnone⟩
    exact ⟨hnone, by simp [hready]⟩
  · rintro ⟨hnone, hwaiting⟩
    exact ⟨(hrests.after calls hnone).resolve_right hwaiting, hnone⟩

theorem paced_of_ofConfig (h : ofConfig config = .ok new) :
    Paced config.retryInterval.lowMillis [] new := by
  obtain ⟨-, hretry, hinterval⟩ := fields_of_ofConfig h
  exact ⟨hinterval, by rw [hretry]; rfl, by simp, .nil⟩

/-- When a socket is asked for. In every run of a keeper, a turn makes a create request exactly
when no socket is held, no create request waits for its answer, the network was said to be up
when last told of, the modem takes at least seven bytes, and the retry interval has passed since
the latest create request; the sum of the reading and the interval has to have room in a word.
So any two create requests are more than the interval apart. -/
theorem creates_turn_after_iff (h : ofConfig config = .ok new) :
    (∀ now space, now.toNat + config.retryInterval.lowMillis.toNat < UInt64.size →
      ((new.after calls).Creates (.turn now space) ↔
        (∀ socket, ¬ Held socket new calls) ∧ ¬ Waiting new calls ∧ SaidRegistered calls ∧
          7 ≤ space ∧
          putOff config.retryInterval.lowMillis (new.creates calls) < now.toNat)) ∧
    (new.creates calls).Pairwise fun first second =>
      first.toNat + config.retryInterval.lowMillis.toNat < second.toNat := by
  have hpaced := (paced_of_ofConfig h).after calls
  refine ⟨fun now space hsum => ?_, hpaced.apart⟩
  rw [creates_turn_iff (by rwa [hpaced.retryInterval]), ready_iff h,
    networkUp_after_iff (fields_of_ofConfig h).1, UInt64.lt_iff_toNat_lt, hpaced.nextRetry,
    and_assoc]

/-- A create request fails. -/
def failedOnce : List Call :=
  [.incoming (.ofHeader .modemStatus (ModemStatusCode.registered, ()) []), .turn 1000 7,
   .incoming (.ofHeader .socketCreateResponse (createFrameId, 5, ⟨0x31⟩, ()) [])]

/-- A socket is asked for again once more than the interval of 3000 ms has passed. -/
theorem creates_turn_after_iff_failedOnce :
    brokerKeeper.creates failedOnce = [1000] ∧ SaidRegistered failedOnce ∧
      (brokerKeeper.after failedOnce).Creates (.turn 4001 7) ∧
      ¬ (brokerKeeper.after failedOnce).Creates (.turn 4000 7) ∧
      ¬ (brokerKeeper.after failedOnce).Creates (.turn 4001 6) := by
  have hcreates : brokerKeeper.creates failedOnce = [1000] := by decide +kernel
  have hmade : (brokerKeeper.after failedOnce).made (.turn 4001 7) =
      some (.create createFrameId .tcp) := by decide +kernel
  obtain ⟨hiff, -⟩ := @creates_turn_after_iff _ _ failedOnce ofConfig_broker
  rw [hcreates] at hiff
  obtain ⟨-, -, hsaid, -⟩ := (hiff 4001 7 (by decide)).mp ⟨_, _, hmade⟩
  refine ⟨hcreates, hsaid, ⟨_, _, hmade⟩, fun hearly => ?_, fun hcramped => ?_⟩
  · obtain ⟨-, -, -, -, hdue⟩ := (hiff 4000 7 (by decide)).mp hearly
    exact absurd hdue (by decide)
  · obtain ⟨-, -, -, hroom, -⟩ := (hiff 4001 6 (by decide)).mp hcramped
    exact absurd hroom (by decide)

end CellStation.Keeper
