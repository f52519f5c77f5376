import CellStation.Keeper

/-!
# The frame a keeper fills

A keeper is handed a frame to fill, which may hold what another component left in it. In its
turn it lays out in the frame the request that its phase calls for. A turn that makes no
request leaves the frame as it is. What the frame holds in the end is the request of
`Keeper.nextRequest`, if it makes one (`Keeper.fill_eq`).
-/

namespace CellStation

namespace Keeper

/-- Fill the frame `out` with the request that the phase calls for, if it fits into `space` bytes
on the wire. A keeper that has no socket to connect or to close goes back to rest. -/
def fill (keeper : Keeper) (now : Millis) (space : Nat) (out : Frame) :
    Except Overflow (FilledTurn Keeper) :=
  match keeper.phase with
  | .ready =>
    if keeper.socketId.isSome ∨ ¬ keeper.networkUp ∨ space < Layout.socketCreate.wireSizeOf 0 then
      .ok ⟨keeper, false, out⟩
    else if now ≤ keeper.nextRetry then .ok ⟨keeper, false, out⟩
    else do
      let nextRetry ← now.later keeper.retryInterval
      return ⟨{ keeper with nextRetry, phase := .createWait }, true,
        out.reuse .socketCreate (createFrameId, keeper.protocol, ()) 0⟩
  | .connect =>
    match keeper.socketId with
    | none => .ok ⟨{ keeper with phase := .ready }, false, out⟩
    | some socket =>
      if space < Layout.socketConnect.wireSizeOf (Text.size keeper.host) then
        .ok ⟨keeper, false, out⟩
      else
        .ok ⟨{ keeper with phase := .connectWait }, true,
          (out.reuse .socketConnect (requestFrameId, socket, keeper.port, AddressType.byText, ())
            (Text.size keeper.host)).withTail .socketConnect (Text.toBytes keeper.host)⟩
  | .close =>
    match keeper.socketId with
    | none => .ok ⟨{ keeper with phase := .ready }, false, out⟩
    | some socket =>
      if space < Layout.socketClose.wireSizeOf 0 then .ok ⟨keeper, false, out⟩
      else
        .ok ⟨{ keeper with phase := .closeWait }, true,
          out.reuse .socketClose (requestFrameId, socket, ()) 0⟩
  | .createWait | .connectWait | .closeWait => .ok ⟨keeper, false, out⟩

/-- The frame holds the request of the turn, whatever it held before. -/
theorem fill_eq (keeper : Keeper) (now : Millis) (space : Nat) (out : Frame) :
    keeper.fill now space out =
      (keeper.nextRequest now space).map (FilledTurn.ofRequest out) := by
  rcases keeper with ⟨host, port, protocol, retryInterval, networkUp, nextRetry, socketId, phase⟩
  cases phase with
  | ready =>
    cases socketId with
    | none =>
      simp only [fill, nextRequest, Frame.reuse_eq]
      split
      · rename_i hshut
        have hrests : ¬ (networkUp = true ∧ Layout.socketCreate.wireSizeOf 0 ≤ space ∧
            nextRetry < now) := by
          rintro ⟨hup, hroom, -⟩
          simp only [Option.isSome_none, Bool.false_eq_true, hup, not_true_eq_false,
            false_or] at hshut
          exact Nat.not_lt_of_le hroom hshut
        rw [if_neg hrests]
        rfl
      · rename_i hopen
        simp only [not_or, Decidable.not_not, Nat.not_lt] at hopen
        split
        · rename_i hearly
          rw [if_neg fun hready => UInt64.not_lt.mpr hearly hready.2.2]
          rfl
        · rename_i hdue
          rw [if_pos ⟨hopen.2.1, hopen.2.2, UInt64.not_le.mp hdue⟩]
          cases now.later retryInterval <;> rfl
    | some socket => rfl
  | connect =>
    cases socketId with
    | none => rfl
    | some socket =>
      simp only [fill, nextRequest, Frame.reuse_eq, ← Text.length_toBytes host,
        Frame.withTail_setup]
      split
      · rename_i hcramped
        rw [if_neg (Nat.not_le_of_lt hcramped)]
        rfl
      · rename_i hroom
        rw [if_pos (Nat.le_of_not_lt hroom)]
        rfl
  | close =>
    cases socketId with
    | none => rfl
    | some socket =>
      simp only [fill, nextRequest, Frame.reuse_eq]
      split
      · rename_i hcramped
        rw [if_neg (Nat.not_le_of_lt hcramped)]
        rfl
      · rename_i hroom
        rw [if_pos (Nat.le_of_not_lt hroom)]
        rfl
  | _ => rfl

end Keeper

end CellStation
