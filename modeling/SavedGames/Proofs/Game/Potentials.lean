import Mathlib
import SavedGames.Proofs.Game.Restore
import SavedGames.Proofs.Snapshot.Reading

/-!
# The records of potentials that a game is saved with

Either one record holds for all seats, or each seat has its own, under the number that its player
bears. Whichever it is, restoring the records to numbered seats gives each the potentials that it
had.
-/
namespace SavedGames.Game

variable {g : Game} {i : Nat} {p : Player}

/-- All players may build in the same places. -/
def Agree (g : Game) : Prop :=
  ∀ p ∈ g.players, ∀ q ∈ g.players, p.potentialNodes = q.potentialNodes ∧ p.seaEdges = q.seaEdges

theorem samePotentials_iff {p q : Player} :
    samePotentials p q = true ↔ p.potentialNodes = q.potentialNodes ∧ p.seaEdges = q.seaEdges := by
  simp [samePotentials]

/-- It is enough to compare every player with the first one. -/
theorem agree_iff {first : Player} {rest : List Player} (all : g.players = first :: rest) :
    g.Agree ↔ ∀ p ∈ g.players, samePotentials p first = true := by
  have mem : first ∈ g.players := by simp [all]
  simp only [samePotentials_iff]
  constructor
  · exact fun agree p hp => agree p hp first mem
  · intro same p hp q hq
    obtain ⟨nodes, edges⟩ := same p hp
    obtain ⟨nodes', edges'⟩ := same q hq
    exact ⟨nodes.trans nodes'.symm, edges.trans edges'.symm⟩

theorem potentials_of_agree (filled : g.players ≠ []) (agree : g.Agree) :
    ∃ p : Player, (∀ q ∈ g.players, samePotentials q p = true) ∧
      g.potentials .every = [g.potentialsOf .every p] := by
  obtain ⟨first, rest, all⟩ := List.exists_cons_of_ne_nil filled
  have same := (agree_iff all).mp agree
  refine ⟨first, same, ?_⟩
  rw [all] at same
  simp only [potentials, all, if_pos (List.all_eq_true.mpr same)]

theorem potentials_of_differ (differ : ¬ g.Agree) :
    g.potentials .every =
      g.players.map fun p => g.potentialsOf (.only (UInt64.ofNat p.number)) p := by
  cases all : g.players with
  | nil => exact absurd (by simp [Agree, all]) differ
  | cons first rest =>
    have unlike : ¬ ((first :: rest).all fun p => samePotentials p first) = true := by
      rw [List.all_eq_true, ← all]
      exact (agree_iff all).not.mp differ
    simp only [potentials, all, if_neg unlike]

theorem potentials_every (g : Game) :
    (∃ p : Player, (∀ q ∈ g.players, samePotentials q p = true) ∧
        g.potentials .every = [g.potentialsOf .every p]) ∨
      g.potentials .every =
        g.players.map fun p => g.potentialsOf (.only (UInt64.ofNat p.number)) p := by
  by_cases filled : g.players = []
  · exact .inr (by simp [potentials, filled])
  · by_cases agree : g.Agree
    · exact .inl (potentials_of_agree filled agree)
    · exact .inr (potentials_of_differ agree)

theorem of_mem_potentials {r : Potentials} (numbered : g.IsNumbered)
    (hr : r ∈ g.potentials .every) :
    (∃ p : Player, (∀ q ∈ g.players, samePotentials q p = true) ∧ r = g.potentialsOf .every p) ∨
      ∃ (i : Nat) (p : Player), g.players[i]? = some p ∧
        r = g.potentialsOf (.only (UInt64.ofNat i)) p := by
  rcases g.potentials_every with ⟨p, same, records⟩ | records
  · rw [records] at hr
    exact .inl ⟨p, same, List.mem_singleton.mp hr⟩
  · rw [records] at hr
    obtain ⟨p, hp, rfl⟩ := List.mem_map.mp hr
    obtain ⟨i, there⟩ := List.mem_iff_getElem?.mp hp
    exact .inr ⟨i, p, there, by rw [numbered i p there]⟩

/-- The number of a seat fits its record. -/
theorem toNat_seat (fits : g.players.length ≤ 2 ^ 64) (there : g.players[i]? = some p) :
    (UInt64.ofNat i).toNat = i := by
  obtain ⟨inside, -⟩ := List.getElem?_eq_some_iff.mp there
  exact UInt64.toNat_ofNat_of_lt' (by simp only [UInt64.size]; omega)

/-- A seat is asked for by its number. -/
theorem potentials_only (fits : g.players.length ≤ 2 ^ 64) (there : g.players[i]? = some p) :
    g.potentials (.only (UInt64.ofNat i)) = [g.potentialsOf (.only (UInt64.ofNat i)) p] := by
  have number := toNat_seat fits there
  simp only [potentials, player?, number, there, Option.map_some, Option.toList_some]

section Numbered

variable (numbered : g.IsNumbered)

include numbered

theorem potentials_covers (fits : g.players.length ≤ 2 ^ 64) (there : g.players[i]? = some p) :
    ∃ r ∈ g.potentials .every, r.scope.covers i = true := by
  rcases g.potentials_every with ⟨q, -, records⟩ | records
  · exact ⟨g.potentialsOf .every q, by simp [records], rfl⟩
  · refine ⟨g.potentialsOf (.only (UInt64.ofNat i)) p, ?_, ?_⟩
    · rw [records]
      exact List.mem_map.mpr ⟨p, List.mem_of_getElem? there, by rw [numbered i p there]⟩
    · simp [potentialsOf, SeatScope.covers, toNat_seat fits there]

theorem potentials_agree (fits : g.players.length ≤ 2 ^ 64) (there : g.players[i]? = some p) :
    ∀ r ∈ g.potentials .every, r.scope.covers i = true →
      r.nodes = p.potentialNodes ∧ r.seaEdges = p.seaEdges := by
  intro r hr covers
  rcases of_mem_potentials numbered hr with ⟨q, same, rfl⟩ | ⟨j, q, seat, rfl⟩
  · have equal := same p (List.mem_of_getElem? there)
    obtain ⟨nodes, edges⟩ := samePotentials_iff.mp equal
    exact ⟨nodes.symm, edges.symm⟩
  · have here : j = i := by
      simpa [potentialsOf, SeatScope.covers, toNat_seat fits seat] using covers
    obtain rfl : q = p := by
      rw [here, there] at seat
      exact (Option.some.inj seat).symm
    exact ⟨rfl, rfl⟩

/-- Restored to a seat, the records are the potentials that the seat had. -/
theorem withPotentialsAt_potentials (fits : g.players.length ≤ 2 ^ 64)
    (there : g.players[i]? = some p) (q : Player) :
    q.withPotentialsAt i (g.potentials .every) =
      { q with potentialNodes := p.potentialNodes, seaEdges := p.seaEdges } :=
  Player.withPotentialsAt_agree (potentials_covers numbered fits there)
    (potentials_agree numbered fits there)

theorem potentials_inRange : ∀ r ∈ g.potentials .every, r.InRange g.players.length := by
  intro r hr seat scope
  rcases of_mem_potentials numbered hr with ⟨p, -, rfl⟩ | ⟨j, t, there, rfl⟩
  · cases scope
  · obtain rfl := SeatScope.only.inj scope
    have inside := (List.getElem?_eq_some_iff.mp there).1
    have low : (UInt64.ofNat j).toNat ≤ j := by
      rw [UInt64.toNat_ofNat']
      exact Nat.mod_le j _
    omega

theorem potentials_isNarrow (small : g.players.length < 2 ^ 31) :
    ∀ r ∈ g.potentials .every, r.scope.IsNarrow := by
  intro r hr
  rcases of_mem_potentials numbered hr with ⟨p, -, rfl⟩ | ⟨j, t, there, rfl⟩
  · trivial
  · have inside := (List.getElem?_eq_some_iff.mp there).1
    have fits : g.players.length ≤ 2 ^ 64 := by omega
    simp only [potentialsOf, SeatScope.IsNarrow, toNat_seat fits there]
    omega

end Numbered

theorem withLandAreasOf_potentials (b : Board) (filled : g.players ≠ []) :
    b.withLandAreasOf (g.potentials .every) =
      { b with
        landAreaCount := g.board.landAreaCount
        startingLandArea := g.board.startingLandArea
        landAreaNodes := g.board.landAreaNodes } := by
  rcases g.potentials_every with ⟨p, -, records⟩ | records
  · rw [records]
    rfl
  · obtain ⟨first, rest, all⟩ := List.exists_cons_of_ne_nil filled
    rw [records, all]
    rfl

end SavedGames.Game
