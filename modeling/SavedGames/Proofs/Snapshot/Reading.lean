import Mathlib
import SavedGames.Snapshot.Check
import SavedGames.Proofs.Json.Record

/-!
# What is written is read back

Every part of a snapshot is read from the tree of what it is written as. The depths count the
containers that stand inside each other. A seat number is written in 32 bits where a record of
potentials speaks of it, so there it must be less than half of their range.
-/
namespace SavedGames

open Json Json.Reader

variable {depth : Nat}

theorem Phase.gives (p : Phase) : Phase.read.Gives depth p.json.node p :=
  (gives_int32 p.code).map Phase.mk

section Codes

variable {n : Int32}

theorem PieceKind.ofCode?_eq_some {k : PieceKind} : ofCode? n = some k ↔ k.code = n := by
  constructor
  · intro read
    unfold ofCode? at read
    split at read <;> cases read <;> rfl
  · rintro rfl
    cases k <;> rfl

theorem Card.ofCode?_eq_some {c : Card} : ofCode? n = some c ↔ c.code = n := by
  constructor
  · intro read
    unfold ofCode? at read
    split at read <;> cases read <;> rfl
  · rintro rfl
    cases c <;> rfl

theorem Encoding.ofCode?_eq_some {e : Encoding} : ofCode? n = some e ↔ e.code = n := by
  constructor
  · intro read
    unfold ofCode? at read
    split at read <;> cases read <;> rfl
  · rintro rfl
    cases e <;> rfl

theorem Element.ofCode?_eq_some {tag : Element} : ofCode? n = some tag ↔ tag.code = n := by
  constructor
  · intro read
    unfold ofCode? at read
    split at read <;> cases read <;> rfl
  · rintro rfl
    rcases tag with r | _ | _ | _ | _ | _ | _ <;> try cases r
    all_goals rfl

end Codes

theorem PieceKind.gives (k : PieceKind) : PieceKind.read.Gives depth k.json.node k :=
  (gives_int32 k.code).refine (by rw [ofCode, ofCode?_eq_some.mpr rfl])

theorem Card.gives (c : Card) : Card.read.Gives depth c.json.node c :=
  (gives_int32 c.code).refine (by rw [ofCode, ofCode?_eq_some.mpr rfl])

theorem Encoding.gives (e : Encoding) : Encoding.read.Gives depth e.json.node e :=
  (gives_int32 e.code).refine (by rw [ofCode, ofCode?_eq_some.mpr rfl])

theorem gives_int32s (ns : List Int32) :
    (Json.Reader.list .int32).Gives (depth + 1) (Json.int32s ns).node ns :=
  gives_list fun n _ => gives_int32 n

namespace SeatScope

/-- The number of the one seat leaves the sign bit of 32 bits free. -/
def IsNarrow : SeatScope → Prop
  | every => True
  | only seat => seat.toNat < 2 ^ 31

theorem toInt_code {seat : SeatNumber} (h : seat.toNat < 2 ^ 31) :
    (only seat).code.toInt = seat.toNat := by
  have small : seat.toUInt32.toBitVec.toNat = seat.toNat := by
    rw [UInt32.toNat_toBitVec, UInt64.toNat_toUInt32, Nat.mod_eq_of_lt (by omega)]
  have read := BitVec.toInt_eq_toNat_of_lt (x := seat.toUInt32.toBitVec) (by omega)
  rwa [small] at read

theorem ofCode_code {s : SeatScope} (h : s.IsNarrow) : ofCode s.code = .ok s := by
  cases s with
  | every => rfl
  | only seat =>
    have value := toInt_code h
    have other : (only seat).code ≠ -1 := by
      intro eq
      rw [eq] at value
      exact absurd value (by simp)
    have least : 0 ≤ (only seat).code := by
      rw [Int32.le_iff_toInt_le, value]
      simp
    rw [ofCode, if_neg other, if_pos least, value, Int.toNat_natCast, UInt64.ofNat_toNat]

theorem gives {s : SeatScope} (h : s.IsNarrow) : SeatScope.read.Gives depth s.json.node s :=
  (gives_int32 s.code).refine (ofCode_code h)

end SeatScope

theorem Piece.gives (p : Piece) : Piece.read.Gives (depth + 1) p.json.node p := by
  refine gives_record (p.kind, p.coord, p.owner, p.special, ()) rfl (by decide) ?_
  refine .present p.kind.gives <| .present (gives_int32 _) <| .present (gives_uint64 _) ?_
  exact .optional (fun n _ => gives_int32 n) nofun .nil (by simp)

namespace Elements

theorem pairs_flat (es : Elements) : pairs es.flat = .ok es := by
  induction es with
  | nil => rfl
  | cons e es ih =>
    change pairs (e.1.code :: e.2 :: flat es) = _
    simp [pairs, Element.ofCode?_eq_some.mpr rfl, ih, Except.map]

theorem length_flat (es : Elements) : es.flat.length = 2 * es.length := by
  induction es with
  | nil => rfl
  | cons e es ih =>
    change (flat es).length + 2 = _
    rw [ih, List.length_cons]
    omega

theorem ofFlat_flat (es : Elements) : ofFlat es.flat = .ok es := by
  rw [ofFlat, if_pos (by rw [length_flat]; omega), pairs_flat]

theorem gives (es : Elements) : Elements.read.Gives (depth + 1) es.json.node es := by
  refine (gives_int32s es.flat).refine ?_
  rw [ofFlat_flat]
  rfl

end Elements

theorem Potentials.gives {p : Potentials} (h : p.scope.IsNarrow) :
    Potentials.read.Gives (depth + 3) p.json.node p := by
  refine gives_record (p.scope, p.nodes, p.landAreaCount, p.startingLandArea, p.landAreaNodes,
    p.seaEdges, ()) rfl (by decide) ?_
  refine .present (SeatScope.gives h) <| .present (gives_int32s _) <| .present (gives_int32 _) <|
    .present (gives_int32 _) ?_
  exact .list (fun ns _ => gives_int32s ns) (.list (fun ns _ => gives_int32s ns) .nil rfl) (by simp)

theorem PositionalLayout.gives (l : PositionalLayout) :
    PositionalLayout.read.Gives (depth + 2) l.json.node l := by
  refine gives_record (l.hexes, l.numbers, l.robberHex, ()) rfl (by decide) ?_
  exact .present (gives_int32s _) <| .present (gives_int32s _) <| .present (gives_int32 _) .nil

namespace LayoutPart

theorem isKeepable_int32 (n : Int32) (room : Nat) : (Json.int32 n).node.isKeepable room = true := by
  have least : -2 ^ 31 ≤ n.toInt := n.le_toInt
  have most : n.toInt < 2 ^ 31 := n.toInt_lt
  have value := Numeral.value?_ofInt (n := n.toInt) (by omega) (by omega)
  simp [Json.int32, Json.node, Node.isKeepable, value]

theorem areKeepable_int32s (ns : List Int32) (room : Nat) :
    Node.areKeepable room (ns.map fun n => (Json.int32 n).node) = true := by
  induction ns with
  | nil => rfl
  | cons n ns ih => simp [Node.areKeepable, isKeepable_int32, ih]

theorem isKeepable_json (p : LayoutPart) {room : Nat} (hr : 1 ≤ room) :
    p.json.node.isKeepable room = true := by
  cases p with
  | number n => exact isKeepable_int32 n room
  | numbers ns =>
    have items := areKeepable_int32s ns (room - 1)
    have positive : 0 < room := hr
    simp [json, Json.int32s, Json.node, Node.isKeepable, List.map_map, Function.comp_def, items,
      positive]
  | text s => rfl

theorem gives (p : LayoutPart) : LayoutPart.read.Gives (depth + 1) p.json.node p := by
  intro room hr
  have keepable := p.isKeepable_json (show 1 ≤ room by omega)
  cases p with
  | number n =>
    have read := gives_int32 n room (by omega)
    simp only [json] at keepable ⊢
    simp [LayoutPart.read, keepable, read]
  | numbers ns =>
    have read := gives_int32s ns room hr
    simp only [json] at keepable ⊢
    simp [LayoutPart.read, keepable, read]
    rfl
  | text s => rfl

end LayoutPart

theorem PartedLayout.gives (l : PartedLayout) :
    PartedLayout.read.Gives (depth + 3) l.json.node l := by
  refine gives_record (l.encoding, l.parts, ()) rfl (by decide) ?_
  exact .present l.encoding.gives <| .present (gives_table fun e _ => e.2.gives) .nil

theorem Layout.gives (l : Layout) : Layout.read.Gives (depth + 4) l.json.node l := by
  intro room hr
  obtain ⟨room, rfl⟩ := Nat.exists_eq_add_of_le' (Nat.one_le_of_lt hr)
  cases l with
  | positional l =>
    have content := (l.gives.map positional) room (show depth + 3 ≤ room by omega)
    simp [Layout.read, choice, Json.node, memberNodes_eq, Layout.json, Alternative.named?,
      Alternative.name, Alternative.ofContent, content, bind, Except.bind]
  | parted l =>
    have content := (l.gives.map parted) room (show depth + 3 ≤ room by omega)
    simp [Layout.read, choice, Json.node, memberNodes_eq, Layout.json, Alternative.named?,
      Alternative.name, Alternative.ofContent, content, bind, Except.bind]

theorem BoardRecord.gives {b : BoardRecord} (h : ∀ p ∈ b.potentials, p.scope.IsNarrow) :
    BoardRecord.read.Gives (depth + 5) b.json.node b := by
  refine gives_record (b.layout, b.potentials, ()) rfl (by decide) ?_
  exact .present b.layout.gives <| .present (gives_list fun p hp => Potentials.gives (h p hp)) .nil

theorem SeatRecord.gives (s : SeatRecord) : SeatRecord.read.Gives (depth + 3) s.json.node s := by
  refine gives_record (s.name, s.vacant, s.totalVp, s.isRobot, s.isBuiltInRobot, s.robotClass,
    s.faceId, s.elements, s.newCards, s.oldCards, s.pieces, s.fortress, ()) rfl (by decide) ?_
  have name : Json.Reader.text.optional.Gives (depth + 2) (Json.optional .str s.name).node s.name :=
    gives_optional (fun t _ => gives_text t) nofun
  have cards (cs : List Card) :
      (Json.Reader.list Card.read).Gives (depth + 2) (Json.arr (cs.map Card.json)).node cs :=
    gives_list fun c _ => c.gives
  have pieces : (Json.Reader.list Piece.read).Gives (depth + 2)
      (Json.arr (s.pieces.map Piece.json)).node s.pieces := gives_list fun p _ => p.gives
  have fortress : Piece.read.optional.Gives (depth + 2)
      (Json.optional Piece.json s.fortress).node s.fortress :=
    gives_optional (fun p _ => p.gives) nofun
  refine .present name <| .present (gives_bool _) <| .present (gives_int32 _) <|
    .present (gives_bool _) <| .present (gives_bool _) ?_
  refine .optional (fun t _ => gives_text t) nofun (.present (gives_int32 _) <|
    .present s.elements.gives <| .present (cards _) <| .present (cards _) <| .present pieces <|
    .present fortress .nil) rfl

namespace Constraint

theorem isKeepable_seat (seat : SeatNumber) (room : Nat) :
    (seatNumberJson seat).node.isKeepable room = true := by
  have bound := seat.toNat_lt
  have value := Numeral.value?_ofInt (n := seat.toNat) (by omega) (by omega)
  simp [seatNumberJson, Json.natural, Json.node, Node.isKeepable, value]

theorem gives (c : Constraint) : Constraint.read.Gives (depth + 1) c.json.node c := by
  have seat (n : SeatNumber) : uint64.Gives depth (seatNumberJson n).node n := gives_uint64 n
  cases c with
  | vacant n | human n | robot n | builtInRobot n =>
    exact gives_tagged rfl (n, ()) rfl (by decide) (by decide) (.present (seat n) .nil)
      (by simp [isKeepable_seat])
  | robotClass n name =>
    exact gives_tagged rfl (n, name, ()) rfl (by decide) (by decide)
      (.present (seat n) <| .present (gives_text name) .nil)
      (by simp [isKeepable_seat, Json.node, Node.isKeepable])

end Constraint

namespace Snapshot

/-- Every record of potentials is for all seats or for one with a narrow number. -/
def IsNarrow (m : Snapshot) : Prop := ∀ p ∈ m.board.potentials, p.scope.IsNarrow

theorem gives {m : Snapshot} (h : m.IsNarrow) : Snapshot.read.Gives (depth + 6) m.json.node m := by
  refine gives_record (m.version, m.minVersion, m.name, m.options, m.duration, m.currentPlayer,
    m.phase, m.dice, m.board, m.seats, m.constraints, ()) rfl (by decide) ?_
  have options : Json.Reader.text.optional.Gives (depth + 5) (Json.optional .str m.options).node
      m.options := gives_optional (fun t _ => gives_text t) nofun
  have seats : (Json.Reader.list SeatRecord.read).Gives (depth + 5)
      (Json.arr (m.seats.map SeatRecord.json)).node m.seats := gives_list fun s _ => s.gives
  refine .present (gives_int32 _) <| .present (gives_int32 _) <| .present (gives_text _) <|
    .present options <| .present (gives_int32 _) <| .present (gives_int32 _) <|
    .present m.phase.gives <| .present (gives_int32 _) <| .present (BoardRecord.gives h) <|
    .present seats ?_
  exact .list (fun c _ => c.gives) .nil (by simp)

/-- Both written forms of a snapshot are read back as the snapshot. -/
theorem decode_written {m : Snapshot} (h : m.IsNarrow) (pretty : Bool) :
    decode (m.text pretty) = .ok m := by
  have given : Snapshot.read.Gives (0 + 6) m.json.node m := gives h
  have read := given maxDepth (by decide)
  simp [decode, Json.decode, text, ofText_text, Document.read, read, bind, Except.bind,
    Except.mapError]

theorem ofText_written {m : Snapshot} (h : m.IsNarrow) (pretty : Bool) :
    ofText (m.text pretty) = m.check.map fun _ => m := by
  have decoded := decode_written h pretty
  cases check : m.check <;>
    simp [ofText, decoded, check, bind, Except.bind, pure, Except.pure, Except.map]

end Snapshot

end SavedGames
