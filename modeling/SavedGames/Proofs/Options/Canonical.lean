import Mathlib
import SavedGames.Proofs.Options

/-!
# One packed text for each option set

However options were set, their packed text is read back as them, names the keys in ascending order,
and belongs to no other option set. So it does not show in which order the keys were set.
-/
namespace SavedGames.Options

/-- Sets one option after the other. -/
def setAll (o : Options) (es : List (String × Setting)) : Options := es.foldl set o

/-- What stands before the equals sign. -/
def keyOfPiece? (piece : List Char) : Option String :=
  (splitPair? piece).map fun pair => String.ofList pair.1

/-- The keys that a packed text names, from left to right. -/
def packedKeys (packed : String) : List String := (pieces packed.toList).filterMap keyOfPiece?

theorem settings_set (o : Options) (e : String × Setting) :
    (o.set e).settings =
      if isKey e.1 ∧ e.2.isPackable then o.settings.insert e.1 e.2 else o.settings := by
  by_cases fits : isKey e.1 ∧ e.2.isPackable
  · rw [set, insert_of_packable o fits.1 fits.2, if_pos fits]
    rfl
  · obtain ⟨fault, refused⟩ := insert_of_not_packable o fits
    rw [set, refused, if_neg fits]

theorem insert_eq_ok {o next : Options} {key : String} {s : Setting} :
    (insert key s).on o = (.ok (), next) ↔
      isKey key = true ∧ s.isPackable = true ∧ next = o.set (key, s) := by
  by_cases fits : isKey key = true ∧ s.isPackable = true
  · have inserted := insert_of_packable (e := (key, s)) o fits.1 fits.2
    have same : o.set (key, s) = o.put key s fits.1 fits.2 := by rw [set, inserted]
    rw [same, inserted]
    simp [fits, eq_comm]
  · obtain ⟨fault, refused⟩ := insert_of_not_packable (e := (key, s)) o fits
    rw [refused, ← and_assoc]
    simp [fits]

theorem get?_set {o : Options} {e : String × Setting}
    (fits : isKey e.1 = true ∧ e.2.isPackable = true) (key : String) :
    (o.set e).get? key = if e.1 = key then some e.2 else o.get? key := by
  rw [get?, settings_set, if_pos fits, TextMap.get?_insert]
  rfl

theorem ext_settings {o p : Options} (h : o.settings = p.settings) : o = p :=
  ext_entries (congrArg TextMap.entries h)

theorem set_comm (o : Options) {e d : String × Setting} (h : e.1 ≠ d.1) :
    (o.set e).set d = (o.set d).set e := by
  apply ext_settings
  simp only [settings_set]
  by_cases first : isKey e.1 ∧ e.2.isPackable
  · by_cases second : isKey d.1 ∧ d.2.isPackable
    · simp only [if_pos first, if_pos second, TextMap.insert_comm o.settings e.2 d.2 h]
    · simp only [if_pos first, if_neg second]
  · simp only [if_neg first]

/-- Where no key is set twice, every order leads to the same options. -/
theorem setAll_perm (o : Options) {es ds : List (String × Setting)} (perm : es.Perm ds)
    (distinct : (es.map Prod.fst).Nodup) : o.setAll es = o.setAll ds := by
  refine perm.foldl_eq' (fun e he d hd p => ?_) o
  by_cases same : e.1 = d.1
  · rw [List.inj_on_of_nodup_map distinct he hd same]
  · exact set_comm p same

theorem packedKeys_pack (o : Options) :
    packedKeys o.pack = o.settings.entries.map Prod.fst := by
  by_cases none : o.settings.entries = []
  · simp [packedKeys, toList_pack, none, joined, pieces, keyOfPiece?, splitPair?]
  · have named : ∀ e ∈ o.settings.entries, (keyOfPiece? ∘ packPair) e = some e.1 := by
      intro e he
      rw [Function.comp_apply, keyOfPiece?, splitPair?_packPair (o.packable e he).1,
        Option.map_some, String.ofList_toList]
    rw [packedKeys, pieces_pack none, List.filterMap_map, List.filterMap_congr named,
      List.filterMap_eq_map']

theorem pack_eq_iff {o p : Options} : o.pack = p.pack ↔ o = p := by
  constructor
  · intro same
    have read : parse p.pack = .ok o := same ▸ parse_packed o
    rw [parse_packed] at read
    exact (Except.ok.inj read).symm
  · exact congrArg pack

/-- The packed text of options that were set in any way, with refused settings in between, from the
empty set, from a text that could be read, or from any others. -/
theorem pack_canonical (start : Options) (es : List (String × Setting)) :
    parse (start.setAll es).pack = .ok (start.setAll es) ∧
      packedKeys (start.setAll es).pack = (start.setAll es).settings.entries.map Prod.fst ∧
      (packedKeys (start.setAll es).pack).Pairwise (· < ·) ∧
      (∀ p : Options, (start.setAll es).pack = p.pack ↔ start.setAll es = p) ∧
      ∀ ds : List (String × Setting), es.Perm ds → (es.map Prod.fst).Nodup →
        (start.setAll ds).pack = (start.setAll es).pack := by
  refine ⟨parse_packed _, packedKeys_pack _, ?_, fun p => pack_eq_iff, fun ds perm distinct => ?_⟩
  · rw [packedKeys_pack]
    exact (start.setAll es).settings.sorted.map Prod.fst fun _ _ below => below
  · rw [setAll_perm start perm distinct]

/-- Settings of a game. The second one would be read back as a number with a flag: it is refused. -/
def specimen : List (String × Setting) :=
  [("SC", .text ""), ("N7", .text "t7"), ("RD", .flaggedNumber true 7), ("PL", .number (-4))]

theorem specimen_packs_alike :
    (empty.setAll specimen).pack = "PL=-4,RD=t7,SC=" ∧
      parse "PL=-4,RD=t7,SC=" = .ok (empty.setAll specimen) ∧
      (empty.setAll specimen.reverse).pack = "PL=-4,RD=t7,SC=" := by
  have packed : (empty.setAll specimen).pack = "PL=-4,RD=t7,SC=" := by decide +kernel
  obtain ⟨read, -, -, -, order⟩ := pack_canonical empty specimen
  have reversed := order specimen.reverse (List.reverse_perm _).symm (by decide)
  exact ⟨packed, packed ▸ read, reversed.trans packed⟩

end SavedGames.Options
