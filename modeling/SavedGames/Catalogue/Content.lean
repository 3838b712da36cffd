import SavedGames.Catalogue

/-! A catalogue as the content of a file: a byte that begins no text, and then the rows as a JSON
text. -/
namespace SavedGames

namespace Cell

def json : Cell → Json
  | integer n => .int n
  | real negative x =>
    .obj [("negative", .bool negative), ("significand", .natural x.significand),
      ("exponent", .int x.exponent)]
  | text s => .str s

def readReal : Json.Reader Cell :=
  Json.record "real"
    (.cons (.required "negative" .bool) <|
      .cons (.required "significand" .uint64) <|
      .cons (.required "exponent" .int32) .nil)
    fun (negative, significand, exponent, ()) =>
      real negative ⟨significand.toNat, exponent.toInt⟩

def read : Json.Reader Cell := fun room node =>
  match node with
  | .str (some s) => .ok (text s)
  | .obj .. => readReal room node
  | _ => (Json.Reader.within (-0x8000000000000000) 0x8000000000000000 .int32 room node).map integer

end Cell

namespace SavedRow

def json (r : SavedRow) : Json :=
  .obj [("rowid", .natural r.rowid), ("id", .str r.id), ("game_name", .str r.name),
    ("model_version", r.version.json), ("game_state", r.phase.json), ("saved_at", r.savedAt.json),
    ("model_json", .str r.text)]

def read : Json.Reader SavedRow :=
  Json.record "saved_game"
    (.cons (.required "rowid" .uint64) <|
      .cons (.required "id" .text) <|
      .cons (.required "game_name" .text) <|
      .cons (.required "model_version" Cell.read) <|
      .cons (.required "game_state" Cell.read) <|
      .cons (.required "saved_at" Cell.read) <|
      .cons (.required "model_json" .text) .nil)
    fun (rowid, id, name, version, phase, savedAt, text, ()) =>
      ⟨rowid.toNat, id, name, version, phase, savedAt, text⟩

end SavedRow

namespace Catalogue

/-- No text has this byte. -/
def mark : UInt8 := 0xFF

def text (c : Catalogue) : String := (Json.arr (c.rows.map SavedRow.json)).compactText

def content (c : Catalogue) : ByteArray := ⟨#[mark]⟩ ++ c.text.toUTF8

/-- A file of one byte, or of none, holds no catalogue yet. -/
def isBlank (bytes : ByteArray) : Bool := bytes.size ≤ 1

def ofContent (bytes : ByteArray) : Except CatalogueFault Catalogue :=
  match bytes.data[0]?, String.fromUTF8? (bytes.extract 1 bytes.size) with
  | some first, some text =>
    match first == mark, Json.decode (Json.Reader.list SavedRow.read) text with
    | true, .ok rows => .ok ⟨rows⟩
    | _, _ => .error .notCatalogue
  | _, _ => .error .notCatalogue

end Catalogue
end SavedGames
