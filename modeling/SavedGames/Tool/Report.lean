import SavedGames.Config.Load

/-! What the tool says when a command fails. -/
namespace SavedGames.Tool

/-- Why a command failed, and what lay behind it. -/
structure Report where
  message : String
  causes : List String := []
  deriving DecidableEq, Repr

namespace Report

def indented (first rest : String) (text : String) : String :=
  first ++ String.intercalate ("\n" ++ rest) (text.splitOn "\n")

def numbered : Nat → List String → List String
  | _, [] => []
  | i, cause :: causes =>
    indented (String.ofList (List.replicate (5 - (Decimal.digits i).length) ' ' ++ Decimal.digits i)
      ++ ": ") "       " cause :: numbered (i + 1) causes

/-- The causes stand below the message. Several of them are numbered. -/
def text (r : Report) : String :=
  let head := "Error: " ++ r.message ++ "\n"
  match r.causes with
  | [] => head
  | [cause] => head ++ "\nCaused by:\n" ++ indented "    " "    " cause ++ "\n"
  | causes => head ++ "\nCaused by:\n" ++ String.intercalate "\n" (numbered 0 causes) ++ "\n"

def ofSaveError (e : SaveError) : Report :=
  match e with
  | .serialization fault => ⟨e.message, [faultText fault]⟩
  | .file fault => ⟨e.message, [fault.message]⟩
  | .catalogue fault => ⟨e.message, fault.message :: fault.origin?.toList⟩
  | _ => ⟨e.message, []⟩

/-- The same failure, seen from further away. -/
def within (context : String) (r : Report) : Report := ⟨context, r.message :: r.causes⟩

def ofConfigFault (path : String) : Config.Fault → Report
  | .unreadable fault => ⟨"Cannot read " ++ path ++ ": " ++ fault.message, []⟩
  | .notConfig fault => ⟨"Cannot parse " ++ path ++ ": " ++ faultText fault, []⟩
  | .noPlayers => ⟨path ++ ": demo_players must be at least 1", []⟩

end Report

end SavedGames.Tool
