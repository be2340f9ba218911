import TerrainTiles.Fault

/-!
# Outcomes

How an attempt to fetch or to decode ended: with a value, with the news that
there is nothing to get, with a failure that may pass, or with one that will
not. All but success carry a message and may carry the fault behind it.
-/

namespace TerrainTiles

inductive Outcome (α : Type) where
  | success (value : α)
  | absent (message : String) (cause : Option Fault := none)
  | recoverable (message : String) (cause : Option Fault := none)
  | fatal (message : String) (cause : Option Fault := none)

namespace Outcome

variable {α : Type}

def status : Outcome α → String
  | success _ => "success"
  | absent .. => "absent"
  | recoverable .. => "recoverable"
  | fatal .. => "fatal"

def isSuccess : Outcome α → Bool
  | success _ => true
  | _ => false

def message : Outcome α → String
  | success _ => ""
  | absent message _ | recoverable message _ | fatal message _ => message

def cause : Outcome α → Option Fault
  | success _ => none
  | absent _ cause | recoverable _ cause | fatal _ cause => cause

def value? : Outcome α → Option α
  | success value => some value
  | _ => none

end Outcome

end TerrainTiles
