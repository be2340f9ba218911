import TerrainTiles.Fault.Kind
import TerrainTiles.Text.Quoted

/-!
# Reported faults

A fault that comes from outside, from a transport or from another component, is
a kind with details. A fault of the operating system with a number and a text
is written with both; otherwise one detail stands for itself and several are
written as a tuple.
-/

namespace TerrainTiles

inductive Detail where
  | number (n : Int)
  | text (s : String)
  deriving DecidableEq, Repr

namespace Detail

def plain : Detail → String
  | number n => toString n
  | text s => s

def shown : Detail → String
  | number n => toString n
  | text s => Text.quoted s

end Detail

structure Report where
  kind : Kind
  details : List Detail := []
  deriving DecidableEq, Repr

namespace Report

/-- A bare fault of the operating system is of the kind its number stands for. -/
def classify (report : Report) : Report :=
  match report.kind, report.details with
  | .os, .number n :: _ :: _ => { report with kind := Kind.ofErrorNumber n }
  | _, _ => report

/-- The error number, which a fault has only together with a text. -/
def number? (report : Report) : Option Int :=
  match report.details with
  | .number n :: _ :: _ => if report.kind.isOS then some n else none
  | _ => none

def tuple (details : List Detail) : String :=
  "(" ++ ", ".intercalate (details.map Detail.shown) ++ ")"

def message (report : Report) : String :=
  match report.details with
  | [] => ""
  | [detail] => if report.kind = .key then detail.shown else detail.plain
  | [number, text] =>
    if report.kind.isOS then s!"[Errno {number.plain}] {text.plain}" else tuple report.details
  | [number, text, file] =>
    if report.kind.isOS then s!"[Errno {number.plain}] {text.plain}: {file.shown}"
    else tuple report.details
  | details => tuple details

end Report

end TerrainTiles
