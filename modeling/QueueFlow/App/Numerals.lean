import Mathlib.Algebra.Group.Nat.Defs
import Mathlib.Data.List.Basic

/-!
# Numerals

`str.isdigit`, `int` on a text of digits and the format of an integer, as in CPython 3.11: the
characters are those of Unicode 14, and a conversion of more than 4300 digits is a ValueError.
-/

namespace QueueFlow.App

/-- Where the runs of decimal digits begin, and how long they are. -/
def decimalRuns : List (Nat × Nat) :=
  [(0x30, 10), (0x660, 10), (0x6f0, 10), (0x7c0, 10), (0x966, 10), (0x9e6, 10), (0xa66, 10),
    (0xae6, 10), (0xb66, 10), (0xbe6, 10), (0xc66, 10), (0xce6, 10), (0xd66, 10), (0xde6, 10),
    (0xe50, 10), (0xed0, 10), (0xf20, 10), (0x1040, 10), (0x1090, 10), (0x17e0, 10), (0x1810, 10),
    (0x1946, 10), (0x19d0, 10), (0x1a80, 10), (0x1a90, 10), (0x1b50, 10), (0x1bb0, 10),
    (0x1c40, 10), (0x1c50, 10), (0xa620, 10), (0xa8d0, 10), (0xa900, 10), (0xa9d0, 10),
    (0xa9f0, 10), (0xaa50, 10), (0xabf0, 10), (0xff10, 10), (0x104a0, 10), (0x10d30, 10),
    (0x11066, 10), (0x110f0, 10), (0x11136, 10), (0x111d0, 10), (0x112f0, 10), (0x11450, 10),
    (0x114d0, 10), (0x11650, 10), (0x116c0, 10), (0x11730, 10), (0x118e0, 10), (0x11950, 10),
    (0x11c50, 10), (0x11d50, 10), (0x11da0, 10), (0x16a60, 10), (0x16ac0, 10), (0x16b50, 10),
    (0x1d7ce, 50), (0x1e140, 10), (0x1e2f0, 10), (0x1e950, 10), (0x1fbf0, 10)]

def digitRuns : List (Nat × Nat) :=
  [(0xb2, 2), (0xb9, 1), (0x1369, 9), (0x19da, 1), (0x2070, 1), (0x2074, 6), (0x2080, 10),
    (0x2460, 9), (0x2474, 9), (0x2488, 9), (0x24ea, 1), (0x24f5, 9), (0x24ff, 1), (0x2776, 9),
    (0x2780, 9), (0x278a, 9), (0x10a40, 4), (0x10e60, 9), (0x11052, 9), (0x1f100, 11)]

def runOf (runs : List (Nat × Nat)) (char : Char) : Option (Nat × Nat) :=
  runs.find? fun run => run.1 ≤ char.toNat && char.toNat < run.1 + run.2

def decimal (char : Char) : Option Nat :=
  (runOf decimalRuns char).map fun run => (char.toNat - run.1) % 10

def isDigit (text : String) : Bool :=
  text ≠ "" && text.toList.all fun char => (decimal char).isSome || (runOf digitRuns char).isSome

@[irreducible] def maxStrDigits : Nat := 4300

def valueOf (digits : List Nat) : Nat := digits.foldl (fun value digit => 10 * value + digit) 0

/-- `int(text)` for a text of digits; `none` stands for the ValueError. -/
def parseInt (text : String) : Option Nat :=
  match text.toList.mapM decimal with
  | none => none
  | some digits => if digits.length ≤ maxStrDigits then some (valueOf digits) else none

/-- `str(value)`; `none` stands for the ValueError. -/
def formatInt (value : Nat) : Option String :=
  if value < 10 ^ maxStrDigits then some (toString value) else none

end QueueFlow.App
